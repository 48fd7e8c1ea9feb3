import RollCall.Proofs.InMemory
import RollCall.Proofs.Runs

/-!
# Heights are saved in order

Progress is kept twice, in the ledger and in the loop. Both tell the same in every state between
rounds: heights are saved one after the other, each by a pass that came to its end and below the head
that was told last. Counting stops at `2 ^ 53`, so heads beyond that are left out.
-/

set_option autoImplicit false

namespace RollCall

open Call

/-!
## What notes tell of progress
-/

namespace Trace

/-- The heights saved under a name, in order. -/
def saved (trace : Trace) (id : String) : List Height :=
  trace.filterMap fun
    | .recorded (.saveProgress name height) true => if name = id then some height else none
    | _ => none

/-- The last height saved under a name, or what was saved before. -/
def persisted (trace : Trace) (id : String) (initial : Option Height) : Option Height :=
  (trace.saved id).getLast?.or initial

/-- Something holds of every note and what was noted before it. -/
def Everywhere (trace : Trace) (P : Trace → Note → Prop) : Prop :=
  ∀ before note after, trace = before ++ note :: after → P before note

theorem everywhere_of_forall {trace : Trace} {P : Trace → Note → Prop}
    (each : ∀ note ∈ trace, ∀ before, P before note) : trace.Everywhere P :=
  fun before note _ split => each note (by simp [split]) before

theorem everywhere_of_take {trace : Trace} {P : Trace → Note → Prop}
    (each : ∀ place : Fin trace.length, P (trace.take place) (trace.get place)) :
    trace.Everywhere P := by
  rintro before note after rfl
  simpa using each ⟨before.length, by simp⟩

theorem Everywhere.append {trace more : Trace} {P : Trace → Note → Prop}
    (first : trace.Everywhere P)
    (second : more.Everywhere fun before note => P (trace ++ before) note) :
    Trace.Everywhere (trace ++ more) P := by
  intro before note after split
  rcases List.append_eq_append_iff.mp split with ⟨middle, rfl, inside⟩ | ⟨middle, rfl, inside⟩
  · exact second middle note after inside
  · cases middle with
    | nil =>
        have here := second [] note after (by simpa using inside.symm)
        simpa using here
    | cons other rest =>
        cases inside
        exact first before note rest rfl

theorem everywhere_singleton {note : Note} {P : Trace → Note → Prop} (here : P [] note) :
    Trace.Everywhere [note] P := by
  intro before other after split
  rcases List.cons_eq_append_iff.mp split with ⟨rfl, same⟩ | ⟨_, _, impossible⟩
  · cases same
    exact here
  · simp at impossible

theorem saved_append (trace more : Trace) (id : String) :
    Trace.saved (trace ++ more) id = trace.saved id ++ more.saved id :=
  List.filterMap_append

theorem saved_of_unsaved {trace : Trace} (unsaved : ∀ note ∈ trace, ¬ note.IsSave) (id : String) :
    trace.saved id = [] := by
  refine List.filterMap_eq_nil_iff.mpr fun note member => ?_
  split
  · exact (unsaved _ member trivial).elim
  · rfl

theorem mem_saved {trace : Trace} {id : String} {height : Height} :
    height ∈ trace.saved id ↔ .recorded (.saveProgress id height) true ∈ trace := by
  constructor
  · intro member
    obtain ⟨note, noted, same⟩ := List.mem_filterMap.mp member
    split at same
    · split at same
      · next named =>
        cases Option.some_inj.mp same
        exact named ▸ noted
      · cases same
    · cases same
  · intro noted
    exact List.mem_filterMap.mpr ⟨_, noted, if_pos rfl⟩

theorem progress_replay_of_unsaved {trace : Trace} (unsaved : ∀ note ∈ trace, ¬ note.IsSave)
    (tables : Ledger.Tables) (id : String) :
    (tables.replay trace.operations).progressOf? id = tables.progressOf? id := by
  have each : ∀ operation ∈ trace.operations, ¬ operation.IsSave := fun operation member =>
    unsaved _ (mem_operations member)
  generalize trace.operations = operations at each
  induction operations generalizing tables with
  | nil => rfl
  | cons operation rest ih =>
      rw [Ledger.Tables.replay_cons, ih _ fun other member => each other (List.mem_cons_of_mem _ member)]
      have other := each operation List.mem_cons_self
      cases operation <;> first | rfl | exact (other trivial).elim

end Trace

/-- A height is saved only after its block is fetched, each event of the block is dispatched once,
in order, and its votes are brought up to date. -/
def SavedByPass (options : FollowOptions) (before : Trace) (note : Note) : Prop :=
  ∀ height, note = .recorded (.saveProgress options.progressId height) true →
    ∃ (earlier pass : Trace) (results : Chain.BlockResults),
      before = earlier ++ .answered (.blockResults height) results :: pass ∧
      pass.dispatches = ((results.events options.withBlockEvents).zipIdx).map
        (fun (event, place) => (event.type, height, .ofNat place, event)) ∧
      .reconciled height ∈ pass

theorem savedByPass_of_unsaved {trace : Trace} {options : FollowOptions} {earlier : Trace → Trace}
    (unsaved : ∀ note ∈ trace, ¬ note.IsSave) :
    trace.Everywhere fun before note => SavedByPass options (earlier before) note := by
  refine Trace.everywhere_of_forall fun note member before height save => ?_
  cases save
  exact (unsaved _ member trivial).elim

/-- The height that a note is about: one whose block or commit is asked for, or that is to be
saved. -/
def Note.about? : Note → Option Height
  | .asked (.blockResults height) => some height
  | .asked (.commit height) => some height
  | .recorded (.saveProgress _ height) _ => some height
  | _ => none

theorem Note.about_of_pass {options : FollowOptions} {height other : Height} {note : Note}
    (ofPass : note.IsOfPass options height) (about : note.about? = some other) : other = height := by
  cases note with
  | asked question =>
      rcases ofPass with rfl | voting
      · exact (Option.some_inj.mp about).symm
      · cases question with
        | commit asked => exact (Option.some_inj.mp about).symm.trans voting
        | blockResults asked => exact voting.elim
        | _ => cases about
  | recorded operation succeeded =>
      cases operation with
      | saveProgress id saved =>
          rcases ofPass with handlers | lookup | casting | same
          · exact handlers.elim
          · exact lookup.elim
          · exact casting.elim
          · cases same
            exact (Option.some_inj.mp about).symm
      | _ => cases about
  | _ => cases about

/-- Whatever is about a height comes after a head above it, which no other head has followed. -/
def BelowHead (before : Trace) (note : Note) : Prop :=
  ∀ height, note.about? = some height →
    ∃ head, before.reported? = some head ∧ height.below head

namespace Loop

variable {others : Collaborators} (discreet : others.Discreet)
  {tables : others.Store → Ledger.Tables} (kept : others.books.KeptIn tables)
  {options : FollowOptions}

/-- Between passes nothing happens to the progress under a name, and no height is dealt with. -/
def Pausing (tables : others.Store → Ledger.Tables) (options : FollowOptions)
    (world : World others) (trace : Trace) (final : World others) : Prop :=
  (tables final.store).progressOf? options.progressId =
      (tables world.store).progressOf? options.progressId ∧
    ∀ note ∈ trace, note.about? = none

theorem pausing_of_idle {world final : World others} {trace : Trace}
    (idle : Idle tables options world trace final) : Pausing tables options world trace final := by
  refine ⟨by rw [idle.1], fun note member => ?_⟩
  have still := idle.2 note member
  cases note with
  | asked question =>
      cases still
      rfl
  | recorded operation =>
      cases still
      rfl
  | _ => rfl

include discreet kept in
theorem between_pausing : Between options (Pausing tables options) := by
  refine (between_idle discreet kept).mono ⟨fun _ => ⟨rfl, by simp⟩, fun first second => ?_⟩
    pausing_of_idle
  exact ⟨second.1.trans first.1, List.forall_mem_append.mpr ⟨first.2, second.2⟩⟩

include discreet kept in
/-- A pass that ends well saves its height and nothing else, and one that does not saves nothing. -/
theorem process_saving {height : Height} {world final : World others} {result : Except Fault Unit}
    {trace : Trace} (ending : (process options height).Ends world result trace final) :
    ((∃ fault, result = .error fault) ∧ (∀ note ∈ trace, ¬ note.IsSave) ∧
      (tables final.store).progressOf? options.progressId =
        (tables world.store).progressOf? options.progressId) ∨
    result = .ok () ∧ trace.saved options.progressId = [height] ∧
      (tables final.store).progressOf? options.progressId = some (Number.max
        (((tables world.store).progressOf? options.progressId).getD 0) height) ∧
      ∀ earlier, trace.Everywhere fun before note => SavedByPass options (earlier ++ before) note := by
  have replays := process_replays discreet kept ending
  obtain ⟨failed, unsaved⟩ | ⟨rfl, saving⟩ := process_saves discreet kept ending
  · refine .inl ⟨failed, unsaved, ?_⟩
    rw [replays, Trace.progress_replay_of_unsaved unsaved]
  obtain ⟨asking, pass, logging, results, rfl, dispatches, reconciled, unsaved, unsaved', unsaved''⟩ :=
    saving.split discreet kept
  obtain ⟨fetching, split⟩ : ∃ fetching : Trace,
      fetching = asking ++ .answered (.blockResults height) results :: pass := ⟨_, rfl⟩
  have fetched : ∀ note ∈ fetching, ¬ note.IsSave := by
    rw [split, List.forall_mem_append, List.forall_mem_cons]
    exact ⟨unsaved, id, unsaved'⟩
  have parts : asking ++ .answered (.blockResults height) results ::
      (pass ++ .recorded (.saveProgress options.progressId height) true :: logging) =
      fetching ++ ([.recorded (.saveProgress options.progressId height) true] ++ logging) := by
    simp [split]
  rw [parts] at replays ⊢
  refine .inr ⟨rfl, ?_, ?_, fun earlier => ?_⟩
  · rw [Trace.saved_append, Trace.saved_of_unsaved fetched, Trace.saved_append,
      Trace.saved_of_unsaved unsaved'']
    simp [Trace.saved]
  · rw [replays, Trace.operations_append, Trace.operations_append, Ledger.Tables.replay_append,
      Ledger.Tables.replay_append, Trace.progress_replay_of_unsaved unsaved'']
    change Ledger.Tables.progressOf? (Ledger.Tables.advance _ _ _) _ = _
    rw [Ledger.Tables.progressOf?_advance, if_pos rfl, Trace.progress_replay_of_unsaved fetched]
  · refine Trace.Everywhere.append (savedByPass_of_unsaved fetched) ?_
    refine (Trace.everywhere_singleton ?_).append (savedByPass_of_unsaved unsaved'')
    intro saved same
    cases same
    exact ⟨earlier ++ asking, pass, results, by simp [split], dispatches, reconciled⟩

/-!
## The invariant
-/

/-- Where the loop starts if `initial` was the last height done. -/
def origin (first : Nat) (initial : Option Nat) : Nat :=
  initial.elim first (· + 1)

/-- The last height done after `count` heights from `origin` on. -/
def lastDone (first : Nat) (initial : Option Nat) : Nat → Option Height
  | 0 => initial.map .ofNat
  | count + 1 => some (.ofNat (origin first initial + count))

/-- So many heights from the origin on are saved, and the loop is in front of the next. -/
structure SavedInOrder (tables : others.Store → Ledger.Tables) (options : FollowOptions)
    (first : Nat) (initial : Option Nat) (count : Nat) (trace : Trace) (world : World others)
    (height : Height) : Prop where
  saved : trace.saved options.progressId = (List.range' (origin first initial) count).map .ofNat
  progress : (tables world.store).progressOf? options.progressId = lastDone first initial count
  next : height = firstUndone options (lastDone first initial count)
  byPasses : trace.Everywhere (SavedByPass options)
  belowHeads : trace.Everywhere BelowHead

/-- A height below a head that counting reaches is the one that the count says. -/
theorem position_of_below {first : Nat} {initial : Option Nat} {count : Nat} {head : Height}
    (starts : options.startHeight = .ofNat first)
    (counted : ¬ (Number.ofNat (Number.safeBound + 1)).below head)
    (below : (firstUndone options (lastDone first initial count)).below head) :
    firstUndone options (lastDone first initial count) =
        .ofNat (origin first initial + count) ∧
      origin first initial + count ≤ Number.safeBound := by
  have bounded := Number.below_of_below_of_not_below below counted
  have successor : ∀ {last : Nat}, (Number.ofNat last + 1).below (.ofNat (Number.safeBound + 1)) →
      Number.ofNat last + 1 = .ofNat (last + 1) ∧ last + 1 ≤ Number.safeBound := by
    intro last below
    have less := Number.lt_of_add_one_below le_rfl below
    exact ⟨Number.add_one_of_safe (by omega), by omega⟩
  cases count with
  | succ count => exact successor bounded
  | zero =>
      cases initial with
      | some last => exact successor bounded
      | none =>
          have start : firstUndone options (lastDone first none 0) = .ofNat first := starts
          rw [start, Number.below_ofNat] at bounded
          exact ⟨start, Nat.lt_succ_iff.mp bounded⟩

/-- What is done next is no less than what was done last. -/
theorem max_lastDone (first : Nat) (initial : Option Nat) (count : Nat) :
    Number.max ((lastDone first initial count).getD 0) (.ofNat (origin first initial + count)) =
      .ofNat (origin first initial + count) := by
  cases count with
  | succ count =>
      change Number.max (.ofNat _) _ = _
      rw [Number.max_ofNat, Nat.max_eq_right (by omega)]
  | zero =>
      cases initial with
      | some last =>
          change Number.max (.ofNat _) (.ofNat (last + 1 + 0)) = _
          rw [Number.max_ofNat, Nat.max_eq_right (by omega)]
          rfl
      | none =>
          change Number.max (.ofNat 0) _ = _
          rw [Number.max_ofNat, Nat.max_eq_right (by omega)]

section Kept

variable {first : Nat} {initial : Option Nat} {count : Nat} {trace more : Trace}
  {world final : World others} {height : Height}

theorem SavedInOrder.unsaved
    (holds : SavedInOrder tables options first initial count trace world height)
    (unsaved : ∀ note ∈ more, ¬ note.IsSave)
    (same : (tables final.store).progressOf? options.progressId =
      (tables world.store).progressOf? options.progressId)
    (under : Trace.Everywhere (trace ++ more) BelowHead) :
    SavedInOrder tables options first initial count (trace ++ more) final height := by
  constructor
  case saved =>
    rw [Trace.saved_append, Trace.saved_of_unsaved unsaved, List.append_nil]
    exact holds.saved
  case progress => exact same.trans holds.progress
  case next => exact holds.next
  case byPasses => exact holds.byPasses.append (savedByPass_of_unsaved unsaved)
  case belowHeads => exact under

theorem SavedInOrder.idle (holds : SavedInOrder tables options first initial count trace world height)
    (pausing : Pausing tables options world more final) :
    SavedInOrder tables options first initial count (trace ++ more) final height := by
  obtain ⟨same, still⟩ := pausing
  have unsaved : ∀ note ∈ more, ¬ note.IsSave := by
    intro note member save
    cases note with
    | recorded operation succeeded =>
        cases operation <;> cases succeeded <;> first | exact save | cases still _ member
    | _ => exact save
  refine holds.unsaved unsaved same (holds.belowHeads.append
    (Trace.everywhere_of_forall fun note member before height about => ?_))
  rw [still note member] at about
  cases about

variable (starts : options.startHeight = .ofNat first) {head : Height}
  (told : trace.reported? = some head) (below : height.below head)

include discreet kept told below

/-- A pass deals with its height only, under the head that was told before. -/
theorem SavedInOrder.belowHeads_process {result : Except Fault Unit}
    (holds : SavedInOrder tables options first initial count trace world height)
    (ending : (process options height).Ends world result more final) :
    Trace.Everywhere (trace ++ more) BelowHead := by
  refine holds.belowHeads.append ?_
  have notes := process_notes discreet kept ending
  rintro before note after rfl other about
  refine ⟨head, ?_, Note.about_of_pass (notes note (by simp)) about ▸ below⟩
  rw [Trace.reported?_append_of_none, told]
  intro status member
  rcases notes _ (List.mem_append_left _ member) with impossible | impossible
  · cases impossible
  · exact impossible

theorem SavedInOrder.failure {fault : Fault}
    (holds : SavedInOrder tables options first initial count trace world height)
    (ending : (process options height).Ends world (.error fault) more final) :
    SavedInOrder tables options first initial count (trace ++ more) final height := by
  obtain ⟨_, unsaved, same⟩ | ⟨impossible, _⟩ := process_saving discreet kept ending
  · exact holds.unsaved unsaved same (holds.belowHeads_process discreet kept told below ending)
  · cases impossible

include starts

theorem SavedInOrder.pass (counted : ¬ (Number.ofNat (Number.safeBound + 1)).below head)
    (holds : SavedInOrder tables options first initial count trace world height)
    (ending : (process options height).Ends world (.ok ()) more final) :
    SavedInOrder tables options first initial (count + 1) (trace ++ more) final (height + 1) := by
  obtain ⟨position, safe⟩ := position_of_below starts counted (holds.next ▸ below)
  rw [← holds.next] at position
  obtain ⟨⟨_, impossible⟩, _⟩ | ⟨_, saved, advanced, byPass⟩ := process_saving discreet kept ending
  · cases impossible
  constructor
  case saved =>
    rw [Trace.saved_append, holds.saved, saved, List.range'_1_concat, List.map_append, position]
    rfl
  case progress =>
    rw [advanced, holds.progress, position, max_lastDone]
    rfl
  case next => rw [position]; rfl
  case byPasses => exact holds.byPasses.append (byPass trace)
  case belowHeads => exact holds.belowHeads_process discreet kept told below ending

end Kept

end Loop

/-- A head that a note tells is one that counting reaches. -/
def Note.InReach (note : Note) : Prop :=
  ∀ status, note = .answered .status status →
    ¬ (Number.ofNat (Number.safeBound + 1)).below status.latest

namespace Trace

theorem head_inReach {trace more : Trace} {head : Height} (told : trace.reported? = some head)
    (inReach : ∀ note ∈ trace ++ more, note.InReach) :
    ¬ (Number.ofNat (Number.safeBound + 1)).below head := by
  obtain ⟨status, noted, rfl⟩ := mem_heads.mp (List.mem_of_getLast? told)
  exact inReach _ (List.mem_append_left _ noted) status rfl

end Trace

namespace Loop

variable {others : Collaborators} (discreet : others.Discreet)
  {tables : others.Store → Ledger.Tables} (kept : others.books.KeptIn tables)
  {options : FollowOptions} {first : Nat} {initial : Option Nat}

include discreet kept in
theorem invariant_savedInOrder (starts : options.startHeight = .ofNat first) :
    Invariant options (Pausing tables options) Note.InReach (fun _ => True)
      (fun trace world height =>
        ∃ count, SavedInOrder tables options first initial count trace world height) where
  between := between_pausing discreet kept
  resumes := by
    rintro trace more world final height last ⟨count, holds⟩ read
    obtain ⟨_, _, ⟨same, _⟩ | ⟨⟨_, impossible⟩, _⟩⟩ := World.record_ends discreet kept read
    · cases same
      rw [holds.next, ← holds.progress]
      rfl
    · cases impossible
  idle := by
    rintro trace more world final height ⟨count, holds⟩ pausing _
    exact ⟨count, holds.idle pausing⟩
  pass := by
    rintro trace more world final height head ⟨count, holds⟩ told below ending inReach
    exact ⟨count + 1,
      holds.pass discreet kept starts told below (Trace.head_inReach told inReach) ending⟩
  failure := by
    rintro trace more world final height head fault ⟨count, holds⟩ told below ending _
    exact ⟨⟨count, holds.failure discreet kept told below ending⟩, trivial⟩

/-!
## Progress in every run
-/

/-- Progress is safe in what came of a run: it only grows, height by height without a gap, the loop is
in front of the height after it, and only passes that came to their end make it grow. -/
structure ProgressSafe (tables : others.Store → Ledger.Tables) (options : FollowOptions)
    (first : Nat) (initial : Option Nat) (trace : Trace) (world : World others) (loop : Loop) :
    Prop where
  stored : (tables world.store).progressOf? options.progressId =
    trace.persisted options.progressId (initial.map .ofNat)
  growing : ∀ before after last, trace = before ++ after →
    before.persisted options.progressId (initial.map .ofNat) = some last →
    ∃ reached, trace.persisted options.progressId (initial.map .ofNat) = some reached ∧
      last.atMost reached
  consecutive : ∃ count, trace.saved options.progressId =
    (List.range' (origin first initial) count).map .ofNat
  next : ∀ height, loop.next = some height →
    height = firstUndone options ((tables world.store).progressOf? options.progressId)
  resumed : ∀ {height point loop' more final}, loop.next = some height →
    (({} : Loop).resume options).Ends world.reconnected (.ok (.ok point, loop')) more final →
    point = height
  byPasses : trace.Everywhere (SavedByPass options)
  belowHeads : trace.Everywhere BelowHead

theorem persisted_of_saved {trace : Trace} {id : String} {count : Nat}
    (saved : trace.saved id = (List.range' (origin first initial) count).map .ofNat) :
    trace.persisted id (initial.map .ofNat) = lastDone first initial count := by
  rw [Trace.persisted, saved]
  cases count with
  | zero => rfl
  | succ count => rw [List.range'_1_concat, List.map_append, List.map_singleton, List.getLast?_concat]; rfl

theorem lastDone_grows {earlier later : Nat} (before : earlier ≤ later) {last : Height}
    (reached : lastDone first initial earlier = some last) :
    ∃ now, lastDone first initial later = some now ∧ last.atMost now := by
  cases later with
  | zero =>
      obtain rfl := Nat.le_zero.mp before
      cases initial with
      | none => cases reached
      | some done =>
          cases reached
          exact ⟨_, rfl, Number.atMost_ofNat.mpr le_rfl⟩
  | succ later =>
      refine ⟨_, rfl, ?_⟩
      cases earlier with
      | zero =>
          cases initial with
          | none => cases reached
          | some done =>
              cases reached
              exact Number.atMost_ofNat.mpr (by simp only [origin, Option.elim_some]; omega)
      | succ earlier =>
          cases reached
          exact Number.atMost_ofNat.mpr (by omega)

include discreet kept in
/-- Progress is safe in every run in which no one else writes it and heads stay where numbers count
exactly, whatever the node answers and whatever fails. -/
theorem Run.progress_safe (starts : options.startHeight = .ofNat first)
    {outside : World others → World others → Prop} {start : World others}
    (begins : (tables start.store).progressOf? options.progressId = initial.map .ofNat)
    (undisturbed : ∀ world world', outside world world' →
      (tables world'.store).progressOf? options.progressId =
        (tables world.store).progressOf? options.progressId)
    {trace : Trace} {world : World others} {loop : Loop}
    (run : Run options outside start trace world loop)
    (inReach : ∀ head ∈ trace.heads, ¬ (Number.ofNat (Number.safeBound + 1)).below head) :
    ProgressSafe tables options first initial trace world loop := by
  have invariant : Invariant options (Pausing tables options) Note.InReach (fun _ => True)
      (fun trace world height =>
        ∃ count, SavedInOrder tables options first initial count trace world height) :=
    invariant_savedInOrder discreet kept starts
  have initially : SavedInOrder tables options first initial 0 [] start
      (firstUndone options (lastDone first initial 0)) :=
    ⟨rfl, begins, rfl, Trace.everywhere_of_forall (by simp), Trace.everywhere_of_forall (by simp)⟩
  obtain ⟨height, ⟨count, holds⟩, next⟩ := invariant.run_holds discreet kept ⟨0, initially⟩
    (fun world => ⟨rfl, by simp⟩) (fun world world' done => ⟨undisturbed world world' done, by simp⟩)
    run fun note noted status told => inReach _ (Trace.mem_heads.mpr ⟨status, told ▸ noted, rfl⟩)
  have persisted := persisted_of_saved holds.saved
  constructor
  case stored => rw [holds.progress, persisted]
  case growing =>
    rintro before after last rfl reached
    -- What was saved by then is the beginning of what is saved in the end, so it has no gap either.
    have part : before.saved options.progressId <+:
        (List.range' (origin first initial) count).map .ofNat := by
      rw [← holds.saved, Trace.saved_append]
      exact List.prefix_append ..
    have shorter : (before.saved options.progressId).length ≤ count := by
      simpa using part.length_le
    have counted : before.saved options.progressId = (List.range' (origin first initial)
        (before.saved options.progressId).length).map .ofNat := by
      rw [← List.take_range'_of_length_ge shorter, List.map_take]
      exact List.prefix_iff_eq_take.mp part
    rw [persisted_of_saved counted] at reached
    rw [persisted]
    exact lastDone_grows shorter reached
  case consecutive => exact ⟨count, holds.saved⟩
  case next =>
    intro known found
    rw [next known found, holds.next, holds.progress]
  case resumed =>
    intro known point loop' more final found resumed
    obtain ⟨inner, _, middle, reading, rest, read, returned, rfl⟩ := heed_bind_ends resumed
    cases inner with
    | error fault => cases (ends_pure.mp returned).1
    | ok undone =>
        cases (ends_pure.mp returned).1
        rcases resumePoint_reads read with ⟨_, impossible, _⟩ | ⟨last, _, _, told, same, _⟩
        · cases impossible
        · cases same
          have again : SavedInOrder tables options first initial count trace world.reconnected height :=
            ⟨holds.saved, holds.progress, holds.next, holds.byPasses, holds.belowHeads⟩
          exact (invariant.resumes ⟨count, again⟩ told).trans (next known found).symm
  case byPasses => exact holds.byPasses
  case belowHeads => exact holds.belowHeads

/-- A world in which the first fetch of a block fails, and so does the first attempt to save. -/
def flakyWorld : World Collaborators.inMemory :=
  World.inMemory { head := .ofNat 5, failures := [("fetchBlockResults", .ofNat 1)] } {}
    [("saveProgress", [.other "disk full"])]

/-- Three rounds of one loop after another in the flaky world. -/
theorem Run.progress_safe_in_flakyWorld :
    (roundsAnew (optionsFrom 3) flakyWorld 3).1.saved "follow" = [.ofNat 3, .ofNat 4] ∧
      ProgressSafe Ledger.Refusing.ledger (optionsFrom 3) 3 none
        (roundsAnew (optionsFrom 3) flakyWorld 3).1 (roundsAnew (optionsFrom 3) flakyWorld 3).2 {} := by
  have run := run_roundsAnew (optionsFrom 3) (fun _ _ => False) flakyWorld 3
  exact ⟨by decide +kernel,
    run.progress_safe Collaborators.discreet_inMemory Collaborators.keptIn_inMemory rfl
      (by decide +kernel) (fun _ _ impossible => impossible.elim) (by decide +kernel)⟩

/-- A world whose head is where numbers no longer count, and who asks to stop at the third pause. -/
def vastWorld : World Collaborators.inMemory :=
  World.inMemory { head := .ofNat 9007199254740994 }
    { progress := [("follow", .ofNat 9007199254740991)] } [] 3

/-- Where numbers no longer count a height is saved again and again. -/
theorem Run.not_progress_safe_in_vastWorld :
    Run (optionsFrom 1) (fun _ _ => False) vastWorld (roundsAnew (optionsFrom 1) vastWorld 1).1
        (roundsAnew (optionsFrom 1) vastWorld 1).2 {} ∧
      (roundsAnew (optionsFrom 1) vastWorld 1).1.saved "follow" =
        [.ofNat 9007199254740992, .ofNat 9007199254740992] ∧
      ¬ ProgressSafe Ledger.Refusing.ledger (optionsFrom 1) 1 (some 9007199254740991)
        (roundsAnew (optionsFrom 1) vastWorld 1).1 (roundsAnew (optionsFrom 1) vastWorld 1).2 {} := by
  have saved : (roundsAnew (optionsFrom 1) vastWorld 1).1.saved "follow" =
      [.ofNat 9007199254740992, .ofNat 9007199254740992] := by decide +kernel
  refine ⟨run_roundsAnew _ _ _ _, saved, fun safe => ?_⟩
  obtain ⟨count, consecutive⟩ := safe.consecutive
  have two : count = 2 := by
    have lengths := congrArg List.length (saved.symm.trans consecutive)
    simpa using lengths.symm
  subst two
  exact absurd (saved.symm.trans consecutive) (by decide +kernel)

end Loop

end RollCall
