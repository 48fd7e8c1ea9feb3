import RollCall.Proofs.Saving

/-!
# What the ledger refuses

A handler ends where the ledger refuses it something, and its event has failed. The other events of
the block are handled all the same, and the height is saved once its votes are up to date. So what
such a handler stored before stays, and what it was still to store does not come: above all there can
be a grant without its validator.
-/

set_option autoImplicit false

namespace RollCall

open Call

/-- A note tells that the ledger refused an operation. -/
def Note.IsRefusal : Note → Prop
  | .recorded _ false => True
  | _ => False

theorem Note.not_refusal_of_outside {note : Note} (outside : note.isOutside) : ¬ note.IsRefusal := by
  cases note with
  | recorded => cases outside
  | _ => exact id

namespace Trace

/-- Whatever is refused ends the handling of an event of a height: it is followed by an error in the
log and by the failure of the event. -/
def ContainsRefusals (trace : Trace) (height : Height) : Prop :=
  ∀ before operation after, trace = before ++ .recorded operation false :: after →
    ∃ line tag ordinal event rest, line.level = .error ∧
      after = .logged line :: .dispatched tag height ordinal event (some .failed) :: rest

variable {trace first second : Trace} {height : Height}

theorem containsRefusals_of_none (none : ∀ note ∈ trace, ¬ note.IsRefusal) :
    trace.ContainsRefusals height := by
  rintro before operation after rfl
  exact (none (.recorded operation false) (by simp) trivial).elim

theorem containsRefusals_of_failed {line : Log.Line} {operation : Ledger.Operation} {tag : String}
    {ordinal : Number} {event : Event} (told : line.level = .error) :
    Trace.ContainsRefusals [.recorded operation false, .logged line,
      .dispatched tag height ordinal event (some .failed)] height := by
  intro before operation' after split
  match before with
  | [] =>
      cases split
      exact ⟨line, tag, ordinal, event, [], told, rfl⟩
  | [_] => cases split
  | [_, _] => cases split
  | _ :: _ :: _ :: _ => simp at split

theorem ContainsRefusals.append (contained : first.ContainsRefusals height)
    (contained' : second.ContainsRefusals height) :
    Trace.ContainsRefusals (first ++ second) height := by
  intro before operation after split
  rcases List.append_eq_append_iff.mp split with ⟨middle, rfl, inside⟩ | ⟨middle, rfl, inside⟩
  · exact contained' middle operation after inside
  · cases middle with
    | nil => exact contained' [] operation after inside.symm
    | cons note rest =>
        cases inside
        obtain ⟨line, tag, ordinal, event, more, told, rfl⟩ := contained before operation rest rfl
        exact ⟨line, tag, ordinal, event, more ++ second, told, rfl⟩

/-- A property holds of every note and all that was noted before it, whatever was noted earlier. -/
def Always (P : Trace → Note → Prop) (trace : Trace) : Prop :=
  ∀ earlier, trace.Everywhere fun before note => P (earlier ++ before) note

theorem always_chaining {σ : Type} (P : Trace → Note → Prop) :
    Chaining fun (_ : σ) trace (_ : σ) => Trace.Always P trace where
  refl _ _ before note after split := by simp at split
  trans first second earlier := by
    refine (first earlier).append ?_
    simpa [List.append_assoc] using second (earlier ++ _)

end Trace

/-!
## Calls that stop at a refusal
-/

namespace Call

variable {σ α : Type}

/-- A call that ends in a fault where the ledger refuses something, and does nothing more. -/
def Stops (call : Call σ α) : Prop :=
  ∀ ⦃state result trace final⦄, call.Ends state result trace final →
    (∀ note ∈ trace, ¬ note.IsRefusal) ∨
      (∃ fault, result = .error fault) ∧ ∃ before operation,
        trace = before ++ [.recorded operation false] ∧ ∀ note ∈ before, ¬ note.IsRefusal

theorem stops_of_noting {call : Call σ α} (none : Keeps (Noting fun note => ¬ note.IsRefusal) call) :
    Stops call :=
  fun _ _ _ _ ending => .inl (none ending)

theorem sequential_stops : Sequential (Stops : {α : Type} → Call σ α → Prop) where
  pure value := stops_of_noting (Keeps.pure Noting.chaining value)
  fail fault := stops_of_noting (Keeps.fail Noting.chaining fault)
  bind := by
    intro α β call next first rest state result trace final ending
    rcases ends_bind.mp ending with ⟨fault, rfl, failed⟩ | ⟨_, _, done, more, succeeded, continued, rfl⟩
    · rcases first failed with none | ⟨_, before, operation, rfl, earlier⟩
      · exact .inl none
      · exact .inr ⟨⟨fault, rfl⟩, before, operation, rfl, earlier⟩
    · rcases first succeeded with none | ⟨⟨_, impossible⟩, _⟩
      · rcases rest _ continued with none' | ⟨failed, before, operation, rfl, earlier⟩
        · exact .inl (List.forall_mem_append.mpr ⟨none, none'⟩)
        · exact .inr ⟨failed, done ++ before, operation, (List.append_assoc ..).symm,
            List.forall_mem_append.mpr ⟨none, earlier⟩⟩
      · cases impossible

end Call

namespace World

variable {others : Collaborators} (discreet : others.Discreet)
  {tables : others.Store → Ledger.Tables} (kept : others.books.KeptIn tables) {height : Height}

include discreet kept

theorem parts_stops : Parts (Stops : {α : Type} → Call (World others) α → Prop) (fun _ => True)
    (fun _ => True) := by
  have parts := parts_noting discreet kept (fun note => ¬ note.IsRefusal) (fun _ => False)
    (fun _ => True) (fun _ => Note.not_refusal_of_outside) (fun _ none => none.elim)
    (fun _ _ => ⟨id, fun _ => id⟩)
  constructor
  case sequential => exact sequential_stops
  case record =>
    intro operation _ world result trace final ending
    obtain ⟨quiet, allQuiet, ⟨_, _, rfl⟩ | ⟨failed, _, rfl⟩⟩ := record_ends discreet kept ending
    · refine .inl (List.forall_mem_append.mpr ⟨?_, by simp [Note.IsRefusal]⟩)
      exact fun note member => Note.not_refusal_of_outside (allQuiet note member)
    · exact .inr ⟨failed, quiet, operation, rfl,
        fun note member => Note.not_refusal_of_outside (allQuiet note member)⟩
  case ask => exact fun question _ => stops_of_noting (parts.ask question trivial)
  case log =>
    exact fun level source message facts => stops_of_noting (parts.log level source message facts)

theorem advise_stops (request : Advice.Request) :
    Stops (advise request : Call (World others) (Option request.Answer)) := by
  have steps := steps_noting discreet kept (fun note => ¬ note.IsRefusal) (fun _ => False)
    (fun _ => True) (fun _ => Note.not_refusal_of_outside) (fun _ => id) (fun _ none => none.elim)
    (fun _ _ => ⟨id, fun _ => id⟩)
  exact stops_of_noting (advise_keeps steps (fun _ => id) request)

theorem dispatch_containsRefusals {tag : String} {event : Event} {ordinal : Number}
    {world final : World others} {outcome : Outcome} {trace : Trace}
    (ending : (dispatch tag event height ordinal).Ends world (.ok outcome) trace final) :
    trace.ContainsRefusals height := by
  obtain ⟨first, dispatched, rfl⟩ := dispatch_cases ending
  have whole : ∀ {handling : Trace} {outcome : Outcome}, (∀ note ∈ handling, ¬ note.IsRefusal) →
      Trace.ContainsRefusals (handling ++ [.dispatched tag height ordinal event outcome]) height :=
    fun none => Trace.containsRefusals_of_none
      (List.forall_mem_append.mpr ⟨none, by simp [Note.IsRefusal]⟩)
  have stops : ∀ (kind : Event.Kind) (content : kind.Content),
      Stops (handler height ordinal kind content : Call (World others) Unit) := fun kind content =>
    handler_keeps (parts_stops discreet kept) (advise_stops discreet kept) (fun _ _ => trivial) ordinal
      kind content
  cases dispatched with
  | ignored => exact whole (by simp)
  | skipped line => exact whole (by simp [Note.IsRefusal])
  | handled _ _ done =>
      rcases stops _ _ done with none | ⟨⟨_, impossible⟩, _⟩
      · exact whole none
      · cases impossible
  | failed _ _ failed _ told =>
      rcases stops _ _ failed with none | ⟨_, before, operation, rfl, earlier⟩
      · exact whole (List.forall_mem_append.mpr ⟨none, by simp [Note.IsRefusal]⟩)
      · have earlier' : Trace.ContainsRefusals before height := Trace.containsRefusals_of_none earlier
        simpa [Except.toOption] using earlier'.append (Trace.containsRefusals_of_failed told)

theorem dispatchAll_containsRefusals {events : List Event} {ordinal handled : Nat}
    {world final : World others} {trace : Trace}
    (ending : (Loop.dispatchAll height events ordinal).Ends world (.ok handled) trace final) :
    trace.ContainsRefusals height := by
  induction events generalizing ordinal handled world trace with
  | nil =>
      obtain ⟨_, rfl, _⟩ := ends_pure.mp ending
      exact Trace.containsRefusals_of_none (by simp)
  | cons event rest ih =>
      obtain ⟨impossible, _⟩ | ⟨_, counted, _, _, _, done, remaining, same, rfl⟩ :=
        dispatchAll_cons_ends ending
      · cases impossible
      cases counted with
      | error fault => cases same
      | ok counted => exact (dispatch_containsRefusals discreet kept done).append (ih remaining)

theorem reconcile_stops : Stops (reconcile height : Call (World others) Reconciliation) := by
  refine reconcile_keeps (parts_stops discreet kept) (fun _ _ => trivial) (fun _ _ => trivial)
    (fun _ _ => trivial) (stops_of_noting (Keeps.note fun _ => ?_))
  simp [Noting, Note.IsRefusal]

end World

/-!
## Saved heights
-/

/-- A height is saved only after its block is fetched, each event of the block is dispatched once, in
order, and its votes are brought up to date. Only events that failed were refused anything. -/
def SavedPastRefusals (options : FollowOptions) (before : Trace) (note : Note) : Prop :=
  ∀ height, note = .recorded (.saveProgress options.progressId height) true →
    ∃ (earlier handling voting : Trace) (results : Chain.BlockResults),
      before = earlier ++ .answered (.blockResults height) results :: (handling ++ voting) ∧
      handling.dispatches = ((results.events options.withBlockEvents).zipIdx).map
        (fun (event, place) => (event.type, height, .ofNat place, event)) ∧
      handling.ContainsRefusals height ∧ .reconciled height ∈ voting ∧
      ∀ note ∈ voting, ¬ note.IsRefusal

theorem savedPastRefusals_of_not_save {options : FollowOptions} {before : Trace} {note : Note}
    (other : ¬ note.IsSave) : SavedPastRefusals options before note := by
  rintro height rfl
  exact (other trivial).elim

theorem always_savedPastRefusals_of_unsaved {options : FollowOptions} {trace : Trace}
    (unsaved : ∀ note ∈ trace, ¬ note.IsSave) : trace.Always (SavedPastRefusals options) :=
  fun _ => Trace.everywhere_of_forall fun note member _ =>
    savedPastRefusals_of_not_save (unsaved note member)

namespace Loop

variable {others : Collaborators} (discreet : others.Discreet)
  {tables : others.Store → Ledger.Tables} (kept : others.books.KeptIn tables)
  {options : FollowOptions} {height : Height}

include discreet kept

theorem process_savedPastRefusals : Keeps
    (fun _ trace (_ : World others) => Trace.Always (SavedPastRefusals options) trace)
    (process options height) := by
  intro world result trace final ending
  obtain ⟨_, unsaved⟩ | ⟨rfl, saving⟩ := process_saves discreet kept ending
  · exact always_savedPastRefusals_of_unsaved unsaved
  cases saving with
  | @mk asking dispatching reconciling quiet logging results _ _ _ _ _ asked done came allQuiet logged =>
  obtain none | ⟨⟨_, impossible⟩, _⟩ := World.reconcile_stops discreet kept came
  swap
  · cases impossible
  obtain ⟨fetching, split⟩ : ∃ fetching : Trace, fetching = asking ++
      .answered (.blockResults height) results :: (dispatching ++ (reconciling ++ quiet)) := ⟨_, rfl⟩
  have unsaved : ∀ note ∈ fetching, ¬ note.IsSave := by
    simp only [split, List.forall_mem_append, List.forall_mem_cons]
    refine ⟨fun note member => ?_, id, dispatchAll_unsaved discreet kept _ _ done,
      reconcile_unsaved discreet kept came,
      fun note member => Note.not_save_of_outside (allQuiet note member)⟩
    rcases asked note member with outside | rfl
    · exact Note.not_save_of_outside outside
    · exact id
  intro earlier
  rw [show asking ++ .answered (.blockResults height) results :: (dispatching ++ (reconciling ++
    (quiet ++ .recorded (.saveProgress options.progressId height) true :: logging))) =
      fetching ++ [.recorded (.saveProgress options.progressId height) true] ++ logging by simp [split]]
  refine ((always_savedPastRefusals_of_unsaved unsaved earlier).append
    (Trace.everywhere_singleton ?_)).append ?_
  · intro saved same
    cases same
    refine ⟨earlier ++ asking, dispatching, reconciling ++ quiet, results, by simp [split],
      World.dispatchAll_dispatches discreet kept done,
      World.dispatchAll_containsRefusals discreet kept done, ?_, ?_⟩
    · exact List.mem_append_left _ ((World.reconcile_notes discreet kept came).2 _ rfl)
    · exact List.forall_mem_append.mpr
        ⟨none, fun note member => Note.not_refusal_of_outside (allQuiet note member)⟩
  · exact Trace.everywhere_of_forall fun note member _ =>
      savedPastRefusals_of_not_save (Note.not_save_of_outside (logged note member))

theorem between_savedPastRefusals : Between options
    fun (_ : World others) trace (_ : World others) => Trace.Always (SavedPastRefusals options) trace := by
  refine (between_idle discreet kept).mono (Trace.always_chaining _) ?_
  intro world trace final idle
  exact always_savedPastRefusals_of_unsaved fun note member => Note.unsaved_of_idle (idle.2 note member)

end Loop

/-!
## Grants and their validators
-/

/-- What became of the grant of an id and of the validator of that id: neither was touched, or both
come from one dispatched event, or the grant does and the ledger refused the validator. If it did so
without a word, the dispatch has no outcome. -/
inductive GrantPaired (start final : Ledger.Tables) (trace : Trace) (id : Number) : Prop where
  | untouched
      (grant : Ledger.byId? Ledger.Grant.id final.grants id =
        Ledger.byId? Ledger.Grant.id start.grants id)
      (validator : Ledger.byId? Ledger.Validator.id final.validators id =
        Ledger.byId? Ledger.Validator.id start.validators id)
  | stored {height : Height} {ordinal : Number} {event : Event} {content : Event.Grant}
      (told : .dispatched "grant" height ordinal event (some .handled) ∈ trace)
      (decoded : event.decode? .grant = some content)
      (grant : Ledger.byId? Ledger.Grant.id final.grants id = some (content.row height))
      (validator : Ledger.byId? Ledger.Validator.id final.validators id = some content.validatorRow)
  | refused {height : Height} {ordinal : Number} {event : Event} {content : Event.Grant}
      {outcome : Option Outcome} (told : .dispatched "grant" height ordinal event outcome ∈ trace)
      (failed : outcome = some .failed ∨ outcome = none)
      (decoded : event.decode? .grant = some content)
      (grant : Ledger.byId? Ledger.Grant.id final.grants id = some (content.row height))
      (refusal : .recorded (.upsertValidator content.validatorRow) false ∈ trace)

def GrantsPaired {others : Collaborators} (tables : others.Store → Ledger.Tables)
    (world : World others) (trace : Trace) (final : World others) : Prop :=
  ∀ id, GrantPaired (tables world.store) (tables final.store) trace id

namespace World

variable {others : Collaborators} {tables : others.Store → Ledger.Tables}

theorem grantsPaired_of_untouched {world final : World others} {trace : Trace}
    (grants : (tables final.store).grants = (tables world.store).grants)
    (validators : (tables final.store).validators = (tables world.store).validators) :
    GrantsPaired tables world trace final :=
  fun _ => .untouched (by rw [grants]) (by rw [validators])

theorem grantsPaired_chaining :
    Chaining (GrantsPaired tables : World others → Trace → World others → Prop) where
  refl _ := grantsPaired_of_untouched rfl rfl
  trans := by
    intro world middle final trace more first second id
    -- What was done to the pair last is what it is; the first part counts where the second left it.
    cases second id with
    | stored told decoded grant validator =>
        exact .stored (List.mem_append_right _ told) decoded grant validator
    | refused told failed decoded grant refusal =>
        exact .refused (List.mem_append_right _ told) failed decoded grant
          (List.mem_append_right _ refusal)
    | untouched grant validator =>
        cases first id with
        | untouched grant' validator' =>
            exact .untouched (grant.trans grant') (validator.trans validator')
        | stored told decoded grant' validator' =>
            exact .stored (List.mem_append_left _ told) decoded (grant.trans grant')
              (validator.trans validator')
        | refused told failed decoded grant' refusal =>
            exact .refused (List.mem_append_left _ told) failed decoded (grant.trans grant')
              (List.mem_append_left _ refusal)

variable (discreet : others.Discreet) (kept : others.books.KeptIn tables)

include discreet kept

/-- A grant is stored, and after it the validator, or the ledger refuses one of them. -/
theorem onGrant_cases {event : Event.Grant} {height : Height} {world final : World others}
    {result : Except Fault Unit} {trace : Trace}
    (ending : (onGrant event height).Ends world result trace final) :
    (∃ fault, result = .error fault) ∧ tables final.store = tables world.store ∨
      (∃ fault, result = .error fault) ∧ .recorded (.upsertValidator event.validatorRow) false ∈ trace ∧
        tables final.store = ((tables world.store).perform (.upsertGrant (event.row height))).2 ∨
      result = .ok () ∧ tables final.store =
        (((tables world.store).perform (.upsertGrant (event.row height))).2.perform
          (.upsertValidator event.validatorRow)).2 := by
  obtain ⟨quiet, _, ⟨failed, same, _⟩ | ⟨middle, rest, storing, granted, rfl⟩⟩ :=
    record_bind_cases discreet kept ending
  · exact .inl ⟨failed, same⟩
  obtain ⟨quiet', _, ⟨failed, same, rfl⟩ | ⟨last, rest', logging, stored, rfl⟩⟩ :=
    record_bind_cases discreet kept storing
  · exact .inr (.inl ⟨failed, by simp, same.trans granted⟩)
  · obtain ⟨rfl, _, rfl⟩ := ends_log.mp logging
    exact .inr (.inr ⟨rfl, by rw [stored, granted]⟩)

theorem handler_untouched {kind : Event.Kind} (other : kind ≠ .grant) (height : Height)
    (ordinal : Number) (content : kind.Content) :
    Keeps (fun (world : World others) _ (final : World others) =>
        ((tables final.store).grants, (tables final.store).validators) =
          ((tables world.store).grants, (tables world.store).validators))
      (handler height ordinal kind content) := by
  have steps := steps_untouched discreet kept fun tables => (tables.grants, tables.validators)
  have parts := steps.parts fun _ => trivial
  have advises := advise_keeps steps fun _ => trivial
  cases kind with
  | grant => exact (other rfl).elim
  | discussion => exact onDiscussion_keeps parts advises _ _ (fun _ => rfl) (fun _ => rfl)
  | proposal => exact onProposal_keeps parts advises _ (fun _ => rfl) (fun _ => rfl)
  | settlement => exact onSettlement_keeps parts _ (fun _ => rfl) (fun _ _ => rfl)

/-- No handler but that of grants touches grants or validators. -/
theorem grantsPaired_of_other {kind : Event.Kind} {content : kind.Content} {height : Height}
    {ordinal : Number} {world final : World others} {result : Except Fault Unit} {handling : Trace}
    (other : kind ≠ .grant)
    (handled : (handler height ordinal kind content).Ends world result handling final)
    (trace : Trace) : GrantsPaired tables world trace final := by
  have same := handler_untouched discreet kept other height ordinal content handled
  exact grantsPaired_of_untouched (Prod.mk.inj same).1 (Prod.mk.inj same).2

theorem grantsPaired_of_done {tag : String} {event : Event} {kind : Event.Kind}
    {content : kind.Content} {height : Height} {ordinal : Number} {world final : World others}
    {handling : Trace} (named : Event.Kind.named? tag = some kind)
    (decoded : event.decode? kind = some content)
    (done : (handler height ordinal kind content).Ends world (.ok ()) handling final) :
    GrantsPaired tables world (handling ++ [.dispatched tag height ordinal event (some .handled)])
      final := by
  by_cases grants : kind = .grant
  · subst grants
    cases tag_of_named named
    obtain ⟨⟨_, impossible⟩, _⟩ | ⟨⟨_, impossible⟩, _⟩ | ⟨_, stored⟩ :=
      onGrant_cases discreet kept done
    · cases impossible
    · cases impossible
    · intro id
      by_cases same : Number.ofNat content.validator = id
      · refine .stored (List.mem_append_right _ List.mem_cons_self) decoded ?_ ?_
        · exact stored ▸ (Ledger.byId?_replaceById ..).trans (if_pos same)
        · exact stored ▸ (Ledger.byId?_replaceById ..).trans (if_pos same)
      · refine .untouched ?_ ?_
        · exact stored ▸ (Ledger.byId?_replaceById ..).trans (if_neg same)
        · exact stored ▸ (Ledger.byId?_replaceById ..).trans (if_neg same)
  · exact grantsPaired_of_other discreet kept grants done _

/-- A handler of grants that fails was refused the validator, or did nothing. -/
theorem grantsPaired_of_failed {tag : String} {event : Event} {kind : Event.Kind}
    {content : kind.Content} {height : Height} {ordinal : Number} {world final : World others}
    {fault : Fault} {handling : Trace} {outcome : Option Outcome}
    (named : Event.Kind.named? tag = some kind) (decoded : event.decode? kind = some content)
    (failed : (handler height ordinal kind content).Ends world (.error fault) handling final)
    (unhandled : outcome = some .failed ∨ outcome = none) (more : Trace) :
    GrantsPaired tables world (handling ++ more ++ [.dispatched tag height ordinal event outcome])
      final := by
  by_cases grants : kind = .grant
  · subst grants
    cases tag_of_named named
    obtain ⟨_, untouched⟩ | ⟨_, refusal, stored⟩ | ⟨impossible, _⟩ :=
      onGrant_cases discreet kept failed
    · exact grantsPaired_of_untouched (by rw [untouched]) (by rw [untouched])
    · intro id
      by_cases same : Number.ofNat content.validator = id
      · refine .refused (List.mem_append_right _ List.mem_cons_self) unhandled decoded ?_
          (by simp [refusal])
        exact stored ▸ (Ledger.byId?_replaceById ..).trans (if_pos same)
      · refine .untouched ?_ (by rw [stored]; rfl)
        exact stored ▸ (Ledger.byId?_replaceById ..).trans (if_neg same)
    · cases impossible
  · exact grantsPaired_of_other discreet kept grants failed _

theorem dispatch_grantsPaired (tag : String) (event : Event) (height : Height) (ordinal : Number) :
    Keeps (GrantsPaired tables : World others → Trace → World others → Prop)
      (dispatch tag event height ordinal) := by
  intro world result trace final ending
  obtain ⟨first, dispatched, rfl⟩ := dispatch_cases ending
  cases dispatched with
  | ignored => exact grantsPaired_of_untouched rfl rfl
  | skipped => exact grantsPaired_of_untouched rfl rfl
  | handled named decoded done => exact grantsPaired_of_done discreet kept named decoded done
  | failed named decoded failed _ _ =>
      exact grantsPaired_of_failed discreet kept named decoded failed (.inl rfl) _
  | silenced named decoded failed _ =>
      have paired :=
        grantsPaired_of_failed discreet kept named decoded failed (.inr rfl) []
      rwa [List.append_nil] at paired

end World

namespace Loop

variable {others : Collaborators} (discreet : others.Discreet)
  {tables : others.Store → Ledger.Tables} (kept : others.books.KeptIn tables)
  {options : FollowOptions}

include discreet kept

theorem process_grantsPaired (height : Height) :
    Keeps (GrantsPaired tables : World others → Trace → World others → Prop)
      (process options height) := by
  have steps := World.steps_untouched discreet kept fun tables => (tables.grants, tables.validators)
  have untouched : ∀ {α : Type} {call : Call (World others) α},
      Keeps (fun (world : World others) _ (final : World others) =>
        ((tables final.store).grants, (tables final.store).validators) =
          ((tables world.store).grants, (tables world.store).validators)) call →
      Keeps (GrantsPaired tables : World others → Trace → World others → Prop) call :=
    fun kept => kept.mono fun same =>
      World.grantsPaired_of_untouched (Prod.mk.inj same).1 (Prod.mk.inj same).2
  have sequential : Sequential (Keeping (GrantsPaired tables)) :=
    (closed_keeping World.grantsPaired_chaining).toSequential
  refine World.process_of_stages sequential ?_ ?_ ?_ ?_ ?_
  · exact fun level source message facts =>
      untouched (steps.log (fun _ => trivial) level source message facts)
  · exact untouched (steps.ask _ trivial)
  · intro events
    exact World.dispatchAll_of_dispatch sequential
      (fun event ordinal => World.dispatch_grantsPaired discreet kept _ event height ordinal) events 0
  · refine (World.reconcile_untouched discreet kept height).mono fun same => ?_
    have grants := congrArg Ledger.Tables.grants same
    have validators := congrArg Ledger.Tables.validators same
    exact World.grantsPaired_of_untouched grants validators
  · exact untouched (steps.record _ fun _ => rfl)

/-- What refusals of the ledger come to in a run. -/
structure RefusalsContained (tables : others.Store → Ledger.Tables) (options : FollowOptions)
    (start : World others) (trace : Trace) (world : World others) : Prop where
  saves : trace.Everywhere (SavedPastRefusals options)
  grants : GrantsPaired tables start trace world

/-- In every run a height is saved past the refusals that its events met with, and only past these.
All of them end in the failure of an event, and a grant lacks the validator of its event only where
the ledger refused that validator. What keeps the events of a block from being dispatched is a refusal
without words alone. -/
theorem Run.refusals_contained {outside : World others → World others → Prop}
    (undisturbed : ∀ world world', outside world world' →
      (tables world'.store).grants = (tables world.store).grants ∧
        (tables world'.store).validators = (tables world.store).validators)
    {start world : World others} {trace : Trace} {loop : Loop}
    (run : Run options outside start trace world loop) :
    RefusalsContained tables options start trace world ∧
      ∀ (height : Height) (events : List Event) (world final : World others) (fault : Fault)
        (trace : Trace), (dispatchAll height events 0).Ends world (.error fault) trace final →
        ∃ before middle last, trace = before ++ last ∧
          World.Unspoken height middle fault last final := by
  refine ⟨⟨?_, ?_⟩, fun height events world final fault trace => World.dispatchAll_fails⟩
  · have always := run.keeps (between_savedPastRefusals discreet kept)
      (fun height => process_savedPastRefusals discreet kept) ?_ ?_
    · exact always []
    · exact fun world => (Trace.always_chaining _).refl world
    · exact fun world _ _ => (Trace.always_chaining _).refl world
  · refine run.keeps ?_ (process_grantsPaired discreet kept) ?_ ?_
    · exact (between_idle discreet kept).mono World.grantsPaired_chaining fun idle =>
        World.grantsPaired_of_untouched (by rw [idle.1]) (by rw [idle.1])
    · exact fun world => World.grantsPaired_of_untouched rfl rfl
    · exact fun world world' done =>
        World.grantsPaired_of_untouched (undisturbed world world' done).1 (undisturbed world world' done).2

end Loop

namespace Loop

/-- A world whose one block makes a grant and whose ledger refuses the first validator. -/
def refusingWorld : World Collaborators.inMemory :=
  World.inMemory { head := .ofNat 2, blocks := [Chain.blockOf 1 [.granting "9"]] } {}
    [("upsertValidator", [.other "disk full"])]

theorem Run.refusals_contained_in_refusingWorld :
    (roundsAnew (optionsFrom 1) refusingWorld 1).1.saved "follow" = [.ofNat 1] ∧
      RefusalsContained Ledger.Refusing.ledger (optionsFrom 1) refusingWorld
        (roundsAnew (optionsFrom 1) refusingWorld 1).1
        (roundsAnew (optionsFrom 1) refusingWorld 1).2 := by
  have run := run_roundsAnew (optionsFrom 1) (fun _ _ => False) refusingWorld 1
  exact ⟨by decide +kernel, (run.refusals_contained Collaborators.discreet_inMemory
    Collaborators.keptIn_inMemory fun _ _ impossible => impossible.elim).1⟩

end Loop

/-- A height is saved only after a pass over it in which nothing was refused. -/
def SavedUnrefused (options : FollowOptions) (before : Trace) (note : Note) : Prop :=
  ∀ height, note = .recorded (.saveProgress options.progressId height) true →
    ∃ (earlier pass : Trace) (results : Chain.BlockResults),
      before = earlier ++ .answered (.blockResults height) results :: pass ∧
      .reconciled height ∈ pass ∧ ∀ note ∈ pass, ¬ note.IsRefusal

private inductive Landmark where
  | fetched
  | refused
  | saved
deriving DecidableEq

private def landmarks (trace : Trace) : List Landmark :=
  trace.filterMap fun
    | .answered (.blockResults _) _ => some .fetched
    | .recorded _ false => some .refused
    | .recorded (.saveProgress _ _) true => some .saved
    | _ => none

private theorem refused_not_mem_landmarks {trace : Trace} (none : ∀ note ∈ trace, ¬ note.IsRefusal) :
    .refused ∉ landmarks trace := by
  intro member
  obtain ⟨note, noted, same⟩ := List.mem_filterMap.mp member
  split at same
  · cases same
  · exact none _ noted trivial
  · cases same
  · cases same

private theorem refused_mem_of_order {first middle last : List Landmark}
    (order : first ++ .fetched :: middle ++ .saved :: last = [.fetched, .refused, .saved]) :
    .refused ∈ middle := by
  cases first with
  | nil =>
      cases middle with
      | nil => cases order
      | cons mark rest =>
          cases (List.cons.inj (List.cons.inj order).2).1
          exact List.mem_cons_self
  | cons mark first =>
      -- The fetch would be one of the two landmarks after the first.
      have later : .fetched ∈ [Landmark.refused, .saved] := by
        rw [← (List.cons.inj order).2]
        simp
      simp at later

namespace Loop

/-- In the refusing world a height is saved although something was refused in its only pass, and the
grant of its block stays without a validator. -/
theorem Run.not_saved_unrefused_in_refusingWorld :
    Run (optionsFrom 1) (fun _ _ => False) refusingWorld
        (roundsAnew (optionsFrom 1) refusingWorld 1).1
        (roundsAnew (optionsFrom 1) refusingWorld 1).2 {} ∧
      ¬ (roundsAnew (optionsFrom 1) refusingWorld 1).1.Everywhere (SavedUnrefused (optionsFrom 1)) ∧
      (roundsAnew (optionsFrom 1) refusingWorld 1).2.store.ledger.grants.map (·.id) = [.ofNat 9] ∧
      (roundsAnew (optionsFrom 1) refusingWorld 1).2.store.ledger.validators = [] := by
  refine ⟨run_roundsAnew _ _ _ _, fun unrefused => ?_, by decide +kernel, by decide +kernel⟩
  have saved : .ofNat 1 ∈ (roundsAnew (optionsFrom 1) refusingWorld 1).1.saved "follow" := by
    decide +kernel
  have order : landmarks (roundsAnew (optionsFrom 1) refusingWorld 1).1 =
      [.fetched, .refused, .saved] := by
    decide +kernel
  obtain ⟨before, after, split⟩ := List.append_of_mem (Trace.mem_saved.mp saved)
  obtain ⟨earlier, pass, results, rfl, _, none⟩ := unrefused before _ after split _ rfl
  rw [split] at order
  simp only [landmarks, List.filterMap_append, List.filterMap_cons] at order
  exact refused_not_mem_landmarks none (refused_mem_of_order order)

end Loop

end RollCall
