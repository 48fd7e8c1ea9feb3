import RollCall.Proofs.Saving
import RollCall.Proofs.Telling

/-!
# One vote of each signer

However often a height is begun anew, its votes are on one record: the one that is found right after
the block was dispatched the first time. Once the height is saved there is one vote of each signer of
the block, and there is none where nothing was found.
-/

set_option autoImplicit false

namespace RollCall

open Call

/-!
## The moments in which a target is looked up
-/

/-- After `before`, the target of a height begins to be looked up; all events of its block are
dispatched by then. -/
def Trace.LooksUp (trace : Trace) (height : Height) (before : Trace) : Prop :=
  ∃ after, trace = before ++ .recorded (.proposalCreatedAt height) true :: after

theorem Trace.not_looksUp {trace : Trace} (none : ∀ note ∈ trace, ¬ note.IsLookup) (height : Height)
    (before : Trace) : ¬ trace.LooksUp height before := by
  rintro ⟨after, rfl⟩
  exact none _ (List.mem_append_right _ List.mem_cons_self) trivial

theorem Trace.looksUp_append {trace more before : Trace} {height : Height} :
    Trace.LooksUp (trace ++ more) height before ↔
      trace.LooksUp height before ∨
        ∃ later, before = trace ++ later ∧ more.LooksUp height later := by
  constructor
  · rintro ⟨after, split⟩
    rcases List.append_eq_append_iff.mp split with ⟨middle, rfl, inside⟩ | ⟨middle, rfl, inside⟩
    · exact .inr ⟨middle, rfl, after, inside⟩
    · cases middle with
      | nil => exact .inr ⟨[], by simp, after, by simpa using inside.symm⟩
      | cons note rest =>
          cases inside
          exact .inl ⟨rest, rfl⟩
  · rintro (⟨after, rfl⟩ | ⟨later, rfl, after, rfl⟩)
    · exact ⟨after ++ more, by simp⟩
    · exact ⟨after, by simp⟩

theorem Trace.looksUp_once {before after : Trace} {height other : Height} {moment : Trace}
    (earlier : ∀ note ∈ before, ¬ note.IsLookup) (later : ∀ note ∈ after, ¬ note.IsLookup) :
    Trace.LooksUp (before ++ .recorded (.proposalCreatedAt height) true :: after) other moment ↔
      other = height ∧ moment = before := by
  rw [looksUp_append]
  constructor
  · rintro (impossible | ⟨rest, rfl, last, split⟩)
    · exact (not_looksUp earlier _ _ impossible).elim
    · rcases List.cons_eq_append_iff.mp split with ⟨rfl, same⟩ | ⟨rest', rfl, inside⟩
      · cases same
        exact ⟨rfl, List.append_nil _⟩
      · exact (not_looksUp later other rest' ⟨last, inside⟩).elim
  · rintro ⟨rfl, rfl⟩
    exact .inr ⟨[], by simp, after, rfl⟩

/-!
## The votes of one height
-/

/-- Whether an index is that of the account of a signature under a block. -/
def Chain.Content.IsSigner (content : Chain.Content) (height : Height) (index : Nat) : Prop :=
  ∃ signature ∈ content.signatures height,
    (content.account? signature.address).map Account.index = some index

/-- Wherever a target was looked up at a height it was the same, and the votes of the height are on
it: one of each signer once the height is saved, and before that of some of them. -/
structure VotesOn (content : Chain.Content) (id : String) (trace : Trace) (tables : Ledger.Tables)
    (height : Height) (target : Option Target) : Prop where
  decided : ∀ before, trace.LooksUp height before →
    Option.Rel Target.SameRecord ((({} : Ledger.Tables).replay before.operations).target? height)
      target
  looked : height ∈ trace.saved id → ∃ before, trace.LooksUp height before
  uncast : target = none → tables.ballotsAt height = []
  cast : ∀ record, target = some record → ∃ voters, tables.VotedOn record height voters ∧
    (∀ index ∈ voters, content.IsSigner height index) ∧
    (height ∈ trace.saved id → ∀ index, content.IsSigner height index → index ∈ voters)

theorem Target.rel_refl (target : Option Target) :
    Option.Rel Target.SameRecord target target := by
  cases target with
  | none => exact .none
  | some target => exact .some (.inl rfl)

theorem Target.rel_trans {first second third : Option Target}
    (one : Option.Rel Target.SameRecord first second)
    (two : Option.Rel Target.SameRecord second third) :
    Option.Rel Target.SameRecord first third := by
  cases one with
  | none => exact two
  | some same =>
      cases two with
      | some same' => exact .some (same.trans same')

theorem Target.rel_symm {first second : Option Target}
    (one : Option.Rel Target.SameRecord first second) :
    Option.Rel Target.SameRecord second first := by
  cases one with
  | none => exact .none
  | some same => exact .some same.symm

namespace VotesOn

variable {content : Chain.Content} {id : String} {trace more : Trace}
  {tables final : Ledger.Tables} {height : Height} {target target' : Option Target}

theorem congr (votes : VotesOn content id trace tables height target)
    (same : Option.Rel Target.SameRecord target target') :
    VotesOn content id trace tables height target' where
  decided before looks := Target.rel_trans (votes.decided before looks) same
  looked := votes.looked
  uncast missing := by
    subst missing
    cases same
    exact votes.uncast rfl
  cast record found := by
    subst found
    cases same with
    | some same =>
        obtain ⟨voters, voted, signers⟩ := votes.cast _ rfl
        exact ⟨voters, voted.congr same, signers⟩

/-- Where nothing was looked up there are no votes, whatever they could be on. -/
theorem of_not_looksUp (unseen : ∀ before, ¬ trace.LooksUp height before)
    (unsaved : height ∉ trace.saved id) (uncast : tables.ballotsAt height = []) :
    VotesOn content id trace tables height target where
  decided before looks := (unseen before looks).elim
  looked saved := (unsaved saved).elim
  uncast _ := uncast
  cast record _ :=
    ⟨[], ⟨uncast, List.nodup_nil⟩, by simp, fun saved => (unsaved saved).elim⟩

theorem extend (votes : VotesOn content id trace tables height target)
    (unseen : ∀ before, ¬ more.LooksUp height before) (unsaved : height ∉ more.saved id)
    (same : final.ballotsAt height = tables.ballotsAt height) :
    VotesOn content id (trace ++ more) final height target := by
  have saved : height ∈ Trace.saved (trace ++ more) id → height ∈ trace.saved id := by
    rw [Trace.saved_append]
    intro member
    exact (List.mem_append.mp member).resolve_right unsaved
  constructor
  case decided =>
    intro before looks
    rcases Trace.looksUp_append.mp looks with earlier | ⟨later, _, impossible⟩
    · exact votes.decided before earlier
    · exact (unseen later impossible).elim
  case looked =>
    intro member
    obtain ⟨before, looks⟩ := votes.looked (saved member)
    exact ⟨before, Trace.looksUp_append.mpr (.inl looks)⟩
  case uncast => exact fun missing => same.trans (votes.uncast missing)
  case cast =>
    intro record found
    obtain ⟨voters, voted, signers, all⟩ := votes.cast record found
    exact ⟨voters, ⟨same.trans voted.1, voted.2⟩, signers, fun member => all (saved member)⟩

theorem lookUp {absorbed : Ledger.Tables} {before after : Trace} {done : List Signer}
    (begun : (0 : Height).below height)
    (votes : VotesOn content id trace absorbed height (absorbed.target? height))
    (replayed : ({} : Ledger.Tables).replay (Trace.operations (trace ++ before)) = absorbed)
    (earlier : ∀ note ∈ before, ¬ note.IsLookup) (later : ∀ note ∈ after, ¬ note.IsLookup)
    (partly : content.IsPart height done)
    (same : final.ballotsAt height = (absorbed.voted height done).ballotsAt height)
    (complete : height ∈ Trace.saved (before ++ .recorded (.proposalCreatedAt height) true :: after) id →
      content.IsComplete height absorbed done) :
    VotesOn content id (trace ++ (before ++ .recorded (.proposalCreatedAt height) true :: after)) final
      height (absorbed.target? height) := by
  constructor
  case decided =>
    intro moment looks
    rcases Trace.looksUp_append.mp looks with old | ⟨rest, rfl, new⟩
    · exact votes.decided moment old
    · obtain ⟨_, rfl⟩ := (Trace.looksUp_once earlier later).mp new
      rw [replayed]
      exact Target.rel_refl _
  case looked =>
    exact fun _ => ⟨trace ++ before,
      Trace.looksUp_append.mpr (.inr ⟨before, rfl, (Trace.looksUp_once earlier later).mpr ⟨rfl, rfl⟩⟩)⟩
  case uncast =>
    intro missing
    rw [same, Ledger.Tables.voted, missing]
    exact votes.uncast missing
  case cast =>
    intro record found
    obtain ⟨voters, voted, signers, all⟩ := votes.cast record found
    obtain ⟨more, voted', members⟩ := voted.voted begun found (.inl rfl) done
    -- The votes are those cast before, all of signers, and those of some first signers.
    have signing : ∀ index, (∃ signer ∈ done, signer.account.index = index) →
        content.IsSigner height index := by
      rintro index ⟨signer, member, rfl⟩
      rcases partly with rfl | ⟨every, known, prefixed⟩
      · cases member
      · exact (content.mem_signersOf? known _).mp ⟨signer, prefixed.subset member, rfl⟩
    refine ⟨more, ⟨same.trans voted'.1, voted'.2⟩, fun index member => ?_, fun saved index signer => ?_⟩
    · exact ((members index).mp member).elim (signers index) (signing index)
    · refine (members index).mpr ?_
      rw [Trace.saved_append] at saved
      rcases List.mem_append.mp saved with old | new
      · exact .inl (all old index signer)
      · rcases complete new with missing | known
        · rw [found] at missing
          cases missing
        · exact .inr ((content.mem_signersOf? known index).mpr signer)

end VotesOn

/-!
## The votes of all heights
-/

/-- In front of a height, all votes are accounted for: no later height was begun, and the target of
this one, if it was looked up, is found again by the next pass. -/
structure Accounted (content : Chain.Content) (options : FollowOptions) (trace : Trace)
    (tables : Ledger.Tables) (place : Nat) : Prop where
  replayed : tables = ({} : Ledger.Tables).replay trace.operations
  each : ∀ height, ∃ target, VotesOn content options.progressId trace tables height target
  stable : ∀ before, trace.LooksUp (.ofNat place) before → Option.Rel Target.SameRecord
    ((({} : Ledger.Tables).replay before.operations).target? (.ofNat place))
    ((tables.absorbAll (.ofNat place) (content.events options.withBlockEvents (.ofNat place)) 0).target?
      (.ofNat place))
  fresh : ∀ height, (∀ before, ¬ trace.LooksUp height before) → tables.ballotsAt height = []
  ahead : ∀ later, place < later → ∀ before, ¬ trace.LooksUp (.ofNat later) before

namespace Accounted

variable {content : Chain.Content} {options : FollowOptions} {trace more : Trace}
  {tables final : Ledger.Tables} {place : Nat}

theorem keyed (accounted : Accounted content options trace tables place) : tables.Keyed :=
  accounted.replayed ▸ Ledger.Tables.keyed_empty.replay _

theorem idle (accounted : Accounted content options trace tables place)
    (unseen : ∀ note ∈ more, ¬ note.IsLookup) (unsaved : more.saved options.progressId = [])
    (replays : tables = tables.replay more.operations) :
    Accounted content options (trace ++ more) tables place := by
  have old : ∀ {height before}, Trace.LooksUp (trace ++ more) height before →
      trace.LooksUp height before := fun looks =>
    (Trace.looksUp_append.mp looks).resolve_right fun ⟨later, _, impossible⟩ =>
      Trace.not_looksUp unseen _ later impossible
  constructor
  case replayed =>
    rw [Trace.operations_append, Ledger.Tables.replay_append, ← accounted.replayed]
    exact replays
  case each =>
    intro height
    obtain ⟨target, votes⟩ := accounted.each height
    refine ⟨target, votes.extend (Trace.not_looksUp unseen height) ?_ rfl⟩
    rw [unsaved]
    exact List.not_mem_nil
  case stable => exact fun before looks => accounted.stable before (old looks)
  case fresh =>
    exact fun height none => accounted.fresh height fun before looks =>
      none before (Trace.looksUp_append.mpr (.inl looks))
  case ahead => exact fun later less before looks => accounted.ahead later less before (old looks)

/-- Before a target is looked up at the place, it is known which it is. -/
theorem votesOn_absorbed (accounted : Accounted content options trace tables place)
    {absorbed : Ledger.Tables}
    (absorbs : absorbed = tables.absorbAll (.ofNat place)
      (content.events options.withBlockEvents (.ofNat place)) 0) :
    VotesOn content options.progressId trace absorbed (.ofNat place)
      (absorbed.target? (.ofNat place)) := by
  have same : absorbed.ballotsAt (.ofNat place) = tables.ballotsAt (.ofNat place) := by
    rw [absorbs, Ledger.Tables.ballotsAt_absorbAll]
  obtain ⟨target, votes⟩ := accounted.each (.ofNat place)
  by_cases begun : ∃ before, trace.LooksUp (.ofNat place) before
  · obtain ⟨before, looks⟩ := begun
    have votes' : VotesOn content options.progressId (trace ++ []) absorbed (.ofNat place) target :=
      votes.extend (Trace.not_looksUp (by simp) _) (by simp [Trace.saved]) same
    rw [List.append_nil] at votes'
    refine votes'.congr ?_
    rw [absorbs]
    exact Target.rel_trans (Target.rel_symm (votes.decided before looks)) (accounted.stable before looks)
  · have unseen : ∀ before, ¬ trace.LooksUp (.ofNat place) before :=
      fun before looks => begun ⟨before, looks⟩
    exact .of_not_looksUp unseen (fun saved => begun (votes.looked saved))
      (same.trans (accounted.fresh _ unseen))

/-- The votes that a pass casts do not move the target that the next pass finds, when it absorbs the
block behind them. -/
theorem target_once {height : Height} (begun : (0 : Height).below height) (keyed : tables.Keyed)
    (events : List Event) (done : List Signer) :
    Option.Rel Target.SameRecord ((tables.absorbAll height events 0).target? height)
      ((((tables.absorbAll height events 0).voted height done).absorbAll height events 0).target?
        height) := by
  rw [Ledger.Tables.absorbAll_voted begun keyed, Ledger.Tables.target?_voted]
  exact (Ledger.Tables.remade_absorbAll_again begun keyed events 0).target? begun
    (keyed.absorbAll _ _ _)

theorem pass {result : Except Fault Unit} (started : 1 ≤ place)
    (accounted : Accounted content options trace tables place)
    (passed : Loop.Pass content options (.ofNat place) tables result more final)
    (replays : final = tables.replay more.operations)
    (saves : ∀ height ∈ more.saved options.progressId, height = .ofNat place ∧ result = .ok ()) :
    Accounted content options (trace ++ more) final place := by
  have begun : (0 : Height).below (.ofNat place) := Number.below_ofNat.mpr started
  have replayed : ∀ {first second : Trace}, first = trace ++ second →
      ({} : Ledger.Tables).replay first.operations = tables.replay second.operations := by
    rintro _ second rfl
    rw [Trace.operations_append, Ledger.Tables.replay_append, ← accounted.replayed]
  cases passed with
  | unfetched unasked _ =>
      refine accounted.idle unasked (List.eq_nil_iff_forall_not_mem.mpr fun height saved => ?_) replays
      cases (saves height saved).2
  | @begun absorbed _ _ before after done absorbs replays' earlier later _ partly ended =>
      -- A pass looks up the target of its own height only: nothing changes about the others.
      have moment : ∀ {height moment}, Trace.LooksUp (before ++ .recorded (.proposalCreatedAt
          (.ofNat place)) true :: after) height moment → height = .ofNat place :=
        fun looks => ((Trace.looksUp_once earlier later).mp looks).1
      have votes := accounted.votesOn_absorbed absorbs
      have ballots : ∀ height, final.ballotsAt height =
          (absorbed.voted (.ofNat place) done).ballotsAt height := by
        intro height
        rcases ended with ⟨_, rfl, _⟩ | ⟨_, _, rfl⟩
        · rfl
        · rfl
      have elsewhere : ∀ height, height ≠ .ofNat place →
          final.ballotsAt height = tables.ballotsAt height := by
        intro height other
        rw [ballots, Ledger.Tables.ballotsAt_voted_of_ne, absorbs, Ledger.Tables.ballotsAt_absorbAll]
        intro same
        exact other (Number.equals_iff.mp same).1.symm
      have here : VotesOn content options.progressId (trace ++ (before ++ .recorded
          (.proposalCreatedAt (.ofNat place)) true :: after)) final (.ofNat place)
          (absorbed.target? (.ofNat place)) := by
        refine votes.lookUp begun ?_ earlier later partly (ballots _) fun saved => ?_
        · rw [replayed rfl, replays']
        · rcases ended with ⟨⟨_, failed⟩, _⟩ | ⟨_, complete, _⟩
          · rw [(saves _ saved).2] at failed
            cases failed
          · exact complete
      constructor
      case replayed => rw [replayed rfl, replays]
      case each =>
        intro height
        by_cases same : height = .ofNat place
        · rw [same]
          exact ⟨_, here⟩
        · obtain ⟨target, old⟩ := accounted.each height
          exact ⟨target, old.extend (fun _ looks => same (moment looks))
            (fun saved => same (saves _ saved).1) (elsewhere height same)⟩
      case stable =>
        intro before looks
        refine Target.rel_trans (here.decided before looks) ?_
        have once := target_once begun accounted.keyed
          (content.events options.withBlockEvents (.ofNat place)) done
        rw [← absorbs] at once
        rcases ended with ⟨_, rfl, _⟩ | ⟨_, _, rfl⟩
        · exact once
        · rw [Ledger.Tables.absorbAll_advance]
          exact once
      case fresh =>
        intro height unseen
        have other : height ≠ .ofNat place := by
          rintro rfl
          exact unseen (trace ++ before) (Trace.looksUp_append.mpr
            (.inr ⟨before, rfl, (Trace.looksUp_once earlier later).mpr ⟨rfl, rfl⟩⟩))
        rw [elsewhere height other]
        exact accounted.fresh height fun before looks =>
          unseen before (Trace.looksUp_append.mpr (.inl looks))
      case ahead =>
        intro further less before looks
        rcases Trace.looksUp_append.mp looks with old | ⟨_, _, new⟩
        · exact accounted.ahead further less before old
        · exact less.ne' (Number.ofNat_inj.mp (moment new))

/-- The votes of a place are accounted for in front of any later one. -/
theorem onward {later : Nat} (accounted : Accounted content options trace tables place)
    (least : place ≤ later) : Accounted content options trace tables later where
  replayed := accounted.replayed
  each := accounted.each
  stable before looks := by
    rcases Nat.lt_or_eq_of_le least with less | rfl
    · exact (accounted.ahead later less before looks).elim
    · exact accounted.stable before looks
  fresh := accounted.fresh
  ahead further less := accounted.ahead further (Nat.lt_of_le_of_lt least less)

end Accounted

/-!
## Every run
-/

/-- The next height after the one that was saved last, as a natural number. -/
structure Standing (options : FollowOptions) (last : Option Height) (place : Nat) : Prop where
  started : 1 ≤ place
  exact : Number.IsExact place
  next : Loop.firstUndone options last = .ofNat place
  reached : Number.max (last.getD 0) (.ofNat place) = .ofNat place

theorem Standing.first {options : FollowOptions} {first : Nat} (starts : options.startHeight = .ofNat first)
    (started : 1 ≤ first) (exact : Number.IsExact first) : Standing options none first where
  started := started
  exact := exact
  next := starts
  reached := by
    change Number.max (.ofNat 0) _ = _
    rw [Number.max_ofNat, Nat.max_eq_right (Nat.zero_le _)]

theorem Standing.done {options : FollowOptions} {last : Option Height} {place : Nat}
    (standing : Standing options last place) :
    ∃ next, Number.ofNat place + 1 = .ofNat next ∧ place ≤ next ∧
      Standing options (some (Number.max (last.getD 0) (.ofNat place))) next := by
  obtain ⟨next, counted, least, _, exact⟩ := standing.exact.add_one
  refine ⟨next, counted, least, standing.started.trans least, exact, ?_, ?_⟩
  · rw [standing.reached]
    exact counted
  · change Number.max (Number.max (last.getD 0) (.ofNat place)) _ = _
    rw [standing.reached, Number.max_ofNat, Nat.max_eq_right least]

namespace Loop

section Every

variable {others : Collaborators} {tables : others.Store → Ledger.Tables} {options : FollowOptions}

theorem not_lookup_of_idle {note : Note} (idle : note.IsIdle options) : ¬ note.IsLookup := by
  cases note with
  | recorded operation succeeded =>
      cases idle
      exact id
  | _ => exact id

variable (discreet : others.Discreet) (kept : others.books.KeptIn tables) {content : Chain.Content}

include discreet kept

theorem process_accounted {place : Nat} {trace more : Trace} {world final : World others}
    {result : Except Fault Unit} (started : 1 ≤ place)
    (accounted : Accounted content options trace (tables world.store) place)
    (ending : (process options (.ofNat place)).Ends world result more final)
    (fair : ∀ note ∈ more, note.TellsOf content options.withBlockEvents ∧ note.IsFirm) :
    Accounted content options (trace ++ more) (tables final.store) place := by
  refine accounted.pass started (process_pass discreet kept ending (fun note member => (fair note member).1)
    fun note member => (fair note member).2) (process_replays discreet kept ending) ?_
  intro height saved
  obtain ⟨_, unsaved, _⟩ | ⟨rfl, only, _⟩ := process_saving discreet kept ending
  · rw [Trace.saved_of_unsaved unsaved] at saved
    cases saved
  · rw [only] at saved
    exact ⟨List.mem_singleton.mp saved, rfl⟩

theorem invariant_accounted :
    Invariant options (Idle tables options)
      (fun note => note.TellsOf content options.withBlockEvents ∧ note.IsFirm) (fun _ => True)
      (fun trace world height => ∃ place, height = .ofNat place ∧
        Standing options ((tables world.store).progressOf? options.progressId) place ∧
        Accounted content options trace (tables world.store) place) where
  between := between_idle discreet kept
  resumes := by
    rintro trace more world final height last ⟨place, rfl, standing, _⟩ read
    obtain ⟨_, _, ⟨same, _⟩ | ⟨⟨_, impossible⟩, _⟩⟩ := World.record_ends discreet kept read
    · cases same
      exact standing.next
    · cases impossible
  idle := by
    rintro trace more world final height ⟨place, rfl, standing, accounted⟩ ⟨same, idle⟩ _
    refine ⟨place, rfl, same ▸ standing, ?_⟩
    rw [same]
    exact accounted.idle (fun note member => not_lookup_of_idle (idle note member))
      (Trace.saved_of_unsaved (fun note member => Note.unsaved_of_idle (idle note member)) _)
      (Trace.replay_of_idle idle _).symm
  pass := by
    rintro trace more world final height head ⟨place, rfl, standing, accounted⟩ _ _ ending fair
    have accounted' := process_accounted discreet kept standing.started accounted ending
      fun note member => fair note (List.mem_append_right _ member)
    obtain ⟨⟨_, impossible⟩, _⟩ | ⟨_, _, advanced, _⟩ := process_saving discreet kept ending
    · cases impossible
    obtain ⟨next, counted, least, standing'⟩ := standing.done
    exact ⟨next, counted, advanced ▸ standing', accounted'.onward least⟩
  failure := by
    rintro trace more world final height head fault ⟨place, rfl, standing, accounted⟩ _ _ ending fair
    have accounted' := process_accounted discreet kept standing.started accounted ending
      fun note member => fair note (List.mem_append_right _ member)
    obtain ⟨_, _, same⟩ | ⟨impossible, _⟩ := process_saving discreet kept ending
    · exact ⟨⟨place, rfl, same ▸ standing, accounted'⟩, trivial⟩
    · cases impossible

/-- Who voted at a height and on what, in the tables that a run has come to, once the target was
looked up in others: each signer once, on the target of those tables, or no one if there is none. -/
def VotedOnce (content : Chain.Content) (lookedUp tables : Ledger.Tables) (height : Height) : Prop :=
  match lookedUp.target? height with
  | some target => lookedUp.Decides height target ∧
      ∃ voters : List Nat, tables.ballotsAt height = voters.map target.ballot ∧ voters.Nodup ∧
        ∀ index, index ∈ voters ↔ content.IsSigner height index
  | none => lookedUp.Undecided height ∧ tables.ballotsAt height = []

/-- In every run over one chain on an empty ledger, each height that is saved has one vote of each
signer of its block, on the one record that was found right after any dispatch of the block; if none
was found there are no votes. Nothing is assumed of what fails, but that no handler's operation
does. -/
theorem Run.votes_once {first : Nat} (starts : options.startHeight = .ofNat first) (started : 1 ≤ first)
    (exact : Number.IsExact first) {outside : World others → World others → Prop}
    {start : World others} (empty : tables start.store = {})
    (undisturbed : ∀ world world', outside world world' → tables world'.store = tables world.store)
    {trace : Trace} {world : World others} {loop : Loop}
    (run : Run options outside start trace world loop)
    (told : ∀ note ∈ trace, note.TellsOf content options.withBlockEvents)
    (firm : ∀ note ∈ trace, note.IsFirm) :
    tables world.store = ({} : Ledger.Tables).replay trace.operations ∧
      ∀ height ∈ trace.saved options.progressId,
        (∃ before, trace.LooksUp height before) ∧
          ∀ before, trace.LooksUp height before →
            VotedOnce content (({} : Ledger.Tables).replay before.operations) (tables world.store)
              height := by
  have initially : Standing options ((tables start.store).progressOf? options.progressId) first ∧
      Accounted content options [] (tables start.store) first := by
    rw [empty]
    have unseen : ∀ height before, ¬ Trace.LooksUp [] height before := fun height =>
      Trace.not_looksUp (by simp) height
    refine ⟨.first starts started exact, rfl, fun height => ⟨none, ?_⟩, ?_, fun _ _ => rfl, ?_⟩
    · exact .of_not_looksUp (unseen height) (by simp [Trace.saved]) rfl
    · exact fun before looks => (unseen _ before looks).elim
    · exact fun later _ => unseen _
  obtain ⟨_, ⟨place, rfl, _, accounted⟩, _⟩ :=
    (invariant_accounted discreet kept).run_holds discreet kept ⟨first, rfl, initially⟩
      (fun world => ⟨rfl, by simp⟩) (fun world world' done => ⟨undisturbed world world' done, by simp⟩)
      run fun note member => ⟨told note member, firm note member⟩
  refine ⟨accounted.replayed, fun height saved => ?_⟩
  obtain ⟨target, votes⟩ := accounted.each height
  refine ⟨votes.looked saved, fun before looks => ?_⟩
  have votes := votes.congr (Target.rel_symm (votes.decided before looks))
  unfold VotedOnce
  cases found : (({} : Ledger.Tables).replay before.operations).target? height with
  | none => exact ⟨Ledger.Tables.undecided_of_target? found, votes.uncast found⟩
  | some target' =>
      obtain ⟨voters, ⟨ballots, distinct⟩, signers, all⟩ := votes.cast target' found
      exact ⟨Ledger.Tables.decides_of_target? found, voters, ballots, distinct, fun index =>
        ⟨signers index, all saved index⟩⟩

end Every

/-- A world whose first block makes two proposals and is signed twice, once without an address. An
account is unknown at first, and the first vote is refused. -/
def votingWorld : World Collaborators.inMemory :=
  World.inMemory
    { head := .ofNat 2
      blocks := [Chain.blockOf 1 [.making "7", .making "6"]]
      commits := [(.ofNat 1,
        [Chain.signedBy "AA01", Chain.signedBy "", Chain.signedBy "AA02"])]
      accounts := [("AA01", .number (.ofNat 11)), ("AA02", .number (.ofNat 12))]
      failures := [("queryAbci", .ofNat 1)] }
    {} [("insertProposalVote", [.other "disk full"])]

private theorem votingWorld_computed :
    (∀ note ∈ (roundsAnew (optionsFrom 1) votingWorld 3).1, note.IsFirm) ∧
      (roundsAnew (optionsFrom 1) votingWorld 3).1.saved "follow" = [.ofNat 1] ∧
      (roundsAnew (optionsFrom 1) votingWorld 3).2.store.ledger.ballotsAt (.ofNat 1) =
        [⟨false, .ofNat 6, .ofNat 11⟩, ⟨false, .ofNat 6, .ofNat 12⟩] := by
  decide +kernel

/-- Three rounds of one loop after another in the voting world. -/
theorem Run.votes_once_in_votingWorld :
    (roundsAnew (optionsFrom 1) votingWorld 3).1.saved "follow" = [.ofNat 1] ∧
      (roundsAnew (optionsFrom 1) votingWorld 3).2.store.ledger.ballotsAt (.ofNat 1) =
        [⟨false, .ofNat 6, .ofNat 11⟩, ⟨false, .ofNat 6, .ofNat 12⟩] ∧
      ∃ before, Trace.LooksUp (roundsAnew (optionsFrom 1) votingWorld 3).1 (.ofNat 1) before ∧
        VotedOnce votingWorld.chain.node.answer (({} : Ledger.Tables).replay before.operations)
          (roundsAnew (optionsFrom 1) votingWorld 3).2.store.ledger (.ofNat 1) := by
  have run := run_roundsAnew (optionsFrom 1) (fun _ _ => False) votingWorld 3
  obtain ⟨firm, saved, ballots⟩ := votingWorld_computed
  have told := (Run.tells (fun _ _ impossible => impossible.elim) run).2
  obtain ⟨_, votes⟩ := run.votes_once Collaborators.discreet_inMemory Collaborators.keptIn_inMemory
    rfl (by decide) (Number.isExact_of_safe (by decide)) rfl (fun _ _ impossible => impossible.elim)
    (fun note member => Note.tellsOf_of_isSaid (told note member) true) firm
  obtain ⟨⟨before, looks⟩, once⟩ := votes (.ofNat 1) (by
    rw [show (optionsFrom 1).progressId = "follow" from rfl, saved]
    exact List.mem_singleton_self _)
  exact ⟨saved, ballots, before, looks, once before looks⟩

end Loop

end RollCall
