import Mathlib.Data.List.DropRight
import RollCall.Proofs.InMemory
import RollCall.Proofs.Saving
import RollCall.Proofs.Sessions

/-!
# Settled proposals

A proposal once settled stays as it is, but for its status, which a settlement at the same height sets
anew. Two handlers store proposals through one operation and each has a guard of its own, so each is
looked at where the stored proposal is settled. All else that the indexer does stores no proposal.
-/

set_option autoImplicit false

namespace RollCall

open Call

/-!
## Traces between dispatches
-/

instance : DecidablePred Note.IsDispatch
  | .dispatched .. => .isTrue trivial
  | .logged _ | .requested _ | .executed _ | .asked _ | .answered _ _ | .consulted _ | .recorded _ _
  | .reconciled _ => .isFalse id

/-- A note tells of what is done only while an event is dispatched. -/
def Note.IsOfDispatch : Note → Prop
  | .dispatched .. => True
  | .consulted _ => True
  | .recorded (.upsertProposal _) _ => True
  | _ => False

theorem Note.not_ofDispatch_of_outside {note : Note} (outside : note.isOutside) :
    ¬ note.IsOfDispatch := by
  cases note with
  | logged | requested | executed => exact id
  | _ => cases outside

theorem Note.not_ofDispatch_of_idle {options : FollowOptions} {note : Note}
    (idle : note.IsIdle options) : ¬ note.IsOfDispatch := by
  cases note with
  | recorded operation succeeded =>
      cases idle
      exact id
  | consulted | dispatched => exact idle.elim
  | _ => exact id

namespace Trace

/-- What is noted since the last dispatch ended. When the next one ends, that is what it did, and what
was done before it besides dispatching. -/
def handling (trace : Trace) : Trace :=
  trace.rtakeWhile fun note => ¬ note.IsDispatch

theorem handling_concat_of_dispatch (trace : Trace) {note : Note} (dispatch : note.IsDispatch) :
    handling (trace ++ [note]) = [] :=
  List.rtakeWhile_concat_neg _ _ _ (by simpa using dispatch)

theorem handling_append_of_none (first : Trace) {second : Trace}
    (none : ∀ note ∈ second, ¬ note.IsDispatch) :
    handling (first ++ second) = first.handling ++ second := by
  -- From the end, since that is where the handling is read from.
  induction second using List.reverseRecOn with
  | nil => simp
  | append_singleton rest last ih =>
      rw [← List.append_assoc, handling, List.rtakeWhile_concat_pos, ← List.append_assoc, ← ih]
      · rfl
      · exact fun note member => none note (List.mem_append_left _ member)
      · simpa using none last (by simp)

theorem mem_handling_append {first second : Trace} {note : Note}
    (member : note ∈ handling (first ++ second)) : note ∈ first.handling ∨ note ∈ second.handling := by
  induction second using List.reverseRecOn with
  | nil => exact .inl (by simpa using member)
  | append_singleton rest last ih =>
      by_cases dispatch : last.IsDispatch
      · rw [← List.append_assoc, handling_concat_of_dispatch _ dispatch] at member
        cases member
      · have kept : ∀ trace : Trace, handling (trace ++ [last]) = trace.handling ++ [last] :=
          fun trace => handling_append_of_none trace (by simpa using dispatch)
        rw [← List.append_assoc, kept] at member
        rw [kept]
        rcases List.mem_append.mp member with earlier | last
        · exact (ih earlier).imp_right (List.mem_append_left _)
        · exact .inr (List.mem_append_right _ last)

/-- No event is being dispatched. -/
def AtRest (trace : Trace) : Prop :=
  ∀ note ∈ trace.handling, ¬ note.IsOfDispatch

theorem AtRest.append {first second : Trace} (before : first.AtRest) (after : second.AtRest) :
    AtRest (first ++ second) := by
  intro note member
  rcases mem_handling_append member with earlier | later
  · exact before note earlier
  · exact after note later

theorem atRest_of_none {trace : Trace} (none : ∀ note ∈ trace, ¬ note.IsOfDispatch) : trace.AtRest :=
  fun note member => none note ((List.rtakeWhile_suffix _ _).subset member)

theorem operations_of_none {trace : Trace} (none : ∀ note ∈ trace, ¬ note.IsOfDispatch)
    (row : Ledger.Proposal) : .upsertProposal row ∉ trace.operations :=
  fun member => none _ (mem_operations member) trivial

theorem atRest_concat_of_dispatch (trace : Trace) {note : Note} (dispatch : note.IsDispatch) :
    AtRest (trace ++ [note]) := by
  intro other member
  rw [handling_concat_of_dispatch _ dispatch] at member
  cases member

theorem AtRest.consultations {trace : Trace} (rest : trace.AtRest) :
    trace.handling.consultations = [] := by
  refine List.filterMap_eq_nil_iff.mpr fun note member => ?_
  split
  · exact (rest _ member trivial).elim
  · rfl

theorem AtRest.operations {trace : Trace} (rest : trace.AtRest) (row : Ledger.Proposal) :
    .upsertProposal row ∉ trace.handling.operations :=
  operations_of_none rest row

end Trace

/-!
## What a settled proposal stays
-/

/-- An operation stores no proposal of the id of a row, or changes the status of the row only. -/
def Ledger.Operation.Respects (row : Ledger.Proposal) : Ledger.Operation → Prop
  | .upsertProposal new => new.id = row.id → ∃ status, new = { row with status }
  | _ => True

theorem Ledger.Operation.respects_of_none {operations : List Ledger.Operation}
    (none : ∀ new, .upsertProposal new ∉ operations) (row : Ledger.Proposal) :
    ∀ operation ∈ operations, operation.Respects row := by
  intro operation member
  cases operation with
  | upsertProposal new => exact (none new member).elim
  | _ => trivial

/-- The status that a note tells a settled proposal is set to: that of a settlement at the height at
which the proposal was settled first, if the settlement is handled. -/
def Note.statusOf? (row : Ledger.Proposal) : Note → Option Number
  | .dispatched tag height _ event (some .handled) =>
      if tag = "settle_proposal" ∧ row.settledAt.equals height then
        ((event.decode? .settlement).filter (Number.ofNat ·.proposal = row.id)).map (.ofNat ·.state)
      else none
  | _ => none

/-- The last status that a settled proposal is set to, if any. -/
def Trace.statusOf (trace : Trace) (row : Ledger.Proposal) (initial : Number) : Number :=
  (trace.filterMap (Note.statusOf? row)).getLast?.getD initial

/-- An event about a stored proposal is turned down: it fails, or there is no outcome because the
ledger refused to look the proposal up. -/
def Trace.TurnsDown (before : Trace) (row : Ledger.Proposal) (outcome : Option Outcome) : Prop :=
  outcome = some .failed ∨ outcome = none ∧ .recorded (.proposal row.id) false ∈ before.handling

/-- A note of a dispatch tells what must become of an event that is about a settled proposal. -/
structure Note.RespectsSettled (row : Ledger.Proposal) (before : Trace) (note : Note) : Prop where
  /-- A proposal of the same id is turned down, and the agent is not turned to. -/
  proposal : ∀ {height ordinal event outcome content},
    note = .dispatched "proposal" height ordinal event outcome →
    event.decode? .proposal = some content → Number.ofNat content.index = row.id →
    before.TurnsDown row outcome ∧ before.handling.consultations = []
  /-- A settlement at another height is turned down. -/
  elsewhere : ∀ {height ordinal event outcome content},
    note = .dispatched "settle_proposal" height ordinal event outcome →
    event.decode? .settlement = some content → Number.ofNat content.proposal = row.id →
    ¬ row.settledAt.equals height → before.TurnsDown row outcome
  /-- A settlement at the same height is handled if and only if the ledger stores it. -/
  again : ∀ {height ordinal event outcome content},
    note = .dispatched "settle_proposal" height ordinal event outcome →
    event.decode? .settlement = some content → Number.ofNat content.proposal = row.id →
    row.settledAt.equals height →
    outcome = some .handled ∧ (∃ new, .upsertProposal new ∈ before.handling.operations) ∨
      (outcome = some .failed ∨ outcome = none) ∧
        ∀ new, .upsertProposal new ∉ before.handling.operations

theorem Note.respectsSettled_of_not_dispatch {row : Ledger.Proposal} {before : Trace} {note : Note}
    (other : ¬ note.IsDispatch) : note.RespectsSettled row before := by
  constructor
  case proposal =>
    rintro _ _ _ _ _ rfl
    exact (other trivial).elim
  case elsewhere =>
    rintro _ _ _ _ _ rfl
    exact (other trivial).elim
  case again =>
    rintro _ _ _ _ _ rfl
    exact (other trivial).elim

namespace Trace

variable {row : Ledger.Proposal}

theorem statusOf_append (first second : Trace) (row : Ledger.Proposal) (initial : Number) :
    statusOf (first ++ second) row initial = second.statusOf row (first.statusOf row initial) := by
  rw [statusOf, List.filterMap_append, List.getLast?_append, Option.getD_or]
  rfl

theorem statusOf_of_none {trace : Trace} (none : ∀ note ∈ trace, ¬ note.IsDispatch)
    (initial : Number) : trace.statusOf row initial = initial := by
  have silent : trace.filterMap (Note.statusOf? row) = [] := by
    refine List.filterMap_eq_nil_iff.mpr fun note member => ?_
    cases note with
    | dispatched => exact (none _ member trivial).elim
    | _ => rfl
  rw [statusOf, silent]
  rfl

theorem statusOf_concat {trace : Trace} {note : Note} (none : ∀ note ∈ trace, ¬ note.IsDispatch)
    (initial : Number) :
    statusOf (trace ++ [note]) row initial = (note.statusOf? row).getD initial := by
  rw [statusOf_append, statusOf_of_none none, statusOf, List.filterMap_cons]
  cases note.statusOf? row <;> rfl

end Trace

theorem Ledger.Tables.byId?_replay {row : Ledger.Proposal} {operations : List Ledger.Operation}
    (respected : ∀ operation ∈ operations, operation.Respects row) {tables : Ledger.Tables}
    {status : Number}
    (stored : Ledger.byId? Ledger.Proposal.id tables.proposals row.id = some { row with status }) :
    ∃ status, Ledger.byId? Ledger.Proposal.id (tables.replay operations).proposals row.id =
      some { row with status } := by
  induction operations generalizing tables status with
  | nil => exact ⟨status, stored⟩
  | cons operation rest ih =>
      have here := respected operation List.mem_cons_self
      have later := fun other member => respected other (List.mem_cons_of_mem operation member)
      rw [Ledger.Tables.replay_cons]
      cases operation with
      | upsertProposal new =>
          by_cases same : new.id = row.id
          · -- Only the status is new, and the induction is on rows of any status.
            obtain ⟨status', rfl⟩ := here same
            exact ih later ((Ledger.byId?_replaceById ..).trans (if_pos same))
          · exact ih later (((Ledger.byId?_replaceById ..).trans (if_neg same)).trans stored)
      | _ => exact ih later stored

/-- What is done between two moments respects a settled proposal. -/
def RespectsSettled {others : Collaborators} (tables : others.Store → Ledger.Tables)
    (row : Ledger.Proposal) (world : World others) (trace : Trace) (final : World others) : Prop :=
  trace.AtRest ∧ ∀ status,
    Ledger.byId? Ledger.Proposal.id (tables world.store).proposals row.id =
      some { row with status } →
    Ledger.byId? Ledger.Proposal.id (tables final.store).proposals row.id =
      some { row with status := trace.statusOf row status } ∧
    (∀ operation ∈ trace.operations, operation.Respects row) ∧
    ∀ earlier : Trace, earlier.AtRest →
      trace.Everywhere fun before note => note.RespectsSettled row (earlier ++ before)

namespace World

variable {others : Collaborators} {tables : others.Store → Ledger.Tables} {row : Ledger.Proposal}

theorem respectsSettled_chaining :
    Chaining (RespectsSettled tables row : World others → Trace → World others → Prop) where
  refl world := by
    refine ⟨Trace.atRest_of_none (by simp), fun status stored => ⟨stored, by simp [Trace.operations], ?_⟩⟩
    intro earlier _ before note after split
    simp at split
  trans := by
    intro world middle final first second before after
    refine ⟨before.1.append after.1, fun status stored => ?_⟩
    -- The second part finds the row with the status that the first part leaves it.
    obtain ⟨kept, respected, first_holds⟩ := before.2 status stored
    obtain ⟨kept', respected', second_holds⟩ := after.2 _ kept
    refine ⟨?_, ?_, fun earlier rest => ?_⟩
    · rw [Trace.statusOf_append]
      exact kept'
    · rw [Trace.operations_append]
      exact List.forall_mem_append.mpr ⟨respected, respected'⟩
    · refine (first_holds earlier rest).append ?_
      simpa [List.append_assoc] using second_holds (earlier ++ first) (rest.append before.1)

theorem respectsSettled_of_apart {world final : World others} {trace : Trace}
    (same : (tables final.store).proposals = (tables world.store).proposals)
    (apart : ∀ note ∈ trace, ¬ note.IsOfDispatch) : RespectsSettled tables row world trace final := by
  have none : ∀ note ∈ trace, ¬ note.IsDispatch := by
    intro note member dispatch
    cases note with
    | dispatched => exact apart _ member trivial
    | _ => exact dispatch
  refine ⟨Trace.atRest_of_none apart, fun status stored => ⟨?_, ?_, ?_⟩⟩
  · rw [same, Trace.statusOf_of_none none]
    exact stored
  · exact Ledger.Operation.respects_of_none (Trace.operations_of_none apart) row
  · exact fun earlier _ => Trace.everywhere_of_forall fun note member _ =>
      Note.respectsSettled_of_not_dispatch (none note member)

variable (discreet : others.Discreet) (kept : others.books.KeptIn tables)

include discreet kept

/-!
## Events about the proposal
-/

theorem onProposal_settled {event : Event.Proposal} {height : Height} {status : Number}
    {world final : World others} {result : Except Fault Unit} {trace : Trace}
    (settled : row.settledAt ≠ 0) (about : Number.ofNat event.index = row.id)
    (stored : Ledger.byId? Ledger.Proposal.id (tables world.store).proposals row.id =
      some { row with status })
    (ending : (onProposal event height).Ends world result trace final) :
    (∃ fault, result = .error fault ∧
      (fault.words? = none → .recorded (.proposal row.id) false ∈ trace)) ∧
      tables final.store = tables world.store ∧ ∀ note ∈ trace, ¬ note.IsOfDispatch := by
  obtain ⟨quiet, allQuiet, ⟨⟨fault, rfl⟩, same, rfl⟩ | ⟨middle, rest, storing, same, rfl⟩⟩ :=
    record_bind_cases discreet kept ending
  · refine ⟨⟨fault, rfl, fun _ => by simp [about]⟩, same,
      List.forall_mem_append.mpr ⟨fun note member => ?_, by simp [Note.IsOfDispatch]⟩⟩
    exact Note.not_ofDispatch_of_outside (allQuiet note member)
  · simp only [Ledger.Tables.perform, about, stored, Option.filter_some, decide_eq_true settled,
      if_true] at storing
    obtain ⟨rfl, rfl, rfl⟩ := ends_fail.mp storing
    refine ⟨⟨_, rfl, fun silent => by cases silent⟩, same,
      List.forall_mem_append.mpr ⟨fun note member => ?_, by simp [Note.IsOfDispatch]⟩⟩
    exact Note.not_ofDispatch_of_outside (allQuiet note member)

/-- A settlement fails and stores nothing, or it is stored with the proposal, which is not settled at
another height. -/
theorem onSettlement_cases {event : Event.Settlement} {height : Height} {world final : World others}
    {result : Except Fault Unit} {trace : Trace}
    (ending : (onSettlement event height).Ends world result trace final) :
    (∃ fault, result = .error fault) ∧ tables final.store = tables world.store ∧
        (∀ new, .upsertProposal new ∉ trace.operations) ∨
      ∃ proposal,
        Ledger.byId? Ledger.Proposal.id (tables world.store).proposals (.ofNat event.proposal) =
          some proposal ∧
        result = .ok () ∧ (proposal.settledAt ≠ 0 → proposal.settledAt.equals height) ∧
        tables final.store =
          ((tables world.store).perform (.upsertProposal (event.row height proposal))).2 ∧
        trace.operations =
          [.proposal (.ofNat event.proposal), .upsertProposal (event.row height proposal)] := by
  obtain ⟨quiet, allQuiet, ⟨failed, same, rfl⟩ | ⟨middle, rest, storing, looked, rfl⟩⟩ :=
    record_bind_cases discreet kept ending
  · exact .inl ⟨failed, same, by simp [Trace.operations_of_quiet allQuiet]⟩
  replace looked : tables middle.store = tables world.store := looked
  simp only [Ledger.Tables.perform] at storing
  cases found : Ledger.byId? Ledger.Proposal.id (tables world.store).proposals
    (.ofNat event.proposal) with
  | none =>
      rw [found] at storing
      obtain ⟨rfl, rfl, rfl⟩ := ends_fail.mp storing
      exact .inl ⟨⟨_, rfl⟩, looked, by simp [Trace.operations_of_quiet allQuiet]⟩
  | some proposal =>
      rw [found] at storing
      dsimp only at storing
      split at storing
      · obtain ⟨rfl, rfl, rfl⟩ := ends_fail.mp storing
        exact .inl ⟨⟨_, rfl⟩, looked, by simp [Trace.operations_of_quiet allQuiet]⟩
      next here =>
      obtain ⟨quiet', allQuiet', ⟨failed, same, rfl⟩ | ⟨last, rest', logging, performed, rfl⟩⟩ :=
        record_bind_cases discreet kept storing
      · refine .inl ⟨failed, same.trans looked, ?_⟩
        simp [Trace.operations_of_quiet allQuiet, Trace.operations_of_quiet allQuiet']
      · obtain ⟨rfl, rfl, rfl⟩ := ends_log.mp logging
        refine .inr ⟨proposal, rfl, rfl, by simpa using here, looked ▸ performed, ?_⟩
        simp [Trace.operations_of_quiet allQuiet, Trace.operations_of_quiet allQuiet']

theorem onSettlement_settled {event : Event.Settlement} {height : Height} {status : Number}
    {world final : World others} {trace : Trace} (settled : row.settledAt ≠ 0)
    (on : Number.ofNat event.proposal = row.id)
    (stored : Ledger.byId? Ledger.Proposal.id (tables world.store).proposals row.id =
      some { row with status })
    (ending : (onSettlement event height).Ends world (.ok ()) trace final) :
    row.settledAt.equals height ∧
      tables final.store = ((tables world.store).perform
        (.upsertProposal { row with status := .ofNat event.state })).2 ∧
      trace.operations =
        [.proposal row.id, .upsertProposal { row with status := .ofNat event.state }] := by
  obtain ⟨⟨_, impossible⟩, _⟩ | ⟨proposal, found, _, here, performed, all⟩ :=
    onSettlement_cases discreet kept ending
  · cases impossible
  rw [on] at found all
  obtain rfl : proposal = { row with status } := Option.some_inj.mp (found.symm.trans stored)
  have again : row.settledAt.equals height := here settled
  -- The row is settled anew at the height at which it is settled already.
  have new : event.row height { row with status } = { row with status := .ofNat event.state } := by
    rw [Event.Settlement.row, (Number.equals_iff.mp again).1]
  rw [new] at performed all
  exact ⟨again, performed, all⟩

theorem onSettlement_elsewhere {event : Event.Settlement} {height : Height} {status : Number}
    {world final : World others} {fault : Fault} {trace : Trace} (settled : row.settledAt ≠ 0)
    (on : Number.ofNat event.proposal = row.id) (away : ¬ row.settledAt.equals height)
    (stored : Ledger.byId? Ledger.Proposal.id (tables world.store).proposals row.id =
      some { row with status })
    (ending : (onSettlement event height).Ends world (.error fault) trace final)
    (silent : fault.words? = none) : .recorded (.proposal row.id) false ∈ trace := by
  obtain ⟨quiet, _, ⟨_, _, rfl⟩ | ⟨middle, rest, storing, _, rfl⟩⟩ :=
    record_bind_cases discreet kept ending
  · simp [on]
  · simp only [Ledger.Tables.perform, on, stored] at storing
    rw [if_pos ⟨settled, by simpa using away⟩] at storing
    cases (ends_fail.mp storing).1
    cases silent

/-!
## Events about other proposals
-/

end World

/-- An event of a kind is a proposal of an id or a settlement of it. -/
def Event.IsOn (id : Number) : (kind : Event.Kind) → kind.Content → Prop
  | .grant, _ => False
  | .discussion, _ => False
  | .proposal, content => .ofNat content.index = id
  | .settlement, content => .ofNat content.proposal = id

/-- An operation stores no proposal of an id. -/
def Ledger.Operation.Spares (id : Number) : Ledger.Operation → Prop
  | .upsertProposal new => new.id ≠ id
  | _ => True

theorem Ledger.Operation.Spares.respects {row : Ledger.Proposal} {operation : Ledger.Operation}
    (spares : operation.Spares row.id) : operation.Respects row := by
  cases operation with
  | upsertProposal new => exact fun same => (spares same).elim
  | _ => trivial

theorem Ledger.Tables.byId?_replay_of_spares {id : Number} {operations : List Ledger.Operation}
    (spared : ∀ operation ∈ operations, operation.Spares id) (tables : Ledger.Tables) :
    Ledger.byId? Ledger.Proposal.id (tables.replay operations).proposals id =
      Ledger.byId? Ledger.Proposal.id tables.proposals id := by
  induction operations generalizing tables with
  | nil => rfl
  | cons operation rest ih =>
      have here := spared operation List.mem_cons_self
      rw [Ledger.Tables.replay_cons, ih fun other member => spared other (List.mem_cons_of_mem _ member)]
      cases operation with
      | upsertProposal new => exact (Ledger.byId?_replaceById ..).trans (if_neg here)
      | _ => rfl

namespace World

variable {others : Collaborators} {tables : others.Store → Ledger.Tables} (discreet : others.Discreet)
  (kept : others.books.KeptIn tables) {height : Height} {ordinal id : Number}

include discreet kept

theorem handler_spares {kind : Event.Kind} {content : kind.Content}
    (other : ¬ Event.IsOn id kind content) {world final : World others} {result : Except Fault Unit}
    {trace : Trace} (ending : (handler height ordinal kind content).Ends world result trace final) :
    ∀ operation ∈ trace.operations, operation.Spares id := by
  let spared (note : Note) : Prop := ∀ operation, note = .recorded operation true → operation.Spares id
  have outside : ∀ note : Note, note.isOutside → spared note := by
    rintro note outside operation rfl
    cases outside
  have steps := steps_noting discreet kept spared (·.Spares id) (fun _ => True) outside
    (by simp [spared]) (by simp [spared]) (by simp [spared])
  have parts := steps.parts fun line => outside _ rfl
  have advises := advise_keeps steps fun line => outside _ rfl
  intro operation member
  cases kind with
  | grant =>
      exact onGrant_keeps parts _ trivial trivial ending _ (Trace.mem_operations member) operation rfl
  | discussion =>
      exact onDiscussion_keeps parts advises _ _ trivial trivial ending _ (Trace.mem_operations member)
        operation rfl
  | proposal =>
      exact onProposal_keeps parts advises _ trivial other ending _ (Trace.mem_operations member)
        operation rfl
  | settlement =>
      -- The proposal that is stored is the one that was found, and so of the settlement's own id.
      cases operation with
      | upsertProposal new =>
          obtain ⟨_, _, none⟩ | ⟨proposal, found, _, _, _, all⟩ := onSettlement_cases discreet kept ending
          · exact (none new member).elim
          · rw [all] at member
            obtain rfl : new = content.row height proposal := by simpa using member
            exact (Ledger.id_of_byId? found).trans_ne other
      | _ => trivial

end World

/-!
## Dispatching
-/

variable {row : Ledger.Proposal} {tag : String} {event : Event} {height : Height} {ordinal : Number}
  {outcome : Option Outcome} {result : Except Fault Outcome}

theorem Note.respectsSettled_of_other
    (other : ∀ kind content, Event.Kind.named? tag = some kind → event.decode? kind = some content →
      ¬ Event.IsOn row.id kind content) (before : Trace) :
    (Note.dispatched tag height ordinal event outcome).RespectsSettled row before := by
  constructor
  case proposal =>
    intro _ _ _ _ content same decoded on
    cases same
    exact (other .proposal content rfl decoded on).elim
  case elsewhere =>
    intro _ _ _ _ content same decoded on
    cases same
    exact (other .settlement content rfl decoded on).elim
  case again =>
    intro _ _ _ _ content same decoded on
    cases same
    exact (other .settlement content rfl decoded on).elim

theorem Note.respectsSettled_proposal {before : Trace} (refused : before.TurnsDown row outcome)
    (unasked : before.handling.consultations = []) :
    (Note.dispatched "proposal" height ordinal event outcome).RespectsSettled row before := by
  constructor
  case proposal =>
    intro _ _ _ _ _ same _ _
    cases same
    exact ⟨refused, unasked⟩
  case elsewhere =>
    intro _ _ _ _ _ same
    simp at same
  case again =>
    intro _ _ _ _ _ same
    simp at same

theorem Note.respectsSettled_settlement {before : Trace}
    (elsewhere : ¬ row.settledAt.equals height → before.TurnsDown row outcome)
    (again : row.settledAt.equals height →
      outcome = some .handled ∧ (∃ new, .upsertProposal new ∈ before.handling.operations) ∨
        (outcome = some .failed ∨ outcome = none) ∧
          ∀ new, .upsertProposal new ∉ before.handling.operations) :
    (Note.dispatched "settle_proposal" height ordinal event outcome).RespectsSettled row before := by
  constructor
  case proposal =>
    intro _ _ _ _ _ same
    simp at same
  case elsewhere =>
    intro _ _ _ _ _ same _ _
    cases same
    exact elsewhere
  case again =>
    intro _ _ _ _ _ same _ _
    cases same
    exact again

theorem Note.statusOf?_settlement {content : Event.Settlement} (again : row.settledAt.equals height)
    (decoded : event.decode? .settlement = some content)
    (on : Number.ofNat content.proposal = row.id) :
    (Note.dispatched "settle_proposal" height ordinal event (some .handled)).statusOf? row =
      some (.ofNat content.state) := by
  rw [Note.statusOf?, if_pos ⟨rfl, again⟩, decoded, Option.filter_some, if_pos (decide_eq_true on)]
  rfl

theorem Note.statusOf?_of_other
    (other : ∀ kind content, Event.Kind.named? tag = some kind → event.decode? kind = some content →
      ¬ Event.IsOn row.id kind content) :
    (Note.dispatched tag height ordinal event outcome).statusOf? row = none := by
  match outcome with
  | some .handled =>
      simp only [Note.statusOf?]
      split
      · next settles =>
        cases decoded : event.decode? .settlement with
        | none => rfl
        | some content =>
            have off : Number.ofNat content.proposal ≠ row.id :=
              other .settlement content (settles.1 ▸ rfl) decoded
            rw [Option.filter_some, if_neg (by simpa using off)]
            rfl
      · rfl
  | some .ignored | some .skipped | some .failed | none => rfl

namespace World

variable {others : Collaborators} {tables : others.Store → Ledger.Tables} (discreet : others.Discreet)
  (kept : others.books.KeptIn tables)

include discreet kept

omit discreet kept in
private theorem respectsSettled_of_handling {world final : World others} {handling : Trace}
    (none : ∀ note ∈ handling, ¬ note.IsDispatch)
    (holds : ∀ status,
      Ledger.byId? Ledger.Proposal.id (tables world.store).proposals row.id =
        some { row with status } →
      Ledger.byId? Ledger.Proposal.id (tables final.store).proposals row.id = some { row with
          status := ((Note.dispatched tag height ordinal event outcome).statusOf? row).getD status } ∧
        (∀ operation ∈ handling.operations, operation.Respects row) ∧
        ∀ earlier : Trace, earlier.AtRest →
          (Note.dispatched tag height ordinal event outcome).RespectsSettled row
            (earlier ++ handling)) :
    RespectsSettled tables row world
      (handling ++ [.dispatched tag height ordinal event outcome]) final := by
  refine ⟨Trace.atRest_concat_of_dispatch _ trivial, fun status stored => ?_⟩
  obtain ⟨found, respected, noted⟩ := holds status stored
  rw [Trace.statusOf_concat none, Trace.operations_append]
  refine ⟨found, by simpa [Trace.operations] using respected, fun earlier rest => ?_⟩
  refine Trace.Everywhere.append ?_ (Trace.everywhere_singleton (by simpa using noted earlier rest))
  exact Trace.everywhere_of_forall fun note member _ =>
    Note.respectsSettled_of_not_dispatch (none note member)

theorem dispatch_respectsSettled_of_other {world final : World others} {handling : Trace}
    (dispatched : Dispatched tag event height ordinal world result handling final)
    (other : ∀ kind content, Event.Kind.named? tag = some kind → event.decode? kind = some content →
      ¬ Event.IsOn row.id kind content) :
    RespectsSettled tables row world
      (handling ++ [.dispatched tag height ordinal event result.toOption]) final := by
  -- What the ledger does for the event, it does not do to the row.
  have replayed : Replays tables world handling final :=
    dispatched.keeps replays_chaining (fun _ _ => rfl) fun kind content _ _ =>
      (steps_replays discreet kept).handler Note.undone_of_logged (fun _ _ => trivial) _ kind content
  have sparing : Chaining fun (_ : World others) trace (_ : World others) =>
      ∀ operation ∈ Trace.operations trace, operation.Spares row.id := by
    constructor
    case refl => simp
    case trans =>
      intro _ _ _ first second before after
      rw [Trace.operations_append]
      exact List.forall_mem_append.mpr ⟨before, after⟩
  have spared : ∀ operation ∈ handling.operations, operation.Spares row.id :=
    dispatched.keeps sparing (by simp) fun kind content named decoded _ _ _ _ ending =>
      handler_spares discreet kept (other kind content named decoded) ending
  refine respectsSettled_of_handling (dispatched.no_dispatch discreet kept) fun status stored => ?_
  refine ⟨?_, fun operation member => (spared operation member).respects,
    fun earlier _ => Note.respectsSettled_of_other other _⟩
  rw [Note.statusOf?_of_other other, replayed, Ledger.Tables.byId?_replay_of_spares spared]
  exact stored

theorem dispatch_respectsSettled_of_proposal {world final : World others} {handling : Trace}
    (settled : row.settledAt ≠ 0)
    (dispatched : Dispatched "proposal" event height ordinal world result handling final)
    {content : Event.Proposal} (decoded : event.decode? .proposal = some content)
    (on : Number.ofNat content.index = row.id) :
    RespectsSettled tables row world
      (handling ++ [.dispatched "proposal" height ordinal event result.toOption]) final := by
  have none := dispatched.no_dispatch discreet kept
  refine respectsSettled_of_handling none fun status stored => ?_
  -- However the handler ends, it has stored nothing and has not turned to the agent.
  have turned_down : ∀ {handling : Trace} {outcome : Option Outcome},
      tables final.store = tables world.store → (∀ note ∈ handling, ¬ note.IsOfDispatch) →
      (Note.dispatched "proposal" height ordinal event outcome).statusOf? row = .none →
      (∀ earlier : Trace, Trace.TurnsDown (earlier ++ handling) row outcome) →
      Ledger.byId? Ledger.Proposal.id (tables final.store).proposals row.id = some { row with
          status :=
            ((Note.dispatched "proposal" height ordinal event outcome).statusOf? row).getD status } ∧
        (∀ operation ∈ handling.operations, operation.Respects row) ∧
        ∀ earlier : Trace, earlier.AtRest →
          (Note.dispatched "proposal" height ordinal event outcome).RespectsSettled row
            (earlier ++ handling) := by
    intro handling outcome same apart silent refused
    refine ⟨?_, Ledger.Operation.respects_of_none (Trace.operations_of_none apart) row, ?_⟩
    · rw [silent, same]
      exact stored
    · intro earlier rest
      exact Note.respectsSettled_proposal (refused earlier)
        (rest.append (Trace.atRest_of_none apart)).consultations
  cases dispatched.of_typed rfl decoded with
  | handled done =>
      obtain ⟨⟨_, impossible, _⟩, _⟩ := onProposal_settled discreet kept settled on stored done
      cases impossible
  | failed failed worded =>
      obtain ⟨_, same, apart⟩ := onProposal_settled discreet kept settled on stored failed
      refine turned_down same ?_ rfl fun _ => .inl rfl
      exact List.forall_mem_append.mpr ⟨apart, by simp [Note.IsOfDispatch]⟩
  | silenced failed silent =>
      obtain ⟨⟨_, failing, refused⟩, same, apart⟩ :=
        onProposal_settled discreet kept settled on stored failed
      cases failing
      refine turned_down same apart rfl fun earlier => .inr ⟨rfl, ?_⟩
      rw [Trace.handling_append_of_none _ none]
      exact List.mem_append_right _ (refused silent)

theorem dispatch_respectsSettled_of_settlement {world final : World others} {handling : Trace}
    (settled : row.settledAt ≠ 0)
    (dispatched : Dispatched "settle_proposal" event height ordinal world result handling final)
    {content : Event.Settlement} (decoded : event.decode? .settlement = some content)
    (on : Number.ofNat content.proposal = row.id) :
    RespectsSettled tables row world
      (handling ++ [.dispatched "settle_proposal" height ordinal event result.toOption]) final := by
  have none := dispatched.no_dispatch discreet kept
  refine respectsSettled_of_handling none fun status stored => ?_
  -- A handler that fails has stored nothing.
  have undoes : ∀ {fault : Fault} {handling : Trace} {outcome : Option Outcome} (more : Trace),
      (onSettlement content height).Ends world (.error fault) handling final →
      (∀ note ∈ handling ++ more, ¬ note.IsDispatch) → more.operations = [] →
      (outcome = some .failed ∨ outcome = .none) →
      (∀ earlier : Trace, ¬ row.settledAt.equals height →
        Trace.TurnsDown (earlier ++ (handling ++ more)) row outcome) →
      Ledger.byId? Ledger.Proposal.id (tables final.store).proposals row.id = some { row with
          status := ((Note.dispatched "settle_proposal" height ordinal event
            outcome).statusOf? row).getD status } ∧
        (∀ operation ∈ Trace.operations (handling ++ more), operation.Respects row) ∧
        ∀ earlier : Trace, earlier.AtRest →
          (Note.dispatched "settle_proposal" height ordinal event outcome).RespectsSettled row
            (earlier ++ (handling ++ more)) := by
    intro fault handling outcome more failed none idle unhandled away
    obtain ⟨_, same, undone⟩ | ⟨_, _, impossible, _⟩ := onSettlement_cases discreet kept failed
    swap
    · cases impossible
    have undone : ∀ new, .upsertProposal new ∉ Trace.operations (handling ++ more) := by
      simpa [idle] using undone
    refine ⟨?_, Ledger.Operation.respects_of_none undone row, fun earlier rest => ?_⟩
    · rw [same]
      obtain rfl | rfl := unhandled <;> exact stored
    · refine Note.respectsSettled_settlement (away earlier) fun _ => ?_
      refine .inr ⟨unhandled, fun new member => ?_⟩
      rw [Trace.handling_append_of_none _ none, Trace.operations_append] at member
      rcases List.mem_append.mp member with before | here
      · exact rest.operations new before
      · exact undone new here
  cases dispatched.of_typed rfl decoded with
  | handled done =>
      obtain ⟨again, performed, all⟩ := onSettlement_settled discreet kept settled on stored done
      refine ⟨?_, by simp [all, Ledger.Operation.Respects], fun earlier _ => ?_⟩
      · rw [Except.toOption, Note.statusOf?_settlement again decoded on, performed]
        exact (Ledger.byId?_replaceById ..).trans (if_pos rfl)
      · refine Note.respectsSettled_settlement (fun away => (away again).elim) fun _ => ?_
        refine .inl ⟨rfl, { row with status := .ofNat content.state }, ?_⟩
        rw [Trace.handling_append_of_none _ none, Trace.operations_append, all]
        simp
  | failed failed worded => exact undoes _ failed none rfl (.inl rfl) fun _ _ => .inl rfl
  | silenced failed silent =>
      have holds := undoes [] failed (by simpa using none) rfl (.inr rfl) fun earlier away => ?_
      · rwa [List.append_nil] at holds
      · refine .inr ⟨rfl, ?_⟩
        rw [List.append_nil, Trace.handling_append_of_none _ none]
        exact List.mem_append_right _
          (onSettlement_elsewhere discreet kept settled on away stored failed silent)

theorem dispatch_respectsSettled (settled : row.settledAt ≠ 0) (tag : String) (event : Event)
    (height : Height) (ordinal : Number) :
    Keeps (RespectsSettled tables row : World others → Trace → World others → Prop)
      (dispatch tag event height ordinal) := by
  intro world result trace final ending
  obtain ⟨handling, dispatched, rfl⟩ := dispatch_cases ending
  -- Two of the four handlers store proposals, and each only the one that its event is on.
  by_cases on : ∃ kind content, Event.Kind.named? tag = some kind ∧
    event.decode? kind = some content ∧ Event.IsOn row.id kind content
  · obtain ⟨kind, content, named, decoded, on⟩ := on
    cases tag_of_named named
    cases kind with
    | grant => exact on.elim
    | discussion => exact on.elim
    | proposal =>
        exact dispatch_respectsSettled_of_proposal discreet kept settled dispatched decoded on
    | settlement =>
        exact dispatch_respectsSettled_of_settlement discreet kept settled dispatched decoded on
  · refine dispatch_respectsSettled_of_other discreet kept dispatched ?_
    exact fun kind content named decoded about => on ⟨kind, content, named, decoded, about⟩

/-!
## All else
-/

theorem reconcile_respectsSettled (height : Height) :
    Keeps (RespectsSettled tables row : World others → Trace → World others → Prop)
      (reconcile height) := by
  have parts := parts_noting discreet kept (fun note => ¬ note.IsOfDispatch)
    (fun operation => ∀ succeeded, ¬ (Note.recorded operation succeeded).IsOfDispatch) (fun _ => True)
    (fun _ => Note.not_ofDispatch_of_outside) (fun _ => id) (fun _ _ => ⟨id, fun _ => id⟩)
  intro world result trace final ending
  have same := congrArg Ledger.Tables.proposals (reconcile_untouched discreet kept height ending)
  refine respectsSettled_of_apart same ?_
  refine reconcile_keeps parts ?_ ?_ (fun _ _ => trivial) (Noting.note id) ending
  · intro operation casting succeeded
    cases operation <;> first | exact id | exact casting.elim
  · intro operation lookup succeeded
    cases operation <;> first | exact id | exact lookup.elim

end World

namespace Loop

variable {others : Collaborators} {tables : others.Store → Ledger.Tables} (discreet : others.Discreet)
  (kept : others.books.KeptIn tables)

include discreet kept

theorem session_respectsSettled (settled : row.settledAt ≠ 0) (options : FollowOptions)
    (acts : List Act) (loop : Loop) :
    Keeps (RespectsSettled tables row : World others → Trace → World others → Prop)
      (session options acts loop) := by
  have steps := World.steps_untouched discreet kept Ledger.Tables.proposals
  have parts := World.parts_noting discreet kept (fun note => ¬ note.IsOfDispatch)
    (∃ id height, · = .saveProgress id height) (fun _ => True) (fun _ => Note.not_ofDispatch_of_outside)
    (by rintro _ ⟨_, _, rfl⟩ _; exact id) (fun _ _ => ⟨id, fun _ => id⟩)
  have between : Between options (RespectsSettled tables row) :=
    (between_idle discreet kept).mono World.respectsSettled_chaining fun idle =>
      World.respectsSettled_of_apart (congrArg _ idle.1) fun note member =>
        Note.not_ofDispatch_of_idle (idle.2 note member)
  refine session_keeps between.around ?_ (World.dispatch_respectsSettled discreet kept settled)
    (World.reconcile_respectsSettled discreet kept) ?_ ?_ acts loop
  · intro height world result trace final ending
    exact World.respectsSettled_of_apart (steps.ask _ trivial ending) (parts.ask _ trivial ending)
  · intro height world result trace final ending
    exact World.respectsSettled_of_apart (steps.record _ (fun _ => rfl) ending)
      (parts.record _ ⟨_, _, rfl⟩ ending)
  · exact Keeps.modify fun _ => World.respectsSettled_of_apart rfl (by simp)

/-- What a settled proposal stays while the indexer does what it is told. -/
structure StaysSettled (tables : others.Store → Ledger.Tables) (row : Ledger.Proposal)
    (world : World others) (trace : Trace) (final : World others) : Prop where
  /-- In the end it has the status that it was last set to, and else is what it was. -/
  stored : Ledger.byId? Ledger.Proposal.id (tables final.store).proposals row.id =
    some { row with status := trace.statusOf row row.status }
  replayed : tables final.store = (tables world.store).replay trace.operations
  /-- At no time is it anything else but for its status. -/
  always : ∀ before after, trace = before ++ after →
    ∃ status, Ledger.byId? Ledger.Proposal.id
      ((tables world.store).replay before.operations).proposals row.id = some { row with status }
  dispatches : trace.Everywhere fun before note => note.RespectsSettled row before

/-- A settled proposal stays what it is, whatever is dispatched from then on, as of any height, and
whatever the ledger refuses and the agent answers. Only a settlement at the same height sets its
status. -/
theorem session_staysSettled {options : FollowOptions} {acts : List Act} {loop : Loop}
    {world final : World others} {result : Except Fault (List Reply × Loop)} {trace : Trace}
    (settled : row.settledAt ≠ 0)
    (stored : Ledger.byId? Ledger.Proposal.id (tables world.store).proposals row.id = some row)
    (ending : (session options acts loop).Ends world result trace final) :
    StaysSettled tables row world trace final := by
  obtain ⟨_, respects⟩ := session_respectsSettled discreet kept settled options acts loop ending
  obtain ⟨found, respected, noted⟩ := respects row.status stored
  refine ⟨found, session_replays discreet kept options acts loop ending, ?_, ?_⟩
  · rintro before after rfl
    refine Ledger.Tables.byId?_replay (fun operation member => respected operation ?_) stored
    rw [Trace.operations_append]
    exact List.mem_append_left _ member
  · exact noted [] (Trace.atRest_of_none (by simp))

end Loop

namespace Loop

/-- A proposal that was settled at the first height. -/
def settledRow : Ledger.Proposal where
  id := .ofNat 7
  proposerIndex := .ofNat 3
  proposerAddress := "AA03"
  data := [104, 105]
  createdAt := .ofNat 1
  settledAt := .ofNat 1
  status := .ofNat 4

/-- A world with that proposal, whose ledger refuses to store a proposal once. -/
def settledWorld : World Collaborators.inMemory :=
  World.inMemory { head := .ofNat 2, blocks := [Chain.blockOf 1 [.making "7"]] }
    { proposals := [settledRow] } [("upsertProposal", [.other "disk full"])]

/-- The proposal is made again, is settled at its height, which the ledger refuses first, and is
settled at another height. -/
def settledActs : List Act :=
  [.tick, .dispatch "proposal" (.making "7") (.ofNat 5) 0,
    .dispatch "settle_proposal" (.settling "7") (.ofNat 1) 0,
    .dispatch "settle_proposal" (.settling "7") (.ofNat 1) 0, .reconcile (.ofNat 1), .restart,
    .dispatch "settle_proposal" (.settling "7") (.ofNat 2) 0]

theorem session_staysSettled_in_settledWorld :
    ∃ result trace final,
      (session (optionsFrom 1) settledActs {}).Ends settledWorld result trace final ∧
        StaysSettled Ledger.Refusing.ledger settledRow settledWorld trace final ∧
        trace.statusOf settledRow settledRow.status = .ofNat 2 := by
  have ending := (session (optionsFrom 1) settledActs {}).ends settledWorld
  refine ⟨_, _, _, ending, ?_, by decide +kernel⟩
  exact session_staysSettled Collaborators.discreet_inMemory Collaborators.keptIn_inMemory
    (by decide) (by decide +kernel) ending

end Loop

end RollCall
