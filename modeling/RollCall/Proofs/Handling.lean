import RollCall.Proofs.Casting
import RollCall.Proofs.Dispatching

/-!
# What handlers do to the tables

Where no handler's operation is refused, dispatching the events of a block makes of the tables what
`Tables.absorbAll` says, whether the handlers run to their ends or not. Refusals of votes and of
progress are left open: no handler asks for these.
-/

set_option autoImplicit false

namespace RollCall

open Call

/-- The operations that store votes and progress. -/
def Ledger.Operation.IsRefusable : Ledger.Operation → Prop
  | .insertProposalVote _ => True
  | .insertGrantVote _ => True
  | .saveProgress _ _ => True
  | _ => False

instance (operation : Ledger.Operation) : Decidable operation.IsRefusable :=
  decidable_of_iff
    (operation matches .insertProposalVote _ | .insertGrantVote _ | .saveProgress _ _)
    (by cases operation <;> simp [Ledger.Operation.IsRefusable])

theorem Ledger.Operation.not_refusable_of_handlers {operation : Ledger.Operation} {height : Height}
    (handlers : operation.IsHandlersAt height) : ¬ operation.IsRefusable := by
  cases operation <;> first | exact handlers.elim | exact id

/-- A note tells of no refusal but that of a vote or of progress. -/
def Note.IsFirm : Note → Prop
  | .recorded operation false => operation.IsRefusable
  | _ => True

instance : (note : Note) → Decidable note.IsFirm
  | .recorded operation false => inferInstanceAs (Decidable operation.IsRefusable)
  | .recorded _ true | .logged _ | .requested _ | .executed _ | .asked _ | .answered _ _
  | .consulted _ | .dispatched .. | .reconciled _ => .isTrue trivial

namespace World

variable {others : Collaborators} (discreet : others.Discreet)
  {tables : others.Store → Ledger.Tables} (kept : others.books.KeptIn tables)

include discreet kept

/-- An operation is refused and nothing more takes place, or it is done and then the rest does. -/
theorem record_bind_cases {β : Type} {operation : Ledger.Operation}
    {next : operation.Answer → Call (World others) β} {world final : World others}
    {result : Except Fault β} {trace : Trace}
    (ending : (record operation >>= next).Ends world result trace final) :
    ∃ quiet : Trace, (∀ note ∈ quiet, note.isOutside) ∧
      ((∃ fault, result = .error fault) ∧ tables final.store = tables world.store ∧
          trace = quiet ++ [.recorded operation false] ∨
        ∃ middle rest,
          (next ((tables world.store).perform operation).1).Ends middle result rest final ∧
            tables middle.store = ((tables world.store).perform operation).2 ∧
            trace = quiet ++ .recorded operation true :: rest) := by
  rcases ends_bind.mp ending with ⟨fault, rfl, failed⟩ | ⟨value, middle, first, second, done,
    continued, rfl⟩
  · obtain ⟨quiet, allQuiet, ⟨impossible, _⟩ | ⟨_, same, rfl⟩⟩ := record_ends discreet kept failed
    · cases impossible
    · exact ⟨quiet, allQuiet, .inl ⟨⟨fault, rfl⟩, same, rfl⟩⟩
  · obtain ⟨quiet, allQuiet, ⟨same, performed, rfl⟩ | ⟨⟨_, impossible⟩, _⟩⟩ :=
      record_ends discreet kept done
    · cases same
      exact ⟨quiet, allQuiet, .inr ⟨middle, second, continued, performed, by simp⟩⟩
    · cases impossible

theorem record_bind_done {β : Type} {operation : Ledger.Operation}
    {next : operation.Answer → Call (World others) β} {world final : World others}
    {result : Except Fault β} {trace : Trace}
    (ending : (record operation >>= next).Ends world result trace final)
    (firm : ∀ note ∈ trace, note.IsFirm) (sure : ¬ operation.IsRefusable) :
    ∃ middle quiet rest,
      (next ((tables world.store).perform operation).1).Ends middle result rest final ∧
        tables middle.store = ((tables world.store).perform operation).2 ∧
        (∀ note ∈ quiet, note.isOutside) ∧ trace = quiet ++ .recorded operation true :: rest := by
  obtain ⟨quiet, allQuiet, ⟨_, _, rfl⟩ | ⟨middle, rest, continued, performed, rfl⟩⟩ :=
    record_bind_cases discreet kept ending
  · exact (sure (firm (.recorded operation false) (by simp))).elim
  · exact ⟨middle, quiet, rest, continued, performed, allQuiet, rfl⟩

/-!
## One handler
-/

section Handler

variable {height : Height} {world final : World others} {result : Except Fault Unit}
  {trace : Trace} (firm : ∀ note ∈ trace, note.IsFirm)

include firm

theorem onGrant_ends {event : Event.Grant}
    (ending : (onGrant event height).Ends world result trace final) :
    tables final.store =
      { tables world.store with
        validators := Ledger.replaceById Ledger.Validator.id event.validatorRow
          (tables world.store).validators
        grants := Ledger.replaceById Ledger.Grant.id (event.row height)
          (tables world.store).grants } := by
  obtain ⟨middle, quiet, more, storing, stored, _, rfl⟩ :=
    record_bind_done discreet kept ending firm id
  obtain ⟨last, quiet', rest, logging, stored', _, rfl⟩ :=
    record_bind_done discreet kept storing (fun note member => firm note (by simp [member])) id
  obtain ⟨_, _, rfl⟩ := ends_log.mp logging
  rw [stored', stored]
  rfl

theorem onDiscussion_ends {event : Event.Discussion} {ordinal : Number}
    (ending : (onDiscussion event height ordinal).Ends world result trace final) :
    tables final.store =
      { tables world.store with
        discussions :=
          if (tables world.store).hasDiscussion height ordinal then
            (tables world.store).discussions
          else (Ledger.append (event.row height ordinal) (tables world.store).discussions).2 } := by
  obtain ⟨middle, quiet, more, storing, looked, _, rfl⟩ :=
    record_bind_done discreet kept ending firm id
  cases found : ((tables world.store).perform (.discussionAt height ordinal)).1 with
  | some id =>
      rw [found] at storing
      obtain ⟨_, _, rfl⟩ := ends_log.mp storing
      have has : (tables world.store).hasDiscussion height ordinal := by
        obtain ⟨discussion, found, _⟩ := Option.map_eq_some_iff.mp found
        have at_place := List.find?_some found
        exact List.any_eq_true.mpr ⟨discussion, List.mem_of_find?_eq_some found, at_place⟩
      rw [looked, if_pos has]
      rfl
  | none =>
      rw [found] at storing
      dsimp only at storing
      obtain ⟨last, quiet', rest, telling, stored, _, rfl⟩ :=
        record_bind_done discreet kept storing (fun note member => firm note (by simp [member])) id
      have missing : ¬ (tables world.store).hasDiscussion height ordinal := by
        intro has
        obtain ⟨discussion, member, at_place⟩ := List.any_eq_true.mp has
        exact List.find?_eq_none.mp (Option.map_eq_none_iff.mp found) discussion member at_place
      have steps := steps_sameStore discreet
      have same : final.store = last.store := by
        refine steps.closed.bind (steps.log (fun _ => trivial) _ _ _ _) (fun _ => ?_) telling
        exact steps.closed.bind (advise_keeps steps (fun _ => trivial) _) fun _ =>
          steps.closed.pure _
      rw [same, stored, looked, if_neg missing]
      rfl

theorem storeProposal_ends {event : Event.Proposal}
    (ending : (storeProposal event height).Ends world result trace final) :
    tables final.store =
      { tables world.store with
        proposals := Ledger.replaceById Ledger.Proposal.id (event.row height)
          (tables world.store).proposals } := by
  obtain ⟨middle, quiet, rest, telling, stored, _, rfl⟩ :=
    record_bind_done discreet kept ending firm id
  have steps := steps_sameStore discreet
  have same : final.store = middle.store := by
    refine steps.closed.bind (steps.log (fun _ => trivial) _ _ _ _) (fun _ => ?_) telling
    refine steps.closed.bind (advise_keeps steps (fun _ => trivial) _) fun _ => ?_
    refine steps.closed.bind (advise_keeps steps (fun _ => trivial) _) fun comment => ?_
    cases comment with
    | none => exact steps.closed.pure _
    | some comment =>
        dsimp only
        split
        · exact steps.log (fun _ => trivial) _ _ _ _
        · exact steps.closed.pure _
  rw [same, stored]
  rfl

theorem onProposal_ends {event : Event.Proposal}
    (ending : (onProposal event height).Ends world result trace final) :
    tables final.store =
      { tables world.store with
        proposals := Ledger.storing Ledger.Proposal.id
          ((Event.Word.made event).row? height
            (Ledger.byId? Ledger.Proposal.id (tables world.store).proposals (.ofNat event.index)))
          (tables world.store).proposals } := by
  obtain ⟨middle, quiet, rest, storing, looked, _, rfl⟩ :=
    record_bind_done discreet kept ending firm id
  have untouched : tables middle.store = tables world.store := looked
  simp only [Ledger.Tables.perform] at storing
  generalize Ledger.byId? Ledger.Proposal.id (tables world.store).proposals (.ofNat event.index) =
    stored at storing ⊢
  split at storing
  · next settled found =>
    obtain ⟨_, _, rfl⟩ := ends_fail.mp storing
    obtain ⟨rfl, settledAt⟩ := Option.filter_eq_some_iff.mp found
    rw [untouched, Event.Word.row?, Option.any_some, if_pos settledAt]
    rfl
  · next found =>
    have stored' := storeProposal_ends discreet kept
      (fun note member => firm note (by simp [member])) storing
    have isOpen : ¬ stored.any (·.settledAt ≠ 0) := by
      intro settled
      cases stored with
      | none => cases settled
      | some old =>
          rw [Option.any_some] at settled
          rw [Option.filter_some, if_pos settled] at found
          cases found
    rw [stored', untouched, Event.Word.row?, if_neg isOpen]
    rfl

theorem onSettlement_ends {event : Event.Settlement}
    (ending : (onSettlement event height).Ends world result trace final) :
    tables final.store =
      { tables world.store with
        proposals := Ledger.storing Ledger.Proposal.id
          ((Event.Word.settled event).row? height
            (Ledger.byId? Ledger.Proposal.id (tables world.store).proposals
              (.ofNat event.proposal)))
          (tables world.store).proposals } := by
  obtain ⟨middle, quiet, rest, storing, looked, _, rfl⟩ :=
    record_bind_done discreet kept ending firm id
  have untouched : tables middle.store = tables world.store := looked
  simp only [Ledger.Tables.perform] at storing
  generalize Ledger.byId? Ledger.Proposal.id (tables world.store).proposals (.ofNat event.proposal) =
    stored at storing ⊢
  cases stored with
  | none =>
      obtain ⟨_, _, rfl⟩ := ends_fail.mp storing
      rw [untouched]
      rfl
  | some proposal =>
      simp only [Event.Word.row?, Option.bind_some]
      dsimp only at storing
      split at storing
      · next elsewhere =>
        obtain ⟨_, _, rfl⟩ := ends_fail.mp storing
        rw [untouched, if_pos elsewhere]
        rfl
      · next here =>
        obtain ⟨last, quiet', rest', logging, stored, _, rfl⟩ :=
          record_bind_done discreet kept storing (fun note member => firm note (by simp [member]))
            id
        obtain ⟨_, _, rfl⟩ := ends_log.mp logging
        rw [stored, untouched, if_neg here]
        rfl

end Handler

/-!
## One event
-/

variable {height : Height} {world final : World others} {trace : Trace}

theorem handle_ends {event : Event} {kind : Event.Kind} {content : kind.Content} {ordinal : Number}
    (typed : event.typed? = some ⟨kind, content⟩) {result : Except Fault Unit}
    (ending : (handler height ordinal kind content).Ends world result trace final)
    (firm : ∀ note ∈ trace, note.IsFirm) :
    tables final.store = (tables world.store).absorb height ordinal event := by
  cases kind with
  | grant =>
      rw [onGrant_ends discreet kept firm ending]
      simp [Ledger.Tables.absorb, Ledger.Tables.proposalRow?, Event.validatorRow?, Event.grantRow?,
        Event.discussionRow?, Event.proposalId?, typed, Ledger.storing]
  | discussion =>
      rw [onDiscussion_ends discreet kept firm ending]
      simp [Ledger.Tables.absorb, Ledger.Tables.proposalRow?, Event.validatorRow?, Event.grantRow?,
        Event.discussionRow?, Event.proposalId?, typed, Ledger.storing]
  | proposal =>
      rw [onProposal_ends discreet kept firm ending]
      simp [Ledger.Tables.absorb, Ledger.Tables.proposalRow?, Event.validatorRow?, Event.grantRow?,
        Event.discussionRow?, Event.proposalId?, Event.wordOn, typed, Ledger.storing]
  | settlement =>
      rw [onSettlement_ends discreet kept firm ending]
      simp [Ledger.Tables.absorb, Ledger.Tables.proposalRow?, Event.validatorRow?, Event.grantRow?,
        Event.discussionRow?, Event.proposalId?, Event.wordOn, typed, Ledger.storing]

omit discreet kept in
theorem absorb_of_untyped {event : Event} (untyped : event.typed? = none) (tables : Ledger.Tables)
    (ordinal : Number) : tables.absorb height ordinal event = tables := by
  simp [Ledger.Tables.absorb, Ledger.Tables.proposalRow?, Event.validatorRow?, Event.grantRow?,
    Event.discussionRow?, Event.proposalId?, untyped, Ledger.storing]

theorem dispatch_ends {event : Event} {ordinal : Number} {result : Except Fault Outcome}
    (ending : (dispatch event.type event height ordinal).Ends world result trace final)
    (firm : ∀ note ∈ trace, note.IsFirm) :
    tables final.store = (tables world.store).absorb height ordinal event := by
  obtain ⟨first, dispatched, rfl⟩ := dispatch_cases ending
  cases dispatched with
  | ignored unnamed =>
      rw [absorb_of_untyped]
      simp [Event.typed?, unnamed]
  | skipped line named malformed =>
      rw [absorb_of_untyped]
      simp [Event.typed?, named, malformed]
  | handled named decoded done =>
      exact handle_ends discreet kept (by simp [Event.typed?, named, decoded]) done
        fun note member => firm note (by simp [member])
  | failed named decoded failed _ _ =>
      exact handle_ends discreet kept (by simp [Event.typed?, named, decoded]) failed
        fun note member => firm note (by simp [member])
  | silenced named decoded failed _ =>
      exact handle_ends discreet kept (by simp [Event.typed?, named, decoded]) failed
        fun note member => firm note (by simp [member])

omit discreet kept in
/-- Where no operation of a handler is refused, dispatching does not fail. -/
theorem dispatch_succeeds {tag : String} {event : Event} {ordinal : Number}
    {result : Except Fault Outcome}
    (ending : (dispatch tag event height ordinal).Ends world result trace final)
    (firm : ∀ note ∈ trace, note.IsFirm) : ∃ outcome, result = .ok outcome := by
  obtain ⟨first, dispatched, rfl⟩ := dispatch_cases ending
  cases dispatched with
  | ignored => exact ⟨_, rfl⟩
  | skipped => exact ⟨_, rfl⟩
  | handled => exact ⟨_, rfl⟩
  | failed => exact ⟨_, rfl⟩
  | silenced named decoded failed silent =>
      obtain ⟨operation, handlers, refused⟩ := handler_refused failed silent
      have fair := firm (.recorded operation false) (List.mem_append_left _ refused)
      exact (Ledger.Operation.not_refusable_of_handlers handlers fair).elim

end World

/-!
## All events of a block
-/

/-- Whether a note tells that an event was dispatched. -/
def Note.IsDispatch : Note → Prop
  | .dispatched .. => True
  | _ => False

theorem Note.not_dispatch_of_outside {note : Note} (outside : note.isOutside) :
    ¬ note.IsDispatch := by
  cases note <;> simp_all [Note.isOutside, Note.IsDispatch]

namespace Trace

/-- Which events were dispatched, by which tag and as which ones of which height. -/
def dispatches (trace : Trace) : List (String × Height × Number × Event) :=
  trace.filterMap fun
    | .dispatched tag height ordinal event _ => some (tag, height, ordinal, event)
    | _ => none

@[simp] theorem dispatches_append (first second : Trace) :
    Trace.dispatches (first ++ second) = first.dispatches ++ second.dispatches :=
  List.filterMap_append

theorem dispatches_eq_nil {trace : Trace} (none : ∀ note ∈ trace, ¬ note.IsDispatch) :
    trace.dispatches = [] := by
  refine List.filterMap_eq_nil_iff.mpr fun note member => ?_
  cases note with
  | dispatched tag height ordinal event outcome => exact (none _ member trivial).elim
  | _ => rfl

end Trace

namespace World

variable {others : Collaborators} (discreet : others.Discreet)
  {tables : others.Store → Ledger.Tables} (kept : others.books.KeptIn tables)

include discreet kept

variable {height : Height}

theorem Dispatched.no_dispatch {tag : String} {event : Event} {ordinal : Number}
    {world final : World others} {result : Except Fault Outcome} {trace : Trace}
    (dispatched : Dispatched tag event height ordinal world result trace final) :
    ∀ note ∈ trace, ¬ note.IsDispatch := by
  have steps := steps_noting discreet kept (fun note => ¬ note.IsDispatch) (fun _ => True)
    (fun _ => True) (fun _ => Note.not_dispatch_of_outside) (fun _ => id) (fun _ _ _ => id)
    (fun _ _ => ⟨id, fun _ => id⟩)
  exact dispatched.keeps Noting.chaining (by simp [Noting, Note.IsDispatch])
    fun kind content _ _ => steps.handler (fun _ => id) (fun _ _ => trivial) _ kind content

/-- Every event of a block is dispatched once, in order, unless a dispatch fails. -/
theorem dispatchAll_dispatches {events : List Event} {ordinal handled : Nat}
    {world final : World others} {trace : Trace}
    (ending : (Loop.dispatchAll height events ordinal).Ends world (.ok handled) trace final) :
    trace.dispatches = (events.zipIdx ordinal).map fun (event, place) =>
      (event.type, height, .ofNat place, event) := by
  induction events generalizing ordinal world final handled trace with
  | nil =>
      obtain ⟨_, rfl, _⟩ := ends_pure.mp ending
      rfl
  | cons event rest ih =>
      obtain ⟨impossible, _⟩ | ⟨_, counted, _, _, later, done, remaining, same, rfl⟩ :=
        dispatchAll_cons_ends ending
      · cases impossible
      cases counted with
      | error fault => cases same
      | ok counted =>
          obtain ⟨handling, dispatched, rfl⟩ := dispatch_cases done
          have silent : handling.dispatches = [] :=
            Trace.dispatches_eq_nil (dispatched.no_dispatch discreet kept)
          rw [Trace.dispatches_append, Trace.dispatches_append, silent, ih remaining,
            List.zipIdx_cons, List.map_cons]
          rfl

omit discreet kept in
/-- Where no operation of a handler is refused, every event of a block is dispatched. -/
theorem dispatchAll_succeeds {events : List Event} {ordinal : Nat} {world final : World others}
    {result : Except Fault Nat} {trace : Trace}
    (ending : (Loop.dispatchAll height events ordinal).Ends world result trace final)
    (firm : ∀ note ∈ trace, note.IsFirm) : ∃ handled, result = .ok handled := by
  induction events generalizing ordinal world final result trace with
  | nil => exact ⟨_, (ends_pure.mp ending).1⟩
  | cons event rest ih =>
      obtain ⟨_, failed⟩ | ⟨_, _, _, _, _, _, remaining, rfl, rfl⟩ := dispatchAll_cons_ends ending
      · obtain ⟨_, impossible⟩ := dispatch_succeeds failed firm
        cases impossible
      · obtain ⟨_, rfl⟩ := ih remaining fun note member => firm note (List.mem_append_right _ member)
        exact ⟨_, rfl⟩

/-- The tables absorb a block event by event. -/
theorem dispatchAll_ends {events : List Event} {ordinal : Nat} {world final : World others}
    {result : Except Fault Nat} {trace : Trace}
    (ending : (Loop.dispatchAll height events ordinal).Ends world result trace final)
    (firm : ∀ note ∈ trace, note.IsFirm) :
    tables final.store = (tables world.store).absorbAll height events ordinal ∧
      ∀ pre event post, events = pre ++ event :: post →
        ∃ (before : Trace) (outcome : Outcome) (after : Trace),
          trace = before ++
            .dispatched event.type height (.ofNat (ordinal + pre.length)) event outcome :: after ∧
          (tables world.store).replay before.operations =
            (tables world.store).absorbAll height (pre ++ [event]) ordinal := by
  induction events generalizing ordinal world result trace final with
  | nil =>
      obtain ⟨_, _, rfl⟩ := ends_pure.mp ending
      exact ⟨rfl, by simp⟩
  | cons event rest ih =>
      obtain ⟨_, failed⟩ | ⟨outcome, _, middle, _, later, done, remaining, _, rfl⟩ :=
        dispatchAll_cons_ends ending
      · obtain ⟨_, impossible⟩ := dispatch_succeeds failed firm
        cases impossible
      have absorbed := dispatch_ends discreet kept done fun note member =>
        firm note (List.mem_append_left _ member)
      obtain ⟨handling, dispatched, rfl⟩ := dispatch_cases done
      have steps := steps_replays discreet kept
      have replayed : Replays tables world handling middle :=
        dispatched.keeps replays_chaining (fun _ _ => rfl) fun kind content _ _ =>
          steps.handler Note.undone_of_logged (fun _ _ => trivial) _ kind content
      rw [Replays, absorbed] at replayed
      obtain ⟨stored, each⟩ := ih remaining fun note member => firm note (by simp [member])
      refine ⟨by rw [stored, absorbed]; rfl, ?_⟩
      intro pre event' post split
      -- The event is the first one, or it is among the rest and is dispatched there by induction.
      cases pre with
      | nil =>
          cases split
          exact ⟨handling, outcome, later, List.append_assoc _ _ _, replayed.symm⟩
      | cons one pre =>
          cases split
          obtain ⟨before, outcome', after, rfl, same⟩ := each pre event' post rfl
          refine ⟨handling ++ [.dispatched event.type height (.ofNat ordinal) event (some outcome)] ++
            before, outcome', after, ?_, ?_⟩
          · rw [List.append_assoc _ before, List.length_cons, Nat.add_right_comm, Nat.add_assoc]
            rfl
          · rw [absorbed] at same
            rw [Trace.operations_append, Trace.operations_append, Ledger.Tables.replay_append,
              Ledger.Tables.replay_append, ← replayed]
            exact same

end World

end RollCall
