import RollCall.Follow
import RollCall.Proofs.Keeping

/-!
# The same calls with two sets of collaborators

A pass is put together of what is asked of the collaborators, whoever they are. So a relation between
calls with some collaborators and calls with others that each of the questions has, and that carries
over to what is put together, relates a pass with the former to the same pass with the latter.
-/

set_option autoImplicit false

namespace RollCall

open Call

/-- A relation between the calls with two sets of collaborators, that of whatever is asked of either
and of all that is put together alike. -/
structure Paired {others others' : Collaborators}
    (C : {α : Type} → Call (World others) α → Call (World others') α → Prop) : Prop where
  pure : ∀ {α : Type} (value : α), C (Pure.pure value) (Pure.pure value)
  fail : ∀ {α : Type} (fault : Fault), C (Call.fail fault : Call _ α) (Call.fail fault)
  bind : ∀ {α β : Type} {call : Call (World others) α} {call' : Call (World others') α}
    {next : α → Call (World others) β} {next' : α → Call (World others') β},
    C call call' → (∀ value, C (next value) (next' value)) → C (call >>= next) (call' >>= next')
  attempt : ∀ {α : Type} {call : Call (World others) α} {call' : Call (World others') α},
    C call call' → C call.attempt call'.attempt
  note : ∀ entry, C (Call.note entry) (Call.note entry)
  record : ∀ operation, C (World.record operation) (World.record operation)
  ask : ∀ question, C (World.ask question) (World.ask question)
  consult : ∀ request, C (World.consult request) (World.consult request)

namespace Paired

variable {others others' : Collaborators}
  {C : {α : Type} → Call (World others) α → Call (World others') α → Prop} (paired : Paired C)

include paired

theorem log (level : Log.Level) (source : Log.Source) (message : String)
    (facts : Option Members) :
    C (Call.log level source message facts) (Call.log level source message facts) :=
  paired.note _

theorem ofExcept {α : Type} (answer : Except Fault α) :
    C (Call.ofExcept answer) (Call.ofExcept answer) := by
  cases answer with
  | error fault => exact paired.fail fault
  | ok value => exact paired.pure value

/-- A fault that is logged, if there are words for it, before what follows. -/
theorem reporting {β : Type} (fault : Fault) (level : Log.Level) (source : Log.Source)
    (line : String → String) (facts : Option Members) {next : Call (World others) β}
    {next' : Call (World others') β} (same : C next next') :
    C (do
        let cause ← Call.ofExcept fault.message
        Call.log level source (line cause) facts
        next)
      (do
        let cause ← Call.ofExcept fault.message
        Call.log level source (line cause) facts
        next') := by
  apply paired.bind (paired.ofExcept _)
  intro cause
  exact paired.bind (paired.log _ _ _ _) fun _ => same

/-!
## Handlers
-/

theorem advise (request : Advice.Request) : C (World.advise request) (World.advise request) := by
  apply paired.bind (paired.attempt (paired.consult request))
  intro answer
  cases answer with
  | error fault => exact paired.reporting fault _ _ _ _ (paired.pure _)
  | ok answer => exact paired.pure _

theorem onGrant (event : Event.Grant) (height : Height) :
    C (World.onGrant event height) (World.onGrant event height) := by
  apply paired.bind (paired.record _)
  intro _
  exact paired.bind (paired.record _) fun _ => paired.log _ _ _ _

theorem onDiscussion (event : Event.Discussion) (height : Height) (ordinal : Number) :
    C (World.onDiscussion event height ordinal) (World.onDiscussion event height ordinal) := by
  apply paired.bind (paired.record _)
  intro stored
  cases stored with
  | some id => exact paired.log _ _ _ _
  | none =>
      apply paired.bind (paired.record _)
      intro id
      apply paired.bind (paired.log _ _ _ _)
      intro _
      exact paired.bind (paired.advise _) fun _ => paired.pure _

theorem storeProposal (event : Event.Proposal) (height : Height) :
    C (World.storeProposal event height) (World.storeProposal event height) := by
  apply paired.bind (paired.record _)
  intro _
  apply paired.bind (paired.log _ _ _ _)
  intro _
  apply paired.bind (paired.advise _)
  intro _
  apply paired.bind (paired.advise _)
  intro comment
  cases comment with
  | none => exact paired.pure _
  | some comment =>
      dsimp only
      split
      · exact paired.log _ _ _ _
      · exact paired.pure _

theorem onProposal (event : Event.Proposal) (height : Height) :
    C (World.onProposal event height) (World.onProposal event height) := by
  apply paired.bind (paired.record _)
  intro stored
  cases stored.filter (·.settledAt ≠ 0) with
  | some settled => exact paired.fail _
  | none => exact paired.storeProposal event height

theorem onSettlement (event : Event.Settlement) (height : Height) :
    C (World.onSettlement event height) (World.onSettlement event height) := by
  apply paired.bind (paired.record _)
  intro stored
  cases stored with
  | none => exact paired.fail _
  | some proposal =>
      dsimp only
      split
      · exact paired.fail _
      · exact paired.bind (paired.record _) fun _ => paired.log _ _ _ _

theorem handler (height : Height) (ordinal : Number) (kind : Event.Kind) (content : kind.Content) :
    C (World.handler height ordinal kind content) (World.handler height ordinal kind content) := by
  cases kind with
  | grant => exact paired.onGrant content height
  | discussion => exact paired.onDiscussion content height ordinal
  | proposal => exact paired.onProposal content height
  | settlement => exact paired.onSettlement content height

/-!
## Dispatching
-/

theorem handle (kind : Event.Kind) (event : Event) (height : Height) (ordinal : Number) :
    C (World.handle kind event height ordinal) (World.handle kind event height ordinal) := by
  unfold World.handle
  cases event.decode? kind with
  | none => exact paired.bind (paired.log _ _ _ _) fun _ => paired.pure _
  | some content => exact paired.bind (paired.handler height ordinal kind content) fun _ => paired.pure _

theorem outcomeOf (tag : String) (event : Event) (height : Height) (ordinal : Number) :
    C (World.outcomeOf tag event height ordinal) (World.outcomeOf tag event height ordinal) := by
  unfold World.outcomeOf
  cases Event.Kind.named? tag with
  | none => exact paired.pure _
  | some kind =>
      apply paired.bind (paired.attempt (paired.handle kind event height ordinal))
      intro outcome
      cases outcome with
      | ok outcome => exact paired.pure _
      | error fault => exact paired.reporting fault _ _ _ _ (paired.pure _)

theorem dispatch (tag : String) (event : Event) (height : Height) (ordinal : Number) :
    C (World.dispatch tag event height ordinal) (World.dispatch tag event height ordinal) := by
  apply paired.bind (paired.attempt (paired.outcomeOf tag event height ordinal))
  intro outcome
  exact paired.bind (paired.note _) fun _ => paired.ofExcept _

theorem dispatchAll (height : Height) (events : List Event) (ordinal : Nat) :
    C (Loop.dispatchAll height events ordinal) (Loop.dispatchAll height events ordinal) := by
  induction events generalizing ordinal with
  | nil => exact paired.pure _
  | cons event rest ih =>
      apply paired.bind (paired.dispatch _ event height _)
      intro outcome
      exact paired.bind (ih (ordinal + 1)) fun _ => paired.pure _

/-!
## Votes
-/

theorem resolve (address : String) : C (World.resolve address) (World.resolve address) := by
  unfold World.resolve
  cases addressBytes? address with
  | none => exact paired.fail _
  | some bytes => exact paired.bind (paired.ask _) fun _ => paired.ofExcept _

theorem signers (signatures : List Chain.Signature) :
    C (World.signers signatures) (World.signers signatures) := by
  induction signatures with
  | nil => exact paired.pure _
  | cons signature rest ih =>
      apply paired.bind (paired.resolve _)
      intro account
      exact paired.bind ih fun _ => paired.pure _

theorem target? (height : Height) : C (World.target? height) (World.target? height) := by
  apply paired.bind (paired.record _)
  intro created
  cases created with
  | some proposal => exact paired.pure _
  | none =>
      apply paired.bind (paired.record _)
      intro settled
      cases settled with
      | some proposal => exact paired.pure _
      | none => exact paired.bind (paired.record _) fun _ => paired.pure _

theorem hasVote (target : Target) (height : Height) (signer : Signer) :
    C (World.hasVote target height signer) (World.hasVote target height signer) := by
  cases target <;> exact paired.record _

theorem storeVote (target : Target) (height : Height) (signer : Signer) :
    C (World.storeVote target height signer) (World.storeVote target height signer) := by
  cases target <;> exact paired.bind (paired.record _) fun _ => paired.pure _

theorem storeVotes (target : Target) (height : Height) (signers : List Signer) :
    C (World.storeVotes target height signers) (World.storeVotes target height signers) := by
  induction signers with
  | nil => exact paired.pure _
  | cons signer rest ih =>
      apply paired.bind (paired.hasVote target height signer)
      intro has
      cases has with
      | true => exact ih
      | false =>
          apply paired.bind (paired.storeVote target height signer)
          intro _
          exact paired.bind ih fun _ => paired.pure _

theorem reconcileTarget (target : Target) (height : Height) :
    C (World.reconcileTarget target height) (World.reconcileTarget target height) := by
  apply paired.bind (paired.ask _)
  intro commit
  apply paired.bind (paired.signers _)
  intro signers
  apply paired.bind (paired.storeVotes target height signers)
  intro inserted
  exact paired.bind (paired.log _ _ _ _) fun _ => paired.pure _

theorem reconcile (height : Height) : C (World.reconcile height) (World.reconcile height) := by
  apply paired.bind (paired.target? height)
  intro target
  cases target with
  | none =>
      apply paired.bind (paired.pure _)
      intro reconciliation
      exact paired.bind (paired.note _) fun _ => paired.pure _
  | some target =>
      apply paired.bind (paired.reconcileTarget target height)
      intro reconciliation
      exact paired.bind (paired.note _) fun _ => paired.pure _

/-!
## The whole pass
-/

theorem process (options : FollowOptions) (height : Height) :
    C (Loop.process options height) (Loop.process options height) := by
  apply paired.bind (paired.ask _)
  intro results
  apply paired.bind (paired.dispatchAll height _ 0)
  intro handled
  apply paired.bind (paired.reconcile height)
  intro votes
  apply paired.bind (paired.record _)
  intro _
  split
  · exact paired.log _ _ _ _
  · exact paired.log _ _ _ _

theorem resumePoint (options : FollowOptions) :
    C (Loop.resumePoint options) (Loop.resumePoint options) := by
  apply paired.bind (paired.record _)
  intro last
  exact paired.bind (paired.log _ _ _ _) fun _ => paired.pure _

end Paired

end RollCall
