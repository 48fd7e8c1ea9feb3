import RollCall.Event.Typed
import RollCall.World

/-!
# Dispatching events

Each kind of event has a handler that stores what the event says. A handler's fault is logged and
ends there, so that the other events of the block are still handled. What the advisory agent answers
or fails to answer changes nothing in the ledger. A fault without words cannot be logged: one of the
agent ends the handler, and one of a handler ends the dispatch.
-/

set_option autoImplicit false

namespace RollCall

/-!
## The rows that events are stored as
-/

namespace Event

def Grant.row (event : Grant) (height : Height) : Ledger.Grant where
  id := .ofNat event.validator
  address := event.address
  height
  stake := .ofNat event.amount
  proposer := .ofNat event.proposerIndex
  proposerAddress := event.proposerAddress
  granted := event.granted

def Grant.validatorRow (event : Grant) : Ledger.Validator where
  id := .ofNat event.validator
  address := event.address
  agentUrl := event.agentUrl
  stake := .ofNat event.amount

def Discussion.row (event : Discussion) (height : Height) (ordinal : Number) :
    Ledger.Discussion where
  proposal := .ofNat event.proposal
  speakerIndex := .ofNat event.speaker
  speakerAddress := event.speakerAddress
  data := event.data
  height
  ordinal

/-- A proposal that is not settled. -/
def Proposal.row (event : Proposal) (height : Height) : Ledger.Proposal where
  id := .ofNat event.index
  proposerIndex := .ofNat event.proposer
  proposerAddress := event.proposerAddress
  data := event.data
  createdAt := height
  settledAt := 0
  status := .ofNat event.status

def Settlement.row (event : Settlement) (height : Height) (proposal : Ledger.Proposal) :
    Ledger.Proposal :=
  { proposal with status := .ofNat event.state, settledAt := height }

end Event

namespace World

variable {others : Collaborators}

/-!
## Handlers
-/

/-- Tells or asks the agent something; that it fails is only logged, if there are words for it. -/
def advise (request : Advice.Request) : Call (World others) (Option request.Answer) := do
  match ← (consult request).attempt with
  | .ok answer => return some answer
  | .error fault =>
      let cause ← Call.ofExcept fault.message
      Call.log .warn .dispatch s!"[agent] {request.operation} failed: {cause}"
      return none

/-- The fault of an event for a proposal that is settled already. -/
def alreadySettled (proposal : Nat) (settledAt : Height) : Fault :=
  .inconsistent s!"proposal #{proposal} already settled at {settledAt}"
    [("proposal", .number (.ofNat proposal)), ("settleHeight", .number settledAt)]

/-- A grant is stored, and then the validator that it is about. -/
def onGrant (event : Event.Grant) (height : Height) : Call (World others) Unit := do
  record (.upsertGrant (event.row height))
  record (.upsertValidator event.validatorRow)
  let decision := s!"validator={event.validator} grant={event.granted}"
  Call.log .info .dispatch s!"[grant] {decision} proposer={event.proposerIndex} height={height}"

/-- A discussion is stored once for each place in a block, and the agent is told when it is. -/
def onDiscussion (event : Event.Discussion) (height : Height) (ordinal : Number) :
    Call (World others) Unit := do
  match ← record (.discussionAt height ordinal) with
  | some id =>
      Call.log .debug .dispatch
        s!"[discussion] #{id} already stored, height={height} event={ordinal}"
  | none =>
      let id ← record (.insertDiscussion (event.row height ordinal))
      Call.log .info .dispatch
        s!"[discussion] #{id} proposal={event.proposal} speaker={event.speaker} height={height}"
      let _ ← advise <| .submitDiscussion (.ofNat event.proposal) event.speakerAddress
        (Utf8.decode event.data)

/-- A proposal is stored as unsettled. The agent is told of it and asked for a comment. -/
def storeProposal (event : Event.Proposal) (height : Height) : Call (World others) Unit := do
  record (.upsertProposal (event.row height))
  Call.log .info .dispatch
    s!"[proposal] #{event.index} proposer={event.proposer} status={event.status} height={height}"
  let number := Number.ofNat event.index
  let _ ← advise (.submitProposal number event.proposerAddress (Utf8.decode event.data))
  match ← advise (.requestComment number event.proposerAddress) with
  | some comment =>
      if comment ≠ "" then
        Call.log .info .dispatch s!"[agent] comment on proposal #{event.index}: {comment}"
  | none => pure ()

/-- A proposal takes the place of any of the same id that is not settled yet. -/
def onProposal (event : Event.Proposal) (height : Height) : Call (World others) Unit := do
  match (← record (.proposal (.ofNat event.index))).filter (·.settledAt ≠ 0) with
  | some settled => Call.fail (alreadySettled event.index settled.settledAt)
  | none => storeProposal event height

/-- A settlement is stored with its proposal, which must be there and not be settled at another
height. -/
def onSettlement (event : Event.Settlement) (height : Height) : Call (World others) Unit := do
  match ← record (.proposal (.ofNat event.proposal)) with
  | none =>
      Call.fail (.inconsistent s!"settlement for unknown proposal #{event.proposal}"
        [("proposal", .number (.ofNat event.proposal))])
  | some proposal =>
      if proposal.settledAt ≠ 0 ∧ !proposal.settledAt.equals height then
        Call.fail (alreadySettled event.proposal proposal.settledAt)
      else
        record (.upsertProposal (event.row height proposal))
        Call.log .info .dispatch
          s!"[proposal] #{event.proposal} settled state={event.state} height={height}"

def handler (height : Height) (ordinal : Number) :
    (kind : Event.Kind) → kind.Content → Call (World others) Unit
  | .grant, event => onGrant event height
  | .discussion, event => onDiscussion event height ordinal
  | .proposal, event => onProposal event height
  | .settlement, event => onSettlement event height

def handle (kind : Event.Kind) (event : Event) (height : Height) (ordinal : Number) :
    Call (World others) Outcome := do
  match event.decode? kind with
  | some content =>
      handler height ordinal kind content
      return .handled
  | none =>
      Call.log .warn .dispatch s!"[dispatch] malformed {kind.name} event skipped"
        (some [("height", .number height), ("tag", .text kind.name)])
      return .skipped

/-- Handles an event as one of the kind that a tag names. Fails only where a handler's fault has no
words. -/
def outcomeOf (tag : String) (event : Event) (height : Height) (ordinal : Number) :
    Call (World others) Outcome := do
  match Event.Kind.named? tag with
  | none => return .ignored
  | some kind =>
      match ← (handle kind event height ordinal).attempt with
      | .ok outcome => return outcome
      | .error fault =>
          let place := [("height", Value.number height), ("tag", Value.text tag)]
          let cause ← Call.ofExcept fault.message
          Call.log .error .dispatch s!"[dispatch] {tag} handler failed: {cause}"
            (some (Members.override fault.facts place))
          return .failed

/-- Dispatches an event by a tag; `ordinal` is its place among the events of its block. -/
def dispatch (tag : String) (event : Event) (height : Height) (ordinal : Number) :
    Call (World others) Outcome := do
  let outcome ← (outcomeOf tag event height ordinal).attempt
  Call.note (.dispatched tag height ordinal event outcome.toOption)
  Call.ofExcept outcome

end World

end RollCall
