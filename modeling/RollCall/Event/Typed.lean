import RollCall.Event.Attributes

/-!
# Governance events

An event of one of the four kinds with its attributes read. Reading an event takes all that its
kind requires or nothing; the first defect in the order of the fields is the one reported.
-/

set_option autoImplicit false

namespace RollCall.Event

/-- A validator is admitted or removed. -/
structure Grant where
  /-- The index of the validator that the grant is about. -/
  validator : Nat
  address : String
  amount : Nat
  proposerIndex : Nat
  proposerAddress : String
  granted : Bool
  agentUrl : String
deriving DecidableEq, Repr

/-- A validator speaks about a proposal. -/
structure Discussion where
  proposal : Nat
  speaker : Nat
  speakerAddress : String
  data : Bytes
deriving DecidableEq, Repr

structure Proposal where
  index : Nat
  proposer : Nat
  proposerAddress : String
  data : Bytes
  status : Nat
deriving DecidableEq, Repr

structure Settlement where
  proposal : Nat
  state : Nat
deriving DecidableEq, Repr

@[reducible]
def Kind.Content : Kind → Type
  | .grant => Grant
  | .discussion => Discussion
  | .proposal => Proposal
  | .settlement => Settlement

/-- What the attributes of an event of a kind say. -/
def Attributes.content (attributes : Attributes) : (kind : Kind) → Except Defect kind.Content
  | .grant => do
      return {
        validator := ← attributes.natural "validator"
        address := ← attributes.text "address"
        amount := ← attributes.natural "amount"
        proposerIndex := ← attributes.natural "proposer_index"
        proposerAddress := ← attributes.text "proposer_address"
        granted := ← attributes.flag "grant"
        agentUrl := attributes.optionalText "agent_url" }
  | .discussion => do
      return {
        proposal := ← attributes.natural "proposal"
        speaker := ← attributes.natural "speaker"
        speakerAddress := ← attributes.text "speaker_address"
        data := ← attributes.payload "data" }
  | .proposal => do
      return {
        index := ← attributes.natural "proposal_index"
        proposer := ← attributes.natural "proposer"
        proposerAddress := ← attributes.text "proposer_address"
        data := ← attributes.payload "data"
        status := ← attributes.natural "status" }
  | .settlement => do
      return {
        proposal := ← attributes.natural "proposal"
        state := ← attributes.natural "state" }

/-- An event read as one of a kind, or what is wrong with it. -/
def read (kind : Kind) (event : Event) : Except Defect kind.Content :=
  if event.type = kind.name then event.attributeValues.content kind
  else .error (.wrongType kind)

/-- An event read as one of a kind; the fault names the type that the event carries. -/
def parse (kind : Kind) (event : Event) : Except Fault kind.Content :=
  (event.read kind).mapError (·.fault event.type)

def decode? (kind : Kind) (event : Event) : Option kind.Content :=
  (event.read kind).toOption

/-- A governance event of any kind. -/
structure Typed where
  kind : Kind
  content : kind.Content

/-- An event read as one of the kind that its type names, if there is one and the event is of its
form. -/
def typed? (event : Event) : Option Typed := do
  let kind ← Kind.named? event.type
  let content ← event.decode? kind
  return ⟨kind, content⟩

end RollCall.Event
