import RollCall.Account
import RollCall.Event.Typed
import RollCall.Follow
import RollCall.Ledger.Named
import RollCall.Paging

/-!
# Results as documents

How tools show what the parts of the indexer answer.
-/

set_option autoImplicit false

namespace RollCall

def Value.ofNat (value : Nat) : Value :=
  .number (.ofNat value)

/-- A member that is shown only if it is there. -/
def Members.optional (name : String) (value : Option Value) : Members :=
  (value.map (name, ·)).toList

/-!
## Events and what nodes answer
-/

def Event.toValue (event : Event) : Value :=
  .record
    [("type", .text event.type),
      ("attributes", .list (event.attributes.map fun entry =>
        .record [("key", .text entry.key), ("value", .text entry.value)]))]

/-- What the attributes of an event of a kind say. -/
def Event.Kind.show : (kind : Event.Kind) → kind.Content → Value
  | .grant, content => .record
      [("kind", .text "grant"), ("validator", .ofNat content.validator),
        ("address", .text content.address), ("amount", .ofNat content.amount),
        ("proposerIndex", .ofNat content.proposerIndex),
        ("proposerAddress", .text content.proposerAddress), ("grant", .flag content.granted),
        ("agentUrl", .text content.agentUrl)]
  | .discussion, content => .record
      [("kind", .text "discussion"), ("proposal", .ofNat content.proposal),
        ("speaker", .ofNat content.speaker), ("speakerAddress", .text content.speakerAddress),
        ("data", .bytes content.data)]
  | .proposal, content => .record
      [("kind", .text "proposal"), ("proposalIndex", .ofNat content.index),
        ("proposer", .ofNat content.proposer), ("proposerAddress", .text content.proposerAddress),
        ("data", .bytes content.data), ("status", .ofNat content.status)]
  | .settlement, content => .record
      [("kind", .text "settle_proposal"), ("proposal", .ofNat content.proposal),
        ("state", .ofNat content.state)]

def Event.Typed.toValue (event : Event.Typed) : Value :=
  event.kind.show event.content

namespace Chain

def TxResult.toValue (result : TxResult) : Value :=
  .record [("code", .ofNat result.code), ("events", .list (result.events.map Event.toValue))]

def BlockResults.toValue (results : BlockResults) : Value :=
  .record
    [("height", .number results.height),
      ("txsResults", .list (results.txResults.map TxResult.toValue)),
      ("blockEvents", .list (results.blockEvents.map Event.toValue))]

def Signature.toValue (signature : Signature) : Value :=
  .record
    [("blockIdFlag", .number signature.flag), ("validatorAddress", .text signature.address),
      ("timestamp", Value.ofText? signature.timestamp)]

def Commit.toValue (commit : Commit) : Value :=
  .record
    [("height", .number commit.height),
      ("signatures", .list (commit.signatures.map Signature.toValue))]

def Status.toValue (status : Status) : Value :=
  .record
    [("latestHeight", .number status.latest), ("earliestHeight", .number status.earliest),
      ("catchingUp", .flag status.catchingUp)]

def QueryReply.toValue (reply : QueryReply) : Value :=
  .record
    [("code", .ofNat reply.code), ("log", .text reply.log), ("value", Value.ofText? reply.value),
      ("height", .number reply.height)]

end Chain

def Account.toValue (account : Account) : Value :=
  .record [("index", .ofNat account.index), ("address", .text account.address)]

/-!
## Traces
-/

def Log.Line.toValue (line : Log.Line) : Value :=
  .record
    ([("level", .text line.level.name), ("module", .text line.source.name),
        ("msg", .text line.message)] ++
      Members.optional "ctx" (line.facts.map .record))

def Http.Request.toValue (request : Http.Request) : Value :=
  .record
    [("url", .text request.url), ("method", .text request.method),
      ("headers", .record (request.headers.map fun header => (header.1, .text header.2))),
      ("body", Value.ofText? request.body)]

/-- A value of a statement as a document. Of what records borrow one is a record itself, without
members of its own; the others are no documents. -/
def Sql.Parameter.toValue : Sql.Parameter → Value
  | .value document => document
  | .borrowed name => if name = "__proto__" then .record [] else .null

def Sql.Statement.toValue (statement : Sql.Statement) : Value :=
  .record [("text", .text statement.text),
    ("values", .list (statement.values.map Sql.Parameter.toValue))]

/-!
## What the indexer answers
-/

/-- A page to read, with the part of the list that it shows. -/
def PageRequest.toValue (request : PageRequest) : Value :=
  .record
    [("page", .number request.page), ("pageSize", .number request.size),
      ("offset", .number request.window.offset), ("limit", .number request.window.limit)]

def Summary.toValue (summary : Summary) : Value :=
  .record
    ([("processed", .ofNat summary.processed), ("head", Ledger.showNumber? summary.head),
        ("height", .number summary.height)] ++
      Members.optional "error" (summary.error.map .text) ++
      if summary.permanent then [("permanent", .flag true)] else [])

def Reconciliation.toValue (reconciliation : Reconciliation) : Value :=
  .record
    [("kind", .text reconciliation.kind),
      ("id", reconciliation.target.elim .null fun target => .number target.id),
      ("inserted", .ofInt reconciliation.inserted), ("skipped", .ofInt reconciliation.skipped)]

end RollCall
