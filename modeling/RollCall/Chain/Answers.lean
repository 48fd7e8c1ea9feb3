import RollCall.Chain
import RollCall.Number.Numeral
import RollCall.Text.Upper

/-!
# Reading a node's answers

A node's answers are documents. Reading one never fails: a member that is missing or of another kind
gives its default, and list items that are no records are left out.
-/

set_option autoImplicit false

namespace RollCall

/-- The records among the items of a list. -/
def Value.records (value : Value) : List Value :=
  value.items.filter Value.isRecord

def Attribute.ofValue (value : Value) : Attribute where
  key := (value.member "key").asText?.getD ""
  value := (value.member "value").asText?.getD ""

/-- An event; one without a type is of the type `unknown`. -/
def Event.ofValue (value : Value) : Event where
  type := (value.member "type").asText?.getD "unknown"
  attributes := (value.member "attributes").records.map Attribute.ofValue

def Event.listOfValue (value : Value) : List Event :=
  value.records.map Event.ofValue

namespace Chain

def TxResult.ofValue (value : Value) : TxResult where
  code := (value.member "code").asNat?.getD 0
  events := Event.listOfValue (value.member "events")

/-- The events of a block itself: in one list, or in two where older nodes keep those of its
beginning and its end apart. -/
def blockEvents (value : Value) : List Event :=
  match value.member "finalize_block_events" with
  | .list items => Event.listOfValue (.list items)
  | _ => Event.listOfValue (value.member "begin_block_events") ++
      Event.listOfValue (value.member "end_block_events")

/-- The height that an answer names, or else the one that was asked for. -/
def namedHeight (value : Value) (requested : Number) : Number :=
  (value.asNat?.map Number.ofNat).getD requested

def BlockResults.ofValue (value : Value) (requested : Number) : BlockResults where
  height := namedHeight (value.member "height") requested
  txResults := (value.member "txs_results").records.map TxResult.ofValue
  blockEvents := Chain.blockEvents value

/-- A signature; its address is written in upper case. -/
def Signature.ofValue (value : Value) : Signature where
  flag := .ofNat ((value.member "block_id_flag").asNat?.getD 0)
  address := Text.upper ((value.member "validator_address").asText?.getD "")
  timestamp := (value.member "timestamp").asText?

def Commit.ofValue (value : Value) (requested : Number) : Commit :=
  let commit := (value.member "signed_header").member "commit"
  { height := namedHeight (commit.member "height") requested
    signatures := (commit.member "signatures").records.map Signature.ofValue }

def Status.ofValue (value : Value) : Status :=
  let sync := value.member "sync_info"
  { latest := .ofNat ((sync.member "latest_block_height").asNat?.getD 0)
    earliest := .ofNat ((sync.member "earliest_block_height").asNat?.getD 0)
    catchingUp := sync.member "catching_up" == .flag true }

/-- The answer to an application query; an empty value counts as none. -/
def QueryReply.ofValue (value : Value) : QueryReply :=
  let response := value.member "response"
  { code := (response.member "code").asNat?.getD 0
    log := (response.member "log").asText?.getD ""
    value := (response.member "value").asText?.filter (· ≠ "")
    height := .ofNat ((response.member "height").asNat?.getD 0) }

end Chain

end RollCall
