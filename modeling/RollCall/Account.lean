import RollCall.Bytes.Base64
import RollCall.Bytes.Utf8
import RollCall.Fault
import RollCall.Json.Parser
import RollCall.Number.Numeral
import RollCall.Text.Upper

/-!
# Accounts

The chain application knows each validator's index by its address. It answers with a JSON document
in base64, of which only the index counts.
-/

set_option autoImplicit false

namespace RollCall

/-- A validator's index, and its address in upper case as commits carry it. -/
structure Account where
  index : Nat
  address : String
deriving DecidableEq, Repr

/-- The account of an address, read from the payload that was answered for it. -/
def Account.read (payload address : String) : Except Fault Account :=
  match Json.parse? (Utf8.decode (Base64.decode payload)) with
  | none =>
      .error (.inconsistent s!"account {address} is not valid JSON" [("address", .text address)])
  | some document =>
      match (document.member "index").asNat? with
      | none =>
          .error (.inconsistent s!"account {address} carries no index" [("address", .text address)])
      | some index => .ok { index, address := Text.upper address }

end RollCall
