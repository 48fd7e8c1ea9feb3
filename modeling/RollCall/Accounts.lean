import RollCall.Account
import RollCall.Bytes.Hex
import RollCall.World

/-!
# Looking accounts up

The application is asked for an account by the bytes of its address, so all spellings of the same
bytes ask the same question.
-/

set_option autoImplicit false

namespace RollCall

/-- Where the application answers for accounts. -/
def accountsPath : String := "/accounts/"

def addressBytes? (address : String) : Option Bytes :=
  (Hex.decode? address).filter (!·.isEmpty)

def accountOf (address : String) (reply : Chain.QueryReply) : Except Fault Account :=
  match if reply.code = 0 then reply.value else none with
  | some payload => Account.read payload address
  | none =>
      .error (.inconsistent s!"unknown account {address}"
        [("address", .text address), ("code", .number (.ofNat reply.code)),
          ("log", .text reply.log)])

variable {others : Collaborators}

/-- The account of an address. The node is not asked about what is no address. -/
def World.resolve (address : String) : Call (World others) Account := do
  match addressBytes? address with
  | none =>
      Call.fail (.inconsistent s!"invalid validator address \"{address}\""
        [("address", .text address)])
  | some bytes =>
      let reply ← World.ask (.query accountsPath (Hex.encode bytes))
      Call.ofExcept (accountOf address reply)

end RollCall
