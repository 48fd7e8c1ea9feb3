import RollCall.Number

/-!
# Requests over HTTP

What is sent and what comes back. A response whose body cannot be read still has a status.
-/

set_option autoImplicit false

namespace RollCall.Http

structure Request where
  method : String
  url : String
  headers : List (String × String)
  body : Option String
deriving DecidableEq, Repr

/-- A response; `body` is the text, or why it could not be read. -/
structure Response where
  status : Number
  body : Except String String

def Response.isOk (response : Response) : Bool :=
  Number.atMost 200 response.status && response.status.below 300

end RollCall.Http
