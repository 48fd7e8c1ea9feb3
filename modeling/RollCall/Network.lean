import RollCall.Call

/-!
# Networks

What is outside a client: it carries requests, lets time pass and rolls dice. A request that is not
answered ends in a fault. Interruption of any of these means that the client is closed meanwhile.
-/

set_option autoImplicit false

namespace RollCall

structure Network (ν : Type) where
  exchange : Http.Request → Call ν Http.Response
  /-- Waits for some milliseconds, or until the client is closed. -/
  pause : Number → Call ν Unit
  /-- A number from 0 to 1. -/
  chance : Call ν Number

/-- Sends a request; it is noted whether or not it is answered. -/
def Network.send {ν : Type} (network : Network ν) (request : Http.Request) :
    Call ν Http.Response := do
  Call.note (.requested request)
  network.exchange request

end RollCall
