import RollCall.Network
import RollCall.Url

/-!
# Networks that answer by script

Two networks whose replies are set: one gives them in order, whatever is asked; one has replies for
each address, the last of which it repeats. Where no reply is left a request fails.
-/

set_option autoImplicit false

namespace RollCall.Network

/-- What becomes of a request. -/
inductive Reply where
  | response (response : Http.Response)
  | fault (fault : Fault)
  /-- Nothing, until the request is given up. -/
  | silence

/-- A reply, and whether the client is closed when the request is sent. -/
structure Turn where
  reply : Reply
  closes : Bool := false

def unscripted : Fault := .other "no reply scripted"

def aborted : Fault := .other "request aborted"

def Reply.conclude {σ : Type} : Reply → Call σ Http.Response
  | .response answer => pure answer
  | .fault reason => Call.fail reason
  | .silence => Call.fail aborted

/-!
## Replies in order
-/

/-- The replies that are left; `closing` is whether the client is closed during the next wait, be
it for a reply or between attempts. -/
structure Queue where
  turns : List Turn
  closing : Bool := false
  chance : Number

def Queue.wait : Call Queue Unit := do
  if (← Call.read).closing then
    Call.modify ({ · with closing := false })
    Call.interrupt

/-- The network that replies in order. -/
def queue : Network Queue where
  exchange _ := do
    match (← Call.read).turns with
    | [] => Call.fail unscripted
    | turn :: turns =>
        Call.modify ({ · with turns })
        if turn.closes then Call.interrupt
        else
          match turn.reply with
          | .silence => Queue.wait
          | _ => pure ()
        turn.reply.conclude
  pause delay := if delay.atMost 0 then pure () else Queue.wait
  chance := do return (← Call.read).chance

/-!
## Replies by address
-/

/-- The replies that are left for each path with its query. -/
structure Routes where
  turns : List (String × List Turn)
  chance : Number

/-- The path of an address with its query. -/
def route (url : String) : String :=
  (Url.parse? url).elim "" Url.target

/-- The routes with one reply of an address used up, unless it is the last. -/
def Routes.advance (routes : Routes) (address : String) : Routes :=
  { routes with
    turns := routes.turns.map fun entry =>
      if entry.1 = address ∧ 1 < entry.2.length then (entry.1, entry.2.drop 1) else entry }

/-- The network that replies by address. -/
def byRoute : Network Routes where
  exchange request := do
    let address := route request.url
    let turns := ((← Call.read).turns.lookup address).getD []
    Call.modify (·.advance address)
    match turns with
    | [] => Call.fail unscripted
    | turn :: _ => turn.reply.conclude
  pause _ := pure ()
  chance := do return (← Call.read).chance

end RollCall.Network
