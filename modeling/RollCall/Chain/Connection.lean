import RollCall.Chain.Provider

/-!
# The connection to the node

The connection owns one client at a time. A client that is unhealthy is given up before the next
call, one whose transport fails during a call right after it; the next call makes a new one. A call
stays bound to the client that it began with, so a failure that comes late cannot take down a client
that was made meanwhile.
-/

set_option autoImplicit false

namespace RollCall.Chain

/-- A node and the clients made of it, oldest first; `current` is the place of the one in use. -/
structure Connection (ν χ : Type) where
  node : ν
  clients : List χ := []
  current : Option Nat := none

namespace Connection

variable {ν χ : Type}

/-- How many clients were made after the first. -/
def reconnects (connection : Connection ν χ) : Nat :=
  connection.clients.length - 1

def client? (connection : Connection ν χ) : Option χ :=
  connection.current.bind (connection.clients[·]?)

def isHealthyAt (provider : Provider ν χ) (connection : Connection ν χ) (place : Nat) : Bool :=
  connection.clients[place]?.any provider.isHealthy

def isHealthy (provider : Provider ν χ) (connection : Connection ν χ) : Bool :=
  connection.client?.any provider.isHealthy

def withClient (connection : Connection ν χ) (place : Nat) (client : χ) : Connection ν χ :=
  { connection with clients := connection.clients.set place client }

def byClient {α : Type} (place : Nat) (call : Call (ν × χ) α) : Call (Connection ν χ) α :=
  fun connection =>
    match connection.clients[place]? with
    | none => Call.fail (.transport "connect" "chain connection unavailable" []) connection
    | some client =>
        let done := call (connection.node, client)
        { result := done.result
          state := { connection.withClient place done.state.2 with node := done.state.1 }
          trace := done.trace
          interrupted := done.interrupted }

/-- Gives up the client in use. That it does not let itself be closed is only logged, unless the
reason has no words: then the client stays in use. -/
def teardown (provider : Provider ν χ) : Call (Connection ν χ) Unit := do
  match (← Call.read).current with
  | none => pure ()
  | some place =>
      let close := provider.close.inside Prod.snd fun client state => (state.1, client)
      match ← (byClient place close).attempt with
      | .ok _ => pure ()
      | .error fault =>
          let cause ← Call.ofExcept fault.message
          Call.log .warn .connection s!"[rpc] close failed: {cause}"
      Call.modify ({ · with current := none })

/-- Makes sure that there is a healthy client, and says whether there is one. A client just made is
not asked for its health. -/
def ensure (provider : Provider ν χ) : Call (Connection ν χ) Bool := do
  if (← Call.read).isHealthy provider then return true
  teardown provider
  let connect := provider.connect.inside Connection.node fun node state => { state with node }
  match ← connect.attempt with
  | .ok client =>
      Call.modify fun state =>
        { state with
          clients := state.clients ++ [client]
          current := some state.clients.length }
      let reconnects := (← Call.read).reconnects
      if 0 < reconnects then
        Call.log .info .connection s!"[rpc] reconnected (count={reconnects})"
      return true
  | .error fault =>
      let cause ← Call.ofExcept fault.message
      Call.log .error .connection s!"[rpc] connect failed: {cause}"
      return false

/-- Begins a call: the place of the client that it is bound to. -/
def begin (provider : Provider ν χ) : Call (Connection ν χ) Nat := do
  let _ ← ensure provider
  match (← Call.read).current with
  | some place => return place
  | none => Call.fail (.transport "connect" "chain connection unavailable" [])

/-- Ends a call of the client at a place. If its transport failed, the client is given up, unless
another is in use by now; for a failure without words this does not come about. -/
def finish {α : Type} (provider : Provider ν χ) (place : Nat) (result : Except Fault α) :
    Call (Connection ν χ) α := do
  match result with
  | .ok value => return value
  | .error fault =>
      let connection ← Call.read
      if fault.isTransport || !connection.isHealthyAt provider place then
        let cause ← Call.ofExcept fault.message
        Call.log .warn .connection
          s!"[rpc] transport failure, connection will be rebuilt: {cause}"
        if connection.current == some place then teardown provider
      Call.fail fault

/-- Runs a call that is told the place of its client. -/
def use {α : Type} (provider : Provider ν χ) (body : Nat → Call (Connection ν χ) α) :
    Call (Connection ν χ) α := do
  let place ← begin provider
  finish provider place (← (body place).attempt)

def ask (provider : Provider ν χ) : Service Question Question.Answer (Connection ν χ) :=
  fun question => use provider fun place => do
    Call.note (.asked question)
    byClient place (provider.ask question)

end Connection

end RollCall.Chain
