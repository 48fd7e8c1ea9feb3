import RollCall.Trace

/-!
# Calls

Everything that talks to the node, the ledger or the advisory agent is a call: a function of a state
that ends in a result or a fault, with a new state and a trace. While a call is under way someone
outside may ask its caller to stop; the call itself goes on, and reports that it happened.
-/

set_option autoImplicit false

namespace RollCall

/-- How a call ended. -/
structure Completion (σ α : Type) where
  result : Except Fault α
  state : σ
  trace : Trace := []
  /-- Whether its caller was asked to stop while the call was under way. -/
  interrupted : Bool := false

/-- A call on a state. -/
def Call (σ α : Type) : Type := σ → Completion σ α

/-- Someone who answers questions, each with an answer of its own type. -/
abbrev Service (Question : Type) (Answer : Question → Type) (σ : Type) : Type :=
  (question : Question) → Call σ (Answer question)

namespace Call

variable {σ τ α β : Type}

def done (value : α) : Call σ α := fun state =>
  { result := .ok value, state }

def fail (fault : Fault) : Call σ α := fun state =>
  { result := .error fault, state }

/-- One call after another; the second does not take place if the first fails. -/
def andThen (call : Call σ α) (next : α → Call σ β) : Call σ β := fun state =>
  let first := call state
  match first.result with
  | .error fault => { first with result := .error fault }
  | .ok value =>
      let second := next value first.state
      { result := second.result
        state := second.state
        trace := first.trace ++ second.trace
        interrupted := first.interrupted || second.interrupted }

instance : Monad (Call σ) where
  pure := done
  bind := andThen

def ofExcept (result : Except Fault α) : Call σ α := fun state =>
  { result := result, state := state }

/-- A call with its fault, if any, as a value: it never fails. -/
def attempt (call : Call σ α) : Call σ (Except Fault α) := fun state =>
  let first := call state
  { first with result := .ok first.result }

/-- A call that never fails and says whether it was interrupted. -/
def watch (call : Call σ α) : Call σ (Except Fault α × Bool) := fun state =>
  let first := call state
  { first with result := .ok (first.result, first.interrupted), interrupted := false }

def read : Call σ σ := fun state =>
  { result := .ok state, state }

def modify (change : σ → σ) : Call σ Unit := fun state =>
  { result := .ok (), state := change state }

def note (entry : Note) : Call σ Unit := fun state =>
  { result := .ok (), state, trace := [entry] }

def log (level : Log.Level) (source : Log.Source) (message : String)
    (facts : Option Members := none) : Call σ Unit :=
  note (.logged { level, source, message, facts })

/-- Someone asks the caller to stop. -/
def interrupt : Call σ Unit := fun state =>
  { result := .ok (), state, interrupted := true }

/-- A call on a part of a larger state. -/
def inside (part : τ → σ) (replace : σ → τ → τ) (call : Call σ α) : Call τ α := fun state =>
  let first := call (part state)
  { result := first.result
    state := replace first.state state
    trace := first.trace
    interrupted := first.interrupted }

end Call

end RollCall
