import RollCall.Ledger.Tables

/-!
# Ledgers that refuse

A ledger in front of another that ends the next calls of some operations in faults, before the other
one is asked.
-/

set_option autoImplicit false

namespace RollCall.Ledger

/-- The faults in which the next calls of operations end, by the operation's name. -/
structure Refusing (σ : Type) where
  refusals : List (String × List Fault) := []
  ledger : σ

namespace Refusing

variable {σ : Type}

/-- The faults that calls of a name are still to end in, set anew. -/
def refuse (state : Refusing σ) (name : String) (faults : List Fault) : Refusing σ :=
  { state with refusals := replaceById Prod.fst (name, faults) state.refusals }

/-- A call of an operation of some name. -/
def pass {α : Type} (name : String) (call : Call σ α) : Call (Refusing σ) α := do
  let state ← Call.read
  match state.refusals.lookup name with
  | some (fault :: faults) =>
      Call.modify (·.refuse name faults)
      Call.fail fault
  | _ => call.inside ledger fun ledger state => { state with ledger }

def books (behind : Books σ) : Books (Refusing σ) := fun operation =>
  pass operation.name (behind operation)

/-- The same, but only operations that store are refused. -/
def writes (behind : Books σ) : Books (Refusing σ) := fun operation =>
  if operation.isWrite then pass operation.name (behind operation)
  else (behind operation).inside ledger fun ledger state => { state with ledger }

end Refusing

end RollCall.Ledger
