import RollCall.Call

/-!
# Clients of a node

A provider makes clients of a node. What all of them share and what each has for itself are two
states: `ν` is the node's, `χ` a client's.
-/

set_option autoImplicit false

namespace RollCall.Chain

/-- How clients are made and what each can do. -/
structure Provider (ν χ : Type) where
  connect : Call ν χ
  /-- Whether a client may still be used. -/
  isHealthy : χ → Bool
  close : Call χ Unit
  ask : Service Question Question.Answer (ν × χ)

/-- A node, and the faults in which the next attempts to connect to it end. -/
structure Refusing (ν : Type) where
  refusals : List Fault
  node : ν

/-- The provider of a node that refuses some connections. -/
def Provider.refusing {ν χ : Type} (provider : Provider ν χ) : Provider (Refusing ν) χ where
  connect := do
    let state ← Call.read
    match state.refusals with
    | fault :: refusals =>
        Call.modify ({ · with refusals })
        Call.fail fault
    | [] => provider.connect.inside Refusing.node fun node state => { state with node }
  isHealthy := provider.isHealthy
  close := provider.close
  ask question :=
    (provider.ask question).inside (fun state => (state.1.node, state.2))
      fun part state => ({ state.1 with node := part.1 }, part.2)

end RollCall.Chain
