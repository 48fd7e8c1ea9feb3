import RollCall.Call

/-!
# Advisory agents

An agent answers requests. Two agents that need no network: one that approves of everything, and one
that answers what it was set to answer.
-/

set_option autoImplicit false

namespace RollCall.Advice

abbrev Agent (α : Type) : Type := Service Request Request.Answer α

/-- The agent in force where none is set: it takes note of nothing, approves of everything and
comments on nothing. -/
def consenting : Agent Unit
  | .submitProposal .. => pure ()
  | .submitDiscussion .. => pure ()
  | .requestComment .. => pure ""
  | .recommendProposalVote .. => pure { approve := true, reason := "" }
  | .recommendGrantVote .. => pure { approve := true, reason := "" }

/-- The answers of an agent that always answers the same, and the fault that comes first, if one
is set. -/
structure Simulated where
  comment : String := "looks fine"
  vote : Vote := { approve := true, reason := "ok" }
  fault : Option Fault := none

def Simulated.reply {α : Type} (answer : Simulated → α) : Call Simulated α := do
  let state ← Call.read
  match state.fault with
  | some fault => Call.fail fault
  | none => return answer state

def simulated : Agent Simulated
  | .submitProposal .. => Simulated.reply fun _ => ()
  | .submitDiscussion .. => Simulated.reply fun _ => ()
  | .requestComment .. => Simulated.reply Simulated.comment
  | .recommendProposalVote .. => Simulated.reply Simulated.vote
  | .recommendGrantVote .. => Simulated.reply Simulated.vote

end RollCall.Advice
