import RollCall.Number

/-!
# Advice

The advisory agent is told about proposals and discussions and asked for comments and votes.
-/

set_option autoImplicit false

namespace RollCall.Advice

structure Vote where
  approve : Bool
  reason : String
deriving DecidableEq, Repr

/-- What the agent is told or asked. -/
inductive Request where
  | submitProposal (proposal : Number) (proposer text : String)
  | submitDiscussion (proposal : Number) (speaker text : String)
  | requestComment (proposal : Number) (speaker : String)
  | recommendProposalVote (proposal : Number) (voter : String)
  | recommendGrantVote (validator : Number) (proposer : String) (amount : Number)
      (statement : String)
deriving DecidableEq, Repr

@[reducible]
def Request.Answer : Request → Type
  | .submitProposal .. => Unit
  | .submitDiscussion .. => Unit
  | .requestComment .. => String
  | .recommendProposalVote .. => Vote
  | .recommendGrantVote .. => Vote

def Request.operation : Request → String
  | .submitProposal .. => "submitProposal"
  | .submitDiscussion .. => "submitDiscussion"
  | .requestComment .. => "requestComment"
  | .recommendProposalVote .. => "recommendProposalVote"
  | .recommendGrantVote .. => "recommendGrantVote"

end RollCall.Advice
