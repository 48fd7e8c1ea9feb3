import RollCall.Advice
import RollCall.Value
import RollCall.Number.Numeral

/-!
# Requests for advice by name

A request can be given by its name and its arguments as documents, and be shown so again.
-/

set_option autoImplicit false

namespace RollCall.Advice

def Request.arguments : Request → List Value
  | submitProposal proposal proposer text => [.number proposal, .text proposer, .text text]
  | submitDiscussion proposal speaker text => [.number proposal, .text speaker, .text text]
  | requestComment proposal speaker => [.number proposal, .text speaker]
  | recommendProposalVote proposal voter => [.number proposal, .text voter]
  | recommendGrantVote validator proposer amount statement =>
      [.number validator, .text proposer, .number amount, .text statement]

def Request.named? (name : String) (arguments : List Value) : Option Request := do
  let number (place : Nat) : Option Number := (arguments[place]?.getD .null).toNumber?
  let text (place : Nat) : Option String := (arguments[place]?.getD .null).display?
  match name with
  | "submitProposal" => return .submitProposal (← number 0) (← text 1) (← text 2)
  | "submitDiscussion" => return .submitDiscussion (← number 0) (← text 1) (← text 2)
  | "requestComment" => return .requestComment (← number 0) (← text 1)
  | "recommendProposalVote" => return .recommendProposalVote (← number 0) (← text 1)
  | "recommendGrantVote" =>
      return .recommendGrantVote (← number 0) (← text 1) (← number 2) (← text 3)
  | _ => none

def Vote.toValue (vote : Vote) : Value :=
  .record [("approve", .flag vote.approve), ("reason", .text vote.reason)]

def Request.showAnswer : (request : Request) → request.Answer → Value
  | submitProposal .., _ => .null
  | submitDiscussion .., _ => .null
  | requestComment .., comment => .text comment
  | recommendProposalVote .., vote => vote.toValue
  | recommendGrantVote .., vote => vote.toValue

end RollCall.Advice
