import RollCall.Advice.Agents
import RollCall.Advice.Reading
import RollCall.Advice.Timeout
import RollCall.Json.Parser
import RollCall.Json.Printer
import RollCall.Network

/-!
# An advisory agent over HTTP

A service offers several agents; a client speaks with the first of them. A body that cannot be read
on a response that reports success is passed on as the fault that it is; every other failure is one
of advice.
-/

set_option autoImplicit false

namespace RollCall.Advice

/-- Where an agent is found, its service and its id there, and how it is spoken with. -/
structure Client where
  base : String
  agentId : String
  /-- How long it is waited for, in milliseconds. -/
  timeout : Number
deriving DecidableEq, Repr

namespace Client

variable {ν : Type}

def failure (operation cause url : String) (details : Members) : Fault :=
  .advice operation cause (("url", .text url) :: details)

/-- How much of a refusal is kept. -/
def keptUnits : Nat := 200

/-- Sends a request with a timeout, if that is one. -/
def send (network : Network ν) (timeout : Number) (request : Http.Request) :
    Call ν Http.Response :=
  match timeoutRefusal? timeout with
  | some refusal => Call.fail (.other (refusal.message timeout))
  | none => network.send request

/-- Sends a request for an operation. The answer is a document, or plain text where it is none. -/
def request (network : Network ν) (timeout : Number) (operation : String)
    (request : Http.Request) : Call ν Value := do
  match ← (send network timeout request).attempt with
  | .error fault =>
      let cause ← Call.ofExcept fault.message
      Call.fail (failure operation cause request.url [])
  | .ok response =>
      match response.body with
      | .error reason => Call.fail (.other reason)
      | .ok text =>
          if response.isOk then return (Json.parse? text).getD (.text text)
          else Call.fail (failure operation s!"HTTP {response.status.text}" request.url
            [("body", .text (Text.takeUnits keptUnits text))])

/-- The ids of the agents that a service offers. -/
def listAgents (network : Network ν) (timeout : Number) (base : String) :
    Call ν (List String) := do
  let answer ← request network timeout "listAgents"
    { method := "GET", url := base ++ "/agents", headers := [], body := none }
  return agentIds answer

/-- A client of the first agent that a service offers. -/
def connect (network : Network ν) (timeout : Number) (url : String) : Call ν Client := do
  let base := Text.withoutSlashes url
  match ← listAgents network timeout base with
  | [] => Call.fail (failure "connect" "no agent id" url [])
  | agentId :: _ =>
      Call.log .info .advisor s!"[agent] using agent {agentId} at {url}"
      return { base := base, agentId := agentId, timeout := timeout }

def post (network : Network ν) (client : Client) (operation route : String)
    (details : List (String × String)) : Call ν Value :=
  request network client.timeout operation
    { method := "POST"
      url := s!"{client.base}/{client.agentId}/{route}"
      headers := [("content-type", "application/json")]
      body := some (Json.print (.record (details.map fun detail =>
        (detail.1, Value.text detail.2)))) }

def aboutProposal (proposal : Number) (address text : String) : List (String × String) :=
  [("proposalId", proposal.text), ("validatorAddress", address), ("text", text)]

def comment : Value → String
  | .text text => text
  | answer =>
      ((answer.member "text").asText?.or (answer.member "comment").asText?).getD (Json.print answer)

def agent (network : Network ν) (client : Client) : Agent ν
  | .submitProposal proposal proposer text => do
      let _ ← post network client "submitProposal" "proposal"
        (aboutProposal proposal proposer text)
      Call.log .debug .advisor s!"[agent] submitted proposal {proposal.text}"
  | .submitDiscussion proposal speaker text => do
      let _ ← post network client "submitDiscussion" "discussion"
        (aboutProposal proposal speaker text)
      Call.log .debug .advisor s!"[agent] submitted discussion on proposal {proposal.text}"
  | .requestComment proposal speaker => do
      return comment (← post network client "requestComment" "newdiscussion"
        (aboutProposal proposal speaker "comment"))
  | .recommendProposalVote proposal voter => do
      let vote := Vote.ofValue (← post network client "recommendProposalVote" "voteproposal"
        (aboutProposal proposal voter "analyze proposal"))
      Call.log .info .advisor
        s!"[agent] proposal {proposal.text} voter={voter} {vote.words}"
      return vote
  | .recommendGrantVote validator proposer amount statement => do
      let vote := Vote.ofValue (← post network client "recommendGrantVote" "votegrant"
        [("grantId", validator.text), ("validatorAddress", proposer), ("amount", amount.text),
          ("text", statement)])
      Call.log .info .advisor
        s!"[agent] grant {validator.text} proposer={proposer} {vote.words}"
      return vote

end Client

end RollCall.Advice
