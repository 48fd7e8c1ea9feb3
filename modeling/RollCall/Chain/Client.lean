import RollCall.Backoff
import RollCall.Chain.Answers
import RollCall.Chain.Provider
import RollCall.Json.Parser
import RollCall.Network
import RollCall.Url

/-!
# Asking a node over HTTP

Each question is one request, sent again after a pause while nothing conclusive comes back. A client
that has tried in vain is unhealthy from then on; a closed one sends nothing more, but for the
request that it was waiting to send when it was closed.
-/

set_option autoImplicit false

namespace RollCall.Chain

/-- Where the node is and how patient a client is. Times are in milliseconds. -/
structure ClientSettings where
  rpcUrl : String
  retries : Number
  backoff : Number
  jitter : Number
deriving DecidableEq, Repr

/-- How many attempts the settings allow: the first one, and one for each whole retry. Endlessly many
are cut down to more than there is time for. -/
def ClientSettings.attempts (settings : ClientSettings) : Nat :=
  match settings.retries with
  | .finite retries => (retries.floor + 1).toNat
  | .infinite false => Number.safeBound
  | _ => 0

/-- What a client knows about itself. -/
structure Session where
  healthy : Bool := true
  closed : Bool := false
deriving DecidableEq, Repr

namespace Session

def isHealthy (session : Session) : Bool :=
  session.healthy && !session.closed

def close (_ : Session) : Session :=
  { healthy := false, closed := true }

end Session

namespace Client

variable {ν : Type}

/-- A call on the network by a client; the client is closed if someone asks for it meanwhile. -/
def through {α : Type} (call : Call ν α) : Call (ν × Session) α := do
  let (result, closed) ← (call.inside Prod.fst fun node state => (node, state.2)).watch
  if closed then Call.modify fun state => (state.1, state.2.close)
  Call.ofExcept result

/-- Whether a body settles the question: it is a record with an error or a result that is one. -/
def isConclusive (body : Value) : Bool :=
  (body.member "error").isRecord || (body.member "result").isRecord

def conclusive (response : Http.Response) : Except Fault Value :=
  match response.body with
  | .error reason => .error (.other reason)
  | .ok text =>
      match (Json.parse? text).filter isConclusive with
      | some body => .ok body
      | none => .error (.other s!"HTTP {response.status.text}: unexpected body")

def refusal (method : String) (error : Value) : Fault :=
  let code := match error.member "code" with
    | .number code => code
    | _ => -1
  let parts := [error.member "message", error.member "data"].filterMap Value.asText?
  let detail := Text.join ": " (Text.nonEmpty parts)
  .refused method code (if detail = "" then "unknown error" else detail) []

/-- The result in a body; an error in it counts more than a result. -/
def settled (method : String) (body : Value) : Except Fault Value :=
  let error := body.member "error"
  let result := body.member "result"
  if error.isRecord then .error (refusal method error)
  else if result.isRecord then .ok result
  else .error (.refused method (-1) "response carries no result" [])

/-- What is said of the attempts when none is left: what the last one failed with, unless there was
none or nothing but null was raised. -/
def lastWords : Option Fault → Except Fault String
  | none => .ok "client closed"
  | some (.raised .null) => .ok "client closed"
  | some fault => fault.message

def requestFor (url : String) : Http.Request where
  method := "GET"
  url
  headers := [("accept", "application/json")]
  body := none

def attempt (network : Network ν) (method url : String) : Call (ν × Session) Value := do
  let response ← through (network.send (requestFor url))
  let body ← Call.ofExcept (conclusive response)
  Call.ofExcept (settled method body)

/-- The line and the pause before an attempt that is not the first. -/
def wait (network : Network ν) (settings : ClientSettings) (method : String) (attempts : Nat) :
    Call (ν × Session) Unit := do
  if attempts ≠ 0 then
    let random ← through network.chance
    let delay := backoffDelay settings.backoff (.ofNat (attempts - 1)) settings.jitter random
    Call.log .debug .client
      s!"[rpc] retry {attempts}/{settings.retries} {method} in {delay.text}ms"
    through (network.pause delay)

/-- Attempts until one settles the question or none is left; `attempts` have been made, and `last` is
what the last one failed with. A refusal is not tried again. -/
def attemptAll (network : Network ν) (settings : ClientSettings) (method url : String) :
    Nat → Nat → Option Fault → Call (ν × Session) (Except (Option Fault) Value)
  | 0, _, last => pure (.error last)
  | left + 1, attempts, last => do
      let (_, session) ← Call.read
      if session.closed then return .error last
      wait network settings method attempts
      match ← (attempt network method url).attempt with
      | .ok result => return .ok result
      | .error fault =>
          if fault.isRefusal then Call.fail fault
          else attemptAll network settings method url left (attempts + 1) (some fault)

/-- The texts of parameters, as they stand in an address. -/
def parameterTexts (parameters : Members) : Except Fault (List (String × String)) :=
  (Members.ofList parameters).mapM fun parameter => do
    return (parameter.1, ← Fault.demand parameter.2.display?)

def address (settings : ClientSettings) (method : String) (parameters : Members) :
    Except Fault String :=
  match Url.parse? (Text.withoutSlashes settings.rpcUrl ++ "/" ++ method) with
  | none => .error .invalidUrl
  | some url => do return (url.withParameters (← parameterTexts parameters)).text

/-- Asks one question, as often as need be, for the result in the answer. -/
def fetch (network : Network ν) (settings : ClientSettings) (method : String)
    (parameters : Members) : Call (ν × Session) Value := do
  let url ← Call.ofExcept (address settings method parameters)
  match ← attemptAll network settings method url settings.attempts 0 none with
  | .ok result => return result
  | .error last =>
      Call.modify fun state => (state.1, { state.2 with healthy := false })
      let cause ← Call.ofExcept (lastWords last)
      Call.fail (.transport method cause [("url", .text url)])

def queryParameters (path data : String) : Members :=
  [("path", .text s!"\"{path}\""),
    ("data", .text (if data.startsWith "0x" then data else "0x" ++ data))]

def ask (network : Network ν) (settings : ClientSettings) :
    Service Question Question.Answer (ν × Session)
  | .status => do
      return Status.ofValue (← fetch network settings "status" [])
  | .blockResults height => do
      let answer ← fetch network settings "block_results" [("height", .number height)]
      return BlockResults.ofValue answer height
  | .commit height => do
      let answer ← fetch network settings "commit" [("height", .number height)]
      return Commit.ofValue answer height
  | .query path data => do
      return QueryReply.ofValue (← fetch network settings "abci_query" (queryParameters path data))

def provider (network : Network ν) (settings : ClientSettings) : Provider ν Session where
  connect := pure {}
  isHealthy := Session.isHealthy
  close := Call.modify Session.close
  ask := ask network settings

end Client

end RollCall.Chain
