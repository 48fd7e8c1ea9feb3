import RollCall.Bytes.Base64
import RollCall.Bytes.Utf8
import RollCall.Chain.Provider
import RollCall.Json.Printer
import RollCall.Text.Upper

/-!
# A chain in memory

A node whose blocks, commits and accounts are set, and some of whose calls fail on request. A failed
call breaks the client that made it. One question can be watched for: its caller is asked to stop
when it is asked for some number of times.
-/

set_option autoImplicit false

namespace RollCall.Chain

/-- The chain. -/
structure Simulated where
  head : Height := 0
  blocks : List (Height × BlockResults) := []
  commits : List (Height × List Signature) := []
  /-- The indices of validators by their addresses in upper case, as their documents hold them. -/
  accounts : List (String × Value) := []
  /-- How many of the next calls of a method fail. -/
  failures : List (String × Number) := []
  /-- How many clients were made. -/
  built : Nat := 0
  /-- The question watched for, and how often it is still to be asked. -/
  watched : Option (String × Nat) := none

namespace Simulated

def method : Question → String
  | .status => "fetchStatus"
  | .blockResults _ => "fetchBlockResults"
  | .commit _ => "fetchCommit"
  | .query _ _ => "queryAbci"

/-- The entries with one set: in place if its key is there, else at the end. -/
def put {κ β : Type} [BEq κ] (key : κ) (value : β) (entries : List (κ × β)) : List (κ × β) :=
  if entries.any (·.1 == key) then
    entries.map fun entry => if entry.1 == key then (key, value) else entry
  else entries ++ [(key, value)]

/-- The results of a block; one that was not set is empty. -/
def block (chain : Simulated) (height : Height) : BlockResults :=
  (chain.blocks.lookup height).getD
    { height := height, txResults := [], blockEvents := [] }

def addTransaction (chain : Simulated) (height : Height) (events : List Event) : Simulated :=
  let block := chain.block height
  let results := block.txResults ++ [{ code := 0, events }]
  { chain with blocks := put height { block with txResults := results } chain.blocks }

def addBlockEvents (chain : Simulated) (height : Height) (events : List Event) : Simulated :=
  let block := chain.block height
  { chain with
    blocks := put height { block with blockEvents := block.blockEvents ++ events } chain.blocks }

def queryReply (chain : Simulated) (path data : String) : QueryReply :=
  let key := match data.toList with
    | '0' :: 'x' :: digits => String.ofList digits
    | _ => data
  match if path = "/accounts/" then chain.accounts.lookup (Text.upper key) else none with
  | none => { code := 1, log := "account not found", value := none, height := chain.head }
  | some index =>
      let document := Json.print
        (.record [("index", index), ("address", .text (Text.upper data))])
      { code := 0, log := "", height := chain.head,
        value := some (Base64.encode (Utf8.encode document)) }

def answer (chain : Simulated) : (question : Question) → question.Answer
  | .status => { latest := chain.head, earliest := 1, catchingUp := false }
  | .blockResults height => chain.block height
  | .commit height =>
      { height := height, signatures := (chain.commits.lookup height).getD [] }
  | .query path data => chain.queryReply path data

/-- Counts a question that is watched for. -/
def watch (question : Question) : Call (Simulated × Bool) Unit := do
  match (← Call.read).1.watched with
  | some (label, count) =>
      if label = question.label then
        Call.modify fun state =>
          ({ state.1 with watched := if count ≤ 1 then none else some (label, count - 1) }, state.2)
        if count ≤ 1 then Call.interrupt
  | none => pure ()

/-- Uses a failure of a method up, if one is left, and says whether there was one. -/
def takeFailure (method : String) : Call (Simulated × Bool) Bool := do
  let (chain, healthy) ← Call.read
  let left := (chain.failures.lookup method).getD 0
  if left.atMost 0 then return false
  else
    Call.modify fun _ => ({ chain with failures := put method (left - 1) chain.failures }, healthy)
    return true

/-- Clients of a chain in memory; each only knows whether it is healthy. -/
def provider : Provider Simulated Bool where
  connect := do
    Call.modify fun chain => { chain with built := chain.built + 1 }
    return true
  isHealthy := id
  close := Call.modify fun _ => false
  ask question := do
    watch question
    let (_, healthy) ← Call.read
    if !healthy then Call.fail (.transport (method question) "client closed" [])
    else if ← takeFailure (method question) then
      Call.modify fun state => (state.1, false)
      Call.fail (.transport (method question) "connection reset" [])
    else return (← Call.read).1.answer question

end Simulated

end RollCall.Chain
