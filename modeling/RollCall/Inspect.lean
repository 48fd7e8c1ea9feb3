import RollCall.Advice.Named
import RollCall.Json.Printer
import RollCall.Reading

/-!
# Inspection commands

Operators look into the index, and ask the advisory agent, by commands. What a command answers is
printed as an indented document in which payloads are base64.
-/

set_option autoImplicit false

namespace RollCall.Inspect

def usage : String :=
  "usage: inspect <command> [args]
  progress
  proposals [page] [size] [proposer]
  proposal <id>
  discussions <proposal> [page] [size]
  grants [page] [size]
  grant <validator>
  proposal-votes <proposal> [page] [size]
  grant-votes <validator> [page] [size]
  validator <id>
  advise-proposal <proposal> <voterAddress>
  advise-grant <validator> [statement]"

/-- What an operator asks for. -/
inductive Command where
  | progress
  | query (query : Query)
  | adviseProposal (proposal : Number) (voter : String)
  | adviseGrant (validator : Number) (statement : String)
deriving DecidableEq, Repr

/-- An argument that must be a number in decimal digits, and may be left out if there is a default. -/
def number (argument : Option String) (name : String) (default : Option Number := none) :
    Except Fault Number :=
  match argument with
  | none => default.elim (.error (.usage s!"missing <{name}>")) .ok
  | some text =>
      if Text.isDigits text.toList then .ok (Number.ofDigits text.toList)
      else .error (.usage s!"<{name}> must be an unsigned integer, got \"{text}\"")

def Command.parse (arguments : List String) : Except Fault Command := do
  let first := arguments[1]?
  let second := arguments[2]?
  let third := arguments[3]?
  match arguments.head?.getD "" with
  | "progress" => return .progress
  | "proposals" =>
      return .query (.proposals (← number first "page" (some 0)) (← number second "size" (some 20))
        third)
  | "proposal" => return .query (.proposal (← number first "id"))
  | "discussions" =>
      return .query (.discussions (← number first "proposal") (← number second "page" (some 0))
        (← number third "size" (some 20)))
  | "grants" =>
      return .query (.grants (← number first "page" (some 0)) (← number second "size" (some 20)))
  | "grant" => return .query (.grant (← number first "validator"))
  | "proposal-votes" =>
      return .query (.proposalVotes (.proposal (← number first "proposal"))
        (← number second "page" (some 0)) (← number third "size" (some 20)))
  | "grant-votes" =>
      return .query (.grantVotes (.grant (← number first "validator"))
        (← number second "page" (some 0)) (← number third "size" (some 20)))
  | "validator" => return .query (.validator (← number first "id"))
  | "advise-proposal" =>
      let proposal ← number first "proposal"
      match second.getD "" with
      | "" => throw (.usage "missing <voterAddress>")
      | voter => return .adviseProposal proposal voter
  | "advise-grant" => return .adviseGrant (← number first "validator") (second.getD "")
  | "" => throw (.usage "missing command")
  | command => throw (.usage s!"unknown command \"{command}\"")

variable {others : Collaborators}

/-- Runs a command; what it answers is a document. The agent is asked about a grant only if there is
one. -/
def Command.run (progressId : String) : Command → Call (World others) Value
  | progress => do
      return .record [("height", ← Query.progress.run progressId)]
  | query wanted => wanted.run progressId
  | adviseProposal proposal voter => do
      return (← World.consult (.recommendProposalVote proposal voter)).toValue
  | adviseGrant validator statement => do
      match ← World.record (.grant validator) with
      | none => return .null
      | some grant =>
          return (← World.consult (.recommendGrantVote grant.id grant.proposerAddress grant.stake
            statement)).toValue

def run (progressId : String) (arguments : List String) : Call (World others) Value := do
  let command ← Call.ofExcept (Command.parse arguments)
  command.run progressId

/-- What a command prints for what it answers. -/
def output (answer : Value) : String :=
  Json.printIndented answer

end RollCall.Inspect
