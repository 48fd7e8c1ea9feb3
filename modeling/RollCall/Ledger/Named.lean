import RollCall.Ledger.Table

/-!
# Operations by name

An operation can be given by its name and its arguments as documents. Rows are given as the cells
of their tables; one that cannot be read makes no operation.
-/

set_option autoImplicit false

namespace RollCall.Ledger

def Window.ofValue? (value : Value) : Option Window := do
  return {
    offset := ← (value.member "offset").toNumber?
    limit := ← (value.member "limit").toNumber? }

/-- Votes on a proposal if one is named, else those of a voter. -/
def ProposalVoteFilter.ofValue? (value : Value) : Option ProposalVoteFilter :=
  match value.members.find? "proposal" with
  | some id => id.toNumber?.map .proposal
  | none => (value.member "voter").display?.map .voter

/-- Votes on a grant if one is named, else those of a voter. -/
def GrantVoteFilter.ofValue? (value : Value) : Option GrantVoteFilter :=
  match value.members.find? "grant" with
  | some id => id.toNumber?.map .grant
  | none => (value.member "voter").display?.map .voter

/-- A row given as cells; its numbers may be any. -/
def Table.readValue? {ρ : Type} (table : Table ρ) (value : Value) : Option ρ :=
  (table.assemble (Cell.anyNumber value.members) value.members).toOption

def Operation.named? (name : String) (arguments : List Value) : Option Operation := do
  let first := arguments[0]?.getD .null
  let second := arguments[1]?.getD .null
  match name with
  | "init" => return .init
  | "close" => return .close
  | "getProgress" => return .progress (← first.display?)
  | "saveProgress" => return .saveProgress (← first.display?) (← second.toNumber?)
  | "upsertValidator" => return .upsertValidator (← Ledger.validators.readValue? first)
  | "getValidator" => return .validator (← first.toNumber?)
  | "upsertProposal" => return .upsertProposal (← Ledger.proposals.readValue? first)
  | "getProposal" => return .proposal (← first.toNumber?)
  | "findProposalByNewHeight" => return .proposalCreatedAt (← first.toNumber?)
  | "findProposalBySettleHeight" => return .proposalSettledAt (← first.toNumber?)
  | "listProposals" =>
      return .proposals (← Window.ofValue? first) (← arguments[1]?.mapM Value.display?)
  | "upsertGrant" => return .upsertGrant (← Ledger.grants.readValue? first)
  | "getGrant" => return .grant (← first.toNumber?)
  | "findGrantByHeight" => return .grantAt (← first.toNumber?)
  | "listGrants" => return .grants (← Window.ofValue? first)
  | "findDiscussion" => return .discussionAt (← first.toNumber?) (← second.toNumber?)
  | "insertDiscussion" => return .insertDiscussion (← Ledger.discussions.readValue? first)
  | "listDiscussions" => return .discussions (← first.toNumber?) (← Window.ofValue? second)
  | "hasProposalVote" => return .hasProposalVote (← first.toNumber?) (← second.toNumber?)
  | "insertProposalVote" => return .insertProposalVote (← Ledger.proposalVotes.readValue? first)
  | "listProposalVotes" =>
      return .proposalVotes (← ProposalVoteFilter.ofValue? first) (← Window.ofValue? second)
  | "hasGrantVote" => return .hasGrantVote (← first.toNumber?) (← second.toNumber?)
  | "insertGrantVote" => return .insertGrantVote (← Ledger.grantVotes.readValue? first)
  | "listGrantVotes" =>
      return .grantVotes (← GrantVoteFilter.ofValue? first) (← Window.ofValue? second)
  | _ => none

/-!
## Answers as documents
-/

/-- A row as a document, null if there is none. -/
def Table.showRow? {ρ : Type} (table : Table ρ) (row : Option ρ) : Value :=
  row.elim .null fun row => .record (table.write row)

def showInt? (value : Option Int) : Value :=
  value.elim .null .ofInt

def showNumber? (value : Option Number) : Value :=
  value.elim .null .number

def Page.members {ρ : Type} (write : ρ → Members) (page : Page ρ) : Members :=
  [("rows", .list (page.rows.map fun row => .record (write row))), ("total", .ofInt page.total)]

def Operation.showAnswer : (operation : Operation) → operation.Answer → Value
  | .init, _ => .null
  | .close, _ => .null
  | .progress _, height => showNumber? height
  | .saveProgress _ _, _ => .null
  | .upsertValidator _, _ => .null
  | .validator _, row => Ledger.validators.showRow? row
  | .upsertProposal _, _ => .null
  | .proposal _, row => Ledger.proposals.showRow? row
  | .proposalCreatedAt _, row => Ledger.proposals.showRow? row
  | .proposalSettledAt _, row => Ledger.proposals.showRow? row
  | .proposals _ _, page => .record (page.members Ledger.proposals.write)
  | .upsertGrant _, _ => .null
  | .grant _, row => Ledger.grants.showRow? row
  | .grantAt _, row => Ledger.grants.showRow? row
  | .grants _, page => .record (page.members Ledger.grants.write)
  | .discussionAt _ _, id => showInt? id
  | .insertDiscussion _, id => .ofInt id
  | .discussions _ _, page => .record (page.members Ledger.discussions.writeNumbered)
  | .hasProposalVote _ _, has => .flag has
  | .insertProposalVote _, id => .ofInt id
  | .proposalVotes _ _, page => .record (page.members Ledger.proposalVotes.writeNumbered)
  | .hasGrantVote _ _, has => .flag has
  | .insertGrantVote _, id => .ofInt id
  | .grantVotes _ _, page => .record (page.members Ledger.grantVotes.writeNumbered)

end RollCall.Ledger
