import RollCall.Call

/-!
# A ledger in memory

Tables whose rows are in the order in which they were first stored. Nothing is validated: a row with
an id of its own replaces the row of that id, and rows that are numbered get the next number.
-/

set_option autoImplicit false

namespace RollCall.Ledger

abbrev Books (σ : Type) : Type := Service Operation Operation.Answer σ

/-- The rows of all tables, and the last height done under each name. -/
@[ext]
structure Tables where
  progress : List (String × Height) := []
  validators : List Validator := []
  proposals : List Proposal := []
  grants : List Grant := []
  discussions : List (Numbered Discussion) := []
  proposalVotes : List (Numbered ProposalVote) := []
  grantVotes : List (Numbered GrantVote) := []
deriving DecidableEq, Repr

/-!
## Rows by id
-/

/-- The rows with one stored: in place of the row of the same id, or at the end. -/
def replaceById {ρ κ : Type} [BEq κ] (id : ρ → κ) (row : ρ) (rows : List ρ) : List ρ :=
  if rows.any (id · == id row) then rows.map fun other => if id other == id row then row else other
  else rows ++ [row]

def byId? {ρ : Type} (id : ρ → Number) (rows : List ρ) (wanted : Number) : Option ρ :=
  rows.find? (id · == wanted)

/-- Of the rows that have a property, the one with the lowest id. -/
def lowest? {ρ : Type} (id : ρ → Number) (holds : ρ → Bool) (rows : List ρ) : Option ρ :=
  rows.foldl (fun best row =>
    if holds row && best.all ((id row).below <| id ·) then some row else best) none

/-- The rows with one more, under the next number, and that number. -/
def append {ρ : Type} (row : ρ) (rows : List (Numbered ρ)) : Int × List (Numbered ρ) :=
  let id : Int := rows.length + 1
  (id, rows ++ [{ id := id, row := row }])

/-- A part of some rows in descending order of ids. -/
def page {ρ : Type} (id : ρ → Number) (window : Window) (rows : List ρ) : Page ρ :=
  let ordered := rows.mergeSort fun left right => !(id left).below (id right)
  let start := window.offset.place rows.length
  let stop := (window.offset + window.limit).place rows.length
  { rows := (ordered.take stop).drop start, total := rows.length }

def ProposalVoteFilter.admits (filter : ProposalVoteFilter) (vote : ProposalVote) : Bool :=
  match filter with
  | .proposal id => vote.proposal.equals id
  | .voter address => vote.voterAddress == address

def GrantVoteFilter.admits (filter : GrantVoteFilter) (vote : GrantVote) : Bool :=
  match filter with
  | .grant id => vote.accountIndex.equals id
  | .voter address => vote.voterAddress == address

namespace Tables

def progressOf? (tables : Tables) (id : String) : Option Height :=
  tables.progress.lookup id

/-- The tables after a height is done; what is stored never goes back. -/
def advance (tables : Tables) (id : String) (height : Height) : Tables :=
  let reached := Number.max ((tables.progressOf? id).getD 0) height
  { tables with progress := replaceById Prod.fst (id, reached) tables.progress }

/-- The tables after an operation, and its answer. -/
def perform (tables : Tables) : (operation : Operation) → operation.Answer × Tables
  | .init => ((), tables)
  | .close => ((), tables)
  | .progress id => (tables.progressOf? id, tables)
  | .saveProgress id height => ((), tables.advance id height)
  | .upsertValidator row =>
      ((), { tables with validators := replaceById Validator.id row tables.validators })
  | .validator id => (byId? Validator.id tables.validators id, tables)
  | .upsertProposal row =>
      ((), { tables with proposals := replaceById Proposal.id row tables.proposals })
  | .proposal id => (byId? Proposal.id tables.proposals id, tables)
  | .proposalCreatedAt height =>
      (lowest? Proposal.id (·.createdAt.equals height) tables.proposals, tables)
  | .proposalSettledAt height =>
      (lowest? Proposal.id (·.settledAt.equals height) tables.proposals, tables)
  | .proposals window proposer =>
      (page Proposal.id window
        (tables.proposals.filter fun row => proposer.all (row.proposerAddress == ·)), tables)
  | .upsertGrant row => ((), { tables with grants := replaceById Grant.id row tables.grants })
  | .grant id => (byId? Grant.id tables.grants id, tables)
  | .grantAt height => (lowest? Grant.id (·.height.equals height) tables.grants, tables)
  | .grants window => (page Grant.id window tables.grants, tables)
  | .discussionAt height ordinal =>
      ((tables.discussions.find? fun discussion =>
          discussion.row.height.equals height && discussion.row.ordinal.equals ordinal).map Numbered.id,
        tables)
  | .insertDiscussion row =>
      let (id, discussions) := append row tables.discussions
      (id, { tables with discussions })
  | .discussions proposal window =>
      (page (.ofInt ·.id) window
        (tables.discussions.filter (·.row.proposal.equals proposal)), tables)
  | .hasProposalVote height voter =>
      (tables.proposalVotes.any fun vote =>
        vote.row.height.equals height && vote.row.voterIndex.equals voter, tables)
  | .insertProposalVote row =>
      let (id, proposalVotes) := append row tables.proposalVotes
      (id, { tables with proposalVotes })
  | .proposalVotes filter window =>
      (page (.ofInt ·.id) window (tables.proposalVotes.filter (filter.admits ·.row)), tables)
  | .hasGrantVote height voter =>
      (tables.grantVotes.any fun vote =>
        vote.row.height.equals height && vote.row.voterIndex.equals voter, tables)
  | .insertGrantVote row =>
      let (id, grantVotes) := append row tables.grantVotes
      (id, { tables with grantVotes })
  | .grantVotes filter window =>
      (page (.ofInt ·.id) window (tables.grantVotes.filter (filter.admits ·.row)), tables)

def books : Books Tables := fun operation tables =>
  let (answer, state) := tables.perform operation
  { result := .ok answer, state }

end Tables

end RollCall.Ledger
