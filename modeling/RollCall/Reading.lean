import RollCall.Ledger.Named
import RollCall.Paging
import RollCall.World

/-!
# Reading the index

What consumers of the index ask for. Lists come page by page, newest first.
-/

set_option autoImplicit false

namespace RollCall

/-- A page of a list, and which page it is. -/
structure Listing (ρ : Type) where
  request : PageRequest
  page : Ledger.Page ρ
deriving Repr

def Listing.toValue {ρ : Type} (write : ρ → Members) (listing : Listing ρ) : Value :=
  .record (listing.page.members write ++
    [("page", .number listing.request.page), ("pageSize", .number listing.request.size)])

namespace World

variable {others : Collaborators}

/-- The page that is read when a page and a size are asked for. -/
def listing {ρ : Type} (page size : Number)
    (load : Ledger.Window → Call (World others) (Ledger.Page ρ)) :
    Call (World others) (Listing ρ) := do
  let request := PageRequest.clamp page size
  return { request, page := ← load request.window }

def listProposals (page size : Number) (proposer : Option String) :
    Call (World others) (Listing Ledger.Proposal) :=
  listing page size fun window => record (.proposals window proposer)

def listDiscussions (proposal page size : Number) :
    Call (World others) (Listing (Ledger.Numbered Ledger.Discussion)) :=
  listing page size fun window => record (.discussions proposal window)

def listGrants (page size : Number) : Call (World others) (Listing Ledger.Grant) :=
  listing page size fun window => record (.grants window)

def listProposalVotes (filter : Ledger.ProposalVoteFilter) (page size : Number) :
    Call (World others) (Listing (Ledger.Numbered Ledger.ProposalVote)) :=
  listing page size fun window => record (.proposalVotes filter window)

def listGrantVotes (filter : Ledger.GrantVoteFilter) (page size : Number) :
    Call (World others) (Listing (Ledger.Numbered Ledger.GrantVote)) :=
  listing page size fun window => record (.grantVotes filter window)

end World

/-!
## Queries
-/

/-- What can be read. -/
inductive Query where
  | progress
  | proposals (page size : Number) (proposer : Option String)
  | proposal (id : Number)
  | discussions (proposal page size : Number)
  | grants (page size : Number)
  | grant (id : Number)
  | proposalVotes (filter : Ledger.ProposalVoteFilter) (page size : Number)
  | grantVotes (filter : Ledger.GrantVoteFilter) (page size : Number)
  | validator (id : Number)
deriving DecidableEq, Repr

namespace Query

def named? (name : String) (arguments : List Value) : Option Query := do
  let number (place : Nat) : Option Number := (arguments[place]?.getD .null).toNumber?
  let first := arguments[0]?.getD .null
  match name with
  | "getProgress" => return .progress
  | "listProposals" =>
      return .proposals (← number 0) (← number 1) (← arguments[2]?.mapM Value.display?)
  | "getProposal" => return .proposal (← number 0)
  | "listDiscussions" => return .discussions (← number 0) (← number 1) (← number 2)
  | "listGrants" => return .grants (← number 0) (← number 1)
  | "getGrant" => return .grant (← number 0)
  | "listProposalVotes" =>
      return .proposalVotes (← Ledger.ProposalVoteFilter.ofValue? first) (← number 1) (← number 2)
  | "listGrantVotes" =>
      return .grantVotes (← Ledger.GrantVoteFilter.ofValue? first) (← number 1) (← number 2)
  | "getValidator" => return .validator (← number 0)
  | _ => none

variable {others : Collaborators}

/-- What a query is answered with, as a document; `progressId` is the name under which progress is
kept. -/
def run (progressId : String) : Query → Call (World others) Value
  | progress => do
      return Ledger.showNumber? (← World.record (.progress progressId))
  | proposals page size proposer => do
      return (← World.listProposals page size proposer).toValue Ledger.proposals.write
  | proposal id => do
      return Ledger.proposals.showRow? (← World.record (.proposal id))
  | discussions id page size => do
      return (← World.listDiscussions id page size).toValue Ledger.discussions.writeNumbered
  | grants page size => do
      return (← World.listGrants page size).toValue Ledger.grants.write
  | grant id => do
      return Ledger.grants.showRow? (← World.record (.grant id))
  | proposalVotes filter page size => do
      return (← World.listProposalVotes filter page size).toValue Ledger.proposalVotes.writeNumbered
  | grantVotes filter page size => do
      return (← World.listGrantVotes filter page size).toValue Ledger.grantVotes.writeNumbered
  | validator id => do
      return Ledger.validators.showRow? (← World.record (.validator id))

end Query

end RollCall
