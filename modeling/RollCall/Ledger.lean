import RollCall.Bytes
import RollCall.Chain

/-!
# The ledger

The rows that the index keeps and the operations on them. Validators, proposals and grants have
ids of their own; discussions and votes are numbered as they are stored.
-/

set_option autoImplicit false

namespace RollCall.Ledger

structure Validator where
  id : Number
  address : String
  agentUrl : String
  stake : Number
deriving DecidableEq, Repr

/-- A proposal; `settledAt` is 0 until it is settled. -/
structure Proposal where
  id : Number
  proposerIndex : Number
  proposerAddress : String
  data : Bytes
  createdAt : Height
  settledAt : Height
  status : Number
deriving DecidableEq, Repr

/-- A grant; its id is the index of the validator that it is about. -/
structure Grant where
  id : Number
  address : String
  height : Height
  stake : Number
  proposer : Number
  proposerAddress : String
  granted : Bool
deriving DecidableEq, Repr

/-- A discussion; `ordinal` is its event's place among those dispatched at its height. -/
structure Discussion where
  proposal : Number
  speakerIndex : Number
  speakerAddress : String
  data : Bytes
  height : Height
  ordinal : Number
deriving DecidableEq, Repr

structure ProposalVote where
  proposal : Number
  voterIndex : Number
  voterAddress : String
  height : Height
  vote : Number
deriving DecidableEq, Repr

structure GrantVote where
  proposerIndex : Number
  proposerAddress : String
  accountIndex : Number
  accountAddress : String
  voterIndex : Number
  voterAddress : String
  height : Height
  vote : Number
deriving DecidableEq, Repr

/-- A row with the id under which it is stored. -/
structure Numbered (ρ : Type) where
  id : Int
  row : ρ
deriving DecidableEq, Repr

/-- Which part of a list is asked for. -/
structure Window where
  offset : Number
  limit : Number
deriving DecidableEq, Repr

/-- A part of a list, and the length of all of it. -/
structure Page (ρ : Type) where
  rows : List ρ
  total : Int
deriving DecidableEq, Repr

/-- Which votes on proposals are listed. -/
inductive ProposalVoteFilter where
  | proposal (id : Number)
  | voter (address : String)
deriving DecidableEq, Repr

/-- Which votes on grants are listed. -/
inductive GrantVoteFilter where
  | grant (id : Number)
  | voter (address : String)
deriving DecidableEq, Repr

/-- What a ledger can be asked to do. Lists are in descending order of ids. -/
inductive Operation where
  | init
  | close
  | progress (id : String)
  | saveProgress (id : String) (height : Height)
  | upsertValidator (row : Validator)
  | validator (id : Number)
  | upsertProposal (row : Proposal)
  | proposal (id : Number)
  | proposalCreatedAt (height : Height)
  | proposalSettledAt (height : Height)
  | proposals (window : Window) (proposer : Option String)
  | upsertGrant (row : Grant)
  | grant (id : Number)
  | grantAt (height : Height)
  | grants (window : Window)
  | discussionAt (height : Height) (ordinal : Number)
  | insertDiscussion (row : Discussion)
  | discussions (proposal : Number) (window : Window)
  | hasProposalVote (height : Height) (voter : Number)
  | insertProposalVote (row : ProposalVote)
  | proposalVotes (filter : ProposalVoteFilter) (window : Window)
  | hasGrantVote (height : Height) (voter : Number)
  | insertGrantVote (row : GrantVote)
  | grantVotes (filter : GrantVoteFilter) (window : Window)
deriving DecidableEq, Repr

@[reducible]
def Operation.Answer : Operation → Type
  | .init => Unit
  | .close => Unit
  | .progress _ => Option Height
  | .saveProgress _ _ => Unit
  | .upsertValidator _ => Unit
  | .validator _ => Option Validator
  | .upsertProposal _ => Unit
  | .proposal _ => Option Proposal
  | .proposalCreatedAt _ => Option Proposal
  | .proposalSettledAt _ => Option Proposal
  | .proposals _ _ => Page Proposal
  | .upsertGrant _ => Unit
  | .grant _ => Option Grant
  | .grantAt _ => Option Grant
  | .grants _ => Page Grant
  | .discussionAt _ _ => Option Int
  | .insertDiscussion _ => Int
  | .discussions _ _ => Page (Numbered Discussion)
  | .hasProposalVote _ _ => Bool
  | .insertProposalVote _ => Int
  | .proposalVotes _ _ => Page (Numbered ProposalVote)
  | .hasGrantVote _ _ => Bool
  | .insertGrantVote _ => Int
  | .grantVotes _ _ => Page (Numbered GrantVote)

def Operation.name : Operation → String
  | .init => "init"
  | .close => "close"
  | .progress _ => "getProgress"
  | .saveProgress _ _ => "saveProgress"
  | .upsertValidator _ => "upsertValidator"
  | .validator _ => "getValidator"
  | .upsertProposal _ => "upsertProposal"
  | .proposal _ => "getProposal"
  | .proposalCreatedAt _ => "findProposalByNewHeight"
  | .proposalSettledAt _ => "findProposalBySettleHeight"
  | .proposals _ _ => "listProposals"
  | .upsertGrant _ => "upsertGrant"
  | .grant _ => "getGrant"
  | .grantAt _ => "findGrantByHeight"
  | .grants _ => "listGrants"
  | .discussionAt _ _ => "findDiscussion"
  | .insertDiscussion _ => "insertDiscussion"
  | .discussions _ _ => "listDiscussions"
  | .hasProposalVote _ _ => "hasProposalVote"
  | .insertProposalVote _ => "insertProposalVote"
  | .proposalVotes _ _ => "listProposalVotes"
  | .hasGrantVote _ _ => "hasGrantVote"
  | .insertGrantVote _ => "insertGrantVote"
  | .grantVotes _ _ => "listGrantVotes"

def Operation.isWrite : Operation → Bool
  | .saveProgress .. => true
  | .upsertValidator .. => true
  | .upsertProposal .. => true
  | .upsertGrant .. => true
  | .insertDiscussion .. => true
  | .insertProposalVote .. => true
  | .insertGrantVote .. => true
  | _ => false

end RollCall.Ledger
