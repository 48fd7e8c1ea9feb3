import RollCall.Accounts

/-!
# Votes

The signatures under a block are votes on whatever was decided at its height. Each signer has at
most one vote at a height, so doing a height again adds only what is missing. All signers are looked
up before the first vote is stored.
-/

set_option autoImplicit false

namespace RollCall

/-- What the votes of a height are about. -/
inductive Target where
  | created (proposal : Ledger.Proposal)
  | settled (proposal : Ledger.Proposal)
  | granted (grant : Ledger.Grant)
deriving DecidableEq, Repr

def Target.kind : Target → String
  | created _ => "proposal_new"
  | settled _ => "proposal_settle"
  | granted _ => "grant"

def Target.id : Target → Number
  | created proposal => proposal.id
  | settled proposal => proposal.id
  | granted grant => grant.id

/-- What bringing the votes of a height up to date came to; `skipped` are the signatures that gave
no new vote. -/
structure Reconciliation where
  target : Option Target
  inserted : Int
  skipped : Int
deriving DecidableEq, Repr

/-- The kind of the target, or that there is none. -/
def Reconciliation.kind (reconciliation : Reconciliation) : String :=
  reconciliation.target.elim "none" Target.kind

/-- A signer and the flag of the signature. -/
structure Signer where
  account : Account
  flag : Number
deriving DecidableEq, Repr

def Signer.proposalVote (signer : Signer) (proposal : Number) (height : Height) :
    Ledger.ProposalVote where
  proposal
  voterIndex := .ofNat signer.account.index
  voterAddress := signer.account.address
  height
  vote := signer.flag

def Signer.grantVote (signer : Signer) (grant : Ledger.Grant) (height : Height) :
    Ledger.GrantVote where
  proposerIndex := grant.proposer
  proposerAddress := grant.proposerAddress
  accountIndex := grant.id
  accountAddress := grant.address
  voterIndex := .ofNat signer.account.index
  voterAddress := signer.account.address
  height
  vote := signer.flag

namespace World

variable {others : Collaborators}

/-- What the votes of a height are about: a proposal made then, else one settled then, else a
grant. -/
def target? (height : Height) : Call (World others) (Option Target) := do
  match ← record (.proposalCreatedAt height) with
  | some proposal => return some (.created proposal)
  | none =>
      match ← record (.proposalSettledAt height) with
      | some proposal => return some (.settled proposal)
      | none => return (← record (.grantAt height)).map .granted

/-- The signers of signatures, looked up in order. -/
def signers : List Chain.Signature → Call (World others) (List Signer)
  | [] => return []
  | signature :: rest => do
      let account ← resolve signature.address
      return { account, flag := signature.flag } :: (← signers rest)

def hasVote (target : Target) (height : Height) (signer : Signer) : Call (World others) Bool :=
  match target with
  | .granted _ => record (.hasGrantVote height (.ofNat signer.account.index))
  | _ => record (.hasProposalVote height (.ofNat signer.account.index))

def storeVote (target : Target) (height : Height) (signer : Signer) : Call (World others) Unit :=
  match target with
  | .granted grant => do
      let _ ← record (.insertGrantVote (signer.grantVote grant height))
  | _ => do
      let _ ← record (.insertProposalVote (signer.proposalVote target.id height))

/-- Stores the votes that are missing, and says how many were. -/
def storeVotes (target : Target) (height : Height) : List Signer → Call (World others) Nat
  | [] => return 0
  | signer :: rest => do
      if ← hasVote target height signer then storeVotes target height rest
      else
        storeVote target height signer
        return (← storeVotes target height rest) + 1

/-- The votes of the signatures under a block. -/
def reconcileTarget (target : Target) (height : Height) : Call (World others) Reconciliation := do
  let commit ← ask (.commit height)
  let signers ← signers (commit.signatures.filter (·.address ≠ ""))
  let inserted ← storeVotes target height signers
  let skipped := (commit.signatures.length : Int) - inserted
  Call.log .info .reconcile
    s!"[votes] height={height} {target.kind} #{target.id} inserted={inserted} skipped={skipped}"
  return { target := some target, inserted, skipped }

/-- Brings the votes of a height up to date. -/
def reconcile (height : Height) : Call (World others) Reconciliation := do
  let reconciliation ← match ← target? height with
    | none => pure { target := none, inserted := 0, skipped := 0 }
    | some target => reconcileTarget target height
  Call.note (.reconciled height)
  return reconciliation

end World

end RollCall
