import RollCall.Proofs.Absorbing
import RollCall.Reconcile

/-!
# What the signatures under a block make of the tables

Bringing the votes of a height up to date, as a function of the tables. Votes that are there already
are left alone, and a block that is done again leaves the same record to vote on.
-/

set_option autoImplicit false

namespace RollCall

/-!
## What is voted on
-/

/-- Two targets that votes cannot tell apart. -/
def Target.SameRecord (first second : Target) : Prop :=
  first = second ∨ ∃ proposal other, first = .created proposal ∧ second = .created other ∧
    proposal.id = other.id

theorem Target.SameRecord.trans {first second third : Target} (one : first.SameRecord second)
    (two : second.SameRecord third) : first.SameRecord third := by
  rcases one with rfl | ⟨proposal, other, rfl, rfl, same⟩
  · exact two
  · rcases two with rfl | ⟨_, another, found, rfl, same'⟩
    · exact .inr ⟨proposal, other, rfl, rfl, same⟩
    · cases found
      exact .inr ⟨proposal, another, rfl, rfl, same.trans same'⟩

theorem Target.SameRecord.symm {first second : Target} (one : first.SameRecord second) :
    second.SameRecord first := by
  rcases one with rfl | ⟨proposal, other, rfl, rfl, same⟩
  · exact .inl rfl
  · exact .inr ⟨other, proposal, rfl, rfl, same.symm⟩

namespace Ledger

/-- A vote as far as it counts: the table it is in, the record it names and who voted. -/
structure Ballot where
  onGrant : Bool
  record : Number
  voter : Number
deriving DecidableEq, Repr

end Ledger

/-- The ballot of a voter on a target. -/
def Target.ballot (target : Target) (voter : Nat) : Ledger.Ballot where
  onGrant := target matches .granted _
  record := target.id
  voter := .ofNat voter

namespace Ledger.Tables

/-- What the votes of a height are about. -/
def target? (tables : Tables) (height : Height) : Option Target :=
  match lowest? Proposal.id (·.createdAt.equals height) tables.proposals with
  | some proposal => some (.created proposal)
  | none =>
      match lowest? Proposal.id (·.settledAt.equals height) tables.proposals with
      | some proposal => some (.settled proposal)
      | none => (lowest? Grant.id (·.height.equals height) tables.grants).map .granted

/-- A target is decided at a height: it is a record of the first kind that any record of the height
is of, and none of that kind has a lower id. -/
inductive Decides (tables : Tables) (height : Height) : Target → Prop where
  | created {proposal : Proposal} (member : proposal ∈ tables.proposals)
      (made : proposal.createdAt.equals height)
      (lowest : ∀ other ∈ tables.proposals, other.createdAt.equals height →
        ¬ other.id.below proposal.id) : Decides tables height (.created proposal)
  | settled {proposal : Proposal}
      (none_made : ∀ other ∈ tables.proposals, ¬ other.createdAt.equals height)
      (member : proposal ∈ tables.proposals) (settled : proposal.settledAt.equals height)
      (lowest : ∀ other ∈ tables.proposals, other.settledAt.equals height →
        ¬ other.id.below proposal.id) : Decides tables height (.settled proposal)
  | granted {grant : Grant}
      (none_made : ∀ other ∈ tables.proposals, ¬ other.createdAt.equals height)
      (none_settled : ∀ other ∈ tables.proposals, ¬ other.settledAt.equals height)
      (member : grant ∈ tables.grants) (granted : grant.height.equals height)
      (lowest : ∀ other ∈ tables.grants, other.height.equals height →
        ¬ other.id.below grant.id) : Decides tables height (.granted grant)

/-- No record is of a height. -/
def Undecided (tables : Tables) (height : Height) : Prop :=
  (∀ proposal ∈ tables.proposals,
    ¬ proposal.createdAt.equals height ∧ ¬ proposal.settledAt.equals height) ∧
    ∀ grant ∈ tables.grants, ¬ grant.height.equals height

theorem decides_of_target? {tables : Tables} {height : Height} {target : Target}
    (found : tables.target? height = some target) : tables.Decides height target := by
  unfold target? at found
  split at found
  · next created =>
    cases found
    obtain ⟨member, made, lowest⟩ := lowest?_some created
    exact .created member made lowest
  · next none_made =>
    have none_made := lowest?_eq_none.mp none_made
    split at found
    · next settled =>
      cases found
      obtain ⟨member, settled, lowest⟩ := lowest?_some settled
      exact .settled none_made member settled lowest
    · next none_settled =>
      obtain ⟨grant, granted, rfl⟩ := Option.map_eq_some_iff.mp found
      obtain ⟨member, granted, lowest⟩ := lowest?_some granted
      exact .granted none_made (lowest?_eq_none.mp none_settled) member granted lowest

theorem undecided_of_target? {tables : Tables} {height : Height}
    (missing : tables.target? height = none) : tables.Undecided height := by
  unfold target? at missing
  split at missing
  · cases missing
  · next none_made =>
    split at missing
    · cases missing
    · next none_settled =>
      refine ⟨fun proposal member => ⟨?_, ?_⟩, ?_⟩
      · exact lowest?_eq_none.mp none_made proposal member
      · exact lowest?_eq_none.mp none_settled proposal member
      · exact lowest?_eq_none.mp (Option.map_eq_none_iff.mp missing)

/-- Proposals that were made anew at a height do not move its target. -/
theorem Remade.target? {once twice : Tables} {height : Height} (begun : (0 : Height).below height)
    (keyed : once.Keyed) (remade : Remade height once twice) :
    Option.Rel Target.SameRecord (once.target? height) (twice.target? height) := by
  have rows := remade.proposals keyed
  have grants : twice.grants = once.grants := by rw [remade.rest]
  have created : Option.Rel (Proposal.SameMaking height)
      (lowest? Proposal.id (·.createdAt.equals height) once.proposals)
      (lowest? Proposal.id (·.createdAt.equals height) twice.proposals) := by
    refine lowest?_rel rows (fun first again pair => pair.elim (congrArg _) And.left) ?_
    rintro first again (rfl | ⟨_, made, made'⟩)
    · rfl
    · rw [made, made']
  unfold Tables.target?
  cases first : lowest? Proposal.id (·.createdAt.equals height) once.proposals with
  | some proposal =>
      rw [first] at created
      cases again : lowest? Proposal.id (·.createdAt.equals height) twice.proposals with
      | none =>
          rw [again] at created
          cases created
      | some other =>
          rw [again] at created
          cases created with
          | some pair =>
              refine .some ?_
              rcases pair with rfl | ⟨same, _⟩
              · exact .inl rfl
              · exact .inr ⟨proposal, other, rfl, rfl, same⟩
  | none =>
      have none_made := lowest?_eq_none.mp first
      -- A row that differs was made at the height, and there is none of these.
      have same : once.proposals = twice.proposals := by
        rw [← List.forall₂_eq_eq_eq]
        refine (List.forall₂_and_left _ _).mpr ⟨none_made, rows⟩ |>.imp ?_
        rintro proposal other ⟨notMade, rfl | ⟨_, made, _⟩⟩
        · rfl
        · rw [made] at notMade
          exact absurd (Number.equals_self_of_below begun) notMade
      rw [← same, grants, first]
      cases lowest? Proposal.id (·.settledAt.equals height) once.proposals with
      | some proposal => exact .some (.inl rfl)
      | none =>
          cases lowest? Grant.id (·.height.equals height) once.grants with
          | some grant => exact .some (.inl rfl)
          | none => exact .none

/-!
## Votes
-/

/-- Whether a signer has a vote at a height in the table of a target. -/
def hasVote (tables : Tables) (target : Target) (height : Height) (signer : Signer) : Bool :=
  match target with
  | .granted _ => (tables.perform (.hasGrantVote height (.ofNat signer.account.index))).1
  | _ => (tables.perform (.hasProposalVote height (.ofNat signer.account.index))).1

/-- The tables with the vote of a signer. -/
def storeVote (tables : Tables) (target : Target) (height : Height) (signer : Signer) : Tables :=
  match target with
  | .granted grant => (tables.perform (.insertGrantVote (signer.grantVote grant height))).2
  | _ => (tables.perform (.insertProposalVote (signer.proposalVote target.id height))).2

/-- The tables with the vote of a signer, unless there is one already. -/
def cast (target : Target) (height : Height) (tables : Tables) (signer : Signer) : Tables :=
  if tables.hasVote target height signer then tables else tables.storeVote target height signer

/-- The tables with the votes of signers. -/
def castAll (tables : Tables) (target : Target) (height : Height) (signers : List Signer) : Tables :=
  signers.foldl (cast target height) tables

variable {target : Target} {height : Height}

@[simp] theorem castAll_nil (tables : Tables) : tables.castAll target height [] = tables := rfl

theorem castAll_cons (tables : Tables) (signer : Signer) (signers : List Signer) :
    tables.castAll target height (signer :: signers) =
      (cast target height tables signer).castAll target height signers := rfl

theorem castAll_append (tables : Tables) (first second : List Signer) :
    tables.castAll target height (first ++ second) =
      (tables.castAll target height first).castAll target height second :=
  List.foldl_append

theorem cast_congr {other : Target} (same : target.SameRecord other) :
    cast target height = cast other height := by
  rcases same with rfl | ⟨proposal, another, rfl, rfl, same⟩
  · rfl
  · funext tables signer
    simp only [cast, hasVote, storeVote, Target.id]
    rw [same]
    rfl

theorem castAll_congr {other : Target} (same : target.SameRecord other) (tables : Tables)
    (signers : List Signer) :
    tables.castAll target height signers = tables.castAll other height signers := by
  rw [castAll, cast_congr same, castAll]

/-!
### What votes leave alone
-/

/-- The tables with other votes. -/
def withVotes (tables : Tables) (proposalVotes : List (Numbered ProposalVote))
    (grantVotes : List (Numbered GrantVote)) : Tables :=
  { tables with proposalVotes, grantVotes }

theorem cast_withVotes (target : Target) (height : Height) (tables : Tables) (signer : Signer) :
    ∃ proposalVotes grantVotes,
      cast target height tables signer = tables.withVotes proposalVotes grantVotes := by
  unfold cast
  split
  · exact ⟨_, _, rfl⟩
  · cases target <;> exact ⟨_, _, rfl⟩

theorem castAll_withVotes (target : Target) (height : Height) (tables : Tables)
    (signers : List Signer) : ∃ proposalVotes grantVotes,
      tables.castAll target height signers = tables.withVotes proposalVotes grantVotes := by
  induction signers generalizing tables with
  | nil => exact ⟨_, _, rfl⟩
  | cons signer rest ih =>
      obtain ⟨_, _, first⟩ := cast_withVotes target height tables signer
      obtain ⟨_, _, others⟩ := ih (cast target height tables signer)
      rw [castAll_cons, others, first]
      exact ⟨_, _, rfl⟩

theorem target?_castAll (tables : Tables) (signers : List Signer) (other : Height) :
    (tables.castAll target height signers).target? other = tables.target? other := by
  obtain ⟨_, _, same⟩ := castAll_withVotes target height tables signers
  rw [same]
  rfl

theorem Keyed.castAll {tables : Tables} (keyed : tables.Keyed) (signers : List Signer) :
    (tables.castAll target height signers).Keyed := by
  obtain ⟨_, _, same⟩ := castAll_withVotes target height tables signers
  rw [same]
  exact ⟨keyed.validators, keyed.proposals, keyed.grants⟩

/-- Handlers and votes do not meet: either may come first. -/
theorem absorbAll_castAll (tables : Tables) (signers : List Signer) (events : List Event)
    (ordinal : Nat) :
    (tables.castAll target height signers).absorbAll height events ordinal =
      (tables.absorbAll height events ordinal).castAll target height signers := by
  have one : ∀ (tables : Tables) (signer : Signer) (ordinal : Number) (event : Event),
      (cast target height tables signer).absorb height ordinal event =
        cast target height (tables.absorb height ordinal event) signer := by
    intro tables signer ordinal event
    unfold cast
    cases target <;> (split <;> (split <;> first | rfl | contradiction))
  induction signers generalizing tables with
  | nil => rfl
  | cons signer rest ih =>
      rw [castAll_cons, ih, castAll_cons]
      congr 1
      clear ih
      induction events generalizing tables ordinal with
      | nil => rfl
      | cons event more ih => rw [absorbAll, one, ih, absorbAll]

/-!
### Votes are cast once
-/

theorem hasVote_cast (tables : Tables) (signer : Signer) (begun : (0 : Height).below height) :
    (cast target height tables signer).hasVote target height signer := by
  have at_height := Number.equals_self_of_below begun
  have self : (Number.ofNat signer.account.index).equals (.ofNat signer.account.index) :=
    Number.equals_ofNat_iff.mpr rfl
  unfold cast
  split
  · next has => exact has
  · cases target <;>
      simp [hasVote, storeVote, perform, append, Signer.proposalVote, Signer.grantVote, at_height, self]

theorem hasVote_mono {tables : Tables} {signer : Signer}
    (has : tables.hasVote target height signer) (other : Signer) :
    (cast target height tables other).hasVote target height signer := by
  unfold cast
  split
  · exact has
  · cases target <;> simp_all [hasVote, storeVote, perform, append]

theorem castAll_of_hasVote {tables : Tables} {signers : List Signer}
    (has : ∀ signer ∈ signers, tables.hasVote target height signer) :
    tables.castAll target height signers = tables := by
  induction signers with
  | nil => rfl
  | cons signer rest ih =>
      rw [castAll_cons, cast, if_pos (has signer List.mem_cons_self)]
      exact ih fun other member => has other (List.mem_cons_of_mem _ member)

theorem hasVote_castAll (begun : (0 : Height).below height) (tables : Tables)
    (signers : List Signer) (signer : Signer)
    (voted : signer ∈ signers ∨ tables.hasVote target height signer) :
    (tables.castAll target height signers).hasVote target height signer := by
  induction signers generalizing tables with
  | nil =>
      rcases voted with impossible | has
      · cases impossible
      · exact has
  | cons first rest ih =>
      rw [castAll_cons]
      apply ih
      rcases voted with member | has
      · rcases List.mem_cons.mp member with rfl | later
        · exact .inr (hasVote_cast tables _ begun)
        · exact .inl later
      · exact .inr (hasVote_mono has first)

/-- Casting some of the votes first changes nothing about all of them. -/
theorem castAll_again (begun : (0 : Height).below height) (tables : Tables)
    {done signers : List Signer} (first : done <+: signers) :
    (tables.castAll target height done).castAll target height signers =
      tables.castAll target height signers := by
  obtain ⟨rest, rfl⟩ := first
  rw [castAll_append, castAll_append, castAll_of_hasVote fun signer member =>
    hasVote_castAll begun tables done signer (.inl member)]

/-!
### Whose votes there are
-/

/-- The ballots that were cast at a height. -/
def ballotsAt (tables : Tables) (height : Height) : List Ballot :=
  (tables.proposalVotes.filter (·.row.height.equals height)).map
      (fun vote => ⟨false, vote.row.proposal, vote.row.voterIndex⟩) ++
    (tables.grantVotes.filter (·.row.height.equals height)).map
      fun vote => ⟨true, vote.row.accountIndex, vote.row.voterIndex⟩

/-- The ballots of a height are those of some voters on a target, one of each. -/
def VotedOn (tables : Tables) (target : Target) (height : Height) (voters : List Nat) : Prop :=
  tables.ballotsAt height = voters.map target.ballot ∧ voters.Nodup

theorem VotedOn.congr {tables : Tables} {other : Target} {voters : List Nat}
    (same : target.SameRecord other) (voted : tables.VotedOn target height voters) :
    tables.VotedOn other height voters := by
  rcases same with rfl | ⟨proposal, another, rfl, rfl, same⟩
  · exact voted
  · refine ⟨voted.1.trans (List.map_congr_left fun voter _ => ?_), voted.2⟩
    simp only [Target.ballot, Target.id]
    rw [same]

private theorem hasVote_iff (tables : Tables) (signer : Signer) :
    tables.hasVote target height signer ↔
      ∃ ballot ∈ tables.ballotsAt height, ballot.onGrant = (target.ballot 0).onGrant ∧
        ballot.voter = .ofNat signer.account.index := by
  cases target <;>
    simp [hasVote, perform, ballotsAt, Target.ballot, Number.equals_ofNat_iff, or_and_right,
      exists_or, and_assoc]

theorem VotedOn.hasVote_iff {tables : Tables} {voters : List Nat}
    (voted : tables.VotedOn target height voters) (signer : Signer) :
    tables.hasVote target height signer ↔ signer.account.index ∈ voters := by
  rw [Tables.hasVote_iff, voted.1]
  constructor
  · rintro ⟨_, member, _, same⟩
    obtain ⟨voter, votes, rfl⟩ := List.mem_map.mp member
    exact Number.ofNat_injective same ▸ votes
  · intro member
    exact ⟨_, List.mem_map_of_mem member, rfl, rfl⟩

theorem VotedOn.storeVote {tables : Tables} {voters : List Nat}
    (begun : (0 : Height).below height) (voted : tables.VotedOn target height voters)
    {signer : Signer} (missing : signer.account.index ∉ voters) :
    (tables.storeVote target height signer).VotedOn target height
      (voters ++ [signer.account.index]) := by
  have at_height := Number.equals_self_of_below begun
  have distinct : (voters ++ [signer.account.index]).Nodup :=
    List.nodup_append.mpr ⟨voted.2, List.nodup_singleton _, fun voter member other new same =>
      missing (List.mem_singleton.mp new ▸ same ▸ member)⟩
  refine ⟨?_, distinct⟩
  have ballots := voted.1
  rw [List.map_append, ← ballots]
  -- Votes on proposals stand before those on grants, of which there are none in that case.
  have no_grants : (target.ballot 0).onGrant = false →
      tables.grantVotes.filter (·.row.height.equals height) = [] := by
    intro onProposal
    rw [List.eq_nil_iff_forall_not_mem]
    intro vote member
    have also : (⟨true, vote.row.accountIndex, vote.row.voterIndex⟩ : Ballot) ∈
        tables.ballotsAt height :=
      List.mem_append_right _ (List.mem_map_of_mem member)
    rw [ballots] at also
    obtain ⟨voter, _, same⟩ := List.mem_map.mp also
    have kinds := congrArg Ballot.onGrant same
    exact absurd (kinds.symm.trans onProposal) (by simp)
  cases target with
  | created proposal =>
      simp [Tables.storeVote, perform, append, ballotsAt, no_grants rfl, at_height,
        Signer.proposalVote, Target.ballot, Target.id]
  | settled proposal =>
      simp [Tables.storeVote, perform, append, ballotsAt, no_grants rfl, at_height,
        Signer.proposalVote, Target.ballot, Target.id]
  | granted grant =>
      simp [Tables.storeVote, perform, append, ballotsAt, at_height, Signer.grantVote,
        Target.ballot, Target.id]

/-- After votes are cast there is one ballot of each who voted before or is among the signers. -/
theorem VotedOn.castAll {tables : Tables} {voters : List Nat}
    (begun : (0 : Height).below height) (voted : tables.VotedOn target height voters)
    (signers : List Signer) :
    ∃ more, (tables.castAll target height signers).VotedOn target height more ∧
      ∀ index, index ∈ more ↔
        index ∈ voters ∨ ∃ signer ∈ signers, signer.account.index = index := by
  induction signers generalizing tables voters with
  | nil => exact ⟨voters, voted, by simp⟩
  | cons signer rest ih =>
      rw [castAll_cons, cast]
      split
      · next has =>
        obtain ⟨more, voted', members⟩ := ih voted
        refine ⟨more, voted', fun index => ?_⟩
        have stored := (voted.hasVote_iff signer).mp has
        rw [members, List.exists_mem_cons_iff]
        refine ⟨Or.imp_right .inr, ?_⟩
        rintro (old | rfl | new)
        · exact .inl old
        · exact .inl stored
        · exact .inr new
      · next missing =>
        have fresh := fun stored => missing ((voted.hasVote_iff signer).mpr stored)
        obtain ⟨more, voted', members⟩ := ih (voted.storeVote begun fresh)
        refine ⟨more, voted', fun index => ?_⟩
        rw [members, List.exists_mem_cons_iff, List.mem_append, List.mem_singleton, or_assoc,
          eq_comm]

theorem ballotsAt_castAll_of_ne {other : Height} (elsewhere : ¬ height.equals other)
    (tables : Tables) (signers : List Signer) :
    (tables.castAll target height signers).ballotsAt other = tables.ballotsAt other := by
  induction signers generalizing tables with
  | nil => rfl
  | cons signer rest ih =>
      rw [castAll_cons, ih, cast]
      split
      · rfl
      · cases target <;>
          simp [storeVote, perform, append, ballotsAt, elsewhere, Signer.proposalVote,
            Signer.grantVote]

theorem ballotsAt_absorbAll (tables : Tables) (other : Height) (events : List Event)
    (ordinal : Nat) :
    (tables.absorbAll height events ordinal).ballotsAt other = tables.ballotsAt other := by
  unfold ballotsAt
  rw [proposalVotes_absorbAll, grantVotes_absorbAll]

/-!
### The votes of a height
-/

/-- The tables with the votes of signers on whatever a height is about. -/
def voted (tables : Tables) (height : Height) (signers : List Signer) : Tables :=
  (tables.target? height).elim tables (tables.castAll · height signers)

variable {tables : Tables} {events : List Event} {ordinal : Nat} {done again : List Signer}

/-- Votes may as well be cast before the block is absorbed. -/
theorem voted_eq_absorbAll (keyed : tables.Keyed) :
    ∃ earlier : Tables, earlier.Keyed ∧ earlier.proposals = tables.proposals ∧
      (tables.absorbAll height events ordinal).voted height done =
        earlier.absorbAll height events ordinal := by
  unfold voted
  cases decided : (tables.absorbAll height events ordinal).target? height with
  | none => exact ⟨tables, keyed, rfl, rfl⟩
  | some target =>
      refine ⟨tables.castAll target height done, keyed.castAll done, ?_, ?_⟩
      · obtain ⟨_, _, same⟩ := castAll_withVotes target height tables done
        rw [same]
        rfl
      · exact (absorbAll_castAll tables done events ordinal).symm

theorem target?_voted (tables : Tables) (other : Height) :
    (tables.voted height done).target? other = tables.target? other := by
  unfold voted
  cases tables.target? height with
  | none => rfl
  | some target => exact target?_castAll tables done other

/-- Votes that are cast before some more of the same height change nothing about these. -/
theorem voted_voted (begun : (0 : Height).below height) (further : done <+: again) :
    (tables.voted height done).voted height again = tables.voted height again := by
  rw [voted, target?_voted]
  unfold voted
  cases tables.target? height with
  | none => rfl
  | some target => exact castAll_again begun tables further

theorem absorbAll_voted (begun : (0 : Height).below height) (keyed : tables.Keyed) :
    ((tables.absorbAll height events ordinal).voted height done).absorbAll height events ordinal =
      ((tables.absorbAll height events ordinal).absorbAll height events ordinal).voted height
        done := by
  have same := (remade_absorbAll_again begun keyed events ordinal).target? begun
    (keyed.absorbAll height events ordinal)
  unfold voted
  cases decided : (tables.absorbAll height events ordinal).target? height with
  | none =>
      rw [decided] at same
      cases redecided : ((tables.absorbAll height events ordinal).absorbAll height events
          ordinal).target? height with
      | none => rfl
      | some target =>
          rw [redecided] at same
          cases same
  | some target =>
      rw [decided] at same
      cases redecided : ((tables.absorbAll height events ordinal).absorbAll height events
          ordinal).target? height with
      | none =>
          rw [redecided] at same
          cases same
      | some target' =>
          rw [redecided] at same
          cases same with
          | some record =>
              simp only [Option.elim_some]
              rw [absorbAll_castAll, castAll_congr record]

theorem ballotsAt_voted_of_ne {other : Height} (elsewhere : ¬ height.equals other)
    (tables : Tables) (done : List Signer) :
    (tables.voted height done).ballotsAt other = tables.ballotsAt other := by
  unfold voted
  cases tables.target? height with
  | none => rfl
  | some target => exact ballotsAt_castAll_of_ne elsewhere tables done

/-- After votes on the record of a height there is one ballot of each who voted before or now. -/
theorem VotedOn.voted {target' : Target} {voters : List Nat} (begun : (0 : Height).below height)
    (found : tables.target? height = some target') (same : target'.SameRecord target)
    (already : tables.VotedOn target height voters) (done : List Signer) :
    ∃ more, (tables.voted height done).VotedOn target height more ∧
      ∀ index, index ∈ more ↔
        index ∈ voters ∨ ∃ signer ∈ done, signer.account.index = index := by
  rw [Tables.voted, found, Option.elim_some, castAll_congr same]
  exact already.castAll begun done

end Ledger.Tables

end RollCall
