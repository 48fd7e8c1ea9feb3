import RollCall.Proofs.Handling
import RollCall.Proofs.InMemory
import RollCall.Proofs.Sessions

/-!
# The integrity of the tables

No two discussions are of one place in a block and no voter has two votes at a height, votes name
records that are stored, and rows are numbered as they come. The ledger sees to none of this: an
insertion is sound only because the indexer looks up first what is there. So the operations that the
ledger is asked for are followed one by one, and each that inserts is admitted by the tables that it
meets. A place in a block is looked up by the values of its height and its ordinal, and a NaN is not of
the value of anything; a vote is about a stored record, which has a height that is not a NaN.
-/

set_option autoImplicit false

namespace RollCall

open Call

/-!
## Sound tables
-/

namespace Ledger

/-- The turn that a vote takes: that of a voter at a height. -/
def ProposalVote.turn (vote : ProposalVote) : Height × Number :=
  (vote.height, vote.voterIndex)

def GrantVote.turn (vote : GrantVote) : Height × Number :=
  (vote.height, vote.voterIndex)

namespace Tables

/-- Rows are numbered as they come, no two are alike, and votes name stored records. -/
structure Sound (tables : Tables) : Prop where
  discussionIds : Ordered tables.discussions
  proposalVoteIds : Ordered tables.proposalVotes
  grantVoteIds : Ordered tables.grantVotes
  discussions : tables.discussions.Pairwise fun earlier later =>
    ¬ (earlier.row.height.equals later.row.height ∧ earlier.row.ordinal.equals later.row.ordinal)
  proposalVotes : (tables.proposalVotes.map fun vote => vote.row.turn).Nodup
  grantVotes : (tables.grantVotes.map fun vote => vote.row.turn).Nodup
  proposals : ∀ vote ∈ tables.proposalVotes, vote.row.proposal ∈ tables.proposals.map Proposal.id
  grants : ∀ vote ∈ tables.grantVotes, vote.row.accountIndex ∈ tables.grants.map Grant.id

theorem sound_empty : Sound {} where
  discussionIds := rfl
  proposalVoteIds := rfl
  grantVoteIds := rfl
  discussions := .nil
  proposalVotes := List.nodup_nil
  grantVotes := List.nodup_nil
  proposals _ member := by cases member
  grants _ member := by cases member

/-- Whether the tables bear an operation: one that inserts must insert nothing that is there, and a
vote must name a stored record. -/
def Admits (tables : Tables) : Operation → Prop
  | .insertDiscussion row => ¬ tables.hasDiscussion row.height row.ordinal
  | .insertProposalVote row =>
      row.turn ∉ tables.proposalVotes.map (fun vote => vote.row.turn) ∧
        row.proposal ∈ tables.proposals.map Proposal.id
  | .insertGrantVote row =>
      row.turn ∉ tables.grantVotes.map (fun vote => vote.row.turn) ∧
        row.accountIndex ∈ tables.grants.map Grant.id
  | _ => True

private theorem nodup_append {ρ κ : Type} (key : ρ → κ) {rows : List (Numbered ρ)} {row : ρ}
    (distinct : (rows.map fun stored => key stored.row).Nodup)
    (fresh : key row ∉ rows.map fun stored => key stored.row) :
    ((append row rows).2.map fun stored => key stored.row).Nodup := by
  rw [Ledger.append, List.map_append]
  refine List.nodup_append.mpr ⟨distinct, List.nodup_singleton _, ?_⟩
  intro stored earlier new last same
  rw [same, List.mem_singleton.mp last] at earlier
  exact fresh earlier

theorem Sound.perform {tables : Tables} (sound : tables.Sound) {operation : Operation}
    (admitted : tables.Admits operation) : (tables.perform operation).2.Sound := by
  cases operation with
  | upsertProposal row =>
      exact { sound with
        proposals := fun vote member => mem_ids_replaceById.mpr (.inr (sound.proposals vote member)) }
  | upsertGrant row =>
      exact { sound with
        grants := fun vote member => mem_ids_replaceById.mpr (.inr (sound.grants vote member)) }
  | insertDiscussion row =>
      refine { sound with
        discussionIds := sound.discussionIds.append row
        discussions := ?_ }
      refine List.pairwise_append.mpr ⟨sound.discussions, List.pairwise_singleton _ _, ?_⟩
      intro earlier member later last same
      cases List.mem_singleton.mp last
      exact admitted (List.any_eq_true.mpr ⟨earlier, member, Bool.and_eq_true_iff.mpr same⟩)
  | insertProposalVote row =>
      exact { sound with
        proposalVoteIds := sound.proposalVoteIds.append row
        proposalVotes := nodup_append _ sound.proposalVotes admitted.1
        proposals := forall_append
          (Q := fun vote : ProposalVote => vote.proposal ∈ tables.proposals.map Proposal.id)
          sound.proposals admitted.2 }
  | insertGrantVote row =>
      exact { sound with
        grantVoteIds := sound.grantVoteIds.append row
        grantVotes := nodup_append _ sound.grantVotes admitted.1
        grants := forall_append
          (Q := fun vote : GrantVote => vote.accountIndex ∈ tables.grants.map Grant.id)
          sound.grants admitted.2 }
  | _ => exact { sound with }

/-- Each of some operations is admitted by the tables that the ones before it leave. -/
def AdmitsAll (tables : Tables) : List Operation → Prop
  | [] => True
  | operation :: rest => tables.Admits operation ∧ (tables.perform operation).2.AdmitsAll rest

theorem admitsAll_append {tables : Tables} {first second : List Operation} :
    tables.AdmitsAll (first ++ second) ↔
      tables.AdmitsAll first ∧ (tables.replay first).AdmitsAll second := by
  induction first generalizing tables with
  | nil => simp [AdmitsAll]
  | cons operation rest ih => simp [AdmitsAll, ih, and_assoc]

theorem admitsAll_of_forall {operations : List Operation}
    (each : ∀ operation ∈ operations, ∀ tables : Tables, tables.Admits operation) (tables : Tables) :
    tables.AdmitsAll operations := by
  induction operations generalizing tables with
  | nil => trivial
  | cons operation rest ih =>
      exact ⟨each operation List.mem_cons_self tables,
        ih (fun other member => each other (List.mem_cons_of_mem _ member)) _⟩

theorem Sound.replay {tables : Tables} (sound : tables.Sound) {operations : List Operation}
    (admitted : tables.AdmitsAll operations) : (tables.replay operations).Sound := by
  induction operations generalizing tables with
  | nil => exact sound
  | cons operation rest ih => exact ih (sound.perform admitted.1) admitted.2

private theorem turn_not_mem {ρ : Type} {height voter : ρ → Number} {rows : List (Numbered ρ)}
    {asked : Height} {index : Nat} (counted : asked ≠ .nan)
    (none : ¬ rows.any fun vote =>
      (height vote.row).equals asked && (voter vote.row).equals (.ofNat index)) :
    (asked, .ofNat index) ∉ rows.map fun vote => (height vote.row, voter vote.row) := by
  intro member
  obtain ⟨vote, stored, same⟩ := List.mem_map.mp member
  obtain ⟨at_height, by_voter⟩ := Prod.mk.inj same
  refine none (List.any_eq_true.mpr ⟨vote, stored, Bool.and_eq_true_iff.mpr ⟨?_, ?_⟩⟩)
  · exact Number.equals_iff.mpr ⟨at_height, at_height ▸ counted⟩
  · exact Number.equals_ofNat_iff.mpr by_voter

theorem admits_vote {tables : Tables} {target : Target} {height : Height} {signer : Signer}
    (counted : height ≠ .nan) (missing : ¬ tables.hasVote target height signer) :
    match target with
    | .granted grant =>
        (signer.grantVote grant height).turn ∉ tables.grantVotes.map fun vote => vote.row.turn
    | target =>
        (signer.proposalVote target.id height).turn ∉
          tables.proposalVotes.map fun vote => vote.row.turn := by
  cases target <;> exact turn_not_mem counted missing

/-!
## Stored records stay
-/

/-- The record of a target is stored. -/
def Holds (tables : Tables) : Target → Prop
  | .granted grant => grant.id ∈ tables.grants.map Grant.id
  | target => target.id ∈ tables.proposals.map Proposal.id

theorem holds_of_target? {tables : Tables} {height : Height} {target : Target}
    (found : tables.target? height = some target) : tables.Holds target := by
  cases decides_of_target? found with
  | created member => exact List.mem_map_of_mem member
  | settled _ member => exact List.mem_map_of_mem member
  | granted _ _ member => exact List.mem_map_of_mem member

theorem counted_of_target? {tables : Tables} {height : Height} {target : Target}
    (found : tables.target? height = some target) : height ≠ .nan := by
  have counted : ∀ {number : Number}, number.equals height → height ≠ .nan := by
    intro number same
    obtain ⟨rfl, counted⟩ := Number.equals_iff.mp same
    exact counted
  cases decides_of_target? found with
  | created _ made => exact counted made
  | settled _ _ settled => exact counted settled
  | granted _ _ _ granted => exact counted granted

theorem Holds.perform {tables : Tables} {target : Target} (holds : tables.Holds target)
    (operation : Operation) : (tables.perform operation).2.Holds target := by
  cases operation with
  | upsertProposal row =>
      cases target with
      | granted grant => exact holds
      | created proposal => exact mem_ids_replaceById.mpr (.inr holds)
      | settled proposal => exact mem_ids_replaceById.mpr (.inr holds)
  | upsertGrant row =>
      cases target with
      | granted grant => exact mem_ids_replaceById.mpr (.inr holds)
      | created proposal => exact holds
      | settled proposal => exact holds
  | _ => cases target <;> exact holds

theorem Holds.replay {tables : Tables} {target : Target} (holds : tables.Holds target)
    (operations : List Operation) : (tables.replay operations).Holds target := by
  induction operations generalizing tables with
  | nil => exact holds
  | cons operation rest ih => exact ih (holds.perform operation)

end Tables

end Ledger

/-!
## What the indexer asks for
-/

/-- The tables come to what the ledger was asked to do and did, and admit all of it. -/
def Admitted {others : Collaborators} (tables : others.Store → Ledger.Tables) (world : World others)
    (trace : Trace) (final : World others) : Prop :=
  Replays tables world trace final ∧ (tables world.store).AdmitsAll trace.operations

namespace World

variable {others : Collaborators} {tables : others.Store → Ledger.Tables}
  {world middle final : World others} {quiet rest : Trace} {operation : Ledger.Operation}

theorem admitted_chaining :
    Chaining (Admitted tables : World others → Trace → World others → Prop) where
  refl _ := ⟨rfl, trivial⟩
  trans first second := by
    refine ⟨replays_chaining.trans first.1 second.1, ?_⟩
    rw [Trace.operations_append, Ledger.Tables.admitsAll_append, ← first.1]
    exact ⟨first.2, second.2⟩

theorem admitted_of_undone {trace : Trace} (same : tables final.store = tables world.store)
    (undone : ∀ note ∈ trace, note.IsUndone) : Admitted tables world trace final := by
  refine ⟨replays_of_undone same undone, ?_⟩
  rw [Trace.operations_of_undone undone]
  trivial

theorem admitted_of_idle {options : FollowOptions} {trace : Trace}
    (idle : Loop.Idle tables options world trace final) : Admitted tables world trace final := by
  refine ⟨idle.1.trans (Trace.replay_of_idle idle.2 _).symm, ?_⟩
  apply Ledger.Tables.admitsAll_of_forall
  intro operation member tables
  cases Trace.operations_of_idle idle.2 operation member
  trivial

theorem admitted_of_refused (same : tables final.store = tables world.store)
    (allQuiet : ∀ note ∈ quiet, note.isOutside) :
    Admitted tables world (quiet ++ [.recorded operation false]) final := by
  refine admitted_of_undone same fun note member => ?_
  rcases List.mem_append.mp member with quietly | last
  · exact Note.undone_of_outside (allQuiet note quietly)
  · rw [List.mem_singleton.mp last]
    simp [Note.IsUndone]

theorem admitted_of_done (admits : (tables world.store).Admits operation)
    (performed : tables middle.store = ((tables world.store).perform operation).2)
    (allQuiet : ∀ note ∈ quiet, note.isOutside) (later : Admitted tables middle rest final) :
    Admitted tables world (quiet ++ .recorded operation true :: rest) final := by
  have first : Trace.operations (quiet ++ .recorded operation true :: rest) =
      operation :: rest.operations := by
    rw [Trace.operations_append, Trace.operations_of_quiet allQuiet]
    rfl
  rw [Admitted, Replays, first, Ledger.Tables.replay_cons, Ledger.Tables.AdmitsAll, ← performed]
  exact ⟨later.1, admits, later.2⟩

variable (discreet : others.Discreet) (kept : others.books.KeptIn tables)

include discreet kept

theorem record_bind_admitted {β : Type} {next : operation.Answer → Call (World others) β}
    {result : Except Fault β} {trace : Trace}
    (ending : (record operation >>= next).Ends world result trace final)
    (admits : (tables world.store).Admits operation)
    (later : ∀ {middle : World others} {rest : Trace},
      tables middle.store = ((tables world.store).perform operation).2 →
      (next ((tables world.store).perform operation).1).Ends middle result rest final →
      Admitted tables middle rest final) : Admitted tables world trace final := by
  obtain ⟨quiet, allQuiet, ⟨_, same, rfl⟩ | ⟨middle, rest, continued, performed, rfl⟩⟩ :=
    record_bind_cases discreet kept ending
  · exact admitted_of_refused same allQuiet
  · exact admitted_of_done admits performed allQuiet (later performed continued)

/-- All operations but those that insert are admitted anywhere. -/
theorem steps_admitted : Steps (Keeping (Admitted tables : World others → Trace → World others → Prop))
    (fun operation => ∀ tables : Ledger.Tables, tables.Admits operation) (fun _ => True)
    Note.IsUndone where
  closed := closed_keeping admitted_chaining
  record := by
    intro operation admits world result trace final ending
    obtain ⟨quiet, allQuiet, ⟨_, performed, rfl⟩ | ⟨_, same, rfl⟩⟩ :=
      record_ends discreet kept ending
    · exact admitted_of_done (admits _) performed allQuiet (admitted_chaining.refl _)
    · exact admitted_of_refused same allQuiet
  ask question _ _ _ _ _ ending :=
    admitted_of_undone (congrArg tables (ask_ends discreet ending).1)
      ((steps_undone discreet kept).ask question trivial ending)
  consult request _ _ _ _ ending :=
    admitted_of_undone (congrArg tables (consult_ends discreet ending).1)
      ((steps_undone discreet kept).consult request ending)
  note note undone := Keeps.note fun _ => admitted_of_undone rfl (by simpa using undone)

theorem parts_admitted :
    Parts (Keeping (Admitted tables : World others → Trace → World others → Prop))
      (fun operation => ∀ tables : Ledger.Tables, tables.Admits operation) (fun _ => True) :=
  (steps_admitted discreet kept).parts Note.undone_of_logged

/-!
### Handlers
-/

theorem advise_admitted (request : Advice.Request) :
    Keeps (Admitted tables : World others → Trace → World others → Prop) (advise request) :=
  advise_keeps (steps_admitted discreet kept) Note.undone_of_logged request

theorem onDiscussion_admitted (event : Event.Discussion) (height : Height) (ordinal : Number) :
    Keeps (Admitted tables : World others → Trace → World others → Prop)
      (onDiscussion event height ordinal) := by
  have parts := parts_admitted discreet kept
  intro world result trace final ending
  refine record_bind_admitted discreet kept ending trivial fun looked storing => ?_
  cases found : ((tables world.store).perform (.discussionAt height ordinal)).1 with
  | some id =>
      rw [found] at storing
      exact parts.log _ _ _ _ storing
  | none =>
      rw [found] at storing
      refine record_bind_admitted discreet kept storing ?_ fun _ telling => ?_
      · -- The lookup before has found nothing at the same place.
        intro has
        rw [looked] at has
        obtain ⟨discussion, member, here⟩ := List.any_eq_true.mp has
        exact List.find?_eq_none.mp (Option.map_eq_none_iff.mp found) discussion member here
      · refine parts.sequential.bind (parts.log _ _ _ _) (fun _ => ?_) telling
        exact parts.sequential.bind (advise_admitted discreet kept _) fun _ =>
          parts.sequential.pure _

theorem handler_admitted (height : Height) (ordinal : Number) (kind : Event.Kind)
    (content : kind.Content) :
    Keeps (Admitted tables : World others → Trace → World others → Prop)
      (handler height ordinal kind content) := by
  have parts := parts_admitted discreet kept
  cases kind with
  | grant => exact onGrant_keeps parts _ (fun _ => trivial) (fun _ => trivial)
  | discussion => exact onDiscussion_admitted discreet kept _ height ordinal
  | proposal =>
      exact onProposal_keeps parts (advise_admitted discreet kept) _ (fun _ => trivial) fun _ => trivial
  | settlement => exact onSettlement_keeps parts _ (fun _ => trivial) (fun _ _ => trivial)

theorem dispatch_admitted (tag : String) (event : Event) (height : Height) (ordinal : Number) :
    Keeps (Admitted tables : World others → Trace → World others → Prop)
      (dispatch tag event height ordinal) := by
  have steps := steps_admitted discreet kept
  exact dispatch_of_handler steps.closed (steps.log Note.undone_of_logged)
    (fun kind content _ _ => handler_admitted discreet kept height ordinal kind content)
    fun outcome => steps.note _ (by simp [Note.IsUndone])

/-!
### Votes
-/

theorem target_reads {height : Height} {found : Option Target} {trace : Trace}
    (ending : (target? height).Ends world (.ok found) trace final) :
    found = (tables world.store).target? height := by
  unfold Ledger.Tables.target?
  -- A lookup leaves the tables alone, so each of the three is answered from those at the start.
  obtain ⟨_, _, ⟨⟨_, impossible⟩, _⟩ | ⟨middle, rest, looking, same, _⟩⟩ :=
    record_bind_cases discreet kept ending
  · cases impossible
  change tables middle.store = tables world.store at same
  simp only [Ledger.Tables.perform] at looking
  split at looking
  · next created =>
    cases (ends_pure.mp looking).1
    rw [created]
  next none_made =>
  rw [none_made]
  obtain ⟨_, _, ⟨⟨_, impossible⟩, _⟩ | ⟨middle', rest', looking', same', _⟩⟩ :=
    record_bind_cases discreet kept looking
  · cases impossible
  change tables middle'.store = tables middle.store at same'
  rw [same] at looking' same'
  simp only [Ledger.Tables.perform] at looking'
  split at looking'
  · next settled =>
    cases (ends_pure.mp looking').1
    rw [settled]
  next none_settled =>
  rw [none_settled]
  obtain ⟨_, _, ⟨⟨_, impossible⟩, _⟩ | ⟨_, _, returned, _⟩⟩ :=
    record_bind_cases discreet kept looking'
  · cases impossible
  rw [same'] at returned
  exact Except.ok.inj (ends_pure.mp returned).1

theorem storeVote_admitted {target : Target} {height : Height} {signer : Signer}
    {result : Except Fault Unit} {trace : Trace} (counted : height ≠ .nan)
    (holds : (tables world.store).Holds target)
    (missing : ¬ (tables world.store).hasVote target height signer)
    (ending : (storeVote target height signer).Ends world result trace final) :
    Admitted tables world trace final := by
  have parts := parts_admitted discreet kept
  have fresh := Ledger.Tables.admits_vote counted missing
  cases target <;>
    exact record_bind_admitted discreet kept ending ⟨fresh, holds⟩ fun _ returned =>
      parts.sequential.pure _ returned

/-- What is admitted where the record of a target is stored. -/
def AdmittedOn (tables : others.Store → Ledger.Tables) (target : Target) (world : World others)
    (trace : Trace) (final : World others) : Prop :=
  (tables world.store).Holds target → Admitted tables world trace final

omit discreet kept in
theorem admittedOn_chaining (target : Target) :
    Chaining (AdmittedOn tables target : World others → Trace → World others → Prop) where
  refl _ _ := admitted_chaining.refl _
  trans := by
    intro world middle final first second before after holds
    have admitted := before holds
    refine admitted_chaining.trans admitted (after ?_)
    rw [admitted.1]
    exact holds.replay first.operations

theorem hasVote_admitted (target : Target) (height : Height) (signer : Signer) :
    Keeps (Admitted tables : World others → Trace → World others → Prop)
      (hasVote target height signer) := by
  have parts := parts_admitted discreet kept
  cases target <;> exact parts.record _ fun _ => trivial

theorem storeVotes_admitted (target : Target) {height : Height} (counted : height ≠ .nan)
    (signers : List Signer) :
    Keeps (AdmittedOn tables target : World others → Trace → World others → Prop)
      (storeVotes target height signers) := by
  have closed : Closed (Keeping (AdmittedOn tables target)) :=
    closed_keeping (admittedOn_chaining target)
  induction signers with
  | nil => exact closed.pure 0
  | cons signer rest ih =>
      intro world result trace final ending holds
      rcases ends_bind.mp ending with ⟨fault, rfl, failed⟩ | ⟨has, middle, first, second, asked, more,
        rfl⟩
      · exact hasVote_admitted discreet kept target height signer failed
      have admitted := hasVote_admitted discreet kept target height signer asked
      obtain ⟨same, answered⟩ := hasVote_ends discreet kept asked
      rw [← same] at holds
      refine admitted_chaining.trans admitted ?_
      split at more
      · exact ih more holds
      next missing =>
      rw [answered has rfl, ← same] at missing
      rcases ends_bind.mp more with ⟨fault, rfl, failed⟩ | ⟨_, last, third, fourth, stored, later, rfl⟩
      · exact storeVote_admitted discreet kept counted holds missing failed
      · have admitted' := storeVote_admitted discreet kept counted holds missing stored
        refine admitted_chaining.trans admitted' ?_
        refine closed.bind ih (fun _ => closed.pure _) later ?_
        rw [admitted'.1]
        exact holds.replay third.operations

theorem reconcile_admitted (height : Height) :
    Keeps (Admitted tables : World others → Trace → World others → Prop) (reconcile height) := by
  have steps := steps_admitted discreet kept
  have parts := parts_admitted discreet kept
  have looking : Keeps (Admitted tables : World others → Trace → World others → Prop)
      (target? height) := by
    refine target_keeps parts fun operation lookup tables => ?_
    cases operation <;> first | exact lookup.elim | trivial
  have ending : ∀ reconciliation : Reconciliation, Keeps (Admitted tables) (do
      Call.note (.reconciled height)
      return reconciliation : Call (World others) Reconciliation) := fun _ =>
    steps.closed.bind (steps.note _ (by simp [Note.IsUndone])) fun _ => steps.closed.pure _
  intro world result trace final ended
  rcases ends_bind.mp ended with ⟨fault, rfl, failed⟩ | ⟨found, middle, first, second, looked, more, rfl⟩
  · exact looking failed
  have admitted := looking looked
  have same := target_reads discreet kept looked
  refine admitted_chaining.trans admitted ?_
  cases found with
  | none => exact ending _ (ends_pure_bind.mp more)
  | some target =>
      have counted := Ledger.Tables.counted_of_target? same.symm
      have holds : (tables middle.store).Holds target := by
        rw [admitted.1]
        exact (Ledger.Tables.holds_of_target? same.symm).replay first.operations
      have parts' := parts.weaken (closed_keeping (admittedOn_chaining target)).toSequential
        fun kept => kept.mono fun admitted _ => admitted
      refine parts'.sequential.bind (reconcileTarget_of_casting parts' (fun _ _ => trivial)
        fun signers => storeVotes_admitted discreet kept target counted signers)
        (fun reconciliation => ?_) more holds
      exact (ending reconciliation).mono fun admitted _ => admitted

end World

/-!
## Whole sessions
-/

namespace Loop

variable {others : Collaborators} (discreet : others.Discreet)
  {tables : others.Store → Ledger.Tables} (kept : others.books.KeptIn tables)

include discreet kept

/-- Whatever the indexer is told to do, the tables admit all that the ledger does for it. -/
theorem session_admitted (options : FollowOptions) (acts : List Act) (loop : Loop) :
    Keeps (Admitted tables : World others → Trace → World others → Prop)
      (session options acts loop) := by
  have steps := World.steps_admitted discreet kept
  have between : Between options (Admitted tables) :=
    (between_idle discreet kept).mono World.admitted_chaining World.admitted_of_idle
  refine session_keeps between.around (fun height => steps.ask _ trivial)
    (World.dispatch_admitted discreet kept) (World.reconcile_admitted discreet kept)
    (fun height => steps.record _ fun _ => trivial) ?_ acts loop
  exact Keeps.modify fun world => World.admitted_of_undone rfl (by simp)

/-- From empty tables on the tables are sound after every operation that the ledger does in a session,
wherever a session stands and however it goes on. -/
theorem session_sound {options : FollowOptions} {acts : List Act} {loop : Loop}
    {world final : World others} {result : Except Fault (List Reply × Loop)} {trace : Trace}
    (empty : tables world.store = {})
    (ending : (session options acts loop).Ends world result trace final) :
    tables final.store = ({} : Ledger.Tables).replay trace.operations ∧
      ∀ before after, trace = before ++ after →
        (({} : Ledger.Tables).replay before.operations).Sound := by
  obtain ⟨replayed, admitted⟩ := session_admitted discreet kept options acts loop ending
  rw [Replays, empty] at replayed
  rw [empty] at admitted
  refine ⟨replayed, ?_⟩
  rintro before after rfl
  rw [Trace.operations_append, Ledger.Tables.admitsAll_append] at admitted
  exact Ledger.Tables.sound_empty.replay admitted.1

end Loop

def Event.speaking (proposal : String) : Event where
  type := "discussion"
  attributes := [⟨"proposal", proposal⟩, ⟨"speaker", "4"⟩, ⟨"speaker_address", "AA04"⟩,
    ⟨"data", "aGk="⟩]

namespace Loop

/-- A world whose one block makes a proposal that is spoken of. One validator signs it twice, under two
addresses, and the ledger refuses the first vote. -/
def crowdedWorld : World Collaborators.inMemory :=
  World.inMemory
    { head := .ofNat 2
      blocks := [Chain.blockOf 1 [.making "7", .speaking "7"]]
      commits := [(.ofNat 1, [Chain.signedBy "AA01", Chain.signedBy "AA02", Chain.signedBy "AA03"])]
      accounts := [("AA01", .number (.ofNat 11)), ("AA02", .number (.ofNat 12)),
        ("AA03", .number (.ofNat 11))] }
    {} [("insertProposalVote", [.other "disk full"])]

/-- A height that is done, done again by a new loop, and then its parts once more. -/
def crowdedActs : List Act :=
  [.tick, .restart, .tick, .dispatch "discussion" (.speaking "7") (.ofNat 1) (.ofNat 1),
    .reconcile (.ofNat 1), .dispatch "discussion" (.speaking "7") (.ofNat 1) (.ofNat 5)]

theorem session_sound_in_crowdedWorld :
    ∃ result trace final,
      (session (optionsFrom 1) crowdedActs {}).Ends crowdedWorld result trace final ∧
        final.store.ledger.proposalVotes.map (·.row.voterIndex) = [.ofNat 11, .ofNat 12] ∧
        final.store.ledger.discussions.map (·.row.ordinal) = [.ofNat 1, .ofNat 5] ∧
        final.store.ledger.Sound := by
  have ending := (session (optionsFrom 1) crowdedActs {}).ends crowdedWorld
  obtain ⟨replayed, sound⟩ := session_sound Collaborators.discreet_inMemory
    Collaborators.keptIn_inMemory (show crowdedWorld.store.ledger = {} from rfl) ending
  refine ⟨_, _, _, ending, by decide +kernel, by decide +kernel, ?_⟩
  rw [replayed]
  exact sound _ [] (List.append_nil _).symm

end Loop

end RollCall
