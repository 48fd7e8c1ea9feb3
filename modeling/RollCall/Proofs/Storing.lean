import RollCall.Json.Printer
import RollCall.Proofs.Cells
import RollCall.Proofs.Fetching
import RollCall.Proofs.Integrity
import RollCall.Proofs.Performing

/-!
# What is stored can be read back

All numbers of the rows that the indexer stores are natural numbers that count exactly, so whatever
database stores a row can tell it again. No row is checked for that when it is stored. The numbers come
from events, from signatures and from accounts, whose readers let no other number pass; from the height
and the place of an event; and from rows that are in the ledger already.
-/

set_option autoImplicit false

namespace RollCall

open Call

/-!
## Rows that can be stored
-/

namespace Ledger

/-- The row that an operation stores, if it stores one, can be stored. -/
def Operation.IsStorable : Operation → Prop
  | .upsertValidator row => Ledger.validators.IsStorable row
  | .upsertProposal row => Ledger.proposals.IsStorable row
  | .upsertGrant row => Ledger.grants.IsStorable row
  | .insertDiscussion row => Ledger.discussions.IsStorable row
  | .insertProposalVote row => Ledger.proposalVotes.IsStorable row
  | .insertGrantVote row => Ledger.grantVotes.IsStorable row
  | _ => True

theorem Operation.IsStorable.row {operation : Operation} {ρ : Type} {table : Table ρ} {row : ρ}
    (storable : operation.IsStorable) (stores : operation.Stores table row) :
    table.IsStorable row := by
  cases stores <;> exact storable

theorem validator_isStorable {row : Validator} :
    validators.IsStorable row ↔ row.id.IsCount ∧ row.stake.IsCount := by
  simp [Table.IsStorable, validators, or_imp, forall_and]

theorem proposal_isStorable {row : Proposal} :
    proposals.IsStorable row ↔ row.id.IsCount ∧ row.proposerIndex.IsCount ∧
      row.createdAt.IsCount ∧ row.settledAt.IsCount ∧ row.status.IsCount := by
  simp [Table.IsStorable, proposals, or_imp, forall_and]

theorem grant_isStorable {row : Grant} :
    grants.IsStorable row ↔ row.id.IsCount ∧ row.height.IsCount ∧ row.stake.IsCount ∧
      row.proposer.IsCount := by
  simp [Table.IsStorable, grants, or_imp, forall_and]

theorem discussion_isStorable {row : Discussion} :
    discussions.IsStorable row ↔ row.proposal.IsCount ∧ row.speakerIndex.IsCount ∧
      row.height.IsCount ∧ row.ordinal.IsCount := by
  simp [Table.IsStorable, discussions, or_imp, forall_and]

theorem proposalVote_isStorable {row : ProposalVote} :
    proposalVotes.IsStorable row ↔ row.proposal.IsCount ∧ row.voterIndex.IsCount ∧
      row.height.IsCount ∧ row.vote.IsCount := by
  simp [Table.IsStorable, proposalVotes, or_imp, forall_and]

theorem grantVote_isStorable {row : GrantVote} :
    grantVotes.IsStorable row ↔ row.proposerIndex.IsCount ∧ row.accountIndex.IsCount ∧
      row.voterIndex.IsCount ∧ row.height.IsCount ∧ row.vote.IsCount := by
  simp [Table.IsStorable, grantVotes, or_imp, forall_and]

namespace Tables

structure Storable (tables : Tables) : Prop where
  validators : ∀ row ∈ tables.validators, Ledger.validators.IsStorable row
  proposals : ∀ row ∈ tables.proposals, Ledger.proposals.IsStorable row
  grants : ∀ row ∈ tables.grants, Ledger.grants.IsStorable row
  discussions : ∀ row ∈ tables.discussions, Ledger.discussions.IsStorable row.row
  proposalVotes : ∀ row ∈ tables.proposalVotes, Ledger.proposalVotes.IsStorable row.row
  grantVotes : ∀ row ∈ tables.grantVotes, Ledger.grantVotes.IsStorable row.row

theorem storable_empty : Storable {} := by
  constructor <;> simp

theorem Storable.perform {tables : Tables} {operation : Operation} (stored : tables.Storable)
    (storable : operation.IsStorable) : (tables.perform operation).2.Storable := by
  cases operation with
  | upsertValidator row =>
      exact { stored with validators := forall_replaceById stored.validators storable }
  | upsertProposal row =>
      exact { stored with proposals := forall_replaceById stored.proposals storable }
  | upsertGrant row => exact { stored with grants := forall_replaceById stored.grants storable }
  | insertDiscussion row =>
      exact { stored with discussions := forall_append stored.discussions storable }
  | insertProposalVote row =>
      exact { stored with proposalVotes := forall_append stored.proposalVotes storable }
  | insertGrantVote row =>
      exact { stored with grantVotes := forall_append stored.grantVotes storable }
  | _ => exact { stored with }

end Tables

end Ledger

def Target.IsStorable : Target → Prop
  | .created proposal => Ledger.proposals.IsStorable proposal
  | .settled proposal => Ledger.proposals.IsStorable proposal
  | .granted grant => Ledger.grants.IsStorable grant

theorem Ledger.Tables.Storable.target {tables : Ledger.Tables} (stored : tables.Storable)
    {height : Height} {target : Target} (found : tables.target? height = some target) :
    target.IsStorable := by
  cases decides_of_target? found with
  | created member => exact stored.proposals _ member
  | settled _ member => exact stored.proposals _ member
  | granted _ _ member => exact stored.grants _ member

/-!
## Numbers that are read
-/

theorem Value.le_safeBound_of_asNat? {value : Value} {number : Nat}
    (read : value.asNat? = some number) : number ≤ Number.safeBound := by
  cases value with
  | number => exact (Number.safeNat?_eq_some_iff.mp read).2
  | text text =>
      change Number.naturalOf? _ = _ at read
      unfold Number.naturalOf? at read
      split at read
      · exact (Number.safeNat?_eq_some_iff.mp read).2
      · cases read
  | _ => cases read

theorem Value.isCount_asNat? (value : Value) : (Number.ofNat (value.asNat?.getD 0)).IsCount := by
  cases read : value.asNat? with
  | none => exact Number.isCount_ofNat (Nat.zero_le _)
  | some number => exact Number.isCount_ofNat (le_safeBound_of_asNat? read)

theorem isCount_of_accountOf {address : String} {reply : Chain.QueryReply} {account : Account}
    (found : accountOf address reply = .ok account) : (Number.ofNat account.index).IsCount := by
  unfold accountOf at found
  split at found
  · unfold Account.read at found
    split at found
    · cases found
    · split at found
      · cases found
      · next index read =>
        cases found
        exact Number.isCount_ofNat (Value.le_safeBound_of_asNat? read)
  · cases found

def Signer.IsCounted (signer : Signer) : Prop :=
  (Number.ofNat signer.account.index).IsCount ∧ signer.flag.IsCount

theorem isCount_of_commit (document : Value) (height : Height) :
    ∀ signature ∈ (Chain.Commit.ofValue document height).signatures, signature.flag.IsCount := by
  intro signature member
  obtain ⟨entry, _, rfl⟩ := List.mem_map.mp member
  exact Value.isCount_asNat? _

namespace Event

/-- All numbers of an event count. -/
def Counts : (kind : Kind) → kind.Content → Prop
  | .grant, grant => (Number.ofNat grant.validator).IsCount ∧ (Number.ofNat grant.amount).IsCount ∧
      (Number.ofNat grant.proposerIndex).IsCount
  | .discussion, discussion =>
      (Number.ofNat discussion.proposal).IsCount ∧ (Number.ofNat discussion.speaker).IsCount
  | .proposal, proposal => (Number.ofNat proposal.index).IsCount ∧
      (Number.ofNat proposal.proposer).IsCount ∧ (Number.ofNat proposal.status).IsCount
  | .settlement, settlement =>
      (Number.ofNat settlement.proposal).IsCount ∧ (Number.ofNat settlement.state).IsCount

theorem Gives.isCount {values : String → Option String} {name : String} {value : Nat}
    (gives : Gives values .natural name value) : (Number.ofNat value).IsCount := by
  obtain ⟨_, _, _, small⟩ := gives
  exact Number.isCount_ofNat (Nat.le_of_lt_succ small)

theorem counts_of_decode? {event : Event} {kind : Kind} {content : kind.Content}
    (decoded : event.decode? kind = some content) : Counts kind content := by
  obtain ⟨_, said⟩ := read_ok_iff.mp (decode?_iff.mp decoded)
  cases kind with
  | grant =>
      obtain ⟨validator, _, amount, proposerIndex, _⟩ := said
      exact ⟨validator.isCount, amount.isCount, proposerIndex.isCount⟩
  | discussion =>
      obtain ⟨proposal, speaker, _⟩ := said
      exact ⟨proposal.isCount, speaker.isCount⟩
  | proposal =>
      obtain ⟨index, proposer, _, _, status⟩ := said
      exact ⟨index.isCount, proposer.isCount, status.isCount⟩
  | settlement => exact ⟨said.1.isCount, said.2.isCount⟩

end Event

/-!
## What the indexer stores
-/

/-- The height and the place that a note names: those of a dispatch, or the height of the first lookup
when votes are brought up to date. -/
def Note.places : Note → List Number
  | .dispatched _ height ordinal _ _ => [height, ordinal]
  | .recorded (.proposalCreatedAt height) _ => [height]
  | _ => []

def Note.IsCounted (note : Note) : Prop :=
  ∀ number ∈ note.places, number.IsCount

instance (note : Note) : Decidable note.IsCounted :=
  inferInstanceAs (Decidable (∀ number ∈ note.places, number.IsCount))

/-- Where heights and places count, what can be stored stays so, and nothing else is stored. -/
def Storing {others : Collaborators} (tables : others.Store → Ledger.Tables) (world : World others)
    (trace : Trace) (final : World others) : Prop :=
  (tables world.store).Storable → (∀ note ∈ trace, note.IsCounted) →
    (tables final.store).Storable ∧
      ∀ operation done, .recorded operation done ∈ trace → operation.IsStorable

namespace World

variable {others : Collaborators} {tables : others.Store → Ledger.Tables}
  {world final : World others} {trace : Trace}

theorem storing_chaining :
    Chaining (Storing tables : World others → Trace → World others → Prop) where
  refl _ stored _ := ⟨stored, by simp⟩
  trans := by
    intro world middle final first second before after stored counted
    obtain ⟨countedFirst, countedSecond⟩ := List.forall_mem_append.mp counted
    obtain ⟨between, storable⟩ := before stored countedFirst
    obtain ⟨stored', storable'⟩ := after between countedSecond
    refine ⟨stored', fun operation done member => ?_⟩
    rcases List.mem_append.mp member with earlier | later
    · exact storable operation done earlier
    · exact storable' operation done later

theorem storing_of_unrecorded (same : tables final.store = tables world.store)
    (unrecorded : ∀ operation done, .recorded operation done ∉ trace) :
    Storing tables world trace final :=
  fun stored _ => ⟨same ▸ stored, fun operation done member =>
    (unrecorded operation done member).elim⟩

theorem storing_of_idle {options : FollowOptions}
    (idle : Loop.Idle tables options world trace final) : Storing tables world trace final := by
  refine fun stored _ => ⟨idle.1 ▸ stored, fun operation done member => ?_⟩
  cases idle.2 _ member
  trivial

variable (discreet : others.Discreet) (kept : others.books.KeptIn tables)

include discreet kept

theorem record_storing {operation : Ledger.Operation} (storable : operation.IsStorable)
    {result : Except Fault operation.Answer}
    (ending : (record operation).Ends world result trace final) :
    Storing tables world trace final := by
  intro stored _
  obtain ⟨quiet, allQuiet, ⟨_, performed, rfl⟩ | ⟨_, same, rfl⟩⟩ := record_ends discreet kept ending
  all_goals
    have recorded : ∀ {other done noted}, .recorded other done ∈ quiet ++ [.recorded operation noted] →
        other.IsStorable := by
      intro other done noted member
      rcases List.mem_append.mp member with quietly | last
      · cases allQuiet _ quietly
      · cases List.mem_singleton.mp last
        exact storable
  · exact ⟨performed ▸ stored.perform storable, fun _ _ => recorded⟩
  · exact ⟨same ▸ stored, fun _ _ => recorded⟩

theorem steps_storing : Steps (Keeping (Storing tables : World others → Trace → World others → Prop))
    Ledger.Operation.IsStorable (fun _ => True)
    (fun note => ∀ operation done, note ≠ .recorded operation done) :=
  steps_of_unrecorded discreet storing_chaining
    (fun _ storable _ _ _ _ ending => record_storing discreet kept storable ending)
    fun same => storing_of_unrecorded (congrArg tables same)

theorem parts_storing : Parts (Keeping (Storing tables : World others → Trace → World others → Prop))
    Ledger.Operation.IsStorable (fun _ => True) :=
  (steps_storing discreet kept).parts (by simp)

/-!
### Events
-/

/-- What is settled is stored as it is found, but for the height and the status. -/
theorem onSettlement_storing {event : Event.Settlement} {height : Height}
    (counts : Event.Counts .settlement event) (counted : height.IsCount) :
    Keeps (Storing tables : World others → Trace → World others → Prop)
      (onSettlement event height) := by
  have parts := parts_storing discreet kept
  intro world result trace final ending stored
  refine record_bind_keeps discreet kept storing_chaining ending
    (record_storing discreet kept (by trivial)) (fun _ storing => ?_) stored
  cases found : ((tables world.store).perform (.proposal (.ofNat event.proposal))).1 with
  | none =>
      rw [found] at storing
      exact parts.sequential.fail _ storing
  | some proposal =>
      have old := Ledger.proposal_isStorable.mp
        (stored.proposals proposal (Ledger.mem_of_byId? found))
      have new : Ledger.Operation.IsStorable (.upsertProposal (event.row height proposal)) :=
        Ledger.proposal_isStorable.mpr ⟨old.1, old.2.1, old.2.2.1, counted, counts.2⟩
      rw [found] at storing
      dsimp only at storing
      split at storing
      · exact parts.sequential.fail _ storing
      · exact parts.sequential.bind (parts.record _ new) (fun _ => parts.log _ _ _ _) storing

theorem handler_storing {height : Height} {ordinal : Number} {kind : Event.Kind}
    {content : kind.Content} (counts : Event.Counts kind content) (counted : height.IsCount)
    (placed : ordinal.IsCount) :
    Keeps (Storing tables : World others → Trace → World others → Prop)
      (handler height ordinal kind content) := by
  have steps := steps_storing discreet kept
  have parts := parts_storing discreet kept
  have advises := advise_keeps steps (by simp)
  cases kind with
  | grant =>
      obtain ⟨validator, amount, proposerIndex⟩ := counts
      exact onGrant_keeps parts content
        (Ledger.grant_isStorable.mpr ⟨validator, counted, amount, proposerIndex⟩)
        (Ledger.validator_isStorable.mpr ⟨validator, amount⟩)
  | discussion =>
      exact onDiscussion_keeps parts advises content ordinal trivial
        (Ledger.discussion_isStorable.mpr ⟨counts.1, counts.2, counted, placed⟩)
  | proposal =>
      obtain ⟨index, proposer, status⟩ := counts
      exact onProposal_keeps parts advises content trivial (Ledger.proposal_isStorable.mpr
        ⟨index, proposer, counted, Number.isCount_ofNat (Nat.zero_le _), status⟩)
  | settlement => exact onSettlement_storing discreet kept counts counted

theorem dispatch_storing (tag : String) (event : Event) (height : Height) (ordinal : Number) :
    Keeps (Storing tables : World others → Trace → World others → Prop)
      (dispatch tag event height ordinal) := by
  have steps := steps_storing discreet kept
  intro world result trace final ending stored counted
  obtain ⟨first, dispatched, rfl⟩ := dispatch_cases ending
  have places := counted (.dispatched tag height ordinal event result.toOption) (by simp)
  have here : height.IsCount := places height (by simp [Note.places])
  have placed : ordinal.IsCount := places ordinal (by simp [Note.places])
  refine storing_chaining.trans ?_ (storing_of_unrecorded rfl (by simp)) stored counted
  exact dispatched.keeps storing_chaining (fun line world => storing_of_unrecorded rfl (by simp))
    fun kind content _ decoded =>
      handler_storing discreet kept (Event.counts_of_decode? decoded) here placed

/-!
### Votes
-/

variable {height : Height}

/-- Looking the target up begins with a lookup at the height. -/
theorem target_looksUp {result : Except Fault (Option Target)}
    (ending : (target? height).Ends world result trace final) :
    ∃ done, .recorded (.proposalCreatedAt height) done ∈ trace := by
  have first : ∀ {result trace final},
      (record (.proposalCreatedAt height)).Ends world result trace final →
        ∃ done, .recorded (.proposalCreatedAt height) done ∈ trace := by
    intro result trace final ended
    obtain ⟨_, _, ⟨_, _, rfl⟩ | ⟨_, _, rfl⟩⟩ := record_ends discreet kept ended
    · exact ⟨true, by simp⟩
    · exact ⟨false, by simp⟩
  rcases ends_bind.mp ending with ⟨_, _, failed⟩ | ⟨_, _, _, _, looked, _, rfl⟩
  · exact first failed
  · obtain ⟨done, member⟩ := first looked
    exact ⟨done, List.mem_append_left _ member⟩

omit discreet kept in
theorem signers_count {signatures : List Chain.Signature} {found : List Signer}
    (ending : (signers signatures).Ends world (.ok found) trace final)
    (flags : ∀ signature ∈ signatures, signature.flag.IsCount) :
    ∀ signer ∈ found, signer.IsCounted := by
  induction signatures generalizing world trace final found with
  | nil =>
      cases (ends_pure.mp ending).1
      simp
  | cons signature rest ih =>
      rcases ends_bind.mp ending with ⟨_, impossible, _⟩ | ⟨account, _, _, _, resolved, more, _⟩
      · cases impossible
      rcases ends_bind.mp more with ⟨_, impossible, _⟩ | ⟨later, _, _, _, looked, returned, _⟩
      · cases impossible
      cases (ends_pure.mp returned).1
      obtain ⟨flag, flags⟩ := List.forall_mem_cons.mp flags
      refine List.forall_mem_cons.mpr ⟨⟨?_, flag⟩, ih looked flags⟩
      unfold resolve at resolved
      split at resolved
      · cases (ends_fail.mp resolved).1
      · rcases ends_bind.mp resolved with ⟨_, impossible, _⟩ | ⟨reply, _, _, _, _, read, _⟩
        · cases impossible
        · exact isCount_of_accountOf (ends_ofExcept.mp read).1.symm

theorem storeVote_storing {target : Target} {signer : Signer} (storable : target.IsStorable)
    (counts : signer.IsCounted) (counted : height.IsCount) :
    Keeps (Storing tables : World others → Trace → World others → Prop)
      (storeVote target height signer) := by
  have parts := parts_storing discreet kept
  obtain ⟨index, flag⟩ := counts
  have ballot : ∀ {proposal : Ledger.Proposal}, Ledger.proposals.IsStorable proposal →
      Ledger.Operation.IsStorable (.insertProposalVote (signer.proposalVote proposal.id height)) :=
    fun stored => Ledger.proposalVote_isStorable.mpr
      ⟨(Ledger.proposal_isStorable.mp stored).1, index, counted, flag⟩
  cases target with
  | created proposal =>
      exact parts.sequential.bind (parts.record _ (ballot storable)) fun _ => parts.sequential.pure _
  | settled proposal =>
      exact parts.sequential.bind (parts.record _ (ballot storable)) fun _ => parts.sequential.pure _
  | granted grant =>
      obtain ⟨id, _, _, proposer⟩ := Ledger.grant_isStorable.mp storable
      have vote : Ledger.Operation.IsStorable (.insertGrantVote (signer.grantVote grant height)) :=
        Ledger.grantVote_isStorable.mpr ⟨proposer, id, index, counted, flag⟩
      exact parts.sequential.bind (parts.record _ vote) fun _ => parts.sequential.pure _

theorem reconcileTarget_storing (parses : others.provider.Parses) {target : Target}
    (storable : target.IsStorable) (counted : height.IsCount) :
    Keeps (Storing tables : World others → Trace → World others → Prop)
      (reconcileTarget target height) := by
  have parts := parts_storing discreet kept
  intro world result trace final ending
  rcases ends_bind.mp ending with ⟨_, rfl, failed⟩ | ⟨commit, _, _, _, asked, more, rfl⟩
  · exact parts.ask _ trivial failed
  refine storing_chaining.trans (parts.ask _ trivial asked) ?_
  obtain ⟨_, _, _, answered⟩ := answered_of_ask asked
  obtain ⟨document, rfl⟩ := parses answered
  rcases ends_bind.mp more with ⟨_, rfl, failed⟩ | ⟨found, _, _, _, looked, casting, rfl⟩
  · exact signers_keeps parts (fun _ _ => trivial) _ failed
  refine storing_chaining.trans (signers_keeps parts (fun _ _ => trivial) _ looked) ?_
  have counts := signers_count looked fun signature member =>
    isCount_of_commit document height signature (List.mem_of_mem_filter member)
  refine parts.sequential.bind (storeVotes_of_votes parts.sequential found
    (fun signer _ => ?_) fun signer member =>
      storeVote_storing discreet kept storable (counts signer member) counted) (fun _ => ?_) casting
  · cases target <;> exact parts.record _ trivial
  · exact parts.sequential.bind (parts.log _ _ _ _) fun _ => parts.sequential.pure _

theorem reconcile_storing (parses : others.provider.Parses) (height : Height) :
    Keeps (Storing tables : World others → Trace → World others → Prop) (reconcile height) := by
  have steps := steps_storing discreet kept
  have parts := parts_storing discreet kept
  have looking : Keeps (Storing tables : World others → Trace → World others → Prop)
      (target? height) := by
    refine target_keeps parts fun operation lookup => ?_
    cases operation <;> first | exact lookup.elim | trivial
  have closing : ∀ reconciliation : Reconciliation, Keeps (Storing tables) (do
      Call.note (.reconciled height)
      return reconciliation : Call (World others) Reconciliation) := fun _ =>
    steps.closed.bind (steps.note _ (by simp)) fun _ => steps.closed.pure _
  intro world result trace final ending
  rcases ends_bind.mp ending with ⟨_, rfl, failed⟩ | ⟨found, _, first, _, looked, more, rfl⟩
  · exact looking failed
  intro stored counted
  refine storing_chaining.trans (looking looked) ?_ stored counted
  have same := target_reads discreet kept looked
  cases found with
  | none => exact closing _ (ends_pure_bind.mp more)
  | some target =>
      obtain ⟨done, member⟩ := target_looksUp discreet kept looked
      have here : height.IsCount :=
        counted _ (List.mem_append_left _ member) height (by simp [Note.places])
      exact parts.sequential.bind
        (reconcileTarget_storing discreet kept parses (stored.target same.symm) here) closing more

end World

/-!
## Whole sessions
-/

namespace Loop

variable {others : Collaborators} (discreet : others.Discreet)
  {tables : others.Store → Ledger.Tables} (kept : others.books.KeptIn tables)
  (parses : others.provider.Parses)

include discreet kept parses

theorem session_storing (options : FollowOptions) (acts : List Act) (loop : Loop) :
    Keeps (Storing tables : World others → Trace → World others → Prop)
      (session options acts loop) := by
  have steps := World.steps_storing discreet kept
  have between : Between options (Storing tables) :=
    (between_idle discreet kept).mono World.storing_chaining World.storing_of_idle
  refine session_keeps between.around (fun height => steps.ask _ trivial)
    (World.dispatch_storing discreet kept) (World.reconcile_storing discreet kept parses)
    (fun height => steps.record _ trivial) ?_ acts loop
  exact Keeps.modify fun world => World.storing_of_unrecorded rfl (by simp)

/-- Whatever the indexer is told to do at heights that count, all numbers of the rows that it stores
are natural numbers that count exactly, and every database whose tables are those of the ledger
restores each row from what it is told to store. -/
theorem session_restores {options : FollowOptions} {acts : List Act} {loop : Loop}
    {world final : World others} {result : Except Fault (List Reply × Loop)} {trace : Trace}
    (stored : (tables world.store).Storable)
    (ending : (session options acts loop).Ends world result trace final)
    (counted : ∀ note ∈ trace, note.IsCounted) {operation : Ledger.Operation} {done : Bool}
    (recorded : .recorded operation done ∈ trace) {ρ : Type} {table : Ledger.Table ρ} {row : ρ}
    (stores : operation.Stores table row) {δ : Type} (database : Ledger.Database δ) :
    table.IsStorable row ∧ database.Restores operation table row := by
  obtain ⟨_, storable⟩ := session_storing discreet kept parses options acts loop ending stored counted
  have here := (storable operation done recorded).row stores
  exact ⟨here, Ledger.Database.restores_of_stores database stores here⟩

end Loop

namespace Loop

def replying (document : Value) : Network.Turn where
  reply := .response { status := 200, body := .ok (Json.print document) }

/-- The commit of height 5, signed once, and the account of who signed it, whose index is 11. -/
def signedReplies : List Network.Turn :=
  [replying (.record [("result", .record [("signed_header", .record [("commit", .record
      [("height", .text "5"), ("signatures", .list [.record [("block_id_flag", .ofInt 2),
        ("validator_address", .text "AA01")]])])])])]),
    replying (.record [("result", .record [("response", .record
      [("code", .ofInt 0), ("value", .text "eyJpbmRleCI6MTF9")])])])]

def signedWorld : World Collaborators.overNetwork where
  chain := { node := { turns := signedReplies, chance := 0 } }
  store := { refusals := [], ledger := {} }
  agent := ()
  clock := (0 : Nat)

def signedActs : List Act :=
  [.dispatch "proposal" (.making "7") (.ofNat 5) (.ofNat 0), .reconcile (.ofNat 5)]

def signedProposal : Ledger.Proposal where
  id := 7
  proposerIndex := 3
  proposerAddress := "AA03"
  data := [0x68, 0x69]
  createdAt := 5
  settledAt := 0
  status := 1

def signedVote : Ledger.ProposalVote where
  proposal := 7
  voterIndex := 11
  voterAddress := "AA01"
  height := 5
  vote := 2

theorem session_restores_in_signedWorld :
    ∃ result trace final,
      (session (optionsFrom 1) signedActs {}).Ends signedWorld result trace final ∧
        (.upsertProposal signedProposal ∈ trace.operations ∧
          .insertProposalVote signedVote ∈ trace.operations) ∧
        ∀ (δ : Type) (database : Ledger.Database δ),
          (Ledger.proposals.IsStorable signedProposal ∧
            database.Restores (.upsertProposal signedProposal) Ledger.proposals signedProposal) ∧
          (Ledger.proposalVotes.IsStorable signedVote ∧
            database.Restores (.insertProposalVote signedVote) Ledger.proposalVotes signedVote) := by
  have ending := (session (optionsFrom 1) signedActs {}).ends signedWorld
  have counted : ∀ note ∈ ((session (optionsFrom 1) signedActs {}) signedWorld).trace,
      note.IsCounted := by
    decide +kernel
  have made : .upsertProposal signedProposal ∈
      ((session (optionsFrom 1) signedActs {}) signedWorld).trace.operations := by
    decide +kernel
  have cast : .insertProposalVote signedVote ∈
      ((session (optionsFrom 1) signedActs {}) signedWorld).trace.operations := by
    decide +kernel
  refine ⟨_, _, _, ending, ⟨made, cast⟩, fun δ database => ⟨?_, ?_⟩⟩
  · exact session_restores Collaborators.discreet_overNetwork Collaborators.keptIn_inMemory
      (Chain.Client.provider_parses _ _) Ledger.Tables.storable_empty ending counted
      (Trace.mem_operations made) (.proposal signedProposal) database
  · exact session_restores Collaborators.discreet_overNetwork Collaborators.keptIn_inMemory
      (Chain.Client.provider_parses _ _) Ledger.Tables.storable_empty ending counted
      (Trace.mem_operations cast) (.proposalVote signedVote) database

end Loop

end RollCall
