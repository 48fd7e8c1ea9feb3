import RollCall.Proofs.Cells
import RollCall.Proofs.Commanding
import RollCall.Proofs.Pages
import RollCall.Proofs.Printing

/-!
# What commands print

What a command answers is put together from rows that the ledger has found, or is a vote of the
advisory agent. A database has its rows read with numbers that are safe integers, and a command adds
nothing to a list but the page that it shows, which is finite whatever has been typed: so all of it
can be printed, and reads back.
-/

set_option autoImplicit false

namespace RollCall

open Call

/-!
## Rows
-/

theorem plain_list_iff {items : List Value} :
    (Value.list items).Plain ↔ ∀ item ∈ items, item.Plain := by
  change PlainItems items ↔ _
  induction items with
  | nil => simp [PlainItems]
  | cons item rest ih => rw [PlainItems, ih, List.forall_mem_cons]

namespace Ledger

namespace Cell

variable {cells : Members} {column : String}

theorem safe_of_integer {value : Int} (told : integer cells column = .ok value) :
    value.natAbs ≤ Number.safeBound := by
  unfold integer at told
  obtain ⟨number, -, answered⟩ := bind_ok_iff.mp told
  split at answered
  case h_2 =>
    obtain ⟨_, -, impossible⟩ := bind_ok_iff.mp answered
    cases impossible
  case h_1 safe =>
    cases answered
    unfold Number.safeInt? at safe
    split at safe
    case h_2 => cases safe
    case h_1 =>
      split at safe
      case isFalse => cases safe
      case isTrue isSafe =>
        cases safe
        exact (of_decide_eq_true isSafe).2

theorem isFinite_of_number {number : Number} (told : Cell.number cells column = .ok number) :
    number.IsFinite := by
  cases read : integer cells column with
  | error fault =>
      rw [Cell.number, read] at told
      cases told
  | ok value =>
      rw [Cell.number, read] at told
      cases told
      exact Number.isFinite_ofInt (safe_of_integer read)

end Cell

/-- What is read from cells can be printed. -/
def Table.Plain {ρ : Type} (table : Table ρ) : Prop :=
  ∀ ⦃cells row⦄, table.read cells = .ok row → PlainMembers (table.write row)

theorem plain_validators : validators.Plain := by
  intro cells row read
  simp only [Table.read, validators, bind_ok_iff, pure_ok_iff] at read
  obtain ⟨id, toldId, _, -, _, -, stake, toldStake, rfl⟩ := read
  exact ⟨Cell.isFinite_of_number toldId, trivial, trivial, Cell.isFinite_of_number toldStake,
    trivial⟩

theorem plain_proposals : proposals.Plain := by
  intro cells row read
  simp only [Table.read, proposals, bind_ok_iff, pure_ok_iff] at read
  obtain ⟨id, toldId, proposer, toldProposer, _, -, created, toldCreated, settled, toldSettled,
    status, toldStatus, rfl⟩ := read
  exact ⟨Cell.isFinite_of_number toldId, Cell.isFinite_of_number toldProposer, trivial, trivial,
    Cell.isFinite_of_number toldCreated, Cell.isFinite_of_number toldSettled,
    Cell.isFinite_of_number toldStatus, trivial⟩

theorem plain_grants : grants.Plain := by
  intro cells row read
  simp only [Table.read, grants, bind_ok_iff, pure_ok_iff] at read
  obtain ⟨id, toldId, _, -, height, toldHeight, stake, toldStake, proposer, toldProposer, _, -,
    rfl⟩ := read
  exact ⟨Cell.isFinite_of_number toldId, trivial, Cell.isFinite_of_number toldHeight,
    Cell.isFinite_of_number toldStake, Cell.isFinite_of_number toldProposer, trivial, trivial,
    trivial⟩

theorem plain_discussions : discussions.Plain := by
  intro cells row read
  simp only [Table.read, discussions, bind_ok_iff, pure_ok_iff] at read
  obtain ⟨proposal, toldProposal, speaker, toldSpeaker, _, -, height, toldHeight, ordinal,
    toldOrdinal, rfl⟩ := read
  exact ⟨Cell.isFinite_of_number toldProposal, Cell.isFinite_of_number toldSpeaker, trivial,
    trivial, Cell.isFinite_of_number toldHeight, Cell.isFinite_of_number toldOrdinal, trivial⟩

theorem plain_proposalVotes : proposalVotes.Plain := by
  intro cells row read
  simp only [Table.read, proposalVotes, bind_ok_iff, pure_ok_iff] at read
  obtain ⟨proposal, toldProposal, voter, toldVoter, _, -, height, toldHeight, vote, toldVote,
    rfl⟩ := read
  exact ⟨Cell.isFinite_of_number toldProposal, Cell.isFinite_of_number toldVoter, trivial,
    Cell.isFinite_of_number toldHeight, Cell.isFinite_of_number toldVote, trivial⟩

theorem plain_grantVotes : grantVotes.Plain := by
  intro cells row read
  simp only [Table.read, grantVotes, bind_ok_iff, pure_ok_iff] at read
  obtain ⟨proposer, toldProposer, _, -, account, toldAccount, _, -, voter, toldVoter, _, -, height,
    toldHeight, vote, toldVote, rfl⟩ := read
  exact ⟨Cell.isFinite_of_number toldProposer, trivial, Cell.isFinite_of_number toldAccount,
    trivial, Cell.isFinite_of_number toldVoter, trivial, Cell.isFinite_of_number toldHeight,
    Cell.isFinite_of_number toldVote, trivial⟩

section Tables

variable {ρ : Type} {table : Table ρ} (lawful : table.Lawful) (plain : table.Plain)
  {cells : Members}

include lawful plain

theorem plain_row {row : ρ} (read : table.read cells = .ok row) :
    (Value.record (table.write row)).Plain :=
  ⟨lawful.names row ▸ lawful.distinct, plain read⟩

theorem plain_numberedRow (unnumbered : "id" ∉ table.columns) {numbered : Numbered ρ}
    (read : table.readNumbered cells = .ok numbered) :
    (Value.record (table.writeNumbered numbered)).Plain := by
  simp only [Table.readNumbered, bind_ok_iff, pure_ok_iff] at read
  obtain ⟨id, toldId, row, toldRow, rfl⟩ := read
  refine ⟨?_, Number.isFinite_ofInt (Cell.safe_of_integer toldId), plain toldRow⟩
  rw [Table.writeNumbered, List.map_cons, lawful.names row]
  exact lawful.distinct.cons unnumbered

end Tables

/-!
## What a database answers
-/

/-- What the ledger finds in a state can be printed. -/
def Books.AnswersPlainly {σ : Type} (books : Books σ) (store : σ) : Prop :=
  ∀ ⦃operation answer trace final⦄, operation.isWrite = false →
    (books operation).Ends store (.ok answer) trace final → (operation.showAnswer answer).Plain

/-- Reading some cells fails if one of them cannot be read. -/
theorem exists_of_mapM {ρ : Type} {read : Members → Except Fault ρ} {rows : List Members}
    {found : List ρ} (each : rows.mapM read = .ok found) :
    ∀ row ∈ found, ∃ cells, read cells = .ok row := by
  induction rows generalizing found with
  | nil =>
      cases each
      exact List.forall_mem_nil _
  | cons cells rest ih =>
      simp only [List.mapM_cons, bind_ok_iff, pure_ok_iff] at each
      obtain ⟨row, here, others, there, rfl⟩ := each
      exact List.forall_mem_cons.mpr ⟨⟨cells, here⟩, ih there⟩

namespace Database

variable {δ : Type} {database : Database δ} {store final : δ} {trace : Trace}

theorem plain_first {α : Type} {read : Members → Except Fault α} {shown : α → Value}
    (plain : ∀ {cells answer}, read cells = .ok answer → (shown answer).Plain) {text : String}
    {values : List Value} {answer : Option α}
    (ending : (database.first? text values read).Ends store (.ok answer) trace final) :
    (answer.elim .null shown).Plain := by
  obtain ⟨rows, _, _, _, _, answered, _⟩ := ends_bind_ok.mp ending
  cases rows with
  | nil =>
      cases (ends_pure.mp answered).1
      trivial
  | cons cells rest =>
      obtain ⟨found, _, _, _, taken, returned, _⟩ := ends_bind_ok.mp answered
      cases (ends_pure.mp returned).1
      exact plain (ends_ofExcept.mp taken).1.symm

theorem plain_page {ρ : Type} {read : Members → Except Fault ρ} {write : ρ → Members}
    (plain : ∀ {cells row}, read cells = .ok row → (Value.record (write row)).Plain)
    {table : String} {filter : Option (String × Value)} {window : Window} {page : Page ρ}
    (ending : (database.page table read filter window).Ends store (.ok page) trace final) :
    (Value.record (page.members write)).Plain := by
  obtain ⟨rows, _, _, _, _, ending, _⟩ := ends_bind_ok.mp ending
  obtain ⟨counted, _, _, _, _, ending, _⟩ := ends_bind_ok.mp ending
  have counts {total : Int} {middle : δ} {trace : Trace} (small : total.natAbs ≤ Number.safeBound)
      (ending : (do return { rows := ← Call.ofExcept (rows.mapM read), total } :
        Call δ (Page ρ)).Ends middle (.ok page) trace final) :
      (Value.record (page.members write)).Plain := by
    obtain ⟨found, _, _, _, taken, returned, _⟩ := ends_bind_ok.mp ending
    cases (ends_pure.mp returned).1
    refine ⟨show ["rows", "total"].Nodup by decide, plain_list_iff.mpr ?_,
      Number.isFinite_ofInt small, trivial⟩
    intro item member
    obtain ⟨row, isRow, rfl⟩ := List.mem_map.mp member
    obtain ⟨cells, told⟩ := exists_of_mapM (ends_ofExcept.mp taken).1.symm row isRow
    exact plain told
  cases counted with
  | nil => exact counts (Nat.zero_le _) (ends_pure_bind.mp ending)
  | cons cells rest =>
      obtain ⟨total, _, _, _, summed, ending, _⟩ := ends_bind_ok.mp ending
      exact counts (Cell.safe_of_integer (ends_ofExcept.mp summed).1.symm) ending

theorem plain_progress {id : String} {height : Option Height}
    (ending : (database.progress id).Ends store (.ok height) trace final) :
    (showNumber? height).Plain := by
  obtain ⟨rows, _, _, _, _, answered, _⟩ := ends_bind_ok.mp ending
  cases rows with
  | nil =>
      cases (ends_pure.mp answered).1
      trivial
  | cons cells rest =>
      obtain ⟨number, _, _, _, _, returned, _⟩ := ends_bind_ok.mp answered
      cases (ends_pure.mp returned).1
      cases told : number.safeNat? with
      | none => trivial
      | some value =>
          exact Number.isFinite_ofInt (by simpa using (Number.safeNat?_eq_some_iff.mp told).2)

/-- Whatever rows its statements are answered with, a database makes nothing of them that cannot be
printed. -/
theorem answersPlainly_books (database : Database δ) (store : δ) :
    database.books.AnswersPlainly store := by
  intro operation answer trace final reading ending
  cases operation with
  | init | close => trivial
  | progress id => exact plain_progress ending
  | validator id => exact plain_first (plain_row lawful_validators plain_validators) ending
  | proposal id | proposalCreatedAt height | proposalSettledAt height =>
      exact plain_first (plain_row lawful_proposals plain_proposals) ending
  | grant id | grantAt height => exact plain_first (plain_row lawful_grants plain_grants) ending
  | proposals window proposer =>
      exact plain_page (plain_row lawful_proposals plain_proposals) ending
  | grants window => exact plain_page (plain_row lawful_grants plain_grants) ending
  | discussions proposal window =>
      exact plain_page (plain_numberedRow lawful_discussions plain_discussions (by decide)) ending
  | proposalVotes filter window =>
      exact plain_page (plain_numberedRow lawful_proposalVotes plain_proposalVotes (by decide))
        ending
  | grantVotes filter window =>
      exact plain_page (plain_numberedRow lawful_grantVotes plain_grantVotes (by decide)) ending
  | hasProposalVote height voter | hasGrantVote height voter => trivial
  | discussionAt height ordinal =>
      have plain {cells : Members} {id : Int} (told : Cell.integer cells "id" = .ok id) :
          (Value.ofInt id).Plain := Number.isFinite_ofInt (Cell.safe_of_integer told)
      exact plain_first plain ending
  | _ => cases reading

end Database

end Ledger

/-!
## Members that are read back
-/

theorem readsAs_text_iff {text : String} {found : Value} :
    ReadsAs (.text text) found ↔ found = .text text :=
  ⟨fun reads => by cases reads; rfl, fun same => same ▸ .text text⟩

theorem readsAs_bytes_iff {bytes : Bytes} {found : Value} :
    ReadsAs (.bytes bytes) found ↔ found = .text (Base64.encode bytes) :=
  ⟨fun reads => by cases reads; rfl, fun same => same ▸ .bytes bytes⟩

theorem MembersReadAs.exists_of_mem {name : String} {value : Value} :
    ∀ {members found : Members}, MembersReadAs members found → (name, value) ∈ members →
      ∃ read, (name, read) ∈ found ∧ ReadsAs value read
  | _, _, .cons _ first rest, member => by
      rcases List.mem_cons.mp member with same | later
      · cases same
        exact ⟨_, List.mem_cons_self, first⟩
      · obtain ⟨read, isRead, reads⟩ := rest.exists_of_mem later
        exact ⟨read, List.mem_cons_of_mem _ isRead, reads⟩

/-- Each member is found again by its name, wherever it is kept. -/
theorem ReadsAs.member {members : Members} {found : Value}
    (reads : ReadsAs (.record members) found) (distinct : (members.map Prod.fst).Nodup)
    {name : String} {value : Value} (member : (name, value) ∈ members) :
    ReadsAs value (found.member name) := by
  cases reads with
  | record each order _ =>
      obtain ⟨read, isRead, reads⟩ := each.exists_of_mem member
      rw [← Json.names_of_readAs each, ← (order.map Prod.fst).nodup_iff] at distinct
      rw [Value.member, Value.members,
        Ledger.find?_of_mem distinct (order.mem_iff.mpr isRead)]
      exact reads

/-!
## What commands add
-/

namespace PageRequest

theorem isFinite_size (page size : Number) : (clamp page size).size.IsFinite := by
  have small : pageSize size ≤ Number.safeBound := by
    refine le_trans ?_ (show 100 ≤ Number.safeBound by decide)
    cases size with
    | finite value => exact Nat.max_le.mpr ⟨by decide, Nat.min_le_left _ _⟩
    | nan | infinite => exact le_rfl
  change (clamp (.ofNat 0) size).size.IsFinite
  rw [clamp_ofNat]
  exact Number.isFinite_ofInt (by simpa using small)

/-- The number of a page that is typed is a natural number, or so great that the first page is
shown. -/
theorem isFinite_page {argument : Option String} {page : Number}
    (typed : Inspect.TypedOr 0 argument page) (size : Number) :
    (clamp page size).page.IsFinite := by
  have natural {value : Nat} (grid : Number.OnGrid value) :
      (clamp (.ofNat value) size).page.IsFinite := by
    rw [clamp_ofNat]
    exact grid
  rcases typed with ⟨_, rfl⟩ | ⟨_, value, _, _, rfl⟩
  · exact natural (Number.nearest_natCast_of_safe (Nat.zero_le _))
  · rcases Number.nearest_natCast_exact value with infinite | ⟨rounded, same, exact⟩
    · rw [infinite]
      exact Number.isFinite_ofInt (Nat.zero_le _)
    · rw [same]
      exact natural (Number.nearest_natCast_eq_iff.mpr exact)

end PageRequest

theorem Listing.plain_toValue {ρ : Type} {write : ρ → Members} {listing : Listing ρ}
    (plain : (Value.record (listing.page.members write)).Plain)
    (page : listing.request.page.IsFinite) (size : listing.request.size.IsFinite) :
    (listing.toValue write).Plain := by
  obtain ⟨_, rows, total, _⟩ := plain
  exact ⟨show ["rows", "total", "page", "pageSize"].Nodup by decide, rows, total, page, size,
    trivial⟩

theorem Advice.plain_vote (vote : Vote) : vote.toValue.Plain :=
  ⟨show ["approve", "reason"].Nodup by decide, trivial, trivial, trivial⟩

namespace Inspect

section Answers

variable {others : Collaborators} {world final : World others} {trace : Trace}

/-- What the ledger answers a command can be printed if it can be printed as it is. -/
theorem plain_record (plainly : others.books.AnswersPlainly world.store)
    {operation : Ledger.Operation} (reading : operation.isWrite = false) {answer : operation.Answer}
    (ending : (World.record operation).Ends world (.ok answer) trace final) :
    (operation.showAnswer answer).Plain := by
  obtain ⟨_, _, _, _, done, noted, _⟩ := ends_attempt_bind.mp ending
  obtain ⟨_, answered, _⟩ := ends_note_bind.mp noted
  obtain ⟨rfl, _, _⟩ := ends_ofExcept.mp answered
  obtain ⟨_, inBooks, _⟩ := ends_inside.mp done
  exact plainly reading inBooks

/-- A row, or whatever else is written as the ledger answers it. -/
theorem plain_written (plainly : others.books.AnswersPlainly world.store)
    {operation : Ledger.Operation} (reading : operation.isWrite = false) {answer : Value}
    (ending : (World.record operation >>= fun found =>
      pure (operation.showAnswer found) : Call (World others) Value).Ends world (.ok answer) trace
        final) : answer.Plain := by
  obtain ⟨found, _, _, _, read, returned, _⟩ := ends_bind_ok.mp ending
  cases (ends_pure.mp returned).1
  exact plain_record plainly reading read

theorem plain_listed {ρ : Type} {write : ρ → Members} {argument : Option String}
    {page size : Number} (typed : TypedOr 0 argument page)
    {load : Ledger.Window → Call (World others) (Ledger.Page ρ)}
    (plain : ∀ {window rows trace final}, (load window).Ends world (.ok rows) trace final →
      (Value.record (rows.members write)).Plain) {answer : Value}
    (ending : (World.listing page size load >>= fun listing =>
      pure (listing.toValue write) : Call (World others) Value).Ends world (.ok answer) trace
        final) : answer.Plain := by
  obtain ⟨listing, _, _, _, listed, returned, _⟩ := ends_bind_ok.mp ending
  obtain ⟨rows, _, _, _, read, shown, _⟩ := ends_bind_ok.mp listed
  cases (ends_pure.mp returned).1
  cases (ends_pure.mp shown).1
  exact Listing.plain_toValue (plain read) (PageRequest.isFinite_page typed size)
    (PageRequest.isFinite_size page size)

theorem plain_advice {request : Advice.Request} {vote : request.Answer → Advice.Vote}
    {answer : Value}
    (ending : (World.consult request >>= fun advice =>
      pure (vote advice).toValue : Call (World others) Value).Ends world (.ok answer) trace
        final) : answer.Plain := by
  obtain ⟨advice, _, _, _, _, returned, _⟩ := ends_bind_ok.mp ending
  cases (ends_pure.mp returned).1
  exact Advice.plain_vote _

/-- What a command answers can be printed. -/
theorem Spells.plain_run {arguments : List String} {command : Command}
    (spells : Spells arguments command) (plainly : others.books.AnswersPlainly world.store)
    {progressId : String} {answer : Value}
    (ending : (command.run progressId).Ends world (.ok answer) trace final) : answer.Plain := by
  cases spells with
  | progress =>
      obtain ⟨height, _, _, _, asked, returned, _⟩ := ends_bind_ok.mp ending
      cases (ends_pure.mp returned).1
      exact ⟨show ["height"].Nodup by decide, plain_written plainly rfl asked, trivial⟩
  | proposal | grant | validator => exact plain_written plainly rfl ending
  | proposals atPage | grants atPage | discussions _ atPage | proposalVotes _ atPage
  | grantVotes _ atPage => exact plain_listed atPage (plain_record plainly rfl) ending
  | adviseProposal => exact plain_advice ending
  | adviseGrant =>
      obtain ⟨found, _, _, _, _, ending, _⟩ := ends_bind_ok.mp ending
      cases found with
      | none =>
          cases (ends_pure.mp ending).1
          trivial
      | some grant => exact plain_advice ending

end Answers

/-- What is printed is a document, and reads back as what was answered, with base64 in the place of
bytes, from which the same bytes are decoded again. That is so of any values whose numbers are
finite, as safe integers are, and whose members have names of their own. All that commands answer is
of that kind if all that the ledger finds is; in a database it always is. -/
theorem output_reads_back :
    (∀ answer : Value, answer.Plain →
      ∃ found, ReadsAs answer found ∧ Json.Spells (output answer).toList found ∧
        Json.parse? (output answer) = some found) ∧
    (∀ payload : Bytes, Base64.Spells (Base64.encode payload).toList payload ∧
      Base64.decode (Base64.encode payload) = payload) ∧
    (∀ value : Int, value.natAbs ≤ Number.safeBound → (Value.ofInt value).Plain) ∧
    (∀ {others : Collaborators} {world final : World others} {trace : Trace} (progressId : String)
      (arguments : List String) (answer : Value), others.books.AnswersPlainly world.store →
      (run progressId arguments).Ends world (.ok answer) trace final → answer.Plain) ∧
    ∀ {δ : Type} (database : Ledger.Database δ) (store : δ),
      database.books.AnswersPlainly store := by
  refine ⟨fun answer plain => ?_, fun payload => ?_, fun value safe => ?_, ?_, ?_⟩
  · have blank : (Json.indented.indent.getD "").toList.all Json.isBlank = true := by decide
    exact Json.exists_parse?_write (List.all_eq_true.mp blank) plain
  · exact ⟨Base64.spells_encode payload, Base64.decode_encode payload⟩
  · exact Number.isFinite_ofInt safe
  · intro others world final trace progressId arguments answer plainly ending
    obtain ⟨command, _, _, _, parsed, ran, _⟩ := ends_bind_ok.mp ending
    obtain ⟨same, _, rfl⟩ := ends_ofExcept.mp parsed
    exact (Spells.of_parse same.symm).plain_run plainly ran
  · exact fun database store => database.answersPlainly_books store

/-- A ledger in a database that answers each statement with the same rows, and everyone else in
memory. -/
def answeringWith (rows : Sql.Rows) : Collaborators where
  Node := Collaborators.inMemory.Node
  Client := Collaborators.inMemory.Client
  Store := Unit
  Agent := Collaborators.inMemory.Agent
  Clock := Collaborators.inMemory.Clock
  provider := Collaborators.inMemory.provider
  books := Ledger.Database.books { schema := "public", run := fun _ => pure rows, close := pure () }
  agent := Collaborators.inMemory.agent
  pause := Collaborators.inMemory.pause

/-- The world in which nothing has happened yet. -/
def worldWith (rows : Sql.Rows) : World (answeringWith rows) where
  chain := { node := {} }
  store := ()
  agent := ()
  clock := (0 : Nat)

/-- A proposal whose proposer has a quote and control characters in its address. -/
def quotedProposal : Ledger.Proposal where
  id := 7
  proposerIndex := 3
  proposerAddress := "A\"\x1F\n"
  data := [0x00, 0xFF]
  createdAt := 12
  settledAt := 0
  status := 1

theorem output_reads_back_quoted :
    ∃ answer found, (∃ trace final, (run "follow" ["proposal", "7"]).Ends
        (worldWith [Ledger.proposals.write quotedProposal]) (.ok answer) trace final) ∧
      Json.parse? (output answer) = some found ∧
      found.member "proposer_address" = .text "A\"\x1F\n" ∧
      found.member "data" = .text (Base64.encode [0x00, 0xFF]) ∧
      Base64.decode (Base64.encode [0x00, 0xFF]) = [0x00, 0xFF] := by
  obtain ⟨prints, decodes, _, answers, finds⟩ := output_reads_back
  have spells : Spells ["proposal", "7"] (.query (.proposal 7)) :=
    .proposal ⟨"7", 7, rfl, by decide, by decide +kernel⟩
  obtain ⟨trace, final, ending⟩ : ∃ trace final, (run "follow" ["proposal", "7"]).Ends
      (worldWith [Ledger.proposals.write quotedProposal])
      (.ok (.record (Ledger.proposals.write quotedProposal))) trace final := by
    unfold run
    rw [spells.parse]
    exact ⟨_, _, Call.ends_iff.mpr ⟨rfl, rfl, rfl⟩⟩
  have plain := answers _ _ _ (finds _ _) ending
  obtain ⟨found, reads, _, parsed⟩ := prints _ plain
  refine ⟨_, found, ⟨trace, final, ending⟩, parsed, ?_, ?_, (decodes _).2⟩
  · exact readsAs_text_iff.mp (reads.member plain.1 (.tail _ (.tail _ (.head _))))
  · exact readsAs_bytes_iff.mp (reads.member plain.1 (.tail _ (.tail _ (.tail _ (.head _)))))

end Inspect

end RollCall
