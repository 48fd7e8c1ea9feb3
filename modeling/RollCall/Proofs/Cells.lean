import Mathlib.Data.List.TakeWhile
import RollCall.Ledger.Database
import RollCall.Proofs.Endings
import RollCall.Proofs.Inserts

/-!
# Rows and their cells

A database answers a row as cells, integers as numbers or as decimal text and payloads as bytes or as
marked hexadecimal text. A row whose numbers are natural numbers that count exactly is read back from
what its insert binds, whichever way each cell is answered. What this comes to for a table is said
once: its columns are those that it writes, and its reader takes each field from the column under
which the field is written.
-/

set_option autoImplicit false

namespace RollCall

open Call

/-!
## Natural numbers that count exactly
-/

namespace Number

/-- A natural number up to which all natural numbers are told apart. -/
def IsCount (number : Number) : Prop :=
  ∃ value ≤ safeBound, number = ofNat value

theorem isCount_ofNat {value : Nat} (safe : value ≤ safeBound) : (ofNat value).IsCount :=
  ⟨value, safe, rfl⟩

theorem safeInt?_ofNat {value : Nat} (safe : value ≤ safeBound) :
    (ofNat value).safeInt? = some (value : Int) := by
  have small : isSafeInteger (value : Rat) := isSafeInteger_natCast.mpr safe
  simp only [safeInt?, ofNat, ofInt]
  rw [if_pos (by exact_mod_cast small)]
  simp

theorem safeNat?_eq_some_iff {number : Number} {value : Nat} :
    number.safeNat? = some value ↔ number = ofNat value ∧ value ≤ safeBound := by
  constructor
  · intro found
    unfold safeNat? at found
    split at found
    · next whole told =>
      cases found
      cases number with
      | finite rational =>
          simp only [safeInt?] at told
          split at told
          · next safe =>
            obtain ⟨integral, small⟩ := of_decide_eq_true safe
            have same : rational.num = (value : Int) := Option.some.inj told
            refine ⟨congrArg Number.finite ?_, by omega⟩
            exact Rat.ext same integral
          · cases told
      | _ => cases told
    · cases found
  · rintro ⟨rfl, safe⟩
    rw [safeNat?, safeInt?_ofNat safe]

instance (number : Number) : Decidable number.IsCount :=
  decidable_of_iff (number.safeNat?.isSome) (by
    rw [Option.isSome_iff_exists]
    exact exists_congr fun value => safeNat?_eq_some_iff.trans and_comm)

theorem ofUnsigned_of_digits {digits : List Char} (nonempty : digits ≠ [])
    (each : ∀ char ∈ digits, isDigit char) : ofUnsigned false digits = ofDigits digits := by
  have whole : takeDigits digits = (digits, []) := by
    rw [takeDigits, List.takeWhile_eq_self_iff.mpr each, List.dropWhile_eq_nil_iff.mpr each]
  have finite : digits ≠ "Infinity".toList := by
    rintro rfl
    exact absurd (each 'I' (by simp)) (by decide)
  rw [ofUnsigned, if_neg finite, whole]
  simp [nonempty, takeExponent, ofParts, ofDigits]

/-- Digits have no blanks around them and carry no sign and no mark of another base. -/
theorem ofNumeral_of_inDigits {text : String} {value : Nat} (spelled : InDigits text value) :
    ofNumeral text = ofDigits text.toList := by
  have each : ∀ char ∈ text.toList, isDigit char := fun char member =>
    isDigit_iff.mpr (spelled.digits char member)
  have nonempty : text.toList ≠ [] := by simpa using spelled.nonempty
  unfold ofNumeral
  rw [Text.trimChars_of_solid spelled.solid]
  split
  · next empty => exact (nonempty empty).elim
  · next mark rest same =>
    have digit := each mark (by simp [same])
    have letters : ['x', 'X', 'o', 'O', 'b', 'B'].all (!isDigit ·) := by decide
    have unmarked : mark ∉ ['x', 'X', 'o', 'O', 'b', 'B'] := by
      intro member
      have letter := List.all_eq_true.mp letters mark member
      rw [digit] at letter
      cases letter
    simp only [List.mem_cons, List.not_mem_nil, or_false, not_or] at unmarked
    obtain ⟨x, upperX, o, upperO, b, upperB⟩ := unmarked
    rw [if_neg (not_or.mpr ⟨x, upperX⟩), if_neg (not_or.mpr ⟨o, upperO⟩),
      if_neg (not_or.mpr ⟨b, upperB⟩), ← same]
    exact ofUnsigned_of_digits nonempty each
  · next rest same => exact absurd (each '-' (by simp [same])) (by decide)
  · next rest same => exact absurd (each '+' (by simp [same])) (by decide)
  · exact ofUnsigned_of_digits nonempty each

theorem ofNumeral_toString {value : Nat} (safe : value ≤ safeBound) :
    ofNumeral (toString value) = ofNat value := by
  have spelled := inDigits_toString value
  refine (safeNat?_eq_some_iff.mp ?_).1
  rw [ofNumeral_of_inDigits spelled, safeNat?_ofDigits, digitsValue_eq spelled.digits,
    ← spelled.denoted, if_pos safe]

end Number

/-!
## What a database answers
-/

/-- How a database may answer a value that was bound: integers as numbers or as decimal text, payloads
as bytes or as marked hexadecimal text of either case, everything else as it is. -/
inductive Sql.Returns : Value → Value → Prop where
  | null : Returns .null .null
  | flag (value : Bool) : Returns (.flag value) (.flag value)
  | number (value : Number) : Returns (.number value) (.number value)
  | numeral (value : Nat) : Returns (.number (.ofNat value)) (.text (toString value))
  | text (value : String) : Returns (.text value) (.text value)
  | bytes (value : Bytes) : Returns (.bytes value) (.bytes value)
  | hex {value : Bytes} {digits : List Char} (spelled : Hex.decodeDigits digits = some value) :
      Returns (.bytes value) (.text (String.ofList ('\\' :: 'x' :: digits)))

namespace Ledger

/-- A column is answered with a value that was bound. -/
def Cell.Holds (cells : Members) (column : String) (value : Value) : Prop :=
  ∃ cell, cells.find? column = some cell ∧ Sql.Returns value cell

def Cell.Answers (bound cells : Members) : Prop :=
  ∀ column value, (column, value) ∈ bound → Cell.Holds cells column value

namespace Cell

variable {cells : Members} {column : String}

theorem integer_of_holds {value : Nat} (safe : value ≤ Number.safeBound)
    (holds : Holds cells column (.number (.ofNat value))) :
    integer cells column = .ok (value : Int) := by
  obtain ⟨cell, found, returned⟩ := holds
  have told : cell.toNumber? = some (.ofNat value) := by
    cases returned with
    | number => rfl
    | numeral => exact congrArg some (Number.ofNumeral_toString safe)
  have read : anyNumber cells column = .ok (.ofNat value) := by
    rw [anyNumber, found, Option.elim_some, told]
    rfl
  rw [integer, read]
  simp only [bind, Except.bind, Number.safeInt?_ofNat safe]
  rfl

theorem number_of_holds {number : Number} (count : number.IsCount)
    (holds : Holds cells column (.number number)) : Cell.number cells column = .ok number := by
  obtain ⟨value, safe, rfl⟩ := count
  rw [Cell.number, integer_of_holds safe holds]
  rfl

theorem text_of_holds {value : String} (holds : Holds cells column (.text value)) :
    text cells column = .ok value := by
  obtain ⟨cell, found, returned⟩ := holds
  cases returned
  rw [text, found]
  rfl

theorem flag_of_holds {value : Bool} (holds : Holds cells column (.flag value)) :
    flag cells column = value := by
  obtain ⟨cell, found, returned⟩ := holds
  cases returned
  rw [flag, found]
  cases value <;> rfl

theorem payload_of_holds {value : Bytes} (holds : Holds cells column (.bytes value)) :
    payload cells column = value := by
  obtain ⟨cell, found, returned⟩ := holds
  cases returned with
  | bytes => rw [payload, found]; rfl
  | hex spelled =>
      obtain ⟨read, ascii⟩ := Hex.decodeLeading_of_decodeDigits spelled
      rw [payload, found]
      simp only [Option.getD_some, String.toList_ofList]
      rw [narrowed_of_ascii (by simpa using ascii), String.toList_ofList, read]

/-- The cells tell a value, numbers as they are read from them. No column holds any other value. -/
def Tells (number : String → Except Fault Number) (cells : Members) (column : String) :
    Value → Prop
  | .number value => number column = .ok value
  | .text value => text cells column = .ok value
  | .bytes value => payload cells column = value
  | .flag value => flag cells column = value
  | _ => True

end Cell

/-!
## Tables
-/

/-- A table is read as it is written. -/
structure Table.Lawful {ρ : Type} (table : Table ρ) : Prop where
  /-- A row has a cell in each of the columns that an insert binds, in their order. -/
  names : ∀ row, (table.write row).map Prod.fst = table.columns := by exact fun _ => rfl
  nonempty : table.columns ≠ [] := by decide
  distinct : table.columns.Nodup := by decide
  plain : ∀ column ∈ table.columns, Sql.isPlain column := by decide
  /-- A reader that is told each cell that is written gives the row. -/
  assembles : ∀ {number : String → Except Fault Number} {cells : Members} {row : ρ},
    (∀ cell ∈ table.write row, Cell.Tells number cells cell.1 cell.2) →
      table.assemble number cells = .ok row

theorem lawful_validators : validators.Lawful where
  assembles told := by
    simp only [validators, List.forall_mem_cons, Cell.Tells] at told
    obtain ⟨id, address, agentUrl, stake, -⟩ := told
    simp only [validators, id, address, agentUrl, stake]
    rfl

theorem lawful_proposals : proposals.Lawful where
  assembles told := by
    simp only [proposals, List.forall_mem_cons, Cell.Tells] at told
    obtain ⟨id, proposerIndex, proposerAddress, data, createdAt, settledAt, status, -⟩ := told
    simp only [proposals, id, proposerIndex, proposerAddress, data, createdAt, settledAt, status]
    rfl

theorem lawful_grants : grants.Lawful where
  assembles told := by
    simp only [grants, List.forall_mem_cons, Cell.Tells] at told
    obtain ⟨id, address, height, stake, proposer, proposerAddress, granted, -⟩ := told
    simp only [grants, id, address, height, stake, proposer, proposerAddress, granted]
    rfl

theorem lawful_discussions : discussions.Lawful where
  assembles told := by
    simp only [discussions, List.forall_mem_cons, Cell.Tells] at told
    obtain ⟨proposal, speakerIndex, speakerAddress, data, height, ordinal, -⟩ := told
    simp only [discussions, proposal, speakerIndex, speakerAddress, data, height, ordinal]
    rfl

theorem lawful_proposalVotes : proposalVotes.Lawful where
  assembles told := by
    simp only [proposalVotes, List.forall_mem_cons, Cell.Tells] at told
    obtain ⟨proposal, voterIndex, voterAddress, height, vote, -⟩ := told
    simp only [proposalVotes, proposal, voterIndex, voterAddress, height, vote]
    rfl

theorem lawful_grantVotes : grantVotes.Lawful where
  assembles told := by
    simp only [grantVotes, List.forall_mem_cons, Cell.Tells] at told
    obtain ⟨proposerIndex, proposerAddress, accountIndex, accountAddress, voterIndex, voterAddress,
      height, vote, -⟩ := told
    simp only [grantVotes, proposerIndex, proposerAddress, accountIndex, accountAddress, voterIndex,
      voterAddress, height, vote]
    rfl

/-- All numbers of a row are natural numbers that count exactly. -/
def Table.IsStorable {ρ : Type} (table : Table ρ) (row : ρ) : Prop :=
  ∀ column number, (column, .number number) ∈ table.write row → number.IsCount

theorem find?_of_mem {members : Members} (distinct : (members.map Prod.fst).Nodup) {name : String}
    {value : Value} (member : (name, value) ∈ members) : members.find? name = some value := by
  induction members with
  | nil => cases member
  | cons first rest ih =>
      obtain ⟨fresh, distinct⟩ := List.nodup_cons.mp distinct
      rw [Members.find?, List.lookup_cons]
      rcases List.mem_cons.mp member with rfl | later
      · simp
      · have other : (name == first.1) = false := by
          refine beq_eq_false_iff_ne.mpr ?_
          rintro rfl
          exact fresh (List.mem_map.mpr ⟨_, later, rfl⟩)
        rw [other]
        exact ih distinct later

namespace Table.Lawful

variable {ρ : Type} {table : Table ρ} (lawful : table.Lawful)

include lawful

theorem zip_bound (row : ρ) :
    table.columns.zip (Sql.bound table.columns (table.write row)) =
      (table.write row).map fun (column, value) => (column, .value value) := by
  have distinct : ((table.write row).map Prod.fst).Nodup := lawful.names row ▸ lawful.distinct
  rw [← lawful.names row, Sql.bound, List.map_map, List.zip_map']
  refine List.map_congr_left fun cell member => ?_
  exact congrArg (cell.1, ·) (Sql.parameter_of_own (find?_of_mem distinct member))

variable {row : ρ} {cells : Members}

theorem read_of_answers (storable : table.IsStorable row)
    (answers : Cell.Answers (table.write row) cells) : table.read cells = .ok row := by
  apply lawful.assembles
  rintro ⟨column, value⟩ member
  have holds := answers column value member
  cases value with
  | number number => exact Cell.number_of_holds (storable column number member) holds
  | text text => exact Cell.text_of_holds holds
  | bytes bytes => exact Cell.payload_of_holds holds
  | flag flag => exact Cell.flag_of_holds holds
  | _ => trivial

theorem readNumbered_of_answers (storable : table.IsStorable row)
    (answers : Cell.Answers (table.write row) cells) {id : Nat} (safe : id ≤ Number.safeBound)
    (numbered : Cell.Holds cells "id" (.number (.ofNat id))) :
    table.readNumbered cells = .ok { id, row } := by
  rw [readNumbered, Cell.integer_of_holds safe numbered, lawful.read_of_answers storable answers]
  rfl

end Table.Lawful

example : discussions.readNumbered
    [("speaker_address", .text ""), ("data", .text "\\x6Aff"), ("height", .text "5"),
      ("event_index", .number 0), ("id", .text "12"), ("proposal", .text "7"),
      ("speaker_index", .number 4)] =
    .ok {
      id := 12
      row := {
        proposal := 7, speakerIndex := 4, speakerAddress := "", data := [0x6A, 0xFF]
        height := 5, ordinal := 0 } } := by
  rfl

/-!
## Operations that store rows
-/

/-- Where an operation stores a row, and which. -/
inductive Operation.Stores : Operation → {ρ : Type} → Table ρ → ρ → Prop where
  | validator (row : Validator) : Stores (.upsertValidator row) Ledger.validators row
  | proposal (row : Proposal) : Stores (.upsertProposal row) Ledger.proposals row
  | grant (row : Grant) : Stores (.upsertGrant row) Ledger.grants row
  | discussion (row : Discussion) : Stores (.insertDiscussion row) Ledger.discussions row
  | proposalVote (row : ProposalVote) : Stores (.insertProposalVote row) Ledger.proposalVotes row
  | grantVote (row : GrantVote) : Stores (.insertGrantVote row) Ledger.grantVotes row

namespace Database

variable {δ ρ : Type} {database : Database δ} {table : Table ρ}

/-- A database that does an operation runs an insert first, which binds cells to the columns of a
table. -/
def Binds (database : Database δ) (operation : Operation) (table : String) (bound : Members) :
    Prop :=
  ∀ ⦃state result trace final⦄, (database.books operation).Ends state result trace final →
    ∃ statement rest, trace = .executed statement :: rest ∧
      statement.bindings? (database.qualified table) =
        some (bound.map fun (column, value) => (column, .value value))

/-- Whatever the cells are in which a database answers what an operation has bound, the reader of the
table makes the row of them. -/
def Restores (database : Database δ) (operation : Operation) (table : Table ρ) (row : ρ) : Prop :=
  ∃ bound, database.Binds operation table.name bound ∧
    ∀ cells, Cell.Answers bound cells → table.read cells = .ok row ∧
      ∀ id : Nat, id ≤ Number.safeBound → Cell.Holds cells "id" (.number (.ofNat id)) →
        table.readNumbered cells = .ok { id, row }

theorem storing_runs {operation : String} {details : Members} {statement : Sql.Statement}
    {state final : δ} {result : Except Fault Sql.Rows} {trace : Trace}
    (ending : (storing operation details
      (database.send statement)).Ends state result trace final) :
    ∃ rest, trace = .executed statement :: rest := by
  obtain ⟨_, _, first, second, ran, _, rfl⟩ := ends_attempt_bind.mp ending
  obtain ⟨rest, _, rfl⟩ := ends_note_bind.mp ran
  exact ⟨rest ++ second, rfl⟩

theorem insert_runs {α : Type} {columns : List String} {cells : Members} {target tail : String}
    {operation : String} {details : Members} {next : Sql.Rows → Call δ α} {state final : δ}
    {result : Except Fault α} {trace : Trace}
    (ending : (do
      let statement ← Call.ofExcept (Sql.insert target columns [cells] tail)
      let rows ← storing operation details (database.send statement)
      next rows : Call δ α).Ends state result trace final) :
    ∃ statement rest, Sql.insert target columns [cells] tail = .ok statement ∧
      trace = .executed statement :: rest := by
  rcases ends_bind.mp ending with ⟨_, _, failed⟩ | ⟨statement, _, _, _, made, stored, rfl⟩
  · cases (ends_ofExcept.mp failed).1
  obtain ⟨inserted, rfl, rfl⟩ := ends_ofExcept.mp made
  rcases ends_bind.mp stored with ⟨_, _, failed⟩ | ⟨_, _, _, second, ran, _, rfl⟩
  · obtain ⟨rest, rfl⟩ := storing_runs failed
    exact ⟨statement, rest, inserted.symm, rfl⟩
  · obtain ⟨rest, rfl⟩ := storing_runs ran
    exact ⟨statement, rest ++ second, inserted.symm, rfl⟩

theorem restores_of_insert {operation : Operation} (lawful : table.Lawful) {row : ρ}
    (storable : table.IsStorable row) {tail : String}
    (inserts : ∀ {state result trace final},
      (database.books operation).Ends state result trace final → ∃ statement rest,
        Sql.insert (database.qualified table.name) table.columns [table.write row] tail =
            .ok statement ∧ trace = .executed statement :: rest) :
    database.Restores operation table row := by
  refine ⟨table.write row, ?_, fun cells answers => ⟨?_, fun id safe numbered => ?_⟩⟩
  · intro state result trace final ending
    obtain ⟨statement, rest, made, rfl⟩ := inserts ending
    refine ⟨statement, rest, rfl, ?_⟩
    rw [Sql.bindings?_of_insert lawful.nonempty lawful.plain made, lawful.zip_bound row]
  · exact lawful.read_of_answers storable answers
  · exact lawful.readNumbered_of_answers storable answers safe numbered

/-- Whatever the database is, a row is restored from what the operation that stores it binds. -/
theorem restores_of_stores (database : Database δ) {operation : Operation} {row : ρ}
    (stores : operation.Stores table row) (storable : table.IsStorable row) :
    database.Restores operation table row := by
  cases stores with
  | validator => exact restores_of_insert lawful_validators storable insert_runs
  | proposal => exact restores_of_insert lawful_proposals storable insert_runs
  | grant => exact restores_of_insert lawful_grants storable insert_runs
  | discussion => exact restores_of_insert lawful_discussions storable insert_runs
  | proposalVote => exact restores_of_insert lawful_proposalVotes storable insert_runs
  | grantVote => exact restores_of_insert lawful_grantVotes storable insert_runs

end Database

end Ledger

end RollCall
