import RollCall.Proofs.Lexis

/-!
# Inserts of many rows, and upserts

Read back by its tokens, an insert proposes for each row the values that the row has in the columns,
however many rows there are. With the clause that lets a proposed row take over, the row which is
already there ends up with what the new one has in every column but the key.
-/

set_option autoImplicit false

namespace RollCall.Sql

/-!
## What a database understands
-/

/-- An insert: where to, into which columns, and for each row the places of its values. -/
structure Insertion where
  target : List Token
  columns : List String
  rows : List (List Nat)
  clause : List Token

namespace Insertion

def parenthesized (items : List (List Token)) : List Token :=
  .char '(' :: (listed items ++ [.char ')'])

/-- The tokens by which an insert is said. -/
def tokens (insertion : Insertion) : List Token :=
  chars "INSERT INTO " ++ (insertion.target ++ .char ' ' ::
    (parenthesized (insertion.columns.map ([.name ·])) ++ chars " VALUES " ++
      listed (insertion.rows.map fun places => parenthesized (places.map ([.place ·]))) ++
      insertion.clause))

def valueAt? (values : List Parameter) : Nat → Option Parameter
  | 0 => none
  | place + 1 => values[place]?

/-- The rows that an insert proposes; each must have as many values as there are columns. -/
def proposed? (insertion : Insertion) (values : List Parameter) :
    Option (List (List (String × Parameter))) :=
  insertion.rows.mapM fun places => do
    guard (places.length = insertion.columns.length)
    return insertion.columns.zip (← places.mapM (valueAt? values))

end Insertion

/-- Assignments of a proposed row's columns to those of a stored row. -/
abbrev Assignments := List (String × String)

namespace Assignments

def text (assignments : Assignments) : String :=
  Text.join ", " (assignments.map fun (column, source) =>
    s!"{quoted column} = EXCLUDED.{quoted source}")

def tokens (assignments : Assignments) : List Token :=
  listed (assignments.map fun (column, source) =>
    .name column :: (chars " = EXCLUDED." ++ [.name source]))

/-- The stored row after the assignments, whatever is stored in its columns. -/
def assign {α : Type} (assignments : Assignments) (stored proposed : List (String × α)) :
    List (String × α) :=
  stored.map fun (column, value) =>
    (column, ((assignments.lookup column).bind (proposed.lookup ·)).getD value)

end Assignments

/-!
## Inserts of many rows
-/

theorem length_bound (columns : List String) (row : Members) :
    (bound columns row).length = columns.length := by
  simp [bound]

theorem length_flatMap_bound (columns : List String) (rows : List Members) :
    (rows.flatMap (bound columns)).length = rows.length * columns.length := by
  induction rows with
  | nil => simp
  | cons row rows ih => simp [ih, length_bound, Nat.succ_mul, Nat.add_comm]

/-- The value of a row in a column stands behind those of the rows before and of the columns before. -/
theorem getElem?_flatMap_bound {columns : List String} {rows : List Members} {row column : Nat}
    (inRows : row < rows.length) (inColumns : column < columns.length) :
    (rows.flatMap (bound columns))[row * columns.length + column]? =
      some (parameter rows[row] columns[column]) := by
  induction rows generalizing row with
  | nil => cases inRows
  | cons first rows ih =>
      rw [List.flatMap_cons]
      cases row with
      | zero =>
          rw [List.getElem?_append_left (by simpa [length_bound] using inColumns)]
          simp [bound, inColumns]
      | succ row =>
          have behind : (row + 1) * columns.length + column =
              (bound columns first).length + (row * columns.length + column) := by
            rw [length_bound, Nat.succ_mul]
            omega
          rw [behind, List.getElem?_append_right (Nat.le_add_right _ _), Nat.add_sub_cancel_left]
          simpa using ih (Nat.lt_of_succ_lt_succ inRows)

/-- No place is left out and none is used again. -/
theorem flatten_numbering (width before count : Nat) :
    (numbering width before count).flatten =
      (List.range (count * width)).map (before + · + 1) := by
  induction count generalizing before with
  | zero => simp [numbering]
  | succ count ih =>
      rw [numbering_succ, List.flatten_cons, ih, Nat.succ_mul, Nat.add_comm (count * width) width,
        List.range_add, List.map_append, List.map_map]
      simp [Function.comp_def, Nat.add_assoc]

theorem proposed?_of_numbering (target clause : List Token) (columns : List String)
    (rows : List Members) :
    ({ target, columns, rows := numbering columns.length 0 rows.length, clause } :
      Insertion).proposed? (rows.flatMap (bound columns)) =
      some (rows.map fun row => columns.zip (bound columns row)) := by
  refine mapM_of_forall₂ (List.forall₂_iff_get.mpr ⟨by simp [numbering], fun row inside _ => ?_⟩)
  have inRows : row < rows.length := by simpa [numbering] using inside
  have values : ((List.range columns.length).map fun column =>
        0 + row * columns.length + column + 1).mapM
      (Insertion.valueAt? (rows.flatMap (bound columns))) = some (bound columns rows[row]) := by
    refine mapM_of_forall₂ (List.forall₂_iff_get.mpr ⟨by simp [bound], fun column inside _ => ?_⟩)
    have inColumns : column < columns.length := by simpa using inside
    simp [Insertion.valueAt?, getElem?_flatMap_bound inRows inColumns, bound]
  simp only [List.get_eq_getElem, numbering, List.getElem_map, List.getElem_range, List.length_map,
    List.length_range, values]
  rfl

theorem tokens?_parenthesized {parts : List (List Char)} {items : List (List Token)}
    (each : List.Forall₂ (fun part item => tokens? part = some item) parts items)
    (back : List Char) :
    tokens? ('(' :: ([',', ' '].intercalate parts ++ ')' :: back)) =
      (tokens? back).map (Insertion.parenthesized items ++ ·) := by
  rw [tokens?_cons (by decide), tokens?_append_cons (tokens?_listed each) (by decide)]
  simp [Insertion.parenthesized, Function.comp_def]

theorem tokens?_tuple (places : List Nat) :
    tokens? (tuple places).toList = some (Insertion.parenthesized (places.map ([.place ·]))) := by
  have each : List.Forall₂ (fun part item => tokens? part = some item)
      (places.map fun place => (mark place).toList) (places.map ([.place ·])) :=
    List.forall₂_map_left_iff.mpr (List.forall₂_map_right_iff.mpr
      (List.forall₂_same.mpr fun place _ => tokens?_mark place))
  have read := tokens?_parenthesized each []
  rw [toList_tuple, read]
  simp [tokens?, Reading.tokens?, Reading.finish]

/-- An insert is understood as what proposes each row, its values under the names of their columns. -/
theorem tokens?_insertText {table : String} {columns : List String} {tail : String}
    {target clause : List Token} (plain : ∀ column ∈ columns, '"' ∉ column.toList)
    (readTable : tokens? table.toList = some target) (readTail : tokens? tail.toList = some clause)
    (count : Nat) :
    tokens? (insertText table columns count tail).toList =
      some ({ target, columns, rows := numbering columns.length 0 count,
              clause := if tail = "" then [] else .char ' ' :: clause } : Insertion).tokens := by
  have names : List.Forall₂ (fun part item => tokens? part = some item)
      (columns.map fun column => (quoted column).toList) (columns.map ([.name ·])) :=
    List.forall₂_map_left_iff.mpr (List.forall₂_map_right_iff.mpr
      (List.forall₂_same.mpr fun column member => tokens?_quoted (plain column member)))
  have tuples : tokens? ([',', ' '].intercalate
        ((numbering columns.length 0 count).map fun places => (tuple places).toList)) =
      some (listed ((numbering columns.length 0 count).map fun places =>
        Insertion.parenthesized (places.map ([.place ·])))) :=
    tokens?_listed (List.forall₂_map_left_iff.mpr (List.forall₂_map_right_iff.mpr
      (List.forall₂_same.mpr fun places _ => tokens?_tuple places)))
  have rest : tokens? ([',', ' '].intercalate
        ((numbering columns.length 0 count).map fun places => (tuple places).toList) ++
        (if tail = "" then "" else " " ++ tail).toList) =
      some (listed ((numbering columns.length 0 count).map fun places =>
        Insertion.parenthesized (places.map ([.place ·]))) ++
        if tail = "" then [] else .char ' ' :: clause) := by
    split
    case isTrue => simpa using tuples
    case isFalse =>
      rw [String.toList_append, show " ".toList = [' '] from rfl, List.singleton_append,
        tokens?_append_cons tuples (by decide), readTail]
      rfl
  rw [toList_insertText, tokens?_bare_append (by decide), tokens?_append_cons readTable (by decide),
    tokens?_parenthesized names, tokens?_bare_append (by decide), rest]
  simp [Insertion.tokens, chars]

/-!
## Taking over
-/

/-- Each column but the key, assigned what is proposed for it. -/
def replacing (columns : List String) (key : String) : Assignments :=
  (columns.filter (· ≠ key)).map fun column => (column, column)

theorem takeOver_eq (columns : List String) (key : String) :
    takeOver columns key = (replacing columns key).text := by
  simp [takeOver, replacing, Assignments.text, Function.comp_def]

theorem count_replacing (columns : List String) (key column : String) :
    ((replacing columns key).map Prod.fst).count column =
      if column = key then 0 else columns.count column := by
  simp only [replacing, List.map_map, Function.comp_def, List.map_id']
  split
  case isTrue same =>
    subst same
    exact List.count_eq_zero.mpr (by simp)
  case isFalse other => exact List.count_filter (by simpa using other)

theorem tokens?_replacing {columns : List String} (key : String)
    (plain : ∀ column ∈ columns, '"' ∉ column.toList) :
    tokens? (takeOver columns key).toList = some (replacing columns key).tokens := by
  have each : List.Forall₂ (fun part item => tokens? part = some item)
      ((columns.filter (· ≠ key)).map fun column =>
        s!"{quoted column} = EXCLUDED.{quoted column}".toList)
      ((columns.filter (· ≠ key)).map fun column =>
        .name column :: (chars " = EXCLUDED." ++ [.name column])) := by
    refine List.forall₂_map_left_iff.mpr (List.forall₂_map_right_iff.mpr
      (List.forall₂_same.mpr fun column member => ?_))
    have read := tokens?_quoted (plain column (List.mem_of_mem_filter member))
    have spelled : s!"{quoted column} = EXCLUDED.{quoted column}".toList =
        (quoted column).toList ++ ' ' :: ("= EXCLUDED.".toList ++ (quoted column).toList) := by
      simp [toString, String.toList_append]
    rw [spelled, tokens?_append_cons read (by decide), tokens?_bare_append (by decide), read]
    rfl
  have read := tokens?_listed each
  simpa [takeOver, replacing, Assignments.tokens, Text.join, String.toList_intercalate,
    Function.comp_def] using read

theorem lookup_replacing (columns : List String) (key column : String) :
    (replacing columns key).lookup column =
      if column ∈ columns ∧ column ≠ key then some column else none := by
  induction columns with
  | nil => simp [replacing]
  | cons first columns ih =>
      rw [replacing] at ih ⊢
      by_cases isKey : first = key
      case pos =>
        rw [List.filter_cons_of_neg (by simpa using isKey), ih]
        grind
      case neg =>
        rw [List.filter_cons_of_pos (by simpa using isKey), List.map_cons, List.lookup_cons, ih]
        grind

/-- The row that an insert proposes, as a database holds it. -/
def proposal {α : Type} (cell : Parameter → α) (columns : List String) (row : Members) :
    List (String × α) :=
  (columns.zip (bound columns row)).map fun (column, value) => (column, cell value)

theorem lookup_proposal {α : Type} (cell : Parameter → α) (columns : List String) (row : Members)
    (column : String) :
    (proposal cell columns row).lookup column =
      if column ∈ columns then some (cell (parameter row column)) else none := by
  induction columns with
  | nil => rfl
  | cons first columns ih =>
      rw [proposal, bound] at ih ⊢
      rw [List.map_cons, List.zip_cons_cons, List.map_cons, List.lookup_cons, ih]
      grind

theorem assign_replacing {α : Type} (cell : Parameter → α) (columns : List String) (key : String)
    (stored : List (String × α)) (row : Members) :
    (replacing columns key).assign stored (proposal cell columns row) =
      stored.map fun (column, value) =>
        (column, if column ∈ columns ∧ column ≠ key then cell (parameter row column)
          else value) := by
  refine List.map_congr_left fun (column, value) _ => ?_
  dsimp only
  rw [lookup_replacing]
  split
  case isTrue taken => simp [lookup_proposal, taken.1]
  case isFalse => rfl

/-!
## What an insert does
-/

/-- What is asked of the statement that inserts rows. -/
structure Binds (table : String) (columns : List String) (rows : List Members) (tail : String)
    (statement : Statement) : Prop where
  /-- The text is the same whatever the rows hold. -/
  text : statement.text = insertText table columns rows.length tail
  count : statement.values.length = rows.length * columns.length
  /-- The tuples together name each value once, in order. -/
  places : (numbering columns.length 0 rows.length).flatten =
    (List.range statement.values.length).map (· + 1)
  value : ∀ {row column : Nat} (inRows : row < rows.length) (inColumns : column < columns.length),
    ∃ places : List Nat, (numbering columns.length 0 rows.length)[row]? = some places ∧
      places.length = columns.length ∧
      places[column]? = some (row * columns.length + column + 1) ∧
      ∃ bound, statement.values[row * columns.length + column]? = some bound ∧
        IsBound rows[row] columns[column] bound
  /-- A database that takes the text apart proposes for each row what it holds. -/
  understood : ∀ {target clause : List Token}, (∀ column ∈ columns, '"' ∉ column.toList) →
    tokens? table.toList = some target → tokens? tail.toList = some clause →
    ∃ insertion : Insertion, tokens? statement.text.toList = some insertion.tokens ∧
      insertion.target = target ∧ insertion.columns = columns ∧
      insertion.clause = (if tail = "" then [] else .char ' ' :: clause) ∧
      insertion.proposed? statement.values =
        some (rows.map fun row => columns.zip (bound columns row))

/-- What is asked of the assignments that let a proposed row take over. -/
structure TakesOver (columns : List String) (key said : String)
    (assignments : Assignments) : Prop where
  text : said = assignments.text
  count : ∀ column : String, (assignments.map Prod.fst).count column =
    if column = key then 0 else columns.count column
  own : ∀ assignment ∈ assignments, assignment.1 = assignment.2
  understood : (∀ column ∈ columns, '"' ∉ column.toList) →
    tokens? said.toList = some assignments.tokens
  /-- The row that is there then has what was proposed, but for its key and what is no column. -/
  assigned : ∀ {α : Type} (cell : Parameter → α) (stored : List (String × α)) (row : Members),
    assignments.assign stored (proposal cell columns row) =
      stored.map fun (column, value) =>
        (column, if column ∈ columns ∧ column ≠ key then cell (parameter row column)
          else value)

theorem binds_of_ne_nil (table : String) (columns : List String) (rows : List Members)
    (tail : String) :
    Binds table columns rows tail {
      text := insertText table columns rows.length tail
      values := rows.flatMap (bound columns) } := by
  constructor
  case text => rfl
  case count => exact length_flatMap_bound columns rows
  case places =>
    rw [flatten_numbering]
    simp only [length_flatMap_bound, Nat.zero_add]
  case value =>
    intro row column inRows inColumns
    refine ⟨(List.range columns.length).map fun column => 0 + row * columns.length + column + 1,
      ?_, by simp, by simp [inColumns], _, getElem?_flatMap_bound inRows inColumns,
      isBound_parameter _ _⟩
    simp [numbering, inRows]
  case understood =>
    intro target clause plain readTable readTail
    exact ⟨_, tokens?_insertText plain readTable readTail rows.length, rfl, rfl, rfl,
      proposed?_of_numbering _ _ columns rows⟩

theorem takesOver_replacing (columns : List String) (key : String) :
    TakesOver columns key (takeOver columns key) (replacing columns key) := by
  constructor
  case text => exact takeOver_eq columns key
  case count => exact count_replacing columns key
  case own =>
    intro assignment member
    obtain ⟨column, _, rfl⟩ := List.mem_map.mp member
    rfl
  case understood => exact tokens?_replacing key
  case assigned => exact fun cell => assign_replacing cell columns key

/-- An insert binds what each row has to the column it stands in, and null where it has nothing, unless
all records borrow a member of that name; one of no rows is refused, and the rows that an upsert meets
are replaced in every column but the key. -/
theorem insert_binds_by_column (table : String) (columns : List String) (tail key : String) :
    insert table columns [] tail = .error (.noRows table) ∧
      (∀ rows : List Members, rows ≠ [] → ∃ statement : Statement,
        insert table columns rows tail = .ok statement ∧
          Binds table columns rows tail statement) ∧
      ∃ assignments : Assignments,
        TakesOver columns key (takeOver columns key) assignments := by
  refine ⟨rfl, fun rows nonempty => ?_, ⟨_, takesOver_replacing columns key⟩⟩
  exact ⟨_, insert_of_ne_nil nonempty table columns tail, binds_of_ne_nil table columns rows tail⟩

theorem insert_binds_two_rows :
    let columns := ["id", "data"]
    let rows : List Members := [[("id", .text "1")], [("data", .flag true), ("id", .null)]]
    ∃ statement : Statement, insert "t" columns rows "RETURNING id" = .ok statement ∧
      Binds "t" columns rows "RETURNING id" statement ∧
      statement.text =
        "INSERT INTO t (\"id\", \"data\") VALUES ($1, $2), ($3, $4) RETURNING id" ∧
      statement.values =
        [.value (.text "1"), .value .null, .value .null, .value (.flag true)] := by
  intro columns rows
  obtain ⟨statement, made, binds⟩ :=
    (insert_binds_by_column "t" columns "RETURNING id" "id").2.1 rows (List.cons_ne_nil _ _)
  refine ⟨statement, made, binds, binds.text.trans (by decide +kernel), ?_⟩
  cases made
  rfl

/-- A column that has the name of a borrowed member is not bound to null where a row has nothing. -/
theorem not_insert_binds_null :
    ¬ ∀ (columns : List String) (row : Members) (statement : Statement),
      insert "t" columns [row] "" = .ok statement →
        ∀ column : Fin columns.length, row.find? columns[column] = none →
          statement.values[column]? = some (.value .null) := by
  intro binds
  have borrowed := binds ["id", "__proto__"] [("id", .number 1)] _ rfl 1 rfl
  cases borrowed

end RollCall.Sql
