import Mathlib.Data.List.Forall2
import RollCall.Proofs.Grammar
import RollCall.Sql.Insert

/-!
# What an insert binds

An insert names its columns in one list and its values by placeholders in another; the values
themselves stand apart. Read back from its text, the insert of a row binds to each column what the
row has there.
-/

set_option autoImplicit false

namespace RollCall.Sql

/-!
## Reading an insert
-/

def unquoted? : List Char → Option String
  | '"' :: rest =>
      match Text.cut '"' rest with
      | (name, some []) => some (String.ofList name)
      | _ => none
  | _ => none

def place? : List Char → Option Nat
  | '$' :: digits => if Text.isDigits digits then some (Number.digitsValue digits) else none
  | _ => none

/-- The value for which a placeholder stands. -/
def Statement.valueOf? (statement : Statement) (mark : List Char) : Option Parameter :=
  match place? mark with
  | some (place + 1) => statement.values[place]?
  | _ => none

/-- The items of a list in parentheses, and what follows it. -/
def items? : List Char → Option (List (List Char) × List Char)
  | '(' :: rest =>
      match Text.cut ')' rest with
      | (inside, some after) => some ((inside.splitOn ',').map (·.dropWhile (· == ' ')), after)
      | _ => none
  | _ => none

/-- What an insert into a table binds: to each column the value for which the placeholder at the
same position stands. -/
def Statement.bindings? (statement : Statement) (table : String) :
    Option (List (String × Parameter)) := do
  let text ← statement.text.toList.dropPrefix? s!"INSERT INTO {table} ".toList
  let (columns, rest) ← items? text
  let tuple ← rest.dropPrefix? " VALUES ".toList
  let (marks, _) ← items? tuple
  guard (columns.length = marks.length)
  return (← columns.mapM unquoted?).zip (← marks.mapM statement.valueOf?)

/-!
## Reading back what is written
-/

theorem cut_append {mark : Char} {front : List Char} (without : mark ∉ front) (rest : List Char) :
    Text.cut mark (front ++ mark :: rest) = (front, some rest) := by
  have other : ∀ char ∈ front, (decide (char ≠ mark)) = true := by
    intro char member
    exact decide_eq_true fun same => without (same ▸ member)
  rw [Text.cut, List.dropWhile_append_of_pos other, List.takeWhile_append_of_pos other]
  simp

theorem dropPrefix?_append (front rest : List Char) : (front ++ rest).dropPrefix? front = some rest :=
  List.dropPrefix?_eq_some_iff.mpr ⟨front, rfl, by simp⟩

theorem unquoted?_quoted {name : String} (plain : '"' ∉ name.toList) :
    unquoted? (quoted name).toList = some name := by
  have spelled : (quoted name).toList = '"' :: (name.toList ++ ['"']) := by
    simp [quoted, toString, String.toList_append]
  rw [spelled, unquoted?, cut_append plain]
  simp

theorem place?_mark (place : Nat) : place? ('$' :: (toString place).toList) = some place := by
  have spelled := Number.inDigits_toString place
  rw [place?, if_pos (Number.isDigits_iff.mpr ⟨spelled.nonempty, spelled.digits⟩),
    Number.digitsValue_eq spelled.digits, ← spelled.denoted]

/-- A text that a list in parentheses can hold: it neither ends an item nor begins with a blank. -/
structure IsItem (text : List Char) : Prop where
  comma : ',' ∉ text
  parenthesis : ')' ∉ text
  blank : text.head? ≠ some ' '

/-- The blank after a comma may as well be the first character of what follows. -/
theorem intercalate_comma (first : List Char) (rest : List (List Char)) :
    [',', ' '].intercalate (first :: rest) =
      [','].intercalate (first :: rest.map (' ' :: ·)) := by
  induction rest generalizing first with
  | nil => rfl
  | cons second rest ih =>
      have blank : [','].intercalate ((' ' :: second) :: rest.map (' ' :: ·)) =
          ' ' :: [','].intercalate (second :: rest.map (' ' :: ·)) := by
        cases rest <;> simp [List.intercalate_cons_cons]
      rw [List.map_cons, List.intercalate_cons_cons, List.intercalate_cons_cons, ih, blank]
      simp

theorem not_mem_intercalate {char : Char} {separator : List Char} {parts : List (List Char)}
    (outside : char ∉ separator) (without : ∀ part ∈ parts, char ∉ part) :
    char ∉ separator.intercalate parts := by
  induction parts with
  | nil => simp
  | cons first rest ih =>
      have others := ih fun part member => without part (List.mem_cons_of_mem _ member)
      have here := without first List.mem_cons_self
      cases rest with
      | nil => simpa using here
      | cons second rest =>
          rw [List.intercalate_cons_cons]
          simp [here, outside, others]

theorem items?_intercalate {parts : List (List Char)} (nonempty : parts ≠ [])
    (items : ∀ part ∈ parts, IsItem part) (rest : List Char) :
    items? ('(' :: ([',', ' '].intercalate parts ++ ')' :: rest)) = some (parts, rest) := by
  have closed : ')' ∉ [',', ' '].intercalate parts :=
    not_mem_intercalate (by decide) fun part member => (items part member).parenthesis
  rw [items?, cut_append closed]
  obtain ⟨first, others, rfl⟩ := List.exists_cons_of_ne_nil nonempty
  have between : ∀ part ∈ first :: others.map (' ' :: ·), ',' ∉ part := by
    intro part member
    rcases List.mem_cons.mp member with rfl | later
    · exact (items part List.mem_cons_self).comma
    · obtain ⟨other, stands, rfl⟩ := List.mem_map.mp later
      simpa using (items other (List.mem_cons_of_mem _ stands)).comma
  have bare : ∀ part ∈ first :: others, part.dropWhile (· == ' ') = part := by
    intro part member
    have blank := (items part member).blank
    cases part with
    | nil => rfl
    | cons char part => exact List.dropWhile_cons_of_neg (by simpa using blank)
  dsimp only
  rw [intercalate_comma, List.splitOn_intercalate ',' between (List.cons_ne_nil _ _), List.map_cons,
    List.map_map, bare first List.mem_cons_self]
  have same : others.map ((·.dropWhile (· == ' ')) ∘ (' ' :: ·)) = others := by
    refine (List.map_congr_left fun part member => ?_).trans (List.map_id _)
    simpa using bare part (List.mem_cons_of_mem _ member)
  rw [same]

/-!
## What is bound

Each value takes the next place, so a row begins where the rows before it have ended.
-/

/-- What a row binds, in the order of the columns. -/
def bound (columns : List String) (row : Members) : List Parameter :=
  columns.map (parameter row)

/-- A row binds what it has in a column, and null where it has nothing, unless all records borrow a
member of that name. -/
structure IsBound (row : Members) (column : String) (bound : Parameter) : Prop where
  own : ∀ value, row.find? column = some value → bound = .value value
  missing : row.find? column = none → column ∉ Value.borrowedNames → bound = .value .null
  borrowed : row.find? column = none → column ∈ Value.borrowedNames → bound = .borrowed column

theorem isBound_parameter (row : Members) (column : String) :
    IsBound row column (parameter row column) := by
  unfold parameter
  cases held : row.find? column with
  | none =>
      have lacks : ∀ value, row.find? column ≠ some value := by simp [held]
      exact ⟨fun value own => absurd own (lacks value), fun _ other => if_neg other,
        fun _ member => if_pos member⟩
  | some value =>
      have has : row.find? column ≠ none := by simp [held]
      refine ⟨fun other same => ?_, fun lacks => absurd lacks has, fun lacks => absurd lacks has⟩
      cases held.symm.trans same
      rfl

theorem parameter_of_own {row : Members} {column : String} {value : Value}
    (own : row.find? column = some value) : parameter row column = .value value :=
  (isBound_parameter row column).own value own

/-- The places of the values of so many rows, which so many values precede. -/
def numbering (width before count : Nat) : List (List Nat) :=
  (List.range count).map fun row =>
    (List.range width).map fun column => before + row * width + column + 1

def tuple (places : List Nat) : String :=
  "(" ++ Text.join ", " (places.map mark) ++ ")"

theorem run_bindValues (cells values : List Parameter) :
    (cells.mapM bindValue).run values =
      pure ((List.range cells.length).map fun cell => mark (values.length + cell + 1),
        values ++ cells) := by
  induction cells generalizing values with
  | nil => simp
  | cons cell cells ih =>
      have taken : (bindValue cell).run values =
          pure (mark (values.length + 1), values ++ [cell]) := by simp [bindValue]
      rw [List.mapM_cons, StateT.run_bind, taken]
      simp [ih, List.range_succ_eq_map, Function.comp_def, Nat.add_assoc, Nat.add_comm 1]

theorem run_bindRow (columns : List String) (row : Members) (values : List Parameter) :
    (bindRow columns row).run values =
      pure (tuple ((List.range columns.length).map (values.length + · + 1)),
        values ++ bound columns row) := by
  have each := run_bindValues (bound columns row) values
  simp only [bound, List.mapM_map, Function.comp_def, List.length_map] at each
  rw [bindRow, StateT.run_bind, each]
  simp [tuple, bound, Function.comp_def]

theorem numbering_succ (width before count : Nat) :
    numbering width before (count + 1) =
      (List.range width).map (before + · + 1) :: numbering width (before + width) count := by
  simp only [numbering, List.range_succ_eq_map, List.map_cons, List.map_map, Nat.zero_mul,
    Nat.add_zero]
  refine congrArg _ (List.map_congr_left fun row _ => List.map_congr_left fun column _ => ?_)
  simp only [Nat.succ_mul]
  omega

theorem run_bindRows (columns : List String) (rows : List Members) (values : List Parameter) :
    (rows.mapM (bindRow columns)).run values =
      pure ((numbering columns.length values.length rows.length).map tuple,
        values ++ rows.flatMap (bound columns)) := by
  induction rows generalizing values with
  | nil => simp [numbering]
  | cons row rows ih =>
      rw [List.mapM_cons, StateT.run_bind, run_bindRow]
      simp [ih, numbering_succ, bound]

/-- The text of an insert of so many rows; nothing that the rows hold is in it. -/
def insertText (table : String) (columns : List String) (count : Nat) (tail : String) : String :=
  let names := Text.join ", " (columns.map quoted)
  let tuples := Text.join ", " ((numbering columns.length 0 count).map tuple)
  let clause := if tail = "" then "" else " " ++ tail
  s!"INSERT INTO {table} ({names}) VALUES {tuples}{clause}"

theorem insert_of_ne_nil {rows : List Members} (nonempty : rows ≠ []) (table : String)
    (columns : List String) (tail : String) :
    insert table columns rows tail = .ok {
      text := insertText table columns rows.length tail
      values := rows.flatMap (bound columns) } := by
  have run := run_bindRows columns rows []
  rw [insert, if_neg (by simpa using nonempty), run]
  rfl

/-!
## Inserting a row
-/

/-- Whether a name stands in double quotes as it is, in a list of names. -/
def isPlain (name : String) : Bool :=
  name.toList.all fun char => !List.contains ['"', ',', ')'] char

theorem not_mem_of_isPlain {name : String} (plain : isPlain name) {char : Char}
    (special : List.contains ['"', ',', ')'] char) : char ∉ name.toList := by
  intro member
  have other := List.all_eq_true.mp plain char member
  rw [special] at other
  cases other

theorem isItem_of_isPlain {name : String} (plain : isPlain name) :
    IsItem (quoted name).toList := by
  have comma : ',' ∉ name.toList := not_mem_of_isPlain plain rfl
  have parenthesis : ')' ∉ name.toList := not_mem_of_isPlain plain rfl
  constructor <;> simp [quoted, toString, String.toList_append, comma, parenthesis]

theorem toList_mark (place : Nat) : (mark place).toList = '$' :: (toString place).toList := by
  simp [mark, toString, String.toList_append]

theorem isItem_mark (place : Nat) : IsItem (mark place).toList := by
  have digits := (Number.inDigits_toString place).digits
  have other : ∀ char : Char, ¬ ('0' ≤ char ∧ char ≤ '9') → char ≠ '$' →
      char ∉ (mark place).toList := by
    intro char outside dollar member
    rw [toList_mark] at member
    rcases List.mem_cons.mp member with same | later
    · exact dollar same
    · exact outside (digits char later)
  constructor
  case comma => exact other ',' (by decide) (by decide)
  case parenthesis => exact other ')' (by decide) (by decide)
  case blank => simp [toList_mark]

theorem valueOf?_mark (statement : Statement) (place : Nat) :
    statement.valueOf? (mark (place + 1)).toList = statement.values[place]? := by
  rw [Statement.valueOf?, toList_mark, place?_mark]

theorem mapM_of_forall₂ {α β : Type} {answer? : α → Option β} {questions : List α}
    {answers : List β}
    (each : List.Forall₂ (fun question answer => answer? question = some answer) questions answers) :
    questions.mapM answer? = some answers := by
  induction each with
  | nil => rfl
  | cons here _ ih =>
      rw [List.mapM_cons, here, ih]
      rfl

theorem unquoted?_columns {columns : List String} (plain : ∀ column ∈ columns, isPlain column) :
    (columns.map fun column => (quoted column).toList).mapM unquoted? = some columns :=
  mapM_of_forall₂ (List.forall₂_map_left_iff.mpr (List.forall₂_same.mpr fun column member =>
    unquoted?_quoted (not_mem_of_isPlain (plain column member) rfl)))

theorem valueOf?_marks (statement : Statement) :
    ((List.range statement.values.length).map fun place => (mark (place + 1)).toList).mapM
      statement.valueOf? = some statement.values := by
  refine mapM_of_forall₂ (List.forall₂_iff_get.mpr ⟨by simp, fun place _ inside => ?_⟩)
  rw [List.get_eq_getElem, List.getElem_map, List.getElem_range, valueOf?_mark]
  exact List.getElem?_eq_getElem inside

theorem toList_tuple (places : List Nat) :
    (tuple places).toList =
      '(' :: ([',', ' '].intercalate (places.map fun place => (mark place).toList) ++ [')']) := by
  simp [tuple, Text.join, String.toList_append, String.toList_intercalate, Function.comp_def]

theorem toList_insertText (table : String) (columns : List String) (count : Nat) (tail : String) :
    (insertText table columns count tail).toList =
      "INSERT INTO ".toList ++ (table.toList ++ ' ' ::
        ('(' :: ([',', ' '].intercalate (columns.map fun column => (quoted column).toList) ++
        ')' :: (" VALUES ".toList ++ ([',', ' '].intercalate
          ((numbering columns.length 0 count).map fun places => (tuple places).toList) ++
          (if tail = "" then "" else " " ++ tail).toList))))) := by
  unfold insertText Text.join
  simp only [toString, String.toList_append, String.toList_intercalate, List.map_map,
    Function.comp_def, List.append_assoc]
  rfl

theorem insert_row {table : String} {columns : List String} {row : Members} {tail : String}
    {statement : Statement} (made : insert table columns [row] tail = .ok statement) :
    statement.values = bound columns row ∧ ∃ rest, statement.text.toList =
      s!"INSERT INTO {table} ".toList ++
        '(' :: ([',', ' '].intercalate (columns.map fun column => (quoted column).toList) ++
        ')' :: (" VALUES ".toList ++
        '(' :: ([',', ' '].intercalate
          ((List.range columns.length).map fun place => (mark (place + 1)).toList) ++
        ')' :: rest))) := by
  rw [insert_of_ne_nil (List.cons_ne_nil _ _)] at made
  cases made
  have places : numbering columns.length 0 1 = [(List.range columns.length).map (· + 1)] := by
    simp [numbering]
  have opening : s!"INSERT INTO {table} ".toList =
      "INSERT INTO ".toList ++ (table.toList ++ [' ']) := by
    simp [toString, String.toList_append]
  refine ⟨List.append_nil _, (if tail = "" then "" else " " ++ tail).toList, ?_⟩
  dsimp only [List.length_singleton]
  rw [toList_insertText, places, List.map_singleton, List.intercalate_singleton, toList_tuple,
    List.map_map, opening]
  simp only [Function.comp_def, List.append_assoc, List.cons_append, List.nil_append]

/-- The insert of a row binds to each column what the row has there. -/
theorem bindings?_of_insert {table : String} {columns : List String} {row : Members}
    {tail : String} {statement : Statement} (nonempty : columns ≠ [])
    (plain : ∀ column ∈ columns, isPlain column)
    (made : insert table columns [row] tail = .ok statement) :
    statement.bindings? table = some (columns.zip (bound columns row)) := by
  obtain ⟨values, rest, text⟩ := insert_row made
  have width : columns.length = statement.values.length := by rw [values]; simp [bound]
  have names : ∀ part ∈ columns.map fun column => (quoted column).toList, IsItem part := by
    intro part member
    obtain ⟨column, stands, rfl⟩ := List.mem_map.mp member
    exact isItem_of_isPlain (plain column stands)
  have marks : ∀ part ∈ (List.range columns.length).map fun place => (mark (place + 1)).toList,
      IsItem part := by
    intro part member
    obtain ⟨place, _, rfl⟩ := List.mem_map.mp member
    exact isItem_mark _
  have first := items?_intercalate (by simpa using nonempty) names
  have second := items?_intercalate (by simpa using nonempty) marks rest
  rw [Statement.bindings?, text, dropPrefix?_append]
  simp only [Option.bind_eq_bind, Option.bind_some, first, dropPrefix?_append, second]
  rw [unquoted?_columns plain, width, valueOf?_marks, ← values]
  simp [width]

end RollCall.Sql
