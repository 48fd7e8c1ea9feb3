import RollCall.Proofs.Inserts

/-!
# The tokens of a statement

Before anything in a statement has a meaning, a database takes it apart: names in double quotes,
literals in single quotes, in both of which a doubled quote stands for one, placeholders, and all other
characters one by one. What is written in quotes and holds none of them is one token, whatever it says
and wherever it stands.
-/

set_option autoImplicit false

namespace RollCall.Sql

inductive Token where
  | name (name : String)
  | literal (text : String)
  | place (number : Nat)
  | char (char : Char)
deriving DecidableEq, Repr

inductive Quote where
  | double
  | single
deriving DecidableEq, Repr

namespace Quote

def mark : Quote → Char
  | double => '"'
  | single => '\''

def of? (char : Char) : Option Quote :=
  if char = '"' then some double else if char = '\'' then some single else none

/-- The token that stands in quotes. -/
def token (quote : Quote) (read : List Char) : Token :=
  match quote with
  | double => .name (String.ofList read)
  | single => .literal (String.ofList read)

theorem of?_mark (quote : Quote) : of? quote.mark = some quote := by
  cases quote <;> rfl

end Quote

/-- The token under way, if there is one. -/
inductive Reading where
  | outside
  | inside (quote : Quote) (read : List Char)
  /-- Behind a quote that ends the token unless it is doubled. -/
  | closing (quote : Quote) (read : List Char)
  | counting (digits : List Char)

namespace Reading

/-- A dollar sign that no digit follows is a character like others. -/
def counted (digits : List Char) : Token :=
  if digits.isEmpty then .char '$' else .place (Number.digitsValue digits)

/-- What is read where the statement ends; it cannot end within quotes. -/
def finish : Reading → Option (List Token)
  | outside => some []
  | inside _ _ => none
  | closing quote read => some [quote.token read]
  | counting digits => some [counted digits]

def begin (char : Char) : List Token × Reading :=
  match Quote.of? char with
  | some quote => ([], inside quote [])
  | none => if char = '$' then ([], counting []) else ([.char char], outside)

/-- The tokens that a character completes, and the one that is under way then. -/
def step : Reading → Char → List Token × Reading
  | outside, char => begin char
  | inside quote read, char =>
      if char = quote.mark then ([], closing quote read) else ([], inside quote (read ++ [char]))
  | closing quote read, char =>
      if char = quote.mark then ([], inside quote (read ++ [char]))
      else (quote.token read :: (begin char).1, (begin char).2)
  | counting digits, char =>
      if Number.isDigit char then ([], counting (digits ++ [char]))
      else (counted digits :: (begin char).1, (begin char).2)

def tokens? (reading : Reading) : List Char → Option (List Token)
  | [] => reading.finish
  | char :: rest => ((reading.step char).2.tokens? rest).map ((reading.step char).1 ++ ·)

end Reading

/-- The tokens of a text, if no quote in it is left open. -/
def tokens? (text : List Char) : Option (List Token) :=
  Reading.outside.tokens? text

/-- Characters that are a token each. -/
def chars (text : String) : List Token :=
  text.toList.map .char

example : tokens? "\"a\"\"b\".c = '$1' AND $12".toList =
    some ([.name "a\"b"] ++ chars ".c = " ++ [.literal "$1"] ++ chars " AND " ++ [.place 12]) := by
  decide +kernel

/-!
## Texts put together
-/

/-- Whether a character neither goes on with a token nor begins one of several. -/
def separates (char : Char) : Bool :=
  (Quote.of? char).isNone && char != '$' && !Number.isDigit char

theorem Reading.step_of_separates {reading : Reading} {tokens : List Token} {char : Char}
    (ends : reading.finish = some tokens) (apart : separates char) :
    reading.step char = (tokens ++ [.char char], .outside) := by
  simp only [separates, Bool.and_eq_true, Option.isNone_iff_eq_none, Bool.not_eq_true',
    bne_iff_ne] at apart
  obtain ⟨⟨unquoted, plain⟩, noDigit⟩ := apart
  have fresh : begin char = ([.char char], .outside) := by simp [begin, unquoted, plain]
  cases reading with
  | outside =>
      cases ends
      exact fresh
  | inside => cases ends
  | closing quote read =>
      cases ends
      have other : char ≠ quote.mark := by
        rintro rfl
        cases quote.of?_mark.symm.trans unquoted
      rw [step, if_neg other, fresh]
      rfl
  | counting digits =>
      cases ends
      rw [step, if_neg (Bool.not_eq_true _ ▸ noDigit), fresh]
      rfl

/-- Behind a character that separates, a text is read by itself. -/
theorem Reading.tokens?_append_cons {reading : Reading} {front : List Char} {tokens : List Token}
    (read : reading.tokens? front = some tokens) {char : Char} (apart : separates char)
    (back : List Char) :
    reading.tokens? (front ++ char :: back) =
      (Sql.tokens? back).map (tokens ++ .char char :: ·) := by
  induction front generalizing reading tokens with
  | nil =>
      rw [List.nil_append, tokens?, step_of_separates read apart]
      simp [Sql.tokens?]
  | cons first front ih =>
      obtain ⟨others, read', rfl⟩ := Option.map_eq_some_iff.mp read
      rw [List.cons_append, tokens?, ih read', Option.map_map]
      simp [Function.comp_def]

theorem tokens?_append_cons {front : List Char} {tokens : List Token}
    (read : tokens? front = some tokens) {char : Char} (apart : separates char)
    (back : List Char) :
    tokens? (front ++ char :: back) = (tokens? back).map (tokens ++ .char char :: ·) :=
  Reading.tokens?_append_cons read apart back

theorem tokens?_cons {char : Char} (apart : separates char) (back : List Char) :
    tokens? (char :: back) = (tokens? back).map (.char char :: ·) :=
  @tokens?_append_cons [] [] rfl char apart back

/-- Whether all that stands in a text are characters that are a token each. -/
def isBare (text : List Char) : Bool :=
  text.all fun char => (Quote.of? char).isNone && char != '$'

theorem tokens?_bare_append {text : List Char} (bare : isBare text) (back : List Char) :
    tokens? (text ++ back) = (tokens? back).map (text.map .char ++ ·) := by
  rw [isBare, List.all_eq_true] at bare
  induction text with
  | nil => simp
  | cons char rest ih =>
      have here := bare char List.mem_cons_self
      simp only [Bool.and_eq_true, Option.isNone_iff_eq_none, bne_iff_ne] at here
      have fresh : Reading.begin char = ([.char char], .outside) := by
        simp [Reading.begin, here.1, here.2]
      have others := ih fun other member => bare other (List.mem_cons_of_mem _ member)
      rw [tokens?] at others
      rw [List.cons_append, tokens?, Reading.tokens?, Reading.step, fresh, others, Option.map_map]
      rfl

theorem tokens?_bare {text : List Char} (bare : isBare text) :
    tokens? text = some (text.map .char) := by
  simpa [tokens?, Reading.tokens?, Reading.finish] using tokens?_bare_append bare []

/-!
## Single tokens
-/

theorem tokens?_inside (quote : Quote) {text : List Char} (plain : quote.mark ∉ text)
    (read : List Char) :
    (Reading.inside quote read).tokens? (text ++ [quote.mark]) =
      some [quote.token (read ++ text)] := by
  induction text generalizing read with
  | nil => simp [Reading.tokens?, Reading.step, Reading.finish]
  | cons char text ih =>
      rw [List.mem_cons, not_or] at plain
      have others := ih plain.2 (read ++ [char])
      rw [List.cons_append, Reading.tokens?, Reading.step, if_neg (Ne.symm plain.1), others]
      simp

/-- A name without quotes in it is one token between them. -/
theorem tokens?_quoted {name : String} (plain : '"' ∉ name.toList) :
    tokens? (quoted name).toList = some [.name name] := by
  have spelled : (quoted name).toList = '"' :: (name.toList ++ ['"']) := by
    simp [quoted, toString, String.toList_append]
  have read := tokens?_inside .double plain []
  rw [Quote.mark] at read
  rw [spelled, tokens?, Reading.tokens?]
  simp [Reading.step, Reading.begin, Quote.of?, read, Quote.token]

theorem tokens?_counting {more : List Char} (digits : ∀ char ∈ more, Number.isDigit char)
    (read : List Char) :
    (Reading.counting read).tokens? more = some [Reading.counted (read ++ more)] := by
  induction more generalizing read with
  | nil => simp [Reading.tokens?, Reading.finish]
  | cons char more ih =>
      have others := ih (fun other member => digits other (List.mem_cons_of_mem _ member))
        (read ++ [char])
      rw [Reading.tokens?, Reading.step, if_pos (digits char List.mem_cons_self), others]
      simp

theorem tokens?_mark (place : Nat) : tokens? (mark place).toList = some [.place place] := by
  have spelled := Number.inDigits_toString place
  have read := tokens?_counting
    (fun char member => Number.isDigit_iff.mpr (spelled.digits char member)) []
  have value : Number.digitsValue (toString place).toList = place := by
    rw [Number.digitsValue_eq spelled.digits, ← spelled.denoted]
  have some : (toString place).toList.isEmpty = false := by
    simp
  rw [List.nil_append, Reading.counted, some, value] at read
  rw [toList_mark, tokens?, Reading.tokens?]
  change ((Reading.counting []).tokens? _).map ([] ++ ·) = _
  rw [read]
  rfl

/-!
## Lists
-/

/-- Tokens with a comma and a blank between each two. -/
def listed (items : List (List Token)) : List Token :=
  (chars ", ").intercalate items

theorem tokens?_intercalate {first : Char} (apart : separates first) {others : List Char}
    (bare : isBare others) {parts : List (List Char)} {items : List (List Token)}
    (each : List.Forall₂ (fun part item => tokens? part = some item) parts items) :
    tokens? ((first :: others).intercalate parts) =
      some (((first :: others).map .char).intercalate items) := by
  induction each with
  | nil => rfl
  | @cons part item parts items read rest ih =>
      cases rest with
      | nil => simpa using read
      | cons _ _ =>
          rw [List.intercalate_cons_cons, List.append_assoc, List.cons_append,
            tokens?_append_cons read apart, tokens?_bare_append bare, ih]
          simp [List.intercalate_cons_cons]

theorem tokens?_listed {parts : List (List Char)} {items : List (List Token)}
    (each : List.Forall₂ (fun part item => tokens? part = some item) parts items) :
    tokens? ([',', ' '].intercalate parts) = some (listed items) :=
  tokens?_intercalate (by decide) (by decide) each

end RollCall.Sql
