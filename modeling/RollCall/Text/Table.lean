import RollCall.Bytes.Hex
import RollCall.Text

/-!
# Tables of characters

What holds of which characters is written down as text: entries between blanks, each a run of code
points and a note on them. A run is one code point in hexadecimal, or the first and the last of
several, with a stride where not all between them belong to it. So `41-5A>20` notes `>20` of the
capital letters of ASCII, and `100-12E/2>1` notes `>1` of every other character from U+0100 on.
-/

set_option autoImplicit false

namespace RollCall.Text

/-- Every `stride`-th code point from `first` to `last`. -/
structure Run where
  first : Nat
  last : Nat
  stride : Nat
deriving DecidableEq, Repr

def hexNumber (digits : List Char) : Nat :=
  digits.foldl (fun total digit => 16 * total + (Hex.value? digit).getD 0) 0

namespace Run

def contains (run : Run) (code : Nat) : Bool :=
  run.first ≤ code && code ≤ run.last && (code - run.first) % run.stride == 0

/-- How many code points of a run come before one of it. -/
def place (run : Run) (code : Nat) : Nat :=
  (code - run.first) / run.stride

/-- The code points of a run, ascending. -/
def codes (run : Run) : List Nat :=
  (List.range (run.place run.last + 1)).map fun place => run.first + run.stride * place

def read (text : List Char) : Run :=
  let (bounds, stride) := cut '/' text
  let (first, last) := cut '-' bounds
  { first := hexNumber first
    last := hexNumber (last.getD first)
    stride := stride.elim 1 hexNumber }

end Run

/-- What is noted of each code point of a run. -/
structure Entry where
  run : Run
  note : List Char
deriving DecidableEq, Repr

def Entry.read (text : List Char) : Entry :=
  let inRun (char : Char) : Bool := (Hex.value? char).isSome || char == '-' || char == '/'
  { run := .read (text.takeWhile inRun), note := text.dropWhile inRun }

/-- Texts between commas, one for each code point of a run, or for all code points from some on if
there are fewer; each is written as code points between points. -/
def targets (note : List Char) : List (List Nat) :=
  (split (· == ',') note).map fun target => (split (· == '.') target).map hexNumber

/-- Entries; where two are of the same character the first counts. -/
abbrev Table := List Entry

namespace Table

def read (text : String) : Table :=
  ((split isBlank text.toList).filter (!·.isEmpty)).map Entry.read

def entry? (table : Table) (code : Nat) : Option Entry :=
  table.find? (·.run.contains code)

def has (table : Table) (char : Char) : Bool :=
  (table.entry? char.toNat).isSome

end Table

end RollCall.Text
