import RollCall.Number.Decimal
import RollCall.Bytes.Hex
import RollCall.Value

/-!
# Reading JSON

A reader for exactly the grammar of JSON: no byte order mark, no blanks but four, no leading
zeros. Numbers become binary64 numbers, and of two members of one name the last one counts.
-/

set_option autoImplicit false

namespace RollCall.Json

def isBlank (char : Char) : Bool :=
  char == ' ' || char == '\t' || char == '\n' || char == '\r'

/-- A text from its first character that is no blank. -/
def skipBlanks (text : List Char) : List Char :=
  text.dropWhile isBlank

/-!
## Numbers
-/

/-- The whole part of a number: a zero alone, or digits that do not start with one. -/
def takeWhole (text : List Char) : List Char × List Char :=
  match text with
  | '0' :: rest => (['0'], rest)
  | _ => Number.takeDigits text

/-- A number in front of a text, and what follows it. -/
def takeNumber (text : List Char) : Option (Number × List Char) :=
  let (negative, unsigned) :=
    match text with
    | '-' :: rest => (true, rest)
    | _ => (false, text)
  let (whole, afterWhole) := takeWhole unsigned
  if whole.isEmpty then none
  else
    let (fraction, afterFraction) := Number.takeFraction afterWhole
    let (exponent, rest) := Number.takeExponent afterFraction
    some (Number.ofParts negative whole fraction exponent, rest)

/-!
## Strings

A string is first read as a list of codes, in which an escape may be half of a surrogate pair.
-/

/-- The code of a one-character escape. -/
def escapeCode? : Char → Option Nat
  | '"' => some 0x22
  | '\\' => some 0x5C
  | '/' => some 0x2F
  | 'b' => some 8
  | 'f' => some 12
  | 'n' => some 10
  | 'r' => some 13
  | 't' => some 9
  | _ => none

/-- The code of four hexadecimal digits. -/
def unitCode? (first second third fourth : Char) : Option Nat :=
  match Hex.value? first, Hex.value? second, Hex.value? third, Hex.value? fourth with
  | some first, some second, some third, some fourth =>
      some (((first * 16 + second) * 16 + third) * 16 + fourth)
  | _, _, _, _ => none

/-- The codes up to the closing quote, and what follows it. -/
def takeCodes : List Char → Option (List Nat × List Char)
  | [] => none
  | '"' :: rest => some ([], rest)
  | '\\' :: 'u' :: first :: second :: third :: fourth :: rest =>
      match unitCode? first second third fourth, takeCodes rest with
      | some code, some (codes, following) => some (code :: codes, following)
      | _, _ => none
  | '\\' :: char :: rest =>
      match escapeCode? char, takeCodes rest with
      | some code, some (codes, following) => some (code :: codes, following)
      | _, _ => none
  | char :: rest =>
      if char = '\\' ∨ char.toNat < 0x20 then none
      else
        match takeCodes rest with
        | some (codes, following) => some (char.toNat :: codes, following)
        | none => none

/-- The character of a code; half of a pair alone is a replacement character. -/
def codeChar (code : Nat) : Char :=
  if 0xD800 ≤ code ∧ code < 0xE000 then '\uFFFD' else Char.ofNat code

/-- The characters of a list of codes, surrogate pairs joined. -/
def joinCodes : List Nat → List Char
  | high :: low :: rest =>
      if 0xD800 ≤ high ∧ high < 0xDC00 ∧ 0xDC00 ≤ low ∧ low < 0xE000 then
        Char.ofNat (0x10000 + (high - 0xD800) * 0x400 + (low - 0xDC00)) :: joinCodes rest
      else codeChar high :: joinCodes (low :: rest)
  | [code] => [codeChar code]
  | [] => []

def takeString (text : List Char) : Option (String × List Char) :=
  (takeCodes text).map fun (codes, rest) => (String.ofList (joinCodes codes), rest)

/-!
## Values
-/

mutual

/-- A value in front of a text, and what follows it. -/
def takeValue : Nat → List Char → Option (Value × List Char)
  | 0, _ => none
  | fuel + 1, text =>
      match skipBlanks text with
      | 'n' :: 'u' :: 'l' :: 'l' :: rest => some (.null, rest)
      | 't' :: 'r' :: 'u' :: 'e' :: rest => some (.flag true, rest)
      | 'f' :: 'a' :: 'l' :: 's' :: 'e' :: rest => some (.flag false, rest)
      | '"' :: rest => (takeString rest).map fun (text, rest) => (.text text, rest)
      | '[' :: rest =>
          match skipBlanks rest with
          | ']' :: rest => some (.list [], rest)
          | rest => (takeItems fuel rest).map fun (items, rest) => (.list items, rest)
      | '{' :: rest =>
          match skipBlanks rest with
          | '}' :: rest => some (.record [], rest)
          | rest =>
              (takeMembers fuel rest).map fun (members, rest) => (.ofMembers members, rest)
      | text => (takeNumber text).map fun (number, rest) => (.number number, rest)

/-- The items of a list up to its closing bracket, and what follows it. -/
def takeItems : Nat → List Char → Option (List Value × List Char)
  | 0, _ => none
  | fuel + 1, text =>
      match takeValue fuel text with
      | none => none
      | some (item, rest) =>
          match skipBlanks rest with
          | ']' :: rest => some ([item], rest)
          | ',' :: rest =>
              match takeItems fuel rest with
              | some (items, rest) => some (item :: items, rest)
              | none => none
          | _ => none

/-- The members of a record up to its closing brace, and what follows it. -/
def takeMembers : Nat → List Char → Option (Members × List Char)
  | 0, _ => none
  | fuel + 1, text =>
      match skipBlanks text with
      | '"' :: rest =>
          match takeString rest with
          | none => none
          | some (name, rest) =>
              match skipBlanks rest with
              | ':' :: rest =>
                  match takeValue fuel rest with
                  | none => none
                  | some (value, rest) =>
                      match skipBlanks rest with
                      | '}' :: rest => some ([(name, value)], rest)
                      | ',' :: rest =>
                          match takeMembers fuel rest with
                          | some (members, rest) => some ((name, value) :: members, rest)
                          | none => none
                      | _ => none
              | _ => none
      | _ => none

end

/-- The value of a text that is one JSON value with nothing but blanks around it. Every level of
nesting and every item takes a character, so the fuel lasts. -/
def parse? (text : String) : Option Value :=
  let chars := text.toList
  match takeValue (2 * chars.length + 2) chars with
  | some (value, rest) => if (skipBlanks rest).isEmpty then some value else none
  | none => none

end RollCall.Json
