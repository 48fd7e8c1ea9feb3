import RollCall.Url.Escape
import RollCall.Url.Label

/-!
# Hosts

A host is a name or a number of 32 or 128 bits. Each is read from any of its spellings and written
in one.
-/

set_option autoImplicit false

namespace RollCall.Url

inductive Host where
  | name (text : String)
  /-- Four bytes. -/
  | short (address : Nat)
  /-- Eight pieces of two bytes. -/
  | long (pieces : List Nat)
deriving DecidableEq, Repr

/-!
## Four bytes
-/

/-- A number in some base; nothing at all is zero. -/
private def numberIn (base : Nat) (digits : List Char) : Option Nat :=
  digits.foldl (fun total char => do
    let value ← Hex.value? char
    if value < base then return base * (← total) + value else none) (some 0)

/-- One part of an address: hexadecimal behind `0x`, octal behind `0`, else decimal. -/
def shortPart? : List Char → Option Nat
  | [] => none
  | '0' :: 'x' :: digits => numberIn 16 digits
  | '0' :: 'X' :: digits => numberIn 16 digits
  | '0' :: digit :: digits => numberIn 8 (digit :: digits)
  | digits => numberIn 10 digits

/-- The parts of a host between points, without an empty one at the end. -/
def hostParts (host : List Char) : List (List Char) :=
  let parts := Text.split (· == '.') host
  if 1 < parts.length ∧ parts.getLast? = some [] then parts.dropLast else parts

/-- Whether a host can only be meant as four bytes: its last part is a number. -/
def endsInNumber (host : List Char) : Bool :=
  match (hostParts host).getLast? with
  | some last => Text.isDigits last || (shortPart? last).isSome
  | none => false

/-- The address of four bytes: each part but the last is a byte, the last one all that is left. -/
def short? (host : List Char) : Option Nat := do
  let parts ← (hostParts host).mapM shortPart?
  let last ← parts.getLast?
  let front := parts.dropLast
  if 4 < parts.length ∨ front.any (255 < ·) ∨ Nat.pow 256 (5 - parts.length) ≤ last then none
  else
    let places := (List.range front.length).zip front
    return places.foldl (fun total part => total + part.2 * Nat.pow 256 (3 - part.1)) last

/-- Four bytes in decimal. -/
def writeShort (address : Nat) : String :=
  Text.join "." ([3, 2, 1, 0].map fun place => toString (address / Nat.pow 256 place % 256))

/-!
## Sixteen bytes
-/

/-- A piece of up to four hexadecimal digits. -/
def piece? (digits : List Char) : Option Nat :=
  if digits.isEmpty ∨ 4 < digits.length then none else numberIn 16 digits

/-- A decimal byte without a needless zero in front. -/
def decimalByte? (digits : List Char) : Option Nat :=
  if !Text.isDigits digits ∨ 3 < digits.length ∨ (1 < digits.length ∧ digits.head? = some '0')
  then none
  else
    let value := Number.digitsValue digits
    if value ≤ 255 then some value else none

/-- The pieces of a run between colons; the last may be four bytes in decimal. -/
def pieces? : List (List Char) → Option (List Nat)
  | [] => some []
  | [last] =>
      if last.contains '.' then
        match (Text.split (· == '.') last).mapM decimalByte? with
        | some [first, second, third, fourth] =>
            some [256 * first + second, 256 * third + fourth]
        | _ => none
      else (piece? last).map ([·])
  | first :: rest => do return (← piece? first) :: (← pieces? rest)

/-- A run between colons; nothing at all has no pieces. -/
def run? (text : List Char) : Option (List Nat) :=
  if text.isEmpty then some [] else pieces? (Text.split (· == ':') text)

/-- A text cut at the first pair of colons, without it. -/
def cutGap : List Char → Option (List Char × List Char)
  | ':' :: ':' :: rest => some ([], rest)
  | char :: rest => (cutGap rest).map fun parts => (char :: parts.1, parts.2)
  | [] => none

/-- The address of sixteen bytes; a pair of colons stands for one or more pieces of zero. -/
def long? (text : List Char) : Option (List Nat) :=
  match cutGap text with
  | none => do
      let pieces ← run? text
      if pieces.length = 8 then some pieces else none
  | some (front, back) => do
      if front.contains '.' then none
      let before ← run? front
      let after ← run? back
      if before.length + after.length ≤ 7 then
        some (before ++ List.replicate (8 - before.length - after.length) 0 ++ after)
      else none

/-- The lengths of the runs of zeros that start at each place. -/
def zeroRuns : List Nat → List Nat
  | [] => []
  | piece :: rest =>
      let runs := zeroRuns rest
      (if piece = 0 then 1 + runs.headD 0 else 0) :: runs

/-- Sixteen bytes in hexadecimal; the first longest run of two zeros or more is left out. -/
def writeLong (pieces : List Nat) : String :=
  let written (pieces : List Nat) := Text.join ":" (pieces.map fun piece =>
    String.ofList (Nat.toDigits 16 piece))
  let runs := zeroRuns pieces
  let longest := runs.foldl max 0
  if longest < 2 then written pieces
  else
    let start := runs.idxOf longest
    written (pieces.take start) ++ "::" ++ written (pieces.drop (start + longest))

/-!
## Names
-/

/-- The characters that no host holds. -/
def forbiddenInHost (char : Char) : Bool :=
  char == '\x00' || "\t\n\r #/:<>?@[\\]^|".toList.contains char

/-- The characters that no name of a machine holds. -/
def forbiddenInName (char : Char) : Bool :=
  forbiddenInHost char || char.toNat < 0x20 || char == '%' || char.toNat == 0x7F

/-- A host of an address whose scheme has an authority. -/
def Host.read? (text : List Char) : Option Host :=
  match text with
  | '[' :: rest =>
      if rest.getLast? = some ']' then (long? rest.dropLast).map .long else none
  | _ =>
      match writeName? (Utf8.decode (unescape text)).toList with
      | none => none
      | some chars =>
          if chars.isEmpty ∨ chars.any forbiddenInName then none
          else if endsInNumber chars then (short? chars).map .short
          else some (.name (String.ofList chars))

/-- A host of any other address: all but a few characters, escaped. -/
def Host.readForeign? (text : List Char) : Option Host :=
  match text with
  | '[' :: rest =>
      if rest.getLast? = some ']' then (long? rest.dropLast).map .long else none
  | _ =>
      if text.any forbiddenInHost then none
      else some (.name (String.ofList (escape escapedAnywhere text)))

def Host.text : Host → String
  | name text => text
  | short address => writeShort address
  | long pieces => "[" ++ writeLong pieces ++ "]"

end RollCall.Url
