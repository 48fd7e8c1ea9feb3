import RollCall.Bytes

/-!
# UTF-8

Reading never fails: each maximal piece of a sequence that cannot become a character is read as one
replacement character, and a byte order mark is a character like any other.
-/

set_option autoImplicit false

namespace RollCall.Utf8

def encode (text : String) : Bytes :=
  text.toList.flatMap String.utf8EncodeChar

/-- The character that stands for a piece that is not UTF-8. -/
def replacement : Char := '\uFFFD'

/-- A character under way: its bits so far, how many bytes it still needs, and the bounds of the
next one. -/
structure Pending where
  bits : Nat
  needed : Nat
  low : Nat
  high : Nat
deriving DecidableEq, Repr

/-- What a first byte begins: a whole character, a longer one, or neither. -/
def begin (byte : UInt8) : List Char × Option Pending :=
  let value := byte.toNat
  if value < 0x80 then ([Char.ofNat value], none)
  else if 0xC2 ≤ value ∧ value ≤ 0xDF then ([], some ⟨value - 0xC0, 1, 0x80, 0xBF⟩)
  else if 0xE0 ≤ value ∧ value ≤ 0xEF then
    let low := if value = 0xE0 then 0xA0 else 0x80
    let high := if value = 0xED then 0x9F else 0xBF
    ([], some ⟨value - 0xE0, 2, low, high⟩)
  else if 0xF0 ≤ value ∧ value ≤ 0xF4 then
    let low := if value = 0xF0 then 0x90 else 0x80
    let high := if value = 0xF4 then 0x8F else 0xBF
    ([], some ⟨value - 0xF0, 3, low, high⟩)
  else ([replacement], none)

/-- One byte: the characters that it completes, and the character that is then under way. A byte
that cannot continue the character under way ends it and begins anew. -/
def step (pending : Option Pending) (byte : UInt8) : List Char × Option Pending :=
  match pending with
  | none => begin byte
  | some under =>
      if under.low ≤ byte.toNat ∧ byte.toNat ≤ under.high then
        let bits := under.bits * 64 + byte.toNat % 64
        if under.needed ≤ 1 then ([Char.ofNat bits], none)
        else ([], some ⟨bits, under.needed - 1, 0x80, 0xBF⟩)
      else
        let (chars, next) := begin byte
        (replacement :: chars, next)

/-- The characters of the bytes that follow a given state. -/
def decodeFrom (pending : Option Pending) : Bytes → List Char
  | [] => if pending.isSome then [replacement] else []
  | byte :: rest =>
      let (chars, next) := step pending byte
      chars ++ decodeFrom next rest

def decode (bytes : Bytes) : String :=
  String.ofList (decodeFrom none bytes)

end RollCall.Utf8
