import RollCall.Bytes

/-!
# Hexadecimal text

Writing is lower case. Strict reading takes an optional `0x` and then nothing but whole bytes;
lenient reading stops at the first pair that is no byte.
-/

set_option autoImplicit false

namespace RollCall.Hex

def digit (value : Nat) : Char :=
  if value < 10 then Char.ofNat (48 + value) else Char.ofNat (87 + value)

def value? (char : Char) : Option Nat :=
  if '0' ≤ char ∧ char ≤ '9' then some (char.toNat - 48)
  else if 'a' ≤ char ∧ char ≤ 'f' then some (char.toNat - 87)
  else if 'A' ≤ char ∧ char ≤ 'F' then some (char.toNat - 55)
  else none

/-- Two digits per byte, the high one first. -/
def encode (bytes : Bytes) : String :=
  String.ofList (bytes.flatMap fun byte => [digit (byte.toNat / 16), digit (byte.toNat % 16)])

def byte? (high low : Char) : Option UInt8 :=
  match value? high, value? low with
  | some high, some low => some (UInt8.ofNat (16 * high + low))
  | _, _ => none

/-- Digits read in pairs; refuses an odd number of them and any other character. -/
def decodeDigits : List Char → Option Bytes
  | [] => some []
  | [_] => none
  | high :: low :: rest =>
      match byte? high low, decodeDigits rest with
      | some byte, some bytes => some (byte :: bytes)
      | _, _ => none

/-- A text without one leading `0x` or `0X`. -/
def stripMarker : List Char → List Char
  | '0' :: 'x' :: rest => rest
  | '0' :: 'X' :: rest => rest
  | text => text

/-- Strict reading. -/
def decode? (text : String) : Option Bytes :=
  decodeDigits (stripMarker text.toList)

/-- The bytes before the first pair that is not two digits. -/
def decodeLeading : List Char → Bytes
  | high :: low :: rest =>
      match byte? high low with
      | some byte => byte :: decodeLeading rest
      | none => []
  | _ => []

end RollCall.Hex
