import RollCall.Bytes

/-!
# Base64

Writing pads. `isStrict` recognises exactly padded text; `decode` is lenient: it also reads the
URL-safe alphabet, skips every other character, stops at the first padding character and drops a
sextet that is left alone. Of a character beyond the first 256 it sees the low bytes only.
-/

set_option autoImplicit false

namespace RollCall.Base64

def symbol (value : Nat) : Char :=
  if value < 26 then Char.ofNat (65 + value)
  else if value < 52 then Char.ofNat (71 + value)
  else if value < 62 then Char.ofNat (value - 4)
  else if value = 62 then '+'
  else '/'

/-- The value of a character of the standard alphabet. -/
def standardValue? (char : Char) : Option Nat :=
  if 'A' ≤ char ∧ char ≤ 'Z' then some (char.toNat - 65)
  else if 'a' ≤ char ∧ char ≤ 'z' then some (char.toNat - 71)
  else if '0' ≤ char ∧ char ≤ '9' then some (char.toNat + 4)
  else if char = '+' then some 62
  else if char = '/' then some 63
  else none

/-- The value of a character of the standard or the URL-safe alphabet. -/
def value? (char : Char) : Option Nat :=
  if char = '-' then some 62
  else if char = '_' then some 63
  else standardValue? char

/-- Three bytes to four characters; the last one or two bytes are padded. -/
def encodeChars : Bytes → List Char
  | [] => []
  | [first] => [symbol (first.toNat / 4), symbol (first.toNat % 4 * 16), '=', '=']
  | [first, second] =>
      [symbol (first.toNat / 4), symbol (first.toNat % 4 * 16 + second.toNat / 16),
        symbol (second.toNat % 16 * 4), '=']
  | first :: second :: third :: rest =>
      symbol (first.toNat / 4) :: symbol (first.toNat % 4 * 16 + second.toNat / 16) ::
        symbol (second.toNat % 16 * 4 + third.toNat / 64) :: symbol (third.toNat % 64) ::
        encodeChars rest

/-- Standard padded base64. -/
def encode (bytes : Bytes) : String :=
  String.ofList (encodeChars bytes)

/-- Four sextets to three bytes; three left over give two bytes, two give one, one gives none. -/
def joinSextets : List Nat → Bytes
  | first :: second :: third :: fourth :: rest =>
      UInt8.ofNat (first * 4 + second / 16) :: UInt8.ofNat (second % 16 * 16 + third / 4) ::
        UInt8.ofNat (third % 4 * 64 + fourth) :: joinSextets rest
  | [first, second, third] =>
      [UInt8.ofNat (first * 4 + second / 16), UInt8.ofNat (second % 16 * 16 + third / 4)]
  | [first, second] => [UInt8.ofNat (first * 4 + second / 16)]
  | _ => []

/-- Lenient reading. -/
def decode (text : String) : Bytes :=
  joinSextets (((narrowed text).takeWhile (· != '=')).filterMap value?)

/-- Whether a text is characters of the standard alphabet, then at most two padding characters,
with a length that is a multiple of four. -/
def isStrict (text : String) : Bool :=
  let chars := text.toList
  let padding := chars.dropWhile fun char => (standardValue? char).isSome
  chars.length % 4 == 0 && (padding == [] || padding == ['='] || padding == ['=', '='])

end RollCall.Base64
