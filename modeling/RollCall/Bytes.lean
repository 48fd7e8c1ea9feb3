/-!
# Byte strings

Payloads are byte strings. They are lists, so that every codec is a function by recursion on its
input.
-/

set_option autoImplicit false

namespace RollCall

/-- A payload. -/
abbrev Bytes := List UInt8

def units16 (text : String) : List Nat :=
  text.toList.flatMap fun char =>
    if char.toNat < 0x10000 then [char.toNat]
    else
      let beyond := char.toNat - 0x10000
      [0xD800 + beyond / 0x400, 0xDC00 + beyond % 0x400]

/-- A text as lenient readers see it, which take the low byte of each UTF-16 unit for a character.
Texts of characters below 256 stay as they are. -/
def narrowed (text : String) : List Char :=
  (units16 text).map fun unit => Char.ofNat (unit % 256)

end RollCall
