import RollCall.Bytes.Base64
import RollCall.Bytes.Hex
import RollCall.Value

/-!
# Writing JSON

Values are written on one line or indented. Byte strings become texts in base64, and numbers that
are not finite become null.
-/

set_option autoImplicit false

namespace RollCall.Json

/-- A character inside a string: quotes, backslashes and control characters are escaped. -/
def escapeChar (char : Char) : List Char :=
  if char = '"' then ['\\', '"']
  else if char = '\\' then ['\\', '\\']
  else if char = '\n' then ['\\', 'n']
  else if char = '\r' then ['\\', 'r']
  else if char = '\t' then ['\\', 't']
  else if char.toNat = 8 then ['\\', 'b']
  else if char.toNat = 12 then ['\\', 'f']
  else if char.toNat < 0x20 then
    ['\\', 'u', '0', '0', Hex.digit (char.toNat / 16), Hex.digit (char.toNat % 16)]
  else [char]

def quote (text : String) : String :=
  String.ofList ('"' :: (text.toList.flatMap escapeChar ++ ['"']))

/-- How a document is broken into lines: the indentation of one level, and nothing at all for a
document on one line. -/
structure Style where
  indent : Option String

/-- One line, no blanks. -/
def compact : Style := ⟨none⟩

/-- Two blanks per level. -/
def indented : Style := ⟨some "  "⟩

/-- Parts between brackets. `margin` is the indentation of the brackets. -/
def Style.enclose (style : Style) (margin opening closing : String) (parts : List String) :
    String :=
  if parts.isEmpty then opening ++ closing
  else
    match style.indent with
    | none => opening ++ String.intercalate "," parts ++ closing
    | some indent =>
        let line := "\n" ++ margin ++ indent
        opening ++ line ++ String.intercalate ("," ++ line) parts ++ "\n" ++ margin ++ closing

def Style.deeper (style : Style) (margin : String) : String :=
  margin ++ style.indent.getD ""

/-- A member: its name, and the text of its value. -/
def Style.writeMember (style : Style) (name value : String) : String :=
  quote name ++ (if style.indent.isSome then ": " else ":") ++ value

mutual

/-- A value at a margin. -/
def write (style : Style) (margin : String) : Value → String
  | .null => "null"
  | .flag value => if value then "true" else "false"
  | .number value => if value.isFinite then value.text else "null"
  | .text value => quote value
  | .bytes value => quote (Base64.encode value)
  | .list items => style.enclose margin "[" "]" (writeItems style (style.deeper margin) items)
  | .record members =>
      style.enclose margin "\x7b" "\x7d" (writeMembers style (style.deeper margin) members)

def writeItems (style : Style) (margin : String) : List Value → List String
  | [] => []
  | item :: rest => write style margin item :: writeItems style margin rest

def writeMembers (style : Style) (margin : String) : List (String × Value) → List String
  | [] => []
  | (name, value) :: rest =>
      style.writeMember name (write style margin value) :: writeMembers style margin rest

end

/-- A value on one line. -/
def print (value : Value) : String :=
  write compact "" value

/-- A value over several lines. -/
def printIndented (value : Value) : String :=
  write indented "" value

end RollCall.Json
