import RollCall.Bytes.Hex
import RollCall.Bytes.Utf8
import RollCall.Text

/-!
# Escaped characters

Each part of an address has characters that it cannot hold as they are. They are written as the
bytes of their UTF-8 form, each byte behind a percent sign.
-/

set_option autoImplicit false

namespace RollCall.Url

/-- A byte behind a percent sign, in upper case. -/
def escapeByte (byte : UInt8) : List Char :=
  ['%', (Hex.digit (byte.toNat / 16)).toUpper, (Hex.digit (byte.toNat % 16)).toUpper]

/-- A text with the characters of a set escaped. -/
def escape (special : Char → Bool) (text : List Char) : List Char :=
  text.flatMap fun char =>
    if special char then (String.utf8EncodeChar char).flatMap escapeByte else [char]

/-- The bytes that an escaped text stands for. -/
def unescape : List Char → Bytes
  | '%' :: high :: low :: rest =>
      match Hex.byte? high low with
      | some byte => byte :: unescape rest
      | none => '%'.toNat.toUInt8 :: unescape (high :: low :: rest)
  | char :: rest => String.utf8EncodeChar char ++ unescape rest
  | [] => []
termination_by text => text.length

/-!
## The sets of each part
-/

/-- The characters outside printable ASCII. -/
def escapedAnywhere (char : Char) : Bool :=
  char.toNat < 0x20 || 0x7E < char.toNat

def escapedInFragment (char : Char) : Bool :=
  escapedAnywhere char || " \"<>`".toList.contains char

def escapedInQuery (char : Char) : Bool :=
  escapedAnywhere char || " \"#<>".toList.contains char

/-- The set for queries of the schemes that have an authority. -/
def escapedInSpecialQuery (char : Char) : Bool :=
  escapedInQuery char || char == '\''

def escapedInPath (char : Char) : Bool :=
  escapedInQuery char || "?`\x7b\x7d".toList.contains char

def escapedInCredentials (char : Char) : Bool :=
  escapedInPath char || "/:;=@[\\]^|".toList.contains char

/-- The characters that names and values of parameters do not keep. -/
def escapedInParameter (char : Char) : Bool :=
  !(char.isAlphanum || "*-._".toList.contains char)

/-!
## Parameters
-/

/-- A name or a value of a parameter as a query holds it. -/
def writeParameter (text : String) : List Char :=
  text.toList.flatMap fun char => if char = ' ' then ['+'] else escape escapedInParameter [char]

/-- A name or a value of a parameter read from a query. -/
def readParameter (text : List Char) : String :=
  Utf8.decode (unescape (text.map fun char => if char = '+' then ' ' else char))

def readParameters (query : List Char) : List (String × String) :=
  ((Text.split (· == '&') query).filter (!·.isEmpty)).map fun part =>
    let (name, value) := Text.cut '=' part
    (readParameter name, readParameter (value.getD []))

def writeParameters (parameters : List (String × String)) : List Char :=
  List.intercalate ['&'] (parameters.map fun parameter =>
    writeParameter parameter.1 ++ '=' :: writeParameter parameter.2)

/-- The parameters with one set: in place of the first of its name, all others of which go. -/
def setParameter (parameters : List (String × String)) (name value : String) :
    List (String × String) :=
  match parameters with
  | [] => [(name, value)]
  | first :: rest =>
      if first.1 = name then (name, value) :: rest.filter (·.1 ≠ name)
      else first :: setParameter rest name value

end RollCall.Url
