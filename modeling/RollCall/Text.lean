import RollCall.Number.Decimal

/-!
# Text

Blank characters and trimming, the words that settings and votes are compared with, lengths in
UTF-16 units, and texts cut to pieces.
-/

set_option autoImplicit false

namespace RollCall.Text

/-- The characters that trimming removes: the ASCII blanks, the line and paragraph separators, the
space separators of Unicode, and the byte order mark. -/
def isBlank (char : Char) : Bool :=
  let code := char.toNat
  (9 ≤ code && code ≤ 13) || code == 0x20 || code == 0xA0 || code == 0x1680 ||
    (0x2000 ≤ code && code ≤ 0x200A) || code == 0x2028 || code == 0x2029 || code == 0x202F ||
    code == 0x205F || code == 0x3000 || code == 0xFEFF

/-- A list of characters without the blanks at its two ends. -/
def trimChars (chars : List Char) : List Char :=
  ((chars.dropWhile isBlank).reverse.dropWhile isBlank).reverse

def trim (text : String) : String :=
  String.ofList (trimChars text.toList)

/-- The lower-case form of an ASCII letter; other characters stay. -/
def lowerAscii (char : Char) : Char :=
  if 'A' ≤ char ∧ char ≤ 'Z' then Char.ofNat (char.toNat + 32) else char

/-- Whether a text is a word up to letter case. The word is of digits and of lower-case ASCII
letters other than `k`: no character outside ASCII has one of these as its lower-case form, so
ASCII decides. -/
def isWord (word text : String) : Bool :=
  text.toList.map lowerAscii == word.toList

/-- Whether a text is one or more ASCII digits. -/
def isDigits (chars : List Char) : Bool :=
  !chars.isEmpty && chars.all Number.isDigit

/-- Whether a character may begin an identifier: a small ASCII letter or an underscore. -/
def beginsIdentifier (char : Char) : Bool :=
  ('a' ≤ char && char ≤ 'z') || char == '_'

/-- Whether a text is an identifier: such a character, then more of them or digits. -/
def isIdentifier (text : String) : Bool :=
  match text.toList with
  | [] => false
  | first :: rest =>
      beginsIdentifier first && rest.all fun char => beginsIdentifier char || Number.isDigit char

/-- A text without the slashes at its end. -/
def withoutSlashes (text : String) : String :=
  String.ofList (text.toList.reverse.dropWhile (· == '/')).reverse

/-- The first `count` UTF-16 units of a text. A character that would be cut in half is left out. -/
def takeUnits (count : Nat) (text : String) : String :=
  String.ofList (go count text.toList)
where
  go : Nat → List Char → List Char
    | _, [] => []
    | count, char :: rest =>
        let width := if char.toNat < 0x10000 then 1 else 2
        if width ≤ count then char :: go (count - width) rest else []

/-- Texts joined with a separator between each two. -/
def join (separator : String) (parts : List String) : String :=
  separator.intercalate parts

def nonEmpty (parts : List String) : List String :=
  parts.filter (· ≠ "")

/-- A text cut at the first of a character, without it. -/
def cut (mark : Char) (text : List Char) : List Char × Option (List Char) :=
  match text.dropWhile (· ≠ mark) with
  | [] => (text, none)
  | _ :: rest => (text.takeWhile (· ≠ mark), some rest)

/-- The parts of a text between characters that separate. -/
def split (separates : Char → Bool) : List Char → List (List Char)
  | [] => [[]]
  | char :: rest =>
      if separates char then [] :: split separates rest
      else
        match split separates rest with
        | [] => [[char]]
        | first :: others => (char :: first) :: others

end RollCall.Text
