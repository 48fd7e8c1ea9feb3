import RollCall.Settings

/-!
# Variables from a file

A file gives a variable a value in each line of the form `name=value` or `name: value`, with
`export` in front of it or not. A value in quotes may run over several lines; one without ends with
its line or where a comment begins. Lines of any other form say nothing.
-/

set_option autoImplicit false

namespace RollCall.Variables

/-- Whether a character ends a line, once every line end is a single one. -/
def endsLine (char : Char) : Bool :=
  char == '\n' || char == '\u2028' || char == '\u2029'

/-- A text with a line feed in place of each carriage return and of each pair of the two. -/
def withLineFeeds : List Char → List Char
  | '\r' :: '\n' :: rest => '\n' :: withLineFeeds rest
  | '\r' :: rest => '\n' :: withLineFeeds rest
  | char :: rest => char :: withLineFeeds rest
  | [] => []

/-- What follows the line in which a text begins, if anything can. -/
def nextLine? (text : List Char) : Option (List Char) :=
  match text.dropWhile (!endsLine ·) with
  | [] => none
  | _ :: rest => some rest

/-- Whether nothing but a comment is left of the line in which a text begins. -/
def isLineDone (text : List Char) : Bool :=
  (text.dropWhile fun char => Text.isBlank char && !endsLine char).head?.all fun char =>
    char == '#' || endsLine char

/-!
## Names
-/

def isNameChar (char : Char) : Bool :=
  char.isAlphanum || "_.-".toList.contains char

/-- What follows the sign between a name and its value: an equals sign, with blanks before it or
not, or a colon and a blank. -/
def afterSign? (text : List Char) : Option (List Char) :=
  match text.dropWhile Text.isBlank with
  | '=' :: rest => some rest
  | _ =>
      match text with
      | ':' :: blank :: rest => if Text.isBlank blank then some rest else none
      | _ => none

/-- A name and what follows the sign behind it. -/
def readName? (text : List Char) : Option (String × List Char) :=
  match text.span isNameChar with
  | ([], _) => none
  | (name, rest) => (afterSign? rest).map (String.ofList name, ·)

/-- What follows the word `export`. -/
def afterExport? : List Char → Option (List Char)
  | 'e' :: 'x' :: 'p' :: 'o' :: 'r' :: 't' :: blank :: rest =>
      if Text.isBlank blank then some (rest.dropWhile Text.isBlank) else none
  | _ => none

/-- The name that a line begins with; `export` in front of one is no name. -/
def assigned? (line : List Char) : Option (String × List Char) :=
  let text := line.dropWhile Text.isBlank
  ((afterExport? text).bind readName?).or (readName? text)

/-!
## Values
-/

def isQuote (char : Char) : Bool :=
  char == '\'' || char == '"' || char == '\x60'

/-- The places where a quoted text may end, best first: the first quote without a backslash before
it, then the quotes with one before that, last to first. Each is given by the text before it,
latest character first, and the text behind it; `inside` has been read, and `escaped` are the
places of the second kind in it. -/
def closings (quote : Char) (inside : List Char) (escaped : List (List Char × List Char)) :
    List Char → List (List Char × List Char)
  | [] => escaped
  | [char] => if char = quote then (inside, []) :: escaped else escaped
  | char :: next :: rest =>
      if char = quote then (inside, next :: rest) :: escaped
      else if char = '\\' ∧ next = quote then
        closings quote (next :: char :: inside) ((char :: inside, rest) :: escaped) rest
      else closings quote (char :: inside) escaped (next :: rest)

/-- A text with its escaped line ends plain. -/
def plainLineEnds : List Char → List Char
  | '\\' :: 'n' :: rest => '\n' :: plainLineEnds rest
  | '\\' :: 'r' :: rest => '\r' :: plainLineEnds rest
  | char :: rest => char :: plainLineEnds rest
  | [] => []

/-- What is written between quotes; line ends can be escaped between double ones. -/
def unescaped (quote : Char) (inside : List Char) : List Char :=
  if quote = '"' then plainLineEnds inside else inside

/-- A quoted value, if it is the last in its line, and what follows it. -/
def quoted? (text : List Char) : Option (List Char × List Char) :=
  match text.dropWhile Text.isBlank with
  | quote :: rest =>
      if isQuote quote then
        ((closings quote [] [] rest).find? (isLineDone ·.2)).map fun (inside, rest) =>
          (unescaped quote inside.reverse, rest)
      else none
  | [] => none

/-- The text up to the last quote that ends a line, and what follows that quote. -/
def enclosed? (quote : Char) : List Char → Option (List Char × List Char)
  | [] => none
  | char :: rest =>
      match enclosed? quote rest with
      | some (inside, behind) => some (char :: inside, behind)
      | none => if char = quote ∧ rest.head?.all endsLine then some ([], rest) else none

theorem length_lt_of_enclosed? {quote : Char} {text inside behind : List Char}
    (found : enclosed? quote text = some (inside, behind)) : behind.length < text.length := by
  induction text generalizing inside with
  | nil => simp [enclosed?] at found
  | cons char rest ih =>
      simp only [enclosed?] at found
      split at found
      · next inside' behind' more =>
          simp only [Option.some.injEq, Prod.mk.injEq] at found
          have shorter := ih (found.2 ▸ more)
          simp only [List.length_cons]
          omega
      · split at found
        · simp only [Option.some.injEq, Prod.mk.injEq] at found
          simp [← found.2]
        · simp at found

/-- A text without the quotes around it, or around some of the lines in it; `begun` is whether a line
begins with it. -/
def withoutQuotes (begun : Bool) (text : List Char) : List Char :=
  match text with
  | [] => []
  | char :: rest =>
      match _found : if begun && isQuote char then enclosed? char rest else none with
      | some (inside, behind) => inside ++ withoutQuotes false behind
      | none => char :: withoutQuotes (endsLine char) rest
termination_by text.length
decreasing_by
  · split at _found
    · have shorter := length_lt_of_enclosed? _found
      simp only [List.length_cons]
      omega
    · simp at _found
  · simp

/-- What a text without blanks at its ends stands for. -/
def bare (text : List Char) : List Char :=
  unescaped (text.head?.getD ' ') (withoutQuotes true text)

/-- The value behind the sign of a line, and what follows it. -/
def readValue (text : List Char) : List Char × List Char :=
  match quoted? text with
  | some found => found
  | none =>
      let (value, rest) := text.span fun char => char != '#' && char != '\n'
      (bare (Text.trimChars value), rest)

/-!
## Whole files
-/

/-- The variables in the first `limit` lines of a text, in their order. -/
def entries : Nat → List Char → Variables
  | 0, _ => []
  | limit + 1, text =>
      match assigned? text with
      | some (name, rest) =>
          let (value, rest) := readValue rest
          (name, String.ofList value) :: (nextLine? rest).elim [] (entries limit)
      | none => (nextLine? text).elim [] (entries limit)

/-- The variables that a file gives values to. The last value of a name comes first. -/
def ofFile (text : String) : Variables :=
  (entries (text.length + 1) (withLineFeeds text.toList)).reverse

/-- Variables, and those of a file that are not among them. -/
def withFile (environment : Variables) (file : Option String) : Variables :=
  environment ++ file.elim [] ofFile

end RollCall.Variables
