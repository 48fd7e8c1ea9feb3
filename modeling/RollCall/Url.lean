import RollCall.Url.Host

/-!
# Addresses

An absolute address, read as leniently as clients read it and written in one form. Reading cuts the
fragment and the query off first, then takes the authority apart, then walks the path.
-/

set_option autoImplicit false

namespace RollCall

namespace Url

/-- A path: its segments, or text that has none. -/
inductive Path where
  | segments (names : List String)
  | plain (text : String)
deriving DecidableEq, Repr

end Url

structure Url where
  scheme : String
  username : String := ""
  password : String := ""
  host : Option Url.Host := none
  port : Option Nat := none
  path : Url.Path
  query : Option String := none
  fragment : Option String := none
deriving DecidableEq, Repr

namespace Url

/-- The schemes whose addresses always have a host, with their ports. -/
def knownPorts : List (String × Nat) :=
  [("http", 80), ("https", 443), ("ws", 80), ("wss", 443), ("ftp", 21)]

/-- Whether a scheme divides its addresses by slashes of both kinds. -/
def isSpecial (scheme : String) : Bool :=
  knownPorts.any (·.1 == scheme) || scheme == "file"

/-- Whether a character divides the path of an address. -/
def divides (special : Bool) (char : Char) : Bool :=
  char == '/' || (special && char == '\\')

/-!
## Paths
-/

/-- A segment with its escaped dots plain. -/
def plainDots : List Char → List Char
  | '%' :: '2' :: 'e' :: rest => '.' :: plainDots rest
  | '%' :: '2' :: 'E' :: rest => '.' :: plainDots rest
  | char :: rest => char :: plainDots rest
  | [] => []

def isHere (segment : List Char) : Bool :=
  plainDots segment == ['.']

def isParent (segment : List Char) : Bool :=
  plainDots segment == ['.', '.']

/-- Whether a segment names a drive: a letter and a colon, or a bar in place of the colon. -/
def isDrive : List Char → Bool
  | [letter, mark] => letter.isAlpha && (mark == ':' || mark == '|')
  | _ => false

/-- Whether some segments, latest first, are nothing but a drive. -/
def atDrive (walked : List String) : Bool :=
  match walked with
  | [only] => isDrive only.toList
  | _ => false

/-- The segments of a path, without those that stay where they are or go back one; `walked` are the
segments so far, latest first. A path that ends in such a segment ends in a slash; only where there
is nothing to go back to, and the scheme can do without a path, it does not. Paths of files do not go
back beyond a drive. -/
def walk (scheme : String) (walked : List String) : List (List Char) → List String
  | [] => walked.reverse
  | segment :: rest =>
      let ending := if rest.isEmpty then [""] else []
      if isParent segment then
        if walked.isEmpty && !isSpecial scheme then walk scheme [] rest
        else if scheme == "file" && atDrive walked then walk scheme (ending ++ walked) rest
        else walk scheme (ending ++ walked.drop 1) rest
      else if isHere segment then walk scheme (ending ++ walked) rest
      else if scheme == "file" && walked.isEmpty && isDrive segment then
        walk scheme [String.ofList (segment.take 1 ++ [':'])] rest
      else walk scheme (String.ofList (escape escapedInPath segment) :: walked) rest

/-- The path behind an authority. -/
def readPath (scheme : String) (text : List Char) : Path :=
  let special := isSpecial scheme
  match text with
  | [] => .segments (if special then [""] else [])
  | first :: rest =>
      let body := if divides special first then rest else first :: rest
      .segments (walk scheme [] (Text.split (divides special) body))

/-!
## Authorities
-/

/-- A text cut at the last of a character, without it. -/
def cutLast (mark : Char) (text : List Char) : Option (List Char) × List Char :=
  match Text.cut mark text.reverse with
  | (back, none) => (none, back.reverse)
  | (back, some front) => (some front.reverse, back.reverse)

/-- A text cut at the first colon that is not in brackets. -/
def cutPort (inBrackets : Bool) : List Char → List Char × Option (List Char)
  | [] => ([], none)
  | char :: rest =>
      if char = ':' ∧ !inBrackets then ([], some rest)
      else
        let (host, port) := cutPort ((inBrackets || char == '[') && char != ']') rest
        (char :: host, port)

/-- A port, none if it is left out or the one that the scheme has anyway. -/
def readPort (scheme : String) (digits : List Char) : Option (Option Nat) :=
  if digits.isEmpty then some none
  else if digits.all Number.isDigit then
    let value := Number.digitsValue digits
    if 65535 < value then none
    else some (if knownPorts.lookup scheme = some value then none else some value)
  else none

/-- What the text of an authority says about an address that is otherwise known. -/
def readAuthority (url : Url) (text : List Char) : Option Url := do
  let special := isSpecial url.scheme
  let (credentials, location) := cutLast '@' text
  let (username, password) := Text.cut ':' (credentials.getD [])
  let (host, port) := cutPort false location
  if host.isEmpty ∧ (credentials.isSome ∨ port.isSome ∨ special) then none
  let host ←
    if host.isEmpty then some (Host.name "")
    else if special then Host.read? host
    else Host.readForeign? host
  let port ← readPort url.scheme (port.getD [])
  return { url with
    username := String.ofList (escape escapedInCredentials username)
    password := String.ofList (escape escapedInCredentials (password.getD []))
    host := some host
    port := port }

/-!
## Whole addresses
-/

def isSchemeChar (char : Char) : Bool :=
  char.isAlphanum || "+-.".toList.contains char

/-- The scheme in small letters, and what follows its colon. -/
def readScheme (text : List Char) : Option (String × List Char) :=
  match Text.cut ':' text with
  | (first :: more, some rest) =>
      if first.isAlpha ∧ more.all isSchemeChar then
        some (String.ofList ((first :: more).map Text.lowerAscii), rest)
      else none
  | _ => none

/-- The address whose text behind the slashes in front of its authority is given. -/
def readLocated (url : Url) (text : List Char) : Option Url := do
  let inAuthority (char : Char) : Bool := !divides (isSpecial url.scheme) char
  let located ← readAuthority url (text.takeWhile inAuthority)
  return { located with path := readPath url.scheme (text.dropWhile inAuthority) }

/-- The address of a file. Its host is a host alone, and the machine itself is not named; a drive in
the place of the host belongs to the path. -/
def readFile (url : Url) (text : List Char) : Option Url := do
  let nearby (text : List Char) : Url :=
    { url with host := some (.name ""), path := readPath url.scheme text }
  match text with
  | first :: second :: rest =>
      if divides true first ∧ divides true second then
        let name := rest.takeWhile (!divides true ·)
        if name.isEmpty ∨ isDrive name then return nearby rest
        else
          let host ← Host.read? name
          return { url with
            host := some (if host = .name "localhost" then .name "" else host)
            path := readPath url.scheme (rest.dropWhile (!divides true ·)) }
      else return nearby text
  | _ => return nearby text

/-- The address whose text between scheme and query is given. -/
def readHierarchy (url : Url) (text : List Char) : Option Url :=
  if url.scheme = "file" then readFile url text
  else if isSpecial url.scheme then readLocated url (text.dropWhile (divides true))
  else
    match text with
    | '/' :: '/' :: rest => readLocated url rest
    | '/' :: _ => some { url with path := readPath url.scheme text }
    | _ => some { url with path := .plain (String.ofList (escape escapedAnywhere text)) }

/-- Whether a character at either end of an address does not belong to it. -/
def isMargin (char : Char) : Bool :=
  char.toNat ≤ 0x20

/-- The address that a text spells, if it spells one. -/
def parse? (text : String) : Option Url := do
  let trimmed := ((text.toList.dropWhile isMargin).reverse.dropWhile isMargin).reverse
  let chars := trimmed.filter fun char => !"\t\n\r".toList.contains char
  let (scheme, body) ← readScheme chars
  let (front, fragment) := Text.cut '#' body
  let (hierarchy, query) := Text.cut '?' front
  let inQuery := if isSpecial scheme then escapedInSpecialQuery else escapedInQuery
  readHierarchy
    { scheme
      path := .segments []
      query := query.map fun query => String.ofList (escape inQuery query)
      fragment := fragment.map fun fragment => String.ofList (escape escapedInFragment fragment) }
    hierarchy

/-- The credentials and the sign behind them. -/
def writeCredentials (url : Url) : String :=
  if url.username = "" ∧ url.password = "" then ""
  else url.username ++ (if url.password = "" then "" else ":" ++ url.password) ++ "@"

def Path.text : Path → String
  | plain text => text
  | segments names => String.join (names.map fun name => "/" ++ name)

/-- The path of an address with its query, if there is anything in that. -/
def target (url : Url) : String :=
  let query := url.query.getD ""
  url.path.text ++ if query = "" then "" else "?" ++ query

/-- What stands before a path that could be taken for an authority. -/
def pathGuard (url : Url) : String :=
  match url.path with
  | .segments ("" :: _ :: _) => if url.host.isNone then "/." else ""
  | _ => ""

/-- The one way in which an address is written. -/
def text (url : Url) : String :=
  let authority :=
    match url.host with
    | none => ""
    | some host =>
        "//" ++ url.writeCredentials ++ host.text ++
          url.port.elim "" fun port => ":" ++ toString port
  url.scheme ++ ":" ++ authority ++ url.pathGuard ++ url.path.text ++
    url.query.elim "" (fun query => "?" ++ query) ++
    url.fragment.elim "" (fun fragment => "#" ++ fragment)

/-- An address with parameters set in its query. Where there are none to set the query stays as it
is written. -/
def withParameters (url : Url) (parameters : List (String × String)) : Url :=
  if parameters.isEmpty then url
  else
    let before := readParameters (url.query.getD "").toList
    let after := parameters.foldl (fun held parameter => setParameter held parameter.1 parameter.2)
      before
    { url with query := some (String.ofList (writeParameters after)) }

end Url

end RollCall
