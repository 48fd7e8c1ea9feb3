import RollCall.Text.Composed
import RollCall.Url.Direction
import RollCall.Url.Folding
import RollCall.Url.Joining
import RollCall.Url.Punycode

/-!
# Labels

The name of a machine is a row of labels between points. One with characters outside ASCII is
written in ASCII behind a marker, and what stands behind the marker has to be the writing of a label.
-/

set_option autoImplicit false

namespace RollCall.Url

def isAscii (char : Char) : Bool :=
  char.toNat < 0x80

/-- What marks a label as one that stands for another. -/
def marker : List Char := "xn--".toList

/-- Whether a folded text can be a label with characters outside ASCII. A joiner that counts settles
it; the directions are not looked at then. -/
def isLabel (label : List Char) : Bool :=
  match label with
  | [] => false
  | first :: _ => !Text.isMark first && (joinerCounts? label).getD (isOrdered label)

/-- Whether a text behind the marker is the writing of a label. The label may be one that needs no
writing, but not one that would be folded or composed. -/
def isWriting (text : List Char) : Bool :=
  text.all isAscii && !marker.isPrefixOf text &&
    match Punycode.decode? text with
    | some label => fold? label == some label && Text.composed label == label && isLabel label
    | none => false

/-- A folded and composed label in ASCII. -/
def writeLabel? (label : List Char) : Option (List Char) :=
  if marker.isPrefixOf label then
    if isWriting (label.drop marker.length) then some label else none
  else if label.all isAscii then some label
  else if isLabel label then some (marker ++ Punycode.encode label)
  else none

def writeName? (name : List Char) : Option (List Char) := do
  let folded ← fold? name
  let labels ← (Text.split (· == '.') (Text.composed folded)).mapM writeLabel?
  return List.intercalate ['.'] labels

end RollCall.Url
