/-!
# Host labels outside ASCII

A label with other characters is written in ASCII: its ASCII characters first, then the code points
of the others in ascending order, each as its distance from the one before in digits of base 36.
-/

set_option autoImplicit false

namespace RollCall.Url.Punycode

def digit (value : Nat) : Char :=
  if value < 26 then Char.ofNat (97 + value) else Char.ofNat (22 + value)

/-- How far a digit at a place may go before the number goes on: from 1 to 26. -/
def threshold (place bias : Nat) : Nat :=
  max 1 (min 26 (place - bias))

theorem threshold_pos (place bias : Nat) : 1 ≤ threshold place bias := by
  unfold threshold; omega

theorem threshold_le (place bias : Nat) : threshold place bias ≤ 26 := by
  unfold threshold; omega

/-- A number as digits, least significant first. -/
def digits (bias place value : Nat) : List Char :=
  let limit := threshold place bias
  if value < limit then [digit value]
  else
    digit (limit + (value - limit) % (36 - limit)) ::
      digits bias (place + 36) ((value - limit) / (36 - limit))
termination_by value
decreasing_by
  have positive := threshold_pos place bias
  have bounded := threshold_le place bias
  have divided : (value - threshold place bias) / (36 - threshold place bias) ≤
      value - threshold place bias := Nat.div_le_self _ _
  omega

/-- A distance scaled down until it is at most 455, and the places that this took. -/
def shrink (distance places : Nat) : Nat × Nat :=
  if 455 < distance then shrink (distance / 35) (places + 36) else (distance, places)
termination_by distance
decreasing_by omega

/-- The bias after a distance has been written. -/
def adapt (distance count : Nat) (first : Bool) : Nat :=
  let halved := if first then distance / 700 else distance / 2
  let (rest, places) := shrink (halved + halved / count) 0
  places + 36 * rest / (rest + 38)

/-- Writing under way: what is written, the distance so far, the bias, and how many characters of
the label are written. -/
structure Progress where
  written : List Char
  distance : Nat
  bias : Nat
  count : Nat
deriving DecidableEq, Repr

/-- One character of the label, while `point` is the code point to be written. -/
def visit (ascii point : Nat) (progress : Progress) (char : Char) : Progress :=
  if char.toNat < point then { progress with distance := progress.distance + 1 }
  else if char.toNat = point then
    { written := progress.written ++ digits progress.bias 36 progress.distance
      distance := 0
      bias := adapt progress.distance (progress.count + 1) (progress.count == ascii)
      count := progress.count + 1 }
  else progress

/-- Writes the given code points, of which `next` is the least that is not yet passed. -/
def write (label : List Char) (ascii : Nat) : List Nat → Nat → Progress → Progress
  | [], _, progress => progress
  | point :: rest, next, progress =>
      let raised :=
        { progress with distance := progress.distance + (point - next) * (progress.count + 1) }
      let visited := label.foldl (visit ascii point) raised
      write label ascii rest (point + 1) { visited with distance := visited.distance + 1 }

/-- A label in ASCII, without the marker in front. -/
def encode (label : List Char) : List Char :=
  let ascii := label.filter (·.toNat < 0x80)
  let points := ((label.map Char.toNat).filter (0x80 ≤ ·)).mergeSort.eraseDups
  let written := (write label ascii.length points 0x80 ⟨[], 0, 72, ascii.length⟩).written
  ascii ++ (if ascii.isEmpty then [] else ['-']) ++ written

/-!
## Reading
-/

def digitValue? (char : Char) : Option Nat :=
  if 'a' ≤ char ∧ char ≤ 'z' then some (char.toNat - 97)
  else if '0' ≤ char ∧ char ≤ '9' then some (char.toNat - 22)
  else none

/-- The number whose digits a text begins with, and what follows them. -/
def takeDistance (bias : Nat) : Nat → Nat → List Char → Option (Nat × List Char)
  | _, _, [] => none
  | place, weight, char :: rest =>
      match digitValue? char with
      | none => none
      | some value =>
          let limit := threshold place bias
          if value < limit then some (value * weight, rest)
          else
            (takeDistance bias (place + 36) (weight * (36 - limit)) rest).map
              fun (distance, rest) => (value * weight + distance, rest)

/-- The label that distances make of its ASCII characters. The last character went in before
`place`, as the code point `point`; each distance takes a character, so `fuel` of them last. -/
def insertAll : (fuel : Nat) → (label : List Char) → (place point bias : Nat) → List Char →
    Option (List Char)
  | _, label, _, _, _, [] => some label
  | 0, _, _, _, _, _ => none
  | fuel + 1, label, place, point, bias, text =>
      match takeDistance bias 36 1 text with
      | none => none
      | some (distance, rest) =>
          let count := label.length + 1
          let place' := (place + distance) % count
          let point' := point + (place + distance) / count
          if point'.isValidChar then
            insertAll fuel (label.insertIdx place' (Char.ofNat point')) (place' + 1) point'
              (adapt distance count (place == 0)) rest
          else none

/-- The label that is written so, if one is. -/
def decode? (text : List Char) : Option (List Char) :=
  let distances := (text.reverse.takeWhile (· ≠ '-')).reverse
  let ascii := (text.reverse.dropWhile (· ≠ '-')).drop 1
  insertAll distances.length ascii.reverse 0 0x80 72 distances

end RollCall.Url.Punycode
