import RollCall.Number.Shortest

/-!
# Timeouts

How long an agent is waited for, in milliseconds. Only some numbers are a time to wait; with any
other one nothing is sent at all.
-/

set_option autoImplicit false

namespace RollCall.Advice

inductive TimeoutRefusal where
  /-- It is not an integer. -/
  | fractional
  /-- It is less than nothing, or more than 32 bits hold. -/
  | beyond
deriving DecidableEq, Repr

/-- The longest time to wait: the greatest number of 32 bits. -/
def longestTimeout : Number := 4294967295

def timeoutRefusal? (timeout : Number) : Option TimeoutRefusal :=
  if !timeout.isFinite ∨ timeout.truncate ≠ timeout then some .fractional
  else if timeout.below 0 ∨ longestTimeout.below timeout then some .beyond
  else none

/-- Digits, last first, in groups of three with a sign between them; the first group has one to
three. -/
def groupedReversed : List Char → List Char
  | first :: second :: third :: fourth :: rest =>
      first :: second :: third :: '_' :: groupedReversed (fourth :: rest)
  | digits => digits

/-- The text of a number in groups of three; a sign in front belongs to no group. -/
def grouped (text : List Char) : List Char :=
  match text with
  | '-' :: digits => '-' :: (groupedReversed digits.reverse).reverse
  | digits => (groupedReversed digits.reverse).reverse

/-- A refused number as it is shown: integers beyond 32 bits are grouped. -/
def showRefused (timeout : Number) : String :=
  let beyondBits := longestTimeout + 1
  let large := beyondBits.below timeout || timeout.below (-beyondBits)
  if timeout.isFinite ∧ timeout.truncate = timeout ∧ large then
    String.ofList (grouped timeout.text.toList)
  else timeout.text

def TimeoutRefusal.message (timeout : Number) (refusal : TimeoutRefusal) : String :=
  let expected := match refusal with
    | fractional => "an integer"
    | beyond => s!">= 0 && <= {longestTimeout.text}"
  let received := showRefused timeout
  s!"The value of \"delay\" is out of range. It must be {expected}. Received {received}"

end RollCall.Advice
