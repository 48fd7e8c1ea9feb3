/-!
# Numbers

The numbers of the index's documents: binary64 numbers in which the two zeros are one. A finite
number is kept as the exact rational that it denotes, so integers are compared and added as such.
Every operation that can leave the binary64 grid ends in `Number.nearest`.
-/

set_option autoImplicit false

namespace RollCall

/-- A binary64 number. Nothing in the index can tell the two zeros apart, so there is only one. -/
inductive Number where
  | nan
  | infinite (negative : Bool)
  | finite (value : Rat)
deriving DecidableEq, Repr

namespace Number

instance : Inhabited Number := ⟨.finite 0⟩

/-!
## Rounding
-/

/-- The natural number nearest to `numerator / denominator`; a half goes to the even neighbour. -/
def nearestNat (numerator denominator : Nat) : Nat :=
  let quotient := numerator / denominator
  let doubled := 2 * (numerator % denominator)
  if doubled < denominator then quotient
  else if denominator < doubled then quotient + 1
  else if quotient % 2 = 0 then quotient
  else quotient + 1

/-- The quotient `numerator / denominator / 2 ^ exponent` as a fraction of natural numbers. -/
def scaleDown (numerator denominator : Nat) (exponent : Int) : Nat × Nat :=
  if 0 ≤ exponent then (numerator, denominator * Nat.pow 2 exponent.toNat)
  else (numerator * Nat.pow 2 (-exponent).toNat, denominator)

/-- The exponent of the last bit that binary64 keeps of a positive quotient: 53 bits, and none
below `2 ^ (-1074)`. -/
def unitExponent (numerator denominator : Nat) : Int :=
  let guess : Int := Int.ofNat numerator.log2 - Int.ofNat denominator.log2
  let (scaled, unit) := scaleDown numerator denominator guess
  let leading := if scaled < unit then guess - 1 else guess
  max (leading - 52) (-1074)

/-- A power of a natural number, exactly. -/
def powerOf (base : Nat) (exponent : Int) : Rat :=
  if 0 ≤ exponent then mkRat (Nat.pow base exponent.toNat) 1
  else mkRat 1 (Nat.pow base (-exponent).toNat)

/-- The least magnitude that is no longer finite. -/
def overflow : Rat := powerOf 2 1024

/-- The greatest integer below which no two integers share a binary64 number: `2 ^ 53 - 1`. -/
def safeBound : Nat := 9007199254740991

/-- Whether a rational is an integer of magnitude at most `safeBound`. All of these are binary64
numbers. -/
def isSafeInteger (value : Rat) : Bool :=
  value.den = 1 ∧ value.num.natAbs ≤ safeBound

/-- The binary64 number nearest to a rational; a half goes to the even significand. -/
def nearest (value : Rat) : Number :=
  if isSafeInteger value then .finite value
  else
    let numerator := value.num.natAbs
    let exponent := unitExponent numerator value.den
    let (scaled, unit) := scaleDown numerator value.den exponent
    let magnitude := (nearestNat scaled unit : Rat) * powerOf 2 exponent
    if overflow ≤ magnitude then .infinite (value < 0)
    else .finite (if value < 0 then -magnitude else magnitude)

/-!
## Integers
-/

/-- An integer, exactly. The integers that the index handles lie within `safeBound`, where every
one of them is a binary64 number. -/
def ofInt (value : Int) : Number :=
  .finite value

/-- A natural number, exactly; see `ofInt`. -/
def ofNat (value : Nat) : Number :=
  ofInt value

instance (value : Nat) : OfNat Number value := ⟨ofNat value⟩

/-- The integer that a number denotes, if it is one of magnitude at most `safeBound`. -/
def safeInt? : Number → Option Int
  | .finite value => if isSafeInteger value then some value.num else none
  | _ => none

/-- The natural number that a number denotes, if it is one of at most `safeBound`. -/
def safeNat? (number : Number) : Option Nat :=
  match number.safeInt? with
  | some (.ofNat value) => some value
  | _ => none

def isFinite : Number → Bool
  | .finite _ => true
  | _ => false

/-!
## Arithmetic
-/

def neg : Number → Number
  | .nan => .nan
  | .infinite negative => .infinite (!negative)
  | .finite value => .finite (-value)

def add : Number → Number → Number
  | .nan, _ => .nan
  | _, .nan => .nan
  | .infinite left, .infinite right => if left = right then .infinite left else .nan
  | .infinite negative, .finite _ => .infinite negative
  | .finite _, .infinite negative => .infinite negative
  | .finite left, .finite right => nearest (left + right)

/-- Zero times an infinity is no number. -/
def mul : Number → Number → Number
  | .nan, _ => .nan
  | _, .nan => .nan
  | .infinite left, .infinite right => .infinite (left != right)
  | .infinite negative, .finite value => scaled negative value
  | .finite value, .infinite negative => scaled negative value
  | .finite left, .finite right => nearest (left * right)
where
  scaled (negative : Bool) (value : Rat) : Number :=
    if value = 0 then .nan else .infinite (negative != decide (value < 0))

/-- Anything but zero divided by zero is infinite, with the sign of what is divided. -/
def div : Number → Number → Number
  | .nan, _ => .nan
  | _, .nan => .nan
  | .infinite _, .infinite _ => .nan
  | .infinite negative, .finite value => .infinite (negative != decide (value < 0))
  | .finite _, .infinite _ => .finite 0
  | .finite left, .finite right =>
      if right = 0 then if left = 0 then .nan else .infinite (left < 0)
      else nearest (left / right)

instance : Neg Number := ⟨neg⟩
instance : Add Number := ⟨add⟩
instance : Mul Number := ⟨mul⟩
instance : Div Number := ⟨div⟩
instance : Sub Number := ⟨fun left right => left + -right⟩

/-- The strict order; a NaN is neither below nor above anything. -/
def below : Number → Number → Bool
  | .finite left, .finite right => left < right
  | .infinite left, .infinite right => left && !right
  | .infinite negative, .finite _ => negative
  | .finite _, .infinite negative => !negative
  | _, _ => false

/-- Whether two numbers are of the same value; a NaN is not of the value of anything. -/
def equals : Number → Number → Bool
  | .nan, _ => false
  | left, right => left == right

/-- The order with equality; a NaN stands in it to nothing. -/
def atMost (left right : Number) : Bool :=
  left.below right || left.equals right

/-- The greater of two numbers; a NaN wins. -/
def max (left right : Number) : Number :=
  match left, right with
  | .nan, _ => .nan
  | _, .nan => .nan
  | _, _ => if left.below right then right else left

/-- The lesser of two numbers; a NaN wins. -/
def min (left right : Number) : Number :=
  match left, right with
  | .nan, _ => .nan
  | _, .nan => .nan
  | _, _ => if right.below left then right else left

def truncate : Number → Number
  | .finite value => .finite (value.num.tdiv value.den)
  | other => other

/-- The nearest integer; a half goes up. -/
def round : Number → Number
  | .finite value => .finite ((value + 1 / 2).floor : Int)
  | other => other

/-- The least natural number that is not below a number; 0 for a NaN and where there is none. -/
def ceilNat : Number → Nat
  | .finite value => value.ceil.toNat
  | _ => 0

/-- A place in a list of some length, as near to a number as there is one. Negative numbers count
from the end; fractions do not count. -/
def place (length : Nat) : Number → Nat
  | .nan => 0
  | .infinite negative => if negative then 0 else length
  | .finite value =>
      let whole := value.num.tdiv value.den
      if whole < 0 then (length + whole).toNat else Nat.min length whole.toNat

end Number

end RollCall
