import RollCall.Number.Decimal

/-!
# Powers of two

Two to any power. The whole part of the power only moves the point. The rest, at most a half either
way, goes through a short quotient of polynomials, each step of which is rounded; its logarithms are
split in two so that nothing is lost before the last steps. The result is exact for whole powers and
within one unit of its last place for all others.
-/

set_option autoImplicit false

namespace RollCall.Number

/-- The rational that a finite number is. -/
def toRat : Number → Rat
  | .finite value => value
  | _ => 0

/-- A number without the last 32 bits of its significand. -/
def coarse : Number → Number
  | .finite value =>
      let unit := powerOf 2 (unitExponent value.num.natAbs value.den + 32)
      let count := (value / unit).num.tdiv (value / unit).den
      .finite (count * unit)
  | other => other

private def decimal (negative : Bool) (digits places : Nat) : Number :=
  ofDecimal negative digits (-places)

private def logTwo : Number := decimal false 693147180559945286227 21

/-- The leading bits of the natural logarithm of two. -/
private def logTwoHigh : Number := decimal false 693147182464599609375 21

/-- The bits of the natural logarithm of two behind the leading ones. -/
private def logTwoLow : Number := decimal true 190465429995776804525 29

/-- The value of a polynomial, its coefficients in ascending order. -/
def horner (coefficients : List Number) (argument : Number) : Number :=
  coefficients.foldr (fun coefficient total => coefficient + argument * total) 0

private def rootOfTwo : Number := decimal false 14142135623730951 16

/-- The coefficients of `x * (exp x + 1) / (exp x - 1)` less 2, in powers of `x * x` from the first
on. -/
private def coefficients : List Number :=
  [decimal false 166666666666666019037 21, decimal true 277777777770155933842 23,
    decimal false 661375632143793436117 25, decimal true 165339022054652515390 26,
    decimal false 413813679705723846039 28]

/-- Two to a power of at most about a half either way, given as the sum of its coarse part and what
that leaves. -/
def powerNearOne (high low : Number) : Number :=
  let top := (low + high).coarse
  let main := top * logTwoHigh
  let rest := (low - (top - high)) * logTwo + top * logTwoLow
  let sum := main + rest
  let error := rest - (sum - main)
  let square := sum * sum
  let quotient := sum - square * horner coefficients square
  let growth := sum * quotient / (quotient - 2) - (error + sum * error)
  1 - (growth - sum)

/-- The whole number nearest to the coarse part of a power; none is taken off up to a half. -/
def wholePart (power : Rat) : Int :=
  let size : Rat := if power < 0 then -power else power
  if size ≤ 1 / 2 then 0
  else if power < 0 then -(size + 1 / 2).floor
  else (size + 1 / 2).floor

def twoTo : Number → Number
  | .nan => .nan
  | .infinite true => .finite 0
  | .infinite false => .infinite false
  | .finite power =>
      if 1024 ≤ power then .infinite false
      else if power ≤ -1075 then .finite 0
      else if power = 1 / 2 then rootOfTwo
      else
        let high := (Number.finite power).coarse
        let whole := wholePart high.toRat
        let root := powerNearOne (high - ofInt whole) (.finite power - high)
        nearest (root.toRat * powerOf 2 whole)

end RollCall.Number
