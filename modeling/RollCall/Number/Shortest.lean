import RollCall.Number

/-!
# The shortest decimal of a number

Among the decimals that read back as the number, the one with the fewest digits is written, and of
those the nearest. `Number.text` decides how its digits are laid out.
-/

set_option autoImplicit false

namespace RollCall.Number

/-- The rationals that round to a positive binary64 number: everything from `low` to `high`, and
the two ends too if the significand is even. -/
structure Interval where
  low : Rat
  high : Rat
  closed : Bool

def Interval.contains (interval : Interval) (value : Rat) : Bool :=
  if interval.closed then interval.low ≤ value && value ≤ interval.high
  else interval.low < value && value < interval.high

/-- The interval of a positive number. Just above a power of two the grid below is twice as fine. -/
def interval (value : Rat) : Interval :=
  let exponent := unitExponent value.num.natAbs value.den
  let unit := powerOf 2 exponent
  let significand := (value / unit).floor.natAbs
  let below := if significand = Nat.pow 2 52 ∧ -1074 < exponent then unit / 4 else unit / 2
  { low := value - below, high := value + unit / 2, closed := significand % 2 = 0 }

/-- The least number of places after the point, from `places` on and at most `fuel` more, at which
a value below one shows a digit. -/
def leadingPlace (value : Rat) : Nat → Nat → Nat
  | 0, places => places
  | fuel + 1, places =>
      if 1 ≤ value * Nat.pow 10 places then places else leadingPlace value fuel (places + 1)

/-- The exponent of the leading decimal digit of a positive number. -/
def leadingExponent (value : Rat) : Int :=
  if 1 ≤ value then Int.ofNat (Nat.toDigits 10 value.floor.natAbs).length - 1
  else -Int.ofNat (leadingPlace value 330 1)

/-- A decimal: `digits * 10 ^ exponent`. -/
structure Decimal where
  digits : Nat
  exponent : Int
deriving DecidableEq, Repr

/-- The multiple of `10 ^ exponent` nearest to the value among the two around it that read back as
it, if one of them does. A tie goes to the even one. -/
def nearestOnGrid (value : Rat) (range : Interval) (exponent : Int) : Option Decimal :=
  let step := powerOf 10 exponent
  let lower := (value / step).floor.natAbs
  let lowerFits := 0 < lower && range.contains (lower * step)
  let upperFits := range.contains ((lower + 1 : Nat) * step)
  let toLower := value - lower * step
  let toUpper := (lower + 1 : Nat) * step - value
  if lowerFits && upperFits then
    if toLower < toUpper then some ⟨lower, exponent⟩
    else if toUpper < toLower then some ⟨lower + 1, exponent⟩
    else if lower % 2 = 0 then some ⟨lower, exponent⟩
    else some ⟨lower + 1, exponent⟩
  else if lowerFits then some ⟨lower, exponent⟩
  else if upperFits then some ⟨lower + 1, exponent⟩
  else none

/-- The first grid with an answer, from the coarser to the finer. Seventeen digits always do. -/
def firstGrid (value : Rat) (range : Interval) : Nat → Int → Decimal
  | 0, exponent => ⟨(value / powerOf 10 exponent).floor.natAbs, exponent⟩
  | fuel + 1, exponent =>
      match nearestOnGrid value range exponent with
      | some decimal => decimal
      | none => firstGrid value range fuel (exponent - 1)

/-- The shortest decimal that reads back as a positive number. -/
def shortest (value : Rat) : Decimal :=
  firstGrid value (interval value) 17 (leadingExponent value)

/-!
## Layout
-/

/-- How a shortest decimal is laid out. With `point` the number of digits before the decimal
point, it is written positionally if `least < point` and `point ≤ most`, and otherwise with one
digit in front and an exponent that always carries its sign. -/
structure Layout where
  least : Int
  most : Int
  notANumber : String
  infinity : String

/-- Zeros are written out for points from six places before the digits to twenty-one behind. -/
def layout : Layout :=
  { least := -6, most := 21, notANumber := "NaN", infinity := "Infinity" }

def trimZeros (digits : List Char) : List Char :=
  (digits.reverse.dropWhile (· == '0')).reverse

/-- The text of a positive decimal. -/
def Layout.write (layout : Layout) (decimal : Decimal) : String :=
  let all := Nat.toDigits 10 decimal.digits
  let digits := trimZeros all
  let count : Int := digits.length
  let point : Int := Int.ofNat all.length + decimal.exponent
  if count ≤ point ∧ point ≤ layout.most then
    String.ofList (digits ++ List.replicate (point - count).toNat '0')
  else if 0 < point ∧ point ≤ layout.most then
    String.ofList (digits.take point.toNat ++ '.' :: digits.drop point.toNat)
  else if layout.least < point ∧ point ≤ 0 then
    String.ofList ('0' :: '.' :: (List.replicate (-point).toNat '0' ++ digits))
  else
    let exponent := point - 1
    let sign := if exponent < 0 then "-" else "+"
    let power := toString exponent.natAbs
    match digits with
    | [single] => String.ofList [single] ++ "e" ++ sign ++ power
    | first :: more => String.ofList (first :: '.' :: more) ++ "e" ++ sign ++ power
    | [] => "0"

/-- The text of a number. Integers that are exact are written digit by digit. -/
def text : Number → String
  | .nan => layout.notANumber
  | .infinite negative => (if negative then "-" else "") ++ layout.infinity
  | .finite value =>
      if isSafeInteger value then toString value.num
      else if value < 0 then "-" ++ layout.write (shortest (-value))
      else layout.write (shortest value)

instance : ToString Number := ⟨text⟩

end RollCall.Number
