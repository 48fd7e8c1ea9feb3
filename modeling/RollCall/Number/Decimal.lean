import RollCall.Number

/-!
# Reading decimal numbers

A decimal is a natural number of digits times a power of ten. Reading one is exact arithmetic and
one rounding, however many digits there are.
-/

set_option autoImplicit false

namespace RollCall.Number

def digit? (char : Char) : Option Nat :=
  if '0' ≤ char ∧ char ≤ '9' then some (char.toNat - '0'.toNat) else none

def isDigit (char : Char) : Bool :=
  (digit? char).isSome

/-- The value of a run of decimal digits, most significant first. Other characters count as 0. -/
def digitsValue (digits : List Char) : Nat :=
  digits.foldl (fun value char => 10 * value + (digit? char).getD 0) 0

/-- The binary64 number nearest to `digits * 10 ^ scale`. Scales so large or so small that the
answer is settled by them alone are not multiplied out. -/
def ofDecimal (negative : Bool) (digits : Nat) (scale : Int) : Number :=
  if digits = 0 then .finite 0
  else if 400 < scale then .infinite negative
  else if scale < 0 ∧ digits.log2 + 1076 ≤ 3 * scale.natAbs then .finite 0
  else
    let magnitude : Rat :=
      if 0 ≤ scale then (digits * Nat.pow 10 scale.toNat : Nat)
      else mkRat digits (Nat.pow 10 (-scale).toNat)
    nearest (if negative then -magnitude else magnitude)

/-- The number that a run of decimal digits denotes. -/
def ofDigits (digits : List Char) : Number :=
  ofDecimal false (digitsValue digits) 0

/-!
## The parts of a decimal
-/

/-- The longest run of digits in front, and what follows. -/
def takeDigits (text : List Char) : List Char × List Char :=
  (text.takeWhile isDigit, text.dropWhile isDigit)

/-- An exponent part `e`, sign, digits in front of a text: its value, and what follows. Where the
text does not start with a complete one, the exponent is 0 and nothing is taken. -/
def takeExponent (text : List Char) : Int × List Char :=
  match text with
  | mark :: rest =>
      if mark = 'e' ∨ mark = 'E' then
        let (negative, unsigned) :=
          match rest with
          | '-' :: more => (true, more)
          | '+' :: more => (false, more)
          | _ => (false, rest)
        let (digits, following) := takeDigits unsigned
        if digits.isEmpty then (0, text)
        else
          let magnitude : Int := digitsValue digits
          (if negative then -magnitude else magnitude, following)
      else (0, text)
  | [] => (0, [])

/-- A fraction part, point and digits, in front of a text: its digits, and what follows. Where
there is no point, or no digit behind it, nothing is taken. -/
def takeFraction (text : List Char) : List Char × List Char :=
  match text with
  | '.' :: rest =>
      let (digits, following) := takeDigits rest
      if digits.isEmpty then ([], text) else (digits, following)
  | _ => ([], text)

def ofParts (negative : Bool) (whole fraction : List Char) (exponent : Int) : Number :=
  ofDecimal negative (digitsValue (whole ++ fraction)) (exponent - fraction.length)

end RollCall.Number
