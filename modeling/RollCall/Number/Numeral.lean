import RollCall.Text
import RollCall.Value

/-!
# Numerals

Two readings of a text as a number. `Number.ofNumeral` is generous: blanks around it, signs,
exponents, other bases and infinities. `Value.asNat?` and `naturalOf?` admit decimal digits only,
and only integers up to `Number.safeBound`.
-/

set_option autoImplicit false

namespace RollCall

namespace Number

/-- The value of a digit in a base up to 16. -/
def baseDigit? (base : Nat) (char : Char) : Option Nat :=
  let value? :=
    if 'a' ≤ char ∧ char ≤ 'f' then some (char.toNat - 87)
    else if 'A' ≤ char ∧ char ≤ 'F' then some (char.toNat - 55)
    else digit? char
  value?.filter (· < base)

/-- A whole number in another base. -/
def ofBase (base : Nat) (digits : List Char) : Number :=
  if digits.isEmpty then .nan
  else
    match digits.mapM (baseDigit? base) with
    | some values => nearest (values.foldl (fun total value => base * total + value) 0 : Nat)
    | none => .nan

/-- A decimal without a sign: digits with an optional point, at least one digit, an exponent. -/
def ofUnsigned (negative : Bool) (text : List Char) : Number :=
  if text = "Infinity".toList then .infinite negative
  else
    let (whole, afterWhole) := takeDigits text
    let (fraction, afterFraction) :=
      match afterWhole with
      | '.' :: rest => takeDigits rest
      | _ => ([], afterWhole)
    if whole.isEmpty && fraction.isEmpty then .nan
    else
      let (exponent, rest) := takeExponent afterFraction
      if rest.isEmpty then ofParts negative whole fraction exponent else .nan

/-- The number that a text denotes; a text that denotes none gives a NaN, a blank one zero. -/
def ofNumeral (text : String) : Number :=
  match Text.trimChars text.toList with
  | [] => .finite 0
  | '0' :: mark :: rest =>
      if mark = 'x' ∨ mark = 'X' then ofBase 16 rest
      else if mark = 'o' ∨ mark = 'O' then ofBase 8 rest
      else if mark = 'b' ∨ mark = 'B' then ofBase 2 rest
      else ofUnsigned false ('0' :: mark :: rest)
  | '-' :: rest => ofUnsigned true rest
  | '+' :: rest => ofUnsigned false rest
  | text => ofUnsigned false text

/-- The natural number that a run of digits denotes, if it is safe. The digits go through the
nearest binary64 number. -/
def naturalOf? (digits : List Char) : Option Nat :=
  if Text.isDigits digits then (ofDigits digits).safeNat? else none

end Number

namespace Value

/-- A safe natural number, given as a number or as a text of digits that may have blanks around. -/
def asNat? : Value → Option Nat
  | .number value => value.safeNat?
  | .text value => Number.naturalOf? (Text.trimChars value.toList)
  | _ => none

/-- A value as a number: null and false are 0, true is 1, anything else is read as it is displayed. -/
def toNumber? : Value → Option Number
  | .null => some (.finite 0)
  | .flag value => some (if value then .finite 1 else .finite 0)
  | .number value => some value
  | value => value.display?.map Number.ofNumeral

end Value

end RollCall
