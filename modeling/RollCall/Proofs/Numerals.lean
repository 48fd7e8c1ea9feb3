import Mathlib.Data.Nat.Digits.Defs
import RollCall.Proofs.Documents
import RollCall.Proofs.Grammar
import RollCall.Proofs.Rounding

/-!
# The texts of numbers

The decimal that is written for a number lies in the interval of that number: of the grids that are
tried, the one of seventeen digits is finer than any interval is wide. However its digits are laid
out, the text is a number of a document and reads back as the number that it was written for.
-/

set_option autoImplicit false

namespace RollCall.Number

/-!
## The decimal that is written
-/

theorem tenPower_le_of_toDigits {value : Nat} (positive : 0 < value) :
    10 ^ ((Nat.toDigits 10 value).length - 1) ≤ value := by
  rcases Nat.eq_zero_or_pos ((Nat.toDigits 10 value).length - 1) with single | more
  · rw [single]
    exact positive
  · have long : ¬ (Nat.toDigits 10 value).length ≤ (Nat.toDigits 10 value).length - 1 := by omega
    rw [Nat.length_toDigits_le_iff (by decide) more] at long
    exact Nat.not_lt.mp long

theorem leadingPlace_spec {value : Rat} {fuel places : Nat}
    (enough : 1 ≤ value * 10 ^ (places + fuel)) :
    1 ≤ value * 10 ^ leadingPlace value fuel places := by
  induction fuel generalizing places with
  | zero => exact enough
  | succ fuel ih =>
      unfold leadingPlace
      split
      case isTrue shown => exact_mod_cast shown
      case isFalse => exact ih (by rwa [Nat.add_right_comm])

/-- No number is less than the power of ten of its leading exponent. -/
theorem leadingExponent_le {value : Rat} (least : 2 ^ (-1074 : Int) ≤ value) :
    10 ^ leadingExponent value ≤ value := by
  unfold leadingExponent
  split
  case isTrue large =>
    have floored : (1 : Int) ≤ value.floor := Rat.le_floor_iff.mpr (by exact_mod_cast large)
    have power := tenPower_le_of_toDigits (show 0 < value.floor.natAbs by omega)
    have length := Nat.length_toDigits_pos (b := 10) (n := value.floor.natAbs)
    obtain ⟨places, same⟩ :
        ∃ places, (Nat.toDigits 10 value.floor.natAbs).length = places + 1 :=
      ⟨_, (Nat.sub_add_cancel length).symm⟩
    rw [same] at power ⊢
    have counted : (value.floor.natAbs : Int) = value.floor := Int.natAbs_of_nonneg (by omega)
    calc
      (10 : Rat) ^ (Int.ofNat (places + 1) - 1) = (10 ^ places : Nat) := by simp
      _ ≤ (value.floor.natAbs : Nat) := Nat.cast_le.mpr power
      _ = (value.floor : Rat) := by rw [← Int.cast_natCast, counted]
      _ ≤ value := Rat.floor_le value
  case isFalse =>
    have enough : 1 ≤ value * 10 ^ (1 + 330) := by
      have wide : (1 : Rat) ≤ 2 ^ (-1074 : Int) * 10 ^ (1 + 330) := by
        have wide : 2 ^ 1074 ≤ 10 ^ (1 + 330) := by decide +kernel
        rw [zpow_neg, ← div_eq_inv_mul, one_le_div (by positivity)]
        exact_mod_cast wide
      exact wide.trans (mul_le_mul_of_nonneg_right least (by positivity))
    have shown := leadingPlace_spec enough
    rw [Int.ofNat_eq_natCast, zpow_neg, zpow_natCast, inv_le_iff_one_le_mul₀ (by positivity)]
    exact shown

/-- A decimal that lies in an interval and is not zero. -/
structure Fits (range : Interval) (decimal : Decimal) : Prop where
  some : 0 < decimal.digits
  inside : range.contains (decimal.digits * 10 ^ decimal.exponent) = true

theorem fits_of_nearestOnGrid {value : Rat} {range : Interval} {exponent : Int} {decimal : Decimal}
    (found : nearestOnGrid value range exponent = some decimal) : Fits range decimal := by
  unfold nearestOnGrid at found
  simp only [powerOf_eq, Nat.cast_ofNat] at found
  generalize (value / 10 ^ exponent).floor.natAbs = lower at found
  have below (fits : (decide (0 < lower) && range.contains (lower * 10 ^ exponent)) = true) :
      Fits range ⟨lower, exponent⟩ := by
    obtain ⟨some, inside⟩ := Bool.and_eq_true_iff.mp fits
    exact ⟨of_decide_eq_true some, inside⟩
  have above (fits : range.contains ((lower + 1 : Nat) * 10 ^ exponent) = true) :
      Fits range ⟨lower + 1, exponent⟩ := ⟨Nat.succ_pos _, fits⟩
  split at found
  case isTrue both =>
    obtain ⟨lowerFits, upperFits⟩ := Bool.and_eq_true_iff.mp both
    split_ifs at found <;> cases found
    · exact below lowerFits
    · exact above upperFits
    · exact below lowerFits
    · exact above upperFits
  case isFalse =>
    split_ifs at found with lowerFits upperFits <;> cases found
    · exact below lowerFits
    · exact above upperFits

/-- A grid that is finer than the interval is wide has a decimal in it. -/
theorem nearestOnGrid_isSome {value : Rat} {significand : Nat} {exponent : Int}
    (parts : Split value significand exponent) {places : Int} (large : 10 ^ places ≤ value)
    (fine : (10 : Rat) ^ places < reach significand exponent + 2 ^ exponent / 2) :
    (nearestOnGrid value (interval value) places).isSome = true := by
  have step : (0 : Rat) < 10 ^ places := by positivity
  have whole : (1 : Int) ≤ (value / 10 ^ places).floor :=
    Rat.le_floor_iff.mpr (by exact_mod_cast (one_le_div step).mpr large)
  obtain ⟨lower, counted⟩ : ∃ lower : Nat, (value / 10 ^ places).floor = lower :=
    Int.eq_ofNat_of_zero_le (by omega)
  have low : lower * 10 ^ places ≤ value := by
    have floored := Rat.floor_le (value / 10 ^ places)
    rw [counted] at floored
    exact (le_div_iff₀ step).mp (by exact_mod_cast floored)
  have high : value < (lower + 1 : Nat) * 10 ^ places := by
    have next := Rat.lt_floor_add_one (value / 10 ^ places)
    rw [counted] at next
    exact (div_lt_iff₀ step).mp (by exact_mod_cast next)
  have reached := reach_pos significand exponent
  have unit : (0 : Rat) < 2 ^ exponent := by positivity
  unfold nearestOnGrid
  simp only [powerOf_eq, Nat.cast_ofNat, counted, Int.natAbs_natCast]
  -- the two neighbours are a step apart, so one of them lies in the interval
  by_cases near : (lower + 1 : Nat) * (10 : Rat) ^ places < value + 2 ^ exponent / 2
  · have upperFits : (interval value).contains ((lower + 1 : Nat) * 10 ^ places) = true :=
      parts.contains_iff.mpr (.inl ⟨by linarith, near⟩)
    simp only [upperFits, Bool.and_true, if_true]
    split_ifs <;> rfl
  · push_cast at near
    have lowerFits : (interval value).contains (lower * 10 ^ places) = true :=
      parts.contains_iff.mpr (.inl ⟨by linarith, by linarith⟩)
    have some : 0 < lower := by omega
    simp only [lowerFits, some, decide_true, Bool.and_true, Bool.true_and, if_true]
    split_ifs <;> rfl

theorem fits_of_firstGrid {value : Rat} {range : Interval} {fuel later : Nat} {exponent : Int}
    (soon : later < fuel)
    (found : (nearestOnGrid value range (exponent - later)).isSome = true) :
    Fits range (firstGrid value range fuel exponent) := by
  induction fuel generalizing later exponent with
  | zero => omega
  | succ fuel ih =>
      unfold firstGrid
      split
      case h_1 decimal here => exact fits_of_nearestOnGrid here
      case h_2 none =>
        cases later with
        | zero =>
            rw [Int.ofNat_zero, sub_zero, none] at found
            cases found
        | succ later =>
            refine ih (Nat.lt_of_succ_lt_succ soon) ?_
            rwa [sub_sub, add_comm, ← Nat.cast_succ]

/-- With seventeen digits there always is one. -/
theorem fits_shortest {value : Rat} {significand : Nat} {exponent : Int}
    (parts : Split value significand exponent) : Fits (interval value) (shortest value) := by
  have unit : (0 : Rat) < 2 ^ exponent := by positivity
  have few : (significand : Rat) ≤ 2 ^ 53 := by exact_mod_cast parts.few.le
  have eq := parts.eq
  have least : 2 ^ (-1074 : Int) ≤ value := by
    have some : (1 : Rat) ≤ significand := by exact_mod_cast parts.some
    have smallest := zpow_le_zpow_right₀ (one_le_two (α := Rat)) parts.least
    nlinarith
  have large := leadingExponent_le least
  have step : (10 : Rat) ^ leadingExponent value =
      10 ^ (leadingExponent value - (16 : Nat)) * 10 ^ 16 := by
    rw [← zpow_natCast, ← zpow_add₀ (by norm_num), sub_add_cancel]
  have positive : (0 : Rat) < 10 ^ (leadingExponent value - (16 : Nat)) := by positivity
  refine fits_of_firstGrid (show 16 < 17 by decide) (nearestOnGrid_isSome parts ?_ ?_)
  · linarith
  · rw [step] at large
    generalize (10 : Rat) ^ (leadingExponent value - (16 : Nat)) = grid at large ⊢
    unfold reach
    split
    case isTrue power =>
      rw [power.1] at eq
      push_cast at eq
      linarith
    case isFalse =>
      have most := mul_le_mul_of_nonneg_right few unit.le
      linarith

/-!
## Reading a decimal
-/

/-- What is settled without multiplying out is too small to be told from zero. -/
private theorem lt_of_tiny {digits places : Nat} (tiny : digits.log2 + 1076 ≤ 3 * places) :
    (digits * 10 ^ (-places : Int) : Rat) < 2 ^ (-1075 : Int) := by
  have short : digits < 2 ^ (digits.log2 + 1) := Nat.lt_log2_self
  have long : 2 ^ (digits.log2 + 1 + 1075) ≤ 10 ^ places := by
    calc
      2 ^ (digits.log2 + 1 + 1075) ≤ 2 ^ (3 * places) :=
        Nat.pow_le_pow_right two_pos (by omega)
      _ = 8 ^ places := pow_mul 2 3 places
      _ ≤ 10 ^ places := Nat.pow_le_pow_left (by decide) places
  have product : digits * 2 ^ 1075 < 10 ^ places :=
    lt_of_lt_of_le (Nat.mul_lt_mul_of_pos_right short (by positivity)) (pow_add 2 _ 1075 ▸ long)
  rw [zpow_neg, zpow_neg, zpow_natCast, ← div_eq_mul_inv, div_lt_iff₀ (by positivity),
    inv_mul_eq_div, lt_div_iff₀ (by positivity)]
  exact_mod_cast product

theorem ofDecimal_eq {digits : Nat} {scale : Int} (negative : Bool)
    (low : 2 ^ (-1075 : Int) ≤ (digits * 10 ^ scale : Rat))
    (high : (digits * 10 ^ scale : Rat) < 2 ^ (1025 : Int)) :
    ofDecimal negative digits scale =
      nearest (if negative then -(digits * 10 ^ scale) else digits * 10 ^ scale) := by
  have some : digits ≠ 0 := by
    rintro rfl
    rw [Nat.cast_zero, zero_mul] at low
    exact (zpow_pos two_pos _).not_ge low
  have notHuge : ¬ 400 < scale := by
    intro huge
    have beyond : 2 ^ 1025 ≤ 10 ^ 401 := by decide +kernel
    have least : (1 : Rat) ≤ digits := by exact_mod_cast Nat.pos_of_ne_zero some
    refine high.not_ge ?_
    calc
      (2 : Rat) ^ (1025 : Int) ≤ 10 ^ (401 : Int) := by exact_mod_cast beyond
      _ ≤ 10 ^ scale := zpow_le_zpow_right₀ (by norm_num) (by omega)
      _ ≤ digits * 10 ^ scale := le_mul_of_one_le_left (by positivity) least
  have notTiny : ¬ (scale < 0 ∧ digits.log2 + 1076 ≤ 3 * scale.natAbs) := by
    rintro ⟨below, tiny⟩
    refine (lt_of_tiny tiny).not_ge ?_
    rwa [show (-scale.natAbs : Int) = scale by omega]
  unfold ofDecimal
  rw [if_neg some, if_neg notHuge, if_neg notTiny]
  dsimp only
  congr 2
  all_goals
    split
    case isTrue natural =>
      obtain ⟨power, rfl⟩ := Int.eq_ofNat_of_zero_le natural
      simp
    case isFalse below =>
      obtain ⟨power, rfl⟩ : ∃ power : Nat, scale = -(power : Int) :=
        ⟨(-scale).toNat, by omega⟩
      simp [Rat.mkRat_eq_div, div_eq_mul_inv]

/-- A decimal in the interval of a number is read as that number. -/
theorem ofDecimal_of_contains {value : Rat} {significand : Nat} {exponent : Int}
    (parts : Split value significand exponent) {digits : Nat} {scale : Int} (negative : Bool)
    (inside : (interval value).contains (digits * 10 ^ scale) = true) :
    ofDecimal negative digits scale = .finite (if negative then -value else value) := by
  obtain ⟨low, high, -⟩ := parts.bounds_of_contains inside
  have reach := reach_le significand exponent
  have unit : (0 : Rat) < 2 ^ exponent := by positivity
  have some : (1 : Rat) ≤ significand := by exact_mod_cast parts.some
  have above : 2 ^ exponent ≤ value := by
    rw [parts.eq]
    exact le_mul_of_one_le_left unit.le some
  have least : (2 : Rat) ^ (-1075 : Int) ≤ 2 ^ exponent / 2 := by
    rw [div_eq_mul_inv, ← zpow_sub_one₀ two_ne_zero]
    exact zpow_le_zpow_right₀ one_le_two (by have := parts.least; omega)
  have small : (digits * 10 ^ scale : Rat) < 2 ^ (1025 : Int) := by
    have double : (2 : Rat) ^ (1025 : Int) = 2 * 2 ^ 1024 := by
      rw [← pow_succ']
      exact zpow_natCast 2 1025
    have small := parts.small
    rw [double]
    generalize (2 : Rat) ^ 1024 = bound at small ⊢
    linarith
  have positive : (0 : Rat) < digits * 10 ^ scale := by linarith
  rw [ofDecimal_eq negative (by linarith) small]
  cases negative with
  | false => exact parts.nearest_of_contains inside
  | true =>
      have nearest := parts.nearest_of_contains inside
      rw [if_pos rfl, nearest_neg positive, nearest]
      rfl

/-!
## Digits
-/

theorem digitsValue_append (front back : List Char) :
    digitsValue (front ++ back) = digitsValue front * 10 ^ back.length + digitsValue back := by
  induction back using List.reverseRecOn with
  | nil => simp [digitsValue]
  | append_singleton back last ih =>
      have next (chars : List Char) : digitsValue (chars ++ [last]) =
          10 * digitsValue chars + (digit? last).getD 0 := by simp [digitsValue]
      rw [← List.append_assoc, next, next, ih, List.length_append, List.length_singleton, pow_succ]
      ring

theorem digitsValue_zeros (count : Nat) : digitsValue (List.replicate count '0') = 0 := by
  induction count with
  | zero => rfl
  | succ count ih => rw [List.replicate_succ', digitsValue_append, ih]; rfl

theorem digitsValue_toDigits (value : Nat) : digitsValue (Nat.toDigits 10 value) = value := by
  have spelled := inDigits_toString value
  have written : (toString value).toList = Nat.toDigits 10 value := Nat.toList_repr
  rw [← written, digitsValue_eq spelled.digits, ← spelled.denoted]

theorem digits_toDigits (value : Nat) : Json.Digits (Nat.toDigits 10 value) := by
  have spelled := inDigits_toString value
  have written : (toString value).toList = Nat.toDigits 10 value := Nat.toList_repr
  exact fun char member => isDigit_iff.mpr (spelled.digits char (written ▸ member))

/-- Nothing but zero starts with a zero. -/
theorem head?_toDigits {value : Nat} (positive : 0 < value) :
    (Nat.toDigits 10 value).head? ≠ some '0' := by
  induction value using Nat.strong_induction_on with
  | _ value ih =>
    rw [Nat.toDigits_eq_if (by decide)]
    split
    case isTrue small =>
      have single : ∀ value < 10, 0 < value → [Nat.digitChar value].head? ≠ some '0' := by
        decide
      exact single value small positive
    case isFalse large =>
      rw [List.head?_append_of_ne_nil _ Nat.toDigits_ne_nil]
      exact ih (value / 10) (by omega) (by omega)

theorem exists_trimZeros (digits : List Char) :
    ∃ count, digits = trimZeros digits ++ List.replicate count '0' := by
  have zeros := List.eq_replicate_of_mem (a := '0') (l := digits.reverse.takeWhile (· == '0'))
    fun char member => beq_iff_eq.mp (List.all_eq_true.mp List.all_takeWhile char member)
  have split := List.takeWhile_append_dropWhile (p := (· == '0')) (l := digits.reverse)
  rw [zeros] at split
  refine ⟨(digits.reverse.takeWhile (· == '0')).length, ?_⟩
  rw [← List.reverse_inj, List.reverse_append, List.reverse_replicate, trimZeros,
    List.reverse_reverse]
  exact split.symm

theorem digits_zeros (count : Nat) : Json.Digits (List.replicate count '0') := by
  intro char member
  rw [List.eq_of_mem_replicate member]
  decide

theorem digits_append {front back : List Char} (digits : Json.Digits front)
    (digits' : Json.Digits back) : Json.Digits (front ++ back) := fun char member =>
  (List.mem_append.mp member).elim (digits char) (digits' char)

/-!
## The layout of digits
-/

/-- A number of a document without a sign, and the rational that it denotes. -/
inductive Denotes : List Char → Rat → Prop where
  | mk {whole point fraction power : List Char} {exponent : Int}
      (spelled : Json.SpellsWhole whole) (pointed : Json.SpellsFraction point fraction)
      (powered : Json.SpellsExponent power exponent) :
      Denotes (whole ++ (point ++ power))
        (digitsValue (whole ++ fraction) * 10 ^ (exponent - fraction.length))

section Layout

variable {first : Char} {rest : List Char} (nonzero : first ≠ '0')
  (digits : Json.Digits (first :: rest))

include digits

theorem denotes_behind (count : Nat) :
    Denotes ('0' :: '.' :: (List.replicate count '0' ++ first :: rest))
      (digitsValue (first :: rest) * 10 ^ (-(count + (first :: rest).length) : Int)) := by
  have denoted := Denotes.mk .zero
    (.some (List.append_ne_nil_of_right_ne_nil _ (List.cons_ne_nil first rest))
      (digits_append (digits_zeros count) digits)) .none
  have zero : digitsValue ['0'] = 0 := by decide
  simp only [digitsValue_append, digitsValue_zeros, zero, zero_mul, zero_add, zero_sub] at denoted
  simpa using denoted

include nonzero

theorem denotes_whole (count : Nat) :
    Denotes (first :: rest ++ List.replicate count '0')
      (digitsValue (first :: rest) * 10 ^ (count : Int)) := by
  have whole : Json.SpellsWhole (first :: (rest ++ List.replicate count '0')) :=
    .other nonzero (digits_append digits (digits_zeros count))
  have denoted := Denotes.mk whole .none .none
  simp only [← List.cons_append, List.append_nil, digitsValue_append, digitsValue_zeros] at denoted
  simpa using denoted

/-- Digits with a point behind some of them. -/
theorem denotes_pointed {before behind : List Char}
    (split : first :: before ++ behind = first :: rest) (some : behind ≠ []) :
    Denotes (first :: before ++ '.' :: behind)
      (digitsValue (first :: rest) * 10 ^ (-behind.length : Int)) := by
  have all := split ▸ digits
  have whole : Json.SpellsWhole (first :: before) :=
    .other nonzero fun char member => all char (List.mem_append_left _ member)
  have denoted := Denotes.mk whole
    (.some some fun char member => all char (List.mem_append_right _ member)) .none
  rw [split, List.append_nil, zero_sub] at denoted
  exact denoted

/-- Digits with a point behind the first of them, if there are more, and an exponent. -/
theorem denotes_scientific {point power : List Char} {exponent : Int}
    (pointed : Json.SpellsFraction point rest) (powered : Json.SpellsExponent power exponent) :
    Denotes (first :: (point ++ power))
      (digitsValue (first :: rest) * 10 ^ (exponent - rest.length)) := by
  have whole : Json.SpellsWhole [first] := .other nonzero fun char member => by
    rw [List.mem_singleton.mp member]
    exact digits first List.mem_cons_self
  exact Denotes.mk whole pointed powered

end Layout

/-- The digits of a decimal without the zeros behind them, and how many zeros these are. -/
theorem exists_digits {value : Nat} (positive : 0 < value) : ∃ first rest count,
    first ≠ '0' ∧ Json.Digits (first :: rest) ∧
      trimZeros (Nat.toDigits 10 value) = first :: rest ∧
      (Nat.toDigits 10 value).length = (first :: rest).length + count ∧
      value = digitsValue (first :: rest) * 10 ^ count := by
  obtain ⟨count, split⟩ := exists_trimZeros (Nat.toDigits 10 value)
  have digits := digits_toDigits value
  have lead := head?_toDigits positive
  have read := digitsValue_toDigits value
  generalize trimZeros (Nat.toDigits 10 value) = front at split ⊢
  rw [split] at digits lead read ⊢
  cases front with
  | nil =>
      rw [List.nil_append, digitsValue_zeros] at read
      omega
  | cons first rest =>
      refine ⟨first, rest, count, fun same => lead (by rw [same]; rfl), fun char member => ?_, rfl,
        by simp only [List.length_append, List.length_replicate], ?_⟩
      · exact digits char (List.mem_append_left _ member)
      · rw [digitsValue_append, digitsValue_zeros, List.length_replicate] at read
        exact read.symm

theorem spells_exponent (exponent : Int) : Json.SpellsExponent
    ('e' :: ((if exponent < 0 then "-" else "+").toList ++ (toString exponent.natAbs).toList))
    exponent := by
  have written : (toString exponent.natAbs).toList = Nat.toDigits 10 exponent.natAbs :=
    Nat.toList_repr
  have nonempty : Nat.toDigits 10 exponent.natAbs ≠ [] := Nat.toDigits_ne_nil
  have digits := digits_toDigits exponent.natAbs
  have value := digitsValue_toDigits exponent.natAbs
  rw [written]
  split
  case isTrue negative =>
    have spelled := Json.SpellsExponent.minus (.inl (Eq.refl 'e')) nonempty digits
    rwa [value, show -(exponent.natAbs : Int) = exponent by omega] at spelled
  case isFalse natural =>
    have spelled := Json.SpellsExponent.plus (.inl (Eq.refl 'e')) nonempty digits
    rwa [value, show (exponent.natAbs : Int) = exponent by omega] at spelled

/-- However a decimal is laid out, the text denotes it. -/
theorem denotes_write (layout : Layout) {decimal : Decimal} (some : 0 < decimal.digits) :
    Denotes (layout.write decimal).toList (decimal.digits * 10 ^ decimal.exponent) := by
  obtain ⟨first, rest, count, nonzero, digits, trimmed, length, value⟩ := exists_digits some
  obtain ⟨point, same⟩ : ∃ point : Int,
      Int.ofNat (Nat.toDigits 10 decimal.digits).length + decimal.exponent = point := ⟨_, rfl⟩
  have scaled : (decimal.digits * 10 ^ decimal.exponent : Rat) =
      digitsValue (first :: rest) * 10 ^ (point - (first :: rest).length) := by
    rw [← same, length, value, Nat.cast_mul, mul_assoc, Nat.cast_pow, ← zpow_natCast,
      Nat.cast_ofNat, ← zpow_add₀ (by norm_num)]
    congr 2
    rw [Int.ofNat_eq_natCast, Nat.cast_add]
    ring
  unfold Layout.write
  dsimp only
  rw [trimmed, same, scaled]
  -- The layouts differ in where the point stands: behind the digits, between them, in front of
  -- them, or behind the first of them with an exponent.
  split
  case isTrue whole =>
    have zeros : (point - (first :: rest).length).toNat = point - (first :: rest).length := by omega
    have denoted := denotes_whole nonzero digits (point - (first :: rest).length).toNat
    rw [zeros] at denoted
    rwa [String.toList_ofList]
  case isFalse beyond =>
  split
  case isTrue inside =>
    obtain ⟨places, rfl⟩ : ∃ places : Nat, point = places + 1 := ⟨point.toNat - 1, by omega⟩
    have short : places < rest.length := by
      rw [List.length_cons] at beyond
      omega
    have denoted := denotes_pointed nonzero digits
      (show first :: rest.take places ++ rest.drop places = first :: rest by
        rw [List.cons_append, List.take_append_drop])
      (List.drop_eq_nil_iff.not.mpr (by omega))
    have behind : -((rest.drop places).length : Int) = places + 1 - (first :: rest).length := by
      rw [List.length_drop, List.length_cons]
      omega
    rw [behind] at denoted
    rw [String.toList_ofList, show ((places : Int) + 1).toNat = places + 1 by omega]
    exact denoted
  case isFalse =>
  split
  case isTrue before =>
    have zeros : -((-point).toNat + (first :: rest).length : Int) =
        point - (first :: rest).length := by omega
    have denoted := denotes_behind digits (-point).toNat
    rw [zeros] at denoted
    rwa [String.toList_ofList]
  case isFalse =>
    have powered := spells_exponent (point - 1)
    have scale : point - 1 - (rest.length : Int) = point - (first :: rest).length := by
      rw [List.length_cons]
      omega
    rw [← scale]
    cases rest with
    | nil =>
        have denoted := denotes_scientific nonzero digits .none powered
        simpa [String.toList_append] using denoted
    | cons second more =>
        have denoted := denotes_scientific nonzero digits (.some (List.cons_ne_nil second more)
          fun char member => digits char (List.mem_cons_of_mem _ member)) powered
        simpa [String.toList_append] using denoted

/-!
## Texts
-/

theorem Denotes.spells {value found : Rat} {significand : Nat} {exponent : Int}
    (parts : Split value significand exponent) {chars : List Char} (denotes : Denotes chars found)
    (inside : (interval value).contains found = true) :
    Json.SpellsNumber chars (.finite value) ∧
      Json.SpellsNumber ('-' :: chars) (.finite (-value)) := by
  cases denotes with
  | @mk whole point fraction power exponent spelled pointed powered =>
      have spelled' : Json.SpellsParts (whole ++ (point ++ power)) whole fraction exponent :=
        ⟨⟨point, power, rfl, pointed, powered⟩, spelled⟩
      have plus := ofDecimal_of_contains parts false inside
      have minus := ofDecimal_of_contains parts true inside
      exact ⟨plus ▸ .positive spelled', minus ▸ .negative spelled'⟩

theorem denotes_toString {value : Nat} (positive : 0 < value) :
    Denotes (toString value).toList value := by
  have written : (toString value).toList = Nat.toDigits 10 value := Nat.toList_repr
  have digits := digits_toDigits value
  have lead := head?_toDigits positive
  have read := digitsValue_toDigits value
  rw [written]
  have nonempty : Nat.toDigits 10 value ≠ [] := Nat.toDigits_ne_nil
  obtain ⟨first, rest, same⟩ := List.exists_cons_of_ne_nil nonempty
  rw [same] at digits lead read ⊢
  have denoted := denotes_whole (fun zero => lead (by rw [zero]; rfl)) digits 0
  rw [read] at denoted
  simpa using denoted

theorem text_finite (value : Rat) : text (.finite value) =
    if isSafeInteger value then toString value.num
    else if value < 0 then "-" ++ layout.write (shortest (-value))
    else layout.write (shortest value) := rfl

theorem exists_natural_of_safe {value : Rat} (positive : 0 < value)
    (safe : isSafeInteger value = true) : ∃ natural : Nat, 0 < natural ∧ value = natural := by
  obtain ⟨integer, rfl, -⟩ := isSafeInteger_iff.mp safe
  have positive' : 0 < integer := Int.cast_pos.mp positive
  obtain ⟨natural, rfl⟩ := Int.eq_ofNat_of_zero_le positive'.le
  exact ⟨natural, by omega, by simp⟩

/-- The text of a positive number denotes a rational of the interval of that number. -/
theorem exists_denotes_text {value : Rat} {significand : Nat} {exponent : Int}
    (parts : Split value significand exponent) (positive : 0 < value) :
    ∃ found, Denotes (text (.finite value)).toList found ∧
      (interval value).contains found = true := by
  rw [text_finite]
  split
  case isTrue safe =>
    obtain ⟨natural, some, same⟩ := exists_natural_of_safe positive safe
    have inside : (interval value).contains value = true := by
      have reached := reach_pos significand exponent
      have unit : (0 : Rat) < 2 ^ exponent := by positivity
      exact parts.contains_iff.mpr (.inl ⟨by linarith, by linarith⟩)
    refine ⟨value, ?_, inside⟩
    rw [same, Rat.num_natCast]
    exact denotes_toString some
  case isFalse =>
    have fits := fits_shortest parts
    rw [if_neg positive.le.not_gt]
    exact ⟨_, denotes_write layout fits.some, fits.inside⟩

theorem text_neg {value : Rat} (positive : 0 < value) :
    (text (.finite (-value))).toList = '-' :: (text (.finite value)).toList := by
  rw [text_finite, text_finite, isSafeInteger_neg]
  split
  case isTrue safe =>
    obtain ⟨natural, some, rfl⟩ := exists_natural_of_safe positive safe
    obtain ⟨less, rfl⟩ := Nat.exists_eq_succ_of_ne_zero some.ne'
    rw [Rat.neg_num, Rat.num_natCast]
    change ("-" ++ toString (less + 1)).toList = _
    rw [String.toList_append]
    rfl
  case isFalse =>
    rw [if_pos (neg_lt_zero.mpr positive), if_neg positive.le.not_gt, neg_neg, String.toList_append]
    rfl

theorem OnGrid.neg {value : Rat} (grid : OnGrid (-value)) (positive : 0 < value) : OnGrid value := by
  unfold OnGrid at grid ⊢
  rw [nearest_neg positive] at grid
  cases found : nearest value with
  | nan =>
      rw [found] at grid
      cases (show nan = finite (-value) from grid)
  | infinite negative =>
      rw [found] at grid
      cases (show infinite (!negative) = finite (-value) from grid)
  | finite other =>
      rw [found] at grid
      have same := Number.finite.inj (show finite (-other) = finite (-value) from grid)
      rw [neg_inj.mp same]

/-- The text of a number is a number of a document, and reads back as it was. -/
theorem spells_text {value : Rat} (grid : OnGrid value) :
    Json.SpellsNumber (text (.finite value)).toList (.finite value) := by
  rcases lt_trichotomy value 0 with negative | rfl | positive
  · obtain ⟨other, rfl⟩ : ∃ other, value = -other := ⟨-value, (neg_neg value).symm⟩
    have positive : 0 < other := neg_lt_zero.mp negative
    obtain ⟨significand, exponent, parts⟩ := (grid.neg positive).exists_split positive
    obtain ⟨found, denotes, inside⟩ := exists_denotes_text parts positive
    rw [text_neg positive]
    exact (denotes.spells parts inside).2
  · exact .positive ⟨⟨[], [], rfl, .none, .none⟩, .zero⟩
  · obtain ⟨significand, exponent, parts⟩ := grid.exists_split positive
    obtain ⟨found, denotes, inside⟩ := exists_denotes_text parts positive
    exact (denotes.spells parts inside).1

end RollCall.Number
