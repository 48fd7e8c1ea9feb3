import Mathlib.Algebra.Order.Archimedean.Basic
import Mathlib.Algebra.Order.Field.Power
import Mathlib.Data.Rat.Floor
import Mathlib.Tactic.Linarith
import Mathlib.Tactic.NormNum
import Mathlib.Tactic.Positivity
import Mathlib.Tactic.Ring
import RollCall.Number.Shortest

/-!
# Rounding to binary64

A positive number is a significand of at most 53 bits times a power of two, and every rational of
the interval around it is rounded to it. That is proved here of rounding as it is computed, with
quotients of natural numbers, and tells which decimals read back as the number.
-/

set_option autoImplicit false

namespace RollCall.Number

/-!
## Powers
-/

theorem powerOf_eq (base : Nat) (exponent : Int) :
    powerOf base exponent = (base : Rat) ^ exponent := by
  unfold powerOf
  split
  case isTrue natural =>
    obtain ⟨power, rfl⟩ := Int.eq_ofNat_of_zero_le natural
    simp [Rat.mkRat_one]
  case isFalse negative =>
    obtain ⟨power, rfl⟩ : ∃ power : Nat, exponent = -(power : Int) :=
      ⟨(-exponent).toNat, by omega⟩
    simp [Rat.mkRat_eq_div]

theorem scaleDown_spec {numerator denominator : Nat} (positive : 0 < denominator) (exponent : Int) :
    0 < (scaleDown numerator denominator exponent).2 ∧
      ((scaleDown numerator denominator exponent).1 : Rat) /
        (scaleDown numerator denominator exponent).2 =
      numerator / denominator / (2 : Rat) ^ exponent := by
  unfold scaleDown
  split
  case isTrue natural =>
    obtain ⟨power, rfl⟩ := Int.eq_ofNat_of_zero_le natural
    refine ⟨?_, ?_⟩
    · simpa using positive
    · simp [div_div]
  case isFalse negative =>
    obtain ⟨power, rfl⟩ : ∃ power : Nat, exponent = -(power : Int) :=
      ⟨(-exponent).toNat, by omega⟩
    refine ⟨positive, ?_⟩
    simp [div_mul_eq_mul_div]

/-!
## Nearest natural numbers
-/

/-- A natural number is nearest to a rational, the even one if two are. -/
def IsNearest (value : Rat) (nearest : Nat) : Prop :=
  |value - nearest| < 1 / 2 ∨ |value - nearest| = 1 / 2 ∧ nearest % 2 = 0

/-- How far a quotient is from a natural number, without dividing. -/
theorem isNearest_div_iff {numerator denominator nearest : Nat} (positive : 0 < denominator) :
    IsNearest (numerator / denominator) nearest ↔
      2 * |(numerator : Int) - denominator * nearest| < denominator ∨
      2 * |(numerator : Int) - denominator * nearest| = denominator ∧ nearest % 2 = 0 := by
  have positive' : (0 : Rat) < denominator := Nat.cast_pos.mpr positive
  have distance : |(numerator / denominator : Rat) - nearest| =
      (|(numerator : Int) - denominator * nearest| : Int) / denominator := by
    push_cast
    rw [← abs_of_pos positive', ← abs_div, abs_of_pos positive', sub_div,
      mul_div_cancel_left₀ _ positive'.ne']
  unfold IsNearest
  rw [distance, div_lt_div_iff₀ positive' two_pos, div_eq_div_iff positive'.ne' two_ne_zero,
    one_mul, mul_comm]
  norm_cast

theorem nearestNat_eq {numerator denominator nearest : Nat} (positive : 0 < denominator)
    (isNearest : IsNearest (numerator / denominator) nearest) :
    nearestNat numerator denominator = nearest := by
  have near := (isNearest_div_iff positive).mp isNearest
  have split := Nat.div_add_mod numerator denominator
  have small := Nat.mod_lt numerator positive
  unfold nearestNat
  dsimp only
  generalize numerator / denominator = quotient at split ⊢
  generalize numerator % denominator = rest at split small ⊢
  -- the quotient, cut off, is the nearest or the one below
  obtain ⟨apart, same⟩ : ∃ apart : Int, (quotient : Int) = nearest + apart :=
    ⟨quotient - nearest, by ring⟩
  have distance : (numerator : Int) - denominator * nearest = denominator * apart + rest := by
    rw [← split]
    push_cast
    rw [same]
    ring
  rw [distance] at near
  have cut : apart = 0 ∨ apart = -1 := by
    have close : 2 * |denominator * apart + rest| ≤ denominator := by
      rcases near with less | ⟨equal, -⟩
      · exact less.le
      · exact equal.le
    have low := neg_abs_le (denominator * apart + rest : Int)
    have high := le_abs_self (denominator * apart + rest : Int)
    have least : -1 ≤ apart := by
      by_contra far
      have further : (denominator * apart : Int) ≤ denominator * -2 :=
        mul_le_mul_of_nonneg_left (by omega) (by omega)
      omega
    have most : apart ≤ 0 := by
      by_contra far
      have further : (denominator * 1 : Int) ≤ denominator * apart :=
        mul_le_mul_of_nonneg_left (by omega) (by omega)
      omega
    omega
  rcases cut with rfl | rfl
  · rw [mul_zero, zero_add, abs_of_nonneg (Int.natCast_nonneg _)] at near
    split_ifs <;> omega
  · rw [abs_of_neg (by omega)] at near
    split_ifs <;> omega

/-!
## The unit of the last place
-/

private theorem log2_bounds {value : Nat} (some : 0 < value) :
    (2 : Rat) ^ (value.log2 : Int) ≤ value ∧ (value : Rat) < 2 ^ (value.log2 + 1 : Int) := by
  refine ⟨?_, ?_⟩
  · exact_mod_cast Nat.log2_self_le some.ne'
  · exact_mod_cast Nat.lt_log2_self

theorem lt_of_zpow_lt {base : Rat} (large : 1 < base) {left right : Int}
    (less : base ^ left < base ^ right) : left < right :=
  (zpow_lt_zpow_iff_right₀ large).mp less

theorem unitExponent_eq {numerator denominator : Nat} (some : 0 < numerator)
    (positive : 0 < denominator) {leading : Int}
    (least : (2 : Rat) ^ leading ≤ numerator / denominator)
    (most : (numerator / denominator : Rat) < 2 ^ (leading + 1)) :
    unitExponent numerator denominator = Max.max (leading - 52) (-1074) := by
  obtain ⟨above, below⟩ := log2_bounds some
  obtain ⟨above', below'⟩ := log2_bounds positive
  have positive' : (0 : Rat) < denominator := Nat.cast_pos.mpr positive
  -- the lengths of the two numbers leave two exponents
  have low : (2 : Rat) ^ ((numerator.log2 : Int) - denominator.log2 - 1) <
      numerator / denominator := by
    rw [sub_sub, zpow_sub₀ two_ne_zero]
    exact div_lt_div₀' above below' (by positivity) positive'
  have high : (numerator / denominator : Rat) <
      2 ^ ((numerator.log2 : Int) - denominator.log2 + 1) := by
    rw [sub_add_eq_add_sub, zpow_sub₀ two_ne_zero]
    exact div_lt_div₀ below above' (by positivity) (by positivity)
  have close := lt_of_zpow_lt one_lt_two (least.trans_lt high)
  have close' := lt_of_zpow_lt one_lt_two (low.trans most)
  obtain ⟨scaled, ratio⟩ := @scaleDown_spec numerator denominator positive
    (Int.ofNat numerator.log2 - Int.ofNat denominator.log2)
  unfold unitExponent
  dsimp only
  have guess : Int.ofNat numerator.log2 - Int.ofNat denominator.log2 =
    (numerator.log2 : Int) - denominator.log2 := rfl
  rw [guess] at scaled ratio ⊢
  generalize (numerator.log2 : Int) - denominator.log2 = guess at close close' scaled ratio ⊢
  generalize scaleDown numerator denominator guess = parts at scaled ratio ⊢
  have shorter : parts.1 < parts.2 ↔ (numerator / denominator : Rat) < 2 ^ guess := by
    have unit : (0 : Rat) < 2 ^ guess := by positivity
    have scaled' : (0 : Rat) < parts.2 := Nat.cast_pos.mpr scaled
    rw [← div_lt_one unit, ← ratio, div_lt_one scaled', Nat.cast_lt]
  split
  case isTrue less =>
    have cut := lt_of_zpow_lt one_lt_two (least.trans_lt (shorter.mp less))
    rw [show guess - 1 = leading by omega]
  case isFalse notLess =>
    have whole := lt_of_zpow_lt one_lt_two ((not_lt.mp (mt shorter.mpr notLess)).trans_lt most)
    rw [show guess = leading by omega]

/-!
## What is rounded where
-/

theorem num_div_den_of_pos {value : Rat} (positive : 0 < value) :
    0 < value.num.natAbs ∧ (value.num.natAbs / value.den : Rat) = value := by
  have counted : ((value.num.natAbs : Nat) : Int) = value.num :=
    Int.natAbs_of_nonneg (Rat.num_pos.mpr positive).le
  refine ⟨by have := Rat.num_pos.mpr positive; omega, ?_⟩
  rw [← Int.cast_natCast, counted, Rat.num_div_den]

/-- The exponent of the last place of a positive rational. -/
theorem exists_leading {value : Rat} (positive : 0 < value) :
    ∃ leading : Int, 2 ^ leading ≤ value ∧ value < 2 ^ (leading + 1) ∧
      unitExponent value.num.natAbs value.den = Max.max (leading - 52) (-1074) := by
  obtain ⟨leading, least, most⟩ := exists_mem_Ico_zpow positive one_lt_two
  obtain ⟨some, ratio⟩ := num_div_den_of_pos positive
  exact ⟨leading, least, most,
    unitExponent_eq some value.den_pos (ratio.symm ▸ least) (ratio.symm ▸ most)⟩

theorem isSafeInteger_iff {value : Rat} : isSafeInteger value = true ↔
    ∃ integer : Int, value = integer ∧ integer.natAbs ≤ safeBound := by
  unfold isSafeInteger
  rw [decide_eq_true_iff]
  constructor
  · rintro ⟨whole, small⟩
    exact ⟨value.num, (Rat.coe_int_num_of_den_eq_one whole).symm, small⟩
  · rintro ⟨integer, rfl, small⟩
    exact ⟨Rat.den_intCast _, by simpa using small⟩

/-- A natural number is nearest to no other one. -/
theorem IsNearest.eq_of_natCast {value nearest : Nat} (isNearest : IsNearest value nearest) :
    nearest = value := by
  have close : |((value - nearest : Int) : Rat)| ≤ 1 / 2 := by
    push_cast
    rcases isNearest with less | ⟨equal, -⟩
    · exact less.le
    · exact equal.le
  have none : |(value - nearest : Int)| < 1 := by
    have : |((value - nearest : Int) : Rat)| < 1 := by linarith
    exact_mod_cast this
  have := Int.abs_lt_one_iff.mp none
  omega

/-- A positive integer that is safe is a multiple of its last place. -/
theorem exists_multiple_of_safe {value : Rat} (positive : 0 < value)
    (safe : isSafeInteger value = true) :
    value < 2 ^ 53 ∧
      ∃ multiple : Nat, value / 2 ^ unitExponent value.num.natAbs value.den = multiple := by
  obtain ⟨integer, rfl, bound⟩ := isSafeInteger_iff.mp safe
  obtain ⟨leading, least, -, unit⟩ := exists_leading positive
  have small : integer < 2 ^ 53 := by
    unfold safeBound at bound
    omega
  have few : leading < 53 :=
    lt_of_zpow_lt one_lt_two (least.trans_lt (by exact_mod_cast small))
  obtain ⟨natural, rfl⟩ : ∃ natural : Nat, integer = natural :=
    Int.eq_ofNat_of_zero_le (Int.cast_pos.mp positive).le
  obtain ⟨places, same⟩ : ∃ places : Nat, Max.max (leading - 52) (-1074) = -(places : Int) :=
    ⟨(-Max.max (leading - 52) (-1074)).toNat, by omega⟩
  refine ⟨by exact_mod_cast small, natural * 2 ^ places, ?_⟩
  rw [unit, same]
  simp

/-- A positive rational is rounded to the multiple of its last place that is nearest to it. -/
theorem nearest_eq {value : Rat} (positive : 0 < value) {exponent : Int}
    (unit : unitExponent value.num.natAbs value.den = exponent) {significand : Nat}
    (isNearest : IsNearest (value / 2 ^ exponent) significand)
    (small : (significand * 2 ^ exponent : Rat) < 2 ^ 1024) :
    nearest value = .finite (significand * 2 ^ exponent) := by
  unfold nearest
  split
  case isTrue safe =>
    obtain ⟨-, multiple, whole⟩ := exists_multiple_of_safe positive safe
    rw [unit] at whole
    rw [whole] at isNearest
    rw [isNearest.eq_of_natCast, ← whole, div_mul_cancel₀ _ (by positivity)]
  case isFalse =>
    obtain ⟨scaled, ratio⟩ := @scaleDown_spec value.num.natAbs value.den value.den_pos exponent
    have found : nearestNat (scaleDown value.num.natAbs value.den exponent).1
        (scaleDown value.num.natAbs value.den exponent).2 = significand := by
      refine nearestNat_eq scaled ?_
      rwa [ratio, (num_div_den_of_pos positive).2]
    have finite : ¬ overflow ≤ significand * powerOf 2 exponent := by
      rw [overflow, powerOf_eq, powerOf_eq]
      exact not_le.mpr (by exact_mod_cast small)
    simp only [unit, found, if_neg finite, if_neg positive.le.not_gt]
    rw [powerOf_eq, Nat.cast_ofNat]

theorem isSafeInteger_neg (value : Rat) : isSafeInteger (-value) = isSafeInteger value := by
  simp [isSafeInteger]

theorem nearest_neg {value : Rat} (positive : 0 < value) : nearest (-value) = -nearest value := by
  unfold nearest
  rw [isSafeInteger_neg]
  split
  case isTrue => rfl
  case isFalse =>
    simp only [Rat.neg_num, Int.natAbs_neg, Rat.neg_den, neg_lt_zero, positive, positive.le.not_gt,
      if_true, if_false, decide_true, decide_false]
    split_ifs <;> rfl

/-!
## Numbers of the grid
-/

/-- A rational that is a binary64 number: rounding leaves it as it is. -/
def OnGrid (value : Rat) : Prop :=
  nearest value = .finite value

/-- The significand and the exponent of a positive binary64 number. -/
structure Split (value : Rat) (significand : Nat) (exponent : Int) : Prop where
  eq : value = significand * 2 ^ exponent
  unit : unitExponent value.num.natAbs value.den = exponent
  some : 0 < significand
  few : significand < 2 ^ 53
  least : -1074 ≤ exponent
  full : -1074 < exponent → 2 ^ 52 ≤ significand
  small : value < 2 ^ 1024

theorem OnGrid.exists_split {value : Rat} (grid : OnGrid value) (positive : 0 < value) :
    ∃ significand exponent, Split value significand exponent := by
  obtain ⟨leading, least, most, unit⟩ := exists_leading positive
  obtain ⟨exponent, same⟩ : ∃ exponent, Max.max (leading - 52) (-1074) = exponent := ⟨_, rfl⟩
  rw [same] at unit
  have unitPos : (0 : Rat) < 2 ^ exponent := by positivity
  -- rounding has left a multiple of the last place, and no overflow
  obtain ⟨small, significand, eq⟩ : value < 2 ^ 1024 ∧
      ∃ significand : Nat, value = significand * 2 ^ exponent := by
    unfold OnGrid nearest at grid
    split at grid
    case isTrue safe =>
      obtain ⟨small, multiple, whole⟩ := exists_multiple_of_safe positive safe
      rw [unit, div_eq_iff unitPos.ne'] at whole
      exact ⟨small.trans_le (pow_le_pow_right₀ one_le_two (by decide)), multiple, whole⟩
    case isFalse =>
      simp only [unit, if_neg positive.le.not_gt] at grid
      split at grid
      case isTrue => cases grid
      case isFalse finite =>
        rw [overflow, powerOf_eq, Number.finite.inj grid, not_le] at finite
        rw [powerOf_eq] at grid
        exact ⟨by exact_mod_cast finite, _, (Number.finite.inj grid).symm⟩
  have below : (significand : Rat) * 2 ^ exponent < 2 ^ (53 : Nat) * 2 ^ exponent := by
    rw [← eq, ← zpow_natCast, ← zpow_add₀ two_ne_zero]
    exact most.trans_le (zpow_le_zpow_right₀ one_le_two (by omega))
  refine ⟨significand, exponent, eq, unit, ?_, ?_, by omega, fun normal => ?_, small⟩
  · refine Nat.pos_of_ne_zero fun none => positive.ne' ?_
    rw [eq, none, Nat.cast_zero, zero_mul]
  · exact_mod_cast lt_of_mul_lt_mul_right below unitPos.le
  · have above : (2 : Rat) ^ (52 : Nat) * 2 ^ exponent ≤ significand * 2 ^ exponent := by
      rw [← eq, ← zpow_natCast, ← zpow_add₀ two_ne_zero]
      exact (zpow_le_zpow_right₀ one_le_two (by omega)).trans least
    exact_mod_cast le_of_mul_le_mul_right above unitPos

/-!
## Intervals
-/

/-- How far the interval of a number reaches below it: half a unit, but only a quarter where the
units below are half as large. -/
def reach (significand : Nat) (exponent : Int) : Rat :=
  if significand = 2 ^ 52 ∧ -1074 < exponent then 2 ^ exponent / 4 else 2 ^ exponent / 2

theorem reach_pos (significand : Nat) (exponent : Int) : 0 < reach significand exponent := by
  unfold reach
  split <;> positivity

theorem reach_le (significand : Nat) (exponent : Int) :
    reach significand exponent ≤ 2 ^ exponent / 2 := by
  have unit : (0 : Rat) < 2 ^ exponent := by positivity
  unfold reach
  split <;> linarith

namespace Split

variable {value other : Rat} {significand : Nat} {exponent : Int}
  (parts : Split value significand exponent)

include parts

theorem interval_eq : interval value =
    { low := value - reach significand exponent
      high := value + 2 ^ exponent / 2
      closed := decide (significand % 2 = 0) } := by
  have counted : (value / 2 ^ exponent).floor.natAbs = significand := by
    rw [parts.eq, mul_div_cancel_right₀ _ (by positivity), ← Int.cast_natCast, Rat.floor_intCast,
      Int.natAbs_natCast]
  unfold interval
  simp only [parts.unit, powerOf_eq, Nat.cast_ofNat, counted, reach, Nat.pow_eq]

theorem contains_iff : (interval value).contains other = true ↔
    (value - reach significand exponent < other ∧ other < value + 2 ^ exponent / 2) ∨
    (significand % 2 = 0 ∧ value - reach significand exponent ≤ other ∧
      other ≤ value + 2 ^ exponent / 2) := by
  rw [parts.interval_eq, Interval.contains]
  by_cases even : significand % 2 = 0
  · simp only [even, decide_true, if_true, Bool.and_eq_true, decide_eq_true_eq, true_and]
    exact ⟨.inr, fun inside => inside.elim (fun ⟨low, high⟩ => ⟨low.le, high.le⟩) id⟩
  · simp [even]

/-- Whatever lies in the interval of a number is less than a unit away from it. -/
theorem bounds_of_contains (inside : (interval value).contains other = true) :
    value - reach significand exponent ≤ other ∧ other ≤ value + 2 ^ exponent / 2 ∧
      ((value - reach significand exponent < other ∧ other < value + 2 ^ exponent / 2) ∨
        significand % 2 = 0) := by
  rcases parts.contains_iff.mp inside with ⟨low, high⟩ | ⟨even, low, high⟩
  · exact ⟨low.le, high.le, .inl ⟨low, high⟩⟩
  · exact ⟨low, high, .inr even⟩

/-- Where the unit is the same, the number is the nearest one. -/
theorem nearest_of_same (inside : (interval value).contains other = true) (positive : 0 < other)
    (unit : unitExponent other.num.natAbs other.den = exponent) : nearest other = .finite value := by
  obtain ⟨low, high, strict⟩ := parts.bounds_of_contains inside
  have reach := reach_le significand exponent
  have unitPos : (0 : Rat) < 2 ^ exponent := by positivity
  have apart : other / 2 ^ exponent - significand = (other - value) / 2 ^ exponent := by
    rw [parts.eq, sub_div, mul_div_cancel_right₀ _ unitPos.ne']
  have isNearest : IsNearest (other / 2 ^ exponent) significand := by
    unfold IsNearest
    rw [apart, abs_div, abs_of_pos unitPos, div_lt_iff₀ unitPos, div_eq_iff unitPos.ne']
    rcases strict with ⟨low', high'⟩ | even
    · exact .inl (abs_lt.mpr ⟨by linarith, by linarith⟩)
    · have most : |other - value| ≤ 1 / 2 * 2 ^ exponent :=
        abs_le.mpr ⟨by linarith, by linarith⟩
      exact (lt_or_eq_of_le most).imp_right fun equal => ⟨equal, even⟩
  rw [nearest_eq positive unit isNearest (parts.eq ▸ parts.small), ← parts.eq]

/-- Where the unit is half as large, that is just below a power of two, it is the nearest one too. -/
theorem nearest_of_lower (inside : (interval value).contains other = true) (positive : 0 < other)
    (full : significand = 2 ^ 52) (normal : -1074 < exponent) (lower : other < value)
    (unit : unitExponent other.num.natAbs other.den = exponent - 1) :
    nearest other = .finite value := by
  obtain ⟨low, -⟩ := parts.bounds_of_contains inside
  rw [reach, if_pos ⟨full, normal⟩] at low
  have halved : (2 : Rat) ^ exponent = 2 * 2 ^ (exponent - 1) := by
    rw [← zpow_one_add₀ two_ne_zero, add_sub_cancel]
  have unitPos : (0 : Rat) < 2 ^ (exponent - 1) := by positivity
  have doubled : value = (2 ^ 53 : Nat) * 2 ^ (exponent - 1) := by
    rw [parts.eq, full, halved]
    push_cast
    ring
  have apart : other / 2 ^ (exponent - 1) - (2 ^ 53 : Nat) =
      (other - value) / 2 ^ (exponent - 1) := by
    rw [doubled, sub_div, mul_div_cancel_right₀ _ unitPos.ne']
  have isNearest : IsNearest (other / 2 ^ (exponent - 1)) (2 ^ 53) := by
    unfold IsNearest
    rw [apart, abs_div, abs_of_pos unitPos, div_lt_iff₀ unitPos, div_eq_iff unitPos.ne']
    have most : |other - value| ≤ 1 / 2 * 2 ^ (exponent - 1) :=
      abs_le.mpr ⟨by linarith, by linarith⟩
    exact (lt_or_eq_of_le most).imp_right fun equal => ⟨equal, by decide⟩
  rw [nearest_eq positive unit isNearest (doubled ▸ parts.small), ← doubled]

/-- Every rational of the interval of a number is rounded to that number. -/
theorem nearest_of_contains (inside : (interval value).contains other = true) :
    nearest other = .finite value := by
  obtain ⟨low, high, -⟩ := parts.bounds_of_contains inside
  have reach := reach_le significand exponent
  have unitPos : (0 : Rat) < 2 ^ exponent := by positivity
  have some : (1 : Rat) ≤ significand := by exact_mod_cast parts.some
  have few : (significand : Rat) + 1 ≤ 2 ^ 53 := by exact_mod_cast parts.few
  have eq := parts.eq
  have positive : 0 < other := by nlinarith
  obtain ⟨leading, least, most, unit⟩ := exists_leading positive
  have scaled (places : Int) : (2 : Rat) ^ (places + exponent) = 2 ^ places * 2 ^ exponent :=
    zpow_add₀ two_ne_zero _ _
  have below : leading < 53 + exponent := by
    refine lt_of_zpow_lt one_lt_two (least.trans_lt ?_)
    rw [scaled]
    norm_num
    nlinarith
  rcases parts.least.eq_or_lt with subnormal | normal
  · exact parts.nearest_of_same inside positive (by omega)
  have full : (2 : Rat) ^ 52 ≤ significand := by exact_mod_cast parts.full normal
  rcases le_or_gt ((2 : Rat) ^ (52 + exponent)) other with same | lower
  · have above := lt_of_zpow_lt one_lt_two (same.trans_lt most)
    exact parts.nearest_of_same inside positive (by omega)
  · -- below the power of two the units are half as large
    have above : 51 + exponent < leading + 1 := by
      refine lt_of_zpow_lt one_lt_two (lt_of_le_of_lt ?_ most)
      rw [scaled]
      norm_num
      nlinarith
    have below' := lt_of_zpow_lt one_lt_two (least.trans_lt lower)
    rw [scaled] at lower
    norm_num at lower
    have first : significand = 2 ^ 52 := by
      refine le_antisymm (Nat.lt_succ_iff.mp ?_) (parts.full normal)
      have : (significand : Rat) < 2 ^ 52 + 1 := by nlinarith
      exact_mod_cast this
    refine parts.nearest_of_lower inside positive first normal ?_ (by omega)
    nlinarith

end Split

end RollCall.Number
