import Mathlib.Data.Rat.Cast.Order
import Mathlib.Data.Nat.Log
import Mathlib.Tactic.Positivity
import Mathlib.Tactic.Ring
import RollCall.Number

/-!
# Natural numbers as heights

Up to `2 ^ 53` numbers count as natural numbers do. Beyond, what follows a number is rounded, never
to less than that number, and from `2 ^ 54` on it is the number itself.
-/

set_option autoImplicit false

namespace RollCall.Number

/-!
## Order and equality
-/

theorem ofNat_injective : Function.Injective ofNat := by
  intro left right same
  simpa [ofNat, ofInt] using same

theorem ofNat_inj {left right : Nat} : ofNat left = ofNat right ↔ left = right :=
  ofNat_injective.eq_iff

theorem equals_iff {left right : Number} : left.equals right ↔ left = right ∧ left ≠ .nan := by
  cases left <;> simp [equals]

theorem equals_ofNat_iff {left : Number} {right : Nat} :
    left.equals (ofNat right) ↔ left = ofNat right := by
  rw [equals_iff]
  constructor
  · exact And.left
  · rintro rfl
    exact ⟨rfl, by simp [ofNat, ofInt]⟩

theorem below_ofNat {left right : Nat} : (ofNat left).below (ofNat right) ↔ left < right := by
  simp [below, ofNat, ofInt]

theorem below_irrefl (number : Number) : ¬ number.below number := by
  cases number with
  | nan => simp [below]
  | infinite negative => cases negative <;> simp [below]
  | finite value => simp [below]

theorem equals_self_of_below {left right : Number} (below : left.below right) :
    right.equals right := by
  refine equals_iff.mpr ⟨rfl, ?_⟩
  rintro rfl
  cases left <;> cases below

theorem below_trans {left middle right : Number} (first : left.below middle)
    (second : middle.below right) : left.below right := by
  cases left <;> cases middle <;> cases right <;> simp_all [below]
  exact lt_trans first second

theorem below_of_below_of_atMost {left middle right : Number} (first : left.below middle)
    (second : middle.atMost right) : left.below right := by
  rcases Bool.or_eq_true_iff.mp second with below | same
  · exact below_trans first below
  · exact (equals_iff.mp same).1 ▸ first

theorem atMost_trans {left middle right : Number} (first : left.atMost middle)
    (second : middle.atMost right) : left.atMost right := by
  rcases Bool.or_eq_true_iff.mp first with below | same
  · exact Bool.or_eq_true_iff.mpr (.inl (below_of_below_of_atMost below second))
  · exact (equals_iff.mp same).1 ▸ second

/-- A bound above which something does not lie bounds all that is below that. -/
theorem below_of_below_of_not_below {left middle : Number} {bound : Nat} (first : left.below middle)
    (second : ¬ (ofNat bound).below middle) : left.below (ofNat bound) := by
  cases left <;> cases middle <;> simp_all [below, ofNat, ofInt]
  exact lt_of_lt_of_le first second

/-- What is not below a number that it can be compared with is at least that number. -/
theorem not_below_of_atMost {left right : Number} (least : left.atMost right) :
    ¬ right.below left := by
  intro below
  rcases Bool.or_eq_true_iff.mp least with above | same
  · exact below_irrefl _ (below_trans above below)
  · exact below_irrefl right ((equals_iff.mp same).1 ▸ below)

theorem atMost_ofNat {left right : Nat} : (ofNat left).atMost (ofNat right) ↔ left ≤ right := by
  rw [atMost, Bool.or_eq_true_iff, below_ofNat, equals_ofNat_iff, ofNat_inj, Nat.le_iff_lt_or_eq]

theorem max_ofNat (left right : Nat) :
    Number.max (ofNat left) (ofNat right) = ofNat (Max.max left right) := by
  change (if (ofNat left).below (ofNat right) then ofNat right else ofNat left) = _
  split
  · next below => rw [Nat.max_eq_right (below_ofNat.mp below).le]
  · next above => rw [Nat.max_eq_left (not_lt.mp fun less => above (below_ofNat.mpr less))]

/-!
## The next height
-/

theorem isSafeInteger_natCast {value : Nat} :
    isSafeInteger (value : Rat) = true ↔ value ≤ safeBound := by
  simp [isSafeInteger]

theorem ofNat_add_one (value : Nat) : ofNat value + 1 = nearest ((value + 1 : Nat) : Rat) := by
  change nearest _ = _
  congr 1
  push_cast
  ring

theorem nearest_natCast_of_safe {value : Nat} (safe : value ≤ safeBound) :
    nearest (value : Rat) = ofNat value := by
  rw [nearest, if_pos (isSafeInteger_natCast.mpr safe)]
  simp [ofNat, ofInt]

/-- Safe natural numbers are counted exactly. -/
theorem add_one_of_safe {value : Nat} (safe : value ≤ safeBound) :
    ofNat value + 1 = ofNat (value + 1) := by
  rcases Nat.lt_or_eq_of_le safe with inside | rfl
  · rw [ofNat_add_one, nearest_natCast_of_safe inside]
  · decide +kernel

private theorem le_nearestNat (numerator denominator : Nat) :
    numerator / denominator ≤ nearestNat numerator denominator := by
  unfold nearestNat
  dsimp only
  split
  · exact le_rfl
  · split
    · exact Nat.le_succ _
    · split
      · exact le_rfl
      · exact Nat.le_succ _

private theorem scaleDown_natCast (numerator denominator exponent : Nat) :
    scaleDown numerator denominator exponent = (numerator, denominator * 2 ^ exponent) := by
  simp [scaleDown]

private theorem powerOf_natCast (base exponent : Nat) :
    powerOf base exponent = (base ^ exponent : Nat) := by
  simp [powerOf, Rat.mkRat_one]

private theorem log2_of_unsafe {value : Nat} (large : safeBound < value) :
    53 ≤ value.log2 ∧ 2 ^ value.log2 ≤ value := by
  have positive : value ≠ 0 := by omega
  refine ⟨(Nat.le_log2 positive).mpr ?_, Nat.log2_self_le positive⟩
  unfold safeBound at large
  omega

/-- An integer of more than 53 bits is cut off after the first 53. -/
private theorem unitExponent_natCast {value : Nat} (large : safeBound < value) :
    unitExponent value 1 = (value.log2 - 52 : Nat) := by
  obtain ⟨bits, least⟩ := log2_of_unsafe large
  have guess : Int.ofNat value.log2 - Int.ofNat (Nat.log2 1) = (value.log2 : Nat) := by
    rw [show Nat.log2 1 = 0 by decide]
    simp
  unfold unitExponent
  dsimp only
  rw [guess, scaleDown_natCast]
  dsimp only
  rw [if_neg (by omega)]
  omega

/-- What is left of a natural number that is not safe. -/
private def rounded (value : Nat) : Nat :=
  nearestNat value (2 ^ (value.log2 - 52)) * 2 ^ (value.log2 - 52)

private theorem nearest_natCast_eq_ite {value : Nat} (large : safeBound < value) :
    nearest (value : Rat) =
      if 2 ^ 1024 ≤ rounded value then .infinite false else ofNat (rounded value) := by
  have notSafe : ¬ isSafeInteger (value : Rat) = true := by
    rw [isSafeInteger_natCast]
    omega
  have positive : ¬ (value : Rat) < 0 := not_lt.mpr (Nat.cast_nonneg value)
  have bound : overflow = (2 ^ 1024 : Nat) := powerOf_natCast 2 1024
  unfold nearest
  rw [if_neg notSafe]
  simp only [Rat.num_natCast, Int.natAbs_natCast, Rat.den_natCast, unitExponent_natCast large,
    scaleDown_natCast, powerOf_natCast, if_neg positive, one_mul, bound, ← Nat.cast_mul,
    Nat.cast_le, rounded, decide_eq_false positive, ofNat, ofInt, Int.cast_natCast]

private theorem nearest_natCast_of_large {value : Nat} (large : safeBound < value) :
    nearest (value : Rat) = .infinite false ∨ nearest (value : Rat) = ofNat (rounded value) := by
  rw [nearest_natCast_eq_ite large]
  split
  · exact .inl rfl
  · exact .inr rfl

/-- Rounding takes no integer that is not safe below the first such integer. -/
theorem nearest_natCast_not_below {value bound : Nat} (large : safeBound < value)
    (small : bound ≤ safeBound + 1) : ¬ (nearest (value : Rat)).below (ofNat bound) := by
  obtain ⟨bits, least⟩ := log2_of_unsafe large
  rcases nearest_natCast_of_large large with infinite | rounded
  · simp [infinite, below, ofNat, ofInt]
  · rw [rounded, below_ofNat, not_lt]
    have kept : 2 ^ 52 ≤ nearestNat value (2 ^ (value.log2 - 52)) := by
      refine le_trans ?_ (le_nearestNat _ _)
      rw [Nat.le_div_iff_mul_le (by positivity), ← pow_add]
      rwa [show 52 + (value.log2 - 52) = value.log2 by omega]
    calc
      bound ≤ 2 ^ 52 * 2 ^ 1 := by unfold safeBound at small; omega
      _ ≤ _ := Nat.mul_le_mul kept (Nat.pow_le_pow_right (by omega) (by omega))

/-- Nothing that follows a natural number is below a bound that counting reaches, unless the number
is safe and followed exactly. -/
theorem lt_of_add_one_below {value bound : Nat} (small : bound ≤ safeBound + 1)
    (below : (ofNat value + 1).below (ofNat bound)) : value + 1 < bound := by
  rcases Nat.lt_or_ge safeBound (value + 1) with large | safe
  · rw [ofNat_add_one] at below
    exact absurd below (nearest_natCast_not_below large small)
  · rw [add_one_of_safe (Nat.le_of_succ_le safe), below_ofNat] at below
    exact below

/-!
## Natural numbers as far as numbers go
-/

/-- A natural number, or what it is rounded to where numbers no longer count. -/
def IsNatural (number : Number) : Prop :=
  ∃ value : Nat, number = nearest (value : Rat)

theorem isNatural_ofNat {value : Nat} (safe : value ≤ safeBound) : (ofNat value).IsNatural :=
  ⟨value, (nearest_natCast_of_safe safe).symm⟩

private theorem nearestNat_le (numerator denominator : Nat) :
    nearestNat numerator denominator ≤ numerator / denominator + 1 := by
  unfold nearestNat
  dsimp only
  split
  · exact Nat.le_succ _
  · split
    · exact le_rfl
    · split
      · exact Nat.le_succ _
      · exact le_rfl

/-- Of at most 53 bits, and zeros after these. -/
private def OfFewBits (value : Nat) : Prop :=
  ∃ leading zeros, leading ≤ 2 ^ 53 ∧ value = leading * 2 ^ zeros

private theorem nearest_natCast_ofFewBits (value : Nat) : nearest (value : Rat) = .infinite false ∨
    ∃ rounded, nearest (value : Rat) = ofNat rounded ∧ OfFewBits rounded := by
  rcases Nat.lt_or_ge safeBound value with large | safe
  · rcases nearest_natCast_of_large large with infinite | finite
    · exact .inl infinite
    · refine .inr ⟨_, finite, _, _, ?_, rfl⟩
      obtain ⟨bits, _⟩ := log2_of_unsafe large
      have short : value / 2 ^ (value.log2 - 52) < 2 ^ 53 := by
        rw [Nat.div_lt_iff_lt_mul (by positivity), ← pow_add,
          show 53 + (value.log2 - 52) = value.log2 + 1 by omega]
        exact Nat.lt_log2_self
      have next := nearestNat_le value (2 ^ (value.log2 - 52))
      omega
  · refine .inr ⟨value, nearest_natCast_of_safe safe, value, 0, ?_, by simp⟩
    unfold safeBound at safe
    omega

private theorem OfFewBits.dvd {value cut : Nat} (few : OfFewBits value)
    (least : 2 ^ (52 + cut) ≤ value) : 2 ^ cut ∣ value := by
  obtain ⟨leading, zeros, short, rfl⟩ := few
  have most : leading * 2 ^ zeros ≤ 2 ^ (53 + zeros) := by
    rw [pow_add]
    exact Nat.mul_le_mul_right _ short
  have below : 52 + cut ≤ 53 + zeros :=
    (Nat.pow_le_pow_iff_right (by omega)).mp (le_trans least most)
  rcases Nat.lt_or_ge zeros cut with longer | shorter
  · have power : leading * 2 ^ zeros = 2 ^ (52 + cut) := by
      refine le_antisymm ?_ least
      rwa [show 52 + cut = 53 + zeros by omega]
    rw [power]
    exact pow_dvd_pow 2 (by omega)
  · exact Dvd.dvd.mul_left (pow_dvd_pow 2 shorter) leading

/-- One more than a number of few bits is cut off to no less than that number. -/
private theorem OfFewBits.le_nearestNat_succ {value : Nat} (few : OfFewBits value)
    (large : safeBound < value + 1) : value ≤ rounded (value + 1) := by
  obtain ⟨bits, least⟩ := log2_of_unsafe large
  obtain ⟨cut, same⟩ := Nat.exists_eq_add_of_le (show 52 ≤ (value + 1).log2 by omega)
  unfold rounded
  rw [same] at least ⊢
  rw [Nat.add_sub_cancel_left]
  have whole : 2 ^ cut ∣ value ∨ 2 ^ cut ∣ value + 1 := by
    rcases Nat.lt_or_eq_of_le least with less | equal
    · exact .inl (few.dvd (Nat.lt_succ_iff.mp less))
    · right
      rw [← equal]
      exact pow_dvd_pow 2 (by omega)
  refine le_trans ?_ (Nat.mul_le_mul_right _ (le_nearestNat _ _))
  rcases whole with divides | divides
  · calc
      value = value / 2 ^ cut * 2 ^ cut := (Nat.div_mul_cancel divides).symm
      _ ≤ (value + 1) / 2 ^ cut * 2 ^ cut :=
        Nat.mul_le_mul_right _ (Nat.div_le_div_right (Nat.le_succ _))
  · rw [Nat.div_mul_cancel divides]
    exact Nat.le_succ _

private theorem OfFewBits.add_one {value : Nat} (few : OfFewBits value) :
    ofNat value + 1 = .infinite false ∨ ∃ next, ofNat value + 1 = ofNat next ∧ value ≤ next := by
  rw [ofNat_add_one]
  rcases Nat.lt_or_ge safeBound (value + 1) with large | safe
  · rcases nearest_natCast_of_large large with infinite | rounded
    · exact .inl infinite
    · exact .inr ⟨_, rounded, few.le_nearestNat_succ large⟩
  · exact .inr ⟨_, nearest_natCast_of_safe safe, Nat.le_succ _⟩

theorem IsNatural.add_one {number : Number} (natural : number.IsNatural) :
    (number + 1).IsNatural := by
  obtain ⟨value, rfl⟩ := natural
  rcases nearest_natCast_ofFewBits value with infinite | ⟨rounded, same, _⟩
  · refine ⟨value, ?_⟩
    rw [infinite]
    rfl
  · rw [same, ofNat_add_one]
    exact ⟨rounded + 1, rfl⟩

/-- Counting on never leads back, not even where it leads nowhere. -/
theorem IsNatural.max_add_one {number : Number} (natural : number.IsNatural) :
    Number.max number (number + 1) = number + 1 := by
  obtain ⟨value, rfl⟩ := natural
  rcases nearest_natCast_ofFewBits value with infinite | ⟨rounded, same, few⟩
  · rw [infinite]
    rfl
  · rw [same]
    rcases few.add_one with infinite | ⟨next, counted, least⟩
    · rw [infinite]
      rfl
    · rw [counted, max_ofNat, Nat.max_eq_right least]

theorem IsNatural.max_zero {number : Number} (natural : number.IsNatural) :
    Number.max 0 number = number := by
  obtain ⟨value, rfl⟩ := natural
  rcases nearest_natCast_ofFewBits value with infinite | ⟨rounded, same, _⟩
  · rw [infinite]
    rfl
  · rw [same]
    change Number.max (ofNat 0) (ofNat rounded) = _
    rw [max_ofNat, Nat.max_eq_right (Nat.zero_le _)]

/-!
## Natural numbers that are numbers
-/

/-- A natural number that is a number as it is: of at most 53 bits but for zeros behind them, and not
too great. -/
def IsExact (value : Nat) : Prop :=
  (∃ leading zeros, leading ≤ 2 ^ 53 ∧ value = leading * 2 ^ zeros) ∧ value < 2 ^ 1024

theorem isExact_of_safe {value : Nat} (safe : value ≤ safeBound) : IsExact value := by
  have small : safeBound < 2 ^ 53 := by decide
  exact ⟨⟨value, 0, by omega, by simp⟩,
    (lt_of_le_of_lt safe small).trans_le (pow_le_pow_right₀ one_le_two (by decide))⟩

private theorem nearestNat_of_dvd {numerator denominator : Nat} (positive : 0 < denominator)
    (divides : denominator ∣ numerator) :
    nearestNat numerator denominator = numerator / denominator := by
  rw [nearestNat, Nat.mod_eq_zero_of_dvd divides]
  exact if_pos positive

/-- These and no others are kept as they are. -/
theorem nearest_natCast_eq_iff {value : Nat} :
    nearest (value : Rat) = ofNat value ↔ IsExact value := by
  rcases Nat.lt_or_ge safeBound value with large | safe
  case inr => simp [nearest_natCast_of_safe safe, isExact_of_safe safe]
  case inl =>
    obtain ⟨bits, least⟩ := log2_of_unsafe large
    constructor
    · intro kept
      have few : OfFewBits value := by
        rcases nearest_natCast_ofFewBits value with infinite | ⟨other, same, few⟩
        · cases infinite.symm.trans kept
        · exact ofNat_injective (kept.symm.trans same) ▸ few
      refine ⟨few, Nat.lt_of_not_le fun beyond => ?_⟩
      rw [nearest_natCast_eq_ite large] at kept
      split at kept
      case isTrue => cases kept
      case isFalse under =>
        rw [ofNat_injective kept] at under
        exact under beyond
    · rintro ⟨few, small⟩
      have divides : 2 ^ (value.log2 - 52) ∣ value :=
        OfFewBits.dvd few (by rwa [show 52 + (value.log2 - 52) = value.log2 by omega])
      have whole : rounded value = value := by
        rw [rounded, nearestNat_of_dvd (by positivity) divides, Nat.div_mul_cancel divides]
      rw [nearest_natCast_eq_ite large, whole, if_neg (Nat.not_le.mpr small)]

/-- What a natural number is rounded to is one of these, if it is not too great. -/
theorem nearest_natCast_exact (value : Nat) : nearest (value : Rat) = .infinite false ∨
    ∃ rounded, nearest (value : Rat) = ofNat rounded ∧ IsExact rounded := by
  rcases nearest_natCast_ofFewBits value with infinite | ⟨other, same, few⟩
  · exact .inl infinite
  refine .inr ⟨other, same, few, ?_⟩
  rcases Nat.lt_or_ge safeBound value with large | safe
  · rw [nearest_natCast_eq_ite large] at same
    split at same
    case isTrue => cases same
    case isFalse under => exact ofNat_injective same ▸ Nat.lt_of_not_le under
  · rw [nearest_natCast_of_safe safe] at same
    exact ofNat_injective same ▸ (isExact_of_safe safe).2

/-!
## Counting on from any height
-/

private theorem nearestNat_add_one_of_dvd {numerator denominator : Nat} (wide : 2 < denominator)
    (divides : denominator ∣ numerator) :
    nearestNat (numerator + 1) denominator = numerator / denominator := by
  obtain ⟨quotient, rfl⟩ := divides
  have rest : (denominator * quotient + 1) % denominator = 1 := by
    rw [Nat.mul_add_mod, Nat.mod_eq_of_lt (by omega)]
  have whole : (denominator * quotient + 1) / denominator = quotient := by
    rw [Nat.mul_add_div (by omega), Nat.div_eq_of_lt (by omega), Nat.add_zero]
  rw [nearestNat, rest, whole, Nat.mul_div_cancel_left _ (by omega)]
  exact if_pos (by omega)

/-- From `2 ^ 54` on no number has a successor of its own. -/
theorem IsExact.add_one_of_vast {value : Nat} (exact : IsExact value) (vast : 2 ^ 54 ≤ value) :
    ofNat value + 1 = ofNat value := by
  obtain ⟨few, small⟩ := exact
  have large : safeBound < value + 1 := by
    unfold safeBound
    omega
  have least : 2 ^ (value + 1).log2 ≤ value + 1 := Nat.log2_self_le (Nat.succ_ne_zero value)
  have bits : 54 ≤ (value + 1).log2 :=
    (Nat.le_log2 (Nat.succ_ne_zero value)).mpr (vast.trans (Nat.le_succ value))
  obtain ⟨more, same⟩ := Nat.exists_eq_add_of_le bits
  have cut : (value + 1).log2 - 52 = 2 + more := by omega
  -- One more does not come to the next power of two: that is even, and so is the number.
  have below : 2 ^ (52 + (2 + more)) ≤ value := by
    rw [same] at least
    rw [← Nat.add_assoc]
    refine Nat.le_of_lt_succ (Nat.lt_of_le_of_ne least fun equal => ?_)
    have even : 2 ^ 2 ∣ value := OfFewBits.dvd few vast
    have divides : 2 ^ 2 ∣ value.succ := equal ▸ pow_dvd_pow 2 (by omega)
    omega
  have wide : 2 < 2 ^ (2 + more) :=
    lt_of_lt_of_le (by decide) (Nat.pow_le_pow_right (by decide) (Nat.le_add_right 2 more))
  have kept : rounded (value + 1) = value := by
    have divides : 2 ^ (2 + more) ∣ value := OfFewBits.dvd few below
    rw [rounded, cut, nearestNat_add_one_of_dvd wide divides, Nat.div_mul_cancel divides]
  rw [ofNat_add_one, nearest_natCast_eq_ite large, kept, if_neg (Nat.not_le.mpr small)]

private theorem rounded_le {value : Nat} (positive : value ≠ 0) : rounded value ≤ 2 * value := by
  have cut : 2 ^ (value.log2 - 52) ≤ value :=
    le_trans (Nat.pow_le_pow_right (by decide) (Nat.sub_le _ _)) (Nat.log2_self_le positive)
  calc
    rounded value ≤ (value / 2 ^ (value.log2 - 52) + 1) * 2 ^ (value.log2 - 52) :=
      Nat.mul_le_mul_right _ (nearestNat_le _ _)
    _ = value / 2 ^ (value.log2 - 52) * 2 ^ (value.log2 - 52) + 2 ^ (value.log2 - 52) :=
      Nat.succ_mul _ _
    _ ≤ value + value := Nat.add_le_add (Nat.div_mul_le_self _ _) cut
    _ = 2 * value := (Nat.two_mul value).symm

private theorem nearest_natCast_of_near {value : Nat} (large : safeBound < value)
    (near : value ≤ 2 ^ 54) : nearest (value : Rat) = ofNat (rounded value) := by
  have most : rounded value ≤ 2 * value := rounded_le (Nat.ne_zero_of_lt large)
  have close : rounded value < 2 ^ 56 := by omega
  have small : rounded value < 2 ^ 1024 :=
    close.trans_le (pow_le_pow_right₀ one_le_two (by decide))
  rw [nearest_natCast_eq_ite large, if_neg (Nat.not_le.mpr small)]

/-- The next height is a natural number that is a number too, and not below this one. -/
theorem IsExact.add_one {value : Nat} (exact : IsExact value) :
    ∃ next, ofNat value + 1 = ofNat next ∧ value ≤ next ∧ 0 < next ∧ IsExact next := by
  rcases Nat.lt_or_ge safeBound value with large | safe
  case inr =>
    have counted := add_one_of_safe safe
    refine ⟨value + 1, counted, Nat.le_succ value, Nat.succ_pos value, ?_⟩
    exact nearest_natCast_eq_iff.mp ((ofNat_add_one value).symm.trans counted)
  have positive : 0 < value := Nat.zero_lt_of_lt large
  rcases Nat.lt_or_ge value (2 ^ 54) with near | vast
  case inr => exact ⟨value, exact.add_one_of_vast vast, le_rfl, positive, exact⟩
  have large' : safeBound < value + 1 := Nat.lt_succ_of_lt large
  have finite := nearest_natCast_of_near large' near
  rcases nearest_natCast_exact (value + 1) with infinite | ⟨next, kept, exact'⟩
  · cases infinite.symm.trans finite
  · obtain rfl : next = rounded (value + 1) := ofNat_injective (kept.symm.trans finite)
    have least : value ≤ rounded (value + 1) := OfFewBits.le_nearestNat_succ exact.1 large'
    exact ⟨_, (ofNat_add_one value).trans kept, least, positive.trans_le least, exact'⟩

/-- Counting on from a number comes to a bound at some time. -/
def Reaches (start bound : Number) : Prop :=
  ∃ last, ¬ ((· + 1)^[last] start).below bound

/-- Where counting on stands still below a bound, it never comes to the bound. -/
private theorem add_one_ne_of_reaches {start bound : Number} {count : Nat}
    (below : ∀ earlier < count + 1, ((· + 1)^[earlier] start).below bound)
    (reaches : start.Reaches bound) :
    (· + 1)^[count] start + 1 ≠ (· + 1)^[count] start := by
  intro still
  obtain ⟨last, above⟩ := reaches
  rcases Nat.le_total last count with early | late
  · exact above (below last (Nat.lt_succ_of_le early))
  · obtain ⟨more, rfl⟩ := Nat.exists_eq_add_of_le' late
    rw [Function.iterate_add_apply, Function.iterate_fixed still] at above
    exact above (below count (Nat.lt_succ_self count))

/-- On the way to a bound that is reached, each height is at least one more than that before it. -/
theorem IsExact.climbs {first count : Nat} {bound : Number} (exact : IsExact first)
    (below : ∀ earlier < count, ((· + 1)^[earlier] (ofNat first)).below bound)
    (reaches : (ofNat first).Reaches bound) :
    ∃ place, (· + 1)^[count] (ofNat first) = ofNat place ∧ first + count ≤ place ∧
      IsExact place := by
  induction count with
  | zero => exact ⟨first, rfl, le_rfl, exact⟩
  | succ count ih =>
      obtain ⟨place, same, least, exact'⟩ :=
        ih fun earlier less => below earlier (Nat.lt_succ_of_lt less)
      obtain ⟨next, counted, least', _, exact''⟩ := exact'.add_one
      have moves := add_one_ne_of_reaches below reaches
      rw [same, counted, ne_eq, ofNat_inj] at moves
      refine ⟨next, ?_, by omega, exact''⟩
      rw [Function.iterate_succ_apply', same, counted]

/-- There are no more heights than that on the way to a bound that is reached. -/
theorem IsExact.count_le {first count : Nat} {bound : Number} (exact : IsExact first)
    (below : ∀ earlier < count, ((· + 1)^[earlier] (ofNat first)).below bound)
    (reaches : (ofNat first).Reaches bound) : count ≤ 2 ^ 54 := by
  cases count with
  | zero => exact Nat.zero_le _
  | succ count =>
      obtain ⟨place, same, least, exact'⟩ :=
        exact.climbs (fun earlier less => below earlier (Nat.lt_succ_of_lt less)) reaches
      have moves := add_one_ne_of_reaches below reaches
      rw [same] at moves
      have near : place < 2 ^ 54 := Nat.lt_of_not_le fun vast => moves (exact'.add_one_of_vast vast)
      omega

end RollCall.Number
