import NodePolicy.Json.Numeral
import NodePolicy.Proofs.ShortestDecimal

/-!
Significands scaled by a power of ten. The digits of a shortest decimal never scale to more than the
largest number, although both the significand and the power of ten are rounded. A decimal of up to
fifteen digits and with up to 22 places has an exact significand and an exact power of ten, so it is
rounded once and scales to the nearest number.
-/

namespace NodePolicy

open Binary64

namespace Binary64

/-- A significand and an exponent that spell a decimal. -/
structure Decimal.Spelled (decimal : Decimal) (significand : Nat) (exponent : Int) : Prop where
  placed : -(decimalPlaces : Int) ≤ exponent
  value : significand * 10 ^ (exponent + decimalPlaces).toNat =
    decimal.digits * 10 ^ decimal.exponent

theorem isFinite_mul_iff (x y : Binary64) :
    (x.mul y).isFinite = true ↔ roundedBits (x.magnitude * y.magnitude) one < infinityBits := by
  rw [isFinite, mul, magnitudeBits_of_rounded, decide_eq_true_iff]

theorem magnitude_ofNat_mono (value larger : Nat) (order : value ≤ larger) :
    (ofNat value).magnitude ≤ (ofNat larger).magnitude := by
  rw [magnitude, magnitude, ofNat, ofNat, ofRatio, ofRatio, magnitudeBits_of_rounded,
    magnitudeBits_of_rounded]
  apply unitsOfBits_mono
  apply roundedBits_mono _ _ _ _ (by decide) (by decide)
  exact Nat.mul_le_mul_right 1 (Nat.mul_le_mul_right one order)

theorem isFinite_ofNat (value : Nat) (few : value ≤ 10 ^ 17) : (ofNat value).isFinite = true :=
  ofRatio_whole_finite false value (by omega)

def largestWhole : Nat := unitsOfBits largestBits / one

end Binary64

namespace Json.Reading

theorem one_le_powerOfTen (exponent : Nat) : one ≤ (powerOfTen exponent).magnitude := by
  have least : (ofNat 1).magnitude = 1 * one := (ofNat_exact 1 (exact_of_short 1 (by decide))).1
  rw [Nat.one_mul] at least
  rw [← least]
  exact magnitude_ofNat_mono 1 _ (Nat.pow_pos (by decide))

theorem scaleDown_finite (times : Nat) (value : Binary64) (exponent : Nat)
    (finite : value.isFinite = true) : (scaleDown times value exponent).isFinite = true := by
  induction times generalizing value with
  | zero => exact isFinite_div value _ finite (one_le_powerOfTen exponent)
  | succ times ih =>
      rw [scaleDown]
      split
      · exact finite
      · exact ih _ (isFinite_div value _ finite (one_le_powerOfTen maxPower))

/-- The largest whole numbers that a power of ten may multiply, where this is not clear from the
number of digits. -/
theorem largest_powers_finite : ∀ more < 17,
    ((ofNat (largestWhole / Nat.pow 10 (292 + more))).mul (powerOfTen (292 + more))).isFinite =
      true := by
  decide +kernel

def freePower : Nat := 291

theorem few_digits_finite :
    ((ofNat (10 ^ 17)).mul (powerOfTen freePower)).isFinite = true := by decide +kernel

theorem powerOfTen_mono (exponent larger : Nat) (order : exponent ≤ larger) :
    (powerOfTen exponent).magnitude ≤ (powerOfTen larger).magnitude :=
  magnitude_ofNat_mono _ _ (Nat.pow_le_pow_right (by decide) order)

theorem scaled_up_mono (significand larger exponent power : Nat) (order : significand ≤ larger)
    (orderPower : exponent ≤ power)
    (finite : ((ofNat larger).mul (powerOfTen power)).isFinite = true) :
    ((ofNat significand).mul (powerOfTen exponent)).isFinite = true := by
  rw [isFinite_mul_iff] at finite ⊢
  apply Nat.lt_of_le_of_lt (roundedBits_mono _ _ _ _ Binary64.one_pos Binary64.one_pos _)
    finite
  apply Nat.mul_le_mul_right
  exact Nat.mul_le_mul (magnitude_ofNat_mono significand larger order)
    (powerOfTen_mono exponent power orderPower)

theorem scaled_up_finite (significand exponent : Nat) (few : significand ≤ 10 ^ 17)
    (power : exponent ≤ 308) (fits : significand * 10 ^ exponent ≤ largestWhole) :
    ((ofNat significand).mul (powerOfTen exponent)).isFinite = true := by
  by_cases small : exponent ≤ freePower
  · exact scaled_up_mono significand _ exponent _ few small few_digits_finite
  · rw [freePower] at small
    have largest := largest_powers_finite (exponent - 292) (by omega)
    rw [Nat.add_sub_cancel' (by omega)] at largest
    apply scaled_up_mono significand _ exponent exponent _ (Nat.le_refl _) largest
    exact (Nat.le_div_iff_mul_le (Nat.pow_pos (by decide))).mpr fits

theorem largestWhole_lt : largestWhole < 10 ^ (maxPower + 1) := by decide +kernel

theorem spelled_fits (magnitude significand power : Nat) (positive : 0 < magnitude)
    (finite : magnitude < infinityBits)
    (spelled : (shortest magnitude).Spelled significand power) :
    significand * 10 ^ power ≤ largestWhole := by
  have fits := shortest_scaled_le magnitude positive finite
  have value := spelled.value
  have whole : ((power : Int) + decimalPlaces).toNat = power + decimalPlaces := by omega
  rw [whole, Nat.pow_add] at value
  apply (Nat.le_div_iff_mul_le Binary64.one_pos).mpr
  apply Nat.le_of_mul_le_mul_right _ decimalGrid_pos
  calc significand * 10 ^ power * one * decimalGrid =
        significand * (10 ^ power * 10 ^ decimalPlaces) * one := by
        rw [Nat.mul_right_comm _ one, Nat.mul_assoc significand, decimalGrid_eq]
    _ = (shortest magnitude).scaled := by rw [value, Decimal.scaled]
    _ ≤ unitsOfBits largestBits * decimalGrid := fits

theorem spelled_power_le (magnitude significand power : Nat) (positive : 0 < magnitude)
    (finite : magnitude < infinityBits)
    (spelled : (shortest magnitude).Spelled significand power) : power ≤ maxPower := by
  have fits := spelled_fits magnitude significand power positive finite spelled
  have nonzero : 0 < significand := by
    apply Nat.pos_of_mul_pos_right (b := 10 ^ ((power : Int) + decimalPlaces).toNat)
    rw [spelled.value]
    exact Nat.mul_pos (shortest_digits magnitude positive finite).1 (Nat.pow_pos (by decide))
  by_contra far
  have order : 10 ^ (maxPower + 1) ≤ significand * 10 ^ power :=
    Nat.le_trans (Nat.pow_le_pow_right (by decide) (by omega)) (Nat.le_mul_of_pos_left _ nonzero)
  exact Nat.not_lt_of_le (Nat.le_trans order fits) largestWhole_lt

theorem scale_spelled (magnitude significand : Nat) (exponent : Int) (positive : 0 < magnitude)
    (finite : magnitude < infinityBits)
    (spelled : (shortest magnitude).Spelled significand exponent)
    (few : significand ≤ 10 ^ 17) :
    ∃ value, scale? significand exponent = some value ∧ value.isFinite = true := by
  rw [scale?]
  by_cases up : 0 ≤ exponent
  · obtain ⟨power, rfl⟩ := Int.eq_ofNat_of_zero_le up
    have fits := spelled_fits magnitude significand power positive finite spelled
    have bounded := spelled_power_le magnitude significand power positive finite spelled
    have scaled := scaled_up_finite significand power few bounded fits
    refine ⟨(ofNat significand).mul (powerOfTen power), ?_, scaled⟩
    rw [if_pos up, if_pos (Int.ofNat_le.mpr bounded)]
    exact if_pos scaled
  · rw [if_neg up]
    exact ⟨_, rfl, scaleDown_finite _ _ _ (isFinite_ofNat significand few)⟩

theorem exact_powerOfTen (exponent : Nat) (few : exponent ≤ 22) : Exact (Nat.pow 10 exponent) := by
  refine ⟨5 ^ exponent, exponent, ?_, by omega, Nat.mul_pow 5 2 exponent⟩
  calc 5 ^ exponent ≤ 5 ^ 22 := Nat.pow_le_pow_right (by decide) few
    _ < 2 ^ 53 := by decide

/-- A significand and a power of ten that are both exact are rounded once. -/
theorem scale_exact (decimal : Decimal) (significand : Nat) (exponent : Int)
    (spelled : decimal.Spelled significand exponent) (exact : Exact significand)
    (least : -22 ≤ exponent) (most : exponent ≤ 22) (finite : decimal.nearestBits < infinityBits) :
    scale? significand exponent = some (ofMagnitudeBits false decimal.nearestBits) := by
  have value := spelled.value
  rw [scale?]
  by_cases up : 0 ≤ exponent
  · obtain ⟨power, rfl⟩ := Int.eq_ofNat_of_zero_le up
    have whole : ((power : Int) + decimalPlaces).toNat = power + decimalPlaces := by omega
    have once : roundedBits (significand * Nat.pow 10 power * one) 1 = decimal.nearestBits := by
      rw [nearestBits_eq]
      apply roundedBits_ratio _ _ _ _ (by decide) decimalGrid_pos
      rw [Nat.mul_one, Decimal.scaled, ← value, whole, Nat.pow_add, decimalGrid_eq]
      exact (Nat.mul_right_comm _ one _).trans (congrArg (· * one) (Nat.mul_assoc _ _ _))
    have scaled := mul_exact significand _ exact (exact_powerOfTen power (by omega))
    rw [once] at scaled
    have bounded : (power : Int) ≤ maxPower := by
      rw [maxPower]
      omega
    rw [if_pos up, if_pos bounded, Int.toNat_natCast]
    simp only [powerOfTen, scaled]
    rw [if_pos (isFinite_ofMagnitudeBits false _ finite)]
  · obtain ⟨power, rfl⟩ : ∃ power : Nat, exponent = -power := ⟨exponent.natAbs, by omega⟩
    have places : 22 ≤ decimalPlaces := by decide
    have whole : (-(power : Int) + decimalPlaces).toNat = decimalPlaces - power := by omega
    have once : roundedBits (significand * one) (Nat.pow 10 power) = decimal.nearestBits := by
      rw [nearestBits_eq]
      apply roundedBits_ratio _ _ _ _ (Nat.pow_pos (by decide)) decimalGrid_pos
      have split : 10 ^ decimalPlaces = 10 ^ (decimalPlaces - power) * 10 ^ power := by
        rw [← Nat.pow_add, Nat.sub_add_cancel (by omega)]
      rw [Decimal.scaled, ← value, whole, decimalGrid_eq, split, Nat.mul_right_comm, ← Nat.mul_assoc]
      exact Nat.mul_right_comm _ _ one
    have scaled := div_exact significand _ exact (exact_powerOfTen power (by omega))
      (Nat.pow_pos (by decide))
    have single : (power - 1) / maxPower = 0 := Nat.div_eq_of_lt (by rw [maxPower]; omega)
    rw [if_neg up, Int.natAbs_neg, Int.natAbs_natCast]
    simp only [single, Nat.mul_zero, Nat.sub_zero, scaleDown, powerOfTen, scaled, once]

theorem finer_power (first second coarse fine : Nat) (order : fine ≤ coarse)
    (same : first * 10 ^ coarse = second * 10 ^ fine) : first * 10 ^ (coarse - fine) = second := by
  apply Nat.mul_right_cancel (Nat.pow_pos (by decide : 0 < 10) (n := fine))
  rw [Nat.mul_assoc, ← Nat.pow_add, Nat.sub_add_cancel order, same]

/-- The significand of a short decimal is exact, with one zero at its end or without any. -/
theorem spelled_short (digits places significand : Nat) (exponent : Int)
    (few : digits < 1000000000000000) (nonzero : 0 < digits) (near : places ≤ 22)
    (spelled : (⟨digits, decimalPlaces - places⟩ : Decimal).Spelled significand exponent)
    (last : significand % 10 ≠ 0 ∨ exponent = -1) :
    Exact significand ∧ -22 ≤ exponent ∧ exponent ≤ 22 := by
  have grid : decimalPlaces = 340 := rfl
  obtain ⟨placed, value⟩ := spelled
  dsimp only at value
  by_cases coarse : decimalPlaces - places ≤ (exponent + decimalPlaces).toNat
  · have cut := finer_power _ _ _ _ coarse value
    generalize power : (exponent + decimalPlaces).toNat - (decimalPlaces - places) = more at cut
    have less : significand ≤ digits := by
      rw [← cut]
      exact Nat.le_mul_of_pos_right _ (Nat.pow_pos (by decide))
    have bounded : more < 15 := by
      apply (Nat.pow_lt_pow_iff_right (a := 10) (by decide)).mp
      apply Nat.lt_of_le_of_lt _ few
      rw [← cut]
      apply Nat.le_mul_of_pos_left
      apply Nat.pos_of_mul_pos_right (b := 10 ^ more)
      rw [cut]
      exact nonzero
    exact ⟨exact_of_short significand (by omega), by omega, by omega⟩
  · -- A point right behind the last digit is written with a zero behind it.
    have cut := finer_power _ _ _ _ (Nat.le_of_not_le coarse) value.symm
    obtain ⟨more, power⟩ : ∃ more, decimalPlaces - places - (exponent + decimalPlaces).toNat =
        more + 1 := ⟨_, (Nat.succ_pred_eq_of_pos (by omega)).symm⟩
    rw [power, Nat.pow_succ, ← Nat.mul_assoc] at cut
    rcases last with unfinished | rfl
    · omega
    · have none : more = 0 := by omega
      rw [none, Nat.pow_zero, Nat.mul_one] at cut
      exact ⟨⟨5 * digits, 1, by omega, by decide, by omega⟩, by decide, by decide⟩

theorem places_fit : 9007199254740992 * 10 ^ 22 ≤ one := by decide +kernel

/-- The digits of a number that is nearest to a short decimal scale to that number. -/
theorem scale_short (magnitude digits places significand : Nat) (exponent : Int)
    (few : digits < 1000000000000000) (near : places ≤ 22)
    (rounded : roundedBits (digits * one) (Nat.pow 10 places) = magnitude)
    (positive : 0 < magnitude) (finite : magnitude < infinityBits)
    (spelled : (shortest magnitude).Spelled significand exponent)
    (last : significand % 10 ≠ 0 ∨ exponent = -1) :
    scale? significand exponent = some (ofMagnitudeBits false magnitude) := by
  have nonzero : 0 < digits := by
    by_contra none
    have zero : digits = 0 := by omega
    have nothing := roundedBits_exact 0 0 (Nat.pow 10 places) (by decide)
      (Nat.pow_pos (by decide)) (Nat.zero_mul _).symm
    rw [zero, Nat.zero_mul, nothing] at rounded
    omega
  have split : decimalGrid = 10 ^ (decimalPlaces - places) * 10 ^ places := by
    rw [decimalGrid_eq, ← Nat.pow_add, Nat.sub_add_cancel (Nat.le_trans near (by decide))]
  have same : (⟨digits, decimalPlaces - places⟩ : Decimal).nearestBits = magnitude := by
    rw [← rounded, nearestBits_eq]
    apply roundedBits_ratio _ _ _ _ decimalGrid_pos (Nat.pow_pos (by decide))
    rw [split, Decimal.scaled]
    generalize one = unit
    ring
  have large : 9007199254740992 * decimalGrid ≤
      (⟨digits, decimalPlaces - places⟩ : Decimal).scaled := by
    calc 9007199254740992 * decimalGrid =
          1 * 10 ^ (decimalPlaces - places) * (9007199254740992 * 10 ^ places) := by
          rw [split]
          ring
      _ ≤ digits * 10 ^ (decimalPlaces - places) * one :=
          Nat.mul_le_mul (Nat.mul_le_mul_right _ nonzero)
            (Nat.le_trans (Nat.mul_le_mul_left _ (Nat.pow_le_pow_right (by decide) near))
              places_fit)
  subst same
  have kept := shortest_of_short _ finite (by omega) positive few large
  have value := Nat.mul_right_cancel Binary64.one_pos kept
  have direct : (⟨digits, decimalPlaces - places⟩ : Decimal).Spelled significand exponent :=
    ⟨spelled.placed, spelled.value.trans value⟩
  obtain ⟨exact, least, most⟩ := spelled_short digits places significand exponent few nonzero near
    direct last
  exact scale_exact _ significand exponent direct exact least most finite

end Json.Reading

end NodePolicy
