import Mathlib.Data.Rat.Floor
import Mathlib.Tactic.FieldSimp
import Mathlib.Tactic.Linarith
import NodePolicy.Proofs.BareNumber

/-!
Rounding half up. A number and one half have few enough bits for their sum to stay below the next
whole number whenever it is below it, so that cutting the rounded sum is the same as cutting the exact
one. The largest number below one half is the only exception: its sum is rounded up to one. What is
left is the rounding of the digits themselves, which may take a value up to the half above it.
-/

namespace NodePolicy

namespace Binary64

/-- A finite number as a fraction. The infinite numbers count as two to the power 1024. -/
def toRat (x : Binary64) : ℚ := x.units / one

/-- A number below a point of a grid is a whole step below it, unless it belongs to a finer grid. -/
theorem grid_gap (magnitude shift step count : Nat) (power : 2 ^ shift = step)
    (below : unitsOfBits magnitude < count * step) :
    unitsOfBits magnitude + step ≤ count * step ∨ unitsOfBits magnitude < 2 ^ 52 * step := by
  subst power
  obtain ⟨own, significand, grid⟩ := magnitude_onGrid magnitude
  rcases Nat.lt_or_ge own shift with finer | coarser
  · right
    calc unitsOfBits magnitude = significand * 2 ^ own := grid.units
      _ < 2 ^ 53 * 2 ^ own := Nat.mul_lt_mul_of_pos_right grid.short (Nat.two_pow_pos own)
      _ = 2 ^ 52 * 2 ^ (own + 1) := by ring
      _ ≤ 2 ^ 52 * 2 ^ shift := Nat.mul_le_mul_left _ (Nat.pow_le_pow_right (by decide) finer)
  · left
    have steps : unitsOfBits magnitude = significand * 2 ^ (own - shift) * 2 ^ shift := by
      rw [grid.units, Nat.mul_assoc, ← Nat.pow_add, Nat.sub_add_cancel coarser]
    rw [steps] at below ⊢
    have fewer := Nat.lt_of_mul_lt_mul_right below
    calc significand * 2 ^ (own - shift) * 2 ^ shift + 2 ^ shift =
          (significand * 2 ^ (own - shift) + 1) * 2 ^ shift := (Nat.succ_mul _ _).symm
      _ ≤ count * 2 ^ shift := Nat.mul_le_mul_right _ fewer

theorem halfOne_on_grid (shift : Nat) (coarse : shift ≤ 1073) :
    halfOne = 2 ^ (1073 - shift) * 2 ^ shift := by
  rw [← Nat.pow_add, Nat.sub_add_cancel coarse, halfOne]

theorem natural_halves (whole : Nat) : whole * one = 2 * whole * halfOne := by
  exact_mod_cast whole_halves whole

/-- The number one step before a whole number, on a grid that is fine enough. -/
theorem kept_before (whole shift step : Nat) (power : 2 ^ shift = step) (fine : 52 ≤ shift)
    (coarse : shift ≤ 1073) (positive : 0 < whole)
    (short : whole * 2 ^ (1073 - shift) ≤ 2 ^ 52) : Kept (whole * one - step : Nat) := by
  subst power
  have some : 0 < whole * 2 ^ (1073 - shift) := Nat.mul_pos positive (Nat.two_pow_pos _)
  obtain ⟨magnitude, finite, units⟩ :=
    exists_units (2 * (whole * 2 ^ (1073 - shift)) - 1) shift (by omega) fine (by omega)
  refine ⟨magnitude, finite, ?_⟩
  rw [units, Int.natAbs_natCast, natural_halves, halfOne_on_grid shift coarse, Nat.sub_mul, Nat.one_mul,
    Nat.mul_assoc, Nat.mul_assoc, Nat.mul_assoc]

def lastStep : Nat := 2 ^ 1020

theorem halfOne_steps : halfOne = 9007199254740992 * lastStep := by decide +kernel

theorem lastStep_double : 2 ^ 1021 = 2 * lastStep := by decide +kernel

theorem power_on_grid (exponent : Nat) : 2 ^ 52 * 2 ^ (1022 + exponent) = 2 ^ exponent * one := by
  rw [two_pow_mul_one, ← Nat.pow_add]
  congr 1
  omega

end Binary64

namespace Duration.Seconds

open Binary64

section Near
variable (value : Binary64) (magnitude : Nat) (same : value.units = unitsOfBits magnitude)
include same

theorem counted_lt (whole shift step : Nat) (power : 2 ^ shift = step) (fine : 52 ≤ shift)
    (coarse : shift ≤ 1073) (positive : 0 < whole) (short : whole * 2 ^ (1073 - shift) ≤ 2 ^ 52)
    (room : unitsOfBits magnitude + halfOne + step ≤ whole * one) : counted value < whole := by
  have kept := kept_before whole shift step power fine coarse positive short
  have before : value.units + halfOne ≤ (whole * one - step : Nat) := by
    rw [same]
    exact_mod_cast Nat.le_sub_of_add_le room
  have below := nearestUnits_whole_le _ _ kept before
  have cut := Int.tdiv_le_tdiv one_positive below
  rw [← counted_units, Int.tdiv_eq_ediv_of_nonneg (Int.natCast_nonneg _)] at cut
  apply Int.lt_of_le_of_lt cut
  apply Int.ediv_lt_of_lt_mul one_positive
  have positive : 0 < step := power ▸ Nat.two_pow_pos shift
  exact_mod_cast Nat.sub_lt (by omega) positive

/-- Past the first half, a number below the next half is a step below it, and so is the sum. -/
theorem counted_above_half (whole : Nat) (some : 0 < whole) (few : whole < 17179869184)
    (below : unitsOfBits magnitude < (2 * whole + 1) * halfOne) : counted value < whole + 1 := by
  have nonzero : whole ≠ 0 := by omega
  have log : whole.log2 < 34 := (Nat.log2_lt nonzero).mpr few
  have least : 2 ^ whole.log2 ≤ whole := Nat.log2_self_le nonzero
  have most : whole + 1 ≤ 2 ^ (whole.log2 + 1) := Nat.lt_log2_self
  generalize whole.log2 = exponent at log least most
  have coarse : 1022 + exponent ≤ 1073 := by omega
  have short : (whole + 1) * 2 ^ (1073 - (1022 + exponent)) ≤ 2 ^ 52 := by
    calc (whole + 1) * 2 ^ (1073 - (1022 + exponent)) ≤
          2 ^ (exponent + 1) * 2 ^ (1073 - (1022 + exponent)) := Nat.mul_le_mul_right _ most
      _ = 2 ^ 52 := by rw [← Nat.pow_add]; congr 1; omega
  apply counted_lt value magnitude same (whole + 1) (1022 + exponent) _ rfl (by omega) coarse
    (by omega) short
  have half := halfOne_on_grid (1022 + exponent) coarse
  have fits : 2 ^ (1022 + exponent) ≤ halfOne :=
    Nat.le_trans (Nat.le_mul_of_pos_left _ (Nat.two_pow_pos _)) (Nat.le_of_eq half.symm)
  have multiple : (2 * whole + 1) * halfOne =
      (2 * whole + 1) * 2 ^ (1073 - (1022 + exponent)) * 2 ^ (1022 + exponent) :=
    (congrArg ((2 * whole + 1) * ·) half).trans (Nat.mul_assoc _ _ _).symm
  have room : unitsOfBits magnitude + 2 ^ (1022 + exponent) ≤ (2 * whole + 1) * halfOne := by
    rw [multiple] at below
    rcases grid_gap magnitude (1022 + exponent) _ _ rfl below with stepped | small
    · rw [multiple]
      exact stepped
    · -- A number of a finer grid is below the power of two, and so below the whole number.
      have under : 2 ^ exponent * one ≤ whole * one := Nat.mul_le_mul_right _ least
      rw [power_on_grid] at small
      rw [Nat.succ_mul, ← natural_halves]
      exact Nat.add_le_add (Nat.le_trans (Nat.le_of_lt small) under) fits
  have next : (whole + 1) * one = (2 * whole + 1) * halfOne + halfOne :=
    (natural_halves (whole + 1)).trans (Nat.succ_mul (2 * whole + 1) halfOne)
  rw [next, Nat.add_right_comm]
  exact Nat.add_le_add_right room halfOne

/-- Below the first half, all numbers but the last are two steps away from it. -/
theorem counted_below_half (below : unitsOfBits magnitude < halfOne)
    (other : unitsOfBits magnitude + lastStep ≠ halfOne) : counted value < 1 := by
  have steps := halfOne_steps
  have halves := one_eq_halves
  have first := grid_gap magnitude 1020 lastStep 9007199254740992 rfl
  have second := grid_gap magnitude 1020 lastStep 9007199254740991 rfl
  apply counted_lt value magnitude same 1 1021 (2 * lastStep) lastStep_double (by decide) (by decide)
    (by decide) (by decide)
  generalize lastStep = step at *
  generalize halfOne = half at *
  generalize one = unit at *
  generalize unitsOfBits magnitude = units at *
  omega

end Near

/-- The whole number just below a fraction and one half, from what the fraction counts in halves. -/
theorem floor_add_half (numerator : Int) (denominator half : Nat) (positive : 0 < half)
    (double : denominator = 2 * half) :
    ⌊(numerator : ℚ) / denominator + 1 / 2⌋ = (numerator + half) / denominator := by
  have nonzero : (half : ℚ) ≠ 0 := Nat.cast_ne_zero.mpr (by omega)
  have sum : (numerator : ℚ) / denominator + 1 / 2 =
      ((numerator + half : Int) : ℚ) / (denominator : Nat) := by
    rw [double]
    push_cast
    field_simp
  rw [sum, Rat.floor_intCast_div_natCast]

theorem floor_toRat (value : Binary64) :
    ⌊value.toRat + 1 / 2⌋ = (value.units + halfOne) / one :=
  floor_add_half value.units one halfOne halfOne_pos one_eq_halves

theorem floor_exact (numeral : Numeral) :
    ⌊numeral.exact + 1 / 2⌋ = (2 * numeral.digits + numeral.scale) / (2 * numeral.scale : Nat) := by
  have positive : (0 : ℚ) < numeral.scale := Nat.cast_pos.mpr numeral.scale_pos
  have same : numeral.exact = ((2 * numeral.digits : Int) : ℚ) / (2 * numeral.scale : Nat) := by
    rw [Numeral.exact]
    push_cast
    field_simp
  rw [same]
  exact floor_add_half _ _ numeral.scale numeral.scale_pos rfl

section Value
variable (value : Binary64) (nonnegative : 0 ≤ value.units)
include nonnegative

theorem units_of_nonnegative : value.units = unitsOfBits value.magnitudeBits := by
  rw [Binary64.units, Binary64.magnitude] at nonnegative ⊢
  split at nonnegative
  · next negative =>
      rw [if_pos negative]
      omega
  · next positive => rw [if_neg positive]

theorem counted_floor (near : value.units + halfOne < farSeconds * one)
    (other : value.units + lastStep ≠ halfOne) :
    counted value = (value.units + halfOne) / one := by
  have same := units_of_nonnegative value nonnegative
  have least := Int.ediv_mul_le (value.units + halfOne) (Int.ne_of_gt one_positive)
  have most := Int.lt_ediv_add_one_mul_self (value.units + halfOne) one_positive
  have far : (value.units + halfOne) / one < farSeconds := Int.ediv_lt_of_lt_mul one_positive near
  have start : 0 ≤ (value.units + halfOne) / (one : Int) :=
    Int.ediv_nonneg (Int.add_nonneg nonnegative (Int.natCast_nonneg _)) (Int.natCast_nonneg _)
  generalize (value.units + halfOne) / (one : Int) = floor at least most far start
  obtain ⟨whole, rfl⟩ := Int.eq_ofNat_of_zero_le start
  rw [farSeconds] at far
  -- The sum reaches its floor and stays below the next whole number; both survive the rounding.
  apply Int.le_antisymm
  · apply Int.le_of_lt_add_one
    rw [same] at most other
    have next := natural_halves (whole + 1)
    have below : unitsOfBits value.magnitudeBits + halfOne < 2 * (whole + 1) * halfOne := by
      rw [← next]
      exact_mod_cast most
    rw [Nat.mul_add, Nat.mul_one, Nat.succ_mul] at below
    have under := Nat.lt_of_add_lt_add_right below
    rcases Nat.eq_zero_or_pos whole with rfl | some
    · rw [Nat.mul_zero, Nat.zero_add, Nat.one_mul] at under
      exact counted_below_half value _ same under (by exact_mod_cast other)
    · exact counted_above_half value _ same whole some (by omega) under
  · exact le_counted value whole (by omega) least

end Value

theorem outcome_far (text : String) (seconds : Int) (far : farSeconds ≤ seconds) :
    outcome text seconds = .error (.outOfRange text) := by
  rw [farSeconds] at far
  rw [outcome, dif_neg (by omega)]

/-- Past the limit it makes no difference how a sum is cut. -/
theorem outcome_counted (text : String) (value : Binary64) (nonnegative : 0 ≤ value.units)
    (other : value.units + lastStep ≠ halfOne) :
    outcome text (counted value) = outcome text ((value.units + halfOne) / one) := by
  rcases Int.lt_or_le (value.units + halfOne) (farSeconds * one) with near | far
  · rw [counted_floor value nonnegative near other]
  · have cut := (Int.le_ediv_iff_mul_le one_positive).mpr far
    rw [outcome_far _ _ (le_counted value farSeconds (by decide) far), outcome_far _ _ cut]

section Written
variable (written : Written)

theorem units_nonnegative (unsigned : written.negative = false) : 0 ≤ written.nearest.units := by
  rw [Written.nearest, ofRatio, units_rounded, unsigned, if_neg Bool.false_ne_true]
  exact Int.natCast_nonneg _

/-- The exact value and one half, between two whole numbers. -/
theorem around_exact (whole : Int) (floor : ⌊written.exact + 1 / 2⌋ = whole) :
    (2 * whole - 1) * (written.scale : Int) ≤ 2 * written.digits ∧
      2 * written.digits ≤ (2 * whole + 1) * (written.scale : Int) := by
  have positive : (0 : Int) < (2 * written.scale : Nat) := by
    have scale := written.scale_pos
    omega
  rw [floor_exact] at floor
  have least := Int.ediv_mul_le (2 * written.digits + written.scale) (Int.ne_of_gt positive)
  have most := Int.lt_ediv_add_one_mul_self (2 * written.digits + written.scale) positive
  rw [floor] at least most
  push_cast at least most
  constructor <;> linarith

/-- The halves on either side of the exact value are on the same sides of the nearest number. -/
theorem halves_around (whole : Int) (near : whole.natAbs ≤ 17179869184)
    (floor : ⌊written.exact + 1 / 2⌋ = whole) :
    (2 * whole - 1) * halfOne ≤ written.nearest.units ∧
      written.nearest.units ≤ (2 * whole + 1) * halfOne := by
  obtain ⟨lower, upper⟩ := around_exact written whole floor
  have half : (0 : Int) ≤ halfOne := Int.natCast_nonneg _
  rw [written.units_nearest, whole_halves]
  constructor
  · apply le_nearestUnits _ _ written.scale_pos _ (kept_halves _ (by omega))
    exact (Int.mul_right_comm _ _ _).trans_le (Int.mul_le_mul_of_nonneg_right lower half)
  · apply nearestUnits_le _ _ written.scale_pos _ (kept_halves _ (by omega))
    exact (Int.mul_le_mul_of_nonneg_right upper half).trans_eq (Int.mul_right_comm _ _ _)

theorem floor_nearest (whole : Int) (near : whole.natAbs ≤ 17179869184)
    (floor : ⌊written.exact + 1 / 2⌋ = whole)
    (apart : written.nearest.units ≠ (2 * whole + 1) * halfOne) :
    (written.nearest.units + halfOne) / one = whole := by
  have next := whole_halves (whole + 1)
  obtain ⟨lower, upper⟩ := halves_around written whole near floor
  rw [Int.sub_mul, Int.one_mul, ← whole_halves] at lower
  have split : (2 * (whole + 1)) * (halfOne : Int) = (2 * whole + 1) * halfOne + halfOne := by ring
  have under := lt_of_le_of_ne upper apart
  apply Int.le_antisymm
  · apply Int.le_of_lt_add_one
    apply Int.ediv_lt_of_lt_mul one_positive
    rw [next, split]
    exact Int.add_lt_add_right under _
  · exact (Int.le_ediv_iff_mul_le one_positive).mpr (Int.le_add_of_sub_right_le lower)

theorem floor_nearest_far (far : 17179869184 < ⌊written.exact + 1 / 2⌋) :
    farSeconds ≤ (written.nearest.units + halfOne) / one := by
  obtain ⟨lower, _⟩ := around_exact written _ rfl
  have scaled : farSeconds * (written.scale : Int) ≤ written.digits := by
    have scale := written.scale_pos
    rw [farSeconds]
    nlinarith
  apply (Int.le_ediv_iff_mul_le one_positive).mpr
  apply Int.le_trans _ (Int.le_add_of_nonneg_right (Int.natCast_nonneg _))
  rw [written.units_nearest]
  apply le_nearestUnits _ _ written.scale_pos _ (kept_whole _ (by decide))
  exact (Int.mul_right_comm _ _ _).trans_le
    (Int.mul_le_mul_of_nonneg_right scaled (Int.natCast_nonneg _))

end Written

theorem toRat_eq_iff (value : Binary64) (numerator : Int) (denominator : Nat)
    (positive : 0 < denominator) :
    value.toRat = numerator / denominator ↔ value.units * denominator = numerator * one := by
  have nonzero : (denominator : ℚ) ≠ 0 := Nat.cast_ne_zero.mpr (Nat.ne_of_gt positive)
  have unit : (one : ℚ) ≠ 0 := Nat.cast_ne_zero.mpr (Nat.ne_of_gt Binary64.one_pos)
  rw [toRat, div_eq_div_iff unit nonzero]
  exact_mod_cast Iff.rfl

theorem toRat_half_iff (value : Binary64) (whole : Int) :
    value.toRat = whole + 1 / 2 ↔ value.units = (2 * whole + 1) * halfOne := by
  have quotient : (whole : ℚ) + 1 / 2 = ((2 * whole + 1 : Int) : ℚ) / (2 : Nat) := by
    push_cast
    ring
  rw [quotient, toRat_eq_iff value _ 2 (by decide), one_eq_halves, Int.natCast_mul,
    Int.mul_left_comm, Int.mul_comm (2 : Nat)]
  exact Int.mul_eq_mul_right_iff (by decide)

theorem toRat_last_iff (value : Binary64) :
    value.toRat = 1 / 2 - 1 / 2 ^ 54 ↔ value.units + lastStep = halfOne := by
  have quotient : (1 / 2 - 1 / 2 ^ 54 : ℚ) = (9007199254740991 : Int) / (18014398509481984 : Nat) := by
    norm_num
  have steps := halfOne_steps
  have halves := one_eq_halves
  rw [quotient, toRat_eq_iff value _ _ (by decide)]
  generalize lastStep = step at *
  generalize halfOne = half at *
  generalize one = unit at *
  omega

theorem floor_nonnegative (written : Written) (unsigned : written.negative = false) :
    0 ≤ ⌊written.exact + 1 / 2⌋ := by
  have digits : 0 ≤ written.digits := by
    rw [Numeral.digits, unsigned, if_neg Bool.false_ne_true]
    exact Int.natCast_nonneg _
  rw [floor_exact]
  apply Int.ediv_nonneg _ (Int.natCast_nonneg _)
  omega

/-- A number without a sign is rounded half up once it has become the nearest binary64 number; so is
the exact value, unless the nearest number is the half above it. The largest number below one half is
left out. -/
theorem read_rounds_half_up (written : Written) (unsigned : written.negative = false)
    (other : written.nearest.toRat ≠ 1 / 2 - 1 / 2 ^ 54) :
    Duration.read written.spelled = outcome written.spelled ⌊written.nearest.toRat + 1 / 2⌋ ∧
      (written.nearest.toRat ≠ ⌊written.exact + 1 / 2⌋ + 1 / 2 →
        Duration.read written.spelled = outcome written.spelled ⌊written.exact + 1 / 2⌋) := by
  have nonnegative := units_nonnegative written unsigned
  have sum : Duration.read written.spelled =
      outcome written.spelled ((written.nearest.units + halfOne) / one) := by
    rw [read_written]
    exact outcome_counted _ _ nonnegative fun last => other ((toRat_last_iff _).mpr last)
  rw [floor_toRat]
  refine ⟨sum, ?_⟩
  intro apart
  rw [sum]
  -- Far beyond the limit the halves are not kept exactly, but there every outcome is the same.
  rcases Int.lt_or_le 17179869184 ⌊written.exact + 1 / 2⌋ with far | near
  · rw [outcome_far _ _ (floor_nearest_far written far), outcome_far _ _ (Int.le_of_lt far)]
  · rw [floor_nearest written _ _ rfl]
    · exact fun half => apart ((toRat_half_iff _ _).mpr half)
    · have start := floor_nonnegative written unsigned
      omega

def nearHalf : Written :=
  { negative := false
    whole := ['0']
    fraction := "4999999999999999".toList
    some := Or.inl (List.cons_ne_nil _ _)
    ascii := List.all_eq_true.mp (by decide) }

theorem nearHalf_units : nearHalf.nearest.units = 9007199254740990 * lastStep := by decide +kernel

theorem nearHalf_floor : ⌊nearHalf.exact + 1 / 2⌋ = 0 := by
  rw [floor_exact]
  decide +kernel

theorem nearHalf_rounds :
    nearHalf.spelled = "0.4999999999999999" ∧ nearHalf.negative = false ∧
      nearHalf.nearest.toRat ≠ 1 / 2 - 1 / 2 ^ 54 ∧
      nearHalf.nearest.toRat ≠ ⌊nearHalf.exact + 1 / 2⌋ + 1 / 2 ∧
      Duration.read nearHalf.spelled = outcome nearHalf.spelled ⌊nearHalf.nearest.toRat + 1 / 2⌋ ∧
      Duration.read nearHalf.spelled = outcome nearHalf.spelled 0 := by
  have other : nearHalf.nearest.toRat ≠ 1 / 2 - 1 / 2 ^ 54 := by
    rw [ne_eq, toRat_last_iff, nearHalf_units]
    decide +kernel
  have apart : nearHalf.nearest.toRat ≠ ⌊nearHalf.exact + 1 / 2⌋ + 1 / 2 := by
    rw [ne_eq, toRat_half_iff, nearHalf_units, nearHalf_floor]
    decide +kernel
  obtain ⟨nearest, exact⟩ := read_rounds_half_up nearHalf rfl other
  refine ⟨by decide +kernel, rfl, other, apart, nearest, ?_⟩
  rw [exact apart, nearHalf_floor]

/-- Below a half by less than binary64 can tell at its size. -/
def underHalf : Written :=
  { negative := false
    whole := "1000000000".toList
    fraction := "49999999".toList
    some := Or.inl (List.cons_ne_nil _ _)
    ascii := List.all_eq_true.mp (by decide) }

/-- A number below a half is read as the next second, for its digits are rounded to the half. -/
theorem underHalf_rounded_twice :
    Duration.read "1000000000.49999999" = .ok ⟨1000000001000000000, by decide, by decide⟩ ∧
      ¬ ∀ written : Written, written.negative = false →
        Duration.read written.spelled = outcome written.spelled ⌊written.exact + 1 / 2⌋ := by
  have denotes : Duration.read "1000000000.49999999" =
      .ok ⟨1000000001000000000, by decide, by decide⟩ :=
    (toOption_eq_some_iff _ _).mp (by decide +kernel)
  refine ⟨denotes, ?_⟩
  intro always
  have spelled : underHalf.spelled = "1000000000.49999999" := by decide +kernel
  have floor : ⌊underHalf.exact + 1 / 2⌋ = 1000000000 := by
    rw [floor_exact]
    decide +kernel
  have exact := always underHalf rfl
  rw [floor, spelled, denotes] at exact
  have nanos := outcome_nanos _ _ _ exact.symm
  exact absurd nanos (by decide)

end Duration.Seconds

end NodePolicy
