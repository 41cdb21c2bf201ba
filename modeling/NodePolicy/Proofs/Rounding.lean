import Mathlib.Tactic.Ring
import Mathlib.Tactic.SplitIfs
import NodePolicy.Binary64.Basic

/-!
Rounding to binary64. The bits of the nearest number depend on a quotient by its value alone and grow
with it, and a quotient close enough to a finite number is rounded to that number. A finite magnitude
is a significand of 53 bits on a grid of units, and a significand below 52 bits occurs on the finest
grid only, which is what makes its bits unique.
-/

namespace NodePolicy.Binary64

theorem nearestQuotient_le_iff (numerator denominator bound : Nat) (positive : 0 < denominator) :
    nearestQuotient numerator denominator ≤ bound ↔
      2 * numerator < (2 * bound + 1) * denominator ∨
        (2 * numerator = (2 * bound + 1) * denominator ∧ bound % 2 = 0) := by
  have parts := Nat.div_add_mod numerator denominator
  have small := Nat.mod_lt numerator positive
  have double : (2 * bound + 1) * denominator = 2 * (denominator * bound) + denominator := by ring
  rw [nearestQuotient, double]
  generalize numerator / denominator = quotient at parts
  generalize numerator % denominator = remainder at parts small
  rcases Nat.lt_trichotomy quotient bound with less | same | more
  · have below : denominator * (quotient + 1) ≤ denominator * bound :=
      Nat.mul_le_mul_left denominator less
    rw [Nat.mul_add, Nat.mul_one] at below
    split_ifs <;> omega
  · subst same
    split_ifs <;> omega
  · have above : denominator * (bound + 1) ≤ denominator * quotient :=
      Nat.mul_le_mul_left denominator more
    rw [Nat.mul_add, Nat.mul_one] at above
    split_ifs <;> omega

theorem nearestQuotient_mono (numerator denominator larger divisor : Nat)
    (positive : 0 < denominator) (divides : 0 < divisor)
    (order : numerator * divisor ≤ larger * denominator) :
    nearestQuotient numerator denominator ≤ nearestQuotient larger divisor := by
  rw [nearestQuotient_le_iff numerator denominator _ positive]
  have bounded := (nearestQuotient_le_iff larger divisor _ divides).mp (Nat.le_refl _)
  generalize nearestQuotient larger divisor = bound at bounded ⊢
  have crossed : 2 * numerator * divisor ≤ 2 * larger * denominator := by
    rw [Nat.mul_assoc, Nat.mul_assoc]
    exact Nat.mul_le_mul_left 2 order
  rcases bounded with below | ⟨half, even⟩
  · left
    apply Nat.lt_of_mul_lt_mul_right (a := divisor)
    calc 2 * numerator * divisor ≤ 2 * larger * denominator := crossed
      _ < (2 * bound + 1) * divisor * denominator := Nat.mul_lt_mul_of_pos_right below positive
      _ = (2 * bound + 1) * denominator * divisor := Nat.mul_right_comm _ _ _
  · -- A half goes to the even neighbour on both sides, so a tie stays a tie or falls below.
    have tied : 2 * larger * denominator = (2 * bound + 1) * denominator * divisor := by
      rw [half, Nat.mul_right_comm]
    rw [tied] at crossed
    have scaled := Nat.le_of_mul_le_mul_right crossed divides
    rcases Nat.lt_or_eq_of_le scaled with below | tie
    · exact Or.inl below
    · exact Or.inr ⟨tie, even⟩

theorem le_nearestQuotient (bound numerator denominator : Nat) (positive : 0 < denominator)
    (reaches : bound * denominator ≤ numerator) :
    bound ≤ nearestQuotient numerator denominator := by
  have whole := (Nat.le_div_iff_mul_le positive).mpr reaches
  rw [nearestQuotient]
  split_ifs <;> omega

theorem nearestQuotient_eq (nearest numerator denominator : Nat) (positive : 0 < denominator)
    (above : 2 * (nearest * denominator) < 2 * numerator + denominator)
    (below : 2 * numerator < 2 * (nearest * denominator) + denominator) :
    nearestQuotient numerator denominator = nearest := by
  apply Nat.le_antisymm
  · apply (nearestQuotient_le_iff numerator denominator nearest positive).mpr
    left
    have double : (2 * nearest + 1) * denominator = 2 * (nearest * denominator) + denominator := by
      ring
    rw [double]
    exact below
  · by_contra less
    cases nearest with
    | zero => exact less (Nat.zero_le _)
    | succ lower =>
        have bounded := (nearestQuotient_le_iff numerator denominator lower positive).mp
          (Nat.le_of_lt_succ (Nat.lt_of_not_le less))
        have double : (2 * lower + 1) * denominator = 2 * (lower * denominator) + denominator := by
          ring
        have next : (lower + 1) * denominator = lower * denominator + denominator := by ring
        rw [double] at bounded
        rw [next] at above
        omega

theorem nearestQuotient_near (numerator denominator : Nat) (positive : 0 < denominator) :
    2 * (nearestQuotient numerator denominator * denominator) ≤ 2 * numerator + denominator ∧
      2 * numerator ≤ 2 * (nearestQuotient numerator denominator * denominator) + denominator := by
  have parts := Nat.div_add_mod numerator denominator
  have small := Nat.mod_lt numerator positive
  rw [Nat.mul_comm] at parts
  have next : (numerator / denominator + 1) * denominator =
      numerator / denominator * denominator + denominator := Nat.succ_mul _ _
  rw [nearestQuotient]
  split_ifs with below above
  · omega
  · omega
  · rcases Nat.mod_two_eq_zero_or_one (numerator / denominator) with even | odd
    · rw [even, Nat.add_zero]
      omega
    · rw [odd]
      omega

theorem nearestQuotient_neighbour (numerator denominator : Nat) :
    nearestQuotient numerator denominator = numerator / denominator ∨
      nearestQuotient numerator denominator = numerator / denominator + 1 := by
  rw [nearestQuotient]
  split_ifs <;> omega

/-! The grid of a quotient -/

/-- The exponent of the grid on which a quotient has 53 significant bits, at most. -/
def gridShift (numerator denominator : Nat) : Nat := (numerator / denominator).log2 - 52

theorem roundedBits_eq (numerator denominator : Nat) :
    roundedBits numerator denominator =
      min (gridShift numerator denominator * hiddenBit +
        nearestQuotient numerator (denominator * 2 ^ gridShift numerator denominator))
        infinityBits := rfl

theorem gridShift_below (numerator denominator : Nat) (positive : 0 < denominator) :
    numerator < 2 ^ 53 * (denominator * 2 ^ gridShift numerator denominator) := by
  have reach : numerator / denominator < 2 ^ (gridShift numerator denominator + 53) := by
    apply Nat.lt_of_lt_of_le Nat.lt_log2_self
    apply Nat.pow_le_pow_right (by decide)
    rw [gridShift]
    omega
  rw [Nat.div_lt_iff_lt_mul positive, Nat.pow_add] at reach
  rw [← Nat.mul_assoc, Nat.mul_right_comm, Nat.mul_comm (2 ^ 53)]
  exact reach

theorem gridShift_above (numerator denominator : Nat) (positive : 0 < denominator)
    (coarse : gridShift numerator denominator ≠ 0) :
    2 ^ 52 * (denominator * 2 ^ gridShift numerator denominator) ≤ numerator := by
  have nonzero : numerator / denominator ≠ 0 := by
    intro zero
    rw [gridShift, zero] at coarse
    exact coarse rfl
  have reach : 2 ^ (gridShift numerator denominator + 52) ≤ numerator / denominator := by
    have exact : gridShift numerator denominator + 52 = (numerator / denominator).log2 := by
      rw [gridShift] at coarse ⊢
      omega
    rw [exact]
    exact Nat.log2_self_le nonzero
  rw [Nat.le_div_iff_mul_le positive, Nat.pow_add] at reach
  rw [← Nat.mul_assoc, Nat.mul_right_comm, Nat.mul_comm (2 ^ 52)]
  exact reach

theorem gridShift_le (numerator denominator larger divisor : Nat) (positive : 0 < denominator)
    (divides : 0 < divisor) (order : numerator * divisor ≤ larger * denominator) :
    gridShift numerator denominator ≤ gridShift larger divisor := by
  have shorter : numerator / denominator ≤ larger / divisor := by
    rw [Nat.le_div_iff_mul_le divides]
    apply Nat.le_of_mul_le_mul_right _ positive
    calc numerator / denominator * divisor * denominator =
          numerator / denominator * denominator * divisor := Nat.mul_right_comm _ _ _
      _ ≤ numerator * divisor := Nat.mul_le_mul_right divisor (Nat.div_mul_le_self _ _)
      _ ≤ larger * denominator := order
  have logs : (numerator / denominator).log2 ≤ (larger / divisor).log2 := by
    by_cases zero : numerator / denominator = 0
    · rw [zero]
      exact Nat.zero_le _
    · have nonzero : larger / divisor ≠ 0 :=
        Nat.ne_of_gt (Nat.lt_of_lt_of_le (Nat.pos_of_ne_zero zero) shorter)
      apply (Nat.le_log2 nonzero).mpr
      exact Nat.le_trans (Nat.log2_self_le zero) shorter
  rw [gridShift, gridShift]
  omega

theorem gridShift_eq (shift numerator denominator : Nat) (positive : 0 < denominator)
    (below : numerator < 2 ^ 53 * (denominator * 2 ^ shift))
    (above : shift = 0 ∨ 2 ^ 52 * (denominator * 2 ^ shift) ≤ numerator) :
    gridShift numerator denominator = shift := by
  have foundBelow := gridShift_below numerator denominator positive
  have foundAbove := gridShift_above numerator denominator positive
  generalize gridShift numerator denominator = found at foundBelow foundAbove
  -- One of two grids that both fit is not finer than the other by a factor of two.
  have apart : ∀ fine coarse, fine < coarse →
      2 ^ 53 * (denominator * 2 ^ fine) ≤ 2 ^ 52 * (denominator * 2 ^ coarse) := by
    intro fine coarse less
    have doubled : 2 ^ fine * 2 ≤ 2 ^ coarse := by
      rw [← Nat.pow_succ]
      exact Nat.pow_le_pow_right (by decide) less
    calc 2 ^ 53 * (denominator * 2 ^ fine) = 2 ^ 52 * (denominator * (2 ^ fine * 2)) := by ring
      _ ≤ 2 ^ 52 * (denominator * 2 ^ coarse) :=
          Nat.mul_le_mul_left _ (Nat.mul_le_mul_left _ doubled)
  rcases Nat.lt_trichotomy found shift with finer | same | coarser
  · have between := apart found shift finer
    omega
  · exact same
  · have between := apart shift found coarser
    have reached := foundAbove (by omega)
    omega

/-- A larger quotient is never rounded to a smaller number. -/
theorem roundedBits_mono (numerator denominator larger divisor : Nat) (positive : 0 < denominator)
    (divides : 0 < divisor) (order : numerator * divisor ≤ larger * denominator) :
    roundedBits numerator denominator ≤ roundedBits larger divisor := by
  rw [roundedBits_eq, roundedBits_eq]
  apply min_le_min_right
  have shifts := gridShift_le numerator denominator larger divisor positive divides order
  have below := gridShift_below numerator denominator positive
  have above := gridShift_above larger divisor divides
  generalize gridShift numerator denominator = fine at shifts below
  generalize gridShift larger divisor = coarse at shifts above
  have stepFine : 0 < denominator * 2 ^ fine := Nat.mul_pos positive (Nat.two_pow_pos fine)
  have stepCoarse : 0 < divisor * 2 ^ coarse := Nat.mul_pos divides (Nat.two_pow_pos coarse)
  rcases Nat.lt_or_eq_of_le shifts with finer | same
  · -- On a finer grid the significand is at most one past 53 bits; on a coarser it has all of them.
    have most : nearestQuotient numerator (denominator * 2 ^ fine) ≤ 2 ^ 53 := by
      apply (nearestQuotient_le_iff _ _ _ stepFine).mpr
      left
      generalize denominator * 2 ^ fine = step at below stepFine
      omega
    have least := le_nearestQuotient (2 ^ 52) larger (divisor * 2 ^ coarse) stepCoarse
      (above (by omega))
    rw [hiddenBit]
    omega
  · subst same
    apply Nat.add_le_add_left
    apply nearestQuotient_mono _ _ _ _ stepFine stepCoarse
    calc numerator * (divisor * 2 ^ fine) = numerator * divisor * 2 ^ fine := by ring
      _ ≤ larger * denominator * 2 ^ fine := Nat.mul_le_mul_right _ order
      _ = larger * (denominator * 2 ^ fine) := by ring

/-- Only the value of a quotient matters. -/
theorem roundedBits_ratio (numerator denominator other divisor : Nat) (positive : 0 < denominator)
    (divides : 0 < divisor) (same : numerator * divisor = other * denominator) :
    roundedBits numerator denominator = roundedBits other divisor :=
  Nat.le_antisymm
    (roundedBits_mono _ _ _ _ positive divides (Nat.le_of_eq same))
    (roundedBits_mono _ _ _ _ divides positive (Nat.le_of_eq same.symm))

theorem roundedBits_le_infinity (numerator denominator : Nat) :
    roundedBits numerator denominator ≤ infinityBits := Nat.min_le_right _ _

/-- A significand on a grid: of 53 bits, or on the finest grid of fewer. -/
structure OnGrid (magnitude shift significand : Nat) : Prop where
  bits : magnitude = shift * hiddenBit + significand
  units : unitsOfBits magnitude = significand * 2 ^ shift
  short : significand < 2 ^ 53
  long : shift = 0 ∨ 2 ^ 52 ≤ significand

theorem magnitude_onGrid (magnitude : Nat) :
    ∃ shift significand, OnGrid magnitude shift significand := by
  have parts := Nat.div_add_mod magnitude hiddenBit
  have fraction : magnitude % hiddenBit < hiddenBit := Nat.mod_lt magnitude (by decide)
  have units : unitsOfBits magnitude =
      if magnitude / hiddenBit = 0 then magnitude % hiddenBit
      else (hiddenBit + magnitude % hiddenBit) * 2 ^ (magnitude / hiddenBit - 1) := rfl
  rw [Nat.mul_comm] at parts
  generalize magnitude / hiddenBit = exponent at parts units
  generalize magnitude % hiddenBit = rest at parts units fraction
  rw [hiddenBit] at fraction
  cases exponent with
  | zero =>
      refine ⟨0, rest, by omega, ?_, by omega, Or.inl rfl⟩
      rw [units, if_pos rfl, Nat.pow_zero, Nat.mul_one]
  | succ shift =>
      refine ⟨shift, hiddenBit + rest, ?_, ?_, ?_, Or.inr ?_⟩
      · rw [← parts, Nat.succ_mul, Nat.add_assoc]
      · rw [units, if_neg (Nat.succ_ne_zero shift), Nat.add_sub_cancel]
      · rw [hiddenBit]
        omega
      · rw [hiddenBit]
        omega

theorem unitsOfBits_mono (magnitude larger : Nat) (order : magnitude ≤ larger) :
    unitsOfBits magnitude ≤ unitsOfBits larger := by
  obtain ⟨fine, few, first⟩ := magnitude_onGrid magnitude
  obtain ⟨coarse, many, second⟩ := magnitude_onGrid larger
  have bitsFirst := first.bits
  have bitsSecond := second.bits
  have short := first.short
  have shortSecond := second.short
  have long := first.long
  have longSecond := second.long
  rw [hiddenBit] at bitsFirst bitsSecond
  rw [first.units, second.units]
  rcases Nat.lt_trichotomy fine coarse with finer | same | coarser
  · have doubled : 2 ^ fine * 2 ≤ 2 ^ coarse := by
      rw [← Nat.pow_succ]
      exact Nat.pow_le_pow_right (by decide) finer
    calc few * 2 ^ fine ≤ many * 2 * 2 ^ fine := Nat.mul_le_mul_right _ (by omega)
      _ = many * (2 ^ fine * 2) := by ring
      _ ≤ many * 2 ^ coarse := Nat.mul_le_mul_left _ doubled
  · subst same
    exact Nat.mul_le_mul_right _ (by omega)
  · omega

theorem roundedBits_of_grid (magnitude shift significand numerator denominator : Nat)
    (finite : magnitude < infinityBits) (bits : magnitude = shift * hiddenBit + significand)
    (found : gridShift numerator denominator = shift)
    (nearest : nearestQuotient numerator (denominator * 2 ^ shift) = significand) :
    roundedBits numerator denominator = magnitude := by
  rw [roundedBits_eq, found, nearest, ← bits]
  exact Nat.min_eq_left (Nat.le_of_lt finite)

/-- Just below a power of two the grid is finer, and a quotient that rounds up to the power has a
significand of 54 bits there. -/
theorem roundedBits_below_power (shift numerator denominator : Nat)
    (finite : (shift + 1) * hiddenBit + 4503599627370496 < infinityBits) (positive : 0 < denominator)
    (under : numerator < 9007199254740992 * (denominator * 2 ^ shift))
    (near : 19999999999999999 * (9007199254740992 * (denominator * 2 ^ shift)) ≤
      20000000000000000 * numerator) :
    roundedBits numerator denominator = (shift + 1) * hiddenBit + 4503599627370496 := by
  have step : 0 < denominator * 2 ^ shift := Nat.mul_pos positive (Nat.two_pow_pos shift)
  apply roundedBits_of_grid _ shift 9007199254740992 _ _ finite
  · rw [hiddenBit]
    omega
  · apply gridShift_eq _ _ _ positive under
    right
    generalize denominator * 2 ^ shift = size at near
    omega
  · apply nearestQuotient_eq _ _ _ step
    · generalize denominator * 2 ^ shift = size at near step
      omega
    · generalize denominator * 2 ^ shift = size at under
      omega

/-- A quotient that is off a finite number by less than one part in 2 · 10^16 is rounded to it. -/
theorem roundedBits_near (magnitude numerator denominator : Nat) (finite : magnitude < infinityBits)
    (positive : 0 < denominator)
    (notFarAbove : 20000000000000000 * numerator ≤
      20000000000000001 * (unitsOfBits magnitude * denominator))
    (notFarBelow : 19999999999999999 * (unitsOfBits magnitude * denominator) ≤
      20000000000000000 * numerator) :
    roundedBits numerator denominator = magnitude := by
  obtain ⟨shift, significand, grid⟩ := magnitude_onGrid magnitude
  have short : significand ≤ 9007199254740991 := Nat.le_of_lt_succ grid.short
  have step : 0 < denominator * 2 ^ shift := Nat.mul_pos positive (Nat.two_pow_pos shift)
  have value : unitsOfBits magnitude * denominator = significand * (denominator * 2 ^ shift) := by
    rw [grid.units]
    ring
  have most : significand * (denominator * 2 ^ shift) ≤
      9007199254740991 * (denominator * 2 ^ shift) := Nat.mul_le_mul_right _ short
  rw [value] at notFarAbove notFarBelow
  by_cases edge : shift ≠ 0 ∧ significand = 4503599627370496 ∧
      numerator < significand * (denominator * 2 ^ shift)
  · obtain ⟨coarse, rfl, under⟩ := edge
    obtain ⟨finer, rfl⟩ := Nat.exists_eq_succ_of_ne_zero coarse
    have halves : 4503599627370496 * (denominator * 2 ^ (finer + 1)) =
        9007199254740992 * (denominator * 2 ^ finer) := by ring
    rw [Nat.succ_eq_add_one, halves] at under notFarBelow
    have bits := grid.bits
    rw [bits] at finite ⊢
    exact roundedBits_below_power finer numerator denominator finite positive under notFarBelow
  · apply roundedBits_of_grid _ shift significand _ _ finite grid.bits
    · apply gridShift_eq _ _ _ positive
      · generalize significand * (denominator * 2 ^ shift) = size at notFarAbove most
        generalize denominator * 2 ^ shift = unit at most step
        omega
      · by_cases finest : shift = 0
        · exact Or.inl finest
        · right
          by_cases power : significand = 4503599627370496
          · have reached : ¬ numerator < significand * (denominator * 2 ^ shift) := fun under =>
              edge ⟨finest, power, under⟩
            rw [power] at reached
            exact Nat.le_of_not_lt reached
          · have long := grid.long.resolve_left finest
            have least : 4503599627370497 * (denominator * 2 ^ shift) ≤
                significand * (denominator * 2 ^ shift) := Nat.mul_le_mul_right _ (by omega)
            generalize significand * (denominator * 2 ^ shift) = size at notFarBelow least
            generalize denominator * 2 ^ shift = unit at least
            omega
    · apply nearestQuotient_eq _ _ _ step
      · generalize significand * (denominator * 2 ^ shift) = size at notFarBelow most ⊢
        generalize denominator * 2 ^ shift = unit at most step ⊢
        omega
      · generalize significand * (denominator * 2 ^ shift) = size at notFarAbove most ⊢
        generalize denominator * 2 ^ shift = unit at most step ⊢
        omega

theorem roundedBits_exact (magnitude numerator denominator : Nat) (finite : magnitude < infinityBits)
    (positive : 0 < denominator) (exact : numerator = unitsOfBits magnitude * denominator) :
    roundedBits numerator denominator = magnitude :=
  roundedBits_near magnitude numerator denominator finite positive (by omega) (by omega)

theorem ofMagnitudeBits_toNat (negative : Bool) (magnitude : Nat) (fits : magnitude < signBit) :
    (ofMagnitudeBits negative magnitude).bits.toNat =
      (if negative then signBit else 0) + magnitude := by
  rw [ofMagnitudeBits, UInt64.toNat_ofNat', signBit] at *
  apply Nat.mod_eq_of_lt
  split_ifs <;> omega

theorem ofMagnitudeBits_magnitudeBits (negative : Bool) (magnitude : Nat)
    (fits : magnitude < signBit) : (ofMagnitudeBits negative magnitude).magnitudeBits = magnitude := by
  rw [magnitudeBits, ofMagnitudeBits_toNat negative magnitude fits]
  cases negative with
  | true => rw [if_pos rfl, Nat.add_mod_left, Nat.mod_eq_of_lt fits]
  | false => rw [if_neg (by decide), Nat.zero_add, Nat.mod_eq_of_lt fits]

theorem ofMagnitudeBits_isNegative (negative : Bool) (magnitude : Nat) (fits : magnitude < signBit) :
    (ofMagnitudeBits negative magnitude).isNegative = negative := by
  rw [isNegative, ofMagnitudeBits_toNat negative magnitude fits]
  cases negative with
  | true => exact decide_eq_true (Nat.le_add_right _ _)
  | false =>
      apply decide_eq_false
      rw [if_neg (by decide), Nat.zero_add]
      exact Nat.not_le_of_lt fits

theorem ofMagnitudeBits_self (x : Binary64) :
    ofMagnitudeBits x.isNegative x.magnitudeBits = x := by
  obtain ⟨bits⟩ := x
  have word := bits.toNat_lt
  have whole : (if isNegative ⟨bits⟩ = true then signBit else 0) + magnitudeBits ⟨bits⟩ =
      bits.toNat := by
    simp only [isNegative, magnitudeBits, decide_eq_true_eq]
    rw [signBit]
    split_ifs <;> omega
  rw [ofMagnitudeBits, whole, UInt64.ofNat_toNat]

theorem infinityBits_lt_signBit : infinityBits < signBit := by decide

theorem isFinite_ofMagnitudeBits (negative : Bool) (magnitude : Nat)
    (finite : magnitude < infinityBits) : (ofMagnitudeBits negative magnitude).isFinite = true := by
  have fits := Nat.lt_trans finite infinityBits_lt_signBit
  rw [isFinite, ofMagnitudeBits_magnitudeBits negative magnitude fits]
  exact decide_eq_true finite

end NodePolicy.Binary64
