import NodePolicy.Proofs.WholeSeconds

/-!
The number nearest to a signed quotient, counted in units. It grows with the quotient, and a quotient
that is a number is nearest to itself. So a bound that is a number holds for the number nearest to a
quotient as soon as it holds for the quotient.
-/

namespace NodePolicy.Binary64

def nearestUnits (numerator : Int) (denominator : Nat) : Int :=
  if numerator < 0 then -(unitsOfBits (roundedBits numerator.natAbs denominator) : Int)
  else unitsOfBits (roundedBits numerator.natAbs denominator)

def Kept (units : Int) : Prop :=
  ∃ magnitude < infinityBits, unitsOfBits magnitude = units.natAbs

theorem kept_halves (halves : Int) (short : halves.natAbs < 2 ^ 53) : Kept (halves * halfOne) := by
  obtain ⟨magnitude, finite, _, exact⟩ := exists_halves halves short
  refine ⟨magnitude, finite, ?_⟩
  rw [exact, Int.natAbs_mul, Int.natAbs_natCast]

theorem one_positive : (0 : Int) < one := Int.natCast_pos.mpr one_pos

/-- A whole number, counted in halves. -/
theorem whole_halves (whole : Int) : whole * (one : Int) = 2 * whole * halfOne := by
  rw [one_eq_halves, Int.natCast_mul, ← Int.mul_assoc, Int.mul_comm whole]
  rfl

theorem kept_whole (whole : Int) (short : (2 * whole).natAbs < 2 ^ 53) : Kept (whole * one) := by
  rw [whole_halves]
  exact kept_halves (2 * whole) short

theorem units_rounded (negative : Bool) (numerator denominator : Nat) :
    (ofMagnitudeBits negative (roundedBits numerator denominator)).units =
      if negative then -(unitsOfBits (roundedBits numerator denominator) : Int)
      else unitsOfBits (roundedBits numerator denominator) := by
  have fits : roundedBits numerator denominator < signBit :=
    Nat.lt_of_le_of_lt (roundedBits_le_infinity numerator denominator) infinityBits_lt_signBit
  rw [units, magnitude, ofMagnitudeBits_isNegative _ _ fits, ofMagnitudeBits_magnitudeBits _ _ fits]

theorem roundedBits_zero (denominator : Nat) (positive : 0 < denominator) :
    roundedBits 0 denominator = 0 :=
  roundedBits_exact 0 0 denominator (by decide) positive (Nat.zero_mul denominator).symm

theorem nearestUnits_zero (denominator : Nat) (positive : 0 < denominator) :
    nearestUnits 0 denominator = 0 := by
  rw [nearestUnits, if_neg (by decide), Int.natAbs_zero, roundedBits_zero denominator positive]
  rfl

/-- A sign before a zero does not count. -/
theorem units_ofRatio (negative : Bool) (numerator denominator : Nat)
    (positive : 0 < denominator) :
    (ofRatio negative numerator denominator).units =
      nearestUnits ((if negative then -(numerator : Int) else numerator) * one) denominator := by
  have signless : (if negative then -(numerator : Int) else numerator).natAbs = numerator := by
    split
    · rw [Int.natAbs_neg, Int.natAbs_natCast]
    · rw [Int.natAbs_natCast]
  have absolute : ((if negative then -(numerator : Int) else numerator) * (one : Int)).natAbs =
      numerator * one := by
    rw [Int.natAbs_mul, Int.natAbs_natCast, signless]
  rw [ofRatio, units_rounded, nearestUnits, absolute]
  cases negative with
  | false =>
      have least : ¬ (numerator : Int) * one < 0 :=
        Int.not_lt.mpr (Int.mul_nonneg (Int.natCast_nonneg _) (Int.natCast_nonneg _))
      simp only [Bool.false_eq_true, if_false, if_neg least]
  | true =>
      by_cases zero : numerator = 0
      · rw [zero, Nat.zero_mul, roundedBits_zero denominator positive]
        exact (ite_self 0).trans (ite_self 0).symm
      · have below : -(numerator : Int) * one < 0 :=
          Int.mul_neg_of_neg_of_pos (by omega) one_positive
        simp only [if_true, if_pos below]

theorem units_add (x y : Binary64) : (x.add y).units = nearestUnits (x.units + y.units) 1 := by
  by_cases zero : x.units + y.units = 0
  · have nothing := units_rounded (x.isNegative && y.isNegative) 0 1
    rw [roundedBits_zero 1 (by decide)] at nothing
    simp only [add, zero, if_true, nothing, nearestUnits_zero 1 (by decide)]
    split <;> rfl
  · simp only [add, if_neg zero, units_rounded, nearestUnits, decide_eq_true_eq]

theorem nearestUnits_mono (numerator larger : Int) (denominator divisor : Nat)
    (positive : 0 < denominator) (divides : 0 < divisor)
    (order : numerator * divisor ≤ larger * denominator) :
    nearestUnits numerator denominator ≤ nearestUnits larger divisor := by
  have grows : ∀ small large : Nat, ∀ below above : Nat, 0 < below → 0 < above →
      small * above ≤ large * below →
      unitsOfBits (roundedBits small below) ≤ unitsOfBits (roundedBits large above) :=
    fun small large below above some more less =>
      unitsOfBits_mono _ _ (roundedBits_mono small below large above some more less)
  rcases Int.lt_or_le numerator 0 with negative | nonnegative
  · rcases Int.lt_or_le larger 0 with negativeToo | _
    · -- Below zero the larger quotient has the smaller magnitude.
      obtain ⟨small, rfl⟩ : ∃ small : Nat, numerator = -small := ⟨numerator.natAbs, by omega⟩
      obtain ⟨large, rfl⟩ : ∃ large : Nat, larger = -large := ⟨larger.natAbs, by omega⟩
      have turned : large * denominator ≤ small * divisor := by
        rw [Int.neg_mul, Int.neg_mul] at order
        exact_mod_cast Int.neg_le_neg_iff.mp order
      have magnitudes := grows large small divisor denominator divides positive turned
      rw [nearestUnits, nearestUnits, if_pos negative, if_pos negativeToo, Int.natAbs_neg,
        Int.natAbs_neg, Int.natAbs_natCast, Int.natAbs_natCast]
      omega
    · rw [nearestUnits, nearestUnits, if_pos negative, if_neg (by omega)]
      omega
  · have product : 0 ≤ larger * (denominator : Int) :=
      Int.le_trans (Int.mul_nonneg nonnegative (Int.natCast_nonneg divisor)) order
    have nonnegativeToo : 0 ≤ larger :=
      Int.nonneg_of_mul_nonneg_left product (Int.natCast_pos.mpr positive)
    obtain ⟨small, rfl⟩ := Int.eq_ofNat_of_zero_le nonnegative
    obtain ⟨large, rfl⟩ := Int.eq_ofNat_of_zero_le nonnegativeToo
    have magnitudes := grows small large denominator divisor positive divides
      (by exact_mod_cast order)
    rw [nearestUnits, nearestUnits, if_neg (by omega), if_neg (by omega), Int.natAbs_natCast,
      Int.natAbs_natCast]
    omega

theorem nearestUnits_kept (units : Int) (kept : Kept units) : nearestUnits units 1 = units := by
  obtain ⟨magnitude, finite, same⟩ := kept
  have exact : roundedBits units.natAbs 1 = magnitude :=
    roundedBits_exact magnitude _ 1 finite (by decide) (by rw [same, Nat.mul_one])
  rw [nearestUnits, exact, same]
  split <;> omega

section Bound
variable (numerator : Int) (denominator : Nat) (positive : 0 < denominator) (bound : Int)
  (kept : Kept bound)
include positive kept

theorem nearestUnits_le (order : numerator ≤ bound * denominator) :
    nearestUnits numerator denominator ≤ bound := by
  have grows := nearestUnits_mono numerator bound denominator 1 positive (by decide)
    (by rwa [Int.natCast_one, Int.mul_one])
  rwa [nearestUnits_kept bound kept] at grows

theorem le_nearestUnits (order : bound * denominator ≤ numerator) :
    bound ≤ nearestUnits numerator denominator := by
  have grows := nearestUnits_mono bound numerator 1 denominator (by decide) positive
    (by rwa [Int.natCast_one, Int.mul_one])
  rwa [nearestUnits_kept bound kept] at grows

end Bound

section Whole
variable (units bound : Int) (kept : Kept bound)
include kept

theorem nearestUnits_whole_le (order : units ≤ bound) : nearestUnits units 1 ≤ bound := by
  apply nearestUnits_le units 1 (by decide) bound kept
  rwa [Int.natCast_one, Int.mul_one]

theorem le_nearestUnits_whole (order : bound ≤ units) : bound ≤ nearestUnits units 1 := by
  apply le_nearestUnits units 1 (by decide) bound kept
  rwa [Int.natCast_one, Int.mul_one]

end Whole

end NodePolicy.Binary64
