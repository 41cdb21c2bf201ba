import NodePolicy.Proofs.Rounding

/-!
Arithmetic on whole numbers in binary64. A whole number that is a significand of 53 bits times a
power of two is kept exactly, and then products and quotients are rounded once. Quotients of finite
numbers by numbers of at least one are finite.
-/

namespace NodePolicy.Binary64

theorem one_pos : 0 < one := by decide +kernel

theorem two_pow_mul_one (shift : Nat) : 2 ^ shift * one = 2 ^ (shift + 1074) := by
  rw [Nat.pow_add]
  exact congrArg (2 ^ shift * ·) (by decide +kernel)

def largestBits : Nat := infinityBits - 1

theorem roundedBits_finite (numerator denominator : Nat) (positive : 0 < denominator)
    (fits : numerator ≤ unitsOfBits largestBits * denominator) :
    roundedBits numerator denominator < infinityBits := by
  have exact := roundedBits_exact largestBits (unitsOfBits largestBits) 1 (by decide) (by decide)
    (Nat.mul_one _).symm
  have order := roundedBits_mono numerator denominator (unitsOfBits largestBits) 1 positive
    (by decide) (by rw [Nat.mul_one]; exact fits)
  rw [exact] at order
  exact Nat.lt_of_le_of_lt order (by decide)

theorem isFinite_ofRatio (negative : Bool) (numerator denominator : Nat) (positive : 0 < denominator)
    (fits : numerator * one ≤ unitsOfBits largestBits * denominator) :
    (ofRatio negative numerator denominator).isFinite = true :=
  isFinite_ofMagnitudeBits negative _ (roundedBits_finite _ denominator positive fits)

/-- Whole numbers of up to 308 digits are finite. -/
theorem ten_pow_fits : 10 ^ 308 * one ≤ unitsOfBits largestBits * 1 := by decide +kernel

theorem ofRatio_whole_finite (negative : Bool) (value : Nat) (few : value ≤ 10 ^ 308) :
    (ofRatio negative value 1).isFinite = true :=
  isFinite_ofRatio negative value 1 (by decide)
    (Nat.le_trans (Nat.mul_le_mul_right one few) ten_pow_fits)

theorem magnitudeBits_of_rounded (negative : Bool) (numerator denominator : Nat) :
    (ofMagnitudeBits negative (roundedBits numerator denominator)).magnitudeBits =
      roundedBits numerator denominator :=
  ofMagnitudeBits_magnitudeBits negative _
    (Nat.lt_of_le_of_lt (roundedBits_le_infinity numerator denominator) infinityBits_lt_signBit)

theorem isFinite_div (x y : Binary64) (finite : x.isFinite = true) (large : one ≤ y.magnitude) :
    (x.div y).isFinite = true := by
  have below : x.magnitudeBits < infinityBits := of_decide_eq_true finite
  have unchanged : roundedBits x.magnitude 1 = x.magnitudeBits :=
    roundedBits_exact x.magnitudeBits _ 1 below (by decide) (Nat.mul_one _).symm
  have positive : 0 < y.magnitude := Nat.lt_of_lt_of_le one_pos large
  have order := roundedBits_mono (x.magnitude * one) y.magnitude x.magnitude 1 positive (by decide)
    (by rw [Nat.mul_one]; exact Nat.mul_le_mul_left _ large)
  rw [unchanged] at order
  exact isFinite_ofMagnitudeBits _ _ (Nat.lt_of_le_of_lt order below)

theorem unitsOfBits_of_grid (shift significand : Nat) (long : 2 ^ 52 ≤ significand)
    (short : significand < 2 ^ 53) :
    unitsOfBits (shift * hiddenBit + significand) = significand * 2 ^ shift := by
  have rest : significand - hiddenBit < hiddenBit := by
    rw [hiddenBit]
    omega
  have split : shift * hiddenBit + significand =
      hiddenBit * (shift + 1) + (significand - hiddenBit) := by
    rw [hiddenBit]
    omega
  have exponent : (shift * hiddenBit + significand) / hiddenBit = shift + 1 := by
    rw [split, Nat.mul_add_div (by decide), Nat.div_eq_of_lt rest, Nat.add_zero]
  have fraction : (shift * hiddenBit + significand) % hiddenBit = significand - hiddenBit := by
    rw [split, Nat.mul_add_mod, Nat.mod_eq_of_lt rest]
  have whole : hiddenBit + (significand - hiddenBit) = significand := by
    rw [hiddenBit]
    omega
  simp only [unitsOfBits, exponent, fraction, if_neg (Nat.succ_ne_zero shift), whole,
    Nat.add_sub_cancel]
  rfl

/-- A quotient on one of the coarser grids is rounded by at most one part in 2^53. -/
theorem roundedBits_close (numerator denominator : Nat) (positive : 0 < denominator)
    (normal : 4503599627370496 * denominator ≤ numerator)
    (finite : roundedBits numerator denominator < infinityBits) :
    9007199254740992 * (unitsOfBits (roundedBits numerator denominator) * denominator) ≤
        9007199254740993 * numerator ∧
      9007199254740991 * numerator ≤
        9007199254740992 * (unitsOfBits (roundedBits numerator denominator) * denominator) := by
  have below := gridShift_below numerator denominator positive
  have above : 4503599627370496 * (denominator * 2 ^ gridShift numerator denominator) ≤
      numerator := by
    by_cases finest : gridShift numerator denominator = 0
    · rw [finest, Nat.pow_zero, Nat.mul_one]
      exact normal
    · exact gridShift_above numerator denominator positive finest
  rw [roundedBits_eq] at finite ⊢
  generalize gridShift numerator denominator = shift at below above finite ⊢
  have step : 0 < denominator * 2 ^ shift := Nat.mul_pos positive (Nat.two_pow_pos shift)
  have near := nearestQuotient_near numerator (denominator * 2 ^ shift) step
  have long := le_nearestQuotient 4503599627370496 numerator (denominator * 2 ^ shift) step above
  have short : nearestQuotient numerator (denominator * 2 ^ shift) ≤ 9007199254740992 := by
    apply (nearestQuotient_le_iff _ _ _ step).mpr
    left
    omega
  generalize nearestQuotient numerator (denominator * 2 ^ shift) = significand at *
  have units : unitsOfBits (shift * hiddenBit + significand) = significand * 2 ^ shift := by
    rcases Nat.lt_or_eq_of_le short with shorter | rfl
    · exact unitsOfBits_of_grid shift significand long shorter
    · -- A significand that was rounded up to 54 bits is the least one of the next grid.
      have next := unitsOfBits_of_grid (shift + 1) 4503599627370496 (by decide) (by decide)
      have same : shift * hiddenBit + 9007199254740992 =
          (shift + 1) * hiddenBit + 4503599627370496 := by
        rw [hiddenBit]
        omega
      rw [same, next]
      ring
  have within : shift * hiddenBit + significand < infinityBits := by omega
  have whole : significand * 2 ^ shift * denominator = significand * (denominator * 2 ^ shift) := by
    ring
  rw [Nat.min_eq_left (Nat.le_of_lt within), units, whole]
  generalize significand * (denominator * 2 ^ shift) = product at near
  generalize denominator * 2 ^ shift = unit at near above
  omega

/-- A short significand is one of a number, on a grid that is neither too fine nor too coarse. -/
theorem exists_units (significand shift : Nat) (short : significand < 2 ^ 53) (fine : 52 ≤ shift)
    (coarse : shift ≤ 2045) :
    ∃ magnitude < infinityBits, unitsOfBits magnitude = significand * 2 ^ shift := by
  by_cases zero : significand = 0
  · exact ⟨0, by decide, by rw [zero, Nat.zero_mul]; rfl⟩
  -- The significand is moved to the left until it has 53 bits.
  have log : significand.log2 ≤ 52 := Nat.le_of_lt_succ ((Nat.log2_lt zero).mpr short)
  have left : 2 ^ significand.log2 * 2 ^ (52 - significand.log2) = 2 ^ 52 := by
    rw [← Nat.pow_add, Nat.add_sub_cancel' log]
  have right : 2 ^ (52 - significand.log2) * 2 ^ (shift - (52 - significand.log2)) = 2 ^ shift := by
    rw [← Nat.pow_add, Nat.add_sub_cancel' (by omega)]
  have lower : 2 ^ 52 ≤ significand * 2 ^ (52 - significand.log2) := by
    rw [← left]
    exact Nat.mul_le_mul_right _ (Nat.log2_self_le zero)
  have upper : significand * 2 ^ (52 - significand.log2) < 2 ^ 53 := by
    have next : 2 ^ (significand.log2 + 1) * 2 ^ (52 - significand.log2) = 2 ^ 53 := by
      rw [Nat.pow_succ, Nat.mul_right_comm, left]
      rfl
    rw [← next]
    exact Nat.mul_lt_mul_of_pos_right Nat.lt_log2_self (Nat.two_pow_pos _)
  refine ⟨(shift - (52 - significand.log2)) * hiddenBit +
    significand * 2 ^ (52 - significand.log2), ?_, ?_⟩
  · rw [infinityBits, hiddenBit]
    omega
  · rw [unitsOfBits_of_grid _ _ lower upper, Nat.mul_assoc, right]

/-- A whole number that is kept exactly: its odd part has no more than 53 bits. -/
def Exact (value : Nat) : Prop :=
  ∃ significand shift, significand < 2 ^ 53 ∧ shift ≤ 900 ∧ value = significand * 2 ^ shift

theorem exact_of_short (value : Nat) (short : value < 2 ^ 53) : Exact value :=
  ⟨value, 0, short, by decide, (Nat.mul_one value).symm⟩

theorem ofNat_exact (value : Nat) (exact : Exact value) :
    (ofNat value).magnitude = value * one ∧ (ofNat value).isFinite = true := by
  obtain ⟨significand, shift, short, few, rfl⟩ := exact
  obtain ⟨magnitude, finite, units⟩ :=
    exists_units significand (shift + 1074) short (by omega) (by omega)
  have scaled : significand * 2 ^ shift * one = unitsOfBits magnitude := by
    rw [units, Nat.mul_assoc, two_pow_mul_one]
  have rounded : roundedBits (significand * 2 ^ shift * one) 1 = magnitude :=
    roundedBits_exact magnitude _ 1 finite (by decide) (by rw [scaled, Nat.mul_one])
  constructor
  · rw [ofNat, ofRatio, Binary64.magnitude, magnitudeBits_of_rounded, rounded, scaled]
  · rw [ofNat, ofRatio, rounded]
    exact isFinite_ofMagnitudeBits false magnitude finite

theorem isNegative_ofNat (value : Nat) : (ofNat value).isNegative = false :=
  ofMagnitudeBits_isNegative false _
    (Nat.lt_of_le_of_lt (roundedBits_le_infinity _ _) infinityBits_lt_signBit)

/-- A product of exact whole numbers is rounded once. -/
theorem mul_exact (first second : Nat) (exactFirst : Exact first) (exactSecond : Exact second) :
    (ofNat first).mul (ofNat second) =
      ofMagnitudeBits false (roundedBits (first * second * one) 1) := by
  have once : roundedBits (first * one * (second * one)) one =
      roundedBits (first * second * one) 1 :=
    roundedBits_ratio _ _ _ _ one_pos (by decide) (by ring)
  rw [mul, isNegative_ofNat, isNegative_ofNat, (ofNat_exact first exactFirst).1,
    (ofNat_exact second exactSecond).1, once]
  rfl

/-- A quotient of exact whole numbers is rounded once. -/
theorem div_exact (first second : Nat) (exactFirst : Exact first) (exactSecond : Exact second)
    (positive : 0 < second) :
    (ofNat first).div (ofNat second) =
      ofMagnitudeBits false (roundedBits (first * one) second) := by
  have once : roundedBits (first * one * one) (second * one) = roundedBits (first * one) second :=
    roundedBits_ratio _ _ _ _ (Nat.mul_pos positive one_pos) positive (by ring)
  rw [div, isNegative_ofNat, isNegative_ofNat, (ofNat_exact first exactFirst).1,
    (ofNat_exact second exactSecond).1, once]
  rfl

end NodePolicy.Binary64
