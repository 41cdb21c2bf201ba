import NodePolicy.Proofs.Arithmetic
import NodePolicy.Proofs.Forms

/-!
A whole number of seconds. The number, the half that is added to it and their sum are all multiples of
one half with few enough bits to be kept exactly, so only the cut toward zero changes anything. It
takes the half away again where the number is not negative, and below zero it takes away the half
that is still missing to the next whole number, which is one second off.
-/

namespace NodePolicy

namespace Binary64

def halfOne : Nat := 2 ^ 1073

theorem one_eq_halves : one = 2 * halfOne := by decide +kernel

theorem halfOne_pos : 0 < halfOne := by decide +kernel

def ofHalves (halves : Int) : Binary64 :=
  ofMagnitudeBits (halves < 0) (roundedBits (halves.natAbs * halfOne) 1)

theorem ofInt_halves (value : Int) : ofInt value = ofHalves (2 * value) := by
  have sign : decide (2 * value < 0) = decide (value < 0) := decide_eq_decide.mpr (by omega)
  have scaled : value.natAbs * one = (2 * value).natAbs * halfOne := by
    rw [one_eq_halves, Int.natAbs_mul, Nat.mul_left_comm, Nat.mul_assoc]
    rfl
  rw [ofInt, ofRatio, ofHalves, sign, scaled]

theorem half_halves : ofRatio false 1 2 = ofHalves 1 := by
  have same : roundedBits (1 * one) 2 = roundedBits (1 * halfOne) 1 :=
    roundedBits_ratio _ _ _ _ (by decide) (by decide) (by rw [one_eq_halves]; omega)
  rw [ofRatio, same, ofHalves, Int.natAbs_one, decide_eq_false (by decide)]

section Short
variable (halves : Int) (short : halves.natAbs < 2 ^ 53)
include short

theorem exists_halves :
    ∃ magnitude < infinityBits, ofHalves halves = ofMagnitudeBits (halves < 0) magnitude ∧
      unitsOfBits magnitude = halves.natAbs * halfOne := by
  obtain ⟨magnitude, finite, units⟩ := exists_units halves.natAbs 1073 short (by decide) (by decide)
  have rounded : roundedBits (halves.natAbs * halfOne) 1 = magnitude :=
    roundedBits_exact magnitude _ 1 finite (by decide) (by rw [units, Nat.mul_one, halfOne])
  exact ⟨magnitude, finite, by rw [ofHalves, rounded], by rw [units, halfOne]⟩

theorem isFinite_ofHalves : (ofHalves halves).isFinite = true := by
  obtain ⟨magnitude, finite, same, _⟩ := exists_halves halves short
  rw [same]
  exact isFinite_ofMagnitudeBits _ magnitude finite

theorem units_ofHalves : (ofHalves halves).units = halves * halfOne := by
  obtain ⟨magnitude, finite, same, exact⟩ := exists_halves halves short
  have fits := Nat.lt_trans finite infinityBits_lt_signBit
  rw [same, units, Binary64.magnitude, ofMagnitudeBits_isNegative _ _ fits,
    ofMagnitudeBits_magnitudeBits _ _ fits, exact, Int.natCast_mul]
  by_cases negative : halves < 0
  · rw [if_pos (decide_eq_true negative), ← Int.neg_mul]
    congr 1
    omega
  · rw [if_neg (by simp [negative])]
    congr 1
    omega

theorem truncate_ofHalves : (ofHalves halves).truncate = halves.tdiv 2 := by
  rw [truncate, units_ofHalves halves short, one_eq_halves, Int.natCast_mul]
  exact Int.mul_tdiv_mul_of_pos_left halves 2 (Int.natCast_pos.mpr halfOne_pos)

end Short

theorem add_ofHalves (first second : Int) (shortFirst : first.natAbs < 2 ^ 53)
    (shortSecond : second.natAbs < 2 ^ 53) (nonzero : first + second ≠ 0) :
    (ofHalves first).add (ofHalves second) = ofHalves (first + second) := by
  have positive : (0 : Int) < halfOne := Int.natCast_pos.mpr halfOne_pos
  have sign : decide ((first + second) * (halfOne : Int) < 0) = decide (first + second < 0) := by
    have order : (first + second) * (halfOne : Int) < 0 * halfOne ↔ first + second < 0 :=
      Int.mul_lt_mul_right positive
    rw [Int.zero_mul] at order
    exact decide_eq_decide.mpr order
  have some : (first + second) * (halfOne : Int) ≠ 0 := Int.mul_ne_zero nonzero (Int.ne_of_gt positive)
  rw [add, units_ofHalves first shortFirst, units_ofHalves second shortSecond, ← Int.add_mul]
  simp only [if_neg some, sign, Int.natAbs_mul, Int.natAbs_natCast, ofHalves]

end Binary64

namespace Duration.Seconds

open NodePolicy.Text

def wholeText (seconds : Int) : String :=
  String.ofList (if seconds < 0 then '-' :: naturalDigits seconds.natAbs
    else naturalDigits seconds.natAbs)

def wholeNumeral (seconds : Int) : Numeral := ⟨seconds < 0, naturalDigits seconds.natAbs, []⟩

theorem read_rounded (text : String) (numeral : Numeral) (value : Binary64) (duration : Duration)
    (valued : numeral.value? = some value) (rounds : rounded? value = some duration) :
    read text numeral = .ok duration := by
  rw [read, valued]
  dsimp only
  rw [rounds]

theorem ofSeconds_few (seconds : Int) (few : seconds.natAbs ≤ maxSeconds) :
    ∃ duration, ofSeconds? seconds = some duration ∧
      duration.nanos = TimeUnit.second.nanos * seconds :=
  ⟨_, dif_pos few, rfl⟩

section Whole
variable (seconds : Int)

theorem numeral_wholeText :
    numeral? (wholeText seconds).toList = some (wholeNumeral seconds) := by
  rw [numeral_eq_some_iff]
  refine ⟨⟨Or.inl (naturalDigits_ne_nil _), ?_, by simp [wholeNumeral]⟩, ?_⟩
  · exact fun c member => isDecimalDigit_of_isDigit c (naturalDigits_ascii _ c member)
  · rw [wholeText, String.toList_ofList, Numeral.text, Numeral.magnitude, wholeNumeral]
    simp only [decide_eq_true_eq, if_true, List.append_nil]

theorem value_wholeNumeral : (wholeNumeral seconds).value? = some (Binary64.ofInt seconds) := by
  have digits := readNatural_naturalDigits seconds.natAbs
  rw [Numeral.value?, wholeNumeral, List.append_nil, digits]
  rfl

theorem rounded_whole (few : seconds.natAbs ≤ maxSeconds) :
    rounded? (Binary64.ofInt seconds) = ofSeconds? ((2 * seconds + 1).tdiv 2) := by
  have most : maxSeconds = 9223372036 := rfl
  rw [most] at few
  have sum : (Binary64.ofInt seconds).add half = Binary64.ofHalves (2 * seconds + 1) := by
    rw [half, Binary64.half_halves, Binary64.ofInt_halves]
    exact Binary64.add_ofHalves _ _ (by omega) (by decide) (by omega)
  rw [rounded?, sum, Binary64.truncate_ofHalves _ (by omega), if_pos]
  rw [Binary64.ofInt_halves]
  exact Binary64.isFinite_ofHalves _ (by omega)

/-- What the cut toward zero leaves of a whole number and a half. -/
theorem cut_half : (2 * seconds + 1).tdiv 2 = if seconds < 0 then seconds + 1 else seconds := by
  split
  · -- Below zero the sum lies between the number and the next one, and the cut goes up to that.
    have turned : 2 * seconds + 1 = -(2 * (-seconds) - 1) := by omega
    rw [turned, Int.neg_tdiv, Int.tdiv_eq_ediv_of_nonneg (by omega)]
    omega
  · rw [Int.tdiv_eq_ediv_of_nonneg (by omega)]
    omega

theorem read_wholeText (few : seconds.natAbs ≤ maxSeconds) :
    ∃ duration, Duration.read (wholeText seconds) = .ok duration ∧
      duration.nanos = TimeUnit.second.nanos * (2 * seconds + 1).tdiv 2 := by
  have taken : Form.attempt (wholeText seconds) .seconds =
      some (read (wholeText seconds) (wholeNumeral seconds)) := by
    rw [Form.attempt, numeral_wholeText, Option.map_some]
  have fewer : ((2 * seconds + 1).tdiv 2).natAbs ≤ maxSeconds := by
    rw [cut_half]
    split <;> omega
  obtain ⟨duration, counted, nanos⟩ := ofSeconds_few _ fewer
  refine ⟨duration, ?_, nanos⟩
  rw [read_of_attempt _ .seconds _ taken]
  apply read_rounded _ _ _ duration (value_wholeNumeral seconds)
  rw [rounded_whole seconds few, counted]

end Whole

/-- Whole numbers of seconds are read as they stand from zero on, and below zero as the next one. -/
theorem read_whole_seconds (seconds : Int) (few : seconds.natAbs ≤ 9223372036) :
    ∃ duration, Duration.read (wholeText seconds) = .ok duration ∧
      duration.nanos =
        TimeUnit.second.nanos * (if seconds < 0 then seconds + 1 else seconds) := by
  rw [← cut_half]
  exact read_wholeText seconds few

theorem read_most_seconds :
    (9223372036 : Int).natAbs ≤ 9223372036 ∧
      ∃ duration, Duration.read "9223372036" = .ok duration ∧
        duration.nanos = 9223372036000000000 :=
  ⟨by decide, read_whole_seconds 9223372036 (by decide)⟩

/-- Three seconds before zero are read as two. -/
theorem negative_seconds_short :
    (∃ duration, Duration.read "-3" = .ok duration ∧ duration.nanos = -2000000000) ∧
      ¬ ∀ seconds : Int, seconds.natAbs ≤ 9223372036 →
        ∃ duration, Duration.read (wholeText seconds) = .ok duration ∧
          duration.nanos = TimeUnit.second.nanos * seconds := by
  have text : wholeText (-3) = "-3" := by decide +kernel
  obtain ⟨duration, denotes, nanos⟩ := read_wholeText (-3) (by decide)
  have two : duration.nanos = -2000000000 := nanos.trans (by decide)
  refine ⟨⟨duration, text ▸ denotes, two⟩, ?_⟩
  intro always
  obtain ⟨other, again, three⟩ := always (-3) (by decide)
  rw [denotes] at again
  cases again
  rw [two] at three
  exact absurd three (by decide)

end Duration.Seconds

end NodePolicy
