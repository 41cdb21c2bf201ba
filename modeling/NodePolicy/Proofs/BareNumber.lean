import Mathlib.Algebra.Order.Field.Rat
import Mathlib.Tactic.Positivity.Basic
import NodePolicy.Proofs.Nearest

/-!
Bare numbers of seconds in their order. The nearest number, the sum with one half and the cut to whole
seconds never turn two numbers around, so a greater number is never read as a shorter duration; and
since the limit on seconds is an interval, the numbers that are read are one too.
-/

namespace NodePolicy.Duration.Seconds

open NodePolicy.Text

namespace Numeral

def digits (numeral : Numeral) : Int :=
  if numeral.negative then -(digitsValue (numeral.whole ++ numeral.fraction) : Int)
  else digitsValue (numeral.whole ++ numeral.fraction)

def scale (numeral : Numeral) : Nat := Nat.pow 10 numeral.fraction.length

/-- The value that the digits stand for, without any rounding. -/
def exact (numeral : Numeral) : ℚ := numeral.digits / numeral.scale

theorem scale_pos (numeral : Numeral) : 0 < numeral.scale := Nat.pow_pos (by decide)

theorem exact_le_iff (first second : Numeral) :
    first.exact ≤ second.exact ↔
      first.digits * (second.scale : Int) ≤ second.digits * (first.scale : Int) := by
  have positive : (0 : ℚ) < first.scale := Nat.cast_pos.mpr first.scale_pos
  have divides : (0 : ℚ) < second.scale := Nat.cast_pos.mpr second.scale_pos
  rw [exact, exact, div_le_div_iff₀ positive divides]
  exact_mod_cast Iff.rfl

end Numeral

structure Written extends Numeral where
  some : whole ≠ [] ∨ fraction ≠ []
  ascii : ∀ c ∈ whole ++ fraction, c.isDigit = true

namespace Written

variable (written : Written)

def spelled : String := String.ofList written.text

def nearest : Binary64 :=
  Binary64.ofRatio written.negative (digitsValue (written.whole ++ written.fraction)) written.scale

theorem numeral_spelled : numeral? written.spelled.toList = Option.some written.toNumeral := by
  have decimal : ∀ c ∈ written.whole ++ written.fraction, isDecimalDigit c = true :=
    fun c member => isDecimalDigit_of_isDigit c (written.ascii c member)
  obtain ⟨whole, fraction⟩ := List.forall_mem_append.mp decimal
  rw [numeral_eq_some_iff, spelled, String.toList_ofList]
  exact ⟨⟨written.some, whole, fraction⟩, rfl⟩

theorem value_nearest : written.value? = Option.some written.nearest := by
  have counted : written.whole ++ written.fraction ≠ [] := by
    rw [ne_eq, List.append_eq_nil_iff, not_and_or]
    exact written.some
  rw [Numeral.value?, readNatural?, if_pos ⟨counted, List.all_eq_true.mpr written.ascii⟩]
  rfl

theorem units_nearest :
    written.nearest.units = Binary64.nearestUnits (written.digits * Binary64.one) written.scale :=
  Binary64.units_ofRatio written.negative _ _ written.scale_pos

end Written

theorem plain_bare_iff (text : String) :
    text.toList ∈ Pattern.bare ∧ Plain text.toList ↔
      ∃ written : Written, written.spelled = text := by
  rw [Pattern.mem_bare_iff, Option.isSome_iff_exists]
  constructor
  · rintro ⟨⟨numeral, found⟩, plain⟩
    obtain ⟨spelled, same⟩ := (numeral_eq_some_iff _ numeral).mp found
    refine ⟨⟨numeral, spelled.some, digits_of_plain text numeral found plain⟩, ?_⟩
    rw [Written.spelled, same, String.ofList_toList]
  · rintro ⟨written, rfl⟩
    refine ⟨⟨_, written.numeral_spelled⟩, ?_⟩
    rw [Written.spelled, String.toList_ofList]
    exact text_plain written.toNumeral written.ascii

def counted (value : Binary64) : Int := (value.add half).truncate

theorem half_units : half.units = Binary64.halfOne := by
  rw [half, Binary64.half_halves, Binary64.units_ofHalves 1 (by decide), Int.one_mul]

theorem counted_units (value : Binary64) :
    counted value =
      (Binary64.nearestUnits (value.units + Binary64.halfOne) 1).tdiv Binary64.one := by
  rw [counted, Binary64.truncate, Binary64.units_add, half_units]

theorem counted_mono (value greater : Binary64) (order : value.units ≤ greater.units) :
    counted value ≤ counted greater := by
  rw [counted_units, counted_units]
  apply Int.tdiv_le_tdiv Binary64.one_positive
  apply Binary64.nearestUnits_mono _ _ _ _ (by decide) (by decide)
  omega

theorem whole_cut (whole : Int) : (whole * Binary64.one).tdiv Binary64.one = whole :=
  Int.mul_tdiv_cancel whole (Int.ne_of_gt Binary64.one_positive)

section Bound
variable (value : Binary64) (whole : Int) (short : (2 * whole).natAbs < 2 ^ 53)
include short

theorem le_counted (reached : whole * Binary64.one ≤ value.units + Binary64.halfOne) :
    whole ≤ counted value := by
  have above := Binary64.le_nearestUnits_whole _ _ (Binary64.kept_whole whole short) reached
  have cut := Int.tdiv_le_tdiv Binary64.one_positive above
  rwa [whole_cut, ← counted_units] at cut

theorem counted_le (within : value.units + Binary64.halfOne ≤ whole * Binary64.one) :
    counted value ≤ whole := by
  have below := Binary64.nearestUnits_whole_le _ _ (Binary64.kept_whole whole short) within
  have cut := Int.tdiv_le_tdiv Binary64.one_positive below
  rwa [whole_cut, ← counted_units] at cut

end Bound

def farSeconds : Int := 17179869184

theorem farSeconds_limit : (maxSeconds : Int) < farSeconds := by decide

/-- An infinite number has the units that would come next after the largest finite one. -/
theorem infinite_far :
    (farSeconds + 1) * Binary64.one ≤ Binary64.unitsOfBits Binary64.infinityBits := by
  decide +kernel

section Far
variable (value : Binary64)

theorem counted_far_above (far : (farSeconds + 1) * Binary64.one ≤ value.units) :
    farSeconds ≤ counted value := by
  apply le_counted value farSeconds (by decide)
  rw [Int.add_mul, Int.one_mul] at far
  omega

theorem counted_far_below (far : value.units ≤ -((farSeconds + 1) * Binary64.one)) :
    counted value ≤ -farSeconds := by
  have halves := Binary64.one_eq_halves
  apply counted_le value (-farSeconds) (by decide)
  rw [Int.add_mul, Int.one_mul] at far
  rw [Int.neg_mul]
  omega

theorem infinite_counted (infinite : ¬ value.isFinite = true) :
    ¬ (counted value).natAbs ≤ maxSeconds := by
  have bits : Binary64.infinityBits ≤ value.magnitudeBits :=
    Nat.le_of_not_lt fun finite => infinite (decide_eq_true finite)
  have far : (farSeconds + 1) * Binary64.one ≤ (value.magnitude : Int) :=
    Int.le_trans infinite_far (Int.ofNat_le.mpr (Binary64.unitsOfBits_mono _ _ bits))
  have limit := farSeconds_limit
  have above := counted_far_above value
  have below := counted_far_below value
  rw [Binary64.units] at above below
  -- Either sign leaves the limit far behind.
  split at above
  · next negative =>
      rw [if_pos negative] at below
      have reached := below (Int.neg_le_neg far)
      omega
  · have reached := above far
    omega

end Far

theorem rounded_counted (value : Binary64) : rounded? value = ofSeconds? (counted value) := by
  rw [rounded?]
  split
  · rw [counted]
  · next infinite => rw [ofSeconds?, dif_neg (infinite_counted value infinite)]

def outcome (text : String) (seconds : Int) : Except DurationError Duration :=
  if few : seconds.natAbs ≤ 9223372036 then .ok ⟨1000000000 * seconds, by omega, by omega⟩
  else .error (.outOfRange text)

theorem read_valued (text : String) (numeral : Numeral) (value : Binary64)
    (valued : numeral.value? = some value) : read text numeral = outcome text (counted value) := by
  rw [read, valued]
  dsimp only
  rw [rounded_counted]
  generalize counted value = seconds
  by_cases few : seconds.natAbs ≤ 9223372036
  · obtain ⟨duration, found, nanos⟩ := ofSeconds_few seconds few
    rw [found, outcome, dif_pos few]
    exact congrArg Except.ok (Duration.ext nanos)
  · have none : ofSeconds? seconds = none := dif_neg few
    rw [none, outcome, dif_neg few]

theorem read_written (written : Written) :
    Duration.read written.spelled = outcome written.spelled (counted written.nearest) := by
  have taken : Form.attempt written.spelled .seconds =
      some (read written.spelled written.toNumeral) := by
    rw [Form.attempt, written.numeral_spelled, Option.map_some]
  rw [read_of_attempt _ .seconds _ taken]
  exact read_valued _ _ _ written.value_nearest

theorem outcome_ok_iff (text : String) (seconds : Int) :
    (∃ duration, outcome text seconds = .ok duration) ↔ seconds.natAbs ≤ 9223372036 := by
  rw [outcome]
  split
  · next few => exact ⟨fun _ => few, fun _ => ⟨_, rfl⟩⟩
  · next many =>
      constructor
      · rintro ⟨_, read⟩
        cases read
      · exact fun few => absurd few many

theorem outcome_nanos (text : String) (seconds : Int) (duration : Duration)
    (read : outcome text seconds = .ok duration) : duration.nanos = 1000000000 * seconds := by
  rw [outcome] at read
  split at read
  · cases read
    rfl
  · cases read

theorem counted_grows (low high : Written) (order : low.exact ≤ high.exact) :
    counted low.nearest ≤ counted high.nearest := by
  apply counted_mono
  rw [low.units_nearest, high.units_nearest]
  apply Binary64.nearestUnits_mono _ _ _ _ low.scale_pos high.scale_pos
  rw [Int.mul_right_comm, Int.mul_right_comm high.digits]
  exact Int.mul_le_mul_of_nonneg_right ((Numeral.exact_le_iff _ _).mp order)
    (Int.natCast_nonneg Binary64.one)

/-- The plain texts of the bare form are the numbers in ASCII digits. A greater number is read as no
shorter a duration, and between two numbers that are read every number is. -/
theorem read_monotone (low high : Written) (order : low.exact ≤ high.exact) :
    (∀ text : String, text.toList ∈ Pattern.bare ∧ Plain text.toList ↔
        ∃ written : Written, written.spelled = text) ∧
      (∀ shorter longer : Duration, Duration.read low.spelled = .ok shorter →
        Duration.read high.spelled = .ok longer → shorter.nanos ≤ longer.nanos) ∧
      ((∃ duration, Duration.read low.spelled = .ok duration) →
        (∃ duration, Duration.read high.spelled = .ok duration) →
        ∀ between : Written, low.exact ≤ between.exact → between.exact ≤ high.exact →
          ∃ duration, Duration.read between.spelled = .ok duration) := by
  refine ⟨plain_bare_iff, ?_, ?_⟩
  · intro shorter longer readLow readHigh
    rw [read_written] at readLow readHigh
    have grows := counted_grows low high order
    rw [outcome_nanos _ _ shorter readLow, outcome_nanos _ _ longer readHigh]
    omega
  · intro readLow readHigh between above below
    rw [read_written, outcome_ok_iff] at readLow readHigh ⊢
    have lower := counted_grows low between above
    have upper := counted_grows between high below
    omega

theorem read_monotone_samples :
    let low : Written := ⟨⟨true, ['1', '0'], ['5']⟩, Or.inl (by decide), List.all_eq_true.mp rfl⟩
    let between : Written := ⟨⟨true, [], ['2']⟩, Or.inr (by decide), List.all_eq_true.mp rfl⟩
    let high : Written := ⟨⟨false, ['3'], ['5']⟩, Or.inl (by decide), List.all_eq_true.mp rfl⟩
    low.exact ≤ high.exact ∧
      ("-.2".toList ∈ Pattern.bare ∧ Plain "-.2".toList) ∧
      (∀ shorter longer : Duration, Duration.read "-10.5" = .ok shorter →
        Duration.read "3.5" = .ok longer → shorter.nanos ≤ longer.nanos) ∧
      ∃ duration, Duration.read between.spelled = .ok duration := by
  intro low between high
  have order : low.exact ≤ high.exact := (Numeral.exact_le_iff _ _).mpr (by decide)
  have readLow : Duration.read "-10.5" = .ok ⟨-10000000000, by decide, by decide⟩ :=
    (toOption_eq_some_iff _ _).mp (by decide +kernel)
  have readHigh : Duration.read "3.5" = .ok ⟨4000000000, by decide, by decide⟩ :=
    (toOption_eq_some_iff _ _).mp (by decide +kernel)
  obtain ⟨spelled, grows, accepts⟩ := read_monotone low high order
  refine ⟨order, (spelled "-.2").mpr ⟨between, by decide⟩, grows, ?_⟩
  apply accepts ⟨_, readLow⟩ ⟨_, readHigh⟩ between
  · exact (Numeral.exact_le_iff _ _).mpr (by decide)
  · exact (Numeral.exact_le_iff _ _).mpr (by decide)

end NodePolicy.Duration.Seconds
