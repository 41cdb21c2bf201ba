import NodePolicy.Proofs.NumberText

/-!
Binary64 numbers read back from their text. Wherever the point stands, the reader gathers the digits
of the shortest decimal, with zeros behind them only in front of a point. What it scales them to is
always a finite number; it is the number that was written when that is nearest to a decimal of at
most fifteen digits.
-/

namespace NodePolicy

open Text Json Json.Reading

namespace Json.Reading

/-- The significand and the power of ten of laid out digits, the first of which stands for the power
of ten `exponent`. -/
def Gathered (digits : List Char) (exponent : Int) (significand : Nat) (power : Int) : Prop :=
  (significand = digitsValue digits ∧ power = exponent + 1 - digits.length) ∨
    (power = -1 ∧ exponent ≤ 15 ∧ ∃ zeros : Nat, zeros + digits.length = exponent + 2 ∧ 0 < zeros ∧
      significand = digitsValue digits * 10 ^ zeros)

section LayOut
variable (negative : Bool) (digits : List Char) (some : digits ≠ [])
  (ascii : ∀ c ∈ digits, c.isDigit = true) (opens : digits.head? ≠ Option.some '0')
  (few : digitsValue digits ≤ 10 ^ 17) (rest : List UInt8) (ends : EndsNumber rest)

theorem value_fits (few : digitsValue digits ≤ 10 ^ 17) :
    digitsValue digits < significandLimit := by
  rw [significandLimit, UInt64.size]
  omega

include some ascii opens ends

theorem run_filled (zeros : Nat) (small : zeros + digits.length ≤ 16) :
    (unsignedNumber negative).run
        (bytes (digits ++ List.replicate zeros '0' ++ ['.', '0']) ++ rest) =
      (floatOfParts negative (digitsValue digits * 10 ^ (zeros + 1)) (-1)).run rest := by
  have digit : ∀ c ∈ digits ++ List.replicate zeros '0', c.isDigit = true := by
    intro c member
    rcases List.mem_append.mp member with earlier | zero
    · exact ascii c earlier
    · rw [(List.mem_replicate.mp zero).2]
      rfl
  have whole : IsWhole (digits ++ List.replicate zeros '0') := by
    refine ⟨by simp [some], digit, fun zero => absurd zero ?_⟩
    cases next : digits.head? with
    | none => exact absurd (List.head?_eq_none_iff.mp next) some
    | some first =>
        rw [List.head?_append, next, Option.some_or, ← next]
        exact opens
  have value : digitsValue (digits ++ List.replicate zeros '0' ++ ['0']) =
      digitsValue digits * 10 ^ (zeros + 1) := by
    rw [← digitsValue_zeros, List.replicate_succ', List.append_assoc]
  have fits : digitsValue (digits ++ List.replicate zeros '0' ++ ['0']) < significandLimit := by
    have bounded := digitsValue_lt (digits ++ List.replicate zeros '0' ++ ['0']) (by
      intro c member
      rcases List.mem_append.mp member with earlier | zero
      · exact digit c earlier
      · rw [List.mem_singleton.mp zero]
        rfl)
    apply Nat.lt_of_lt_of_le bounded
    calc 10 ^ (digits ++ List.replicate zeros '0' ++ ['0']).length ≤ 10 ^ 17 := by
          apply Nat.pow_le_pow_right (by decide)
          simp only [List.length_append, List.length_replicate, List.length_singleton]
          omega
      _ ≤ significandLimit := by decide
  have read := run_point negative _ ['0'] whole (by simp) (by simp) fits rest ends
  rw [value] at read
  exact read

include few

theorem run_split (whole : Nat) (positive : 0 < whole) (longer : whole < digits.length) :
    (unsignedNumber negative).run
        (bytes (digits.take whole ++ ['.'] ++ digits.drop whole) ++ rest) =
      (floatOfParts negative (digitsValue digits) (whole - digits.length)).run rest := by
  have front : IsWhole (digits.take whole) := by
    refine ⟨?_, fun c member => ascii c (List.mem_of_mem_take member), fun zero => ?_⟩
    · rw [Ne, List.take_eq_nil_iff]
      rintro (none | none)
      · omega
      · exact some none
    · rw [List.head?_take, if_neg (by omega)] at zero
      exact absurd zero opens
  have back : digits.drop whole ≠ [] := by
    rw [Ne, List.drop_eq_nil_iff]
    omega
  have read := run_point negative (digits.take whole) (digits.drop whole) front back
    (fun c member => ascii c (List.mem_of_mem_drop member))
    (by rw [List.take_append_drop]; exact value_fits digits few) rest ends
  rw [List.take_append_drop, List.length_drop] at read
  rw [List.append_assoc, List.singleton_append, read]
  congr 2
  omega

omit opens in
theorem run_fraction (zeros : Nat) :
    (unsignedNumber negative).run
        (bytes (['0', '.'] ++ List.replicate zeros '0' ++ digits) ++ rest) =
      (floatOfParts negative (digitsValue digits) (-(zeros + digits.length : Nat))).run rest := by
  have zero : IsWhole ['0'] := ⟨by simp, by simp, fun _ => rfl⟩
  have value : digitsValue (['0'] ++ (List.replicate zeros '0' ++ digits)) =
      digitsValue digits := by
    have none : digitsValue ['0'] = 0 := by decide
    rw [← List.append_assoc, digitsValue_append, digitsValue_zeros, none, Nat.zero_mul]
    rfl
  have read := run_point negative ['0'] (List.replicate zeros '0' ++ digits) zero (by simp [some])
    (by
      intro c member
      rcases List.mem_append.mp member with zero | later
      · rw [(List.mem_replicate.mp zero).2]
        rfl
      · exact ascii c later)
    (by rw [value]; exact value_fits digits few) rest ends
  rw [value, List.length_append, List.length_replicate] at read
  exact read

theorem run_scientific (exponent : Int) (least : -1000 < exponent) (most : exponent < 1000)
    (short : digits.length ≤ 18) :
    (unsignedNumber negative).run (bytes (scientific digits exponent) ++ rest) =
      (floatOfParts negative (digitsValue digits) (exponent + 1 - digits.length)).run rest := by
  obtain ⟨first, more, rfl⟩ := List.exists_cons_of_ne_nil some
  have single : IsWhole [first] :=
    ⟨by simp, fun c member => ascii c (List.mem_of_mem_take (i := 1) member), fun _ => rfl⟩
  have sign : (if exponent < 0 then '-' else '+') = if decide (exponent < 0) then '-' else '+' := by
    simp
  have shift : ∀ start : Int, (if decide (exponent < 0) = true then start - exponent.natAbs
      else start + exponent.natAbs) = start + exponent := by
    intro start
    by_cases down : exponent < 0
    · rw [if_pos (decide_eq_true down)]
      omega
    · rw [if_neg (by simp [down])]
      omega
  rw [scientific, sign]
  by_cases alone : more = []
  · subst alone
    have read := run_whole_exponent negative [first] single (value_fits _ few)
      (decide (exponent < 0)) exponent.natAbs (by omega) rest (noDigit_of_ends rest ends)
    have power : exponent + 1 - ([first].length : Nat) = 0 + exponent := by
      rw [List.length_singleton]
      omega
    rw [shift, clampExponent_small _ (by omega) (by omega)] at read
    rw [power, ← read, if_pos (by simp)]
    rfl
  · have read := run_point_exponent negative [first] more single alone
      (fun c member => ascii c (List.mem_cons_of_mem first member)) (value_fits _ few) rest
      (decide (exponent < 0)) exponent.natAbs (by omega) (noDigit_of_ends rest ends)
    have longer : ¬ (first :: more).length ≤ 1 := by
      have length := List.length_pos_iff.mpr alone
      rw [List.length_cons]
      omega
    rw [List.length_cons] at short
    have power : exponent + 1 - ((first :: more).length : Nat) = -more.length + exponent := by
      rw [List.length_cons]
      omega
    rw [shift, clampExponent_small _ (by omega) (by omega)] at read
    rw [power, if_neg longer]
    simpa using read

end LayOut

theorem run_layOut (digits : List Char) (some : digits ≠ [])
    (ascii : ∀ c ∈ digits, c.isDigit = true) (opens : digits.head? ≠ Option.some '0')
    (few : digitsValue digits ≤ 10 ^ 17) (short : digits.length ≤ 18) (exponent : Int)
    (least : -1000 < exponent) (most : exponent < 1000) :
    ∃ significand power, Gathered digits exponent significand power ∧
      ∀ negative rest, EndsNumber rest →
        (unsignedNumber negative).run (bytes (layOut digits exponent) ++ rest) =
          (floatOfParts negative significand power).run rest := by
  rw [layOut]
  split_ifs with plain places
  · obtain ⟨whole, rfl⟩ := Int.eq_ofNat_of_zero_le plain.1
    rw [Int.toNat_natCast, positional]
    split_ifs with shorter
    · -- Zeros fill up the digits in front of the point, and one stands behind it.
      refine ⟨digitsValue digits * 10 ^ (whole + 1 - digits.length + 1), -1,
        Or.inr ⟨rfl, plain.2, _, by omega, by omega, rfl⟩, fun negative rest ends => ?_⟩
      exact run_filled negative digits some ascii opens rest ends _ (by omega)
    · refine ⟨digitsValue digits, _, Or.inl ⟨rfl, rfl⟩, fun negative rest ends => ?_⟩
      exact run_split negative digits some ascii opens few rest ends (whole + 1) (by omega)
        (by omega)
  · refine ⟨digitsValue digits, _, Or.inl ⟨rfl, rfl⟩, fun negative rest ends => ?_⟩
    rw [run_fraction negative digits some ascii few rest ends]
    congr 2
    omega
  · refine ⟨digitsValue digits, _, Or.inl ⟨rfl, rfl⟩, fun negative rest ends => ?_⟩
    exact run_scientific negative digits some ascii opens few rest ends exponent least most short

section Written
variable (decimal : Binary64.Decimal) (positive : 0 < decimal.digits)
  (few : decimal.digits ≤ 10 ^ 17)

def writtenDigits : List Char := trimZeros (naturalDigits decimal.digits)

def firstPower : Int :=
  decimal.exponent + (naturalDigits decimal.digits).length - 1 - Binary64.decimalPlaces

theorem written_zeros : ∃ zeros,
    decimal.digits = digitsValue (writtenDigits decimal) * 10 ^ zeros ∧
      (naturalDigits decimal.digits).length = (writtenDigits decimal).length + zeros := by
  obtain ⟨zeros, parts⟩ := trimmed_zeros (naturalDigits decimal.digits)
  refine ⟨zeros, ?_, ?_⟩
  · rw [← naturalDigits_value decimal.digits, parts, digitsValue_zeros]
    rfl
  · have length := congrArg List.length parts
    rw [List.length_append, List.length_replicate] at length
    exact length

theorem written_ascii : ∀ c ∈ writtenDigits decimal, c.isDigit = true :=
  trimZeros_ascii _ (naturalDigits_ascii decimal.digits)

include few in
theorem written_few : digitsValue (writtenDigits decimal) ≤ 10 ^ 17 := by
  obtain ⟨zeros, value, _⟩ := written_zeros decimal
  apply Nat.le_trans _ few
  rw [value]
  exact Nat.le_mul_of_pos_right _ (Nat.pow_pos (by decide))

include few in
theorem naturalDigits_short : (naturalDigits decimal.digits).length ≤ 18 :=
  (Nat.length_toDigits_le_iff (by decide) (by decide)).mpr (by omega)

include positive

theorem written_ne_nil : writtenDigits decimal ≠ [] :=
  trimZeros_ne_nil _ (by rw [naturalDigits_value]; omega)

theorem written_opens : (writtenDigits decimal).head? ≠ some '0' := by
  rw [writtenDigits, trimZeros_head _ (written_ne_nil decimal positive)]
  exact naturalDigits_opens decimal.digits positive

include few

/-- What the reader gathers from a decimal spells it. -/
theorem gathered_spelled (significand : Nat) (power : Int)
    (gathered : Gathered (writtenDigits decimal) (firstPower decimal) significand power) :
    decimal.Spelled significand power ∧ significand ≤ 10 ^ 17 ∧
      (significand % 10 ≠ 0 ∨ power = -1) := by
  obtain ⟨zeros, value, length⟩ := written_zeros decimal
  have ascii := written_ascii decimal
  have last := trimZeros_last _ (naturalDigits_ascii decimal.digits)
    (written_ne_nil decimal positive)
  have bounded := digitsValue_lt (writtenDigits decimal) ascii
  have nonempty := List.length_pos_iff.mpr (written_ne_nil decimal positive)
  rw [firstPower, length] at gathered
  have places : 1 ≤ Binary64.decimalPlaces := by decide
  rcases gathered with ⟨rfl, rfl⟩ | ⟨rfl, _, more, count, some, rfl⟩
  · refine ⟨⟨by omega, ?_⟩, ?_, Or.inl last⟩
    · have shift : ((decimal.exponent : Int) + ((writtenDigits decimal).length + zeros : Nat) - 1 -
          Binary64.decimalPlaces + 1 - (writtenDigits decimal).length +
          Binary64.decimalPlaces).toNat = zeros + decimal.exponent := by omega
      rw [shift, Nat.pow_add, ← Nat.mul_assoc, ← value]
    · exact written_few decimal few
  · refine ⟨⟨by omega, ?_⟩, ?_, Or.inr rfl⟩
    · have shift : more + (-1 + (Binary64.decimalPlaces : Int)).toNat =
          zeros + decimal.exponent := by
        omega
      rw [Nat.mul_assoc, ← Nat.pow_add, shift, Nat.pow_add, ← Nat.mul_assoc, ← value]
    · calc digitsValue (writtenDigits decimal) * 10 ^ more
          ≤ 10 ^ (writtenDigits decimal).length * 10 ^ more :=
            Nat.mul_le_mul_right _ (Nat.le_of_lt bounded)
        _ = 10 ^ ((writtenDigits decimal).length + more) := (Nat.pow_add _ _ _).symm
        _ ≤ 10 ^ 17 := Nat.pow_le_pow_right (by decide) (by omega)

end Written

section Shortest
variable (magnitude : Nat) (positive : 0 < magnitude) (finite : magnitude < Binary64.infinityBits)
include positive finite

theorem firstPower_bounds :
    -1000 < firstPower (Binary64.shortest magnitude) ∧
      firstPower (Binary64.shortest magnitude) < 1000 := by
  obtain ⟨some, few⟩ := Binary64.shortest_digits magnitude positive finite
  have spelled := (gathered_spelled _ some few _ _ (Or.inl ⟨rfl, rfl⟩)).1
  have short := naturalDigits_short _ few
  obtain ⟨zeros, _, length⟩ := written_zeros (Binary64.shortest magnitude)
  have nonempty := List.length_pos_iff.mpr (written_ne_nil _ some)
  have places : Binary64.decimalPlaces = 340 := rfl
  have most : firstPower (Binary64.shortest magnitude) + 1 -
      (writtenDigits (Binary64.shortest magnitude)).length ≤ 308 := by
    by_cases up : 0 ≤ firstPower (Binary64.shortest magnitude) + 1 -
        (writtenDigits (Binary64.shortest magnitude)).length
    · obtain ⟨power, same⟩ := Int.eq_ofNat_of_zero_le up
      rw [same] at spelled ⊢
      exact Int.ofNat_le.mpr (spelled_power_le magnitude _ power positive finite spelled)
    · omega
  constructor
  · rw [firstPower]
    omega
  · omega

theorem run_shortest :
    ∃ significand power, (Binary64.shortest magnitude).Spelled significand power ∧
      significand ≤ 10 ^ 17 ∧ (significand % 10 ≠ 0 ∨ power = -1) ∧
      ∀ negative rest, EndsNumber rest →
        (unsignedNumber negative).run (bytes (layOut (writtenDigits (Binary64.shortest magnitude))
            (firstPower (Binary64.shortest magnitude))) ++ rest) =
          (floatOfParts negative significand power).run rest := by
  obtain ⟨some, few⟩ := Binary64.shortest_digits magnitude positive finite
  obtain ⟨least, most⟩ := firstPower_bounds magnitude positive finite
  have short := naturalDigits_short _ few
  obtain ⟨zeros, _, length⟩ := written_zeros (Binary64.shortest magnitude)
  obtain ⟨significand, power, gathered, read⟩ := run_layOut _ (written_ne_nil _ some)
    (written_ascii _) (written_opens _ some) (written_few _ few) (by omega) _ least most
  obtain ⟨spelled, fits, last⟩ := gathered_spelled _ some few significand power gathered
  exact ⟨significand, power, spelled, fits, last, read⟩

end Shortest

end Json.Reading

namespace Binary64

/-- A number nearest to a decimal of at most fifteen digits, of which at most 22 stand behind the
point. -/
def IsShort (x : Binary64) : Prop :=
  ∃ digits places, digits < 1000000000000000 ∧ places ≤ 22 ∧
    x = ofRatio x.isNegative digits (Nat.pow 10 places)

theorem isFinite_signed (negative : Bool) (x : Binary64) (finite : x.isFinite = true) :
    (if negative then x.neg else x).isFinite = true := by
  cases negative with
  | false => exact finite
  | true => exact isFinite_ofMagnitudeBits _ _ (of_decide_eq_true finite)

theorem signed_magnitude (x : Binary64) (finite : x.isFinite = true) :
    (if x.isNegative then (ofMagnitudeBits false x.magnitudeBits).neg
      else ofMagnitudeBits false x.magnitudeBits) = x := by
  have fits := Nat.lt_trans (of_decide_eq_true finite) infinityBits_lt_signBit
  have same := ofMagnitudeBits_self x
  cases sign : x.isNegative with
  | false =>
      rw [sign] at same
      exact same
  | true =>
      rw [sign] at same
      rw [if_pos rfl, neg, ofMagnitudeBits_isNegative false _ fits,
        ofMagnitudeBits_magnitudeBits false _ fits]
      exact same

end Binary64

namespace Json.Reading

theorem run_zero (x : Binary64) (finite : x.isFinite = true) (zero : x.isZero = true)
    (rest : List UInt8) (ends : EndsNumber rest) :
    number.run (bytes (writeFloat x) ++ rest) = .ok (.float x finite, rest) := by
  have scaled : scale? 0 (-1) = some (Binary64.ofMagnitudeBits false x.magnitudeBits) := by
    rw [beq_iff_eq.mp zero]
    decide +kernel
  have single : IsWhole ['0'] := ⟨by simp, by simp, fun _ => rfl⟩
  have same := Binary64.signed_magnitude x finite
  have kept : (if x.isNegative then (Binary64.ofMagnitudeBits false x.magnitudeBits).neg
      else Binary64.ofMagnitudeBits false x.magnitudeBits).isFinite = true := by
    rw [same]
    exact finite
  have made := run_floatOfParts x.isNegative 0 (-1) _ kept rest scaled
  simp only [same] at made
  rw [writeFloat, if_pos zero]
  apply run_number_signed
  rw [← made]
  exact run_point x.isNegative ['0'] ['0'] single (by simp) (by simp) (by decide) rest ends

theorem run_writeFloat (x : Binary64) (finite : x.isFinite = true) :
    ∃ found : Binary64, ∃ kept : found.isFinite = true,
      (∀ rest, EndsNumber rest →
        number.run (bytes (writeFloat x) ++ rest) = .ok (.float found kept, rest)) ∧
      (x.IsShort → found = x) := by
  by_cases zero : x.isZero = true
  · exact ⟨x, finite, run_zero x finite zero, fun _ => rfl⟩
  have positive : 0 < x.magnitudeBits := Nat.pos_of_ne_zero fun none => zero (beq_iff_eq.mpr none)
  have below : x.magnitudeBits < Binary64.infinityBits := of_decide_eq_true finite
  obtain ⟨significand, power, spelled, few, last, read⟩ :=
    run_shortest x.magnitudeBits positive below
  obtain ⟨value, scaled, valueFinite⟩ :=
    scale_spelled x.magnitudeBits significand power positive below spelled few
  have kept := Binary64.isFinite_signed x.isNegative value valueFinite
  refine ⟨_, kept, fun rest ends => ?_, fun short => ?_⟩
  · rw [writeFloat, if_neg zero]
    apply run_number_signed
    rw [← run_floatOfParts x.isNegative significand power value kept rest scaled]
    exact read x.isNegative rest ends
  · obtain ⟨digits, places, short, near, same⟩ := short
    have rounded : Binary64.roundedBits (digits * Binary64.one) (Nat.pow 10 places) =
        x.magnitudeBits := by
      rw [same, Binary64.ofRatio, Binary64.magnitudeBits_of_rounded]
    rw [scale_short x.magnitudeBits digits places significand power short near rounded positive
      below spelled last] at scaled
    cases scaled
    exact Binary64.signed_magnitude x finite

end Json.Reading

namespace Binary64

def reread (x : Binary64) : Binary64 :=
  match number.run (bytes (writeFloat x)) with
  | .ok (.float found _, _) => found
  | _ => x

theorem reread_of_read (x found : Binary64) (kept : found.isFinite = true)
    (read : number.run (bytes (writeFloat x) ++ []) = .ok (.float found kept, [])) :
    x.reread = found := by
  rw [List.append_nil] at read
  rw [reread, read]

theorem run_reread (x : Binary64) (finite : x.isFinite = true) :
    ∃ kept : x.reread.isFinite = true, ∀ rest, EndsNumber rest →
      number.run (bytes (writeFloat x) ++ rest) = .ok (.float x.reread kept, rest) := by
  obtain ⟨found, kept, read, _⟩ := run_writeFloat x finite
  have same := reread_of_read x found kept (read [] endsNumber_nil)
  subst same
  exact ⟨kept, read⟩

theorem reread_finite (x : Binary64) (finite : x.isFinite = true) : x.reread.isFinite = true :=
  (run_reread x finite).1

theorem reread_short (x : Binary64) (finite : x.isFinite = true) (short : x.IsShort) :
    x.reread = x := by
  obtain ⟨found, kept, read, same⟩ := run_writeFloat x finite
  rw [reread_of_read x found kept (read [] endsNumber_nil), same short]

end Binary64

end NodePolicy
