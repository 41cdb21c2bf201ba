import NodePolicy.Json.Numeral
import NodePolicy.Json.Writer
import NodePolicy.Proofs.ByteReader
import NodePolicy.Proofs.Digits
import NodePolicy.Proofs.Scaling

/-!
Numbers read from the text they were written as. The digits of a written number all fit the
significand, so the reader gathers the digits of the shortest decimal and its power of ten.
-/

namespace NodePolicy.Json.Reading

open Text

def NoDigit (rest : List UInt8) : Prop := ∀ byte ∈ rest.head?, isDigit byte = false

def EndsNumber (rest : List UInt8) : Prop :=
  ∀ byte ∈ rest.head?, isDigit byte = false ∧ byte ≠ byteOf '.' ∧ byte ≠ byteOf 'e' ∧
    byte ≠ byteOf 'E'

theorem noDigit_cons (byte : UInt8) (rest : List UInt8) (other : isDigit byte = false) :
    NoDigit (byte :: rest) := by
  rintro _ ⟨⟩
  exact other

theorem endsNumber_nil : EndsNumber [] := by
  intro byte member
  cases member

theorem endsNumber_cons (byte : UInt8) (rest : List UInt8)
    (other : isDigit byte = false ∧ byte ≠ byteOf '.' ∧ byte ≠ byteOf 'e' ∧ byte ≠ byteOf 'E') :
    EndsNumber (byte :: rest) := by
  rintro _ ⟨⟩
  exact other

theorem noDigit_of_ends (rest : List UInt8) (ends : EndsNumber rest) : NoDigit rest :=
  fun byte member => (ends byte member).1

theorem byteOf_toNat (c : Char) (ascii : c.toNat < 128) : (byteOf c).toNat = c.toNat :=
  Nat.mod_eq_of_lt (Nat.lt_trans ascii (by decide))

theorem isDigit_byteOf (c : Char) (digit : c.isDigit = true) : isDigit (byteOf c) = true := by
  obtain ⟨least, most⟩ := digit_range c digit
  have same := byteOf_toNat c (by omega)
  simp only [isDigit, Bool.and_eq_true, decide_eq_true_eq, UInt8.le_iff_toNat_le, same]
  exact ⟨least, most⟩

theorem bytes_digits (digits : List Char) (ascii : ∀ c ∈ digits, c.isDigit = true) :
    bytes digits = digits.map byteOf := by
  induction digits with
  | nil => rfl
  | cons c rest ih =>
      have range := digit_range c (ascii c List.mem_cons_self)
      rw [bytes_cons_ascii c rest (by omega), List.map_cons,
        ih fun other member => ascii other (List.mem_cons_of_mem c member)]

theorem run_takeDigits (digits : List Char) (rest : List UInt8)
    (ascii : ∀ c ∈ digits, c.isDigit = true) (ends : NoDigit rest) :
    takeDigits.run (bytes digits ++ rest) = .ok (digits.map fun c => c.toNat - 48, rest) := by
  have all : ∀ byte ∈ digits.map byteOf, isDigit byte = true := by
    intro byte member
    obtain ⟨c, listed, rfl⟩ := List.mem_map.mp member
    exact isDigit_byteOf c (ascii c listed)
  have stops : rest.takeWhile isDigit = [] ∧ rest.dropWhile isDigit = rest := by
    cases rest with
    | nil => exact ⟨rfl, rfl⟩
    | cons byte more =>
        have other := ends byte rfl
        exact ⟨List.takeWhile_cons_of_neg (by simp [other]),
          List.dropWhile_cons_of_neg (by simp [other])⟩
  have values : (digits.map byteOf).map (fun byte => byte.toNat - 48) =
      digits.map fun c => c.toNat - 48 := by
    rw [List.map_map]
    apply List.map_congr_left
    intro c member
    have range := digit_range c (ascii c member)
    exact congrArg (· - 48) (byteOf_toNat c (by omega))
  rw [bytes_digits digits ascii]
  show Except.ok _ = _
  rw [List.takeWhile_append_of_pos all, List.dropWhile_append_of_pos all, stops.1, stops.2,
    List.append_nil, values]

theorem ofDigitChars_le (digits : List Char) (value : Nat) :
    value ≤ Nat.ofDigitChars 10 digits value := by
  rw [Nat.ofDigitChars_eq_ofDigitChars_zero]
  exact Nat.le_trans (Nat.le_mul_of_pos_left _ (Nat.pow_pos (by decide))) (Nat.le_add_right _ _)

/-- Digits that stay below a limit are all taken. -/
theorem absorb_all (limit value : Nat) (digits : List Char)
    (fits : Nat.ofDigitChars 10 digits value < limit) :
    absorb limit value (digits.map fun c => c.toNat - 48) =
      (Nat.ofDigitChars 10 digits value, digits.length) := by
  induction digits generalizing value with
  | nil => rfl
  | cons c rest ih =>
      have zero : '0'.toNat = 48 := rfl
      rw [Nat.ofDigitChars_cons, zero] at fits ⊢
      have room := Nat.lt_of_le_of_lt (ofDigitChars_le rest _) fits
      rw [List.map_cons, absorb, if_pos room, ih _ fits]
      rfl

/-- A number that opens with a digit: the first byte, and what the reader gathers behind it. -/
theorem run_digits (first : Char) (more : List Char) (rest : List UInt8)
    (ascii : ∀ c ∈ first :: more, c.isDigit = true) (ends : NoDigit rest) :
    bytes (first :: more) ++ rest = byteOf first :: (bytes more ++ rest) ∧
      isDigit (byteOf first) = true ∧ (byteOf first).toNat = first.toNat ∧
      takeDigits.run (bytes more ++ rest) = .ok (more.map fun c => c.toNat - 48, rest) := by
  have digit := ascii first List.mem_cons_self
  obtain ⟨_, most⟩ := digit_range first digit
  refine ⟨?_, isDigit_byteOf first digit, byteOf_toNat first (by omega),
    run_takeDigits more rest (fun c member => ascii c (List.mem_cons_of_mem first member)) ends⟩
  rw [bytes_cons_ascii first more (by omega)]
  rfl

theorem absorb_digits (limit : Nat) (first : Char) (more : List Char)
    (fits : digitsValue (first :: more) < limit) :
    absorb limit (first.toNat - 48) (more.map fun c => c.toNat - 48) =
      (digitsValue (first :: more), more.length) := by
  have value : digitsValue (first :: more) = Nat.ofDigitChars 10 more (first.toNat - 48) := by
    rw [digitsValue, Nat.ofDigitChars_cons, Nat.mul_zero, Nat.zero_add]
    rfl
  rw [value] at fits ⊢
  exact absorb_all limit _ more fits

theorem run_floatOfParts (negative : Bool) (significand : Nat) (exponent : Int) (value : Binary64)
    (finite : (if negative then value.neg else value).isFinite = true) (text : List UInt8)
    (scaled : scale? significand exponent = some value) :
    (floatOfParts negative significand exponent).run text =
      .ok (.float (if negative then value.neg else value) finite, text) := by
  have made : (scale? significand exponent).bind (floatNumber? negative) =
      some (.float (if negative then value.neg else value) finite) := by
    rw [scaled, Option.bind_some, floatNumber?]
    exact dif_pos finite
  rw [floatOfParts, made, expectNumber]
  rfl

theorem clampExponent_small (exponent : Int) (least : -2147483648 ≤ exponent)
    (most : exponent < 2147483648) : clampExponent exponent = exponent := by
  rw [clampExponent, exponentLimit]
  omega

theorem run_exponentPart (negative : Bool) (significand : Nat) (exponent : Int) (down : Bool)
    (power : Nat) (few : power < 1000) (rest : List UInt8) (ends : NoDigit rest) :
    (exponentPart negative significand exponent).run
        (bytes ((if down then '-' else '+') :: naturalDigits power) ++ rest) =
      (floatOfParts negative significand
        (clampExponent (if down then exponent - power else exponent + power))).run rest := by
  have ascii := naturalDigits_ascii power
  have value := naturalDigits_value power
  obtain ⟨first, more, digits⟩ := List.exists_cons_of_ne_nil (naturalDigits_ne_nil power)
  rw [digits] at ascii value ⊢
  obtain ⟨leads, opens, same, taken⟩ := run_digits first more rest ascii ends
  have absorbed := absorb_digits exponentLimit first more
    (by rw [value, exponentLimit]; omega)
  have minus : (some (byteOf '-') == some (byteOf '-')) = true := by decide
  have plus : (some (byteOf '+') == some (byteOf '-')) = false := by decide
  have signed : (some (byteOf '+') == some (byteOf '+')) = true := by decide
  cases down
  · rw [if_neg (by decide), bytes_cons_ascii '+' _ (by decide), List.cons_append, leads]
    simp only [exponentPart, StateT.run_bind, run_peek, ok_bind, List.head?_cons, plus, signed,
      Bool.or_true, if_true, run_skip, run_next, opens, Bool.not_true, Bool.false_eq_true, if_false,
      run_get, taken, same, absorbed, List.length_map, value]
  · rw [if_pos rfl, bytes_cons_ascii '-' _ (by decide), List.cons_append, leads]
    simp only [exponentPart, StateT.run_bind, run_peek, ok_bind, List.head?_cons, minus,
      Bool.true_or, if_true, run_skip, run_next, opens, Bool.not_true, Bool.false_eq_true, if_false,
      run_get, taken, same, absorbed, List.length_map, value]

theorem run_atExponent (text : List UInt8) :
    atExponent.run text =
      .ok (text.head? == some (byteOf 'e') || text.head? == some (byteOf 'E'), text) := rfl

theorem no_exponent (rest : List UInt8) (ends : EndsNumber rest) :
    (rest.head? == some (byteOf 'e') || rest.head? == some (byteOf 'E')) = false := by
  cases next : rest.head? with
  | none => rfl
  | some byte =>
      obtain ⟨_, _, lower, upper⟩ := ends byte next
      simp [lower, upper]

section Fraction
variable (negative : Bool) (significand : Nat) (exponent : Int) (digits : List Char)
  (some : digits ≠ []) (ascii : ∀ c ∈ digits, c.isDigit = true)
  (fits : Nat.ofDigitChars 10 digits significand < significandLimit) (rest : List UInt8)
include some ascii fits

theorem run_fraction_alone (ends : EndsNumber rest) :
    (fractionPart negative significand exponent).run (bytes digits ++ rest) =
      (floatOfParts negative (Nat.ofDigitChars 10 digits significand)
        (exponent - digits.length)).run rest := by
  have taken := run_takeDigits digits rest ascii (noDigit_of_ends rest ends)
  have absorbed := absorb_all significandLimit significand digits fits
  have more : (digits.map fun c => c.toNat - 48) ≠ [] := by simp [some]
  simp only [fractionPart, StateT.run_bind, taken, ok_bind, if_neg more, run_atExponent,
    no_exponent rest ends, Bool.false_eq_true, if_false, absorbed]

theorem run_fraction_exponent :
    (fractionPart negative significand exponent).run (bytes digits ++ byteOf 'e' :: rest) =
      (exponentPart negative (Nat.ofDigitChars 10 digits significand)
        (exponent - digits.length)).run rest := by
  have ends := noDigit_cons (byteOf 'e') rest (by decide)
  have taken := run_takeDigits digits (byteOf 'e' :: rest) ascii ends
  have absorbed := absorb_all significandLimit significand digits fits
  have more : (digits.map fun c => c.toNat - 48) ≠ [] := by simp [some]
  simp only [fractionPart, StateT.run_bind, taken, ok_bind, if_neg more, run_atExponent,
    List.head?_cons, BEq.rfl, Bool.true_or, if_true, run_skip, absorbed]

end Fraction

def behindWhole (negative : Bool) (whole : Nat) : Reader Number := do
  if (← peek) = some (byteOf '.') then
    skip
    fractionPart negative whole 0
  else if ← atExponent then
    skip
    exponentPart negative whole 0
  else expectNumber (integerNumber? negative whole)

/-- The digits of a whole number, without a zero in front of other digits. -/
structure IsWhole (digits : List Char) : Prop where
  some : digits ≠ []
  ascii : ∀ c ∈ digits, c.isDigit = true
  leads : digits.head? = Option.some '0' → digits.length = 1

theorem run_unsignedNumber (negative : Bool) (digits : List Char) (whole : IsWhole digits)
    (fits : digitsValue digits < significandLimit) (rest : List UInt8) (ends : NoDigit rest) :
    (unsignedNumber negative).run (bytes digits ++ rest) =
      (behindWhole negative (digitsValue digits)).run rest := by
  obtain ⟨first, more, rfl⟩ := List.exists_cons_of_ne_nil whole.some
  have ascii := whole.ascii
  obtain ⟨opening, opens, same, taken⟩ := run_digits first more rest ascii ends
  have absorbed := absorb_digits significandLimit first more fits
  have plain : ¬ (byteOf first = byteOf '0' ∧ (bytes more ++ rest).head?.any isDigit = true) := by
    rintro ⟨zero, goesOn⟩
    have code := congrArg UInt8.toNat zero
    rw [same] at code
    have empty : more = [] := by
      have single := whole.leads (congrArg some (Char.toNat_inj.mp code))
      exact List.eq_nil_of_length_eq_zero (Nat.succ.inj single)
    rw [empty] at goesOn
    have digit : rest.head?.any isDigit = true := goesOn
    cases next : rest.head? with
    | none =>
        rw [next] at digit
        cases digit
    | some byte =>
        rw [next, Option.any_some, ends byte next] at digit
        cases digit
  rw [opening]
  simp only [unsignedNumber, behindWhole, StateT.run_bind, run_next, ok_bind, opens, Bool.not_true,
    Bool.false_eq_true, if_false, run_peek, if_neg plain, taken, same, absorbed, List.length_map,
    Int.sub_self, if_true]

theorem run_behind_point (negative : Bool) (whole : Nat) (rest : List UInt8) :
    (behindWhole negative whole).run (byteOf '.' :: rest) =
      (fractionPart negative whole 0).run rest := by
  simp only [behindWhole, StateT.run_bind, run_peek, ok_bind, List.head?_cons, if_true, run_skip]

theorem run_behind_exponent (negative : Bool) (whole : Nat) (rest : List UInt8) :
    (behindWhole negative whole).run (byteOf 'e' :: rest) =
      (exponentPart negative whole 0).run rest := by
  have other : ¬ some (byteOf 'e') = some (byteOf '.') := by decide
  simp only [behindWhole, StateT.run_bind, run_peek, ok_bind, List.head?_cons, if_neg other,
    run_atExponent, BEq.rfl, Bool.true_or, if_true, run_skip]

theorem run_behind_end (negative : Bool) (whole : Nat) (rest : List UInt8)
    (ends : EndsNumber rest) :
    (behindWhole negative whole).run rest =
      (expectNumber (integerNumber? negative whole)).run rest := by
  have point : ¬ rest.head? = some (byteOf '.') := fun next => (ends _ next).2.1 rfl
  simp only [behindWhole, StateT.run_bind, run_peek, ok_bind, if_neg point, run_atExponent,
    no_exponent rest ends, Bool.false_eq_true, if_false]

section Parts
variable (negative : Bool) (digits fraction : List Char) (whole : IsWhole digits)
  (some : fraction ≠ []) (ascii : ∀ c ∈ fraction, c.isDigit = true)
  (fits : digitsValue (digits ++ fraction) < significandLimit) (rest : List UInt8)

theorem digits_fit (fits : digitsValue (digits ++ fraction) < significandLimit) :
    digitsValue digits < significandLimit := by
  rw [digitsValue_append] at fits
  exact Nat.lt_of_le_of_lt (ofDigitChars_le fraction _) fits

include whole some ascii fits

theorem run_point (ends : EndsNumber rest) :
    (unsignedNumber negative).run (bytes (digits ++ '.' :: fraction) ++ rest) =
      (floatOfParts negative (digitsValue (digits ++ fraction)) (-fraction.length)).run rest := by
  have point := noDigit_cons (byteOf '.') (bytes fraction ++ rest) (by decide)
  rw [bytes_append, List.append_assoc, bytes_cons_ascii '.' _ (by decide), List.cons_append,
    run_unsignedNumber negative digits whole (digits_fit digits fraction fits) _ point,
    run_behind_point]
  rw [digitsValue_append] at fits ⊢
  rw [run_fraction_alone negative _ 0 fraction some ascii fits rest ends, Int.zero_sub]

theorem run_point_exponent (down : Bool) (power : Nat) (few : power < 1000) (ends : NoDigit rest) :
    (unsignedNumber negative).run
        (bytes (digits ++ '.' :: (fraction ++ 'e' :: (if down then '-' else '+') ::
          naturalDigits power)) ++ rest) =
      (floatOfParts negative (digitsValue (digits ++ fraction)) (clampExponent
        (if down then -fraction.length - power else -fraction.length + power))).run rest := by
  have point := noDigit_cons (byteOf '.') (bytes fraction ++ byteOf 'e' ::
    (bytes ((if down then '-' else '+') :: naturalDigits power) ++ rest)) (by decide)
  rw [bytes_append, List.append_assoc, bytes_cons_ascii '.' _ (by decide), List.cons_append,
    bytes_append, bytes_cons_ascii 'e' _ (by decide), List.append_assoc, List.cons_append,
    run_unsignedNumber negative digits whole (digits_fit digits fraction fits) _ point,
    run_behind_point]
  rw [digitsValue_append] at fits ⊢
  rw [run_fraction_exponent negative _ 0 fraction some ascii fits, Int.zero_sub,
    run_exponentPart negative _ _ down power few rest ends]

end Parts

theorem run_whole_exponent (negative : Bool) (digits : List Char) (whole : IsWhole digits)
    (fits : digitsValue digits < significandLimit) (down : Bool) (power : Nat)
    (few : power < 1000) (rest : List UInt8) (ends : NoDigit rest) :
    (unsignedNumber negative).run
        (bytes (digits ++ 'e' :: (if down then '-' else '+') :: naturalDigits power) ++ rest) =
      (floatOfParts negative (digitsValue digits) (clampExponent
        (if down then 0 - (power : Int) else 0 + (power : Int)))).run rest := by
  have letter := noDigit_cons (byteOf 'e')
    (bytes ((if down then '-' else '+') :: naturalDigits power) ++ rest) (by decide)
  rw [bytes_append, bytes_cons_ascii 'e' _ (by decide), List.append_assoc, List.cons_append,
    run_unsignedNumber negative digits whole fits _ letter, run_behind_exponent,
    run_exponentPart negative _ _ down power few rest ends]

theorem naturalDigits_whole (value : Nat) : IsWhole (naturalDigits value) :=
  ⟨naturalDigits_ne_nil value, naturalDigits_ascii value, naturalDigits_leads value⟩

theorem run_number_unsigned (text rest : List UInt8) (found : Number)
    (ran : (unsignedNumber false).run text = .ok (found, rest)) :
    number.run text = .ok (found, rest) := by
  cases text with
  | nil => cases ran
  | cons byte more =>
      have other : ¬ some byte = some (byteOf '-') := by
        rintro ⟨⟩
        cases ran
      rw [← ran]
      simp only [number, StateT.run_bind, run_peek, ok_bind, List.head?_cons, if_neg other]

/-- A sign in front of what is read without one. -/
theorem run_number_signed (negative : Bool) (text : List Char) (rest : List UInt8) (found : Number)
    (ran : (unsignedNumber negative).run (bytes text ++ rest) = .ok (found, rest)) :
    number.run (bytes ((if negative then ['-'] else []) ++ text) ++ rest) = .ok (found, rest) := by
  cases negative with
  | false => exact run_number_unsigned (bytes text ++ rest) rest found ran
  | true =>
      rw [if_pos rfl, List.singleton_append, bytes_cons_ascii '-' _ (by decide), List.cons_append,
        ← ran]
      simp only [number, StateT.run_bind, run_peek, ok_bind, List.head?_cons, if_true, run_skip]

theorem run_whole (negative : Bool) (value : Nat) (few : value < significandLimit)
    (rest : List UInt8) (ends : EndsNumber rest) :
    (unsignedNumber negative).run (bytes (naturalDigits value) ++ rest) =
      (expectNumber (integerNumber? negative value)).run rest := by
  rw [run_unsignedNumber negative _ (naturalDigits_whole value)
    (by rw [naturalDigits_value]; exact few) rest (noDigit_of_ends rest ends), naturalDigits_value,
    run_behind_end negative value rest ends]

theorem run_natural (value : UInt64) (rest : List UInt8) (ends : EndsNumber rest) :
    number.run (bytes (writeNumber (.natural value)) ++ rest) = .ok (.natural value, rest) := by
  apply run_number_signed false (naturalDigits value.toNat)
  rw [run_whole false value.toNat value.toNat_lt rest ends, integerNumber?, if_neg (by decide),
    UInt64.ofNat_toNat]
  rfl

theorem run_negative (value : Int64) (below : value < 0) (rest : List UInt8)
    (ends : EndsNumber rest) :
    number.run (bytes (writeNumber (.negative value below)) ++ rest) =
      .ok (.negative value below, rest) := by
  have least := value.le_toInt
  have sign : value.toInt < 0 := Int64.lt_iff_toInt_lt.mp below
  have word : Int64.ofInt (-(value.toInt.natAbs : Int)) = value := by
    rw [Int.ofNat_natAbs_of_nonpos (by omega), Int.neg_neg, Int64.ofInt_toInt]
  have few : value.toInt.natAbs < significandLimit := by
    rw [significandLimit, UInt64.size]
    omega
  have both : value.toInt.natAbs ≤ 9223372036854775808 ∧ value < 0 := ⟨by omega, below⟩
  apply run_number_signed true (naturalDigits value.toInt.natAbs)
  rw [run_whole true _ few rest ends, integerNumber?, if_pos rfl]
  simp only [word, dif_pos both]
  rfl

end NodePolicy.Json.Reading
