import Mathlib.Algebra.Group.Nat.Defs
import NodePolicy.Text.DecimalDigit
import NodePolicy.Text.Natural

/-!
Runs of decimal digits: how far a run reaches in a text, what a fixed number of digits spells, when a
number is written in the digits it was read from, and that the zeros trimmed from the end of a run
come back when it is filled up again. A run is read up to the first character that is no digit of any
script, so a letter behind it always ends it.
-/

namespace NodePolicy.Text

theorem run_before_stop (digits : List Char) (stop : Char) (rest : List Char)
    (decimal : ∀ c ∈ digits, isDecimalDigit c = true) (ends : isDecimalDigit stop = false) :
    (digits ++ stop :: rest).takeWhile isDecimalDigit = digits := by
  rw [List.takeWhile_append_of_pos decimal, List.takeWhile_cons_of_neg (by simp [ends]),
    List.append_nil]

theorem text_after_run (digits : List Char) (stop : Char) (rest : List Char)
    (decimal : ∀ c ∈ digits, isDecimalDigit c = true) (ends : isDecimalDigit stop = false) :
    (digits ++ stop :: rest).dropWhile isDecimalDigit = stop :: rest := by
  rw [List.dropWhile_append_of_pos decimal, List.dropWhile_cons_of_neg (by simp [ends])]

/-- The ranges of the decimal digits leave out the capital letters of ASCII. -/
theorem ranges_no_capital : ∀ range ∈ decimalDigitRanges, range.2 < 65 ∨ 90 < range.1 := by decide

theorem digit_no_capital (c : Char) (digit : isDecimalDigit c = true) :
    ¬ (65 ≤ c.toNat ∧ c.toNat ≤ 90) := by
  obtain ⟨range, listed, least, most⟩ := (inClass_iff _ c).mp digit
  have apart := ranges_no_capital range listed
  omega

theorem naturalDigits_ascii (value : Nat) : ∀ c ∈ naturalDigits value, c.isDigit = true := by
  intro c member
  exact Nat.isDigit_of_mem_toDigits (by decide) (by decide) member

theorem naturalDigits_ne_nil (value : Nat) : naturalDigits value ≠ [] := Nat.toDigits_ne_nil

theorem naturalDigits_value (value : Nat) : digitsValue (naturalDigits value) = value :=
  Nat.ofDigitChars_ten_toDigits

theorem naturalDigits_length_le_iff (width value : Nat) (positive : 0 < width) :
    (naturalDigits value).length ≤ width ↔ value < 10 ^ width :=
  Nat.length_toDigits_le_iff (by decide) positive

theorem fixedDigits_ascii (width value : Nat) :
    ∀ c ∈ fixedDigits width value, c.isDigit = true := by
  induction width generalizing value with
  | zero => simp [fixedDigits]
  | succ width ih =>
      intro c member
      rw [fixedDigits, List.mem_append, List.mem_singleton] at member
      rcases member with earlier | last
      · exact ih (value / 10) c earlier
      · rw [last, Nat.isDigit_digitChar, decide_eq_true_eq]
        exact Nat.mod_lt value (by decide)

theorem fixedDigits_ne_nil (width value : Nat) (positive : 0 < width) :
    fixedDigits width value ≠ [] := by
  intro empty
  have length := fixedDigits_length width value
  rw [empty, List.length_nil] at length
  omega

theorem fixedDigits_value (width value : Nat) :
    digitsValue (fixedDigits width value) = value % Nat.pow 10 width := by
  induction width generalizing value with
  | zero => simp [fixedDigits, digitsValue, Nat.mod_one]
  | succ width ih =>
      have digit : value % 10 < 10 := Nat.mod_lt value (by decide)
      have shorter := ih (value / 10)
      have power : Nat.pow 10 (width + 1) = 10 * Nat.pow 10 width := Nat.mul_comm _ _
      rw [digitsValue] at shorter ⊢
      rw [fixedDigits, Nat.ofDigitChars_append, shorter,
        Nat.ofDigitChars_cons_digitChar_of_lt_ten digit, Nat.ofDigitChars_nil, power,
        Nat.mod_mul]
      exact Nat.add_comm _ _

theorem digitsValue_append (first second : List Char) :
    digitsValue (first ++ second) = Nat.ofDigitChars 10 second (digitsValue first) :=
  Nat.ofDigitChars_append 0

theorem digitsValue_zeros (digits : List Char) (count : Nat) :
    digitsValue (digits ++ List.replicate count '0') = digitsValue digits * 10 ^ count := by
  rw [digitsValue_append, Nat.ofDigitChars_replicate_zero, Nat.mul_comm]

theorem digit_range (c : Char) (digit : c.isDigit = true) : 48 ≤ c.toNat ∧ c.toNat ≤ 57 := by
  simp only [Char.isDigit, Bool.and_eq_true, decide_eq_true_eq] at digit
  exact digit

theorem digitsValue_cons (first : Char) (rest : List Char) :
    digitsValue (first :: rest) =
      10 ^ rest.length * (first.toNat - 48) + digitsValue rest := by
  rw [digitsValue, Nat.ofDigitChars_cons, Nat.mul_zero, Nat.zero_add,
    Nat.ofDigitChars_eq_ofDigitChars_zero]
  rfl

theorem digitsValue_lt (digits : List Char) (ascii : ∀ c ∈ digits, c.isDigit = true) :
    digitsValue digits < 10 ^ digits.length := by
  induction digits with
  | nil => decide
  | cons first rest ih =>
      have shorter := ih fun c member => ascii c (List.mem_cons_of_mem first member)
      have code := digit_range first (ascii first List.mem_cons_self)
      have most : first.toNat - 48 ≤ 9 := by omega
      have product := Nat.mul_le_mul_left (10 ^ rest.length) most
      rw [digitsValue_cons, List.length_cons, Nat.pow_succ]
      omega

/-- Digits without a zero in front denote a number that needs all of them. -/
theorem digitsValue_ge (first : Char) (rest : List Char) (digit : first.isDigit = true)
    (leads : first ≠ '0') : 10 ^ rest.length ≤ digitsValue (first :: rest) := by
  have code := digit_range first digit
  have other : first.toNat ≠ 48 := fun same => leads (Char.toNat_inj.mp same)
  have least : 1 ≤ first.toNat - 48 := by omega
  have product := Nat.mul_le_mul_left (10 ^ rest.length) least
  rw [digitsValue_cons]
  omega

/-- Digits are known by their number and their value. -/
theorem digits_unique (first second : List Char) (ascii : ∀ c ∈ first, c.isDigit = true)
    (other : ∀ c ∈ second, c.isDigit = true) (length : first.length = second.length)
    (value : digitsValue first = digitsValue second) : first = second := by
  induction first generalizing second with
  | nil => exact (List.length_eq_zero_iff.mp length.symm).symm
  | cons digit rest ih =>
      obtain ⟨digit', rest', rfl⟩ := List.exists_cons_of_length_eq_add_one length.symm
      rw [List.length_cons, List.length_cons, Nat.add_right_cancel_iff] at length
      rw [digitsValue_cons, digitsValue_cons, length] at value
      rw [List.forall_mem_cons] at ascii other
      have below := digitsValue_lt rest ascii.2
      have below' := digitsValue_lt rest' other.2
      have code := digit_range digit ascii.1
      have code' := digit_range digit' other.1
      have same : digit.toNat - 48 = digit'.toNat - 48 := by
        have positive : 0 < 10 ^ rest'.length := Nat.pow_pos (by decide)
        have quotients := congrArg (· / 10 ^ rest'.length) value
        rw [length] at below
        simpa only [Nat.mul_add_div positive, Nat.div_eq_of_lt below,
          Nat.div_eq_of_lt below', Nat.add_zero] using quotients
      rw [same] at value
      rw [Char.toNat_inj.mp (show digit.toNat = digit'.toNat by omega),
        ih rest' ascii.2 other.2 length (Nat.add_left_cancel value)]

/-- A number is written in the digits that spelled it when it gets as many of them. -/
theorem fixedDigits_of_value (digits : List Char) (ascii : ∀ c ∈ digits, c.isDigit = true) :
    fixedDigits digits.length (digitsValue digits) = digits := by
  apply digits_unique _ _ (fixedDigits_ascii _ _) ascii (fixedDigits_length _ _)
  rw [fixedDigits_value]
  exact Nat.mod_eq_of_lt (digitsValue_lt digits ascii)

/-- A number is written in the digits that spelled it when they need no zero in front. -/
theorem naturalDigits_of_value (first : Char) (rest : List Char)
    (ascii : ∀ c ∈ first :: rest, c.isDigit = true) (leads : first ≠ '0') :
    naturalDigits (digitsValue (first :: rest)) = first :: rest := by
  have least := digitsValue_ge first rest (ascii first List.mem_cons_self) leads
  have most := digitsValue_lt (first :: rest) ascii
  have fewest := fun width => naturalDigits_length_le_iff width (digitsValue (first :: rest))
  apply digits_unique _ _ (naturalDigits_ascii _) ascii _ (naturalDigits_value _)
  have enough := (fewest (rest.length + 1) (Nat.succ_pos _)).mpr most
  have some := List.length_pos_iff.mpr (naturalDigits_ne_nil (digitsValue (first :: rest)))
  rw [List.length_cons]
  rcases Nat.eq_zero_or_pos rest.length with empty | longer
  · omega
  · have needed := mt (fewest rest.length longer).mp (Nat.not_lt.mpr least)
    omega

/-- A written number has no zero in front of other digits. -/
theorem naturalDigits_leads (value : Nat) (zero : (naturalDigits value).head? = some '0') :
    (naturalDigits value).length = 1 := by
  have ascii := naturalDigits_ascii value
  have denoted := naturalDigits_value value
  have fewest := fun width => naturalDigits_length_le_iff width value
  generalize naturalDigits value = digits at zero ascii denoted fewest ⊢
  cases digits with
  | nil => cases zero
  | cons first more =>
      cases zero
      have small := digitsValue_lt more fun c member => ascii c (List.mem_cons_of_mem _ member)
      have same : digitsValue ('0' :: more) = digitsValue more := Nat.ofDigitChars_cons
      rw [← same, denoted] at small
      rcases Nat.eq_zero_or_pos more.length with empty | longer
      · rw [List.length_cons, empty]
      · have shorter := (fewest more.length longer).mpr small
        rw [List.length_cons] at shorter
        omega

theorem naturalDigits_opens (value : Nat) (positive : 0 < value) :
    (naturalDigits value).head? ≠ some '0' := by
  intro zero
  have single := naturalDigits_leads value zero
  have denoted := naturalDigits_value value
  generalize naturalDigits value = digits at zero single denoted
  obtain ⟨first, rfl⟩ := List.length_eq_one_iff.mp single
  cases zero
  have none : digitsValue ['0'] = 0 := by decide
  omega

theorem paddedDigits_ascii (width value : Nat) :
    ∀ c ∈ paddedDigits width value, c.isDigit = true := by
  intro c member
  rw [paddedDigits, List.mem_append] at member
  rcases member with zero | digit
  · rw [List.eq_of_mem_replicate zero]
    rfl
  · exact naturalDigits_ascii value c digit

theorem paddedDigits_value (width value : Nat) :
    digitsValue (paddedDigits width value) = value := by
  have zeros (count : Nat) : digitsValue (List.replicate count '0') = 0 := by
    rw [digitsValue, Nat.ofDigitChars_replicate_zero, Nat.mul_zero]
  rw [paddedDigits, digitsValue_append, zeros]
  exact naturalDigits_value value

theorem paddedDigits_ne_nil (width value : Nat) : paddedDigits width value ≠ [] :=
  fun empty => naturalDigits_ne_nil value (List.append_eq_nil_iff.mp empty).2

/-- Padded digits have the width asked for, or the number needs them all. -/
theorem paddedDigits_fill (width value : Nat) (positive : 0 < width) :
    value < 10 ^ width ∧ (paddedDigits width value).length = width ∨
      10 ^ width ≤ value ∧ width < (paddedDigits width value).length ∧
        (paddedDigits width value).head? ≠ some '0' := by
  have length : (paddedDigits width value).length =
      width - (naturalDigits value).length + (naturalDigits value).length := by
    rw [paddedDigits, List.length_append, List.length_replicate]
  rcases Nat.lt_or_ge value (10 ^ width) with small | large
  · have short := (naturalDigits_length_le_iff width value positive).mpr small
    exact .inl ⟨small, by omega⟩
  · have long := mt (naturalDigits_length_le_iff width value positive).mp (Nat.not_lt.mpr large)
    have natural : paddedDigits width value = naturalDigits value := by
      rw [paddedDigits, Nat.sub_eq_zero_of_le (Nat.le_of_not_le long)]
      rfl
    refine .inr ⟨large, by omega, ?_⟩
    rw [natural]
    exact naturalDigits_opens value (Nat.lt_of_lt_of_le (Nat.pow_pos (by decide)) large)

theorem fixedDigits_eq_padded (width value : Nat) (positive : 0 < width)
    (small : value < 10 ^ width) : fixedDigits width value = paddedDigits width value := by
  obtain ⟨-, filled⟩ | ⟨large, -⟩ := paddedDigits_fill width value positive
  · apply digits_unique _ _ (fixedDigits_ascii _ _) (paddedDigits_ascii _ _)
    · exact (fixedDigits_length width value).trans filled.symm
    · rw [fixedDigits_value, paddedDigits_value]
      exact Nat.mod_eq_of_lt small
  · omega

/-- A number is padded to the digits that spelled it when they have the width asked for, or when
there are more of them and none could be left out. -/
theorem paddedDigits_of_value (width : Nat) (run : List Char) (positive : 0 < width)
    (ascii : ∀ c ∈ run, c.isDigit = true)
    (enough : run.length = width ∨ width < run.length ∧ run.head? ≠ some '0') :
    paddedDigits width (digitsValue run) = run := by
  rcases enough with rfl | ⟨more, leads⟩
  · have small := digitsValue_lt run ascii
    obtain ⟨-, filled⟩ | ⟨large, -⟩ := paddedDigits_fill run.length (digitsValue run) positive
    · exact digits_unique _ _ (paddedDigits_ascii _ _) ascii filled (paddedDigits_value _ _)
    · omega
  · cases run with
    | nil => exact absurd more (Nat.not_lt_zero width)
    | cons first rest =>
        have natural := naturalDigits_of_value first rest ascii
          fun zero => leads (congrArg some zero)
        rw [paddedDigits, natural, Nat.sub_eq_zero_of_le (Nat.le_of_lt more)]
        rfl

theorem trimmed_zeros (digits : List Char) :
    ∃ count, digits = trimZeros digits ++ List.replicate count '0' := by
  refine ⟨(digits.reverse.takeWhile (· == '0')).length, ?_⟩
  -- The trimmed digits are the front of the reversed run, and all of them are zeros.
  have zeros : digits.reverse.takeWhile (· == '0') =
      List.replicate (digits.reverse.takeWhile (· == '0')).length '0' := by
    apply List.eq_replicate_iff.mpr
    refine ⟨rfl, ?_⟩
    intro c member
    exact beq_iff_eq.mp (List.all_eq_true.mp List.all_takeWhile c member)
  have parts := List.takeWhile_append_dropWhile (p := (· == '0')) (l := digits.reverse)
  rw [zeros] at parts
  have turned := congrArg List.reverse parts
  rw [List.reverse_append, List.reverse_reverse, List.reverse_replicate] at turned
  exact turned.symm

theorem trimZeros_filled (digits : List Char) :
    trimZeros digits ++ List.replicate (digits.length - (trimZeros digits).length) '0' =
      digits := by
  obtain ⟨count, parts⟩ := trimmed_zeros digits
  have length := congrArg List.length parts
  rw [List.length_append, List.length_replicate] at length
  have missing : digits.length - (trimZeros digits).length = count := by omega
  rw [missing]
  exact parts.symm

theorem trimZeros_length (digits : List Char) : (trimZeros digits).length ≤ digits.length := by
  have length := congrArg List.length (trimZeros_filled digits)
  rw [List.length_append, List.length_replicate] at length
  omega

theorem trimZeros_ascii (digits : List Char) (ascii : ∀ c ∈ digits, c.isDigit = true) :
    ∀ c ∈ trimZeros digits, c.isDigit = true := by
  intro c member
  apply ascii c
  rw [← trimZeros_filled digits]
  exact List.mem_append_left _ member

theorem trimZeros_ne_nil (digits : List Char) (positive : digitsValue digits ≠ 0) :
    trimZeros digits ≠ [] := by
  -- Only a run of zeros loses everything.
  intro empty
  have filled := trimZeros_filled digits
  rw [empty, List.nil_append] at filled
  apply positive
  rw [← filled, digitsValue, Nat.ofDigitChars_replicate_zero, Nat.mul_zero]

theorem trimZeros_head (digits : List Char) (some : trimZeros digits ≠ []) :
    (trimZeros digits).head? = digits.head? := by
  obtain ⟨count, parts⟩ := trimmed_zeros digits
  obtain ⟨first, rest, opening⟩ := List.exists_cons_of_ne_nil some
  rw [opening] at parts ⊢
  rw [parts]
  rfl

theorem trimZeros_getLast (digits : List Char) : (trimZeros digits).getLast? ≠ some '0' := by
  intro zero
  have stops := List.head?_dropWhile_not (· == '0') digits.reverse
  rw [trimZeros, List.getLast?_reverse] at zero
  rw [zero] at stops
  cases stops

/-- Trimmed digits do not denote a multiple of ten. -/
theorem trimZeros_last (digits : List Char) (ascii : ∀ c ∈ digits, c.isDigit = true)
    (some : trimZeros digits ≠ []) : digitsValue (trimZeros digits) % 10 ≠ 0 := by
  have digit := trimZeros_ascii digits ascii
  rw [trimZeros] at some digit ⊢
  cases trimmed : digits.reverse.dropWhile (· == '0') with
  | nil => exact absurd (congrArg List.reverse trimmed) some
  | cons last rest =>
      have nonzero : (last == '0') = false := by
        have stops := List.head?_dropWhile_not (· == '0') digits.reverse
        rw [trimmed] at stops
        exact stops
      rw [trimmed] at digit
      rw [List.reverse_cons] at digit ⊢
      have range := digit_range last (digit last (by simp))
      have other : last.toNat ≠ 48 := by
        intro same
        have char : last = '0' := Char.toNat_inj.mp same
        rw [char] at nonzero
        cases nonzero
      have zero : '0'.toNat = 48 := rfl
      rw [digitsValue_append, Nat.ofDigitChars_cons, Nat.ofDigitChars_nil, zero]
      omega

end NodePolicy.Text
