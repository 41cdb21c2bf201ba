import NodePolicy.Proofs.Digits
import NodePolicy.Proofs.Outcome
import NodePolicy.Time.Timestamp

/-!
The texts that timestamps are read from. Every number may have white space in front of it and may be
short of digits. A spelling holds what a text is made of; the reader takes a text apart in only one
way, because the character behind a number is no digit, and so it finds the numbers that a spelling
has exactly when they are in their bounds.
-/

namespace NodePolicy.Time.Timestamp

@[ext]
structure SpelledNumber where
  blanks : List Char
  digits : List Char
  blank : ∀ c ∈ blanks, Text.isBlank c = true
  ascii : ∀ c ∈ digits, c.isDigit = true
  nonempty : digits ≠ []
  short : digits.length ≤ 2

namespace SpelledNumber

def text (number : SpelledNumber) : List Char := number.blanks ++ number.digits

def value (number : SpelledNumber) : Nat := Text.digitsValue number.digits

end SpelledNumber

inductive YearSign where
  | absent | plus | minus
  deriving DecidableEq

namespace YearSign

def text : YearSign → List Char
  | absent => []
  | plus => ['+']
  | minus => ['-']

def apply (sign : YearSign) (magnitude : Nat) : Int :=
  match sign with
  | absent | plus => magnitude
  | minus => -magnitude

end YearSign

/-- Up to four digits, or any number of them behind a sign, with white space in front. -/
@[ext]
structure SpelledYear where
  blanks : List Char
  sign : YearSign
  digits : List Char
  blank : ∀ c ∈ blanks, Text.isBlank c = true
  ascii : ∀ c ∈ digits, c.isDigit = true
  nonempty : digits ≠ []
  short : sign = .absent → digits.length ≤ 4

namespace SpelledYear

def text (year : SpelledYear) : List Char := year.blanks ++ (year.sign.text ++ year.digits)

def value (year : SpelledYear) : Int := year.sign.apply (Text.digitsValue year.digits)

end SpelledYear

@[ext]
structure Spelling where
  year : SpelledYear
  month : SpelledNumber
  day : SpelledNumber
  hour : SpelledNumber
  minute : SpelledNumber
  second : SpelledNumber

namespace Spelling

def text (spelling : Spelling) : List Char :=
  spelling.year.text ++ '-' :: (spelling.month.text ++ '-' :: (spelling.day.text ++ 'T' ::
    (spelling.hour.text ++ ':' :: (spelling.minute.text ++ ':' ::
      (spelling.second.text ++ ['Z'])))))

def numbers (spelling : Spelling) : Fields :=
  ⟨spelling.year.value, spelling.month.value, spelling.day.value, spelling.hour.value,
    spelling.minute.value, spelling.second.value⟩

end Spelling

structure Fields.InBounds (numbers : Fields) : Prop where
  year : -2147483648 ≤ numbers.year ∧ numbers.year < 2147483648
  month : 1 ≤ numbers.month ∧ numbers.month ≤ 12
  day : 1 ≤ numbers.day ∧ numbers.day ≤ 31
  hour : numbers.hour ≤ 23
  minute : numbers.minute ≤ 59
  second : numbers.second ≤ 60

theorem bind_read {α β : Type} {reader : Reader α} {next : α → Reader β} {text left : List Char}
    {value : α} (first : reader text = .ok (value, left)) :
    (reader >>= next) text = next value left := by
  have chained : (reader >>= next) text =
      (reader text >>= fun (value, left) => next value left) := rfl
  rw [chained, first]
  rfl

theorem bind_taken_iff {α β : Type} (reader : Reader α) (next : α → Reader β)
    (text left : List Char) (result : β) :
    (reader >>= next) text = .ok (result, left) ↔
      ∃ value rest, reader text = .ok (value, rest) ∧ next value rest = .ok (result, left) := by
  have chained : (reader >>= next) text =
      (reader text >>= fun (value, left) => next value left) := rfl
  rw [chained, bind_ok_iff, Prod.exists]

theorem literal_taken_iff (expected : Char) (text left : List Char) :
    literal expected text = .ok ((), left) ↔ text = expected :: left := by
  cases text with
  | nil => simp [literal]
  | cons c rest => by_cases same : c = expected <;> simp [literal, same]

theorem pure_taken_iff {α : Type} (value result : α) (text left : List Char) :
    (pure value : Reader α) text = .ok (result, left) ↔ value = result ∧ text = left := by
  have done : (pure value : Reader α) text = .ok (value, text) := rfl
  rw [done, Except.ok.injEq, Prod.mk.injEq]

theorem within_taken_iff {α : Type} (valid : Prop) [Decidable valid] (value result : α)
    (fault : TimestampFault) (text left : List Char) :
    (if valid then pure value else throw fault : Reader α) text = .ok (result, left) ↔
      valid ∧ value = result ∧ text = left := by
  by_cases passed : valid
  · rw [if_pos passed, pure_taken_iff]
    exact (and_iff_right passed).symm
  · rw [if_neg passed]
    constructor
    · intro ok
      cases ok
    · exact fun ⟨valid, _⟩ => absurd valid passed

/-- A reader that takes parts, and nothing else, off the front of a text, and checks their values.
Behind a part there must be a character that does not lengthen it. -/
structure TakesParts {Part α : Type} (reader : Reader α) (text : Part → List Char)
    (value : Part → α) (valid : α → Prop) : Prop where
  spelled : ∀ taken whole left, reader whole = .ok (taken, left) → ∃ part, text part ++ left = whole
  taken : ∀ part stop rest, stop.isDigit = false → ∀ taken left,
    reader (text part ++ stop :: rest) = .ok (taken, left) ↔
      valid (value part) ∧ value part = taken ∧ stop :: rest = left

section Parts
variable {Part α β : Type} {reader : Reader α} {text : Part → List Char} {value : Part → α}
  {valid : α → Prop} (takes : TakesParts reader text value valid) (stop : Char)
include takes

theorem TakesParts.spelled_stop (next : α → Reader β) (whole left : List Char) (result : β)
    (ok : (reader >>= fun value => literal stop >>= fun _ => next value) whole =
      .ok (result, left)) :
    ∃ part taken rest, text part ++ stop :: rest = whole ∧ next taken rest = .ok (result, left) := by
  obtain ⟨taken, behind, first, more⟩ := (bind_taken_iff _ _ _ _ _).mp ok
  obtain ⟨_, rest, stopped, after⟩ := (bind_taken_iff _ _ _ _ _).mp more
  obtain ⟨part, rfl⟩ := takes.spelled taken whole behind first
  obtain rfl := (literal_taken_iff stop behind rest).mp stopped
  exact ⟨part, taken, rest, rfl, after⟩

theorem TakesParts.taken_stop (ends : stop.isDigit = false) (part : Part) (next : α → Reader β)
    (rest left : List Char) (result : β) :
    (reader >>= fun value => literal stop >>= fun _ => next value) (text part ++ stop :: rest) =
        .ok (result, left) ↔
      valid (value part) ∧ next (value part) rest = .ok (result, left) := by
  constructor
  · intro ok
    obtain ⟨taken, behind, first, more⟩ := (bind_taken_iff _ _ _ _ _).mp ok
    obtain ⟨bounds, rfl, rfl⟩ := (takes.taken part stop rest ends _ _).mp first
    obtain ⟨_, after, stopped, ok⟩ := (bind_taken_iff _ _ _ _ _).mp more
    cases (literal_taken_iff stop _ after).mp stopped
    exact ⟨bounds, ok⟩
  · rintro ⟨bounds, ok⟩
    rw [bind_read ((takes.taken part stop rest ends _ _).mpr ⟨bounds, rfl, rfl⟩),
      bind_read ((literal_taken_iff stop _ rest).mpr rfl)]
    exact ok

end Parts

theorem ranges_no_digit : ∀ range ∈ Text.blankRanges, range.2 < 48 ∨ 57 < range.1 := by decide

theorem digit_not_blank (c : Char) (digit : c.isDigit = true) : Text.isBlank c = false := by
  apply Bool.eq_false_iff.mpr
  intro blank
  obtain ⟨range, listed, least, most⟩ := (Text.inClass_iff _ c).mp blank
  have apart := ranges_no_digit range listed
  have code := Text.digit_range c digit
  omega

theorem skipBlanks_spelled (text left : List Char) (ok : skipBlanks text = .ok ((), left)) :
    ∃ blanks, blanks ++ left = text ∧ ∀ c ∈ blanks, Text.isBlank c = true := by
  cases ok
  exact ⟨text.takeWhile Text.isBlank, List.takeWhile_append_dropWhile,
    List.all_eq_true.mp List.all_takeWhile⟩

theorem skipBlanks_run (blanks : List Char) (first : Char) (more : List Char)
    (blank : ∀ c ∈ blanks, Text.isBlank c = true) (solid : Text.isBlank first = false) :
    skipBlanks (blanks ++ first :: more) = .ok ((), first :: more) := by
  rw [skipBlanks, List.dropWhile_append_of_pos blank, List.dropWhile_cons_of_neg (by simp [solid])]

theorem opens_run (run rest : List Char) (some : run ≠ [])
    (ascii : ∀ c ∈ run, c.isDigit = true) :
    ∃ first more, run ++ rest = first :: more ∧ first.isDigit = true := by
  obtain ⟨first, more, rfl⟩ := List.exists_cons_of_ne_nil some
  exact ⟨first, more ++ rest, rfl, ascii first List.mem_cons_self⟩

theorem digits_ok_iff (width value : Nat) (text left : List Char) :
    digits width text = .ok (value, left) ↔
      ∃ run, (text.take width).takeWhile Char.isDigit = run ∧ run ≠ [] ∧
        Text.digitsValue run < 9223372036854775808 ∧ Text.digitsValue run = value ∧
        text.drop run.length = left := by
  constructor
  · intro ok
    simp only [digits] at ok
    split at ok
    · cases ok
    · split at ok
      · cases ok
      · next some =>
          split at ok
          · cases ok
          · next small =>
              cases ok
              exact ⟨_, rfl, some, Nat.not_le.mp small, rfl, rfl⟩
  · rintro ⟨run, rfl, some, small, rfl, rfl⟩
    have nonempty : text ≠ [] := by
      rintro rfl
      exact some (by simp)
    simp only [digits]
    rw [if_neg nonempty, if_neg some, if_neg (Nat.not_le.mpr small)]

theorem digits_spelled (width value : Nat) (text left : List Char)
    (ok : digits width text = .ok (value, left)) :
    ∃ run, run ++ left = text ∧ run ≠ [] ∧ (∀ c ∈ run, c.isDigit = true) ∧
      run.length ≤ width := by
  obtain ⟨run, taken, some, -, -, rfl⟩ := (digits_ok_iff width value text left).mp ok
  have front : run <+: text.take width := taken ▸ List.takeWhile_prefix _
  refine ⟨run, List.prefix_iff_eq_append.mp (front.trans (List.take_prefix _ _)), some, ?_,
    Nat.le_trans front.length_le (List.length_take_le _ _)⟩
  rw [← taken]
  exact List.all_eq_true.mp List.all_takeWhile

/-- A run of digits that ends before the text does is taken whole when it is short enough. -/
theorem digits_run_iff (width : Nat) (run : List Char) (stop : Char) (rest : List Char)
    (ascii : ∀ c ∈ run, c.isDigit = true) (some : run ≠ []) (fits : run.length ≤ width)
    (ends : stop.isDigit = false) (value : Nat) (left : List Char) :
    digits width (run ++ stop :: rest) = .ok (value, left) ↔
      Text.digitsValue run < 9223372036854775808 ∧ Text.digitsValue run = value ∧
        stop :: rest = left := by
  have stops : ((stop :: rest).take (width - run.length)).takeWhile Char.isDigit = [] := by
    cases width - run.length with
    | zero => rfl
    | succ => rw [List.take_succ_cons, List.takeWhile_cons_of_neg (by simp [ends])]
  have taken : ((run ++ stop :: rest).take width).takeWhile Char.isDigit = run := by
    rw [List.take_append, List.take_of_length_le fits, List.takeWhile_append_of_pos ascii, stops,
      List.append_nil]
  rw [digits_ok_iff, taken]
  constructor
  · rintro ⟨_, rfl, -, small, denoted, behind⟩
    exact ⟨small, denoted, List.drop_left.symm.trans behind⟩
  · rintro ⟨small, denoted, rfl⟩
    exact ⟨run, rfl, some, small, denoted, List.drop_left⟩

theorem field_spelled (least most value : Nat) (text left : List Char)
    (ok : field least most text = .ok (value, left)) :
    ∃ number : SpelledNumber, number.text ++ left = text := by
  obtain ⟨_, rest, skipped, more⟩ := (bind_taken_iff _ _ _ _ _).mp ok
  obtain ⟨denoted, behind, taken, checked⟩ := (bind_taken_iff _ _ _ _ _).mp more
  obtain ⟨-, -, rfl⟩ := (within_taken_iff _ _ _ _ _ _).mp checked
  obtain ⟨blanks, rfl, blank⟩ := skipBlanks_spelled text rest skipped
  obtain ⟨run, rfl, some, ascii, short⟩ := digits_spelled 2 denoted rest behind taken
  exact ⟨⟨blanks, run, blank, ascii, some, short⟩, List.append_assoc _ _ _⟩

theorem SpelledNumber.value_small (number : SpelledNumber) : number.value < 100 := by
  have few := Text.digitsValue_lt number.digits number.ascii
  exact Nat.lt_of_lt_of_le few (Nat.pow_le_pow_right (by decide) number.short)

theorem field_taken (least most : Nat) (number : SpelledNumber) (stop : Char) (rest : List Char)
    (ends : stop.isDigit = false) (value : Nat) (left : List Char) :
    field least most (number.text ++ stop :: rest) = .ok (value, left) ↔
      (least ≤ number.value ∧ number.value ≤ most) ∧ number.value = value ∧
        stop :: rest = left := by
  have small := number.value_small
  have taken := (digits_run_iff 2 number.digits stop rest number.ascii number.nonempty
    number.short ends _ _).mpr ⟨Nat.lt_trans small (by decide), rfl, rfl⟩
  obtain ⟨first, more, opened, digit⟩ :=
    opens_run number.digits (stop :: rest) number.nonempty number.ascii
  have skipped := skipBlanks_run number.blanks first more number.blank (digit_not_blank first digit)
  rw [SpelledNumber.text, List.append_assoc, field, opened, bind_read skipped, ← opened,
    bind_read taken]
  exact within_taken_iff _ _ _ _ _ _

theorem field_parts (least most : Nat) :
    TakesParts (field least most) SpelledNumber.text SpelledNumber.value
      fun value => least ≤ value ∧ value ≤ most :=
  ⟨field_spelled least most, field_taken least most⟩

theorem signedYear_digit (first : Char) (more : List Char) (digit : first.isDigit = true) :
    signedYear (first :: more) =
      (digits 4 (first :: more)).map fun (value, rest) => ((value : Int), rest) := by
  -- The first two cases are those of the signs, which are no digits.
  unfold signedYear
  split
  · next rest same =>
      rw [(List.cons.inj same).1] at digit
      exact absurd digit (by decide)
  · next rest same =>
      rw [(List.cons.inj same).1] at digit
      exact absurd digit (by decide)
  · rfl

theorem signedYear_spelled (value : Int) (text left : List Char)
    (ok : signedYear text = .ok (value, left)) :
    ∃ (sign : YearSign) (run : List Char), sign.text ++ (run ++ left) = text ∧ run ≠ [] ∧
      (∀ c ∈ run, c.isDigit = true) ∧ (sign = .absent → run.length ≤ 4) := by
  unfold signedYear at ok
  split at ok
  · obtain ⟨_, taken, ⟨⟩⟩ := (map_ok_iff _ _ _).mp ok
    obtain ⟨run, rfl, some, ascii, -⟩ := digits_spelled _ _ _ _ taken
    exact ⟨.minus, run, rfl, some, ascii, nofun⟩
  · obtain ⟨_, taken, ⟨⟩⟩ := (map_ok_iff _ _ _).mp ok
    obtain ⟨run, rfl, some, ascii, -⟩ := digits_spelled _ _ _ _ taken
    exact ⟨.plus, run, rfl, some, ascii, nofun⟩
  · obtain ⟨_, taken, ⟨⟩⟩ := (map_ok_iff _ _ _).mp ok
    obtain ⟨run, rfl, some, ascii, short⟩ := digits_spelled _ _ _ _ taken
    exact ⟨.absent, run, rfl, some, ascii, fun _ => short⟩

theorem year_spelled (value : Int) (text left : List Char) (ok : year text = .ok (value, left)) :
    ∃ spelled : SpelledYear, spelled.text ++ left = text := by
  obtain ⟨_, rest, skipped, more⟩ := (bind_taken_iff _ _ _ _ _).mp ok
  obtain ⟨denoted, behind, taken, checked⟩ := (bind_taken_iff _ _ _ _ _).mp more
  obtain ⟨-, -, rfl⟩ := (within_taken_iff _ _ _ _ _ _).mp checked
  obtain ⟨blanks, rfl, blank⟩ := skipBlanks_spelled text rest skipped
  obtain ⟨sign, run, rfl, some, ascii, short⟩ := signedYear_spelled denoted rest behind taken
  refine ⟨⟨blanks, sign, run, blank, ascii, some, short⟩, ?_⟩
  simp only [SpelledYear.text, List.append_assoc]

theorem YearSign.apply_natAbs (sign : YearSign) (magnitude : Nat) :
    (sign.apply magnitude).natAbs = magnitude := by
  cases sign with
  | absent | plus => exact Int.natAbs_natCast magnitude
  | minus => rw [apply, Int.natAbs_neg, Int.natAbs_natCast]

theorem SpelledYear.opens (spelled : SpelledYear) (rest : List Char) :
    ∃ first more, spelled.sign.text ++ (spelled.digits ++ rest) = first :: more ∧
      Text.isBlank first = false := by
  cases spelled.sign with
  | absent =>
      obtain ⟨first, more, opened, digit⟩ :=
        opens_run spelled.digits rest spelled.nonempty spelled.ascii
      exact ⟨first, more, opened, digit_not_blank first digit⟩
  | plus => exact ⟨'+', _, rfl, by decide⟩
  | minus => exact ⟨'-', _, rfl, by decide⟩

/-- A sign decides how many digits may be taken and what becomes of their value. -/
theorem signedYear_sign (spelled : SpelledYear) (rest : List Char) :
    ∃ width, spelled.digits.length ≤ width ∧
      signedYear (spelled.sign.text ++ (spelled.digits ++ rest)) =
        (digits width (spelled.digits ++ rest)).map fun (magnitude, rest) =>
          (spelled.sign.apply magnitude, rest) := by
  have fits : spelled.digits.length ≤ (spelled.digits ++ rest).length := by simp
  cases signed : spelled.sign with
  | absent =>
      obtain ⟨first, more, opened, digit⟩ :=
        opens_run spelled.digits rest spelled.nonempty spelled.ascii
      refine ⟨4, spelled.short signed, ?_⟩
      rw [YearSign.text, List.nil_append, opened]
      exact signedYear_digit first more digit
  | plus => exact ⟨_, fits, rfl⟩
  | minus => exact ⟨_, fits, rfl⟩

theorem signedYear_taken (spelled : SpelledYear) (stop : Char) (rest : List Char)
    (ends : stop.isDigit = false) (value : Int) (left : List Char) :
    signedYear (spelled.sign.text ++ (spelled.digits ++ stop :: rest)) = .ok (value, left) ↔
      Text.digitsValue spelled.digits < 9223372036854775808 ∧ spelled.value = value ∧
        stop :: rest = left := by
  obtain ⟨width, fits, same⟩ := signedYear_sign spelled (stop :: rest)
  have taken := digits_run_iff width spelled.digits stop rest spelled.ascii spelled.nonempty
    fits ends
  rw [same, map_ok_iff]
  constructor
  · rintro ⟨⟨magnitude, behind⟩, ok, ⟨⟩⟩
    obtain ⟨word, rfl, rfl⟩ := (taken _ _).mp ok
    exact ⟨word, rfl, rfl⟩
  · rintro ⟨word, rfl, rfl⟩
    exact ⟨_, (taken _ _).mpr ⟨word, rfl, rfl⟩, rfl⟩

theorem year_taken (spelled : SpelledYear) (stop : Char) (rest : List Char)
    (ends : stop.isDigit = false) (value : Int) (left : List Char) :
    year (spelled.text ++ stop :: rest) = .ok (value, left) ↔
      (-2147483648 ≤ spelled.value ∧ spelled.value < 2147483648) ∧ spelled.value = value ∧
        stop :: rest = left := by
  obtain ⟨first, more, opened, solid⟩ := spelled.opens (stop :: rest)
  have skipped := skipBlanks_run spelled.blanks first more spelled.blank solid
  have magnitude := spelled.sign.apply_natAbs (Text.digitsValue spelled.digits)
  rw [SpelledYear.text, List.append_assoc, List.append_assoc, year, opened, bind_read skipped,
    ← opened, bind_taken_iff]
  constructor
  · rintro ⟨denoted, behind, taken, checked⟩
    obtain ⟨-, rfl, rfl⟩ := (signedYear_taken spelled stop rest ends _ _).mp taken
    exact (within_taken_iff _ _ _ _ _ _).mp checked
  · rintro ⟨near, rfl, rfl⟩
    -- Digits that do not fit the word of their reader would put the year out of bounds as well.
    have word : Text.digitsValue spelled.digits < 9223372036854775808 := by
      rw [← magnitude, ← SpelledYear.value]
      omega
    exact ⟨_, _, (signedYear_taken spelled stop rest ends _ _).mpr ⟨word, rfl, rfl⟩,
      (within_taken_iff _ _ _ _ _ _).mpr ⟨near, rfl, rfl⟩⟩

theorem year_parts :
    TakesParts year SpelledYear.text SpelledYear.value
      fun value => -2147483648 ≤ value ∧ value < 2147483648 :=
  ⟨year_spelled, year_taken⟩

theorem fields_spelled (text : List Char) (numbers : Fields)
    (ok : fields text = .ok (numbers, [])) : ∃ spelling : Spelling, spelling.text = text := by
  -- Each number ends where the character behind it is expected.
  obtain ⟨year, _, _, rfl, months⟩ := year_parts.spelled_stop '-' _ _ _ _ ok
  obtain ⟨month, _, _, rfl, days⟩ := (field_parts 1 12).spelled_stop '-' _ _ _ _ months
  obtain ⟨day, _, _, rfl, hours⟩ := (field_parts 1 31).spelled_stop 'T' _ _ _ _ days
  obtain ⟨hour, _, _, rfl, minutes⟩ := (field_parts 0 23).spelled_stop ':' _ _ _ _ hours
  obtain ⟨minute, _, _, rfl, seconds⟩ := (field_parts 0 59).spelled_stop ':' _ _ _ _ minutes
  obtain ⟨second, _, _, rfl, ended⟩ := (field_parts 0 60).spelled_stop 'Z' _ _ _ _ seconds
  obtain ⟨-, rfl⟩ := (pure_taken_iff _ _ _ _).mp ended
  exact ⟨⟨year, month, day, hour, minute, second⟩, rfl⟩

theorem fields_spelling (spelling : Spelling) (numbers : Fields) :
    fields spelling.text = .ok (numbers, []) ↔
      spelling.numbers.InBounds ∧ spelling.numbers = numbers := by
  rw [fields, Spelling.text, year_parts.taken_stop '-' rfl,
    (field_parts 1 12).taken_stop '-' rfl, (field_parts 1 31).taken_stop 'T' rfl,
    (field_parts 0 23).taken_stop ':' rfl, (field_parts 0 59).taken_stop ':' rfl,
    (field_parts 0 60).taken_stop 'Z' rfl, pure_taken_iff]
  constructor
  · rintro ⟨year, month, day, hour, minute, second, same, -⟩
    exact ⟨⟨year, month, day, hour.2, minute.2, second.2⟩, same⟩
  · rintro ⟨bounds, same⟩
    exact ⟨bounds.year, bounds.month, bounds.day, ⟨Nat.zero_le _, bounds.hour⟩,
      ⟨Nat.zero_le _, bounds.minute⟩, ⟨Nat.zero_le _, bounds.second⟩, same, rfl⟩

end NodePolicy.Time.Timestamp
