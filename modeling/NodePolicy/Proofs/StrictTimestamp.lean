import NodePolicy.Proofs.TimestampText

/-!
The texts that timestamps are written in. Of all the spellings of its numbers an instant is written
in the strict one: without white space, with two digits for all but the year, and with a sign only on
a year that four digits do not spell.
-/

namespace NodePolicy.Time.Timestamp

structure SpelledNumber.Strict (number : SpelledNumber) : Prop where
  blanks : number.blanks = []
  digits : number.digits.length = 2

/-- No white space, a sign only outside the years 0 to 9999, and more than four digits only where
fewer would not do. -/
structure SpelledYear.Strict (spelled : SpelledYear) : Prop where
  blanks : spelled.blanks = []
  sign : spelled.sign = .absent ↔ 0 ≤ spelled.value ∧ spelled.value ≤ 9999
  digits : spelled.digits.length = 4 ∨
    4 < spelled.digits.length ∧ spelled.digits.head? ≠ some '0'

structure Spelling.Strict (spelling : Spelling) : Prop where
  year : spelling.year.Strict
  month : spelling.month.Strict
  day : spelling.day.Strict
  hour : spelling.hour.Strict
  minute : spelling.minute.Strict
  second : spelling.second.Strict

theorem SpelledNumber.Strict.eq_written {number : SpelledNumber} (strict : number.Strict) :
    number = writtenNumber number.value := by
  have fixed := Text.fixedDigits_of_value number.digits number.ascii
  rw [strict.digits] at fixed
  exact SpelledNumber.ext strict.blanks fixed.symm

theorem SpelledYear.Strict.sign_written {spelled : SpelledYear} (strict : spelled.Strict) :
    spelled.sign = writtenSign spelled.value := by
  rw [writtenSign]
  split
  · next short => exact strict.sign.mpr short
  · next long =>
      cases signed : spelled.sign with
      | absent => exact absurd (strict.sign.mp signed) long
      | plus =>
          rw [value, signed, YearSign.apply, if_neg (by omega)]
      | minus =>
          rw [value, signed, YearSign.apply] at long ⊢
          rw [if_pos (by omega)]

theorem SpelledYear.Strict.eq_written {spelled : SpelledYear} (strict : spelled.Strict) :
    spelled = writtenYear spelled.value := by
  have padded := Text.paddedDigits_of_value 4 spelled.digits (by decide) spelled.ascii strict.digits
  rw [← spelled.sign.apply_natAbs (Text.digitsValue spelled.digits)] at padded
  exact SpelledYear.ext strict.blanks strict.sign_written padded.symm

/-- Numbers have no other strict spelling than the one that is written. -/
theorem Spelling.Strict.eq_written {spelling : Spelling} (strict : spelling.Strict) :
    spelling = written spelling.numbers :=
  Spelling.ext strict.year.eq_written strict.month.eq_written strict.day.eq_written
    strict.hour.eq_written strict.minute.eq_written strict.second.eq_written

theorem writtenNumber_strict (value : Nat) : (writtenNumber value).Strict :=
  ⟨rfl, Text.fixedDigits_length 2 value⟩

theorem writtenYear_strict (value : Int) : (writtenYear value).Strict where
  blanks := rfl
  sign := by
    rw [writtenYear_value]
    exact writtenSign_absent_iff value
  digits := (Text.paddedDigits_fill 4 value.natAbs (by decide)).imp And.right And.right

theorem written_strict (numbers : Fields) : (written numbers).Strict :=
  ⟨writtenYear_strict _, writtenNumber_strict _, writtenNumber_strict _, writtenNumber_strict _,
    writtenNumber_strict _, writtenNumber_strict _⟩

def IsStrict (text : String) : Prop :=
  ∃ spelling : Spelling, spelling.text = text.toList ∧ spelling.Strict

theorem write_isStrict (instant : Instant) : IsStrict (write instant) :=
  ⟨written (shown instant), (write_spelled instant).symm, written_strict _⟩

theorem read_iff_spelled (text : String) (instant : Instant) :
    read text = .ok instant ↔ instant.wholeSecond = instant ∧
      ∃ spelling : Spelling, spelling.text = text.toList ∧ spelling.numbers = shown instant := by
  rw [read_ok_iff]
  constructor
  · intro ok
    obtain ⟨spelling, same⟩ := readChars_spelled text.toList instant ok
    rw [← same] at ok
    obtain ⟨whole, numbers⟩ := (readChars_spelling spelling instant).mp ok
    exact ⟨whole, spelling, same, numbers⟩
  · rintro ⟨whole, spelling, same, numbers⟩
    rw [← same]
    exact (readChars_spelling spelling instant).mpr ⟨whole, numbers⟩

theorem write_read_iff (text : String) (instant : Instant) (ok : read text = .ok instant) :
    write instant = text ↔ IsStrict text := by
  constructor
  · rintro rfl
    exact write_isStrict instant
  · rintro ⟨spelling, same, strict⟩
    rw [read_ok_iff, ← same] at ok
    obtain ⟨-, numbers⟩ := (readChars_spelling spelling instant).mp ok
    apply String.toList_inj.mp
    rw [write_spelled, ← numbers, ← strict.eq_written, same]

theorem strict_distinct (text second : String) (instant other : Instant)
    (ok : read text = .ok instant) (again : read second = .ok other) (strict : IsStrict text)
    (strictly : IsStrict second) (distinct : text ≠ second) : instant ≠ other := by
  rintro rfl
  apply distinct
  rw [← (write_read_iff text instant ok).mpr strict,
    (write_read_iff second instant again).mpr strictly]

/-- A text is read as an instant when it spells, with white space in front of the numbers and with
fewer digits or not, what a calendar and a clock show at the beginning of a second. The instant is
written in that text when the spelling is strict, and different strict texts are read as different
instants. -/
theorem read_spellings (text : String) (instant : Instant) :
    (read text = .ok instant ↔ instant.wholeSecond = instant ∧
      ∃ spelling : Spelling, spelling.text = text.toList ∧ spelling.numbers = shown instant) ∧
    (read text = .ok instant → (write instant = text ↔ IsStrict text)) ∧
    ∀ second other, read text = .ok instant → read second = .ok other → IsStrict text →
      IsStrict second → text ≠ second → instant ≠ other :=
  ⟨read_iff_spelled text instant, write_read_iff text instant,
    fun second other => strict_distinct text second instant other⟩

def newYear : Instant := (Instant.of? 1704067200 0).get rfl

def afterNewYear : Instant := (Instant.of? 1704067201 0).get rfl

theorem newYear_spellings :
    (∃ spelling : Spelling, spelling.text = "2024-1-1T0:0:0Z".toList ∧
      spelling.numbers = shown newYear) ∧
    ¬ IsStrict "2024-1-1T0:0:0Z" ∧ IsStrict "2024-01-01T00:00:00Z" ∧
    IsStrict "2024-01-01T00:00:01Z" ∧ newYear ≠ afterNewYear := by
  have short : read "2024-1-1T0:0:0Z" = .ok newYear := by decide +kernel
  have long : read "2024-01-01T00:00:00Z" = .ok newYear := by decide +kernel
  have next : read "2024-01-01T00:00:01Z" = .ok afterNewYear := by decide +kernel
  obtain ⟨accepted, strict, -⟩ := read_spellings "2024-1-1T0:0:0Z" newYear
  obtain ⟨-, strictly, apart⟩ := read_spellings "2024-01-01T00:00:00Z" newYear
  have first : IsStrict "2024-01-01T00:00:00Z" := (strictly long).mp (by decide +kernel)
  have second : IsStrict "2024-01-01T00:00:01Z" :=
    ((read_spellings "2024-01-01T00:00:01Z" afterNewYear).2.1 next).mp (by decide +kernel)
  refine ⟨(accepted.mp short).2, ?_, first, second, apart _ _ long next first second (by decide)⟩
  intro exact
  exact absurd ((strict short).mpr exact) (by decide +kernel)

/-- A text that is short of digits is read, and is not the one that the instant is written in. -/
theorem short_text_accepted :
    ¬ (∀ text instant, read text = .ok instant → write instant = text) ∧
    ¬ (∀ text second instant other, read text = .ok instant → read second = .ok other →
      text ≠ second → instant ≠ other) := by
  have short : read "2024-1-1T0:0:0Z" = .ok newYear := by decide +kernel
  have long : read "2024-01-01T00:00:00Z" = .ok newYear := by decide +kernel
  constructor
  · intro exact
    have same := exact _ _ short
    exact absurd same (by decide +kernel)
  · intro apart
    exact apart _ _ _ _ short long (by decide) rfl

end NodePolicy.Time.Timestamp
