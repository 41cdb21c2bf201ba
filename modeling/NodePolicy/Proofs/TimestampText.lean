import NodePolicy.Proofs.Calendar
import NodePolicy.Proofs.TimestampSpelling

/-!
A written timestamp is read back. It is the text of one spelling of what a calendar and a clock show,
and the reader finds the instant at which they show it: that of the timestamp with its part of a
second left out.
-/

namespace NodePolicy.Time

namespace Timestamp

def writtenNumber (value : Nat) : SpelledNumber where
  blanks := []
  digits := Text.fixedDigits 2 value
  blank := nofun
  ascii := Text.fixedDigits_ascii 2 value
  nonempty := Text.fixedDigits_ne_nil 2 value (by decide)
  short := (Text.fixedDigits_length 2 value).le

theorem writtenNumber_text (value : Nat) :
    (writtenNumber value).text = Text.fixedDigits 2 value := rfl

theorem writtenNumber_value (value : Nat) (small : value < 100) :
    (writtenNumber value).value = value :=
  (Text.fixedDigits_value 2 value).trans (Nat.mod_eq_of_lt small)

def writtenSign (year : Int) : YearSign :=
  if 0 ≤ year ∧ year ≤ 9999 then .absent else if year < 0 then .minus else .plus

theorem writtenSign_absent_iff (year : Int) :
    writtenSign year = .absent ↔ 0 ≤ year ∧ year ≤ 9999 := by
  rw [writtenSign]
  by_cases short : 0 ≤ year ∧ year ≤ 9999
  · exact iff_of_true (if_pos short) short
  · apply iff_of_false _ short
    rw [if_neg short]
    split <;> nofun

theorem writtenSign_apply (year : Int) : (writtenSign year).apply year.natAbs = year := by
  rw [writtenSign]
  split
  · rw [YearSign.apply]
    omega
  · split <;> rw [YearSign.apply] <;> omega

def writtenYear (value : Int) : SpelledYear where
  blanks := []
  sign := writtenSign value
  digits := Text.paddedDigits 4 value.natAbs
  blank := nofun
  ascii := Text.paddedDigits_ascii 4 value.natAbs
  nonempty := Text.paddedDigits_ne_nil 4 value.natAbs
  short := by
    intro unsigned
    have few := (writtenSign_absent_iff value).mp unsigned
    obtain ⟨-, filled⟩ | ⟨large, -⟩ := Text.paddedDigits_fill 4 value.natAbs (by decide)
    · exact filled.le
    · omega

theorem writtenYear_value (value : Int) : (writtenYear value).value = value :=
  (congrArg (writtenSign value).apply (Text.paddedDigits_value 4 value.natAbs)).trans
    (writtenSign_apply value)

theorem writtenYear_text (value : Int) : (writtenYear value).text = writeYear value := by
  have spelled : (writtenYear value).text =
      (writtenSign value).text ++ Text.paddedDigits 4 value.natAbs := rfl
  rw [spelled, writtenSign, writeYear]
  by_cases short : 0 ≤ value ∧ value ≤ 9999
  · have magnitude : value.natAbs = value.toNat := by omega
    rw [if_pos short, if_pos short, YearSign.text, List.nil_append, magnitude]
    exact (Text.fixedDigits_eq_padded 4 value.toNat (by decide) (by omega)).symm
  · rw [if_neg short, if_neg short]
    split <;> rfl

def written (numbers : Fields) : Spelling where
  year := writtenYear numbers.year
  month := writtenNumber numbers.month
  day := writtenNumber numbers.day
  hour := writtenNumber numbers.hour
  minute := writtenNumber numbers.minute
  second := writtenNumber numbers.second

theorem written_numbers (numbers : Fields) (bounds : numbers.InBounds) :
    (written numbers).numbers = numbers := by
  rw [written, Spelling.numbers, writtenYear_value,
    writtenNumber_value _ (bounds.month.2.trans_lt (by decide)),
    writtenNumber_value _ (bounds.day.2.trans_lt (by decide)),
    writtenNumber_value _ (bounds.hour.trans_lt (by decide)),
    writtenNumber_value _ (bounds.minute.trans_lt (by decide)),
    writtenNumber_value _ (bounds.second.trans_lt (by decide))]

end Timestamp

namespace Instant

def elapsed (instant : Instant) : Int := instant.seconds * nanosPerSecond + instant.nanos

def inLeapSecond (instant : Instant) : Prop :=
  nanosPerSecond ≤ instant.nanos ∧ instant.seconds % 60 = 59

instance (instant : Instant) : Decidable instant.inLeapSecond :=
  inferInstanceAs (Decidable (_ ∧ _))

theorem second_after (instant : Instant) (usual : ¬ instant.inLeapSecond) :
    firstSecond ≤ instant.seconds + (instant.nanos / nanosPerSecond : Nat) ∧
      instant.seconds + (instant.nanos / nanosPerSecond : Nat) ≤ lastSecond := by
  have range := instant.in_range
  have few := instant.nanos_lt
  simp only [inLeapSecond, firstSecond, lastSecond, nanosPerSecond] at usual range few ⊢
  omega

/-- The beginning of the second that a clock shows. -/
def wholeSecond (instant : Instant) : Instant :=
  if leap : instant.inLeapSecond then
    ⟨instant.seconds, nanosPerSecond, instant.in_range, by decide⟩
  else
    ⟨instant.seconds + (instant.nanos / nanosPerSecond : Nat), 0, instant.second_after leap,
      by decide⟩

/-- Only a leap second is not counted in seconds. -/
theorem wholeSecond_cases (instant : Instant) :
    (instant.inLeapSecond ∧ instant.wholeSecond.seconds = instant.seconds ∧
      instant.wholeSecond.nanos = nanosPerSecond) ∨
    (¬ instant.inLeapSecond ∧
      instant.wholeSecond.seconds = instant.seconds + (instant.nanos / nanosPerSecond : Nat) ∧
      instant.wholeSecond.nanos = 0) := by
  by_cases leap : instant.inLeapSecond
  · rw [wholeSecond, dif_pos leap]
    exact .inl ⟨leap, rfl, rfl⟩
  · rw [wholeSecond, dif_neg leap]
    exact .inr ⟨leap, rfl, rfl⟩

theorem wholeSecond_nanos (instant : Instant) :
    instant.wholeSecond.nanos = if instant.inLeapSecond then nanosPerSecond else 0 := by
  obtain ⟨leap, -, nanos⟩ | ⟨usual, -, nanos⟩ := instant.wholeSecond_cases
  · rw [nanos, if_pos leap]
  · rw [nanos, if_neg usual]

theorem wholeSecond_elapsed (instant : Instant) :
    instant.wholeSecond.elapsed = instant.elapsed / nanosPerSecond * nanosPerSecond := by
  have few := instant.nanos_lt
  obtain ⟨leap, seconds, nanos⟩ | ⟨usual, seconds, nanos⟩ := instant.wholeSecond_cases
  · rw [elapsed, seconds, nanos, elapsed]
    simp only [inLeapSecond, nanosPerSecond] at leap few ⊢
    omega
  · rw [elapsed, seconds, nanos, elapsed]
    simp only [nanosPerSecond] at few ⊢
    omega

/-- The clock shows the same time at the beginning of a second. -/
theorem wholeSecond_clock (instant : Instant) :
    instant.wholeSecond.dayNumber = instant.dayNumber ∧
      instant.wholeSecond.hour = instant.hour ∧ instant.wholeSecond.minute = instant.minute ∧
      instant.wholeSecond.clockSecond = instant.clockSecond := by
  have few := instant.nanos_lt
  obtain ⟨leap, seconds, nanos⟩ | ⟨usual, seconds, nanos⟩ := instant.wholeSecond_cases
  · simp only [dayNumber, hour, minute, clockSecond, seconds, nanos, true_and]
    simp only [inLeapSecond, nanosPerSecond] at leap few ⊢
    omega
  · simp only [dayNumber, hour, minute, clockSecond, seconds, nanos]
    simp only [inLeapSecond, nanosPerSecond] at usual few ⊢
    omega

/-- The instant at the time that a clock shows is the beginning of the second. -/
theorem ofClock_shown (instant : Instant) (date : Date)
    (same : date.dayNumber = instant.dayNumber) :
    ofClock? date instant.hour instant.minute instant.clockSecond = some instant.wholeSecond := by
  have few := instant.nanos_lt
  have parts : date.dayNumber * 86400 + instant.hour * 3600 + instant.minute * 60 +
        (min instant.clockSecond 59 : Nat) = instant.wholeSecond.seconds ∧
      (instant.clockSecond - min instant.clockSecond 59) * nanosPerSecond =
        instant.wholeSecond.nanos ∧
      (nanosPerSecond ≤ instant.wholeSecond.nanos → instant.wholeSecond.seconds % 60 = 59) := by
    rw [same]
    obtain ⟨leap, seconds, nanos⟩ | ⟨usual, seconds, nanos⟩ := instant.wholeSecond_cases
    · simp only [dayNumber, hour, minute, clockSecond, seconds, nanos]
      simp only [inLeapSecond, nanosPerSecond] at leap few ⊢
      omega
    · simp only [dayNumber, hour, minute, clockSecond, seconds, nanos]
      simp only [inLeapSecond, nanosPerSecond] at usual few ⊢
      omega
  -- Nanoseconds are left only at the end of a minute, where a clock admits them.
  obtain ⟨seconds, nanos, ends⟩ := parts
  rw [ofClock?, seconds, nanos, of?,
    dif_pos ⟨instant.wholeSecond.in_range, instant.wholeSecond.nanos_lt, ends⟩]

end Instant

theorem Date.of_numbers (date : Date) : Date.of? date.year date.month date.day = some date := by
  rw [of?, dif_pos date.month_valid, dif_pos date.day_valid]

theorem Date.day_le (date : Date) : date.day ≤ 31 := by
  apply date.day_valid.2.trans
  rw [daysInMonth]
  repeat' split
  all_goals omega

/-- Time is too short for a year beyond the word of a reader. -/
theorem Date.year_near (date : Date) (instant : Instant)
    (same : date.dayNumber = instant.dayNumber) : date.year.natAbs < 2147483648 := by
  have range := instant.in_range
  have months := date.month_valid
  have days := date.day_valid.1
  have most := date.day_le
  simp only [dayNumber, Instant.dayNumber, firstSecond, lastSecond, epochDay] at same range
  omega

theorem Instant.hour_le (instant : Instant) : instant.hour ≤ 23 := by
  rw [hour]
  omega

theorem Instant.minute_le (instant : Instant) : instant.minute ≤ 59 := by
  rw [minute]
  omega

theorem Instant.clockSecond_le (instant : Instant) : instant.clockSecond ≤ 60 := by
  have few := instant.nanos_lt
  rw [clockSecond]
  rw [nanosPerSecond] at few ⊢
  omega

theorem Date.numbers_of (year : Int) (month day : Nat) (date : Date)
    (found : Date.of? year month day = some date) :
    date.year = year ∧ date.month = month ∧ date.day = day := by
  rw [of?] at found
  split at found
  · split at found
    · cases found
      exact ⟨rfl, rfl, rfl⟩
    · cases found
  · cases found

/-- The clock shows the time of day that an instant was found at. -/
theorem Instant.shown_ofClock (date : Date) (hour minute second : Nat) (instant : Instant)
    (hours : hour ≤ 23) (minutes : minute ≤ 59) (seconds : second ≤ 60)
    (found : ofClock? date hour minute second = some instant) :
    instant.dayNumber = date.dayNumber ∧ instant.hour = hour ∧ instant.minute = minute ∧
      instant.clockSecond = second := by
  rw [ofClock?, of?] at found
  split at found
  · cases found
    simp only [dayNumber, Instant.hour, Instant.minute, clockSecond, nanosPerSecond]
    omega
  · cases found

namespace Timestamp

def shown (instant : Instant) : Fields :=
  let (year, month, day) := civil instant.dayNumber
  ⟨year, month, day, instant.hour, instant.minute, instant.clockSecond⟩

theorem shown_inBounds (instant : Instant) : (shown instant).InBounds := by
  obtain ⟨date, found, same⟩ := exists_civil instant.dayNumber
  have near := date.year_near instant same
  rw [shown, found]
  exact ⟨by dsimp only; omega, date.month_valid, ⟨date.day_valid.1, date.day_le⟩,
    instant.hour_le, instant.minute_le, instant.clockSecond_le⟩

theorem write_spelled (instant : Instant) :
    (write instant).toList = (written (shown instant)).text := by
  simp only [write, shown, written, Spelling.text, writtenYear_text, writtenNumber_text,
    String.toList_ofList, List.append_assoc]
  rfl

theorem shown_instant (instant : Instant) :
    (shown instant).instant? = some instant.wholeSecond := by
  obtain ⟨date, found, same⟩ := exists_civil instant.dayNumber
  rw [shown, found, Fields.instant?, Date.of_numbers]
  exact instant.ofClock_shown date same

/-- Numbers in bounds denote the beginning of the second at which a clock shows them. -/
theorem instant_some_iff (numbers : Fields) (bounds : numbers.InBounds) (instant : Instant) :
    numbers.instant? = some instant ↔
      instant.wholeSecond = instant ∧ shown instant = numbers := by
  constructor
  · intro denoted
    obtain ⟨date, found, clock⟩ := Option.bind_eq_some_iff.mp denoted
    obtain ⟨year, month, day⟩ := date.numbers_of _ _ _ found
    obtain ⟨same, hour, minute, second⟩ :=
      instant.shown_ofClock date _ _ _ bounds.hour bounds.minute bounds.second clock
    have whole := instant.ofClock_shown date same.symm
    rw [hour, minute, second, clock, Option.some.injEq] at whole
    rw [shown, same, civil_dayNumber, year, month, day, hour, minute, second]
    exact ⟨whole.symm, rfl⟩
  · rintro ⟨whole, rfl⟩
    exact (shown_instant instant).trans (congrArg some whole)

theorem readChars_ok_iff (text : List Char) (instant : Instant) :
    readChars text = .ok instant ↔
      ∃ numbers, fields text = .ok (numbers, []) ∧ numbers.instant? = some instant := by
  rw [readChars, StateT.run]
  cases taken : fields text with
  | error fault => simp [bind, Except.bind]
  | ok first =>
      obtain ⟨numbers, rest⟩ := first
      -- A rest is refused whether the numbers denote an instant or not.
      cases rest <;> cases denoted : numbers.instant? <;>
        simp [denoted, bind, Except.bind, pure, Except.pure, throw, throwThe, MonadExceptOf.throw]

/-- A spelling is read as the beginning of the second at which its numbers are shown. -/
theorem readChars_spelling (spelling : Spelling) (instant : Instant) :
    readChars spelling.text = .ok instant ↔
      instant.wholeSecond = instant ∧ spelling.numbers = shown instant := by
  rw [readChars_ok_iff]
  constructor
  · rintro ⟨numbers, taken, denoted⟩
    obtain ⟨bounds, rfl⟩ := (fields_spelling spelling numbers).mp taken
    obtain ⟨whole, same⟩ := (instant_some_iff _ bounds instant).mp denoted
    exact ⟨whole, same.symm⟩
  · rintro ⟨whole, same⟩
    have bounds : spelling.numbers.InBounds := same ▸ shown_inBounds instant
    exact ⟨spelling.numbers, (fields_spelling spelling _).mpr ⟨bounds, rfl⟩,
      (instant_some_iff _ bounds instant).mpr ⟨whole, same.symm⟩⟩

theorem readChars_spelled (text : List Char) (instant : Instant)
    (ok : readChars text = .ok instant) : ∃ spelling : Spelling, spelling.text = text := by
  obtain ⟨numbers, taken, -⟩ := (readChars_ok_iff text instant).mp ok
  exact fields_spelled text numbers taken

theorem read_ok_iff (text : String) (instant : Instant) :
    read text = .ok instant ↔ readChars text.toList = .ok instant :=
  mapError_ok_iff _ _ _

theorem read_write (instant : Instant) : read (write instant) = .ok instant.wholeSecond := by
  have bounds := shown_inBounds instant
  have numbers := written_numbers (shown instant) bounds
  rw [read_ok_iff, write_spelled, readChars_ok_iff]
  refine ⟨shown instant, (fields_spelling _ _).mpr ⟨?_, numbers⟩, shown_instant instant⟩
  rw [numbers]
  exact bounds

theorem write_wholeSecond (instant : Instant) : write instant.wholeSecond = write instant := by
  obtain ⟨day, hour, minute, second⟩ := instant.wholeSecond_clock
  rw [write, day, hour, minute, second, write]

/-- The leap second at the end of 2016, half over. -/
example : write ⟨1483228799, 1500000000, by decide, by decide⟩ = "2016-12-31T23:59:60Z" := by
  decide +kernel

/-- A timestamp denotes the beginning of the second that a clock in Coordinated Universal Time
shows, wherever it was written: the nanoseconds of the second are left out, and a leap second is
kept. Written anywhere again, that instant has the same text. -/
theorem read_writeZoned (zoned elsewhere : ZonedInstant) :
    read (writeZoned zoned) = .ok zoned.instant.wholeSecond ∧
      zoned.instant.wholeSecond.elapsed =
        zoned.instant.elapsed / nanosPerSecond * nanosPerSecond ∧
      zoned.instant.wholeSecond.nanos =
        (if zoned.instant.inLeapSecond then nanosPerSecond else 0) ∧
      writeZoned { elsewhere with instant := zoned.instant.wholeSecond } = writeZoned zoned :=
  ⟨read_write zoned.instant, zoned.instant.wholeSecond_elapsed, zoned.instant.wholeSecond_nanos,
    write_wholeSecond zoned.instant⟩

end Timestamp

end NodePolicy.Time
