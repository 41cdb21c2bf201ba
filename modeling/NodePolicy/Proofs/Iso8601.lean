import NodePolicy.Proofs.SpelledValue

/-!
Reading what was written. A written duration is a spelling of its magnitude: components in falling
units, each the quotient of what the ones before it left. So its exact value is the magnitude, and
that is summed up before the sign is applied, which is why the lowest duration, alone, does not come
back.
-/

namespace NodePolicy.Duration.Iso8601

open NodePolicy.Text

def writtenRun (count : Nat) : Run Char.isDigit :=
  ⟨naturalDigits count, naturalDigits_ne_nil count, naturalDigits_ascii count⟩

def writtenCount (count : Nat) : Option (Run Char.isDigit) :=
  if count = 0 then none else some (writtenRun count)

theorem writtenCount_text (designator : Char) (count : Nat) :
    countText designator (writtenCount count) = component count designator := by
  rw [writtenCount, component]
  split <;> rfl

theorem writtenCount_value (count : Nat) : countValue (writtenCount count) = count := by
  rw [writtenCount]
  split
  · next absent => exact absent.symm
  · exact naturalDigits_value count

theorem component_absent (designator : Char) (count : Nat) (absent : component count designator = []) :
    count = 0 := by
  rw [component] at absent
  split at absent
  · assumption
  · exact absurd absent (List.append_ne_nil_of_right_ne_nil _ (List.cons_ne_nil _ _))

section Fraction
variable (fraction : Nat)

def fractionDigits : List Char := trimZeros (fixedDigits 9 fraction)

theorem fractionDigits_few : (fractionDigits fraction).length ≤ 9 := by
  have shorter := trimZeros_length (fixedDigits 9 fraction)
  rwa [fixedDigits_length] at shorter

/-- The zeros that were trimmed are what the reader fills in. -/
theorem fractionDigits_value (short : fraction < TimeUnit.second.nanos) :
    digitsValue (fractionDigits fraction) * 10 ^ (9 - (fractionDigits fraction).length) =
      fraction := by
  have filled := trimZeros_filled (fixedDigits 9 fraction)
  rw [fixedDigits_length] at filled
  rw [← digitsValue_zeros, fractionDigits, filled, fixedDigits_value]
  exact Nat.mod_eq_of_lt short

theorem fractionDigits_ne_nil (short : fraction < TimeUnit.second.nanos) (some : fraction ≠ 0) :
    fractionDigits fraction ≠ [] := by
  intro empty
  have value := fractionDigits_value fraction short
  rw [empty] at value
  exact some (value.symm.trans (Nat.zero_mul _))

def writtenFraction (short : fraction < TimeUnit.second.nanos) : Option (Fraction Char.isDigit) :=
  if absent : fraction = 0 then none
  else some
    { digits := fractionDigits fraction
      nonempty := fractionDigits_ne_nil fraction short absent
      ofKind := trimZeros_ascii _ (fixedDigits_ascii 9 fraction)
      few := fractionDigits_few fraction }

theorem writtenFraction_text (short : fraction < TimeUnit.second.nanos) :
    fractionText (writtenFraction fraction short) =
      if fraction = 0 then [] else '.' :: trimZeros (fixedDigits 9 fraction) := by
  rw [writtenFraction]
  split <;> rfl

theorem writtenFraction_nanos (short : fraction < TimeUnit.second.nanos) :
    fractionNanos (writtenFraction fraction short) = fraction := by
  rw [writtenFraction]
  split
  · next absent => exact absent.symm
  · exact fractionDigits_value fraction short

end Fraction

section Seconds
variable (nanos : Nat) (alone : Bool)

def writtenSeconds : Option (Seconds Char.isDigit) :=
  if nanos = 0 ∧ !alone then none
  else some
    { whole := writtenRun (nanos / TimeUnit.second.nanos)
      fraction := writtenFraction (nanos % TimeUnit.second.nanos)
        (Nat.mod_lt nanos TimeUnit.second.nanos_pos) }

theorem writtenSeconds_text :
    secondsText (writtenSeconds nanos alone) = secondsComponent nanos alone := by
  rw [writtenSeconds, secondsComponent]
  split
  · rfl
  · rw [secondsText, writtenFraction_text]
    rfl

theorem writtenSeconds_nanos : secondsNanos (writtenSeconds nanos alone) = nanos := by
  rw [writtenSeconds]
  split
  · next absent => exact absent.1.symm
  · rw [secondsNanos, writtenFraction_nanos, writtenRun, naturalDigits_value]
    exact Nat.div_add_mod' nanos TimeUnit.second.nanos

theorem secondsComponent_absent (absent : secondsComponent nanos alone = []) : nanos = 0 := by
  rw [secondsComponent] at absent
  split at absent
  · next none => exact none.1
  · exact absurd absent (List.append_ne_nil_of_right_ne_nil _ (List.cons_ne_nil _ _))

end Seconds

section Clock
variable (hours minutes nanos : Nat) (alone : Bool)

def timeText : List Char :=
  component hours 'H' ++ component minutes 'M' ++ secondsComponent nanos alone

def writtenClock : Option (Clock Char.isDigit) :=
  if timeText hours minutes nanos alone = [] then none
  else some ⟨writtenCount hours, writtenCount minutes, writtenSeconds nanos alone⟩

theorem writtenClock_text :
    clockText (writtenClock hours minutes nanos alone) =
      if timeText hours minutes nanos alone = [] then []
      else 'T' :: timeText hours minutes nanos alone := by
  rw [writtenClock]
  split
  · rfl
  · simp only [clockText, Clock.text, writtenCount_text, writtenSeconds_text, timeText]

theorem writtenClock_nanos :
    clockNanos (writtenClock hours minutes nanos alone) =
      hours * TimeUnit.hour.nanos + minutes * TimeUnit.minute.nanos + nanos := by
  rw [writtenClock]
  split
  · next empty =>
      -- Nothing is written at all, so every part is zero.
      simp only [timeText, List.append_eq_nil_iff] at empty
      obtain ⟨⟨noHours, noMinutes⟩, noSeconds⟩ := empty
      rw [component_absent 'H' hours noHours, component_absent 'M' minutes noMinutes,
        secondsComponent_absent nanos alone noSeconds]
      rfl
  · simp only [clockNanos, writtenCount_value, writtenSeconds_nanos]

end Clock

def written (negative : Bool) (nanos : Nat) : Spelling Char.isDigit :=
  let afterYears := nanos % TimeUnit.year.nanos
  let afterDays := afterYears % TimeUnit.day.nanos
  let afterHours := afterDays % TimeUnit.hour.nanos
  { negative := negative
    years := writtenCount (nanos / TimeUnit.year.nanos)
    months := none
    weeks := none
    days := writtenCount (afterYears / TimeUnit.day.nanos)
    clock := writtenClock (afterDays / TimeUnit.hour.nanos) (afterHours / TimeUnit.minute.nanos)
      (afterHours % TimeUnit.minute.nanos) (nanos = 0) }

theorem written_negative (negative : Bool) (nanos : Nat) :
    (written negative nanos).negative = negative := rfl

theorem written_unsigned (negative : Bool) (nanos : Nat) :
    (written negative nanos).unsignedText = unsigned nanos := by
  rw [Spelling.unsignedText, written, unsigned]
  simp only [writtenCount_text, writtenClock_text, countText_none, List.append_nil, timeText,
    List.cons_append]
  congr

theorem written_nanos (negative : Bool) (nanos : Nat) : (written negative nanos).nanos = nanos := by
  have years := Nat.div_add_mod' nanos TimeUnit.year.nanos
  have days := Nat.div_add_mod' (nanos % TimeUnit.year.nanos) TimeUnit.day.nanos
  have hours := Nat.div_add_mod' (nanos % TimeUnit.year.nanos % TimeUnit.day.nanos)
    TimeUnit.hour.nanos
  have minutes := Nat.div_add_mod'
    (nanos % TimeUnit.year.nanos % TimeUnit.day.nanos % TimeUnit.hour.nanos) TimeUnit.minute.nanos
  have year : TimeUnit.year.nanos = 365 * TimeUnit.day.nanos := rfl
  simp only [Spelling.nanos, written, writtenCount_value, writtenClock_nanos,
    countValue_none, Nat.mul_zero, Nat.add_zero, Nat.add_mul]
  -- The quotients and the last remainder put the number together again.
  rw [Nat.mul_assoc, Nat.mul_left_comm, ← year]
  omega

/-- The duration without a counterpart of the other sign. -/
def lowest : Duration := ⟨-9223372036854775808, by decide, by decide⟩

section Written
variable (duration : Duration)

theorem write_toList :
    (write duration).toList =
      if duration.nanos < 0 then '-' :: unsigned duration.nanos.natAbs
      else unsigned duration.nanos.natAbs := String.toList_ofList

theorem write_spelled :
    (write duration).toList = (written (decide (duration.nanos < 0)) duration.nanos.natAbs).text := by
  rw [write_toList, Spelling.text, written_unsigned]
  simp only [written_negative, decide_eq_true_eq]

theorem read_write (reaches : duration.nanos ≠ -9223372036854775808) :
    Duration.read (write duration) = .ok duration := by
  have lower := duration.lower
  have upper := duration.upper
  have value := written_nanos (decide (duration.nanos < 0)) duration.nanos.natAbs
  rw [read_within (write duration) _ (write_spelled duration) (by omega)]
  congr 1
  ext
  simp only [signed, value, written_negative, decide_eq_true_eq]
  split <;> omega

theorem read_write_lowest (least : duration.nanos = -9223372036854775808) :
    Duration.read (write duration) = .error (.outOfRange (write duration)) := by
  -- The magnitude is past the range before the sign could bring it back.
  have value := written_nanos (decide (duration.nanos < 0)) duration.nanos.natAbs
  exact read_beyond (write duration) _ (write_spelled duration) (by omega)

end Written

/-- Every duration comes back from its own text, but for the lowest. -/
theorem read_toText_iff (duration : Duration) :
    Duration.read duration.toText = .ok duration ↔ duration ≠ lowest := by
  constructor
  · intro returned
    rintro rfl
    have refused := read_write_lowest lowest rfl
    rw [toText, refused] at returned
    cases returned
  · intro other
    apply read_write
    intro least
    exact other (Duration.ext least)

/-- The text of the lowest duration is well formed, and the sum of its terms is one nanosecond too
long for the range. -/
theorem lowest_toText_refused :
    lowest.toText = "-P292Y171DT23H47M16.854775808S" ∧
      Duration.read lowest.toText = .error (.outOfRange "-P292Y171DT23H47M16.854775808S") ∧
        ¬ ∀ duration : Duration, Duration.read duration.toText = .ok duration := by
  have text : lowest.toText = "-P292Y171DT23H47M16.854775808S" := by decide +kernel
  have refused : Duration.read lowest.toText = .error (.outOfRange lowest.toText) :=
    read_write_lowest lowest rfl
  refine ⟨text, text ▸ refused, ?_⟩
  intro always
  rw [always lowest] at refused
  cases refused

end NodePolicy.Duration.Iso8601
