import Mathlib.Order.Basic
import NodePolicy.Proofs.Iso8601

/-!
The text of a duration. Of all the spellings of its value a duration is written in one that leaves out
whatever says nothing: counts of zero, leading zeros, zeros at the end of a fraction, and the letter
that opens a time of day without components. A text has only one value, so different durations have
different texts.
-/

namespace NodePolicy.Duration.Iso8601

open NodePolicy.Text

structure Counted (run : Run Char.isDigit) : Prop where
  positive : 0 < digitsValue run.digits
  opens : run.digits.head? ≠ some '0'

/-- The seconds may be zero, a fraction may not. -/
structure Seconds.Canonical (seconds : Seconds Char.isDigit) : Prop where
  opens : seconds.whole.digits.head? = some '0' → seconds.whole.digits.length = 1
  few : digitsValue seconds.whole.digits ≤ 59
  fraction : ∀ fraction ∈ seconds.fraction, fraction.digits.getLast? ≠ some '0'

structure Clock.Canonical (clock : Clock Char.isDigit) : Prop where
  hours : ∀ run ∈ clock.hours, Counted run ∧ digitsValue run.digits ≤ 23
  minutes : ∀ run ∈ clock.minutes, Counted run ∧ digitsValue run.digits ≤ 59
  seconds : ∀ seconds ∈ clock.seconds, seconds.Canonical
  some : clock.hours.isSome ∨ clock.minutes.isSome ∨ clock.seconds.isSome

/-- Zero seconds are spelled out only where there is nothing else to spell. -/
structure Spelling.Canonical (spelling : Spelling Char.isDigit) : Prop where
  years : ∀ run ∈ spelling.years, Counted run
  months : spelling.months = none
  weeks : spelling.weeks = none
  days : ∀ run ∈ spelling.days, Counted run ∧ digitsValue run.digits ≤ 364
  clock : ∀ clock ∈ spelling.clock, clock.Canonical
  some : spelling.years.isSome ∨ spelling.days.isSome ∨ spelling.clock.isSome
  alone : ∀ clock ∈ spelling.clock, ∀ seconds ∈ clock.seconds,
    secondsNanos (Option.some seconds) = 0 → spelling.nanos = 0

theorem writtenCount_counted (count : Nat) (run : Run Char.isDigit)
    (member : run ∈ writtenCount count) : Counted run ∧ digitsValue run.digits = count := by
  rw [writtenCount] at member
  split at member
  · cases member
  · next nonzero =>
      cases member
      have positive := Nat.pos_of_ne_zero nonzero
      have value : digitsValue (writtenRun count).digits = count := naturalDigits_value count
      exact ⟨⟨positive.trans_eq value.symm, naturalDigits_opens count positive⟩, value⟩

theorem writtenCount_within (count most : Nat) (few : count ≤ most) :
    ∀ run ∈ writtenCount count, Counted run ∧ digitsValue run.digits ≤ most := by
  intro run member
  obtain ⟨counted, value⟩ := writtenCount_counted count run member
  exact ⟨counted, value.trans_le few⟩

theorem writtenFraction_last (nanos : Nat) (short : nanos < TimeUnit.second.nanos) :
    ∀ fraction ∈ writtenFraction nanos short, fraction.digits.getLast? ≠ some '0' := by
  intro fraction member
  rw [writtenFraction] at member
  split at member
  · cases member
  · cases member
    exact trimZeros_getLast _

section Seconds
variable (nanos : Nat) (alone : Bool) (seconds : Seconds Char.isDigit)
  (member : seconds ∈ writtenSeconds nanos alone)
include member

theorem writtenSeconds_parts :
    seconds =
      { whole := writtenRun (nanos / TimeUnit.second.nanos)
        fraction := writtenFraction (nanos % TimeUnit.second.nanos)
          (Nat.mod_lt nanos TimeUnit.second.nanos_pos) } := by
  rw [writtenSeconds] at member
  split at member
  · cases member
  · cases member
    rfl

theorem writtenSeconds_canonical (short : nanos < TimeUnit.minute.nanos) : seconds.Canonical := by
  have few : nanos / TimeUnit.second.nanos < 60 := Nat.div_lt_of_lt_mul short
  have rest := Nat.mod_lt nanos TimeUnit.second.nanos_pos
  rw [writtenSeconds_parts nanos alone seconds member]
  refine ⟨naturalDigits_leads _, ?_, writtenFraction_last _ rest⟩
  exact (naturalDigits_value _).trans_le (Nat.le_of_lt_succ few)

theorem writtenSeconds_alone (zero : secondsNanos (some seconds) = 0) : alone = true := by
  have value := writtenSeconds_nanos nanos alone
  rw [Option.mem_def.mp member, zero] at value
  cases alone with
  | true => rfl
  | false =>
      rw [writtenSeconds, if_pos ⟨value.symm, rfl⟩] at member
      cases member

end Seconds

section Clock
variable (hours minutes nanos : Nat) (alone : Bool) (clock : Clock Char.isDigit)
  (member : clock ∈ writtenClock hours minutes nanos alone)
include member

theorem writtenClock_parts :
    timeText hours minutes nanos alone ≠ [] ∧
      clock = ⟨writtenCount hours, writtenCount minutes, writtenSeconds nanos alone⟩ := by
  rw [writtenClock] at member
  split at member
  · cases member
  · next nonempty =>
      cases member
      exact ⟨nonempty, rfl⟩

theorem writtenClock_canonical (hour : hours ≤ 23) (minute : minutes ≤ 59)
    (short : nanos < TimeUnit.minute.nanos) : clock.Canonical := by
  obtain ⟨nonempty, rfl⟩ := writtenClock_parts hours minutes nanos alone clock member
  refine ⟨writtenCount_within hours 23 hour, writtenCount_within minutes 59 minute,
    fun seconds inside => writtenSeconds_canonical nanos alone seconds inside short, ?_⟩
  -- Without any component the time of day would be empty.
  by_contra missing
  simp only [not_or, Option.not_isSome_iff_eq_none] at missing
  obtain ⟨noHours, noMinutes, noSeconds⟩ := missing
  apply nonempty
  rw [timeText, ← writtenCount_text, ← writtenCount_text, ← writtenSeconds_text, noHours, noMinutes,
    noSeconds]
  rfl

end Clock

/-- What is left of a unit holds fewer of the parts than the unit itself. -/
theorem part_le (nanos : Nat) (whole part : TimeUnit) (most : Nat)
    (length : whole.nanos = part.nanos * (most + 1)) : nanos % whole.nanos / part.nanos ≤ most := by
  apply Nat.le_of_lt_succ
  apply Nat.div_lt_of_lt_mul
  rw [← length]
  exact Nat.mod_lt nanos whole.nanos_pos

theorem written_some (negative : Bool) (nanos : Nat) :
    (written negative nanos).years.isSome ∨ (written negative nanos).days.isSome ∨
      (written negative nanos).clock.isSome := by
  by_cases zero : nanos = 0
  · rw [zero]
    exact Or.inr (Or.inr rfl)
  · -- Without any component the spelling would be worth nothing.
    by_contra missing
    simp only [not_or, Option.not_isSome_iff_eq_none] at missing
    obtain ⟨noYears, noDays, noClock⟩ := missing
    have noMonths : (written negative nanos).months = none := rfl
    have noWeeks : (written negative nanos).weeks = none := rfl
    have value := written_nanos negative nanos
    rw [Spelling.nanos, noYears, noMonths, noWeeks, noDays, noClock] at value
    simp only [countValue_none, clockNanos, Nat.mul_zero, Nat.add_zero, Nat.zero_mul] at value
    exact zero value.symm

theorem written_alone (negative : Bool) (nanos : Nat) :
    ∀ clock ∈ (written negative nanos).clock, ∀ seconds ∈ clock.seconds,
      secondsNanos (some seconds) = 0 → (written negative nanos).nanos = 0 := by
  intro clock member seconds inside zero
  obtain ⟨_, rfl⟩ := writtenClock_parts _ _ _ _ clock member
  rw [written_nanos]
  exact of_decide_eq_true (writtenSeconds_alone _ _ seconds inside zero)

theorem written_canonical (negative : Bool) (nanos : Nat) : (written negative nanos).Canonical where
  years run member := (writtenCount_counted _ run member).1
  months := rfl
  weeks := rfl
  days := writtenCount_within _ 364 (part_le nanos .year .day 364 rfl)
  clock clock member := writtenClock_canonical _ _ _ _ clock member (part_le _ .day .hour 23 rfl)
    (part_le _ .hour .minute 59 rfl) (Nat.mod_lt _ TimeUnit.minute.nanos_pos)
  some := written_some negative nanos
  alone := written_alone negative nanos

def Spelling.value (spelling : Spelling Char.isDigit) : Int :=
  if spelling.negative then -spelling.nanos else spelling.nanos

theorem value_of_text (first second : Spelling Char.isDigit) (same : first.text = second.text) :
    first.value = second.value := by
  have terms := terms_text isDecimalDigit_of_isDigit first
  rw [same, terms_text isDecimalDigit_of_isDigit second] at terms
  obtain ⟨sign, summed⟩ := Prod.mk.inj (Option.some.inj terms)
  rw [Spelling.value, Spelling.value, ← terms_nanos first, ← terms_nanos second, sign, summed]

theorem written_value (duration : Duration) :
    (written (decide (duration.nanos < 0)) duration.nanos.natAbs).value = duration.nanos := by
  rw [Spelling.value, written_nanos, written_negative]
  simp only [decide_eq_true_eq]
  split <;> omega

/-- A duration is written in a canonical spelling of its exact value, and no two durations share a
text. -/
theorem toText_canonical :
    (∀ duration : Duration, ∃ spelling : Spelling Char.isDigit,
        duration.toText.toList = spelling.text ∧ spelling.Canonical ∧
          (spelling.negative = true ↔ duration.nanos < 0) ∧ spelling.value = duration.nanos) ∧
      Function.Injective toText := by
  constructor
  · intro duration
    exact ⟨_, write_spelled duration, written_canonical _ _, decide_eq_true_iff,
      written_value duration⟩
  · intro first second same
    have text := (write_spelled first).symm.trans
      ((congrArg String.toList same).trans (write_spelled second))
    have value := value_of_text _ _ text
    rw [written_value, written_value] at value
    exact Duration.ext value

end NodePolicy.Duration.Iso8601
