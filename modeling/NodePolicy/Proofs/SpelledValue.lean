import NodePolicy.Proofs.Spelling

/-!
The exact value of the ISO 8601 form. A count of any length is worth what it spells, the fraction
counts nanoseconds, and the eight checked additions come down to one check of the exact sum, made
before the sign is applied.
-/

namespace NodePolicy.Duration

open NodePolicy.Text

namespace Iso8601

def countValue : Option (Run Char.isDigit) → Nat
  | none => 0
  | some run => digitsValue run.digits

@[simp] theorem countValue_none : countValue none = 0 := rfl

def fractionNanos : Option (Fraction Char.isDigit) → Nat
  | none => 0
  | some fraction => digitsValue fraction.digits * 10 ^ (9 - fraction.digits.length)

def secondsNanos : Option (Seconds Char.isDigit) → Nat
  | none => 0
  | some seconds =>
      digitsValue seconds.whole.digits * TimeUnit.second.nanos + fractionNanos seconds.fraction

def clockNanos : Option (Clock Char.isDigit) → Nat
  | none => 0
  | some clock =>
      countValue clock.hours * TimeUnit.hour.nanos + countValue clock.minutes * TimeUnit.minute.nanos
        + secondsNanos clock.seconds

/-- The exact magnitude. A year has 365 days, a month 30 and a week 7. -/
def Spelling.nanos (spelling : Spelling Char.isDigit) : Nat :=
  (365 * countValue spelling.years + 30 * countValue spelling.months
      + 7 * countValue spelling.weeks + countValue spelling.days) * TimeUnit.day.nanos
    + clockNanos spelling.clock

theorem countTerms_nanos (unit : TimeUnit) (count : Option (Run Char.isDigit)) :
    sumNanos (countTerms unit count) = countValue count * unit.nanos := by
  cases count with
  | none => simp [countTerms, countValue, sumNanos]
  | some run => simp [countTerms, countValue, sumNanos, Term.nanos]

theorem fractionTerms_nanos (fraction : Option (Fraction Char.isDigit)) :
    sumNanos (fractionTerms fraction) = fractionNanos fraction := by
  cases fraction with
  | none => rfl
  | some fraction =>
      have unit : TimeUnit.nanosecond.nanos = 1 := rfl
      simp [fractionTerms, fractionNanos, sumNanos, Term.nanos, filled, digitsValue_zeros, unit]

theorem spelledSeconds_nanos (seconds : Option (Seconds Char.isDigit)) :
    sumNanos (spelledSeconds seconds) = secondsNanos seconds := by
  cases seconds with
  | none => rfl
  | some seconds => rw [spelledSeconds, sumNanos, fractionTerms_nanos, secondsNanos, Term.nanos]

theorem clockTerms_nanos (clock : Option (Clock Char.isDigit)) :
    sumNanos (clockTerms clock) = clockNanos clock := by
  cases clock with
  | none => rfl
  | some clock =>
      simp only [clockTerms, Clock.terms, sumNanos_append, countTerms_nanos, spelledSeconds_nanos,
        clockNanos]

theorem terms_nanos (spelling : Spelling Char.isDigit) :
    sumNanos spelling.terms = spelling.nanos := by
  have year : TimeUnit.year.nanos = 365 * TimeUnit.day.nanos := rfl
  have month : TimeUnit.month.nanos = 30 * TimeUnit.day.nanos := rfl
  have week : TimeUnit.week.nanos = 7 * TimeUnit.day.nanos := rfl
  simp only [Spelling.terms, Spelling.nanos, sumNanos_append, countTerms_nanos, clockTerms_nanos,
    year, month, week, Nat.add_mul, Nat.mul_left_comm _ _ TimeUnit.day.nanos, Nat.mul_assoc]

theorem terms_readable (spelling : Spelling Char.isDigit) :
    ∀ term ∈ spelling.terms, term.Readable := by
  intro term member
  obtain ⟨some, digits⟩ := terms_digits spelling term member
  refine ⟨some, ?_⟩
  intro c count
  rcases digits c count with ascii | rfl
  · exact ascii
  · rfl

theorem total_terms (spelling : Spelling Char.isDigit) :
    total? spelling.terms = ofNanos? spelling.nanos := by
  rw [total_exact _ (terms_readable spelling), terms_nanos]

theorem read_total (text : String) (negative : Bool) (terms : List Term) (total duration : Duration)
    (form : terms? text.toList = some (negative, terms)) (summed : total? terms = some total)
    (turned : (if negative then total.checkedNeg else some total) = some duration) :
    read text = .ok duration := by
  rw [read, form]
  simp only [summed, Option.bind_some, turned]

theorem read_no_total (text : String) (negative : Bool) (terms : List Term)
    (form : terms? text.toList = some (negative, terms)) (large : total? terms = none) :
    read text = .error (.outOfRange text) := by
  rw [read, form]
  simp only [large, Option.bind_none]

section Spelled
variable (text : String) (spelling : Spelling Char.isDigit) (spelled : text.toList = spelling.text)
include spelled

theorem read_spelled : Duration.read text = read text := by
  apply read_announced
  rw [spelled]
  exact text_announced spelling

theorem terms_spelled :
    terms? text.toList = some (spelling.negative, spelling.terms) := by
  rw [spelled]
  exact terms_text isDecimalDigit_of_isDigit spelling

theorem read_within (fits : spelling.nanos ≤ 9223372036854775807) :
    Duration.read text = .ok (signed spelling.negative spelling.nanos fits) := by
  rw [read_spelled text spelling spelled]
  apply read_total text spelling.negative spelling.terms (signed false spelling.nanos fits)
  · exact terms_spelled text spelling spelled
  · rw [total_terms, ofNanos_signed]
  · cases spelling.negative with
    | false => rw [if_neg Bool.false_ne_true]
    | true => rw [if_pos rfl, checkedNeg_signed]

theorem read_beyond (large : 9223372036854775807 < spelling.nanos) :
    Duration.read text = .error (.outOfRange text) := by
  rw [read_spelled text spelling spelled]
  apply read_no_total text spelling.negative spelling.terms
  · exact terms_spelled text spelling spelled
  · rw [total_terms, ofNanos_above _ (by omega)]

end Spelled

/-- A duration in the ISO 8601 form, with counts of any length, is its exact sum under its sign,
as long as the sum fits before the sign counts. -/
theorem read_spelling (spelling : Spelling Char.isDigit) :
    Duration.read (String.ofList spelling.text) =
      if fits : spelling.nanos ≤ 9223372036854775807 then
        .ok (signed spelling.negative spelling.nanos fits)
      else .error (.outOfRange (String.ofList spelling.text)) := by
  split
  · next fits => exact read_within _ spelling String.toList_ofList fits
  · next large => exact read_beyond _ spelling String.toList_ofList (Nat.lt_of_not_le large)

/-- Months and minutes, told apart by the letter between them. -/
example : Duration.read "P1MT1M" = .ok ⟨2592060000000000, by decide, by decide⟩ := rfl

end Iso8601

end NodePolicy.Duration
