import NodePolicy.Duration.Reading
import NodePolicy.Proofs.TermSum

/-!
The ISO 8601 form spelled out: a sign and a choice of components, each a run of digits before its
designator. What a spelling writes is read as the terms it stands for, and a text that is read is
one of a spelling. Minutes and months share a letter; the reader tells them apart because the letter
that opens the time of day is no digit and no designator of the date.
-/

namespace NodePolicy.Duration

open NodePolicy.Text

namespace Iso8601

structure Fraction (digit : Char → Bool) extends Run digit where
  few : digits.length ≤ 9

structure Seconds (digit : Char → Bool) where
  whole : Run digit
  fraction : Option (Fraction digit)

structure Clock (digit : Char → Bool) where
  hours : Option (Run digit)
  minutes : Option (Run digit)
  seconds : Option (Seconds digit)

structure Spelling (digit : Char → Bool) where
  negative : Bool
  years : Option (Run digit)
  months : Option (Run digit)
  weeks : Option (Run digit)
  days : Option (Run digit)
  clock : Option (Clock digit)

section Spelled
variable {digit : Char → Bool}

def countText (designator : Char) : Option (Run digit) → List Char
  | none => []
  | some run => run.digits ++ [designator]

@[simp] theorem countText_none (designator : Char) :
    countText designator (none : Option (Run digit)) = [] := rfl

def fractionText : Option (Fraction digit) → List Char
  | none => []
  | some fraction => '.' :: fraction.digits

def secondsText : Option (Seconds digit) → List Char
  | none => []
  | some seconds => seconds.whole.digits ++ fractionText seconds.fraction ++ ['S']

def Clock.text (clock : Clock digit) : List Char :=
  countText 'H' clock.hours ++ countText 'M' clock.minutes ++ secondsText clock.seconds

def clockText : Option (Clock digit) → List Char
  | none => []
  | some clock => 'T' :: clock.text

def Spelling.unsignedText (spelling : Spelling digit) : List Char :=
  'P' :: (countText 'Y' spelling.years ++ countText 'M' spelling.months ++
    countText 'W' spelling.weeks ++ countText 'D' spelling.days ++ clockText spelling.clock)

def Spelling.text (spelling : Spelling digit) : List Char :=
  if spelling.negative then '-' :: spelling.unsignedText else spelling.unsignedText

def countTerms (unit : TimeUnit) : Option (Run digit) → List Term
  | none => []
  | some run => [⟨run.digits, unit⟩]

/-- The digits behind the point count nanoseconds once zeros fill them up to nine. -/
def filled (fraction : Fraction digit) : List Char :=
  fraction.digits ++ List.replicate (9 - fraction.digits.length) '0'

def fractionTerms : Option (Fraction digit) → List Term
  | none => []
  | some fraction => [⟨filled fraction, .nanosecond⟩]

def spelledSeconds : Option (Seconds digit) → List Term
  | none => []
  | some seconds => ⟨seconds.whole.digits, .second⟩ :: fractionTerms seconds.fraction

def Clock.terms (clock : Clock digit) : List Term :=
  countTerms .hour clock.hours ++ countTerms .minute clock.minutes ++ spelledSeconds clock.seconds

def clockTerms : Option (Clock digit) → List Term
  | none => []
  | some clock => clock.terms

def Spelling.terms (spelling : Spelling digit) : List Term :=
  countTerms .year spelling.years ++ countTerms .month spelling.months ++
    countTerms .week spelling.weeks ++ countTerms .day spelling.days ++ clockTerms spelling.clock

/-- A count is not empty, and holds digits of the kind besides the zeros that fill up a fraction. -/
def Digits (digit : Char → Bool) (terms : List Term) : Prop :=
  ∀ term ∈ terms, term.count ≠ [] ∧ ∀ c ∈ term.count, digit c = true ∨ c = '0'

theorem digits_append (first second : List Term) (before : Digits digit first)
    (behind : Digits digit second) : Digits digit (first ++ second) := by
  intro term member
  rcases List.mem_append.mp member with here | there
  · exact before term here
  · exact behind term there

theorem countTerms_digits (unit : TimeUnit) (count : Option (Run digit)) :
    Digits digit (countTerms unit count) := by
  intro term member
  cases count with
  | none => cases member
  | some run =>
      rw [countTerms, List.mem_singleton] at member
      subst term
      exact ⟨run.nonempty, fun c digits => Or.inl (run.ofKind c digits)⟩

theorem fractionTerms_digits (fraction : Option (Fraction digit)) :
    Digits digit (fractionTerms fraction) := by
  intro term member
  cases fraction with
  | none => cases member
  | some fraction =>
      rw [fractionTerms, List.mem_singleton] at member
      subst term
      refine ⟨List.append_ne_nil_of_left_ne_nil fraction.nonempty _, ?_⟩
      intro c digits
      rcases List.mem_append.mp digits with own | zero
      · exact Or.inl (fraction.ofKind c own)
      · exact Or.inr (List.eq_of_mem_replicate zero)

theorem spelledSeconds_digits (seconds : Option (Seconds digit)) :
    Digits digit (spelledSeconds seconds) := by
  cases seconds with
  | none => exact countTerms_digits .second none
  | some seconds =>
      exact digits_append [_] _ (countTerms_digits .second (some seconds.whole))
        (fractionTerms_digits seconds.fraction)

theorem clockTerms_digits (clock : Option (Clock digit)) : Digits digit (clockTerms clock) := by
  cases clock with
  | none => exact countTerms_digits .hour none
  | some clock =>
      exact digits_append _ _
        (digits_append _ _ (countTerms_digits .hour clock.hours)
          (countTerms_digits .minute clock.minutes))
        (spelledSeconds_digits clock.seconds)

theorem terms_digits (spelling : Spelling digit) : Digits digit spelling.terms := by
  have years := countTerms_digits .year spelling.years
  have months := countTerms_digits .month spelling.months
  have weeks := countTerms_digits .week spelling.weeks
  have days := countTerms_digits .day spelling.days
  have date := digits_append _ _ (digits_append _ _ (digits_append _ _ years months) weeks) days
  exact digits_append _ _ date (clockTerms_digits spelling.clock)

/-! Reading what is written -/

def Declines (designator : Char) (text : List Char) : Prop :=
  ∀ unit, takeCount designator unit text = ([], text)

theorem declines_nil (designator : Char) : Declines designator [] := fun _ => rfl

theorem declines_letter (designator letter : Char) (rest : List Char)
    (stops : isDecimalDigit letter = false) : Declines designator (letter :: rest) := by
  intro unit
  simp [takeCount, stops]

section Decimal
variable (decimal : ∀ c, digit c = true → isDecimalDigit c = true)
include decimal

theorem decimal_run (run : Run digit) : ∀ c ∈ run.digits, isDecimalDigit c = true :=
  fun c member => decimal c (run.ofKind c member)

theorem takeCount_run (designator letter : Char) (unit : TimeUnit) (run : Run digit)
    (rest : List Char) (stops : isDecimalDigit letter = false) :
    takeCount designator unit (run.digits ++ letter :: rest) =
      if letter = designator then ([⟨run.digits, unit⟩], rest)
      else ([], run.digits ++ letter :: rest) := by
  have before := run_before_stop run.digits letter rest (decimal_run decimal run) stops
  have after := text_after_run run.digits letter rest (decimal_run decimal run) stops
  rw [takeCount, before, after]
  simp [run.nonempty]

theorem declines_count (designator letter : Char) (count : Option (Run digit)) (rest : List Char)
    (other : letter ≠ designator) (stops : isDecimalDigit letter = false)
    (declined : Declines designator rest) : Declines designator (countText letter count ++ rest) := by
  intro unit
  cases count with
  | none => exact declined unit
  | some run =>
      have taken := takeCount_run decimal designator letter unit run rest stops
      rw [if_neg other] at taken
      simpa [countText] using taken

theorem takeCount_count (designator : Char) (unit : TimeUnit) (count : Option (Run digit))
    (rest : List Char) (stops : isDecimalDigit designator = false)
    (declined : Declines designator rest) :
    takeCount designator unit (countText designator count ++ rest) =
      (countTerms unit count, rest) := by
  cases count with
  | none => exact declined unit
  | some run =>
      have taken := takeCount_run decimal designator designator unit run rest stops
      rw [if_pos rfl] at taken
      simpa [countText, countTerms] using taken

theorem takeSeconds_text (seconds : Option (Seconds digit)) :
    takeSeconds (secondsText seconds) = (spelledSeconds seconds, []) := by
  cases seconds with
  | none => rfl
  | some seconds =>
      obtain ⟨whole, fraction⟩ := seconds
      have digits := decimal_run decimal whole
      cases fraction with
      | none =>
          have before := run_before_stop whole.digits 'S' [] digits (by decide)
          have after := text_after_run whole.digits 'S' [] digits (by decide)
          simp only [secondsText, fractionText, List.append_nil, takeSeconds, before, after]
          simp [whole.nonempty, spelledSeconds, fractionTerms]
      | some fraction =>
          have point := decimal_run decimal fraction.toRun
          have before := run_before_stop whole.digits '.' (fraction.digits ++ ['S']) digits
            (by decide)
          have after := text_after_run whole.digits '.' (fraction.digits ++ ['S']) digits
            (by decide)
          have behind := run_before_stop fraction.digits 'S' [] point (by decide)
          have letter := text_after_run fraction.digits 'S' [] point (by decide)
          simp only [secondsText, fractionText, List.append_assoc, List.cons_append, takeSeconds,
            before, after, behind, letter]
          simp [whole.nonempty, fraction.nonempty, fraction.few, spelledSeconds, fractionTerms,
            filled]

theorem declines_seconds (designator : Char) (seconds : Option (Seconds digit))
    (noPoint : '.' ≠ designator) (noSecond : 'S' ≠ designator) :
    Declines designator (secondsText seconds) := by
  intro unit
  cases seconds with
  | none => rfl
  | some seconds =>
      obtain ⟨whole, fraction⟩ := seconds
      rw [secondsText, List.append_assoc]
      cases fraction with
      | none =>
          exact (takeCount_run decimal designator 'S' unit whole [] (by decide)).trans
            (if_neg noSecond)
      | some fraction =>
          exact (takeCount_run decimal designator '.' unit whole _ (by decide)).trans
            (if_neg noPoint)

theorem takeTime_text (clock : Option (Clock digit)) :
    takeTime (clockText clock) = (clockTerms clock, []) := by
  cases clock with
  | none => rfl
  | some clock =>
      have declinesMinutes := declines_count decimal 'H' 'M' clock.minutes
        (secondsText clock.seconds) (by decide) (by decide)
        (declines_seconds decimal 'H' clock.seconds (by decide) (by decide))
      have takeHours := takeCount_count decimal 'H' .hour clock.hours _ (by decide) declinesMinutes
      have takeMinutes := takeCount_count decimal 'M' .minute clock.minutes _ (by decide)
        (declines_seconds decimal 'M' clock.seconds (by decide) (by decide))
      simp only [clockText, clockTerms, Clock.text, Clock.terms, takeTime, List.append_assoc,
        takeHours, takeMinutes, takeSeconds_text decimal]

theorem unsignedTerms_text (spelling : Spelling digit) :
    unsignedTerms? spelling.unsignedText = some spelling.terms := by
  have declinesClock : ∀ letter, Declines letter (clockText spelling.clock) := by
    intro letter
    cases spelling.clock with
    | none => exact declines_nil letter
    | some clock => exact declines_letter letter 'T' clock.text (by decide)
  -- From the back to the front: what follows a component is declined by its designator.
  have declinesDays : ∀ letter, 'D' ≠ letter → Declines letter
      (countText 'D' spelling.days ++ clockText spelling.clock) := fun letter other =>
    declines_count decimal letter 'D' spelling.days _ other (by decide) (declinesClock letter)
  have declinesWeeks : ∀ letter, 'W' ≠ letter → 'D' ≠ letter → Declines letter
      (countText 'W' spelling.weeks ++ (countText 'D' spelling.days ++ clockText spelling.clock)) :=
    fun letter noWeek noDay =>
      declines_count decimal letter 'W' spelling.weeks _ noWeek (by decide)
        (declinesDays letter noDay)
  have declinesMonths := declines_count decimal 'Y' 'M' spelling.months _ (by decide) (by decide)
    (declinesWeeks 'Y' (by decide) (by decide))
  have takeYears := takeCount_count decimal 'Y' .year spelling.years _ (by decide) declinesMonths
  have takeMonths := takeCount_count decimal 'M' .month spelling.months _ (by decide)
    (declinesWeeks 'M' (by decide) (by decide))
  have takeWeeks := takeCount_count decimal 'W' .week spelling.weeks _ (by decide)
    (declinesDays 'W' (by decide))
  have takeDays := takeCount_count decimal 'D' .day spelling.days _ (by decide) (declinesClock 'D')
  simp only [Spelling.unsignedText, Spelling.terms, unsignedTerms?, List.append_assoc, takeYears,
    takeMonths, takeWeeks, takeDays, takeTime_text decimal, if_true]

theorem terms_text (spelling : Spelling digit) :
    terms? spelling.text = some (spelling.negative, spelling.terms) := by
  have magnitude := unsignedTerms_text decimal spelling
  rw [Spelling.text]
  cases spelling.negative with
  | true => simp only [if_true, terms?, magnitude, Option.map_some]
  | false => exact congrArg (Option.map (false, ·)) magnitude

end Decimal

end Spelled

/-! Only what is written is read -/

theorem run_of_takeWhile (text : List Char) :
    ∀ c ∈ text.takeWhile isDecimalDigit, isDecimalDigit c = true := by
  intro c member
  exact List.all_eq_true.mp List.all_takeWhile c member

theorem takeCount_split (designator : Char) (unit : TimeUnit) (text : List Char) :
    ∃ count : Option (Run isDecimalDigit),
      text = countText designator count ++ (takeCount designator unit text).2 ∧
        (takeCount designator unit text).1 = countTerms unit count := by
  have parts := List.takeWhile_append_dropWhile (p := isDecimalDigit) (l := text)
  have digits := run_of_takeWhile text
  simp only [takeCount]
  split
  · next letter rest behind =>
      rw [behind] at parts
      split
      · next taken =>
          obtain ⟨some, rfl⟩ := taken
          refine ⟨Option.some ⟨_, some, digits⟩, ?_, rfl⟩
          simp [countText, parts]
      · exact ⟨none, rfl, rfl⟩
  · exact ⟨none, rfl, rfl⟩

theorem takeSeconds_split (text : List Char) :
    ∃ seconds : Option (Seconds isDecimalDigit),
      text = secondsText seconds ++ (takeSeconds text).2 ∧
        (takeSeconds text).1 = spelledSeconds seconds := by
  have parts := List.takeWhile_append_dropWhile (p := isDecimalDigit) (l := text)
  have digits := run_of_takeWhile text
  simp only [takeSeconds]
  split
  · next afterPoint behind =>
      rw [behind] at parts
      have pointParts := List.takeWhile_append_dropWhile (p := isDecimalDigit) (l := afterPoint)
      have pointDigits := run_of_takeWhile afterPoint
      split
      · next rest letter =>
          rw [letter] at pointParts
          split
          · next taken =>
              refine ⟨some ⟨⟨_, taken.1, digits⟩, some ⟨⟨_, taken.2.1, pointDigits⟩, taken.2.2⟩⟩,
                ?_, rfl⟩
              simp [secondsText, fractionText, pointParts, parts]
          · exact ⟨none, rfl, rfl⟩
      · exact ⟨none, rfl, rfl⟩
  · next rest behind =>
      rw [behind] at parts
      split
      · next taken =>
          refine ⟨some ⟨⟨_, taken, digits⟩, none⟩, ?_, rfl⟩
          simp [secondsText, fractionText, parts]
      · exact ⟨none, rfl, rfl⟩
  · exact ⟨none, rfl, rfl⟩

theorem takeTime_split (text : List Char) :
    ∃ clock : Option (Clock isDecimalDigit),
      text = clockText clock ++ (takeTime text).2 ∧ (takeTime text).1 = clockTerms clock := by
  unfold takeTime
  split
  · next after =>
      obtain ⟨hours, firstText, firstTerms⟩ := takeCount_split 'H' .hour after
      obtain ⟨minutes, secondText, secondTerms⟩ :=
        takeCount_split 'M' .minute (takeCount 'H' .hour after).2
      obtain ⟨seconds, thirdText, thirdTerms⟩ :=
        takeSeconds_split (takeCount 'M' .minute (takeCount 'H' .hour after).2).2
      refine ⟨some ⟨hours, minutes, seconds⟩, ?_, ?_⟩
      · simp only [clockText, Clock.text, List.cons_append, List.append_assoc, ← thirdText,
          ← secondText, ← firstText]
      · simp only [clockTerms, Clock.terms, firstTerms, secondTerms, thirdTerms]
  · exact ⟨none, rfl, rfl⟩

theorem unsignedTerms_eq (date : List Char) :
    unsignedTerms? ('P' :: date) =
      let years := takeCount 'Y' .year date
      let months := takeCount 'M' .month years.2
      let weeks := takeCount 'W' .week months.2
      let days := takeCount 'D' .day weeks.2
      let time := takeTime days.2
      if time.2 = [] then some (years.1 ++ months.1 ++ weeks.1 ++ days.1 ++ time.1) else none := rfl

theorem unsignedTerms_split (text : List Char) (terms : List Term)
    (found : unsignedTerms? text = some terms) (negative : Bool) :
    ∃ spelling : Spelling isDecimalDigit, spelling.negative = negative ∧
      spelling.unsignedText = text ∧ spelling.terms = terms := by
  obtain ⟨date, rfl⟩ : ∃ date, text = 'P' :: date := by
    unfold unsignedTerms? at found
    split at found
    · exact ⟨_, rfl⟩
    · cases found
  rw [unsignedTerms_eq] at found
  extract_lets afterYears afterMonths afterWeeks afterDays afterTime at found
  obtain ⟨years, yearsText, yearsTerms⟩ := takeCount_split 'Y' .year date
  obtain ⟨months, monthsText, monthsTerms⟩ := takeCount_split 'M' .month afterYears.2
  obtain ⟨weeks, weeksText, weeksTerms⟩ := takeCount_split 'W' .week afterMonths.2
  obtain ⟨days, daysText, daysTerms⟩ := takeCount_split 'D' .day afterWeeks.2
  obtain ⟨clock, clocksText, clocksTerms⟩ := takeTime_split afterDays.2
  split at found
  · next whole =>
      rw [whole, List.append_nil] at clocksText
      refine ⟨⟨negative, years, months, weeks, days, clock⟩, rfl, ?_, ?_⟩
      · simp only [Spelling.unsignedText, List.append_assoc]
        rw [← clocksText, ← daysText, ← weeksText, ← monthsText, ← yearsText]
      · rw [Spelling.terms, ← yearsTerms, ← monthsTerms, ← weeksTerms, ← daysTerms, ← clocksTerms]
        exact Option.some.inj found
  · cases found

/-- A text is read exactly when it is one of a spelling, and then as the spelling's terms. -/
theorem terms_eq_some_iff (text : List Char) (negative : Bool) (terms : List Term) :
    terms? text = some (negative, terms) ↔
      ∃ spelling : Spelling isDecimalDigit, spelling.text = text ∧
        spelling.negative = negative ∧ spelling.terms = terms := by
  constructor
  · intro found
    unfold terms? at found
    split at found
    · next rest =>
        simp only [Option.map_eq_some_iff, Prod.mk.injEq] at found
        obtain ⟨_, magnitude, rfl, rfl⟩ := found
        obtain ⟨spelling, sign, rfl, same⟩ := unsignedTerms_split rest _ magnitude true
        exact ⟨spelling, by rw [Spelling.text, if_pos sign], sign, same⟩
    · simp only [Option.map_eq_some_iff, Prod.mk.injEq] at found
      obtain ⟨_, magnitude, rfl, rfl⟩ := found
      obtain ⟨spelling, sign, rfl, same⟩ := unsignedTerms_split text _ magnitude false
      exact ⟨spelling, by rw [Spelling.text, if_neg (by simp [sign])], sign, same⟩
  · rintro ⟨spelling, rfl, rfl, rfl⟩
    exact terms_text (fun _ digit => digit) spelling

theorem holdsNegative_iff (text : List Char) :
    holdsNegative text = true ↔ ['-', 'P'] <:+: text := by
  induction text with
  | nil => simp [holdsNegative]
  | cons c rest ih =>
      rw [List.infix_cons_iff, ← ih]
      by_cases opening : ['-', 'P'] <+: c :: rest
      · obtain ⟨more, same⟩ := opening
        rw [← same]
        simp [holdsNegative]
      · have other : ∀ more, c = '-' → rest = 'P' :: more → False := by
          rintro more rfl rfl
          exact opening ⟨more, rfl⟩
        rw [holdsNegative.eq_2 c rest other]
        simp [opening]

theorem isAnnounced_iff (text : List Char) :
    isAnnounced text = true ↔ ['P'] <+: text ∨ ['-', 'P'] <:+: text := by
  rw [isAnnounced, Bool.or_eq_true, holdsNegative_iff, beq_iff_eq]
  cases text with
  | nil => simp
  | cons c rest => simp [eq_comm]

theorem announced_letter (text : List Char) (announced : isAnnounced text = true) :
    'P' ∈ text := by
  rcases (isAnnounced_iff text).mp announced with opening | inside
  · exact opening.subset (by simp)
  · exact inside.subset (by simp)

theorem text_announced {digit : Char → Bool} (spelling : Spelling digit) :
    isAnnounced spelling.text = true := by
  rw [Spelling.text]
  split <;> rfl

theorem read_announced (text : String) (announced : isAnnounced text.toList = true) :
    Duration.read text = read text := by
  have nonempty : text.toList ≠ [] := by
    intro empty
    rw [empty] at announced
    cases announced
  simp only [Duration.read, if_neg nonempty, if_pos announced]

end Iso8601

end NodePolicy.Duration
