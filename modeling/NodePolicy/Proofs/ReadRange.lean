import NodePolicy.Proofs.Iso8601
import NodePolicy.Proofs.Outcome

/-!
What reading can produce. Counted units add up to a total that is not negative, a sign can only turn
such a total around, and a number of seconds is held to the same limit on both sides of zero. So the
lowest duration is never read, and every duration that is read comes back from its own text. The
limit on seconds is also what keeps their multiplication, the one that nothing checks, in range.
-/

namespace NodePolicy.Duration

theorem addTerm_nonneg (total sum : Duration) (term : Term) (added : addTerm total term = some sum)
    (nonnegative : 0 ≤ total.nanos) : 0 ≤ sum.nanos := by
  simp only [addTerm, Option.bind_eq_bind, Option.bind_eq_some_iff] at added
  obtain ⟨count, _, share, multiplied, summed⟩ := added
  have product := (ofNanos?_eq_some _ share).mp multiplied
  have exact := (ofNanos?_eq_some _ sum).mp summed
  have shared : 0 ≤ share.nanos := by
    rw [product]
    exact Int.mul_nonneg (Int.natCast_nonneg term.unit.nanos) (Int.natCast_nonneg count)
  rw [exact]
  exact Int.add_nonneg nonnegative shared

theorem foldTerms_nonneg (terms : List Term) (start sum : Duration)
    (summed : terms.foldlM addTerm start = some sum) (nonnegative : 0 ≤ start.nanos) :
    0 ≤ sum.nanos := by
  induction terms generalizing start with
  | nil =>
      cases summed
      exact nonnegative
  | cons term rest ih =>
      rw [List.foldlM_cons, Option.bind_eq_bind, Option.bind_eq_some_iff] at summed
      obtain ⟨next, added, later⟩ := summed
      exact ih next later (addTerm_nonneg start next term added nonnegative)

theorem total_nonneg (terms : List Term) (sum : Duration) (summed : total? terms = some sum) :
    0 ≤ sum.nanos :=
  foldTerms_nonneg terms zero sum summed (Int.le_refl 0)

namespace Compact

theorem addGroup_nonneg (text : String) (total sum : Duration) (group : Group)
    (added : addGroup text total group = .ok sum) (nonnegative : 0 ≤ total.nanos) :
    0 ≤ sum.nanos := by
  rw [addGroup] at added
  split at added
  · cases added
  · next unit _ =>
      split at added
      · next found summed =>
          cases added
          exact addTerm_nonneg total sum ⟨group.count, unit⟩ summed nonnegative
      · cases added

theorem foldGroups_nonneg (text : String) (found : List Group) (start sum : Duration)
    (summed : found.foldlM (addGroup text) start = .ok sum) (nonnegative : 0 ≤ start.nanos) :
    0 ≤ sum.nanos := by
  induction found generalizing start with
  | nil =>
      cases summed
      exact nonnegative
  | cons group rest ih =>
      rw [List.foldlM_cons, bind_ok_iff] at summed
      obtain ⟨next, added, later⟩ := summed
      exact ih next later (addGroup_nonneg text start next group added nonnegative)

end Compact

/-- Durations that have a counterpart of the other sign. -/
def Reachable (duration : Duration) : Prop := -9223372036854775807 ≤ duration.nanos

theorem reachable_of_nonneg (duration : Duration) (nonnegative : 0 ≤ duration.nanos) :
    duration.Reachable := by
  rw [Reachable]
  omega

theorem Iso8601.read_reachable (text : String) (duration : Duration)
    (denotes : Iso8601.read text = .ok duration) : duration.Reachable := by
  rw [Iso8601.read] at denotes
  split at denotes
  · cases denotes
  · next negative terms _ =>
      split at denotes
      · next found summed =>
          cases denotes
          obtain ⟨total, counted, signed⟩ := Option.bind_eq_some_iff.mp summed
          have nonnegative := total_nonneg terms total counted
          have upper := total.upper
          -- The total is turned around as a whole, so it cannot reach further down than up.
          cases negative with
          | true =>
              have turned := (ofNanos?_eq_some _ duration).mp signed
              rw [Reachable, turned]
              omega
          | false =>
              have same : total = duration := Option.some.inj signed
              rw [← same]
              exact reachable_of_nonneg total nonnegative
      · cases denotes

theorem Compact.read_reachable (text : String) (found : List Compact.Group) (duration : Duration)
    (denotes : Compact.read text found = .ok duration) : duration.Reachable :=
  reachable_of_nonneg duration
    (foldGroups_nonneg text found zero duration denotes (Int.le_refl 0))

namespace Seconds

theorem ofSeconds_reachable (seconds : Int) (duration : Duration)
    (few : ofSeconds? seconds = some duration) : duration.Reachable := by
  have length : (TimeUnit.second.nanos : Int) = 1000000000 := rfl
  have most : maxSeconds = 9223372036 := rfl
  rw [ofSeconds?] at few
  split at few
  · next within =>
      cases few
      rw [most] at within
      simp only [Reachable, length]
      omega
  · cases few

theorem read_reachable (text : String) (numeral : Numeral) (duration : Duration)
    (denotes : read text numeral = .ok duration) : duration.Reachable := by
  rw [read] at denotes
  split at denotes
  · cases denotes
  · split at denotes
    · next found rounds =>
        cases denotes
        rw [rounded?] at rounds
        split at rounds
        · exact ofSeconds_reachable _ duration rounds
        · cases rounds
    · cases denotes

end Seconds

theorem read_reachable (text : String) (duration : Duration)
    (denotes : read text = .ok duration) : duration.Reachable := by
  simp only [read] at denotes
  split at denotes
  · cases denotes
  · split at denotes
    · exact Iso8601.read_reachable text duration denotes
    · split at denotes
      · exact Seconds.read_reachable text _ duration denotes
      · split at denotes
        · exact Compact.read_reachable text _ duration denotes
        · cases denotes

namespace Seconds

def word (seconds : Int) : Int := max (-9223372036854775808) (min seconds 9223372036854775807)

/-- Rounding to whole seconds in words: the number is held to the limit, and then its word is
multiplied without a check of the product. -/
def multiplied (value : Binary64) : Except Overflow (Option Duration) :=
  let seconds := (value.add half).truncate
  if value.isFinite ∧ seconds.natAbs ≤ maxSeconds then
    ((ofUnit .second).mul (word seconds)).map some
  else .ok none

def readMultiplying (text : String) (numeral : Numeral) :
    Except Overflow (Except DurationError Duration) :=
  match numeral.value? with
  | none => .ok (.error (.invalidFormat text))
  | some value => (multiplied value).map fun
    | some duration => .ok duration
    | none => .error (.outOfRange text)

theorem word_of_few (seconds : Int) (few : seconds.natAbs ≤ maxSeconds) :
    word seconds = seconds := by
  have most : maxSeconds = 9223372036 := rfl
  rw [word]
  omega

theorem mul_few (seconds : Int) (few : seconds.natAbs ≤ maxSeconds) :
    ((ofUnit .second).mul (word seconds)).map some = .ok (ofSeconds? seconds) := by
  have fits := seconds_fit seconds few
  have product : (ofUnit .second).nanos * seconds = TimeUnit.second.nanos * seconds := rfl
  rw [word_of_few seconds few, mul, product, expectFit, ofNanos_within _ fits.1 fits.2,
    ofSeconds?, dif_pos few]
  rfl

theorem multiplied_rounded (value : Binary64) : multiplied value = .ok (rounded? value) := by
  rw [multiplied, rounded?]
  by_cases finite : value.isFinite = true
  · by_cases few : (value.add half).truncate.natAbs ≤ maxSeconds
    · rw [if_pos ⟨finite, few⟩, if_pos finite]
      exact mul_few _ few
    · rw [if_neg (fun both => few both.2), if_pos finite, ofSeconds?, dif_neg few]
  · rw [if_neg (fun both => finite both.1), if_neg finite]

theorem readMultiplying_read (text : String) (numeral : Numeral) :
    readMultiplying text numeral = .ok (read text numeral) := by
  rw [readMultiplying, read]
  cases numeral.value? with
  | none => rfl
  | some value =>
      simp only [multiplied_rounded]
      rfl

end Seconds

def readMultiplying (text : String) : Except Overflow (Except DurationError Duration) :=
  let characters := text.toList
  if characters = [] then .ok (.error .empty)
  else if Iso8601.isAnnounced characters then .ok (Iso8601.read text)
  else match Seconds.numeral? characters with
    | some numeral => Seconds.readMultiplying text numeral
    | none =>
      match Compact.groups? characters with
      | some found => .ok (Compact.read text found)
      | none => .ok (.error (.invalidFormat text))

theorem readMultiplying_read (text : String) : readMultiplying text = .ok (read text) := by
  simp only [readMultiplying, read]
  split
  · rfl
  · split
    · rfl
    · cases Seconds.numeral? text.toList with
      | some numeral => exact Seconds.readMultiplying_read text numeral
      | none => cases Compact.groups? text.toList <;> rfl

/-- Whatever the text, no product leaves the range; and what is read can be turned around and comes
back from the text that is written for it. -/
theorem read_rereads (text : String) :
    readMultiplying text = .ok (read text) ∧
      ∀ duration, read text = .ok duration →
        (-9223372036854775807 ≤ duration.nanos ∧ duration.nanos ≤ 9223372036854775807) ∧
          read duration.toText = .ok duration := by
  refine ⟨readMultiplying_read text, ?_⟩
  intro duration denotes
  have lower : -9223372036854775807 ≤ duration.nanos := read_reachable text duration denotes
  have upper := duration.upper
  refine ⟨⟨lower, by omega⟩, Iso8601.read_write duration ?_⟩
  omega

/-- The lowest number of seconds, reached by cutting a fraction toward zero. -/
theorem lowest_seconds_rereads :
    let duration : Duration := ⟨-9223372036000000000, by decide, by decide⟩
    read "-9223372036.9" = .ok duration ∧
      (-9223372036854775807 ≤ duration.nanos ∧ duration.nanos ≤ 9223372036854775807) ∧
        read duration.toText = .ok duration := by
  have denotes : read "-9223372036.9" =
      .ok ⟨-9223372036000000000, by decide, by decide⟩ :=
    (toOption_eq_some_iff _ _).mp (by decide +kernel)
  exact ⟨denotes, (read_rereads "-9223372036.9").2 _ denotes⟩

end NodePolicy.Duration
