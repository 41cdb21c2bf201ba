import NodePolicy.Proofs.Patterns
import NodePolicy.Proofs.PlainText

/-!
Which form a text is read in. The three patterns exclude one another, so the order in which a reader
tries them makes no difference; a text gets a value only when it is written in plain characters, and
a text outside the patterns is refused for the form it announces.
-/

namespace NodePolicy.Duration

open NodePolicy.Text

inductive Form where
  | iso8601 | seconds | compact
  deriving DecidableEq

namespace Form

def pattern : Form → Language Char
  | iso8601 => Pattern.iso8601
  | seconds => Pattern.bare
  | compact => Pattern.compact

def recognises (text : List Char) : Form → Bool
  | iso8601 => Iso8601.isAnnounced text
  | seconds => (Seconds.numeral? text).isSome
  | compact => (Compact.groups? text).isSome

/-- What a form makes of a text, if the text is its concern at all. -/
def attempt (text : String) : Form → Option (Except DurationError Duration)
  | iso8601 => if Iso8601.isAnnounced text.toList then some (Iso8601.read text) else none
  | seconds => (Seconds.numeral? text.toList).map (Seconds.read text)
  | compact => (Compact.groups? text.toList).map (Compact.read text)

theorem attempt_isSome (form : Form) (text : String) :
    (form.attempt text).isSome = form.recognises text.toList := by
  cases form with
  | iso8601 =>
      rw [attempt, recognises]
      split
      · next announced => exact announced.symm
      · next other => exact (Bool.eq_false_iff.mpr other).symm
  | seconds => exact Option.isSome_map
  | compact => exact Option.isSome_map

end Form

def readInOrder (order : List Form) (text : String) : Except DurationError Duration :=
  if text.toList = [] then .error .empty
  else (order.findSome? (Form.attempt text)).getD (.error (.invalidFormat text))

theorem read_in_order (text : String) :
    Duration.read text = readInOrder [.iso8601, .seconds, .compact] text := by
  rw [Duration.read, readInOrder]
  by_cases empty : text.toList = []
  · rw [if_pos empty, if_pos empty]
  · rw [if_neg empty, if_neg empty]
    by_cases announced : Iso8601.isAnnounced text.toList = true
    · simp [Form.attempt, announced]
    · simp only [Form.attempt, if_neg announced, List.findSome?_cons, List.findSome?_nil]
      cases Seconds.numeral? text.toList with
      | some numeral => rfl
      | none => cases Compact.groups? text.toList <;> rfl

theorem numeral_unannounced (text : List Char) (number : (Seconds.numeral? text).isSome) :
    ¬ Iso8601.isAnnounced text = true := by
  intro announced
  obtain ⟨numeral, found⟩ := Option.isSome_iff_exists.mp number
  have letter := Seconds.numeral_chars text numeral found 'P' (Iso8601.announced_letter text announced)
  exact absurd letter (by decide +kernel)

theorem groups_unannounced (text : List Char) (compact : (Compact.groups? text).isSome) :
    ¬ Iso8601.isAnnounced text = true := by
  intro announced
  obtain ⟨found, cut⟩ := Option.isSome_iff_exists.mp compact
  obtain ⟨_, matched, rfl⟩ := (Compact.groups_eq_some_iff text found).mp cut
  have letter := Compact.matched_chars found matched 'P' (Iso8601.announced_letter _ announced)
  exact absurd letter (by decide +kernel)

theorem groups_no_numeral (text : List Char) (compact : (Compact.groups? text).isSome) :
    ¬ (Seconds.numeral? text).isSome := by
  intro number
  obtain ⟨found, cut⟩ := Option.isSome_iff_exists.mp compact
  obtain ⟨numeral, spelled⟩ := Option.isSome_iff_exists.mp number
  obtain ⟨some, matched, rfl⟩ := (Compact.groups_eq_some_iff text found).mp cut
  obtain ⟨group, rest, rfl⟩ := List.exists_cons_of_ne_nil some
  have here := matched group List.mem_cons_self
  obtain ⟨c, spelling, opening⟩ := List.exists_cons_of_ne_nil here.apart.named
  have member : c ∈ group.unit := by rw [opening]; exact List.mem_cons_self
  have inside : c ∈ Compact.textOf (group :: rest) :=
    List.mem_flatMap.mpr ⟨group, List.mem_cons_self, List.mem_append_right group.count member⟩
  have letter := here.folds c member
  -- The first letter of a unit stands in no number.
  rcases Seconds.numeral_chars _ numeral spelled c inside with rfl | rfl | digit
  · exact absurd letter (by decide)
  · exact absurd letter (by decide)
  · rw [here.apart.plain c member] at digit
    cases digit

theorem recognises_unique (text : List Char) (first second : Form)
    (tried : first.recognises text = true) (again : second.recognises text = true) :
    first = second := by
  have number := numeral_unannounced text
  have compact := groups_unannounced text
  have compactNumber := groups_no_numeral text
  -- Of the nine pairs three are equal, and each exclusion rules out two of the others.
  cases first <;> cases second <;> simp_all [Form.recognises]

theorem pattern_recognised (form : Form) (text : List Char) (matched : text ∈ form.pattern) :
    form.recognises text = true := by
  cases form with
  | iso8601 =>
      obtain ⟨spelling, rfl⟩ := (Pattern.Iso8601.mem_iso8601_iff text).mp matched
      exact Iso8601.text_announced spelling
  | seconds => exact (Pattern.mem_bare_iff text).mp matched
  | compact => exact (Pattern.mem_compact_iff text).mp matched

/-- The form that recognises a text decides, wherever it stands in the order. -/
theorem readInOrder_of_attempt (order : List Form) (text : String) (form : Form)
    (result : Except DurationError Duration) (member : form ∈ order)
    (taken : form.attempt text = some result) : readInOrder order text = result := by
  have recognised : form.recognises text.toList = true := by
    rw [← Form.attempt_isSome, taken]
    rfl
  have nonempty : text.toList ≠ [] := by
    intro empty
    rw [empty] at recognised
    cases form <;> cases recognised
  rw [readInOrder, if_neg nonempty]
  cases first : order.findSome? (Form.attempt text) with
  | none =>
      rw [List.findSome?_eq_none_iff] at first
      rw [first form member] at taken
      cases taken
  | some found =>
      obtain ⟨other, _, again⟩ := List.exists_of_findSome?_eq_some first
      have same : other = form := by
        apply recognises_unique text.toList other form _ recognised
        rw [← Form.attempt_isSome, again]
        rfl
      rw [same, taken] at again
      cases again
      rfl

theorem readInOrder_of_none (order : List Form) (text : String)
    (other : ∀ form : Form, form.recognises text.toList = false) (nonempty : text.toList ≠ []) :
    readInOrder order text = .error (.invalidFormat text) := by
  have none : order.findSome? (Form.attempt text) = none := by
    rw [List.findSome?_eq_none_iff]
    intro form _
    rw [← Option.not_isSome_iff_eq_none, Form.attempt_isSome, other form]
    exact Bool.false_ne_true
  rw [readInOrder, if_neg nonempty, none]
  rfl

theorem readInOrder_eq (order : List Form) (complete : ∀ form, form ∈ order) (text : String) :
    readInOrder order text = Duration.read text := by
  rw [read_in_order]
  by_cases empty : text.toList = []
  · rw [readInOrder, readInOrder, if_pos empty, if_pos empty]
  by_cases recognised : ∃ form : Form, form.recognises text.toList = true
  · obtain ⟨form, taken⟩ := recognised
    rw [← Form.attempt_isSome, Option.isSome_iff_exists] at taken
    obtain ⟨result, taken⟩ := taken
    rw [readInOrder_of_attempt order text form result (complete form) taken,
      readInOrder_of_attempt _ text form result (by cases form <;> simp) taken]
  · have other : ∀ form : Form, form.recognises text.toList = false := fun form =>
      Bool.eq_false_iff.mpr fun taken => recognised ⟨form, taken⟩
    rw [readInOrder_of_none order text other empty, readInOrder_of_none _ text other empty]

theorem read_of_attempt (text : String) (form : Form) (result : Except DurationError Duration)
    (taken : form.attempt text = some result) : Duration.read text = result := by
  rw [read_in_order]
  exact readInOrder_of_attempt _ text form result (by cases form <;> simp) taken

theorem read_announced_outside (text : String) (announced : Iso8601.isAnnounced text.toList = true)
    (outside : text.toList ∉ Pattern.iso8601) :
    Duration.read text = .error (.invalidIso8601 text) := by
  rw [← Pattern.Iso8601.recognised_iff, Option.not_isSome_iff_eq_none] at outside
  rw [Iso8601.read_announced text announced, Iso8601.read, outside]

theorem read_outside (text : String) (nonempty : text ≠ "")
    (unannounced : ¬ Iso8601.isAnnounced text.toList = true) (noNumber : text.toList ∉ Pattern.bare)
    (noGroups : text.toList ∉ Pattern.compact) :
    Duration.read text = .error (.invalidFormat text) := by
  rw [read_in_order]
  apply readInOrder_of_none
  · intro form
    rw [Bool.eq_false_iff]
    cases form with
    | iso8601 => exact unannounced
    | seconds => exact fun number => noNumber ((Pattern.mem_bare_iff _).mpr number)
    | compact => exact fun groups => noGroups ((Pattern.mem_compact_iff _).mpr groups)
  · exact fun empty => nonempty (String.toList_eq_nil_iff.mp empty)

theorem attempt_of_pattern (text : String) (form : Form) (matched : text.toList ∈ form.pattern) :
    ∃ result, form.attempt text = some result ∧ Duration.read text = result := by
  have recognised := pattern_recognised form text.toList matched
  rw [← Form.attempt_isSome, Option.isSome_iff_exists] at recognised
  obtain ⟨result, taken⟩ := recognised
  exact ⟨result, taken, read_of_attempt text form result taken⟩

/-- A plain text of a pattern has a value, unless it is too long. -/
theorem read_matched (text : String) (form : Form) (matched : text.toList ∈ form.pattern)
    (plain : Plain text.toList) :
    (∃ duration, Duration.read text = .ok duration) ∨
      Duration.read text = .error (.outOfRange text) := by
  obtain ⟨result, taken, rfl⟩ := attempt_of_pattern text form matched
  cases form with
  | iso8601 =>
      rw [Form.attempt] at taken
      split at taken
      · rw [← Option.some.inj taken]
        exact Iso8601.read_outcome text ((Pattern.Iso8601.recognised_iff _).mpr matched)
      · cases taken
  | seconds =>
      obtain ⟨numeral, found, same⟩ := Option.map_eq_some_iff.mp taken
      rw [← same]
      exact Seconds.read_outcome text numeral found plain
  | compact =>
      obtain ⟨groups, cut, same⟩ := Option.map_eq_some_iff.mp taken
      rw [← same]
      exact Compact.read_outcome text groups cut plain

/-- A text with a value is a plain text of one of the patterns. -/
theorem matched_of_read (text : String) (duration : Duration)
    (denotes : Duration.read text = .ok duration) :
    (∃ form : Form, text.toList ∈ form.pattern) ∧ Plain text.toList := by
  simp only [Duration.read] at denotes
  split at denotes
  · cases denotes
  · split at denotes
    · refine ⟨⟨.iso8601, ?_⟩, Iso8601.read_plain text duration denotes⟩
      by_contra outside
      rw [Form.pattern, ← Pattern.Iso8601.recognised_iff, Option.not_isSome_iff_eq_none] at outside
      rw [Iso8601.read, outside] at denotes
      cases denotes
    · split at denotes
      · next numeral found =>
          refine ⟨⟨.seconds, ?_⟩, Seconds.read_plain text numeral found duration denotes⟩
          exact (Pattern.mem_bare_iff _).mpr (Option.isSome_of_eq_some found)
      · split at denotes
        · next groups cut =>
            refine ⟨⟨.compact, ?_⟩, Compact.read_plain text groups cut duration denotes⟩
            exact (Pattern.mem_compact_iff _).mpr (Option.isSome_of_eq_some cut)
        · cases denotes

/-- Reading takes the texts of three patterns that exclude one another, whatever order they are tried
in, and among them the plain ones; every other text is refused by what it announces. -/
theorem read_forms (text : String) :
    (∀ first second : Form,
        text.toList ∈ first.pattern → text.toList ∈ second.pattern → first = second) ∧
      (∀ order : List Form, (∀ form, form ∈ order) →
        readInOrder order text = Duration.read text) ∧
      (∀ duration, Duration.read text = .ok duration →
        (∃ form : Form, text.toList ∈ form.pattern) ∧ Plain text.toList) ∧
      ((∃ form : Form, text.toList ∈ form.pattern) → Plain text.toList →
        (∃ duration, Duration.read text = .ok duration) ∨
          Duration.read text = .error (.outOfRange text)) ∧
      (text = "" → Duration.read text = .error .empty) ∧
      (['P'] <+: text.toList ∨ ['-', 'P'] <:+: text.toList → text.toList ∉ Pattern.iso8601 →
        Duration.read text = .error (.invalidIso8601 text)) ∧
      (text ≠ "" → ¬ (['P'] <+: text.toList ∨ ['-', 'P'] <:+: text.toList) →
        text.toList ∉ Pattern.bare → text.toList ∉ Pattern.compact →
        Duration.read text = .error (.invalidFormat text)) := by
  simp only [← Iso8601.isAnnounced_iff]
  refine ⟨?_, ?_, matched_of_read text, ?_, ?_, read_announced_outside text, read_outside text⟩
  · intro first second tried again
    exact recognises_unique text.toList first second
      (pattern_recognised first text.toList tried) (pattern_recognised second text.toList again)
  · intro order complete
    exact readInOrder_eq order complete text
  · rintro ⟨form, matched⟩ plain
    exact read_matched text form matched plain
  · rintro rfl
    rfl

theorem read_forms_samples :
    "1h30m".toList ∉ Form.seconds.pattern ∧
      readInOrder [.compact, .seconds, .iso8601] "1h30m" = Duration.read "1h30m" ∧
      ((∃ form : Form, "1h30m".toList ∈ form.pattern) ∧ Plain "1h30m".toList) ∧
      ((∃ duration, Duration.read "1h30m" = .ok duration) ∨
        Duration.read "1h30m" = .error (.outOfRange "1h30m")) ∧
      Duration.read "" = .error .empty ∧
      Duration.read "P1S" = .error (.invalidIso8601 "P1S") ∧
      Duration.read "1h 30m" = .error (.invalidFormat "1h 30m") := by
  have compact : "1h30m".toList ∈ Form.compact.pattern :=
    (Pattern.mem_compact_iff _).mpr (by decide +kernel)
  have denotes : Duration.read "1h30m" = .ok ⟨5400000000000, by decide, by decide⟩ := by
    decide +kernel
  have outside : "P1S".toList ∉ Pattern.iso8601 :=
    fun matched => absurd ((Pattern.Iso8601.recognised_iff _).mpr matched) (by decide +kernel)
  have noNumber : "1h 30m".toList ∉ Pattern.bare :=
    fun matched => absurd ((Pattern.mem_bare_iff _).mp matched) (by decide +kernel)
  have noGroups : "1h 30m".toList ∉ Pattern.compact :=
    fun matched => absurd ((Pattern.mem_compact_iff _).mp matched) (by decide +kernel)
  obtain ⟨exclusive, ordered, valued, plain, _⟩ := read_forms "1h30m"
  obtain ⟨_, _, _, _, empty, _⟩ := read_forms ""
  obtain ⟨_, _, _, _, _, announced, _⟩ := read_forms "P1S"
  obtain ⟨_, _, _, _, _, _, other⟩ := read_forms "1h 30m"
  refine ⟨?_, ordered _ ?_, valued _ denotes,
    plain ⟨.compact, compact⟩ (valued _ denotes).2, empty rfl, announced ?_ outside,
    other (by decide) ?_ noNumber noGroups⟩
  · intro number
    cases exclusive .compact .seconds compact number
  · intro form
    cases form <;> simp
  · exact Or.inl (by decide)
  · rw [← Iso8601.isAnnounced_iff]
    decide

end NodePolicy.Duration
