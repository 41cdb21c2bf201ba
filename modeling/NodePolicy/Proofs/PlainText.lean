import Mathlib.Data.List.Forall2
import NodePolicy.Proofs.Groups
import NodePolicy.Proofs.Numerals
import NodePolicy.Proofs.Outcome

/-!
Plain texts. The patterns admit the digits of every script and every letter that folds to a letter of
a unit, but a count has a value in ASCII digits only and a unit's name only in plain letters. So a
text that gets a value is plain, and a plain text that keeps to a pattern can only be too long.
-/

namespace NodePolicy.Duration

open NodePolicy.Text

/-- ASCII characters and micro signs, and no digits but the ASCII ones. -/
structure Plain (text : List Char) : Prop where
  characters : ∀ c ∈ text, Compact.IsPlain c
  digits : ∀ c ∈ text, isDecimalDigit c = true → c.isDigit = true

theorem ranges_ascii : ∀ range ∈ decimalDigitRanges, range = (48, 57) ∨ 128 ≤ range.1 := by decide

theorem plain_digit (c : Char) (plain : Compact.IsPlain c) (digit : isDecimalDigit c = true) :
    c.isDigit = true := by
  rcases plain with ascii | rfl
  · obtain ⟨range, listed, least, most⟩ := (inClass_iff _ c).mp digit
    rcases ranges_ascii range listed with rfl | beyond
    · rw [Char.isDigit, Bool.and_eq_true]
      exact ⟨decide_eq_true least, decide_eq_true most⟩
    · omega
  · exact absurd digit (by decide +kernel)

theorem plain_of_characters (text : List Char) (characters : ∀ c ∈ text, Compact.IsPlain c) :
    Plain text :=
  ⟨characters, fun c member => plain_digit c (characters c member)⟩

theorem isPlain_digit (c : Char) (digit : c.isDigit = true) : Compact.IsPlain c := by
  have code := digit_range c digit
  exact Or.inl (by omega)

theorem readNatural_some (digits : List Char) (value : Nat) (found : readNatural? digits = some value) :
    digits ≠ [] ∧ ∀ c ∈ digits, c.isDigit = true := by
  rw [readNatural?] at found
  split at found
  · next readable => exact ⟨readable.1, List.all_eq_true.mp readable.2⟩
  · cases found

theorem addTerm_readable (total sum : Duration) (term : Term) (added : addTerm total term = some sum) :
    term.Readable := by
  simp only [addTerm, Option.bind_eq_bind, Option.bind_eq_some_iff] at added
  obtain ⟨count, found, _⟩ := added
  exact readNatural_some term.count count found

theorem foldTerms_readable (terms : List Term) (start sum : Duration)
    (summed : terms.foldlM addTerm start = some sum) : ∀ term ∈ terms, term.Readable := by
  induction terms generalizing start with
  | nil =>
      intro term member
      cases member
  | cons first rest ih =>
      rw [List.foldlM_cons, Option.bind_eq_bind, Option.bind_eq_some_iff] at summed
      obtain ⟨next, added, later⟩ := summed
      exact List.forall_mem_cons.mpr ⟨addTerm_readable start next first added, ih next later⟩

namespace Iso8601

/-- Besides ASCII characters a text holds digits of the terms only. -/
def Covered (text : List Char) (terms : List Term) : Prop :=
  ∀ c ∈ text, c.toNat < 128 ∨ ∃ term ∈ terms, c ∈ term.count

theorem covered_append (first second : List Char) (before behind : List Term)
    (opening : Covered first before) (closing : Covered second behind) :
    Covered (first ++ second) (before ++ behind) := by
  intro c member
  rcases List.mem_append.mp member with here | there
  · exact (opening c here).imp_right fun ⟨term, listed, digit⟩ =>
      ⟨term, List.mem_append_left behind listed, digit⟩
  · exact (closing c there).imp_right fun ⟨term, listed, digit⟩ =>
      ⟨term, List.mem_append_right before listed, digit⟩

theorem covered_cons (letter : Char) (text : List Char) (terms : List Term)
    (ascii : letter.toNat < 128) (covered : Covered text terms) : Covered (letter :: text) terms :=
  List.forall_mem_cons.mpr ⟨Or.inl ascii, covered⟩

section Spelled
variable {digit : Char → Bool}

theorem countText_covered (designator : Char) (unit : TimeUnit) (count : Option (Run digit))
    (ascii : designator.toNat < 128) :
    Covered (countText designator count) (countTerms unit count) := by
  intro c member
  cases count with
  | none => cases member
  | some run =>
      rcases List.mem_append.mp member with digits | letter
      · exact Or.inr ⟨_, List.mem_cons_self, digits⟩
      · rw [List.mem_singleton.mp letter]
        exact Or.inl ascii

theorem fractionText_covered (fraction : Option (Fraction digit)) :
    Covered (fractionText fraction) (fractionTerms fraction) := by
  intro c member
  cases fraction with
  | none => cases member
  | some fraction =>
      rcases List.mem_cons.mp member with rfl | digits
      · exact Or.inl (by decide)
      · exact Or.inr ⟨_, List.mem_cons_self, List.mem_append_left _ digits⟩

theorem secondsText_covered (seconds : Option (Seconds digit)) :
    Covered (secondsText seconds) (spelledSeconds seconds) := by
  cases seconds with
  | none =>
      intro c member
      cases member
  | some seconds =>
      have whole : Covered seconds.whole.digits [⟨seconds.whole.digits, .second⟩] :=
        fun c member => Or.inr ⟨_, List.mem_cons_self, member⟩
      have letter : Covered ['S'] [] := covered_cons 'S' [] [] (by decide) (by simp [Covered])
      have text := covered_append _ _ _ _
        (covered_append _ _ _ _ whole (fractionText_covered seconds.fraction)) letter
      rwa [List.append_nil] at text

theorem clockText_covered (clock : Option (Clock digit)) :
    Covered (clockText clock) (clockTerms clock) := by
  cases clock with
  | none =>
      intro c member
      cases member
  | some clock =>
      exact covered_cons 'T' _ _ (by decide)
        (covered_append _ _ _ _
          (covered_append _ _ _ _ (countText_covered 'H' .hour clock.hours (by decide))
            (countText_covered 'M' .minute clock.minutes (by decide)))
          (secondsText_covered clock.seconds))

theorem text_covered (spelling : Spelling digit) : Covered spelling.text spelling.terms := by
  have years := countText_covered 'Y' .year spelling.years (by decide)
  have months := countText_covered 'M' .month spelling.months (by decide)
  have weeks := countText_covered 'W' .week spelling.weeks (by decide)
  have days := countText_covered 'D' .day spelling.days (by decide)
  have date := covered_append _ _ _ _
    (covered_append _ _ _ _ (covered_append _ _ _ _ years months) weeks) days
  have magnitude := covered_cons 'P' _ _ (by decide)
    (covered_append _ _ _ _ date (clockText_covered spelling.clock))
  rw [Spelling.text]
  split
  · exact covered_cons '-' _ _ (by decide) magnitude
  · exact magnitude

end Spelled

theorem read_plain (text : String) (duration : Duration) (denotes : read text = .ok duration) :
    Plain text.toList := by
  rw [read] at denotes
  split at denotes
  · cases denotes
  · next negative terms form =>
      split at denotes
      · next found summed =>
          obtain ⟨total, counted, _⟩ := Option.bind_eq_some_iff.mp summed
          have readable := foldTerms_readable terms zero total counted
          obtain ⟨spelling, spelled, _, rfl⟩ := (terms_eq_some_iff _ negative terms).mp form
          rw [← spelled]
          apply plain_of_characters
          intro c member
          rcases text_covered spelling c member with ascii | ⟨term, listed, digit⟩
          · exact Or.inl ascii
          · exact isPlain_digit c ((readable term listed).2 c digit)
      · cases denotes

theorem read_outcome (text : String) (recognised : (terms? text.toList).isSome) :
    (∃ duration, read text = .ok duration) ∨ read text = .error (.outOfRange text) := by
  obtain ⟨⟨negative, terms⟩, found⟩ := Option.isSome_iff_exists.mp recognised
  rw [read, found]
  dsimp only
  split
  · exact Or.inl ⟨_, rfl⟩
  · exact Or.inr rfl

end Iso8601

namespace Seconds

theorem text_plain (numeral : Numeral)
    (ascii : ∀ c ∈ numeral.whole ++ numeral.fraction, c.isDigit = true) : Plain numeral.text := by
  apply plain_of_characters
  intro c member
  rcases numeral.mem_text c member with rfl | rfl | digit
  · exact Or.inl (by decide)
  · exact Or.inl (by decide)
  · exact isPlain_digit c (ascii c digit)

section Number
variable (text : String) (numeral : Numeral) (found : numeral? text.toList = some numeral)
include found

theorem read_plain (duration : Duration) (denotes : read text numeral = .ok duration) :
    Plain text.toList := by
  obtain ⟨_, spelled⟩ := (numeral_eq_some_iff _ numeral).mp found
  rw [read] at denotes
  split at denotes
  · cases denotes
  · next value valued =>
      obtain ⟨digits, counted, _⟩ := Option.map_eq_some_iff.mp valued
      rw [← spelled]
      exact text_plain numeral (readNatural_some _ digits counted).2

theorem digits_of_plain (plain : Plain text.toList) :
    ∀ c ∈ numeral.whole ++ numeral.fraction, c.isDigit = true := by
  obtain ⟨spelled, same⟩ := (numeral_eq_some_iff _ numeral).mp found
  intro c member
  apply plain.digits c _ (spelled.decimal c member)
  rw [← same]
  exact numeral.digits_text c member

theorem value_of_plain (plain : Plain text.toList) : ∃ value, numeral.value? = some value := by
  have spelled := ((numeral_eq_some_iff _ numeral).mp found).1
  have ascii := digits_of_plain text numeral found plain
  have counted : numeral.whole ++ numeral.fraction ≠ [] := by
    rw [ne_eq, List.append_eq_nil_iff, not_and_or]
    exact spelled.some
  have valued : readNatural? (numeral.whole ++ numeral.fraction) =
      some (digitsValue (numeral.whole ++ numeral.fraction)) := by
    rw [readNatural?, if_pos ⟨counted, List.all_eq_true.mpr ascii⟩]
  rw [Numeral.value?, valued, Option.map_some]
  exact ⟨_, rfl⟩

theorem read_outcome (plain : Plain text.toList) :
    (∃ duration, read text numeral = .ok duration) ∨
      read text numeral = .error (.outOfRange text) := by
  obtain ⟨value, valued⟩ := value_of_plain text numeral found plain
  rw [read, valued]
  dsimp only
  cases rounded? value with
  | none => exact Or.inr rfl
  | some duration => exact Or.inl ⟨duration, rfl⟩

end Number

end Seconds

namespace Compact

theorem addGroup_readable (text : String) (total sum : Duration) (group : Group)
    (added : addGroup text total group = .ok sum) :
    ∃ unit, unitOf? group.unit = some unit ∧ Term.Readable ⟨group.count, unit⟩ := by
  rw [addGroup] at added
  split at added
  · cases added
  · next unit named =>
      split at added
      · next found summed => exact ⟨unit, named, addTerm_readable total found _ summed⟩
      · cases added

theorem foldGroups_readable (text : String) (found : List Group) (start sum : Duration)
    (summed : found.foldlM (addGroup text) start = .ok sum) :
    ∀ group ∈ found, ∃ unit, unitOf? group.unit = some unit ∧ Term.Readable ⟨group.count, unit⟩ := by
  induction found generalizing start with
  | nil =>
      intro group member
      cases member
  | cons first rest ih =>
      rw [List.foldlM_cons, bind_ok_iff] at summed
      obtain ⟨next, added, later⟩ := summed
      exact List.forall_mem_cons.mpr ⟨addGroup_readable text start next first added, ih next later⟩

def Names (group : Group) (term : Term) : Prop :=
  unitOf? group.unit = some term.unit ∧ group.count = term.count

theorem foldGroups_terms (text : String) (found : List Group) (terms : List Term)
    (named : List.Forall₂ Names found terms) (start : Duration) :
    found.foldlM (addGroup text) start =
      (terms.foldlM addTerm start).elim (.error (.outOfRange text)) .ok := by
  induction named generalizing start with
  | nil => rfl
  | @cons group term found terms here _ ih =>
      obtain ⟨unit, count⟩ := here
      -- A unit that is named leaves the range as the only thing that can go wrong.
      have step : addGroup text start group =
          (addTerm start term).elim (.error (.outOfRange text)) .ok := by
        rw [addGroup, unit, count]
        dsimp only
        cases addTerm start term <;> rfl
      rw [List.foldlM_cons, List.foldlM_cons, step]
      cases addTerm start term with
      | none => rfl
      | some next => exact ih next

theorem terms_of_named (found : List Group) (each : ∀ group ∈ found, ∃ term, Names group term) :
    ∃ terms, List.Forall₂ Names found terms := by
  induction found with
  | nil => exact ⟨[], List.Forall₂.nil⟩
  | cons group rest ih =>
      obtain ⟨⟨term, here⟩, others⟩ := List.forall_mem_cons.mp each
      obtain ⟨terms, later⟩ := ih others
      exact ⟨term :: terms, List.Forall₂.cons here later⟩

section Groups
variable (text : String) (found : List Group) (cut : groups? text.toList = some found)
include cut

theorem read_plain (duration : Duration) (denotes : read text found = .ok duration) :
    Plain text.toList := by
  obtain ⟨_, matched, same⟩ := (groups_eq_some_iff _ found).mp cut
  rw [← same]
  apply plain_of_characters
  intro c member
  obtain ⟨group, listed, here⟩ := List.mem_flatMap.mp member
  obtain ⟨unit, named, _, digits⟩ := foldGroups_readable text found zero duration denotes group listed
  rcases List.mem_append.mp here with count | spelling
  · exact isPlain_digit c (digits c count)
  · exact plain_of_unitOf group.unit unit (matched group listed).folds named c spelling

theorem named_of_plain (plain : Plain text.toList) : ∃ terms, List.Forall₂ Names found terms := by
  obtain ⟨_, matched, same⟩ := (groups_eq_some_iff _ found).mp cut
  rw [← same] at plain
  apply terms_of_named
  intro group listed
  obtain ⟨unit, folded⟩ := (matched group listed).named
  have spelled : ∀ c ∈ group.unit, IsPlain c := fun c member =>
    plain.characters c
      (List.mem_flatMap.mpr ⟨group, listed, List.mem_append_right group.count member⟩)
  refine ⟨⟨group.count, unit⟩, ?_, rfl⟩
  rw [unitOf_of_plain group.unit spelled]
  exact (lookup_iff _ unit).mpr folded

theorem read_outcome (plain : Plain text.toList) :
    (∃ duration, read text found = .ok duration) ∨ read text found = .error (.outOfRange text) := by
  obtain ⟨terms, named⟩ := named_of_plain text found cut plain
  rw [read, foldGroups_terms text found terms named]
  cases terms.foldlM addTerm zero with
  | none => exact Or.inr rfl
  | some sum => exact Or.inl ⟨sum, rfl⟩

end Groups

end Compact

end NodePolicy.Duration
