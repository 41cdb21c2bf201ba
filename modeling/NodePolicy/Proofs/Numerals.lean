import Mathlib.Data.List.TakeWhile
import NodePolicy.Duration.Seconds
import NodePolicy.Proofs.Digits

/-!
The bare form spelled out: a sign, digits, and behind a point at least one more digit. A text is
read as a number exactly when it is one spelled so.
-/

namespace NodePolicy.Duration.Seconds

open NodePolicy.Text

namespace Numeral

/-- What a number is written as, without its sign. Digits behind the point bring the point along. -/
def magnitude (numeral : Numeral) : List Char :=
  numeral.whole ++ if numeral.fraction = [] then [] else '.' :: numeral.fraction

def text (numeral : Numeral) : List Char :=
  if numeral.negative then '-' :: numeral.magnitude else numeral.magnitude

theorem mem_magnitude (numeral : Numeral) (c : Char) (member : c ∈ numeral.magnitude) :
    c = '.' ∨ c ∈ numeral.whole ++ numeral.fraction := by
  rw [List.mem_append]
  rcases List.mem_append.mp member with whole | behind
  · exact Or.inr (Or.inl whole)
  · split at behind
    · cases behind
    · rcases List.mem_cons.mp behind with point | fraction
      · exact Or.inl point
      · exact Or.inr (Or.inr fraction)

theorem mem_text (numeral : Numeral) (c : Char) (member : c ∈ numeral.text) :
    c = '-' ∨ c = '.' ∨ c ∈ numeral.whole ++ numeral.fraction := by
  rw [text] at member
  split at member
  · rcases List.mem_cons.mp member with minus | magnitude
    · exact Or.inl minus
    · exact Or.inr (mem_magnitude numeral c magnitude)
  · exact Or.inr (mem_magnitude numeral c member)

theorem digits_text (numeral : Numeral) (c : Char)
    (digit : c ∈ numeral.whole ++ numeral.fraction) : c ∈ numeral.text := by
  have magnitude : c ∈ numeral.magnitude := by
    rcases List.mem_append.mp digit with whole | fraction
    · exact List.mem_append_left _ whole
    · apply List.mem_append_right
      rw [if_neg (List.ne_nil_of_mem fraction)]
      exact List.mem_cons_of_mem '.' fraction
  rw [text]
  split
  · exact List.mem_cons_of_mem '-' magnitude
  · exact magnitude

structure Spelled (numeral : Numeral) : Prop where
  some : numeral.whole ≠ [] ∨ numeral.fraction ≠ []
  whole : ∀ c ∈ numeral.whole, isDecimalDigit c = true
  fraction : ∀ c ∈ numeral.fraction, isDecimalDigit c = true

theorem Spelled.decimal {numeral : Numeral} (spelled : numeral.Spelled) :
    ∀ c ∈ numeral.whole ++ numeral.fraction, isDecimalDigit c = true :=
  List.forall_mem_append.mpr ⟨spelled.whole, spelled.fraction⟩

end Numeral

theorem unsigned_split (negative : Bool) (text : List Char) (numeral : Numeral)
    (found : unsigned? negative text = some numeral) :
    numeral.negative = negative ∧ numeral.Spelled ∧ numeral.magnitude = text := by
  have parts := List.takeWhile_append_dropWhile (p := isDecimalDigit) (l := text)
  have digits : ∀ c ∈ text.takeWhile isDecimalDigit, isDecimalDigit c = true := fun c member =>
    List.all_eq_true.mp List.all_takeWhile c member
  simp only [unsigned?] at found
  split at found
  · next behind =>
      rw [behind, List.append_nil] at parts
      split at found
      · next some =>
          cases found
          refine ⟨rfl, ⟨Or.inl some, digits, by simp⟩, ?_⟩
          simp [Numeral.magnitude, parts]
      · cases found
  · next fraction behind =>
      rw [behind] at parts
      split at found
      · next some =>
          cases found
          refine ⟨rfl, ⟨Or.inr some.1, digits, List.all_eq_true.mp some.2⟩, ?_⟩
          simp [Numeral.magnitude, some.1, parts]
      · cases found
  · cases found

theorem unsigned_magnitude (numeral : Numeral) (spelled : numeral.Spelled) :
    unsigned? numeral.negative numeral.magnitude = some numeral := by
  obtain ⟨negative, whole, fraction⟩ := numeral
  obtain ⟨some, decimal, behind⟩ := spelled
  cases fraction with
  | nil =>
      have all : whole.takeWhile isDecimalDigit = whole := List.takeWhile_eq_self_iff.mpr decimal
      have none : whole.dropWhile isDecimalDigit = [] := List.dropWhile_eq_nil_iff.mpr decimal
      have counted : whole ≠ [] := some.resolve_right (· rfl)
      simp [Numeral.magnitude, unsigned?, all, none, counted]
  | cons c fraction =>
      have before := run_before_stop whole '.' (c :: fraction) decimal (by decide)
      have after := text_after_run whole '.' (c :: fraction) decimal (by decide)
      have all : (c :: fraction).all isDecimalDigit = true := List.all_eq_true.mpr behind
      simp [Numeral.magnitude, unsigned?, before, after, all]

theorem magnitude_no_minus (numeral : Numeral) (spelled : numeral.Spelled) (rest : List Char) :
    numeral.magnitude ≠ '-' :: rest := by
  intro opens
  have minus : '-' ∈ numeral.magnitude := opens ▸ List.mem_cons_self
  rcases numeral.mem_magnitude '-' minus with point | digit
  · cases point
  · exact absurd (spelled.decimal '-' digit) (by decide)

/-- A text is read as a number exactly when it is spelled as one. -/
theorem numeral_eq_some_iff (text : List Char) (numeral : Numeral) :
    numeral? text = some numeral ↔ numeral.Spelled ∧ numeral.text = text := by
  constructor
  · intro found
    unfold numeral? at found
    split at found
    · obtain ⟨sign, spelled, rfl⟩ := unsigned_split _ _ _ found
      exact ⟨spelled, by rw [Numeral.text, if_pos sign]⟩
    · obtain ⟨sign, spelled, rfl⟩ := unsigned_split _ _ _ found
      exact ⟨spelled, by rw [Numeral.text, if_neg (by simp [sign])]⟩
  · rintro ⟨spelled, rfl⟩
    have magnitude := unsigned_magnitude numeral spelled
    rw [Numeral.text]
    cases sign : numeral.negative with
    | true =>
        rw [sign] at magnitude
        exact magnitude
    | false =>
        rw [sign] at magnitude
        rw [if_neg Bool.false_ne_true, numeral?.eq_2 _ (magnitude_no_minus numeral spelled)]
        exact magnitude

theorem numeral_chars (text : List Char) (numeral : Numeral)
    (found : numeral? text = some numeral) :
    ∀ c ∈ text, c = '-' ∨ c = '.' ∨ isDecimalDigit c = true := by
  obtain ⟨spelled, rfl⟩ := (numeral_eq_some_iff text numeral).mp found
  intro c member
  exact (numeral.mem_text c member).imp_right (Or.imp_right (spelled.decimal c))

end NodePolicy.Duration.Seconds
