import Mathlib.Data.Bool.AllAny
import NodePolicy.Proofs.Lowercase
import NodePolicy.Proofs.Spelling

/-!
The groups of a compact duration. A digit behind something else begins a new group, and no unit's
name holds a digit, so a text that was put together from groups is cut into the same groups.
-/

namespace NodePolicy.Duration.Compact

open NodePolicy.Text

def Group.text (group : Group) : List Char := group.count ++ group.unit

def textOf (found : List Group) : List Char := found.flatMap Group.text

theorem groups_digit (c : Char) (rest : List Char) (digit : isDecimalDigit c = true) :
    groups (c :: rest) =
      match groups rest with
      | ⟨count, unit⟩ :: later => ⟨c :: count, unit⟩ :: later
      | [] => [⟨[c], []⟩] := by
  rw [groups, digit]
  cases groups rest <;> rfl

theorem groups_other (c : Char) (rest : List Char) (other : isDecimalDigit c = false) :
    groups (c :: rest) =
      match groups rest with
      | ⟨[], unit⟩ :: later => ⟨[], c :: unit⟩ :: later
      | later => ⟨[], [c]⟩ :: later := by
  rw [groups, other]
  rcases groups rest with _ | ⟨⟨_ | ⟨d, count⟩, unit⟩, later⟩ <;> rfl

theorem groups_unit (unit rest : List Char) (some : unit ≠ [])
    (plain : ∀ c ∈ unit, isDecimalDigit c = false)
    (counted : ∀ group ∈ (groups rest).head?, group.count ≠ []) :
    groups (unit ++ rest) = ⟨[], unit⟩ :: groups rest := by
  induction unit with
  | nil => exact absurd rfl some
  | cons c unit ih =>
      have other := plain c List.mem_cons_self
      rw [List.cons_append, groups_other c _ other]
      -- The last character begins the group, since the next one has a count; the others join it.
      cases unit with
      | nil =>
          rw [List.nil_append]
          rcases found : groups rest with _ | ⟨⟨_ | ⟨d, count⟩, unit⟩, later⟩
          · rfl
          · rw [found] at counted
            exact absurd rfl (counted ⟨[], unit⟩ rfl)
          · rfl
      | cons d unit =>
          rw [ih (List.cons_ne_nil d unit) fun e member => plain e (List.mem_cons_of_mem c member)]

theorem groups_count (count more unit rest : List Char) (later : List Group)
    (decimal : ∀ c ∈ count, isDecimalDigit c = true)
    (found : groups rest = ⟨more, unit⟩ :: later) :
    groups (count ++ rest) = ⟨count ++ more, unit⟩ :: later := by
  induction count with
  | nil => exact found
  | cons c count ih =>
      have digit := decimal c List.mem_cons_self
      rw [List.cons_append, groups_digit c _ digit,
        ih fun d member => decimal d (List.mem_cons_of_mem c member)]
      rfl

structure Group.Apart (group : Group) : Prop where
  counted : group.count ≠ []
  decimal : ∀ c ∈ group.count, isDecimalDigit c = true
  named : group.unit ≠ []
  plain : ∀ c ∈ group.unit, isDecimalDigit c = false

theorem groups_textOf (found : List Group) (apart : ∀ group ∈ found, group.Apart) :
    groups (textOf found) = found := by
  induction found with
  | nil => rfl
  | cons group rest ih =>
      have later := ih fun other member => apart other (List.mem_cons_of_mem group member)
      obtain ⟨_, decimal, named, plain⟩ := apart group List.mem_cons_self
      have counted : ∀ next ∈ (groups (textOf rest)).head?, next.count ≠ [] := by
        intro next first
        rw [later] at first
        exact (apart next (List.mem_cons_of_mem group (List.mem_of_mem_head? first))).counted
      have unit := groups_unit group.unit (textOf rest) named plain counted
      rw [later] at unit
      have whole := groups_count group.count [] group.unit _ rest decimal unit
      rw [textOf, List.flatMap_cons, Group.text, List.append_assoc]
      rw [List.append_nil] at whole
      exact whole

theorem groups_text (text : List Char) : textOf (groups text) = text := by
  induction text with
  | nil => rfl
  | cons c rest ih =>
      cases digit : isDecimalDigit c with
      | true =>
          rw [groups_digit c rest digit]
          rcases found : groups rest with _ | ⟨⟨count, unit⟩, later⟩
          · rw [found] at ih
            rw [← ih]
            rfl
          · rw [found] at ih
            rw [← ih]
            rfl
      | false =>
          rw [groups_other c rest digit]
          rcases found : groups rest with _ | ⟨⟨_ | ⟨d, count⟩, unit⟩, later⟩
          all_goals
            rw [found] at ih
            rw [← ih]
            rfl

theorem groups_digits (text : List Char) :
    ∀ group ∈ groups text, ∀ c ∈ group.count, isDecimalDigit c = true := by
  induction text with
  | nil => intro group member; cases member
  | cons c rest ih =>
      cases digit : isDecimalDigit c with
      | true =>
          rw [groups_digit c rest digit]
          rcases found : groups rest with _ | ⟨⟨count, unit⟩, later⟩
          · simp [digit]
          · rw [found] at ih
            obtain ⟨first, others⟩ := List.forall_mem_cons.mp ih
            exact List.forall_mem_cons.mpr ⟨List.forall_mem_cons.mpr ⟨digit, first⟩, others⟩
      | false =>
          rw [groups_other c rest digit]
          rcases found : groups rest with _ | ⟨⟨_ | ⟨d, count⟩, unit⟩, later⟩
          · simp
          · rw [found] at ih
            exact List.forall_mem_cons.mpr ⟨by simp, (List.forall_mem_cons.mp ih).2⟩
          · rw [found] at ih
            exact List.forall_mem_cons.mpr ⟨by simp, ih⟩

def letters : List Char := unitNames.flatMap Prod.fst

theorem letters_no_digits : ∀ letter ∈ letters, isDecimalDigit letter = false :=
  List.all_iff_forall_prop.mp (by decide +kernel)

theorem name_letters (name : List Char) (unit : TimeUnit) (listed : (name, unit) ∈ unitNames) :
    name ≠ [] ∧ ∀ letter ∈ name, letter ∈ letters := by
  refine ⟨?_, ?_⟩
  · have named : ∀ entry ∈ unitNames, entry.1 ≠ [] := by decide
    exact named (name, unit) listed
  · intro letter member
    exact List.mem_flatMap.mpr ⟨(name, unit), listed, member⟩

theorem lookup_iff (name : List Char) (unit : TimeUnit) :
    unitNames.lookup name = some unit ↔ (name, unit) ∈ unitNames := by
  constructor
  · intro found
    obtain ⟨before, after, parts, _⟩ := List.lookup_eq_some_iff.mp found
    rw [parts]
    simp
  · intro listed
    have own : ∀ entry ∈ unitNames, unitNames.lookup entry.1 = some entry.2 := by decide
    exact own (name, unit) listed

/-- A decimal digit is no capital and none of the letters that are folded. -/
theorem foldCase_digit (c : Char) (digit : isDecimalDigit c = true) : foldCase c = c := by
  have noLong : c ≠ '\u017f' := by
    rintro rfl
    exact absurd digit (by decide +kernel)
  have noMu : ¬ (c = '\u03bc' ∨ c = '\u039c') := by
    rintro (rfl | rfl) <;> exact absurd digit (by decide +kernel)
  rw [foldCase, if_neg noLong, if_neg noMu, toLower_eq_self c (digit_no_capital c digit)]

theorem folded_plain (spelling : List Char) (unit : TimeUnit)
    (named : (spelling.map foldCase, unit) ∈ unitNames) :
    spelling ≠ [] ∧ ∀ c ∈ spelling, isDecimalDigit c = false := by
  obtain ⟨some, spelled⟩ := name_letters _ _ named
  refine ⟨fun empty => some (by rw [empty]; rfl), ?_⟩
  intro c member
  have letter := letters_no_digits (foldCase c) (spelled (foldCase c) (List.mem_map_of_mem member))
  cases digit : isDecimalDigit c with
  | false => rfl
  | true => rw [← digit, ← letter, foldCase_digit c digit]

structure Group.Matched (group : Group) : Prop where
  counted : group.count ≠ []
  decimal : ∀ c ∈ group.count, isDecimalDigit c = true
  named : ∃ unit, (group.unit.map foldCase, unit) ∈ unitNames

theorem Group.Matched.apart {group : Group} (matched : group.Matched) : group.Apart := by
  obtain ⟨counted, decimal, unit, named⟩ := matched
  obtain ⟨some, plain⟩ := folded_plain group.unit unit named
  exact ⟨counted, decimal, some, plain⟩

theorem matches_iff (group : Group) :
    group.matches = true ↔
      group.count ≠ [] ∧ ∃ unit, (group.unit.map foldCase, unit) ∈ unitNames := by
  rw [Group.matches, Bool.and_eq_true, Option.isSome_iff_exists]
  simp only [lookup_iff, Bool.not_eq_true', List.isEmpty_eq_false_iff]

/-- A compact text is one that groups of the pattern make up, and it is cut into these groups. -/
theorem groups_eq_some_iff (text : List Char) (found : List Group) :
    groups? text = some found ↔
      found ≠ [] ∧ (∀ group ∈ found, group.Matched) ∧ textOf found = text := by
  constructor
  · intro recognised
    rw [groups?] at recognised
    split at recognised
    · next compact =>
        cases recognised
        refine ⟨compact.1, ?_, groups_text text⟩
        intro group member
        obtain ⟨counted, named⟩ :=
          (matches_iff group).mp (List.all_eq_true.mp compact.2 group member)
        exact ⟨counted, groups_digits text group member, named⟩
    · cases recognised
  · rintro ⟨some, matched, rfl⟩
    have cut := groups_textOf found fun group member => (matched group member).apart
    have all : found.all Group.matches = true := by
      rw [List.all_eq_true]
      intro group member
      exact (matches_iff group).mpr ⟨(matched group member).counted, (matched group member).named⟩
    rw [groups?]
    simp only [cut, if_pos (And.intro some all)]

def IsPlain (c : Char) : Prop := c.toNat < 128 ∨ c = '\u00b5'

instance : DecidablePred IsPlain := fun _ => inferInstanceAs (Decidable (_ ∨ _))

theorem letters_plain : ∀ letter ∈ letters, IsPlain letter :=
  List.all_iff_forall_prop.mp (by decide)

theorem foldCase_of_plain (c : Char) (plain : IsPlain c) : foldCase c = c.toLower := by
  have noLong : c ≠ '\u017f' := by
    rintro rfl
    exact absurd plain (by decide)
  have noMu : ¬ (c = '\u03bc' ∨ c = '\u039c') := by
    rintro (rfl | rfl) <;> exact absurd plain (by decide)
  rw [foldCase, if_neg noLong, if_neg noMu]

theorem plain_of_toLower (c : Char) (letter : c.toLower ∈ letters) : IsPlain c := by
  by_cases ascii : c.toNat < 128
  · exact Or.inl ascii
  · rw [toLower_eq_self c (by omega)] at letter
    exact letters_plain c letter

theorem lowersAlone_of_plain (c : Char) (plain : IsPlain c) : LowersAlone c := by
  rcases plain with ascii | rfl
  · exact lowersAlone_ascii c ascii
  · exact ⟨by decide, by decide +kernel⟩

theorem unitOf_of_plain (spelling : List Char) (plain : ∀ c ∈ spelling, IsPlain c) :
    unitOf? spelling = unitNames.lookup (spelling.map foldCase) := by
  rw [unitOf?, lowercaseAfter_alone [] spelling fun c member => lowersAlone_of_plain c (plain c member),
    List.map_congr_left fun c member => foldCase_of_plain c (plain c member)]

theorem plain_or_strange (c : Char) (folds : foldCase c ∈ letters) :
    IsPlain c ∨ c ∈ ['\u017f', '\u03bc', '\u039c'] := by
  by_cases strange : c ∈ ['\u017f', '\u03bc', '\u039c']
  · exact Or.inr strange
  · simp only [List.mem_cons, List.not_mem_nil, or_false, not_or] at strange
    obtain ⟨noLong, noSmall, noCapital⟩ := strange
    rw [foldCase, if_neg noLong, if_neg (not_or.mpr ⟨noSmall, noCapital⟩)] at folds
    exact Or.inl (plain_of_toLower c folds)

theorem strange_lowered : ∀ c ∈ ['\u017f', '\u03bc', '\u039c'],
    c ≠ 'Σ' ∧ ((lowerChar c).any fun lowered => lowered ∉ letters) = true :=
  List.all_iff_forall_prop.mp (by decide +kernel)

/-- The long s and the letters mu fold to a letter of the names, but keep out of every name in
lower case. -/
theorem plain_of_unitOf (spelling : List Char) (unit : TimeUnit)
    (folds : ∀ c ∈ spelling, foldCase c ∈ letters) (named : unitOf? spelling = some unit) :
    ∀ c ∈ spelling, IsPlain c := by
  intro c member
  rcases plain_or_strange c (folds c member) with plain | strange
  · exact plain
  · obtain ⟨noSigma, some⟩ := strange_lowered c strange
    obtain ⟨lowered, mapped, foreign⟩ := List.any_iff_exists_prop.mp some
    have inside := mem_lowercaseAfter [] spelling c lowered member noSigma mapped
    exact absurd ((name_letters _ unit ((lookup_iff _ unit).mp named)).2 lowered inside) foreign

/-- Every letter of a unit goes with a letter of a name. -/
theorem Group.Matched.folds {group : Group} (matched : group.Matched) :
    ∀ c ∈ group.unit, foldCase c ∈ letters := by
  obtain ⟨unit, named⟩ := matched.named
  exact fun c member => (name_letters _ unit named).2 _ (List.mem_map_of_mem member)

theorem matched_chars (found : List Group) (matched : ∀ group ∈ found, group.Matched) :
    ∀ c ∈ textOf found, isDecimalDigit c = true ∨ foldCase c ∈ letters := by
  intro c member
  obtain ⟨group, listed, here⟩ := List.mem_flatMap.mp member
  rcases List.mem_append.mp here with count | spelling
  · exact Or.inl ((matched group listed).decimal c count)
  · exact Or.inr ((matched group listed).folds c spelling)

end NodePolicy.Duration.Compact
