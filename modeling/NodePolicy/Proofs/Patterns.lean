import Mathlib.Computability.Language
import NodePolicy.Proofs.Groups
import NodePolicy.Proofs.Numerals

/-!
The three forms of a duration as regular languages: each is put together from single letters and runs
of digits by sequence, choice and repetition. The readers recognise these languages, and no text is
in two of them, because the ISO 8601 form alone has its opening letter and a bare number has no
letter at all.
-/

namespace NodePolicy.Duration.Pattern

open Computability NodePolicy.Text

def letter (c : Char) : Language Char := {[c]}

def optional (pattern : Language Char) : Language Char := 1 + pattern

def digits : Language Char := {run | run ≠ [] ∧ ∀ c ∈ run, isDecimalDigit c = true}

def fewDigits (most : Nat) : Language Char := {run | run ∈ digits ∧ run.length ≤ most}

def component (designator : Char) : Language Char := optional (digits * letter designator)

def clock : Language Char :=
  letter 'T' * component 'H' * component 'M' *
    optional (digits * optional (letter '.' * fewDigits 9) * letter 'S')

def iso8601 : Language Char :=
  optional (letter '-') * letter 'P' * component 'Y' * component 'M' * component 'W' *
    component 'D' * optional clock

def bare : Language Char :=
  optional (letter '-') * (digits + optional digits * letter '.' * digits)

def variants (c : Char) : List Char :=
  if c = 's' then ['s', 'S', '\u017f']
  else if c = '\u00b5' then ['\u00b5', '\u03bc', '\u039c']
  else [c, c.toUpper]

def names : List (List Char) :=
  [['n', 's'], ['u', 's'], ['\u00b5', 's'], ['m', 's'], ['s'], ['m'], ['h'], ['d'], ['w'], ['y']]

def unit : Language Char :=
  {spelling | ∃ name ∈ names, List.Forall₂ (fun c d => d ∈ variants c) name spelling}

def compact : Language Char := digits * unit * (digits * unit)∗

theorem mem_letter_iff (c : Char) (text : List Char) : text ∈ letter c ↔ text = [c] := Iff.rfl

theorem mem_optional_iff (pattern : Language Char) (text : List Char) :
    text ∈ optional pattern ↔ text = [] ∨ text ∈ pattern := by
  rw [optional, Language.mem_add, Language.mem_one]

theorem mem_digits_iff (text : List Char) :
    text ∈ digits ↔ ∃ run : Run isDecimalDigit, run.digits = text := by
  constructor
  · rintro ⟨some, decimal⟩
    exact ⟨⟨text, some, decimal⟩, rfl⟩
  · rintro ⟨run, rfl⟩
    exact ⟨run.nonempty, run.ofKind⟩

theorem mem_sign_iff (text : List Char) :
    text ∈ optional (letter '-') ↔ ∃ negative : Bool, (if negative then ['-'] else []) = text := by
  rw [mem_optional_iff, mem_letter_iff]
  constructor
  · rintro (rfl | rfl)
    · exact ⟨false, rfl⟩
    · exact ⟨true, rfl⟩
  · rintro ⟨negative, rfl⟩
    cases negative with
    | false => exact Or.inl rfl
    | true => exact Or.inr rfl

namespace Iso8601
open Duration.Iso8601

theorem mem_component_iff (designator : Char) (text : List Char) :
    text ∈ component designator ↔
      ∃ count : Option (Run isDecimalDigit), countText designator count = text := by
  rw [component, mem_optional_iff, Language.mem_mul]
  constructor
  · rintro (rfl | ⟨_, counted, _, rfl, rfl⟩)
    · exact ⟨none, rfl⟩
    · obtain ⟨run, rfl⟩ := (mem_digits_iff _).mp counted
      exact ⟨some run, rfl⟩
  · rintro ⟨count, rfl⟩
    cases count with
    | none => exact Or.inl rfl
    | some run => exact Or.inr ⟨run.digits, (mem_digits_iff _).mpr ⟨run, rfl⟩, _, rfl, rfl⟩

theorem mem_seconds_iff (text : List Char) :
    text ∈ optional (digits * optional (letter '.' * fewDigits 9) * letter 'S') ↔
      ∃ seconds : Option (Seconds isDecimalDigit), secondsText seconds = text := by
  simp only [mem_optional_iff, Language.mem_mul]
  constructor
  · rintro (rfl | ⟨_, ⟨_, counted, _, point, rfl⟩, _, rfl, rfl⟩)
    · exact ⟨none, rfl⟩
    · obtain ⟨whole, rfl⟩ := (mem_digits_iff _).mp counted
      rcases point with rfl | ⟨_, rfl, fraction, ⟨behind, few⟩, rfl⟩
      · exact ⟨some ⟨whole, none⟩, rfl⟩
      · obtain ⟨run, rfl⟩ := (mem_digits_iff _).mp behind
        exact ⟨some ⟨whole, some ⟨run, few⟩⟩, rfl⟩
  · rintro ⟨seconds, rfl⟩
    cases seconds with
    | none => exact Or.inl rfl
    | some seconds =>
        refine Or.inr ⟨_, ⟨_, (mem_digits_iff _).mpr ⟨seconds.whole, rfl⟩, _, ?_, rfl⟩, _, rfl, rfl⟩
        cases seconds.fraction with
        | none => exact Or.inl rfl
        | some fraction =>
            exact Or.inr ⟨_, rfl, fraction.digits,
              ⟨(mem_digits_iff _).mpr ⟨fraction.toRun, rfl⟩, fraction.few⟩, rfl⟩

theorem mem_clock_iff (text : List Char) :
    text ∈ optional clock ↔
      ∃ clock : Option (Clock isDecimalDigit), clockText clock = text := by
  rw [mem_optional_iff, clock]
  simp only [Language.mem_mul, mem_component_iff, mem_seconds_iff]
  constructor
  · rintro (rfl | ⟨_, ⟨_, ⟨_, rfl, _, ⟨hours, rfl⟩, rfl⟩, _, ⟨minutes, rfl⟩, rfl⟩, _,
      ⟨seconds, rfl⟩, rfl⟩)
    · exact ⟨none, rfl⟩
    · exact ⟨some ⟨hours, minutes, seconds⟩, rfl⟩
  · rintro ⟨clock, rfl⟩
    cases clock with
    | none => exact Or.inl rfl
    | some clock =>
        exact Or.inr ⟨_, ⟨_, ⟨_, rfl, _, ⟨clock.hours, rfl⟩, rfl⟩, _, ⟨clock.minutes, rfl⟩, rfl⟩, _,
          ⟨clock.seconds, rfl⟩, rfl⟩

theorem text_pieces (spelling : Spelling isDecimalDigit) :
    (if spelling.negative then ['-'] else []) ++ ['P'] ++ countText 'Y' spelling.years ++
      countText 'M' spelling.months ++ countText 'W' spelling.weeks ++
      countText 'D' spelling.days ++ clockText spelling.clock = spelling.text := by
  rw [Spelling.text, Spelling.unsignedText]
  cases spelling.negative <;> simp

theorem mem_iso8601_iff (text : List Char) :
    text ∈ iso8601 ↔ ∃ spelling : Spelling isDecimalDigit, spelling.text = text := by
  simp only [iso8601, Language.mem_mul, mem_sign_iff, mem_component_iff, mem_clock_iff]
  constructor
  · rintro ⟨_, ⟨_, ⟨_, ⟨_, ⟨_, ⟨_, ⟨negative, rfl⟩, _, rfl, rfl⟩, _, ⟨years, rfl⟩, rfl⟩, _,
      ⟨months, rfl⟩, rfl⟩, _, ⟨weeks, rfl⟩, rfl⟩, _, ⟨days, rfl⟩, rfl⟩, _, ⟨clock, rfl⟩, rfl⟩
    exact ⟨⟨negative, years, months, weeks, days, clock⟩, (text_pieces _).symm⟩
  · rintro ⟨spelling, rfl⟩
    exact ⟨_, ⟨_, ⟨_, ⟨_, ⟨_, ⟨_, ⟨spelling.negative, rfl⟩, _, rfl, rfl⟩, _, ⟨spelling.years, rfl⟩,
      rfl⟩, _, ⟨spelling.months, rfl⟩, rfl⟩, _, ⟨spelling.weeks, rfl⟩, rfl⟩, _,
      ⟨spelling.days, rfl⟩, rfl⟩, _, ⟨spelling.clock, rfl⟩, text_pieces spelling⟩

theorem recognised_iff (text : List Char) : (terms? text).isSome ↔ text ∈ iso8601 := by
  rw [mem_iso8601_iff, Option.isSome_iff_exists]
  constructor
  · rintro ⟨⟨negative, terms⟩, found⟩
    obtain ⟨spelling, spelled, _⟩ := (terms_eq_some_iff text negative terms).mp found
    exact ⟨spelling, spelled⟩
  · rintro ⟨spelling, rfl⟩
    exact ⟨_, terms_text (fun _ digit => digit) spelling⟩

end Iso8601

section Bare
open Duration.Seconds

theorem mem_magnitude_iff (negative : Bool) (text : List Char) :
    text ∈ digits + optional digits * letter '.' * digits ↔
      ∃ numeral : Numeral, numeral.negative = negative ∧ numeral.Spelled ∧
        numeral.magnitude = text := by
  simp only [Language.mem_add, Language.mem_mul, mem_optional_iff]
  constructor
  · rintro (⟨some, decimal⟩ | ⟨_, ⟨whole, before, _, rfl, rfl⟩, fraction, ⟨some, decimal⟩, rfl⟩)
    · refine ⟨⟨negative, text, []⟩, rfl, ⟨Or.inl some, decimal, by simp⟩, ?_⟩
      simp [Numeral.magnitude]
    · have wholes : ∀ c ∈ whole, isDecimalDigit c = true := by
        rcases before with rfl | ⟨_, digits⟩
        · simp
        · exact digits
      refine ⟨⟨negative, whole, fraction⟩, rfl, ⟨Or.inr some, wholes, decimal⟩, ?_⟩
      simp [Numeral.magnitude, some]
  · rintro ⟨⟨_, whole, fraction⟩, _, ⟨some, decimal, behind⟩, rfl⟩
    by_cases absent : fraction = []
    · have wholes : whole ≠ [] := some.resolve_right (not_not_intro absent)
      refine Or.inl ⟨?_, ?_⟩
      · simp [Numeral.magnitude, wholes]
      · simpa [Numeral.magnitude, absent] using decimal
    · refine Or.inr ⟨_, ⟨whole, ?_, _, rfl, rfl⟩, fraction, ⟨absent, behind⟩, ?_⟩
      · by_cases none : whole = []
        · exact Or.inl none
        · exact Or.inr ⟨none, decimal⟩
      · simp [Numeral.magnitude, absent]

theorem mem_bare_iff (text : List Char) : text ∈ bare ↔ (numeral? text).isSome := by
  rw [bare, Language.mem_mul, Option.isSome_iff_exists]
  simp only [mem_sign_iff, numeral_eq_some_iff]
  constructor
  · rintro ⟨_, ⟨negative, rfl⟩, magnitude, matched, rfl⟩
    obtain ⟨numeral, rfl, spelled, rfl⟩ := (mem_magnitude_iff negative magnitude).mp matched
    refine ⟨numeral, spelled, ?_⟩
    rw [Numeral.text]
    cases numeral.negative <;> rfl
  · rintro ⟨numeral, spelled, rfl⟩
    refine ⟨_, ⟨numeral.negative, rfl⟩, numeral.magnitude,
      (mem_magnitude_iff numeral.negative _).mpr ⟨numeral, rfl, spelled, rfl⟩, ?_⟩
    rw [Numeral.text]
    cases numeral.negative <;> rfl

end Bare

section Units
open Duration.Compact

theorem variants_fold : ∀ letter ∈ letters,
    ((variants letter).all fun c => foldCase c = letter) = true :=
  List.all_iff_forall_prop.mp (by decide)

theorem ascii_variants : ∀ code < 128, foldCase (Char.ofNat code) ∈ letters →
    Char.ofNat code ∈ variants (foldCase (Char.ofNat code)) := by decide +kernel

theorem other_variants : ∀ c ∈ ['\u00b5', '\u017f', '\u03bc', '\u039c'],
    c ∈ variants (foldCase c) := List.all_iff_forall_prop.mp (by decide)

theorem foldCase_iff (letter c : Char) (listed : letter ∈ letters) :
    foldCase c = letter ↔ c ∈ variants letter := by
  constructor
  · rintro rfl
    rcases plain_or_strange c listed with (ascii | rfl) | strange
    · have variant := ascii_variants c.toNat ascii
      rw [Char.ofNat_toNat] at variant
      exact variant listed
    · exact other_variants _ (by simp)
    · exact other_variants c (List.mem_cons_of_mem _ strange)
  · exact List.all_iff_forall_prop.mp (variants_fold letter listed) c

theorem names_listed : names = unitNames.map Prod.fst := rfl

theorem variant_iff (name spelling : List Char) (spelled : ∀ letter ∈ name, letter ∈ letters) :
    List.Forall₂ (fun letter c => c ∈ variants letter) name spelling ↔
      spelling.map foldCase = name := by
  induction name generalizing spelling with
  | nil => simp
  | cons letter name ih =>
      have later := fun other member => spelled other (List.mem_cons_of_mem letter member)
      have listed := spelled letter List.mem_cons_self
      cases spelling with
      | nil => simp
      | cons c spelling =>
          rw [List.forall₂_cons, List.map_cons, List.cons.injEq, ih spelling later,
            foldCase_iff letter c listed]

theorem mem_unit_iff (spelling : List Char) :
    spelling ∈ unit ↔ ∃ unit, (spelling.map foldCase, unit) ∈ unitNames := by
  constructor
  · rintro ⟨name, listed, variant⟩
    rw [names_listed] at listed
    obtain ⟨⟨name, unit⟩, entry, rfl⟩ := List.mem_map.mp listed
    refine ⟨unit, ?_⟩
    rw [(variant_iff name spelling (name_letters name unit entry).2).mp variant]
    exact entry
  · rintro ⟨unit, entry⟩
    have spelled := (name_letters _ unit entry).2
    refine ⟨_, ?_, (variant_iff _ spelling spelled).mpr rfl⟩
    rw [names_listed]
    exact List.mem_map_of_mem entry

theorem mem_group_iff (text : List Char) :
    text ∈ digits * unit ↔ ∃ group : Group, group.Matched ∧ group.text = text := by
  rw [Language.mem_mul]
  simp only [mem_unit_iff]
  constructor
  · rintro ⟨count, ⟨counted, decimal⟩, spelling, named, rfl⟩
    exact ⟨⟨count, spelling⟩, ⟨counted, decimal, named⟩, rfl⟩
  · rintro ⟨⟨count, spelling⟩, ⟨counted, decimal, named⟩, rfl⟩
    exact ⟨count, ⟨counted, decimal⟩, spelling, named, rfl⟩

theorem mem_groups_iff (text : List Char) :
    text ∈ (digits * unit)∗ ↔
      ∃ found : List Group, (∀ group ∈ found, group.Matched) ∧ textOf found = text := by
  rw [Language.mem_kstar]
  constructor
  · rintro ⟨texts, rfl, matched⟩
    induction texts with
    | nil => exact ⟨[], by simp, rfl⟩
    | cons text texts ih =>
        obtain ⟨first, others⟩ := List.forall_mem_cons.mp matched
        obtain ⟨group, here, rfl⟩ := (mem_group_iff text).mp first
        obtain ⟨found, later, same⟩ := ih others
        refine ⟨group :: found, List.forall_mem_cons.mpr ⟨here, later⟩, ?_⟩
        rw [List.flatten_cons, ← same]
        rfl
  · rintro ⟨found, matched, rfl⟩
    refine ⟨found.map Group.text, rfl, ?_⟩
    intro text member
    obtain ⟨group, listed, rfl⟩ := List.mem_map.mp member
    exact (mem_group_iff _).mpr ⟨group, matched group listed, rfl⟩

theorem mem_compact_iff (text : List Char) : text ∈ compact ↔ (groups? text).isSome := by
  rw [compact, Language.mem_mul, Option.isSome_iff_exists]
  simp only [mem_group_iff, mem_groups_iff, groups_eq_some_iff]
  constructor
  · rintro ⟨_, ⟨group, here, rfl⟩, _, ⟨found, later, rfl⟩, rfl⟩
    exact ⟨group :: found, List.cons_ne_nil group found,
      List.forall_mem_cons.mpr ⟨here, later⟩, rfl⟩
  · rintro ⟨found, some, matched, rfl⟩
    obtain ⟨group, found, rfl⟩ := List.exists_cons_of_ne_nil some
    obtain ⟨here, later⟩ := List.forall_mem_cons.mp matched
    exact ⟨_, ⟨group, here, rfl⟩, _, ⟨found, later, rfl⟩, rfl⟩

end Units

end NodePolicy.Duration.Pattern
