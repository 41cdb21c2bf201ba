import Mathlib.Algebra.BigOperators.Group.Finset.Piecewise
import Mathlib.Algebra.BigOperators.Ring.Finset
import Mathlib.Data.List.Find
import NodePolicy.Proofs.Forms

/-!
The exact value of the compact form. A search that knows nothing of the cut into groups meets the
same groups, one directly behind the other, and their checked sum is one check of the exact sum. So
a text counts by how often it counts each unit and by nothing else.
-/

namespace NodePolicy.Duration.Compact

open NodePolicy.Text

inductive Piece where
  | group (group : Group)
  | skipped (c : Char)
  deriving DecidableEq

def nameAt? (text : List Char) : Option (List Char) :=
  (unitNames.map Prod.fst).find? fun name => name.isPrefixOf (text.map foldCase)

/-- The group that a text begins with: a whole run of digits and the first name that fits behind
it. No name begins with a digit, so a part of the run would find none. -/
def groupAt? (text : List Char) : Option Group :=
  let count := text.takeWhile isDecimalDigit
  let behind := text.dropWhile isDecimalDigit
  if count = [] then none
  else (nameAt? behind).map fun name => ⟨count, behind.take name.length⟩

theorem groupAt_counted (text : List Char) (group : Group) (found : groupAt? text = some group) :
    group.count ≠ [] := by
  simp only [groupAt?] at found
  split at found
  · cases found
  · next counted =>
      obtain ⟨name, _, rfl⟩ := Option.map_eq_some_iff.mp found
      exact counted

/-- Groups from left to right. Behind a group the search goes on at its end, elsewhere at the next
character. -/
def scan (text : List Char) : List Piece :=
  match text with
  | [] => []
  | c :: rest =>
    match _ : groupAt? (c :: rest) with
    | some group => .group group :: scan ((c :: rest).drop group.text.length)
    | none => .skipped c :: scan rest
termination_by text.length
decreasing_by
  · have counted := List.length_pos_of_ne_nil (groupAt_counted _ group ‹_›)
    simp only [Group.text, List.length_append, List.length_drop, List.length_cons]
    omega
  · exact Nat.lt_succ_self _

theorem scan_group (group : Group) (rest : List Char)
    (found : groupAt? (group.text ++ rest) = some group) :
    scan (group.text ++ rest) = .group group :: scan rest := by
  have counted := groupAt_counted _ group found
  have behind : (group.text ++ rest).drop group.text.length = rest := List.drop_left
  generalize whole : group.text ++ rest = text at found behind ⊢
  cases text with
  | nil =>
      simp [Group.text, counted] at whole
  | cons c text =>
      rw [scan]
      split
      · next other same =>
          rw [found] at same
          cases same
          rw [behind]
      · next none =>
          rw [found] at none
          cases none

theorem first_name : ∀ entry ∈ unitNames,
    (unitNames.map Prod.fst).find? (fun name => name.isPrefixOf entry.1) = some entry.1 := by
  decide

theorem prefix_before_digit (name first : List Char) (behind : List Char)
    (spelled : ∀ letter ∈ name, letter ∈ letters)
    (ends : ∀ c ∈ behind.head?, isDecimalDigit c = true) :
    name.isPrefixOf (first ++ behind) = name.isPrefixOf first := by
  rw [Bool.eq_iff_iff, List.isPrefixOf_iff_prefix, List.isPrefixOf_iff_prefix]
  constructor
  · intro longer
    rcases List.prefix_or_prefix_of_prefix longer (List.prefix_append first behind) with
      shorter | ⟨more, rfl⟩
    · exact shorter
    · rw [List.prefix_append_right_inj] at longer
      cases more with
      | nil => simp
      | cons letter more =>
          -- A name that reached past the end would hold the digit that comes there.
          obtain ⟨rest, rfl⟩ := longer
          have plain := letters_no_digits letter (spelled letter (by simp))
          rw [ends letter rfl] at plain
          cases plain
  · intro shorter
    exact shorter.trans (List.prefix_append first behind)

theorem nameAt_unit (spelling behind : List Char) (unit : TimeUnit)
    (named : (spelling.map foldCase, unit) ∈ unitNames)
    (ends : ∀ c ∈ behind.head?, isDecimalDigit c = true) :
    nameAt? (spelling ++ behind) = some (spelling.map foldCase) := by
  have folded : ∀ c ∈ (behind.map foldCase).head?, isDecimalDigit c = true := by
    intro c first
    rw [List.head?_map] at first
    obtain ⟨d, next, rfl⟩ := Option.mem_map.mp first
    rw [foldCase_digit d (ends d next)]
    exact ends d next
  have same : ∀ name ∈ unitNames.map Prod.fst,
      name.isPrefixOf (spelling.map foldCase ++ behind.map foldCase) =
        name.isPrefixOf (spelling.map foldCase) := by
    intro name listed
    obtain ⟨⟨name, unit⟩, entry, rfl⟩ := List.mem_map.mp listed
    exact prefix_before_digit name _ _ (name_letters name unit entry).2 folded
  rw [nameAt?, List.map_append, List.find?_congr same]
  exact first_name _ named

theorem groupAt_matched (group : Group) (rest : List Char) (matched : group.Matched)
    (ends : ∀ c ∈ rest.head?, isDecimalDigit c = true) :
    groupAt? (group.text ++ rest) = some group := by
  obtain ⟨counted, decimal, named, plain⟩ := matched.apart
  obtain ⟨unit, spelled⟩ := matched.named
  obtain ⟨count, spelling⟩ := group
  obtain ⟨c, more, rfl⟩ := List.exists_cons_of_ne_nil named
  have other := plain c List.mem_cons_self
  have before := run_before_stop count c (more ++ rest) decimal other
  have after := text_after_run count c (more ++ rest) decimal other
  have name := nameAt_unit (c :: more) rest unit spelled ends
  have length : ((c :: more).map foldCase).length = (c :: more).length := List.length_map _
  rw [List.cons_append] at name
  -- The run of digits ends at the unit, and behind it no shorter or earlier name fits first.
  simp only [groupAt?, Group.text, List.append_assoc, List.cons_append, before, after,
    if_neg counted, name, Option.map_some, length]
  rw [← List.cons_append, List.take_left]

theorem scan_textOf (found : List Group) (matched : ∀ group ∈ found, group.Matched) :
    scan (textOf found) = found.map Piece.group := by
  induction found with
  | nil => rw [textOf, List.flatMap_nil, scan, List.map_nil]
  | cons group rest ih =>
      have later := fun other member => matched other (List.mem_cons_of_mem group member)
      have ends : ∀ c ∈ (textOf rest).head?, isDecimalDigit c = true := by
        intro c first
        cases rest with
        | nil => cases first
        | cons next rest =>
            obtain ⟨counted, decimal, _⟩ := later next List.mem_cons_self
            obtain ⟨d, count, digits⟩ := List.exists_cons_of_ne_nil counted
            rw [textOf, List.flatMap_cons, Group.text, digits] at first
            cases first
            exact decimal c (by rw [digits]; exact List.mem_cons_self)
      have here := groupAt_matched group (textOf rest) (matched group List.mem_cons_self) ends
      rw [textOf, List.flatMap_cons, List.map_cons, ← ih later]
      exact scan_group group (textOf rest) here

structure Written where
  count : Run Char.isDigit
  spelling : List Char
  unit : TimeUnit
  named : (spelling.map Char.toLower, unit) ∈ unitNames

namespace Written

def group (written : Written) : Group := ⟨written.count.digits, written.spelling⟩

def term (written : Written) : Term := ⟨written.count.digits, written.unit⟩

def value (written : Written) : Nat := digitsValue written.count.digits

variable (written : Written)

theorem plain : ∀ c ∈ written.spelling, IsPlain c := by
  intro c member
  apply plain_of_toLower
  exact (name_letters _ written.unit written.named).2 _ (List.mem_map_of_mem member)

theorem folded : (written.spelling.map foldCase, written.unit) ∈ unitNames := by
  rw [List.map_congr_left fun c member => foldCase_of_plain c (written.plain c member)]
  exact written.named

theorem matched : written.group.Matched where
  counted := written.count.nonempty
  decimal := fun c member => isDecimalDigit_of_isDigit c (written.count.ofKind c member)
  named := ⟨written.unit, written.folded⟩

theorem names : Names written.group written.term := by
  refine ⟨?_, rfl⟩
  rw [unitOf_of_plain written.group.unit written.plain]
  exact (lookup_iff _ written.unit).mpr written.folded

theorem readable : written.term.Readable := ⟨written.count.nonempty, written.count.ofKind⟩

end Written

def spelled (written : List Written) : List Char := textOf (written.map Written.group)

def sumOf (written : List Written) : Nat := sumNanos (written.map Written.term)

def counted (unit : TimeUnit) : List Written → Nat
  | [] => 0
  | first :: rest => (if first.unit = unit then first.value else 0) + counted unit rest

instance : Fintype TimeUnit where
  elems := {.nanosecond, .microsecond, .millisecond, .second, .minute, .hour, .day, .week, .month,
    .year}
  complete unit := by cases unit <;> decide

theorem sumOf_counted (written : List Written) :
    sumOf written = ∑ unit, counted unit written * unit.nanos := by
  induction written with
  | nil => simp [sumOf, sumNanos, counted]
  | cons first rest ih =>
      -- A group counts for its own unit only, so the sum over the units has one term for it.
      have own : ∑ unit, (if first.unit = unit then first.value else 0) * unit.nanos =
          first.term.nanos := by
        simp only [ite_mul, Nat.zero_mul, Finset.sum_ite_eq, Finset.mem_univ, if_true]
        rfl
      rw [sumOf] at ih ⊢
      simp only [counted, Nat.add_mul, Finset.sum_add_distrib, own, ← ih, List.map_cons, sumNanos]

section Reading
variable (written : List Written)

theorem written_matched : ∀ group ∈ written.map Written.group, group.Matched := by
  intro group member
  obtain ⟨first, _, rfl⟩ := List.mem_map.mp member
  exact first.matched

theorem written_names :
    List.Forall₂ Names (written.map Written.group) (written.map Written.term) := by
  induction written with
  | nil => exact List.Forall₂.nil
  | cons first rest ih => exact List.Forall₂.cons first.names ih

theorem total_written : total? (written.map Written.term) = ofNanos? (sumOf written) := by
  apply total_exact
  intro term member
  obtain ⟨first, _, rfl⟩ := List.mem_map.mp member
  exact first.readable

theorem foldGroups_written (text : String) :
    (written.map Written.group).foldlM (addGroup text) zero =
      (ofNanos? (sumOf written)).elim (.error (.outOfRange text)) .ok := by
  rw [foldGroups_terms text _ _ (written_names written), ← total_written, total?]

variable (some : written ≠ [])
include some

theorem groups_spelled : groups? (spelled written) = Option.some (written.map Written.group) := by
  rw [groups_eq_some_iff]
  exact ⟨fun empty => some (List.map_eq_nil_iff.mp empty), written_matched written, rfl⟩

theorem read_spelled (text : String) (same : text.toList = spelled written) :
    Duration.read text = (ofNanos? (sumOf written)).elim (.error (.outOfRange text)) .ok := by
  have taken : Form.attempt text .compact =
      Option.some (Compact.read text (written.map Written.group)) := by
    rw [Form.attempt, same, groups_spelled written some, Option.map_some]
  rw [read_of_attempt text .compact _ taken, Compact.read, foldGroups_written]

end Reading

/-- A compact text is cut into the groups it was put together from, and is worth their exact sum if
that fits. So two texts that count each unit alike have the same outcome. -/
theorem read_compact (first : Written) (rest : List Written) :
    scan (spelled (first :: rest)) = (first :: rest).map (fun written => .group written.group) ∧
      groups? (spelled (first :: rest)) = some ((first :: rest).map Written.group) ∧
      (Duration.read (String.ofList (spelled (first :: rest))) =
        if fits : sumOf (first :: rest) ≤ 9223372036854775807 then
          .ok (signed false (sumOf (first :: rest)) fits)
        else .error (.outOfRange (String.ofList (spelled (first :: rest))))) ∧
      ∀ others : List Written, others ≠ [] →
        (∀ unit, counted unit others = counted unit (first :: rest)) →
        Duration.read (String.ofList (spelled others)) =
          (Duration.read (String.ofList (spelled (first :: rest)))).mapError
            fun _ => .outOfRange (String.ofList (spelled others)) := by
  have some : first :: rest ≠ [] := List.cons_ne_nil first rest
  have denotes := read_spelled (first :: rest) some _ String.toList_ofList
  refine ⟨?_, groups_spelled _ some, ?_, ?_⟩
  · rw [spelled, scan_textOf _ (written_matched _), List.map_map]
    rfl
  · rw [denotes]
    split
    · next fits =>
        rw [ofNanos_signed _ fits]
        rfl
    · next large =>
        rw [ofNanos_above _ (by omega)]
        rfl
  · intro others nonempty alike
    have same : sumOf others = sumOf (first :: rest) := by
      rw [sumOf_counted, sumOf_counted]
      exact Finset.sum_congr rfl fun unit _ => by rw [alike unit]
    rw [denotes, read_spelled others nonempty _ String.toList_ofList, same]
    cases ofNanos? (sumOf (first :: rest)) <;> rfl

theorem read_compact_regrouped :
    Duration.read "20M01H10m" =
      (Duration.read "1h30m").mapError fun _ => .outOfRange "20M01H10m" := by
  have hour : (['h'], TimeUnit.hour) ∈ unitNames := by decide
  have minute : (['m'], TimeUnit.minute) ∈ unitNames := by decide
  obtain ⟨_, _, _, alike⟩ := read_compact
    ⟨⟨['1'], List.cons_ne_nil _ _, List.all_eq_true.mp rfl⟩, ['h'], .hour, hour⟩
    [⟨⟨['3', '0'], List.cons_ne_nil _ _, List.all_eq_true.mp rfl⟩, ['m'], .minute, minute⟩]
  exact alike
    [⟨⟨['2', '0'], List.cons_ne_nil _ _, List.all_eq_true.mp rfl⟩, ['M'], .minute, minute⟩,
      ⟨⟨['0', '1'], List.cons_ne_nil _ _, List.all_eq_true.mp rfl⟩, ['H'], .hour, hour⟩,
      ⟨⟨['1', '0'], List.cons_ne_nil _ _, List.all_eq_true.mp rfl⟩, ['m'], .minute, minute⟩]
    (List.cons_ne_nil _ _) (fun unit => by cases unit <;> rfl)

end NodePolicy.Duration.Compact
