import NodePolicy.Proofs.CompactValue

/-!
The compact pattern against what reads its groups. The pattern admits the digits of every script and
all letters of a unit that differ in case only; a count has a value in ASCII digits only, and three of
those letters are in no name once they are in lower case. So a text of the pattern is worth its exact
sum up to the first group that makes use of either, and that group decides the error.
-/

namespace NodePolicy.Duration.Compact

open NodePolicy.Text

namespace Group

/-- Letters that match a letter of a unit and do not become it in lower case: the long s, and the
Greek mu in both cases. -/
def strangeLetters : List Char := ['\u017f', '\u03bc', '\u039c']

def StrangeUnit (group : Group) : Prop := ∃ c ∈ group.unit, c ∈ strangeLetters

instance (group : Group) : Decidable group.StrangeUnit :=
  inferInstanceAs (Decidable (∃ c ∈ group.unit, c ∈ strangeLetters))

def StrangeCount (group : Group) : Prop := ∃ c ∈ group.count, c.isDigit = false

theorem count_plain (group : Group) (usual : ¬ group.StrangeCount) :
    ∀ c ∈ group.count, c.isDigit = true := by
  intro c member
  by_contra other
  exact usual ⟨c, member, Bool.eq_false_iff.mpr other⟩

end Group

theorem strange_not_plain : ∀ c ∈ Group.strangeLetters, ¬ IsPlain c :=
  List.all_iff_forall_prop.mp (by decide)

section Matched
variable (group : Group) (matched : group.Matched)
include matched

theorem unit_plain (usual : ¬ group.StrangeUnit) : ∀ c ∈ group.unit, IsPlain c := by
  intro c member
  rcases plain_or_strange c (matched.folds c member) with plain | strange
  · exact plain
  · exact absurd ⟨c, member, strange⟩ usual

theorem unitOf_strange (strange : group.StrangeUnit) : unitOf? group.unit = none := by
  obtain ⟨c, member, listed⟩ := strange
  cases named : unitOf? group.unit with
  | none => rfl
  | some unit =>
      have plain := plain_of_unitOf group.unit unit matched.folds named c member
      exact absurd plain (strange_not_plain c listed)

theorem unitOf_usual (usual : ¬ group.StrangeUnit) :
    ∃ unit, unitOf? group.unit = some unit ∧ (group.unit.map foldCase, unit) ∈ unitNames := by
  obtain ⟨unit, named⟩ := matched.named
  refine ⟨unit, ?_, named⟩
  rw [unitOf_of_plain group.unit (unit_plain group matched usual)]
  exact (lookup_iff _ unit).mpr named

theorem unitOf_isSome_iff : (unitOf? group.unit).isSome ↔ ¬ group.StrangeUnit := by
  constructor
  · intro found strange
    rw [unitOf_strange group matched strange] at found
    cases found
  · intro usual
    obtain ⟨unit, named, _⟩ := unitOf_usual group matched usual
    exact Option.isSome_of_eq_some named

theorem readNatural_iff :
    readNatural? group.count = some (digitsValue group.count) ↔ ¬ group.StrangeCount := by
  constructor
  · rintro found ⟨c, member, other⟩
    rw [(readNatural_some _ _ found).2 c member] at other
    cases other
  · intro usual
    rw [readNatural?, if_pos ⟨matched.counted, List.all_eq_true.mpr (group.count_plain usual)⟩]

theorem exists_written (usualUnit : ¬ group.StrangeUnit) (usualCount : ¬ group.StrangeCount) :
    ∃ written : Written, written.group = group := by
  obtain ⟨unit, _, named⟩ := unitOf_usual group matched usualUnit
  have plain := unit_plain group matched usualUnit
  rw [List.map_congr_left fun c member => foldCase_of_plain c (plain c member)] at named
  exact ⟨⟨⟨group.count, matched.counted, group.count_plain usualCount⟩, group.unit, unit, named⟩, rfl⟩

end Matched

theorem addGroup_strange (text : String) (total : Duration) (group : Group)
    (matched : group.Matched) (strange : group.StrangeUnit ∨ group.StrangeCount) :
    addGroup text total group =
      .error (if group.StrangeUnit then .invalidFormat text else .outOfRange text) := by
  by_cases foreign : group.StrangeUnit
  · rw [addGroup, unitOf_strange group matched foreign, if_pos foreign]
  · obtain ⟨unit, named, _⟩ := unitOf_usual group matched foreign
    have unread : addTerm total ⟨group.count, unit⟩ = none := by
      cases added : addTerm total ⟨group.count, unit⟩ with
      | none => rfl
      | some sum =>
          obtain ⟨c, member, other⟩ := strange.resolve_left foreign
          rw [(addTerm_readable total sum _ added).2 c member] at other
          cases other
    rw [addGroup, named, if_neg foreign]
    dsimp only
    rw [unread]

/-- The groups up to the first one that has no value. -/
theorem exists_split (found : List Group) (matched : ∀ group ∈ found, group.Matched) :
    ∃ (written : List Written) (rest : List Group), found = written.map Written.group ++ rest ∧
      ∀ group ∈ rest.head?, group.StrangeUnit ∨ group.StrangeCount := by
  induction found with
  | nil => exact ⟨[], [], rfl, by simp⟩
  | cons group found ih =>
      obtain ⟨here, later⟩ := List.forall_mem_cons.mp matched
      by_cases strange : group.StrangeUnit ∨ group.StrangeCount
      · refine ⟨[], group :: found, rfl, ?_⟩
        rintro _ ⟨⟩
        exact strange
      · obtain ⟨usualUnit, usualCount⟩ := not_or.mp strange
        obtain ⟨first, same⟩ := exists_written group here usualUnit usualCount
        obtain ⟨written, rest, parts, stops⟩ := ih later
        refine ⟨first :: written, rest, ?_, stops⟩
        rw [parts, ← same]
        rfl

/-- What a text is read as whose first groups are worth a sum and the first of the others nothing. -/
def outcome (text : String) (written : List Written) (rest : List Group) :
    Except DurationError Duration :=
  if fits : sumOf written ≤ 9223372036854775807 then
    match rest with
    | [] => .ok (signed false (sumOf written) fits)
    | group :: _ => .error (if group.StrangeUnit then .invalidFormat text else .outOfRange text)
  else .error (.outOfRange text)

theorem read_split (text : String) (written : List Written) (rest : List Group)
    (matched : ∀ group ∈ rest, group.Matched)
    (stops : ∀ group ∈ rest.head?, group.StrangeUnit ∨ group.StrangeCount) :
    read text (written.map Written.group ++ rest) = outcome text written rest := by
  rw [read, List.foldlM_append, foldGroups_written, outcome]
  split
  · next fits =>
      rw [ofNanos_signed _ fits]
      cases rest with
      | nil => rfl
      | cons group rest =>
          have here := addGroup_strange text (signed false (sumOf written) fits) group
            (matched group List.mem_cons_self) (stops group rfl)
          have later : (group :: rest).foldlM (addGroup text) (signed false (sumOf written) fits) =
              .error (if group.StrangeUnit then .invalidFormat text else .outOfRange text) := by
            rw [List.foldlM_cons, here]
            rfl
          exact later
  · next large =>
      rw [ofNanos_above _ (by omega)]
      rfl

/-- A text of the pattern is cut into its groups. A unit is found unless it has a strange letter, a
count is read unless it has a digit of another script, and the groups before the first such one are
worth their exact sum. -/
theorem read_pattern (text : String) (matched : text.toList ∈ Pattern.compact) :
    (∀ group, Piece.group group ∈ scan text.toList →
        ((unitOf? group.unit).isSome ↔ ¬ group.StrangeUnit) ∧
          (readNatural? group.count = some (digitsValue group.count) ↔ ¬ group.StrangeCount)) ∧
      ∃ (written : List Written) (rest : List Group),
        scan text.toList = (written.map Written.group ++ rest).map Piece.group ∧
          (∀ group ∈ rest.head?, group.StrangeUnit ∨ group.StrangeCount) ∧
          Duration.read text = outcome text written rest := by
  rw [Pattern.mem_compact_iff, Option.isSome_iff_exists] at matched
  obtain ⟨found, cut⟩ := matched
  obtain ⟨_, each, same⟩ := (groups_eq_some_iff _ found).mp cut
  have pieces : scan text.toList = found.map Piece.group := same ▸ scan_textOf found each
  refine ⟨?_, ?_⟩
  · intro group listed
    rw [pieces] at listed
    obtain ⟨_, member, ⟨⟩⟩ := List.mem_map.mp listed
    have here := each group member
    exact ⟨unitOf_isSome_iff group here, readNatural_iff group here⟩
  · obtain ⟨written, rest, rfl, stops⟩ := exists_split found each
    refine ⟨written, rest, pieces, stops, ?_⟩
    have taken : Form.attempt text .compact =
        some (read text (written.map Written.group ++ rest)) := by
      rw [Form.attempt, cut, Option.map_some]
    rw [read_of_attempt text .compact _ taken]
    exact read_split text written rest (fun group member => each group (List.mem_append_right _ member))
      stops

/-- Two hours, and a microsecond with a capital Greek mu. -/
theorem read_pattern_sample :
    "2h1\u039cS".toList ∈ Pattern.compact ∧
      (∀ group, Piece.group group ∈ scan "2h1\u039cS".toList →
        ((unitOf? group.unit).isSome ↔ ¬ group.StrangeUnit) ∧
          (readNatural? group.count = some (digitsValue group.count) ↔ ¬ group.StrangeCount)) ∧
      ∃ (written : List Written) (rest : List Group),
        scan "2h1\u039cS".toList = (written.map Written.group ++ rest).map Piece.group ∧
          (∀ group ∈ rest.head?, group.StrangeUnit ∨ group.StrangeCount) ∧
          Duration.read "2h1\u039cS" = outcome "2h1\u039cS" written rest := by
  have matched : "2h1\u039cS".toList ∈ Pattern.compact :=
    (Pattern.mem_compact_iff _).mpr (by decide +kernel)
  exact ⟨matched, read_pattern _ matched⟩

/-- A microsecond in capital letters keeps to the pattern, is short enough and has no value. -/
theorem capital_microsecond_refused :
    "1\u039cS".toList ∈ Pattern.compact ∧
      Duration.read "1\u039cS" = .error (.invalidFormat "1\u039cS") ∧
      ¬ ∀ text : String, text.toList ∈ Pattern.compact →
        (∃ duration, Duration.read text = .ok duration) ∨
          Duration.read text = .error (.outOfRange text) := by
  have matched : "1\u039cS".toList ∈ Pattern.compact :=
    (Pattern.mem_compact_iff _).mpr (by decide +kernel)
  have refused : Duration.read "1\u039cS" = .error (.invalidFormat "1\u039cS") := by decide +kernel
  refine ⟨matched, refused, ?_⟩
  intro always
  rcases always _ matched with ⟨duration, denotes⟩ | large
  · rw [refused] at denotes
    cases denotes
  · rw [refused] at large
    cases large

/-- A digit of another script stands in the way like a count that is too large. -/
example : Duration.read "\u0661s" = .error (.outOfRange "\u0661s") := by decide +kernel

end NodePolicy.Duration.Compact
