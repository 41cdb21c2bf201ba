import Mathlib.Data.List.Nodup
import NodePolicy.Config.Key
import NodePolicy.Proofs.Lowercase
import NodePolicy.Proofs.Schema

/-!
Letter case in lookups. The index of a record answers as a scan of its members in document order,
whatever names collide in it. The names of the library are ASCII and differ in more than letter
case, so among them a lookup finds a member by its own spelling.
-/

namespace NodePolicy

theorem indexName_lookup (index : List (String × Json)) (name asked : String) (value : Json) :
    (indexName index name value).lookup asked =
      (index.lookup asked).or (if name = asked then some value else none) := by
  rw [indexName]
  cases known : index.lookup name with
  | none =>
      rw [if_neg (by simp), List.lookup_append]
      by_cases same : name = asked
      · subst name
        rw [List.lookup_cons_self, if_pos rfl]
      · rw [List.lookup_cons, beq_false_of_ne (Ne.symm same), List.lookup_nil, if_neg same]
  | some earlier =>
      rw [Option.isSome_some, if_pos rfl]
      by_cases same : name = asked
      · subst name
        rw [known, Option.some_or]
      · rw [if_neg same, Option.or_none]

theorem foldIndex_lookup (members index : List (String × Json)) (asked : String) :
    (members.foldl (fun index item => indexName index (Text.lowercase item.1) item.2) index).lookup
        asked =
      (index.lookup asked).or
        ((members.find? fun item => Text.lowercase item.1 == asked).map Prod.snd) := by
  -- What is in the index already counts before every member still to come.
  induction members generalizing index with
  | nil => simp
  | cons item rest ih =>
      rw [List.foldl_cons, ih, indexName_lookup, Option.or_assoc, List.find?_cons]
      by_cases same : Text.lowercase item.1 = asked
      · simp [same]
      · simp [same, beq_false_of_ne]

/-- A member spelled as asked, else the first that differs in letter case only. -/
theorem member_eq_scan (value : Json) (name : String) :
    value.member? name =
      (value.members.lookup name).or
        ((value.members.find? fun item => Text.lowercase item.1 == Text.lowercase name).map
          Prod.snd) := by
  have scanned := foldIndex_lookup value.members [] (Text.lowercase name)
  rw [List.lookup_nil, Option.none_or] at scanned
  exact congrArg (Option.or (value.members.lookup name)) scanned

/-- A lookup fails exactly when no name is the one asked for, apart from letter case. -/
theorem member_eq_none_iff (members : List (String × Json)) (name : String) :
    (Json.object members).member? name = none ↔
      ∀ item ∈ members, Text.lowercase item.1 ≠ Text.lowercase name := by
  rw [member_eq_scan, Json.members, Option.or_eq_none_iff, Option.map_eq_none_iff,
    List.lookup_eq_none_iff, List.find?_eq_none]
  simp only [beq_iff_eq, bne_iff_ne]
  constructor
  · intro unmatched item member
    exact unmatched.2 item member
  · intro unmatched
    refine ⟨?_, unmatched⟩
    rintro item member rfl
    exact unmatched item member rfl

theorem mem_of_member (members : List (String × Json)) (name : String) (found : Json)
    (looked : (Json.object members).member? name = some found) :
    ∃ item ∈ members, Text.lowercase item.1 = Text.lowercase name ∧ item.2 = found := by
  rw [member_eq_scan, Json.members, Option.or_eq_some_iff, Option.map_eq_some_iff] at looked
  rcases looked with spelled | ⟨_, item, first, same⟩
  · obtain ⟨before, after, rfl, _⟩ := List.lookup_eq_some_iff.mp spelled
    exact ⟨(name, found), by simp, rfl, rfl⟩
  · exact ⟨item, List.mem_of_find?_eq_some first, by simpa using List.find?_some first, same⟩

/-- Among names that differ in more than letter case a lookup does not depend on their order. -/
theorem member_of_distinct (members : List (String × Json))
    (distinct : (members.map fun item => Text.lowercase item.1).Nodup) (item : String × Json)
    (listed : item ∈ members) (name : String)
    (matched : Text.lowercase item.1 = Text.lowercase name) :
    (Json.object members).member? name = some item.2 := by
  cases looked : (Json.object members).member? name with
  | none => exact absurd matched ((member_eq_none_iff members name).mp looked item listed)
  | some found =>
      obtain ⟨other, alsoListed, alsoMatched, same⟩ := mem_of_member members name found looked
      have one : other = item :=
        List.inj_on_of_nodup_map distinct alsoListed listed (alsoMatched.trans matched.symm)
      rw [← same, one]

theorem keys_ascii (name : String) (own : name ∈ Key.all) : ∀ c ∈ name.toList, c.toNat < 128 := by
  have ascii : (Key.all.all fun name => name.toList.all fun c => c.toNat < 128) = true := by
    decide +kernel
  intro c member
  have all := List.all_eq_true.mp ascii name own
  exact decide_eq_true_iff.mp (List.all_eq_true.mp all c member)

theorem lowercase_key (name : String) (own : name ∈ Key.all) :
    Text.lowercase name = String.ofList (name.toList.map Char.toLower) := by
  have plain : ∀ c ∈ name.toList, Text.LowersAlone c := fun c member =>
    Text.lowersAlone_ascii c (keys_ascii name own c member)
  rw [Text.lowercase, Text.lowercaseAfter_alone [] name.toList plain]

theorem lowered_keys_differ : (Key.all.map fun name => name.toList.map Char.toLower).Nodup := by
  decide +kernel

theorem lowercase_key_inj (first second : String) (own : first ∈ Key.all) (other : second ∈ Key.all)
    (same : Text.lowercase first = Text.lowercase second) : first = second := by
  rw [lowercase_key first own, lowercase_key second other, String.ofList_inj] at same
  exact List.inj_on_of_nodup_map lowered_keys_differ own other same

/-- Among the library's own names a lookup is one by spelling. -/
theorem member_of_own_names (members : List (String × Json)) (name : String)
    (own : ∀ item ∈ members, item.1 ∈ Key.all) (asked : name ∈ Key.all) :
    (Json.object members).member? name = members.lookup name := by
  cases spelled : members.lookup name with
  | some found => rw [member_eq_scan, Json.members, spelled, Option.some_or]
  | none =>
      -- A name of another spelling differs in lower case too, so the index finds nothing either.
      rw [member_eq_none_iff]
      intro item member same
      have alike : item.1 = name := lowercase_key_inj item.1 name (own item member) asked same
      exact bne_iff_ne.mp (List.lookup_eq_none_iff.mp spelled item member) alike.symm

end NodePolicy
