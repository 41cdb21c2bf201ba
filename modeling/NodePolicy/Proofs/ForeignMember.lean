import NodePolicy.Proofs.Alike
import NodePolicy.Proofs.LetterCase

/-!
Members that mean nothing. A member whose name is none of the library's, in any letter case, is
found by no lookup of the decoder and hides no other member. So it may be added to any object of a
document, at any place in it, and the decoder gives the same configuration or the same error.
-/

namespace NodePolicy

def Foreign (name : String) : Prop :=
  ∀ own ∈ Key.all, Text.lowercase name ≠ Text.lowercase own

/-- One object, at any depth of a value, with one more member of a foreign name. -/
inductive Extended : Json → Json → Prop
  | here (before after : List (String × Json)) (name : String) (content : Json)
    (foreign : Foreign name) :
    Extended (.object (before ++ after)) (.object (before ++ (name, content) :: after))
  | element (before after : List Json) {first second : Json} (inner : Extended first second) :
    Extended (.array (before ++ first :: after)) (.array (before ++ second :: after))
  | member (before after : List (String × Json)) (name : String) {first second : Json}
    (inner : Extended first second) :
    Extended (.object (before ++ (name, first) :: after))
      (.object (before ++ (name, second) :: after))

theorem member_foreign (before after : List (String × Json)) (name asked : String) (content : Json)
    (other : Text.lowercase name ≠ Text.lowercase asked) :
    (Json.object (before ++ (name, content) :: after)).member? asked =
      (Json.object (before ++ after)).member? asked := by
  have unspelled : (asked == name) = false := by
    rw [beq_eq_false_iff_ne]
    rintro rfl
    exact other rfl
  simp only [member_eq_scan, Json.members, List.lookup_append, List.lookup_cons, List.find?_append,
    List.find?_cons, unspelled, beq_false_of_ne other]

theorem or_rel {related : Json → Json → Prop} {first second third fourth : Option Json}
    (left : Option.Rel related first second) (right : Option.Rel related third fourth) :
    Option.Rel related (first.or third) (second.or fourth) := by
  cases left with
  | none => exact right
  | some inner => exact Option.Rel.some inner

/-- Lookups in two objects that differ in the value of one member. -/
theorem replaced_rel (before after : List (String × Json)) (name asked : String)
    (first second : Json) (inner : Alike first second) :
    Option.Rel Alike ((Json.object (before ++ (name, first) :: after)).member? asked)
      ((Json.object (before ++ (name, second) :: after)).member? asked) := by
  simp only [member_eq_scan, Json.members, List.lookup_append, List.lookup_cons, List.find?_append,
    List.find?_cons, Option.map_or]
  apply or_rel (or_rel (Alike.option_same _) _) (or_rel (Alike.option_same _) _)
  · split
    · exact Option.Rel.some inner
    · exact Alike.option_same _
  · split
    · exact Option.Rel.some inner
    · exact Alike.option_same _

theorem extended_alike (first second : Json) (extended : Extended first second) :
    Alike first second := by
  induction extended with
  | here before after name content foreign =>
      apply Alike.object
      intro own known
      rw [member_foreign before after name own content (foreign own known)]
      exact Alike.option_same _
  | element before after _ ih =>
      have unchanged : ∀ elements : List Json, List.Forall₂ Alike elements elements :=
        fun elements => List.forall₂_same.mpr fun element _ => Alike.same element
      exact Alike.array
        (List.rel_append (unchanged before) (List.Forall₂.cons ih (unchanged after)))
  | member before after name _ ih =>
      exact Alike.object fun asked _ => replaced_rel before after name asked _ _ ih

namespace Decode

/-- A member of a foreign name, added to any object of a document, does not change the result. -/
theorem decode_extended (first second : Json) (extended : Extended first second) :
    Config.decode first = Config.decode second :=
  decode_alike first second (extended_alike first second extended)

def mountDocument (mount : List (String × Json)) : Json :=
  .object [
    (Key.version, .string "1"), (Key.nodeType, .string "edge"), (Key.priority, .ofUInt64 1),
    (Key.resources, .array [.object [
      (Key.name, .string "disk"), (Key.mounts, .array [.object mount])]])]

def plainMount : List (String × Json) :=
  [ (Key.destination, .string "/data"), (Key.mountType, .string "bind"),
    (Key.source, .string "/srv") ]

def remarkedMount : List (String × Json) :=
  [ (Key.destination, .string "/data"), ("ERKLÄRUNG", .array [.null]),
    (Key.mountType, .string "bind"), (Key.source, .string "/srv") ]

theorem remarkedMount_extended :
    Extended (mountDocument plainMount) (mountDocument remarkedMount) := by
  have foreign : Foreign "ERKLÄRUNG" := by
    intro own known
    have lowered : Text.lowercase "ERKLÄRUNG" = "erklärung" := by decide +kernel
    rw [lowered, lowercase_key own known]
    revert own
    decide +kernel
  have mount : Extended (.object plainMount) (.object remarkedMount) :=
    .here [(Key.destination, .string "/data")]
      [(Key.mountType, .string "bind"), (Key.source, .string "/srv")] _ _ foreign
  have resource : Extended
      (.object [(Key.name, .string "disk"), (Key.mounts, .array [.object plainMount])])
      (.object [(Key.name, .string "disk"), (Key.mounts, .array [.object remarkedMount])]) :=
    .member [(Key.name, .string "disk")] [] _ (.element [] [] mount)
  exact .member [(Key.version, .string "1"), (Key.nodeType, .string "edge"),
    (Key.priority, .ofUInt64 1)] [] _ (.element [] [] resource)

theorem remarkedMount_decode :
    Extended (mountDocument plainMount) (mountDocument remarkedMount) ∧
      Config.decode (mountDocument plainMount) = Config.decode (mountDocument remarkedMount) :=
  ⟨remarkedMount_extended, decode_extended _ _ remarkedMount_extended⟩

end Decode

end NodePolicy
