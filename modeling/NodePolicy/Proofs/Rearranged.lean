import NodePolicy.Proofs.Alike
import NodePolicy.Proofs.Layout
import NodePolicy.Proofs.LetterCase

/-!
Letter case and order of members. Where no two names of an object differ in letter case only, a
lookup finds the one member whose name matches, wherever it stands and however it is spelled. So
members may be renamed in case and put in any order, at every depth, and the decoder gives the same
configuration or the same error.
-/

namespace NodePolicy

def lowercaseNames (members : List (String × Json)) : List String :=
  members.map fun item => Text.lowercase item.1

inductive NamesDistinct : Json → Prop
  | scalar (value : Json) (scalar : value.isScalar = true) : NamesDistinct value
  | array {elements : List Json} (each : ∀ element ∈ elements, NamesDistinct element) :
    NamesDistinct (.array elements)
  | object {members : List (String × Json)} (distinct : (lowercaseNames members).Nodup)
    (each : ∀ item ∈ members, NamesDistinct item.2) : NamesDistinct (.object members)

/-- Values that differ in the letter case of names and in the order of members, at any depth. The
members of an object are matched one to one with those of the other in some order of these. -/
inductive CaseVariant : Json → Json → Prop
  | scalar (value : Json) (scalar : value.isScalar = true) : CaseVariant value value
  | array {first second : List Json} (elements : List.Forall₂ CaseVariant first second) :
    CaseVariant (.array first) (.array second)
  | object {first matched second : List (String × Json)}
    (names : lowercaseNames first = lowercaseNames matched)
    (values : List.Forall₂ (fun item other => CaseVariant item.2 other.2) first matched)
    (order : matched.Perm second) : CaseVariant (.object first) (.object second)

theorem exists_partner {α β : Type} {related : α → β → Prop} {first : List α} {second : List β}
    (pairs : List.Forall₂ related first second) :
    (∀ item ∈ first, ∃ other ∈ second, related item other) ∧
      ∀ other ∈ second, ∃ item ∈ first, related item other := by
  induction pairs with
  | nil => simp
  | cons head _ ih =>
      simp only [List.forall_mem_cons, List.exists_mem_cons_iff]
      exact ⟨⟨Or.inl head, fun item member => Or.inr (ih.1 item member)⟩,
        Or.inl head, fun other member => Or.inr (ih.2 other member)⟩

theorem matched_pairs {related : Json → Json → Prop} {first matched : List (String × Json)}
    (names : lowercaseNames first = lowercaseNames matched)
    (values : List.Forall₂ (fun item other => related item.2 other.2) first matched) :
    List.Forall₂ (fun item other =>
      Text.lowercase item.1 = Text.lowercase other.1 ∧ related item.2 other.2) first matched := by
  induction values with
  | nil => exact List.Forall₂.nil
  | cons head _ ih =>
      obtain ⟨same, rest⟩ := List.cons.inj names
      exact List.Forall₂.cons ⟨same, head⟩ (ih rest)

theorem rearranged_rel {related : Json → Json → Prop} {first matched second : List (String × Json)}
    (distinct : (lowercaseNames first).Nodup)
    (names : lowercaseNames first = lowercaseNames matched)
    (values : List.Forall₂ (fun item other => related item.2 other.2) first matched)
    (order : matched.Perm second) (name : String) :
    Option.Rel related ((Json.object first).member? name) ((Json.object second).member? name) := by
  have partners := exists_partner (matched_pairs names values)
  have alsoDistinct : (lowercaseNames second).Nodup := by
    rw [names] at distinct
    exact (order.map _).nodup_iff.mp distinct
  cases looked : (Json.object first).member? name with
  | none =>
      have absent : (Json.object second).member? name = none := by
        rw [member_eq_none_iff] at looked ⊢
        intro other listed matching
        obtain ⟨item, among, same, _⟩ := partners.2 other (order.mem_iff.mpr listed)
        exact looked item among (same.trans matching)
      rw [absent]
      exact Option.Rel.none
  | some found =>
      obtain ⟨item, listed, matching, rfl⟩ := mem_of_member first name found looked
      obtain ⟨other, among, same, inner⟩ := partners.1 item listed
      rw [member_of_distinct second alsoDistinct other (order.mem_iff.mp among) name
        (same.symm.trans matching)]
      exact Option.Rel.some inner

theorem caseVariant_alike (first second : Json) (distinct : NamesDistinct first)
    (variant : CaseVariant first second) : Alike first second := by
  induction distinct generalizing second with
  | scalar value scalar =>
      cases variant with
      | scalar => exact Alike.same value
      | array => cases scalar
      | object => cases scalar
  | array each ih =>
      cases variant with
      | scalar => exact Alike.same _
      | array elements =>
          have both := (List.forall₂_and_left _ _).mpr ⟨ih, elements⟩
          exact Alike.array (both.imp fun element other pair => pair.1 other pair.2)
  | object differ each ih =>
      cases variant with
      | scalar => exact Alike.same _
      | object names values order =>
          have both := (List.forall₂_and_left _ _).mpr ⟨ih, values⟩
          have inner := both.imp fun item other pair => pair.1 other.2 pair.2
          exact Alike.object fun name _ => rearranged_rel differ names inner order name

namespace Decode

/-- A document is decoded to the same result in every letter case of its names and every order of
its members. -/
theorem decode_caseVariant (first second : Json) (distinct : NamesDistinct first)
    (variant : CaseVariant first second) : Config.decode first = Config.decode second :=
  decode_alike first second (caseVariant_alike first second distinct variant)

def plainRule : List (String × Json) :=
  [(Key.minThreshold, .ofUInt64 80), (Key.maxThreshold, .ofUInt64 90)]

def capitalRule : List (String × Json) :=
  [("MAXTHRESHOLD", .ofUInt64 90), ("MINTHRESHOLD", .ofUInt64 80)]

def plainMembers : List (String × Json) :=
  [ (Key.version, .string "1"), (Key.nodeType, .string "edge"), (Key.priority, .ofUInt64 1),
    (Key.labels, .array [.string "a"]), (Key.alertRules, .object [(Key.ram, .object plainRule)]) ]

def capitalMembers : List (String × Json) :=
  [ ("ALERTRULES", .object [("Ram", .object capitalRule)]), ("Labels", .array [.string "a"]),
    ("PRIORITY", .ofUInt64 1), ("nodetype", .string "edge"), ("Version", .string "1") ]

theorem plainMembers_distinct : NamesDistinct (.object plainMembers) := by
  have rule : NamesDistinct (.object plainRule) := by
    refine .object (by decide +kernel) ?_
    simp only [plainRule, List.forall_mem_cons]
    exact ⟨.scalar _ rfl, .scalar _ rfl, List.forall_mem_nil _⟩
  have rules : NamesDistinct (.object [(Key.ram, .object plainRule)]) := by
    refine .object (by decide +kernel) ?_
    simp only [List.forall_mem_cons]
    exact ⟨rule, List.forall_mem_nil _⟩
  have labels : NamesDistinct (.array [.string "a"]) := by
    refine .array ?_
    simp only [List.forall_mem_cons]
    exact ⟨.scalar _ rfl, List.forall_mem_nil _⟩
  refine .object (by decide +kernel) ?_
  simp only [plainMembers, List.forall_mem_cons]
  exact ⟨.scalar _ rfl, .scalar _ rfl, .scalar _ rfl, labels, rules, List.forall_mem_nil _⟩

/-- Every object in capitals has its members from last to first. -/
theorem capitalMembers_variant : CaseVariant (.object plainMembers) (.object capitalMembers) := by
  have rule : CaseVariant (.object plainRule) (.object capitalRule) := by
    have names : lowercaseNames plainRule = lowercaseNames capitalRule.reverse := by
      decide +kernel
    exact .object names (.cons (.scalar _ rfl) (.cons (.scalar _ rfl) .nil))
      (List.reverse_perm capitalRule)
  have rules : CaseVariant (.object [(Key.ram, .object plainRule)])
      (.object [("Ram", .object capitalRule)]) := by
    have names : lowercaseNames [(Key.ram, .object plainRule)] =
        lowercaseNames [("Ram", .object capitalRule)] := by
      decide +kernel
    exact .object names (.cons rule .nil) (List.Perm.refl _)
  have labels : CaseVariant (.array [.string "a"]) (.array [.string "a"]) :=
    .array (.cons (.scalar _ rfl) .nil)
  have names : lowercaseNames plainMembers = lowercaseNames capitalMembers.reverse := by
    decide +kernel
  exact .object names (.cons (.scalar _ rfl) (.cons (.scalar _ rfl) (.cons (.scalar _ rfl)
    (.cons labels (.cons rules .nil))))) (List.reverse_perm capitalMembers)

theorem capitalMembers_decode :
    NamesDistinct (.object plainMembers) ∧
      CaseVariant (.object plainMembers) (.object capitalMembers) ∧
      Config.decode (.object plainMembers) = Config.decode (.object capitalMembers) :=
  ⟨plainMembers_distinct, capitalMembers_variant,
    decode_caseVariant _ _ plainMembers_distinct capitalMembers_variant⟩

end Decode

end NodePolicy
