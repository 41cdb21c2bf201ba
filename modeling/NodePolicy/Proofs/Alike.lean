import NodePolicy.Config.Decode
import NodePolicy.Proofs.Schema

/-!
What the decoder sees of a value. It asks an object for members by the library's own names and for
nothing else, so values that answer these questions alike, at every depth, are decoded alike: to the
same configuration, or with the same error at the same place.
-/

namespace NodePolicy

/-- Values that the library's own names cannot tell apart. -/
inductive Alike : Json → Json → Prop
  | same (value : Json) : Alike value value
  | array {first second : List Json} (elements : List.Forall₂ Alike first second) :
    Alike (.array first) (.array second)
  | object {first second : List (String × Json)}
    (found : ∀ name ∈ Key.all,
      Option.Rel Alike ((Json.object first).member? name) ((Json.object second).member? name)) :
    Alike (.object first) (.object second)

def Shape.Scalar {α : Type} (shape : Shape α) : Prop :=
  (∀ elements, shape.read? (.array elements) = none) ∧
    ∀ members, shape.read? (.object members) = none

theorem text_scalar : Shape.text.Scalar := ⟨fun _ => rfl, fun _ => rfl⟩

theorem unsigned_scalar : Shape.unsigned.Scalar := ⟨fun _ => rfl, fun _ => rfl⟩

theorem unsigned32_scalar : Shape.unsigned32.Scalar := ⟨fun _ => rfl, fun _ => rfl⟩

namespace Alike

theorem option_same (found : Option Json) : Option.Rel Alike found found := by
  cases found with
  | none => exact Option.Rel.none
  | some value => exact Option.Rel.some (same value)

section Question
variable {first second : Json} (alike : Alike first second)
include alike

theorem typeName_eq : first.typeName = second.typeName := by
  cases alike <;> rfl

theorem isObject_eq : first.isObject = second.isObject := by
  cases alike <;> rfl

theorem extract_eq {α : Type} (shape : Shape α) (scalar : shape.Scalar) :
    shape.extract first = shape.extract second := by
  cases alike with
  | same => rfl
  | array _ =>
      rw [Shape.extract, Shape.extract, scalar.1, scalar.1]
      rfl
  | object _ =>
      rw [Shape.extract, Shape.extract, scalar.2, scalar.2]
      rfl

theorem elements_rel :
    Option.Rel (List.Forall₂ Alike) first.elements? second.elements? := by
  cases alike with
  | same =>
      cases first.elements? with
      | none => exact Option.Rel.none
      | some elements => exact Option.Rel.some (List.forall₂_same.mpr fun element _ => same element)
  | array elements => exact Option.Rel.some elements
  | object _ => exact Option.Rel.none

theorem member_rel (name : String) (own : name ∈ Key.all) :
    Option.Rel Alike (first.member? name) (second.member? name) := by
  cases alike with
  | same => exact option_same _
  | array _ => exact Option.Rel.none
  | object found => exact found name own

/-- Both lookups fail, or both find a member and these are alike. -/
theorem get?_cases (name : String) (own : name ∈ Key.all) :
    ((Record.ofValue first).get? name = none ∧ (Record.ofValue second).get? name = none) ∨
      ∃ member other, (Record.ofValue first).get? name = some member ∧
        (Record.ofValue second).get? name = some other ∧ Alike member other := by
  have related : Option.Rel Alike ((Record.ofValue first).get? name)
      ((Record.ofValue second).get? name) := alike.member_rel name own
  generalize (Record.ofValue first).get? name = found at related ⊢
  generalize (Record.ofValue second).get? name = seen at related ⊢
  cases related with
  | none => exact Or.inl ⟨rfl, rfl⟩
  | some inner => exact Or.inr ⟨_, _, rfl, rfl, inner⟩

end Question

end Alike

namespace Decode

open Alike

/-- A decoder to which values that are alike are one. -/
def Agrees {α : Type} (decode : Record → Except ConfigError α) : Prop :=
  ∀ first second, Alike first second → decode (.ofValue first) = decode (.ofValue second)

section Member
variable {first second : Json} (alike : Alike first second)
include alike

theorem ofObject_agrees {α : Type} (next : Record → Except ConfigError α) (agrees : Agrees next) :
    ((Record.ofObject first).mapError ConfigError.field >>= next) =
      ((Record.ofObject second).mapError ConfigError.field >>= next) := by
  rw [Record.ofObject, Record.ofObject, alike.isObject_eq, alike.typeName_eq]
  split
  · exact agrees first second alike
  · rfl

variable (name : String) (own : name ∈ Key.all)
include own

theorem getShaped_agrees {α : Type} (shape : Shape α) (scalar : shape.Scalar) :
    (Record.ofValue first).getShaped shape name = (Record.ofValue second).getShaped shape name := by
  rcases alike.get?_cases name own with ⟨missing, absent⟩ | ⟨member, other, found, seen, inner⟩
  · simp only [Record.getShaped, Record.get, missing, absent]
  · simp only [Record.getShaped, Record.get, found, seen]
    exact inner.extract_eq shape scalar

theorem shaped_agrees {α : Type} (shape : Shape α) (scalar : shape.Scalar) :
    shaped (.ofValue first) shape name = shaped (.ofValue second) shape name := by
  rw [shaped, shaped, getShaped_agrees alike name own shape scalar]

theorem text_agrees {bytes : Nat} :
    (text (.ofValue first) name : Except ConfigError (BoundedText bytes)) =
      text (.ofValue second) name := by
  rw [text, text, getShaped_agrees alike name own .text text_scalar]

theorem getOptional_agrees {α : Type} (shape : Shape α) (scalar : shape.Scalar) :
    (Record.ofValue first).getOptional shape name =
      (Record.ofValue second).getOptional shape name := by
  rcases alike.get?_cases name own with ⟨missing, absent⟩ | ⟨member, other, found, seen, inner⟩
  · simp only [Record.getOptional, missing, absent]
  · simp only [Record.getOptional, found, seen, inner.extract_eq shape scalar]

theorem getElements_cases :
    (∃ cause, (Record.ofValue first).getElements name = .error cause ∧
        (Record.ofValue second).getElements name = .error cause) ∨
      ∃ elements others, (Record.ofValue first).getElements name = .ok elements ∧
        (Record.ofValue second).getElements name = .ok others ∧
        List.Forall₂ Alike elements others := by
  rcases alike.get?_cases name own with ⟨missing, absent⟩ | ⟨member, other, found, seen, inner⟩
  · simp only [Record.getElements, missing, absent]
    exact Or.inr ⟨[], [], rfl, rfl, List.Forall₂.nil⟩
  · have related := inner.elements_rel
    simp only [Record.getElements, found, seen, inner.typeName_eq]
    generalize member.elements? = elements at related ⊢
    generalize other.elements? = others at related ⊢
    cases related with
    | none => exact Or.inl ⟨_, rfl, rfl⟩
    | some pairs => exact Or.inr ⟨_, _, rfl, rfl, pairs⟩

end Member

theorem foldElements_agrees {ε σ : Type} (step : σ → Nat → Json → Except ε σ)
    (agrees : ∀ state index element other, Alike element other →
      step state index element = step state index other)
    (index : Nat) (state : σ) (elements others : List Json)
    (pairs : List.Forall₂ Alike elements others) :
    Record.foldElements step index state elements =
      Record.foldElements step index state others := by
  induction pairs generalizing index state with
  | nil => rfl
  | cons head _ ih => simp only [Record.foldElements, agrees state index _ _ head, ih]

section Array
variable {first second : Json} (alike : Alike first second) (name : String) (own : name ∈ Key.all)
include alike own

theorem foldArray_agrees {ε σ : Type} (fieldError : FieldError → ε) (start : σ)
    (step : σ → Nat → Json → Except ε σ)
    (agrees : ∀ state index element other, Alike element other →
      step state index element = step state index other) :
    (Record.ofValue first).foldArray name fieldError start step =
      (Record.ofValue second).foldArray name fieldError start step := by
  rw [Record.foldArray, Record.foldArray]
  rcases getElements_cases alike name own with
    ⟨cause, refused, rejected⟩ | ⟨elements, others, found, seen, pairs⟩
  · rw [refused, rejected]
  · rw [found, seen]
    exact foldElements_agrees step agrees 0 start elements others pairs

theorem texts_agrees {bytes capacity : Nat} :
    (texts (.ofValue first) name : Except ConfigError (BoundedList (BoundedText bytes) capacity)) =
      texts (.ofValue second) name := by
  rw [texts, texts, foldArray_agrees alike name own]
  intro found index element other pair
  rw [pair.extract_eq .text text_scalar]

theorem objects_agrees {α : Type} {capacity : Nat} (decode : Record → Except ConfigError α)
    (agrees : Agrees decode) :
    (objects (.ofValue first) name decode : Except ConfigError (BoundedList α capacity)) =
      objects (.ofValue second) name decode := by
  rw [objects, objects, foldArray_agrees alike name own]
  intro found index element other pair
  apply congrArg (inside (ConfigError.element index))
  apply ofObject_agrees pair
  intro inner outer related
  simp only [agrees inner outer related]

theorem optionalObject_agrees {α : Type} (decode : Record → Except ConfigError α)
    (agrees : Agrees decode) :
    optionalObject (.ofValue first) name decode = optionalObject (.ofValue second) name decode := by
  rcases alike.get?_cases name own with ⟨missing, absent⟩ | ⟨member, other, found, seen, inner⟩
  · simp only [optionalObject, Record.has, missing, absent]
    rfl
  · simp only [optionalObject, Record.has, Record.getObject, Record.get, found, seen]
    apply congrArg (inside name)
    apply ofObject_agrees inner
    intro object another related
    simp only [agrees object another related]

end Array

theorem minTimeout_agrees : Agrees minTimeout := by
  intro first second alike
  rw [minTimeout, minTimeout, getOptional_agrees alike Key.minTimeout (by decide) .text text_scalar]

theorem device_agrees : Agrees device := by
  intro first second alike
  simp (disch := decide) only [device, text_agrees alike, texts_agrees alike,
    shaped_agrees alike _ _ .unsigned unsigned_scalar]

theorem mount_agrees : Agrees mount := by
  intro first second alike
  simp (disch := decide) only [mount, text_agrees alike, texts_agrees alike]

theorem host_agrees : Agrees host := by
  intro first second alike
  simp (disch := decide) only [host, text_agrees alike]

theorem resource_agrees : Agrees resource := by
  intro first second alike
  simp (disch := decide) only [resource, text_agrees alike, texts_agrees alike,
    objects_agrees alike _ _ mount mount_agrees, objects_agrees alike _ _ host host_agrees]

theorem rule_agrees {α : Type} (threshold : Threshold α) (scalar : threshold.shape.Scalar) :
    Agrees (rule threshold) := by
  intro first second alike
  simp (disch := decide) only [rule, minTimeout_agrees first second alike,
    shaped_agrees alike _ _ threshold.shape scalar]

theorem percentRule_agrees : Agrees (rule .percent) :=
  rule_agrees .percent ⟨fun _ => rfl, fun _ => rfl⟩

theorem pointRule_agrees : Agrees (rule .points) :=
  rule_agrees .points unsigned_scalar

theorem partitionRule_agrees : Agrees partitionRule := by
  intro first second alike
  simp (disch := decide) only [partitionRule, text_agrees alike,
    percentRule_agrees first second alike]

theorem alertRules_agrees : Agrees alertRules := by
  intro first second alike
  simp (disch := decide) only [alertRules,
    optionalObject_agrees alike _ _ (rule .percent) percentRule_agrees,
    optionalObject_agrees alike _ _ (rule .points) pointRule_agrees,
    objects_agrees alike _ _ partitionRule partitionRule_agrees]

theorem withoutAlertRules_agrees : Agrees withoutAlertRules := by
  intro first second alike
  simp (disch := decide) only [withoutAlertRules, text_agrees alike, texts_agrees alike,
    shaped_agrees alike _ _ .unsigned32 unsigned32_scalar,
    objects_agrees alike _ _ device device_agrees,
    objects_agrees alike _ _ resource resource_agrees]

/-- Values that are alike are decoded to one result, be it a configuration or an error. -/
theorem decode_alike (first second : Json) (alike : Alike first second) :
    Config.decode first = Config.decode second := by
  apply ofObject_agrees alike
  intro object other related
  simp (disch := decide) only [withoutAlertRules_agrees object other related,
    optionalObject_agrees related _ _ alertRules alertRules_agrees]

end Decode

end NodePolicy
