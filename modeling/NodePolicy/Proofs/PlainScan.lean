import NodePolicy.Proofs.LetterCase
import NodePolicy.Proofs.Outcome

/-!
A record and a plain scan. A record looks names up in an index that was filled member by member; a
scan knows only the members in document order. Both find the same member for every name, and every
way to read a record goes through that one member.
-/

namespace NodePolicy

def scanMembers (passes : String → Bool) : List (String × Json) → Option Json
  | [] => none
  | (name, value) :: rest => if passes name then some value else scanMembers passes rest

/-- The member that is spelled as asked, else the first that is spelled so apart from letter case.
Only an object has members. -/
def Json.scan? : Json → String → Option Json
  | .object members, name =>
    (scanMembers (· == name) members).or
      (scanMembers (fun other => Text.lowercase other == Text.lowercase name) members)
  | _, _ => none

theorem scanMembers_eq_find (passes : String → Bool) (members : List (String × Json)) :
    scanMembers passes members = (members.find? fun item => passes item.1).map Prod.snd := by
  induction members with
  | nil => rfl
  | cons item rest ih =>
      rw [scanMembers, List.find?_cons]
      cases passes item.1 with
      | true => rfl
      | false => exact ih

theorem lookup_eq_scan (members : List (String × Json)) (name : String) :
    members.lookup name = scanMembers (· == name) members := by
  induction members with
  | nil => rfl
  | cons item rest ih =>
      rw [scanMembers, List.lookup_cons, BEq.comm]
      cases item.1 == name with
      | true => rfl
      | false => exact ih

theorem member_eq_scanned (value : Json) (name : String) : value.member? name = value.scan? name := by
  rw [member_eq_scan]
  cases value with
  | object members =>
      rw [Json.members, Json.scan?, lookup_eq_scan, scanMembers_eq_find fun other =>
        Text.lowercase other == Text.lowercase name]
  | null => rfl
  | boolean _ => rfl
  | number _ => rfl
  | string _ => rfl
  | array _ => rfl

namespace Record

variable {α ε σ : Type}

/-- A record is made from its value alone, so what is known of new records holds of all. -/
theorem ofValue_value (record : Record) : ofValue record.value = record := by
  obtain ⟨value, index, rfl⟩ := record
  rfl

theorem get?_scanned (record : Record) (name : String) :
    record.get? name = record.value.scan? name := by
  rw [← member_eq_scanned, Json.member?, ofValue_value]

theorem foldElements_eq_foldlM (step : σ → Nat → Json → Except ε σ) (index : Nat) (state : σ)
    (elements : List Json) :
    foldElements step index state elements =
      (elements.zipIdx index).foldlM (fun state item => step state item.2 item.1) state := by
  induction elements generalizing index state with
  | nil => rfl
  | cons element rest ih =>
      rw [foldElements, List.zipIdx_cons, List.foldlM_cons]
      exact bind_congr fun next => ih (index + 1) next

/-- Elements that are taken one by one behind those that were there. -/
theorem foldElements_collects (convert : Json → Except ε α) (index : Nat) (found : List α)
    (elements : List Json) :
    foldElements (fun found _ element => do return found ++ [← convert element]) index found
        elements =
      (elements.mapM convert).map (found ++ ·) := by
  induction elements generalizing index found with
  | nil => simp [foldElements, Except.map, pure, Except.pure]
  | cons element rest ih =>
      rw [foldElements, List.mapM_cons]
      cases convert element with
      | error cause => rfl
      | ok content =>
          refine (ih (index + 1) (found ++ [content])).trans ?_
          cases rest.mapM convert with
          | error cause => rfl
          | ok later => exact congrArg Except.ok (List.append_assoc found [content] later)

theorem has_scanned (record : Record) (name : String) :
    record.has name = (record.value.scan? name).isSome := by
  rw [has, get?_scanned]

theorem get_scanned (record : Record) (name : String) :
    record.get name = match record.value.scan? name with
      | some member => .ok member
      | none => .error .missing := by
  rw [← get?_scanned]
  rfl

theorem getShaped_scanned (record : Record) (shape : Shape α) (name : String) :
    record.getShaped shape name = match record.value.scan? name with
      | some member => shape.extract member
      | none => .error .missing := by
  rw [getShaped, get_scanned]
  cases record.value.scan? name <;> rfl

theorem getOptional_scanned (record : Record) (shape : Shape α) (name : String) :
    record.getOptional shape name = match record.value.scan? name with
      | some member => (shape.extract member).map some
      | none => .ok none := by
  rw [← get?_scanned]
  rfl

theorem getObject_scanned (record : Record) (name : String) :
    record.getObject name = match record.value.scan? name with
      | some member => ofObject member
      | none => .error .missing := by
  rw [getObject, get_scanned]
  cases record.value.scan? name <;> rfl

theorem getElements_scanned (record : Record) (name : String) :
    record.getElements name = match record.value.scan? name with
      | some (.array elements) => .ok elements
      | some member => .error (.wrongType "array" member.typeName)
      | none => .ok [] := by
  rw [getElements, get?_scanned]
  cases record.value.scan? name with
  | none => rfl
  | some member => cases member <;> rfl

theorem foldArray_scanned (record : Record) (name : String) (fieldError : FieldError → ε)
    (start : σ) (step : σ → Nat → Json → Except ε σ) :
    record.foldArray name fieldError start step = match record.value.scan? name with
      | some (.array elements) =>
        elements.zipIdx.foldlM (fun state item => step state item.2 item.1) start
      | some member => .error (fieldError (.wrongType "array" member.typeName))
      | none => .ok start := by
  rw [foldArray, getElements_scanned]
  cases record.value.scan? name with
  | none => rfl
  | some member =>
      cases member with
      | array elements => exact foldElements_eq_foldlM step 0 start elements
      | null => rfl
      | boolean _ => rfl
      | number _ => rfl
      | string _ => rfl
      | object _ => rfl

theorem getArray_scanned (record : Record) (shape : Shape α) (name : String) :
    record.getArray shape name = match record.value.scan? name with
      | some (.array elements) => elements.mapM shape.extract
      | some member => .error (.wrongType "array" member.typeName)
      | none => .ok [] := by
  rw [getArray, foldArray, getElements_scanned]
  cases record.value.scan? name with
  | none => rfl
  | some member =>
      cases member with
      | array elements =>
          show foldElements _ 0 [] elements = elements.mapM shape.extract
          rw [foldElements_collects]
          cases elements.mapM shape.extract <;> rfl
      | null => rfl
      | boolean _ => rfl
      | number _ => rfl
      | string _ => rfl
      | object _ => rfl

/-- A value of another shape is not taken for a member that is missing. -/
theorem extract_ne_missing (shape : Shape α) (value : Json) :
    shape.extract value ≠ .error .missing := by
  intro refused
  cases extract_error shape value .missing refused

theorem getShaped_missing_iff (record : Record) (shape : Shape α) (name : String) :
    record.getShaped shape name = .error .missing ↔ record.has name = false := by
  rw [getShaped_scanned, has_scanned]
  cases record.value.scan? name with
  | none => simp
  | some member => simp [extract_ne_missing]

theorem getOptional_absent_iff (record : Record) (shape : Shape α) (name : String) :
    record.getOptional shape name = .ok none ↔ record.has name = false := by
  rw [getOptional_scanned, has_scanned]
  cases record.value.scan? name with
  | none => simp
  | some member => simp [map_ok_iff]

theorem getOptional_present (record : Record) (shape : Shape α) (name : String) :
    record.getOptional shape name =
      if record.has name then (record.getShaped shape name).map some else .ok none := by
  rw [getOptional_scanned, getShaped_scanned, has_scanned]
  cases record.value.scan? name <;> rfl

/-- Every name stands for the member that a plain scan finds, and for none where the scan finds none
or the value is no object. All ways to read a record read that member, and an optional value differs
from a required one in the member that is missing and in nothing else. -/
theorem reads_scanned_member (record : Record) (name : String) :
    record.get? name = record.value.scan? name ∧
      record.has name = (record.value.scan? name).isSome ∧
      (∀ {α : Type} (shape : Shape α),
        record.getShaped shape name = (match record.value.scan? name with
          | some member => shape.extract member
          | none => .error .missing) ∧
        record.getOptional shape name = (match record.value.scan? name with
          | some member => (shape.extract member).map some
          | none => .ok none) ∧
        record.getArray shape name = (match record.value.scan? name with
          | some (.array elements) => elements.mapM shape.extract
          | some member => .error (.wrongType "array" member.typeName)
          | none => .ok [])) ∧
      record.getObject name = (match record.value.scan? name with
        | some member => ofObject member
        | none => .error .missing) ∧
      (∀ {ε σ : Type} (fieldError : FieldError → ε) (start : σ)
          (step : σ → Nat → Json → Except ε σ),
        record.foldArray name fieldError start step = match record.value.scan? name with
          | some (.array elements) =>
            elements.zipIdx.foldlM (fun state item => step state item.2 item.1) start
          | some member => .error (fieldError (.wrongType "array" member.typeName))
          | none => .ok start) ∧
      ∀ {α : Type} (shape : Shape α),
        (record.getShaped shape name = .error .missing ↔ record.has name = false) ∧
          (record.getOptional shape name = .ok none ↔ record.has name = false) ∧
          record.getOptional shape name =
            if record.has name then (record.getShaped shape name).map some else .ok none := by
  refine ⟨get?_scanned record name, has_scanned record name, fun shape => ?_,
    getObject_scanned record name, foldArray_scanned record name, fun shape => ?_⟩
  · exact ⟨getShaped_scanned record shape name, getOptional_scanned record shape name,
      getArray_scanned record shape name⟩
  · exact ⟨getShaped_missing_iff record shape name, getOptional_absent_iff record shape name,
      getOptional_present record shape name⟩

end Record

end NodePolicy
