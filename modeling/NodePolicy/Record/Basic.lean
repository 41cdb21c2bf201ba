import NodePolicy.Record.Shape
import NodePolicy.Text.Lowercase

/-!
Reading the members of a JSON value by names whose letter case does not matter. The names are put in
lower case once, when a record is made. A member spelled exactly as asked comes first; else, of the
members that differ in letter case only, the first in document order counts. A value that is not an
object has no members.
-/

namespace NodePolicy

def indexName (index : List (String × Json)) (name : String) (value : Json) :
    List (String × Json) :=
  if (index.lookup name).isSome then index else index ++ [(name, value)]

def lowercaseIndex (members : List (String × Json)) : List (String × Json) :=
  members.foldl (fun index item => indexName index (Text.lowercase item.1) item.2) []

structure Record where
  value : Json
  index : List (String × Json)
  index_eq : index = lowercaseIndex value.members

namespace Record

def ofValue (value : Json) : Record := ⟨value, lowercaseIndex value.members, rfl⟩

def ofObject (value : Json) : Except FieldError Record :=
  if value.isObject then .ok (ofValue value) else .error (.notAnObject value.typeName)

def names (record : Record) : List String := record.value.members.map Prod.fst

def get? (record : Record) (name : String) : Option Json :=
  (record.value.members.lookup name).or (record.index.lookup (Text.lowercase name))

def has (record : Record) (name : String) : Bool := (record.get? name).isSome

def get (record : Record) (name : String) : Except FieldError Json :=
  match record.get? name with
  | some value => .ok value
  | none => .error .missing

def getShaped {α : Type} (record : Record) (shape : Shape α) (name : String) :
    Except FieldError α := do
  shape.extract (← record.get name)

def getOptional {α : Type} (record : Record) (shape : Shape α) (name : String) :
    Except FieldError (Option α) :=
  match record.get? name with
  | some value => (shape.extract value).map some
  | none => .ok none

def getObject (record : Record) (name : String) : Except FieldError Record := do
  ofObject (← record.get name)

def getElements (record : Record) (name : String) : Except FieldError (List Json) :=
  match record.get? name with
  | none => .ok []
  | some value =>
    match value.elements? with
    | some elements => .ok elements
    | none => .error (.wrongType "array" value.typeName)

def foldElements {ε σ : Type} (step : σ → Nat → Json → Except ε σ) :
    Nat → σ → List Json → Except ε σ
  | _, state, [] => .ok state
  | index, state, element :: rest => do
    foldElements step (index + 1) (← step state index element) rest

def foldArray {ε σ : Type} (record : Record) (name : String) (fieldError : FieldError → ε)
    (start : σ) (step : σ → Nat → Json → Except ε σ) : Except ε σ := do
  foldElements step 0 start (← (record.getElements name).mapError fieldError)

def getArray {α : Type} (record : Record) (shape : Shape α) (name : String) :
    Except FieldError (List α) :=
  record.foldArray name id [] fun found _ element => do
    return found ++ [← shape.extract element]

end Record

end NodePolicy
