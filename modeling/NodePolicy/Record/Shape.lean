import NodePolicy.ErrorKind
import NodePolicy.Json.Basic

/-!
The kinds of value a member may be asked for. A shape names its kind and says which JSON values are
of it; a value of another kind is an error that names both.
-/

namespace NodePolicy

inductive FieldError where
  | missing
  | wrongType (expected found : String)
  | notAnObject (found : String)
  deriving DecidableEq, Repr

def FieldError.kind (_ : FieldError) : ErrorKind := .invalidArgument

def FieldError.message : FieldError → String
  | missing => "missing required field"
  | wrongType expected found => s!"expected {expected}, found {found}"
  | notAnObject found => s!"expected JSON object, found {found}"

/-- A kind of value: its name and its members among the JSON values. -/
structure Shape (α : Type) where
  name : String
  read? : Json → Option α

namespace Shape

def text : Shape String where
  name := "string"
  read?
    | .string value => some value
    | _ => none

def boolean : Shape Bool where
  name := "boolean"
  read?
    | .boolean value => some value
    | _ => none

def number : Shape Binary64 where
  name := "number"
  read?
    | .number value => some value.toBinary64
    | _ => none

def unsigned : Shape UInt64 where
  name := "unsigned integer"
  read?
    | .number (.natural value) => some value
    | _ => none

def unsigned32 : Shape UInt32 where
  name := "32-bit unsigned integer"
  read?
    | .number (.natural value) => if value.toNat < UInt32.size then some value.toUInt32 else none
    | _ => none

def integer : Shape Int64 where
  name := "integer"
  read?
    | .number (.natural value) =>
      if value.toNat < 9223372036854775808 then some value.toInt64 else none
    | .number (.negative value _) => some value
    | _ => none

def extract {α : Type} (shape : Shape α) (value : Json) : Except FieldError α :=
  match shape.read? value with
  | some found => .ok found
  | none => .error (.wrongType shape.name value.typeName)

end Shape

end NodePolicy
