import NodePolicy.Binary64.Basic

/-!
JSON values. A number keeps the form it was read in: a non-negative or a negative integer of one
machine word, or else a finite binary64. Objects keep their members in order.
-/

namespace NodePolicy

inductive Number where
  | natural (value : UInt64)
  | negative (value : Int64) (below : value < 0)
  | float (value : Binary64) (finite : value.isFinite = true)
  deriving DecidableEq

def Number.toBinary64 : Number → Binary64
  | natural value => Binary64.ofNat value.toNat
  | negative value _ => Binary64.ofInt value.toInt
  | float value _ => value

inductive Json where
  | null
  | boolean (value : Bool)
  | number (value : Number)
  | string (value : String)
  | array (elements : List Json)
  | object (members : List (String × Json))

namespace Json

instance : Inhabited Json := ⟨null⟩

def typeName : Json → String
  | null => "null"
  | boolean _ => "boolean"
  | number _ => "number"
  | string _ => "string"
  | array _ => "array"
  | object _ => "object"

def ofUInt64 (value : UInt64) : Json := number (.natural value)

def members : Json → List (String × Json)
  | object members => members
  | _ => []

def elements? : Json → Option (List Json)
  | array elements => some elements
  | _ => none

def isObject : Json → Bool
  | object _ => true
  | _ => false

/-- Adds a member at the end, or, if there is one of that name, puts the value in its place. -/
def insertMember (members : List (String × Json)) (name : String) (value : Json) :
    List (String × Json) :=
  match members with
  | [] => [(name, value)]
  | (first, old) :: rest =>
    if first = name then (name, value) :: rest else (first, old) :: insertMember rest name value

end Json

end NodePolicy
