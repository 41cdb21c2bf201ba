import NodePolicy.Config.Error

/-!
The two kinds of threshold a rule may have, and how each stands in a document.
-/

namespace NodePolicy

/-- How a threshold is read from a JSON value and written as one. -/
structure Threshold (α : Type) where
  shape : Shape α
  write : α → Except ConfigError Json

namespace Threshold

def nonFiniteName (value : Binary64) : String :=
  if value.isNaN then "NaN" else if value.isNegative then "-inf" else "inf"

/-- A percentage: any number, of which only the finite ones can be written. -/
def percent : Threshold Binary64 where
  shape := .number
  write value :=
    if finite : value.isFinite = true then .ok (.number (.float value finite))
    else .error (.failed s!"threshold {nonFiniteName value} is not a finite number")

def points : Threshold UInt64 where
  shape := .unsigned
  write value := .ok (.ofUInt64 value)

end Threshold

end NodePolicy
