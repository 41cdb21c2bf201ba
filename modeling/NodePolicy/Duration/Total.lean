import NodePolicy.Duration.Basic
import NodePolicy.Text.Natural

/-!
Sums of counted units, such as two hours and ten minutes. The total is exact: every product and
every partial sum has to fit, and a count that is not written in ASCII digits has no value.
-/

namespace NodePolicy.Duration

/-- A count, still as its digits, of one unit. -/
structure Term where
  count : List Char
  unit : TimeUnit
  deriving DecidableEq

def addTerm (total : Duration) (term : Term) : Option Duration := do
  let count ← Text.readNatural? term.count
  let share ← (ofUnit term.unit).checkedMul count
  total.checkedAdd share

def total? (terms : List Term) : Option Duration := terms.foldlM addTerm zero

end NodePolicy.Duration
