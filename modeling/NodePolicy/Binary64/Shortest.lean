import NodePolicy.Binary64.Basic
import NodePolicy.Text.Natural

/-!
The shortest decimal that reads back as a given number. For one, two, and up to seventeen digits,
the number's two neighbours on that decimal grid are rounded to binary again; the first grid with
a neighbour that comes back wins, and of two such neighbours the nearer.
-/

namespace NodePolicy.Binary64

/-- Decimal places after which no grid is finer: the smallest number begins at the 324th place,
and seventeen digits end sixteen places later. -/
def decimalPlaces : Nat := 340

def decimalGrid : Nat := Nat.pow 10 decimalPlaces

/-- A decimal number: `digits` times ten to the power `exponent` - `decimalPlaces`. -/
structure Decimal where
  digits : Nat
  exponent : Nat
  deriving DecidableEq

def Decimal.nearestBits (decimal : Decimal) : Nat :=
  roundedBits (decimal.digits * Nat.pow 10 decimal.exponent * one) decimalGrid

/-- The neighbours on the grid of one exponent that read back as `magnitude`, the nearer first.
Of two equally near ones the even comes first. -/
def gridHits (magnitude exponent : Nat) : List Decimal :=
  let scaled := unitsOfBits magnitude * decimalGrid
  let step := one * Nat.pow 10 exponent
  let below : Decimal := ⟨scaled / step, exponent⟩
  let above : Decimal := ⟨scaled / step + 1, exponent⟩
  let nearest := nearestQuotient scaled step
  let ordered := if nearest = below.digits then [below, above] else [above, below]
  ordered.filter fun decimal => decimal.nearestBits == magnitude

def leadingExponent (magnitude : Nat) : Nat :=
  (Text.naturalDigits (unitsOfBits magnitude * decimalGrid / one)).length - 1

def shortest (magnitude : Nat) : Decimal :=
  let finest := leadingExponent magnitude - 16
  let grids := (List.range 17).map fun digits => finest + (16 - digits)
  (grids.findSome? fun exponent => (gridHits magnitude exponent).head?).getD
    ⟨nearestQuotient (unitsOfBits magnitude * decimalGrid) (one * Nat.pow 10 finest), finest⟩

end NodePolicy.Binary64
