/-!
Sets of characters written as lists of closed ranges of code points. Every character class of the
library is such a list, so membership is one scan and a class can be read off its table.
-/

namespace NodePolicy.Text

/-- A closed range of code points: its first and its last member. -/
abbrev CodeRange := Nat × Nat

def inClass (ranges : List CodeRange) (c : Char) : Bool :=
  ranges.any fun range => range.1 ≤ c.toNat && c.toNat ≤ range.2

theorem inClass_iff (ranges : List CodeRange) (c : Char) :
    inClass ranges c = true ↔ ∃ range ∈ ranges, range.1 ≤ c.toNat ∧ c.toNat ≤ range.2 := by
  simp [inClass]

end NodePolicy.Text
