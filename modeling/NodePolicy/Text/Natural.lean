/-!
Natural numbers in decimal, as lists of digits. Only the ASCII digits have a value; a number is
written without leading zeros, or with as many digits as asked for.
-/

namespace NodePolicy.Text

def digitsValue (digits : List Char) : Nat := Nat.ofDigitChars 10 digits 0

def readNatural? (digits : List Char) : Option Nat :=
  if digits ≠ [] ∧ digits.all Char.isDigit then some (digitsValue digits) else none

def naturalDigits (value : Nat) : List Char := Nat.toDigits 10 value

/-- The last `width` decimal digits of a number, leading zeros included. -/
def fixedDigits : Nat → Nat → List Char
  | 0, _ => []
  | width + 1, value => fixedDigits width (value / 10) ++ [Nat.digitChar (value % 10)]

/-- At least `width` decimal digits: zeros fill up a shorter number. -/
def paddedDigits (width value : Nat) : List Char :=
  let digits := naturalDigits value
  List.replicate (width - digits.length) '0' ++ digits

def trimZeros (digits : List Char) : List Char := (digits.reverse.dropWhile (· == '0')).reverse

theorem readNatural_naturalDigits (value : Nat) : readNatural? (naturalDigits value) = some value := by
  have digits : (naturalDigits value).all Char.isDigit = true := by
    rw [List.all_eq_true]
    exact fun c member => Nat.isDigit_of_mem_toDigits (by decide) (by decide) member
  have nonempty : naturalDigits value ≠ [] := Nat.toDigits_ne_nil
  rw [readNatural?, if_pos ⟨nonempty, digits⟩, digitsValue, naturalDigits,
    Nat.ofDigitChars_toDigits (by decide) (by decide)]

theorem fixedDigits_length (width value : Nat) : (fixedDigits width value).length = width := by
  induction width generalizing value with
  | zero => rfl
  | succ width ih => simp [fixedDigits, ih]

end NodePolicy.Text
