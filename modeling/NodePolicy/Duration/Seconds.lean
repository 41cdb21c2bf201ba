import NodePolicy.Binary64.Basic
import NodePolicy.Duration.Error
import NodePolicy.Duration.Total
import NodePolicy.Text.DecimalDigit

/-!
Durations as a bare number of seconds, `10`, `-3` or `.5`. The number is read as binary64, a half
is added in binary64, and the whole seconds of the sum count: a fraction of at least one half
rounds up, and below zero the sum is cut toward zero.
-/

namespace NodePolicy.Duration.Seconds

structure Numeral where
  negative : Bool
  whole : List Char
  fraction : List Char

def unsigned? (negative : Bool) (text : List Char) : Option Numeral :=
  let whole := text.takeWhile Text.isDecimalDigit
  match text.dropWhile Text.isDecimalDigit with
  | [] => if whole ≠ [] then some ⟨negative, whole, []⟩ else none
  | '.' :: fraction =>
    if fraction ≠ [] ∧ fraction.all Text.isDecimalDigit then some ⟨negative, whole, fraction⟩
    else none
  | _ => none

def numeral? (text : List Char) : Option Numeral :=
  match text with
  | '-' :: rest => unsigned? true rest
  | _ => unsigned? false text

/-- The binary64 number nearest to a numeral, if its digits are ASCII digits. -/
def Numeral.value? (numeral : Numeral) : Option Binary64 :=
  (Text.readNatural? (numeral.whole ++ numeral.fraction)).map fun digits =>
    Binary64.ofRatio numeral.negative digits (Nat.pow 10 numeral.fraction.length)

def half : Binary64 := Binary64.ofRatio false 1 2

def maxSeconds : Nat := 9223372036854775807 / TimeUnit.second.nanos

theorem seconds_fit (seconds : Int) (few : seconds.natAbs ≤ maxSeconds) :
    -9223372036854775808 ≤ (TimeUnit.second.nanos : Int) * seconds ∧
      (TimeUnit.second.nanos : Int) * seconds < 9223372036854775808 := by
  have length : (TimeUnit.second.nanos : Int) = 1000000000 := rfl
  have most : maxSeconds = 9223372036 := rfl
  rw [most] at few
  rw [length]
  omega

def ofSeconds? (seconds : Int) : Option Duration :=
  if few : seconds.natAbs ≤ maxSeconds then
    some ⟨TimeUnit.second.nanos * seconds, (seconds_fit seconds few).1, (seconds_fit seconds few).2⟩
  else none

def rounded? (value : Binary64) : Option Duration :=
  if value.isFinite then ofSeconds? (value.add half).truncate else none

def read (text : String) (numeral : Numeral) : Except DurationError Duration :=
  match numeral.value? with
  | none => .error (.invalidFormat text)
  | some value =>
    match rounded? value with
    | some duration => .ok duration
    | none => .error (.outOfRange text)

end NodePolicy.Duration.Seconds
