import NodePolicy.Json.Basic
import NodePolicy.Json.Cursor

/-!
JSON numbers. An integer that fits a machine word stays an integer. For all others the digits are
gathered in a 64-bit significand as long as they fit: further digits before the point raise the
exponent, further digits behind it are dropped. The significand, rounded to binary64, is then
multiplied or divided by a power of ten, so the result may be off the nearest number by more than
the last bit.
-/

namespace NodePolicy.Json.Reading

/-- Appends decimal digits to a number as long as it stays below a limit, and says how many. -/
def absorb (limit value : Nat) : List Nat → Nat × Nat
  | [] => (value, 0)
  | digit :: rest =>
    if 10 * value + digit < limit then
      let (all, taken) := absorb limit (10 * value + digit) rest
      (all, taken + 1)
    else (value, 0)

def significandLimit : Nat := UInt64.size

def exponentLimit : Nat := 2147483648

def clampExponent (exponent : Int) : Int := max (-exponentLimit) (min exponent (exponentLimit - 1))

def powerOfTen (exponent : Nat) : Binary64 := Binary64.ofNat (Nat.pow 10 exponent)

def maxPower : Nat := 308

def scaleDown : Nat → Binary64 → Nat → Binary64
  | 0, value, exponent => value.div (powerOfTen exponent)
  | times + 1, value, exponent =>
    if value.isZero then value else scaleDown times (value.div (powerOfTen maxPower)) exponent

def scale? (significand : Nat) (exponent : Int) : Option Binary64 :=
  let value := Binary64.ofNat significand
  if 0 ≤ exponent then
    if exponent ≤ maxPower then
      let scaled := value.mul (powerOfTen exponent.toNat)
      if scaled.isFinite then some scaled else none
    else if value.isZero then some value else none
  else
    let down := exponent.natAbs
    let times := (down - 1) / maxPower
    some (scaleDown times value (down - maxPower * times))

def floatNumber? (negative : Bool) (value : Binary64) : Option Number :=
  let signed := if negative then value.neg else value
  if finite : signed.isFinite = true then some (.float signed finite) else none

/-- A number that is too large stops the reader behind its last digit. -/
def expectNumber (found? : Option Number) : Reader Number :=
  match found? with
  | some found => pure found
  | none => stopHere .numberOutOfRange

def floatOfParts (negative : Bool) (significand : Nat) (exponent : Int) : Reader Number :=
  expectNumber ((scale? significand exponent).bind (floatNumber? negative))

/-- An integer, or a float where no machine word holds it; minus zero is a float too. -/
def integerNumber? (negative : Bool) (significand : Nat) : Option Number :=
  if negative then
    let value := Int64.ofInt (-significand)
    if below : significand ≤ 9223372036854775808 ∧ value < 0 then some (.negative value below.2)
    else floatNumber? true (Binary64.ofNat significand)
  else some (.natural (UInt64.ofNat significand))

/-- Reads the exponent behind its letter. One that no word holds leaves zero, unless it raises a
number that is not zero. -/
def exponentPart (negative : Bool) (significand : Nat) (exponent : Int) : Reader Number := do
  let sign ← peek
  let down := sign == some (byteOf '-')
  if down || sign == some (byteOf '+') then skip
  let first ← next .eofValue
  if !isDigit first then stopHere .invalidNumber
  else
    let text ← get
    let more ← takeDigits
    let (value, taken) := absorb exponentLimit (first.toNat - 48) more
    if taken = more.length then
      let shifted := if down then exponent - value else exponent + value
      floatOfParts negative significand (clampExponent shifted)
    else if significand ≠ 0 ∧ !down then
      set (text.drop (taken + 1))
      stopHere .numberOutOfRange
    else expectNumber (floatNumber? negative (Binary64.ofNat 0))

def atExponent : Reader Bool := do
  let byte ← peek
  return byte == some (byteOf 'e') || byte == some (byteOf 'E')

def fractionPart (negative : Bool) (significand : Nat) (exponent : Int) : Reader Number := do
  let digits ← takeDigits
  if digits = [] then
    match ← peek with
    | some _ => stopNext .invalidNumber
    | none => stopNext .eofValue
  else
    let (significand, taken) := absorb significandLimit significand digits
    if ← atExponent then
      skip
      exponentPart negative significand (exponent - taken)
    else floatOfParts negative significand (exponent - taken)

def unsignedNumber (negative : Bool) : Reader Number := do
  let first ← next .eofValue
  if !isDigit first then stopHere .invalidNumber
  else
    let more ← peek
    if first = byteOf '0' ∧ more.any isDigit then stopNext .invalidNumber
    else
      let digits ← takeDigits
      let (significand, taken) := absorb significandLimit (first.toNat - 48) digits
      let exponent : Int := digits.length - taken
      if (← peek) = some (byteOf '.') then
        skip
        fractionPart negative significand exponent
      else if ← atExponent then
        skip
        exponentPart negative significand exponent
      else if taken = digits.length then expectNumber (integerNumber? negative significand)
      else floatOfParts negative significand exponent

def number : Reader Number := do
  if (← peek) = some (byteOf '-') then
    skip
    unsignedNumber true
  else unsignedNumber false

end NodePolicy.Json.Reading
