import NodePolicy.ErrorKind
import NodePolicy.Text.Blank
import NodePolicy.Text.Natural
import NodePolicy.Text.Quoted
import NodePolicy.Time.Instant

/-!
Timestamps, `2024-01-31T23:59:59Z`. Writing uses two digits for all but the year, which has four
and, outside the years 0 to 9999, a sign. Reading is more lenient: white space may stand in front of
every number, a number may be shorter, and a year with a sign may have any number of digits.
-/

namespace NodePolicy.Time

inductive TimestampFault where
  | invalid | tooShort | tooLong | outOfRange
  deriving DecidableEq, Repr

def TimestampFault.message : TimestampFault → String
  | invalid => "input contains invalid characters"
  | tooShort => "premature end of input"
  | tooLong => "trailing input"
  | outOfRange => "input is out of range"

structure TimestampError where
  text : String
  fault : TimestampFault
  deriving DecidableEq, Repr

def TimestampError.kind (_ : TimestampError) : ErrorKind := .invalidArgument

def TimestampError.message (error : TimestampError) : String :=
  s!"invalid UTC time string {Text.quoted error.text}: {error.fault.message}"

namespace Timestamp

def writeYear (year : Int) : List Char :=
  if 0 ≤ year ∧ year ≤ 9999 then Text.fixedDigits 4 year.toNat
  else (if year < 0 then '-' else '+') :: Text.paddedDigits 4 year.natAbs

def write (instant : Instant) : String :=
  let (year, month, day) := civil instant.dayNumber
  String.ofList <|
    writeYear year ++ ['-'] ++ Text.fixedDigits 2 month ++ ['-'] ++ Text.fixedDigits 2 day
      ++ ['T'] ++ Text.fixedDigits 2 instant.hour ++ [':'] ++ Text.fixedDigits 2 instant.minute
      ++ [':'] ++ Text.fixedDigits 2 instant.clockSecond ++ ['Z']

def writeZoned (zoned : ZonedInstant) : String := write zoned.instant

abbrev Reader := StateT (List Char) (Except TimestampFault)

def literal (expected : Char) : Reader Unit := fun text =>
  match text with
  | [] => .error .tooShort
  | c :: rest => if c = expected then .ok ((), rest) else .error .invalid

def digits (width : Nat) : Reader Nat := fun text =>
  let taken := (text.take width).takeWhile Char.isDigit
  if text = [] then .error .tooShort
  else if taken = [] then .error .invalid
  else if 9223372036854775808 ≤ Text.digitsValue taken then .error .outOfRange
  else .ok (Text.digitsValue taken, text.drop taken.length)

def skipBlanks : Reader Unit := fun text => .ok ((), text.dropWhile Text.isBlank)

def field (least most : Nat) : Reader Nat := do
  skipBlanks
  let value ← digits 2
  if least ≤ value ∧ value ≤ most then pure value else throw .outOfRange

def allDigits : Reader Nat := fun text => digits text.length text

/-- Expects the digits of a year: up to four, or any number of them after a sign. -/
def signedYear : Reader Int := fun text =>
  match text with
  | '-' :: rest => (allDigits rest).map fun (value, rest) => (-(value : Int), rest)
  | '+' :: rest => (allDigits rest).map fun (value, rest) => ((value : Int), rest)
  | _ => (digits 4 text).map fun (value, rest) => ((value : Int), rest)

def year : Reader Int := do
  skipBlanks
  let value ← signedYear
  if -2147483648 ≤ value ∧ value < 2147483648 then pure value else throw .outOfRange

structure Fields where
  year : Int
  month : Nat
  day : Nat
  hour : Nat
  minute : Nat
  second : Nat

def fields : Reader Fields := do
  let year ← year
  literal '-'
  let month ← field 1 12
  literal '-'
  let day ← field 1 31
  literal 'T'
  let hour ← field 0 23
  literal ':'
  let minute ← field 0 59
  literal ':'
  let second ← field 0 60
  literal 'Z'
  pure ⟨year, month, day, hour, minute, second⟩

def Fields.instant? (fields : Fields) : Option Instant := do
  let date ← Date.of? fields.year fields.month fields.day
  Instant.ofClock? date fields.hour fields.minute fields.second

def readChars (text : List Char) : Except TimestampFault Instant := do
  let (fields, rest) ← fields.run text
  if rest ≠ [] then throw .tooLong
  match fields.instant? with
  | some instant => pure instant
  | none => throw .outOfRange

def read (text : String) : Except TimestampError Instant :=
  (readChars text.toList).mapError fun fault => ⟨text, fault⟩

end Timestamp

end NodePolicy.Time
