import NodePolicy.Duration.Error
import NodePolicy.Duration.Total
import NodePolicy.Text.DecimalDigit

/-!
Durations in the ISO 8601 form `[-]P[nY][nM][nW][nD][T[nH][nM][n[.f]S]]`. All components may be
absent. Reading takes counts of any length; writing uses years, days, hours, minutes and seconds,
leaves out what is zero, and is the only form durations are written in.
-/

namespace NodePolicy.Duration.Iso8601

def takeCount (designator : Char) (unit : TimeUnit) (text : List Char) : List Term × List Char :=
  let count := text.takeWhile Text.isDecimalDigit
  match text.dropWhile Text.isDecimalDigit with
  | c :: rest => if count ≠ [] ∧ c = designator then ([⟨count, unit⟩], rest) else ([], text)
  | [] => ([], text)

/-- Takes seconds, which may carry a fraction of up to nine digits. The fraction counts nanoseconds
once zeros fill it up to nine digits. -/
def takeSeconds (text : List Char) : List Term × List Char :=
  let count := text.takeWhile Text.isDecimalDigit
  match text.dropWhile Text.isDecimalDigit with
  | '.' :: afterPoint =>
    let fraction := afterPoint.takeWhile Text.isDecimalDigit
    match afterPoint.dropWhile Text.isDecimalDigit with
    | 'S' :: rest =>
      if count ≠ [] ∧ fraction ≠ [] ∧ fraction.length ≤ 9 then
        let nanos := fraction ++ List.replicate (9 - fraction.length) '0'
        ([⟨count, .second⟩, ⟨nanos, .nanosecond⟩], rest)
      else ([], text)
    | _ => ([], text)
  | 'S' :: rest => if count ≠ [] then ([⟨count, .second⟩], rest) else ([], text)
  | _ => ([], text)

def takeTime (text : List Char) : List Term × List Char :=
  match text with
  | 'T' :: text =>
    let (hours, text) := takeCount 'H' .hour text
    let (minutes, text) := takeCount 'M' .minute text
    let (seconds, text) := takeSeconds text
    (hours ++ minutes ++ seconds, text)
  | _ => ([], text)

def unsignedTerms? (text : List Char) : Option (List Term) :=
  match text with
  | 'P' :: text =>
    let (years, text) := takeCount 'Y' .year text
    let (months, text) := takeCount 'M' .month text
    let (weeks, text) := takeCount 'W' .week text
    let (days, text) := takeCount 'D' .day text
    let (time, text) := takeTime text
    if text = [] then some (years ++ months ++ weeks ++ days ++ time) else none
  | _ => none

def terms? (text : List Char) : Option (Bool × List Term) :=
  match text with
  | '-' :: rest => (unsignedTerms? rest).map (true, ·)
  | _ => (unsignedTerms? text).map (false, ·)

def holdsNegative : List Char → Bool
  | '-' :: 'P' :: _ => true
  | _ :: rest => holdsNegative rest
  | [] => false

/-- A text that announces this form: whatever it is, it is read by no other one. -/
def isAnnounced (text : List Char) : Bool := text.head? == some 'P' || holdsNegative text

def read (text : String) : Except DurationError Duration :=
  match terms? text.toList with
  | none => .error (.invalidIso8601 text)
  | some (negative, terms) =>
    match (total? terms).bind fun total => if negative then total.checkedNeg else some total with
    | some duration => .ok duration
    | none => .error (.outOfRange text)

def component (count : Nat) (designator : Char) : List Char :=
  if count = 0 then [] else Text.naturalDigits count ++ [designator]

/-- Seconds and a fraction without zeros at its end. Nothing is written for no time at all, unless
no other component is there to stand for it. -/
def secondsComponent (nanos : Nat) (alone : Bool) : List Char :=
  let seconds := nanos / TimeUnit.second.nanos
  let fraction := nanos % TimeUnit.second.nanos
  if nanos = 0 ∧ !alone then []
  else
    Text.naturalDigits seconds
      ++ (if fraction = 0 then [] else '.' :: Text.trimZeros (Text.fixedDigits 9 fraction))
      ++ ['S']

def unsigned (nanos : Nat) : List Char :=
  let afterYears := nanos % TimeUnit.year.nanos
  let afterDays := afterYears % TimeUnit.day.nanos
  let afterHours := afterDays % TimeUnit.hour.nanos
  let date := component (nanos / TimeUnit.year.nanos) 'Y'
    ++ component (afterYears / TimeUnit.day.nanos) 'D'
  let time := component (afterDays / TimeUnit.hour.nanos) 'H'
    ++ component (afterHours / TimeUnit.minute.nanos) 'M'
    ++ secondsComponent (afterHours % TimeUnit.minute.nanos) (nanos = 0)
  'P' :: date ++ (if time = [] then [] else 'T' :: time)

def write (duration : Duration) : String :=
  let magnitude := unsigned duration.nanos.natAbs
  String.ofList (if duration.nanos < 0 then '-' :: magnitude else magnitude)

end NodePolicy.Duration.Iso8601
