/-!
The proleptic Gregorian calendar: dates, and the number of the day a date falls on. Day 0 is
1970-01-01. Years are counted from March inside, so that the leap day is the last day of a year and
the lengths of the months before it do not change.
-/

namespace NodePolicy.Time

def isLeapYear (year : Int) : Bool := year % 4 == 0 && (year % 100 != 0 || year % 400 == 0)

def daysInMonth (year : Int) (month : Nat) : Nat :=
  if month = 2 then (if isLeapYear year then 29 else 28)
  else if month = 4 ∨ month = 6 ∨ month = 9 ∨ month = 11 then 30
  else 31

structure Date where
  year : Int
  month : Nat
  day : Nat
  month_valid : 1 ≤ month ∧ month ≤ 12
  day_valid : 1 ≤ day ∧ day ≤ daysInMonth year month
  deriving DecidableEq

def Date.of? (year : Int) (month day : Nat) : Option Date :=
  if month_valid : 1 ≤ month ∧ month ≤ 12 then
    if day_valid : 1 ≤ day ∧ day ≤ daysInMonth year month then
      some ⟨year, month, day, month_valid, day_valid⟩
    else none
  else none

/-- The days from the first of March of the year 0 to 1970-01-01. -/
def epochDay : Int := 719468

def eraDays : Int := 146097

def Date.dayNumber (date : Date) : Int :=
  let year := if date.month ≤ 2 then date.year - 1 else date.year
  let month : Int := (date.month + 9) % 12
  let dayOfYear := (153 * month + 2) / 5 + date.day - 1
  365 * year + year / 4 - year / 100 + year / 400 + dayOfYear - epochDay

def civil (dayNumber : Int) : Int × Nat × Nat :=
  let shifted := dayNumber + epochDay
  let era := shifted / eraDays
  let dayOfEra := shifted % eraDays
  let yearOfEra := (dayOfEra - dayOfEra / 1460 + dayOfEra / 36524 - dayOfEra / 146096) / 365
  let dayOfYear := dayOfEra - (365 * yearOfEra + yearOfEra / 4 - yearOfEra / 100)
  let month := (5 * dayOfYear + 2) / 153
  let day := dayOfYear - (153 * month + 2) / 5 + 1
  let civilMonth := if month < 10 then month + 3 else month - 9
  let year := yearOfEra + era * 400
  (if civilMonth ≤ 2 then year + 1 else year, civilMonth.toNat, day.toNat)

end NodePolicy.Time
