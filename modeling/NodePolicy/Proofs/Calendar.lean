import Mathlib.Tactic.ByContra
import Mathlib.Tactic.IntervalCases
import NodePolicy.Time.Calendar

/-!
Every day has a date, and one only. The year of a day in an era is found by one division, after about
one day has been taken off for every leap day before it. What is left grows with the days, so it is
enough to know it at the first and at the last day of each of the four hundred years. The other way,
a date is known by its day because years and months follow each other without a gap.
-/

namespace NodePolicy.Time

def yearStart (year : Int) : Int := 365 * year + year / 4 - year / 100 + year / 400

/-- The days of an era up to a day, without the leap days or nearly so. -/
def commonDays (day : Int) : Int := day - day / 1460 + day / 36524 - day / 146096

theorem commonDays_mono (first second : Int) (order : first ≤ second) :
    commonDays first ≤ commonDays second := by
  have leap : first - first / 1460 ≤ second - second / 1460 := by omega
  have century : first / 36524 - first / 146096 ≤ second / 36524 - second / 146096 := by omega
  rw [commonDays, commonDays]
  omega

theorem commonDays_year : ∀ year : Fin 400,
    365 * (year : Int) ≤ commonDays (yearStart year) ∧
      commonDays (yearStart (year + 1) - 1) < 365 * (year + 1) := by
  decide +kernel

theorem commonDays_ends (year : Int) (least : 0 ≤ year) (most : year < 400) :
    365 * year ≤ commonDays (yearStart year) ∧
      commonDays (yearStart (year + 1) - 1) < 365 * (year + 1) := by
  obtain ⟨year, rfl⟩ := Int.eq_ofNat_of_zero_le least
  exact commonDays_year ⟨year, by omega⟩

theorem year_around (day year : Int) (least : 0 ≤ day) (most : day < eraDays)
    (found : commonDays day / 365 = year) :
    0 ≤ year ∧ year < 400 ∧ yearStart year ≤ day ∧ day < yearStart (year + 1) := by
  rw [eraDays] at most
  have lowest := commonDays_mono 0 day least
  have highest := commonDays_mono day 146096 (by omega)
  rw [show commonDays 0 = 0 from rfl] at lowest
  rw [show commonDays 146096 = 145999 from rfl] at highest
  refine ⟨by omega, by omega, ?_, ?_⟩
  · -- A day before the year would not have got beyond the year before.
    by_contra early
    rcases Int.le_iff_lt_or_eq.mp (show 0 ≤ year by omega) with later | first
    · have before := (commonDays_ends (year - 1) (by omega) (by omega)).2
      have order := commonDays_mono day (yearStart (year - 1 + 1) - 1) (by
        rw [Int.sub_add_cancel]
        omega)
      omega
    · rw [← first, show yearStart 0 = 0 from rfl] at early
      omega
  · by_contra late
    rcases Int.lt_or_eq_of_le (show year + 1 ≤ 400 by omega) with earlier | last
    · have after := (commonDays_ends (year + 1) (by omega) (by omega)).1
      have order := commonDays_mono (yearStart (year + 1)) day (by omega)
      omega
    · rw [last, show yearStart 400 = 146097 from rfl] at late
      omega

def yearDays (year : Int) : Int := yearStart (year + 1) - yearStart year

/-- The leap day of such a year is that of the next calendar year. -/
theorem yearDays_eq (year : Int) :
    yearDays year = if isLeapYear (year + 1) = true then 366 else 365 := by
  rw [yearDays, yearStart, yearStart]
  simp only [isLeapYear, Bool.and_eq_true, Bool.or_eq_true, beq_iff_eq, bne_iff_ne]
  split <;> omega

def marchMonth (day : Int) : Int := (5 * day + 2) / 153

def marchDay (day : Int) : Int := day - (153 * marchMonth day + 2) / 5 + 1

/-- The days of a month; the last one of a year has those that the others leave. -/
def marchDays (days month : Int) : Int :=
  if month = 11 then days - 337
  else if month = 1 ∨ month = 3 ∨ month = 6 ∨ month = 8 then 30
  else 31

theorem marchDay_range : ∀ day : Fin 366,
    0 ≤ marchMonth day ∧ marchMonth day ≤ 11 ∧ 1 ≤ marchDay day ∧
      marchDay day ≤ marchDays (day + 1) (marchMonth day) := by
  decide +kernel

theorem marchDays_mono (first second month : Int) (order : first ≤ second) :
    marchDays first month ≤ marchDays second month := by
  rw [marchDays, marchDays]
  split <;> omega

def civilMonth (month : Int) : Int := if month < 10 then month + 3 else month - 9

def civilYear (year month : Int) : Int := if civilMonth month ≤ 2 then year + 1 else year

theorem daysInMonth_march (year month : Int) (least : 0 ≤ month) (most : month ≤ 11) :
    (daysInMonth (civilYear year month) (civilMonth month).toNat : Int) =
      marchDays (yearDays year) month := by
  rcases Int.lt_or_eq_of_le most with earlier | rfl
  · interval_cases month <;> rfl
  · rw [yearDays_eq]
    show ((if isLeapYear (year + 1) = true then 29 else 28 : Nat) : Int) =
      (if isLeapYear (year + 1) = true then 366 else 365) - 337
    split <;> rfl

theorem exists_date (year month day : Int) (monthLeast : 0 ≤ month) (monthMost : month ≤ 11)
    (dayLeast : 1 ≤ day) (dayMost : day ≤ marchDays (yearDays year) month) :
    ∃ date : Date, date.year = civilYear year month ∧ date.month = (civilMonth month).toNat ∧
      date.day = day.toNat ∧
      date.dayNumber = yearStart year + (153 * month + 2) / 5 + day - 1 - epochDay := by
  have days := daysInMonth_march year month monthLeast monthMost
  have range : 1 ≤ civilMonth month ∧ civilMonth month ≤ 12 := by
    rw [civilMonth]
    split <;> omega
  refine ⟨⟨civilYear year month, (civilMonth month).toNat, day.toNat, by omega, by omega⟩, rfl, rfl,
    rfl, ?_⟩
  have counted : ((civilMonth month).toNat + 9 : Int) % 12 = month := by
    rw [civilMonth]
    split <;> omega
  have turned : (if (civilMonth month).toNat ≤ 2 then civilYear year month - 1
      else civilYear year month) = year := by
    rw [civilYear]
    split <;> split <;> omega
  simp only [Date.dayNumber, turned, counted, yearStart]
  omega

theorem exists_day (year day : Int) (first : 0 ≤ day) (last : day < yearDays year) :
    ∃ date : Date, date.year = civilYear year (marchMonth day) ∧
      date.month = (civilMonth (marchMonth day)).toNat ∧ date.day = (marchDay day).toNat ∧
      date.dayNumber = yearStart year + day - epochDay := by
  have most : yearDays year ≤ 366 := by
    rw [yearDays_eq]
    split <;> omega
  obtain ⟨index, rfl⟩ := Int.eq_ofNat_of_zero_le first
  obtain ⟨monthLeast, monthMost, dayLeast, dayMost⟩ := marchDay_range ⟨index, by omega⟩
  obtain ⟨date, yearEq, monthEq, dayEq, number⟩ :=
    exists_date year (marchMonth index) (marchDay index) monthLeast monthMost dayLeast
      (dayMost.trans (marchDays_mono _ _ _ last))
  refine ⟨date, yearEq, monthEq, dayEq, ?_⟩
  rw [number, marchDay]
  omega

theorem yearStart_era (year era : Int) :
    yearStart (year + era * 400) = yearStart year + era * eraDays := by
  rw [yearStart, yearStart, eraDays]
  omega

/-- Every day number is that of a date, and the calendar finds it. -/
theorem exists_civil (day : Int) :
    ∃ date : Date, civil day = (date.year, date.month, date.day) ∧ date.dayNumber = day := by
  let era := (day + epochDay) / eraDays
  let dayOfEra := (day + epochDay) % eraDays
  let year := commonDays dayOfEra / 365
  have parts : eraDays * era + dayOfEra = day + epochDay := Int.mul_ediv_add_emod _ _
  obtain ⟨least, most, after, before⟩ := year_around dayOfEra year
    (Int.emod_nonneg _ (by decide)) (Int.emod_lt_of_pos _ (by decide)) rfl
  have started := yearStart_era year era
  have ended : yearStart (year + era * 400 + 1) = yearStart (year + 1) + era * eraDays := by
    rw [Int.add_right_comm, yearStart_era]
  obtain ⟨date, yearEq, monthEq, dayEq, number⟩ :=
    exists_day (year + era * 400) (dayOfEra - yearStart year) (by omega) (by
      rw [yearDays]
      omega)
  -- No year inside of an era has four hundred years of it behind itself.
  have start : 365 * year + year / 4 - year / 100 = yearStart year := by
    rw [yearStart]
    omega
  refine ⟨date, ?_, ?_⟩
  · rw [yearEq, monthEq, dayEq, ← start]
    rfl
  · rw [number, started]
    rw [Int.mul_comm] at parts
    omega

namespace Date

def turnedYear (date : Date) : Int := if date.month ≤ 2 then date.year - 1 else date.year

def turnedMonth (date : Date) : Int := (date.month + 9) % 12

def yearDay (date : Date) : Int := (153 * date.turnedMonth + 2) / 5 + date.day - 1

theorem dayNumber_eq (date : Date) :
    date.dayNumber = yearStart date.turnedYear + date.yearDay - epochDay := rfl

theorem turnedMonth_range (date : Date) : 0 ≤ date.turnedMonth ∧ date.turnedMonth ≤ 11 := by
  rw [turnedMonth]
  omega

theorem civil_turned (date : Date) :
    civilMonth date.turnedMonth = date.month ∧
      civilYear date.turnedYear date.turnedMonth = date.year := by
  have months := date.month_valid
  have month : civilMonth date.turnedMonth = date.month := by
    rw [civilMonth, turnedMonth]
    split <;> omega
  refine ⟨month, ?_⟩
  rw [civilYear, month, turnedYear]
  split <;> split <;> omega

theorem day_within (date : Date) :
    (date.day : Int) ≤ marchDays (yearDays date.turnedYear) date.turnedMonth := by
  obtain ⟨month, year⟩ := date.civil_turned
  have days := daysInMonth_march date.turnedYear date.turnedMonth date.turnedMonth_range.1
    date.turnedMonth_range.2
  rw [month, year, Int.toNat_natCast] at days
  have most := date.day_valid.2
  omega

theorem yearDays_range (year : Int) : 365 ≤ yearDays year ∧ yearDays year ≤ 366 := by
  rw [yearDays_eq]
  split <;> omega

theorem yearDay_range (date : Date) :
    0 ≤ date.yearDay ∧ date.yearDay < yearDays date.turnedYear := by
  have within := date.day_within
  have range := date.turnedMonth_range
  have days := yearDays_range date.turnedYear
  have least := date.day_valid.1
  rw [yearDay]
  rw [marchDays] at within
  split at within
  · omega
  · split at within <;> omega

/-- A month begins where the rule that finds it begins to find it. -/
theorem marchMonth_yearDay (date : Date) : marchMonth date.yearDay = date.turnedMonth := by
  have within := date.day_within
  have range := date.turnedMonth_range
  have days := yearDays_range date.turnedYear
  have least := date.day_valid.1
  rw [marchMonth, yearDay]
  generalize date.turnedMonth = month at within range ⊢
  obtain ⟨first, last⟩ := range
  interval_cases month <;> simp [marchDays] at within <;> omega

end Date

theorem yearStart_mono (first second : Int) (order : first ≤ second) :
    yearStart first ≤ yearStart second := by
  rw [yearStart, yearStart]
  omega

/-- Different dates fall on different days. -/
theorem Date.dayNumber_injective (first second : Date)
    (same : first.dayNumber = second.dayNumber) : first = second := by
  have own := first.yearDay_range
  have other := second.yearDay_range
  rw [first.dayNumber_eq, second.dayNumber_eq] at same
  rw [yearDays] at own other
  -- The days of a year end where those of the next one begin.
  have year : first.turnedYear = second.turnedYear := by
    rcases Int.lt_trichotomy first.turnedYear second.turnedYear with before | equal | after
    · have apart := yearStart_mono (first.turnedYear + 1) second.turnedYear before
      omega
    · exact equal
    · have apart := yearStart_mono (second.turnedYear + 1) first.turnedYear after
      omega
  have yearDay : first.yearDay = second.yearDay := by
    rw [year] at same
    omega
  have month : first.turnedMonth = second.turnedMonth := by
    rw [← first.marchMonth_yearDay, yearDay, second.marchMonth_yearDay]
  have numbers := first.civil_turned
  rw [year, month, second.civil_turned.1, second.civil_turned.2] at numbers
  have day : first.day = second.day := by
    rw [Date.yearDay, Date.yearDay, month] at yearDay
    omega
  obtain ⟨firstYear, firstMonth, firstDay, _, _⟩ := first
  obtain ⟨secondYear, secondMonth, secondDay, _, _⟩ := second
  simp only [Date.mk.injEq]
  exact ⟨numbers.2.symm, Int.ofNat_inj.mp numbers.1.symm, day⟩

/-- The calendar finds a date on the day it falls on. -/
theorem civil_dayNumber (date : Date) :
    civil date.dayNumber = (date.year, date.month, date.day) := by
  obtain ⟨other, found, same⟩ := exists_civil date.dayNumber
  rw [found, Date.dayNumber_injective other date same]

end NodePolicy.Time
