import Mathlib.Order.Lattice
import Mathlib.Data.Int.Basic

namespace Basement
namespace Library

/-!
# Days and dates

The proleptic Gregorian calendar.  A day is the number of days since the first of
January of the year 1, and may be negative.  The year of a day is found in the cycles
of 400, 100 and 4 years, the month by the number of days that the year has had before
it.  A date determines its day by construction; what has to be shown is that the date
computed for a day is one the calendar has.
-/

namespace Calendar

structure Date where
  year : Int
  month : Int
  day : Int
  deriving DecidableEq, Repr

def isLeap (year : Int) : Bool :=
  decide (year % 4 = 0) && (decide (year % 100 ≠ 0) || decide (year % 400 = 0))

/-- The days of a year before one of its months; the month after December gives the length
of the year. -/
def daysBefore (year month : Int) : Int :=
  (if month ≤ 1 then 0 else if month ≤ 2 then 31 else if month ≤ 3 then 59
    else if month ≤ 4 then 90 else if month ≤ 5 then 120 else if month ≤ 6 then 151
    else if month ≤ 7 then 181 else if month ≤ 8 then 212 else if month ≤ 9 then 243
    else if month ≤ 10 then 273 else if month ≤ 11 then 304 else if month ≤ 12 then 334 else 365) +
    if 2 < month ∧ isLeap year = true then 1 else 0

/-- The days of a month. -/
def daysIn (year month : Int) : Int := daysBefore year (month + 1) - daysBefore year month

/-- The first of January of a year. -/
def yearStart (year : Int) : Int :=
  365 * (year - 1) + (year - 1) / 4 - (year - 1) / 100 + (year - 1) / 400

def dayNumber (date : Date) : Int :=
  yearStart date.year + daysBefore date.year date.month + (date.day - 1)

/-- The year of a day. -/
def yearOf (day : Int) : Int :=
  400 * (day / 146097) + 100 * min (day % 146097 / 36524) 3 +
    4 * ((day % 146097 - 36524 * min (day % 146097 / 36524) 3) / 1461) +
    min ((day % 146097 - 36524 * min (day % 146097 / 36524) 3) % 1461 / 365) 3 + 1

/-- The month of a day of the year among a month and so many months behind it. -/
def monthFrom (year yearDay : Int) : Nat -> Int -> Int
  | 0, month => month
  | rest + 1, month =>
      if yearDay < daysBefore year (month + 1) then month
      else monthFrom year yearDay rest (month + 1)

/-- The month of a day of the year, counted from zero. -/
def monthOf (year yearDay : Int) : Int := monthFrom year yearDay 11 1

/-- The day within its year, counted from zero. -/
def yearDay (day : Int) : Int := day - yearStart (yearOf day)

/-- The date of a day. -/
def date (day : Int) : Date where
  year := yearOf day
  month := monthOf (yearOf day) (yearDay day)
  day := yearDay day - daysBefore (yearOf day) (monthOf (yearOf day) (yearDay day)) + 1

/-- The ISO year and week of a day: those of the Thursday in its week.  Day zero is a Monday. -/
def isoWeek (day : Int) : Int × Int :=
  (yearOf (day - day % 7 + 3), yearDay (day - day % 7 + 3) / 7 + 1)

/-- The year and the month so many months before a month. -/
def monthsBefore (date : Date) (months : Int) : Int × Int :=
  (date.year + (date.month - 1 - months) / 12, (date.month - 1 - months) % 12 + 1)

/-- The calendar has the date. -/
def Date.Valid (date : Date) : Prop :=
  1 ≤ date.month ∧ date.month ≤ 12 ∧ 1 ≤ date.day ∧ date.day ≤ daysIn date.year date.month

instance (date : Date) : Decidable date.Valid := inferInstanceAs (Decidable (_ ∧ _))

/-- The date of a day is on that day. -/
theorem dayNumber_date (day : Int) : dayNumber (date day) = day := by
  simp only [dayNumber, date, yearDay]
  omega

/-- The start of a year from its place in the cycles. -/
theorem yearStart_cycles {year a b c d : Int} (place : year = 400 * a + 100 * b + 4 * c + d + 1)
    (hundreds : 0 ≤ b ∧ b ≤ 3) (fours : 0 ≤ c ∧ c ≤ 24) (ones : 0 ≤ d ∧ d ≤ 3) :
    yearStart year = 146097 * a + 36524 * b + 1461 * c + 365 * d := by
  have four : (year - 1) / 4 = 100 * a + 25 * b + c := by omega
  have hundred : (year - 1) / 100 = 4 * a + b := by omega
  have fourHundred : (year - 1) / 400 = a := by omega
  unfold yearStart
  rw [four, hundred, fourHundred]
  omega

/-- The place of a day in the cycles of 400, 100 and 4 years. -/
theorem yearOf_place (day : Int) : Exists fun a => Exists fun b => Exists fun c => Exists fun d =>
    yearOf day = 400 * a + 100 * b + 4 * c + d + 1 ∧ (0 ≤ b ∧ b ≤ 3) ∧ (0 ≤ c ∧ c ≤ 24) ∧
      (0 ≤ d ∧ d ≤ 3) ∧ 146097 * a + 36524 * b + 1461 * c + 365 * d ≤ day ∧
      (d < 3 -> day < 146097 * a + 36524 * b + 1461 * c + 365 * d + 365) ∧
      day < 146097 * a + 36524 * b + 1461 * c + 1461 ∧
      (b < 3 -> day < 146097 * a + 36524 * b + 36524) ∧ day < 146097 * a + 146097 := by
  obtain ⟨a, four⟩ : Exists fun a => a = day / 146097 := ⟨_, rfl⟩
  obtain ⟨r, rest⟩ : Exists fun r => r = day % 146097 := ⟨_, rfl⟩
  have inCycle : day = 146097 * a + r ∧ 0 ≤ r ∧ r < 146097 := by omega
  obtain ⟨b, hundred⟩ : Exists fun b => b = min (r / 36524) 3 := ⟨_, rfl⟩
  have inCentury : 0 ≤ b ∧ b ≤ 3 ∧ 36524 * b ≤ r ∧ (b < 3 -> r < 36524 * b + 36524) := by omega
  obtain ⟨s, left⟩ : Exists fun s => s = r - 36524 * b := ⟨_, rfl⟩
  obtain ⟨c, quad⟩ : Exists fun c => c = s / 1461 := ⟨_, rfl⟩
  obtain ⟨u, last⟩ : Exists fun u => u = s % 1461 := ⟨_, rfl⟩
  have inQuad : s = 1461 * c + u ∧ 0 ≤ u ∧ u < 1461 := by omega
  obtain ⟨d, one⟩ : Exists fun d => d = min (u / 365) 3 := ⟨_, rfl⟩
  have inYear : 0 ≤ d ∧ d ≤ 3 ∧ 365 * d ≤ u ∧ (d < 3 -> u < 365 * d + 365) := by omega
  have quads : 0 ≤ c ∧ c ≤ 24 := by omega
  refine ⟨a, b, c, d, ?_, ⟨inCentury.1, inCentury.2.1⟩, quads, ⟨inYear.1, inYear.2.1⟩, ?_⟩
  · unfold yearOf
    rw [← four, ← rest, ← hundred, ← left, ← quad, ← last, ← one]
  · clear four rest hundred quad last one
    omega

/-- A day lies in its year. -/
theorem yearStart_yearOf (day : Int) :
    yearStart (yearOf day) ≤ day ∧ day < yearStart (yearOf day + 1) := by
  rcases yearOf_place day with ⟨a, b, c, d, place, hundreds, fours, ones, start, inYear, inQuad,
    inCentury, inCycle⟩
  rw [yearStart_cycles place hundreds fours ones]
  refine ⟨start, ?_⟩
  -- the next year starts a new cycle where the day's year ends one
  by_cases yearsLeft : d < 3
  · rw [yearStart_cycles (b := b) (c := c) (d := d + 1) (a := a) (by omega) hundreds fours (by omega)]
    have bound := inYear yearsLeft
    omega
  · by_cases foursLeft : c < 24
    · rw [yearStart_cycles (a := a) (b := b) (c := c + 1) (d := 0) (by omega) hundreds (by omega)
        (by omega)]
      omega
    · by_cases hundredsLeft : b < 3
      · rw [yearStart_cycles (a := a) (b := b + 1) (c := 0) (d := 0) (by omega) (by omega) (by omega)
          (by omega)]
        have bound := inCentury hundredsLeft
        omega
      · rw [yearStart_cycles (a := a + 1) (b := 0) (c := 0) (d := 0) (by omega) (by omega) (by omega)
          (by omega)]
        omega

theorem isLeap_iff (year : Int) :
    isLeap year = true ↔ year % 4 = 0 ∧ (year % 100 ≠ 0 ∨ year % 400 = 0) := by
  simp only [isLeap, Bool.and_eq_true, Bool.or_eq_true, decide_eq_true_eq]

/-- The length of a year. -/
theorem yearStart_succ (year : Int) : yearStart (year + 1) = yearStart year + daysBefore year 13 := by
  by_cases leap : isLeap year = true
  · have length : daysBefore year 13 = 366 := by simp [daysBefore, leap]
    rw [isLeap_iff] at leap
    unfold yearStart
    omega
  · have length : daysBefore year 13 = 365 := by simp [daysBefore, leap]
    rw [isLeap_iff] at leap
    unfold yearStart
    omega

/-- The month of a day of the year has the day. -/
theorem monthFrom_spec {year yearDay : Int} (rest : Nat) : forall {month : Int},
    daysBefore year month ≤ yearDay -> yearDay < daysBefore year (month + rest + 1) ->
      month ≤ monthFrom year yearDay rest month ∧
        monthFrom year yearDay rest month ≤ month + rest ∧
        daysBefore year (monthFrom year yearDay rest month) ≤ yearDay ∧
        yearDay < daysBefore year (monthFrom year yearDay rest month + 1) := by
  induction rest with
  | zero =>
      intro month starts ends
      exact ⟨le_refl _, by simp [monthFrom], starts, by simpa [monthFrom] using ends⟩
  | succ rest ih =>
      intro month starts ends
      unfold monthFrom
      split
      · rename_i inMonth
        exact ⟨le_refl _, by omega, starts, inMonth⟩
      · rename_i beyond
        have further : month + 1 + (rest : Int) + 1 = month + (rest + 1 : Nat) + 1 := by omega
        have later := ih (not_lt.mp beyond) (by rw [further]; exact ends)
        exact ⟨by omega, by omega, later.2.2⟩

theorem monthOf_spec {year yearDay : Int} (starts : 0 ≤ yearDay)
    (ends : yearDay < daysBefore year 13) :
    1 ≤ monthOf year yearDay ∧ monthOf year yearDay ≤ 12 ∧
      daysBefore year (monthOf year yearDay) ≤ yearDay ∧
      yearDay < daysBefore year (monthOf year yearDay + 1) := by
  have first : daysBefore year 1 = 0 := by simp [daysBefore]
  unfold monthOf
  exact monthFrom_spec 11 (by rw [first]; exact starts) ends

/-- The date of a day is one the calendar has. -/
theorem date_valid (day : Int) : (date day).Valid := by
  have lies := yearStart_yearOf day
  rw [yearStart_succ] at lies
  have starts : 0 ≤ yearDay day := by
    unfold yearDay
    omega
  have ends : yearDay day < daysBefore (yearOf day) 13 := by
    unfold yearDay
    omega
  have month := monthOf_spec starts ends
  unfold Date.Valid daysIn date
  refine ⟨month.1, month.2.1, ?_, ?_⟩
  · simp only
    omega
  · simp only
    omega

/-! ## Weeks and months in order -/

/-- The weeks are numbered through, and so are the months. -/
def weekIndex (day : Int) : Int := day / 7

def monthIndex (day : Int) : Int := 12 * (date day).year + (date day).month

theorem yearStart_le_of_le {year later : Int} (order : year ≤ later) :
    yearStart year ≤ yearStart later := by
  unfold yearStart
  omega

/-- Later days are in no earlier year. -/
theorem yearOf_le_of_le {day later : Int} (order : day ≤ later) : yearOf day ≤ yearOf later := by
  have lies := yearStart_yearOf day
  have laterLies := yearStart_yearOf later
  by_contra beyond
  have next : yearStart (yearOf later + 1) ≤ yearStart (yearOf day) :=
    yearStart_le_of_le (by omega)
  omega

theorem daysBefore_le_succ (year month : Int) :
    daysBefore year month ≤ daysBefore year (month + 1) := by
  unfold daysBefore
  cases isLeap year <;> simp <;> omega

theorem daysBefore_le_of_le {year month later : Int} (order : month ≤ later) :
    daysBefore year month ≤ daysBefore year later := by
  rcases Int.le.dest order with ⟨months, rfl⟩
  clear order
  induction months with
  | zero => exact le_of_eq (congrArg (daysBefore year) (Int.add_zero month).symm)
  | succ months ih =>
      apply le_trans ih
      rw [Int.natCast_succ, ← Int.add_assoc]
      exact daysBefore_le_succ year (month + months)

/-- The bounds of the month in which a day of the calendar lies. -/
theorem month_bounds (day : Int) :
    1 ≤ (date day).month ∧ (date day).month ≤ 12 ∧
      daysBefore (yearOf day) (date day).month ≤ yearDay day ∧
      yearDay day < daysBefore (yearOf day) ((date day).month + 1) := by
  have lies := yearStart_yearOf day
  rw [yearStart_succ] at lies
  exact monthOf_spec (by unfold yearDay; omega) (by unfold yearDay; omega)

/-- Later days are in no earlier month. -/
theorem monthIndex_le_of_le {day later : Int} (order : day ≤ later) :
    monthIndex day ≤ monthIndex later := by
  have bounds := month_bounds day
  have laterBounds := month_bounds later
  have years : (date day).year ≤ (date later).year := yearOf_le_of_le order
  unfold monthIndex
  by_cases sameYear : yearOf day = yearOf later
  · by_contra beyond
    have same : (date day).year = (date later).year := sameYear
    have next : daysBefore (yearOf later) ((date later).month + 1) ≤
        daysBefore (yearOf later) (date day).month := daysBefore_le_of_le (by omega)
    have ordered : yearDay day ≤ yearDay later := by
      unfold yearDay
      rw [sameYear]
      omega
    rw [sameYear] at bounds
    omega
  · have differ : (date day).year ≠ (date later).year := sameYear
    omega

/-- The number of a month determines it. -/
theorem monthIndex_inj {day other : Int} :
    monthIndex day = monthIndex other ↔
      (date day).year = (date other).year ∧ (date day).month = (date other).month := by
  have bounds := month_bounds day
  have otherBounds := month_bounds other
  unfold monthIndex
  omega

/-- The month so many months back. -/
theorem monthsBefore_eq_iff {day other months : Int} :
    monthsBefore (date day) months = ((date other).year, (date other).month) ↔
      monthIndex other = monthIndex day - months := by
  have bounds := month_bounds day
  have otherBounds := month_bounds other
  unfold monthsBefore monthIndex
  rw [Prod.mk.injEq]
  omega

/-- The ISO week of a day is its week. -/
theorem isoWeek_inj {day other : Int} :
    isoWeek day = isoWeek other ↔ weekIndex day = weekIndex other := by
  unfold weekIndex
  constructor
  · intro same
    unfold isoWeek at same
    rcases Prod.mk.inj same with ⟨sameYear, sameWeek⟩
    unfold yearDay at sameWeek
    rw [sameYear] at sameWeek
    omega
  · intro same
    have monday : day - day % 7 = other - other % 7 := by omega
    unfold isoWeek
    rw [monday]

theorem date_inj {day other : Int} : date day = date other ↔ day = other := by
  constructor
  · intro same
    rw [← dayNumber_date day, same, dayNumber_date]
  · exact congrArg date

/-! ## Dates in order -/

/-- The place of a date that the calendar has in its year. -/
theorem Date.Valid.place {date : Date} (valid : date.Valid) :
    daysBefore date.year date.month ≤ dayNumber date - yearStart date.year ∧
      dayNumber date - yearStart date.year < daysBefore date.year (date.month + 1) := by
  rcases valid with ⟨_, _, dayLow, dayHigh⟩
  unfold daysIn at dayHigh
  unfold dayNumber
  omega

/-- The days of a year that the calendar has lie in that year. -/
theorem Date.Valid.inYear {date : Date} (valid : date.Valid) :
    yearStart date.year ≤ dayNumber date ∧ dayNumber date < yearStart (date.year + 1) := by
  have place := valid.place
  rcases valid with ⟨monthLow, monthHigh, _, _⟩
  have next : daysBefore date.year (date.month + 1) ≤ daysBefore date.year 13 :=
    daysBefore_le_of_le (by omega)
  have before : daysBefore date.year 1 ≤ daysBefore date.year date.month :=
    daysBefore_le_of_le monthLow
  have first : daysBefore date.year 1 = 0 := by simp [daysBefore]
  have length := yearStart_succ date.year
  omega

/-- Year, month and day in this order. -/
def Date.Before (date other : Date) : Prop :=
  date.year < other.year ∨ date.year = other.year ∧
    (date.month < other.month ∨ date.month = other.month ∧ date.day < other.day)

/-- Dates are ordered like their days. -/
theorem dayNumber_lt_of_before {date other : Date} (valid : date.Valid) (otherValid : other.Valid)
    (before : date.Before other) : dayNumber date < dayNumber other := by
  have place := valid.place
  have otherPlace := otherValid.place
  have year := valid.inYear
  have otherYear := otherValid.inYear
  rcases before with earlier | ⟨sameYear, earlier | ⟨sameMonth, earlier⟩⟩
  · have next : yearStart (date.year + 1) ≤ yearStart other.year :=
      yearStart_le_of_le (by omega)
    omega
  · have next : daysBefore date.year (date.month + 1) ≤ daysBefore date.year other.month :=
      daysBefore_le_of_le (by omega)
    rw [sameYear] at next place
    omega
  · unfold dayNumber
    rw [sameYear, sameMonth]
    omega

theorem Date.before_or (date other : Date) :
    date.Before other ∨ date = other ∨ other.Before date := by
  rcases date with ⟨year, month, day⟩
  rcases other with ⟨otherYear, otherMonth, otherDay⟩
  simp only [Date.Before, Date.mk.injEq]
  omega

/-- A date that the calendar has is the date of its day. -/
theorem date_dayNumber {given : Date} (valid : given.Valid) : date (dayNumber given) = given := by
  have same := dayNumber_date (dayNumber given)
  rcases Date.before_or (date (dayNumber given)) given with before | equal | after
  · exact absurd same (ne_of_lt (dayNumber_lt_of_before (date_valid _) valid before))
  · exact equal
  · exact absurd same.symm (ne_of_lt (dayNumber_lt_of_before valid (date_valid _) after))

theorem before_iff (day other : Int) : (date day).Before (date other) ↔ day < other := by
  have forward := @dayNumber_lt_of_before (date day) (date other) (date_valid day) (date_valid other)
  have backward := @dayNumber_lt_of_before (date other) (date day) (date_valid other)
    (date_valid day)
  rw [dayNumber_date, dayNumber_date] at forward backward
  refine ⟨forward, ?_⟩
  intro order
  rcases Date.before_or (date day) (date other) with before | same | after
  · exact before
  · exact absurd (date_inj.mp same) (ne_of_lt order)
  · exact absurd (backward after) (not_lt.mpr (le_of_lt order))

end Calendar

end Library
end Basement
