/-!
# `TypedSearch.Calendar.Date`: dates of the Gregorian calendar and their day numbers

The calendar is extended to all years, with a year 0 in front of year 1. Day 0 is 1970-01-01.
-/

set_option autoImplicit false

namespace TypedSearch.Calendar

/-- A date. -/
structure Date where
  year : Int
  month : Nat
  day : Nat
  deriving DecidableEq, Repr

/-- Has the year 366 days? -/
def isLeap (year : Int) : Bool := year % 4 = 0 && (year % 100 ≠ 0 || year % 400 = 0)

/-- The days from the start of year 0 to the start of a year. -/
def daysBeforeYear (year : Int) : Int :=
  365 * year + (year + 3) / 4 - (year + 99) / 100 + (year + 399) / 400

/-- The days from the start of a year to the start of a month. -/
def daysBeforeMonth (leap : Bool) (month : Nat) : Nat :=
  [0, 0, 31, 59, 90, 120, 151, 181, 212, 243, 273, 304, 334, 365].getD month 0 +
    if leap && 2 < month then 1 else 0

/-- The number of days of a month. -/
def daysInMonth (leap : Bool) (month : Nat) : Nat :=
  daysBeforeMonth leap (month + 1) - daysBeforeMonth leap month

/-- The days from the start of year 0 to 1970-01-01. -/
def epochDay : Int := 719528

/-- Does the month have such a day? -/
def Date.isValid (d : Date) : Bool :=
  1 ≤ d.month && d.month ≤ 12 && 1 ≤ d.day && d.day ≤ daysInMonth (isLeap d.year) d.month

/-- The day number of a date. -/
def Date.dayNumber (d : Date) : Int :=
  daysBeforeYear d.year + daysBeforeMonth (isLeap d.year) d.month + d.day - 1 - epochDay

/-- The year that holds a day, counted from the start of year 0. The mean length of a year gives it
to within one. -/
def yearOfDay (day : Int) : Int :=
  let guess := 400 * day / 146097
  if daysBeforeYear (guess + 1) ≤ day then guess + 1
  else if day < daysBeforeYear guess then guess - 1
  else guess

/-- The month that holds a day of the year, counted from 0. -/
def monthOfDay (leap : Bool) (day : Nat) : Nat :=
  1 + (List.range 11).countP fun i => daysBeforeMonth leap (i + 2) ≤ day

/-- The date with a day number. -/
def Date.ofDayNumber (n : Int) : Date :=
  let day := n + epochDay
  let year := yearOfDay day
  let inYear := (day - daysBeforeYear year).toNat
  let month := monthOfDay (isLeap year) inYear
  ⟨year, month, inYear - daysBeforeMonth (isLeap year) month + 1⟩

end TypedSearch.Calendar
