/-!
# The calendar

Days are counted from 1970-01-01 in the Gregorian calendar, which repeats after 400 years of
146097 days. Within such an era years are taken to begin in March, so that the leap day is the last
one: the lengths of the months before it then follow one linear rule.
-/

namespace Mintage.Calendar

/-- A day of the calendar. -/
structure Date where
  year : Int
  /-- From 1 to 12. -/
  month : Nat
  /-- From 1. -/
  day : Nat
deriving DecidableEq

/-- The days from 0000-03-01 to 1970-01-01. -/
def epochOffset : Int := 719468

/-- The days of 400 years. -/
def eraDays : Int := 146097

/-- The days before the month that is `m` months after March. -/
def daysBeforeMonth (m : Int) : Int := (153 * m + 2) / 5

/-- The number of a day, counted from 1970-01-01. -/
def Date.toDays (d : Date) : Int :=
  let y := if d.month ≤ 2 then d.year - 1 else d.year
  let era := y / 400
  let yearOfEra := y % 400
  let m : Int := if d.month ≤ 2 then d.month + 9 else d.month - 3
  era * eraDays + yearOfEra * 365 + yearOfEra / 4 - yearOfEra / 100 + daysBeforeMonth m +
    (d.day - 1) - epochOffset

/-- The day with a number. -/
def Date.ofDays (days : Int) : Date :=
  let z := days + epochOffset
  let era := z / eraDays
  let dayOfEra := z % eraDays
  let yearOfEra :=
    (dayOfEra - dayOfEra / 1460 + dayOfEra / 36524 - dayOfEra / 146096) / 365
  let dayOfYear := dayOfEra - (365 * yearOfEra + yearOfEra / 4 - yearOfEra / 100)
  let m := (5 * dayOfYear + 2) / 153
  let day := dayOfYear - daysBeforeMonth m + 1
  let month := if m < 10 then m + 3 else m - 9
  let year := era * 400 + yearOfEra + if m < 10 then 0 else 1
  ⟨year, month.toNat, day.toNat⟩

/-- Whether a year has a leap day. -/
def isLeapYear (y : Int) : Bool := y % 4 = 0 && (y % 100 ≠ 0 || y % 400 = 0)

/-- The number of days of a month. -/
def daysInMonth (y : Int) (month : Nat) : Nat :=
  if month = 2 then (if isLeapYear y then 29 else 28)
  else if month = 4 ∨ month = 6 ∨ month = 9 ∨ month = 11 then 30
  else 31

/-- Whether there is such a day. -/
def Date.isValid (d : Date) : Bool :=
  1 ≤ d.month && d.month ≤ 12 && 1 ≤ d.day && d.day ≤ daysInMonth d.year d.month

end Mintage.Calendar
