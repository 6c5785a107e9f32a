/-!
# The proleptic Gregorian calendar

Days are counted from 1970-01-01. A date is a year, a month from 1 to 12 and a day of the
month; the calendar is extended to all years.

* `Date.toDays`, `Date.ofDays`: between dates and day counts.
* `Date.isValid`: whether a month and a day exist, for years 1 to 9999.
* `Date.weekday`: the day of the week, Monday first.
-/

namespace ServiceClient

/-- A calendar date. -/
structure Date where
  year : Int
  month : Nat
  day : Nat
deriving DecidableEq, Repr, Inhabited

/-- Whether a year has 366 days. -/
def isLeapYear (year : Int) : Bool :=
  year % 4 == 0 && (year % 100 != 0 || year % 400 == 0)

/-- The number of days of a month. -/
def daysInMonth (year : Int) (month : Nat) : Nat :=
  if month = 2 then (if isLeapYear year then 29 else 28)
  else if month = 4 ∨ month = 6 ∨ month = 9 ∨ month = 11 then 30
  else 31

namespace Date

/-- The days from 1970-01-01 to a date. Years are counted from March, so that the leap day is
the last of its year, in cycles of 400 years. -/
def toDays (d : Date) : Int :=
  let y := if d.month ≤ 2 then d.year - 1 else d.year
  let cycle := y / 400
  let yearOfCycle := y % 400
  let m : Int := ((d.month : Int) + 9) % 12
  let dayOfYear := (153 * m + 2) / 5 + d.day - 1
  let dayOfCycle := yearOfCycle * 365 + yearOfCycle / 4 - yearOfCycle / 100 + dayOfYear
  cycle * 146097 + dayOfCycle - 719468

/-- The date that lies so many days after 1970-01-01. -/
def ofDays (days : Int) : Date :=
  let z := days + 719468
  let cycle := z / 146097
  let dayOfCycle := z % 146097
  let yearOfCycle :=
    (dayOfCycle - dayOfCycle / 1460 + dayOfCycle / 36524 - dayOfCycle / 146096) / 365
  let dayOfYear := dayOfCycle - (365 * yearOfCycle + yearOfCycle / 4 - yearOfCycle / 100)
  let m := (5 * dayOfYear + 2) / 153
  let day := dayOfYear - (153 * m + 2) / 5 + 1
  let month := if m < 10 then m + 3 else m - 9
  let year := yearOfCycle + cycle * 400 + (if month ≤ 2 then 1 else 0)
  ⟨year, month.toNat, day.toNat⟩

/-- Whether the date exists and its year has one to four digits. -/
def isValid (d : Date) : Bool :=
  1 ≤ d.year && d.year ≤ 9999 && 1 ≤ d.month && d.month ≤ 12 && 1 ≤ d.day &&
    d.day ≤ daysInMonth d.year d.month

/-- The day of the week: 0 for Monday to 6 for Sunday. -/
def weekday (d : Date) : Nat := ((d.toDays + 3) % 7).toNat

end Date

end ServiceClient
