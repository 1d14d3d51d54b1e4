/-!
The proleptic Gregorian calendar. Days are counted from 1 January 1970;
`Date.ofDay` and `Date.day` go between a day and its year, month and day of
the month.
-/
namespace UsageMeter.Time

/-- A date by year, month (from 1) and day of the month (from 1). -/
structure Date where
  year : Int
  month : Nat
  dayOfMonth : Nat
deriving DecidableEq, Repr

namespace Date

/-- Whether a year has 29 February. -/
def isLeap (year : Int) : Bool :=
  year % 4 == 0 && (year % 100 != 0 || year % 400 == 0)

/-- The number of days in a month. -/
def monthLength (year : Int) (month : Nat) : Nat :=
  if month = 2 then (if isLeap year then 29 else 28)
  else if month = 4 ∨ month = 6 ∨ month = 9 ∨ month = 11 then 30
  else 31

/-- Whether the calendar has the date. -/
def valid (d : Date) : Bool :=
  1 ≤ d.month && d.month ≤ 12 && 1 ≤ d.dayOfMonth && d.dayOfMonth ≤ monthLength d.year d.month

/-- The day of a date. Years are counted from March, so that the leap day ends
a year, and in cycles of four hundred years. -/
def day (d : Date) : Int :=
  let year := if d.month ≤ 2 then d.year - 1 else d.year
  let fromMarch : Int := (d.month + 9) % 12
  let cycle := year / 400
  let yearOfCycle := year % 400
  let dayOfYear := (153 * fromMarch + 2) / 5 + d.dayOfMonth - 1
  let dayOfCycle := yearOfCycle * 365 + yearOfCycle / 4 - yearOfCycle / 100 + dayOfYear
  cycle * 146097 + dayOfCycle - 719468

/-- The date of a day. -/
def ofDay (day : Int) : Date :=
  let shifted := day + 719468
  let cycle := shifted / 146097
  let dayOfCycle := shifted % 146097
  let yearOfCycle :=
    (dayOfCycle - dayOfCycle / 1460 + dayOfCycle / 36524 - dayOfCycle / 146096) / 365
  let dayOfYear := dayOfCycle - (365 * yearOfCycle + yearOfCycle / 4 - yearOfCycle / 100)
  let fromMarch := (5 * dayOfYear + 2) / 153
  let month := if fromMarch < 10 then fromMarch + 3 else fromMarch - 9
  { year := yearOfCycle + cycle * 400 + (if month ≤ 2 then 1 else 0)
    month := month.toNat
    dayOfMonth := (dayOfYear - (153 * fromMarch + 2) / 5 + 1).toNat }

end Date
end UsageMeter.Time
