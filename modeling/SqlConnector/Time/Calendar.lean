/-!
The proleptic Gregorian calendar. `dayNumber` counts the days from 1970-01-01 to a date and
`ofDayNumber` finds the date again, taking whole spans of 400, 100 and 4 years off the count.
-/

namespace SqlConnector

structure Date where
  year : Int
  month : Nat
  day : Nat
  deriving DecidableEq, Repr

namespace Date

def isLeapYear (year : Int) : Bool :=
  year % 4 = 0 ∧ (year % 100 ≠ 0 ∨ year % 400 = 0)

def monthLengths (leap : Bool) : List Nat :=
  [31, if leap then 29 else 28, 31, 30, 31, 30, 31, 31, 30, 31, 30, 31]

/-- The number of days in a month, zero when there is no such month. -/
def monthLength (leap : Bool) (month : Nat) : Nat :=
  if month = 0 then 0 else (monthLengths leap).getD (month - 1) 0

def minYear : Int := -262143

def maxYear : Int := 262142

def isValid (d : Date) : Bool :=
  minYear ≤ d.year ∧ d.year ≤ maxYear ∧
    1 ≤ d.day ∧ d.day ≤ monthLength (isLeapYear d.year) d.month

/-- Days from 0001-01-01 to the first day of a year. -/
def daysBeforeYear (year : Int) : Int :=
  365 * (year - 1) + (year - 1) / 4 - (year - 1) / 100 + (year - 1) / 400

/-- Days from the first day of a year to the first day of a month. -/
def daysBeforeMonth (leap : Bool) (month : Nat) : Nat :=
  ((monthLengths leap).take (month - 1)).foldl (· + ·) 0

/-- Days from 0001-01-01 to 1970-01-01. -/
def epochDay : Int := 719162

def dayNumber (d : Date) : Int :=
  daysBeforeYear d.year + daysBeforeMonth (isLeapYear d.year) d.month + (d.day - 1) - epochDay

/-- The year that holds a day, and the day's number in it from zero. -/
def splitYear (days : Int) : Int × Nat :=
  let cycle := days / 146097
  let inCycle := (days % 146097).toNat
  let century := min (inCycle / 36524) 3
  let inCentury := inCycle - century * 36524
  let leapSpan := inCentury / 1461
  let inSpan := inCentury % 1461
  let year := min (inSpan / 365) 3
  (cycle * 400 + century * 100 + leapSpan * 4 + year + 1, inSpan - year * 365)

/-- The month, counted on from `month`, and the day from zero that `day` days lead to. -/
def splitMonth (month : Nat) : List Nat → Nat → Nat × Nat
  | [], day => (month, day)
  | length :: lengths, day =>
    if day < length then (month, day) else splitMonth (month + 1) lengths (day - length)

def ofDayNumber (days : Int) : Date :=
  let (year, dayOfYear) := splitYear (days + epochDay)
  let (month, day) := splitMonth 1 (monthLengths (isLeapYear year)) dayOfYear
  ⟨year, month, day + 1⟩

end Date

end SqlConnector
