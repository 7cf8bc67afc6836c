import SqlConnector.Time.Calendar
import SqlConnector.Text.Numeral

/-!
Points of time in UTC: whole seconds since 1970, rounded down, and the nanoseconds after them. A
leap second is the second before it with a thousand million nanoseconds more, so it only follows
a second 59.
-/

namespace SqlConnector

structure Instant where
  seconds : Int
  nanos : Nat
  from_min : Date.dayNumber ⟨Date.minYear, 1, 1⟩ * 86400 ≤ seconds
  to_max : seconds < (Date.dayNumber ⟨Date.maxYear, 12, 31⟩ + 1) * 86400
  nanos_lt : nanos < 2000000000
  leap_after_59 : 1000000000 ≤ nanos → seconds % 60 = 59
  deriving DecidableEq

namespace Instant

def ofEpoch? (seconds : Int) (nanos : Nat) : Option Instant :=
  if h : Date.dayNumber ⟨Date.minYear, 1, 1⟩ * 86400 ≤ seconds ∧
      seconds < (Date.dayNumber ⟨Date.maxYear, 12, 31⟩ + 1) * 86400 ∧ nanos < 2000000000 ∧
      (1000000000 ≤ nanos → seconds % 60 = 59) then
    some ⟨seconds, nanos, h.1, h.2.1, h.2.2.1, h.2.2.2⟩
  else none

/-- The instant a number of milliseconds after the start of 1970, before it when negative. -/
def ofMillis? (millis : Int) : Option Instant :=
  ofEpoch? (millis / 1000) ((millis % 1000).toNat * 1000000)

def date (t : Instant) : Date := Date.ofDayNumber (t.seconds / 86400)

def secondOfDay (t : Instant) : Nat := (t.seconds % 86400).toNat

def hour (t : Instant) : Nat := t.secondOfDay / 3600

def minute (t : Instant) : Nat := t.secondOfDay / 60 % 60

/-- The second of the minute, 60 in a leap second. -/
def second (t : Instant) : Nat := t.secondOfDay % 60 + t.nanos / 1000000000

/-- Milliseconds into the second, cut off and not rounded. -/
def millis (t : Instant) : Nat := t.nanos % 1000000000 / 1000000

/-- Four digits, and a sign before a year that they cannot hold. -/
def yearText (year : Int) : List Char :=
  if 0 ≤ year ∧ year ≤ 9999 then Text.padded 4 year.toNat
  else (if year < 0 then '-' else '+') :: Text.padded 4 year.natAbs

def dateText (d : Date) : List Char :=
  yearText d.year ++ '-' :: Text.padded 2 d.month ++ '-' :: Text.padded 2 d.day

def timeText (t : Instant) : List Char :=
  Text.padded 2 t.hour ++ ':' :: Text.padded 2 t.minute ++ ':' :: Text.padded 2 t.second

/-- The milliseconds after a point, nothing when there are none. -/
def fractionText (t : Instant) : List Char :=
  if t.millis = 0 then [] else '.' :: Text.padded 3 t.millis

/-- Date and time as `year-month-day hour:minute:second`, with milliseconds when there are any. -/
def toText (t : Instant) : String :=
  String.ofList (dateText t.date ++ ' ' :: t.timeText ++ t.fractionText)

end Instant

end SqlConnector
