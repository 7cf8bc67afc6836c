import SqlConnector.Text.Cut
import SqlConnector.Text.Numeral

/-!
ISO 8601 durations of whole spans: years to seconds, or weeks alone. A duration has at least one
span that is not zero, and weeks stand with no other span; both are fields of the type, so
`Duration.ofSpans` is the only way to make one and every text is printed from a sound value.
-/

namespace SqlConnector

structure Spans where
  year : UInt32
  month : UInt32
  week : UInt32
  day : UInt32
  hour : UInt32
  minute : UInt32
  second : UInt32
  deriving DecidableEq, Repr

namespace Spans

def none : Spans := ⟨0, 0, 0, 0, 0, 0, 0⟩

def weeks (n : UInt32) : Spans := { none with week := n }

/-- The spans without their weeks. -/
def withoutWeeks (s : Spans) : Spans := { s with week := 0 }

def isWeekOnly (s : Spans) : Bool := s.week ≠ 0 ∧ s.withoutWeeks = none

/-- The spans as a record, in the wording of error messages. -/
def describe (s : Spans) : String :=
  "Spans \x7b year: " ++ toString s.year.toNat ++ ", month: " ++ toString s.month.toNat ++
    ", week: " ++ toString s.week.toNat ++ ", day: " ++ toString s.day.toNat ++
    ", hour: " ++ toString s.hour.toNat ++ ", minute: " ++ toString s.minute.toNat ++
    ", second: " ++ toString s.second.toNat ++ " \x7d"

end Spans

inductive DurationError where
  | invalid (input : String)
  | empty (input : String)
  deriving DecidableEq, Repr

def DurationError.message : DurationError → String
  | .invalid input => "can not parse duration '" ++ input ++ "'"
  | .empty input => "duration '" ++ input ++ "' is empty"

structure Duration where
  spans : Spans
  not_none : spans ≠ .none
  weeks_alone : spans.week = 0 ∨ spans.withoutWeeks = .none
  deriving DecidableEq

namespace Duration

/-- The duration of the given spans; `input` names them in an error. -/
def check (spans : Spans) (input : String) : Except DurationError Duration :=
  if h : spans = .none then .error (.empty input)
  else if hw : spans.week = 0 ∨ spans.withoutWeeks = .none then .ok ⟨spans, h, hw⟩
  else .error (.invalid input)

def ofSpans (spans : Spans) : Except DurationError Duration := check spans spans.describe

def isWeekOnly (d : Duration) : Bool := d.spans.isWeekOnly

/-- Numbered units in the given order, each at most once; an absent unit is zero. -/
def readUnits : List Char → List Char → Option (List UInt32)
  | [], s => if s.isEmpty then some [] else none
  | unit :: units, s =>
    match Text.spanDigits s with
    | (number, c :: rest) =>
      if c = unit then do
        let n ← Text.unsigned? UInt32.size number
        let others ← readUnits units rest
        return UInt32.ofNat n :: others
      else (readUnits units s).map (0 :: ·)
    | (_, []) => (readUnits units s).map (0 :: ·)

def readWeeks (s : List Char) : Option Spans :=
  (Text.plusUnsigned? UInt32.size s).map fun n => Spans.weeks (UInt32.ofNat n)

/-- The years, months and days of a date section. -/
def readDate (s : List Char) : Option Spans :=
  match readUnits ['Y', 'M', 'D'] s with
  | some [y, m, d] => some { Spans.none with year := y, month := m, day := d }
  | _ => none

/-- The hours, minutes and seconds of a time section, added to the spans of the date. -/
def readTime (date : Spans) (s : List Char) : Option Spans :=
  match readUnits ['H', 'M', 'S'] s with
  | some [h, m, sec] => some { date with hour := h, minute := m, second := sec }
  | _ => none

/-- What follows the `P`: weeks alone, a date section, or a date and a non-empty time section. -/
def readBody (s : List Char) : Option Spans :=
  match Text.dropEnd? ['W'] s with
  | some number => readWeeks number
  | none =>
    match Text.cut 'T' s with
    | some (_, []) => none
    | some (date, time) => (readDate date).bind fun spans => readTime spans time
    | none => if s.isEmpty then none else readDate s

def readSpans : List Char → Option Spans
  | 'P' :: body => readBody body
  | _ => none

def parse (input : String) : Except DurationError Duration :=
  match readSpans input.toList with
  | some spans => check spans input
  | none => .error (.invalid input)

/-- A span and its unit, nothing when the span is zero. -/
def printUnit (n : UInt32) (unit : Char) : List Char :=
  if n = 0 then [] else Text.digits n.toNat ++ [unit]

def printDate (s : Spans) : List Char :=
  printUnit s.year 'Y' ++ printUnit s.month 'M' ++ printUnit s.day 'D'

def printTime (s : Spans) : List Char :=
  printUnit s.hour 'H' ++ printUnit s.minute 'M' ++ printUnit s.second 'S'

def printSpans (s : Spans) : List Char :=
  if s.week ≠ 0 then 'P' :: printUnit s.week 'W'
  else if printTime s = [] then 'P' :: printDate s
  else 'P' :: printDate s ++ 'T' :: printTime s

/-- The canonical text: only the spans that are not zero, without leading zeros. -/
def toText (d : Duration) : String := String.ofList (printSpans d.spans)

end Duration

end SqlConnector
