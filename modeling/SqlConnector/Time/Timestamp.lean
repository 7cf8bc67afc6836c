import SqlConnector.Text.Cut
import SqlConnector.Time.Instant

/-!
Reading an instant from text. Three forms are known: a zoned form of fixed width, which carries
its offset from UTC, and two loose forms in UTC, a date and time or a date alone, whose numbers
may have fewer digits and white space before them.
-/

namespace SqlConnector.Timestamp

/-- A date and time of day as written, before any offset is taken off. -/
structure Reading where
  date : Date
  hour : Nat
  minute : Nat
  second : Nat
  nanos : Nat

/-- A second 60 is the second before it with a thousand million nanoseconds more. -/
def Reading.toInstant? (r : Reading) (offset : Int) : Option Instant :=
  if r.date.isValid ∧ r.hour < 24 ∧ r.minute < 60 ∧ r.second ≤ 60 then
    let leap := r.second / 60
    let second := r.second - leap
    Instant.ofEpoch?
      (r.date.dayNumber * 86400 + (r.hour * 3600 + r.minute * 60 + second : Nat) - offset)
      (r.nanos + leap * 1000000000)
  else none

def literal (c : Char) : List Char → Option (List Char)
  | [] => none
  | d :: rest => if d = c then some rest else none

/-- A number of exactly `width` digits. -/
def fixedNumber (width : Nat) (s : List Char) : Option (Nat × List Char) :=
  let ds := s.take width
  if ds.length = width ∧ ds.all Char.isDigit then some (Text.ofDigits ds, s.drop width) else none

/-- A number of one digit up to `width` digits, as many as there are. -/
def shortNumber (width : Nat) (s : List Char) : Option (Nat × List Char) :=
  let ds := (s.take width).takeWhile Char.isDigit
  if ds.isEmpty then none else some (Text.ofDigits ds, s.drop ds.length)

/-- A number of any positive count of digits. -/
def longNumber (s : List Char) : Option (Nat × List Char) :=
  let (ds, rest) := Text.spanDigits s
  if ds.isEmpty then none else some (Text.ofDigits ds, rest)

/-- The value of the first nine digits of a fraction, in nanoseconds. -/
def nanosOf (ds : List Char) : Nat :=
  let kept := ds.take 9
  Text.ofDigits kept * Nat.pow 10 (9 - kept.length)

/-- Nothing, or a point with at least one digit after it; digits past the ninth are dropped. -/
def fraction : List Char → Option (Nat × List Char)
  | '.' :: s =>
    let (ds, rest) := Text.spanDigits s
    if ds.isEmpty then none else some (nanosOf ds, rest)
  | s => some (0, s)

def ending (s : List Char) : Option Unit := if s.isEmpty then some () else none

/-! The zoned form. -/

def dateTimeMark : List Char → Option (List Char)
  | c :: rest => if c = 'T' ∨ c = 't' ∨ c = ' ' then some rest else none
  | [] => none

def sign : List Char → Option (Int × List Char)
  | '+' :: rest => some (1, rest)
  | '-' :: rest => some (-1, rest)
  | '−' :: rest => some (-1, rest)
  | _ => none

/-- The seconds that the written time is ahead of UTC. -/
def zoneOffset (s : List Char) : Option (Int × List Char) :=
  match s with
  | 'Z' :: rest => some (0, rest)
  | 'z' :: rest => some (0, rest)
  | s => do
    let (direction, s) ← sign s
    let (hours, s) ← fixedNumber 2 s
    let s ← literal ':' s
    let (minutes, s) ← fixedNumber 2 s
    if hours < 24 ∧ minutes < 60 then some (direction * (hours * 3600 + minutes * 60 : Nat), s)
    else none

def readZoned (s : List Char) : Option Instant := do
  let (year, s) ← fixedNumber 4 s
  let s ← literal '-' s
  let (month, s) ← fixedNumber 2 s
  let s ← literal '-' s
  let (day, s) ← fixedNumber 2 s
  let s ← dateTimeMark s
  let (hour, s) ← fixedNumber 2 s
  let s ← literal ':' s
  let (minute, s) ← fixedNumber 2 s
  let s ← literal ':' s
  let (second, s) ← fixedNumber 2 s
  let (nanos, s) ← fraction s
  let (offset, s) ← zoneOffset s
  ending s
  Reading.toInstant? ⟨⟨year, month, day⟩, hour, minute, second, nanos⟩ offset

/-! The loose forms. -/

/-- Up to four digits, or any number of them after a sign. -/
def looseYear (s : List Char) : Option (Int × List Char) :=
  match Text.trimStart s with
  | '-' :: rest => (longNumber rest).map fun (n, rest) => (-(n : Int), rest)
  | '+' :: rest => (longNumber rest).map fun (n, rest) => ((n : Int), rest)
  | s => (shortNumber 4 s).map fun (n, rest) => ((n : Int), rest)

def looseNumber (s : List Char) : Option (Nat × List Char) := shortNumber 2 (Text.trimStart s)

def looseDate (s : List Char) : Option (Date × List Char) := do
  let (year, s) ← looseYear s
  let s ← literal '-' s
  let (month, s) ← looseNumber s
  let s ← literal '-' s
  let (day, s) ← looseNumber s
  return (⟨year, month, day⟩, s)

def readDateTime (s : List Char) : Option Instant := do
  let (date, s) ← looseDate s
  let (hour, s) ← looseNumber (Text.trimStart s)
  let s ← literal ':' s
  let (minute, s) ← looseNumber s
  let s ← literal ':' s
  let (second, s) ← looseNumber s
  let (nanos, s) ← fraction s
  ending s
  Reading.toInstant? ⟨date, hour, minute, second, nanos⟩ 0

def readDate (s : List Char) : Option Instant := do
  let (date, s) ← looseDate s
  ending s
  Reading.toInstant? ⟨date, 0, 0, 0, 0⟩ 0

def read? (text : String) : Option Instant :=
  (readZoned text.toList).orElse fun _ =>
    (readDateTime text.toList).orElse fun _ => readDate text.toList

end SqlConnector.Timestamp
