import SqlConnector.Sql.Expression
import SqlConnector.Sql.Part

/-!
The SQL of Presto. String literals take single quotes, identifiers double ones. Times are stored in
UTC, so an operator that looks at the calendar first turns its operand into wall time in the zone
asked for, and one that answers a time turns it back.
-/

namespace SqlConnector.Sql

/-! ### Quoted tokens -/

/-- A quote inside a token is written twice, so that the token ends at the first quote that stands
alone. -/
@[simp] def doubleQuotes (q : Char) : List Char → List Char
  | [] => []
  | c :: rest => if c = q then q :: q :: doubleQuotes q rest else c :: doubleQuotes q rest

def quote (q : Char) (s : String) : String :=
  String.ofList (q :: doubleQuotes q s.toList ++ [q])

def literal (s : String) : String := quote '\'' s

def identifier (s : String) : String := quote '"' s

/-! ### Operators -/

inductive RenderError where
  | unsupportedCast (source target : ValueType)
  | unsupportedDuration (duration : Duration)
  | unsupportedPart (part : String)
  deriving DecidableEq

namespace Presto

def name : String := "Presto"

def nullLiteral : String := "NULL"

/-- A grouping without keys; an empty one is refused, so it is by a constant. -/
def groupByNothing : String := "GROUP BY ''=''"

end Presto

def RenderError.message : RenderError → String
  | unsupportedCast source target =>
    "unsupported cast from " ++ source.name ++ " to " ++ target.name ++ " in " ++ Presto.name ++
      " dialect"
  | unsupportedDuration d =>
    "unsupported duration '" ++ d.toText ++ "' in " ++ Presto.name ++ " dialect"
  | unsupportedPart part => "unsupported part " ++ part ++ " in " ++ Presto.name ++ " dialect"

namespace Presto

def wallTime (operand : String) : Zone → String
  | .utc => operand
  | zone => "(" ++ operand ++ " AT TIME ZONE 'UTC' AT TIME ZONE '" ++ zone.name ++ "')"

def utcTime (operand : String) : Zone → String
  | .utc => operand
  | zone => "(" ++ operand ++ " AT TIME ZONE '" ++ zone.name ++ "' AT TIME ZONE 'UTC')"

/-- The unit that truncates to each duration that a time can be floored to. -/
def truncationUnits : List (String × String) := [
  ("PT1S", "second"), ("PT1M", "minute"), ("PT1H", "hour"), ("P1D", "day"), ("P1W", "week"),
  ("P1M", "month"), ("P3M", "quarter"), ("P1Y", "year")]

def timeFloor (operand : String) (duration : Duration) (zone : Zone) :
    Except RenderError String :=
  match truncationUnits.lookup duration.toText with
  | some unit =>
    .ok (utcTime ("DATE_TRUNC('" ++ unit ++ "', " ++ wallTime operand zone ++ ")") zone)
  | none => .error (.unsupportedDuration duration)

def timePart (operand part : String) (zone : Zone) : Except RenderError String :=
  match parts.lookup part with
  | some formula => .ok (formula.text (wallTime operand zone))
  | none => .error (.unsupportedPart part)

def plusInterval (n : Nat) (unit : String) : String :=
  " + INTERVAL '" ++ toString n ++ "' " ++ unit

/-- The spans that a shift adds one after the other. There are no intervals of weeks, so weeks
are added as days. -/
def shiftSpans (s : Spans) : List (Nat × String) :=
  if s.isWeekOnly then [(s.week.toNat * 7, "DAY")]
  else
    [(s.year.toNat, "YEAR"), (s.month.toNat, "MONTH"), (s.day.toNat, "DAY"),
      (s.hour.toNat, "HOUR"), (s.minute.toNat, "MINUTE"), (s.second.toNat, "SECOND")].filter
        fun (n, _) => n ≠ 0

def timeShift (operand : String) (duration : Duration) : String :=
  (shiftSpans duration.spans).foldl (fun text (n, unit) => text ++ plusInterval n unit) operand

/-- The texts before and after the operand of a cast. A number on the side of a time is a count
of milliseconds since 1970. -/
def castAround? : ValueType → ValueType → Option (String × String)
  | .number, .time => some ("CAST(FROM_UNIXTIME(CAST(", " AS DOUBLE) / 1000) AS TIMESTAMP)")
  | .time, .number => some ("CAST(TO_UNIXTIME(CAST(", " AS TIMESTAMP)) * 1000 AS BIGINT)")
  | .string, .number => some ("CAST(", " AS BIGINT)")
  | .number, .string => some ("CAST(", " AS VARCHAR)")
  | .string, .string => some ("CAST(", " AS VARCHAR)")
  | _, _ => none

def cast (operand : String) (source target : ValueType) : Except RenderError String :=
  match castAround? source target with
  | some (before, after) => .ok (before ++ operand ++ after)
  | none => .error (.unsupportedCast source target)

def concat (left right : String) : String := "CONCAT(" ++ left ++ "," ++ right ++ ")"

def position (operand search : String) : String :=
  "POSITION(" ++ search ++ " IN " ++ operand ++ ")"

/-- True where `search` occurs in the operand. -/
def contains (operand search : String) : String := position operand search ++ ">0"

/-- The place of `search` in the operand counted from zero, -1 where it does not occur. -/
def indexOf (operand search : String) : String := position operand search ++ " - 1"

def regexpTest (operand pattern : String) : String :=
  "REGEXP_LIKE(" ++ operand ++ ", " ++ literal pattern ++ ")"

def regexpExtract (operand pattern : String) : String :=
  "REGEXP_EXTRACT(" ++ operand ++ ", " ++ literal pattern ++ ")"

/-- Equality that takes two nulls for equal, as far as a null is written as the constant. -/
def isNotDistinct (left right : String) : String :=
  if left = nullLiteral then right ++ " IS " ++ nullLiteral
  else if right = nullLiteral then left ++ " IS " ++ nullLiteral
  else "(" ++ left ++ " IN (" ++ right ++ "))"

def timeLiteral : Option Instant → String
  | some t => "CAST('" ++ t.toText ++ "' AS TIMESTAMP)"
  | none => nullLiteral

def render : Expression → Except RenderError String
  | .timeFloor operand duration zone => timeFloor operand duration zone
  | .timeBucket operand duration zone => timeFloor operand duration zone
  | .timePart operand part zone => timePart operand part zone
  | .timeShift operand duration _ => .ok (timeShift operand duration)
  | .cast operand source target => cast operand source target
  | .concat left right => .ok (concat left right)
  | .contains operand search => .ok (contains operand search)
  | .regexpTest operand pattern => .ok (regexpTest operand pattern)
  | .regexpExtract operand pattern => .ok (regexpExtract operand pattern)
  | .indexOf operand search => .ok (indexOf operand search)
  | .isNotDistinct left right => .ok (isNotDistinct left right)
  | .timeLiteral time => .ok (timeLiteral time)

end Presto

end SqlConnector.Sql
