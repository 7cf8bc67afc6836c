/-!
Parts of a time as integer arithmetic on the field functions of SQL. The number of hours, minutes
or seconds since the start of a longer unit is built up from the longest field to the shortest:
take what there is so far, multiply it by the size of the step, add the next field. Days count
from one, so a week, a month or a year starts with its day less one.
-/

namespace SqlConnector.Sql

/-- The functions that take one field out of a timestamp. -/
inductive Field where
  | second
  | minute
  | hour
  | dayOfWeek
  | day
  | dayOfYear
  | week
  | month
  | year
  deriving DecidableEq, Repr

def Field.name : Field → String
  | second => "SECOND"
  | minute => "MINUTE"
  | hour => "HOUR"
  | dayOfWeek => "DOW"
  | day => "DAY"
  | dayOfYear => "DOY"
  | week => "WEEK"
  | month => "MONTH"
  | year => "YEAR"

/-- The field of an operand's text. -/
def Field.call (f : Field) (operand : String) : String := f.name ++ "(" ++ operand ++ ")"

inductive Formula where
  | field (f : Field)
  | lessOne (f : Field)
  | step (units : Formula) (size : Nat) (next : Field)
  deriving DecidableEq, Repr

namespace Formula

def text (operand : String) : Formula → String
  | field f => f.call operand
  | lessOne f => "(" ++ f.call operand ++ "-1)"
  | step units size next =>
    "(" ++ units.text operand ++ "*" ++ toString size ++ "+" ++ next.call operand ++ ")"

def hours (units : Formula) : Formula := step units 24 .hour

def minutes (units : Formula) : Formula := step units 60 .minute

def seconds (units : Formula) : Formula := step units 60 .second

end Formula

open Formula in
/-- The parts that can be asked for, by name. -/
def parts : List (String × Formula) := [
  ("SECOND_OF_MINUTE", field .second),
  ("SECOND_OF_HOUR", seconds (field .minute)),
  ("SECOND_OF_DAY", seconds (minutes (field .hour))),
  ("SECOND_OF_WEEK", seconds (minutes (hours (lessOne .dayOfWeek)))),
  ("SECOND_OF_MONTH", seconds (minutes (hours (lessOne .day)))),
  ("SECOND_OF_YEAR", seconds (minutes (hours (lessOne .dayOfYear)))),
  ("MINUTE_OF_HOUR", field .minute),
  ("MINUTE_OF_DAY", minutes (field .hour)),
  ("MINUTE_OF_WEEK", minutes (hours (lessOne .dayOfWeek))),
  ("MINUTE_OF_MONTH", minutes (hours (lessOne .day))),
  ("MINUTE_OF_YEAR", minutes (hours (lessOne .dayOfYear))),
  ("HOUR_OF_DAY", field .hour),
  ("HOUR_OF_WEEK", hours (lessOne .dayOfWeek)),
  ("HOUR_OF_MONTH", hours (lessOne .day)),
  ("HOUR_OF_YEAR", hours (lessOne .dayOfYear)),
  ("DAY_OF_WEEK", field .dayOfWeek),
  ("DAY_OF_MONTH", field .day),
  ("DAY_OF_YEAR", field .dayOfYear),
  ("WEEK_OF_YEAR", field .week),
  ("MONTH_OF_YEAR", field .month),
  ("YEAR", field .year)]

end SqlConnector.Sql
