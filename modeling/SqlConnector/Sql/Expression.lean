import SqlConnector.Attribute
import SqlConnector.Time.Duration
import SqlConnector.Time.Instant
import SqlConnector.Time.Zone

/-!
Single operator calls. The operands are SQL texts that are complete in themselves; everything
else an operator takes is a value of its own type.
-/

namespace SqlConnector.Sql

inductive Expression where
  | timeFloor (operand : String) (duration : Duration) (zone : Zone)
  | timeBucket (operand : String) (duration : Duration) (zone : Zone)
  | timePart (operand : String) (part : String) (zone : Zone)
  | timeShift (operand : String) (duration : Duration) (zone : Zone)
  | cast (operand : String) (source target : ValueType)
  | concat (left right : String)
  | contains (operand search : String)
  | regexpTest (operand pattern : String)
  | regexpExtract (operand pattern : String)
  | indexOf (operand search : String)
  | isNotDistinct (left right : String)
  | timeLiteral (time : Option Instant)

/-- The name of the operator that a query layer calls it by. -/
def Expression.operator : Expression → String
  | timeFloor .. => "TIME_FLOOR"
  | timeBucket .. => "TIME_BUCKET"
  | timePart .. => "TIME_PART"
  | timeShift .. => "TIME_SHIFT"
  | cast .. => "CAST"
  | concat .. => "CONCAT"
  | contains .. => "CONTAINS"
  | regexpTest .. => "MATCH"
  | regexpExtract .. => "REGEXP_EXTRACT"
  | indexOf .. => "INDEX_OF"
  | isNotDistinct .. => "IS_NOT_DISTINCT"
  | timeLiteral .. => "TIME_LITERAL"

end SqlConnector.Sql
