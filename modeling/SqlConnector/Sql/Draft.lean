import SqlConnector.Sql.Presto

/-!
Expressions as they are asked for: operands may be expressions of their own, and durations, zones
and types are still text. Rendering goes from the inside out; of several faults it reports the
first in the order operands, duration, zone, types, and only then the operator's own.
-/

namespace SqlConnector.Sql

mutual

inductive Operand where
  | sql (text : String)
  | call (draft : Draft)

inductive Draft where
  | timeFloor (operand : Operand) (duration zone : String)
  | timeBucket (operand : Operand) (duration zone : String)
  | timePart (operand : Operand) (part zone : String)
  | timeShift (operand : Operand) (duration zone : String)
  | cast (operand : Operand) (source target : String)
  | concat (left right : Operand)
  | contains (operand search : Operand)
  | regexpTest (operand : Operand) (pattern : String)
  | regexpExtract (operand : Operand) (pattern : String)
  | indexOf (operand search : Operand)
  | isNotDistinct (left right : Operand)
  | timeLiteral (time : Option Instant)

end

inductive DraftError where
  | duration (e : DurationError)
  | zone (e : ZoneError)
  | type (name : String)
  | render (e : RenderError)
  deriving DecidableEq

def DraftError.message : DraftError → String
  | duration e => e.message
  | zone e => e.message
  | type name => ValueType.unknownMessage name
  | render e => e.message

def readDuration (text : String) : Except DraftError Duration :=
  (Duration.parse text).mapError .duration

def readZone (text : String) : Except DraftError Zone := (Zone.ofName text).mapError .zone

def readType (text : String) : Except DraftError ValueType :=
  match ValueType.ofName? text with
  | some t => .ok t
  | none => .error (.type text)

def Expression.toSql (e : Expression) : Except DraftError String :=
  (Presto.render e).mapError .render

mutual

def Operand.toSql : Operand → Except DraftError String
  | .sql text => .ok text
  | .call draft => do (← draft.toExpression).toSql

/-- The operator's call over the SQL of its operands. -/
def Draft.toExpression : Draft → Except DraftError Expression
  | .timeFloor operand duration zone => do
    return .timeFloor (← operand.toSql) (← readDuration duration) (← readZone zone)
  | .timeBucket operand duration zone => do
    return .timeBucket (← operand.toSql) (← readDuration duration) (← readZone zone)
  | .timePart operand part zone => do
    return .timePart (← operand.toSql) part (← readZone zone)
  | .timeShift operand duration zone => do
    return .timeShift (← operand.toSql) (← readDuration duration) (← readZone zone)
  | .cast operand source target => do
    return .cast (← operand.toSql) (← readType source) (← readType target)
  | .concat left right => do return .concat (← left.toSql) (← right.toSql)
  | .contains operand search => do return .contains (← operand.toSql) (← search.toSql)
  | .regexpTest operand pattern => do return .regexpTest (← operand.toSql) pattern
  | .regexpExtract operand pattern => do return .regexpExtract (← operand.toSql) pattern
  | .indexOf operand search => do return .indexOf (← operand.toSql) (← search.toSql)
  | .isNotDistinct left right => do return .isNotDistinct (← left.toSql) (← right.toSql)
  | .timeLiteral time => .ok (.timeLiteral time)

end

def Draft.toSql (d : Draft) : Except DraftError String := do (← d.toExpression).toSql

end SqlConnector.Sql
