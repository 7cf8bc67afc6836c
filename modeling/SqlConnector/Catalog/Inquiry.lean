import SqlConnector.Catalog.Column
import SqlConnector.Sql.Presto
import SqlConnector.Stream.Event
import SqlConnector.Time.Timestamp

/-!
Questions to the engine about its tables: the SQL text of each, and how the rows of its answer are
read.
-/

namespace SqlConnector.Catalog

inductive Fault where
  | execution (e : Failure)
  | invalidVersion (reason : String)
  | invalidMaxTime (text : String)
  deriving DecidableEq, Repr

def Fault.message : Fault → String
  | execution e => e.message
  | invalidVersion reason => "invalid version response: " ++ reason
  | invalidMaxTime text => "invalid max time response: " ++ text

/-! The columns of a table. -/

def columnsQuery (table : String) : String :=
  "SELECT c.column_name AS \"name\", c.data_type AS \"sqlType\", null AS \"arrayType\" " ++
    "FROM information_schema.columns c WHERE table_name = " ++ Sql.literal table

/-- Rows that are no columns and columns of unknown types are left out. -/
def attributesOf (rows : List Row) : List Attribute :=
  Column.attributes (rows.filterMap Column.ofRow?)

/-! The tables of a schema. -/

def tablesQuery : Option String → String
  | some schema => "SHOW TABLES FROM " ++ Sql.identifier schema
  | none => "SHOW TABLES"

/-- A string as it is, any other cell as its JSON text. -/
def cellText : Cell → String
  | .string s => s
  | cell => cell.compact

/-- The texts of the first cells, in the order of their code points. -/
def tablesOf (rows : List Row) : List String :=
  ((rows.filterMap Row.first?).map cellText).mergeSort

/-! The engine's version. -/

def versionQuery : String :=
  "SELECT node_version FROM system.runtime.nodes WHERE coordinator = true"

def versionOf : List Row → Except Fault String
  | [row] =>
    match row.first? with
    | some (.string version) => .ok version
    | some cell => .error (.invalidVersion ("expected a string, got " ++ cell.compact))
    | none => .error (.invalidVersion "row has no columns")
  | rows => .error (.invalidVersion ("expected one row, got " ++ toString rows.length))

/-! The latest time in a table. -/

def maxTimeName : String := "maxTime"

def maxTimeQuery (column table : String) : String :=
  "SELECT MAX(" ++ Sql.identifier column ++ ") AS " ++ Sql.identifier maxTimeName ++ " FROM " ++
    Sql.identifier table

/-- A time is given as text, or as a 64-bit number of milliseconds since 1970. -/
def timeOf? : Cell → Option Instant
  | .string text => Timestamp.read? text
  | .number (.integer millis) =>
    if millis < Json.Number.signedBound then Instant.ofMillis? millis else none
  | _ => none

/-- No row, no such cell and a null all mean that there is no time. -/
def maxTimeOf (rows : List Row) : Except Fault (Option Instant) :=
  match rows.head?.bind (Row.get? maxTimeName) with
  | none => .ok none
  | some .null => .ok none
  | some cell =>
    match timeOf? cell with
    | some time => .ok (some time)
    | none => .error (.invalidMaxTime (cellText cell))

end SqlConnector.Catalog
