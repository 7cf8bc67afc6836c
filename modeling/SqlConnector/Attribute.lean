import SqlConnector.Json.Record

/-!
The abstract types of a query layer, scalar types and sets of them, and the attributes that a
table presents.
-/

namespace SqlConnector

inductive ValueType where
  | time
  | string
  | number
  | boolean
  | setString
  | setTime
  | setNumber
  | setBoolean
  deriving DecidableEq, Repr

namespace ValueType

def all : List ValueType :=
  [time, string, number, boolean, setString, setTime, setNumber, setBoolean]

def name : ValueType → String
  | time => "TIME"
  | string => "STRING"
  | number => "NUMBER"
  | boolean => "BOOLEAN"
  | setString => "SET/STRING"
  | setTime => "SET/TIME"
  | setNumber => "SET/NUMBER"
  | setBoolean => "SET/BOOLEAN"

def ofName? (s : String) : Option ValueType := all.find? fun t => t.name = s

/-- What a text that names no type is answered with. -/
def unknownMessage (s : String) : String := "unknown value type '" ++ s ++ "'"

/-- The type of the sets of a scalar type. -/
def setOf? : ValueType → Option ValueType
  | time => some setTime
  | string => some setString
  | number => some setNumber
  | boolean => some setBoolean
  | _ => none

def isSet : ValueType → Bool
  | setString | setTime | setNumber | setBoolean => true
  | _ => false

/-- A type is written as its name, or as an object with that one name and nothing under it. -/
def ofJson? : Json.Document → Option ValueType
  | .string (some s) => ofName? s
  | .object [(some s, .null)] => ofName? s
  | _ => none

theorem isSet_of_setOf? {t u : ValueType} (h : t.setOf? = some u) : u.isSet := by
  cases t <;> simp_all [setOf?] <;> subst h <;> rfl

end ValueType

structure Attribute where
  name : String
  type : ValueType
  nativeType : String
  deriving DecidableEq, Repr

def Attribute.ofJson? (d : Json.Document) : Option Attribute := do
  match ← Json.Record.fields? .required ["name", "type", "native_type"] d with
  | [name, type, nativeType] =>
    return {
      name := ← Json.Record.need? Json.Record.string? name
      type := ← Json.Record.need? ValueType.ofJson? type
      nativeType := ← Json.Record.need? Json.Record.string? nativeType }
  | _ => none

end SqlConnector
