import SqlConnector.Attribute
import SqlConnector.Row
import SqlConnector.Text.Cut
import SqlConnector.Text.LowerCase

/-!
Columns as the engine's catalog lists them, and the attributes they are presented as. An array is
listed as the type `array` with its element type beside it, or as one text `array(…)`. Case and
surrounding white space of type texts do not count.
-/

namespace SqlConnector.Catalog

structure Column where
  name : String
  nativeType : String
  arrayType : Option String
  deriving DecidableEq, Repr

namespace Column

/-- A row without a name or a type is no column. -/
def ofRow? (row : Row) : Option Column := do
  let name ← (row.get? "name").bind Json.Value.text?
  let nativeType ← (row.get? "sqlType").bind Json.Value.text?
  return ⟨name, nativeType, (row.get? "arrayType").bind Json.Value.text?⟩

def arrayWord : List Char := "array".toList

/-- The element type of a text `array(…)`. -/
def element? (type : List Char) : Option (List Char) :=
  (Text.dropLead? (arrayWord ++ ['(']) type).bind (Text.dropEnd? [')'])

/-- The type and the element type in the form in which they are compared. -/
def canonical (c : Column) : List Char × Option (List Char) :=
  let type := Text.lower (Text.trim c.nativeType.toList)
  match c.arrayType with
  | some element => (type, some (Text.lower (Text.trim element.toList)))
  | none =>
    match element? type with
    | some element => (arrayWord, some (Text.trim element))
    | none => (type, none)

def numberTypes : List String := ["integer", "bigint", "double", "real"]

/-- The scalar type that a type text stands for. Times are looked for before strings. -/
def scalar? (type : List Char) : Option ValueType :=
  if Text.occurs "timestamp".toList type ∨ Text.occurs "date".toList type then some .time
  else if Text.occurs "char".toList type then some .string
  else if String.ofList type ∈ numberTypes then some .number
  else if String.ofList type = "boolean" then some .boolean
  else none

/-- The attribute of a column whose type is known; an array's is a set of its elements. -/
def attribute? (c : Column) : Option Attribute :=
  match c.canonical with
  | (type, element) =>
    if type = arrayWord then do
      let element ← element
      let scalar ← scalar? element
      let set ← scalar.setOf?
      return ⟨c.name, set, String.ofList element⟩
    else (scalar? type).map fun scalar => ⟨c.name, scalar, String.ofList type⟩

def attributes (columns : List Column) : List Attribute := columns.filterMap attribute?

end Column

end SqlConnector.Catalog
