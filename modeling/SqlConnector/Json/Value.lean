import SqlConnector.Json.Document
import SqlConnector.Text.Cut

/-!
JSON values, and their compact text. An object is sorted by its names and holds each name once;
of a name that is written twice the last value counts. Containers nest at most 127 deep.
-/

namespace SqlConnector.Json

inductive Value where
  | null
  | bool (b : Bool)
  | number (n : Number)
  | string (s : String)
  | array (items : List Value)
  | object (members : List (String × Value))
  deriving Inhabited, Repr

namespace Value

/-- Puts a value under a name, in the place of the one that is there. -/
def insert (name : String) (value : Value) : List (String × Value) → List (String × Value)
  | [] => [(name, value)]
  | (n, v) :: rest =>
    if name < n then (name, value) :: (n, v) :: rest
    else if name = n then (name, value) :: rest
    else (n, v) :: insert name value rest

def ofMembers (members : List (String × Value)) : Value :=
  .object (members.foldl (fun sorted (name, value) => insert name value sorted) [])

def text? : Value → Option String
  | string s => some s
  | _ => none

def maxDepth : Nat := 127

end Value

mutual

/-- The value of a document, none when a part of it has none or it nests more than `depth` deep. -/
def Document.valueWithin? (depth : Nat) : Document → Option Value
  | .null => some .null
  | .bool b => some (.bool b)
  | .number n => n.map .number
  | .string s => s.map .string
  | .array items =>
    if depth = 0 then none else (Document.valuesWithin? (depth - 1) items).map .array
  | .object members =>
    if depth = 0 then none else (Document.membersWithin? (depth - 1) members).map Value.ofMembers

def Document.valuesWithin? (depth : Nat) : List Document → Option (List Value)
  | [] => some []
  | d :: rest =>
    match Document.valueWithin? depth d, Document.valuesWithin? depth rest with
    | some v, some vs => some (v :: vs)
    | _, _ => none

def Document.membersWithin? (depth : Nat) :
    List (Option String × Document) → Option (List (String × Value))
  | [] => some []
  | (name, d) :: rest =>
    match name, Document.valueWithin? depth d, Document.membersWithin? depth rest with
    | some name, some v, some vs => some ((name, v) :: vs)
    | _, _, _ => none

end

def Document.value? (d : Document) : Option Value := d.valueWithin? Value.maxDepth

mutual

/-- The document that writes a value. -/
def Value.document : Value → Document
  | .null => .null
  | .bool b => .bool b
  | .number n => .number (some n)
  | .string s => .string (some s)
  | .array items => .array (Value.documents items)
  | .object members => .object (Value.memberDocuments members)

def Value.documents : List Value → List Document
  | [] => []
  | v :: rest => v.document :: Value.documents rest

def Value.memberDocuments : List (String × Value) → List (Option String × Document)
  | [] => []
  | (name, v) :: rest => (some name, v.document) :: Value.memberDocuments rest

end

namespace Value

def hexChar (n : Nat) : Char := Nat.digitChar n

def escape (c : Char) : List Char :=
  if c = '"' then ['\\', '"']
  else if c = '\\' then ['\\', '\\']
  else if c = '\x08' then ['\\', 'b']
  else if c = '\x0c' then ['\\', 'f']
  else if c = '\n' then ['\\', 'n']
  else if c = '\r' then ['\\', 'r']
  else if c = '\t' then ['\\', 't']
  else if c.toNat < 0x20 then ['\\', 'u', '0', '0', hexChar (c.toNat / 16), hexChar (c.toNat % 16)]
  else [c]

def quoted (s : String) : List Char := '"' :: s.toList.flatMap escape ++ ['"']

mutual

/-- The text of a value without any white space. -/
def chars : Value → List Char
  | null => "null".toList
  | bool true => "true".toList
  | bool false => "false".toList
  | number n => n.text
  | string s => quoted s
  | array items => '[' :: Text.join [','] (itemChars items) ++ [']']
  | object members => '\x7b' :: Text.join [','] (memberChars members) ++ ['\x7d']

def itemChars : List Value → List (List Char)
  | [] => []
  | v :: rest => v.chars :: itemChars rest

def memberChars : List (String × Value) → List (List Char)
  | [] => []
  | (name, v) :: rest => (quoted name ++ ':' :: v.chars) :: memberChars rest

end

def compact (v : Value) : String := String.ofList v.chars

def read? (text : String) : Option Value := (Document.read? text.toList).bind Document.value?

end Value

end SqlConnector.Json
