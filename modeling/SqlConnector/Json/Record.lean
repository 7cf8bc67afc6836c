import SqlConnector.Json.Value

/-!
Records in JSON. A record is written as an object, in which a field may be left out, other
members are passed over and a field given twice is refused, or as an array of its fields in
order. `Record.Tail` says whether an array may end before the last field.
-/

namespace SqlConnector.Json.Record

inductive Tail where
  | required
  | optional
  deriving DecidableEq

/-- The member of a name, if there is one; none in place of that when there are two. -/
def member? (name : String) (members : List (Option String × Document)) :
    Option (Option Document) :=
  match members.filter fun (n, _) => n = some name with
  | [] => some none
  | [(_, d)] => some (some d)
  | _ => none

def ofMembers? (names : List String) (members : List (Option String × Document)) :
    Option (List (Option Document)) :=
  if members.any fun (n, _) => n.isNone then none else names.mapM fun name => member? name members

def ofItems? (tail : Tail) (count : Nat) (items : List Document) :
    Option (List (Option Document)) :=
  if items.length = count ∨ (tail = .optional ∧ items.length < count) then
    some (items.map some ++ List.replicate (count - items.length) none)
  else none

/-- The fields of a record, one for each name. -/
def fields? (tail : Tail) (names : List String) : Document → Option (List (Option Document))
  | .object members => ofMembers? names members
  | .array items => ofItems? tail names.length items
  | _ => none

/-- A field that has to be there. -/
def need? (read : Document → Option α) : Option Document → Option α
  | some d => read d
  | none => none

/-- A field that may be left out or `null`. -/
def maybe? (read : Document → Option α) : Option Document → Option (Option α)
  | none => some none
  | some .null => some none
  | some d => (read d).map some

/-- A field with a value of its own when it is left out. -/
def orElse? (default : α) (read : Document → Option α) : Option Document → Option α
  | none => some default
  | some d => read d

def string? : Document → Option String
  | .string s => s
  | _ => none

def integer? (low high : Int) : Document → Option Int
  | .number (some (.integer n)) => if low ≤ n ∧ n ≤ high then some n else none
  | _ => none

def list? (read : Document → Option α) : Document → Option (List α)
  | .array items => items.mapM read
  | _ => none

end SqlConnector.Json.Record
