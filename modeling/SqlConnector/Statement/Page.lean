import SqlConnector.Json.Record
import SqlConnector.Stream.Event

/-!
Pages of a statement's result. A page may name the columns, carry rows, report an error, and say
where the next page is; all but its identifier may be left out.
-/

namespace SqlConnector.Statement

open Json Json.Record

structure Heading where
  name : String
  type : String
  deriving DecidableEq, Repr

structure QueryError where
  message : String
  code : Option Int
  name : Option String
  deriving DecidableEq, Repr

structure Page where
  id : String
  nextUri : Option String
  columns : Option (List Heading)
  data : Option (List (List Cell))
  error : Option QueryError
  state : Option String

namespace Heading

def ofJson? (d : Document) : Option Heading := do
  match ← fields? .required ["name", "type"] d with
  | [name, type] => return ⟨← need? string? name, ← need? string? type⟩
  | _ => none

end Heading

namespace QueryError

def ofJson? (d : Document) : Option QueryError := do
  match ← fields? .required ["message", "errorCode", "errorName"] d with
  | [message, code, name] =>
    let signed := integer? (-Number.signedBound) (Number.signedBound - 1)
    return ⟨← need? string? message, ← maybe? signed code, ← maybe? string? name⟩
  | _ => none

/-- A code is only told together with a name. -/
def text (e : QueryError) : String :=
  match e.name, e.code with
  | some name, some code => name ++ " (" ++ toString code ++ "): " ++ e.message
  | some name, none => name ++ ": " ++ e.message
  | none, _ => e.message

end QueryError

namespace Page

def stateOfJson? (d : Document) : Option String := do
  match ← fields? .required ["state"] d with
  | [state] => need? string? state
  | _ => none

/-- Cells stand in a row, in the list of rows, in a page; these three count as containers. -/
def cellDepth : Nat := Value.maxDepth - 3

def names : List String := ["id", "nextUri", "columns", "data", "error", "stats"]

def ofJson? (d : Document) : Option Page := do
  match ← fields? .required names d with
  | [id, nextUri, columns, data, error, stats] =>
    return {
      id := ← need? string? id
      nextUri := ← maybe? string? nextUri
      columns := ← maybe? (list? Heading.ofJson?) columns
      data := ← maybe? (list? (list? (Document.valueWithin? cellDepth))) data
      error := ← maybe? QueryError.ofJson? error
      state := ← maybe? stateOfJson? stats }
  | _ => none

def read? (text : String) : Option Page := (Document.read? text.toList).bind ofJson?

end Page

end SqlConnector.Statement
