import SqlConnector.Row

/-!
What a client hands over while a query runs, and the ways in which a query fails.
-/

namespace SqlConnector

/-- A part of a result. The names of the columns may come in several parts, of which the last is
`complete`; rows come in batches of bare cells. -/
inductive Event where
  | columns (names : List String) (complete : Bool)
  | data (batch : List (List Cell))
  | success
  | error (message : String)

inductive Failure where
  | locatorUnavailable (reason : String)
  | protocol (reason : String)
  | duplicateColumn (name : String)
  | columnCountMismatch (row expected actual : Nat)
  deriving DecidableEq, Repr

def Failure.message : Failure → String
  | locatorUnavailable reason => "locator unavailable: " ++ reason
  | protocol reason => "protocol error: " ++ reason
  | duplicateColumn name => "column '" ++ name ++ "' appears more than once in the result"
  | columnCountMismatch row expected actual =>
    "row " ++ toString row ++ " has " ++ toString actual ++ " values but the result has " ++
      toString expected ++ " columns"

/-- What goes from the sending to the receiving side of a query. -/
inductive Delivery where
  | event (e : Event)
  | failed (e : Failure)

/-- Why a client stops before the end of a result. -/
inductive ClientError where
  | status (code : Nat) (body : String)
  | invalidHeader (name value : String)
  | unusableUrl (url : Option String)
  | notSent (url : String)
  | notDecoded (url : String)
  | disconnected
  deriving DecidableEq, Repr

def ClientError.message : ClientError → String
  | status code body => "server responded " ++ toString code ++ ": " ++ body
  | invalidHeader name value => "invalid header " ++ name ++ ": " ++ value
  | unusableUrl none => "builder error"
  | unusableUrl (some url) => "builder error for url (" ++ url ++ ")"
  | notSent url => "error sending request for url (" ++ url ++ ")"
  | notDecoded url => "error decoding response body for url (" ++ url ++ ")"
  | disconnected => "result consumer went away"

end SqlConnector
