import SqlConnector.Settings
import SqlConnector.Statement.Page
import SqlConnector.Stream.Task
import SqlConnector.Url

/-!
Requests to a statement server, and its replies. A server answers at one address; it has a list of
replies, one for each request that submits a statement or asks for a page, and any other request is
taken without using one up.
-/

namespace SqlConnector.Statement

inductive Method where
  | post
  | get
  | delete
  deriving DecidableEq, Repr

def Method.name : Method → String
  | post => "POST"
  | get => "GET"
  | delete => "DELETE"

abbrev Headers := List (String × String)

structure Request where
  method : Method
  target : String
  headers : Headers
  body : String
  deriving DecidableEq, Repr

/-- A reply that is cut short ends before the body that it announces. -/
inductive Reply where
  | closed
  | response (status : Nat) (body : String) (cutShort : Bool)

/-- Where requests go: a host and a port, over plain HTTP. -/
structure Address where
  host : Url.Host
  port : Nat
  deriving DecidableEq, Repr

structure Server where
  address : Address
  replies : List Reply

/-! Headers. -/

def isHeaderChar (c : Char) : Bool := c = '\t' || !Url.isControl c

/-- The headers that tell who asks and for what; the schema's is left out when there is none. -/
def sessionHeaders (s : Session) : Headers :=
  [("x-presto-user", s.user), ("x-presto-source", s.source), ("x-presto-catalog", s.catalog)] ++
    (s.schema.map fun schema => ("x-presto-schema", schema)).toList

/-- The headers, or the first that can not be sent. -/
def checkHeaders (headers : Headers) : Except ClientError Headers :=
  match headers.find? fun (_, value) => !value.toList.all isHeaderChar with
  | some (name, value) => .error (.invalidHeader name value)
  | none => .ok headers

/-! Replies. -/

/-- The server is busy, and asks to be asked again. -/
def Reply.isBusy : Reply → Bool
  | closed => false
  | response status _ _ => status = 503

/-- The status of a connection that is given over to another protocol. -/
def switching : Nat := 101

/-- Whether a status is one of three digits, and no notice that the reply is still to come. -/
def isFinal (status : Nat) : Bool :=
  status = switching || (200 ≤ status && status < 1000)

/-- What of a body arrives: nothing of one cut short, nor where the status allows none. -/
def arriving (status : Nat) (body : String) (cutShort : Bool) : String :=
  if cutShort ∨ status ∈ [switching, 204, 304] then "" else body

/-- The page in a reply to a request for `u`. -/
def Reply.page (u : Url) : Reply → Except ClientError Page
  | closed => .error (.notSent u.text)
  | response status body cutShort =>
    let body := arriving status body cutShort
    if !isFinal status then .error (.notSent u.text)
    else if 200 ≤ status ∧ status < 300 then
      match Page.read? body with
      | some page => .ok page
      | none => .error (.notDecoded u.withoutFragment.text)
    else .error (.status status body)

/-- The reply when there are no more. -/
def Reply.exhausted : Reply := response 500 "script exhausted" false

/-! Addresses. -/

def Address.ofUrl? (u : Url) : Option Address :=
  if u.scheme = "http" then u.host.map fun host => ⟨host, u.port.getD 80⟩ else none

/-- The URL of a request to the server. A login that is sent apart is no part of it. -/
def Server.reach (server : Server) (uri : String) : Except ClientError Url :=
  match (Url.parse? uri).map Url.withoutLogin with
  | none => .error (.unusableUrl none)
  | some u =>
    if !u.isRequestable then .error (.unusableUrl (some u.text))
    else if Address.ofUrl? u = some server.address then .ok u
    else .error (.notSent u.text)

end SqlConnector.Statement
