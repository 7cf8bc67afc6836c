import SqlConnector.Statement.Exchange
import SqlConnector.Stream.Client

/-!
The statement protocol. A query is submitted, and then one page is asked for after the other, each
where the page before says, until a page has an error or names no next one. A busy server is asked
again, a bounded number of times for each page. A statement that may still be running when the
query ends is cancelled, at the address of the page that was to come next.
-/

namespace SqlConnector.Statement

/-- A server, and the headers that go with each request to it. -/
structure Link where
  server : Server
  headers : Headers

/-- A request that uses up a reply: a query to submit, or a page to get. -/
inductive Ask where
  | submit (uri query : String)
  | page (uri : String)

def maxRetries : Nat := 10

def statementPath : String := "/v1/statement"

namespace Ask

def uri : Ask → String
  | submit uri _ => uri
  | page uri => uri

def request (ask : Ask) (u : Url) (headers : Headers) : Request :=
  match ask with
  | submit _ query => ⟨.post, u.target, headers, query⟩
  | page _ => ⟨.get, u.target, headers, ""⟩

/-- Where the statement can be cancelled while this is being asked for, and until the page that
answers it has been handed over. -/
def cancelUri : Ask → Option String
  | submit _ _ => none
  | page uri => some uri

section Fields

variable (uri query : String) (u : Url) (headers : Headers)

@[simp] theorem uri_submit : (submit uri query).uri = uri := rfl
@[simp] theorem cancelUri_submit : (submit uri query).cancelUri = none := rfl
@[simp] theorem cancelUri_page : (page uri).cancelUri = some uri := rfl

@[simp] theorem request_submit :
    (submit uri query).request u headers = ⟨.post, u.target, headers, query⟩ := rfl

@[simp] theorem request_page :
    (page uri).request u headers = ⟨.get, u.target, headers, ""⟩ := rfl

end Fields

end Ask

namespace Link

/-- The request that cancels a statement, if it can be sent. -/
def cancellation (link : Link) (uri : Option String) : List Request :=
  match uri.map link.server.reach with
  | some (.ok u) => [⟨.delete, u.target, link.headers, ""⟩]
  | _ => []

@[simp] theorem cancellation_none (link : Link) : link.cancellation none = [] := rfl

def ended (link : Link) (outcome : Except ClientError Unit) (uri : Option String) :
    Task Request (Ended Request) :=
  .done ⟨outcome, link.cancellation uri⟩

/-- Hands something over; when it is refused, the statement is cancelled at `uri`. -/
def offer (link : Link) (event : Event) (uri : Option String)
    (taken : Task Request (Ended Request)) : Task Request (Ended Request) :=
  .send (.event event) taken (link.ended (.error .disconnected) uri)

/-- What comes after the parts of a page: its error, or the end, or what comes of the next page. -/
def goOn (link : Link) (page : Page) (next : String → Task Request (Ended Request)) :
    Task Request (Ended Request) :=
  match page.error, page.nextUri with
  | some e, _ => link.offer (.error e.text) none (link.ended (.ok ()) none)
  | none, none => link.offer .success none (link.ended (.ok ()) none)
  | none, some uri => .probe (next uri) (link.ended (.error .disconnected) (some uri))

/-- Hands over the rows of a page, if it has any. -/
def deliverRows (link : Link) (ask : Ask) (page : Page) (rest : Task Request (Ended Request)) :
    Task Request (Ended Request) :=
  match page.data with
  | some batch => link.offer (.data batch) ask.cancelUri rest
  | none => rest

/-- Hands over the names of the columns, unless they are known. -/
def deliverColumns (link : Link) (ask : Ask) (columnsSent : Bool) (page : Page)
    (rest : Task Request (Ended Request)) : Task Request (Ended Request) :=
  match columnsSent, page.columns with
  | false, some columns => link.offer (.columns (columns.map Heading.name) true) ask.cancelUri rest
  | _, _ => rest

/-- Hands over a page, and then what comes after it. -/
def deliver (link : Link) (ask : Ask) (columnsSent : Bool) (page : Page)
    (next : String → Bool → Task Request (Ended Request)) : Task Request (Ended Request) :=
  link.deliverColumns ask columnsSent page <|
    link.deliverRows ask page <|
      link.goOn page fun uri => next uri (columnsSent || page.columns.isSome)

/-- Sends a request, if the server can be reached. -/
def sent (link : Link) (ask : Ask) (replied : Url → Task Request (Ended Request)) :
    Task Request (Ended Request) :=
  match link.server.reach ask.uri with
  | .ok u => .note (ask.request u link.headers) (replied u)
  | .error e => link.ended (.error e) ask.cancelUri

/-- Goes on with the page of a reply, or ends with what is wrong with it. -/
def replied (link : Link) (ask : Ask) (reply : Reply) (u : Url)
    (next : Page → Task Request (Ended Request)) : Task Request (Ended Request) :=
  match reply.page u with
  | .ok page => next page
  | .error e => link.ended (.error e) ask.cancelUri

/-- Asks, and asks again up to `retries` times while the server is busy, and goes on with the
following pages. -/
def exchange (link : Link) (ask : Ask) (retries : Nat) (columnsSent : Bool) :
    List Reply → Task Request (Ended Request)
  | [] =>
    link.sent ask fun u =>
      link.replied ask .exhausted u fun _ => link.ended (.ok ()) ask.cancelUri
  | reply :: rest =>
    link.sent ask fun u =>
      if reply.isBusy ∧ 0 < retries then exchange link ask (retries - 1) columnsSent rest
      else
        link.replied ask reply u fun page =>
          link.deliver ask columnsSent page fun uri columnsSent =>
            exchange link (.page uri) maxRetries columnsSent rest

def run (link : Link) (location : Location) (query : String) : Task Request (Ended Request) :=
  exchange link (.submit ("http://" ++ location.toText ++ statementPath) query) maxRetries false
    link.server.replies

end Link

/-- The client of a server. Connecting sends nothing; it fails when a header can not be sent. -/
def Server.client (server : Server) : Client Request where
  connect location session :=
    ([], (checkHeaders (sessionHeaders session)).map fun headers =>
      Link.run ⟨server, headers⟩ location)

end SqlConnector.Statement
