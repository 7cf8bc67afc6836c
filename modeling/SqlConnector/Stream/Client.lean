import SqlConnector.Settings
import SqlConnector.Stream.Execution

/-!
Clients, which connect to a location and run queries over the connection. A failure of either goes
to the receiving side, unless it is that the receiving side is gone.
-/

namespace SqlConnector

/-- How a query went over a connection, and what closing the connection does. -/
structure Ended (ε : Type) where
  outcome : Except ClientError Unit
  closing : List ε

/-- What connecting does, and either why it failed or how a query runs. -/
structure Client (ε : Type) where
  connect : Location → Session → List ε × Except ClientError (String → Task ε (Ended ε))

/-- What can be seen of a query from outside. -/
inductive Note (ε : Type) where
  | asked
  | client (e : ε)
  deriving DecidableEq, Repr

variable {ε : Type}

/-- Reports a failure before closing. That the receiving side is gone is not reported to it. -/
def Ended.conclude (ended : Ended ε) : Task ε Unit :=
  let close := Task.noteAll ended.closing (.done ())
  match ended.outcome with
  | .ok () => close
  | .error .disconnected => close
  | .error e => .send (.failed (.protocol e.message)) close close

def Client.converse (client : Client ε) (location : Location) (session : Session)
    (query : String) : Task ε Unit :=
  let (seen, conversation) := client.connect location session
  .noteAll seen <|
    match conversation with
    | .error e => .report (.failed (.protocol e.message))
    | .ok run => (run query).bind Ended.conclude

end SqlConnector
