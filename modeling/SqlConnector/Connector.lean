import SqlConnector.Stream.Client

/-!
Connectors, which are made from settings and send queries. Sending a query is to ask the locator,
to connect, to run the query over the connection, and to close it. A locator that is given goes
before the host, which is then not looked at.
-/

namespace SqlConnector

inductive SettingsError where
  | missingHost
  | invalidHost (host : String) (fault : HostFault)
  deriving DecidableEq, Repr

def SettingsError.message : SettingsError → String
  | missingHost => "must have a `host` or a `locator`"
  | invalidHost host fault => "invalid host '" ++ host ++ "': " ++ fault.reason

/-- What it takes to send queries: who answers where, for whom, and how many deliveries may wait
for the consumer. -/
structure Connector where
  locator : Locator
  session : Session
  capacity : Nat
  capacity_pos : 0 < capacity

namespace Connector

def locatorOf (s : Settings) : Option Locator → Except SettingsError Locator
  | some locator => .ok locator
  | none =>
    match Settings.filled s.host with
    | none => .error .missingHost
    | some host =>
      match Location.parse host Settings.defaultPort with
      | .ok location => .ok (.fixed location)
      | .error fault => .error (.invalidHost host fault)

def ofSettings (s : Settings) (locator : Option Locator) : Except SettingsError Connector :=
  (locatorOf s locator).map fun locator =>
    { locator, session := s.session, capacity := max s.buffer.toNat 1
      capacity_pos := Nat.le_max_right s.buffer.toNat 1 }

variable {ε : Type}

/-- What sending a query does. -/
def task (c : Connector) (client : Client ε) (query : String) : Task (Note ε) Unit :=
  .note .asked <|
    match c.locator.locate with
    | .error reason => .report (.failed (.locatorUnavailable reason))
    | .ok location => (client.converse location c.session query).relabel .client

/-- A query on its way, which nothing is sent for before the first poll. -/
def execute (c : Connector) (client : Client ε) (query : String) : Execution (Note ε) :=
  .start (c.task client query) c.capacity c.capacity_pos

@[simp] theorem execute_started (c : Connector) (client : Client ε) (query : String) :
    (c.execute client query).started = false := rfl

/-- The answers to a query, all or the first few, and what was seen once the receiving side has
left. -/
def answers (c : Connector) (client : Client ε) (query : String) (limit : Option Nat) :
    List (Note ε) × List (Except Failure Row) :=
  let x := c.execute client query
  let (y, items) :=
    match limit with
    | some n => x.take n
    | none => x.drain
  (y.leave.notes, items)

/-- Whether the first poll for such answers breaks off; for none of them there is no poll. -/
def breaksOff (c : Connector) (client : Client ε) (query : String) (limit : Option Nat) : Bool :=
  limit ≠ some 0 && (c.execute client query).breaksOff

/-- All rows of a query, or its failure. -/
def collect (c : Connector) (client : Client ε) (query : String) :
    List (Note ε) × Except Failure (List Row) :=
  let (notes, items) := c.answers client query none
  (notes, items.mapM id)

end Connector

end SqlConnector
