import SqlConnector.Catalog.Inquiry
import SqlConnector.Connector

/-!
A table of the engine, and the calls that a query layer makes on it. Each call sends one query; a
failure of the query is the failure of the call, whatever rows came before it.
-/

namespace SqlConnector.Catalog

structure Table (ε : Type) where
  connector : Connector
  client : Client ε
  name : String

inductive Call where
  | attributes
  | tables
  | version
  | maxTime (column : String)
  | rows (query : String) (limit : Option Nat)

inductive Reply where
  | attributes (attributes : List Attribute)
  | tables (names : List String)
  | version (text : String)
  | maxTime (time : Option Instant)
  | rows (items : List (Except Failure Row))

namespace Table

variable {ε α : Type}

/-- Sends a query and reads all its rows. -/
def inquire (t : Table ε) (query : String) (read : List Row → Except Fault α) :
    List (Note ε) × Except Fault α :=
  let (notes, rows) := t.connector.collect t.client query
  (notes, (rows.mapError Fault.execution).bind read)

def attributes (t : Table ε) : List (Note ε) × Except Fault (List Attribute) :=
  t.inquire (columnsQuery t.name) fun rows => .ok (attributesOf rows)

def tables (t : Table ε) : List (Note ε) × Except Fault (List String) :=
  t.inquire (tablesQuery t.connector.session.schema) fun rows => .ok (tablesOf rows)

def version (t : Table ε) : List (Note ε) × Except Fault String :=
  t.inquire versionQuery versionOf

def maxTime (t : Table ε) (column : String) : List (Note ε) × Except Fault (Option Instant) :=
  t.inquire (maxTimeQuery column t.name) maxTimeOf

def call (t : Table ε) : Call → List (Note ε) × Except Fault Reply
  | .attributes => t.attributes.map id (·.map .attributes)
  | .tables => t.tables.map id (·.map .tables)
  | .version => t.version.map id (·.map .version)
  | .maxTime column => (t.maxTime column).map id (·.map .maxTime)
  | .rows query limit =>
    let (notes, items) := t.connector.answers t.client query limit
    (notes, .ok (.rows items))

/-- Whether the first poll that a call makes breaks off. -/
def breaksOff (t : Table ε) : Call → Bool
  | .attributes => t.connector.breaksOff t.client (columnsQuery t.name) none
  | .tables => t.connector.breaksOff t.client (tablesQuery t.connector.session.schema) none
  | .version => t.connector.breaksOff t.client versionQuery none
  | .maxTime column => t.connector.breaksOff t.client (maxTimeQuery column t.name) none
  | .rows query limit => t.connector.breaksOff t.client query limit

/-- Some calls one after the other, and all that is seen of them. -/
def calls (t : Table ε) (calls : List Call) : List (Note ε) × List (Except Fault Reply) :=
  let results := calls.map t.call
  (results.flatMap Prod.fst, results.map Prod.snd)

end Table

end SqlConnector.Catalog
