import SqlConnector.Connector

/-!
Several queries of one connector at once. Each runs on its own; what is seen of them goes into one
record, in the order in which it happens.
-/

namespace SqlConnector

structure Bundle (ε : Type) where
  connector : Connector
  client : Client ε
  executions : List (Execution (Note ε))
  notes : List (Note ε)

namespace Bundle

variable {ε α : Type}

def start (connector : Connector) (client : Client ε) : Bundle ε :=
  ⟨connector, client, [], []⟩

@[simp] theorem start_executions (connector : Connector) (client : Client ε) :
    (start connector client).executions = [] := rfl

@[simp] theorem start_notes (connector : Connector) (client : Client ε) :
    (start connector client).notes = [] := rfl

/-- Adds a query, which nothing is sent for yet. -/
def add (b : Bundle ε) (query : String) : Bundle ε :=
  { b with executions := b.executions ++ [b.connector.execute b.client query] }

/-- Moves what an execution has noted to the common record. -/
def store (b : Bundle ε) (i : Nat) (x : Execution (Note ε)) : Bundle ε :=
  { b with
    executions := b.executions.set i { x with notes := [] }
    notes := b.notes ++ x.notes }

def next? (b : Bundle ε) (i : Nat) : Option (Bundle ε × Answer) :=
  b.executions[i]?.map fun x =>
    let (y, answer) := x.next
    (b.store i y, answer)

def drain? (b : Bundle ε) (i : Nat) : Option (Bundle ε × List (Except Failure Row)) :=
  b.executions[i]?.map fun x =>
    let (y, items) := x.drain
    (b.store i y, items)

def leave? (b : Bundle ε) (i : Nat) : Option (Bundle ε) :=
  b.executions[i]?.map fun x => b.store i x.leave

/-- All receiving sides go away, in the order in which the queries were added. -/
def leaveAll (b : Bundle ε) : Bundle ε :=
  (List.range b.executions.length).foldl (fun b i => (b.leave? i).getD b) b

end Bundle

end SqlConnector
