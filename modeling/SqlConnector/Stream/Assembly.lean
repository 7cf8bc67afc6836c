import SqlConnector.Stream.Event

/-!
Putting rows together from deliveries in any order. Rows wait until the names of all columns are
known, then each is put out under those names as it comes. The first end, failure or loss of the
sender closes the assembly; what comes after it changes nothing.
-/

namespace SqlConnector

inductive Assembly.Phase where
  | awaitingColumns
  | bufferingRows
  | draining
  | done
  | failed
  deriving DecidableEq, Repr

def Assembly.Phase.isTerminal : Phase → Bool
  | done | failed => true
  | _ => false

inductive Output where
  | row (r : Row)
  | finished
  | failed (e : Failure)

structure Assembly where
  phase : Assembly.Phase
  columns : List String
  queued : List (List (List Cell))
  emitted : Nat

namespace Assembly

def empty : Assembly := ⟨.awaitingColumns, [], [], 0⟩

def isTerminal (a : Assembly) : Bool := a.phase.isTerminal

/-- The first name that equals an earlier one. -/
@[simp] def firstRepeated? (seen : List String) : List String → Option String
  | [] => none
  | name :: rest => if name ∈ seen then some name else firstRepeated? (name :: seen) rest

def fail (a : Assembly) (e : Failure) : Assembly × List Output :=
  if a.isTerminal then (a, []) else ({ a with phase := .failed, queued := [] }, [.failed e])

/-- Puts out rows up to the first one that has not a cell for each column. -/
@[simp] def emit (a : Assembly) : List (List Cell) → Assembly × List Output
  | [] => (a, [])
  | cells :: rest =>
    if cells.length = a.columns.length then
      let (a', out) := emit { a with emitted := a.emitted + 1 } rest
      (a', .row (.ofPairs (a.columns.zip cells)) :: out)
    else a.fail (.columnCountMismatch a.emitted a.columns.length cells.length)

def addColumns (a : Assembly) (names : List String) (complete : Bool) :
    Assembly × List Output :=
  if a.phase = .draining then (a, [])
  else
    let a := { a with columns := a.columns ++ names }
    if !complete then (a, [])
    else
      match firstRepeated? [] a.columns with
      | some name => a.fail (.duplicateColumn name)
      | none => emit { a with phase := .draining, queued := [] } a.queued.flatten

def addRows (a : Assembly) (batch : List (List Cell)) : Assembly × List Output :=
  if a.phase = .draining then a.emit batch
  else ({ a with phase := .bufferingRows, queued := a.queued ++ [batch] }, [])

def finish (a : Assembly) : Assembly × List Output :=
  if a.phase ≠ .draining ∧ a.queued.any (!·.isEmpty) then
    a.fail (.protocol "rows delivered without column names")
  else ({ a with phase := .done }, [.finished])

def receive (a : Assembly) (d : Delivery) : Assembly × List Output :=
  if a.isTerminal then (a, [])
  else
    match d with
    | .event (.columns names complete) => a.addColumns names complete
    | .event (.data batch) => a.addRows batch
    | .event .success => a.finish
    | .event (.error message) => a.fail (.protocol message)
    | .failed e => a.fail e

/-- The sender is gone, which fails unless the result has ended. -/
def disconnect (a : Assembly) : Assembly × List Output :=
  a.fail (.protocol "wire client finished without a terminal signal")

end Assembly

end SqlConnector
