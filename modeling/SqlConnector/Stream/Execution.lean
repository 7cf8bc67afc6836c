import SqlConnector.Stream.Assembly
import SqlConnector.Stream.Task

/-!
One query on its way: a sending side, a channel of bounded capacity, and a receiving side that
puts rows together. The two sides move one step at a time and in any order; `await` and `settle`
are two such orders. The sending side starts with the first poll, waits while the channel is full,
and finds out that nobody listens any more when the receiving side has finished or was dropped. They
move like this when the first poll can make the channel; else it breaks off.
-/

namespace SqlConnector

/-- What a poll is answered with: a row, the one failure, or none from the end on. -/
abbrev Answer := Option (Except Failure Row)

inductive Poll where
  | pending
  | ready (answer : Answer)

structure Execution (ε : Type) where
  task : Task ε Unit
  capacity : Nat
  capacity_pos : 0 < capacity
  notes : List ε
  channel : List Delivery
  listening : Bool
  started : Bool
  assembly : Assembly
  pending : List Output
  finished : Bool

namespace Execution

variable {ε : Type}

def start (task : Task ε Unit) (capacity : Nat) (capacity_pos : 0 < capacity) : Execution ε :=
  ⟨task, capacity, capacity_pos, [], [], true, false, .empty, [], false⟩

section Start

variable (task : Task ε Unit) (capacity : Nat) (capacity_pos : 0 < capacity)

@[simp] theorem start_notes : (start task capacity capacity_pos).notes = [] := rfl
@[simp] theorem start_started : (start task capacity capacity_pos).started = false := rfl

end Start

/-! The sending side. -/

/-- One step of the sending side, none when it is done, not started or waiting for room. -/
def produce? (x : Execution ε) : Option (Execution ε) :=
  if x.started then
    match x.task with
    | .done _ => none
    | .note e next => some { x with task := next, notes := x.notes ++ [e] }
    | .send d taken refused =>
      if !x.listening then some { x with task := refused }
      else if x.channel.length < x.capacity then
        some { x with task := taken, channel := x.channel ++ [d] }
      else none
    | .probe heard gone => some { x with task := if x.listening then heard else gone }
  else none

theorem size_lt_of_produce? {x y : Execution ε} (h : x.produce? = some y) :
    y.task.size < x.task.size := by
  unfold produce? at h
  split at h
  · cases ht : x.task with
    | done _ => simp [ht] at h
    | note e next => simp only [ht, Option.some.injEq] at h; subst h; simp
    | send d taken refused =>
      simp only [ht] at h
      split at h
      · simp only [Option.some.injEq] at h; subst h; simp only [Task.size]; omega
      · split at h
        · simp only [Option.some.injEq] at h; subst h; simp only [Task.size]; omega
        · simp at h
    | probe heard gone =>
      simp only [ht, Option.some.injEq] at h; subst h
      simp only [Task.size]; split <;> omega
  · simp at h

/-- The sending side goes as far as it can. -/
def settle (x : Execution ε) : Execution ε :=
  match _h : x.produce? with
  | some y => settle y
  | none => x
termination_by x.task.size
decreasing_by exact size_lt_of_produce? _h

/-! The receiving side. -/

/-- The end of the stream: nothing is kept, and nobody listens any more. -/
def finish (x : Execution ε) : Execution ε :=
  { x with finished := true, listening := false, channel := [], pending := [] }

/-- The answer that needs no further delivery, if there is one. -/
def answer? (x : Execution ε) : Option (Execution ε × Answer) :=
  match x.pending with
  | .row r :: rest => some ({ x with pending := rest }, some (.ok r))
  | .finished :: _ => some (x.finish, none)
  | .failed e :: _ => some (x.finish, some (.error e))
  | [] => if x.finished then some (x, none) else none

/-- Goes on with an assembly and what it put out. -/
def assembled (x : Execution ε) (step : Assembly × List Output) : Execution ε :=
  { x with assembly := step.1, pending := x.pending ++ step.2 }

section Fields

variable (x : Execution ε) (step : Assembly × List Output)

@[simp] theorem finish_listening : x.finish.listening = false := rfl
@[simp] theorem finish_started : x.finish.started = x.started := rfl
@[simp] theorem finish_assembly : x.finish.assembly = x.assembly := rfl
@[simp] theorem finish_pending : x.finish.pending = [] := rfl
@[simp] theorem finish_finished : x.finish.finished = true := rfl

@[simp] theorem assembled_task : (x.assembled step).task = x.task := rfl
@[simp] theorem assembled_channel : (x.assembled step).channel = x.channel := rfl
@[simp] theorem assembled_started : (x.assembled step).started = x.started := rfl
@[simp] theorem assembled_assembly : (x.assembled step).assembly = step.1 := rfl
@[simp] theorem assembled_pending : (x.assembled step).pending = x.pending ++ step.2 := rfl
@[simp] theorem assembled_finished : (x.assembled step).finished = x.finished := rfl

end Fields

/-- Receives deliveries up to the first that leads to an answer. An empty channel whose sender is
done counts as a last delivery, the loss of the sender. -/
def receive (x : Execution ε) : List Delivery → Execution ε × Poll
  | [] =>
    let x := { x with channel := [] }
    if x.task.isDone then
      match answer? (x.assembled x.assembly.disconnect) with
      | some (y, answer) => (y, .ready answer)
      | none => (x, .pending)
    else (x, .pending)
  | d :: rest =>
    let x := { x with channel := rest }.assembled (x.assembly.receive d)
    match x.answer? with
    | some (y, answer) => (y, .ready answer)
    | none => receive x rest

def poll (x : Execution ε) : Execution ε × Poll :=
  match x.answer? with
  | some (y, answer) => (y, .ready answer)
  | none => receive { x with started := true } x.channel

/-- The most deliveries that a channel can be made for. -/
def maxCapacity : Nat := Nat.pow 2 61 - 1

/-- The poll that starts the sending side makes the channel. When it would be too large, the poll
breaks off, and all that goes on around it. -/
def breaksOff (x : Execution ε) : Bool :=
  x.answer?.isNone && !x.started && maxCapacity < x.capacity

/-- The receiving side goes away. A query that was never polled leaves no trace. -/
def drop (x : Execution ε) : Execution ε := { x with listening := false, channel := [] }

@[simp] theorem drop_notes (x : Execution ε) : x.drop.notes = x.notes := rfl

@[simp] theorem drop_channel (x : Execution ε) : x.drop.channel = [] := rfl

@[simp] theorem drop_listening (x : Execution ε) : x.drop.listening = false := rfl

theorem task_of_answer? {x y : Execution ε} {answer : Answer} (h : x.answer? = some (y, answer)) :
    y.task = x.task := by
  unfold answer? at h
  split at h
  · simp only [Option.some.injEq, Prod.mk.injEq] at h; rw [← h.1]
  · simp only [Option.some.injEq, Prod.mk.injEq] at h; rw [← h.1]; rfl
  · simp only [Option.some.injEq, Prod.mk.injEq] at h; rw [← h.1]; rfl
  · split at h
    · simp only [Option.some.injEq, Prod.mk.injEq] at h; rw [h.1]
    · simp at h

theorem task_receive (x : Execution ε) (ds : List Delivery) : (x.receive ds).1.task = x.task := by
  induction ds generalizing x with
  | nil =>
    simp only [receive]
    split
    · split
      · next h => rw [task_of_answer? h]; rfl
      · rfl
    · rfl
  | cons d rest ih =>
    simp only [receive]
    split
    · next h => rw [task_of_answer? h]; rfl
    · rw [ih]; rfl

theorem task_poll (x : Execution ε) : x.poll.1.task = x.task := by
  unfold poll
  split
  · next h => exact task_of_answer? h
  · rw [task_receive]

/-! Orders of steps. -/

/-- Polls until there is an answer; in between the sending side takes a step. -/
def await (x : Execution ε) : Execution ε × Answer :=
  match _hp : x.poll with
  | (y, .ready answer) => (y, answer)
  | (y, .pending) =>
    match _h : y.produce? with
    | some z => await z
    | none => (y, none)
termination_by x.task.size
decreasing_by
  have := size_lt_of_produce? _h
  have := task_poll x
  simp_all

/-- Awaits one answer, and lets the sending side run on as far as it can. -/
def next (x : Execution ε) : Execution ε × Answer :=
  let (y, answer) := x.await
  (y.settle, answer)

/-- Awaits answers up to the end, at most `n` of them. -/
def take : Nat → Execution ε → Execution ε × List (Except Failure Row)
  | 0, x => (x, [])
  | n + 1, x =>
    match x.next with
    | (y, some item) =>
      let (z, items) := take n y
      (z, item :: items)
    | (y, none) => (y, [])

/-- The rows in some deliveries. -/
@[simp] def rowCount : List Delivery → Nat
  | [] => 0
  | d :: rest => d.rowCount + rowCount rest

/-- No fewer than the answers that can still come: each row there is anywhere, and a failure. -/
def answerBound (x : Execution ε) : Nat :=
  x.pending.length + x.assembly.queued.flatten.length + rowCount x.channel + x.task.rowBound + 1

/-- Awaits all answers up to the end, which takes one poll more than there are answers. -/
def drain (x : Execution ε) : Execution ε × List (Except Failure Row) :=
  x.take (x.answerBound + 1)

/-- The receiving side goes away, and the sending side runs to its end. -/
def leave (x : Execution ε) : Execution ε := x.drop.settle

end Execution

end SqlConnector
