import SqlConnector.Stream.Event

/-!
What the sending side of a query does, as a finite tree. A hand-over goes on in one way when the
delivery is taken and in another when nobody listens any more, and so does a look at whether
somebody listens. Notes record what can be seen from outside, in the order in which it happens.
-/

namespace SqlConnector

inductive Task (ε : Type) (α : Type) where
  | done (a : α)
  | note (e : ε) (next : Task ε α)
  | send (d : Delivery) (taken refused : Task ε α)
  | probe (heard gone : Task ε α)

def Delivery.rowCount : Delivery → Nat
  | .event (.data batch) => batch.length
  | _ => 0

namespace Task

variable {ε ι α β : Type}

@[simp] def bind : Task ε α → (α → Task ε β) → Task ε β
  | done a, f => f a
  | note e next, f => note e (next.bind f)
  | send d taken refused, f => send d (taken.bind f) (refused.bind f)
  | probe heard gone, f => probe (heard.bind f) (gone.bind f)

instance : Monad (Task ε) where
  pure := done
  bind := bind

/-- The same task with its notes under other names. -/
@[simp] def relabel (f : ε → ι) : Task ε α → Task ι α
  | done a => done a
  | note e next => note (f e) (next.relabel f)
  | send d taken refused => send d (taken.relabel f) (refused.relabel f)
  | probe heard gone => probe (heard.relabel f) (gone.relabel f)

def noteAll (es : List ε) (next : Task ε α) : Task ε α := es.foldr note next

@[simp] theorem noteAll_nil (next : Task ε α) : noteAll [] next = next := rfl

@[simp] theorem noteAll_cons (e : ε) (es : List ε) (next : Task ε α) :
    noteAll (e :: es) next = note e (noteAll es next) := rfl

@[simp] theorem noteAll_append (es fs : List ε) (next : Task ε α) :
    noteAll (es ++ fs) next = noteAll es (noteAll fs next) :=
  List.foldr_append

/-- Hands over a delivery, whether it is taken or not. -/
def report (d : Delivery) : Task ε Unit := send d (done ()) (done ())

@[simp] theorem relabel_report (f : ε → ι) (d : Delivery) :
    (report d).relabel f = (report d : Task ι Unit) := rfl

def isDone : Task ε α → Bool
  | done _ => true
  | _ => false

@[simp] theorem isDone_done (a : α) : (done a : Task ε α).isDone = true := rfl

@[simp] theorem isDone_note (e : ε) (next : Task ε α) : (note e next).isDone = false := rfl

@[simp] theorem isDone_send (d : Delivery) (taken refused : Task ε α) :
    (send d taken refused).isDone = false := rfl

@[simp] theorem isDone_probe (heard gone : Task ε α) : (probe heard gone).isDone = false := rfl

/-- The number of steps on the longest way through the task. -/
@[simp] def size : Task ε α → Nat
  | done _ => 0
  | note _ next => next.size + 1
  | send _ taken refused => max taken.size refused.size + 1
  | probe heard gone => max heard.size gone.size + 1

/-- The most rows that the task can hand over. -/
@[simp] def rowBound : Task ε α → Nat
  | done _ => 0
  | note _ next => next.rowBound
  | send d taken refused => d.rowCount + max taken.rowBound refused.rowBound
  | probe heard gone => max heard.rowBound gone.rowBound

end Task

end SqlConnector
