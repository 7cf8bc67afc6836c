import SqlConnector.Proofs.Stream.Course
import SqlConnector.Proofs.Stream.Schedule

/-!
The way an execution takes through its task. Whatever the two sides do in which order, the sending
side does what it does for a listener who stays for so many hand-overs and looks. The listener who
is there from the first poll on goes away in two ways only: when the receiving side is dropped, and
when it has come to the end. It comes to the end only through what it was handed, so that the
assembly of all that was handed over is over by then.
-/

namespace SqlConnector.Execution

variable {ε : Type}

/-- Whether all that a task hands over in the course of a stay ends an assembly. -/
def Exhausts (task : Task ε Unit) (stay : Option Nat) : Prop :=
  (Assembly.empty.callAll ((task.taken stay).map .deliver)).1.isTerminal = true

/-- While somebody listens, `k` contacts have been made on the way through `task`, and `received`
came of them. -/
structure Heard (task : Task ε Unit) (k : Nat) (received : List Delivery) (x : Execution ε) :
    Prop where
  listening : x.listening = true
  /-- What is noted and to be noted is what the task notes for a listener who stays on as long. -/
  notes : ∀ stay, x.notes ++ (x.task.course stay).1 = (task.course (stay.map (· + k))).1
  /-- What is received, in the channel and to come is what the task hands over to that listener. -/
  taken : ∀ stay, received ++ x.channel ++ x.task.taken stay = task.taken (stay.map (· + k))
  /-- The assembly is that of what is received, until the loss of the sender. -/
  assembly : x.task.isDone = true ∨
    x.assembly = (Assembly.empty.callAll (received.map .deliver)).1

/-- When nobody listens any more, the task goes on as for a listener who has stayed for `stay`. -/
structure Unheard (task : Task ε Unit) (stay : Option Nat) (x : Execution ε) : Prop where
  listening : x.listening = false
  notes : x.notes ++ (x.task.course (some 0)).1 = (task.course stay).1

/-- An execution is on its way through `task`; if nobody listens any more, then because of what
was handed over. -/
inductive OnWay (task : Task ε Unit) (x : Execution ε) : Prop where
  | heard (k : Nat) (received : List Delivery) (h : Heard task k received x)
  | unheard (stay : Option Nat) (h : Unheard task stay x)
      (hover : stay = none ∨ Exhausts task stay)

theorem heard_start (task : Task ε Unit) (capacity : Nat) (hcapacity : 0 < capacity) :
    Heard task 0 [] (start task capacity hcapacity) := by
  have hstay (stay : Option Nat) : stay.map (· + 0) = stay := by cases stay <;> rfl
  exact ⟨rfl, fun stay => by rw [hstay]; rfl, fun stay => by rw [hstay]; rfl, .inr rfl⟩

/-! ### Going away -/

/-- Whenever the listener goes away, its stay is known. -/
theorem Heard.unheard {task : Task ε Unit} {k : Nat} {received : List Delivery}
    {x y : Execution ε} (h : Heard task k received x) (hnotes : y.notes = x.notes)
    (htask : y.task = x.task) (hlistening : y.listening = false) :
    Unheard task (some k) y := by
  refine ⟨hlistening, ?_⟩
  rw [hnotes, htask]
  simpa using h.notes (some 0)

/-- A listener who goes away at the end of the stream was handed what led to it. -/
theorem Heard.finish {task : Task ε Unit} {k : Nat} {received : List Delivery} {x : Execution ε}
    (h : Heard task k received x) (hx : Sound x) {o : Output} {rest : List Output}
    (hpending : x.pending = o :: rest) (ho : o.isFinal = true) : OnWay task x.finish := by
  rcases h.assembly with hdone | hassembly
  · -- the sending side is done, so that nothing depends on the listener any more
    have hend := Task.course_of_isDone hdone
    refine .unheard none ⟨rfl, ?_⟩ (.inl rfl)
    have hnotes := h.notes none
    rw [hend] at hnotes
    rw [← show _ = (task.course none).1 from hnotes]
    exact congrArg (x.notes ++ ·) (hend (some 0))
  · -- the assembly has put out its end, and what was handed over begins with what it received
    have hlive : x.finished = false := by simpa [h.listening] using hx.listening
    have hclosed := hx.closed hlive
    simp only [hpending, Output.Sealed, ho, if_true] at hclosed
    refine .unheard (some k) (h.unheard rfl rfl rfl) (.inr ?_)
    have htaken : task.taken (some k) =
        received ++ (x.channel ++ x.task.taken (some 0)) := by
      simpa using (h.taken (some 0)).symm
    rw [Exhausts, htaken, List.map_append]
    apply Assembly.isTerminal_callAll_append
    rw [← hassembly]
    exact hclosed.1

/-! ### Moving on -/

theorem map_add_one_add (stay : Option Nat) (k : Nat) :
    (stay.map (· + 1)).map (· + k) = stay.map (· + (k + 1)) := by
  cases stay with
  | none => rfl
  | some n => simp [Nat.add_assoc, Nat.add_comm 1]

@[simp] theorem stay?_map_add_one (stay : Option Nat) :
    Task.stay? (stay.map (· + 1)) = some stay := by
  cases stay <;> rfl

/-- A hand-over or a look that finds somebody is one more contact. -/
theorem Heard.contact {task : Task ε Unit} {k : Nat} {received : List Delivery}
    {x y : Execution ε} (h : Heard task k received x) (hdone : x.task.isDone = false)
    (hlistening : y.listening = x.listening) (hnotes : y.notes = x.notes)
    (hassembly : y.assembly = x.assembly)
    (hcourse : ∀ stay, (x.task.course (stay.map (· + 1))).1 = (y.task.course stay).1)
    (htaken : ∀ stay, x.channel ++ x.task.taken (stay.map (· + 1)) =
      y.channel ++ y.task.taken stay) : Heard task (k + 1) received y where
  listening := hlistening.trans h.listening
  notes stay := by
    rw [hnotes, ← hcourse, h.notes, map_add_one_add]
  taken stay := by
    rw [List.append_assoc, ← htaken, ← List.append_assoc, h.taken, map_add_one_add]
  assembly := by
    rcases h.assembly with hdone' | h
    · rw [hdone] at hdone'
      contradiction
    · exact .inr (hassembly.trans h)

theorem Unheard.produced {task : Task ε Unit} {stay : Option Nat} {x y : Execution ε}
    (h : Produced x y) (hx : Unheard task stay x) : Unheard task stay y := by
  have hlistening := hx.listening
  cases h with
  | noted e next htask => exact ⟨hlistening, by simpa [htask] using hx.notes⟩
  | refused d taken next htask hlost =>
      exact ⟨hlistening, by simpa [htask] using hx.notes⟩
  | gone heard next htask hlost =>
      exact ⟨hlistening, by simpa [htask] using hx.notes⟩
  | taken d next refused htask hheard hroom => simp [hlistening] at hheard
  | heard next gone htask hheard => simp [hlistening] at hheard

theorem OnWay.produced {task : Task ε Unit} {x y : Execution ε} (h : Produced x y)
    (hx : OnWay task x) : OnWay task y := by
  cases hx with
  | heard k received hheard =>
      have hlistening := hheard.listening
      cases h with
      | noted e next htask =>
          refine .heard k received ⟨hlistening, fun stay => ?_, fun stay => ?_, ?_⟩
          · simpa [htask] using hheard.notes stay
          · simpa [htask] using hheard.taken stay
          · refine hheard.assembly.imp_left fun hdone => ?_
            simp [htask] at hdone
      | taken d next refused htask hheard' hroom =>
          refine .heard (k + 1) received (hheard.contact (by simp [htask]) rfl rfl rfl
            (fun stay => ?_) (fun stay => ?_))
          · simp [htask]
          · simp [htask]
      | heard next gone htask hheard' =>
          refine .heard (k + 1) received (hheard.contact (by simp [htask]) rfl rfl rfl
            (fun stay => ?_) (fun stay => ?_))
          · simp [htask]
          · simp [htask]
      | refused d taken next htask hlost => simp [hlistening] at hlost
      | gone heard next htask hlost => simp [hlistening] at hlost
  | unheard stay hunheard hover => exact .unheard stay (hunheard.produced h) hover

theorem OnWay.turned {task : Task ε Unit} {x y : Execution ε} {p : Option Poll}
    (h : Turned x y p) (hx : Sound x) (hway : OnWay task x) : OnWay task y := by
  cases hway with
  | heard k received hheard =>
      cases h with
      | row r rest hpending =>
          exact .heard k received ⟨hheard.listening, hheard.notes, hheard.taken, hheard.assembly⟩
      | ended rest hpending => exact hheard.finish hx hpending rfl
      | failed e rest hpending => exact hheard.finish hx hpending rfl
      | past hpending hfinished => exact .heard k received hheard
      | received d rest hpending hfinished hchannel =>
          refine .heard k (received ++ [d]) ⟨hheard.listening, hheard.notes, fun stay => ?_, ?_⟩
          · simpa [hchannel] using hheard.taken stay
          · refine hheard.assembly.imp_right fun hassembly => ?_
            rw [List.map_append, Assembly.callAll_append, ← hassembly]
            rfl
      | lost hpending hfinished hchannel hdone =>
          exact .heard k received ⟨hheard.listening, hheard.notes, hheard.taken, .inl hdone⟩
      | waited hpending hfinished hchannel hdone =>
          exact .heard k received ⟨hheard.listening, hheard.notes, hheard.taken, hheard.assembly⟩
  | unheard stay hunheard hover =>
      -- a stream that nobody listens to is finished, so that passes change nothing
      have hfinished : x.finished = true := by simpa [hunheard.listening] using hx.listening
      have hpending := (hx.ended hfinished).2
      cases h with
      | past hpending' hfinished' => exact .unheard stay hunheard hover
      | _ => simp_all

/-! ### The whole way -/

theorem onWay_run {task : Task ε Unit} {x : Execution ε} (hx : Sound x) (h : OnWay task x)
    (ms : List Move) : OnWay task (x.run ms).1 := by
  induction ms generalizing x with
  | nil => exact h
  | cons m rest ih =>
      have hmove : OnWay task (x.move m).1 := by
        cases m with
        | turn => exact h.turned (turned_turn x) hx
        | send =>
            rcases stood_or_produced x with ⟨-, hsame⟩ | hproduce
            · rwa [hsame]
            · exact h.produced (produced_of_produce? hproduce).2
      exact ih (sound_move hx m) hmove

/-- When the sending side is done, what it noted is what the task notes for a listener who stays for
some time: to the end, or until what it was handed has ended the assembly. -/
theorem exists_course_of_run (task : Task ε Unit) (capacity : Nat) (hcapacity : 0 < capacity)
    (ms : List Move) (hdone : ((start task capacity hcapacity).run ms).1.task.isDone = true) :
    ∃ stay, ((start task capacity hcapacity).run ms).1.notes = (task.course stay).1 ∧
      (stay = none ∨ Exhausts task stay) := by
  have hway := onWay_run (sound_start task capacity hcapacity)
    (.heard 0 [] (heard_start task capacity hcapacity)) ms
  generalize ((start task capacity hcapacity).run ms).1 = y at hdone hway
  cases hway with
  | heard k received h =>
      exact ⟨none, by simpa [Task.course_of_isDone hdone] using h.notes none, .inl rfl⟩
  | unheard stay h hover =>
      exact ⟨stay, by simpa [Task.course_of_isDone hdone] using h.notes, hover⟩

/-- What an execution may have noted when its sending side is done, whatever the order in which the
two sides moved. -/
def Ends (x : Execution ε) (notes : List ε) : Prop :=
  ∃ ms, (x.run ms).1.task.isDone = true ∧ (x.run ms).1.notes = notes

end SqlConnector.Execution
