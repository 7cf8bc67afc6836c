import SqlConnector.Proofs.Stream.Ending
import SqlConnector.Stream.Execution

/-!
Orders in which the two sides of an execution move. A schedule says move by move which side is
next; a poll is split into the passes of its loop, so that deliveries may come in between. Every
order that the library carries out (`poll`, `settle`, `await`, `next`, `take`) is such a schedule.
-/

namespace SqlConnector

def Poll.answer? : Poll → Option Answer
  | .pending => none
  | .ready answer => some answer

@[simp] theorem Poll.answer?_pending : pending.answer? = none := rfl

@[simp] theorem Poll.answer?_ready (answer : Answer) : (ready answer).answer? = some answer := rfl

namespace Execution

open Output (Sealed)

variable {ε : Type}

/-! ### One pass of a poll -/

/-- One pass of the loop in a poll: the answer, or one more delivery taken in. The first pass that
needs a delivery starts the sending side. -/
def turn (x : Execution ε) : Execution ε × Option Poll :=
  match x.answer? with
  | some (y, answer) => (y, some (.ready answer))
  | none =>
      let x := { x with started := true }
      match x.channel with
      | d :: rest => ({ x with channel := rest }.assembled (x.assembly.receive d), none)
      | [] =>
          if x.task.isDone then (x.assembled x.assembly.disconnect, none)
          else (x, some .pending)

/-- All that a pass can do. -/
inductive Turned (x : Execution ε) : Execution ε → Option Poll → Prop where
  | row (r : Row) (rest : List Output) (hpending : x.pending = .row r :: rest) :
      Turned x { x with pending := rest } (some (.ready (some (.ok r))))
  | ended (rest : List Output) (hpending : x.pending = .finished :: rest) :
      Turned x x.finish (some (.ready none))
  | failed (e : Failure) (rest : List Output) (hpending : x.pending = .failed e :: rest) :
      Turned x x.finish (some (.ready (some (.error e))))
  | past (hpending : x.pending = []) (hfinished : x.finished = true) :
      Turned x x (some (.ready none))
  | received (d : Delivery) (rest : List Delivery) (hpending : x.pending = [])
      (hfinished : x.finished = false) (hchannel : x.channel = d :: rest) :
      Turned x ({ x with started := true, channel := rest }.assembled (x.assembly.receive d)) none
  | lost (hpending : x.pending = []) (hfinished : x.finished = false) (hchannel : x.channel = [])
      (hdone : x.task.isDone = true) :
      Turned x ({ x with started := true }.assembled x.assembly.disconnect) none
  | waited (hpending : x.pending = []) (hfinished : x.finished = false) (hchannel : x.channel = [])
      (hdone : x.task.isDone = false) :
      Turned x { x with started := true } (some .pending)

theorem answer?_eq_none {x : Execution ε} :
    x.answer? = none ↔ x.pending = [] ∧ x.finished = false := by
  unfold answer?
  split <;> simp_all

theorem turned_turn (x : Execution ε) : Turned x x.turn.1 x.turn.2 := by
  obtain ⟨task, capacity, hpos, notes, channel, listening, started, assembly, pending,
    finished⟩ := x
  match pending, finished with
  | .row r :: rest, _ => exact .row r rest rfl
  | .finished :: rest, _ => exact .ended rest rfl
  | .failed e :: rest, _ => exact .failed e rest rfl
  | [], true => exact .past rfl rfl
  | [], false =>
      match channel with
      | d :: rest => exact .received d rest rfl rfl rfl
      | [] =>
          simp only [turn, answer?, Bool.false_eq_true, if_false]
          split
          · next hdone => exact .lost rfl rfl rfl hdone
          · next hdone => exact .waited rfl rfl rfl (by simpa using hdone)

theorem Turned.task {x y : Execution ε} {p : Option Poll} (h : Turned x y p) : y.task = x.task := by
  cases h <;> rfl

/-! ### One step of the sending side -/

/-- All that a step of the sending side can do. -/
inductive Produced (x : Execution ε) : Execution ε → Prop where
  | noted (e : ε) (next : Task ε Unit) (htask : x.task = .note e next) :
      Produced x { x with task := next, notes := x.notes ++ [e] }
  | refused (d : Delivery) (taken next : Task ε Unit) (htask : x.task = .send d taken next)
      (hlistening : x.listening = false) : Produced x { x with task := next }
  | taken (d : Delivery) (next refused : Task ε Unit) (htask : x.task = .send d next refused)
      (hlistening : x.listening = true) (hroom : x.channel.length < x.capacity) :
      Produced x { x with task := next, channel := x.channel ++ [d] }
  | heard (next gone : Task ε Unit) (htask : x.task = .probe next gone)
      (hlistening : x.listening = true) : Produced x { x with task := next }
  | gone (heard next : Task ε Unit) (htask : x.task = .probe heard next)
      (hlistening : x.listening = false) : Produced x { x with task := next }

theorem Produced.started {x y : Execution ε} (h : Produced x y) : y.started = x.started := by
  cases h <;> rfl

theorem Produced.listening {x y : Execution ε} (h : Produced x y) : y.listening = x.listening := by
  cases h <;> rfl

theorem Produced.pending {x y : Execution ε} (h : Produced x y) : y.pending = x.pending := by
  cases h <;> rfl

theorem Produced.assembly {x y : Execution ε} (h : Produced x y) : y.assembly = x.assembly := by
  cases h <;> rfl

theorem produced_of_produce? {x y : Execution ε} (h : x.produce? = some y) :
    x.started = true ∧ Produced x y := by
  obtain ⟨task, capacity, hpos, notes, channel, listening, started, assembly, pending,
    finished⟩ := x
  cases started with
  | false => simp [produce?] at h
  | true =>
      refine ⟨rfl, ?_⟩
      cases task with
      | done _ => simp [produce?] at h
      | note e next =>
          cases Option.some.inj h
          exact .noted e next rfl
      | send d taken refused =>
          cases listening with
          | false =>
              cases Option.some.inj h
              exact .refused d taken refused rfl rfl
          | true =>
              by_cases hroom : channel.length < capacity
              · simp only [produce?, if_true, hroom, Bool.not_true, Bool.false_eq_true, if_false,
                  Option.some.injEq] at h
                subst h
                exact .taken d taken refused rfl rfl hroom
              · simp [produce?, hroom] at h
      | probe heard gone =>
          cases listening with
          | false =>
              cases Option.some.inj h
              exact .gone heard gone rfl rfl
          | true =>
              cases Option.some.inj h
              exact .heard heard gone rfl rfl

theorem Produced.produce?_eq {x y : Execution ε} (h : Produced x y) (hstarted : x.started = true) :
    x.produce? = some y := by
  cases h with
  | noted e next htask => simp [produce?, hstarted, htask]
  | refused d taken next htask hlistening => simp [produce?, hstarted, htask, hlistening]
  | taken d next refused htask hlistening hroom =>
      simp [produce?, hstarted, htask, hlistening, hroom]
  | heard next gone htask hlistening => simp [produce?, hstarted, htask, hlistening]
  | gone heard next htask hlistening => simp [produce?, hstarted, htask, hlistening]

/-- A sending side that is not done can move when the channel is empty. -/
theorem exists_produce? {x : Execution ε} (hstarted : x.started = true)
    (hchannel : x.channel = []) (hdone : x.task.isDone = false) : ∃ y, x.produce? = some y := by
  simp only [produce?, hstarted, if_true]
  cases htask : x.task with
  | done _ => simp [htask] at hdone
  | note e next => exact ⟨_, rfl⟩
  | probe heard gone => exact ⟨_, rfl⟩
  | send d taken refused =>
      have hroom : x.channel.length < x.capacity := by
        rw [hchannel]
        exact x.capacity_pos
      simp only [hroom, if_true]
      split <;> exact ⟨_, rfl⟩

/-- A sending side that nobody listens to only stops at its end. -/
theorem isDone_of_produce? {x : Execution ε} (hstarted : x.started = true)
    (hlistening : x.listening = false) (h : x.produce? = none) : x.task.isDone = true := by
  simp only [produce?, hstarted, if_true, hlistening] at h
  cases htask : x.task with
  | done a => rfl
  | _ => simp [htask] at h

/-! ### What holds in every state -/

/-- What holds of an execution whose receiving side is still there or has come to the end. -/
structure Sound (x : Execution ε) : Prop where
  /-- The receiving side stops listening when it has come to the end, and not before. -/
  listening : x.listening = !x.finished
  /-- Nothing is kept beyond the end. -/
  ended : x.finished = true → x.channel = [] ∧ x.pending = []
  /-- What is put out but not handed on has an end exactly when the assembly is over. -/
  closed : x.finished = false → Sealed x.assembly.isTerminal x.pending
  /-- Before the first poll there is nothing to hand on. -/
  unstarted : x.started = false → x.pending = [] ∧ x.finished = false

theorem sound_start (task : Task ε Unit) (capacity : Nat) (hcapacity : 0 < capacity) :
    Sound (start task capacity hcapacity) :=
  ⟨rfl, by simp [start], fun _ => rfl, fun _ => ⟨rfl, rfl⟩⟩

/-- An assembly whose outputs have all been handed on is live. -/
theorem Sound.isTerminal {x : Execution ε} (h : Sound x) (hfinished : x.finished = false)
    (hpending : x.pending = []) : x.assembly.isTerminal = false := by
  have hclosed := h.closed hfinished
  rw [hpending] at hclosed
  exact hclosed

/-- Something is only handed on before the end, and after the first poll. -/
theorem Sound.finished_of_pending {x : Execution ε} (h : Sound x) {o : Output} {rest : List Output}
    (hpending : x.pending = o :: rest) : x.finished = false := by
  cases hfinished : x.finished with
  | false => rfl
  | true => simp [(h.ended hfinished).2] at hpending

theorem Sound.started {x : Execution ε} (h : Sound x) {o : Output} {rest : List Output}
    (hpending : x.pending = o :: rest) : x.started = true := by
  cases hstarted : x.started with
  | true => rfl
  | false => simp [(h.unstarted hstarted).1] at hpending

theorem Turned.sound {x y : Execution ε} {p : Option Poll} (h : Turned x y p) (hx : Sound x) :
    Sound y := by
  cases h with
  | row r rest hpending =>
      have hlive := hx.finished_of_pending hpending
      refine ⟨hx.listening, by simp [hlive], fun _ => ?_, by simp [hx.started hpending]⟩
      simpa [hpending] using hx.closed hlive
  | ended rest hpending =>
      exact ⟨rfl, fun _ => ⟨rfl, rfl⟩, by simp, by simp [hx.started hpending]⟩
  | failed e rest hpending =>
      exact ⟨rfl, fun _ => ⟨rfl, rfl⟩, by simp, by simp [hx.started hpending]⟩
  | past hpending hfinished => exact hx
  | received d rest hpending hfinished hchannel =>
      refine ⟨hx.listening, by simp [hfinished], fun _ => ?_, by simp⟩
      simpa [hpending] using
        Assembly.sealed_receive (hx.isTerminal hfinished hpending) d
  | lost hpending hfinished hchannel hdone =>
      refine ⟨hx.listening, by simp [hfinished], fun _ => ?_, by simp⟩
      simpa [hpending, Assembly.disconnect] using
        Assembly.sealed_fail (hx.isTerminal hfinished hpending) _
  | waited hpending hfinished hchannel hdone =>
      exact ⟨hx.listening, hx.ended, hx.closed, by simp⟩

theorem Produced.sound {x y : Execution ε} (h : Produced x y) (hx : Sound x) : Sound y := by
  cases h with
  | taken d next refused htask hlistening hroom =>
      have hfinished : x.finished = false := by
        have := hx.listening
        simp_all
      exact ⟨hx.listening, by simp [hfinished], hx.closed, hx.unstarted⟩
  | _ => exact ⟨hx.listening, hx.ended, hx.closed, hx.unstarted⟩

/-! ### Schedules -/

/-- Which side is next: the sending side takes a step, unless it has to wait, or the receiving side
makes a pass through the loop of its poll. -/
inductive Move where
  | send
  | turn
  deriving DecidableEq

def move (x : Execution ε) : Move → Execution ε × Option Poll
  | .send => (x.produce?.getD x, none)
  | .turn => x.turn

@[simp] theorem move_send (x : Execution ε) : x.move .send = (x.produce?.getD x, none) := rfl

@[simp] theorem move_turn (x : Execution ε) : x.move .turn = x.turn := rfl

/-- Carries out a schedule. The polls that came to a result are listed. -/
@[simp] def run (x : Execution ε) : List Move → Execution ε × List Poll
  | [] => (x, [])
  | m :: rest =>
      let (y, p) := x.move m
      let (z, ps) := y.run rest
      (z, p.toList ++ ps)

@[simp] theorem run_append (x : Execution ε) (ms ns : List Move) :
    x.run (ms ++ ns) = (((x.run ms).1.run ns).1, (x.run ms).2 ++ ((x.run ms).1.run ns).2) := by
  induction ms generalizing x with
  | nil => rfl
  | cons m rest ih => simp [ih]

/-- In its turn the sending side stands still, or takes the step that it can take. -/
theorem stood_or_produced (x : Execution ε) :
    x.produce? = none ∧ (x.move .send).1 = x ∨ x.produce? = some (x.move .send).1 := by
  cases hy : x.produce? with
  | none => exact .inl ⟨rfl, by simp [hy]⟩
  | some y => exact .inr (by simp [hy])

theorem sound_move {x : Execution ε} (h : Sound x) (m : Move) : Sound (x.move m).1 := by
  cases m with
  | turn => exact (turned_turn x).sound h
  | send =>
      rcases stood_or_produced x with ⟨-, hsame⟩ | hproduce
      · rwa [hsame]
      · exact (produced_of_produce? hproduce).2.sound h

theorem sound_run {x : Execution ε} (h : Sound x) (ms : List Move) : Sound (x.run ms).1 := by
  induction ms generalizing x with
  | nil => exact h
  | cons m rest ih => exact ih (sound_move h m)

/-! ### The end of the stream -/

theorem Turned.finished {x y : Execution ε} {p : Option Poll} (h : Turned x y p)
    (hend : x.finished = true ∨ p = some (.ready none)) : y.finished = true := by
  cases h with
  | ended rest hpending => rfl
  | failed e rest hpending => rfl
  | past hpending hfinished => exact hfinished
  | _ => simp_all

theorem Produced.finished {x y : Execution ε} (h : Produced x y) : y.finished = x.finished := by
  cases h <;> rfl

/-- Once a poll was answered that there are no more, the stream is finished and stays so. -/
theorem finished_run {x : Execution ε} (ms : List Move)
    (hend : x.finished = true ∨ .ready none ∈ (x.run ms).2) : (x.run ms).1.finished = true := by
  induction ms generalizing x with
  | nil => simpa using hend
  | cons m rest ih =>
      simp only [run, List.mem_append, Option.mem_toList] at hend ⊢
      refine ih ?_
      cases m with
      | turn =>
          rcases hend with hfinished | hanswer | hlater
          · exact .inl ((turned_turn x).finished (.inl hfinished))
          · exact .inl ((turned_turn x).finished (.inr hanswer))
          · exact .inr hlater
      | send =>
          have hsame : (x.move .send).1.finished = x.finished := by
            rcases stood_or_produced x with ⟨-, hsame⟩ | hproduce
            · rw [hsame]
            · exact (produced_of_produce? hproduce).2.finished
          rw [hsame]
          rcases hend with hfinished | hanswer | hlater
          · exact .inl hfinished
          · simp at hanswer
          · exact .inr hlater

/-! ### A whole poll -/

theorem run_turn_cons {x y : Execution ε} (h : x.turn = (y, none)) (ms : List Move) :
    x.run (.turn :: ms) = y.run ms := by
  simp [h]

/-- The loop over the deliveries in the channel, pass by pass. -/
theorem exists_last_turn_receive {x : Execution ε} (h : Sound x) (hanswer : x.answer? = none) :
    ∃ n y, n ≤ x.channel.length + 1 ∧ x.run (List.replicate n .turn) = (y, []) ∧
      y.turn = (({ x with started := true }.receive x.channel).1,
        some ({ x with started := true }.receive x.channel).2) := by
  obtain ⟨task, capacity, hpos, notes, channel, listening, started, assembly, pending,
    finished⟩ := x
  obtain ⟨rfl, rfl⟩ := answer?_eq_none.mp hanswer
  induction channel generalizing assembly started with
  | nil =>
      cases hdone : task.isDone with
      | false => exact ⟨0, _, by simp, rfl, by simp [turn, answer?, receive, hdone]⟩
      | true =>
          -- a pass for the loss of the sender, and one for the answer it leads to
          have hlive := h.isTerminal rfl rfl
          have hturn : turn ⟨task, capacity, hpos, notes, [], listening, started, assembly, [],
              false⟩ = (⟨task, capacity, hpos, notes, [], listening, true, assembly.disconnect.1,
                assembly.disconnect.2, false⟩, none) := by
            simp [turn, answer?, hdone, assembled]
          refine ⟨1, _, by simp, run_turn_cons hturn [], ?_⟩
          simp [turn, answer?, receive, hdone, assembled, Assembly.disconnect_of_live hlive]
  | cons d rest ih =>
      -- one pass takes in the delivery, and either the next one answers or the loop goes on
      have hturn : turn ⟨task, capacity, hpos, notes, d :: rest, listening, started, assembly, [],
          false⟩ = (⟨task, capacity, hpos, notes, rest, listening, true, (assembly.receive d).1,
            (assembly.receive d).2, false⟩, none) := rfl
      have hsound := sound_move h .turn
      simp only [move, hturn] at hsound
      cases hanswer' : answer? ⟨task, capacity, hpos, notes, rest, listening, true,
          (assembly.receive d).1, (assembly.receive d).2, false⟩ with
      | some result =>
          refine ⟨1, _, by simp, run_turn_cons hturn [], ?_⟩
          simp [turn, receive, assembled, hanswer']
      | none =>
          have hpending : (assembly.receive d).2 = [] := (answer?_eq_none.mp hanswer').1
          rw [hpending] at hsound hturn hanswer'
          obtain ⟨n, y, hn, hrun, hlast⟩ := ih true (assembly.receive d).1 hsound hanswer'
          refine ⟨n + 1, y, by simpa using hn, ?_, ?_⟩
          · rw [List.replicate_succ, run_turn_cons hturn, hrun]
          · rw [hlast]
            simp [receive, assembled, hpending, hanswer']

/-- A poll is its passes: one for each delivery received, one for the loss of the sender, and a last
one with the result. -/
theorem exists_last_turn_poll {x : Execution ε} (h : Sound x) :
    ∃ n y, n ≤ x.channel.length + 1 ∧ x.run (List.replicate n .turn) = (y, []) ∧
      y.turn = (x.poll.1, some x.poll.2) := by
  cases hanswer : x.answer? with
  | some result => exact ⟨0, x, by omega, rfl, by simp [turn, poll, hanswer]⟩
  | none =>
      obtain ⟨n, y, hn, hrun, hlast⟩ := exists_last_turn_receive h hanswer
      exact ⟨n, y, hn, hrun, by simpa [poll, hanswer] using hlast⟩

theorem exists_turns_poll {x : Execution ε} (h : Sound x) :
    ∃ n, n ≤ x.channel.length + 2 ∧ x.run (List.replicate n .turn) = (x.poll.1, [x.poll.2]) := by
  obtain ⟨n, y, hn, hrun, hlast⟩ := exists_last_turn_poll h
  refine ⟨n + 1, by omega, ?_⟩
  rw [List.replicate_succ', run_append, hrun]
  simp [hlast]

/-! ### The library's own orders -/

/-- The answers among the results of some polls. -/
def answersOf (polls : List Poll) : List Answer := polls.filterMap Poll.answer?

@[simp] theorem answersOf_append (polls more : List Poll) :
    answersOf (polls ++ more) = answersOf polls ++ answersOf more :=
  List.filterMap_append

@[simp] theorem answersOf_cons_pending (polls : List Poll) :
    answersOf (.pending :: polls) = answersOf polls := rfl

@[simp] theorem answersOf_cons_ready (answer : Answer) (polls : List Poll) :
    answersOf (.ready answer :: polls) = answer :: answersOf polls := rfl

/-- Some schedule leads from one execution to the other, with these answers on the way. -/
def Reaches (x y : Execution ε) (answers : List Answer) : Prop :=
  ∃ ms, (x.run ms).1 = y ∧ answersOf (x.run ms).2 = answers

theorem Reaches.refl (x : Execution ε) : Reaches x x [] := ⟨[], rfl, rfl⟩

theorem Reaches.trans {x y z : Execution ε} {as bs : List Answer} (h : Reaches x y as)
    (h' : Reaches y z bs) : Reaches x z (as ++ bs) := by
  obtain ⟨ms, rfl, rfl⟩ := h
  obtain ⟨ns, rfl, rfl⟩ := h'
  exact ⟨ms ++ ns, by rw [run_append], by simp⟩

theorem Reaches.sound {x y : Execution ε} {as : List Answer} (h : Reaches x y as)
    (hx : Sound x) : Sound y := by
  obtain ⟨ms, rfl, -⟩ := h
  exact sound_run hx ms

theorem reaches_produce {x y : Execution ε} (h : x.produce? = some y) : Reaches x y [] :=
  ⟨[.send], by simp [h], rfl⟩

theorem reaches_poll {x : Execution ε} (h : Sound x) :
    Reaches x x.poll.1 (answersOf [x.poll.2]) := by
  obtain ⟨n, -, hrun⟩ := exists_turns_poll h
  exact ⟨List.replicate n .turn, by rw [hrun], by rw [hrun]⟩

theorem reaches_settle (x : Execution ε) : Reaches x x.settle [] := by
  induction x using settle.induct with
  | case1 x y h ih =>
      rw [settle, h]
      exact (reaches_produce h).trans ih
  | case2 x h =>
      rw [settle, h]
      exact .refl x

/-- A sending side that nobody listens to goes on to its end. -/
theorem isDone_settle {x : Execution ε} (hstarted : x.started = true)
    (hlistening : x.listening = false) : x.settle.task.isDone = true := by
  induction x using settle.induct with
  | case1 x y h ih =>
      obtain ⟨-, hproduced⟩ := produced_of_produce? h
      rw [settle, h]
      exact ih (hproduced.started.trans hstarted) (hproduced.listening.trans hlistening)
  | case2 x h =>
      rw [settle, h]
      exact isDone_of_produce? hstarted hlistening h

/-- The sending side has gone as far as it can. -/
theorem produce?_settle (x : Execution ε) : x.settle.produce? = none := by
  induction x using settle.induct with
  | case1 x y h ih =>
      rw [settle, h]
      exact ih
  | case2 x h =>
      rw [settle, h]
      exact h

/-- The receiving side has all that was sent and put out, and the sending side is not done. -/
structure Waits (x : Execution ε) : Prop where
  pending : x.pending = []
  finished : x.finished = false
  channel : x.channel = []
  isDone : x.task.isDone = false

theorem Turned.waits {x y : Execution ε} (h : Turned x y (some .pending)) :
    Waits x ∧ y = { x with started := true } := by
  cases h with
  | waited hpending hfinished hchannel hdone => exact ⟨⟨hpending, hfinished, hchannel, hdone⟩, rfl⟩

theorem turn_of_waits {x : Execution ε} (h : Waits x) :
    x.turn = ({ x with started := true }, some .pending) := by
  have hanswer := answer?_eq_none.mpr ⟨h.pending, h.finished⟩
  simp only [turn, hanswer, h.channel, h.isDone]
  simp [← h.channel]

theorem waits_of_turns {n : Nat} {x y : Execution ε}
    (h : x.run (List.replicate n .turn) = (y, [.pending])) : Waits y ∧ y.started = true := by
  induction n generalizing x with
  | zero => simp at h
  | succ n ih =>
      have hturn := turned_turn x
      simp only [List.replicate_succ, run, move] at h
      generalize x.turn = r at h hturn
      obtain ⟨z, p⟩ := r
      match p, hturn with
      | none, _ => exact ih (x := z) (by simpa [Prod.ext_iff] using h)
      | some (.ready answer), _ => simp at h
      | some .pending, hturn =>
          obtain ⟨⟨hpending, hfinished, hchannel, hdone⟩, rfl⟩ := hturn.waits
          have hwaits : Waits { x with started := true } := ⟨hpending, hfinished, hchannel, hdone⟩
          cases n with
          | zero =>
              simp only [List.replicate_zero, run] at h
              cases h
              exact ⟨hwaits, rfl⟩
          | succ n => simp [List.replicate_succ, turn_of_waits hwaits] at h

/-- A poll is only pending while the sending side can go on. -/
theorem exists_produce?_of_pending {x y : Execution ε} (h : x.poll = (y, .pending)) (hx : Sound x) :
    ∃ z, y.produce? = some z := by
  obtain ⟨n, -, hrun⟩ := exists_turns_poll hx
  rw [h] at hrun
  obtain ⟨hwaits, hstarted⟩ := waits_of_turns hrun
  exact exists_produce? hstarted hwaits.channel hwaits.isDone

theorem await_of_ready {x y : Execution ε} {answer : Answer} (h : x.poll = (y, .ready answer)) :
    x.await = (y, answer) := by
  rw [await]
  split
  · next hp => simp_all
  · next hp => simp [h] at hp

theorem await_of_pending {x y z : Execution ε} (h : x.poll = (y, .pending))
    (hz : y.produce? = some z) : x.await = z.await := by
  rw [await]
  split
  · next hp => simp [h] at hp
  · next w hp =>
      obtain rfl : y = w := by simpa [h] using hp
      split
      · next v hv =>
          rw [hz, Option.some.injEq] at hv
          rw [hv]
      · next hv => simp [hz] at hv

theorem reaches_await {x : Execution ε} (hx : Sound x) : Reaches x x.await.1 [x.await.2] := by
  induction x using await.induct with
  | case1 x y answer h =>
      have hpoll := reaches_poll hx
      rw [h] at hpoll
      rw [await_of_ready h]
      exact hpoll
  | case2 x y h z hz ih =>
      rw [await_of_pending h hz]
      have hpoll := reaches_poll hx
      rw [h] at hpoll
      have hproduce := hpoll.trans (reaches_produce hz)
      exact hproduce.trans (ih (hproduce.sound hx))
  | case3 x y h hy =>
      obtain ⟨z, hz⟩ := exists_produce?_of_pending h hx
      simp [hz] at hy

theorem reaches_next {x : Execution ε} (hx : Sound x) : Reaches x x.next.1 [x.next.2] :=
  (reaches_await hx).trans (reaches_settle _)

/-- Fewer answers than asked for come only with the end. -/
theorem reaches_take {x : Execution ε} (n : Nat) (hx : Sound x) :
    ∃ ended, Reaches x (x.take n).1 ((x.take n).2.map some ++ ended) ∧
      (ended = [] ∧ (x.take n).2.length = n ∨ ended = [none]) := by
  induction n generalizing x with
  | zero => exact ⟨[], .refl x, .inl ⟨rfl, rfl⟩⟩
  | succ n ih =>
      have hnext := reaches_next hx
      simp only [take]
      split
      · next y item h =>
          rw [h] at hnext
          obtain ⟨ended, hreaches, hended⟩ := ih (hnext.sound hx)
          exact ⟨ended, by simpa using hnext.trans hreaches, by simpa using hended⟩
      · next y h =>
          rw [h] at hnext
          exact ⟨[none], by simpa using hnext, .inr rfl⟩

end Execution

end SqlConnector
