import SqlConnector.Connector
import SqlConnector.Proofs.Stream.Answers
import SqlConnector.Rehearsal

/-!
How the two sides of an execution hold each other back. The account of a schedule has all
deliveries that went into the channel and all that came out of it. Between the two there are never
more than the channel holds, the receiving side takes one out only when it has nothing left to hand
on, and it waits for one only while the channel is empty, so that the sides never wait for each
other. Once nobody listens any more, nothing goes in, and nothing waits to.
-/

namespace SqlConnector

def Poll.isPending : Poll → Bool
  | .pending => true
  | .ready _ => false

namespace Execution

open Output (items)

variable {ε : Type}

/-! ### The channel -/

/-- What the next step of the sending side puts into the channel. -/
def accepted? (x : Execution ε) : Option Delivery :=
  match x.task with
  | .send d _ _ =>
      if x.started ∧ x.listening ∧ x.channel.length < x.capacity then some d else none
  | _ => none

/-- What the next pass of a poll takes out of the channel. -/
def received? (x : Execution ε) : Option Delivery :=
  match x.answer? with
  | some _ => none
  | none => x.channel.head?

/-- The sending side has something to hand over, and can not move. -/
def Blocked (x : Execution ε) : Prop :=
  x.started = true ∧ (∃ d taken refused, x.task = .send d taken refused) ∧ x.produce? = none

/-- The sending side only stands still before its end at a hand-over. -/
theorem blocked_of_stuck {x : Execution ε} (hstarted : x.started = true)
    (hproduce : x.produce? = none) (hdone : x.task.isDone = false) : x.Blocked := by
  refine ⟨hstarted, ?_, hproduce⟩
  cases htask : x.task with
  | done a => simp [htask] at hdone
  | note e next => simp [produce?, hstarted, htask] at hproduce
  | send d taken refused => exact ⟨d, taken, refused, rfl⟩
  | probe heard gone => simp [produce?, hstarted, htask] at hproduce

theorem accepted?_eq_some {x : Execution ε} {d : Delivery} (h : x.accepted? = some d) :
    x.listening = true ∧ x.channel.length < x.capacity ∧ ∃ y, x.produce? = some y := by
  unfold accepted? at h
  split at h
  · next htask =>
      split at h
      · next hroom =>
          obtain ⟨hstarted, hlistening, hroom⟩ := hroom
          exact ⟨hlistening, hroom, by simp [produce?, hstarted, htask, hlistening, hroom]⟩
      · cases h
  · cases h

theorem accepted?_of_stuck {x : Execution ε} (h : x.produce? = none) : x.accepted? = none := by
  cases haccepted : x.accepted? with
  | none => rfl
  | some d =>
      obtain ⟨-, -, y, hy⟩ := accepted?_eq_some haccepted
      rw [h] at hy
      cases hy

theorem received?_eq_some {x : Execution ε} {d : Delivery} :
    x.received? = some d ↔
      x.pending = [] ∧ x.finished = false ∧ ∃ rest, x.channel = d :: rest := by
  have hanswer := answer?_eq_none (x := x)
  unfold received?
  split
  · next h => simp [h] at hanswer ⊢; simp_all
  · next h => simp_all [List.head?_eq_some_iff]

theorem Produced.channel {x y : Execution ε} (h : Produced x y) (hstarted : x.started = true) :
    y.channel = x.channel ++ x.accepted?.toList := by
  cases h with
  | taken d next refused htask hlistening hroom =>
      simp [accepted?, htask, hstarted, hlistening, hroom]
  | refused d taken next htask hlistening => simp [accepted?, htask, hlistening]
  | noted e next htask => simp [accepted?, htask]
  | heard next gone htask hlistening => simp [accepted?, htask]
  | gone heard next htask hlistening => simp [accepted?, htask]

/-- What is taken out of the channel was the first in it, until the end. -/
theorem Turned.channel {x y : Execution ε} {p : Option Poll} (h : Turned x y p)
    (hlistening : y.listening = true) : x.channel = x.received?.toList ++ y.channel := by
  cases h with
  | row r rest hpending => simp [received?, answer?, hpending]
  | ended rest hpending => simp at hlistening
  | failed e rest hpending => simp at hlistening
  | past hpending hfinished => simp [received?, answer?, hpending, hfinished]
  | received d rest hpending hfinished hchannel =>
      simp [received?, answer?, hpending, hfinished, hchannel]
  | lost hpending hfinished hchannel hdone =>
      simp [received?, answer?, hpending, hfinished, hchannel]
  | waited hpending hfinished hchannel hdone =>
      simp [received?, answer?, hpending, hfinished, hchannel]

theorem Turned.channel_of_isPending {x y : Execution ε} {p : Option Poll} (h : Turned x y p)
    (hp : p.any Poll.isPending = true) : y.channel = [] := by
  cases h with
  | waited hpending hfinished hchannel hdone => exact hchannel
  | _ => simp [Poll.isPending] at hp

theorem Produced.capacity {x y : Execution ε} (h : Produced x y) : y.capacity = x.capacity := by
  cases h <;> rfl

theorem Turned.capacity {x y : Execution ε} {p : Option Poll} (h : Turned x y p) :
    y.capacity = x.capacity := by
  cases h <;> rfl

theorem Turned.listening {x y : Execution ε} {p : Option Poll} (h : Turned x y p)
    (hlistening : y.listening = true) : x.listening = true := by
  cases h with
  | ended rest hpending => cases hlistening
  | failed e rest hpending => cases hlistening
  | _ => exact hlistening

/-- When nobody listens, a hand-over fails at once. -/
theorem produce?_of_not_listening {x : Execution ε} (hlistening : x.listening = false)
    (hstarted : x.started = true) {d : Delivery} {taken refused : Task ε Unit}
    (htask : x.task = .send d taken refused) : x.produce? = some { x with task := refused } := by
  simp [produce?, hstarted, htask, hlistening]

theorem not_blocked_of_empty {x : Execution ε} (hchannel : x.channel = []) : ¬x.Blocked := by
  rintro ⟨hstarted, ⟨d, taken, refused, htask⟩, hproduce⟩
  obtain ⟨y, hy⟩ := exists_produce? hstarted hchannel (by simp [htask])
  rw [hproduce] at hy
  cases hy

/-! ### What is handed on

Until the assembly is over, it is that of what was received, and what was put out for it is answered
or about to be. -/

def Told (received : List Delivery) (answers : List Answer) (x : Execution ε) : Prop :=
  x.finished = false → x.assembly.isTerminal = false →
    let emitted := Assembly.empty.callAll (received.map .deliver)
    x.assembly = emitted.1 ∧ answers ++ (items x.pending).map some = (items emitted.2).map some

theorem Produced.told {x y : Execution ε} (h : Produced x y) {received : List Delivery}
    {answers : List Answer} (hx : Told received answers x) : Told received answers y := by
  cases h <;> exact hx

theorem Turned.told {x y : Execution ε} {p : Option Poll} (h : Turned x y p) (hx : x.Sound)
    {received : List Delivery} {answers : List Answer} (htold : Told received answers x) :
    Told (received ++ x.received?.toList) (answers ++ (p.bind Poll.answer?).toList) y := by
  intro hlive hopen
  cases h with
  | row r rest hpending =>
      obtain ⟨hassembly, hanswers⟩ := htold hlive hopen
      have hnone : x.received? = none := by simp [received?, answer?, hpending]
      rw [hpending] at hanswers
      -- the row goes from what is put out to what is answered
      simp only [hnone, Option.toList_none, List.append_nil]
      refine ⟨hassembly, ?_⟩
      rw [← hanswers]
      simp
  | ended rest hpending => cases hlive
  | failed e rest hpending => cases hlive
  | past hpending hfinished => simp [hfinished] at hlive
  | received d rest hpending hfinished hchannel =>
      obtain ⟨hassembly, hanswers⟩ := htold hfinished (hx.isTerminal hfinished hpending)
      have hsome : x.received? = some d :=
        received?_eq_some.mpr ⟨hpending, hfinished, rest, hchannel⟩
      rw [hpending] at hanswers
      -- the delivery is the assembly's next call, and what it puts out is all that is pending
      simp only [hsome, Option.toList_some, List.map_append, Assembly.callAll_append, ← hassembly]
      simp only [items, List.filterMap_append, List.map_append] at hanswers ⊢
      rw [← hanswers]
      simp [hpending]
  | lost hpending hfinished hchannel hdone =>
      -- the loss of the sender ends the assembly, so there is nothing to show
      have hover : x.assembly.disconnect.1.isTerminal = true := by
        rw [Assembly.disconnect_of_live (hx.isTerminal hfinished hpending)]
        rfl
      rw [show x.assembly.disconnect.1.isTerminal = false from hopen] at hover
      cases hover
  | waited hpending hfinished hchannel hdone =>
      have hnone : x.received? = none := by simp [received?, answer?, hpending, hfinished, hchannel]
      simpa [hnone] using htold hlive hopen

/-- An answer other than a row is the end. -/
theorem Turned.finished_of_answer {x y : Execution ε} {p : Option Poll} (h : Turned x y p)
    {answer : Answer} (hp : p = some (.ready answer)) (hend : ∀ r, answer ≠ some (.ok r)) :
    y.finished = true := by
  cases h with
  | row r rest hpending =>
      cases hp
      exact absurd rfl (hend r)
  | ended rest hpending => rfl
  | failed e rest hpending => rfl
  | past hpending hfinished => exact hfinished
  | _ => cases hp

end Execution

/-- A connector lets as many deliveries wait as its settings say, and one at least. -/
theorem Connector.capacity_of_ofSettings {s : Settings} {locator : Option Locator} {c : Connector}
    (h : Connector.ofSettings s locator = .ok c) : c.capacity = max s.buffer.toNat 1 := by
  unfold Connector.ofSettings at h
  cases hlocator : Connector.locatorOf s locator with
  | error e => simp [hlocator, Except.map] at h
  | ok l =>
      simp only [hlocator, Except.map, Except.ok.injEq] at h
      rw [← h]

/-- An execution, and the account of it: what went into the channel, what came out of it, what was
answered, whether the receiving side was dropped, and whether it waits. It waits from an answer that
there is nothing yet until something goes into the channel. -/
structure Traffic (ε : Type) where
  execution : Execution ε
  accepted : List Delivery
  received : List Delivery
  answers : List Answer
  dropped : Bool
  waiting : Bool

namespace Traffic

open Execution (Told)
open Output (items)

variable {ε : Type}

def start (x : Execution ε) : Traffic ε := ⟨x, [], [], [], false, false⟩

@[simp] theorem start_answers (x : Execution ε) : (start x).answers = [] := rfl

@[simp] theorem start_dropped (x : Execution ε) : (start x).dropped = false := rfl

@[simp] theorem start_waiting (x : Execution ε) : (start x).waiting = false := rfl

inductive Move where
  | send
  | turn
  | drop
  deriving DecidableEq

/-- What comes of a move. A receiving side that was dropped is not polled any more. -/
def move (z : Traffic ε) : Move → Traffic ε
  | .send =>
      { z with
        execution := z.execution.produce?.getD z.execution
        accepted := z.accepted ++ z.execution.accepted?.toList
        waiting := z.waiting && z.execution.accepted?.isNone }
  | .turn =>
      if z.dropped then z
      else
        { z with
          execution := z.execution.turn.1
          received := z.received ++ z.execution.received?.toList
          answers := z.answers ++ (z.execution.turn.2.bind Poll.answer?).toList
          waiting := z.execution.turn.2.any Poll.isPending }
  | .drop => { z with execution := z.execution.drop, dropped := true, waiting := false }

def run (z : Traffic ε) (ms : List Move) : Traffic ε := ms.foldl move z

/-- All that can come of a move. -/
inductive Moved (z : Traffic ε) : Traffic ε → Prop where
  | idle : Moved z z
  | produced (y : Execution ε) (hy : Execution.Produced z.execution y)
      (hstarted : z.execution.started = true) :
      Moved z { z with
        execution := y
        accepted := z.accepted ++ z.execution.accepted?.toList
        waiting := z.waiting && z.execution.accepted?.isNone }
  | turned (y : Execution ε) (p : Option Poll) (hy : Execution.Turned z.execution y p)
      (hdropped : z.dropped = false) :
      Moved z { z with
        execution := y
        received := z.received ++ z.execution.received?.toList
        answers := z.answers ++ (p.bind Poll.answer?).toList
        waiting := p.any Poll.isPending }
  | dropped : Moved z { z with execution := z.execution.drop, dropped := true, waiting := false }

theorem moved_move (z : Traffic ε) (m : Move) : Moved z (z.move m) := by
  cases m with
  | send =>
      cases hy : z.execution.produce? with
      | some y =>
          obtain ⟨hstarted, hproduced⟩ := Execution.produced_of_produce? hy
          simp only [move, hy, Option.getD_some]
          exact .produced y hproduced hstarted
      | none =>
          simp only [move, hy, Execution.accepted?_of_stuck hy, Option.getD_none,
            Option.toList_none, List.append_nil,
            Option.isNone_none, Bool.and_true]
          exact .idle
  | turn =>
      simp only [move]
      split
      · exact .idle
      · next hdropped =>
          exact .turned _ _ (Execution.turned_turn z.execution) (by simpa using hdropped)
  | drop => exact .dropped

/-- What every move keeps holds after any number of moves. -/
theorem run_induction {P : Traffic ε → Prop} (hP : ∀ z w, P z → Moved z w → P w) {z : Traffic ε}
    (hz : P z) (ms : List Move) : P (z.run ms) := by
  induction ms generalizing z with
  | nil => exact hz
  | cons m rest ih => exact ih (hP z _ hz (moved_move z m))

/-! ### What every move keeps -/

structure Kept (n : Nat) (z : Traffic ε) : Prop where
  capacity : z.execution.capacity = n
  sound : z.dropped = false → z.execution.Sound
  gone : z.dropped = true → z.execution.listening = false
  /-- While somebody listens, what went in and did not come out is in the channel. -/
  flow : z.execution.listening = true → z.accepted = z.received ++ z.execution.channel
  order : z.received <+: z.accepted
  room : z.accepted.length ≤ z.received.length + n
  told : Told z.received z.answers z.execution
  ended : ∀ a ∈ z.answers, (∀ r, a ≠ some (.ok r)) → z.execution.finished = true
  waits : z.waiting = true → z.execution.channel = []

theorem kept_start (task : Task ε Unit) (n : Nat) (hn : 0 < n) :
    Kept n (start (.start task n hn)) where
  capacity := rfl
  sound _ := Execution.sound_start task n hn
  gone := by simp
  flow _ := rfl
  order := List.prefix_rfl
  room := Nat.zero_le _
  told _ _ := ⟨rfl, rfl⟩
  ended := by simp
  waits := by simp

variable {n : Nat} {z w : Traffic ε}

/-- What comes out of the channel was put into it, next after what came out before. -/
theorem Kept.exists_received (hz : Kept n z) (hdropped : z.dropped = false) {d : Delivery}
    (hd : z.execution.received? = some d) :
    ∃ rest, z.accepted = z.received ++ d :: rest := by
  obtain ⟨-, hfinished, rest, hchannel⟩ := Execution.received?_eq_some.mp hd
  have hlistening : z.execution.listening = true := by
    simpa [hfinished] using (hz.sound hdropped).listening
  exact ⟨rest, hchannel ▸ hz.flow hlistening⟩

theorem Kept.produced (hz : Kept n z) {y : Execution ε}
    (hy : Execution.Produced z.execution y) (hstarted : z.execution.started = true) :
    Kept n { z with
      execution := y
      accepted := z.accepted ++ z.execution.accepted?.toList
      waiting := z.waiting && z.execution.accepted?.isNone } where
  capacity := hy.capacity.trans hz.capacity
  sound h := hy.sound (hz.sound h)
  gone h := hy.listening.trans (hz.gone h)
  flow h := by
    show z.accepted ++ _ = z.received ++ y.channel
    rw [hz.flow (hy.listening ▸ h), hy.channel hstarted, List.append_assoc]
  order := hz.order.trans (List.prefix_append _ _)
  room := by
    cases haccepted : z.execution.accepted? with
    | none => simpa using hz.room
    | some d =>
        obtain ⟨hlistening, hroom, -⟩ := Execution.accepted?_eq_some haccepted
        rw [hz.capacity] at hroom
        simp only [hz.flow hlistening, Option.toList_some, List.length_append,
          List.length_singleton]
        omega
  told := hy.told hz.told
  ended a ha hend := hy.finished.trans (hz.ended a ha hend)
  waits h := by
    simp only [Bool.and_eq_true, Option.isNone_iff_eq_none] at h
    show y.channel = []
    rw [hy.channel hstarted, hz.waits h.1, h.2]
    rfl

theorem Kept.turned (hz : Kept n z) {y : Execution ε} {p : Option Poll}
    (hy : Execution.Turned z.execution y p) (hdropped : z.dropped = false) :
    Kept n { z with
      execution := y
      received := z.received ++ z.execution.received?.toList
      answers := z.answers ++ (p.bind Poll.answer?).toList
      waiting := p.any Poll.isPending } where
  capacity := hy.capacity.trans hz.capacity
  sound _ := hy.sound (hz.sound hdropped)
  gone h := by
    rw [show z.dropped = true from h] at hdropped
    cases hdropped
  flow h := by
    have hlistening : z.execution.listening = true := hy.listening h
    show z.accepted = z.received ++ _ ++ y.channel
    rw [hz.flow hlistening, hy.channel h, List.append_assoc]
  order := by
    cases hreceived : z.execution.received? with
    | none => simpa using hz.order
    | some d =>
        obtain ⟨rest, haccepted⟩ := hz.exists_received hdropped hreceived
        exact ⟨rest, by simp [haccepted]⟩
  room := by
    have hroom := hz.room
    simp only [List.length_append]
    omega
  told := hy.told (hz.sound hdropped) hz.told
  ended a ha hend := by
    rcases List.mem_append.mp ha with ha | ha
    · exact hy.finished (.inl (hz.ended a ha hend))
    · obtain ⟨result, hp, hanswer⟩ := Option.bind_eq_some_iff.mp (Option.mem_toList.mp ha)
      cases result with
      | pending => cases hanswer
      | ready answer =>
          obtain rfl := Option.some.inj hanswer
          exact hy.finished_of_answer hp hend
  waits h := by
    exact hy.channel_of_isPending h

theorem Kept.moved (hz : Kept n z) (h : Moved z w) : Kept n w := by
  cases h with
  | idle => exact hz
  | produced y hy hstarted => exact hz.produced hy hstarted
  | turned y p hy hdropped => exact hz.turned hy hdropped
  | dropped =>
      exact ⟨hz.capacity, by simp, fun _ => rfl, by simp, hz.order, hz.room,
        hz.told, hz.ended, fun _ => rfl⟩

theorem kept_run (task : Task ε Unit) (n : Nat) (hn : 0 < n) (ms : List Move) :
    Kept n ((start (.start task n hn)).run ms) :=
  run_induction (fun _ _ hz h => hz.moved h) (kept_start task n hn) ms

/-! ### After the end -/

/-- The stream has ended, has failed, or was dropped. -/
def Over (z : Traffic ε) : Prop :=
  z.dropped = true ∨ none ∈ z.answers ∨ ∃ e, some (.error e) ∈ z.answers

theorem Kept.not_listening (hz : Kept n z) (hover : z.Over) : z.execution.listening = false := by
  cases hdropped : z.dropped with
  | true => exact hz.gone hdropped
  | false =>
      -- not dropped, so the stream stopped listening when it came to its end
      have hfinished : z.execution.finished = true := by
        rcases hover with h | h | ⟨e, h⟩
        · rw [hdropped] at h
          cases h
        · exact hz.ended _ h (by simp)
        · exact hz.ended _ h (by simp)
      simpa [hfinished] using (hz.sound hdropped).listening

/-- When nobody listens, nothing goes into the channel, and nobody will listen again. -/
theorem Moved.not_listening (h : Moved z w) (hz : z.execution.listening = false) :
    w.execution.listening = false ∧ w.accepted = z.accepted := by
  cases h with
  | idle => exact ⟨hz, rfl⟩
  | produced y hy hstarted =>
      refine ⟨hy.listening.trans hz, ?_⟩
      cases haccepted : z.execution.accepted? with
      | none => simp
      | some d =>
          obtain ⟨hlistening, -⟩ := Execution.accepted?_eq_some haccepted
          rw [hz] at hlistening
          cases hlistening
  | turned y p hy hdropped =>
      refine ⟨?_, rfl⟩
      cases hlistening : y.listening with
      | false => rfl
      | true => simp [hy.listening hlistening] at hz
  | dropped => exact ⟨rfl, rfl⟩

theorem run_of_not_listening (hz : z.execution.listening = false) (ms : List Move) :
    (z.run ms).execution.listening = false ∧ (z.run ms).accepted = z.accepted :=
  run_induction (P := fun w => w.execution.listening = false ∧ w.accepted = z.accepted)
    (fun _ _ hw h => ⟨(h.not_listening hw.1).1, (h.not_listening hw.1).2.trans hw.2⟩)
    ⟨hz, rfl⟩ ms

/-- A pass that takes a delivery in comes when all that was put out for the ones before is handed
on, rows without exception. -/
theorem Kept.told_of_received (hz : Kept n z) {d : Delivery}
    (hd : (z.move .turn).received = z.received ++ [d]) :
    let emitted := Assembly.empty.callAll (z.received.map .deliver)
    z.execution.assembly = emitted.1 ∧ emitted.1.isTerminal = false ∧
      z.answers = (items emitted.2).map some := by
  cases hdropped : z.dropped with
  | true => simp [move, hdropped] at hd
  | false =>
      have hreceived : z.execution.received? = some d := by
        simpa [move, hdropped, Option.toList_eq_singleton_iff] using hd
      obtain ⟨hpending, hfinished, -⟩ := Execution.received?_eq_some.mp hreceived
      have hlive := (hz.sound hdropped).isTerminal hfinished hpending
      obtain ⟨hassembly, hanswers⟩ := hz.told hfinished hlive
      exact ⟨hassembly, hassembly ▸ hlive, by simpa [hpending] using hanswers⟩

/-- Whatever the two sides do in which order, and whenever the receiving side is dropped: what comes
out of the channel went into it, in the same order, and between the two are never more deliveries
than the settings allow for, one at least. One is taken out only when all that was put out for those
before is answered, and it was rows. A poll is only pending while the channel is empty and the
sending side can go on; so one side never waits for room while the other one waits for a delivery.
Once the stream is over, nothing more goes in, and every hand-over fails at once. -/
theorem account_of_moves (s : Settings) (locator : Option Locator) (c : Connector)
    (hc : Connector.ofSettings s locator = .ok c) (client : Client ε) (query : String)
    (ms : List Move) :
    let z := (start (c.execute client query)).run ms
    let x := z.execution
    let emitted := Assembly.empty.callAll (z.received.map .deliver)
    (z.received <+: z.accepted ∧
      z.accepted.length ≤ z.received.length + max s.buffer.toNat 1) ∧
    (∀ d, (z.move .turn).received = z.received ++ [d] →
      x.assembly = emitted.1 ∧ emitted.1.isTerminal = false ∧
        z.answers = (items emitted.2).map some) ∧
    (x.turn.2 = some .pending →
      x.channel = [] ∧ x.task.isDone = false ∧ ∃ y, x.turn.1.produce? = some y) ∧
    ¬(z.waiting = true ∧ x.Blocked) ∧
    (z.Over → ∀ more,
      (z.run more).accepted = z.accepted ∧
      ∀ d taken refused, (z.run more).execution.task = .send d taken refused →
        (z.run more).execution.started = true →
        (z.run more).execution.produce? = some { (z.run more).execution with task := refused }) := by
  intro z x emitted
  have hcapacity := Connector.capacity_of_ofSettings hc
  have hz : Kept c.capacity z := kept_run (c.task client query) c.capacity c.capacity_pos ms
  refine ⟨⟨hz.order, hcapacity ▸ hz.room⟩, fun d hd => hz.told_of_received hd, fun hpending => ?_,
    fun ⟨hwaiting, hblocked⟩ => ?_, fun hover more => ?_⟩
  · have hturned := Execution.turned_turn x
    rw [hpending] at hturned
    obtain ⟨hwaits, hturn⟩ := hturned.waits
    rw [hturn]
    exact ⟨hwaits.channel, hwaits.isDone,
      Execution.exists_produce? rfl hwaits.channel hwaits.isDone⟩
  · exact Execution.not_blocked_of_empty (hz.waits hwaiting) hblocked
  · obtain ⟨hlistening, haccepted⟩ := run_of_not_listening (hz.not_listening hover) more
    exact ⟨haccepted, fun d taken refused htask hstarted =>
      Execution.produce?_of_not_listening hlistening hstarted htask⟩

/-- A buffer of none is one of one: the second hand-over waits for the first to be taken in. -/
theorem second_delivery_waits :
    let s : Settings := { buffer := 0 }
    let c : Connector := ⟨.fixed ⟨"h", 80⟩, s.session, 1, Nat.one_pos⟩
    let script : Rehearsal.Script := .playing [.send (.columns ["a"] true), .send .success]
    let z := (start (c.execute script.client "q")).run [.turn, .send, .send, .send, .send, .send]
    Connector.ofSettings s (some (.fixed ⟨"h", 80⟩)) = .ok c ∧ z.execution.Blocked ∧
      z.waiting = false ∧ z.accepted.length = z.received.length + 1 := by
  intro s c script z
  have hc : Connector.ofSettings s (some (.fixed ⟨"h", 80⟩)) = .ok c := rfl
  have hblocked : z.execution.Blocked := Execution.blocked_of_stuck (by decide +kernel)
    (Option.isNone_iff_eq_none.mp (by decide +kernel)) (by decide +kernel)
  obtain ⟨⟨-, hroom⟩, -, -, hnever, -⟩ := account_of_moves s _ c hc script.client "q"
    [.turn, .send, .send, .send, .send, .send]
  have hone : max s.buffer.toNat 1 = 1 := by decide
  have hfull : z.received.length + 1 ≤ z.accepted.length := by decide +kernel
  rw [hone] at hroom
  refine ⟨hc, hblocked, ?_, Nat.le_antisymm hroom hfull⟩
  cases hwaiting : z.waiting with
  | false => rfl
  | true => exact absurd ⟨hwaiting, hblocked⟩ hnever

end Traffic

end SqlConnector
