import SqlConnector.Proofs.Stream.Backpressure
import SqlConnector.Proofs.Stream.Phases

/-!
The loop of a poll. A pass that comes to no result is a call of the assembly, for the next delivery
or for the loss of the sender, and what it puts out is then waiting to be handed on. The assembly is
only called while it is live: once it is over, its end is waiting, or the stream has ended. So the
loss of the sender is taken in once at most, and no poll goes round for ever.
-/

namespace SqlConnector

/-- What has an end, and is over, is rows and then that end. -/
theorem Output.Sealed.exists_rows {outs : List Output} (h : Sealed true outs) :
    ∃ rows last, outs = rows ++ [last] ∧ (∀ o ∈ rows, o.isFinal = false) ∧
      last.isFinal = true := by
  induction outs with
  | nil => cases h
  | cons o rest ih =>
      cases ho : o.isFinal with
      | true =>
          obtain rfl : rest = [] := by simpa [ho] using h
          exact ⟨[], o, rfl, by simp, ho⟩
      | false =>
          obtain ⟨rows, last, rfl, hrows, hlast⟩ := ih (by simpa [ho] using h)
          exact ⟨o :: rows, last, rfl, List.forall_mem_cons.mpr ⟨ho, hrows⟩, hlast⟩

theorem Task.size_eq_zero {ε α : Type} {t : Task ε α} : t.size = 0 ↔ t.isDone = true := by
  cases t <;> simp [size]

/-! ### The end that an assembly puts out -/

namespace Assembly

/-- Whether this is the output with which a phase begins. -/
def Phase.BeginsWith : Phase → Output → Prop
  | done, .finished => True
  | failed, .failed _ => True
  | _, _ => False

theorem Phase.BeginsWith.isTerminal {p : Phase} {o : Output} (h : p.BeginsWith o) :
    p.isTerminal = true := by
  match p, o, h with
  | .done, .finished, _ => rfl
  | .failed, .failed _, _ => rfl

theorem Forward.beginsWith {a b : Assembly} {out : List Output} (h : Forward a b out) {o : Output}
    (ho : o ∈ out) (hfinal : o.isFinal = true) : b.phase.BeginsWith o := by
  cases o with
  | row r => cases hfinal
  | finished =>
      rw [(h.finished.mp ho).2]
      trivial
  | failed e =>
      rw [(h.failed.mp ⟨e, ho⟩).2]
      trivial

/-- The end that was put out in some calls is that of the phase after them. -/
theorem beginsWith_of_mem {calls : List Call} {o : Output} (ho : o ∈ (empty.callAll calls).2)
    (hfinal : o.isFinal = true) : (empty.callAll calls).1.phase.BeginsWith o := by
  induction calls using List.reverseRecOn with
  | nil => simp at ho
  | append_singleton calls c ih =>
      have hforward := forward_call (empty.callAll calls).1 c
      simp only [callAll_append, callAll, List.append_nil] at ho ⊢
      rcases List.mem_append.mp ho with hbefore | hnow
      · -- an assembly that has put out an end is over, and stays as it is
        have hphase := ih hbefore
        rw [(hforward.closed hphase.isTerminal).1]
        exact hphase
      · exact hforward.beginsWith hnow hfinal

end Assembly

namespace Execution

open Assembly (Call)

variable {ε : Type}

/-! ### The calls of the assembly -/

/-- What the next pass of a poll calls the assembly for. -/
def call? (x : Execution ε) : Option Call :=
  match x.answer? with
  | some _ => none
  | none =>
      match x.channel with
      | d :: _ => some (.deliver d)
      | [] => if x.task.isDone then some .disconnect else none

/-- The calls of the assembly in the course of a schedule. -/
def calls (x : Execution ε) : List Move → List Call
  | [] => []
  | .send :: rest => (x.move .send).1.calls rest
  | .turn :: rest => x.call?.toList ++ (x.move .turn).1.calls rest

/-- The deliveries that go into the channel in the course of a schedule. -/
def accepted (x : Execution ε) : List Move → List Delivery
  | [] => []
  | .send :: rest => x.accepted?.toList ++ (x.move .send).1.accepted rest
  | .turn :: rest => (x.move .turn).1.accepted rest

theorem call?_of_pending {x : Execution ε} {o : Output} {rest : List Output}
    (h : x.pending = o :: rest) : x.call? = none := by
  cases o <;> simp [call?, answer?, h]

theorem call?_of_finished {x : Execution ε} (hpending : x.pending = [])
    (hfinished : x.finished = true) : x.call? = none := by
  simp [call?, answer?, hpending, hfinished]

theorem call?_of_delivery {x : Execution ε} (hpending : x.pending = [])
    (hfinished : x.finished = false) {d : Delivery} {rest : List Delivery}
    (hchannel : x.channel = d :: rest) : x.call? = some (.deliver d) := by
  simp [call?, answer?, hpending, hfinished, hchannel]

theorem call?_of_empty {x : Execution ε} (hpending : x.pending = [])
    (hfinished : x.finished = false) (hchannel : x.channel = []) :
    x.call? = if x.task.isDone then some .disconnect else none := by
  simp [call?, answer?, hpending, hfinished, hchannel]

/-- A pass either comes to a result, or calls the assembly. -/
theorem Turned.call?_eq_none {x y : Execution ε} {p : Option Poll} (h : Turned x y p) :
    x.call? = none ↔ p.isSome = true := by
  cases h with
  | row r rest hpending => simp [call?_of_pending hpending]
  | ended rest hpending => simp [call?_of_pending hpending]
  | failed e rest hpending => simp [call?_of_pending hpending]
  | past hpending hfinished => simp [call?_of_finished hpending hfinished]
  | received d rest hpending hfinished hchannel =>
      simp [call?_of_delivery hpending hfinished hchannel]
  | lost hpending hfinished hchannel hdone =>
      simp [call?_of_empty hpending hfinished hchannel, hdone]
  | waited hpending hfinished hchannel hdone =>
      simp [call?_of_empty hpending hfinished hchannel, hdone]

/-- While a poll comes to no result, each of its passes calls the assembly. -/
theorem count_turn {x : Execution ε} {ms : List Move} (h : (x.run ms).2 = []) :
    ms.count .turn = (x.calls ms).length := by
  induction ms generalizing x with
  | nil => rfl
  | cons m rest ih =>
      simp only [run, List.append_eq_nil_iff, Option.toList_eq_nil_iff] at h
      obtain ⟨hnone, hrest⟩ := h
      cases m with
      | send => simpa [calls] using ih hrest
      | turn =>
          have hcall : x.call? ≠ none := by
            rw [Ne, (turned_turn x).call?_eq_none, show x.turn.2 = none from hnone]
            simp
          obtain ⟨c, hc⟩ := Option.ne_none_iff_exists'.mp hcall
          simp [calls, hc, ih hrest]

/-! ### After the calls -/

/-- How an execution stands whose assembly was called like this. -/
structure Follows (calls : List Call) (x : Execution ε) : Prop where
  assembly : x.assembly = (Assembly.empty.callAll calls).1
  /-- Until the end, what was put out and handed on was rows. -/
  outputs : x.finished = false → ∃ handed, (∀ o ∈ handed, o.isFinal = false) ∧
    (Assembly.empty.callAll calls).2 = handed ++ x.pending

theorem Follows.called {x y : Execution ε} {calls : List Call} (hx : Follows calls x)
    (hfinished : x.finished = false) (hpending : x.pending = []) (c : Call)
    (hassembly : y.assembly = (x.assembly.call c).1) (hnext : y.pending = (x.assembly.call c).2) :
    Follows (calls ++ [c]) y := by
  obtain ⟨handed, hrows, houts⟩ := hx.outputs hfinished
  rw [hpending, List.append_nil] at houts
  refine ⟨?_, fun _ => ⟨handed, hrows, ?_⟩⟩
  · simp [← hx.assembly, hassembly]
  · simp [← hx.assembly, hnext, houts]

theorem Follows.uncalled {x y : Execution ε} {calls : List Call} (hcall : x.call? = none)
    (hy : Follows calls y) : Follows (calls ++ x.call?.toList) y := by
  rwa [hcall, Option.toList_none, List.append_nil]

theorem Turned.follows {x y : Execution ε} {p : Option Poll} (h : Turned x y p)
    {calls : List Call} (hx : Follows calls x) : Follows (calls ++ x.call?.toList) y := by
  cases h with
  | row r rest hpending =>
      -- the row goes from what is to be handed on to what was
      refine .uncalled (call?_of_pending hpending) ⟨hx.assembly, fun hfinished => ?_⟩
      obtain ⟨handed, hrows, houts⟩ := hx.outputs hfinished
      refine ⟨handed ++ [.row r], ?_, by simp [houts, hpending]⟩
      exact List.forall_mem_append.mpr ⟨hrows, by simp⟩
  | ended rest hpending =>
      exact .uncalled (call?_of_pending hpending) ⟨hx.assembly, fun hlive => by cases hlive⟩
  | failed e rest hpending =>
      exact .uncalled (call?_of_pending hpending) ⟨hx.assembly, fun hlive => by cases hlive⟩
  | past hpending hfinished => exact .uncalled (call?_of_finished hpending hfinished) hx
  | received d rest hpending hfinished hchannel =>
      rw [call?_of_delivery hpending hfinished hchannel]
      exact hx.called hfinished hpending _ rfl (by simp [hpending, Assembly.call])
  | lost hpending hfinished hchannel hdone =>
      rw [call?_of_empty hpending hfinished hchannel, if_pos hdone]
      exact hx.called hfinished hpending _ rfl (by simp [hpending, Assembly.call])
  | waited hpending hfinished hchannel hdone =>
      have hcall := call?_of_empty hpending hfinished hchannel
      rw [hdone] at hcall
      exact .uncalled hcall ⟨hx.assembly, hx.outputs⟩

theorem Produced.follows {x y : Execution ε} (h : Produced x y) {calls : List Call}
    (hx : Follows calls x) : Follows calls y := by
  cases h <;> exact ⟨hx.assembly, hx.outputs⟩

theorem follows_run {x : Execution ε} {calls : List Call} (hx : Follows calls x)
    (ms : List Move) : Follows (calls ++ x.calls ms) (x.run ms).1 := by
  induction ms generalizing x calls with
  | nil => simpa [Execution.calls] using hx
  | cons m rest ih =>
      cases m with
      | turn =>
          rw [Execution.calls, ← List.append_assoc]
          exact ih ((turned_turn x).follows hx)
      | send =>
          refine ih ?_
          rcases stood_or_produced x with ⟨-, hsame⟩ | hproduce
          · rwa [hsame]
          · exact (produced_of_produce? hproduce).2.follows hx

theorem follows_start (task : Task ε Unit) (n : Nat) (hn : 0 < n) :
    Follows [] (start task n hn) :=
  ⟨rfl, fun _ => ⟨[], by simp, rfl⟩⟩

/-- How an execution stands whose assembly is over, with all that this has put out. -/
inductive Closing (outs : List Output) (x : Execution ε) : Prop where
  /-- The stream has ended, and its receiving side is gone. -/
  | ended (finished : x.finished = true) (gone : x.listening = false) (channel : x.channel = [])
      (pending : x.pending = [])
  /-- The end that was put out is still to be handed on, after some rows. -/
  | ending (handed rows : List Output) (last : Output) (outputs : outs = handed ++ x.pending)
      (pending : x.pending = rows ++ [last])
      (only_rows : ∀ o ∈ handed ++ rows, o.isFinal = false)
      (begins : x.assembly.phase.BeginsWith last)

theorem Follows.closing {x : Execution ε} {calls : List Call} (h : Follows calls x) (hx : Sound x)
    (hterminal : x.assembly.isTerminal = true) :
    Closing (Assembly.empty.callAll calls).2 x := by
  cases hfinished : x.finished with
  | true =>
      obtain ⟨hchannel, hpending⟩ := hx.ended hfinished
      exact .ended hfinished (by simp [hx.listening, hfinished]) hchannel hpending
  | false =>
      have hclosed := hx.closed hfinished
      rw [hterminal] at hclosed
      obtain ⟨rows, last, hpending, hrows, hlast⟩ := hclosed.exists_rows
      obtain ⟨handed, hhanded, houts⟩ := h.outputs hfinished
      refine .ending handed rows last houts hpending
        (List.forall_mem_append.mpr ⟨hhanded, hrows⟩) ?_
      rw [h.assembly]
      exact Assembly.beginsWith_of_mem (by simp [houts, hpending]) hlast

/-- The assembly is over and all that it has put out was handed on, but the stream has not ended. -/
structure Spent (x : Execution ε) : Prop where
  finished : x.finished = false
  pending : x.pending = []
  isTerminal : x.assembly.isTerminal = true

theorem Sound.not_spent {x : Execution ε} (hx : Sound x) : ¬x.Spent := by
  rintro ⟨hfinished, hpending, hterminal⟩
  rw [hx.isTerminal hfinished hpending] at hterminal
  cases hterminal

/-- When the sender is gone, a loop that comes to such a state would never end. -/
theorem run_of_spent {x : Execution ε} (hx : x.Spent) (hchannel : x.channel = [])
    (hdone : x.task.isDone = true) (k : Nat) : (x.run (List.replicate k .turn)).2 = [] := by
  induction k generalizing x with
  | zero => rfl
  | succ k ih =>
      obtain ⟨hfinished, hpending, hterminal⟩ := hx
      have hcall : x.assembly.disconnect = (x.assembly, []) :=
        Assembly.call_of_isTerminal hterminal .disconnect
      have hturn : x.turn = ({ x with started := true }, none) := by
        simp [turn, answer?, hpending, hfinished, hchannel, hdone, assembled, hcall]
      rw [List.replicate_succ, run_turn_cons hturn]
      exact ih ⟨hfinished, hpending, hterminal⟩ hchannel hdone

/-! ### What is taken in -/

/-- Calls for the first of some deliveries, in their order, and possibly for the loss of the sender
after all of them. -/
inductive TakenFrom (there : List Delivery) (gone : Bool) : List Call → Prop where
  | deliveries (taken : List Delivery) (first : taken <+: there) :
      TakenFrom there gone (taken.map .deliver)
  | andLoss (lost : gone = true) : TakenFrom there gone (there.map .deliver ++ [.disconnect])

section TakenFrom

variable {there : List Delivery} {gone : Bool} {cs : List Call}

theorem takenFrom_nil : TakenFrom there gone [] := .deliveries [] (List.nil_prefix)

theorem TakenFrom.cons (h : TakenFrom there gone cs) (d : Delivery) :
    TakenFrom (d :: there) gone (.deliver d :: cs) := by
  cases h with
  | deliveries taken first => exact .deliveries (d :: taken) (List.prefix_cons_inj d |>.mpr first)
  | andLoss lost => exact .andLoss lost

theorem TakenFrom.length_le (h : TakenFrom there gone cs) : cs.length ≤ there.length + 1 := by
  cases h with
  | deliveries taken first =>
      have := first.length_le
      simp only [List.length_map]
      omega
  | andLoss lost => simp

end TakenFrom

/-- Once the assembly is over or the stream has ended, it is like that after every pass. -/
theorem Turned.over {x y : Execution ε} {p : Option Poll} (h : Turned x y p) (hx : Sound x)
    (hover : x.finished = true ∨ x.assembly.isTerminal = true) :
    x.call? = none ∧ (y.finished = true ∨ y.assembly.isTerminal = true) := by
  have hlive (hpending : x.pending = []) (hfinished : x.finished = false) :
      x.call? = none ∧ (y.finished = true ∨ y.assembly.isTerminal = true) := by
    rw [hfinished, hx.isTerminal hfinished hpending] at hover
    simp at hover
  cases h with
  | row r rest hpending => exact ⟨call?_of_pending hpending, hover⟩
  | ended rest hpending => exact ⟨call?_of_pending hpending, .inl rfl⟩
  | failed e rest hpending => exact ⟨call?_of_pending hpending, .inl rfl⟩
  | past hpending hfinished => exact ⟨call?_of_finished hpending hfinished, hover⟩
  | received d rest hpending hfinished hchannel => exact hlive hpending hfinished
  | lost hpending hfinished hchannel hdone => exact hlive hpending hfinished
  | waited hpending hfinished hchannel hdone => exact hlive hpending hfinished

theorem calls_of_over {x : Execution ε} (hx : Sound x)
    (hover : x.finished = true ∨ x.assembly.isTerminal = true) (ms : List Move) :
    x.calls ms = [] := by
  induction ms generalizing x with
  | nil => rfl
  | cons m rest ih =>
      have hnext := sound_move hx m
      cases m with
      | turn =>
          obtain ⟨hcall, hover⟩ := (turned_turn x).over hx hover
          rw [calls, hcall, ih hnext hover]
          rfl
      | send =>
          refine ih hnext ?_
          rcases stood_or_produced x with ⟨-, hsame⟩ | hproduce
          · rwa [hsame]
          · obtain ⟨-, hproduced⟩ := produced_of_produce? hproduce
            rwa [hproduced.finished, hproduced.assembly]

/-- The sending side gets on with each delivery that goes in. -/
theorem length_accepted_le (x : Execution ε) (ms : List Move) :
    (x.accepted ms).length + (x.run ms).1.task.size ≤ x.task.size := by
  induction ms generalizing x with
  | nil => simp [accepted]
  | cons m rest ih =>
      cases m with
      | turn =>
          have htask : x.turn.1.task = x.task := (turned_turn x).task
          have hrest := ih x.turn.1
          rw [htask] at hrest
          exact hrest
      | send =>
          have hrest := ih (x.move .send).1
          simp only [accepted, run, List.length_append]
          rcases stood_or_produced x with ⟨hstuck, hsame⟩ | hproduce
          · rw [hsame] at hrest ⊢
            simpa [accepted?_of_stuck hstuck] using hrest
          · have hsize := size_lt_of_produce? hproduce
            have hone : x.accepted?.toList.length ≤ 1 := by cases x.accepted? <;> simp
            omega

/-- A sending side that is done hands nothing over any more, and stays as it is. -/
theorem run_of_isDone {x : Execution ε} (hdone : x.task.isDone = true) (ms : List Move) :
    x.accepted ms = [] ∧ (x.run ms).1.task.isDone = true := by
  have hle := length_accepted_le x ms
  rw [Task.size_eq_zero.mpr hdone] at hle
  exact ⟨List.eq_nil_of_length_eq_zero (by omega), Task.size_eq_zero.mp (by omega)⟩

/-- A pass, and what is taken in after it. -/
theorem Turned.takenFrom {x y : Execution ε} {p : Option Poll} (h : Turned x y p) (hx : Sound x)
    {ms : List Move}
    (hy : TakenFrom (y.channel ++ y.accepted ms) (y.run ms).1.task.isDone (y.calls ms)) :
    TakenFrom (x.channel ++ y.accepted ms) (y.run ms).1.task.isDone
      (x.call?.toList ++ y.calls ms) := by
  have hnext := h.sound hx
  cases h with
  | row r rest hpending =>
      rw [call?_of_pending hpending]
      exact hy
  | ended rest hpending =>
      rw [call?_of_pending hpending, calls_of_over hnext (.inl rfl)]
      exact takenFrom_nil
  | failed e rest hpending =>
      rw [call?_of_pending hpending, calls_of_over hnext (.inl rfl)]
      exact takenFrom_nil
  | past hpending hfinished =>
      rw [call?_of_finished hpending hfinished]
      exact hy
  | received d rest hpending hfinished hchannel =>
      rw [call?_of_delivery hpending hfinished hchannel, hchannel]
      exact hy.cons d
  | lost hpending hfinished hchannel hdone =>
      -- the assembly is over now, and nothing more can come in
      have hover : x.assembly.disconnect.1.isTerminal = true := by
        rw [Assembly.disconnect_of_live (hx.isTerminal hfinished hpending)]
        rfl
      obtain ⟨haccepted, hstays⟩ := run_of_isDone
        (x := { x with started := true }.assembled x.assembly.disconnect) hdone ms
      rw [call?_of_empty hpending hfinished hchannel, if_pos hdone, haccepted, hstays,
        calls_of_over hnext (.inr hover), hchannel]
      exact .andLoss rfl
  | waited hpending hfinished hchannel hdone =>
      rw [call?_of_empty hpending hfinished hchannel, hdone]
      exact hy

/-- Over any schedule the assembly is called for what was in the channel and what goes into it, and
once at most, at the last, for the loss of the sender. -/
theorem takenFrom_run {x : Execution ε} (hx : Sound x) (ms : List Move) :
    TakenFrom (x.channel ++ x.accepted ms) (x.run ms).1.task.isDone (x.calls ms) := by
  induction ms generalizing x with
  | nil => exact takenFrom_nil
  | cons m rest ih =>
      have hrest := ih (sound_move hx m)
      cases m with
      | turn => exact (turned_turn x).takenFrom hx hrest
      | send =>
          simp only [accepted, calls, run]
          rcases stood_or_produced x with ⟨hstuck, hsame⟩ | hproduce
          · rw [hsame] at hrest ⊢
            rwa [accepted?_of_stuck hstuck, Option.toList_none, List.nil_append]
          · obtain ⟨hstarted, hproduced⟩ := produced_of_produce? hproduce
            rwa [hproduced.channel hstarted, List.append_assoc] at hrest

/-! ### Whole polls -/

/-- The same receiving side with other deliveries in its channel, as far as it still has one, and
another sending side. -/
def facing (x : Execution ε) (ds : List Delivery) (t : Task ε Unit) : Execution ε :=
  { x with task := t, channel := if x.listening then ds else x.channel }

theorem Sound.facing {x : Execution ε} (hx : Sound x) (ds : List Delivery) (t : Task ε Unit) :
    Sound (x.facing ds t) where
  listening := hx.listening
  ended hfinished := by
    obtain ⟨hchannel, hpending⟩ := hx.ended hfinished
    have hgone : x.listening = false := by
      rw [hx.listening, show x.finished = true from hfinished]
      rfl
    exact ⟨by simp [Execution.facing, hgone, hchannel], hpending⟩
  closed := hx.closed
  unstarted := hx.unstarted

/-- The loop of a poll goes through some passes without a result, and ends with this one. -/
def Returns (x : Execution ε) (passes : Nat) (result : Execution ε × Poll) : Prop :=
  ∃ y, x.run (List.replicate passes .turn) = (y, []) ∧ y.turn = (result.1, some result.2)

theorem run_turns (x : Execution ε) (k : Nat) :
    x.accepted (List.replicate k .turn) = [] ∧
      (x.run (List.replicate k .turn)).1.task = x.task := by
  induction k generalizing x with
  | zero => exact ⟨rfl, rfl⟩
  | succ k ih =>
      obtain ⟨haccepted, htask⟩ := ih x.turn.1
      exact ⟨haccepted, htask.trans (turned_turn x).task⟩

/-- A poll ends, and each of its passes before the last takes something in. -/
theorem exists_returns_poll {x : Execution ε} (hx : Sound x) :
    ∃ k, x.Returns k x.poll ∧ (x.calls (List.replicate k .turn)).length = k ∧
      TakenFrom x.channel x.task.isDone (x.calls (List.replicate k .turn)) := by
  obtain ⟨k, y, -, hrun, hlast⟩ := exists_last_turn_poll hx
  refine ⟨k, ⟨y, hrun, hlast⟩, ?_, ?_⟩
  · have hsilent : (x.run (List.replicate k .turn)).2 = [] := by rw [hrun]
    rw [← count_turn hsilent, List.count_replicate_self]
  · have htaken := takenFrom_run hx (List.replicate k .turn)
    obtain ⟨haccepted, htask⟩ := run_turns x k
    rwa [haccepted, htask, List.append_nil] at htaken

/-- A poll ends too when the sending side goes on between its passes. -/
theorem count_turn_le {x : Execution ε} (hx : Sound x) {ms : List Move} (h : (x.run ms).2 = []) :
    ms.count .turn ≤ x.channel.length + (x.accepted ms).length + 1 := by
  have htaken := (takenFrom_run hx ms).length_le
  rw [List.length_append] at htaken
  rw [count_turn h]
  exact htaken

/-- Whatever the two sides do in which order: when the assembly is over, the stream has ended and
its receiving side is gone, or the one end that the assembly put out is the last that is still to be
handed on. So the assembly is never over with nothing left of it before the stream has ended, which
would be a loop without end when the sender is gone. The loss of the sender is taken in once at
most, after all deliveries. From each of these states every poll ends, whatever is in the channel
and whether the sender is still there or not: it takes in deliveries that are in the channel, in
their order, and one loss of the sender at most. Deliveries that go in during a poll are as many as
the sending side still has steps, so that such a poll ends too. -/
theorem polls_return (task : Task ε Unit) (n : Nat) (ms : List Move) :
    let x₀ := start task (n + 1) n.succ_pos
    let x := (x₀.run ms).1
    let emitted := Assembly.empty.callAll (x₀.calls ms)
    (x.assembly = emitted.1 ∧ (x.assembly.isTerminal = true → Closing emitted.2 x) ∧ ¬x.Spent ∧
      TakenFrom (x₀.accepted ms) x.task.isDone (x₀.calls ms)) ∧
    (∀ (ds : List Delivery) (t : Task ε Unit),
      let z := x.facing ds t
      (∃ k, z.Returns k z.poll ∧ (z.calls (List.replicate k .turn)).length = k ∧
        TakenFrom z.channel t.isDone (z.calls (List.replicate k .turn))) ∧
      ∀ more, (z.run more).2 = [] →
        more.count .turn ≤ z.channel.length + (z.accepted more).length + 1 ∧
          (z.accepted more).length ≤ t.size) ∧
    ∀ y : Execution ε, y.Spent → y.channel = [] → y.task.isDone = true →
      ∀ k, (y.run (List.replicate k .turn)).2 = [] := by
  intro x₀ x emitted
  have hstart : Sound x₀ := sound_start task (n + 1) n.succ_pos
  have hx : Sound x := sound_run hstart ms
  have hfollows : Follows (x₀.calls ms) x := follows_run (follows_start task _ n.succ_pos) ms
  refine ⟨⟨hfollows.assembly, fun hterminal => hfollows.closing hx hterminal, hx.not_spent,
    takenFrom_run hstart ms⟩, fun ds t => ?_, fun y hy hchannel hdone =>
      run_of_spent hy hchannel hdone⟩
  intro z
  have hz : Sound z := hx.facing ds t
  refine ⟨exists_returns_poll hz, fun more hmore => ⟨count_turn_le hz hmore, ?_⟩⟩
  have hle : (z.accepted more).length + (z.run more).1.task.size ≤ t.size :=
    length_accepted_le z more
  omega

/-- Names that repeat end the assembly, and the failure is what is left to hand on. Were it not, the
polls would go round for ever. -/
theorem repeated_name_left_to_hand_on :
    let task : Task Nat Unit := .send (.event (.columns ["a", "a"] true)) (.done ()) (.done ())
    let x₀ := start task 1 Nat.one_pos
    let x := (x₀.run [.turn, .send, .turn]).1
    let z := x₀.facing [.event .success] (.done ())
    let y : Execution Nat := { x with pending := [] }
    (x.assembly.isTerminal = true ∧ Closing [.failed (.duplicateColumn "a")] x ∧ ¬x.Spent) ∧
      ((z.run [.turn]).2 = [] ∧
        [Move.turn].count .turn ≤ z.channel.length + (z.accepted [.turn]).length + 1) ∧
      y.Spent ∧ y.channel = [] ∧ y.task.isDone = true ∧
        ∀ k, (y.run (List.replicate k .turn)).2 = [] := by
  intro task x₀ x z y
  obtain ⟨⟨-, hclosing, hspent, -⟩, -, hforever⟩ := polls_return task 0 [.turn, .send, .turn]
  obtain ⟨-, hpolls, -⟩ := polls_return task 0 []
  have hturn : (z.run [.turn]).2 = [] := rfl
  have hy : y.Spent := ⟨rfl, rfl, rfl⟩
  exact ⟨⟨rfl, hclosing rfl, hspent⟩, ⟨hturn, ((hpolls _ _).2 [.turn] hturn).1⟩, hy, rfl, rfl,
    hforever y hy rfl rfl⟩

end Execution

end SqlConnector
