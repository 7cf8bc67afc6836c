import SqlConnector.Proofs.Stream.Listening

/-!
The answers of an execution do not depend on the order in which the two sides move. What is still
to be answered is a function of the state, the items to come: a step of the sending side leaves it
as it is, and so does a pass of a poll, unless it answers with the first of them.
-/

namespace SqlConnector

/-- What an output is to the one who polls, if anything. -/
def Output.item? : Output → Option (Except Failure Row)
  | .row r => some (.ok r)
  | .failed e => some (.error e)
  | .finished => none

/-- The rows and the failure among some outputs. -/
def Output.items (outs : List Output) : List (Except Failure Row) := outs.filterMap item?

namespace Output

@[simp] theorem item?_row (r : Row) : (row r).item? = some (.ok r) := rfl

@[simp] theorem item?_failed (e : Failure) : (failed e).item? = some (.error e) := rfl

@[simp] theorem item?_finished : finished.item? = none := rfl

@[simp] theorem items_nil : items [] = [] := rfl

@[simp] theorem items_row (r : Row) (outs : List Output) :
    items (row r :: outs) = .ok r :: items outs := rfl

@[simp] theorem items_failed (e : Failure) (outs : List Output) :
    items (failed e :: outs) = .error e :: items outs := rfl

@[simp] theorem items_finished (outs : List Output) : items (finished :: outs) = items outs := rfl

@[simp] theorem items_append (outs more : List Output) :
    items (outs ++ more) = items outs ++ items more :=
  List.filterMap_append

@[simp] theorem items_map_row {α : Type} (f : α → Row) (rows : List α) :
    items (rows.map fun a => row (f a)) = rows.map fun a => .ok (f a) := by
  induction rows with
  | nil => rfl
  | cons a rest ih => simp [ih]

end Output

namespace Assembly

/-- What is put out for some deliveries after which the sender is lost. -/
def outputsOf (a : Assembly) (ds : List Delivery) : List Output :=
  (a.callAll (ds.map .deliver ++ [.disconnect])).2

@[simp] theorem outputsOf_nil (a : Assembly) : a.outputsOf [] = a.disconnect.2 := by
  simp [outputsOf]

@[simp] theorem outputsOf_cons (a : Assembly) (d : Delivery) (ds : List Delivery) :
    a.outputsOf (d :: ds) = (a.receive d).2 ++ (a.receive d).1.outputsOf ds := rfl

@[simp] theorem outputsOf_of_isTerminal {a : Assembly} (h : a.isTerminal = true)
    (ds : List Delivery) :
    a.outputsOf ds = [] := by
  rw [outputsOf, callAll_of_isTerminal h]

/-- Rows, and then one end. -/
theorem sealed_outputsOf {a : Assembly} (h : a.isTerminal = false) (ds : List Delivery) :
    Output.Sealed true (a.outputsOf ds) := by
  have hover : (a.callAll (ds.map .deliver ++ [.disconnect])).1.isTerminal = true := by
    rw [callAll_append]
    cases hlast : (a.callAll (ds.map .deliver)).1.isTerminal with
    | true => rwa [callAll_of_isTerminal hlast]
    | false =>
        obtain ⟨hover, -⟩ := call_of_isFinal hlast (c := .disconnect) rfl
        simpa using hover
  rw [← hover]
  exact sealed_callAll h _

end Assembly

namespace Execution

open Output (items Sealed)

variable {ε : Type}

/-- The items that are still to come. -/
def future (x : Execution ε) : List (Except Failure Row) :=
  if x.finished then []
  else items (x.pending ++ x.assembly.outputsOf (x.channel ++ x.task.deliveries))

@[simp] theorem future_of_finished {x : Execution ε} (h : x.finished = true) : x.future = [] := by
  simp [future, h]

theorem future_of_live {x : Execution ε} (h : x.finished = false) :
    x.future = items (x.pending ++ x.assembly.outputsOf (x.channel ++ x.task.deliveries)) := by
  simp [future, h]

theorem future_start (task : Task ε Unit) (capacity : Nat) (hcapacity : 0 < capacity) :
    (start task capacity hcapacity).future = items (Assembly.empty.outputsOf task.deliveries) :=
  rfl

/-! ### What one step does to the items to come -/

/-- A final output is the last of all. -/
theorem Sound.future_of_final {x : Execution ε} (h : Sound x) {o : Output} {rest : List Output}
    (hpending : x.pending = o :: rest) (ho : o.isFinal = true) : x.future = items [o] := by
  have hlive := h.finished_of_pending hpending
  have hclosed := h.closed hlive
  simp only [hpending, Sealed, ho, if_true] at hclosed
  obtain ⟨hover, rfl⟩ := hclosed
  rw [future_of_live hlive, hpending, Assembly.outputsOf_of_isTerminal hover, List.append_nil]

theorem Produced.future {x y : Execution ε} (h : Produced x y) (hx : Sound x) :
    y.future = x.future := by
  cases h with
  | noted e next htask => simp [Execution.future, htask]
  | taken d next refused htask hlistening hroom =>
      simp [Execution.future, htask]
  | heard next gone htask hlistening => simp [Execution.future, htask]
  | refused d taken next htask hlistening =>
      have hfinished : x.finished = true := by simpa [hlistening] using hx.listening
      simp [Execution.future, hfinished]
  | gone heard next htask hlistening =>
      have hfinished : x.finished = true := by simpa [hlistening] using hx.listening
      simp [Execution.future, hfinished]

/-- What the result of a pass says about the items before and after it. -/
def Consumed (before after : List (Except Failure Row)) : Option Poll → Prop
  | some (.ready answer) => answer = before[0]? ∧ after = before.tail
  | _ => after = before

theorem Turned.future {x y : Execution ε} {p : Option Poll} (h : Turned x y p) (hx : Sound x) :
    Consumed x.future y.future p := by
  cases h with
  | row r rest hpending =>
      have hlive := hx.finished_of_pending hpending
      rw [future_of_live hlive, hpending]
      exact ⟨rfl, future_of_live hlive⟩
  | ended rest hpending =>
      rw [hx.future_of_final hpending rfl]
      exact ⟨rfl, rfl⟩
  | failed e rest hpending =>
      rw [hx.future_of_final hpending rfl]
      exact ⟨rfl, rfl⟩
  | past hpending hfinished =>
      rw [future_of_finished hfinished]
      exact ⟨rfl, rfl⟩
  | received d rest hpending hfinished hchannel =>
      show _ = _
      simp [Execution.future, hfinished, hpending, hchannel]
  | lost hpending hfinished hchannel hdone =>
      show _ = _
      have hover : x.assembly.disconnect.1.isTerminal = true := by
        rw [Assembly.disconnect_of_live (hx.isTerminal hfinished hpending)]
        rfl
      simp [Execution.future, hfinished, hpending, hchannel, Task.deliveries_of_isDone hdone,
        Assembly.outputsOf_of_isTerminal hover]
  | waited hpending hfinished hchannel hdone => rfl

/-! ### What a schedule does -/

/-- Any schedule answers with the items to come, one after the other, and with none beyond them. -/
theorem answersOf_run {x : Execution ε} (hx : Sound x) (ms : List Move) :
    ∃ k, answersOf (x.run ms).2 = (List.range k).map (x.future[·]?) ∧
      (x.run ms).1.future = x.future.drop k := by
  induction ms generalizing x with
  | nil => exact ⟨0, rfl, rfl⟩
  | cons m rest ih =>
      obtain ⟨k, hanswers, hfuture⟩ := ih (sound_move hx m)
      have hmove : Consumed x.future (x.move m).1.future (x.move m).2 := by
        cases m with
        | turn => exact (turned_turn x).future hx
        | send =>
            show (x.move .send).1.future = x.future
            rcases stood_or_produced x with ⟨-, hsame⟩ | hproduce
            · rw [hsame]
            · exact (produced_of_produce? hproduce).2.future hx
      simp only [run]
      generalize x.move m = r at hanswers hfuture hmove
      obtain ⟨y, p⟩ := r
      have hkept (hsame : y.future = x.future) :
          ∃ k, answersOf (y.run rest).2 = (List.range k).map (x.future[·]?) ∧
            (y.run rest).1.future = x.future.drop k := by
        rw [← hsame]
        exact ⟨k, hanswers, hfuture⟩
      cases p with
      | none => simpa using hkept hmove
      | some result =>
          cases result with
          | pending => simpa using hkept hmove
          | ready answer =>
              -- the answer is the first item, and the rest are those after it
              obtain ⟨hanswer, htail⟩ := hmove
              refine ⟨k + 1, ?_, ?_⟩
              · simp only [Option.toList_some, List.singleton_append, answersOf_cons_ready,
                  hanswers]
                rw [List.range_succ_eq_map, htail, hanswer]
                simp [List.getElem?_tail]
              · rw [hfuture, htail]
                simp

theorem Reaches.answers {x y : Execution ε} {as : List Answer} (h : Reaches x y as)
    (hx : Sound x) :
    as = (List.range as.length).map (x.future[·]?) ∧ y.future = x.future.drop as.length := by
  obtain ⟨ms, rfl, rfl⟩ := h
  obtain ⟨k, hanswers, hfuture⟩ := answersOf_run hx ms
  have hk : (answersOf (x.run ms).2).length = k := by simp [hanswers]
  rw [hk]
  exact ⟨hanswers, hfuture⟩

end Execution

/-! ### A bound on the number of answers

The end of a stream is only seen by one poll more than there are items, so a consumer that asks for
all of them needs to know how many there can be. -/

namespace Assembly

/-- The outputs that can still come of what an assembly holds. -/
def outstanding (a : Assembly) : Nat := a.queued.flatten.length + if a.isTerminal then 0 else 1

theorem outstanding_of_live {a : Assembly} (h : a.isTerminal = false) :
    a.outstanding = a.queued.flatten.length + 1 := by
  simp [outstanding, h]

theorem length_fail_le {a : Assembly} (h : a.isTerminal = false) (e : Failure) :
    (a.fail e).2.length + (a.fail e).1.outstanding ≤ a.outstanding := by
  rw [fail_of_live h, outstanding_of_live h]
  simp [outstanding, isTerminal, Phase.isTerminal]

theorem length_emit_le {a : Assembly} (h : a.isTerminal = false) (rows : List (List Cell)) :
    (a.emit rows).2.length + (a.emit rows).1.outstanding ≤ a.outstanding + rows.length := by
  induction rows generalizing a with
  | nil => simp
  | cons cells rest ih =>
      simp only [emit]
      split
      · have hrest := ih (a := { a with emitted := a.emitted + 1 }) h
        have hsame : outstanding { a with emitted := a.emitted + 1 } = a.outstanding := rfl
        simp only [List.length_cons]
        omega
      · have hfail := length_fail_le h
          (.columnCountMismatch a.emitted a.columns.length cells.length)
        simp only [List.length_cons]
        omega

theorem length_receive_le {a : Assembly} (h : a.isTerminal = false) (d : Delivery) :
    (a.receive d).2.length + (a.receive d).1.outstanding ≤ a.outstanding + d.rowCount := by
  simp only [receive, h, Bool.false_eq_true, if_false]
  -- an end is paid for by the one that is outstanding, each row by the row in the delivery
  cases d with
  | failed e => exact length_fail_le h e
  | event e =>
      cases e with
      | error message => exact length_fail_le h _
      | success =>
          simp only [finish]
          split
          · exact length_fail_le h _
          · rw [outstanding_of_live h]
            simp [outstanding, isTerminal, Phase.isTerminal]
            omega
      | data batch =>
          simp only [addRows]
          split
          · exact length_emit_le h batch
          · rw [outstanding_of_live h, outstanding_of_live rfl]
            simp only [List.length_nil, List.flatten_append, List.flatten_singleton,
              List.length_append, Delivery.rowCount]
            omega
      | columns names complete =>
          have hnamed : isTerminal { a with columns := a.columns ++ names } = false := h
          simp only [addColumns]
          split
          · simp
          · split
            · simp [outstanding, hnamed, h]
            · split
              · exact length_fail_le hnamed _
              · have hemit := length_emit_le (a := draining (a.columns ++ names) a.emitted) rfl
                  a.queued.flatten
                have hone : outstanding (draining (a.columns ++ names) a.emitted) = 1 := rfl
                rw [outstanding_of_live h]
                simp only [draining] at hemit hone
                simp only [Delivery.rowCount]
                omega

theorem length_outputsOf_le (a : Assembly) (ds : List Delivery) :
    (a.outputsOf ds).length ≤ a.outstanding + Execution.rowCount ds := by
  cases h : a.isTerminal with
  | true => simp [outputsOf_of_isTerminal h]
  | false =>
      induction ds generalizing a with
      | nil =>
          rw [outputsOf_nil, disconnect]
          exact Nat.le_trans (Nat.le_add_right _ _) (length_fail_le h _)
      | cons d rest ih =>
          have hd := length_receive_le h d
          rw [outputsOf_cons, List.length_append]
          cases hnext : (a.receive d).1.isTerminal with
          | true =>
              rw [outputsOf_of_isTerminal hnext]
              simp only [List.length_nil, Execution.rowCount]
              omega
          | false =>
              have hrest := ih (a.receive d).1 hnext
              simp only [Execution.rowCount]
              omega

end Assembly

namespace Execution

open Output (items)

variable {ε : Type}

theorem rowCount_append (ds es : List Delivery) :
    rowCount (ds ++ es) = rowCount ds + rowCount es := by
  induction ds with
  | nil => simp
  | cons d rest ih => simp [ih, Nat.add_assoc]

theorem rowCount_deliveries_le (t : Task ε Unit) : rowCount t.deliveries ≤ t.rowBound := by
  induction t with
  | done _ => simp
  | note e next ih => exact ih
  | send d taken refused ihtaken ihrefused =>
      simp only [Task.deliveries, rowCount, Task.rowBound]
      omega
  | probe heard gone ihheard ihgone =>
      simp only [Task.deliveries, Task.rowBound]
      omega

theorem length_future_le (x : Execution ε) : x.future.length ≤ x.answerBound := by
  cases hfinished : x.finished with
  | true => simp [future_of_finished hfinished]
  | false =>
      have houts := Assembly.length_outputsOf_le x.assembly (x.channel ++ x.task.deliveries)
      have htask := rowCount_deliveries_le x.task
      have hone : x.assembly.outstanding ≤ x.assembly.queued.flatten.length + 1 := by
        simp only [Assembly.outstanding]
        split <;> omega
      rw [rowCount_append] at houts
      calc
        x.future.length ≤
            (x.pending ++ x.assembly.outputsOf (x.channel ++ x.task.deliveries)).length := by
          rw [future_of_live hfinished]
          exact List.length_filterMap_le _ _
        _ ≤ x.answerBound := by
          rw [List.length_append, answerBound]
          omega

/-! ### Draining -/

theorem eq_of_answers {items future : List (Except Failure Row)}
    (h : items.map some ++ [none] =
      (List.range (items.length + 1)).map (future[·]?)) : items = future := by
  have hend : future.length ≤ items.length := by
    have hlast := congrArg (·[items.length]?) h
    simpa using hlast
  apply List.ext_getElem?
  intro i
  by_cases hi : i < items.length
  · have hat := congrArg (·[i]?) h
    simpa [List.getElem?_append_left, hi, Nat.lt_succ_of_lt hi] using hat
  · rw [List.getElem?_eq_none (by omega), List.getElem?_eq_none (by omega)]

/-- Draining takes all items, and ends with the answer that there are no more. -/
theorem reaches_drain {x : Execution ε} (hx : Sound x) :
    x.drain.2 = x.future ∧ Reaches x x.drain.1 (x.future.map some ++ [none]) := by
  obtain ⟨ended, hreaches, hended⟩ := reaches_take (x.answerBound + 1) hx
  obtain ⟨hanswers, -⟩ := hreaches.answers hx
  rcases hended with ⟨rfl, hlength⟩ | rfl
  · -- One answer more than there are items can not be an item.
    have hbound := length_future_le x
    have hlt : x.future.length < (x.take (x.answerBound + 1)).2.length := by omega
    have hat := congrArg (·[x.future.length]?) hanswers
    simp [hlt] at hat
  · have hitems : (x.take (x.answerBound + 1)).2 = x.future := by
      apply eq_of_answers
      simpa using hanswers
    rw [hitems] at hreaches
    exact ⟨hitems, hreaches⟩

theorem Reaches.finished {x y : Execution ε} {as : List Answer} (h : Reaches x y as)
    (hend : none ∈ as) : y.finished = true := by
  obtain ⟨ms, rfl, rfl⟩ := h
  apply finished_run
  right
  obtain ⟨p, hp, hanswer⟩ := List.mem_filterMap.mp hend
  cases p with
  | pending => simp at hanswer
  | ready answer => rwa [← Option.some.inj hanswer]

/-- A receiving side that has come to the end does not change when it leaves. -/
theorem drop_of_finished {x : Execution ε} (hx : Sound x) (h : x.finished = true) : x.drop = x := by
  have hlistening : x.listening = false := by simpa [h] using hx.listening
  obtain ⟨hchannel, -⟩ := hx.ended h
  rw [drop, ← hlistening, ← hchannel]

/-- Draining and leaving is a schedule too, at whose end the sending side is done. -/
theorem reaches_drain_leave {x : Execution ε} (hx : Sound x) :
    Reaches x x.drain.1.leave (x.future.map some ++ [none]) ∧
      x.drain.1.leave.task.isDone = true := by
  obtain ⟨-, hreaches⟩ := reaches_drain hx
  have hdrained := hreaches.sound hx
  have hfinished := hreaches.finished (by simp)
  have hstarted : x.drain.1.started = true := by
    cases hstarted : x.drain.1.started with
    | true => rfl
    | false => simp [(hdrained.unstarted hstarted).2] at hfinished
  have hlistening : x.drain.1.listening = false := by simpa [hfinished] using hdrained.listening
  rw [leave, drop_of_finished hdrained hfinished]
  refine ⟨?_, isDone_settle hstarted hlistening⟩
  simpa using hreaches.trans (reaches_settle x.drain.1)

theorem ends_drain_leave {x : Execution ε} (hx : Sound x) : x.Ends x.drain.1.leave.notes := by
  obtain ⟨⟨ms, hms, -⟩, hdone⟩ := reaches_drain_leave hx
  exact ⟨ms, by rw [hms, hdone], by rw [hms]⟩

/-! ### The start of the sending side -/

/-- How often a schedule starts the sending side. -/
def starts (x : Execution ε) : List Move → Nat
  | [] => 0
  | m :: rest =>
      (if !x.started && (x.move m).1.started then 1 else 0) + starts (x.move m).1 rest

theorem Turned.started {x y : Execution ε} {p : Option Poll} (h : Turned x y p)
    (hx : x.started = true) : y.started = true := by
  cases h with
  | received d rest hpending hfinished hchannel => rfl
  | lost hpending hfinished hchannel hdone => rfl
  | waited hpending hfinished hchannel hdone => rfl
  | _ => exact hx

theorem started_move {x : Execution ε} (hx : x.started = true) (m : Move) :
    (x.move m).1.started = true := by
  cases m with
  | turn => exact (turned_turn x).started hx
  | send =>
      rcases stood_or_produced x with ⟨-, hsame⟩ | hproduce
      · rwa [hsame]
      · exact (produced_of_produce? hproduce).2.started.trans hx

theorem starts_of_started {x : Execution ε} (hx : x.started = true) (ms : List Move) :
    x.starts ms = 0 := by
  induction ms generalizing x with
  | nil => rfl
  | cons m rest ih => simp [starts, hx, ih (started_move hx m)]

theorem starts_le_one (x : Execution ε) (ms : List Move) : x.starts ms ≤ 1 := by
  induction ms generalizing x with
  | nil => simp [starts]
  | cons m rest ih =>
      cases hm : (x.move m).1.started with
      | true =>
          simp only [starts, starts_of_started hm]
          split <;> omega
      | false => simpa [starts, hm] using ih (x.move m).1

/-- The sending side does not move before the first poll. -/
theorem run_of_not_started {x : Execution ε} (hx : x.started = false) {ms : List Move}
    (hms : Move.turn ∉ ms) : x.run ms = (x, []) := by
  induction ms with
  | nil => rfl
  | cons m rest ih =>
      rw [List.mem_cons, not_or] at hms
      obtain ⟨hm, hrest⟩ := hms
      cases m with
      | turn => exact absurd rfl hm
      | send =>
          have hproduce : x.produce? = none := by simp [produce?, hx]
          simp [hproduce, ih hrest]

/-- Whatever the two sides do in which order, and whatever the capacity of the channel, the answers
are the rows that a new assembly puts out for what the sending side hands over before it is lost,
then the failure if there is one, and from then on none. No schedule is stuck: the rest can always
follow. A poll is pending only while everything sent has been received and handed on and the sending
side can go on. The sending side starts with the first poll, and once. -/
theorem answers_of_schedule (task : Task ε Unit) (n : Nat) (ms : List Move) :
    let x := start task (n + 1) n.succ_pos
    let y := (x.run ms).1
    let outs := Assembly.empty.outputsOf task.deliveries
    Output.Sealed true outs ∧
      (∃ k, answersOf (x.run ms).2 = (List.range k).map ((items outs)[·]?) ∧
        ∃ more, answersOf (y.run more).2 = ((items outs).drop k).map some ++ [none]) ∧
      x.drain.2 = items outs ∧
      (y.turn.2 = some .pending → Waits y ∧ ∃ z, y.turn.1.produce? = some z) ∧
      x.starts ms ≤ 1 ∧ (Move.turn ∉ ms → y = x) := by
  intro x y outs
  have hx : Sound x := sound_start task (n + 1) n.succ_pos
  have hy : Sound y := sound_run hx ms
  obtain ⟨k, hanswers, hfuture⟩ := answersOf_run hx ms
  refine ⟨Assembly.sealed_outputsOf rfl task.deliveries, ⟨k, hanswers, ?_⟩, (reaches_drain hx).1,
    ?_, starts_le_one x ms, fun hms => congrArg Prod.fst (run_of_not_started rfl hms)⟩
  · obtain ⟨more, -, hmore⟩ := (reaches_drain hy).2
    refine ⟨more, hmore.trans ?_⟩
    rw [hfuture]
    rfl
  · intro hpending
    have hturned := turned_turn y
    rw [hpending] at hturned
    obtain ⟨hwaits, hturn⟩ := hturned.waits
    refine ⟨hwaits, ?_⟩
    rw [hturn]
    exact exists_produce? rfl hwaits.channel hwaits.isDone

/-- A query that sends one row: nothing moves before the first poll, which then waits. -/
theorem first_poll_waits :
    let task : Task Nat Unit := .send (.event (.columns ["a"] true))
      (.send (.event (.data [[.null]])) (.done ()) (.done ())) (.done ())
    let x := start task 1 Nat.one_pos
    let y := (x.run [.send, .turn]).1
    (Move.turn ∉ [Move.send] ∧ (x.run [.send]).1 = x) ∧
      y.turn.2 = some .pending ∧ Waits y ∧ (∃ z, y.turn.1.produce? = some z) ∧
      x.drain.2 = [.ok [("a", .null)],
        .error (.protocol "wire client finished without a terminal signal")] := by
  intro task x y
  have hunpolled : Move.turn ∉ [Move.send] := by decide
  have hpending : y.turn.2 = some .pending := rfl
  obtain ⟨hwaits, hproduce⟩ :=
    (answers_of_schedule task 0 [.send, .turn]).2.2.2.1 hpending
  exact ⟨⟨hunpolled, (answers_of_schedule task 0 [.send]).2.2.2.2.2 hunpolled⟩, hpending, hwaits,
    hproduce, (answers_of_schedule task 0 []).2.2.1.trans rfl⟩

end Execution

end SqlConnector
