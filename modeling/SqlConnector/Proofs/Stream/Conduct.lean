import SqlConnector.Proofs.Stream.Record

/-!
What a consumer does in one go, as moves. To await an answer, to drain a stream and to drop it are
sequences of passes and of steps of the sending side; in the end all streams can be dropped, and
then everything is over.
-/

namespace SqlConnector

variable {ε : Type}

/-! ### Executions whose notes were stored -/

namespace Execution

variable {x y : Execution ε}

theorem Produced.stored (h : Produced x y) :
    ∃ es, y.notes = x.notes ++ es ∧ Produced { x with notes := [] } { y with notes := es } := by
  cases h with
  | noted e next htask => exact ⟨[e], rfl, .noted e next htask⟩
  | refused d taken next htask hlistening =>
      exact ⟨[], by simp, .refused d taken next htask hlistening⟩
  | taken d next refused htask hlistening hroom =>
      exact ⟨[], by simp, .taken d next refused htask hlistening hroom⟩
  | heard next gone htask hlistening => exact ⟨[], by simp, .heard next gone htask hlistening⟩
  | gone heard next htask hlistening => exact ⟨[], by simp, .gone heard next htask hlistening⟩

/-- What was noted before makes no difference to a step. -/
theorem exists_produce?_stored (h : x.produce? = some y) :
    ∃ es, y.notes = x.notes ++ es ∧
      produce? { x with notes := [] } = some { y with notes := es } := by
  obtain ⟨hstarted, hproduced⟩ := produced_of_produce? h
  obtain ⟨es, hnotes, hstored⟩ := hproduced.stored
  exact ⟨es, hnotes, hstored.produce?_eq hstarted⟩

theorem turn_stored (x : Execution ε) :
    turn { x with notes := [] } = ({ x.turn.1 with notes := [] }, x.turn.2) := by
  obtain ⟨task, capacity, hpos, notes, channel, listening, started, assembly, pending,
    finished⟩ := x
  match pending, finished with
  | .row r :: rest, _ => rfl
  | .finished :: rest, _ => rfl
  | .failed e :: rest, _ => rfl
  | [], true => rfl
  | [], false =>
      match channel with
      | d :: rest => rfl
      | [] =>
          simp only [turn, answer?, Bool.false_eq_true, if_false]
          split <;> rfl

end Execution

namespace Bundle

variable {b : Bundle ε} {i : Nat} {x y : Execution (Note ε)}

theorem getElem?_store (hi : i < b.executions.length) :
    (b.store i y).executions[i]? = some { y with notes := [] } := by
  simp [store, hi]

theorem store_store (es : List (Note ε)) (hy : y.notes = x.notes ++ es) :
    (b.store i x).store i { y with notes := es } = b.store i y := by
  simp [store, hy]

theorem store_self (hx : b.executions[i]? = some x) (hnotes : x.notes = []) : b.store i x = b := by
  obtain ⟨hi, rfl⟩ := List.getElem?_eq_some_iff.mp hx
  have hsame : { b.executions[i] with notes := [] } = b.executions[i] := by rw [← hnotes]
  simp [store, hnotes, hsame]

end Bundle

namespace Company

variable {z s : Company ε} {b : Bundle ε} {i : Nat} {x y : Execution (Note ε)}

/-! ### One stream at a time -/

theorem exists_run_trans {z w v : Company ε} (h : ∃ ms, z.run ms = w) (h' : ∃ ms, w.run ms = v) :
    ∃ ms, z.run ms = v := by
  obtain ⟨ms, rfl⟩ := h
  obtain ⟨ns, rfl⟩ := h'
  exact ⟨ms ++ ns, run_append z ms ns⟩

theorem move_send (hs : s.bundle = b.store i x) (hi : i < b.executions.length)
    (h : x.produce? = some y) : s.move (.send i) = { s with bundle := b.store i y } := by
  obtain ⟨es, hes, hproduce⟩ := Execution.exists_produce?_stored h
  have hx : s.bundle.executions[i]? = some { x with notes := [] } :=
    hs ▸ Bundle.getElem?_store hi
  simp only [move, hx, Option.bind_some, hproduce]
  rw [hs, Bundle.store_store es hes]

/-- The sending side goes as far as it can. -/
theorem exists_run_settle (hs : s.bundle = b.store i x) (hi : i < b.executions.length) :
    ∃ ms, s.run ms = { s with bundle := b.store i x.settle } := by
  induction x using Execution.settle.induct generalizing s with
  | case1 x y h ih =>
      rw [Execution.settle, h]
      obtain ⟨ms, hms⟩ := ih (s := s.move (.send i)) (by rw [move_send hs hi h])
      refine ⟨.send i :: ms, hms.trans ?_⟩
      rw [move_send hs hi h]
  | case2 x h =>
      rw [Execution.settle, h, ← hs]
      exact ⟨[], rfl⟩

/-- In the course of a poll that has begun with `z`, its stream is as stored in `b`. -/
structure Awaiting (z : Company ε) (b : Bundle ε) (i : Nat) (x : Execution (Note ε))
    (s : Company ε) : Prop where
  bundle : s.bundle = b.store i x
  awaited : s.awaited.getD i = i
  polled : enrol s.polled i = enrol z.polled i
  queries : s.queries = z.queries
  dropped : s.dropped = z.dropped
  answers : s.answers = z.answers

/-- What is left of `z` when a stream has given some answers. -/
def after (z : Company ε) (b : Bundle ε) (i : Nat) (as : List Answer) : Company ε :=
  { z with
    bundle := b
    awaited := none
    polled := enrol z.polled i
    answers := z.answers ++ as.map fun answer => (i, answer) }

theorem enrol_enrol (polled : List Nat) : enrol (enrol polled i) i = enrol polled i :=
  if_pos (mem_enrol.mpr (.inr rfl))

theorem after_after (b' : Bundle ε) (as as' : List Answer) :
    (z.after b i as).after b' i as' = z.after b' i (as ++ as') := by
  simp [after, enrol_enrol]

theorem awaiting_of_idle (hz : z.awaited = none) (hb : z.bundle = b.store i x) :
    Awaiting z b i x z :=
  ⟨hb, by simp [hz], rfl, rfl, rfl, rfl⟩

theorem Awaiting.send (h : Awaiting z b i x s) (hi : i < b.executions.length)
    (hy : x.produce? = some y) : Awaiting z b i y (s.move (.send i)) := by
  rw [move_send h.bundle hi hy]
  exact ⟨rfl, h.awaited, h.polled, h.queries, h.dropped, h.answers⟩

theorem Awaiting.move_turn (h : Awaiting z b i x s) (hi : i < b.executions.length)
    (hz : i ∉ z.dropped) :
    s.move (.turn i) = s.turned i { x.turn.1 with notes := [] } x.turn.2 ∧
      (s.move (.turn i)).bundle = b.store i x.turn.1 := by
  have hx : s.bundle.executions[i]? = some { x with notes := [] } :=
    h.bundle ▸ Bundle.getElem?_store hi
  have hnotes : x.turn.1.notes = x.notes ++ [] := by
    rw [(Execution.turned_turn x).notes, List.append_nil]
  have hmove : s.move (.turn i) = s.turned i { x.turn.1 with notes := [] } x.turn.2 := by
    simp only [move, hx, h.dropped, hz, h.awaited, not_false_eq_true, and_self, if_true,
      Execution.turn_stored]
  refine ⟨hmove, ?_⟩
  rw [hmove, ← Bundle.store_store [] hnotes, ← h.bundle]
  rfl

/-- A pass that comes to no answer. -/
theorem Awaiting.turn (h : Awaiting z b i x s) (hi : i < b.executions.length)
    (hz : i ∉ z.dropped) (hnone : x.turn.2.bind Poll.answer? = none) :
    Awaiting z b i x.turn.1 (s.move (.turn i)) := by
  obtain ⟨hmove, hbundle⟩ := h.move_turn hi hz
  refine ⟨hbundle, ?_, ?_, ?_, ?_, ?_⟩ <;> rw [hmove]
  · simp [turned, hnone]
  · simp [turned, enrol_enrol, h.polled]
  · exact h.queries
  · exact h.dropped
  · simp [turned, hnone, h.answers]

/-- The pass with the answer. -/
theorem Awaiting.answered (h : Awaiting z b i x s) (hi : i < b.executions.length)
    (hz : i ∉ z.dropped) {answer : Answer} (hanswer : x.turn.2 = some (.ready answer)) :
    s.move (.turn i) = z.after (b.store i x.turn.1) i [answer] := by
  obtain ⟨hmove, hbundle⟩ := h.move_turn hi hz
  rw [← hbundle, hmove]
  simp [turned, after, hanswer, h.polled, h.queries, h.dropped, h.answers]

theorem Awaiting.turns (h : Awaiting z b i x s) (hi : i < b.executions.length)
    (hz : i ∉ z.dropped) {n : Nat} (hrun : x.run (List.replicate n .turn) = (y, [])) :
    ∃ ms, Awaiting z b i y (s.run ms) := by
  induction n generalizing x s with
  | zero =>
      obtain rfl : x = y := congrArg Prod.fst hrun
      exact ⟨[], h⟩
  | succ n ih =>
      simp only [List.replicate_succ, Execution.run, Execution.move, Prod.mk.injEq,
        List.append_eq_nil_iff] at hrun
      obtain ⟨hlast, hnone, hrest⟩ := hrun
      have hstep := h.turn hi hz (by rw [Option.toList_eq_nil_iff.mp hnone]; rfl)
      obtain ⟨ms, hms⟩ := ih hstep (Prod.ext hlast hrest)
      exact ⟨.turn i :: ms, hms⟩

/-- Awaiting an answer. -/
theorem Awaiting.exists_run_await (h : Awaiting z b i x s) (hi : i < b.executions.length)
    (hz : i ∉ z.dropped) (hx : x.Sound) :
    ∃ ms, s.run ms = z.after (b.store i x.await.1) i [x.await.2] := by
  induction x using Execution.await.induct generalizing s with
  | case1 x y answer hpoll =>
      obtain ⟨n, w, -, hrun, hlast⟩ := Execution.exists_last_turn_poll hx
      obtain ⟨ms, hms⟩ := h.turns hi hz hrun
      have hanswered := hms.answered hi hz (congrArg Prod.snd (hlast.trans (by rw [hpoll])))
      refine ⟨ms ++ [.turn i], ?_⟩
      rw [run_append, Execution.await_of_ready hpoll, show (y, answer).1 = w.turn.1 by
        rw [hlast, hpoll]]
      exact hanswered
  | case2 x y hpoll w hw ih =>
      obtain ⟨n, v, -, hrun, hlast⟩ := Execution.exists_last_turn_poll hx
      obtain ⟨ms, hms⟩ := h.turns hi hz hrun
      rw [hpoll] at hlast
      have hpending := hms.turn hi hz (by rw [hlast]; rfl)
      rw [hlast] at hpending
      have hsound := ((Execution.reaches_poll hx).trans
        (Execution.reaches_produce (hpoll ▸ hw : x.poll.1.produce? = some w))).sound hx
      obtain ⟨ns, hns⟩ := ih (hpending.send hi hw) hsound
      refine ⟨ms ++ .turn i :: .send i :: ns, ?_⟩
      rw [run_append, Execution.await_of_pending hpoll hw]
      exact hns
  | case3 x y hpoll hy =>
      obtain ⟨w, hw⟩ := Execution.exists_produce?_of_pending hpoll hx
      simp [hw] at hy

/-- Awaiting an answer, after which the sending side goes on as far as it can. -/
theorem exists_run_next (hz : z.awaited = none) (hb : z.bundle = b.store i x)
    (hi : i < b.executions.length) (hgone : i ∉ z.dropped) (hx : x.Sound) :
    ∃ ms, z.run ms = z.after (b.store i x.next.1) i [x.next.2] :=
  exists_run_trans ((awaiting_of_idle hz hb).exists_run_await hi hgone hx)
    (exists_run_settle rfl hi)

/-- Awaiting some answers, at least one. -/
theorem exists_run_take (hz : z.awaited = none) (hb : z.bundle = b.store i x)
    (hi : i < b.executions.length) (hgone : i ∉ z.dropped) (hx : x.Sound) (n : Nat) :
    ∃ ended, (∃ ms, z.run ms =
        z.after (b.store i (x.take (n + 1)).1) i ((x.take (n + 1)).2.map some ++ ended)) ∧
      (ended = [] ∧ (x.take (n + 1)).2.length = n + 1 ∨ ended = [none]) := by
  induction n generalizing z x with
  | zero =>
      have hnext := exists_run_next hz hb hi hgone hx
      rw [Execution.take]
      split
      · next y item h =>
          rw [h] at hnext
          exact ⟨[], hnext, .inl ⟨rfl, rfl⟩⟩
      · next y h =>
          rw [h] at hnext
          exact ⟨[none], hnext, .inr rfl⟩
  | succ n ih =>
      have hnext := exists_run_next hz hb hi hgone hx
      have hsound := (Execution.reaches_next hx).sound hx
      rw [Execution.take]
      split
      · next y item h =>
          rw [h] at hnext hsound
          obtain ⟨ended, hrun, hended⟩ := ih (z := z.after (b.store i y) i [some item]) rfl rfl
            hgone hsound
          refine ⟨ended, ?_, hended.imp_left fun h => ⟨h.1, congrArg (· + 1) h.2⟩⟩
          have hall := exists_run_trans hnext hrun
          rwa [after_after] at hall
      · next y h =>
          rw [h] at hnext
          exact ⟨[none], hnext, .inr rfl⟩

/-- Draining a stream. -/
theorem exists_run_drain (hz : z.awaited = none) (hb : z.bundle = b.store i x)
    (hi : i < b.executions.length) (hgone : i ∉ z.dropped) (hx : x.Sound) :
    ∃ ms, z.run ms = z.after (b.store i x.drain.1) i (x.drain.2.map some ++ [none]) := by
  obtain ⟨ended, hrun, ⟨-, hlength⟩ | rfl⟩ := exists_run_take hz hb hi hgone hx x.answerBound
  · -- there are fewer items than answers asked for
    have hitems := congrArg List.length (Execution.reaches_drain hx).1
    have hbound := Execution.length_future_le x
    rw [Execution.drain] at hitems
    omega
  · exact hrun

/-- Dropping a stream, after which its sending side runs to its end. -/
theorem exists_run_leave (hz : z.awaited = none) (hb : z.bundle = b.store i x)
    (hi : i < b.executions.length) :
    ∃ ms, z.run ms =
      { z with bundle := b.store i x.leave, dropped := i :: z.dropped } := by
  have hx : z.bundle.executions[i]? = some { x with notes := [] } := hb ▸ Bundle.getElem?_store hi
  have hdrop : z.move (.drop i) =
      { z with bundle := b.store i x.drop, dropped := i :: z.dropped } := by
    simp only [move, hx, hz, Option.isNone_none, if_true]
    rw [← Bundle.store_store (x := x) (y := x.drop) [] (by simp), ← hb]
    rfl
  exact exists_run_trans ⟨[.drop i], hdrop⟩ (exists_run_settle rfl hi)

/-! ### The end -/

theorem run_sound (hz : Sound z) (ms : List Move) : Sound (z.run ms) :=
  run_induction (fun _ _ hz h => h.sound hz) hz ms

/-- A stream was dropped and its sending side has nothing more to do. -/
def Left (z : Company ε) (i : Nat) : Prop :=
  i ∈ z.dropped ∧ ∀ x, z.bundle.executions[i]? = some x → x.produce? = none

theorem produce?_stored_eq_none (h : x.produce? = none) :
    Execution.produce? { x with notes := [] } = none := by
  unfold Execution.produce? at h ⊢
  repeat' split at h
  all_goals simp_all

/-- Dropping some streams, one after the other. -/
theorem exists_run_leaving (is : List Nat) (hz : Sound z) (hawaited : z.awaited = none)
    (his : ∀ i ∈ is, i < z.bundle.executions.length) {before : List Nat}
    (hleft : ∀ i ∈ before, z.Left i) :
    ∃ ms dropped, z.run ms =
        { z with
          bundle := is.foldl (fun b i => (b.leave? i).getD b) z.bundle, dropped := dropped } ∧
      ∀ i, i ∈ before ∨ i ∈ is → (z.run ms).Left i := by
  induction is generalizing z before with
  | nil => exact ⟨[], z.dropped, rfl, fun i hi => hleft i (by simpa using hi)⟩
  | cons i rest ih =>
      obtain ⟨hi, hrest⟩ := List.forall_mem_cons.mp his
      have hx := List.getElem?_eq_getElem hi
      obtain ⟨query, -, hmember⟩ := hz.member i _ hx
      obtain ⟨ms, hms⟩ := exists_run_leave hawaited (Bundle.store_self hx hmember.notes).symm hi
      have hw : Sound (z.run ms) := run_sound hz ms
      have hleave : z.bundle.leave? i = some (z.bundle.store i z.bundle.executions[i].leave) := by
        rw [Bundle.leave?, hx]
        rfl
      -- what was dropped before stays so, though its neighbour in the bundle is stored anew
      have hkept : ∀ j ∈ i :: before, (z.run ms).Left j := by
        intro j hj
        rw [hms]
        refine ⟨?_, fun v hv => ?_⟩
        · rcases List.mem_cons.mp hj with rfl | hj
          · exact List.mem_cons_self
          · exact List.mem_cons_of_mem _ (hleft j hj).1
        · rcases stored_or_kept hx hv with ⟨rfl, rfl⟩ | ⟨hne, hv⟩
          · exact produce?_stored_eq_none (Execution.produce?_settle _)
          · exact (hleft j ((List.mem_cons.mp hj).resolve_left hne)).2 v hv
      have hlength : (z.run ms).bundle.executions.length = z.bundle.executions.length := by
        rw [hms]
        exact length_store
      obtain ⟨ns, dropped, hns, hall⟩ := ih hw (by rw [hms]; exact hawaited)
        (fun j hj => hlength ▸ hrest j hj) hkept
      refine ⟨ms ++ ns, dropped, ?_, fun j hj => ?_⟩
      · rw [run_append, hns, hms, List.foldl_cons, hleave]
        rfl
      · rw [run_append]
        refine hall j ?_
        rcases hj with hj | hj
        · exact .inl (List.mem_cons_of_mem _ hj)
        · rcases List.mem_cons.mp hj with rfl | hj
          · exact .inl List.mem_cons_self
          · exact .inr hj

/-- Dropping all streams is the end of everything. -/
theorem exists_run_leaveAll (hz : Sound z) (hawaited : z.awaited = none) :
    ∃ ms dropped, z.run ms = { z with bundle := z.bundle.leaveAll, dropped := dropped } ∧
      (z.run ms).Over := by
  have hnone : ∀ i ∈ ([] : List Nat), z.Left i := by simp
  obtain ⟨ms, dropped, hms, hleft⟩ := exists_run_leaving (List.range z.bundle.executions.length) hz
    hawaited (fun i hi => List.mem_range.mp hi) hnone
  have hw : Sound (z.run ms) := run_sound hz ms
  have hlength : (z.run ms).bundle.executions.length = z.bundle.executions.length := by
    rw [← hw.length, hms, ← hz.length]
  have hall (i : Nat) (hi : i < (z.run ms).bundle.executions.length) : (z.run ms).Left i :=
    hleft i (.inr (List.mem_range.mpr (hlength ▸ hi)))
  refine ⟨ms, dropped, hms, fun i hi => (hall i hi).1, fun i x hx hpolled => ?_⟩
  obtain ⟨query, -, hmember⟩ := hw.member i x hx
  obtain ⟨hgone, hdone⟩ := hall i (List.getElem?_eq_some_iff.mp hx).1
  exact Execution.isDone_of_produce? (hmember.polled.mpr hpolled) (hmember.gone hgone) (hdone x hx)

/-- However far things have gone, they can come to an end. -/
theorem exists_run_over (hz : Sound z) : ∃ ms, (z.run ms).Over := by
  cases hawaited : z.awaited with
  | none =>
      obtain ⟨ms, -, -, hover⟩ := exists_run_leaveAll hz hawaited
      exact ⟨ms, hover⟩
  | some i =>
      -- the answer that is awaited comes first
      obtain ⟨hpolled, hgone⟩ := hz.awaited i hawaited
      have hi := hz.bound i (.inl hpolled)
      have hx := List.getElem?_eq_getElem hi
      obtain ⟨query, -, hmember⟩ := hz.member i _ hx
      have hawaiting : Awaiting z z.bundle i z.bundle.executions[i] z :=
        ⟨(Bundle.store_self hx hmember.notes).symm, by simp [hawaited], rfl, rfl, rfl, rfl⟩
      obtain ⟨ms, hms⟩ := hawaiting.exists_run_await hi hgone (hmember.sound hgone)
      obtain ⟨ns, -, -, hover⟩ := exists_run_leaveAll (run_sound hz ms) (by rw [hms]; rfl)
      exact ⟨ms ++ ns, by rwa [run_append]⟩

end Company

end SqlConnector
