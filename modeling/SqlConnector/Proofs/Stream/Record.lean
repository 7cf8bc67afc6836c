import Mathlib.Algebra.GroupWithZero.Nat
import SqlConnector.Proofs.Stream.Company

/-!
The common record of several queries. What each of them notes before anything else stands in the
record in the order in which the queries were first polled, since the answer to a first poll comes
only after that; and what each of them notes so many times is noted as often for each.
-/

namespace SqlConnector

namespace Execution

variable {ε : Type} {p : ε → Bool} {x y : Execution ε} {r : Option Poll}

theorem Turned.notes (h : Turned x y r) : y.notes = x.notes := by
  cases h <;> rfl

/-- Nothing was received, and the sending side is not done. -/
theorem Turned.eq_of_waits (h : Turned x y r) (hx : Waits x) :
    y = { x with started := true } ∧ r = some .pending := by
  obtain ⟨hpending, hfinished, hchannel, hdone⟩ := hx
  cases h with
  | waited => exact ⟨rfl, rfl⟩
  | _ => simp_all

end Execution

namespace Company

variable {ε : Type} {p : Note ε → Bool} {z w : Company ε}

/-- All streams have been dropped, and those that were polled are done. -/
structure Over (z : Company ε) : Prop where
  dropped : ∀ i < z.bundle.executions.length, i ∈ z.dropped
  isDone : ∀ i x, z.bundle.executions[i]? = some x → i ∈ z.polled → x.task.isDone = true

/-- The text of a query. -/
def text (z : Company ε) (i : Nat) : String := z.queries.getD i ""

section Notes

variable {i : Nat} {x y : Execution (Note ε)}

theorem notes_turned (hx : x.notes = []) {r : Option Poll} (hy : Execution.Turned x y r) :
    (z.turned i y r).bundle.notes = z.bundle.notes := by
  have hkept : y.notes = x.notes ++ [] := by rw [hy.notes, List.append_nil]
  rw [Company.turned, notes_store hx hkept, List.append_nil]

theorem notes_dropped (hx : x.notes = []) :
    (z.bundle.store i x.drop).notes = z.bundle.notes := by
  have hkept : x.drop.notes = x.notes ++ [] := (List.append_nil _).symm
  rw [notes_store hx hkept, List.append_nil]

end Notes

/-! ### What is noted first -/

/-- The record has what each stream that was polled notes first, except for the part that the stream
whose answer is awaited owes. Such a stream has not handed over anything. -/
structure Recorded (p : Note ε → Bool) (opening : String → List (Note ε)) (z : Company ε)
    (owed : List (Note ε)) : Prop where
  opens : ∀ query, (z.execution query).task.Opens p (opening query)
  record : z.bundle.notes.filter p ++ owed =
    (z.polled.map z.text).flatMap opening
  settled : z.awaited = none → owed = []
  quiet : ∀ i x, z.bundle.executions[i]? = some x → i ∈ z.polled → z.awaited ≠ some i →
    x.task.Opens p []
  entering : ∀ i x, z.bundle.executions[i]? = some x → z.awaited = some i →
    x.task.Opens p owed ∧ (owed ≠ [] → x.Waits)

theorem Task.isDone_of_opens {x : Task (Note ε) Unit} {owed : List (Note ε)}
    (h : x.Opens p owed) (howed : owed ≠ []) : x.isDone = false := by
  obtain ⟨-, body, rfl, -⟩ := h
  cases owed with
  | nil => contradiction
  | cons e rest => rfl

variable {opening : String → List (Note ε)} {owed : List (Note ε)}

/-- What the stream of a poll owes, whether it is polled for the first time or not. -/
theorem Recorded.exists_owed (hz : Sound z) (h : Recorded p opening z owed) {i : Nat}
    {x : Execution (Note ε)} (hx : z.bundle.executions[i]? = some x) (hi : i ∉ z.dropped)
    (hawaited : z.awaited = none ∨ z.awaited = some i) :
    ∃ owed', x.task.Opens p owed' ∧ (owed' ≠ [] → x.Waits) ∧
      z.bundle.notes.filter p ++ owed' =
        ((enrol z.polled i).map z.text).flatMap opening := by
  obtain ⟨query, hquery, hmember⟩ := hz.member i x hx
  by_cases hpolled : i ∈ z.polled
  · rw [enrol, if_pos hpolled]
    rcases hawaited with hnone | hsome
    · have hquiet := h.quiet i x hx hpolled (by simp [hnone])
      refine ⟨[], hquiet, by simp, ?_⟩
      rw [← h.record, h.settled hnone]
    · obtain ⟨hopens, hwaits⟩ := h.entering i x hx hsome
      exact ⟨owed, hopens, hwaits, h.record⟩
  · -- a first poll, before which nothing was owed
    have hnone : z.awaited = none := by
      refine hawaited.resolve_right fun hsome => hpolled (hz.awaited i hsome).1
    obtain ⟨htask, hchannel⟩ := hmember.fresh hpolled
    have hstarted : x.started = false := by
      simpa using mt hmember.polled.mp hpolled
    obtain ⟨hpending, hfinished⟩ := (hmember.sound hi).unstarted hstarted
    have hopens : x.task.Opens p (opening query) := htask ▸ h.opens query
    refine ⟨opening query, hopens, fun howed => ⟨hpending, hfinished, hchannel,
      Task.isDone_of_opens hopens howed⟩, ?_⟩
    rw [enrol, if_neg hpolled, List.map_append, List.flatMap_append, ← h.record, h.settled hnone]
    simp [text, hquery]

section Step

variable {i : Nat} {x y : Execution (Note ε)}

theorem Recorded.added (hz : Sound z) (h : Recorded p opening z owed) (query : String) :
    Recorded p opening { z with bundle := z.bundle.add query, queries := z.queries ++ [query] }
      owed := by
  have hold {j : Nat} (hj : j ∈ z.polled) {x : Execution (Note ε)}
      (hx : (z.bundle.add query).executions[j]? = some x) :
      z.bundle.executions[j]? = some x := by
    rwa [Bundle.add, List.getElem?_append_left (hz.bound j (.inl hj))] at hx
  have htexts : z.polled.map (text { z with queries := z.queries ++ [query] }) =
      z.polled.map z.text := by
    refine List.map_congr_left fun j hj => ?_
    have hj' : j < z.queries.length := hz.length ▸ hz.bound j (.inl hj)
    simp [text, List.getElem?_append_left hj']
  refine ⟨h.opens, ?_, h.settled, fun j x hx hj hne => h.quiet j x (hold hj hx) hj hne,
    fun j x hx hj => h.entering j x (hold (hz.awaited j hj).1 hx) hj⟩
  exact h.record.trans (congrArg (List.flatMap opening) htexts.symm)

/-- The stream whose answer is awaited has taken a step and owes `owed'` now. -/
theorem Recorded.of_awaited (h : Recorded p opening z owed) (hx : z.bundle.executions[i]? = some x)
    (hawaited : z.awaited = some i) {owed' : List (Note ε)}
    (hrecord : (z.bundle.store i y).notes.filter p ++ owed' =
      (z.polled.map z.text).flatMap opening)
    (hopens : y.task.Opens p owed')
    (hwaits : owed' ≠ [] → Execution.Waits { y with notes := [] }) :
    Recorded p opening { z with bundle := z.bundle.store i y } owed' := by
  refine ⟨h.opens, hrecord, fun hnone => ?_, fun j v hv hj hne => ?_, fun j v hv hj => ?_⟩
  · rw [hawaited] at hnone
    contradiction
  · rcases stored_or_kept hx hv with ⟨rfl, rfl⟩ | ⟨hne', hv⟩
    · exact absurd hawaited hne
    · exact h.quiet j v hv hj hne
  · obtain rfl : i = j := Option.some.inj (hawaited.symm.trans hj)
    rcases stored_or_kept hx hv with ⟨-, rfl⟩ | ⟨hne', -⟩
    · exact ⟨hopens, hwaits⟩
    · exact absurd rfl hne'

/-- A step of the stream whose answer is awaited notes the first of what it owes, if it owes
anything. -/
theorem Recorded.sent_awaited (h : Recorded p opening z owed)
    (hx : z.bundle.executions[i]? = some x) (hempty : x.notes = [])
    (hy : Execution.Produced x y) (hawaited : z.awaited = some i) :
    ∃ owed', Recorded p opening { z with bundle := z.bundle.store i y } owed' := by
  obtain ⟨hopens, hwaits⟩ := h.entering i x hx hawaited
  rcases hy.opens hopens with
    ⟨e, rest, rfl, hes, he, hopens', hchannel⟩ | ⟨rfl, hopens', es, hes, hquiet⟩
  · refine ⟨rest, h.of_awaited hx hawaited ?_ hopens' fun hrest => ?_⟩
    · rw [notes_store hempty hes, ← h.record, List.filter_append, List.append_assoc]
      simp [he]
    · obtain ⟨hpending, hfinished, hnothing, -⟩ := hwaits (by simp)
      exact ⟨hy.pending.trans hpending, hy.finished.trans hfinished, hchannel.trans hnothing,
        Task.isDone_of_opens hopens' hrest⟩
  · refine ⟨[], h.of_awaited hx hawaited ?_ hopens' (by simp)⟩
    rw [notes_store hempty hes, ← h.record, List.filter_append, hquiet, List.append_nil]

/-- Any other stream has noted what it notes first. -/
theorem Recorded.sent_other (h : Recorded p opening z owed)
    (hx : z.bundle.executions[i]? = some x) (hempty : x.notes = [])
    (hy : Execution.Produced x y) (hpolled : i ∈ z.polled) (hawaited : z.awaited ≠ some i) :
    Recorded p opening { z with bundle := z.bundle.store i y } owed := by
  rcases hy.opens (h.quiet i x hx hpolled hawaited) with
    ⟨e, rest, hnil, -⟩ | ⟨-, hopens, es, hes, hquiet⟩
  · contradiction
  · refine ⟨h.opens, ?_, h.settled, fun j v hv hj hne => ?_, fun j v hv hj => ?_⟩
    · rw [notes_store hempty hes, List.filter_append, hquiet, List.append_nil]
      exact h.record
    · rcases stored_or_kept hx hv with ⟨rfl, rfl⟩ | ⟨hne', hv⟩
      · exact hopens
      · exact h.quiet j v hv hj hne
    · rcases stored_or_kept hx hv with ⟨rfl, rfl⟩ | ⟨hne', hv⟩
      · exact absurd hj hawaited
      · exact h.entering j v hv hj

/-- A pass notes nothing, and brings an answer only when nothing is owed any more. -/
theorem Recorded.turned (hz : Sound z) (h : Recorded p opening z owed)
    (hx : z.bundle.executions[i]? = some x) {r : Option Poll} (hy : Execution.Turned x y r)
    (hi : i ∉ z.dropped) (hawaited : z.awaited = none ∨ z.awaited = some i) :
    ∃ owed', Recorded p opening (z.turned i y r) owed' := by
  obtain ⟨owed', hopens, hwaits, hrecord⟩ := h.exists_owed hz hx hi hawaited
  obtain ⟨query, -, hmember⟩ := hz.member i x hx
  have hsettled (hanswer : (r.bind Poll.answer?).isSome) : owed' = [] := by
    refine Classical.byContradiction fun howed => ?_
    rw [(hy.eq_of_waits (hwaits howed)).2] at hanswer
    simp at hanswer
  refine ⟨owed', h.opens, ?_, fun hnone => hsettled ?_, fun j v hv hj hne => ?_,
    fun j v hv hj => ?_⟩
  · rw [notes_turned hmember.notes hy]
    exact hrecord
  · simp only [Company.turned] at hnone
    split at hnone
    · assumption
    · contradiction
  · rcases stored_or_kept hx hv with ⟨rfl, rfl⟩ | ⟨hne', hv⟩
    · -- the stream itself is awaited no more, so that it was answered
      have howed := hsettled (by
        refine Classical.byContradiction fun hanswer => hne ?_
        simp only [Company.turned, if_neg hanswer])
      show Task.Opens p y.task []
      rw [hy.task, ← howed]
      exact hopens
    · refine h.quiet j v hv ((mem_enrol.mp hj).resolve_right hne') ?_
      rcases hawaited with hnone | hsome
      · simp [hnone]
      · rw [hsome]
        exact fun hij => hne' (Option.some.inj hij).symm
  · obtain rfl : i = j := eq_of_awaited_turned hj
    rcases stored_or_kept hx hv with ⟨-, rfl⟩ | ⟨hne', -⟩
    · refine ⟨hy.task ▸ hopens, fun howed => ?_⟩
      have hw := hwaits howed
      obtain ⟨rfl, -⟩ := hy.eq_of_waits hw
      exact ⟨hw.pending, hw.finished, hw.channel, hw.isDone⟩
    · exact absurd rfl hne'

theorem Recorded.dropped (h : Recorded p opening z owed) (hx : z.bundle.executions[i]? = some x)
    (hempty : x.notes = []) (hawaited : z.awaited = none) :
    Recorded p opening { z with bundle := z.bundle.store i x.drop, dropped := i :: z.dropped }
      owed := by
  refine ⟨h.opens, ?_, h.settled, fun j v hv hj hne => ?_, fun j v hv hj => ?_⟩
  · rw [notes_dropped hempty]
    exact h.record
  · rcases stored_or_kept hx hv with ⟨rfl, rfl⟩ | ⟨hne', hv⟩
    · exact h.quiet j x hx hj hne
    · exact h.quiet j v hv hj hne
  · rw [hawaited] at hj
    contradiction

end Step

theorem Moved.recorded (hz : Sound z) (h : Recorded p opening z owed) (hw : Moved z w) :
    ∃ owed', Recorded p opening w owed' := by
  cases hw with
  | idle => exact ⟨owed, h⟩
  | added query hawaited => exact ⟨owed, h.added hz query⟩
  | sent i x y hx hy hstarted =>
      obtain ⟨query, -, hmember⟩ := hz.member i x hx
      by_cases hawaited : z.awaited = some i
      · exact h.sent_awaited hx hmember.notes hy hawaited
      · exact ⟨owed, h.sent_other hx hmember.notes hy (hmember.polled.mp hstarted) hawaited⟩
  | turned i x y r hx hy hi hawaited => exact h.turned hz hx hy hi hawaited
  | dropped i x hx hawaited =>
      obtain ⟨query, -, hmember⟩ := hz.member i x hx
      exact ⟨owed, h.dropped hx hmember.notes hawaited⟩

theorem exists_recorded_run (c : Connector) (client : Client ε)
    (h : ∀ query, (c.task client query).Opens p (opening query)) (ms : List Move) :
    ∃ owed, Recorded p opening ((start c client).run ms) owed := by
  have hstart : Recorded p opening (start c client) [] :=
    ⟨h, rfl, fun _ => rfl, by simp, by simp⟩
  have hstep (z w : Company ε) (h : Sound z ∧ ∃ owed, Recorded p opening z owed)
      (hw : Moved z w) : Sound w ∧ ∃ owed, Recorded p opening w owed := by
    obtain ⟨hz, owed, hrecorded⟩ := h
    exact ⟨hw.sound hz, hw.recorded hz hrecorded⟩
  exact (run_induction hstep ⟨sound_start c client, [], hstart⟩ ms).2

/-- In the end the record has what each query notes first, in the order of the first polls. -/
theorem Recorded.of_over (hz : Sound z) (h : Recorded p opening z owed) (hover : z.Over) :
    z.bundle.notes.filter p = (z.polled.map z.text).flatMap opening := by
  have howed : owed = [] := by
    cases hawaited : z.awaited with
    | none => exact h.settled hawaited
    | some i =>
        have hpolled := (hz.awaited i hawaited).1
        have hi := hz.bound i (.inl hpolled)
        have hx := List.getElem?_eq_getElem hi
        refine Classical.byContradiction fun howed => ?_
        have hdone := hover.isDone i _ hx hpolled
        rw [Task.isDone_of_opens (h.entering i _ hx hawaited).1 howed] at hdone
        contradiction
  rw [← h.record, howed, List.append_nil]

/-! ### What is noted so many times -/

/-- The record and what the streams that were polled have left to note make up `n` things for each
of them. -/
structure Tallied (p : Note ε → Bool) (n : Nat) (z : Company ε) (left : Nat → Nat) : Prop where
  counts : ∀ query, (z.execution query).task.Counts p n
  tasks : ∀ (i : Nat) x, z.bundle.executions[i]? = some x → x.task.Counts p (left i)
  unpolled : ∀ i, i ∉ z.polled → left i = n
  record : z.bundle.notes.countP p + (z.polled.map left).sum = z.polled.length * n

/-- When only one summand changes, so does the sum. -/
theorem sum_map_update {is : List Nat} (his : is.Nodup) {i : Nat} (hi : i ∈ is) (f : Nat → Nat)
    (m : Nat) :
    (is.map f).sum + m = (is.map fun j => if j = i then m else f j).sum + f i := by
  induction is with
  | nil => simp at hi
  | cons k rest ih =>
      obtain ⟨hk, hrest⟩ := List.nodup_cons.mp his
      by_cases hki : k = i
      · have hsame : (rest.map fun j => if j = i then m else f j) = rest.map f := by
          refine List.map_congr_left fun j hj => ?_
          rw [if_neg]
          rintro rfl
          exact hk (hki ▸ hj)
        simp only [List.map_cons, List.sum_cons, hsame, hki, if_true]
        omega
      · have := ih hrest ((List.mem_cons.mp hi).resolve_left fun h => hki h.symm)
        simp only [List.map_cons, List.sum_cons, hki, if_false]
        omega

variable {n : Nat} {left : Nat → Nat}

section Step

variable {i : Nat} {x y : Execution (Note ε)}

theorem Tallied.added (hz : Sound z) (h : Tallied p n z left) (query : String) :
    Tallied p n { z with bundle := z.bundle.add query, queries := z.queries ++ [query] } left := by
  refine ⟨h.counts, fun j x hx => ?_, h.unpolled, h.record⟩
  rcases added_or_kept hx with ⟨rfl, rfl⟩ | ⟨hj, hx⟩
  · have hnew : z.bundle.executions.length ∉ z.polled :=
      fun hpolled => Nat.lt_irrefl _ (hz.bound _ (.inl hpolled))
    rw [h.unpolled _ hnew]
    exact h.counts query
  · exact h.tasks j x hx

/-- What a step notes is no longer left to note. -/
theorem Tallied.sent (hz : Sound z) (h : Tallied p n z left)
    (hx : z.bundle.executions[i]? = some x) (hempty : x.notes = [])
    (hy : Execution.Produced x y) (hpolled : i ∈ z.polled) :
    ∃ left', Tallied p n { z with bundle := z.bundle.store i y } left' := by
  obtain ⟨es, m, hes, hleft, hm⟩ := hy.counts (h.tasks i x hx)
  refine ⟨fun j => if j = i then m else left j, h.counts, fun j v hv => ?_, fun j hj => ?_, ?_⟩
  · rcases stored_or_kept hx hv with ⟨rfl, rfl⟩ | ⟨hne, hv⟩
    · simpa using hm
    · simpa [hne] using h.tasks j v hv
  · have hne : j ≠ i := fun hij => hj (hij ▸ hpolled)
    simpa [hne] using h.unpolled j hj
  · have hsum := sum_map_update hz.nodup hpolled left m
    have hrecord := h.record
    simp only [notes_store hempty hes, List.countP_append]
    omega

theorem Tallied.turned (h : Tallied p n z left) (hx : z.bundle.executions[i]? = some x)
    (hempty : x.notes = []) {r : Option Poll} (hy : Execution.Turned x y r) :
    Tallied p n (z.turned i y r) left := by
  refine ⟨h.counts, fun j v hv => ?_, fun j hj => ?_, ?_⟩
  · rcases stored_or_kept hx hv with ⟨rfl, rfl⟩ | ⟨hne, hv⟩
    · show Task.Counts p y.task _
      rw [hy.task]
      exact h.tasks j x hx
    · exact h.tasks j v hv
  · exact h.unpolled j fun hpolled => hj (mem_enrol.mpr (.inl hpolled))
  · rw [notes_turned hempty hy, show (z.turned i y r).polled = enrol z.polled i from rfl, enrol]
    split
    · exact h.record
    · next hnew =>
        -- a stream that is polled for the first time has all of it left to note
        have hleft := h.unpolled i hnew
        have hrecord := h.record
        simp only [List.map_append, List.sum_append, List.length_append, List.map_singleton,
          List.sum_singleton, List.length_singleton, Nat.succ_mul, hleft]
        omega

theorem Tallied.dropped (h : Tallied p n z left) (hx : z.bundle.executions[i]? = some x)
    (hempty : x.notes = []) :
    Tallied p n { z with bundle := z.bundle.store i x.drop, dropped := i :: z.dropped } left := by
  refine ⟨h.counts, fun j v hv => ?_, h.unpolled, ?_⟩
  · rcases stored_or_kept hx hv with ⟨rfl, rfl⟩ | ⟨hne, hv⟩
    · exact h.tasks j x hx
    · exact h.tasks j v hv
  · rw [notes_dropped hempty]
    exact h.record

end Step

theorem Moved.tallied (hz : Sound z) (h : Tallied p n z left) (hw : Moved z w) :
    ∃ left', Tallied p n w left' := by
  cases hw with
  | idle => exact ⟨left, h⟩
  | added query hawaited => exact ⟨left, h.added hz query⟩
  | sent i x y hx hy hstarted =>
      obtain ⟨query, -, hmember⟩ := hz.member i x hx
      exact h.sent hz hx hmember.notes hy (hmember.polled.mp hstarted)
  | turned i x y r hx hy hi hawaited =>
      obtain ⟨query, -, hmember⟩ := hz.member i x hx
      exact ⟨left, h.turned hx hmember.notes hy⟩
  | dropped i x hx hawaited =>
      obtain ⟨query, -, hmember⟩ := hz.member i x hx
      exact ⟨left, h.dropped hx hmember.notes⟩

theorem exists_tallied_run (c : Connector) (client : Client ε)
    (h : ∀ query, (c.task client query).Counts p n) (ms : List Move) :
    ∃ left, Tallied p n ((start c client).run ms) left := by
  have hstart : Tallied p n (start c client) fun _ => n :=
    ⟨h, by simp, fun _ _ => rfl, by simp⟩
  have hstep (z w : Company ε) (h : Sound z ∧ ∃ left, Tallied p n z left) (hw : Moved z w) :
      Sound w ∧ ∃ left, Tallied p n w left := by
    obtain ⟨hz, left, htallied⟩ := h
    exact ⟨hw.sound hz, hw.tallied hz htallied⟩
  exact (run_induction hstep ⟨sound_start c client, _, hstart⟩ ms).2

/-- In the end the record has as many things as each query notes, for each that was polled. -/
theorem Tallied.of_over (hz : Sound z) (h : Tallied p n z left) (hover : z.Over) :
    z.bundle.notes.countP p = z.polled.length * n := by
  have hnone : ∀ i ∈ z.polled, left i = 0 := by
    intro i hi
    have hx := List.getElem?_eq_getElem (hz.bound i (.inl hi))
    exact Task.eq_zero_of_counts (h.tasks i _ hx) (hover.isDone i _ hx hi)
  have hsum : (z.polled.map left).sum = 0 := by
    rw [List.map_congr_left (g := fun _ => 0) hnone, List.map_const', List.sum_replicate_nat,
      Nat.mul_zero]
  have hrecord := h.record
  omega

end Company

end SqlConnector
