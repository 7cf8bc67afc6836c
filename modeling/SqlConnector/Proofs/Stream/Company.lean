import SqlConnector.Proofs.Stream.Answers
import SqlConnector.Proofs.Stream.Tally
import SqlConnector.Stream.Bundle

/-!
Several queries in company. One consumer adds queries, polls them and drops them, and awaits the
answer to each poll before it does anything else; the sending sides move at any time. None of the
queries makes a difference to the answers of another, and the common record has what each of those
that were polled does.
-/

namespace SqlConnector

/-- Queries of one consumer, and what has become of them: their texts, the one whose answer is
awaited, those that were polled, first things first, those that were dropped, and all answers. -/
structure Company (ε : Type) where
  bundle : Bundle ε
  queries : List String
  awaited : Option Nat
  polled : List Nat
  dropped : List Nat
  answers : List (Nat × Answer)

namespace Company

variable {ε : Type}

def start (c : Connector) (client : Client ε) : Company ε := ⟨.start c client, [], none, [], [], []⟩

@[simp] theorem start_bundle (c : Connector) (client : Client ε) :
    (start c client).bundle = .start c client := rfl

@[simp] theorem start_awaited (c : Connector) (client : Client ε) :
    (start c client).awaited = none := rfl

@[simp] theorem start_polled (c : Connector) (client : Client ε) :
    (start c client).polled = [] := rfl

@[simp] theorem start_dropped (c : Connector) (client : Client ε) :
    (start c client).dropped = [] := rfl

inductive Move where
  | add (query : String)
  | send (i : Nat)
  | turn (i : Nat)
  | drop (i : Nat)

/-- The streams that were polled, when one of them is. -/
def enrol (polled : List Nat) (i : Nat) : List Nat := if i ∈ polled then polled else polled ++ [i]

/-- A pass of a poll has led to this. -/
def turned (z : Company ε) (i : Nat) (y : Execution (Note ε)) (p : Option Poll) : Company ε :=
  let answer? := p.bind Poll.answer?
  { z with
    bundle := z.bundle.store i y
    awaited := if answer?.isSome then none else some i
    polled := enrol z.polled i
    answers := z.answers ++ (answer?.map fun answer => (i, answer)).toList }

/-- What comes of a move. Nothing does if there is no such stream, if the sending side has to wait,
if the stream was dropped, or while the answer of another one is awaited. -/
def move (z : Company ε) : Move → Company ε
  | .add query =>
      if z.awaited.isNone then
        { z with bundle := z.bundle.add query, queries := z.queries ++ [query] }
      else z
  | .send i =>
      match z.bundle.executions[i]?.bind Execution.produce? with
      | some y => { z with bundle := z.bundle.store i y }
      | none => z
  | .turn i =>
      match z.bundle.executions[i]? with
      | some x =>
          if i ∉ z.dropped ∧ (z.awaited.getD i = i) then z.turned i x.turn.1 x.turn.2 else z
      | none => z
  | .drop i =>
      match z.bundle.executions[i]? with
      | some x =>
          if z.awaited.isNone then
            { z with bundle := z.bundle.store i x.drop, dropped := i :: z.dropped }
          else z
      | none => z

def run (z : Company ε) (ms : List Move) : Company ε := ms.foldl move z

/-- All that can come of a move. -/
inductive Moved (z : Company ε) : Company ε → Prop where
  | idle : Moved z z
  | added (query : String) (hawaited : z.awaited = none) :
      Moved z { z with bundle := z.bundle.add query, queries := z.queries ++ [query] }
  | sent (i : Nat) (x y : Execution (Note ε)) (hx : z.bundle.executions[i]? = some x)
      (hy : Execution.Produced x y) (hstarted : x.started = true) :
      Moved z { z with bundle := z.bundle.store i y }
  | turned (i : Nat) (x y : Execution (Note ε)) (p : Option Poll)
      (hx : z.bundle.executions[i]? = some x) (hy : Execution.Turned x y p) (hi : i ∉ z.dropped)
      (hawaited : z.awaited = none ∨ z.awaited = some i) : Moved z (z.turned i y p)
  | dropped (i : Nat) (x : Execution (Note ε)) (hx : z.bundle.executions[i]? = some x)
      (hawaited : z.awaited = none) :
      Moved z { z with bundle := z.bundle.store i x.drop, dropped := i :: z.dropped }

theorem moved_move (z : Company ε) (m : Move) : Moved z (z.move m) := by
  cases m with
  | add query =>
      simp only [move]
      split
      · next h => exact .added query (Option.isNone_iff_eq_none.mp h)
      · exact .idle
  | send i =>
      simp only [move]
      split
      · next y h =>
          obtain ⟨x, hx, hy⟩ := Option.bind_eq_some_iff.mp h
          obtain ⟨hstarted, hproduced⟩ := Execution.produced_of_produce? hy
          exact .sent i x y hx hproduced hstarted
      · exact .idle
  | turn i =>
      simp only [move]
      split
      · next x hx =>
          split
          · next h =>
              obtain ⟨hi, hawaited⟩ := h
              refine .turned i x _ _ hx (Execution.turned_turn x) hi ?_
              cases h : z.awaited with
              | none => exact .inl rfl
              | some j =>
                  rw [h] at hawaited
                  exact .inr (congrArg some hawaited)
          · exact .idle
      · exact .idle
  | drop i =>
      simp only [move]
      split
      · next x hx =>
          split
          · next h => exact .dropped i x hx (Option.isNone_iff_eq_none.mp h)
          · exact .idle
      · exact .idle

theorem run_append (z : Company ε) (ms ns : List Move) : z.run (ms ++ ns) = (z.run ms).run ns :=
  List.foldl_append

/-- What every move keeps holds after any number of moves. -/
theorem run_induction {P : Company ε → Prop} (hP : ∀ z w, P z → Moved z w → P w) {z : Company ε}
    (hz : P z) (ms : List Move) : P (z.run ms) := by
  induction ms generalizing z with
  | nil => exact hz
  | cons m rest ih => exact ih (hP z _ hz (moved_move z m))

/-! ### What holds of every stream -/

/-- What a query is before its first poll. -/
def execution (z : Company ε) (query : String) : Execution (Note ε) :=
  z.bundle.connector.execute z.bundle.client query

/-- The answers of one stream. -/
def ofStream (i : Nat) (answers : List (Nat × Answer)) : List Answer :=
  answers.filterMap fun (j, answer) => if j = i then some answer else none

def told (z : Company ε) (i : Nat) : List Answer := ofStream i z.answers

/-- What holds of the stream `i`, which is that of a query. -/
structure Member (z : Company ε) (i : Nat) (query : String) (x : Execution (Note ε)) : Prop where
  notes : x.notes = []
  polled : x.started = true ↔ i ∈ z.polled
  sound : i ∉ z.dropped → x.Sound
  gone : i ∈ z.dropped → x.listening = false
  fresh : i ∉ z.polled → x.task = (z.execution query).task ∧ x.channel = []
  /-- It was answered with the first items of the query, and goes on with the rest. -/
  told : ∃ k, z.told i = (List.range k).map ((z.execution query).future[·]?) ∧
    (i ∉ z.dropped → x.future = (z.execution query).future.drop k)

structure Sound (z : Company ε) : Prop where
  length : z.queries.length = z.bundle.executions.length
  member : ∀ i x, z.bundle.executions[i]? = some x →
    ∃ query, z.queries[i]? = some query ∧ z.Member i query x
  nodup : z.polled.Nodup
  bound : ∀ i, i ∈ z.polled ∨ i ∈ z.dropped → i < z.bundle.executions.length
  awaited : ∀ i, z.awaited = some i → i ∈ z.polled ∧ i ∉ z.dropped
  untold : ∀ i, z.bundle.executions.length ≤ i → z.told i = []

theorem sound_start (c : Connector) (client : Client ε) : Sound (start c client) :=
  ⟨rfl, by simp, .nil, by simp, by simp, fun _ _ => rfl⟩

@[simp] theorem mem_enrol {polled : List Nat} {i j : Nat} :
    j ∈ enrol polled i ↔ j ∈ polled ∨ j = i := by
  unfold enrol
  split
  · next h =>
      refine ⟨.inl, ?_⟩
      rintro (hj | rfl)
      · exact hj
      · exact h
  · simp

theorem nodup_enrol {polled : List Nat} (h : polled.Nodup) (i : Nat) : (enrol polled i).Nodup := by
  unfold enrol
  split
  · exact h
  · next hi =>
      rw [List.nodup_append]
      refine ⟨h, by simp, fun j hj k hk => ?_⟩
      rw [List.mem_singleton.mp hk]
      rintro rfl
      exact hi hj

section Store

variable {b : Bundle ε} {i j : Nat} {x y w : Execution (Note ε)}

@[simp] theorem length_store : (b.store i y).executions.length = b.executions.length := by
  simp [Bundle.store]

/-- A stream is the one stored or another one, which is as it was. -/
theorem stored_or_kept (hx : b.executions[i]? = some x)
    (hw : (b.store i y).executions[j]? = some w) :
    (j = i ∧ w = { y with notes := [] }) ∨ (j ≠ i ∧ b.executions[j]? = some w) := by
  have hi : i < b.executions.length := (List.getElem?_eq_some_iff.mp hx).1
  simp only [Bundle.store, List.getElem?_set, hi, if_true] at hw
  split at hw
  · next h => exact .inl ⟨h.symm, (Option.some.inj hw).symm⟩
  · next h => exact .inr ⟨fun hj => h hj.symm, hw⟩

theorem notes_store (hx : x.notes = []) {es : List (Note ε)} (hy : y.notes = x.notes ++ es) :
    (b.store i y).notes = b.notes ++ es := by
  rw [Bundle.store, hy, hx, List.nil_append]

end Store

/-- A stream is the one added, which comes after all others, or one of these, which is as it was. -/
theorem added_or_kept {z : Company ε} {query : String} {j : Nat} {x : Execution (Note ε)}
    (hx : (z.bundle.add query).executions[j]? = some x) :
    (j = z.bundle.executions.length ∧ x = z.execution query) ∨
      (j < z.bundle.executions.length ∧ z.bundle.executions[j]? = some x) := by
  by_cases hj : j < z.bundle.executions.length
  · rw [Bundle.add, List.getElem?_append_left hj] at hx
    exact .inr ⟨hj, hx⟩
  · have hlast : j = z.bundle.executions.length := by
      have hlt : j < (z.bundle.add query).executions.length := (List.getElem?_eq_some_iff.mp hx).1
      simp only [Bundle.add, List.length_append, List.length_singleton] at hlt
      omega
    rw [Bundle.add, hlast] at hx
    exact .inl ⟨hlast, by simpa [execution] using hx.symm⟩

/-- An answer that is awaited after a pass is that of the stream that was polled. -/
theorem eq_of_awaited_turned {z : Company ε} {i j : Nat} {y : Execution (Note ε)} {p : Option Poll}
    (h : (z.turned i y p).awaited = some j) : i = j := by
  simp only [turned] at h
  split at h
  · contradiction
  · exact Option.some.inj h

theorem started_of_turned {x y : Execution (Note ε)} {p : Option Poll}
    (h : Execution.Turned x y p) (hx : x.Sound) : y.started = true := by
  cases h with
  | row r rest hpending => exact hx.started hpending
  | ended rest hpending => exact hx.started hpending
  | failed e rest hpending => exact hx.started hpending
  | past hpending hfinished =>
      cases hstarted : x.started with
      | true => rfl
      | false => simp [(hx.unstarted hstarted).2] at hfinished
  | received d rest hpending hfinished hchannel => rfl
  | lost hpending hfinished hchannel hdone => rfl
  | waited hpending hfinished hchannel hdone => rfl

theorem told_turned (z : Company ε) (i j : Nat) (y : Execution (Note ε)) (p : Option Poll) :
    (z.turned i y p).told j =
      z.told j ++ if j = i then (p.bind Poll.answer?).toList else [] := by
  simp only [told, ofStream, turned, List.filterMap_append]
  congr 1
  cases p.bind Poll.answer? with
  | none => simp
  | some answer =>
      by_cases h : i = j
      · simp [h]
      · have h' : j ≠ i := fun hj => h hj.symm
        simp [h, h']

/-- Another stream does not notice what happens to one. -/
theorem Member.of_other {z w : Company ε} {i : Nat} {query : String} {x : Execution (Note ε)}
    (h : z.Member i query x) (hpolled : i ∈ w.polled ↔ i ∈ z.polled)
    (hdropped : i ∈ w.dropped ↔ i ∈ z.dropped) (hexecution : w.execution query = z.execution query)
    (htold : w.told i = z.told i) : w.Member i query x where
  notes := h.notes
  polled := by rw [hpolled, h.polled]
  sound := by rw [hdropped]; exact h.sound
  gone := by rw [hdropped]; exact h.gone
  fresh := by rw [hpolled, hexecution]; exact h.fresh
  told := by rw [htold, hdropped, hexecution]; exact h.told

theorem Member.of_sent {z : Company ε} {i : Nat} {query : String} {x y : Execution (Note ε)}
    (h : z.Member i query x) (hy : Execution.Produced x y) (hstarted : x.started = true) :
    z.Member i query { y with notes := [] } where
  notes := rfl
  polled := by
    rw [← h.polled]
    exact iff_of_true (hy.started.trans hstarted) hstarted
  sound hi :=
    have hsound := hy.sound (h.sound hi)
    ⟨hsound.listening, hsound.ended, hsound.closed, hsound.unstarted⟩
  gone hi := hy.listening.trans (h.gone hi)
  fresh hi := absurd (h.polled.mp hstarted) hi
  told := by
    obtain ⟨k, htold, hfuture⟩ := h.told
    exact ⟨k, htold, fun hi => (hy.future (h.sound hi)).trans (hfuture hi)⟩

theorem Member.of_turned {z : Company ε} {i : Nat} {query : String} {x y : Execution (Note ε)}
    {p : Option Poll} (h : z.Member i query x) (hy : Execution.Turned x y p)
    (hi : i ∉ z.dropped) : (z.turned i y p).Member i query { y with notes := [] } where
  notes := rfl
  polled :=
    have hstarted := started_of_turned hy (h.sound hi)
    iff_of_true hstarted (mem_enrol.mpr (.inr rfl))
  sound _ :=
    have hsound := hy.sound (h.sound hi)
    ⟨hsound.listening, hsound.ended, hsound.closed, hsound.unstarted⟩
  gone hi' := absurd hi' hi
  fresh hi' := absurd (mem_enrol.mpr (.inr rfl)) hi'
  told := by
    obtain ⟨k, htold, hfuture⟩ := h.told
    have hconsumed := hy.future (h.sound hi)
    rw [hfuture hi] at hconsumed
    have hsame : (z.turned i y p).execution query = z.execution query := rfl
    rw [told_turned, if_pos rfl, htold, hsame]
    match p, hconsumed with
    | none, hkept => exact ⟨k, by simp, fun _ => hkept⟩
    | some .pending, hkept => exact ⟨k, by simp, fun _ => hkept⟩
    | some (.ready answer), ⟨hanswer, htail⟩ =>
        refine ⟨k + 1, ?_, fun _ => ?_⟩
        · rw [List.range_succ, List.map_append, hanswer]
          simp
        · show y.future = _
          rw [htail, List.tail_drop]

theorem Member.of_dropped {z : Company ε} {i : Nat} {query : String} {x : Execution (Note ε)}
    (h : z.Member i query x) :
    Member { z with bundle := z.bundle.store i x.drop, dropped := i :: z.dropped } i query
      { x.drop with notes := [] } where
  notes := rfl
  polled := h.polled
  sound hi := absurd List.mem_cons_self hi
  gone _ := rfl
  fresh hi := ⟨(h.fresh hi).1, rfl⟩
  told := by
    obtain ⟨k, htold, -⟩ := h.told
    exact ⟨k, htold, fun hi => absurd List.mem_cons_self hi⟩

section Step

variable {z : Company ε} {i : Nat} {x y : Execution (Note ε)}

theorem Sound.added (hz : Sound z) (query : String) :
    Sound { z with bundle := z.bundle.add query, queries := z.queries ++ [query] } := by
  have hlength : (z.bundle.add query).executions.length = z.bundle.executions.length + 1 := by
    simp [Bundle.add]
  refine ⟨by simp [hlength, hz.length], fun j x hx => ?_, hz.nodup, fun j hj => ?_, hz.awaited,
    fun j hj => ?_⟩
  · rcases added_or_kept hx with ⟨rfl, rfl⟩ | ⟨hj, hx⟩
    · -- the new stream was neither polled nor dropped, and nothing was answered to it
      have hnew := not_or.mp fun h => Nat.lt_irrefl _ (hz.bound z.bundle.executions.length h)
      refine ⟨query, by simp [← hz.length], rfl, iff_of_false (by simp [execution]) hnew.1,
        fun _ => Execution.sound_start _ _ _, fun h => absurd h hnew.2, fun _ => ⟨rfl, rfl⟩, 0, hz.untold _ (Nat.le_refl _),
        fun _ => rfl⟩
    · obtain ⟨query', hquery, hmember⟩ := hz.member j x hx
      refine ⟨query', ?_, hmember.of_other .rfl .rfl rfl rfl⟩
      rw [List.getElem?_append_left (hz.length ▸ hj), hquery]
  · have hlt := hz.bound j hj
    show j < (z.bundle.add query).executions.length
    omega
  · have hle : (z.bundle.add query).executions.length ≤ j := hj
    exact hz.untold j (by omega)

theorem Sound.sent (hz : Sound z) (hx : z.bundle.executions[i]? = some x)
    (hy : Execution.Produced x y) (hstarted : x.started = true) :
    Sound { z with bundle := z.bundle.store i y } := by
  refine ⟨by rw [length_store, hz.length], fun j w hw => ?_, hz.nodup, fun j hj => ?_,
    hz.awaited, fun j hj => hz.untold j (length_store ▸ hj)⟩
  · rcases stored_or_kept hx hw with ⟨rfl, rfl⟩ | ⟨hne, hw⟩
    · obtain ⟨query, hquery, hmember⟩ := hz.member j x hx
      exact ⟨query, hquery, (hmember.of_sent hy hstarted).of_other .rfl .rfl rfl rfl⟩
    · obtain ⟨query, hquery, hmember⟩ := hz.member j w hw
      exact ⟨query, hquery, hmember.of_other .rfl .rfl rfl rfl⟩
  · rw [length_store]
    exact hz.bound j hj

theorem Sound.turned (hz : Sound z) (hx : z.bundle.executions[i]? = some x) {p : Option Poll}
    (hy : Execution.Turned x y p) (hi : i ∉ z.dropped) : Sound (z.turned i y p) := by
  have hin : i < z.bundle.executions.length := (List.getElem?_eq_some_iff.mp hx).1
  have hlength : (z.turned i y p).bundle.executions.length = z.bundle.executions.length :=
    length_store
  refine ⟨by rw [hlength]; exact hz.length, fun j w hw => ?_, nodup_enrol hz.nodup i,
    fun j hj => ?_, fun j hj => ?_, fun j hj => ?_⟩
  · rcases stored_or_kept hx hw with ⟨rfl, rfl⟩ | ⟨hne, hw⟩
    · obtain ⟨query, hquery, hmember⟩ := hz.member j x hx
      exact ⟨query, hquery, hmember.of_turned hy hi⟩
    · obtain ⟨query, hquery, hmember⟩ := hz.member j w hw
      refine ⟨query, hquery, hmember.of_other ?_ .rfl rfl ?_⟩
      · simp [Company.turned, mem_enrol, hne]
      · rw [told_turned, if_neg hne, List.append_nil]
  · rw [hlength]
    rcases hj with hj | hj
    · rcases mem_enrol.mp hj with hj | rfl
      · exact hz.bound j (.inl hj)
      · exact hin
    · exact hz.bound j (.inr hj)
  · obtain rfl : i = j := eq_of_awaited_turned hj
    exact ⟨mem_enrol.mpr (.inr rfl), hi⟩
  · rw [hlength] at hj
    have hne : j ≠ i := by omega
    rw [told_turned, if_neg hne, hz.untold j hj, List.append_nil]

theorem Sound.dropped (hz : Sound z) (hx : z.bundle.executions[i]? = some x)
    (hawaited : z.awaited = none) :
    Sound { z with bundle := z.bundle.store i x.drop, dropped := i :: z.dropped } := by
  have hin : i < z.bundle.executions.length := (List.getElem?_eq_some_iff.mp hx).1
  refine ⟨by rw [length_store, hz.length], fun j w hw => ?_, hz.nodup, fun j hj => ?_,
    by simp [hawaited], fun j hj => hz.untold j (length_store ▸ hj)⟩
  · rcases stored_or_kept hx hw with ⟨rfl, rfl⟩ | ⟨hne, hw⟩
    · obtain ⟨query, hquery, hmember⟩ := hz.member j x hx
      exact ⟨query, hquery, hmember.of_dropped⟩
    · obtain ⟨query, hquery, hmember⟩ := hz.member j w hw
      exact ⟨query, hquery, hmember.of_other .rfl (by simp [hne]) rfl rfl⟩
  · rw [length_store]
    rcases hj with hj | hj
    · exact hz.bound j (.inl hj)
    · rcases List.mem_cons.mp hj with rfl | hj
      · exact hin
      · exact hz.bound j (.inr hj)

end Step

/-- No move breaks what holds of every stream. -/
theorem Moved.sound {z w : Company ε} (hz : Sound z) (h : Moved z w) : Sound w := by
  cases h with
  | idle => exact hz
  | added query hawaited => exact hz.added query
  | sent i x y hx hy hstarted => exact hz.sent hx hy hstarted
  | turned i x y p hx hy hi hawaited => exact hz.turned hx hy hi
  | dropped i x hx hawaited => exact hz.dropped hx hawaited

theorem sound_run (c : Connector) (client : Client ε) (ms : List Move) :
    Sound ((start c client).run ms) :=
  run_induction (fun _ _ hz h => h.sound hz) (sound_start c client) ms

/-- All queries are sent by the same connector to the same client. -/
theorem execution_run (c : Connector) (client : Client ε) (ms : List Move) (query : String) :
    ((start c client).run ms).execution query = c.execute client query := by
  refine run_induction (P := fun z => z.execution query = c.execute client query)
    (fun z w hz hw => ?_) rfl ms
  cases hw <;> exact hz

end Company

end SqlConnector
