import SqlConnector.Catalog.Table
import SqlConnector.Proofs.Stream.Backpressure

/-!
First polls, which make the channels. A channel is made for as many deliveries as the settings say,
and one at least, but not for more than it can hold; settings are not held to this, so that the
first poll of a query breaks off when they ask for more. Main statement: when it does, and that no
later poll can.
-/

namespace SqlConnector

namespace Execution

variable {ε : Type}

/-! ### The capacity and the start of an execution -/

theorem capacity_move (x : Execution ε) (m : Move) : (x.move m).1.capacity = x.capacity := by
  cases m with
  | turn => exact (turned_turn x).capacity
  | send =>
      rcases stood_or_produced x with ⟨-, hsame⟩ | hproduce
      · rw [hsame]
      · exact (produced_of_produce? hproduce).2.capacity

theorem capacity_run (x : Execution ε) (ms : List Move) : (x.run ms).1.capacity = x.capacity := by
  induction ms generalizing x with
  | nil => rfl
  | cons m rest ih => exact (ih (x.move m).1).trans (capacity_move x m)

theorem started_run {x : Execution ε} (hx : x.started = true) (ms : List Move) :
    (x.run ms).1.started = true := by
  induction ms generalizing x with
  | nil => exact hx
  | cons m rest ih => exact ih (started_move hx m)

/-- A pass of a poll that has no answer yet starts the sending side. -/
theorem Turned.started_of_no_answer {x y : Execution ε} {p : Option Poll} (h : Turned x y p)
    (hanswer : x.answer? = none) : y.started = true := by
  obtain ⟨hnone, hlive⟩ := answer?_eq_none.mp hanswer
  cases h with
  | row r rest hpending => simp [hnone] at hpending
  | ended rest hpending => simp [hnone] at hpending
  | failed e rest hpending => simp [hnone] at hpending
  | past hpending hfinished => simp [hlive] at hfinished
  | received d rest hpending hfinished hchannel => rfl
  | lost hpending hfinished hchannel hdone => rfl
  | waited hpending hfinished hchannel hdone => rfl

/-- An execution is started by its first poll, whatever comes before and after it. -/
theorem started_run_of_turn {x : Execution ε} (hx : x.started = false) (hanswer : x.answer? = none)
    {ms : List Move} (hms : Move.turn ∈ ms) : (x.run ms).1.started = true := by
  obtain ⟨before, after, rfl, hbefore⟩ := List.eq_append_cons_of_mem hms
  have hstarted := (turned_turn x).started_of_no_answer hanswer
  rw [run_append, run_of_not_started hx hbefore]
  exact started_run hstarted after

/-! ### Polls that break off -/

theorem breaksOff_of_started {x : Execution ε} (hx : x.started = true) : x.breaksOff = false := by
  simp [breaksOff, hx]

/-- The first poll breaks off when the capacity is too large, and no other poll does. -/
theorem breaksOff_run_start (task : Task ε Unit) (n : Nat) (hn : 0 < n) (ms : List Move) :
    ((start task n hn).run ms).1.breaksOff = true ↔ maxCapacity < n ∧ Move.turn ∉ ms := by
  have hanswer : (start task n hn).answer? = none := rfl
  have hbefore : (start task n hn).started = false := rfl
  have hcapacity : (start task n hn).capacity = n := rfl
  by_cases hms : Move.turn ∈ ms
  · have hstarted := started_run_of_turn hbefore hanswer hms
    simp [breaksOff_of_started hstarted, hms]
  · rw [run_of_not_started hbefore hms]
    simp [breaksOff, hanswer, hcapacity, hms]

end Execution

namespace Connector

variable {ε : Type}

/-- Only a limit of none of the rows keeps a query from its first poll. -/
theorem breaksOff_iff (c : Connector) (client : Client ε) (query : String) (limit : Option Nat) :
    c.breaksOff client query limit = true ↔ Execution.maxCapacity < c.capacity ∧ limit ≠ some 0 := by
  have hstart := Execution.breaksOff_run_start (c.task client query) c.capacity c.capacity_pos []
  simp only [Execution.run, List.not_mem_nil, not_false_eq_true, and_true] at hstart
  rw [breaksOff, Bool.and_eq_true, execute, hstart, decide_eq_true_iff, and_comm]

end Connector

theorem Catalog.Table.breaksOff_iff {ε : Type} (t : Table ε) (call : Call) :
    t.breaksOff call = true ↔
      Execution.maxCapacity < t.connector.capacity ∧ ∀ query, call ≠ .rows query (some 0) := by
  cases call with
  | rows query limit => simp [breaksOff, Connector.breaksOff_iff]
  | _ => simp [breaksOff, Connector.breaksOff_iff]

open Execution (Move maxCapacity)

/-- A connector that is made of settings has a channel made for as many deliveries as these say, one
at least; this is within what a channel can hold exactly when the settings are. If so, no poll of
any query breaks off, whatever the two sides do in which order; if not, the first poll of every
query does, and with it every call on a table that polls at all. -/
theorem first_poll_breaks_off_iff {s : Settings} {locator : Option Locator} {c : Connector}
    (hc : Connector.ofSettings s locator = .ok c) {ε : Type} (client : Client ε) :
    (∀ (query : String) (ms : List Move),
      let x := ((c.execute client query).run ms).1
      x.capacity = max s.buffer.toNat 1 ∧
        (1 ≤ x.capacity ∧ x.capacity ≤ maxCapacity ↔ s.buffer.toNat ≤ maxCapacity) ∧
        (x.breaksOff = true ↔ maxCapacity < s.buffer.toNat ∧ Move.turn ∉ ms)) ∧
    ∀ (name : String) (call : Catalog.Call),
      Catalog.Table.breaksOff ⟨c, client, name⟩ call = true ↔
        maxCapacity < s.buffer.toNat ∧ ∀ query, call ≠ .rows query (some 0) := by
  have hcapacity := Connector.capacity_of_ofSettings hc
  have hone : 1 < maxCapacity := by decide
  have hlarge : maxCapacity < c.capacity ↔ maxCapacity < s.buffer.toNat := by
    rw [hcapacity]
    omega
  refine ⟨fun query ms => ⟨?_, ?_, ?_⟩, fun name call => ?_⟩
  · rw [Execution.capacity_run]
    exact hcapacity
  · rw [Execution.capacity_run, show (c.execute client query).capacity = _ from hcapacity]
    omega
  · rw [← hlarge]
    exact Execution.breaksOff_run_start (c.task client query) c.capacity c.capacity_pos ms
  · rw [Catalog.Table.breaksOff_iff, hlarge]

/-- The largest buffer that a channel can be made for. -/
theorem largest_buffer_opens :
    let s : Settings := { host := some "h", buffer := 2305843009213693951 }
    let client := (Rehearsal.Script.refusing "no").client
    ∃ c, Connector.ofSettings s none = .ok c ∧
      ∀ query ms, ((c.execute client query).run ms).1.breaksOff = false := by
  intro s client
  let c : Connector := ⟨.fixed ⟨"h", 8889⟩, s.session, 2305843009213693951, by decide⟩
  have hc : Connector.ofSettings s none = .ok c := rfl
  refine ⟨c, hc, fun query ms => ?_⟩
  obtain ⟨hbreaks, -⟩ := first_poll_breaks_off_iff hc client
  have hsmall : ¬maxCapacity < s.buffer.toNat := by decide
  rw [Bool.eq_false_iff]
  exact fun hbreak => hsmall ((hbreaks query ms).2.2.mp hbreak).1

/-- Settings with a buffer of one more are decoded, and a connector is made of them, but the first
poll of every query breaks off. -/
theorem larger_buffer_breaks_off :
    let text := "\x7b\"host\":\"h\",\"buffer\":2305843009213693952\x7d"
    ∃ s c, (Json.Document.read? text.toList).bind Settings.ofJson? = some s ∧
      Connector.ofSettings s none = .ok c ∧ c.capacity = maxCapacity + 1 ∧
      ∀ {ε : Type} (client : Client ε) query, (c.execute client query).breaksOff = true := by
  intro text
  let s : Settings := { host := some "h", buffer := 2305843009213693952 }
  let c : Connector := ⟨.fixed ⟨"h", 8889⟩, s.session, 2305843009213693952, by decide⟩
  exact ⟨s, c, by decide +kernel, rfl, rfl, fun client query => rfl⟩

end SqlConnector
