import Mathlib.Data.List.Induction
import SqlConnector.Proofs.Stream.Ending

/-!
The phases of an assembly. What a call of a live assembly can do is said once, in `Called`; from it
come the ways that lead from one phase to another, and what holds in each phase after any calls.
-/

namespace SqlConnector

/-- How many of some outputs are rows. -/
def Output.rowCount (outs : List Output) : Nat := outs.countP (!·.isFinal)

@[simp] theorem Output.rowCount_append (outs more : List Output) :
    rowCount (outs ++ more) = rowCount outs + rowCount more :=
  List.countP_append

theorem Output.rowCount_of_rows {outs : List Output} (h : ∀ o ∈ outs, o.isFinal = false) :
    rowCount outs = outs.length :=
  List.countP_eq_length.mpr (by simpa using h)

theorem Output.sealed_of_rows {outs : List Output} (h : ∀ o ∈ outs, o.isFinal = false) :
    Sealed false outs := by
  induction outs with
  | nil => rfl
  | cons o rest ih =>
      obtain ⟨ho, hrest⟩ := List.forall_mem_cons.mp h
      simpa [ho] using ih hrest

/-- Among rows there is no output of another kind. -/
theorem Output.not_mem_of_rows {outs : List Output} (h : ∀ o ∈ outs, o.isFinal = false)
    {o : Output} (ho : o.isFinal = true) : o ∉ outs := by
  intro hmem
  rw [h o hmem] at ho
  contradiction

namespace Assembly

open Output (Sealed rowCount rowCount_append rowCount_of_rows)

/-- The phases that can come after a phase. -/
def Phase.later : Phase → List Phase
  | awaitingColumns => [bufferingRows, draining, done, failed]
  | bufferingRows => [draining, done, failed]
  | draining => [done, failed]
  | done => []
  | failed => []

/-! ### One call -/

/-- What putting out rows comes to: all of them are put out, or those before one that does not fit,
which fails the assembly. -/
inductive Emitted (a : Assembly) (rows : List (List Cell)) : Assembly → List Output → Prop where
  | all (outs : List Output) (length : outs.length = rows.length)
      (only_rows : ∀ o ∈ outs, o.isFinal = false) :
      Emitted a rows { a with emitted := a.emitted + outs.length } outs
  | stopped (outs : List Output) (e : Failure) (only_rows : ∀ o ∈ outs, o.isFinal = false) :
      Emitted a rows
        { a with phase := .failed, queued := [], emitted := a.emitted + outs.length }
        (outs ++ [.failed e])

theorem Emitted.cons {a b : Assembly} {rows : List (List Cell)} {outs : List Output}
    (h : Emitted { a with emitted := a.emitted + 1 } rows b outs) (cells : List Cell) (r : Row) :
    Emitted a (cells :: rows) b (.row r :: outs) := by
  have hcount (outs : List Output) :
      a.emitted + 1 + outs.length = a.emitted + (Output.row r :: outs).length := by
    rw [List.length_cons]
    omega
  cases h with
  | all _ length only_rows =>
      simp only [hcount]
      exact .all _ (by simp [length]) (List.forall_mem_cons.mpr ⟨rfl, only_rows⟩)
  | stopped outs e only_rows =>
      simp only [hcount]
      exact .stopped (.row r :: outs) e (List.forall_mem_cons.mpr ⟨rfl, only_rows⟩)

theorem emitted_emit {a : Assembly} (h : a.isTerminal = false) (rows : List (List Cell)) :
    Emitted a rows (a.emit rows).1 (a.emit rows).2 := by
  induction rows generalizing a with
  | nil => exact .all [] rfl (by simp)
  | cons cells rest ih =>
      simp only [emit]
      split
      · exact (ih (a := { a with emitted := a.emitted + 1 }) h).cons cells _
      · rw [fail_of_live h]
        exact .stopped [] _ (by simp)

/-- All that a call of a live assembly can do. -/
inductive Called (a : Assembly) : Call → Assembly → List Output → Prop where
  | ignored (names : List String) (complete : Bool) (known : a.phase = .draining) :
      Called a (.deliver (.event (.columns names complete))) a []
  | named (names : List String) (unknown : a.phase ≠ .draining) :
      Called a (.deliver (.event (.columns names false)))
        { a with columns := a.columns ++ names } []
  | repeated (names : List String) (e : Failure) (unknown : a.phase ≠ .draining) :
      Called a (.deliver (.event (.columns names true)))
        { a with phase := .failed, columns := a.columns ++ names, queued := [] } [.failed e]
  | opened (names : List String) (unknown : a.phase ≠ .draining)
      (distinct : (a.columns ++ names).Nodup) {b : Assembly} {out : List Output}
      (emitted : Emitted
        { a with phase := .draining, columns := a.columns ++ names, queued := [] }
        a.queued.flatten b out) :
      Called a (.deliver (.event (.columns names true))) b out
  | held (batch : List (List Cell)) (unknown : a.phase ≠ .draining) :
      Called a (.deliver (.event (.data batch)))
        { a with phase := .bufferingRows, queued := a.queued ++ [batch] } []
  | handed (batch : List (List Cell)) (known : a.phase = .draining) {b : Assembly}
      {out : List Output} (emitted : Emitted a batch b out) :
      Called a (.deliver (.event (.data batch))) b out
  | succeeded : Called a (.deliver (.event .success)) { a with phase := .done } [.finished]
  | failed (c : Call) (e : Failure) (final : c.isFinal = true) :
      Called a c { a with phase := .failed, queued := [] } [.failed e]

theorem called_of_fail {a : Assembly} (h : a.isTerminal = false) {c : Call}
    (final : c.isFinal = true) (e : Failure) : Called a c (a.fail e).1 (a.fail e).2 := by
  rw [fail_of_live h]
  exact .failed c e final

theorem called_addColumns {a : Assembly} (h : a.isTerminal = false) (names : List String)
    (complete : Bool) : Called a (.deliver (.event (.columns names complete)))
      (a.addColumns names complete).1 (a.addColumns names complete).2 := by
  unfold addColumns
  split
  · next known => exact .ignored names complete known
  · next unknown =>
      cases complete with
      | false => exact .named names unknown
      | true =>
          simp only [Bool.not_true, Bool.false_eq_true, if_false, firstRepeated?_nil]
          cases hrepeated : repeated? (a.columns ++ names) with
          | some name =>
              simp only [fail_of_live (a := { a with columns := a.columns ++ names }) h]
              exact .repeated names _ unknown
          | none =>
              exact .opened names unknown (repeated?_eq_none.mp hrepeated) (emitted_emit rfl _)

theorem called_receive {a : Assembly} (h : a.isTerminal = false) (d : Delivery) :
    Called a (.deliver d) (a.receive d).1 (a.receive d).2 := by
  rw [receive.eq_def, if_neg (by simp [h])]
  match d with
  | .failed e => exact called_of_fail h rfl e
  | .event (.error message) => exact called_of_fail h rfl _
  | .event (.columns names complete) => exact called_addColumns h names complete
  | .event (.data batch) =>
      simp only [addRows]
      split
      · next known => exact .handed batch known (emitted_emit h batch)
      · next unknown => exact .held batch unknown
  | .event .success =>
      simp only [finish]
      split
      · exact called_of_fail h rfl _
      · exact .succeeded

theorem called_call {a : Assembly} (h : a.isTerminal = false) (c : Call) :
    Called a c (a.call c).1 (a.call c).2 := by
  cases c with
  | deliver d => exact called_receive h d
  | disconnect => exact called_of_fail h rfl _

/-! ### From phase to phase -/

/-- What holds of every call, with the assembly before it, the one after it and what it put out. -/
structure Forward (a b : Assembly) (out : List Output) : Prop where
  phase : b.phase = a.phase ∨ b.phase ∈ a.phase.later
  counter : b.emitted = a.emitted + rowCount out
  /-- The names are fixed from the time when they are known. -/
  columns : a.phase = .draining ∨ a.isTerminal = true → b.columns = a.columns
  finished : .finished ∈ out ↔ a.phase ≠ .done ∧ b.phase = .done
  failed : (∃ e, .failed e ∈ out) ↔ a.phase ≠ .failed ∧ b.phase = .failed
  /-- An end comes once, and after it nothing. -/
  ending : Sealed (!a.isTerminal && b.isTerminal) out
  closed : a.isTerminal = true → b = a ∧ out = []

theorem forward_of_isTerminal {a : Assembly} (h : a.isTerminal = true) : Forward a a [] where
  phase := .inl rfl
  counter := rfl
  columns _ := rfl
  finished := by simp
  failed := by simp
  ending := by rw [h]; rfl
  closed _ := ⟨rfl, rfl⟩

section

variable {p q : Phase}

theorem Phase.end_mem_later (hp : p.isTerminal = false) (hq : q.isTerminal = true) :
    q ∈ p.later := by
  cases p <;> cases q <;> simp_all [isTerminal, later]

/-- A phase before the end and before the names are known. -/
theorem Phase.waits (hp : p.isTerminal = false) (hne : p ≠ .draining) :
    p = .awaitingColumns ∨ p = .bufferingRows := by
  cases p <;> simp_all [isTerminal]

theorem Phase.draining_mem_later (hp : p.isTerminal = false) (hne : p ≠ .draining) :
    draining ∈ p.later := by
  cases p <;> simp_all [isTerminal, later]

theorem Phase.buffering_eq_or_mem_later (hp : p.isTerminal = false) (hne : p ≠ .draining) :
    bufferingRows = p ∨ bufferingRows ∈ p.later := by
  cases p <;> simp_all [isTerminal, later]

end

section Live

variable {a b : Assembly} {outs : List Output}

theorem phase_ne_of_live (h : a.isTerminal = false) : a.phase ≠ .done ∧ a.phase ≠ .failed := by
  constructor <;> intro hphase <;> simp [isTerminal, Phase.isTerminal, hphase] at h

/-- A call that puts out nothing but rows leaves the assembly live. -/
theorem forward_of_rows (ha : a.isTerminal = false) (hb : b.isTerminal = false)
    (hphase : b.phase = a.phase ∨ b.phase ∈ a.phase.later)
    (hcolumns : a.phase = .draining → b.columns = a.columns)
    (hrows : ∀ o ∈ outs, o.isFinal = false) (hcounter : b.emitted = a.emitted + outs.length) :
    Forward a b outs where
  phase := hphase
  counter := by rw [hcounter, rowCount_of_rows hrows]
  columns h := hcolumns (by simpa [ha] using h)
  finished := by
    have hnone := Output.not_mem_of_rows hrows (o := .finished) rfl
    simp [hnone, phase_ne_of_live hb]
  failed := by
    have hnone (e : Failure) := Output.not_mem_of_rows hrows (o := .failed e) rfl
    simp [hnone, phase_ne_of_live hb]
  ending := by
    rw [hb, Bool.and_false]
    exact Output.sealed_of_rows hrows
  closed h := by simp [ha] at h

/-- A call that puts out an end after some rows closes the assembly. -/
theorem forward_of_end (ha : a.isTerminal = false) {o : Output}
    (hend : o = .finished ∧ b.phase = .done ∨ (∃ e, o = .failed e) ∧ b.phase = .failed)
    (hcolumns : a.phase = .draining → b.columns = a.columns)
    (hrows : ∀ o ∈ outs, o.isFinal = false) (hcounter : b.emitted = a.emitted + outs.length) :
    Forward a b (outs ++ [o]) := by
  have hfinished := Output.not_mem_of_rows hrows (o := .finished) rfl
  have hfailed (e : Failure) := Output.not_mem_of_rows hrows (o := .failed e) rfl
  have hfinal : o.isFinal = true := by
    rcases hend with ⟨rfl, -⟩ | ⟨⟨e, rfl⟩, -⟩ <;> rfl
  have hterminal : b.phase.isTerminal = true := by
    rcases hend with ⟨-, hb⟩ | ⟨-, hb⟩ <;> rw [hb] <;> rfl
  refine ⟨.inr (Phase.end_mem_later ha hterminal), ?_, fun h => hcolumns (by simpa [ha] using h),
    ?_, ?_, ?_, fun h => by simp [ha] at h⟩
  · rw [hcounter, rowCount_append, rowCount_of_rows hrows]
    simp [rowCount, hfinal]
  · rcases hend with ⟨rfl, hb⟩ | ⟨⟨e, rfl⟩, hb⟩ <;> simp [hfinished, hb, phase_ne_of_live ha]
  · rcases hend with ⟨rfl, hb⟩ | ⟨⟨e, rfl⟩, hb⟩ <;> simp [hfailed, hb, phase_ne_of_live ha]
  · have hb : b.isTerminal = true := hterminal
    rw [ha, hb]
    exact (Output.sealed_of_rows hrows).append (by simp [hfinal])

theorem forward_of_end_alone (ha : a.isTerminal = false) {o : Output}
    (hend : o = .finished ∧ b.phase = .done ∨ (∃ e, o = .failed e) ∧ b.phase = .failed)
    (hcolumns : a.phase = .draining → b.columns = a.columns) (hcounter : b.emitted = a.emitted) :
    Forward a b [o] := by
  have h : Forward a b ([] ++ [o]) := forward_of_end ha hend hcolumns (by simp) hcounter
  rwa [List.nil_append] at h

end Live

/-- Rows that are put out by an assembly that knows the names, seen from the assembly before. -/
theorem Emitted.forward {a b c : Assembly} {rows : List (List Cell)} {out : List Output}
    (h : Emitted b rows c out) (ha : a.isTerminal = false) (hphase : b.phase = .draining)
    (hstep : b.phase = a.phase ∨ b.phase ∈ a.phase.later)
    (hcolumns : a.phase = .draining → b.columns = a.columns) (hcounter : b.emitted = a.emitted) :
    Forward a c out := by
  cases h with
  | all _ length only_rows =>
      have hlive : b.isTerminal = false := by
        rw [isTerminal, hphase]
        rfl
      exact forward_of_rows ha hlive hstep hcolumns only_rows (congrArg (· + out.length) hcounter)
  | stopped outs e only_rows =>
      exact forward_of_end ha (.inr ⟨⟨e, rfl⟩, rfl⟩) hcolumns only_rows
        (congrArg (· + outs.length) hcounter)

theorem Called.forward {a b : Assembly} {c : Call} {out : List Output} (h : Called a c b out)
    (ha : a.isTerminal = false) : Forward a b out := by
  cases h with
  | ignored names complete known =>
      exact forward_of_rows ha ha (.inl rfl) (fun _ => rfl) (by simp) rfl
  | named names unknown =>
      exact forward_of_rows ha ha (.inl rfl) (fun known => absurd known unknown) (by simp) rfl
  | repeated names e unknown =>
      exact forward_of_end_alone ha (.inr ⟨⟨e, rfl⟩, rfl⟩) (fun known => absurd known unknown) rfl
  | opened names unknown distinct emitted =>
      exact emitted.forward ha rfl (.inr (Phase.draining_mem_later ha unknown))
        (fun known => absurd known unknown) rfl
  | held batch unknown =>
      exact forward_of_rows ha rfl (Phase.buffering_eq_or_mem_later ha unknown)
        (fun known => absurd known unknown) (by simp) rfl
  | handed batch known emitted => exact emitted.forward ha known (.inl rfl) (fun _ => rfl) rfl
  | succeeded =>
      exact forward_of_end_alone ha (.inl ⟨rfl, rfl⟩) (fun _ => rfl) rfl
  | failed c e final =>
      exact forward_of_end_alone ha (.inr ⟨⟨e, rfl⟩, rfl⟩) (fun _ => rfl) rfl

theorem forward_call (a : Assembly) (c : Call) : Forward a (a.call c).1 (a.call c).2 := by
  cases h : a.isTerminal with
  | false => exact (called_call h c).forward h
  | true =>
      rw [call_of_isTerminal h]
      exact forward_of_isTerminal h

/-! ### Any calls -/

/-- How a new assembly stands after some calls, with all that they put out. -/
structure Stands (calls : List Call) (a : Assembly) (outs : List Output) : Prop where
  awaiting : a.phase = .awaitingColumns → a.queued = []
  buffering : a.phase = .bufferingRows → a.queued ≠ []
  /-- Until the names are known, nothing is put out and all rows are kept. -/
  silent : a.phase = .awaitingColumns ∨ a.phase = .bufferingRows →
    a.emitted = 0 ∧ outs = [] ∧ a.queued.flatten = Call.rows calls
  /-- Once the names are known, all rows that came are put out. -/
  draining : a.phase = .draining →
    a.queued = [] ∧ a.columns.Nodup ∧ a.emitted = (Call.rows calls).length
  failed : a.phase = .failed → a.queued = []
  counter : a.emitted = rowCount outs

theorem Call.rows_concat (calls : List Call) (c : Call) :
    rows (calls ++ [c]) = rows calls ++ c.batch := by
  simp

/-- An assembly that is over, with no rows left when it failed. -/
theorem stands_of_isTerminal {calls : List Call} {a : Assembly} {outs : List Output}
    (h : a.isTerminal = true) (hfailed : a.phase = .failed → a.queued = [])
    (hcounter : a.emitted = rowCount outs) : Stands calls a outs := by
  have hphase {p : Phase} (hp : p.isTerminal = false) : a.phase ≠ p := by
    rintro rfl
    rw [isTerminal, hp] at h
    contradiction
  exact ⟨fun h => absurd h (hphase rfl), fun h => absurd h (hphase rfl),
    fun h => h.elim (absurd · (hphase rfl)) (absurd · (hphase rfl)),
    fun h => absurd h (hphase rfl), hfailed, hcounter⟩

theorem stands_of_draining {calls : List Call} {a : Assembly} {outs : List Output}
    (hphase : a.phase = .draining) (hqueued : a.queued = []) (hnames : a.columns.Nodup)
    (hrows : a.emitted = (Call.rows calls).length) (hcounter : a.emitted = rowCount outs) :
    Stands calls a outs where
  awaiting h := by simp [hphase] at h
  buffering h := by simp [hphase] at h
  silent h := by simp [hphase] at h
  draining _ := ⟨hqueued, hnames, hrows⟩
  failed h := by simp [hphase] at h
  counter := hcounter

theorem Emitted.stands {calls : List Call} {a b : Assembly} {rows : List (List Cell)}
    {outs out : List Output} (h : Emitted a rows b out) (hphase : a.phase = .draining)
    (hqueued : a.queued = []) (hnames : a.columns.Nodup)
    (hrows : a.emitted + rows.length = (Call.rows calls).length)
    (hcounter : b.emitted = rowCount (outs ++ out)) : Stands calls b (outs ++ out) := by
  cases h with
  | all _ length only_rows =>
      exact stands_of_draining hphase hqueued hnames (length ▸ hrows) hcounter
  | stopped outs e only_rows => exact stands_of_isTerminal rfl (fun _ => rfl) hcounter

/-- What holds after some calls of a live assembly holds after one call more. -/
theorem Called.stands {calls : List Call} {a b : Assembly} {c : Call} {outs out : List Output}
    (h : Called a c b out) (ha : Stands calls a outs) (hlive : a.isTerminal = false)
    (hcounter : b.emitted = rowCount (outs ++ out)) : Stands (calls ++ [c]) b (outs ++ out) := by
  have hrows := Call.rows_concat calls c
  -- as long as the names are not known, nothing has been put out and all rows are held
  have hsilent (unknown : a.phase ≠ .draining) := ha.silent (Phase.waits hlive unknown)
  cases h with
  | ignored names complete known =>
      obtain ⟨hqueued, hnames, hemitted⟩ := ha.draining known
      refine stands_of_draining known hqueued hnames ?_ hcounter
      rw [hrows, hemitted]
      simp
  | named names unknown =>
      obtain ⟨hemitted, rfl, hheld⟩ := hsilent unknown
      refine ⟨ha.awaiting, ha.buffering, fun _ => ⟨hemitted, rfl, ?_⟩,
        fun known => absurd known unknown, ha.failed, hcounter⟩
      rw [hrows, ← hheld]
      simp
  | repeated names e unknown => exact stands_of_isTerminal rfl (fun _ => rfl) hcounter
  | opened names unknown distinct emitted =>
      obtain ⟨hemitted, rfl, hheld⟩ := hsilent unknown
      refine emitted.stands rfl rfl distinct ?_ hcounter
      rw [hrows, hheld, hemitted]
      simp
  | held batch unknown =>
      obtain ⟨hemitted, rfl, hheld⟩ := hsilent unknown
      refine ⟨by simp, by simp, fun _ => ⟨hemitted, rfl, ?_⟩, by simp, by simp, hcounter⟩
      rw [hrows, ← hheld]
      simp
  | handed batch known emitted =>
      obtain ⟨hqueued, hnames, hemitted⟩ := ha.draining known
      refine emitted.stands known hqueued hnames ?_ hcounter
      rw [hrows, hemitted, List.length_append]
      rfl
  | succeeded => exact stands_of_isTerminal rfl (by simp) hcounter
  | failed c e final => exact stands_of_isTerminal rfl (fun _ => rfl) hcounter

theorem Stands.call {calls : List Call} {a : Assembly} {outs : List Output}
    (h : Stands calls a outs) (c : Call) :
    Stands (calls ++ [c]) (a.call c).1 (outs ++ (a.call c).2) := by
  have hcounter : (a.call c).1.emitted = rowCount (outs ++ (a.call c).2) := by
    rw [(forward_call a c).counter, h.counter, rowCount_append]
  cases hterminal : a.isTerminal with
  | false => exact (called_call hterminal c).stands h hterminal hcounter
  | true =>
      rw [call_of_isTerminal hterminal] at hcounter ⊢
      exact stands_of_isTerminal hterminal h.failed hcounter

theorem stands_empty : Stands [] empty [] where
  awaiting _ := rfl
  buffering := by simp [empty]
  silent _ := ⟨rfl, rfl, rfl⟩
  draining := by simp [empty]
  failed := by simp [empty]
  counter := rfl

theorem stands_callAll (calls : List Call) :
    Stands calls (empty.callAll calls).1 (empty.callAll calls).2 := by
  induction calls using List.reverseRecOn with
  | nil => exact stands_empty
  | append_singleton calls c ih => simpa using ih.call c

/-- Names that are known are known from then on. -/
theorem Forward.known {a b : Assembly} {out : List Output} (h : Forward a b out)
    (ha : a.phase = .draining ∨ a.isTerminal = true) :
    b.phase = .draining ∨ b.isTerminal = true := by
  rcases ha with hphase | hterminal
  · rcases h.phase with hsame | hlater
    · exact .inl (hsame.trans hphase)
    · right
      simp only [hphase, Phase.later, List.mem_cons, List.not_mem_nil, or_false] at hlater
      rcases hlater with hend | hend <;> rw [isTerminal, hend] <;> rfl
  · rw [(h.closed hterminal).1]
    exact .inr hterminal

theorem columns_callAll {a : Assembly} (h : a.phase = .draining ∨ a.isTerminal = true)
    (calls : List Call) : (a.callAll calls).1.columns = a.columns := by
  induction calls generalizing a with
  | nil => rfl
  | cons c rest ih =>
      have hforward := forward_call a c
      exact (ih (hforward.known h)).trans (hforward.columns h)

/-- Some call of a new assembly leads from the one phase to the other. -/
def Phase.Leads (p q : Phase) : Prop :=
  ∃ calls c, (empty.callAll calls).1.phase = p ∧ ((empty.callAll calls).1.call c).1.phase = q

/-- Phases only come in their order, and each that is later than another can come next. -/
theorem mem_later_iff {p q : Phase} : q ∈ p.later ↔ p ≠ q ∧ p.Leads q := by
  constructor
  · intro h
    refine ⟨by rintro rfl; cases p <;> simp [Phase.later] at h, ?_⟩
    let names : Call := .deliver (.event (.columns [] true))
    let data : Call := .deliver (.event (.data []))
    let success : Call := .deliver (.event .success)
    match p, q with
    | .awaitingColumns, .bufferingRows => exact ⟨[], data, rfl, rfl⟩
    | .awaitingColumns, .draining => exact ⟨[], names, rfl, rfl⟩
    | .awaitingColumns, .done => exact ⟨[], success, rfl, rfl⟩
    | .awaitingColumns, .failed => exact ⟨[], .disconnect, rfl, rfl⟩
    | .bufferingRows, .draining => exact ⟨[data], names, rfl, rfl⟩
    | .bufferingRows, .done => exact ⟨[data], success, rfl, rfl⟩
    | .bufferingRows, .failed => exact ⟨[data], .disconnect, rfl, rfl⟩
    | .draining, .done => exact ⟨[names], success, rfl, rfl⟩
    | .draining, .failed => exact ⟨[names], .disconnect, rfl, rfl⟩
  · rintro ⟨hne, calls, c, rfl, rfl⟩
    exact (forward_call _ c).phase.resolve_left fun hsame => hne hsame.symm

/-- After any calls of a new assembly its phase says what it holds and what is out, and one call
more leads it on to a later phase or leaves it there, counts the rows that it puts out, and puts out
an end when that is the last phase, and then only. Names that are known stay, and an assembly that
is over changes no more. There are no other ways between the phases than to the later ones, and
these are all taken by some calls. -/
theorem phases_of_calls :
    (∀ calls : List Call,
      let a := (empty.callAll calls).1
      Stands calls a (empty.callAll calls).2 ∧
        (∀ c, Forward a (a.call c).1 (a.call c).2) ∧
        (a.phase = .draining → ∀ more, (a.callAll more).1.columns = a.columns) ∧
        (a.isTerminal = true → ∀ more, a.callAll more = (a, []))) ∧
    ∀ p q : Phase, q ∈ p.later ↔ p ≠ q ∧ p.Leads q := by
  refine ⟨fun calls => ⟨stands_callAll calls, fun c => forward_call _ c, ?_, ?_⟩,
    fun p q => mem_later_iff⟩
  · exact fun hphase more => columns_callAll (.inl hphase) more
  · exact fun hterminal more => callAll_of_isTerminal hterminal more

/-- A row that came before its name is out once the name is known, which no later list changes, and
nothing does after the end. -/
theorem names_stay_to_the_end :
    let calls : List Call := [.deliver (.event (.data [[.null]])),
      .deliver (.event (.columns ["a"] true))]
    let success : Call := .deliver (.event .success)
    let a := (empty.callAll calls).1
    let b := (empty.callAll (calls ++ [success])).1
    a.phase = .draining ∧ a.emitted = 1 ∧ (∀ more, (a.callAll more).1.columns = ["a"]) ∧
      b.isTerminal = true ∧ ∀ more, b.callAll more = (b, []) := by
  intro calls success a b
  obtain ⟨-, -, hnames, -⟩ := phases_of_calls.1 calls
  obtain ⟨-, -, -, hover⟩ := phases_of_calls.1 (calls ++ [success])
  exact ⟨rfl, rfl, hnames rfl, rfl, hover rfl⟩

end Assembly

end SqlConnector
