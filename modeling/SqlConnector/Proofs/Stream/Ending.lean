import SqlConnector.Proofs.Stream.Outputs

/-!
How outputs end. A live assembly puts out rows, and an end after them exactly when it is over then.
Before the first final call it is over only when the names repeat or a row does not fit.
-/

namespace SqlConnector

/-- Whether a failure is about the names or the rows themselves. -/
def Failure.isMisfit : Failure → Bool
  | .duplicateColumn _ => true
  | .columnCountMismatch .. => true
  | _ => false

def Output.isFinal : Output → Bool
  | .row _ => false
  | _ => true

@[simp] theorem Output.isFinal_row (r : Row) : (row r).isFinal = false := rfl

/-- Rows, with a final output after them exactly when it is `closed`. -/
@[simp] def Output.Sealed (closed : Bool) : List Output → Prop
  | [] => closed = false
  | o :: rest => if o.isFinal then closed = true ∧ rest = [] else Sealed closed rest

theorem Output.Sealed.append {closed : Bool} {xs ys : List Output} (hxs : Sealed false xs)
    (hys : Sealed closed ys) : Sealed closed (xs ++ ys) := by
  induction xs with
  | nil => exact hys
  | cons o rest ih =>
      cases ho : o.isFinal with
      | true => simp [ho] at hxs
      | false =>
          simp only [Sealed, ho, Bool.false_eq_true, if_false] at hxs
          simpa [ho] using ih hxs

theorem Output.Sealed.eq_false_of_rows {closed : Bool} {outs : List Output} (h : Sealed closed outs)
    (hrows : ∀ o ∈ outs, o.isFinal = false) : closed = false := by
  induction outs with
  | nil => exact h
  | cons o rest ih =>
      simp only [Sealed, hrows o List.mem_cons_self, Bool.false_eq_true, if_false] at h
      exact ih h fun o ho => hrows o (List.mem_cons_of_mem _ ho)

namespace Assembly

open Output (Sealed)

theorem sealed_fail {a : Assembly} (h : a.isTerminal = false) (e : Failure) :
    Sealed (a.fail e).1.isTerminal (a.fail e).2 := by
  rw [fail_of_live h]
  exact ⟨rfl, rfl⟩

theorem sealed_emit {a : Assembly} (h : a.isTerminal = false) (rows : List (List Cell)) :
    Sealed (a.emit rows).1.isTerminal (a.emit rows).2 := by
  induction rows generalizing a with
  | nil => exact h
  | cons cells rest ih =>
      simp only [emit]
      split
      · exact ih (a := { a with emitted := a.emitted + 1 }) h
      · exact sealed_fail h _

/-- What a live assembly puts out for a delivery has an end exactly when the assembly is over. -/
theorem sealed_receive {a : Assembly} (h : a.isTerminal = false) (d : Delivery) :
    Sealed (a.receive d).1.isTerminal (a.receive d).2 := by
  simp only [receive, h, Bool.false_eq_true, if_false]
  cases d with
  | failed e => exact sealed_fail h e
  | event e =>
      cases e with
      | error message => exact sealed_fail h _
      | columns names complete =>
          simp only [addColumns]
          split
          · exact h
          · split
            · exact h
            · split
              · exact sealed_fail (a := { a with columns := a.columns ++ names }) h _
              · exact sealed_emit rfl _
      | data batch =>
          simp only [addRows]
          split
          · exact sealed_emit h batch
          · rfl
      | success =>
          simp only [finish]
          split
          · exact sealed_fail h _
          · exact ⟨rfl, rfl⟩

theorem disconnect_of_live {a : Assembly} (h : a.isTerminal = false) :
    a.disconnect = ({ a with phase := .failed, queued := [] },
      [.failed (.protocol "wire client finished without a terminal signal")]) :=
  fail_of_live h _

theorem sealed_call {a : Assembly} (h : a.isTerminal = false) (c : Call) :
    Sealed (a.call c).1.isTerminal (a.call c).2 := by
  cases c with
  | deliver d => exact sealed_receive h d
  | disconnect => exact sealed_fail h _

/-- Over many calls too there is an end exactly when the assembly is over. -/
theorem sealed_callAll {a : Assembly} (h : a.isTerminal = false) (calls : List Call) :
    Sealed (a.callAll calls).1.isTerminal (a.callAll calls).2 := by
  induction calls generalizing a with
  | nil => exact h
  | cons c rest ih =>
      have hsealed := sealed_call h c
      simp only [callAll]
      cases hnext : (a.call c).1.isTerminal with
      | true =>
          rw [callAll_of_isTerminal hnext, List.append_nil]
          exact hsealed
      | false =>
          rw [hnext] at hsealed
          exact hsealed.append (ih hnext)

/-! ### An end before the first final call -/

theorem Call.leading_append {calls : List Call} (h : ∀ c ∈ calls, c.isFinal = false)
    (more : List Call) : leading (calls ++ more) = calls ++ leading more :=
  List.takeWhile_append_of_pos (by simpa using h)

theorem Call.closing_append {calls : List Call} (h : ∀ c ∈ calls, c.isFinal = false)
    (stranded : Bool) (more : List Call) :
    closing stranded (calls ++ more) = closing stranded more := by
  have hnone : calls.find? isFinal = none := List.find?_eq_none.mpr (by simpa using h)
  rw [closing, List.find?_append, hnone, Option.none_or, closing]

/-- Whether rows fit under names that do not repeat, if there are names. -/
def Fits (names? : Option (List String)) (rows : List (List Cell)) : Prop :=
  ∀ names, names? = some names → names.Nodup ∧ ∀ cells ∈ rows, cells.length = names.length

theorem laidOut_of_fits {names : List String} {rows : List (List Cell)}
    (h : ∀ cells ∈ rows, cells.length = names.length) (n : Nat) (ending : List Output) :
    laidOut names n rows ending = rows.map (fun cells => .row (names.zip cells)) ++ ending := by
  induction rows generalizing n with
  | nil => exact laidOut_nil names n ending
  | cons cells rest ih =>
      rw [laidOut_cons_of_fits (h cells List.mem_cons_self), ih fun cells hcells =>
        h cells (List.mem_cons_of_mem _ hcells)]
      rfl

theorem laidOutUnder_of_fits {names : List String} {rows : List (List Cell)}
    (h : Fits (some names) rows) (ending : List Output) :
    laidOutUnder names rows ending = rows.map (fun cells => .row (names.zip cells)) ++ ending := by
  obtain ⟨hnodup, hrows⟩ := h names rfl
  simp only [laidOutUnder, repeated?_eq_none.mpr hnodup]
  exact laidOut_of_fits hrows 0 ending

theorem exists_laidOut_of_not_fits {names : List String} {rows : List (List Cell)}
    (h : ¬∀ cells ∈ rows, cells.length = names.length) (n : Nat) :
    ∃ outs e, e.isMisfit = true ∧
      ∀ ending, laidOut names n rows ending = outs ++ [.failed e] := by
  induction rows generalizing n with
  | nil => simp at h
  | cons cells rest ih =>
      by_cases hcells : cells.length = names.length
      · have hrest : ¬∀ cells ∈ rest, cells.length = names.length := by
          intro hrest
          exact h (List.forall_mem_cons.mpr ⟨hcells, hrest⟩)
        obtain ⟨outs, e, he, hout⟩ := ih hrest (n + 1)
        refine ⟨.row (names.zip cells) :: outs, e, he, fun ending => ?_⟩
        rw [laidOut_cons_of_fits hcells, hout, List.cons_append]
      · exact ⟨[], _, rfl, fun ending => laidOut_cons_of_not_fits hcells n rest ending⟩

/-- Rows that do not fit end the outputs themselves, whatever comes after them. -/
theorem exists_laidOutUnder_of_not_fits {names : List String} {rows : List (List Cell)}
    (h : ¬Fits (some names) rows) :
    ∃ outs e, e.isMisfit = true ∧
      ∀ ending, laidOutUnder names rows ending = outs ++ [.failed e] := by
  cases hrep : repeated? names with
  | some name => exact ⟨[], _, rfl, fun ending => by simp only [laidOutUnder, hrep]; rfl⟩
  | none =>
      have hrows : ¬∀ cells ∈ rows, cells.length = names.length := by
        intro hrows
        refine h fun names' hnames => ?_
        obtain rfl := Option.some.inj hnames
        exact ⟨repeated?_eq_none.mp hrep, hrows⟩
      obtain ⟨outs, e, he, hout⟩ := exists_laidOut_of_not_fits hrows 0
      exact ⟨outs, e, he, fun ending => by simp only [laidOutUnder, hrep, hout]⟩

/-- Rows that fit under their names do not end an assembly. -/
theorem isTerminal_callAll_of_fits {calls : List Call} (hcalls : ∀ c ∈ calls, c.isFinal = false)
    (h : Fits (Call.header? calls) (Call.rows calls)) :
    (empty.callAll calls).1.isTerminal = false := by
  have hleading : Call.leading calls = calls := by
    simpa using Call.leading_append hcalls []
  have hclosing (stranded : Bool) : Call.closing stranded calls = [] := by
    simpa using Call.closing_append hcalls stranded []
  have houts : ∀ o ∈ (empty.callAll calls).2, o.isFinal = false := by
    rw [callAll_empty, outputs, hleading, hclosing, hclosing]
    cases hnames : Call.header? calls with
    | none => simp
    | some names =>
        rw [hnames] at h
        simp [laidOutUnder_of_fits h]
  exact (sealed_callAll rfl calls).eq_false_of_rows houts

end Assembly

end SqlConnector
