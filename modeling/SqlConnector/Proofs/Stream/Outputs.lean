import SqlConnector.Stream.Assembly

/-!
What an assembly puts out over a sequence of calls, whatever their order. The names of the
columns, the rows and the first final call are read off the sequence one by one, and the outputs
are a function of the three: the rows under the names, as far as they fit, and then the end.
Rows that came before the names take the same place as rows that came after them.
-/

namespace SqlConnector.Assembly

/-- What can happen to an assembly: a delivery, or the loss of the sender. -/
inductive Call where
  | deliver (d : Delivery)
  | disconnect

def call (a : Assembly) : Call → Assembly × List Output
  | .deliver d => a.receive d
  | .disconnect => a.disconnect

@[simp] theorem call_deliver (a : Assembly) (d : Delivery) :
    a.call (.deliver d) = a.receive d := rfl

@[simp] theorem call_disconnect (a : Assembly) : a.call .disconnect = a.disconnect := rfl

/-- One call after the other, and all that is put out. -/
@[simp] def callAll (a : Assembly) : List Call → Assembly × List Output
  | [] => (a, [])
  | c :: rest =>
      let (b, out) := a.call c
      let (e, later) := b.callAll rest
      (e, out ++ later)

/-! ### Reading a sequence of calls -/

namespace Call

/-- Whether a call ends the result. -/
def isFinal : Call → Bool
  | .deliver (.event (.columns _ _)) => false
  | .deliver (.event (.data _)) => false
  | _ => true

/-- The calls before the first final one. -/
def leading (calls : List Call) : List Call := calls.takeWhile fun c => !c.isFinal

@[simp] theorem leading_nil : leading [] = [] := rfl

@[simp] theorem leading_cons_of_isFinal {c : Call} (rest : List Call) (h : c.isFinal = true) :
    leading (c :: rest) = [] := by
  simp [leading, h]

@[simp] theorem leading_cons {c : Call} (rest : List Call) (h : c.isFinal = false) :
    leading (c :: rest) = c :: leading rest := by
  simp [leading, h]

def batch : Call → List (List Cell)
  | .deliver (.event (.data batch)) => batch
  | _ => []

/-- The rows of all batches. -/
def rows (calls : List Call) : List (List Cell) := calls.flatMap batch

@[simp] theorem batch_columns (names : List String) (complete : Bool) :
    (deliver (.event (.columns names complete))).batch = [] := rfl

@[simp] theorem batch_data (batch : List (List Cell)) :
    (deliver (.event (.data batch))).batch = batch := rfl

@[simp] theorem rows_nil : rows [] = [] := rfl

@[simp] theorem rows_cons (c : Call) (calls : List Call) :
    rows (c :: calls) = c.batch ++ rows calls :=
  List.flatMap_cons

@[simp] theorem rows_append (calls more : List Call) :
    rows (calls ++ more) = rows calls ++ rows more :=
  List.flatMap_append

/-- The names of the columns: those of all lists up to the first complete one. -/
@[simp] def header? : List Call → Option (List String)
  | [] => none
  | .deliver (.event (.columns names true)) :: _ => some names
  | .deliver (.event (.columns names false)) :: rest => (header? rest).map (names ++ ·)
  | _ :: rest => header? rest

/-- What a final call puts out. A success is none when rows are left without names. -/
def ending (stranded : Bool) : Call → List Output
  | .deliver (.event .success) =>
      if stranded then [.failed (.protocol "rows delivered without column names")]
      else [.finished]
  | .deliver (.event (.error message)) => [.failed (.protocol message)]
  | .deliver (.failed e) => [.failed e]
  | .disconnect => [.failed (.protocol "wire client finished without a terminal signal")]
  | _ => []

@[simp] theorem ending_success (stranded : Bool) :
    (deliver (.event .success)).ending stranded =
      if stranded then [.failed (.protocol "rows delivered without column names")]
      else [.finished] := rfl

@[simp] theorem ending_error (stranded : Bool) (message : String) :
    (deliver (.event (.error message))).ending stranded = [.failed (.protocol message)] := rfl

@[simp] theorem ending_failed (stranded : Bool) (e : Failure) :
    (deliver (.failed e)).ending stranded = [.failed e] := rfl

@[simp] theorem ending_disconnect (stranded : Bool) :
    disconnect.ending stranded =
      [.failed (.protocol "wire client finished without a terminal signal")] := rfl

/-- What the first final call puts out, if there is one. -/
def closing (stranded : Bool) (calls : List Call) : List Output :=
  ((calls.find? isFinal).map (ending stranded)).getD []

@[simp] theorem closing_nil (stranded : Bool) : closing stranded [] = [] := rfl

@[simp] theorem closing_cons_of_isFinal {c : Call} (rest : List Call) (h : c.isFinal = true)
    (stranded : Bool) : closing stranded (c :: rest) = c.ending stranded := by
  simp [closing, h]

@[simp] theorem closing_cons {c : Call} (rest : List Call) (h : c.isFinal = false)
    (stranded : Bool) : closing stranded (c :: rest) = closing stranded rest := by
  simp [closing, h]

end Call

/-- The first name of a list that equals an earlier one. -/
def repeated? (names : List String) : Option String :=
  (List.range names.length).findSome? fun i => names[i]?.filter (· ∈ names.take i)

/-- The first rows that have a cell for each column. -/
def fitting (names : List String) (rows : List (List Cell)) : List (List Cell) :=
  rows.takeWhile fun cells => cells.length = names.length

/-- Rows under their names up to the first that does not fit, and `ending` when they all do; `n`
rows are out already. -/
def laidOut (names : List String) (n : Nat) (rows : List (List Cell)) (ending : List Output) :
    List Output :=
  (fitting names rows).map (fun cells => .row (names.zip cells)) ++
    match rows[(fitting names rows).length]? with
    | none => ending
    | some cells =>
        [.failed (.columnCountMismatch (n + (fitting names rows).length) names.length
          cells.length)]

/-- The outputs for names that may repeat: none but the repetition, when there is one. -/
def laidOutUnder (names : List String) (rows : List (List Cell)) (ending : List Output) :
    List Output :=
  match repeated? names with
  | some name => [.failed (.duplicateColumn name)]
  | none => laidOut names 0 rows ending

/-- The outputs for a sequence of calls, when the names `named` and the rows `held` came before. -/
def outputs (named : List String) (held : List (List Cell)) (calls : List Call) : List Output :=
  let rows := held ++ Call.rows (Call.leading calls)
  match Call.header? (Call.leading calls) with
  | none => Call.closing (!rows.isEmpty) calls
  | some names => laidOutUnder (named ++ names) rows (Call.closing false calls)

/-! ### Repeated names -/

theorem firstRepeated?_eq_findSome? (seen names : List String) :
    firstRepeated? seen names = (List.range names.length).findSome? fun i =>
      names[i]?.filter fun name => name ∈ seen ∨ name ∈ names.take i := by
  induction names generalizing seen with
  | nil => rfl
  | cons name rest ih =>
      rw [List.length_cons, List.range_succ_eq_map, List.findSome?_cons, List.findSome?_map]
      have hnext : ∀ i, ((fun i => (name :: rest)[i]?.filter fun n =>
          n ∈ seen ∨ n ∈ (name :: rest).take i) ∘ Nat.succ) i =
          rest[i]?.filter fun n => n ∈ name :: seen ∨ n ∈ rest.take i := by
        intro i
        simp only [Function.comp_apply, Nat.succ_eq_add_one, List.getElem?_cons_succ,
          List.take_succ_cons, List.mem_cons]
        congr 1
        funext n
        exact decide_eq_decide.mpr (by rw [or_assoc, or_left_comm])
      rw [funext hnext, ← ih]
      by_cases h : name ∈ seen <;> simp [Option.filter, h]

@[simp] theorem firstRepeated?_nil (names : List String) :
    firstRepeated? [] names = repeated? names := by
  simp [firstRepeated?_eq_findSome?, repeated?]

@[simp] theorem firstRepeated?_eq_none {seen names : List String} :
    firstRepeated? seen names = none ↔ (∀ name ∈ names, name ∉ seen) ∧ names.Nodup := by
  induction names generalizing seen with
  | nil => simp
  | cons name rest ih =>
      by_cases h : name ∈ seen
      · simp [h]
      · simp only [firstRepeated?, h, if_false, ih, List.mem_cons, List.nodup_cons,
          forall_eq_or_imp, not_false_eq_true, true_and, not_or]
        constructor
        · rintro ⟨hrest, hnodup⟩
          exact ⟨fun n hn => (hrest n hn).2, fun hn => (hrest name hn).1 rfl, hnodup⟩
        · rintro ⟨hrest, hname, hnodup⟩
          exact ⟨fun n hn => ⟨fun heq => hname (heq ▸ hn), hrest n hn⟩, hnodup⟩

@[simp] theorem repeated?_eq_none {names : List String} : repeated? names = none ↔ names.Nodup := by
  simp [← firstRepeated?_nil]

/-! ### Laying out rows -/

@[simp] theorem laidOut_nil (names : List String) (n : Nat) (ending : List Output) :
    laidOut names n [] ending = ending := by
  simp [laidOut, fitting]

theorem laidOut_cons_of_fits {names : List String} {cells : List Cell}
    (h : cells.length = names.length) (n : Nat) (rows : List (List Cell))
    (ending : List Output) :
    laidOut names n (cells :: rows) ending =
      .row (names.zip cells) :: laidOut names (n + 1) rows ending := by
  simp [laidOut, fitting, h, Nat.add_assoc, Nat.add_comm 1]

theorem laidOut_cons_of_not_fits {names : List String} {cells : List Cell}
    (h : cells.length ≠ names.length) (n : Nat) (rows : List (List Cell))
    (ending : List Output) :
    laidOut names n (cells :: rows) ending =
      [.failed (.columnCountMismatch n names.length cells.length)] := by
  simp [laidOut, fitting, h]

/-! ### The states of an assembly

Until it is over, an assembly waits for names and holds the batches that came, or it puts out each
row as it comes. -/

def waiting (named : List String) (queued : List (List (List Cell))) : Assembly :=
  ⟨if queued.isEmpty then .awaitingColumns else .bufferingRows, named, queued, 0⟩

def draining (names : List String) (n : Nat) : Assembly := ⟨.draining, names, [], n⟩

@[simp] theorem isTerminal_waiting (named : List String) (queued : List (List (List Cell))) :
    (waiting named queued).isTerminal = false := by
  cases queued <;> rfl

@[simp] theorem isTerminal_draining (names : List String) (n : Nat) :
    (draining names n).isTerminal = false := rfl

theorem phase_waiting_ne (named : List String) (queued : List (List (List Cell))) :
    (waiting named queued).phase ≠ .draining := by
  cases queued <;> simp [waiting]

/-! ### One call -/

@[simp] theorem call_of_isTerminal {a : Assembly} (h : a.isTerminal = true) (c : Call) :
    a.call c = (a, []) := by
  cases c <;> simp [receive, disconnect, fail, h]

theorem call_waiting_part (named names : List String) (queued : List (List (List Cell))) :
    (waiting named queued).call (.deliver (.event (.columns names false))) =
      (waiting (named ++ names) queued, []) := by
  simp only [call, receive, isTerminal_waiting, addColumns, phase_waiting_ne, Bool.not_false,
    Bool.false_eq_true, if_false, if_true]
  rfl

theorem call_waiting_complete (named names : List String) (queued : List (List (List Cell))) :
    (waiting named queued).call (.deliver (.event (.columns names true))) =
      match repeated? (named ++ names) with
      | some name =>
          (⟨.failed, named ++ names, [], 0⟩, [.failed (.duplicateColumn name)])
      | none => (draining (named ++ names) 0).emit queued.flatten := by
  simp only [call, receive, isTerminal_waiting, addColumns, phase_waiting_ne,
    firstRepeated?_nil, Bool.not_true, Bool.false_eq_true, if_false]
  cases hrep : repeated? (named ++ names) with
  | none => simp [waiting, draining, hrep]
  | some name =>
      have hlive : (isTerminal ⟨(waiting named queued).phase, named ++ names, queued, 0⟩) = false :=
        isTerminal_waiting named queued
      simp [waiting, fail, hrep] at hlive ⊢
      simp [hlive]

theorem call_waiting_data (named : List String) (queued : List (List (List Cell)))
    (batch : List (List Cell)) :
    (waiting named queued).call (.deliver (.event (.data batch))) =
      (waiting named (queued ++ [batch]), []) := by
  simp only [call, receive, isTerminal_waiting, addRows, phase_waiting_ne, Bool.false_eq_true,
    if_false]
  simp [waiting]

theorem call_draining_columns (names more : List String) (n : Nat) (complete : Bool) :
    (draining names n).call (.deliver (.event (.columns more complete))) =
      (draining names n, []) := rfl

/-- Rows wait for names that have not come. -/
def stranded (a : Assembly) : Bool := a.phase ≠ .draining ∧ a.queued.any (!·.isEmpty)

theorem fail_of_live {a : Assembly} (h : a.isTerminal = false) (e : Failure) :
    a.fail e = ({ a with phase := .failed, queued := [] }, [.failed e]) := by
  simp [fail, h]

/-- A final call ends a live assembly, and what it puts out depends on the rows left only. -/
theorem call_of_isFinal {a : Assembly} (h : a.isTerminal = false) {c : Call}
    (hc : c.isFinal = true) :
    (a.call c).1.isTerminal = true ∧ (a.call c).2 = c.ending a.stranded := by
  have hfail (e : Failure) : (a.fail e).1.isTerminal = true ∧ (a.fail e).2 = [.failed e] := by
    rw [fail_of_live h]
    exact ⟨rfl, rfl⟩
  cases c with
  | disconnect => exact hfail _
  | deliver d =>
      simp only [call, receive, h, Bool.false_eq_true, if_false]
      cases d with
      | failed e => exact hfail e
      | event e =>
          cases e with
          | columns names complete => cases hc
          | data batch => cases hc
          | error message => exact hfail _
          | success =>
              simp only [finish, Call.ending, stranded, decide_eq_true_eq]
              split
              · exact hfail _
              · exact ⟨rfl, rfl⟩

@[simp] theorem stranded_draining (names : List String) (n : Nat) :
    (draining names n).stranded = false := rfl

@[simp] theorem stranded_waiting (named : List String) (queued : List (List (List Cell))) :
    (waiting named queued).stranded = !queued.flatten.isEmpty := by
  have hany : (queued.any fun b => !b.isEmpty) = !queued.flatten.isEmpty := by
    induction queued with
    | nil => rfl
    | cons b rest ih => cases b <;> simp [ih]
  simp only [stranded, ne_eq, phase_waiting_ne, not_false_eq_true, true_and, Bool.decide_eq_true]
  exact hany

/-! ### Many calls -/

@[simp] theorem callAll_of_isTerminal {a : Assembly} (h : a.isTerminal = true) (calls : List Call) :
    a.callAll calls = (a, []) := by
  induction calls with
  | nil => rfl
  | cons c rest ih => simp [h, ih]

@[simp] theorem callAll_append (a : Assembly) (calls more : List Call) :
    a.callAll (calls ++ more) =
      (((a.callAll calls).1.callAll more).1,
        (a.callAll calls).2 ++ ((a.callAll calls).1.callAll more).2) := by
  induction calls generalizing a with
  | nil => rfl
  | cons c rest ih => simp [ih]

/-- An assembly that is over stays so. -/
theorem isTerminal_callAll_append {a : Assembly} {calls : List Call}
    (h : (a.callAll calls).1.isTerminal = true) (more : List Call) :
    (a.callAll (calls ++ more)).1.isTerminal = true := by
  rw [callAll_append, callAll_of_isTerminal h]
  exact h

/-- After the first final call nothing more is put out. -/
theorem callAll_cons_of_isFinal {a : Assembly} (h : a.isTerminal = false) {c : Call}
    (hc : c.isFinal = true) (rest : List Call) :
    (a.callAll (c :: rest)).2 = c.ending a.stranded := by
  obtain ⟨hover, hout⟩ := call_of_isFinal h hc
  simp [hover, hout]

/-- Rows that are put out at once, and all that comes after them. -/
theorem emit_append_callAll {names : List String} (hnames : names.Nodup) (n : Nat)
    (held rows : List (List Cell)) (ending : List Output) (calls : List Call)
    (hcalls : ∀ m, ((draining names m).callAll calls).2 = laidOut names m rows ending) :
    ((draining names n).emit held).2 ++ (((draining names n).emit held).1.callAll calls).2 =
      laidOut names n (held ++ rows) ending := by
  induction held generalizing n with
  | nil => simpa using hcalls n
  | cons cells rest ih =>
      by_cases h : cells.length = names.length
      · have hrow : Row.ofPairs (names.zip cells) = names.zip cells := by
          apply Row.ofPairs_of_nodup
          rw [List.map_fst_zip (Nat.le_of_eq h.symm)]
          exact hnames
        have hemit : (draining names n).emit (cells :: rest) =
            (((draining names (n + 1)).emit rest).1,
              .row (names.zip cells) :: ((draining names (n + 1)).emit rest).2) := by
          simp only [emit, draining, h, if_true, hrow]
        rw [hemit, List.cons_append, List.cons_append, laidOut_cons_of_fits h, ← ih (n + 1)]
      · have hemit : (draining names n).emit (cells :: rest) =
            (⟨.failed, names, [], n⟩,
              [.failed (.columnCountMismatch n names.length cells.length)]) := by
          simp only [emit, draining, h, if_false]
          rfl
        rw [hemit, List.cons_append, List.cons_append, laidOut_cons_of_not_fits h,
          callAll_of_isTerminal rfl]
        rfl

/-- Once the names are known, rows are laid out under them as they come. -/
theorem callAll_draining {names : List String} (hnames : names.Nodup) (n : Nat)
    (calls : List Call) :
    ((draining names n).callAll calls).2 =
      laidOut names n (Call.rows (Call.leading calls)) (Call.closing false calls) := by
  induction calls generalizing n with
  | nil => simp
  | cons c rest ih =>
      cases hc : c.isFinal with
      | true =>
          rw [callAll_cons_of_isFinal rfl hc]
          simp [hc]
      | false =>
          rw [Call.leading_cons rest hc, Call.closing_cons rest hc]
          match c, hc with
          | .deliver (.event (.columns more complete)), _ =>
              simp only [callAll, call_draining_columns, List.nil_append, ih]
              rfl
          | .deliver (.event (.data batch)), _ =>
              exact emit_append_callAll hnames n batch _ _ rest ih

/-- Until the names are known, nothing is put out but an end; then all rows are. -/
theorem callAll_waiting (named : List String) (queued : List (List (List Cell)))
    (calls : List Call) :
    ((waiting named queued).callAll calls).2 = outputs named queued.flatten calls := by
  induction calls generalizing named queued with
  | nil => simp [outputs]
  | cons c rest ih =>
      cases hc : c.isFinal with
      | true =>
          rw [callAll_cons_of_isFinal (isTerminal_waiting named queued) hc]
          simp [outputs, hc]
      | false =>
          simp only [outputs, Call.leading_cons rest hc, Call.closing_cons rest hc]
          match c, hc with
          | .deliver (.event (.columns names false)), _ =>
              simp only [callAll, call_waiting_part, List.nil_append, ih, outputs, Call.header?]
              cases Call.header? (Call.leading rest) <;> simp
          | .deliver (.event (.columns names true)), _ =>
              simp only [callAll, call_waiting_complete, Call.header?, laidOutUnder]
              cases hrep : repeated? (named ++ names) with
              | some name => simp [callAll_of_isTerminal (a := ⟨.failed, _, [], 0⟩) rfl]
              | none =>
                  -- the rows held come out now, and the rest as in a draining assembly
                  have hnames := repeated?_eq_none.mp hrep
                  exact emit_append_callAll hnames 0 queued.flatten _ _ rest fun m =>
                    callAll_draining hnames m rest
          | .deliver (.event (.data batch)), _ =>
              simp only [callAll, call_waiting_data, List.nil_append, ih, outputs, Call.header?]
              simp

/-- A new assembly waits for names and holds no rows. -/
theorem callAll_empty (calls : List Call) : (empty.callAll calls).2 = outputs [] [] calls :=
  callAll_waiting [] [] calls

/-! ### The rows put out -/

theorem row_not_mem_closing (r : Row) (stranded : Bool) (calls : List Call) :
    .row r ∉ Call.closing stranded calls := by
  simp only [Call.closing]
  cases calls.find? Call.isFinal with
  | none => simp
  | some c =>
      simp only [Option.map_some, Option.getD_some, Call.ending]
      split
      · split <;> simp
      all_goals simp

/-- A row that is laid out has the cells of a row that came, one for each name. -/
theorem exists_of_row_mem_laidOut {names : List String} {n : Nat} {rows : List (List Cell)}
    {ending : List Output} {r : Row} (hending : .row r ∉ ending)
    (h : .row r ∈ laidOut names n rows ending) :
    ∃ cells ∈ rows, cells.length = names.length ∧ r = names.zip cells := by
  rcases List.mem_append.mp h with hrow | hrest
  · obtain ⟨cells, hcells, heq⟩ := List.mem_map.mp hrow
    refine ⟨cells, (List.takeWhile_prefix _).mem hcells, ?_, (Output.row.inj heq).symm⟩
    simpa using List.all_eq_true.mp List.all_takeWhile cells hcells
  · split at hrest
    · exact absurd hrest hending
    · simp at hrest

/-- What any sequence of calls of a new assembly puts out. The names are those of the column lists
up to the first complete one, the rows those of all batches before the first final call: names that
repeat lead to that failure alone, else the rows come out under the names as far as they fit, and
then what the final call asks for. Each row has every name exactly once, in column order. -/
theorem outputs_of_calls (calls : List Call) :
    (empty.callAll calls).2 = outputs [] [] calls ∧
      ∀ r, .row r ∈ (empty.callAll calls).2 →
        Call.header? (Call.leading calls) = some (r.map Prod.fst) ∧ (r.map Prod.fst).Nodup ∧
          r.map Prod.snd ∈ Call.rows (Call.leading calls) := by
  refine ⟨callAll_empty calls, fun r hr => ?_⟩
  rw [callAll_empty, outputs] at hr
  cases hnames : Call.header? (Call.leading calls) with
  | none =>
      simp only [hnames] at hr
      exact absurd hr (row_not_mem_closing r _ calls)
  | some names =>
      simp only [hnames, laidOutUnder, List.nil_append] at hr
      cases hrep : repeated? names with
      | some name => simp [hrep] at hr
      | none =>
          simp only [hrep] at hr
          obtain ⟨cells, hcells, hlength, rfl⟩ :=
            exists_of_row_mem_laidOut (row_not_mem_closing r false calls) hr
          rw [List.map_fst_zip (Nat.le_of_eq hlength.symm),
            List.map_snd_zip (Nat.le_of_eq hlength)]
          exact ⟨rfl, repeated?_eq_none.mp hrep, hcells⟩

/-- A row that comes between the two parts of its names. -/
theorem row_between_names :
    let calls : List Call := [.deliver (.event (.columns ["a"] false)),
      .deliver (.event (.data [[.null, .bool true]])), .deliver (.event (.columns ["b"] true)),
      .deliver (.event .success), .disconnect]
    let r : Row := [("a", .null), ("b", .bool true)]
    (empty.callAll calls).2 = [.row r, .finished] ∧ .row r ∈ (empty.callAll calls).2 ∧
      Call.header? (Call.leading calls) = some ["a", "b"] ∧ ["a", "b"].Nodup ∧
      [.null, .bool true] ∈ Call.rows (Call.leading calls) := by
  intro calls r
  obtain ⟨houtputs, hrows⟩ := outputs_of_calls calls
  have hboth : (empty.callAll calls).2 = [.row r, .finished] := houtputs.trans rfl
  have hrow : .row r ∈ (empty.callAll calls).2 := hboth ▸ List.mem_cons_self
  exact ⟨hboth, hrow, hrows r hrow⟩

end SqlConnector.Assembly
