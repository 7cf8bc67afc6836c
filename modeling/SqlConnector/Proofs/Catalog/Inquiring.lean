import SqlConnector.Catalog.Table
import SqlConnector.Proofs.Stream.Success
import SqlConnector.Rehearsal

/-!
Calls that ask the engine one question. What a call comes to is decided by the items of its query,
whichever way these are polled: a failure among them is the failure of the call, and without one the
call is answered from all rows. Main statement: what each call answers, and when it fails how.
-/

namespace SqlConnector

/-! ### All items of a stream -/

/-- Rows, and a failure after them if there is one. -/
theorem Output.Sealed.exists_items {closed : Bool} {outs : List Output} (h : Sealed closed outs) :
    ∃ (rows : List Row) (failure : Option Failure),
      items outs = rows.map .ok ++ failure.toList.map .error := by
  induction outs with
  | nil => exact ⟨[], none, rfl⟩
  | cons o rest ih =>
      cases o with
      | row r =>
          obtain ⟨rows, failure, hitems⟩ := ih (by simpa [Sealed, isFinal] using h)
          exact ⟨r :: rows, failure, congrArg (Except.ok r :: ·) hitems⟩
      | finished =>
          obtain rfl : rest = [] := (by simpa [Sealed, isFinal] using h : _ ∧ _).2
          exact ⟨[], none, rfl⟩
      | failed e =>
          obtain rfl : rest = [] := (by simpa [Sealed, isFinal] using h : _ ∧ _).2
          exact ⟨[], some e, rfl⟩

namespace Execution

variable {ε : Type} {x : Execution ε}

/-- Polled to the end in some order of the two sides, the execution answers with these items. -/
def Yields (x : Execution ε) (items : List (Except Failure Row)) : Prop :=
  ∃ ms, answersOf (x.run ms).2 = items.map some ++ [none]

/-- The items are the same in every order. -/
theorem yields_iff (hx : Sound x) {items : List (Except Failure Row)} :
    x.Yields items ↔ items = x.future := by
  constructor
  · rintro ⟨ms, hms⟩
    obtain ⟨k, hanswers, -⟩ := answersOf_run hx ms
    have hk : k = items.length + 1 := by
      have hlength := congrArg List.length (hms.symm.trans hanswers)
      simpa using hlength.symm
    subst hk
    exact eq_of_answers (hms.symm.trans hanswers)
  · rintro rfl
    obtain ⟨ms, -, hms⟩ := (reaches_drain hx).2
    exact ⟨ms, hms⟩

end Execution

namespace Connector

variable {ε : Type}

/-- All rows of a query are the items that its deliveries come to. -/
theorem collect_eq (c : Connector) (client : Client ε) (query : String) :
    (c.collect client query).2 = (c.execute client query).future.mapM id := by
  have hdrain := (Execution.reaches_drain
    (Execution.sound_start (c.task client query) c.capacity c.capacity_pos)).1
  exact congrArg (·.mapM id) hdrain

theorem mapM_items (rows : List Row) (failure : Option Failure) :
    (rows.map Except.ok ++ failure.toList.map Except.error).mapM id =
      failure.elim (.ok rows) .error := by
  induction rows with
  | nil => cases failure <;> rfl
  | cons r rest ih =>
      rw [List.map_cons, List.cons_append, List.mapM_cons, ih]
      cases failure <;> rfl

/-- What is collected of a query: all its rows, or the failure that they end in. -/
theorem exists_collect (c : Connector) (client : Client ε) (query : String) :
    ∃ (rows : List Row) (failure : Option Failure),
      (c.execute client query).future = rows.map .ok ++ failure.toList.map .error ∧
        (c.collect client query).2 = failure.elim (.ok rows) .error := by
  have hsealed := Assembly.sealed_outputsOf (a := .empty) rfl (c.task client query).deliveries
  obtain ⟨rows, failure, hitems⟩ := hsealed.exists_items
  have hfuture : (c.execute client query).future = rows.map .ok ++ failure.toList.map .error :=
    hitems
  exact ⟨rows, failure, hfuture, by rw [collect_eq, hfuture, mapM_items]⟩

/-- All rows are collected exactly when the result ends well, and they are its rows. -/
theorem collect_eq_ok {c : Connector} {client : Client ε} {query : String} {rs : List Row} :
    (c.collect client query).2 = .ok rs ↔
      ∃ names rows, Succeeds (c.task client query).deliveries names rows ∧
        rs = rows.map names.zip := by
  constructor
  · intro h
    obtain ⟨rows, failure, hfuture, hcollect⟩ := c.exists_collect client query
    rw [hcollect] at h
    cases failure with
    | some e => cases h
    | none =>
        cases h
        have hitems : (c.execute client query).future = rs.map .ok := by simpa using hfuture
        exact exists_succeeds hitems
  · rintro ⟨names, rows, hsucceeds, rfl⟩
    have hfuture : (c.execute client query).future = (rows.map names.zip).map .ok := by
      rw [List.map_map]
      exact hsucceeds.items_eq
    have hall := mapM_items (rows.map names.zip) none
    rw [Option.toList_none, List.map_nil, List.append_nil] at hall
    rw [collect_eq, hfuture, hall, Option.elim_none]

end Connector

namespace Catalog

variable {ε : Type}

/-! ### Questions and answers -/

/-- The question of a call, and how it is answered from the rows. Asking for bare rows is none. -/
def Table.inquiry? (t : Table ε) : Call → Option (String × (List Row → Except Fault Reply))
  | .attributes =>
      some (columnsQuery t.name, fun rows => .ok (.attributes (attributesOf rows)))
  | .tables =>
      some (tablesQuery t.connector.session.schema, fun rows => .ok (.tables (tablesOf rows)))
  | .version => some (versionQuery, fun rows => (versionOf rows).map .version)
  | .maxTime column =>
      some (maxTimeQuery column t.name, fun rows => (maxTimeOf rows).map .maxTime)
  | .rows _ _ => none

def Table.query? (t : Table ε) (call : Call) : Option String := (t.inquiry? call).map Prod.fst

/-- A question is answered from the rows of a result that ends well, under their names. -/
theorem Table.inquire_eq_ok {α : Type} {t : Table ε} {query : String}
    {read : List Row → Except Fault α} {a : α} :
    (t.inquire query read).2 = .ok a ↔
      ∃ names rows, Succeeds (t.connector.task t.client query).deliveries names rows ∧
        read (rows.map names.zip) = .ok a := by
  have hinquire : (t.inquire query read).2 =
      ((t.connector.collect t.client query).2.mapError .execution).bind read := rfl
  constructor
  · intro h
    rw [hinquire] at h
    cases hcollect : (t.connector.collect t.client query).2 with
    | error e =>
        rw [hcollect] at h
        cases h
    | ok rs =>
        obtain ⟨names, rows, hsucceeds, rfl⟩ := Connector.collect_eq_ok.mp hcollect
        rw [hcollect] at h
        exact ⟨names, rows, hsucceeds, h⟩
  · rintro ⟨names, rows, hsucceeds, hread⟩
    rw [hinquire, Connector.collect_eq_ok.mpr ⟨names, rows, hsucceeds, rfl⟩]
    exact hread

theorem Table.call_eq {t : Table ε} {call : Call} {query : String}
    {answer : List Row → Except Fault Reply} (h : t.inquiry? call = some (query, answer)) :
    t.call call = ((t.connector.collect t.client query).1,
      ((t.connector.collect t.client query).2.mapError .execution).bind answer) := by
  have hmap {α β : Type} (x : Except Fault α) (f : α → Except Fault β) (g : β → Reply) :
      (x.bind f).map g = x.bind fun a => (f a).map g := by
    cases x <;> rfl
  cases call with
  | rows q limit => cases h
  | _ =>
      cases h
      exact congrArg (Prod.mk _) (hmap _ _ _)

/-- The times that a cell tells: a text in one of the forms, or a number of milliseconds of 64 bits
in the range of the calendar. -/
inductive TellsTime : Cell → Instant → Prop where
  | text {text : String} {time : Instant} (h : Timestamp.read? text = some time) :
      TellsTime (.string text) time
  | millis {n : Int} {time : Instant} (from_min : -9223372036854775808 ≤ n)
      (to_max : n ≤ 9223372036854775807) (h : Instant.ofMillis? n = some time) :
      TellsTime (.number (.integer n)) time

/-- There is no row, or the first has nothing or null for the time. -/
def Timeless : List Row → Prop
  | [] => True
  | row :: _ => row.get? maxTimeName = none ∨ row.get? maxTimeName = some .null

/-- What a call answers from all rows of its query. -/
inductive AnsweredFrom (rows : List Row) : Call → Except Fault Reply → Prop where
  | attributes : AnsweredFrom rows .attributes (.ok (.attributes (attributesOf rows)))
  | tables : AnsweredFrom rows .tables (.ok (.tables (tablesOf rows)))
  | version {row : Row} {text : String} (one : rows = [row])
      (first : row.first? = some (.string text)) : AnsweredFrom rows .version (.ok (.version text))
  | noVersion {reason : String}
      (h : ¬∃ row text, rows = [row] ∧ row.first? = some (.string text)) :
      AnsweredFrom rows .version (.error (.invalidVersion reason))
  | timeless {column : String} (h : Timeless rows) :
      AnsweredFrom rows (.maxTime column) (.ok (.maxTime none))
  | time {column : String} {row : Row} {rest : List Row} {cell : Cell} {time : Instant}
      (head : rows = row :: rest) (found : row.get? maxTimeName = some cell)
      (told : TellsTime cell time) :
      AnsweredFrom rows (.maxTime column) (.ok (.maxTime (some time)))
  | invalidTime {column : String} {row : Row} {rest : List Row} {cell : Cell}
      (head : rows = row :: rest) (found : row.get? maxTimeName = some cell)
      (not_null : cell ≠ .null) (untold : ∀ time, ¬TellsTime cell time) :
      AnsweredFrom rows (.maxTime column) (.error (.invalidMaxTime (cellText cell)))

theorem answeredFrom_versionOf (rows : List Row) :
    AnsweredFrom rows .version ((versionOf rows).map .version) := by
  match rows with
  | [] => exact .noVersion (by simp)
  | row :: other :: rest => exact .noVersion (by simp)
  | [row] =>
      cases hfirst : row.first? with
      | none =>
          have hversion : versionOf [row] = .error (.invalidVersion "row has no columns") := by
            simp [versionOf, hfirst]
          rw [hversion]
          exact .noVersion (by simp [hfirst])
      | some cell =>
          cases cell with
          | string text =>
              have hversion : versionOf [row] = .ok text := by simp [versionOf, hfirst]
              rw [hversion]
              exact .version rfl hfirst
          | _ =>
              simp only [versionOf, hfirst]
              exact .noVersion (by simp [hfirst])

/-- The numbers of milliseconds of the calendar fit 64 bits with a sign. -/
theorem millis_in_range {n : Int} {time : Instant} (h : Instant.ofMillis? n = some time) :
    -9223372036854775808 ≤ n ∧ n ≤ 9223372036854775807 := by
  unfold Instant.ofMillis? Instant.ofEpoch? at h
  split at h
  · next hrange =>
      obtain ⟨hfrom, hto, -⟩ := hrange
      have hfirst : Date.dayNumber ⟨Date.minYear, 1, 1⟩ = -96465292 := by decide
      have hlast : Date.dayNumber ⟨Date.maxYear, 12, 31⟩ = 95026236 := by decide
      omega
  · cases h

theorem timeOf?_eq_some {cell : Cell} {time : Instant} :
    timeOf? cell = some time ↔ TellsTime cell time := by
  constructor
  · intro h
    match cell with
    | .string text => exact .text h
    | .number (.integer n) =>
        simp only [timeOf?] at h
        split at h
        · obtain ⟨hfrom, hto⟩ := millis_in_range h
          exact .millis hfrom hto h
        · cases h
    | .number (.real x) => cases h
    | .null => cases h
    | .bool b => cases h
    | .array items => cases h
    | .object members => cases h
  · intro h
    cases h with
    | text h => exact h
    | @millis n _ from_min to_max h =>
        have hlt : n < Json.Number.signedBound := by
          rw [Json.Number.signedBound]
          omega
        simpa only [timeOf?, if_pos hlt] using h

theorem answeredFrom_maxTimeOf (rows : List Row) (column : String) :
    AnsweredFrom rows (.maxTime column) ((maxTimeOf rows).map .maxTime) := by
  cases rows with
  | nil => exact .timeless trivial
  | cons row rest =>
      have hhead : (row :: rest).head?.bind (Row.get? maxTimeName) = row.get? maxTimeName := rfl
      cases hfound : row.get? maxTimeName with
      | none =>
          simp only [maxTimeOf, hhead, hfound]
          exact .timeless (.inl hfound)
      | some cell =>
          by_cases hnull : cell = .null
          · subst hnull
            simp only [maxTimeOf, hhead, hfound]
            exact .timeless (.inr hfound)
          · cases htime : timeOf? cell with
            | some time =>
                simp only [maxTimeOf, hhead, hfound, htime]
                exact .time rfl hfound (timeOf?_eq_some.mp htime)
            | none =>
                simp only [maxTimeOf, hhead, hfound, htime]
                refine .invalidTime rfl hfound hnull fun time htold => ?_
                rw [timeOf?_eq_some.mpr htold] at htime
                cases htime

theorem Table.answeredFrom_of_inquiry {t : Table ε} {call : Call} {query : String}
    {answer : List Row → Except Fault Reply} (h : t.inquiry? call = some (query, answer))
    (rows : List Row) : AnsweredFrom rows call (answer rows) := by
  cases call with
  | attributes =>
      cases h
      exact .attributes
  | tables =>
      cases h
      exact .tables
  | version =>
      cases h
      exact answeredFrom_versionOf rows
  | maxTime column =>
      cases h
      exact answeredFrom_maxTimeOf rows column
  | rows q limit => cases h

/-- No rows are answered with the failure of a query. -/
theorem AnsweredFrom.ne_execution {rows : List Row} {call : Call} {result : Except Fault Reply}
    (h : AnsweredFrom rows call result) (e : Failure) : result ≠ .error (.execution e) := by
  intro hresult
  subst hresult
  cases h

/-! ### All or nothing -/

/-- A call comes to the failure that the items of its query end in, or to what it answers from all
rows. -/
theorem Table.exists_result {t : Table ε} {call : Call} {query : String}
    {answer : List Row → Except Fault Reply} (h : t.inquiry? call = some (query, answer)) :
    ∃ (rows : List Row) (failure : Option Failure),
      (t.connector.execute t.client query).future =
        rows.map .ok ++ failure.toList.map .error ∧
      (t.call call).2 = failure.elim (answer rows) fun e => .error (.execution e) := by
  obtain ⟨rows, failure, hitems, hcollect⟩ := t.connector.exists_collect t.client query
  refine ⟨rows, failure, hitems, ?_⟩
  rw [call_eq h, hcollect]
  cases failure <;> rfl

/-- A call that asks one question. The items of its query are the same however they are polled to
the end. The call fails with the failure among them, whatever rows come before it, and with no other
failure of a query; without one the items are rows, and the call answers from all of them. -/
theorem calls_all_or_nothing (t : Table ε) {call : Call} {query : String}
    (h : t.query? call = some query) :
    ∃ items, (∀ items', (t.connector.execute t.client query).Yields items' ↔ items' = items) ∧
      (∀ e, (t.call call).2 = .error (.execution e) ↔ .error e ∈ items) ∧
      ((∀ e, .error e ∉ items) →
        ∃ rows, items = rows.map .ok ∧ AnsweredFrom rows call (t.call call).2) := by
  obtain ⟨⟨query', answer⟩, hinquiry, hquery⟩ := Option.map_eq_some_iff.mp h
  obtain rfl : query' = query := hquery
  obtain ⟨rows, failure, hitems, hresult⟩ := Table.exists_result hinquiry
  have hanswers := Table.answeredFrom_of_inquiry hinquiry rows
  have hyields (items' : List (Except Failure Row)) :
      (t.connector.execute t.client query').Yields items' ↔
        items' = (t.connector.execute t.client query').future :=
    Execution.yields_iff (Execution.sound_start _ _ _)
  refine ⟨_, hyields, ?_⟩
  rw [hitems, hresult]
  cases failure with
  | none =>
      refine ⟨fun e => ?_, fun _ => ⟨rows, by simp, hanswers⟩⟩
      simpa using hanswers.ne_execution e
  | some e =>
      refine ⟨fun e' => ?_, fun h => absurd (h e) (by simp)⟩
      simp [eq_comm]

/-- A row that would do for an answer does not outlive its stream. -/
theorem version_lost_with_stream :
    let c : Connector := ⟨.fixed ⟨"h", 80⟩, ⟨"u", "s", "c", none⟩, 1, Nat.one_pos⟩
    let script : Rehearsal.Script := .playing [.send (.columns ["node_version"] true),
      .send (.data [[.string "0.215"]]), .fail 500 "gone"]
    let t : Table Rehearsal.Sighting := ⟨c, script.client, "t"⟩
    let items : List (Except Failure Row) := [.ok [("node_version", .string "0.215")],
      .error (.protocol "server responded 500: gone")]
    t.query? .version = some versionQuery ∧
      (t.connector.execute t.client versionQuery).Yields items ∧
      (t.call .version).2 = .error (.execution (.protocol "server responded 500: gone")) := by
  intro c script t items
  have hquery : t.query? .version = some versionQuery := rfl
  obtain ⟨items', hyields, hfails, -⟩ := calls_all_or_nothing t hquery
  have hfuture : (t.connector.execute t.client versionQuery).future = items := by rfl
  have hitems : (t.connector.execute t.client versionQuery).Yields items :=
    (Execution.yields_iff (Execution.sound_start _ _ _)).mpr hfuture.symm
  obtain rfl : items = items' := (hyields items).mp hitems
  exact ⟨hquery, hitems, (hfails _).mpr (by simp [items])⟩

end Catalog

end SqlConnector
