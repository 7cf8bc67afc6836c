import SqlConnector.Proofs.Stream.Answers

/-!
Results that end well. Deliveries come to rows without a failure exactly when a success is the first
final one among them, and the rows before it fit under the names of the columns, which do not
repeat; in which batches the rows come, and where among them the names, makes no difference. Without
names there may be no rows.
-/

namespace SqlConnector

open Assembly (Call Fits)

/-- Deliveries that end in success with these rows under these names. -/
structure Succeeds (ds : List Delivery) (names : List String) (rows : List (List Cell)) : Prop where
  ending : (ds.map Call.deliver).find? Call.isFinal = some (.deliver (.event .success))
  handed : Call.rows (Call.leading (ds.map .deliver)) = rows
  header : Call.header? (Call.leading (ds.map .deliver)) = some names ∨
    Call.header? (Call.leading (ds.map .deliver)) = none ∧ names = [] ∧ rows = []
  distinct : names.Nodup
  fits : ∀ cells ∈ rows, cells.length = names.length

namespace Assembly

/-- Calls after a final one are not read. -/
theorem Call.leading_append_of_final {calls : List Call} {c : Call}
    (h : calls.find? isFinal = some c) (more : List Call) :
    leading (calls ++ more) = leading calls := by
  induction calls with
  | nil => cases h
  | cons c' rest ih =>
      cases hc : c'.isFinal with
      | true => rw [List.cons_append, leading_cons_of_isFinal _ hc, leading_cons_of_isFinal _ hc]
      | false =>
          have hrest : rest.find? isFinal = some c := by simpa [hc] using h
          rw [List.cons_append, leading_cons _ hc, leading_cons _ hc, ih hrest]

theorem Call.closing_of_final {calls : List Call} {c : Call} (h : calls.find? isFinal = some c)
    (stranded : Bool) : closing stranded calls = c.ending stranded := by
  simp [closing, h]

/-- What is put out for deliveries with an end among them, after which the sender is lost. -/
theorem outputsOf_of_final {ds : List Delivery} {c : Call}
    (h : (ds.map Call.deliver).find? Call.isFinal = some c) :
    empty.outputsOf ds = outputs [] [] (ds.map .deliver) := by
  have hfind : (ds.map Call.deliver ++ [Call.disconnect]).find? Call.isFinal = some c := by
    rw [List.find?_append, h, Option.some_or]
  rw [outputsOf, callAll_empty]
  simp only [outputs, Call.leading_append_of_final h]
  rw [Call.closing_of_final hfind, Call.closing_of_final hfind, Call.closing_of_final h,
    Call.closing_of_final h]

end Assembly

open Output (items)

/-- The rows of a result that ends well come out under the names, and nothing else does. -/
theorem Succeeds.items_eq {ds : List Delivery} {names : List String} {rows : List (List Cell)}
    (h : Succeeds ds names rows) :
    items (Assembly.empty.outputsOf ds) = rows.map fun cells => .ok (names.zip cells) := by
  have hrows (tail : List Output) : items (rows.map (fun cells => .row (names.zip cells)) ++ tail) =
      rows.map (fun cells => .ok (names.zip cells)) ++ items tail := by
    simp
  rw [Assembly.outputsOf_of_final h.ending]
  simp only [Assembly.outputs, Call.closing_of_final h.ending, List.nil_append, h.handed]
  rcases h.header with hnames | ⟨hnames, -, rfl⟩
  · have hfits : Fits (some names) rows := by
      rintro _ ⟨⟩
      exact ⟨h.distinct, h.fits⟩
    simp only [hnames, Assembly.laidOutUnder_of_fits hfits, hrows]
    simp
  · simp [hnames]

/-- Among the outputs of rows alone there is no failure. -/
theorem not_mem_of_items {outs : List Output} {rs : List Row} (h : items outs = rs.map .ok)
    (e : Failure) : .failed e ∉ outs := by
  intro hmem
  have herror : .error e ∈ items outs := List.mem_filterMap.mpr ⟨_, hmem, rfl⟩
  rw [h] at herror
  simp at herror

/-- Only a success that leaves no rows behind ends without a failure. -/
theorem Assembly.Call.eq_success {c : Call} {stranded : Bool} (hc : c.isFinal = true)
    (h : ∀ e, .failed e ∉ c.ending stranded) :
    c = .deliver (.event .success) ∧ stranded = false := by
  match c with
  | .deliver (.event .success) =>
      cases stranded with
      | false => exact ⟨rfl, rfl⟩
      | true => simp at h
  | .deliver (.event (.error message)) => simp at h
  | .deliver (.failed e) => simp at h
  | .disconnect => simp at h
  | .deliver (.event (.columns names complete)) => cases hc
  | .deliver (.event (.data batch)) => cases hc

/-- All deliveries that come to rows without a failure are of this kind. -/
theorem exists_succeeds {ds : List Delivery} {rs : List Row}
    (h : items (Assembly.empty.outputsOf ds) = rs.map .ok) :
    ∃ names rows, Succeeds ds names rows ∧ rs = rows.map names.zip := by
  have hno := not_mem_of_items h
  -- the loss of the sender is final, so that there is a first final call in any case
  obtain ⟨c, hfinal⟩ :
      ∃ c, (ds.map Call.deliver ++ [Call.disconnect]).find? Call.isFinal = some c := by
    rw [← Option.isSome_iff_exists]
    simp [Call.isFinal]
  have hc : c.isFinal = true := List.find?_some hfinal
  have hdeliveries (hsuccess : c = .deliver (.event .success)) :
      (ds.map Call.deliver).find? Call.isFinal = some (.deliver (.event .success)) := by
    rw [hsuccess, List.find?_append, Option.or_eq_some_iff] at hfinal
    rcases hfinal with hfirst | ⟨-, hlast⟩
    · exact hfirst
    · simp [Call.isFinal] at hlast
  have hunique {names : List String} {rows : List (List Cell)} (hs : Succeeds ds names rows) :
      rs = rows.map names.zip := by
    have hitems : rs.map (Except.ok (ε := Failure)) = (rows.map names.zip).map .ok := by
      rw [← h, hs.items_eq, List.map_map]
      rfl
    exact (List.map_inj_right fun _ _ => Except.ok.inj).mp hitems
  rw [Assembly.outputsOf, Assembly.callAll_empty] at hno
  simp only [Assembly.outputs, List.nil_append] at hno
  cases hnames : Call.header? (Call.leading (ds.map Call.deliver ++ [Call.disconnect])) with
  | none =>
      simp only [hnames, Call.closing_of_final hfinal] at hno
      obtain ⟨hsuccess, hrows⟩ := Call.eq_success hc hno
      have hending := hdeliveries hsuccess
      rw [Call.leading_append_of_final hending] at hnames hrows
      have hs : Succeeds ds [] [] :=
        ⟨hending, by simpa using hrows, .inr ⟨hnames, rfl, rfl⟩, List.nodup_nil, by simp⟩
      exact ⟨[], [], hs, hunique hs⟩
  | some names =>
      simp only [hnames, Call.closing_of_final hfinal] at hno
      by_cases hfits : Fits (some names)
          (Call.rows (Call.leading (ds.map Call.deliver ++ [Call.disconnect])))
      · rw [Assembly.laidOutUnder_of_fits hfits] at hno
        obtain ⟨hsuccess, -⟩ := Call.eq_success hc fun e he => hno e (List.mem_append_right _ he)
        have hending := hdeliveries hsuccess
        rw [Call.leading_append_of_final hending] at hnames hfits
        obtain ⟨hdistinct, hlengths⟩ := hfits names rfl
        have hs : Succeeds ds names _ := ⟨hending, rfl, .inl hnames, hdistinct, hlengths⟩
        exact ⟨names, _, hs, hunique hs⟩
      · obtain ⟨outs, e, -, hout⟩ := Assembly.exists_laidOutUnder_of_not_fits hfits
        rw [hout] at hno
        exact absurd (by simp) (hno e)

end SqlConnector
