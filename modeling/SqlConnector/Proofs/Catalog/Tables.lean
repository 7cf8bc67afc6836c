import Mathlib.Data.List.Perm.Basic
import SqlConnector.Proofs.Catalog.Inquiring
import SqlConnector.Proofs.Text.ByteOrder

/-!
The tables of a schema, as the engine lists them. Each row of the listing has the name of a table in
its first column. Main statement: what is listed are the texts of the first cells of all rows, in
the order of their bytes, so that neither the order of the rows makes a difference nor how they are
delivered.
-/

namespace SqlConnector.Catalog

open Text (bytes bytes_le_iff)

variable {ε : Type}

/-- The engine answers the question for the tables well, with these rows under these columns. -/
def Table.ListsTables (t : Table ε) (columns : List String) (rows : List (List Cell)) : Prop :=
  Succeeds (t.connector.task t.client (tablesQuery t.connector.session.schema)).deliveries
    columns rows

/-- The texts of the first cells, row by row. -/
def firstTexts (rows : List (List Cell)) : List String :=
  (rows.filterMap List.head?).map cellText

theorem firstTexts_perm {rows rows' : List (List Cell)} (h : rows.Perm rows') :
    (firstTexts rows).Perm (firstTexts rows') :=
  (h.filterMap _).map _

/-- Under its names a row has the same first cell, if there is one for every name. -/
theorem first?_zip {columns : List String} {cells : List Cell}
    (h : cells.length = columns.length) : Row.first? (columns.zip cells) = cells.head? := by
  cases columns with
  | nil =>
      obtain rfl := List.length_eq_zero_iff.mp h
      rfl
  | cons column columns =>
      cases cells with
      | nil => simp at h
      | cons cell cells => rfl

theorem tablesOf_zip {columns : List String} {rows : List (List Cell)}
    (h : ∀ cells ∈ rows, cells.length = columns.length) :
    tablesOf (rows.map columns.zip) = (firstTexts rows).mergeSort := by
  have hfirst : (rows.map columns.zip).filterMap Row.first? = rows.filterMap List.head? := by
    rw [List.filterMap_map]
    exact List.filterMap_congr fun cells hcells => first?_zip (h cells hcells)
  rw [tablesOf, hfirst, firstTexts]

/-- A list of texts put in order is in the order of their bytes. -/
theorem pairwise_bytes_mergeSort (l : List String) :
    l.mergeSort.Pairwise fun s s' => bytes s ≤ bytes s' := by
  have hsorted : l.mergeSort.Pairwise fun s s' => decide (s ≤ s') = true :=
    List.pairwise_mergeSort (by simpa using fun a b c => le_trans) (by simpa using le_total) l
  exact hsorted.imp fun h => bytes_le_iff.mpr (of_decide_eq_true h)

/-- There is one order of the bytes. -/
theorem eq_of_perm {l l' : List String} (h : l.Perm l')
    (hl : l.Pairwise fun s s' => bytes s ≤ bytes s')
    (hl' : l'.Pairwise fun s s' => bytes s ≤ bytes s') : l = l' :=
  h.eq_of_pairwise
    (fun _ _ _ _ hle hge => le_antisymm (bytes_le_iff.mp hle) (bytes_le_iff.mp hge)) hl hl'

theorem mergeSort_of_perm {l l' : List String} (h : l.Perm l') : l.mergeSort = l'.mergeSort := by
  have hperm : l.mergeSort.Perm l'.mergeSort :=
    ((List.mergeSort_perm l _).trans h).trans (List.mergeSort_perm l' _).symm
  exact eq_of_perm hperm (pairwise_bytes_mergeSort l) (pairwise_bytes_mergeSort l')

theorem Table.tables_of_lists {t : Table ε} {columns : List String} {rows : List (List Cell)}
    (h : t.ListsTables columns rows) : t.tables.2 = .ok (firstTexts rows).mergeSort := by
  rw [← tablesOf_zip h.fits]
  exact Table.inquire_eq_ok.mpr ⟨columns, rows, h, rfl⟩

/-- Without columns the rows have no cells. -/
theorem firstTexts_of_no_columns {rows : List (List Cell)} (h : ∀ cells ∈ rows, cells.length = 0) :
    firstTexts rows = [] := by
  have hnone : rows.filterMap List.head? = [] := by
    rw [List.filterMap_eq_nil_iff]
    intro cells hcells
    rw [List.length_eq_zero_iff.mp (h cells hcells)]
    rfl
  rw [firstTexts, hnone, List.map_nil]

theorem Table.exists_listsTables {t : Table ε} {names : List String} (h : t.tables.2 = .ok names) :
    ∃ columns rows, t.ListsTables columns rows := by
  obtain ⟨columns, rows, hsucceeds, -⟩ := Table.inquire_eq_ok.mp h
  exact ⟨columns, rows, hsucceeds⟩

/-- A schema's tables are listed exactly when the engine's answer ends well. They are then the texts
of the first cells of all rows, each as often as it is there, in the order of their bytes: a string
is its own text, and any other cell has its JSON text. Without columns there are none. An answer
with the same rows in any order comes to the same list, under whatever names and however these and
the rows are delivered. -/
theorem tables_of_catalog (t : Table ε) :
    (∀ columns rows, t.ListsTables columns rows → ∃ names, t.tables.2 = .ok names ∧
      names.Perm (firstTexts rows) ∧ names.Pairwise (fun s s' => bytes s ≤ bytes s') ∧
      (columns = [] → names = [])) ∧
    (∀ names, t.tables.2 = .ok names → ∃ columns rows, t.ListsTables columns rows) ∧
    (∀ s, cellText (.string s) = s) ∧
    (∀ cell, (∀ s, cell ≠ .string s) → cellText cell = cell.compact) ∧
    ∀ columns rows, t.ListsTables columns rows →
      ∀ {ε' : Type} (t' : Table ε') columns' rows', t'.ListsTables columns' rows' →
        rows.Perm rows' → t'.tables.2 = t.tables.2 := by
  refine ⟨?_, fun names => Table.exists_listsTables, fun s => rfl, ?_, ?_⟩
  · intro columns rows hlists
    refine ⟨_, Table.tables_of_lists hlists, List.mergeSort_perm _ _,
      pairwise_bytes_mergeSort _, ?_⟩
    rintro rfl
    rw [firstTexts_of_no_columns hlists.fits, List.mergeSort_nil]
  · intro cell hcell
    cases cell with
    | string s => exact absurd rfl (hcell s)
    | _ => rfl
  · intro columns rows hlists ε' t' columns' rows' hlists' hperm
    rw [Table.tables_of_lists hlists, Table.tables_of_lists hlists',
      mergeSort_of_perm (firstTexts_perm hperm)]

/-- Three tables of which two have one name, and once more in another order under another name. -/
theorem orders_of_two_schemas :
    let c : Connector := ⟨.fixed ⟨"h", 80⟩, ⟨"u", "s", "c", none⟩, 1, Nat.one_pos⟩
    let table (steps : List Rehearsal.Step) : Table Rehearsal.Sighting :=
      ⟨c, (Rehearsal.Script.playing steps).client, "t"⟩
    let t := table [.send (.columns ["Table"] true),
      .send (.data [[.string "z"], [.string "é"], [.string "z"]]), .send .success]
    let t' := table [.send (.data [[.string "é"]]), .send (.columns ["name"] true),
      .send (.data [[.string "z"], [.string "z"]]), .send .success]
    t.tables.2 = .ok ["z", "z", "é"] ∧ t'.tables.2 = t.tables.2 := by
  intro c table t t'
  have hlists : t.ListsTables ["Table"] [[.string "z"], [.string "é"], [.string "z"]] :=
    ⟨rfl, rfl, .inl rfl, by decide, by decide⟩
  have hlists' : t'.ListsTables ["name"] [[.string "é"], [.string "z"], [.string "z"]] :=
    ⟨rfl, rfl, .inl rfl, by decide, by decide⟩
  obtain ⟨hnames, -, -, -, hagree⟩ := tables_of_catalog t
  obtain ⟨names, hok, hperm, hsorted, -⟩ := hnames _ _ hlists
  have hexpected : ["z", "z", "é"].Pairwise fun s s' => bytes s ≤ bytes s' := by decide
  obtain rfl : names = ["z", "z", "é"] := eq_of_perm (hperm.trans (by decide)) hsorted hexpected
  exact ⟨hok, hagree _ _ hlists t' _ _ hlists' (.swap _ _ _)⟩

end SqlConnector.Catalog
