import Mathlib.Data.List.Basic
import Mathlib.Logic.Relation
import SqlConnector.Proofs.Catalog.Inquiring

/-!
The columns of a table, as the engine's catalog lists them. Each row of the listing stands for one
attribute or for none, which is told by the cells under three names. Main statement: the attributes
of a table are those of the rows, one by one, and stay the same when columns change places, columns
of other names come or go, or rows that stand for nothing are left out.
-/

namespace SqlConnector

/-! ### Cells under names -/

namespace Row

variable {row : Row} {name : String} {cell : Cell}

theorem mem_of_get? (h : row.get? name = some cell) : (name, cell) ∈ row := by
  induction row with
  | nil => cases h
  | cons pair rest ih =>
      obtain ⟨n, c⟩ := pair
      by_cases hn : name = n
      · subst hn
        rw [get?, List.lookup_cons_self] at h
        cases h
        exact List.mem_cons_self
      · have hrest : Row.get? name rest = some cell := by
          rw [get?, List.lookup_cons, beq_false_of_ne hn] at h
          exact h
        exact List.mem_cons_of_mem _ (ih hrest)

/-- With no name twice, a cell is found under a name exactly when it is there. -/
theorem get?_eq_some (h : (row.map Prod.fst).Nodup) :
    row.get? name = some cell ↔ (name, cell) ∈ row := by
  refine ⟨mem_of_get?, fun hmem => ?_⟩
  induction row with
  | nil => cases hmem
  | cons pair rest ih =>
      obtain ⟨n, c⟩ := pair
      obtain ⟨hfresh, hrest⟩ := List.nodup_cons.mp h
      rcases List.mem_cons.mp hmem with heq | hlater
      · cases heq
        exact List.lookup_cons_self
      · have hn : name ≠ n := by
          rintro rfl
          exact hfresh (List.mem_map.mpr ⟨_, hlater, rfl⟩)
        rw [get?, List.lookup_cons, beq_false_of_ne hn]
        exact ih hrest hlater

end Row

/-! ### Columns picked by their positions -/

/-- What stands at these positions, in their order. -/
def pick {α : Type} (positions : List Nat) (l : List α) : List α :=
  positions.filterMap (l[·]?)

theorem mem_of_mem_pick {α : Type} {positions : List Nat} {l : List α} {a : α}
    (h : a ∈ pick positions l) : a ∈ l := by
  obtain ⟨i, -, hi⟩ := List.mem_filterMap.mp h
  exact List.mem_of_getElem? hi

/-- Names and cells picked alike stay together. -/
theorem zip_pick {names : List String} {cells : List Cell} (h : cells.length = names.length)
    (positions : List Nat) :
    (pick positions names).zip (pick positions cells) = pick positions (names.zip cells) := by
  induction positions with
  | nil => rfl
  | cons i rest ih =>
      by_cases hi : i < names.length
      · have hcells : i < cells.length := h ▸ hi
        have hboth : i < (names.zip cells).length := by
          rw [List.length_zip]
          omega
        simp only [pick, List.filterMap_cons, List.getElem?_eq_getElem hi,
          List.getElem?_eq_getElem hcells, List.getElem?_eq_getElem hboth, List.getElem_zip,
          List.zip_cons_cons, List.cons.injEq, true_and]
        exact ih
      · have hcells : cells.length ≤ i := by omega
        have hboth : (names.zip cells).length ≤ i := by
          rw [List.length_zip]
          omega
        simp only [pick, List.filterMap_cons, List.getElem?_eq_none (Nat.le_of_not_lt hi),
          List.getElem?_eq_none hcells, List.getElem?_eq_none hboth]
        exact ih

/-- A name that stays has the same cell after columns were picked. -/
theorem Row.get?_pick {names : List String} {cells : List Cell} (h : cells.length = names.length)
    (hdistinct : names.Nodup) {positions : List Nat} (hpicked : (pick positions names).Nodup)
    {name : String} (hstays : name ∈ names → name ∈ pick positions names) :
    Row.get? name ((pick positions names).zip (pick positions cells)) =
      Row.get? name (names.zip cells) := by
  have hnames : (names.zip cells).map Prod.fst = names := List.map_fst_zip (Nat.le_of_eq h.symm)
  have hkeys : ((names.zip cells).map Prod.fst).Nodup := by rwa [hnames]
  have hpickedNames : (pick positions (names.zip cells)).map Prod.fst = pick positions names := by
    rw [pick, List.map_filterMap, pick]
    congr 1
    funext i
    rw [← List.getElem?_map, hnames]
  have hpickedKeys : ((pick positions (names.zip cells)).map Prod.fst).Nodup := by
    rwa [hpickedNames]
  rw [zip_pick h]
  cases hcell : Row.get? name (names.zip cells) with
  | some cell =>
      rw [get?_eq_some hpickedKeys]
      have hmem := mem_of_get? hcell
      have hname : name ∈ names := (List.of_mem_zip hmem).1
      have hpickedName := hstays hname
      rw [← hpickedNames] at hpickedName
      obtain ⟨⟨n, cell'⟩, hpair, hn⟩ := List.mem_map.mp hpickedName
      obtain rfl : n = name := hn
      -- there is one cell under the name, so that the picked one is no other
      have hsame := (get?_eq_some hkeys).mpr (mem_of_mem_pick hpair)
      rw [hcell, Option.some.injEq] at hsame
      rwa [hsame]
  | none =>
      rw [Option.eq_none_iff_forall_ne_some]
      intro cell hpicked'
      have hmem := mem_of_mem_pick (mem_of_get? hpicked')
      rw [(get?_eq_some hkeys).mpr hmem] at hcell
      cases hcell

namespace Catalog

/-! ### The attribute of a row -/

/-- The names under which a row of the catalog is looked at. -/
def lookedAt : List String := ["name", "sqlType", "arrayType"]

/-- The attribute that a row of the catalog stands for. -/
def attribute? (row : Row) : Option Attribute := (Column.ofRow? row).bind Column.attribute?

theorem attributesOf_eq (rows : List Row) : attributesOf rows = rows.filterMap attribute? :=
  List.filterMap_filterMap

theorem attribute?_congr {row row' : Row}
    (h : ∀ name ∈ lookedAt, row'.get? name = row.get? name) : attribute? row' = attribute? row := by
  have hname := h "name" (by simp [lookedAt])
  have htype := h "sqlType" (by simp [lookedAt])
  have harray := h "arrayType" (by simp [lookedAt])
  simp only [attribute?, Column.ofRow?, hname, htype, harray]

/-- The attribute of a column goes by the column's name. -/
theorem name_of_attribute? {c : Column} {a : Attribute} (h : c.attribute? = some a) :
    a.name = c.name := by
  rw [Column.attribute?] at h
  split at h
  split at h
  · simp only [Option.bind_eq_bind, Option.bind_eq_some_iff] at h
    obtain ⟨element, -, scalar, -, set, -, ha⟩ := h
    cases ha
    rfl
  · obtain ⟨scalar, -, rfl⟩ := Option.map_eq_some_iff.mp h
    rfl

theorem text?_eq_some {cell : Option Cell} {s : String} :
    cell.bind Json.Value.text? = some s ↔ cell = some (.string s) := by
  match cell with
  | none => simp
  | some cell => cases cell <;> simp [Json.Value.text?]

theorem ofRow?_eq_some {row : Row} {c : Column} :
    Column.ofRow? row = some c ↔ row.get? "name" = some (.string c.name) ∧
      row.get? "sqlType" = some (.string c.nativeType) ∧
      c.arrayType = (row.get? "arrayType").bind Json.Value.text? := by
  simp only [Column.ofRow?, Option.bind_eq_bind]
  constructor
  · intro h
    obtain ⟨name, hname, hrest⟩ := Option.bind_eq_some_iff.mp h
    obtain ⟨type, htype, hc⟩ := Option.bind_eq_some_iff.mp hrest
    cases hc
    exact ⟨text?_eq_some.mp hname, text?_eq_some.mp htype, rfl⟩
  · rintro ⟨hname, htype, harray⟩
    rw [text?_eq_some.mpr hname, text?_eq_some.mpr htype, ← harray]
    rfl

/-- A row stands for an attribute when it has texts for the name and the type, and the type is
known. -/
theorem attribute?_eq_some {row : Row} {a : Attribute} :
    attribute? row = some a ↔ ∃ name type, row.get? "name" = some (.string name) ∧
      row.get? "sqlType" = some (.string type) ∧
      Column.attribute? ⟨name, type, (row.get? "arrayType").bind Json.Value.text?⟩ = some a := by
  constructor
  · intro h
    obtain ⟨c, hc, ha⟩ := Option.bind_eq_some_iff.mp h
    obtain ⟨hname, htype, harray⟩ := ofRow?_eq_some.mp hc
    refine ⟨c.name, c.nativeType, hname, htype, ?_⟩
    rwa [← harray]
  · rintro ⟨name, type, hname, htype, ha⟩
    exact Option.bind_eq_some_iff.mpr ⟨_, ofRow?_eq_some.mpr ⟨hname, htype, rfl⟩, ha⟩

/-! ### Listings -/

/-- The columns of a result under names that do not repeat, and its rows. -/
structure Listing where
  names : List String
  rows : List (List Cell)
  distinct : names.Nodup
  fits : ∀ cells ∈ rows, cells.length = names.length

namespace Listing

/-- The attributes that the rows stand for, in the order of the rows. -/
def attributes (l : Listing) : List Attribute :=
  l.rows.filterMap fun cells => attribute? (l.names.zip cells)

/-- A change that takes nothing away that is looked at: columns change places together with the
cells of all rows and some of other names go, or a row goes that stands for no attribute. -/
inductive Change (l l' : Listing) : Prop where
  | columns (positions : List Nat) (names : l'.names = pick positions l.names)
      (rows : l'.rows = l.rows.map (pick positions))
      (looked_at : ∀ name ∈ lookedAt, name ∈ l.names → name ∈ l'.names)
  | row (before after : List (List Cell)) (cells : List Cell) (names : l'.names = l.names)
      (whole : l.rows = before ++ cells :: after) (rest : l'.rows = before ++ after)
      (nothing : attribute? (l.names.zip cells) = none)

/-- One listing comes of the other by such changes, made and taken back in any number. -/
def Alike : Listing → Listing → Prop := Relation.EqvGen Change

theorem attributes_of_change {l l' : Listing} (h : Change l l') : l'.attributes = l.attributes := by
  cases h with
  | columns positions names rows looked_at =>
      rw [attributes, attributes, rows, List.filterMap_map, names]
      refine List.filterMap_congr fun cells hcells => attribute?_congr fun name hname => ?_
      have hpicked : (pick positions l.names).Nodup := names ▸ l'.distinct
      exact Row.get?_pick (l.fits cells hcells) l.distinct hpicked
        fun hmem => names ▸ looked_at name hname hmem
  | row before after cells names whole rest nothing =>
      rw [attributes, attributes, whole, rest, names, List.filterMap_append, List.filterMap_append,
        List.filterMap_cons]
      simp only [nothing]

theorem attributes_of_alike {l l' : Listing} (h : Alike l l') : l'.attributes = l.attributes := by
  induction h with
  | rel l l' hchange => exact attributes_of_change hchange
  | refl l => rfl
  | symm l l' _ ih => exact ih.symm
  | trans l l' l'' _ _ hfirst hsecond => exact hsecond.trans hfirst

end Listing

/-! ### The attributes of a table -/

variable {ε : Type}

/-- The engine answers the question for the columns of a table well, with this listing. -/
def Table.Lists (t : Table ε) (l : Listing) : Prop :=
  Succeeds (t.connector.task t.client (columnsQuery t.name)).deliveries l.names l.rows

theorem attributesOf_zip (l : Listing) : attributesOf (l.rows.map l.names.zip) = l.attributes := by
  rw [attributesOf_eq, List.filterMap_map]
  rfl

theorem Table.attributes_of_lists {t : Table ε} {l : Listing} (h : t.Lists l) :
    t.attributes.2 = .ok l.attributes := by
  rw [← attributesOf_zip]
  exact Table.inquire_eq_ok.mpr ⟨l.names, l.rows, h, rfl⟩

theorem Table.exists_lists {t : Table ε} {as : List Attribute} (h : t.attributes.2 = .ok as) :
    ∃ l, t.Lists l ∧ as = l.attributes := by
  obtain ⟨names, rows, hsucceeds, hread⟩ := Table.inquire_eq_ok.mp h
  let l : Listing := ⟨names, rows, hsucceeds.distinct, hsucceeds.fits⟩
  refine ⟨l, hsucceeds, ?_⟩
  rw [← attributesOf_zip]
  exact (Except.ok.inj hread).symm

/-- A table has attributes exactly when the engine lists its columns well, and these are the ones
that the rows stand for, one by one in their order. A row stands for an attribute of its name when
its cells for the name and the type are texts and the type is known, and else for none. Listings
that are alike, however they are delivered, come to the same attributes. -/
theorem attributes_of_catalog (t : Table ε) :
    (∀ as, t.attributes.2 = .ok as ↔ ∃ l, t.Lists l ∧ as = l.attributes) ∧
    (∀ row a, attribute? row = some a ↔ ∃ type, row.get? "name" = some (.string a.name) ∧
      row.get? "sqlType" = some (.string type) ∧
      Column.attribute? ⟨a.name, type, (row.get? "arrayType").bind Json.Value.text?⟩ = some a) ∧
    ∀ l, t.Lists l → ∀ {ε' : Type} (t' : Table ε') (l' : Listing), t'.Lists l' → l.Alike l' →
      t'.attributes.2 = t.attributes.2 := by
  refine ⟨fun as => ⟨Table.exists_lists, ?_⟩, fun row a => ?_, ?_⟩
  · rintro ⟨l, hlists, rfl⟩
    exact Table.attributes_of_lists hlists
  · constructor
    · intro h
      obtain ⟨name, type, hname, htype, ha⟩ := attribute?_eq_some.mp h
      obtain rfl : a.name = name := name_of_attribute? ha
      exact ⟨type, hname, htype, ha⟩
    · rintro ⟨type, hname, htype, ha⟩
      exact attribute?_eq_some.mpr ⟨a.name, type, hname, htype, ha⟩
  · intro l hlists ε' t' l' hlists' halike
    rw [Table.attributes_of_lists hlists, Table.attributes_of_lists hlists',
      Listing.attributes_of_alike halike]

/-- The same column listed in two ways, in one batch after the names and before them in two. -/
theorem page_of_two_catalogs :
    let c : Connector := ⟨.fixed ⟨"h", 80⟩, ⟨"u", "s", "c", none⟩, 1, Nat.one_pos⟩
    let table (steps : List Rehearsal.Step) : Table Rehearsal.Sighting :=
      ⟨c, (Rehearsal.Script.playing steps).client, "t"⟩
    let t := table [.send (.columns ["name", "sqlType"] true),
      .send (.data [[.string "page", .string "VARCHAR"]]), .send .success]
    let t' := table [.send (.data [[.string "varbinary", .null, .string "place"]]),
      .send (.data [[.string "VARCHAR", .null, .string "page"], [.string "date", .null, .null]]),
      .send (.columns ["sqlType", "comment", "name"] true), .send .success]
    t.attributes.2 = .ok [⟨"page", .string, "varchar"⟩] ∧ t'.attributes.2 = t.attributes.2 := by
  intro c table t t'
  let l : Listing := ⟨["name", "sqlType"], [[.string "page", .string "VARCHAR"]],
    by decide, by decide⟩
  let named : List String := ["sqlType", "comment", "name"]
  let l₁ : Listing := ⟨named, [[.string "VARCHAR", .null, .string "page"]], by decide, by decide⟩
  let l₂ : Listing := ⟨named, [[.string "VARCHAR", .null, .string "page"],
    [.string "date", .null, .null]], by decide, by decide⟩
  let l' : Listing := ⟨named, [[.string "varbinary", .null, .string "place"],
    [.string "VARCHAR", .null, .string "page"], [.string "date", .null, .null]],
    by decide, by decide⟩
  have hlists : t.Lists l := ⟨rfl, rfl, .inl rfl, l.distinct, l.fits⟩
  have hlists' : t'.Lists l' := ⟨rfl, rfl, .inl rfl, l'.distinct, l'.fits⟩
  have hmoved : l₁.Change l := .columns [2, 0] rfl rfl (by decide)
  have hunnamed : l₂.Change l₁ := .row l₁.rows [] _ rfl rfl rfl (by decide +kernel)
  have hunsupported : l'.Change l₂ := .row [] l₂.rows _ rfl rfl rfl (by decide +kernel)
  have halike : l.Alike l' :=
    .symm _ _ (.trans _ _ _ (.rel _ _ hunsupported)
      (.trans _ _ _ (.rel _ _ hunnamed) (.rel _ _ hmoved)))
  obtain ⟨hattributes, -, hagree⟩ := attributes_of_catalog t
  refine ⟨(hattributes _).mpr ⟨l, hlists, ?_⟩, hagree l hlists t' l' hlists' halike⟩
  decide +kernel

end Catalog

end SqlConnector
