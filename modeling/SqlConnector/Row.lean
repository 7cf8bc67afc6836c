import SqlConnector.Json.Value

/-!
Rows of a result: cells under the names of their columns, in column order.
-/

namespace SqlConnector

abbrev Cell := Json.Value

abbrev Row := List (String × Cell)

namespace Row

def get? (name : String) (row : Row) : Option Cell := row.lookup name

/-- The first cell in column order. -/
def first? (row : Row) : Option Cell := row.head?.map Prod.snd

/-- Puts a cell under a name: in its place when the name is there, else at the end. -/
@[simp] def put (row : Row) (name : String) (cell : Cell) : Row :=
  match row with
  | [] => [(name, cell)]
  | (n, c) :: rest => if n = name then (n, cell) :: rest else (n, c) :: put rest name cell

def ofPairs (pairs : List (String × Cell)) : Row :=
  pairs.foldl (fun row (name, cell) => put row name cell) []

/-- A name that is not there goes to the end. -/
@[simp] theorem put_of_not_mem {row : Row} {name : String} {cell : Cell}
    (h : name ∉ row.map Prod.fst) : put row name cell = row ++ [(name, cell)] := by
  induction row with
  | nil => rfl
  | cons pair rest ih =>
      obtain ⟨n, c⟩ := pair
      rw [List.map_cons, List.mem_cons, not_or] at h
      simp [Ne.symm h.1, ih h.2]

theorem foldl_put_of_nodup {pairs : List (String × Cell)} {row : Row}
    (h : (row.map Prod.fst ++ pairs.map Prod.fst).Nodup) :
    pairs.foldl (fun row (name, cell) => put row name cell) row = row ++ pairs := by
  induction pairs generalizing row with
  | nil => simp
  | cons pair rest ih =>
      obtain ⟨name, cell⟩ := pair
      have hname : name ∉ row.map Prod.fst := by
        intro hmem
        rw [List.map_cons, List.nodup_append] at h
        exact h.2.2 name hmem name List.mem_cons_self rfl
      rw [List.foldl_cons]
      show rest.foldl _ (put row name cell) = _
      rw [put_of_not_mem hname, ih (by simpa using h)]
      simp

/-- Pairs under different names are a row as they stand. -/
@[simp] theorem ofPairs_of_nodup {pairs : List (String × Cell)} (h : (pairs.map Prod.fst).Nodup) :
    ofPairs pairs = pairs := by
  simpa [ofPairs] using @foldl_put_of_nodup pairs [] (by simpa using h)

end Row

end SqlConnector
