import SqlConnector.Proofs.Sql.Arithmetic
import SqlConnector.Proofs.Sql.Term

/-!
The parts of a time as templates, in which `$$` holds the place of the operand in wall time. A part
is written by putting that text in every place. Each place is the whole argument of one function, so
that in what is written the functions are called on the operand in wall time, once for each place,
and no place is left.
-/

namespace SqlConnector.Sql

/-! ### Putting a text in the places -/

def placeholder : String := "$$"

/-- The text with `filling` in every place, in one go from the left. -/
def putInPlaces (filling : List Char) : List Char → List Char
  | '$' :: '$' :: rest => filling ++ putInPlaces filling rest
  | c :: rest => c :: putInPlaces filling rest
  | [] => []

theorem putInPlaces_cons_of_ne {c : Char} (h : c ≠ '$') (filling rest : List Char) :
    putInPlaces filling (c :: rest) = c :: putInPlaces filling rest := by
  rw [putInPlaces]
  rintro rest' rfl
  exact absurd rfl h

theorem putInPlaces_append {s : List Char} (h : '$' ∉ s) (filling rest : List Char) :
    putInPlaces filling (s ++ rest) = s ++ putInPlaces filling rest := by
  induction s with
  | nil => rfl
  | cons c s ih =>
      rw [List.mem_cons, not_or] at h
      rw [List.cons_append, putInPlaces_cons_of_ne (Ne.symm h.1), ih h.2, List.cons_append]

theorem putInPlaces_placeholder (filling rest : List Char) :
    putInPlaces filling (placeholder.toList ++ rest) = filling ++ putInPlaces filling rest :=
  rfl

/-! ### Texts around places -/

/-- The places of a frame are the arguments of these functions, each the whole of one argument, and
there is no placeholder in its texts. -/
structure Frame.Applies (f : Frame 1) (functions : List String) : Prop where
  operands : ∀ p ∈ f.parts, p.2 = .operand 0
  called : List.Forall₂ (fun p function => ∃ lead, p.1 = lead ++ function ++ "(") f.parts functions
  closed : ∀ text ∈ f.texts.tail, ∃ rest, text = ")" ++ rest
  no_place : ∀ text ∈ f.texts, '$' ∉ text.toList

/-- Filling the places one by one comes to the frame that is filled. -/
theorem Frame.putInPlaces_fill {f : Frame 1} (hoperands : ∀ p ∈ f.parts, p.2 = .operand 0)
    (hplaces : ∀ text ∈ f.texts, '$' ∉ text.toList) (filling : String) :
    putInPlaces filling.toList (f.fill fun _ => placeholder).toList =
      (f.fill fun _ => filling).toList := by
  obtain ⟨parts, last⟩ := f
  induction parts with
  | nil =>
      have hlast := putInPlaces_append (hplaces last (by simp [texts])) filling.toList []
      rw [List.append_nil] at hlast
      rw [show putInPlaces filling.toList [] = [] from rfl, List.append_nil] at hlast
      exact hlast
  | cons p rest ih =>
      obtain ⟨text, hole⟩ := p
      obtain rfl : hole = .operand 0 := hoperands _ List.mem_cons_self
      have hrest := ih (fun p hp => hoperands p (List.mem_cons_of_mem _ hp))
        fun text' htext' => hplaces text' (List.mem_cons_of_mem _ htext')
      rw [fill_cons, fill_cons]
      simp only [Hole.sql, String.toList_append]
      rw [putInPlaces_append (hplaces text List.mem_cons_self), putInPlaces_placeholder, hrest]

/-! ### Formulas as frames -/

namespace Formula

def frame (formula : Formula) : Frame 1 :=
  ⟨(formula.cuts "").1.map fun text => (text, .operand ⟨0, Nat.one_pos⟩), (formula.cuts "").2⟩

theorem fill_frame (formula : Formula) (operand : String) :
    formula.frame.fill (fun _ => operand) = formula.text operand :=
  (Term.fill_cuts formula "" operand).trans String.empty_append

theorem texts_frame (formula : Formula) :
    formula.frame.texts = (formula.cuts "").1 ++ [(formula.cuts "").2] :=
  Frame.texts_map _ _ _

theorem called_cuts (formula : Formula) (front : String) :
    List.Forall₂ (fun text function => ∃ lead, text = lead ++ function ++ "(")
      (formula.cuts front).1 formula.arithmetic.calls := by
  induction formula generalizing front with
  | field f => exact .cons ⟨front, rfl⟩ .nil
  | lessOne f => exact .cons ⟨front ++ "(", rfl⟩ .nil
  | step units size next ih =>
      have hcalls : (step units size next).arithmetic.calls =
          units.arithmetic.calls ++ [next.name] := by
        simp [arithmetic, Arithmetic.calls]
      rw [hcalls]
      exact List.rel_append (ih (front ++ "(")) (.cons ⟨_, rfl⟩ .nil)

theorem exists_last_cuts (formula : Formula) (front : String) :
    ∃ rest, (formula.cuts front).2 = ")" ++ rest := by
  cases formula with
  | field f => exact ⟨"", by simp⟩
  | lessOne f => exact ⟨"-1)", by simp⟩
  | step units size next => exact ⟨")", by simp⟩

theorem cuts_ne_nil (formula : Formula) (front : String) : (formula.cuts front).1 ≠ [] := by
  cases formula <;> simp

theorem closed_cuts (formula : Formula) (front : String) :
    ∀ text ∈ (formula.cuts front).1.tail, ∃ rest, text = ")" ++ rest := by
  induction formula generalizing front with
  | field f => simp
  | lessOne f => simp
  | step units size next ih =>
      intro text htext
      simp only [cuts, List.tail_append_of_ne_nil (units.cuts_ne_nil _), List.mem_append,
        List.mem_singleton] at htext
      rcases htext with hbefore | rfl
      · exact ih (front ++ "(") text hbefore
      · obtain ⟨rest, hrest⟩ := units.exists_last_cuts (front ++ "(")
        exact ⟨_, by simp only [hrest, String.append_assoc]; rfl⟩

theorem place_not_mem_name (f : Field) : '$' ∉ f.name.toList := by cases f <;> decide

theorem place_not_mem_digits (n : Nat) : '$' ∉ Nat.toDigits 10 n :=
  Text.not_mem_digits (by decide) n

theorem place_not_mem_cuts (formula : Formula) {front : String} (h : '$' ∉ front.toList) :
    ∀ text ∈ (formula.cuts front).1 ++ [(formula.cuts front).2], '$' ∉ text.toList := by
  induction formula generalizing front with
  | field f => simp [h, place_not_mem_name]
  | lessOne f => simp [h, place_not_mem_name]
  | step units size next ih =>
      have hunits := ih (show '$' ∉ (front ++ "(").toList by simp [h])
      intro text htext
      simp only [cuts, List.mem_append, List.mem_singleton] at hunits htext
      rcases htext with (hbefore | rfl) | rfl
      · exact hunits text (.inl hbefore)
      · have hlast := hunits _ (.inr rfl)
        simp [hlast, place_not_mem_digits, place_not_mem_name]
      · decide

theorem applies_frame (formula : Formula) : formula.frame.Applies formula.arithmetic.calls where
  operands p hp := by
    obtain ⟨text, -, rfl⟩ := List.mem_map.mp hp
    rfl
  called := List.forall₂_map_left_iff.mpr (formula.called_cuts "")
  closed := by
    rw [texts_frame, List.tail_append_of_ne_nil (formula.cuts_ne_nil "")]
    intro text htext
    rcases List.mem_append.mp htext with hbefore | hlast
    · exact formula.closed_cuts "" text hbefore
    · obtain rfl := List.mem_singleton.mp hlast
      exact formula.exists_last_cuts ""
  no_place := by
    rw [texts_frame]
    exact formula.place_not_mem_cuts (by decide)

/-- A formula is written by putting the operand in the places of its template. -/
theorem putInPlaces_text (formula : Formula) (filling : String) :
    putInPlaces filling.toList (formula.text placeholder).toList =
      (formula.text filling).toList := by
  obtain ⟨hoperands, -, -, hplaces⟩ := formula.applies_frame
  rw [← fill_frame, ← fill_frame]
  exact Frame.putInPlaces_fill hoperands hplaces filling

end Formula

/-! ### The templates of the parts -/

/-- The templates of the parts of a time. -/
def templates : List (String × String) := [
  ("SECOND_OF_MINUTE", "SECOND($$)"),
  ("SECOND_OF_HOUR", "(MINUTE($$)*60+SECOND($$))"),
  ("SECOND_OF_DAY", "((HOUR($$)*60+MINUTE($$))*60+SECOND($$))"),
  ("SECOND_OF_WEEK", "((((DOW($$)-1)*24+HOUR($$))*60+MINUTE($$))*60+SECOND($$))"),
  ("SECOND_OF_MONTH", "((((DAY($$)-1)*24+HOUR($$))*60+MINUTE($$))*60+SECOND($$))"),
  ("SECOND_OF_YEAR", "((((DOY($$)-1)*24+HOUR($$))*60+MINUTE($$))*60+SECOND($$))"),
  ("MINUTE_OF_HOUR", "MINUTE($$)"),
  ("MINUTE_OF_DAY", "(HOUR($$)*60+MINUTE($$))"),
  ("MINUTE_OF_WEEK", "(((DOW($$)-1)*24+HOUR($$))*60+MINUTE($$))"),
  ("MINUTE_OF_MONTH", "(((DAY($$)-1)*24+HOUR($$))*60+MINUTE($$))"),
  ("MINUTE_OF_YEAR", "(((DOY($$)-1)*24+HOUR($$))*60+MINUTE($$))"),
  ("HOUR_OF_DAY", "HOUR($$)"),
  ("HOUR_OF_WEEK", "((DOW($$)-1)*24+HOUR($$))"),
  ("HOUR_OF_MONTH", "((DAY($$)-1)*24+HOUR($$))"),
  ("HOUR_OF_YEAR", "((DOY($$)-1)*24+HOUR($$))"),
  ("DAY_OF_WEEK", "DOW($$)"),
  ("DAY_OF_MONTH", "DAY($$)"),
  ("DAY_OF_YEAR", "DOY($$)"),
  ("WEEK_OF_YEAR", "WEEK($$)"),
  ("MONTH_OF_YEAR", "MONTH($$)"),
  ("YEAR", "YEAR($$)")]

theorem templates_eq :
    templates = parts.map fun part => (part.1, part.2.text placeholder) := by
  decide +kernel

theorem lookup_map_snd {β γ : Type} (f : β → γ) (pairs : List (String × β)) (key : String) :
    (pairs.map fun pair => (pair.1, f pair.2)).lookup key = (pairs.lookup key).map f := by
  induction pairs with
  | nil => rfl
  | cons pair rest ih =>
      obtain ⟨name, value⟩ := pair
      simp only [List.map_cons, List.lookup_cons, ih]
      cases key == name <;> rfl

theorem lookup_templates (part : String) :
    templates.lookup part = (parts.lookup part).map (·.text placeholder) := by
  rw [templates_eq, lookup_map_snd]

end SqlConnector.Sql
