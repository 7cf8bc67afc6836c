import SqlConnector.Proofs.Sql.Frame
import SqlConnector.Sql.Presto

/-!
What the equality of two operands comes to under the three values of SQL's logic, when the operands
may be null. The SQL is read as a predicate about its operands; their values are given, whatever
they are, and only the null literal is known to be null. Main statement: the predicate holds exactly
when the values are equal, as far as one of them is not null or is written as the literal.
-/

namespace SqlConnector.Sql

/-! ### Three values -/

inductive Truth where
  | holds
  | fails
  | unknown
  deriving DecidableEq, Repr

namespace Truth

def ofBool (b : Bool) : Truth := if b then holds else fails

def or : Truth → Truth → Truth
  | holds, _ => holds
  | _, holds => holds
  | fails, fails => fails
  | _, _ => unknown

variable {α : Type} [DecidableEq α]

/-- Nothing is known to equal a null, or to differ from it. -/
def equal : Option α → Option α → Truth
  | some a, some b => ofBool (a = b)
  | _, _ => unknown

/-- A value is among some when it equals one of them. -/
def among (a : Option α) (candidates : List (Option α)) : Truth :=
  candidates.foldr (fun b rest => (equal a b).or rest) fails

theorem among_singleton (a b : Option α) : among a [b] = equal a b := by
  show (equal a b).or fails = equal a b
  cases equal a b <;> rfl

theorem equal_comm (a b : Option α) : equal a b = equal b a := by
  cases a <;> cases b <;> simp [equal, eq_comm]

theorem ofBool_eq_holds {b : Bool} : ofBool b = holds ↔ b = true := by
  cases b <;> simp [ofBool]

theorem ofBool_ne_unknown (b : Bool) : ofBool b ≠ unknown := by
  cases b <;> simp [ofBool]

theorem equal_eq_holds {a b : Option α} : equal a b = holds ↔ a = b ∧ a.isSome := by
  cases a <;> cases b <;> simp [equal, ofBool_eq_holds]

theorem equal_eq_unknown {a b : Option α} : equal a b = unknown ↔ a = none ∨ b = none := by
  cases a <;> cases b <;> simp [equal, ofBool_ne_unknown]

end Truth

/-! ### Predicates about operands -/

/-- An evaluation of operands: a value for each text, none where it is null. -/
structure Valuation (α : Type) where
  value : String → Option α
  value_null : value "NULL" = none

inductive Predicate where
  | isNull (operand : String)
  | isIn (operand candidate : String)
  deriving DecidableEq, Repr

namespace Predicate

def toSql : Predicate → String
  | isNull operand => operand ++ " IS NULL"
  | isIn operand candidate => "(" ++ operand ++ " IN (" ++ candidate ++ "))"

def operands : Predicate → List String
  | isNull operand => [operand]
  | isIn operand candidate => [operand, candidate]

@[simp] theorem operands_isNull (operand : String) : (isNull operand).operands = [operand] := rfl

@[simp] theorem operands_isIn (operand candidate : String) :
    (isIn operand candidate).operands = [operand, candidate] := rfl

def truth {α : Type} [DecidableEq α] (v : Valuation α) : Predicate → Truth
  | isNull operand => .ofBool (v.value operand).isNone
  | isIn operand candidate => .among (v.value operand) [v.value candidate]

/-- `sql` reads as the predicate `p` about these operands. -/
structure Reads (operands : List String) (sql : String) (p : Predicate) : Prop where
  text : p.toSql = sql
  about : ∀ o ∈ p.operands, o ∈ operands

/-! ### The readings of a text -/

theorem isNull_inj {o o' : String} (h : (isNull o).toSql = (isNull o').toSql) : o = o' := by
  have htexts := congrArg String.toList h
  simp only [toSql, String.toList_append] at htexts
  exact String.toList_inj.mp (List.append_cancel_right htexts)

theorem isNull_ne_isIn (o l r : String) : (isNull o).toSql ≠ (isIn l r).toSql := by
  intro h
  have hlast := congrArg (fun s : String => s.toList.reverse.head?) h
  simp [toSql, String.toList_append] at hlast

theorem toList_eq_of_isIn {l r l' r' : String} (h : (isIn l r).toSql = (isIn l' r').toSql) :
    l.toList ++ (" IN (".toList ++ r.toList) = l'.toList ++ (" IN (".toList ++ r'.toList) := by
  have htexts := congrArg String.toList h
  simp only [toSql, String.toList_append, List.append_assoc] at htexts
  have hinner := List.append_cancel_left htexts
  simp only [← List.append_assoc] at hinner
  simpa only [List.append_assoc] using List.append_cancel_right hinner

/-- The separator of a membership overlaps with none that begins later. -/
theorem exists_after_separator {w r r' : List Char}
    (h : " IN (".toList ++ r = w ++ (" IN (".toList ++ r')) :
    w = [] ∨ ∃ w', w = " IN (".toList ++ w' ∧ r = w' ++ (" IN (".toList ++ r') := by
  have hsep : " IN (".toList = [' ', 'I', 'N', ' ', '('] := rfl
  rw [hsep] at h ⊢
  match w with
  | [] => exact .inl rfl
  | [_] => simp at h
  | [_, _] => simp at h
  | [_, _, _] => simp at h
  | [_, _, _, _] => simp at h
  | a :: b :: c :: d :: e :: w' =>
      right
      simp only [List.cons_append, List.nil_append, List.cons.injEq] at h
      obtain ⟨rfl, rfl, rfl, rfl, rfl, hr⟩ := h
      exact ⟨w', rfl, hr⟩

end Predicate

/-- A text that is complete ends apart from what follows, once the separator is written. -/
theorem endsApart_separator {sql : String} {ls : List Lexeme} (h : lex? sql = some ls) :
    EndsApart (sql ++ " IN (") := by
  obtain ⟨hm, -⟩ := lex?_eq_some.mp h
  rw [EndsApart, String.toList_append, Mode.run_append]
  show ((Mode.outside.run sql.toList).1.run (' ' :: "IN (".toList)).1 = .outside
  rw [Mode.run_cons_of_isMark hm (by decide)]
  rfl

/-- What stands after a text that ends apart is complete when both are together. -/
theorem exists_lex?_of_append {s t : String} {ls : List Lexeme} (hs : EndsApart s)
    (h : lex? (s ++ t) = some ls) : ∃ ms, lex? t = some ms := by
  obtain ⟨hm, -⟩ := lex?_eq_some.mp h
  rw [String.toList_append, Mode.run_append, show (Mode.outside.run s.toList).1 = .outside from hs]
    at hm
  exact ⟨_, lex?_eq_some.mpr ⟨hm, rfl⟩⟩

/-- No closed text ends in what a closed text begins with, from a parenthesis of the one on. -/
theorem not_closed_of_shared {l w r : String} (hl : Closed l) (hlw : Closed (l ++ " IN (" ++ w)) :
    ¬Closed (w ++ " IN (" ++ r) := by
  rintro ⟨wrs, hwrs, hwrDepth, -⟩
  obtain ⟨ls, hls, hlDepth, -⟩ := hl
  obtain ⟨lws, hlws, hlwDepth, -⟩ := hlw
  have hopen : lex? " IN (" = some [.mark ' ', .word "IN", .mark ' ', .mark '('] := by decide
  have hapart : EndsApart (l ++ " IN (") := endsApart_separator hls
  obtain ⟨ws, hws⟩ := exists_lex?_of_append hapart hlws
  -- the parenthesis is closed within `w`, as `l` is balanced without it
  have hclosed : depth? 1 ws = some 0 := by
    have htexts := lex?_append (lex?_append hls hopen (.inr (by decide))) hws (.inl hapart)
    obtain rfl : _ = lws := Option.some.inj (htexts.symm.trans hlws)
    rw [depth?_append, depth?_append, hlDepth] at hlwDepth
    exact hlwDepth
  -- but `w` is where another closed text begins, so that its depth never goes below nothing
  obtain ⟨k, hk⟩ : ∃ k, depth? 0 ws = some k := by
    obtain ⟨rs, hrs⟩ := exists_lex?_of_append (endsApart_separator hws) hwrs
    have htexts := lex?_append (lex?_append hws hopen (.inr (by decide))) hrs
      (.inl (endsApart_separator hws))
    obtain rfl : _ = wrs := Option.some.inj (htexts.symm.trans hwrs)
    rw [List.append_assoc, depth?_append] at hwrDepth
    obtain ⟨k, hk, -⟩ := Option.bind_eq_some_iff.mp hwrDepth
    exact ⟨k, hk⟩
  have hadd := depth?_add hk 1
  rw [Nat.zero_add, hclosed] at hadd
  cases hadd

namespace Predicate

/-- Of two memberships with one text, neither has the longer operand. -/
theorem eq_of_isIn_of_prefix {l r l' r' : String} {w : List Char} (hl : Closed l) (hr : Closed r)
    (hl' : Closed l') (hw : l'.toList = l.toList ++ w)
    (h : " IN (".toList ++ r.toList = w ++ (" IN (".toList ++ r'.toList)) : l = l' ∧ r = r' := by
  rcases exists_after_separator h with rfl | ⟨w', rfl, hrest⟩
  · have hcandidate := List.append_cancel_left h
    exact ⟨String.toList_inj.mp (by simpa using hw.symm), String.toList_inj.mp hcandidate⟩
  · exfalso
    have hleft : l' = l ++ " IN (" ++ String.ofList w' := by
      apply String.toList_inj.mp
      simpa using hw
    have hright : r = String.ofList w' ++ " IN (" ++ r' := by
      apply String.toList_inj.mp
      simpa using hrest
    rw [hleft] at hl'
    rw [hright] at hr
    exact not_closed_of_shared hl hl' hr

/-- Closed operands are read back from the text of a membership. -/
theorem isIn_inj {l r l' r' : String} (hl : Closed l) (hr : Closed r) (hl' : Closed l')
    (hr' : Closed r') (h : (isIn l r).toSql = (isIn l' r').toSql) : l = l' ∧ r = r' := by
  rcases List.append_eq_append_iff.mp (toList_eq_of_isIn h) with ⟨w, hw, hrest⟩ | ⟨w, hw, hrest⟩
  · exact eq_of_isIn_of_prefix hl hr hl' hw hrest
  · obtain ⟨hleft, hright⟩ := eq_of_isIn_of_prefix hl' hr' hl hw hrest
    exact ⟨hleft.symm, hright.symm⟩

/-- A text is at most one predicate about closed operands. -/
theorem eq_of_toSql {p q : Predicate} (hp : ∀ o ∈ p.operands, Closed o)
    (hq : ∀ o ∈ q.operands, Closed o) (h : p.toSql = q.toSql) : p = q := by
  cases p with
  | isNull o =>
      cases q with
      | isNull o' => rw [isNull_inj h]
      | isIn l r => exact absurd h (isNull_ne_isIn o l r)
  | isIn l r =>
      cases q with
      | isNull o => exact absurd h.symm (isNull_ne_isIn o l r)
      | isIn l' r' =>
          obtain ⟨rfl, rfl⟩ := isIn_inj (hp l (by simp)) (hp r (by simp))
            (hq l' (by simp)) (hq r' (by simp)) h
          rfl

end Predicate

/-! ### Equality of two operands -/

namespace Predicate

open Presto (nullLiteral isNotDistinct)

variable {α : Type} [DecidableEq α] {left right : String} {p : Predicate}

/-- The predicate that is written about two operands. -/
def ofOperands (left right : String) : Predicate :=
  if left = nullLiteral then isNull right
  else if right = nullLiteral then isNull left
  else isIn left right

theorem toSql_ofOperands (left right : String) :
    (ofOperands left right).toSql = isNotDistinct left right := by
  have hnull (o : String) : (isNull o).toSql = o ++ " IS " ++ nullLiteral := by
    rw [String.append_assoc]
    rfl
  unfold ofOperands isNotDistinct
  split
  · exact hnull right
  · split
    · exact hnull left
    · rfl

theorem reads_ofOperands (left right : String) :
    Reads [left, right] (isNotDistinct left right) (ofOperands left right) := by
  refine ⟨toSql_ofOperands left right, ?_⟩
  unfold ofOperands
  split
  · simp
  · split <;> simp

/-- A membership of two operands in one another is the same equality in each direction. -/
theorem truth_isIn_of_about (v : Valuation α) {a b : String} (ha : a ∈ [left, right])
    (hb : b ∈ [left, right]) (h : (isIn a b).toSql = (isIn left right).toSql) :
    (isIn a b).truth v = (isIn left right).truth v := by
  have htexts := toList_eq_of_isIn h
  simp only [truth, Truth.among_singleton]
  simp only [List.mem_cons, List.not_mem_nil, or_false] at ha hb
  rcases ha with rfl | rfl <;> rcases hb with rfl | rfl
  · -- the left operand twice has the text of both only if they are the same
    have hcandidates := List.append_cancel_left (List.append_cancel_left htexts)
    rw [String.toList_inj.mp hcandidates]
  · rfl
  · exact Truth.equal_comm _ _
  · have hoperands := List.append_cancel_right htexts
    rw [String.toList_inj.mp hoperands]

/-- Read about its two operands, the text has one truth value, however it is read. -/
theorem truth_of_reads (v : Valuation α) (h : Reads [left, right] (isNotDistinct left right) p) :
    p.truth v = (ofOperands left right).truth v := by
  obtain ⟨htext, habout⟩ := h
  rw [← toSql_ofOperands] at htext
  unfold ofOperands at htext ⊢
  cases p with
  | isNull o =>
      split at htext
      · rw [if_pos ‹_›, isNull_inj htext]
      · rw [if_neg ‹_›]
        split at htext
        · rw [if_pos ‹_›, isNull_inj htext]
        · exact absurd htext (isNull_ne_isIn _ _ _)
  | isIn a b =>
      split at htext
      · exact absurd htext.symm (isNull_ne_isIn _ _ _)
      · rw [if_neg ‹_›]
        split at htext
        · exact absurd htext.symm (isNull_ne_isIn _ _ _)
        · rw [if_neg ‹_›]
          exact truth_isIn_of_about v (habout a (by simp))
            (habout b (by simp)) htext

/-- What the predicate comes to: equality that also holds of two nulls when one operand is written
as the null literal, and is unknown of nulls when none is. -/
theorem truth_ofOperands (v : Valuation α) (left right : String) :
    (ofOperands left right).truth v =
      if left = nullLiteral ∨ right = nullLiteral then .ofBool (v.value left = v.value right)
      else .equal (v.value left) (v.value right) := by
  have hnull : v.value nullLiteral = none := v.value_null
  have hisNull (a : Option α) : a.isNone = decide (a = none) := by cases a <;> rfl
  unfold ofOperands
  by_cases hleft : left = nullLiteral
  · simp only [hleft, if_true, true_or, truth, hnull, hisNull, eq_comm]
  · by_cases hright : right = nullLiteral
    · simp only [hleft, hright, if_true, if_false, or_true, truth, hnull, hisNull]
    · simp only [hleft, hright, if_false, or_self, truth, Truth.among_singleton]

/-- The equality of two operands, whatever their values. The SQL reads as a predicate about
its operands, with one truth value, and as no other about closed operands. The predicate holds
exactly when the values are equal and either not null or, one of them, written as the null literal;
so it holds exactly when they are equal, unless both are null and neither is the literal. It is
unknown when there is a null and no literal, and the same when the operands change places. -/
theorem truth_of_isNotDistinct (v : Valuation α) (left right : String) :
    let sql := isNotDistinct left right
    let literal := left = nullLiteral ∨ right = nullLiteral
    (∃ p, Reads [left, right] sql p) ∧
      (∀ p, Reads [left, right] sql p →
        (p.truth v = .holds ↔
          v.value left = v.value right ∧ ((v.value left).isSome ∨ literal)) ∧
        (p.truth v = .unknown ↔ (v.value left = none ∨ v.value right = none) ∧ ¬literal) ∧
        ((p.truth v = .holds ↔ v.value left = v.value right) ↔
          ¬(v.value left = none ∧ v.value right = none ∧ ¬literal)) ∧
        ∀ q, Reads [right, left] (isNotDistinct right left) q → q.truth v = p.truth v) ∧
      (Closed left → Closed right →
        ∀ p : Predicate, p.toSql = sql → (∀ o ∈ p.operands, Closed o) →
          Reads [left, right] sql p) := by
  intro sql literal
  have htruth {p : Predicate} (hp : Reads [left, right] sql p) : p.truth v =
      if literal then .ofBool (v.value left = v.value right)
      else .equal (v.value left) (v.value right) :=
    (truth_of_reads v hp).trans (truth_ofOperands v left right)
  have hholds {p : Predicate} (hp : Reads [left, right] sql p) : p.truth v = .holds ↔
      v.value left = v.value right ∧ ((v.value left).isSome ∨ literal) := by
    rw [htruth hp]
    by_cases hliteral : literal
    · simp [hliteral, Truth.ofBool_eq_holds]
    · simp [hliteral, Truth.equal_eq_holds]
  refine ⟨⟨_, reads_ofOperands left right⟩, fun p hp => ⟨hholds hp, ?_, ?_, fun q hq => ?_⟩, ?_⟩
  · rw [htruth hp]
    by_cases hliteral : literal
    · simp [hliteral, Truth.ofBool_ne_unknown]
    · simp [hliteral, Truth.equal_eq_unknown]
  · rw [hholds hp]
    constructor
    · rintro hequal ⟨hleft, hright, hliteral⟩
      have hboth := (hequal.mpr (hleft.trans hright.symm)).2
      simp [hleft, hliteral] at hboth
    · intro hnulls
      refine ⟨And.left, fun hequal => ⟨hequal, ?_⟩⟩
      by_cases hliteral : literal
      · exact .inr hliteral
      · left
        rw [Option.isSome_iff_ne_none]
        exact fun hleft => hnulls ⟨hleft, hequal ▸ hleft, hliteral⟩
  · rw [htruth hp, truth_of_reads v hq, truth_ofOperands, Truth.equal_comm]
    simp only [or_comm, eq_comm, literal]
  · intro hleft hright p htext hclosed
    have hoperands : ∀ o ∈ (ofOperands left right).operands, Closed o := by
      intro o ho
      have hmem := (reads_ofOperands left right).about o ho
      simp only [List.mem_cons, List.not_mem_nil, or_false] at hmem
      rcases hmem with rfl | rfl
      · exact hleft
      · exact hright
    obtain rfl := eq_of_toSql hclosed hoperands (htext.trans (toSql_ofOperands left right).symm)
    exact reads_ofOperands left right

/-- A null that is computed equals the null literal. -/
theorem computed_null_equals_literal :
    let v : Valuation Nat := ⟨fun _ => none, rfl⟩
    let computed := "CAST(NULL AS VARCHAR)"
    let p : Predicate := .isNull computed
    Closed computed ∧ Closed "NULL" ∧
      Reads [computed, "NULL"] (isNotDistinct computed "NULL") p ∧ p.truth v = .holds ∧
      Reads ["NULL", computed] (isNotDistinct "NULL" computed) p := by
  intro v computed p
  have hcomputed : Closed computed := by decide +kernel
  have hliteral : Closed "NULL" := by decide
  obtain ⟨-, htruth, hunique⟩ := truth_of_isNotDistinct v computed "NULL"
  have hreads : Reads [computed, "NULL"] (isNotDistinct computed "NULL") p :=
    hunique hcomputed hliteral p (by decide) (by simpa [p] using hcomputed)
  obtain ⟨hholds, -, -, -⟩ := htruth p hreads
  refine ⟨hcomputed, hliteral, hreads, hholds.mpr ⟨rfl, .inr (.inr rfl)⟩, ?_⟩
  exact ⟨by decide, by simp [p]⟩

/-- Two columns that are both null do not count as equal. -/
theorem null_columns_not_equal :
    let v : Valuation Nat := ⟨fun _ => none, rfl⟩
    isNotDistinct "a" "b" = "(a IN (b))" ∧ v.value "a" = v.value "b" ∧
      ¬∀ p, Reads ["a", "b"] (isNotDistinct "a" "b") p →
        (p.truth v = .holds ↔ v.value "a" = v.value "b") := by
  intro v
  refine ⟨by decide, rfl, fun h => ?_⟩
  have hholds : (isIn "a" "b").truth v = .holds :=
    (h (isIn "a" "b") ⟨by decide, by simp⟩).mpr rfl
  exact absurd hholds (by decide)

end Predicate

end SqlConnector.Sql
