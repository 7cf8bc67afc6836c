import SqlConnector.Proofs.Sql.Lexeme

/-!
Reading SQL by precedence. The operand of an infix operator is what stands beside it up to the
bracket around both or the next operator outside of brackets that binds looser; of operators that
bind alike the left one comes first. Whether predicates can stand beside each other in this way is
left open: `chains` says so.
-/

namespace SqlConnector.Sql

/-- The operators by how tight they bind, the loosest first. -/
inductive Level where
  | separator
  | predicate
  | sum
  | product
  | zone
  deriving DecidableEq, Repr

def Level.rank : Level → Nat
  | separator => 0
  | predicate => 1
  | sum => 2
  | product => 3
  | zone => 4

theorem Level.rank_inj {j k : Level} (h : j.rank = k.rank) : j = k := by
  cases j <;> cases k <;> first | rfl | contradiction

/-- The level of a lexeme that is an operator or parts operands. -/
def Lexeme.level? : Lexeme → Option Level
  | .mark c =>
    if c = ',' then some .separator
    else if c = '<' ∨ c = '>' ∨ c = '=' then some .predicate
    else if c = '+' ∨ c = '-' then some .sum
    else if c = '*' ∨ c = '/' ∨ c = '%' then some .product
    else none
  | .word s =>
    if s = "AS" then some .separator
    else if s = "IN" ∨ s = "IS" then some .predicate
    else if s = "AT" then some .zone
    else none
  | .quoted _ _ => none

def Lexeme.between? (l : Lexeme) : Option Level := l.level?.filter (· ≠ .separator)

/-- Whether an operator of level `j` is where the left operand of one of level `k` begins. -/
def endsLeft (chains : Bool) (k j : Level) : Bool :=
  j.rank < k.rank || (j = k && k = .predicate && !chains)

/-- Whether an operator of level `j` is where the right operand of one of level `k` ends. -/
def endsRight (k j : Level) : Bool := j.rank ≤ k.rank

/-- The levels of the operators outside of brackets, from depth `n` on. -/
@[simp] def levels : Nat → List Lexeme → List Level
  | _, [] => []
  | n, l :: rest => (if n = 0 then l.level?.toList else []) ++ levels ((l.nest n).getD 0) rest

/-- The operand of an operator of level `k` that stands after it, with `before` before it. -/
structure LeftOperand (chains : Bool) (k : Level) (before operand : List Lexeme) : Prop where
  balanced : depth? 0 operand = some 0
  tight : ∀ j ∈ levels 0 operand, endsLeft chains k j = false
  bounded : ∀ l ∈ before.getLast?, l = .mark '(' ∨ ∃ j ∈ l.level?, endsLeft chains k j = true

/-- The operand of an operator of level `k` that stands before it, with `after` after it. -/
structure RightOperand (k : Level) (operand after : List Lexeme) : Prop where
  balanced : depth? 0 operand = some 0
  tight : ∀ j ∈ levels 0 operand, endsRight k j = false
  bounded : ∀ l ∈ after.head?, l = .mark ')' ∨ ∃ j ∈ l.level?, endsRight k j = true

/-! ### Levels -/

theorem levels_append {n m : Nat} {ls : List Lexeme} (h : depth? n ls = some m)
    (ms : List Lexeme) : levels n (ls ++ ms) = levels n ls ++ levels m ms := by
  induction ls generalizing n with
  | nil =>
      obtain rfl : n = m := by simpa using h
      rfl
  | cons l rest ih =>
      obtain ⟨k, hk, hrest⟩ := Option.bind_eq_some_iff.mp h
      simp [hk, ih hrest]

/-- What stays inside of a bracket shows no level. -/
theorem levels_of_pos {n m k : Nat} {ls : List Lexeme} (h : depth? n ls = some m) (hk : 0 < k) :
    levels (n + k) ls = [] := by
  induction ls generalizing n with
  | nil => rfl
  | cons l rest ih =>
      obtain ⟨j, hj, hrest⟩ := Option.bind_eq_some_iff.mp h
      have hne : n + k ≠ 0 := by omega
      rw [levels, if_neg hne, Lexeme.nest_add hj, Option.getD_some, ih hrest, List.append_nil]

theorem nest_of_level? {l : Lexeme} {j : Level} (h : j ∈ l.level?) (n : Nat) :
    l.nest n = some n := by
  have hopen : l ≠ .mark '(' := by rintro rfl; simp [Lexeme.level?] at h
  have hclose : l ≠ .mark ')' := by rintro rfl; simp [Lexeme.level?] at h
  simp [Lexeme.nest, hopen, hclose]

/-- An operator outside of brackets shows its level. -/
theorem mem_levels {ls : List Lexeme} {l : Lexeme} {j : Level} (hls : depth? 0 ls = some 0)
    (hj : j ∈ l.level?) (ms : List Lexeme) : j ∈ levels 0 (ls ++ l :: ms) := by
  rw [levels_append hls, levels, if_pos rfl]
  exact List.mem_append_right _ (List.mem_append_left _ (Option.mem_toList.mpr hj))

/-! ### An operator has one operand on each side -/

theorem LeftOperand.eq_nil_of_longer {chains : Bool} {k : Level}
    {before operand ms : List Lexeme} (h : LeftOperand chains k (before ++ ms) operand)
    (h' : LeftOperand chains k before (ms ++ operand)) : ms = [] := by
  rcases List.eq_nil_or_concat ms with hms | ⟨ls, l, rfl⟩
  · exact hms
  · have hbalanced := h'.balanced
    rw [depth?_append] at hbalanced
    obtain ⟨n, hconcat, hoperand⟩ := Option.bind_eq_some_iff.mp hbalanced
    obtain rfl : n = 0 := by simpa [depth?_of_balanced h.balanced] using hoperand
    rw [List.concat_eq_append, depth?_append] at hconcat
    obtain ⟨m, hls, hl⟩ := Option.bind_eq_some_iff.mp hconcat
    -- What bounds the shorter operand stands outside of all brackets of the longer one.
    obtain hopen | ⟨j, hj, hends⟩ := h.bounded l (by simp)
    · subst hopen
      simp [Lexeme.nest] at hl
    · obtain rfl : m = 0 := by simpa [nest_of_level? hj] using hl
      have := h'.tight j (by simpa using mem_levels hls hj operand)
      simp [hends] at this

theorem LeftOperand.unique {chains : Bool} {k : Level} {b b' o o' : List Lexeme}
    (h : LeftOperand chains k b o) (h' : LeftOperand chains k b' o') (heq : b ++ o = b' ++ o') :
    o = o' := by
  rcases List.append_eq_append_iff.mp heq with ⟨ms, rfl, rfl⟩ | ⟨ms, rfl, rfl⟩
  · rw [h'.eq_nil_of_longer h, List.nil_append]
  · rw [h.eq_nil_of_longer h', List.nil_append]

end SqlConnector.Sql
