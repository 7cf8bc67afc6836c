import SqlConnector.Proofs.Sql.Places

/-!
When the operators beside an operand apply to all of it. Calls that end in an operator, such as a
shift of a time, are written without brackets around them, so an operator that binds tighter takes
only their last part. Trees without such a call beside such an operator are tidy, and exactly these
are read as they are meant.
-/

namespace SqlConnector.Sql

/-! ### Atoms -/

/-- An identifier or a literal: outside of quotes there is no bracket, no operator and nothing that
parts operands. -/
def Atom (sql : String) : Prop :=
  ∃ ls ∈ lex? sql, ∀ l ∈ ls, l.level? = none ∧ l ≠ .mark '(' ∧ l ≠ .mark ')'

instance (sql : String) : Decidable (Atom sql) :=
  inferInstanceAs (Decidable (∃ ls ∈ lex? sql, ∀ l ∈ ls, _))

theorem depth?_of_plain {ls : List Lexeme} (h : ∀ l ∈ ls, l ≠ .mark '(' ∧ l ≠ .mark ')')
    (n : Nat) : depth? n ls = some n := by
  induction ls with
  | nil => rfl
  | cons l rest ih =>
      have hl := h l List.mem_cons_self
      have hnest : l.nest n = some n := by simp [Lexeme.nest, hl]
      have hrest := ih fun l' hl' => h l' (List.mem_cons_of_mem l hl')
      simp only [depth?, List.foldlM_cons, hnest] at hrest ⊢
      exact hrest

theorem commentFree_of_plain {ls : List Lexeme} (h : ∀ l ∈ ls, l.level? = none) :
    CommentFree ls := by
  induction ls with
  | nil => exact List.isChain_nil
  | cons l rest ih =>
      have hl : l.level? = none := h l List.mem_cons_self
      have hne : l ≠ .mark '-' ∧ l ≠ .mark '/' := by
        constructor <;> rintro rfl <;> simp [Lexeme.level?] at hl
      refine List.isChain_cons.mpr ⟨fun l' _ => ?_, ih fun l' hl' => h l' (by simp [hl'])⟩
      simp [Lexeme.opensComment, hne]

theorem levels_of_plain {ls : List Lexeme} (h : ∀ l ∈ ls, l.level? = none) (n : Nat) :
    levels n ls = [] := by
  induction ls generalizing n with
  | nil => rfl
  | cons l rest ih =>
      simp [h l List.mem_cons_self, ih fun l' hl' => h l' (List.mem_cons_of_mem l hl')]

theorem Atom.closed {sql : String} (h : Atom sql) : Closed sql := by
  obtain ⟨ls, hls, hplain⟩ := h
  exact ⟨ls, hls, depth?_of_plain (fun l hl => (hplain l hl).2) 0,
    commentFree_of_plain fun l hl => (hplain l hl).1⟩

theorem Atom.levels {sql : String} (h : Atom sql) : Sql.levels 0 (tokensOf sql) = [] := by
  obtain ⟨ls, hls, hplain⟩ := h
  refine levels_of_plain (fun l hl => ?_) 0
  rw [tokensOf, lexed_eq hls] at hl
  exact (hplain l (List.mem_of_mem_filter hl)).1

/-! ### Tidy terms -/

section

variable {chains : Bool} {i j k : Level}

theorem rank_le_of_endsLeft (h : endsLeft chains k j = false) : k.rank ≤ j.rank := by
  simp only [endsLeft, Bool.or_eq_false_iff, decide_eq_false_iff_not] at h
  omega

theorem endsLeft_of_rank_lt (h : j.rank < k.rank) : endsLeft chains k j = true := by
  simp [endsLeft, h]

theorem endsLeft_mono (h : endsLeft chains k i = false) (hij : i.rank ≤ j.rank) :
    endsLeft chains k j = false := by
  have hki : k.rank ≤ i.rank := rank_le_of_endsLeft h
  by_cases hjk : j = k
  · obtain rfl : i = j := Level.rank_inj (by rw [hjk] at hij ⊢; omega)
    exact h
  · have hkj : ¬j.rank < k.rank := by omega
    simp [endsLeft, hjk, hkj]

theorem endsRight_mono (h : endsRight k i = false) (hij : i.rank ≤ j.rank) :
    endsRight k j = false := by
  simp only [endsRight, decide_eq_false_iff_not] at h ⊢
  omega

end

/-- An operator of level `k` after an operand that shows the given level takes all of it. -/
def FitsLeft (chains : Bool) (k : Level) (shown : Option Level) : Prop :=
  ∀ j ∈ shown, endsLeft chains k j = false

/-- An operator of level `k` before an operand that shows the given level takes all of it. -/
def FitsRight (k : Level) (shown : Option Level) : Prop := ∀ j ∈ shown, endsRight k j = false

namespace Term

/-- The loosest operator that a term shows outside of brackets. -/
def shown? : Term → Option Level
  | given _ => none
  | call op _ => op.level?

@[simp] theorem shown?_given (sql : String) : (given sql).shown? = none := rfl

@[simp] theorem shown?_call {n : Nat} (op : Operator n) (operands : Fin n → Term) :
    (call op operands).shown? = op.level? := rfl

@[simp] def Tidy (chains : Bool) : Term → Prop
  | given _ => True
  | call op operands => ∀ i, (operands i).Tidy chains ∧
      (∀ k ∈ op.after? i, FitsLeft chains k (operands i).shown?) ∧
      ∀ k ∈ op.before? i, FitsRight k (operands i).shown?

variable {chains : Bool} {k : Level} {t : Term}

theorem closed_of_atoms (hall : t.All Atom) : t.All Closed := by
  induction t with
  | given sql => exact Atom.closed hall
  | call op operands ih => exact fun i => ih i (hall i)

theorem balanced_tokens (hall : t.All Atom) : depth? 0 t.tokens = some 0 := by
  rw [tokens, depth?_tokens]
  exact (lex?_toSql (closed_of_atoms hall)).2.1

/-- A tidy term shows its loosest operator, and besides it only tighter ones. -/
theorem levels_of_tidy (hall : t.All Atom) (htidy : t.Tidy chains) :
    (∀ j ∈ levels 0 t.tokens, ∃ i ∈ t.shown?, i.rank ≤ j.rank) ∧
      ∀ i ∈ t.shown?, i ∈ levels 0 t.tokens := by
  induction t with
  | given sql =>
      have hlevels : levels 0 (given sql).tokens = [] := Atom.levels hall
      simp [hlevels]
  | call op operands ih =>
      have hbalanced := fun i => balanced_tokens (hall i)
      obtain hown | ⟨i, k, hk, hafter, hlevels⟩ := levels_call op hbalanced
      · rw [hown]
        refine ⟨fun j hj => ⟨j, Option.mem_toList.mp hj, Nat.le_refl _⟩, fun j hj => ?_⟩
        exact Option.mem_toList.mpr hj
      · obtain ⟨htidy', hfits, -⟩ := htidy i
        constructor
        · intro j hj
          refine ⟨k, hk, ?_⟩
          rw [hlevels, List.mem_append, List.mem_singleton] at hj
          rcases hj with hj | rfl
          · obtain ⟨i', hi', hle⟩ := (ih i (hall i) htidy').1 j hj
            exact Nat.le_trans (rank_le_of_endsLeft (hfits k hafter i' hi')) hle
          · exact Nat.le_refl _
        · intro j hj
          obtain rfl : k = j := Option.mem_unique hk hj
          simp [hlevels]

/-- What tighter levels have from looser ones is had by all levels of a tidy term when the one that
it shows has it. -/
theorem forall_levels_iff (hall : t.All Atom) (htidy : t.Tidy chains) {P : Level → Prop}
    (hmono : ∀ {i j : Level}, P i → i.rank ≤ j.rank → P j) :
    (∀ j ∈ levels 0 t.tokens, P j) ↔ ∀ j ∈ t.shown?, P j := by
  obtain ⟨hlevels, hshown⟩ := levels_of_tidy hall htidy
  constructor
  · exact fun h j hj => h j (hshown j hj)
  · intro h j hj
    obtain ⟨i, hi, hle⟩ := hlevels j hj
    exact hmono (h i hi) hle

theorem fitsLeft_iff (hall : t.All Atom) (htidy : t.Tidy chains) :
    (∀ j ∈ levels 0 t.tokens, endsLeft chains k j = false) ↔ FitsLeft chains k t.shown? :=
  forall_levels_iff hall htidy endsLeft_mono

theorem fitsRight_iff (hall : t.All Atom) (htidy : t.Tidy chains) :
    (∀ j ∈ levels 0 t.tokens, endsRight k j = false) ↔ FitsRight k t.shown? :=
  forall_levels_iff hall htidy endsRight_mono

/-! ### Tidy terms are read as they are meant -/

theorem tidy_of_whole (hall : t.All Atom) (front back : List Lexeme)
    (h : ∀ p, t.HasPlace p → (p.within front back).Whole chains) : t.Tidy chains := by
  induction t generalizing front back with
  | given sql => trivial
  | call op operands ih =>
      intro i
      obtain ⟨text, hmem⟩ := op.exists_hole i
      obtain ⟨l, r, hparts⟩ := List.append_of_mem hmem
      let before := Frame.tokens ⟨l, text⟩ fun i => (operands i).tokens
      let after := Frame.tokens ⟨r, op.frame.last⟩ fun i => (operands i).tokens
      have hbeside : Beside op i before after := op.beside hparts _
      have hinner (p : Place) (hp : (operands i).HasPlace p) :
          (p.within (front ++ before) (after ++ back)).Whole chains := by
        rw [← Place.within_within]
        exact h _ (.inner hparts hp)
      have htidy : (operands i).Tidy chains := ih i (hall i) _ _ hinner
      obtain ⟨hleft, hright⟩ := h _ (.own hparts)
      refine ⟨htidy, fun k hk => ?_, fun k hk => ?_⟩
      · exact (fitsLeft_iff (hall i) htidy).mp (hleft k (hbeside.after_eq ▸ hk)).tight
      · exact (fitsRight_iff (hall i) htidy).mp (hright k (hbeside.before_eq ▸ hk)).tight

/-- What stands before a term bounds it for all operators that bind as tight as what it shows. -/
def Bounded (chains : Bool) (front : List Lexeme) (shown : Option Level) : Prop :=
  ∀ j ∈ shown, ∀ k : Level, j.rank ≤ k.rank →
    ∀ l ∈ front.getLast?, l = .mark '(' ∨ ∃ j ∈ l.level?, endsLeft chains k j = true

theorem rank_pos_of_level? {n : Nat} {op : Operator n} {j : Level} (h : j ∈ op.level?) :
    0 < j.rank := by
  cases op <;> simp [Operator.level?] at h <;> subst h <;> decide

theorem rank_pos_of_shown? {j : Level} (h : j ∈ t.shown?) : 0 < j.rank := by
  cases t with
  | given sql => simp at h
  | call op operands => exact rank_pos_of_level? h

/-- The operands of a tidy call are bounded where the call is. -/
theorem bounded_operand {n : Nat} {op : Operator n} {operands : Fin n → Term} {i : Fin n}
    {front before after : List Lexeme} (htidy : (call op operands).Tidy chains)
    (hfront : Bounded chains front op.level?) (h : Beside op i before after) :
    Bounded chains (front ++ before) (operands i).shown? := by
  intro j hj k hjk l hl
  obtain ⟨-, hfitsLeft, hfitsRight⟩ := htidy i
  have hpos : 0 < j.rank := rank_pos_of_shown? hj
  obtain ⟨rfl, hlevel, hafter⟩ | ⟨l', hl', hopens⟩ := h.opening
  · obtain ⟨k', hk'⟩ := Option.ne_none_iff_exists'.mp hlevel
    have hle : k'.rank ≤ j.rank := rank_le_of_endsLeft (hfitsLeft k' (hafter.trans hk') j hj)
    rw [List.append_nil] at hl
    exact hfront k' hk' k (Nat.le_trans hle hjk) l hl
  · obtain rfl : l' = l := by
      rw [List.getLast?_append, Option.mem_def.mp hl'] at hl
      exact Option.some.inj hl
    obtain rfl | ⟨-, rfl | rfl⟩ := hopens
    · exact .inl rfl
    · exact .inr ⟨.separator, rfl, endsLeft_of_rank_lt (Nat.lt_of_lt_of_le hpos hjk)⟩
    · have hbefore : op.before? i = some .predicate := by
        rw [← h.before_eq, Option.mem_def.mp hl']
        rfl
      have hlt : Level.predicate.rank < j.rank := by
        have := hfitsRight .predicate hbefore j hj
        simpa [endsRight] using this
      exact .inr ⟨.predicate, rfl, endsLeft_of_rank_lt (Nat.lt_of_lt_of_le hlt hjk)⟩

theorem whole_of_tidy {p : Place} (hp : t.HasPlace p) (hall : t.All Atom) (htidy : t.Tidy chains)
    {front back : List Lexeme} (hfront : Bounded chains front t.shown?) :
    (p.within front back).Whole chains := by
  -- a place of the call itself is beside the call's own marks, one inside an operand beside what
  -- the call writes around this operand
  induction hp generalizing front back with
  | @own n op operands l r text i parts_eq =>
      have hbeside := op.beside parts_eq fun i => (operands i).tokens
      obtain ⟨htidy', hfitsLeft, hfitsRight⟩ := htidy i
      constructor
      · intro k hk
        replace hk : op.after? i = some k := hbeside.after_eq.symm.trans hk
        refine ⟨balanced_tokens (hall i), (fitsLeft_iff (hall i) htidy').mpr (hfitsLeft k hk), ?_⟩
        intro l' hl'
        simp only [Place.within, List.append_nil] at hl'
        obtain ⟨hnil, -, hlevel⟩ | ⟨l'', hl'', hopens⟩ := hbeside.opening
        · rw [hnil, List.append_nil] at hl'
          exact hfront k (hlevel.symm.trans hk) k (Nat.le_refl _) l' hl'
        · rw [List.getLast?_append, Option.mem_def.mp hl''] at hl'
          obtain rfl : l'' = l' := Option.some.inj hl'
          obtain hopen | ⟨hnone, -⟩ := hopens
          · exact .inl hopen
          · simp [hnone] at hk
      · intro k hk
        replace hk : op.before? i = some k := hbeside.before_eq.symm.trans hk
        refine ⟨balanced_tokens (hall i), (fitsRight_iff (hall i) htidy').mpr (hfitsRight k hk), ?_⟩
        intro l' hl'
        have hclose := hbeside.closing (by simp [hk])
        simp only [Place.within, List.head?_append, hclose] at hl'
        exact .inl (Option.some.inj hl').symm
  | @inner n op operands l r text i p parts_eq place ih =>
      have hbeside := op.beside parts_eq fun i => (operands i).tokens
      rw [Place.within_within]
      exact ih (hall i) (htidy i).1 (bounded_operand htidy hfront hbeside)

/-- The operators beside the operands of a term apply to all of them just when it is tidy. -/
theorem forall_whole_iff (hall : t.All Atom) :
    (∀ p, t.HasPlace p → p.Whole chains) ↔ t.Tidy chains := by
  constructor
  · intro h
    refine tidy_of_whole hall [] [] fun p hp => ?_
    rw [Place.within_nil]
    exact h p hp
  · intro htidy p hp
    rw [← p.within_nil]
    exact whole_of_tidy hp hall htidy fun j _ k _ l hl => by simp at hl

end Term

end SqlConnector.Sql
