import SqlConnector.Proofs.Sql.Term

/-!
The tree that an expression is written as. `Writes` relates the two: an expression has SQL when it
has such a tree, and its SQL is that of the tree.
-/

namespace SqlConnector.Sql

open Term in
/-- The tree that is written for an operand. -/
inductive Writes : Operand → Term → Prop where
  | given (sql : String) : Writes (.sql sql) (.given sql)
  | timeFloor {o t duration zone d z unit} (operand : Writes o t)
      (duration_ok : readDuration duration = .ok d) (zone_ok : readZone zone = .ok z)
      (known : Presto.truncationUnits.lookup d.toText = some unit) :
      Writes (.call (.timeFloor o duration zone)) (t.floor unit z)
  | timeBucket {o t duration zone d z unit} (operand : Writes o t)
      (duration_ok : readDuration duration = .ok d) (zone_ok : readZone zone = .ok z)
      (known : Presto.truncationUnits.lookup d.toText = some unit) :
      Writes (.call (.timeBucket o duration zone)) (t.floor unit z)
  | timePart {o t name zone z formula} (operand : Writes o t) (zone_ok : readZone zone = .ok z)
      (known : formula ∈ parts.map Prod.snd) (named : parts.lookup name = some formula) :
      Writes (.call (.timePart o name zone)) (call (.part formula known) fun _ => t.wallTime z)
  | timeShift {o t duration zone d z} (operand : Writes o t)
      (duration_ok : readDuration duration = .ok d) (zone_ok : readZone zone = .ok z) :
      Writes (.call (.timeShift o duration zone)) (t.shift d)
  | cast {o t source target s s' around} (operand : Writes o t) (source_ok : readType source = .ok s)
      (target_ok : readType target = .ok s') (known : around ∈ castTexts)
      (texts : Presto.castAround? s s' = some around) :
      Writes (.call (.cast o source target)) (call (.cast around known) fun _ => t)
  | concat {l r tl tr} (left : Writes l tl) (right : Writes r tr) :
      Writes (.call (.concat l r)) (call .concat (pair tl tr))
  | contains {o s t ts} (operand : Writes o t) (search : Writes s ts) :
      Writes (.call (.contains o s)) (call .contains (pair t ts))
  | regexpTest {o t pattern} (operand : Writes o t) (known : "REGEXP_LIKE" ∈ regexpFunctions) :
      Writes (.call (.regexpTest o pattern)) (call (.regexp _ known pattern) fun _ => t)
  | regexpExtract {o t pattern} (operand : Writes o t)
      (known : "REGEXP_EXTRACT" ∈ regexpFunctions) :
      Writes (.call (.regexpExtract o pattern)) (call (.regexp _ known pattern) fun _ => t)
  | indexOf {o s t ts} (operand : Writes o t) (search : Writes s ts) :
      Writes (.call (.indexOf o s)) (call .indexOf (pair t ts))
  | nullOnLeft {l r tl tr} (left : Writes l tl) (right : Writes r tr)
      (null : tl.toSql = Presto.nullLiteral) :
      Writes (.call (.isNotDistinct l r)) (call .isNull fun _ => tr)
  | nullOnRight {l r tl tr} (left : Writes l tl) (right : Writes r tr)
      (not_null : tl.toSql ≠ Presto.nullLiteral) (null : tr.toSql = Presto.nullLiteral) :
      Writes (.call (.isNotDistinct l r)) (call .isNull fun _ => tl)
  | notNull {l r tl tr} (left : Writes l tl) (right : Writes r tr)
      (left_not_null : tl.toSql ≠ Presto.nullLiteral)
      (right_not_null : tr.toSql ≠ Presto.nullLiteral) :
      Writes (.call (.isNotDistinct l r)) (call .isIn (pair tl tr))
  | timestamp (time : Instant) : Writes (.call (.timeLiteral (some time)))
      (call (.timestamp time) Fin.elim0)
  | null : Writes (.call (.timeLiteral none)) (call .null Fin.elim0)

theorem bind_eq_ok {ε α β : Type} {x : Except ε α} {f : α → Except ε β} {b : β} :
    x >>= f = .ok b ↔ ∃ a, x = .ok a ∧ f a = .ok b := by
  cases x with
  | error e => simp [bind, Except.bind]
  | ok a => simp [bind, Except.bind]

theorem mapError_eq_ok {ε ε' α : Type} {f : ε → ε'} {x : Except ε α} {a : α} :
    x.mapError f = .ok a ↔ x = .ok a := by
  cases x <;> simp [Except.mapError]

theorem ofName_of_readZone {name : String} {z : Zone} (h : readZone name = .ok z) :
    Zone.ofName name = .ok z :=
  mapError_eq_ok.mp h

theorem toSql_eq_ok {e : Expression} {sql : String} :
    e.toSql = .ok sql ↔ Presto.render e = .ok sql :=
  mapError_eq_ok

mutual

/-- An operand that has SQL has a tree, and its SQL is that of the tree. -/
theorem Operand.exists_writes {sql : String} : (o : Operand) → o.toSql = .ok sql →
    ∃ t, Writes o t ∧ t.toSql = sql
  | .sql text, h => ⟨.given text, .given text, Except.ok.inj h⟩
  | .call draft, h => draft.exists_writes h

theorem Draft.exists_writes {sql : String} (d : Draft) (h : d.toSql = .ok sql) :
    ∃ t, Writes (.call d) t ∧ t.toSql = sql := by
  obtain ⟨e, he, hsql⟩ := bind_eq_ok.mp h
  rw [toSql_eq_ok] at hsql
  -- what was read comes first, then the trees of the operands, and last the SQL of the call
  cases d with
  | timeFloor o duration zone =>
      simp only [Draft.toExpression, bind_eq_ok] at he
      obtain ⟨s, hs, d, hd, z, hz, ⟨⟩⟩ := he
      obtain ⟨t, ht, rfl⟩ := Operand.exists_writes _ hs
      obtain ⟨unit, hunit, ht'⟩ := Term.exists_floor hsql
      exact ⟨_, .timeFloor ht hd hz hunit, ht'⟩
  | timeBucket o duration zone =>
      simp only [Draft.toExpression, bind_eq_ok] at he
      obtain ⟨s, hs, d, hd, z, hz, ⟨⟩⟩ := he
      obtain ⟨t, ht, rfl⟩ := Operand.exists_writes _ hs
      obtain ⟨unit, hunit, ht'⟩ := Term.exists_floor hsql
      exact ⟨_, .timeBucket ht hd hz hunit, ht'⟩
  | timePart o part zone =>
      simp only [Draft.toExpression, bind_eq_ok] at he
      obtain ⟨s, hs, z, hz, ⟨⟩⟩ := he
      obtain ⟨t, ht, rfl⟩ := Operand.exists_writes _ hs
      obtain ⟨formula, hnamed, known, ht'⟩ := Term.exists_part hsql
      exact ⟨_, .timePart ht hz known hnamed, ht'⟩
  | timeShift o duration zone =>
      simp only [Draft.toExpression, bind_eq_ok] at he
      obtain ⟨s, hs, d, hd, z, hz, ⟨⟩⟩ := he
      obtain ⟨t, ht, rfl⟩ := Operand.exists_writes _ hs
      refine ⟨_, .timeShift ht hd hz, ?_⟩
      rw [Term.toSql_shift]
      exact Except.ok.inj hsql
  | cast o source target =>
      simp only [Draft.toExpression, bind_eq_ok] at he
      obtain ⟨s, hs, source', hsource, target', htarget, ⟨⟩⟩ := he
      obtain ⟨t, ht, rfl⟩ := Operand.exists_writes _ hs
      obtain ⟨around, haround, known, ht'⟩ := Term.exists_cast hsql
      exact ⟨_, .cast ht hsource htarget known haround, ht'⟩
  | concat l r =>
      simp only [Draft.toExpression, bind_eq_ok] at he
      obtain ⟨sl, hl, sr, hr, ⟨⟩⟩ := he
      obtain ⟨tl, htl, rfl⟩ := Operand.exists_writes _ hl
      obtain ⟨tr, htr, rfl⟩ := Operand.exists_writes _ hr
      exact ⟨_, .concat htl htr, (Term.toSql_concat tl tr).trans (Except.ok.inj hsql)⟩
  | contains o search =>
      simp only [Draft.toExpression, bind_eq_ok] at he
      obtain ⟨s, hs, s', hs', ⟨⟩⟩ := he
      obtain ⟨t, ht, rfl⟩ := Operand.exists_writes _ hs
      obtain ⟨t', ht', rfl⟩ := Operand.exists_writes _ hs'
      exact ⟨_, .contains ht ht', (Term.toSql_contains t t').trans (Except.ok.inj hsql)⟩
  | regexpTest o pattern =>
      simp only [Draft.toExpression, bind_eq_ok] at he
      obtain ⟨s, hs, ⟨⟩⟩ := he
      obtain ⟨t, ht, rfl⟩ := Operand.exists_writes _ hs
      have known : "REGEXP_LIKE" ∈ regexpFunctions := by decide
      exact ⟨_, .regexpTest ht known,
        (Term.toSql_regexp t known pattern).trans (Except.ok.inj hsql)⟩
  | regexpExtract o pattern =>
      simp only [Draft.toExpression, bind_eq_ok] at he
      obtain ⟨s, hs, ⟨⟩⟩ := he
      obtain ⟨t, ht, rfl⟩ := Operand.exists_writes _ hs
      have known : "REGEXP_EXTRACT" ∈ regexpFunctions := by decide
      exact ⟨_, .regexpExtract ht known,
        (Term.toSql_regexp t known pattern).trans (Except.ok.inj hsql)⟩
  | indexOf o search =>
      simp only [Draft.toExpression, bind_eq_ok] at he
      obtain ⟨s, hs, s', hs', ⟨⟩⟩ := he
      obtain ⟨t, ht, rfl⟩ := Operand.exists_writes _ hs
      obtain ⟨t', ht', rfl⟩ := Operand.exists_writes _ hs'
      exact ⟨_, .indexOf ht ht', (Term.toSql_indexOf t t').trans (Except.ok.inj hsql)⟩
  | isNotDistinct l r =>
      simp only [Draft.toExpression, bind_eq_ok] at he
      obtain ⟨sl, hl, sr, hr, ⟨⟩⟩ := he
      obtain ⟨tl, htl, rfl⟩ := Operand.exists_writes _ hl
      obtain ⟨tr, htr, rfl⟩ := Operand.exists_writes _ hr
      have hsql : Presto.isNotDistinct tl.toSql tr.toSql = sql := Except.ok.inj hsql
      unfold Presto.isNotDistinct at hsql
      split at hsql
      · next hnull => exact ⟨_, .nullOnLeft htl htr hnull, (Term.toSql_isNull tr).trans hsql⟩
      · split at hsql
        · next hl hnull =>
            exact ⟨_, .nullOnRight htl htr hl hnull, (Term.toSql_isNull tl).trans hsql⟩
        · next hl hr => exact ⟨_, .notNull htl htr hl hr, (Term.toSql_isIn tl tr).trans hsql⟩
  | timeLiteral time =>
      obtain rfl := Except.ok.inj he
      cases time with
      | none => exact ⟨_, .null, Except.ok.inj hsql⟩
      | some time =>
          exact ⟨_, .timestamp time, (Term.toSql_timestamp time _).trans (Except.ok.inj hsql)⟩

end

theorem toSql_call {d : Draft} {e : Expression} {sql : String} (he : d.toExpression = .ok e)
    (hsql : Presto.render e = .ok sql) : (Operand.call d).toSql = .ok sql :=
  bind_eq_ok.mpr ⟨e, he, toSql_eq_ok.mpr hsql⟩

/-- The tree of an operand tells its SQL. -/
theorem Writes.toSql {o : Operand} {t : Term} (h : Writes o t) : o.toSql = .ok t.toSql := by
  -- the operands have the SQL of their trees, so that the expression is that of these texts
  induction h with
  | given sql => rfl
  | @timeFloor o t duration zone d z unit operand hd hz known ih =>
      refine toSql_call (e := .timeFloor t.toSql d z) ?_ (Term.timeFloor_eq t known z)
      simp only [Draft.toExpression, bind_eq_ok]
      exact ⟨_, ih, d, hd, z, hz, rfl⟩
  | @timeBucket o t duration zone d z unit operand hd hz known ih =>
      refine toSql_call (e := .timeBucket t.toSql d z) ?_ (Term.timeFloor_eq t known z)
      simp only [Draft.toExpression, bind_eq_ok]
      exact ⟨_, ih, d, hd, z, hz, rfl⟩
  | @timePart o t name zone z formula operand hz known named ih =>
      refine toSql_call (e := .timePart t.toSql name z) ?_ (Term.timePart_eq t named known z)
      simp only [Draft.toExpression, bind_eq_ok]
      exact ⟨_, ih, z, hz, rfl⟩
  | @timeShift o t duration zone d z operand hd hz ih =>
      refine toSql_call (e := .timeShift t.toSql d z) ?_ ?_
      · simp only [Draft.toExpression, bind_eq_ok]
        exact ⟨_, ih, d, hd, z, hz, rfl⟩
      · rw [Term.toSql_shift]
        rfl
  | @cast o t source target s s' around operand hs hs' known texts ih =>
      refine toSql_call (e := .cast t.toSql s s') ?_ (Term.cast_eq t texts known)
      simp only [Draft.toExpression, bind_eq_ok]
      exact ⟨_, ih, s, hs, s', hs', rfl⟩
  | @concat l r tl tr left right ihl ihr =>
      refine toSql_call (e := .concat tl.toSql tr.toSql) ?_ ?_
      · simp only [Draft.toExpression, bind_eq_ok]
        exact ⟨_, ihl, _, ihr, rfl⟩
      · rw [Term.toSql_concat]
        rfl
  | @contains o s t ts operand search ih ihs =>
      refine toSql_call (e := .contains t.toSql ts.toSql) ?_ ?_
      · simp only [Draft.toExpression, bind_eq_ok]
        exact ⟨_, ih, _, ihs, rfl⟩
      · rw [Term.toSql_contains]
        rfl
  | @indexOf o s t ts operand search ih ihs =>
      refine toSql_call (e := .indexOf t.toSql ts.toSql) ?_ ?_
      · simp only [Draft.toExpression, bind_eq_ok]
        exact ⟨_, ih, _, ihs, rfl⟩
      · rw [Term.toSql_indexOf]
        rfl
  | @regexpTest o t pattern operand known ih =>
      refine toSql_call (e := .regexpTest t.toSql pattern) ?_ ?_
      · simp only [Draft.toExpression, bind_eq_ok]
        exact ⟨_, ih, rfl⟩
      · rw [Term.toSql_regexp]
        rfl
  | @regexpExtract o t pattern operand known ih =>
      refine toSql_call (e := .regexpExtract t.toSql pattern) ?_ ?_
      · simp only [Draft.toExpression, bind_eq_ok]
        exact ⟨_, ih, rfl⟩
      · rw [Term.toSql_regexp]
        rfl
  | @nullOnLeft l r tl tr left right null ihl ihr =>
      refine toSql_call (e := .isNotDistinct tl.toSql tr.toSql) ?_ ?_
      · simp only [Draft.toExpression, bind_eq_ok]
        exact ⟨_, ihl, _, ihr, rfl⟩
      · simp only [Presto.render, Presto.isNotDistinct, if_pos null, Term.toSql_isNull]
  | @nullOnRight l r tl tr left right not_null null ihl ihr =>
      refine toSql_call (e := .isNotDistinct tl.toSql tr.toSql) ?_ ?_
      · simp only [Draft.toExpression, bind_eq_ok]
        exact ⟨_, ihl, _, ihr, rfl⟩
      · simp only [Presto.render, Presto.isNotDistinct, if_neg not_null, if_pos null,
          Term.toSql_isNull]
  | @notNull l r tl tr left right hl hr ihl ihr =>
      refine toSql_call (e := .isNotDistinct tl.toSql tr.toSql) ?_ ?_
      · simp only [Draft.toExpression, bind_eq_ok]
        exact ⟨_, ihl, _, ihr, rfl⟩
      · simp only [Presto.render, Presto.isNotDistinct, if_neg hl, if_neg hr, Term.toSql_isIn]
  | timestamp time =>
      rw [Term.toSql_timestamp]
      rfl
  | null => rfl

/-! ### The texts that are given -/

mutual

def Operand.leaves : Operand → List String
  | .sql text => [text]
  | .call draft => draft.leaves

/-- The texts that stand as operands in an expression. -/
def Draft.leaves : Draft → List String
  | .timeFloor o _ _ | .timeBucket o _ _ | .timePart o _ _ | .timeShift o _ _ | .cast o _ _
  | .regexpTest o _ | .regexpExtract o _ => o.leaves
  | .concat l r | .contains l r | .indexOf l r | .isNotDistinct l r => l.leaves ++ r.leaves
  | .timeLiteral _ => []

end

namespace Term

variable {P : String → Prop}

theorem all_wallTime {t : Term} (h : t.All P) (zone : Zone) : (t.wallTime zone).All P := by
  cases zone with
  | utc => exact h
  | named => exact fun _ => h

theorem all_utcTime {t : Term} (h : t.All P) (zone : Zone) : (t.utcTime zone).All P := by
  cases zone with
  | utc => exact h
  | named => exact fun _ => h

theorem all_floor {t : Term} (h : t.All P) (unit : String) (zone : Zone) :
    (t.floor unit zone).All P := by
  have htruncate : (call (.truncate unit) fun _ => t.wallTime zone).All P :=
    fun _ => all_wallTime h zone
  exact all_utcTime htruncate zone

theorem all_plus {t : Term} (h : t.All P) (spans : List (Nat × String))
    (known : ∀ span ∈ spans, span.2 ∈ intervalUnits) : (t.plus spans known).All P := by
  induction spans generalizing t with
  | nil => exact h
  | cons span rest ih =>
      have hadd : (call (.add span.1 span.2 (known span List.mem_cons_self)) fun _ => t).All P :=
        fun _ => h
      exact ih hadd _

theorem all_pair {l r : Term} (hl : l.All P) (hr : r.All P) (i : Fin 2) : (pair l r i).All P :=
  match i with
  | 0 => hl
  | 1 => hr

end Term

/-- What holds of the texts that are given to an expression holds of those in its tree. -/
theorem Writes.all {P : String → Prop} {o : Operand} {t : Term} (h : Writes o t)
    (hleaves : ∀ s ∈ o.leaves, P s) : t.All P := by
  induction h with
  | given sql => exact hleaves sql (by simp [Operand.leaves])
  | timeFloor operand _ _ _ ih | timeBucket operand _ _ _ ih =>
      exact Term.all_floor (ih hleaves) _ _
  | timePart operand _ _ _ ih => exact fun _ => Term.all_wallTime (ih hleaves) _
  | timeShift operand _ _ ih => exact Term.all_plus (ih hleaves) _ _
  | cast operand _ _ _ _ ih => exact fun _ => ih hleaves
  | regexpTest operand _ ih | regexpExtract operand _ ih => exact fun _ => ih hleaves
  | concat left right ihl ihr | contains left right ihl ihr | indexOf left right ihl ihr
  | notNull left right _ _ ihl ihr =>
      exact Term.all_pair (ihl fun s hs => hleaves s (List.mem_append_left _ hs))
        (ihr fun s hs => hleaves s (List.mem_append_right _ hs))
  | nullOnLeft left right _ ihl ihr =>
      exact fun _ => ihr fun s hs => hleaves s (List.mem_append_right _ hs)
  | nullOnRight left right _ _ ihl ihr =>
      exact fun _ => ihl fun s hs => hleaves s (List.mem_append_left _ hs)
  | timestamp time => exact fun i => i.elim0
  | null => exact fun i => i.elim0

end SqlConnector.Sql
