import SqlConnector.Proofs.Sql.Writes

/-!
Expressions over closed texts render to closed texts, and the string literals in them are the ones
that are meant: those of the operands, and each pattern and name of a zone as one token.
-/

namespace SqlConnector

/-- The names that a conversion from UTC to a zone is written with. -/
def Zone.written : Zone → List String
  | .utc => []
  | zone => [Zone.utc.name, zone.name]

@[simp] theorem Zone.written_utc : Zone.utc.written = [] := rfl

namespace Sql

/-- The values of the string literals in a text, in order. -/
def strings (sql : String) : List String := (lexed sql).filterMap Lexeme.string?

/-- The number of fields in a formula. -/
@[simp] def Formula.size : Formula → Nat
  | field _ | lessOne _ => 1
  | step units _ _ => units.size + 1

theorem Formula.length_cuts (formula : Formula) (front : String) :
    (formula.cuts front).1.length = formula.size := by
  induction formula generalizing front with
  | field f | lessOne f => rfl
  | step units size next ih => simp [ih]

def Hole.strings {n : Nat} (operands : Fin n → List String) : Hole n → List String
  | operand i => operands i
  | literal s => [s]

@[simp] theorem Hole.strings_operand {n : Nat} (operands : Fin n → List String) (i : Fin n) :
    (operand i).strings operands = operands i := rfl

@[simp] theorem Hole.strings_literal {n : Nat} (operands : Fin n → List String) (s : String) :
    (literal s).strings operands = [s] := rfl

/-! ### Terms over closed texts -/

namespace Term

variable {n : Nat}

/-- The SQL of a term over closed texts reads as the tree says. -/
theorem lex?_toSql {t : Term} (h : t.All Closed) :
    lex? t.toSql = some t.lexemes ∧ depth? 0 t.lexemes = some 0 ∧ CommentFree t.lexemes := by
  induction t with
  | given sql =>
      obtain ⟨ls, hls, hdepth, hfree⟩ := h
      have hlexed : lexed sql = ls := lexed_eq hls
      simp only [toSql, lexemes, hlexed]
      exact ⟨hls, hdepth, hfree⟩
  | call op operands ih =>
      obtain ⟨hfixed, hstarts, hends, hbalanced⟩ := op.soundTexts_frame
      have hoperand := fun i => ih i (h i)
      obtain ⟨hlex, hfree⟩ := Frame.lex?_fill (fun i => (hoperand i).1)
        (fun i => (hoperand i).2.2) op.frame hfixed hstarts hends
      refine ⟨hlex, ?_, hfree⟩
      exact (Frame.depth?_lexemes (fun i => (hoperand i).2.1) op.frame 0).trans hbalanced

theorem closed_toSql {t : Term} (h : t.All Closed) : Closed t.toSql :=
  ⟨t.lexemes, lex?_toSql h⟩

def strings (t : Term) : List String := t.lexemes.filterMap Lexeme.string?

theorem strings_toSql {t : Term} (h : t.All Closed) : Sql.strings t.toSql = t.strings := by
  rw [Sql.strings, lexed_eq (lex?_toSql h).1]
  rfl

/-- The strings of a call are those of its operands and its own literals. -/
@[simp low] theorem strings_call (op : Operator n) (operands : Fin n → Term) :
    (call op operands).strings =
      op.frame.parts.flatMap fun p => p.2.strings fun i => (operands i).strings := by
  have hhole (hole : Hole n) :
      (hole.lexemes fun i => (operands i).lexemes).filterMap Lexeme.string? =
        hole.strings fun i => (operands i).strings := by
    cases hole with
    | operand i => rfl
    | literal s => rfl
  rw [strings, lexemes, Frame.filterMap_lexemes _ op.soundTexts_frame.1]
  simp only [hhole]

theorem strings_convert (t : Term) (source target : Zone) :
    (call (.convert source target) fun _ => t).strings =
      t.strings ++ [source.name, target.name] := by
  simp [Operator.frame]

@[simp] theorem strings_wallTime (t : Term) (zone : Zone) :
    (t.wallTime zone).strings = t.strings ++ zone.written := by
  cases zone with
  | utc => simp
  | named => exact strings_convert t _ _

@[simp] theorem strings_utcTime (t : Term) (zone : Zone) :
    (t.utcTime zone).strings = t.strings ++ zone.written.reverse := by
  cases zone with
  | utc => simp
  | named => exact strings_convert t _ _

@[simp] theorem strings_floor (t : Term) (unit : String) (zone : Zone) :
    (t.floor unit zone).strings = unit :: t.strings ++ zone.written ++ zone.written.reverse := by
  have htruncate : (call (.truncate unit) fun _ => t.wallTime zone).strings =
      unit :: (t.strings ++ zone.written) := by
    simp [Operator.frame]
  simp [floor, htruncate]

@[simp] theorem strings_part (t : Term) (formula : Formula) (known : formula ∈ parts.map Prod.snd) :
    (call (.part formula known) fun _ => t).strings =
      (List.replicate formula.size t.strings).flatten := by
  rw [strings_call, ← formula.length_cuts "", ← List.map_const']
  simp only [Operator.frame, List.flatMap_def, List.map_map, Function.comp_def, Hole.strings]

@[simp] theorem strings_plus (t : Term) (spans : List (Nat × String))
    (known : ∀ span ∈ spans, span.2 ∈ intervalUnits) :
    (t.plus spans known).strings = t.strings ++ spans.map fun span => toString span.1 := by
  induction spans generalizing t with
  | nil => simp
  | cons span rest ih =>
      obtain ⟨count, unit⟩ := span
      have hadd : (call (.add count unit (known _ List.mem_cons_self)) fun _ => t).strings =
          t.strings ++ [toString count] := by
        simp [Operator.frame]
      simp [ih, hadd]

end Term

/-! ### The strings of an expression -/

/-- The name of a zone with that of UTC before it, nothing where no conversion is needed. -/
def zoneNames (name : String) : List String :=
  if name ∈ Zone.utcNames then [] else ["UTC", name]

theorem written_of_readZone {name : String} {z : Zone} (h : readZone name = .ok z) :
    z.written = zoneNames name := by
  obtain ⟨hutc, rfl⟩ | ⟨hutc, hne, rfl⟩ := Zone.ofName_eq_ok (ofName_of_readZone h)
  · simp [zoneNames, hutc]
  · rw [zoneNames, if_neg hutc]
    cases z with
    | utc => contradiction
    | named => rfl

def unitOf (duration : String) : List String :=
  match readDuration duration with
  | .ok d => (Presto.truncationUnits.lookup d.toText).toList
  | .error _ => []

def countsOf (duration : String) : List String :=
  match readDuration duration with
  | .ok d => (Presto.shiftSpans d.spans).map fun span => toString span.1
  | .error _ => []

/-- How often a part of a time takes a field from the operand. -/
def fieldsOf (part : String) : Nat :=
  match parts.lookup part with
  | some formula => formula.size
  | none => 0

mutual

@[simp] def Operand.strings : Operand → List String
  | .sql text => Sql.strings text
  | .call draft => draft.strings

/-- The strings in the SQL of an expression, in the order in which they are written. -/
@[simp] def Draft.strings : Draft → List String
  | .timeFloor o duration zone | .timeBucket o duration zone =>
    unitOf duration ++ o.strings ++ zoneNames zone ++ (zoneNames zone).reverse
  | .timePart o part zone => (List.replicate (fieldsOf part) (o.strings ++ zoneNames zone)).flatten
  | .timeShift o duration _ => o.strings ++ countsOf duration
  | .cast o _ _ => o.strings
  | .concat l r => l.strings ++ r.strings
  | .contains o search | .indexOf o search => search.strings ++ o.strings
  | .regexpTest o pattern | .regexpExtract o pattern => o.strings ++ [pattern]
  | .isNotDistinct l r => l.strings ++ r.strings
  | .timeLiteral time => (time.map Instant.toText).toList

end

theorem strings_null : strings Presto.nullLiteral = [] := by decide

theorem Writes.strings {o : Operand} {t : Term} (h : Writes o t)
    (hleaves : ∀ s ∈ o.leaves, Closed s) : t.strings = o.strings := by
  induction h with
  | given sql => rfl
  | timeFloor operand hd hz known ih | timeBucket operand hd hz known ih =>
      simp [ih hleaves, unitOf, hd, known, written_of_readZone hz]
  | timePart operand hz known named ih =>
      simp [ih hleaves, fieldsOf, named, written_of_readZone hz]
  | timeShift operand hd hz ih =>
      simp [Term.shift, ih hleaves, countsOf, hd]
  | cast operand _ _ _ _ ih =>
      simp [Operator.frame, ih hleaves]
  | regexpTest operand _ ih | regexpExtract operand _ ih =>
      simp [Operator.frame, ih hleaves]
  | concat left right ihl ihr | contains left right ihl ihr | indexOf left right ihl ihr
  | notNull left right _ _ ihl ihr =>
      have hl := ihl fun s hs => hleaves s (List.mem_append_left _ hs)
      have hr := ihr fun s hs => hleaves s (List.mem_append_right _ hs)
      simp [Operator.frame, hl, hr]
  | nullOnLeft left right null ihl ihr =>
      have hleft : ∀ s ∈ _, Closed s := fun s hs => hleaves s (List.mem_append_left _ hs)
      have hl := ihl hleft
      have hr := ihr fun s hs => hleaves s (List.mem_append_right _ hs)
      have hnull := Term.strings_toSql (left.all hleft)
      rw [null, strings_null] at hnull
      simp [Operator.frame, ← hl, ← hr, ← hnull]
  | nullOnRight left right _ null ihl ihr =>
      have hright : ∀ s ∈ _, Closed s := fun s hs => hleaves s (List.mem_append_right _ hs)
      have hl := ihl fun s hs => hleaves s (List.mem_append_left _ hs)
      have hr := ihr hright
      have hnull := Term.strings_toSql (right.all hright)
      rw [null, strings_null] at hnull
      simp [Operator.frame, ← hl, ← hr, ← hnull]
  | timestamp time =>
      simp [Operator.frame]
  | null => simp [Operator.frame]

/-! ### Patterns and names of zones -/

mutual

@[simp] def Operand.quoted : Operand → List String
  | .sql _ => []
  | .call draft => draft.quoted

/-- The patterns in an expression and the names of the zones that it converts between. -/
@[simp] def Draft.quoted : Draft → List String
  | .timeFloor o _ zone | .timeBucket o _ zone | .timePart o _ zone => o.quoted ++ zoneNames zone
  | .timeShift o _ _ | .cast o _ _ => o.quoted
  | .concat l r | .contains l r | .indexOf l r | .isNotDistinct l r => l.quoted ++ r.quoted
  | .regexpTest o pattern | .regexpExtract o pattern => o.quoted ++ [pattern]
  | .timeLiteral _ => []

end

theorem Formula.size_ne_zero (formula : Formula) : formula.size ≠ 0 := by
  cases formula <;> simp

theorem Writes.quoted_subset {o : Operand} {t : Term} (h : Writes o t) : o.quoted ⊆ o.strings := by
  induction h with
  | given sql => simp
  | timeFloor operand _ _ _ ih | timeBucket operand _ _ _ ih =>
      intro s hs
      simp only [Operand.quoted, Draft.quoted, List.mem_append] at hs
      simp only [Operand.strings, Draft.strings, List.mem_append]
      rcases hs with hs | hs
      · exact .inl (.inl (.inr (ih hs)))
      · exact .inl (.inr hs)
  | @timePart o t name zone z formula operand _ known named ih =>
      intro s hs
      simp only [Operand.quoted, Draft.quoted] at hs
      simp only [Operand.strings, Draft.strings, fieldsOf, named, List.mem_flatten]
      refine ⟨o.strings ++ zoneNames zone, ?_, ?_⟩
      · exact List.mem_replicate.mpr ⟨formula.size_ne_zero, rfl⟩
      · rcases List.mem_append.mp hs with hs | hs
        · exact List.mem_append_left _ (ih hs)
        · exact List.mem_append_right _ hs
  | timeShift operand _ _ ih => exact List.Subset.trans ih (List.subset_append_left _ _)
  | cast operand _ _ _ _ ih => exact ih
  | regexpTest operand _ ih | regexpExtract operand _ ih =>
      exact List.append_subset.mpr ⟨List.subset_append_of_subset_left _ ih,
        List.subset_append_right _ _⟩
  | contains left right ihl ihr | indexOf left right ihl ihr =>
      exact List.append_subset.mpr ⟨List.subset_append_of_subset_right _ ihl,
        List.subset_append_of_subset_left _ ihr⟩
  | concat left right ihl ihr | notNull left right _ _ ihl ihr
  | nullOnLeft left right _ ihl ihr | nullOnRight left right _ _ ihl ihr =>
      exact List.append_subset.mpr ⟨List.subset_append_of_subset_left _ ihl,
        List.subset_append_of_subset_right _ ihr⟩
  | timestamp time => simp
  | null => simp

/-- An expression over closed texts, whatever else is in it, renders to a closed text. Its string
literals are those of the operands and those of the operators, in order, and among them are every
pattern and every name of a zone that is written. -/
theorem closed_of_toSql {d : Draft} {sql : String} (hleaves : ∀ s ∈ d.leaves, Closed s)
    (h : d.toSql = .ok sql) :
    Closed sql ∧ strings sql = d.strings ∧ ∀ s ∈ d.quoted, s ∈ strings sql := by
  obtain ⟨t, ht, rfl⟩ := d.exists_writes h
  have hall : t.All Closed := ht.all hleaves
  have hstrings : strings t.toSql = d.strings :=
    (Term.strings_toSql hall).trans (ht.strings hleaves)
  refine ⟨Term.closed_toSql hall, hstrings, fun s hs => ?_⟩
  rw [hstrings]
  exact ht.quoted_subset hs

/-- A pattern with quotes of its own, next to a conversion of zone. -/
theorem closed_of_quoted_pattern :
    let d := Draft.concat (.call (.regexpExtract (.sql "\"a\"") "it's -- '"))
      (.call (.timeFloor (.sql "t") "PT1H" "Asia/Tokyo"))
    let sql := "CONCAT(REGEXP_EXTRACT(\"a\", 'it''s -- '''),(DATE_TRUNC('hour', " ++
      "(t AT TIME ZONE 'UTC' AT TIME ZONE 'Asia/Tokyo')) AT TIME ZONE 'Asia/Tokyo' " ++
      "AT TIME ZONE 'UTC'))"
    d.toSql = .ok sql ∧ (∀ s ∈ d.leaves, Closed s) ∧ Closed sql ∧
      "it's -- '" ∈ strings sql ∧ "Asia/Tokyo" ∈ strings sql := by
  intro d sql
  have hsql : d.toSql = .ok sql := by rfl
  have hleaves : ∀ s ∈ d.leaves, Closed s := by decide +kernel
  obtain ⟨hclosed, -, hquoted⟩ := closed_of_toSql hleaves hsql
  exact ⟨hsql, hleaves, hclosed, hquoted _ (by decide), hquoted _ (by decide)⟩

end Sql

end SqlConnector
