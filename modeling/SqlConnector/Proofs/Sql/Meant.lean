import SqlConnector.Proofs.Sql.Tidy

/-!
Which expressions are read as they are meant. A shift of a time, a place in a text, a test for a
text and a test for null end in an operator without brackets around them, so that an operator beside
them that binds tighter, first of all a conversion of zone, takes only their last part. An
expression is tidy when it has no such pair.
-/

namespace SqlConnector.Sql

/-! ### Tidy expressions -/

/-- An operand that is written as the constant. -/
def Operand.isNull (o : Operand) : Bool :=
  match o.toSql with
  | .ok text => text = Presto.nullLiteral
  | .error _ => false

/-- The loosest operator that the SQL of an operand shows outside of brackets. -/
def Operand.shown? : Operand → Option Level
  | .call (.timeShift ..) | .call (.indexOf ..) => some .sum
  | .call (.contains ..) => some .predicate
  | .call (.isNotDistinct l r) => if l.isNull || r.isNull then some .predicate else none
  | _ => none

mutual

@[simp] def Operand.Tidy (chains : Bool) : Operand → Prop
  | .sql _ => True
  | .call draft => draft.Tidy chains

/-- No operand shows an operator that is too loose for one that is written beside it. -/
@[simp] def Draft.Tidy (chains : Bool) : Draft → Prop
  | .timeFloor o _ zone | .timeBucket o _ zone | .timePart o _ zone =>
    o.Tidy chains ∧ (zone ∉ Zone.utcNames → FitsLeft chains .zone o.shown?)
  | .timeShift o _ _ => o.Tidy chains ∧ FitsLeft chains .sum o.shown?
  | .cast o _ _ | .regexpTest o _ | .regexpExtract o _ => o.Tidy chains
  | .concat l r => l.Tidy chains ∧ r.Tidy chains
  | .contains o search | .indexOf o search =>
    (o.Tidy chains ∧ FitsRight .predicate o.shown?) ∧
      search.Tidy chains ∧ FitsLeft chains .predicate search.shown?
  | .isNotDistinct l r =>
    if l.isNull then r.Tidy chains ∧ FitsLeft chains .predicate r.shown?
    else if r.isNull then l.Tidy chains ∧ FitsLeft chains .predicate l.shown?
    else (l.Tidy chains ∧ FitsLeft chains .predicate l.shown?) ∧ r.Tidy chains
  | .timeLiteral _ => True

end

theorem Writes.isNull {o : Operand} {t : Term} (h : Writes o t) :
    o.isNull = decide (t.toSql = Presto.nullLiteral) := by
  simp [Operand.isNull, h.toSql]

namespace Term

variable {chains : Bool}

@[simp] theorem fitsLeft_none (k : Level) : FitsLeft chains k none := fun _ h => by simp at h

theorem tidy_wallTime (t : Term) (zone : Zone) : (t.wallTime zone).Tidy chains ↔
    t.Tidy chains ∧ (zone ≠ .utc → FitsLeft chains .zone t.shown?) := by
  cases zone with
  | utc => simp
  | named name not_empty not_utc chars => simp [wallTime, Operator.after?, Operator.before?]

theorem tidy_floor (t : Term) (unit : String) (zone : Zone) : (t.floor unit zone).Tidy chains ↔
    t.Tidy chains ∧ (zone ≠ .utc → FitsLeft chains .zone t.shown?) := by
  rw [← tidy_wallTime]
  cases zone with
  | utc => simp [floor, Operator.after?, Operator.before?]
  | named name not_empty not_utc chars =>
      simp [floor, utcTime, Operator.after?, Operator.before?, Operator.level?]

@[simp] theorem shown?_floor (t : Term) (unit : String) (zone : Zone) :
    (t.floor unit zone).shown? = none := by
  cases zone <;> rfl

theorem shown?_plus (t : Term) {spans : List (Nat × String)}
    (known : ∀ span ∈ spans, span.2 ∈ intervalUnits) (hne : spans ≠ []) :
    (t.plus spans known).shown? = some .sum := by
  induction spans generalizing t with
  | nil => contradiction
  | cons span rest ih =>
      cases rest with
      | nil => rfl
      | cons span' rest =>
          exact ih _ (fun s h => known s (List.mem_cons_of_mem _ h)) (List.cons_ne_nil _ _)

theorem tidy_plus (t : Term) {spans : List (Nat × String)}
    (known : ∀ span ∈ spans, span.2 ∈ intervalUnits) (hne : spans ≠ []) :
    (t.plus spans known).Tidy chains ↔ t.Tidy chains ∧ FitsLeft chains .sum t.shown? := by
  induction spans generalizing t with
  | nil => contradiction
  | cons span rest ih =>
      have hadd : (call (.add span.1 span.2 (known span List.mem_cons_self)) fun _ => t).Tidy
          chains ↔ t.Tidy chains ∧ FitsLeft chains .sum t.shown? := by
        simp [Operator.after?, Operator.before?]
      cases rest with
      | nil => exact hadd
      | cons span' rest =>
          have hchain : FitsLeft chains .sum (some .sum) := by simp [FitsLeft, endsLeft]
          have hrest := ih (call (.add span.1 span.2 (known span List.mem_cons_self)) fun _ => t)
            (fun s h => known s (List.mem_cons_of_mem _ h)) (List.cons_ne_nil _ _)
          rw [hadd] at hrest
          exact hrest.trans (and_iff_left hchain)

end Term

theorem Writes.shown? {o : Operand} {t : Term} (h : Writes o t) : t.shown? = o.shown? := by
  cases h with
  | given sql => rfl
  | timeFloor operand _ _ _ | timeBucket operand _ _ _ => exact Term.shown?_floor _ _ _
  | timeShift operand _ _ => exact Term.shown?_plus _ _ (shiftSpans_ne_nil _)
  | nullOnLeft left right null =>
      simp [Operand.shown?, left.isNull, null, Operator.level?]
  | nullOnRight left right _ null =>
      simp [Operand.shown?, right.isNull, null, Operator.level?]
  | notNull left right hl hr =>
      simp [Operand.shown?, left.isNull, right.isNull, hl, hr, Operator.level?]
  | _ => rfl

theorem ne_utc_iff_of_readZone {name : String} {z : Zone} (h : readZone name = .ok z) :
    z ≠ .utc ↔ name ∉ Zone.utcNames := by
  obtain ⟨hutc, rfl⟩ | ⟨hutc, hne, -⟩ := Zone.ofName_eq_ok (ofName_of_readZone h)
  · simp [hutc]
  · simp [hutc, hne]

theorem Writes.tidy_iff {chains : Bool} {o : Operand} {t : Term} (h : Writes o t) :
    t.Tidy chains ↔ o.Tidy chains := by
  induction h with
  | given sql => rfl
  | timeFloor operand _ hz _ ih | timeBucket operand _ hz _ ih =>
      rw [Term.tidy_floor, ih, operand.shown?, ne_utc_iff_of_readZone hz]
      rfl
  | @timePart o t name zone z formula operand hz known named ih =>
      have hpart : (Term.call (.part formula known) fun _ => t.wallTime z).Tidy chains ↔
          (t.wallTime z).Tidy chains := by
        simp [Operator.after?, Operator.before?]
      rw [hpart, Term.tidy_wallTime, ih, operand.shown?, ne_utc_iff_of_readZone hz]
      rfl
  | timeShift operand _ _ ih =>
      rw [Term.shift, Term.tidy_plus _ _ (shiftSpans_ne_nil _), ih, operand.shown?]
      rfl
  | cast operand _ _ _ _ ih | regexpTest operand _ ih | regexpExtract operand _ ih =>
      simpa [Operator.after?, Operator.before?] using ih
  | concat left right ihl ihr =>
      simp [Fin.forall_fin_two, Operator.after?, Operator.before?, ihl, ihr]
  | contains operand search ih ihs | indexOf operand search ih ihs =>
      simp [Fin.forall_fin_two, Operator.after?, Operator.before?, ih, ihs, operand.shown?,
        search.shown?]
  | nullOnLeft left right null ihl ihr =>
      simp [Operator.after?, Operator.before?, left.isNull, null, ihr, right.shown?]
  | nullOnRight left right hl null ihl ihr =>
      simp [Operator.after?, Operator.before?, left.isNull, hl, right.isNull, null, ihl,
        left.shown?]
  | notNull left right hl hr ihl ihr =>
      simp [Fin.forall_fin_two, Operator.after?, Operator.before?, left.isNull, hl, right.isNull,
        hr, ihl, ihr, left.shown?]
  | timestamp time => simp
  | null => simp

/-! ### The places of an expression -/

/-- An operator that takes the end of an operand does not take all of it. -/
theorem Place.not_whole_of_append {chains : Bool} {k : Level} {p : Place} {rest part : List Lexeme}
    (hafter : p.after.head?.bind Lexeme.between? = some k)
    (hoperand : p.operand.tokens = rest ++ part) (hne : rest ≠ [])
    (hpart : LeftOperand chains k (p.front ++ p.before ++ rest) part) : ¬p.Whole chains := by
  intro hwhole
  have hleft := hwhole.1 k hafter
  rw [hoperand] at hleft
  have heq : rest ++ part = part := hleft.unique hpart (List.append_assoc _ _ _).symm
  exact hne (List.append_left_eq_self.mp heq)

theorem Term.HasPlace.all {P : String → Prop} {t : Term} {p : Place} (h : t.HasPlace p)
    (hall : t.All P) : p.operand.All P := by
  induction h with
  | own parts_eq => exact hall _
  | inner parts_eq place ih => exact ih (hall _)

theorem Term.tokens_toSql {t : Term} (hall : t.All Atom) : tokensOf t.toSql = t.tokens := by
  have hlex := (Term.lex?_toSql (Term.closed_of_atoms hall)).1
  rw [tokensOf, lexed_eq hlex]
  rfl

/-- An expression over atoms is written as a tree. At every place of an operand in it, the SQL
splits into that of the operand and what stands around it; and the operators that are written
beside the operands apply to all of them, at all places, exactly when the expression is tidy. -/
theorem whole_iff_tidy (chains : Bool) {d : Draft} {sql : String}
    (hleaves : ∀ s ∈ d.leaves, Atom s) (h : d.toSql = .ok sql) :
    ∃ t, Writes (.call d) t ∧ t.toSql = sql ∧
      (∀ p, t.HasPlace p →
        p.operand.tokens = tokensOf p.operand.toSql ∧ p.tokens = tokensOf sql) ∧
      ((∀ p, t.HasPlace p → p.Whole chains) ↔ d.Tidy chains) := by
  obtain ⟨t, ht, rfl⟩ := d.exists_writes h
  have hall : t.All Atom := ht.all hleaves
  refine ⟨t, ht, rfl, fun p hp => ⟨?_, ?_⟩, ?_⟩
  · exact (Term.tokens_toSql (hp.all hall)).symm
  · rw [hp.tokens_eq, Term.tokens_toSql hall]
  · exact (Term.forall_whole_iff hall).trans ht.tidy_iff

/-- A conversion inside of a shift is read as it is meant. -/
theorem whole_of_shifted_floor :
    let d := Draft.timeShift (.call (.timeFloor (.sql "t") "PT1H" "America/Los_Angeles")) "PT1H"
      "UTC"
    ∃ sql t, d.toSql = .ok sql ∧ (∀ s ∈ d.leaves, Atom s) ∧ Writes (.call d) t ∧ t.toSql = sql ∧
      ∀ p, t.HasPlace p → p.Whole false := by
  intro d
  have hleaves : ∀ s ∈ d.leaves, Atom s := by decide
  have hsql : d.toSql = .ok ("(DATE_TRUNC('hour', (t AT TIME ZONE 'UTC' AT TIME ZONE " ++
      "'America/Los_Angeles')) AT TIME ZONE 'America/Los_Angeles' AT TIME ZONE 'UTC') + " ++
      "INTERVAL '1' HOUR") := by rfl
  obtain ⟨t, ht, hsql', -, hwhole⟩ := whole_iff_tidy false hleaves hsql
  have htidy : d.Tidy false := by simp [d, Operand.shown?, FitsLeft]
  exact ⟨_, t, hsql, hleaves, ht, hsql', hwhole.mpr htidy⟩

/-- A floor of a shifted time converts only the interval that is added, not the time. -/
theorem interval_converted_alone :
    let d := Draft.timeFloor (.call (.timeShift (.sql "t") "PT1H" "UTC")) "PT1H"
      "America/Los_Angeles"
    let sum := [Lexeme.word "t", .mark '+']
    let interval := [Lexeme.word "INTERVAL", .quoted .single "1", .word "HOUR"]
    (∀ s ∈ d.leaves, Atom s) ∧
    d.toSql = .ok ("(DATE_TRUNC('hour', (t + INTERVAL '1' HOUR AT TIME ZONE 'UTC' AT TIME ZONE " ++
      "'America/Los_Angeles')) AT TIME ZONE 'America/Los_Angeles' AT TIME ZONE 'UTC')") ∧
    ∃ t p, Writes (.call d) t ∧ t.HasPlace p ∧ p.operand.toSql = "t + INTERVAL '1' HOUR" ∧
      p.operand.tokens = sum ++ interval ∧
      p.after.take 3 = [.word "AT", .word "TIME", .word "ZONE"] ∧
      ∀ chains, LeftOperand chains .zone (p.front ++ p.before ++ sum) interval ∧
        ¬p.Whole chains := by
  intro d sum interval
  let hour : Duration := ⟨⟨0, 0, 0, 0, 1, 0, 0⟩, by decide, by decide⟩
  let zone : Zone :=
    .named "America/Los_Angeles" (by decide) (by decide) (List.all_eq_true.mp (by decide))
  let shifted : Term := (Term.given "t").shift hour
  have hhour : readDuration "PT1H" = .ok hour := by rfl
  have hzone : readZone "America/Los_Angeles" = .ok zone := by rfl
  have hunit : Presto.truncationUnits.lookup hour.toText = some "hour" := by decide
  have hfloored : Writes (.call d) (shifted.floor "hour" zone) :=
    .timeFloor (.timeShift (.given "t") hhour (z := .utc) (by rfl)) hhour hzone hunit
  let converted : Term := .call (.convert .utc zone) fun _ => shifted
  let truncated : Term := .call (.truncate "hour") fun _ => converted
  have hconverted := @Term.HasPlace.own 1 (.convert .utc zone) (fun _ => shifted) [] _ _ 0 rfl
  have htruncated := @Term.HasPlace.inner 1 (.truncate "hour") (fun _ => converted)
    [("DATE_TRUNC(", .literal "hour")] _ _ 0 _ rfl hconverted
  have hplace := @Term.HasPlace.inner 1 (.convert zone .utc) (fun _ => truncated) [] _ _ 0 _ rfl
    htruncated
  have hshifted : shifted.tokens = sum ++ interval := by decide +kernel
  refine ⟨by decide, by rfl, _, _, hfloored, hplace, (Term.toSql_shift _ _).trans (by decide),
    hshifted, by decide +kernel, fun chains => ?_⟩
  have hinterval (before : List Lexeme) : LeftOperand chains .zone (before ++ sum) interval :=
    { balanced := rfl
      tight := by simp [interval, Lexeme.level?]
      bounded := by simp [sum, Lexeme.level?, endsLeft, Level.rank] }
  exact ⟨hinterval _, Place.not_whole_of_append (by decide +kernel) hshifted (by simp [sum])
    (hinterval _)⟩

end SqlConnector.Sql
