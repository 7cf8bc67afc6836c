import SqlConnector.Proofs.Sql.Operator
import SqlConnector.Proofs.Sql.Truncation

/-!
SQL as a tree of calls over texts that are given. One operator of an expression may write several
calls, such as a truncation between two conversions of zone; the SQL of a tree is what the
operators write.
-/

namespace SqlConnector.Sql

/-- A duration adds something. -/
theorem shiftSpans_ne_nil (d : Duration) : Presto.shiftSpans d.spans ≠ [] := by
  intro h
  obtain ⟨⟨year, month, week, day, hour, minute, second⟩, not_none, weeks_alone⟩ := d
  unfold Presto.shiftSpans at h
  split at h
  · contradiction
  · next hweekOnly =>
      have hzero {n : UInt32} (hn : n.toNat = 0) : n = 0 := UInt32.toNat_inj.mp hn
      obtain ⟨hy, hmo, hd, hh, hmi, hs⟩ : year = 0 ∧ month = 0 ∧ day = 0 ∧ hour = 0 ∧
          minute = 0 ∧ second = 0 := by
        simp only [List.filter_eq_nil_iff, List.mem_cons, List.not_mem_nil, or_false,
          forall_eq_or_imp, forall_eq, ne_eq, decide_not, Bool.not_eq_true, Bool.not_eq_false',
          decide_eq_true_eq] at h
        obtain ⟨hy, hmo, hd, hh, hmi, hs⟩ := h
        exact ⟨hzero hy, hzero hmo, hzero hd, hzero hh, hzero hmi, hzero hs⟩
      subst hy hmo hd hh hmi hs
      -- Without weeks there is nothing, and weeks alone are added as days.
      have hweek : week ≠ 0 := fun h => not_none (by rw [h]; rfl)
      exact hweekOnly (by simp [Spans.isWeekOnly, hweek, Spans.withoutWeeks, Spans.none])

inductive Term where
  | given (sql : String)
  | call {n : Nat} (op : Operator n) (operands : Fin n → Term)

namespace Term

@[simp] def toSql : Term → String
  | given sql => sql
  | call op operands => op.frame.fill fun i => (operands i).toSql

/-- The lexemes of a term by those of the texts that are given. -/
def lexemes : Term → List Lexeme
  | given sql => lexed sql
  | call op operands => op.frame.lexemes fun i => (operands i).lexemes

/-- All texts that are given to a term satisfy `P`. -/
def All (P : String → Prop) : Term → Prop
  | given sql => P sql
  | call _ operands => ∀ i, (operands i).All P

def pair (first second : Term) : Fin 2 → Term
  | 0 => first
  | 1 => second

@[simp] theorem pair_zero (first second : Term) : pair first second 0 = first := rfl

@[simp] theorem pair_one (first second : Term) : pair first second 1 = second := rfl

def wallTime (t : Term) : Zone → Term
  | .utc => t
  | zone => call (.convert .utc zone) fun _ => t

def utcTime (t : Term) : Zone → Term
  | .utc => t
  | zone => call (.convert zone .utc) fun _ => t

@[simp] theorem wallTime_utc (t : Term) : t.wallTime .utc = t := rfl

@[simp] theorem utcTime_utc (t : Term) : t.utcTime .utc = t := rfl

/-- The operand truncated in the wall time of a zone. -/
def floor (t : Term) (unit : String) (zone : Zone) : Term :=
  utcTime (call (.truncate unit) fun _ => t.wallTime zone) zone

@[simp] def plus (t : Term) :
    (spans : List (Nat × String)) → (∀ span ∈ spans, span.2 ∈ intervalUnits) → Term
  | [], _ => t
  | (count, unit) :: spans, known =>
    plus (call (.add count unit (known _ List.mem_cons_self)) fun _ => t) spans
      fun span h => known span (List.mem_cons_of_mem _ h)

theorem unit_mem_of_shiftSpans {s : Spans} :
    ∀ span ∈ Presto.shiftSpans s, span.2 ∈ intervalUnits := by
  intro span h
  unfold Presto.shiftSpans at h
  split at h
  · obtain rfl := List.mem_singleton.mp h
    simp [intervalUnits]
  · have hmem := List.mem_of_mem_filter h
    simp only [List.mem_cons, List.not_mem_nil, or_false] at hmem
    obtain rfl | rfl | rfl | rfl | rfl | rfl := hmem <;> simp [intervalUnits]

def shift (t : Term) (duration : Duration) : Term :=
  t.plus (Presto.shiftSpans duration.spans) unit_mem_of_shiftSpans

/-! ### The SQL of a term is what its operators write -/

theorem toSql_convert (t : Term) (source target : Zone) :
    (call (.convert source target) fun _ => t).toSql =
      "(" ++ t.toSql ++ " AT TIME ZONE '" ++ source.name ++ "' AT TIME ZONE '" ++ target.name ++
        "')" := by
  apply String.toList_inj.mp
  simp [Operator.frame, literal_of_not_mem (Zone.quote_not_mem_name _)]

@[simp] theorem toSql_wallTime (t : Term) (zone : Zone) :
    (t.wallTime zone).toSql = Presto.wallTime t.toSql zone := by
  cases zone with
  | utc => rfl
  | named name not_empty not_utc chars =>
      show (call (.convert .utc _) fun _ => t).toSql = _
      rw [toSql_convert, wallTime_eq_converted, converted, if_neg Zone.noConfusion]

@[simp] theorem toSql_utcTime (t : Term) (zone : Zone) :
    (t.utcTime zone).toSql = Presto.utcTime t.toSql zone := by
  cases zone with
  | utc => rfl
  | named name not_empty not_utc chars =>
      show (call (.convert _ .utc) fun _ => t).toSql = _
      rw [toSql_convert, utcTime_eq_converted, converted, if_neg Zone.noConfusion]

theorem quote_not_mem_unit : ∀ unit ∈ Presto.truncationUnits.map Prod.snd, '\'' ∉ unit.toList := by
  decide

theorem timeFloor_eq (t : Term) {duration : Duration} {unit : String}
    (h : Presto.truncationUnits.lookup duration.toText = some unit) (zone : Zone) :
    Presto.timeFloor t.toSql duration zone = .ok (t.floor unit zone).toSql := by
  have hunit : unit ∈ Presto.truncationUnits.map Prod.snd :=
    List.mem_map.mpr ⟨_, mem_of_lookup h, rfl⟩
  have htruncate : (call (.truncate unit) fun _ => t.wallTime zone).toSql =
      "DATE_TRUNC('" ++ unit ++ "', " ++ Presto.wallTime t.toSql zone ++ ")" := by
    apply String.toList_inj.mp
    simp [Operator.frame, literal_of_not_mem (quote_not_mem_unit unit hunit)]
  unfold Presto.timeFloor
  rw [floor, toSql_utcTime, htruncate]
  simp only [h]

theorem exists_floor {t : Term} {duration : Duration} {zone : Zone} {sql : String}
    (h : Presto.timeFloor t.toSql duration zone = .ok sql) :
    ∃ unit, Presto.truncationUnits.lookup duration.toText = some unit ∧
      (t.floor unit zone).toSql = sql := by
  cases hunit : Presto.truncationUnits.lookup duration.toText with
  | none => simp [Presto.timeFloor, hunit] at h
  | some unit => exact ⟨unit, rfl, Except.ok.inj ((timeFloor_eq t hunit zone).symm.trans h)⟩

theorem fill_cuts (formula : Formula) (front operand : String) :
    Frame.fill ⟨(formula.cuts front).1.map fun text => (text, .operand (0 : Fin 1)),
        (formula.cuts front).2⟩ (fun _ => operand) = front ++ formula.text operand := by
  induction formula generalizing front with
  | field f => simp [Formula.text, Field.call, String.append_assoc]
  | lessOne f => simp [Formula.text, Field.call, String.append_assoc]
  | step units size next ih =>
      have h := ih (front ++ "(")
      simp only [Formula.cuts, String.append_assoc, List.map_append, List.map_cons,
        List.map_nil] at h ⊢
      rw [Frame.fill_concat, h]
      simp [Formula.text, Field.call, String.append_assoc]

theorem timePart_eq (t : Term) {name : String} {formula : Formula}
    (h : parts.lookup name = some formula) (known : formula ∈ parts.map Prod.snd) (zone : Zone) :
    Presto.timePart t.toSql name zone =
      .ok (call (.part formula known) fun _ => t.wallTime zone).toSql := by
  unfold Presto.timePart
  rw [toSql, Operator.frame, fill_cuts, toSql_wallTime, String.empty_append]
  simp only [h]

theorem exists_part {t : Term} {name : String} {zone : Zone} {sql : String}
    (h : Presto.timePart t.toSql name zone = .ok sql) :
    ∃ formula, parts.lookup name = some formula ∧ ∃ known : formula ∈ parts.map Prod.snd,
      (call (.part formula known) fun _ => t.wallTime zone).toSql = sql := by
  cases hformula : parts.lookup name with
  | none => simp [Presto.timePart, hformula] at h
  | some formula =>
      have known : formula ∈ parts.map Prod.snd := List.mem_map.mpr ⟨_, mem_of_lookup hformula, rfl⟩
      exact ⟨formula, rfl, known,
        Except.ok.inj ((timePart_eq t hformula known zone).symm.trans h)⟩

theorem toSql_plus (t : Term) (spans : List (Nat × String))
    (known : ∀ span ∈ spans, span.2 ∈ intervalUnits) :
    (t.plus spans known).toSql =
      spans.foldl (fun text (n, unit) => text ++ Presto.plusInterval n unit) t.toSql := by
  induction spans generalizing t with
  | nil => rfl
  | cons span rest ih =>
      obtain ⟨count, unit⟩ := span
      have hadd : (call (.add count unit (known _ List.mem_cons_self)) fun _ => t).toSql =
          t.toSql ++ Presto.plusInterval count unit := by
        simp only [toSql, Operator.frame, Frame.fill, List.foldr_cons, List.foldr_nil, Hole.sql,
          plusInterval_eq, String.empty_append, String.append_assoc]
      rw [plus, ih, hadd, List.foldl_cons]

theorem toSql_shift (t : Term) (duration : Duration) :
    (t.shift duration).toSql = Presto.timeShift t.toSql duration :=
  toSql_plus t _ _

theorem mem_castTexts {source target : ValueType} {around : String × String}
    (h : Presto.castAround? source target = some around) : around ∈ castTexts := by
  unfold Presto.castAround? at h
  split at h
  all_goals first | contradiction | (obtain rfl := Option.some.inj h; simp [castTexts])

theorem cast_eq (t : Term) {source target : ValueType} {around : String × String}
    (h : Presto.castAround? source target = some around) (known : around ∈ castTexts) :
    Presto.cast t.toSql source target = .ok (call (.cast around known) fun _ => t).toSql := by
  unfold Presto.cast
  simp only [h]
  rfl

theorem exists_cast {t : Term} {source target : ValueType} {sql : String}
    (h : Presto.cast t.toSql source target = .ok sql) :
    ∃ around, Presto.castAround? source target = some around ∧
      ∃ known : around ∈ castTexts, (call (.cast around known) fun _ => t).toSql = sql := by
  cases haround : Presto.castAround? source target with
  | none => simp [Presto.cast, haround] at h
  | some around =>
      have known : around ∈ castTexts := mem_castTexts haround
      exact ⟨around, rfl, known, Except.ok.inj ((cast_eq t haround known).symm.trans h)⟩

theorem toSql_regexp (t : Term) {function : String} (known : function ∈ regexpFunctions)
    (pattern : String) : (call (.regexp function known pattern) fun _ => t).toSql =
      function ++ "(" ++ t.toSql ++ ", " ++ literal pattern ++ ")" := by
  simp [Operator.frame, String.append_assoc]

theorem toSql_concat (l r : Term) :
    (call .concat (pair l r)).toSql = Presto.concat l.toSql r.toSql := by
  unfold Presto.concat
  simp [Operator.frame, String.append_assoc]

theorem toSql_contains (t search : Term) :
    (call .contains (pair t search)).toSql = Presto.contains t.toSql search.toSql := by
  unfold Presto.contains Presto.position
  apply String.toList_inj.mp
  simp [Operator.frame]

theorem toSql_indexOf (t search : Term) :
    (call .indexOf (pair t search)).toSql = Presto.indexOf t.toSql search.toSql := by
  unfold Presto.indexOf Presto.position
  apply String.toList_inj.mp
  simp [Operator.frame]

theorem toSql_isNull (t : Term) :
    (call .isNull fun _ => t).toSql = t.toSql ++ " IS " ++ Presto.nullLiteral := by
  apply String.toList_inj.mp
  simp [Operator.frame, Presto.nullLiteral]

theorem toSql_isIn (l r : Term) :
    (call .isIn (pair l r)).toSql = "(" ++ l.toSql ++ " IN (" ++ r.toSql ++ "))" := by
  simp [Operator.frame, String.append_assoc]

theorem toSql_timestamp (time : Instant) (operands : Fin 0 → Term) :
    (call (.timestamp time) operands).toSql = Presto.timeLiteral (some time) := by
  have hquote (text : String) : "CAST(" ++ ("'" ++ text ++ "'") ++ " AS TIMESTAMP)" =
      "CAST('" ++ text ++ "' AS TIMESTAMP)" := by
    apply String.toList_inj.mp
    simp
  simp only [toSql, Operator.frame, Frame.fill, List.foldr_cons, List.foldr_nil, Hole.sql,
    literal_of_not_mem time.quote_not_mem_toText, hquote, Presto.timeLiteral]

end Term

end SqlConnector.Sql
