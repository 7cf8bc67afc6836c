import SqlConnector.Proofs.Sql.Frame
import SqlConnector.Proofs.Text.Numeral
import SqlConnector.Sql.Draft

/-!
The calls that operators are written as, each as a frame around the SQL of its operands. What a
call writes between quotes has no quotes of its own, so it is a literal as it stands.
-/

namespace SqlConnector

/-! ### Texts without quotes -/

theorem Zone.quote_not_mem_name (z : Zone) : '\'' ∉ z.name.toList := by
  cases z with
  | utc => decide
  | named name not_empty not_utc chars => exact fun h => absurd (chars _ h) (by decide)

/-- A zone that is read is the one of the name: UTC by either name, any other as it is written. -/
theorem Zone.ofName_eq_ok {name : String} {z : Zone} (h : Zone.ofName name = .ok z) :
    (name ∈ Zone.utcNames ∧ z = .utc) ∨ (name ∉ Zone.utcNames ∧ z ≠ .utc ∧ z.name = name) := by
  unfold Zone.ofName at h
  split at h
  · contradiction
  · split at h
    · next hutc => exact .inl ⟨hutc, (Except.ok.inj h).symm⟩
    · next hutc =>
        split at h
        · contradiction
        · obtain rfl := Except.ok.inj h
          exact .inr ⟨hutc, Zone.noConfusion, rfl⟩

@[simp] theorem Text.quote_not_mem_digits (n : Nat) : '\'' ∉ Text.digits n :=
  Text.not_mem_digits (by decide) n

@[simp] theorem Text.quote_not_mem_padded (width n : Nat) : '\'' ∉ Text.padded width n := by
  simp [Text.padded]

@[simp] theorem Instant.quote_not_mem_yearText (year : Int) : '\'' ∉ Instant.yearText year := by
  unfold Instant.yearText
  split
  · exact Text.quote_not_mem_padded _ _
  · split <;> simp

@[simp] theorem Instant.quote_not_mem_dateText (d : Date) : '\'' ∉ Instant.dateText d := by
  simp [Instant.dateText]

@[simp] theorem Instant.quote_not_mem_timeText (t : Instant) : '\'' ∉ t.timeText := by
  simp [Instant.timeText]

@[simp] theorem Instant.quote_not_mem_fractionText (t : Instant) : '\'' ∉ t.fractionText := by
  unfold Instant.fractionText
  split <;> simp

theorem Instant.quote_not_mem_toText (t : Instant) : '\'' ∉ t.toText.toList := by
  rw [Instant.toText, String.toList_ofList]
  simp

theorem quote_not_mem_toString (n : Nat) : '\'' ∉ (toString n).toList := by
  rw [Text.toList_toString]
  exact Text.quote_not_mem_digits n

namespace Sql

/-- The number of an interval is a literal as it stands. -/
theorem plusInterval_eq (n : Nat) (unit : String) :
    Presto.plusInterval n unit = " + INTERVAL " ++ literal (toString n) ++ (" " ++ unit) := by
  rw [literal_of_not_mem (quote_not_mem_toString n)]
  unfold Presto.plusInterval
  generalize toString n = number
  apply String.toList_inj.mp
  simp

/-! ### Operators -/

/-- The texts around the operand of every cast there is. -/
def castTexts : List (String × String) := [
  ("CAST(FROM_UNIXTIME(CAST(", " AS DOUBLE) / 1000) AS TIMESTAMP)"),
  ("CAST(TO_UNIXTIME(CAST(", " AS TIMESTAMP)) * 1000 AS BIGINT)"),
  ("CAST(", " AS BIGINT)"), ("CAST(", " AS VARCHAR)")]

def intervalUnits : List String := ["YEAR", "MONTH", "DAY", "HOUR", "MINUTE", "SECOND"]

def regexpFunctions : List String := ["REGEXP_LIKE", "REGEXP_EXTRACT"]

/-- The calls that are written, by the number of their operands, each with what it has besides. -/
inductive Operator : Nat → Type where
  | null : Operator 0
  | timestamp (time : Instant) : Operator 0
  | convert (source target : Zone) : Operator 1
  | truncate (unit : String) : Operator 1
  | part (formula : Formula) (known : formula ∈ parts.map Prod.snd) : Operator 1
  | add (count : Nat) (unit : String) (known : unit ∈ intervalUnits) : Operator 1
  | cast (around : String × String) (known : around ∈ castTexts) : Operator 1
  | regexp (function : String) (known : function ∈ regexpFunctions) (pattern : String) : Operator 1
  | isNull : Operator 1
  | concat : Operator 2
  | contains : Operator 2
  | indexOf : Operator 2
  | isIn : Operator 2

/-- The texts of a formula before each operand and after the last, with `front` before them. -/
@[simp] def Formula.cuts (front : String) : Formula → List String × String
  | field f => ([front ++ f.name ++ "("], ")")
  | lessOne f => ([front ++ "(" ++ f.name ++ "("], ")-1)")
  | step units size next =>
    let (texts, last) := units.cuts (front ++ "(")
    (texts ++ [last ++ "*" ++ toString size ++ "+" ++ next.name ++ "("], "))")

namespace Operator

def frame {n : Nat} : Operator n → Frame n
  | null => ⟨[], "NULL"⟩
  | timestamp time => ⟨[("CAST(", .literal time.toText)], " AS TIMESTAMP)"⟩
  | convert source target => ⟨[("(", .operand 0), (" AT TIME ZONE ", .literal source.name),
      (" AT TIME ZONE ", .literal target.name)], ")"⟩
  | truncate unit => ⟨[("DATE_TRUNC(", .literal unit), (", ", .operand 0)], ")"⟩
  | part formula _ =>
    ⟨(formula.cuts "").1.map fun text => (text, .operand 0), (formula.cuts "").2⟩
  | add count unit _ =>
    ⟨[("", .operand 0), (" + INTERVAL ", .literal (toString count))], " " ++ unit⟩
  | cast around _ => ⟨[(around.1, .operand 0)], around.2⟩
  | concat => ⟨[("CONCAT(", .operand 0), (",", .operand 1)], ")"⟩
  | contains => ⟨[("POSITION(", .operand 1), (" IN ", .operand 0)], ")>0"⟩
  | indexOf => ⟨[("POSITION(", .operand 1), (" IN ", .operand 0)], ") - 1"⟩
  | regexp function _ pattern => ⟨[(function ++ "(", .operand 0), (", ", .literal pattern)], ")"⟩
  | isNull => ⟨[("", .operand 0)], " IS NULL"⟩
  | isIn => ⟨[("(", .operand 0), (" IN (", .operand 1)], "))"⟩

/-- The texts of the frames of all operators. -/
def allTexts : List (List String) :=
  (parts.map Prod.snd).map (fun formula => (formula.cuts "").1 ++ [(formula.cuts "").2]) ++
    intervalUnits.map (fun unit => ["", " + INTERVAL ", " " ++ unit]) ++
    castTexts.map (fun around => [around.1, around.2]) ++
    regexpFunctions.map (fun function => [function ++ "(", ", ", ")"]) ++
    [["NULL"], ["CAST(", " AS TIMESTAMP)"], ["(", " AT TIME ZONE ", " AT TIME ZONE ", ")"],
      ["DATE_TRUNC(", ", ", ")"], ["CONCAT(", ",", ")"], ["POSITION(", " IN ", ")>0"],
      ["POSITION(", " IN ", ") - 1"], ["", " IS NULL"], ["(", " IN (", "))"]]

theorem texts_mem {n : Nat} (op : Operator n) : op.frame.texts ∈ allTexts := by
  unfold allTexts
  simp only [List.mem_append]
  cases op with
  | part formula known =>
      refine .inl (.inl (.inl (.inl (List.mem_map.mpr ⟨formula, known, ?_⟩))))
      simp [frame]
  | add count unit known => exact .inl (.inl (.inl (.inr (List.mem_map.mpr ⟨unit, known, rfl⟩))))
  | cast around known => exact .inl (.inl (.inr (List.mem_map.mpr ⟨around, known, rfl⟩)))
  | regexp function known pattern => exact .inl (.inr (List.mem_map.mpr ⟨function, known, rfl⟩))
  | null | timestamp _ | convert _ _ | truncate _ | isNull | concat | contains | indexOf | isIn =>
      exact .inr (by simp [frame])

/-- Every operator keeps its operands apart, whatever their SQL. -/
theorem soundTexts_frame {n : Nat} (op : Operator n) : SoundTexts op.frame.texts := by
  have hall : ∀ texts ∈ allTexts, SoundTexts texts := by decide +kernel
  exact hall _ op.texts_mem

end Operator

end Sql

end SqlConnector
