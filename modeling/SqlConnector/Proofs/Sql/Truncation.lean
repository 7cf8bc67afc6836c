import SqlConnector.Proofs.Time.Canonical
import SqlConnector.Sql.Presto

/-!
Times truncated to a unit. Each unit is asked for by one duration, which is a single span of it, or
three months for a quarter; its canonical text is a key of the table of units, and durations that do
not print alike are told apart. Main statement: a time is truncated in the wall time of the zone for
these eight durations, and every other duration is named in an error.
-/

namespace SqlConnector

/-! ### Spans -/

/-- The months and the seconds that spans come to, with weeks and days of their usual lengths. -/
def Spans.length (s : Spans) : Nat × Nat :=
  (12 * s.year.toNat + s.month.toNat,
    (((7 * s.week.toNat + s.day.toNat) * 24 + s.hour.toNat) * 60 + s.minute.toNat) * 60 +
      s.second.toNat)

theorem Duration.spans_inj {d e : Duration} (h : d.spans = e.spans) : d = e := by
  cases d
  cases e
  simpa using h

namespace Sql

/-! ### Units -/

inductive TruncationUnit where
  | second
  | minute
  | hour
  | day
  | week
  | month
  | quarter
  | year
  deriving DecidableEq, Repr

namespace TruncationUnit

def name : TruncationUnit → String
  | second => "second"
  | minute => "minute"
  | hour => "hour"
  | day => "day"
  | week => "week"
  | month => "month"
  | quarter => "quarter"
  | year => "year"

/-- The spans of a single unit. -/
def spans : TruncationUnit → Spans
  | second => { Spans.none with second := 1 }
  | minute => { Spans.none with minute := 1 }
  | hour => { Spans.none with hour := 1 }
  | day => { Spans.none with day := 1 }
  | week => { Spans.none with week := 1 }
  | month => { Spans.none with month := 1 }
  | quarter => { Spans.none with month := 3 }
  | year => { Spans.none with year := 1 }

def duration (unit : TruncationUnit) : Duration where
  spans := unit.spans
  not_none := by cases unit <;> decide
  weeks_alone := by cases unit <;> decide

def all : List TruncationUnit := [second, minute, hour, day, week, month, quarter, year]

theorem name_inj {unit other : TruncationUnit} (h : unit.name = other.name) : unit = other := by
  cases unit <;> cases other <;> first | rfl | contradiction

theorem eq_of_length {unit other : TruncationUnit}
    (h : unit.spans.length = other.spans.length) : unit = other := by
  cases unit <;> cases other <;> first | rfl | exact absurd h (by decide)

end TruncationUnit

/-- The table is keyed by the texts of the durations of the units. -/
theorem truncationUnits_eq :
    Presto.truncationUnits =
      TruncationUnit.all.map fun unit => (unit.duration.toText, unit.name) := by
  decide +kernel

theorem mem_of_lookup {β : Type} {pairs : List (String × β)} {key : String} {b : β}
    (h : pairs.lookup key = some b) : (key, b) ∈ pairs := by
  obtain ⟨before, after, htable, -⟩ := List.lookup_eq_some_iff.mp h
  simp [htable]

theorem lookup_truncationUnits {d : Duration} {name : String} :
    Presto.truncationUnits.lookup d.toText = some name ↔
      ∃ unit : TruncationUnit, d.spans = unit.spans ∧ unit.name = name := by
  constructor
  · intro h
    have hmem := mem_of_lookup h
    rw [truncationUnits_eq, List.mem_map] at hmem
    obtain ⟨unit, -, hunit⟩ := hmem
    obtain ⟨htext, hname⟩ := Prod.mk.inj hunit
    exact ⟨unit, congrArg Duration.spans (Duration.toText_inj htext).symm, hname⟩
  · rintro ⟨unit, hspans, rfl⟩
    have hall : ∀ unit : TruncationUnit,
        Presto.truncationUnits.lookup unit.duration.toText = some unit.name := by
      intro unit
      cases unit <;> decide +kernel
    have hd : d = unit.duration := Duration.spans_inj hspans
    rw [hd, hall unit]

/-! ### Conversions -/

/-- SQL for a time in another zone. Nothing is written for a conversion into the same zone. -/
def converted (source target : Zone) (sql : String) : String :=
  if source = target then sql
  else "(" ++ sql ++ " AT TIME ZONE '" ++ source.name ++ "' AT TIME ZONE '" ++ target.name ++ "')"

theorem wallTime_eq_converted (sql : String) (zone : Zone) :
    Presto.wallTime sql zone = converted .utc zone sql := by
  cases zone with
  | utc => rfl
  | named name not_empty not_utc chars =>
      have hne : Zone.utc ≠ .named name not_empty not_utc chars := Zone.noConfusion
      rw [converted, if_neg hne]
      apply String.toList_inj.mp
      simp [Presto.wallTime, Zone.name]

theorem utcTime_eq_converted (sql : String) (zone : Zone) :
    Presto.utcTime sql zone = converted zone .utc sql := by
  cases zone with
  | utc => rfl
  | named name not_empty not_utc chars =>
      have hne : Zone.named name not_empty not_utc chars ≠ .utc := Zone.noConfusion
      rw [converted, if_neg hne]
      apply String.toList_inj.mp
      simp [Presto.utcTime, Zone.name]

theorem converted_inj {source target : Zone} {s t : String}
    (h : converted source target s = converted source target t) : s = t := by
  unfold converted at h
  split at h
  · exact h
  · simpa only [String.append_left_inj, String.append_right_inj] using h

/-! ### Truncation -/

def truncated (unit : TruncationUnit) (sql : String) : String :=
  "DATE_TRUNC('" ++ unit.name ++ "', " ++ sql ++ ")"

theorem truncated_inj {unit other : TruncationUnit} {sql : String}
    (h : truncated unit sql = truncated other sql) : unit = other := by
  unfold truncated at h
  rw [String.append_left_inj, String.append_left_inj, String.append_left_inj,
    String.append_right_inj] at h
  exact TruncationUnit.name_inj h

/-- The operand truncated in the wall time of the zone. -/
def floored (operand : String) (unit : TruncationUnit) (zone : Zone) : String :=
  converted zone .utc (truncated unit (converted .utc zone operand))

section Floor

variable (operand : String) (zone : Zone) {d : Duration}

theorem timeFloor_of_unit {unit : TruncationUnit} (h : d.spans = unit.spans) :
    Presto.timeFloor operand d zone = .ok (floored operand unit zone) := by
  have hunit : Presto.truncationUnits.lookup d.toText = some unit.name :=
    lookup_truncationUnits.mpr ⟨unit, h, rfl⟩
  simp only [Presto.timeFloor, hunit, utcTime_eq_converted, wallTime_eq_converted]
  rfl

theorem timeFloor_of_no_unit (h : ∀ unit : TruncationUnit, d.spans ≠ unit.spans) :
    Presto.timeFloor operand d zone = .error (.unsupportedDuration d) := by
  have hnone : Presto.truncationUnits.lookup d.toText = none := by
    cases hlookup : Presto.truncationUnits.lookup d.toText with
    | none => rfl
    | some name =>
        obtain ⟨unit, hunit, -⟩ := lookup_truncationUnits.mp hlookup
        exact absurd hunit (h unit)
  simp only [Presto.timeFloor, hnone]

theorem timeFloor_eq_ok {sql : String} :
    Presto.timeFloor operand d zone = .ok sql ↔
      ∃ unit : TruncationUnit, d.spans = unit.spans ∧ sql = floored operand unit zone := by
  constructor
  · intro h
    by_cases hunit : ∃ unit : TruncationUnit, d.spans = unit.spans
    · obtain ⟨unit, hunit⟩ := hunit
      rw [timeFloor_of_unit operand zone hunit] at h
      exact ⟨unit, hunit, (Except.ok.inj h).symm⟩
    · rw [timeFloor_of_no_unit operand zone (not_exists.mp hunit)] at h
      contradiction
  · rintro ⟨unit, hunit, rfl⟩
    exact timeFloor_of_unit operand zone hunit

theorem timeFloor_eq_error {e : RenderError} :
    Presto.timeFloor operand d zone = .error e ↔
      (∀ unit : TruncationUnit, d.spans ≠ unit.spans) ∧ e = .unsupportedDuration d := by
  constructor
  · intro h
    have hnone : ∀ unit : TruncationUnit, d.spans ≠ unit.spans := by
      intro unit hunit
      rw [timeFloor_of_unit operand zone hunit] at h
      contradiction
    rw [timeFloor_of_no_unit operand zone hnone] at h
    exact ⟨hnone, (Except.error.inj h).symm⟩
  · rintro ⟨hnone, rfl⟩
    exact timeFloor_of_no_unit operand zone hnone

/-- What comes of a duration, be it SQL or an error, tells which one it was. -/
theorem timeFloor_inj {d' : Duration}
    (h : Presto.timeFloor operand d zone = Presto.timeFloor operand d' zone) : d = d' := by
  cases hfloor : Presto.timeFloor operand d zone with
  | ok sql =>
      obtain ⟨unit, hunit, rfl⟩ := (timeFloor_eq_ok operand zone).mp hfloor
      obtain ⟨other, hother, hsql⟩ := (timeFloor_eq_ok operand zone).mp (h.symm.trans hfloor)
      obtain rfl : unit = other := truncated_inj (converted_inj hsql)
      exact Duration.spans_inj (hunit.trans hother.symm)
  | error e =>
      obtain ⟨-, rfl⟩ := (timeFloor_eq_error operand zone).mp hfloor
      obtain ⟨-, hd⟩ := (timeFloor_eq_error operand zone).mp (h.symm.trans hfloor)
      exact RenderError.unsupportedDuration.inj hd

end Floor

/-- A time is truncated for the durations that are a single unit, and for no others, in the wall
time of the zone; a duration that is as long as a unit and written otherwise is none of these. No
two durations come to the same, and a duration that is refused can be read back from the message.
Putting times into buckets is the same. -/
theorem truncates_single_units (operand : String) (zone : Zone) :
    (∀ d sql, Presto.timeFloor operand d zone = .ok sql ↔
      ∃ unit : TruncationUnit, d.spans = unit.spans ∧ sql = floored operand unit zone) ∧
    (∀ d e, Presto.timeFloor operand d zone = .error e ↔
      (∀ unit : TruncationUnit, d.spans ≠ unit.spans) ∧ e = .unsupportedDuration d) ∧
    (∀ d d', Presto.timeFloor operand d zone = Presto.timeFloor operand d' zone → d = d') ∧
    (∀ d sql (unit : TruncationUnit), Presto.timeFloor operand d zone = .ok sql →
      d.spans.length = unit.spans.length → d.spans = unit.spans) ∧
    (∀ d, ∃ text, Duration.parse text = .ok d ∧ (RenderError.unsupportedDuration d).message =
      "unsupported duration '" ++ text ++ "' in " ++ Presto.name ++ " dialect") ∧
    ∀ d, Presto.render (.timeFloor operand d zone) = Presto.timeFloor operand d zone ∧
      Presto.render (.timeBucket operand d zone) = Presto.timeFloor operand d zone := by
  refine ⟨fun d sql => timeFloor_eq_ok operand zone, fun d e => timeFloor_eq_error operand zone,
    fun d d' => timeFloor_inj operand zone, fun d sql unit h hlength => ?_,
    fun d => ⟨d.toText, Duration.parse_toText d, rfl⟩, fun d => ⟨rfl, rfl⟩⟩
  obtain ⟨other, hother, -⟩ := (timeFloor_eq_ok operand zone).mp h
  rw [hother] at hlength ⊢
  rw [TruncationUnit.eq_of_length hlength]

/-- A week is truncated as a week, while seven days, which are as long, are refused. -/
theorem week_not_seven_days :
    let week := TruncationUnit.week.duration
    let days : Duration := ⟨{ Spans.none with day := 7 }, by decide, by decide⟩
    let sql := "DATE_TRUNC('week', t)"
    Presto.timeFloor "t" week .utc = .ok sql ∧
      week.spans.length = TruncationUnit.week.spans.length ∧
      week.spans = TruncationUnit.week.spans ∧
      days.spans.length = TruncationUnit.week.spans.length ∧
      Presto.timeFloor "t" days .utc = .error (.unsupportedDuration days) := by
  intro week days sql
  have hfloor : Presto.timeFloor "t" week .utc = .ok sql := by decide +kernel
  obtain ⟨-, hrefused, -, halike, -⟩ := truncates_single_units "t" .utc
  refine ⟨hfloor, rfl, halike week sql .week hfloor rfl, rfl, (hrefused days _).mpr ⟨?_, rfl⟩⟩
  intro unit
  cases unit <;> decide

end Sql

end SqlConnector
