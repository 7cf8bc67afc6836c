import SqlConnector.Proofs.Sql.Template
import SqlConnector.Proofs.Time.WallTime

/-!
Parts of a time that count the seconds, minutes or hours since a longer period began. Main
statement: what is written for such a part has one reading as integer arithmetic, and its value for
the fields of a time is the number of whole units since the start of the period that the time is in.
-/

namespace SqlConnector

/-! ### Units and periods -/

/-- What a clock counts. -/
inductive ClockUnit where
  | second
  | minute
  | hour
  deriving DecidableEq, Repr

namespace ClockUnit

def name : ClockUnit → String
  | second => "SECOND"
  | minute => "MINUTE"
  | hour => "HOUR"

def seconds : ClockUnit → Int
  | second => 1
  | minute => 60
  | hour => 3600

/-- The periods that are longer than the unit. -/
def periods : ClockUnit → List Period
  | second => [.minute, .hour, .day, .week, .month, .year]
  | minute => [.hour, .day, .week, .month, .year]
  | hour => [.day, .week, .month, .year]

end ClockUnit

def Period.name : Period → String
  | minute => "MINUTE"
  | hour => "HOUR"
  | day => "DAY"
  | week => "WEEK"
  | month => "MONTH"
  | year => "YEAR"

def partName (unit : ClockUnit) (period : Period) : String := unit.name ++ "_OF_" ++ period.name

namespace WallTime

/-- The fields of a time, under the names of the functions that take them out of it. -/
def field? (t : WallTime) (function : String) : Option Int :=
  List.lookup function [
    ("SECOND", (t.second : Int)), ("MINUTE", (t.minute : Int)), ("HOUR", (t.hour : Int)),
    ("DOW", t.date.weekday), ("DAY", (t.date.day : Int)), ("DOY", t.date.dayOfYear)]

variable (t : WallTime) {period : Period}

/-- Whole days and the time of the day are what makes up a period of days. -/
theorem elapsed_div_hour {days : Int} (h : t.elapsed period = days * 86400 + t.secondOfDay) :
    t.elapsed period / 3600 = days * 24 + t.hour := by
  have hminute := t.minute_lt
  have hsecond := t.second_lt
  rw [h, secondOfDay]
  omega

theorem elapsed_hours_and_minute (h : period ∈ ClockUnit.hour.periods) :
    t.elapsed period / 3600 * 60 + t.minute = t.elapsed period / 60 := by
  have hminute := t.minute_lt
  have hsecond := t.second_lt
  cases period <;> simp [ClockUnit.periods] at h <;> simp only [elapsed, secondOfDay] <;> omega

theorem elapsed_minutes_and_second (h : period ∈ ClockUnit.minute.periods) :
    t.elapsed period / 60 * 60 + t.second = t.elapsed period := by
  have hsecond := t.second_lt
  cases period <;> simp [ClockUnit.periods] at h <;> simp only [elapsed, secondOfDay] <;> omega

end WallTime

namespace Sql

open Arithmetic (value?)

/-! ### Formulas of the units -/

open Formula in
def hoursInto : Period → Formula
  | .week => hours (lessOne .dayOfWeek)
  | .month => hours (lessOne .day)
  | .year => hours (lessOne .dayOfYear)
  | _ => field .hour

open Formula in
def minutesInto : Period → Formula
  | .hour => field .minute
  | period => minutes (hoursInto period)

open Formula in
def secondsInto : Period → Formula
  | .minute => field .second
  | period => seconds (minutesInto period)

def unitsInto : ClockUnit → Period → Formula
  | .second => secondsInto
  | .minute => minutesInto
  | .hour => hoursInto

theorem minutesInto_of_longer : ∀ period ∈ ClockUnit.hour.periods,
    minutesInto period = Formula.minutes (hoursInto period) := by
  decide

theorem secondsInto_of_longer : ∀ period ∈ ClockUnit.minute.periods,
    secondsInto period = Formula.seconds (minutesInto period) := by
  decide

theorem lookup_partName {unit : ClockUnit} {period : Period} (h : period ∈ unit.periods) :
    parts.lookup (partName unit period) = some (unitsInto unit period) := by
  have hall : ∀ unit : ClockUnit, ∀ period ∈ unit.periods,
      parts.lookup (partName unit period) = some (unitsInto unit period) := by
    intro unit
    cases unit <;> decide +kernel
  exact hall unit period h

/-- A step multiplies what there is so far and adds the next field. -/
theorem value?_step {functions : String → Option Int} {units : Formula} {size : Nat} {next : Field}
    {v w : Int} (hunits : value? functions units.arithmetic = some v)
    (hnext : functions next.name = some w) :
    value? functions (units.step size next).arithmetic = some (v * size + w) := by
  simp [Formula.arithmetic, value?, hunits, hnext]

theorem value?_lessOne {functions : String → Option Int} {f : Field} {v : Int}
    (h : functions f.name = some v) :
    value? functions (Formula.lessOne f).arithmetic = some (v - 1) := by
  simp [Formula.arithmetic, value?, h]

variable (t : WallTime)

theorem value?_hours {f : Field} {day : Int} {period : Period} (hday : t.field? f.name = some day)
    (h : t.elapsed period = (day - 1) * 86400 + t.secondOfDay) :
    value? t.field? (Formula.hours (.lessOne f)).arithmetic = some (t.elapsed period / 3600) := by
  have hhour : t.field? Field.hour.name = some (t.hour : Int) := rfl
  rw [t.elapsed_div_hour h]
  exact value?_step (value?_lessOne hday) hhour

theorem value?_hoursInto {period : Period} (h : period ∈ ClockUnit.hour.periods) :
    value? t.field? (hoursInto period).arithmetic = some (t.elapsed period / 3600) := by
  cases period with
  | minute => simp [ClockUnit.periods] at h
  | hour => simp [ClockUnit.periods] at h
  | day =>
      have hhour : t.field? Field.hour.name = some (t.hour : Int) := rfl
      have hday : t.elapsed .day = 0 * 86400 + t.secondOfDay := (Int.zero_add _).symm
      rw [t.elapsed_div_hour hday]
      exact hhour.trans (congrArg some (Int.zero_add _).symm)
  | week => exact value?_hours t rfl rfl
  | month => exact value?_hours t rfl rfl
  | year => exact value?_hours t rfl rfl

theorem value?_minutesInto {period : Period} (h : period ∈ ClockUnit.minute.periods) :
    value? t.field? (minutesInto period).arithmetic = some (t.elapsed period / 60) := by
  have hminute : t.field? Field.minute.name = some (t.minute : Int) := rfl
  rcases List.mem_cons.mp h with rfl | hlonger
  · have hsecond := t.second_lt
    refine hminute.trans (congrArg some ?_)
    simp only [WallTime.elapsed]
    omega
  · rw [minutesInto_of_longer period hlonger, ← t.elapsed_hours_and_minute hlonger]
    exact value?_step (value?_hoursInto t hlonger) hminute

theorem value?_secondsInto {period : Period} (h : period ∈ ClockUnit.second.periods) :
    value? t.field? (secondsInto period).arithmetic = some (t.elapsed period) := by
  have hsecond : t.field? Field.second.name = some (t.second : Int) := rfl
  rcases List.mem_cons.mp h with rfl | hlonger
  · exact hsecond
  · rw [secondsInto_of_longer period hlonger, ← t.elapsed_minutes_and_second hlonger]
    exact value?_step (value?_minutesInto t hlonger) hsecond

/-- A formula has the whole units since the period began as its value. -/
theorem value?_unitsInto {unit : ClockUnit} {period : Period} (h : period ∈ unit.periods) :
    value? t.field? (unitsInto unit period).arithmetic = some (t.elapsed period / unit.seconds) := by
  cases unit with
  | second =>
      have hone : t.elapsed period / ClockUnit.second.seconds = t.elapsed period := Int.ediv_one _
      rw [hone]
      exact value?_secondsInto t h
  | minute => exact value?_minutesInto t h
  | hour => exact value?_hoursInto t h

/-! ### Parts -/

/-- What is written for the units since a period began calls each function on the operand in wall
time, in the places of the template. It has one reading as arithmetic, whose value for the fields of
a time is the number of whole units since the last beginning of such a period. -/
theorem timePart_counts_elapsed (operand : String) (zone : Zone) {unit : ClockUnit}
    {period : Period} (h : period ∈ unit.periods) :
    ∃ template text e f, templates.lookup (partName unit period) = some template ∧
      Presto.timePart operand (partName unit period) zone = .ok text ∧
      text.toList = putInPlaces (Presto.wallTime operand zone).toList template.toList ∧
      (Frame.Applies f e.calls ∧ f.fill (fun _ => placeholder) = template ∧
        f.fill (fun _ => Presto.wallTime operand zone) = text) ∧
      (∀ e', Arithmetic.Reads (Presto.wallTime operand zone).toList .sum text.toList e' ↔ e' = e) ∧
      ∀ t : WallTime, ∃ s, WallTime.StartOf period t s ∧
        e.value? t.field? = some ((t.seconds - s.seconds) / unit.seconds) := by
  have hpart := lookup_partName h
  generalize hformula : unitsInto unit period = formula at hpart
  have hreads : Arithmetic.Reads (Presto.wallTime operand zone).toList .sum
      (formula.text (Presto.wallTime operand zone)).toList formula.arithmetic :=
    .single (.alone (formula.reads_text _))
  refine ⟨formula.text placeholder, formula.text (Presto.wallTime operand zone),
    formula.arithmetic, formula.frame, ?_, ?_, (formula.putInPlaces_text _).symm,
    ⟨formula.applies_frame, formula.fill_frame _, formula.fill_frame _⟩, fun e' => ?_, fun t => ?_⟩
  · rw [lookup_templates, hpart]
    rfl
  · rw [Presto.timePart, hpart]
  · exact ⟨fun h' => h'.unique hreads, fun heq => by rw [heq]; exact hreads⟩
  · obtain ⟨s, hstart, hsince⟩ := t.exists_startOf period
    refine ⟨s, hstart, ?_⟩
    rw [hsince, ← hformula]
    exact value?_unitsInto t h

/-- The last second of a leap year, with an operand that has the placeholder in it. -/
theorem seconds_of_leap_year :
    let zone : Zone := .named "Asia/Tokyo" (by decide) (by decide) (List.all_eq_true.mp (by decide))
    let wall := "(f($$) AT TIME ZONE 'UTC' AT TIME ZONE 'Asia/Tokyo')"
    let text := "((((DOY(" ++ wall ++ ")-1)*24+HOUR(" ++ wall ++ "))*60+MINUTE(" ++ wall ++
      "))*60+SECOND(" ++ wall ++ "))"
    let t : WallTime :=
      ⟨⟨2024, 12, 31⟩, 23, 59, 59, ⟨by decide, by decide, by decide, by decide⟩, by decide, by decide,
        by decide⟩
    Period.year ∈ ClockUnit.second.periods ∧
      Presto.timePart "f($$)" (partName .second .year) zone = .ok text ∧
      ∃ e s, (∀ e', Arithmetic.Reads wall.toList .sum text.toList e' ↔ e' = e) ∧
        e.calls = ["DOY", "HOUR", "MINUTE", "SECOND"] ∧ WallTime.StartOf .year t s ∧
        e.value? t.field? = some 31622399 ∧ (t.seconds - s.seconds) / 1 = 31622399 := by
  intro zone wall text t
  have hperiod : Period.year ∈ ClockUnit.second.periods := by decide
  obtain ⟨_, text', e, _, _, htext, -, -, hreads, hvalue⟩ :=
    timePart_counts_elapsed "f($$)" zone hperiod
  have hwritten : Presto.timePart "f($$)" (partName .second .year) zone = .ok text := by
    decide +kernel
  have hformula : (unitsInto .second .year).text (Presto.wallTime "f($$)" zone) = text := by
    decide +kernel
  have hcalls : (unitsInto .second .year).arithmetic.calls = ["DOY", "HOUR", "MINUTE", "SECOND"] := by
    decide +kernel
  have hcount : (unitsInto .second .year).arithmetic.value? t.field? = some 31622399 := by
    decide +kernel
  obtain rfl : text' = text := Except.ok.inj (htext.symm.trans hwritten)
  have he : (unitsInto .second .year).arithmetic = e := by
    refine (hreads _).mp ?_
    rw [← hformula]
    exact .single (.alone (Formula.reads_text _ _))
  rw [he] at hcalls hcount
  obtain ⟨s, hstart, hs⟩ := hvalue t
  exact ⟨hperiod, hwritten, e, s, hreads, hcalls, hstart, hcount,
    Option.some.inj (hs.symm.trans hcount)⟩

end Sql

end SqlConnector
