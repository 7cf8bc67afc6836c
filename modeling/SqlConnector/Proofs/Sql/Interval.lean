import SqlConnector.Proofs.Sql.Places
import SqlConnector.Proofs.Time.Canonical

/-!
Times shifted by adding intervals. A duration is what it counts of each unit when a week is seven
days, and one interval is added for each unit that it has any of, the longest unit first. Main
statement: the additions are read back from what is written after the operand, so two durations
shift a time alike exactly when they count the same.
-/

namespace SqlConnector

namespace Sql

/-! ### Additions -/

inductive IntervalUnit where
  | year
  | month
  | day
  | hour
  | minute
  | second
  deriving DecidableEq, Repr

namespace IntervalUnit

def name : IntervalUnit → String
  | year => "YEAR"
  | month => "MONTH"
  | day => "DAY"
  | hour => "HOUR"
  | minute => "MINUTE"
  | second => "SECOND"

/-- The units, the longest first. -/
def all : List IntervalUnit := [year, month, day, hour, minute, second]

def ofName? (s : String) : Option IntervalUnit := all.find? (·.name = s)

theorem mem_all (unit : IntervalUnit) : unit ∈ all := by cases unit <;> decide

theorem ofName?_name (unit : IntervalUnit) : ofName? unit.name = some unit := by
  cases unit <;> decide

end IntervalUnit

/-- An interval that is added to a time. -/
structure Addition where
  count : Nat
  unit : IntervalUnit
  deriving DecidableEq, Repr

end Sql

namespace Spans

open Sql (IntervalUnit Addition)

/-- How many there are of a unit when each week is seven days. -/
def count (s : Spans) : IntervalUnit → Nat
  | .year => s.year.toNat
  | .month => s.month.toNat
  | .day => 7 * s.week.toNat + s.day.toNat
  | .hour => s.hour.toNat
  | .minute => s.minute.toNat
  | .second => s.second.toNat

/-- One addition for each unit that there is any of. -/
def additions (s : Spans) : List Addition :=
  (IntervalUnit.all.filter fun unit => s.count unit ≠ 0).map fun unit => ⟨s.count unit, unit⟩

theorem mem_additions {s : Spans} {a : Addition} :
    a ∈ s.additions ↔ a.count = s.count a.unit ∧ a.count ≠ 0 := by
  obtain ⟨n, unit⟩ := a
  simp only [additions, List.mem_map, List.mem_filter, IntervalUnit.mem_all, true_and,
    Addition.mk.injEq, decide_eq_true_eq]
  constructor
  · rintro ⟨unit, hne, rfl, rfl⟩
    exact ⟨rfl, hne⟩
  · rintro ⟨rfl, hne⟩
    exact ⟨unit, hne, rfl, rfl⟩

theorem count_eq_of_additions {s t : Spans} (h : s.additions = t.additions) {unit : IntervalUnit}
    (hne : s.count unit ≠ 0) : s.count unit = t.count unit := by
  have hmem : ⟨s.count unit, unit⟩ ∈ s.additions := mem_additions.mpr ⟨rfl, hne⟩
  rw [h] at hmem
  exact (mem_additions.mp hmem).1

/-- The additions tell how many there are of each unit. -/
theorem additions_eq_iff {s t : Spans} :
    s.additions = t.additions ↔ ∀ unit, s.count unit = t.count unit := by
  constructor
  · intro h unit
    by_cases hs : s.count unit = 0
    · by_cases ht : t.count unit = 0
      · rw [hs, ht]
      · exact (count_eq_of_additions h.symm ht).symm
    · exact count_eq_of_additions h hs
  · intro h
    simp only [additions, h]

end Spans

namespace Sql

/-- What is written for a duration is what its spans count, weeks as days. -/
theorem shiftSpans_eq (d : Duration) :
    Presto.shiftSpans d.spans = d.spans.additions.map fun a => (a.count, a.unit.name) := by
  by_cases hweek : d.spans.week = 0
  · have hweeks : d.spans.isWeekOnly = false := by simp [Spans.isWeekOnly, hweek]
    have hcounts : [(d.spans.year.toNat, "YEAR"), (d.spans.month.toNat, "MONTH"),
        (d.spans.day.toNat, "DAY"), (d.spans.hour.toNat, "HOUR"), (d.spans.minute.toNat, "MINUTE"),
        (d.spans.second.toNat, "SECOND")] =
          IntervalUnit.all.map fun unit => (d.spans.count unit, unit.name) := by
      simp [IntervalUnit.all, IntervalUnit.name, Spans.count, hweek]
    simp only [Presto.shiftSpans, hweeks, Bool.false_eq_true, if_false]
    rw [hcounts, List.filter_map, Spans.additions, List.map_map]
    rfl
  · have hweeks := Duration.eq_weeks_of_week_ne_zero hweek d.weeks_alone
    have hn : 7 * d.spans.week.toNat ≠ 0 := by
      have := Duration.toNat_ne_zero hweek
      omega
    generalize d.spans.week = n at hweek hweeks hn
    have honly : (Spans.weeks n).isWeekOnly = true := by
      simp [Spans.isWeekOnly, Spans.weeks, Spans.withoutWeeks, Spans.none, hweek]
    rw [hweeks, Presto.shiftSpans, if_pos honly]
    simp [Spans.additions, IntervalUnit.all, IntervalUnit.name, Spans.count, Spans.weeks,
      Spans.none, hn, Nat.mul_comm]

/-! ### Reading additions -/

/-- The value of a number without a sign. -/
def number? (s : String) : Option Nat :=
  if Text.isNumeral s.toList then some (Text.ofDigits s.toList) else none

/-- The additions in some lexemes, blanks left out: each is a plus sign, the word for an interval, a
number in quotes and a unit. -/
def readAdditions : List Lexeme → Option (List Addition)
  | [] => some []
  | .mark '+' :: .word "INTERVAL" :: .quoted .single s :: .word unit :: rest => do
    let count ← number? s
    let unit ← IntervalUnit.ofName? unit
    let others ← readAdditions rest
    return ⟨count, unit⟩ :: others
  | _ => none

/-- The additions that are written one after the other in a text. -/
def additions? (sql : String) : Option (List Addition) :=
  (lex? sql).bind fun ls => readAdditions (tokens ls)

namespace Addition

def text (a : Addition) : String := Presto.plusInterval a.count a.unit.name

def lexemes (a : Addition) : List Lexeme :=
  [.mark ' ', .mark '+', .mark ' ', .word "INTERVAL", .mark ' ',
    .quoted .single (toString a.count), .mark ' ', .word a.unit.name]

theorem lex?_text (a : Addition) : lex? a.text = some a.lexemes := by
  have hplus : lex? " + INTERVAL " =
      some [.mark ' ', .mark '+', .mark ' ', .word "INTERVAL", .mark ' '] := by
    decide +kernel
  have hunit : lex? (" " ++ a.unit.name) = some [.mark ' ', .word a.unit.name] := by
    cases a.unit <;> decide +kernel
  have happart : StartsApart (" " ++ a.unit.name) := by cases a.unit <;> decide +kernel
  have hnumber := lex?_append hplus (lex?_literal (toString a.count)) (.inl (by decide +kernel))
  rw [text, plusInterval_eq]
  exact lex?_append hnumber hunit (.inr happart)

/-- The additions one after the other. -/
def texts : List Addition → String
  | [] => ""
  | a :: rest => a.text ++ texts rest

theorem startsApart_texts (additions : List Addition) : StartsApart (texts additions) := by
  cases additions with
  | nil => decide
  | cons a rest =>
      show ((a.text ++ texts rest).toList.head?.all isMark) = true
      rw [text, plusInterval_eq]
      simp only [String.toList_append, List.append_assoc]
      rfl

theorem lex?_texts (additions : List Addition) :
    lex? (texts additions) = some (additions.flatMap lexemes) := by
  induction additions with
  | nil => rfl
  | cons a rest ih => exact lex?_append a.lex?_text ih (.inr (startsApart_texts rest))

theorem texts_ne_empty {additions : List Addition} (h : additions ≠ []) :
    texts additions ≠ "" := by
  obtain ⟨a, rest, rfl⟩ := List.exists_cons_of_ne_nil h
  intro hempty
  have hlength := congrArg String.length hempty
  simp [texts, text, plusInterval_eq] at hlength

end Addition

theorem number?_toString (n : Nat) : number? (toString n) = some n := by
  rw [number?, Text.toList_toString, if_pos (Text.isNumeral_digits n), Text.ofDigits_digits]

theorem readAdditions_lexemes (additions : List Addition) :
    readAdditions (tokens (additions.flatMap Addition.lexemes)) = some additions := by
  induction additions with
  | nil => rfl
  | cons a rest ih =>
      have htokens : tokens ((a :: rest).flatMap Addition.lexemes) =
          .mark '+' :: .word "INTERVAL" :: .quoted .single (toString a.count) ::
            .word a.unit.name :: tokens (rest.flatMap Addition.lexemes) := by
        simp [tokens, Addition.lexemes]
      rw [htokens, readAdditions, number?_toString, IntervalUnit.ofName?_name, ih]
      rfl

theorem additions?_texts (additions : List Addition) :
    additions? (Addition.texts additions) = some additions := by
  rw [additions?, Addition.lex?_texts]
  exact readAdditions_lexemes additions

theorem Addition.texts_inj {as bs : List Addition} (h : texts as = texts bs) : as = bs := by
  have hread := additions?_texts as
  rw [h, additions?_texts bs] at hread
  exact (Option.some.inj hread).symm

/-! ### Shifting -/

theorem foldl_plusInterval (operand : String) (additions : List Addition) :
    (additions.map fun a => (a.count, a.unit.name)).foldl
        (fun text (n, unit) => text ++ Presto.plusInterval n unit) operand =
      operand ++ Addition.texts additions := by
  induction additions generalizing operand with
  | nil => exact String.append_empty.symm
  | cons a rest ih =>
      rw [List.map_cons, List.foldl_cons, ih, String.append_assoc]
      rfl

theorem timeShift_eq (operand : String) (d : Duration) :
    Presto.timeShift operand d = operand ++ Addition.texts d.spans.additions := by
  rw [Presto.timeShift, shiftSpans_eq, foldl_plusInterval]

theorem additions_ne_nil (d : Duration) : d.spans.additions ≠ [] := by
  intro h
  exact shiftSpans_ne_nil d (by rw [shiftSpans_eq, h]; rfl)

/-- What is written after the operand is the same for every operand and zone. It is not empty, it is
read as one addition for each unit that the duration has any of, the longest unit first and a week
being seven days, and it is read so after any operand. Two durations shift a time alike exactly when
they have as much of each unit. -/
theorem shifts_add_intervals :
    (∀ d : Duration, ∃ added, added ≠ "" ∧ additions? added = some d.spans.additions ∧
      ∀ operand, (∀ zone, Presto.render (.timeShift operand d zone) = .ok (operand ++ added)) ∧
        ∀ ls, lex? operand = some ls → lex? (operand ++ added) = some (ls ++ lexed added)) ∧
    ∀ operand (d e : Duration), Presto.timeShift operand d = Presto.timeShift operand e ↔
      ∀ unit, d.spans.count unit = e.spans.count unit := by
  refine ⟨fun d => ⟨Addition.texts d.spans.additions, ?_, additions?_texts _, fun operand =>
    ⟨fun zone => ?_, fun ls hls => ?_⟩⟩, fun operand d e => ?_⟩
  · exact Addition.texts_ne_empty (additions_ne_nil d)
  · exact congrArg Except.ok (timeShift_eq operand d)
  · have hadded := Addition.lex?_texts d.spans.additions
    rw [lexed_eq hadded]
    exact lex?_append hls hadded (.inr (Addition.startsApart_texts _))
  · rw [timeShift_eq, timeShift_eq, String.append_right_inj, ← Spans.additions_eq_iff]
    exact ⟨Addition.texts_inj, fun h => by rw [h]⟩

/-- Two weeks shift a time like fourteen days, by one addition behind the name of a column. -/
theorem fortnight_added_as_days :
    let weeks : Duration := ⟨.weeks 2, by decide, by decide⟩
    let days : Duration := ⟨{ Spans.none with day := 14 }, by decide, by decide⟩
    lex? "t" = some [.word "t"] ∧ (∀ unit, weeks.spans.count unit = days.spans.count unit) ∧
      Presto.timeShift "t" weeks = Presto.timeShift "t" days ∧
      ∃ added, Presto.timeShift "t" weeks = "t" ++ added ∧
        additions? added = some [⟨14, .day⟩] ∧ lex? ("t" ++ added) = some (.word "t" :: lexed added) := by
  intro weeks days
  have hname : lex? "t" = some [.word "t"] := by decide +kernel
  have hcounts : ∀ unit, weeks.spans.count unit = days.spans.count unit := by
    intro unit
    cases unit <;> rfl
  obtain ⟨added, -, hread, hadded⟩ := shifts_add_intervals.1 weeks
  refine ⟨hname, hcounts, (shifts_add_intervals.2 "t" weeks days).mpr hcounts, added, ?_, hread,
    (hadded "t").2 _ hname⟩
  exact Except.ok.inj ((hadded "t").1 .utc)

/-- The days of the most weeks there can be are more than a duration has room for. -/
example : Presto.timeShift "t" ⟨.weeks 4294967295, by decide, by decide⟩ =
    "t + INTERVAL '30064771065' DAY" := by
  decide +kernel

end Sql

end SqlConnector
