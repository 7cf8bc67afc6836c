import Mathlib.Algebra.BigOperators.Group.List.Basic
import Mathlib.Algebra.GroupWithZero.Nat
import SqlConnector.Time.Instant

/-!
The calendar in both directions: the date of a day is a date that exists, and its number is that
day. Every instant has a date within the years of the calendar and a time of day, and is the second
that these name.
-/

namespace SqlConnector

namespace Date

/-! ### Years -/

def yearLength (leap : Bool) : Nat := (monthLengths leap).sum

theorem yearLength_eq (leap : Bool) : yearLength leap = 365 + leap.toNat := by
  cases leap <;> rfl

/-- The last year of a span of four is a leap year, but at the end of three centuries of four. -/
theorem isLeapYear_eq_true (cycle : Int) {century span year : Int}
    (hcentury : 0 ≤ century ∧ century ≤ 3) (hspan : 0 ≤ span ∧ span ≤ 24)
    (hyear : 0 ≤ year ∧ year ≤ 3) :
    isLeapYear (cycle * 400 + century * 100 + span * 4 + year + 1) = true ↔
      year = 3 ∧ (span ≠ 24 ∨ century = 3) := by
  rw [isLeapYear, decide_eq_true_iff]
  omega

theorem daysBeforeYear_eq (cycle : Int) {century span year : Int}
    (hcentury : 0 ≤ century ∧ century ≤ 3) (hspan : 0 ≤ span ∧ span ≤ 24)
    (hyear : 0 ≤ year ∧ year ≤ 3) :
    daysBeforeYear (cycle * 400 + century * 100 + span * 4 + year + 1) =
      cycle * 146097 + century * 36524 + span * 1461 + year * 365 := by
  unfold daysBeforeYear
  omega

/-- A year is found by its first day, and the day's number in it. -/
theorem exists_splitYear (days : Int) :
    ∃ year day, splitYear days = (year, day) ∧ daysBeforeYear year + day = days ∧
      day < yearLength (isLeapYear year) := by
  -- the last day of a cycle and that of a span belong to the year before them
  generalize hcycle : days / 146097 = cycle
  generalize hinCycle : (days % 146097).toNat = inCycle
  generalize hcentury : min (inCycle / 36524) 3 = century
  generalize hinCentury : inCycle - century * 36524 = inCentury
  generalize hspan : inCentury / 1461 = span
  generalize hinSpan : inCentury % 1461 = inSpan
  generalize hyear : min (inSpan / 365) 3 = year
  have hsplit : splitYear days =
      (cycle * 400 + century * 100 + span * 4 + year + 1, inSpan - year * 365) := by
    subst hcycle hinCycle hcentury hinCentury hspan hinSpan hyear
    rfl
  have hcenturies : 0 ≤ (century : Int) ∧ (century : Int) ≤ 3 := by omega
  have hspans : 0 ≤ (span : Int) ∧ (span : Int) ≤ 24 := by omega
  have hyears : 0 ≤ (year : Int) ∧ (year : Int) ≤ 3 := by omega
  have hdays := daysBeforeYear_eq cycle hcenturies hspans hyears
  have hleap := isLeapYear_eq_true cycle hcenturies hspans hyears
  refine ⟨_, _, hsplit, by omega, ?_⟩
  rw [yearLength_eq]
  cases h : isLeapYear (cycle * 400 + century * 100 + span * 4 + year + 1) with
  | true =>
      simp only [Bool.toNat_true]
      omega
  | false =>
      rw [h] at hleap
      simp only [Bool.false_eq_true, false_iff] at hleap
      simp only [Bool.toNat_false]
      omega

/-! ### Months -/

/-- A month is found by the lengths of those before it, and the day's number in it. -/
theorem exists_splitMonth (month : Nat) {lengths : List Nat} {day : Nat} (h : day < lengths.sum) :
    ∃ i rest, splitMonth month lengths day = (month + i, rest) ∧ i < lengths.length ∧
      rest < lengths.getD i 0 ∧ (lengths.take i).sum + rest = day := by
  induction lengths generalizing month day with
  | nil => simp at h
  | cons length lengths ih =>
      rw [splitMonth]
      split
      · next hday => exact ⟨0, day, rfl, by simp, by simpa using hday, by simp⟩
      · next hday =>
          rw [List.sum_cons] at h
          obtain ⟨i, rest, hsplit, hi, hrest, hsum⟩ :=
            ih (month + 1) (show day - length < lengths.sum by omega)
          refine ⟨i + 1, rest, ?_, by simpa using hi, by simpa using hrest, ?_⟩
          · rw [hsplit, Nat.add_assoc, Nat.add_comm 1 i]
          · rw [List.take_succ_cons, List.sum_cons]
            omega

theorem daysBeforeMonth_eq (leap : Bool) (month : Nat) :
    daysBeforeMonth leap month = ((monthLengths leap).take (month - 1)).sum :=
  List.sum_eq_foldl.symm

/-! ### Dates -/

/-- A month that exists, and a day in it. -/
structure Exists (d : Date) : Prop where
  month_pos : 1 ≤ d.month
  month_le : d.month ≤ 12
  day_pos : 1 ≤ d.day
  day_le : d.day ≤ monthLength (isLeapYear d.year) d.month

/-- The date of a day exists, its number is the day, and its year is the one that the day is in. -/
theorem ofDayNumber_eq (days : Int) :
    (ofDayNumber days).Exists ∧ dayNumber (ofDayNumber days) = days ∧
      ∃ day : Nat, daysBeforeYear (ofDayNumber days).year + day = days + epochDay ∧
        day < yearLength (isLeapYear (ofDayNumber days).year) := by
  obtain ⟨year, day, hyear, hday, hlt⟩ := exists_splitYear (days + epochDay)
  obtain ⟨i, rest, hmonth, hi, hrest, hsum⟩ := exists_splitMonth 1 hlt
  have hdate : ofDayNumber days = ⟨year, 1 + i, rest + 1⟩ := by
    -- step by step: `simp` would leave it to the kernel to compute the date of a variable
    rw [ofDayNumber, hyear]
    dsimp only
    rw [hmonth]
  have hne : 1 + i ≠ 0 := by omega
  have hlength : (monthLengths (isLeapYear year)).length = 12 := rfl
  rw [hdate]
  refine ⟨⟨by simp, by show 1 + i ≤ 12; omega, by simp, ?_⟩, ?_, day, hday, hlt⟩
  · rw [monthLength, if_neg hne, Nat.add_sub_cancel_left]
    exact hrest
  · rw [dayNumber, daysBeforeMonth_eq, Nat.add_sub_cancel_left]
    dsimp only
    omega

theorem dayNumber_ofDayNumber (days : Int) : dayNumber (ofDayNumber days) = days :=
  (ofDayNumber_eq days).2.1

theorem exists_ofDayNumber (days : Int) : (ofDayNumber days).Exists := (ofDayNumber_eq days).1

example : ofDayNumber 11016 = ⟨2000, 2, 29⟩ := by decide

/-- Within the years of the calendar, a date that exists is valid. -/
theorem Exists.isValid {d : Date} (h : d.Exists) (hmin : minYear ≤ d.year)
    (hmax : d.year ≤ maxYear) : d.isValid = true := by
  simp [Date.isValid, hmin, hmax, h.day_pos, h.day_le]

theorem monthLength_le (leap : Bool) : ∀ month ≤ 12, monthLength leap month ≤ 31 := by
  cases leap <;> decide

theorem Exists.day_le_31 {d : Date} (h : d.Exists) : d.day ≤ 31 :=
  Nat.le_trans h.day_le (monthLength_le _ d.month h.month_le)

/-! ### The years of the calendar -/

theorem daysBeforeYear_mono {y z : Int} (h : y ≤ z) : daysBeforeYear y ≤ daysBeforeYear z := by
  rcases Int.lt_or_eq_of_le h with hlt | rfl
  · unfold daysBeforeYear
    omega
  · exact Int.le_refl _

theorem daysBeforeYear_succ (year : Int) :
    daysBeforeYear (year + 1) = daysBeforeYear year + yearLength (isLeapYear year) := by
  rw [yearLength_eq]
  cases h : isLeapYear year with
  | true =>
      rw [isLeapYear, decide_eq_true_iff] at h
      simp only [daysBeforeYear, Bool.toNat_true]
      omega
  | false =>
      rw [isLeapYear, decide_eq_false_iff_not] at h
      simp only [daysBeforeYear, Bool.toNat_false]
      omega

/-- The days before a year are those of the years before it. -/
theorem year_ofDayNumber_lt {days year : Int} :
    (ofDayNumber days).year < year ↔ days + epochDay < daysBeforeYear year := by
  obtain ⟨-, -, day, hday, hlt⟩ := ofDayNumber_eq days
  have hnext := daysBeforeYear_succ (ofDayNumber days).year
  constructor
  · intro h
    have := daysBeforeYear_mono (show (ofDayNumber days).year + 1 ≤ year by omega)
    omega
  · intro h
    by_contra hle
    have := daysBeforeYear_mono (show year ≤ (ofDayNumber days).year by omega)
    omega

/-- The days from the first to the last of the calendar are those of its years. -/
theorem year_ofDayNumber {days : Int} :
    minYear ≤ (ofDayNumber days).year ∧ (ofDayNumber days).year ≤ maxYear ↔
      dayNumber ⟨minYear, 1, 1⟩ ≤ days ∧ days ≤ dayNumber ⟨maxYear, 12, 31⟩ := by
  -- both bounds are days before a year: the first one, and the one after the last
  have hfirst : dayNumber ⟨minYear, 1, 1⟩ = daysBeforeYear minYear - epochDay := by decide
  have hlast : dayNumber ⟨maxYear, 12, 31⟩ = daysBeforeYear (maxYear + 1) - 1 - epochDay := by decide
  have hbefore := @year_ofDayNumber_lt days minYear
  have hafter := @year_ofDayNumber_lt days (maxYear + 1)
  omega

end Date

/-! ### Instants -/

namespace Instant

theorem dayNumber_date (t : Instant) : t.date.dayNumber = t.seconds / 86400 :=
  Date.dayNumber_ofDayNumber _

theorem exists_date (t : Instant) : t.date.Exists := Date.exists_ofDayNumber _

theorem isValid_date (t : Instant) : t.date.isValid = true := by
  have hfrom := t.from_min
  have hto := t.to_max
  obtain ⟨hmin, hmax⟩ := Date.year_ofDayNumber.mpr
    (show _ ≤ t.seconds / 86400 ∧ t.seconds / 86400 ≤ _ by omega)
  exact t.exists_date.isValid hmin hmax

theorem hour_lt (t : Instant) : t.hour < 24 := by
  unfold hour secondOfDay
  omega

theorem minute_lt (t : Instant) : t.minute < 60 := by
  unfold minute
  omega

/-- The second is 60 exactly in a leap second. -/
theorem second_eq (t : Instant) :
    t.second = 60 ∧ t.secondOfDay % 60 = 59 ∧ 1000000000 ≤ t.nanos ∨
      t.second = t.secondOfDay % 60 ∧ t.nanos < 1000000000 := by
  have hnanos := t.nanos_lt
  have hleap := t.leap_after_59
  unfold second secondOfDay
  omega

theorem second_lt_100 (t : Instant) : t.second < 100 := by
  have hsecond := t.second_eq
  have hmod : t.secondOfDay % 60 < 60 := Nat.mod_lt _ (by decide)
  omega

theorem millis_lt (t : Instant) : t.millis < 1000 := by
  unfold millis
  omega

/-- An instant is the second that its date and its time of day name. -/
theorem seconds_eq (t : Instant) :
    t.seconds = t.date.dayNumber * 86400 +
      (t.hour * 3600 + t.minute * 60 + t.secondOfDay % 60 : Nat) := by
  rw [dayNumber_date]
  unfold hour minute secondOfDay
  omega

end Instant

end SqlConnector
