import SqlConnector.Proofs.Time.Calendar

/-!
Times as a clock on the wall and a calendar show them, and the minutes, hours, days, weeks, months
and years that they are in. The start of a period is the last time not after the one shown at which
a period of that kind begins; main statement: every time has one, and the seconds since then are
told by the fields of the time.
-/

namespace SqlConnector

namespace Date

/-! ### Places of a day in its year -/

/-- The number of a date's day in its year, from zero. -/
def dayInYear (d : Date) : Int := daysBeforeMonth (isLeapYear d.year) d.month + (d.day - 1)

theorem dayNumber_eq (d : Date) : d.dayNumber = daysBeforeYear d.year + d.dayInYear - epochDay := by
  unfold dayNumber dayInYear
  omega

theorem daysBeforeMonth_add_le (leap : Bool) : ∀ month < 13, 1 ≤ month →
    daysBeforeMonth leap month + monthLength leap month ≤ yearLength leap ∧
      ∀ later < 13, month < later →
        daysBeforeMonth leap month + monthLength leap month ≤ daysBeforeMonth leap later := by
  cases leap <;> decide

theorem Exists.dayInYear_lt {d : Date} (h : d.Exists) :
    0 ≤ d.dayInYear ∧ d.dayInYear < yearLength (isLeapYear d.year) := by
  obtain ⟨hpos, hle, hday, hlength⟩ := h
  have hmonth := (daysBeforeMonth_add_le (isLeapYear d.year) d.month (by omega) hpos).1
  unfold dayInYear
  omega

/-- A date in a later year has a later number. -/
theorem Exists.lt_of_year_lt {d e : Date} (hd : d.Exists) (he : e.Exists) (h : d.year < e.year) :
    d.dayNumber < e.dayNumber := by
  have hnext := daysBeforeYear_succ d.year
  have hlater := daysBeforeYear_mono (show d.year + 1 ≤ e.year by omega)
  have hin := hd.dayInYear_lt.2
  have hpos := he.dayInYear_lt.1
  rw [dayNumber_eq, dayNumber_eq]
  omega

/-- A date in a later month of one year has a later number. -/
theorem Exists.lt_of_month_lt {d e : Date} (hd : d.Exists) (he : e.Exists) (hyear : d.year = e.year)
    (h : d.month < e.month) : d.dayNumber < e.dayNumber := by
  obtain ⟨hpos, hle, hday, hlength⟩ := hd
  obtain ⟨-, hle', hday', -⟩ := he
  have hlater := (daysBeforeMonth_add_le (isLeapYear d.year) d.month (by omega) hpos).2 e.month
    (by omega) h
  rw [dayNumber_eq, dayNumber_eq, dayInYear, dayInYear, ← hyear]
  omega

def firstOfMonth (d : Date) : Date := ⟨d.year, d.month, 1⟩

def firstOfYear (d : Date) : Date := ⟨d.year, 1, 1⟩

theorem Exists.firstOfMonth {d : Date} (h : d.Exists) : d.firstOfMonth.Exists :=
  ⟨h.month_pos, h.month_le, Nat.le_refl 1, Nat.le_trans h.day_pos h.day_le⟩

theorem exists_firstOfYear (d : Date) : d.firstOfYear.Exists := by
  refine ⟨Nat.le_refl 1, (by decide : 1 ≤ 12), Nat.le_refl 1, ?_⟩
  show 1 ≤ monthLength (isLeapYear d.year) 1
  cases isLeapYear d.year <;> decide

theorem dayNumber_firstOfMonth (d : Date) :
    d.firstOfMonth.dayNumber = d.dayNumber - (d.day - 1) := by
  unfold dayNumber Date.firstOfMonth
  dsimp only
  omega

/-- No month begins after the one that a date is in, up to the date. -/
theorem Exists.le_firstOfMonth {d e : Date} (hd : d.Exists) (he : e.Exists) (hday : e.day = 1)
    (hle : e.dayNumber ≤ d.dayNumber) : e.dayNumber ≤ d.firstOfMonth.dayNumber := by
  rcases Int.lt_trichotomy e.year d.year with hyear | hyear | hyear
  · exact Int.le_of_lt (he.lt_of_year_lt hd.firstOfMonth hyear)
  · rcases Nat.lt_trichotomy e.month d.month with hmonth | hmonth | hmonth
    · exact Int.le_of_lt (he.lt_of_month_lt hd.firstOfMonth hyear hmonth)
    · have heq : e = d.firstOfMonth := by
        cases e
        simp only at hyear hmonth hday
        rw [hyear, hmonth, hday, Date.firstOfMonth]
      exact Int.le_of_eq (congrArg dayNumber heq)
    · have := hd.lt_of_month_lt he hyear.symm hmonth
      omega
  · have := hd.lt_of_year_lt he hyear
    omega

/-- No year begins after the one that a date is in, up to the date. -/
theorem Exists.le_firstOfYear {d e : Date} (hd : d.Exists) (he : e.Exists) (hday : e.day = 1)
    (hmonth : e.month = 1) (hle : e.dayNumber ≤ d.dayNumber) :
    e.dayNumber ≤ d.firstOfYear.dayNumber := by
  rcases Int.lt_trichotomy e.year d.year with hyear | hyear | hyear
  · exact Int.le_of_lt (he.lt_of_year_lt (exists_firstOfYear d) hyear)
  · have heq : e = d.firstOfYear := by
      cases e
      simp only at hyear hmonth hday
      rw [hyear, hmonth, hday, Date.firstOfYear]
    exact Int.le_of_eq (congrArg dayNumber heq)
  · have := hd.lt_of_year_lt he hyear
    omega

theorem dayNumber_firstOfYear (d : Date) :
    d.firstOfYear.dayNumber = d.dayNumber - d.dayInYear := by
  have hfirst : d.firstOfYear.dayInYear = 0 := by
    unfold dayInYear Date.firstOfYear
    cases isLeapYear d.year <;> rfl
  rw [dayNumber_eq, hfirst, dayNumber_eq]
  show daysBeforeYear d.year + 0 - epochDay = _
  omega

/-- The day of the year, from 1. -/
def dayOfYear (d : Date) : Int := d.dayNumber - d.firstOfYear.dayNumber + 1

/-- The day of the week from Monday, which is 1, to Sunday, which is 7. -/
def weekday (d : Date) : Int := (d.dayNumber + 3) % 7 + 1

example : weekday ⟨1970, 1, 1⟩ = 4 := by decide

/-- The Monday of the week that a date is in. -/
def monday (d : Date) : Date := ofDayNumber (d.dayNumber - (d.weekday - 1))

theorem dayNumber_monday (d : Date) : d.monday.dayNumber = d.dayNumber - (d.weekday - 1) :=
  dayNumber_ofDayNumber _

theorem exists_monday (d : Date) : d.monday.Exists := exists_ofDayNumber _

theorem weekday_monday (d : Date) : d.monday.weekday = 1 := by
  rw [weekday, dayNumber_monday, weekday]
  omega

/-- No week begins after the one that a date is in, up to the date. -/
theorem le_monday {d e : Date} (hmonday : e.weekday = 1) (hle : e.dayNumber ≤ d.dayNumber) :
    e.dayNumber ≤ d.monday.dayNumber := by
  rw [weekday] at hmonday
  rw [dayNumber_monday, weekday]
  omega

end Date

structure WallTime where
  date : Date
  hour : Nat
  minute : Nat
  second : Nat
  date_exists : date.Exists
  hour_lt : hour < 24
  minute_lt : minute < 60
  second_lt : second < 60

/-- The kinds of periods that a time is in. -/
inductive Period where
  | minute
  | hour
  | day
  | week
  | month
  | year
  deriving DecidableEq, Repr

namespace WallTime

def secondOfDay (t : WallTime) : Int := t.hour * 3600 + t.minute * 60 + t.second

/-- The seconds since 1970 began, as the clock and the calendar count them. -/
def seconds (t : WallTime) : Int := t.date.dayNumber * 86400 + t.secondOfDay

theorem secondOfDay_lt (t : WallTime) : 0 ≤ t.secondOfDay ∧ t.secondOfDay < 86400 := by
  have hhour := t.hour_lt
  have hminute := t.minute_lt
  have hsecond := t.second_lt
  unfold secondOfDay
  omega

/-- The first second of a day. -/
def midnight (d : Date) (h : d.Exists) : WallTime :=
  ⟨d, 0, 0, 0, h, by decide, by decide, by decide⟩

def IsMidnight (t : WallTime) : Prop := t.hour = 0 ∧ t.minute = 0 ∧ t.second = 0

theorem IsMidnight.seconds_eq {t : WallTime} (h : t.IsMidnight) :
    t.seconds = t.date.dayNumber * 86400 := by
  obtain ⟨hhour, hminute, hsecond⟩ := h
  simp [seconds, secondOfDay, hhour, hminute, hsecond]

theorem isMidnight_midnight {d : Date} (h : d.Exists) : (midnight d h).IsMidnight :=
  ⟨rfl, rfl, rfl⟩

/-- At which times a period of each kind begins. -/
def Begins (s : WallTime) : Period → Prop
  | .minute => s.second = 0
  | .hour => s.minute = 0 ∧ s.second = 0
  | .day => s.IsMidnight
  | .week => s.IsMidnight ∧ s.date.weekday = 1
  | .month => s.IsMidnight ∧ s.date.day = 1
  | .year => s.IsMidnight ∧ s.date.day = 1 ∧ s.date.month = 1

/-- The period that the time `t` is in begins at `s`: no other begins later, up to `t`. -/
structure StartOf (p : Period) (t s : WallTime) : Prop where
  begins : s.Begins p
  le : s.seconds ≤ t.seconds
  last : ∀ s' : WallTime, s'.Begins p → s'.seconds ≤ t.seconds → s'.seconds ≤ s.seconds

/-- The seconds since the period began, by the fields of the time. -/
def elapsed (t : WallTime) : Period → Int
  | .minute => t.second
  | .hour => t.minute * 60 + t.second
  | .day => t.secondOfDay
  | .week => (t.date.weekday - 1) * 86400 + t.secondOfDay
  | .month => (t.date.day - 1) * 86400 + t.secondOfDay
  | .year => (t.date.dayOfYear - 1) * 86400 + t.secondOfDay

/-- A period that begins with a day began so many days ago. -/
theorem startOf_midnight {p : Period} {t : WallTime} {d : Date} (hd : d.Exists)
    (begins : (midnight d hd).Begins p) (le : d.dayNumber ≤ t.date.dayNumber)
    (last : ∀ s' : WallTime, s'.Begins p → s'.IsMidnight ∧
      (s'.date.dayNumber ≤ t.date.dayNumber → s'.date.dayNumber ≤ d.dayNumber)) :
    StartOf p t (midnight d hd) ∧ t.seconds - (midnight d hd).seconds =
      (t.date.dayNumber - d.dayNumber) * 86400 + t.secondOfDay := by
  have hday := t.secondOfDay_lt
  have hstart : (midnight d hd).seconds = d.dayNumber * 86400 := (isMidnight_midnight hd).seconds_eq
  have hseconds : t.seconds = t.date.dayNumber * 86400 + t.secondOfDay := rfl
  refine ⟨⟨begins, by omega, fun s' hs' hle => ?_⟩, by omega⟩
  obtain ⟨hmidnight, hlast⟩ := last s' hs'
  have hs := hmidnight.seconds_eq
  have hbefore := hlast (by omega)
  omega

/-- Every time is in a period of each kind, which began as long ago as its fields say. -/
theorem exists_startOf (p : Period) (t : WallTime) :
    ∃ s, StartOf p t s ∧ t.seconds - s.seconds = t.elapsed p := by
  cases p with
  -- within a day a period begins where the smaller fields are nothing
  | minute =>
      refine ⟨{ t with second := 0, second_lt := by decide }, ⟨rfl, ?_, fun s' hs' hle => ?_⟩, ?_⟩
      · simp only [seconds, secondOfDay]
        omega
      · have hsecond := t.second_lt
        simp only [Begins] at hs'
        simp only [seconds, secondOfDay, hs'] at hle ⊢
        omega
      · simp only [seconds, secondOfDay, elapsed]
        omega
  | hour =>
      refine ⟨{ t with minute := 0, second := 0, minute_lt := by decide, second_lt := by decide },
        ⟨⟨rfl, rfl⟩, ?_, fun s' hs' hle => ?_⟩, ?_⟩
      · simp only [seconds, secondOfDay]
        omega
      · have hminute := t.minute_lt
        have hsecond := t.second_lt
        obtain ⟨hminute', hsecond'⟩ := hs'
        simp only [seconds, secondOfDay, hminute', hsecond'] at hle ⊢
        omega
      · simp only [seconds, secondOfDay, elapsed]
        omega
  -- the others begin with a day, so that only days have to be compared
  | day =>
      obtain ⟨hstart, hsince⟩ := startOf_midnight (p := .day) t.date_exists ⟨rfl, rfl, rfl⟩
        (Int.le_refl _) fun s' hs' => ⟨hs', id⟩
      exact ⟨_, hstart, by rw [hsince, elapsed]; omega⟩
  | week =>
      have hmonday := t.date.dayNumber_monday
      have hle : t.date.monday.dayNumber ≤ t.date.dayNumber := by
        unfold Date.weekday at hmonday
        omega
      obtain ⟨hstart, hsince⟩ := startOf_midnight (p := .week) t.date.exists_monday
        ⟨isMidnight_midnight _, t.date.weekday_monday⟩ hle fun s' hs' => ⟨hs'.1, Date.le_monday hs'.2⟩
      refine ⟨_, hstart, ?_⟩
      rw [hsince, elapsed]
      omega
  | month =>
      have hfirst := t.date.dayNumber_firstOfMonth
      have hle : t.date.firstOfMonth.dayNumber ≤ t.date.dayNumber := by
        have hday := t.date_exists.day_pos
        omega
      obtain ⟨hstart, hsince⟩ := startOf_midnight (p := .month) t.date_exists.firstOfMonth
        ⟨isMidnight_midnight _, rfl⟩ hle
        fun s' hs' => ⟨hs'.1, t.date_exists.le_firstOfMonth s'.date_exists hs'.2⟩
      refine ⟨_, hstart, ?_⟩
      rw [hsince, elapsed]
      omega
  | year =>
      have hle : t.date.firstOfYear.dayNumber ≤ t.date.dayNumber := by
        have hplace := t.date_exists.dayInYear_lt.1
        rw [Date.dayNumber_firstOfYear]
        omega
      obtain ⟨hstart, hsince⟩ := startOf_midnight (p := .year) t.date.exists_firstOfYear
        ⟨isMidnight_midnight _, rfl, rfl⟩ hle
        fun s' hs' => ⟨hs'.1, t.date_exists.le_firstOfYear s'.date_exists hs'.2.1 hs'.2.2⟩
      refine ⟨_, hstart, ?_⟩
      rw [hsince, elapsed, Date.dayOfYear]
      omega

end WallTime

end SqlConnector
