import Mathlib.Tactic.Ring
import SqlConnector.Proofs.Text.Numeral
import SqlConnector.Proofs.Time.Calendar
import SqlConnector.Time.Timestamp

/-!
Instants are read back from their texts. The text in UTC is read by the loose form, as the zoned one
needs an offset at the end; a text of the zoned form is read by the clock that it was written by,
with its offset taken off again.
-/

namespace SqlConnector

namespace Instant

/-- The instant without what is less than a millisecond. -/
def truncated (t : Instant) : Instant where
  seconds := t.seconds
  nanos := t.nanos / 1000000 * 1000000
  from_min := t.from_min
  to_max := t.to_max
  nanos_lt := by
    have := t.nanos_lt
    omega
  leap_after_59 h := t.leap_after_59 (by omega)

/-- The date on a clock that is so many minutes ahead of UTC. -/
def localDate (t : Instant) (minutes : Int) : Date :=
  Date.ofDayNumber ((t.seconds + minutes * 60) / 86400)

/-- A clock shows every instant for which its year is one of the calendar. -/
theorem exists_shown {t : Instant} {minutes : Int} (hmin : Date.minYear ≤ (t.localDate minutes).year)
    (hmax : (t.localDate minutes).year ≤ Date.maxYear) :
    ∃ shown : Instant, shown.seconds = t.seconds + minutes * 60 ∧ shown.nanos = t.nanos ∧
      shown.date = t.localDate minutes := by
  unfold localDate at hmin hmax ⊢
  obtain ⟨hfrom, hto⟩ := Date.year_ofDayNumber.mp ⟨hmin, hmax⟩
  have hleap := t.leap_after_59
  obtain ⟨shown, hseconds, hnanos⟩ : ∃ shown : Instant,
      shown.seconds = t.seconds + minutes * 60 ∧ shown.nanos = t.nanos :=
    ⟨⟨t.seconds + minutes * 60, t.nanos, by omega, by omega, t.nanos_lt, by omega⟩, rfl, rfl⟩
  exact ⟨shown, hseconds, hnanos, by rw [date, hseconds]⟩

theorem ofEpoch?_self (t : Instant) : ofEpoch? t.seconds t.nanos = some t :=
  dif_pos ⟨t.from_min, t.to_max, t.nanos_lt, t.leap_after_59⟩

theorem truncated_of_whole {t : Instant} (h : t.nanos % 1000000 = 0) : t.truncated = t := by
  have hnanos : t.nanos / 1000000 * 1000000 = t.nanos := by omega
  cases t
  simpa [truncated] using hnanos

end Instant

namespace Timestamp

open Text (padded EndsDigits)

/-! ### Single scanners -/

/-- What is read first is what the rest goes on from. -/
theorem bind_of_eq_some {α β : Type} {x : Option α} {a : α} (h : x = some a)
    (f : α → Option β) : (x >>= f) = f a := by
  rw [h]
  rfl

theorem isBlank_of_isDigit {c : Char} (h : c.isDigit = true) : Text.isBlank c = false := by
  have hc := Char.isDigit_iff_toNat.mp h
  have hzero : '0'.toNat = 48 := rfl
  have hnine : '9'.toNat = 57 := rfl
  have hle : ¬c.toNat ≤ 13 := by omega
  simp [Text.isBlank, hle]
  omega

theorem trimStart_of_not_blank {c : Char} (h : Text.isBlank c = false) (s : List Char) :
    Text.trimStart (c :: s) = c :: s := by
  rw [Text.trimStart, List.dropWhile_cons_of_neg (by simp [h])]

theorem trimStart_append {ds : List Char} (hne : ds ≠ []) (hds : ∀ c ∈ ds, c.isDigit = true)
    (rest : List Char) : Text.trimStart (ds ++ rest) = ds ++ rest := by
  cases ds with
  | nil => exact absurd rfl hne
  | cons c ds => exact trimStart_of_not_blank (isBlank_of_isDigit (hds c List.mem_cons_self)) _

theorem literal_cons (c : Char) (rest : List Char) : literal c (c :: rest) = some rest := by
  rw [literal, if_pos rfl]

section Padded

variable {width n : Nat}

theorem fixedNumber_padded (hwidth : 0 < width) (h : n < 10 ^ width) (rest : List Char) :
    fixedNumber width (padded width n ++ rest) = some (n, rest) := by
  have hlength := Text.length_padded hwidth h
  have hall : (padded width n).all Char.isDigit = true :=
    List.all_eq_true.mpr fun _ => Text.isDigit_of_mem_padded
  simp only [fixedNumber, List.take_left' hlength, List.drop_left' hlength, hlength, hall,
    Text.ofDigits_padded, and_self, if_true]

theorem shortNumber_padded (hwidth : 0 < width) (h : n < 10 ^ width) (rest : List Char) :
    shortNumber width (padded width n ++ rest) = some (n, rest) := by
  have hlength := Text.length_padded hwidth h
  have hall : (padded width n).takeWhile Char.isDigit = padded width n :=
    List.takeWhile_eq_self_iff.mpr fun _ => Text.isDigit_of_mem_padded
  have hne : (padded width n).isEmpty = false :=
    List.isEmpty_eq_false_iff.mpr (Text.padded_ne_nil width n)
  simp only [shortNumber, List.take_left' hlength, hall, hne, Text.ofDigits_padded,
    Bool.false_eq_true, if_false, List.drop_left]

theorem longNumber_padded {rest : List Char} (hrest : EndsDigits rest) :
    longNumber (padded width n ++ rest) = some (n, rest) := by
  have hall : ∀ c ∈ padded width n, c.isDigit = true := fun _ => Text.isDigit_of_mem_padded
  have hspan := Text.spanDigits_append hall hrest
  have hne : (padded width n).isEmpty = false :=
    List.isEmpty_eq_false_iff.mpr (Text.padded_ne_nil width n)
  simp only [longNumber, hspan, hne, Text.ofDigits_padded, Bool.false_eq_true, if_false]

theorem trimStart_padded (rest : List Char) :
    Text.trimStart (padded width n ++ rest) = padded width n ++ rest :=
  trimStart_append (Text.padded_ne_nil width n) (fun _ => Text.isDigit_of_mem_padded) rest

theorem looseNumber_padded (h : n < 100) (rest : List Char) :
    looseNumber (padded 2 n ++ rest) = some (n, rest) := by
  rw [looseNumber, trimStart_padded, shortNumber_padded (by decide) h]

end Padded

/-! ### Dates -/

theorem looseYear_yearText (year : Int) {rest : List Char} (hrest : EndsDigits rest) :
    looseYear (Instant.yearText year ++ rest) = some (year, rest) := by
  unfold Instant.yearText
  split
  · next hyear =>
      have hlt : year.toNat < 10 ^ 4 := by omega
      -- a padded number does not begin with a sign
      have hdigit (c : Char) (s : List Char) (h : padded 4 year.toNat ++ rest = c :: s) :
          c.isDigit = true := by
        have hc := congrArg List.head? h
        rw [List.head?_append_of_ne_nil _ (Text.padded_ne_nil _ _)] at hc
        exact Text.isDigit_of_mem_padded (List.mem_of_mem_head? hc)
      rw [looseYear, trimStart_padded]
      split
      · next h => exact absurd (hdigit _ _ h) (by decide)
      · next h => exact absurd (hdigit _ _ h) (by decide)
      · simp only [shortNumber_padded (by decide) hlt, Option.map_some,
          Int.toNat_of_nonneg hyear.1]
  · split
    · next hyear =>
        rw [List.cons_append, looseYear, trimStart_of_not_blank rfl]
        simp only [longNumber_padded hrest, Option.map_some, Option.some.injEq, Prod.mk.injEq,
          and_true]
        omega
    · next hyear =>
        rw [List.cons_append, looseYear, trimStart_of_not_blank rfl]
        simp only [longNumber_padded hrest, Option.map_some, Option.some.injEq, Prod.mk.injEq,
          and_true]
        omega

theorem looseDate_dateText {d : Date} (h : d.Exists) (rest : List Char) :
    looseDate (Instant.dateText d ++ rest) = some (d, rest) := by
  have hmonth : d.month < 100 := Nat.lt_of_le_of_lt h.month_le (by decide)
  have hday : d.day < 100 := Nat.lt_of_le_of_lt h.day_le_31 (by decide)
  have htext : Instant.dateText d ++ rest =
      Instant.yearText d.year ++ '-' :: (padded 2 d.month ++ '-' :: (padded 2 d.day ++ rest)) := by
    simp only [Instant.dateText, List.append_assoc, List.cons_append]
  rw [htext]
  refine (bind_of_eq_some (looseYear_yearText d.year (Text.endsDigits_cons.mpr rfl)) _).trans ?_
  refine (bind_of_eq_some (literal_cons '-' _) _).trans ?_
  refine (bind_of_eq_some (looseNumber_padded hmonth _) _).trans ?_
  refine (bind_of_eq_some (literal_cons '-' _) _).trans ?_
  exact bind_of_eq_some (looseNumber_padded hday rest) _

/-! ### Fractions of a second -/

/-- The texts after the second that stand for a number of milliseconds: digits after a point, zeros
at their end among them, or nothing. -/
inductive FractionText : Nat → List Char → Prop where
  | none : FractionText 0 []
  | digits {millis ds} (not_empty : ds ≠ []) (digits : ∀ c ∈ ds, c.isDigit = true)
      (value : Text.ofDigits ds * 1000 = millis * 10 ^ ds.length) :
      FractionText millis ('.' :: ds)

/-- No digit past the ninth makes a difference to a number of milliseconds. -/
theorem nanosOf_eq {millis : Nat} {ds : List Char} (hds : ∀ c ∈ ds, c.isDigit = true)
    (h : Text.ofDigits ds * 1000 = millis * 10 ^ ds.length) : nanosOf ds = millis * 1000000 := by
  show Text.ofDigits (ds.take 9) * 10 ^ (9 - (ds.take 9).length) = millis * 1000000
  rcases Nat.le_total ds.length 9 with hle | hle
  · rw [List.take_of_length_le hle]
    apply Nat.eq_of_mul_eq_mul_right (show 0 < 1000 by decide)
    calc
      Text.ofDigits ds * 10 ^ (9 - ds.length) * 1000 =
          Text.ofDigits ds * 1000 * 10 ^ (9 - ds.length) := Nat.mul_right_comm _ _ _
      _ = millis * (10 ^ ds.length * 10 ^ (9 - ds.length)) := by rw [h, Nat.mul_assoc]
      _ = millis * 10 ^ 9 := by rw [← Nat.pow_add, Nat.add_sub_cancel' hle]
      _ = millis * 1000000 * 1000 := by ring
  · -- the digits that are dropped are the remainder of a division without remainder
    have hlength : (ds.take 9).length = 9 := List.length_take_of_le hle
    have hsplit := Text.ofDigits_append (ds.take 9) (ds.drop 9)
    have hrest := Text.ofDigits_lt (s := ds.drop 9) fun c hc => hds c (List.mem_of_mem_drop hc)
    rw [List.take_append_drop, List.length_drop] at hsplit
    rw [List.length_drop] at hrest
    have hvalue : Text.ofDigits ds = 10 ^ (ds.length - 9) * (millis * 1000000) := by
      apply Nat.eq_of_mul_eq_mul_right (show 0 < 1000 by decide)
      calc
        Text.ofDigits ds * 1000 = millis * 10 ^ (ds.length - 9 + 9) := by
          rw [h, Nat.sub_add_cancel hle]
        _ = 10 ^ (ds.length - 9) * (millis * 1000000) * 1000 := by ring
    have hdiv := congrArg (· / 10 ^ (ds.length - 9)) (hsplit.symm.trans hvalue)
    have hpos : 0 < 10 ^ (ds.length - 9) := Nat.pow_pos (by decide)
    simp only [Nat.mul_add_div hpos, Nat.div_eq_of_lt hrest, Nat.add_zero,
      Nat.mul_div_cancel_left _ hpos] at hdiv
    rw [hlength, Nat.sub_self, Nat.pow_zero, Nat.mul_one, hdiv]

/-- What comes after the seconds neither goes on with digits nor begins a fraction. -/
theorem fraction_of_text {millis : Nat} {f rest : List Char} (h : FractionText millis f)
    (hrest : EndsDigits rest) (hpoint : rest.head? ≠ some '.') :
    fraction (f ++ rest) = some (millis * 1000000, rest) := by
  cases h with
  | none =>
      rw [List.nil_append, fraction.eq_def]
      split
      · exact absurd rfl hpoint
      · rw [Nat.zero_mul]
  | @digits _ ds not_empty digits value =>
      rw [List.cons_append, fraction]
      simp only [Text.spanDigits_append digits hrest, List.isEmpty_eq_false_iff.mpr not_empty,
        nanosOf_eq digits value, Bool.false_eq_true, if_false]

theorem fractionText_fractionText (t : Instant) : FractionText t.millis t.fractionText := by
  unfold Instant.fractionText
  split
  · next h =>
      rw [h]
      exact .none
  · refine .digits (Text.padded_ne_nil _ _) (fun _ => Text.isDigit_of_mem_padded) ?_
    rw [Text.ofDigits_padded, Text.length_padded (by decide) t.millis_lt]
    rfl

/-! ### Clocks -/

/-- The readings of a clock that is ahead of UTC by an offset. -/
theorem toInstant?_shown (shown : Instant) (offset : Int) :
    Reading.toInstant?
        ⟨shown.date, shown.hour, shown.minute, shown.second, shown.millis * 1000000⟩ offset =
      Instant.ofEpoch? (shown.seconds - offset) shown.truncated.nanos := by
  have hsecond := shown.second_eq
  have hnanos := shown.nanos_lt
  have hmod : shown.secondOfDay % 60 < 60 := Nat.mod_lt _ (by decide)
  have hvalid : shown.date.isValid = true ∧ shown.hour < 24 ∧ shown.minute < 60 ∧
      shown.second ≤ 60 :=
    ⟨shown.isValid_date, shown.hour_lt, shown.minute_lt, by omega⟩
  have hseconds : shown.date.dayNumber * 86400 + (shown.hour * 3600 + shown.minute * 60 +
      (shown.second - shown.second / 60) : Nat) = shown.seconds := by
    rw [shown.seconds_eq]
    omega
  have hmillis : shown.nanos % 1000000000 / 1000000 * 1000000 + shown.second / 60 * 1000000000 =
      shown.nanos / 1000000 * 1000000 := by
    omega
  rw [Reading.toInstant?, if_pos hvalid]
  simp only [Instant.truncated, Instant.millis, hseconds, hmillis]

/-! ### The text in UTC -/

theorem timeText_append (t : Instant) (rest : List Char) :
    t.timeText ++ rest =
      padded 2 t.hour ++ ':' :: (padded 2 t.minute ++ ':' :: (padded 2 t.second ++ rest)) := by
  rw [Instant.timeText]
  simp only [List.append_assoc, List.cons_append]

theorem readDateTime_text (t : Instant) :
    readDateTime (Instant.dateText t.date ++ ' ' :: t.timeText ++ t.fractionText) =
      some t.truncated := by
  have hhour : t.hour < 100 := Nat.lt_trans t.hour_lt (by decide)
  have hminute : t.minute < 100 := Nat.lt_trans t.minute_lt (by decide)
  have hfraction := fraction_of_text (fractionText_fractionText t) Text.endsDigits_nil (by simp)
  rw [List.append_nil] at hfraction
  have hclock (s : List Char) :
      looseNumber (Text.trimStart (' ' :: (padded 2 t.hour ++ s))) = some (t.hour, s) := by
    rw [show Text.trimStart (' ' :: (padded 2 t.hour ++ s)) = _ from trimStart_padded s]
    exact looseNumber_padded hhour s
  rw [List.append_assoc, List.cons_append, timeText_append]
  refine (bind_of_eq_some (looseDate_dateText t.exists_date _) _).trans ?_
  refine (bind_of_eq_some (hclock _) _).trans ?_
  refine (bind_of_eq_some (literal_cons ':' _) _).trans ?_
  refine (bind_of_eq_some (looseNumber_padded hminute _) _).trans ?_
  refine (bind_of_eq_some (literal_cons ':' _) _).trans ?_
  refine (bind_of_eq_some (looseNumber_padded t.second_lt_100 _) _).trans ?_
  refine (bind_of_eq_some hfraction _).trans ?_
  refine (bind_of_eq_some (show ending [] = some () from rfl) _).trans ?_
  refine (toInstant?_shown t 0).trans ?_
  rw [Int.sub_zero]
  exact t.truncated.ofEpoch?_self

/-! ### Zoned texts -/

/-- How an offset from UTC is written, in minutes: ahead of it or behind, or none at all. -/
inductive OffsetText : Int → List Char → Prop where
  | utc {c} (mark : c = 'Z' ∨ c = 'z') : OffsetText 0 [c]
  | ahead {hours minutes : Nat} (hours_lt : hours < 24) (minutes_lt : minutes < 60) :
      OffsetText (hours * 60 + minutes : Nat) ('+' :: padded 2 hours ++ ':' :: padded 2 minutes)
  | behind {hours minutes : Nat} (hours_lt : hours < 24) (minutes_lt : minutes < 60) :
      OffsetText (-(hours * 60 + minutes : Nat)) ('-' :: padded 2 hours ++ ':' :: padded 2 minutes)

/-- The texts of an instant in the zoned form, for a clock that is so many minutes ahead of UTC. The
year that it shows has four digits. -/
inductive ZonedText (t : Instant) (minutes : Int) : String → Prop where
  | mk {shown : Instant} {c : Char} {f o : List Char}
      (seconds : shown.seconds = t.seconds + minutes * 60) (nanos : shown.nanos = t.nanos)
      (year : 0 ≤ shown.date.year ∧ shown.date.year ≤ 9999) (mark : c = 'T' ∨ c = 't' ∨ c = ' ')
      (fraction : FractionText shown.millis f) (offset : OffsetText minutes o) :
      ZonedText t minutes
        (String.ofList (Instant.dateText shown.date ++ c :: shown.timeText ++ f ++ o))

theorem exists_offsetText {minutes : Int} (h : minutes.natAbs < 1440) :
    ∃ o, OffsetText minutes o := by
  have hhours : minutes.natAbs / 60 < 24 := by omega
  have hminutes : minutes.natAbs % 60 < 60 := by omega
  rcases Int.le_total 0 minutes with hsign | hsign
  · have hsum : minutes = (minutes.natAbs / 60 * 60 + minutes.natAbs % 60 : Nat) := by omega
    rw [hsum]
    exact ⟨_, .ahead hhours hminutes⟩
  · have hsum : minutes = -(minutes.natAbs / 60 * 60 + minutes.natAbs % 60 : Nat) := by omega
    rw [hsum]
    exact ⟨_, .behind hhours hminutes⟩

/-- Every instant has texts in the zoned form, for each clock that shows a year of four digits. -/
theorem exists_zonedText {t : Instant} {minutes : Int} (h : minutes.natAbs < 1440)
    (hyear : 0 ≤ (t.localDate minutes).year ∧ (t.localDate minutes).year ≤ 9999) :
    ∃ text, ZonedText t minutes text := by
  have hmin : Date.minYear ≤ (t.localDate minutes).year := Int.le_trans (by decide) hyear.1
  have hmax : (t.localDate minutes).year ≤ Date.maxYear := Int.le_trans hyear.2 (by decide)
  obtain ⟨shown, seconds, nanos, date⟩ := Instant.exists_shown hmin hmax
  obtain ⟨o, offset⟩ := exists_offsetText h
  exact ⟨_, .mk seconds nanos (date ▸ hyear) (.inl rfl) (fractionText_fractionText shown) offset⟩

theorem zoneOffset_signed {c : Char} {direction : Int} {hours minutes : Nat}
    (hsign : ∀ s, sign (c :: s) = some (direction, s)) (hzulu : c ≠ 'Z' ∧ c ≠ 'z')
    (hhours : hours < 24) (hminutes : minutes < 60) :
    zoneOffset (c :: padded 2 hours ++ ':' :: padded 2 minutes) =
      some (direction * (hours * 3600 + minutes * 60 : Nat), []) := by
  have hlast := fixedNumber_padded (show 0 < 2 by decide) (show minutes < 10 ^ 2 by omega) []
  rw [List.append_nil] at hlast
  rw [List.cons_append, zoneOffset.eq_def]
  split
  · next h => exact absurd (List.cons.inj h).1 hzulu.1
  · next h => exact absurd (List.cons.inj h).1 hzulu.2
  · simp only [hsign, literal_cons, hlast, Option.bind_eq_bind, Option.bind_some,
      fixedNumber_padded (show 0 < 2 by decide) (show hours < 10 ^ 2 by omega),
      hhours, hminutes, and_self, if_true]

theorem zoneOffset_of_text {minutes : Int} {offset : List Char} (h : OffsetText minutes offset) :
    zoneOffset offset = some (minutes * 60, []) := by
  cases h with
  | utc mark => rcases mark with rfl | rfl <;> rfl
  | @ahead hours minutes hours_lt minutes_lt =>
      have hsign (s : List Char) : sign ('+' :: s) = some (1, s) := rfl
      rw [zoneOffset_signed hsign (by decide) hours_lt minutes_lt]
      congr 2
      omega
  | @behind hours minutes hours_lt minutes_lt =>
      have hsign (s : List Char) : sign ('-' :: s) = some (-1, s) := rfl
      rw [zoneOffset_signed hsign (by decide) hours_lt minutes_lt]
      congr 2
      omega

theorem endsDigits_offset {minutes : Int} {offset : List Char} (h : OffsetText minutes offset) :
    EndsDigits offset ∧ offset.head? ≠ some '.' := by
  cases h with
  | utc mark => rcases mark with rfl | rfl <;> exact ⟨Text.endsDigits_cons.mpr rfl, by simp⟩
  | ahead _ _ => exact ⟨Text.endsDigits_cons.mpr rfl, by simp⟩
  | behind _ _ => exact ⟨Text.endsDigits_cons.mpr rfl, by simp⟩

theorem dateText_of_four_digits {d : Date} (h : 0 ≤ d.year ∧ d.year ≤ 9999) (rest : List Char) :
    Instant.dateText d ++ rest =
      padded 4 d.year.toNat ++ '-' :: (padded 2 d.month ++ '-' :: (padded 2 d.day ++ rest)) := by
  rw [Instant.dateText, Instant.yearText, if_pos h]
  simp only [List.append_assoc, List.cons_append]

/-- A year of more digits begins with a sign. -/
theorem exists_dateText {d : Date} (h : ¬(0 ≤ d.year ∧ d.year ≤ 9999)) :
    ∃ c s, c.isDigit = false ∧ Instant.dateText d = c :: s := by
  rw [Instant.dateText, Instant.yearText, if_neg h]
  exact ⟨_, _, by split <;> rfl, rfl⟩

/-- What the zoned form reads up to the second, when the year has four digits. -/
theorem readZoned_text {shown : Instant} (hyear : 0 ≤ shown.date.year ∧ shown.date.year ≤ 9999)
    {mark : Char} (hmark : mark = 'T' ∨ mark = 't' ∨ mark = ' ') (rest : List Char) :
    readZoned (Instant.dateText shown.date ++ mark :: shown.timeText ++ rest) = (do
      let (nanos, s) ← fraction rest
      let (offset, s) ← zoneOffset s
      ending s
      Reading.toInstant? ⟨shown.date, shown.hour, shown.minute, shown.second, nanos⟩ offset) := by
  have hmonth : shown.date.month < 10 ^ 2 :=
    Nat.lt_of_le_of_lt shown.exists_date.month_le (by decide)
  have hday : shown.date.day < 10 ^ 2 := Nat.lt_of_le_of_lt shown.exists_date.day_le_31 (by decide)
  have hhour : shown.hour < 10 ^ 2 := Nat.lt_trans shown.hour_lt (by decide)
  have hminute : shown.minute < 10 ^ 2 := Nat.lt_trans shown.minute_lt (by decide)
  have hfour : shown.date.year.toNat < 10 ^ 4 := by omega
  have hdate (d : Date) (h : 0 ≤ d.year) : (⟨(d.year.toNat : Int), d.month, d.day⟩ : Date) = d := by
    rw [Int.toNat_of_nonneg h]
  have hread (s : List Char) : dateTimeMark (mark :: s) = some s := if_pos hmark
  have htwo : 0 < 2 := by decide
  rw [List.append_assoc, dateText_of_four_digits hyear, List.cons_append, timeText_append]
  refine (bind_of_eq_some (fixedNumber_padded (by decide) hfour _) _).trans ?_
  refine (bind_of_eq_some (literal_cons '-' _) _).trans ?_
  refine (bind_of_eq_some (fixedNumber_padded htwo hmonth _) _).trans ?_
  refine (bind_of_eq_some (literal_cons '-' _) _).trans ?_
  refine (bind_of_eq_some (fixedNumber_padded htwo hday _) _).trans ?_
  refine (bind_of_eq_some (hread _) _).trans ?_
  refine (bind_of_eq_some (fixedNumber_padded htwo hhour _) _).trans ?_
  refine (bind_of_eq_some (literal_cons ':' _) _).trans ?_
  refine (bind_of_eq_some (fixedNumber_padded htwo hminute _) _).trans ?_
  refine (bind_of_eq_some (literal_cons ':' _) _).trans ?_
  refine (bind_of_eq_some (fixedNumber_padded htwo shown.second_lt_100 _) _).trans ?_
  simp only [hdate _ hyear.1]

/-- A text without an offset is not zoned. -/
theorem readZoned_utc (t : Instant) :
    readZoned (Instant.dateText t.date ++ ' ' :: t.timeText ++ t.fractionText) = none := by
  have hfraction := fraction_of_text (fractionText_fractionText t) Text.endsDigits_nil (by simp)
  rw [List.append_nil] at hfraction
  by_cases hyear : 0 ≤ t.date.year ∧ t.date.year ≤ 9999
  · rw [readZoned_text hyear (.inr (.inr rfl)), hfraction]
    rfl
  · obtain ⟨c, s, hc, htext⟩ := exists_dateText hyear
    have hfixed (s : List Char) : fixedNumber 4 (c :: s) = none := by simp [fixedNumber, hc]
    rw [htext, List.cons_append, List.cons_append, readZoned, hfixed]
    rfl

/-! ### Reading back -/

/-- The text of an instant is read as this instant, to the millisecond. -/
theorem read?_toText (t : Instant) : read? t.toText = some t.truncated := by
  rw [read?, Instant.toText, String.toList_ofList, readZoned_utc, readDateTime_text]
  rfl

/-- The texts that clocks ahead of UTC and behind it show are read as the same instant. -/
theorem read?_of_zonedText {t : Instant} {minutes : Int} {text : String}
    (h : ZonedText t minutes text) : read? text = some t.truncated := by
  obtain @⟨shown, c, f, o, seconds, nanos, year, mark, ftext, otext⟩ := h
  obtain ⟨hends, hpoint⟩ := endsDigits_offset otext
  -- taking the offset off the clock's second leaves the second of the instant
  have hseconds : shown.seconds - minutes * 60 = t.truncated.seconds := by
    rw [seconds]
    exact Int.add_sub_cancel _ _
  have hnanos : shown.truncated.nanos = t.truncated.nanos := by simp [Instant.truncated, nanos]
  have hzoned : readZoned (Instant.dateText shown.date ++ c :: shown.timeText ++ (f ++ o)) =
      some t.truncated := by
    refine (readZoned_text year mark _).trans ?_
    refine (bind_of_eq_some (fraction_of_text ftext hends hpoint) _).trans ?_
    refine (bind_of_eq_some (zoneOffset_of_text otext) _).trans ?_
    refine (bind_of_eq_some (show ending [] = some () from rfl) _).trans ?_
    refine (toInstant?_shown shown _).trans ?_
    rw [hseconds, hnanos]
    exact t.truncated.ofEpoch?_self
  rw [read?, String.toList_ofList, List.append_assoc, hzoned]
  rfl

end Timestamp

end SqlConnector
