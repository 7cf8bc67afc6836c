import SqlConnector.Proofs.Time.Forms
import SqlConnector.Proofs.Time.WallTime

/-!
A text is of one form at most, so the order in which the forms are tried makes no difference. What
tells them apart is the text after its last mark, a sign or a letter for UTC: an offset leaves
nothing after the letter or one colon after its sign, a loose clock leaves two colons after the sign
before its day, and a date alone leaves its day.
-/

namespace SqlConnector

namespace Date

theorem exists_of_isValid {d : Date} (h : d.isValid = true) : d.Exists := by
  simp only [isValid, decide_eq_true_eq] at h
  obtain ⟨-, -, day_pos, day_le⟩ := h
  -- there are no days in any other month
  have hlength : 0 < monthLength (isLeapYear d.year) d.month := Nat.lt_of_lt_of_le day_pos day_le
  unfold monthLength at hlength
  split at hlength
  · contradiction
  · next hzero =>
      refine ⟨Nat.pos_of_ne_zero hzero, ?_, day_pos, day_le⟩
      by_contra hmonth
      have hnone : (monthLengths (isLeapYear d.year)).length ≤ d.month - 1 := by
        show 12 ≤ d.month - 1
        omega
      rw [List.getD_eq_getElem?_getD, List.getElem?_eq_none hnone] at hlength
      contradiction

/-- The days of the calendar are those of its years. -/
theorem dayNumber_of_isValid {d : Date} (h : d.isValid = true) :
    dayNumber ⟨minYear, 1, 1⟩ ≤ d.dayNumber ∧ d.dayNumber ≤ dayNumber ⟨maxYear, 12, 31⟩ := by
  obtain ⟨hfirst, hlast⟩ := (exists_of_isValid h).dayInYear_lt
  simp only [isValid, decide_eq_true_eq] at h
  obtain ⟨hmin, hmax, -, -⟩ := h
  have hbefore := daysBeforeYear_mono hmin
  have hafter := daysBeforeYear_mono (show d.year + 1 ≤ maxYear + 1 by omega)
  rw [daysBeforeYear_succ] at hafter
  have hstart : dayNumber ⟨minYear, 1, 1⟩ = daysBeforeYear minYear - epochDay := by decide
  have hend : dayNumber ⟨maxYear, 12, 31⟩ = daysBeforeYear (maxYear + 1) - 1 - epochDay := by decide
  rw [hstart, hend, dayNumber_eq d]
  omega

/-- The years of four digits are far from the ends of the calendar. -/
theorem dayNumber_of_four_digits {d : Date} (h : d.Exists) (hmin : 0 ≤ d.year)
    (hmax : d.year ≤ 9999) :
    dayNumber ⟨minYear, 1, 1⟩ + 1 ≤ d.dayNumber ∧ d.dayNumber + 1 ≤ dayNumber ⟨maxYear, 12, 31⟩ := by
  obtain ⟨hfirst, hlast⟩ := h.dayInYear_lt
  have hbefore := daysBeforeYear_mono hmin
  have hafter := daysBeforeYear_mono (show d.year + 1 ≤ 10000 by omega)
  rw [daysBeforeYear_succ] at hafter
  have hstart : dayNumber ⟨minYear, 1, 1⟩ + 1 ≤ daysBeforeYear 0 - epochDay := by decide
  have hend : daysBeforeYear 10000 - epochDay ≤ dayNumber ⟨maxYear, 12, 31⟩ := by decide
  rw [dayNumber_eq d]
  omega

end Date

namespace Instant

theorem ofEpoch?_eq_some {seconds : Int} {nanos : Nat} {t : Instant} :
    ofEpoch? seconds nanos = some t ↔ t.seconds = seconds ∧ t.nanos = nanos := by
  constructor
  · intro h
    unfold Instant.ofEpoch? at h
    split at h
    · cases h
      exact ⟨rfl, rfl⟩
    · contradiction
  · rintro ⟨rfl, rfl⟩
    exact t.ofEpoch?_self

end Instant

namespace Timestamp

/-! ### The text after the last mark -/

/-- The characters that offsets begin with; one of them stands before the day of a loose date. -/
def marks : List Char := ['+', '-', '−', 'Z', 'z']

def afterMark (s : List Char) : List Char := s.rtakeWhile (· ∉ marks)

/-- Neither a mark nor a colon is among the characters. -/
def Quiet (s : List Char) : Prop := ∀ c ∈ s, c ∉ ':' :: marks

theorem quiet_nil : Quiet [] := by simp [Quiet]

theorem quiet_append {s t : List Char} : Quiet (s ++ t) ↔ Quiet s ∧ Quiet t := List.forall_mem_append

theorem quiet_of_forall {p : Char → Bool} (hp : (':' :: marks).any p = false) {s : List Char}
    (hs : ∀ c ∈ s, p c = true) : Quiet s := by
  intro c hc hmem
  exact List.any_eq_false.mp hp c hmem (hs c hc)

theorem Number.quiet {ds : List Char} {n : Nat} (h : Number ds n) : Quiet ds :=
  quiet_of_forall (by decide) h.digits

theorem LooseNumber.quiet {blanks ds : List Char} {n : Nat} (h : LooseNumber blanks ds n) :
    Quiet blanks ∧ Quiet ds :=
  ⟨quiet_of_forall (by decide) h.blank, h.toNumber.quiet⟩

theorem Fraction.quiet {f : List Char} {n : Nat} (h : Fraction f n) : Quiet f := by
  cases h with
  | none => exact quiet_nil
  | digits not_empty digits =>
      exact quiet_append.mpr ⟨(by simp [Quiet, marks] : Quiet ['.']),
        quiet_of_forall (by decide) digits⟩

theorem Quiet.count_colon {s : List Char} (h : Quiet s) : s.count ':' = 0 :=
  List.count_eq_zero.mpr fun hc => h ':' hc List.mem_cons_self

def Unmarked (s : List Char) : Prop := ∀ c ∈ s, c ∉ marks

theorem Quiet.unmarked {s : List Char} (h : Quiet s) : Unmarked s :=
  fun c hc hmark => h c hc (List.mem_cons_of_mem _ hmark)

theorem unmarked_append {s t : List Char} : Unmarked (s ++ t) ↔ Unmarked s ∧ Unmarked t :=
  List.forall_mem_append

theorem unmarked_colon {s : List Char} : Unmarked (':' :: s) ↔ Unmarked s := by
  have hcolon : ':' ∉ marks := by decide
  simp [Unmarked, hcolon]

theorem afterMark_append_cons {mark : Char} (hmark : mark ∈ marks) (before : List Char)
    {s : List Char} (hs : Unmarked s) : afterMark (before ++ mark :: s) = s := by
  have hreverse : (before ++ mark :: s).reverse = s.reverse ++ mark :: before.reverse := by simp
  have hall : ∀ c ∈ s.reverse, decide (c ∉ marks) = true := by simpa [Unmarked] using hs
  rw [afterMark, List.rtakeWhile, hreverse, List.takeWhile_append_of_pos hall,
    List.takeWhile_cons_of_neg (by simpa using hmark), List.append_nil, List.reverse_reverse]

/-! ### What each form leaves after its last mark -/

theorem Sign.mem_marks {c : Char} {direction : Int} (h : Sign c direction) : c ∈ marks := by
  cases h <;> decide

theorem Offset.afterMark {o : List Char} {seconds : Int} (h : Offset o seconds)
    (before : List Char) :
    o.length = 1 ∧ afterMark (before ++ o) = [] ∨
      o.length = 6 ∧ (afterMark (before ++ o)).count ':' = 1 := by
  cases h with
  | @utc c mark =>
      have hmark : c ∈ marks := by rcases mark with rfl | rfl <;> decide
      exact .inl ⟨rfl, afterMark_append_cons hmark before (by simp [Unmarked])⟩
  | @clock c hs mis direction h mi sign hour minute hour_lt minute_lt =>
      have hunmarked : Unmarked (hs ++ ':' :: mis) :=
        unmarked_append.mpr ⟨hour.quiet.unmarked, unmarked_colon.mpr minute.quiet.unmarked⟩
      refine .inr ⟨by simp [hour.length, minute.length], ?_⟩
      rw [afterMark_append_cons sign.mem_marks before hunmarked, List.count_append,
        List.count_cons_self, hour.quiet.count_colon, minute.quiet.count_colon]

theorem LooseDate.afterMark {before ds : List Char} {date : Date} (h : LooseDate before ds date)
    {rest : List Char} (hrest : Unmarked rest) :
    ∃ blanks n, LooseNumber blanks ds n ∧
      afterMark (before ++ (ds ++ rest)) = blanks ++ (ds ++ rest) := by
  obtain @⟨yblanks, ys, moblanks, mos, dblanks, ds, y, mo, d, hblank, year, month, day⟩ := h
  refine ⟨dblanks, d, day, ?_⟩
  have hunmarked : Unmarked (dblanks ++ (ds ++ rest)) :=
    unmarked_append.mpr ⟨day.quiet.1.unmarked, unmarked_append.mpr ⟨day.quiet.2.unmarked, hrest⟩⟩
  rw [← afterMark_append_cons (show '-' ∈ marks by decide)
    (yblanks ++ (ys ++ '-' :: (moblanks ++ mos))) hunmarked]
  simp

theorem afterMark_of_date {before ds : List Char} {date : Date} (h : LooseDate before ds date) :
    afterMark (before ++ ds) ≠ [] ∧ (afterMark (before ++ ds)).count ':' = 0 := by
  obtain ⟨blanks, n, day, hafter⟩ := h.afterMark (show Unmarked [] by simp [Unmarked])
  rw [List.append_nil] at hafter
  rw [hafter, List.count_append, day.quiet.1.count_colon, day.quiet.2.count_colon]
  exact ⟨List.append_ne_nil_of_right_ne_nil _ day.not_empty, rfl⟩

theorem LooseClock.afterMark {s : List Char} {r : Reading} (h : LooseClock s r) :
    (afterMark s).count ':' = 2 := by
  obtain @⟨before, ds, hblanks, hs, miblanks, mis, sblanks, ss, f, d, h, mi, sec, n, date, hour,
    apart, minute, second, fraction⟩ := h
  obtain ⟨hourBlanks, hour⟩ := hour.quiet
  obtain ⟨minuteBlanks, minute⟩ := minute.quiet
  obtain ⟨secondBlanks, second⟩ := second.quiet
  have fraction := fraction.quiet
  have hunmarked : Unmarked (hblanks ++ (hs ++ ':' :: (miblanks ++ (mis ++ ':' ::
      (sblanks ++ (ss ++ f)))))) := by
    simp only [unmarked_append, unmarked_colon]
    exact ⟨hourBlanks.unmarked, hour.unmarked, minuteBlanks.unmarked, minute.unmarked,
      secondBlanks.unmarked, second.unmarked, fraction.unmarked⟩
  obtain ⟨blanks, n, day, hafter⟩ := date.afterMark hunmarked
  rw [hafter]
  simp only [List.count_append, List.count_cons_self, day.quiet.1.count_colon,
    day.quiet.2.count_colon, hourBlanks.count_colon, hour.count_colon, minuteBlanks.count_colon,
    minute.count_colon, secondBlanks.count_colon, second.count_colon, fraction.count_colon]

/-! ### One form -/

/-- The texts without an offset: a clock or a date alone, at the start of its day. -/
inductive LooseText : List Char → Reading → Prop where
  | clock {s r} (clock : LooseClock s r) : LooseText s r
  | date {before ds d} (date : LooseDate before ds d) : LooseText (before ++ ds) ⟨d, 0, 0, 0, 0⟩

/-- A text that ends in an offset has one end of this kind. -/
theorem Offset.unique {before before' o o' : List Char} {seconds seconds' : Int}
    (h : Offset o seconds) (h' : Offset o' seconds') (heq : before ++ o = before' ++ o') :
    before = before' ∧ seconds = seconds' := by
  have hlength : o.length = o'.length := by
    have hafter := h.afterMark before
    have hafter' := h'.afterMark before'
    rw [← heq] at hafter'
    rcases hafter with ⟨hone, hnil⟩ | ⟨hsix, hcolon⟩
    · rw [hnil] at hafter'
      simpa [hone, eq_comm] using hafter'
    · have hne : Timestamp.afterMark (before ++ o) ≠ [] := by
        intro hnil
        simp [hnil] at hcolon
      simpa [hsix, hne, hcolon, eq_comm] using hafter'
  obtain ⟨hbefore, rfl⟩ := List.append_inj' heq hlength
  have hread := zoneOffset_eq_some.mpr ⟨o, h, (List.append_nil o).symm⟩
  have hread' := zoneOffset_eq_some.mpr ⟨o, h', (List.append_nil o).symm⟩
  exact ⟨hbefore, congrArg Prod.fst (Option.some.inj (hread.symm.trans hread'))⟩

/-- No text without an offset ends in one. -/
theorem LooseText.no_offset {s before o : List Char} {r : Reading} {seconds : Int}
    (h : LooseText s r) (ho : Offset o seconds) : s ≠ before ++ o := by
  intro heq
  have hoffset := ho.afterMark before
  rw [← heq] at hoffset
  cases h with
  | clock clock =>
      have hclock := clock.afterMark
      rcases hoffset with ⟨-, hnil⟩ | ⟨-, hcolon⟩
      · simp [hnil] at hclock
      · omega
  | date date =>
      obtain ⟨hne, hnone⟩ := afterMark_of_date date
      rcases hoffset with ⟨-, hnil⟩ | ⟨-, hcolon⟩
      · exact hne hnil
      · omega

theorem LooseClock.ne_date {s before ds : List Char} {r : Reading} {date : Date}
    (h : LooseClock s r) (hdate : LooseDate before ds date) : s ≠ before ++ ds := by
  rintro rfl
  have hclock := h.afterMark
  have hnone := (afterMark_of_date hdate).2
  omega

/-! ### Readers -/

/-- The readers of the forms, in the order in which a text is offered to them. -/
def readers : List (List Char → Option Instant) := [readZoned, readDateTime, readDate]

theorem read?_eq (text : String) : read? text = readers.findSome? (· text.toList) := by
  unfold read? readers
  simp only [List.findSome?_cons, List.findSome?_nil]
  cases readZoned text.toList <;> cases readDateTime text.toList <;>
    cases readDate text.toList <;> rfl

/-- What a reader accepts, no other one does. -/
theorem reader_alone (s : List Char) :
    (readZoned s = none ∨ readDateTime s = none ∧ readDate s = none) ∧
      (readDateTime s = none ∨ readDate s = none) := by
  refine ⟨?_, ?_⟩
  · cases hzoned : readZoned s with
    | none => exact .inl rfl
    | some t =>
        obtain ⟨clock, o, r, seconds, -, ho, hs, -⟩ := readZoned_eq_some.mp hzoned
        refine .inr ⟨?_, ?_⟩
        · rw [Option.eq_none_iff_forall_ne_some]
          intro u hu
          obtain ⟨r', hclock, -⟩ := readDateTime_eq_some.mp hu
          exact (LooseText.clock hclock).no_offset ho hs
        · rw [Option.eq_none_iff_forall_ne_some]
          intro u hu
          obtain ⟨before, ds, date, hdate, rfl, -⟩ := readDate_eq_some.mp hu
          exact (LooseText.date hdate).no_offset ho hs
  · cases hclock : readDateTime s with
    | none => exact .inl rfl
    | some t =>
        obtain ⟨r, hclock, -⟩ := readDateTime_eq_some.mp hclock
        refine .inr (Option.eq_none_iff_forall_ne_some.mpr fun u hu => ?_)
        obtain ⟨before, ds, date, hdate, hs, -⟩ := readDate_eq_some.mp hu
        exact hclock.ne_date hdate hs

/-- At most one reader accepts a text. -/
theorem countP_readers (s : List Char) : readers.countP (fun read => (read s).isSome) ≤ 1 := by
  obtain ⟨hzoned, hclock⟩ := reader_alone s
  simp only [readers, List.countP_cons, List.countP_nil]
  rcases hzoned with hzoned | ⟨hclock, hdate⟩
  · rcases hclock with hclock | hdate
    · simp only [hzoned, hclock]
      cases readDate s <;> simp
    · simp only [hzoned, hdate]
      cases readDateTime s <;> simp
  · simp only [hclock, hdate]
    cases readZoned s <;> simp

/-- When at most one of the attempts succeeds, their order makes no difference. -/
theorem findSome?_of_perm {α β : Type} {f : α → Option β} {l l' : List α} (h : l.Perm l')
    (hone : l.countP (fun a => (f a).isSome) ≤ 1) : l.findSome? f = l'.findSome? f := by
  induction h with
  | nil => rfl
  | cons a h ih =>
      rw [List.findSome?_cons, List.findSome?_cons]
      cases ha : f a with
      | none => exact ih (by simpa [List.countP_cons, ha] using hone)
      | some b => rfl
  | swap a b l =>
      simp only [List.findSome?_cons]
      cases ha : f a <;> cases hb : f b <;> simp [ha, hb] at hone ⊢
  | trans h h' ih ih' => exact (ih hone).trans (ih' (h.countP_eq _ ▸ hone))

/-! ### Readings and instants -/

namespace Reading

/-- A date that exists and a time of day. -/
def IsTime (r : Reading) : Prop := r.date.isValid ∧ r.hour < 24 ∧ r.minute < 60 ∧ r.second ≤ 60

/-- The seconds from the start of 1970 on the clock that is read; a leap second is that before it.
-/
def seconds (r : Reading) : Int :=
  r.date.dayNumber * 86400 + (r.hour * 3600 + r.minute * 60 + (r.second - r.second / 60) : Nat)

/-- The nanoseconds after these. -/
def nanosAfter (r : Reading) : Nat := r.nanos + r.second / 60 * 1000000000

/-- The instant at which a clock that is so many seconds ahead of UTC has this reading. -/
def IsAt (r : Reading) (offset : Int) (t : Instant) : Prop :=
  r.IsTime ∧ t.seconds = r.seconds - offset ∧ t.nanos = r.nanosAfter

theorem toInstant?_eq_some {r : Reading} {offset : Int} {t : Instant} :
    r.toInstant? offset = some t ↔ r.IsAt offset t := by
  simp only [toInstant?, IsAt, IsTime, Option.ite_none_right_eq_some,
    Instant.ofEpoch?_eq_some, seconds, nanosAfter]

theorem exists_isAt {r : Reading} (htime : r.IsTime) (hnanos : r.nanos < 1000000000) {offset : Int}
    (hminutes : offset % 60 = 0)
    (hfrom : Date.dayNumber ⟨Date.minYear, 1, 1⟩ * 86400 ≤ r.date.dayNumber * 86400 - offset)
    (hto : (r.date.dayNumber + 1) * 86400 - offset ≤
      (Date.dayNumber ⟨Date.maxYear, 12, 31⟩ + 1) * 86400) :
    ∃ t, r.IsAt offset t := by
  obtain ⟨-, hhour, hminute, hsecond⟩ := id htime
  have hday : r.date.dayNumber * 86400 ≤ r.seconds ∧
      r.seconds < (r.date.dayNumber + 1) * 86400 := by
    unfold seconds
    omega
  have hlt : r.nanosAfter < 2000000000 := by
    unfold nanosAfter
    omega
  have hleap : 1000000000 ≤ r.nanosAfter → (r.seconds - offset) % 60 = 59 := by
    intro hnanosAfter
    have hsixty : r.second = 60 := by
      unfold nanosAfter at hnanosAfter
      omega
    rw [seconds, hsixty]
    omega
  exact ⟨⟨r.seconds - offset, r.nanosAfter, by omega, by omega, hlt, hleap⟩, htime, rfl, rfl⟩

end Reading

theorem Fraction.lt {f : List Char} {n : Nat} (h : Fraction f n) : n < 1000000000 := by
  cases h with
  | none => decide
  | @digits ds not_empty digits =>
      have hlt := Text.ofDigits_lt (s := ds.take 9) fun c hc => digits c (List.mem_of_mem_take hc)
      have hlength : (ds.take 9).length ≤ 9 := List.length_take_le 9 ds
      calc
        nanosOf ds = Text.ofDigits (ds.take 9) * 10 ^ (9 - (ds.take 9).length) := rfl
        _ < 10 ^ (ds.take 9).length * 10 ^ (9 - (ds.take 9).length) :=
          Nat.mul_lt_mul_of_pos_right hlt (Nat.pow_pos (by decide))
        _ = 1000000000 := by rw [← Nat.pow_add, Nat.add_sub_cancel' hlength]

theorem FixedClock.year {clock : List Char} {r : Reading} (h : FixedClock clock r) :
    0 ≤ r.date.year ∧ r.date.year ≤ 9999 := by
  obtain ⟨year, -, -, -, -, -, -, -⟩ := h
  have hlt := Text.ofDigits_lt year.digits
  rw [year.value, year.length] at hlt
  dsimp only
  omega

theorem FixedClock.nanos_lt {clock : List Char} {r : Reading} (h : FixedClock clock r) :
    r.nanos < 1000000000 := by
  obtain ⟨-, -, -, -, -, -, -, fraction⟩ := h
  exact fraction.lt

theorem LooseText.nanos_lt {s : List Char} {r : Reading} (h : LooseText s r) :
    r.nanos < 1000000000 := by
  cases h with
  | clock clock =>
      obtain ⟨-, -, -, -, -, fraction⟩ := clock
      exact fraction.lt
  | date date => exact Nat.zero_lt_succ _

theorem Offset.whole_minutes {o : List Char} {seconds : Int} (h : Offset o seconds) :
    seconds % 60 = 0 ∧ seconds.natAbs < 86400 := by
  cases h with
  | utc mark => decide
  | clock sign hour minute hour_lt minute_lt => cases sign <;> omega

/-- There is an instant for every time that a clock of fixed width shows, at every offset. -/
theorem FixedClock.exists_isAt {clock o : List Char} {r : Reading} {offset : Int}
    (h : FixedClock clock r) (ho : Offset o offset) (htime : r.IsTime) : ∃ t, r.IsAt offset t := by
  obtain ⟨hfirst, hlast⟩ :=
    Date.dayNumber_of_four_digits (Date.exists_of_isValid htime.1) h.year.1 h.year.2
  obtain ⟨hminutes, hlt⟩ := ho.whole_minutes
  exact Reading.exists_isAt htime h.nanos_lt hminutes (by omega) (by omega)

theorem LooseText.exists_isAt {s : List Char} {r : Reading} (h : LooseText s r)
    (htime : r.IsTime) : ∃ t, r.IsAt 0 t := by
  obtain ⟨hfirst, hlast⟩ := Date.dayNumber_of_isValid htime.1
  exact Reading.exists_isAt htime h.nanos_lt rfl (by omega) (by omega)

/-! ### Main statement -/

theorem read?_eq_some {text : String} {t : Instant} :
    read? text = some t ↔
      (∃ clock o r offset, FixedClock clock r ∧ Offset o offset ∧ text.toList = clock ++ o ∧
        r.IsAt offset t) ∨ ∃ r, LooseText text.toList r ∧ r.IsAt 0 t := by
  have hsome : read? text = some t ↔ readZoned text.toList = some t ∨
      readDateTime text.toList = some t ∨ readDate text.toList = some t := by
    obtain ⟨hzoned, hclock⟩ := reader_alone text.toList
    rcases hzoned with hzoned | ⟨hclock, hdate⟩
    · rcases hclock with hclock | hdate
      · simp [read?, hzoned, hclock]
      · simp [read?, hzoned, hdate]
    · simp [read?, hclock, hdate]
  rw [hsome, readZoned_eq_some, readDateTime_eq_some, readDate_eq_some]
  simp only [Reading.toInstant?_eq_some]
  refine or_congr_right ⟨?_, ?_⟩
  · rintro (⟨r, hclock, ht⟩ | ⟨before, ds, date, hdate, hs, ht⟩)
    · exact ⟨r, .clock hclock, ht⟩
    · exact ⟨_, hs ▸ .date hdate, ht⟩
  · rintro ⟨r, htext, ht⟩
    generalize text.toList = s at htext ⊢
    cases htext with
    | clock clock => exact .inl ⟨r, clock, ht⟩
    | date date => exact .inr ⟨_, _, _, date, rfl, ht⟩

/-- A text with an offset is read as a clock of fixed width and this offset. -/
theorem read?_of_offset {text : String} {clock o : List Char} {offset : Int}
    (ho : Offset o offset) (htext : text.toList = clock ++ o) {t : Instant} :
    read? text = some t ↔ ∃ r, FixedClock clock r ∧ r.IsAt offset t := by
  rw [read?_eq_some]
  constructor
  · rintro (⟨clock', o', r, offset', hclock, ho', heq, ht⟩ | ⟨r, hloose, ht⟩)
    · obtain ⟨rfl, rfl⟩ := ho.unique ho' (htext.symm.trans heq)
      exact ⟨r, hclock, ht⟩
    · exact absurd htext (hloose.no_offset ho)
  · rintro ⟨r, hclock, ht⟩
    exact .inl ⟨clock, o, r, offset, hclock, ho, htext, ht⟩

/-- A text without an offset is read as a loose form in UTC. -/
theorem read?_of_no_offset {text : String}
    (h : ∀ clock o offset, Offset o offset → text.toList ≠ clock ++ o) {t : Instant} :
    read? text = some t ↔ ∃ r, LooseText text.toList r ∧ r.IsAt 0 t := by
  rw [read?_eq_some]
  constructor
  · rintro (⟨clock, o, r, offset, -, ho, htext, -⟩ | hloose)
    · exact absurd htext (h clock o offset ho)
    · exact hloose
  · exact .inr

theorem eq_none_of_forall {text : String} {p : Reading → Prop} {offset : Int}
    (hread : ∀ t, read? text = some t ↔ ∃ r, p r ∧ r.IsAt offset t)
    (hat : ∀ r, p r → r.IsTime → ∃ t, r.IsAt offset t) :
    read? text = none ↔ ∀ r, p r → ¬r.IsTime := by
  rw [Option.eq_none_iff_forall_ne_some]
  constructor
  · intro h r hr htime
    obtain ⟨t, ht⟩ := hat r hr htime
    exact h t ((hread t).mpr ⟨r, hr, ht⟩)
  · intro h t ht
    obtain ⟨r, hr, htime, -⟩ := (hread t).mp ht
    exact h r hr htime

/-- At most one of the readers accepts a text, so that whatever the order in which they are asked,
the answer is the same. A text that ends in an offset is read if what is before it is a clock of
fixed width that shows a time, and names the instant at which a clock ahead of UTC by the offset
shows it; every other text is read if it is a loose one that shows a time, on a clock in UTC. -/
theorem forms_do_not_compete (text : String) :
    readers.countP (fun read => (read text.toList).isSome) ≤ 1 ∧
      (∀ order : List (List Char → Option Instant), order.Perm readers →
        order.findSome? (· text.toList) = read? text) ∧
      (∀ clock o offset, Offset o offset → text.toList = clock ++ o →
        (∀ t, read? text = some t ↔ ∃ r, FixedClock clock r ∧ r.IsAt offset t) ∧
          (read? text = none ↔ ∀ r, FixedClock clock r → ¬r.IsTime)) ∧
      ((∀ clock o offset, Offset o offset → text.toList ≠ clock ++ o) →
        (∀ t, read? text = some t ↔ ∃ r, LooseText text.toList r ∧ r.IsAt 0 t) ∧
          (read? text = none ↔ ∀ r, LooseText text.toList r → ¬r.IsTime)) := by
  have hone := countP_readers text.toList
  refine ⟨hone, ?_, ?_, ?_⟩
  · intro order horder
    rw [read?_eq, findSome?_of_perm horder (horder.countP_eq _ ▸ hone)]
  · intro clock o offset ho htext
    have hread := fun t => read?_of_offset ho htext (t := t)
    exact ⟨hread, eq_none_of_forall hread fun r hr => hr.exists_isAt ho⟩
  · intro hno
    have hread := fun t => read?_of_no_offset hno (t := t)
    exact ⟨hread, eq_none_of_forall hread fun r hr => hr.exists_isAt⟩

theorem noon_two_hours_ahead :
    Offset "+02:00".toList 7200 ∧ ∃ t, read? "2024-05-01T12:00:00+02:00" = some t ∧
      t.seconds = 1714557600 ∧ ∃ r, FixedClock "2024-05-01T12:00:00".toList r ∧ r.IsAt 7200 t := by
  have two {ds : List Char} {n : Nat} (hdigits : ds.all Char.isDigit = true)
      (hvalue : Text.ofDigits ds = n) (hlength : ds.length = 2) : Digits 2 ds n :=
    ⟨⟨fun hnil => by simp [hnil] at hlength, List.all_eq_true.mp hdigits, hvalue⟩, hlength⟩
  have ho : Offset ('+' :: (['0', '2'] ++ ':' :: ['0', '0'])) (1 * (2 * 3600 + 0 * 60 : Nat)) :=
    .clock .plus (two (by decide) rfl rfl) (two (by decide) rfl rfl) (by decide) (by decide)
  obtain ⟨t, ht, hseconds⟩ : ∃ t, read? "2024-05-01T12:00:00+02:00" = some t ∧
      t.seconds = 1714557600 := Option.map_eq_some_iff.mp (by decide)
  obtain ⟨-, -, hoffset, -⟩ := forms_do_not_compete "2024-05-01T12:00:00+02:00"
  exact ⟨ho, t, ht, hseconds, ((hoffset "2024-05-01T12:00:00".toList _ _ ho rfl).1 t).mp ht⟩

example : (read? "2024-5-1 12:0:0").map Instant.seconds = some 1714564800 := by decide

end Timestamp

end SqlConnector
