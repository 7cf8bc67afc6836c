import Mathlib.Data.List.DropRight
import SqlConnector.Proofs.Time.Reading

/-!
What the texts of timestamps look like: a clock of fixed width with an offset from UTC behind it, or
a loose clock, or a date alone, both of them without one. Each reader accepts exactly the texts of
its form, with the date and time that stand in them.
-/

namespace SqlConnector.Timestamp

open Text (EndsDigits)

/-! ### Forms -/

/-- A number as it is written, leading zeros among its digits. -/
structure Number (ds : List Char) (n : Nat) : Prop where
  not_empty : ds ≠ []
  digits : ∀ c ∈ ds, c.isDigit = true
  value : Text.ofDigits ds = n

/-- A number of so many digits. -/
structure Digits (width : Nat) (ds : List Char) (n : Nat) : Prop extends Number ds n where
  length : ds.length = width

/-- A fraction of a second, in nanoseconds. -/
inductive Fraction : List Char → Nat → Prop where
  | none : Fraction [] 0
  | digits {ds} (not_empty : ds ≠ []) (digits : ∀ c ∈ ds, c.isDigit = true) :
      Fraction ('.' :: ds) (nanosOf ds)

/-- A clock whose numbers have a fixed count of digits. -/
inductive FixedClock : List Char → Reading → Prop where
  | mk {ys mos ds c hs mis ss f y mo d h mi s n}
      (year : Digits 4 ys y) (month : Digits 2 mos mo) (day : Digits 2 ds d)
      (mark : c = 'T' ∨ c = 't' ∨ c = ' ') (hour : Digits 2 hs h) (minute : Digits 2 mis mi)
      (second : Digits 2 ss s) (fraction : Fraction f n) :
      FixedClock
        (ys ++ '-' :: (mos ++ '-' :: (ds ++ c :: (hs ++ ':' :: (mis ++ ':' :: (ss ++ f))))))
        ⟨⟨y, mo, d⟩, h, mi, s, n⟩

/-- A sign before an offset: ahead of UTC, or behind it. -/
inductive Sign : Char → Int → Prop where
  | plus : Sign '+' 1
  | hyphen : Sign '-' (-1)
  | minus : Sign '−' (-1)

/-- An offset from UTC, in seconds. -/
inductive Offset : List Char → Int → Prop where
  | utc {c} (mark : c = 'Z' ∨ c = 'z') : Offset [c] 0
  | clock {c hs mis direction h mi} (sign : Sign c direction) (hour : Digits 2 hs h)
      (minute : Digits 2 mis mi) (hour_lt : h < 24) (minute_lt : mi < 60) :
      Offset (c :: (hs ++ ':' :: mis)) (direction * (h * 3600 + mi * 60 : Nat))

/-- A year of a loose date, of up to four digits when it has no sign. -/
inductive LooseYear : List Char → Int → Prop where
  | unsigned {ds n} (number : Number ds n) (length : ds.length ≤ 4) : LooseYear ds n
  | plus {ds n} (number : Number ds n) : LooseYear ('+' :: ds) n
  | minus {ds n} (number : Number ds n) : LooseYear ('-' :: ds) (-n)

/-- White space, and then a number of one digit or two. -/
structure LooseNumber (blanks ds : List Char) (n : Nat) : Prop extends Number ds n where
  blank : ∀ c ∈ blanks, Text.isBlank c = true
  length : ds.length ≤ 2

/-- A date, with the digits of its day apart from what is before them. -/
inductive LooseDate : List Char → List Char → Date → Prop where
  | mk {yblanks ys moblanks mos dblanks ds y mo d}
      (blank : ∀ c ∈ yblanks, Text.isBlank c = true) (year : LooseYear ys y)
      (month : LooseNumber moblanks mos mo) (day : LooseNumber dblanks ds d) :
      LooseDate (yblanks ++ (ys ++ '-' :: (moblanks ++ (mos ++ '-' :: dblanks)))) ds ⟨y, mo, d⟩

/-- A clock whose numbers may have fewer digits and white space before them. The hour may come right
after a day of two digits. -/
inductive LooseClock : List Char → Reading → Prop where
  | mk {before ds hblanks hs miblanks mis sblanks ss f d h mi s n}
      (date : LooseDate before ds d) (hour : LooseNumber hblanks hs h)
      (apart : ds.length = 2 ∨ hblanks ≠ []) (minute : LooseNumber miblanks mis mi)
      (second : LooseNumber sblanks ss s) (fraction : Fraction f n) :
      LooseClock
        (before ++ (ds ++ (hblanks ++ (hs ++ ':' :: (miblanks ++ (mis ++ ':' ::
          (sblanks ++ (ss ++ f)))))))) ⟨d, h, mi, s, n⟩

/-! ### Scanners -/

/-- What is read in the end goes on from what was read first. -/
theorem exists_of_bind_eq_some {α β : Type} {x : Option α} {f : α → Option β} {b : β}
    (h : (x >>= f) = some b) : ∃ a, x = some a ∧ f a = some b :=
  Option.bind_eq_some_iff.mp h

theorem literal_eq_some {c : Char} {s rest : List Char} :
    literal c s = some rest ↔ s = c :: rest := by
  cases s with
  | nil => simp [literal]
  | cons d s => by_cases h : d = c <;> simp [literal, h]

theorem dateTimeMark_eq_some {s rest : List Char} :
    dateTimeMark s = some rest ↔
      ∃ mark, (mark = 'T' ∨ mark = 't' ∨ mark = ' ') ∧ s = mark :: rest := by
  cases s with
  | nil => simp [dateTimeMark]
  | cons d s =>
      simp only [dateTimeMark, Option.ite_none_right_eq_some, Option.some.injEq, List.cons.injEq]
      constructor
      · rintro ⟨hmark, rfl⟩
        exact ⟨d, hmark, rfl, rfl⟩
      · rintro ⟨mark, hmark, rfl, rfl⟩
        exact ⟨hmark, rfl⟩

theorem ending_eq_some {s : List Char} {u : Unit} : ending s = some u ↔ s = [] := by
  cases s <;> simp [ending]

theorem fixedNumber_eq_some {width : Nat} (hwidth : 0 < width) {s rest : List Char} {n : Nat} :
    fixedNumber width s = some (n, rest) ↔ ∃ ds, Digits width ds n ∧ s = ds ++ rest := by
  simp only [fixedNumber, Option.ite_none_right_eq_some, Option.some.injEq, Prod.mk.injEq,
    List.all_eq_true]
  constructor
  · rintro ⟨⟨hlength, hdigits⟩, hvalue, rfl⟩
    refine ⟨s.take width, ⟨⟨?_, hdigits, hvalue⟩, hlength⟩, (List.take_append_drop width s).symm⟩
    rw [← List.length_pos_iff, hlength]
    exact hwidth
  · rintro ⟨ds, ⟨⟨-, hdigits, hvalue⟩, hlength⟩, rfl⟩
    rw [List.take_left' hlength, List.drop_left' hlength]
    exact ⟨⟨hlength, hdigits⟩, hvalue, rfl⟩

/-- A number ends where its digits end, or when it has enough of them. -/
theorem shortNumber_eq_some {width : Nat} {s rest : List Char} {n : Nat} :
    shortNumber width s = some (n, rest) ↔ ∃ ds, Number ds n ∧ ds.length ≤ width ∧
      (ds.length = width ∨ EndsDigits rest) ∧ s = ds ++ rest := by
  simp only [shortNumber, Option.ite_none_left_eq_some, Option.some.injEq, Prod.mk.injEq,
    List.isEmpty_iff]
  constructor
  · rintro ⟨hne, hvalue, rfl⟩
    obtain ⟨ds, more, hspan, htake, hdigits, hends⟩ := Text.exists_spanDigits (s.take width)
    obtain rfl : (s.take width).takeWhile Char.isDigit = ds := congrArg Prod.fst hspan
    generalize (s.take width).takeWhile Char.isDigit = ds at *
    have hs : s = ds ++ (more ++ s.drop width) := by
      rw [← List.append_assoc, ← htake, List.take_append_drop]
    have hdrop : s.drop ds.length = more ++ s.drop width := by
      conv_lhs => rw [hs]
      exact List.drop_left
    have hlength : ds.length + more.length = min width s.length := by
      rw [← List.length_append, ← htake, List.length_take]
    refine ⟨ds, ⟨hne, hdigits, hvalue⟩, by omega, ?_, by rw [hdrop]; exact hs⟩
    rw [hdrop]
    cases more with
    | nil =>
        -- all that was taken are digits: there are enough of them, or the text is over
        rcases Nat.lt_or_ge s.length width with hlt | hge
        · rw [List.nil_append, List.drop_of_length_le (Nat.le_of_lt hlt)]
          exact .inr Text.endsDigits_nil
        · rw [List.length_nil] at hlength
          exact .inl (by omega)
    | cons c more => exact .inr (Text.endsDigits_cons.mpr (Text.endsDigits_cons.mp hends))
  · rintro ⟨ds, ⟨hne, hdigits, hvalue⟩, hlength, hends, rfl⟩
    have hends : EndsDigits (rest.take (width - ds.length)) := by
      rcases hends with hfull | hends
      · rw [hfull, Nat.sub_self, List.take_zero]
        exact Text.endsDigits_nil
      · intro c hc
        rw [List.head?_take] at hc
        split at hc
        · contradiction
        · exact hends c hc
    have hspan : ((ds ++ rest).take width).takeWhile Char.isDigit = ds := by
      rw [List.take_append, List.take_of_length_le hlength]
      exact congrArg Prod.fst (Text.spanDigits_append hdigits hends)
    rw [hspan, List.drop_left]
    exact ⟨hne, hvalue, rfl⟩

theorem longNumber_eq_some {s rest : List Char} {n : Nat} :
    longNumber s = some (n, rest) ↔ ∃ ds, Number ds n ∧ EndsDigits rest ∧ s = ds ++ rest := by
  simp only [longNumber, Option.ite_none_left_eq_some, Option.some.injEq, Prod.mk.injEq,
    List.isEmpty_iff]
  constructor
  · rintro ⟨hne, hvalue, rfl⟩
    obtain ⟨ds, more, hspan, hs, hdigits, hends⟩ := Text.exists_spanDigits s
    rw [hspan] at hne hvalue ⊢
    exact ⟨ds, ⟨hne, hdigits, hvalue⟩, hends, hs⟩
  · rintro ⟨ds, ⟨hne, hdigits, hvalue⟩, hends, rfl⟩
    rw [Text.spanDigits_append hdigits hends]
    exact ⟨hne, hvalue, rfl⟩

/-- A fraction is read if there is one, up to the end of its digits. -/
theorem fraction_eq_some {s rest : List Char} {n : Nat} :
    fraction s = some (n, rest) ↔ ∃ f, Fraction f n ∧ (f = [] → rest.head? ≠ some '.') ∧
      (f ≠ [] → EndsDigits rest) ∧ s = f ++ rest := by
  rw [fraction.eq_def]
  split
  · next s =>
      simp only [Option.ite_none_left_eq_some, Option.some.injEq, Prod.mk.injEq, List.isEmpty_iff]
      constructor
      · rintro ⟨hne, rfl, rfl⟩
        obtain ⟨ds, more, hspan, hs, hdigits, hends⟩ := Text.exists_spanDigits s
        rw [hspan] at hne ⊢
        exact ⟨_, .digits hne hdigits, by simp, fun _ => hends, by rw [hs, List.cons_append]⟩
      · rintro ⟨f, hf, hpoint, hends, hs⟩
        cases hf with
        | none =>
            rw [List.nil_append] at hs
            exact absurd (by rw [← hs]; rfl) (hpoint rfl)
        | @digits ds not_empty digits =>
            obtain rfl : s = ds ++ rest := (List.cons.inj hs).2
            rw [Text.spanDigits_append digits (hends (by simp))]
            exact ⟨not_empty, rfl, rfl⟩
  · next hnone =>
      simp only [Option.some.injEq, Prod.mk.injEq]
      constructor
      · rintro ⟨rfl, rfl⟩
        refine ⟨[], .none, fun _ hpoint => ?_, by simp, rfl⟩
        obtain ⟨s, rfl⟩ := List.head?_eq_some_iff.mp hpoint
        exact hnone s rfl
      · rintro ⟨f, hf, -, -, rfl⟩
        cases hf with
        | none => exact ⟨rfl, rfl⟩
        | digits _ _ => exact absurd rfl (hnone _)

theorem sign_eq_some {s rest : List Char} {direction : Int} :
    sign s = some (direction, rest) ↔ ∃ c, Sign c direction ∧ s = c :: rest := by
  constructor
  · intro h
    unfold sign at h
    split at h
    · cases h
      exact ⟨_, .plus, rfl⟩
    · cases h
      exact ⟨_, .hyphen, rfl⟩
    · cases h
      exact ⟨_, .minus, rfl⟩
    · contradiction
  · rintro ⟨c, hsign, rfl⟩
    cases hsign <;> rfl

theorem Sign.not_utc {c : Char} {direction : Int} (h : Sign c direction) : c ≠ 'Z' ∧ c ≠ 'z' := by
  cases h <;> decide

theorem zoneOffset_eq_some {s rest : List Char} {seconds : Int} :
    zoneOffset s = some (seconds, rest) ↔ ∃ o, Offset o seconds ∧ s = o ++ rest := by
  have htwo : 0 < 2 := by decide
  constructor
  · intro h
    rw [zoneOffset.eq_def] at h
    split at h
    · cases h
      exact ⟨_, .utc (.inl rfl), rfl⟩
    · cases h
      exact ⟨_, .utc (.inr rfl), rfl⟩
    · simp only [Option.bind_eq_bind, Option.bind_eq_some_iff, Prod.exists, sign_eq_some,
        fixedNumber_eq_some htwo, literal_eq_some, Option.ite_none_right_eq_some,
        Option.some.injEq, Prod.mk.injEq] at h
      obtain ⟨direction, _, ⟨c, hsign, rfl⟩, h, _, ⟨hs, hour, rfl⟩, _, rfl, mi, _,
        ⟨mis, minute, rfl⟩, ⟨hour_lt, minute_lt⟩, rfl, rfl⟩ := h
      exact ⟨_, .clock hsign hour minute hour_lt minute_lt, by simp⟩
  · rintro ⟨o, ho, rfl⟩
    cases ho with
    | utc mark => rcases mark with rfl | rfl <;> rfl
    | @clock c hs mis direction h mi hsign hour minute hour_lt minute_lt =>
        rw [List.cons_append, List.append_assoc, List.cons_append, zoneOffset.eq_def]
        split
        · next h => exact absurd (List.cons.inj h).1 hsign.not_utc.1
        · next h => exact absurd (List.cons.inj h).1 hsign.not_utc.2
        · refine (bind_of_eq_some (sign_eq_some.mpr ⟨c, hsign, rfl⟩) _).trans ?_
          refine (bind_of_eq_some ((fixedNumber_eq_some htwo).mpr ⟨hs, hour, rfl⟩) _).trans ?_
          refine (bind_of_eq_some (literal_cons ':' _) _).trans ?_
          refine (bind_of_eq_some ((fixedNumber_eq_some htwo).mpr ⟨mis, minute, rfl⟩) _).trans ?_
          exact if_pos ⟨hour_lt, minute_lt⟩

/-- White space before a number is passed over. -/
theorem looseNumber_eq_some {s rest : List Char} {n : Nat} :
    looseNumber s = some (n, rest) ↔ ∃ blanks ds, LooseNumber blanks ds n ∧
      (ds.length = 2 ∨ EndsDigits rest) ∧ s = blanks ++ (ds ++ rest) := by
  rw [looseNumber, shortNumber_eq_some]
  constructor
  · rintro ⟨ds, hnumber, hlength, hends, hs⟩
    refine ⟨s.takeWhile Text.isBlank, ds, ⟨hnumber, ?_, hlength⟩, hends, ?_⟩
    · intro c hc
      exact List.mem_takeWhile_imp hc
    · rw [← hs, Text.trimStart, List.takeWhile_append_dropWhile]
  · rintro ⟨blanks, ds, hnumber, hends, rfl⟩
    refine ⟨ds, hnumber.toNumber, hnumber.length, hends, ?_⟩
    rw [Text.trimStart, List.dropWhile_append_of_pos hnumber.blank]
    exact trimStart_append hnumber.not_empty hnumber.digits rest

theorem looseNumber_trimStart (s : List Char) : looseNumber (Text.trimStart s) = looseNumber s := by
  simp only [looseNumber, Text.trimStart, List.dropWhile_idempotent Text.isBlank]

/-- A year without a sign begins with a digit. -/
theorem looseYear_of_unsigned {ds rest : List Char} (hne : ds ≠ [])
    (hdigits : ∀ c ∈ ds, c.isDigit = true) :
    looseYear (ds ++ rest) =
      (shortNumber 4 (ds ++ rest)).map fun (n, rest) => ((n : Int), rest) := by
  obtain ⟨c, ds, rfl⟩ := List.exists_cons_of_ne_nil hne
  have hc : c.isDigit = true := hdigits c List.mem_cons_self
  rw [looseYear, trimStart_append hne hdigits]
  split
  · next h => exact absurd ((List.cons.inj h).1 ▸ hc) (by decide)
  · next h => exact absurd ((List.cons.inj h).1 ▸ hc) (by decide)
  · rfl

theorem looseYear_trimStart (s : List Char) : looseYear (Text.trimStart s) = looseYear s := by
  simp only [looseYear, Text.trimStart, List.dropWhile_idempotent Text.isBlank]

theorem looseYear_eq_some {s rest : List Char} (hrest : EndsDigits rest) {year : Int} :
    looseYear s = some (year, rest) ↔ ∃ blanks ys, (∀ c ∈ blanks, Text.isBlank c = true) ∧
      LooseYear ys year ∧ s = blanks ++ (ys ++ rest) := by
  constructor
  · intro h
    -- the blanks apart, by the first character of what is left
    have hs : s = s.takeWhile Text.isBlank ++ Text.trimStart s :=
      List.takeWhile_append_dropWhile.symm
    obtain ⟨ys, hyear, htrim⟩ : ∃ ys, LooseYear ys year ∧ Text.trimStart s = ys ++ rest := by
      unfold looseYear at h
      split at h
      · next s hs =>
          simp only [Option.map_eq_some_iff, Prod.exists, longNumber_eq_some, Prod.mk.injEq] at h
          obtain ⟨n, _, ⟨ds, hnumber, -, rfl⟩, rfl, rfl⟩ := h
          exact ⟨_, .minus hnumber, hs⟩
      · next s hs =>
          simp only [Option.map_eq_some_iff, Prod.exists, longNumber_eq_some, Prod.mk.injEq] at h
          obtain ⟨n, _, ⟨ds, hnumber, -, rfl⟩, rfl, rfl⟩ := h
          exact ⟨_, .plus hnumber, hs⟩
      · simp only [Option.map_eq_some_iff, Prod.exists, shortNumber_eq_some, Prod.mk.injEq] at h
        obtain ⟨n, _, ⟨ds, hnumber, hlength, -, hs⟩, rfl, rfl⟩ := h
        exact ⟨ds, .unsigned hnumber hlength, hs⟩
    refine ⟨s.takeWhile Text.isBlank, ys, fun c hc => List.mem_takeWhile_imp hc, hyear, ?_⟩
    rw [← htrim]
    exact hs
  · rintro ⟨blanks, ys, hblank, hyear, rfl⟩
    rw [← looseYear_trimStart, Text.trimStart, List.dropWhile_append_of_pos hblank,
      ← Text.trimStart, looseYear_trimStart]
    cases hyear with
    | unsigned number length =>
        rw [looseYear_of_unsigned number.not_empty number.digits,
          shortNumber_eq_some.mpr ⟨ys, number, length, .inr hrest, rfl⟩]
        rfl
    | @plus ds n number =>
        rw [List.cons_append, looseYear, trimStart_of_not_blank rfl]
        simp only [longNumber_eq_some.mpr ⟨ds, number, hrest, rfl⟩, Option.map_some]
    | @minus ds n number =>
        rw [List.cons_append, looseYear, trimStart_of_not_blank rfl]
        simp only [longNumber_eq_some.mpr ⟨ds, number, hrest, rfl⟩, Option.map_some]

theorem looseDate_eq_some {s rest : List Char} {date : Date} :
    looseDate s = some (date, rest) ↔ ∃ before ds, LooseDate before ds date ∧
      (ds.length = 2 ∨ EndsDigits rest) ∧ s = before ++ (ds ++ rest) := by
  have hmark (s : List Char) : EndsDigits ('-' :: s) := Text.endsDigits_cons.mpr rfl
  constructor
  · intro h
    simp only [looseDate, Option.bind_eq_bind, Option.bind_eq_some_iff, Prod.exists,
      literal_eq_some, looseNumber_eq_some] at h
    obtain ⟨y, _, hy, _, rfl, mo, _, ⟨moblanks, mos, month, -, rfl⟩, _, rfl, d, _,
      ⟨dblanks, ds, day, hends, rfl⟩, h⟩ := h
    obtain ⟨yblanks, ys, hblank, year, rfl⟩ := (looseYear_eq_some (hmark _)).mp hy
    cases h
    exact ⟨_, ds, .mk hblank year month day, hends, by simp⟩
  · rintro ⟨before, ds, hdate, hends, rfl⟩
    obtain ⟨hblank, year, month, day⟩ := hdate
    have hassoc {a b c : List Char} {x : Char} (e f g : List Char) :
        a ++ (b ++ x :: (c ++ (e ++ x :: f))) ++ g = a ++ (b ++ x :: (c ++ (e ++ x :: (f ++ g)))) := by
      simp
    rw [hassoc]
    refine (bind_of_eq_some ((looseYear_eq_some (hmark _)).mpr ⟨_, _, hblank, year, rfl⟩) _).trans ?_
    refine (bind_of_eq_some (literal_cons '-' _) _).trans ?_
    refine (bind_of_eq_some
      (looseNumber_eq_some.mpr ⟨_, _, month, .inr (hmark _), rfl⟩) _).trans ?_
    refine (bind_of_eq_some (literal_cons '-' _) _).trans ?_
    exact bind_of_eq_some (looseNumber_eq_some.mpr ⟨_, _, day, hends, rfl⟩) _

/-! ### Readers -/

theorem Offset.endsDigits {o : List Char} {seconds : Int} (h : Offset o seconds) :
    EndsDigits o ∧ o.head? ≠ some '.' := by
  cases h with
  | utc mark => rcases mark with rfl | rfl <;> exact ⟨Text.endsDigits_cons.mpr rfl, by simp⟩
  | clock sign hour minute hour_lt minute_lt =>
      cases sign <;> exact ⟨Text.endsDigits_cons.mpr rfl, by simp⟩

theorem readZoned_eq_some {s : List Char} {t : Instant} :
    readZoned s = some t ↔ ∃ clock o r seconds, FixedClock clock r ∧ Offset o seconds ∧
      s = clock ++ o ∧ r.toInstant? seconds = some t := by
  have hfour : 0 < 4 := by decide
  have htwo : 0 < 2 := by decide
  constructor
  · intro h
    -- first the scanners one after the other, then what each of them has read
    obtain ⟨⟨y, s₁⟩, hyear, h₁⟩ := exists_of_bind_eq_some h
    obtain ⟨s₂, hhyphen, h₂⟩ := exists_of_bind_eq_some h₁
    obtain ⟨⟨mo, s₃⟩, hmonth, h₃⟩ := exists_of_bind_eq_some h₂
    obtain ⟨s₄, hhyphen', h₄⟩ := exists_of_bind_eq_some h₃
    obtain ⟨⟨d, s₅⟩, hday, h₅⟩ := exists_of_bind_eq_some h₄
    obtain ⟨s₆, hmark, h₆⟩ := exists_of_bind_eq_some h₅
    obtain ⟨⟨hh, s₇⟩, hhour, h₇⟩ := exists_of_bind_eq_some h₆
    obtain ⟨s₈, hcolon, h₈⟩ := exists_of_bind_eq_some h₇
    obtain ⟨⟨mi, s₉⟩, hminute, h₉⟩ := exists_of_bind_eq_some h₈
    obtain ⟨s₁₀, hcolon', h₁₀⟩ := exists_of_bind_eq_some h₉
    obtain ⟨⟨sec, s₁₁⟩, hsecond, h₁₁⟩ := exists_of_bind_eq_some h₁₀
    obtain ⟨⟨n, s₁₂⟩, hfraction, h₁₂⟩ := exists_of_bind_eq_some h₁₁
    obtain ⟨⟨seconds, s₁₃⟩, hoffset, h₁₃⟩ := exists_of_bind_eq_some h₁₂
    obtain ⟨_, hending, ht⟩ := exists_of_bind_eq_some h₁₃
    clear h h₁ h₂ h₃ h₄ h₅ h₆ h₇ h₈ h₉ h₁₀ h₁₁ h₁₂ h₁₃
    obtain ⟨ys, year, rfl⟩ := (fixedNumber_eq_some hfour).mp hyear
    obtain rfl := literal_eq_some.mp hhyphen
    obtain ⟨mos, month, rfl⟩ := (fixedNumber_eq_some htwo).mp hmonth
    obtain rfl := literal_eq_some.mp hhyphen'
    obtain ⟨ds, day, rfl⟩ := (fixedNumber_eq_some htwo).mp hday
    obtain ⟨c, mark, rfl⟩ := dateTimeMark_eq_some.mp hmark
    obtain ⟨hs, hour, rfl⟩ := (fixedNumber_eq_some htwo).mp hhour
    obtain rfl := literal_eq_some.mp hcolon
    obtain ⟨mis, minute, rfl⟩ := (fixedNumber_eq_some htwo).mp hminute
    obtain rfl := literal_eq_some.mp hcolon'
    obtain ⟨ss, second, rfl⟩ := (fixedNumber_eq_some htwo).mp hsecond
    obtain ⟨f, fraction, -, -, rfl⟩ := fraction_eq_some.mp hfraction
    obtain ⟨o, offset, rfl⟩ := zoneOffset_eq_some.mp hoffset
    obtain rfl := ending_eq_some.mp hending
    exact ⟨_, o, _, seconds, .mk year month day mark hour minute second fraction, offset,
      by simp, ht⟩
  · rintro ⟨clock, o, r, seconds, hclock, offset, rfl, ht⟩
    obtain @⟨ys, mos, ds, c, hs, mis, ss, f, y, mo, d, h, mi, sec, n, year, month, day, mark, hour,
      minute, second, hfraction⟩ := hclock
    have hsplit : ys ++ '-' :: (mos ++ '-' :: (ds ++ c :: (hs ++ ':' :: (mis ++ ':' ::
        (ss ++ f))))) ++ o = ys ++ '-' :: (mos ++ '-' :: (ds ++ c :: (hs ++ ':' :: (mis ++ ':' ::
        (ss ++ (f ++ (o ++ []))))))) := by
      simp
    rw [hsplit]
    refine (bind_of_eq_some ((fixedNumber_eq_some hfour).mpr ⟨ys, year, rfl⟩) _).trans ?_
    refine (bind_of_eq_some (literal_cons '-' _) _).trans ?_
    refine (bind_of_eq_some ((fixedNumber_eq_some htwo).mpr ⟨mos, month, rfl⟩) _).trans ?_
    refine (bind_of_eq_some (literal_cons '-' _) _).trans ?_
    refine (bind_of_eq_some ((fixedNumber_eq_some htwo).mpr ⟨ds, day, rfl⟩) _).trans ?_
    refine (bind_of_eq_some (dateTimeMark_eq_some.mpr ⟨c, mark, rfl⟩) _).trans ?_
    refine (bind_of_eq_some ((fixedNumber_eq_some htwo).mpr ⟨hs, hour, rfl⟩) _).trans ?_
    refine (bind_of_eq_some (literal_cons ':' _) _).trans ?_
    refine (bind_of_eq_some ((fixedNumber_eq_some htwo).mpr ⟨mis, minute, rfl⟩) _).trans ?_
    refine (bind_of_eq_some (literal_cons ':' _) _).trans ?_
    refine (bind_of_eq_some ((fixedNumber_eq_some htwo).mpr ⟨ss, second, rfl⟩) _).trans ?_
    obtain ⟨hends, hpoint⟩ := offset.endsDigits
    rw [List.append_nil]
    refine (bind_of_eq_some
      (fraction_eq_some.mpr ⟨f, hfraction, fun _ => hpoint, fun _ => hends, rfl⟩) _).trans ?_
    refine (bind_of_eq_some (zoneOffset_eq_some.mpr ⟨o, offset, (List.append_nil o).symm⟩) _).trans ?_
    exact (bind_of_eq_some (show ending [] = some () from rfl) _).trans ht

/-- What follows a day ends its digits unless it goes on with the digits of an hour. -/
theorem LooseNumber.apart {blanks ds rest : List Char} {n : Nat} (h : LooseNumber blanks ds n) :
    EndsDigits (blanks ++ (ds ++ rest)) ↔ blanks ≠ [] := by
  cases blanks with
  | nil =>
      obtain ⟨c, ds, rfl⟩ := List.exists_cons_of_ne_nil h.not_empty
      simp [Text.endsDigits_cons, h.digits c List.mem_cons_self]
  | cons c blanks =>
      have hc := h.blank c List.mem_cons_self
      simp only [List.cons_append, Text.endsDigits_cons, ne_eq, reduceCtorEq, not_false_eq_true,
        iff_true]
      by_contra hdigit
      rw [isBlank_of_isDigit (by simpa using hdigit)] at hc
      contradiction

theorem readDateTime_eq_some {s : List Char} {t : Instant} :
    readDateTime s = some t ↔ ∃ r, LooseClock s r ∧ r.toInstant? 0 = some t := by
  have hcolon (s : List Char) : EndsDigits (':' :: s) := Text.endsDigits_cons.mpr rfl
  constructor
  · intro h
    simp only [readDateTime, looseNumber_trimStart, Option.bind_eq_bind, Option.bind_eq_some_iff,
      Prod.exists, looseDate_eq_some, looseNumber_eq_some, literal_eq_some, fraction_eq_some,
      ending_eq_some] at h
    obtain ⟨date, _, ⟨before, ds, hdate, hends, rfl⟩, h, _, ⟨hblanks, hs, hour, -, rfl⟩, _, rfl,
      mi, _, ⟨miblanks, mis, minute, -, rfl⟩, _, rfl, sec, _, ⟨sblanks, ss, second, -, rfl⟩, n, _,
      ⟨f, fraction, -, -, rfl⟩, _, rfl, ht⟩ := h
    refine ⟨_, ?_, ht⟩
    rw [List.append_nil]
    exact .mk hdate hour (hends.imp_right hour.apart.mp) minute second fraction
  · rintro ⟨r, hclock, ht⟩
    obtain @⟨before, ds, hblanks, hs, miblanks, mis, sblanks, ss, f, d, h, mi, sec, n, hdate, hour,
      apart, minute, second, hfraction⟩ := hclock
    refine (bind_of_eq_some (looseDate_eq_some.mpr
      ⟨_, _, hdate, apart.imp_right hour.apart.mpr, rfl⟩) _).trans ?_
    refine (bind_of_eq_some ((looseNumber_trimStart _).trans
      (looseNumber_eq_some.mpr ⟨_, _, hour, .inr (hcolon _), rfl⟩)) _).trans ?_
    refine (bind_of_eq_some (literal_cons ':' _) _).trans ?_
    refine (bind_of_eq_some
      (looseNumber_eq_some.mpr ⟨_, _, minute, .inr (hcolon _), rfl⟩) _).trans ?_
    refine (bind_of_eq_some (literal_cons ':' _) _).trans ?_
    have hends : EndsDigits f := by
      cases hfraction with
      | none => exact Text.endsDigits_nil
      | digits _ _ => exact Text.endsDigits_cons.mpr rfl
    refine (bind_of_eq_some
      (looseNumber_eq_some.mpr ⟨_, _, second, .inr hends, rfl⟩) _).trans ?_
    refine (bind_of_eq_some (fraction_eq_some.mpr ⟨f, hfraction, by simp,
      fun _ => Text.endsDigits_nil, (List.append_nil f).symm⟩) _).trans ?_
    exact (bind_of_eq_some (show ending [] = some () from rfl) _).trans ht

theorem readDate_eq_some {s : List Char} {t : Instant} :
    readDate s = some t ↔ ∃ before ds date, LooseDate before ds date ∧ s = before ++ ds ∧
      Reading.toInstant? ⟨date, 0, 0, 0, 0⟩ 0 = some t := by
  constructor
  · intro h
    simp only [readDate, Option.bind_eq_bind, Option.bind_eq_some_iff, Prod.exists,
      looseDate_eq_some, ending_eq_some] at h
    obtain ⟨date, _, ⟨before, ds, hdate, -, rfl⟩, _, rfl, ht⟩ := h
    exact ⟨before, ds, date, hdate, by rw [List.append_nil], ht⟩
  · rintro ⟨before, ds, date, hdate, rfl, ht⟩
    refine (bind_of_eq_some (looseDate_eq_some.mpr
      ⟨before, ds, hdate, .inr Text.endsDigits_nil, by rw [List.append_nil]⟩) _).trans ?_
    exact (bind_of_eq_some (show ending [] = some () from rfl) _).trans ht

end SqlConnector.Timestamp
