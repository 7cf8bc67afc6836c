import SqlConnector.Proofs.Text.Numeral
import SqlConnector.Time.Duration

/-!
How durations are written: numbers under the units of a date and of a time of day, any of them left
out, or a number of weeks. Reading accepts these texts, with the numbers as they are written, and no
others; that all numbers are zero is told apart from a text of another form.
-/

namespace SqlConnector.Duration

open Text (EndsDigits)

/-! ### Forms -/

/-- A number as it is written: one or more digits, leading zeros among them. -/
structure Numeral (n : UInt32) (ds : List Char) : Prop where
  not_empty : ds ≠ []
  digits : ∀ c ∈ ds, c.isDigit = true
  value : Text.ofDigits ds = n.toNat

/-- Numbers under the given units, in the order of these. A number that is left out is zero. -/
inductive Parts : List Char → List UInt32 → List Char → Prop where
  | nil : Parts [] [] []
  | absent {unit units ns s} (rest : Parts units ns s) : Parts (unit :: units) (0 :: ns) s
  | written {unit units n ds ns s} (number : Numeral n ds) (rest : Parts units ns s) :
      Parts (unit :: units) (n :: ns) (ds ++ unit :: s)

def dateUnits : List Char := ['Y', 'M', 'D']

def timeUnits : List Char := ['H', 'M', 'S']

theorem dateUnits_not_digits : ∀ c ∈ dateUnits, c.isDigit = false := by simp [dateUnits]

theorem timeUnits_not_digits : ∀ c ∈ timeUnits, c.isDigit = false := by simp [timeUnits]

/-- The texts of the given spans. Something is written after the `P`, and after the `T`. -/
inductive Form : Spans → List Char → Prop where
  | weeks {n ds} (number : Numeral n ds) : Form (.weeks n) ('P' :: ds ++ ['W'])
  | signedWeeks {n ds} (number : Numeral n ds) : Form (.weeks n) ('P' :: '+' :: ds ++ ['W'])
  | date {year month day s} (parts : Parts dateUnits [year, month, day] s) (not_empty : s ≠ []) :
      Form ⟨year, month, 0, day, 0, 0, 0⟩ ('P' :: s)
  | dateTime {year month day hour minute second s t}
      (date : Parts dateUnits [year, month, day] s)
      (time : Parts timeUnits [hour, minute, second] t) (not_empty : t ≠ []) :
      Form ⟨year, month, 0, day, hour, minute, second⟩ ('P' :: s ++ 'T' :: t)

/-! ### Numbers -/

theorem Numeral.isNumeral {n : UInt32} {ds : List Char} (h : Numeral n ds) :
    Text.isNumeral ds = true :=
  Text.isNumeral_iff.mpr ⟨h.not_empty, h.digits⟩

theorem map_unsigned?_eq_some {n : UInt32} {ds : List Char} :
    (Text.unsigned? UInt32.size ds).map UInt32.ofNat = some n ↔ Numeral n ds := by
  rw [Option.map_eq_some_iff]
  constructor
  · rintro ⟨v, hv, rfl⟩
    obtain ⟨hnumeral, hvalue, hlt⟩ := Text.unsigned?_eq_some.mp hv
    obtain ⟨hne, hdigits⟩ := Text.isNumeral_iff.mp hnumeral
    exact ⟨hne, hdigits, by rw [hvalue, UInt32.toNat_ofNat_of_lt' hlt]⟩
  · intro h
    refine ⟨n.toNat, ?_, UInt32.ofNat_toNat⟩
    exact Text.unsigned?_eq_some.mpr ⟨h.isNumeral, h.value, n.toNat_lt⟩

/-- A sign is accepted before the number of weeks, and nowhere else. -/
theorem readWeeks_eq_some {s : List Char} {spans : Spans} :
    readWeeks s = some spans ↔
      ∃ n ds, Numeral n ds ∧ spans = .weeks n ∧ (s = ds ∨ s = '+' :: ds) := by
  rw [readWeeks, Option.map_eq_some_iff]
  simp only [Text.plusUnsigned?_eq_some]
  constructor
  · rintro ⟨v, ⟨ds, hs, hv⟩, rfl⟩
    have hn := map_unsigned?_eq_some.mp (Option.map_eq_some_iff.mpr ⟨v, hv, rfl⟩)
    exact ⟨UInt32.ofNat v, ds, hn, rfl, hs⟩
  · rintro ⟨n, ds, hn, rfl, hs⟩
    obtain ⟨v, hv, rfl⟩ := Option.map_eq_some_iff.mp (map_unsigned?_eq_some.mpr hn)
    exact ⟨v, ⟨ds, hs, hv⟩, rfl⟩

/-! ### Units -/

section Units

variable {unit : Char} {units : List Char}

theorem readUnits_of_number {ds : List Char} (hds : ∀ c ∈ ds, c.isDigit = true)
    (hunit : unit.isDigit = false) (s : List Char) :
    readUnits (unit :: units) (ds ++ unit :: s) =
      ((Text.unsigned? UInt32.size ds).map UInt32.ofNat).bind fun n =>
        (readUnits units s).map (n :: ·) := by
  rw [readUnits, Text.spanDigits_append hds (Text.endsDigits_cons.mpr hunit)]
  simp only [if_true]
  generalize Text.unsigned? UInt32.size ds = number
  generalize readUnits units s = others
  cases number <;> cases others <;> rfl

theorem readUnits_of_absent {s : List Char}
    (h : ∀ ds rest, (∀ c ∈ ds, c.isDigit = true) → s ≠ ds ++ unit :: rest) :
    readUnits (unit :: units) s = (readUnits units s).map (0 :: ·) := by
  obtain ⟨ds, rest, hspan, hs, hds, -⟩ := Text.exists_spanDigits s
  rw [readUnits, hspan]
  cases rest with
  | nil => rfl
  | cons c rest =>
      have hc : c ≠ unit := by
        rintro rfl
        exact h ds rest hds hs
      simp [hc]

/-- The first unit that is written is one of those that may be. -/
theorem Parts.ne_of_not_mem {ns : List UInt32} {s ds rest : List Char} (h : Parts units ns s)
    (hunits : ∀ c ∈ units, c.isDigit = false) (hunit : unit.isDigit = false)
    (hmem : unit ∉ units) (hds : ∀ c ∈ ds, c.isDigit = true) : s ≠ ds ++ unit :: rest := by
  induction h with
  | nil => simp
  | absent _ ih =>
      rw [List.mem_cons, not_or] at hmem
      exact ih (fun c hc => hunits c (List.mem_cons_of_mem _ hc)) hmem.2
  | @written u _ _ es _ t number _ _ =>
      rw [List.mem_cons, not_or] at hmem
      intro heq
      -- the leading digits are the same on both sides, and so is the unit after them
      have hends : EndsDigits (_ :: rest) := Text.endsDigits_cons.mpr hunit
      have hspan := Text.spanDigits_append hds hends
      rw [← heq, Text.spanDigits_append number.digits
        (Text.endsDigits_cons.mpr (hunits u List.mem_cons_self))] at hspan
      exact hmem.1 (by simpa using (congrArg (·.2.head?) hspan).symm)

theorem readUnits_eq_some {ns : List UInt32} {s : List Char}
    (hunits : ∀ c ∈ units, c.isDigit = false) (hnodup : units.Nodup) :
    readUnits units s = some ns ↔ Parts units ns s := by
  constructor
  · -- on the units, by whether the first of them is written
    intro h
    induction units generalizing ns s with
    | nil =>
        simp only [readUnits, List.isEmpty_iff] at h
        split at h
        · next hs =>
            rw [← Option.some.inj h, hs]
            exact .nil
        · cases h
    | cons unit units ih =>
        have hrest := fun c hc => hunits c (List.mem_cons_of_mem unit hc)
        have hnodup := (List.nodup_cons.mp hnodup).2
        by_cases hwritten : ∃ ds rest, (∀ c ∈ ds, c.isDigit = true) ∧ s = ds ++ unit :: rest
        · obtain ⟨ds, rest, hds, rfl⟩ := hwritten
          rw [readUnits_of_number hds (hunits unit List.mem_cons_self),
            Option.bind_eq_some_iff] at h
          obtain ⟨n, hn, h⟩ := h
          obtain ⟨ms, hms, rfl⟩ := Option.map_eq_some_iff.mp h
          exact .written (map_unsigned?_eq_some.mp hn) (ih hrest hnodup hms)
        · rw [readUnits_of_absent fun ds rest hds hs => hwritten ⟨ds, rest, hds, hs⟩] at h
          obtain ⟨ms, hms, rfl⟩ := Option.map_eq_some_iff.mp h
          exact .absent (ih hrest hnodup hms)
  · intro h
    induction h with
    | nil => rfl
    | absent rest ih =>
        have hrest := fun c hc => hunits c (List.mem_cons_of_mem _ hc)
        obtain ⟨hmem, hnodup⟩ := List.nodup_cons.mp hnodup
        rw [readUnits_of_absent fun ds t hds => rest.ne_of_not_mem hrest
          (hunits _ List.mem_cons_self) hmem hds, ih hrest hnodup]
        rfl
    | written number rest ih =>
        rw [readUnits_of_number number.digits (hunits _ List.mem_cons_self),
          map_unsigned?_eq_some.mpr number,
          ih (fun c hc => hunits c (List.mem_cons_of_mem _ hc)) (List.nodup_cons.mp hnodup).2]
        rfl

/-- All that is written are digits and units. -/
theorem Parts.not_mem {ns : List UInt32} {s : List Char} (h : Parts units ns s) {c : Char}
    (hdigit : c.isDigit = false) (hunit : c ∉ units) : c ∉ s := by
  induction h with
  | nil => exact List.not_mem_nil
  | absent _ ih =>
      rw [List.mem_cons, not_or] at hunit
      exact ih hunit.2
  | written number _ ih =>
      rw [List.mem_cons, not_or] at hunit
      rw [List.mem_append, List.mem_cons, not_or, not_or]
      refine ⟨fun hc => ?_, hunit.1, ih hunit.2⟩
      rw [number.digits c hc] at hdigit
      contradiction

/-- The last thing written is a unit. -/
theorem Parts.mem_of_getLast? {ns : List UInt32} {s : List Char} (h : Parts units ns s) {c : Char}
    (hc : c ∈ s.getLast?) : c ∈ units := by
  induction h with
  | nil => contradiction
  | absent _ ih => exact List.mem_cons_of_mem _ (ih hc)
  | @written u _ _ ds _ t number rest ih =>
      rw [List.getLast?_append_cons] at hc
      cases t with
      | nil =>
          obtain rfl : u = c := by simpa using hc
          exact List.mem_cons_self
      | cons d t =>
          rw [List.getLast?_cons_cons] at hc
          exact List.mem_cons_of_mem _ (ih hc)

end Units

/-- A section of a text is read as the numbers under its three units. -/
theorem readThree_eq_some {units s : List Char} (hunits : ∀ c ∈ units, c.isDigit = false)
    (hnodup : units.Nodup) {meaning : UInt32 → UInt32 → UInt32 → Spans} {spans : Spans} :
    (match readUnits units s with
      | some [a, b, c] => some (meaning a b c)
      | _ => none) = some spans ↔ ∃ a b c, Parts units [a, b, c] s ∧ spans = meaning a b c := by
  constructor
  · intro h
    split at h
    · next a b c hread =>
        exact ⟨a, b, c, (readUnits_eq_some hunits hnodup).mp hread, (Option.some.inj h).symm⟩
    · contradiction
  · rintro ⟨a, b, c, hparts, rfl⟩
    rw [(readUnits_eq_some hunits hnodup).mpr hparts]

theorem readDate_eq_some {s : List Char} {spans : Spans} :
    readDate s = some spans ↔ ∃ year month day, Parts dateUnits [year, month, day] s ∧
      spans = ⟨year, month, 0, day, 0, 0, 0⟩ :=
  readThree_eq_some dateUnits_not_digits (by decide)

theorem readTime_eq_some {date spans : Spans} {s : List Char} :
    readTime date s = some spans ↔ ∃ hour minute second,
      Parts timeUnits [hour, minute, second] s ∧
        spans = { date with hour := hour, minute := minute, second := second } :=
  readThree_eq_some timeUnits_not_digits (by decide)

/-! ### Whole texts -/

/-- What ends in numbers under these units does not end in a number of weeks. -/
theorem Parts.dropEnd?_eq_none {units : List Char} {ns : List UInt32} {s : List Char}
    (h : Parts units ns s) (hs : s ≠ []) (hunits : 'W' ∉ units) (front : List Char) :
    Text.dropEnd? ['W'] (front ++ s) = none := by
  cases hdrop : Text.dropEnd? ['W'] (front ++ s) with
  | none => rfl
  | some t =>
      have hlast := congrArg List.getLast? (Text.dropEnd?_eq_some.mp hdrop)
      rw [List.getLast?_append_of_ne_nil _ hs, List.getLast?_concat] at hlast
      exact absurd (h.mem_of_getLast? hlast) hunits

theorem Form.readSpans {s : List Char} {spans : Spans} (h : Form spans s) :
    readSpans s = some spans := by
  cases h with
  | @weeks n ds number =>
      rw [List.cons_append, Duration.readSpans, readBody, Text.dropEnd?_eq_some.mpr rfl]
      exact readWeeks_eq_some.mpr ⟨n, ds, number, rfl, .inl rfl⟩
  | @signedWeeks n ds number =>
      rw [List.cons_append, Duration.readSpans, readBody, Text.dropEnd?_eq_some.mpr rfl]
      exact readWeeks_eq_some.mpr ⟨n, ds, number, rfl, .inr rfl⟩
  | @date year month day s parts not_empty =>
      have hweeks : Text.dropEnd? ['W'] s = none :=
        parts.dropEnd?_eq_none not_empty (by decide) []
      have hmark := parts.not_mem (c := 'T') (by decide) (by decide)
      rw [Duration.readSpans, readBody, hweeks, Text.cut_eq_none.mpr hmark]
      simp only [List.isEmpty_eq_false_iff.mpr not_empty, Bool.false_eq_true, if_false]
      exact readDate_eq_some.mpr ⟨year, month, day, parts, rfl⟩
  | @dateTime year month day hour minute second s t date time not_empty =>
      -- what ends in a unit of time is no number of weeks, and the first `T` is the one between
      have hweeks : Text.dropEnd? ['W'] (s ++ 'T' :: t) = none := by
        rw [List.append_cons]
        exact time.dropEnd?_eq_none not_empty (by decide) (s ++ ['T'])
      have hmark := date.not_mem (c := 'T') (by decide) (by decide)
      have hdate := readDate_eq_some.mpr ⟨year, month, day, date, rfl⟩
      rw [List.cons_append, Duration.readSpans, readBody, hweeks, Text.cut_append_cons hmark]
      cases t with
      | nil => exact absurd rfl not_empty
      | cons c t =>
          simp only [hdate, Option.bind_some]
          exact readTime_eq_some.mpr ⟨hour, minute, second, time, rfl⟩

theorem readSpans_eq_some {s : List Char} {spans : Spans} :
    readSpans s = some spans ↔ Form spans s := by
  refine ⟨fun h => ?_, Form.readSpans⟩
  unfold readSpans at h
  split at h
  · next body =>
      unfold readBody at h
      split at h
      · next number hnumber =>
          obtain ⟨n, ds, hn, rfl, hds⟩ := readWeeks_eq_some.mp h
          rw [Text.dropEnd?_eq_some.mp hnumber]
          rcases hds with rfl | rfl
          · exact .weeks hn
          · exact .signedWeeks hn
      · split at h
        · contradiction
        · next date time htime hcut =>
            obtain ⟨days, hdays, h⟩ := Option.bind_eq_some_iff.mp h
            obtain ⟨year, month, day, hdate, rfl⟩ := readDate_eq_some.mp hdays
            obtain ⟨hour, minute, second, hparts, rfl⟩ := readTime_eq_some.mp h
            rw [(Text.cut_eq_some hcut).1]
            exact .dateTime hdate hparts fun hnil => htime hnil
        · split at h
          · contradiction
          · next hempty =>
              obtain ⟨year, month, day, hdate, rfl⟩ := readDate_eq_some.mp h
              exact .date hdate (by simpa using hempty)
  · contradiction

/-- A text has one meaning. -/
theorem Form.unique {s : List Char} {spans others : Spans} (h : Form spans s)
    (h' : Form others s) : spans = others :=
  Option.some.inj (h.readSpans.symm.trans h'.readSpans)

/-- Weeks are never written with anything else. -/
theorem Form.weeks_alone {s : List Char} {spans : Spans} (h : Form spans s) :
    spans.week = 0 ∨ spans.withoutWeeks = .none := by
  cases h with
  | weeks number => exact .inr rfl
  | signedWeeks number => exact .inr rfl
  | date parts not_empty => exact .inl rfl
  | dateTime date time not_empty => exact .inl rfl

/-! ### Reading -/

theorem parse_of_form {input : String} {spans : Spans} (h : Form spans input.toList) :
    parse input = check spans input := by
  rw [parse, h.readSpans]

theorem parse_of_not_form {input : String} (h : ∀ spans, ¬Form spans input.toList) :
    parse input = .error (.invalid input) := by
  cases hread : readSpans input.toList with
  | none => rw [parse, hread]
  | some spans => exact absurd (readSpans_eq_some.mp hread) (h spans)

theorem check_of_none {spans : Spans} {input : String} (h : spans = .none) :
    check spans input = .error (.empty input) := by
  rw [check, dif_pos h]

theorem check_of_ne_none {spans : Spans} {input : String} (h : spans ≠ .none)
    (hweeks : spans.week = 0 ∨ spans.withoutWeeks = .none) :
    check spans input = .ok ⟨spans, h, hweeks⟩ := by
  rw [check, dif_neg h, dif_pos hweeks]

theorem parse_eq_ok {input : String} {d : Duration} :
    parse input = .ok d ↔ Form d.spans input.toList := by
  constructor
  · intro h
    cases hread : readSpans input.toList with
    | none => simp [parse, hread] at h
    | some spans =>
        have hform := readSpans_eq_some.mp hread
        rw [parse_of_form hform] at h
        by_cases hnone : spans = .none
        · simp [check_of_none hnone] at h
        · rw [check_of_ne_none hnone hform.weeks_alone] at h
          rwa [← Except.ok.inj h]
  · intro h
    rw [parse_of_form h, check_of_ne_none d.not_none d.weeks_alone]

/-- Reading accepts exactly the texts of spans that are not all zero, and gives these spans. A text
whose numbers are all zero is empty, every other one is invalid; an error names the whole text. -/
theorem accepts_exactly_forms (input : String) :
    (∀ d, parse input = .ok d ↔ Form d.spans input.toList) ∧
      ((∃ d, parse input = .ok d) ↔ ∃ spans, Form spans input.toList ∧ spans ≠ .none) ∧
      (∀ e, parse input = .error e ↔
        (e = .empty input ∧ Form .none input.toList) ∨
          (e = .invalid input ∧ ∀ spans, ¬Form spans input.toList)) := by
  refine ⟨fun d => parse_eq_ok, ⟨?_, ?_⟩, fun e => ?_⟩
  · rintro ⟨d, hd⟩
    exact ⟨d.spans, parse_eq_ok.mp hd, d.not_none⟩
  · rintro ⟨spans, hform, hnone⟩
    exact ⟨_, (parse_of_form hform).trans (check_of_ne_none hnone hform.weeks_alone)⟩
  · by_cases hform : ∃ spans, Form spans input.toList
    · obtain ⟨spans, hform⟩ := hform
      have hinvalid : ¬∀ spans, ¬Form spans input.toList := fun h => h spans hform
      rw [parse_of_form hform]
      by_cases hnone : spans = .none
      · subst hnone
        simp only [check_of_none, hform, hinvalid, and_true, and_false, or_false]
        rw [Except.error.injEq, eq_comm]
      · have hempty : ¬Form .none input.toList := fun h => hnone (hform.unique h)
        rw [check_of_ne_none hnone hform.weeks_alone]
        simp [hempty, hinvalid]
    · rw [not_exists] at hform
      rw [parse_of_not_form hform]
      simp only [hform, and_false, false_or, not_false_eq_true, implies_true, and_true]
      rw [Except.error.injEq, eq_comm]

end SqlConnector.Duration
