import SqlConnector.Proofs.Json.Quoted
import SqlConnector.Proofs.Time.Notation
import SqlConnector.Time.Zone

/-!
Canonical texts of durations and zones. What is printed is read back as it was, and the texts that
are printed are those in which no number is zero or begins with a zero and no sign stands: reading
and printing turns every other text of a duration into one of these.
-/

namespace SqlConnector

namespace Text

/-! ### Numerals in a text -/

/-- The numerals in a text: its longest runs of digits. -/
def numerals (s : List Char) : List (List Char) :=
  (s.splitOnP (!·.isDigit)).filter (· ≠ [])

/-- A number that is not zero, without leading zeros. -/
structure Plain (ds : List Char) : Prop where
  not_zero : ofDigits ds ≠ 0
  no_leading_zero : 1 < ds.length → ds.head? ≠ some '0'

/-- All numbers are plain, and there is no sign. -/
structure Canonical (s : List Char) : Prop where
  no_sign : '+' ∉ s
  plain : ∀ ds ∈ numerals s, Plain ds

theorem numerals_nil : numerals [] = [] := rfl

theorem numerals_cons {c : Char} (hc : c.isDigit = false) (s : List Char) :
    numerals (c :: s) = numerals s := by
  have hsplit := @List.splitOnP_append_cons_of_forall_mem _ (!·.isDigit) []
    (by simp) c (by simpa using hc) s
  rw [List.nil_append] at hsplit
  rw [numerals, hsplit, List.filter_cons_of_neg (by simp), numerals]

theorem numerals_append_cons {ds : List Char} {c : Char} (hds : isNumeral ds = true)
    (hc : c.isDigit = false) (s : List Char) :
    numerals (ds ++ c :: s) = ds :: numerals s := by
  obtain ⟨hne, hdigits⟩ := isNumeral_iff.mp hds
  have hsplit := @List.splitOnP_append_cons_of_forall_mem _ (!·.isDigit) ds
    (by simpa using hdigits) c (by simpa using hc) s
  rw [numerals, hsplit, List.filter_cons_of_pos (by simpa using hne), numerals]

theorem Plain.head? {ds : List Char} (h : Plain ds) : ds.head? ≠ some '0' := by
  cases ds with
  | nil => simp
  | cons c rest =>
      cases rest with
      | nil =>
          intro hzero
          obtain rfl : c = '0' := by simpa using hzero
          exact h.not_zero rfl
      | cons d rest => exact h.no_leading_zero (by simp)

theorem plain_digits {n : Nat} (h : n ≠ 0) : Plain (digits n) :=
  ⟨by rwa [ofDigits_digits], fun _ => head?_digits h⟩

end Text

namespace Duration

open Text (Plain numerals Canonical)

/-! ### Printed numbers -/

theorem printUnit_of_ne_zero {n : UInt32} (h : n ≠ 0) (unit : Char) :
    printUnit n unit = Text.digits n.toNat ++ [unit] := if_neg h

theorem printUnit_eq_nil {n : UInt32} {unit : Char} : printUnit n unit = [] ↔ n = 0 := by
  by_cases h : n = 0 <;> simp [printUnit, h]

theorem numeral_digits (n : UInt32) : Numeral n (Text.digits n.toNat) :=
  ⟨Text.digits_ne_nil _, fun _ => Text.isDigit_of_mem_digits, Text.ofDigits_digits _⟩

theorem toNat_ne_zero {n : UInt32} (h : n ≠ 0) : n.toNat ≠ 0 := by
  intro hzero
  exact h (UInt32.toNat_inj.mp hzero)

/-- A plain number is written as it is printed. -/
theorem Numeral.printUnit {n : UInt32} {ds : List Char} (h : Numeral n ds) (hplain : Plain ds)
    (unit : Char) : printUnit n unit = ds ++ [unit] := by
  have hn : n ≠ 0 := by
    rintro rfl
    exact hplain.not_zero h.value
  rw [printUnit_of_ne_zero hn, ← h.value, Text.digits_ofDigits h.isNumeral hplain.head?]

def printUnits (units : List Char) (ns : List UInt32) : List Char :=
  (List.zipWith printUnit ns units).flatten

theorem printUnits_cons (unit : Char) (units : List Char) (n : UInt32) (ns : List UInt32) :
    printUnits (unit :: units) (n :: ns) = printUnit n unit ++ printUnits units ns := rfl

theorem printDate_eq (s : Spans) :
    printDate s = printUnits dateUnits [s.year, s.month, s.day] := by
  simp [printDate, printUnits, dateUnits]

theorem printTime_eq (s : Spans) :
    printTime s = printUnits timeUnits [s.hour, s.minute, s.second] := by
  simp [printTime, printUnits, timeUnits]

theorem printUnits_eq_nil {units : List Char} {ns : List UInt32}
    (hlength : ns.length = units.length) : printUnits units ns = [] ↔ ∀ n ∈ ns, n = 0 := by
  induction units generalizing ns with
  | nil =>
      obtain rfl := List.length_eq_zero_iff.mp hlength
      simp [printUnits]
  | cons unit units ih =>
      cases ns with
      | nil => simp at hlength
      | cons n ns =>
          rw [printUnits_cons, List.append_eq_nil_iff, printUnit_eq_nil, ih (by simpa using hlength)]
          simp

theorem parts_printUnits {units : List Char} {ns : List UInt32}
    (hlength : ns.length = units.length) : Parts units ns (printUnits units ns) := by
  induction units generalizing ns with
  | nil =>
      obtain rfl := List.length_eq_zero_iff.mp hlength
      exact .nil
  | cons unit units ih =>
      cases ns with
      | nil => simp at hlength
      | cons n ns =>
          have hrest := ih (show ns.length = units.length by simpa using hlength)
          rw [printUnits_cons]
          by_cases hn : n = 0
          · -- nothing is printed for a zero, and a number left out is read as one
            subst hn
            exact .absent hrest
          · rw [printUnit_of_ne_zero hn, List.append_assoc]
            exact .written (numeral_digits n) hrest

section Units

variable {units : List Char} {ns : List UInt32}

/-- Whatever is printed, all its numbers are plain. -/
theorem plain_of_mem_printUnits (hunits : ∀ c ∈ units, c.isDigit = false) {rest ds : List Char}
    (hds : ds ∈ numerals (printUnits units ns ++ rest)) : Plain ds ∨ ds ∈ numerals rest := by
  induction units generalizing ns with
  | nil => exact .inr (by simpa [printUnits] using hds)
  | cons unit units ih =>
      have hrest := fun c hc => hunits c (List.mem_cons_of_mem unit hc)
      cases ns with
      | nil => exact .inr (by simpa [printUnits] using hds)
      | cons n ns =>
          rw [printUnits_cons] at hds
          by_cases hn : n = 0
          · rw [printUnit_eq_nil.mpr hn] at hds
            exact ih hrest hds
          · rw [printUnit_of_ne_zero hn, List.append_assoc, List.append_assoc,
              List.singleton_append, Text.numerals_append_cons (Text.isNumeral_digits _)
                (hunits unit List.mem_cons_self)] at hds
            rcases List.mem_cons.mp hds with rfl | hds
            · exact .inl (Text.plain_digits (toNat_ne_zero hn))
            · exact ih hrest hds

/-- What is written in plain numbers is what is printed. -/
theorem Parts.eq_printUnits {s rest : List Char} (h : Parts units ns s)
    (hunits : ∀ c ∈ units, c.isDigit = false) (hplain : ∀ ds ∈ numerals (s ++ rest), Plain ds) :
    s = printUnits units ns ∧ ∀ ds ∈ numerals rest, Plain ds := by
  induction h with
  | nil => exact ⟨rfl, hplain⟩
  | absent _ ih => exact ih (fun c hc => hunits c (List.mem_cons_of_mem _ hc)) hplain
  | @written unit _ n ds _ s number _ ih =>
      rw [List.append_assoc, List.cons_append, Text.numerals_append_cons number.isNumeral
        (hunits unit List.mem_cons_self)] at hplain
      obtain ⟨hs, hrest⟩ := ih (fun c hc => hunits c (List.mem_cons_of_mem _ hc))
        fun es hes => hplain es (List.mem_cons_of_mem _ hes)
      refine ⟨?_, hrest⟩
      rw [printUnits_cons, number.printUnit (hplain ds List.mem_cons_self), ← hs,
        List.append_assoc, List.singleton_append]

end Units

/-! ### Printed durations -/

theorem eq_weeks_of_week_ne_zero {spans : Spans} (h : spans.week ≠ 0)
    (hweeks : spans.week = 0 ∨ spans.withoutWeeks = .none) : spans = .weeks spans.week := by
  have hnone := hweeks.resolve_left h
  obtain ⟨year, month, week, day, hour, minute, second⟩ := spans
  simp only [Spans.withoutWeeks, Spans.none, Spans.mk.injEq] at hnone
  simp [Spans.weeks, Spans.none, hnone]

/-- What is printed is a text of the spans. -/
theorem form_printSpans {spans : Spans} (hnone : spans ≠ .none)
    (hweeks : spans.week = 0 ∨ spans.withoutWeeks = .none) : Form spans (printSpans spans) := by
  by_cases hweek : spans.week = 0
  · obtain ⟨year, month, week, day, hour, minute, second⟩ := spans
    obtain rfl : week = 0 := hweek
    have hdate := parts_printUnits (show [year, month, day].length = dateUnits.length from rfl)
    have htime := parts_printUnits (show [hour, minute, second].length = timeUnits.length from rfl)
    simp only [printSpans, printDate_eq, printTime_eq, ne_eq, not_true_eq_false, if_false]
    split
    · next hnil =>
        -- something is written before the `T` then, as the spans are not all zero
        obtain ⟨rfl, rfl, rfl⟩ : hour = 0 ∧ minute = 0 ∧ second = 0 := by
          simpa using (printUnits_eq_nil rfl).mp hnil
        refine .date hdate fun hempty => hnone ?_
        obtain ⟨rfl, rfl, rfl⟩ : year = 0 ∧ month = 0 ∧ day = 0 := by
          simpa using (printUnits_eq_nil rfl).mp hempty
        rfl
    · next htimes => exact .dateTime hdate htime htimes
  · have hform := Form.weeks (numeral_digits spans.week)
    rw [← eq_weeks_of_week_ne_zero hweek hweeks, List.cons_append,
      ← printUnit_of_ne_zero hweek] at hform
    rwa [printSpans, if_pos hweek]

theorem parse_toText (d : Duration) : parse d.toText = .ok d := by
  rw [parse_eq_ok, toText, String.toList_ofList]
  exact form_printSpans d.not_none d.weeks_alone

theorem sign_not_mem_printUnits {units : List Char} {ns : List UInt32}
    (hlength : ns.length = units.length) (hunits : '+' ∉ units) : '+' ∉ printUnits units ns :=
  (parts_printUnits hlength).not_mem rfl hunits

/-- What is printed is canonical. -/
theorem canonical_printSpans (spans : Spans) : Canonical (printSpans spans) := by
  have hdate := sign_not_mem_printUnits
    (show [spans.year, spans.month, spans.day].length = dateUnits.length from rfl) (by decide)
  have htime := sign_not_mem_printUnits
    (show [spans.hour, spans.minute, spans.second].length = timeUnits.length from rfl) (by decide)
  have hlast {units : List Char} {ns : List UInt32} (hunits : ∀ c ∈ units, c.isDigit = false) :
      ∀ ds ∈ numerals (printUnits units ns), Plain ds := by
    intro ds hds
    rw [← List.append_nil (printUnits units ns)] at hds
    exact (plain_of_mem_printUnits hunits hds).resolve_right (by simp [Text.numerals_nil])
  unfold printSpans
  split
  · have hweek : printUnit spans.week 'W' = printUnits ['W'] [spans.week] := by simp [printUnits]
    have hsign := sign_not_mem_printUnits (show [spans.week].length = ['W'].length from rfl)
      (by decide)
    rw [hweek]
    refine ⟨by simpa using hsign, fun ds hds => ?_⟩
    rw [Text.numerals_cons rfl] at hds
    exact hlast (by simp) ds hds
  · rw [printDate_eq, printTime_eq]
    split
    · refine ⟨by simpa using hdate, fun ds hds => ?_⟩
      rw [Text.numerals_cons rfl] at hds
      exact hlast dateUnits_not_digits ds hds
    · refine ⟨by simpa using ⟨hdate, htime⟩, fun ds hds => ?_⟩
      rw [List.cons_append, Text.numerals_cons rfl] at hds
      rcases plain_of_mem_printUnits dateUnits_not_digits hds with hplain | hds
      · exact hplain
      · rw [Text.numerals_cons rfl] at hds
        exact hlast timeUnits_not_digits ds hds

/-- A canonical text is the one that its spans are printed as. -/
theorem Form.eq_printSpans {s : List Char} {spans : Spans} (h : Form spans s)
    (hs : Canonical s) : s = printSpans spans := by
  cases h with
  | @weeks n ds number =>
      have hnumerals : numerals ('P' :: ds ++ ['W']) = [ds] := by
        rw [List.cons_append, Text.numerals_cons rfl,
          Text.numerals_append_cons number.isNumeral rfl, Text.numerals_nil]
      have hplain := hs.plain ds (by rw [hnumerals]; exact List.mem_singleton_self ds)
      have hn : n ≠ 0 := by
        rintro rfl
        exact hplain.not_zero number.value
      rw [printSpans, if_pos (show (Spans.weeks n).week ≠ 0 from hn)]
      exact congrArg ('P' :: ·) (number.printUnit hplain 'W').symm
  | signedWeeks number => exact absurd (by simp) hs.no_sign
  | @date year month day s parts not_empty =>
      have hplain : ∀ ds ∈ numerals (s ++ []), Plain ds := by
        rw [List.append_nil]
        intro ds hds
        exact hs.plain ds (by rwa [Text.numerals_cons rfl])
      obtain ⟨hs, -⟩ := parts.eq_printUnits dateUnits_not_digits hplain
      simp [printSpans, printDate_eq, printTime, printUnit, hs]
  | @dateTime year month day hour minute second s t date time not_empty =>
      have hplain : ∀ ds ∈ numerals (s ++ 'T' :: t), Plain ds := by
        intro ds hds
        exact hs.plain ds (by rwa [List.cons_append, Text.numerals_cons rfl])
      obtain ⟨hdate, hrest⟩ := date.eq_printUnits dateUnits_not_digits hplain
      rw [Text.numerals_cons rfl, ← List.append_nil t] at hrest
      obtain ⟨htime, -⟩ := time.eq_printUnits timeUnits_not_digits hrest
      have htimes : printUnits timeUnits [hour, minute, second] ≠ [] := htime ▸ not_empty
      simp [printSpans, printDate_eq, printTime_eq, htimes, hdate, htime]

/-- A text of a duration is printed again exactly when it is canonical. -/
theorem toText_eq_iff {text : String} {d : Duration} (h : parse text = .ok d) :
    d.toText = text ↔ Canonical text.toList := by
  constructor
  · rintro rfl
    rw [toText, String.toList_ofList]
    exact canonical_printSpans d.spans
  · intro hcanonical
    rw [toText, ← (parse_eq_ok.mp h).eq_printSpans hcanonical, String.ofList_toList]

theorem toText_inj {d e : Duration} (h : d.toText = e.toText) : d = e := by
  have hparse := parse_toText d
  rw [h, parse_toText e] at hparse
  exact (Except.ok.inj hparse).symm

theorem ofSpans_eq_ok {spans : Spans} {d : Duration} : ofSpans spans = .ok d ↔ d.spans = spans := by
  constructor
  · intro h
    unfold ofSpans check at h
    split at h
    · contradiction
    · split at h
      · rw [← Except.ok.inj h]
      · contradiction
  · rintro rfl
    exact check_of_ne_none d.not_none d.weeks_alone

/-- Reading and printing: the canonical text of the duration that a text stands for. -/
def canonicalText? (text : String) : Option String :=
  match parse text with
  | .ok d => some d.toText
  | .error _ => none

theorem canonicalText?_eq_some {text canonical : String} :
    canonicalText? text = some canonical ↔ ∃ d, parse text = .ok d ∧ d.toText = canonical := by
  unfold canonicalText?
  cases parse text <;> simp

end Duration

/-! ### Zones -/

/-- A zone is the one of its name. -/
theorem Zone.ofName_name (z : Zone) : Zone.ofName z.name = .ok z := by
  cases z with
  | utc => rfl
  | named name not_empty not_utc chars =>
      rw [Zone.name, Zone.ofName, dif_neg not_empty, dif_neg not_utc]
      split
      · next c hc =>
          have hbad := List.find?_some hc
          simp [chars c (List.mem_of_find?_eq_some hc)] at hbad
      · rfl

/-! ### Reading back -/

/-- Durations and zones are read back from their texts, and from these as JSON strings. Spans make a
duration exactly when there is a text for them. A text of a duration is the printed one exactly when
it is canonical, so no two durations print alike, and reading and printing once more changes
nothing: it leaves the canonical texts of durations as they are, and no others. -/
theorem texts_read_back :
    (∀ d : Duration, Duration.parse d.toText = .ok d ∧
      ((Json.Value.read? (Json.Value.string d.toText).compact).bind Json.Value.text?).map
        Duration.parse = some (.ok d)) ∧
    (∀ spans d, Duration.ofSpans spans = .ok d ↔
      ∃ text, Duration.parse text = .ok d ∧ d.spans = spans) ∧
    (∀ text d, Duration.parse text = .ok d → (d.toText = text ↔ Text.Canonical text.toList)) ∧
    (∀ d e : Duration, d.toText = e.toText → d = e) ∧
    (∀ text canonical, Duration.canonicalText? text = some canonical →
      Duration.canonicalText? canonical = some canonical) ∧
    (∀ text, Duration.canonicalText? text = some text ↔
      (∃ d, Duration.parse text = .ok d) ∧ Text.Canonical text.toList) ∧
    (∀ z : Zone, Zone.ofName z.name = .ok z ∧
      ((Json.Value.read? (Json.Value.string z.name).compact).bind Json.Value.text?).map
        Zone.ofName = some (.ok z)) := by
  refine ⟨fun d => ⟨Duration.parse_toText d, ?_⟩, fun spans d => ?_,
    fun text d => Duration.toText_eq_iff, fun d e => Duration.toText_inj, ?_, fun text => ?_,
    fun z => ⟨z.ofName_name, ?_⟩⟩
  · rw [Json.Value.read?_compact_string]
    exact congrArg some (Duration.parse_toText d)
  · rw [Duration.ofSpans_eq_ok]
    exact ⟨fun h => ⟨d.toText, Duration.parse_toText d, h⟩, fun ⟨_, _, h⟩ => h⟩
  · intro text canonical h
    obtain ⟨d, -, rfl⟩ := Duration.canonicalText?_eq_some.mp h
    exact Duration.canonicalText?_eq_some.mpr ⟨d, Duration.parse_toText d, rfl⟩
  · rw [Duration.canonicalText?_eq_some]
    constructor
    · rintro ⟨d, hd, htext⟩
      exact ⟨⟨d, hd⟩, (Duration.toText_eq_iff hd).mp htext⟩
    · rintro ⟨⟨d, hd⟩, hcanonical⟩
      exact ⟨d, hd, (Duration.toText_eq_iff hd).mpr hcanonical⟩
  · rw [Json.Value.read?_compact_string]
    exact congrArg some z.ofName_name

/-- A text with a zero in front and a span of none is not the printed one, which stays as it is. -/
theorem padded_year_printed_short :
    let d : Duration := ⟨{ Spans.none with year := 1, second := 5 }, by decide, by decide⟩
    Duration.parse "P01Y0MT5S" = .ok d ∧ ¬Text.Canonical "P01Y0MT5S".toList ∧
      Duration.canonicalText? "P01Y0MT5S" = some "P1YT5S" ∧
      Duration.canonicalText? "P1YT5S" = some "P1YT5S" ∧ Text.Canonical "P1YT5S".toList := by
  intro d
  obtain ⟨-, -, hprinted, -, hagain, hfixed, -⟩ := texts_read_back
  have hparse : Duration.parse "P01Y0MT5S" = .ok d := by decide +kernel
  have hshort : Duration.canonicalText? "P01Y0MT5S" = some "P1YT5S" := by decide +kernel
  have hsame := hagain _ _ hshort
  refine ⟨hparse, fun hcanonical => ?_, hshort, hsame, ((hfixed _).mp hsame).2⟩
  exact absurd ((hprinted _ d hparse).mpr hcanonical) (by decide +kernel)

end SqlConnector
