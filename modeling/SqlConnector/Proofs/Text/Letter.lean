import Mathlib.Algebra.Ring.GeomSum
import SqlConnector.Text.Cut
import SqlConnector.Text.LowerCase

/-!
What the case data say of single letters: a lower-case partner has no other partner than itself,
blanks are partners of nothing and end words, and the case of an ASCII letter makes no difference.
The tables are looked through once, as sets of code points that are written as the bits of a number.
-/

namespace SqlConnector.Text

/-! ### Sets of code points -/

/-- The set of the numbers in these ranges, a bit for each. -/
def rangeBits (ranges : List (Nat × Nat)) : Nat :=
  ranges.foldr (fun (first, last) set => (2 ^ (last + 1 - first) - 1) <<< first ||| set) 0

theorem testBit_rangeBits (ranges : List (Nat × Nat)) (c : Char) :
    (rangeBits ranges).testBit c.toNat = inRanges ranges c := by
  induction ranges with
  | nil => simp [rangeBits, inRanges]
  | cons range rest ih =>
      obtain ⟨first, last⟩ := range
      have hbits : rangeBits ((first, last) :: rest) =
          (2 ^ (last + 1 - first) - 1) <<< first ||| rangeBits rest := rfl
      have hin : inRanges ((first, last) :: rest) c =
          (decide (first ≤ c.toNat) && decide (c.toNat ≤ last) || inRanges rest c) := rfl
      rw [hbits, hin, Nat.testBit_or, ih, Nat.testBit_shiftLeft, Nat.testBit_two_pow_sub_one]
      congr 1
      rw [Bool.eq_iff_iff]
      simp only [Bool.and_eq_true, decide_eq_true_eq]
      omega

theorem testBit_eq_false_of_disjoint {s t n : Nat} (h : s &&& t = 0) (hs : s.testBit n = true) :
    t.testBit n = false := by
  have hboth : (s &&& t).testBit n = false := by rw [h, Nat.zero_testBit]
  rwa [Nat.testBit_and, hs, Bool.true_and] at hboth

/-- So many bits, the first at zero and the others at this distance from each other. -/
def stride (step count : Nat) : Nat := (2 ^ (step * count) - 1) / (2 ^ step - 1)

theorem stride_succ {step : Nat} (h : 0 < step) (count : Nat) :
    stride step (count + 1) = 2 ^ step * stride step count + 1 := by
  have hone : 1 < 2 ^ step := Nat.one_lt_two_pow (Nat.ne_of_gt h)
  have hdvd : 2 ^ step - 1 ∣ 2 ^ (step * count) - 1 :=
    Nat.pow_sub_one_dvd_pow_sub_one 2 (Nat.dvd_mul_right step count)
  have hsplit : 2 ^ (step * (count + 1)) - 1 =
      2 ^ step * (2 ^ (step * count) - 1) + (2 ^ step - 1) := by
    have hpos : 0 < 2 ^ (step * count) := Nat.two_pow_pos _
    rw [Nat.mul_succ, Nat.pow_add, Nat.mul_sub, Nat.mul_one, Nat.mul_comm]
    have hle : 2 ^ step ≤ 2 ^ step * 2 ^ (step * count) := Nat.le_mul_of_pos_right _ hpos
    omega
  rw [stride, stride, hsplit, Nat.add_div_right _ (by omega), Nat.mul_div_assoc _ hdvd]

theorem testBit_stride {step count i : Nat} (hstep : 0 < step) (hi : i < count) :
    (stride step count).testBit (step * i) = true := by
  induction count generalizing i with
  | zero => omega
  | succ count ih =>
      have hone : 1 < 2 ^ step := Nat.one_lt_two_pow (Nat.ne_of_gt hstep)
      rw [stride_succ hstep, Nat.testBit_two_pow_mul_add _ hone]
      cases i with
      | zero => simp [hstep]
      | succ i =>
          rw [Nat.mul_succ, if_neg (by omega), Nat.add_sub_cancel]
          exact ih (by omega)

/-! ### Runs -/

namespace ShiftRun

def count (r : ShiftRun) : Nat := (r.last - r.first) / r.step + 1

theorem exists_place {r : ShiftRun} {n : Nat} (h : r.contains n = true) :
    ∃ i < r.count, n = r.first + r.step * i := by
  simp only [contains, Bool.and_eq_true, decide_eq_true_eq, beq_iff_eq] at h
  obtain ⟨⟨hfirst, hlast⟩, hstep⟩ := h
  have hplace : r.step * ((n - r.first) / r.step) = n - r.first :=
    Nat.mul_div_cancel' (Nat.dvd_of_mod_eq_zero hstep)
  have hle : (n - r.first) / r.step ≤ (r.last - r.first) / r.step :=
    Nat.div_le_div_right (by omega)
  exact ⟨(n - r.first) / r.step, Nat.lt_succ_of_le hle, by omega⟩

/-- The code point that goes with the code point `n` of the run. -/
def partner (r : ShiftRun) (n : Nat) : Nat := ((n : Int) + r.shift).toNat

end ShiftRun

/-- The set of so many numbers as each run has, from where it starts on. -/
def runBits (start : ShiftRun → Nat) (runs : List ShiftRun) : Nat :=
  runs.foldr (fun r set => stride r.step r.count <<< start r ||| set) 0

theorem testBit_runBits (start : ShiftRun → Nat) {runs : List ShiftRun} {r : ShiftRun}
    (hr : r ∈ runs) (hstep : 0 < r.step) {i : Nat} (hi : i < r.count) :
    (runBits start runs).testBit (start r + r.step * i) = true := by
  induction runs with
  | nil => cases hr
  | cons r' rest ih =>
      have hbits : runBits start (r' :: rest) =
          stride r'.step r'.count <<< start r' ||| runBits start rest := rfl
      rw [hbits, Nat.testBit_or, Bool.or_eq_true]
      rcases List.mem_cons.mp hr with rfl | hrest
      · refine .inl ?_
        rw [Nat.testBit_shiftLeft, Nat.add_sub_cancel_left, testBit_stride hstep hi]
        simp
      · exact .inr (ih hrest)

/-- The code points outside ASCII that have a lower-case partner. -/
def capitals : Nat := runBits ShiftRun.first lowerRuns

/-- The code points that are the partner of one outside ASCII. -/
def partners : Nat := runBits (fun r => r.partner r.first) lowerRuns

/-- The letters that have a partner and those that are one. -/
def paired : Nat := capitals ||| partners ||| rangeBits [(0x41, 0x7A)]

def blankRanges : List (Nat × Nat) := [
  (9, 13), (0x20, 0x20), (0x85, 0x85), (0xA0, 0xA0), (0x1680, 0x1680), (0x2000, 0x200A),
  (0x2028, 0x2028), (0x2029, 0x2029), (0x202F, 0x202F), (0x205F, 0x205F), (0x3000, 0x3000)]

theorem isBlank_eq_testBit (c : Char) : isBlank c = (rangeBits blankRanges).testBit c.toNat := by
  have hone : ∀ n a : Nat, (decide (a ≤ n) && decide (n ≤ a)) = (n == a) := fun n a => by
    rw [Bool.eq_iff_iff, Bool.and_eq_true, decide_eq_true_eq, decide_eq_true_eq, beq_iff_eq]
    omega
  rw [testBit_rangeBits]
  simp only [isBlank, inRanges, blankRanges, List.any_cons, List.any_nil, hone, Bool.or_false,
    Bool.or_assoc]

/-! ### What the tables say -/

/-- No partner has a partner, neither blanks nor `İ`, which has a form of two letters, are paired,
and no blank is a letter of a word or a mark on one. -/
theorem tables_disjoint :
    partners &&& capitals = 0 ∧ paired &&& rangeBits blankRanges = 0 ∧
      paired &&& rangeBits [(0x130, 0x130)] = 0 ∧
      rangeBits blankRanges &&& (rangeBits casedRanges ||| rangeBits caseIgnorableRanges) = 0 := by
  decide +kernel

/-- The tables have the small letters of ASCII at the places where they have the capitals. -/
theorem tables_alike_in_ascii :
    ∀ set ∈ [rangeBits casedRanges, rangeBits caseIgnorableRanges],
      set >>> 0x61 % 2 ^ 26 = set >>> 0x41 % 2 ^ 26 := by
  decide +kernel

theorem runs_in_bounds : ∀ r ∈ lowerRuns, 0 < r.step ∧ r.first ≤ r.last ∧
    0x5A < r.first + r.shift ∧
      (r.last + r.shift < 0xD800 ∨ 0xDFFF < r.first + r.shift ∧ r.last + r.shift < 0x110000) := by
  decide +kernel

/-- The partner of a letter of a run is a character, and none of the capitals of ASCII. -/
theorem partner_of_run {r : ShiftRun} {n : Nat} (hr : r ∈ lowerRuns) (h : r.contains n = true) :
    capitals.testBit n = true ∧ partners.testBit (r.partner n) = true ∧
      (r.partner n).isValidChar ∧ 0x5A < r.partner n := by
  obtain ⟨hstep, hle, hlow, hhigh⟩ := runs_in_bounds r hr
  obtain ⟨i, hi, rfl⟩ := ShiftRun.exists_place h
  have hlast : r.step * i ≤ r.last - r.first :=
    Nat.le_trans (Nat.mul_le_mul_left _ (Nat.le_of_lt_succ hi)) (Nat.mul_div_le _ _)
  have hpartner : r.partner (r.first + r.step * i) = r.partner r.first + r.step * i := by
    unfold ShiftRun.partner
    omega
  refine ⟨testBit_runBits ShiftRun.first hr hstep hi, ?_, ?_, ?_⟩
  · rw [hpartner]
    exact testBit_runBits (fun r => r.partner r.first) hr hstep hi
  · unfold ShiftRun.partner Nat.isValidChar
    omega
  · unfold ShiftRun.partner
    omega

/-! ### Letters of ASCII -/

theorem toNat_toLower (c : Char) :
    c.toLower.toNat = if 0x41 ≤ c.toNat ∧ c.toNat ≤ 0x5A then c.toNat + 0x20 else c.toNat := by
  have hupper : c.val ≥ 'A'.val ∧ c.val ≤ 'Z'.val ↔ 0x41 ≤ c.toNat ∧ c.toNat ≤ 0x5A := Iff.rfl
  unfold Char.toLower
  split
  · next h =>
      obtain ⟨-, hle⟩ := hupper.mp h
      rw [if_pos (hupper.mp h), Char.toNat_mk, UInt32.toNat_add]
      show (c.toNat + 0x20) % 2 ^ 32 = c.toNat + 0x20
      omega
  · next h => rw [if_neg (fun h' => h (hupper.mpr h'))]

theorem toLower_of_not_upper {c : Char} (h : ¬(0x41 ≤ c.toNat ∧ c.toNat ≤ 0x5A)) :
    c.toLower = c :=
  Char.toNat_inj.mp ((toNat_toLower c).trans (if_neg h))

theorem toLower_toLower (c : Char) : c.toLower.toLower = c.toLower := by
  apply toLower_of_not_upper
  rw [toNat_toLower]
  split <;> omega

theorem isAscii_toLower (c : Char) : isAscii c.toLower = isAscii c := by
  simp only [isAscii, toNat_toLower, decide_eq_decide]
  split <;> omega

/-- A set has a letter of ASCII in either case when it has the same places among the small letters
as among the capitals. -/
theorem testBit_toLower {set : Nat} (h : set >>> 0x61 % 2 ^ 26 = set >>> 0x41 % 2 ^ 26) (c : Char) :
    set.testBit c.toLower.toNat = set.testBit c.toNat := by
  rw [toNat_toLower]
  split
  · next hupper =>
      have hplace := congrArg (Nat.testBit · (c.toNat - 0x41)) h
      simp only [Nat.testBit_mod_two_pow, Nat.testBit_shiftRight] at hplace
      rw [decide_eq_true (by omega), Bool.true_and, Bool.true_and] at hplace
      rw [show c.toNat + 0x20 = 0x61 + (c.toNat - 0x41) by omega, hplace]
      congr 1
      omega
  · rfl

theorem isCased_toLower (c : Char) : isCased c.toLower = isCased c := by
  rw [isCased, isCased, ← testBit_rangeBits, ← testBit_rangeBits]
  exact testBit_toLower (tables_alike_in_ascii _ (by simp)) c

theorem isCaseIgnorable_toLower (c : Char) : isCaseIgnorable c.toLower = isCaseIgnorable c := by
  rw [isCaseIgnorable, isCaseIgnorable, ← testBit_rangeBits, ← testBit_rangeBits]
  exact testBit_toLower (tables_alike_in_ascii _ (by simp)) c

/-! ### Partners -/

theorem lowerPartner_of_isAscii {c : Char} (h : isAscii c = true) : lowerPartner c = c.toLower :=
  if_pos h

theorem toNat_ofNat {n : Nat} (h : n.isValidChar) : (Char.ofNat n).toNat = n := by
  rw [Char.ofNat, dif_pos h]
  rfl

/-- Outside ASCII a letter goes with itself, or it is listed and goes with a partner. -/
theorem lowerPartner_cases {c : Char} (h : isAscii c = false) :
    lowerPartner c = c ∨ capitals.testBit c.toNat = true ∧
      partners.testBit (lowerPartner c).toNat = true ∧ 0x5A < (lowerPartner c).toNat := by
  have hpartner : lowerPartner c = (shifted? lowerRuns c).getD c := by
    rw [lowerPartner, h]
    rfl
  cases hrun : lowerRuns.find? (fun r => r.contains c.toNat) with
  | none =>
      refine .inl ?_
      rw [hpartner, shifted?, hrun]
      rfl
  | some r =>
      have hcontains : r.contains c.toNat = true := by
        simpa using List.find?_some hrun
      obtain ⟨hcapital, hlisted, hvalid, hlow⟩ :=
        partner_of_run (List.mem_of_find?_eq_some hrun) hcontains
      have hchar : lowerPartner c = Char.ofNat (r.partner c.toNat) := by
        rw [hpartner, shifted?, hrun]
        rfl
      rw [hchar, toNat_ofNat hvalid]
      exact .inr ⟨hcapital, hlisted, hlow⟩

theorem lowerPartner_of_not_capital {c : Char} (hupper : ¬(0x41 ≤ c.toNat ∧ c.toNat ≤ 0x5A))
    (h : capitals.testBit c.toNat = false) : lowerPartner c = c := by
  cases hascii : isAscii c with
  | true => rw [lowerPartner_of_isAscii hascii, toLower_of_not_upper hupper]
  | false =>
      rcases lowerPartner_cases hascii with heq | ⟨hcapital, -⟩
      · exact heq
      · exact absurd (h.symm.trans hcapital) Bool.false_ne_true

theorem lowerPartner_toLower (c : Char) : lowerPartner c.toLower = lowerPartner c := by
  cases hascii : isAscii c with
  | true =>
      rw [lowerPartner_of_isAscii hascii, lowerPartner_of_isAscii ((isAscii_toLower c).trans hascii),
        toLower_toLower]
  | false =>
      have hle : ¬c.toNat < 0x80 := of_decide_eq_false hascii
      rw [toLower_of_not_upper (by omega)]

/-- A partner has no other partner than itself. -/
theorem lowerPartner_lowerPartner (c : Char) : lowerPartner (lowerPartner c) = lowerPartner c := by
  cases hascii : isAscii c with
  | true =>
      rw [lowerPartner_of_isAscii hascii, lowerPartner_toLower, lowerPartner_of_isAscii hascii]
  | false =>
      rcases lowerPartner_cases hascii with heq | ⟨-, hlisted, hlow⟩
      · rw [heq, heq]
      · exact lowerPartner_of_not_capital (by omega)
          (testBit_eq_false_of_disjoint tables_disjoint.1 hlisted)

/-- What is not paired is the partner of itself alone. -/
theorem testBit_lowerPartner {set : Nat} (h : paired &&& set = 0) (c : Char) :
    set.testBit (lowerPartner c).toNat = set.testBit c.toNat := by
  have hascii : ∀ d : Char, 0x41 ≤ d.toNat ∧ d.toNat ≤ 0x7A → paired.testBit d.toNat = true :=
    fun d hd => by
      rw [paired, Nat.testBit_or, testBit_rangeBits]
      simp [inRanges, hd]
  have hpaired : lowerPartner c = c ∨ paired.testBit c.toNat = true ∧
      paired.testBit (lowerPartner c).toNat = true := by
    cases hcase : isAscii c with
    | true =>
        rw [lowerPartner_of_isAscii hcase]
        by_cases hupper : 0x41 ≤ c.toNat ∧ c.toNat ≤ 0x5A
        · have hlower := toNat_toLower c
          rw [if_pos hupper] at hlower
          exact .inr ⟨hascii c (by omega), hascii c.toLower (by omega)⟩
        · exact .inl (toLower_of_not_upper hupper)
    | false =>
        rcases lowerPartner_cases hcase with heq | ⟨hcapital, hlisted, -⟩
        · exact .inl heq
        · exact .inr ⟨by simp [paired, Nat.testBit_or, hcapital],
            by simp [paired, Nat.testBit_or, hlisted]⟩
  rcases hpaired with heq | ⟨hcapital, hlisted⟩
  · rw [heq]
  · rw [testBit_eq_false_of_disjoint h hcapital, testBit_eq_false_of_disjoint h hlisted]

theorem isBlank_lowerPartner (c : Char) : isBlank (lowerPartner c) = isBlank c := by
  rw [isBlank_eq_testBit, isBlank_eq_testBit]
  exact testBit_lowerPartner tables_disjoint.2.1 c

theorem lowerPartner_eq_dotted {c : Char} : lowerPartner c = 'İ' ↔ c = 'İ' := by
  have hdotted : ∀ d : Char, d = 'İ' ↔ (rangeBits [(0x130, 0x130)]).testBit d.toNat = true :=
    fun d => by
      have hcode : d = 'İ' ↔ d.toNat = 0x130 := Char.toNat_inj.symm
      rw [hcode, testBit_rangeBits]
      simp [inRanges, Nat.le_antisymm_iff, and_comm]
  rw [hdotted, hdotted, testBit_lowerPartner tables_disjoint.2.2.1]

theorem lowerPartner_sigma : lowerPartner 'Σ' = 'σ' := by decide

theorem lowerPartner_ne_sigma (c : Char) : lowerPartner c ≠ 'Σ' := by
  intro h
  have htwice := lowerPartner_lowerPartner c
  rw [h, lowerPartner_sigma] at htwice
  exact absurd htwice (by decide)

/-! ### Ends of words -/

/-- A character that is no letter of a word and no mark on one. -/
def EndsWord (c : Char) : Prop := isCased c = false ∧ isCaseIgnorable c = false

theorem EndsWord.ne_sigma {c : Char} (h : EndsWord c) : c ≠ 'Σ' := by
  rintro rfl
  exact absurd h.1 (by decide)

theorem EndsWord.ne_dotted {c : Char} (h : EndsWord c) : c ≠ 'İ' := by
  rintro rfl
  exact absurd h.1 (by decide)

theorem endsWord_of_isBlank {c : Char} (h : isBlank c = true) : EndsWord c := by
  rw [isBlank_eq_testBit] at h
  have hletter := testBit_eq_false_of_disjoint tables_disjoint.2.2.2 h
  rw [Nat.testBit_or, Bool.or_eq_false_iff, testBit_rangeBits, testBit_rangeBits] at hletter
  exact hletter

theorem lowerPartner_of_isBlank {c : Char} (h : isBlank c = true) : lowerPartner c = c := by
  rw [isBlank_eq_testBit] at h
  have hpaired := testBit_eq_false_of_disjoint ((Nat.and_comm _ _).trans tables_disjoint.2.1) h
  rw [paired, Nat.testBit_or, Nat.testBit_or, testBit_rangeBits, Bool.or_eq_false_iff,
    Bool.or_eq_false_iff] at hpaired
  obtain ⟨⟨hcapital, -⟩, hascii⟩ := hpaired
  refine lowerPartner_of_not_capital (fun hupper => ?_) hcapital
  have hle : c.toNat ≤ 0x7A := by omega
  simp [inRanges, hupper.1, hle] at hascii

end SqlConnector.Text
