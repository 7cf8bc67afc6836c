import Mathlib.Algebra.GroupWithZero.Nat
import Mathlib.Data.List.Basic
import Mathlib.Data.List.Induction
import Mathlib.Data.List.TakeWhile
import SqlConnector.Text.Cut
import SqlConnector.Text.Numeral

/-!
Numerals written and read. The digits of a number have its value, at any width; a numeral without
a leading zero is the digits of its value; and a run of digits ends where something else begins.
-/

namespace SqlConnector.Text

/-! ### Values of digits -/

theorem ofDigits_nil : ofDigits [] = 0 := rfl

theorem ofDigits_append (s t : List Char) :
    ofDigits (s ++ t) = 10 ^ t.length * ofDigits s + ofDigits t := by
  show Nat.ofDigitChars 10 (s ++ t) 0 = _
  rw [Nat.ofDigitChars_append, Nat.ofDigitChars_eq_ofDigitChars_zero]
  rfl

theorem ofDigits_concat (s : List Char) (c : Char) :
    ofDigits (s ++ [c]) = 10 * ofDigits s + digitValue c := by
  simp [ofDigits]

theorem ofDigits_digits (n : Nat) : ofDigits (digits n) = n := Nat.ofDigitChars_ten_toDigits

theorem ofDigits_padded (width n : Nat) : ofDigits (padded width n) = n := by
  rw [padded, ofDigits_append, ofDigits_digits]
  show _ * Nat.ofDigitChars 10 (List.replicate _ '0') 0 + n = n
  rw [Nat.ofDigitChars_replicate_zero]
  omega

theorem digitValue_lt {c : Char} (h : c.isDigit = true) : digitValue c < 10 := by
  have hc := Char.isDigit_iff_toNat.mp h
  have hzero : '0'.toNat = 48 := rfl
  have hnine : '9'.toNat = 57 := rfl
  unfold digitValue
  omega

theorem ofDigits_lt {s : List Char} (h : ∀ c ∈ s, c.isDigit = true) :
    ofDigits s < 10 ^ s.length := by
  induction s using List.reverseRecOn with
  | nil => decide
  | append_singleton s c ih =>
      have hs := ih fun d hd => h d (List.mem_append_left _ hd)
      have hc := digitValue_lt (h c (by simp))
      rw [ofDigits_concat, List.length_append, List.length_singleton, Nat.pow_succ]
      omega

/-! ### Digits of a number -/

theorem isDigit_of_mem_digits {n : Nat} {c : Char} (h : c ∈ digits n) : c.isDigit = true :=
  Nat.isDigit_of_mem_toDigits (by decide) (by decide) h

theorem not_mem_digits {c : Char} (h : c.isDigit = false) (n : Nat) : c ∉ digits n := by
  intro hc
  rw [isDigit_of_mem_digits hc] at h
  contradiction

theorem isDigit_of_mem_padded {width n : Nat} {c : Char} (h : c ∈ padded width n) :
    c.isDigit = true := by
  rcases List.mem_append.mp h with h | h
  · rw [(List.mem_replicate.mp h).2]
    rfl
  · exact isDigit_of_mem_digits h

theorem toList_toString (n : Nat) : (toString n).toList = digits n := by
  rw [Nat.toString_eq_repr, Nat.repr_eq_ofList_toDigits, String.toList_ofList]
  rfl

theorem digits_ne_nil (n : Nat) : digits n ≠ [] := Nat.toDigits_ne_nil

theorem padded_ne_nil (width n : Nat) : padded width n ≠ [] := by
  simp [padded, digits_ne_nil]

theorem length_padded {width n : Nat} (hwidth : 0 < width) (h : n < 10 ^ width) :
    (padded width n).length = width := by
  have hlength : (digits n).length ≤ width := (Nat.length_toDigits_le_iff (by decide) hwidth).mpr h
  rw [padded, List.length_append, List.length_replicate]
  omega

theorem isNumeral_iff {s : List Char} :
    isNumeral s = true ↔ s ≠ [] ∧ ∀ c ∈ s, c.isDigit = true := by
  simp [isNumeral]

theorem isNumeral_digits (n : Nat) : isNumeral (digits n) = true :=
  isNumeral_iff.mpr ⟨digits_ne_nil n, fun _ => isDigit_of_mem_digits⟩

/-! ### Numerals without a leading zero -/

/-- A character that is a digit is the digit of its value. -/
theorem digitChar_digitValue {c : Char} (h : c.isDigit = true) :
    Nat.digitChar (digitValue c) = c := by
  have hc := Char.isDigit_iff_toNat.mp h
  have hzero : '0'.toNat = 48 := rfl
  apply Char.toNat_inj.mp
  rw [Nat.toNat_digitChar_of_lt_ten (digitValue_lt h)]
  unfold digitValue
  omega

theorem head?_digits {n : Nat} (h : n ≠ 0) : (digits n).head? ≠ some '0' := by
  induction n using Nat.strongRecOn with
  | ind n ih =>
      by_cases hn : n < 10
      · rw [digits, Nat.toDigits_of_lt_base hn]
        intro hzero
        have hvalue := congrArg Char.toNat (Option.some.inj hzero)
        rw [Nat.toNat_digitChar_of_lt_ten hn] at hvalue
        have : '0'.toNat = 48 := rfl
        omega
      · rw [digits, Nat.toDigits_of_base_le (by decide) (by omega),
          List.head?_append_of_ne_nil _ Nat.toDigits_ne_nil]
        exact ih (n / 10) (by omega) (by omega)

/-- The digits of a value are the numeral that it was read from, unless that has a leading zero. -/
theorem digits_ofDigits {s : List Char} (hs : isNumeral s = true) (hzero : s.head? ≠ some '0') :
    digits (ofDigits s) = s := by
  rw [isNumeral_iff] at hs
  obtain ⟨hne, hdigits⟩ := hs
  induction s using List.reverseRecOn with
  | nil => exact absurd rfl hne
  | append_singleton s c ih =>
      have hc := hdigits c (by simp)
      have hlt := digitValue_lt hc
      rw [ofDigits_concat, digits]
      by_cases hnil : s = []
      · subst hnil
        rw [ofDigits_nil, Nat.mul_zero, Nat.zero_add, Nat.toDigits_of_lt_base hlt,
          digitChar_digitValue hc]
        rfl
      · -- what stands before the last digit is a numeral of this kind too, so it is not zero
        rw [List.head?_append_of_ne_nil _ hnil] at hzero
        have hs := ih hzero hnil fun d hd => hdigits d (List.mem_append_left _ hd)
        have hpos : 0 < ofDigits s := by
          rw [Nat.pos_iff_ne_zero]
          intro hvalue
          rw [hvalue] at hs
          exact hzero (by rw [← hs]; rfl)
        rw [← Nat.toDigits_append_toDigits (by decide) hpos hlt, Nat.toDigits_of_lt_base hlt,
          digitChar_digitValue hc]
        exact congrArg (· ++ [c]) hs

/-! ### Reading a number -/

theorem unsigned?_eq_some {bound n : Nat} {s : List Char} :
    unsigned? bound s = some n ↔ isNumeral s = true ∧ ofDigits s = n ∧ n < bound := by
  unfold unsigned?
  split
  · next h =>
      rw [Option.some.injEq]
      constructor
      · rintro rfl
        exact ⟨h.1, rfl, h.2⟩
      · exact fun h => h.2.1
  · next h =>
      constructor
      · intro hnone
        contradiction
      · rintro ⟨hs, rfl, hlt⟩
        exact absurd ⟨hs, hlt⟩ h

theorem unsigned?_plus (bound : Nat) (s : List Char) : unsigned? bound ('+' :: s) = none := by
  simp [unsigned?, isNumeral]

theorem plusUnsigned?_eq_some {bound n : Nat} {s : List Char} :
    plusUnsigned? bound s = some n ↔
      ∃ ds, (s = ds ∨ s = '+' :: ds) ∧ unsigned? bound ds = some n := by
  unfold plusUnsigned?
  split
  · next ds =>
      constructor
      · exact fun h => ⟨ds, .inr rfl, h⟩
      · rintro ⟨es, rfl | hes, h⟩
        · simp [unsigned?_plus] at h
        · obtain rfl : ds = es := by simpa using hes
          exact h
  · next hsign =>
      constructor
      · exact fun h => ⟨s, .inl rfl, h⟩
      · rintro ⟨es, rfl | rfl, h⟩
        · exact h
        · exact absurd rfl (hsign es)

/-- What does not begin with a digit ends the digits before it. -/
def EndsDigits (s : List Char) : Prop := ∀ c ∈ s.head?, c.isDigit = false

theorem endsDigits_nil : EndsDigits [] := by simp [EndsDigits]

theorem endsDigits_cons {c : Char} {s : List Char} : EndsDigits (c :: s) ↔ c.isDigit = false := by
  simp [EndsDigits]

theorem spanDigits_append {ds rest : List Char} (hds : ∀ c ∈ ds, c.isDigit = true)
    (hrest : EndsDigits rest) : spanDigits (ds ++ rest) = (ds, rest) := by
  unfold spanDigits
  rw [List.takeWhile_append_of_pos hds, List.dropWhile_append_of_pos hds]
  cases rest with
  | nil => simp
  | cons c rest => simp [endsDigits_cons.mp hrest]

/-- A text is its leading digits and a rest that does not begin with one. -/
theorem exists_spanDigits (s : List Char) :
    ∃ ds rest, spanDigits s = (ds, rest) ∧ s = ds ++ rest ∧ (∀ c ∈ ds, c.isDigit = true) ∧
      EndsDigits rest := by
  refine ⟨_, _, rfl, List.takeWhile_append_dropWhile.symm, ?_, ?_⟩
  · intro c hc
    exact List.mem_takeWhile_imp hc
  · intro c hc
    cases hrest : s.dropWhile Char.isDigit with
    | nil => simp [hrest] at hc
    | cons d rest =>
        obtain rfl : d = c := by simpa [hrest] using hc
        have hd := List.head?_dropWhile_not Char.isDigit s
        simpa [hrest] using hd

end SqlConnector.Text
