import Mathlib.Data.List.Lex
import Mathlib.Data.String.Basic

/-!
The order of texts is that of their bytes in UTF-8. A larger code point has more bytes with a larger
first one, or as many bytes, of which the first that differs is larger.
-/

namespace SqlConnector.Text

/-! ### The bytes of a character -/

/-- A byte of six bits that goes on with a character. -/
def continued (n : Nat) : UInt8 := UInt8.ofNat (0x80 + n % 0x40)

/-- A code point in a first byte, which counts from `base`, and so many bytes of six bits. -/
def spread (base : Nat) : Nat → Nat → List UInt8
  | 0, n => [UInt8.ofNat (base + n)]
  | more + 1, n => spread base more (n / 0x40) ++ [continued n]

/-- The bytes of a code point, by how many there are. -/
inductive Encoded (n : Nat) : List UInt8 → Prop where
  | one (lt : n < 0x80) : Encoded n (spread 0 0 n)
  | two (le : 0x80 ≤ n) (lt : n < 0x800) : Encoded n (spread 0xC0 1 n)
  | three (le : 0x800 ≤ n) (lt : n < 0x10000) : Encoded n (spread 0xE0 2 n)
  | four (le : 0x10000 ≤ n) (lt : n < 0x110000) : Encoded n (spread 0xF0 3 n)

theorem toNat_lt (c : Char) : c.toNat < 0x110000 := by
  rcases c.valid with hsmall | ⟨-, hlarge⟩
  · exact Nat.lt_trans hsmall (by decide)
  · exact hlarge

theorem encoded (c : Char) : Encoded c.toNat (String.utf8EncodeChar c) := by
  have hmax := toNat_lt c
  have hcontinued (n : Nat) : UInt8.ofNat (n % 0x40 + 0x80) = continued n := by
    rw [continued, Nat.add_comm]
  have hvalue : c.val.toNat = c.toNat := rfl
  simp only [String.utf8EncodeChar, hvalue, hcontinued]
  generalize c.toNat = n at *
  split
  · have h : Encoded n (spread 0 0 n) := .one (by omega)
    rwa [spread, Nat.zero_add] at h
  · split
    · have hfirst : n / 0x40 % 0x20 + 0xC0 = 0xC0 + n / 0x40 := by omega
      rw [hfirst]
      exact .two (by omega) (by omega)
    · split
      · have hfirst : n / 0x1000 % 0x10 + 0xE0 = 0xE0 + n / 0x40 / 0x40 := by omega
        rw [hfirst]
        exact .three (by omega) (by omega)
      · have hfirst : n / 0x40000 % 8 + 0xF0 = 0xF0 + n / 0x40 / 0x40 / 0x40 := by omega
        have hsecond : n / 0x1000 = n / 0x40 / 0x40 := by omega
        rw [hfirst, hsecond]
        exact .four (by omega) (by omega)

theorem ofNat_lt {m n : Nat} (h : m < n) (hn : n < 256) : UInt8.ofNat m < UInt8.ofNat n := by
  rw [UInt8.lt_iff_toNat_lt, UInt8.toNat_ofNat', UInt8.toNat_ofNat']
  omega

theorem exists_spread (base more n : Nat) :
    ∃ rest, spread base more n = UInt8.ofNat (base + n / 0x40 ^ more) :: rest := by
  induction more generalizing n with
  | zero => exact ⟨[], by rw [Nat.pow_zero, Nat.div_one]; rfl⟩
  | succ more ih =>
      obtain ⟨rest, hrest⟩ := ih (n / 0x40)
      refine ⟨rest ++ [continued n], ?_⟩
      rw [spread, hrest, Nat.div_div_eq_div_mul, Nat.pow_succ, Nat.mul_comm]
      rfl

/-- A smaller first byte is enough. -/
theorem spread_append_lt_of_first {base base' more more' m n : Nat}
    (h : base + m / 0x40 ^ more < base' + n / 0x40 ^ more') (hlt : base' + n / 0x40 ^ more' < 256)
    (s t : List UInt8) : spread base more m ++ s < spread base' more' n ++ t := by
  obtain ⟨rest, hm⟩ := exists_spread base more m
  obtain ⟨rest', hn⟩ := exists_spread base' more' n
  rw [hm, hn]
  exact List.cons_lt_cons_iff.mpr (.inl (ofNat_lt h hlt))

/-- Among as many bytes, the first that differs is of the smaller code point. -/
theorem spread_append_lt {base more m n : Nat} (h : m < n) (hlt : base + n / 0x40 ^ more < 256)
    (s t : List UInt8) : spread base more m ++ s < spread base more n ++ t := by
  induction more generalizing m n s t with
  | zero => exact spread_append_lt_of_first (by simpa using h) hlt s t
  | succ more ih =>
      rw [spread, spread, List.append_assoc, List.append_assoc]
      rcases Nat.lt_or_ge (m / 0x40) (n / 0x40) with hless | hge
      · rw [Nat.pow_succ, Nat.mul_comm, ← Nat.div_div_eq_div_mul] at hlt
        exact ih hless hlt _ _
      · have hsame : m / 0x40 = n / 0x40 := by omega
        have hlast : continued m < continued n := ofNat_lt (by omega) (by omega)
        rw [hsame]
        exact List.Lex.append_left _ (List.Lex.rel hlast) _

/-- The bytes of a smaller character are smaller, whatever follows. -/
theorem Encoded.append_lt {m n : Nat} {a b : List UInt8} (ha : Encoded m a) (hb : Encoded n b)
    (h : m < n) (s t : List UInt8) : a ++ s < b ++ t := by
  cases ha with
  | one lt =>
      cases hb with
      | one lt' => exact spread_append_lt h (by omega) s t
      | two le lt' => exact spread_append_lt_of_first (by omega) (by omega) s t
      | three le lt' => exact spread_append_lt_of_first (by omega) (by omega) s t
      | four le lt' => exact spread_append_lt_of_first (by omega) (by omega) s t
  | two le lt =>
      cases hb with
      | one lt' => omega
      | two le' lt' => exact spread_append_lt h (by omega) s t
      | three le' lt' => exact spread_append_lt_of_first (by omega) (by omega) s t
      | four le' lt' => exact spread_append_lt_of_first (by omega) (by omega) s t
  | three le lt =>
      cases hb with
      | one lt' => omega
      | two le' lt' => omega
      | three le' lt' => exact spread_append_lt h (by omega) s t
      | four le' lt' => exact spread_append_lt_of_first (by omega) (by omega) s t
  | four le lt =>
      cases hb with
      | one lt' => omega
      | two le' lt' => omega
      | three le' lt' => omega
      | four le' lt' => exact spread_append_lt h (by omega) s t

/-! ### The bytes of a text -/

/-- The bytes of a text in UTF-8. -/
def bytes (s : String) : List UInt8 := s.toByteArray.data.toList

theorem bytes_eq (s : String) : bytes s = s.toList.flatMap String.utf8EncodeChar := by
  rw [bytes, ← String.utf8Encode_toList, List.utf8Encode, List.toList_data_toByteArray]

theorem flatMap_lt {s t : List Char} (h : s < t) :
    s.flatMap String.utf8EncodeChar < t.flatMap String.utf8EncodeChar := by
  induction h with
  | @nil c t =>
      obtain ⟨b, bs, hbytes⟩ := List.exists_cons_of_ne_nil (String.utf8EncodeChar_ne_nil (c := c))
      rw [List.flatMap_cons, hbytes]
      exact List.Lex.nil
  | cons h ih => exact List.Lex.append_left _ ih _
  | rel h => exact (encoded _).append_lt (encoded _) h _ _

theorem bytes_lt {s t : String} (h : s < t) : bytes s < bytes t := by
  rw [bytes_eq, bytes_eq]
  exact flatMap_lt (String.lt_iff_toList_lt.mp h)

/-- Texts are in the order of their bytes. -/
theorem bytes_le_iff {s t : String} : bytes s ≤ bytes t ↔ s ≤ t := by
  constructor
  · intro h
    rcases lt_trichotomy s t with hlt | rfl | hgt
    · exact le_of_lt hlt
    · exact le_refl s
    · exact absurd (bytes_lt hgt) h
  · intro h hgt
    rcases lt_or_eq_of_le h with hlt | rfl
    · exact List.lt_asymm hgt (bytes_lt hlt)
    · exact List.lt_irrefl _ hgt

end SqlConnector.Text
