import Mathlib.Data.List.Forall2
import SqlConnector.Json.Value

/-!
A string is read back from its JSON text, whatever its characters are: each is written as itself, as
a backslash and a letter, or as a code unit, and each of these is read as the character.
-/

namespace SqlConnector.Json

namespace Document

/-! ### Single characters -/

/-- The pieces that stand for a character when it is written as JSON. -/
inductive Piece.Writes (c : Char) : Piece → Prop where
  | char : Writes c (.char c)
  | unit (control : c.toNat < 0x20) : Writes c (.unit c.toNat)

theorem readPieces_plain {c : Char} (hquote : c ≠ '"') (hslash : c ≠ '\\') (hlt : 0x20 ≤ c.toNat)
    (s : List Char) :
    readPieces (c :: s) = (readPieces s).map fun (pieces, rest) => (.char c :: pieces, rest) := by
  rw [readPieces.eq_def]
  split
  · contradiction
  · next h => exact absurd (List.cons.inj h).1 hquote
  · next h => exact absurd (List.cons.inj h).1 hslash
  · next h => exact absurd (List.cons.inj h).1 hslash
  · next h =>
      obtain ⟨rfl, rfl⟩ := List.cons.inj h
      rw [if_neg (by omega)]
      cases readPieces s <;> rfl

theorem readPieces_escaped {e c : Char} (he : e ≠ 'u') (h : escaped? e = some c)
    (s : List Char) :
    readPieces ('\\' :: e :: s) =
      (readPieces s).map fun (pieces, rest) => (.char c :: pieces, rest) := by
  rw [readPieces.eq_def]
  split
  · contradiction
  · next h => exact absurd (List.cons.inj h).1 (by decide)
  · next h => exact absurd (List.cons.inj (List.cons.inj h).2).1 he
  · next h' =>
      obtain ⟨rfl, rfl⟩ := List.cons.inj (List.cons.inj h').2
      rw [h]
      cases readPieces s <;> rfl
  · next hslash h' =>
      obtain ⟨rfl, rfl⟩ := List.cons.inj h'
      exact absurd rfl (hslash e s rfl)

theorem codeUnit?_hexChar :
    ∀ n < 0x20, codeUnit? '0' '0' (Value.hexChar (n / 16)) (Value.hexChar (n % 16)) = some n := by
  decide

theorem readPieces_unit {n : Nat} (h : n < 0x20) (s : List Char) :
    readPieces ('\\' :: 'u' :: '0' :: '0' :: Value.hexChar (n / 16) :: Value.hexChar (n % 16) :: s) =
      (readPieces s).map fun (pieces, rest) => (.unit n :: pieces, rest) := by
  rw [readPieces, codeUnit?_hexChar n h]
  cases readPieces s <;> rfl

theorem exists_readPieces_escape (c : Char) :
    ∃ piece, Piece.Writes c piece ∧ ∀ s, readPieces (Value.escape c ++ s) =
      (readPieces s).map fun (pieces, rest) => (piece :: pieces, rest) := by
  have hletter {e : Char} (he : e ≠ 'u') (h : escaped? e = some c) :
      ∃ piece, Piece.Writes c piece ∧ ∀ s, readPieces (['\\', e] ++ s) =
        (readPieces s).map fun (pieces, rest) => (piece :: pieces, rest) :=
    ⟨.char c, .char, readPieces_escaped he h⟩
  unfold Value.escape
  repeat
    split
    · next h => exact hletter (by decide) (congrArg some h.symm)
  split
  · next hlt => exact ⟨.unit c.toNat, .unit hlt, readPieces_unit hlt⟩
  · next hquote hslash _ _ _ _ _ hlt =>
      exact ⟨.char c, .char, readPieces_plain hquote hslash (by omega)⟩

/-! ### Whole strings -/

theorem exists_readPieces_flatMap (s rest : List Char) :
    ∃ pieces, List.Forall₂ Piece.Writes s pieces ∧
      readPieces (s.flatMap Value.escape ++ '"' :: rest) = some (pieces, rest) := by
  induction s with
  | nil => exact ⟨[], .nil, by rw [List.flatMap_nil, List.nil_append, readPieces]⟩
  | cons c s ih =>
      obtain ⟨pieces, hpieces, hread⟩ := ih
      obtain ⟨piece, hpiece, hescape⟩ := exists_readPieces_escape c
      refine ⟨piece :: pieces, .cons hpiece hpieces, ?_⟩
      rw [List.flatMap_cons, List.append_assoc, hescape, hread]
      rfl

theorem join?_of_writes {s : List Char} {pieces : List Piece}
    (h : List.Forall₂ Piece.Writes s pieces) : join? pieces = some s := by
  induction h with
  | nil => rfl
  | @cons c piece s pieces hpiece hpieces ih =>
      cases hpiece with
      | char => rw [join?, ih, Option.map_some]
      | unit control =>
          -- no control character is half of a surrogate pair, whatever comes after it
          have hlow : c.toNat < 0xD800 ∨ 0xE000 ≤ c.toNat := .inl (by omega)
          match pieces, ih with
          | [], ih =>
              obtain rfl : [] = s := Option.some.inj ih
              rw [join?, if_pos hlow, Char.ofNat_toNat]
          | .char d :: pieces, ih => rw [join?, if_pos hlow, ih, Char.ofNat_toNat, Option.map_some]
          | .unit n :: pieces, ih => rw [join?, if_pos hlow, ih, Char.ofNat_toNat, Option.map_some]

theorem tokens_quoted (s : String) : tokens (Value.quoted s) = some [.string (some s)] := by
  obtain ⟨pieces, hpieces, hread⟩ := exists_readPieces_flatMap s.toList []
  have hstring : stringOf pieces = some s := by
    rw [stringOf, join?_of_writes hpieces, Option.map_some, String.ofList_toList]
  have htoken : readToken (Value.quoted s) = some (.string (some s), []) := by
    rw [Value.quoted, List.cons_append, readToken, hread, ← hstring]
    rfl
  have hstart : (Value.quoted s).dropWhile isSpace = Value.quoted s := rfl
  have hend (n : Nat) : tokens.go n [] = some [] := by rw [tokens.go]
  rw [tokens, hstart]
  show tokens.go (_ + 1) ('"' :: _) = _
  rw [tokens.go, show readToken ('"' :: _) = _ from htoken]
  show (tokens.go _ []).bind _ = _
  rw [hend]
  rfl

end Document

/-- The JSON text of a string is read as this string. -/
theorem Value.read?_compact_string (s : String) :
    Value.read? (Value.string s).compact = some (.string s) := by
  have htext : (Value.string s).compact.toList = Value.quoted s := String.toList_ofList
  show (((Document.tokens _).bind _).bind _ : Option Value) = _
  rw [htext, Document.tokens_quoted]
  rfl

end SqlConnector.Json
