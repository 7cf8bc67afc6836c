import SqlConnector.Proofs.Sql.Lexeme

/-!
Texts with holes for operands and string literals. Where the fixed texts of a frame are balanced
together and keep the holes apart, what fills the holes is read as it is read alone: the lexemes
are those of the fixed texts with those of the fillings in between, and a frame around closed texts
is closed.
-/

namespace SqlConnector.Sql

def lexed (sql : String) : List Lexeme := (lex? sql).getD []

inductive Hole (n : Nat) where
  | operand (i : Fin n)
  | literal (s : String)

structure Frame (n : Nat) where
  parts : List (String × Hole n)
  last : String

variable {n : Nat}

namespace Hole

def sql (operands : Fin n → String) : Hole n → String
  | operand i => operands i
  | literal s => Sql.literal s

def lexemes (operands : Fin n → List Lexeme) : Hole n → List Lexeme
  | operand i => operands i
  | literal s => [.quoted .single s]

@[simp] theorem sql_operand (operands : Fin n → String) (i : Fin n) :
    (operand i).sql operands = operands i := rfl

@[simp] theorem sql_literal (operands : Fin n → String) (s : String) :
    (literal s).sql operands = Sql.literal s := rfl

@[simp] theorem lexemes_operand (operands : Fin n → List Lexeme) (i : Fin n) :
    (operand i).lexemes operands = operands i := rfl

@[simp] theorem lexemes_literal (operands : Fin n → List Lexeme) (s : String) :
    (literal s).lexemes operands = [.quoted .single s] := rfl

end Hole

namespace Frame

def fill (f : Frame n) (operands : Fin n → String) : String :=
  f.parts.foldr (fun (text, hole) rest => text ++ hole.sql operands ++ rest) f.last

def lexemes (f : Frame n) (operands : Fin n → List Lexeme) : List Lexeme :=
  f.parts.flatMap (fun (text, hole) => lexed text ++ hole.lexemes operands) ++ lexed f.last

/-- The fixed texts, one before each hole and one after all of them. -/
def texts (f : Frame n) : List String := f.parts.map Prod.fst ++ [f.last]

@[simp] theorem texts_ne_nil (f : Frame n) : f.texts ≠ [] := by
  simp [texts]

@[simp] theorem texts_nil (last : String) : texts (n := n) ⟨[], last⟩ = [last] := rfl

@[simp] theorem texts_cons (p : String × Hole n) (parts : List (String × Hole n)) (last : String) :
    texts ⟨p :: parts, last⟩ = p.1 :: texts ⟨parts, last⟩ := rfl

/-- The texts of a frame with the same hole after each of them but the last. -/
@[simp] theorem texts_map (texts : List String) (hole : Hole n) (last : String) :
    Frame.texts ⟨texts.map fun text => (text, hole), last⟩ = texts ++ [last] := by
  simp [Frame.texts, List.map_map, Function.comp_def]

end Frame

/-! ### What keeps texts apart -/

/-- A mark that can be part of no comment opener. -/
def isGap (c : Char) : Bool := isMark c && c ≠ '-' && c ≠ '/' && c ≠ '*'

def Lexeme.isGap : Lexeme → Bool
  | .mark c => Sql.isGap c
  | _ => false

def StartsInGap (sql : String) : Prop := sql.toList.head?.any isGap = true

instance (sql : String) : Decidable (StartsInGap sql) :=
  inferInstanceAs (Decidable (_ = true))

def EndsInGap (sql : String) : Prop :=
  EndsApart sql ∧ (lexed sql).getLast?.all Lexeme.isGap = true

instance (sql : String) : Decidable (EndsInGap sql) :=
  inferInstanceAs (Decidable (_ ∧ _ = true))

theorem lexed_eq {sql : String} {ls : List Lexeme} (h : lex? sql = some ls) : lexed sql = ls := by
  simp [lexed, h]

theorem lex?_eq_lexed {sql : String} (h : (lex? sql).isSome) : lex? sql = some (lexed sql) := by
  obtain ⟨ls, hls⟩ := Option.isSome_iff_exists.mp h
  rw [lexed_eq hls, hls]

theorem StartsInGap.exists_cons {s : String} (h : StartsInGap s) :
    ∃ c rest, s.toList = c :: rest ∧ isGap c = true := by
  cases hs : s.toList with
  | nil => simp [StartsInGap, hs] at h
  | cons c rest => exact ⟨c, rest, rfl, by simpa [StartsInGap, hs] using h⟩

theorem isMark_of_isGap {c : Char} (h : isGap c = true) : isMark c = true := by
  simp only [isGap, Bool.and_eq_true] at h
  exact h.1.1.1

theorem StartsInGap.append {s : String} (h : StartsInGap s) (t : String) :
    StartsInGap (s ++ t) := by
  obtain ⟨c, rest, hs, hgap⟩ := h.exists_cons
  simp [StartsInGap, hs, hgap]

theorem StartsInGap.startsApart {s : String} (h : StartsInGap s) : StartsApart s := by
  obtain ⟨c, rest, hs, hgap⟩ := h.exists_cons
  simp [StartsApart, hs, isMark_of_isGap hgap]

theorem StartsInGap.head?_lexeme {s : String} (h : StartsInGap s) {ls : List Lexeme}
    (hls : lex? s = some ls) : ∃ l ∈ ls.head?, l.isGap = true := by
  obtain ⟨c, rest, hs, hgap⟩ := h.exists_cons
  refine ⟨.mark c, ?_, hgap⟩
  obtain ⟨hquote, hword⟩ : Quote.ofChar? c = none ∧ isWordChar c = false := by
    simpa [isMark] using isMark_of_isGap hgap
  have hstep : Mode.outside.step c = (.outside, [.mark c]) := by
    simp [Mode.step, Mode.enter, hquote, hword]
  rw [lex?_eq_some, hs] at hls
  simp only [Mode.run, hstep] at hls
  rw [← hls.2]
  rfl

theorem opensComment_of_isGap_left {l : Lexeme} (h : l.isGap = true) (l' : Lexeme) :
    l.opensComment l' = false := by
  cases l with
  | mark c =>
      have hne : c ≠ '-' ∧ c ≠ '/' := by simp_all [Lexeme.isGap, isGap]
      simp [Lexeme.opensComment, hne]
  | word s => simp
  | quoted q s => simp

theorem opensComment_of_isGap_right (l : Lexeme) {l' : Lexeme} (h : l'.isGap = true) :
    l.opensComment l' = false := by
  cases l' with
  | mark c =>
      have hne : c ≠ '-' ∧ c ≠ '*' := by simp_all [Lexeme.isGap, isGap]
      simp [Lexeme.opensComment, hne]
  | word s => simp
  | quoted q s => simp

theorem CommentFree.append {ls ms : List Lexeme} (hls : CommentFree ls) (hms : CommentFree ms)
    (h : (∀ l ∈ ls.getLast?, l.isGap = true) ∨ ∃ l ∈ ms.head?, l.isGap = true) :
    CommentFree (ls ++ ms) := by
  refine List.isChain_append.mpr ⟨hls, hms, fun l hl l' hl' => ?_⟩
  rcases h with h | ⟨m, hm, hgap⟩
  · exact opensComment_of_isGap_left (h l hl) l'
  · obtain rfl : m = l' := Option.mem_unique hm hl'
    exact opensComment_of_isGap_right l hgap

/-! ### Sound frames -/

/-- A text of a frame: complete tokens, none of them a string, and no comment. -/
def IsFixed (sql : String) : Prop :=
  (lex? sql).isSome ∧ CommentFree (lexed sql) ∧ (lexed sql).filterMap Lexeme.string? = []

instance (sql : String) : Decidable (IsFixed sql) :=
  inferInstanceAs (Decidable (_ ∧ _ ∧ _))

/-- The texts of a frame that keep its holes apart and are balanced together. -/
def SoundTexts (texts : List String) : Prop :=
  (∀ s ∈ texts, IsFixed s) ∧ (∀ s ∈ texts.tail, StartsInGap s) ∧
    (∀ s ∈ texts.dropLast, EndsInGap s) ∧ depth? 0 (texts.flatMap lexed) = some 0

instance (texts : List String) : Decidable (SoundTexts texts) :=
  inferInstanceAs (Decidable (_ ∧ _ ∧ _ ∧ _))

namespace Frame

variable {operands : Fin n → String} {lexemes' : Fin n → List Lexeme}

@[simp] theorem fill_nil (last : String) : fill ⟨[], last⟩ operands = last := rfl

@[simp] theorem fill_cons (text : String) (hole : Hole n) (parts : List (String × Hole n))
    (last : String) :
    fill ⟨(text, hole) :: parts, last⟩ operands =
      text ++ (hole.sql operands ++ fill ⟨parts, last⟩ operands) :=
  String.append_assoc

/-- A text in two pieces, the second with all that follows, after the frame that ends in the first.
-/
theorem fill_concat (parts : List (String × Hole n)) (s t : String) (hole : Hole n)
    (last : String) :
    fill ⟨parts ++ [(s ++ t, hole)], last⟩ operands =
      fill ⟨parts, s⟩ operands ++ (t ++ (hole.sql operands ++ last)) := by
  induction parts with
  | nil => simp [String.append_assoc]
  | cons p rest ih =>
      obtain ⟨text, hole'⟩ := p
      rw [List.cons_append, fill_cons, fill_cons, ih]
      simp only [String.append_assoc]

@[simp] theorem lexemes_nil (last : String) : lexemes ⟨[], last⟩ lexemes' = lexed last := rfl

@[simp] theorem lexemes_cons (text : String) (hole : Hole n) (parts : List (String × Hole n))
    (last : String) :
    lexemes ⟨(text, hole) :: parts, last⟩ lexemes' =
      lexed text ++ (hole.lexemes lexemes' ++ lexemes ⟨parts, last⟩ lexemes') := by
  simp [lexemes]

theorem startsInGap_fill {parts : List (String × Hole n)} {last : String}
    (h : ∀ s ∈ texts ⟨parts, last⟩, StartsInGap s) :
    StartsInGap (fill ⟨parts, last⟩ operands) := by
  cases parts with
  | nil => exact h last (by simp)
  | cons p rest =>
      obtain ⟨text, hole⟩ := p
      rw [fill_cons]
      exact (h text (by simp)).append _

theorem lex?_hole (h : ∀ i, lex? (operands i) = some (lexemes' i)) (hole : Hole n) :
    lex? (hole.sql operands) = some (hole.lexemes lexemes') := by
  cases hole with
  | operand i => exact h i
  | literal s => exact lex?_literal s

theorem commentFree_hole (h : ∀ i, CommentFree (lexemes' i)) (hole : Hole n) :
    CommentFree (hole.lexemes lexemes') := by
  cases hole with
  | operand i => exact h i
  | literal s => exact List.isChain_singleton _

/-- The lexemes of a frame that is filled are those of its texts and of the fillings. -/
theorem lex?_fill (hlex : ∀ i, lex? (operands i) = some (lexemes' i))
    (hfree : ∀ i, CommentFree (lexemes' i)) (f : Frame n)
    (hfixed : ∀ s ∈ f.texts, IsFixed s) (hstarts : ∀ s ∈ f.texts.tail, StartsInGap s)
    (hends : ∀ s ∈ f.texts.dropLast, EndsInGap s) :
    lex? (f.fill operands) = some (f.lexemes lexemes') ∧ CommentFree (f.lexemes lexemes') := by
  obtain ⟨parts, last⟩ := f
  induction parts with
  | nil =>
      obtain ⟨hlast, hcomment, -⟩ := hfixed last (by simp)
      exact ⟨lex?_eq_lexed hlast, hcomment⟩
  | cons p rest ih =>
      obtain ⟨text, hole⟩ := p
      rw [texts_cons] at hfixed hstarts hends
      rw [List.dropLast_cons_of_ne_nil (texts_ne_nil _)] at hends
      obtain ⟨hrest, hcomment⟩ := ih (fun s hs => hfixed s (by simp [hs]))
        (fun s hs => hstarts s (List.mem_of_mem_tail hs)) fun s hs => hends s (by simp [hs])
      obtain ⟨htext, htextFree, -⟩ := hfixed text (by simp)
      obtain ⟨hapart, hgap⟩ := hends text (by simp)
      rw [Option.all_eq_true] at hgap
      have hstart : StartsInGap (fill ⟨rest, last⟩ operands) := startsInGap_fill hstarts
      rw [fill_cons, lexemes_cons]
      constructor
      · refine lex?_append (lex?_eq_lexed htext) ?_ (.inl hapart)
        exact lex?_append (lex?_hole hlex hole) hrest (.inr hstart.startsApart)
      · refine htextFree.append ?_ (.inl hgap)
        exact (commentFree_hole hfree hole).append hcomment (.inr (hstart.head?_lexeme hrest))

theorem depth?_hole (h : ∀ i, depth? 0 (lexemes' i) = some 0) (hole : Hole n) (k : Nat) :
    depth? k (hole.lexemes lexemes') = some k := by
  cases hole with
  | operand i => exact depth?_of_balanced (h i) k
  | literal s => rfl

/-- Only its texts change the depth. -/
theorem depth?_lexemes (h : ∀ i, depth? 0 (lexemes' i) = some 0) (f : Frame n) (k : Nat) :
    depth? k (f.lexemes lexemes') = depth? k (f.texts.flatMap lexed) := by
  obtain ⟨parts, last⟩ := f
  induction parts generalizing k with
  | nil => simp
  | cons p rest ih =>
      obtain ⟨text, hole⟩ := p
      rw [lexemes_cons, texts_cons, List.flatMap_cons, depth?_append, depth?_append]
      cases depth? k (lexed text) with
      | none => rfl
      | some j => simp only [Option.bind_some, depth?_append, depth?_hole h, ih]

/-- The strings of a frame are its literals and the strings of the operands. -/
theorem filterMap_lexemes (f : Frame n) (hfixed : ∀ s ∈ f.texts, IsFixed s) :
    (f.lexemes lexemes').filterMap Lexeme.string? =
      f.parts.flatMap fun p => (p.2.lexemes lexemes').filterMap Lexeme.string? := by
  obtain ⟨parts, last⟩ := f
  induction parts with
  | nil => simpa using (hfixed last (by simp)).2.2
  | cons p rest ih =>
      obtain ⟨text, hole⟩ := p
      have htext : (lexed text).filterMap Lexeme.string? = [] := (hfixed text (by simp)).2.2
      have hrest := ih fun s hs => hfixed s (List.mem_cons_of_mem text hs)
      rw [lexemes_cons, List.filterMap_append, List.filterMap_append, htext, hrest]
      rfl

end Frame

end SqlConnector.Sql
