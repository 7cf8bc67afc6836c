import Mathlib.Data.List.Chain
import SqlConnector.Sql.Presto

/-!
Reading SQL as lexemes. Quotes of both kinds delimit tokens in which a quote is written twice; what
stands outside of them are words and single marks. A text is closed when it ends outside of quotes,
its parentheses are balanced, and no two of its marks open a comment.
-/

namespace SqlConnector.Sql

inductive Quote where
  | single
  | double
  deriving DecidableEq, Repr

namespace Quote

def char : Quote → Char
  | single => '\''
  | double => '"'

def ofChar? (c : Char) : Option Quote :=
  if c = '\'' then some single else if c = '"' then some double else none

@[simp] theorem ofChar?_char (q : Quote) : ofChar? q.char = some q := by cases q <;> rfl

end Quote

inductive Lexeme where
  | mark (c : Char)
  | word (s : String)
  | quoted (q : Quote) (s : String)
  deriving DecidableEq, Repr

def isWordChar (c : Char) : Bool := c.isAlphanum || c = '_' || c = '.'

/-- A character that is part of no word and no quoted token. -/
def isMark (c : Char) : Bool := (Quote.ofChar? c).isNone && !isWordChar c

/-- Where a reader is: outside of all tokens, in a word, inside quotes, or after a quote that either
ends the token or is the first of two. The characters of the token so far come along. -/
inductive Mode where
  | outside
  | word (cs : List Char)
  | inside (q : Quote) (cs : List Char)
  | closing (q : Quote) (cs : List Char)
  deriving DecidableEq, Repr

namespace Mode

/-- Writes a character that is part of no token before it. -/
def enter (c : Char) : Mode × List Lexeme :=
  match Quote.ofChar? c with
  | some q => (inside q [], [])
  | none => if isWordChar c then (word [c], []) else (outside, [.mark c])

/-- The token that is over when the next character is not part of it. -/
def token : Mode → List Lexeme
  | outside => []
  | word cs => [.word (String.ofList cs)]
  | inside _ _ => []
  | closing q cs => [.quoted q (String.ofList cs)]

@[simp] theorem token_outside : outside.token = [] := rfl

@[simp] theorem token_word (cs : List Char) : (word cs).token = [.word (String.ofList cs)] := rfl

@[simp] theorem token_closing (q : Quote) (cs : List Char) :
    (closing q cs).token = [.quoted q (String.ofList cs)] := rfl

/-- Writes one character, which may end a token and begin another. -/
def step (m : Mode) (c : Char) : Mode × List Lexeme :=
  let next := ((enter c).1, m.token ++ (enter c).2)
  match m with
  | outside => next
  | word cs => if isWordChar c then (word (cs ++ [c]), []) else next
  | inside q cs => if c = q.char then (closing q cs, []) else (inside q (cs ++ [c]), [])
  | closing q cs => if c = q.char then (inside q (cs ++ [c]), []) else next

@[simp] theorem step_outside_char (q : Quote) : outside.step q.char = (inside q [], []) := by
  simp [step, enter]

@[simp] theorem step_inside_char (q : Quote) (cs : List Char) :
    (inside q cs).step q.char = (closing q cs, []) := by
  simp [step]

@[simp] theorem step_inside_of_ne {q : Quote} {c : Char} (hc : c ≠ q.char) (cs : List Char) :
    (inside q cs).step c = (inside q (cs ++ [c]), []) := by
  simp [step, hc]

@[simp] theorem step_closing_char (q : Quote) (cs : List Char) :
    (closing q cs).step q.char = (inside q (cs ++ [q.char]), []) := by
  simp [step]

@[simp] def run (m : Mode) : List Char → Mode × List Lexeme
  | [] => (m, [])
  | c :: rest => (((m.step c).1.run rest).1, (m.step c).2 ++ ((m.step c).1.run rest).2)

def isInside : Mode → Bool
  | inside _ _ => true
  | _ => false

@[simp] theorem isInside_closing (q : Quote) (cs : List Char) :
    (closing q cs).isInside = false := rfl

end Mode

/-- The lexemes of a text, unless it ends inside quotes. -/
def lex? (sql : String) : Option (List Lexeme) :=
  let (m, ls) := Mode.outside.run sql.toList
  if m.isInside then none else some (ls ++ m.token)

/-- The depth after a lexeme: one more or one less, or below nothing. -/
def Lexeme.nest (n : Nat) (l : Lexeme) : Option Nat :=
  if l = .mark '(' then some (n + 1)
  else if l = .mark ')' then (if n = 0 then none else some (n - 1))
  else some n

/-- The depth after some lexemes, unless it goes below nothing. -/
def depth? (n : Nat) (ls : List Lexeme) : Option Nat := ls.foldlM Lexeme.nest n

@[simp] theorem depth?_nil (n : Nat) : depth? n [] = some n := rfl

@[simp] theorem depth?_cons (n : Nat) (l : Lexeme) (ls : List Lexeme) :
    depth? n (l :: ls) = (l.nest n).bind fun k => depth? k ls := rfl

def Lexeme.opensComment (l l' : Lexeme) : Bool :=
  (l = .mark '-' && l' = .mark '-') || (l = .mark '/' && l' = .mark '*')

section

variable (q : Quote) (s : String) (l : Lexeme)

@[simp] theorem opensComment_word_left : (Lexeme.word s).opensComment l = false := by
  simp [Lexeme.opensComment]

@[simp] theorem opensComment_word_right : l.opensComment (.word s) = false := by
  simp [Lexeme.opensComment]

@[simp] theorem opensComment_quoted_left : (Lexeme.quoted q s).opensComment l = false := by
  simp [Lexeme.opensComment]

@[simp] theorem opensComment_quoted_right : l.opensComment (.quoted q s) = false := by
  simp [Lexeme.opensComment]

end

/-- No two lexemes in a row open a comment. -/
def CommentFree (ls : List Lexeme) : Prop := ls.IsChain fun l l' => l.opensComment l' = false

instance (ls : List Lexeme) : Decidable (CommentFree ls) :=
  inferInstanceAs (Decidable (ls.IsChain _))

/-- A text that is complete in itself. -/
def Closed (sql : String) : Prop := ∃ ls ∈ lex? sql, depth? 0 ls = some 0 ∧ CommentFree ls

instance (sql : String) : Decidable (Closed sql) :=
  inferInstanceAs (Decidable (∃ ls ∈ lex? sql, depth? 0 ls = some 0 ∧ CommentFree ls))

/-- The value of a string literal. -/
def Lexeme.string? : Lexeme → Option String
  | .quoted .single s => some s
  | _ => none

/-! ### One text after another -/

namespace Mode

variable {m : Mode}

theorem run_append (m : Mode) (s t : List Char) :
    m.run (s ++ t) = (((m.run s).1.run t).1, (m.run s).2 ++ ((m.run s).1.run t).2) := by
  induction s generalizing m with
  | nil => rfl
  | cons c rest ih => simp [ih]

/-- A mark ends the token before it. -/
theorem run_cons_of_isMark (hm : m.isInside = false) {c : Char} (hc : isMark c = true)
    (t : List Char) :
    m.run (c :: t) = ((outside.run (c :: t)).1, m.token ++ (outside.run (c :: t)).2) := by
  obtain ⟨hquote, hword⟩ : Quote.ofChar? c = none ∧ isWordChar c = false := by
    simpa [isMark] using hc
  have hstep : m.step c = ((outside.step c).1, m.token ++ (outside.step c).2) := by
    cases m with
    | outside => rfl
    | word cs => simp [step, hword]
    | inside q cs => simp [isInside] at hm
    | closing q cs =>
        have hne : c ≠ q.char := by
          rintro rfl
          simp at hquote
        simp [step, hne]
  simp only [run, hstep, List.append_assoc]

end Mode

/-- A text whose first character is a mark, if it has any, can stand after any other. -/
def StartsApart (sql : String) : Prop := sql.toList.head?.all isMark = true

instance (sql : String) : Decidable (StartsApart sql) :=
  inferInstanceAs (Decidable (_ = true))

/-- A text that leaves the reader outside of all tokens can stand before any other. -/
def EndsApart (sql : String) : Prop := (Mode.outside.run sql.toList).1 = .outside

instance (sql : String) : Decidable (EndsApart sql) :=
  inferInstanceAs (Decidable (_ = Mode.outside))

theorem lex?_eq_some {sql : String} {ls : List Lexeme} :
    lex? sql = some ls ↔ (Mode.outside.run sql.toList).1.isInside = false ∧
      (Mode.outside.run sql.toList).2 ++ (Mode.outside.run sql.toList).1.token = ls := by
  unfold lex?
  generalize Mode.outside.run sql.toList = r
  obtain ⟨m, out⟩ := r
  cases h : m.isInside <;> simp [h]

/-- The lexemes of one text after another, when these do not touch. -/
theorem lex?_append {s t : String} {ls ms : List Lexeme} (hs : lex? s = some ls)
    (ht : lex? t = some ms) (h : EndsApart s ∨ StartsApart t) :
    lex? (s ++ t) = some (ls ++ ms) := by
  rw [lex?_eq_some] at hs ht ⊢
  obtain ⟨hm, rfl⟩ := hs
  obtain ⟨hn, rfl⟩ := ht
  rw [String.toList_append, Mode.run_append]
  rcases h with h | h
  · rw [show (Mode.outside.run s.toList).1 = .outside from h]
    exact ⟨hn, by simp⟩
  · cases hcs : t.toList with
    | nil => simpa using hm
    | cons c rest =>
        have hc : isMark c = true := by simpa [StartsApart, hcs] using h
        rw [Mode.run_cons_of_isMark hm hc]
        rw [hcs] at hn
        exact ⟨hn, by simp⟩

/-! ### Literals -/

theorem run_doubleQuotes (q : Quote) (cs s : List Char) :
    (Mode.inside q cs).run (doubleQuotes q.char s ++ [q.char]) =
      (.closing q (cs ++ s), []) := by
  induction s generalizing cs with
  | nil => simp
  | cons c rest ih =>
      by_cases hc : c = q.char
      · simp [hc, ih]
      · simp [hc, ih]

/-- A quoted text is one token with that text as its value. -/
theorem lex?_quote (q : Quote) (s : String) : lex? (quote q.char s) = some [.quoted q s] := by
  rw [lex?_eq_some, quote, String.toList_ofList]
  simp [run_doubleQuotes]

theorem lex?_literal (s : String) : lex? (literal s) = some [.quoted .single s] :=
  lex?_quote .single s

theorem doubleQuotes_of_not_mem {q : Char} {s : List Char} (h : q ∉ s) : doubleQuotes q s = s := by
  induction s with
  | nil => rfl
  | cons c rest ih =>
      obtain ⟨hc, hrest⟩ := not_or.mp (mt List.mem_cons.mpr h)
      simp [Ne.symm hc, ih hrest]

/-- A text without quotes is a literal between two of them. -/
theorem literal_of_not_mem {s : String} (h : '\'' ∉ s.toList) : literal s = "'" ++ s ++ "'" := by
  apply String.toList_inj.mp
  simp [literal, quote, doubleQuotes_of_not_mem h]

/-! ### Depth -/

theorem depth?_append (n : Nat) (ls ms : List Lexeme) :
    depth? n (ls ++ ms) = (depth? n ls).bind fun k => depth? k ms :=
  List.foldlM_append

theorem Lexeme.nest_add {n k : Nat} {l : Lexeme} (h : l.nest n = some k) (m : Nat) :
    l.nest (n + m) = some (k + m) := by
  unfold nest at h ⊢
  split
  · simp_all
    omega
  · split
    · simp_all
      omega
    · simp_all

theorem depth?_add {n k : Nat} {ls : List Lexeme} (h : depth? n ls = some k) (m : Nat) :
    depth? (n + m) ls = some (k + m) := by
  induction ls generalizing n with
  | nil =>
      obtain rfl : n = k := by simpa [depth?] using h
      rfl
  | cons l rest ih =>
      obtain ⟨j, hj, hrest⟩ := Option.bind_eq_some_iff.mp h
      exact Option.bind_eq_some_iff.mpr ⟨j + m, Lexeme.nest_add hj m, ih hrest⟩

/-- Lexemes that are balanced make no difference to the depth. -/
theorem depth?_of_balanced {ls : List Lexeme} (h : depth? 0 ls = some 0) (n : Nat) :
    depth? n ls = some n := by
  simpa using depth?_add h n

end SqlConnector.Sql
