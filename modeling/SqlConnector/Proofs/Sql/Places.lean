import SqlConnector.Proofs.Sql.Closed
import SqlConnector.Proofs.Sql.Precedence

/-!
The places in the SQL of a term where the SQL of an operand stands, and the infix operators that
the call around it writes beside it. Blanks are left out: what is beside an operand is the next
lexeme that is not blank.
-/

namespace SqlConnector.Sql

variable {n : Nat}

def tokens (ls : List Lexeme) : List Lexeme := ls.filter (· ≠ .mark ' ')

def tokensOf (sql : String) : List Lexeme := tokens (lexed sql)

@[simp] theorem tokensOf_empty : tokensOf "" = [] := by decide

theorem depth?_tokens (k : Nat) (ls : List Lexeme) : depth? k (tokens ls) = depth? k ls := by
  induction ls generalizing k with
  | nil => rfl
  | cons l rest ih =>
      by_cases hl : l = .mark ' '
      · subst hl
        exact ih k
      · have hcons : tokens (l :: rest) = l :: tokens rest := by simp [tokens, hl]
        rw [hcons]
        simp only [depth?, List.foldlM_cons] at ih ⊢
        cases l.nest k with
        | none => rfl
        | some j => exact ih j

namespace Frame

/-- The tokens of a frame by those of the operands. -/
def tokens (f : Frame n) (operands : Fin n → List Lexeme) : List Lexeme :=
  f.parts.flatMap (fun (text, hole) => tokensOf text ++ hole.lexemes operands) ++ tokensOf f.last

@[simp] theorem tokens_nil (last : String) (operands : Fin n → List Lexeme) :
    tokens ⟨[], last⟩ operands = tokensOf last := rfl

@[simp] theorem tokens_cons (text : String) (hole : Hole n) (parts : List (String × Hole n))
    (last : String) (operands : Fin n → List Lexeme) :
    tokens ⟨(text, hole) :: parts, last⟩ operands =
      tokensOf text ++ (hole.lexemes operands ++ tokens ⟨parts, last⟩ operands) := by
  simp [tokens]

theorem tokens_lexemes (f : Frame n) (operands : Fin n → List Lexeme) :
    Sql.tokens (f.lexemes operands) = f.tokens fun i => Sql.tokens (operands i) := by
  have hhole (hole : Hole n) : Sql.tokens (hole.lexemes operands) =
      hole.lexemes fun i => Sql.tokens (operands i) := by
    cases hole with
    | operand i => rfl
    | literal s => rfl
  obtain ⟨parts, last⟩ := f
  induction parts with
  | nil => rfl
  | cons p rest ih =>
      obtain ⟨text, hole⟩ := p
      simp only [Sql.tokens] at ih hhole
      rw [lexemes_cons, tokens_cons]
      simp only [Sql.tokens, List.filter_append, ih, hhole]
      rfl

/-- A frame around one of its operands. -/
theorem tokens_split (toks : Fin n → List Lexeme) (l : List (String × Hole n)) (text : String)
    (i : Fin n) (r : List (String × Hole n)) (last : String) :
    tokens ⟨l ++ (text, .operand i) :: r, last⟩ toks =
      tokens ⟨l, text⟩ toks ++ toks i ++ tokens ⟨r, last⟩ toks := by
  simp [tokens]

end Frame

/-! ### Places -/

/-- A place of an operand: what the call that it belongs to writes before and after it, and what
stands before and after that call. -/
structure Place where
  front : List Lexeme
  before : List Lexeme
  operand : Term
  after : List Lexeme
  back : List Lexeme

namespace Term

def tokens (t : Term) : List Lexeme := Sql.tokens t.lexemes

theorem tokens_call (op : Operator n) (operands : Fin n → Term) :
    (call op operands).tokens = op.frame.tokens fun i => (operands i).tokens :=
  op.frame.tokens_lexemes _

end Term

namespace Place

def tokens (p : Place) : List Lexeme :=
  p.front ++ p.before ++ p.operand.tokens ++ p.after ++ p.back

/-- A place with more before and after it. -/
def within (p : Place) (front back : List Lexeme) : Place :=
  { p with front := front ++ p.front, back := p.back ++ back }

@[simp] theorem within_nil (p : Place) : p.within [] [] = p := by simp [within]

@[simp] theorem within_within (p : Place) (front front' back back' : List Lexeme) :
    (p.within front back).within front' back' = p.within (front' ++ front) (back ++ back') := by
  simp [within]

/-- The operators that the call writes directly beside the operand apply to all of it. -/
def Whole (chains : Bool) (p : Place) : Prop :=
  (∀ k ∈ p.after.head?.bind Lexeme.between?,
    LeftOperand chains k (p.front ++ p.before) p.operand.tokens) ∧
  ∀ k ∈ p.before.getLast?.bind Lexeme.between?,
    RightOperand k p.operand.tokens (p.after ++ p.back)

end Place

namespace Term

/-- The operands of a term's own call and those further inside, each at all its places. -/
inductive HasPlace : Term → Place → Prop where
  | own {n : Nat} {op : Operator n} {operands : Fin n → Term} {l r : List (String × Hole n)}
      {text : String} {i : Fin n} (parts_eq : op.frame.parts = l ++ (text, .operand i) :: r) :
      HasPlace (call op operands) ⟨[], Frame.tokens ⟨l, text⟩ fun i => (operands i).tokens,
        operands i, Frame.tokens ⟨r, op.frame.last⟩ fun i => (operands i).tokens, []⟩
  | inner {n : Nat} {op : Operator n} {operands : Fin n → Term} {l r : List (String × Hole n)}
      {text : String} {i : Fin n} {p : Place}
      (parts_eq : op.frame.parts = l ++ (text, .operand i) :: r) (place : HasPlace (operands i) p) :
      HasPlace (call op operands) (p.within (Frame.tokens ⟨l, text⟩ fun i => (operands i).tokens)
        (Frame.tokens ⟨r, op.frame.last⟩ fun i => (operands i).tokens))

/-- A place splits the tokens of the term. -/
theorem HasPlace.tokens_eq {t : Term} {p : Place} (h : t.HasPlace p) : p.tokens = t.tokens := by
  induction h with
  | @own n op operands l r text i parts_eq =>
      have hsplit := Frame.tokens_split (fun i => (operands i).tokens) l text i r op.frame.last
      rw [← parts_eq] at hsplit
      rw [tokens_call]
      simpa [Place.tokens] using hsplit.symm
  | @inner n op operands l r text i p parts_eq place ih =>
      have hsplit := Frame.tokens_split (fun i => (operands i).tokens) l text i r op.frame.last
      rw [← parts_eq, ← ih] at hsplit
      rw [tokens_call]
      simpa [Place.tokens, Place.within] using hsplit.symm

end Term

/-! ### What operators write beside their operands -/

namespace Operator

/-- The loosest operator that a call shows outside of brackets. -/
def level? : Operator n → Option Level
  | add .. | indexOf => some .sum
  | contains | isNull => some .predicate
  | _ => none

/-- The infix operator that a call writes after an operand. -/
def after? : Operator n → Fin n → Option Level
  | convert .., _ => some .zone
  | add .., _ => some .sum
  | isNull, _ => some .predicate
  | contains, 1 | indexOf, 1 => some .predicate
  | isIn, 0 => some .predicate
  | _, _ => none

/-- The infix operator that a call writes before an operand. -/
def before? : Operator n → Fin n → Option Level
  | contains, 0 | indexOf, 0 => some .predicate
  | _, _ => none

end Operator

namespace Frame

/-- The text after a hole with the parts `r` after it. -/
def next (r : List (String × Hole n)) (last : String) : String := (r.head?.map Prod.fst).getD last

@[simp] theorem next_nil (last : String) : next (n := n) [] last = last := rfl

@[simp] theorem next_cons (p : String × Hole n) (r : List (String × Hole n)) (last : String) :
    next (p :: r) last = p.1 := rfl

/-- Every operand with the texts before and after it. -/
def holes (f : Frame n) : List (String × Fin n × String) := go f.parts
where
  go : List (String × Hole n) → List (String × Fin n × String)
    | [] => []
    | (text, .operand i) :: r => (text, i, next r f.last) :: go r
    | (_, .literal _) :: r => go r

theorem mem_holes {f : Frame n} {l r : List (String × Hole n)} {text : String} {i : Fin n}
    (h : f.parts = l ++ (text, .operand i) :: r) : (text, i, next r f.last) ∈ f.holes := by
  rw [holes, h]
  clear h
  induction l with
  | nil => exact List.mem_cons_self
  | cons p rest ih =>
      obtain ⟨text', hole⟩ := p
      cases hole with
      | operand j => exact List.mem_cons_of_mem _ ih
      | literal s => exact ih

end Frame

/-- The texts around a hole agree with the operators `before` and `after` it. An operator after it
has its operand to itself: it starts in a bracket or with the call, whose level is then that of the
operator. -/
def HoleFits (level after before : Option Level) (text next : String) : Prop :=
  tokensOf next ≠ [] ∧ (tokensOf next).head?.bind Lexeme.between? = after ∧
    (tokensOf text).getLast?.bind Lexeme.between? = before ∧
    (before ≠ none → (tokensOf next).head? = some (.mark ')')) ∧
    ((text = "" ∧ level ≠ none ∧ after = level) ∨
      ∃ l ∈ (tokensOf text).getLast?,
        l = .mark '(' ∨ after = none ∧ (l = .mark ',' ∨ l = .word "IN"))

instance (level after before : Option Level) (text next : String) :
    Decidable (HoleFits level after before text next) :=
  inferInstanceAs (Decidable (_ ∧ _ ∧ _ ∧ _ ∧ (_ ∨ ∃ l ∈ (tokensOf text).getLast?, _)))

theorem Operator.holeFits (op : Operator n) : ∀ h ∈ op.frame.holes,
    HoleFits op.level? (op.after? h.2.1) (op.before? h.2.1) h.1 h.2.2 := by
  cases op with
  | null => decide
  | timestamp time => exact fun h hh => absurd hh List.not_mem_nil
  | convert source target =>
      show ∀ h ∈ [("(", (0 : Fin 1), " AT TIME ZONE ")], HoleFits none (some .zone) none h.1 h.2.2
      decide +kernel
  | truncate unit =>
      show ∀ h ∈ [(", ", (0 : Fin 1), ")")], HoleFits none none none h.1 h.2.2
      decide +kernel
  | part formula known =>
      have hall : ∀ f ∈ parts.map Prod.snd,
          ∀ h ∈ Frame.holes ⟨(f.cuts "").1.map fun text => (text, .operand (0 : Fin 1)),
            (f.cuts "").2⟩, HoleFits none none none h.1 h.2.2 := by decide +kernel
      exact hall formula known
  | add count unit known =>
      show ∀ h ∈ [("", (0 : Fin 1), " + INTERVAL ")],
        HoleFits (some .sum) (some .sum) none h.1 h.2.2
      decide +kernel
  | cast around known =>
      have hall : ∀ a ∈ castTexts, HoleFits none none none a.1 a.2 := by decide +kernel
      intro h hh
      obtain rfl := List.mem_singleton.mp hh
      exact hall around known
  | regexp function known pattern =>
      have hall : ∀ f ∈ regexpFunctions, HoleFits none none none (f ++ "(") ", " := by
        decide +kernel
      intro h hh
      obtain rfl := List.mem_singleton.mp hh
      exact hall function known
  | isNull => decide +kernel
  | concat => decide +kernel
  | contains => decide +kernel
  | indexOf => decide +kernel
  | isIn => decide +kernel

/-- What stands before and after an operand in its call, as far as it matters beside it. -/
structure Beside (op : Operator n) (i : Fin n) (before after : List Lexeme) : Prop where
  after_eq : after.head?.bind Lexeme.between? = op.after? i
  before_eq : before.getLast?.bind Lexeme.between? = op.before? i
  closing : op.before? i ≠ none → after.head? = some (.mark ')')
  opening : (before = [] ∧ op.level? ≠ none ∧ op.after? i = op.level?) ∨
    ∃ l ∈ before.getLast?,
      l = .mark '(' ∨ op.after? i = none ∧ (l = .mark ',' ∨ l = .word "IN")

/-- Only the first text of a frame can be empty. -/
theorem Operator.eq_nil_of_empty (op : Operator n) {l r : List (String × Hole n)} {i : Fin n}
    (parts_eq : op.frame.parts = l ++ ("", .operand i) :: r) : l = [] := by
  cases l with
  | nil => rfl
  | cons p rest =>
      obtain ⟨-, hstarts, -⟩ := op.soundTexts_frame
      have hmem : "" ∈ op.frame.texts.tail := by simp [Frame.texts, parts_eq]
      exact absurd (hstarts "" hmem) (by decide)

theorem Operator.beside (op : Operator n) {l r : List (String × Hole n)} {text : String}
    {i : Fin n} (parts_eq : op.frame.parts = l ++ (text, .operand i) :: r)
    (toks : Fin n → List Lexeme) :
    Beside op i (Frame.tokens ⟨l, text⟩ toks) (Frame.tokens ⟨r, op.frame.last⟩ toks) := by
  obtain ⟨hne, hafter, hbefore, hclosing, hopening⟩ := op.holeFits _ (Frame.mem_holes parts_eq)
  have hhead : (Frame.tokens ⟨r, op.frame.last⟩ toks).head? =
      (tokensOf (Frame.next r op.frame.last)).head? := by
    cases r with
    | nil => simp
    | cons p rest =>
        obtain ⟨text', hole⟩ := p
        rw [Frame.next_cons] at hne
        simp [List.head?_append_of_ne_nil _ hne]
  rcases hopening with ⟨rfl, hlevel, hk⟩ | ⟨l', hlast, hopens⟩
  · obtain rfl : l = [] := op.eq_nil_of_empty parts_eq
    rw [Frame.tokens_nil, tokensOf_empty]
    exact ⟨hhead ▸ hafter, hbefore, fun h => hhead.trans (hclosing h), .inl ⟨rfl, hlevel, hk⟩⟩
  · have hlast' : (Frame.tokens ⟨l, text⟩ toks).getLast? = some l' := by
      rw [Frame.tokens, List.getLast?_append, Option.mem_def.mp hlast]
      rfl
    refine ⟨hhead ▸ hafter, ?_, fun h => hhead.trans (hclosing h), .inr ⟨l', hlast', hopens⟩⟩
    rw [hlast', ← hbefore, Option.mem_def.mp hlast]

/-- Every operand is written somewhere. -/
theorem Operator.exists_hole (op : Operator n) (i : Fin n) :
    ∃ text, (text, .operand i) ∈ op.frame.parts := by
  cases op with
  | null => exact i.elim0
  | timestamp time => exact i.elim0
  | part formula known =>
      obtain rfl : i = 0 := Subsingleton.elim i 0
      have hne : (formula.cuts "").1 ≠ [] := by
        rw [← List.length_pos_iff, formula.length_cuts]
        exact Nat.pos_of_ne_zero formula.size_ne_zero
      obtain ⟨text, htext⟩ := List.exists_mem_of_ne_nil _ hne
      exact ⟨text, List.mem_map_of_mem htext⟩
  | convert source target | add count unit known | cast around known
  | regexp function known pattern | isNull =>
      obtain rfl : i = 0 := Subsingleton.elim i 0
      exact ⟨_, List.mem_cons_self⟩
  | truncate unit =>
      obtain rfl : i = 0 := Subsingleton.elim i 0
      exact ⟨_, List.mem_cons_of_mem _ List.mem_cons_self⟩
  | concat | isIn =>
      match i with
      | 0 => exact ⟨_, List.mem_cons_self⟩
      | 1 => exact ⟨_, List.mem_cons_of_mem _ List.mem_cons_self⟩
  | contains | indexOf =>
      match i with
      | 0 => exact ⟨_, List.mem_cons_of_mem _ List.mem_cons_self⟩
      | 1 => exact ⟨_, List.mem_cons_self⟩

/-! ### The operators that a term shows outside of brackets -/

/-- Every hole between the texts stands inside of a bracket. -/
def shields : Nat → List String → Bool
  | k, text :: next :: texts =>
    match depth? k (tokensOf text) with
    | some j => 0 < j && shields j (next :: texts)
    | none => false
  | _, _ => true

theorem Frame.levels_tokens {toks : Fin n → List Lexeme}
    (hbalanced : ∀ i, depth? 0 (toks i) = some 0) (f : Frame n) {k : Nat}
    (h : shields k f.texts = true) :
    levels k (f.tokens toks) = levels k (f.texts.flatMap tokensOf) := by
  obtain ⟨parts, last⟩ := f
  induction parts generalizing k with
  | nil => simp
  | cons p rest ih =>
      obtain ⟨text, hole⟩ := p
      obtain ⟨next, more, hmore⟩ := List.exists_cons_of_ne_nil (texts_ne_nil ⟨rest, last⟩)
      rw [texts_cons, hmore, shields] at h
      split at h
      · next j hj =>
          obtain ⟨hpos, hshields⟩ : 0 < j ∧ shields j (next :: more) = true := by simpa using h
          have hhole : levels j (hole.lexemes toks) = [] := by
            cases hole with
            | operand i =>
                have hpositive := levels_of_pos (hbalanced i) hpos
                rwa [Nat.zero_add] at hpositive
            | literal s => simp [Lexeme.level?]
          rw [texts_cons, tokens_cons, List.flatMap_cons, levels_append hj,
            levels_append (depth?_hole hbalanced hole j), hhole, List.nil_append,
            levels_append hj, ih (hmore ▸ hshields)]
      · contradiction

theorem Operator.shields_texts (op : Operator n) (h : "" ∉ op.frame.texts) :
    shields 0 op.frame.texts = true := by
  have hall : ∀ texts ∈ Operator.allTexts, "" ∉ texts → shields 0 texts = true := by
    decide +kernel
  exact hall _ op.texts_mem h

/-- The texts of a call show its own level. -/
theorem Operator.levels_texts (op : Operator n) :
    levels 0 (op.frame.texts.flatMap tokensOf) = op.level?.toList := by
  cases op with
  | part formula known =>
      have hall : ∀ f ∈ parts.map Prod.snd,
          levels 0 (((f.cuts "").1 ++ [(f.cuts "").2]).flatMap tokensOf) = [] := by
        decide +kernel
      rw [Operator.frame, Frame.texts_map]
      exact hall formula known
  | add count unit known =>
      have hall : ∀ u ∈ intervalUnits,
          levels 0 (["", " + INTERVAL ", " " ++ u].flatMap tokensOf) = [.sum] := by
        decide +kernel
      exact hall unit known
  | cast around known =>
      have hall : ∀ a ∈ castTexts, levels 0 ([a.1, a.2].flatMap tokensOf) = [] := by
        decide +kernel
      exact hall around known
  | regexp function known pattern =>
      have hall : ∀ f ∈ regexpFunctions,
          levels 0 ([f ++ "(", ", ", ")"].flatMap tokensOf) = [] := by
        decide +kernel
      exact hall function known
  | timestamp time =>
      show levels 0 (["CAST(", " AS TIMESTAMP)"].flatMap tokensOf) = []
      decide +kernel
  | convert source target =>
      show levels 0 (["(", " AT TIME ZONE ", " AT TIME ZONE ", ")"].flatMap tokensOf) = []
      decide +kernel
  | truncate unit =>
      show levels 0 (["DATE_TRUNC(", ", ", ")"].flatMap tokensOf) = []
      decide +kernel
  | null | isNull | concat | contains | indexOf | isIn => decide +kernel

theorem Operator.level?_ne_none (op : Operator n) (h : "" ∈ op.frame.texts) :
    op.level? ≠ none := by
  have hall : ∀ texts ∈ Operator.allTexts, "" ∈ texts →
      levels 0 (texts.flatMap tokensOf) ≠ [] := by decide +kernel
  have hlevels := hall _ op.texts_mem h
  rw [op.levels_texts] at hlevels
  simpa using hlevels

/-- A call shows its own level, and those of an operand that it leaves outside of brackets. -/
theorem Term.levels_call (op : Operator n) {operands : Fin n → Term}
    (hbalanced : ∀ i, depth? 0 (operands i).tokens = some 0) :
    levels 0 (call op operands).tokens = op.level?.toList ∨
      ∃ i k, op.level? = some k ∧ op.after? i = some k ∧
        levels 0 (call op operands).tokens = levels 0 (operands i).tokens ++ [k] := by
  by_cases hempty : "" ∈ op.frame.texts
  · right
    have hlevel : op.level? ≠ none := op.level?_ne_none hempty
    cases op with
    | add count unit known =>
        have hplus : tokensOf " + INTERVAL " = [.mark '+', .word "INTERVAL"] := by decide
        have hunit : ∀ u ∈ intervalUnits, levels 0 (tokensOf (" " ++ u)) = [] := by decide +kernel
        have htokens : (call (.add count unit known) operands).tokens = (operands 0).tokens ++
            ([.mark '+', .word "INTERVAL", .quoted .single (toString count)] ++
              tokensOf (" " ++ unit)) := by
          rw [tokens_call]
          simp [Operator.frame, hplus]
        refine ⟨0, .sum, rfl, rfl, ?_⟩
        rw [htokens, levels_append (hbalanced 0), levels_append rfl, hunit unit known]
        rfl
    | isNull =>
        have hnull : tokensOf " IS NULL" = [.word "IS", .word "NULL"] := by decide
        have htokens : (call .isNull operands).tokens =
            (operands 0).tokens ++ [.word "IS", .word "NULL"] := by
          rw [tokens_call]
          simp [Operator.frame, hnull]
        refine ⟨0, .predicate, rfl, rfl, ?_⟩
        rw [htokens, levels_append (hbalanced 0)]
        rfl
    | contains | indexOf => exact absurd hempty (by decide)
    | _ => exact absurd rfl hlevel
  · left
    rw [tokens_call, Frame.levels_tokens hbalanced op.frame (op.shields_texts hempty),
      op.levels_texts]

end SqlConnector.Sql
