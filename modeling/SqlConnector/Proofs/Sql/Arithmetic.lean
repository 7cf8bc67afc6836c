import SqlConnector.Proofs.Text.Numeral
import SqlConnector.Sql.Part

/-!
Integer arithmetic as SQL writes it: sums of products of operands, which are numerals, expressions
in parentheses and calls of functions on one given text. The grammar says which texts are read as
which expressions; a reader that goes through a text once, character by character, shows that no
text is read in two ways, whatever the text that the functions are called on.
-/

namespace SqlConnector.Sql

inductive Arithmetic where
  | number (n : Nat)
  | call (function : String)
  | plus (left right : Arithmetic)
  | minus (left right : Arithmetic)
  | times (left right : Arithmetic)
  deriving DecidableEq, Repr

namespace Arithmetic

/-- The value of an expression, when every function in it has one. -/
def value? (functions : String → Option Int) : Arithmetic → Option Int
  | number n => some n
  | call function => functions function
  | plus left right => do return (← left.value? functions) + (← right.value? functions)
  | minus left right => do return (← left.value? functions) - (← right.value? functions)
  | times left right => do return (← left.value? functions) * (← right.value? functions)

/-- The functions that are called, in the order of the text. -/
def calls : Arithmetic → List String
  | number _ => []
  | call function => [function]
  | plus left right | minus left right | times left right => left.calls ++ right.calls

/-- How tightly the parts of an expression hold together. -/
inductive Binding where
  | sum
  | product
  | operand
  deriving DecidableEq, Repr

/-- The texts that are read as an expression, all functions being called on the text `argument`. -/
inductive Reads (argument : List Char) : Binding → List Char → Arithmetic → Prop where
  | number {ds} (not_empty : ds ≠ []) (digits : ∀ c ∈ ds, c.isDigit = true) :
      Reads argument .operand ds (.number (Text.ofDigits ds))
  | call {name} (not_empty : name ≠ []) (letters : ∀ c ∈ name, c.isAlpha = true) :
      Reads argument .operand (name ++ '(' :: (argument ++ [')'])) (.call (String.ofList name))
  | parentheses {s e} (inner : Reads argument .sum s e) :
      Reads argument .operand ('(' :: (s ++ [')'])) e
  | alone {s e} (factor : Reads argument .operand s e) : Reads argument .product s e
  | times {s t a b} (left : Reads argument .product s a) (right : Reads argument .operand t b) :
      Reads argument .product (s ++ '*' :: t) (.times a b)
  | single {s e} (term : Reads argument .product s e) : Reads argument .sum s e
  | plus {s t a b} (left : Reads argument .sum s a) (right : Reads argument .product t b) :
      Reads argument .sum (s ++ '+' :: t) (.plus a b)
  | minus {s t a b} (left : Reads argument .sum s a) (right : Reads argument .product t b) :
      Reads argument .sum (s ++ '-' :: t) (.minus a b)

/-! ### Reading character by character -/

/-- What becomes of the next operand: the product it ends, and the sum which that product ends. -/
structure Pending where
  sum : Arithmetic → Arithmetic
  product : Arithmetic → Arithmetic

/-- What is being read: an operand is to come, a numeral or a name is under way, the rest of an
argument is to come, or an operand is complete. -/
inductive Phase where
  | awaiting
  | numeral (ds : List Char)
  | name (cs : List Char)
  | argument (name rest : List Char)
  | read (e : Arithmetic)

/-- The parentheses that are open, from the innermost, each with what was pending before it. -/
structure Reader where
  outer : List Pending
  pending : Pending
  phase : Phase

namespace Pending

def none : Pending := ⟨id, id⟩

/-- The whole that an operand completes. -/
def complete (p : Pending) (e : Arithmetic) : Arithmetic := p.sum (p.product e)

end Pending

/-- The operand that is complete if the text goes on with something else. -/
def Phase.operand? : Phase → Option Arithmetic
  | numeral ds => some (.number (Text.ofDigits ds))
  | read e => some e
  | _ => none

namespace Reader

def start (outer : List Pending) : Reader := ⟨outer, .none, .awaiting⟩

/-- Reads a mark after the operand `e`. -/
def mark (r : Reader) (e : Arithmetic) (c : Char) : Option Reader :=
  if c = '*' then some ⟨r.outer, ⟨r.pending.sum, .times (r.pending.product e)⟩, .awaiting⟩
  else if c = '+' then some ⟨r.outer, ⟨.plus (r.pending.complete e), id⟩, .awaiting⟩
  else if c = '-' then some ⟨r.outer, ⟨.minus (r.pending.complete e), id⟩, .awaiting⟩
  else if c = ')' then
    match r.outer with
    | [] => none
    | p :: outer => some ⟨outer, p, .read (r.pending.complete e)⟩
  else none

/-- Reads the first character of an operand. -/
def enter (r : Reader) (c : Char) : Option Reader :=
  if c.isDigit then some { r with phase := .numeral [c] }
  else if c.isAlpha then some { r with phase := .name [c] }
  else if c = '(' then some (start (r.pending :: r.outer))
  else none

def step (argument : List Char) (r : Reader) (c : Char) : Option Reader :=
  match r.phase with
  | .awaiting => r.enter c
  | .numeral ds =>
    if c.isDigit then some { r with phase := .numeral (ds ++ [c]) }
    else r.mark (.number (Text.ofDigits ds)) c
  | .name cs =>
    if c.isAlpha then some { r with phase := .name (cs ++ [c]) }
    else if c = '(' then some { r with phase := .argument cs (argument ++ [')']) }
    else none
  | .argument _ [] => none
  | .argument cs (d :: rest) =>
    if c = d then
      some { r with phase :=
        if rest.isEmpty then .read (.call (String.ofList cs)) else .argument cs rest }
    else none
  | .read e => r.mark e c

def run (argument : List Char) (r : Reader) (s : List Char) : Option Reader :=
  s.foldlM (step argument) r

variable {argument : List Char}

theorem run_append (r : Reader) (s t : List Char) :
    r.run argument (s ++ t) = (r.run argument s).bind fun r' => r'.run argument t :=
  List.foldlM_append ..

theorem run_cons (r : Reader) (c : Char) (t : List Char) :
    r.run argument (c :: t) = (r.step argument c).bind fun r' => r'.run argument t :=
  rfl

/-- A mark that is no digit comes after a complete operand. -/
theorem step_of_operand {r : Reader} {e : Arithmetic} (h : r.phase.operand? = some e) {c : Char}
    (hc : c.isDigit = false) : r.step argument c = r.mark e c := by
  obtain ⟨outer, pending, phase⟩ := r
  cases phase with
  | numeral ds =>
      obtain rfl := Option.some.inj h
      simp [step, hc]
  | read e' =>
      obtain rfl := Option.some.inj h
      rfl
  | awaiting => cases h
  | name cs => cases h
  | argument cs rest => cases h

/-- After a text that ends with a complete operand, a mark is read and then the rest. -/
theorem run_append_mark {r r' : Reader} {s : List Char} (hrun : r.run argument s = some r')
    {e : Arithmetic} (he : r'.phase.operand? = some e) {c : Char} (hc : c.isDigit = false)
    (t : List Char) :
    r.run argument (s ++ c :: t) = (r'.mark e c).bind fun r'' => r''.run argument t := by
  rw [run_append, hrun, Option.bind_some, run_cons, step_of_operand he hc]

theorem run_numeral (outer : List Pending) (p : Pending) {ds : List Char}
    (h : ∀ c ∈ ds, c.isDigit = true) (front : List Char) :
    run argument ⟨outer, p, .numeral front⟩ ds = some ⟨outer, p, .numeral (front ++ ds)⟩ := by
  induction ds generalizing front with
  | nil => rw [List.append_nil]; rfl
  | cons c ds ih =>
      have hstep : step argument ⟨outer, p, .numeral front⟩ c =
          some ⟨outer, p, .numeral (front ++ [c])⟩ := if_pos (h c List.mem_cons_self)
      rw [run_cons, hstep, Option.bind_some, ih fun d hd => h d (List.mem_cons_of_mem _ hd),
        List.append_assoc]
      rfl

theorem run_name (outer : List Pending) (p : Pending) {cs : List Char}
    (h : ∀ c ∈ cs, c.isAlpha = true) (front : List Char) :
    run argument ⟨outer, p, .name front⟩ cs = some ⟨outer, p, .name (front ++ cs)⟩ := by
  induction cs generalizing front with
  | nil => rw [List.append_nil]; rfl
  | cons c cs ih =>
      have hstep : step argument ⟨outer, p, .name front⟩ c =
          some ⟨outer, p, .name (front ++ [c])⟩ := if_pos (h c List.mem_cons_self)
      rw [run_cons, hstep, Option.bind_some, ih fun d hd => h d (List.mem_cons_of_mem _ hd),
        List.append_assoc]
      rfl

/-- The argument is passed over as it stands, whatever characters it has. -/
theorem run_argument (outer : List Pending) (p : Pending) (cs : List Char) (d : Char)
    (rest : List Char) :
    run argument ⟨outer, p, .argument cs (rest ++ [d])⟩ (rest ++ [d]) =
      some ⟨outer, p, .read (.call (String.ofList cs))⟩ := by
  induction rest with
  | nil =>
      have hstep : step argument ⟨outer, p, .argument cs [d]⟩ d =
          some ⟨outer, p, .read (.call (String.ofList cs))⟩ := if_pos rfl
      rw [List.nil_append, run_cons, hstep]
      rfl
  | cons c rest ih =>
      have hstep : step argument ⟨outer, p, .argument cs (c :: (rest ++ [d]))⟩ c =
          some ⟨outer, p, .argument cs (rest ++ [d])⟩ := by
        simp [step]
      rw [List.cons_append, run_cons, hstep]
      exact ih

end Reader

variable {argument : List Char}

/-- Where a text of each kind takes a reader that awaits an operand: it has the expression as the
operand, as the product that the operand ends, or as the whole since the last parenthesis. -/
def Arrives (argument : List Char) : Binding → List Char → Arithmetic → Prop
  | .operand, s, e => ∀ outer p, ∃ phase : Phase, phase.operand? = some e ∧
      Reader.run argument ⟨outer, p, .awaiting⟩ s = some ⟨outer, p, phase⟩
  | .product, s, e => ∀ outer sum, ∃ product phase a, Phase.operand? phase = some a ∧
      product a = e ∧ Reader.run argument ⟨outer, ⟨sum, id⟩, .awaiting⟩ s =
        some ⟨outer, ⟨sum, product⟩, phase⟩
  | .sum, s, e => ∀ outer, ∃ p phase a, Phase.operand? phase = some a ∧ Pending.complete p a = e ∧
      Reader.run argument (Reader.start outer) s = some ⟨outer, p, phase⟩

theorem isDigit_of_isAlpha {c : Char} (h : c.isAlpha = true) : c.isDigit = false := by
  have hletter : c.isUpper = true ∨ c.isLower = true := Bool.or_eq_true_iff.mp h
  have hcode : 0x41 ≤ c.toNat := by
    rcases hletter with hupper | hlower
    · exact (of_decide_eq_true hupper).1
    · have hsmall : 0x61 ≤ c.toNat := of_decide_eq_true (Bool.and_eq_true_iff.mp hlower).1
      omega
  refine Bool.eq_false_iff.mpr fun hdigit => ?_
  have hle : c.toNat ≤ 0x39 := (Char.isDigit_iff_toNat.mp hdigit).2
  omega

theorem arrives_call {name : List Char} (not_empty : name ≠ [])
    (letters : ∀ c ∈ name, c.isAlpha = true) :
    Arrives argument .operand (name ++ '(' :: (argument ++ [')'])) (.call (String.ofList name)) := by
  intro outer p
  refine ⟨.read (.call (String.ofList name)), rfl, ?_⟩
  obtain ⟨c, cs, rfl⟩ := List.exists_cons_of_ne_nil not_empty
  have hc : c.isAlpha = true := letters c List.mem_cons_self
  have henter : Reader.step argument ⟨outer, p, .awaiting⟩ c =
      some ⟨outer, p, .name [c]⟩ := by
    simp [Reader.step, Reader.enter, isDigit_of_isAlpha hc, hc]
  have hopen : Reader.step argument ⟨outer, p, .name (c :: cs)⟩ '(' =
      some ⟨outer, p, .argument (c :: cs) (argument ++ [')'])⟩ := rfl
  rw [List.cons_append, Reader.run_cons, henter, Option.bind_some, Reader.run_append,
    Reader.run_name outer p (fun d hd => letters d (List.mem_cons_of_mem _ hd)), Option.bind_some,
    List.singleton_append, Reader.run_cons, hopen, Option.bind_some, Reader.run_argument]

/-- A sum goes on with a mark that leaves it pending, and a product after that. -/
theorem Arrives.sum {left right : List Char} {a b : Arithmetic}
    (hleft : Arrives argument .sum left a) (hright : Arrives argument .product right b) {c : Char}
    (hc : c.isDigit = false) {next : Arithmetic → Arithmetic → Arithmetic}
    (hmark : ∀ (r : Reader) (e : Arithmetic),
      r.mark e c = some ⟨r.outer, ⟨next (r.pending.complete e), id⟩, .awaiting⟩) :
    Arrives argument .sum (left ++ c :: right) (next a b) := by
  intro outer
  obtain ⟨p, phase, e, he, rfl, hrun⟩ := hleft outer
  obtain ⟨product, phase', e', he', rfl, hrun'⟩ := hright outer (next (p.complete e))
  refine ⟨⟨next (p.complete e), product⟩, phase', e', he', rfl, ?_⟩
  rw [Reader.run_append_mark hrun he hc, hmark]
  exact hrun'

/-- A text of the grammar takes the reader to its expression. -/
theorem Reads.arrives {binding : Binding} {s : List Char} {e : Arithmetic}
    (h : Reads argument binding s e) : Arrives argument binding s e := by
  -- on the grammar, whatever is still open outside the text
  induction h with
  | number not_empty digits =>
      intro outer p
      obtain ⟨c, ds, rfl⟩ := List.exists_cons_of_ne_nil not_empty
      refine ⟨.numeral (c :: ds), rfl, ?_⟩
      have henter : Reader.step argument ⟨outer, p, .awaiting⟩ c =
          some ⟨outer, p, .numeral [c]⟩ := if_pos (digits c List.mem_cons_self)
      rw [Reader.run_cons, henter, Option.bind_some,
        Reader.run_numeral outer p fun d hd => digits d (List.mem_cons_of_mem _ hd)]
      rfl
  | call not_empty letters => exact arrives_call not_empty letters
  | parentheses inner ih =>
      intro outer p
      obtain ⟨q, phase, a, ha, rfl, hrun⟩ := ih (p :: outer)
      have henter : Reader.step argument ⟨outer, p, .awaiting⟩ '(' =
          some (Reader.start (p :: outer)) := rfl
      refine ⟨.read (q.complete a), rfl, ?_⟩
      rw [Reader.run_cons, henter, Option.bind_some, Reader.run_append_mark hrun ha rfl]
      rfl
  | alone factor ih =>
      intro outer sum
      obtain ⟨phase, hphase, hrun⟩ := ih outer ⟨sum, id⟩
      exact ⟨id, phase, _, hphase, rfl, hrun⟩
  | times left right ihLeft ihRight =>
      intro outer sum
      obtain ⟨product, phase, a, ha, rfl, hrun⟩ := ihLeft outer sum
      obtain ⟨phase', hphase', hrun'⟩ := ihRight outer ⟨sum, .times (product a)⟩
      refine ⟨.times (product a), phase', _, hphase', rfl, ?_⟩
      rw [Reader.run_append_mark hrun ha rfl]
      exact hrun'
  | single term ih =>
      intro outer
      obtain ⟨product, phase, a, ha, rfl, hrun⟩ := ih outer id
      exact ⟨⟨id, product⟩, phase, a, ha, rfl, hrun⟩
  | plus left right ihLeft ihRight => exact ihLeft.sum ihRight rfl fun r e => rfl
  | minus left right ihLeft ihRight => exact ihLeft.sum ihRight rfl fun r e => rfl

/-- No text is read as two expressions. -/
theorem Reads.unique {s : List Char} {e e' : Arithmetic} (h : Reads argument .sum s e)
    (h' : Reads argument .sum s e') : e = e' := by
  obtain ⟨p, phase, a, ha, rfl, hrun⟩ := h.arrives []
  obtain ⟨p', phase', a', ha', rfl, hrun'⟩ := h'.arrives []
  rw [hrun, Option.some.injEq, Reader.mk.injEq] at hrun'
  obtain ⟨-, rfl, rfl⟩ := hrun'
  rw [ha, Option.some.injEq] at ha'
  rw [ha']

end Arithmetic

/-! ### Formulas -/

namespace Formula

def arithmetic : Formula → Arithmetic
  | field f => .call f.name
  | lessOne f => .minus (.call f.name) (.number 1)
  | step units size next => .plus (.times units.arithmetic (.number size)) (.call next.name)

theorem reads_call (f : Field) (operand : String) :
    Arithmetic.Reads operand.toList .operand (f.call operand).toList (.call f.name) := by
  have hname : f.name.toList ≠ [] := by cases f <;> decide
  have hletters : f.name.toList.all Char.isAlpha = true := by cases f <;> decide
  have hcall : Arithmetic.Reads operand.toList .operand
      (f.name.toList ++ '(' :: (operand.toList ++ [')'])) (.call (String.ofList f.name.toList)) :=
    .call hname (List.all_eq_true.mp hletters)
  rw [String.ofList_toList] at hcall
  simpa [Field.call] using hcall

theorem reads_size (argument : List Char) (n : Nat) :
    Arithmetic.Reads argument .operand (Text.digits n) (.number n) := by
  have hnumber : Arithmetic.Reads argument .operand (Text.digits n)
      (.number (Text.ofDigits (Text.digits n))) :=
    .number (Text.digits_ne_nil n) fun _ => Text.isDigit_of_mem_digits
  rwa [Text.ofDigits_digits] at hnumber

/-- The text of a formula is an operand, read as the formula has it. -/
theorem reads_text (formula : Formula) (operand : String) :
    Arithmetic.Reads operand.toList .operand (formula.text operand).toList
      formula.arithmetic := by
  induction formula with
  | field f => exact reads_call f operand
  | lessOne f =>
      have htext : ((lessOne f).text operand).toList =
          '(' :: ((f.call operand).toList ++ '-' :: Text.digits 1 ++ [')']) := by
        have hone : Text.digits 1 = ['1'] := rfl
        simp [text, hone]
      rw [htext]
      exact .parentheses (.minus (.single (.alone (reads_call f operand))) (.alone (reads_size _ 1)))
  | step units size next ih =>
      have htext : ((step units size next).text operand).toList =
          '(' :: ((units.text operand).toList ++ '*' :: Text.digits size ++
            '+' :: (next.call operand).toList ++ [')']) := by
        simp [text, Text.digits]
      rw [htext]
      exact .parentheses (.plus (.single (.times (.alone ih) (reads_size _ size)))
        (.alone (reads_call next operand)))

end Formula

end SqlConnector.Sql
