import SqlConnector.Proofs.Sql.Places

/-!
Reading quoted texts back. A quoted token ends at the first quote that stands alone, and a text
after it is left as it is. A text that was quoted is read back from its token and from nothing else,
so that the tokens of a query around it are the same whatever the text is.
-/

namespace SqlConnector.Sql

/-! ### Reading one token -/

/-- The text up to the first quote that stands alone, two quotes counting as one of the text, and
what comes after that quote. -/
def readTo (q : Char) : List Char → Option (List Char × List Char)
  | [] => none
  | [c] => if c = q then some ([], []) else none
  | c :: d :: rest =>
    if c = q then
      if d = q then (readTo q rest).map fun (s, left) => (q :: s, left) else some ([], d :: rest)
    else (readTo q (d :: rest)).map fun (s, left) => (c :: s, left)

/-- Reads the quoted token that a text begins with. -/
def readQuoted? (q : Quote) (sql : String) : Option (String × String) :=
  match sql.toList with
  | [] => none
  | c :: rest =>
    if c = q.char then
      (readTo q.char rest).map fun (s, left) => (String.ofList s, String.ofList left)
    else none

theorem readTo_cons_of_ne {q c : Char} (h : c ≠ q) (l : List Char) :
    readTo q (c :: l) = (readTo q l).map fun (s, left) => (c :: s, left) := by
  cases l with
  | nil => simp [readTo, h]
  | cons d rest => rw [readTo, if_neg h]

theorem readTo_doubleQuotes {q : Char} {rest : List Char} (h : rest.head? ≠ some q)
    (s : List Char) : readTo q (doubleQuotes q s ++ q :: rest) = some (s, rest) := by
  induction s with
  | nil =>
      cases rest with
      | nil => simp [readTo]
      | cons d rest =>
          have hd : d ≠ q := fun heq => h (congrArg some heq)
          rw [doubleQuotes, List.nil_append, readTo, if_pos rfl, if_neg hd]
  | cons c s ih =>
      by_cases hc : c = q
      · subst hc
        rw [doubleQuotes, if_pos rfl, List.cons_append, List.cons_append, readTo, if_pos rfl,
          if_pos rfl, ih, Option.map_some]
      · rw [doubleQuotes, if_neg hc, List.cons_append, readTo_cons_of_ne hc, ih, Option.map_some]

/-- A quoted text is read back, and what comes after it is left. -/
theorem readQuoted?_quote (q : Quote) {s rest : String} (h : rest.toList.head? ≠ some q.char) :
    readQuoted? q (quote q.char s ++ rest) = some (s, rest) := by
  have hsql : (quote q.char s ++ rest).toList =
      q.char :: (doubleQuotes q.char s.toList ++ q.char :: rest.toList) := by
    simp [quote]
  simp only [readQuoted?, hsql, if_true, readTo_doubleQuotes h, Option.map_some,
    String.ofList_toList]

example : readQuoted? .single "'o''brien' IS" = some ("o'brien", " IS") := by decide

/-! ### One token after another -/

/-- A character that stays in the token puts nothing out. -/
theorem run_of_step {m m' : Mode} {c : Char} (h : m.step c = (m', [])) (l : List Char) :
    m.run (c :: l) = m'.run l := by
  rw [Mode.run, h, List.nil_append]

/-- A reader inside quotes comes to the end of the token, and what comes next is no quote. -/
theorem run_of_readTo {q : Quote} {l s left : List Char} (h : readTo q.char l = some (s, left))
    (cs : List Char) :
    (Mode.inside q cs).run l = (Mode.closing q (cs ++ s)).run left ∧
      left.head? ≠ some q.char := by
  -- nothing, the last quote, another last character, a doubled quote, a quote before something
  -- else, and any other character
  induction l using readTo.induct q.char generalizing s cs with
  | case1 => cases h
  | case2 =>
      rw [readTo, if_pos rfl] at h
      cases h
      rw [run_of_step (Mode.step_inside_char q cs), List.append_nil]
      exact ⟨rfl, by simp⟩
  | case3 c hc =>
      rw [readTo, if_neg hc] at h
      cases h
  | case4 rest ih =>
      rw [readTo, if_pos rfl, if_pos rfl] at h
      obtain ⟨⟨s', left'⟩, hrest, heq⟩ := Option.map_eq_some_iff.mp h
      cases heq
      obtain ⟨hrun, hhead⟩ := ih hrest (cs ++ [q.char])
      rw [run_of_step (Mode.step_inside_char q cs), run_of_step (Mode.step_closing_char q cs), hrun,
        List.append_assoc]
      exact ⟨rfl, hhead⟩
  | case5 d rest hd =>
      rw [readTo, if_pos rfl, if_neg hd] at h
      cases h
      rw [run_of_step (Mode.step_inside_char q cs), List.append_nil]
      exact ⟨rfl, fun hhead => hd (Option.some.inj hhead)⟩
  | case6 c d rest hc ih =>
      rw [readTo, if_neg hc] at h
      obtain ⟨⟨s', left'⟩, hrest, heq⟩ := Option.map_eq_some_iff.mp h
      cases heq
      obtain ⟨hrun, hhead⟩ := ih hrest (cs ++ [c])
      rw [run_of_step (Mode.step_inside_of_ne hc cs), hrun, List.append_assoc]
      exact ⟨rfl, hhead⟩

/-- Where no quote comes next the token is over, and the reader goes on as from outside. -/
theorem run_closing {q : Quote} {l : List Char} (h : l.head? ≠ some q.char) (cs : List Char) :
    let before := (Mode.closing q cs).run l
    let after := Mode.outside.run l
    before.1.isInside = after.1.isInside ∧
      before.2 ++ before.1.token = .quoted q (String.ofList cs) :: (after.2 ++ after.1.token) := by
  cases l with
  | nil => exact ⟨rfl, rfl⟩
  | cons c rest =>
      have hc : c ≠ q.char := fun heq => h (congrArg some heq)
      have hstep : (Mode.closing q cs).step c = ((Mode.outside.step c).1,
          .quoted q (String.ofList cs) :: (Mode.outside.step c).2) := by
        simp [Mode.step, hc]
      have hrun : (Mode.closing q cs).run (c :: rest) = ((Mode.outside.run (c :: rest)).1,
          .quoted q (String.ofList cs) :: (Mode.outside.run (c :: rest)).2) := by
        simp only [Mode.run, hstep, List.cons_append]
      rw [hrun]
      exact ⟨rfl, rfl⟩

/-- A quoted token that is read is the first lexeme of the text, and the others are those of what it
leaves. -/
theorem lex?_of_readQuoted? {q : Quote} {sql s rest : String}
    (h : readQuoted? q sql = some (s, rest)) :
    lex? sql = (lex? rest).map (.quoted q s :: ·) := by
  have hlex (text : String) : lex? text = if (Mode.outside.run text.toList).1.isInside then none
      else some ((Mode.outside.run text.toList).2 ++ (Mode.outside.run text.toList).1.token) := rfl
  unfold readQuoted? at h
  split at h
  · cases h
  · next c l hsql =>
      split at h
      · next hc =>
          subst hc
          obtain ⟨⟨s', left⟩, hread, heq⟩ := Option.map_eq_some_iff.mp h
          cases heq
          obtain ⟨hrun, hhead⟩ := run_of_readTo hread []
          obtain ⟨hinside, hlexemes⟩ := run_closing hhead s'
          rw [hlex, hlex, hsql, run_of_step (Mode.step_outside_char q), hrun, List.nil_append,
            String.toList_ofList, hinside, hlexemes]
          split <;> rfl
      · cases h

theorem lex?_quote_append {q : Quote} {rest : String} (h : rest.toList.head? ≠ some q.char)
    (s : String) : lex? (quote q.char s ++ rest) = (lex? rest).map (.quoted q s :: ·) :=
  lex?_of_readQuoted? (readQuoted?_quote q h)

/-! ### Tokens of a text -/

/-- The tokens of a text in which nothing opens a comment, the blanks being left out. -/
def Tokenizes (sql : String) (ts : List Lexeme) : Prop :=
  ∃ ls ∈ lex? sql, CommentFree ls ∧ tokens ls = ts

instance (sql : String) (ts : List Lexeme) : Decidable (Tokenizes sql ts) :=
  inferInstanceAs (Decidable (∃ ls ∈ lex? sql, CommentFree ls ∧ tokens ls = ts))

/-- A quoted token between two texts opens no comment. -/
theorem commentFree_append_quoted {ls ms : List Lexeme} (hls : CommentFree ls)
    (hms : CommentFree ms) (q : Quote) (s : String) : CommentFree (ls ++ .quoted q s :: ms) := by
  have hafter : CommentFree (.quoted q s :: ms) := by
    refine List.isChain_cons.mpr ⟨fun l _ => ?_, hms⟩
    simp
  refine List.isChain_append.mpr ⟨hls, hafter, fun l _ l' hl' => ?_⟩
  obtain rfl : .quoted q s = l' := by simpa using hl'
  simp

/-- A quoted text in a query is one token of it, with the tokens of what stands before and after. -/
theorem Tokenizes.quote {before after : String} {ts us : List Lexeme}
    (hbefore : Tokenizes before ts) (hends : EndsApart before) {q : Quote}
    (hafter : Tokenizes after us) (hstarts : after.toList.head? ≠ some q.char) (s : String) :
    Tokenizes (before ++ Sql.quote q.char s ++ after) (ts ++ .quoted q s :: us) := by
  obtain ⟨ls, hls, hfree, rfl⟩ := hbefore
  obtain ⟨ms, hms, hfree', rfl⟩ := hafter
  refine ⟨ls ++ .quoted q s :: ms, ?_, commentFree_append_quoted hfree hfree' q s, ?_⟩
  · rw [String.append_assoc]
    refine lex?_append hls ?_ (.inl hends)
    rw [lex?_quote_append hstarts, Option.mem_def.mp hms, Option.map_some]
  · simp [tokens]

/-- A quoted text at the end of a query. -/
theorem Tokenizes.quote_last {before : String} {ts : List Lexeme} (h : Tokenizes before ts)
    (hends : EndsApart before) (q : Quote) (s : String) :
    Tokenizes (before ++ Sql.quote q.char s) (ts ++ [.quoted q s]) := by
  have hnothing : Tokenizes "" [] := by decide
  have hquote := h.quote hends (q := q) hnothing (by simp) s
  rwa [String.append_empty] at hquote

end SqlConnector.Sql
