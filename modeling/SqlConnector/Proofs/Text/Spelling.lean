import Mathlib.Data.List.DropRight
import Mathlib.Data.List.Induction
import SqlConnector.Proofs.Text.Letter

/-!
Spellings of a text: the blanks around it and the case of its letters. Trimming and lower-casing go
in either order, also where the case of a sigma depends on what is around it, and both leave alone
what has been through them. Texts spelled alike differ in blanks around them and the case of letters
of ASCII; they have one trimmed lower-case form.
-/

namespace SqlConnector.Text

/-! ### Between the ends of words -/

theorem meetsCased_cons_of_endsWord {c : Char} (h : EndsWord c) (s : List Char) :
    meetsCased (c :: s) = false := by
  rw [meetsCased, h.2]
  exact h.1

/-- Nothing is seen beyond a character that ends a word. -/
theorem meetsCased_append_cons {c : Char} (h : EndsWord c) (s t : List Char) :
    meetsCased (s ++ c :: t) = meetsCased s := by
  induction s with
  | nil => exact meetsCased_cons_of_endsWord h t
  | cons d s ih => simp only [List.cons_append, meetsCased, ih]

theorem lowerIn_congr {before before' after after' : List Char} (c : Char)
    (hbefore : meetsCased before = meetsCased before')
    (hafter : meetsCased after = meetsCased after') :
    lowerIn before c after = lowerIn before' c after' := by
  simp only [lowerIn, hbefore, hafter]

theorem lowerIn_of_endsWord {c : Char} (h : EndsWord c) (before after : List Char) :
    lowerIn before c after = [lowerPartner c] := by
  rw [lowerIn, if_neg h.ne_dotted, if_neg h.ne_sigma]

theorem lowerFrom_congr {before before' : List Char} (s : List Char)
    (h : ∀ t, meetsCased (t ++ before) = meetsCased (t ++ before')) :
    lowerFrom before s = lowerFrom before' s := by
  induction s generalizing before before' with
  | nil => rfl
  | cons c s ih =>
      have hrest : ∀ t, meetsCased (t ++ c :: before) = meetsCased (t ++ c :: before') := fun t => by
        simpa using h (t ++ [c])
      have hhere : meetsCased before = meetsCased before' := h []
      rw [lowerFrom, lowerFrom, lowerIn_congr c hhere rfl, ih hrest]

theorem lowerFrom_append_cons {c : Char} (h : EndsWord c) (before s t : List Char) :
    lowerFrom before (s ++ c :: t) =
      lowerFrom before s ++ lowerPartner c :: lowerFrom (c :: s.reverse ++ before) t := by
  induction s generalizing before with
  | nil =>
      show lowerIn before c t ++ lowerFrom (c :: before) t = _
      rw [lowerIn_of_endsWord h]
      rfl
  | cons d s ih =>
      rw [List.cons_append, lowerFrom, lowerFrom, ih,
        lowerIn_congr d rfl (meetsCased_append_cons h s t)]
      simp

/-- What ends a word cuts a text in two that are lower-cased apart. -/
theorem lower_append_cons {c : Char} (h : EndsWord c) (s t : List Char) :
    lower (s ++ c :: t) = lower s ++ lowerPartner c :: lower t := by
  have hfresh : lowerFrom (c :: s.reverse ++ []) t = lowerFrom [] t :=
    lowerFrom_congr t fun u => by
      rw [List.append_nil, meetsCased_append_cons h, List.append_nil]
  rw [lower, lowerFrom_append_cons h, hfresh]
  rfl

theorem lower_cons {c : Char} (h : EndsWord c) (t : List Char) :
    lower (c :: t) = lowerPartner c :: lower t :=
  lower_append_cons h [] t

theorem lower_concat {c : Char} (h : EndsWord c) (s : List Char) :
    lower (s ++ [c]) = lower s ++ [lowerPartner c] :=
  lower_append_cons h s []

/-! ### Letters of a lower-case text -/

/-- A letter that is its own lower-case form wherever it stands. -/
structure IsLower (c : Char) : Prop where
  ne_dotted : c ≠ 'İ'
  ne_sigma : c ≠ 'Σ'
  partner : lowerPartner c = c

theorem isLower_of_mem_lowerIn {before after : List Char} {c d : Char}
    (h : d ∈ lowerIn before c after) : IsLower d ∧ isBlank d = isBlank c := by
  unfold lowerIn at h
  split at h
  · next hc =>
      subst hc
      rcases List.mem_cons.mp h with rfl | h
      · exact ⟨⟨by decide, by decide, by decide⟩, by decide⟩
      · obtain rfl := List.mem_singleton.mp h
        exact ⟨⟨by decide, by decide, by decide⟩, by decide⟩
  · split at h
    · next hc =>
        subst hc
        split at h
        · obtain rfl := List.mem_singleton.mp h
          exact ⟨⟨by decide, by decide, by decide⟩, by decide⟩
        · obtain rfl := List.mem_singleton.mp h
          exact ⟨⟨by decide, by decide, by decide⟩, by decide⟩
    · next hdotted _ =>
        obtain rfl := List.mem_singleton.mp h
        exact ⟨⟨fun heq => hdotted (lowerPartner_eq_dotted.mp heq), lowerPartner_ne_sigma c,
          lowerPartner_lowerPartner c⟩, isBlank_lowerPartner c⟩

theorem lowerIn_ne_nil (before after : List Char) (c : Char) : lowerIn before c after ≠ [] := by
  unfold lowerIn
  split
  · simp
  · split
    · split <;> simp
    · simp

theorem isLower_of_mem_lowerFrom {before s : List Char} {c : Char} (h : c ∈ lowerFrom before s) :
    IsLower c := by
  induction s generalizing before with
  | nil => cases h
  | cons d s ih =>
      rcases List.mem_append.mp h with hd | hs
      · exact (isLower_of_mem_lowerIn hd).1
      · exact ih hs

theorem lowerFrom_of_all {s : List Char} (h : ∀ c ∈ s, IsLower c) (before : List Char) :
    lowerFrom before s = s := by
  induction s generalizing before with
  | nil => rfl
  | cons c s ih =>
      obtain ⟨hdotted, hsigma, hpartner⟩ := h c List.mem_cons_self
      rw [lowerFrom, lowerIn, if_neg hdotted, if_neg hsigma, hpartner,
        ih fun d hd => h d (List.mem_cons_of_mem _ hd)]
      rfl

theorem isLower_of_mem_lower {s : List Char} {c : Char} (h : c ∈ lower s) : IsLower c :=
  isLower_of_mem_lowerFrom h

theorem lower_of_all {s : List Char} (h : ∀ c ∈ s, IsLower c) : lower s = s :=
  lowerFrom_of_all h []

/-! ### Blanks at the ends -/

theorem trimStart_cons_of_blank {c : Char} (h : isBlank c = true) (s : List Char) :
    trimStart (c :: s) = trimStart s :=
  List.dropWhile_cons_of_pos h

theorem trimStart_cons_of_not_blank {c : Char} (h : isBlank c = false) (s : List Char) :
    trimStart (c :: s) = c :: s :=
  List.dropWhile_cons_of_neg (by simp [h])

theorem trimEnd_concat_of_blank {c : Char} (h : isBlank c = true) (s : List Char) :
    trimEnd (s ++ [c]) = trimEnd s :=
  List.rdropWhile_concat_pos isBlank s c h

theorem trimEnd_concat_of_not_blank {c : Char} (h : isBlank c = false) (s : List Char) :
    trimEnd (s ++ [c]) = s ++ [c] :=
  List.rdropWhile_concat_neg isBlank s c (by simp [h])

theorem trimEnd_cons_of_not_blank {c : Char} (h : isBlank c = false) (s : List Char) :
    trimEnd (c :: s) = c :: trimEnd s := by
  induction s using List.reverseRecOn with
  | nil => exact trimEnd_concat_of_not_blank h []
  | append_singleton s d ih =>
      rw [← List.cons_append]
      cases hd : isBlank d with
      | true => rw [trimEnd_concat_of_blank hd, trimEnd_concat_of_blank hd, ih]
      | false =>
          rw [trimEnd_concat_of_not_blank hd, trimEnd_concat_of_not_blank hd, List.cons_append]

theorem trimEnd_trimEnd (s : List Char) : trimEnd (trimEnd s) = trimEnd s :=
  List.rdropWhile_idempotent isBlank s

theorem trimStart_trim (s : List Char) : trimStart (trim s) = trim s := by
  induction s with
  | nil => rfl
  | cons c s ih =>
      cases hc : isBlank c with
      | true => rw [trim, trimStart_cons_of_blank hc, ← trim, ih]
      | false =>
          rw [trim, trimStart_cons_of_not_blank hc, trimEnd_cons_of_not_blank hc,
            trimStart_cons_of_not_blank hc]

theorem trim_trim (s : List Char) : trim (trim s) = trim s := by
  have hstart := trimStart_trim s
  rw [trim, hstart, trim, trimEnd_trimEnd]

theorem trim_cons_of_blank {c : Char} (h : isBlank c = true) (s : List Char) :
    trim (c :: s) = trim s := by
  rw [trim, trimStart_cons_of_blank h, ← trim]

theorem trim_concat_of_blank {c : Char} (h : isBlank c = true) (s : List Char) :
    trim (s ++ [c]) = trim s := by
  have hstart : trimStart (s ++ [c]) =
      if (trimStart s).isEmpty then trimStart [c] else trimStart s ++ [c] := List.dropWhile_append
  rw [trim, hstart, trim]
  split
  · next hempty =>
      rw [trimStart_cons_of_blank h, List.isEmpty_iff.mp hempty]
      rfl
  · exact trimEnd_concat_of_blank h _

theorem trim_append_of_blanks {blanks : List Char} (h : ∀ c ∈ blanks, isBlank c = true)
    (s : List Char) : trim (blanks ++ s) = trim s := by
  induction blanks with
  | nil => rfl
  | cons c blanks ih =>
      rw [List.cons_append, trim_cons_of_blank (h c List.mem_cons_self),
        ih fun d hd => h d (List.mem_cons_of_mem _ hd)]

theorem trim_append_blanks {blanks : List Char} (h : ∀ c ∈ blanks, isBlank c = true)
    (s : List Char) : trim (s ++ blanks) = trim s := by
  induction blanks using List.reverseRecOn with
  | nil => rw [List.append_nil]
  | append_singleton blanks c ih =>
      rw [← List.append_assoc, trim_concat_of_blank (h c (by simp)),
        ih fun d hd => h d (List.mem_append_left _ hd)]

theorem trim_of_not_blank {c d : Char} (hc : isBlank c = false) (hd : isBlank d = false)
    (s : List Char) : trim (c :: (s ++ [d])) = c :: (s ++ [d]) := by
  rw [trim, trimStart_cons_of_not_blank hc, ← List.cons_append, trimEnd_concat_of_not_blank hd]

/-! ### Trimming and lower-casing -/

theorem lower_trimStart (s : List Char) : lower (trimStart s) = trimStart (lower s) := by
  induction s with
  | nil => rfl
  | cons c s ih =>
      cases hc : isBlank c with
      | true =>
          rw [trimStart_cons_of_blank hc, lower_cons (endsWord_of_isBlank hc),
            lowerPartner_of_isBlank hc, trimStart_cons_of_blank hc, ih]
      | false =>
          obtain ⟨d, ds, hform⟩ := List.exists_cons_of_ne_nil (lowerIn_ne_nil [] s c)
          have hd : isBlank d = false := by
            rw [← hc]
            exact (isLower_of_mem_lowerIn (hform ▸ List.mem_cons_self)).2
          have hlower : lower (c :: s) = d :: (ds ++ lowerFrom [c] s) := by
            rw [lower, lowerFrom, hform]
            rfl
          rw [trimStart_cons_of_not_blank hc, hlower, trimStart_cons_of_not_blank hd]

theorem exists_lowerFrom_concat (before s : List Char) (c : Char) :
    ∃ front, lowerFrom before (s ++ [c]) = front ++ lowerIn (s.reverse ++ before) c [] := by
  induction s generalizing before with
  | nil => exact ⟨[], List.append_nil _⟩
  | cons d s ih =>
      obtain ⟨front, hfront⟩ := ih (d :: before)
      refine ⟨lowerIn before d (s ++ [c]) ++ front, ?_⟩
      rw [List.cons_append, lowerFrom, hfront]
      simp

theorem lower_trimEnd (s : List Char) : lower (trimEnd s) = trimEnd (lower s) := by
  induction s using List.reverseRecOn with
  | nil => rfl
  | append_singleton s c ih =>
      cases hc : isBlank c with
      | true =>
          rw [trimEnd_concat_of_blank hc, lower_concat (endsWord_of_isBlank hc),
            lowerPartner_of_isBlank hc, trimEnd_concat_of_blank hc, ih]
      | false =>
          obtain ⟨front, hfront⟩ := exists_lowerFrom_concat [] s c
          obtain ⟨ds, d, hform⟩ := List.eq_nil_or_concat'
            (lowerIn (s.reverse ++ []) c []) |>.resolve_left (lowerIn_ne_nil _ _ _)
          have hd : isBlank d = false := by
            rw [← hc]
            exact (isLower_of_mem_lowerIn (hform ▸ List.mem_append_right ds List.mem_cons_self)).2
          have hlower : lower (s ++ [c]) = front ++ ds ++ [d] := by
            rw [lower, hfront, hform, List.append_assoc]
          rw [trimEnd_concat_of_not_blank hc, hlower, trimEnd_concat_of_not_blank hd]

/-- A text is trimmed and lower-cased in either order. -/
theorem lower_trim (s : List Char) : lower (trim s) = trim (lower s) := by
  rw [trim, lower_trimEnd, lower_trimStart, ← trim]

theorem lower_lower (s : List Char) : lower (lower s) = lower s :=
  lower_of_all fun _ => isLower_of_mem_lower

/-! ### Texts spelled alike -/

theorem meetsCased_map_toLower (s : List Char) : meetsCased (s.map Char.toLower) = meetsCased s := by
  induction s with
  | nil => rfl
  | cons c s ih =>
      rw [List.map_cons, meetsCased, meetsCased, isCaseIgnorable_toLower, isCased_toLower, ih]

theorem toLower_eq_iff {c d : Char} (hascii : isAscii d = false) : c.toLower = d ↔ c = d := by
  constructor
  · intro h
    have hc : isAscii c = false := by rw [← isAscii_toLower, h, hascii]
    have hle : ¬c.toNat < 0x80 := of_decide_eq_false hc
    rwa [toLower_of_not_upper (by omega)] at h
  · rintro rfl
    have hle : ¬c.toNat < 0x80 := of_decide_eq_false hascii
    exact toLower_of_not_upper (by omega)

theorem lowerFrom_map_toLower (before s : List Char) :
    lowerFrom (before.map Char.toLower) (s.map Char.toLower) = lowerFrom before s := by
  induction s generalizing before with
  | nil => rfl
  | cons c s ih =>
      have hletter : lowerIn (before.map Char.toLower) c.toLower (s.map Char.toLower) =
          lowerIn before c s := by
        simp only [lowerIn, meetsCased_map_toLower, lowerPartner_toLower,
          toLower_eq_iff (show isAscii 'İ' = false by decide),
          toLower_eq_iff (show isAscii 'Σ' = false by decide)]
      rw [List.map_cons, lowerFrom, lowerFrom, hletter, ← List.map_cons, ih]

theorem lower_map_toLower (s : List Char) : lower (s.map Char.toLower) = lower s :=
  lowerFrom_map_toLower [] s

/-- The text `t` is the text `s` with blanks around it. -/
def BlanksAround (s t : List Char) : Prop :=
  ∃ before after, (∀ c ∈ before, isBlank c = true) ∧ (∀ c ∈ after, isBlank c = true) ∧
    t = before ++ (s ++ after)

theorem blanksAround_of_all {s t : List Char} (before after : List Char)
    (hbefore : before.all isBlank = true) (hafter : after.all isBlank = true)
    (h : t = before ++ (s ++ after)) : BlanksAround s t :=
  ⟨before, after, List.all_eq_true.mp hbefore, List.all_eq_true.mp hafter, h⟩

/-- Texts that differ in blanks around them and the case of letters of ASCII, if at all. -/
def SpelledAlike (s t : List Char) : Prop :=
  ∃ core core', BlanksAround core s ∧ BlanksAround core' t ∧
    core.map Char.toLower = core'.map Char.toLower

/-- The trimmed and lower-cased form of a text. -/
def normal (s : List Char) : List Char := lower (trim s)

theorem normal_eq_trim_lower (s : List Char) : normal s = trim (lower s) := lower_trim s

theorem normal_of_blanksAround {s t : List Char} (h : BlanksAround s t) : normal t = normal s := by
  obtain ⟨before, after, hbefore, hafter, rfl⟩ := h
  rw [normal, trim_append_of_blanks hbefore, trim_append_blanks hafter, ← normal]

theorem normal_map_toLower (s : List Char) : normal (s.map Char.toLower) = normal s := by
  rw [normal_eq_trim_lower, lower_map_toLower, ← normal_eq_trim_lower]

theorem SpelledAlike.normal_eq {s t : List Char} (h : SpelledAlike s t) : normal s = normal t := by
  obtain ⟨core, core', hs, ht, hcore⟩ := h
  calc
    normal s = normal core := normal_of_blanksAround hs
    _ = normal (core.map Char.toLower) := (normal_map_toLower core).symm
    _ = normal core' := by rw [hcore, normal_map_toLower]
    _ = normal t := (normal_of_blanksAround ht).symm

theorem normal_of_trim_eq {s : List Char} (htrim : trim s = s) (hlower : lower s = s) :
    normal s = s := by
  rw [normal, htrim, hlower]

theorem lower_normal (s : List Char) : lower (normal s) = normal s := lower_lower _

theorem normal_normal (s : List Char) : normal (normal s) = normal s := by
  refine normal_of_trim_eq ?_ (lower_normal s)
  rw [normal_eq_trim_lower, trim_trim]

end SqlConnector.Text
