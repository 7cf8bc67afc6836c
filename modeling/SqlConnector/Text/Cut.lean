/-!
Cutting text at a character, once or at every occurrence, and trimming it. `cut` takes the first
occurrence and `cutLast` the last one; both give the two sides without the character itself, so the
sides and the character make up the text. Trimming takes off white space in the sense of Unicode's
property White_Space.
-/

namespace SqlConnector.Text

/-- The text before and after the first `c`. -/
@[simp] def cut (c : Char) : List Char → Option (List Char × List Char)
  | [] => none
  | d :: rest =>
    if d = c then some ([], rest)
    else (cut c rest).map fun (before, after) => (d :: before, after)

/-- The text before and after the last `c`. -/
@[simp] def cutLast (c : Char) : List Char → Option (List Char × List Char)
  | [] => none
  | d :: rest =>
    match cutLast c rest with
    | some (before, after) => some (d :: before, after)
    | none => if d = c then some ([], rest) else none

/-- The text without the run of `c` at its end. -/
@[simp] def dropTrailing (c : Char) : List Char → List Char
  | [] => []
  | d :: rest =>
    match dropTrailing c rest with
    | [] => if d = c then [] else [d]
    | kept => d :: kept

/-- The text without the opening `lead`, when it opens with it. -/
@[simp] def dropLead? : List Char → List Char → Option (List Char)
  | [], s => some s
  | _ :: _, [] => none
  | c :: lead, d :: s => if c = d then dropLead? lead s else none

/-- The text without the closing `tail`, when it closes with it. -/
def dropEnd? (tail s : List Char) : Option (List Char) :=
  (dropLead? tail.reverse s.reverse).map List.reverse

/-- Whether `part` stands somewhere in the text. -/
def occurs (part : List Char) : List Char → Bool
  | [] => part.isEmpty
  | c :: rest => (dropLead? part (c :: rest)).isSome || occurs part rest

/-- The parts of a text between the separators, at least one. -/
def split (separator : Char) : List Char → List (List Char)
  | [] => [[]]
  | c :: rest =>
    if c = separator then [] :: split separator rest
    else
      match split separator rest with
      | [] => [[c]]
      | part :: parts => (c :: part) :: parts

def join (between : List Char) : List (List Char) → List Char
  | [] => []
  | [part] => part
  | part :: next :: rest => part ++ between ++ join between (next :: rest)

def isBlank (c : Char) : Bool :=
  let n := c.toNat
  (9 ≤ n && n ≤ 13) || n == 0x20 || n == 0x85 || n == 0xA0 || n == 0x1680 ||
    (0x2000 ≤ n && n ≤ 0x200A) || n == 0x2028 || n == 0x2029 || n == 0x202F || n == 0x205F ||
    n == 0x3000

def trimStart (s : List Char) : List Char := s.dropWhile isBlank

def trimEnd (s : List Char) : List Char := (s.reverse.dropWhile isBlank).reverse

def trim (s : List Char) : List Char := trimEnd (trimStart s)

theorem cut_eq_some {c : Char} {s before after : List Char} (h : cut c s = some (before, after)) :
    s = before ++ c :: after ∧ c ∉ before := by
  induction s generalizing before after with
  | nil => simp at h
  | cons d rest ih =>
    rw [cut] at h
    split at h
    · next hd => simp at h; obtain ⟨rfl, rfl⟩ := h; simp [hd]
    · next hd =>
      obtain ⟨⟨b, a⟩, hba, heq⟩ := Option.map_eq_some_iff.1 h
      simp at heq
      obtain ⟨rfl, rfl⟩ := heq
      obtain ⟨rfl, hc⟩ := ih hba
      exact ⟨rfl, by simp [hc, Ne.symm hd]⟩

theorem cut_append_cons {c : Char} {before : List Char} (h : c ∉ before) (after : List Char) :
    cut c (before ++ c :: after) = some (before, after) := by
  induction before with
  | nil => simp
  | cons d before ih =>
    rw [List.mem_cons, not_or] at h
    simp [Ne.symm h.1, ih h.2]

theorem cut_eq_none {c : Char} {s : List Char} : cut c s = none ↔ c ∉ s := by
  induction s with
  | nil => simp
  | cons d rest ih => by_cases hd : d = c <;> simp [hd, ih, Ne.symm]

theorem cutLast_eq_none {c : Char} {s : List Char} : cutLast c s = none ↔ c ∉ s := by
  induction s with
  | nil => simp
  | cons d rest ih =>
    cases hr : cutLast c rest with
    | none =>
      have := ih.1 hr
      by_cases hd : d = c <;> simp [hr, hd, this, Ne.symm]
    | some sides =>
      have : c ∈ rest := Classical.byContradiction fun hn => by simp [ih.2 hn] at hr
      simp [hr, this]

theorem cutLast_eq_some {c : Char} {s before after : List Char}
    (h : cutLast c s = some (before, after)) : s = before ++ c :: after ∧ c ∉ after := by
  induction s generalizing before after with
  | nil => simp at h
  | cons d rest ih =>
    cases hr : cutLast c rest with
    | none =>
      simp only [cutLast, hr] at h
      split at h
      · next hd => simp at h; obtain ⟨rfl, rfl⟩ := h; simp [hd, cutLast_eq_none.1 hr]
      · simp at h
    | some sides =>
      simp only [cutLast, hr, Option.some.injEq, Prod.mk.injEq] at h
      obtain ⟨rfl, rfl⟩ := h
      obtain ⟨hs, hc⟩ := ih hr
      exact ⟨by rw [hs]; rfl, hc⟩

theorem cutLast_append_cons {c : Char} (before : List Char) {after : List Char} (h : c ∉ after) :
    cutLast c (before ++ c :: after) = some (before, after) := by
  induction before with
  | nil => simp [cutLast_eq_none.2 h]
  | cons d before ih => simp [ih]

/-! Runs at the end. A text is what is kept of it and a run of `c`, and what is kept does not end in
`c`; only one text goes with the run in this way. -/

theorem exists_dropTrailing (c : Char) (s : List Char) :
    ∃ n, s = dropTrailing c s ++ List.replicate n c := by
  induction s with
  | nil => exact ⟨0, rfl⟩
  | cons d rest ih =>
    obtain ⟨n, hn⟩ := ih
    cases hkept : dropTrailing c rest with
    | nil =>
      have hdropped : dropTrailing c (d :: rest) = if d = c then [] else [d] := by
        rw [dropTrailing, hkept]
      rw [hkept, List.nil_append] at hn
      rw [hdropped, hn]
      by_cases hd : d = c
      · exact ⟨n + 1, by simp [hd, List.replicate_succ]⟩
      · exact ⟨n, by simp [hd]⟩
    | cons e kept =>
      rw [hkept] at hn
      exact ⟨n, by simp [hkept, ← hn]⟩

theorem getLast?_dropTrailing (c : Char) (s : List Char) :
    (dropTrailing c s).getLast? ≠ some c := by
  induction s with
  | nil => simp
  | cons d rest ih =>
    cases hkept : dropTrailing c rest with
    | nil => by_cases hd : d = c <;> simp [hkept, hd]
    | cons e kept => simpa [hkept] using ih

theorem dropTrailing_replicate (c : Char) (n : Nat) : dropTrailing c (List.replicate n c) = [] := by
  induction n with
  | zero => rfl
  | succ n ih => simp [List.replicate_succ, ih]

theorem dropTrailing_append_replicate {c : Char} {kept : List Char}
    (h : kept.getLast? ≠ some c) (n : Nat) : dropTrailing c (kept ++ List.replicate n c) = kept := by
  induction kept with
  | nil => exact dropTrailing_replicate c n
  | cons d kept ih =>
    cases kept with
    | nil =>
      have hd : d ≠ c := by simpa using h
      simp [dropTrailing_replicate, hd]
    | cons e kept =>
      have hkept := ih (by simpa using h)
      simp at hkept ⊢
      simp [hkept]

theorem dropTrailing_append_replicate_self (c : Char) (s : List Char) (n : Nat) :
    dropTrailing c (s ++ List.replicate n c) = dropTrailing c s := by
  obtain ⟨k, hk⟩ := exists_dropTrailing c s
  have h := dropTrailing_append_replicate (getLast?_dropTrailing c s) (k + n)
  rwa [← List.replicate_append_replicate, ← List.append_assoc, ← hk] at h

theorem dropLead?_eq_some {lead s rest : List Char} :
    dropLead? lead s = some rest ↔ s = lead ++ rest := by
  induction lead generalizing s with
  | nil => simp
  | cons c lead ih =>
    cases s with
    | nil => simp
    | cons d s =>
      by_cases h : c = d
      · simp [h, ih]
      · simp [h, Ne.symm h]

theorem dropLead?_eq_none {lead s : List Char} : dropLead? lead s = none ↔ ¬lead <+: s := by
  simp only [Option.eq_none_iff_forall_not_mem, Option.mem_def, dropLead?_eq_some]
  constructor
  · rintro h ⟨rest, hrest⟩
    exact h rest hrest.symm
  · rintro h rest rfl
    exact h ⟨rest, rfl⟩

theorem dropEnd?_eq_some {tail s rest : List Char} :
    dropEnd? tail s = some rest ↔ s = rest ++ tail := by
  simp only [dropEnd?, Option.map_eq_some_iff, dropLead?_eq_some]
  constructor
  · rintro ⟨r, hr, rfl⟩
    have := congrArg List.reverse hr
    simpa using this
  · rintro rfl
    exact ⟨rest.reverse, by simp, by simp⟩

end SqlConnector.Text
