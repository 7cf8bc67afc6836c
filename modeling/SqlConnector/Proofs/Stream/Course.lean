import SqlConnector.Stream.Client

/-!
The ways through a task. The listener may be there to the end, or go away at any point; a course
says for how many hand-overs and looks it stays.
-/

namespace SqlConnector.Task

variable {ε ι α β : Type}

/-- What is handed over when the listener is there to the end. -/
@[simp] def deliveries : Task ε α → List Delivery
  | done _ => []
  | note _ next => next.deliveries
  | send d taken _ => d :: taken.deliveries
  | probe heard _ => heard.deliveries

@[simp] theorem deliveries_report (d : Delivery) : (report d : Task ε Unit).deliveries = [d] := rfl

theorem deliveries_of_isDone {t : Task ε α} (h : t.isDone = true) : t.deliveries = [] := by
  cases t with
  | done _ => rfl
  | _ => simp at h

/-! ### A listener that may go away

The listener is there for a number of hand-overs and looks and gone from then on (`some n`), or
there to the end (`none`). -/

/-- What is left of a listener's stay after one more contact; none when it is gone. -/
def stay? : Option Nat → Option (Option Nat)
  | none => some none
  | some 0 => none
  | some (n + 1) => some (some n)

@[simp] theorem stay?_none : stay? none = some none := rfl

@[simp] theorem stay?_zero : stay? (some 0) = none := rfl

/-- Who stays to the end still does after a contact. -/
theorem eq_none_of_stay? {stay rest : Option Nat} (h : stay? stay = some rest)
    (hstay : stay = none) : rest = none := by
  subst hstay
  exact (Option.some.inj h).symm

/-- What a task wants of its listener: that it takes a delivery, or that it is there. -/
inductive Contact where
  | offer (d : Delivery)
  | look

/-- The notes and the end of a task for a listener. -/
@[simp] def course (stay : Option Nat) : Task ε α → List ε × α
  | done a => ([], a)
  | note e next => (e :: (next.course stay).1, (next.course stay).2)
  | send _ taken refused =>
      match stay? stay with
      | some rest => taken.course rest
      | none => refused.course stay
  | probe heard gone =>
      match stay? stay with
      | some rest => heard.course rest
      | none => gone.course stay

theorem course_of_isDone {t : Task ε α} (h : t.isDone = true) (stay : Option Nat) :
    (t.course stay).1 = [] := by
  cases t with
  | done _ => rfl
  | _ => simp at h

/-- The first contact that finds nobody. -/
@[simp] def lost? (stay : Option Nat) : Task ε α → Option Contact
  | done _ => none
  | note _ next => next.lost? stay
  | send d taken _ =>
      match stay? stay with
      | some rest => taken.lost? rest
      | none => some (.offer d)
  | probe heard _ =>
      match stay? stay with
      | some rest => heard.lost? rest
      | none => some .look

/-- What a listener is handed. -/
@[simp] def taken (stay : Option Nat) : Task ε α → List Delivery
  | done _ => []
  | note _ next => next.taken stay
  | send d taken refused =>
      match stay? stay with
      | some rest => d :: taken.taken rest
      | none => refused.taken stay
  | probe heard gone =>
      match stay? stay with
      | some rest => heard.taken rest
      | none => gone.taken stay

@[simp] theorem taken_none (t : Task ε α) : t.taken none = t.deliveries := by
  induction t with
  | done a => rfl
  | note e next ih => exact ih
  | send d taken refused ihtaken _ => simp [ihtaken]
  | probe heard gone ihheard _ => simp [ihheard]

@[simp] theorem lost?_none (t : Task ε α) : t.lost? none = none := by
  induction t with
  | done a => rfl
  | note e next ih => exact ih
  | send d taken refused ihtaken _ => simp [ihtaken]
  | probe heard gone ihheard _ => simp [ihheard]

theorem stay_ne_none_of_lost? {stay : Option Nat} {t : Task ε α} {contact : Contact}
    (h : t.lost? stay = some contact) : stay ≠ none := by
  rintro rfl
  simp at h

/-! ### Notes -/

@[simp] theorem course_noteAll (stay : Option Nat) (es : List ε) (t : Task ε α) :
    (noteAll es t).course stay = (es ++ (t.course stay).1, (t.course stay).2) := by
  induction es with
  | nil => rfl
  | cons e rest ih => simp [ih]

@[simp] theorem lost?_noteAll (stay : Option Nat) (es : List ε) (t : Task ε α) :
    (noteAll es t).lost? stay = t.lost? stay := by
  induction es with
  | nil => rfl
  | cons e rest ih => exact ih

@[simp] theorem taken_noteAll (stay : Option Nat) (es : List ε) (t : Task ε α) :
    (noteAll es t).taken stay = t.taken stay := by
  induction es with
  | nil => rfl
  | cons e rest ih => exact ih

@[simp] theorem course_relabel (f : ε → ι) (stay : Option Nat) (t : Task ε α) :
    (t.relabel f).course stay = ((t.course stay).1.map f, (t.course stay).2) := by
  induction t generalizing stay with
  | done a => rfl
  | note e next ih => simp [ih]
  | send d taken refused ihtaken ihrefused =>
      simp only [relabel, course]
      split
      · exact ihtaken _
      · exact ihrefused _
  | probe heard gone ihheard ihgone =>
      simp only [relabel, course]
      split
      · exact ihheard _
      · exact ihgone _

@[simp] theorem taken_relabel (f : ε → ι) (stay : Option Nat) (t : Task ε α) :
    (t.relabel f).taken stay = t.taken stay := by
  induction t generalizing stay with
  | done a => rfl
  | note e next ih => exact ih stay
  | send d taken refused ihtaken ihrefused => simp [ihtaken, ihrefused]
  | probe heard gone ihheard ihgone => simp [ihheard, ihgone]

/-! ### One task after another -/

/-- The second task goes on with what is left of the stay after the first. -/
theorem exists_course_bind (f : α → Task ε β) (stay : Option Nat) (t : Task ε α) :
    ∃ rest, (stay = none → rest = none) ∧
      ((t.bind f).course stay).1 =
        (t.course stay).1 ++ ((f (t.course stay).2).course rest).1 ∧
      (t.bind f).taken stay = t.taken stay ++ (f (t.course stay).2).taken rest ∧
      (t.bind f).lost? stay = (t.lost? stay).or ((f (t.course stay).2).lost? rest) := by
  induction t generalizing stay with
  | done a => exact ⟨stay, id, rfl, rfl, rfl⟩
  | note e next ih =>
      obtain ⟨rest, hrest, hcourse, htaken, hlost⟩ := ih stay
      exact ⟨rest, hrest, congrArg (e :: ·) hcourse, htaken, hlost⟩
  | send d taken refused ihtaken ihrefused =>
      cases hstay : stay? stay with
      | some left =>
          obtain ⟨rest, hrest, hcourse, htaken, hlost⟩ := ihtaken left
          refine ⟨rest, fun h => hrest (eq_none_of_stay? hstay h), ?_, ?_, ?_⟩
          · simpa [hstay] using hcourse
          · simpa [hstay] using htaken
          · simpa [hstay] using hlost
      | none =>
          -- what is refused here is what is lost, whatever the second task may offer
          obtain ⟨rest, hrest, hcourse, htaken, -⟩ := ihrefused stay
          refine ⟨rest, hrest, ?_, ?_, ?_⟩
          · simpa [hstay] using hcourse
          · simpa [hstay] using htaken
          · simp [hstay]
  | probe heard gone ihheard ihgone =>
      cases hstay : stay? stay with
      | some left =>
          obtain ⟨rest, hrest, hcourse, htaken, hlost⟩ := ihheard left
          refine ⟨rest, fun h => hrest (eq_none_of_stay? hstay h), ?_, ?_, ?_⟩
          · simpa [hstay] using hcourse
          · simpa [hstay] using htaken
          · simpa [hstay] using hlost
      | none =>
          obtain ⟨rest, hrest, hcourse, htaken, -⟩ := ihgone stay
          refine ⟨rest, hrest, ?_, ?_, ?_⟩
          · simpa [hstay] using hcourse
          · simpa [hstay] using htaken
          · simp [hstay]

/-! ### The end of a query -/

/-- However a query went, closing is the last thing that is done. -/
@[simp] theorem course_conclude (stay : Option Nat) (ended : Ended ε) :
    (ended.conclude.course stay).1 = ended.closing := by
  unfold Ended.conclude
  split
  · simp
  · simp
  · simp only [course]
    split <;> simp

/-- Nothing is handed over after a query that ended well, or whose listener is gone. -/
theorem taken_conclude {ended : Ended ε}
    (h : ended.outcome = .ok () ∨ ended.outcome = .error .disconnected) (stay : Option Nat) :
    ended.conclude.taken stay = [] := by
  unfold Ended.conclude
  rcases h with h | h <;> simp [h]

/-- What went wrong is the last that is handed over. -/
theorem taken_conclude_of_error {ended : Ended ε} {e : ClientError}
    (h : ended.outcome = .error e) (he : e ≠ .disconnected) :
    ended.conclude.taken none = [.failed (.protocol e.message)] := by
  unfold Ended.conclude
  cases e with
  | disconnected => exact absurd rfl he
  | _ => simp [h]

/-- After a query only a failure can find nobody. -/
theorem lost?_conclude (stay : Option Nat) (ended : Ended ε) :
    ended.conclude.lost? stay = none ∨
      ∃ e, ended.conclude.lost? stay = some (.offer (.failed e)) := by
  unfold Ended.conclude
  split
  · exact .inl (lost?_noteAll stay _ _)
  · exact .inl (lost?_noteAll stay _ _)
  · simp only [lost?]
    split
    · exact .inl (lost?_noteAll _ _ _)
    · exact .inr ⟨_, rfl⟩

end SqlConnector.Task
