import SqlConnector.Proofs.Stream.Course
import SqlConnector.Proofs.Stream.Schedule

/-!
What every way through a task has in common. A task may note things of some kind a fixed number of
times, whoever listens, or note them in a fixed order before anything else.
-/

namespace SqlConnector

namespace Task

variable {ε ι α β : Type} {p : ε → Bool}

/-- Whichever way a task goes, it notes `n` things of the kind `p`. -/
def Counts (p : ε → Bool) : Task ε α → Nat → Prop
  | done _, n => n = 0
  | note e next, n => ∃ m, n = [e].countP p + m ∧ next.Counts p m
  | send _ taken refused, n => taken.Counts p n ∧ refused.Counts p n
  | probe heard gone, n => heard.Counts p n ∧ gone.Counts p n

/-- Whichever way a task goes, it notes `es` first, all of the kind `p`, and nothing of the kind
from then on. -/
def Opens (p : ε → Bool) (t : Task ε α) (es : List ε) : Prop :=
  (∀ e ∈ es, p e) ∧ ∃ body : Task ε α, t = noteAll es body ∧ body.Counts p 0

theorem bind_assoc {γ : Type} (t : Task ε α) (f : α → Task ε β) (g : β → Task ε γ) :
    (t.bind f).bind g = t.bind fun a => (f a).bind g := by
  induction t with
  | done a => rfl
  | note e next ih => simp [ih]
  | send d taken refused ihtaken ihrefused => simp [ihtaken, ihrefused]
  | probe heard gone ihheard ihgone => simp [ihheard, ihgone]

@[simp] theorem counts_report (d : Delivery) : (report d : Task ε Unit).Counts p 0 := ⟨rfl, rfl⟩

theorem counts_noteAll {t : Task ε α} {n : Nat} (h : t.Counts p n) (es : List ε) :
    (noteAll es t).Counts p (es.countP p + n) := by
  induction es with
  | nil => simpa using h
  | cons e rest ih =>
      refine ⟨rest.countP p + n, ?_, ih⟩
      rw [← Nat.add_assoc, ← List.countP_append, List.singleton_append]

theorem counts_bind {t : Task ε α} {f : α → Task ε β} {n m : Nat} (h : t.Counts p n)
    (hf : ∀ a, (f a).Counts p m) : (t.bind f).Counts p (n + m) := by
  induction t generalizing n with
  | done a =>
      obtain rfl : n = 0 := h
      simpa using hf a
  | note e next ih =>
      obtain ⟨k, rfl, hk⟩ := h
      exact ⟨k + m, Nat.add_assoc _ _ _, ih hk⟩
  | send d taken refused ihtaken ihrefused => exact ⟨ihtaken h.1, ihrefused h.2⟩
  | probe heard gone ihheard ihgone => exact ⟨ihheard h.1, ihgone h.2⟩

theorem counts_relabel {f : ι → ε} {t : Task ι α} {n : Nat} (h : t.Counts (p ∘ f) n) :
    (t.relabel f).Counts p n := by
  induction t generalizing n with
  | done a => exact h
  | note e next ih =>
      obtain ⟨m, rfl, hm⟩ := h
      exact ⟨m, by rw [← List.countP_map]; rfl, ih hm⟩
  | send d taken refused ihtaken ihrefused => exact ⟨ihtaken h.1, ihrefused h.2⟩
  | probe heard gone ihheard ihgone => exact ⟨ihheard h.1, ihgone h.2⟩

/-- The number of notes of the kind is the same for every listener. -/
theorem countP_course {t : Task ε α} {n : Nat} (h : t.Counts p n) (stay : Option Nat) :
    (t.course stay).1.countP p = n := by
  induction t generalizing n stay with
  | done a =>
      obtain rfl : n = 0 := h
      rfl
  | note e next ih =>
      obtain ⟨m, rfl, hm⟩ := h
      rw [← ih hm stay, ← List.countP_append]
      rfl
  | send d taken refused ihtaken ihrefused =>
      rw [course]
      split
      · exact ihtaken h.1 _
      · exact ihrefused h.2 _
  | probe heard gone ihheard ihgone =>
      rw [course]
      split
      · exact ihheard h.1 _
      · exact ihgone h.2 _

/-- Every listener is noted the same things of the kind, in the same order. -/
theorem filter_course {t : Task ε α} {es : List ε} (h : t.Opens p es) (stay : Option Nat) :
    (t.course stay).1.filter p = es := by
  obtain ⟨hes, body, rfl, hbody⟩ := h
  have hrest : (body.course stay).1.filter p = [] := by
    rw [← List.length_eq_zero_iff, ← List.countP_eq_length_filter]
    exact countP_course hbody stay
  rw [course_noteAll, List.filter_append, List.filter_eq_self.mpr hes, hrest, List.append_nil]

theorem eq_zero_of_counts {t : Task ε α} {n : Nat} (h : t.Counts p n) (hdone : t.isDone = true) :
    n = 0 := by
  cases t with
  | done a => exact h
  | _ => simp at hdone

end Task

namespace Execution

variable {ε : Type} {p : ε → Bool} {x y : Execution ε}

/-- A step notes some of what there is to note. -/
theorem Produced.counts (h : Produced x y) {n : Nat} (hx : x.task.Counts p n) :
    ∃ es m, y.notes = x.notes ++ es ∧ n = es.countP p + m ∧ y.task.Counts p m := by
  cases h with
  | noted e next htask =>
      rw [htask] at hx
      obtain ⟨m, hn, hm⟩ := hx
      exact ⟨[e], m, rfl, hn, hm⟩
  | refused d taken next htask hlistening =>
      rw [htask] at hx
      exact ⟨[], n, by simp, by simp, hx.2⟩
  | taken d next refused htask hlistening hroom =>
      rw [htask] at hx
      exact ⟨[], n, by simp, by simp, hx.1⟩
  | heard next gone htask hlistening =>
      rw [htask] at hx
      exact ⟨[], n, by simp, by simp, hx.1⟩
  | gone heard next htask hlistening =>
      rw [htask] at hx
      exact ⟨[], n, by simp, by simp, hx.2⟩

/-- A step of a task that notes `owed` first either notes the first of these, or notes nothing of
the kind when there are none left. -/
theorem Produced.opens (h : Produced x y) {owed : List ε} (hx : x.task.Opens p owed) :
    (∃ e rest, owed = e :: rest ∧ y.notes = x.notes ++ [e] ∧ p e ∧ y.task.Opens p rest ∧
      y.channel = x.channel) ∨
    owed = [] ∧ y.task.Opens p [] ∧ ∃ es, y.notes = x.notes ++ es ∧ es.filter p = [] := by
  obtain ⟨howed, body, htask, hbody⟩ := hx
  cases owed with
  | cons e rest =>
      refine .inl ⟨e, rest, rfl, ?_⟩
      obtain ⟨he, hrest⟩ := List.forall_mem_cons.mp howed
      replace htask : x.task = .note e (Task.noteAll rest body) := htask
      cases h with
      | noted e' next htask' =>
          obtain ⟨rfl, rfl⟩ := Task.note.inj (htask'.symm.trans htask)
          exact ⟨rfl, he, ⟨hrest, body, rfl, hbody⟩, rfl⟩
      | _ => simp_all
  | nil =>
      obtain ⟨es, m, hnotes, hzero, hm⟩ := h.counts (p := p) (n := 0) (htask ▸ hbody)
      obtain ⟨hes, rfl⟩ : es.countP p = 0 ∧ m = 0 := by omega
      refine .inr ⟨rfl, ⟨by simp, y.task, rfl, hm⟩, es, hnotes, ?_⟩
      rw [← List.length_eq_zero_iff, ← List.countP_eq_length_filter]
      exact hes

end Execution

end SqlConnector
