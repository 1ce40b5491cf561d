import Mathlib.Data.List.Basic

/-!
# What has happened since

The past is a list of events, the latest one last.  Some events undo what was
before them, and what counts is what has happened since the last of these.
-/

namespace DocQuery

theorem split_concat_iff {α : Type*} {p : List α → α → List α → Prop} {past : List α} {e : α} :
    (∃ before e' later, past ++ [e] = before ++ e' :: later ∧ p before e' later) ↔
      p past e [] ∨
        ∃ before e' later, past = before ++ e' :: later ∧ p before e' (later ++ [e]) := by
  constructor
  · rintro ⟨before, e', later, hpast, hp⟩
    rcases List.eq_nil_or_concat' later with rfl | ⟨later, last, rfl⟩
    · rcases List.append_inj' hpast rfl with ⟨rfl, hlast⟩
      cases hlast
      exact Or.inl hp
    · rw [← List.cons_append, ← List.append_assoc] at hpast
      rcases List.append_inj' hpast rfl with ⟨hbefore, hlast⟩
      cases hlast
      exact Or.inr ⟨before, e', later, hbefore, hp⟩
  · rintro (hp | ⟨before, e', later, rfl, hp⟩)
    · exact ⟨past, e, [], rfl, hp⟩
    · exact ⟨before, e', later ++ [e], by rw [List.append_assoc, List.cons_append], hp⟩

variable {α : Type*} {undoes p : α → Prop} {past : List α}

/-- Something has happened that no later event has undone. -/
def Since (undoes p : α → Prop) (past : List α) : Prop :=
  ∃ before e later, past = before ++ e :: later ∧ p e ∧ ∀ l ∈ later, ¬ undoes l

theorem not_since_nil : ¬ Since undoes p [] := by
  rintro ⟨before, e, later, hpast, _⟩
  cases before <;> cases hpast

theorem since_concat_iff {e : α} :
    Since undoes p (past ++ [e]) ↔ p e ∨ Since undoes p past ∧ ¬ undoes e := by
  have hnil : ∀ l ∈ ([] : List α), ¬ undoes l := List.forall_mem_nil _
  unfold Since
  rw [split_concat_iff, and_iff_left hnil]
  simp only [List.forall_mem_append, List.forall_mem_singleton, ← and_assoc, exists_and_right]

end DocQuery
