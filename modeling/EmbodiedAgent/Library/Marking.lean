import Mathlib.Data.List.Basic

/-! Operations on a board that write one mark, and where they write it. -/

namespace EmbodiedAgent.Library.Marking

variable {κ α ι : Type*} {mark : α} {f : (κ → α) → κ → α} {P Q : κ → Prop}

/-- The operation writes the mark to the places of `P` and leaves the others. -/
structure Marks (mark : α) (f : (κ → α) → κ → α) (P : κ → Prop) : Prop where
  marked : ∀ s k, P k → f s k = mark
  kept : ∀ s k, ¬ P k → f s k = s k

theorem marks_none (mark : α) : Marks mark (fun s : κ → α ↦ s) fun _ ↦ False :=
  ⟨fun _ _ h ↦ h.elim, fun _ _ _ ↦ rfl⟩

theorem marks_update [DecidableEq κ] (mark : α) (cell : κ) :
    Marks mark (fun s ↦ Function.update s cell mark) fun k ↦ k = cell where
  marked s k h := by rw [h, Function.update_self]
  kept s k h := Function.update_of_ne h mark s

theorem Marks.congr (h : Marks mark f P) (hPQ : ∀ k, P k ↔ Q k) : Marks mark f Q where
  marked s k hk := h.marked s k ((hPQ k).mpr hk)
  kept s k hk := h.kept s k fun hP ↦ hk ((hPQ k).mp hP)

theorem marks_foldl {f : (κ → α) → ι → κ → α} {P : ι → κ → Prop} {l : List ι}
    (h : ∀ i ∈ l, Marks mark (fun s ↦ f s i) (P i)) :
    Marks mark (fun s ↦ l.foldl f s) fun k ↦ ∃ i ∈ l, P i k := by
  induction l with
  | nil => exact (marks_none mark).congr (by simp)
  | cons i l ih =>
    obtain ⟨hfirst, hlater⟩ := List.forall_mem_cons.mp h
    have hrest := ih hlater
    refine ⟨fun s k hk ↦ ?_, fun s k hk ↦ ?_⟩
    · rw [List.foldl_cons]
      by_cases hagain : ∃ j ∈ l, P j k
      · exact hrest.marked _ k hagain
      · rw [hrest.kept _ k hagain]
        obtain ⟨j, hj, hP⟩ := hk
        rcases List.mem_cons.mp hj with rfl | hj
        · exact hfirst.marked s k hP
        · exact absurd ⟨j, hj, hP⟩ hagain
    · rw [List.foldl_cons, hrest.kept _ k fun ⟨j, hj, hP⟩ ↦ hk ⟨j, .tail _ hj, hP⟩]
      exact hfirst.kept s k fun hP ↦ hk ⟨i, .head _, hP⟩

theorem Marks.eq_mark_iff (h : Marks mark f P) (s : κ → α) (k : κ) :
    f s k = mark ↔ s k = mark ∨ P k := by
  by_cases hk : P k
  · exact iff_of_true (h.marked s k hk) (.inr hk)
  · rw [h.kept s k hk, or_iff_left hk]

end EmbodiedAgent.Library.Marking
