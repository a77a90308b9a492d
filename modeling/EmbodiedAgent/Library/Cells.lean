import EmbodiedAgent.Library.History

namespace EmbodiedAgent.Library.Cells

variable {κ α ε ω : Type*} [DecidableEq κ]

/-- The step of an event reads and writes the cell of its key alone, as `act` does. -/
structure Local (step : (κ → α) → ε → (κ → α) × ω) (key : ε → κ) (act : α → ε → α × ω)
    (I : (κ → α) → Prop) : Prop where
  cell : ∀ s e, I s →
    step s e = (Function.update s (key e) (act (s (key e)) e).1, (act (s (key e)) e).2)
  invariant : ∀ s e, I s → I (step s e).1

def answers (step : (κ → α) → ε → (κ → α) × ω) (seen : ε → Bool) : (κ → α) → List ε → List ω :=
  History.collect step fun s e ↦ if seen e then [(step s e).2] else []

variable {step : (κ → α) → ε → (κ → α) × ω} {key : ε → κ} {act : α → ε → α × ω}
  {I : (κ → α) → Prop} {s t : κ → α} {e : ε}

theorem Local.apart {away : Set κ} {k : κ} (hl : Local step key act I) (hs : I s)
    (he : key e ∈ away) (hk : k ∉ away) : (step s e).1 k = s k := by
  rw [hl.cell s e hs]
  refine Function.update_of_ne ?_ _ _
  rintro rfl
  exact hk he

theorem Local.agree {away : Set κ} {k : κ} (hl : Local step key act I) (hs : I s) (ht : I t)
    (hst : ∀ k ∉ away, s k = t k) (hk : k ∉ away) : (step s e).1 k = (step t e).1 k := by
  rw [hl.cell s e hs, hl.cell t e ht]
  by_cases heq : k = key e
  · subst heq
    simp only [Function.update_self, hst _ hk]
  · simp only [Function.update_of_ne heq, hst k hk]

theorem Local.same_answer {away : Set κ} (hl : Local step key act I) (hs : I s) (ht : I t)
    (hst : ∀ k ∉ away, s k = t k) (he : key e ∉ away) : (step s e).2 = (step t e).2 := by
  rw [hl.cell s e hs, hl.cell t e ht, hst _ he]

/-- Events on the cells away from those that are seen do not change what is seen. -/
theorem Local.answers_filter (hl : Local step key act I) (away : Set κ) {seen hidden : ε → Bool}
    (hseen : ∀ e, seen e = true → key e ∉ away) (hhidden : ∀ e, hidden e = true → key e ∈ away)
    (hs : I s) (ht : I t) (hst : ∀ k ∉ away, s k = t k) (h : List ε) :
    answers step seen s h = answers step seen t (h.filter fun e ↦ !hidden e) := by
  induction h generalizing s t with
  | nil => rfl
  | cons e h ih =>
    by_cases he : hidden e = true
    · have hunseen : ¬ seen e = true := fun hseen' ↦ hseen e hseen' (hhidden e he)
      have hrest := ih (hl.invariant s e hs) ht fun k hk ↦
        (hl.apart hs (hhidden e he) hk).trans (hst k hk)
      simpa [answers, he, hunseen] using hrest
    · have hrest := ih (hl.invariant s e hs) (hl.invariant t e ht) fun k hk ↦
        hl.agree hs ht hst hk
      have hanswer : seen e = true → (step s e).2 = (step t e).2 := fun hseen' ↦
        hl.same_answer hs ht hst (hseen e hseen')
      by_cases hseen' : seen e = true
      · simpa [answers, he, hseen', hanswer hseen'] using hrest
      · simpa [answers, he, hseen'] using hrest

end EmbodiedAgent.Library.Cells
