import Mathlib.Algebra.Order.BigOperators.Ring.Finset
import Mathlib.Data.Nat.Periodic
import Mathlib.Tactic.Linarith

/-! Functions on the rows of a ring of `n` sectors, as functions of period `n`. -/

namespace EmbodiedAgent.Library.Cyclic

open Finset

section Sums

variable {M : Type*} [AddCommGroup M] {n : ℕ} {F : ℕ → M}

theorem sum_shift_one (h : Function.Periodic F n) :
    ∑ a ∈ range n, F (a + 1) = ∑ a ∈ range n, F a := by
  have hends : F n = F 0 := by simpa using h 0
  have hfirst := sum_range_succ' F n
  rw [sum_range_succ, hends] at hfirst
  exact (add_right_cancel hfirst).symm

theorem sum_shift (h : Function.Periodic F n) (k : ℕ) :
    ∑ a ∈ range n, F (a + k) = ∑ a ∈ range n, F a := by
  induction k with
  | zero => rfl
  | succ k ih =>
    have hshifted : Function.Periodic (fun a ↦ F (a + k)) n := by
      intro a
      dsimp only
      rw [add_right_comm, h]
    rw [← ih, ← sum_shift_one hshifted]
    refine sum_congr rfl ?_
    intro a _
    rw [add_right_comm, add_assoc]

end Sums

section Rows

variable {M α : Type*} [AddCommMonoid M]

theorem sum_list (l : List α) (z : α) (F : α → M) :
    (l.map F).sum = ∑ i ∈ range l.length, F (l.getD i z) := by
  induction l with
  | nil => rfl
  | cons a l ih =>
    rw [List.map_cons, List.sum_cons, List.length_cons, sum_range_succ', ih, add_comm]
    rfl

theorem sum_rows_range (m n : ℕ) (F : ℕ → M) :
    ∑ i ∈ range (m * n), F i = ∑ r ∈ range m, ∑ a ∈ range n, F (r * n + a) := by
  induction m with
  | zero => simp
  | succ m ih => rw [Nat.succ_mul, sum_range_add, ih, sum_range_succ]

theorem sum_rows {m n : ℕ} {l : List α} (h : l.length = m * n) (z : α) (F : α → M) :
    (l.map F).sum = ∑ r ∈ range m, ∑ a ∈ range n, F (l.getD (r * n + a) z) := by
  rw [sum_list l z, h, sum_rows_range]

end Rows

section Correlation

variable {K : Type*} [Field K] {m n : ℕ} {f g : ℕ → ℕ → K}

/-- How well `f` fits to `g` when `g` is turned back by so many sectors. -/
def correlate (m n : ℕ) (f g : ℕ → ℕ → K) (shift : ℕ) : K :=
  ∑ r ∈ range m, ∑ a ∈ range n, f r a * g r (a + shift)

def energy (m n : ℕ) (f : ℕ → ℕ → K) : K := ∑ r ∈ range m, ∑ a ∈ range n, f r a * f r a

/-- `f` turned by the sectors that are missing to a full turn after `shift`. -/
def shifted (f : ℕ → ℕ → K) (shift : ℕ) : ℕ → ℕ → K := fun r a ↦ f r (a + shift)

omit [Field K] in
theorem shifted_periodic (hf : ∀ r, Function.Periodic (f r) n) (shift : ℕ) (r : ℕ) :
    Function.Periodic (shifted f shift r) n := by
  intro a
  rw [shifted, shifted, add_right_comm, hf]

theorem energy_shifted (hf : ∀ r, Function.Periodic (f r) n) (shift : ℕ) :
    energy m n (shifted f shift) = energy m n f := by
  refine sum_congr rfl ?_
  intro r _
  refine sum_shift (F := fun a ↦ f r a * f r a) ?_ shift
  intro a
  dsimp only
  rw [hf]

theorem correlate_periodic (hg : ∀ r, Function.Periodic (g r) n) :
    Function.Periodic (correlate m n f g) n := by
  intro shift
  refine sum_congr rfl fun r _ ↦ sum_congr rfl fun a _ ↦ ?_
  rw [← add_assoc, hg]

theorem correlate_shifted_right (f g : ℕ → ℕ → K) (j shift : ℕ) :
    correlate m n f (shifted g j) shift = correlate m n f g (shift + j) := by
  refine sum_congr rfl fun r _ ↦ sum_congr rfl fun a _ ↦ ?_
  rw [shifted, add_assoc]

theorem correlate_shifted (hf : ∀ r, Function.Periodic (f r) n)
    (hg : ∀ r, Function.Periodic (g r) n) (j shift : ℕ) :
    correlate m n (shifted f j) (shifted g j) shift = correlate m n f g shift := by
  refine sum_congr rfl ?_
  intro r _
  rw [← sum_shift (F := fun a ↦ f r a * g r (a + shift)) ?_ j]
  · refine sum_congr rfl fun a _ ↦ ?_
    rw [shifted, shifted, add_right_comm]
  · intro a
    dsimp only
    rw [hf, add_right_comm, hg]

omit [Field K] in
theorem shifted_turn (hf : ∀ r, Function.Periodic (f r) n) {j k : ℕ} (h : n ∣ k + j) :
    shifted (shifted f j) k = f := by
  obtain ⟨t, ht⟩ := h
  funext r a
  rw [shifted, shifted, add_assoc, ht, mul_comm]
  exact (hf r).nat_mul t a

theorem correlate_shifted_left (hf : ∀ r, Function.Periodic (f r) n)
    (hg : ∀ r, Function.Periodic (g r) n) {j k : ℕ} (h : n ∣ k + j) (shift : ℕ) :
    correlate m n (shifted f j) g shift = correlate m n f g (shift + k) := by
  rw [← correlate_shifted (shifted_periodic hf j) hg k, shifted_turn hf h,
    correlate_shifted_right]

theorem correlate_comm (hf : ∀ r, Function.Periodic (f r) n)
    (hg : ∀ r, Function.Periodic (g r) n) {shift back : ℕ} (h : n ∣ shift + back) :
    correlate m n f g shift = correlate m n g f back := by
  have hmoved : correlate m n g f back = correlate m n g (shifted f back) 0 := by
    rw [correlate_shifted_right, zero_add]
  have hswap : correlate m n g (shifted f back) 0 = correlate m n (shifted f back) g 0 := by
    refine sum_congr rfl fun r _ ↦ sum_congr rfl fun a _ ↦ ?_
    rw [add_zero, mul_comm]
  rw [hmoved, hswap, correlate_shifted_left hf hg h, zero_add]

theorem correlate_eq_mod (hg : ∀ r, Function.Periodic (g r) n) (shift : ℕ) :
    correlate m n f g (shift % n) = correlate m n f g shift :=
  Function.Periodic.map_mod_nat (correlate_periodic hg) shift

variable [LinearOrder K] [IsStrictOrderedRing K]

theorem correlate_sq_le (hg : ∀ r, Function.Periodic (g r) n) (shift : ℕ) :
    correlate m n f g shift ^ 2 ≤ energy m n f * energy m n g := by
  rw [← energy_shifted hg shift, correlate, energy, energy, ← sum_product', ← sum_product',
    ← sum_product']
  simp only [← sq]
  exact sum_mul_sq_le_sq_mul_sq _ _ _

theorem eq_of_correlate (hg : ∀ r, Function.Periodic (g r) n) {shift : ℕ}
    (henergy : energy m n g = energy m n f) (h : correlate m n f g shift = energy m n f)
    {r a : ℕ} (hr : r < m) (ha : a < n) : f r a = g r (a + shift) := by
  have hnonneg : ∀ p ∈ range m ×ˢ range n, 0 ≤ (f p.1 p.2 - shifted g shift p.1 p.2) ^ 2 :=
    fun p _ ↦ sq_nonneg _
  have hzero : ∑ p ∈ range m ×ˢ range n, (f p.1 p.2 - shifted g shift p.1 p.2) ^ 2 = 0 := by
    have hexpand : ∑ p ∈ range m ×ˢ range n, (f p.1 p.2 - shifted g shift p.1 p.2) ^ 2 =
        energy m n f - 2 * correlate m n f g shift + energy m n (shifted g shift) := by
      rw [energy, correlate, energy, ← sum_product', ← sum_product', ← sum_product', mul_sum,
        ← sum_sub_distrib, ← sum_add_distrib]
      refine sum_congr rfl ?_
      intro p _
      rw [shifted]
      ring
    rw [hexpand, energy_shifted hg, henergy, h]
    ring
  have hpoint := (sum_eq_zero_iff_of_nonneg hnonneg).mp hzero (r, a)
    (mem_product.mpr ⟨mem_range.mpr hr, mem_range.mpr ha⟩)
  exact sub_eq_zero.mp (pow_eq_zero_iff two_ne_zero |>.mp hpoint)

end Correlation

variable {ι β : Type*} [LinearOrder β] (score : ι → β)

def raise (best : β × ι) (i : ι) : β × ι := if best.1 < score i then (score i, i) else best

variable {l : List ι} {start : β × ι}

theorem raise_spec (best : β × ι) (i : ι) : best.1 ≤ (raise score best i).1 ∧
    score i ≤ (raise score best i).1 ∧
    (raise score best i = best ∨ raise score best i = (score i, i)) := by
  rw [raise]
  split_ifs with h
  · exact ⟨h.le, le_rfl, .inr rfl⟩
  · exact ⟨le_rfl, not_lt.mp h, .inl rfl⟩

theorem foldl_raise (l : List ι) (start : β × ι) : start.1 ≤ (l.foldl (raise score) start).1 ∧
    (∀ i ∈ l, score i ≤ (l.foldl (raise score) start).1) ∧ (l.foldl (raise score) start = start ∨
      ∃ i ∈ l, l.foldl (raise score) start = (score i, i)) := by
  induction l generalizing start with
  | nil => exact ⟨le_rfl, fun i hi ↦ (List.not_mem_nil hi).elim, .inl rfl⟩
  | cons j l ih =>
    obtain ⟨hstart, hscore, hvalue⟩ := raise_spec score start j
    obtain ⟨hlow, hall, hfinal⟩ := ih (raise score start j)
    rw [List.foldl_cons]
    refine ⟨hstart.trans hlow, ?_, ?_⟩
    · intro i hi
      rcases List.mem_cons.mp hi with rfl | hi
      · exact hscore.trans hlow
      · exact hall i hi
    · rcases hfinal with hsame | ⟨i, hi, heq⟩
      · rcases hvalue with hkept | hraised
        · exact .inl (hsame.trans hkept)
        · exact .inr ⟨j, .head _, hsame.trans hraised⟩
      · exact .inr ⟨i, .tail _ hi, heq⟩

variable {score} in
theorem foldl_raise_congr {score' : ι → β} {l' : List ι} {b : β} {i₀ : ι}
    (h : ∀ i ∈ l, ∃ j ∈ l', score i = score' j) (h' : ∀ j ∈ l', ∃ i ∈ l, score' j = score i) :
    (l.foldl (raise score) (b, i₀)).1 = (l'.foldl (raise score') (b, i₀)).1 := by
  obtain ⟨hlow, hall, hvalue⟩ := foldl_raise score l (b, i₀)
  obtain ⟨hlow', hall', hvalue'⟩ := foldl_raise score' l' (b, i₀)
  refine le_antisymm ?_ ?_
  · rcases hvalue with heq | ⟨i, hi, heq⟩
    · rw [heq]
      exact hlow'
    · obtain ⟨j, hj, hscore⟩ := h i hi
      rw [heq, hscore]
      exact hall' j hj
  · rcases hvalue' with heq | ⟨j, hj, heq⟩
    · rw [heq]
      exact hlow
    · obtain ⟨i, hi, hscore⟩ := h' j hj
      rw [heq, hscore]
      exact hall i hi

end EmbodiedAgent.Library.Cyclic
