import Mathlib

namespace EmbodiedAgent.Library.Assignment

variable {ι κ : Type*}

section Potentials

variable {K : Type*} [AddCommGroup K] [LinearOrder K] [IsOrderedAddMonoid K] {rows : Finset ι}
  {columns : Finset κ} {cost : ι → κ → K} {u : ι → K} {v : κ → K} {σ τ : ι → κ}

structure Assigns (rows : Finset ι) (columns : Finset κ) (σ : ι → κ) : Prop where
  mem : ∀ i ∈ rows, σ i ∈ columns
  inj : Set.InjOn σ rows

structure Feasible (rows : Finset ι) (columns : Finset κ) (cost : ι → κ → K) (u : ι → K)
    (v : κ → K) : Prop where
  le : ∀ i ∈ rows, ∀ j ∈ columns, u i + v j ≤ cost i j
  nonpos : ∀ j ∈ columns, v j ≤ 0

omit [LinearOrder K] [IsOrderedAddMonoid K] in
theorem Assigns.sum_eq (h : Assigns rows columns σ)
    (hfree : ∀ j ∈ columns, (∀ i ∈ rows, σ i ≠ j) → v j = 0) :
    ∑ i ∈ rows, v (σ i) = ∑ j ∈ columns, v j := by
  classical
  have himage : rows.image σ ⊆ columns := Finset.image_subset_iff.mpr h.mem
  rw [← Finset.sum_image h.inj]
  refine Finset.sum_subset himage fun j hj hfreed ↦ hfree j hj fun i hi heq ↦ ?_
  exact hfreed (heq ▸ Finset.mem_image_of_mem σ hi)

theorem Assigns.sum_le (h : Assigns rows columns σ) (hnonpos : ∀ j ∈ columns, v j ≤ 0) :
    ∑ j ∈ columns, v j ≤ ∑ i ∈ rows, v (σ i) := by
  classical
  have himage : rows.image σ ⊆ columns := Finset.image_subset_iff.mpr h.mem
  rw [← Finset.sum_image h.inj, ← Finset.sum_sdiff himage]
  have hrest : ∑ j ∈ columns \ rows.image σ, v j ≤ 0 :=
    Finset.sum_nonpos fun j hj ↦ hnonpos j (Finset.mem_sdiff.mp hj).1
  exact add_le_of_nonpos_left hrest

/-- Where the potentials pay in full, no assignment costs less. -/
theorem Feasible.minimal (h : Feasible rows columns cost u v) (hσ : Assigns rows columns σ)
    (htight : ∀ i ∈ rows, cost i (σ i) = u i + v (σ i))
    (hfree : ∀ j ∈ columns, (∀ i ∈ rows, σ i ≠ j) → v j = 0) (hτ : Assigns rows columns τ) :
    ∑ i ∈ rows, cost i (σ i) ≤ ∑ i ∈ rows, cost i (τ i) := calc
  ∑ i ∈ rows, cost i (σ i) = ∑ i ∈ rows, u i + ∑ i ∈ rows, v (σ i) := by
    rw [Finset.sum_congr rfl htight, Finset.sum_add_distrib]
  _ = ∑ i ∈ rows, u i + ∑ j ∈ columns, v j := by rw [hσ.sum_eq hfree]
  _ ≤ ∑ i ∈ rows, u i + ∑ i ∈ rows, v (τ i) := by
    gcongr
    exact hτ.sum_le h.nonpos
  _ ≤ ∑ i ∈ rows, cost i (τ i) := by
    rw [← Finset.sum_add_distrib]
    exact Finset.sum_le_sum fun i hi ↦ h.le i hi _ (hτ.mem i hi)

end Potentials

variable {columns : Set κ} {rows : Set ι} {free : ι} {good : ι → κ → Prop} {root : κ}
  {m : κ → ι} {hole next : κ} {previous : κ → κ}

/-- A matching of the rows with the columns other than the hole, good but for the root. -/
structure Matched (columns : Set κ) (rows : Set ι) (free : ι) (good : ι → κ → Prop) (root : κ)
    (m : κ → ι) (hole : κ) : Prop where
  inj : ∀ j ∈ columns, ∀ j' ∈ columns, j ≠ hole → j' ≠ hole → m j ≠ free → m j = m j' → j = j'
  onto : ∀ i ∈ rows, ∃ j ∈ columns, j ≠ hole ∧ m j = i
  mem : ∀ j ∈ columns, j ≠ hole → m j ≠ free → m j ∈ rows
  good : ∀ j ∈ columns, j ≠ hole → j ≠ root → m j ≠ free → good (m j) j

theorem Matched.shift [DecidableEq κ] (h : Matched columns rows free good root m hole)
    (hhole : hole ∈ columns) (hnext : next ∈ columns) (hne : next ≠ hole)
    (hgood : good (m next) hole) :
    Matched columns rows free good root (Function.update m hole (m next)) next := by
  refine ⟨fun j hj j' hj' hjn hj'n hfree heq ↦ ?_, fun i hi ↦ ?_, fun j hj hjn hfree ↦ ?_,
    fun j hj hjn hroot hfree ↦ ?_⟩
  · by_cases hjh : j = hole
    · by_cases hj'h : j' = hole
      · rw [hjh, hj'h]
      · rw [hjh, Function.update_self] at hfree heq
        rw [Function.update_of_ne hj'h] at heq
        exact absurd (h.inj next hnext j' hj' hne hj'h hfree heq).symm hj'n
    · rw [Function.update_of_ne hjh] at hfree heq
      by_cases hj'h : j' = hole
      · rw [hj'h, Function.update_self] at heq
        exact absurd (h.inj j hj next hnext hjh hne hfree heq) hjn
      · rw [Function.update_of_ne hj'h] at heq
        exact h.inj j hj j' hj' hjh hj'h hfree heq
  · obtain ⟨j, hj, hjh, hji⟩ := h.onto i hi
    by_cases hjn : j = next
    · exact ⟨hole, hhole, hne.symm, by rw [Function.update_self, ← hjn, hji]⟩
    · exact ⟨j, hj, hjn, by rw [Function.update_of_ne hjh, hji]⟩
  · by_cases hjh : j = hole
    · rw [hjh, Function.update_self] at hfree ⊢
      exact h.mem next hnext hne hfree
    · rw [Function.update_of_ne hjh] at hfree ⊢
      exact h.mem j hj hjh hfree
  · by_cases hjh : j = hole
    · rw [hjh, Function.update_self]
      exact hgood
    · rw [Function.update_of_ne hjh] at hfree ⊢
      exact h.good j hj hjh hroot hfree

def Rooted (previous : κ → κ) (root : κ) : List κ → Prop
  | [] => False
  | j :: rest =>
    (j = root ∧ rest = []) ∨ (j ≠ root ∧ j ∉ rest ∧ previous j ∈ rest ∧ Rooted previous root rest)

namespace Rooted

variable {nodes : List κ} {previous' : κ → κ} {j : κ}

theorem root_mem (h : Rooted previous root nodes) : root ∈ nodes := by
  induction nodes with
  | nil => exact h.elim
  | cons j rest ih =>
    rcases h with ⟨hj, -⟩ | ⟨-, -, -, hrest⟩
    · exact hj ▸ List.mem_cons_self
    · exact List.mem_cons_of_mem j (ih hrest)

theorem nodup (h : Rooted previous root nodes) : nodes.Nodup := by
  induction nodes with
  | nil => exact List.nodup_nil
  | cons j rest ih =>
    rcases h with ⟨-, hrest⟩ | ⟨-, hj, -, hrest⟩
    · rw [hrest]
      exact List.nodup_singleton j
    · exact List.nodup_cons.mpr ⟨hj, ih hrest⟩

theorem congr (h : Rooted previous root nodes) (hsame : ∀ j ∈ nodes, previous' j = previous j) :
    Rooted previous' root nodes := by
  induction nodes with
  | nil => exact h.elim
  | cons j rest ih =>
    rcases h with ⟨hj, hrest⟩ | ⟨hroot, hj, hprevious, hrest⟩
    · exact .inl ⟨hj, hrest⟩
    · refine .inr ⟨hroot, hj, (hsame j List.mem_cons_self).symm ▸ hprevious,
        ih hrest fun j hj ↦ ?_⟩
      exact hsame j (List.mem_cons_of_mem _ hj)

theorem previous_mem (h : Rooted previous root nodes) (hj : j ∈ nodes) (hroot : j ≠ root) :
    previous j ∈ nodes := by
  induction nodes with
  | nil => exact h.elim
  | cons i rest ih =>
    rcases h with ⟨hi, hrest⟩ | ⟨-, -, hprevious, hrest⟩
    · rw [hrest, List.mem_singleton] at hj
      exact absurd (hj.trans hi) hroot
    · rcases List.mem_cons.mp hj with rfl | hmem
      · exact List.mem_cons_of_mem j hprevious
      · exact List.mem_cons_of_mem i (ih hrest hmem)

theorem cons (h : Rooted previous root nodes) (hj : j ∉ nodes) (hprevious : previous j ∈ nodes) :
    Rooted previous root (j :: nodes) :=
  Or.inr ⟨fun heq ↦ hj (heq ▸ h.root_mem), hj, hprevious, h⟩

end Rooted

end EmbodiedAgent.Library.Assignment
