import EmbodiedAgent.Library.TimeSeries

/-! The best of a list in one order, sought among the first in another. -/

namespace EmbodiedAgent.Library.Preselection

open TimeSeries

variable {α β κ ι : Type*} [LinearOrder κ] [LinearOrder ι] {key : α → κ} {coarse : α → κ}
  {final : α → ι} {l l' : List α} {a : α} {k n : ℕ}

/-- How many come before `a`. -/
def ahead (key : α → κ) (l : List α) (a : α) : ℕ := l.countP fun b ↦ key b < key a

def best (key : α → κ) (k : ℕ) (l : List α) : List α := (sortedBy key l).take k

/-- `std::sort` with a comparator. -/
def sortWith (before : α → α → Prop) [DecidableRel before] (l : List α) : List α :=
  l.insertionSort fun a b ↦ ¬ before b a

theorem sortWith_eq {before : α → α → Prop} [DecidableRel before]
    (h : ∀ a b, before a b ↔ key a < key b) (l : List α) : sortWith before l = sortedBy key l := by
  have hrel : (fun a b ↦ ¬ before b a) = fun a b ↦ key a ≤ key b := by
    funext a b
    exact propext ((not_congr (h b a)).trans not_lt)
  rw [sortWith, sortedBy]
  congr!

theorem ahead_perm (h : l.Perm l') (a : α) : ahead key l a = ahead key l' a := h.countP_eq _

theorem ahead_lt_length (ha : a ∈ l) : ahead key l a < l.length := by
  refine lt_of_le_of_ne List.countP_le_length fun heq ↦ ?_
  exact absurd (List.countP_eq_length.mp heq a ha) (by simp)

theorem sortedBy_map (f : β → α) (l : List β) :
    sortedBy key (l.map f) = (sortedBy (key ∘ f) l).map f :=
  (List.map_insertionSort (r := fun a b ↦ (key ∘ f) a ≤ (key ∘ f) b)
    (s := fun a b ↦ key a ≤ key b) f l (fun _ _ _ _ ↦ Iff.rfl)).symm

theorem mem_take_iff_of_increasing (h : l.Pairwise fun a b ↦ key a < key b) :
    a ∈ l.take k ↔ a ∈ l ∧ ahead key l a < k := by
  induction l generalizing k with
  | nil => simp
  | cons b l ih =>
    obtain ⟨hfirst, hrest⟩ := List.pairwise_cons.mp h
    cases k with
    | zero => simp
    | succ k =>
      rw [List.take_succ_cons, List.mem_cons, List.mem_cons, ih hrest, ahead, ahead,
        List.countP_cons]
      constructor
      · rintro (rfl | ⟨hmem, hlt⟩)
        · have hnone : l.countP (fun c ↦ key c < key a) = 0 := by
            refine List.countP_eq_zero.mpr fun c hc ↦ ?_
            simpa using (hfirst c hc).le
          exact ⟨.inl rfl, by simp [hnone]⟩
        · refine ⟨.inr hmem, ?_⟩
          split_ifs <;> omega
      · rintro ⟨rfl | hmem, hlt⟩
        · exact .inl rfl
        · rw [if_pos (by simpa using hfirst a hmem)] at hlt
          exact .inr ⟨hmem, by omega⟩

theorem mem_best_iff (hnodup : (l.map key).Nodup) :
    a ∈ best key k l ↔ a ∈ l ∧ ahead key l a < k := by
  rw [best, mem_take_iff_of_increasing (sortedBy_increasing hnodup), (sortedBy_perm l).mem_iff,
    ahead_perm (sortedBy_perm l)]

theorem lt_of_ahead_lt {b : α} (hb : ahead key l b < n) (ha : n ≤ ahead key l a) :
    key b < key a := by
  by_contra hle
  have hmono : ahead key l a ≤ ahead key l b := List.countP_mono_left fun c _ hc ↦ by
    rw [decide_eq_true_iff] at hc ⊢
    exact hc.trans_le (not_lt.mp hle)
  omega

theorem le_countP_ahead_lt (hnodup : (l.map key).Nodup) (ha : a ∈ l) (hcut : n ≤ ahead key l a) :
    n ≤ l.countP fun b ↦ ahead key l b < n := by
  have hlength : (best key n l).length = n := by
    rw [best, List.length_take, (sortedBy_perm l).length_eq]
    exact min_eq_left (hcut.trans (ahead_lt_length ha).le)
  have hbest : (best key n l).Nodup :=
    ((sortedBy_perm l).nodup_iff.mpr (.of_map key hnodup)).sublist (List.take_sublist _ _)
  rw [List.countP_eq_length_filter, ← hlength]
  refine (List.subperm_of_subset hbest fun b hb ↦ ?_).length_le
  rw [hlength]
  exact List.mem_filter.mpr (by simpa using (mem_best_iff hnodup).mp hb)

theorem sortedBy_filter (hnodup : (l.map final).Nodup) (p : α → Prop) [DecidablePred p] :
    sortedBy final (l.filter p) = (sortedBy final l).filter p := by
  have hperm : (sortedBy final (l.filter p)).Perm ((sortedBy final l).filter p) :=
    (sortedBy_perm _).trans ((sortedBy_perm l).symm.filter _)
  refine hperm.eq_of_pairwise ?_ (sortedBy_pairwise _)
    ((sortedBy_pairwise l).sublist List.filter_sublist)
  intro a b ha hb hab hba
  have ha' := (sortedBy_perm _).mem_iff.mp ha
  have hb' := List.mem_of_mem_filter hb
  exact List.inj_on_of_nodup_map hnodup (List.mem_of_mem_filter ha')
    ((sortedBy_perm l).mem_iff.mp hb') (le_antisymm hab hba)

theorem take_filter_of_forall (p : α → Prop) [DecidablePred p] (h : ∀ a ∈ l.take k, p a) :
    (l.filter p).take k = l.take k := by
  have hkept : (l.take k).filter p = l.take k := List.filter_eq_self.mpr (by simpa using h)
  have hsplit : l.filter p = l.take k ++ (l.drop k).filter p := by
    rw [← hkept, ← List.filter_append, List.take_append_drop]
  rcases Nat.le_total k l.length with hle | hle
  · rw [hsplit, List.take_left' (List.length_take_of_le hle)]
  · rw [hsplit, List.drop_of_length_le hle, List.filter_nil, List.append_nil, List.take_take,
      min_self]

theorem best_preselected_iff (hcoarse : (l.map coarse).Nodup) (hfinal : (l.map final).Nodup) :
    best final k (best coarse n l) = best final k l ↔
      ∀ a ∈ l, n ≤ ahead coarse l a → k ≤ ahead final l a := by
  classical
  constructor
  · intro heq a ha hcut
    by_contra hbest
    have hmem : a ∈ best final k l := (mem_best_iff hfinal).mpr ⟨ha, not_le.mp hbest⟩
    rw [← heq] at hmem
    have hkept : a ∈ best coarse n l := (sortedBy_perm _).mem_iff.mp (List.mem_of_mem_take hmem)
    exact absurd ((mem_best_iff hcoarse).mp hkept).2 (not_lt.mpr hcut)
  · intro h
    have hnodup : l.Nodup := .of_map coarse hcoarse
    have hkept : (best coarse n l).Perm (l.filter fun a ↦ a ∈ best coarse n l) := by
      refine (List.perm_ext_iff_of_nodup ?_ (hnodup.filter _)).mpr fun a ↦ ?_
      · exact ((sortedBy_perm l).nodup_iff.mpr hnodup).sublist (List.take_sublist _ _)
      · rw [List.mem_filter, decide_eq_true_iff]
        exact ⟨fun ha ↦ ⟨((mem_best_iff hcoarse).mp ha).1, ha⟩, fun ha ↦ ha.2⟩
    have hsorted : sortedBy final (best coarse n l) =
        (sortedBy final l).filter fun a ↦ a ∈ best coarse n l := by
      rw [← sortedBy_filter hfinal]
      refine sortedBy_congr ?_ hkept
      exact (hkept.map final).nodup_iff.mpr (hfinal.sublist (List.filter_sublist.map final))
    rw [best, hsorted, best]
    refine take_filter_of_forall _ fun a ha ↦ ?_
    obtain ⟨hmem, hlt⟩ := (mem_best_iff hfinal).mp ha
    refine (mem_best_iff hcoarse).mpr ⟨hmem, ?_⟩
    by_contra hcut
    exact absurd hlt (not_lt.mpr (h a hmem (not_lt.mp hcut)))

end EmbodiedAgent.Library.Preselection
