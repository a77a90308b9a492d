import Mathlib.Data.List.Sort

/-! Samples in the order of their times. -/

namespace EmbodiedAgent.Library.TimeSeries

section Sorting

variable {α K : Type*} [LinearOrder K] {time : α → K} {l l' : List α}

/-- Python's `sorted(l, key=time)`. -/
def sortedBy (time : α → K) (l : List α) : List α := l.insertionSort fun a b ↦ time a ≤ time b

theorem sortedBy_perm (l : List α) : (sortedBy time l).Perm l := List.perm_insertionSort _ l

theorem sortedBy_pairwise (l : List α) : (sortedBy time l).Pairwise fun a b ↦ time a ≤ time b := by
  have htotal : Std.Total fun a b : α ↦ time a ≤ time b := ⟨fun a b ↦ le_total (time a) (time b)⟩
  have htrans : IsTrans α fun a b ↦ time a ≤ time b := ⟨fun a b c ↦ le_trans⟩
  exact List.pairwise_insertionSort _ l

theorem sortedBy_congr (hnodup : (l.map time).Nodup) (hperm : l.Perm l') :
    sortedBy time l = sortedBy time l' := by
  have hsame : (sortedBy time l).Perm (sortedBy time l') :=
    (sortedBy_perm l).trans (hperm.trans (sortedBy_perm l').symm)
  refine hsame.eq_of_pairwise ?_ (sortedBy_pairwise l) (sortedBy_pairwise l')
  intro a b ha hb hab hba
  refine List.inj_on_of_nodup_map hnodup ((sortedBy_perm l).mem_iff.mp ha) ?_ (le_antisymm hab hba)
  exact hperm.mem_iff.mpr ((sortedBy_perm l').mem_iff.mp hb)

theorem sortedBy_increasing (hnodup : (l.map time).Nodup) :
    (sortedBy time l).Pairwise fun a b ↦ time a < time b := by
  have hsorted : ((sortedBy time l).map time).Nodup :=
    ((sortedBy_perm l).map time).nodup_iff.mpr hnodup
  refine ((sortedBy_pairwise l).and (List.pairwise_map.mp hsorted)).imp ?_
  intro a b hab
  exact lt_of_le_of_ne hab.1 hab.2

end Sorting

variable {K : Type*} [LinearOrder K] {times : List K} {t : K} {i k : ℕ}

/-- `bisect_left`, for times in order. -/
def bisectLeft (times : List K) (t : K) : ℕ := (times.takeWhile fun g ↦ g < t).length

def Neighbour (times : List K) (t g : K) : Prop :=
  g ∈ times ∧ (t ∈ times → g = t) ∧ ∀ g' ∈ times, ¬(t < g' ∧ g' < g) ∧ ¬(g < g' ∧ g' < t)

theorem neighbour_congr {times' : List K} (h : ∀ g, g ∈ times ↔ g ∈ times') {g : K} :
    Neighbour times t g ↔ Neighbour times' t g := by
  simp only [Neighbour, h]

theorem bisectLeft_le : bisectLeft times t ≤ times.length :=
  List.Sublist.length_le (List.takeWhile_sublist _)

theorem lt_bisectLeft (hsorted : times.Pairwise (· < ·)) (hi : i < times.length) :
    i < bisectLeft times t ↔ times[i] < t := by
  induction times generalizing i with
  | nil => cases hi
  | cons g times ih =>
    obtain ⟨hfirst, hrest⟩ := List.pairwise_cons.mp hsorted
    rw [bisectLeft, List.takeWhile_cons]
    by_cases hg : g < t
    · rw [if_pos (by simpa using hg), List.length_cons]
      cases i with
      | zero => simpa using hg
      | succ i => simpa [bisectLeft] using ih hrest (Nat.lt_of_succ_lt_succ hi)
    · rw [if_neg (by simpa using hg)]
      have hlater : t ≤ (g :: times)[i] := by
        cases i with
        | zero => exact not_lt.mp hg
        | succ i => exact (not_lt.mp hg).trans (hfirst _ (List.getElem_mem _)).le
      simpa using hlater

theorem getElem_lt (hsorted : times.Pairwise (· < ·)) (hi : i < times.length)
    (hk : k < times.length) : times[i] < times[k] ↔ i < k := by
  constructor
  · intro h
    by_contra hle
    rcases (not_lt.mp hle).lt_or_eq with hlt | heq
    · exact lt_asymm h (List.pairwise_iff_getElem.mp hsorted k i hk hi hlt)
    · subst heq
      exact lt_irrefl _ h
  · exact List.pairwise_iff_getElem.mp hsorted i k hi hk

theorem getElem_inj (hsorted : times.Pairwise (· < ·)) (hi : i < times.length)
    (hk : k < times.length) : times[i] = times[k] ↔ i = k := by
  refine ⟨fun h ↦ ?_, fun h ↦ by subst h; rfl⟩
  rcases lt_trichotomy i k with hlt | heq | hlt
  · exact absurd h ((getElem_lt hsorted hi hk).mpr hlt).ne
  · exact heq
  · exact absurd h ((getElem_lt hsorted hk hi).mpr hlt).ne'

theorem getElem_bisectLeft (hsorted : times.Pairwise (· < ·)) (hmem : t ∈ times) :
    ∃ h : bisectLeft times t < times.length, times[bisectLeft times t] = t := by
  obtain ⟨k, hk, heq⟩ := List.getElem_of_mem hmem
  have hge : bisectLeft times t ≤ k :=
    not_lt.mp (mt (lt_bisectLeft hsorted hk).mp heq.not_lt)
  have hlt : bisectLeft times t < times.length := lt_of_le_of_lt hge hk
  have hle : k ≤ bisectLeft times t := by
    refine not_lt.mp (mt (getElem_lt hsorted hlt hk).mpr ?_)
    rw [heq, ← lt_bisectLeft hsorted hlt]
    exact lt_irrefl _
  exact ⟨hlt, ((getElem_inj hsorted hlt hk).mpr (le_antisymm hge hle)).trans heq⟩

theorem neighbour_hit (hsorted : times.Pairwise (· < ·)) (hi : i < times.length)
    (hk : k < times.length) (hit : times[i] = t) : Neighbour times t times[k] ↔ k = i := by
  constructor
  · intro h
    have hmem : t ∈ times := hit ▸ List.getElem_mem hi
    exact (getElem_inj hsorted hk hi).mp ((h.2.1 hmem).trans hit.symm)
  · intro h
    subst h
    refine ⟨List.getElem_mem hk, fun _ ↦ hit, ?_⟩
    intro g' _
    rw [hit]
    exact ⟨fun h ↦ lt_asymm h.1 h.2, fun h ↦ lt_asymm h.1 h.2⟩

theorem neighbour_miss (hsorted : times.Pairwise (· < ·)) (hk : k < times.length)
    (hmiss : t ∉ times) :
    Neighbour times t times[k] ↔ k = bisectLeft times t ∨ k + 1 = bisectLeft times t := by
  have hbefore : ∀ j (hj : j < times.length), j < bisectLeft times t ↔ times[j] < t :=
    fun j hj ↦ lt_bisectLeft hsorted hj
  have hafter : ∀ j (hj : j < times.length), bisectLeft times t ≤ j → t < times[j] := by
    intro j hj hle
    have hnot := mt (hbefore j hj).mpr (not_lt.mpr hle)
    refine lt_of_le_of_ne (not_lt.mp hnot) ?_
    intro heq
    exact hmiss (heq ▸ List.getElem_mem hj)
  constructor
  · intro h
    rcases Nat.lt_or_ge k (bisectLeft times t) with hlt | hge
    · refine .inr ?_
      by_contra hne
      have hnext : k + 1 < times.length := lt_of_lt_of_le (by omega) (bisectLeft_le (t := t))
      refine (h.2.2 _ (List.getElem_mem hnext)).2
        ⟨(getElem_lt hsorted hk hnext).mpr (Nat.lt_succ_self k), ?_⟩
      exact (hbefore _ hnext).mp (by omega)
    · refine .inl ?_
      by_contra hne
      have hfirst : bisectLeft times t < times.length := lt_of_le_of_lt hge hk
      refine (h.2.2 _ (List.getElem_mem hfirst)).1 ⟨hafter _ hfirst le_rfl, ?_⟩
      exact (getElem_lt hsorted hfirst hk).mpr (by omega)
  · intro h
    refine ⟨List.getElem_mem hk, fun hmem ↦ absurd hmem hmiss, ?_⟩
    intro g' hg'
    obtain ⟨j, hj, rfl⟩ := List.getElem_of_mem hg'
    rw [getElem_lt hsorted hj hk, getElem_lt hsorted hk hj, ← hbefore j hj]
    refine ⟨?_, ?_⟩
    · rintro ⟨ht, hlt⟩
      have hge := mt (hbefore j hj).mp (not_lt.mpr ht.le)
      omega
    · rintro ⟨hlt, ht⟩
      omega

end EmbodiedAgent.Library.TimeSeries
