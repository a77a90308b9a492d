import Mathlib.Data.Finset.Card
import Mathlib.Data.List.DropRight

namespace EmbodiedAgent.Library

/-- A map that keeps the entries recorded last, at most `bound` of them, the oldest first. -/
structure RecencyMap (κ α : Type*) [DecidableEq κ] (bound : ℕ) where
  entries : List (κ × α)
  nodup : (entries.map Prod.fst).Nodup
  bounded : entries.length ≤ bound

namespace RecencyMap

variable {κ α : Type*} [DecidableEq κ] {bound : ℕ}

def empty : RecencyMap κ α bound := ⟨[], .nil, Nat.zero_le _⟩

def find (m : RecencyMap κ α bound) (k : κ) : Option α := m.entries.lookup k

def others (k : κ) (l : List (κ × α)) : List (κ × α) := l.filter fun e ↦ e.1 ≠ k

variable {k k' : κ} {v v' : α} {l : List (κ × α)} {m : RecencyMap κ α bound}

theorem others_nodup (hl : (l.map Prod.fst).Nodup) : ((others k l).map Prod.fst).Nodup :=
  hl.sublist (List.filter_sublist.map _)

theorem key_notMem_others (k : κ) (l : List (κ × α)) : k ∉ (others k l).map Prod.fst := by
  simp [others]

theorem concat_nodup (hl : (l.map Prod.fst).Nodup) :
    ((others k l ++ [(k, v)]).map Prod.fst).Nodup := by
  rw [List.map_append]
  refine (others_nodup hl).append (List.nodup_singleton k) fun x hx hy ↦ ?_
  obtain rfl : x = k := List.mem_singleton.mp hy
  exact key_notMem_others x l hx

def record (m : RecencyMap κ α bound) (k : κ) (v : α) : RecencyMap κ α bound where
  entries := (others k m.entries ++ [(k, v)]).rtake bound
  nodup := (concat_nodup m.nodup).sublist ((List.drop_sublist _ _).map _)
  bounded := by
    rw [List.rtake, List.length_drop]
    omega

def pop (m : RecencyMap κ α bound) (k : κ) : RecencyMap κ α bound :=
  ⟨others k m.entries, others_nodup m.nodup, (List.length_filter_le _ _).trans m.bounded⟩

theorem mem_of_find (h : m.find k = some v) : (k, v) ∈ m.entries := by
  obtain ⟨pre, post, heq, -⟩ := List.lookup_eq_some_iff.mp h
  rw [heq]
  simp

theorem mem_record {e : κ × α} (h : e ∈ (m.record k v).entries) : e ∈ m.entries ∨ e = (k, v) := by
  rcases List.mem_append.mp (List.mem_of_mem_drop h) with hold | hnew
  · exact .inl (List.mem_of_mem_filter hold)
  · exact .inr (List.mem_singleton.mp hnew)

theorem mem_pop {e : κ × α} (h : e ∈ (m.pop k).entries) : e ∈ m.entries :=
  List.mem_of_mem_filter h

/-- `v` was recorded for `k`, and since then exactly the keys `newer`. -/
def Recent (m : RecencyMap κ α bound) (k : κ) (v : α) (newer : Finset κ) : Prop :=
  if newer.card < bound then
    ∃ older later, m.entries = older ++ (k, v) :: later ∧ (later.map Prod.fst).toFinset = newer
  else k ∉ m.entries.map Prod.fst

theorem rtake_append_of_le (l l' : List α) {n : ℕ} (h : l'.length ≤ n) :
    ∃ l₀, (l ++ l').rtake n = l₀ ++ l' := by
  refine ⟨l.drop (l.length + l'.length - n), ?_⟩
  rw [List.rtake, List.length_append, List.drop_append_of_le_length (by omega)]

theorem rtake_append_of_ge {l l' : List α} {n : ℕ} (h : n ≤ l'.length) :
    (l ++ l').rtake n = l'.rtake n := by
  rw [List.rtake, List.rtake, List.length_append, List.drop_append,
    List.drop_eq_nil_of_le (by omega), List.nil_append]
  congr 1
  omega

theorem recent_record (m : RecencyMap κ α bound) (k : κ) (v : α) (hbound : 0 < bound) :
    (m.record k v).Recent k v ∅ := by
  rw [Recent, if_pos (by simpa using hbound)]
  obtain ⟨older, hrecord⟩ := rtake_append_of_le (others k m.entries) [(k, v)] hbound
  exact ⟨older, [], hrecord, rfl⟩

theorem later_keys (k' : κ) (v' : α) (later : List (κ × α)) :
    ((others k' later ++ [(k', v')]).map Prod.fst).toFinset =
      insert k' (later.map Prod.fst).toFinset := by
  ext x
  by_cases hx : x = k' <;> simp [others, hx]

theorem Recent.record {newer : Finset κ} (h : m.Recent k v newer) (hne : k' ≠ k) (v' : α) :
    (m.record k' v').Recent k v (insert k' newer) := by
  rw [Recent] at h ⊢
  split_ifs at h with hcard
  · obtain ⟨older, later, hentries, rfl⟩ := h
    have hnodup := m.nodup
    rw [hentries, List.map_append, List.map_cons, List.nodup_append] at hnodup
    obtain ⟨hnotMem, hlater⟩ := List.nodup_cons.mp hnodup.2.1
    have hkept : others k' m.entries ++ [(k', v')] =
        others k' older ++ (k, v) :: (others k' later ++ [(k', v')]) := by
      simp [hentries, others, hne.symm]
    have hlength : (insert k' (later.map Prod.fst).toFinset).card =
        (others k' later ++ [(k', v')]).length := by
      rw [← later_keys k' v' later, List.toFinset_card_of_nodup (concat_nodup hlater),
        List.length_map]
    split_ifs with hcard'
    · obtain ⟨older', hrecord⟩ := rtake_append_of_le (others k' older)
        ((k, v) :: (others k' later ++ [(k', v')])) (Nat.succ_le_of_lt (hlength ▸ hcard'))
      exact ⟨older', _, (congrArg (List.rtake · bound) hkept).trans hrecord, later_keys k' v' later⟩
    · have hrecord : (m.record k' v').entries = (others k' later ++ [(k', v')]).rtake bound := by
        refine (congrArg (List.rtake · bound) hkept).trans ?_
        rw [List.append_cons]
        exact rtake_append_of_ge (hlength ▸ Nat.le_of_not_lt hcard')
      intro hmem
      rw [hrecord] at hmem
      have hmem' : k ∈ ((others k' later ++ [(k', v')]).map Prod.fst).toFinset :=
        List.mem_toFinset.mpr (((List.drop_sublist _ _).map _).mem hmem)
      rw [later_keys, Finset.mem_insert, List.mem_toFinset] at hmem'
      exact hmem'.elim (fun heq ↦ hne heq.symm) hnotMem
  · have hcard' : ¬ (insert k' newer).card < bound := fun hlt ↦
      hcard ((Finset.card_le_card (Finset.subset_insert k' newer)).trans_lt hlt)
    rw [if_neg hcard']
    intro hmem
    obtain ⟨e, he, rfl⟩ := List.mem_map.mp hmem
    rcases mem_record he with hold | rfl
    · exact h (List.mem_map_of_mem hold)
    · exact hne rfl

theorem Recent.find {newer : Finset κ} (h : m.Recent k v newer) :
    m.find k = if newer.card < bound then some v else none := by
  rw [Recent] at h
  rw [RecencyMap.find]
  split_ifs at h ⊢ with hcard
  · obtain ⟨older, later, hentries, -⟩ := h
    have hnodup := m.nodup
    rw [hentries, List.map_append, List.map_cons, List.nodup_append] at hnodup
    refine List.lookup_eq_some_iff.mpr ⟨older, later, hentries, fun e he ↦ ?_⟩
    have hne : e.1 ≠ k := hnodup.2.2 e.1 (List.mem_map_of_mem he) k (List.mem_cons_self ..)
    simpa using hne.symm
  · refine List.lookup_eq_none_iff.mpr fun e he ↦ ?_
    have hne : e.1 ≠ k := fun heq ↦ h (heq ▸ List.mem_map_of_mem he)
    simpa using hne.symm

end RecencyMap

end EmbodiedAgent.Library
