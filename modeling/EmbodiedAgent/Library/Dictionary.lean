import Mathlib.Data.List.Sort

namespace EmbodiedAgent.Library.Dictionary

variable {κ α β : Type} [DecidableEq κ]

/-- Python's `d[k] = v`: a new key goes last. -/
def setItem : List (κ × α) → κ → α → List (κ × α)
  | [], k, v => [(k, v)]
  | e :: d, k, v => if e.1 = k then (k, v) :: d else e :: setItem d k v

/-- Python's `{**d, **d'}`. -/
def merge (d d' : List (κ × α)) : List (κ × α) := d'.foldl (fun d e ↦ setItem d e.1 e.2) d

variable {d : List (κ × α)} {k k' : κ} {v : α}

theorem lookup_setItem : (setItem d k v).lookup k' = if k' = k then some v else d.lookup k' := by
  induction d with
  | nil =>
    rw [setItem, List.lookup_cons]
    split_ifs with h
    · simp [h]
    · rw [beq_false_of_ne h, List.lookup_nil]
  | cons e d ih =>
    rw [setItem]
    split_ifs with he hk hk
    · simp [hk]
    · subst he
      rw [List.lookup_cons, List.lookup_cons, beq_false_of_ne hk]
    · subst hk
      rw [List.lookup_cons, beq_false_of_ne (Ne.symm he), ih, if_pos rfl]
    · rw [List.lookup_cons, List.lookup_cons, ih, if_neg hk]

theorem setItem_ne_nil (d : List (κ × α)) (k : κ) (v : α) : setItem d k v ≠ [] := by
  cases d with
  | nil => exact List.cons_ne_nil _ _
  | cons e d =>
    rw [setItem]
    split_ifs <;> exact List.cons_ne_nil _ _

/-- The keys of a dictionary, in order. -/
def keys (d : List (κ × α)) : List κ := d.map Prod.fst

theorem setItem_new (h : k ∉ keys d) : setItem d k v = d ++ [(k, v)] := by
  induction d with
  | nil => rfl
  | cons e d ih =>
    rw [keys, List.map_cons, List.mem_cons, not_or] at h
    rw [setItem, if_neg (Ne.symm h.1), ih h.2, List.cons_append]

theorem setItem_old (h : k ∈ keys d) : keys (setItem d k v) = keys d := by
  induction d with
  | nil => cases h
  | cons e d ih =>
    rw [setItem]
    split_ifs with he
    · rw [keys, keys, List.map_cons, List.map_cons, he]
    · have htail : k ∈ keys d := (List.mem_cons.mp h).resolve_left (Ne.symm he)
      exact congrArg (e.1 :: ·) (ih htail)

theorem mem_keys_setItem : k' ∈ keys (setItem d k v) ↔ k' = k ∨ k' ∈ keys d := by
  by_cases h : k ∈ keys d
  · rw [setItem_old h]
    exact ⟨.inr, fun hor ↦ hor.elim (fun heq ↦ heq ▸ h) id⟩
  · rw [setItem_new h, keys, List.map_append, List.mem_append, or_comm]
    simp [keys]

theorem nodup_setItem (h : (keys d).Nodup) : (keys (setItem d k v)).Nodup := by
  by_cases hk : k ∈ keys d
  · rwa [setItem_old hk]
  · rw [setItem_new hk, keys, List.map_append]
    exact List.Nodup.append h (List.nodup_singleton k) (by simpa [keys] using hk)

theorem mem_setItem {e : κ × α} (h : e ∈ setItem d k v) : e = (k, v) ∨ e ∈ d := by
  induction d with
  | nil => exact .inl (List.mem_singleton.mp h)
  | cons first d ih =>
    rw [setItem] at h
    split_ifs at h
    · rcases List.mem_cons.mp h with rfl | h
      · exact .inl rfl
      · exact .inr (.tail _ h)
    · rcases List.mem_cons.mp h with rfl | h
      · exact .inr (.head _)
      · exact (ih h).imp id (.tail _)

theorem lookup_eq_none : d.lookup k = none ↔ k ∉ keys d := by
  induction d with
  | nil => simp [keys]
  | cons e d ih =>
    rw [List.lookup_cons, keys, List.map_cons, List.mem_cons, not_or]
    by_cases h : k = e.1
    · simp [h]
    · rw [beq_false_of_ne h, ih]
      exact ⟨fun hd ↦ ⟨h, hd⟩, fun hd ↦ hd.2⟩

theorem lookup_eq_some (h : (keys d).Nodup) : d.lookup k = some v ↔ (k, v) ∈ d := by
  induction d with
  | nil => simp
  | cons e d ih =>
    rw [keys, List.map_cons, List.nodup_cons] at h
    rw [List.lookup_cons, List.mem_cons]
    by_cases hk : k = e.1
    · have hnew : (k, v) ∉ d := fun hmem ↦ h.1 (hk ▸ List.mem_map_of_mem hmem)
      subst hk
      simp [hnew, Prod.ext_iff, eq_comm]
    · rw [beq_false_of_ne hk, ih h.2]
      exact ⟨.inr, fun hor ↦ hor.resolve_left fun heq ↦ hk (congrArg Prod.fst heq)⟩

theorem mem_of_lookup (h : d.lookup k = some v) : (k, v) ∈ d := by
  induction d with
  | nil => cases h
  | cons e d ih =>
    rw [List.lookup_cons] at h
    by_cases hk : k = e.1
    · subst hk
      rw [beq_self_eq_true] at h
      cases h
      exact .head _
    · rw [beq_false_of_ne hk] at h
      exact .tail _ (ih h)

theorem lookup_map (f : κ → α → β) (d : List (κ × α)) (k : κ) :
    (d.map fun e ↦ (e.1, f e.1 e.2)).lookup k = (d.lookup k).map (f k) := by
  induction d with
  | nil => rfl
  | cons e d ih =>
    rw [List.map_cons, List.lookup_cons, List.lookup_cons]
    by_cases hk : k = e.1
    · subst hk
      simp
    · rw [beq_false_of_ne hk, ih]

theorem lookup_filter (h : (keys d).Nodup) (p : κ × α → Bool) (k : κ) :
    (d.filter p).lookup k = (d.lookup k).filter fun v ↦ p (k, v) := by
  have hfilter : (keys (d.filter p)).Nodup :=
    (List.filter_sublist.map Prod.fst).nodup h
  cases hv : d.lookup k with
  | none =>
    rw [lookup_eq_none] at hv
    rw [Option.filter_none, lookup_eq_none]
    exact fun hmem ↦ hv ((List.filter_sublist.map Prod.fst).subset hmem)
  | some v =>
    rw [lookup_eq_some h] at hv
    rw [Option.filter_some]
    split_ifs with hp
    · exact (lookup_eq_some hfilter).mpr (List.mem_filter.mpr ⟨hv, hp⟩)
    · rw [lookup_eq_none]
      intro hmem
      obtain ⟨⟨k', v'⟩, he, rfl⟩ := List.mem_map.mp hmem
      obtain ⟨hmem', hp'⟩ := List.mem_filter.mp he
      have hsame := (lookup_eq_some h).mpr hmem'
      rw [(lookup_eq_some h).mpr hv] at hsame
      cases hsame
      exact hp hp'

theorem lookup_congr {d' : List (κ × α)} (h : (keys d).Nodup) (hperm : d.Perm d') (k : κ) :
    d.lookup k = d'.lookup k := by
  have h' : (keys d').Nodup := (hperm.map Prod.fst).nodup h
  cases hv : d'.lookup k with
  | none =>
    rw [lookup_eq_none] at hv ⊢
    exact fun hmem ↦ hv ((hperm.map Prod.fst).mem_iff.mp hmem)
  | some v =>
    rw [lookup_eq_some h'] at hv
    rw [lookup_eq_some h]
    exact hperm.mem_iff.mpr hv

def sortedItems (r : κ → κ → Prop) [DecidableRel r] (d : List (κ × α)) : List (κ × α) :=
  ((keys d).insertionSort r).filterMap fun k ↦ (d.lookup k).map fun v ↦ (k, v)

theorem filterMap_keys (h : (keys d).Nodup) :
    ((keys d).filterMap fun k ↦ (d.lookup k).map fun v ↦ (k, v)) = d := by
  have hitem : ∀ e ∈ d, ((d.lookup e.1).map fun v ↦ (e.1, v)) = some e := by
    intro e he
    rw [(lookup_eq_some h).mpr he]
    rfl
  rw [keys, List.filterMap_map]
  refine (List.filterMap_congr hitem).trans ?_
  exact List.filterMap_some

theorem sortedItems_perm (r : κ → κ → Prop) [DecidableRel r] (h : (keys d).Nodup) :
    (sortedItems r d).Perm d := by
  have hperm := ((List.perm_insertionSort r (keys d)).filterMap
    fun k ↦ (d.lookup k).map fun v ↦ (k, v))
  rwa [filterMap_keys h] at hperm

theorem merge_new {d' : List (κ × α)} (h : (keys (d ++ d')).Nodup) : merge d d' = d ++ d' := by
  induction d' generalizing d with
  | nil => exact (List.append_nil d).symm
  | cons e d' ih =>
    have hnew : e.1 ∉ keys d := by
      rw [keys, List.map_append, List.map_cons, List.nodup_middle, List.nodup_cons] at h
      exact fun hmem ↦ h.1 (List.mem_append_left _ hmem)
    have happend : d ++ e :: d' = (d ++ [e]) ++ d' := by simp
    rw [happend] at h
    rw [merge, List.foldl_cons, setItem_new hnew, happend]
    exact ih h

end EmbodiedAgent.Library.Dictionary
