import Mathlib.Data.List.MinMax
import Mathlib.Data.List.Perm.Basic

namespace EmbodiedAgent.Library.FarthestFirst

variable {α β : Type*} [DecidableEq α] [LinearOrder β] (dist : α → α → β) (start : α)

def gap (chosen : List α) (a : α) : β := (chosen.map (dist a)).foldl min (dist a start)

def crowded (tooNear : β → Bool) (chosen : List α) (a : α) : Bool :=
  (chosen.map (dist a)).min?.any tooNear

def select (tooNear : β → Bool) : ℕ → List α → List α → List α
  | 0, _, chosen => chosen
  | limit + 1, remaining, chosen =>
    match remaining.argmax (gap dist start chosen) with
    | none => chosen
    | some best =>
      if crowded dist tooNear chosen best then chosen
      else select tooNear limit (remaining.erase best) (chosen ++ [best])

def traversal : ℕ → List α → List α → List α
  | 0, _, _ => []
  | n + 1, remaining, chosen =>
    match remaining.argmax (gap dist start chosen) with
    | none => []
    | some best => best :: traversal n (remaining.erase best) (chosen ++ [best])

variable {dist start} {tooNear : β → Bool} {chosen remaining : List α} {a best : α}

section Gaps

omit [DecidableEq α]

theorem min?_eq_gap : ((start :: chosen).map (dist a)).min? = some (gap dist start chosen a) := rfl

theorem gap_le {b : α} (hb : b ∈ chosen) : gap dist start chosen a ≤ dist a b :=
  (List.le_min?_iff min?_eq_gap).mp le_rfl _ (List.mem_cons_of_mem _ (List.mem_map_of_mem hb))

theorem gap_eq (dist : α → α → β) (start : α) (chosen : List α) (a : α) :
    gap dist start chosen a = dist a start ∨ ∃ b ∈ chosen, gap dist start chosen a = dist a b := by
  have hmem : gap dist start chosen a ∈ (start :: chosen).map (dist a) :=
    List.min?_mem min?_eq_gap
  rcases List.mem_cons.mp hmem with heq | hmem
  · exact .inl heq
  · obtain ⟨b, hb, heq⟩ := List.mem_map.mp hmem
    exact .inr ⟨b, hb, heq.symm⟩

def Downward (tooNear : β → Bool) : Prop :=
  ∀ d d', d ≤ d' → tooNear d' = true → tooNear d = true

theorem crowded_iff (hdown : Downward tooNear) :
    crowded dist tooNear chosen a = true ↔ ∃ b ∈ chosen, tooNear (dist a b) = true := by
  rw [crowded, Option.any_eq_true]
  constructor
  · rintro ⟨d, hmin, hd⟩
    obtain ⟨b, hb, rfl⟩ := List.mem_map.mp (List.min?_mem hmin)
    exact ⟨b, hb, hd⟩
  · rintro ⟨b, hb, hnear⟩
    have hmem : dist a b ∈ chosen.map (dist a) := List.mem_map_of_mem hb
    obtain ⟨d, hmin⟩ := Option.isSome_iff_exists.mp
      (List.isSome_min?_of_ne_nil (List.ne_nil_of_mem hmem))
    exact ⟨d, hmin, hdown _ _ ((List.min?_eq_some_iff.mp hmin).2 _ hmem) hnear⟩

end Gaps

theorem traversal_perm (n : ℕ) (remaining chosen : List α) (hn : remaining.length ≤ n) :
    (traversal dist start n remaining chosen).Perm remaining := by
  induction n generalizing remaining chosen with
  | zero =>
    rw [List.eq_nil_of_length_eq_zero (Nat.le_zero.mp hn)]
    exact List.Perm.nil
  | succ n ih =>
    rw [traversal]
    cases hbest : remaining.argmax (gap dist start chosen) with
    | none =>
      rw [List.argmax_eq_none.mp hbest]
    | some best =>
      have hmem := List.argmax_mem hbest
      have hlength := List.length_erase_of_mem hmem
      have hrest := ih (remaining.erase best) (chosen ++ [best]) (by omega)
      exact (hrest.cons best).trans (List.perm_cons_erase hmem).symm

theorem traversal_farthest (n : ℕ) (remaining chosen : List α) (hn : remaining.length ≤ n)
    {k : ℕ} (hk : (traversal dist start n remaining chosen)[k]? = some best)
    (ha : a ∈ (traversal dist start n remaining chosen).drop k) :
    gap dist start (chosen ++ (traversal dist start n remaining chosen).take k) a ≤
      gap dist start (chosen ++ (traversal dist start n remaining chosen).take k) best := by
  induction n generalizing remaining chosen k with
  | zero =>
    rw [traversal] at hk
    cases hk
  | succ n ih =>
    have hperm : (traversal dist start (n + 1) remaining chosen).Perm remaining :=
      traversal_perm (n + 1) remaining chosen hn
    cases hbest : remaining.argmax (gap dist start chosen) with
    | none =>
      obtain rfl := List.argmax_eq_none.mp hbest
      rw [hperm.eq_nil] at hk
      cases hk
    | some first =>
      have hmem := List.argmax_mem hbest
      have hlength := List.length_erase_of_mem hmem
      have htraversal : traversal dist start (n + 1) remaining chosen =
          first :: traversal dist start n (remaining.erase first) (chosen ++ [first]) := by
        rw [traversal, hbest]
      cases k with
      | zero =>
        rw [List.drop_zero, hperm.mem_iff] at ha
        rw [htraversal] at hk
        rw [List.take_zero, List.append_nil, ← Option.some.inj hk]
        exact List.le_of_mem_argmax ha hbest
      | succ k =>
        rw [htraversal] at hk ha ⊢
        have hrest := ih (remaining.erase first) (chosen ++ [first]) (by omega) hk ha
        rwa [List.append_assoc] at hrest

/-- `k` points are chosen: up to the limit, the end, or a point that is crowded. -/
structure Stops (dist : α → α → β) (tooNear : β → Bool) (limit : ℕ) (chosen order : List α)
    (k : ℕ) : Prop where
  le : k ≤ limit
  apart : ∀ j < k, ∀ a, order[j]? = some a → crowded dist tooNear (chosen ++ order.take j) a = false
  stop : k = limit ∨ order.length ≤ k ∨
    ∃ a, order[k]? = some a ∧ crowded dist tooNear (chosen ++ order.take k) a = true

theorem select_eq (limit n : ℕ) (remaining chosen : List α) (hn : remaining.length ≤ n) :
    ∃ k, Stops dist tooNear limit chosen (traversal dist start n remaining chosen) k ∧
      select dist start tooNear limit remaining chosen =
        chosen ++ (traversal dist start n remaining chosen).take k := by
  induction limit generalizing n remaining chosen with
  | zero =>
    exact ⟨0, ⟨le_rfl, fun j hj ↦ absurd hj (Nat.not_lt_zero j), .inl rfl⟩,
      (List.append_nil chosen).symm⟩
  | succ limit ih =>
    have hperm : (traversal dist start n remaining chosen).Perm remaining :=
      traversal_perm n remaining chosen hn
    rw [select]
    cases hbest : remaining.argmax (gap dist start chosen) with
    | none =>
      obtain rfl := List.argmax_eq_none.mp hbest
      rw [hperm.eq_nil]
      exact ⟨0, ⟨Nat.zero_le _, fun j hj ↦ absurd hj (Nat.not_lt_zero j),
        Or.inr (.inl le_rfl)⟩, (List.append_nil chosen).symm⟩
    | some best =>
      have hmem := List.argmax_mem hbest
      have hlength := List.length_erase_of_mem hmem
      have hpos := List.length_pos_of_mem hmem
      obtain ⟨n, rfl⟩ : ∃ m, n = m + 1 := ⟨n - 1, by omega⟩
      have htraversal : traversal dist start (n + 1) remaining chosen =
          best :: traversal dist start n (remaining.erase best) (chosen ++ [best]) := by
        rw [traversal, hbest]
      rw [htraversal]
      dsimp only
      split_ifs with hcrowded
      · refine ⟨0, ⟨Nat.zero_le _, fun j hj ↦ absurd hj (Nat.not_lt_zero j),
          Or.inr (.inr ⟨best, rfl, ?_⟩)⟩, (List.append_nil chosen).symm⟩
        rwa [List.take_zero, List.append_nil]
      · obtain ⟨k, hstops, hselect⟩ := ih n (remaining.erase best) (chosen ++ [best]) (by omega)
        refine ⟨k + 1, ⟨Nat.succ_le_succ hstops.le, fun j hj a ha ↦ ?_, ?_⟩, ?_⟩
        · cases j with
          | zero =>
            rw [List.take_zero, List.append_nil, ← Option.some.inj ha]
            exact eq_false_of_ne_true hcrowded
          | succ j =>
            have hapart := hstops.apart j (Nat.lt_of_succ_lt_succ hj) a ha
            rwa [List.append_assoc] at hapart
        · rcases hstops.stop with heq | hend | ⟨a, ha, hcrowd⟩
          · exact .inl (congrArg Nat.succ heq)
          · exact .inr (.inl (Nat.succ_le_succ hend))
          · rw [List.append_assoc] at hcrowd
            exact .inr (.inr ⟨a, ha, hcrowd⟩)
        · rw [hselect, List.append_assoc]
          rfl

variable {limit k : ℕ} {order : List α}

/-- The first crowded point of the traversal, within the limit. -/
structure FirstCrowded (dist : α → α → β) (tooNear : β → Bool) (limit : ℕ) (order : List α)
    (k : ℕ) : Prop where
  lt : k < limit
  apart : ∀ j < k, ∀ a, order[j]? = some a → crowded dist tooNear (order.take j) a = false
  crowded : ∃ a, order[k]? = some a ∧ crowded dist tooNear (order.take k) a = true

omit [DecidableEq α] in
theorem Stops.firstCrowded (h : Stops dist tooNear limit [] order k) (hlimit : k < limit)
    (hlength : k < order.length) : FirstCrowded dist tooNear limit order k :=
  ⟨hlimit, h.apart, (h.stop.resolve_left hlimit.ne).resolve_left hlength.not_ge⟩

omit [DecidableEq α] in
theorem Stops.eq_firstCrowded {k' : ℕ} (h : Stops dist tooNear limit [] order k)
    (h' : FirstCrowded dist tooNear limit order k') : k = k' := by
  obtain ⟨hlt, hapart, a, ha, hcrowded⟩ := h'
  have hlength := (List.getElem?_eq_some_iff.mp ha).1
  refine le_antisymm (not_lt.mp fun hlt' ↦ ?_) (not_lt.mp fun hlt' ↦ ?_)
  · exact absurd (hcrowded.symm.trans (h.apart k' hlt' a ha)) nofun
  · obtain ⟨-, -, b, hb, hb'⟩ := h.firstCrowded (hlt'.trans hlt) (hlt'.trans hlength)
    exact absurd (hb'.symm.trans (hapart k hlt' b hb)) nofun

omit [DecidableEq α] in
theorem Stops.pairwise (hdown : Downward tooNear) (h : Stops dist tooNear limit [] order k) :
    (order.take k).Pairwise fun b a ↦ tooNear (dist a b) = false := by
  rw [List.pairwise_iff_getElem]
  intro i j hi hj hij
  rw [List.length_take] at hi hj
  rw [List.getElem_take, List.getElem_take]
  have hapart := h.apart j (by omega) order[j] (List.getElem?_eq_getElem (by omega))
  by_contra hnear
  refine absurd hapart (ne_of_eq_of_ne ((crowded_iff hdown).mpr ⟨order[i], ?_, ?_⟩) nofun)
  · exact List.mem_append_right _ (List.mem_take_iff_getElem.mpr ⟨i, by omega, rfl⟩)
  · exact eq_true_of_ne_false hnear

theorem near_of_crowded {near : β → Bool} (hdown : Downward near)
    (hnear : ∀ d, tooNear d = true → near d = true) {n : ℕ} (hn : remaining.length ≤ n) {b : α}
    (hb : (traversal dist start n remaining [])[k]? = some b)
    (hcrowded : crowded dist tooNear ((traversal dist start n remaining []).take k) b = true)
    (ha : a ∈ (traversal dist start n remaining []).drop k) : near (dist a start) = true ∨
      ∃ c ∈ (traversal dist start n remaining []).take k, near (dist a c) = true := by
  have hfar := traversal_farthest n remaining [] hn hb ha
  rw [List.nil_append] at hfar
  rw [crowded, Option.any_eq_true] at hcrowded
  obtain ⟨d, hmin, hd⟩ := hcrowded
  obtain ⟨c, hc, rfl⟩ := List.mem_map.mp (List.min?_mem hmin)
  have hgap := hdown _ _ (hfar.trans (gap_le hc)) (hnear _ hd)
  rcases gap_eq dist start ((traversal dist start n remaining []).take k) a with heq |
    ⟨c', hc', heq⟩
  · rw [heq] at hgap
    exact .inl hgap
  · rw [heq] at hgap
    exact .inr ⟨c', hc', hgap⟩

end EmbodiedAgent.Library.FarthestFirst
