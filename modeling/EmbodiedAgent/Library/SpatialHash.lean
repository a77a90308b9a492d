import Mathlib.Algebra.Order.Floor.Ring

namespace EmbodiedAgent.Library.SpatialHash

section Buckets

variable {κ α : Type*} [DecidableEq κ] (key : α → κ)

/-- `grid[key(a)].push_back(a)` -/
def insert (grid : κ → Option (List α)) (a : α) : κ → Option (List α) :=
  fun k ↦ if k = key a then some ((grid k).getD [] ++ [a]) else grid k

def build (items : List α) : κ → Option (List α) := items.foldl (insert key) fun _ ↦ none

theorem foldl_insert (items : List α) (grid : κ → Option (List α)) (k : κ) :
    (items.foldl (insert key) grid k).getD [] =
      (grid k).getD [] ++ items.filter (fun a ↦ decide (k = key a)) := by
  induction items generalizing grid with
  | nil => simp
  | cons a items ih =>
    rw [List.foldl_cons, ih, insert, List.filter_cons]
    by_cases hk : k = key a
    · simp [hk]
    · simp [hk]

theorem mem_build {items : List α} {k : κ} {a : α} :
    a ∈ (build key items k).getD [] ↔ a ∈ items ∧ k = key a := by
  rw [build, foldl_insert]
  simp

end Buckets

section Cells

variable {K : Type*} [Field K] [LinearOrder K] [IsStrictOrderedRing K] [FloorRing K]
  {a b cell : K}

theorem floor_sub_le_one (hcell : 0 < cell) (h : b - a ≤ cell) : ⌊b / cell⌋ - ⌊a / cell⌋ ≤ 1 := by
  have hstep : b / cell ≤ a / cell + 1 := by
    rw [div_add_one hcell.ne']
    exact div_le_div_of_nonneg_right (by linarith) hcell.le
  have hfloor := Int.floor_le_floor hstep
  rw [Int.floor_add_one] at hfloor
  omega

theorem floor_sub_mem (hcell : 0 < cell) (h : |a - b| ≤ cell) :
    ⌊b / cell⌋ - ⌊a / cell⌋ ∈ [-1, 0, 1] := by
  obtain ⟨hlow, hhigh⟩ := abs_le.mp h
  have hup : ⌊b / cell⌋ - ⌊a / cell⌋ ≤ 1 := floor_sub_le_one hcell (by linarith)
  have hdown : ⌊a / cell⌋ - ⌊b / cell⌋ ≤ 1 := floor_sub_le_one hcell hhigh
  simp only [List.mem_cons, List.not_mem_nil, or_false]
  omega

end Cells

section Scans

variable {α K : Type*} [LinearOrder K] (measure : α → K)

def keepLeast (state : K × Option α) (a : α) : K × Option α :=
  if measure a ≤ state.1 then (measure a, some a) else state

structure Least (bound : K) (items : List α) (state : K × Option α) : Prop where
  bound_le : state.1 ≤ bound
  lower : ∀ a ∈ items, state.1 ≤ measure a
  found : ∀ a, state.2 = some a → a ∈ items ∧ state.1 = measure a
  missed : state.2 = none → state.1 = bound ∧ ∀ a ∈ items, bound < measure a

variable {measure} {bound : K} {items : List α} {state : K × Option α}

theorem Least.start (bound : K) : Least measure bound [] (bound, none) where
  bound_le := le_rfl
  lower := by simp
  found := by simp
  missed := by simp

theorem Least.step (h : Least measure bound items state) (a : α) :
    Least measure bound (items ++ [a]) (keepLeast measure state a) := by
  rw [keepLeast]
  split_ifs with hle
  · refine ⟨hle.trans h.bound_le, ?_, ?_, ?_⟩
    · intro b hb
      rcases List.mem_append.mp hb with hb | hb
      · exact hle.trans (h.lower b hb)
      · rw [List.mem_singleton.mp hb]
    · intro b hb
      cases hb
      simp
    · intro hnone
      cases hnone
  · rw [not_le] at hle
    refine ⟨h.bound_le, ?_, ?_, ?_⟩
    · intro b hb
      rcases List.mem_append.mp hb with hb | hb
      · exact h.lower b hb
      · rw [List.mem_singleton.mp hb]
        exact hle.le
    · intro b hb
      obtain ⟨hmem, heq⟩ := h.found b hb
      exact ⟨List.mem_append_left _ hmem, heq⟩
    · intro hnone
      obtain ⟨heq, hfar⟩ := h.missed hnone
      refine ⟨heq, ?_⟩
      intro b hb
      rcases List.mem_append.mp hb with hb | hb
      · exact hfar b hb
      · rw [List.mem_singleton.mp hb, ← heq]
        exact hle

theorem Least.run (h : Least measure bound items state) (rest : List α) :
    Least measure bound (items ++ rest) (rest.foldl (keepLeast measure) state) := by
  induction rest generalizing items state with
  | nil => simpa using h
  | cons a rest ih =>
    have hrest := ih (h.step a)
    rwa [List.append_assoc, List.singleton_append] at hrest

variable (measure) in
theorem least_foldl (bound : K) (items : List α) :
    Least measure bound items (items.foldl (keepLeast measure) (bound, none)) :=
  (Least.start bound).run items

end Scans

variable {α : Type*} (test : α → Bool)

/-- A loop over `items` that ends at the first hit. -/
def untilHit : Bool → List α → Bool
  | matched, [] => matched
  | true, _ => true
  | false, a :: items => untilHit (test a) items

variable {test}

theorem untilHit_eq (matched : Bool) (items : List α) :
    untilHit test matched items = (matched || items.any test) := by
  induction items generalizing matched with
  | nil => cases matched <;> rfl
  | cons a items ih =>
    cases matched with
    | true => rfl
    | false => rw [untilHit, ih, List.any_cons, Bool.false_or]

end EmbodiedAgent.Library.SpatialHash
