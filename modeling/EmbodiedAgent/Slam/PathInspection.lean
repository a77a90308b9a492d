import EmbodiedAgent.Slam.MappedGoalSampler
import Mathlib.Analysis.Real.Sqrt
import Mathlib.Tactic.IntervalCases

namespace EmbodiedAgent.Slam.MappedGoalSampler

variable {K : Type*} [Field K] [LinearOrder K] [FloorRing K]
  {snapshot : OccupancySnapshot K} {hypot : K → K → K}

namespace OccupancySnapshot

omit [FloorRing K] in
/-- Inside the map and known to be free. -/
def Free (snapshot : OccupancySnapshot K) (cell : Cell) : Prop :=
  snapshot.Contains cell ∧ snapshot.value cell = 0

end OccupancySnapshot

theorem countPoint_knownFree (stats : PathOccupancyStats) (point : Point2D K) :
    (countPoint snapshot stats point).KnownFree ↔
      stats.KnownFree ∧ snapshot.Free (snapshot.cellOf point) := by
  rw [countPoint, OccupancySnapshot.worldToCell]
  by_cases hinside : snapshot.Contains (snapshot.cellOf point)
  · rw [if_pos hinside]
    dsimp only
    split_ifs with hunknown hoccupied
    · refine iff_of_false (fun hfree ↦ absurd hfree.2.1 (Nat.succ_ne_zero _)) fun hfree ↦ ?_
      have hvalue := hfree.2.2
      omega
    · exact iff_of_false (fun hfree ↦ absurd hfree.2.2.1 (Nat.succ_ne_zero _)) fun hfree ↦
        hoccupied hfree.2.2
    · exact (and_iff_left ⟨hinside, not_not.mp hoccupied⟩).symm
  · rw [if_neg hinside]
    exact iff_of_false (fun hfree ↦ absurd hfree.2.2.2 (Nat.succ_ne_zero _)) fun hfree ↦
      hinside hfree.2.1

theorem foldl_knownFree (dense : List (Point2D K)) (stats : PathOccupancyStats) :
    (dense.foldl (countPoint snapshot) stats).KnownFree ↔
      stats.KnownFree ∧ ∀ point ∈ dense, snapshot.Free (snapshot.cellOf point) := by
  induction dense generalizing stats with
  | nil => simp
  | cons point dense ih =>
    rw [List.foldl_cons, ih, countPoint_knownFree, List.forall_mem_cons, and_assoc]

section Segments

def along (start finish : Point2D K) (t : K) : Point2D K :=
  (start.1 + (finish.1 - start.1) * t, start.2 + (finish.2 - start.2) * t)

omit [LinearOrder K] [FloorRing K] in
theorem along_zero (start finish : Point2D K) : along start finish 0 = start := by
  simp [along]

omit [LinearOrder K] [FloorRing K] in
theorem along_one (start finish : Point2D K) : along start finish 1 = finish := by
  simp [along]

def CrossesLong (hypot : K → K → K) (snapshot : OccupancySnapshot K) (start finish : Point2D K)
    (cell : Cell) : Prop :=
  ∃ t t', 0 ≤ t ∧ t ≤ t' ∧ t' ≤ 1 ∧ snapshot.cellOf (along start finish t) = cell ∧
    snapshot.cellOf (along start finish t') = cell ∧
    snapshot.halfCell < distance hypot (along start finish t) (along start finish t')

variable [IsStrictOrderedRing K]

omit [FloorRing K] in
theorem distance_along (hexact : Exact hypot) (start finish : Point2D K) {t t' : K} (h : t ≤ t') :
    distance hypot (along start finish t) (along start finish t') =
      (t' - t) * distance hypot start finish := by
  refine (sq_eq_sq₀ (hexact.nonneg _ _)
    (mul_nonneg (sub_nonneg.mpr h) (hexact.nonneg _ _))).mp ?_
  rw [mul_pow, hexact.sq, hexact.sq, along, along]
  ring

theorem floor_between {s d o r t t₁ t₂ : K} {z : ℤ} (hr : 0 < r) (h₁ : ⌊(s + d * t₁ - o) / r⌋ = z)
    (h₂ : ⌊(s + d * t₂ - o) / r⌋ = z) (ht₁ : t₁ ≤ t) (ht₂ : t ≤ t₂) :
    ⌊(s + d * t - o) / r⌋ = z := by
  rcases le_total 0 d with hd | hd
  · refine le_antisymm (h₂ ▸ ?_) (h₁ ▸ ?_)
    · gcongr
    · gcongr
  · refine le_antisymm (h₁ ▸ ?_) (h₂ ▸ ?_)
    · have := mul_le_mul_of_nonpos_left ht₁ hd
      gcongr
    · have := mul_le_mul_of_nonpos_left ht₂ hd
      gcongr

theorem cellOf_between {start finish : Point2D K} {t t₁ t₂ : K} {cell : Cell}
    (h₁ : snapshot.cellOf (along start finish t₁) = cell)
    (h₂ : snapshot.cellOf (along start finish t₂) = cell) (ht₁ : t₁ ≤ t) (ht₂ : t ≤ t₂) :
    snapshot.cellOf (along start finish t) = cell := by
  obtain ⟨hcolumn₁, hrow₁⟩ := Prod.mk.inj h₁
  obtain ⟨hcolumn₂, hrow₂⟩ := Prod.mk.inj h₂
  exact Prod.ext (floor_between snapshot.resolution_pos hcolumn₁ hcolumn₂ ht₁ ht₂)
    (floor_between snapshot.resolution_pos hrow₁ hrow₂ ht₁ ht₂)

omit [IsStrictOrderedRing K] in
theorem mem_densify {start finish : Point2D K} {index : ℕ} (hpos : 1 ≤ index)
    (hle : index ≤ steps hypot snapshot start finish) :
    along start finish (index / steps hypot snapshot start finish) ∈
      densify hypot snapshot start finish := by
  refine List.mem_map.mpr ⟨index, List.mem_range'_1.mpr ⟨hpos, by omega⟩, ?_⟩
  rw [along, mul_div_assoc, mul_div_assoc]

omit [IsStrictOrderedRing K] in
theorem finish_mem_densify (start finish : Point2D K) :
    finish ∈ densify hypot snapshot start finish := by
  have hpos : 1 ≤ steps hypot snapshot start finish := le_max_left _ _
  have hne : (steps hypot snapshot start finish : K) ≠ 0 :=
    Nat.cast_ne_zero.mpr (Nat.one_le_iff_ne_zero.mp hpos)
  have hmem : along start finish (steps hypot snapshot start finish / _) ∈
      densify hypot snapshot start finish := mem_densify hpos le_rfl
  rwa [div_self hne, along_one] at hmem

theorem distance_le_steps (start finish : Point2D K) : distance hypot start finish ≤
    steps hypot snapshot start finish * (snapshot.resolution / 2) := by
  rw [← div_le_iff₀ (half_pos snapshot.resolution_pos)]
  refine (Int.le_ceil _).trans ?_
  have hle : ⌈distance hypot start finish / (snapshot.resolution / 2)⌉ ≤
      (steps hypot snapshot start finish : ℤ) :=
    (Int.self_le_toNat _).trans (Int.ofNat_le.mpr (le_max_right _ _))
  exact_mod_cast hle

theorem sample_of_crossesLong (hexact : Exact hypot) {start finish : Point2D K} {cell : Cell}
    (h : CrossesLong hypot snapshot start finish cell) :
    ∃ point ∈ start :: densify hypot snapshot start finish, snapshot.cellOf point = cell := by
  obtain ⟨t, t', ht, htt', ht', hcell, hcell', hlong⟩ := h
  set n := steps hypot snapshot start finish
  have hpos : (0 : K) < n := Nat.cast_pos.mpr (Nat.le_max_left _ _)
  have hhalf := half_pos snapshot.resolution_pos
  -- between the two points there is room for a whole step
  have hroom : 1 < (t' - t) * n := by
    rw [distance_along hexact start finish htt'] at hlong
    have hlength : distance hypot start finish ≤ n * (snapshot.resolution / 2) :=
      distance_le_steps start finish
    have hsteps := mul_le_mul_of_nonneg_left hlength (sub_nonneg.mpr htt')
    rw [← mul_assoc] at hsteps
    have hlt : snapshot.resolution / 2 < _ := hlong.trans_le hsteps
    exact lt_of_mul_lt_mul_right (by rwa [one_mul]) hhalf.le
  have hnonneg : 0 ≤ t * n := mul_nonneg ht hpos.le
  have hceil : t * n ≤ ⌈t * n⌉.toNat := by
    refine (Int.le_ceil _).trans ?_
    exact_mod_cast Int.self_le_toNat _
  have hfloor : (⌈t * n⌉.toNat : K) < t' * n := by
    have hcast : (⌈t * n⌉.toNat : K) = (⌈t * n⌉ : K) := by
      exact_mod_cast congrArg (Int.cast (R := K)) (Int.toNat_of_nonneg (Int.ceil_nonneg hnonneg))
    rw [hcast]
    linarith [Int.ceil_lt_add_one (t * (n : K))]
  have hbetween := cellOf_between hcell hcell' ((le_div_iff₀ hpos).mpr hceil)
    ((div_le_iff₀ hpos).mpr hfloor.le)
  have hle : ⌈t * n⌉.toNat ≤ n := by
    have hlt : (⌈t * n⌉.toNat : K) < n :=
      hfloor.trans_le (mul_le_of_le_one_left hpos.le ht')
    exact (Nat.cast_lt.mp hlt).le
  rcases Nat.eq_zero_or_pos ⌈t * n⌉.toNat with hzero | hindex
  · rw [hzero, Nat.cast_zero, zero_div, along_zero] at hbetween
    exact ⟨start, List.mem_cons_self, hbetween⟩
  · exact ⟨_, List.mem_cons_of_mem _ (mem_densify hindex hle), hbetween⟩

/-- A path that is known to be free leads through no other cell for more than half a cell. -/
theorem inspectPathOccupancy_free (hexact : Exact hypot) {points : List (Point2D K)}
    {stats : PathOccupancyStats} (h : inspectPathOccupancy hypot snapshot points = .ok stats)
    (hfree : stats.KnownFree) : (∀ point ∈ points, snapshot.Free (snapshot.cellOf point)) ∧
      ∀ segment ∈ points.zip points.tail, ∀ cell,
        CrossesLong hypot snapshot segment.1 segment.2 cell → snapshot.Free cell := by
  cases points with
  | nil => cases h
  | cons first rest =>
    obtain rfl := Except.ok.inj h
    have hdense := ((foldl_knownFree _ _).mp hfree).2
    obtain ⟨hfirst, hsamples⟩ := List.forall_mem_cons.mp hdense
    have hsample : ∀ segment ∈ (first :: rest).zip rest,
        ∀ point ∈ densify hypot snapshot segment.1 segment.2,
          snapshot.Free (snapshot.cellOf point) :=
      fun segment hsegment point hpoint ↦
        hsamples point (List.mem_flatMap.mpr ⟨segment, hsegment, hpoint⟩)
    have hwaypoints : ∀ point ∈ first :: rest, snapshot.Free (snapshot.cellOf point) := by
      refine List.forall_mem_cons.mpr ⟨hfirst, fun point hpoint ↦ ?_⟩
      obtain ⟨i, hi, rfl⟩ := List.mem_iff_getElem.mp hpoint
      have hlt : i < ((first :: rest).zip rest).length := by
        rw [List.length_zip, List.length_cons]
        omega
      refine hsample _ (List.getElem_mem hlt) _ ?_
      rw [List.getElem_zip]
      exact finish_mem_densify _ _
    refine ⟨hwaypoints, fun segment hsegment cell hcrosses ↦ ?_⟩
    obtain ⟨point, hpoint, rfl⟩ := sample_of_crossesLong hexact hcrosses
    rcases List.mem_cons.mp hpoint with rfl | hpoint
    · exact hwaypoints _ (List.of_mem_zip hsegment).1
    · exact hsample segment hsegment point hpoint

end Segments

noncomputable section Corridors

theorem sqrt_exact : Exact fun x y : ℝ ↦ √(x ^ 2 + y ^ 2) :=
  ⟨fun _ _ ↦ Real.sqrt_nonneg _, fun x y ↦ Real.sq_sqrt (add_nonneg (sq_nonneg x) (sq_nonneg y))⟩

/-- Two free cells beside each other. -/
def corridor : OccupancySnapshot ℝ :=
  { width := 2
    height := 1
    resolution := 1
    origin := (0, 0)
    cells := [0, 0]
    width_pos := Nat.two_pos
    height_pos := Nat.one_pos
    resolution_pos := Real.zero_lt_one
    cells_length := rfl }

def corridorPath : List (Point2D ℝ) := [(0, 0), (1, 0)]

theorem corridor_free {x y : ℝ} (hx : 0 ≤ x) (hx' : x < 2) (hy : 0 ≤ y) (hy' : y < 1) :
    corridor.Free (corridor.cellOf (x, y)) := by
  have hcolumn : 0 ≤ ⌊x⌋ ∧ ⌊x⌋ < 2 := ⟨Int.floor_nonneg.mpr hx, Int.floor_lt.mpr (mod_cast hx')⟩
  have hrow : ⌊y⌋ = 0 := Int.floor_eq_zero_iff.mpr ⟨hy, hy'⟩
  have hcell : corridor.cellOf (x, y) = (⌊x⌋, 0) := by
    simp [OccupancySnapshot.cellOf, corridor, hrow]
  rw [hcell]
  generalize ⌊x⌋ = column at hcolumn
  obtain ⟨hlow, hhigh⟩ := hcolumn
  interval_cases column
  · exact ⟨by decide, rfl⟩
  · exact ⟨by decide, rfl⟩

theorem corridorPath_free : (∀ point ∈ corridorPath, corridor.Free (corridor.cellOf point)) ∧
      ∀ segment ∈ corridorPath.zip corridorPath.tail, ∀ cell,
        CrossesLong (fun x y ↦ √(x ^ 2 + y ^ 2)) corridor segment.1 segment.2 cell →
          corridor.Free cell := by
  have hsteps : steps (fun x y : ℝ ↦ √(x ^ 2 + y ^ 2)) corridor (0, 0) (1, 0) = 2 := by
    norm_num [steps, distance, corridor]
    rfl
  refine inspectPathOccupancy_free sqrt_exact rfl ((foldl_knownFree _ _).mpr ⟨?_, ?_⟩)
  · exact ⟨Nat.succ_pos _, rfl, rfl, rfl⟩
  · intro point hpoint
    rcases List.mem_cons.mp hpoint with rfl | hpoint
    · apply corridor_free <;> norm_num
    · obtain ⟨segment, hsegment, hpoint⟩ := List.mem_flatMap.mp hpoint
      obtain rfl := List.mem_singleton.mp hsegment
      obtain ⟨index, hindex, rfl⟩ := List.mem_map.mp hpoint
      dsimp only at hindex ⊢
      rw [hsteps] at hindex ⊢
      obtain ⟨hlow, hhigh⟩ := List.mem_range'_1.mp hindex
      interval_cases index
      · apply corridor_free <;> norm_num
      · apply corridor_free <;> norm_num

end Corridors

end EmbodiedAgent.Slam.MappedGoalSampler
