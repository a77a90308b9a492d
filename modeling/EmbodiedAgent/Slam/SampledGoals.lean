import EmbodiedAgent.Library.Fallible
import EmbodiedAgent.Slam.PathInspection

namespace EmbodiedAgent.Slam.MappedGoalSampler

open Library Relation

variable {K : Type*} [Field K] [LinearOrder K] {snapshot : OccupancySnapshot K}
  {hypot : K → K → K}

section Selection

def farthestOrder (hypot : K → K → K) (rng : Shuffle (Point2D K)) (candidates : List (Point2D K))
    (startXy : Point2D K) (seed : ℤ) : List (Point2D K) :=
  FarthestFirst.traversal (distance hypot) startXy candidates.length
    (rng.shuffle seed candidates) []

def Maximal (hypot : K → K → K) (candidates : List (Point2D K)) (candidateLimit : ℤ)
    (minimumSeparation : K) (goals : List (Point2D K)) : Prop :=
  (goals.length : ℤ) < candidateLimit →
    ∀ left ∈ (candidates : Multiset (Point2D K)) - (goals : Multiset (Point2D K)),
      ∃ goal ∈ goals, distance hypot left goal < minimumSeparation

def StartCovered (hypot : K → K → K) (rng : Shuffle (Point2D K)) (candidates : List (Point2D K))
    (startXy : Point2D K) (candidateLimit seed : ℤ) (minimumSeparation : K) : Prop :=
  ∀ k, FarthestFirst.FirstCrowded (distance hypot) (tooNear minimumSeparation)
      candidateLimit.toNat (farthestOrder hypot rng candidates startXy seed) k →
    ∀ left ∈ (farthestOrder hypot rng candidates startXy seed).drop k,
      distance hypot left startXy < minimumSeparation →
        ∃ goal ∈ (farthestOrder hypot rng candidates startXy seed).take k,
          distance hypot left goal < minimumSeparation

variable (hypot) (rng : Shuffle (Point2D K)) (candidates : List (Point2D K))
  (startXy : Point2D K) (candidateLimit seed : ℤ) (minimumSeparation : K)

theorem farthestOrder_perm : (farthestOrder hypot rng candidates startXy seed).Perm candidates := by
  have hperm := rng.perm seed candidates
  exact (FarthestFirst.traversal_perm _ _ _ hperm.length_eq.le).trans hperm

theorem rankFarthestGoals_eq : ∃ k, FarthestFirst.Stops (distance hypot)
      (tooNear minimumSeparation) candidateLimit.toNat []
      (farthestOrder hypot rng candidates startXy seed) k ∧
    rankFarthestGoals hypot rng candidates startXy candidateLimit seed minimumSeparation =
      (farthestOrder hypot rng candidates startXy seed).take k :=
  FarthestFirst.select_eq candidateLimit.toNat candidates.length _ []
    (rng.perm seed candidates).length_eq.le

theorem sub_take (k : ℕ) : (candidates : Multiset (Point2D K)) -
      ((farthestOrder hypot rng candidates startXy seed).take k : Multiset (Point2D K)) =
    ((farthestOrder hypot rng candidates startXy seed).drop k : Multiset (Point2D K)) := by
  rw [← Multiset.coe_eq_coe.mpr (farthestOrder_perm hypot rng candidates startXy seed)]
  nth_rewrite 1 [← List.take_append_drop k (farthestOrder hypot rng candidates startXy seed)]
  rw [← Multiset.coe_add, add_tsub_cancel_left]

variable [IsStrictOrderedRing K]

theorem tooNear_downward : FarthestFirst.Downward (tooNear minimumSeparation) := by
  intro d d' hle hnear
  exact decide_eq_true ((add_le_add_left hle _).trans_lt (of_decide_eq_true hnear))

theorem lt_of_tooNear {d : K} (h : tooNear minimumSeparation d = true) : d < minimumSeparation := by
  have hlt : d + 1 / 10 ^ 12 < minimumSeparation := of_decide_eq_true h
  have hpos : (0 : K) < 1 / 10 ^ 12 := by positivity
  linarith

theorem near_goal_or_start {k : ℕ} (h : FarthestFirst.FirstCrowded (distance hypot)
      (tooNear minimumSeparation) candidateLimit.toNat
      (farthestOrder hypot rng candidates startXy seed) k) {left : Point2D K}
    (hleft : left ∈ (farthestOrder hypot rng candidates startXy seed).drop k) :
    distance hypot left startXy < minimumSeparation ∨
      ∃ goal ∈ (farthestOrder hypot rng candidates startXy seed).take k,
        distance hypot left goal < minimumSeparation := by
  obtain ⟨crowded, hcrowded, hnear⟩ := h.crowded
  have hdown : FarthestFirst.Downward fun d ↦ decide (d < minimumSeparation) :=
    fun d d' hle hd' ↦ decide_eq_true (hle.trans_lt (of_decide_eq_true hd'))
  rcases FarthestFirst.near_of_crowded hdown
    (fun d hd ↦ decide_eq_true (lt_of_tooNear minimumSeparation hd))
    (rng.perm seed candidates).length_eq.le hcrowded hnear hleft with hstart | ⟨goal, hgoal, hlt⟩
  · exact .inl (of_decide_eq_true hstart)
  · exact .inr ⟨goal, hgoal, of_decide_eq_true hlt⟩

theorem rankFarthestGoals_maximal_iff : Maximal hypot candidates candidateLimit minimumSeparation
        (rankFarthestGoals hypot rng candidates startXy candidateLimit seed minimumSeparation) ↔
      StartCovered hypot rng candidates startXy candidateLimit seed minimumSeparation := by
  obtain ⟨k, hstops, hgoals⟩ := rankFarthestGoals_eq hypot rng candidates startXy candidateLimit
    seed minimumSeparation
  rw [Maximal, hgoals, sub_take, List.length_take]
  constructor
  · intro hmaximal k' hfirst left hleft _
    obtain rfl := hstops.eq_firstCrowded hfirst
    have hlt := hfirst.lt
    exact hmaximal (by omega) left (Multiset.mem_coe.mpr hleft)
  · intro hcovered hlimit left hleft
    have hlength := List.length_pos_of_mem (Multiset.mem_coe.mp hleft)
    rw [List.length_drop] at hlength
    have hfirst := hstops.firstCrowded (by omega) (by omega)
    rcases near_goal_or_start hypot rng candidates startXy candidateLimit seed
      minimumSeparation hfirst
      hleft with hstart | hgoal
    · exact hcovered k hfirst left hleft hstart
    · exact hgoal

end Selection

def unshuffled (α : Type*) : Shuffle α := ⟨fun _ l ↦ l, fun _ _ ↦ List.Perm.refl _⟩

def farAndNear : List (Point2D ℚ) := [(10, 0), (9, 0), (1 / 2, 0)]

/-- On one line, lengths are sums of absolute values. -/
def lineHypot (x y : ℚ) : ℚ := |x| + |y|

theorem far_candidates_maximal : Maximal lineHypot [(10, 0), (9, 0)] 3 2
    (rankFarthestGoals lineHypot (unshuffled _) [(10, 0), (9, 0)] (0, 0) 3 7 2) := by
  refine (rankFarthestGoals_maximal_iff lineHypot (unshuffled _) [(10, 0), (9, 0)]
    (0, 0) 3 7 2).mpr ?_
  intro k _ left hleft hnear
  have hmem := (farthestOrder_perm lineHypot (unshuffled _) [(10, 0), (9, 0)] (0, 0) 7).mem_iff.mp
    (List.mem_of_mem_drop hleft)
  rcases List.mem_cons.mp hmem with rfl | hmem
  · exact absurd hnear (by decide +kernel)
  · rw [List.mem_singleton.mp hmem] at hnear
    exact absurd hnear (by decide +kernel)

theorem near_candidate_dropped :
    rankFarthestGoals lineHypot (unshuffled _) farAndNear (0, 0) 3 7 2 = [(10, 0)] ∧
      ¬ Maximal lineHypot farAndNear 3 2
        (rankFarthestGoals lineHypot (unshuffled _) farAndNear (0, 0) 3 7 2) := by
  have hgoals : rankFarthestGoals lineHypot (unshuffled _) farAndNear (0, 0) 3 7 2 = [(10, 0)] := by
    decide +kernel
  refine ⟨hgoals, fun hmaximal ↦ ?_⟩
  rw [hgoals] at hmaximal
  obtain ⟨goal, hgoal, hnear⟩ := hmaximal (by decide) (1 / 2, 0) (by decide +kernel)
  rw [List.mem_singleton.mp hgoal] at hnear
  exact absurd hnear (by decide +kernel)

section Grid

theorem mem_grid {cell : Cell} : cell ∈ snapshot.grid ↔ snapshot.Contains cell := by
  obtain ⟨column, row⟩ := cell
  rw [OccupancySnapshot.grid, OccupancySnapshot.Contains, List.mem_flatMap]
  constructor
  · rintro ⟨row', hrow, hcell⟩
    obtain ⟨column', hcolumn, heq⟩ := List.mem_map.mp hcell
    obtain ⟨rfl, rfl⟩ := Prod.mk.inj heq
    exact ⟨Int.mem_range_iff.mp hcolumn, Int.mem_range_iff.mp hrow⟩
  · rintro ⟨hcolumn, hrow⟩
    exact ⟨row, Int.mem_range_iff.mpr hrow,
      List.mem_map.mpr ⟨column, Int.mem_range_iff.mpr hcolumn, rfl⟩⟩

theorem mem_knownFree {cell : Cell} :
    cell ∈ snapshot.grid.filter (snapshot.value · = 0) ↔ snapshot.Free cell := by
  rw [List.mem_filter, mem_grid, decide_eq_true_eq]
  rfl

theorem range_nodup (a b : ℤ) : (Int.range a b).Nodup := by
  refine (List.nodup_range).map fun i j hij ↦ ?_
  omega

theorem grid_nodup : snapshot.grid.Nodup := by
  refine List.nodup_flatMap.mpr ⟨fun row _ ↦ ?_, ?_⟩
  · exact (range_nodup _ _).map fun i j hij ↦ (Prod.mk.inj hij).1
  · refine (range_nodup _ _).imp fun {row row'} hne cell hcell hcell' ↦ hne ?_
    obtain ⟨column, -, rfl⟩ := List.mem_map.mp hcell
    obtain ⟨column', -, heq⟩ := List.mem_map.mp hcell'
    exact (Prod.mk.inj heq).2.symm

variable [IsStrictOrderedRing K]

theorem cellCenter_injective : Function.Injective snapshot.cellCenter := by
  have hcoordinate : ∀ (o : K) (z z' : ℤ), o + (z + 1 / 2) * snapshot.resolution =
      o + (z' + 1 / 2) * snapshot.resolution → z = z' := by
    intro o z z' heq
    have hmul := mul_right_cancel₀ snapshot.resolution_pos.ne' (add_left_cancel heq)
    exact Int.cast_injective (add_right_cancel hmul)
  intro cell cell' heq
  obtain ⟨hcolumn, hrow⟩ := Prod.mk.inj heq
  exact Prod.ext (hcoordinate _ _ _ hcolumn) (hcoordinate _ _ _ hrow)

theorem abs_le_hypot (hexact : Exact hypot) (x y : K) : |x| ≤ hypot x y ∧ |y| ≤ hypot x y := by
  have hsq := hexact.sq x y
  have hx := sq_nonneg x
  have hy := sq_nonneg y
  exact ⟨abs_le_of_sq_le_sq (by linarith) (hexact.nonneg x y),
    abs_le_of_sq_le_sq (by linarith) (hexact.nonneg x y)⟩

theorem hypot_mono (hexact : Exact hypot) {a b x y : K} (ha : 0 ≤ a) (hb : 0 ≤ b) (hx : a ≤ |x|)
    (hy : b ≤ |y|) : hypot a b ≤ hypot x y := by
  refine (sq_le_sq₀ (hexact.nonneg _ _) (hexact.nonneg _ _)).mp ?_
  rw [hexact.sq, hexact.sq, ← sq_abs x, ← sq_abs y]
  gcongr

variable [FloorRing K]

theorem offset_le {o r q : K} (hr : 0 < r) (column : ℤ) :
    ((|⌊(q - o) / r⌋ - column| : ℤ) - 1 / 2 : K) * r ≤ |q - (o + (column + 1 / 2) * r)| := by
  have hq : q - (o + (column + 1 / 2) * r) = ((q - o) / r - column - 1 / 2) * r := by
    field_simp
    ring
  rw [hq, abs_mul, abs_of_pos hr]
  refine mul_le_mul_of_nonneg_right ?_ hr.le
  have hle := Int.floor_le ((q - o) / r)
  have hlt := Int.lt_floor_add_one ((q - o) / r)
  rw [Int.cast_abs, Int.cast_sub]
  rcases abs_cases ((⌊(q - o) / r⌋ : K) - column) with ⟨habs, -⟩ | ⟨habs, -⟩
  · rw [habs]
    exact le_trans (by linarith) (le_abs_self _)
  · rw [habs]
    exact le_trans (by linarith) (neg_le_abs _)

variable {clearance : K} {offsets : List Cell}

theorem mem_clearanceOffsets (hexact : Exact hypot)
    (h : clearanceOffsets hypot snapshot.resolution clearance = .ok offsets) {cell : Cell}
    {point : Point2D K} (hpoint : distance hypot point (snapshot.cellCenter cell) ≤ clearance) :
    ((snapshot.cellOf point).1 - cell.1, (snapshot.cellOf point).2 - cell.2) ∈ offsets := by
  rw [clearanceOffsets] at h
  split_ifs at h with hnegative
  obtain rfl := Except.ok.inj h
  have hr := snapshot.resolution_pos
  have hcolumn := offset_le (o := snapshot.origin.1) (q := point.1) hr cell.1
  have hrow := offset_le (o := snapshot.origin.2) (q := point.2) hr cell.2
  obtain ⟨hx, hy⟩ := abs_le_hypot hexact (point.1 - (snapshot.cellCenter cell).1)
    (point.2 - (snapshot.cellCenter cell).2)
  have hradius : ∀ z : ℤ, ((|z| : ℤ) - 1 / 2 : K) * snapshot.resolution ≤ clearance →
      z ∈ Int.range (-⌈clearance / snapshot.resolution + 1 / 2⌉)
        (⌈clearance / snapshot.resolution + 1 / 2⌉ + 1) := by
    intro z hz
    have hle : ((|z| : ℤ) : K) ≤ clearance / snapshot.resolution + 1 / 2 := by
      linarith [(le_div_iff₀ hr).mpr hz]
    have habs : |z| ≤ ⌈clearance / snapshot.resolution + 1 / 2⌉ :=
      Int.cast_le.mp (hle.trans (Int.le_ceil _))
    obtain ⟨hlow, hhigh⟩ := abs_le.mp habs
    exact Int.mem_range_iff.mpr ⟨hlow, by omega⟩
  refine List.mem_filter.mpr ⟨List.mem_flatMap.mpr ⟨_, ?_, List.mem_map.mpr ⟨_, ?_, rfl⟩⟩, ?_⟩
  · exact hradius _ ((hrow.trans hy).trans hpoint)
  · exact hradius _ ((hcolumn.trans hx).trans hpoint)
  · refine decide_eq_true ?_
    have hmono := hypot_mono hexact (le_max_left _ _) (le_max_left _ _)
      (max_le (abs_nonneg _) hcolumn) (max_le (abs_nonneg _) hrow)
    have htolerance : (0 : K) ≤ max (1 / 10 ^ 12) (snapshot.resolution * (1 / 10 ^ 9)) :=
      le_max_of_le_left (by positivity)
    exact (hmono.trans hpoint).trans (le_add_of_nonneg_right htolerance)

omit [IsStrictOrderedRing K] [FloorRing K] in
theorem free_of_clear {cell : Cell} (h : Clear snapshot offsets cell) {other : Cell}
    (hother : (other.1 - cell.1, other.2 - cell.2) ∈ offsets) : snapshot.Free other := by
  have hfree := h _ hother
  rwa [add_sub_cancel, add_sub_cancel] at hfree

def Cleared (hypot : K → K → K) (snapshot : OccupancySnapshot K) (clearance : K) (cell : Cell) :
    Prop :=
  ∀ point, distance hypot point (snapshot.cellCenter cell) ≤ clearance →
    snapshot.Free (snapshot.cellOf point)

theorem safeFreeCells_cleared (hexact : Exact hypot) {goalSafe : List Cell}
    (h : safeFreeCells hypot snapshot clearance = .ok goalSafe) :
    goalSafe.Nodup ∧ ∀ cell ∈ goalSafe, Cleared hypot snapshot clearance cell := by
  obtain ⟨offsets, hoffsets, hgoalSafe⟩ := exists_ok_of_bind h
  obtain rfl := Except.ok.inj hgoalSafe
  refine ⟨grid_nodup.filter _, fun cell hcell point hpoint ↦ ?_⟩
  obtain ⟨-, hclear⟩ := of_decide_eq_true (List.mem_filter.mp hcell).2
  exact free_of_clear hclear (mem_clearanceOffsets hexact hoffsets hpoint)

end Grid

variable [IsStrictOrderedRing K] (rng : Shuffle (Point2D K)) (candidates : List (Point2D K))
  (startXy : Point2D K) (candidateLimit seed : ℤ) (minimumSeparation : K)

omit [IsStrictOrderedRing K] in
theorem rankFarthestGoals_mem {goal : Point2D K}
    (h : goal ∈ rankFarthestGoals hypot rng candidates startXy candidateLimit seed
      minimumSeparation) : goal ∈ candidates := by
  obtain ⟨k, -, hgoals⟩ := rankFarthestGoals_eq hypot rng candidates startXy candidateLimit
    seed minimumSeparation
  rw [hgoals] at h
  exact (farthestOrder_perm hypot rng candidates startXy seed).mem_iff.mp (List.mem_of_mem_take h)

theorem rankFarthestGoals_apart (hexact : Exact hypot) (hnodup : candidates.Nodup) :
    (rankFarthestGoals hypot rng candidates startXy candidateLimit seed
      minimumSeparation).Pairwise fun a b ↦
        a ≠ b ∧ minimumSeparation - 1 / 10 ^ 12 ≤ distance hypot a b := by
  obtain ⟨k, hstops, hgoals⟩ := rankFarthestGoals_eq hypot rng candidates startXy candidateLimit
    seed minimumSeparation
  rw [hgoals]
  have horder := (farthestOrder_perm hypot rng candidates startXy seed).nodup_iff.mpr
    hnodup
  have hdistinct : ((farthestOrder hypot rng candidates startXy seed).take k).Pairwise (· ≠ ·) :=
    horder.sublist (List.take_sublist _ _)
  refine hdistinct.and ((hstops.pairwise (tooNear_downward minimumSeparation)).imp ?_)
  intro a b hnear
  have hge := not_lt.mp (of_decide_eq_false hnear)
  have hcomm : distance hypot b a = distance hypot a b := by
    refine (sq_eq_sq₀ (hexact.nonneg _ _) (hexact.nonneg _ _)).mp ?_
    rw [hexact.sq, hexact.sq]
    ring
  rw [hcomm] at hge
  exact sub_le_iff_le_add.mpr hge

omit [IsStrictOrderedRing K] in
theorem rankFarthestGoals_length (hlimit : 0 ≤ candidateLimit) :
    ((rankFarthestGoals hypot rng candidates startXy candidateLimit seed
      minimumSeparation).length : ℤ) ≤ candidateLimit := by
  obtain ⟨k, hstops, hgoals⟩ := rankFarthestGoals_eq hypot rng candidates startXy candidateLimit
    seed minimumSeparation
  have hle := hstops.le
  rw [hgoals, List.length_take]
  omega

variable [FloorRing K] {rng candidates startXy candidateLimit seed minimumSeparation}
  {clearance : K} {goals : List (Point2D K)}

/-- What is promised of the sampled goals. -/
structure Sampled (hypot : K → K → K) (snapshot : OccupancySnapshot K) (start : Cell)
    (minimumSeparation clearance : K) (candidateLimit : ℤ) (goals : List (Point2D K)) :
    Prop where
  safe : ∀ goal ∈ goals, ∃ cell, goal = snapshot.cellCenter cell ∧
    ReflTransGen (fun a b ↦ b ∈ neighbors a ∧ snapshot.Free b) start cell ∧
      Cleared hypot snapshot clearance cell
  apart : goals.Pairwise fun a b ↦
    a ≠ b ∧ minimumSeparation - 1 / 10 ^ 12 ≤ distance hypot a b
  length_le : (goals.length : ℤ) ≤ candidateLimit

theorem rankMappedGoalCandidates_sampled (hexact : Exact hypot)
    (h : rankMappedGoalCandidates hypot snapshot rng startXy seed minimumSeparation clearance
      candidateLimit = .ok goals) : snapshot.Free (snapshot.cellOf startXy) ∧
      Sampled hypot snapshot (snapshot.cellOf startXy) minimumSeparation clearance candidateLimit
        goals := by
  rw [rankMappedGoalCandidates, OccupancySnapshot.worldToCell] at h
  split_ifs at h with hlimit hseparation hinside
  dsimp only at h
  split_ifs at h with hvalue
  cases hsafe : safeFreeCells hypot snapshot clearance with
  | error e =>
    rw [hsafe] at h
    cases h
  | ok goalSafe =>
    rw [hsafe] at h
    obtain rfl := Except.ok.inj h
    obtain ⟨hnodup, hcleared⟩ := safeFreeCells_cleared hexact hsafe
    refine ⟨⟨hinside, not_not.mp hvalue⟩, fun goal hgoal ↦ ?_, ?_, ?_⟩
    · obtain ⟨cell, hcell, rfl⟩ := List.mem_map.mp (rankFarthestGoals_mem _ _ _ _ _ _ hgoal)
      obtain ⟨hcell, hreachable⟩ := List.mem_filter.mp
        ((List.mem_insertionSort _).mp (List.mem_of_mem_filter hcell))
      refine ⟨cell, rfl, ?_, hcleared cell hcell⟩
      refine ReflTransGen.mono (fun a b hstep ↦ ?_) _ _
        (Flood.mem_component.mp (of_decide_eq_true hreachable))
      exact ⟨hstep.1, mem_knownFree.mp hstep.2⟩
    · refine rankFarthestGoals_apart _ _ _ _ _ _ hexact ?_
      refine List.Nodup.map cellCenter_injective (List.Nodup.filter _ ?_)
      exact (List.perm_insertionSort _ _).nodup_iff.mpr (hnodup.filter _)
    · exact rankFarthestGoals_length _ _ _ _ _ _ (le_of_not_ge hlimit)

noncomputable section Halls

theorem hall_width : 0 < 4 := Nat.succ_pos 3

theorem hall_height : 0 < 3 := Nat.succ_pos 2

/-- A hall of three rows, open to the border. -/
def hall : OccupancySnapshot ℝ where
  width := 4
  height := 3
  resolution := 1
  origin := (0, 0)
  cells := List.replicate 12 0
  width_pos := hall_width
  height_pos := hall_height
  resolution_pos := Real.zero_lt_one
  cells_length := rfl

def rootHypot (x y : ℝ) : ℝ := √(x ^ 2 + y ^ 2)

theorem rootHypot_zero {x : ℝ} (hx : 0 ≤ x) : rootHypot x 0 = x ∧ rootHypot 0 x = x := by
  simp [rootHypot, Real.sqrt_sq hx]

theorem half_diagonal :
    ¬rootHypot (1 / 2) (1 / 2) ≤ 1 / 2 + max (1 / 10 ^ 12) (1 * (1 / 10 ^ 9)) := by
  rw [not_le, rootHypot]
  refine Real.lt_sqrt_of_sq_lt ?_
  norm_num

theorem hall_offsets : clearanceOffsets rootHypot hall.resolution (1 / 2) =
    .ok [(0, -1), (-1, 0), (0, 0), (1, 0), (0, 1)] := by
  have hradius : ⌈(1 / 2 : ℝ) / 1 + 1 / 2⌉ = 1 := by norm_num
  have hsquare : ((Int.range (-1) (1 + 1)).flatMap fun rowDelta ↦
      (Int.range (-1) (1 + 1)).map fun columnDelta ↦ ((columnDelta, rowDelta) : Cell)) =
        [(-1, -1), (0, -1), (1, -1), (-1, 0), (0, 0), (1, 0), (-1, 1), (0, 1), (1, 1)] := by
    decide
  have hresolution : hall.resolution = 1 := rfl
  rw [clearanceOffsets, if_neg (by norm_num), hresolution, hradius]
  dsimp only
  rw [hsquare]
  have hnone : max 0 ((((|0| : ℤ) : ℝ) - 1 / 2) * 1) = 0 := by norm_num
  have hright : max 0 ((((|1| : ℤ) : ℝ) - 1 / 2) * 1) = 1 / 2 := by norm_num
  have hleft : max 0 ((((|-1| : ℤ) : ℝ) - 1 / 2) * 1) = 1 / 2 := by norm_num
  have hedge := rootHypot_zero (x := 1 / 2) (by norm_num)
  have hcenter := rootHypot_zero (x := 0) le_rfl
  have hnear : (1 / 2 : ℝ) ≤ 1 / 2 + max (1 / 10 ^ 12) (1 * (1 / 10 ^ 9)) := by norm_num
  have hzero : (0 : ℝ) ≤ 1 / 2 + max (1 / 10 ^ 12) (1 * (1 / 10 ^ 9)) := by norm_num
  simp only [List.filter_cons, hnone, hright, hleft, hedge.1, hedge.2, hcenter.1, hnear, hzero,
    half_diagonal, decide_true, decide_false, if_true, List.filter_nil, Bool.false_eq_true,
    if_false]

/-- Only the two cells inside have the clearance. -/
theorem hall_candidates :
    ((((hall.grid.filter fun cell ↦ hall.value cell = 0 ∧
      Clear hall [(0, -1), (-1, 0), (0, 0), (1, 0), (0, 1)] cell).filter
        (· ∈ connectedComponent (0, 1) (hall.grid.filter (hall.value · = 0)))).insertionSort
          cellLe).filter (· ≠ (0, 1))) = [(1, 1), (2, 1)] := by
  decide +kernel

theorem hall_ranked : rankFarthestGoals rootHypot (unshuffled _)
    ([(1, 1), (2, 1)].map hall.cellCenter) (1 / 2, 3 / 2) 2 7 1 =
      [hall.cellCenter (2, 1), hall.cellCenter (1, 1)] := by
  have hnear : distance rootHypot (hall.cellCenter (1, 1)) (1 / 2, 3 / 2) = 1 := by
    norm_num [distance, OccupancySnapshot.cellCenter, hall, rootHypot]
  have hfar : distance rootHypot (hall.cellCenter (2, 1)) (1 / 2, 3 / 2) = 2 := by
    have hdelta : distance rootHypot (hall.cellCenter (2, 1)) (1 / 2, 3 / 2) = rootHypot 2 0 := by
      norm_num [distance, OccupancySnapshot.cellCenter, hall]
    rw [hdelta, (rootHypot_zero zero_le_two).1]
  have hapart : distance rootHypot (hall.cellCenter (1, 1)) (hall.cellCenter (2, 1)) = 1 := by
    norm_num [distance, OccupancySnapshot.cellCenter, hall, rootHypot]
  have hne : hall.cellCenter (1, 1) ≠ hall.cellCenter (2, 1) := by
    norm_num [OccupancySnapshot.cellCenter, hall]
  rw [rankFarthestGoals, unshuffled]
  generalize ((1 / 2 : ℝ), (3 / 2 : ℝ)) = start at hnear hfar ⊢
  simp [FarthestFirst.select, FarthestFirst.gap, FarthestFirst.crowded, List.argmax_cons, hnear,
    hfar, hapart, hne, tooNear]

theorem hall_sampled : rankMappedGoalCandidates rootHypot hall (unshuffled _) (1 / 2, 3 / 2) 7 1
      (1 / 2) 2 = .ok [hall.cellCenter (2, 1), hall.cellCenter (1, 1)] ∧
    Sampled rootHypot hall (0, 1) 1 (1 / 2) 2 [hall.cellCenter (2, 1), hall.cellCenter (1, 1)] := by
  have hstart : hall.cellOf (1 / 2, 3 / 2) = (0, 1) := by
    have hcolumn : ⌊(1 / 2 : ℝ)⌋ = 0 := by
      rw [Int.floor_eq_zero_iff]
      norm_num
    have hrow : ⌊(3 / 2 : ℝ)⌋ = 1 := by
      rw [Int.floor_eq_iff]
      norm_num
    simp only [OccupancySnapshot.cellOf, hall, sub_zero, div_one, hcolumn, hrow]
  have hcontains : hall.Contains (0, 1) := by decide
  have hfree : hall.value (0, 1) = 0 := by decide
  have hgoals : rankMappedGoalCandidates rootHypot hall (unshuffled _) (1 / 2, 3 / 2) 7 1
      (1 / 2) 2 = .ok [hall.cellCenter (2, 1), hall.cellCenter (1, 1)] := by
    rw [rankMappedGoalCandidates, if_neg (by norm_num), if_neg (by norm_num),
      OccupancySnapshot.worldToCell, hstart, if_pos hcontains]
    dsimp only
    rw [if_neg (not_not.mpr hfree), safeFreeCells, hall_offsets]
    refine congrArg Except.ok ?_
    rw [hall_candidates, hall_ranked]
  refine ⟨hgoals, ?_⟩
  have hsampled := (rankMappedGoalCandidates_sampled sqrt_exact hgoals).2
  rwa [hstart] at hsampled

end Halls

end EmbodiedAgent.Slam.MappedGoalSampler
