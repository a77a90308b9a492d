import EmbodiedAgent.Library.Arithmetic
import EmbodiedAgent.Library.SpatialHash
import EmbodiedAgent.Slam.PlanarPose

namespace EmbodiedAgent.Slam.ScanOverlap

open Library Planar

section Model

structure GridKey where
  x : ℤ
  y : ℤ
  deriving DecidableEq

abbrev SpatialGrid (K : Type) := GridKey → Option (List (Point K))

structure ScanOverlapConfig (K : Type) where
  matchDistanceM : K
  pointStride : ℕ := 2
  minimumPoints : ℕ := 30

structure ScanOverlapResult (K : Type) where
  available : Bool := false
  overlapRatio : K
  sourcePoints : ℕ
  targetPoints : ℕ
  sourceMatches : ℕ := 0
  targetMatches : ℕ := 0

variable {K : Type} [Field K] [LinearOrder K]

def sampleFinite [Extended K] (input : List (Point K)) (stride : ℕ) : List (Point K) :=
  (input.zipIdx.filter fun entry ↦ entry.2 % stride = 0 && Extended.isFinite entry.1.x &&
    Extended.isFinite entry.1.y).map Prod.fst

def transformTarget (trig : Trigonometry K) (target : List (Point K))
    (sourceToTarget : Planar.Pose2d K) : List (Point K) :=
  target.map (transformPoint trig sourceToTarget)

def squaredDistance (p q : Point K) : K :=
  (p.x - q.x) * (p.x - q.x) + (p.y - q.y) * (p.y - q.y)

variable [FloorRing K]

def gridKey (cellSize : K) (point : Point K) : GridKey :=
  { x := ⌊point.x / cellSize⌋
    y := ⌊point.y / cellSize⌋ }

def buildGrid (points : List (Point K)) (cellSize : K) : SpatialGrid K :=
  SpatialHash.build (gridKey cellSize) points

/-- `for (dx = -1; dx <= 1; ++dx)` -/
def offsets : List ℤ := [-1, 0, 1]

def neighbor (center : GridKey) (dx dy : ℤ) : GridKey := ⟨center.x + dx, center.y + dy⟩

/-- What the loops over the cells around a point leave in `matched`. -/
def matched (reference : SpatialGrid K) (matchDistance : K) (point : Point K) : Bool :=
  let center := gridKey matchDistance point
  SpatialHash.untilHit (fun dx ↦
    SpatialHash.untilHit (fun dy ↦
      match reference (neighbor center dx dy) with
      | none => false
      | some cell => SpatialHash.untilHit (fun candidate ↦
          squaredDistance point candidate < matchDistance * matchDistance) false cell)
      false offsets) false offsets

def countMatches (query : List (Point K)) (reference : SpatialGrid K) (matchDistance : K) : ℕ :=
  query.foldl (fun count point ↦
    count + if matched reference matchDistance point then 1 else 0) 0

variable [Extended K] (trig : Trigonometry K)

def evaluateScanOverlap (source target : List (Point K)) (sourceToTarget : Planar.Pose2d K)
    (config : ScanOverlapConfig K) : Except String (ScanOverlapResult K) :=
  if ¬ 0 < config.matchDistanceM ∨ !Extended.isFinite config.matchDistanceM ∨
      config.pointStride = 0 ∨ config.minimumPoints = 0 then
    .error "scan-overlap configuration must be finite and positive"
  else
    let sampledSource := sampleFinite source config.pointStride
    let sampledTarget := sampleFinite target config.pointStride
    if sampledSource.length < config.minimumPoints ∨
        sampledTarget.length < config.minimumPoints then
      .ok
        { overlapRatio := 0
          sourcePoints := sampledSource.length
          targetPoints := sampledTarget.length }
    else
      let transformedTarget := transformTarget trig sampledTarget sourceToTarget
      let sourceGrid := buildGrid sampledSource config.matchDistanceM
      let targetGrid := buildGrid transformedTarget config.matchDistanceM
      let sourceMatches := countMatches sampledSource targetGrid config.matchDistanceM
      let targetMatches := countMatches transformedTarget sourceGrid config.matchDistanceM
      .ok
        { available := true
          overlapRatio := (1 + 1)⁻¹ * ((sourceMatches : K) / (sampledSource.length : K) +
            (targetMatches : K) / (sampledTarget.length : K))
          sourcePoints := sampledSource.length
          targetPoints := sampledTarget.length
          sourceMatches
          targetMatches }

end Model

section Neighbors

variable {K : Type} [Field K] [LinearOrder K] [IsStrictOrderedRing K] {p q : Point K}
  {distance : K}

omit [LinearOrder K] [IsStrictOrderedRing K] in
theorem squaredDistance_self (p : Point K) : squaredDistance p p = 0 := by
  simp [squaredDistance]

theorem abs_sub_le (hdistance : 0 < distance)
    (h : squaredDistance p q ≤ distance * distance) :
    |p.x - q.x| ≤ distance ∧ |p.y - q.y| ≤ distance := by
  rw [squaredDistance] at h
  constructor
  · refine abs_le_of_sq_le_sq ?_ hdistance.le
    nlinarith [mul_self_nonneg (p.y - q.y)]
  · refine abs_le_of_sq_le_sq ?_ hdistance.le
    nlinarith [mul_self_nonneg (p.x - q.x)]

variable [FloorRing K]

theorem exists_neighbor (hdistance : 0 < distance) (h : squaredDistance p q ≤ distance * distance) :
    ∃ dx ∈ offsets, ∃ dy ∈ offsets, neighbor (gridKey distance p) dx dy = gridKey distance q := by
  obtain ⟨hx, hy⟩ := abs_sub_le hdistance h
  refine ⟨_, SpatialHash.floor_sub_mem hdistance hx, _, SpatialHash.floor_sub_mem hdistance hy, ?_⟩
  simp [neighbor, gridKey]

def candidates (points : List (Point K)) (distance : K) (center : GridKey) : List (Point K) :=
  offsets.flatMap fun dx ↦ offsets.flatMap fun dy ↦
    (buildGrid points distance (neighbor center dx dy)).getD []

omit [IsStrictOrderedRing K] in
theorem mem_of_mem_candidates {points : List (Point K)} {center : GridKey}
    (h : q ∈ candidates points distance center) : q ∈ points := by
  simp only [candidates, List.mem_flatMap] at h
  obtain ⟨dx, -, dy, -, hmem⟩ := h
  exact ((SpatialHash.mem_build _).mp hmem).1

theorem mem_candidates {points : List (Point K)} (hdistance : 0 < distance)
    (h : squaredDistance p q ≤ distance * distance) (hq : q ∈ points) :
    q ∈ candidates points distance (gridKey distance p) := by
  obtain ⟨dx, hdx, dy, hdy, hkey⟩ := exists_neighbor hdistance h
  simp only [candidates, List.mem_flatMap]
  exact ⟨dx, hdx, dy, hdy, (SpatialHash.mem_build _).mpr ⟨hq, hkey⟩⟩

end Neighbors

section Matches

variable {K : Type} [Field K] [LinearOrder K] [FloorRing K] {distance : K} {p : Point K}

theorem matched_eq (points : List (Point K)) (p : Point K) :
    matched (buildGrid points distance) distance p =
      (candidates points distance (gridKey distance p)).any fun q ↦
        squaredDistance p q < distance * distance := by
  simp only [matched, SpatialHash.untilHit_eq, Bool.false_or, candidates, List.any_flatMap]
  refine congrArg (List.any offsets) (funext fun dx ↦ ?_)
  refine congrArg (List.any offsets) (funext fun dy ↦ ?_)
  cases buildGrid points distance (neighbor (gridKey distance p) dx dy) <;> rfl

theorem countMatches_eq (query : List (Point K)) (reference : SpatialGrid K) :
    countMatches query reference distance = query.countP (matched reference distance) := by
  have hfold : ∀ n, query.foldl (fun count point ↦
      count + if matched reference distance point then 1 else 0) n =
        n + query.countP (matched reference distance) := by
    induction query with
    | nil => simp
    | cons p query ih =>
      intro n
      rw [List.foldl_cons, ih, List.countP_cons]
      omega
  rw [countMatches, hfold, Nat.zero_add]

theorem countMatches_le (query : List (Point K)) (reference : SpatialGrid K) (distance : K) :
    countMatches query reference distance ≤ query.length := by
  rw [countMatches_eq]
  exact List.countP_le_length

variable [IsStrictOrderedRing K]

theorem matched_iff (hdistance : 0 < distance) (points : List (Point K)) :
    matched (buildGrid points distance) distance p = true ↔
      ∃ q ∈ points, squaredDistance p q < distance * distance := by
  rw [matched_eq, List.any_eq_true]
  constructor
  · rintro ⟨q, hq, hlt⟩
    exact ⟨q, mem_of_mem_candidates hq, of_decide_eq_true hlt⟩
  · rintro ⟨q, hq, hlt⟩
    exact ⟨q, mem_candidates hdistance hlt.le hq, decide_eq_true hlt⟩

theorem countMatches_brute (hdistance : 0 < distance) (query points : List (Point K)) :
    countMatches query (buildGrid points distance) distance =
      query.countP fun p ↦ ∃ q ∈ points, squaredDistance p q < distance * distance := by
  rw [countMatches_eq]
  refine List.countP_congr ?_
  intro p _
  rw [matched_iff hdistance, decide_eq_true_iff]

theorem countMatches_self (hdistance : 0 < distance) (points : List (Point K)) :
    countMatches points (buildGrid points distance) distance = points.length := by
  rw [countMatches_brute hdistance, List.countP_eq_length]
  intro p hp
  rw [decide_eq_true_iff]
  exact ⟨p, hp, by rw [squaredDistance_self]; exact mul_pos hdistance hdistance⟩

end Matches

variable {K : Type} [Field K] [LinearOrder K] [IsStrictOrderedRing K]

theorem fraction_range {count size : ℕ} (hle : count ≤ size) :
    0 ≤ (count : K) / (size : K) ∧ (count : K) / (size : K) ≤ 1 := by
  refine ⟨div_nonneg (Nat.cast_nonneg _) (Nat.cast_nonneg _), ?_⟩
  exact div_le_one_of_le₀ (Nat.cast_le.mpr hle) (Nat.cast_nonneg _)

theorem half_mul_range {a b : K} (ha : 0 ≤ a ∧ a ≤ 1) (hb : 0 ≤ b ∧ b ≤ 1) :
    0 ≤ ((1 : K) + 1)⁻¹ * (a + b) ∧ ((1 : K) + 1)⁻¹ * (a + b) ≤ 1 := by
  have htwo : (0 : K) < 1 + 1 := by linarith [zero_lt_one (α := K)]
  refine ⟨mul_nonneg (inv_nonneg.mpr htwo.le) (add_nonneg ha.1 hb.1), ?_⟩
  rw [inv_mul_le_iff₀ htwo, mul_one]
  exact add_le_add ha.2 hb.2

theorem transformTarget_identity (trig : Trigonometry K) (points : List (Point K)) :
    transformTarget trig points ⟨0, 0, 0⟩ = points := by
  rw [transformTarget, transformPoint_identity, List.map_id]

variable [FloorRing K] [Extended K]
  {trig : Trigonometry K} {source target scan : List (Point K)} {sourceToTarget : Planar.Pose2d K}
  {config : ScanOverlapConfig K} {result : ScanOverlapResult K}

omit [IsStrictOrderedRing K] in
variable (trig source target sourceToTarget config) in
theorem evaluateScanOverlap_ok (hdistance : 0 < config.matchDistanceM)
    (hfinite : Extended.isFinite config.matchDistanceM = true) (hstride : config.pointStride ≠ 0)
    (hpoints : config.minimumPoints ≠ 0) :
    ∃ result, evaluateScanOverlap trig source target sourceToTarget config = .ok result := by
  unfold evaluateScanOverlap
  rw [if_neg (by simp [hdistance, hfinite, hstride, hpoints])]
  dsimp only
  split_ifs
  · exact ⟨_, rfl⟩
  · exact ⟨_, rfl⟩

theorem overlapRatio_range
    (h : evaluateScanOverlap trig source target sourceToTarget config = .ok result) :
    0 ≤ result.overlapRatio ∧ result.overlapRatio ≤ 1 := by
  unfold evaluateScanOverlap at h
  dsimp only at h
  split_ifs at h
  · cases h
    exact ⟨le_rfl, zero_le_one⟩
  · cases h
    refine half_mul_range (fraction_range (countMatches_le _ _ _)) (fraction_range ?_)
    have hle := countMatches_le (transformTarget trig (sampleFinite target config.pointStride)
      sourceToTarget) (buildGrid (sampleFinite source config.pointStride) config.matchDistanceM)
      config.matchDistanceM
    rwa [transformTarget, List.length_map] at hle

theorem overlapRatio_self (h : evaluateScanOverlap trig scan scan ⟨0, 0, 0⟩ config = .ok result)
    (havailable : result.available = true) : result.overlapRatio = 1 := by
  unfold evaluateScanOverlap at h
  dsimp only at h
  split_ifs at h with hconfig hfew
  · cases h
    cases havailable
  · cases h
    push Not at hconfig hfew
    obtain ⟨hdistance, -, -, hminimum⟩ := hconfig
    have hsize : ((sampleFinite scan config.pointStride).length : K) ≠ 0 := by
      rw [Nat.cast_ne_zero]
      omega
    have htwo : (1 : K) + 1 ≠ 0 := by linarith [zero_lt_one (α := K)]
    dsimp only
    rw [transformTarget_identity, countMatches_self hdistance, div_self hsize,
      inv_mul_cancel₀ htwo]

end EmbodiedAgent.Slam.ScanOverlap
