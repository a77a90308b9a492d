import EmbodiedAgent.Slam.ScanCorrespondences

namespace EmbodiedAgent.Slam.ScanMatcher

open Library Planar ScanOverlap

section Model

structure LidarScanMatcherConfig (K : Type) where
  pointStride : ℕ := 2
  minimumPoints : ℕ := 30
  coarseIterations : ℕ := 12
  fineIterations : ℕ := 20
  coarseMaxCorrespondenceM : K
  fineMaxCorrespondenceM : K
  trimFraction : K
  translationToleranceM : K
  rotationToleranceRad : K
  maximumTranslationM : K
  minimumInlierRatio : K
  maximumRmseM : K
  minimumObservabilityRatio : K
  ambiguityOverlapTolerance : K
  ambiguityRmseToleranceM : K
  minimumAmbiguousYawSeparationRad : K
  maximumPriorYawDeviationRad : K
  gatePriorTranslation : Bool := false
  maximumPriorTranslationDeviationM : K

def decimal {K : Type} [Field K] (digits places : ℕ) : K :=
  (digits : K) / ((10 ^ places : ℕ) : K)

/-- `LidarScanMatcherConfig{}` -/
def defaultConfig {K : Type} [Field K] : LidarScanMatcherConfig K where
  coarseMaxCorrespondenceM := decimal 10 1
  fineMaxCorrespondenceM := decimal 25 2
  trimFraction := decimal 80 2
  translationToleranceM := decimal 1 4
  rotationToleranceRad := decimal 1 4
  maximumTranslationM := decimal 20 1
  minimumInlierRatio := decimal 35 2
  maximumRmseM := decimal 18 2
  minimumObservabilityRatio := decimal 5 3
  ambiguityOverlapTolerance := decimal 3 2
  ambiguityRmseToleranceM := decimal 2 2
  minimumAmbiguousYawSeparationRad := decimal 10 1
  maximumPriorYawDeviationRad := decimal 8 1
  maximumPriorTranslationDeviationM := decimal 30 1

structure IterationResult (K : Type) where
  pose : Planar.Pose2d K
  available : Bool := false
  converged : Bool := false
  iterations : ℕ := 0

/-- What the solver calls: `std::sort` may arrange equally near pairs in any way. -/
structure Numerics (K : Type) [Field K] [LinearOrder K] extends Polar K where
  sort : List (Correspondence K) → List (Correspondence K)
  sort_perm : ∀ pairs, (sort pairs).Perm pairs
  sort_pairwise : ∀ pairs,
    (sort pairs).Pairwise fun left right ↦ left.squaredDistance ≤ right.squaredDistance

noncomputable def realNumerics : Numerics ℝ where
  toPolar := realPolar
  sort := List.insertionSort fun left right ↦ left.squaredDistance ≤ right.squaredDistance
  sort_perm := List.perm_insertionSort _
  sort_pairwise pairs := List.pairwise_insertionSort _ pairs

variable {K : Type} [Field K]

def centroid (points : List (Point K)) : Point K :=
  { x := (points.map Point.x).sum / (points.length : K)
    y := (points.map Point.y).sum / (points.length : K) }

variable [LinearOrder K] (num : Numerics K)

def alignCentroids (fixed moving : Point K) (turn yaw : K) : Planar.Pose2d K :=
  { x := fixed.x - (num.cos turn * moving.x - num.sin turn * moving.y)
    y := fixed.y - (num.sin turn * moving.x + num.cos turn * moving.y)
    yaw }

def estimateIncrement (correspondences : List (Correspondence K)) : Planar.Pose2d K :=
  let movingCentroid := centroid (correspondences.map Correspondence.moving)
  let fixedCentroid := centroid (correspondences.map Correspondence.fixed)
  let dot := (correspondences.map fun c ↦
    (c.moving.x - movingCentroid.x) * (c.fixed.x - fixedCentroid.x) +
      (c.moving.y - movingCentroid.y) * (c.fixed.y - fixedCentroid.y)).sum
  let cross := (correspondences.map fun c ↦
    (c.moving.x - movingCentroid.x) * (c.fixed.y - fixedCentroid.y) -
      (c.moving.y - movingCentroid.y) * (c.fixed.x - fixedCentroid.x)).sum
  let yaw := num.atan2 cross dot
  alignCentroids num fixedCentroid movingCentroid yaw yaw

def observabilityRatio (correspondences : List (Correspondence K)) : K :=
  if correspondences.length < 3 then 0
  else
    let center := centroid (correspondences.map Correspondence.fixed)
    let xx := (correspondences.map fun c ↦
      (c.fixed.x - center.x) * (c.fixed.x - center.x)).sum
    let xy := (correspondences.map fun c ↦
      (c.fixed.x - center.x) * (c.fixed.y - center.y)).sum
    let yy := (correspondences.map fun c ↦
      (c.fixed.y - center.y) * (c.fixed.y - center.y)).sum
    let trace := xx + yy
    let discriminant := num.sqrt (max 0 ((xx - yy) * (xx - yy) + ((4 : ℕ) : K) * xy * xy))
    let maximum := (1 + 1)⁻¹ * (trace + discriminant)
    let minimum := (1 + 1)⁻¹ * (trace - discriminant)
    -- `std::numeric_limits<double>::epsilon()`
    if maximum ≤ ((2 ^ 52 : ℕ) : K)⁻¹ then 0 else minimum / maximum

def correspondenceRmse (correspondences : List (Correspondence K)) : WithTop K :=
  if correspondences.isEmpty then ⊤
  else (num.sqrt ((correspondences.map Correspondence.squaredDistance).sum /
    (correspondences.length : K)) : K)

variable [FloorRing K]

def centroidSeed (source target : List (Point K)) (yaw : K) : Planar.Pose2d K :=
  alignCentroids num (centroid source) (centroid target) yaw
    (normalizeAngle num.toTrigonometry yaw)

def trimmed (config : LidarScanMatcherConfig K) (correspondences : List (Correspondence K)) :
    List (Correspondence K) :=
  let trimmedCount := max config.minimumPoints
    ⌈config.trimFraction * (correspondences.length : K)⌉₊
  (num.sort correspondences).take (min trimmedCount correspondences.length)

def iterate (grid : SpatialGrid K) (target : List (Point K)) (maximumDistance : K)
    (config : LidarScanMatcherConfig K) : ℕ → IterationResult K → IterationResult K
  | 0, result => result
  | n + 1, result =>
    let correspondences := findCorrespondences num.toTrigonometry grid target result.pose
      maximumDistance
    if correspondences.length < config.minimumPoints then result
    else
      let increment := estimateIncrement num (trimmed num config correspondences)
      let next : IterationResult K :=
        { pose := compose num.toTrigonometry increment result.pose
          available := true
          iterations := result.iterations + 1 }
      if num.hypot increment.x increment.y ≤ config.translationToleranceM ∧
          |increment.yaw| ≤ config.rotationToleranceRad then
        { next with converged := true }
      else iterate grid target maximumDistance config n next

def iterateIcp (source target : List (Point K)) (initial : Planar.Pose2d K) (maximumDistance : K)
    (maximumIterations : ℕ) (config : LidarScanMatcherConfig K) : IterationResult K :=
  iterate num (buildGrid source maximumDistance) target maximumDistance config maximumIterations
    { pose := initial }

end Model

section Convergence

variable {K : Type} [Field K] [LinearOrder K] [FloorRing K]

def Settled (num : Numerics K) (source target : List (Point K)) (maximumDistance : K)
    (config : LidarScanMatcherConfig K) (pose : Planar.Pose2d K) : Prop :=
  ∃ previous : Planar.Pose2d K,
    let correspondences := findCorrespondences num.toTrigonometry
      (buildGrid source maximumDistance) target previous maximumDistance
    let increment := estimateIncrement num (trimmed num config correspondences)
    config.minimumPoints ≤ correspondences.length ∧
      pose = compose num.toTrigonometry increment previous ∧
      num.hypot increment.x increment.y ≤ config.translationToleranceM ∧
      |increment.yaw| ≤ config.rotationToleranceRad

variable {num : Numerics K} {source target : List (Point K)} {maximumDistance : K}
  {config : LidarScanMatcherConfig K}

theorem iterate_settled {n : ℕ} {result : IterationResult K} (hresult : result.converged = false)
    (h : (iterate num (buildGrid source maximumDistance) target maximumDistance config n
      result).converged = true) : Settled num source target maximumDistance config (iterate num
      (buildGrid source maximumDistance) target maximumDistance config n result).pose := by
  induction n generalizing result with
  | zero =>
    rw [iterate, hresult] at h
    cases h
  | succ n ih =>
    rw [iterate] at h ⊢
    dsimp only at h ⊢
    split_ifs at h ⊢ with hfew htolerance
    · rw [hresult] at h
      cases h
    · exact ⟨result.pose, not_lt.mp hfew, rfl, htolerance⟩
    · exact ih rfl h

theorem iterateIcp_settled {initial : Planar.Pose2d K} {n : ℕ}
    (h : (iterateIcp num source target initial maximumDistance n config).converged = true) :
    Settled num source target maximumDistance config
      (iterateIcp num source target initial maximumDistance n config).pose :=
  iterate_settled rfl h

end Convergence

variable {K : Type} [Field K] [LinearOrder K] [IsStrictOrderedRing K]

theorem eq_of_squaredDistance {p q : Point K} (h : squaredDistance p q ≤ 0) : p = q := by
  rw [squaredDistance] at h
  have hx := mul_self_nonneg (p.x - q.x)
  have hy := mul_self_nonneg (p.y - q.y)
  have hx0 : p.x - q.x = 0 := mul_self_eq_zero.mp (by linarith)
  have hy0 : p.y - q.y = 0 := mul_self_eq_zero.mp (by linarith)
  obtain ⟨px, py⟩ := p
  obtain ⟨qx, qy⟩ := q
  rw [Point.mk.injEq]
  exact ⟨sub_eq_zero.mp hx0, sub_eq_zero.mp hy0⟩

theorem estimateIncrement_coincident (num : Numerics K) {pairs : List (Correspondence K)}
    (h : ∀ c ∈ pairs, c.moving = c.fixed) : estimateIncrement num pairs = ⟨0, 0, 0⟩ := by
  have hpoints : pairs.map Correspondence.moving = pairs.map Correspondence.fixed :=
    List.map_congr_left h
  have hcross : ∀ center : Point K, (pairs.map fun c ↦
      (c.moving.x - center.x) * (c.fixed.y - center.y) -
        (c.moving.y - center.y) * (c.fixed.x - center.x)).sum = 0 := by
    intro center
    refine List.sum_eq_zero ?_
    intro z hz
    obtain ⟨c, hc, rfl⟩ := List.mem_map.mp hz
    rw [h c hc]
    ring
  have hdot : ∀ center : Point K, 0 ≤ (pairs.map fun c ↦
      (c.moving.x - center.x) * (c.fixed.x - center.x) +
        (c.moving.y - center.y) * (c.fixed.y - center.y)).sum := by
    intro center
    refine List.sum_nonneg ?_
    intro z hz
    obtain ⟨c, hc, rfl⟩ := List.mem_map.mp hz
    rw [h c hc]
    exact add_nonneg (mul_self_nonneg _) (mul_self_nonneg _)
  rw [estimateIncrement, hpoints, hcross, num.atan2_zero _ (hdot _), alignCentroids,
    num.cos_zero, num.sin_zero]
  simp

variable [FloorRing K] {distance : K} {scan : List (Point K)} {p : Point K}

theorem correspondence_self (hdistance : 0 < distance) (hp : p ∈ scan) :
    correspondence (buildGrid scan distance) distance p = some ⟨p, p, 0⟩ := by
  have hbrute := correspondence_bruteForce hdistance scan p
  have hnear : squaredDistance p p ≤ distance * distance := by
    rw [squaredDistance_self]
    exact (mul_pos hdistance hdistance).le
  obtain ⟨c, hc⟩ := Option.isSome_iff_exists.mp (hbrute.found_iff.mpr ⟨p, hp, hnear⟩)
  obtain ⟨hmoving, -, hsquared, hleast⟩ := hbrute.nearest c hc
  have hle := hleast p hp
  rw [squaredDistance_self, hsquared] at hle
  have hfixed := eq_of_squaredDistance hle
  rw [← hfixed, squaredDistance_self] at hsquared
  obtain ⟨moving, fixed, squared⟩ := c
  rw [hc]
  dsimp only at hmoving hfixed hsquared
  rw [hmoving, ← hfixed, hsquared]

theorem findCorrespondences_self (trig : Trigonometry K) (hdistance : 0 < distance)
    (scan : List (Point K)) :
    findCorrespondences trig (buildGrid scan distance) scan ⟨0, 0, 0⟩ distance =
      scan.map fun p ↦ ⟨p, p, 0⟩ := by
  rw [findCorrespondences, transformPoint_identity, ← List.filterMap_eq_map]
  refine List.filterMap_congr ?_
  intro p hp
  exact correspondence_self hdistance hp

variable {num : Numerics K} {config : LidarScanMatcherConfig K}

theorem iterateIcp_self (hdistance : 0 < distance) (hsize : config.minimumPoints ≤ scan.length)
    (htranslation : 0 ≤ config.translationToleranceM)
    (hrotation : 0 ≤ config.rotationToleranceRad) {n : ℕ} (hn : 0 < n) :
    iterateIcp num scan scan ⟨0, 0, 0⟩ distance n config = ⟨⟨0, 0, 0⟩, true, true, 1⟩ := by
  have hincrement : estimateIncrement num (trimmed num config (scan.map fun p ↦ ⟨p, p, 0⟩)) =
      ⟨0, 0, 0⟩ := by
    refine estimateIncrement_coincident num ?_
    intro c hc
    have hmem := (num.sort_perm _).mem_iff.mp (List.mem_of_mem_take hc)
    obtain ⟨p, -, rfl⟩ := List.mem_map.mp hmem
    rfl
  have hcompose :
      compose num.toTrigonometry ⟨0, 0, 0⟩ ⟨0, 0, 0⟩ = (⟨0, 0, 0⟩ : Planar.Pose2d K) := by
    simp [compose, normalizeAngle_zero]
  obtain ⟨n, rfl⟩ := Nat.exists_eq_succ_of_ne_zero hn.ne'
  rw [iterateIcp, iterate]
  dsimp only
  rw [findCorrespondences_self num.toTrigonometry hdistance, List.length_map,
    if_neg (not_lt.mpr hsize), hincrement, num.hypot_zero, abs_zero,
    if_pos ⟨htranslation, hrotation⟩, hcompose]

end EmbodiedAgent.Slam.ScanMatcher
