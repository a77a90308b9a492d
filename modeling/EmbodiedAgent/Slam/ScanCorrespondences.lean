import EmbodiedAgent.Slam.ScanOverlap

namespace EmbodiedAgent.Slam.ScanMatcher

open Library Planar ScanOverlap

section Model

variable {K : Type} [Field K] [LinearOrder K]

structure Correspondence (K : Type) where
  moving : Point K
  fixed : Point K
  squaredDistance : K

variable [FloorRing K]

def closest (sourceGrid : SpatialGrid K) (moving : Point K) (maximumDistance : K) :
    K × Option (Point K) :=
  let center := gridKey maximumDistance moving
  offsets.foldl (fun state dx ↦ offsets.foldl (fun state dy ↦
    match sourceGrid (neighbor center dx dy) with
    | none => state
    | some cell => cell.foldl (SpatialHash.keepLeast (squaredDistance moving)) state)
    state) (maximumDistance * maximumDistance, none)

def correspondence (sourceGrid : SpatialGrid K) (maximumDistance : K) (moving : Point K) :
    Option (Correspondence K) :=
  match closest sourceGrid moving maximumDistance with
  | (_, none) => none
  | (bestSquared, some best) => some ⟨moving, best, bestSquared⟩

def findCorrespondences (trig : Trigonometry K) (sourceGrid : SpatialGrid K)
    (target : List (Point K)) (targetToSource : Planar.Pose2d K) (maximumDistance : K) :
    List (Correspondence K) :=
  target.filterMap fun targetPoint ↦
    correspondence sourceGrid maximumDistance (transformPoint trig targetToSource targetPoint)

end Model

section Nearest

variable {K : Type} [Field K] [LinearOrder K]

/-- A pair of a point with a nearest one of `source`. -/
structure Correspondence.Nearest (source : List (Point K)) (moving : Point K)
    (c : Correspondence K) : Prop where
  moving_eq : c.moving = moving
  mem : c.fixed ∈ source
  squared : c.squaredDistance = ScanOverlap.squaredDistance moving c.fixed
  least : ∀ p ∈ source, c.squaredDistance ≤ ScanOverlap.squaredDistance moving p

/-- The pair that a search through all source points justifies. -/
structure BruteForce (source : List (Point K)) (distance : K) (moving : Point K)
    (found : Option (Correspondence K)) : Prop where
  found_iff : found.isSome = true ↔ ∃ p ∈ source, squaredDistance moving p ≤ distance * distance
  nearest : ∀ c ∈ found, c.Nearest source moving

variable [FloorRing K] {distance : K} {moving : Point K}

theorem closest_eq (source : List (Point K)) (moving : Point K) (distance : K) :
    closest (buildGrid source distance) moving distance =
      (candidates source distance (gridKey distance moving)).foldl
        (SpatialHash.keepLeast (squaredDistance moving)) (distance * distance, none) := by
  rw [closest, candidates, List.foldl_flatMap]
  refine List.foldl_ext _ _ _ ?_
  intro state dx _
  rw [List.foldl_flatMap]
  refine List.foldl_ext _ _ _ ?_
  intro state dy _
  cases buildGrid source distance (neighbor (gridKey distance moving) dx dy) <;> rfl

variable [IsStrictOrderedRing K]

theorem correspondence_bruteForce (hdistance : 0 < distance) (source : List (Point K))
    (moving : Point K) : BruteForce source distance moving
      (correspondence (buildGrid source distance) distance moving) := by
  have hleast := SpatialHash.least_foldl (squaredDistance moving)
    (distance * distance) (candidates source distance (gridKey distance moving))
  rw [← closest_eq] at hleast
  rw [correspondence]
  generalize closest (buildGrid source distance) moving distance = state at hleast ⊢
  obtain ⟨bestSquared, best⟩ := state
  cases best with
  | none =>
    obtain ⟨-, hfar⟩ := hleast.missed rfl
    refine ⟨⟨fun h ↦ Bool.noConfusion h, ?_⟩, fun c hc ↦ ?_⟩
    · rintro ⟨p, hp, hnear⟩
      exact absurd hnear (hfar p (mem_candidates hdistance hnear hp)).not_ge
    · cases hc
  | some best =>
    obtain ⟨hmem, hsquared⟩ := hleast.found best rfl
    have hnear : squaredDistance moving best ≤ distance * distance := by
      rw [← hsquared]
      exact hleast.bound_le
    refine ⟨⟨fun _ ↦ ⟨best, mem_of_mem_candidates hmem, hnear⟩, fun _ ↦ rfl⟩, ?_⟩
    intro c hc
    cases hc
    refine ⟨rfl, mem_of_mem_candidates hmem, hsquared, ?_⟩
    intro p hp
    -- A point that was not visited is farther away than the distance.
    rcases le_or_gt (squaredDistance moving p) (distance * distance) with hle | hlt
    · exact hleast.lower p (mem_candidates hdistance hle hp)
    · exact hleast.bound_le.trans hlt.le

end Nearest

variable {K : Type} [Field K] [LinearOrder K] [IsStrictOrderedRing K] [FloorRing K] [Extended K]

theorem spatialHash_exact (trig : Trigonometry K) {distance : K} (hdistance : 0 < distance) :
    (∀ source target targetToSource, ∃ pair : Point K → Option (Correspondence K),
      findCorrespondences trig (buildGrid source distance) target targetToSource distance =
        target.filterMap pair ∧
      ∀ p, BruteForce source distance (transformPoint trig targetToSource p) (pair p)) ∧
    (∀ query reference : List (Point K),
      countMatches query (buildGrid reference distance) distance =
        query.countP fun p ↦ ∃ q ∈ reference, squaredDistance p q < distance * distance) ∧
    (∀ (source target : List (Point K)) sourceToTarget config result,
      evaluateScanOverlap trig source target sourceToTarget config = .ok result →
      0 ≤ result.overlapRatio ∧ result.overlapRatio ≤ 1) ∧ ∀ (scan : List (Point K)) config result,
      evaluateScanOverlap trig scan scan ⟨0, 0, 0⟩ config = .ok result →
      result.available = true → result.overlapRatio = 1 := by
  refine ⟨?_, countMatches_brute hdistance, ?_, ?_⟩
  · intro source target targetToSource
    exact ⟨_, rfl, fun p ↦ correspondence_bruteForce hdistance source _⟩
  · intro source target sourceToTarget config result h
    exact overlapRatio_range h
  · intro scan config result h havailable
    exact overlapRatio_self h havailable

def beams (x : ℝ) : List (Point ℝ) := [⟨x, 0⟩, ⟨-x, 0⟩, ⟨x + 1 + 1, 0⟩]

/-- A fourth cell's nearest beam is found across the border; one in the open finds none. -/
theorem beams_exact : (∃ c, findCorrespondences realTrigonometry (buildGrid (beams (1 / 2)) 1)
      [⟨5 / 4, 0⟩, ⟨4, 0⟩] ⟨0, 0, 0⟩ 1 = [c] ∧ c.fixed = ⟨1 / 2, 0⟩) ∧
    ∃ result : ScanOverlapResult ℝ,
      evaluateScanOverlap realTrigonometry (beams (1 / 2)) (beams (1 / 2)) ⟨0, 0, 0⟩ ⟨1, 1, 3⟩ =
        .ok result ∧
      result.overlapRatio = 1 := by
  obtain ⟨hnearest, -, -, hself⟩ := spatialHash_exact realTrigonometry (one_pos : (0 : ℝ) < 1)
  constructor
  · obtain ⟨pair, hpairs, hbrute⟩ := hnearest (beams (1 / 2)) [⟨5 / 4, 0⟩, ⟨4, 0⟩] ⟨0, 0, 0⟩
    simp only [transformPoint_identity, id] at hbrute
    have hfar : pair ⟨4, 0⟩ = none := by
      rw [← Option.not_isSome_iff_eq_none, (hbrute ⟨4, 0⟩).found_iff]
      norm_num [beams, squaredDistance]
    have hnear := (hbrute ⟨5 / 4, 0⟩).found_iff.mpr
      ⟨⟨1 / 2, 0⟩, List.mem_cons_self .., by norm_num [squaredDistance]⟩
    obtain ⟨c, hc⟩ := Option.isSome_iff_exists.mp hnear
    refine ⟨c, by rw [hpairs]; simp [hc, hfar], ?_⟩
    obtain ⟨-, hmem, hsquared, hleast⟩ := (hbrute ⟨5 / 4, 0⟩).nearest c hc
    have hle := hleast ⟨1 / 2, 0⟩ (List.mem_cons_self ..)
    rw [hsquared] at hle
    simp only [beams, List.mem_cons, List.not_mem_nil, or_false] at hmem
    rcases hmem with heq | heq | heq
    · exact heq
    · norm_num [heq, squaredDistance] at hle
    · norm_num [heq, squaredDistance] at hle
  · have hrun : ∃ result : ScanOverlapResult ℝ,
        evaluateScanOverlap realTrigonometry (beams (1 / 2)) (beams (1 / 2)) ⟨0, 0, 0⟩ ⟨1, 1, 3⟩ =
        .ok result ∧
        result.available = true := by
      unfold evaluateScanOverlap
      rw [if_neg (by simp [Extended.isFinite]), if_neg (by
        simp [sampleFinite, beams, Extended.isFinite])]
      exact ⟨_, rfl, rfl⟩
    obtain ⟨result, hresult, havailable⟩ := hrun
    exact ⟨result, hresult, hself _ _ _ hresult havailable⟩

/-- A scan of too few points has no overlap, not even with itself. -/
theorem sparse_scan_overlap : ¬ ∀ (scan : List (Point ℝ)) config result,
    evaluateScanOverlap realTrigonometry scan scan ⟨0, 0, 0⟩ config = .ok result →
    result.overlapRatio = 1 := by
  intro hall
  have hrun : evaluateScanOverlap realTrigonometry (beams (1 / 2)) (beams (1 / 2)) ⟨0, 0, 0⟩
      ⟨1, 1, 4⟩ = .ok ⟨false, 0, 3, 3, 0, 0⟩ := by
    unfold evaluateScanOverlap
    rw [if_neg (by simp [Extended.isFinite]), if_pos (by
      simp [sampleFinite, beams, Extended.isFinite])]
    simp [sampleFinite, beams, Extended.isFinite]
  exact zero_ne_one (hall _ _ _ hrun)

end EmbodiedAgent.Slam.ScanMatcher
