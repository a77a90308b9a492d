import EmbodiedAgent.Library.Fallible
import EmbodiedAgent.Slam.IterativeClosestPoint

namespace EmbodiedAgent.Slam.ScanMatcher

open Library Planar ScanOverlap

section Model

structure LidarScanMatchResult (K : Type) where
  available : Bool
  converged : Bool
  accepted : Bool
  yawAmbiguous : Bool
  odometryPriorUsed : Bool
  odometryPriorConsistent : Bool
  targetToSource : Planar.Pose2d K
  descriptorYawOffsetRad : K
  selectedInitialYawRad : K
  iterations : ℕ
  sourcePoints : ℕ
  targetPoints : ℕ
  correspondences : ℕ
  inlierRatio : K
  bidirectionalOverlapRatio : K
  rmseM : WithTop K
  observabilityRatio : K
  alternateOverlapRatio : K
  alternateYawSeparationRad : K
  odometryPriorYawErrorRad : K
  odometryPriorTranslationErrorM : K
  rejectionReason : String

variable {K : Type} [Field K]

def startResult (source target : List (Point K)) (descriptorYaw : K) : LidarScanMatchResult K :=
  { available := false
    converged := false
    accepted := false
    yawAmbiguous := false
    odometryPriorUsed := false
    odometryPriorConsistent := false
    targetToSource := ⟨0, 0, 0⟩
    descriptorYawOffsetRad := descriptorYaw
    selectedInitialYawRad := 0
    iterations := 0
    sourcePoints := source.length
    targetPoints := target.length
    correspondences := 0
    inlierRatio := 0
    bidirectionalOverlapRatio := 0
    rmseM := 0
    observabilityRatio := 0
    alternateOverlapRatio := 0
    alternateYawSeparationRad := 0
    odometryPriorYawErrorRad := 0
    odometryPriorTranslationErrorM := 0
    rejectionReason := "" }

variable [LinearOrder K]

def validateConfig [Extended K] (config : LidarScanMatcherConfig K) : Except String Unit :=
  let fractionsValid := Extended.isFinite config.trimFraction ∧ 0 < config.trimFraction ∧
    config.trimFraction ≤ 1
  if config.pointStride = 0 ∨ config.minimumPoints < 3 ∨
      config.coarseIterations = 0 ∨ config.fineIterations = 0 ∨
      !Extended.isFinite config.coarseMaxCorrespondenceM ∨
      !Extended.isFinite config.fineMaxCorrespondenceM ∨
      config.coarseMaxCorrespondenceM ≤ config.fineMaxCorrespondenceM ∨
      config.fineMaxCorrespondenceM ≤ 0 ∨ ¬ fractionsValid ∨
      !Extended.isFinite config.translationToleranceM ∨ config.translationToleranceM ≤ 0 ∨
      !Extended.isFinite config.rotationToleranceRad ∨ config.rotationToleranceRad ≤ 0 ∨
      !Extended.isFinite config.maximumTranslationM ∨ config.maximumTranslationM ≤ 0 ∨
      !Extended.isFinite config.minimumInlierRatio ∨ config.minimumInlierRatio ≤ 0 ∨
      1 < config.minimumInlierRatio ∨ !Extended.isFinite config.maximumRmseM ∨
      config.maximumRmseM ≤ 0 ∨ !Extended.isFinite config.minimumObservabilityRatio ∨
      config.minimumObservabilityRatio < 0 ∨ 1 < config.minimumObservabilityRatio ∨
      !Extended.isFinite config.ambiguityOverlapTolerance ∨
      config.ambiguityOverlapTolerance < 0 ∨
      !Extended.isFinite config.ambiguityRmseToleranceM ∨
      config.ambiguityRmseToleranceM < 0 ∨
      !Extended.isFinite config.minimumAmbiguousYawSeparationRad ∨
      config.minimumAmbiguousYawSeparationRad ≤ 0 ∨
      !Extended.isFinite config.maximumPriorYawDeviationRad ∨
      config.maximumPriorYawDeviationRad ≤ 0 ∨
      !Extended.isFinite config.maximumPriorTranslationDeviationM ∨
      config.maximumPriorTranslationDeviationM ≤ 0 then
    .error "invalid lidar scan-matcher configuration"
  else .ok ()

def betterResult (left right : LidarScanMatchResult K) : Bool :=
  if left.available ≠ right.available then left.available
  else if left.converged ≠ right.converged then left.converged
  else if left.accepted ≠ right.accepted then left.accepted
  else if left.bidirectionalOverlapRatio ≠ right.bidirectionalOverlapRatio then
    left.bidirectionalOverlapRatio > right.bidirectionalOverlapRatio
  else left.rmseM < right.rmseM

abbrev Entry (K : Type) := LidarScanMatchResult K × ℕ

def keepBetter : Option (Entry K) → Entry K → Option (Entry K) :=
  List.argAux fun left right ↦ betterResult left.1 right.1 = true

def maxElement (entries : List (Entry K)) : Option (Entry K) := entries.foldl keepBetter none

def nearEqualGeometry (config : LidarScanMatcherConfig K)
    (alternative best : LidarScanMatchResult K) : Prop :=
  best.bidirectionalOverlapRatio ≤
      alternative.bidirectionalOverlapRatio + config.ambiguityOverlapTolerance ∧
    alternative.rmseM ≤ best.rmseM + config.ambiguityRmseToleranceM

instance (config : LidarScanMatcherConfig K) (alternative best : LidarScanMatchResult K) :
    Decidable (nearEqualGeometry config alternative best) := instDecidableAnd

variable (num : Numerics K)

def priorTranslationError (prior pose : Planar.Pose2d K) : K :=
  num.hypot (pose.x - prior.x) (pose.y - prior.y)

/-- The gates of `runSeed` on a result that has its measures. -/
def verdict (config : LidarScanMatcherConfig K) (result : LidarScanMatchResult K) :
    LidarScanMatchResult K :=
  if !result.converged then { result with rejectionReason := "not_converged" }
  else if config.maximumTranslationM <
      num.hypot result.targetToSource.x result.targetToSource.y then
    { result with rejectionReason := "translation_limit" }
  else if result.inlierRatio < config.minimumInlierRatio then
    { result with rejectionReason := "low_inlier_ratio" }
  else if config.maximumRmseM < result.rmseM then
    { result with rejectionReason := "high_rmse" }
  else if result.observabilityRatio < config.minimumObservabilityRatio then
    { result with rejectionReason := "degenerate_geometry" }
  else { result with accepted := true, rejectionReason := "accepted" }

variable [FloorRing K]

def finePairs (source target : List (Point K)) (config : LidarScanMatcherConfig K)
    (pose : Planar.Pose2d K) : List (Correspondence K) :=
  findCorrespondences num.toTrigonometry (buildGrid source config.fineMaxCorrespondenceM) target
    pose config.fineMaxCorrespondenceM

def inlierRatio (source target : List (Point K)) (config : LidarScanMatcherConfig K)
    (pose : Planar.Pose2d K) : K :=
  ((finePairs num source target config pose).length : K) / (target.length : K)

def runSeed [Extended K] (source target : List (Point K)) (descriptorYaw : K)
    (config : LidarScanMatcherConfig K) (initial : Planar.Pose2d K) :
    Except String (LidarScanMatchResult K) :=
  let result : LidarScanMatchResult K :=
    { startResult source target descriptorYaw with selectedInitialYawRad := initial.yaw }
  let coarse := iterateIcp num source target initial config.coarseMaxCorrespondenceM
    config.coarseIterations config
  if !coarse.available then
    .ok { result with rejectionReason := "insufficient_coarse_correspondences" }
  else
    let fine := iterateIcp num source target coarse.pose config.fineMaxCorrespondenceM
      config.fineIterations config
    let result : LidarScanMatchResult K :=
      { result with
        available := fine.available
        converged := fine.converged
        targetToSource := fine.pose
        iterations := coarse.iterations + fine.iterations }
    if !fine.available then
      .ok { result with rejectionReason := "insufficient_fine_correspondences" }
    else
      let correspondences := finePairs num source target config fine.pose
      match evaluateScanOverlap num.toTrigonometry source target fine.pose
          ⟨config.fineMaxCorrespondenceM, 1, config.minimumPoints⟩ with
      | .error e => .error e
      | .ok overlap => .ok (verdict num config
          { result with
            correspondences := correspondences.length
            inlierRatio := inlierRatio num source target config fine.pose
            rmseM := correspondenceRmse num correspondences
            observabilityRatio := ScanMatcher.observabilityRatio num correspondences
            bidirectionalOverlapRatio :=
              if overlap.available then overlap.overlapRatio else 0 })

def addUniqueSeed (seeds : List K) (seed : K) : List K :=
  let normalized := normalizeAngle num.toTrigonometry seed
  if seeds.any fun existing ↦
      |normalizeAngle num.toTrigonometry (existing - normalized)| ≤ ((10 ^ 9 : ℕ) : K)⁻¹ then seeds
  else seeds ++ [normalized]

def yawSeeds (descriptorYawOffset : K) : List K :=
  [descriptorYawOffset, -descriptorYawOffset, descriptorYawOffset + num.pi,
    -descriptorYawOffset + num.pi].foldl (addUniqueSeed num) []

/-- The poses that `runSeed` is started from, one after the other. -/
def initialPoses (source target : List (Point K)) (descriptorYawOffset : K)
    (odometryPrior : Option (Planar.Pose2d K)) : List (Planar.Pose2d K) :=
  (yawSeeds num descriptorYawOffset).flatMap (fun seed ↦
    [⟨0, 0, seed⟩, centroidSeed num source target seed]) ++
  match odometryPrior with
  | some prior => [{ prior with yaw := normalizeAngle num.toTrigonometry prior.yaw }]
  | none => []

def priorYawError (prior pose : Planar.Pose2d K) : K :=
  |normalizeAngle num.toTrigonometry (pose.yaw - prior.yaw)|

def eligible (config : LidarScanMatcherConfig K) (prior : Planar.Pose2d K)
    (result : LidarScanMatchResult K) : Bool :=
  result.available && result.converged &&
    !(config.maximumPriorYawDeviationRad < priorYawError num prior result.targetToSource ||
      config.gatePriorTranslation && config.maximumPriorTranslationDeviationM <
        priorTranslationError num prior result.targetToSource)

def priorBest (config : LidarScanMatcherConfig K) (prior : Planar.Pose2d K)
    (entries : List (Entry K)) : Option (Entry K) :=
  entries.foldl (fun best entry ↦
    if eligible num config prior entry.1 then keepBetter best entry else best) none

def bestEntry (config : LidarScanMatcherConfig K) (odometryPrior : Option (Planar.Pose2d K))
    (entries : List (Entry K)) : Option (Entry K) :=
  match odometryPrior with
  | some prior =>
    match priorBest num config prior entries with
    | some entry => some entry
    | none => maxElement entries
  | none => maxElement entries

def checkPrior (config : LidarScanMatcherConfig K) (prior : Planar.Pose2d K)
    (best : LidarScanMatchResult K) : LidarScanMatchResult K :=
  let yawError := priorYawError num prior best.targetToSource
  let translationError := priorTranslationError num prior best.targetToSource
  let consistent := decide (yawError ≤ config.maximumPriorYawDeviationRad) &&
    (!config.gatePriorTranslation ||
      decide (translationError ≤ config.maximumPriorTranslationDeviationM))
  let best : LidarScanMatchResult K :=
    { best with
      odometryPriorUsed := true
      odometryPriorYawErrorRad := yawError
      odometryPriorTranslationErrorM := translationError
      odometryPriorConsistent := consistent }
  if !consistent then
    { best with accepted := false, rejectionReason := "odometry_prior_inconsistent" }
  else best

def yawSeparation (alternative best : LidarScanMatchResult K) : K :=
  |normalizeAngle num.toTrigonometry (alternative.targetToSource.yaw - best.targetToSource.yaw)|

def findAmbiguity (config : LidarScanMatcherConfig K) (best : Entry K)
    (entries : List (Entry K)) : Option (Entry K) :=
  entries.find? fun alternative ↦
    alternative.2 ≠ best.2 && alternative.1.available && alternative.1.converged &&
      decide (config.minimumAmbiguousYawSeparationRad ≤ yawSeparation num alternative.1 best.1 ∧
        nearEqualGeometry config alternative.1 best.1)

def checkAmbiguity (config : LidarScanMatcherConfig K) (best : Entry K)
    (entries : List (Entry K)) : LidarScanMatchResult K :=
  match findAmbiguity num config best entries with
  | some alternative =>
    { best.1 with
      yawAmbiguous := true
      accepted := false
      rejectionReason := "yaw_ambiguous"
      alternateOverlapRatio := alternative.1.bidirectionalOverlapRatio
      alternateYawSeparationRad := yawSeparation num alternative.1 best.1 }
  | none => best.1

def judge (config : LidarScanMatcherConfig K) (odometryPrior : Option (Planar.Pose2d K))
    (best : Entry K) (entries : List (Entry K)) : LidarScanMatchResult K :=
  match odometryPrior with
  | some prior => checkPrior num config prior best.1
  | none => checkAmbiguity num config best entries

def matchLidarScans [Extended K] (sourceInput targetInput : List (Point K))
    (descriptorYawOffset : K) (config : LidarScanMatcherConfig K)
    (odometryPrior : Option (Planar.Pose2d K)) : Except String (LidarScanMatchResult K) :=
  match validateConfig config with
  | .error e => .error e
  | .ok () =>
    if !Extended.isFinite descriptorYawOffset then
      .error "descriptor yaw offset must be finite"
    else if odometryPrior.any fun prior ↦ !Extended.isFinite prior.x ||
        !Extended.isFinite prior.y || !Extended.isFinite prior.yaw then
      .error "odometry prior must be finite"
    else
      let source := sampleFinite sourceInput config.pointStride
      let target := sampleFinite targetInput config.pointStride
      if source.length < config.minimumPoints ∨ target.length < config.minimumPoints then
        .ok { startResult source target descriptorYawOffset with
          rejectionReason := "insufficient_points" }
      else
        match (initialPoses num source target descriptorYawOffset odometryPrior).mapM
            (runSeed num source target descriptorYawOffset config) with
        | .error e => .error e
        | .ok results =>
          match bestEntry num config odometryPrior results.zipIdx with
          | some best => .ok (judge num config odometryPrior best results.zipIdx)
          -- There is no search without seeds.
          | none => .ok (startResult source target descriptorYawOffset)

end Model

variable {K : Type} [LinearOrder K]

/-- What `betterResult` compares, in its order. -/
def rank (result : LidarScanMatchResult K) : Bool ×ₗ Bool ×ₗ Bool ×ₗ K ×ₗ (WithTop K)ᵒᵈ :=
  toLex (result.available, toLex (result.converged, toLex (result.accepted,
    toLex (result.bidirectionalOverlapRatio, OrderDual.toDual result.rmseM))))

theorem first_differs {a b : Bool} (h : a ≠ b) (later : Prop) :
    a = true ↔ b < a ∨ b = a ∧ later := by
  cases a <;> cases b <;> simp_all

theorem first_agrees {β : Type} [Preorder β] {a b : β} (h : a = b) (later : Prop) :
    later ↔ b < a ∨ b = a ∧ later := by
  simp [h]

theorem betterResult_iff (left right : LidarScanMatchResult K) :
    betterResult left right = true ↔ rank right < rank left := by
  rw [betterResult, rank, rank]
  simp only [Prod.Lex.toLex_lt_toLex, OrderDual.toDual_lt_toDual]
  by_cases havailable : left.available = right.available
  · rw [if_neg (not_not.mpr havailable), ← first_agrees havailable]
    by_cases hconverged : left.converged = right.converged
    · rw [if_neg (not_not.mpr hconverged), ← first_agrees hconverged]
      by_cases haccepted : left.accepted = right.accepted
      · rw [if_neg (not_not.mpr haccepted), ← first_agrees haccepted]
        by_cases hoverlap : left.bidirectionalOverlapRatio = right.bidirectionalOverlapRatio
        · rw [if_neg (not_not.mpr hoverlap), ← first_agrees hoverlap, decide_eq_true_iff]
        · rw [if_pos hoverlap, decide_eq_true_iff]
          exact ⟨.inl, fun h ↦ h.resolve_right fun heq ↦ hoverlap heq.1.symm⟩
      · rw [if_pos haccepted]
        exact first_differs haccepted _
    · rw [if_pos hconverged]
      exact first_differs hconverged _
  · rw [if_pos havailable]
    exact first_differs havailable _

theorem keepBetter_eq : (keepBetter : Option (Entry K) → Entry K → Option (Entry K)) =
    List.argAux fun left right ↦ rank right.1 < rank left.1 := by
  funext best entry
  cases best with
  | none => rfl
  | some best => exact if_congr (betterResult_iff entry.1 best.1) rfl rfl

theorem maxElement_eq (entries : List (Entry K)) :
    maxElement entries = entries.argmax fun entry ↦ rank entry.1 := by
  rw [maxElement, keepBetter_eq]
  rfl

variable {entries : List (Entry K)} {best entry : Entry K}

theorem mem_of_maxElement (h : maxElement entries = some best) : best ∈ entries := by
  rw [maxElement_eq] at h
  exact List.argmax_mem h

theorem accepted_of_rank_le {found chosen : LidarScanMatchResult K}
    (h : rank found ≤ rank chosen) (havailable : found.available = true)
    (hconverged : found.converged = true) (haccepted : found.accepted = true) :
    chosen.accepted = true := by
  rw [rank, rank, havailable, hconverged, haccepted] at h
  simp only [Prod.Lex.toLex_le_toLex, Bool.lt_iff, Bool.true_eq_false, false_and, false_or] at h
  exact h.2.2.1.symm

variable [Field K] [FloorRing K] {num : Numerics K} {config : LidarScanMatcherConfig K}
  {odometryPrior : Option (Planar.Pose2d K)} {prior : Planar.Pose2d K}

theorem priorBest_eq (num : Numerics K) (config : LidarScanMatcherConfig K)
    (prior : Planar.Pose2d K) (entries : List (Entry K)) :
    priorBest num config prior entries =
      (entries.filter fun entry ↦ eligible num config prior entry.1).argmax
        fun entry ↦ rank entry.1 := by
  rw [priorBest, keepBetter_eq, List.argmax, List.foldl_filter]

theorem mem_of_bestEntry (h : bestEntry num config odometryPrior entries = some best) :
    best ∈ entries := by
  cases odometryPrior with
  | none => exact mem_of_maxElement h
  | some prior =>
    rw [bestEntry] at h
    cases hprior : priorBest num config prior entries with
    | none =>
      rw [hprior] at h
      exact mem_of_maxElement h
    | some entry =>
      rw [hprior] at h
      cases h
      rw [priorBest_eq] at hprior
      exact List.mem_of_mem_filter (List.argmax_mem hprior)

theorem exists_bestEntry (num : Numerics K) (config : LidarScanMatcherConfig K)
    (odometryPrior : Option (Planar.Pose2d K)) (hentries : entries ≠ []) :
    ∃ best, bestEntry num config odometryPrior entries = some best := by
  have hmax : ∃ best, maxElement entries = some best := by
    rw [maxElement_eq, ← Option.ne_none_iff_exists', ne_eq, List.argmax_eq_none]
    exact hentries
  cases odometryPrior with
  | none => exact hmax
  | some prior =>
    rw [bestEntry]
    cases priorBest num config prior entries with
    | none => exact hmax
    | some entry => exact ⟨entry, rfl⟩

theorem bestEntry_eligible (h : bestEntry num config (some prior) entries = some best)
    (hentry : entry ∈ entries) (heligible : eligible num config prior entry.1 = true) :
    eligible num config prior best.1 = true ∧ rank entry.1 ≤ rank best.1 := by
  have hmem : entry ∈ entries.filter fun entry ↦ eligible num config prior entry.1 :=
    List.mem_filter.mpr ⟨hentry, heligible⟩
  rw [bestEntry, priorBest_eq] at h
  cases hprior : (entries.filter fun entry ↦ eligible num config prior entry.1).argmax
      fun entry ↦ rank entry.1 with
  | none =>
    rw [List.argmax_eq_none.mp hprior] at hmem
    cases hmem
  | some found =>
    rw [hprior] at h
    cases h
    exact ⟨(List.mem_filter.mp (List.argmax_mem hprior)).2,
      List.le_of_mem_argmax (f := fun entry : Entry K ↦ rank entry.1) hmem hprior⟩

end EmbodiedAgent.Slam.ScanMatcher
