import EmbodiedAgent.Slam.ScanMatcher

namespace EmbodiedAgent.Slam.ScanMatcher

open Library Planar ScanOverlap

section Seeds

variable {K : Type} [Field K] [LinearOrder K] [FloorRing K] [Extended K]

/-- A match is the pose of a fine search that came to rest, and keeps the limits. -/
structure Justified (num : Numerics K) (source target : List (Point K))
    (config : LidarScanMatcherConfig K) (initial : Planar.Pose2d K)
    (result : LidarScanMatchResult K) : Prop where
  fine : ∃ coarse fine : IterationResult K,
    coarse = iterateIcp num source target initial config.coarseMaxCorrespondenceM
      config.coarseIterations config ∧ coarse.available = true ∧
    fine = iterateIcp num source target coarse.pose config.fineMaxCorrespondenceM
      config.fineIterations config ∧ fine.available = true ∧ fine.converged = true ∧
    result.targetToSource = fine.pose
  settled : Settled num source target config.fineMaxCorrespondenceM config result.targetToSource
  translation : num.hypot result.targetToSource.x result.targetToSource.y ≤
    config.maximumTranslationM
  inlierRatio_eq : result.inlierRatio = inlierRatio num source target config result.targetToSource
  inliers : config.minimumInlierRatio ≤
    inlierRatio num source target config result.targetToSource
  rmse_eq : result.rmseM =
    correspondenceRmse num (finePairs num source target config result.targetToSource)
  rmse : correspondenceRmse num (finePairs num source target config result.targetToSource) ≤
    config.maximumRmseM
  observability_eq : result.observabilityRatio =
    observabilityRatio num (finePairs num source target config result.targetToSource)
  observability : config.minimumObservabilityRatio ≤
    observabilityRatio num (finePairs num source target config result.targetToSource)

variable {num : Numerics K} {source target : List (Point K)} {config : LidarScanMatcherConfig K}
  {descriptorYaw : K} {initial : Planar.Pose2d K} {result : LidarScanMatchResult K}

omit [FloorRing K] [Extended K] in
theorem verdict_cases (num : Numerics K) (config : LidarScanMatcherConfig K)
    (result : LidarScanMatchResult K) :
    (∃ reason, verdict num config result = { result with rejectionReason := reason }) ∨
      verdict num config result =
        { result with accepted := true, rejectionReason := "accepted" } ∧
      result.converged = true ∧
      num.hypot result.targetToSource.x result.targetToSource.y ≤ config.maximumTranslationM ∧
      config.minimumInlierRatio ≤ result.inlierRatio ∧ result.rmseM ≤ config.maximumRmseM ∧
      config.minimumObservabilityRatio ≤ result.observabilityRatio := by
  rw [verdict]
  split_ifs with hconverged htranslation hinliers hrmse hobservability
  · exact .inl ⟨_, rfl⟩
  · exact .inl ⟨_, rfl⟩
  · exact .inl ⟨_, rfl⟩
  · exact .inl ⟨_, rfl⟩
  · exact .inl ⟨_, rfl⟩
  · refine .inr ⟨rfl, ?_, not_lt.mp htranslation, not_lt.mp hinliers, not_lt.mp hrmse,
      not_lt.mp hobservability⟩
    simpa using hconverged

theorem runSeed_accepted
    (h : runSeed num source target descriptorYaw config initial = .ok result)
    (haccepted : result.accepted = true) :
    Justified num source target config initial result := by
  unfold runSeed at h
  dsimp only at h
  split_ifs at h with hcoarse hfine
  · cases h
    cases haccepted
  · cases h
    cases haccepted
  · split at h
    · cases h
    · rename_i overlap _
      rcases verdict_cases num config _ with ⟨reason, heq⟩ |
        ⟨heq, hconverged, htranslation, hinliers, hrmse, hobservability⟩
      · rw [heq] at h
        cases h
        cases haccepted
      · rw [heq] at h
        cases h
        refine ⟨⟨_, _, rfl, ?_, rfl, ?_, hconverged, rfl⟩, iterateIcp_settled hconverged,
          htranslation, rfl, hinliers, rfl, hrmse, rfl, hobservability⟩
        · simpa using hcoarse
        · simpa using hfine

end Seeds

section Acceptance

variable {K : Type} [Field K] [LinearOrder K] [FloorRing K] [Extended K]
  {num : Numerics K} {source target : List (Point K)} {config : LidarScanMatcherConfig K}
  {descriptorYaw : K} {prior : Planar.Pose2d K}

omit [FloorRing K] in
theorem validateConfig_ok (h : validateConfig config = .ok ()) :
    config.pointStride ≠ 0 ∧ 3 ≤ config.minimumPoints ∧ config.coarseIterations ≠ 0 ∧
      config.fineIterations ≠ 0 ∧ Extended.isFinite config.fineMaxCorrespondenceM = true ∧
      config.fineMaxCorrespondenceM < config.coarseMaxCorrespondenceM ∧
      0 < config.fineMaxCorrespondenceM ∧ 0 < config.translationToleranceM ∧
      0 < config.rotationToleranceRad ∧ 0 < config.maximumTranslationM ∧
      config.minimumInlierRatio ≤ 1 ∧ 0 < config.maximumRmseM ∧
      0 < config.maximumPriorYawDeviationRad ∧
      0 < config.maximumPriorTranslationDeviationM := by
  unfold validateConfig at h
  dsimp only at h
  split_ifs at h with hinvalid
  simp only [not_or, not_lt, not_le, Bool.not_eq_true', Bool.not_eq_false] at hinvalid
  obtain ⟨hstride, hpoints, hcoarse, hfine, -, hfinite, hnested, hpositive, -, -, htranslation, -,
    hrotation, -, hmaximum, -, -, hinlier, -, hrmse, -, -, -, -, -, -, -, -, -, -, hyaw, -,
    hfar⟩ := hinvalid
  exact ⟨hstride, hpoints, hcoarse, hfine, hfinite, hnested, hpositive, htranslation, hrotation,
    hmaximum, hinlier, hrmse, hyaw, hfar⟩

theorem runSeed_ok (num : Numerics K) (hvalid : validateConfig config = .ok ())
    (source target : List (Point K)) (descriptorYaw : K) (initial : Planar.Pose2d K) :
    ∃ result, runSeed num source target descriptorYaw config initial = .ok result := by
  obtain ⟨-, hpoints, -, -, hfinite, -, hpositive, -⟩ := validateConfig_ok hvalid
  unfold runSeed
  dsimp only
  split_ifs
  · exact ⟨_, rfl⟩
  · exact ⟨_, rfl⟩
  · obtain ⟨overlap, hoverlap⟩ := evaluateScanOverlap_ok num.toTrigonometry source target
      (iterateIcp num source target (iterateIcp num source target initial
        config.coarseMaxCorrespondenceM config.coarseIterations config).pose
        config.fineMaxCorrespondenceM config.fineIterations config).pose
      ⟨config.fineMaxCorrespondenceM, 1, config.minimumPoints⟩ hpositive hfinite one_ne_zero
      (by dsimp only; omega)
    rw [hoverlap]
    exact ⟨_, rfl⟩

omit [Extended K] in
theorem mem_addUniqueSeed {seeds : List K} {seed : K} (hseed : seed ∈ seeds) (other : K) :
    seed ∈ addUniqueSeed num seeds other := by
  rw [addUniqueSeed]
  split_ifs
  · exact hseed
  · exact List.mem_append_left _ hseed

omit [Extended K] in
theorem mem_initialPoses (num : Numerics K) (source target : List (Point K)) (descriptorYaw : K)
    (odometryPrior : Option (Planar.Pose2d K)) :
    ⟨0, 0, normalizeAngle num.toTrigonometry descriptorYaw⟩ ∈
      initialPoses num source target descriptorYaw odometryPrior := by
  have hseed : normalizeAngle num.toTrigonometry descriptorYaw ∈ yawSeeds num descriptorYaw := by
    refine mem_addUniqueSeed (mem_addUniqueSeed (mem_addUniqueSeed ?_ _) _) _
    exact List.mem_singleton_self _
  exact List.mem_append_left _ (List.mem_flatMap.mpr ⟨_, hseed, .head _⟩)

structure ValidArguments (config : LidarScanMatcherConfig K) (descriptorYaw : K)
    (odometryPrior : Option (Planar.Pose2d K)) : Prop where
  config_ok : validateConfig config = .ok ()
  yaw_finite : Extended.isFinite descriptorYaw = true
  prior_finite : ∀ prior ∈ odometryPrior, Extended.isFinite prior.x = true ∧
    Extended.isFinite prior.y = true ∧ Extended.isFinite prior.yaw = true

theorem matchLidarScans_eq (num : Numerics K) {sourceInput targetInput : List (Point K)}
    {odometryPrior : Option (Planar.Pose2d K)}
    (hvalid : ValidArguments config descriptorYaw odometryPrior)
    (hsource : source = sampleFinite sourceInput config.pointStride)
    (htarget : target = sampleFinite targetInput config.pointStride)
    (hsourceSize : config.minimumPoints ≤ source.length)
    (htargetSize : config.minimumPoints ≤ target.length) :
    ∃ results best,
      (initialPoses num source target descriptorYaw odometryPrior).mapM
        (runSeed num source target descriptorYaw config) = .ok results ∧
      bestEntry num config odometryPrior results.zipIdx = some best ∧
      matchLidarScans num sourceInput targetInput descriptorYaw config odometryPrior =
        .ok (judge num config odometryPrior best results.zipIdx) := by
  obtain ⟨hconfig, hyaw, hprior⟩ := hvalid
  obtain ⟨results, hresults⟩ := exists_mapM_ok
    (l := initialPoses num source target descriptorYaw odometryPrior) fun initial _ ↦
      runSeed_ok num hconfig source target descriptorYaw initial
  have hentries : results.zipIdx ≠ [] := by
    have hmem := List.mem_map_of_mem (f := runSeed num source target descriptorYaw config)
      (mem_initialPoses num source target descriptorYaw odometryPrior)
    rw [map_eq_of_mapM hresults] at hmem
    intro hnil
    rw [List.zipIdx_eq_nil_iff.mp hnil] at hmem
    cases hmem
  obtain ⟨best, hbest⟩ := exists_bestEntry num config odometryPrior hentries
  refine ⟨results, best, hresults, hbest, ?_⟩
  have hfinite : ¬ (odometryPrior.any fun prior ↦ !Extended.isFinite prior.x ||
      !Extended.isFinite prior.y || !Extended.isFinite prior.yaw) = true := by
    cases odometryPrior with
    | none => simp
    | some prior =>
      obtain ⟨hx, hy, hpriorYaw⟩ := hprior prior rfl
      simp [hx, hy, hpriorYaw]
  rw [matchLidarScans, hconfig]
  dsimp only
  rw [← hsource, ← htarget, if_neg (by simp [hyaw]), if_neg hfinite,
    if_neg (by simp only [not_or, not_lt]; exact ⟨hsourceSize, htargetSize⟩), hresults]
  dsimp only
  rw [hbest]

omit [Extended K] in
theorem checkPrior_of_eligible {best : LidarScanMatchResult K}
    (h : eligible num config prior best = true) :
    (checkPrior num config prior best).accepted = best.accepted := by
  simp only [eligible, Bool.and_eq_true, Bool.not_eq_true', Bool.or_eq_false_iff,
    decide_eq_false_iff_not, not_lt, Bool.and_eq_false_iff] at h
  obtain ⟨-, hyaw, hfar⟩ := h
  rw [checkPrior, if_neg]
  rw [Bool.not_eq_true', Bool.not_eq_false, Bool.and_eq_true, Bool.or_eq_true, Bool.not_eq_true',
    decide_eq_true_iff, decide_eq_true_iff]
  exact ⟨hyaw, hfar⟩

theorem accepted_near_prior {sourceInput targetInput : List (Point K)}
    (hvalid : ValidArguments config descriptorYaw (some prior))
    (hsource : source = sampleFinite sourceInput config.pointStride)
    (htarget : target = sampleFinite targetInput config.pointStride)
    (hsourceSize : config.minimumPoints ≤ source.length)
    (htargetSize : config.minimumPoints ≤ target.length)
    {initial : Planar.Pose2d K} {found : LidarScanMatchResult K}
    (hinitial : initial ∈ initialPoses num source target descriptorYaw (some prior))
    (hrun : runSeed num source target descriptorYaw config initial = .ok found)
    (haccepted : found.accepted = true) (heligible : eligible num config prior found = true) :
    ∃ result, matchLidarScans num sourceInput targetInput descriptorYaw config (some prior) =
      .ok result ∧ result.accepted = true := by
  obtain ⟨results, best, hresults, hbest, hmatch⟩ :=
    matchLidarScans_eq num hvalid hsource htarget hsourceSize htargetSize
  obtain ⟨i, hi⟩ := List.mem_iff_getElem?.mp hinitial
  have hfound : (found, i) ∈ results.zipIdx :=
    List.mem_zipIdx_iff_getElem?.mpr ((mapM_getElem?_eq hresults).mpr ⟨initial, hi, hrun⟩)
  obtain ⟨hnear, hrank⟩ := bestEntry_eligible hbest hfound heligible
  refine ⟨_, hmatch, ?_⟩
  rw [judge, checkPrior_of_eligible hnear]
  simp only [eligible, Bool.and_eq_true] at heligible
  exact accepted_of_rank_le hrank heligible.1.1 heligible.1.2 haccepted

end Acceptance

section SelfMatch

variable {K : Type} [Field K] [LinearOrder K] [IsStrictOrderedRing K] [FloorRing K] [Extended K]
  {num : Numerics K} {scan : List (Point K)} {config : LidarScanMatcherConfig K}

def selfPairs (scan : List (Point K)) : List (Correspondence K) := scan.map fun p ↦ ⟨p, p, 0⟩

omit [IsStrictOrderedRing K] [FloorRing K] [Extended K] in
theorem correspondenceRmse_self (hscan : scan ≠ []) :
    correspondenceRmse num (selfPairs scan) = 0 := by
  have hsum : ((selfPairs scan).map Correspondence.squaredDistance).sum = 0 := by
    refine List.sum_eq_zero ?_
    intro z hz
    simp only [selfPairs, List.map_map, List.mem_map] at hz
    obtain ⟨p, -, rfl⟩ := hz
    rfl
  rw [correspondenceRmse, if_neg (by simp [selfPairs, hscan]), hsum, zero_div, num.sqrt_zero]
  rfl

theorem runSeed_self (hvalid : validateConfig config = .ok ())
    (hsize : config.minimumPoints ≤ scan.length)
    (hobservable : config.minimumObservabilityRatio ≤ observabilityRatio num (selfPairs scan))
    (descriptorYaw : K) :
    ∃ result, runSeed num scan scan descriptorYaw config ⟨0, 0, 0⟩ = .ok result ∧
      result.available = true ∧ result.converged = true ∧ result.accepted = true ∧
      result.targetToSource = ⟨0, 0, 0⟩ := by
  obtain ⟨-, hpoints, hcoarse, hfine, hfinite, hnested, hpositive, htranslation, hrotation,
    hmaximum, hinlier, hrmse, -, -⟩ := validateConfig_ok hvalid
  have hsearch : ∀ distance n, 0 < distance → n ≠ 0 →
      iterateIcp num scan scan ⟨0, 0, 0⟩ distance n config = ⟨⟨0, 0, 0⟩, true, true, 1⟩ := by
    intro distance n hdistance hn
    exact iterateIcp_self hdistance hsize htranslation.le hrotation.le (Nat.pos_of_ne_zero hn)
  have hpairs : finePairs num scan scan config ⟨0, 0, 0⟩ = selfPairs scan :=
    findCorrespondences_self num.toTrigonometry hpositive scan
  have hscan : scan ≠ [] := by
    rintro rfl
    rw [List.length_nil] at hsize
    omega
  have hratio : inlierRatio num scan scan config ⟨0, 0, 0⟩ = 1 := by
    rw [inlierRatio, hpairs, selfPairs, List.length_map, div_self]
    rw [Nat.cast_ne_zero, ne_eq, List.length_eq_zero_iff]
    exact hscan
  obtain ⟨overlap, hoverlap⟩ := evaluateScanOverlap_ok num.toTrigonometry scan scan ⟨0, 0, 0⟩
    ⟨config.fineMaxCorrespondenceM, 1, config.minimumPoints⟩ hpositive hfinite one_ne_zero
    (by dsimp only; omega)
  unfold runSeed
  dsimp only
  rw [hsearch _ _ (hpositive.trans hnested) hcoarse]
  dsimp only
  rw [hsearch _ _ hpositive hfine]
  dsimp only
  rw [hoverlap, hpairs, hratio, correspondenceRmse_self hscan]
  refine ⟨_, rfl, ?_⟩
  rw [verdict, if_neg (by simp), if_neg (by simpa [num.hypot_zero] using hmaximum.le),
    if_neg (not_lt.mpr hinlier), if_neg (by simpa using hrmse.le),
    if_neg (not_lt.mpr hobservable)]
  exact ⟨rfl, rfl, rfl, rfl⟩

theorem matches_self {scanInput : List (Point K)}
    (hvalid : ValidArguments config 0 (some ⟨0, 0, 0⟩))
    (hscan : scan = sampleFinite scanInput config.pointStride)
    (hsize : config.minimumPoints ≤ scan.length)
    (hobservable : config.minimumObservabilityRatio ≤ observabilityRatio num (selfPairs scan)) :
    ∃ result, matchLidarScans num scanInput scanInput 0 config (some ⟨0, 0, 0⟩) = .ok result ∧
      result.accepted = true := by
  obtain ⟨found, hrun, havailable, hconverged, haccepted, hpose⟩ :=
    runSeed_self hvalid.config_ok hsize hobservable 0
  obtain ⟨-, -, -, -, -, -, -, -, -, -, -, -, hyaw, hfar⟩ := validateConfig_ok hvalid.config_ok
  have hinitial := mem_initialPoses num scan scan 0 (some ⟨0, 0, 0⟩)
  rw [normalizeAngle_zero] at hinitial
  refine accepted_near_prior hvalid hscan hscan hsize hsize hinitial hrun haccepted ?_
  have hyawError : priorYawError num ⟨0, 0, 0⟩ ⟨0, 0, 0⟩ = 0 := by
    rw [priorYawError, sub_self, normalizeAngle_zero, abs_zero]
  have hfarError : priorTranslationError num ⟨0, 0, 0⟩ ⟨0, 0, 0⟩ = 0 := by
    rw [priorTranslationError, sub_self, num.hypot_zero]
  rw [eligible, hpose, havailable, hconverged, hyawError, hfarError, decide_eq_false hyaw.not_gt,
    decide_eq_false hfar.not_gt, Bool.and_false]
  rfl

end SelfMatch

section Verdicts

variable {K : Type} [Field K] [LinearOrder K] [FloorRing K] [Extended K]
  {num : Numerics K} {source target : List (Point K)} {config : LidarScanMatcherConfig K}
  {descriptorYaw : K} {odometryPrior : Option (Planar.Pose2d K)} {result : LidarScanMatchResult K}

/-- The limits on the way of a pose from the prior, as they are configured. -/
structure WithinPrior (num : Numerics K) (config : LidarScanMatcherConfig K)
    (prior pose : Planar.Pose2d K) : Prop where
  yaw : priorYawError num prior pose ≤ config.maximumPriorYawDeviationRad
  translation : config.gatePriorTranslation = true →
    priorTranslationError num prior pose ≤ config.maximumPriorTranslationDeviationM

/-- A result of another seed that explains the scans as well by another heading. -/
structure Rival (num : Numerics K) (config : LidarScanMatcherConfig K)
    (best alternative : LidarScanMatchResult K) : Prop where
  available : alternative.available = true
  converged : alternative.converged = true
  separated : config.minimumAmbiguousYawSeparationRad ≤ yawSeparation num alternative best
  overlap : best.bidirectionalOverlapRatio ≤
    alternative.bidirectionalOverlapRatio + config.ambiguityOverlapTolerance
  rmse : alternative.rmseM ≤ best.rmseM + config.ambiguityRmseToleranceM

omit [Extended K] in
theorem checkPrior_accepted {prior : Planar.Pose2d K} {best : LidarScanMatchResult K}
    (h : (checkPrior num config prior best).accepted = true) :
    best.accepted = true ∧ WithinPrior num config prior best.targetToSource := by
  unfold checkPrior at h
  dsimp only at h
  split_ifs at h with hconsistent
  simp only [Bool.not_eq_true', Bool.not_eq_false, Bool.and_eq_true, decide_eq_true_eq,
    Bool.or_eq_true] at hconsistent
  refine ⟨h, hconsistent.1, fun hgate ↦ ?_⟩
  rcases hconsistent.2 with hoff | hclose
  · rw [hoff] at hgate
    cases hgate
  · exact hclose

omit [Extended K] in
theorem checkAmbiguity_accepted {best : Entry K} {entries : List (Entry K)}
    (h : (checkAmbiguity num config best entries).accepted = true) :
    checkAmbiguity num config best entries = best.1 ∧
      ∀ alternative ∈ entries, alternative.2 ≠ best.2 →
        ¬ Rival num config best.1 alternative.1 := by
  rw [checkAmbiguity] at h ⊢
  cases hfound : findAmbiguity num config best entries with
  | some alternative =>
    rw [hfound] at h
    cases h
  | none =>
    refine ⟨rfl, fun alternative hmem hplace hrival ↦ ?_⟩
    have hnot := List.find?_eq_none.mp hfound alternative hmem
    obtain ⟨havailable, hconverged, hseparated, hoverlap, hrmse⟩ := hrival
    simp [hplace, havailable, hconverged, hseparated, nearEqualGeometry, hoverlap, hrmse] at hnot

omit [Extended K] in
theorem checkPrior_fields (num : Numerics K) (config : LidarScanMatcherConfig K)
    (prior : Planar.Pose2d K) (best : LidarScanMatchResult K) :
    ∃ reason accepted used consistent yaw far, checkPrior num config prior best =
      { best with
        rejectionReason := reason
        accepted := accepted
        odometryPriorUsed := used
        odometryPriorConsistent := consistent
        odometryPriorYawErrorRad := yaw
        odometryPriorTranslationErrorM := far } := by
  rw [checkPrior]
  dsimp only
  split_ifs
  · exact ⟨_, _, _, _, _, _, rfl⟩
  · exact ⟨_, _, _, _, _, _, rfl⟩

omit [Extended K] in
theorem judge_accepted (source target : List (Point K)) {best : Entry K} {entries : List (Entry K)}
    (h : (judge num config odometryPrior best entries).accepted = true) :
    best.1.accepted = true ∧
      (∀ initial, Justified num source target config initial best.1 →
        Justified num source target config initial
          (judge num config odometryPrior best entries)) ∧
      (∀ prior ∈ odometryPrior, WithinPrior num config prior
        (judge num config odometryPrior best entries).targetToSource) ∧
      (odometryPrior = none → ∀ alternative ∈ entries, alternative.2 ≠ best.2 →
        ¬ Rival num config (judge num config odometryPrior best entries) alternative.1) := by
  cases odometryPrior with
  | none =>
    rw [judge] at h ⊢
    obtain ⟨hbest, hrivals⟩ := checkAmbiguity_accepted h
    rw [hbest] at h ⊢
    refine ⟨h, fun _ hjustified ↦ hjustified, fun prior hprior ↦ ?_, fun _ ↦ hrivals⟩
    cases hprior
  | some prior =>
    rw [judge] at h ⊢
    obtain ⟨haccepted, hwithin⟩ := checkPrior_accepted h
    obtain ⟨_, _, _, _, _, _, heq⟩ := checkPrior_fields num config prior best.1
    rw [heq]
    refine ⟨haccepted, fun initial hjustified ↦ ?_, fun p hp ↦ ?_, fun hnone ↦ ?_⟩
    · obtain ⟨hfine, hsettled, htranslation, hinlier, hinliers, hrmseEq, hrmse, hobs,
        hobservability⟩ := hjustified
      exact ⟨hfine, hsettled, htranslation, hinlier, hinliers, hrmseEq, hrmse, hobs,
        hobservability⟩
    · cases hp
      exact hwithin
    · cases hnone

end Verdicts

theorem defaultConfig_valid {K : Type} [Field K] [LinearOrder K] [IsStrictOrderedRing K]
    {pointStride minimumPoints : ℕ} (hstride : pointStride ≠ 0) (hpoints : 3 ≤ minimumPoints) :
    validateConfig { (defaultConfig : LidarScanMatcherConfig K) with
      pointStride := pointStride, minimumPoints := minimumPoints } = .ok () := by
  rw [validateConfig, if_neg]
  simp only [defaultConfig, decimal, Extended.isFinite]
  norm_num
  omega

noncomputable def corner : List (Point ℝ) :=
  [⟨-((10 : ℕ) : ℝ), 0⟩, ⟨((10 : ℕ) : ℝ), 0⟩, ⟨0, ((30 : ℕ) : ℝ)⟩]

noncomputable def cornerConfig : LidarScanMatcherConfig ℝ :=
  { defaultConfig with pointStride := 1, minimumPoints := 3 }

theorem corner_sampled : sampleFinite corner 1 = corner := by
  simp [sampleFinite, corner, Extended.isFinite]

theorem corner_observable : observabilityRatio realNumerics (selfPairs corner) = 3⁻¹ := by
  have hroot : realNumerics.sqrt 160000 = 400 := by
    have hsquare : (160000 : ℝ) = 400 ^ 2 := by norm_num
    rw [hsquare]
    exact Real.sqrt_sq (by norm_num)
  have hcenter : centroid corner = ⟨0, 10⟩ := by
    simp only [centroid, corner, List.map_cons, List.map_nil, List.sum_cons, List.sum_nil,
      List.length_cons, List.length_nil]
    norm_num
  have hfixed : (selfPairs corner).map Correspondence.fixed = corner := by
    simp [selfPairs, Function.comp_def]
  rw [observabilityRatio, if_neg (by simp [selfPairs, corner]), hfixed, hcenter]
  simp only [selfPairs, corner, List.map_cons, List.map_nil, List.sum_cons, List.sum_nil]
  norm_num [hroot]

variable {K : Type} [Field K] [LinearOrder K] [FloorRing K] [Extended K]
  {num : Numerics K} {config : LidarScanMatcherConfig K} {odometryPrior : Option (Planar.Pose2d K)}
  {result : LidarScanMatchResult K}

/-- An accepted pose is justified, and either agrees with the prior or has no rival. -/
theorem accepts_justified {sourceInput targetInput : List (Point K)} {descriptorYawOffset : K}
    (h : matchLidarScans num sourceInput targetInput descriptorYawOffset config odometryPrior =
      .ok result) (haccepted : result.accepted = true) :
    let source := sampleFinite sourceInput config.pointStride
    let target := sampleFinite targetInput config.pointStride
    let seeds := initialPoses num source target descriptorYawOffset odometryPrior
    ∃ (i : ℕ) (initial : Planar.Pose2d K), seeds[i]? = some initial ∧
      Justified num source target config initial result ∧
      (∀ prior ∈ odometryPrior, WithinPrior num config prior result.targetToSource) ∧
      (odometryPrior = none → ∀ j ≠ i, ∀ other ∈ seeds[j]?, ∀ alternative,
        runSeed num source target descriptorYawOffset config other = .ok alternative →
        ¬ Rival num config result alternative) := by
  intro source target seeds
  unfold matchLidarScans at h
  split at h
  · cases h
  dsimp only at h
  split_ifs at h with hyaw hprior hfew
  · cases h
    cases haccepted
  split at h
  · cases h
  rename_i results hresults
  split at h
  · rename_i best hbest
    cases h
    obtain ⟨hbestAccepted, hjustified, hwithin, hrivals⟩ :=
      judge_accepted source target haccepted
    have hplace := List.mem_zipIdx_iff_getElem?.mp (mem_of_bestEntry hbest)
    obtain ⟨initial, hinitial, hrun⟩ := (mapM_getElem?_eq hresults).mp hplace
    refine ⟨best.2, initial, hinitial, hjustified _ (runSeed_accepted hrun hbestAccepted),
      hwithin, ?_⟩
    intro hnone j hj other hother alternative halternative
    have hmem : (alternative, j) ∈ results.zipIdx :=
      List.mem_zipIdx_iff_getElem?.mpr
        ((mapM_getElem?_eq hresults).mpr ⟨other, hother, halternative⟩)
    exact hrivals hnone _ hmem hj
  · cases h
    cases haccepted

/-- Three points that do not lie on a line are matched with themselves. -/
theorem corner_justified : ∃ result,
    matchLidarScans realNumerics corner corner 0 cornerConfig (some ⟨0, 0, 0⟩) = .ok result ∧
    ∃ initial, Justified realNumerics (sampleFinite corner 1) (sampleFinite corner 1)
      cornerConfig initial result := by
  have hvalid : ValidArguments cornerConfig 0 (some ⟨0, 0, 0⟩) := by
    refine ⟨defaultConfig_valid one_ne_zero le_rfl, rfl, ?_⟩
    intro prior _
    exact ⟨rfl, rfl, rfl⟩
  have hobservable : cornerConfig.minimumObservabilityRatio ≤
      observabilityRatio realNumerics (selfPairs corner) := by
    rw [corner_observable]
    norm_num [cornerConfig, defaultConfig, decimal]
  obtain ⟨result, hresult, haccepted⟩ :=
    matches_self hvalid corner_sampled.symm le_rfl hobservable
  obtain ⟨-, initial, -, hjustified, -⟩ := accepts_justified hresult haccepted
  exact ⟨result, hresult, initial, hjustified⟩

end EmbodiedAgent.Slam.ScanMatcher
