import EmbodiedAgent.Navigation.GatedOptimum
import EmbodiedAgent.Navigation.DynamicObstacleTracker

namespace EmbodiedAgent.Navigation

open Library Library.History

variable {K : Type*} [Field K] [LinearOrder K]

namespace AxisState

variable {s : AxisState K} {a b : K}

def form (s : AxisState K) (a b : K) : K :=
  a * a * s.p00 + a * b * (s.p01 + s.p10) + b * b * s.p11

structure Usable (s : AxisState K) : Prop where
  symm : s.p01 = s.p10
  pos : ∀ a b, a ≠ 0 → 0 < s.form a b
  nonneg : 0 ≤ s.p11

variable [IsStrictOrderedRing K]

theorem Usable.form_nonneg (h : s.Usable) (a b : K) : 0 ≤ s.form a b := by
  by_cases ha : a = 0
  · have hform : s.form a b = b * b * s.p11 := by
      rw [form, ha]
      ring
    rw [hform]
    exact mul_nonneg (mul_self_nonneg b) h.nonneg
  · exact (h.pos a b ha).le

theorem Usable.p00_pos (h : s.Usable) : 0 < s.p00 := by
  have hform : s.form 1 0 = s.p00 := by
    rw [form]
    ring
  rw [← hform]
  exact h.pos 1 0 one_ne_zero

theorem minimumVariance_pos : (0 : K) < minimumVariance := by norm_num [minimumVariance]

theorem usable_start {position variance : K} (h : 0 < variance) :
    (start position variance).Usable := by
  refine ⟨rfl, fun a b ha ↦ ?_, zero_le_one⟩
  have hform : (start position variance).form a b = a * a * variance + b * b := by
    rw [form, start]
    ring
  rw [hform]
  exact add_pos_of_pos_of_nonneg (mul_pos (mul_self_pos.mpr ha) h) (mul_self_nonneg b)

theorem form_predict {deltaS : K} (h : ¬ deltaS ≤ 0) (s : AxisState K) (q decay a b : K) :
    (s.predict deltaS q decay).form a b = s.form a (a * deltaS + clamp decay 0 1 * b) +
        stdMax 0 q * (a * (deltaS * deltaS) / 2 + b * deltaS) ^ 2 := by
  have htwo : (2.0 : K) = 2 := by norm_num
  have hfour : (4.0 : K) = 4 := by norm_num
  rw [predict, if_neg h, form, form]
  dsimp only
  rw [htwo, hfour]
  ring

theorem Usable.predict (h : s.Usable) (deltaS q decay : K) : (s.predict deltaS q decay).Usable := by
  by_cases hdelta : deltaS ≤ 0
  · rw [AxisState.predict, if_pos hdelta]
    exact h
  have hq : 0 ≤ stdMax 0 q := by
    rw [stdMax_eq_max]
    exact le_max_left 0 q
  refine ⟨?_, fun a b ha ↦ ?_, ?_⟩
  · rw [AxisState.predict, if_neg hdelta]
    dsimp only
    rw [h.symm]
  · rw [form_predict hdelta]
    exact add_pos_of_pos_of_nonneg (h.pos _ _ ha) (mul_nonneg hq (sq_nonneg _))
  · rw [AxisState.predict, if_neg hdelta]
    dsimp only
    exact add_nonneg (mul_nonneg (mul_self_nonneg _) h.nonneg)
      (mul_nonneg hq (mul_self_nonneg _))

theorem Usable.innovationVariance (h : s.Usable) (measurementVariance : K) :
    s.innovationVariance measurementVariance =
      s.p00 + stdMax measurementVariance minimumVariance := by
  rw [AxisState.innovationVariance, stdMax_eq_max _ (minimumVariance : K)]
  refine max_eq_left ?_
  rw [stdMax_eq_max]
  exact (le_max_right _ _).trans (le_add_of_nonneg_left h.p00_pos.le)

omit [LinearOrder K] [IsStrictOrderedRing K] in
theorem form_updated {s : AxisState K} (hsymm : s.p01 = s.p10) {r S k : K} (hS : S = s.p00 + r)
    (hne : S ≠ 0) (a b : K) (hk : k = s.p00 / S * a + s.p10 / S * b) :
    a * a * ((1 - s.p00 / S) * s.p00) +
        a * b * ((1 - s.p00 / S) * s.p01 + (1 - s.p00 / S) * s.p01) +
        b * b * (s.p11 - s.p10 / S * s.p01) = s.form (a - k) b + r * k ^ 2 := by
  have hr : r = S - s.p00 := by
    rw [hS]
    ring
  rw [form, hk, hr, hsymm]
  field_simp
  ring

theorem Usable.update (h : s.Usable) (measurement measurementVariance : K) :
    (s.update measurement measurementVariance).Usable := by
  have hr : 0 < stdMax measurementVariance minimumVariance := by
    rw [stdMax_eq_max]
    exact lt_max_of_lt_right minimumVariance_pos
  have hS := h.innovationVariance measurementVariance
  have hSpos : 0 < s.innovationVariance measurementVariance := by
    rw [hS]
    exact add_pos h.p00_pos hr
  generalize stdMax measurementVariance minimumVariance = r at hr hS
  rw [AxisState.update]
  generalize s.innovationVariance measurementVariance = S at hS hSpos
  refine ⟨rfl, fun a b ha ↦ ?_, ?_⟩
  · have hbase := form_updated h.symm hS hSpos.ne' a b rfl
    have hx : (1 - s.p00 / S) * s.p00 ≤ stdMax ((1 - s.p00 / S) * s.p00) minimumVariance := by
      rw [stdMax_eq_max]
      exact le_max_left _ _
    have hy : s.p11 - s.p10 / S * s.p01 ≤ stdMax (s.p11 - s.p10 / S * s.p01) minimumVariance := by
      rw [stdMax_eq_max]
      exact le_max_left _ _
    generalize s.p00 / S * a + s.p10 / S * b = k at hbase
    have hpos : 0 < s.form (a - k) b + r * k ^ 2 := by
      by_cases hk : k = 0
      · rw [hk, sub_zero]
        exact add_pos_of_pos_of_nonneg (h.pos a b ha) (mul_nonneg hr.le (sq_nonneg 0))
      · exact add_pos_of_nonneg_of_pos (h.form_nonneg _ _) (mul_pos hr (sq_pos_of_ne_zero hk))
    rw [← hbase] at hpos
    refine hpos.trans_le (add_le_add (add_le_add ?_ le_rfl) ?_)
    · exact mul_le_mul_of_nonneg_left hx (mul_self_nonneg a)
    · exact mul_le_mul_of_nonneg_left hy (mul_self_nonneg b)
  · dsimp only
    rw [stdMax_eq_max]
    exact le_max_of_le_right minimumVariance_pos.le

omit [LinearOrder K] [IsStrictOrderedRing K] in
theorem form_mixAxis (sources : Fin 2 → AxisState K) (weights : Fin 2 → K) (a b : K) :
    ∃ d : Fin 2 → K, (mixAxis sources weights).form a b =
      weights 0 * ((sources 0).form a b + d 0 ^ 2) +
        weights 1 * ((sources 1).form a b + d 1 ^ 2) := by
  refine ⟨fun i ↦ a * ((sources i).position - (mixAxis sources weights).position) +
    b * ((sources i).velocity - (mixAxis sources weights).velocity), ?_⟩
  rw [form, mixAxis, form, form]
  dsimp only
  ring

theorem mixture_pos {weights part : Fin 2 → K} (hweights : ∀ i, 0 ≤ weights i)
    (hsum : weights 0 + weights 1 = 1) (hpart : ∀ i, 0 < part i) :
    0 < weights 0 * part 0 + weights 1 * part 1 := by
  rcases (hweights 0).lt_or_eq with hpos | hzero
  · exact add_pos_of_pos_of_nonneg (mul_pos hpos (hpart 0)) (mul_nonneg (hweights 1) (hpart 1).le)
  · rw [← hzero, zero_add] at hsum
    rw [← hzero, hsum, zero_mul, zero_add, one_mul]
    exact hpart 1

theorem usable_mixAxis {sources : Fin 2 → AxisState K} {weights : Fin 2 → K}
    (hsources : ∀ i, (sources i).Usable) (hweights : ∀ i, 0 ≤ weights i)
    (hsum : weights 0 + weights 1 = 1) : (mixAxis sources weights).Usable := by
  refine ⟨?_, fun a b ha ↦ ?_, ?_⟩
  · rw [mixAxis]
    dsimp only
    rw [(hsources 0).symm, (hsources 1).symm]
    ring
  · obtain ⟨d, hform⟩ := form_mixAxis sources weights a b
    rw [hform]
    have hpart : ∀ i, 0 < (sources i).form a b + d i ^ 2 :=
      fun i ↦ add_pos_of_pos_of_nonneg ((hsources i).pos a b ha) (sq_nonneg _)
    exact mixture_pos hweights hsum hpart
  · exact add_nonneg
      (mul_nonneg (hweights 0) (add_nonneg (hsources 0).nonneg (mul_self_nonneg _)))
      (mul_nonneg (hweights 1) (add_nonneg (hsources 1).nonneg (mul_self_nonneg _)))

end AxisState

namespace ImmEstimator

variable {e : ImmEstimator K}

structure Usable (e : ImmEstimator K) : Prop where
  models : ∀ i, (e.models i).x.Usable ∧ (e.models i).y.Usable
  nonneg : ∀ i, 0 ≤ e.probabilities i
  sum : e.probabilities 0 + e.probabilities 1 = 1
  stay : 0.5 ≤ e.stayProbability ∧ e.stayProbability ≤ 0.999

variable [IsStrictOrderedRing K]

theorem Usable.transition (h : e.Usable) (source target : Fin 2) :
    0.001 ≤ e.transition source target := by
  obtain ⟨hlow, hhigh⟩ := h.stay
  rw [ImmEstimator.transition]
  split_ifs
  · exact le_trans (by norm_num) hlow
  · have : (0.001 : K) = 1 - 0.999 := by norm_num
    rw [this]
    exact sub_le_sub_left hhigh 1

theorem Usable.priorProbability (h : e.Usable) (target : Fin 2) :
    0.001 ≤ e.priorProbability target := by
  have h0 := mul_le_mul_of_nonneg_left (h.transition 0 target) (h.nonneg 0)
  have h1 := mul_le_mul_of_nonneg_left (h.transition 1 target) (h.nonneg 1)
  calc
    (0.001 : K) = (e.probabilities 0 + e.probabilities 1) * 0.001 := by rw [h.sum, one_mul]
    _ = e.probabilities 0 * 0.001 + e.probabilities 1 * 0.001 := add_mul _ _ _
    _ ≤ e.priorProbability target := add_le_add h0 h1

theorem Usable.priorProbability_pos (h : e.Usable) (target : Fin 2) :
    0 < e.priorProbability target :=
  lt_of_lt_of_le (by norm_num) (h.priorProbability target)

theorem Usable.weights (h : e.Usable) (target : Fin 2) : (∀ source, 0 ≤ e.weights target source) ∧
      e.weights target 0 + e.weights target 1 = 1 := by
  have hprior := h.priorProbability_pos target
  have hdenominator : stdMax (e.priorProbability target) minimumLikelihood =
      e.priorProbability target := by
    rw [stdMax_eq_max]
    exact max_eq_left (le_trans (by norm_num [minimumLikelihood]) (h.priorProbability target))
  refine ⟨fun source ↦ ?_, ?_⟩
  · rw [ImmEstimator.weights, hdenominator]
    have htransition : 0 ≤ e.transition source target :=
      le_trans (by norm_num) (h.transition source target)
    exact div_nonneg (mul_nonneg (h.nonneg source) htransition) hprior.le
  · rw [ImmEstimator.weights, ImmEstimator.weights, hdenominator, ← add_div]
    exact div_self hprior.ne'

theorem usable_predictModel (e : ImmEstimator K) {state : ModelState K}
    (hstate : state.x.Usable ∧ state.y.Usable) (model : Fin 2) (deltaS : K) :
    (e.predictModel model state deltaS).x.Usable ∧ (e.predictModel model state deltaS).y.Usable :=
  ⟨hstate.1.predict _ _ _, hstate.2.predict _ _ _⟩

theorem Usable.mixedModels (h : e.Usable) (target : Fin 2) :
    (e.mixedModels target).x.Usable ∧ (e.mixedModels target).y.Usable := by
  obtain ⟨hweights, hsum⟩ := h.weights target
  exact ⟨AxisState.usable_mixAxis (fun i ↦ (h.models i).1) hweights hsum,
    AxisState.usable_mixAxis (fun i ↦ (h.models i).2) hweights hsum⟩

theorem normalized_sum {posterior : Fin 2 → K} (h : ∀ i, 0 < posterior i) :
    (∀ i, 0 ≤ normalized posterior i) ∧ normalized posterior 0 + normalized posterior 1 = 1 := by
  have hnormalizer : 0 < posterior 0 + posterior 1 := add_pos (h 0) (h 1)
  rw [normalized]
  split_ifs
  · exact ⟨fun i ↦ div_nonneg (h i).le hnormalizer.le, by
      rw [← add_div, div_self hnormalizer.ne']⟩
  · exact ⟨fun _ ↦ by norm_num, by norm_num⟩

theorem likelihood_pos (density : K → K → K) (s : AxisState K) (measurement variance : K) :
    0 < s.likelihood density measurement variance := by
  rw [AxisState.likelihood, stdMax_eq_max]
  exact lt_max_of_lt_right (by norm_num [minimumLikelihood])

theorem Usable.update (h : e.Usable) (density : K → K → K) (observation : Point2d K)
    (timestampS : K) : (e.update density observation timestampS).1.Usable := by
  have hpredicted := fun model ↦ e.usable_predictModel (h.mixedModels model) model
    (stdMax 0 (timestampS - e.timestampS))
  obtain ⟨hnonneg, hsum⟩ := @normalized_sum K _ _ _ (fun model ↦ e.priorProbability model *
    (e.predictModel model (e.mixedModels model)
      (stdMax 0 (timestampS - e.timestampS))).x.likelihood density observation.x
        e.measurementVariance *
    (e.predictModel model (e.mixedModels model)
      (stdMax 0 (timestampS - e.timestampS))).y.likelihood density observation.y
        e.measurementVariance) fun model ↦
    mul_pos (mul_pos (h.priorProbability_pos model) (likelihood_pos _ _ _ _))
      (likelihood_pos _ _ _ _)
  exact ⟨fun model ↦ ⟨(hpredicted model).1.update _ _, (hpredicted model).2.update _ _⟩, hnonneg,
    hsum, h.stay⟩

theorem mixedEstimate_pos {models : Fin 2 → ModelState K} {probabilities : Fin 2 → K}
    (hmodels : ∀ i, (models i).x.Usable ∧ (models i).y.Usable)
    (hnonneg : ∀ i, 0 ≤ probabilities i) (hsum : probabilities 0 + probabilities 1 = 1) :
    0 < (mixedEstimate models probabilities).positionVariance.x ∧
      0 < (mixedEstimate models probabilities).positionVariance.y := by
  have hspread : ∀ (axis : ModelState K → AxisState K) (position : K),
      (∀ i, (axis (models i)).Usable) → ∀ i, 0 < (axis (models i)).p00 +
        ((axis (models i)).position - position) * ((axis (models i)).position - position) :=
    fun axis position h i ↦ add_pos_of_pos_of_nonneg (h i).p00_pos (mul_self_nonneg _)
  exact ⟨AxisState.mixture_pos hnonneg hsum (hspread ModelState.x _ fun i ↦ (hmodels i).1),
    AxisState.mixture_pos hnonneg hsum (hspread ModelState.y _ fun i ↦ (hmodels i).2)⟩

end ImmEstimator

namespace MotionEstimator

def Usable : MotionEstimator K → Prop
  | .currentOnly e => 0 < e.positionVariance
  | .constantVelocity e => 0 < e.positionVariance
  | .kalman e => e.x.Usable ∧ e.y.Usable
  | .imm e => e.Usable

variable [IsStrictOrderedRing K] {e : MotionEstimator K}

theorem Usable.update (h : e.Usable) (density : K → K → K) (observation : Point2d K)
    (timestampS : K) : (e.update density observation timestampS).1.Usable := by
  cases e with
  | currentOnly e => exact h
  | constantVelocity e => exact h
  | kalman e => exact ⟨(h.1.predict _ _ _).update _ _, (h.2.predict _ _ _).update _ _⟩
  | imm e => exact ImmEstimator.Usable.update h density observation timestampS

theorem Usable.predict (h : e.Usable) (timestampS : K) :
    0 < (e.predict timestampS).positionVariance.x ∧
      0 < (e.predict timestampS).positionVariance.y := by
  cases e with
  | currentOnly e => exact ⟨h, h⟩
  | constantVelocity e => exact ⟨h, h⟩
  | kalman e => exact ⟨(h.1.predict _ _ _).p00_pos, (h.2.predict _ _ _).p00_pos⟩
  | imm e =>
    exact ImmEstimator.mixedEstimate_pos
      (fun model ↦ e.usable_predictModel (ImmEstimator.Usable.models h model) model _)
      (ImmEstimator.Usable.nonneg h) (ImmEstimator.Usable.sum h)

theorem usable_make (observation : Point2d K) (timestampS : K) (config : TrackerConfig K) :
    (make observation timestampS config).Usable := by
  have hvariance : 0 < stdMax config.measurementNoiseVariance minimumVariance := by
    rw [stdMax_eq_max]
    exact lt_max_of_lt_right AxisState.minimumVariance_pos
  rw [make]
  cases config.motionModel with
  | currentOnly => exact hvariance
  | constantVelocity => exact hvariance
  | kalman => exact ⟨AxisState.usable_start hvariance, AxisState.usable_start hvariance⟩
  | imm =>
    refine ⟨fun _ ↦ ⟨AxisState.usable_start hvariance, AxisState.usable_start hvariance⟩,
      fun _ ↦ by norm_num, by norm_num, ?_⟩
    dsimp only
    rw [clamp]
    split_ifs with hlow hhigh
    · exact ⟨le_rfl, by norm_num⟩
    · exact ⟨by norm_num, le_rfl⟩
    · exact ⟨not_lt.mp hlow, not_lt.mp hhigh⟩

end MotionEstimator

namespace DynamicObstacleTracker

variable [IsStrictOrderedRing K] {tracker : DynamicObstacleTracker K} {density : K → K → K}
  {observations : List (Point2d K)} {timestampS : K}

def Usable (tracker : DynamicObstacleTracker K) : Prop :=
  ∀ track ∈ tracker.tracks, track.estimator.Usable

omit [IsStrictOrderedRing K] in
theorem Usable.prune (h : tracker.Usable) : (tracker.prune timestampS).Usable :=
  fun track htrack ↦ h track (List.mem_of_mem_filter htrack)

omit [IsStrictOrderedRing K] in
theorem mem_followed {assignments : ObservationAssignment} {track : InternalTrack K}
    (h : track ∈ tracker.followed density observations timestampS assignments) :
    ∃ before ∈ tracker.tracks, ∃ observation,
      track = before.follow tracker.config timestampS density observation := by
  rw [followed, ← List.map_uncurry_zip_eq_zipWith] at h
  obtain ⟨⟨before, choice⟩, hzip, rfl⟩ := List.mem_map.mp h
  exact ⟨before, (List.of_mem_zip hzip).1, _, rfl⟩

omit [IsStrictOrderedRing K] in
theorem mem_created {indices : List ℕ} {track : InternalTrack K}
    (h : track ∈ tracker.created observations timestampS indices) :
    ∃ number observation, track = .create tracker.config timestampS number observation := by
  obtain ⟨⟨observation, k⟩, -, rfl⟩ := List.mem_map.mp h
  exact ⟨_, observation, rfl⟩

theorem usable_follow {track : InternalTrack K} (h : track.estimator.Usable)
    (config : TrackerConfig K) (observation : Option (Point2d K)) :
    (track.follow config timestampS density observation).estimator.Usable := by
  cases observation with
  | none => exact h
  | some observation => exact h.update density observation timestampS

theorem Usable.update (h : tracker.Usable) :
    (tracker.update density observations timestampS).1.Usable := by
  rw [DynamicObstacleTracker.update]
  have hpruned : (tracker.prune timestampS).Usable := h.prune
  generalize tracker.prune timestampS = pruned at hpruned
  dsimp only
  cases pruned.assign observations timestampS with
  | error message => exact hpruned
  | ok assigned =>
    cases assigned with
    | none => exact hpruned
    | some assignments =>
      intro track htrack
      rcases List.mem_append.mp htrack with hfollowed | hcreated
      · obtain ⟨before, hbefore, observation, rfl⟩ := mem_followed hfollowed
        exact usable_follow (hpruned before hbefore) _ _
      · obtain ⟨number, observation, rfl⟩ := mem_created hcreated
        exact MotionEstimator.usable_make _ _ _

omit [IsStrictOrderedRing K] in
theorem config_update : (tracker.update density observations timestampS).1.config =
    tracker.config := by
  rw [DynamicObstacleTracker.update]
  dsimp only
  cases (tracker.prune timestampS).assign observations timestampS with
  | error message => rfl
  | ok assigned => cases assigned <;> rfl

theorem usable_after (density : K → K → K) (config : TrackerConfig K) (h : List (TrackerCall K)) :
    (after density config h).config = config ∧ (after density config h).Usable := by
  refine run_preserves (step density)
    (I := fun tracker ↦ tracker.config = config ∧ tracker.Usable) (fun tracker call hI ↦ ?_)
    ⟨rfl, fun track htrack ↦ absurd htrack List.not_mem_nil⟩ h
  cases call with
  | update observations timestampS => exact ⟨config_update.trans hI.1, hI.2.update⟩
  | clear => exact ⟨hI.1, fun track htrack ↦ absurd htrack List.not_mem_nil⟩

end DynamicObstacleTracker

section Validation

/-- The numbers of the configuration that are passed on to the assignment are valid. -/
def TrackerConfig.Valid (config : TrackerConfig K) : Prop :=
  0 < config.associationDistanceM ∧ 0 ≤ config.measurementNoiseVariance ∧
    0 < config.associationNisGate

theorem assignGatedObservations_invalid {predictions : List (AssociationPrediction K)}
    {observations : List (Point2d K)} {noise distance gate : K} {strategy : AssociationStrategy}
    {metric : AssociationMetric} (h : ¬ (0 < distance ∧ 0 ≤ noise ∧ 0 < gate)) :
    ∃ message, assignGatedObservations predictions observations noise distance gate strategy
      metric = .error message := by
  have hfinite : ∀ x : K, (!Extended.isFinite x) = false := fun x ↦ rfl
  rw [assignGatedObservations, hfinite, hfinite, hfinite]
  by_cases hdistance : distance ≤ 0
  · rw [decide_eq_true hdistance]
    exact ⟨_, rfl⟩
  rw [decide_eq_false hdistance]
  by_cases hnoise : noise < 0
  · rw [decide_eq_true hnoise]
    exact ⟨_, rfl⟩
  rw [decide_eq_false hnoise]
  by_cases hgate : gate ≤ 0
  · rw [decide_eq_true hgate]
    exact ⟨_, rfl⟩
  · exact absurd ⟨not_le.mp hdistance, not_lt.mp hnoise, not_le.mp hgate⟩ h

variable [IsStrictOrderedRing K]

theorem DynamicObstacleTracker.Usable.invalidArgument_iff {tracker : DynamicObstacleTracker K}
    (h : tracker.Usable) (density : K → K → K) (observations : List (Point2d K)) (timestampS : K) :
    (∃ message, (tracker.update density observations timestampS).2 = .invalidArgument message) ↔
      ¬ tracker.config.Valid := by
  have hpruned : (tracker.prune timestampS).Usable := h.prune
  rw [DynamicObstacleTracker.update, DynamicObstacleTracker.assign]
  have hconfig : (tracker.prune timestampS).config = tracker.config := rfl
  generalize tracker.prune timestampS = pruned at hpruned hconfig
  rw [← hconfig]
  dsimp only
  by_cases hvalid : pruned.config.Valid
  · refine iff_of_false (fun ⟨message, hmessage⟩ ↦ ?_) (not_not_intro hvalid)
    have hvariance : ∀ p ∈ pruned.tracks.map (·.prediction timestampS),
        0 ≤ p.positionVariance.x ∧ 0 ≤ p.positionVariance.y := by
      intro p hp
      obtain ⟨track, htrack, rfl⟩ := List.mem_map.mp hp
      exact ((hpruned track htrack).predict timestampS).imp le_of_lt le_of_lt
    rw [assignGatedObservations_valid _ _ _ _ _ _ hvalid.1 hvalid.2.1 hvalid.2.2 hvariance]
      at hmessage
    cases hstrategy : pruned.config.associationStrategy with
    | greedyNearest =>
      rw [hstrategy] at hmessage
      cases hmessage
    | globalNearest =>
      rw [hstrategy] at hmessage
      dsimp only at hmessage
      split at hmessage
      · rename_i heq
        cases heq
      · cases hmessage
      · cases hmessage
  · obtain ⟨message, hmessage⟩ := @assignGatedObservations_invalid K _ _
      (pruned.tracks.map (·.prediction timestampS)) observations _ _ _
      pruned.config.associationStrategy pruned.config.associationMetric hvalid
    rw [hmessage]
    exact iff_of_true ⟨message, rfl⟩ hvalid

end Validation

variable [IsStrictOrderedRing K]

def AxisState.PositiveSemidefinite (s : AxisState K) : Prop :=
  s.p01 = s.p10 ∧ (∀ a b, 0 ≤ s.form a b) ∧ 0 < s.p00

theorem AxisState.Usable.positiveSemidefinite {s : AxisState K} (h : s.Usable) :
    s.PositiveSemidefinite := ⟨h.symm, h.form_nonneg, h.p00_pos⟩

theorem estimators_usable (density : K → K → K) (config : TrackerConfig K)
    (h : List (TrackerCall K)) : let tracker := DynamicObstacleTracker.after density config h
    (∀ track ∈ tracker.tracks,
      (∀ e, track.estimator = .kalman e →
        e.x.PositiveSemidefinite ∧ e.y.PositiveSemidefinite) ∧
      (∀ e, track.estimator = .imm e →
        (∀ i, (e.models i).x.PositiveSemidefinite ∧ (e.models i).y.PositiveSemidefinite) ∧
        (∀ i, 0 ≤ e.probabilities i) ∧ e.probabilities 0 + e.probabilities 1 = 1) ∧
      ∀ timestampS, 0 < (track.prediction timestampS).positionVariance.x ∧
        0 < (track.prediction timestampS).positionVariance.y) ∧
    ∀ observations timestampS,
      (∃ message, (tracker.update density observations timestampS).2 =
        .invalidArgument message) ↔ ¬ config.Valid := by
  obtain ⟨hconfig, husable⟩ := DynamicObstacleTracker.usable_after density config h
  refine ⟨fun track htrack ↦ ⟨fun e he ↦ ?_, fun e he ↦ ?_, fun timestampS ↦ ?_⟩,
    fun observations timestampS ↦ ?_⟩
  · have hestimator := husable track htrack
    rw [he] at hestimator
    exact ⟨hestimator.1.positiveSemidefinite, hestimator.2.positiveSemidefinite⟩
  · have hestimator := husable track htrack
    rw [he] at hestimator
    replace hestimator : e.Usable := hestimator
    exact ⟨fun i ↦ ⟨(hestimator.models i).1.positiveSemidefinite,
      (hestimator.models i).2.positiveSemidefinite⟩, hestimator.nonneg, hestimator.sum⟩
  · exact (husable track htrack).predict timestampS
  · rw [husable.invalidArgument_iff density observations timestampS, hconfig]

/-- With the default numbers, no update of an interacting estimator is refused. -/
theorem estimators_usable_default : ¬ ∃ message, ((DynamicObstacleTracker.after (fun _ _ ↦ 1)
      { (.default : TrackerConfig ℚ) with motionModel := .imm }
      [.update [⟨0, 0⟩] 0, .update [⟨1 / 2, 0⟩] 1]).update (fun _ _ ↦ 1) [⟨1, 0⟩] 2).2 =
        .invalidArgument message := by
  intro hrefused
  refine ((estimators_usable (fun _ _ ↦ 1) { (.default : TrackerConfig ℚ) with motionModel := .imm }
    [.update [⟨0, 0⟩] 0, .update [⟨1 / 2, 0⟩] 1]).2 [⟨1, 0⟩] 2).mp hrefused ⟨?_, ?_, ?_⟩
  · norm_num [TrackerConfig.default]
  · norm_num [TrackerConfig.default]
  · norm_num [TrackerConfig.default]

/-- A negative noise variance is refused with the first update. -/
theorem negative_noise_refused : ¬ ∀ (config : TrackerConfig ℚ) (observations : List (Point2d ℚ))
    (timestampS : ℚ) (message : String),
    ((DynamicObstacleTracker.after (fun _ _ ↦ 1) config []).update (fun _ _ ↦ 1) observations
      timestampS).2 ≠ .invalidArgument message := by
  intro h
  exact h { (.default : TrackerConfig ℚ) with measurementNoiseVariance := -1 } [] 0
    "measurement noise variance must be finite and non-negative" (by decide +kernel)

end EmbodiedAgent.Navigation
