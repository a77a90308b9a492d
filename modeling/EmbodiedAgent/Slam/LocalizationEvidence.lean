import EmbodiedAgent.Library.Arithmetic
import EmbodiedAgent.Library.Dictionary
import EmbodiedAgent.Library.TimeSeries

namespace EmbodiedAgent.Slam.LocalizationEvidence

open Library TimeSeries

section Model

structure LocalizationSample (K : Type) where
  timestampS : K
  xM : K
  yM : K

structure QualityThresholds (K : Type) where
  maximumPositionErrorP95M : K
  maximumAlignmentGapS : K
  minimumAlignedSamples : ℤ

structure QualityChecks where
  timeRangesOverlap : Bool
  uniqueSampleTimestamps : Bool
  minimumAlignedSamples : Bool
  positionErrorP95 : Bool

structure QualityMetrics (K : Type) where
  amclSampleCount : ℕ
  gazeboSampleCount : ℕ
  uniqueAmclSampleCount : ℕ
  uniqueGazeboSampleCount : ℕ
  duplicateAmclTimestampCount : ℕ
  duplicateGazeboTimestampCount : ℕ
  alignedSampleCount : ℕ
  alignmentSupportCount : ℕ
  positionErrorP95M : Option K
  positionErrorMaxM : Option K

structure QualityReport (K : Type) where
  passed : Bool
  checks : QualityChecks
  metrics : QualityMetrics K
  thresholds : QualityThresholds K

structure Support where
  left : ℕ
  right : ℕ
  deriving DecidableEq

abbrev Aligned (K : Type) := K × LocalizationSample K × LocalizationSample K

variable {K : Type} [Field K] [LinearOrder K]

def keepUnique (unique : List (LocalizationSample K) × ℕ) (sample : LocalizationSample K) :
    List (LocalizationSample K) × ℕ :=
  match unique.1.getLast? with
  | none => (unique.1 ++ [sample], unique.2)
  | some last =>
    if sample.timestampS = last.timestampS then (unique.1, unique.2 + 1)
    else (unique.1 ++ [sample], unique.2)

def uniqueTimestampSamples (samples : List (LocalizationSample K)) :
    List (LocalizationSample K) × ℕ :=
  samples.foldl keepUnique ([], 0)

def nearestTruth (sample : LocalizationSample K) (truthSamples : List (LocalizationSample K))
    (maximumGapS : K) (nearestIndex : ℕ) : Option (LocalizationSample K × Support × K) :=
  match truthSamples[nearestIndex]? with
  | none => none
  | some nearest =>
    let gapS := |nearest.timestampS - sample.timestampS|
    if maximumGapS + slack < gapS then none
    else some (nearest, ⟨nearestIndex, nearestIndex⟩, gapS)

def interpolated (sample left right : LocalizationSample K) : LocalizationSample K :=
  let ratio := (sample.timestampS - left.timestampS) / (right.timestampS - left.timestampS)
  { timestampS := sample.timestampS
    xM := left.xM + ratio * (right.xM - left.xM)
    yM := left.yM + ratio * (right.yM - left.yM) }

def alignedTruthSample (sample : LocalizationSample K)
    (truthSamples : List (LocalizationSample K)) (maximumGapS : K) :
    Option (LocalizationSample K × Support × K) :=
  let rightIndex := bisectLeft (truthSamples.map LocalizationSample.timestampS) sample.timestampS
  match truthSamples[rightIndex]? with
  | none => nearestTruth sample truthSamples maximumGapS (truthSamples.length - 1)
  | some right =>
    if right.timestampS = sample.timestampS then some (right, ⟨rightIndex, rightIndex⟩, 0)
    else if rightIndex = 0 then nearestTruth sample truthSamples maximumGapS 0
    else
      match truthSamples[rightIndex - 1]? with
      | none => none
      | some left =>
        let leftGap := sample.timestampS - left.timestampS
        let rightGap := right.timestampS - sample.timestampS
        if leftGap ≤ maximumGapS + slack ∧ rightGap ≤ maximumGapS + slack then
          some (interpolated sample left right, ⟨rightIndex - 1, rightIndex⟩,
            max leftGap rightGap)
        else
          nearestTruth sample truthSamples maximumGapS
            (if leftGap ≤ rightGap then rightIndex - 1 else rightIndex)

def timeRangesOverlap (amcl gazebo : List (LocalizationSample K)) : Bool :=
  match amcl.head?, gazebo.head?, amcl.getLast?, gazebo.getLast? with
  | some firstAmcl, some firstGazebo, some lastAmcl, some lastGazebo =>
    max firstAmcl.timestampS firstGazebo.timestampS ≤
      min lastAmcl.timestampS lastGazebo.timestampS
  | _, _, _, _ => false

def keepNearest (gazebo : List (LocalizationSample K)) (maximumGapS : K)
    (alignedBySupport : List (Support × Aligned K)) (sample : LocalizationSample K) :
    List (Support × Aligned K) :=
  match alignedTruthSample sample gazebo maximumGapS with
  | none => alignedBySupport
  | some (truth, support, gapS) =>
    match alignedBySupport.lookup support with
    | none => Dictionary.setItem alignedBySupport support (gapS, sample, truth)
    | some previous =>
      if gapS < previous.1 then
        Dictionary.setItem alignedBySupport support (gapS, sample, truth)
      else alignedBySupport

def alignedBySupport (amcl gazebo : List (LocalizationSample K)) (maximumGapS : K) :
    List (Support × Aligned K) :=
  if timeRangesOverlap amcl gazebo then amcl.foldl (keepNearest gazebo maximumGapS) [] else []

def nearestRankPercentile [FloorRing K] (values : List K) (percentile : K) : Option K :=
  let ordered := values.insertionSort (· ≤ ·)
  if ordered.isEmpty then none
  else
    let rank := max 1 ⌈percentile * (ordered.length : K)⌉₊
    ordered[rank - 1]?

def validateThresholds (thresholds : QualityThresholds K) : Except String Unit :=
  if thresholds.maximumPositionErrorP95M < 0 then
    .error "maximum position error must be non-negative"
  else if thresholds.maximumAlignmentGapS < 0 then
    .error "maximum alignment gap must be non-negative"
  else if thresholds.minimumAlignedSamples ≤ 0 then
    .error "minimum aligned samples must be positive"
  else .ok ()

def qualityReport [FloorRing K] (hypot : K → K → K)
    (rawAmcl rawGazebo : List (LocalizationSample K)) (thresholds : QualityThresholds K) :
    QualityReport K :=
  let amcl := uniqueTimestampSamples rawAmcl
  let gazebo := uniqueTimestampSamples rawGazebo
  let aligned := alignedBySupport amcl.1 gazebo.1 thresholds.maximumAlignmentGapS
  let errors := aligned.map fun (_, _, sample, truth) ↦
    hypot (sample.xM - truth.xM) (sample.yM - truth.yM)
  let p95 := nearestRankPercentile errors (((95 : ℕ) : K) / ((100 : ℕ) : K))
  let checks : QualityChecks :=
    { timeRangesOverlap := timeRangesOverlap amcl.1 gazebo.1
      uniqueSampleTimestamps := amcl.2 == 0 && gazebo.2 == 0
      minimumAlignedSamples := thresholds.minimumAlignedSamples ≤ errors.length
      positionErrorP95 := p95.any (· ≤ thresholds.maximumPositionErrorP95M + slack) }
  { passed := checks.timeRangesOverlap && checks.uniqueSampleTimestamps &&
      checks.minimumAlignedSamples && checks.positionErrorP95
    checks := checks
    metrics :=
      { amclSampleCount := rawAmcl.length
        gazeboSampleCount := rawGazebo.length
        uniqueAmclSampleCount := amcl.1.length
        uniqueGazeboSampleCount := gazebo.1.length
        duplicateAmclTimestampCount := amcl.2
        duplicateGazeboTimestampCount := gazebo.2
        alignedSampleCount := errors.length
        alignmentSupportCount := aligned.length
        positionErrorP95M := p95
        positionErrorMaxM := errors.max? }
    thresholds := thresholds }

def evaluateLocalizationQuality [FloorRing K] (hypot : K → K → K)
    (amclSamples gazeboSamples : List (LocalizationSample K))
    (thresholds : QualityThresholds K) : Except String (QualityReport K) :=
  match validateThresholds thresholds with
  | .error e => .error e
  | .ok () =>
    .ok (qualityReport hypot (sortedBy LocalizationSample.timestampS amclSamples)
      (sortedBy LocalizationSample.timestampS gazeboSamples) thresholds)

end Model

section Frames

variable {K : Type} [LinearOrder K] {samples done : List (LocalizationSample K)}
  {unique : List (LocalizationSample K) × ℕ}

structure Distinct (done : List (LocalizationSample K))
    (unique : List (LocalizationSample K) × ℕ) : Prop where
  increasing : (unique.1.map LocalizationSample.timestampS).Pairwise (· < ·)
  source : ∀ s ∈ unique.1, s ∈ done
  cover : ∀ s ∈ done, ∃ s' ∈ unique.1, s'.timestampS = s.timestampS
  count : unique.2 + unique.1.length = done.length

theorem keepUnique_cases (h : Distinct done unique) {sample : LocalizationSample K}
    (hlater : ∀ s ∈ done, s.timestampS ≤ sample.timestampS) :
    (∃ s ∈ unique.1, s.timestampS = sample.timestampS ∧
      keepUnique unique sample = (unique.1, unique.2 + 1)) ∨
    (∀ s ∈ unique.1, s.timestampS < sample.timestampS) ∧
      keepUnique unique sample = (unique.1 ++ [sample], unique.2) := by
  rw [keepUnique]
  cases hlast : unique.1.getLast? with
  | none =>
    refine .inr ⟨?_, rfl⟩
    intro s hs
    rw [List.getLast?_eq_none_iff.mp hlast] at hs
    cases hs
  | some last =>
    obtain ⟨init, hinit⟩ := List.getLast?_eq_some_iff.mp hlast
    have hmem : last ∈ unique.1 := List.mem_of_getLast? hlast
    dsimp only
    split_ifs with heq
    · exact .inl ⟨last, hmem, heq.symm, rfl⟩
    · have hlt : last.timestampS < sample.timestampS :=
        lt_of_le_of_ne (hlater last (h.source last hmem)) (Ne.symm heq)
      refine .inr ⟨?_, rfl⟩
      intro s hs
      have hincreasing := h.increasing
      rw [hinit, List.map_append, List.pairwise_append] at hincreasing
      rw [hinit, List.mem_append, List.mem_singleton] at hs
      rcases hs with hs | rfl
      · exact (hincreasing.2.2 _ (List.mem_map_of_mem hs) _ (.head _)).trans hlt
      · exact hlt

theorem keepUnique_distinct (h : Distinct done unique) {sample : LocalizationSample K}
    (hlater : ∀ s ∈ done, s.timestampS ≤ sample.timestampS) :
    Distinct (done ++ [sample]) (keepUnique unique sample) := by
  rcases keepUnique_cases h hlater with ⟨s, hs, htime, heq⟩ | ⟨hnew, heq⟩
  · rw [heq]
    refine ⟨h.increasing, fun x hx ↦ List.mem_append_left _ (h.source x hx), ?_, ?_⟩
    · intro x hx
      rcases List.mem_append.mp hx with hx | hx
      · exact h.cover x hx
      · rw [List.mem_singleton.mp hx]
        exact ⟨s, hs, htime⟩
    · have hcount := h.count
      simp only [List.length_append, List.length_singleton]
      omega
  · rw [heq]
    refine ⟨?_, ?_, ?_, ?_⟩
    · rw [List.map_append, List.pairwise_append]
      refine ⟨h.increasing, List.pairwise_singleton _ _, ?_⟩
      intro t ht t' ht'
      obtain ⟨s, hs, rfl⟩ := List.mem_map.mp ht
      rw [List.mem_singleton.mp ht']
      exact hnew s hs
    · intro x hx
      rcases List.mem_append.mp hx with hx | hx
      · exact List.mem_append_left _ (h.source x hx)
      · exact List.mem_append_right _ hx
    · intro x hx
      rcases List.mem_append.mp hx with hx | hx
      · obtain ⟨s, hs, htime⟩ := h.cover x hx
        exact ⟨s, List.mem_append_left _ hs, htime⟩
      · exact ⟨x, List.mem_append_right _ hx, rfl⟩
    · have hcount := h.count
      simp only [List.length_append, List.length_singleton]
      omega

theorem uniqueTimestampSamples_distinct
    (h : samples.Pairwise fun s s' ↦ s.timestampS ≤ s'.timestampS) :
    Distinct samples (uniqueTimestampSamples samples) := by
  induction samples using List.reverseRecOn with
  | nil => exact ⟨.nil, fun s hs ↦ hs, fun s hs ↦ (List.not_mem_nil hs).elim, rfl⟩
  | append_singleton samples sample ih =>
    obtain ⟨hsamples, -, hlater⟩ := List.pairwise_append.mp h
    rw [uniqueTimestampSamples, List.foldl_append]
    exact keepUnique_distinct (ih hsamples) fun s hs ↦ hlater s hs _ (.head _)

/-- The times of samples. -/
def times (samples : List (LocalizationSample K)) : List K :=
  samples.map LocalizationSample.timestampS

def frames (samples : List (LocalizationSample K)) : List (LocalizationSample K) :=
  (uniqueTimestampSamples (sortedBy LocalizationSample.timestampS samples)).1

theorem frames_distinct (samples : List (LocalizationSample K)) :
    Distinct (sortedBy LocalizationSample.timestampS samples)
      (uniqueTimestampSamples (sortedBy LocalizationSample.timestampS samples)) :=
  uniqueTimestampSamples_distinct (sortedBy_pairwise samples)

theorem mem_of_frames {s : LocalizationSample K} (h : s ∈ frames samples) : s ∈ samples :=
  (sortedBy_perm samples).mem_iff.mp ((frames_distinct samples).source s h)

theorem frames_increasing (samples : List (LocalizationSample K)) :
    (times (frames samples)).Pairwise (· < ·) :=
  (frames_distinct samples).increasing

theorem times_nodup (samples : List (LocalizationSample K)) : (times (frames samples)).Nodup :=
  (frames_increasing samples).imp ne_of_lt

theorem mem_times_frames {t : K} : t ∈ times (frames samples) ↔ t ∈ times samples := by
  constructor
  · intro ht
    obtain ⟨s, hs, rfl⟩ := List.mem_map.mp ht
    exact List.mem_map_of_mem (mem_of_frames hs)
  · intro ht
    obtain ⟨s, hs, rfl⟩ := List.mem_map.mp ht
    have hperm : (sortedBy LocalizationSample.timestampS samples).Perm samples :=
      sortedBy_perm samples
    have hsorted := hperm.mem_iff.mpr hs
    obtain ⟨s', hs', htime⟩ := (frames_distinct samples).cover s hsorted
    exact List.mem_map.mpr ⟨s', hs', htime⟩

theorem frames_length (samples : List (LocalizationSample K)) :
    (frames samples).length = (times samples).dedup.length := by
  have hperm : (times (frames samples)).Perm (times samples).dedup := by
    rw [List.perm_ext_iff_of_nodup (times_nodup samples) (List.nodup_dedup _)]
    intro t
    rw [List.mem_dedup, mem_times_frames]
  rw [← hperm.length_eq, times, List.length_map]

theorem duplicates_eq_zero : (uniqueTimestampSamples
    (sortedBy LocalizationSample.timestampS samples)).2 = 0 ↔ (times samples).Nodup := by
  have hcount := (frames_distinct samples).count
  rw [(sortedBy_perm samples).length_eq] at hcount
  have hlength := frames_length samples
  have hdedup := (List.dedup_sublist (times samples)).length_le
  rw [frames] at hlength
  rw [← List.dedup_eq_self]
  have hall : (times samples).length = samples.length := List.length_map _
  constructor
  · intro hzero
    refine (List.dedup_sublist _).eq_of_length ?_
    omega
  · intro hself
    rw [hself] at hlength
    omega

end Frames

variable {K : Type} [Field K] [LinearOrder K] {gazebo : List (LocalizationSample K)}
  {sample : LocalizationSample K} {reach gap : K}

/-- The frame at time `g` supports a sample at time `t`. -/
def Leans (truth : List K) (reach t g : K) : Prop := Neighbour truth t g ∧ |g - t| ≤ reach

structure Supports (truth : List K) (reach t : K) (support : Support) (gapS : K) : Prop where
  ordered : support.left ≤ support.right
  adjacent : support.right ≤ support.left + 1
  inside : support.right < truth.length
  leans : ∀ k (hk : k < truth.length),
    Leans truth reach t truth[k] ↔ k = support.left ∨ k = support.right
  bound : ∀ k (hk : k < truth.length), Leans truth reach t truth[k] → |truth[k] - t| ≤ gapS
  attained : ∃ k, ∃ hk : k < truth.length, Leans truth reach t truth[k] ∧ |truth[k] - t| = gapS

def Aligns (truth : List K) (reach t : K) :
    Option (LocalizationSample K × Support × K) → Prop
  | none => ∀ g, ¬Leans truth reach t g
  | some (_, support, gapS) => Supports truth reach t support gapS

theorem Leans.exists_index {truth : List K} {t g : K} (h : Leans truth reach t g) :
    ∃ k, ∃ hk : k < truth.length, truth[k] = g ∧ Leans truth reach t truth[k] := by
  obtain ⟨k, hk, rfl⟩ := List.getElem_of_mem h.1.1
  exact ⟨k, hk, rfl, h⟩

theorem nearestTruth_aligns {k₀ : ℕ} (hk₀ : k₀ < (times gazebo).length)
    (hneighbour : Neighbour (times gazebo) sample.timestampS (times gazebo)[k₀])
    (hother : ∀ k (hk : k < (times gazebo).length),
      Neighbour (times gazebo) sample.timestampS (times gazebo)[k] → k ≠ k₀ →
        gap + slack < |(times gazebo)[k] - sample.timestampS|) :
    Aligns (times gazebo) (gap + slack) sample.timestampS (nearestTruth sample gazebo gap k₀) := by
  have hlength : k₀ < gazebo.length := by simpa [times] using hk₀
  have htime : (times gazebo)[k₀] = gazebo[k₀].timestampS := by simp [times]
  have honly : ∀ k (hk : k < (times gazebo).length),
      Leans (times gazebo) (gap + slack) sample.timestampS (times gazebo)[k] → k = k₀ := by
    intro k hk hleans
    by_contra hne
    exact absurd hleans.2 (not_le.mpr (hother k hk hleans.1 hne))
  rw [nearestTruth, List.getElem?_eq_getElem hlength]
  dsimp only
  split_ifs with hfar
  · intro g hleans
    obtain ⟨k, hk, rfl, hindex⟩ := hleans.exists_index
    have heq := honly k hk hindex
    subst heq
    rw [← htime] at hfar
    exact absurd hleans.2 (not_le.mpr hfar)
  · have hleans : Leans (times gazebo) (gap + slack) sample.timestampS (times gazebo)[k₀] :=
      ⟨hneighbour, htime ▸ not_lt.mp hfar⟩
    refine ⟨le_rfl, Nat.le_succ k₀, hk₀, ?_, ?_, k₀, hk₀, hleans, by rw [htime]⟩
    · intro k hk
      rw [or_self]
      refine ⟨honly k hk, ?_⟩
      intro heq
      subst heq
      exact hleans
    · intro k hk hk'
      have heq := honly k hk hk'
      subst heq
      rw [htime]

variable [IsStrictOrderedRing K]

theorem between_aligns {truth : LocalizationSample K} {r : ℕ} (hr : 0 < r)
    (hrlt : r < (times gazebo).length) (hllt : r - 1 < (times gazebo).length)
    (hneighbour : ∀ k (hk : k < (times gazebo).length),
      Neighbour (times gazebo) sample.timestampS (times gazebo)[k] ↔ k = r ∨ k + 1 = r)
    (hleft : (times gazebo)[r - 1] < sample.timestampS)
    (hright : sample.timestampS < (times gazebo)[r]) :
    let leftGap := sample.timestampS - (times gazebo)[r - 1]
    let rightGap := (times gazebo)[r] - sample.timestampS
    Aligns (times gazebo) (gap + slack) sample.timestampS
      (if leftGap ≤ gap + slack ∧ rightGap ≤ gap + slack then
        some (truth, ⟨r - 1, r⟩, max leftGap rightGap)
      else nearestTruth sample gazebo gap (if leftGap ≤ rightGap then r - 1 else r)) := by
  intro leftGap rightGap
  have hl : |(times gazebo)[r - 1] - sample.timestampS| = leftGap := by
    rw [abs_sub_comm, abs_of_pos (sub_pos.mpr hleft)]
  have hrr : |(times gazebo)[r] - sample.timestampS| = rightGap :=
    abs_of_pos (sub_pos.mpr hright)
  have hcases : ∀ k (hk : k < (times gazebo).length),
      Neighbour (times gazebo) sample.timestampS (times gazebo)[k] → k = r - 1 ∨ k = r := by
    intro k hk hnext
    have hk' := (hneighbour k hk).mp hnext
    omega
  split_ifs with hboth hnearer
  · have hleans : Leans (times gazebo) (gap + slack) sample.timestampS (times gazebo)[r - 1] ∧
        Leans (times gazebo) (gap + slack) sample.timestampS (times gazebo)[r] :=
      ⟨⟨(hneighbour _ hllt).mpr (by omega), hl ▸ hboth.1⟩,
        ⟨(hneighbour _ hrlt).mpr (by omega), hrr ▸ hboth.2⟩⟩
    refine ⟨Nat.sub_le r 1, (Nat.sub_add_cancel hr).ge, hrlt, ?_, ?_, ?_⟩
    · intro k hk
      refine ⟨fun h ↦ hcases k hk h.1, ?_⟩
      rintro (rfl | rfl)
      · exact hleans.1
      · exact hleans.2
    · intro k hk h
      rcases hcases k hk h.1 with rfl | rfl
      · exact hl ▸ le_max_left _ _
      · exact hrr ▸ le_max_right _ _
    · rcases max_choice leftGap rightGap with hmax | hmax
      · exact ⟨r - 1, hllt, hleans.1, hl.trans hmax.symm⟩
      · exact ⟨r, hrlt, hleans.2, hrr.trans hmax.symm⟩
  · refine nearestTruth_aligns hllt ((hneighbour _ hllt).mpr (by omega)) ?_
    intro k hk hnext hne
    have heq := (hcases k hk hnext).resolve_left hne
    subst heq
    rw [hrr]
    by_contra hnear
    exact hboth ⟨hnearer.trans (not_lt.mp hnear), not_lt.mp hnear⟩
  · refine nearestTruth_aligns hrlt ((hneighbour _ hrlt).mpr (by omega)) ?_
    intro k hk hnext hne
    have heq := (hcases k hk hnext).resolve_right hne
    subst heq
    rw [hl]
    by_contra hnear
    exact hboth ⟨not_lt.mp hnear, (not_le.mp hnearer).le.trans (not_lt.mp hnear)⟩

theorem alignedTruthSample_aligns (hsorted : (times gazebo).Pairwise (· < ·)) (hgap : 0 ≤ gap) :
    Aligns (times gazebo) (gap + slack) sample.timestampS
      (alignedTruthSample sample gazebo gap) := by
  have hlength : (times gazebo).length = gazebo.length := List.length_map _
  have hle : bisectLeft (times gazebo) sample.timestampS ≤ (times gazebo).length := bisectLeft_le
  have hreach : 0 ≤ gap + slack := add_nonneg hgap slack_pos.le
  have hmiss : (∀ h : bisectLeft (times gazebo) sample.timestampS < (times gazebo).length,
      (times gazebo)[bisectLeft (times gazebo) sample.timestampS] ≠ sample.timestampS) →
        sample.timestampS ∉ times gazebo := by
    intro hne hmem
    obtain ⟨h, heq⟩ := getElem_bisectLeft hsorted hmem
    exact hne h heq
  have hneighbour : sample.timestampS ∉ times gazebo → ∀ k (hk : k < (times gazebo).length),
      Neighbour (times gazebo) sample.timestampS (times gazebo)[k] ↔
        k = bisectLeft (times gazebo) sample.timestampS ∨
          k + 1 = bisectLeft (times gazebo) sample.timestampS :=
    fun h k hk ↦ neighbour_miss hsorted hk h
  have hbefore : ∀ k (hk : k < (times gazebo).length),
      k < bisectLeft (times gazebo) sample.timestampS ↔
        (times gazebo)[k] < sample.timestampS := fun k hk ↦ lt_bisectLeft hsorted hk
  rw [alignedTruthSample]
  dsimp only
  rw [← times]
  generalize bisectLeft (times gazebo) sample.timestampS = r at hle hmiss hneighbour hbefore ⊢
  cases hright : gazebo[r]? with
  | none =>
    have hge := List.getElem?_eq_none_iff.mp hright
    have hmiss := hmiss fun h ↦ absurd h (by omega)
    dsimp only
    rcases Nat.eq_zero_or_pos gazebo.length with hempty | hpos
    · have hnil := List.eq_nil_of_length_eq_zero hempty
      subst hnil
      intro g hleans
      exact List.not_mem_nil hleans.1.1
    · refine nearestTruth_aligns (by omega) ((hneighbour hmiss _ _).mpr (by omega)) ?_
      intro k hk hnext hne
      have hcases := (hneighbour hmiss k hk).mp hnext
      omega
  | some right =>
    obtain ⟨hrlt, hget⟩ := List.getElem?_eq_some_iff.mp hright
    rw [← hlength] at hrlt
    have hrtime : (times gazebo)[r] = right.timestampS := by simp [times, hget]
    dsimp only
    split_ifs with hhit hzero
    · -- a frame at the very time of the sample
      rw [← hrtime] at hhit
      have hiff : ∀ k (hk : k < (times gazebo).length),
          Leans (times gazebo) (gap + slack) sample.timestampS (times gazebo)[k] ↔ k = r := by
        intro k hk
        rw [Leans, neighbour_hit hsorted hrlt hk hhit]
        refine ⟨And.left, ?_⟩
        intro heq
        subst heq
        exact ⟨rfl, by rw [hhit, sub_self, abs_zero]; exact hreach⟩
      refine ⟨le_rfl, Nat.le_succ r, hrlt, ?_, ?_, r, hrlt, (hiff r hrlt).mpr rfl, ?_⟩
      · intro k hk
        rw [hiff k hk, or_self]
      · intro k hk hleans
        have heq := (hiff k hk).mp hleans
        subst heq
        rw [hhit, sub_self, abs_zero]
      · rw [hhit, sub_self, abs_zero]
    · -- before the first frame
      have hmiss := hmiss fun h ↦ hrtime ▸ hhit
      refine nearestTruth_aligns (by omega) ((hneighbour hmiss _ _).mpr (by omega)) ?_
      intro k hk hnext hne
      have hcases := (hneighbour hmiss k hk).mp hnext
      omega
    · have hmiss := hmiss fun h ↦ hrtime ▸ hhit
      have hllt : r - 1 < (times gazebo).length := by omega
      have hleft : gazebo[r - 1]? = some gazebo[r - 1] := List.getElem?_eq_getElem (by omega)
      have hltime : (times gazebo)[r - 1] = gazebo[r - 1].timestampS := by simp [times]
      rw [hleft]
      dsimp only
      rw [← hltime, ← hrtime]
      refine between_aligns (Nat.pos_of_ne_zero hzero) hrlt hllt (hneighbour hmiss)
        ((hbefore _ hllt).mp (by omega)) ?_
      refine lt_of_le_of_ne (not_lt.mp (mt (hbefore r hrlt).mpr (lt_irrefl r))) ?_
      exact fun heq ↦ hmiss (heq ▸ List.getElem_mem hrlt)

end EmbodiedAgent.Slam.LocalizationEvidence
