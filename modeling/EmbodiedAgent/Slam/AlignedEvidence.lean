import EmbodiedAgent.Slam.LocalizationEvidence

namespace EmbodiedAgent.Slam.LocalizationEvidence

open Library TimeSeries

section Counting

variable {K : Type} [Field K] [LinearOrder K] {gazebo done : List (LocalizationSample K)} {gap : K}
  {d : List (Support × Aligned K)}

structure Kept (gazebo : List (LocalizationSample K)) (gap : K)
    (done : List (LocalizationSample K)) (d : List (Support × Aligned K)) : Prop where
  keys : (Dictionary.keys d).Nodup
  source : ∀ e ∈ d, e.2.2.1 ∈ done ∧
    alignedTruthSample e.2.2.1 gazebo gap = some (e.2.2.2, e.1, e.2.1)
  least : ∀ s ∈ done, ∀ truth support gapS,
    alignedTruthSample s gazebo gap = some (truth, support, gapS) →
      ∃ v, d.lookup support = some v ∧ v.1 ≤ gapS

theorem Kept.setItem (h : Kept gazebo gap done d) {sample truth : LocalizationSample K}
    {support : Support} {gapS : K}
    (haligned : alignedTruthSample sample gazebo gap = some (truth, support, gapS))
    (hless : ∀ previous, d.lookup support = some previous → gapS < previous.1) :
    Kept gazebo gap (done ++ [sample]) (Dictionary.setItem d support (gapS, sample, truth)) := by
  refine ⟨Dictionary.nodup_setItem h.keys, ?_, ?_⟩
  · intro e he
    rcases Dictionary.mem_setItem he with rfl | he
    · exact ⟨List.mem_append_right _ (.head _), haligned⟩
    · exact ⟨List.mem_append_left _ (h.source e he).1, (h.source e he).2⟩
  · intro s hs truth' support' gapS' halign
    rw [Dictionary.lookup_setItem]
    split_ifs with heq
    · refine ⟨_, rfl, ?_⟩
      rcases List.mem_append.mp hs with hs | hs
      · obtain ⟨previous, hprevious, hle⟩ := h.least s hs truth' support' gapS' halign
        exact (hless previous (heq ▸ hprevious)).le.trans hle
      · rw [List.mem_singleton.mp hs, haligned] at halign
        cases halign
        exact le_rfl
    · rcases List.mem_append.mp hs with hs | hs
      · exact h.least s hs truth' support' gapS' halign
      · rw [List.mem_singleton.mp hs, haligned] at halign
        cases halign
        exact absurd rfl heq

theorem Kept.skip (h : Kept gazebo gap done d) {sample : LocalizationSample K}
    (hleast : ∀ truth support gapS,
      alignedTruthSample sample gazebo gap = some (truth, support, gapS) →
        ∃ v, d.lookup support = some v ∧ v.1 ≤ gapS) : Kept gazebo gap (done ++ [sample]) d := by
  refine ⟨h.keys, fun e he ↦ ⟨List.mem_append_left _ (h.source e he).1, (h.source e he).2⟩, ?_⟩
  intro s hs
  rcases List.mem_append.mp hs with hs | hs
  · exact h.least s hs
  · rw [List.mem_singleton.mp hs]
    exact hleast

theorem keepNearest_kept (h : Kept gazebo gap done d) (sample : LocalizationSample K) :
    Kept gazebo gap (done ++ [sample]) (keepNearest gazebo gap d sample) := by
  rw [keepNearest]
  cases haligned : alignedTruthSample sample gazebo gap with
  | none =>
    refine h.skip ?_
    intro truth support gapS hsome
    rw [haligned] at hsome
    cases hsome
  | some aligned =>
    obtain ⟨truth, support, gapS⟩ := aligned
    dsimp only
    cases hprevious : d.lookup support with
    | none =>
      refine h.setItem haligned ?_
      intro previous hsome
      rw [hprevious] at hsome
      cases hsome
    | some previous =>
      dsimp only
      split_ifs with hless
      · refine h.setItem haligned ?_
        intro previous' hsome
        rw [hprevious] at hsome
        cases hsome
        exact hless
      · refine h.skip ?_
        intro truth' support' gapS' hsome
        rw [haligned] at hsome
        cases hsome
        exact ⟨previous, hprevious, not_lt.mp hless⟩

theorem foldl_keepNearest_kept (gazebo : List (LocalizationSample K)) (gap : K)
    (amcl : List (LocalizationSample K)) :
    Kept gazebo gap amcl (amcl.foldl (keepNearest gazebo gap) []) := by
  induction amcl using List.reverseRecOn with
  | nil =>
    exact ⟨List.nodup_nil, fun e he ↦ (List.not_mem_nil he).elim,
      fun s hs ↦ (List.not_mem_nil hs).elim⟩
  | append_singleton amcl sample ih =>
    rw [List.foldl_append]
    exact keepNearest_kept ih sample

end Counting

section Verdict

variable {K : Type} [Field K] [LinearOrder K] [FloorRing K] {hypot : K → K → K}
  {amcl gazebo amcl' gazebo' : List (LocalizationSample K)} {thresholds : QualityThresholds K}

def verdict (hypot : K → K → K) (amcl gazebo : List (LocalizationSample K))
    (thresholds : QualityThresholds K) : Except String Bool :=
  (evaluateLocalizationQuality hypot amcl gazebo thresholds).map QualityReport.passed

theorem verdict_repeated (h : ¬((times amcl).Nodup ∧ (times gazebo).Nodup)) :
    verdict hypot amcl gazebo thresholds = (validateThresholds thresholds).map fun _ ↦ false := by
  rw [verdict, evaluateLocalizationQuality]
  cases validateThresholds thresholds with
  | error e => rfl
  | ok u =>
    have hunique : ((uniqueTimestampSamples
        (sortedBy LocalizationSample.timestampS amcl)).2 == 0 && (uniqueTimestampSamples
        (sortedBy LocalizationSample.timestampS gazebo)).2 == 0) = false := by
      rw [Bool.eq_false_iff, ne_eq, Bool.and_eq_true, beq_iff_eq, beq_iff_eq,
        duplicates_eq_zero, duplicates_eq_zero]
      exact h
    have hpassed : (qualityReport hypot (sortedBy LocalizationSample.timestampS amcl)
        (sortedBy LocalizationSample.timestampS gazebo) thresholds).passed = false := by
      rw [qualityReport, hunique, Bool.and_false, Bool.false_and, Bool.false_and]
    exact congrArg Except.ok hpassed

theorem verdict_perm (ha : amcl'.Perm amcl) (hg : gazebo'.Perm gazebo) :
    verdict hypot amcl' gazebo' thresholds = verdict hypot amcl gazebo thresholds := by
  have htimes : (times amcl').Nodup ∧ (times gazebo').Nodup ↔
      (times amcl).Nodup ∧ (times gazebo).Nodup := by
    rw [times, times, (ha.map _).nodup_iff, (hg.map _).nodup_iff]
    rfl
  by_cases h : (times amcl).Nodup ∧ (times gazebo).Nodup
  · have h' := htimes.mpr h
    rw [verdict, verdict, evaluateLocalizationQuality, evaluateLocalizationQuality,
      sortedBy_congr h'.1 ha, sortedBy_congr h'.2 hg]
  · rw [verdict_repeated h, verdict_repeated (mt htimes.mp h)]

end Verdict

variable {K : Type} [Field K] [LinearOrder K] {amcl gazebo : List (LocalizationSample K)}
  {gap reach t : K}

def counted (amcl gazebo : List (LocalizationSample K)) (gap : K) : List (Support × Aligned K) :=
  alignedBySupport (frames amcl) (frames gazebo) gap

/-- The two ranges of times meet. -/
def Overlap (amcl gazebo : List K) : Prop :=
  (∃ a ∈ amcl, ∃ g ∈ gazebo, a ≤ g) ∧ ∃ a ∈ amcl, ∃ g ∈ gazebo, g ≤ a

structure Honest [FloorRing K] (hypot : K → K → K) (amcl gazebo : List (LocalizationSample K))
    (thresholds : QualityThresholds K) : Prop where
  unordered : ∀ amcl' gazebo', amcl'.Perm amcl → gazebo'.Perm gazebo →
    verdict hypot amcl' gazebo' thresholds = verdict hypot amcl gazebo thresholds
  reported : ∃ report,
    evaluateLocalizationQuality hypot amcl gazebo thresholds = .ok report ∧
      report.metrics.alignedSampleCount =
        (counted amcl gazebo thresholds.maximumAlignmentGapS).length
  source : ∀ e ∈ counted amcl gazebo thresholds.maximumAlignmentGapS, e.2.2.1 ∈ amcl
  distinct : ((counted amcl gazebo thresholds.maximumAlignmentGapS).map
    fun e ↦ e.2.2.1.timestampS).Nodup
  within : ∀ e ∈ counted amcl gazebo thresholds.maximumAlignmentGapS,
    ∀ k, k = e.1.left ∨ k = e.1.right → ∃ frame ∈ gazebo, (frames gazebo)[k]? = some frame ∧
      |frame.timestampS - e.2.2.1.timestampS| ≤ thresholds.maximumAlignmentGapS + slack
  once : ((counted amcl gazebo thresholds.maximumAlignmentGapS).map Prod.fst).Nodup
  adjacent : ∀ e ∈ counted amcl gazebo thresholds.maximumAlignmentGapS,
    e.1.right = e.1.left ∨ e.1.right = e.1.left + 1
  nearest : ∀ e ∈ counted amcl gazebo thresholds.maximumAlignmentGapS, ∀ t ∈ times amcl,
    (∀ g, Leans (times gazebo) (thresholds.maximumAlignmentGapS + slack) t g ↔
      Leans (times gazebo) (thresholds.maximumAlignmentGapS + slack) e.2.2.1.timestampS g) →
    ∃ g, Leans (times gazebo) (thresholds.maximumAlignmentGapS + slack) t g ∧
      ∀ g', Leans (times gazebo) (thresholds.maximumAlignmentGapS + slack)
        e.2.2.1.timestampS g' → |g' - e.2.2.1.timestampS| ≤ |g - t|
  few : (counted amcl gazebo thresholds.maximumAlignmentGapS).length ≤
      (times amcl).dedup.length ∧
    (counted amcl gazebo thresholds.maximumAlignmentGapS).length ≤
      2 * (times gazebo).dedup.length - 1

theorem leans_frames {g : K} :
    Leans (times (frames gazebo)) reach t g ↔ Leans (times gazebo) reach t g := by
  rw [Leans, Leans, neighbour_congr fun g ↦ mem_times_frames]

omit [Field K] in
theorem last_le {samples : List (LocalizationSample K)} {last : LocalizationSample K}
    (h : (times samples).Pairwise (· < ·)) (hlast : samples.getLast? = some last) :
    ∀ t ∈ times samples, t ≤ last.timestampS := by
  obtain ⟨init, rfl⟩ := List.getLast?_eq_some_iff.mp hlast
  intro t ht
  rw [times, List.map_append, List.pairwise_append] at h
  rw [times, List.map_append, List.mem_append] at ht
  rcases ht with ht | ht
  · exact (h.2.2 t ht _ (.head _)).le
  · rw [List.mem_singleton.mp ht]

omit [Field K] in
theorem timeRangesOverlap_iff (ha : (times amcl).Pairwise (· < ·))
    (hg : (times gazebo).Pairwise (· < ·)) :
    timeRangesOverlap amcl gazebo = true ↔ Overlap (times amcl) (times gazebo) := by
  cases amcl with
  | nil => simp [timeRangesOverlap, Overlap, times]
  | cons a amcl =>
    cases gazebo with
    | nil => simp [timeRangesOverlap, Overlap, times]
    | cons g gazebo =>
      have hlast := last_le ha (List.getLast?_eq_some_getLast (List.cons_ne_nil a amcl))
      have hlast' := last_le hg (List.getLast?_eq_some_getLast (List.cons_ne_nil g gazebo))
      have hfirst := (List.pairwise_cons.mp ha).1
      have hfirst' := (List.pairwise_cons.mp hg).1
      rw [timeRangesOverlap, List.getLast?_eq_some_getLast (List.cons_ne_nil a amcl),
        List.getLast?_eq_some_getLast (List.cons_ne_nil g gazebo)]
      simp only [List.head?_cons, decide_eq_true_eq, max_le_iff, le_min_iff]
      constructor
      · rintro ⟨⟨-, hga⟩, hag, -⟩
        exact ⟨⟨_, .head _, _, List.mem_map_of_mem (List.getLast_mem _), hag⟩,
          ⟨_, List.mem_map_of_mem (List.getLast_mem _), _, .head _, hga⟩⟩
      · rintro ⟨⟨x, hx, y, hy, hxy⟩, x', hx', y', hy', hyx⟩
        have hax : a.timestampS ≤ x := by
          rcases List.mem_cons.mp hx with rfl | hx
          · exact le_rfl
          · exact (hfirst x hx).le
        have hgy : g.timestampS ≤ y' := by
          rcases List.mem_cons.mp hy' with rfl | hy'
          · exact le_rfl
          · exact (hfirst' y' hy').le
        exact ⟨⟨hlast _ (.head _), hgy.trans (hyx.trans (hlast x' hx'))⟩,
          hax.trans (hxy.trans (hlast' y hy)), hlast' _ (.head _)⟩

theorem Supports.adjacent_cases {truth : List K} {gapS : K} {support : Support}
    (h : Supports truth reach t support gapS) :
    support.right = support.left ∨ support.right = support.left + 1 := by
  have hordered := h.ordered
  have hadjacent := h.adjacent
  omega

theorem Supports.unique {truth : List K} {t' gapS gapS' : K} {support support' : Support}
    (h : Supports truth reach t support gapS) (h' : Supports truth reach t' support' gapS')
    (hsame : ∀ g, Leans truth reach t g ↔ Leans truth reach t' g) : support = support' := by
  have hiff : ∀ k < truth.length,
      (k = support.left ∨ k = support.right) ↔ (k = support'.left ∨ k = support'.right) := by
    intro k hk
    rw [← h.leans k hk, ← h'.leans k hk, hsame]
  have hleft := hiff support.left (lt_of_le_of_lt h.ordered h.inside)
  have hright := hiff support.right h.inside
  have hleft' := hiff support'.left (lt_of_le_of_lt h'.ordered h'.inside)
  have hright' := hiff support'.right h'.inside
  have hordered := h.ordered
  have hordered' := h'.ordered
  obtain ⟨l, r⟩ := support
  obtain ⟨l', r'⟩ := support'
  dsimp only at hleft hright hleft' hright' hordered hordered'
  obtain ⟨rfl, rfl⟩ : l = l' ∧ r = r' := by omega
  rfl

variable (gap) in
theorem counted_kept (hoverlap : Overlap (times amcl) (times gazebo)) :
    Kept (frames gazebo) gap (frames amcl) (counted amcl gazebo gap) := by
  have hframes : Overlap (times (frames amcl)) (times (frames gazebo)) := by
    simpa only [Overlap, mem_times_frames] using hoverlap
  rw [counted, alignedBySupport, if_pos ((timeRangesOverlap_iff (frames_increasing amcl)
    (frames_increasing gazebo)).mpr hframes)]
  exact foldl_keepNearest_kept _ _ _

variable (gap) in
theorem counted_eq_nil (hoverlap : ¬Overlap (times amcl) (times gazebo)) :
    counted amcl gazebo gap = [] := by
  have hframes : ¬Overlap (times (frames amcl)) (times (frames gazebo)) := by
    simpa only [Overlap, mem_times_frames] using hoverlap
  rw [counted, alignedBySupport, if_neg (mt (timeRangesOverlap_iff (frames_increasing amcl)
    (frames_increasing gazebo)).mp hframes)]

theorem counted_inj (hoverlap : Overlap (times amcl) (times gazebo))
    {e e' : Support × Aligned K} (he : e ∈ counted amcl gazebo gap)
    (he' : e' ∈ counted amcl gazebo gap) (h : e.1 = e'.1) : e = e' :=
  List.inj_on_of_nodup_map (counted_kept gap hoverlap).keys he he' h

omit [Field K] in
theorem mem_frames_times {k : ℕ} (hk : k < (times (frames gazebo)).length) :
    ∃ frame ∈ gazebo, (frames gazebo)[k]? = some frame ∧
      frame.timestampS = (times (frames gazebo))[k] := by
  have hlt : k < (frames gazebo).length := by simpa [times] using hk
  exact ⟨(frames gazebo)[k], mem_of_frames (List.getElem_mem hlt),
    List.getElem?_eq_getElem hlt, by simp [times]⟩

theorem gap_nonneg {thresholds : QualityThresholds K} (h : validateThresholds thresholds = .ok ()) :
    0 ≤ thresholds.maximumAlignmentGapS := by
  rw [validateThresholds] at h
  split_ifs at h with _ hgap
  exact not_lt.mp hgap

variable [IsStrictOrderedRing K]

theorem counted_supports (hgap : 0 ≤ gap) (hoverlap : Overlap (times amcl) (times gazebo))
    {e : Support × Aligned K} (he : e ∈ counted amcl gazebo gap) :
    Supports (times (frames gazebo)) (gap + slack) e.2.2.1.timestampS e.1 e.2.1 := by
  have haligns : Aligns (times (frames gazebo)) (gap + slack) e.2.2.1.timestampS
      (alignedTruthSample e.2.2.1 (frames gazebo) gap) :=
    alignedTruthSample_aligns (frames_increasing gazebo) hgap
  have hsource := ((counted_kept gap hoverlap).source e he).2
  rw [hsource] at haligns
  exact haligns

theorem exists_counted (hgap : 0 ≤ gap) (hoverlap : Overlap (times amcl) (times gazebo))
    {g : K} (ht : t ∈ times amcl) (hleans : Leans (times (frames gazebo)) (gap + slack) t g) :
    ∃ e ∈ counted amcl gazebo gap, ∃ gapS, e.2.1 ≤ gapS ∧
      Supports (times (frames gazebo)) (gap + slack) t e.1 gapS := by
  obtain ⟨sample, hsample, rfl⟩ := List.mem_map.mp (mem_times_frames.mpr ht)
  have haligns : Aligns (times (frames gazebo)) (gap + slack) sample.timestampS
      (alignedTruthSample sample (frames gazebo) gap) :=
    alignedTruthSample_aligns (frames_increasing gazebo) hgap
  cases haligned : alignedTruthSample sample (frames gazebo) gap with
  | none =>
    rw [haligned] at haligns
    exact absurd hleans (haligns g)
  | some aligned =>
    obtain ⟨truth, support, gapS⟩ := aligned
    rw [haligned] at haligns
    obtain ⟨v, hlookup, hle⟩ := (counted_kept gap hoverlap).least sample hsample truth support gapS
      haligned
    exact ⟨(support, v), Dictionary.mem_of_lookup hlookup, gapS, hle, haligns⟩

/-- The sum of the two places tells the groups apart. -/
theorem counted_few (hgap : 0 ≤ gap) (hoverlap : Overlap (times amcl) (times gazebo)) :
    (counted amcl gazebo gap).length ≤ 2 * (times gazebo).dedup.length - 1 := by
  have hnodup : ((counted amcl gazebo gap).map fun e ↦ e.1.left + e.1.right).Nodup := by
    refine List.Nodup.map_on ?_ (List.Nodup.of_map Prod.fst (counted_kept _ hoverlap).keys)
    intro e he e' he' hsum
    have hcases := (counted_supports hgap hoverlap he).adjacent_cases
    have hcases' := (counted_supports hgap hoverlap he').adjacent_cases
    refine counted_inj hoverlap he he' ?_
    obtain ⟨⟨l, r⟩, _⟩ := e
    obtain ⟨⟨l', r'⟩, _⟩ := e'
    dsimp only at hsum hcases hcases'
    obtain ⟨rfl, rfl⟩ : l = l' ∧ r = r' := by omega
    rfl
  have hsubset : ((counted amcl gazebo gap).map fun e ↦ e.1.left + e.1.right) ⊆
      List.range (2 * (times (frames gazebo)).length - 1) := by
    intro n hn
    obtain ⟨e, he, rfl⟩ := List.mem_map.mp hn
    have hsupports := counted_supports hgap hoverlap he
    have hordered := hsupports.ordered
    have hinside := hsupports.inside
    exact List.mem_range.mpr (by omega)
  have hlength := (List.subperm_of_subset hnodup hsubset).length_le
  rwa [List.length_map, List.length_range, times, List.length_map, frames_length] at hlength

theorem counted_nearest (hgap : 0 ≤ gap) (hoverlap : Overlap (times amcl) (times gazebo))
    {e : Support × Aligned K} (he : e ∈ counted amcl gazebo gap) (ht : t ∈ times amcl)
    (hsame : ∀ g, Leans (times gazebo) (gap + slack) t g ↔
      Leans (times gazebo) (gap + slack) e.2.2.1.timestampS g) :
    ∃ g, Leans (times gazebo) (gap + slack) t g ∧
      ∀ g', Leans (times gazebo) (gap + slack) e.2.2.1.timestampS g' →
        |g' - e.2.2.1.timestampS| ≤ |g - t| := by
  have hsupports := counted_supports hgap hoverlap he
  obtain ⟨k, hk, hleans, -⟩ := hsupports.attained
  obtain ⟨e', he', gapS, hle, hsupports'⟩ := exists_counted hgap hoverlap ht
    (leans_frames.mpr ((hsame _).mpr (leans_frames.mp hleans)))
  have hgroup : e'.1 = e.1 := Supports.unique hsupports' hsupports fun g ↦ by
    rw [leans_frames, leans_frames]
    exact hsame g
  obtain rfl := counted_inj hoverlap he' he hgroup
  obtain ⟨k', hk', hleans', hgapS⟩ := hsupports'.attained
  refine ⟨_, leans_frames.mp hleans', fun g' hg' ↦ ?_⟩
  obtain ⟨j, hj, rfl, hindex⟩ := (leans_frames.mpr hg').exists_index
  rw [hgapS]
  exact (hsupports.bound j hj hindex).trans hle

variable [FloorRing K] {hypot : K → K → K} {thresholds : QualityThresholds K}

omit [IsStrictOrderedRing K] in
theorem reported (h : validateThresholds thresholds = .ok ()) : ∃ report,
    evaluateLocalizationQuality hypot amcl gazebo thresholds = .ok report ∧
      report.metrics.alignedSampleCount =
        (counted amcl gazebo thresholds.maximumAlignmentGapS).length := by
  refine ⟨_, by rw [evaluateLocalizationQuality, h], ?_⟩
  exact List.length_map _

theorem honest_of_overlap (h : validateThresholds thresholds = .ok ())
    (hoverlap : Overlap (times amcl) (times gazebo)) : Honest hypot amcl gazebo thresholds := by
  have hgap := gap_nonneg h
  have hkept := counted_kept thresholds.maximumAlignmentGapS hoverlap
  have hdistinct : ((counted amcl gazebo thresholds.maximumAlignmentGapS).map
      fun e ↦ e.2.2.1.timestampS).Nodup := by
    refine List.Nodup.map_on ?_ (List.Nodup.of_map Prod.fst hkept.keys)
    intro e he e' he' htime
    obtain ⟨hsample, haligned⟩ := hkept.source e he
    obtain ⟨hsample', haligned'⟩ := hkept.source e' he'
    have hsame := List.inj_on_of_nodup_map (times_nodup amcl) hsample hsample' htime
    rw [hsame, haligned'] at haligned
    refine counted_inj hoverlap he he' ?_
    exact (congrArg (fun z ↦ z.2.1) (Option.some.inj haligned)).symm
  refine
    { unordered := fun amcl' gazebo' ha hg ↦ verdict_perm ha hg
      reported := reported h
      source := fun e he ↦ mem_of_frames (hkept.source e he).1
      distinct := hdistinct
      within := ?_
      once := hkept.keys
      adjacent := fun e he ↦ (counted_supports hgap hoverlap he).adjacent_cases
      nearest := fun e he t ht hsame ↦ counted_nearest hgap hoverlap he ht hsame
      few := ⟨?_, counted_few hgap hoverlap⟩ }
  · intro e he k hk
    have hsupports := counted_supports hgap hoverlap he
    have hordered := hsupports.ordered
    have hinside := hsupports.inside
    have hlt : k < (times (frames gazebo)).length := by omega
    obtain ⟨frame, hframe, hget, htime⟩ := mem_frames_times hlt
    refine ⟨frame, hframe, hget, ?_⟩
    rw [htime]
    exact ((hsupports.leans k hlt).mpr hk).2
  · have hsubset : ((counted amcl gazebo thresholds.maximumAlignmentGapS).map
        fun e ↦ e.2.2.1.timestampS) ⊆ (times amcl).dedup := by
      intro t ht
      obtain ⟨e, he, rfl⟩ := List.mem_map.mp ht
      exact List.mem_dedup.mpr (List.mem_map_of_mem (mem_of_frames (hkept.source e he).1))
    have hlength := (List.subperm_of_subset hdistinct hsubset).length_le
    rwa [List.length_map] at hlength

/-- For all samples and all thresholds that are accepted. -/
theorem evidence_honest (h : validateThresholds thresholds = .ok ()) :
    Honest hypot amcl gazebo thresholds := by
  by_cases hoverlap : Overlap (times amcl) (times gazebo)
  · exact honest_of_overlap h hoverlap
  · have hnil := counted_eq_nil thresholds.maximumAlignmentGapS hoverlap
    refine
      { unordered := fun amcl' gazebo' ha hg ↦ verdict_perm ha hg
        reported := reported h
        source := ?_
        distinct := ?_
        within := ?_
        once := ?_
        adjacent := ?_
        nearest := ?_
        few := ?_ }
    all_goals simp [hnil]

def seen : List (LocalizationSample ℚ) := [⟨3 / 20, 3 / 2, 0⟩, ⟨1 / 20, 1 / 2, 0⟩, ⟨1 / 5, 2, 0⟩]

def truth : List (LocalizationSample ℚ) := [⟨0, 0, 0⟩, ⟨1 / 10, 1, 0⟩, ⟨1 / 5, 2, 0⟩]

theorem moving_honest :
    verdict (fun x y ↦ |x| + |y|) seen truth ⟨1 / 4, 1 / 10, 3⟩ = .ok true ∧
      Honest (fun x y ↦ |x| + |y|) seen truth ⟨1 / 4, 1 / 10, 3⟩ :=
  ⟨by decide +kernel, evidence_honest (by decide +kernel)⟩

/-- Three samples around two frames of the truth count three times. -/
theorem shared_frames :
    (evaluateLocalizationQuality (fun x y ↦ |x| + |y|)
      [⟨0, 0, 0⟩, ⟨1 / 2, 0, 0⟩, ⟨1, 0, 0⟩] [⟨0, 0, 0⟩, ⟨(1 : ℚ), 0, 0⟩]
        ⟨1 / 4, 1 / 2, 3⟩).map (fun report ↦ (report.passed, report.metrics.alignedSampleCount)) =
      .ok (true, 3) ∧
    (times [⟨0, 0, 0⟩, ⟨(1 : ℚ), 0, 0⟩]).dedup.length < 3 := by
  decide +kernel

end EmbodiedAgent.Slam.LocalizationEvidence
