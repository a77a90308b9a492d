import EmbodiedAgent.Library.Fallible
import EmbodiedAgent.Library.History
import EmbodiedAgent.Library.Preselection
import EmbodiedAgent.Slam.LoopDescriptor
import Mathlib.Tactic.IntervalCases

namespace EmbodiedAgent.Slam.LoopCandidates

open Library Planar LoopDescriptor Preselection TimeSeries

section Model

structure LoopCandidateIndexConfig (K : Type) where
  minimumTemporalSeparationS : K
  coarsePreselectionCount : ℕ := 30
  minimumSimilarity : K

structure LidarLoopCandidate (K : Type) where
  scanId : ℤ
  stampS : K
  similarity : K
  sectorShift : ℕ
  yawOffsetRad : K
  ringKeyDistance : K

structure Entry (K : Type) where
  scanId : ℤ
  stampS : K
  descriptor : PolarScanDescriptor K

structure CoarseCandidate (K : Type) where
  entry : Entry K
  distance : K

/-- The index keeps one entry for a scan, and comparable descriptors only. -/
structure LidarLoopCandidateIndex (K : Type) where
  config : LoopCandidateIndexConfig K
  entries : List (Entry K) := []
  valid : ∀ entry ∈ entries, entry.descriptor.valid = true
  distinct : (entries.map Entry.scanId).Nodup

variable {K : Type} [Field K] [LinearOrder K]

/-- `1e-9` -/
def nano : K := ((10 ^ 9 : ℕ) : K)⁻¹

namespace LidarLoopCandidateIndex

variable [Extended K]

def create (config : LoopCandidateIndexConfig K) : Except String (LidarLoopCandidateIndex K) :=
  if !Extended.isFinite config.minimumTemporalSeparationS ∨
      config.minimumTemporalSeparationS < 0 ∨ config.coarsePreselectionCount = 0 ∨
      !Extended.isFinite config.minimumSimilarity ∨ config.minimumSimilarity < 0 ∨
      1 < config.minimumSimilarity then
    .error "invalid loop-candidate index configuration"
  else .ok { config := config, valid := by simp, distinct := by simp }

def add (index : LidarLoopCandidateIndex K) (scanId : ℤ) (stampS : K)
    (descriptor : PolarScanDescriptor K) : Except String (LidarLoopCandidateIndex K) :=
  if h : !descriptor.valid ∨ !Extended.isFinite stampS then
    .error "candidate index requires a valid descriptor and timestamp"
  else if hduplicate : scanId ∈ index.entries.map Entry.scanId then
    .error "duplicate scan id in candidate index"
  else .ok
    { index with
      entries := index.entries ++ [⟨scanId, stampS, descriptor⟩]
      valid := by
        intro entry hentry
        rcases List.mem_append.mp hentry with hold | hnew
        · exact index.valid entry hold
        · rw [List.mem_singleton.mp hnew]
          simpa using (not_or.mp h).1
      distinct := by
        rw [List.map_append, List.nodup_append]
        refine ⟨index.distinct, List.nodup_singleton _, ?_⟩
        intro id hid new hnew heq
        rw [heq, List.mem_singleton.mp hnew] at hid
        exact hduplicate hid }

variable (polar : Polar K)

def coarseCandidate (descriptor : PolarScanDescriptor K) (entry : Entry K) :
    Except String (CoarseCandidate K) := do
  validateDescriptorPair descriptor entry.descriptor
  let distance ← ringKeyDistance polar descriptor entry.descriptor
  pure ⟨entry, distance⟩

def eligible (index : LidarLoopCandidateIndex K) (stampS : K) : List (Entry K) :=
  index.entries.filter fun entry ↦
    ¬ stampS - entry.stampS + nano < index.config.minimumTemporalSeparationS

def nearer (left right : K × ℤ) : Prop :=
  if left.1 ≠ right.1 then left.1 < right.1 else left.2 < right.2

instance (left right : K × ℤ) : Decidable (nearer left right) :=
  inferInstanceAs (Decidable (ite _ _ _))

def coarseBefore (left right : CoarseCandidate K) : Prop :=
  nearer (left.distance, left.entry.scanId) (right.distance, right.entry.scanId)

instance : DecidableRel (coarseBefore (K := K)) :=
  fun _ _ ↦ inferInstanceAs (Decidable (nearer _ _))

def finalBefore (left right : LidarLoopCandidate K) : Prop :=
  if left.ringKeyDistance ≠ right.ringKeyDistance then left.ringKeyDistance < right.ringKeyDistance
  else if left.similarity ≠ right.similarity then right.similarity < left.similarity
  else left.scanId < right.scanId

instance : DecidableRel (finalBefore (K := K)) := fun _ _ ↦ inferInstanceAs (Decidable (ite _ _ _))

def aligned (descriptor : PolarScanDescriptor K) (coarse : CoarseCandidate K) :
    Except String (LidarLoopCandidate K) := do
  let alignment ← alignPolarDescriptors polar descriptor coarse.entry.descriptor
  pure ⟨coarse.entry.scanId, coarse.entry.stampS, alignment.similarity, alignment.sectorShift,
    alignment.yawOffsetRad, coarse.distance⟩

def refused (stampS : K) (descriptor : PolarScanDescriptor K) (topK : ℕ) : Prop :=
  !descriptor.valid ∨ !Extended.isFinite stampS ∨ topK = 0

instance (stampS : K) (descriptor : PolarScanDescriptor K) (topK : ℕ) :
    Decidable (refused stampS descriptor topK) :=
  inferInstanceAs (Decidable (_ ∨ _ ∨ _))

def query (index : LidarLoopCandidateIndex K) (stampS : K) (descriptor : PolarScanDescriptor K)
    (topK : ℕ) : Except String (List (LidarLoopCandidate K)) :=
  if refused stampS descriptor topK then
    .error "query requires a valid descriptor, timestamp and top-k"
  else do
    let coarse ← (index.eligible stampS).mapM (coarseCandidate polar descriptor)
    let preselection := min coarse.length (max topK index.config.coarsePreselectionCount)
    let result ← ((sortWith coarseBefore coarse).take preselection).mapM (aligned polar descriptor)
    let result := result.filter fun candidate ↦
      ¬ candidate.similarity + slack < index.config.minimumSimilarity
    pure ((sortWith finalBefore result).take topK)

def candidates (index : LidarLoopCandidateIndex K) (stampS : K)
    (descriptor : PolarScanDescriptor K) : Except String (List (LidarLoopCandidate K)) := do
  let coarse ← (index.eligible stampS).mapM (coarseCandidate polar descriptor)
  coarse.mapM (aligned polar descriptor)

def exhaustive (index : LidarLoopCandidateIndex K) (stampS : K)
    (descriptor : PolarScanDescriptor K) (topK : ℕ) :
    Except String (List (LidarLoopCandidate K)) :=
  if refused stampS descriptor topK then
    .error "query requires a valid descriptor, timestamp and top-k"
  else do
    let result ← index.candidates polar stampS descriptor
    pure ((sortWith finalBefore result).take topK)

structure Exact (index : LidarLoopCandidateIndex K) (stampS : K)
    (descriptor : PolarScanDescriptor K) (topK : ℕ) : Prop where
  complete : index.config.minimumSimilarity = 0 →
    index.query polar stampS descriptor topK = index.exhaustive polar stampS descriptor topK
  earlier : nano < index.config.minimumTemporalSeparationS → ∀ result,
    index.query polar stampS descriptor topK = .ok result →
    ∀ candidate ∈ result, candidate.stampS < stampS

def cutOff (index : LidarLoopCandidateIndex K) (topK : ℕ) (candidates : List (LidarLoopCandidate K))
    (a : LidarLoopCandidate K) : Prop :=
  max topK index.config.coarsePreselectionCount ≤
    candidates.countP fun b ↦ nearer (b.ringKeyDistance, b.scanId) (a.ringKeyDistance, a.scanId)

def SettlesTies (index : LidarLoopCandidateIndex K) (stampS : K)
    (descriptor : PolarScanDescriptor K) (topK : ℕ) : Prop :=
  ¬ refused stampS descriptor topK →
  ∀ candidates, index.candidates polar stampS descriptor = .ok candidates →
    ∀ a ∈ candidates, ∀ b ∈ candidates,
      index.cutOff topK candidates a → ¬ index.cutOff topK candidates b →
      a.ringKeyDistance = b.ringKeyDistance → b.similarity < a.similarity →
      topK ≤ candidates.countP fun c ↦ finalBefore c a

def CutsOffNoneOfTheBest (index : LidarLoopCandidateIndex K) (stampS : K)
    (descriptor : PolarScanDescriptor K) (topK : ℕ) : Prop :=
  ¬ refused stampS descriptor topK →
  ∀ candidates, index.candidates polar stampS descriptor = .ok candidates → ∀ a ∈ candidates,
    index.cutOff topK candidates a → topK ≤ candidates.countP fun b ↦ finalBefore b a

end LidarLoopCandidateIndex

end Model

section Ranking

variable {K : Type} [Field K] [LinearOrder K]

namespace LidarLoopCandidateIndex

def coarseKey (candidate : LidarLoopCandidate K) : K ×ₗ ℤ :=
  toLex (candidate.ringKeyDistance, candidate.scanId)

def finalKey (candidate : LidarLoopCandidate K) : K ×ₗ Kᵒᵈ ×ₗ ℤ :=
  toLex (candidate.ringKeyDistance, toLex (OrderDual.toDual candidate.similarity, candidate.scanId))

omit [Field K] in
theorem nearer_iff {left right : K × ℤ} : nearer left right ↔ toLex left < toLex right := by
  rw [nearer, Prod.Lex.toLex_lt_toLex]
  split_ifs with hne
  · simp [hne]
  · simp [not_not.mp hne]

omit [Field K] in
theorem finalBefore_iff (left right : LidarLoopCandidate K) :
    finalBefore left right ↔ finalKey left < finalKey right := by
  rw [finalBefore, finalKey, finalKey, Prod.Lex.toLex_lt_toLex, Prod.Lex.toLex_lt_toLex]
  split_ifs with hdistance hsimilarity
  · simp [hdistance]
  · simp [not_not.mp hdistance, hsimilarity]
  · simp [not_not.mp hdistance, not_not.mp hsimilarity]

variable (polar : Polar K) {index : LidarLoopCandidateIndex K} {stampS : K}
  {descriptor : PolarScanDescriptor K} {topK : ℕ} {entry : Entry K}
  {coarse : List (CoarseCandidate K)} {candidate : LidarLoopCandidate K} {c : CoarseCandidate K}

omit [Field K] [LinearOrder K] in
theorem comparable_of_validates {left right : PolarScanDescriptor K}
    (h : validateDescriptorPair left right = .ok ()) : Comparable left right := by
  rw [validateDescriptorPair] at h
  split_ifs at h with hvalid hsame
  simp only [not_or, ne_eq, not_not, Bool.not_eq_true', Bool.not_eq_false] at hvalid hsame
  exact ⟨hvalid.1, hvalid.2, hsame.1.symm, hsame.2.1.symm⟩

variable {polar}

theorem coarseCandidate_spec (h : coarseCandidate polar descriptor entry = .ok c) :
    c.entry = entry ∧ Comparable descriptor entry.descriptor := by
  obtain ⟨u, hvalidates, h⟩ := exists_ok_of_bind h
  obtain ⟨distance, -, h⟩ := exists_ok_of_bind h
  cases h
  exact ⟨rfl, comparable_of_validates hvalidates⟩

variable (polar descriptor) in
def measured (c : CoarseCandidate K) : LidarLoopCandidate K :=
  match alignPolarDescriptors polar descriptor c.entry.descriptor with
  | .ok a =>
    ⟨c.entry.scanId, c.entry.stampS, a.similarity, a.sectorShift, a.yawOffsetRad, c.distance⟩
  | .error _ => ⟨c.entry.scanId, c.entry.stampS, 0, 0, 0, c.distance⟩

variable (polar descriptor) in
theorem measured_identity (c : CoarseCandidate K) :
    (measured polar descriptor c).scanId = c.entry.scanId ∧
      (measured polar descriptor c).stampS = c.entry.stampS ∧
      (measured polar descriptor c).ringKeyDistance = c.distance := by
  rw [measured]
  cases alignPolarDescriptors polar descriptor c.entry.descriptor <;> exact ⟨rfl, rfl, rfl⟩

theorem aligned_eq (h : Comparable descriptor c.entry.descriptor) :
    aligned polar descriptor c = .ok (measured polar descriptor c) := by
  obtain ⟨a, ha⟩ := exists_align polar h
  rw [aligned, measured, ha]
  rfl

theorem similarity_nonneg {query candidate : PolarScanDescriptor K} {a : DescriptorAlignment K}
    (h : alignPolarDescriptors polar query candidate = .ok a) : 0 ≤ a.similarity := by
  rw [alignPolarDescriptors] at h
  cases hvalidates : validateDescriptorPair query candidate with
  | error e => simp [hvalidates] at h
  | ok u =>
    rw [hvalidates] at h
    dsimp only at h
    split_ifs at h
    · cases h
      exact le_rfl
    · cases h
      exact (Cyclic.foldl_raise _ _ (0, 0)).1

theorem measured_similarity (c : CoarseCandidate K) :
    0 ≤ (measured polar descriptor c).similarity := by
  rw [measured]
  cases h : alignPolarDescriptors polar descriptor c.entry.descriptor with
  | error e => exact le_rfl
  | ok a => exact similarity_nonneg h

structure Measures (polar : Polar K) (descriptor : PolarScanDescriptor K)
    (eligible : List (Entry K)) (coarse : List (CoarseCandidate K)) : Prop where
  entries : coarse.map CoarseCandidate.entry = eligible
  aligned : ∀ c ∈ coarse, aligned polar descriptor c = .ok (measured polar descriptor c)

theorem measures_of_mapM {eligible : List (Entry K)}
    (h : eligible.mapM (coarseCandidate polar descriptor) = .ok coarse) :
    Measures polar descriptor eligible coarse where
  entries := by
    rw [map_of_mapM (g := id) h fun entry c hc ↦ (coarseCandidate_spec hc).1, List.map_id]
  aligned c hc := by
    obtain ⟨entry, -, hentry⟩ := exists_of_mem_mapM h hc
    obtain ⟨rfl, hcomparable⟩ := coarseCandidate_spec hentry
    exact aligned_eq hcomparable

theorem preselected_eq (coarse : List (CoarseCandidate K)) (n : ℕ) :
    ((sortWith coarseBefore coarse).take (min coarse.length n)).map (measured polar descriptor) =
      best coarseKey n (coarse.map (measured polar descriptor)) := by
  have hbefore : ∀ a b : CoarseCandidate K, coarseBefore a b ↔
      (coarseKey ∘ measured polar descriptor) a < (coarseKey ∘ measured polar descriptor) b := by
    intro a b
    obtain ⟨hid, -, hdistance⟩ := measured_identity polar descriptor a
    obtain ⟨hid', -, hdistance'⟩ := measured_identity polar descriptor b
    rw [coarseBefore, nearer_iff, Function.comp, Function.comp, coarseKey, coarseKey, hid, hid',
      hdistance, hdistance']
  have hlength : (sortWith coarseBefore coarse).length = coarse.length := by
    rw [sortWith_eq hbefore, (sortedBy_perm _).length_eq]
  rw [best, sortedBy_map, ← sortWith_eq hbefore, ← List.map_take, min_comm, ← hlength,
    ← List.take_eq_take_min]

theorem candidates_eq
    (hcoarse : (index.eligible stampS).mapM (coarseCandidate polar descriptor) = .ok coarse) :
    index.candidates polar stampS descriptor = .ok (coarse.map (measured polar descriptor)) := by
  rw [candidates, hcoarse]
  exact mapM_eq_ok (measures_of_mapM hcoarse).aligned

theorem scanIds_nodup
    (hcoarse : (index.eligible stampS).mapM (coarseCandidate polar descriptor) = .ok coarse) :
    ((coarse.map (measured polar descriptor)).map LidarLoopCandidate.scanId).Nodup := by
  have hids : (coarse.map (measured polar descriptor)).map LidarLoopCandidate.scanId =
      (coarse.map CoarseCandidate.entry).map Entry.scanId := by
    rw [List.map_map, List.map_map]
    exact List.map_congr_left fun c _ ↦ (measured_identity polar descriptor c).1
  rw [hids, (measures_of_mapM hcoarse).entries]
  exact index.distinct.sublist (List.filter_sublist.map _)

omit [Field K] [LinearOrder K] in
theorem coarseKey_nodup {l : List (LidarLoopCandidate K)}
    (h : (l.map LidarLoopCandidate.scanId).Nodup) : (l.map coarseKey).Nodup := by
  refine .of_map (fun key ↦ (ofLex key).2) ?_
  rwa [List.map_map]

omit [Field K] [LinearOrder K] in
theorem finalKey_nodup {l : List (LidarLoopCandidate K)}
    (h : (l.map LidarLoopCandidate.scanId).Nodup) : (l.map finalKey).Nodup := by
  refine .of_map (fun key ↦ (ofLex (ofLex key).2).2) ?_
  rwa [List.map_map]

variable [Extended K]

theorem query_eq (hasked : ¬ refused stampS descriptor topK)
    (hcoarse : (index.eligible stampS).mapM (coarseCandidate polar descriptor) = .ok coarse) :
    index.query polar stampS descriptor topK = .ok (best finalKey topK
      ((best coarseKey (max topK index.config.coarsePreselectionCount)
        (coarse.map (measured polar descriptor))).filter fun candidate ↦
          ¬ candidate.similarity + slack < index.config.minimumSimilarity)) := by
  have hmeasures := measures_of_mapM hcoarse
  have hselected : ∀ n, ((sortWith coarseBefore coarse).take n).mapM (aligned polar descriptor) =
      .ok (((sortWith coarseBefore coarse).take n).map (measured polar descriptor)) := by
    intro n
    refine mapM_eq_ok fun c hc ↦ hmeasures.aligned c ?_
    exact (List.perm_insertionSort _ coarse).mem_iff.mp (List.mem_of_mem_take hc)
  rw [query, if_neg hasked, hcoarse]
  change (Except.bind (((sortWith coarseBefore coarse).take _).mapM _) _) = _
  rw [hselected, preselected_eq]
  change Except.ok _ = _
  rw [sortWith_eq finalBefore_iff]
  rfl

theorem query_answers {result : List (LidarLoopCandidate K)}
    (hresult : index.query polar stampS descriptor topK = .ok result) :
    ¬ refused stampS descriptor topK ∧
      ∃ coarse, (index.eligible stampS).mapM (coarseCandidate polar descriptor) = .ok coarse := by
  rw [query] at hresult
  split_ifs at hresult with hguard
  obtain ⟨coarse, hcoarse, -⟩ := exists_ok_of_bind hresult
  exact ⟨hguard, coarse, hcoarse⟩

theorem mem_of_query {result : List (LidarLoopCandidate K)}
    (hresult : index.query polar stampS descriptor topK = .ok result)
    (hcandidate : candidate ∈ result) :
    ∃ entry ∈ index.eligible stampS, candidate.scanId = entry.scanId ∧
      candidate.stampS = entry.stampS := by
  obtain ⟨hasked, coarse, hcoarse⟩ := query_answers hresult
  rw [query_eq hasked hcoarse] at hresult
  cases hresult
  have hfiltered := (sortedBy_perm _).mem_iff.mp (List.mem_of_mem_take hcandidate)
  have hmem :=
    (sortedBy_perm _).mem_iff.mp (List.mem_of_mem_take (List.mem_of_mem_filter hfiltered))
  obtain ⟨c, hc, rfl⟩ := List.mem_map.mp hmem
  obtain ⟨hid, hstampS, -⟩ := measured_identity polar descriptor c
  refine ⟨c.entry, ?_, hid, hstampS⟩
  rw [← (measures_of_mapM hcoarse).entries]
  exact List.mem_map_of_mem hc

omit [Field K] [Extended K] in
theorem countP_nearer (l : List (LidarLoopCandidate K)) (a : LidarLoopCandidate K) :
    l.countP (fun b ↦ nearer (b.ringKeyDistance, b.scanId) (a.ringKeyDistance, a.scanId)) =
      ahead coarseKey l a := by
  refine List.countP_congr fun b _ ↦ ?_
  rw [decide_eq_true_iff, decide_eq_true_iff, nearer_iff]
  rfl

theorem cutsOffNone_iff (hasked : ¬ refused stampS descriptor topK)
    (hcoarse : (index.eligible stampS).mapM (coarseCandidate polar descriptor) = .ok coarse) :
    index.CutsOffNoneOfTheBest polar stampS descriptor topK ↔
      ∀ a ∈ coarse.map (measured polar descriptor),
        max topK index.config.coarsePreselectionCount ≤
          ahead coarseKey (coarse.map (measured polar descriptor)) a →
        topK ≤ ahead finalKey (coarse.map (measured polar descriptor)) a := by
  have hcandidates := candidates_eq hcoarse
  have hfinalKey : ∀ (l : List (LidarLoopCandidate K)) (a : LidarLoopCandidate K),
      l.countP (fun b ↦ finalBefore b a) = ahead finalKey l a := by
    intro l a
    exact List.countP_congr fun b _ ↦ by simp [finalBefore_iff]
  constructor
  · intro h a ha hcut
    rw [← hfinalKey]
    exact h hasked _ hcandidates a ha (by rwa [cutOff, countP_nearer])
  · intro h _ candidates hother a ha hcut
    cases hcandidates.symm.trans hother
    rw [cutOff, countP_nearer] at hcut
    rw [hfinalKey]
    exact h a ha hcut

theorem settlesTies_iff : index.SettlesTies polar stampS descriptor topK ↔
    index.CutsOffNoneOfTheBest polar stampS descriptor topK := by
  constructor
  · intro h hasked candidates hcandidates a ha hcut
    by_cases htie : ∃ b ∈ candidates, ¬ index.cutOff topK candidates b ∧
        a.ringKeyDistance = b.ringKeyDistance ∧ b.similarity < a.similarity
    · obtain ⟨b, hb, hkept, htied, hless⟩ := htie
      exact h hasked candidates hcandidates a ha b hb hcut hkept htied hless
    obtain ⟨coarse, hcoarse, -⟩ := exists_ok_of_bind hcandidates
    cases (candidates_eq hcoarse).symm.trans hcandidates
    rw [cutOff, countP_nearer] at hcut
    refine (le_max_left _ _).trans ((le_countP_ahead_lt (coarseKey_nodup (scanIds_nodup hcoarse))
      ha hcut).trans (List.countP_mono_left fun b hb hkept ↦ ?_))
    rw [decide_eq_true_iff] at hkept ⊢
    have hbefore := lt_of_ahead_lt hkept hcut
    rw [coarseKey, coarseKey, Prod.Lex.toLex_lt_toLex] at hbefore
    rw [finalBefore]
    rcases hbefore with hnear | ⟨htied, hid⟩
    · rw [if_pos (ne_of_lt hnear)]
      exact hnear
    rw [if_neg (not_not_intro htied)]
    have hsimilar : a.similarity ≤ b.similarity := not_lt.mp fun hless ↦
      htie ⟨b, hb, by rwa [cutOff, countP_nearer, not_le], htied.symm, hless⟩
    split_ifs with hdiffer
    · exact lt_of_le_of_ne hsimilar (Ne.symm hdiffer)
    · exact hid
  · exact fun h hasked candidates hcandidates a ha b _ hcut _ _ _ ↦
      h hasked candidates hcandidates a ha hcut

variable [IsStrictOrderedRing K]

theorem stampS_lt (hseparation : nano < index.config.minimumTemporalSeparationS)
    {result : List (LidarLoopCandidate K)}
    (hresult : index.query polar stampS descriptor topK = .ok result)
    (hcandidate : candidate ∈ result) : candidate.stampS < stampS := by
  obtain ⟨entry, hentry, -, hstampS⟩ := mem_of_query hresult hcandidate
  have hold := List.of_mem_filter hentry
  rw [decide_eq_true_iff] at hold
  linarith

theorem query_eq_exhaustive_iff (hsimilarity : index.config.minimumSimilarity = 0) :
    index.query polar stampS descriptor topK = index.exhaustive polar stampS descriptor topK ↔
      index.CutsOffNoneOfTheBest polar stampS descriptor topK := by
  by_cases hasked : refused stampS descriptor topK
  · rw [query, exhaustive, if_pos hasked, if_pos hasked]
    exact iff_of_true rfl fun h ↦ absurd hasked h
  cases hcoarse : (index.eligible stampS).mapM (coarseCandidate polar descriptor) with
  | error e =>
    -- both fail at the same entry
    refine iff_of_true ?_ ?_
    · rw [query, exhaustive, candidates, if_neg hasked, if_neg hasked, hcoarse]
      rfl
    · intro _ candidates hcandidates
      rw [LidarLoopCandidateIndex.candidates, hcoarse] at hcandidates
      cases hcandidates
  | ok coarse =>
    have hids := scanIds_nodup hcoarse
    have hall : ∀ n, (best coarseKey n (coarse.map (measured polar descriptor))).filter
        (fun candidate ↦ ¬ candidate.similarity + slack < index.config.minimumSimilarity) =
        best coarseKey n (coarse.map (measured polar descriptor)) := by
      intro n
      refine List.filter_eq_self.mpr fun candidate hcandidate ↦ ?_
      have hmem := (sortedBy_perm _).mem_iff.mp (List.mem_of_mem_take hcandidate)
      obtain ⟨c, -, rfl⟩ := List.mem_map.mp hmem
      rw [hsimilarity, decide_eq_true_iff, not_lt]
      exact add_nonneg (measured_similarity c) slack_pos.le
    have hexhaustive : index.exhaustive polar stampS descriptor topK =
        .ok (best finalKey topK (coarse.map (measured polar descriptor))) := by
      rw [exhaustive, if_neg hasked, candidates_eq hcoarse, best, ← sortWith_eq finalBefore_iff]
      rfl
    rw [query_eq hasked hcoarse, hexhaustive, hall, cutsOffNone_iff hasked hcoarse,
      ← best_preselected_iff (coarseKey_nodup hids) (finalKey_nodup hids)]
    exact ⟨Except.ok.inj, congrArg _⟩

/-- The answer is the exhaustive one exactly if the ties across the border are settled. -/
theorem query_exact_iff (polar : Polar K) (index : LidarLoopCandidateIndex K) (stampS : K)
    (descriptor : PolarScanDescriptor K) (topK : ℕ) :
    index.Exact polar stampS descriptor topK ↔ (index.config.minimumSimilarity = 0 →
      index.SettlesTies polar stampS descriptor topK) := by
  constructor
  · intro h hsimilarity
    exact settlesTies_iff.mpr ((query_eq_exhaustive_iff hsimilarity).mp (h.complete hsimilarity))
  · intro h
    exact
      { complete := fun hsimilarity ↦
          (query_eq_exhaustive_iff hsimilarity).mpr (settlesTies_iff.mp (h hsimilarity))
        earlier := fun hseparation result hresult candidate hcandidate ↦
          stampS_lt hseparation hresult hcandidate }

/-- All the weight in one sector. -/
noncomputable def spot : PolarScanDescriptor ℝ := ⟨1, 4, 1, [1 + 1, 0, 0, 0], [(1 + 1)⁻¹]⟩

noncomputable def pair : PolarScanDescriptor ℝ := ⟨1, 4, 2, [1, 1, 0, 0], [(1 + 1)⁻¹]⟩

noncomputable def twoOf (first second : PolarScanDescriptor ℝ)
    (hvalid : first.valid = true ∧ second.valid = true) : LidarLoopCandidateIndex ℝ where
  config := ⟨60, 1, 0⟩
  entries := [⟨1, 0, first⟩, ⟨2, 1, second⟩]
  valid := by
    intro entry hentry
    rcases List.mem_pair.mp hentry with rfl | rfl
    · exact hvalid.1
    · exact hvalid.2
  distinct := (by decide : [(1 : ℤ), 2].Nodup)

/-- The entry that fits the spot exactly comes second. -/
noncomputable def tied : LidarLoopCandidateIndex ℝ := twoOf pair spot ⟨rfl, rfl⟩

noncomputable def settled : LidarLoopCandidateIndex ℝ := twoOf spot pair ⟨rfl, rfl⟩

theorem twoOf_eligible (first second : PolarScanDescriptor ℝ)
    (hvalid : first.valid = true ∧ second.valid = true) :
    (twoOf first second hvalid).eligible 100 = [⟨1, 0, first⟩, ⟨2, 1, second⟩] := by
  refine List.filter_eq_self.mpr fun entry hentry ↦ ?_
  rcases List.mem_pair.mp hentry with rfl | rfl
  · norm_num [twoOf, nano]
  · norm_num [twoOf, nano]

theorem spot_comparable : Comparable spot spot ∧ Comparable spot pair :=
  ⟨⟨rfl, rfl, rfl, rfl⟩, ⟨rfl, rfl, rfl, rfl⟩⟩

theorem one_le_similarity_spot {a : DescriptorAlignment ℝ}
    (h : alignPolarDescriptors realPolar spot spot = .ok a) : 1 ≤ a.similarity := by
  have hnorm : normSquared spot = 4 := by norm_num [normSquared, spot]
  rw [alignPolarDescriptors_eq realPolar spot_comparable.1] at h
  rw [hnorm, sqrt_mul_self (by norm_num), if_neg (by norm_num [epsilon])] at h
  cases h
  have hfirst := (Cyclic.foldl_raise (fun shift ↦ dot spot spot shift / 4)
    (List.range spot.angularBins) (0, 0)).2.1 0 (List.mem_range.mpr (by decide))
  rwa [dot_self rfl, hnorm, div_self (by norm_num)] at hfirst

theorem similarity_pair_lt_one {a : DescriptorAlignment ℝ}
    (h : alignPolarDescriptors realPolar spot pair = .ok a) : a.similarity < 1 := by
  have hspot : normSquared spot = 4 := by norm_num [normSquared, spot]
  have hpair : normSquared pair = 2 := by norm_num [normSquared, pair]
  have hroot : 2 < realPolar.sqrt (normSquared spot * normSquared pair) := by
    rw [hspot, hpair]
    exact Real.lt_sqrt_of_sq_lt (by norm_num)
  rw [alignPolarDescriptors_eq realPolar spot_comparable.2] at h
  dsimp only at h
  split_ifs at h
  · cases h
    exact zero_lt_one
  · cases h
    rcases (Cyclic.foldl_raise (fun shift ↦ dot spot pair shift /
      realPolar.sqrt (normSquared spot * normSquared pair)) (List.range spot.angularBins)
      (0, 0)).2.2 with heq | ⟨s, hs, heq⟩
    · rw [heq]
      exact zero_lt_one
    · have hdot : dot spot pair s ≤ 2 := by
        have hs' : s < 4 := List.mem_range.mp hs
        interval_cases s <;> norm_num [dot, spot, pair, Finset.sum_range_succ]
      rw [heq, div_lt_one (by linarith)]
      linarith

/-- The entry that fits exactly ties with the one before it at the border, and is lost. -/
theorem tie_cut_off : ¬ tied.Exact realPolar 100 spot 1 := by
  intro h
  have hasked : ¬ refused (100 : ℝ) spot 1 := by
    rintro (hvalid | hfinite | hnone)
    · cases hvalid
    · cases hfinite
    · cases hnone
  obtain ⟨d, hcoarse⟩ : ∃ d, (tied.eligible 100).mapM (coarseCandidate realPolar spot) =
      .ok [⟨⟨1, 0, pair⟩, d⟩, ⟨⟨2, 1, spot⟩, d⟩] := by
    rw [tied, twoOf_eligible]
    exact ⟨_, rfl⟩
  have hcut := (cutsOffNone_iff hasked hcoarse).mp
    ((query_eq_exhaustive_iff rfl).mp (h.complete rfl)) (measured realPolar spot ⟨⟨2, 1, spot⟩, d⟩)
    (by simp)
  obtain ⟨a, ha⟩ := exists_align realPolar spot_comparable.2
  obtain ⟨b, hb⟩ := exists_align realPolar spot_comparable.1
  have hless := similarity_pair_lt_one ha
  have hmore := one_le_similarity_spot hb
  have hbehind : ¬ finalKey (measured realPolar spot ⟨⟨1, 0, pair⟩, d⟩) <
      finalKey (measured realPolar spot ⟨⟨2, 1, spot⟩, d⟩) := by
    rw [← finalBefore_iff, finalBefore, measured, measured, ha, hb, if_neg (by simp),
      if_pos (hless.trans_le hmore).ne]
    exact not_lt.mpr (hless.le.trans hmore)
  have hbefore : coarseKey (measured realPolar spot ⟨⟨1, 0, pair⟩, d⟩) <
      coarseKey (measured realPolar spot ⟨⟨2, 1, spot⟩, d⟩) := by
    rw [measured, measured, ha, hb]
    exact nearer_iff.mp (by simp [nearer])
  simp only [List.map_cons, List.map_nil, ahead, List.countP_cons, List.countP_nil, hbefore,
    hbehind, lt_irrefl, decide_true, decide_false, if_true, Bool.false_eq_true, if_false] at hcut
  exact absurd (hcut (le_refl 1)) (by decide)

/-- Of two entries that tie the less similar one is cut off. -/
theorem settled_exact : settled.Exact realPolar 100 spot 1 ∧
    max 1 settled.config.coarsePreselectionCount < (settled.eligible 100).length := by
  refine ⟨(query_exact_iff realPolar settled 100 spot 1).mpr
    fun _ hasked candidates hcandidates ↦ ?_,
    by rw [settled, twoOf_eligible]; decide⟩
  obtain ⟨d, hcoarse⟩ : ∃ d, (settled.eligible 100).mapM (coarseCandidate realPolar spot) =
      .ok [⟨⟨1, 0, spot⟩, d⟩, ⟨⟨2, 1, pair⟩, d⟩] := by
    rw [settled, twoOf_eligible]
    exact ⟨_, rfl⟩
  cases (candidates_eq hcoarse).symm.trans hcandidates
  obtain ⟨a, ha⟩ := exists_align realPolar spot_comparable.1
  obtain ⟨b, hb⟩ := exists_align realPolar spot_comparable.2
  have hfirst : measured realPolar spot ⟨⟨1, 0, spot⟩, d⟩ =
      ⟨1, 0, a.similarity, a.sectorShift, a.yawOffsetRad, d⟩ := by rw [measured, ha]
  have hsecond : measured realPolar spot ⟨⟨2, 1, pair⟩, d⟩ =
      ⟨2, 1, b.similarity, b.sectorShift, b.yawOffsetRad, d⟩ := by rw [measured, hb]
  have hless := (similarity_pair_lt_one hb).trans_le (one_le_similarity_spot ha)
  rw [List.map_cons, List.map_cons, List.map_nil, hfirst, hsecond]
  intro cut hcut kept hkept hbeyond _ _ hsimilar
  rcases List.mem_pair.mp hcut with rfl | rfl
  · exact absurd hbeyond (by simp [cutOff, nearer, settled, twoOf])
  · rcases List.mem_pair.mp hkept with rfl | rfl
    · exact absurd hsimilar hless.not_gt
    · exact absurd hsimilar (lt_irrefl _)

end LidarLoopCandidateIndex

end Ranking

structure LiveLidarLoopDetectorConfig (K : Type) where
  descriptor : PolarDescriptorConfig K
  index : LoopCandidateIndexConfig K
  topK : ℕ := 10
  sampleIntervalS : K

structure LiveLidarLoopBatch (K : Type) where
  queryId : ℕ
  queryStampS : K
  indexedScans : ℕ
  candidates : List (LidarLoopCandidate K)

structure LiveLidarLoopDetector (K : Type) where
  config : LiveLidarLoopDetectorConfig K
  index : LidarLoopCandidateIndex K
  nextScanId : ℕ := 0
  lastInputStampS : Option K := none
  lastSampleStampS : Option K := none

namespace LiveLidarLoopDetector

variable {K : Type} [Field K] [LinearOrder K] [FloorRing K] [Extended K]

def create (config : LiveLidarLoopDetectorConfig K) : Except String (LiveLidarLoopDetector K) := do
  let index ← LidarLoopCandidateIndex.create config.index
  if config.topK = 0 ∨ !Extended.isFinite config.sampleIntervalS ∨ config.sampleIntervalS < 0 then
    .error "invalid live lidar loop detector configuration"
  else .ok { config := config, index := index }

variable (polar : Polar K) (log1p : K → K)

def search (d : LiveLidarLoopDetector K) (stampS : K) (descriptor : PolarScanDescriptor K) :
    LiveLidarLoopDetector K × Except String (Option (LiveLidarLoopBatch K)) :=
  let queryId := d.nextScanId
  let d := { d with nextScanId := queryId + 1 }
  match d.index.query polar stampS descriptor d.config.topK with
  | .error e => (d, .error e)
  | .ok candidates =>
    match d.index.add queryId stampS descriptor with
    | .error e => (d, .error e)
    | .ok index =>
      ({ d with index := index, lastSampleStampS := some stampS },
        .ok (some ⟨queryId, stampS, index.entries.length, candidates⟩))

def ingest (d : LiveLidarLoopDetector K) (scan : K × List (Point K)) :
    LiveLidarLoopDetector K × Except String (Option (LiveLidarLoopBatch K)) :=
  let stampS := scan.1
  if !Extended.isFinite stampS then (d, .error "lidar scan timestamp must be finite")
  else if d.lastInputStampS.any fun last ↦ stampS + nano < last then
    (d, .error "lidar scan timestamps must be monotonic")
  else
    let d := { d with lastInputStampS := some stampS }
    if d.lastSampleStampS.any fun last ↦ stampS - last + nano < d.config.sampleIntervalS then
      (d, .ok none)
    else match makePolarScanDescriptor polar log1p scan.2 d.config.descriptor with
    | .error e => (d, .error e)
    | .ok descriptor =>
      if !descriptor.valid then (d, .ok none) else d.search polar stampS descriptor

def Numbered (d : LiveLidarLoopDetector K) : Prop :=
  ∀ entry ∈ d.index.entries, entry.scanId < d.nextScanId

variable {polar log1p} {d : LiveLidarLoopDetector K} {stampS : K}
  {descriptor : PolarScanDescriptor K}

omit [Field K] [LinearOrder K] [FloorRing K] in
theorem add_of_numbered (hd : d.Numbered) (hvalid : descriptor.valid = true)
    (hstamp : Extended.isFinite stampS = true) :
    ∃ index, d.index.add d.nextScanId stampS descriptor = .ok index ∧
      index.entries = d.index.entries ++ [⟨d.nextScanId, stampS, descriptor⟩] := by
  have hnew : (d.nextScanId : ℤ) ∉ d.index.entries.map Entry.scanId := by
    intro hmem
    obtain ⟨entry, hentry, heq⟩ := List.mem_map.mp hmem
    exact absurd heq (hd entry hentry).ne
  rw [LidarLoopCandidateIndex.add, dif_neg (by simp [hvalid, hstamp]), dif_neg hnew]
  exact ⟨_, rfl, rfl⟩

omit [FloorRing K] in
theorem search_spec (polar : Polar K) (hd : d.Numbered) (hvalid : descriptor.valid = true)
    (hstamp : Extended.isFinite stampS = true) :
    (d.search polar stampS descriptor).1.Numbered ∧
      ∀ batch, (d.search polar stampS descriptor).2 = .ok (some batch) →
        ∀ candidate ∈ batch.candidates, candidate.scanId < batch.queryId := by
  obtain ⟨index, hadd, hentries⟩ := add_of_numbered hd hvalid hstamp
  have hraised : ∀ entry ∈ d.index.entries, entry.scanId < (d.nextScanId + 1 : ℕ) := by
    intro entry hentry
    have hlt := hd entry hentry
    omega
  rw [search]
  cases hquery : d.index.query polar stampS descriptor d.config.topK with
  | error e => exact ⟨hraised, fun batch hbatch ↦ by cases hbatch⟩
  | ok candidates =>
    rw [hadd]
    refine ⟨?_, ?_⟩
    · intro entry hentry
      rw [hentries] at hentry
      rcases List.mem_append.mp hentry with hold | hnew
      · exact hraised entry hold
      · rw [List.mem_singleton.mp hnew]
        exact Int.ofNat_lt.mpr (Nat.lt_succ_self d.nextScanId)
    · rintro batch hbatch candidate hcandidate
      cases hbatch
      obtain ⟨entry, hentry, hid, -⟩ :=
        LidarLoopCandidateIndex.mem_of_query hquery hcandidate
      rw [hid]
      exact hd entry (List.mem_of_mem_filter hentry)

theorem ingest_spec (polar : Polar K) (log1p : K → K) (hd : d.Numbered)
    (scan : K × List (Point K)) :
    (d.ingest polar log1p scan).1.Numbered ∧
      ∀ batch, (d.ingest polar log1p scan).2 = .ok (some batch) →
        ∀ candidate ∈ batch.candidates, candidate.scanId < batch.queryId := by
  rw [ingest]
  dsimp only
  split_ifs with hfinite hmonotonic hearly
  · exact ⟨hd, fun batch hbatch ↦ by cases hbatch⟩
  · exact ⟨hd, fun batch hbatch ↦ by cases hbatch⟩
  · exact ⟨hd, fun batch hbatch ↦ by cases hbatch⟩
  · cases makePolarScanDescriptor polar log1p scan.2 d.config.descriptor with
    | error e => exact ⟨hd, fun batch hbatch ↦ by cases hbatch⟩
    | ok descriptor =>
      dsimp only
      split_ifs with hvalid
      · exact ⟨hd, fun batch hbatch ↦ by cases hbatch⟩
      · exact search_spec polar hd (by simpa using hvalid) (by simpa using hfinite)

variable (polar log1p) in
def found (d : LiveLidarLoopDetector K) (scan : K × List (Point K)) : List (LiveLidarLoopBatch K) :=
  match (d.ingest polar log1p scan).2 with
  | .ok (some batch) => [batch]
  | _ => []

/-- A scan is compared with earlier ones alone, though its own entry has any other's form. -/
theorem never_own_candidate {config : LiveLidarLoopDetectorConfig K}
    (hcreate : create config = .ok d) (scans : List (K × List (Point K))) :
    (History.collect (ingest polar log1p) (found polar log1p) d scans).Forall fun batch ↦
      batch.candidates.Forall fun candidate ↦ candidate.scanId < (batch.queryId : ℤ) := by
  have hstart : d.Numbered := by
    obtain ⟨index, hindex, hcreate⟩ := exists_ok_of_bind hcreate
    split_ifs at hcreate
    cases hcreate
    rw [LidarLoopCandidateIndex.create] at hindex
    split_ifs at hindex
    cases hindex
    simp [Numbered]
  simp only [List.forall_iff_forall_mem]
  intro batch hbatch
  obtain ⟨pre, scan, post, -, hfound⟩ := (History.mem_collect (ingest polar log1p) _).mp hbatch
  have hrun : (History.run (ingest polar log1p) d pre).Numbered :=
    History.run_preserves (ingest polar log1p) (I := Numbered)
      (fun d scan hd ↦ (ingest_spec polar log1p hd scan).1) hstart pre
  refine (ingest_spec polar log1p hrun scan).2 batch ?_
  unfold found at hfound
  split at hfound
  · rw [List.mem_singleton.mp hfound]
    assumption
  · cases hfound

theorem never_own_candidate_created : ∃ d : LiveLidarLoopDetector ℝ, ∀ log1p scans,
    (History.collect (ingest realPolar log1p) (found realPolar log1p) d scans).Forall fun batch ↦
      batch.candidates.Forall fun candidate ↦ candidate.scanId < (batch.queryId : ℤ) := by
  let config : LiveLidarLoopDetectorConfig ℝ := ⟨{ maximumRangeM := 12 }, ⟨0, 1, 0⟩, 10, 0⟩
  have hcreate : create config = .ok { config, index := ⟨config.index, [], by simp, by simp⟩ } := by
    norm_num [create, LidarLoopCandidateIndex.create, config, Extended.isFinite]
    rfl
  exact ⟨_, fun log1p scans ↦ never_own_candidate hcreate scans⟩

end LiveLidarLoopDetector

end EmbodiedAgent.Slam.LoopCandidates
