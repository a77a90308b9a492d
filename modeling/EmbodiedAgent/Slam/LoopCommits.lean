import EmbodiedAgent.Library.History
import EmbodiedAgent.Slam.LoopConstraintGate

namespace EmbodiedAgent.Slam.LidarLoopConstraintGate

open Library Library.History

variable {m : MathLibrary} {config : Config} {i : LidarLoopConstraintInput}

/-- The thresholds that an observation has to pass on its own. -/
structure Passes (config : Config) (i : LidarLoopConstraintInput) : Prop where
  candidate : 0 < i.candidateStampNs
  order : i.candidateStampNs < i.queryStampNs
  identity : i.queryId ≠ i.candidateId
  upstream : i.available = true ∧ i.converged = true ∧ i.accepted = true
  yaw : i.yawAmbiguous = false
  finite : i.targetToSource.finite = true ∧ i.finiteMetrics = true
  mode : config.requireScanToSubmap = true → i.matchingMode = "scan_to_submap"
  submaps : config.minimumSubmapScans ≤ i.querySubmapScans ∧
    config.minimumSubmapScans ≤ i.candidateSubmapScans
  correspondences : config.minimumCorrespondences ≤ i.correspondences
  similarity : ¬ i.descriptorSimilarity < config.minimumDescriptorSimilarity
  inliers : ¬ i.inlierRatio < config.minimumInlierRatio
  overlap : ¬ i.overlapRatio < config.minimumOverlapRatio
  rmse : ¬ config.maximumRmseM < i.rmseM
  observability : ¬ i.observabilityRatio < config.minimumObservabilityRatio

theorem nonneg_of_ratio {bound value : Double} (hbound : bound.isFinite = true ∧ ¬ bound < 0 ∧
    ¬ Double.ofRat 1 < bound) (hvalue : value.isFinite = true) (h : ¬ value < bound) :
    0 ≤ value := by
  obtain ⟨b, hb, rfl⟩ := Double.eq_finite_of_isFinite hbound.1
  obtain ⟨v, hv, rfl⟩ := Double.eq_finite_of_isFinite hvalue
  have hb0 : 0 ≤ b := not_lt.mp fun hneg ↦ hbound.2.1 (Double.finite_lt_finite.mpr hneg)
  have hbv : b ≤ v := not_lt.mp fun hlt ↦ h (Double.finite_lt_finite.mpr hlt)
  exact Double.finite_le_finite.mpr (hb0.trans hbv)

theorem unrefused {p : Prop} [Decidable p] {reason rest : String} (hne : reason ≠ "eligible")
    (h : (if p then reason else rest) = "eligible") : ¬ p ∧ rest = "eligible" := by
  by_cases hp : p
  · rw [if_pos hp] at h
    exact absurd h hne
  · rw [if_neg hp] at h
    exact ⟨hp, h⟩

theorem passes_of_eligible (h : validate config i = "eligible") : Passes config i := by
  obtain ⟨hid, h⟩ := unrefused (by decide) h
  obtain ⟨hup, h⟩ := unrefused (by decide) h
  obtain ⟨hyaw, h⟩ := unrefused (by decide) h
  obtain ⟨hfin, h⟩ := unrefused (by decide) h
  obtain ⟨hmode, h⟩ := unrefused (by decide) h
  obtain ⟨hsub, h⟩ := unrefused (by decide) h
  obtain ⟨hcor, h⟩ := unrefused (by decide) h
  obtain ⟨hsim, h⟩ := unrefused (by decide) h
  obtain ⟨hinl, h⟩ := unrefused (by decide) h
  obtain ⟨hover, h⟩ := unrefused (by decide) h
  obtain ⟨hrms, h⟩ := unrefused (by decide) h
  obtain ⟨hobs, -⟩ := unrefused (by decide) h
  simp only [not_or, not_lt] at hid hsub
  obtain ⟨-, hcand, horder, hne⟩ := hid
  simp only [Bool.or_eq_true, Bool.not_eq_true', not_or, Bool.not_eq_false] at hup hfin
  refine ⟨Int64.not_le.mp hcand, Int64.not_le.mp horder, hne, ⟨hup.1.1, hup.1.2, hup.2⟩, ?_, hfin,
    ?_, hsub, not_lt.mp hcor, hsim, hinl, hover, hrms, hobs⟩
  · simpa using hyaw
  · simpa using hmode

theorem weight_nonneg {weight : ℚ} (h : 0 ≤ weight) (h' : weight ≤ 1) {v : Double}
    (hv : v.isFinite = true) (hpos : 0 ≤ v) : 0 ≤ (Double.ofRat weight).mul v := by
  obtain ⟨w, hw, heq, hw0, -⟩ :=
    Double.ofRat_between representable_zero representable_one h h'
  rw [heq]
  exact Double.mul_nonneg rfl hv (Double.finite_le_finite.mpr hw0) hpos

theorem qualityScore_nonneg (hconfig : config.Valid) (h : validate config i = "eligible") :
    0 ≤ qualityScore config i := by
  have hpass := passes_of_eligible h
  have hfin := hpass.finite.2
  simp only [LidarLoopConstraintInput.finiteMetrics, Bool.and_eq_true] at hfin
  obtain ⟨⟨⟨⟨hsim, hinl⟩, hover⟩, hrms⟩, -⟩ := hfin
  have hmax := hconfig.positive config.maximumRmseM (by simp)
  have hratio := hconfig.ratios
  simp only [List.mem_cons, List.not_mem_nil, or_false, forall_eq_or_imp, forall_eq] at hratio
  obtain ⟨hminSim, hminInl, hminOver, -⟩ := hratio
  have hone := Double.ofRat_of_representable representable_one
  have hrest : (Double.ofRat 1).sub (i.rmseM.div config.maximumRmseM) ≠ .nan := by
    rw [hone]
    exact Double.finite_sub_ne_nan (Double.div_ne_nan hrms hmax.1 hmax.2)
  have hrmse : ∃ v hv, clamp ((Double.ofRat 1).sub (i.rmseM.div config.maximumRmseM)) 0 (.ofRat 1) =
      .finite v hv ∧ 0 ≤ v ∧ v ≤ 1 := by
    rw [hone] at hrest ⊢
    exact Double.clamp_between hrest zero_le_one
  obtain ⟨v, hv, hrmse, hv0, -⟩ := hrmse
  refine Double.add_nonneg (Double.add_nonneg (Double.add_nonneg ?_ ?_) ?_) ?_
  · exact weight_nonneg (by norm_num) (by norm_num) hsim
      (nonneg_of_ratio hminSim hsim hpass.similarity)
  · exact weight_nonneg (by norm_num) (by norm_num) hinl
      (nonneg_of_ratio hminInl hinl hpass.inliers)
  · exact weight_nonneg (by norm_num) (by norm_num) hover
      (nonneg_of_ratio hminOver hover hpass.overlap)
  · rw [hrmse]
    exact weight_nonneg (by norm_num) (by norm_num) rfl (Double.finite_le_finite.mpr hv0)

theorem observation_valid (h : Passes config i) : i.observation.valid = true := by
  have hquery : 0 < i.queryStampNs := Int64.lt_trans h.candidate h.order
  simp [LidarLoopTemporalObservation.valid, LidarLoopConstraintInput.observation, hquery,
    h.candidate, h.order, h.identity, h.finite.1]

def stamp (s : LidarLoopTemporalConsistency.State) : Int64 :=
  (s.previous.map (·.queryStampNs)).getD 0

theorem observe_cases (c : LidarLoopTemporalConsistency.Config)
    (s : LidarLoopTemporalConsistency.State) {o : LidarLoopTemporalObservation}
    (hvalid : o.valid = true) :
    let answer := LidarLoopTemporalConsistency.observe m c s o
    (answer.1.approved = false ∧ answer.2 = s) ∨
      (stamp s < o.queryStampNs ∧ answer.2.previous = some o ∧
        (answer.1.approved = true → c.minimumConfirmations ≤ answer.1.confirmationCount)) := by
  have hpos : 0 < o.queryStampNs := by
    simp only [LidarLoopTemporalObservation.valid, Bool.and_eq_true, decide_eq_true_eq] at hvalid
    exact hvalid.1.1.1.1
  simp only [LidarLoopTemporalConsistency.observe, hvalid, Bool.not_true, Bool.false_eq_true,
    if_false, stamp]
  cases hprevious : s.previous with
  | none => exact .inr ⟨hpos, rfl, fun happroved ↦ of_decide_eq_true happroved⟩
  | some previous =>
    by_cases horder : o.queryStampNs ≤ previous.queryStampNs
    · exact .inl (by simp [horder])
    · simp only [horder, if_false]
      refine .inr ⟨Int64.not_le.mp horder, ?_⟩
      cases LidarLoopTemporalConsistency.resetReason c (deltasBetween m o previous) with
      | some reason => exact ⟨rfl, fun happroved ↦ Bool.noConfusion happroved⟩
      | none => exact ⟨rfl, fun happroved ↦ of_decide_eq_true happroved⟩

theorem extend_approved {c : LidarLoopSequenceConsistency.Config}
    {hypotheses : List LidarLoopSequenceConsistency.Hypothesis} {o : LidarLoopTemporalObservation}
    (h : (LidarLoopSequenceConsistency.extend m c hypotheses o).1.approved = true) :
    c.minimumConfirmations ≤
      (LidarLoopSequenceConsistency.extend m c hypotheses o).1.confirmationCount := by
  rw [LidarLoopSequenceConsistency.extend] at h ⊢
  split_ifs at h ⊢
  exact of_decide_eq_true h

theorem observeBatch_answers {c : LidarLoopSequenceConsistency.Config}
    (s : LidarLoopSequenceConsistency.State) (os : List LidarLoopTemporalObservation)
    (hshared : ∀ o ∈ os, ∀ o' ∈ os, o.queryStampNs = o'.queryStampNs) :
    ∃ answers s', LidarLoopSequenceConsistency.observeBatch m c s os = .ok (answers, s') ∧
      answers.length = os.length ∧ s.latestQueryStampNs ≤ s'.latestQueryStampNs ∧
      ∀ p ∈ os.zip answers, p.2.approved = true →
        s.latestQueryStampNs < p.1.queryStampNs ∧ s'.latestQueryStampNs = p.1.queryStampNs ∧
          c.minimumConfirmations ≤ p.2.confirmationCount := by
  cases os with
  | nil => exact ⟨[], s, rfl, rfl, Int64.le_refl _, by simp⟩
  | cons first rest =>
    have hsame : ¬ (first :: rest).any (·.queryStampNs ≠ first.queryStampNs) = true := by
      intro hany
      obtain ⟨o, ho, hne⟩ := List.any_eq_true.mp hany
      exact of_decide_eq_true hne (hshared o ho first List.mem_cons_self)
    rw [LidarLoopSequenceConsistency.observeBatch, if_neg hsame]
    by_cases horder : first.queryStampNs ≤ s.latestQueryStampNs
    · rw [if_pos horder]
      refine ⟨_, s, rfl, List.length_map .., Int64.le_refl _, fun p hp happroved ↦ ?_⟩
      obtain ⟨o, -, heq⟩ := List.mem_map.mp (List.of_mem_zip hp).2
      rw [← heq] at happroved
      cases happroved
    · rw [if_neg horder]
      have hlater := Int64.not_le.mp horder
      refine ⟨_, _, rfl, by simp, Int64.le_of_lt hlater, fun p hp happroved ↦ ?_⟩
      obtain ⟨ho, hanswer⟩ := List.of_mem_zip hp
      have hstamp := hshared p.1 ho first List.mem_cons_self
      refine ⟨by rwa [hstamp], hstamp.symm, ?_⟩
      obtain ⟨d, hd, heq⟩ := List.mem_map.mp hanswer
      obtain ⟨o, -, rfl⟩ := List.mem_map.mp hd
      rw [← heq] at happroved ⊢
      exact extend_approved happroved

structure Screened (config : Config) (s : State) (inputs : List LidarLoopConstraintInput)
    (c : Screening) : Prop where
  taken : c.decisions.map (·.input) = inputs
  idle : ∀ d ∈ c.decisions, d.commitRequested = false
  eligible : ∀ index ∈ c.eligible, ∃ d, c.decisions[index]? = some d ∧
    validate config d.input = "eligible" ∧ d.qualityScore = qualityScore config d.input
  nodup : c.eligible.Nodup
  observations : (c.eligible.filterMap fun index ↦
    c.decisions[index]?.map (·.input.observation)).Sublist (inputs.map (·.observation))
  temporal : c.state.temporal = s.temporal
  sequence : c.state.sequence = s.sequence
  lastCommit : c.state.lastCommitQueryId = s.lastCommitQueryId

theorem getElem?_append_of_some {α : Type} {l l' : List α} {index : ℕ} {a : α}
    (h : l[index]? = some a) : (l ++ l')[index]? = some a := by
  obtain ⟨hlt, -⟩ := List.getElem?_eq_some_iff.mp h
  rw [List.getElem?_append_left hlt, h]

namespace Screened

variable {s : State} {inputs : List LidarLoopConstraintInput} {c : Screening}

theorem length (h : Screened config s inputs c) {index : ℕ} (hindex : index ∈ c.eligible) :
    index < c.decisions.length := by
  obtain ⟨d, hd, -⟩ := h.eligible index hindex
  exact (List.getElem?_eq_some_iff.mp hd).1

theorem observations_append (h : Screened config s inputs c) (d : LidarLoopConstraintDecision) :
    (c.eligible.filterMap fun index ↦
      (c.decisions ++ [d])[index]?.map (·.input.observation)) =
    c.eligible.filterMap fun index ↦ c.decisions[index]?.map (·.input.observation) := by
  refine List.filterMap_congr fun index hindex ↦ ?_
  rw [List.getElem?_append_left (h.length hindex)]

theorem append (h : Screened config s inputs c) {d : LidarLoopConstraintDecision}
    (hi : d.input = i) (hd : d.commitRequested = false) (next : ℕ) :
    Screened config s (inputs ++ [i])
      { c with
        state := { c.state with nextSequence := next }
        decisions := c.decisions ++ [d] } where
  taken := by simp [h.taken, hi]
  idle d' hd' := by
    rcases List.mem_append.mp hd' with hd' | hd'
    · exact h.idle d' hd'
    · rw [List.mem_singleton.mp hd', hd]
  eligible index hindex := by
    obtain ⟨d', hd', hrest⟩ := h.eligible index hindex
    exact ⟨d', getElem?_append_of_some hd', hrest⟩
  nodup := h.nodup
  observations := by
    rw [h.observations_append d, List.map_append]
    exact h.observations.trans (List.sublist_append_left ..)
  temporal := h.temporal
  sequence := h.sequence
  lastCommit := h.lastCommit

theorem compete (h : Screened config s inputs c) {d : LidarLoopConstraintDecision}
    (hi : d.input = i) (hd : d.commitRequested = false)
    (heligible : validate config i = "eligible")
    (hscore : d.qualityScore = qualityScore config i) {state : State}
    (htemporal : state.temporal = c.state.temporal) (hsequence : state.sequence = c.state.sequence)
    (hlast : state.lastCommitQueryId = c.state.lastCommitQueryId) :
    Screened config s (inputs ++ [i])
      { state := state
        decisions := c.decisions ++ [d]
        eligible := c.eligible ++ [c.decisions.length] } where
  taken := by simp [h.taken, hi]
  idle d' hd' := by
    rcases List.mem_append.mp hd' with hd' | hd'
    · exact h.idle d' hd'
    · rw [List.mem_singleton.mp hd', hd]
  eligible index hindex := by
    rcases List.mem_append.mp hindex with hindex | hindex
    · obtain ⟨d', hd', hrest⟩ := h.eligible index hindex
      exact ⟨d', getElem?_append_of_some hd', hrest⟩
    · rw [List.mem_singleton.mp hindex]
      exact ⟨d, by simp, by rwa [hi], by rwa [hi]⟩
  nodup := by
    refine List.nodup_append.mpr ⟨h.nodup, List.nodup_singleton _, fun index hindex other ho ↦ ?_⟩
    have hlt := h.length hindex
    rw [List.mem_singleton.mp ho]
    omega
  observations := by
    rw [List.filterMap_append, h.observations_append d, List.map_append]
    refine h.observations.append ?_
    simp [hi]
  temporal := htemporal.trans h.temporal
  sequence := hsequence.trans h.sequence
  lastCommit := hlast.trans h.lastCommit

theorem screen (h : Screened config s inputs c) (i : LidarLoopConstraintInput) :
    Screened config s (inputs ++ [i]) (LidarLoopConstraintGate.screen config c i) := by
  rw [LidarLoopConstraintGate.screen]
  split_ifs with hreason hduplicate
  · refine h.append ?_ ?_ _ <;> rfl
  · refine h.append ?_ ?_ _ <;> rfl
  · refine h.compete ?_ ?_ (not_not.mp hreason) ?_ ?_ ?_ ?_ <;> rfl

theorem all (config : Config) (s : State) (inputs : List LidarLoopConstraintInput) :
    Screened config s inputs
      (inputs.foldl (LidarLoopConstraintGate.screen config) { state := s }) := by
  induction inputs using List.reverseRecOn with
  | nil => exact ⟨rfl, by simp, by simp, List.nodup_nil, List.nil_sublist _, rfl, rfl, rfl⟩
  | append_singleton inputs i ih =>
    rw [List.foldl_append]
    exact ih.screen i

end Screened

def clock (config : Config) (s : State) : Int64 :=
  if config.enableMultiHypothesisSequence then s.sequence.latestQueryStampNs else stamp s.temporal

def Confirmed (m : MathLibrary) (config : Config) (s : State)
    (batch : List LidarLoopConstraintInput) (d : LidarLoopConstraintDecision) : Prop :=
  d.temporal.approved = true ∧
    if config.enableMultiHypothesisSequence then
      config.sequence.minimumConfirmations ≤ d.temporal.confirmationCount ∧
      ∃ observations answers sequence,
        observations.Sublist (batch.map (·.observation)) ∧
        LidarLoopSequenceConsistency.observeBatch m config.sequence s.sequence observations =
          .ok (answers, sequence) ∧
        (d.input.observation, d.temporal) ∈ observations.zip answers
    else
      config.temporal.minimumConfirmations ≤ d.temporal.confirmationCount ∧
      d.temporal = (LidarLoopTemporalConsistency.observe m config.temporal s.temporal
        d.input.observation).1

def core (d : LidarLoopConstraintDecision) : LidarLoopConstraintInput × Bool :=
  (d.input, d.commitRequested)

theorem map_modify {α β : Type} {f : α → α} {g : α → β} (h : ∀ a, g (f a) = g a) (l : List α)
    (index : ℕ) : (l.modify index f).map g = l.map g := by
  refine List.ext_getElem? fun j ↦ ?_
  rw [List.getElem?_map, List.getElem?_map, List.getElem?_modify]
  cases l[j]? with
  | none => rfl
  | some a => by_cases hj : index = j <;> simp [hj, h]

theorem core_note (t : LidarLoopTemporalDecision) (d : LidarLoopConstraintDecision) :
    core (note t d) = core d := rfl

theorem offer_index (decisions : List LidarLoopConstraintDecision) (choice : Choice) (index : ℕ) :
    choice.offer decisions index = choice ∨
      (choice.offer decisions index).index = some index ∧ ∃ d, decisions[index]? = some d := by
  rw [Choice.offer]
  cases decisions[index]? with
  | none => exact .inl rfl
  | some d =>
    simp only
    split_ifs
    · exact .inr ⟨rfl, d, rfl⟩
    · exact .inl rfl

theorem offers_index {decisions : List LidarLoopConstraintDecision} {eligible : List ℕ}
    (hscore : ∀ index ∈ eligible, ∃ d, decisions[index]? = some d ∧ 0 ≤ d.qualityScore)
    (hne : eligible ≠ []) :
    ∃ best ∈ eligible, (eligible.foldl (Choice.offer decisions) {}).index = some best := by
  induction eligible using List.reverseRecOn with
  | nil => exact absurd rfl hne
  | append_singleton eligible index ih =>
    simp only [List.foldl_append, List.foldl_cons, List.foldl_nil]
    rcases offer_index decisions (eligible.foldl (Choice.offer decisions) {}) index with
      heq | ⟨heq, -⟩
    · by_cases hempty : eligible = []
      · -- the first candidate beats the initial score
        subst hempty
        obtain ⟨d, hd, hpos⟩ := hscore index (by simp)
        have hbelow : Double.ofRat (-1) < d.qualityScore := by
          rw [Double.ofRat_of_representable representable_one.neg]
          exact Double.lt_of_lt_of_le (Double.finite_lt_finite.mpr (by norm_num)) hpos
        refine ⟨index, by simp, ?_⟩
        simp [Choice.offer, hd, hbelow]
      · obtain ⟨best, hbest, hindex⟩ := ih (fun index hi ↦ hscore index (by simp [hi])) hempty
        exact ⟨best, by simp [hbest], by rw [heq, hindex]⟩
    · exact ⟨index, by simp, heq⟩

theorem notes (decisions : List LidarLoopConstraintDecision)
    {answers : List (ℕ × LidarLoopTemporalDecision)} (hnodup : (answers.map Prod.fst).Nodup) :
    let noted := answers.foldl noteAndOffer (decisions, {})
    noted.1.map core = decisions.map core ∧ ∀ best, noted.2.index = some best →
      ∃ t d, (best, t) ∈ answers ∧ t.approved = true ∧ noted.1[best]? = some d ∧
        d.temporal = t := by
  induction answers using List.reverseRecOn with
  | nil => exact ⟨rfl, by simp⟩
  | append_singleton answers answer ih =>
    rw [List.map_append, List.nodup_append] at hnodup
    obtain ⟨hmap, hbest⟩ := ih hnodup.1
    have hfresh : answer.1 ∉ answers.map Prod.fst := fun hmem ↦
      hnodup.2.2 answer.1 hmem answer.1 (by simp) rfl
    simp only [List.foldl_append, List.foldl_cons, List.foldl_nil]
    generalize answers.foldl noteAndOffer (decisions, {}) = noted at hmap hbest ⊢
    refine ⟨(map_modify (core_note answer.2) noted.1 answer.1).trans hmap, fun best hindex ↦ ?_⟩
    -- a choice made earlier is of another index, which this note leaves alone
    have hearlier : noted.2.index = some best → ∃ t d, (best, t) ∈ answers ++ [answer] ∧
        t.approved = true ∧ (noteAndOffer noted answer).1[best]? = some d ∧ d.temporal = t := by
      intro hold
      obtain ⟨t, d, hmem, happroved, hd, ht⟩ := hbest best hold
      have hne : answer.1 ≠ best := by
        intro heq
        subst heq
        exact hfresh (List.mem_map.mpr ⟨_, hmem, rfl⟩)
      refine ⟨t, d, by simp [hmem], happroved, ?_, ht⟩
      rw [noteAndOffer, List.getElem?_modify_ne _ _ hne, hd]
    by_cases happroved : answer.2.approved = true
    · simp only [noteAndOffer, happroved, if_true] at hindex
      rcases offer_index (noted.1.modify answer.1 (note answer.2)) noted.2 answer.1 with
        heq | ⟨heq, d, hd⟩
      · rw [heq] at hindex
        exact hearlier hindex
      · cases heq.symm.trans hindex
        rw [List.getElem?_modify_eq] at hd
        obtain ⟨d₀, hd₀, rfl⟩ := Option.map_eq_some_iff.mp hd
        refine ⟨answer.2, note answer.2 d₀, by simp, happroved, ?_, rfl⟩
        rw [noteAndOffer, List.getElem?_modify_eq, hd₀]
        rfl
    · simp only [noteAndOffer, happroved] at hindex
      exact hearlier hindex

section Selection

variable {s : State} {inputs : List LidarLoopConstraintInput} {c : Screening}

structure Selected (m : MathLibrary) (config : Config) (s : State)
    (inputs : List LidarLoopConstraintInput) (c : Screening)
    (decisions : List LidarLoopConstraintDecision) (winner : Option ℕ) (state : State) : Prop where
  core : decisions.map core = c.decisions.map core
  lastCommit : state.lastCommitQueryId = s.lastCommitQueryId
  clock : clock config s ≤ clock config state
  winner : ∀ best, winner = some best → best ∈ c.eligible ∧ ∃ d, decisions[best]? = some d ∧
    Confirmed m config s inputs d ∧ LidarLoopConstraintGate.clock config s < d.input.queryStampNs ∧
    LidarLoopConstraintGate.clock config state = d.input.queryStampNs

theorem input_of_core {decisions decisions' : List LidarLoopConstraintDecision}
    (h : decisions.map core = decisions'.map core) {index : ℕ} {d d' : LidarLoopConstraintDecision}
    (hd : decisions[index]? = some d) (hd' : decisions'[index]? = some d') :
      d.input = d'.input := by
  have hindex := congrArg (·[index]?) h
  simp only [List.getElem?_map, hd, hd', Option.map_some, Option.some.injEq] at hindex
  exact congrArg Prod.fst hindex

theorem Screened.select_sequence (h : Screened config s inputs c)
    (hshared : ∀ i ∈ inputs, ∀ i' ∈ inputs, i.queryStampNs = i'.queryStampNs)
    (hmode : config.enableMultiHypothesisSequence = true) :
    ∃ decisions winner state, select m config c = .ok (decisions, winner, state) ∧
      Selected m config s inputs c decisions winner state := by
  let observe : ℕ → LidarLoopTemporalObservation := fun index ↦
    (c.decisions[index]?.map (·.input.observation)).getD {}
  have hobserve : (c.eligible.filterMap fun index ↦
      c.decisions[index]?.map (·.input.observation)) = c.eligible.map observe := by
    rw [← List.filterMap_eq_map]
    refine List.filterMap_congr fun index hindex ↦ ?_
    obtain ⟨d, hd, -⟩ := h.eligible index hindex
    simp [observe, hd]
  have hsub := h.observations
  rw [hobserve] at hsub
  have hsame : ∀ o ∈ c.eligible.map observe, ∀ o' ∈ c.eligible.map observe,
      o.queryStampNs = o'.queryStampNs := by
    intro o ho o' ho'
    obtain ⟨i, hi, rfl⟩ := List.mem_map.mp (hsub.subset ho)
    obtain ⟨i', hi', rfl⟩ := List.mem_map.mp (hsub.subset ho')
    exact hshared i hi i' hi'
  obtain ⟨answers, sequence, hbatch, hlength, hclock, happroved⟩ :=
    observeBatch_answers (m := m) (c := config.sequence) c.state.sequence _ hsame
  rw [List.length_map] at hlength
  have hfst : (c.eligible.zip answers).map Prod.fst = c.eligible :=
    List.map_fst_zip (by omega)
  obtain ⟨hcore, hbest⟩ := notes c.decisions (hfst.symm ▸ h.nodup)
  rw [select, if_pos hmode, hobserve]
  simp only [hbatch]
  refine ⟨_, _, _, rfl, hcore, h.lastCommit, ?_, fun best hindex ↦ ?_⟩
  · rw [clock, clock, if_pos hmode, if_pos hmode, ← h.sequence]
    exact hclock
  · obtain ⟨t, d, hmem, ht, hd, htemporal⟩ := hbest best hindex
    have heligible := (List.of_mem_zip hmem).1
    obtain ⟨d₀, hd₀, -⟩ := h.eligible best heligible
    have hinput := input_of_core hcore hd hd₀
    have hmem' : (d.input.observation, d.temporal) ∈ (c.eligible.map observe).zip answers := by
      rw [List.zip_map_left, List.mem_map]
      exact ⟨_, hmem, by simp [observe, hd₀, hinput, htemporal]⟩
    have hlater := happroved _ hmem' (by rw [htemporal]; exact ht)
    refine ⟨heligible, d, hd, ⟨by rw [htemporal]; exact ht, ?_⟩, ?_, ?_⟩
    · rw [if_pos hmode]
      exact ⟨hlater.2.2, _, _, _, hsub, by rw [← h.sequence]; exact hbatch, hmem'⟩
    · rw [clock, if_pos hmode, ← h.sequence]
      exact hlater.1
    · rw [clock, if_pos hmode]
      exact hlater.2.1

theorem Screened.select_temporal (h : Screened config s inputs c) (hconfig : config.Valid)
    (hne : c.eligible ≠ []) (hmode : config.enableMultiHypothesisSequence = false) :
    ∃ decisions winner state, select m config c = .ok (decisions, winner, state) ∧
      Selected m config s inputs c decisions winner state := by
  have hscore : ∀ index ∈ c.eligible, ∃ d, c.decisions[index]? = some d ∧ 0 ≤ d.qualityScore := by
    intro index hindex
    obtain ⟨d, hd, heligible, hscore⟩ := h.eligible index hindex
    exact ⟨d, hd, by rw [hscore]; exact qualityScore_nonneg hconfig heligible⟩
  obtain ⟨index, hindex, hchoice⟩ := offers_index hscore hne
  obtain ⟨selected, hselected, heligible, -⟩ := h.eligible index hindex
  have hvalid := observation_valid (passes_of_eligible heligible)
  have hmode' : ¬ config.enableMultiHypothesisSequence = true := by simp [hmode]
  rw [select, if_neg hmode']
  simp only [hchoice, Option.bind_some, hselected]
  refine ⟨_, _, _, rfl, map_modify (core_note _) _ _, h.lastCommit, ?_, fun best hbest ↦ ?_⟩
  · rw [clock, clock, if_neg hmode', if_neg hmode', ← h.temporal]
    rcases observe_cases (m := m) config.temporal c.state.temporal hvalid with
      ⟨-, hstate⟩ | ⟨hlater, hstate, -⟩
    · simp only [hstate]
      exact Int64.le_refl _
    · have hstamp : stamp (LidarLoopTemporalConsistency.observe m config.temporal c.state.temporal
          selected.input.observation).2 = selected.input.observation.queryStampNs := by
        rw [stamp, hstate]
        rfl
      simp only [hstamp]
      exact Int64.le_of_lt hlater
  · split_ifs at hbest with happroved
    cases hbest
    rcases observe_cases (m := m) config.temporal c.state.temporal hvalid with
      ⟨hrefused, -⟩ | ⟨hlater, hstate, hcount⟩
    · rw [hrefused] at happroved
      cases happroved
    · refine ⟨hindex, _, by rw [List.getElem?_modify_eq, hselected]; rfl, ⟨happroved, ?_⟩, ?_, ?_⟩
      · rw [if_neg hmode']
        exact ⟨hcount happroved, by rw [← h.temporal]; rfl⟩
      · rw [clock, if_neg hmode', ← h.temporal]
        exact hlater
      · rw [clock, if_neg hmode', stamp, hstate]
        rfl

end Selection

section Evaluation

theorem outrank_core (best : ℕ) (decisions : List LidarLoopConstraintDecision) (index : ℕ) :
    (outrank config best decisions index).map core = decisions.map core := by
  refine map_modify (fun d ↦ ?_) decisions index
  split_ifs <;> rfl

theorem outrank_best (best : ℕ) (decisions : List LidarLoopConstraintDecision) (index : ℕ) :
    (outrank config best decisions index)[best]? = decisions[best]? := by
  rw [outrank]
  rcases eq_or_ne index best with rfl | hne
  · simp
  · rw [List.getElem?_modify_ne _ _ hne]

variable (config) in
theorem outranks (best : ℕ) (decisions : List LidarLoopConstraintDecision) (eligible : List ℕ) :
    (eligible.foldl (outrank config best) decisions).map core = decisions.map core ∧
      (eligible.foldl (outrank config best) decisions)[best]? = decisions[best]? := by
  induction eligible generalizing decisions with
  | nil => exact ⟨rfl, rfl⟩
  | cons index eligible ih =>
    obtain ⟨hcore, hbest⟩ := ih (outrank config best decisions index)
    exact ⟨hcore.trans (outrank_core ..), hbest.trans (outrank_best ..)⟩

theorem filter_modify {α : Type} {p : α → Bool} {f : α → α} {l : List α} {index : ℕ} {a : α}
    (h : ∀ a ∈ l, p a = false) (ha : l[index]? = some a) :
    (l.modify index f).filter p = if p (f a) then [f a] else [] := by
  obtain ⟨hlt, hget⟩ := List.getElem?_eq_some_iff.mp ha
  have hnone : ∀ l' : List α, (∀ a ∈ l', a ∈ l) → l'.filter p = [] := fun l' hl' ↦
    List.filter_eq_nil_iff.mpr fun a ha ↦ by simp [h a (hl' a ha)]
  rw [List.modify_eq_take_cons_drop hlt, List.filter_append, List.filter_cons, hget,
    hnone _ fun _ ↦ List.mem_of_mem_take, hnone _ fun _ ↦ List.mem_of_mem_drop, List.nil_append]

/-- What one batch adds to the constraints that are committed. -/
def commits (m : MathLibrary) (config : Config) (s : State)
    (batch : List LidarLoopConstraintInput) : List LidarLoopConstraintDecision :=
  match (evaluate m config s batch).2 with
  | .ok decisions => decisions.filter (·.commitRequested)
  | .error _ => []

/-- The observations of the batch are of one scan. -/
def SharesStamp (batch : List LidarLoopConstraintInput) : Prop :=
  ∀ i ∈ batch, ∀ i' ∈ batch, i.queryStampNs = i'.queryStampNs

inductive Outcome (m : MathLibrary) (config : Config) (s : State)
    (batch : List LidarLoopConstraintInput) (s' : State) :
    List LidarLoopConstraintDecision → Prop
  | idle (hlast : s'.lastCommitQueryId = s.lastCommitQueryId)
      (hclock : clock config s ≤ clock config s') : Outcome m config s batch s' []
  | commit (d : LidarLoopConstraintDecision) (hmem : d.input ∈ batch)
      (heligible : validate config d.input = "eligible") (hconfirmed : Confirmed m config s batch d)
      (hrate : ¬ (0 ≤ s.lastCommitQueryId ∧
        d.input.queryId < s.lastCommitQueryId + config.minimumCommitQuerySeparation))
      (hlast : s'.lastCommitQueryId = d.input.queryId)
      (hearlier : clock config s < d.input.queryStampNs)
      (hclock : clock config s' = d.input.queryStampNs) : Outcome m config s batch s' [d]

variable (config) in
theorem settle_cases (last : Int64) (d : LidarLoopConstraintDecision) :
    ((settle config last d).commitRequested = d.commitRequested ∨
      (settle config last d).commitRequested = true ∧
        ¬ (0 ≤ last ∧ d.input.queryId < last + config.minimumCommitQuerySeparation)) ∧
    (settle config last d).input = d.input ∧ (settle config last d).temporal = d.temporal := by
  rw [settle]
  split_ifs with hmode hrate
  · exact ⟨.inl rfl, rfl, rfl⟩
  · exact ⟨.inl rfl, rfl, rfl⟩
  · exact ⟨.inr ⟨rfl, hrate⟩, rfl, rfl⟩

variable {s : State} {batch : List LidarLoopConstraintInput}

theorem Screened.select_answers (hconfig : config.Valid) (hshared : SharesStamp batch)
    {c : Screening} (h : Screened config s batch c) (hne : c.eligible ≠ []) :
    ∃ decisions winner state, select m config c = .ok (decisions, winner, state) ∧
      Selected m config s batch c decisions winner state := by
  cases hmode : config.enableMultiHypothesisSequence with
  | true => exact h.select_sequence hshared hmode
  | false => exact h.select_temporal hconfig hne hmode

theorem evaluate_outcome (hconfig : config.Valid) (hshared : SharesStamp batch) :
    ∃ decisions, (evaluate m config s batch).2 = .ok decisions ∧
      decisions.map (·.input) = batch ∧
      Outcome m config s batch (evaluate m config s batch).1
        (decisions.filter (·.commitRequested)) := by
  have h := Screened.all config s batch
  rw [evaluate]
  generalize batch.foldl (screen config) { state := s } = c at h
  have hclock : clock config c.state = clock config s := by
    rw [clock, clock, h.temporal, h.sequence]
  by_cases hne : c.eligible = []
  · simp only [hne, if_true]
    refine ⟨_, rfl, h.taken, ?_⟩
    rw [List.filter_eq_nil_iff.mpr fun d hd ↦ by simp [h.idle d hd]]
    exact .idle h.lastCommit (Int64.le_of_eq hclock.symm)
  obtain ⟨decisions, winner, state, hselect, hsel⟩ := h.select_answers (m := m) hconfig hshared hne
  have htaken : ∀ ds : List LidarLoopConstraintDecision, ds.map core = c.decisions.map core →
      ds.map (·.input) = batch := fun ds hds ↦ by
    have hfst := congrArg (List.map Prod.fst) hds
    simp only [List.map_map] at hfst
    exact hfst.trans h.taken
  have hidle : ∀ ds : List LidarLoopConstraintDecision, ds.map core = c.decisions.map core →
      ∀ d ∈ ds, d.commitRequested = false := fun ds hds d hd ↦ by
    have hmem : core d ∈ c.decisions.map core := hds ▸ List.mem_map_of_mem hd
    obtain ⟨d', hd', heq⟩ := List.mem_map.mp hmem
    rw [← h.idle d' hd']
    exact congrArg Prod.snd heq.symm
  simp only [hne, if_false, hselect]
  cases winner with
  | none =>
    refine ⟨_, rfl, htaken decisions hsel.core, ?_⟩
    rw [List.filter_eq_nil_iff.mpr fun d hd ↦ by simp [hidle decisions hsel.core d hd]]
    exact .idle hsel.lastCommit hsel.clock
  | some best =>
    dsimp only
    obtain ⟨hbest, d, hd, hconfirmed, hearlier, hlater⟩ := hsel.winner best rfl
    obtain ⟨hcore, hkept⟩ := outranks config best decisions c.eligible
    generalize c.eligible.foldl (outrank config best) decisions = ranked at hcore hkept ⊢
    rw [hd] at hkept
    have hranked := hcore.trans hsel.core
    have hinput : (ranked.modify best (settle config state.lastCommitQueryId)).map (·.input) =
        batch := by
      rw [map_modify fun d ↦ (settle_cases config _ d).2.1]
      exact htaken ranked hranked
    have hfilter := filter_modify (p := (·.commitRequested))
      (f := settle config state.lastCommitQueryId) (hidle ranked hranked) hkept
    have hwinner : (ranked.modify best (settle config state.lastCommitQueryId))[best]? =
        some (settle config state.lastCommitQueryId d) := by
      rw [List.getElem?_modify_eq, hkept]
      rfl
    simp only [hwinner]
    refine ⟨_, rfl, hinput, ?_⟩
    rw [hfilter]
    obtain ⟨hsettle, hsame, htemporal⟩ :=
      settle_cases config state.lastCommitQueryId d
    have hdidle : d.commitRequested = false :=
      hidle ranked hranked d (List.mem_of_getElem? hkept)
    obtain ⟨d₀, hd₀, heligible, -⟩ := h.eligible best hbest
    have hd₀' := input_of_core hsel.core hd hd₀
    rw [hdidle] at hsettle
    rcases hsettle with hno | ⟨hyes, hrate⟩
    · simp only [hno]
      exact .idle hsel.lastCommit hsel.clock
    · simp only [hyes, if_true]
      refine .commit _ ?_ ?_ ?_ ?_ ?_ ?_ ?_
      · rw [← hinput]
        exact List.mem_map_of_mem (List.mem_of_getElem? hwinner)
      · rw [hsame, hd₀']
        exact heligible
      · rw [Confirmed, hsame, htemporal]
        exact hconfirmed
      · rw [hsame, ← hsel.lastCommit]
        exact hrate
      · rfl
      · rw [hsame]
        exact hearlier
      · rw [hsame]
        exact hlater

end Evaluation

/-- The query ids that the cooldown can count with: not negative, not near the end. -/
def WithinIds (config : Config) (batch : List LidarLoopConstraintInput) : Prop :=
  ∀ i ∈ batch, validate config i = "eligible" →
    0 ≤ i.queryId ∧ i.queryId.toInt + config.minimumCommitQuerySeparation.toInt < 2 ^ 63

def Separated (config : Config) (d d' : LidarLoopConstraintDecision) : Prop :=
  d.input.queryId.toInt + config.minimumCommitQuerySeparation.toInt ≤ d'.input.queryId.toInt

structure Committed (config : Config) (log : List LidarLoopConstraintDecision) (s : State) :
    Prop where
  earlier : ∀ d ∈ log, d.input.queryStampNs ≤ clock config s
  ordered : log.Pairwise fun d d' ↦ d.input.queryStampNs < d'.input.queryStampNs
  separated : log.IsChain (Separated config)
  last : ∀ d ∈ log.getLast?, s.lastCommitQueryId = d.input.queryId ∧ 0 ≤ d.input.queryId ∧
    d.input.queryId.toInt + config.minimumCommitQuerySeparation.toInt < 2 ^ 63

theorem separated_of_rate (hconfig : config.Valid) {last queryId : Int64} (hpos : 0 ≤ last)
    (hbound : last.toInt + config.minimumCommitQuerySeparation.toInt < 2 ^ 63)
    (hrate : ¬ (0 ≤ last ∧ queryId < last + config.minimumCommitQuerySeparation)) :
    last.toInt + config.minimumCommitQuerySeparation.toInt ≤ queryId.toInt := by
  have hle := Int64.not_lt.mp fun hlt ↦ hrate ⟨hpos, hlt⟩
  have hsep := Int64.not_lt.mp hconfig.separation
  rw [Int64.le_iff_toInt_le, Int64.toInt_zero] at hpos hsep
  rw [Int64.le_iff_toInt_le, Int64.toInt_add, Int.bmod_eq_of_le (by omega) (by omega)] at hle
  exact hle

theorem Committed.step (hconfig : config.Valid) {log : List LidarLoopConstraintDecision}
    {s s' : State} {batch : List LidarLoopConstraintInput}
    {new : List LidarLoopConstraintDecision} (h : Committed config log s)
    (hids : WithinIds config batch) (hout : Outcome m config s batch s' new) :
    Committed config (log ++ new) s' := by
  cases hout with
  | idle hlast hclock =>
    rw [List.append_nil]
    refine ⟨fun d hd ↦ Int64.le_trans (h.earlier d hd) hclock, h.ordered, h.separated, ?_⟩
    rw [hlast]
    exact h.last
  | commit d hmem heligible hconfirmed hrate hlast hearlier hclock =>
    have hbefore : ∀ d' ∈ log, d'.input.queryStampNs < d.input.queryStampNs := fun d' hd' ↦
      Int64.lt_of_le_of_lt (h.earlier d' hd') hearlier
    refine ⟨fun d' hd' ↦ ?_, ?_, ?_, fun d' hd' ↦ ?_⟩
    · rw [hclock]
      rcases List.mem_append.mp hd' with hd' | hd'
      · exact Int64.le_of_lt (hbefore d' hd')
      · rw [List.mem_singleton.mp hd']
        exact Int64.le_refl _
    · refine List.pairwise_append.mpr ⟨h.ordered, List.pairwise_singleton .., ?_⟩
      intro d' hd' d'' hd''
      rw [List.mem_singleton.mp hd'']
      exact hbefore d' hd'
    · refine h.separated.append (.singleton d) fun d' hd' d'' hd'' ↦ ?_
      obtain ⟨hid, hpos, hbound⟩ := h.last d' hd'
      cases hd''
      rw [hid] at hrate
      exact separated_of_rate hconfig hpos hbound hrate
    · rw [List.getLast?_concat] at hd'
      cases hd'
      exact ⟨hlast, hids _ hmem heligible⟩

variable (m) in
theorem committed_run (hconfig : config.Valid) {batches : List (List LidarLoopConstraintInput)}
    (hshared : ∀ batch ∈ batches, SharesStamp batch)
    (hids : ∀ batch ∈ batches, WithinIds config batch) :
    Committed config (collect (evaluate m config) (commits m config) {} batches)
      (run (evaluate m config) {} batches) := by
  induction batches using List.reverseRecOn with
  | nil => exact ⟨by simp, .nil, .nil, by simp⟩
  | append_singleton batches batch ih =>
    have h := ih (fun b hb ↦ hshared b (by simp [hb])) fun b hb ↦ hids b (by simp [hb])
    obtain ⟨decisions, hok, -, hout⟩ := evaluate_outcome (m := m)
      (s := run (evaluate m config) {} batches) hconfig (hshared batch (by simp))
    rw [run_snoc, collect_snoc, commits, hok]
    exact h.step hconfig (hids batch (by simp)) hout

theorem commits_are_safe (m : MathLibrary) (config : Config) (hconfig : config.Valid)
    (batches : List (List LidarLoopConstraintInput))
    (hshared : ∀ batch ∈ batches, SharesStamp batch)
    (hids : ∀ batch ∈ batches, WithinIds config batch) :
    (∀ before batch after, batches = before ++ batch :: after →
      ∃ decisions,
        (evaluate m config (run (evaluate m config) {} before) batch).2 = .ok decisions ∧
        decisions.map (·.input) = batch ∧
        (decisions.filter (·.commitRequested)).length ≤ 1 ∧
        ∀ d ∈ decisions, d.commitRequested = true → d.input ∈ batch ∧ Passes config d.input ∧
          Confirmed m config (run (evaluate m config) {} before) batch d) ∧
    let log := collect (evaluate m config) (commits m config) {} batches
    log.Pairwise (fun d d' ↦ d.input.queryStampNs < d'.input.queryStampNs) ∧
      (log.map fun d ↦ keyOf d.input).Nodup ∧ log.IsChain (Separated config) := by
  refine ⟨fun before batch after hsplit ↦ ?_, ?_⟩
  · obtain ⟨decisions, hok, htaken, hout⟩ := evaluate_outcome (m := m)
      (s := run (evaluate m config) {} before) hconfig (hshared batch (by simp [hsplit]))
    refine ⟨decisions, hok, htaken, ?_, fun d hd hcommit ↦ ?_⟩
    · generalize decisions.filter (·.commitRequested) = new at hout
      cases hout <;> simp
    · have hmem : d ∈ decisions.filter (·.commitRequested) := List.mem_filter.mpr ⟨hd, hcommit⟩
      refine ⟨htaken ▸ List.mem_map_of_mem hd, ?_⟩
      generalize decisions.filter (·.commitRequested) = new at hout hmem
      cases hout with
      | idle => cases hmem
      | commit d' _ heligible hconfirmed =>
        rw [List.mem_singleton.mp hmem]
        exact ⟨passes_of_eligible heligible, hconfirmed⟩
  · have h := committed_run m hconfig hshared hids
    refine ⟨h.ordered, ?_, h.separated⟩
    rw [List.Nodup, List.pairwise_map]
    refine h.ordered.imp fun hlt heq ↦ ?_
    exact Int64.lt_irrefl (Int64.lt_of_lt_of_le hlt
      (Int64.le_of_eq (congrArg PairKey.queryStampNs heq).symm))

def still : MathLibrary :=
  { hypot := fun _ _ ↦ 0
    sin := fun _ ↦ 0
    cos := fun _ ↦ 0
    atan2 := fun _ _ ↦ 0 }

def unit : Double := .finite 1 representable_one

def unitBounds : ConsistencyBounds :=
  { minimumConfirmations := 1
    maximumQueryGapS := unit
    maximumPairAgeDeltaS := unit
    maximumTranslationDeltaM := unit
    maximumYawDeltaRad := unit }

theorem unitBounds_valid : unitBounds.Valid :=
  ⟨by decide, by decide, by decide, by decide⟩

def eager : Config :=
  { commitEnabled := true
    minimumDescriptorSimilarity := 0
    minimumInlierRatio := 0
    minimumOverlapRatio := 0
    maximumRmseM := unit
    minimumObservabilityRatio := 0
    translationVariance := unit
    yawVariance := unit
    temporal := { unitBounds with valid := unitBounds_valid }
    sequence :=
      { unitBounds with
        maximumHypotheses := 1
        valid := unitBounds_valid
        hypotheses := one_ne_zero } }

theorem eager_valid : eager.Valid :=
  ⟨by decide, by decide, by decide, by decide, by decide +kernel, by decide⟩

def seen (queryId queryStampNs : Int64) : LidarLoopConstraintInput :=
  { queryId := queryId
    queryStampNs := queryStampNs
    candidateId := 100
    candidateStampNs := 1
    matchingMode := "scan_to_submap"
    available := true
    converged := true
    accepted := true
    querySubmapScans := 2
    candidateSubmapScans := 2
    correspondences := 30 }

theorem seen_shares (queryId queryStampNs : Int64) : SharesStamp [seen queryId queryStampNs] := by
  intro i hi i' hi'
  rw [List.mem_singleton.mp hi, List.mem_singleton.mp hi']

theorem commits_are_safe_twice :
    let log := collect (evaluate still eager) (commits still eager) {} [[seen 1 2], [seen 6 4]]
    log.map (·.input.queryId) = [1, 6] ∧ log.IsChain (Separated eager) := by
  refine ⟨by decide +kernel,
    (commits_are_safe still eager eager_valid [[seen 1 2], [seen 6 4]] ?_ ?_).2.2.2⟩
  · simp [seen_shares]
  · intro batch hbatch i hi _
    simp only [List.mem_cons, List.not_mem_nil, or_false] at hbatch
    rcases hbatch with rfl | rfl
    · rw [List.mem_singleton.mp hi]
      decide
    · rw [List.mem_singleton.mp hi]
      decide

/-- A committed id below zero looks like no commit at all. -/
theorem commits_below_zero :
    eager.Valid ∧ (∀ batch ∈ [[seen (-10) 2], [seen (-9) 4]], SharesStamp batch) ∧
    let log :=
      collect (evaluate still eager) (commits still eager) {} [[seen (-10) 2], [seen (-9) 4]]
    log.map (·.input.queryId) = [-10, -9] ∧ ¬ log.IsChain (Separated eager) := by
  have hids : (collect (evaluate still eager) (commits still eager) {}
      [[seen (-10) 2], [seen (-9) 4]]).map (·.input.queryId) = [-10, -9] := by decide +kernel
  refine ⟨eager_valid, by simp [seen_shares], hids, fun hchain ↦ ?_⟩
  have hmap : (([-10, -9] : List Int64)).IsChain fun id id' ↦
      id.toInt + eager.minimumCommitQuerySeparation.toInt ≤ id'.toInt := by
    rw [← hids, List.isChain_map]
    exact hchain
  revert hmap
  decide

end EmbodiedAgent.Slam.LidarLoopConstraintGate
