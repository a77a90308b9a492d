import EmbodiedAgent.Slam.LoopConsistency

namespace EmbodiedAgent.Slam

open Library

structure LidarLoopConstraintInput where
  queryId : Int64 := 0
  queryStampNs : Int64 := 0
  candidateId : Int64 := 0
  candidateStampNs : Int64 := 0
  rank : UInt32 := 0
  upstreamShadowOnly : Bool := true
  matchingMode : String := ""
  available : Bool := false
  converged : Bool := false
  accepted : Bool := false
  yawAmbiguous : Bool := false
  targetToSource : Pose2d := {}
  querySubmapScans : ℕ := 0
  candidateSubmapScans : ℕ := 0
  correspondences : ℕ := 0
  descriptorSimilarity : Double := 0
  inlierRatio : Double := 0
  overlapRatio : Double := 0
  rmseM : Double := 0
  observabilityRatio : Double := 0

def LidarLoopConstraintInput.finiteMetrics (i : LidarLoopConstraintInput) : Bool :=
  i.descriptorSimilarity.isFinite && i.inlierRatio.isFinite && i.overlapRatio.isFinite &&
    i.rmseM.isFinite && i.observabilityRatio.isFinite

def LidarLoopConstraintInput.observation (i : LidarLoopConstraintInput) :
    LidarLoopTemporalObservation :=
  { queryId := i.queryId
    queryStampNs := i.queryStampNs
    candidateId := i.candidateId
    candidateStampNs := i.candidateStampNs
    targetToSource := i.targetToSource }

structure LidarLoopConstraintDecision where
  sequence : ℕ := 0
  input : LidarLoopConstraintInput
  policyApproved : Bool := false
  commitRequested : Bool := false
  covariance : List Double := []
  qualityScore : Double := 0
  temporal : LidarLoopTemporalDecision := {}
  reason : String := ""

namespace LidarLoopConstraintGate

structure Config where
  commitEnabled : Bool := false
  requireScanToSubmap : Bool := true
  minimumSubmapScans : ℕ := 2
  minimumCorrespondences : ℕ := 30
  minimumDescriptorSimilarity : Double := .ofRat (60 / 100)
  minimumInlierRatio : Double := .ofRat (35 / 100)
  minimumOverlapRatio : Double := .ofRat (55 / 100)
  maximumRmseM : Double := .ofRat (15 / 100)
  minimumObservabilityRatio : Double := .ofRat (5 / 1000)
  minimumCommitQuerySeparation : Int64 := 5
  maximumHistory : ℕ := 4096
  translationVariance : Double := .ofRat (4 / 100)
  yawVariance : Double := .ofRat (4 / 100)
  enableMultiHypothesisSequence : Bool := true
  temporal : LidarLoopTemporalConsistency.Config
  sequence : LidarLoopSequenceConsistency.Config

/-- What `validateConfig` lets through. -/
structure Config.Valid (c : Config) : Prop where
  submapScans : c.minimumSubmapScans ≠ 0
  correspondences : ¬ c.minimumCorrespondences < 3
  history : c.maximumHistory ≠ 0
  separation : ¬ c.minimumCommitQuerySeparation < 0
  ratios : ∀ v ∈ [c.minimumDescriptorSimilarity, c.minimumInlierRatio, c.minimumOverlapRatio,
    c.minimumObservabilityRatio], v.isFinite = true ∧ ¬ v < 0 ∧ ¬ Double.ofRat 1 < v
  positive : ∀ v ∈ [c.maximumRmseM, c.translationVariance, c.yawVariance],
    v.isFinite = true ∧ ¬ v ≤ 0

structure PairKey where
  queryStampNs : Int64
  candidateStampNs : Int64
  deriving DecidableEq

def keyOf (i : LidarLoopConstraintInput) : PairKey :=
  { queryStampNs := i.queryStampNs, candidateStampNs := i.candidateStampNs }

structure State where
  nextSequence : ℕ := 1
  lastCommitQueryId : Int64 := -1
  historyOrder : List PairKey := []
  history : List PairKey := []
  temporal : LidarLoopTemporalConsistency.State := {}
  sequence : LidarLoopSequenceConsistency.State := {}

inductive Failure
  | invalidArgument (message : String)
  | outOfRange

variable (m : MathLibrary) (config : Config)

def validate (i : LidarLoopConstraintInput) : String :=
  if i.queryStampNs ≤ 0 ∨ i.candidateStampNs ≤ 0 ∨ i.queryStampNs ≤ i.candidateStampNs ∨
      i.queryId = i.candidateId then "invalid_identity_or_time_order"
  else if !i.available || !i.converged || !i.accepted then "upstream_geometry_rejected"
  else if i.yawAmbiguous then "yaw_ambiguous"
  else if !i.targetToSource.finite || !i.finiteMetrics then "non_finite_geometry"
  else if config.requireScanToSubmap && i.matchingMode ≠ "scan_to_submap" then
    "matching_mode_not_allowed"
  else if i.querySubmapScans < config.minimumSubmapScans ∨
      i.candidateSubmapScans < config.minimumSubmapScans then "insufficient_submap_support"
  else if i.correspondences < config.minimumCorrespondences then "insufficient_correspondences"
  else if i.descriptorSimilarity < config.minimumDescriptorSimilarity then
    "low_descriptor_similarity"
  else if i.inlierRatio < config.minimumInlierRatio then "low_inlier_ratio"
  else if i.overlapRatio < config.minimumOverlapRatio then "low_bidirectional_overlap"
  else if config.maximumRmseM < i.rmseM then "high_rmse"
  else if i.observabilityRatio < config.minimumObservabilityRatio then "degenerate_geometry"
  else "eligible"

def qualityScore (i : LidarLoopConstraintInput) : Double :=
  let rmseScore := clamp ((Double.ofRat 1).sub (i.rmseM.div config.maximumRmseM)) 0 (.ofRat 1)
  ((((Double.ofRat (30 / 100)).mul i.descriptorSimilarity).add
    ((Double.ofRat (25 / 100)).mul i.inlierRatio)).add
    ((Double.ofRat (30 / 100)).mul i.overlapRatio)).add ((Double.ofRat (15 / 100)).mul rmseScore)

def evict : List PairKey → List PairKey → List PairKey × List PairKey
  | [], history => ([], history)
  | key :: order, history =>
    if config.maximumHistory < (key :: order).length then evict order (history.filter (· ≠ key))
    else (key :: order, history)

def remember (key : PairKey) (s : State) : State :=
  let kept := evict config (s.historyOrder ++ [key]) (key :: s.history)
  { s with historyOrder := kept.1, history := kept.2 }

def covariance : List Double :=
  [config.translationVariance, 0, 0, 0, config.translationVariance, 0, 0, 0, config.yawVariance]

structure Screening where
  state : State
  decisions : List LidarLoopConstraintDecision := []
  eligible : List ℕ := []

def screen (c : Screening) (i : LidarLoopConstraintInput) : Screening :=
  let decision : LidarLoopConstraintDecision :=
    { sequence := c.state.nextSequence
      input := i
      covariance := covariance config
      reason := validate config i }
  let state := { c.state with nextSequence := c.state.nextSequence + 1 }
  if decision.reason ≠ "eligible" then
    { c with state := state, decisions := c.decisions ++ [decision] }
  else if keyOf i ∈ state.history then
    { c with state := state, decisions := c.decisions ++
      [{ decision with reason := "duplicate_pair" }] }
  else
    { state := remember config (keyOf i) state
      decisions := c.decisions ++ [{ decision with qualityScore := qualityScore config i }]
      eligible := c.eligible ++ [c.decisions.length] }

/-- `best_index`, absent at first, and `best_score`. -/
structure Choice where
  index : Option ℕ := none
  score : Double := .ofRat (-1)

def Choice.offer (decisions : List LidarLoopConstraintDecision) (choice : Choice) (index : ℕ) :
    Choice :=
  match decisions[index]? with
  | none => choice
  | some d =>
    let rankBelow := (choice.index.bind (decisions[·]?)).all fun best ↦
      decide (d.input.rank < best.input.rank)
    if choice.score < d.qualityScore ∨
        (d.qualityScore ≤ choice.score ∧ choice.score ≤ d.qualityScore) ∧
          (choice.index = none ∨ rankBelow = true) then
      { index := some index, score := d.qualityScore }
    else choice

def note (t : LidarLoopTemporalDecision) (d : LidarLoopConstraintDecision) :
    LidarLoopConstraintDecision :=
  { d with temporal := t, reason := if t.approved then d.reason else t.reason }

def noteAndOffer (c : List LidarLoopConstraintDecision × Choice)
    (answer : ℕ × LidarLoopTemporalDecision) : List LidarLoopConstraintDecision × Choice :=
  let decisions := c.1.modify answer.1 (note answer.2)
  (decisions, if answer.2.approved then c.2.offer decisions answer.1 else c.2)

def select (c : Screening) :
    Except Failure (List LidarLoopConstraintDecision × Option ℕ × State) :=
  if config.enableMultiHypothesisSequence then
    let observations := c.eligible.filterMap fun index ↦
      c.decisions[index]?.map (·.input.observation)
    match LidarLoopSequenceConsistency.observeBatch m config.sequence c.state.sequence
        observations with
    | .error message => .error (.invalidArgument message)
    | .ok (answers, sequence) =>
      let noted := (c.eligible.zip answers).foldl noteAndOffer (c.decisions, {})
      .ok (noted.1, noted.2.index, { c.state with sequence := sequence })
  else
    let choice := c.eligible.foldl (Choice.offer c.decisions) {}
    match choice.index.bind (c.decisions[·]?), choice.index with
    | some selected, some index =>
      let answer := LidarLoopTemporalConsistency.observe m config.temporal c.state.temporal
        selected.input.observation
      .ok (c.decisions.modify index (note answer.1),
        if answer.1.approved then some index else none, { c.state with temporal := answer.2 })
    | _, _ => .error .outOfRange

def outrank (best : ℕ) (decisions : List LidarLoopConstraintDecision) (index : ℕ) :
    List LidarLoopConstraintDecision :=
  decisions.modify index fun d ↦
    if index ≠ best ∧ (config.enableMultiHypothesisSequence = true →
      d.temporal.approved = true) then
      { d with reason := "lower_quality_candidate" }
    else d

def settle (last : Int64) (d : LidarLoopConstraintDecision) : LidarLoopConstraintDecision :=
  if !config.commitEnabled then { d with policyApproved := true, reason := "shadow_mode" }
  else if 0 ≤ last ∧ d.input.queryId < last + config.minimumCommitQuerySeparation then
    { d with policyApproved := false, reason := "commit_rate_limited" }
  else { d with policyApproved := true, commitRequested := true, reason := "commit_requested" }

def evaluate (s : State) (inputs : List LidarLoopConstraintInput) :
    State × Except Failure (List LidarLoopConstraintDecision) :=
  let c := inputs.foldl (screen config) { state := s }
  if c.eligible = [] then (c.state, .ok c.decisions)
  else
    match select m config c with
    | .error failure => (c.state, .error failure)
    | .ok (decisions, none, state) => (state, .ok decisions)
    | .ok (decisions, some best, state) =>
      let decisions := (c.eligible.foldl (outrank config best) decisions).modify best
        (settle config state.lastCommitQueryId)
      match decisions[best]? with
      | none => (state, .error .outOfRange)
      | some selected =>
        ({ state with
            lastCommitQueryId :=
              if selected.commitRequested then selected.input.queryId
              else state.lastCommitQueryId },
          .ok decisions)

end LidarLoopConstraintGate

end EmbodiedAgent.Slam
