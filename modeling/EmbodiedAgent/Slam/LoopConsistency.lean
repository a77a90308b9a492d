import EmbodiedAgent.Library.Binary64

namespace EmbodiedAgent.Slam

open Library

structure Pose2d where
  x : Double := 0
  y : Double := 0
  yaw : Double := 0

def Pose2d.finite (pose : Pose2d) : Bool := pose.x.isFinite && pose.y.isFinite && pose.yaw.isFinite

/-- The functions of the platform's mathematical library. -/
structure MathLibrary where
  hypot : Double → Double → Double
  sin : Double → Double
  cos : Double → Double
  atan2 : Double → Double → Double

def MathLibrary.wrapAngle (m : MathLibrary) (angle : Double) : Double :=
  m.atan2 (m.sin angle) (m.cos angle)

structure LidarLoopTemporalObservation where
  queryId : Int64 := 0
  queryStampNs : Int64 := 0
  candidateId : Int64 := 0
  candidateStampNs : Int64 := 0
  targetToSource : Pose2d := {}

def LidarLoopTemporalObservation.valid (o : LidarLoopTemporalObservation) : Bool :=
  decide (0 < o.queryStampNs) && decide (0 < o.candidateStampNs) &&
    decide (o.candidateStampNs < o.queryStampNs) && decide (o.queryId ≠ o.candidateId) &&
    o.targetToSource.finite

structure Deltas where
  queryGapS : Double := 0
  pairAgeDeltaS : Double := 0
  translationDeltaM : Double := 0
  yawDeltaRad : Double := 0

structure LidarLoopTemporalDecision where
  approved : Bool := false
  confirmationCount : ℕ := 0
  confirmationRequired : ℕ := 0
  deltas : Deltas := {}
  reason : String := ""

def toSeconds (nanoseconds : Int64) : Double :=
  (Double.ofRat nanoseconds.toInt).mul (.ofRat (1 / 1000000000))

def deltasBetween (m : MathLibrary) (o previous : LidarLoopTemporalObservation) : Deltas :=
  { queryGapS := toSeconds (o.queryStampNs - previous.queryStampNs)
    pairAgeDeltaS :=
      (toSeconds (o.queryStampNs - o.candidateStampNs -
        (previous.queryStampNs - previous.candidateStampNs))).abs
    translationDeltaM :=
      m.hypot (o.targetToSource.x.sub previous.targetToSource.x)
        (o.targetToSource.y.sub previous.targetToSource.y)
    yawDeltaRad :=
      (m.wrapAngle (o.targetToSource.yaw.sub previous.targetToSource.yaw)).abs }

/-- The bounds that both filters have. -/
structure ConsistencyBounds where
  minimumConfirmations : ℕ
  maximumQueryGapS : Double
  maximumPairAgeDeltaS : Double
  maximumTranslationDeltaM : Double
  maximumYawDeltaRad : Double

structure ConsistencyBounds.Valid (b : ConsistencyBounds) : Prop where
  confirmations : b.minimumConfirmations ≠ 0
  finite : ∀ v ∈ [b.maximumQueryGapS, b.maximumPairAgeDeltaS, b.maximumTranslationDeltaM,
    b.maximumYawDeltaRad], v.isFinite = true
  positive : ¬ b.maximumQueryGapS ≤ 0
  nonnegative : ∀ v ∈ [b.maximumPairAgeDeltaS, b.maximumTranslationDeltaM, b.maximumYawDeltaRad],
    ¬ v < 0

def ConsistencyBounds.confirmed (b : ConsistencyBounds) (count : ℕ) : Bool :=
  decide (b.minimumConfirmations ≤ count)

namespace LidarLoopTemporalConsistency

structure Config extends ConsistencyBounds where
  valid : toConsistencyBounds.Valid

/-- `previous` is absent until a track has been started. -/
structure State where
  previous : Option LidarLoopTemporalObservation := none
  confirmationCount : ℕ := 0

variable (m : MathLibrary) (config : Config)

def startTrack (o : LidarLoopTemporalObservation) : State :=
  { previous := some o, confirmationCount := 1 }

def tracked (count : ℕ) (deltas : Deltas) : LidarLoopTemporalDecision :=
  { approved := config.confirmed count
    confirmationCount := count
    confirmationRequired := config.minimumConfirmations
    deltas := deltas
    reason :=
      if config.confirmed count then "temporal_consistency_confirmed"
      else "temporal_confirmation_pending" }

def resetReason (d : Deltas) : Option String :=
  if config.maximumQueryGapS < d.queryGapS then some "temporal_query_gap_reset"
  else if config.maximumPairAgeDeltaS < d.pairAgeDeltaS then some "temporal_pair_age_reset"
  else if config.maximumTranslationDeltaM < d.translationDeltaM ∨
      config.maximumYawDeltaRad < d.yawDeltaRad then some "temporal_transform_reset"
  else none

def observe (s : State) (o : LidarLoopTemporalObservation) : LidarLoopTemporalDecision × State :=
  let refused : LidarLoopTemporalDecision :=
    { confirmationRequired := config.minimumConfirmations }
  if !o.valid then ({ refused with reason := "temporal_invalid_observation" }, s)
  else
    match s.previous with
    | none => (tracked config 1 {}, startTrack o)
    | some previous =>
      if o.queryStampNs ≤ previous.queryStampNs then
        ({ refused with
            confirmationCount := s.confirmationCount
            reason := "temporal_non_monotonic_query" }, s)
      else
        let deltas := deltasBetween m o previous
        match resetReason config deltas with
        | some reason =>
          ({ refused with confirmationCount := 1, deltas := deltas, reason := reason },
            startTrack o)
        | none =>
          (tracked config (s.confirmationCount + 1) deltas,
            { previous := some o, confirmationCount := s.confirmationCount + 1 })

end LidarLoopTemporalConsistency

namespace LidarLoopSequenceConsistency

structure Config extends ConsistencyBounds where
  maximumHypotheses : ℕ
  valid : toConsistencyBounds.Valid
  hypotheses : maximumHypotheses ≠ 0

structure Hypothesis where
  observation : LidarLoopTemporalObservation
  confirmationCount : ℕ := 1

structure State where
  hypotheses : List Hypothesis := []
  latestQueryStampNs : Int64 := 0

variable (m : MathLibrary) (config : Config)

def stillRecent (queryStampNs : Int64) (h : Hypothesis) : Bool :=
  decide (toSeconds (queryStampNs - h.observation.queryStampNs) ≤ config.maximumQueryGapS)

structure Best where
  hypothesis : Hypothesis
  residual : Double
  deltas : Deltas

def outOfBounds (d : Deltas) : Bool :=
  decide (config.maximumQueryGapS < d.queryGapS) ||
    decide (config.maximumPairAgeDeltaS < d.pairAgeDeltaS) ||
    decide (config.maximumTranslationDeltaM < d.translationDeltaM) ||
    decide (config.maximumYawDeltaRad < d.yawDeltaRad)

def consider (o : LidarLoopTemporalObservation) (best : Option Best) (h : Hypothesis) :
    Option Best :=
  if o.candidateStampNs ≤ h.observation.candidateStampNs then best
  else
    let deltas := deltasBetween m o h.observation
    if outOfBounds config deltas then best
    else
      let residual := (deltas.pairAgeDeltaS.add deltas.translationDeltaM).add deltas.yawDeltaRad
      match best with
      | none => some { hypothesis := h, residual := residual, deltas := deltas }
      | some b =>
        if b.hypothesis.confirmationCount < h.confirmationCount ∨
            h.confirmationCount = b.hypothesis.confirmationCount ∧ residual < b.residual then
          some { hypothesis := h, residual := residual, deltas := deltas }
        else best

def extend (hypotheses : List Hypothesis) (o : LidarLoopTemporalObservation) :
    LidarLoopTemporalDecision × Option Hypothesis :=
  if !o.valid then
    ({ confirmationRequired := config.minimumConfirmations
       reason := "sequence_invalid_observation" }, none)
  else
    let best := hypotheses.foldl (consider m config o) none
    let confirmations := (best.map (·.hypothesis.confirmationCount + 1)).getD 1
    ({ approved := config.confirmed confirmations
       confirmationCount := confirmations
       confirmationRequired := config.minimumConfirmations
       deltas := (best.map Best.deltas).getD {}
       reason :=
         if config.confirmed confirmations then "sequence_consistency_confirmed"
         else if best.isNone then "sequence_hypothesis_started"
         else "sequence_confirmation_pending" },
      some { observation := o, confirmationCount := confirmations })

/-- The comparison of `std::stable_sort`. -/
def before (left right : Hypothesis) : Bool :=
  if left.confirmationCount ≠ right.confirmationCount then
    decide (right.confirmationCount < left.confirmationCount)
  else if left.observation.queryStampNs ≠ right.observation.queryStampNs then
    decide (right.observation.queryStampNs < left.observation.queryStampNs)
  else decide (left.observation.candidateStampNs < right.observation.candidateStampNs)

def differentStamps : String := "one sequence batch must share one query timestamp"

def observeBatch (s : State) : List LidarLoopTemporalObservation →
    Except String (List LidarLoopTemporalDecision × State)
  | [] => .ok ([], s)
  | first :: rest =>
    let queryStampNs := first.queryStampNs
    if (first :: rest).any (·.queryStampNs ≠ queryStampNs) then .error differentStamps
    else if queryStampNs ≤ s.latestQueryStampNs then
      .ok ((first :: rest).map fun _ ↦
        { confirmationRequired := config.minimumConfirmations
          reason := "sequence_non_monotonic_query" }, s)
    else
      let recent := s.hypotheses.filter (stillRecent config queryStampNs)
      let extended := (first :: rest).map (extend m config recent)
      let sorted := (recent ++ extended.filterMap Prod.snd).mergeSort fun a b ↦ !before b a
      .ok (extended.map Prod.fst,
        { hypotheses := sorted.take config.maximumHypotheses
          latestQueryStampNs := queryStampNs })

end LidarLoopSequenceConsistency

end EmbodiedAgent.Slam
