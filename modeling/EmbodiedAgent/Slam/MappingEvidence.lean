import EmbodiedAgent.Library.Binary64

namespace EmbodiedAgent.Slam

open Library

/-- One report of the explorer; a negative counter is refused where it is built. -/
structure FrontierTelemetry where
  status : String := ""
  detectedFrontierCount : ℕ := 0
  availableFrontierCount : ℕ := 0
  blacklistedFrontierCount : ℕ := 0
  activeGoalCount : ℕ := 0
  activeGoalId : String := ""
  acceptedGoalCount : ℕ := 0
  succeededGoalCount : ℕ := 0
  abortedGoalCount : ℕ := 0
  canceledGoalCount : ℕ := 0
  rejectedGoalCount : ℕ := 0
  lastGoalTerminal : String := ""
  completionReason : String := ""
  deriving DecidableEq

def FrontierTelemetry.terminalCount (t : FrontierTelemetry) : ℕ :=
  t.succeededGoalCount + t.abortedGoalCount + t.canceledGoalCount

structure FrontierActionTotals where
  acceptedGoalCount : ℕ := 0
  succeededGoalCount : ℕ := 0
  abortedGoalCount : ℕ := 0
  canceledGoalCount : ℕ := 0
  rejectedGoalCount : ℕ := 0

structure MapStats where
  knownCells : ℕ := 0
  occupiedCells : ℕ := 0

structure MappingEvidenceSnapshot where
  mapStats : Option MapStats
  bestKnownMapCells : ℕ
  lastMapGrowthAt : Double
  lastFrontierActivityAt : Double
  explorationCompletionReason : String
  mappingPathM : Double
  latestOdomXy : Option (Double × Double)
  odomGeneration : ℕ
  exploreStatus : String
  frontierTelemetry : FrontierTelemetry

def MappingEvidenceSnapshot.stats (s : MappingEvidenceSnapshot) : MapStats := s.mapStats.getD {}

/-- The observations of the map, the odometry and the explorer, all behind one lock. -/
structure MappingEvidenceTracker where
  minGrowthCells : ℕ
  mapStats : Option MapStats := none
  bestKnownMapCells : ℕ := 0
  lastMapGrowthAt : Double
  lastFrontierActivityAt : Double
  explorationCompletionReason : String := ""
  mappingPathM : Double := 0
  mappingLastPosition : Option (Double × Double) := none
  latestOdomXy : Option (Double × Double) := none
  odomGeneration : ℕ := 0
  recordMappingPath : Bool := false
  exploreStatus : String := ""
  frontierTelemetry : FrontierTelemetry := {}
  frontierActionTotals : FrontierActionTotals := {}

namespace MappingEvidenceTracker

variable (tracker : MappingEvidenceTracker)

def create (minGrowthCells : ℕ) (growthNow activityNow : Double) : MappingEvidenceTracker :=
  { minGrowthCells := minGrowthCells
    lastMapGrowthAt := growthNow
    lastFrontierActivityAt := activityNow }

def recordMap (values : List ℤ) (now : Double) : MappingEvidenceTracker :=
  let knownCells := values.countP (0 ≤ ·)
  let stats : MapStats := ⟨knownCells, values.countP (65 ≤ ·)⟩
  if tracker.bestKnownMapCells + tracker.minGrowthCells ≤ knownCells then
    { tracker with
      mapStats := some stats
      bestKnownMapCells := knownCells
      lastMapGrowthAt := now }
  else { tracker with mapStats := some stats }

def pathStep (step : Double) : Bool := Double.ofRat (1 / 1000) ≤ step ∧ step ≤ Double.ofRat (1 / 2)

/-- `hypot` is the one of the standard library. -/
def recordOdom (hypot : Double → Double → Double) (x y : Double) : MappingEvidenceTracker :=
  let tracker := { tracker with
    latestOdomXy := some (x, y)
    odomGeneration := tracker.odomGeneration + 1 }
  if !tracker.recordMappingPath then tracker
  else
    let moved := { tracker with mappingLastPosition := some (x, y) }
    match tracker.mappingLastPosition with
    | none => moved
    | some (x₀, y₀) =>
      let step := hypot (x.sub x₀) (y.sub y₀)
      if pathStep step then { moved with mappingPathM := moved.mappingPathM.add step } else moved

def recordFrontierTelemetry (telemetry : FrontierTelemetry) (now : Double) :
    MappingEvidenceTracker :=
  { tracker with
    lastFrontierActivityAt :=
      if telemetry ≠ tracker.frontierTelemetry then now else tracker.lastFrontierActivityAt
    frontierTelemetry := telemetry
    exploreStatus := telemetry.status }

def finishMappingPath : MappingEvidenceTracker := { tracker with recordMappingPath := false }

def resumeMappingPath : MappingEvidenceTracker :=
  { tracker with mappingLastPosition := none, recordMappingPath := true }

def resetExploration (preserveActionTotals : Bool) (growthNow activityNow : Double) :
    MappingEvidenceTracker :=
  let totals := tracker.frontierActionTotals
  let telemetry := tracker.frontierTelemetry
  { tracker with
    frontierActionTotals :=
      if preserveActionTotals then
        { acceptedGoalCount := totals.acceptedGoalCount + telemetry.acceptedGoalCount
          succeededGoalCount := totals.succeededGoalCount + telemetry.succeededGoalCount
          abortedGoalCount := totals.abortedGoalCount + telemetry.abortedGoalCount
          canceledGoalCount := totals.canceledGoalCount + telemetry.canceledGoalCount
          rejectedGoalCount := totals.rejectedGoalCount + telemetry.rejectedGoalCount }
      else {}
    exploreStatus := ""
    bestKnownMapCells := 0
    lastMapGrowthAt := growthNow
    lastFrontierActivityAt := activityNow
    explorationCompletionReason := ""
    frontierTelemetry := {} }

def setCompletionReason (reason : String) : MappingEvidenceTracker :=
  { tracker with explorationCompletionReason := reason }

def snapshot : MappingEvidenceSnapshot :=
  let current := tracker.frontierTelemetry
  let totals := tracker.frontierActionTotals
  { mapStats := tracker.mapStats
    bestKnownMapCells := tracker.bestKnownMapCells
    lastMapGrowthAt := tracker.lastMapGrowthAt
    lastFrontierActivityAt := tracker.lastFrontierActivityAt
    explorationCompletionReason := tracker.explorationCompletionReason
    mappingPathM := tracker.mappingPathM
    latestOdomXy := tracker.latestOdomXy
    odomGeneration := tracker.odomGeneration
    exploreStatus := tracker.exploreStatus
    frontierTelemetry :=
      { current with
        acceptedGoalCount := current.acceptedGoalCount + totals.acceptedGoalCount
        succeededGoalCount := current.succeededGoalCount + totals.succeededGoalCount
        abortedGoalCount := current.abortedGoalCount + totals.abortedGoalCount
        canceledGoalCount := current.canceledGoalCount + totals.canceledGoalCount
        rejectedGoalCount := current.rejectedGoalCount + totals.rejectedGoalCount } }

end MappingEvidenceTracker

end EmbodiedAgent.Slam
