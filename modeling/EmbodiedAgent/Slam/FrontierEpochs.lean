import EmbodiedAgent.Library.History
import EmbodiedAgent.Slam.FrontierMonitor
import Mathlib.Algebra.BigOperators.Intervals

namespace EmbodiedAgent.Slam

open Library

/-- The counters of the explorer that it keeps for its goals. -/
inductive GoalCounter
  | accepted | succeeded | aborted | canceled

def GoalCounter.of (t : FrontierTelemetry) : GoalCounter → ℕ
  | .accepted => t.acceptedGoalCount
  | .succeeded => t.succeededGoalCount
  | .aborted => t.abortedGoalCount
  | .canceled => t.canceledGoalCount

def FrontierTelemetry.Follows (later before : FrontierTelemetry) : Prop :=
  before.acceptedGoalCount ≤ later.acceptedGoalCount ∧
    before.succeededGoalCount ≤ later.succeededGoalCount ∧
    before.abortedGoalCount ≤ later.abortedGoalCount ∧
    before.canceledGoalCount ≤ later.canceledGoalCount

instance (later before : FrontierTelemetry) : Decidable (later.Follows before) :=
  inferInstanceAs (Decidable (_ ∧ _ ∧ _ ∧ _))

inductive EpochStage
  | ready | exploring | stopped
  deriving DecidableEq

structure FrontierMission where
  wait : FrontierWait
  epoch : ℕ := 1
  stage : EpochStage := .ready
  published : ℕ → List FrontierTelemetry
  recorded : List (ℕ × ℕ) := []

/-- The steps of the explorer, of the middleware, of the callbacks and of the mission. -/
inductive FrontierMissionEvent
  | startExplorer (recoveryAttemptsRemaining : ℤ) (deadlineMonotonic now : Double)
  | publish (telemetry : FrontierTelemetry)
  | onExploreStatus (epoch index : ℕ) (now : Double)
  | recordMap (values : List ℤ) (now : Double)
  | recordOdom (x y : Double)
  | poll (reading : MonitorReading)
  | stopExplorer
  | finishMappingPath
  | resetExploration (growthNow activityNow : Double)
  | resumeMappingPath

namespace FrontierMission

variable (s : FrontierMission)

def start (config : FrontierMonitorConfig) (tracker : MappingEvidenceTracker)
    (earlier : List FrontierTelemetry) (growthNow activityNow : Double) : FrontierMission :=
  { wait :=
      { config := config
        tracker := tracker.resetExploration false growthNow activityNow
        phase := .ended }
    published := fun epoch ↦ if epoch = 0 then earlier else [] }

def updateEvidence (f : MappingEvidenceTracker → MappingEvidenceTracker) : FrontierMission :=
  { s with wait := { s.wait with tracker := f s.wait.tracker } }

/-- An explorer that is at work publishes, and never less than before. -/
def publish (telemetry : FrontierTelemetry) : FrontierMission :=
  if s.stage = .exploring ∧ ∀ before ∈ (s.published s.epoch).getLast?, telemetry.Follows before then
    { s with
      published := Function.update s.published s.epoch (s.published s.epoch ++ [telemetry]) }
  else s

/-- A message carries no epoch: whichever arrives is recorded, once. -/
def onExploreStatus (epoch index : ℕ) (now : Double) : FrontierMission :=
  match (s.published epoch)[index]? with
  | none => s
  | some telemetry =>
    if (epoch, index) ∈ s.recorded then s
    else
      { s.updateEvidence (·.recordFrontierTelemetry telemetry now) with
        recorded := (epoch, index) :: s.recorded }

def poll (reading : MonitorReading) : FrontierMission × Option WaitResult :=
  if s.stage = .exploring then
    ({ s with wait := (s.wait.poll reading).1 }, (s.wait.poll reading).2)
  else (s, none)

/-- An epoch starts with its explorer and with the wait for its end. -/
def startExplorer (recoveryAttemptsRemaining : ℤ) (deadlineMonotonic now : Double) :
    FrontierMission × Option WaitResult :=
  if s.stage = .ready then
    let (wait, result) := FrontierWait.wait s.wait.config s.wait.tracker recoveryAttemptsRemaining
      (some deadlineMonotonic) now
    ({ s with wait := wait, stage := .exploring }, result)
  else (s, none)

def resetExploration (growthNow activityNow : Double) : FrontierMission :=
  if s.stage = .stopped then
    { s.updateEvidence (·.resetExploration true growthNow activityNow) with
      epoch := s.epoch + 1
      stage := .ready }
  else s

def step (hypot : Double → Double → Double) (s : FrontierMission) :
    FrontierMissionEvent → FrontierMission × Option WaitResult
  | .startExplorer remaining deadline now => s.startExplorer remaining deadline now
  | .publish telemetry => (s.publish telemetry, none)
  | .onExploreStatus epoch index now => (s.onExploreStatus epoch index now, none)
  | .recordMap values now => (s.updateEvidence (·.recordMap values now), none)
  | .recordOdom x y => (s.updateEvidence (·.recordOdom hypot x y), none)
  | .poll reading => s.poll reading
  | .stopExplorer => (if s.stage = .exploring then { s with stage := .stopped } else s, none)
  | .finishMappingPath => (s.updateEvidence (·.finishMappingPath), none)
  | .resetExploration growthNow activityNow => (s.resetExploration growthNow activityNow, none)
  | .resumeMappingPath => (s.updateEvidence (·.resumeMappingPath), none)

end FrontierMission

end EmbodiedAgent.Slam
