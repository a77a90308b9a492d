import EmbodiedAgent.Library.Text
import EmbodiedAgent.Slam.MappingEvidence

namespace EmbodiedAgent.Slam

open Library

inductive ExplorationDecision
  | continues | recover | complete | fail

inductive MonitorError
  | automaticMissionCancelled (message : String)
  | runtimeError (message : String)
  | valueError (message : String)
  | timeoutError (message : String)
  deriving DecidableEq

structure ExplorationObservation where
  nativeCompletionReported : Bool
  reachableFrontierCount : ℤ
  activeGoalCount : ℤ
  blacklistedFrontierCount : ℤ
  plateauDetected : Bool
  timeBudgetReached : Bool
  recoveryAttemptsRemaining : ℤ
  mapQuietS : Double
  requiredQuietS : Double
  frontierIdleS : Double := 0
  requiredFrontierIdleS : Double := 0

namespace ExplorationObservation

variable (o : ExplorationObservation)

def recoverOrFail : ExplorationDecision :=
  if 0 < o.recoveryAttemptsRemaining then .recover else .fail

def decision : ExplorationDecision :=
  if 0 < o.activeGoalCount then if o.timeBudgetReached then .fail else .continues
  else if 0 < o.reachableFrontierCount then
    if o.timeBudgetReached then .fail
    else if o.plateauDetected ∧ o.requiredFrontierIdleS ≤ o.frontierIdleS then o.recoverOrFail
    else .continues
  else if 0 < o.blacklistedFrontierCount then
    if o.frontierIdleS < o.requiredFrontierIdleS then .continues else o.recoverOrFail
  else if o.nativeCompletionReported then
    if o.requiredQuietS ≤ o.mapQuietS then .complete else .continues
  else if o.timeBudgetReached then .fail
  else if o.plateauDetected then o.recoverOrFail
  else .continues

def countersValid : Bool :=
  0 ≤ o.reachableFrontierCount ∧ 0 ≤ o.activeGoalCount ∧ 0 ≤ o.blacklistedFrontierCount ∧
    0 ≤ o.recoveryAttemptsRemaining

def windowsValid : Bool :=
  [o.mapQuietS, o.requiredQuietS, o.frontierIdleS, o.requiredFrontierIdleS].all fun value ↦
    value.isFinite ∧ ¬ value < 0

end ExplorationObservation

def decideExploration (o : ExplorationObservation) : Except MonitorError ExplorationDecision :=
  if !o.countersValid then .error (.valueError "exploration counters must be non-negative")
  else if !o.windowsValid then
    .error (.valueError "exploration quiet windows must be non-negative")
  else .ok o.decision

structure FrontierMonitorConfig where
  timeoutS : Double
  minRuntimeS : Double
  stableMapS : Double
  completionStatus : String
  minKnownCells : ℤ
  minOccupiedCells : ℤ
  minMappingPathM : Double
  frontierIdleGraceS : Double := 0
  policyMode : String := "known_world"
  statusAvailable : Bool := true
  dryRun : Bool := false
  dryRunDelayS : Double := 0
  idleGrace_valid : frontierIdleGraceS.isFinite = true ∧ ¬ frontierIdleGraceS < 0

namespace FrontierTelemetry

variable (t : FrontierTelemetry)

def noClearance : Bool :=
  t.status = "exploration_blocked" ∧ t.completionReason = "no_clearance_safe_frontier_approach"

def attemptsExhausted : Bool := t.completionReason = "frontier_attempts_exhausted_recoverable"

def progressStalled : Bool :=
  t.status = "exploration_blocked" ∧
    t.completionReason = "frontier_progress_stalled_recoverable"

def counts : String :=
  s!"detected={t.detectedFrontierCount} available={t.availableFrontierCount} " ++
    s!"blacklisted={t.blacklistedFrontierCount}"

def ledgerReason (refusal : String) (reason : Option String) :
    Except MonitorError (Option String) :=
  if 0 < t.activeGoalCount then .ok none
  else if t.acceptedGoalCount ≠ t.terminalCount then
    .error (.runtimeError
      (refusal ++ s!" accepted={t.acceptedGoalCount} terminal={t.terminalCount}"))
  else .ok reason

end FrontierTelemetry

namespace FrontierMonitorConfig

variable (c : FrontierMonitorConfig) (snapshot : MappingEvidenceSnapshot)

def rejectPrematureExplorerCompletion (elapsedS : Double) : Except MonitorError Unit :=
  if snapshot.exploreStatus ≠ c.completionStatus ∨ elapsedS < c.minRuntimeS then .ok ()
  else if (snapshot.stats.knownCells : ℤ) < c.minKnownCells then
    .error (.runtimeError "frontier exploration ended before known-cell threshold")
  else if (snapshot.stats.occupiedCells : ℤ) < c.minOccupiedCells then
    .error (.runtimeError "frontier exploration ended before occupied-cell threshold")
  else if snapshot.mappingPathM < c.minMappingPathM then
    .error (.runtimeError ("frontier exploration ended before mapping-path threshold (" ++
      Text.fixed 2 snapshot.mappingPathM ++ "m < " ++ Text.fixed 2 c.minMappingPathM ++ "m)"))
  else .ok ()

def mapQuietS (now : Double) : Double := Double.max 0 (now.sub snapshot.lastMapGrowthAt)

def observation (timeBudgetReached : Bool) (recoveryAttemptsRemaining : ℤ)
    (quietNow idleNow : Double) : ExplorationObservation :=
  let t := snapshot.frontierTelemetry
  { nativeCompletionReported := t.status = c.completionStatus ∧ t.completionReason = "no_frontiers"
    reachableFrontierCount := t.availableFrontierCount
    activeGoalCount := t.activeGoalCount
    blacklistedFrontierCount := t.blacklistedFrontierCount
    plateauDetected := c.stableMapS ≤ mapQuietS snapshot quietNow
    timeBudgetReached := timeBudgetReached
    recoveryAttemptsRemaining := recoveryAttemptsRemaining
    mapQuietS := mapQuietS snapshot quietNow
    requiredQuietS := c.stableMapS
    frontierIdleS := Double.max 0 (idleNow.sub snapshot.lastFrontierActivityAt)
    requiredFrontierIdleS := c.frontierIdleGraceS }

def decidedReason (timeBudgetReached : Bool) (recoveryAttemptsRemaining : ℤ)
    (quietNow idleNow : Double) : Except MonitorError (Option String) :=
  let t := snapshot.frontierTelemetry
  match decideExploration (c.observation snapshot timeBudgetReached recoveryAttemptsRemaining
    quietNow idleNow) with
  | .error error => .error error
  | .ok .continues => .ok none
  | .ok .complete => .ok (some "no_reachable_frontiers")
  | .ok .recover =>
    if 0 < t.blacklistedFrontierCount then .ok (some "recovery_required:blacklisted_frontiers")
    else .ok (some "recovery_required:reachable_frontiers_stalled")
  | .ok .fail =>
    .error (.runtimeError (s!"frontier recovery exhausted: available={t.availableFrontierCount} " ++
      s!"active={t.activeGoalCount} blacklisted={t.blacklistedFrontierCount}"))

def unknownWorldReason (elapsedS : Double) (timeBudgetReached : Bool)
    (recoveryAttemptsRemaining : ℤ) (quietNow idleNow : Double) :
    Except MonitorError (Option String) :=
  let t := snapshot.frontierTelemetry
  if t.noClearance then
    if t.detectedFrontierCount = 0 ∨ t.availableFrontierCount ≠ 0 ∨
        t.blacklistedFrontierCount ≠ 0 then
      .error (.runtimeError ("invalid no-clearance telemetry: " ++ t.counts))
    else
      t.ledgerReason "no-clearance recovery refused: Action ledger is not drained"
        (some "recovery_required:no_clearance_safe_frontier_approach")
  else if t.attemptsExhausted then
    if t.status ≠ "exploration_blocked" ∨ t.detectedFrontierCount = 0 ∨
        t.availableFrontierCount ≠ 0 ∨ t.detectedFrontierCount < t.blacklistedFrontierCount then
      .error (.runtimeError
        ("invalid attempt-exhaustion telemetry: status=" ++ t.status ++ " " ++ t.counts))
    else
      t.ledgerReason "attempt-exhaustion recovery refused: Action ledger is not drained"
        (if timeBudgetReached then some "assessment_required:time_budget"
        else if mapQuietS snapshot quietNow < c.stableMapS then none
        else some "recovery_required:frontier_attempts_exhausted")
  else if elapsedS < c.minRuntimeS then .ok none
  else if t.progressStalled then
    t.ledgerReason "frontier progress recovery refused: Action ledger is not drained"
      (some "recovery_required:frontier_progress_stalled")
  else if timeBudgetReached then .ok (some "assessment_required:time_budget")
  else c.decidedReason snapshot timeBudgetReached recoveryAttemptsRemaining quietNow idleNow

end FrontierMonitorConfig

def explorationCompletionReason (c : FrontierMonitorConfig) (snapshot : MappingEvidenceSnapshot)
    (elapsedS secondsSinceMapGrowth : Double) (timeBudgetReached : Bool) : Option String :=
  let stats := snapshot.stats
  let acceptanceReady : Bool := c.minKnownCells ≤ stats.knownCells ∧
    c.minOccupiedCells ≤ stats.occupiedCells ∧ c.minMappingPathM ≤ snapshot.mappingPathM
  if elapsedS < c.minRuntimeS then none
  else if snapshot.exploreStatus = c.completionStatus ∧ acceptanceReady then some "no_frontiers"
  else if acceptanceReady ∧ c.stableMapS ≤ secondsSinceMapGrowth then some "coverage_plateau"
  else if acceptanceReady ∧ timeBudgetReached then some "time_budget_coverage"
  else none

def FrontierMonitorConfig.completionReason (c : FrontierMonitorConfig)
    (snapshot : MappingEvidenceSnapshot) (elapsedS : Double) (timeBudgetReached : Bool)
    (recoveryAttemptsRemaining : ℤ) (quietNow idleNow : Double) :
    Except MonitorError (Option String) :=
  if c.policyMode = "unknown_world" then
    c.unknownWorldReason snapshot elapsedS timeBudgetReached recoveryAttemptsRemaining quietNow
      idleNow
  else if c.policyMode ≠ "known_world" then
    .error (.valueError ("unsupported frontier policy mode: " ++ c.policyMode))
  else
    .ok (explorationCompletionReason c snapshot elapsedS
      (quietNow.sub snapshot.lastMapGrowthAt) timeBudgetReached)

inductive WaitPhase
  | dryRun (deadline : Double)
  | polling (startedAt deadline : Double)
  | expired (startedAt : Double)
  | ended

structure FrontierWait where
  config : FrontierMonitorConfig
  tracker : MappingEvidenceTracker
  recoveryAttemptsRemaining : ℤ := 0
  phase : WaitPhase

structure MonitorReading where
  canceled : Bool := false
  loopNow : Double := 0
  elapsedNow : Double := 0
  quietNow : Double := 0
  idleNow : Double := 0
  exited : Bool := false
  code : Option ℤ := none

/-- The observations that other threads record while the monitor sleeps, and its rounds. -/
inductive MonitorEvent
  | recordMap (values : List ℤ) (now : Double)
  | recordOdom (x y : Double)
  | recordFrontierTelemetry (telemetry : FrontierTelemetry) (now : Double)
  | poll (reading : MonitorReading)

abbrev WaitResult := Except MonitorError String

namespace FrontierWait

variable (w : FrontierWait)

/-- The call with its deadline: its own timeout, and that of the mission. -/
def wait (config : FrontierMonitorConfig) (tracker : MappingEvidenceTracker)
    (recoveryAttemptsRemaining : ℤ) (deadlineMonotonic : Option Double) (now : Double) :
    FrontierWait × Option WaitResult :=
  let w : WaitPhase → FrontierWait := fun phase ↦
    ⟨config, tracker, recoveryAttemptsRemaining, phase⟩
  if config.dryRun then (w (.dryRun (now.add config.dryRunDelayS)), none)
  else if !config.statusAvailable then
    (w .ended, some (.error (.runtimeError ("explore_lite_msgs is unavailable; run " ++
      "bash scripts/setup_frontier_exploration.sh"))))
  else
    let localDeadline := now.add config.timeoutS
    (w (.polling now (match deadlineMonotonic with
      | none => localDeadline
      | some deadline => Double.min localDeadline deadline)), none)

def ends (result : WaitResult) : FrontierWait × Option WaitResult :=
  ({ w with phase := .ended }, some result)

def canceledError : MonitorError := .automaticMissionCancelled "automatic mission canceled"

def conclude (reason : String) : FrontierWait × Option WaitResult :=
  if reason.startsWith "recovery_required:" ∨ reason.startsWith "assessment_required:" then
    w.ends (.ok reason)
  else { w with tracker := w.tracker.setCompletionReason reason }.ends (.ok reason)

def exitedError (code : Option ℤ) : MonitorError :=
  .runtimeError ("frontier explorer exited unexpectedly code=" ++ (code.elim "None" toString))

def timeoutError (snapshot : MappingEvidenceSnapshot) : MonitorError :=
  .timeoutError ("frontier exploration did not complete before timeout " ++
    s!"known={snapshot.stats.knownCells} occupied={snapshot.stats.occupiedCells} path=" ++
    Text.fixed 2 snapshot.mappingPathM ++ "m")

def round (startedAt : Double) (r : MonitorReading) : FrontierWait × Option WaitResult :=
  let snapshot := w.tracker.snapshot
  let elapsed := r.elapsedNow.sub startedAt
  if r.canceled then w.ends (.error canceledError)
  else
    match w.config.rejectPrematureExplorerCompletion snapshot elapsed with
    | .error error => w.ends (.error error)
    | .ok () =>
      match w.config.completionReason snapshot elapsed false w.recoveryAttemptsRemaining r.quietNow
        r.idleNow with
      | .error error => w.ends (.error error)
      | .ok (some reason) => w.conclude reason
      | .ok none => if r.exited then w.ends (.error (exitedError r.code)) else (w, none)

def expire (startedAt : Double) (r : MonitorReading) : FrontierWait × Option WaitResult :=
  let snapshot := w.tracker.snapshot
  match w.config.completionReason snapshot (r.elapsedNow.sub startedAt) true
    w.recoveryAttemptsRemaining r.quietNow r.idleNow with
  | .error error => w.ends (.error error)
  | .ok (some reason) => w.conclude reason
  | .ok none => w.ends (.error (timeoutError snapshot))

def poll (r : MonitorReading) : FrontierWait × Option WaitResult :=
  match w.phase with
  | .dryRun deadline =>
    if r.loopNow < deadline then
      if r.canceled then w.ends (.error canceledError) else (w, none)
    else w.ends (.ok "dry_run")
  | .polling startedAt deadline =>
    if r.loopNow < deadline then w.round startedAt r
    else ({ w with phase := .expired startedAt }, none)
  | .expired startedAt => w.expire startedAt r
  | .ended => (w, none)

def step (hypot : Double → Double → Double) (w : FrontierWait) :
    MonitorEvent → FrontierWait × Option WaitResult
  | .recordMap values now => ({ w with tracker := w.tracker.recordMap values now }, none)
  | .recordOdom x y => ({ w with tracker := w.tracker.recordOdom hypot x y }, none)
  | .recordFrontierTelemetry telemetry now =>
    ({ w with tracker := w.tracker.recordFrontierTelemetry telemetry now }, none)
  | .poll r => w.poll r

end FrontierWait

end EmbodiedAgent.Slam
