import EmbodiedAgent.Library.Program
import EmbodiedAgent.Library.Text
import EmbodiedAgent.Slam.ExplorationSaturation
import EmbodiedAgent.Slam.MappingEvidence

namespace EmbodiedAgent.Slam

open Library Library.Program

inductive EpochRecoveryDecision
  | advanceEpoch | runStallConfirmationEpoch | assessStallSaturation | runFinalConfirmationEpoch
  | completeBelowMaterialGain | failBelowMaterialGain | failBudgetExhausted

def EpochRecoveryDecision.value : EpochRecoveryDecision → String
  | .advanceEpoch => "advance_epoch"
  | .runStallConfirmationEpoch => "run_stall_confirmation_epoch"
  | .assessStallSaturation => "assess_stall_saturation"
  | .runFinalConfirmationEpoch => "run_final_confirmation_epoch"
  | .completeBelowMaterialGain => "complete_below_material_gain"
  | .failBelowMaterialGain => "fail_below_material_gain"
  | .failBudgetExhausted => "fail_budget_exhausted"

def relocationRecoveryReasons : List String :=
  ["recovery_required:no_clearance_safe_frontier_approach",
    "recovery_required:frontier_attempts_exhausted"]

structure EpochRecovery where
  recoveryReason : String
  mapGainCells : ℕ
  minimumGainCells : ℕ
  recoveryAttemptsRemaining : ℤ
  availableFrontierCount : ℕ
  activeGoalCount : ℕ
  blacklistedFrontierCount : ℕ
  detectedFrontierCount : ℕ
  mapGainRatio : Double
  minimumGainRatio : Double
  completedRecoveryEpochs : ℤ
  finalConfirmationUsed : Bool
  recoveryDisplacementM : Option Double
  minimumRecoveryDisplacementM : Option Double

namespace EpochRecovery

variable (r : EpochRecovery)

def invalid : Option String :=
  if r.recoveryAttemptsRemaining < 0 ∨ r.completedRecoveryEpochs < 0 then
    some "epoch recovery counters must be non-negative"
  else if r.detectedFrontierCount < r.blacklistedFrontierCount then
    some "blacklisted frontier count exceeds detected count"
  else if ¬ (r.mapGainRatio.isFinite ∧ ¬ r.mapGainRatio < 0 ∧ r.minimumGainRatio.isFinite ∧
      0 < r.minimumGainRatio ∧ r.minimumGainRatio ≤ .ofRat 1) then
    some "map gain ratio values are invalid"
  else
    match r.recoveryDisplacementM, r.minimumRecoveryDisplacementM with
    | none, none => none
    | some displacement, some minimum =>
      if ¬ (displacement.isFinite ∧ ¬ displacement < 0 ∧ minimum.isFinite ∧ 0 < minimum) then
        some "recovery displacement values are invalid"
      else none
    | _, _ => some "recovery displacement and its minimum must be provided together"

def relocationVerified : Bool :=
  match r.recoveryDisplacementM, r.minimumRecoveryDisplacementM with
  | some displacement, some minimum =>
    r.recoveryReason ∈ relocationRecoveryReasons ∧ minimum ≤ displacement
  | _, _ => false

def mapGrowthIsSignificant : Bool :=
  r.minimumGainCells ≤ r.mapGainCells ∧ r.minimumGainRatio ≤ r.mapGainRatio

def countersAreTerminal : Bool :=
  r.availableFrontierCount = 0 ∧ r.activeGoalCount = 0 ∧
    r.blacklistedFrontierCount ≤ r.detectedFrontierCount

def decision : EpochRecoveryDecision :=
  let stalled : Bool :=
    r.recoveryReason = "recovery_required:reachable_frontiers_stalled" ∧ r.countersAreTerminal
  let exhausted : Bool :=
    r.recoveryReason = "recovery_required:frontier_attempts_exhausted" ∧ r.countersAreTerminal
  if r.mapGrowthIsSignificant then
    if 0 < r.recoveryAttemptsRemaining then .advanceEpoch
    else if exhausted ∧ 0 < r.completedRecoveryEpochs ∧ !r.finalConfirmationUsed then
      .runFinalConfirmationEpoch
    else .failBudgetExhausted
  else if r.relocationVerified then
    if 0 < r.recoveryAttemptsRemaining then .advanceEpoch else .failBudgetExhausted
  else if stalled ∧ 0 < r.recoveryAttemptsRemaining then .runStallConfirmationEpoch
  else if stalled ∧ 0 < r.completedRecoveryEpochs then .assessStallSaturation
  else if exhausted ∧ r.recoveryAttemptsRemaining = 0 ∧ 0 < r.completedRecoveryEpochs then
    .completeBelowMaterialGain
  else .failBelowMaterialGain

end EpochRecovery

inductive MissionError
  | port (className message : String)
  | saturation (error : SaturationError)
  | noFinalProbe
  | automaticMissionCancelled (message : String)
  | runtimeError (message : String)
  | valueError (message : String)
  | timeoutError (message : String)
  deriving DecidableEq

def MissionError.message : MissionError → String
  | .port _ message | .automaticMissionCancelled message | .runtimeError message
  | .valueError message | .timeoutError message => message
  | .saturation error => error.message
  | .noFinalProbe => "stall saturation assessment has no final probe"

structure MissionFailure where
  error : MissionError
  notes : List String := []
  deriving DecidableEq

def MissionFailure.addNote (failure : MissionFailure) (note : String) : MissionFailure :=
  { failure with notes := failure.notes ++ [note] }

structure RecoveryBackUpSpec where
  distanceM : Double
  speedMps : Double
  timeoutS : Double
  minimumDisplacementM : Double
  finite : ∀ v ∈ [distanceM, speedMps, timeoutS, minimumDisplacementM], v.isFinite = true
  distance_valid : 0 < distanceM ∧ distanceM ≤ .ofRat (1 / 2)
  speed_valid : 0 < speedMps ∧ speedMps ≤ .ofRat (1 / 5)
  displacement_valid : 0 < minimumDisplacementM ∧ minimumDisplacementM ≤ distanceM
  timeout_valid : ¬ timeoutS < (distanceM.div speedMps).add (.ofRat 1)

/-- The part of the mission's specification that concerns the exploration. -/
structure UnknownWorldMissionSpec where
  explorerConfigPath : String
  explorationTimeoutS : Double
  actionTimeoutS : Double
  recoveryScanText : String
  recoveryBackup : RecoveryBackUpSpec
  maxRecoveryAttempts : ℕ
  minimumEpochMapGainCells : ℕ
  minimumEpochMapGainRatio : Double
  mapSettleS : Double
  saturationPolicy : SaturationPolicy := {}
  finalConfirmationTimeoutS : Double := .ofRat 240
  timeouts_valid : ∀ v ∈ [explorationTimeoutS, actionTimeoutS, finalConfirmationTimeoutS],
    v.isFinite = true ∧ 0 < v
  ratio_valid : minimumEpochMapGainRatio.isFinite = true ∧ 0 < minimumEpochMapGainRatio ∧
    minimumEpochMapGainRatio ≤ .ofRat 1
  settle_valid : mapSettleS.isFinite = true ∧ ¬ mapSettleS < 0

inductive RequestSource
  | user | internal (source : String)

/-- The calls of the runtime and of the process manager. -/
inductive PortCall
  | transition (detail : String)
  | startExplorer (configPath : String)
  | stopExplorer
  | waitForFrontier (recoveryAttemptsRemaining : ℤ) (deadlineMonotonic : Double)
  | quiesceFrontier (request : RequestSource) (timeoutS : Double)
  | stopMotionAndWait (request : RequestSource) (timeoutS : Double)
  | runRecoveryBackup (distanceM speedMps timeoutS : Double)
  | runAgentAction (text expectedAction : String) (timeoutS : Double)

def PortCall.Reply : PortCall → Type
  | .waitForFrontier .. => String
  | .quiesceFrontier .. => FrontierTelemetry
  | .runRecoveryBackup .. => Double
  | _ => Unit

structure PortError where
  className : String
  message : String

inductive ObservationPoint
  | epochStart | afterWait | afterScan

/-- What a run does and reads, in order. -/
inductive MissionEntry
  | port (call : PortCall) (reply : Except PortError call.Reply)
  | monotonic (now : Double)
  | canceled (value : Bool)
  | evidence (snapshot : MappingEvidenceSnapshot)
  | observe (point : ObservationPoint) (accepted : Bool)
  | epoch (epochId : ℕ) (confirmation : Bool)
  | finalProbe (trigger : SaturationTrigger)

/-- The world around the executor; it may answer by all that happened before. -/
structure MissionEnvironment where
  answer : List MissionEntry → (call : PortCall) → Except PortError call.Reply
  clock : List MissionEntry → Double
  canceled : List MissionEntry → Bool
  record : List MissionEntry → MappingEvidenceTracker → MappingEvidenceTracker

structure MissionWorld where
  evidence : MappingEvidenceTracker
  trace : List MissionEntry := []

abbrev Mission := Program MissionWorld MissionFailure

structure ExplorationRunOutcome where
  completionReason : String
  saturationEvidence : Option SaturationRuntimeEvidence := none
  saturationAssessment : Option SaturationAssessment := none

/-- The variables of the exploration loop. -/
structure ExplorationState where
  remaining : ℤ
  tracker : SaturationEvidenceTracker := {}
  epochId : ℕ := 0
  finalConfirmationActive : Bool := false
  finalConfirmationDeadline : Option Double := none

namespace UnknownWorldMissionExecutor

def log (entry : MissionEntry) : Mission Unit :=
  modify fun w ↦ { w with trace := w.trace ++ [entry] }

def fails {α : Type} (error : MissionError) : Mission α := raise ⟨error, []⟩

def ofTracker {α : Type} (result : Except SaturationError α) : Mission α :=
  ofExcept (result.mapError fun error ↦ ⟨.saturation error, []⟩)

variable (env : MissionEnvironment) (spec : UnknownWorldMissionSpec)

def port (call : PortCall) : Mission call.Reply :=
  invoke (fun w : MissionWorld ↦ env.answer w.trace call)
    (fun error ↦ ⟨.port error.className error.message, []⟩)
    fun reply w ↦ { w with trace := w.trace ++ [.port call reply] }

def monotonic : Mission Double := do
  let w ← get
  log (.monotonic (env.clock w.trace))
  pure (env.clock w.trace)

def canceled : Mission Bool := do
  let w ← get
  log (.canceled (env.canceled w.trace))
  pure (env.canceled w.trace)

def updateEvidence (f : MappingEvidenceTracker → MappingEvidenceTracker) :
    Mission MappingEvidenceSnapshot := do
  let w ← get
  let evidence := f (env.record w.trace w.evidence)
  modify fun w ↦ ⟨evidence, w.trace ++ [.evidence evidence.snapshot]⟩
  pure evidence.snapshot

def snapshot : Mission MappingEvidenceSnapshot := updateEvidence env id

def resumeExploration : Mission Unit := do
  let growthNow ← monotonic env
  let activityNow ← monotonic env
  let _ ← updateEvidence env (·.resetExploration true growthNow activityNow)
  let _ ← updateEvidence env (·.resumeMappingPath)

def transition (detail : String) : Mission Unit := port env (.transition detail)

def stopMotionAndWait (request : RequestSource) : Mission Unit :=
  port env (.stopMotionAndWait request spec.actionTimeoutS)

def recoveryScan : Mission Unit :=
  port env (.runAgentAction spec.recoveryScanText "turn" spec.actionTimeoutS)

def noting {α : Type} (failure : MissionFailure) (stage : String) (m : Mission α) :
    Mission MissionFailure :=
  handle (m >>= fun _ ↦ pure failure) fun cleanup ↦
    pure (failure.addNote (stage ++ ": " ++ cleanup.error.message))

def reapExplorer (failure : MissionFailure) : Mission MissionFailure := do
  let failure ← noting failure "frontier ledger quiescence failed"
    (port env (.quiesceFrontier (.internal "frontier_failure_quiescence") spec.actionTimeoutS))
  noting failure "explorer cleanup failed" (port env .stopExplorer)

def cleanupFailedFrontierEpoch {α : Type} (failure : MissionFailure) (stopExplorer : Bool) :
    Mission α := do
  let failure ← (if stopExplorer then reapExplorer env spec failure else pure failure)
  let failure ← noting failure "typed stop failed"
    (stopMotionAndWait env spec (.internal "frontier_failure_cleanup"))
  raise failure

def stopExplorer : Mission Unit :=
  handle (port env .stopExplorer) fun failure ↦ cleanupFailedFrontierEpoch env spec failure false

def observeSaturationTracker (point : ObservationPoint) (tracker : SaturationEvidenceTracker) :
    Mission SaturationEvidenceTracker := do
  let snapshot ← snapshot env
  let result := tracker.observe snapshot.stats.knownCells snapshot.frontierTelemetry.terminalCount
    snapshot.mappingPathM
  log (.observe point result.isOk)
  ofTracker result

def mapQuietRound (deadlineMonotonic requiredQuietS : Double) :
    Unit → Mission (Unit ⊕ MappingEvidenceSnapshot) := fun _ ↦ do
  if ← canceled env then fails (.automaticMissionCancelled "automatic mission canceled")
  else
    let snapshot ← snapshot env
    let now ← monotonic env
    let quietRemaining := (snapshot.lastMapGrowthAt.add requiredQuietS).sub now
    if quietRemaining ≤ 0 then pure (.inr snapshot)
    else if deadlineMonotonic.sub now ≤ 0 then
      fails (.timeoutError "map did not settle before confirmation deadline")
    else pure (.inl ())

def waitForMapQuiet (fuel : ℕ) (requiredQuietS : Option Double) :
    Mission MappingEvidenceSnapshot := do
  let now ← monotonic env
  iterate (mapQuietRound env (now.add (Double.max spec.mapSettleS spec.actionTimeoutS))
    (requiredQuietS.getD spec.mapSettleS)) fuel ()

variable (tracker : SaturationEvidenceTracker)

def finalizeSaturationAssessment
    (telemetry : FrontierTelemetry) (remaining : ℤ) (trigger : SaturationTrigger)
    (settled : MappingEvidenceSnapshot) (terminalReason : String) :
    Mission ExplorationRunOutcome := do
  stopMotionAndWait env spec .user
  let now ← monotonic env
  let evidence ← ofTracker (SaturationRuntimeEvidence.validated
    { history := tracker.snapshot
      trigger := trigger
      recoveryAttemptsRemaining := remaining
      residualAvailableFrontiers := telemetry.availableFrontierCount
      activeGoalCount := telemetry.activeGoalCount
      pendingGoalCount := telemetry.acceptedGoalCount - telemetry.terminalCount
      mapQuietS := Double.max 0 (now.sub settled.lastMapGrowthAt)
      typedStopConfirmed := true
      typedStopAfterFinalProbe := true
      finalStopAgeS := some 0 })
  let assessment := spec.saturationPolicy.assessBoundedFrontierSaturation evidence
  if assessment.decision ≠ .complete then
    fails (.runtimeError ("bounded saturation evidence is insufficient trigger=" ++
      trigger.value ++ ": " ++ String.intercalate "," assessment.unmetRequirements))
  else do
    let _ ← updateEvidence env (·.setCompletionReason terminalReason)
    transition env ("bounded frontier saturation accepted trigger=" ++ trigger.value ++
      s!" residual={telemetry.availableFrontierCount} epochs={evidence.history.epochs.length}")
    pure ⟨terminalReason, some evidence, some assessment⟩

def finishProbe : Mission SaturationEvidenceTracker := do
  let tracker ← observeSaturationTracker env .afterScan tracker
  ofTracker tracker.finishFinalProbe

def assessTimeBudgetSaturation (fuel : ℕ) (tracker : SaturationEvidenceTracker)
    (telemetry : FrontierTelemetry) (remaining : ℤ) : Mission ExplorationRunOutcome := do
  stopMotionAndWait env spec .user
  let _ ← updateEvidence env (·.finishMappingPath)
  let tracker ← ofTracker (tracker.beginFinalProbe .timeBudget)
  log (.finalProbe .timeBudget)
  recoveryScan env spec
  let settled ← waitForMapQuiet env spec fuel (some spec.saturationPolicy.requiredMapQuietS)
  let tracker ← finishProbe env tracker
  finalizeSaturationAssessment env spec tracker telemetry remaining .timeBudget settled
    "time_budget_exhausted"

def timeBudgetReached (fuel : ℕ) (st : ExplorationState) :
    Mission (ExplorationState ⊕ ExplorationRunOutcome) := do
  let telemetry ← port env (.quiesceFrontier .user spec.actionTimeoutS)
  stopExplorer env spec
  let recent := spec.saturationPolicy.consecutiveLowYieldEpochCount st.tracker.snapshot
  if st.finalConfirmationActive = false ∧ recent < spec.saturationPolicy.minimumLowYieldEpochs then
    do
    stopMotionAndWait env spec .user
    recoveryScan env spec
    let _ ← waitForMapQuiet env spec fuel none
    let tracker ← observeSaturationTracker env .afterScan st.tracker
    let now ← monotonic env
    transition env ("time budget reached before consecutive low-yield evidence; " ++
      s!"starting one bounded confirmation epoch observed={recent} " ++
      s!"required={spec.saturationPolicy.minimumLowYieldEpochs}")
    resumeExploration env
    pure (.inl { st with
      tracker := tracker
      finalConfirmationActive := true
      finalConfirmationDeadline := some (now.add spec.finalConfirmationTimeoutS) })
  else do
    let outcome ← assessTimeBudgetSaturation env spec fuel st.tracker telemetry st.remaining
    pure (.inr outcome)

def confirmationEnded (outcome : String) : Mission ExplorationRunOutcome := do
  let _ ← updateEvidence env (·.finishMappingPath)
  if outcome ≠ "recovery_required:frontier_attempts_exhausted" then
    fails (.runtimeError ("final frontier confirmation did not converge: reason=" ++ outcome))
  else do
    stopMotionAndWait env spec .user
    if ← canceled env then
      fails (.automaticMissionCancelled "automatic mission canceled during final confirmation")
    else do
      let snapshot ← snapshot env
      let telemetry := snapshot.frontierTelemetry
      let reason := "frontier_attempts_exhausted_after_final_confirmation"
      let _ ← updateEvidence env (·.setCompletionReason reason)
      transition env ("final frontier confirmation completed " ++
        s!"accepted={telemetry.acceptedGoalCount} terminal={telemetry.terminalCount}")
      pure ⟨reason, none, none⟩

def decisionDetail (r : EpochRecovery) (knownBefore knownAfter : ℕ) : String :=
  "frontier epoch recovery evaluated reason=" ++ r.recoveryReason ++
    s!" known_before={knownBefore} known_after={knownAfter} gain={r.mapGainCells} " ++
    s!"threshold={r.minimumGainCells} gain_ratio=" ++ Text.fixed 6 r.mapGainRatio ++
    " ratio_threshold=" ++ Text.fixed 6 r.minimumGainRatio ++
    s!" detected={r.detectedFrontierCount} available={r.availableFrontierCount} " ++
    s!"active={r.activeGoalCount} blacklisted={r.blacklistedFrontierCount} displacement=" ++
    r.recoveryDisplacementM.elim "none" (Text.fixed 3) ++
    s!" completed_recoveries={r.completedRecoveryEpochs} decision=" ++ r.decision.value

def recoveryBackup (outcome : String) (remaining : ℤ) : Mission (Option Double) :=
  if outcome ∈ relocationRecoveryReasons ∧ 0 < remaining then do
    let backup := spec.recoveryBackup
    let displacement ← port env
      (.runRecoveryBackup backup.distanceM backup.speedMps backup.timeoutS)
    if ← canceled env then
      fails (.automaticMissionCancelled "automatic mission canceled during recovery backup")
    else pure (some displacement)
  else pure none

def stallProbeActive (outcome : String) (remaining : ℤ) (telemetry : FrontierTelemetry) : Bool :=
  outcome = "recovery_required:reachable_frontiers_stalled" ∧ remaining = 0 ∧
    0 < (spec.maxRecoveryAttempts : ℤ) - remaining ∧ telemetry.availableFrontierCount = 0 ∧
    telemetry.activeGoalCount = 0

def beginStallProbe : Mission SaturationEvidenceTracker := do
  let tracker ← ofTracker (tracker.beginFinalProbe .repeatedReachableStall)
  log (.finalProbe .repeatedReachableStall)
  pure tracker

def scanAfterEpoch (fuel : ℕ) (outcome : String) (remaining : ℤ) (stallProbe : Bool)
    (tracker : SaturationEvidenceTracker) :
    Mission (SaturationEvidenceTracker × Option Double × MappingEvidenceSnapshot) := do
  let tracker ← (if stallProbe then beginStallProbe tracker else pure tracker)
  let displacement ← recoveryBackup env spec outcome remaining
  recoveryScan env spec
  let settled ← waitForMapQuiet env spec fuel
    (if stallProbe then some spec.saturationPolicy.requiredMapQuietS else none)
  let tracker ← (if stallProbe then finishProbe env tracker else pure tracker)
  pure (tracker, displacement, settled)

def epochRecovery (st : ExplorationState) (outcome : String) (before : MappingEvidenceSnapshot)
    (displacement : Option Double) (settled : MappingEvidenceSnapshot) : EpochRecovery :=
  let telemetry := before.frontierTelemetry
  let knownBefore := before.stats.knownCells
  let gain := settled.stats.knownCells - knownBefore
  { recoveryReason := outcome
    mapGainCells := gain
    minimumGainCells := spec.minimumEpochMapGainCells
    recoveryAttemptsRemaining := st.remaining
    availableFrontierCount := telemetry.availableFrontierCount
    activeGoalCount := telemetry.activeGoalCount
    blacklistedFrontierCount := telemetry.blacklistedFrontierCount
    detectedFrontierCount := telemetry.detectedFrontierCount
    mapGainRatio := .ofRat (gain / max knownBefore 1)
    minimumGainRatio := spec.minimumEpochMapGainRatio
    completedRecoveryEpochs := spec.maxRecoveryAttempts - st.remaining
    finalConfirmationUsed := st.finalConfirmationActive
    recoveryDisplacementM := displacement
    minimumRecoveryDisplacementM :=
      displacement.map fun _ ↦ spec.recoveryBackup.minimumDisplacementM }

def applyDecision (st : ExplorationState) (r : EpochRecovery) (stallProbe : Bool) (detail : String)
    (telemetry : FrontierTelemetry) (settled : MappingEvidenceSnapshot) :
    Mission (ExplorationState ⊕ ExplorationRunOutcome) :=
  match r.decision with
  | .completeBelowMaterialGain => do
    let reason := "frontier_attempts_exhausted_below_material_gain"
    let _ ← updateEvidence env (·.setCompletionReason reason)
    pure (.inr ⟨reason, none, none⟩)
  | .assessStallSaturation =>
    if stallProbe = false then fails .noFinalProbe
    else do
      let outcome ← finalizeSaturationAssessment env spec st.tracker telemetry st.remaining
        .repeatedReachableStall settled "reachable_frontiers_stalled_bounded_saturation"
      pure (.inr outcome)
  | .runFinalConfirmationEpoch => do
    let now ← monotonic env
    resumeExploration env
    pure (.inl { st with
      finalConfirmationActive := true
      finalConfirmationDeadline := some (now.add spec.finalConfirmationTimeoutS) })
  | .failBelowMaterialGain =>
    fails (.runtimeError ("frontier recovery stayed below material map gain: " ++ detail ++
      s!" available={telemetry.availableFrontierCount} active={telemetry.activeGoalCount} " ++
      s!"blacklisted={telemetry.blacklistedFrontierCount}"))
  | .failBudgetExhausted =>
    fails (.runtimeError
      ("frontier recovery found material map growth but recovery budget is exhausted: " ++ detail))
  | .advanceEpoch | .runStallConfirmationEpoch => do
    resumeExploration env
    pure (.inl { st with remaining := st.remaining - 1 })

def recover (fuel : ℕ) (st : ExplorationState) (outcome : String) :
    Mission (ExplorationState ⊕ ExplorationRunOutcome) := do
  let _ ← updateEvidence env (·.finishMappingPath)
  transition env
    ("sensor-driven exploration recovery reason=" ++ outcome ++ s!" remaining={st.remaining}")
  stopMotionAndWait env spec .user
  if ← canceled env then fails (.automaticMissionCancelled "automatic mission canceled")
  else do
    let before ← snapshot env
    let telemetry := before.frontierTelemetry
    let stallProbe := stallProbeActive spec outcome st.remaining telemetry
    let (tracker, displacement, settled) ←
      scanAfterEpoch env spec fuel outcome st.remaining stallProbe st.tracker
    let r := epochRecovery spec st outcome before displacement settled
    match r.invalid with
    | some message => fails (.valueError message)
    | none => do
      let detail := decisionDetail r before.stats.knownCells settled.stats.knownCells
      transition env detail
      applyDecision env spec { st with tracker := tracker } r stallProbe detail telemetry settled

def exploreFrontier (explorationDeadline : Double) (st : ExplorationState) :
    Mission (ExplorationState × String) := do
  transition env ((if st.finalConfirmationActive then "frontier final confirmation running "
    else "frontier exploration running ") ++ s!"recovery_budget={st.remaining}")
  let tracker ← observeSaturationTracker env .epochStart st.tracker
  let tracker ← ofTracker (tracker.beginEpoch (st.epochId + 1))
  log (.epoch (st.epochId + 1) st.finalConfirmationActive)
  port env (.startExplorer spec.explorerConfigPath)
  let outcome ← handle (port env (.waitForFrontier st.remaining
      (if st.finalConfirmationActive then
        st.finalConfirmationDeadline.getD explorationDeadline
      else explorationDeadline)))
    fun failure ↦ cleanupFailedFrontierEpoch env spec failure true
  let tracker ← observeSaturationTracker env .afterWait tracker
  let tracker ← ofTracker tracker.finishEpoch
  pure ({ st with tracker := tracker, epochId := st.epochId + 1 }, outcome)

def exploreEpoch (fuel : ℕ) (explorationDeadline : Double) (st : ExplorationState) :
    Mission (ExplorationState ⊕ ExplorationRunOutcome) := do
  let (st, outcome) ← exploreFrontier env spec explorationDeadline st
  if outcome = "assessment_required:time_budget" then timeBudgetReached env spec fuel st
  else do
    stopExplorer env spec
    if st.finalConfirmationActive = true ∧ outcome.startsWith "recovery_required:" = true then do
      let ended ← confirmationEnded env spec outcome
      pure (.inr ended)
    else if outcome.startsWith "recovery_required:" = false then do
      let _ ← updateEvidence env (·.setCompletionReason outcome)
      pure (.inr ⟨outcome, none, none⟩)
    else recover env spec fuel st outcome

def exploreWithBoundedRecovery (epochFuel quietFuel : ℕ) : Mission ExplorationRunOutcome := do
  let now ← monotonic env
  iterate (exploreEpoch env spec quietFuel (now.add spec.explorationTimeoutS)) epochFuel
    { remaining := spec.maxRecoveryAttempts }

end UnknownWorldMissionExecutor

end EmbodiedAgent.Slam
