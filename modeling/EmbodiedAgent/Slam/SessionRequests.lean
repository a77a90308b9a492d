import EmbodiedAgent.Slam.SessionWorker

namespace EmbodiedAgent.Slam.SessionWorker

open Library Library.Program SessionOrchestrator

variable (env : SessionEnvironment)

def enterInternalStageSwitchHold : Session QuiescenceIdentity := do
  interfere env
  let w ← get
  match w.node.openStageSwitch (env.now w.trace) with
  | .error message => raise (.raised message)
  | .ok (node, intent) => do
    modify (·.withNode node)
    let response : ControlAuthorityResponse ←
      port env (.callControlAuthority .enterHold intent.reason)
    match identityOf response.state with
    | .error error => raise (.raised (exceptionText error))
    | .ok identity =>
      if holdIsExact intent response = false then
        raise (.raised ("internal stage switch HOLD rejected or stale: " ++ response.message))
      else do
        interfere env
        let w ← get
        match w.node.bindStageSwitch intent identity with
        | .error message => raise (.raised message)
        | .ok node => do
          modify (·.withNode node)
          port env (.waitAcknowledged identity)
          cancelIf env .quiesced
            "external control authority changed during stage quiescence"
          pure identity

def resumeRound (identity : QuiescenceIdentity) : Unit → Session (Unit ⊕ ℤ × String) := fun _ ↦ do
  match ← look env (·.node.viewResume identity) with
  | .ready holdSequence reason => pure (.inr (holdSequence, reason))
  | .changed => raise (.raised "control authority changed during internal stage switch")
  | .waiting => do
    port env .waitAuthority
    pure (.inl ())

def resumedRound (identity : QuiescenceIdentity) (resumedSequence : ℤ) :
    Unit → Session (Unit ⊕ Unit) := fun _ ↦ do
  match ← look env (·.node.viewResumed identity resumedSequence) with
  | .visible => pure (.inr ())
  | .superseded =>
    raise (.raised "control authority was superseded before RESUME became visible")
  | .waiting => do
    port env .waitAuthority
    pure (.inl ())

def resumeInternalStageSwitch (fuel : ℕ) (identity : QuiescenceIdentity) : Session Unit := do
  let (holdSequence, reason) ← iterate (resumeRound env identity) fuel ()
  let response : ControlAuthorityResponse ← port env (.callControlAuthority .resumeAutonomy reason)
  if resumeIsExact identity holdSequence reason response = false then
    raise (.raised ("internal stage switch RESUME rejected or stale: " ++ response.message))
  else iterate (resumedRound env identity response.state.transitionSequence) fuel ()

def startMapping : Session Unit := do
  transition env .startingMapping "starting mapping stage"
  if env.persistentRuntimeEnabled = true then do
    port env .startBase
    port env .waitPersistentBaseControlReady
    port env .requireLiveBase
    startStage env "mapping"
    port env .waitPersistentStageExecutorReady
  else startStage env "mapping"
  port env .waitForNewReady
  if env.persistentRuntimeEnabled = true then port env .waitPersistentVelocityPipelineReady
  transition env .mapping "mapping ready; explore by voice"

def checkReturnToStart : Session Unit := do
  if ← look env (·.returnToStartEvidence) then do
    port env .stopMotionAndWait
    let failed : List String ← port env .evaluateReturnToStart
    if failed ≠ [] then
      raise (.raised ("return-to-start evidence invalid after map save and before navigation: " ++
        String.intercalate "," failed))
    else pure ()
  else pure ()

def saveMap : Session Unit := do
  if ← look env (·.node.fsm.mapSaved) then setMessage env "map already saved"
  else do
    transition env .savingMap "saving /map"
    feedback env
    let yamlPath ← look env (·.mapPath)
    handle (port env (.saveMap yamlPath)) fun error ↦ do
      transition env .mapping ("map save failed: " ++ error.message) (some false) (some "")
      raise error
    checkReturnToStart env
    transition env .mapSaved "map saved; ready to start navigation" (some true) (some yamlPath)
    feedback env

def setPending (value : Bool) : Session Unit :=
  write env fun w ↦ { w with navigationStartupFailurePending := value }

def cleanupFailedNavigationStartup : Session Unit := do
  setPending env true
  handle (stopStage env .cleanup) fun _ ↦ pure ()

def authorityTransaction (w : SessionWorld) : Bool :=
  env.persistentRuntimeEnabled && w.node.authorityGateEnabled

def holdStage : Session (Option QuiescenceIdentity) := do
  if ← look env (authorityTransaction env) then do
    let identity ← enterInternalStageSwitchHold env
    cancelIf env .held "control authority changed during stage switch"
    pure (some identity)
  else pure none

def replaceStage (mapYamlPath : String) : Session Unit := do
  write env fun w ↦ { w with stageReplaced := env.persistentRuntimeEnabled }
  stopStage env .replaced
  cancelIf env .stopped "control authority changed after mapping stopped"
  if env.persistentRuntimeEnabled = true then prepareNavigation env mapYamlPath
  transition env .startingNavigation "starting saved-map AMCL/Nav2 stage"
  feedback env
  startStage env "navigation"
  if env.persistentRuntimeEnabled = true then port env .waitPersistentStageExecutorReady
  port env .waitForNewReady
  cancelIf env .ready "control authority changed before navigation readiness"
  if env.persistentRuntimeEnabled = true then port env .waitPersistentNavigationReady

def switchStage (fuel : ℕ) (mapYamlPath : String) : Session Unit := do
  let switchIdentity ← holdStage env
  replaceStage env mapYamlPath
  match switchIdentity with
  | none => pure ()
  | some identity => do
    cancelIf env .resuming "control authority changed before navigation resume"
    resumeInternalStageSwitch env fuel identity

def interruptSwitch : Session Unit := do
  handle (stopStage env .interrupted) fun error ↦ do
    let w ← get
    modify (·.log (.stopFailed w.command w.stage))
    raise error
  setPending env true
  raise (.persistentStageSwitchInterrupted ("control authority changed after mapping stage " ++
    "was replaced; persistent session remains safely stopped"))

def cleanupSwitch (replaced : Bool) (error : SessionException) : Session Unit := do
  if ← look env (authorityTransaction env) then
    if ← quiescenceFailed env then setPending env true
  if env.persistentRuntimeEnabled = false ∨ replaced = true then
    cleanupFailedNavigationStartup env
  raise error

def switchFailed (error : SessionException) : Session Unit := do
  let replaced ← look env (·.stageReplaced)
  match error with
  | .automaticMissionCancelled _ =>
    if replaced = true then interruptSwitch env else raise error
  | _ => cleanupSwitch env replaced error

def mapYamlPath : Session String := do
  if env.persistentRuntimeEnabled = true then do
    let path ← look env (·.node.fsm.mapYamlPath)
    if path = "" then raise (.raised "persistent navigation requires a saved map path")
    else pure path
  else pure ""

def startNavigation (fuel : ℕ) : Session Unit := do
  if (← look env (·.node.fsm.phase)) = .navigating then
    setMessage env "navigation already active"
  else do
    transition env .switchingToNavigation "stopping mapping stage"
    feedback env
    let mapYamlPath ← mapYamlPath env
    write env fun w ↦ { w with stageReplaced := false }
    ensure (handle (switchStage env fuel mapYamlPath) (switchFailed env)) (do
      if ← look env (authorityTransaction env) then
        write env fun w ↦ w.withNode w.node.clearStageSwitch)
    transition env .navigating "navigation ready; semantic goals accepted"
    feedback env

def waitNavigationReady : Session Unit :=
  handle (port env .waitNavigationReady) fun error ↦
    match error with
    | .automaticMissionCancelled _ => raise error
    | _ => do
      cleanupFailedNavigationStartup env
      raise error

def markExplored : Session Unit := modify (·.log .explored)

def markReturned : Session Unit := modify (·.log .returned)

def exploreRound : Unit → Session (Unit ⊕ String) := fun _ ↦ do
  let round : ExplorationRound ← port env .explore
  match round with
  | .transition detail => do
    transition env .automaticMapping detail
    pure (.inl ())
  | .finished reason => pure (.inr reason)

def exploreWithBoundedRecovery (fuel : ℕ) : Session String := do
  let reason ← iterate (exploreRound env) fuel ()
  markExplored
  pure reason

def navigateSavedMap (fuel : ℕ) : Session Unit := do
  saveMap env
  cancelIf env .saved "automatic mission canceled"
  startNavigation env fuel
  waitNavigationReady env

def bootstrapStep (title : String) (step : String × String × String) : Session Unit := do
  cancelIf env .mission "automatic mission canceled"
  transition env .automaticMapping (title ++ step.1)
  port env (.runAgentAction step.2.1 step.2.2)
  feedback env

def bootstrap (size : ℕ) : List (String × String × String) → Session Unit
  | [] => pure ()
  | step :: route => do
    bootstrapStep env s!"bootstrap {size - route.length}/{size}: " step
    bootstrap size route

def exploreFrontiers : Session Unit := do
  port env .startExplorer
  ensure (handle (port env .waitForFrontier) fun error ↦ do
    handle (port env .quiesceFrontier) fun _ ↦ pure ()
    raise error) (port env .endExplorer)
  markExplored

def mapSceneRoute (route : List (String × String × String)) : Session Unit := do
  transition env .automaticMapping "automatic mapping bootstrap running"
  feedback env
  port env .waitScan
  bootstrap env route.length route
  transition env .automaticMapping "frontier exploration running"
  exploreFrontiers env
  transition env .mapping "frontier exploration complete"
  feedback env

def patrolScene (navigateText patrolText : String) : Session Unit := do
  transition env .automaticNavigating "automatic semantic navigation running"
  feedback env
  port env (.runAgentAction navigateText "navigate_to")
  feedback env
  port env (.runAgentAction patrolText "follow_waypoints")
  transition env .missionCompleted "automatic mapping and navigation mission completed"
  feedback env

def runSceneRoute (fuel : ℕ) (route : List (String × String × String))
    (navigateText patrolText : String) : Session Unit := do
  mapSceneRoute env route
  navigateSavedMap env fuel
  patrolScene env navigateText patrolText

def navigateGoals (count : ℕ) : ℕ → Session Unit
  | 0 => pure ()
  | left + 1 => do
    cancelIf env .mission "automatic mission canceled"
    port env (.runNavigationGoal (count - left))
    feedback env
    navigateGoals count left

def returnToStart : Session Unit := do
  transition env .automaticMapping "returning to dynamically captured mapping start pose"
  port env .runMappingReturnGoal
  port env .waitForMapQuiet
  markReturned
  write env fun w ↦ { w with returnToStartEvidence := true }

def mapUnknownWorld (fuel : ℕ) (initialScanText : String) : Session Unit := do
  transition env .automaticMapping "unknown-world sensor initialization"
  feedback env
  port env .waitScan
  port env .captureMappingStartPose
  port env (.runAgentAction initialScanText "turn")
  let outcome ← exploreWithBoundedRecovery env fuel
  transition env .mapping ("unknown-world exploration complete reason=" ++ outcome)
  feedback env
  returnToStart env

def visitGoals (goalCount : ℕ) : Session Unit := do
  let goals : ℕ ← port env .selectMappedNavigationGoals
  if goals ≠ goalCount then
    raise (.raised "mapped goal sampler returned an unexpected goal count")
  else do
    transition env .automaticNavigating s!"navigating {goals} dynamically sampled goals"
    navigateGoals env goals goals
    transition env .missionCompleted
      s!"unknown-world mapping and navigation completed sampled_goals={goals}"
    feedback env

def runUnknownWorld (fuel : ℕ) (initialScanText : String) (goalCount : ℕ) : Session Unit := do
  mapUnknownWorld env fuel initialScanText
  navigateSavedMap env fuel
  visitGoals env goalCount

def runMission (fuel : ℕ) : Session Unit :=
  match env.profile with
  | .sceneRoute route navigateText patrolText => runSceneRoute env fuel route navigateText
      patrolText
  | .unknownWorld initialScanText goalCount => runUnknownWorld env fuel initialScanText goalCount

variable (command : SessionCommand)

def stopSession : Session Unit := do
  transition env .stopping "stopping session"
  if env.persistentRuntimeEnabled = true then shutdown env else stopStage env .session
  transition env .stopped "session stopped"

def runSteps (fuel : ℕ) (command : SessionCommand) : Session Unit := do
  if command = .saveMap ∨ command = .saveAndStartNavigation then saveMap env
  if ← canceled env .beforeStageSwitch then setMessage env "canceled before stage switch"
  else do
    if command = .startNavigation ∨ command = .saveAndStartNavigation then startNavigation env fuel
    if command = .stopSession then stopSession env
    setRequest env fun request ↦ { request with
      success := true
      message := if request.message = "" then "session command completed" else request.message }

/-- The part of `_execute_request` that is tried. -/
def runCommand (fuel : ℕ) (command : SessionCommand) : Session Unit := do
  if command = .runAutomaticMission then do
    setOutcome env .running "automatic mission running"
    write env fun w ↦ { w with returnToStartEvidence := false }
    runMission env fuel
  runSteps env fuel command

def failSession (detail : String) : Session Unit := do
  if command = .runAutomaticMission then setOutcome env .failed detail
  if (← look env (·.node.fsm.phase)) ≠ .failed then transition env .failed detail

/-- `_fail_autonomy_quiescence`, called by the worker itself. -/
def failQuiescence (error : String) : Session Unit := do
  let reason := "autonomy quiescence failed: " ++ error
  write env fun w ↦ w.withNode (w.node.withBarrier (w.node.autonomyQuiescence.fail reason).1)
  setOutcome env .failed reason
  write env fun w ↦ (w.withNode (w.node.transition .failed reason)).log
    (.failed w.work w.node.missionOutcome)

def settleRevocation (revocation : ℤ × ℤ) : Session Unit := do
  match QuiescenceIdentity.create revocation.1 revocation.2 with
  | .error error => raise (.raised (exceptionText error))
  | .ok identity => do
    transition env .quiescing
      "automatic mission canceled; waiting for control authority quiescence ACK"
    modify (·.withWork .settling)
    handle (port env (.waitAcknowledged identity)) fun error ↦ do
      if (← quiescenceFailed env) = true then pure () else failQuiescence env error.message

def recoveryPhase (stage : String) : SessionPhase :=
  if stage = "navigation" then .navigating else .mapping

def missionQuiescenceFailed : Session Unit := do
  let reason ← look env (·.node.autonomyQuiescence.refreshReady.failureReason)
  if reason ≠ "" then setMessage env reason
  let message ← look env fun w ↦ (w.node.activeRequest.map CommandRequest.message).getD ""
  setOutcome env .failed message
  transition env .failed message

def recover (message : String) : Session Unit := do
  let stage ← look env (·.stage)
  modify (·.log (.recovers stage))
  transition env (recoveryPhase stage) message

def settleRequest : Session Bool := do
  let revocation ← look env fun w ↦
    w.node.activeRequest.bind CommandRequest.authorityRevocationIdentity
  if command = .runAutomaticMission then
    match revocation with
    | some revocation => settleRevocation env revocation
    | none => modify (·.withWork .settling)
  let failed ← quiescenceFailed env
  modify (·.withWork .working)
  pure failed

def canceledRequest (message : String) : Session Unit := do
  setMessage env message
  let runtimeFailure ← look env (·.node.childRuntimeFailure)
  if runtimeFailure ≠ "" then do
    setMessage env runtimeFailure
    failSession env command runtimeFailure
  else do
    let failed ← settleRequest env command
    if command = .runAutomaticMission ∧ failed = true then missionQuiescenceFailed env
    else do
      if command = .runAutomaticMission then setOutcome env .canceled message
      recover env message

def failedRequest (message : String) : Session Unit := do
  setMessage env message
  if command = .runAutomaticMission then do
    setOutcome env .failed message
    if ← look env (·.navigationStartupFailurePending) then
      transition env .failed ("automatic mission failed: " ++ message)
    else recover env ("automatic mission failed: " ++ message)
  else if (← look env (·.node.fsm.phase)) ≠ .mapping then
    transition env .failed ("session failed: " ++ message)

def requestRaised : SessionException → Session Unit
  | .automaticMissionCancelled message => canceledRequest env command message
  | error => failedRequest env command error.message

def endRequest : Session Unit := do
  modify (·.withWork .idle)
  setPending env false
  write env fun w ↦ w.withNode { w.node with activeRequest := none }
  write env fun w ↦ (w.withNode { w.node with operationActive := false }).log .ended

def admitRequest (request : CommandRequest) : Session Bool := do
  interfere env
  let w ← get
  let begun := w.node.beginRequest request (env.now w.trace)
  if begun.2.2 = true then do
    modify fun w ↦ ((w.withNode begun.1).withWork .working).log
      (.began request.command w.node.fsm.mapSaved)
    pure true
  else pure false

def executeRequest (fuel : ℕ) (request : CommandRequest) : Session Unit := do
  if ← admitRequest env request then do
    setPending env false
    ensure (handle (runCommand env fuel request.command) (requestRaised env request.command))
      (endRequest env)

def executeRequests (fuel : ℕ) : List CommandRequest → Session Unit
  | [] => interfere env
  | request :: requests => do
    executeRequest env fuel request
    executeRequests fuel requests

def failMappingStartup (error : SessionException) : Session Unit := do
  let detail := "mapping startup failed: " ++ error.message
  write env fun w ↦ w.withNode { w.node with stopping := true }
  setOutcome env .failed detail
  transition env .failed detail
  handle (if env.persistentRuntimeEnabled = true then shutdown env else stopStage env .session)
    fun _ ↦ pure ()

/-- The worker, for the requests that it is going to take off its queue. -/
def workerLoop (fuel : ℕ) (requests : List CommandRequest) : Session Unit := do
  modify (·.withWork .working)
  let started ← attempt (startMapping env)
  match started with
  | .error error => failMappingStartup env error
  | .ok () => do
    modify (·.withWork .idle)
    executeRequests env fuel requests

end EmbodiedAgent.Slam.SessionWorker
