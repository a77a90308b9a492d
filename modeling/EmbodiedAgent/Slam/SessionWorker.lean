import EmbodiedAgent.Library.Program
import EmbodiedAgent.Slam.AuthorityCallback
import EmbodiedAgent.Slam.StageSwitch

namespace EmbodiedAgent.Slam

open Library Library.Program Library.Interleaving SessionOrchestrator

inductive SessionException
  | automaticMissionCancelled (message : String)
  | persistentStageSwitchInterrupted (message : String)
  | raised (message : String)

def SessionException.message : SessionException → String
  | .automaticMissionCancelled message | .persistentStageSwitchInterrupted message
  | .raised message => message

/-- What a stage is stopped for. -/
inductive StopCause
  | replaced | interrupted | cleanup | session
  deriving DecidableEq

inductive ExplorationRound
  | transition (detail : String)
  | finished (reason : String)

/-- The calls of the process manager, of the services and of the ports of a mission. -/
inductive SessionCall
  | feedback
  | startBase | waitPersistentBaseControlReady | requireLiveBase
  | waitPersistentStageExecutorReady | waitForNewReady | waitPersistentVelocityPipelineReady
  | openStage (stage : String) | reapStage | spawnStage (stage mapPath : String)
  | stopExplorer (cause : StopCause) | stopStageProcess (cause : StopCause)
  | stopMapSaver | stopBase
  | saveMap (path : String)
  | stopMotionAndWait | evaluateReturnToStart
  | prepareNavigation (path : String)
  | callControlAuthority (command : ControlAuthorityCommand) (reason : String)
  | waitAcknowledged (identity : QuiescenceIdentity)
  | waitAuthority
  | waitPersistentNavigationReady | waitNavigationReady
  | waitScan | captureMappingStartPose
  | runAgentAction (text expectedAction : String)
  | startExplorer | waitForFrontier | quiesceFrontier | endExplorer
  | explore
  | runMappingReturnGoal | waitForMapQuiet
  | selectMappedNavigationGoals | runNavigationGoal (sequence : ℕ)
  deriving DecidableEq

def SessionCall.Reply : SessionCall → Type
  | .openStage _ => Bool
  | .evaluateReturnToStart => List String
  | .callControlAuthority .. => ControlAuthorityResponse
  | .explore => ExplorationRound
  | .selectMappedNavigationGoals => ℕ
  | _ => Unit

def SessionCall.forRequest : SessionCall → Bool
  | .waitPersistentNavigationReady | .waitNavigationReady | .waitScan | .captureMappingStartPose
  | .runAgentAction .. | .waitForFrontier | .explore | .runMappingReturnGoal | .waitForMapQuiet
  | .selectMappedNavigationGoals | .runNavigationGoal _ => true
  | _ => false

def SessionCall.raises (call : SessionCall) : SessionException → SessionException
  | .automaticMissionCancelled message =>
    if call.forRequest then .automaticMissionCancelled message else .raised message
  | error => .raised error.message

inductive CancelPoint
  | mission | saved | beforeStageSwitch | quiesced | held | stopped | ready | resuming

inductive SessionWork
  | idle | working | settling
  deriving DecidableEq

/-- What the other threads do to the node. -/
inductive OtherEvent
  | message (m : AuthorityMessage)
  | run (i : ℕ)
  | leaseTimer (now : Double)
  | childTimer (owner code : String)
  | barrier (op : AutonomyQuiescenceBarrier.Operation)
  | quiescenceFails (error : String)
  | cancelGoal

inductive SessionEntry
  | port (call : SessionCall) (reply : Except SessionException call.Reply)
  | canceled (point : CancelPoint) (value : Bool)
  | transition (phase : SessionPhase)
  | explored | returned
  | began (command : SessionCommand) (mapSaved : Bool)
  | ended
  | stopFailed (command : Option SessionCommand) (stage : String)
  | recovers (stage : String)
  | failed (work : SessionWork) (outcome : MissionOutcome)
  | quiesces
  | seen (phase : SessionPhase) (outcome : MissionOutcome)

/-- The two executors of automatic missions. -/
inductive MissionProfile
  | sceneRoute (bootstrapRoute : List (String × String × String)) (navigateText patrolText : String)
  | unknownWorld (initialScanText : String) (navigationGoalCount : ℕ)

/-- The world around the worker: before each section others may have run some of theirs. -/
structure SessionEnvironment where
  persistentRuntimeEnabled : Bool
  profile : MissionProfile
  answer : List SessionEntry → (call : SessionCall) → Except SessionException call.Reply
  now : List SessionEntry → Double
  others : List SessionEntry → List OtherEvent

structure SessionWorld where
  node : SessionOrchestrator
  callbacks : List (Callback Unit AuthorityTask) := []
  stage : String := ""
  mapPath : String
  navigationStartupFailurePending : Bool := false
  returnToStartEvidence : Bool := false
  stageReplaced : Bool := false
  work : SessionWork := .idle
  trace : List SessionEntry := []

namespace SessionWorld

variable (w : SessionWorld)

def log (entry : SessionEntry) : SessionWorld := { w with trace := w.trace ++ [entry] }

def seen : SessionWorld := w.log (.seen w.node.fsm.phase w.node.missionOutcome)

def withNode (n : SessionOrchestrator) : SessionWorld := { w with node := n }

def withStage (stage : String) : SessionWorld := { w with stage := stage }

def withWork (work : SessionWork) : SessionWorld := { w with work := work }

def startCallback (tasks : List AuthorityTask) : SessionWorld :=
  { w with callbacks := w.callbacks ++ [⟨(), tasks⟩] }

def canceled : Bool := (w.node.activeRequest.map CommandRequest.canceled).getD false

def command : Option SessionCommand := w.node.activeRequest.map CommandRequest.command

def cancelGoal : SessionWorld := w.withNode { w.node with
  activeRequest := w.node.activeRequest.map fun request ↦ { request with canceled := true } }

def runCallback (i : ℕ) : SessionWorld :=
  let advanced := advance perform w.node w.callbacks i
  let w' := { w with node := advanced.1, callbacks := advanced.2.1 }
  match next w.callbacks i with
  | some (.failTransition _) => w'.log (.failed w.work w'.node.missionOutcome)
  | some (.quiescing _) => w'.log .quiesces
  | _ => w'

def other (persistent : Bool) : OtherEvent → SessionWorld
  | .message m => (w.withNode (w.node.receive m).1).startCallback (w.node.receive m).2
  | .run i => (w.runCallback i).seen
  | .leaseTimer now =>
    (w.withNode (w.node.checkAuthorityLease now).1).startCallback (w.node.checkAuthorityLease now).2
  | .childTimer owner code => w.startCallback (w.node.checkChildProcess persistent owner code)
  | .barrier (.begin _ _) => w
  | .barrier op => w.withNode (w.node.withBarrier (w.node.autonomyQuiescence.step op).1)
  | .quiescenceFails error => w.startCallback (failAutonomyQuiescence error)
  | .cancelGoal => w.cancelGoal

end SessionWorld

abbrev Session := Program SessionWorld SessionException

namespace SessionWorker

variable (env : SessionEnvironment)

def interfere : Session Unit := modify fun w ↦
  (env.others w.trace).foldl (fun w e ↦ w.other env.persistentRuntimeEnabled e) w

def write (f : SessionWorld → SessionWorld) : Session Unit := do
  interfere env
  modify fun w ↦ (f w).seen

def look {α : Type} (f : SessionWorld → α) : Session α := do
  interfere env
  let w ← get
  pure (f w)

def port (call : SessionCall) : Session call.Reply := do
  interfere env
  invoke (fun w : SessionWorld ↦ (env.answer w.trace call).mapError call.raises) id
    fun reply w ↦ w.log (.port call reply)

def transition (phase : SessionPhase) (detail : String) (mapSaved : Option Bool := none)
    (mapYamlPath : Option String := none) : Session Unit :=
  write env fun w ↦
    (w.withNode (w.node.transition phase detail mapSaved mapYamlPath)).log (.transition phase)

def canceled (point : CancelPoint) : Session Bool := do
  let value ← look env (·.canceled)
  modify fun w ↦ w.log (.canceled point value)
  pure value

def cancelIf (point : CancelPoint) (message : String) : Session Unit := do
  if ← canceled env point then raise (.automaticMissionCancelled message) else pure ()

def setRequest (f : CommandRequest → CommandRequest) : Session Unit :=
  write env fun w ↦ w.withNode { w.node with activeRequest := w.node.activeRequest.map f }

def setMessage (message : String) : Session Unit :=
  setRequest env fun request ↦ { request with message := message }

def setOutcome (outcome : MissionOutcome) (message : String) : Session Unit :=
  write env fun w ↦ w.withNode { w.node with missionOutcome := outcome, missionMessage := message }

def quiescenceFailed : Session Bool := do
  interfere env
  let w ← get
  let barrier := w.node.autonomyQuiescence.refreshReady
  modify fun w ↦ w.withNode (w.node.withBarrier barrier)
  pure (decide (barrier.state = .failed))

def feedback : Session Unit := port env .feedback

/-- `start` of the manager. -/
def startStage (stage : String) : Session Unit := do
  let exited : Bool ← port env (.openStage stage)
  if exited = true then do
    port env .reapStage
    write env (·.withStage "")
  let mapPath ← look env (·.mapPath)
  port env (.spawnStage stage mapPath)
  write env (·.withStage stage)

def stopStage (cause : StopCause) : Session Unit := do
  port env (.stopExplorer cause)
  write env (·.withStage "")
  port env (.stopStageProcess cause)

def shutdown : Session Unit := do
  port env .stopMapSaver
  stopStage env .session
  port env .stopBase

def prepareNavigation (path : String) : Session Unit := do
  port env (.prepareNavigation path)
  write env fun w ↦ { w with mapPath := path }

end SessionWorker

end EmbodiedAgent.Slam
