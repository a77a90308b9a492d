import EmbodiedAgent.Library.History
import EmbodiedAgent.Slam.ShowcaseSession

namespace EmbodiedAgent.Slam

open Library Library.History

structure SystemReadiness where
  stage : ℕ
  profile : String
  ready : Bool
  deriving DecidableEq

inductive StartStep
  | transition (phase : SessionPhase)
  | feedback
  | startBase | waitPersistentBaseControlReady
  | enterInternalStageSwitchHold | raiseIfCanceled | stopStage | prepareNavigation
  | armReadinessProfile (profile : String)
  | readinessGeneration
  | startStage
  | waitPersistentStageExecutorReady
  | waitForNewReady
  | waitPersistentVelocityPipelineReady | waitPersistentNavigationReady
  | resumeInternalStageSwitch
  deriving DecidableEq

inductive ReadinessOutput
  | received (message : SystemReadiness)
  | tookGeneration
  | newReady
  | raised
  deriving DecidableEq

/-- What the worker and the readiness callback do, one lock section or call each. -/
inductive ReadinessEvent
  | startMapping
  | startNavigation
  | proceed (now : Double) (raises : Bool)
  | onReadiness (message : SystemReadiness)

structure StageReadiness where
  dryRun : Bool
  persistentRuntimeEnabled : Bool
  authorityGateEnabled : Bool
  startupTimeoutS : Double
  readyGeneration : ℕ := 0
  latestReady : Bool := false
  expectedReadinessProfile : String := ""
  started : ℕ := 0
  steps : List StartStep := []
  generation : Option ℕ := none
  /-- The variable `deadline` of the wait. -/
  deadline : Option Double := none

namespace StageReadiness

def create (dryRun persistentRuntimeEnabled authorityGateEnabled : Bool)
    (startupTimeoutS : Double) : StageReadiness :=
  { dryRun, persistentRuntimeEnabled, authorityGateEnabled, startupTimeoutS }

variable (s : StageReadiness)

/-- The step that assigns `generation`. -/
def takeGeneration (profile : String) : StartStep :=
  if s.persistentRuntimeEnabled then .armReadinessProfile profile else .readinessGeneration

def only (condition : Bool) (steps : List StartStep) : List StartStep :=
  if condition then steps else []

def startMapping : List StartStep :=
  [s.takeGeneration "persistent_mapping_stage", .transition .startingMapping] ++
  only s.persistentRuntimeEnabled [.startBase, .waitPersistentBaseControlReady] ++
  [.startStage] ++
  only s.persistentRuntimeEnabled [.waitPersistentStageExecutorReady] ++
  [.waitForNewReady] ++
  only s.persistentRuntimeEnabled [.waitPersistentVelocityPipelineReady] ++
  [.transition .mapping]

def authorityTransaction : Bool := s.persistentRuntimeEnabled && s.authorityGateEnabled

def startNavigation : List StartStep :=
  [.transition .switchingToNavigation, .feedback] ++
  only s.authorityTransaction [.enterInternalStageSwitchHold, .raiseIfCanceled] ++
  [.stopStage, .raiseIfCanceled] ++
  only s.persistentRuntimeEnabled [.prepareNavigation] ++
  [s.takeGeneration "persistent_navigation_stage", .transition .startingNavigation, .feedback,
    .startStage] ++
  only s.persistentRuntimeEnabled [.waitPersistentStageExecutorReady] ++
  [.waitForNewReady, .raiseIfCanceled] ++
  only s.persistentRuntimeEnabled [.waitPersistentNavigationReady] ++
  only s.authorityTransaction [.raiseIfCanceled, .resumeInternalStageSwitch]

def begin (steps : List StartStep) : StageReadiness :=
  if s.steps = [] then { s with steps, generation := none, deadline := none } else s

def Expects (message : SystemReadiness) : Prop :=
  s.expectedReadinessProfile = "" ∨ message.profile = s.expectedReadinessProfile

instance (message : SystemReadiness) : Decidable (s.Expects message) :=
  inferInstanceAs (Decidable (_ ∨ _))

def onReadiness (message : SystemReadiness) : StageReadiness × List ReadinessOutput :=
  if s.started < message.stage then (s, [])
  else if s.Expects message then
    ({ s with readyGeneration := s.readyGeneration + 1, latestReady := message.ready },
      [.received message])
  else (s, [.received message])

def abort : StageReadiness × List ReadinessOutput :=
  ({ s with steps := [], generation := none, deadline := none }, [.raised])

def waitForNewReady (generation : ℕ) (now : Double) (rest : List StartStep) :
    StageReadiness × List ReadinessOutput :=
  let returned := { s with steps := rest, generation := none, deadline := none }
  if s.dryRun then (returned, [.newReady])
  else
    match s.deadline with
    | none => ({ s with deadline := some (now.add s.startupTimeoutS) }, [])
    | some deadline =>
      if now < deadline then
        if generation < s.readyGeneration ∧ s.latestReady then (returned, [.newReady])
        else (s, [])
      else s.abort

def proceed (now : Double) (raises : Bool) : StageReadiness × List ReadinessOutput :=
  match s.steps with
  | [] => (s, [])
  | .armReadinessProfile profile :: rest =>
    ({ s with
        steps := rest
        expectedReadinessProfile := profile
        latestReady := false
        generation := some s.readyGeneration }, [.tookGeneration])
  | .readinessGeneration :: rest =>
    ({ s with steps := rest, generation := some s.readyGeneration }, [.tookGeneration])
  | .waitForNewReady :: rest =>
    match s.generation with
    | none => (s, [])
    | some generation => s.waitForNewReady generation now rest
  | .startStage :: rest =>
    -- A start that fails may have started the stage.
    let launched := { s with started := s.started + 1 }
    if raises then launched.abort else ({ launched with steps := rest }, [])
  | _ :: rest => if raises then s.abort else ({ s with steps := rest }, [])

def step (s : StageReadiness) : ReadinessEvent → StageReadiness × List ReadinessOutput
  | .startMapping => (s.begin s.startMapping, [])
  | .startNavigation => (s.begin s.startNavigation, [])
  | .proceed now raises => s.proceed now raises
  | .onReadiness message => s.onReadiness message

end StageReadiness

end EmbodiedAgent.Slam
