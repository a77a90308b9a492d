import EmbodiedAgent.Library.History
import EmbodiedAgent.Simulation.CommandBehaviorTree
import EmbodiedAgent.Simulation.Controller

namespace EmbodiedAgent.Simulation

open Library Library.History

structure ExecuteRobotCommandResult where
  success : Bool
  status : UInt8
  message : String

def statusBlocked : UInt8 := 5

def phaseAccepted : UInt8 := 1
def phaseExecuting : UInt8 := 2
def phaseStopping : UInt8 := 3

/-- A goal that the action server has accepted, named by their order. -/
structure GoalHandle where
  id : ℕ
  command : RobotCommand

/-- What the node calls and publishes. -/
inductive NodeOutput
  | succeed (goal : ℕ) (result : ExecuteRobotCommandResult)
  | abort (goal : ℕ) (result : ExecuteRobotCommandResult)
  | canceled (goal : ℕ) (result : ExecuteRobotCommandResult)
  | feedback (goal : ℕ) (phase : UInt8) (progress : Double) (detail : String)
  | actionAck (action status detail : String)
  | btStatus (result : CommandTreeResult) (commandId : String)
  | mode (name : String)
  | requestStop
  | velocity (command : VelocityCommand)

def NodeOutput.terminal : NodeOutput → Option ℕ
  | .succeed goal _ | .abort goal _ | .canceled goal _ => some goal
  | _ => none

/-- What the executor answers to the calls of one callback. -/
structure ExecutorReading where
  quiesced : Bool
  executes : Bool
  stop : StopExecutionUpdate
  externalUpdate : Option ActionExecutionUpdate
  externalDetail : String
  publishesCmdVel : Bool
  modeName : String
  output : ControllerOutput

structure SimulationControlNode where
  actionTimeoutS : Double
  isActive : Bool := false
  behaviorTree : Option CommandBehaviorTree
  activeGoal : Option GoalHandle := none
  actionRuntime : ActiveActionRuntime := {}
  accepted : ℕ := 0
  canceling : List ℕ := []
  log : List NodeOutput := []

namespace SimulationControlNode

variable (n : SimulationControlNode)

variable (sequence : ReactiveSequence)

def emit (outputs : List NodeOutput) : SimulationControlNode := { n with log := n.log ++ outputs }

def publishBtStatus (result : CommandTreeResult) : SimulationControlNode :=
  n.emit [.btStatus result ((n.activeGoal.map (·.command.commandId)).getD "")]

def isStop (command : RobotCommand) : Bool :=
  command.actionType = RobotCommand.stop ∨ command.actionType = RobotCommand.cancelNavigation

def handleGoal (command : RobotCommand) (reading : ExecutorReading) : Bool :=
  if !n.isActive then false
  else if !isExecutableRobotCommand command ∧ n.behaviorTree.isNone then false
  else if !isStop command ∧ !reading.quiesced then false
  else true

variable (goal : GoalHandle)

def finishImmediateAction (success : Bool) (message : String) :
    SimulationControlNode :=
  if success then
    n.emit [.succeed goal.id ⟨true, RobotCommandResult.statusSucceeded, message⟩]
  else n.emit [.abort goal.id ⟨false, RobotCommandResult.statusRejected, message⟩]

def clearPendingLongAction : SimulationControlNode :=
  { n with activeGoal := none, actionRuntime := {} }

def publishActionFeedback (phase : UInt8) (progress : Double) (detail : String) :
    SimulationControlNode :=
  match n.activeGoal with
  | none => n
  | some goal => n.emit [.feedback goal.id phase progress detail]

def terminalCall (state : ActionExecutionState) (message : String) :
    NodeOutput :=
  match state with
  | .succeeded => .succeed goal.id ⟨true, RobotCommandResult.statusSucceeded, message⟩
  | .canceled =>
    if goal.id ∈ n.canceling then
      .canceled goal.id ⟨false, RobotCommandResult.statusCanceled, message⟩
    else .abort goal.id ⟨false, RobotCommandResult.statusCanceled, message⟩
  | .timedOut => .abort goal.id ⟨false, RobotCommandResult.statusTimedOut, message⟩
  | .running | .blocked => .abort goal.id ⟨false, statusBlocked, message⟩

def finishActiveAction (state : ActionExecutionState) (message : String) : SimulationControlNode :=
  match n.activeGoal with
  | none => n
  | some goal =>
    (n.emit [.requestStop, n.terminalCall goal state message,
      .actionAck n.actionRuntime.actionName message ""]).clearPendingLongAction

def cancelTree (reason : String) : SimulationControlNode :=
  match n.behaviorTree with
  | none => n
  | some tree =>
    if n.actionRuntime.active then
      { n with behaviorTree := some (tree.cancel reason).1 }.publishBtStatus (tree.cancel reason).2
    else n

def preempt (reason : String) : SimulationControlNode :=
  if n.activeGoal.isSome then (n.cancelTree reason).finishActiveAction .canceled reason else n

def startTree (detail : String) :
    SimulationControlNode × Option CommandTreeResult :=
  match n.behaviorTree with
  | none => (n, none)
  | some _ =>
    let (tree, initial) :=
      (CommandBehaviorTree.start goal.command).tick sequence false .running detail
    ({ n with behaviorTree := some tree }.publishBtStatus initial, some initial)

def setActive : SimulationControlNode := { n with activeGoal := some goal }

def startRuntime (actionName : String) (durationS nowS : Double) (usesExternalResult : Bool) :
    SimulationControlNode :=
  { n with actionRuntime :=
      .start actionName durationS n.actionTimeoutS nowS usesExternalResult }

def startStopAction (actionName : String)
    (nowS : Double) (reading : ExecutorReading) : SimulationControlNode :=
  let n := n.emit (.requestStop :: if reading.publishesCmdVel then [.velocity {}] else [])
  if reading.stop.succeeded then
    (n.finishImmediateAction goal true reading.stop.detail).emit
      [.actionAck actionName "accepted" reading.stop.detail]
  else if reading.stop.terminal then
    (n.finishImmediateAction goal false reading.stop.detail).emit
      [.actionAck actionName "rejected" reading.stop.detail]
  else
    let n := ((n.setActive goal).startTree sequence goal reading.stop.detail).1
    let n := n.startRuntime actionName (n.actionTimeoutS.add (.ofRat 1)) nowS true
    (n.publishActionFeedback phaseStopping 0 reading.stop.detail).emit
      [.actionAck actionName "accepted" ("stopping;" ++ reading.stop.detail)]

def setMode (reading : ExecutorReading) : SimulationControlNode × Bool :=
  if !reading.executes then (n, false) else (n.emit [.mode reading.modeName], true)

def startImmediate (reading : ExecutorReading) (action done : String) :
    SimulationControlNode :=
  (n.finishImmediateAction goal reading.executes
    (if reading.executes then done else "executor_rejected")).emit
      [.actionAck action (if reading.executes then "accepted" else "rejected") ""]

def longAction (command : RobotCommand) (reading : ExecutorReading) : Option (String × String) :=
  let refusal :=
    if reading.externalDetail = "" then "executor_rejected" else reading.externalDetail
  if command.actionType = RobotCommand.move then some ("move", "executor_rejected")
  else if command.actionType = RobotCommand.turn then some ("turn", "executor_rejected")
  else if command.actionType = RobotCommand.navigateTo then some ("navigate_to", refusal)
  else if command.actionType = RobotCommand.followWaypoints then some ("follow_waypoints", refusal)
  else none

def startLongAction (nowS : Double) (reading : ExecutorReading) :
    SimulationControlNode :=
  match longAction goal.command reading with
  | none => (n.finishImmediateAction goal false "invalid_command").clearPendingLongAction
  | some (actionName, refusal) =>
    if !reading.executes then (n.finishImmediateAction goal false refusal).clearPendingLongAction
    else
      let usesExternalResult :=
        (actionName = "navigate_to" ∨ actionName = "follow_waypoints") ∧
          reading.externalUpdate.isSome
      let executionDurationS :=
        if usesExternalResult then n.actionTimeoutS.add (.ofRat 1) else goal.command.durationS
      let n := (n.setActive goal).startRuntime actionName executionDurationS nowS usesExternalResult
      (n.publishActionFeedback phaseAccepted 0 "accepted").emit
        [.actionAck actionName "accepted" ""]

def startChecked (nowS : Double)
    (reading : ExecutorReading) : SimulationControlNode :=
  if n.behaviorTree.isSome then
    let (n, initial) := (n.setActive goal).startTree sequence goal "accepted"
    match initial with
    | none => n.startLongAction goal nowS reading
    | some initial =>
      if initial.outcome = .rejected then
        ((n.finishImmediateAction goal false initial.detail).emit
          [.actionAck "unknown" "rejected" initial.detail]).clearPendingLongAction
      else n.startLongAction goal nowS reading
  else n.startLongAction goal nowS reading

def handleAccepted (nowS : Double)
    (reading : ExecutorReading) : SimulationControlNode :=
  let n := n.preempt "preempted_by_new_goal"
  if goal.command.actionType = RobotCommand.stop then
    n.startStopAction sequence goal "stop" nowS reading
  else if goal.command.actionType = RobotCommand.cancelNavigation then
    n.startStopAction sequence goal "cancel_navigation" nowS reading
  else if goal.command.actionType = RobotCommand.setMode then
    let (n, accepted) := n.setMode reading
    (n.finishImmediateAction goal accepted
      (if accepted then "mode_changed" else "unsupported_mode")).emit
        [.actionAck "set_mode" (if accepted then "accepted" else "rejected") ""]
  else if goal.command.actionType = RobotCommand.wave then
    n.startImmediate goal reading "wave" "wave_acknowledged"
  else if goal.command.actionType = RobotCommand.setLed then
    n.startImmediate goal reading "set_led" "led_acknowledged"
  else n.startChecked sequence goal nowS reading

def stopping : Bool :=
  n.actionRuntime.actionName = "stop" ∨ n.actionRuntime.actionName = "cancel_navigation"

def activeActionInput (nowS : Double) (reading : ExecutorReading) :
    ActiveActionInput :=
  let input : ActiveActionInput :=
    { nowS := nowS
      cancelRequested := goal.id ∈ n.canceling
      safetyStopped := reading.output.safetyStopped
      safetyReason := reading.output.reason }
  if !n.actionRuntime.usesExternalResult then input
  else if n.stopping then
    { input with
      externalUpdate := some (stopAsActionUpdate reading.stop)
      externalDetail := reading.stop.detail }
  else
    { input with
      externalUpdate := reading.externalUpdate
      externalDetail := reading.externalDetail }

def publishDecision (decision : ActiveActionDecision) : SimulationControlNode × Bool :=
  let n := (decision.treeResult.map n.publishBtStatus).getD n
  if !decision.terminal then
    (n.publishActionFeedback (if n.stopping then phaseStopping else phaseExecuting)
      decision.progress decision.detail, false)
  else (n.finishActiveAction decision.state decision.detail, true)

def updateActiveAction (nowS : Double) (reading : ExecutorReading) : SimulationControlNode × Bool :=
  match n.activeGoal with
  | none => (n, false)
  | some goal =>
    if !n.actionRuntime.active then (n, false)
    else
      let (tree, decision) :=
        n.actionRuntime.update sequence n.behaviorTree (n.activeActionInput goal nowS reading)
      { n with behaviorTree := tree }.publishDecision decision

def shouldPublishExecutorCmdVel (pluginPublishesCmdVel actionWasActive actionStoppedThisTick : Bool)
    (executorMode : String) : Bool :=
  pluginPublishesCmdVel &&
    (actionWasActive || actionStoppedThisTick || decide (executorMode ≠ "manual"))

def controlTick (nowS : Double) (reading : ExecutorReading) : SimulationControlNode :=
  let actionWasActive := n.activeGoal.isSome
  let (n, actionStopped) := n.updateActiveAction sequence nowS reading
  if shouldPublishExecutorCmdVel reading.publishesCmdVel actionWasActive actionStopped
      reading.modeName then
    n.emit [.velocity (if actionStopped then {} else reading.output.velocity)]
  else n

def handleCancel (goal : ℕ) : SimulationControlNode :=
  if n.activeGoal.any (·.id = goal) then { n with canceling := goal :: n.canceling } else n

def onEmergencyStop (reading : ExecutorReading) : SimulationControlNode :=
  if !n.isActive then n
  else
    n.emit (.requestStop :: (if reading.publishesCmdVel then [.velocity {}] else []) ++
      [.mode reading.modeName, .actionAck "stop" "accepted"
        ("emergency_stop;" ++ reading.stop.detail)])

def onModeRequest (reading : ExecutorReading) : SimulationControlNode :=
  if !n.isActive then n else (n.setMode reading).1

def onDeactivate : SimulationControlNode :=
  { (n.preempt "deactivated").emit [.requestStop, .velocity {}] with isActive := false }

/-- One callback of the node; all but the diagnostics run one at a time. -/
inductive Event
  | goal (command : RobotCommand) (nowS : Double) (reading : ExecutorReading)
  | cancel (goal : ℕ)
  | tick (nowS : Double) (reading : ExecutorReading)
  | emergencyStop (reading : ExecutorReading)
  | modeRequest (reading : ExecutorReading)
  | activate
  | deactivate

/-- The timer runs while the node is active. -/
def step (n : SimulationControlNode) :
    Event → SimulationControlNode × Unit
  | .goal command nowS reading =>
    if n.handleGoal command reading then
      ({ n with accepted := n.accepted + 1 }.handleAccepted sequence ⟨n.accepted, command⟩ nowS
        reading, ())
    else (n, ())
  | .cancel goal => (n.handleCancel goal, ())
  | .tick nowS reading => (if n.isActive then n.controlTick sequence nowS reading else n, ())
  | .emergencyStop reading => (n.onEmergencyStop reading, ())
  | .modeRequest reading => (n.onModeRequest reading, ())
  | .activate => ({ n with isActive := true }, ())
  | .deactivate => (n.onDeactivate, ())

def configured (actionTimeoutS : Double) (useBehaviorTree : Bool) : SimulationControlNode :=
  { actionTimeoutS := actionTimeoutS
    behaviorTree := if useBehaviorTree then some {} else none }

def after (actionTimeoutS : Double) (useBehaviorTree : Bool)
    (h : List Event) : SimulationControlNode :=
  run (step sequence) (configured actionTimeoutS useBehaviorTree) h

end SimulationControlNode

end EmbodiedAgent.Simulation
