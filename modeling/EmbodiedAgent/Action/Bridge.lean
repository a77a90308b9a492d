import EmbodiedAgent.Action.Scheduler
import EmbodiedAgent.Library.Interleaving
import EmbodiedAgent.Library.SteadyClock

namespace EmbodiedAgent

open Library Library.Interleaving

structure Goal where
  handle : ℕ
  commandId : String
  deriving DecidableEq

structure TypedActionBridge where
  cancelTimeoutS : Double
  scheduler : ActionScheduler
  activeGoalId : String := ""
  activeGoalHandle : Option Goal := none
  cancelPendingId : String := ""
  cancelRequestedAt : Int64 := 0
  goalsSent : ℕ := 0
  awaitingResponse : List Goal := []
  awaitingResult : List Goal := []

/-- The body of a callback, cut at its mutexes, its waits and its calls of the client. -/
inductive BridgeTask
  | enqueue (command : RobotCommand)
  | completeActive (commandId : String) (success : Bool) (status : UInt8) (message : String)
  | dispatchGoal (command : RobotCommand)
  | bindGoal (command : RobotCommand)
  | sendGoal (command : RobotCommand)
  | requestCancel (commandId : String)
  | publishResult (commandId : String) (success : Bool) (status : UInt8) (message : String)
  | recordInputRejection (commandId message : String)
  | acceptGoal (goal : Goal)
  | awaitResult (goal : Goal)
  | clearGoalState (commandId : String) (success : Bool) (status : UInt8) (message : String)
  | cancelWatchdog

inductive BridgeOutput
  | goalSent (goal : Goal) (command : RobotCommand)
  | goalCanceled (goal : Goal)
  | result (commandId : String) (success : Bool) (status : UInt8) (message : String)

structure TaskReading where
  serverReady : Bool := true
  now : Int64 := 0

namespace TypedActionBridge

def create (maxPendingCommands : ℤ) (clearQueueOnFailure : Bool) (cancelTimeoutS : Double) :
    TypedActionBridge :=
  { cancelTimeoutS := cancelTimeoutS
    scheduler := .create (max 1 maxPendingCommands).toNat clearQueueOnFailure }

def processEvent : SchedulerEvent → BridgeTask
  | .dispatch command => .dispatchGoal command
  | .cancelActive commandId => .requestCancel commandId
  | .result commandId success status message => .publishResult commandId success status message
  | .rejectedInput commandId message => .recordInputRejection commandId message

def processEvents (events : List SchedulerEvent) : List BridgeTask := events.map processEvent

variable (b : TypedActionBridge)

variable (command : RobotCommand)

def onCommand : TypedActionBridge × List BridgeTask :=
  let (scheduler, events) := b.scheduler.enqueue command
  ({ b with scheduler := scheduler }, processEvents events)

def completeActive (commandId : String) (success : Bool) (status : UInt8) (message : String) :
    TypedActionBridge × List BridgeTask :=
  let (scheduler, events) := b.scheduler.complete commandId success status message
  ({ b with scheduler := scheduler }, processEvents events)

def dispatchGoal (serverReady : Bool) : List BridgeTask :=
  if !serverReady then
    [.completeActive command.commandId false RobotCommandResult.statusRejected
      "action_server_unavailable"]
  else [.bindGoal command, .sendGoal command]

def bindGoal : TypedActionBridge :=
  { b with activeGoalId := command.commandId, activeGoalHandle := none }

def sendGoal : TypedActionBridge × List BridgeOutput :=
  let goal : Goal := ⟨b.goalsSent, command.commandId⟩
  ({ b with
      goalsSent := b.goalsSent + 1
      awaitingResponse := b.awaitingResponse ++ [goal] }, [.goalSent goal command])

def requestCancel (commandId : String) (now : Int64) : TypedActionBridge × List BridgeOutput :=
  let b := { b with cancelPendingId := commandId, cancelRequestedAt := now }
  (b, if b.activeGoalId = commandId then b.activeGoalHandle.toList.map .goalCanceled else [])

def acceptGoal (goal : Goal) : TypedActionBridge × List BridgeOutput :=
  if b.activeGoalId ≠ goal.commandId then (b, [.goalCanceled goal])
  else
    let b := { b with activeGoalHandle := some goal }
    (b, if b.cancelPendingId = goal.commandId then [.goalCanceled goal] else [])

def clearGoalState (commandId : String) : TypedActionBridge :=
  let b :=
    if b.activeGoalId = commandId then { b with activeGoalId := "", activeGoalHandle := none }
    else b
  if b.cancelPendingId = commandId then { b with cancelPendingId := "" } else b

def cancelTimedOut (now : Int64) : Bool :=
  b.cancelPendingId ≠ "" &&
    !decide (durationSeconds (now - b.cancelRequestedAt) <
      Double.max (.ofRat (1 / 10)) b.cancelTimeoutS)

def onCancelWatchdog (now : Int64) : TypedActionBridge × List BridgeTask :=
  if !b.cancelTimedOut now then (b, [])
  else
    ({ b with cancelPendingId := "", activeGoalId := "", activeGoalHandle := none },
      [.completeActive b.cancelPendingId false RobotCommandResult.statusTimedOut
        "cancel_result_timeout"])

def perform (reading : TaskReading) :
    BridgeTask → TypedActionBridge × List BridgeTask × List BridgeOutput
  | .enqueue command =>
    let (b, tasks) := b.onCommand command
    (b, tasks, [])
  | .completeActive commandId success status message =>
    let (b, tasks) := b.completeActive commandId success status message
    (b, tasks, [])
  | .dispatchGoal command => (b, dispatchGoal command reading.serverReady, [])
  | .bindGoal command => (b.bindGoal command, [], [])
  | .sendGoal command =>
    let (b, outputs) := b.sendGoal command
    (b, [], outputs)
  | .requestCancel commandId =>
    let (b, outputs) := b.requestCancel commandId reading.now
    (b, [], outputs)
  | .publishResult commandId success status message =>
    (b, [], [.result commandId success status message])
  | .recordInputRejection _ _ => (b, [], [])
  | .acceptGoal goal =>
    let (b, outputs) := b.acceptGoal goal
    (b, [], outputs)
  | .awaitResult goal => ({ b with awaitingResult := b.awaitingResult ++ [goal] }, [], [])
  | .clearGoalState commandId success status message =>
    (b.clearGoalState commandId, [.completeActive commandId success status message], [])
  | .cancelWatchdog =>
    let (b, tasks) := b.onCancelWatchdog reading.now
    (b, tasks, [])

end TypedActionBridge

inductive CallbackGroup
  | command | action
  deriving DecidableEq

structure GoalResult where
  success : Bool
  status : UInt8
  message : String

inductive BridgeCallback
  | onCommand (command : RobotCommand)
  | goalResponse (goal : Goal) (accepted : Bool)
  | result (goal : Goal) (wrapped : Option GoalResult)
  | onCancelWatchdog

namespace BridgeCallback

def group : BridgeCallback → CallbackGroup
  | .onCommand _ => .command
  | .goalResponse .. | .result .. | .onCancelWatchdog => .action

def tasks : BridgeCallback → List BridgeTask
  | .onCommand command => [.enqueue command]
  | .goalResponse goal true => [.acceptGoal goal, .awaitResult goal]
  | .goalResponse goal false =>
    [.clearGoalState goal.commandId false RobotCommandResult.statusRejected "goal_rejected"]
  | .result goal none =>
    [.clearGoalState goal.commandId false RobotCommandResult.statusRejected
      "missing_action_result"]
  | .result goal (some wrapped) =>
    [.clearGoalState goal.commandId wrapped.success wrapped.status wrapped.message]
  | .onCancelWatchdog => [.cancelWatchdog]

def due (b : TypedActionBridge) : BridgeCallback → Bool
  | .onCommand _ | .onCancelWatchdog => true
  | .goalResponse goal _ => goal ∈ b.awaitingResponse
  | .result goal _ => goal ∈ b.awaitingResult

def taken (b : TypedActionBridge) : BridgeCallback → TypedActionBridge
  | .onCommand _ | .onCancelWatchdog => b
  | .goalResponse goal _ => { b with awaitingResponse := b.awaitingResponse.erase goal }
  | .result goal _ => { b with awaitingResult := b.awaitingResult.erase goal }

end BridgeCallback

/-- The node under its executor. -/
structure BridgeExecutor where
  node : TypedActionBridge
  callbacks : List (Callback CallbackGroup BridgeTask) := []

inductive BridgeEvent
  | start (callback : BridgeCallback)
  | advance (i : ℕ) (reading : TaskReading)

namespace BridgeExecutor

def threads : ℕ := 3

def ready (x : BridgeExecutor) (callback : BridgeCallback) : Bool :=
  x.callbacks.length < threads && callback.due x.node &&
    !(decide (callback.group = .command) && x.callbacks.any fun c ↦ decide (c.group = .command))

def step (x : BridgeExecutor) : BridgeEvent → BridgeExecutor × List BridgeOutput
  | .start callback =>
    if x.ready callback then
      ({ node := callback.taken x.node
         callbacks := x.callbacks ++ [⟨callback.group, callback.tasks⟩] }, [])
    else (x, [])
  | .advance i reading =>
    let (node, callbacks, outputs) :=
      advance (fun b ↦ b.perform reading) x.node x.callbacks i
    ({ node := node, callbacks := callbacks }, outputs)

end BridgeExecutor

end EmbodiedAgent
