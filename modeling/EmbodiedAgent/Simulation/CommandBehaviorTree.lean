import EmbodiedAgent.Simulation.Nav2RobotExecutor

namespace EmbodiedAgent.Simulation

open Library

def validDuration (durationS : Double) : Bool :=
  durationS.isFinite && decide (0 ≤ durationS) && decide (durationS ≤ .ofRat 10.0)

def isExecutableRobotCommand (command : RobotCommand) : Bool :=
  if command.actionType = RobotCommand.stop ∨
      command.actionType = RobotCommand.cancelNavigation then true
  else if command.actionType = RobotCommand.setMode then
    decide (command.mode ∈ ["manual", "obstacle_avoidance", "wall_following"])
  else if command.actionType = RobotCommand.wave then
    decide (1 ≤ command.count) && decide (command.count ≤ 5)
  else if command.actionType = RobotCommand.setLed then
    decide (command.color ∈ ["off", "red", "green", "blue", "yellow", "white"])
  else if command.actionType = RobotCommand.move then
    command.linearX.isFinite && command.angularZ.isFinite && validDuration command.durationS
  else if command.actionType = RobotCommand.turn then
    command.angularZ.isFinite && validDuration command.durationS
  else if command.actionType = RobotCommand.navigateTo then
    decide (command.target ≠ "") && validDuration command.durationS
  else if command.actionType = RobotCommand.followWaypoints then
    decide (command.waypoints ≠ []) && decide (1 ≤ command.numberOfLoops) &&
      decide (command.numberOfLoops ≤ 3) && validDuration command.durationS
  else false

inductive ActionExecutionState
  | running | succeeded | canceled | blocked | timedOut
  deriving DecidableEq

structure ActionExecutionUpdate where
  state : ActionExecutionState := .running
  progress : Double := 0

def stopAsActionUpdate (update : StopExecutionUpdate) : ActionExecutionUpdate :=
  match update.state with
  | .stopping => ⟨.running, 0⟩
  | .quiesced => ⟨.succeeded, .ofRat 1⟩
  | .timedOut => ⟨.timedOut, .ofRat 1⟩
  | .failed => ⟨.blocked, .ofRat 1⟩

structure ActionExecution where
  durationS : Double
  timeoutS : Double
  startedAtS : Double

namespace ActionExecution

def create (durationS timeoutS startedAtS : Double) : ActionExecution :=
  ⟨Double.max 0 durationS, Double.max 0 timeoutS, startedAtS⟩

variable (e : ActionExecution)

def elapsed (nowS : Double) : Double := Double.max 0 (nowS.sub e.startedAtS)

def progress (nowS : Double) : Double :=
  if e.durationS ≤ 0 then .ofRat 1
  else clamp ((e.elapsed nowS).div e.durationS) 0 (.ofRat 1)

def update (nowS : Double) (cancelRequested blocked : Bool) : ActionExecutionUpdate :=
  if cancelRequested then ⟨.canceled, e.progress nowS⟩
  else if blocked then ⟨.blocked, e.progress nowS⟩
  else if e.timeoutS ≤ e.elapsed nowS ∧ e.timeoutS < e.durationS then ⟨.timedOut, e.progress nowS⟩
  else if e.durationS ≤ e.elapsed nowS then ⟨.succeeded, .ofRat 1⟩
  else ⟨.running, e.progress nowS⟩

end ActionExecution

inductive CommandTreeOutcome
  | running | succeeded | rejected | canceled | timedOut | blocked | failed
  deriving DecidableEq

structure CommandTreeResult where
  outcome : CommandTreeOutcome := .running
  stage : String := "idle"
  detail : String := ""

structure Blackboard where
  command : RobotCommand
  safetyBlocked : Bool := false
  executionState : ActionExecutionState := .running
  outcome : CommandTreeOutcome := .running
  stage : String := "validate"
  detail : String := ""

inductive NodeStatus
  | success | failure | running
  deriving DecidableEq

abbrev TreeNode := Blackboard → NodeStatus × Blackboard

/-- The reactive sequence of the library: its children, until one does not succeed. -/
structure ReactiveSequence where
  tick : List TreeNode → TreeNode
  tick_nil : ∀ b, tick [] b = (.success, b)
  tick_cons : ∀ child rest b, tick (child :: rest) b =
    if (child b).1 = .success then tick rest (child b).2 else child b

def validateCommand : TreeNode := fun b ↦
  if !isExecutableRobotCommand b.command then
    (.failure, { b with outcome := .rejected, stage := "validate", detail := "invalid_command" })
  else (.success, b)

def checkSafety : TreeNode := fun b ↦
  if b.safetyBlocked then (.failure, { b with outcome := .blocked, stage := "safety" })
  else (.success, b)

def executeCommand : TreeNode := fun b ↦
  let b := { b with stage := "execute" }
  match b.executionState with
  | .running => (.running, { b with outcome := .running })
  | .succeeded => (.success, b)
  | .canceled => (.failure, { b with outcome := .canceled })
  | .timedOut => (.failure, { b with outcome := .timedOut })
  | .blocked => (.failure, { b with outcome := .blocked })

def confirmResult : TreeNode := fun b ↦
  let b := { b with stage := "confirm" }
  if b.executionState ≠ .succeeded then (.failure, { b with outcome := .failed })
  else (.success, { b with outcome := .succeeded })

structure CommandBehaviorTree where
  blackboard : Option Blackboard := none

namespace CommandBehaviorTree

def start (command : RobotCommand) : CommandBehaviorTree := ⟨some { command := command }⟩

def tick (sequence : ReactiveSequence) (tree : CommandBehaviorTree) (safetyBlocked : Bool)
    (executionState : ActionExecutionState) (detail : String) :
    CommandBehaviorTree × CommandTreeResult :=
  match tree.blackboard with
  | none => (tree, ⟨.failed, "idle", "tree_not_started"⟩)
  | some b =>
    let (status, b) := sequence.tick [validateCommand, checkSafety, executeCommand, confirmResult]
      { b with safetyBlocked := safetyBlocked, executionState := executionState, detail := detail }
    let outcome := if status = .failure ∧ b.outcome = .running then .failed else b.outcome
    (⟨some b⟩, ⟨outcome, b.stage, b.detail⟩)

def cancel (tree : CommandBehaviorTree) (detail : String) :
    CommandBehaviorTree × CommandTreeResult :=
  (⟨tree.blackboard.map fun b ↦
    { b with outcome := .canceled, stage := "execute", detail := detail }⟩,
    ⟨.canceled, "execute", detail⟩)

end CommandBehaviorTree

structure ActiveActionInput where
  nowS : Double := 0
  cancelRequested : Bool := false
  safetyStopped : Bool := false
  safetyReason : String := ""
  externalUpdate : Option ActionExecutionUpdate := none
  externalDetail : String := ""

structure ActiveActionDecision where
  state : ActionExecutionState := .running
  progress : Double := 0
  detail : String := ""
  treeResult : Option CommandTreeResult := none

def ActiveActionDecision.terminal (decision : ActiveActionDecision) : Bool :=
  decision.state ≠ .running

structure ActiveActionRuntime where
  execution : Option ActionExecution := none
  actionName : String := ""
  usesExternalResult : Bool := false

namespace ActiveActionRuntime

def start (actionName : String) (durationS timeoutS startedAtS : Double)
    (usesExternalResult : Bool) : ActiveActionRuntime :=
  ⟨some (.create durationS timeoutS startedAtS), actionName, usesExternalResult⟩

def active (runtime : ActiveActionRuntime) : Bool := runtime.execution.isSome

def treeState : CommandTreeOutcome → ActionExecutionState
  | .succeeded => .succeeded
  | .canceled => .canceled
  | .timedOut => .timedOut
  | .running => .running
  | .rejected | .blocked | .failed => .blocked

def effective (runtime : ActiveActionRuntime) (timed : ActionExecutionUpdate)
    (input : ActiveActionInput) : ActionExecutionUpdate :=
  match input.externalUpdate with
  | some update =>
    if runtime.usesExternalResult ∧ timed.state = .running then
      { update with progress := Double.max update.progress timed.progress }
    else timed
  | none => timed

def decisionDetail (timed effective : ActionExecutionUpdate) (input : ActiveActionInput) : String :=
  if timed.state = .timedOut then "timed_out"
  else if input.externalDetail ≠ "" then input.externalDetail
  else if effective.state = .succeeded then "succeeded"
  else if effective.state = .canceled then "canceled"
  else input.safetyReason

def update (sequence : ReactiveSequence) (runtime : ActiveActionRuntime)
    (tree : Option CommandBehaviorTree) (input : ActiveActionInput) :
    Option CommandBehaviorTree × ActiveActionDecision :=
  match runtime.execution with
  | none => (tree, ⟨.blocked, 0, "action_runtime_not_started", none⟩)
  | some execution =>
    let timed := execution.update input.nowS input.cancelRequested input.safetyStopped
    let effective := runtime.effective timed input
    let detail := decisionDetail timed effective input
    match tree with
    | none => (none, ⟨effective.state, effective.progress, detail, none⟩)
    | some tree =>
      let (tree, result) := tree.tick sequence input.safetyStopped effective.state detail
      if result.outcome = .running then
        (some tree, ⟨.running, effective.progress, result.stage ++ ":" ++ detail, some result⟩)
      else (some tree, ⟨treeState result.outcome, effective.progress, result.detail, some result⟩)

end ActiveActionRuntime

end EmbodiedAgent.Simulation
