import EmbodiedAgent.Action.Command
import EmbodiedAgent.Library.Interleaving

namespace EmbodiedAgent.Simulation

open Library Library.Interleaving

inductive StopExecutionState
  | stopping | quiesced | failed | timedOut
  deriving DecidableEq

structure StopExecutionUpdate where
  state : StopExecutionState := .quiesced
  detail : String := "executor_quiesced"

namespace StopExecutionUpdate

def terminal (u : StopExecutionUpdate) : Bool := u.state ≠ .stopping

def succeeded (u : StopExecutionUpdate) : Bool := u.state = .quiesced

end StopExecutionUpdate

inductive Nav2Action
  | navigateToPose | followWaypoints
  deriving DecidableEq

/-- A goal, named by the generation that it is sent under. -/
structure Nav2Goal where
  action : Nav2Action
  generation : ℕ
  deriving DecidableEq

/-- What the action protocol has come to for a goal. -/
inductive GoalPhase
  | unsent | bound | sent | accepted | known | awaitingResult | rejected | settled
  deriving DecidableEq

/-- The members that the executor keeps for one of its clients. -/
structure GoalChannel where
  handle : Option Nav2Goal := none
  pending : Bool := false
  generation : ℕ := 0

/-- The executor, with the client's view of the goals and the cancels requested. -/
structure Nav2RobotExecutor where
  stopTimeout : ℤ
  places : List String
  navigate : GoalChannel := {}
  follow : GoalChannel := {}
  stopRequested : Bool := false
  stopState : StopExecutionState := .quiesced
  stopDeadline : ℤ := 0
  stopDetail : String := "nav2:idle"
  phase : Nav2Goal → GoalPhase := fun _ ↦ .unsent
  cancelRequests : List Nav2Goal := []

/-- The bodies of the calls and callbacks, cut at mutexes, waits and calls of the client. -/
inductive Nav2Task
  | execute (command : RobotCommand)
  | bindGoal (action : Nav2Action)
  | sendGoal (goal : Nav2Goal)
  | awaitResponse (goal : Nav2Goal)
  | clearPending (goal : Nav2Goal)
  | requestStop (requestedAt : ℤ)
  | requestCancel (goal : Nav2Goal) (generation : ℕ)
  | cancelFailed (action : Nav2Action) (generation : ℕ) (error : String)
  | cancelStale (goal : Nav2Goal)
  | goalResponse (goal : Nav2Goal) (accepted : Bool)
  | makeResultAware (goal : Nav2Goal)
  | pollStop (now : ℤ)
  | isQuiesced
  | done (value : Bool)
  deriving DecidableEq

inductive Nav2Output
  | goalSent (goal : Nav2Goal)
  | cancelRequested (goal : Nav2Goal)
  | polled (update : StopExecutionUpdate)
  | quiesced (value : Bool)
  | returned (value : Bool)

/-- What a task finds outside: the action server, the clock, and the client's refusal. -/
structure Nav2Reading where
  serverReady : Bool := true
  now : ℤ := 0
  cancelError : Option String := none

namespace Nav2RobotExecutor

variable (e : Nav2RobotExecutor)

variable (goal : Nav2Goal)

def channel : Nav2Action → GoalChannel
  | .navigateToPose => e.navigate
  | .followWaypoints => e.follow

def withChannel (c : GoalChannel) : Nav2Action → Nav2RobotExecutor
  | .navigateToPose => { e with navigate := c }
  | .followWaypoints => { e with follow := c }

def withPhase (phase : GoalPhase) : Nav2RobotExecutor :=
  { e with phase := fun g ↦ if g = goal then phase else e.phase g }

def hasUnsettledGoal : Bool :=
  e.navigate.pending || e.follow.pending || e.navigate.handle.isSome || e.follow.handle.isSome

def markQuiesced (detail : String) : Nav2RobotExecutor :=
  { e with stopRequested := false, stopState := .quiesced, stopDetail := detail }

def withStopState (state : StopExecutionState) (detail : String) : Nav2RobotExecutor :=
  { e with stopState := state, stopDetail := detail }

variable (action : Nav2Action)

def sendTasks (targets : List String) (serverReady : Bool) : List Nav2Task :=
  if !serverReady then [.done false]
  else if targets.all (· ∈ e.places) then [.bindGoal action]
  else [.done false]

def execute (command : RobotCommand) (reading : Nav2Reading) : List Nav2Task :=
  if command.actionType = RobotCommand.navigateTo then
    e.sendTasks .navigateToPose [command.target] reading.serverReady
  else if command.actionType = RobotCommand.followWaypoints then
    e.sendTasks .followWaypoints command.waypoints reading.serverReady
  else if command.actionType = RobotCommand.cancelNavigation ∨
      command.actionType = RobotCommand.stop then [.requestStop reading.now, .done true]
  else [.done false]

def bound : Nav2RobotExecutor :=
  { (e.withChannel { handle := none, pending := true, generation := goal.generation }
      goal.action).withPhase goal .bound with
    stopRequested := false
    stopState := .quiesced
    stopDetail := "nav2:goal_active" }

def bindGoal : Nav2RobotExecutor × List Nav2Task :=
  if e.hasUnsettledGoal then (e, [.done false])
  else
    let goal : Nav2Goal := ⟨action, (e.channel action).generation + 1⟩
    (e.bound goal, [.sendGoal goal, .awaitResponse goal])

def awaitResponse (now : ℤ) : List Nav2Task :=
  match e.phase goal with
  | .unsent | .bound | .sent => [.requestStop now, .done false]
  | .rejected => [.clearPending goal, .done false]
  | .accepted | .known | .awaitingResult | .settled => [.done true]

def clearPending : Nav2RobotExecutor :=
  let c := e.channel goal.action
  if goal.generation = c.generation then e.withChannel { c with pending := false } goal.action
  else e

def cancelHeld : List Nav2Task :=
  (e.channel action).handle.toList.map fun goal ↦ .requestCancel goal (e.channel action).generation

def requestStop (requestedAt : ℤ) : Nav2RobotExecutor × List Nav2Task :=
  if e.stopState = .stopping ∨
      (e.stopState = .failed ∨ e.stopState = .timedOut) ∧ e.hasUnsettledGoal = true then (e, [])
  else
    let e := { e with stopRequested := true, stopDeadline := requestedAt + e.stopTimeout }
    if !e.hasUnsettledGoal then (e.markQuiesced "nav2:stop:no_active_goal", [])
    else
      (e.withStopState .stopping "nav2:stop:waiting_terminal",
        e.cancelHeld .navigateToPose ++ e.cancelHeld .followWaypoints)

def requestCancel (generation : ℕ) (cancelError : Option String) :
    Nav2RobotExecutor × List Nav2Task :=
  ({ e with cancelRequests := e.cancelRequests ++ [goal] },
    cancelError.toList.map fun error ↦ .cancelFailed goal.action generation error)

def cancelFailed (generation : ℕ) (error : String) : Nav2RobotExecutor :=
  if generation = (e.channel action).generation ∧ e.stopRequested = true then
    e.withStopState .failed ("nav2:stop:cancel_request_failed error=" ++ error)
  else e

def cancelResponse (generation : ℕ) (accepted : Bool) : Nav2RobotExecutor :=
  if generation ≠ (e.channel action).generation ∨ e.stopRequested = false ∨
      e.stopState ≠ .stopping then e
  else if !accepted then e.withStopState .failed "nav2:stop:cancel_request_rejected"
  else e

def responded (accepted : Bool) : Nav2RobotExecutor :=
  let c := e.channel goal.action
  let e := if accepted then e.withPhase goal .known else e
  if goal.generation ≠ c.generation then e
  else
    e.withChannel { c with
      handle := if accepted then some goal else none
      pending := false } goal.action

def goalResponse (accepted : Bool) : Nav2RobotExecutor × List Nav2Task :=
  let e' := e.responded goal accepted
  if goal.generation ≠ (e.channel goal.action).generation then
    (e', if accepted then [.cancelStale goal] else [])
  else if accepted then
    (e', if e.stopRequested then [.requestCancel goal goal.generation] else [])
  else if e.stopRequested && !e'.hasUnsettledGoal then
    (e'.markQuiesced "nav2:stop:goal_rejected_before_execution", [])
  else (e', [])

def released : Nav2RobotExecutor :=
  let c := e.channel goal.action
  let e := e.withPhase goal .settled
  if goal.generation ≠ c.generation then e
  else e.withChannel { c with handle := none, pending := false } goal.action

def result (detail : String) : Nav2RobotExecutor :=
  let e' := e.released goal
  if goal.generation = (e.channel goal.action).generation ∧ e.stopRequested = true ∧
      e'.hasUnsettledGoal = false then e'.markQuiesced ("nav2:stop:terminal " ++ detail)
  else e'

def pollStop (now : ℤ) : Nav2RobotExecutor × StopExecutionUpdate :=
  let e :=
    if e.stopState = .stopping ∧ now ≥ e.stopDeadline then
      e.withStopState .timedOut "nav2:stop:terminal_timeout"
    else e
  (e, ⟨e.stopState, e.stopDetail⟩)

def isQuiesced : Bool := !e.hasUnsettledGoal && decide (e.stopState = .quiesced)

def perform (reading : Nav2Reading) :
    Nav2Task → Nav2RobotExecutor × List Nav2Task × List Nav2Output
  | .execute command => (e, e.execute command reading, [])
  | .bindGoal action => ((e.bindGoal action).1, (e.bindGoal action).2, [])
  | .sendGoal goal => (e.withPhase goal .sent, [], [.goalSent goal])
  | .awaitResponse goal => (e, e.awaitResponse goal reading.now, [])
  | .clearPending goal => (e.clearPending goal, [], [])
  | .requestStop requestedAt => ((e.requestStop requestedAt).1, (e.requestStop requestedAt).2, [])
  | .requestCancel goal generation =>
    ((e.requestCancel goal generation reading.cancelError).1,
      (e.requestCancel goal generation reading.cancelError).2, [.cancelRequested goal])
  | .cancelFailed action generation error => (e.cancelFailed action generation error, [], [])
  | .cancelStale goal =>
    ({ e with cancelRequests := e.cancelRequests ++ [goal] }, [], [.cancelRequested goal])
  | .goalResponse goal accepted =>
    ((e.goalResponse goal accepted).1, (e.goalResponse goal accepted).2, [])
  | .makeResultAware goal => (e.withPhase goal .awaitingResult, [], [])
  | .pollStop now => ((e.pollStop now).1, [], [.polled (e.pollStop now).2])
  | .isQuiesced => (e, [], [.quiesced e.isQuiesced])
  | .done value => (e, [], [.returned value])

end Nav2RobotExecutor

/-- What a thread outside calls. -/
inductive Nav2Call
  | execute (command : RobotCommand)
  | requestStop (requestedAt : ℤ)
  | pollStop (now : ℤ)
  | isQuiesced

def Nav2Call.task : Nav2Call → Nav2Task
  | .execute command => .execute command
  | .requestStop requestedAt => .requestStop requestedAt
  | .pollStop now => .pollStop now
  | .isQuiesced => .isQuiesced

/-- The executor, the calls under way, and what the one thread that spins its node is at. -/
structure Nav2Threads where
  executor : Nav2RobotExecutor
  callers : List (Callback Unit Nav2Task) := []
  spin : List Nav2Task := []

/-- Calls start and proceed at any time; the thread that spins takes up what has come. -/
inductive Nav2Event
  | call (call : Nav2Call)
  | advance (i : ℕ) (reading : Nav2Reading)
  | respond (goal : Nav2Goal) (accepted : Bool)
  | result (goal : Nav2Goal) (detail : String)
  | cancelResponse (action : Nav2Action) (generation : ℕ) (accepted : Bool)
  | spin (reading : Nav2Reading)

namespace Nav2Threads

variable (x : Nav2Threads)

def respond (goal : Nav2Goal) (accepted : Bool) : Nav2Threads :=
  if accepted then
    { x with
      executor := x.executor.withPhase goal .accepted
      spin := [.goalResponse goal true, .makeResultAware goal] }
  else
    { x with
      executor := x.executor.withPhase goal .rejected
      spin := [.goalResponse goal false] }

def step : Nav2Event → Nav2Threads × List Nav2Output
  | .call call => ({ x with callers := x.callers ++ [⟨(), [call.task]⟩] }, [])
  | .advance i reading =>
    let (executor, callers, outputs) :=
      advance (fun e ↦ e.perform reading) x.executor x.callers i
    ({ x with executor := executor, callers := callers }, outputs)
  | .respond goal accepted =>
    if x.spin = [] ∧ x.executor.phase goal = .sent then (x.respond goal accepted, []) else (x, [])
  | .result goal detail =>
    if x.spin = [] ∧ x.executor.phase goal = .awaitingResult then
      ({ x with executor := x.executor.result goal detail }, [])
    else (x, [])
  | .cancelResponse action generation accepted =>
    if x.spin = [] then
      ({ x with executor := x.executor.cancelResponse action generation accepted }, [])
    else (x, [])
  | .spin reading =>
    match x.spin with
    | [] => (x, [])
    | task :: rest =>
      let (executor, called, outputs) := x.executor.perform reading task
      ({ x with executor := executor, spin := called ++ rest }, outputs)

end Nav2Threads

end EmbodiedAgent.Simulation
