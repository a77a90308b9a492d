import EmbodiedAgent.Agent.ActionSequence
import EmbodiedAgent.Agent.Execution

namespace EmbodiedAgent.Agent.AgentLifecycle

open Library ActionSequence Execution

inductive LifecyclePc
  | inactive
  | activating
  | active
  | cancellingEndpoint
  | cancellingSequence
  | clearingQueue
  | publishingSession
  | publishingStop
  | stoppingInput
  | stoppingExecution (inputQuiesced : Bool)
  | listingThreads (inputQuiesced : Bool)
  | joiningThreads (inputQuiesced : Bool)
  | ended (quiesced : Bool)

inductive TranscriptDirective
  | priority (reason : String) (action : String)
  | command
  | other

inductive CallbackPc
  | idle
  | accepting
  | clearing (reason : String) (action : String)
  | cancelling (reason : String) (action : String)
  | publishing
  | commanding
  | registering (t : ℕ)

/-- Who calls `publish` of the sequencer. -/
inductive Caller
  | turn (t : ℕ)
  | callback (k : ℕ)
  | lifecycle
  deriving DecidableEq

structure AgentState where
  active : Bool := false
  lifecycle : LifecyclePc := .inactive
  execution : Execution.State := {}
  sequencer : SequentialActionPublisher := {}
  calls : Caller → Option PublishPc := fun _ ↦ none
  callbacks : ℕ → CallbackPc := fun _ ↦ .idle
  stops : ℕ := 0
  sinceStop : Option (List ActionCommand) := none
  quiesced : Bool := false

/-- The steps of the threads; a turn runs code that may publish actions. -/
inductive AgentEvent
  | activate
  | deactivate
  | lifecycle (inputOk : Bool)
  | transcript (k : ℕ)
  | accept (k : ℕ) (directive : TranscriptDirective)
  | preempt (k : ℕ)
  | enqueue (k : ℕ) (item : Item)
  | beginTurn (k : ℕ)
  | register (k : ℕ)
  | run (t : ℕ) (reading : Double) (e : TurnEnd)
  | publishActions (t : ℕ) (actions : List ActionCommand)
  | publish (caller : Caller) (expired : Bool)
  | notifyResult (commandId : String) (result : ActionResult)

variable (runtime : AgentExecutionRuntime)

namespace AgentState

variable (s : AgentState)

variable (caller : Caller)

def call (pc : Option PublishPc) : AgentState :=
  { s with calls := Function.update s.calls caller pc }

def callback (k : ℕ) (pc : CallbackPc) : AgentState :=
  { s with callbacks := Function.update s.callbacks k pc }

def activate : AgentState :=
  match s.lifecycle with
  | .inactive | .ended _ =>
    { s with active := true, lifecycle := .activating, sinceStop := none, quiesced := false }
  | _ => s

def deactivate : AgentState :=
  match s.lifecycle with
  | .active | .ended _ => { s with active := false, lifecycle := .cancellingEndpoint }
  | _ => s

def executionQuiesced : Bool :=
  match s.execution.stops s.stops with
  | .answered result => result
  | _ => false

def lifecycleStep (inputOk : Bool) : AgentState :=
  match s.lifecycle with
  | .inactive | .active | .ended _ | .publishingStop => s
  | .activating =>
    if inputOk then
      let (execution, started) := start runtime s.execution
      if started then { s with execution := execution, lifecycle := .active }
      else
        { s with execution := execution, active := false, lifecycle := .cancellingEndpoint }
    else { s with active := false, lifecycle := .cancellingEndpoint }
  | .cancellingEndpoint => { s with lifecycle := .cancellingSequence }
  | .cancellingSequence =>
    { s with
      sequencer := s.sequencer.cancel "lifecycle_deactivated"
      lifecycle := .clearingQueue }
  | .clearingQueue =>
    match s.execution.items with
    | [] => { s with lifecycle := .publishingSession }
    | _ :: items => { s with execution := { s.execution with items := items } }
  | .publishingSession =>
    { s.call .lifecycle (some (.starting [SequentialActionPublisher.stopCommand] false)) with
      lifecycle := .publishingStop }
  | .stoppingInput => { s with lifecycle := .stoppingExecution inputOk }
  | .stoppingExecution inputQuiesced =>
    { s with
      execution := requestStop s.execution s.stops
      lifecycle := .listingThreads inputQuiesced }
  | .listingThreads inputQuiesced =>
    { s with
      execution := snapshot s.execution s.stops
      lifecycle := .joiningThreads inputQuiesced }
  | .joiningThreads inputQuiesced =>
    let s := { s with execution := answer s.execution s.stops }
    { s with
      lifecycle := .ended (inputQuiesced && s.executionQuiesced)
      quiesced := s.quiesced || inputQuiesced && s.executionQuiesced
      stops := s.stops + 1 }

def transcript (k : ℕ) : AgentState :=
  match s.callbacks k with
  | .idle => if s.active then s.callback k .accepting else s
  | _ => s

def accept (k : ℕ) (directive : TranscriptDirective) : AgentState :=
  match s.callbacks k with
  | .accepting =>
    match directive with
    | .priority reason action => s.callback k (.clearing reason action)
    | .command => s.callback k .commanding
    | .other => s.callback k .idle
  | _ => s

def preempt (k : ℕ) : AgentState :=
  match s.callbacks k with
  | .clearing reason action =>
    match s.execution.items with
    | [] => s.callback k (.cancelling reason action)
    | _ :: items => { s with execution := { s.execution with items := items } }
  | .cancelling reason action =>
    { (s.callback k .publishing).call (.callback k)
        (some (.starting [{ name := action, priority := true }] false)) with
      sequencer := s.sequencer.cancel reason }
  | _ => s

def enqueue (k : ℕ) (item : Item) : AgentState :=
  match s.callbacks k with
  | .commanding =>
    if runtime.continuousEnabled then
      { s.callback k .idle with
        execution := { s.execution with
          items := (runtime.queue.putNowait s.execution.items item).getD s.execution.items } }
    else s
  | _ => s

def beginTurn (k : ℕ) : AgentState :=
  match s.callbacks k with
  | .commanding =>
    if s.execution.busy || s.execution.stop then s.callback k .idle
    else
      { s.callback k (.registering s.execution.born) with execution := tryBeginTurn s.execution }
  | _ => s

def register (k : ℕ) : AgentState :=
  match s.callbacks k with
  | .registering t => { s.callback k .idle with execution := Execution.register s.execution t }
  | _ => s

/-- A thread goes on unless it is in a call of `publish`. -/
def run (t : ℕ) (reading : Double) (e : TurnEnd) : AgentState :=
  if (s.calls (.turn t)).isSome then s
  else { s with execution := Execution.run runtime t reading e s.execution }

def runsTurn (t : ℕ) : Bool :=
  match s.execution.threads t with
  | .worker (.executing _) _ | .background .executing => true
  | _ => false

def shouldWaitForActionResults (t actionCount : ℕ) : Bool :=
  1 < actionCount ∨
    0 < actionCount ∧ runtime.continuousEnabled ∧ s.execution.worker = some t

/-- A turn publishes actions, after the preferences of the user. -/
def publishActions (t : ℕ) (actions : List ActionCommand) : AgentState :=
  if s.runsTurn t && (s.calls (.turn t)).isNone then
    s.call (.turn t)
      (some (.starting actions (s.shouldWaitForActionResults runtime t actions.length)))
  else s

/-- The caller of `publish` has its report, and goes on. -/
def returned : AgentState :=
  match caller with
  | .turn t => s.call (.turn t) none
  | .callback k => (s.callback k .idle).call (.callback k) none
  | .lifecycle => { s.call .lifecycle none with lifecycle := .stoppingInput }

def candidates : Option ActionCommand → Option (List ActionCommand)
  | none => s.sinceStop
  | some command =>
    if caller = .lifecycle then some (s.sinceStop.getD [] ++ [command])
    else s.sinceStop.map (· ++ [command])

def publish (expired : Bool) : AgentState :=
  match s.calls caller with
  | none => s
  | some (.finished _) => s.returned caller
  | some pc =>
    let (pc, sequencer, command) := s.sequencer.publishStep pc expired
    { s.call caller (some pc) with
      sequencer := sequencer
      sinceStop := s.candidates caller command }

end AgentState

open AgentState in
def step (s : AgentState) : AgentEvent → AgentState × Unit
  | .activate => (s.activate, ())
  | .deactivate => (s.deactivate, ())
  | .lifecycle inputOk => (lifecycleStep runtime s inputOk, ())
  | .transcript k => (s.transcript k, ())
  | .accept k directive => (s.accept k directive, ())
  | .preempt k => (s.preempt k, ())
  | .enqueue k item => (enqueue runtime s k item, ())
  | .beginTurn k => (s.beginTurn k, ())
  | .register k => (s.register k, ())
  | .run t reading e => (run runtime s t reading e, ())
  | .publishActions t actions => (publishActions runtime s t actions, ())
  | .publish caller expired => (s.publish caller expired, ())
  | .notifyResult commandId result =>
    ({ s with sequencer := s.sequencer.notifyResult commandId result }, ())

end EmbodiedAgent.Agent.AgentLifecycle
