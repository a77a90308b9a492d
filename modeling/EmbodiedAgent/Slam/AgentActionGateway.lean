import EmbodiedAgent.Library.Binary64
import EmbodiedAgent.Library.History
import EmbodiedAgent.Library.RecencyMap

namespace EmbodiedAgent.Slam

open Library Library.History

structure AgentActionOutcome where
  success : Bool
  status : ℤ
  message : String
  deriving DecidableEq

inductive GatewayError
  | canceled (text : String)
  | timeout (text : String)
  | runtime (text : String)
  | value (text : String)
  | raised (text : String)
  deriving DecidableEq

/-- The arguments of a call of `run` or of `run_typed`. -/
inductive GatewayCall
  | run (text : String) (expectedActionType : ℤ) (expectedActionName : String) (timeoutS : Double)
  | runTyped (commandId expectedActionName : String) (timeoutS : Double)

namespace GatewayCall

def expectedActionName : GatewayCall → String
  | run _ _ name _ | runTyped _ name _ => name

def timeoutS : GatewayCall → Double
  | run _ _ _ timeoutS | runTyped _ _ timeoutS => timeoutS

end GatewayCall

inductive GatewayPhase
  | calling
  | starting (deadline : Double)
  | publishing (candidateBaseline resultBaseline : ℕ) (deadline : Double)
  | awaitingCandidate (candidateBaseline resultBaseline : ℕ) (deadline : Double)
  | awaitingResult (commandId : String) (resultBaseline : ℕ) (deadline : Double)
  | ended

structure GatewayCaller where
  call : GatewayCall
  phase : GatewayPhase

structure GatewayCandidate where
  generation : ℕ
  actionType : ℤ
  commandId : String

structure GatewayMoment where
  now : Double := 0
  subscribers : ℕ := 1
  canceled : Bool := false
  raised : Option String := none

inductive GatewayOutput
  | logDryRun (message : String)
  | publishText (text : String)
  | publishCommand (commandId : String)
  | cancelMotion
  | returned (caller : ℕ) (result : Except GatewayError (Option AgentActionOutcome))
  deriving DecidableEq

inductive GatewayEvent
  | call (call : GatewayCall)
  | advance (caller : ℕ) (moment : GatewayMoment)
  | recordCandidate (origin : Option String) (actionType : ℤ) (commandId : String)
  | recordResult (commandId : String) (outcome : AgentActionOutcome)

structure AgentActionGateway where
  dryRun : Bool
  candidateGeneration : ℕ := 0
  candidates : List GatewayCandidate := []
  resultGeneration : ℕ := 0
  results : RecencyMap String (ℕ × AgentActionOutcome) 128 := RecencyMap.empty
  runLock : Option ℕ := none
  callers : List GatewayCaller := []

namespace AgentActionGateway

def create (dryRun : Bool) : AgentActionGateway := { dryRun }

def recordCandidate (s : AgentActionGateway) (actionType : ℤ) (commandId : String) :
    AgentActionGateway :=
  if commandId = "" then s
  else
    { s with
      candidateGeneration := s.candidateGeneration + 1
      candidates :=
        List.rtake (s.candidates ++ [⟨s.candidateGeneration + 1, actionType, commandId⟩]) 64 }

def recordResult (s : AgentActionGateway) (commandId : String) (outcome : AgentActionOutcome) :
    AgentActionGateway :=
  if commandId = "" then s
  else
    { s with
      resultGeneration := s.resultGeneration + 1
      results := s.results.record commandId (s.resultGeneration + 1, outcome) }

/-- `run` and `run_typed` before the run lock. -/
def enter (s : AgentActionGateway) (call : GatewayCall) :
    AgentActionGateway × List GatewayOutput :=
  let i := s.callers.length
  let ended := { s with callers := s.callers ++ [⟨call, .ended⟩] }
  let called := { s with callers := s.callers ++ [⟨call, .calling⟩] }
  match call with
  | .run text _ name _ =>
    if s.dryRun then
      (ended, [.logDryRun s!"DRY RUN agent action: {text} -> {name}", .returned i (.ok none)])
    else (called, [])
  | .runTyped commandId name _ =>
    if s.dryRun then
      (ended, [.logDryRun s!"DRY RUN typed action: {commandId} -> {name}", .returned i (.ok none)])
    else if commandId = "" then
      (ended, [.returned i (.error (.value "typed command_id must not be empty"))])
    else (called, [])

def goto (s : AgentActionGateway) (i : ℕ) (caller : GatewayCaller) (phase : GatewayPhase) :
    AgentActionGateway :=
  { s with callers := s.callers.set i { caller with phase } }

def leave (s : AgentActionGateway) (i : ℕ) (caller : GatewayCaller)
    (result : Except GatewayError (Option AgentActionOutcome)) :
    AgentActionGateway × List GatewayOutput :=
  ({ s.goto i caller .ended with runLock := none }, [.returned i result])

def raiseIfCanceled (s : AgentActionGateway) (i : ℕ) (caller : GatewayCaller)
    (moment : GatewayMoment) (pass : AgentActionGateway × List GatewayOutput) :
    AgentActionGateway × List GatewayOutput :=
  if moment.canceled then
    match moment.raised with
    | some text => s.leave i caller (.error (.raised text))
    | none =>
      let (s', out) := s.leave i caller (.error (.canceled "automatic mission canceled"))
      (s', .cancelMotion :: out)
  else pass

def start (s : AgentActionGateway) (i : ℕ) (caller : GatewayCaller) (moment : GatewayMoment)
    (deadline : Double) : AgentActionGateway × List GatewayOutput :=
  let publishing :=
    s.goto i caller (.publishing s.candidateGeneration s.resultGeneration deadline)
  match caller.call with
  | .run .. =>
    if moment.subscribers = 0 then
      s.raiseIfCanceled i caller moment <|
        if deadline ≤ moment.now then
          s.leave i caller (.error (.timeout "Agent text input subscriber unavailable"))
        else (s, [])
    else (publishing, [])
  | .runTyped .. => (publishing, [])

def publish (s : AgentActionGateway) (i : ℕ) (caller : GatewayCaller) (moment : GatewayMoment)
    (candidateBaseline resultBaseline : ℕ) (deadline : Double) :
    AgentActionGateway × List GatewayOutput :=
  match moment.raised, caller.call with
  | some text, _ => s.leave i caller (.error (.raised text))
  | none, .run text _ _ _ =>
    (s.goto i caller (.awaitingCandidate candidateBaseline resultBaseline deadline),
      [.publishText text])
  | none, .runTyped commandId _ _ =>
    (s.goto i caller (.awaitingResult commandId resultBaseline deadline),
      [.publishCommand commandId])

def candidateFor (s : AgentActionGateway) (baseline : ℕ) :
    GatewayCall → Option GatewayCandidate
  | .run _ expectedType _ _ => s.candidates.find? fun candidate ↦
      baseline < candidate.generation ∧ candidate.actionType = expectedType
  | .runTyped .. => none

def waitForCandidate (s : AgentActionGateway) (i : ℕ) (caller : GatewayCaller)
    (moment : GatewayMoment) (candidateBaseline resultBaseline : ℕ) (deadline : Double) :
    AgentActionGateway × List GatewayOutput :=
  s.raiseIfCanceled i caller moment <|
    match s.candidateFor candidateBaseline caller.call with
    | some candidate =>
      (s.goto i caller (.awaitingResult candidate.commandId resultBaseline deadline), [])
    | none =>
      if deadline.sub moment.now ≤ 0 then
        s.leave i caller (.error (.timeout "Agent did not publish expected action"))
      else (s, [])

def resultOf (name : String) (outcome : AgentActionOutcome) :
    Except GatewayError (Option AgentActionOutcome) :=
  if outcome.success then .ok (some outcome)
  else
    let status := outcome.status
    let message := outcome.message
    .error (.runtime s!"{name} failed status={status}: {message}")

def waitForResult (s : AgentActionGateway) (i : ℕ) (caller : GatewayCaller)
    (moment : GatewayMoment) (commandId : String) (baseline : ℕ) (deadline : Double) :
    AgentActionGateway × List GatewayOutput :=
  s.raiseIfCanceled i caller moment <|
    match (s.results.find commandId).filter fun recorded ↦ baseline < recorded.1 with
    | some recorded =>
      { s with results := s.results.pop commandId }.leave i caller
        (resultOf caller.call.expectedActionName recorded.2)
    | none =>
      if deadline.sub moment.now ≤ 0 then
        let name := caller.call.expectedActionName
        s.leave i caller (.error (.timeout s!"action result timeout for {name}:{commandId}"))
      else (s, [])

def advance (s : AgentActionGateway) (i : ℕ) (moment : GatewayMoment) :
    AgentActionGateway × List GatewayOutput :=
  match s.callers[i]? with
  | none => (s, [])
  | some caller =>
    match caller.phase with
    | .calling =>
      if s.runLock = none then
        let deadline := moment.now.add (Double.max 0 caller.call.timeoutS)
        ({ s.goto i caller (.starting deadline) with runLock := some i }, [])
      else (s, [])
    | .starting deadline => s.start i caller moment deadline
    | .publishing candidateBaseline resultBaseline deadline =>
      s.publish i caller moment candidateBaseline resultBaseline deadline
    | .awaitingCandidate candidateBaseline resultBaseline deadline =>
      s.waitForCandidate i caller moment candidateBaseline resultBaseline deadline
    | .awaitingResult commandId baseline deadline =>
      s.waitForResult i caller moment commandId baseline deadline
    | .ended => (s, [])

def step (s : AgentActionGateway) : GatewayEvent → AgentActionGateway × List GatewayOutput
  | .call call => s.enter call
  | .advance i moment => s.advance i moment
  | .recordCandidate _ actionType commandId => (s.recordCandidate actionType commandId, [])
  | .recordResult commandId outcome => (s.recordResult commandId outcome, [])

end AgentActionGateway

end EmbodiedAgent.Slam
