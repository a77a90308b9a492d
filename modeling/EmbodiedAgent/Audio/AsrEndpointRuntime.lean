import EmbodiedAgent.Library.Binary64
import EmbodiedAgent.Library.History

namespace EmbodiedAgent.Audio

open Library Library.History

inductive Outcome
  | refused | dropped | cancelled | stale | blocked | unannounced | failed | committed
  deriving DecidableEq

/-- The next thing `_perform_commit` does. -/
inductive CommitStage
  | entered | current | clear | announcing | notified | committing
  deriving DecidableEq

inductive Phase
  | accepted | announced | armed | started
  | performing (stage : CommitStage)
  | leaving (outcome : Outcome)
  | done (outcome : Outcome)
  deriving DecidableEq

structure Endpoint where
  source : String
  generation : ℕ
  phase : Phase := .accepted
  cancelled : Bool := false

/-- A call of `close`, `cancel_pending` or `resume_utterance` after its lock section. -/
structure Call where
  accepted : ℕ
  timers : List ℕ
  ended : Bool := false
  deriving DecidableEq

/-- What a callback is called with; the endpoint is the one whose thread calls it. -/
inductive Output
  | onEndpoint (endpoint : ℕ) (source : String) (delayMs : ℕ)
  | onDuplicate (source : String)
  | onCommit (endpoint : ℕ) (source : String)
  | commit (endpoint : ℕ)
  | onError (endpoint : ℕ)
  deriving DecidableEq

structure AsrEndpointRuntime where
  delayMs : ℕ
  duplicateWindowS : Double
  lastRequestAt : Double := .infinite true
  lastRequestSource : Option String := none
  closed : Bool := false
  generation : ℕ := 0
  timers : List ℕ := []
  endpoints : List Endpoint := []
  calls : List Call := []

/-- What the threads do, one atomic step each. -/
inductive Event
  | request (source : String) (blocked : Bool) (now : Double)
  | advance (endpoint : ℕ) (flag : Bool)
  | close
  | cancelPending
  | resumeUtterance
  | cancelTimer (call place : ℕ)
  | returns (call : ℕ)

namespace AsrEndpointRuntime

variable (s : AsrEndpointRuntime)

def create (delayMs : ℤ) (duplicateWindowS : Double) : AsrEndpointRuntime :=
  { delayMs := delayMs.toNat, duplicateWindowS := Double.max 0 duplicateWindowS }

/-- `request` up to the end of its first lock section. -/
def request (source : String) (blocked : Bool) (now : Double) : AsrEndpointRuntime × List Output :=
  if blocked then (s, [])
  else if s.closed then (s, [])
  else if some source ≠ s.lastRequestSource ∧ now.sub s.lastRequestAt < s.duplicateWindowS then
    (s, [.onDuplicate source])
  else
    ({ s with
        lastRequestAt := now
        lastRequestSource := some source
        endpoints := s.endpoints ++ [⟨source, s.generation, .accepted, false⟩] }, [])

def performCommit (e : ℕ) (endpoint : Endpoint) (flag : Bool) :
    CommitStage → Except Outcome CommitStage × List Output
  | .entered =>
    (if s.closed ∨ endpoint.generation ≠ s.generation then .error .stale else .ok .current, [])
  | .current => (if flag then .error .blocked else .ok .clear, [])
  | .clear => (.ok .announcing, [.onCommit e endpoint.source])
  | .announcing => if flag then (.error .unannounced, [.onError e]) else (.ok .notified, [])
  | .notified => (.ok .committing, [.commit e])
  | .committing => if flag then (.error .failed, [.onError e]) else (.error .committed, [])

def timerFired (outcome : Outcome) : Phase :=
  if s.delayMs = 0 then .done outcome else .leaving outcome

def proceed (e : ℕ) (endpoint : Endpoint) (flag : Bool) : Phase × List Output :=
  match endpoint.phase with
  | .accepted =>
    (if flag then .done .refused
      else if s.delayMs = 0 then .performing .entered else .announced,
      [.onEndpoint e endpoint.source s.delayMs])
  | .announced => (if s.closed then .done .dropped else .armed, [])
  | .armed => (.started, [])
  | .started => (if endpoint.cancelled then .done .cancelled else .performing .entered, [])
  | .performing stage =>
    match s.performCommit e endpoint flag stage with
    | (.ok next, out) => (.performing next, out)
    | (.error outcome, out) => (s.timerFired outcome, out)
  | .leaving outcome => (.done outcome, [])
  | .done outcome => (.done outcome, [])

def timersAfter (e : ℕ) (endpoint : Endpoint) : List ℕ :=
  match endpoint.phase with
  | .announced => if s.closed then s.timers else s.timers ++ [e]
  | .leaving _ => s.timers.erase e
  | _ => s.timers

def advance (e : ℕ) (flag : Bool) : AsrEndpointRuntime × List Output :=
  match s.endpoints[e]? with
  | none => (s, [])
  | some endpoint =>
    ({ s with
        timers := s.timersAfter e endpoint
        endpoints := s.endpoints.set e { endpoint with phase := (s.proceed e endpoint flag).1 } },
      (s.proceed e endpoint flag).2)

def close : AsrEndpointRuntime :=
  { s with
    closed := true
    generation := s.generation + 1
    timers := []
    calls := s.calls ++ [⟨s.endpoints.length, s.timers, false⟩] }

def cancelPending : AsrEndpointRuntime :=
  if s.closed then { s with calls := s.calls ++ [⟨s.endpoints.length, [], false⟩] }
  else
    { s with
      generation := s.generation + 1
      lastRequestAt := .infinite true
      lastRequestSource := none
      timers := []
      calls := s.calls ++ [⟨s.endpoints.length, s.timers, false⟩] }

def resumeUtterance : AsrEndpointRuntime := s.cancelPending

def cancelTimer (call place : ℕ) : AsrEndpointRuntime :=
  match s.calls[call]? with
  | none => s
  | some running =>
    match running.timers[place]? with
    | none => s
    | some timer =>
      { s with
        calls := s.calls.set call { running with timers := running.timers.eraseIdx place }
        endpoints := s.endpoints.modify timer fun endpoint ↦ { endpoint with cancelled := true } }

def returns (call : ℕ) : AsrEndpointRuntime :=
  { s with calls := s.calls.modify call fun running ↦
      if running.timers = [] then { running with ended := true } else running }

def step : Event → AsrEndpointRuntime × List Output
  | .request source blocked now => s.request source blocked now
  | .advance e flag => s.advance e flag
  | .close => (s.close, [])
  | .cancelPending => (s.cancelPending, [])
  | .resumeUtterance => (s.resumeUtterance, [])
  | .cancelTimer call place => (s.cancelTimer call place, [])
  | .returns call => (s.returns call, [])

end AsrEndpointRuntime

end EmbodiedAgent.Audio
