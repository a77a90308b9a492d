import EmbodiedAgent.Action.Outbox
import EmbodiedAgent.Action.Validator
import EmbodiedAgent.Control.Tracker

namespace EmbodiedAgent

open Library

inductive ActionAuthorityDecision
  | allow | stateUnavailable | hold | keyboard | emergencyStop
  deriving DecidableEq

def evaluateActionAuthority (gateEnabled stateObserved : Bool) (authority : ControlAuthority)
    (priorityStop : Bool) : ActionAuthorityDecision :=
  if !gateEnabled || priorityStop then .allow
  else if !stateObserved then .stateUnavailable
  else match authority with
  | .autonomy => .allow
  | .hold => .hold
  | .keyboard => .keyboard
  | .estop => .emergencyStop

def actionAuthorityReason : ActionAuthorityDecision → String
  | .allow => "allowed"
  | .stateUnavailable => "control_authority_state_unavailable"
  | .hold => "control_authority_hold"
  | .keyboard => "control_authority_keyboard_active"
  | .emergencyStop => "control_authority_emergency_stop"

theorem evaluateActionAuthority_allow {stateObserved : Bool} {authority : ControlAuthority}
    (h : evaluateActionAuthority true stateObserved authority false = .allow) :
    stateObserved = true ∧ authority = .autonomy := by
  cases stateObserved <;> cases authority <;> simp_all [evaluateActionAuthority]

/-- The authority topic's message. Its owner is a bare number. -/
structure ControlAuthorityState where
  authority : UInt8 := 0
  estopLatched : Bool := false
  managerEpoch : UInt64 := 0
  transitionSequence : UInt64 := 0
  pendingAutonomyRevocationSequence : UInt64 := 0
  autonomyQuiescenceAcknowledged : Bool := false
  activeSource : String := ""
  reason : String := ""

namespace ControlAuthorityState

def hold : UInt8 := 0
def autonomy : UInt8 := 1
def keyboard : UInt8 := 2
def estop : UInt8 := 3

def decodeAuthority (authority : UInt8) : Option ControlAuthority :=
  if authority = hold then some .hold
  else if authority = autonomy then some .autonomy
  else if authority = keyboard then some .keyboard
  else if authority = estop then some .estop
  else none

def snapshot (message : ControlAuthorityState) : Option ControlAuthoritySnapshot :=
  (decodeAuthority message.authority).map fun authority ↦
    { authority := authority
      estopLatched := message.estopLatched
      managerEpoch := message.managerEpoch
      transitionSequence := message.transitionSequence
      pendingAutonomyRevocationSequence := message.pendingAutonomyRevocationSequence
      autonomyQuiescenceAcknowledged := message.autonomyQuiescenceAcknowledged
      activeSource := message.activeSource
      reason := message.reason }

end ControlAuthorityState

structure ActionGuardParameters where
  downstreamBufferSize : ℤ := 32
  downstreamWaitTimeoutS : Double := .ofRat 3
  authorityGateEnabled : Bool := false
  authorityStateTimeoutS : Double := .ofRat 1

structure ActionGuard where
  downstreamWaitTimeoutS : Double
  authorityGateEnabled : Bool
  authorityTracker : ControlAuthorityTracker
  outbox : GuardedCommandOutbox
  active : Bool := false
  commandSequence : UInt64 := 0
  deriving DecidableEq

/-- What the node sends: on the typed command topic, or on the rejection topic. -/
inductive GuardPublication
  | command (command : RobotCommand)
  | rejection (data : String)
  deriving DecidableEq

/-- What one flush reads of its surroundings, in the order of the calls. -/
structure FlushReading where
  downstreamReady : Bool
  drainAt : Int64
  allowedAt : ℤ

/-- A callback of the single-threaded executor, with every clock reading it takes. -/
inductive GuardEvent
  | activate
  | deactivate
  | authorityState (message : ControlAuthorityState) (receivedAt : ℤ) (reading : FlushReading)
  | candidate (message : RobotCommand) (readyAt : ℤ) (enqueuedAt : Int64) (reading : FlushReading)
  | timer (reading : FlushReading)

def GuardEvent.reading : GuardEvent → Option FlushReading
  | .activate | .deactivate => none
  | .authorityState _ _ reading | .candidate _ _ _ reading | .timer reading => some reading

namespace ActionGuard

variable (g : ActionGuard)

def steadyNowSeconds (now : Int64) : Double := durationSeconds now

def durationCastMilliseconds (seconds : Double) : Option ℤ :=
  match seconds.mul (.ofRat 1000) with
  | .finite count _ =>
    let milliseconds := count.num.tdiv count.den
    if -2 ^ 63 ≤ milliseconds ∧ milliseconds < 2 ^ 63 then some milliseconds else none
  | _ => none

def configure (parameters : ActionGuardParameters) : Option ActionGuard :=
  match durationCastMilliseconds
    (Double.max (.ofRat (1 / 10)) parameters.authorityStateTimeoutS) with
  | none => none
  | some lease =>
    match ControlAuthorityTracker.create lease with
    | .error _ => none
    | .ok authorityTracker => some
      { downstreamWaitTimeoutS := Double.max (.ofRat (1 / 10)) parameters.downstreamWaitTimeoutS
        authorityGateEnabled := parameters.authorityGateEnabled
        authorityTracker := authorityTracker
        outbox := .create (max 1 parameters.downstreamBufferSize).toNat }

def authorityGeneration : UInt64 :=
  if g.authorityGateEnabled then g.authorityTracker.generation else 0

def allowedAuthorityGeneration (now : ℤ) : Option UInt64 :=
  if !g.authorityGateEnabled then some 0
  else if g.authorityTracker.freshAutonomy now then some g.authorityTracker.generation
  else none

def flushOutbox (reading : FlushReading) : ActionGuard × List GuardPublication :=
  if !g.active then (g, [])
  else
    let (outbox, drain) := g.outbox.drain reading.downstreamReady
      (steadyNowSeconds reading.drainAt) g.downstreamWaitTimeoutS
      (g.allowedAuthorityGeneration reading.allowedAt)
    ({ g with outbox := outbox },
      drain.expiredCommandIds.map (fun id ↦ .rejection ("action_downstream_unavailable:" ++ id)) ++
      drain.invalidatedCommandIds.map (fun id ↦
        .rejection ("action_authority_generation_invalidated:" ++ id)) ++
      drain.supersededStopCommandIds.map
        (fun id ↦ .rejection ("priority_stop_superseded:" ++ id)) ++
      drain.ready.map .command)

def onAuthorityState (message : ControlAuthorityState) (receivedAt : ℤ)
    (reading : FlushReading) : ActionGuard × List GuardPublication :=
  match message.snapshot with
  | none => (g, [])
  | some snapshot =>
    let (authorityTracker, update) := g.authorityTracker.update snapshot receivedAt
    if !update.accepted then ({ g with authorityTracker := authorityTracker }, [])
    else { g with authorityTracker := authorityTracker }.flushOutbox reading

def validated (message : RobotCommand) : ValidationResult :=
  ActionValidator.validate message ("guard-" ++ toString (g.commandSequence + 1).toNat) "agent"

def onCandidate (message : RobotCommand) (readyAt : ℤ) (enqueuedAt : Int64)
    (reading : FlushReading) : ActionGuard × List GuardPublication :=
  if !g.active then (g, [])
  else
    let result := g.validated message
    let g := { g with commandSequence := g.commandSequence + 1 }
    if !result.valid then (g, [.rejection result.error])
    else
      let decision := evaluateActionAuthority g.authorityGateEnabled
        (g.authorityTracker.fresh readyAt) g.authorityTracker.authority
          result.command.isPriorityStop
      if decision ≠ .allow then (g, [.rejection (actionAuthorityReason decision)])
      else
        let (outbox, accepted) :=
          g.outbox.enqueue result.command (steadyNowSeconds enqueuedAt) g.authorityGeneration
        if !accepted then
          ({ g with outbox := outbox },
            [.rejection ("action_downstream_buffer_full:" ++ result.command.commandId)])
        else { g with outbox := outbox }.flushOutbox reading

def step : GuardEvent → ActionGuard × List GuardPublication
  | .activate => ({ g with active := true }, [])
  | .deactivate => ({ g with active := false, outbox := g.outbox.clear }, [])
  | .authorityState message receivedAt reading => g.onAuthorityState message receivedAt reading
  | .candidate message readyAt enqueuedAt reading =>
    g.onCandidate message readyAt enqueuedAt reading
  | .timer reading => g.flushOutbox reading

end ActionGuard

end EmbodiedAgent
