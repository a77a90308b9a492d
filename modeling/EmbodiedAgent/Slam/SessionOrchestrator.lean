import EmbodiedAgent.Slam.AuthorityLease
import EmbodiedAgent.Slam.QuiescenceBarrier
import EmbodiedAgent.Slam.ShowcaseSession

namespace EmbodiedAgent.Slam

open Library

structure CommandRequest where
  command : SessionCommand
  source : String
  goalHandle : Bool := false
  completed : Bool := false
  success : Bool := false
  message : String := ""
  canceled : Bool := false
  authorityGeneration : Option ℕ := none
  authorityRevocationIdentity : Option (ℤ × ℤ) := none
  deriving DecidableEq

def CommandRequest.refuse (request : CommandRequest) (message : String) : CommandRequest :=
  { request with message := message, completed := true }

inductive MissionOutcome
  | idle | running | succeeded | canceled | failed
  deriving DecidableEq

structure InternalStageSwitch where
  reason : String
  managerEpoch : ℤ
  transitionSequenceFloor : ℤ
  identity : Option QuiescenceIdentity := none

structure SessionOrchestrator where
  authorityGateEnabled : Bool
  authorityLease : ControlAuthorityLease
  autonomyQuiescence : AutonomyQuiescenceBarrier
  fsm : SessionSnapshot := {}
  missionOutcome : MissionOutcome := .idle
  missionMessage : String := ""
  authoritySnapshot : Option AuthoritySnapshot := none
  authorityLeaseFailureReported : Bool := false
  internalStageSwitch : Option InternalStageSwitch := none
  internalStageSwitchSequence : ℕ := 0
  requests : List (Option CommandRequest) := []
  activeRequest : Option CommandRequest := none
  operationActive : Bool := false
  stopping : Bool := false
  childRuntimeFailure : String := ""
  lastIntent : Option SessionCommand × Double := (none, 0)
  exploreControl : List Bool := []

namespace SessionOrchestrator

variable (n : SessionOrchestrator)

def transition (phase : SessionPhase) (detail : String) (mapSaved : Option Bool := none)
    (mapYamlPath : Option String := none) : SessionOrchestrator :=
  let n := if phase = .missionCompleted then
      { n with missionOutcome := .succeeded, missionMessage := "automatic mission completed" }
    else n
  { n with fsm := n.fsm.transition phase detail mapSaved mapYamlPath }

section Requests

variable (request : CommandRequest)

def needsAuthority : Bool :=
  n.authorityGateEnabled && request.command = .runAutomaticMission

def admission (now : Double) : CommandRequest × Bool :=
  if n.needsAuthority request && !n.authorityLease.freshAutonomy now then
    (request.refuse "automatic mission requires fresh AUTONOMY authority", false)
  else
    let request := if n.needsAuthority request then
        { request with authorityGeneration := some n.authorityLease.generation }
      else request
    match n.fsm.validate request.command with
    | (true, _) => (request, true)
    | (false, reason) => (request.refuse reason, false)

def queueSize : ℕ := 4

/-- `put_nowait` -/
def put : SessionOrchestrator × CommandRequest × Bool :=
  if n.requests.length < queueSize then
    ({ n with requests := n.requests ++ [some request] }, request, true)
  else (n, request.refuse "session command queue is full", false)

def enqueue (now : Double) : SessionOrchestrator × CommandRequest × Bool :=
  if n.stopping then (n, request.refuse "session is stopping", false)
  else if n.autonomyQuiescence.active then
    (n, request.refuse "autonomy quiescence is still in progress", false)
  else if n.operationActive then (n, request, false)
  else
    match n.admission request now with
    | (request, true) => n.put request
    | (request, false) => (n, request, false)

def cancelActiveAutomaticMission (identity : Option QuiescenceIdentity) :
    SessionOrchestrator × Bool :=
  match n.activeRequest with
  | none => (n, false)
  | some request =>
    if request.command ≠ .runAutomaticMission ∨ request.canceled = true then (n, false)
    else
      let revocation := identity.map fun i ↦ (i.managerEpoch, i.revocationSequence)
      ({ n with
          activeRequest := some { request with
            canceled := true
            authorityRevocationIdentity := revocation.or request.authorityRevocationIdentity }
          exploreControl := n.exploreControl ++ [false] }, true)

/-- What the clock gives while a spoken command is handled. -/
structure Readings where
  heard : Double
  admitted : Double

def hearCommand (command : SessionCommand) (r : Readings) : SessionOrchestrator :=
  if n.lastIntent.1 = some command ∧ r.heard.sub n.lastIntent.2 < .ofRat 3 then n
  else
    let n := { n with lastIntent := (some command, r.heard) }
    (n.enqueue { command := command, source := "voice" } r.admitted).1

def handleSessionCommandText (u : Unicode) (text : Chars) (r : Readings) : SessionOrchestrator :=
  if isAutomaticMissionCancelText u text && (n.cancelActiveAutomaticMission none).2 then
    (n.cancelActiveAutomaticMission none).1
  else (parseSessionCommand u text).elim n fun command ↦ n.hearCommand command r

end Requests

def beginRequest (request : CommandRequest) (now : Double) :
    SessionOrchestrator × CommandRequest × Bool :=
  match n.fsm.validate request.command with
  | (false, reason) => (n, request.refuse reason, false)
  | (true, _) =>
    if n.needsAuthority request && (!n.authorityLease.freshAutonomy now ||
        decide (request.authorityGeneration ≠ some n.authorityLease.generation)) then
      (n, request.refuse
        "automatic mission authority generation expired before execution", false)
    else ({ n with operationActive := true, activeRequest := some request }, request, true)

variable (snapshot : AuthoritySnapshot)

def identityOf : Except QuiescenceException QuiescenceIdentity :=
  QuiescenceIdentity.create snapshot.managerEpoch snapshot.pendingAutonomyRevocationSequence

def exactHold (intent : InternalStageSwitch) (snapshot : AuthoritySnapshot) : Bool :=
  snapshot.managerEpoch = intent.managerEpoch &&
  decide (intent.transitionSequenceFloor < snapshot.transitionSequence) &&
  snapshot.pendingAutonomyRevocationSequence = snapshot.transitionSequence &&
  !snapshot.autonomyQuiescenceAcknowledged && snapshot.reason = intent.reason

def matchesInternalStageSwitchRevocation : SessionOrchestrator × Bool :=
  match n.internalStageSwitch, identityOf snapshot with
  | some intent, .ok identity =>
    if snapshot.authority ≠ AuthoritySnapshot.hold then (n, false)
    else
      match intent.identity with
      | some bound => (n, decide (identity = bound))
      | none =>
        if exactHold intent snapshot then
          ({ n with internalStageSwitch := some { intent with identity := some identity } }, true)
        else (n, false)
  | _, _ => (n, false)

def matchesInternalStageSwitchResume : Bool :=
  match n.internalStageSwitch with
  | none => false
  | some intent =>
    match intent.identity with
    | none => false
    | some identity =>
      snapshot.authority = AuthoritySnapshot.autonomy &&
      snapshot.managerEpoch = identity.managerEpoch &&
      decide (identity.revocationSequence < snapshot.transitionSequence) &&
      snapshot.pendingAutonomyRevocationSequence = 0 &&
      !snapshot.autonomyQuiescenceAcknowledged && !snapshot.estopLatched &&
      snapshot.activeSource = "autonomy" && snapshot.reason = intent.reason ++ ":resume"

end SessionOrchestrator

end EmbodiedAgent.Slam
