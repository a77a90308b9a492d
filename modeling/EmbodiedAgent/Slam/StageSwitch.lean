import EmbodiedAgent.Slam.SessionOrchestrator

namespace EmbodiedAgent.Slam.SessionOrchestrator

open Library

structure ControlAuthorityResponse where
  accepted : Bool
  changed : Bool
  stopRequested : Bool
  message : String
  state : AuthoritySnapshot

variable (n : SessionOrchestrator)

/-- The first section of `_enter_internal_stage_switch_hold`. -/
def openStageSwitch (now : Double) : Except String (SessionOrchestrator × InternalStageSwitch) :=
  let required := "internal stage switch requires fresh AUTONOMY authority"
  match n.authoritySnapshot with
  | none => .error required
  | some snapshot =>
    if snapshot.authority ≠ AuthoritySnapshot.autonomy ∨
        n.authorityLease.freshAutonomy now = false then .error required
    else
      let sequence := n.internalStageSwitchSequence + 1
      let intent : InternalStageSwitch :=
        { reason := s!"internal_stage_switch:{snapshot.managerEpoch}:" ++
            s!"{snapshot.transitionSequence}:{sequence}"
          managerEpoch := snapshot.managerEpoch
          transitionSequenceFloor := snapshot.transitionSequence }
      .ok ({ n with
        internalStageSwitchSequence := sequence
        internalStageSwitch := some intent }, intent)

def holdIsExact (intent : InternalStageSwitch) (response : ControlAuthorityResponse) : Bool :=
  let state := response.state
  response.accepted && response.changed && response.stopRequested &&
  state.authority = AuthoritySnapshot.hold && !state.estopLatched &&
  state.managerEpoch = intent.managerEpoch &&
  decide (intent.transitionSequenceFloor < state.transitionSequence) &&
  state.pendingAutonomyRevocationSequence = state.transitionSequence &&
  !state.autonomyQuiescenceAcknowledged && state.activeSource = "" &&
  state.reason = intent.reason

def bindStageSwitch (intent : InternalStageSwitch) (identity : QuiescenceIdentity) :
    Except String SessionOrchestrator :=
  match n.internalStageSwitch with
  | none => .error "internal stage switch intent was replaced"
  | some current =>
    if current.reason ≠ intent.reason then .error "internal stage switch intent was replaced"
    else if current.identity ≠ none ∧ current.identity ≠ some identity then
      .error "internal stage switch revocation identity conflict"
    else .ok { n with internalStageSwitch := some { current with identity := some identity } }

section Resume

variable (identity : QuiescenceIdentity)

/-- What `_resume_internal_stage_switch` makes of the state while it waits for its HOLD. -/
inductive ResumeView
  | ready (holdSequence : ℤ) (reason : String)
  | changed
  | waiting

def heldIntent : Option InternalStageSwitch :=
  n.internalStageSwitch.filter fun intent ↦
    intent.identity = some identity && intent.managerEpoch = identity.managerEpoch

def holdIsAcknowledged (snapshot : AuthoritySnapshot) : Bool :=
  snapshot.authority = AuthoritySnapshot.hold && snapshot.managerEpoch = identity.managerEpoch &&
  snapshot.pendingAutonomyRevocationSequence = identity.revocationSequence &&
  snapshot.autonomyQuiescenceAcknowledged && !snapshot.estopLatched && snapshot.activeSource = ""

def viewResume : ResumeView :=
  match n.heldIntent identity, n.authoritySnapshot with
  | some intent, some snapshot =>
    if holdIsAcknowledged identity snapshot then
      .ready snapshot.transitionSequence (intent.reason ++ ":resume")
    else if snapshot.managerEpoch ≠ identity.managerEpoch ∨
        snapshot.authority = AuthoritySnapshot.keyboard ∨
        snapshot.authority = AuthoritySnapshot.estop then .changed
    else .waiting
  | _, _ => .changed

def resumeIsExact (holdSequence : ℤ) (reason : String)
    (response : ControlAuthorityResponse) : Bool :=
  let state := response.state
  response.accepted && response.changed && !response.stopRequested &&
  state.authority = AuthoritySnapshot.autonomy && !state.estopLatched &&
  state.managerEpoch = identity.managerEpoch && decide (holdSequence < state.transitionSequence) &&
  state.pendingAutonomyRevocationSequence = 0 && !state.autonomyQuiescenceAcknowledged &&
  state.activeSource = "autonomy" && state.reason = reason

inductive ResumedView
  | visible | superseded | waiting

def viewResumed (resumedSequence : ℤ) : ResumedView :=
  match n.authoritySnapshot with
  | none => .superseded
  | some snapshot =>
    if snapshot.managerEpoch ≠ identity.managerEpoch then .superseded
    else if snapshot.transitionSequence < resumedSequence then .waiting
    else if snapshot.authority ≠ AuthoritySnapshot.autonomy then .superseded
    else if snapshot.activeSource = "autonomy" then .visible
    else .waiting

end Resume

def clearStageSwitch : SessionOrchestrator := { n with internalStageSwitch := none }

end EmbodiedAgent.Slam.SessionOrchestrator
