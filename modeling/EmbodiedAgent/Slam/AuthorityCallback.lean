import EmbodiedAgent.Library.Interleaving
import EmbodiedAgent.Slam.SessionOrchestrator

namespace EmbodiedAgent.Slam

open Library

/-- `str` of the exception. -/
def exceptionText : QuiescenceException → String
  | .valueError message | .quiescenceError message | .quiescenceTimeout message => message

structure AcceptedState where
  snapshot : AuthoritySnapshot
  authority : ℤ
  wasObserved : Bool
  wasFreshAutonomy : Bool
  explorerRunning : Bool

structure Identified extends AcceptedState where
  identity : QuiescenceIdentity
  internal : Bool

inductive AuthorityTask
  | report
  | clearReport
  | publish (c : AcceptedState)
  | testActive (c : Identified)
  | observeActive (c : Identified)
  | testFailed (c : Identified)
  | observe (c : Identified)
  | begin (c : Identified)
  | readMission (c : Identified)
  | quiescing (c : Identified)
  | startWorker (c : Identified)
  | testIdentity (c : Identified)
  | cancel (identity : Option QuiescenceIdentity)
  | failBarrier (reason : String)
  | failOutcome (reason : String)
  | failTransition (reason : String)
  | childFailure (detail : String)
  | childTransition (detail : String)

inductive AuthorityEffect
  | begun (identity : QuiescenceIdentity)
  | acknowledged (identity : Option QuiescenceIdentity)
  | failed (reason : String)
  | canceled (identity : Option QuiescenceIdentity)

namespace SessionOrchestrator

variable (n : SessionOrchestrator)

def barrierEffects (b b' : AutonomyQuiescenceBarrier) : List AuthorityEffect :=
  (if b.state ≠ .failed ∧ b'.state = .failed then [.failed b'.failureReason] else []) ++
    if b.state ≠ .acknowledged ∧ b'.state = .acknowledged then [.acknowledged b'.identity] else []

/-- `_fail_autonomy_quiescence` -/
def failAutonomyQuiescence (error : String) : List AuthorityTask :=
  let reason := "autonomy quiescence failed: " ++ error
  [.failBarrier reason, .failOutcome reason, .failTransition reason]

def conclude (c : Identified) (revocationStarted : Bool) : List AuthorityTask :=
  if (c.authority ≠ AuthoritySnapshot.autonomy ∨ c.wasObserved = true ∧
    c.wasFreshAutonomy = false) ∧
      c.internal = false then
    if revocationStarted then [.cancel (some c.identity)] else [.testIdentity c]
  else []

def revoke (c : Identified) : List AuthorityTask :=
  if c.authority ≠ AuthoritySnapshot.autonomy ∧ c.snapshot.autonomyQuiescenceAcknowledged = false
  then [.observe c]
  else conclude c false

def withBarrier (b : AutonomyQuiescenceBarrier) : SessionOrchestrator :=
  { n with autonomyQuiescence := b }

def activeAutomaticMission : Bool :=
  match n.activeRequest with
  | none => false
  | some request => request.command = .runAutomaticMission && !request.canceled

def perform :
    AuthorityTask → SessionOrchestrator × List AuthorityTask × List AuthorityEffect
  | .report => ({ n with authorityLeaseFailureReported := true }, [], [])
  | .clearReport => ({ n with authorityLeaseFailureReported := false }, [], [])
  | .publish c =>
    let n := { n with authoritySnapshot := some c.snapshot }
    let (n, revocation) := n.matchesInternalStageSwitchRevocation c.snapshot
    let resume := n.matchesInternalStageSwitchResume c.snapshot
    match identityOf c.snapshot with
    | .error _ => (n, [], [])
    | .ok identity => (n, [.testActive { c with
        identity := identity
        internal := revocation || resume }], [])
  | .testActive c => (n, if n.autonomyQuiescence.active then [.observeActive c] else revoke c, [])
  | .observeActive c =>
    match n.autonomyQuiescence.observeAuthority c.identity
        (decide (c.authority = AuthoritySnapshot.autonomy)) with
    | (b, .error _) => (n.withBarrier b, [], barrierEffects n.autonomyQuiescence b)
    | (b, .ok ()) => (n.withBarrier b, [.testFailed c], barrierEffects n.autonomyQuiescence b)
  | .testFailed c =>
    let b := n.autonomyQuiescence.refreshReady
    (n.withBarrier b, if b.state = .failed then failAutonomyQuiescence b.failureReason else
      revoke c,
      barrierEffects n.autonomyQuiescence b)
  | .observe c =>
    match n.autonomyQuiescence.observeAuthority c.identity false with
    | (b, .error _) => (n.withBarrier b, [], barrierEffects n.autonomyQuiescence b)
    | (b, .ok ()) => (n.withBarrier b, [.begin c], barrierEffects n.autonomyQuiescence b)
  | .begin c =>
    match n.autonomyQuiescence.begin c.identity (some c.explorerRunning) with
    | (b, .error e) => (n.withBarrier b, failAutonomyQuiescence (exceptionText e),
        barrierEffects n.autonomyQuiescence b)
    | (b, .ok true) => (n.withBarrier b, [.readMission c], [.begun c.identity])
    | (b, .ok false) => (n.withBarrier b, conclude c false, [])
  | .readMission c =>
    (n, if n.activeAutomaticMission then [.quiescing c] else [.startWorker c], [])
  | .quiescing c =>
    (n.transition .quiescing ("control authority revoked; waiting for Explore/Nav2 terminal, " ++
      "STOP result and fresh zero"), [.startWorker c], [])
  | .startWorker c =>
    ({ n with exploreControl := n.exploreControl ++ [false] }, conclude c true, [])
  | .testIdentity c =>
    (n, [.cancel (if n.autonomyQuiescence.identity = some c.identity then some c.identity
      else none)], [])
  | .cancel identity =>
    let canceled := n.cancelActiveAutomaticMission identity
    (canceled.1, [], if canceled.2 then [.canceled identity] else [])
  | .failBarrier reason =>
    let b := (n.autonomyQuiescence.fail reason).1
    (n.withBarrier b, [], barrierEffects n.autonomyQuiescence b)
  | .failOutcome reason =>
    ({ n with missionOutcome := .failed, missionMessage := reason }, [], [])
  | .failTransition reason => (n.transition .failed reason, [], [])
  | .childFailure detail =>
    ({ n with
        childRuntimeFailure := detail
        activeRequest := n.activeRequest.map fun request ↦ { request with
          canceled := true
          message := if request.message = "" then "persistent base process exited"
            else request.message } }, [], [])
  | .childTransition detail => (n.transition .failed detail, [], [])

/-- A message as the callback takes it up. -/
structure AuthorityMessage where
  snapshot : AuthoritySnapshot
  receivedAt : Double
  explorerRunning : Bool

def receive (m : AuthorityMessage) : SessionOrchestrator × List AuthorityTask :=
  if n.authorityGateEnabled = false then (n, [])
  else
    let update := n.authorityLease.update m.snapshot m.receivedAt
    ({ n with authorityLease := update.1 },
      if update.2.accepted then
        [.clearReport, .publish
          { snapshot := m.snapshot
            authority := update.1.authority
            wasObserved := n.authorityLease.observed
            wasFreshAutonomy := n.authorityLease.freshAutonomy m.receivedAt
            explorerRunning := m.explorerRunning }]
      else if update.2.leaseDiscontinuity then
        [.report, .cancel none] ++ failAutonomyQuiescence
          "authority manager lease_discontinuity before typed revocation"
      else [])

/-- `_check_authority_lease` -/
def checkAuthorityLease (now : Double) : SessionOrchestrator × List AuthorityTask :=
  if n.authorityGateEnabled = true ∧ n.authorityLease.authority = AuthoritySnapshot.autonomy ∧
      n.authorityLease.fresh now = false ∧ n.authorityLeaseFailureReported = false then
    ({ n with authorityLeaseFailureReported := true }, .cancel none :: failAutonomyQuiescence
      "authority manager lease expired before typed revocation")
  else (n, [])

def checkChildProcess (persistent : Bool) (owner code : String) : List AuthorityTask :=
  let detail := owner ++ " process exited code=" ++ code
  if n.stopping = true ∨ (n.operationActive = true ∧ (persistent = false ∨ owner ≠ "base")) ∨
      n.fsm.phase = .stopped ∨ n.fsm.phase = .failed then []
  else if persistent = true ∧ owner = "base" then [.childFailure detail, .childTransition detail]
  else [.childTransition detail]

end SessionOrchestrator

end EmbodiedAgent.Slam
