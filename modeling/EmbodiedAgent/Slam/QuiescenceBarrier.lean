import EmbodiedAgent.Library.Text

namespace EmbodiedAgent

open Library Library.Text

inductive QuiescenceState
  | idle | waiting | ready | ackInFlight | acknowledged | failed
  deriving DecidableEq

inductive QuiescenceException
  | valueError (message : String)
  | quiescenceError (message : String)
  | quiescenceTimeout (message : String)
  deriving DecidableEq

/-- The identity of one revocation of AUTONOMY. -/
structure QuiescenceIdentity where
  managerEpoch : ℤ
  revocationSequence : ℤ
  managerEpoch_pos : 0 < managerEpoch
  revocationSequence_nonneg : 0 ≤ revocationSequence

namespace QuiescenceIdentity

theorem ext_iff {i j : QuiescenceIdentity} :
    i.managerEpoch = j.managerEpoch ∧ i.revocationSequence = j.revocationSequence ↔ i = j := by
  cases i
  cases j
  simp

instance : DecidableEq QuiescenceIdentity := fun _ _ ↦ decidable_of_iff _ ext_iff

def create (managerEpoch revocationSequence : ℤ) : Except QuiescenceException QuiescenceIdentity :=
  if hepoch : managerEpoch ≤ 0 then .error (.valueError "manager_epoch must be positive")
  else if hsequence : revocationSequence < 0 then
    .error (.valueError "revocation_sequence must be non-negative")
  else .ok ⟨managerEpoch, revocationSequence, not_le.mp hepoch, not_lt.mp hsequence⟩

def text (i : QuiescenceIdentity) : String :=
  "QuiescenceIdentity(manager_epoch=" ++ toString i.managerEpoch ++
    ", revocation_sequence=" ++ toString i.revocationSequence ++ ")"

end QuiescenceIdentity

structure QuiescenceSnapshot where
  state : QuiescenceState
  identity : Option QuiescenceIdentity
  ready : Bool
  missing : List String
  failureReason : String
  frontierRequired : Bool
  nav2GoalCount : ℕ
  stopCommandId : String
  freshZeroGeneration : Option ℤ

structure AutonomyQuiescenceBarrier where
  zeroEpsilon : Double
  zeroEpsilon_valid : zeroEpsilon.isFinite = true ∧ ¬ zeroEpsilon < 0
  state : QuiescenceState := .idle
  identity : Option QuiescenceIdentity := none
  observedAuthority : Option QuiescenceIdentity := none
  failureReason : String := ""
  frontierActive : Bool := false
  frontierTerminal : Bool := true
  frontierRequired : Bool := false
  activeNav2Goals : Finset String := ∅
  requiredNav2Goals : Finset String := ∅
  terminalNav2Goals : Finset String := ∅
  terminalNav2GoalOrder : List String := []
  stopCommandId : String := ""
  stopResultObserved : Bool := false
  stopCmdVelGeneration : Option ℤ := none
  freshZeroGeneration : Option ℤ := none
  acknowledgedIdentities : Finset QuiescenceIdentity := ∅
  acknowledgedIdentityOrder : List QuiescenceIdentity := []

namespace AutonomyQuiescenceBarrier

variable (b : AutonomyQuiescenceBarrier)

def frontierActiveStatuses : List String := ["exploration_started", "exploration_running"]

def frontierTerminalStatuses : List String :=
  ["exploration_paused", "exploration_complete", "exploration_completed", "exploration_stopped"]

def create (zeroEpsilon : Double) : Except QuiescenceException AutonomyQuiescenceBarrier :=
  if h : zeroEpsilon.isFinite = true ∧ ¬ zeroEpsilon < 0 then
    .ok { zeroEpsilon := zeroEpsilon, zeroEpsilon_valid := h }
  else .error (.valueError "zero_epsilon must be finite and non-negative")

def active : Bool :=
  match b.state with
  | .waiting | .ready | .ackInFlight => true
  | _ => false

def missing : List String :=
  (if b.frontierRequired && !b.frontierTerminal then ["explore_ledger_terminal"] else []) ++
  (if b.requiredNav2Goals ≠ ∅ then ["nav2_action_terminal"] else []) ++
  (if b.stopResultObserved then [] else ["priority_stop_result"]) ++
  (if b.freshZeroGeneration.isNone then ["fresh_zero_cmd_vel"] else [])

def failWith (reason : String) : AutonomyQuiescenceBarrier :=
  if b.state = .failed then b else { b with state := .failed, failureReason := reason }

def withState (state : QuiescenceState) : AutonomyQuiescenceBarrier :=
  { b with state := state }

def withAuthority (identity : Option QuiescenceIdentity) : AutonomyQuiescenceBarrier :=
  { b with observedAuthority := identity }

def refreshReady : AutonomyQuiescenceBarrier :=
  match b.state with
  | .ackInFlight =>
    if b.missing = [] then b
    else b.failWith ("quiescence evidence invalidated while ACK in flight: " ++
      ",".intercalate b.missing)
  | .waiting | .ready => b.withState (if b.missing = [] then .ready else .waiting)
  | _ => b

def snapshot : QuiescenceSnapshot where
  state := b.state
  identity := b.identity
  ready := decide (b.state = .ready) && decide (b.missing = [])
  missing := b.missing
  failureReason := b.failureReason
  frontierRequired := b.frontierRequired
  nav2GoalCount := b.requiredNav2Goals.card
  stopCommandId := b.stopCommandId
  freshZeroGeneration := b.freshZeroGeneration

def withAcknowledged (identities : Finset QuiescenceIdentity)
    (order : List QuiescenceIdentity) : AutonomyQuiescenceBarrier :=
  { b with acknowledgedIdentities := identities, acknowledgedIdentityOrder := order }

variable (identity : QuiescenceIdentity)

def rememberAcknowledgedIdentity : AutonomyQuiescenceBarrier :=
  if identity ∈ b.acknowledgedIdentities then b
  else
    let b := match b.acknowledgedIdentityOrder with
      | expired :: order =>
        if 32 ≤ b.acknowledgedIdentityOrder.length then
          b.withAcknowledged (b.acknowledgedIdentities.erase expired) order
        else b
      | [] => b
    b.withAcknowledged (insert identity b.acknowledgedIdentities)
      (b.acknowledgedIdentityOrder ++ [identity])

def withTerminalGoals (tokens : Finset String) (order : List String) : AutonomyQuiescenceBarrier :=
  { b with terminalNav2Goals := tokens, terminalNav2GoalOrder := order }

def rememberTerminalNav2Goal (token : String) : AutonomyQuiescenceBarrier :=
  let b := match b.terminalNav2GoalOrder with
    | expired :: order =>
      if 128 ≤ b.terminalNav2GoalOrder.length then
        b.withTerminalGoals (b.terminalNav2Goals.erase expired) order
      else b
    | [] => b
  b.withTerminalGoals (insert token b.terminalNav2Goals) (b.terminalNav2GoalOrder ++ [token])

abbrev Outcome (α : Type) := AutonomyQuiescenceBarrier × Except QuiescenceException α

def raiseFailure {α : Type} (b : AutonomyQuiescenceBarrier) : Outcome α :=
  (b, .error (.quiescenceError b.failureReason))

def acknowledgeCurrent : Outcome Unit :=
  match b.identity with
  | none => (b.failWith "cannot acknowledge quiescence without identity").raiseFailure
  | some identity =>
    ((b.rememberAcknowledgedIdentity identity).withState .acknowledged, .ok ())

def observeAuthority (autonomyActive : Bool) : Outcome Unit :=
  if !b.active then (b.withAuthority (some identity), .ok ())
  else match b.identity with
  | none => (b.failWith "active autonomy quiescence has no identity", .ok ())
  | some expected =>
    let acknowledge : Outcome Unit :=
      match b.acknowledgeCurrent with
      | (b, .ok ()) => (b.withAuthority (some identity), .ok ())
      | raised => raised
    if autonomyActive then
      if identity.managerEpoch ≠ expected.managerEpoch then
        ((b.failWith ("authority manager epoch changed while quiescing: expected=" ++
            toString expected.managerEpoch ++ " observed=" ++
            toString identity.managerEpoch)).withAuthority (some identity), .ok ())
      else if b.state = .ackInFlight then acknowledge
      else
        ((b.failWith "manager resumed autonomy before quiescence ACK started").withAuthority
          (some identity), .ok ())
    else if identity ≠ expected then
      -- a heartbeat of the resumed manager was skipped: the next revocation is seen first
      if b.state = .ackInFlight ∧ identity.managerEpoch = expected.managerEpoch ∧
          identity.revocationSequence > expected.revocationSequence then acknowledge
      else
        (b.failWith ("authority identity changed while quiescing: expected=" ++ expected.text ++
          " observed=" ++ identity.text), .ok ())
    else (b.withAuthority (some identity), .ok ())

def opened
    (requireFrontier : Option Bool) : AutonomyQuiescenceBarrier :=
  { b with
    identity := some identity
    state := .waiting
    failureReason := ""
    frontierRequired := match requireFrontier with
      | none => b.frontierActive
      | some required => required || b.frontierActive
    requiredNav2Goals := b.activeNav2Goals
    stopCommandId := ""
    stopResultObserved := false
    stopCmdVelGeneration := none
    freshZeroGeneration := none }

def begin (requireFrontier : Option Bool) : Outcome Bool :=
  if b.state = .failed then b.raiseFailure
  else if b.active then
    if b.identity = some identity then (b, .ok false)
    else (b.failWith "new autonomy revocation arrived before previous ACK").raiseFailure
  else if b.observedAuthority ≠ some identity then
    (b, .error (.quiescenceError "cannot begin without matching authority observation"))
  else ((b.opened identity requireFrontier).refreshReady, .ok true)

@[irreducible] def ledgerActive (status : String)
    (activeGoalCount acceptedGoalCount terminalGoalCount : ℤ) : Bool :=
  decide (lower (strip status) ∈ frontierActiveStatuses) || decide (activeGoalCount > 0) ||
    decide (acceptedGoalCount > terminalGoalCount)

@[irreducible] def ledgerTerminal (status : String)
    (activeGoalCount acceptedGoalCount terminalGoalCount : ℤ) : Bool :=
  decide (lower (strip status) ∈ frontierTerminalStatuses) && decide (activeGoalCount = 0) &&
    decide (acceptedGoalCount = terminalGoalCount)

def withFrontier (status : String)
    (activeGoalCount acceptedGoalCount terminalGoalCount : ℤ) : AutonomyQuiescenceBarrier :=
  { b with
    frontierActive := ledgerActive status activeGoalCount acceptedGoalCount terminalGoalCount
    frontierTerminal := ledgerTerminal status activeGoalCount acceptedGoalCount terminalGoalCount }

def observeFrontier (status : String)
    (activeGoalCount acceptedGoalCount terminalGoalCount : ℤ) : Outcome Unit :=
  if activeGoalCount < 0 ∨ acceptedGoalCount < 0 ∨ terminalGoalCount < 0 then
    (b, .error (.valueError "frontier ledger counters must be non-negative"))
  else
    let b := b.withFrontier status activeGoalCount acceptedGoalCount terminalGoalCount
    (if b.active && b.frontierRequired then b.refreshReady else b, .ok ())

def withGoal (token : String) : AutonomyQuiescenceBarrier :=
  { b with activeNav2Goals := insert token b.activeNav2Goals }

def nav2GoalStarted (token : String) : Outcome Unit :=
  let normalized := strip token
  if normalized = "" then (b, .error (.valueError "Nav2 goal token must not be empty"))
  else if normalized ∈ b.activeNav2Goals then
    (b, .error (.quiescenceError ("duplicate active Nav2 goal: " ++ normalized)))
  else if normalized ∈ b.terminalNav2Goals then
    (b, .error (.quiescenceError ("reused terminal Nav2 goal token: " ++ normalized)))
  else
    let b := b.withGoal normalized
    (if b.active then b.failWith ("Nav2 goal started after autonomy revocation: " ++ normalized)
      else b, .ok ())

def withoutGoal (token : String) : AutonomyQuiescenceBarrier :=
  { b with
    activeNav2Goals := b.activeNav2Goals.erase token
    requiredNav2Goals := b.requiredNav2Goals.erase token }

def nav2GoalTerminal (token : String) : Outcome Bool :=
  let normalized := strip token
  if normalized = "" then (b, .error (.valueError "Nav2 goal token must not be empty"))
  else if normalized ∉ b.activeNav2Goals then
    let category := if normalized ∈ b.terminalNav2Goals then "duplicate" else "unknown"
    (b.failWith (category ++ " Nav2 terminal token: " ++ normalized)).raiseFailure
  else
    (((b.withoutGoal normalized).rememberTerminalNav2Goal normalized).refreshReady, .ok true)

def requireActive : Except QuiescenceException Unit :=
  if b.state = .failed then .error (.quiescenceError b.failureReason)
  else if !b.active then .error (.quiescenceError "autonomy quiescence is not active")
  else .ok ()

def withStop (commandId : String) (cmdVelGeneration : ℤ) : AutonomyQuiescenceBarrier :=
  { b with
    stopCommandId := commandId
    stopCmdVelGeneration := some cmdVelGeneration
    freshZeroGeneration := none }

def markPriorityStopRequested (commandId : String) (cmdVelGeneration : ℤ) : Outcome Unit :=
  let normalized := strip commandId
  if normalized = "" then
    (b, .error (.valueError "priority STOP command_id must not be empty"))
  else if cmdVelGeneration < 0 then
    (b, .error (.valueError "cmd_vel_generation must be non-negative"))
  else match b.requireActive with
  | .error e => (b, .error e)
  | .ok () =>
    if b.stopCommandId ≠ "" then
      if b.stopCommandId = normalized ∧ b.stopCmdVelGeneration = some cmdVelGeneration then
        (b, .ok ())
      else (b.failWith "priority STOP request changed while quiescing").raiseFailure
    else ((b.withStop normalized cmdVelGeneration).refreshReady, .ok ())

def withStopResult : AutonomyQuiescenceBarrier :=
  { b with stopResultObserved := true }

def observePriorityStopResult (commandId : String)
    (success : Bool) (detail : String) : Outcome Bool :=
  if !b.active || decide (strip commandId ≠ b.stopCommandId) then (b, .ok false)
  else if !success then
    (b.failWith ("priority STOP failed" ++ if detail = "" then "" else ": " ++ detail), .ok true)
  else (b.withStopResult.refreshReady, .ok true)

@[irreducible] def isZero (zeroEpsilon linearX angularZ : Double) : Bool :=
  decide (linearX.abs ≤ zeroEpsilon) && decide (angularZ.abs ≤ zeroEpsilon)

def withVelocity (generation : ℤ) (linearX angularZ : Double) : AutonomyQuiescenceBarrier :=
  { b with
    freshZeroGeneration := if isZero b.zeroEpsilon linearX angularZ then some generation else none }

def observeCmdVel (generation : ℤ) (linearX angularZ : Double) : Outcome Unit :=
  if generation < 0 then (b, .error (.valueError "cmd_vel generation must be non-negative"))
  else if !linearX.isFinite || !angularZ.isFinite then
    (b, .error (.valueError "cmd_vel values must be finite"))
  else if !b.active then (b, .ok ())
  else match b.stopCmdVelGeneration with
  | none => (b, .ok ())
  | some requested =>
    if generation ≤ requested then (b, .ok ())
    else ((b.withVelocity generation linearX angularZ).refreshReady, .ok ())

def checkTimeout (timeoutS : Double) : Except QuiescenceException Unit :=
  if !timeoutS.isFinite || decide (timeoutS < 0) then
    .error (.valueError "quiescence timeout must be finite and non-negative")
  else .ok ()

/-- One pass through the loop, entered at `enteredAt`. -/
def waitReady (timeoutS enteredAt now : Double) : Outcome (Option QuiescenceSnapshot) :=
  match checkTimeout timeoutS with
  | .error e => (b, .error e)
  | .ok () =>
    if b.state = .failed then b.raiseFailure
    else
      let b := b.refreshReady
      if b.state = .ready then (b, .ok (some b.snapshot))
      else if ((enteredAt.add timeoutS).sub now) ≤ 0 then
        let b := b.failWith ("autonomy quiescence timeout missing=" ++ ",".intercalate b.missing)
        (b, .error (.quiescenceTimeout b.failureReason))
      else (b, .ok none)

def waitAcknowledged
    (timeoutS enteredAt now : Double) : Except QuiescenceException (Option QuiescenceSnapshot) :=
  match checkTimeout timeoutS with
  | .error e => .error e
  | .ok () =>
    if identity ∈ b.acknowledgedIdentities then .ok (some b.snapshot)
    else if b.state = .failed then .error (.quiescenceError b.failureReason)
    else if ((enteredAt.add timeoutS).sub now) ≤ 0 then
      .error (.quiescenceTimeout ("autonomy quiescence acknowledgement timeout identity=" ++
        identity.text))
    else .ok none

def beginAcknowledgement : Outcome QuiescenceSnapshot :=
  if b.state = .failed then b.raiseFailure
  else
    let b := b.refreshReady
    if b.state ≠ .ready ∨ b.identity ≠ some identity ∨ b.observedAuthority ≠ some identity then
      (b, .error (.quiescenceError
        "cannot start acknowledgement for incomplete or stale quiescence"))
    else (b.withState .ackInFlight, .ok (b.withState .ackInFlight).snapshot)

def completeAcknowledgement : Outcome Bool :=
  if identity ∈ b.acknowledgedIdentities then (b, .ok false)
  else if b.state = .failed then b.raiseFailure
  else if b.state ≠ .ackInFlight ∨ b.identity ≠ some identity ∨
      b.observedAuthority ≠ some identity ∨ b.missing ≠ [] then
    (b, .error (.quiescenceError
      "cannot complete acknowledgement for incomplete or stale quiescence"))
  else match b.acknowledgeCurrent with
    | (b, .ok ()) => (b, .ok true)
    | (b, .error e) => (b, .error e)

def fail (reason : String) : Outcome Unit :=
  (b.failWith (if reason = "" then "quiescence failed" else reason), .ok ())

/-- The sections that run under the lock of the barrier. -/
inductive Operation
  | observeAuthority (identity : QuiescenceIdentity) (autonomyActive : Bool)
  | begin (identity : QuiescenceIdentity) (requireFrontier : Option Bool)
  | observeFrontier (status : String)
      (activeGoalCount acceptedGoalCount terminalGoalCount : ℤ)
  | nav2GoalStarted (token : String)
  | nav2GoalTerminal (token : String)
  | markPriorityStopRequested (commandId : String) (cmdVelGeneration : ℤ)
  | observePriorityStopResult (commandId : String) (success : Bool) (detail : String)
  | observeCmdVel (generation : ℤ) (linearX angularZ : Double)
  | waitReady (timeoutS enteredAt now : Double)
  | waitAcknowledged (identity : QuiescenceIdentity) (timeoutS enteredAt now : Double)
  | beginAcknowledgement (identity : QuiescenceIdentity)
  | completeAcknowledgement (identity : QuiescenceIdentity)
  | fail (reason : String)
  | snapshot

inductive Answer
  | done
  | flag (value : Bool)
  | taken (snapshot : QuiescenceSnapshot)
  | waits

def Answer.ofWait : Option QuiescenceSnapshot → Answer
  | some snapshot => .taken snapshot
  | none => .waits

def Outcome.answer {α : Type} (o : Outcome α) (f : α → Answer) : Outcome Answer :=
  (o.1, o.2.map f)

def step : Operation → Outcome Answer
  | .observeAuthority identity autonomyActive =>
    (b.observeAuthority identity autonomyActive).answer fun _ ↦ .done
  | .begin identity requireFrontier => (b.begin identity requireFrontier).answer .flag
  | .observeFrontier status active accepted terminal =>
    (b.observeFrontier status active accepted terminal).answer fun _ ↦ .done
  | .nav2GoalStarted token => (b.nav2GoalStarted token).answer fun _ ↦ .done
  | .nav2GoalTerminal token => (b.nav2GoalTerminal token).answer .flag
  | .markPriorityStopRequested commandId cmdVelGeneration =>
    (b.markPriorityStopRequested commandId cmdVelGeneration).answer fun _ ↦ .done
  | .observePriorityStopResult commandId success detail =>
    (b.observePriorityStopResult commandId success detail).answer .flag
  | .observeCmdVel generation linearX angularZ =>
    (b.observeCmdVel generation linearX angularZ).answer fun _ ↦ .done
  | .waitReady timeoutS enteredAt now => (b.waitReady timeoutS enteredAt now).answer .ofWait
  | .waitAcknowledged identity timeoutS enteredAt now =>
    (b, (b.waitAcknowledged identity timeoutS enteredAt now).map .ofWait)
  | .beginAcknowledgement identity => (b.beginAcknowledgement identity).answer .taken
  | .completeAcknowledgement identity => (b.completeAcknowledgement identity).answer .flag
  | .fail reason => (b.fail reason).answer fun _ ↦ .done
  | .snapshot => (b.refreshReady, .ok (.taken b.refreshReady.snapshot))

end AutonomyQuiescenceBarrier

end EmbodiedAgent
