import EmbodiedAgent.Control.Tracker
import EmbodiedAgent.Library.Fallible

namespace EmbodiedAgent

open Library

structure VelocityCommand where
  linearX : Double := 0
  linearY : Double := 0
  linearZ : Double := 0
  angularX : Double := 0
  angularY : Double := 0
  angularZ : Double := 0
  deriving DecidableEq

inductive VelocityGateDecision
  | autonomyAuthorized | keyboardAuthorized | authorityUnseen | authorityStale | hold
  | emergencyStop | autonomyInputUnseen | autonomyInputStale | autonomyInputBeforeTransition
  | autonomyInputQuarantined | keyboardSourceMismatch | keyboardInputUnseen
  | keyboardInputStale | keyboardInputBeforeTransition | keyboardInputQuarantined
  deriving DecidableEq

structure VelocityAuthorityGateConfig where
  authorityLease : ℤ := 750
  autonomyTimeout : ℤ := 600
  keyboardTimeout : ℤ := 600
  maxAbsLinearX : Double := .ofRat (26 / 100)
  maxAbsAngularZ : Double := .ofRat (182 / 100)
  planarAxisEpsilon : Double := .ofRat (1 / 1000000000)
  expectedKeyboardSource : String := "keyboard_teleop"
  deriving DecidableEq

structure VelocityGateOutput where
  velocity : VelocityCommand
  authorized : Bool
  decision : VelocityGateDecision

structure TimedVelocity where
  velocity : VelocityCommand
  receivedAt : ℤ
  deriving DecidableEq

/-- The three members that the gate keeps for each of its velocity sources. -/
structure VelocitySource where
  sample : Option TimedVelocity := none
  quarantineActive : Bool := false
  quarantineQuietSince : Option ℤ := none
  deriving DecidableEq

structure VelocityAuthorityGate where
  config : VelocityAuthorityGateConfig
  authorityTracker : ControlAuthorityTracker
  authorityTransitionAt : Option ℤ := none
  autonomy : VelocitySource := {}
  keyboard : VelocitySource := {}
  deriving DecidableEq

namespace VelocityCommand

variable (velocity : VelocityCommand)

def isFinite : Bool :=
  velocity.linearX.isFinite && velocity.linearY.isFinite && velocity.linearZ.isFinite &&
    velocity.angularX.isFinite && velocity.angularY.isFinite && velocity.angularZ.isFinite

def isZero : Bool :=
  velocity.linearX = 0 && velocity.linearY = 0 && velocity.linearZ = 0 &&
    velocity.angularX = 0 && velocity.angularY = 0 && velocity.angularZ = 0

def isPlanar (axisEpsilon : Double) : Bool :=
  axisEpsilon.isFinite && 0 ≤ axisEpsilon &&
    velocity.linearY.abs ≤ axisEpsilon && velocity.linearZ.abs ≤ axisEpsilon &&
    velocity.angularX.abs ≤ axisEpsilon && velocity.angularY.abs ≤ axisEpsilon

def isWithinSafetyEnvelope (maxAbsLinearX maxAbsAngularZ : Double) : Bool :=
  maxAbsLinearX.isFinite && maxAbsAngularZ.isFinite &&
    0 < maxAbsLinearX && 0 < maxAbsAngularZ &&
    velocity.linearX.abs ≤ maxAbsLinearX && velocity.angularZ.abs ≤ maxAbsAngularZ

end VelocityCommand

def VelocityAuthorityGateConfig.admits (config : VelocityAuthorityGateConfig)
    (velocity : VelocityCommand) : Bool :=
  velocity.isFinite && velocity.isPlanar config.planarAxisEpsilon &&
    velocity.isWithinSafetyEnvelope config.maxAbsLinearX config.maxAbsAngularZ

namespace VelocityAuthorityGate

variable (g : VelocityAuthorityGate)

def requirePositive (value : ℤ) (name : String) : Except String Unit :=
  if value ≤ 0 then .error (name ++ " must be greater than zero") else .ok ()

def requirePositiveFinite (value : Double) (name : String) : Except String Unit :=
  if !value.isFinite ∨ value ≤ 0 then
    .error (name ++ " must be finite and greater than zero")
  else .ok ()

def create (config : VelocityAuthorityGateConfig) : Except String VelocityAuthorityGate := do
  let authorityTracker ← ControlAuthorityTracker.create config.authorityLease
  requirePositive config.authorityLease "authority_lease"
  requirePositive config.autonomyTimeout "autonomy_timeout"
  requirePositive config.keyboardTimeout "keyboard_timeout"
  requirePositiveFinite config.maxAbsLinearX "max_abs_linear_x"
  requirePositiveFinite config.maxAbsAngularZ "max_abs_angular_z"
  if !config.planarAxisEpsilon.isFinite ∨ config.planarAxisEpsilon < 0 then
    .error "planar_axis_epsilon must be finite and greater than or equal to zero"
  else if config.expectedKeyboardSource = "" then
    .error "expected_keyboard_source must not be empty"
  else .ok { config := config, authorityTracker := authorityTracker }

def startSourceQuarantine (transitionAt : ℤ) : VelocitySource :=
  { sample := none, quarantineActive := true, quarantineQuietSince := some transitionAt }

def quietFor (quietSince : Option ℤ) (timeout receivedAt : ℤ) : Bool :=
  match quietSince with
  | some quiet => quiet ≤ receivedAt && nanoseconds timeout ≤ receivedAt - quiet
  | none => false

def updateSource (config : VelocityAuthorityGateConfig) (source : VelocitySource)
    (velocity : VelocityCommand) (timeout receivedAt : ℤ) : VelocitySource × Bool :=
  if !config.admits velocity then
    ({ source with
        sample := none
        quarantineQuietSince :=
          if source.quarantineActive then some receivedAt else source.quarantineQuietSince },
      false)
  else if source.quarantineActive then
    if velocity.isZero then ({}, true)
    else if quietFor source.quarantineQuietSince timeout receivedAt then ({}, false)
    else ({ source with sample := none, quarantineQuietSince := some receivedAt }, false)
  else ({ source with sample := some ⟨velocity, receivedAt⟩ }, true)

def updateAuthority (snapshot : ControlAuthoritySnapshot)
    (receivedAt : ℤ) : VelocityAuthorityGate × Bool :=
  let (authorityTracker, update) := g.authorityTracker.update snapshot receivedAt
  if !update.accepted then ({ g with authorityTracker := authorityTracker }, false)
  else if !update.generationChanged then ({ g with authorityTracker := authorityTracker }, true)
  else
    ({ g with
        authorityTracker := authorityTracker
        authorityTransitionAt := some receivedAt
        autonomy :=
          if snapshot.authority = .autonomy then startSourceQuarantine receivedAt else {}
        keyboard := {} }, true)

def updateAutonomy (velocity : VelocityCommand) (receivedAt : ℤ) : VelocityAuthorityGate × Bool :=
  let (source, stored) :=
    updateSource g.config g.autonomy velocity g.config.autonomyTimeout receivedAt
  ({ g with autonomy := source }, stored)

def updateKeyboard (velocity : VelocityCommand) (receivedAt : ℤ) : VelocityAuthorityGate × Bool :=
  let (source, stored) :=
    updateSource g.config g.keyboard velocity g.config.keyboardTimeout receivedAt
  ({ g with keyboard := source }, stored)

def evaluateSource (source : VelocitySource) (transitionAt timeout now : ℤ)
    (authorized unseen stale beforeTransition quarantined : VelocityGateDecision) :
    VelocityGateOutput :=
  if source.quarantineActive then ⟨{}, false, quarantined⟩
  else match source.sample with
  | none => ⟨{}, false, unseen⟩
  | some sample =>
    if sample.receivedAt < transitionAt then ⟨{}, false, beforeTransition⟩
    else if ¬ Fresh sample.receivedAt timeout now then ⟨{}, false, stale⟩
    else ⟨sample.velocity, true, authorized⟩

def evaluate (now : ℤ) : VelocityGateOutput :=
  match g.authorityTracker.observed, g.authorityTransitionAt with
  | true, some transitionAt =>
    if !g.authorityTracker.fresh now then ⟨{}, false, .authorityStale⟩
    else match g.authorityTracker.authority with
    | .hold => ⟨{}, false, .hold⟩
    | .estop => ⟨{}, false, .emergencyStop⟩
    | .autonomy =>
      evaluateSource g.autonomy transitionAt g.config.autonomyTimeout now .autonomyAuthorized
        .autonomyInputUnseen .autonomyInputStale .autonomyInputBeforeTransition
        .autonomyInputQuarantined
    | .keyboard =>
      match g.authorityTracker.snapshot with
      | none => ⟨{}, false, .keyboardSourceMismatch⟩
      | some snapshot =>
        if snapshot.activeSource ≠ g.config.expectedKeyboardSource then
          ⟨{}, false, .keyboardSourceMismatch⟩
        else
          evaluateSource g.keyboard transitionAt g.config.keyboardTimeout now .keyboardAuthorized
            .keyboardInputUnseen .keyboardInputStale .keyboardInputBeforeTransition
            .keyboardInputQuarantined
  | _, _ => ⟨{}, false, .authorityUnseen⟩

end VelocityAuthorityGate

/-- The two velocity inputs of the gate. -/
inductive Channel
  | autonomy | keyboard
  deriving DecidableEq

namespace Channel

def timeout (config : VelocityAuthorityGateConfig) : Channel → ℤ
  | .autonomy => config.autonomyTimeout
  | .keyboard => config.keyboardTimeout

def source (g : VelocityAuthorityGate) : Channel → VelocitySource
  | .autonomy => g.autonomy
  | .keyboard => g.keyboard

def authorized : Channel → VelocityGateDecision
  | .autonomy => .autonomyAuthorized
  | .keyboard => .keyboardAuthorized

def OwnedBy (config : VelocityAuthorityGateConfig) (s : ControlAuthoritySnapshot) :
    Channel → Prop
  | .autonomy => s.authority = .autonomy
  | .keyboard => s.authority = .keyboard ∧ s.activeSource = config.expectedKeyboardSource

end Channel

namespace VelocityAuthorityGate

theorem create_spec {config : VelocityAuthorityGateConfig} {g : VelocityAuthorityGate}
    (hg : create config = .ok g) :
    ∃ k, ControlAuthorityTracker.create config.authorityLease = .ok k ∧
      g = { config := config, authorityTracker := k } := by
  obtain ⟨k, hk, hg⟩ := exists_ok_of_bind hg
  obtain ⟨_, -, hg⟩ := exists_ok_of_bind hg
  obtain ⟨_, -, hg⟩ := exists_ok_of_bind hg
  obtain ⟨_, -, hg⟩ := exists_ok_of_bind hg
  obtain ⟨_, -, hg⟩ := exists_ok_of_bind hg
  obtain ⟨_, -, hg⟩ := exists_ok_of_bind hg
  refine ⟨k, hk, ?_⟩
  split_ifs at hg
  cases hg
  rfl

variable (g : VelocityAuthorityGate) (now : ℤ)

inductive Verdict : VelocityGateOutput → Prop
  | silent (decision : VelocityGateDecision)
      (hdecision : decision ∉ [Channel.autonomy.authorized, Channel.keyboard.authorized]) :
      Verdict ⟨{}, false, decision⟩
  | motion (channel : Channel) (s : ControlAuthoritySnapshot) (transitionAt : ℤ)
      (sample : TimedVelocity) (held : g.authorityTracker.state = some s)
      (alive : g.authorityTracker.fresh now = true) (owned : channel.OwnedBy g.config s)
      (transition : g.authorityTransitionAt = some transitionAt)
      (released : (channel.source g).quarantineActive = false)
      (stored : (channel.source g).sample = some sample)
      (after : transitionAt ≤ sample.receivedAt)
      (fresh : Fresh sample.receivedAt (channel.timeout g.config) now) :
      Verdict ⟨sample.velocity, true, channel.authorized⟩

theorem evaluateSource_verdict (channel : Channel) {s : ControlAuthoritySnapshot}
    {transitionAt : ℤ} {unseen stale beforeTransition quarantined : VelocityGateDecision}
    (held : g.authorityTracker.state = some s) (alive : g.authorityTracker.fresh now = true)
    (owned : channel.OwnedBy g.config s) (transition : g.authorityTransitionAt = some transitionAt)
    (hsilent : ∀ d ∈ [unseen, stale, beforeTransition, quarantined],
      d ∉ [Channel.autonomy.authorized, Channel.keyboard.authorized]) :
    Verdict g now (evaluateSource (channel.source g) transitionAt (channel.timeout g.config) now
      channel.authorized unseen stale beforeTransition quarantined) := by
  unfold evaluateSource
  by_cases hq : (channel.source g).quarantineActive = true
  · rw [if_pos hq]
    exact .silent _ (hsilent _ (by simp))
  rw [if_neg hq]
  cases hsample : (channel.source g).sample with
  | none => exact .silent _ (hsilent _ (by simp))
  | some sample =>
    dsimp only
    split_ifs with hbefore hstale
    · exact .silent _ (hsilent _ (by simp))
    · exact .motion channel s transitionAt sample held alive owned transition (by simpa using hq)
        hsample (not_lt.mp hbefore) hstale
    · exact .silent _ (hsilent _ (by simp))

theorem evaluate_verdict : Verdict g now (g.evaluate now) := by
  unfold evaluate
  split
  next transitionAt hobserved htransition =>
    by_cases halive : g.authorityTracker.fresh now = true
    · obtain ⟨s, -, hstate, -, -⟩ := ControlAuthorityTracker.fresh_iff_exists.mp halive
      have hauthority : g.authorityTracker.authority = s.authority := by
        simp only [ControlAuthorityTracker.authority, hstate]
      rw [if_neg (by simpa using halive)]
      cases howner : g.authorityTracker.authority with
      | hold | estop => exact .silent _ (by decide)
      | autonomy =>
        exact g.evaluateSource_verdict now .autonomy hstate halive
          (hauthority.symm.trans howner) htransition (by decide)
      | keyboard =>
        simp only [ControlAuthorityTracker.snapshot, hstate]
        split_ifs with hsource
        · exact .silent _ (by decide)
        · exact g.evaluateSource_verdict now .keyboard hstate halive
            ⟨hauthority.symm.trans howner, not_not.mp hsource⟩ htransition (by decide)
    · rw [if_pos (by simpa using halive)]
      exact .silent _ (by decide)
  next => exact .silent _ (by decide)

end VelocityAuthorityGate

end EmbodiedAgent
