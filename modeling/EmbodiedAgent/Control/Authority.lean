import Mathlib.Data.List.Basic

namespace EmbodiedAgent

inductive ControlAuthority
  | hold | autonomy | keyboard | estop
  deriving DecidableEq

inductive ControlAuthorityCommand
  | takeKeyboard | releaseKeyboard | enterHold | resumeAutonomy | emergencyStop
  | resetEmergencyStop
  deriving DecidableEq

structure ControlAuthoritySnapshot where
  authority : ControlAuthority := .hold
  estopLatched : Bool := false
  managerEpoch : UInt64 := 1
  transitionSequence : UInt64 := 0
  pendingAutonomyRevocationSequence : UInt64 := 0
  autonomyQuiescenceAcknowledged : Bool := true
  activeSource : String := ""
  reason : String := "initialized"
  deriving DecidableEq

structure ControlAuthorityRequest where
  command : ControlAuthorityCommand := .enterHold
  requester : String := ""
  reason : String := ""

structure AutonomyQuiescenceAcknowledgement where
  managerEpoch : UInt64 := 0
  autonomyRevocationSequence : UInt64 := 0
  requester : String := ""
  detail : String := ""

structure ControlAuthorityTransition where
  accepted : Bool := false
  changed : Bool := false
  stopRequested : Bool := false
  message : String := ""
  state : ControlAuthoritySnapshot

/-- The manager's state machine over the owners of motion; its epoch is never zero. -/
structure ControlAuthorityMachine where
  state : ControlAuthoritySnapshot
  epoch_ne_zero : state.managerEpoch ≠ 0

def transitionReason (request : ControlAuthorityRequest) (fallback : String) : String :=
  if request.reason = "" then fallback else request.reason

namespace ControlAuthorityMachine

variable (m : ControlAuthorityMachine)

def create (managerEpoch : UInt64) (bootstrapQuiescenceAcknowledged : Bool) :
    Except String ControlAuthorityMachine :=
  if h : managerEpoch = 0 then .error "manager_epoch must be greater than zero"
  else .ok
    { state := { managerEpoch := managerEpoch,
                 autonomyQuiescenceAcknowledged := bootstrapQuiescenceAcknowledged }
      epoch_ne_zero := h }

def idempotent (message : String) : ControlAuthorityTransition :=
  { accepted := true, message := message, state := m.state }

def reject (message : String) : ControlAuthorityTransition :=
  { message := message, state := m.state }

def transitionTo (authority : ControlAuthority)
    (activeSource reason message : String) (stopRequested : Bool) :
    ControlAuthorityMachine × ControlAuthorityTransition :=
  let revokesAutonomy := m.state.authority = .autonomy ∧ authority ≠ .autonomy
  let sequence := m.state.transitionSequence + 1
  let state : ControlAuthoritySnapshot :=
    { m.state with
      authority := authority
      estopLatched := authority = .estop
      transitionSequence := sequence
      pendingAutonomyRevocationSequence :=
        if revokesAutonomy then sequence
        else if authority = .autonomy then 0
        else m.state.pendingAutonomyRevocationSequence
      autonomyQuiescenceAcknowledged :=
        if revokesAutonomy then false
        else if authority = .autonomy then false
        else m.state.autonomyQuiescenceAcknowledged
      activeSource := activeSource
      reason := reason }
  (⟨state, m.epoch_ne_zero⟩,
    { accepted := true, changed := true, stopRequested := stopRequested, message := message,
      state := state })

def request (request : ControlAuthorityRequest) :
    ControlAuthorityMachine × ControlAuthorityTransition :=
  if request.requester = "" then (m, m.reject "requester_must_not_be_empty")
  else match request.command with
  | .takeKeyboard =>
    if m.state.authority = .estop then (m, m.reject "reset_estop_before_keyboard_takeover")
    else if m.state.authority = .keyboard then
      if m.state.activeSource ≠ request.requester then
        (m, m.reject "keyboard_owned_by_another_requester")
      else (m, m.idempotent "keyboard_already_active")
    else
      m.transitionTo .keyboard request.requester (transitionReason request "keyboard_takeover")
        "keyboard_granted" (m.state.authority = .autonomy)
  | .releaseKeyboard =>
    if m.state.authority = .estop then (m, m.reject "reset_estop_before_keyboard_release")
    else if m.state.authority = .hold then (m, m.idempotent "keyboard_already_released")
    else if m.state.authority ≠ .keyboard then (m, m.reject "keyboard_is_not_active")
    else if m.state.activeSource ≠ request.requester then
      (m, m.reject "keyboard_owned_by_another_requester")
    else
      m.transitionTo .hold "" (transitionReason request "keyboard_released")
        "keyboard_released_to_hold" true
  | .enterHold =>
    if m.state.authority = .estop then (m, m.reject "reset_estop_before_entering_hold")
    else if m.state.authority = .hold then (m, m.idempotent "already_holding")
    else
      m.transitionTo .hold "" (transitionReason request "hold_requested") "entered_hold" true
  | .resumeAutonomy =>
    if m.state.authority = .estop then (m, m.reject "reset_estop_before_resuming")
    else if m.state.authority = .keyboard then (m, m.reject "release_keyboard_before_resuming")
    else if m.state.authority = .autonomy then (m, m.idempotent "autonomy_already_active")
    else if !m.state.autonomyQuiescenceAcknowledged then
      (m, m.reject "autonomy_quiescence_not_acknowledged")
    else
      m.transitionTo .autonomy "autonomy" (transitionReason request "autonomy_resumed")
        "autonomy_resumed" false
  | .emergencyStop =>
    if m.state.authority = .estop then (m, m.idempotent "emergency_stop_already_latched")
    else
      m.transitionTo .estop request.requester (transitionReason request "emergency_stop")
        "emergency_stop_latched" true
  | .resetEmergencyStop =>
    if m.state.authority ≠ .estop then (m, m.reject "emergency_stop_is_not_latched")
    else
      m.transitionTo .hold "" (transitionReason request "emergency_stop_reset")
        "emergency_stop_reset_to_hold" false

def acknowledged (detail : String) : ControlAuthorityMachine where
  state :=
    { m.state with
      autonomyQuiescenceAcknowledged := true
      transitionSequence := m.state.transitionSequence + 1
      reason := if detail = "" then "autonomy_quiescence_acknowledged" else detail }
  epoch_ne_zero := m.epoch_ne_zero

def acknowledgeAutonomyQuiescence (acknowledgement : AutonomyQuiescenceAcknowledgement) :
    ControlAuthorityMachine × ControlAuthorityTransition :=
  if acknowledgement.requester = "" then (m, m.reject "requester_must_not_be_empty")
  else if acknowledgement.managerEpoch ≠ m.state.managerEpoch then
    (m, m.reject "manager_epoch_mismatch")
  else if m.state.authority = .autonomy then (m, m.reject "autonomy_is_active")
  else if acknowledgement.autonomyRevocationSequence ≠
      m.state.pendingAutonomyRevocationSequence then
    (m, m.reject "autonomy_revocation_sequence_mismatch")
  else if m.state.autonomyQuiescenceAcknowledged then
    (m, m.idempotent "autonomy_quiescence_already_acknowledged")
  else
    (m.acknowledged acknowledgement.detail,
      { accepted := true, changed := true, message := "autonomy_quiescence_acknowledged",
        state := (m.acknowledged acknowledgement.detail).state })

def snapshot : ControlAuthoritySnapshot := m.state

variable (m : ControlAuthorityMachine)

inductive Move (r : ControlAuthorityRequest) : ControlAuthority → String → Prop
  | takeKeyboard (command : r.command = .takeKeyboard)
      (owner : m.state.authority = .hold ∨ m.state.authority = .autonomy) :
      Move r .keyboard r.requester
  | releaseKeyboard (command : r.command = .releaseKeyboard)
      (owner : m.state.authority = .keyboard) : Move r .hold ""
  | enterHold (command : r.command = .enterHold)
      (owner : m.state.authority = .autonomy ∨ m.state.authority = .keyboard) : Move r .hold ""
  | resumeAutonomy (command : r.command = .resumeAutonomy) (owner : m.state.authority = .hold)
      (acknowledged : m.state.autonomyQuiescenceAcknowledged = true) : Move r .autonomy "autonomy"
  | emergencyStop (command : r.command = .emergencyStop)
      (owner : m.state.authority ≠ .estop) : Move r .estop r.requester
  | resetEmergencyStop (command : r.command = .resetEmergencyStop)
      (owner : m.state.authority = .estop) : Move r .hold ""

/-- A call on the machine, as the manager node makes it for its two services. -/
inductive Call
  | request (request : ControlAuthorityRequest)
  | acknowledge (acknowledgement : AutonomyQuiescenceAcknowledgement)

def step : Call → ControlAuthorityMachine × ControlAuthorityTransition
  | .request r => m.request r
  | .acknowledge a => m.acknowledgeAutonomyQuiescence a

inductive Outcome : Call → ControlAuthorityMachine × ControlAuthorityTransition → Prop
  | rejected (c : Call) (message : String) : Outcome c (m, m.reject message)
  | idempotent (c : Call) (message : String) : Outcome c (m, m.idempotent message)
  | moved (r : ControlAuthorityRequest) (authority : ControlAuthority)
      (source reason message : String) (stop : Bool) (requester : r.requester ≠ "")
      (move : Move m r authority source) :
      Outcome (.request r) (m.transitionTo authority source reason message stop)
  | acknowledged (a : AutonomyQuiescenceAcknowledgement)
      (epoch : a.managerEpoch = m.state.managerEpoch) (owner : m.state.authority ≠ .autonomy)
      (revocation : a.autonomyRevocationSequence = m.state.pendingAutonomyRevocationSequence)
      (message : String) :
      Outcome (.acknowledge a) (m.acknowledged a.detail,
        { accepted := true, changed := true, message := message,
          state := (m.acknowledged a.detail).state })

theorem request_outcome (r : ControlAuthorityRequest) : Outcome m (.request r) (m.request r) := by
  by_cases hr : r.requester = ""
  · rw [request, if_pos hr]
    exact .rejected _ _
  rw [request, if_neg hr]
  cases hc : r.command with
  | takeKeyboard =>
    dsimp only
    split_ifs with hestop hkeyboard howner
    · exact .rejected _ _
    · exact .rejected _ _
    · exact .idempotent _ _
    · have howner : m.state.authority = .hold ∨ m.state.authority = .autonomy := by
        cases ha : m.state.authority <;> simp_all
      exact .moved _ _ _ _ _ _ hr (.takeKeyboard hc howner)
  | releaseKeyboard =>
    dsimp only
    split_ifs with hestop hhold hkeyboard howner
    · exact .rejected _ _
    · exact .idempotent _ _
    · exact .rejected _ _
    · exact .rejected _ _
    · exact .moved _ _ _ _ _ _ hr (.releaseKeyboard hc (not_not.mp hkeyboard))
  | enterHold =>
    dsimp only
    split_ifs with hestop hhold
    · exact .rejected _ _
    · exact .idempotent _ _
    · have howner : m.state.authority = .autonomy ∨ m.state.authority = .keyboard := by
        cases ha : m.state.authority <;> simp_all
      exact .moved _ _ _ _ _ _ hr (.enterHold hc howner)
  | resumeAutonomy =>
    dsimp only
    split_ifs with hestop hkeyboard hautonomy hack
    · exact .rejected _ _
    · exact .rejected _ _
    · exact .idempotent _ _
    · exact .rejected _ _
    · have howner : m.state.authority = .hold := by
        cases ha : m.state.authority <;> simp_all
      exact .moved _ _ _ _ _ _ hr (.resumeAutonomy hc howner (by simpa using hack))
  | emergencyStop =>
    dsimp only
    split_ifs with hestop
    · exact .idempotent _ _
    · exact .moved _ _ _ _ _ _ hr (.emergencyStop hc hestop)
  | resetEmergencyStop =>
    dsimp only
    split_ifs with hestop
    · exact .rejected _ _
    · exact .moved _ _ _ _ _ _ hr (.resetEmergencyStop hc (not_not.mp hestop))

theorem acknowledge_outcome (a : AutonomyQuiescenceAcknowledgement) :
    Outcome m (.acknowledge a) (m.acknowledgeAutonomyQuiescence a) := by
  unfold acknowledgeAutonomyQuiescence
  split_ifs with hr hepoch howner hsequence hack
  · exact .rejected _ _
  · exact .rejected _ _
  · exact .rejected _ _
  · exact .rejected _ _
  · exact .idempotent _ _
  · exact .acknowledged _ (not_not.mp hepoch) howner (not_not.mp hsequence) _

theorem step_outcome (c : Call) : Outcome m c (m.step c) := by
  cases c with
  | request r => exact m.request_outcome r
  | acknowledge a => exact m.acknowledge_outcome a

variable {m} {c : Call} {out : ControlAuthorityMachine × ControlAuthorityTransition}

theorem Outcome.answer_state (h : Outcome m c out) : out.2.state = out.1.state := by
  cases h <;> rfl

theorem Outcome.epoch (h : Outcome m c out) : out.1.state.managerEpoch = m.state.managerEpoch := by
  cases h <;> rfl

theorem Outcome.unchanged (h : Outcome m c out) (hc : out.2.changed = false) : out.1 = m := by
  cases h with
  | rejected | idempotent => rfl
  | moved | acknowledged => cases hc

theorem Outcome.changed (h : Outcome m c out) (hc : out.2.changed = true) : out.2.accepted = true ∧
      out.1.state.transitionSequence = m.state.transitionSequence + 1 := by
  cases h with
  | rejected | idempotent => cases hc
  | moved | acknowledged => exact ⟨rfl, rfl⟩

end ControlAuthorityMachine

end EmbodiedAgent
