import EmbodiedAgent.Control.Authority
import EmbodiedAgent.Library.SteadyClock

namespace EmbodiedAgent

open Library

inductive AuthorityUpdateDecision
  | acceptedInitial | acceptedHeartbeat | acceptedTransition | acceptedManagerRestart
  | rejectedInvalidPayload | rejectedRetiredEpoch | rejectedUnsafeEpochBootstrap
  | rejectedLeaseDiscontinuity | rejectedOldSequence | rejectedConflictingHeartbeat
  | rejectedReorderedReceipt

structure AuthorityUpdateResult where
  accepted : Bool := false
  generationChanged : Bool := false
  leaseDiscontinuity : Bool := false
  decision : AuthorityUpdateDecision := .rejectedInvalidPayload

/-- What a consumer of the authority topic keeps about its manager. -/
structure ControlAuthorityTracker where
  lease : ℤ
  lease_pos : 0 < lease
  state : Option ControlAuthoritySnapshot := none
  receivedAt : Option ℤ := none
  generation : UInt64 := 0
  retiredEpochs : Finset UInt64 := ∅
  deriving DecidableEq

namespace ControlAuthorityTracker

variable (k : ControlAuthorityTracker)

def create (lease : ℤ) : Except String ControlAuthorityTracker :=
  if h : lease ≤ 0 then .error "authority lease must be greater than zero"
  else .ok { lease := lease, lease_pos := by omega }

def payloadIsValid (snapshot : ControlAuthoritySnapshot) : Bool :=
  if snapshot.managerEpoch = 0 ∨
      snapshot.estopLatched ≠ decide (snapshot.authority = .estop) ∨
      snapshot.pendingAutonomyRevocationSequence > snapshot.transitionSequence then false
  else if snapshot.authority = .autonomy ∧
      (snapshot.pendingAutonomyRevocationSequence ≠ 0 ∨
        snapshot.autonomyQuiescenceAcknowledged = true) then false
  else if snapshot.authority = .hold then decide (snapshot.activeSource = "")
  else decide (snapshot.activeSource ≠ "")

def payloadMatches (state snapshot : ControlAuthoritySnapshot) : Bool :=
  state.authority = snapshot.authority &&
  state.estopLatched = snapshot.estopLatched &&
  state.managerEpoch = snapshot.managerEpoch &&
  state.transitionSequence = snapshot.transitionSequence &&
  state.pendingAutonomyRevocationSequence = snapshot.pendingAutonomyRevocationSequence &&
  state.autonomyQuiescenceAcknowledged = snapshot.autonomyQuiescenceAcknowledged &&
  state.activeSource = snapshot.activeSource &&
  state.reason = snapshot.reason

def safeManagerBootstrap (snapshot : ControlAuthoritySnapshot) : Bool :=
  snapshot.managerEpoch ≠ 0 &&
  snapshot.transitionSequence = 0 &&
  snapshot.authority = .hold &&
  !snapshot.estopLatched &&
  snapshot.pendingAutonomyRevocationSequence = 0 &&
  snapshot.activeSource = "" &&
  snapshot.reason = "initialized"

def accept (snapshot : ControlAuthoritySnapshot)
    (receivedAt : ℤ) (decision : AuthorityUpdateDecision)
    (generationChanged leaseDiscontinuity : Bool) :
    ControlAuthorityTracker × AuthorityUpdateResult :=
  ({ k with
      state := some snapshot
      receivedAt := some receivedAt
      generation := if generationChanged then k.generation + 1 else k.generation },
    { accepted := true, generationChanged := generationChanged,
      leaseDiscontinuity := leaseDiscontinuity, decision := decision })

def update (snapshot : ControlAuthoritySnapshot)
    (receivedAt : ℤ) : ControlAuthorityTracker × AuthorityUpdateResult :=
  if !payloadIsValid snapshot then (k, { decision := .rejectedInvalidPayload })
  else match k.state, k.receivedAt with
  | some state, some previous =>
    if receivedAt < previous then (k, { decision := .rejectedReorderedReceipt })
    else if snapshot.managerEpoch ≠ state.managerEpoch then
      if snapshot.managerEpoch ∈ k.retiredEpochs then (k, { decision := .rejectedRetiredEpoch })
      else if !safeManagerBootstrap snapshot then
        (k, { decision := .rejectedUnsafeEpochBootstrap })
      else
        { k with retiredEpochs := insert state.managerEpoch k.retiredEpochs }.accept
          snapshot receivedAt .acceptedManagerRestart true true
    else if receivedAt - previous > nanoseconds k.lease then
      (k, { leaseDiscontinuity := true, decision := .rejectedLeaseDiscontinuity })
    else if snapshot.transitionSequence < state.transitionSequence then
      (k, { decision := .rejectedOldSequence })
    else if snapshot.transitionSequence = state.transitionSequence then
      if !payloadMatches state snapshot then (k, { decision := .rejectedConflictingHeartbeat })
      else
        ({ k with receivedAt := some receivedAt },
          { accepted := true, decision := .acceptedHeartbeat })
    else k.accept snapshot receivedAt .acceptedTransition true false
  | _, _ => k.accept snapshot receivedAt .acceptedInitial true false

def observed : Bool := k.state.isSome && k.receivedAt.isSome

def fresh (now : ℤ) : Bool :=
  match k.state, k.receivedAt with
  | some _, some previous => decide (Fresh previous k.lease now)
  | _, _ => false

def authority : ControlAuthority :=
  match k.state with
  | some state => state.authority
  | none => .hold

def freshAutonomy (now : ℤ) : Bool :=
  k.fresh now && decide (k.authority = .autonomy)

def snapshot : Option ControlAuthoritySnapshot := k.state

theorem create_spec {lease : ℤ} {k : ControlAuthorityTracker} (hk : create lease = .ok k) :
    k.lease = lease ∧ k.state = none ∧ k.receivedAt = none ∧ k.generation = 0 ∧
      k.retiredEpochs = ∅ := by
  unfold create at hk
  split_ifs at hk
  cases hk
  exact ⟨rfl, rfl, rfl, rfl, rfl⟩

theorem payloadMatches_iff (state snapshot : ControlAuthoritySnapshot) :
    payloadMatches state snapshot = true ↔ state = snapshot := by
  cases state
  cases snapshot
  simp [payloadMatches, and_assoc]

theorem safeManagerBootstrap_spec {s : ControlAuthoritySnapshot}
    (h : safeManagerBootstrap s = true) : s.transitionSequence = 0 ∧ s.authority = .hold := by
  simp only [safeManagerBootstrap, Bool.and_eq_true, decide_eq_true_eq] at h
  tauto

variable (k : ControlAuthorityTracker) (s : ControlAuthoritySnapshot) (t : ℤ)

inductive Outcome : ControlAuthorityTracker × AuthorityUpdateResult → Prop
  | rejected (discontinuity : Bool) (decision : AuthorityUpdateDecision) :
      Outcome (k, { leaseDiscontinuity := discontinuity, decision := decision })
  | initial (valid : payloadIsValid s = true) (unseen : k.state = none ∨ k.receivedAt = none) :
      Outcome (k.accept s t .acceptedInitial true false)
  | restart (state : ControlAuthoritySnapshot) (previous : ℤ)
      (hstate : k.state = some state) (hprevious : k.receivedAt = some previous)
      (ordered : previous ≤ t) (epoch : s.managerEpoch ≠ state.managerEpoch)
      (unused : s.managerEpoch ∉ k.retiredEpochs) (bootstrap : safeManagerBootstrap s = true) :
      Outcome ({ k with retiredEpochs := insert state.managerEpoch k.retiredEpochs }.accept
        s t .acceptedManagerRestart true true)
  | heartbeat (previous : ℤ) (hstate : k.state = some s)
      (hprevious : k.receivedAt = some previous) (alive : Fresh previous k.lease t) :
      Outcome ({ k with receivedAt := some t },
        { accepted := true, decision := .acceptedHeartbeat })
  | transition (state : ControlAuthoritySnapshot) (previous : ℤ)
      (hstate : k.state = some state) (hprevious : k.receivedAt = some previous)
      (alive : Fresh previous k.lease t) (epoch : s.managerEpoch = state.managerEpoch)
      (later : state.transitionSequence < s.transitionSequence) :
      Outcome (k.accept s t .acceptedTransition true false)

theorem update_outcome : Outcome k s t (k.update s t) := by
  by_cases hvalid : payloadIsValid s = true
  · simp only [update, hvalid, Bool.not_true, Bool.false_eq_true, if_false]
    cases hstate : k.state with
    | none => exact .initial hvalid (.inl hstate)
    | some state =>
      cases hprevious : k.receivedAt with
      | none => exact .initial hvalid (.inr hprevious)
      | some previous =>
        dsimp only
        split_ifs with hordered hepoch hretired hbootstrap hlease hold hsame hmatch
        · exact .rejected _ _
        · exact .rejected _ _
        · exact .rejected _ _
        · exact .restart state previous hstate hprevious (not_lt.mp hordered) hepoch hretired
            (by simpa using hbootstrap)
        · exact .rejected _ _
        · exact .rejected _ _
        · exact .rejected _ _
        · have heq : state = s := (payloadMatches_iff state s).mp (by simpa using hmatch)
          rw [← hstate]
          exact .heartbeat previous (heq ▸ hstate) hprevious
            ⟨not_lt.mp hordered, not_lt.mp hlease⟩
        · have hlater : state.transitionSequence < s.transitionSequence := by grind
          exact .transition state previous hstate hprevious
            ⟨not_lt.mp hordered, not_lt.mp hlease⟩ (not_not.mp hepoch) hlater
  · rw [update, if_pos (by simpa using hvalid)]
    exact .rejected _ _

theorem update_effect :
    ((k.update s t).2.accepted = false ∧ (k.update s t).2.generationChanged = false ∧
      (k.update s t).1 = k) ∨
    ((k.update s t).2.accepted = true ∧ (k.update s t).2.generationChanged = false ∧
      k.state = some s ∧ (∃ previous, k.receivedAt = some previous ∧ previous ≤ t) ∧
      (k.update s t).1 = { k with receivedAt := some t }) ∨
    ((k.update s t).2.accepted = true ∧ (k.update s t).2.generationChanged = true ∧
      (k.update s t).1.lease = k.lease ∧ (k.update s t).1.state = some s ∧
      (k.update s t).1.receivedAt = some t ∧
      (k.update s t).1.generation = k.generation + 1) := by
  have ho := update_outcome k s t
  generalize k.update s t = out at ho ⊢
  cases ho with
  | rejected => exact .inl ⟨rfl, rfl, rfl⟩
  | heartbeat previous hstate hprevious halive =>
    exact .inr (.inl ⟨rfl, rfl, hstate, ⟨previous, hprevious, halive.1⟩, rfl⟩)
  | initial | restart | transition => exact .inr (.inr ⟨rfl, rfl, rfl, rfl, rfl, rfl⟩)

variable {k s t}

theorem rejected_keeps (h : (k.update s t).2.accepted = false) : (k.update s t).1 = k := by
  rcases update_effect k s t with ⟨-, -, hk⟩ | ⟨ha, -⟩ | ⟨ha, -⟩
  · exact hk
  · cases h.symm.trans ha
  · cases h.symm.trans ha

theorem accepted_held (h : (k.update s t).2.accepted = true) :
    (k.update s t).1.state = some s ∧ (k.update s t).1.receivedAt = some t := by
  rcases update_effect k s t with ⟨ha, -⟩ | ⟨-, -, hstate, -, hk⟩ | ⟨-, -, -, hstate, hreceived, -⟩
  · cases ha.symm.trans h
  · rw [hk]
    exact ⟨hstate, rfl⟩
  · exact ⟨hstate, hreceived⟩

theorem accepted_of_changed (h : (k.update s t).2.generationChanged = true) :
    (k.update s t).2.accepted = true := by
  rcases update_effect k s t with ⟨-, hc, -⟩ | ⟨ha, -⟩ | ⟨ha, -⟩
  · cases hc.symm.trans h
  · exact ha
  · exact ha

theorem same_generation_held (h : (k.update s t).2.generationChanged = false) :
    (k.update s t).1.state = k.state ∧ (k.update s t).1.generation = k.generation := by
  rcases update_effect k s t with ⟨-, -, hk⟩ | ⟨-, -, -, -, hk⟩ | ⟨-, hc, -⟩
  · rw [hk]
    exact ⟨rfl, rfl⟩
  · rw [hk]
    exact ⟨rfl, rfl⟩
  · cases h.symm.trans hc

@[simp] theorem update_lease : (k.update s t).1.lease = k.lease := by
  rcases update_effect k s t with ⟨-, -, hk⟩ | ⟨-, -, -, -, hk⟩ | ⟨-, -, hlease, -⟩
  · rw [hk]
  · rw [hk]
  · exact hlease

theorem fresh_iff_exists {now : ℤ} : k.fresh now = true ↔
    ∃ state previous, k.state = some state ∧ k.receivedAt = some previous ∧
      Fresh previous k.lease now := by
  cases hstate : k.state <;> cases hprevious : k.receivedAt <;> simp [fresh, hstate, hprevious]

end ControlAuthorityTracker

end EmbodiedAgent
