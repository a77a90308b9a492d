import EmbodiedAgent.Action.Guard

namespace EmbodiedAgent

open Library

namespace ControlAuthorityState

def encodeAuthority : ControlAuthority → UInt8
  | .hold => hold
  | .autonomy => autonomy
  | .keyboard => keyboard
  | .estop => estop

def toMessage (snapshot : ControlAuthoritySnapshot) : ControlAuthorityState where
  authority := encodeAuthority snapshot.authority
  estopLatched := snapshot.estopLatched
  managerEpoch := snapshot.managerEpoch
  transitionSequence := snapshot.transitionSequence
  pendingAutonomyRevocationSequence := snapshot.pendingAutonomyRevocationSequence
  autonomyQuiescenceAcknowledged := snapshot.autonomyQuiescenceAcknowledged
  activeSource := snapshot.activeSource
  reason := snapshot.reason

end ControlAuthorityState

/-- The same message in the planner, with unbounded integers. -/
structure AuthoritySnapshot where
  authority : ℤ
  estopLatched : Bool
  managerEpoch : ℤ
  transitionSequence : ℤ
  activeSource : String
  reason : String
  pendingAutonomyRevocationSequence : ℤ := 0
  autonomyQuiescenceAcknowledged : Bool := false
  deriving DecidableEq

namespace AuthoritySnapshot

def hold : ℤ := 0
def autonomy : ℤ := 1
def keyboard : ℤ := 2
def estop : ℤ := 3

def validAuthorities : List ℤ := [hold, autonomy, keyboard, estop]

def ofMessage (message : ControlAuthorityState) : AuthoritySnapshot where
  authority := message.authority.toNat
  estopLatched := message.estopLatched
  managerEpoch := message.managerEpoch.toNat
  transitionSequence := message.transitionSequence.toNat
  activeSource := message.activeSource
  reason := message.reason
  pendingAutonomyRevocationSequence := message.pendingAutonomyRevocationSequence.toNat
  autonomyQuiescenceAcknowledged := message.autonomyQuiescenceAcknowledged

end AuthoritySnapshot

/-- The planner's counterpart of the tracker, in floating-point seconds. -/
structure ControlAuthorityLease where
  leaseS : Double
  snapshot : Option AuthoritySnapshot := none
  receivedAt : Option Double := none
  generation : ℕ := 0
  retiredEpochs : Finset ℤ := ∅

namespace ControlAuthorityLease

variable (l : ControlAuthorityLease)

def create (leaseS : Double) : Except String ControlAuthorityLease :=
  if leaseS ≤ 0 then .error "authority lease_s must be greater than zero"
  else .ok { leaseS := leaseS }

def observed : Bool := l.snapshot.isSome && l.receivedAt.isSome

def authority : ℤ :=
  match l.snapshot with
  | none => AuthoritySnapshot.hold
  | some snapshot => snapshot.authority

def fresh (now : Double) : Bool :=
  match l.receivedAt with
  | none => false
  | some receivedAt => decide (receivedAt ≤ now) && decide (now.sub receivedAt ≤ l.leaseS)

def freshAutonomy (now : Double) : Bool :=
  l.fresh now && decide (l.authority = AuthoritySnapshot.autonomy)

variable (snapshot : AuthoritySnapshot)

def payloadIsValid : Bool :=
  if snapshot.authority ∉ AuthoritySnapshot.validAuthorities ∨ snapshot.managerEpoch ≤ 0 ∨
      snapshot.transitionSequence < 0 ∨ snapshot.pendingAutonomyRevocationSequence < 0 ∨
      snapshot.pendingAutonomyRevocationSequence > snapshot.transitionSequence ∨
      snapshot.estopLatched ≠ decide (snapshot.authority = AuthoritySnapshot.estop) then false
  else if snapshot.authority = AuthoritySnapshot.autonomy ∧
      (snapshot.pendingAutonomyRevocationSequence ≠ 0 ∨
        snapshot.autonomyQuiescenceAcknowledged = true) then false
  else if snapshot.authority = AuthoritySnapshot.hold then decide (snapshot.activeSource = "")
  else decide (snapshot.activeSource ≠ "")

def safeManagerBootstrap : Bool :=
  decide (snapshot.managerEpoch > 0) && decide (snapshot.transitionSequence = 0) &&
  decide (snapshot.authority = AuthoritySnapshot.hold) && !snapshot.estopLatched &&
  decide (snapshot.activeSource = "") && decide (snapshot.reason = "initialized")

def reject (decision : AuthorityUpdateDecision)
    (leaseDiscontinuity : Bool) : ControlAuthorityLease × AuthorityUpdateResult :=
  (l, { leaseDiscontinuity := leaseDiscontinuity, decision := decision })

def accept (receivedAt : Double)
    (decision : AuthorityUpdateDecision) (generationChanged leaseDiscontinuity : Bool) :
    ControlAuthorityLease × AuthorityUpdateResult :=
  ({ l with
      snapshot := some snapshot
      receivedAt := some receivedAt
      generation := if generationChanged then l.generation + 1 else l.generation },
    { accepted := true, generationChanged := generationChanged,
      leaseDiscontinuity := leaseDiscontinuity, decision := decision })

def update (receivedAt : Double) :
    ControlAuthorityLease × AuthorityUpdateResult :=
  if !payloadIsValid snapshot then l.reject .rejectedInvalidPayload false
  else match l.snapshot, l.receivedAt with
  | some current, some previous =>
    if receivedAt < previous then l.reject .rejectedReorderedReceipt false
    else if snapshot.managerEpoch ≠ current.managerEpoch then
      if snapshot.managerEpoch ∈ l.retiredEpochs then l.reject .rejectedRetiredEpoch false
      else if !safeManagerBootstrap snapshot then l.reject .rejectedUnsafeEpochBootstrap false
      else
        { l with retiredEpochs := insert current.managerEpoch l.retiredEpochs }.accept
          snapshot receivedAt .acceptedManagerRestart true true
    else if receivedAt.sub previous > l.leaseS then l.reject .rejectedLeaseDiscontinuity true
    else if snapshot.transitionSequence < current.transitionSequence then
      l.reject .rejectedOldSequence false
    else if snapshot.transitionSequence = current.transitionSequence then
      if snapshot ≠ current then l.reject .rejectedConflictingHeartbeat false
      else
        ({ l with receivedAt := some receivedAt },
          { accepted := true, decision := .acceptedHeartbeat })
    else l.accept snapshot receivedAt .acceptedTransition true false
  | _, _ => l.accept snapshot receivedAt .acceptedInitial true false

end ControlAuthorityLease

end EmbodiedAgent
