import EmbodiedAgent.Control.EpochDiscipline
import EmbodiedAgent.Slam.AuthorityLease

namespace EmbodiedAgent.ControlAuthorityLease

open Library Library.History

def planned (s : ControlAuthoritySnapshot) : AuthoritySnapshot :=
  .ofMessage (.toMessage s)

def step (l : ControlAuthorityLease) (c : ControlAuthoritySnapshot × ℤ) :
    ControlAuthorityLease × AuthorityUpdateResult :=
  l.update (planned c.1) (monotonicSeconds c.2)

structure Agree (k : ControlAuthorityTracker) (l : ControlAuthorityLease) : Prop where
  lease : l.leaseS = leaseSeconds k.lease
  snapshot : l.snapshot = k.state.map planned
  receivedAt : l.receivedAt = k.receivedAt.map monotonicSeconds
  generation : k.generation = UInt64.ofNat l.generation
  retired : l.retiredEpochs = k.retiredEpochs.image fun epoch ↦ (epoch.toNat : ℤ)

/-- In floating-point seconds the readings compare as they do in nanoseconds. -/
structure Unrounded (lease t u : ℤ) (timed : Prop) : Prop where
  lt : monotonicSeconds t < monotonicSeconds u ↔ t < u
  outlasts : timed → u ≤ t → (leaseSeconds lease < (monotonicSeconds t).sub (monotonicSeconds u) ↔
    nanoseconds lease < t - u)
  within : timed → u ≤ t → ((monotonicSeconds t).sub (monotonicSeconds u) ≤ leaseSeconds lease ↔
    t - u ≤ nanoseconds lease)

def Compares (k : ControlAuthorityTracker) (c : ControlAuthoritySnapshot × ℤ) : Prop :=
  ControlAuthorityTracker.payloadIsValid c.1 = true → ∀ u, k.receivedAt = some u →
    Unrounded k.lease c.2 u (k.state.map (·.managerEpoch) = some c.1.managerEpoch)

section Payload

variable {s s' : ControlAuthoritySnapshot}

theorem snapshot_toMessage (s : ControlAuthoritySnapshot) :
    (ControlAuthorityState.toMessage s).snapshot = some s := by
  obtain ⟨authority, _⟩ := s
  cases authority <;> rfl

theorem planned_injective (h : planned s = planned s') : s = s' := by
  have hmessage : ControlAuthorityState.toMessage s = ControlAuthorityState.toMessage s' := by
    simpa [planned, AuthoritySnapshot.ofMessage, ControlAuthorityState.toMessage,
      UInt64.toNat_inj, UInt8.toNat_inj, and_assoc, and_comm, and_left_comm] using h
  exact Option.some.inj
    ((snapshot_toMessage s).symm.trans ((congrArg _ hmessage).trans (snapshot_toMessage s')))

theorem planned_authority (s : ControlAuthoritySnapshot) :
    (planned s).authority ∈ AuthoritySnapshot.validAuthorities ∧
      ((planned s).authority = AuthoritySnapshot.hold ↔ s.authority = .hold) ∧
      ((planned s).authority = AuthoritySnapshot.autonomy ↔ s.authority = .autonomy) ∧
      ((planned s).authority = AuthoritySnapshot.estop ↔ s.authority = .estop) := by
  change ((ControlAuthorityState.encodeAuthority s.authority).toNat : ℤ) ∈ _ ∧
    (((ControlAuthorityState.encodeAuthority s.authority).toNat : ℤ) = _ ↔ _) ∧
    (((ControlAuthorityState.encodeAuthority s.authority).toNat : ℤ) = _ ↔ _) ∧
    (((ControlAuthorityState.encodeAuthority s.authority).toNat : ℤ) = _ ↔ _)
  cases s.authority <;> decide

theorem natCast_toNat_eq_zero (x : UInt64) : (x.toNat : ℤ) = 0 ↔ x = 0 := by
  rw [← UInt64.toNat_inj]
  simp

theorem natCast_toNat_lt (x y : UInt64) : (x.toNat : ℤ) < y.toNat ↔ x < y := by
  rw [UInt64.lt_iff_toNat_lt]
  exact Nat.cast_lt

theorem natCast_toNat_inj (x y : UInt64) : (x.toNat : ℤ) = y.toNat ↔ x = y := by
  rw [← UInt64.toNat_inj]
  exact Nat.cast_inj

theorem payloadIsValid_planned (s : ControlAuthoritySnapshot) :
    payloadIsValid (planned s) = ControlAuthorityTracker.payloadIsValid s := by
  obtain ⟨hvalid, hhold, hautonomy, hestop⟩ := planned_authority s
  have hepoch : (planned s).managerEpoch ≤ 0 ↔ s.managerEpoch = 0 := by
    rw [← natCast_toNat_eq_zero]
    change (s.managerEpoch.toNat : ℤ) ≤ 0 ↔ _
    omega
  have hsequence : ¬ (planned s).transitionSequence < 0 := Int.not_lt.mpr (Int.natCast_nonneg _)
  have hpending : ¬ (planned s).pendingAutonomyRevocationSequence < 0 :=
    Int.not_lt.mpr (Int.natCast_nonneg _)
  have hbehind : (planned s).pendingAutonomyRevocationSequence > (planned s).transitionSequence ↔
      s.pendingAutonomyRevocationSequence > s.transitionSequence := natCast_toNat_lt _ _
  have hnone : (planned s).pendingAutonomyRevocationSequence = 0 ↔
      s.pendingAutonomyRevocationSequence = 0 := natCast_toNat_eq_zero _
  have hlatched : (planned s).estopLatched = s.estopLatched := rfl
  have hacknowledged :
      (planned s).autonomyQuiescenceAcknowledged = s.autonomyQuiescenceAcknowledged := rfl
  have hsource : (planned s).activeSource = s.activeSource := rfl
  simp only [payloadIsValid, ControlAuthorityTracker.payloadIsValid, hvalid, hhold, hautonomy,
    hestop, hepoch, hsequence, hpending, hbehind, hnone, hlatched, hacknowledged, hsource,
    not_true_eq_false, false_or, ne_eq]
  congr 2
  simp only [or_comm]

theorem safeManagerBootstrap_planned (h : ControlAuthorityTracker.payloadIsValid s = true) :
    safeManagerBootstrap (planned s) = ControlAuthorityTracker.safeManagerBootstrap s := by
  obtain ⟨-, hhold, -, -⟩ := planned_authority s
  have hpending : s.transitionSequence = 0 → s.pendingAutonomyRevocationSequence = 0 := by
    intro hzero
    rw [ControlAuthorityTracker.payloadIsValid] at h
    split_ifs at h with hrefused
    all_goals
      have hbehind := (not_or.mp (not_or.mp hrefused).2).2
      rw [hzero] at hbehind
      exact UInt64.le_zero_iff.mp (UInt64.not_lt.mp hbehind)
  have hepoch : (planned s).managerEpoch > 0 ↔ s.managerEpoch ≠ 0 := by
    rw [ne_eq, ← natCast_toNat_eq_zero]
    change (s.managerEpoch.toNat : ℤ) > 0 ↔ _
    omega
  have hsequence : (planned s).transitionSequence = 0 ↔ s.transitionSequence = 0 :=
    natCast_toNat_eq_zero _
  have hlatched : (planned s).estopLatched = s.estopLatched := rfl
  have hsource : (planned s).activeSource = s.activeSource := rfl
  have hreason : (planned s).reason = s.reason := rfl
  simp only [safeManagerBootstrap, ControlAuthorityTracker.safeManagerBootstrap, hepoch, hsequence,
    hhold, hlatched, hsource, hreason]
  by_cases hzero : s.transitionSequence = 0
  · simp [hzero, hpending hzero]
  · simp [hzero]

end Payload

section Runs

variable {k : ControlAuthorityTracker} {l : ControlAuthorityLease} {s : ControlAuthoritySnapshot}
  {lease t u : ℤ}

theorem Agree.accept (h : Agree k l) (s : ControlAuthoritySnapshot) (t : ℤ)
    (decision : AuthorityUpdateDecision) (discontinuity : Bool) :
    (l.accept (planned s) (monotonicSeconds t) decision true discontinuity).2 =
        (k.accept s t decision true discontinuity).2 ∧
      Agree (k.accept s t decision true discontinuity).1
        (l.accept (planned s) (monotonicSeconds t) decision true discontinuity).1 := by
  refine ⟨rfl, h.lease, rfl, rfl, ?_, h.retired⟩
  change k.generation + 1 = UInt64.ofNat (l.generation + 1)
  rw [h.generation, UInt64.ofNat_add]
  rfl

theorem Agree.retire (h : Agree k l) (epoch : UInt64) :
    Agree { k with retiredEpochs := insert epoch k.retiredEpochs }
      { l with retiredEpochs := insert (epoch.toNat : ℤ) l.retiredEpochs } :=
  ⟨h.lease, h.snapshot, h.receivedAt, h.generation, by
    rw [h.retired]
    exact (Finset.image_insert ..).symm⟩

theorem Agree.mem_retired (h : Agree k l) (epoch : UInt64) :
    (epoch.toNat : ℤ) ∈ l.retiredEpochs ↔ epoch ∈ k.retiredEpochs := by
  rw [h.retired, Finset.mem_image]
  constructor
  · rintro ⟨epoch', hmem, heq⟩
    rwa [← (natCast_toNat_inj epoch' epoch).mp heq]
  · exact fun hmem ↦ ⟨epoch, hmem, rfl⟩

theorem Agree.update (h : Agree k l) (s : ControlAuthoritySnapshot) (hround : Compares k (s, t)) :
    (l.update (planned s) (monotonicSeconds t)).2 = (k.update s t).2 ∧
      Agree (k.update s t).1 (l.update (planned s) (monotonicSeconds t)).1 := by
  unfold ControlAuthorityLease.update ControlAuthorityTracker.update
  rw [payloadIsValid_planned, h.snapshot, h.receivedAt]
  by_cases hvalid : ControlAuthorityTracker.payloadIsValid s = true
  swap
  · rw [if_pos (by simpa using hvalid), if_pos (by simpa using hvalid)]
    exact ⟨rfl, h⟩
  rw [if_neg (by simpa using hvalid), if_neg (by simpa using hvalid)]
  cases hstate : k.state with
  | none => exact h.accept s t .acceptedInitial false
  | some state =>
    cases hreceived : k.receivedAt with
    | none => exact h.accept s t .acceptedInitial false
    | some u =>
      have hr := hround hvalid u hreceived
      have hepoch : (planned s).managerEpoch = (planned state).managerEpoch ↔
          s.managerEpoch = state.managerEpoch := natCast_toNat_inj _ _
      have hretired : (planned s).managerEpoch ∈ l.retiredEpochs ↔
          s.managerEpoch ∈ k.retiredEpochs := h.mem_retired _
      have hbootstrap := safeManagerBootstrap_planned hvalid
      have hold : (planned s).transitionSequence < (planned state).transitionSequence ↔
          s.transitionSequence < state.transitionSequence := natCast_toNat_lt _ _
      have hsame : (planned s).transitionSequence = (planned state).transitionSequence ↔
          s.transitionSequence = state.transitionSequence := natCast_toNat_inj _ _
      have hmatch : planned s = planned state ↔
          ControlAuthorityTracker.payloadMatches state s = true := by
        rw [ControlAuthorityTracker.payloadMatches_iff]
        exact ⟨fun heq ↦ (planned_injective heq).symm, fun heq ↦ heq ▸ rfl⟩
      simp only [Option.map_some, hr.lt, ne_eq, hepoch, hretired, hbootstrap, hold, hsame, hmatch,
        Bool.not_eq_true, Bool.not_eq_true']
      by_cases hearlier : t < u
      · rw [if_pos hearlier, if_pos hearlier]
        exact ⟨rfl, h⟩
      rw [if_neg hearlier, if_neg hearlier]
      by_cases hcurrent : s.managerEpoch = state.managerEpoch
      · have hlease : (monotonicSeconds t).sub (monotonicSeconds u) > l.leaseS ↔
            t - u > nanoseconds k.lease := by
          rw [h.lease]
          exact hr.outlasts (by simp [hstate, hcurrent]) (not_lt.mp hearlier)
        rw [if_neg (not_not_intro hcurrent), if_neg (not_not_intro hcurrent)]
        simp only [hlease]
        split_ifs
        · exact ⟨rfl, h⟩
        · exact ⟨rfl, h⟩
        · exact ⟨rfl, h⟩
        · exact ⟨rfl, h.lease, rfl, rfl, h.generation, h.retired⟩
        · exact h.accept s t .acceptedTransition false
      · rw [if_pos hcurrent, if_pos hcurrent]
        split_ifs
        · exact ⟨rfl, h⟩
        · exact ⟨rfl, h⟩
        · exact (h.retire state.managerEpoch).accept s t .acceptedManagerRestart true

theorem Agree.observed (h : Agree k l) : l.observed = k.observed := by
  simp [ControlAuthorityLease.observed, ControlAuthorityTracker.observed, h.snapshot, h.receivedAt]

theorem Agree.fresh (h : Agree k l) (hpaired : k.state = none → k.receivedAt = none)
    (hround : ∀ u, k.receivedAt = some u → Unrounded k.lease t u True) :
    l.fresh (monotonicSeconds t) = k.fresh t := by
  unfold ControlAuthorityLease.fresh ControlAuthorityTracker.fresh
  rw [h.receivedAt, h.lease]
  cases hreceived : k.receivedAt with
  | none => cases k.state <;> rfl
  | some u =>
    obtain ⟨hlt, -, hwithin⟩ := hround u hreceived
    cases hstate : k.state with
    | none => cases hreceived.symm.trans (hpaired hstate)
    | some state =>
      have hle : monotonicSeconds u ≤ monotonicSeconds t ↔ u ≤ t := by
        rw [Double.le_iff_not_lt (monotonicSeconds_ne_nan u) (monotonicSeconds_ne_nan t), hlt,
          not_lt]
      simp only [Option.map_some, hle, ← Bool.decide_and]
      exact decide_eq_decide.mpr (and_congr_right fun hback ↦ hwithin trivial hback)

theorem Agree.authority (h : Agree k l) :
    l.authority = AuthoritySnapshot.autonomy ↔ k.authority = .autonomy := by
  unfold ControlAuthorityLease.authority ControlAuthorityTracker.authority
  rw [h.snapshot]
  cases k.state with
  | none => decide
  | some state => exact (planned_authority state).2.2.1

theorem Agree.freshAutonomy (h : Agree k l) (hfresh : l.fresh (monotonicSeconds t) = k.fresh t) :
    l.freshAutonomy (monotonicSeconds t) = k.freshAutonomy t := by
  unfold ControlAuthorityLease.freshAutonomy ControlAuthorityTracker.freshAutonomy
  rw [hfresh, decide_eq_decide.mpr h.authority]

theorem unrounded_of_uptime (hlease : 0 < lease) (ht₀ : 0 ≤ t) (ht : t < 2 ^ 51) (hu₀ : 0 ≤ u)
    (hu : u < 2 ^ 51) {timed : Prop} (hgap : timed → t - u ≠ nanoseconds lease) :
    Unrounded lease t u timed := by
  have houtlasts (htimed : timed) := leaseSeconds_lt_sub hlease ht₀ ht hu₀ hu (hgap htimed)
  refine ⟨monotonicSeconds_lt ht₀ ht hu₀ hu, fun htimed _ ↦ houtlasts htimed, fun htimed _ ↦ ?_⟩
  obtain ⟨x, hx, hsub, -⟩ := monotonicSeconds_sub_near ht₀ ht hu₀ hu
  have hsub' : (monotonicSeconds t).sub (monotonicSeconds u) ≠ .nan := by
    rw [hsub]
    exact Double.noConfusion
  have hlease' : leaseSeconds lease ≠ .nan := Double.ofRat_ne_nan _
  rw [Double.le_iff_not_lt hsub' hlease', houtlasts htimed, not_lt]

end Runs

/-- Both sides answer the deliveries of the history alike, and hold the same after it. -/
structure Indistinguishable (k : ControlAuthorityTracker) (l : ControlAuthorityLease)
    (h : List (ControlAuthoritySnapshot × ℤ)) (now : ℤ) : Prop where
  answers : collect step (fun l c ↦ [(l.step c).2]) l h =
    collect ControlAuthorityTracker.step (fun k c ↦ [(k.step c).2]) k h
  held : Agree (run ControlAuthorityTracker.step k h) (run step l h)
  observed : (run step l h).observed = (run ControlAuthorityTracker.step k h).observed
  fresh : (run step l h).fresh (monotonicSeconds now) =
    (run ControlAuthorityTracker.step k h).fresh now
  freshAutonomy : (run step l h).freshAutonomy (monotonicSeconds now) =
    (run ControlAuthorityTracker.step k h).freshAutonomy now

theorem create_leaseSeconds {lease : ℤ} (hlease : 0 < lease) :
    create (leaseSeconds lease) = .ok { leaseS := leaseSeconds lease } :=
  if_neg (leaseSeconds_pos hlease)

theorem agree_run {k : ControlAuthorityTracker} {l : ControlAuthorityLease} (hinit : Agree k l)
    {h : List (ControlAuthoritySnapshot × ℤ)}
    (hround : Along ControlAuthorityTracker.step Compares k h) :
    collect step (fun l c ↦ [(l.step c).2]) l h =
        collect ControlAuthorityTracker.step (fun k c ↦ [(k.step c).2]) k h ∧
      Agree (run ControlAuthorityTracker.step k h) (run step l h) := by
  induction h generalizing k l with
  | nil => exact ⟨rfl, hinit⟩
  | cons c h ih =>
    obtain ⟨hanswer, hnext⟩ := hinit.update c.1 hround.1
    obtain ⟨hanswers, hheld⟩ := ih hnext hround.2
    refine ⟨?_, hheld⟩
    rw [collect_cons, collect_cons]
    exact congrArg₂ (fun answer answers ↦ [answer] ++ answers) hanswer hanswers

theorem trackers_agree (lease : ℤ) (k : ControlAuthorityTracker)
    (hk : ControlAuthorityTracker.create lease = .ok k)
    (h : List (ControlAuthoritySnapshot × ℤ)) (now : ℤ)
    (hround : Along ControlAuthorityTracker.step Compares k h)
    (hnow : ∀ u, (run ControlAuthorityTracker.step k h).receivedAt = some u →
      Unrounded lease now u True) :
    ∃ l, create (leaseSeconds lease) = .ok l ∧ Indistinguishable k l h now := by
  obtain ⟨hlease, hstate, hreceived, hgeneration, hretired⟩ :=
    ControlAuthorityTracker.create_spec hk
  have hpos : 0 < lease := hlease ▸ k.lease_pos
  refine ⟨_, create_leaseSeconds hpos, ?_⟩
  have hinit : Agree k { leaseS := leaseSeconds lease } :=
    ⟨by rw [hlease], by simp [hstate], by simp [hreceived], by simp [hgeneration],
      by simp [hretired]⟩
  obtain ⟨hanswers, hheld⟩ := agree_run hinit hround
  have hkept : (run ControlAuthorityTracker.step k h).lease = lease :=
    run_preserves ControlAuthorityTracker.step (I := fun k' ↦ k'.lease = lease)
      (fun k' c heq ↦ (ControlAuthorityTracker.update_lease ..).trans heq) hlease h
  have hrecorded := (ControlAuthorityTracker.discipline hk h).1
  have hfresh := hheld.fresh (t := now)
    (fun hnone ↦ hrecorded.received.mpr (hrecorded.log_nil (.inl hnone)))
    fun u hu ↦ hkept.symm ▸ hnow u hu
  exact ⟨hanswers, hheld, hheld.observed, hfresh, hheld.freshAutonomy hfresh⟩

def driving : ControlAuthoritySnapshot :=
  { authority := .autonomy, transitionSequence := 1, autonomyQuiescenceAcknowledged := false,
    activeSource := "autonomy", reason := "resume" }

/-- A heartbeat exactly one lease after the last, which the planner rejects. -/
theorem heartbeat_after_exactly_the_lease :
    ∃ k l, ControlAuthorityTracker.create 1000 = .ok k ∧ create (leaseSeconds 1000) = .ok l ∧
      ((run ControlAuthorityTracker.step k [(driving, 3400000000)]).step
        (driving, 4400000000)).2.accepted = true ∧
      ((run step l [(driving, 3400000000)]).step (driving, 4400000000)).2.accepted = false ∧
      (run ControlAuthorityTracker.step k [(driving, 3400000000)]).freshAutonomy 4400000000 =
        true ∧
      (run step l [(driving, 3400000000)]).freshAutonomy (monotonicSeconds 4400000000) = false :=
  ⟨{ lease := 1000, lease_pos := by decide }, { leaseS := leaseSeconds 1000 }, rfl,
    create_leaseSeconds (by decide), by decide +kernel, by decide +kernel, by decide +kernel,
    by decide +kernel⟩

/-- Heartbeats whose first and last are exactly one lease apart. -/
theorem trackers_agree_on_heartbeats :
    ∃ l, create (leaseSeconds 1000) = .ok l ∧
      Indistinguishable { lease := 1000, lease_pos := by decide } l
        [(driving, 3400000000), (driving, 3900000000), (driving, 4400000000)] 4900000000 := by
  have hnear : ∀ {t u : ℤ} {timed : Prop}, 0 ≤ u → u < t → t < u + 1000000000 → t < 2 ^ 51 →
      Unrounded 1000 t u timed := fun hu₀ hlt hgap ht ↦
    unrounded_of_uptime (by decide) (by omega) ht hu₀ (by omega)
      (fun _ ↦ by simp only [nanoseconds]; omega)
  refine trackers_agree 1000 _ rfl _ _ ⟨?_, ?_, ?_, trivial⟩ ?_
  · exact fun _ u hu ↦ by cases hu
  · rintro - u hu
    obtain rfl : (3400000000 : ℤ) = u := Option.some.inj hu
    exact hnear (by decide) (by decide) (by decide) (by decide)
  · rintro - u hu
    obtain rfl : (3900000000 : ℤ) = u := Option.some.inj hu
    exact hnear (by decide) (by decide) (by decide) (by decide)
  · intro u hu
    obtain rfl : (4400000000 : ℤ) = u := Option.some.inj hu
    exact hnear (by decide) (by decide) (by decide) (by decide)

end EmbodiedAgent.ControlAuthorityLease
