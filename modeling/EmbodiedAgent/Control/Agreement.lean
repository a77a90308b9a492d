import EmbodiedAgent.Control.EpochDiscipline

namespace EmbodiedAgent

open Library Library.History

namespace ControlAuthorityMachine

def changes (m : ControlAuthorityMachine) (h : List Call) : List Call :=
  collect step (fun m c ↦ if (m.step c).2.changed then [c] else []) m h

def exposed (m : ControlAuthorityMachine) (h : List Call) (i : ℕ) : ControlAuthoritySnapshot :=
  (run step m (h.take i)).snapshot

variable {m : ControlAuthorityMachine}

theorem changes_append (h h' : List Call) :
    changes m (h ++ h') = changes m h ++ changes (run step m h) h' :=
  collect_append step _ m h h'

theorem changes_snoc (h : List Call) (c : Call) :
    changes m (h ++ [c]) = changes m h ++ if ((run step m h).step c).2.changed then [c] else [] :=
  collect_snoc step _ m h c

theorem run_eq_of_changes_nil {h : List Call} (hc : changes m h = []) : run step m h = m := by
  induction h using List.reverseRecOn with
  | nil => rfl
  | append_singleton h c ih =>
    rw [changes_snoc, List.append_eq_nil_iff] at hc
    obtain ⟨hnil, hlast⟩ := hc
    rw [run_snoc, (step_outcome (run step m h) c).unchanged (by simpa using hlast), ih hnil]

theorem sequence_eq_changes (hm : m.state.transitionSequence = 0) (h : List Call) :
    (run step m h).state.transitionSequence = UInt64.ofNat (changes m h).length := by
  induction h using List.reverseRecOn with
  | nil => simpa [changes] using hm
  | append_singleton h c ih =>
    rw [run_snoc, changes_snoc]
    by_cases hc : ((run step m h).step c).2.changed = true
    · rw [((step_outcome (run step m h) c).changed hc).2, ih]
      simp [hc]
    · rw [(step_outcome (run step m h) c).unchanged (by simpa using hc), ih]
      simp [hc]

structure Wellformed (s : ControlAuthoritySnapshot) : Prop where
  epoch : s.managerEpoch ≠ 0
  estop : s.estopLatched = decide (s.authority = .estop)
  pending : s.pendingAutonomyRevocationSequence ≤ s.transitionSequence
  autonomy : s.authority = .autonomy →
    s.pendingAutonomyRevocationSequence = 0 ∧ s.autonomyQuiescenceAcknowledged = false
  source : s.authority = .hold ↔ s.activeSource = ""

theorem Wellformed.valid {s : ControlAuthoritySnapshot} (hs : Wellformed s) :
    ControlAuthorityTracker.payloadIsValid s = true := by
  have hpending : ¬ s.transitionSequence < s.pendingAutonomyRevocationSequence :=
    UInt64.not_lt.mpr hs.pending
  have hautonomy : ¬ (s.authority = .autonomy ∧ (s.pendingAutonomyRevocationSequence ≠ 0 ∨
      s.autonomyQuiescenceAcknowledged = true)) := by
    intro ⟨ha, hp⟩
    simp [hs.autonomy ha] at hp
  have hsource := hs.source
  simp only [ControlAuthorityTracker.payloadIsValid, hs.epoch, hs.estop, gt_iff_lt, hpending,
    hautonomy, ne_eq, not_true, or_self, if_false]
  split_ifs with hhold
  · simpa using hsource.mp hhold
  · simpa using fun he ↦ hhold (hsource.mpr he)

theorem Move.source_empty_iff {r : ControlAuthorityRequest} {authority : ControlAuthority}
    {source : String} (hr : r.requester ≠ "") (hm : Move m r authority source) :
    authority = .hold ↔ source = "" := by
  cases hm <;> simp [hr]

theorem le_succ_of_lt {a b : UInt64} (hab : a ≤ b) (hb : b.toNat + 1 < 2 ^ 64) : a ≤ b + 1 := by
  rw [UInt64.le_iff_toNat_le] at hab ⊢
  rw [UInt64.toNat_add]
  simp only [UInt64.reduceToNat]
  omega

theorem wellformed_step {c : Call} (hw : Wellformed m.state)
    (hseq : (m.step c).2.changed = true → m.state.transitionSequence.toNat + 1 < 2 ^ 64) :
    Wellformed (m.step c).1.state := by
  have ho := step_outcome m c
  generalize m.step c = out at ho hseq
  cases ho with
  | rejected | idempotent => exact hw
  | moved r authority source reason message stop hr move =>
    refine ⟨m.epoch_ne_zero, rfl, ?_, ?_, move.source_empty_iff hr⟩
    · have hle := le_succ_of_lt hw.pending (hseq rfl)
      simp only [transitionTo]
      split_ifs
      · exact UInt64.le_refl _
      · exact UInt64.le_iff_toNat_le.mpr (Nat.zero_le _)
      · exact hle
    · intro ha
      have hto : authority = .autonomy := ha
      simp [transitionTo, hto]
  | acknowledged a hepoch howner hrevocation message =>
    exact ⟨m.epoch_ne_zero, hw.estop, le_succ_of_lt hw.pending (hseq rfl),
      fun ha ↦ absurd ha howner, hw.source⟩

theorem create_spec {epoch : UInt64} {ack : Bool} (hm : create epoch ack = .ok m) :
    m.state.transitionSequence = 0 ∧ Wellformed m.state := by
  unfold create at hm
  split_ifs at hm with hepoch
  cases hm
  refine ⟨rfl, hepoch, rfl, UInt64.le_refl _, ?_, by simp⟩
  intro ha
  cases ha

theorem sequence_toNat (hm : m.state.transitionSequence = 0) {h : List Call}
    (hc : (changes m h).length < 2 ^ 64) :
    (run step m h).state.transitionSequence.toNat = (changes m h).length := by
  rw [sequence_eq_changes hm, UInt64.toNat_ofNat_of_lt' hc]

theorem wellformed_run (hm : m.state.transitionSequence = 0) (hw : Wellformed m.state)
    (h : List Call) (hc : (changes m h).length < 2 ^ 64) : Wellformed (run step m h).state := by
  induction h using List.reverseRecOn with
  | nil => exact hw
  | append_singleton h c ih =>
    rw [changes_snoc, List.length_append] at hc
    have hh : (changes m h).length < 2 ^ 64 := by omega
    rw [run_snoc]
    refine wellformed_step (ih hh) fun hchanged ↦ ?_
    rw [sequence_toNat hm hh]
    simp only [hchanged, if_true, List.length_singleton] at hc
    exact hc

theorem changes_take_le {h : List Call} {i j : ℕ} (hij : i ≤ j) :
    (changes m (h.take i)).length ≤ (changes m (h.take j)).length := by
  obtain ⟨t, ht⟩ := List.take_prefix_take_left (l := h) hij
  rw [← ht, changes_append, List.length_append]
  exact Nat.le_add_right _ _

theorem exposed_eq_of_changes {h : List Call} {i j : ℕ} (hij : i ≤ j)
    (hc : (changes m (h.take i)).length = (changes m (h.take j)).length) :
    exposed m h i = exposed m h j := by
  obtain ⟨t, ht⟩ := List.take_prefix_take_left (l := h) hij
  rw [← ht, changes_append, List.length_append] at hc
  have hnil : changes (run step m (h.take i)) t = [] := List.length_eq_zero_iff.mp (by omega)
  rw [exposed, exposed, ← ht, run_append, run_eq_of_changes_nil hnil]

end ControlAuthorityMachine

namespace ControlAuthorityTracker

variable {k : ControlAuthorityTracker} {s state : ControlAuthoritySnapshot} {t previous : ℤ}

/-- The tracker is where the last delivery `(s, t)` put it. -/
structure At (k : ControlAuthorityTracker) (s : ControlAuthoritySnapshot) (t : ℤ) : Prop where
  state : k.state = some s
  received : k.receivedAt = some t

theorem follow_first (hk : k.state = none) (hs : payloadIsValid s = true) :
    (k.update s t).2.accepted = true ∧ At (k.update s t).1 s t := by
  simp only [update, hs, hk, Bool.not_true, Bool.false_eq_true, if_false]
  exact ⟨rfl, rfl, rfl⟩

theorem follow_next (hk : At k state previous) (hs : payloadIsValid s = true)
    (hepoch : s.managerEpoch = state.managerEpoch) (halive : Fresh previous k.lease t)
    (hle : state.transitionSequence ≤ s.transitionSequence)
    (heq : state.transitionSequence = s.transitionSequence → state = s) :
    (k.update s t).2.accepted = true ∧ At (k.update s t).1 s t := by
  have hordered : ¬ t < previous := not_lt.mpr halive.1
  have hlease : ¬ t - previous > nanoseconds k.lease := not_lt.mpr halive.2
  have hold : ¬ s.transitionSequence < state.transitionSequence := UInt64.not_lt.mpr hle
  simp only [update, hs, hk.state, hk.received, hordered, hepoch, hlease, hold, ne_eq, not_true,
    Bool.not_true, Bool.false_eq_true, if_false]
  by_cases hsame : s.transitionSequence = state.transitionSequence
  · obtain rfl := heq hsame.symm
    have hmatch : payloadMatches state state = true := (payloadMatches_iff state state).mpr rfl
    simp only [hmatch, Bool.not_true, Bool.false_eq_true, if_true, if_false]
    exact ⟨trivial, rfl, rfl⟩
  · simp only [hsame, if_false]
    exact ⟨rfl, rfl, rfl⟩

theorem run_lease (k : ControlAuthorityTracker) (h : List (ControlAuthoritySnapshot × ℤ)) :
    (run step k h).lease = k.lease := by
  refine run_preserves step (I := fun k' ↦ k'.lease = k.lease) ?_ rfl h
  intro k' c hk'
  exact update_lease.trans hk'

end ControlAuthorityTracker

namespace ControlAuthorityMachine

variable (m : ControlAuthorityMachine) (h : List Call)

def delivered (deliveries : List (ℕ × ℤ)) : List (ControlAuthoritySnapshot × ℤ) :=
  deliveries.map fun d ↦ (exposed m h d.1, d.2)

def InOrder (lease : ℤ) (deliveries : List (ℕ × ℤ)) : Prop :=
  deliveries.IsChain fun a b ↦ a.1 ≤ b.1 ∧ Fresh a.2 lease b.2

/-- The manager and its consumers agree on one run of the manager. -/
structure Agreement : Prop where
  answers : ∀ i c, h[i]? = some c →
    (step (run step m (h.take i)) c).2.state = exposed m h (i + 1)
  valid : ∀ i, ControlAuthorityTracker.payloadIsValid (exposed m h i) = true
  determined : ∀ i j, (exposed m h i).transitionSequence = (exposed m h j).transitionSequence →
    exposed m h i = exposed m h j
  followed : ∀ lease k, ControlAuthorityTracker.create lease = .ok k → ∀ deliveries,
    InOrder lease deliveries → ∀ pre d post, deliveries = pre ++ d :: post →
    ((run ControlAuthorityTracker.step k (delivered m h pre)).update
      (exposed m h d.1) d.2).2.accepted = true ∧
    (run ControlAuthorityTracker.step k (delivered m h (pre ++ [d]))).snapshot =
      some (exposed m h d.1)

variable {m h}

theorem exposed_epoch (i : ℕ) : (exposed m h i).managerEpoch = m.state.managerEpoch := by
  refine run_preserves step (I := fun m' ↦ m'.state.managerEpoch = m.state.managerEpoch) ?_ rfl _
  intro m' c hm'
  exact (step_outcome m' c).epoch.trans hm'

theorem delivered_snoc (pre : List (ℕ × ℤ)) (d : ℕ × ℤ) :
    delivered m h (pre ++ [d]) = delivered m h pre ++ [(exposed m h d.1, d.2)] := by
  simp [delivered]

section Following

variable (hvalid : ∀ i, ControlAuthorityTracker.payloadIsValid (exposed m h i) = true)
  (hmono : ∀ i j, i ≤ j →
    (exposed m h i).transitionSequence ≤ (exposed m h j).transitionSequence)
  (hdet : ∀ i j, (exposed m h i).transitionSequence = (exposed m h j).transitionSequence →
    exposed m h i = exposed m h j)
  {k : ControlAuthorityTracker} (hk : k.state = none)

include hvalid hmono hdet hk

theorem follow_step (pre : List (ℕ × ℤ)) (d : ℕ × ℤ) (hchain : InOrder k.lease (pre ++ [d]))
    (hpre : ∀ a, pre.getLast? = some a →
      (run ControlAuthorityTracker.step k (delivered m h pre)).At (exposed m h a.1) a.2) :
    ((run ControlAuthorityTracker.step k (delivered m h pre)).update
        (exposed m h d.1) d.2).2.accepted = true ∧
      ((run ControlAuthorityTracker.step k (delivered m h pre)).update
        (exposed m h d.1) d.2).1.At (exposed m h d.1) d.2 := by
  rcases List.eq_nil_or_concat pre with rfl | ⟨pre', a, rfl⟩
  · exact ControlAuthorityTracker.follow_first hk (hvalid d.1)
  · rw [List.concat_eq_append] at hchain hpre ⊢
    have hat := hpre a (by simp)
    have hlink : a.1 ≤ d.1 ∧ Fresh a.2 k.lease d.2 := by
      have hsuffix : InOrder k.lease [a, d] := hchain.suffix ⟨pre', by simp⟩
      simpa [InOrder] using hsuffix
    refine ControlAuthorityTracker.follow_next hat (hvalid d.1) ?_ ?_ (hmono _ _ hlink.1)
      (hdet _ _)
    · rw [exposed_epoch, exposed_epoch]
    · rw [ControlAuthorityTracker.run_lease]
      exact hlink.2

theorem follow_run (deliveries : List (ℕ × ℤ)) (hchain : InOrder k.lease deliveries) :
    ∀ a, deliveries.getLast? = some a →
      (run ControlAuthorityTracker.step k (delivered m h deliveries)).At (exposed m h a.1) a.2 := by
  induction deliveries using List.reverseRecOn with
  | nil => simp
  | append_singleton pre d ih =>
    intro a ha
    rw [List.getLast?_concat, Option.some.injEq] at ha
    subst ha
    rw [delivered_snoc, run_snoc]
    have hpre : InOrder k.lease pre := hchain.prefix ⟨[d], rfl⟩
    exact (follow_step hvalid hmono hdet hk pre d hchain (ih hpre)).2

end Following

theorem agreement (epoch : UInt64) (ack : Bool) (m : ControlAuthorityMachine)
    (hm : create epoch ack = .ok m) (h : List Call) (hc : (changes m h).length < 2 ^ 64) :
    Agreement m h := by
  obtain ⟨hseq, hw⟩ := create_spec hm
  have hbound : ∀ i, (changes m (h.take i)).length < 2 ^ 64 := by
    intro i
    have hle := changes_take_le (m := m) (h := h) (le_max_left i h.length)
    rw [List.take_of_length_le (le_max_right i h.length)] at hle
    omega
  have hvalid : ∀ i, ControlAuthorityTracker.payloadIsValid (exposed m h i) = true :=
    fun i ↦ (wellformed_run hseq hw _ (hbound i)).valid
  have hcount : ∀ i, (exposed m h i).transitionSequence.toNat = (changes m (h.take i)).length :=
    fun i ↦ sequence_toNat hseq (hbound i)
  have hmono : ∀ i j, i ≤ j →
      (exposed m h i).transitionSequence ≤ (exposed m h j).transitionSequence := by
    intro i j hij
    rw [UInt64.le_iff_toNat_le, hcount, hcount]
    exact changes_take_le hij
  have hdet : ∀ i j, (exposed m h i).transitionSequence = (exposed m h j).transitionSequence →
      exposed m h i = exposed m h j := by
    intro i j heq
    have hlen := congrArg UInt64.toNat heq
    rw [hcount, hcount] at hlen
    rcases Nat.le_total i j with hij | hij
    · exact exposed_eq_of_changes hij hlen
    · exact (exposed_eq_of_changes hij hlen.symm).symm
  refine ⟨?_, hvalid, hdet, ?_⟩
  · intro i c hi
    rw [(step_outcome _ c).answer_state, exposed, List.take_add_one, hi, Option.toList_some,
      run_snoc, snapshot]
  · intro lease k hk deliveries hchain pre d post hsplit
    obtain ⟨hlease, hstate, -⟩ := ControlAuthorityTracker.create_spec hk
    rw [← hlease] at hchain
    have hcut : InOrder k.lease (pre ++ [d]) := hchain.prefix ⟨post, by simp [hsplit]⟩
    have hpre : InOrder k.lease pre := hcut.prefix ⟨[d], rfl⟩
    have hlast := follow_run hvalid hmono hdet hstate pre hpre
    obtain ⟨haccepted, hat⟩ := follow_step hvalid hmono hdet hstate pre d hcut hlast
    refine ⟨haccepted, ?_⟩
    rw [delivered_snoc, run_snoc]
    exact hat.state

theorem agreement_emergency_stop :
    Agreement ⟨{ managerEpoch := 7, autonomyQuiescenceAcknowledged := false }, by decide⟩
      [.request { command := .emergencyStop, requester := "safety_panel" },
       .request { command := .resetEmergencyStop, requester := "safety_panel" },
       .acknowledge { managerEpoch := 7, requester := "session" }] :=
  agreement 7 false _ rfl _ (by decide)

end ControlAuthorityMachine

end EmbodiedAgent
