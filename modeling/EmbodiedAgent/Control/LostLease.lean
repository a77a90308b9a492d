import EmbodiedAgent.Control.EpochDiscipline

namespace EmbodiedAgent.ControlAuthorityTracker

open Library Library.History

def AcceptsBootstrap (k : ControlAuthorityTracker) (h : List (ControlAuthoritySnapshot × ℤ))
    (c : ControlAuthoritySnapshot × ℤ) : Prop :=
  ((run step k h).step c).2.accepted = true ∧
    (∀ a ∈ accepted k h, a.managerEpoch ≠ c.1.managerEpoch) ∧
    c.1.transitionSequence = 0 ∧ c.1.authority = .hold

def AcceptsAutonomy (k : ControlAuthorityTracker) (h : List (ControlAuthoritySnapshot × ℤ))
    (c : ControlAuthoritySnapshot × ℤ) : Prop :=
  ((run step k h).step c).2.accepted = true ∧
    ((run step k h).step c).2.decision = .acceptedTransition ∧
    c.1.authority = .autonomy

structure Lost (k : ControlAuthorityTracker) (t : ℤ) : Prop where
  state : ∃ s, k.state = some s
  received : ∃ previous, k.receivedAt = some previous ∧ previous ≤ t ∧ ¬ Fresh previous k.lease t

variable {k : ControlAuthorityTracker} {t : ℤ}

theorem lost_of_not_fresh (hobserved : k.observed = true) (hfresh : k.fresh t = false)
    (hreceived : ∀ previous, k.receivedAt = some previous → previous ≤ t) : Lost k t := by
  obtain ⟨hs, hr⟩ := Bool.and_eq_true_iff.mp hobserved
  obtain ⟨s, hs⟩ := Option.isSome_iff_exists.mp hs
  obtain ⟨previous, hr⟩ := Option.isSome_iff_exists.mp hr
  refine ⟨⟨s, hs⟩, previous, hr, hreceived previous hr, ?_⟩
  simpa [fresh, hs, hr] using hfresh

theorem Lost.not_fresh (hl : Lost k t) {t' : ℤ} (ht : t ≤ t') :
    k.fresh t' = false ∧ k.freshAutonomy t' = false := by
  obtain ⟨s, hs⟩ := hl.state
  obtain ⟨previous, hr, hle, hout⟩ := hl.received
  have hf : k.fresh t' = false := by simpa [fresh, hs, hr] using not_fresh_mono hle hout ht
  exact ⟨hf, by simp [freshAutonomy, hf]⟩

theorem Lost.outcome (hl : Lost k t) {s : ControlAuthoritySnapshot} {u : ℤ} (hu : t ≤ u)
    (ha : (k.update s u).2.accepted = true) :
    ∃ state, k.state = some state ∧ s.managerEpoch ≠ state.managerEpoch ∧
      s.managerEpoch ∉ k.retiredEpochs ∧ safeManagerBootstrap s = true := by
  obtain ⟨s₀, hs₀⟩ := hl.state
  obtain ⟨previous₀, hr₀, hle, hout⟩ := hl.received
  have ho := update_outcome k s u
  generalize k.update s u = out at ho ha
  cases ho with
  | rejected discontinuity decision => cases ha
  | initial hvalid hunseen => simp [hs₀, hr₀] at hunseen
  | restart state previous hstate hprevious hordered hepoch hunused hbootstrap =>
    exact ⟨state, hstate, hepoch, hunused, hbootstrap⟩
  | heartbeat previous hstate hprevious halive
  | transition state previous hstate hprevious halive =>
    obtain rfl := Option.some.inj (hr₀.symm.trans hprevious)
    exact absurd halive (not_fresh_mono hle hout hu)

inductive Aftermath (k : ControlAuthorityTracker) (h h' : List (ControlAuthoritySnapshot × ℤ)) :
    Prop
  | lost (quiet : Quiet (AcceptsBootstrap k) h h') (same : run step k (h ++ h') = run step k h)
  | restarted (pre : List (ControlAuthoritySnapshot × ℤ)) (b : ControlAuthoritySnapshot × ℤ)
      (post : List (ControlAuthoritySnapshot × ℤ)) (split : h' = pre ++ b :: post)
      (bootstrap : AcceptsBootstrap k (h ++ pre) b) (s : ControlAuthoritySnapshot)
      (hs : (run step k (h ++ h')).state = some s) (epoch : s.managerEpoch = b.1.managerEpoch)
      (resumed : s.authority = .autonomy → ∃ mid c rest, post = mid ++ c :: rest ∧
        AcceptsAutonomy k (h ++ pre ++ b :: mid) c ∧ c.1.managerEpoch = b.1.managerEpoch)

theorem acceptsBootstrap_of_restart {h : List (ControlAuthoritySnapshot × ℤ)}
    {c : ControlAuthoritySnapshot × ℤ} {state : ControlAuthoritySnapshot}
    (hr : Recorded (accepted k h) (run step k h)) (hstate : (run step k h).state = some state)
    (ha : ((run step k h).step c).2.accepted = true)
    (hepoch : c.1.managerEpoch ≠ state.managerEpoch)
    (hunused : c.1.managerEpoch ∉ (run step k h).retiredEpochs)
    (hbootstrap : safeManagerBootstrap c.1 = true) : AcceptsBootstrap k h c := by
  refine ⟨ha, ?_, safeManagerBootstrap_spec hbootstrap⟩
  intro a hlog he
  rcases hr.retired a hlog state hstate with hret | hcur
  · exact hunused (he ▸ hret)
  · exact hepoch (he.symm.trans hcur)

theorem Aftermath.after_bootstrap {h h' : List (ControlAuthoritySnapshot × ℤ)}
    {c : ControlAuthoritySnapshot × ℤ} (hb : AcceptsBootstrap k (h ++ h') c)
    (hs : ((run step k (h ++ h')).step c).1.state = some c.1) : Aftermath k h (h' ++ [c]) := by
  refine .restarted h' c [] rfl hb c.1 ?_ rfl ?_
  · rwa [← List.append_assoc, run_snoc]
  · intro hauto
    rw [hb.2.2.2] at hauto
    cases hauto

theorem Aftermath.step_lost {h h' : List (ControlAuthoritySnapshot × ℤ)}
    {c : ControlAuthoritySnapshot × ℤ} (hr : Recorded (accepted k (h ++ h')) (run step k (h ++ h')))
    (hquiet : Quiet (AcceptsBootstrap k) h h') (hsame : run step k (h ++ h') = run step k h)
    (hl : Lost (run step k h) t) (hc : t ≤ c.2) : Aftermath k h (h' ++ [c]) := by
  rw [← hsame] at hl
  by_cases ha : ((run step k (h ++ h')).step c).2.accepted = true
  · obtain ⟨state, hstate, hepoch, hunused, hbootstrap⟩ := hl.outcome hc ha
    exact .after_bootstrap (acceptsBootstrap_of_restart hr hstate ha hepoch hunused hbootstrap)
      (accepted_held ha).1
  · have hkeep : ((run step k (h ++ h')).step c).1 = run step k (h ++ h') :=
      rejected_keeps (Bool.eq_false_iff.mpr ha)
    refine .lost (hquiet.snoc fun hb ↦ ha hb.1) ?_
    rw [← List.append_assoc, run_snoc, hkeep, hsame]

theorem Aftermath.step {h h' : List (ControlAuthoritySnapshot × ℤ)}
    {c : ControlAuthoritySnapshot × ℤ} (hr : Recorded (accepted k (h ++ h')) (run step k (h ++ h')))
    (hi : Aftermath k h h') (hl : Lost (run ControlAuthorityTracker.step k h) t) (hc : t ≤ c.2) :
    Aftermath k h (h' ++ [c]) := by
  cases hi with
  | lost hquiet hsame => exact .step_lost hr hquiet hsame hl hc
  | restarted pre b post hsplit hb s hs hepoch hresumed =>
    have resumed_later : s.authority = .autonomy → ∃ mid d rest, post ++ [c] = mid ++ d :: rest ∧
        AcceptsAutonomy k (h ++ pre ++ b :: mid) d ∧ d.1.managerEpoch = b.1.managerEpoch := by
      intro hauto
      obtain ⟨mid, d, rest, rfl, hd⟩ := hresumed hauto
      exact ⟨mid, d, rest ++ [c], by simp, hd⟩
    have hsplit' : h' ++ [c] = pre ++ b :: (post ++ [c]) := by simp [hsplit]
    have hrun : run ControlAuthorityTracker.step k (h ++ (h' ++ [c])) =
        ((run ControlAuthorityTracker.step k (h ++ h')).step c).1 := by
      rw [← List.append_assoc, run_snoc]
    have ho := update_outcome (run ControlAuthorityTracker.step k (h ++ h')) c.1 c.2
    generalize hout : (run ControlAuthorityTracker.step k (h ++ h')).update c.1 c.2 = out at ho
    have hstep : (run ControlAuthorityTracker.step k (h ++ h')).step c = out := hout
    cases ho with
    | rejected discontinuity decision =>
      exact .restarted pre b _ hsplit' hb s (by rw [hrun, hstep]; exact hs) hepoch resumed_later
    | initial hvalid hunseen =>
      have hlog := hr.log_nil hunseen
      simp [hr.latest, hlog] at hs
    | restart state previous hstate hprevious hordered hne hunused hbootstrap =>
      exact .after_bootstrap
        (acceptsBootstrap_of_restart hr hstate (by rw [hstep]; rfl) hne hunused hbootstrap)
        (by rw [hstep]; rfl)
    | heartbeat previous hstate hprevious halive =>
      exact .restarted pre b _ hsplit' hb s (by rw [hrun, hstep]; exact hs) hepoch resumed_later
    | transition state previous hstate hprevious halive hsame hlater =>
      obtain rfl := Option.some.inj (hs.symm.trans hstate)
      refine .restarted pre b _ hsplit' hb c.1 (by rw [hrun, hstep]; rfl) (hsame.trans hepoch) ?_
      intro hauto
      refine ⟨post, c, [], rfl, ?_, hsame.trans hepoch⟩
      have hhist : h ++ pre ++ b :: post = h ++ h' := by simp [hsplit]
      rw [AcceptsAutonomy, hhist, hstep]
      exact ⟨rfl, rfl, hauto⟩

theorem aftermath {lease : ℤ} (hk : create lease = .ok k)
    (h h' : List (ControlAuthoritySnapshot × ℤ)) (hl : Lost (run step k h) t)
    (ht : ∀ c ∈ h', t ≤ c.2) : Aftermath k h h' := by
  induction h' using List.reverseRecOn with
  | nil => exact .lost quiet_nil (by rw [List.append_nil])
  | append_singleton h' c ih =>
    have hi := ih fun c hc ↦ ht c (by simp [hc])
    exact hi.step (discipline hk (h ++ h')).1 hl (ht c (by simp))

theorem Aftermath.same {h h' : List (ControlAuthoritySnapshot × ℤ)} (hi : Aftermath k h h')
    (hq : Quiet (AcceptsBootstrap k) h h') : run ControlAuthorityTracker.step k (h ++ h') =
      run ControlAuthorityTracker.step k h := by
  cases hi with
  | lost hquiet hsame => exact hsame
  | restarted pre b post hsplit hb s hs hepoch hresumed => exact absurd hb (hq pre b post hsplit)

/-- What is left of the authority of a tracker that lost its lease by `t`. -/
structure StickyLoss (k : ControlAuthorityTracker) (t : ℤ)
    (h h' : List (ControlAuthoritySnapshot × ℤ)) : Prop where
  silent : Quiet (AcceptsBootstrap k) h h' → ∀ t', t ≤ t' →
    (run step k (h ++ h')).fresh t' = false ∧ (run step k (h ++ h')).freshAutonomy t' = false
  same_epoch : ∀ pre c post, h' = pre ++ c :: post → Quiet (AcceptsBootstrap k) h pre →
    ∀ s, (run step k h).state = some s → c.1.managerEpoch = s.managerEpoch →
    ((run step k (h ++ pre)).step c).2.accepted = false
  resumed : ∀ t', t ≤ t' → (run step k (h ++ h')).freshAutonomy t' = true →
    ∃ pre b mid c post, h' = pre ++ b :: (mid ++ c :: post) ∧
      AcceptsBootstrap k (h ++ pre) b ∧ AcceptsAutonomy k (h ++ pre ++ b :: mid) c ∧
      c.1.managerEpoch = b.1.managerEpoch

theorem sticky_loss (lease : ℤ) (k : ControlAuthorityTracker) (hk : create lease = .ok k)
    (h : List (ControlAuthoritySnapshot × ℤ)) (t : ℤ)
    (hobserved : (run step k h).observed = true) (hfresh : (run step k h).fresh t = false)
    (hreceived : ∀ previous, (run step k h).receivedAt = some previous → previous ≤ t)
    (h' : List (ControlAuthoritySnapshot × ℤ)) (ht : ∀ c ∈ h', t ≤ c.2) : StickyLoss k t h h' := by
  have hl := lost_of_not_fresh hobserved hfresh hreceived
  refine ⟨?_, ?_, ?_⟩
  · intro hq t' ht'
    rw [(aftermath hk h h' hl ht).same hq]
    exact hl.not_fresh ht'
  · intro pre c post hsplit hq s hs hepoch
    have hpre : ∀ d ∈ pre, t ≤ d.2 := fun d hd ↦ ht d (by simp [hsplit, hd])
    rw [(aftermath hk h pre hl hpre).same hq]
    by_contra ha
    obtain ⟨state, hstate, hne, -⟩ := hl.outcome (s := c.1) (u := c.2) (ht c (by simp [hsplit]))
      (by simpa [step] using ha)
    obtain rfl := Option.some.inj (hs.symm.trans hstate)
    exact hne hepoch
  · intro t' ht' hauto
    cases aftermath hk h h' hl ht with
    | lost hquiet hsame =>
      rw [hsame, (hl.not_fresh ht').2] at hauto
      cases hauto
    | restarted pre b post hsplit hb s hs hepoch hresumed =>
      have howner : s.authority = .autonomy := by
        simpa [authority, hs] using (Bool.and_eq_true_iff.mp hauto).2
      obtain ⟨mid, c, rest, rfl, hc, hce⟩ := hresumed howner
      exact ⟨pre, b, mid, c, rest, hsplit, hb, hc, hce⟩

/-- A manager that paused for longer than its lease, then two of its heartbeats. -/
theorem sticky_loss_heartbeats : StickyLoss { lease := 500, lease_pos := by decide } 501000000
      [({ authority := .autonomy, transitionSequence := 1, activeSource := "autonomy",
          autonomyQuiescenceAcknowledged := false }, 0)]
      [({ authority := .autonomy, transitionSequence := 1, activeSource := "autonomy",
          autonomyQuiescenceAcknowledged := false }, 501000000),
       ({ transitionSequence := 2, reason := "late" }, 510000000)] :=
  sticky_loss 500 _ rfl _ _ (by decide) (by decide) (by decide) _ (by decide)

end EmbodiedAgent.ControlAuthorityTracker
