import EmbodiedAgent.Library.Fallible
import EmbodiedAgent.Library.History
import EmbodiedAgent.Slam.FrontierMonitor

namespace EmbodiedAgent.Slam

open Library Library.History

def FrontierTelemetry.Drained (t : FrontierTelemetry) : Prop :=
  t.activeGoalCount = 0 ∧ t.acceptedGoalCount = t.terminalCount

instance (t : FrontierTelemetry) : Decidable t.Drained :=
  inferInstanceAs (Decidable (_ ∧ _))

def FrontierTelemetry.Accounted (t : FrontierTelemetry) : Prop :=
  t.acceptedGoalCount = t.activeGoalCount + t.terminalCount

instance (t : FrontierTelemetry) : Decidable t.Accounted :=
  inferInstanceAs (Decidable (_ = _))

theorem FrontierTelemetry.Accounted.drained {t : FrontierTelemetry} (h : t.Accounted)
    (hactive : t.activeGoalCount = 0) : t.Drained := by
  refine ⟨hactive, ?_⟩
  rw [h, hactive, Nat.zero_add]

theorem FrontierTelemetry.Accounted.drained_of_none {t : FrontierTelemetry} (h : t.Accounted)
    (haccepted : t.acceptedGoalCount = 0) : t.Drained := by
  rw [Accounted, haccepted] at h
  exact Accounted.drained (haccepted.trans h) (Nat.eq_zero_of_add_eq_zero_right h.symm)

section Decisions

variable {c : FrontierMonitorConfig} {snapshot : MappingEvidenceSnapshot} {elapsedS : Double}
  {timeBudgetReached : Bool} {remaining : ℤ} {quietNow idleNow : Double} {reason : String}

def ExplorationDecision.concludes : ExplorationDecision → Bool
  | .complete | .recover => true
  | .continues | .fail => false

theorem decision_active {o : ExplorationObservation} (h : o.decision.concludes = true) :
    ¬ 0 < o.activeGoalCount := by
  intro hactive
  rw [ExplorationObservation.decision, if_pos hactive] at h
  split_ifs at h <;> cases h

theorem decision_quiet {o : ExplorationObservation} (h : o.decision.concludes = true) :
    o.plateauDetected = true ∨ o.requiredQuietS ≤ o.mapQuietS ∨
      0 < o.blacklistedFrontierCount := by
  by_contra hnone
  obtain ⟨hplateau, hquiet, hblacklisted⟩ := not_or.mp hnone |>.imp id not_or.mp
  unfold ExplorationObservation.decision at h
  split_ifs at h with _ _ _ _ hstalled
  all_goals first
    | cases h
    | exact hplateau hstalled.1

theorem decideExploration_eq_ok {o : ExplorationObservation} {decision : ExplorationDecision}
    (h : decideExploration o = .ok decision) : decision = o.decision := by
  unfold decideExploration at h
  split_ifs at h
  exact (Except.ok.inj h).symm

def FrontierTelemetry.untyped (t : FrontierTelemetry) : Bool :=
  !t.noClearance && !t.attemptsExhausted && !t.progressStalled

namespace FrontierMonitorConfig

def countersDecide (c : FrontierMonitorConfig) (snapshot : MappingEvidenceSnapshot)
    (elapsedS quietNow : Double) : Bool :=
  snapshot.frontierTelemetry.untyped && !decide (elapsedS < c.minRuntimeS) &&
    (decide (c.stableMapS ≤ mapQuietS snapshot quietNow) ||
      decide (0 < snapshot.frontierTelemetry.blacklistedFrontierCount))

theorem ledgerReason_drained {t : FrontierTelemetry} {refusal : String} {given : Option String}
    (h : t.ledgerReason refusal given = .ok (some reason)) : given = some reason ∧ t.Drained := by
  unfold FrontierTelemetry.ledgerReason at h
  split_ifs at h with hactive hledger
  · cases h
  · exact ⟨Except.ok.inj h, Nat.eq_zero_of_not_pos hactive, not_not.mp hledger⟩

theorem decidedReason_concludes
    (h : c.decidedReason snapshot timeBudgetReached remaining quietNow idleNow =
      .ok (some reason)) :
    (c.observation snapshot timeBudgetReached remaining quietNow
      idleNow).decision.concludes = true := by
  unfold decidedReason at h
  cases hdecision : decideExploration
    (c.observation snapshot timeBudgetReached remaining quietNow idleNow) with
  | error error =>
    rw [hdecision] at h
    cases h
  | ok decision =>
    rw [← decideExploration_eq_ok hdecision]
    rw [hdecision] at h
    cases decision with
    | continues => cases h
    | recover => rfl
    | complete => rfl
    | fail => cases h

theorem decidedReason_active
    (h : c.decidedReason snapshot timeBudgetReached remaining quietNow idleNow =
      .ok (some reason)) : snapshot.frontierTelemetry.activeGoalCount = 0 := by
  have hactive := decision_active (decidedReason_concludes h)
  exact Nat.eq_zero_of_not_pos fun hpos ↦ hactive (Int.natCast_pos.mpr hpos)

theorem decidedReason_quiet
    (h : c.decidedReason snapshot timeBudgetReached remaining quietNow idleNow =
      .ok (some reason)) : c.stableMapS ≤ mapQuietS snapshot quietNow ∨
      0 < snapshot.frontierTelemetry.blacklistedFrontierCount := by
  rcases decision_quiet (decidedReason_concludes h) with hplateau | hquiet | hblacklisted
  · exact .inl (of_decide_eq_true hplateau)
  · exact .inl hquiet
  · exact .inr (Int.natCast_pos.mp hblacklisted)

theorem unknownWorldReason_drained
    (h : c.unknownWorldReason snapshot elapsedS timeBudgetReached remaining quietNow idleNow =
      .ok (some reason)) (hreason : reason.startsWith "assessment_required:" = false) :
    snapshot.frontierTelemetry.Drained ∨ timeBudgetReached = false ∧
      c.countersDecide snapshot elapsedS quietNow = true ∧
      snapshot.frontierTelemetry.activeGoalCount = 0 := by
  unfold unknownWorldReason at h
  dsimp only at h
  split_ifs at h with hclear hinvalid hexhausted hinvalid htime hquiet hruntime hstalled htime
  · exact .inl (ledgerReason_drained h).2
  · exact .inl (ledgerReason_drained h).2
  · exact .inl (ledgerReason_drained h).2
  · exact .inl (ledgerReason_drained h).2
  · cases h
  · exact .inl (ledgerReason_drained h).2
  · cases h
    exact absurd hreason (by decide +kernel)
  · refine .inr ⟨Bool.eq_false_of_not_eq_true htime, ?_, decidedReason_active h⟩
    have hquiet := decidedReason_quiet h
    simp [countersDecide, FrontierTelemetry.untyped, hclear, hexhausted, hruntime, hstalled,
      hquiet]

end FrontierMonitorConfig

end Decisions

namespace FrontierWait

variable {w : FrontierWait} {hypot : Double → Double → Double}

def telemetry (w : FrontierWait) : FrontierTelemetry := w.tracker.snapshot.frontierTelemetry

def countersDecide (w : FrontierWait) (r : MonitorReading) : Bool :=
  match w.phase with
  | .polling startedAt deadline =>
    decide (r.loopNow < deadline) && !r.canceled &&
      w.config.countersDecide w.tracker.snapshot (r.elapsedNow.sub startedAt) r.quietNow
  | _ => false

def dryRunOver (w : FrontierWait) (r : MonitorReading) : Bool :=
  match w.phase with
  | .dryRun deadline => !decide (r.loopNow < deadline)
  | _ => false

/-- The telemetry that is looked at accounts for every goal. -/
def Accounts (w : FrontierWait) : MonitorEvent → Prop
  | .poll r =>
    (w.countersDecide r = true → w.telemetry.Accounted) ∧
      (w.dryRunOver r = true → w.telemetry.Accounted ∧ w.telemetry.acceptedGoalCount = 0)
  | _ => True

instance (w : FrontierWait) : (e : MonitorEvent) → Decidable (w.Accounts e)
  | .poll _ => inferInstanceAs (Decidable (_ ∧ _))
  | .recordMap .. | .recordOdom .. | .recordFrontierTelemetry .. => .isTrue trivial

/-- A conclusion that a step returns finds the ledger drained. -/
def ReturnsDrained (hypot : Double → Double → Double) (w : FrontierWait) (e : MonitorEvent) :
    Prop :=
  ∀ reason, (w.step hypot e).2 = some (.ok reason) →
    reason.startsWith "assessment_required:" = false → w.telemetry.Drained

theorem conclude_result (w : FrontierWait) (reason : String) :
    (w.conclude reason).2 = some (.ok reason) := by
  unfold conclude
  split_ifs <;> rfl

theorem round_drained (hmode : w.config.policyMode = "unknown_world") {startedAt : Double}
    {r : MonitorReading} {reason : String} (h : (w.round startedAt r).2 = some (.ok reason))
    (hreason : reason.startsWith "assessment_required:" = false) :
    w.telemetry.Drained ∨ r.canceled = false ∧
      w.config.countersDecide w.tracker.snapshot (r.elapsedNow.sub startedAt) r.quietNow = true ∧
      w.telemetry.activeGoalCount = 0 := by
  unfold round at h
  dsimp only at h
  rw [FrontierMonitorConfig.completionReason, if_pos hmode] at h
  by_cases hcanceled : r.canceled = true
  · rw [if_pos hcanceled] at h
    cases h
  · rw [if_neg hcanceled] at h
    split at h
    · cases h
    · split at h
      · cases h
      · rename_i given hgiven
        rw [conclude_result] at h
        cases h
        refine (FrontierMonitorConfig.unknownWorldReason_drained hgiven hreason).imp id fun hc ↦ ?_
        exact ⟨Bool.eq_false_of_not_eq_true hcanceled, hc.2⟩
      · split at h <;> cases h

theorem expire_drained (hmode : w.config.policyMode = "unknown_world") {startedAt : Double}
    {r : MonitorReading} {reason : String} (h : (w.expire startedAt r).2 = some (.ok reason))
    (hreason : reason.startsWith "assessment_required:" = false) : w.telemetry.Drained := by
  unfold expire at h
  dsimp only at h
  rw [FrontierMonitorConfig.completionReason, if_pos hmode] at h
  split at h
  · cases h
  · rename_i given hgiven
    rw [conclude_result] at h
    cases h
    refine (FrontierMonitorConfig.unknownWorldReason_drained hgiven hreason).resolve_right
      fun hc ↦ ?_
    cases hc.1
  · cases h

theorem Accounts.returnsDrained (hmode : w.config.policyMode = "unknown_world") {e : MonitorEvent}
    (h : w.Accounts e) : ReturnsDrained hypot w e := by
  intro reason hresult hreason
  cases e with
  | poll r =>
    obtain ⟨haccounted, hover⟩ := h
    simp only [step, poll] at hresult
    unfold countersDecide at haccounted
    unfold dryRunOver at hover
    cases hphase : w.phase with
    | dryRun deadline =>
      simp only [hphase] at hresult hover
      split_ifs at hresult with hdeadline hcanceled
      · cases hresult
      · have hnone := hover ((Bool.not_eq_true' _).mpr (decide_eq_false hdeadline))
        exact hnone.1.drained_of_none hnone.2
    | polling startedAt deadline =>
      simp only [hphase] at hresult haccounted
      split_ifs at hresult with hdeadline
      · rcases round_drained hmode hresult hreason with
          hdrained | ⟨hcanceled, hdecide, hactive⟩
        · exact hdrained
        · refine (haccounted ?_).drained hactive
          rw [decide_eq_true hdeadline, hcanceled, hdecide]
          rfl
    | expired startedAt =>
      simp only [hphase] at hresult
      exact expire_drained hmode hresult hreason
    | ended =>
      simp only [hphase] at hresult
      cases hresult
  | _ => cases hresult

theorem config_poll (w : FrontierWait) (r : MonitorReading) :
    (w.poll r).1.config = w.config := by
  have hconclude : ∀ reason, (w.conclude reason).1.config = w.config := by
    intro reason
    unfold conclude
    split_ifs <;> rfl
  have hround : ∀ startedAt, (w.round startedAt r).1.config = w.config := by
    intro startedAt
    unfold round
    dsimp only
    split
    · rfl
    · split
      · rfl
      · split
        · rfl
        · exact hconclude _
        · split <;> rfl
  have hexpire : ∀ startedAt, (w.expire startedAt r).1.config = w.config := by
    intro startedAt
    unfold expire
    dsimp only
    split
    · rfl
    · exact hconclude _
    · rfl
  unfold poll
  split
  · split
    · split <;> rfl
    · rfl
  · split
    · exact hround _
    · rfl
  · exact hexpire _
  · rfl

theorem config_wait (config : FrontierMonitorConfig) (tracker : MappingEvidenceTracker)
    (remaining : ℤ) (deadline : Option Double) (now : Double) :
    (wait config tracker remaining deadline now).1.config = config := by
  unfold wait
  split_ifs <;> rfl

theorem config_step (w : FrontierWait) (e : MonitorEvent) :
    (w.step hypot e).1.config = w.config := by
  cases e with
  | poll r => exact config_poll w r
  | _ => rfl

/-- Whatever is observed during a call, the monitor concludes on a drained ledger only. -/
theorem concludes_drained (hypot : Double → Double → Double) (config : FrontierMonitorConfig)
    (hmode : config.policyMode = "unknown_world") (tracker : MappingEvidenceTracker)
    (remaining : ℤ) (deadline : Option Double) (now : Double) (h : List MonitorEvent)
    (haccounts : Along (step hypot) Accounts (wait config tracker remaining deadline now).1 h) :
    ∀ pre e post, h = pre ++ e :: post → ReturnsDrained hypot
      (run (step hypot) (wait config tracker remaining deadline now).1 pre) e := by
  have hkept : ∀ pre, (run (step hypot) (wait config tracker remaining deadline now).1
      pre).config.policyMode = "unknown_world" := by
    refine run_preserves (step hypot) (I := fun w ↦ w.config.policyMode = "unknown_world") ?_ ?_
    · intro w e hw
      rw [config_step]
      exact hw
    · rw [config_wait]
      exact hmode
  intro pre e post hsplit
  exact ((along_iff (step hypot)).mp haccounts pre e post hsplit).returnsDrained (hkept pre)

def unknownWorld : FrontierMonitorConfig where
  timeoutS := .ofRat 900
  minRuntimeS := .ofRat 60
  stableMapS := .ofRat 20
  completionStatus := "exploration_complete"
  minKnownCells := 0
  minOccupiedCells := 0
  minMappingPathM := 0
  policyMode := "unknown_world"
  idleGrace_valid := by decide

def noFrontiers (active succeeded : ℕ) : MonitorEvent :=
  .recordFrontierTelemetry
    { status := "exploration_complete"
      completionReason := "no_frontiers"
      activeGoalCount := active
      acceptedGoalCount := 1
      succeededGoalCount := succeeded } 0

/-- The map has been quiet for long. -/
def quietRound : MonitorEvent :=
  .poll { elapsedNow := .ofRat 100, quietNow := .ofRat 100, idleNow := .ofRat 100 }

/-- The monitor waits for the goal that is under way and concludes after its end. -/
theorem concludes_drained_ended :
    let w := run (step Double.add) (wait unknownWorld (.create 0 0 0) 0 none 0).1
      [noFrontiers 1 0, quietRound, noFrontiers 0 1]
    (w.step Double.add quietRound).2 = some (.ok "no_reachable_frontiers") ∧
      w.telemetry.Drained := by
  have haccounts : Along (step Double.add) Accounts (wait unknownWorld (.create 0 0 0) 0 none 0).1
      [noFrontiers 1 0, quietRound, noFrontiers 0 1, quietRound] := by
    decide +kernel
  have hresult : ((run (step Double.add) (wait unknownWorld (.create 0 0 0) 0 none 0).1
      [noFrontiers 1 0, quietRound, noFrontiers 0 1]).step Double.add quietRound).2 =
      some (.ok "no_reachable_frontiers") := by
    decide +kernel
  exact ⟨hresult, concludes_drained Double.add unknownWorld rfl (.create 0 0 0) 0 none 0 _ haccounts
    [noFrontiers 1 0, quietRound, noFrontiers 0 1] quietRound [] rfl _ hresult (by decide +kernel)⟩

/-- The monitor concludes while an accepted goal has not come to its end. -/
theorem concludes_with_goal_open :
    let w := run (step Double.add) (wait unknownWorld (.create 0 0 0) 0 none 0).1 [noFrontiers 0 0]
    (w.step Double.add quietRound).2 = some (.ok "no_reachable_frontiers") ∧
      w.telemetry.activeGoalCount = 0 ∧ w.telemetry.acceptedGoalCount = 1 ∧
      w.telemetry.terminalCount = 0 := by
  decide +kernel

end FrontierWait

end EmbodiedAgent.Slam
