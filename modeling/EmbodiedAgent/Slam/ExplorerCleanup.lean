import EmbodiedAgent.Library.History
import EmbodiedAgent.Slam.SaturationProtocol

namespace EmbodiedAgent.Slam

open Library Library.Program Library.History

namespace MissionEntry

def starts : MissionEntry → Bool
  | .port (.startExplorer _) (.ok _) => true
  | _ => false

def stops : MissionEntry → Bool
  | .port .stopExplorer _ => true
  | _ => false

def fault : MissionEntry → Bool
  | .port (.waitForFrontier ..) (.error _) | .port (.quiesceFrontier ..) (.error _)
  | .port .stopExplorer (.error _) => true
  | _ => false

def halts : MissionEntry → Bool
  | .port (.stopMotionAndWait ..) _ => true
  | _ => false

def unhandled : MissionEntry → Bool
  | .port (.quiesceFrontier .user _) (.error _) | .observe .afterWait false => true
  | _ => false

end MissionEntry

def Stopped (tr : List MissionEntry) : Prop := Answered (·.starts = true) (·.stops = true) tr

def Halted (tr : List MissionEntry) : Prop := Answered (·.fault = true) (·.halts = true) tr

def Handled (tr : List MissionEntry) : Prop := ∀ e ∈ tr, e.unhandled = false

instance (tr : List MissionEntry) : Decidable (Stopped tr) :=
  inferInstanceAs (Decidable (Answered _ _ tr))

instance (tr : List MissionEntry) : Decidable (Halted tr) :=
  inferInstanceAs (Decidable (Answered _ _ tr))

section Entries

variable {tr : List MissionEntry} {e : MissionEntry}

theorem handled_snoc : Handled (tr ++ [e]) ↔ Handled tr ∧ e.unhandled = false := by
  simp only [Handled, List.forall_mem_append, List.forall_mem_singleton]

theorem Stopped.snoc (h : Stopped tr) (he : e.starts = false) : Stopped (tr ++ [e]) :=
  answered_snoc.mpr ⟨by simp [he], .inr h⟩

theorem stopped_snoc_of_stops (hs : e.starts = false) (he : e.stops = true) : Stopped (tr ++ [e]) :=
  answered_snoc.mpr ⟨by simp [hs], .inl he⟩

theorem not_stopped_snoc (h : ¬ Stopped tr) (he : e.stops = false) : ¬ Stopped (tr ++ [e]) :=
  fun hs ↦ ((answered_snoc.mp hs).2.resolve_left (by simp [he])) |> h

theorem Halted.snoc (h : Halted tr) (he : e.fault = false) : Halted (tr ++ [e]) :=
  answered_snoc.mpr ⟨by simp [he], .inr h⟩

theorem halted_snoc_of_halts (hf : e.fault = false) (he : e.halts = true) : Halted (tr ++ [e]) :=
  answered_snoc.mpr ⟨by simp [hf], .inl he⟩

theorem between_harmless (he : e.between = true) :
    e.starts = false ∧ e.stops = false ∧ e.fault = false ∧ e.unhandled = false := by
  cases e with
  | port call reply => cases call <;> first | exact ⟨rfl, rfl, rfl, rfl⟩ | cases he
  | observe point accepted =>
    cases point with
    | afterWait => cases he
    | epochStart | afterScan => exact ⟨rfl, rfl, rfl, rfl⟩
  | epoch | finalProbe => cases he
  | monotonic | canceled | evidence => exact ⟨rfl, rfl, rfl, rfl⟩

end Entries

variable {w : MissionWorld}

structure Clean (w : MissionWorld) : Prop where
  stopped : Stopped w.trace
  halted : Halted w.trace
  handled : Handled w.trace

structure Pending (w : MissionWorld) : Prop where
  running : ¬ Stopped w.trace
  halted : Halted w.trace
  handled : Handled w.trace

theorem Clean.snoc (h : Clean w) {e : MissionEntry} (evidence : MappingEvidenceTracker)
    (he : e.starts = false ∧ e.fault = false ∧ e.unhandled = false) :
    Clean ⟨evidence, w.trace ++ [e]⟩ :=
  ⟨h.stopped.snoc he.1, h.halted.snoc he.2.1, handled_snoc.mpr ⟨h.handled, he.2.2⟩⟩

theorem Pending.snoc (h : Pending w) {e : MissionEntry} (evidence : MappingEvidenceTracker)
    (he : e.stops = false ∧ e.fault = false ∧ e.unhandled = false) :
    Pending ⟨evidence, w.trace ++ [e]⟩ :=
  ⟨not_stopped_snoc h.running he.1, h.halted.snoc he.2.1, handled_snoc.mpr ⟨h.handled, he.2.2⟩⟩

def KeepsClean (w w' : MissionWorld) : Prop := Clean w → Clean w'

instance : IsPreorder MissionWorld KeepsClean where
  refl _ := id
  trans _ _ _ h h' := h' ∘ h

theorem clean_frame (env : MissionEnvironment) : Frame env KeepsClean fun _ ↦ True where
  entry _ _ he h := h.snoc _ ⟨(between_harmless he).1, (between_harmless he).2.2⟩
  evidence _ _ _ _ h := h.snoc _ ⟨rfl, rfl, rfl⟩
  failure _ _ := trivial

/-- What was started is stopped, and after a failure with an explorer so is the robot. -/
structure Cleaned (raised : Bool) (tr : List MissionEntry) : Prop where
  stopped : Stopped tr
  halted : raised = true → Halted tr

def Accounts (raised : Bool) (w : MissionWorld) : Prop := Cleaned raised w.trace ↔ Handled w.trace

theorem Clean.accounts (h : Clean w) (raised : Bool) : Accounts raised w :=
  iff_of_true ⟨h.stopped, fun _ ↦ h.halted⟩ h.handled

theorem Pending.accounts (h : Pending w) {e : MissionEntry} (raised : Bool)
    (he : e.stops = false) (hu : e.unhandled = true) :
    Accounts raised ⟨w.evidence, w.trace ++ [e]⟩ := by
  refine iff_of_false (fun hc ↦ not_stopped_snoc h.running he hc.stopped) fun hh ↦ ?_
  have hfalse := (handled_snoc.mp hh).2
  rw [hu] at hfalse
  cases hfalse

namespace UnknownWorldMissionExecutor

variable (env : MissionEnvironment) (spec : UnknownWorldMissionSpec)

def Settles {α : Type} (m : Mission α) (w : MissionWorld) (Q : α → MissionWorld → Prop) : Prop :=
  Meets m w Q (fun _ ↦ Accounts true) fun _ ↦ True

theorem settles_bind {α β : Type} {m : Mission α} {f : α → Mission β} {w : MissionWorld}
    {V : α → Prop} {Q : β → MissionWorld → Prop} (hm : Relates KeepsClean (fun _ ↦ True) m V)
    (h : Clean w) (hf : ∀ a w', Clean w' → Settles (f a) w' Q) : Settles (m >>= f) w Q :=
  hm.meets_bind (fun a w' _ hk ↦ hf a w' (hk h)) (fun _ _ _ hk ↦ (hk h).accounts true)
    fun _ _ ↦ trivial

theorem relates_settles {α : Type} {m : Mission α} {w : MissionWorld}
    (hm : Relates KeepsClean (fun _ ↦ True) m fun _ ↦ True) (h : Clean w) :
    Settles m w fun _ w' ↦ Clean w' :=
  (hm w).mono (fun _ _ ha ↦ ha.2 h) (fun _ _ he ↦ (he.2 h).accounts true) fun _ _ ↦ trivial

section Calls

variable {env} {w : MissionWorld}

theorem noting_port_met (env : MissionEnvironment) (failure : MissionFailure) (stage : String)
    (call : PortCall) (w : MissionWorld) {E : MissionFailure → MissionWorld → Prop}
    {U : MissionWorld → Prop} : Meets (noting failure stage (port env call)) w
      (fun _ w' ↦ ∃ reply, w' = ⟨w.evidence, w.trace ++ [.port call reply]⟩) E U := by
  refine Meets.handle (F := fun _ w' ↦ ∃ reply, w' = ⟨w.evidence, w.trace ++ [.port call reply]⟩)
    ?_ fun _ w' h ↦ meets_pure h
  refine Meets.bind (meets_invoke (fun reply _ ↦ ?_) fun error _ ↦ ⟨.error error, rfl⟩)
    fun _ w' h ↦ meets_pure h
  exact ⟨.ok reply, rfl⟩

theorem typedStop_settles {α : Type} (hs : Stopped w.trace) (hh : Handled w.trace)
    (failure : MissionFailure) (Q : α → MissionWorld → Prop) :
    Settles (noting failure "typed stop failed"
      (stopMotionAndWait env spec (.internal "frontier_failure_cleanup")) >>= raise) w Q := by
  refine (noting_port_met env failure _ _ w).bind ?_
  rintro failure w' ⟨reply, rfl⟩
  refine meets_raise (Clean.accounts ⟨hs.snoc rfl, halted_snoc_of_halts rfl rfl, ?_⟩ true)
  exact handled_snoc.mpr ⟨hh, rfl⟩

theorem cleanup_settles {α : Type} (hh : Handled w.trace) (failure : MissionFailure)
    (Q : α → MissionWorld → Prop) :
    Settles (cleanupFailedFrontierEpoch env spec failure true) w Q := by
  have hreap : Meets (reapExplorer env spec failure) w
      (fun _ w' ↦ Stopped w'.trace ∧ Handled w'.trace) (fun _ ↦ Accounts true) fun _ ↦ True := by
    refine (noting_port_met env failure _ _ w).bind ?_
    rintro failure w₁ ⟨reply, rfl⟩
    refine (noting_port_met env failure _ _ _).imp ?_
    rintro failure w₂ ⟨reply', rfl⟩
    refine ⟨stopped_snoc_of_stops rfl rfl, handled_snoc.mpr ⟨handled_snoc.mpr ⟨hh, ?_⟩, rfl⟩⟩
    cases reply <;> rfl
  exact Meets.bind hreap fun failure w' h ↦ typedStop_settles spec h.1 h.2 failure Q

theorem stopExplorer_settles (hhalted : Halted w.trace) (hh : Handled w.trace) :
    Settles (stopExplorer env spec) w fun _ w' ↦ Clean w' := by
  refine Meets.handle (F := fun _ w' ↦ Stopped w'.trace ∧ Handled w'.trace)
    (meets_invoke (fun reply _ ↦ ?_) fun error _ ↦ ?_) fun failure w' h ↦ ?_
  · exact ⟨stopped_snoc_of_stops rfl rfl, hhalted.snoc rfl, handled_snoc.mpr ⟨hh, rfl⟩⟩
  · exact ⟨stopped_snoc_of_stops rfl rfl, handled_snoc.mpr ⟨hh, rfl⟩⟩
  · exact Meets.bind (R := fun _ w ↦ Stopped w.trace ∧ Handled w.trace) (meets_pure h)
      fun failure w' h ↦ typedStop_settles spec h.1 h.2 failure _

theorem ofTracker_relates {α : Type} (r : Except SaturationError α) :
    Relates KeepsClean (fun _ ↦ True) (ofTracker r) fun _ ↦ True := by
  cases r with
  | ok a => exact relates_pure trivial
  | error e => exact relates_raise trivial

theorem observe_relates (tracker : SaturationEvidenceTracker) {point : ObservationPoint}
    (hpoint : ∀ accepted, (MissionEntry.observe point accepted).between = true) :
    Relates KeepsClean (fun _ ↦ True) (observeSaturationTracker env point tracker)
      fun _ ↦ True := by
  refine (snapshot_relates (clean_frame env)).bind fun snapshot _ ↦ ?_
  refine (log_relates (clean_frame env) (hpoint _)).bind fun _ _ ↦ ?_
  exact ofTracker_relates _

theorem observe_afterWait_settles (h : Pending w) (tracker : SaturationEvidenceTracker) :
    Settles (observeSaturationTracker env .afterWait tracker) w fun tracker' w' ↦ Pending w' ∧
      ∃ c, tracker' = { tracker with counters := c } ∧ tracker.counters.Below c := by
  refine Meets.bind (R := fun _ w' ↦ Pending w')
    (meets_get_bind (meets_modify_bind (meets_pure (h.snoc _ ⟨rfl, rfl, rfl⟩))))
    fun snapshot w₁ h₁ ↦ meets_modify_bind ?_
  generalize hresult : tracker.observe snapshot.stats.knownCells
    snapshot.frontierTelemetry.terminalCount snapshot.mappingPathM = result
  cases result with
  | ok tracker' =>
    obtain ⟨c, rfl, hbelow, -⟩ := SaturationEvidenceTracker.observe_ok hresult
    exact meets_pure ⟨h₁.snoc _ ⟨rfl, rfl, rfl⟩, c, rfl, hbelow⟩
  | error e => exact meets_raise (h₁.accounts true rfl rfl)

theorem finishEpoch_ok {tracker tracker' : SaturationEvidenceTracker} {n : ℕ}
    {c : ExplorationCounters} (h : tracker.beginEpoch n = .ok tracker')
    (hc : tracker'.counters.Below c) :
    ∃ t, SaturationEvidenceTracker.finishEpoch { tracker' with counters := c } = .ok t := by
  unfold SaturationEvidenceTracker.beginEpoch at h
  split_ifs at h with hid
  cases h
  simp only [SaturationEvidenceTracker.finishEpoch,
    ExplorationEpochEvidence.create_ok (Nat.pos_of_ne_zero hid) hc]
  exact ⟨_, rfl⟩

theorem exploreFrontier_settles (h : Clean w) (deadline : Double) (st : ExplorationState) :
    Settles (exploreFrontier env spec deadline st) w fun _ w' ↦ Pending w' := by
  refine settles_bind (transition_relates (clean_frame env) _) h fun _ w₁ h₁ ↦ ?_
  refine settles_bind (observe_relates _ fun _ ↦ rfl) h₁ fun tracker w₂ h₂ ↦ ?_
  cases hbegun : tracker.beginEpoch (st.epochId + 1) with
  | error e => exact meets_raise (h₂.accounts true)
  | ok tracker' =>
    refine meets_ofTracker rfl (meets_modify_bind ?_)
    have h₃ := h₂.snoc w₂.evidence (e := .epoch (st.epochId + 1) st.finalConfirmationActive)
      ⟨rfl, rfl, rfl⟩
    refine Meets.bind (R := fun _ w' ↦ Pending w')
      (meets_invoke (fun reply _ ↦ ?_) fun error _ ↦ ?_)
      fun _ w₄ h₄ ↦ ?_
    · refine ⟨fun hs ↦ (answered_snoc.mp hs).1 rfl, h₃.halted.snoc rfl, ?_⟩
      exact handled_snoc.mpr ⟨h₃.handled, rfl⟩
    · exact (h₃.snoc _ ⟨rfl, rfl, rfl⟩).accounts true
    refine Meets.bind (R := fun _ w' ↦ Pending w') (Meets.handle (F := fun _ w' ↦ Handled w'.trace)
      (meets_invoke (fun outcome _ ↦ h₄.snoc _ ⟨rfl, rfl, rfl⟩) fun error _ ↦ ?_)
      fun failure w' hh ↦ cleanup_settles spec hh failure _) fun outcome w₅ h₅ ↦ ?_
    · exact handled_snoc.mpr ⟨h₄.handled, rfl⟩
    refine (observe_afterWait_settles h₅ tracker').bind ?_
    rintro _ w₆ ⟨h₆, c, rfl, hbelow⟩
    obtain ⟨t, ht⟩ := finishEpoch_ok hbegun hbelow
    exact meets_ofTracker ht (meets_pure h₆)

end Calls

variable {env} {w : MissionWorld}

theorem finalProbe_relates (trigger : SaturationTrigger) :
    Relates KeepsClean (fun _ ↦ True) (log (.finalProbe trigger)) fun _ ↦ True :=
  fun _ ↦ meets_modify ⟨trivial, fun h ↦ h.snoc _ ⟨rfl, rfl, rfl⟩⟩

theorem finishProbe_relates (tracker : SaturationEvidenceTracker) :
    Relates KeepsClean (fun _ ↦ True) (finishProbe env tracker) fun _ ↦ True :=
  (observe_relates tracker fun _ ↦ rfl).bind fun _ _ ↦ ofTracker_relates _

theorem assessTimeBudgetSaturation_relates (fuel : ℕ) (tracker : SaturationEvidenceTracker)
    (telemetry : FrontierTelemetry) (remaining : ℤ) : Relates KeepsClean (fun _ ↦ True)
      (assessTimeBudgetSaturation env spec fuel tracker telemetry remaining) fun _ ↦ True := by
  have frame := clean_frame env
  refine (stopMotionAndWait_relates frame spec _).bind fun _ _ ↦ ?_
  refine (updateEvidence_relates frame harmless_finishMappingPath).bind fun _ _ ↦ ?_
  refine (ofTracker_relates _).bind fun tracker _ ↦ (finalProbe_relates _).bind fun _ _ ↦ ?_
  refine (recoveryScan_relates frame spec).bind fun _ _ ↦ ?_
  refine (waitForMapQuiet_relates frame spec _ _).bind fun settled _ ↦ ?_
  refine (finishProbe_relates _).bind fun tracker _ ↦ ?_
  exact finalizeSaturationAssessment_relates frame spec _ _ (fun _ ↦ trivial) _ _ _

theorem scanAfterEpoch_relates (fuel : ℕ) (outcome : String) (remaining : ℤ) (stallProbe : Bool)
    (tracker : SaturationEvidenceTracker) : Relates KeepsClean (fun _ ↦ True)
      (scanAfterEpoch env spec fuel outcome remaining stallProbe tracker) fun _ ↦ True := by
  have frame := clean_frame env
  refine Relates.bind (V := fun _ ↦ True) (relates_ite (fun _ ↦ ?_) fun _ ↦ relates_pure trivial)
    fun tracker _ ↦ ?_
  · refine (ofTracker_relates _).bind fun tracker _ ↦ (finalProbe_relates _).bind fun _ _ ↦ ?_
    exact relates_pure trivial
  · refine (recoveryBackup_relates frame spec _ _).bind fun displacement _ ↦ ?_
    refine (recoveryScan_relates frame spec).bind fun _ _ ↦ ?_
    refine (waitForMapQuiet_relates frame spec _ _).bind fun settled _ ↦ ?_
    refine Relates.bind (V := fun _ ↦ True)
      (relates_ite (fun _ ↦ finishProbe_relates tracker) fun _ ↦ relates_pure trivial)
      fun tracker _ ↦ ?_
    exact relates_pure trivial

theorem applyDecision_relates (st : ExplorationState) (r : EpochRecovery) (stallProbe : Bool)
    (detail : String) (telemetry : FrontierTelemetry) (settled : MappingEvidenceSnapshot) :
    Relates KeepsClean (fun _ ↦ True)
      (applyDecision env spec st r stallProbe detail telemetry settled) fun _ ↦ True := by
  have frame := clean_frame env
  have hresume (st : ExplorationState) : Relates KeepsClean (fun _ ↦ True) (do
      resumeExploration env
      pure (.inl st : ExplorationState ⊕ ExplorationRunOutcome)) fun _ ↦ True :=
    (resumeExploration_relates frame).bind fun _ _ ↦ relates_pure trivial
  unfold applyDecision
  split
  · refine (updateEvidence_relates frame (harmless_setCompletionReason _)).bind fun _ _ ↦ ?_
    exact relates_pure trivial
  · refine relates_ite (fun _ ↦ relates_raise trivial) fun _ ↦ ?_
    refine (finalizeSaturationAssessment_relates frame spec _ _ (fun _ ↦ trivial) _ _ _).bind
      fun outcome _ ↦ ?_
    exact relates_pure trivial
  · exact (monotonic_relates frame).bind fun now _ ↦ hresume _
  · exact relates_raise trivial
  · exact relates_raise trivial
  · exact hresume _
  · exact hresume _

theorem recover_relates (fuel : ℕ) (st : ExplorationState) (outcome : String) :
    Relates KeepsClean (fun _ ↦ True) (recover env spec fuel st outcome) fun _ ↦ True := by
  have frame := clean_frame env
  refine (updateEvidence_relates frame harmless_finishMappingPath).bind fun _ _ ↦ ?_
  refine (transition_relates frame _).bind fun _ _ ↦ ?_
  refine (stopMotionAndWait_relates frame spec _).bind fun _ _ ↦ ?_
  refine (canceled_relates frame).bind fun canceled _ ↦ ?_
  refine relates_ite (fun _ ↦ relates_raise trivial) fun _ ↦ ?_
  refine (snapshot_relates frame).bind fun before _ ↦ ?_
  refine (scanAfterEpoch_relates spec _ _ _ _ _).bind fun r _ ↦ ?_
  obtain ⟨tracker, displacement, settled⟩ := r
  dsimp only
  split
  · exact relates_raise trivial
  · refine (transition_relates frame _).bind fun _ _ ↦ ?_
    exact applyDecision_relates spec _ _ _ _ _ _

theorem timeBudgetReached_settles (h : Pending w) (fuel : ℕ) (st : ExplorationState) :
    Settles (timeBudgetReached env spec fuel st) w fun _ w' ↦ Clean w' := by
  have frame := clean_frame env
  refine Meets.bind (R := fun _ w' ↦ Pending w') (meets_invoke (fun telemetry _ ↦ ?_)
    fun error _ ↦ h.accounts true rfl rfl) fun telemetry w₁ h₁ ↦ ?_
  · exact h.snoc _ ⟨rfl, rfl, rfl⟩
  refine Meets.bind (stopExplorer_settles spec h₁.halted h₁.handled) fun _ w₂ h₂ ↦ ?_
  refine relates_settles (relates_ite (fun _ ↦ ?_) fun _ ↦ ?_) h₂
  · refine (stopMotionAndWait_relates frame spec _).bind fun _ _ ↦ ?_
    refine (recoveryScan_relates frame spec).bind fun _ _ ↦ ?_
    refine (waitForMapQuiet_relates frame spec _ _).bind fun _ _ ↦ ?_
    refine (observe_relates _ fun _ ↦ rfl).bind fun tracker _ ↦ ?_
    refine (monotonic_relates frame).bind fun now _ ↦ (transition_relates frame _).bind fun _ _ ↦ ?_
    exact (resumeExploration_relates frame).bind fun _ _ ↦ relates_pure trivial
  · refine (assessTimeBudgetSaturation_relates spec _ _ _ _).bind fun outcome _ ↦ ?_
    exact relates_pure trivial

theorem exploreEpoch_settles (h : Clean w) (fuel : ℕ) (deadline : Double) (st : ExplorationState) :
    Settles (exploreEpoch env spec fuel deadline st) w fun _ w' ↦ Clean w' := by
  have frame := clean_frame env
  refine Meets.bind (exploreFrontier_settles spec h deadline st) ?_
  rintro ⟨st, outcome⟩ w₁ h₁
  refine meets_ite (fun _ ↦ timeBudgetReached_settles spec h₁ fuel st) fun _ ↦ ?_
  refine Meets.bind (stopExplorer_settles spec h₁.halted h₁.handled) fun _ w₂ h₂ ↦ ?_
  refine relates_settles (relates_ite (fun _ ↦ ?_) fun _ ↦ relates_ite (fun _ ↦ ?_) fun _ ↦ ?_) h₂
  · exact (confirmationEnded_relates frame spec outcome).bind fun _ _ ↦ relates_pure trivial
  · refine (updateEvidence_relates frame (harmless_setCompletionReason _)).bind fun _ _ ↦ ?_
    exact relates_pure trivial
  · exact recover_relates spec fuel st outcome

theorem exploration_cleaned_iff (evidence : MappingEvidenceTracker) (epochFuel quietFuel : ℕ) :
    Meets (exploreWithBoundedRecovery env spec epochFuel quietFuel) ⟨evidence, []⟩
      (fun _ w ↦ Cleaned false w.trace ↔ Handled w.trace)
      (fun _ w ↦ Cleaned true w.trace ↔ Handled w.trace) fun _ ↦ True := by
  have hstart : Clean ⟨evidence, []⟩ := ⟨trivial, trivial, fun _ he ↦ absurd he List.not_mem_nil⟩
  refine Meets.imp (R := fun _ w ↦ Clean w)
    (settles_bind (monotonic_relates (clean_frame env)) hstart fun now w h ↦ ?_)
    fun _ w h ↦ h.accounts false
  refine meets_iterate (I := fun _ w ↦ Clean w) (fun st w h ↦ ?_) (fun _ _ _ ↦ trivial) epochFuel h
  refine (exploreEpoch_settles spec h quietFuel _ st).imp fun r w' h' ↦ ?_
  cases r <;> exact h'

/-- The search takes up its time, and its goals cannot be settled. -/
def unsettled : MissionEnvironment where
  answer _ call :=
    match call with
    | .waitForFrontier .. => .ok "assessment_required:time_budget"
    | .quiesceFrontier .. => .error ⟨"TimeoutError", "frontier quiescence timed out"⟩
    | .runRecoveryBackup .. => .ok (.ofRat (1 / 4))
    | .transition _ | .startExplorer _ | .stopExplorer | .stopMotionAndWait ..
    | .runAgentAction .. => .ok ()
  clock tr := .ofRat (10 * tr.length)
  canceled _ := false
  record _ evidence := evidence

theorem settling_fails_uncleaned :
    let run := exploreWithBoundedRecovery unsettled oneAttempt 1 1 ⟨.create 10 0 0, []⟩
    run.1.failure = some ⟨.port "TimeoutError" "frontier quiescence timed out", []⟩ ∧
      ¬ Stopped run.2.trace ∧ ¬ Halted run.2.trace := by
  decide +kernel

end UnknownWorldMissionExecutor

end EmbodiedAgent.Slam
