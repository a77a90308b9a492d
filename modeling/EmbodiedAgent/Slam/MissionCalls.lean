import EmbodiedAgent.Slam.MissionExecutor

namespace EmbodiedAgent.Slam

open Library Library.Program

def MissionEntry.between : MissionEntry → Bool
  | .port (.startExplorer _) _ | .port .stopExplorer _ | .port (.waitForFrontier ..) _
  | .port (.quiesceFrontier ..) _ | .epoch .. | .finalProbe _ | .observe .afterWait _ => false
  | _ => true

/-- The evidence loses no goal and no way by `f`. -/
structure Harmless (f : MappingEvidenceTracker → MappingEvidenceTracker) : Prop where
  terminals : ∀ evidence, evidence.snapshot.frontierTelemetry.terminalCount ≤
    (f evidence).snapshot.frontierTelemetry.terminalCount
  path : ∀ evidence, (f evidence).mappingPathM = evidence.mappingPathM

theorem harmless_id : Harmless id := ⟨fun _ ↦ le_rfl, fun _ ↦ rfl⟩

theorem harmless_finishMappingPath : Harmless (·.finishMappingPath) :=
  ⟨fun _ ↦ le_rfl, fun _ ↦ rfl⟩

theorem harmless_resumeMappingPath : Harmless (·.resumeMappingPath) :=
  ⟨fun _ ↦ le_rfl, fun _ ↦ rfl⟩

theorem harmless_setCompletionReason (reason : String) : Harmless (·.setCompletionReason reason) :=
  ⟨fun _ ↦ le_rfl, fun _ ↦ rfl⟩

theorem harmless_resetExploration (growthNow activityNow : Double) :
    Harmless (·.resetExploration true growthNow activityNow) := by
  refine ⟨fun evidence ↦ le_of_eq ?_, fun _ ↦ rfl⟩
  simp only [FrontierTelemetry.terminalCount, MappingEvidenceTracker.snapshot,
    MappingEvidenceTracker.resetExploration, if_true]
  omega

def MissionError.plain : MissionError → Bool
  | .saturation error => error = .mapQuietInvalid
  | .noFinalProbe => false
  | _ => true

/-- What happens between the epochs leaves the world as `R` says, and fails as `F` says. -/
structure Frame (env : MissionEnvironment) (R : MissionWorld → MissionWorld → Prop)
    [IsPreorder MissionWorld R] (F : MissionFailure → Prop) : Prop where
  entry : ∀ w (e : MissionEntry), e.between = true → R w ⟨w.evidence, w.trace ++ [e]⟩
  evidence : ∀ w f snapshot, Harmless f →
    R w ⟨f (env.record w.trace w.evidence), w.trace ++ [.evidence snapshot]⟩
  failure : ∀ failure : MissionFailure, failure.error.plain = true → F failure

namespace UnknownWorldMissionExecutor

theorem meets_ofTracker {α β : Type} {r : Except SaturationError α} {a : α} {f : α → Mission β}
    {w : MissionWorld} {P : β → MissionWorld → Prop} {E : MissionFailure → MissionWorld → Prop}
    {U : MissionWorld → Prop} (hr : r = .ok a) (h : Meets (f a) w P E U) :
    Meets (ofTracker r >>= f) w P E U := by
  subst hr
  exact h

variable {env : MissionEnvironment} {R : MissionWorld → MissionWorld → Prop}
  [IsPreorder MissionWorld R] {F : MissionFailure → Prop} (frame : Frame env R F)
  (spec : UnknownWorldMissionSpec)

include frame

theorem log_relates {e : MissionEntry} (he : e.between = true) : Relates R F (log e) fun _ ↦ True :=
  fun w ↦ meets_modify ⟨trivial, frame.entry w e he⟩

theorem fails_relates {α : Type} {V : α → Prop} {error : MissionError} (h : error.plain = true) :
    Relates R F (fails error) V :=
  relates_raise (frame.failure ⟨error, []⟩ h)

theorem port_relates {call : PortCall}
    (hcall : ∀ reply : Except PortError call.Reply, (MissionEntry.port call reply).between = true) :
    Relates R F (port env call) fun _ ↦ True := by
  refine fun w ↦ meets_invoke (fun reply _ ↦ ⟨trivial, ?_⟩) fun error _ ↦
    ⟨frame.failure _ rfl, ?_⟩
  · exact frame.entry w _ (hcall (.ok reply))
  · exact frame.entry w _ (hcall (.error error))

theorem monotonic_relates : Relates R F (monotonic env) fun _ ↦ True := fun _ ↦
  meets_get_bind ((log_relates frame rfl).bind (fun _ _ ↦ relates_pure trivial) _)

theorem canceled_relates : Relates R F (canceled env) fun _ ↦ True := fun _ ↦
  meets_get_bind ((log_relates frame rfl).bind (fun _ _ ↦ relates_pure trivial) _)

theorem updateEvidence_relates {f : MappingEvidenceTracker → MappingEvidenceTracker}
    (hf : Harmless f) : Relates R F (updateEvidence env f) fun _ ↦ True := fun w ↦
  meets_get_bind (meets_modify_bind (meets_pure ⟨trivial, frame.evidence w f _ hf⟩))

theorem snapshot_relates : Relates R F (snapshot env) fun _ ↦ True :=
  updateEvidence_relates frame harmless_id

theorem transition_relates (detail : String) : Relates R F (transition env detail) fun _ ↦ True :=
  port_relates frame fun _ ↦ rfl

theorem stopMotionAndWait_relates (request : RequestSource) :
    Relates R F (stopMotionAndWait env spec request) fun _ ↦ True :=
  port_relates frame fun _ ↦ rfl

theorem recoveryScan_relates : Relates R F (recoveryScan env spec) fun _ ↦ True :=
  port_relates frame fun _ ↦ rfl

theorem recoveryBackup_relates (outcome : String) (remaining : ℤ) :
    Relates R F (recoveryBackup env spec outcome remaining) fun _ ↦ True := by
  refine relates_ite (fun _ ↦ ?_) fun _ ↦ relates_pure trivial
  refine (port_relates frame fun _ ↦ rfl).bind fun displacement _ ↦ ?_
  refine (canceled_relates frame).bind fun canceled _ ↦ ?_
  exact relates_ite (fun _ ↦ fails_relates frame rfl) fun _ ↦ relates_pure trivial

theorem resumeExploration_relates : Relates R F (resumeExploration env) fun _ ↦ True := by
  refine (monotonic_relates frame).bind fun growthNow _ ↦ ?_
  refine (monotonic_relates frame).bind fun activityNow _ ↦ ?_
  refine Relates.bind (updateEvidence_relates frame (harmless_resetExploration _ _)) fun _ _ ↦ ?_
  refine Relates.bind (updateEvidence_relates frame harmless_resumeMappingPath) fun _ _ ↦ ?_
  exact relates_pure trivial

theorem waitForMapQuiet_relates (fuel : ℕ) (requiredQuietS : Option Double) :
    Relates R F (waitForMapQuiet env spec fuel requiredQuietS) fun _ ↦ True := by
  refine (monotonic_relates frame).bind fun now _ ↦ relates_iterate (fun _ ↦ ?_) fuel ()
  refine (canceled_relates frame).bind fun canceled _ ↦ relates_ite (fun _ ↦ ?_) fun _ ↦ ?_
  · exact fails_relates frame rfl
  · refine (snapshot_relates frame).bind fun snapshot _ ↦ ?_
    refine (monotonic_relates frame).bind fun now _ ↦ ?_
    refine relates_ite (fun _ ↦ relates_pure trivial) fun _ ↦ relates_ite (fun _ ↦ ?_) fun _ ↦ ?_
    · exact fails_relates frame rfl
    · exact relates_pure trivial

theorem finalizeSaturationAssessment_relates (tracker : SaturationEvidenceTracker)
    (telemetry : FrontierTelemetry) {remaining : ℤ}
    (hremaining : remaining < 0 → F ⟨.saturation .runtimeCountersNegative, []⟩)
    (trigger : SaturationTrigger) (settled : MappingEvidenceSnapshot) (terminalReason : String) :
    Relates R F (finalizeSaturationAssessment env spec tracker telemetry remaining trigger settled
      terminalReason) fun _ ↦ True := by
  refine (stopMotionAndWait_relates frame spec _).bind fun _ _ ↦ ?_
  refine (monotonic_relates frame).bind fun now _ ↦ ?_
  refine Relates.bind (V := fun _ ↦ True) ?_ fun evidence _ ↦ ?_
  · rw [SaturationRuntimeEvidence.validated]
    split_ifs with hnegative
    · exact relates_raise (hremaining hnegative)
    · exact relates_pure trivial
    · exact relates_raise (frame.failure _ rfl)
  · refine relates_ite (fun _ ↦ fails_relates frame rfl) fun _ ↦ ?_
    refine (updateEvidence_relates frame (harmless_setCompletionReason _)).bind fun _ _ ↦ ?_
    exact (transition_relates frame _).bind fun _ _ ↦ relates_pure trivial

theorem confirmationEnded_relates (outcome : String) :
    Relates R F (confirmationEnded env spec outcome) fun _ ↦ True := by
  refine (updateEvidence_relates frame harmless_finishMappingPath).bind fun _ _ ↦ ?_
  refine relates_ite (fun _ ↦ fails_relates frame rfl) fun _ ↦ ?_
  refine (stopMotionAndWait_relates frame spec _).bind fun _ _ ↦ ?_
  refine (canceled_relates frame).bind fun canceled _ ↦ relates_ite (fun _ ↦ ?_) fun _ ↦ ?_
  · exact fails_relates frame rfl
  · refine (snapshot_relates frame).bind fun snapshot _ ↦ ?_
    refine (updateEvidence_relates frame (harmless_setCompletionReason _)).bind fun _ _ ↦ ?_
    exact (transition_relates frame _).bind fun _ _ ↦ relates_pure trivial

end UnknownWorldMissionExecutor

end EmbodiedAgent.Slam
