import EmbodiedAgent.Slam.AuthorityOrder
import EmbodiedAgent.Slam.QuiescenceSteps
import EmbodiedAgent.Slam.SessionRequests

namespace EmbodiedAgent.Slam

open Library Library.Program Library.Interleaving SessionOrchestrator

structure SessionOrchestrator.Disturbed (n n' : SessionOrchestrator) : Prop where
  mapSaved : n'.fsm.mapSaved = n.fsm.mapSaved
  mapYamlPath : n'.fsm.mapYamlPath = n.fsm.mapYamlPath
  command : n'.activeRequest.map CommandRequest.command =
    n.activeRequest.map CommandRequest.command
  phase : n'.fsm.phase = n.fsm.phase ∨ n'.fsm.phase = .failed ∨ n'.fsm.phase = .quiescing

namespace SessionOrchestrator

variable (n : SessionOrchestrator)

theorem Disturbed.of_eq {n n' : SessionOrchestrator} (hfsm : n'.fsm = n.fsm)
    (hrequest : n'.activeRequest = n.activeRequest) : Disturbed n n' := by
  constructor
  · rw [hfsm]
  · rw [hfsm]
  · rw [hrequest]
  · exact .inl (by rw [hfsm])

theorem cancelActiveAutomaticMission_disturbed (identity : Option QuiescenceIdentity) :
    Disturbed n (n.cancelActiveAutomaticMission identity).1 := by
  unfold cancelActiveAutomaticMission
  cases hrequest : n.activeRequest with
  | none => exact .of_eq rfl rfl
  | some request =>
    dsimp only
    split_ifs
    · exact .of_eq rfl rfl
    · exact ⟨rfl, rfl, by rw [hrequest]; rfl, .inl rfl⟩

theorem perform_disturbed (task : AuthorityTask) : Disturbed n (perform n task).1 := by
  cases task with
  | report | clearReport | readMission c | startWorker c | testIdentity c | testActive c
  | testFailed c | failBarrier reason | failOutcome reason => exact .of_eq rfl rfl
  | publish c =>
    have hinside := publish_inside n c
    exact .of_eq (congrArg (·.fsm) hinside) (congrArg (·.activeRequest) hinside)
  | observeActive c =>
    simp only [perform]
    split <;> exact .of_eq rfl rfl
  | observe c =>
    simp only [perform]
    split <;> exact .of_eq rfl rfl
  | begin c =>
    simp only [perform]
    split <;> exact .of_eq rfl rfl
  | quiescing c => exact ⟨rfl, rfl, rfl, .inr (.inr rfl)⟩
  | cancel identity => exact n.cancelActiveAutomaticMission_disturbed identity
  | failTransition reason => exact ⟨rfl, rfl, rfl, .inr (.inl rfl)⟩
  | childFailure detail =>
    refine ⟨rfl, rfl, ?_, .inl rfl⟩
    simp only [perform, Option.map_map]
    rfl
  | childTransition detail => exact ⟨rfl, rfl, rfl, .inr (.inl rfl)⟩

end SessionOrchestrator

def SessionEntry.ofOthers (phase : SessionPhase) : SessionEntry → Prop
  | .failed _ _ | .quiesces => True
  | .seen phase' _ => phase' = phase
  | _ => False

namespace SessionWorld

variable {w : SessionWorld}

structure Disturbed (w w' : SessionWorld) : Prop where
  node : w.node.Disturbed w'.node
  stage : w'.stage = w.stage
  mapPath : w'.mapPath = w.mapPath
  pending : w'.navigationStartupFailurePending = w.navigationStartupFailurePending
  evidence : w'.returnToStartEvidence = w.returnToStartEvidence
  replaced : w'.stageReplaced = w.stageReplaced
  work : w'.work = w.work
  trace : ∃ more, w'.trace = w.trace ++ more ∧ ∀ e ∈ more, e.ofOthers w'.node.fsm.phase

theorem Disturbed.of_node {n : SessionOrchestrator} {callbacks : List (Callback Unit AuthorityTask)}
    (h : w.node.Disturbed n) : Disturbed w { w with node := n, callbacks := callbacks } where
  node := h
  stage := rfl
  mapPath := rfl
  pending := rfl
  evidence := rfl
  replaced := rfl
  work := rfl
  trace := ⟨[], (List.append_nil _).symm, fun _ h ↦ absurd h (List.not_mem_nil)⟩

theorem Disturbed.log {w' : SessionWorld} (h : Disturbed w w') {entry : SessionEntry}
    (hentry : entry.ofOthers w'.node.fsm.phase) : Disturbed w (w'.log entry) := by
  obtain ⟨more, htrace, hmore⟩ := h.trace
  refine { h with trace := ⟨more ++ [entry], ?_, ?_⟩ }
  · rw [← List.append_assoc, ← htrace]
    rfl
  · intro e he
    rcases List.mem_append.mp he with hold | hnew
    · exact hmore e hold
    · rw [List.mem_singleton.mp hnew]
      exact hentry

theorem advance_disturbed (i : ℕ) :
    w.node.Disturbed (advance perform w.node w.callbacks i).1 := by
  rcases advance_cases perform w.node w.callbacks i with ⟨hsame, -⟩ | ⟨task, -, hnode, -⟩
  · rw [hsame]
    exact .of_eq rfl rfl
  · rw [hnode]
    exact perform_disturbed w.node task

theorem runCallback_disturbed (i : ℕ) : Disturbed w (w.runCallback i) := by
  have hadvance := @Disturbed.of_node w _ (advance perform w.node w.callbacks i).2.1
    (@advance_disturbed w i)
  unfold runCallback
  split
  · exact hadvance.log trivial
  · exact hadvance.log trivial
  · exact hadvance

theorem other_disturbed (persistent : Bool) (e : OtherEvent) :
    Disturbed w (w.other persistent e) := by
  cases e with
  | message m =>
    refine .of_node ?_
    unfold receive
    split_ifs <;> exact .of_eq rfl rfl
  | run i => exact (runCallback_disturbed i).log rfl
  | leaseTimer now =>
    refine .of_node ?_
    unfold checkAuthorityLease
    split_ifs <;> exact .of_eq rfl rfl
  | childTimer owner code => exact .of_node (.of_eq rfl rfl)
  | barrier op => cases op <;> exact .of_node (.of_eq rfl rfl)
  | quiescenceFails error => exact .of_node (.of_eq rfl rfl)
  | cancelGoal =>
    refine .of_node ⟨rfl, rfl, ?_, .inl rfl⟩
    simp only [Option.map_map]
    rfl

end SessionWorld

namespace SessionWorker

variable {env : SessionEnvironment}

section Assertions

def Stable (env : SessionEnvironment) (P : SessionWorld → Prop) : Prop :=
  ∀ w e, P w → P (w.other env.persistentRuntimeEnabled e)

theorem stable_of_disturbed {P : SessionWorld → Prop}
    (h : ∀ w w', SessionWorld.Disturbed w w' → P w → P w') : Stable env P :=
  fun w e ↦ h w _ (SessionWorld.other_disturbed env.persistentRuntimeEnabled e)

variable {α : Type} {P : SessionWorld → Prop} {w : SessionWorld}
  {E : SessionException → SessionWorld → Prop} {U : SessionWorld → Prop}

theorem meets_interfere (hP : Stable env P) (h : P w) :
    Meets (interfere env) w (fun _ ↦ P) E U := by
  refine meets_modify ?_
  generalize env.others w.trace = events
  induction events generalizing w with
  | nil => exact h
  | cons e events ih => exact ih (hP w e h)

theorem meets_write {f : SessionWorld → SessionWorld} {Q : Unit → SessionWorld → Prop}
    (hP : Stable env P) (h : P w) (hQ : ∀ w', P w' → Q () (f w').seen) :
    Meets (write env f) w Q E U :=
  (meets_interfere hP h).bind fun _ w' h' ↦ meets_modify (hQ w' h')

theorem meets_look {f : SessionWorld → α} {Q : α → SessionWorld → Prop} (hP : Stable env P)
    (h : P w) (hQ : ∀ w', P w' → Q (f w') w') : Meets (look env f) w Q E U :=
  (meets_interfere hP h).bind fun _ w' h' ↦ meets_get_bind (meets_pure (hQ w' h'))

theorem meets_port {call : SessionCall} {Q : call.Reply → SessionWorld → Prop} (hP : Stable env P)
    (h : P w) (hok : ∀ w' reply, P w' → Q reply (w'.log (.port call (.ok reply))))
    (herror : ∀ w' error, P w' → E (call.raises error)
      (w'.log (.port call (.error (call.raises error))))) : Meets (port env call) w Q E U := by
  refine (meets_interfere hP h).bind fun _ w' h' ↦ meets_invoke ?_ ?_
  · intro reply _
    exact hok w' reply h'
  · intro error hanswer
    cases hreply : env.answer w'.trace call with
    | ok reply => rw [hreply] at hanswer; cases hanswer
    | error e =>
      rw [hreply] at hanswer
      cases hanswer
      exact herror w' e h'

end Assertions

section Frames

structure Aside (n n' : SessionOrchestrator) : Prop where
  fsm : n'.fsm = n.fsm
  missionOutcome : n'.missionOutcome = n.missionOutcome
  activeRequest : n'.activeRequest = n.activeRequest
  failed : n.autonomyQuiescence.state = .failed → n'.autonomyQuiescence.state = .failed

theorem openStageSwitch_aside {n : SessionOrchestrator} {now : Double}
    {opened : SessionOrchestrator × InternalStageSwitch} (h : n.openStageSwitch now = .ok opened) :
    Aside n opened.1 := by
  unfold openStageSwitch at h
  split at h
  · cases h
  · split_ifs at h
    cases h
    exact ⟨rfl, rfl, rfl, id⟩

theorem bindStageSwitch_aside {n n' : SessionOrchestrator} {intent : InternalStageSwitch}
    {identity : QuiescenceIdentity} (h : n.bindStageSwitch intent identity = .ok n') :
    Aside n n' := by
  unfold bindStageSwitch at h
  split at h
  · cases h
  · split_ifs at h
    cases h
    exact ⟨rfl, rfl, rfl, id⟩

/-- `R` relates the worlds before and after each thing that is done, with these calls and
transitions. -/
structure Frame (env : SessionEnvironment) (R : SessionWorld → SessionWorld → Prop)
    (calls : SessionCall → Prop)
    (transitions : SessionPhase → Option Bool → Option String → Prop) : Prop where
  other : ∀ w e, R w (w.other env.persistentRuntimeEnabled e)
  port : ∀ w call reply, calls call → R w (w.log (.port call reply))
  transition : ∀ w phase detail mapSaved mapYamlPath, transitions phase mapSaved mapYamlPath →
    R w ((w.withNode (w.node.transition phase detail mapSaved mapYamlPath)).log
      (.transition phase)).seen
  canceled : ∀ w point value, R w (w.log (.canceled point value))
  request : ∀ w f, (∀ request : CommandRequest, (f request).command = request.command) →
    R w (w.withNode { w.node with activeRequest := w.node.activeRequest.map f }).seen
  outcome : ∀ w outcome message, outcome ≠ .succeeded →
    R w (w.withNode { w.node with missionOutcome := outcome, missionMessage := message }).seen
  aside : ∀ w n, Aside w.node n → R w (w.withNode n)
  seen : ∀ w, R w w.seen
  evidence : ∀ w value, R w { w with returnToStartEvidence := value }.seen
  explored : ∀ w, R w (w.log .explored)
  returned : ∀ w, R w (w.log .returned)

def quiet : SessionCall → Bool
  | .waitPersistentStageExecutorReady | .waitForNewReady | .waitPersistentVelocityPipelineReady
  | .waitPersistentNavigationReady | .reapStage | .spawnStage .. | .stopStageProcess _
  | .saveMap _ => false
  | _ => true

def Preserves (P : SessionWorld → Prop) (w w' : SessionWorld) : Prop := P w → P w'

instance (P : SessionWorld → Prop) : IsPreorder SessionWorld (Preserves P) where
  refl _ := id
  trans _ _ _ h h' := h' ∘ h

/-- The programs that keep to `R` however they end. -/
abbrev Keeping {α : Type} (R : SessionWorld → SessionWorld → Prop) (m : Session α) : Prop :=
  Relates R (fun _ ↦ True) m fun _ ↦ True

variable {R : SessionWorld → SessionWorld → Prop} [IsPreorder SessionWorld R]
  {calls : SessionCall → Prop} {transitions : SessionPhase → Option Bool → Option String → Prop}
  (h : Frame env R calls transitions)

include h

theorem interfere_keeping : Keeping R (interfere env) := by
  intro w
  refine meets_modify ⟨trivial, ?_⟩
  generalize env.others w.trace = events
  induction events generalizing w with
  | nil => exact refl_of R w
  | cons e events ih => exact trans_of R (h.other w e) (ih _)

theorem write_keeping {f : SessionWorld → SessionWorld} (hf : ∀ w, R w (f w).seen) :
    Keeping R (write env f) :=
  (interfere_keeping h).bind fun _ _ w ↦ meets_modify ⟨trivial, hf w⟩

theorem look_keeping {α : Type} (f : SessionWorld → α) : Keeping R (look env f) :=
  (interfere_keeping h).bind fun _ _ w ↦ meets_get_bind (meets_pure ⟨trivial, refl_of R w⟩)

omit h [IsPreorder SessionWorld R] in
theorem log_keeping {entry : SessionEntry} (hentry : ∀ w, R w (w.log entry)) :
    Keeping R (modify (·.log entry)) := fun w ↦ meets_modify ⟨trivial, hentry w⟩

theorem port_keeping {call : SessionCall} (hcall : calls call) : Keeping R (port env call) := by
  refine (interfere_keeping h).bind fun _ _ w ↦ meets_invoke (fun reply _ ↦ ?_) fun error _ ↦ ?_
  · exact ⟨trivial, h.port w call _ hcall⟩
  · exact ⟨trivial, h.port w call _ hcall⟩

theorem transition_keeping {phase : SessionPhase} {detail : String} {mapSaved : Option Bool}
    {mapYamlPath : Option String} (hphase : transitions phase mapSaved mapYamlPath) :
    Keeping R (transition env phase detail mapSaved mapYamlPath) :=
  write_keeping h fun w ↦ h.transition w phase detail mapSaved mapYamlPath hphase

theorem canceled_keeping (point : CancelPoint) : Keeping R (canceled env point) :=
  (look_keeping h _).bind fun value _ ↦
    (log_keeping fun w ↦ h.canceled w point value).bind fun _ _ ↦ relates_pure trivial

theorem cancelIf_keeping (point : CancelPoint) (message : String) :
    Keeping R (cancelIf env point message) :=
  (canceled_keeping h point).bind fun _ _ ↦
    relates_ite (fun _ ↦ relates_raise trivial) fun _ ↦ relates_pure trivial

theorem setRequest_keeping {f : CommandRequest → CommandRequest}
    (hf : ∀ request, (f request).command = request.command) : Keeping R (setRequest env f) :=
  write_keeping h fun w ↦ h.request w f hf

theorem setMessage_keeping (message : String) : Keeping R (setMessage env message) :=
  setRequest_keeping h fun _ ↦ rfl

theorem setOutcome_keeping {outcome : MissionOutcome} (message : String)
    (houtcome : outcome ≠ .succeeded) : Keeping R (setOutcome env outcome message) :=
  write_keeping h fun w ↦ h.outcome w outcome message houtcome

theorem quiescenceFailed_keeping : Keeping R (quiescenceFailed env) := by
  refine (interfere_keeping h).bind fun _ _ w ↦ meets_get_bind (meets_modify_bind (meets_pure
    ⟨trivial, h.aside w _ ⟨rfl, rfl, rfl, ?_⟩⟩))
  intro hfailed
  rw [AutonomyQuiescenceBarrier.refreshReady, hfailed]
  exact hfailed

section Quiet

variable (hquiet : ∀ call, quiet call = true → calls call)

include hquiet

theorem feedback_keeping : Keeping R (feedback env) := port_keeping h (hquiet _ rfl)

theorem enterInternalStageSwitchHold_keeping : Keeping R (enterInternalStageSwitchHold env) := by
  refine (interfere_keeping h).bind fun _ _ w ↦ meets_get_bind ?_
  cases hopen : w.node.openStageSwitch (env.now w.trace) with
  | error message => exact meets_raise ⟨trivial, refl_of R w⟩
  | ok opened =>
    refine Relates.meets_modify_bind ?_ (h.aside w _ (openStageSwitch_aside hopen))
    refine (port_keeping h (hquiet _ rfl)).bind fun response _ ↦ ?_
    cases identityOf response.state with
    | error error => exact relates_raise trivial
    | ok identity =>
      refine relates_ite (fun _ ↦ relates_raise trivial) fun _ ↦ ?_
      refine (interfere_keeping h).bind fun _ _ w' ↦ meets_get_bind ?_
      cases hbind : w'.node.bindStageSwitch opened.2 identity with
      | error message => exact meets_raise ⟨trivial, refl_of R w'⟩
      | ok node =>
        refine Relates.meets_modify_bind ?_ (h.aside w' _ (bindStageSwitch_aside hbind))
        exact (port_keeping h (hquiet _ rfl)).bind fun _ _ ↦
          (cancelIf_keeping h _ _).bind fun _ _ ↦ relates_pure trivial

theorem resumeRound_keeping (identity : QuiescenceIdentity) (a : Unit) :
    Keeping R (resumeRound env identity a) := by
  refine (look_keeping h _).bind fun view _ ↦ ?_
  cases view with
  | ready holdSequence reason => exact relates_pure trivial
  | changed => exact relates_raise trivial
  | waiting => exact (port_keeping h (hquiet _ rfl)).bind fun _ _ ↦ relates_pure trivial

theorem resumedRound_keeping (identity : QuiescenceIdentity) (resumedSequence : ℤ) (a : Unit) :
    Keeping R (resumedRound env identity resumedSequence a) := by
  refine (look_keeping h _).bind fun view _ ↦ ?_
  cases view with
  | visible => exact relates_pure trivial
  | superseded => exact relates_raise trivial
  | waiting => exact (port_keeping h (hquiet _ rfl)).bind fun _ _ ↦ relates_pure trivial

theorem resumeInternalStageSwitch_keeping (fuel : ℕ) (identity : QuiescenceIdentity) :
    Keeping R (resumeInternalStageSwitch env fuel identity) := by
  refine (relates_iterate (resumeRound_keeping h hquiet identity) fuel ()).bind fun held _ ↦ ?_
  refine (port_keeping h (hquiet _ rfl)).bind fun response _ ↦ ?_
  exact relates_ite (fun _ ↦ relates_raise trivial) fun _ ↦
    relates_iterate (resumedRound_keeping h hquiet identity _) fuel ()

theorem checkReturnToStart_keeping : Keeping R (checkReturnToStart env) := by
  refine (look_keeping h _).bind fun _ _ ↦ relates_ite (fun _ ↦ ?_) fun _ ↦ relates_pure trivial
  refine (port_keeping h (hquiet _ rfl)).bind fun _ _ ↦ ?_
  refine (port_keeping h (hquiet .evaluateReturnToStart rfl)).bind fun (failed : List String) _ ↦ ?_
  exact relates_ite (fun _ ↦ relates_raise trivial) fun _ ↦ relates_pure trivial

theorem holdStage_keeping : Keeping R (holdStage env) := by
  refine (look_keeping h _).bind fun _ _ ↦ relates_ite (fun _ ↦ ?_) fun _ ↦ relates_pure trivial
  refine (enterInternalStageSwitchHold_keeping h hquiet).bind fun _ _ ↦ ?_
  exact (cancelIf_keeping h _ _).bind fun _ _ ↦ relates_pure trivial

theorem saveMap_keeping (hsave : ∀ path, calls (.saveMap path))
    (hsaving : transitions .savingMap none none)
    (hmapping : transitions .mapping (some false) (some ""))
    (hsaved : ∀ path, transitions .mapSaved (some true) (some path)) : Keeping R (saveMap env) := by
  refine (look_keeping h _).bind fun _ _ ↦ relates_ite (fun _ ↦ setMessage_keeping h _) fun _ ↦ ?_
  refine (transition_keeping h hsaving).bind fun _ _ ↦ (feedback_keeping h hquiet).bind fun _ _ ↦
    (look_keeping h _).bind fun yamlPath _ ↦ ?_
  refine (Relates.handle (port_keeping h (hsave yamlPath)) fun error _ ↦ ?_).bind fun _ _ ↦ ?_
  · exact (transition_keeping h hmapping).bind fun _ _ ↦ relates_raise trivial
  · exact (checkReturnToStart_keeping h hquiet).bind fun _ _ ↦
      (transition_keeping h (hsaved yamlPath)).bind fun _ _ ↦ feedback_keeping h hquiet

section Exploration

variable (hphase : transitions .automaticMapping none none)

include hphase

theorem exploreRound_keeping (a : Unit) : Keeping R (exploreRound env a) := by
  refine (port_keeping h (hquiet .explore rfl)).bind fun round _ ↦ ?_
  cases round with
  | transition detail =>
    exact (transition_keeping h hphase).bind fun _ _ ↦ relates_pure trivial
  | finished reason => exact relates_pure trivial

theorem bootstrapStep_keeping (title : String) (step : String × String × String) :
    Keeping R (bootstrapStep env title step) :=
  (cancelIf_keeping h _ _).bind fun _ _ ↦ (transition_keeping h hphase).bind fun _ _ ↦
    (port_keeping h (hquiet _ rfl)).bind fun _ _ ↦ feedback_keeping h hquiet

theorem bootstrap_keeping (size : ℕ) (route : List (String × String × String)) :
    Keeping R (bootstrap env size route) := by
  induction route with
  | nil => exact relates_pure trivial
  | cons step route ih =>
    exact (bootstrapStep_keeping h hquiet hphase _ step).bind fun _ _ ↦ ih

theorem returnToStart_keeping : Keeping R (returnToStart env) :=
  (transition_keeping h hphase).bind fun _ _ ↦
    (port_keeping h (hquiet _ rfl)).bind fun _ _ ↦
    (port_keeping h (hquiet _ rfl)).bind fun _ _ ↦
    (log_keeping h.returned).bind fun _ _ ↦ write_keeping h fun w ↦ h.evidence w true

theorem exploreWithBoundedRecovery_keeping (fuel : ℕ) :
    Keeping R (exploreWithBoundedRecovery env fuel) :=
  (relates_iterate (exploreRound_keeping h hquiet hphase) fuel ()).bind fun _ _ ↦
    (log_keeping h.explored).bind fun _ _ ↦ relates_pure trivial

end Exploration

theorem frontiers_keeping : Keeping R (Program.ensure
    (handle (port env .waitForFrontier) fun error ↦ do
      handle (port env .quiesceFrontier) fun _ ↦ pure ()
      raise error) (port env .endExplorer)) := by
  refine Relates.ensure (Relates.handle (port_keeping h (hquiet _ rfl)) fun error _ ↦ ?_)
    (port_keeping h (hquiet _ rfl))
  exact ((port_keeping h (hquiet _ rfl)).handle fun _ _ ↦ relates_pure trivial).bind
    fun _ _ ↦ relates_raise trivial

theorem exploreFrontiers_keeping : Keeping R (exploreFrontiers env) :=
  (port_keeping h (hquiet _ rfl)).bind fun _ _ ↦ (frontiers_keeping h hquiet).bind fun _ _ ↦
    log_keeping h.explored

theorem navigateGoals_keeping (count left : ℕ) : Keeping R (navigateGoals env count left) := by
  induction left with
  | zero => exact relates_pure trivial
  | succ left ih =>
    exact (cancelIf_keeping h _ _).bind fun _ _ ↦ (port_keeping h (hquiet _ rfl)).bind fun _ _ ↦
      (feedback_keeping h hquiet).bind fun _ _ ↦ ih

section Mapping

variable (hautomatic : transitions .automaticMapping none none)
  (hmapping : transitions .mapping none none)

include hautomatic hmapping

theorem mapSceneRoute_keeping (route : List (String × String × String)) :
    Keeping R (mapSceneRoute env route) := by
  refine (transition_keeping h hautomatic).bind fun _ _ ↦ (feedback_keeping h hquiet).bind fun _ _ ↦
    (port_keeping h (hquiet _ rfl)).bind fun _ _ ↦
    (bootstrap_keeping h hquiet hautomatic _ route).bind fun _ _ ↦ ?_
  exact (transition_keeping h hautomatic).bind fun _ _ ↦
    (exploreFrontiers_keeping h hquiet).bind fun _ _ ↦
    (transition_keeping h hmapping).bind fun _ _ ↦ feedback_keeping h hquiet

theorem mapUnknownWorld_keeping (fuel : ℕ) (initialScanText : String) :
    Keeping R (mapUnknownWorld env fuel initialScanText) := by
  refine (transition_keeping h hautomatic).bind fun _ _ ↦ (feedback_keeping h hquiet).bind fun _ _ ↦
    (port_keeping h (hquiet _ rfl)).bind fun _ _ ↦ (port_keeping h (hquiet _ rfl)).bind fun _ _ ↦
    (port_keeping h (hquiet _ rfl)).bind fun _ _ ↦ ?_
  exact (exploreWithBoundedRecovery_keeping h hquiet hautomatic fuel).bind fun _ _ ↦
    (transition_keeping h hmapping).bind fun _ _ ↦ (feedback_keeping h hquiet).bind fun _ _ ↦
    returnToStart_keeping h hquiet hautomatic

end Mapping

section Navigating

variable (hnavigating : transitions .automaticNavigating none none)
  (hcompleted : transitions .missionCompleted none none)

include hnavigating hcompleted

theorem patrolScene_keeping (navigateText patrolText : String) :
    Keeping R (patrolScene env navigateText patrolText) :=
  (transition_keeping h hnavigating).bind fun _ _ ↦ (feedback_keeping h hquiet).bind fun _ _ ↦
    (port_keeping h (hquiet _ rfl)).bind fun _ _ ↦ (feedback_keeping h hquiet).bind fun _ _ ↦
    (port_keeping h (hquiet _ rfl)).bind fun _ _ ↦
    (transition_keeping h hcompleted).bind fun _ _ ↦ feedback_keeping h hquiet

theorem visitGoals_keeping (goalCount : ℕ) : Keeping R (visitGoals env goalCount) := by
  refine (port_keeping h (hquiet .selectMappedNavigationGoals rfl)).bind fun (goals : ℕ) _ ↦
    relates_ite (fun _ ↦ relates_raise trivial) fun _ ↦ ?_
  exact (transition_keeping h hnavigating).bind fun _ _ ↦
    (navigateGoals_keeping h hquiet goals goals).bind fun _ _ ↦
    (transition_keeping h hcompleted).bind fun _ _ ↦ feedback_keeping h hquiet

end Navigating

variable (hwork : ∀ w work, R w (w.withWork work))
  (hfailed : ∀ w reason, R w ((w.withNode (w.node.transition .failed reason)).log
    (.failed w.work w.node.missionOutcome)).seen)
  (hquiescing : transitions .quiescing none none)

include hfailed in
omit hquiet in
theorem failQuiescence_keeping (error : String) : Keeping R (failQuiescence env error) := by
  refine (write_keeping h fun w ↦ trans_of R
    (h.aside w (w.node.withBarrier (w.node.autonomyQuiescence.fail _).1)
      ⟨rfl, rfl, rfl, fun hstate ↦ ?_⟩) (h.seen _)).bind fun _ _ ↦
    (setOutcome_keeping h _ (by decide)).bind fun _ _ ↦ write_keeping h fun w ↦ hfailed w _
  exact AutonomyQuiescenceBarrier.step_failed (.fail _) hstate

include hwork hfailed hquiescing

theorem settleRevocation_keeping (revocation : ℤ × ℤ) :
    Keeping R (settleRevocation env revocation) := by
  unfold settleRevocation
  cases QuiescenceIdentity.create revocation.1 revocation.2 with
  | error error => exact relates_raise trivial
  | ok identity =>
    refine (transition_keeping h hquiescing).bind fun _ _ ↦
      Relates.bind (V := fun _ ↦ True) (fun w ↦ meets_modify ⟨trivial, hwork w _⟩) fun _ _ ↦
      (port_keeping h (hquiet _ rfl)).handle fun error _ ↦ ?_
    exact (quiescenceFailed_keeping h).bind fun _ _ ↦
      relates_ite (fun _ ↦ relates_pure trivial) fun _ ↦ failQuiescence_keeping h hfailed _

theorem settleRequest_keeping (command : SessionCommand) :
    Keeping R (settleRequest env command) := by
  have hsettling : ∀ work, Keeping R (modify (·.withWork work)) := fun work w ↦
    meets_modify ⟨trivial, hwork w work⟩
  refine (look_keeping h _).bind fun revocation _ ↦ ?_
  extract_lets settled
  have hsettled : Keeping R (settled ()) := (quiescenceFailed_keeping h).bind fun _ _ ↦
    (hsettling _).bind fun _ _ ↦ relates_pure trivial
  refine relates_join hsettled fun _ hk ↦ ?_
  cases revocation with
  | some revocation =>
    exact (settleRevocation_keeping h hquiet hwork hfailed hquiescing revocation).bind
      fun _ _ ↦ hk
  | none => exact (hsettling _).bind fun _ _ ↦ hk

end Quiet

theorem mapYamlPath_keeping : Keeping R (mapYamlPath env) :=
  relates_ite (fun _ ↦ (look_keeping h _).bind fun _ _ ↦
    relates_ite (fun _ ↦ relates_raise trivial) fun _ ↦ relates_pure trivial)
    fun _ ↦ relates_pure trivial

variable (hphase : transitions .failed none none)

include hphase

theorem failSession_keeping (command : SessionCommand) (detail : String) :
    Keeping R (failSession env command detail) := by
  unfold failSession
  extract_lets told
  have htold : Keeping R (told ()) := (look_keeping h _).bind fun _ _ ↦
    relates_ite (fun _ ↦ transition_keeping h hphase) fun _ ↦ relates_pure trivial
  exact relates_join htold fun _ hk ↦ (setOutcome_keeping h _ (by decide)).bind fun _ _ ↦ hk

theorem missionQuiescenceFailed_keeping :
    Keeping R (missionQuiescenceFailed env) := by
  refine (look_keeping h _).bind fun reason _ ↦ ?_
  extract_lets told
  have htold : Keeping R (told ()) := (look_keeping h _).bind fun _ _ ↦
    (setOutcome_keeping h _ (by decide)).bind fun _ _ ↦ transition_keeping h hphase
  exact relates_join htold fun _ hk ↦ (setMessage_keeping h _).bind fun _ _ ↦ hk

end Frames

section Whole

structure Elsewhere (w w' : SessionWorld) : Prop where
  node : w'.node = w.node
  callbacks : w'.callbacks = w.callbacks
  work : w'.work = w.work
  trace : w'.trace = w.trace

structure Whole (env : SessionEnvironment) (R : SessionWorld → SessionWorld → Prop)
    (transitions : SessionPhase → Option Bool → Option String → Prop) : Prop extends
    Frame env R (fun _ ↦ True) transitions where
  phases : ∀ phase mapSaved mapYamlPath, phase ≠ .missionCompleted →
    transitions phase mapSaved mapYamlPath
  elsewhere : ∀ w w', Elsewhere w w' → R w w'
  recovers : ∀ w stage, R w (w.log (.recovers stage))
  stopFailed : ∀ w command stage, R w (w.log (.stopFailed command stage))

variable {R : SessionWorld → SessionWorld → Prop} [IsPreorder SessionWorld R]
  {transitions : SessionPhase → Option Bool → Option String → Prop}
  (h : Whole env R transitions)

include h

theorem call_keeping (call : SessionCall) : Keeping R (port env call) :=
  port_keeping h.toFrame trivial

theorem phase_keeping {phase : SessionPhase} {detail : String} {mapSaved : Option Bool}
    {mapYamlPath : Option String} (hphase : phase ≠ .missionCompleted) :
    Keeping R (transition env phase detail mapSaved mapYamlPath) :=
  transition_keeping h.toFrame (h.phases _ _ _ hphase)

theorem elsewhere_keeping {f : SessionWorld → SessionWorld} (hf : ∀ w, Elsewhere w (f w)) :
    Keeping R (write env f) :=
  write_keeping h.toFrame fun w ↦ trans_of R (h.elsewhere w _ (hf w)) (h.seen _)

theorem withStage_keeping (stage : String) : Keeping R (write env (·.withStage stage)) :=
  elsewhere_keeping h fun _ ↦ ⟨rfl, rfl, rfl, rfl⟩

theorem setPending_keeping (value : Bool) : Keeping R (setPending env value) :=
  elsewhere_keeping h fun _ ↦ ⟨rfl, rfl, rfl, rfl⟩

theorem startStage_keeping (stage : String) : Keeping R (startStage env stage) := by
  refine (call_keeping h (.openStage stage)).bind fun (exited : Bool) _ ↦ ?_
  extract_lets started
  refine relates_join ?_ fun _ hk ↦ ?_
  · exact (look_keeping h.toFrame _).bind fun _ _ ↦ (call_keeping h _).bind fun _ _ ↦
      withStage_keeping h stage
  · exact (call_keeping h _).bind fun _ _ ↦ (withStage_keeping h "").bind fun _ _ ↦ hk

theorem stopStage_keeping (cause : StopCause) : Keeping R (stopStage env cause) :=
  (call_keeping h _).bind fun _ _ ↦ (withStage_keeping h "").bind fun _ _ ↦ call_keeping h _

theorem shutdown_keeping : Keeping R (shutdown env) :=
  (call_keeping h _).bind fun _ _ ↦ (stopStage_keeping h _).bind fun _ _ ↦ call_keeping h _

theorem prepareNavigation_keeping (path : String) : Keeping R (prepareNavigation env path) :=
  (call_keeping h _).bind fun _ _ ↦ elsewhere_keeping h fun _ ↦ ⟨rfl, rfl, rfl, rfl⟩

theorem startMapping_keeping : Keeping R (startMapping env) := by
  refine (phase_keeping h (by decide)).bind fun _ _ ↦ ?_
  extract_lets ready started
  have hready : Keeping R (ready ()) := phase_keeping h (by decide)
  have hstarted : Keeping R (started ()) := by
    refine (call_keeping h _).bind fun _ _ ↦ ?_
    exact relates_join hready fun _ hk ↦ (call_keeping h _).bind fun _ _ ↦ hk
  refine relates_ite (fun _ ↦ ?_) fun _ ↦ (startStage_keeping h _).bind fun _ _ ↦ hstarted
  exact (call_keeping h _).bind fun _ _ ↦ (call_keeping h _).bind fun _ _ ↦
    (call_keeping h _).bind fun _ _ ↦ (startStage_keeping h _).bind fun _ _ ↦
    (call_keeping h _).bind fun _ _ ↦ hstarted

theorem cleanupFailedNavigationStartup_keeping : Keeping R (cleanupFailedNavigationStartup env) :=
  (setPending_keeping h true).bind fun _ _ ↦
    (stopStage_keeping h .cleanup).handle fun _ _ ↦ relates_pure trivial

theorem replaceStage_keeping (mapYamlPath : String) : Keeping R (replaceStage env mapYamlPath) := by
  unfold replaceStage
  extract_lets started prepared
  have hstarted : Keeping R (started ()) :=
    (call_keeping h _).bind fun _ _ ↦ (cancelIf_keeping h.toFrame _ _).bind fun _ _ ↦
      relates_ite (fun _ ↦ call_keeping h _) fun _ ↦ relates_pure trivial
  have hprepared : Keeping R (prepared ()) := by
    refine (phase_keeping h (by decide)).bind fun _ _ ↦ (call_keeping h _).bind fun _ _ ↦
      (startStage_keeping h _).bind fun _ _ ↦ ?_
    exact relates_join hstarted fun _ hk ↦ (call_keeping h _).bind fun _ _ ↦ hk
  refine (elsewhere_keeping h
    (f := fun w ↦ { w with stageReplaced := env.persistentRuntimeEnabled })
    fun _ ↦ ⟨rfl, rfl, rfl, rfl⟩).bind fun _ _ ↦
    (stopStage_keeping h _).bind fun _ _ ↦ (cancelIf_keeping h.toFrame _ _).bind fun _ _ ↦ ?_
  exact relates_join hprepared fun _ hk ↦ (prepareNavigation_keeping h _).bind fun _ _ ↦ hk

theorem switchStage_keeping (fuel : ℕ) (mapYamlPath : String) :
    Keeping R (switchStage env fuel mapYamlPath) := by
  refine (holdStage_keeping h.toFrame fun _ _ ↦ trivial).bind fun switchIdentity _ ↦
    (replaceStage_keeping h mapYamlPath).bind fun _ _ ↦ ?_
  cases switchIdentity with
  | none => exact relates_pure trivial
  | some identity =>
    exact (cancelIf_keeping h.toFrame _ _).bind fun _ _ ↦
      resumeInternalStageSwitch_keeping h.toFrame (fun _ _ ↦ trivial) fuel identity

theorem interruptSwitch_keeping :
    Relates R (fun _ ↦ True) (interruptSwitch env) fun _ ↦ False := by
  refine Relates.bind (V := fun _ ↦ True) ?_ fun _ _ ↦ (setPending_keeping h true).bind fun _ _ ↦
    relates_raise trivial
  refine (stopStage_keeping h .interrupted).handle fun error _ w ↦ meets_get_bind ?_
  exact meets_modify_bind (meets_raise ⟨trivial, h.stopFailed w _ _⟩)

theorem cleanupSwitch_keeping (replaced : Bool) (error : SessionException) :
    Relates R (fun _ ↦ True) (cleanupSwitch env replaced error) fun _ ↦ False := by
  unfold cleanupSwitch
  extract_lets raised cleaned
  have hraised : Relates R (fun _ ↦ True) (raised ()) fun _ ↦ False := relates_raise trivial
  have hcleaned : Relates R (fun _ ↦ True) (cleaned ()) fun _ ↦ False :=
    relates_join hraised fun _ hk ↦ (cleanupFailedNavigationStartup_keeping h).bind fun _ _ ↦ hk
  refine (look_keeping h.toFrame _).bind fun _ _ ↦ relates_join hcleaned fun _ hk ↦ ?_
  exact (quiescenceFailed_keeping h.toFrame).bind fun _ _ ↦ relates_join hk fun _ hk ↦
    (setPending_keeping h true).bind fun _ _ ↦ hk

theorem switchFailed_keeping (error : SessionException) :
    Relates R (fun _ ↦ True) (switchFailed env error) fun _ ↦ False := by
  refine (look_keeping h.toFrame _).bind fun replaced _ ↦ ?_
  cases error with
  | automaticMissionCancelled message =>
    exact relates_ite (fun _ ↦ interruptSwitch_keeping h) fun _ ↦ relates_raise trivial
  | persistentStageSwitchInterrupted message => exact cleanupSwitch_keeping h replaced _
  | raised message => exact cleanupSwitch_keeping h replaced _

theorem clearStageSwitch_keeping : Keeping R (do
    if ← look env (authorityTransaction env) then
      write env fun w ↦ w.withNode w.node.clearStageSwitch : Session Unit) :=
  (look_keeping h.toFrame _).bind fun _ _ ↦ relates_ite
    (fun _ ↦ write_keeping h.toFrame fun w ↦
      trans_of R (h.aside w w.node.clearStageSwitch ⟨rfl, rfl, rfl, id⟩) (h.seen _)) fun _ ↦
        relates_pure trivial

theorem startNavigation_keeping (fuel : ℕ) : Keeping R (startNavigation env fuel) := by
  refine (look_keeping h.toFrame _).bind fun _ _ ↦
    relates_ite (fun _ ↦ setMessage_keeping h.toFrame _) fun _ ↦ ?_
  refine (phase_keeping h (by decide)).bind fun _ _ ↦ (call_keeping h _).bind fun _ _ ↦
    (mapYamlPath_keeping h.toFrame).bind fun path _ ↦ ?_
  refine (elsewhere_keeping h (f := fun w ↦ { w with stageReplaced := false })
    fun _ ↦ ⟨rfl, rfl, rfl, rfl⟩).bind fun _ _ ↦ ?_
  refine (Relates.ensure ((switchStage_keeping h fuel path).handle fun error _ ↦
    (switchFailed_keeping h error).imp fun _ _ ↦ trivial) (clearStageSwitch_keeping h)).bind
      fun _ _ ↦ ?_
  exact (phase_keeping h (by decide)).bind fun _ _ ↦ call_keeping h _

theorem waitNavigationReady_keeping : Keeping R (waitNavigationReady env) := by
  refine (call_keeping h _).handle fun error _ ↦ ?_
  have hcleanup : ∀ error : SessionException, Keeping R
      (cleanupFailedNavigationStartup env >>= fun _ ↦ raise error : Session Unit) := fun _ ↦
    (cleanupFailedNavigationStartup_keeping h).bind fun _ _ ↦ relates_raise trivial
  cases error with
  | automaticMissionCancelled message => exact relates_raise trivial
  | persistentStageSwitchInterrupted message => exact hcleanup _
  | raised message => exact hcleanup _

section Missions

variable (fuel : ℕ)

theorem saveWhole_keeping : Keeping R (saveMap env) :=
  saveMap_keeping h.toFrame (fun _ _ ↦ trivial) (fun _ ↦ trivial) (h.phases _ _ _ (by decide))
    (h.phases _ _ _ (by decide)) fun _ ↦ h.phases _ _ _ (by decide)

theorem navigateSavedMap_keeping : Keeping R (navigateSavedMap env fuel) :=
  (saveWhole_keeping h).bind fun _ _ ↦ (cancelIf_keeping h.toFrame _ _).bind fun _ _ ↦
    (startNavigation_keeping h fuel).bind fun _ _ ↦ waitNavigationReady_keeping h

variable (hcompleted : transitions .missionCompleted none none)

include hcompleted

theorem runMission_keeping : Keeping R (runMission env fuel) := by
  unfold runMission
  cases env.profile with
  | sceneRoute route navigateText patrolText => 
    exact (mapSceneRoute_keeping h.toFrame (fun _ _ ↦ trivial) (h.phases _ _ _ (by decide))
      (h.phases _ _ _ (by decide)) route).bind fun _ _ ↦
      (navigateSavedMap_keeping h fuel).bind fun _ _ ↦ patrolScene_keeping h.toFrame
        (fun _ _ ↦ trivial) (h.phases _ _ _ (by decide)) hcompleted navigateText patrolText
  | unknownWorld initialScanText goalCount => 
    exact (mapUnknownWorld_keeping h.toFrame (fun _ _ ↦ trivial) (h.phases _ _ _ (by decide))
      (h.phases _ _ _ (by decide)) fuel initialScanText).bind fun _ _ ↦
      (navigateSavedMap_keeping h fuel).bind fun _ _ ↦ visitGoals_keeping h.toFrame
        (fun _ _ ↦ trivial) (h.phases _ _ _ (by decide)) hcompleted goalCount

end Missions

theorem stopSession_keeping : Keeping R (stopSession env) := by
  unfold stopSession
  extract_lets stopped
  have hstopped : Keeping R (stopped ()) := phase_keeping h (by decide)
  exact (phase_keeping h (by decide)).bind fun _ _ ↦
    relates_ite (fun _ ↦ (shutdown_keeping h).bind fun _ _ ↦ hstopped)
      fun _ ↦ (stopStage_keeping h _).bind fun _ _ ↦ hstopped

theorem runSteps_keeping (fuel : ℕ) (command : SessionCommand) :
    Keeping R (runSteps env fuel command) := by
  unfold runSteps
  extract_lets completed stopped saved
  have hcompleted : Keeping R (completed ()) := setRequest_keeping h.toFrame fun _ ↦ rfl
  have hstopped : Keeping R (stopped ()) :=
    relates_join hcompleted fun _ hk ↦ (stopSession_keeping h).bind fun _ _ ↦ hk
  have hsaved : Keeping R (saved ()) := by
    refine (canceled_keeping h.toFrame _).bind fun _ _ ↦
      relates_ite (fun _ ↦ setMessage_keeping h.toFrame _) fun _ ↦ ?_
    exact relates_join hstopped fun _ hk ↦ (startNavigation_keeping h fuel).bind fun _ _ ↦ hk
  exact relates_join hsaved fun _ hk ↦ (saveWhole_keeping h).bind fun _ _ ↦ hk

theorem runCommand_keeping (fuel : ℕ) (command : SessionCommand)
    (hcompleted : command = .runAutomaticMission → transitions .missionCompleted none none) :
    Keeping R (runCommand env fuel command) := by
  unfold runCommand
  extract_lets mapped
  refine relates_join (runSteps_keeping h fuel command) fun hrun hk ↦ ?_
  exact (setOutcome_keeping h.toFrame _ (by decide)).bind fun _ _ ↦
    (write_keeping h.toFrame fun w ↦ h.evidence w false).bind fun _ _ ↦
    (runMission_keeping h fuel (hcompleted hrun)).bind fun _ _ ↦ hk

theorem recover_keeping (message : String) : Keeping R (recover env message) := by
  refine (look_keeping h.toFrame _).bind fun stage _ ↦
    (log_keeping fun w ↦ h.recovers w stage).bind fun _ _ ↦ phase_keeping h ?_
  unfold recoveryPhase
  split_ifs <;> decide

theorem failedRequest_keeping (command : SessionCommand) (message : String) :
    Keeping R (failedRequest env command message) := by
  refine (setMessage_keeping h.toFrame _).bind fun _ _ ↦ relates_ite (fun _ ↦ ?_) fun _ ↦ ?_
  · refine (setOutcome_keeping h.toFrame _ (by decide)).bind fun _ _ ↦
      (look_keeping h.toFrame _).bind fun _ _ ↦ ?_
    exact relates_ite (fun _ ↦ phase_keeping h (by decide)) fun _ ↦ recover_keeping h _
  · exact (look_keeping h.toFrame _).bind fun _ _ ↦
      relates_ite (fun _ ↦ phase_keeping h (by decide)) fun _ ↦ relates_pure trivial

theorem failMappingStartup_keeping (error : SessionException) :
    Keeping R (failMappingStartup env error) := by
  refine (write_keeping h.toFrame fun w ↦ trans_of R
    (h.aside w { w.node with stopping := true } ⟨rfl, rfl, rfl, id⟩) (h.seen _)).bind fun _ _ ↦
    (setOutcome_keeping h.toFrame _ (by decide)).bind fun _ _ ↦
    (phase_keeping h (by decide)).bind fun _ _ ↦ ?_
  exact (relates_ite (fun _ ↦ shutdown_keeping h) fun _ ↦
    stopStage_keeping h _).handle fun _ _ ↦ relates_pure trivial

end Whole

structure Every (env : SessionEnvironment) (R : SessionWorld → SessionWorld → Prop)
    (transitions : SessionPhase → Option Bool → Option String → Prop) : Prop extends
    Whole env R transitions where
  work : ∀ w work, R w (w.withWork work)
  failed : ∀ w reason, R w ((w.withNode (w.node.transition .failed reason)).log
    (.failed w.work w.node.missionOutcome)).seen
  released : ∀ w, R w (w.withNode { w.node with activeRequest := none })
  ended : ∀ w, R w (w.log .ended)

variable {R : SessionWorld → SessionWorld → Prop} [IsPreorder SessionWorld R]
  {transitions : SessionPhase → Option Bool → Option String → Prop}
  (h : Every env R transitions)

include h

theorem canceledRequest_keeping (command : SessionCommand) (message : String) :
    Keeping R (canceledRequest env command message) := by
  unfold canceledRequest
  extract_lets recovered
  have hrecovered : Keeping R (recovered ()) := recover_keeping h.toWhole message
  refine (setMessage_keeping h.toFrame _).bind fun _ _ ↦
    (look_keeping h.toFrame _).bind fun runtimeFailure _ ↦ relates_ite (fun _ ↦ ?_) fun _ ↦ ?_
  · exact (setMessage_keeping h.toFrame _).bind fun _ _ ↦ failSession_keeping h.toFrame
      (h.phases _ _ _ (by decide)) _ _
  refine (settleRequest_keeping h.toFrame (fun _ _ ↦ trivial) h.work h.failed
    (h.phases _ _ _ (by decide)) command).bind fun failed _ ↦ relates_ite (fun _ ↦ ?_) fun _ ↦ ?_
  · exact missionQuiescenceFailed_keeping h.toFrame (h.phases _ _ _ (by decide))
  · exact relates_join hrecovered fun _ hk ↦
      (setOutcome_keeping h.toFrame _ (by decide)).bind fun _ _ ↦ hk

theorem requestRaised_keeping (command : SessionCommand) (error : SessionException) :
    Keeping R (requestRaised env command error) := by
  cases error with
  | automaticMissionCancelled message => exact canceledRequest_keeping h command message
  | persistentStageSwitchInterrupted message => exact failedRequest_keeping h.toWhole command _
  | raised message => exact failedRequest_keeping h.toWhole command _

theorem endRequest_keeping : Keeping R (endRequest env) :=
  Relates.bind (V := fun _ ↦ True) (fun w ↦ meets_modify ⟨trivial, h.work w .idle⟩) fun _ _ ↦
    (setPending_keeping h.toWhole false).bind fun _ _ ↦
    (write_keeping h.toFrame fun w ↦ trans_of R (h.released w) (h.seen _)).bind fun _ _ ↦
    write_keeping h.toFrame fun w ↦ trans_of R (trans_of R
      (h.aside w { w.node with operationActive := false } ⟨rfl, rfl, rfl, id⟩) (h.ended _))
        (h.seen _)

end SessionWorker

open Library.History in
structure Ledger (κ : Type) where
  start : κ
  step : κ → SessionEntry → κ
  Honest : κ → SessionEntry → Prop

namespace Ledger

open Library.History SessionWorker

variable {κ : Type} (L : Ledger κ)

def next (a : κ) (e : SessionEntry) : κ × Unit := (L.step a e, ())

def account (trace : List SessionEntry) : κ := run L.next L.start trace

/-- All entries so far were honest, and now `C` holds. -/
structure Holds (C : κ → SessionWorld → Prop) (w : SessionWorld) : Prop where
  told : Along L.next L.Honest L.start w.trace
  content : C (L.account w.trace) w

variable {L} {C D : κ → SessionWorld → Prop} {w v : SessionWorld}

theorem Holds.imp (h : L.Holds C w) (hC : ∀ a, C a w → D a w) : L.Holds D w :=
  ⟨h.told, hC _ h.content⟩

theorem Holds.write (h : L.Holds C w) (htrace : v.trace = w.trace) (hC : ∀ a, C a w → D a v) :
    L.Holds D v := by
  refine ⟨?_, ?_⟩
  · rw [htrace]
    exact h.told
  · rw [htrace]
    exact hC _ h.content

theorem account_log (w : SessionWorld) (e : SessionEntry) :
    L.account (w.log e).trace = L.step (L.account w.trace) e :=
  run_snoc L.next L.start w.trace e

theorem Holds.log (h : L.Holds C w) {e : SessionEntry} (hhonest : ∀ a, C a w → L.Honest a e)
    (hC : ∀ a, C a w → D (L.step a e) (w.log e)) : L.Holds D (w.log e) := by
  refine ⟨(along_snoc L.next).mpr ⟨h.told, hhonest _ h.content⟩, ?_⟩
  rw [account_log]
  exact hC _ h.content

theorem Holds.others {more : List SessionEntry} (h : L.Holds C w)
    (htrace : v.trace = w.trace ++ more) (hC : ∀ a, C a w → D a v)
    (hmore : ∀ a, C a w → ∀ e ∈ more, L.step a e = a ∧ L.Honest a e) : L.Holds D v := by
  have hrun : ∀ (a : κ) (more : List SessionEntry),
      (∀ e ∈ more, L.step a e = a ∧ L.Honest a e) →
      run L.next a more = a ∧ Along L.next L.Honest a more := by
    intro a more hmore
    induction more with
    | nil => exact ⟨rfl, trivial⟩
    | cons e more ih =>
      obtain ⟨⟨hstep, hhonest⟩, hmore⟩ := List.forall_mem_cons.mp hmore
      have hnext : (L.next a e).1 = a := hstep
      obtain ⟨hrun, halong⟩ := ih hmore
      refine ⟨by rw [run_cons, hnext, hrun], hhonest, ?_⟩
      rw [hnext]
      exact halong
  obtain ⟨hsame, halong⟩ := hrun _ more (hmore _ h.content)
  have haccount : L.account v.trace = L.account w.trace := by
    rw [htrace, account, run_append]
    exact hsame
  refine ⟨?_, ?_⟩
  · rw [htrace]
    exact (along_append L.next).mpr ⟨h.told, halong⟩
  · rw [haccount]
    exact hC _ h.content

variable (L) in
def Runs {α : Type} (m : Session α) (C : κ → SessionWorld → Prop)
    (Q : α → κ → SessionWorld → Prop) (E : SessionException → κ → SessionWorld → Prop) : Prop :=
  ∀ w, L.Holds C w → Meets m w (fun x ↦ L.Holds (Q x)) (fun e ↦ L.Holds (E e))
    (L.Holds fun _ _ ↦ True)

variable {α β : Type} {env : SessionEnvironment} {m : Session α} {f : α → Session β}
  {Q R : α → κ → SessionWorld → Prop} {P : β → κ → SessionWorld → Prop}
  {E F : SessionException → κ → SessionWorld → Prop} {a : α} {error : SessionException}

theorem runs_pure (h : ∀ b w, C b w → Q a b w) : L.Runs (pure a) C Q E := fun _ hw ↦
  meets_pure (hw.imp fun b ↦ h b _)

theorem runs_raise (h : ∀ b w, C b w → E error b w) : L.Runs (raise error) C Q E := fun _ hw ↦
  meets_raise (hw.imp fun b ↦ h b _)

theorem Runs.bind (h : L.Runs m C R E) (hf : ∀ a, L.Runs (f a) (R a) P E) :
    L.Runs (m >>= f) C P E := fun w hw ↦ (h w hw).bind fun a w' h' ↦ hf a w' h'

theorem Runs.of_imp (h : L.Runs m D Q E) (hC : ∀ b w, C b w → D b w) : L.Runs m C Q E :=
  fun w hw ↦ h w (hw.imp fun b ↦ hC b w)

theorem Runs.imp (h : L.Runs m C R F) (hQ : ∀ a b w, R a b w → Q a b w)
    (hE : ∀ e b w, F e b w → E e b w) : L.Runs m C Q E := fun w hw ↦
  (h w hw).mono (fun a w' h' ↦ h'.imp fun b ↦ hQ a b w') (fun e w' h' ↦ h'.imp fun b ↦ hE e b w')
    fun _ ↦ id

theorem Runs.handle {handler : SessionException → Session α} (h : L.Runs m C Q F)
    (hf : ∀ e, L.Runs (handler e) (F e) Q E) : L.Runs (Program.handle m handler) C Q E :=
  fun w hw ↦ (h w hw).handle fun e w' h' ↦ hf e w' h'

theorem Runs.ensure {finally' : Session Unit} (h : L.Runs m C R F)
    (hvalue : ∀ a, L.Runs finally' (R a) (fun _ ↦ Q a) E)
    (hraised : ∀ e, L.Runs finally' (F e) (fun _ ↦ E e) E) :
    L.Runs (Program.ensure m finally') C Q E :=
  fun w hw ↦ (h w hw).ensure (fun a w' h' ↦ hvalue a w' h') fun e w' h' ↦ hraised e w' h'

theorem runs_ite {c : Prop} [Decidable c] {m' : Session α} (h : c → L.Runs m C Q E)
    (h' : ¬ c → L.Runs m' C Q E) : L.Runs (if c then m else m') C Q E := fun w hw ↦
  meets_ite (fun hc ↦ h hc w hw) fun hc ↦ h' hc w hw

theorem runs_join {c : Prop} [Decidable c] {m : Session β} {k : Unit → Session β}
    (hk : L.Runs (k ()) D P E) (h : c → L.Runs (k ()) D P E → L.Runs m C P E)
    (h' : ¬ c → ∀ b w, C b w → D b w) : L.Runs (if c then m else k ()) C P E :=
  runs_ite (fun hc ↦ h hc hk) fun hc ↦ hk.of_imp (h' hc)

theorem runs_keeping (h : Keeping (Preserves (L.Holds C)) m) (hE : ∀ e b w, C b w → E e b w) :
    L.Runs m C (fun _ ↦ C) E := fun w hw ↦
  (h w).mono (fun _ _ h' ↦ h'.2 hw) (fun e w' h' ↦ (h'.2 hw).imp fun b ↦ hE e b w')
    fun _ h' ↦ (h' hw).imp fun _ _ ↦ trivial

variable (hC : Stable env (L.Holds C))

include hC

theorem runs_write {g : SessionWorld → SessionWorld}
    (h : ∀ w, L.Holds C w → L.Holds D (g w).seen) : L.Runs (write env g) C (fun _ ↦ D) E :=
  fun _ hw ↦ meets_write hC hw h

theorem runs_look {g : SessionWorld → α} :
    L.Runs (look env g) C (fun x b w ↦ C b w ∧ g w = x) E := fun _ hw ↦
  meets_look hC hw fun _ h' ↦ h'.imp fun _ h'' ↦ ⟨h'', rfl⟩

theorem runs_port {call : SessionCall} {Q : call.Reply → κ → SessionWorld → Prop}
    (hok : ∀ w reply, L.Holds C w → L.Holds (Q reply) (w.log (.port call (.ok reply))))
    (herror : ∀ w error, L.Holds C w →
      L.Holds (E (call.raises error)) (w.log (.port call (.error (call.raises error))))) :
    L.Runs (port env call) C Q E := fun _ hw ↦
  meets_port hC hw (fun w' reply h' ↦ hok w' reply h') fun w' error h' ↦ herror w' error h'

end Ledger

end EmbodiedAgent.Slam
