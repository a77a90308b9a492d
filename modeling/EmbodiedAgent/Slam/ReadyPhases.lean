import EmbodiedAgent.Slam.StageAccounts

namespace EmbodiedAgent.Slam.SessionWorker

open Library Library.Program Library.History SessionOrchestrator

variable {env : SessionEnvironment} {command : SessionCommand} {fuel : ℕ}

theorem abandoned_of_mapping {env : SessionEnvironment} (e : SessionException) (a : StageAccount)
    (w : SessionWorld) (h : Backed env command "mapping" a w) : Abandoned env command e a w :=
  abandoned_of_recoverable (h.recoverable (.inl rfl)) h.truthful e

theorem abandoned_of_navigation {env : SessionEnvironment} (e : SessionException) (a : StageAccount)
    (w : SessionWorld) (h : Backed env command "navigation" a w) : Abandoned env command e a w :=
  abandoned_of_recoverable (h.recoverable (.inr rfl)) h.truthful e

theorem saveMap_runs : StageRuns env true (saveMap env) (Backed env command "mapping")
    (fun _ ↦ Backed env command "mapping") (Abandoned env command) := by
  refine stageRuns_keeping (saveMap_keeping (holds_frame backed_lasting) uninvolved_of_quiet
    (fun _ _ _ ↦ rfl) ?_ ?_ fun _ ↦ ?_) abandoned_of_mapping
  · exact Backed.mapping_allows (by decide) (by decide)
  · exact Backed.mapping_allows (by decide) (by decide)
  · exact Backed.mapping_allows (by decide) (by decide)

theorem navigateSavedMap_runs : StageRuns env true (navigateSavedMap env fuel)
    (Backed env command "mapping") (fun _ ↦ Backed env command "navigation")
    (Abandoned env command) := by
  refine saveMap_runs.bind fun _ ↦ (stageRuns_keeping
    (cancelIf_keeping (holds_frame backed_lasting) _ _) abandoned_of_mapping).bind fun _ ↦ ?_
  exact ((startNavigation_runs fuel).of_imp fun _ _ ↦ .inl).bind fun _ ↦ waitNavigationReady_runs

theorem runMission_runs : StageRuns env true (runMission env fuel) (Backed env command "mapping")
    (fun _ ↦ Backed env command "navigation") (Abandoned env command) := by
  have hmapping := holds_frame (@backed_lasting env command "mapping")
  have hnavigation := holds_frame (@backed_lasting env command "navigation")
  have hautomatic := @Backed.mapping_allows env command .automaticMapping (by decide) (by decide)
  have hexplored := @Backed.mapping_allows env command .mapping (by decide) (by decide)
  have hnavigating := @Backed.navigation_allows env command
    .automaticNavigating (by decide) (by decide)
  have hcompleted := @Backed.navigation_allows env command .missionCompleted (by decide) (by decide)
  unfold runMission
  cases env.profile with
  | sceneRoute route navigateText patrolText =>
    refine (stageRuns_keeping (mapSceneRoute_keeping hmapping uninvolved_of_quiet hautomatic
      hexplored route) abandoned_of_mapping).bind fun _ ↦ navigateSavedMap_runs.bind fun _ ↦ ?_
    exact stageRuns_keeping (patrolScene_keeping hnavigation uninvolved_of_quiet hnavigating
      hcompleted navigateText patrolText) abandoned_of_navigation
  | unknownWorld initialScanText goalCount =>
    refine (stageRuns_keeping (mapUnknownWorld_keeping hmapping uninvolved_of_quiet hautomatic
      hexplored fuel initialScanText) abandoned_of_mapping).bind fun _ ↦
      navigateSavedMap_runs.bind fun _ ↦ ?_
    exact stageRuns_keeping (visitGoals_keeping hnavigation uninvolved_of_quiet hnavigating
      hcompleted goalCount) abandoned_of_navigation

structure Prepared (env : SessionEnvironment) (command : SessionCommand) (a : StageAccount)
    (w : SessionWorld) : Prop where
  active : w.command = some command
  truthful : Truthful env a w
  maps : command = .saveMap ∨ command = .saveAndStartNavigation → Named env "mapping" a w
  navigates : command = .startNavigation → Named env "mapping" a w ∨ Named env "navigation" a w

structure Saved (env : SessionEnvironment) (command : SessionCommand) (a : StageAccount)
    (w : SessionWorld) : Prop where
  active : w.command = some command
  truthful : Truthful env a w
  navigates : command = .startNavigation ∨ command = .saveAndStartNavigation →
    Named env "mapping" a w ∨ Named env "navigation" a w

theorem saved_lasting {env : SessionEnvironment} : Lasting env true (Saved env command) :=
  lasting_running fun _ _ _ hkept h ↦ ⟨hkept.command.trans h.active, h.truthful.kept hkept,
    fun hcommand ↦ (h.navigates hcommand).imp (.kept hkept) (.kept hkept)⟩

theorem stopSession_runs : StageRuns env true (stopSession env)
    (Truthful env) (fun _ ↦ Truthful env) (Abandoned env .stopSession) := by
  have hunready : Lasting env true fun _ w ↦ Unready w.node.fsm.phase :=
    lasting_running fun _ _ _ ↦ Unready.kept
  have hraised : ∀ (a : StageAccount) (w : SessionWorld) message, Unready w.node.fsm.phase →
      Abandoned env .stopSession (.raised message) a w :=
    fun _ _ _ h ↦ ⟨nofun, fun hphase ↦ absurd hphase h.1⟩
  have hstops : ∀ cause, StageRuns env true (stopStage env cause)
      (fun _ w ↦ Unready w.node.fsm.phase) (fun _ _ w ↦ Unready w.node.fsm.phase)
      (Abandoned env .stopSession) := fun cause ↦
    (stopStage_runs hunready abandoned_lasting hraised (fun _ ↦ id) cause).imp
      (fun _ _ _ h ↦ h.1) fun _ _ _ ↦ id
  unfold stopSession
  extract_lets stopped
  have hphase : ∀ phase, Unready phase → ∀ (w : SessionWorld) (n : SessionOrchestrator),
      n.fsm.phase = phase → Unready (w.withNode n).node.fsm.phase := by
    rintro phase h w n rfl
    exact h
  have hstopped : StageRuns env true (stopped ()) (fun _ w ↦ Unready w.node.fsm.phase)
      (fun _ ↦ Truthful env)
      (Abandoned env .stopSession) :=
    (stageRuns_transition hunready hunready fun a w n hn _ _ ↦
      hphase .stopped ⟨by decide, by decide, by decide, by decide⟩ w n hn).imp
      (fun _ _ _ ↦ truthful_of_unready) fun _ _ _ ↦ id
  refine (stageRuns_transition (truthful_lasting true) hunready fun a w n hn _ _ ↦
    hphase .stopping ⟨by decide, by decide, by decide, by decide⟩ w n hn).bind fun _ ↦
    Ledger.runs_ite (fun _ ↦ StageRuns.bind (R := fun _ _ w ↦ Unready w.node.fsm.phase) ?_
      fun _ ↦ hstopped) fun _ ↦ (hstops _).bind fun _ ↦ hstopped
  exact (call_runs hunready abandoned_lasting _ hraised rfl).bind fun _ ↦ (hstops _).bind
    fun _ ↦ call_runs hunready abandoned_lasting _ hraised rfl

theorem Saved.backed {env : SessionEnvironment} {a : StageAccount} {w : SessionWorld}
    (h : Saved env command a w)
    (hcommand : command = .startNavigation ∨ command = .saveAndStartNavigation) :
    BackedBySome env command a w :=
  (h.navigates hcommand).imp (⟨h.active, h.truthful, ·⟩) (⟨h.active, h.truthful, ·⟩)

theorem runSteps_runs : StageRuns env true (runSteps env fuel command)
    (Prepared env command) (fun _ ↦ Truthful env) (Abandoned env command) := by
  have htruthful := @truthful_lasting env true
  have hsaved := @saved_lasting command env
  unfold runSteps
  extract_lets completed stopped saved
  have hcompleted : StageRuns env true (completed ()) (Truthful env) (fun _ ↦ Truthful env)
      (Abandoned env command) :=
    stageRuns_setRequest htruthful fun _ ↦ rfl
  have hstopped : StageRuns env true (stopped ()) (Truthful env) (fun _ ↦ Truthful env)
      (Abandoned env command) := by
    refine stageRuns_join hcompleted (fun hstop hk ↦ ?_) fun _ _ _ ↦ id
    subst hstop
    exact stopSession_runs.bind fun _ ↦ hk
  have hnavigated : StageRuns env true (saved ()) (Saved env command) (fun _ ↦ Truthful env)
      (Abandoned env command) := by
    refine (stageRuns_canceled hsaved _).bind fun _ ↦ Ledger.runs_ite (fun _ ↦ ?_) fun _ ↦ ?_
    · exact (stageRuns_setMessage htruthful _).of_imp fun _ _ (h : Saved ..) ↦ h.truthful
    · refine stageRuns_join (C := Saved env command) hstopped
        (fun hcommand hk ↦ ?_) fun _ _ _ h ↦ h.truthful
      exact ((startNavigation_runs fuel).of_imp fun _ _ h ↦ Saved.backed h hcommand).bind fun _ ↦
        hk.of_imp fun _ _ h ↦ h.truthful
  refine stageRuns_join hnavigated (fun hcommand hk ↦ ?_) fun hnot _ _ h ↦
    ⟨h.active, h.truthful, fun hcommand ↦ h.navigates (hcommand.resolve_right (not_or.mp hnot).2)⟩
  refine (saveMap_runs.of_imp fun _ _ h ↦ ⟨h.active, h.truthful, h.maps hcommand⟩).bind fun _ ↦ ?_
  exact hk.of_imp fun _ _ h ↦ ⟨h.command, h.truthful, fun _ ↦ .inl h.named⟩

theorem runCommand_runs : StageRuns env true (runCommand env fuel command)
    (fun a w ↦ Prepared env command a w ∧
      (command = .runAutomaticMission → Named env "mapping" a w)) (fun _ ↦ Truthful env)
    (Abandoned env command) := by
  have hbacked := @backed_lasting env command "mapping"
  unfold runCommand
  extract_lets steps
  refine stageRuns_join runSteps_runs (fun hrun hk ↦ ?_) fun _ _ _ h ↦ h.1
  refine StageRuns.of_imp (D := Backed env command "mapping") ?_
    fun _ _ h ↦ ⟨h.1.active, h.1.truthful, h.2 hrun⟩
  refine (stageRuns_setOutcome hbacked _ _).bind fun _ ↦ (stageRuns_write hbacked hbacked
    (g := fun w ↦ { w with returnToStartEvidence := false }) (fun _ ↦ rfl) fun _ _ ↦
    Backed.kept (.same rfl rfl rfl rfl)).bind fun _ ↦ runMission_runs.bind fun _ ↦ ?_
  subst hrun
  exact hk.of_imp fun _ _ h ↦ ⟨h.command, h.truthful, fun hc ↦ hc.elim nofun nofun, nofun⟩

theorem truthful_recovered {env : SessionEnvironment} {a : StageAccount} {w : SessionWorld}
    (hstage : w.stage = "mapping" ∨ w.stage = "navigation")
    (hready : a.Ready env.persistentRuntimeEnabled w.stage)
    (hphase : w.node.fsm.phase = recoveryPhase w.stage) : Truthful env a w := by
  rcases hstage with hstage | hstage
  · rw [hstage] at hready hphase
    refine ⟨fun _ ↦ ⟨hstage, hready⟩, fun h ↦ ?_⟩
    rw [hphase] at h
    exact absurd h (by decide)
  · rw [hstage] at hready hphase
    refine ⟨fun h ↦ ?_, fun _ ↦ ⟨hstage, hready⟩⟩
    rw [hphase] at h
    exact absurd h (by decide)

theorem recover_runs (message : String)
    {E : SessionException → StageAccount → SessionWorld → Prop} :
    StageRuns env true (recover env message) (Recoverable env) (fun _ ↦ Truthful env) E := by
  have hrecoverable : Lasting env true
      (Recoverable env) := lasting_running fun _ _ _ ↦ Recoverable.kept
  refine (stageRuns_look hrecoverable).bind fun stage w hw ↦ meets_modify_bind ?_
  have hnamed : Lasting env true fun a w ↦
      (w.stage = "mapping" ∨ w.stage = "navigation") ∧ w.stage = stage ∧
        a.Ready env.persistentRuntimeEnabled stage := lasting_running fun _ _ _ hkept h ↦ by
    rw [hkept.stage]
    exact h
  refine stageRuns_transition hnamed (truthful_lasting true) (fun a w n hn _ h ↦ ?_) _
    (hw.log (fun _ _ ↦ trivial) fun a ha ↦ ⟨ha.1, fun hsound ↦ ?_⟩)
  · obtain ⟨hstage, rfl, hready⟩ := h
    exact truthful_recovered (w := w.withNode n) hstage hready hn
  · obtain ⟨hold, hne⟩ := Bool.and_eq_true_iff.mp hsound
    obtain ⟨hrecovers, rfl⟩ := ha.2 hold
    rcases hrecovers (of_decide_eq_true hne) with h | h
    · exact ⟨.inl h.named, rfl, h.named.symm ▸ h.ready⟩
    · exact ⟨.inr h.named, rfl, h.named.symm ▸ h.ready⟩

theorem truthful_allows {env : SessionEnvironment} {phase : SessionPhase} (hphase : Unready phase) :
    Allows (Truthful env) phase := by
  rintro a w n rfl _ _
  exact truthful_of_unready hphase

theorem failed_unready : Unready .failed := ⟨by decide, by decide, by decide, by decide⟩

theorem canceledRequest_runs (message : String) :
    StageRuns env true (canceledRequest env command message) (fun a w ↦ Recoverable env a w ∧
        Truthful env a w) (fun _ ↦ Truthful env) fun _ ↦ Truthful env := by
  have hboth : Lasting env true fun a w ↦ Recoverable env a w ∧ Truthful env a w :=
    lasting_running fun _ _ _ hkept h ↦ ⟨h.1.kept hkept, h.2.kept hkept⟩
  have htruthful := holds_frame (@truthful_lasting env true)
  have hfailed := @truthful_allows env .failed failed_unready
  unfold canceledRequest
  extract_lets recovered
  refine (stageRuns_setMessage hboth _).bind fun _ ↦ (stageRuns_look hboth).bind
    fun runtimeFailure ↦ StageRuns.of_imp (D := fun a w ↦ Recoverable env a w ∧ Truthful env a w) ?_
      fun _ _ h ↦ h.1
  refine Ledger.runs_ite (fun _ ↦ ?_) fun _ ↦ ?_
  · refine (stageRuns_setMessage hboth _).bind fun _ ↦ StageRuns.of_imp
      (stageRuns_keeping (failSession_keeping htruthful hfailed _ _) fun _ _ _ ↦ id) fun _ _ h ↦ h.2
  refine (stageRuns_keeping (settleRequest_keeping (holds_frame hboth) uninvolved_of_quiet
    (fun w work h ↦ ?_) (fun w reason h ↦ ?_) ?_ command) fun _ _ _ h ↦ h.2).bind fun failed ↦
    Ledger.runs_ite (fun _ ↦ StageRuns.of_imp (stageRuns_keeping
      (missionQuiescenceFailed_keeping htruthful hfailed) fun _ _ _ ↦ id) fun _ _ h ↦ h.2) fun _ ↦
    stageRuns_join (recover_runs message) (fun _ hk ↦ ?_) fun _ _ _ h ↦ h.1
  · exact h.write rfl fun a ha ↦ ha.kept hboth (.same rfl rfl rfl rfl)
  · have hafter := h.write (v := w.withNode (w.node.transition .failed reason)) rfl
      fun a ha ↦ ha.imp (D := fun a w ↦ Recoverable env a w ∧ Truthful env a w) fun h' ↦
        ⟨h'.1.of_stage rfl, truthful_of_unready failed_unready⟩
    exact holds_seen hboth (holds_unnoted hboth (fun _ ↦ ⟨rfl, trivial⟩) hafter)
  · rintro a w n hn - h
    refine ⟨h.1.of_stage rfl, truthful_of_unready ?_⟩
    show Unready n.fsm.phase
    rw [hn]
    decide
  · exact (stageRuns_setOutcome hboth _ _).bind fun _ ↦ hk.of_imp fun _ _ h ↦ h.1

theorem failedRequest_runs (message : String)
    {E : SessionException → StageAccount → SessionWorld → Prop} :
    StageRuns env true (failedRequest env command message) (Abandoned env command (.raised message))
      (fun _ ↦ Truthful env) E := by
  have hleft := @abandoned_lasting env command (.raised message)
  have hfails : ∀ (detail : String) {C : StageAccount → SessionWorld → Prop}, Lasting env true C →
      StageRuns env true (transition env .failed detail) C (fun _ ↦ Truthful env) E := by
    intro detail C hC
    refine stageRuns_transition hC (truthful_lasting true) fun a w n hn _ _ ↦ truthful_of_unready ?_
    show Unready n.fsm.phase
    rw [hn]
    exact failed_unready
  refine (stageRuns_setMessage hleft _).bind fun _ ↦ Ledger.runs_ite (fun hrun ↦ ?_) fun _ ↦ ?_
  · refine (stageRuns_setOutcome hleft _ _).bind fun _ ↦ (stageRuns_look hleft).bind fun pending ↦
      Ledger.runs_ite (fun _ ↦ ?_) fun hpending ↦ ?_
    · exact (hfails _ hleft).of_imp fun _ _ h ↦ h.1
    · exact (recover_runs _).of_imp fun a w h ↦
        (h.1.1 hrun).resolve_left fun hset ↦ hpending (h.2.symm.trans hset)
  · refine (stageRuns_look hleft).bind fun phase ↦ Ledger.runs_ite (fun _ ↦ ?_) fun hphase ↦ ?_
    · exact (hfails _ hleft).of_imp fun _ _ h ↦ h.1
    · refine stageRuns_pure fun a w h ↦ ?_
      have hmapping : w.node.fsm.phase = .mapping := h.2.trans (not_not.mp hphase)
      refine ⟨fun _ ↦ h.1.2 hmapping, fun hready ↦ ?_⟩
      rw [hmapping] at hready
      exact absurd hready (by decide)

theorem requestRaised_runs (error : SessionException) :
    StageRuns env true (requestRaised env command error) (Abandoned env command error)
      (fun _ ↦ Truthful env) fun _ ↦ Truthful env := by
  cases error with
  | automaticMissionCancelled message => exact canceledRequest_runs message
  | persistentStageSwitchInterrupted message | raised message =>
    exact (failedRequest_runs message).of_imp fun _ _ ↦ id

section Requests

variable {κ : SessionException → StageAccount → SessionWorld → Prop}

theorem endRequest_runs : (stageLedger env.persistentRuntimeEnabled).Runs (endRequest env)
    (While true (Truthful env)) (fun _ ↦ While false (Truthful env)) κ := by
  have htruthful := @truthful_lasting env true
  refine Ledger.Runs.bind (R := fun _ ↦ While true (Truthful env))
    (fun w hw ↦ meets_modify (hw.write rfl fun a ha ↦ ha.kept htruthful (.same rfl rfl rfl rfl)))
    fun _ ↦ ?_
  have hwrite : ∀ g : SessionWorld → SessionWorld, (∀ w, (g w).trace = w.trace) →
      (∀ w, (g w).stage = w.stage ∧ (g w).node.fsm = w.node.fsm) →
      (stageLedger env.persistentRuntimeEnabled).Runs (write env g) (While true (Truthful env))
        (fun _ ↦ While true (Truthful env)) κ := by
    intro g htrace hsame
    refine Ledger.runs_write (holds_stable htruthful) fun w hw ↦ holds_seen htruthful
      (hw.write (htrace w) fun a ha ↦ ha.imp fun h ↦ ?_)
    exact h.of_same (hsame w).1 (congrArg SessionSnapshot.phase (hsame w).2) rfl
  refine (hwrite (fun w ↦ { w with navigationStartupFailurePending := false }) (fun _ ↦ rfl)
    fun _ ↦ ⟨rfl, rfl⟩).bind fun _ ↦ (hwrite (fun w ↦ w.withNode
      { w.node with activeRequest := none }) (fun _ ↦ rfl) fun _ ↦ ⟨rfl, rfl⟩).bind fun _ ↦
    Ledger.runs_write (holds_stable htruthful) fun w hw ↦ holds_seen (truthful_lasting false) ?_
  have hlet := hw.write (v := w.withNode { w.node with operationActive := false }) rfl
    fun a ha ↦ ha.kept htruthful (.of_node rfl rfl)
  exact hlet.log (fun _ _ ↦ trivial) fun a ha ↦ ⟨rfl, fun hsound ↦
    (ha.2 hsound).of_same rfl rfl rfl⟩

theorem beginRequest_accepted {n : SessionOrchestrator} {request : CommandRequest} {now : Double}
    (h : (n.beginRequest request now).2.2 = true) : (n.fsm.validate request.command).1 = true ∧
      (n.beginRequest request now).1 =
        { n with operationActive := true, activeRequest := some request } := by
  unfold beginRequest at h ⊢
  cases hvalid : n.fsm.validate request.command with
  | mk accepted reason =>
    cases accepted with
    | false =>
      rw [hvalid] at h
      cases h
    | true =>
      rw [hvalid] at h
      split_ifs at h ⊢
      exact ⟨rfl, rfl⟩

theorem validate_accepted {s : SessionSnapshot} {command : SessionCommand}
    (h : (s.validate command).1 = true) : (command = .runAutomaticMission → s.phase = .mapping) ∧
      (command = .saveMap ∨ command = .saveAndStartNavigation →
        s.phase = .mapping ∨ s.phase = .mapSaved) ∧ (command = .startNavigation →
        s.phase = .navigating ∨ s.phase = .missionCompleted ∨ s.phase = .mapSaved) ∧
      (s.phase = .failed → command = .stopSession) := by
  unfold SessionSnapshot.validate at h
  split_ifs at h with hbusy hrun hsave hnavigating hstart hstop
  all_goals cases h
  · obtain ⟨rfl, hphase⟩ := hnavigating
    refine ⟨nofun, fun hc ↦ hc.elim nofun nofun, fun _ ↦ ?_, fun hfailed ↦ ?_⟩
    · exact hphase.elim Or.inl fun h ↦ .inr (.inl h)
    · rw [hfailed] at hphase
      exact absurd hphase (by decide)
  · obtain ⟨rfl, -⟩ := hstop
    exact ⟨nofun, fun hc ↦ hc.elim nofun nofun, nofun, fun _ ↦ rfl⟩
  · refine ⟨fun hc ↦ ?_, fun hc ↦ ?_, fun hc ↦ ?_, fun hfailed ↦ ?_⟩
    · exact not_not.mp fun hne ↦ hrun ⟨hc, hne⟩
    · by_contra hne
      obtain ⟨hmapping, hsaved⟩ := not_or.mp hne
      exact hsave ⟨hc, hmapping, hsaved⟩
    · exact .inr (.inr (not_not.mp fun hne ↦ hstart ⟨hc, .inl hne⟩))
    · rw [hfailed] at hrun hsave hstart
      cases command with
      | stopSession => rfl
      | runAutomaticMission => exact absurd ⟨rfl, by decide⟩ hrun
      | saveMap => exact absurd ⟨.inl rfl, by decide, by decide⟩ hsave
      | saveAndStartNavigation => exact absurd ⟨.inr rfl, by decide, by decide⟩ hsave
      | startNavigation => exact absurd ⟨rfl, .inl (by decide)⟩ hstart

theorem admitted_prepared {env : SessionEnvironment} {mapSaved : Bool} {a : StageAccount}
    {w : SessionWorld}
    (htruthful : Truthful env a w) (hvalid : (w.node.fsm.validate command).1 = true)
    (hcommand : w.command = some command) :
    Prepared env command (a.step env.persistentRuntimeEnabled (.began command mapSaved)) w ∧
      (command = .runAutomaticMission →
        Named env "mapping" (a.step env.persistentRuntimeEnabled (.began command mapSaved)) w) := by
  obtain ⟨hrun, hsave, hstart, -⟩ := validate_accepted hvalid
  have hnamed : ∀ stage, Named env stage a w →
      Named env stage (a.step env.persistentRuntimeEnabled (.began command mapSaved)) w :=
    fun _ h ↦ ⟨h.named, h.ready⟩
  refine ⟨⟨hcommand, htruthful.of_same rfl rfl rfl, fun hc ↦ hnamed _ (htruthful.1 (hsave hc)),
    fun hc ↦ ?_⟩, fun hc ↦ hnamed _ (htruthful.1 (.inl (hrun hc)))⟩
  rcases hstart hc with hphase | hphase | hphase
  · exact .inr (hnamed _ (htruthful.2 (.inl hphase)))
  · exact .inr (hnamed _ (htruthful.2 (.inr hphase)))
  · exact .inl (hnamed _ (htruthful.1 (.inr hphase)))

theorem admitRequest_runs (request : CommandRequest) :
    (stageLedger env.persistentRuntimeEnabled).Runs (admitRequest env request)
      (While false (Truthful env)) (fun admitted ↦ bif admitted then While true fun a w ↦
          Prepared env request.command a w ∧ (request.command = .runAutomaticMission →
            Named env "mapping" a w) else While false (Truthful env)) κ := by
  intro w hw
  refine (meets_interfere (holds_stable (truthful_lasting false)) hw).bind fun _ w hw ↦
    meets_get_bind ?_
  extract_lets begun
  refine meets_ite (fun hbegun ↦ meets_modify_bind (meets_pure ?_)) fun _ ↦ meets_pure ?_
  · obtain ⟨hvalid, hnode⟩ := beginRequest_accepted hbegun
    have hbefore : (stageLedger env.persistentRuntimeEnabled).Holds (fun a w ↦
        a.executing = false ∧ (a.sound = true → Truthful env a w ∧
          (w.node.fsm.validate request.command).1 = true ∧ w.command = some request.command))
        ((w.withNode begun.1).withWork .working) := by
      refine hw.write rfl fun a ha ↦ ⟨ha.1, fun hsound ↦ ?_⟩
      rw [show begun.1 = _ from hnode]
      exact ⟨(ha.2 hsound).of_same rfl rfl rfl, hvalid, rfl⟩
    refine hbefore.log (fun _ _ ↦ trivial) fun a ha ↦ ⟨rfl, fun hsound ↦ ?_⟩
    obtain ⟨htruthful, hvalid, hcommand⟩ := ha.2 hsound
    exact @admitted_prepared _ _ w.node.fsm.mapSaved _ _ (htruthful.of_same rfl rfl rfl) hvalid
      hcommand
  · exact hw.imp fun a ha ↦ ha

theorem executeRequest_runs (request : CommandRequest) :
    (stageLedger env.persistentRuntimeEnabled).Runs (executeRequest env fuel request)
      (While false (Truthful env)) (fun _ ↦ While false (Truthful env))
      fun _ ↦ While false (Truthful env) := by
  refine Ledger.Runs.bind (admitRequest_runs request) fun admitted ↦
    Ledger.runs_ite (fun hadmitted ↦ ?_) fun hrefused ↦ Ledger.runs_pure fun a w ha ↦ ?_
  · subst hadmitted
    have hprepared : Lasting env true fun a w ↦ Prepared env request.command a w ∧
          (request.command = .runAutomaticMission → Named env "mapping" a w) :=
      lasting_running fun _ _ _ hkept h ↦ ⟨⟨hkept.command.trans h.1.active,
        h.1.truthful.kept hkept, fun hc ↦ (h.1.maps hc).kept hkept,
        fun hc ↦ (h.1.navigates hc).imp (.kept hkept) (.kept hkept)⟩,
        fun hc ↦ (h.2 hc).kept hkept⟩
    refine Ledger.Runs.bind (R := fun _ ↦ While true fun a w ↦ Prepared env request.command a w ∧
          (request.command = .runAutomaticMission → Named env "mapping" a w)) ?_ fun _ ↦
      Ledger.Runs.ensure (Ledger.Runs.handle runCommand_runs requestRaised_runs)
        (fun _ ↦ endRequest_runs) fun _ ↦ endRequest_runs
    refine Ledger.runs_write (holds_stable hprepared) fun w hw ↦
      holds_seen hprepared (hw.write rfl fun a ha ↦ ha.imp ?_)
    rintro ⟨h, hrun⟩
    exact ⟨⟨h.active, h.truthful.of_same rfl rfl rfl,
      fun hc ↦ ⟨(h.maps hc).named, (h.maps hc).ready⟩,
      fun hc ↦ (h.navigates hc).imp (fun h ↦ ⟨h.named, h.ready⟩) fun h ↦ ⟨h.named, h.ready⟩⟩,
      fun hc ↦ ⟨(hrun hc).named, (hrun hc).ready⟩⟩
  · rw [eq_false_of_ne_true hrefused] at ha
    exact ha

theorem executeRequests_runs (requests : List CommandRequest) :
    (stageLedger env.persistentRuntimeEnabled).Runs (executeRequests env fuel requests)
      (While false (Truthful env)) (fun _ ↦ While false (Truthful env))
      fun _ ↦ While false (Truthful env) := by
  induction requests with
  | nil => exact fun w hw ↦ meets_interfere (holds_stable (truthful_lasting false)) hw
  | cons request requests ih => exact Ledger.Runs.bind (executeRequest_runs request) fun _ ↦ ih

end Requests

theorem unready_lasting : Lasting env false fun _ w ↦ Unready w.node.fsm.phase :=
  ⟨fun _ _ _ ↦ Unready.kept, fun _ a _ h ↦ h.tellsTruth _ a⟩

theorem startMapping_runs : StageRuns env false (startMapping env)
    (fun _ w ↦ Unready w.node.fsm.phase) (fun _ ↦ Truthful env)
    fun _ _ w ↦ Unready w.node.fsm.phase := by
  have hunready := @unready_lasting env
  have hcall : ∀ call : SessionCall, call.forRequest = false → StageRuns env false (port env call)
      (fun _ w ↦ Unready w.node.fsm.phase) (fun _ _ w ↦ Unready w.node.fsm.phase)
      fun _ _ w ↦ Unready w.node.fsm.phase := fun call hcall ↦
    call_runs hunready (fun _ ↦ hunready) call (fun _ _ _ ↦ id) hcall
  have hstart : StageRuns env false (startStage env "mapping") (fun _ w ↦ Unready w.node.fsm.phase)
      (fun _ ↦ Started (fun w ↦ Unready w.node.fsm.phase) "mapping" [])
      fun _ _ w ↦ Unready w.node.fsm.phase :=
    startStage_runs hunready (fun _ ↦ hunready) (fun _ _ _ ↦ id) (fun _ ↦ id) fun _ ↦ id
  refine (stageRuns_transition hunready hunready fun a w n hn _ _ ↦ ?_).bind fun _ ↦ ?_
  · show Unready n.fsm.phase
    rw [hn]
    decide
  extract_lets ready started
  have hready : StageRuns env false (ready ()) (Started (fun w ↦ Unready w.node.fsm.phase)
      "mapping" (readinessWaits env.persistentRuntimeEnabled "mapping"))
      (fun _ ↦ Truthful env) fun _ _ w ↦ Unready w.node.fsm.phase := by
    refine stageRuns_transition (started_lasting hunready) (truthful_lasting false)
      fun a w n hn _ h ↦ ⟨fun _ ↦ ⟨h.named, h.standing⟩, fun hphase ↦ ?_⟩
    rw [SessionWorld.withNode, hn] at hphase
    exact absurd hphase (by decide)
  have hstarted : ∀ l, l ++ [.waitForNewReady] ++ (if env.persistentRuntimeEnabled = true then
      [.waitPersistentVelocityPipelineReady] else []) =
        readinessWaits env.persistentRuntimeEnabled "mapping" →
      StageRuns env false (started ()) (Started (fun w ↦ Unready w.node.fsm.phase) "mapping" l)
        (fun _ ↦ Truthful env) fun _ _ w ↦ Unready w.node.fsm.phase := by
    intro l hl
    refine (wait_runs hunready (fun _ ↦ hunready) (fun _ _ _ ↦ id) fun _ ↦ rfl).bind fun _ ↦
      Ledger.runs_ite (fun hpersistent ↦ ?_) fun hcompat ↦ ?_
    · rw [if_pos hpersistent] at hl
      refine (wait_runs hunready (fun _ ↦ hunready) (fun _ _ _ ↦ id) fun _ ↦ rfl).bind fun _ ↦ ?_
      rw [hl]
      exact hready
    · rw [if_neg hcompat, List.append_nil] at hl
      rw [hl]
      exact hready
  refine Ledger.runs_ite (fun hpersistent ↦ ?_) fun hcompat ↦ ?_
  · refine (hcall .startBase rfl).bind fun _ ↦
      (hcall .waitPersistentBaseControlReady rfl).bind fun _ ↦
      (hcall .requireLiveBase rfl).bind fun _ ↦ hstart.bind fun _ ↦
      (wait_runs hunready (fun _ ↦ hunready) (fun _ _ _ ↦ id) fun _ ↦ rfl).bind fun _ ↦
        hstarted _ ?_
    rw [readinessWaits, if_pos hpersistent, if_pos hpersistent]
    rfl
  · refine hstart.bind fun _ ↦ hstarted _ ?_
    rw [readinessWaits, if_neg hcompat, if_neg hcompat]
    rfl

theorem failMappingStartup_runs (error : SessionException) :
    StageRuns env false (failMappingStartup env error) (fun _ w ↦ Unready w.node.fsm.phase)
      (fun _ _ w ↦ Unready w.node.fsm.phase) fun _ _ w ↦ Unready w.node.fsm.phase := by
  have hunready := @unready_lasting env
  have hcall : ∀ call : SessionCall, call.forRequest = false → StageRuns env false (port env call)
      (fun _ w ↦ Unready w.node.fsm.phase) (fun _ _ w ↦ Unready w.node.fsm.phase)
      fun _ _ w ↦ Unready w.node.fsm.phase := fun call hcall ↦
    call_runs hunready (fun _ ↦ hunready) call (fun _ _ _ ↦ id) hcall
  have hstop : StageRuns env false (stopStage env .session) (fun _ w ↦ Unready w.node.fsm.phase)
      (fun _ _ w ↦ Unready w.node.fsm.phase) fun _ _ w ↦ Unready w.node.fsm.phase :=
    (stopStage_runs hunready (fun _ ↦ hunready) (fun _ _ _ ↦ id) (fun _ ↦ id) _).imp
      (fun _ _ _ h ↦ h.1) fun _ _ _ ↦ id
  refine (stageRuns_write hunready hunready
    (g := fun w ↦ w.withNode { w.node with stopping := true })
    (fun _ ↦ rfl) fun _ _ ↦ id).bind fun _ ↦ (stageRuns_setOutcome hunready _ _).bind fun _ ↦
    (stageRuns_transition hunready hunready fun a w n hn _ _ ↦ ?_).bind fun _ ↦
    Ledger.Runs.handle (F := fun _ ↦ While false fun _ w ↦ Unready w.node.fsm.phase)
      (Ledger.runs_ite (fun _ ↦ ?_) fun _ ↦ hstop) fun _ ↦ stageRuns_pure fun _ _ ↦ id
  · show Unready n.fsm.phase
    rw [hn]
    exact failed_unready
  · exact (hcall .stopMapSaver rfl).bind fun _ ↦ hstop.bind fun _ ↦ hcall .stopBase rfl

theorem workerLoop_runs (requests : List CommandRequest) :
    (stageLedger env.persistentRuntimeEnabled).Runs (workerLoop env fuel requests)
      (While false fun _ w ↦ Unready w.node.fsm.phase) (fun _ _ _ ↦ True) fun _ _ _ ↦ True := by
  have hwork : ∀ (work : SessionWork) {C : StageAccount → SessionWorld → Prop},
      Lasting env false C →
      (stageLedger env.persistentRuntimeEnabled).Runs (modify (·.withWork work) : Session Unit)
        (While false C) (fun _ ↦ While false C) fun _ _ _ ↦ True := fun work C hC w hw ↦
    meets_modify (hw.write rfl fun a ha ↦ ha.kept hC (.same rfl rfl rfl rfl))
  refine Ledger.Runs.bind (hwork .working unready_lasting) fun _ ↦ ?_
  intro w hw
  refine Meets.bind (Meets.attempt
    (Q := fun started ↦ (stageLedger env.persistentRuntimeEnabled).Holds
    (While false (bif started.isOk then Truthful env
      else fun _ w ↦ Unready w.node.fsm.phase))) (startMapping_runs w hw)) fun started w hw ↦ ?_
  cases started with
  | error error =>
    exact Ledger.Runs.imp (failMappingStartup_runs error) (fun _ _ _ _ ↦ trivial)
      (fun _ _ _ _ ↦ trivial) w hw
  | ok _ =>
    refine (hwork .idle (truthful_lasting false) w hw).bind fun _ w hw ↦ ?_
    exact Ledger.Runs.imp (executeRequests_runs requests) (fun _ _ _ _ ↦ trivial)
      (fun _ _ _ _ ↦ trivial) w hw

theorem ready_phase_tells_truth (env : SessionEnvironment) (fuel : ℕ)
    (requests : List CommandRequest) (w : SessionWorld) (htrace : w.trace = [])
    (hphase : w.node.fsm.phase = .stopped) {pre post : List SessionEntry} {phase : SessionPhase}
    {outcome : MissionOutcome}
    (h : (workerLoop env fuel requests w).2.trace = pre ++ .seen phase outcome :: post)
    (hidle : ((stageLedger env.persistentRuntimeEnabled).account pre).executing = false)
    (hsound : ((stageLedger env.persistentRuntimeEnabled).account pre).sound = true) :
    ((stageLedger env.persistentRuntimeEnabled).account pre).TellsTruth
      env.persistentRuntimeEnabled phase := by
  have hstart : (stageLedger env.persistentRuntimeEnabled).Holds
      (While false fun _ w ↦ Unready w.node.fsm.phase) w := by
    refine ⟨?_, ?_⟩
    · rw [htrace]
      trivial
    · rw [htrace]
      refine ⟨rfl, fun _ ↦ ?_⟩
      show Unready w.node.fsm.phase
      rw [hphase]
      decide
  have htold := (Meets.state (@workerLoop_runs env fuel requests w hstart)).told
  rw [h] at htold
  exact ((along_append _).mp htold).2.1 hsound hidle

def calmReply : (call : SessionCall) → call.Reply
  | .openStage _ => false
  | .evaluateReturnToStart => ([] : List String)
  | .callControlAuthority .. =>
    (⟨true, true, false, "", drivingSnapshot⟩ : ControlAuthorityResponse)
  | .explore => ExplorationRound.finished "saturated"
  | .selectMappedNavigationGoals => (0 : ℕ)
  | .feedback | .startBase | .waitPersistentBaseControlReady | .requireLiveBase
  | .waitPersistentStageExecutorReady | .waitForNewReady | .waitPersistentVelocityPipelineReady
  | .reapStage | .spawnStage .. | .stopExplorer _ | .stopStageProcess _ | .stopMapSaver | .stopBase
  | .saveMap _ | .stopMotionAndWait | .prepareNavigation _ | .waitAcknowledged _ | .waitAuthority
  | .waitPersistentNavigationReady | .waitNavigationReady | .waitScan | .captureMappingStartPose
  | .runAgentAction .. | .startExplorer | .waitForFrontier | .quiesceFrontier | .endExplorer
  | .runMappingReturnGoal | .waitForMapQuiet | .runNavigationGoal _ => ()

/-- All calls come to their end. -/
def calmEnvironment (persistent : Bool) (others : List SessionEntry → List OtherEvent) :
    SessionEnvironment where
  persistentRuntimeEnabled := persistent
  profile := .unknownWorld "turn left" 0
  answer _ call := .ok (calmReply call)
  now _ := 0
  others := others

def freshWorld : SessionWorld where
  node := { gated with authorityGateEnabled := false }
  mapPath := "map.yaml"

/-- A goal that is canceled as soon as the mapping stage has stopped. -/
def canceledAfterStop (trace : List SessionEntry) : List OtherEvent :=
  match trace.getLast? with
  | some (.port (.stopStageProcess _) _) => [.cancelGoal]
  | _ => []

theorem ready_phase_tells_truth_after_startup :
    let trace := (workerLoop (calmEnvironment true fun _ ↦ []) 0 [] freshWorld).2.trace
    trace.getLast? = some (.seen .mapping .idle) ∧
      ((stageLedger true).account trace.dropLast).TellsTruth true .mapping := by
  intro trace
  have hlast : trace.getLast? = some (.seen .mapping .idle) := rfl
  refine ⟨hlast, @ready_phase_tells_truth (calmEnvironment true fun _ ↦ []) 0 [] freshWorld rfl rfl
    trace.dropLast [] .mapping .idle ?_ (by decide +kernel) (by decide +kernel)⟩
  exact (List.dropLast_append_getLast? _ hlast).symm

/-- MAPPING after the cancellation, and no stage. -/
theorem mapping_without_stage : let w := (workerLoop (calmEnvironment false canceledAfterStop) 0
      [{ command := .saveMap, source := "voice" },
        { command := .startNavigation, source := "voice" }]
      freshWorld).2
    ((stageLedger false).account w.trace).executing = false ∧ w.node.fsm.phase = .mapping ∧
      ((stageLedger false).account w.trace).standing = none ∧
      ¬ ((stageLedger false).account w.trace).TellsTruth false w.node.fsm.phase := by
  decide +kernel

end EmbodiedAgent.Slam.SessionWorker
