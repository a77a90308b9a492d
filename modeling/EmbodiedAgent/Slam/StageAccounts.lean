import EmbodiedAgent.Slam.SessionRules

namespace EmbodiedAgent.Slam

open Library Library.Program SessionOrchestrator

def readinessWaits (persistent : Bool) (stage : String) : List SessionCall :=
  if persistent then
    [.waitPersistentStageExecutorReady, .waitForNewReady,
      if stage = "navigation" then .waitPersistentNavigationReady
      else .waitPersistentVelocityPipelineReady]
  else [.waitForNewReady]

/-- What a trace tells about the stage. -/
structure StageAccount where
  standing : Option (String × List SessionCall) := none
  executing : Bool := false
  sound : Bool := true

namespace StageAccount

variable (persistent : Bool) (a : StageAccount)

def Ready (stage : String) : Prop := a.standing = some (stage, readinessWaits persistent stage)

instance (stage : String) : Decidable (a.Ready persistent stage) :=
  inferInstanceAs (Decidable (_ = _))

def afterCall (call : SessionCall) (ok : Bool) : Option (String × List SessionCall) :=
  match call with
  | .spawnStage stage _ => if ok then some (stage, []) else a.standing
  | .reapStage | .stopStageProcess _ => none
  | .waitPersistentStageExecutorReady | .waitForNewReady | .waitPersistentVelocityPipelineReady
  | .waitPersistentNavigationReady =>
    if ok then a.standing.map fun standing ↦ (standing.1, standing.2 ++ [call]) else a.standing
  | _ => a.standing

def step : SessionEntry → StageAccount
  | .port call reply => { a with standing := a.afterCall call reply.isOk }
  | .began _ _ => { a with executing := true }
  | .ended => { a with executing := false }
  | .recovers stage => { a with sound := a.sound && decide (stage ≠ "") }
  | .stopFailed command stage => { a with
      sound := a.sound && decide (command = some .runAutomaticMission → stage = "navigation" →
        a.Ready persistent "navigation") }
  | _ => a

/-- A ready phase, and the stage that it stands for. -/
def TellsTruth (phase : SessionPhase) : Prop :=
  (phase = .mapping ∨ phase = .mapSaved → a.Ready persistent "mapping") ∧
    (phase = .navigating ∨ phase = .missionCompleted → a.Ready persistent "navigation")

instance (phase : SessionPhase) : Decidable (a.TellsTruth persistent phase) :=
  inferInstanceAs (Decidable (_ ∧ _))

def Honest (a : StageAccount) : SessionEntry → Prop
  | .seen phase _ => a.sound = true → a.executing = false → a.TellsTruth persistent phase
  | _ => True

end StageAccount

def stageLedger (persistent : Bool) : Ledger StageAccount where
  start := {}
  step := StageAccount.step persistent
  Honest := StageAccount.Honest persistent

namespace SessionWorker

section Frame

structure Kept (w w' : SessionWorld) : Prop where
  stage : w'.stage = w.stage
  pending : w'.navigationStartupFailurePending = w.navigationStartupFailurePending
  replaced : w'.stageReplaced = w.stageReplaced
  command : w'.command = w.command
  phase : w'.node.fsm.phase = w.node.fsm.phase ∨ w'.node.fsm.phase = .failed ∨
    w'.node.fsm.phase = .quiescing

def While (executing : Bool) (C : StageAccount → SessionWorld → Prop) (a : StageAccount)
    (w : SessionWorld) : Prop :=
  a.executing = executing ∧ (a.sound = true → C a w)

structure Lasting (env : SessionEnvironment) (executing : Bool)
    (C : StageAccount → SessionWorld → Prop) : Prop where
  kept : ∀ a w w', Kept w w' → C a w → C a w'
  truth : executing = false → ∀ a w, C a w →
    a.TellsTruth env.persistentRuntimeEnabled w.node.fsm.phase

variable {env : SessionEnvironment} {executing : Bool} {a : StageAccount} {w w' : SessionWorld}
  {C D : StageAccount → SessionWorld → Prop}

theorem Kept.same (hnode : w'.node = w.node) (hstage : w'.stage = w.stage)
    (hpending : w'.navigationStartupFailurePending = w.navigationStartupFailurePending)
    (hreplaced : w'.stageReplaced = w.stageReplaced) : Kept w w' := by
  refine ⟨hstage, hpending, hreplaced, ?_, .inl ?_⟩
  · rw [SessionWorld.command, SessionWorld.command, hnode]
  · rw [hnode]

theorem Kept.of_node {n : SessionOrchestrator} (hfsm : n.fsm = w.node.fsm)
    (hcommand : n.activeRequest.map CommandRequest.command = w.command) : Kept w (w.withNode n) :=
  ⟨rfl, rfl, rfl, hcommand, .inl (congrArg SessionSnapshot.phase hfsm)⟩

theorem While.imp (h : While executing C a w) (hC : C a w → D a w') : While executing D a w' :=
  ⟨h.1, fun hsound ↦ hC (h.2 hsound)⟩

theorem While.kept (hL : Lasting env executing C)
    (h : While executing C a w) (hkept : Kept w w') : While executing C a w' :=
  h.imp (hL.kept a w w' hkept)

theorem While.honest (hL : Lasting env executing C)
    (h : While executing C a w) (outcome : MissionOutcome) :
    (stageLedger env.persistentRuntimeEnabled).Honest a (.seen w.node.fsm.phase outcome) :=
  fun hsound hidle ↦ hL.truth (h.1.symm.trans hidle) a w (h.2 hsound)

def Unnoted (env : SessionEnvironment) (e : SessionEntry) : Prop :=
  ∀ a : StageAccount, a.step env.persistentRuntimeEnabled e = a ∧
    a.Honest env.persistentRuntimeEnabled e

theorem holds_unnoted (hL : Lasting env executing C) {e : SessionEntry} (he : Unnoted env e)
    (h : (stageLedger env.persistentRuntimeEnabled).Holds (While executing C) w) :
    (stageLedger env.persistentRuntimeEnabled).Holds (While executing C) (w.log e) := by
  refine h.log (fun a _ ↦ (he a).2) fun a ha ↦ ?_
  rw [show (stageLedger env.persistentRuntimeEnabled).step a e = a from (he a).1]
  exact ha.kept hL (.same rfl rfl rfl rfl)

theorem holds_seen (hL : Lasting env executing C)
    (h : (stageLedger env.persistentRuntimeEnabled).Holds (While executing C) w) :
    (stageLedger env.persistentRuntimeEnabled).Holds (While executing C) w.seen :=
  h.log (fun _ ha ↦ ha.honest hL _) fun _ ha ↦ ha.kept hL (.same rfl rfl rfl rfl)

theorem holds_stable (hL : Lasting env executing C) :
    Stable env ((stageLedger env.persistentRuntimeEnabled).Holds (While executing C)) := by
  refine stable_of_disturbed fun w w' hdisturbed h ↦ ?_
  have hkept : Kept w w' := ⟨hdisturbed.stage, hdisturbed.pending, hdisturbed.replaced,
    hdisturbed.node.command, hdisturbed.node.phase⟩
  obtain ⟨more, htrace, hmore⟩ := hdisturbed.trace
  refine h.others htrace (fun a ha ↦ ha.kept hL hkept) fun a ha e he ↦ ?_
  have hothers := hmore e he
  cases e with
  | failed work outcome | quiesces => exact ⟨rfl, trivial⟩
  | seen phase outcome =>
    rw [show phase = w'.node.fsm.phase from hothers]
    exact ⟨rfl, (ha.kept hL hkept).honest hL outcome⟩
  | _ => exact absurd hothers id

def Uninvolved (call : SessionCall) : Prop :=
  ∀ (a : StageAccount) ok, a.afterCall call ok = a.standing

theorem uninvolved_of_quiet (call : SessionCall) (h : quiet call = true) : Uninvolved call := by
  intro a ok
  cases call <;> first | rfl | cases h

theorem unnoted_port (env : SessionEnvironment) {call : SessionCall} (h : Uninvolved call)
    (reply : Except SessionException call.Reply) : Unnoted env (.port call reply) := by
  intro a
  refine ⟨?_, trivial⟩
  simp only [StageAccount.step, h a reply.isOk]

/-- The phases in which `C` outlasts a transition. -/
def Allows (C : StageAccount → SessionWorld → Prop) (phase : SessionPhase) : Prop :=
  ∀ a w n, n.fsm.phase = phase → n.activeRequest.map CommandRequest.command = w.command →
    C a w → C a (w.withNode n)

theorem transition_request (n : SessionOrchestrator) (phase : SessionPhase) (detail : String)
    (mapSaved : Option Bool) (mapYamlPath : Option String) :
    (n.transition phase detail mapSaved mapYamlPath).activeRequest = n.activeRequest := by
  unfold SessionOrchestrator.transition
  split_ifs <;> rfl

theorem holds_frame (hL : Lasting env executing C) :
    Frame env (Preserves ((stageLedger env.persistentRuntimeEnabled).Holds (While executing C)))
      Uninvolved fun phase _ _ ↦ Allows C phase where
  other w e h := holds_stable hL w e h
  port w call reply hcall h := holds_unnoted hL (unnoted_port _ hcall reply) h
  transition w phase detail mapSaved mapYamlPath hphase h := by
    have hafter := h.write (v := w.withNode (w.node.transition phase detail mapSaved mapYamlPath))
      rfl fun a ha ↦ ha.imp (hphase a w _ rfl
        (congrArg (Option.map CommandRequest.command) (transition_request ..)))
    exact holds_seen hL (holds_unnoted hL (fun _ ↦ ⟨rfl, trivial⟩) hafter)
  canceled w point value h := holds_unnoted hL (fun _ ↦ ⟨rfl, trivial⟩) h
  request w f hf h := by
    refine holds_seen hL (h.write rfl fun a ha ↦ ha.kept hL (.of_node rfl ?_))
    rw [SessionWorld.command, Option.map_map]
    exact congrArg (Option.map · w.node.activeRequest) (funext hf)
  outcome w outcome message _ h :=
    holds_seen hL (h.write rfl fun a ha ↦ ha.kept hL (.of_node rfl rfl))
  aside w n hn h := h.write rfl fun a ha ↦ ha.kept hL (.of_node hn.fsm
    (congrArg (Option.map CommandRequest.command) hn.activeRequest))
  seen w h := holds_seen hL h
  evidence w value h := holds_seen hL (h.write rfl fun a ha ↦ ha.kept hL (.same rfl rfl rfl rfl))
  explored w h := holds_unnoted hL (fun _ ↦ ⟨rfl, trivial⟩) h
  returned w h := holds_unnoted hL (fun _ ↦ ⟨rfl, trivial⟩) h

end Frame

section Rules

def StageRuns {α : Type} (env : SessionEnvironment) (executing : Bool) (m : Session α)
    (C : StageAccount → SessionWorld → Prop) (Q : α → StageAccount → SessionWorld → Prop)
    (E : SessionException → StageAccount → SessionWorld → Prop) : Prop :=
  (stageLedger env.persistentRuntimeEnabled).Runs m (While executing C)
    (fun x ↦ While executing (Q x)) fun e ↦ While executing (E e)

variable {env : SessionEnvironment} {executing : Bool} {α β : Type}
  {C D : StageAccount → SessionWorld → Prop}
  {E F : SessionException → StageAccount → SessionWorld → Prop}
  {Q R : α → StageAccount → SessionWorld → Prop} {P : β → StageAccount → SessionWorld → Prop}

variable {m : Session α}

theorem StageRuns.bind {f : α → Session β} (h : StageRuns env executing m C R E)
    (hf : ∀ a, StageRuns env executing (f a) (R a) P E) : StageRuns env executing (m >>= f) C P E :=
  Ledger.Runs.bind h hf

theorem StageRuns.of_imp (h : StageRuns env executing m D Q E)
    (hC : ∀ a w, C a w → D a w) : StageRuns env executing m C Q E :=
  Ledger.Runs.of_imp h fun a w hw ↦ hw.imp (hC a w)

theorem StageRuns.imp (h : StageRuns env executing m C R F)
    (hQ : ∀ x a w, R x a w → Q x a w) (hE : ∀ e a w, F e a w → E e a w) :
    StageRuns env executing m C Q E :=
  Ledger.Runs.imp h (fun x a w hw ↦ hw.imp (hQ x a w)) fun e a w hw ↦ hw.imp (hE e a w)

theorem stageRuns_pure {x : α} (h : ∀ a w, C a w → Q x a w) :
    StageRuns env executing (pure x) C Q E :=
  Ledger.runs_pure fun a w hw ↦ hw.imp (h a w)

theorem stageRuns_raise {error : SessionException} (h : ∀ a w, C a w → E error a w) :
    StageRuns env executing (raise error) C Q E :=
  Ledger.runs_raise fun a w hw ↦ hw.imp (h a w)

theorem stageRuns_join {c : Prop} [Decidable c] {m : Session β} {k : Unit → Session β}
    (hk : StageRuns env executing (k ()) D P E)
    (h : c → StageRuns env executing (k ()) D P E → StageRuns env executing m C P E)
    (h' : ¬ c → ∀ a w, C a w → D a w) : StageRuns env executing (if c then m else k ()) C P E :=
  Ledger.runs_join hk h fun hc a w hw ↦ hw.imp (h' hc a w)

theorem stageRuns_keeping (h : Keeping (Preserves
    ((stageLedger env.persistentRuntimeEnabled).Holds (While executing C))) m)
    (hE : ∀ e a w, C a w → E e a w) : StageRuns env executing m C (fun _ ↦ C) E :=
  Ledger.runs_keeping h fun e a w hw ↦ hw.imp (hE e a w)

variable (hC : Lasting env executing C)

include hC

theorem stageRuns_look {g : SessionWorld → α} :
    StageRuns env executing (look env g) C (fun x a w ↦ C a w ∧ g w = x) E :=
  Ledger.Runs.imp (Ledger.runs_look (holds_stable hC))
    (fun _ _ _ hw ↦ ⟨hw.1.1, fun hsound ↦ ⟨hw.1.2 hsound, hw.2⟩⟩) fun _ _ _ ↦ id

theorem stageRuns_quiescenceFailed :
    StageRuns env executing (quiescenceFailed env) C (fun _ ↦ C) E := fun _ hw ↦
  (meets_interfere (holds_stable hC) hw).bind fun _ _ h ↦ meets_get_bind (meets_modify_bind
    (meets_pure (h.write rfl fun _ ha ↦ ha.kept hC (.of_node rfl rfl))))

theorem stageRuns_write (hD : Lasting env executing D)
    {g : SessionWorld → SessionWorld} (htrace : ∀ w, (g w).trace = w.trace)
    (h : ∀ a w, C a w → D a (g w)) : StageRuns env executing (write env g) C (fun _ ↦ D) E :=
  Ledger.runs_write (holds_stable hC) fun w hw ↦
    holds_seen hD (hw.write (htrace w) fun a ha ↦ ha.imp (h a w))

theorem stageRuns_setRequest {f : CommandRequest → CommandRequest}
    (hf : ∀ request, (f request).command = request.command) :
    StageRuns env executing (setRequest env f) C (fun _ ↦ C) E := by
  refine stageRuns_write hC hC (fun _ ↦ rfl) fun a w ↦ hC.kept a w _ (.of_node rfl ?_)
  rw [SessionWorld.command, Option.map_map]
  exact congrArg (Option.map · w.node.activeRequest) (funext hf)

theorem stageRuns_setMessage (message : String) :
    StageRuns env executing (setMessage env message) C (fun _ ↦ C) E :=
  stageRuns_setRequest hC fun _ ↦ rfl

theorem stageRuns_setOutcome (outcome : MissionOutcome) (message : String) :
    StageRuns env executing (setOutcome env outcome message) C (fun _ ↦ C) E :=
  stageRuns_write hC hC (fun _ ↦ rfl) fun a w ↦ hC.kept a w _ (.of_node rfl rfl)

theorem stageRuns_canceled (point : CancelPoint) :
    StageRuns env executing (canceled env point) C (fun _ ↦ C) E := by
  refine (stageRuns_look hC).bind fun value w hw ↦ meets_modify_bind (meets_pure ?_)
  exact holds_unnoted hC (fun _ ↦ ⟨rfl, trivial⟩) (hw.imp fun a ha ↦ ha.imp And.left)

theorem stageRuns_transition (hD : Lasting env executing D)
    {phase : SessionPhase} {detail : String} {mapSaved : Option Bool} {mapYamlPath : Option String}
    (h : ∀ a w n, n.fsm.phase = phase → n.activeRequest.map CommandRequest.command = w.command →
      C a w → D a (w.withNode n)) :
    StageRuns env executing (transition env phase detail mapSaved mapYamlPath) C (fun _ ↦ D) E := by
  refine Ledger.runs_write (holds_stable hC) fun w hw ↦ ?_
  have hafter := hw.write (v := w.withNode (w.node.transition phase detail mapSaved mapYamlPath))
    rfl fun a ha ↦ ha.imp (h a w _ rfl
      (congrArg (Option.map CommandRequest.command) (transition_request ..)))
  exact holds_seen hD (holds_unnoted hD (fun _ ↦ ⟨rfl, trivial⟩) hafter)

theorem stageRuns_port (hD : Lasting env executing D) {call : SessionCall}
    (hok : ∀ (a : StageAccount) w, C a w → D { a with standing := a.afterCall call true } w)
    (herror : ∀ (a : StageAccount) w error, C a w →
      E (call.raises error) { a with standing := a.afterCall call false } w)
    (hE : ∀ e, Lasting env executing (E e)) :
    StageRuns env executing (port env call) C (fun _ ↦ D) E := by
  refine Ledger.runs_port (holds_stable hC) (fun w reply hw ↦ ?_) fun w error hw ↦ ?_
  · refine hw.log (fun _ _ ↦ trivial) fun a ha ↦ ⟨ha.1, fun hsound ↦ ?_⟩
    exact hD.kept _ w _ (.same rfl rfl rfl rfl) (hok a w (ha.2 hsound))
  · refine hw.log (fun _ _ ↦ trivial) fun a ha ↦ ⟨ha.1, fun hsound ↦ ?_⟩
    exact (hE _).kept _ w _ (.same rfl rfl rfl rfl) (herror a w error (ha.2 hsound))

end Rules

section Stages

def Unready (phase : SessionPhase) : Prop :=
  phase ≠ .mapping ∧ phase ≠ .mapSaved ∧ phase ≠ .navigating ∧ phase ≠ .missionCompleted

instance (phase : SessionPhase) : Decidable (Unready phase) :=
  inferInstanceAs (Decidable (_ ∧ _))

theorem Unready.kept {w w' : SessionWorld} (hkept : Kept w w') (h : Unready w.node.fsm.phase) :
    Unready w'.node.fsm.phase := by
  rcases hkept.phase with hphase | hphase | hphase
  · rw [hphase]
    exact h
  · rw [hphase]
    decide
  · rw [hphase]
    decide

theorem Unready.tellsTruth {phase : SessionPhase} (h : Unready phase) (env : SessionEnvironment)
    (a : StageAccount) : a.TellsTruth env.persistentRuntimeEnabled phase :=
  ⟨fun hphase ↦ absurd hphase (not_or.mpr ⟨h.1, h.2.1⟩),
    fun hphase ↦ absurd hphase (not_or.mpr ⟨h.2.2.1, h.2.2.2⟩)⟩

structure Started (K : SessionWorld → Prop) (stage : String) (waits : List SessionCall)
    (a : StageAccount) (w : SessionWorld) : Prop where
  around : K w
  named : w.stage = stage
  standing : a.standing = some (stage, waits)

variable {env : SessionEnvironment} {executing : Bool} {K : SessionWorld → Prop} {stage : String}
  {waits : List SessionCall} {E : SessionException → StageAccount → SessionWorld → Prop}
  (hK : Lasting env executing fun _ ↦ K)
  (hE : ∀ e, Lasting env executing (E e))

include hK

theorem started_lasting : Lasting env executing (Started K stage waits) where
  kept a w w' hkept h := ⟨hK.kept a w w' hkept h.around, hkept.stage.trans h.named, h.standing⟩
  truth hidle a w h := hK.truth hidle a w h.around

include hE

theorem call_runs (call : SessionCall) (hraised : ∀ a w message, K w → E (.raised message) a w)
    (hcall : call.forRequest = false) :
    StageRuns env executing (port env call) (fun _ ↦ K) (fun _ _ ↦ K) E := by
  refine stageRuns_port hK hK (fun _ _ h ↦ h) (fun a w error h ↦ ?_) hE
  have hraises : call.raises error = .raised error.message := by
    cases error <;> simp [SessionCall.raises, hcall, SessionException.message]
  rw [hraises]
  exact hraised _ w _ h

variable (hraised : ∀ a w message, K w → E (.raised message) a w)
  (hstage : ∀ w, K w → K (w.withStage ""))

include hraised hstage

theorem stopStage_runs (cause : StopCause) : StageRuns env executing (stopStage env cause)
    (fun _ ↦ K) (fun _ _ w ↦ K w ∧ w.stage = "") E := by
  have hstopped : Lasting env executing fun _ w ↦ K w ∧ w.stage = "" :=
    ⟨fun a w w' hkept h ↦ ⟨hK.kept a w w' hkept h.1, hkept.stage.trans h.2⟩,
      fun hidle a w h ↦ hK.truth hidle a w h.1⟩
  refine (call_runs hK hE _ hraised rfl).bind fun _ ↦ StageRuns.bind (R := fun _ _ w ↦ K w ∧
    w.stage = "") ?_ fun _ ↦ ?_
  · exact stageRuns_write hK hstopped (fun _ ↦ rfl) fun _ w h ↦ ⟨hstage w h, rfl⟩
  · exact call_runs hstopped hE _ (fun a w message h ↦ hraised a w message h.1) rfl

theorem startStage_runs (hnamed : ∀ w, K w → K (w.withStage stage)) :
    StageRuns env executing (startStage env stage) (fun _ ↦ K) (fun _ ↦ Started K stage []) E := by
  have hspawned : Lasting env executing fun a w ↦ K w ∧ a.standing = some (stage, []) :=
    ⟨fun a w w' hkept h ↦ ⟨hK.kept a w w' hkept h.1, h.2⟩, fun hidle a w h ↦ hK.truth hidle a w h.1⟩
  refine (call_runs hK hE (.openStage stage) hraised rfl).bind fun (exited : Bool) ↦ ?_
  extract_lets opened
  have hopened : StageRuns env executing (opened ()) (fun _ ↦ K)
    (fun _ ↦ Started K stage []) E := by
    refine (stageRuns_look hK).bind fun mapPath ↦ StageRuns.bind
      (R := fun _ a w ↦ K w ∧ a.standing = some (stage, [])) ?_ fun _ ↦ ?_
    · refine StageRuns.of_imp (D := fun _ ↦ K) ?_ fun _ _ h ↦ h.1
      refine stageRuns_port hK hspawned (fun a w h ↦ ⟨h, rfl⟩) (fun a w error h ↦ ?_) hE
      have hraises : (SessionCall.spawnStage stage mapPath).raises error =
        .raised error.message := by
        cases error <;> rfl
      rw [hraises]
      exact hraised _ w _ h
    · exact stageRuns_write hspawned (started_lasting hK) (fun _ ↦ rfl)
        fun _ w h ↦ ⟨hnamed w h.1, rfl, h.2⟩
  refine stageRuns_join hopened (fun _ hk ↦ ?_) fun _ _ _ h ↦ h
  exact (call_runs hK hE _ hraised rfl).bind fun _ ↦
    (stageRuns_write hK hK (g := (·.withStage "")) (fun _ ↦ rfl) fun _ ↦ hstage).bind fun _ ↦ hk

omit hraised hstage in
theorem wait_runs {call : SessionCall} (hraised : ∀ a w error, K w → E (call.raises error) a w)
    (hwait : ∀ a : StageAccount, a.afterCall call true =
      a.standing.map fun standing ↦ (standing.1, standing.2 ++ [call])) :
    StageRuns env executing (port env call) (Started K stage waits)
      (fun _ ↦ Started K stage (waits ++ [call])) E := by
  refine stageRuns_port (started_lasting hK) (started_lasting hK) (fun a w h ↦ ?_)
    (fun a w error h ↦ hraised _ w error h.around) hE
  refine ⟨h.around, h.named, ?_⟩
  rw [hwait a, h.standing]
  rfl

end Stages

section Contents

variable (env : SessionEnvironment) (command : SessionCommand) (stage : String)

structure Named (a : StageAccount) (w : SessionWorld) : Prop where
  named : w.stage = stage
  ready : a.Ready env.persistentRuntimeEnabled stage

def Truthful (a : StageAccount) (w : SessionWorld) : Prop :=
  (w.node.fsm.phase = .mapping ∨ w.node.fsm.phase = .mapSaved → Named env "mapping" a w) ∧
    (w.node.fsm.phase = .navigating ∨ w.node.fsm.phase = .missionCompleted →
      Named env "navigation" a w)

def Recoverable (a : StageAccount) (w : SessionWorld) : Prop :=
  w.stage ≠ "" → Named env "mapping" a w ∨ Named env "navigation" a w

structure Backed (a : StageAccount) (w : SessionWorld) : Prop where
  command : w.command = some command
  truthful : Truthful env a w
  named : Named env stage a w

def Abandoned : SessionException → StageAccount → SessionWorld → Prop
  | .automaticMissionCancelled _, a, w => Recoverable env a w ∧ Truthful env a w
  | _, a, w => (command = .runAutomaticMission →
      w.navigationStartupFailurePending = true ∨ Recoverable env a w) ∧
    (w.node.fsm.phase = .mapping → Named env "mapping" a w)

variable {env command stage} {a : StageAccount} {w w' : SessionWorld}

theorem Named.kept (hkept : Kept w w') (h : Named env stage a w) : Named env stage a w' :=
  ⟨hkept.stage.trans h.named, h.ready⟩

theorem Truthful.tellsTruth (h : Truthful env a w) :
    a.TellsTruth env.persistentRuntimeEnabled w.node.fsm.phase :=
  ⟨fun hphase ↦ (h.1 hphase).ready, fun hphase ↦ (h.2 hphase).ready⟩

theorem truthful_of_unready (h : Unready w.node.fsm.phase) : Truthful env a w :=
  ⟨fun hphase ↦ absurd hphase (not_or.mpr ⟨h.1, h.2.1⟩),
    fun hphase ↦ absurd hphase (not_or.mpr ⟨h.2.2.1, h.2.2.2⟩)⟩

theorem Truthful.of_same {a' : StageAccount} (h : Truthful env a w)
    (hstage : w'.stage = w.stage) (hphase : w'.node.fsm.phase = w.node.fsm.phase)
    (hstanding : a'.standing = a.standing) : Truthful env a' w' := by
  have hnamed : ∀ stage, Named env stage a w → Named env stage a' w' :=
    fun _ h ↦ ⟨hstage.trans h.named, hstanding.trans h.ready⟩
  refine ⟨fun hready ↦ hnamed _ (h.1 ?_), fun hready ↦ hnamed _ (h.2 ?_)⟩
  · rwa [hphase] at hready
  · rwa [hphase] at hready

theorem Truthful.kept (hkept : Kept w w') (h : Truthful env a w) : Truthful env a w' := by
  rcases hkept.phase with hphase | hphase | hphase
  · exact h.of_same hkept.stage hphase rfl
  · refine truthful_of_unready ?_
    rw [hphase]
    decide
  · refine truthful_of_unready ?_
    rw [hphase]
    decide

theorem Recoverable.of_stage (h : Recoverable env a w) (hstage : w'.stage = w.stage) :
    Recoverable env a w' := by
  intro hne
  rw [hstage] at hne
  exact (h hne).imp (fun h ↦ ⟨hstage.trans h.named, h.ready⟩) fun h ↦
    ⟨hstage.trans h.named, h.ready⟩

theorem Recoverable.kept (hkept : Kept w w') (h : Recoverable env a w) : Recoverable env a w' :=
  h.of_stage hkept.stage

theorem Backed.kept (hkept : Kept w w') (h : Backed env command stage a w) :
    Backed env command stage a w' :=
  ⟨hkept.command.trans h.command, h.truthful.kept hkept, h.named.kept hkept⟩

theorem Abandoned.kept {error : SessionException} (hkept : Kept w w')
    (h : Abandoned env command error a w) : Abandoned env command error a w' := by
  have hother : ((command = .runAutomaticMission →
        w.navigationStartupFailurePending = true ∨ Recoverable env a w) ∧
      (w.node.fsm.phase = .mapping → Named env "mapping" a w)) →
      (command = .runAutomaticMission →
        w'.navigationStartupFailurePending = true ∨ Recoverable env a w') ∧
      (w'.node.fsm.phase = .mapping → Named env "mapping" a w') := by
    rintro ⟨hrun, hmapping⟩
    refine ⟨fun hcommand ↦ (hrun hcommand).imp hkept.pending.trans (.kept hkept), fun hphase ↦ ?_⟩
    rcases hkept.phase with hsame | hfailed | hquiescing
    · exact (hmapping (hsame.symm.trans hphase)).kept hkept
    · cases hfailed.symm.trans hphase
    · cases hquiescing.symm.trans hphase
  cases error with
  | automaticMissionCancelled message => exact ⟨h.1.kept hkept, h.2.kept hkept⟩
  | persistentStageSwitchInterrupted message => exact hother h
  | raised message => exact hother h

theorem abandoned_of_recoverable (hrecoverable : Recoverable env a w)
    (htruthful : Truthful env a w) (error : SessionException) :
    Abandoned env command error a w := by
  cases error with
  | automaticMissionCancelled message => exact ⟨hrecoverable, htruthful⟩
  | persistentStageSwitchInterrupted message | raised message =>
    exact ⟨fun _ ↦ .inr hrecoverable, fun hphase ↦ htruthful.1 (.inl hphase)⟩

theorem Backed.recoverable (h : Backed env command stage a w)
    (hstage : stage = "mapping" ∨ stage = "navigation") : Recoverable env a w := fun _ ↦ by
  rcases hstage with rfl | rfl
  · exact .inl h.named
  · exact .inr h.named

theorem lasting_running {C : StageAccount → SessionWorld → Prop}
    (h : ∀ a w w', Kept w w' → C a w → C a w') : Lasting env true C :=
  ⟨h, fun hidle ↦ by cases hidle⟩

theorem backed_lasting : Lasting env true (Backed env command stage) :=
  lasting_running fun _ _ _ ↦ Backed.kept

theorem abandoned_lasting (error : SessionException) :
    Lasting env true (Abandoned env command error) :=
  lasting_running fun _ _ _ ↦ Abandoned.kept

theorem truthful_lasting (executing : Bool) : Lasting env executing (Truthful env) :=
  ⟨fun _ _ _ ↦ Truthful.kept, fun _ _ _ ↦ Truthful.tellsTruth⟩

theorem Backed.mapping_allows {phase : SessionPhase} (hnavigating : phase ≠ .navigating)
    (hcompleted : phase ≠ .missionCompleted) : Allows (Backed env command "mapping") phase := by
  intro a w n hphase hcommand h
  refine ⟨hcommand.trans h.command, ⟨fun _ ↦ ⟨h.named.named, h.named.ready⟩, fun hready ↦ ?_⟩,
    ⟨h.named.named, h.named.ready⟩⟩
  rw [SessionWorld.withNode, hphase] at hready
  exact absurd hready (not_or.mpr ⟨hnavigating, hcompleted⟩)

theorem Backed.navigation_allows {phase : SessionPhase} (hmapping : phase ≠ .mapping)
    (hsaved : phase ≠ .mapSaved) : Allows (Backed env command "navigation") phase := by
  intro a w n hphase hcommand h
  refine ⟨hcommand.trans h.command, ⟨fun hready ↦ ?_, fun _ ↦ ⟨h.named.named, h.named.ready⟩⟩,
    ⟨h.named.named, h.named.ready⟩⟩
  rw [SessionWorld.withNode, hphase] at hready
  exact absurd hready (not_or.mpr ⟨hmapping, hsaved⟩)

end Contents

section StageSwitch

variable (env : SessionEnvironment) (command : SessionCommand)

structure Replacing (w : SessionWorld) : Prop where
  phase : Unready w.node.fsm.phase
  command : w.command = some command
  replaced : w.stageReplaced = env.persistentRuntimeEnabled

structure Vacated (w : SessionWorld) : Prop extends Replacing env command w where
  vacated : w.stage = "" ∨ w.stage = "navigation"

def SwitchLeft : SessionException → StageAccount → SessionWorld → Prop
  | .automaticMissionCancelled _, a, w => Unready w.node.fsm.phase ∧ w.command = some command ∧
    (w.stageReplaced = false → Recoverable env a w) ∧
    (w.stageReplaced = true → w.stage = "" ∨ w.stage = "navigation")
  | _, a, w => Unready w.node.fsm.phase ∧
    (w.stageReplaced = false → env.persistentRuntimeEnabled = true → Recoverable env a w)

variable {env command} {w w' : SessionWorld} {a : StageAccount}

theorem Replacing.kept (hkept : Kept w w') (h : Replacing env command w) :
    Replacing env command w' :=
  ⟨h.phase.kept hkept, hkept.command.trans h.command, hkept.replaced.trans h.replaced⟩

theorem Vacated.kept (hkept : Kept w w') (h : Vacated env command w) : Vacated env command w' := by
  refine ⟨h.toReplacing.kept hkept, ?_⟩
  rw [hkept.stage]
  exact h.vacated

theorem SwitchLeft.kept {error : SessionException} (hkept : Kept w w')
    (h : SwitchLeft env command error a w) : SwitchLeft env command error a w' := by
  have hother : (Unready w.node.fsm.phase ∧
      (w.stageReplaced = false → env.persistentRuntimeEnabled = true → Recoverable env a w)) →
      Unready w'.node.fsm.phase ∧
      (w'.stageReplaced = false → env.persistentRuntimeEnabled = true → Recoverable env a w') := by
    rintro ⟨hphase, hrecoverable⟩
    refine ⟨hphase.kept hkept, fun hreplaced hpersistent ↦ ?_⟩
    exact (hrecoverable (hkept.replaced.symm.trans hreplaced) hpersistent).kept hkept
  cases error with
  | automaticMissionCancelled message =>
    obtain ⟨hphase, hcommand, hrecoverable, hvacated⟩ := h
    refine ⟨hphase.kept hkept, hkept.command.trans hcommand, fun hreplaced ↦ ?_, fun hreplaced ↦ ?_⟩
    · exact (hrecoverable (hkept.replaced.symm.trans hreplaced)).kept hkept
    · rw [hkept.stage]
      exact hvacated (hkept.replaced.symm.trans hreplaced)
  | persistentStageSwitchInterrupted message => exact hother h
  | raised message => exact hother h

theorem switchLeft_lasting (error : SessionException) :
    Lasting env true (SwitchLeft env command error) :=
  lasting_running fun _ _ _ ↦ SwitchLeft.kept

theorem vacated_lasting : Lasting env true fun _ ↦ Vacated env command :=
  lasting_running fun _ _ _ ↦ Vacated.kept

theorem Replacing.left (h : Replacing env command w) (message : String) :
    SwitchLeft env command (.raised message) a w := by
  refine ⟨h.phase, fun hreplaced hpersistent ↦ ?_⟩
  rw [h.replaced, hpersistent] at hreplaced
  cases hreplaced

theorem Vacated.interrupted (h : Vacated env command w)
    (hrecoverable : env.persistentRuntimeEnabled = false → Recoverable env a w)
    (error : SessionException) : SwitchLeft env command error a w := by
  cases error with
  | automaticMissionCancelled message =>
    exact ⟨h.phase, h.command, fun hreplaced ↦ hrecoverable (h.replaced.symm.trans hreplaced),
      fun _ ↦ h.vacated⟩
  | persistentStageSwitchInterrupted message | raised message =>
    refine ⟨h.phase, fun hreplaced hpersistent ↦ ?_⟩
    rw [h.replaced, hpersistent] at hreplaced
    cases hreplaced

theorem recoverable_of_empty (h : w.stage = "") : Recoverable env a w :=
  fun hstage ↦ absurd h hstage

theorem Vacated.withStage {stage : String} (h : Vacated env command w)
    (hstage : stage = "" ∨ stage = "navigation") : Vacated env command (w.withStage stage) :=
  ⟨⟨h.phase, h.command, h.replaced⟩, hstage⟩

theorem startNavigationStage_runs {l : List SessionCall}
    (hl : l ++ [.waitForNewReady] ++ (if env.persistentRuntimeEnabled = true then
      [.waitPersistentNavigationReady] else []) =
      readinessWaits env.persistentRuntimeEnabled "navigation") : StageRuns env true (do
        port env .waitForNewReady
        cancelIf env .ready "control authority changed before navigation readiness"
        if env.persistentRuntimeEnabled = true then port env .waitPersistentNavigationReady)
      (Started (Vacated env command) "navigation" l)
      (fun _ ↦ Started (Vacated env command) "navigation"
        (readinessWaits env.persistentRuntimeEnabled "navigation")) (SwitchLeft env command) := by
  have hvacated := @vacated_lasting env command
  have hleft := @switchLeft_lasting env command
  have hstarted : ∀ l, Lasting env true (Started (Vacated env command) "navigation" l) :=
    fun _ ↦ started_lasting hvacated
  refine (wait_runs hvacated hleft (fun a w error h ↦ ?_) fun _ ↦ rfl).bind fun _ ↦ ?_
  · cases error <;> exact h.left _
  refine (stageRuns_keeping (cancelIf_keeping (holds_frame (hstarted _)) _ _)
    fun e a w h ↦ h.around.interrupted (fun hcompat _ ↦ ?_) e).bind fun _ ↦ Ledger.runs_ite
      (fun hpersistent ↦ ?_) fun hcompat ↦ ?_
  · refine .inr ⟨h.named, h.standing.trans ?_⟩
    rw [← hl, hcompat]
    simp
  · rw [← hl, if_pos hpersistent]
    refine wait_runs hvacated hleft
      (fun a w error h ↦ h.interrupted (fun hcompat ↦ ?_) _) fun _ ↦ rfl
    cases hpersistent.symm.trans hcompat
  · refine stageRuns_pure fun a w h ↦ ?_
    rw [← hl, if_neg hcompat, List.append_nil]
    exact h

theorem replaceStage_runs (mapYamlPath : String)
    {C : StageAccount → SessionWorld → Prop} (hC : Lasting env true C)
    (hphase : ∀ a w, C a w → Unready w.node.fsm.phase ∧ w.command = some command) :
    StageRuns env true (replaceStage env mapYamlPath) C
      (fun _ ↦ Started (Vacated env command) "navigation"
        (readinessWaits env.persistentRuntimeEnabled "navigation")) (SwitchLeft env command) := by
  have hreplacing : Lasting env true fun _ ↦ Replacing env command :=
    lasting_running fun _ _ _ ↦ Replacing.kept
  have hvacated := @vacated_lasting env command
  have hleft := @switchLeft_lasting env command
  have hstopped : Lasting env true fun _ w ↦ Replacing env command w ∧ w.stage = "" :=
    lasting_running fun _ _ _ hkept h ↦ ⟨h.1.kept hkept, hkept.stage.trans h.2⟩
  unfold replaceStage
  extract_lets started prepared
  have hprepared : StageRuns env true (prepared ()) (fun _ ↦ Vacated env command) (fun _ ↦ Started
        (Vacated env command) "navigation"
        (readinessWaits env.persistentRuntimeEnabled "navigation"))
      (SwitchLeft env command) := by
    refine (stageRuns_transition hvacated hvacated fun a w n hphase hcommand h ↦ ⟨⟨?_,
      hcommand.trans h.command, h.replaced⟩, h.vacated⟩).bind fun _ ↦ ?_
    · show Unready n.fsm.phase
      rw [hphase]
      decide
    refine (call_runs hvacated hleft .feedback (fun _ _ _ h ↦ h.left _) rfl).bind fun _ ↦ ?_
    refine (startStage_runs hvacated hleft (fun _ _ _ h ↦ h.left _)
      (fun _ h ↦ h.withStage (.inl rfl)) fun _ h ↦ h.withStage (.inr rfl)).bind fun _ ↦ ?_
    refine Ledger.runs_ite (fun hpersistent ↦ ?_) fun hcompat ↦ ?_
    · refine (wait_runs hvacated hleft (fun a w error h ↦ ?_) fun _ ↦ rfl).bind fun _ ↦
        startNavigationStage_runs ?_
      · cases error <;> exact h.left _
      · rw [readinessWaits, if_pos hpersistent, if_pos hpersistent]
        rfl
    · refine startNavigationStage_runs ?_
      rw [readinessWaits, if_neg hcompat, if_neg hcompat]
      rfl
  refine (stageRuns_write hC hreplacing
    (g := fun w ↦ { w with stageReplaced := env.persistentRuntimeEnabled }) (fun _ ↦ rfl)
    fun a w h ↦ ⟨(hphase a w h).1, (hphase a w h).2, rfl⟩).bind fun _ ↦ ?_
  refine (stopStage_runs hreplacing hleft (fun _ _ _ h ↦ h.left _)
    (fun _ h ↦ ⟨h.phase, h.command, h.replaced⟩) .replaced).bind fun _ ↦ ?_
  refine (stageRuns_keeping (cancelIf_keeping (holds_frame hstopped) _ _) fun e a w h ↦
    Vacated.interrupted ⟨h.1, .inl h.2⟩ (fun _ ↦ recoverable_of_empty h.2) e).bind fun _ ↦ ?_
  refine stageRuns_join hprepared (fun _ hk ↦ ?_) fun _ _ _ h ↦ ⟨h.1, .inl h.2⟩
  refine StageRuns.of_imp (D := fun _ ↦ Vacated env command) ?_ fun _ _ h ↦ ⟨h.1, .inl h.2⟩
  refine StageRuns.bind (R := fun _ _ ↦ Vacated env command) ?_ fun _ ↦ hk
  exact (call_runs hvacated hleft _ (fun _ _ _ h ↦ h.left _) rfl).bind fun _ ↦
    stageRuns_write hvacated hvacated (fun _ ↦ rfl) fun _ _ h ↦
      ⟨⟨h.phase, h.command, h.replaced⟩, h.vacated⟩

structure Unreplaced (env : SessionEnvironment) (command : SessionCommand) (a : StageAccount)
    (w : SessionWorld) : Prop where
  phase : Unready w.node.fsm.phase
  command : w.command = some command
  recoverable : Recoverable env a w
  unreplaced : w.stageReplaced = false

structure Replaced (env : SessionEnvironment) (command : SessionCommand) (a : StageAccount)
    (w : SessionWorld) : Prop where
  phase : Unready w.node.fsm.phase
  command : w.command = some command
  vacated : w.stage = "navigation"
  ready : a.Ready env.persistentRuntimeEnabled "navigation"

theorem unreplaced_lasting : Lasting env true (Unreplaced env command) :=
  lasting_running fun _ _ _ hkept h ↦ ⟨h.phase.kept hkept, hkept.command.trans h.command,
    h.recoverable.kept hkept, hkept.replaced.trans h.unreplaced⟩

theorem replaced_lasting : Lasting env true (Replaced env command) :=
  lasting_running fun _ _ _ hkept h ↦ ⟨h.phase.kept hkept, hkept.command.trans h.command,
    hkept.stage.trans h.vacated, h.ready⟩

theorem Unreplaced.left (h : Unreplaced env command a w) (error : SessionException) :
    SwitchLeft env command error a w := by
  cases error with
  | automaticMissionCancelled message =>
    refine ⟨h.phase, h.command, fun _ ↦ h.recoverable, fun hreplaced ↦ ?_⟩
    cases h.unreplaced.symm.trans hreplaced
  | persistentStageSwitchInterrupted message | raised message =>
    exact ⟨h.phase, fun _ _ ↦ h.recoverable⟩

theorem Replaced.left (h : Replaced env command a w) (error : SessionException) :
    SwitchLeft env command error a w := by
  have hrecoverable : Recoverable env a w := fun _ ↦ .inr ⟨h.vacated, h.ready⟩
  cases error with
  | automaticMissionCancelled message =>
    exact ⟨h.phase, h.command, fun _ ↦ hrecoverable, fun _ ↦ .inr h.vacated⟩
  | persistentStageSwitchInterrupted message | raised message =>
    exact ⟨h.phase, fun _ _ ↦ hrecoverable⟩

theorem switchStage_runs (fuel : ℕ) (mapYamlPath : String) :
    StageRuns env true (switchStage env fuel mapYamlPath) (Unreplaced env command)
      (fun _ ↦ Replaced env command) (SwitchLeft env command) := by
  have hunreplaced := @unreplaced_lasting env command
  have hreplaced := @replaced_lasting env command
  refine (stageRuns_keeping (holdStage_keeping (holds_frame hunreplaced) uninvolved_of_quiet)
    fun e _ _ h ↦ h.left e).bind fun switchIdentity ↦ ?_
  refine StageRuns.bind (R := fun _ ↦ Replaced env command)
    ((replaceStage_runs mapYamlPath hunreplaced fun _ _ h ↦ ⟨h.phase, h.command⟩).imp
      (fun _ _ _ h ↦ ⟨h.around.phase, h.around.command, h.named, h.standing⟩) fun _ _ _ ↦ id)
    fun _ ↦ ?_
  cases switchIdentity with
  | none => exact stageRuns_pure fun _ _ ↦ id
  | some identity =>
    refine (stageRuns_keeping (cancelIf_keeping (holds_frame hreplaced) _ _)
      fun e _ _ h ↦ h.left e).bind fun _ ↦ ?_
    exact stageRuns_keeping (resumeInternalStageSwitch_keeping (holds_frame hreplaced)
      uninvolved_of_quiet fuel identity) fun e _ _ h ↦ h.left e

end StageSwitch

section Cleanup

variable {env : SessionEnvironment} {command : SessionCommand}

theorem cleanup_runs {E : SessionException → StageAccount → SessionWorld → Prop} :
    StageRuns env true (cleanupFailedNavigationStartup env) (fun _ w ↦ w.node.fsm.phase ≠ .mapping)
      (fun _ _ w ↦ w.node.fsm.phase ≠ .mapping ∧ w.navigationStartupFailurePending = true) E := by
  have hphase : ∀ {w w'}, Kept w w' → w.node.fsm.phase ≠ .mapping →
      w'.node.fsm.phase ≠ .mapping := by
    intro w w' hkept h
    rcases hkept.phase with hsame | hfailed | hquiescing
    · rwa [hsame]
    · rw [hfailed]
      decide
    · rw [hquiescing]
      decide
  have hbefore : Lasting env true
      fun _ w ↦ w.node.fsm.phase ≠ .mapping := lasting_running fun _ _ _ ↦ hphase
  have hafter : Lasting env true fun _ w ↦
      w.node.fsm.phase ≠ .mapping ∧ w.navigationStartupFailurePending = true :=
    lasting_running fun _ _ _ hkept h ↦ ⟨hphase hkept h.1, hkept.pending.trans h.2⟩
  refine (stageRuns_write hbefore hafter (g := fun w ↦
    { w with navigationStartupFailurePending := true }) (fun _ ↦ rfl)
    fun _ _ h ↦ ⟨h, rfl⟩).bind fun _ ↦ ?_
  refine Ledger.Runs.handle (F := fun _ ↦ While true fun _ w ↦
    w.node.fsm.phase ≠ .mapping ∧ w.navigationStartupFailurePending = true) ?_ fun _ ↦
    stageRuns_pure fun _ _ ↦ id
  exact (stopStage_runs hafter (fun _ ↦ hafter) (fun _ _ _ ↦ id) (fun _ ↦ id) .cleanup).imp
    (fun _ _ _ h ↦ h.1) fun _ _ _ ↦ id

theorem Abandoned.of_pending {env : SessionEnvironment} {a : StageAccount} {w : SessionWorld}
    {error : SessionException} (herror : ∀ message, error ≠ .automaticMissionCancelled message)
    (h : w.node.fsm.phase ≠ .mapping ∧ w.navigationStartupFailurePending = true) :
    Abandoned env command error a w := by
  cases error with
  | automaticMissionCancelled message => exact absurd rfl (herror message)
  | persistentStageSwitchInterrupted message | raised message =>
    exact ⟨fun _ ↦ .inl h.2, fun hphase ↦ absurd hphase h.1⟩

theorem waitNavigationReady_runs : StageRuns env true (waitNavigationReady env)
    (Backed env command "navigation") (fun _ ↦ Backed env command "navigation")
    (Abandoned env command) := by
  have hbacked := @backed_lasting env command "navigation"
  refine Ledger.Runs.handle (F := fun _ ↦ While true (Backed env command "navigation"))
    (stageRuns_keeping (port_keeping (holds_frame hbacked) (uninvolved_of_quiet _ rfl))
      fun _ _ _ ↦ id) fun error ↦ ?_
  have hcleanup : ∀ error : SessionException,
    (∀ message, error ≠ .automaticMissionCancelled message) →
      StageRuns env true (cleanupFailedNavigationStartup env >>= fun _ ↦ raise error : Session Unit)
        (Backed env command "navigation")
        (fun _ ↦ Backed env command "navigation")
        (Abandoned env command) := by
    intro error herror
    refine (cleanup_runs.of_imp fun a w h hphase ↦ ?_).bind fun _ ↦
      stageRuns_raise fun _ _ h ↦ .of_pending herror h
    have hready := (h.truthful.1 (.inl hphase)).ready
    rw [StageAccount.Ready, h.named.ready] at hready
    exact absurd (Prod.mk.inj (Option.some.inj hready)).1 (by decide)
  cases error with
  | automaticMissionCancelled message =>
    exact stageRuns_raise fun _ _ h ↦ ⟨h.recoverable (.inr rfl), h.truthful⟩
  | persistentStageSwitchInterrupted message => exact hcleanup _ fun _ h ↦ by cases h
  | raised message => exact hcleanup _ fun _ h ↦ by cases h

variable {Q : Unit → StageAccount → SessionWorld → Prop}

theorem interruptSwitch_runs : StageRuns env true (interruptSwitch env)
      (fun _ w ↦ Unready w.node.fsm.phase ∧ w.command = some command ∧
        (w.stage = "" ∨ w.stage = "navigation")) Q (Abandoned env command) := by
  have hvacated : Lasting env true fun _ w ↦ Unready w.node.fsm.phase ∧ w.command = some command ∧
        (w.stage = "" ∨ w.stage = "navigation") := lasting_running fun _ _ _ hkept h ↦ by
    rw [hkept.stage]
    exact ⟨h.1.kept hkept, hkept.command.trans h.2.1, h.2.2⟩
  have hpending : Lasting env true fun _ w ↦
      Unready w.node.fsm.phase ∧ w.navigationStartupFailurePending = true :=
    lasting_running fun _ _ _ hkept h ↦ ⟨h.1.kept hkept, hkept.pending.trans h.2⟩
  refine StageRuns.bind (R := fun _ _ w ↦ Unready w.node.fsm.phase ∧ w.command = some command ∧
    (w.stage = "" ∨ w.stage = "navigation")) ?_ fun _ ↦ (stageRuns_write hvacated hpending
      (g := fun w ↦ { w with navigationStartupFailurePending := true }) (fun _ ↦ rfl)
      fun _ _ h ↦ ⟨h.1, rfl⟩).bind fun _ ↦ stageRuns_raise fun _ _ h ↦
      ⟨fun _ ↦ .inl h.2, fun hphase ↦ absurd hphase h.1.1⟩
  refine Ledger.Runs.handle (F := fun e ↦ While true fun _ w ↦ (∃ message, e = .raised message) ∧
      Unready w.node.fsm.phase ∧ w.command = some command ∧
        (w.stage = "" ∨ w.stage = "navigation")) ?_ fun error w hw ↦ ?_
  · refine (stopStage_runs hvacated (fun e ↦ ?_) (fun _ _ message h ↦ ⟨⟨message, rfl⟩, h⟩)
      (fun w h ↦ ⟨h.1, h.2.1, .inl rfl⟩) .interrupted).imp (fun _ _ _ h ↦ h.1) fun _ _ _ ↦ id
    exact lasting_running fun a w w' hkept h ↦ ⟨h.1, hvacated.kept a w w' hkept h.2⟩
  · refine meets_get_bind (meets_modify_bind (meets_raise ?_))
    refine hw.log (fun _ _ ↦ trivial) fun a ha ↦ ⟨ha.1, fun hsound ↦ ?_⟩
    obtain ⟨hold, hnavigation⟩ := Bool.and_eq_true_iff.mp hsound
    obtain ⟨⟨message, rfl⟩, hphase, hcommand, hstage⟩ := ha.2 hold
    refine ⟨fun hrun ↦ .inr fun hne ↦ .inr ?_, fun hmapping ↦ absurd hmapping hphase.1⟩
    have hnamed := hstage.resolve_left hne
    refine ⟨hnamed, of_decide_eq_true hnavigation ?_ hnamed⟩
    rw [hcommand, hrun]

theorem cleanupSwitch_runs {replaced : Bool}
    {error : SessionException} (herror : ∀ message, error ≠ .automaticMissionCancelled message) :
    StageRuns env true (cleanupSwitch env replaced error)
      (fun a w ↦ Unready w.node.fsm.phase ∧ (replaced = false →
        env.persistentRuntimeEnabled = true → Recoverable env a w)) Q (Abandoned env command) := by
  have hleft : Lasting env true fun a w ↦ Unready w.node.fsm.phase ∧
      (replaced = false → env.persistentRuntimeEnabled = true → Recoverable env a w) :=
    lasting_running fun _ _ _ hkept h ↦ ⟨h.1.kept hkept, fun hr hp ↦ (h.2 hr hp).kept hkept⟩
  unfold cleanupSwitch
  extract_lets raised cleaned
  have hcleaned : StageRuns env true (cleaned ()) (fun a w ↦ Unready w.node.fsm.phase ∧
      (replaced = false → env.persistentRuntimeEnabled = true → Recoverable env a w)) Q
      (Abandoned env command) := by
    refine Ledger.runs_ite (fun _ ↦ ?_) fun hnot ↦ stageRuns_raise fun a w h ↦ ?_
    · exact (cleanup_runs.of_imp fun _ _ h ↦ h.1.1).bind fun _ ↦
        stageRuns_raise fun _ _ h ↦ .of_pending herror h
    · obtain ⟨hpersistent, hreplaced⟩ := not_or.mp hnot
      exact abandoned_of_recoverable (h.2 (eq_false_of_ne_true hreplaced)
        (eq_true_of_ne_false hpersistent)) (truthful_of_unready h.1) error
  refine (stageRuns_look hleft).bind fun _ ↦ (StageRuns.of_imp ?_ fun _ _ h ↦ h.1)
  refine stageRuns_join hcleaned (fun _ hk ↦ ?_) fun _ _ _ ↦ id
  refine (stageRuns_quiescenceFailed hleft).bind fun failed ↦
    stageRuns_join hk (fun _ hk ↦ ?_) fun _ _ _ ↦ id
  exact (stageRuns_write hleft hleft
    (g := fun w ↦ { w with navigationStartupFailurePending := true })
    (fun _ ↦ rfl) fun _ _ h ↦ ⟨h.1, fun hr hp ↦ (h.2 hr hp).of_stage rfl⟩).bind fun _ ↦ hk

theorem switchFailed_runs (error : SessionException) : StageRuns env true (switchFailed env error)
      (SwitchLeft env command error) Q (Abandoned env command) := by
  have hcleanup : ∀ replaced, (∀ message, error ≠ .automaticMissionCancelled message) →
      StageRuns env true (cleanupSwitch env replaced error)
        (fun a w ↦ SwitchLeft env command error a w ∧
          w.stageReplaced = replaced) Q (Abandoned env command) := by
    intro replaced herror
    refine (cleanupSwitch_runs herror).of_imp fun a w h ↦ ?_
    obtain ⟨hleft, rfl⟩ := h
    cases error with
    | automaticMissionCancelled message => exact absurd rfl (herror message)
    | persistentStageSwitchInterrupted message | raised message => exact hleft
  refine (stageRuns_look (switchLeft_lasting error)).bind fun replaced ↦ ?_
  cases error with
  | automaticMissionCancelled message =>
    refine Ledger.runs_ite (fun hreplaced ↦ ?_) fun hreplaced ↦ stageRuns_raise fun a w h ↦ ?_
    · refine interruptSwitch_runs.of_imp fun a w h ↦ ?_
      exact ⟨h.1.1, h.1.2.1, h.1.2.2.2 (h.2.trans hreplaced)⟩
    · exact ⟨h.1.2.2.1 (h.2.trans (eq_false_of_ne_true hreplaced)), truthful_of_unready h.1.1⟩
  | persistentStageSwitchInterrupted message => exact hcleanup replaced fun _ h ↦ by cases h
  | raised message => exact hcleanup replaced fun _ h ↦ by cases h

end Cleanup

variable {env : SessionEnvironment} {command : SessionCommand}

def BackedBySome (env : SessionEnvironment) (command : SessionCommand) (a : StageAccount)
    (w : SessionWorld) : Prop :=
  Backed env command "mapping" a w ∨ Backed env command "navigation" a w

theorem BackedBySome.recoverable {env : SessionEnvironment} {a : StageAccount} {w : SessionWorld}
    (h : BackedBySome env command a w) : Recoverable env a w :=
  h.elim (·.recoverable (.inl rfl)) (·.recoverable (.inr rfl))

theorem clearStageSwitch_runs {C : StageAccount → SessionWorld → Prop} (hC : Lasting env true C)
    {E : SessionException → StageAccount → SessionWorld → Prop} : StageRuns env true (do
      if ← look env (authorityTransaction env) then
        write env fun w ↦ w.withNode w.node.clearStageSwitch) C (fun _ ↦ C) E := by
  refine (stageRuns_look hC).bind fun _ ↦ StageRuns.of_imp (D := C) ?_ fun _ _ h ↦ h.1
  refine Ledger.runs_ite (fun _ ↦ ?_) fun _ ↦ stageRuns_pure fun _ _ ↦ id
  exact stageRuns_write hC hC (fun _ ↦ rfl) fun a w ↦ hC.kept a w _ (.of_node rfl rfl)

theorem startNavigation_runs (fuel : ℕ) : StageRuns env true (startNavigation env fuel)
    (BackedBySome env command) (fun _ ↦ Backed env command "navigation")
    (Abandoned env command) := by
  have hsome : Lasting env true (BackedBySome env command) :=
    lasting_running fun _ _ _ hkept h ↦ h.imp (.kept hkept) (.kept hkept)
  have hbacked := @backed_lasting env command "navigation"
  have hreplaced := @replaced_lasting env command
  have hunready : Lasting env true fun a w ↦ Unready w.node.fsm.phase ∧ w.command = some command ∧
        Recoverable env a w := lasting_running fun _ _ _ hkept h ↦
    ⟨h.1.kept hkept, hkept.command.trans h.2.1, h.2.2.kept hkept⟩
  have hleave : ∀ (e : SessionException) (a : StageAccount) (w : SessionWorld),
      Unready w.node.fsm.phase ∧ w.command = some command ∧ Recoverable env a w →
      Abandoned env command e a w := fun e _ _ h ↦
    abandoned_of_recoverable h.2.2 (truthful_of_unready h.1) e
  have hend : ∀ (e : SessionException) (a : StageAccount) (w : SessionWorld),
      Backed env command "navigation" a w →
      Abandoned env command e a w := fun e _ _ h ↦
    abandoned_of_recoverable (h.recoverable (.inr rfl)) h.truthful e
  refine (stageRuns_look hsome).bind fun phase ↦ Ledger.runs_ite (fun hphase ↦ ?_) fun _ ↦ ?_
  · -- whoever stands at NAVIGATING has the navigation stage
    refine StageRuns.of_imp (stageRuns_keeping (setMessage_keeping (holds_frame hbacked) _) hend)
      fun a w h ↦ ?_
    obtain ⟨hmapping | hnavigation, hlook⟩ := h
    · exact ⟨hmapping.command, hmapping.truthful, hmapping.truthful.2 (.inl (hlook.trans hphase))⟩
    · exact hnavigation
  refine StageRuns.bind (R := fun _ a w ↦ Unready w.node.fsm.phase ∧ w.command = some command ∧
    Recoverable env a w) ?_ fun _ ↦ ?_
  · refine StageRuns.of_imp (stageRuns_transition hsome hunready fun a w n hphase hcommand h ↦ ?_)
      fun _ _ h ↦ h.1
    refine ⟨?_, hcommand.trans (h.elim (·.command) (·.command)), h.recoverable.of_stage rfl⟩
    show Unready n.fsm.phase
    rw [hphase]
    decide
  refine (stageRuns_keeping (feedback_keeping (holds_frame hunready) uninvolved_of_quiet)
    hleave).bind fun _ ↦ (stageRuns_keeping (mapYamlPath_keeping (holds_frame hunready))
    hleave).bind fun path ↦ ?_
  refine (stageRuns_write hunready (@unreplaced_lasting env command)
    (g := fun w ↦ { w with stageReplaced := false }) (fun _ ↦ rfl)
    fun _ _ h ↦ ⟨h.1, h.2.1, h.2.2.of_stage rfl, rfl⟩).bind fun _ ↦ ?_
  refine StageRuns.bind (R := fun _ ↦ Replaced env command)
    (Ledger.Runs.ensure (Ledger.Runs.handle (switchStage_runs fuel path) switchFailed_runs)
      (fun _ ↦ clearStageSwitch_runs hreplaced)
      fun e ↦ clearStageSwitch_runs (abandoned_lasting e)) fun _ ↦ ?_
  refine StageRuns.bind (R := fun _ ↦ Backed env command "navigation")
    (stageRuns_transition hreplaced hbacked fun a w n hphase hcommand h ↦ ?_) fun _ ↦
    stageRuns_keeping (feedback_keeping (holds_frame hbacked) uninvolved_of_quiet) hend
  refine ⟨hcommand.trans h.command, ⟨fun hready ↦ ?_, fun _ ↦ ⟨h.vacated, h.ready⟩⟩,
    ⟨h.vacated, h.ready⟩⟩
  rw [SessionWorld.withNode, hphase] at hready
  exact absurd hready (by decide)

end SessionWorker

end EmbodiedAgent.Slam
