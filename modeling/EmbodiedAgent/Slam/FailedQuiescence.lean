import EmbodiedAgent.Slam.ReadyPhases

namespace EmbodiedAgent.Slam

open Library Library.Program Library.Interleaving Library.History SessionOrchestrator

/-- What a trace tells since `_fail_autonomy_quiescence` has run. -/
structure Fate where
  failed : Bool := false
  command : Option SessionCommand := none
  struck : Bool := false
  stopping : Bool := false
  succeeded : Bool := false
  sound : Bool := true

namespace Fate

variable (a : Fate)

def heeds : SessionEntry → Bool
  | .transition phase =>
    !a.struck || decide (a.command = some .stopSession) || decide (phase = .failed)
  | .quiesces => !a.failed
  | _ => true

def fail (work : SessionWork) (outcome : MissionOutcome) : Fate :=
  { a with
    failed := true
    struck := a.struck || decide (work = .working)
    stopping := a.stopping || decide (a.command = some .stopSession)
    succeeded := bif a.failed then a.succeeded else decide (outcome = .succeeded) }

def step (e : SessionEntry) : Fate :=
  match e with
  | .failed work outcome => a.fail work outcome
  | .began command _ => { a with
      command := some command
      struck := false
      stopping := a.stopping || (a.failed && decide (command = .stopSession)) }
  | .ended => { a with command := none, struck := false }
  | .seen _ outcome => { a with succeeded := a.succeeded && decide (outcome = .succeeded) }
  | e => { a with sound := a.sound && a.heeds e }

/-- The phases that a failure leaves. -/
def Absorbs (phase : SessionPhase) : Prop :=
  phase = .failed ∨ a.stopping = true ∧ (phase = .stopping ∨ phase = .stopped)

def Honest (a : Fate) : SessionEntry → Prop
  | .seen phase outcome => a.sound = true → a.failed = true →
    a.Absorbs phase ∧ (outcome = .succeeded → a.succeeded = true)
  | _ => True

def Spared (a : Fate) : SessionEntry → Prop
  | .failed work _ => work ≠ .working
  | .quiesces => a.failed = false
  | _ => True

end Fate

def fateLedger : Ledger Fate where
  start := {}
  step := Fate.step
  Honest := Fate.Honest

theorem Fate.Spared.step {a : Fate} {e : SessionEntry} (h : a.Spared e) (hstruck : a.struck = false)
    (hsound : a.sound = true) : (a.step e).struck = false ∧ (a.step e).sound = true := by
  cases e with
  | failed work outcome =>
    have hidle : work ≠ .working := h
    exact ⟨by simp [Fate.step, fail, hstruck, hidle], hsound⟩
  | began | ended => exact ⟨rfl, hsound⟩
  | seen => exact ⟨hstruck, hsound⟩
  | quiesces =>
    have hfailed : a.failed = false := h
    exact ⟨hstruck, by simp [Fate.step, heeds, hsound, hfailed]⟩
  | _ => exact ⟨hstruck, by simp [Fate.step, heeds, hstruck, hsound]⟩

theorem sound_of_spared {trace : List SessionEntry}
    (h : Along fateLedger.next Fate.Spared fateLedger.start trace) :
    (fateLedger.account trace).struck = false ∧ (fateLedger.account trace).sound = true := by
  induction trace using List.reverseRecOn with
  | nil => exact ⟨rfl, rfl⟩
  | append_singleton trace e ih =>
    obtain ⟨htrace, he⟩ := (along_snoc _).mp h
    rw [Ledger.account, run_snoc]
    exact he.step (ih htrace).1 (ih htrace).2

def Awaits : List AuthorityTask → Prop
  | [] | .failBarrier _ :: _ => True
  | .failTransition _ :: _ => False
  | _ :: tasks => Awaits tasks

theorem awaits_append {tasks rest : List AuthorityTask} (h : Awaits tasks) (hrest : Awaits rest) :
    Awaits (tasks ++ rest) := by
  induction tasks with
  | nil => exact hrest
  | cons task tasks ih =>
    cases task with
    | failBarrier reason => trivial
    | failTransition reason => exact h.elim
    | _ => exact ih h

theorem conclude_awaits (c : Identified) (started : Bool) : Awaits (conclude c started) := by
  unfold conclude
  split_ifs <;> trivial

theorem revoke_awaits (c : Identified) : Awaits (revoke c) := by
  unfold revoke
  split_ifs
  · trivial
  · exact conclude_awaits c false

theorem perform_awaits (n : SessionOrchestrator) (task : AuthorityTask) :
    Awaits (perform n task).2.1 := by
  cases task with
  | publish c | observeActive c | observe c =>
    simp only [perform]
    split <;> trivial
  | testActive c =>
    simp only [perform]
    split_ifs
    · trivial
    · exact revoke_awaits c
  | testFailed c =>
    simp only [perform]
    split_ifs
    · trivial
    · exact revoke_awaits c
  | «begin» c =>
    simp only [perform]
    split
    · trivial
    · trivial
    · exact conclude_awaits c false
  | readMission c =>
    simp only [perform]
    split_ifs <;> trivial
  | startWorker c => exact conclude_awaits c true
  | _ => trivial

theorem perform_failed {n : SessionOrchestrator} (task : AuthorityTask)
    (h : n.autonomyQuiescence.state = .failed) :
    (perform n task).1.autonomyQuiescence.state = .failed := by
  have hstep := fun op ↦ AutonomyQuiescenceBarrier.step_failed op h
  cases task with
  | publish c =>
    have hinside := congrArg (·.autonomyQuiescence.state) (publish_inside n c)
    exact hinside.trans h
  | observeActive c =>
    have hobserved := hstep (.observeAuthority c.identity
      (decide (c.authority = AuthoritySnapshot.autonomy)))
    simp only [perform]
    split <;> rename_i heq <;> exact (congrArg (·.1.state) heq).symm.trans hobserved
  | testFailed c => exact hstep .snapshot
  | observe c =>
    have hobserved := hstep (.observeAuthority c.identity false)
    simp only [perform]
    split <;> rename_i heq <;> exact (congrArg (·.1.state) heq).symm.trans hobserved
  | «begin» c =>
    have hbegun := hstep (.begin c.identity (some c.explorerRunning))
    simp only [perform]
    split <;> rename_i heq <;> exact (congrArg (·.1.state) heq).symm.trans hbegun
  | cancel identity =>
    simp only [perform]
    unfold cancelActiveAutomaticMission
    split
    · exact h
    · split_ifs <;> exact h
  | failBarrier reason => exact hstep (.fail reason)
  | _ => exact h

theorem perform_outcome {n : SessionOrchestrator} (task : AuthorityTask)
    (h : (perform n task).1.missionOutcome = .succeeded) : n.missionOutcome = .succeeded := by
  cases task with
  | publish c => exact (congrArg (·.missionOutcome) (publish_inside n c)).symm.trans h
  | observeActive c | observe c | «begin» c =>
    simp only [perform] at h
    split at h <;> exact h
  | cancel identity =>
    simp only [perform] at h
    unfold cancelActiveAutomaticMission at h
    split at h
    · exact h
    · split_ifs at h <;> exact h
  | failOutcome reason => cases h
  | _ => exact h

structure Place where
  Works : SessionWork → Prop
  command : Option SessionCommand
  doomed : Bool
  Good : Fate → SessionPhase → Prop
  struck : ∀ (a : Fate) work outcome, Works work → a.command = command →
    Good (a.fail work outcome) .failed
  failed : ∀ a phase, Good a phase → Good a .failed
  same : ∀ (a a' : Fate) phase, a'.struck = a.struck → a'.stopping = a.stopping → Good a phase →
    Good a' phase
  absorbs : ∀ a phase, Good a phase → a.Absorbs phase

namespace Place

def working (command : Option SessionCommand) : Place where
  Works work := work = .working
  command := command
  doomed := false
  Good a phase := a.struck = true ∧ phase = .failed
  struck a work outcome hwork _ := by
    rw [Fate.fail, hwork]
    exact ⟨Bool.or_true _, rfl⟩
  failed _ _ h := ⟨h.1, rfl⟩
  same _ _ _ hstruck _ h := ⟨hstruck.trans h.1, h.2⟩
  absorbs _ _ h := .inl h.2

def closing (command : Option SessionCommand) (doomed : Bool) : Place where
  Works _ := True
  command := command
  doomed := doomed
  Good _ phase := phase = .failed
  struck _ _ _ _ _ := rfl
  failed _ _ _ := rfl
  same _ _ _ _ _ h := h
  absorbs _ _ h := .inl h

theorem stops_of_failed {a : Fate} {work : SessionWork} {outcome : MissionOutcome}
    (h : a.command = some .stopSession) : (a.fail work outcome).stopping = true := by
  rw [Fate.fail, h]
  exact Bool.or_true _

/-- In the course of STOP_SESSION. -/
def stopping : Place where
  Works _ := True
  command := some .stopSession
  doomed := false
  Good a phase := a.stopping = true ∧ (phase = .failed ∨ phase = .stopping ∨ phase = .stopped)
  struck _ _ _ _ hcommand := ⟨stops_of_failed hcommand, .inl rfl⟩
  failed _ _ h := ⟨h.1, .inl rfl⟩
  same _ _ _ _ hstopping h := ⟨hstopping.trans h.1, h.2⟩
  absorbs _ _ h := h.2.imp id fun hphase ↦ ⟨h.1, hphase⟩

def left (command : Option SessionCommand) : Place where
  Works _ := True
  command := command
  doomed := false
  Good a phase := a.Absorbs phase
  struck _ _ _ _ _ := .inl rfl
  failed _ _ _ := .inl rfl
  same _ _ _ _ hstopping h := h.imp id fun h ↦ ⟨hstopping.trans h.1, h.2⟩
  absorbs _ _ := id

def Allows (place : Place) (phase : SessionPhase) : Prop :=
  ∀ (a : Fate) old, a.command = place.command → a.heeds (.transition phase) = true →
    place.Good a old → place.Good a phase ∧ phase ≠ .missionCompleted

theorem working_allows {command : Option SessionCommand} (hcommand : command ≠ some .stopSession)
    (phase : SessionPhase) : (working command).Allows phase := by
  rintro a old rfl hheeds ⟨hstruck, -⟩
  rw [Fate.heeds, hstruck, decide_eq_false hcommand] at hheeds
  have hphase : phase = .failed := of_decide_eq_true hheeds
  exact ⟨⟨hstruck, hphase⟩, hphase ▸ by decide⟩

theorem allows_failed (place : Place) : place.Allows .failed := fun a old _ _ h ↦
  ⟨place.failed a old h, by decide⟩

theorem stopping_allows {phase : SessionPhase} (h : phase = .stopping ∨ phase = .stopped) :
    stopping.Allows phase := fun _ _ _ _ hgood ↦
  ⟨⟨hgood.1, .inr h⟩, h.elim (fun h ↦ h ▸ by decide) fun h ↦ h ▸ by decide⟩

end Place

namespace SessionWorker

section Frame

structure At (place : Place) (a : Fate) (w : SessionWorld) : Prop where
  awaits : w.node.autonomyQuiescence.state = .failed ∨
    ∀ callback ∈ w.callbacks, Awaits callback.tasks
  barrier : a.failed = true ∨ place.doomed = true → w.node.autonomyQuiescence.state = .failed
  outcome : a.failed = true → w.node.missionOutcome = .succeeded → a.succeeded = true
  work : place.Works w.work
  command : a.command = place.command
  phase : a.failed = true → place.Good a w.node.fsm.phase

def Stays (place : Place) (a : Fate) (w : SessionWorld) : Prop := a.sound = true → At place a w

variable {env : SessionEnvironment} {place : Place} {a : Fate} {w w' : SessionWorld}

theorem fate_seen (h : fateLedger.Holds (Stays place) w) :
    fateLedger.Holds (Stays place) w.seen := by
  refine h.log (fun a ha hsound hfailed ↦ ?_) fun a ha hsound ↦ ?_
  · exact ⟨place.absorbs a _ ((ha hsound).phase hfailed), (ha hsound).outcome hfailed⟩
  · have hat := ha hsound
    refine ⟨hat.awaits, hat.barrier, fun hfailed houtcome ↦ ?_, hat.work, hat.command,
      fun hfailed ↦ place.same a _ _ rfl rfl (hat.phase hfailed)⟩
    exact Bool.and_eq_true_iff.mpr ⟨hat.outcome hfailed houtcome, decide_eq_true houtcome⟩

def Fateless (e : SessionEntry) : Prop := ∀ a : Fate, fateLedger.step a e = a ∧
    fateLedger.Honest a e

theorem fate_unnoted {C : Fate → SessionWorld → Prop} {e : SessionEntry} (he : Fateless e)
    (hC : ∀ a, C a w → C a (w.log e)) (h : fateLedger.Holds C w) :
    fateLedger.Holds C (w.log e) := by
  refine h.log (fun a _ ↦ (he a).2) fun a ha ↦ ?_
  rw [(he a).1]
  exact hC a ha

theorem fateless {e : SessionEntry} (h : ∀ a : Fate, fateLedger.step a e = { a with
    sound := a.sound && true } ∧ fateLedger.Honest a e) : Fateless e := fun a ↦
  ⟨(h a).1.trans (by rw [Bool.and_true]), (h a).2⟩

theorem At.log (h : At place a w) (e : SessionEntry) : At place a (w.log e) :=
  ⟨h.awaits, h.barrier, h.outcome, h.work, h.command, h.phase⟩

theorem At.of_sound (h : At place a w) {sound : Bool} : At place { a with sound := sound } w :=
  ⟨h.awaits, h.barrier, h.outcome, h.work, h.command,
    fun hfailed ↦ place.same a _ _ rfl rfl (h.phase hfailed)⟩

theorem At.aside (h : At place a w) {n : SessionOrchestrator} (hfsm : n.fsm = w.node.fsm)
    (houtcome : n.missionOutcome = .succeeded → w.node.missionOutcome = .succeeded)
    (hfailed : w.node.autonomyQuiescence.state = .failed → n.autonomyQuiescence.state = .failed) :
    At place a (w.withNode n) where
  awaits := h.awaits.imp hfailed id
  barrier hdoomed := hfailed (h.barrier hdoomed)
  outcome hold hsucceeded := h.outcome hold (houtcome hsucceeded)
  work := h.work
  command := h.command
  phase hold := by
    rw [SessionWorld.withNode, hfsm]
    exact h.phase hold

theorem transition_outcome {n : SessionOrchestrator} {phase : SessionPhase} {detail : String}
    {mapSaved : Option Bool} {mapYamlPath : Option String} (hphase : phase ≠ .missionCompleted) :
    (n.transition phase detail mapSaved mapYamlPath).missionOutcome = n.missionOutcome := by
  rw [SessionOrchestrator.transition, if_neg hphase]

variable (n : SessionOrchestrator)

theorem transition_barrier (phase : SessionPhase) (detail : String)
    (mapSaved : Option Bool) (mapYamlPath : Option String) :
    (n.transition phase detail mapSaved mapYamlPath).autonomyQuiescence = n.autonomyQuiescence := by
  unfold SessionOrchestrator.transition
  split_ifs <;> rfl

theorem At.fail (h : At place a w) (hbarrier : w.node.autonomyQuiescence.state = .failed)
    (reason : String) (callbacks : List (Callback Unit AuthorityTask)) :
    At place (a.fail w.work w.node.missionOutcome)
      { w with node := w.node.transition .failed reason, callbacks := callbacks } where
  awaits := .inl hbarrier
  barrier _ := hbarrier
  outcome _ houtcome := by
    show (bif a.failed then a.succeeded else decide (w.node.missionOutcome = .succeeded)) = true
    cases hfailed : a.failed with
    | false => exact decide_eq_true houtcome
    | true => exact h.outcome hfailed houtcome
  work := h.work
  command := h.command
  phase _ := place.struck a _ _ h.work h.command

theorem At.performed (h : At place a w) {i : ℕ} {task : AuthorityTask}
    (hnext : next w.callbacks i = some task)
    (hphase : a.failed = true → place.Good a (perform w.node task).1.fsm.phase) :
    At place a { w with
      node := (perform w.node task).1
      callbacks := (advance perform w.node w.callbacks i).2.1 } where
  awaits := by
    rcases h.awaits with hfailed | hawaits
    · exact .inl (perform_failed task hfailed)
    · by_cases hfail : ∃ reason, task = .failBarrier reason
      · obtain ⟨reason, rfl⟩ := hfail
        exact .inl (AutonomyQuiescenceBarrier.failWith_state _ _)
      · refine .inr (advance_forall hawaits fun task' rest hnext' hrest ↦ ?_)
        obtain rfl : task = task' := Option.some.inj (hnext.symm.trans hnext')
        refine awaits_append (perform_awaits w.node task) ?_
        cases task with
        | failBarrier reason => exact absurd ⟨reason, rfl⟩ hfail
        | failTransition reason => exact hrest.elim
        | _ => exact hrest
  barrier hdoomed := perform_failed task (h.barrier hdoomed)
  outcome hold hsucceeded := h.outcome hold (perform_outcome task hsucceeded)
  work := h.work
  command := h.command
  phase := hphase

theorem perform_phase {n : SessionOrchestrator} {task : AuthorityTask}
    (htask : ∀ c, task ≠ .quiescing c) : (perform n task).1.fsm.phase = n.fsm.phase ∨
      (perform n task).1.fsm.phase = .failed := by
  rcases (perform_disturbed n task).phase with hsame | hfailed | hquiescing
  · exact .inl hsame
  · exact .inr hfailed
  · cases task with
    | quiescing c => exact absurd rfl (htask c)
    | failTransition reason | childTransition detail => exact .inr rfl
    | publish c => exact .inl (congrArg (·.fsm.phase) (publish_inside n c))
    | observeActive c | observe c | «begin» c =>
      simp only [perform]
      split <;> exact .inl rfl
    | cancel identity =>
      simp only [perform]
      unfold cancelActiveAutomaticMission
      split
      · exact .inl rfl
      · split_ifs <;> exact .inl rfl
    | _ => exact .inl rfl

theorem At.advanced (h : At place a w) (i : ℕ)
    (hnext : ∀ task, next w.callbacks i = some task → ∀ c, task ≠ .quiescing c) :
    At place a { w with
      node := (advance perform w.node w.callbacks i).1
      callbacks := (advance perform w.node w.callbacks i).2.1 } := by
  rw [advance_state]
  cases htask : next w.callbacks i with
  | none =>
    refine { h with awaits := h.awaits.imp id fun hawaits ↦ advance_forall hawaits ?_ }
    intro task rest hnone
    rw [htask] at hnone
    cases hnone
  | some task =>
    refine h.performed htask fun hfailed ↦ ?_
    rcases perform_phase (n := w.node) (hnext task htask) with hphase | hphase
    · rw [hphase]
      exact h.phase hfailed
    · rw [hphase]
      exact place.failed a _ (h.phase hfailed)

theorem runCallback_stays (h : fateLedger.Holds (Stays place) w) (i : ℕ) :
    fateLedger.Holds (Stays place) (w.runCallback i) := by
  have hwrite : ∀ C : Fate → SessionWorld → Prop, (∀ a, Stays place a w → C a { w with
      node := (advance perform w.node w.callbacks i).1
      callbacks := (advance perform w.node w.callbacks i).2.1 }) →
      fateLedger.Holds C { w with
        node := (advance perform w.node w.callbacks i).1
        callbacks := (advance perform w.node w.callbacks i).2.1 } := fun C hC ↦ h.write rfl hC
  have hstate := advance_state perform w.node w.callbacks i
  unfold SessionWorld.runCallback
  cases htask : next w.callbacks i with
  | none =>
    refine hwrite _ fun a ha hsound ↦ (ha hsound).advanced i fun task hnext ↦ ?_
    rw [htask] at hnext
    cases hnext
  | some task =>
    rw [htask] at hstate
    have hquiet : (∀ c, task ≠ .quiescing c) → fateLedger.Holds (Stays place) { w with
        node := (advance perform w.node w.callbacks i).1
        callbacks := (advance perform w.node w.callbacks i).2.1 } := fun hne ↦
      hwrite _ fun a ha hsound ↦ (ha hsound).advanced i fun task' hnext ↦ by
        rw [htask] at hnext
        cases hnext
        exact hne
    cases task with
    | failTransition reason =>
      have hpublished : (advance perform w.node w.callbacks i).1 =
        w.node.transition .failed reason :=
        hstate
      refine (hwrite (fun a w' ↦ a.sound = true → At place (a.fail w.work w.node.missionOutcome) w')
        fun a ha hsound ↦ ?_).log (fun _ _ ↦ trivial) fun a ha hsound ↦ ?_
      · rw [hpublished]
        refine (ha hsound).fail ?_ reason _
        rcases (ha hsound).awaits with hfailed | hawaits
        · exact hfailed
        · obtain ⟨callback, hcallback, hhead⟩ := Option.bind_eq_some_iff.mp htask
          have htasks := hawaits callback (List.mem_of_getElem? hcallback)
          obtain ⟨rest, hrest⟩ := List.head?_eq_some_iff.mp hhead
          rw [hrest] at htasks
          exact htasks.elim
      · have hat := (ha hsound).log (.failed w.work w.node.missionOutcome)
        rw [hpublished] at hat ⊢
        exact hat
    | quiescing c =>
      have hquiesced : (advance perform w.node w.callbacks i).1 =
          (perform w.node (.quiescing c)).1 := hstate
      refine (hwrite (fun a w' ↦ a.sound = true → a.failed = false → At place a w')
        fun a ha hsound hfailed ↦ ?_).log (fun _ _ ↦ trivial) fun a ha hsound ↦ ?_
      · rw [hquiesced]
        exact (ha hsound).performed htask fun h ↦ absurd (hfailed.symm.trans h) (by decide)
      · obtain ⟨hold, hheeds⟩ := Bool.and_eq_true_iff.mp hsound
        have hnot : a.failed = false := by
          rw [Fate.heeds, Bool.not_eq_true'] at hheeds
          exact hheeds
        exact ((ha hold hnot).log .quiesces).of_sound
    | _ => exact hquiet fun _ ↦ nofun

theorem awaits_started {callbacks : List (Callback Unit AuthorityTask)} {tasks : List AuthorityTask}
    (h : ∀ callback ∈ callbacks, Awaits callback.tasks) (htasks : Awaits tasks) :
    ∀ callback ∈ callbacks ++ [⟨(), tasks⟩], Awaits callback.tasks := by
  intro callback hcallback
  rcases List.mem_append.mp hcallback with hold | hnew
  · exact h callback hold
  · rw [List.mem_singleton.mp hnew]
    exact htasks

theorem At.started (h : At place a w) {n : SessionOrchestrator} {tasks : List AuthorityTask}
    (hfsm : n.fsm = w.node.fsm) (houtcome : n.missionOutcome = w.node.missionOutcome)
    (hbarrier : n.autonomyQuiescence = w.node.autonomyQuiescence) (htasks : Awaits tasks) :
    At place a ((w.withNode n).startCallback tasks) := by
  have hat := h.aside hfsm (fun hsucceeded ↦ houtcome.symm.trans hsucceeded)
    fun hfailed ↦ (congrArg (·.state) hbarrier).trans hfailed
  exact { hat with awaits := hat.awaits.imp id fun hawaits ↦ awaits_started hawaits htasks }

theorem receive_awaits (m : AuthorityMessage) :
    Awaits (n.receive m).2 := by
  unfold receive
  dsimp only
  split_ifs <;> trivial

theorem checkAuthorityLease_awaits (now : Double) :
    Awaits (n.checkAuthorityLease now).2 := by
  unfold checkAuthorityLease
  split_ifs <;> trivial

theorem checkChildProcess_awaits (persistent : Bool)
    (owner code : String) : Awaits (n.checkChildProcess persistent owner code) := by
  unfold checkChildProcess
  split_ifs <;> trivial

theorem fate_stable (place : Place) : Stable env (fateLedger.Holds (Stays place)) := by
  intro w e h
  cases e with
  | message m =>
    refine h.write rfl fun a ha hsound ↦ (ha hsound).started ?_ ?_ ?_ (receive_awaits _ m)
    all_goals
      unfold receive
      split_ifs <;> rfl
  | run i => exact fate_seen (runCallback_stays h i)
  | leaseTimer now =>
    refine h.write rfl fun a ha hsound ↦
      (ha hsound).started ?_ ?_ ?_ (checkAuthorityLease_awaits _ now)
    all_goals
      unfold checkAuthorityLease
      split_ifs <;> rfl
  | childTimer owner code =>
    exact h.write rfl fun a ha hsound ↦ (ha hsound).started (n := w.node) rfl rfl rfl
      (checkChildProcess_awaits ..)
  | barrier op =>
    cases op with
    | «begin» identity required => exact h
    | _ =>
      exact h.write rfl fun a ha hsound ↦ (ha hsound).aside (n := w.node.withBarrier _) rfl id
        (AutonomyQuiescenceBarrier.step_failed _)
  | quiescenceFails error =>
    exact h.write rfl fun a ha hsound ↦ (ha hsound).started (n := w.node) rfl rfl rfl
      (show Awaits (failAutonomyQuiescence error) from trivial)
  | cancelGoal =>
    exact h.write rfl fun a ha hsound ↦ (ha hsound).aside (n := { w.node with activeRequest := _ })
      rfl id id

theorem fate_frame (place : Place) : Frame env (Preserves (fateLedger.Holds (Stays place)))
    (fun _ ↦ True) fun phase _ _ ↦ place.Allows phase where
  other w e h := fate_stable place w e h
  port w call reply _ h := fate_unnoted (fateless fun _ ↦ ⟨rfl, trivial⟩)
    (fun _ ha hsound ↦ (ha hsound).log _) h
  transition w phase detail mapSaved mapYamlPath hallows h := by
    have hwritten : fateLedger.Holds (fun a w' ↦ a.sound = true →
        a.heeds (.transition phase) = true → At place a w')
        (w.withNode (w.node.transition phase detail mapSaved mapYamlPath)) := by
      refine h.write rfl fun a ha hsound hheeds ↦ ?_
      have hat := ha hsound
      have hgood := fun hfailed ↦ hallows a _ hat.command hheeds (hat.phase hfailed)
      have hbarrier := transition_barrier w.node phase detail mapSaved mapYamlPath
      refine ⟨?_, fun hdoomed ↦ ?_, fun hfailed houtcome ↦ ?_, hat.work, hat.command,
        fun hfailed ↦ (hgood hfailed).1⟩
      · rw [SessionWorld.withNode, hbarrier]
        exact hat.awaits
      · rw [SessionWorld.withNode, hbarrier]
        exact hat.barrier hdoomed
      · exact hat.outcome hfailed ((transition_outcome (hgood hfailed).2).symm.trans houtcome)
    refine fate_seen (hwritten.log (fun _ _ ↦ trivial) fun a ha hsound ↦ ?_)
    obtain ⟨hold, hheeds⟩ := Bool.and_eq_true_iff.mp hsound
    exact ((ha hold hheeds).log _).of_sound
  canceled w point value h := fate_unnoted (fateless fun _ ↦ ⟨rfl, trivial⟩)
    (fun _ ha hsound ↦ (ha hsound).log _) h
  request w f _ h := fate_seen (h.write rfl fun a ha hsound ↦
    (ha hsound).aside (n := { w.node with activeRequest := _ }) rfl id id)
  outcome w outcome message hne h := fate_seen (h.write rfl fun a ha hsound ↦
    (ha hsound).aside (n := { w.node with missionOutcome := outcome, missionMessage := message })
      rfl (fun hsucceeded ↦ absurd hsucceeded hne) id)
  aside w n hn h := h.write rfl fun a ha hsound ↦ (ha hsound).aside hn.fsm
    (fun hsucceeded ↦ hn.missionOutcome.symm.trans hsucceeded) hn.failed
  seen w h := fate_seen h
  evidence w value h := fate_seen (h.write rfl fun a ha hsound ↦
    ⟨(ha hsound).awaits, (ha hsound).barrier, (ha hsound).outcome, (ha hsound).work,
      (ha hsound).command, (ha hsound).phase⟩)
  explored w h := fate_unnoted (fateless fun _ ↦ ⟨rfl, trivial⟩)
    (fun _ ha hsound ↦ (ha hsound).log _) h
  returned w h := fate_unnoted (fateless fun _ ↦ ⟨rfl, trivial⟩)
    (fun _ ha hsound ↦ (ha hsound).log _) h

theorem At.of_same (h : At place a w) (hnode : w'.node = w.node)
    (hcallbacks : w'.callbacks = w.callbacks) (hwork : place.Works w'.work) : At place a w' := by
  refine ⟨?_, ?_, ?_, hwork, h.command, ?_⟩
  · rw [hnode, hcallbacks]
    exact h.awaits
  · rw [hnode]
    exact h.barrier
  · rw [hnode]
    exact h.outcome
  · rw [hnode]
    exact h.phase

theorem At.moves {p : Place} (h : At place a w) (hwork : p.Works w.work)
    (hcommand : p.command = place.command)
    (hdoomed : p.doomed = true → w.node.autonomyQuiescence.state = .failed)
    (hgood : a.failed = true → place.Good a w.node.fsm.phase → p.Good a w.node.fsm.phase) :
    At p a w :=
  ⟨h.awaits, fun hbarrier ↦ hbarrier.elim (fun hfailed ↦ h.barrier (.inl hfailed)) hdoomed,
    h.outcome, hwork, h.command.trans hcommand.symm, fun hfailed ↦ hgood hfailed (h.phase hfailed)⟩

theorem working_whole {command : Option SessionCommand} (hcommand : command ≠ some .stopSession) :
    Whole env (Preserves (fateLedger.Holds (Stays (.working command)))) fun _ _ _ ↦ True where
  other := (@fate_frame env _).other
  port := (@fate_frame env _).port
  transition w phase detail mapSaved mapYamlPath _ :=
    (@fate_frame env _).transition w phase detail mapSaved mapYamlPath
      (Place.working_allows hcommand phase)
  canceled := (@fate_frame env _).canceled
  request := (@fate_frame env _).request
  outcome := (@fate_frame env _).outcome
  aside := (@fate_frame env _).aside
  seen := (@fate_frame env _).seen
  evidence := (@fate_frame env _).evidence
  explored := (@fate_frame env _).explored
  returned := (@fate_frame env _).returned
  phases _ _ _ _ := trivial
  elsewhere _ _ hsame h := h.write hsame.trace fun _ ha hsound ↦
    (ha hsound).of_same hsame.node hsame.callbacks (hsame.work.trans (ha hsound).work)
  recovers _ _ h := fate_unnoted (fateless fun _ ↦ ⟨rfl, trivial⟩)
    (fun _ ha hsound ↦ (ha hsound).log _) h
  stopFailed _ _ _ h := fate_unnoted (fateless fun _ ↦ ⟨rfl, trivial⟩)
    (fun _ ha hsound ↦ (ha hsound).log _) h

end Frame

section Raised

abbrev Fares {α : Type} (m : Session α) (C : Fate → SessionWorld → Prop)
    (Q : α → Fate → SessionWorld → Prop)
    (E : SessionException → Fate → SessionWorld → Prop) : Prop :=
  fateLedger.Runs m C Q E

variable {env : SessionEnvironment} {place p : Place} {command : SessionCommand}
  {E : SessionException → Fate → SessionWorld → Prop}

theorem fares_work {work : SessionWork}
    (h : ∀ a w, At place a w → At p a (w.withWork work)) :
    Fares (modify (·.withWork work)) (Stays place) (fun _ ↦ Stays p) E := fun w hw ↦
  meets_modify (hw.write rfl fun a ha hsound ↦ h a w (ha hsound))

theorem fares_write {g : SessionWorld → SessionWorld} (htrace : ∀ w, (g w).trace = w.trace)
    (h : ∀ a w, At place a w → At p a (g w)) :
    Fares (write env g) (Stays place) (fun _ ↦ Stays p) E :=
  Ledger.runs_write (fate_stable place) fun w hw ↦
    fate_seen (hw.write (htrace w) fun a ha hsound ↦ h a w (ha hsound))

theorem At.leaves {a : Fate} {w : SessionWorld} (h : At place a w) : At (.left place.command) a w :=
  h.moves trivial rfl nofun fun _ ↦ place.absorbs a _

theorem Stays.leaves {a : Fate} {w : SessionWorld} (h : Stays place a w) :
    Stays (.left place.command) a w := fun hsound ↦ (h hsound).leaves

theorem failQuiescence_fares (error : String) :
    Fares (failQuiescence env error) (Stays (.closing (some command) false))
      (fun _ ↦ Stays (.closing (some command) false)) fun _ ↦ Stays (.left (some command)) := by
  have houtcome : ∀ message, Fares (setOutcome env .failed message)
      (Stays (.closing (some command) true)) (fun _ ↦ Stays (.closing (some command) true))
      fun _ ↦ Stays (.left (some command)) := fun message ↦
    Ledger.runs_keeping (setOutcome_keeping (fate_frame _) message (by decide))
      fun _ _ _ h ↦ h.leaves
  refine Ledger.Runs.bind (R := fun _ ↦ Stays (.closing (some command) true))
    (fares_write (fun _ ↦ rfl) fun a w h ↦ ?_) fun _ ↦ (houtcome _).bind fun _ ↦
    Ledger.runs_write (fate_stable _) fun w hw ↦ fate_seen ?_
  · have hfailed : (w.node.autonomyQuiescence.fail
        ("autonomy quiescence failed: " ++ error)).1.state = .failed :=
      AutonomyQuiescenceBarrier.failWith_state _ _
    exact (h.aside (n := w.node.withBarrier (w.node.autonomyQuiescence.fail
      ("autonomy quiescence failed: " ++ error)).1) rfl id fun _ ↦ hfailed).moves trivial rfl
      (fun _ ↦ hfailed) fun _ ↦ id
  · have hwritten := hw.write (v := w.withNode (w.node.transition .failed
        ("autonomy quiescence failed: " ++ error)))
      (D := fun a w' ↦ a.sound = true → At (.closing (some command) true)
        (a.fail w.work w.node.missionOutcome) w') rfl
      fun a ha hsound ↦ (ha hsound).fail ((ha hsound).barrier (.inr rfl)) _ _
    refine hwritten.log (fun _ _ ↦ trivial) fun a ha hsound ↦ ?_
    exact ((ha hsound).log _).moves trivial rfl nofun fun _ ↦ id

theorem settleRevocation_fares (revocation : ℤ × ℤ) (hcommand : command ≠ .stopSession) :
    Fares (settleRevocation env revocation) (Stays (.working (some command)))
      (fun _ ↦ Stays (.closing (some command) false)) fun _ ↦ Stays (.left (some command)) := by
  have hwhole := @working_whole env (some command) fun h ↦ hcommand (Option.some.inj h)
  unfold settleRevocation
  cases QuiescenceIdentity.create revocation.1 revocation.2 with
  | error error => exact Ledger.runs_raise fun _ _ h ↦ h.leaves
  | ok identity =>
    have hclosing : ∀ {call : SessionCall}, Fares (port env call)
        (Stays (.closing (some command) false)) (fun _ ↦ Stays (.closing (some command) false))
        fun _ ↦ Stays (.closing (some command) false) := fun {call} ↦
      Ledger.runs_keeping (port_keeping (fate_frame _) trivial) fun _ _ _ ↦ id
    refine Ledger.Runs.bind (R := fun _ ↦ Stays (.working (some command))) (Ledger.runs_keeping
      (phase_keeping hwhole (by decide)) fun _ _ _ h ↦ h.leaves) fun _ ↦
      (fares_work (p := .closing (some command) false) fun a w h ↦ ?_).bind
        fun _ ↦ Ledger.Runs.handle hclosing fun error ↦ ?_
    · exact (h.moves (p := .closing (some command) false) trivial rfl nofun
        fun _ ↦ And.right).of_same rfl rfl trivial
    · refine Ledger.Runs.bind (R := fun _ ↦ Stays (.closing (some command) false))
        (Ledger.runs_keeping (quiescenceFailed_keeping (fate_frame _)) fun _ _ _ h ↦ h.leaves)
        fun failed ↦ Ledger.runs_ite (fun _ ↦ Ledger.runs_pure fun _ _ ↦ id) fun _ ↦
        failQuiescence_fares _

def settledPlace (command : SessionCommand) (failed : Bool) : Place :=
  if command = .runAutomaticMission ∧ failed = true then .closing (some command) false
  else .working (some command)

theorem quiescenceFailed_fares : Fares (quiescenceFailed env) (Stays place)
    (fun failed a w ↦ Stays place a w ∧
      (failed = false → a.sound = true → a.failed = false)) E := by
  intro w hw
  refine (meets_interfere (fate_stable _) hw).bind fun _ w hw ↦ meets_get_bind
    (meets_modify_bind (meets_pure (hw.write rfl fun a ha ↦ ⟨fun hsound ↦ ?_, ?_⟩)))
  all_goals
    have hfailed : w.node.autonomyQuiescence.state = .failed →
        w.node.autonomyQuiescence.refreshReady.state = .failed := fun h ↦ by
      rw [AutonomyQuiescenceBarrier.refreshReady, h]
      exact h
  · exact (ha hsound).aside (n := w.node.withBarrier w.node.autonomyQuiescence.refreshReady)
      rfl id hfailed
  · intro hlook hsound
    by_contra hold
    exact of_decide_eq_false hlook
      (hfailed ((ha hsound).barrier (.inl (eq_true_of_ne_false hold))))

theorem settled_fares (hrun : command = .runAutomaticMission) :
    Fares (do
      let failed ← quiescenceFailed env
      modify (·.withWork .working)
      pure failed : Session Bool) (Stays (.closing (some command) false))
      (fun failed ↦ Stays (settledPlace command failed)) E := by
  refine quiescenceFailed_fares.bind fun failed w hw ↦ meets_modify_bind (meets_pure
    (hw.write rfl fun a ha hsound ↦ ?_))
  have hat : At (.closing (some command) false) a (w.withWork .working) :=
    (ha.1 hsound).of_same rfl rfl trivial
  unfold settledPlace
  split_ifs with hlook
  · exact hat
  · refine hat.moves rfl rfl nofun fun hold _ ↦ ?_
    have hnot := ha.2 (eq_false_of_ne_true (not_and.mp hlook hrun)) hsound
    exact absurd (hnot.symm.trans hold) (by decide)

theorem settleRequest_fares (hcommand : command ≠ .stopSession) :
    Fares (settleRequest env command) (Stays (.working (some command)))
      (fun failed ↦ Stays (settledPlace command failed)) fun _ ↦ Stays (.left (some command)) := by
  have hwhole := @working_whole env (some command) fun h ↦ hcommand (Option.some.inj h)
  refine Ledger.Runs.bind (R := fun _ ↦ Stays (.working (some command))) (Ledger.runs_keeping
    (look_keeping hwhole.toFrame _) fun _ _ _ h ↦ h.leaves) fun revocation ↦ ?_
  extract_lets settled
  refine Ledger.runs_ite (fun hrun ↦ ?_) fun hrun ↦ ?_
  · have hsettled : Fares (settled ()) (Stays (.closing (some command) false))
        (fun failed ↦ Stays (settledPlace command failed)) fun _ ↦ Stays (.left (some command)) :=
      settled_fares hrun
    cases revocation with
    | some revocation => exact (settleRevocation_fares revocation hcommand).bind fun _ ↦ hsettled
    | none =>
      refine (fares_work (p := .closing (some command) false)
        fun a w h ↦ ?_).bind fun _ ↦ hsettled
      exact (h.moves (p := .closing (some command) false) trivial rfl nofun
        fun _ ↦ And.right).of_same rfl rfl trivial
  · refine Ledger.Runs.bind (R := fun _ ↦ Stays (.working (some command))) (Ledger.runs_keeping
      (quiescenceFailed_keeping hwhole.toFrame) fun _ _ _ h ↦ h.leaves) fun failed ↦
      (fares_work (p := .working (some command))
        fun a w h ↦ h.of_same rfl rfl rfl).bind fun _ ↦ Ledger.runs_pure fun a w h ↦ ?_
    rw [settledPlace, if_neg fun h ↦ hrun h.1]
    exact h

theorem canceledRequest_fares (message : String) (hcommand : command ≠ .stopSession) :
    Fares (canceledRequest env command message) (Stays (.working (some command)))
      (fun _ ↦ Stays (.left (some command))) fun _ ↦ Stays (.left (some command)) := by
  have hwhole := @working_whole env (some command) fun h ↦ hcommand (Option.some.inj h)
  have hkeeps : ∀ {α : Type} {m : Session α}, Keeping (Preserves (fateLedger.Holds
      (Stays (.working (some command))))) m → Fares m (Stays (.working (some command)))
      (fun _ ↦ Stays (.working (some command))) fun _ ↦ Stays (.left (some command)) :=
    fun h ↦ Ledger.runs_keeping h fun _ _ _ h ↦ h.leaves
  have hends : ∀ {m : Session Unit}, Keeping (Preserves (fateLedger.Holds
      (Stays (.working (some command))))) m → Fares m (Stays (.working (some command)))
      (fun _ ↦ Stays (.left (some command))) fun _ ↦ Stays (.left (some command)) :=
    fun h ↦ (hkeeps h).imp (fun _ _ _ h ↦ h.leaves) fun _ _ _ ↦ id
  unfold canceledRequest
  extract_lets recovered
  refine (hkeeps (setMessage_keeping hwhole.toFrame _)).bind fun _ ↦
    (hkeeps (look_keeping hwhole.toFrame _)).bind fun runtimeFailure ↦
    Ledger.runs_ite (fun _ ↦ ?_) fun _ ↦ ?_
  · exact (hkeeps (setMessage_keeping hwhole.toFrame _)).bind fun _ ↦
      hends (failSession_keeping hwhole.toFrame trivial _ _)
  refine (settleRequest_fares hcommand).bind fun failed ↦
    Ledger.runs_ite (fun hlook ↦ ?_) fun hlook ↦ ?_
  · rw [settledPlace, if_pos hlook]
    exact (Ledger.runs_keeping (missionQuiescenceFailed_keeping (fate_frame _)
      (Place.allows_failed _)) fun _ _ _ h ↦ h.leaves).imp (fun _ _ _ h ↦ h.leaves) fun _ _ _ ↦ id
  · rw [settledPlace, if_neg hlook]
    exact Ledger.runs_join (hends (recover_keeping hwhole message))
      (fun _ hk ↦ (hkeeps (setOutcome_keeping hwhole.toFrame _ (by decide))).bind fun _ ↦ hk)
      fun _ _ _ ↦ id

theorem requestRaised_fares (error : SessionException) (hcommand : command ≠ .stopSession) :
    Fares (requestRaised env command error) (Stays (.working (some command)))
      (fun _ ↦ Stays (.left (some command))) fun _ ↦ Stays (.left (some command)) := by
  have hwhole := @working_whole env (some command) fun h ↦ hcommand (Option.some.inj h)
  have hfailed : ∀ message, Fares (failedRequest env command message)
      (Stays (.working (some command))) (fun _ ↦ Stays (.left (some command)))
      fun _ ↦ Stays (.left (some command)) := fun message ↦
    (Ledger.runs_keeping (failedRequest_keeping hwhole command message)
      fun _ _ _ h ↦ h.leaves).imp (fun _ _ _ h ↦ h.leaves) fun _ _ _ ↦ id
  cases error with
  | automaticMissionCancelled message => exact canceledRequest_fares message hcommand
  | persistentStageSwitchInterrupted message | raised message => exact hfailed _

end Raised

section Stopping

variable {env : SessionEnvironment}

def StopRaised (error : SessionException) (a : Fate) (w : SessionWorld) : Prop :=
  (∀ message, error ≠ .automaticMissionCancelled message) ∧ Stays .stopping a w

theorem stopCall_fares {call : SessionCall} (hcall : call.forRequest = false) :
    Fares (port env call) (Stays .stopping) (fun _ ↦ Stays .stopping) StopRaised := by
  have hlogged : ∀ (w : SessionWorld) reply, fateLedger.Holds (Stays .stopping) w →
      fateLedger.Holds (Stays .stopping) (w.log (.port call reply)) := fun w reply h ↦
    fate_unnoted (fateless fun _ ↦ ⟨rfl, trivial⟩) (fun _ ha hsound ↦ (ha hsound).log _) h
  refine Ledger.runs_port (fate_stable _) (fun w reply hw ↦ hlogged w _ hw) fun w error hw ↦ ?_
  refine (hlogged w _ hw).imp fun a ha ↦ ⟨fun message ↦ ?_, ha⟩
  cases error with
  | automaticMissionCancelled message' =>
    rw [SessionCall.raises, hcall]
    intro h
    cases h
  | persistentStageSwitchInterrupted message' | raised message' =>
    intro h
    cases h

theorem stopWrite_fares {g : SessionWorld → SessionWorld} (htrace : ∀ w, (g w).trace = w.trace)
    (h : ∀ a w, At .stopping a w → At .stopping a (g w)) :
    Fares (write env g) (Stays .stopping) (fun _ ↦ Stays .stopping) StopRaised :=
  fares_write htrace h

theorem stopStage_fares (cause : StopCause) :
    Fares (stopStage env cause) (Stays .stopping) (fun _ ↦ Stays .stopping) StopRaised :=
  (stopCall_fares rfl).bind fun _ ↦ (stopWrite_fares (g := (·.withStage "")) (fun _ ↦ rfl)
    fun _ _ h ↦ h.of_same rfl rfl trivial).bind fun _ ↦ stopCall_fares rfl

theorem stopTransition_fares {phase : SessionPhase} {detail : String}
    (hphase : phase = .stopping ∨ phase = .stopped) :
    Fares (transition env phase detail) (Stays .stopping) (fun _ ↦ Stays .stopping) StopRaised :=
  Ledger.runs_write (fate_stable _) fun w hw ↦ (@fate_frame env .stopping).transition w phase
    detail none none (Place.stopping_allows hphase) hw

theorem stopSession_fares :
    Fares (stopSession env) (Stays .stopping) (fun _ ↦ Stays .stopping) StopRaised := by
  unfold stopSession
  extract_lets stopped
  have hstopped : Fares (stopped ()) (Stays .stopping) (fun _ ↦ Stays .stopping) StopRaised :=
    stopTransition_fares (.inr rfl)
  refine (stopTransition_fares (.inl rfl)).bind fun _ ↦ Ledger.runs_ite (fun _ ↦ ?_) fun _ ↦
    (stopStage_fares _).bind fun _ ↦ hstopped
  refine Ledger.Runs.bind (R := fun _ ↦ Stays .stopping) ?_ fun _ ↦ hstopped
  exact (stopCall_fares rfl).bind fun _ ↦ (stopStage_fares _).bind fun _ ↦ stopCall_fares rfl

theorem runStop_fares (fuel : ℕ) :
    Fares (runCommand env fuel .stopSession) (Stays .stopping) (fun _ ↦ Stays .stopping)
      StopRaised := by
  have hframe := @fate_frame env .stopping
  have hrequest : ∀ f : CommandRequest → CommandRequest, Fares (setRequest env f)
      (Stays .stopping) (fun _ ↦ Stays .stopping) StopRaised := fun f ↦
    stopWrite_fares (fun _ ↦ rfl) fun _ _ h ↦ h.aside
      (n := { (_ : SessionWorld).node with activeRequest := _ }) rfl id id
  refine Ledger.Runs.bind (R := fun _ ↦ Stays .stopping) ((Ledger.runs_look (fate_stable _)).bind
    fun value w hw ↦ ?_) fun canceled ↦ Ledger.runs_ite (fun _ ↦ hrequest _) fun _ ↦ ?_
  · exact meets_modify_bind (meets_pure (hframe.canceled w _ value (hw.imp fun _ ↦ And.left)))
  · exact stopSession_fares.bind fun _ ↦ hrequest _

theorem stopRaised_fares (error : SessionException) :
    Fares (requestRaised env .stopSession error) (StopRaised error)
      (fun _ ↦ Stays (.left (some .stopSession))) fun _ ↦ Stays (.left (some .stopSession)) := by
  have hframe := @fate_frame env .stopping
  have hkeeps : ∀ {α : Type} {m : Session α}, Keeping (Preserves (fateLedger.Holds
      (Stays .stopping))) m → Fares m (Stays .stopping) (fun _ ↦ Stays .stopping)
      fun _ ↦ Stays (.left (some .stopSession)) :=
    fun h ↦ Ledger.runs_keeping h fun _ _ _ h ↦ h.leaves
  have hfailed : ∀ message, Fares (failedRequest env .stopSession message) (StopRaised error)
      (fun _ ↦ Stays (.left (some .stopSession))) fun _ ↦ Stays (.left (some .stopSession)) := by
    intro message
    refine Ledger.Runs.of_imp (D := Stays .stopping) ?_ fun _ _ h ↦ h.2
    refine (hkeeps (setMessage_keeping hframe _)).bind fun _ ↦ ?_
    refine (hkeeps (look_keeping hframe _)).bind fun phase ↦ Ledger.runs_ite (fun _ ↦ ?_) fun _ ↦
      Ledger.runs_pure fun _ _ h ↦ h.leaves
    exact (hkeeps (transition_keeping hframe (Place.allows_failed _))).imp
      (fun _ _ _ h ↦ h.leaves) fun _ _ _ ↦ id
  cases error with
  | automaticMissionCancelled message =>
    exact fun w hw ↦ absurd rfl (hw.content.1 message)
  | persistentStageSwitchInterrupted message | raised message => exact hfailed _

end Stopping

section Requests

variable {env : SessionEnvironment} {E : SessionException → Fate → SessionWorld → Prop}

theorem endRequest_fares (command : SessionCommand) :
    Fares (endRequest env) (Stays (.left (some command))) (fun _ ↦ Stays (.left none)) E := by
  refine (fares_work (p := .left (some command)) fun _ _ h ↦ h.of_same rfl rfl trivial).bind
    fun _ ↦ (fares_write (p := .left (some command))
      (g := fun w ↦ { w with navigationStartupFailurePending := false }) (fun _ ↦ rfl)
      fun _ _ h ↦ h.of_same rfl rfl trivial).bind fun _ ↦
    (fares_write (p := .left (some command))
      (g := fun w ↦ w.withNode { w.node with activeRequest := none }) (fun _ ↦ rfl)
      fun _ w h ↦ h.aside (n := { w.node with activeRequest := none }) rfl id id).bind fun _ ↦
    Ledger.runs_write (fate_stable _) fun w hw ↦ fate_seen ?_
  have hlet := hw.write (v := w.withNode { w.node with operationActive := false })
    (D := Stays (.left (some command))) rfl
    fun a ha hsound ↦ (ha hsound).aside (n := { w.node with operationActive := false }) rfl id id
  refine hlet.log (fun _ _ ↦ trivial) fun a ha hsound ↦ ?_
  have hat := ha hsound
  exact ⟨hat.awaits, hat.barrier, hat.outcome, trivial, rfl, hat.phase⟩

def requestPlace (command : SessionCommand) : Place :=
  if command = .stopSession then .stopping else .working (some command)

theorem absorbs_accepted {a : Fate} {s : SessionSnapshot} {command : SessionCommand}
    (habsorbs : a.Absorbs s.phase) (h : (s.validate command).1 = true) :
    command = .stopSession := by
  obtain ⟨hrun, hsave, hstart, hfailed⟩ := validate_accepted h
  rcases habsorbs with hphase | ⟨-, hphase⟩
  · exact hfailed hphase
  · have hnot : ∀ phase, s.phase = phase → phase ≠ .stopping → phase ≠ .stopped → False := by
      rintro phase rfl hstopping hstopped
      exact hphase.elim hstopping hstopped
    cases command with
    | stopSession => rfl
    | runAutomaticMission => exact (hnot _ (hrun rfl) (by decide) (by decide)).elim
    | saveMap =>
      exact ((hsave (.inl rfl)).elim (hnot _ · (by decide) (by decide))
        (hnot _ · (by decide) (by decide))).elim
    | saveAndStartNavigation =>
      exact ((hsave (.inr rfl)).elim (hnot _ · (by decide) (by decide))
        (hnot _ · (by decide) (by decide))).elim
    | startNavigation =>
      rcases hstart rfl with hnavigating | hcompleted | hsaved
      · exact (hnot _ hnavigating (by decide) (by decide)).elim
      · exact (hnot _ hcompleted (by decide) (by decide)).elim
      · exact (hnot _ hsaved (by decide) (by decide)).elim

theorem admitRequest_fares (request : CommandRequest) :
    Fares (admitRequest env request) (Stays (.left none)) (fun admitted ↦
      Stays (bif admitted then requestPlace request.command else .left none)) E := by
  intro w hw
  refine (meets_interfere (fate_stable _) hw).bind fun _ w hw ↦ meets_get_bind ?_
  extract_lets begun
  refine meets_ite (fun hbegun ↦ meets_modify_bind (meets_pure ?_)) fun _ ↦ meets_pure hw
  obtain ⟨hvalid, hnode⟩ := beginRequest_accepted hbegun
  have hbefore : fateLedger.Holds (fun a w' ↦ Stays (.left none) a w' ∧ w'.work = .working ∧
      (w'.node.fsm.validate request.command).1 = true)
        ((w.withNode begun.1).withWork .working) := by
    refine hw.write rfl fun a ha ↦ ⟨fun hsound ↦ ?_, rfl, ?_⟩
    · rw [show begun.1 = _ from hnode]
      exact ((ha hsound).aside (n := { w.node with
        operationActive := true, activeRequest := some request }) rfl id id).of_same rfl rfl trivial
    · rw [show begun.1 = _ from hnode]
      exact hvalid
  refine hbefore.log (fun _ _ ↦ trivial) fun a ha hsound ↦ ?_
  obtain ⟨hstays, hwork, hvalid⟩ := ha
  have hat := (hstays hsound).log (.began request.command w.node.fsm.mapSaved)
  have hstop : a.failed = true → request.command = .stopSession := fun hfailed ↦
    absorbs_accepted ((hstays hsound).phase hfailed) hvalid
  unfold requestPlace
  split_ifs with hcommand
  · refine ⟨hat.awaits, hat.barrier, hat.outcome, trivial, congrArg some hcommand,
      fun hfailed ↦ ⟨?_, ?_⟩⟩
    · have hstopping : (a.failed && decide (request.command = .stopSession)) = true :=
        Bool.and_eq_true_iff.mpr ⟨hfailed, decide_eq_true hcommand⟩
      show (a.stopping || (a.failed && decide (request.command = .stopSession))) = true
      rw [hstopping, Bool.or_true]
    · exact (hat.phase hfailed).imp id And.right
  · exact ⟨hat.awaits, hat.barrier, hat.outcome, hwork, rfl,
      fun hfailed ↦ absurd (hstop hfailed) hcommand⟩

theorem executeRequest_fares (fuel : ℕ) (request : CommandRequest) :
    Fares (executeRequest env fuel request) (Stays (.left none)) (fun _ ↦ Stays (.left none))
      fun _ ↦ Stays (.left none) := by
  have hend := @endRequest_fares env (fun _ ↦ Stays (.left none)) request.command
  refine (admitRequest_fares request).bind fun admitted ↦ Ledger.runs_ite (fun hadmitted ↦ ?_)
    fun hrefused ↦ Ledger.runs_pure fun a w ha ↦ ?_
  · subst hadmitted
    refine Ledger.Runs.bind (R := fun _ ↦ Stays (requestPlace request.command)) (fares_write
      (g := fun w ↦ { w with navigationStartupFailurePending := false }) (fun _ ↦ rfl)
      fun _ _ h ↦ h.of_same rfl rfl h.work) fun _ ↦ ?_
    have htried : Fares (handle (runCommand env fuel request.command)
        (requestRaised env request.command)) (Stays (requestPlace request.command))
        (fun _ ↦ Stays (.left (some request.command)))
        fun _ ↦ Stays (.left (some request.command)) := by
      by_cases hcommand : request.command = .stopSession
      · rw [requestPlace, if_pos hcommand, hcommand]
        exact ((runStop_fares fuel).imp (fun _ _ _ h ↦ h.leaves) fun _ _ _ ↦ id).handle
          stopRaised_fares
      · have hwhole := @working_whole env (some request.command)
          fun h ↦ hcommand (Option.some.inj h)
        rw [requestPlace, if_neg hcommand]
        exact ((Ledger.runs_keeping (runCommand_keeping hwhole fuel request.command fun _ ↦ trivial)
          fun _ _ _ ↦ id).imp (fun _ _ _ h ↦ h.leaves) fun _ _ _ ↦ id).handle
          fun error ↦ requestRaised_fares error hcommand
    exact htried.ensure (fun _ ↦ hend) fun _ ↦ hend
  · rw [eq_false_of_ne_true hrefused] at ha
    exact ha

theorem executeRequests_fares (fuel : ℕ) (requests : List CommandRequest) :
    Fares (executeRequests env fuel requests) (Stays (.left none)) (fun _ ↦ Stays (.left none))
      fun _ ↦ Stays (.left none) := by
  induction requests with
  | nil => exact fun w hw ↦ meets_interfere (fate_stable _) hw
  | cons request requests ih => exact (executeRequest_fares fuel request).bind fun _ ↦ ih

theorem workerLoop_fares (fuel : ℕ) (requests : List CommandRequest) :
    Fares (workerLoop env fuel requests) (fun a w ↦ a = {} ∧ w.callbacks = [])
      (fun _ _ _ ↦ True) fun _ _ _ ↦ True := by
  have hwhole := @working_whole env none nofun
  refine Ledger.Runs.bind (R := fun _ ↦ Stays (.working none)) (fun w hw ↦ meets_modify
    (hw.write rfl fun a ha hsound ↦ ?_)) fun _ ↦ ?_
  · obtain ⟨rfl, hcallbacks⟩ := ha
    refine ⟨.inr fun callback hcallback ↦ ?_, fun h ↦ h.elim nofun nofun, nofun, rfl, rfl, nofun⟩
    rw [SessionWorld.withWork, hcallbacks] at hcallback
    exact absurd hcallback List.not_mem_nil
  refine Ledger.Runs.bind (R := fun _ ↦ Stays (.working none)) (Ledger.runs_keeping
    (Relates.attempt (startMapping_keeping hwhole)) fun _ _ _ _ ↦ trivial) fun started ↦ ?_
  cases started with
  | error error =>
    exact (Ledger.runs_keeping (failMappingStartup_keeping hwhole error) fun _ _ _ _ ↦ trivial).imp
      (fun _ _ _ _ ↦ trivial) fun _ _ _ ↦ id
  | ok _ =>
    refine Ledger.Runs.bind (fares_work (p := .left none) fun _ _ h ↦
      h.leaves.of_same rfl rfl trivial) fun _ ↦ ?_
    exact (executeRequests_fares fuel requests).imp (fun _ _ _ _ ↦ trivial) fun _ _ _ _ ↦ trivial

end Requests

theorem failed_quiescence_absorbs (env : SessionEnvironment) (fuel : ℕ)
    (requests : List CommandRequest) (w : SessionWorld) (htrace : w.trace = [])
    (hcallbacks : w.callbacks = []) {pre post : List SessionEntry} {phase : SessionPhase}
    {outcome : MissionOutcome}
    (h : (workerLoop env fuel requests w).2.trace = pre ++ .seen phase outcome :: post)
    (hsound : (fateLedger.account pre).sound = true)
    (hfailed : (fateLedger.account pre).failed = true) :
    (fateLedger.account pre).Absorbs phase ∧
      (outcome = .succeeded → (fateLedger.account pre).succeeded = true) := by
  have hstart : fateLedger.Holds (fun a w ↦ a = {} ∧ w.callbacks = []) w := by
    refine ⟨?_, ?_, hcallbacks⟩
    · rw [htrace]
      trivial
    · rw [htrace]
      rfl
  have htold := (Meets.state (@workerLoop_fares env fuel requests w hstart)).told
  rw [h] at htold
  exact ((along_append _).mp htold).2.1 hsound hfailed

/-- The lease of an authority that was AUTONOMY five seconds ago. -/
def leasedWorld : SessionWorld where
  node := { gated with authorityLease := {
    leaseS := .ofRat 1, snapshot := some drivingSnapshot, receivedAt := some 0 } }
  mapPath := "map.yaml"

def leaseExpires : List OtherEvent := [.leaseTimer (.ofRat 5), .run 0, .run 0, .run 0, .run 0]

def expiresInStartup (trace : List SessionEntry) : List OtherEvent :=
  match trace.getLast? with
  | some (.port .startBase _) => leaseExpires
  | _ => []

def expiresAfterStartup (trace : List SessionEntry) : List OtherEvent :=
  match trace.getLast? with
  | some (.seen .mapping _) => leaseExpires
  | _ => []

def glimpsed : SessionEntry → Option (SessionPhase × MissionOutcome)
  | .seen phase outcome => some (phase, outcome)
  | _ => none

theorem getLast_of_glimpsed {entries : List SessionEntry} {phase : SessionPhase}
    {outcome : MissionOutcome} (h : entries.getLast?.bind glimpsed = some (phase, outcome)) :
    entries.getLast? = some (.seen phase outcome) := by
  obtain ⟨e, hlast, he⟩ := Option.bind_eq_some_iff.mp h
  cases e with
  | seen phase' outcome' =>
    cases he
    exact hlast
  | _ => cases he

def requestsAfterFailure : List CommandRequest :=
  [{ command := .saveMap, source := "voice" }, { command := .stopSession, source := "voice" }]

theorem failed_quiescence_absorbs_until_stop :
    let trace := (workerLoop (calmEnvironment true expiresAfterStartup) 0 requestsAfterFailure
      leasedWorld).2.trace
    ((trace.filterMap glimpsed).map Prod.fst).dedup =
        [.startingMapping, .mapping, .failed, .stopping, .stopped] ∧
      trace.getLast? = some (.seen .stopped .failed) ∧
      (fateLedger.account trace.dropLast).Absorbs .stopped := by
  intro trace
  have hlast : trace.getLast? = some (.seen .stopped .failed) :=
    getLast_of_glimpsed (by decide +kernel)
  refine ⟨by decide +kernel, hlast,
    (@failed_quiescence_absorbs (calmEnvironment true expiresAfterStartup) 0 requestsAfterFailure
      leasedWorld rfl rfl trace.dropLast [] .stopped .failed ?_ (by decide +kernel)
      (by decide +kernel)).1⟩
  exact (List.dropLast_append_getLast? _ hlast).symm

/-- The startup goes on to MAPPING. -/
theorem mapping_after_failed_quiescence :
    let w := (workerLoop (calmEnvironment true expiresInStartup) 0 [] leasedWorld).2
    (fateLedger.account w.trace).failed = true ∧ (fateLedger.account w.trace).stopping = false ∧
      w.node.autonomyQuiescence.state = .failed ∧ w.node.fsm.phase = .mapping := by
  decide +kernel

end SessionWorker

end EmbodiedAgent.Slam
