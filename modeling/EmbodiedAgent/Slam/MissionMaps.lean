import EmbodiedAgent.Slam.ReadyPhases

namespace EmbodiedAgent.Slam

open Library Library.Program Library.History SessionOrchestrator

def MissionProfile.returns : MissionProfile → Bool
  | .sceneRoute .. => false
  | .unknownWorld .. => true

/-- What the trace tells about the map of the request that was begun last. -/
structure Voyage where
  mapSaved : Bool := false
  explored : Bool := false
  returned : Bool := false
  saved : Option String := none
  navigated : Bool := false

namespace Voyage

variable (returns : Bool) (a : Voyage)

def explorationOver : Bool := a.explored && (a.returned || !returns)

def afterCall (call : SessionCall) (ok : Bool) : Voyage :=
  match call with
  | .saveMap path =>
    if ok then { a with saved := if a.explorationOver returns then some path else none } else a
  | .spawnStage stage path =>
    if ok then { a with navigated := decide (stage = "navigation" ∧ a.saved = some path) } else a
  | _ => a

def step : SessionEntry → Voyage
  | .port call reply => a.afterCall returns call reply.isOk
  | .explored => { a with explored := true }
  | .returned => { a with returned := true }
  | .began _ mapSaved => { mapSaved := mapSaved }
  | _ => a

def Honest (a : Voyage) : SessionEntry → Prop
  | .transition phase => phase = .missionCompleted → (a.navigated = true ↔ a.mapSaved = false)
  | _ => True

end Voyage

def voyageLedger (profile : MissionProfile) : Ledger Voyage where
  start := {}
  step := Voyage.step profile.returns
  Honest := Voyage.Honest

namespace SessionWorker

section Frame

structure Unmoved (w w' : SessionWorld) : Prop where
  mapSaved : w'.node.fsm.mapSaved = w.node.fsm.mapSaved
  mapYamlPath : w'.node.fsm.mapYamlPath = w.node.fsm.mapYamlPath
  mapPath : w'.mapPath = w.mapPath
  phase : w'.node.fsm.phase = w.node.fsm.phase ∨ w'.node.fsm.phase ≠ .navigating

/-- `C` outlasts the steps of the others, and what the exploration notes down. -/
structure Steadfast (C : Voyage → SessionWorld → Prop) : Prop where
  unmoved : ∀ a w w', Unmoved w w' → C a w → C a w'
  explored : ∀ (a : Voyage) w, C a w → C { a with explored := true } w
  returned : ∀ (a : Voyage) w, C a w → C { a with returned := true } w

variable {env : SessionEnvironment} {w w' : SessionWorld} {a : Voyage}
  {C D : Voyage → SessionWorld → Prop}

theorem Unmoved.of_fsm (hfsm : w'.node.fsm = w.node.fsm) (hpath : w'.mapPath = w.mapPath) :
    Unmoved w w' := by
  refine ⟨?_, ?_, hpath, .inl ?_⟩
  · rw [hfsm]
  · rw [hfsm]
  · rw [hfsm]

theorem transition_fsm (n : SessionOrchestrator) (phase : SessionPhase) (detail : String)
    (mapSaved : Option Bool) (mapYamlPath : Option String) :
    (n.transition phase detail mapSaved mapYamlPath).fsm =
      n.fsm.transition phase detail mapSaved mapYamlPath := by
  unfold SessionOrchestrator.transition
  split_ifs <;> rfl

theorem unmoved_transition {phase : SessionPhase} (hphase : phase ≠ .navigating)
    (detail : String) : Unmoved w (w.withNode (w.node.transition phase detail none none)) := by
  refine ⟨?_, ?_, rfl, .inr hphase⟩
  · exact (congrArg SessionSnapshot.mapSaved (transition_fsm w.node phase detail none none) :)
  · exact (congrArg SessionSnapshot.mapYamlPath (transition_fsm w.node phase detail none none) :)

def Mapless (profile : MissionProfile) (e : SessionEntry) : Prop :=
  ∀ a : Voyage, a.step profile.returns e = a ∧ a.Honest e

theorem voyage_unnoted (hC : Steadfast C) {e : SessionEntry} (he : Mapless env.profile e)
    (h : (voyageLedger env.profile).Holds C w) : (voyageLedger env.profile).Holds C (w.log e) := by
  refine h.log (fun a _ ↦ (he a).2) fun a ha ↦ ?_
  rw [show (voyageLedger env.profile).step a e = a from (he a).1]
  exact hC.unmoved a w _ (.of_fsm rfl rfl) ha

theorem voyage_seen (hC : Steadfast C) (h : (voyageLedger env.profile).Holds C w) :
    (voyageLedger env.profile).Holds C w.seen :=
  voyage_unnoted hC (fun _ ↦ ⟨rfl, trivial⟩) h

theorem voyage_stable (hC : Steadfast C) : Stable env ((voyageLedger env.profile).Holds C) := by
  refine stable_of_disturbed fun w w' hdisturbed h ↦ ?_
  have hunmoved : Unmoved w w' := by
    refine ⟨hdisturbed.node.mapSaved, hdisturbed.node.mapYamlPath, hdisturbed.mapPath, ?_⟩
    rcases hdisturbed.node.phase with hphase | hphase | hphase
    · exact .inl hphase
    · exact .inr (by rw [hphase]; decide)
    · exact .inr (by rw [hphase]; decide)
  obtain ⟨more, htrace, hmore⟩ := hdisturbed.trace
  refine h.others htrace (fun a ha ↦ hC.unmoved a w w' hunmoved ha) fun a ha e he ↦ ?_
  have hothers := hmore e he
  cases e with
  | failed work outcome | quiesces | seen phase outcome => exact ⟨rfl, trivial⟩
  | _ => exact absurd hothers id

def Landlocked (call : SessionCall) : Prop :=
  ∀ returns (a : Voyage) ok, a.afterCall returns call ok = a

theorem landlocked_of_quiet (call : SessionCall) (h : quiet call = true) : Landlocked call := by
  intro returns a ok
  cases call <;> first | rfl | cases h

def Passes (C : Voyage → SessionWorld → Prop) (phase : SessionPhase) (mapSaved : Option Bool)
    (mapYamlPath : Option String) : Prop :=
  mapSaved = none ∧ mapYamlPath = none ∧ phase ≠ .navigating ∧
    (phase = .missionCompleted → ∀ a w, C a w → (a.navigated = true ↔ a.mapSaved = false))

theorem voyage_frame (hC : Steadfast C) :
    Frame env (Preserves ((voyageLedger env.profile).Holds C)) Landlocked (Passes C) where
  other w e h := voyage_stable hC w e h
  port w call reply hcall h := voyage_unnoted hC (fun a ↦ ⟨hcall _ a _, trivial⟩) h
  transition w phase detail mapSaved mapYamlPath hphase h := by
    obtain ⟨rfl, rfl, hne, hcompleted⟩ := hphase
    have hafter := h.write (v := w.withNode (w.node.transition phase detail none none)) rfl
      (D := fun a w' ↦ C a w' ∧ (phase = .missionCompleted →
        (a.navigated = true ↔ a.mapSaved = false)))
      fun a ha ↦ ⟨hC.unmoved a w _ (unmoved_transition hne detail) ha, fun hphase ↦
        hcompleted hphase a w ha⟩
    refine voyage_seen hC (hafter.log (fun a ha ↦ ha.2) fun a ha ↦ ?_)
    exact hC.unmoved a (w.withNode _) _ (.of_fsm rfl rfl) ha.1
  canceled w point value h := voyage_unnoted hC (fun _ ↦ ⟨rfl, trivial⟩) h
  request w f hf h := voyage_seen hC (h.write rfl fun a ha ↦ hC.unmoved a w _ (.of_fsm rfl rfl) ha)
  outcome w outcome message _ h :=
    voyage_seen hC (h.write rfl fun a ha ↦ hC.unmoved a w _ (.of_fsm rfl rfl) ha)
  aside w n hn h := h.write rfl fun a ha ↦ hC.unmoved a w _ (.of_fsm hn.fsm rfl) ha
  seen w h := voyage_seen hC h
  evidence w value h :=
    voyage_seen hC (h.write rfl fun a ha ↦ hC.unmoved a w _ (.of_fsm rfl rfl) ha)
  explored w h := h.log (fun _ _ ↦ trivial) fun a ha ↦
    hC.unmoved _ w _ (.of_fsm rfl rfl) (hC.explored a w ha)
  returned w h := h.log (fun _ _ ↦ trivial) fun a ha ↦
    hC.unmoved _ w _ (.of_fsm rfl rfl) (hC.returned a w ha)

theorem anything_steadfast : Steadfast fun _ _ ↦ True :=
  ⟨fun _ _ _ _ ↦ id, fun _ _ ↦ id, fun _ _ ↦ id⟩

theorem voyage_every : Every env (Preserves ((voyageLedger env.profile).Holds fun _ _ ↦ True))
    fun phase _ _ ↦ phase ≠ .missionCompleted :=
  have hwrite : ∀ w w' : SessionWorld, w'.trace = w.trace →
      Preserves ((voyageLedger env.profile).Holds fun _ _ ↦ True) w w' :=
    fun _ _ htrace h ↦ h.write htrace fun _ _ ↦ trivial
  have hlog : ∀ (w : SessionWorld) e, (∀ a : Voyage, a.Honest e) →
      Preserves ((voyageLedger env.profile).Holds fun _ _ ↦ True) w (w.log e) :=
    fun _ _ he h ↦ h.log (fun a _ ↦ he a) fun _ _ ↦ trivial
  have hframe := @voyage_frame env _ anything_steadfast
  { other := hframe.other
    canceled := hframe.canceled
    request := hframe.request
    outcome := hframe.outcome
    aside := hframe.aside
    seen := hframe.seen
    evidence := hframe.evidence
    explored := hframe.explored
    returned := hframe.returned
    port := fun w _ _ _ ↦ hlog w _ fun _ ↦ trivial
    transition := fun w _ _ _ _ hphase h ↦ voyage_seen anything_steadfast
      (hlog _ _ (fun _ hcompleted ↦ absurd hcompleted hphase) (hwrite w (w.withNode _) rfl h))
    phases := fun _ _ _ ↦ id
    elsewhere := fun w w' h ↦ hwrite w w' h.trace
    recovers := fun w _ ↦ hlog w _ fun _ ↦ trivial
    stopFailed := fun w _ _ ↦ hlog w _ fun _ ↦ trivial
    work := fun w _ ↦ hwrite w _ rfl
    failed := fun w _ h ↦ voyage_seen anything_steadfast
      (hlog _ _ (fun _ ↦ trivial) (hwrite w (w.withNode _) rfl h))
    released := fun w ↦ hwrite w _ rfl
    ended := fun w ↦ hlog w _ fun _ ↦ trivial }

end Frame

section Rules

abbrev Sails {α : Type} (env : SessionEnvironment) (m : Session α)
    (C : Voyage → SessionWorld → Prop) (Q : α → Voyage → SessionWorld → Prop) : Prop :=
  (voyageLedger env.profile).Runs m C Q fun _ _ _ ↦ True

variable {env : SessionEnvironment} {α β : Type} {C D : Voyage → SessionWorld → Prop}
  {R : α → Voyage → SessionWorld → Prop} {P : β → Voyage → SessionWorld → Prop}

theorem Steadfast.and (hC : Steadfast C) (hD : Steadfast D) :
    Steadfast fun a w ↦ C a w ∧ D a w where
  unmoved a w w' hunmoved h := ⟨hC.unmoved a w w' hunmoved h.1, hD.unmoved a w w' hunmoved h.2⟩
  explored a w h := ⟨hC.explored a w h.1, hD.explored a w h.2⟩
  returned a w h := ⟨hC.returned a w h.1, hD.returned a w h.2⟩

theorem path_steadfast (path : String) : Steadfast fun _ w ↦ w.mapPath = path :=
  ⟨fun _ _ _ hunmoved h ↦ hunmoved.mapPath.trans h, fun _ _ ↦ id, fun _ _ ↦ id⟩

theorem sails_keeping {m : Session α}
    (h : Keeping (Preserves ((voyageLedger env.profile).Holds C)) m) : Sails env m C fun _ ↦ C :=
  Ledger.runs_keeping h fun _ _ _ _ ↦ trivial

theorem sails_raising {m : Session α} {Q : α → Voyage → SessionWorld → Prop}
    (h : Relates (Preserves ((voyageLedger env.profile).Holds fun _ _ ↦ True)) (fun _ ↦ True) m
      fun _ ↦ False) : Sails env m (fun _ _ ↦ True) Q := fun w hw ↦
  (h w).mono (fun _ _ h' ↦ h'.1.elim) (fun _ _ h' ↦ h'.2 hw) fun _ h' ↦ h' hw

variable (hC : Steadfast C)

include hC

theorem sails_call {call : SessionCall} (hcall : Landlocked call) :
    Sails env (port env call) C fun _ ↦ C :=
  sails_keeping (port_keeping (voyage_frame hC) hcall)

theorem sails_phase {phase : SessionPhase} {detail : String} (hphase : Passes C phase none none) :
    Sails env (transition env phase detail) C fun _ ↦ C :=
  sails_keeping (transition_keeping (voyage_frame hC) hphase)

theorem sails_look {f : SessionWorld → α} : Sails env (look env f) C fun x a w ↦ C a w ∧ f w = x :=
  Ledger.runs_look (voyage_stable hC)

theorem sails_write (hD : Steadfast D) {g : SessionWorld → SessionWorld}
    (htrace : ∀ w, (g w).trace = w.trace) (h : ∀ a w, C a w → D a (g w)) :
    Sails env (write env g) C fun _ ↦ D :=
  Ledger.runs_write (voyage_stable hC) fun w hw ↦
    voyage_seen hD (hw.write (htrace w) fun a ↦ h a w)

theorem sails_aside {g : SessionWorld → SessionWorld} (htrace : ∀ w, (g w).trace = w.trace)
    (hfsm : ∀ w, (g w).node.fsm = w.node.fsm) (hpath : ∀ w, (g w).mapPath = w.mapPath) :
    Sails env (write env g) C fun _ ↦ C :=
  sails_write hC hC htrace fun a w ↦ hC.unmoved a w _ (.of_fsm (hfsm w) (hpath w))

theorem sails_port (hD : Steadfast D) {call : SessionCall}
    (h : ∀ (a : Voyage) w, C a w → D (a.afterCall env.profile.returns call true) w) :
    Sails env (port env call) C fun _ ↦ D := by
  refine Ledger.runs_port (voyage_stable hC) (fun w reply hw ↦ ?_) fun w error hw ↦ ?_
  · exact hw.log (fun _ _ ↦ trivial) fun a ha ↦ hD.unmoved _ w _ (.of_fsm rfl rfl) (h a w ha)
  · exact hw.log (fun _ _ ↦ trivial) fun _ _ ↦ trivial

theorem sails_transition (hD : Steadfast D) {phase : SessionPhase} {detail : String}
    {mapSaved : Option Bool} {mapYamlPath : Option String} (hphase : phase ≠ .missionCompleted)
    (h : ∀ a w, C a w → D a (w.withNode (w.node.transition phase detail mapSaved mapYamlPath))) :
    Sails env (transition env phase detail mapSaved mapYamlPath) C fun _ ↦ D := by
  refine Ledger.runs_write (voyage_stable hC) fun w hw ↦ ?_
  have hafter := hw.write (v := w.withNode (w.node.transition phase detail mapSaved mapYamlPath))
    rfl fun a ↦ h a w
  exact voyage_seen hD (voyage_unnoted hD
    (fun _ ↦ ⟨rfl, fun hcompleted ↦ absurd hcompleted hphase⟩) hafter)

end Rules

section Missions

structure Charting (a : Voyage) (w : SessionWorld) : Prop where
  saved : a.saved = none
  navigated : a.navigated = false
  mapSaved : w.node.fsm.mapSaved = a.mapSaved
  phase : w.node.fsm.phase ≠ .navigating

structure Mapped (a : Voyage) (w : SessionWorld) : Prop where
  navigated : a.navigated = false
  phase : w.node.fsm.phase ≠ .navigating
  map : a.mapSaved = true ∧ a.saved = none ∨
    a.mapSaved = false ∧ a.saved = some w.mapPath ∧ w.node.fsm.mapYamlPath = w.mapPath

def Sailed (a : Voyage) (_ : SessionWorld) : Prop := a.navigated = true ↔ a.mapSaved = false

variable {env : SessionEnvironment}

theorem Unmoved.phase_ne {w w' : SessionWorld} (hunmoved : Unmoved w w')
    (h : w.node.fsm.phase ≠ .navigating) : w'.node.fsm.phase ≠ .navigating := by
  rcases hunmoved.phase with hphase | hphase
  · rw [hphase]
    exact h
  · exact hphase

theorem charting_steadfast : Steadfast Charting where
  unmoved _ _ _ hunmoved h := ⟨h.saved, h.navigated, hunmoved.mapSaved.trans h.mapSaved,
    hunmoved.phase_ne h.phase⟩
  explored _ _ h := ⟨h.saved, h.navigated, h.mapSaved, h.phase⟩
  returned _ _ h := ⟨h.saved, h.navigated, h.mapSaved, h.phase⟩

theorem mapped_steadfast : Steadfast Mapped where
  unmoved _ _ _ hunmoved h := by
    refine ⟨h.navigated, hunmoved.phase_ne h.phase, ?_⟩
    rw [hunmoved.mapPath, hunmoved.mapYamlPath]
    exact h.map
  explored _ _ h := ⟨h.navigated, h.phase, h.map⟩
  returned _ _ h := ⟨h.navigated, h.phase, h.map⟩

theorem sailed_steadfast : Steadfast Sailed :=
  ⟨fun _ _ _ _ ↦ id, fun _ _ ↦ id, fun _ _ ↦ id⟩

theorem explored_steadfast : Steadfast fun a _ ↦ a.explored = true :=
  ⟨fun _ _ _ _ ↦ id, fun _ _ _ ↦ rfl, fun _ _ ↦ id⟩

theorem over_steadfast (returns : Bool) : Steadfast fun a _ ↦ a.explorationOver returns = true := by
  refine ⟨fun _ _ _ _ ↦ id, fun a _ h ↦ ?_, fun a _ h ↦ ?_⟩
  · exact Bool.and_eq_true_iff.mpr ⟨rfl, (Bool.and_eq_true_iff.mp h).2⟩
  · exact Bool.and_eq_true_iff.mpr ⟨(Bool.and_eq_true_iff.mp h).1, rfl⟩

theorem passes_of_ne {C : Voyage → SessionWorld → Prop} {phase : SessionPhase}
    (hnavigating : phase ≠ .navigating) (hcompleted : phase ≠ .missionCompleted) :
    Passes C phase none none :=
  ⟨rfl, rfl, hnavigating, fun h ↦ absurd h hcompleted⟩

theorem markExplored_sails {C : Voyage → SessionWorld → Prop} (hC : Steadfast C) :
    Sails env markExplored C fun _ a w ↦ C a w ∧ a.explored = true := fun w hw ↦
  meets_modify (hw.log (fun _ _ ↦ trivial) fun a ha ↦
    ⟨hC.unmoved _ w _ (.of_fsm rfl rfl) (hC.explored a w ha), rfl⟩)

theorem markReturned_sails {C : Voyage → SessionWorld → Prop} (hC : Steadfast C) :
    Sails env markReturned (fun a w ↦ C a w ∧ a.explored = true)
      fun _ a w ↦ C a w ∧ a.explorationOver env.profile.returns = true := fun w hw ↦ by
  refine meets_modify (hw.log (fun _ _ ↦ trivial) fun a ha ↦
    ⟨hC.unmoved _ w _ (.of_fsm rfl rfl) (hC.returned a w ha.1), ?_⟩)
  exact Bool.and_eq_true_iff.mpr ⟨ha.2, rfl⟩

theorem exploreFrontiers_sails :
    Sails env (exploreFrontiers env) Charting fun _ a w ↦ Charting a w ∧ a.explored = true :=
  (sails_call charting_steadfast (landlocked_of_quiet _ rfl)).bind fun _ ↦
    (sails_keeping (frontiers_keeping (voyage_frame charting_steadfast)
      landlocked_of_quiet)).bind fun _ ↦ markExplored_sails charting_steadfast

theorem mapSceneRoute_sails (route : List (String × String × String)) :
    Sails env (mapSceneRoute env route) Charting fun _ a w ↦ Charting a w ∧ a.explored = true := by
  have hquiet : ∀ {call : SessionCall}, quiet call = true →
      Sails env (port env call) Charting fun _ ↦ Charting := fun h ↦
    sails_call charting_steadfast (landlocked_of_quiet _ h)
  have hautomatic : Passes Charting .automaticMapping none none :=
    passes_of_ne (by decide) (by decide)
  have hmapped := charting_steadfast.and explored_steadfast
  refine (sails_phase charting_steadfast hautomatic).bind fun _ ↦ (hquiet rfl).bind fun _ ↦
    (hquiet rfl).bind fun _ ↦ (sails_keeping (bootstrap_keeping (voyage_frame charting_steadfast)
      landlocked_of_quiet hautomatic _ route)).bind fun _ ↦
    (sails_phase charting_steadfast hautomatic).bind fun _ ↦
    exploreFrontiers_sails.bind fun _ ↦ ?_
  exact (sails_phase hmapped (passes_of_ne (by decide) (by decide))).bind fun _ ↦
    sails_call hmapped (landlocked_of_quiet _ rfl)

theorem returnToStart_sails :
    Sails env (returnToStart env) (fun a w ↦ Charting a w ∧ a.explored = true)
      fun _ a w ↦ Charting a w ∧ a.explorationOver env.profile.returns = true := by
  have hexplored := charting_steadfast.and explored_steadfast
  have hover := charting_steadfast.and (over_steadfast env.profile.returns)
  exact (sails_phase hexplored (passes_of_ne (by decide) (by decide))).bind fun _ ↦
    (sails_call hexplored (landlocked_of_quiet _ rfl)).bind fun _ ↦
    (sails_call hexplored (landlocked_of_quiet _ rfl)).bind fun _ ↦
    (markReturned_sails charting_steadfast).bind fun _ ↦
    sails_aside hover (fun _ ↦ rfl) (fun _ ↦ rfl) fun _ ↦ rfl

theorem mapUnknownWorld_sails (fuel : ℕ) (initialScanText : String) :
    Sails env (mapUnknownWorld env fuel initialScanText) Charting
      fun _ a w ↦ Charting a w ∧ a.explorationOver env.profile.returns = true := by
  have hquiet : ∀ {call : SessionCall}, quiet call = true →
      Sails env (port env call) Charting fun _ ↦ Charting := fun h ↦
    sails_call charting_steadfast (landlocked_of_quiet _ h)
  have hautomatic : Passes Charting .automaticMapping none none :=
    passes_of_ne (by decide) (by decide)
  have hexplored := charting_steadfast.and explored_steadfast
  have hexplores : Sails env (exploreWithBoundedRecovery env fuel) Charting
      fun _ a w ↦ Charting a w ∧ a.explored = true :=
    (sails_keeping (relates_iterate (exploreRound_keeping (voyage_frame charting_steadfast)
      landlocked_of_quiet hautomatic) fuel ())).bind fun _ ↦
      (markExplored_sails charting_steadfast).bind fun _ ↦ Ledger.runs_pure fun _ _ ↦ id
  refine (sails_phase charting_steadfast hautomatic).bind fun _ ↦ (hquiet rfl).bind fun _ ↦
    (hquiet rfl).bind fun _ ↦ (hquiet rfl).bind fun _ ↦ (hquiet rfl).bind fun _ ↦
    hexplores.bind fun _ ↦ ?_
  exact (sails_phase hexplored (passes_of_ne (by decide) (by decide))).bind fun _ ↦
    (sails_call hexplored (landlocked_of_quiet _ rfl)).bind fun _ ↦ returnToStart_sails

structure Stored (path : String) (a : Voyage) (w : SessionWorld) : Prop where
  navigated : a.navigated = false
  phase : w.node.fsm.phase ≠ .navigating
  mapSaved : a.mapSaved = false
  saved : a.saved = some path
  mapPath : w.mapPath = path

theorem stored_steadfast (path : String) : Steadfast (Stored path) where
  unmoved _ _ _ hunmoved h := ⟨h.navigated, hunmoved.phase_ne h.phase, h.mapSaved, h.saved,
    hunmoved.mapPath.trans h.mapPath⟩
  explored _ _ h := ⟨h.navigated, h.phase, h.mapSaved, h.saved, h.mapPath⟩
  returned _ _ h := ⟨h.navigated, h.phase, h.mapSaved, h.saved, h.mapPath⟩

theorem Charting.mapped {a : Voyage} {w : SessionWorld} (h : Charting a w)
    (hsaved : w.node.fsm.mapSaved = true) : Mapped a w :=
  ⟨h.navigated, h.phase, .inl ⟨h.mapSaved.symm.trans hsaved, h.saved⟩⟩

theorem Stored.mapped {path detail : String} {a : Voyage} {w : SessionWorld} (h : Stored path a w) :
    Mapped a (w.withNode (w.node.transition .mapSaved detail (some true) (some path))) := by
  have hfsm := transition_fsm w.node .mapSaved detail (some true) (some path)
  refine ⟨h.navigated, ?_, .inr ⟨h.mapSaved, h.saved.trans (congrArg some h.mapPath.symm), ?_⟩⟩
  · have hphase := congrArg SessionSnapshot.phase hfsm
    exact fun hnavigating ↦ SessionPhase.noConfusion (hphase.symm.trans hnavigating)
  · have hyaml := congrArg SessionSnapshot.mapYamlPath hfsm
    exact hyaml.trans h.mapPath.symm

theorem saveMap_sails :
    Sails env (saveMap env) (fun a w ↦ Charting a w ∧ a.explorationOver env.profile.returns = true)
      fun _ ↦ Mapped := by
  have hcharted := charting_steadfast.and (over_steadfast env.profile.returns)
  have hfirst : Steadfast fun a w ↦
      (Charting a w ∧ a.explorationOver env.profile.returns = true) ∧ a.mapSaved = false :=
    hcharted.and ⟨fun _ _ _ _ ↦ id, fun _ _ ↦ id, fun _ _ ↦ id⟩
  refine (sails_look hcharted).bind fun saved ↦ Ledger.runs_ite (fun hsaved ↦ ?_) fun hsaved ↦ ?_
  · refine (sails_keeping (setMessage_keeping (voyage_frame mapped_steadfast) _)).of_imp ?_
    exact fun a w h ↦ h.1.1.mapped (h.2.trans hsaved)
  · refine Ledger.Runs.of_imp (D := fun a w ↦
      (Charting a w ∧ a.explorationOver env.profile.returns = true) ∧ a.mapSaved = false) ?_
      fun a w h ↦ ⟨h.1, h.1.1.mapSaved.symm.trans (h.2.trans (eq_false_of_ne_true hsaved))⟩
    refine (sails_phase hfirst (passes_of_ne (by decide) (by decide))).bind fun _ ↦
      (sails_call hfirst (landlocked_of_quiet _ rfl)).bind fun _ ↦
      (sails_look hfirst).bind fun path ↦ ?_
    have hstored : Sails env (port env (.saveMap path))
        (fun a w ↦ ((Charting a w ∧ a.explorationOver env.profile.returns = true) ∧
          a.mapSaved = false) ∧ w.mapPath = path) fun _ ↦ Stored path := by
      refine sails_port (hfirst.and (path_steadfast path)) (stored_steadfast path) ?_
      rintro a w ⟨⟨⟨hcharting, hover⟩, hnew⟩, hpath⟩
      refine ⟨hcharting.navigated, hcharting.phase, hnew, ?_, hpath⟩
      exact if_pos hover
    refine Ledger.Runs.bind (Ledger.Runs.handle hstored fun error ↦ ?_) fun _ ↦
      (sails_keeping (checkReturnToStart_keeping (voyage_frame (stored_steadfast path))
        landlocked_of_quiet)).bind fun _ ↦
      (sails_transition (stored_steadfast path) mapped_steadfast (by decide)
        fun a w ↦ Stored.mapped).bind fun _ ↦
      sails_call mapped_steadfast (landlocked_of_quiet _ rfl)
    exact (sails_keeping (phase_keeping voyage_every.toWhole (by decide))).bind fun _ ↦
      Ledger.runs_raise fun _ _ _ ↦ trivial

structure Bound (env : SessionEnvironment) (path : String) (a : Voyage) (w : SessionWorld) :
    Prop where
  mapped : Mapped a w
  path : env.persistentRuntimeEnabled = true → w.node.fsm.mapYamlPath = path

theorem bound_steadfast (path : String) : Steadfast (Bound env path) where
  unmoved a w w' hunmoved h := ⟨mapped_steadfast.unmoved a w w' hunmoved h.mapped,
    fun hpersistent ↦ hunmoved.mapYamlPath.trans (h.path hpersistent)⟩
  explored a w h := ⟨mapped_steadfast.explored a w h.mapped, h.path⟩
  returned a w h := ⟨mapped_steadfast.returned a w h.mapped, h.path⟩

theorem mapYamlPath_sails : Sails env (mapYamlPath env) Mapped (Bound env) := by
  refine Ledger.runs_ite (fun _ ↦ ?_) fun hcompat ↦ ?_
  · refine (sails_look mapped_steadfast).bind fun path ↦ Ledger.runs_ite (fun _ ↦ ?_) fun _ ↦ ?_
    · exact Ledger.runs_raise fun _ _ _ ↦ trivial
    · exact Ledger.runs_pure fun _ _ h ↦ ⟨h.1, fun _ ↦ h.2⟩
  · exact Ledger.runs_pure fun _ _ h ↦ ⟨h, fun hpersistent ↦ absurd hpersistent hcompat⟩

theorem stopStage_sails {C : Voyage → SessionWorld → Prop} (hC : Steadfast C) (cause : StopCause) :
    Sails env (stopStage env cause) C fun _ ↦ C :=
  (sails_call hC (landlocked_of_quiet _ rfl)).bind fun _ ↦
    (sails_aside hC (g := (·.withStage "")) (fun _ ↦ rfl) (fun _ ↦ rfl) fun _ ↦ rfl).bind fun _ ↦
    sails_call hC fun _ _ _ ↦ rfl

theorem prepareNavigation_sails {path : String}
    (hpersistent : env.persistentRuntimeEnabled = true) :
    Sails env (prepareNavigation env path) (Bound env path) fun _ ↦ Mapped := by
  refine (sails_call (bound_steadfast path) (landlocked_of_quiet _ rfl)).bind fun _ ↦
    sails_write (bound_steadfast path) mapped_steadfast (fun _ ↦ rfl) fun a w h ↦
      ⟨h.mapped.navigated, h.mapped.phase, ?_⟩
  rcases h.mapped.map with hold | ⟨hnew, hsaved, hyaml⟩
  · exact .inl hold
  · have hpath : w.mapPath = path := hyaml.symm.trans (h.path hpersistent)
    exact .inr ⟨hnew, hsaved.trans (congrArg some hpath), hyaml.trans hpath⟩

theorem startStage_sails : Sails env (startStage env "navigation") Mapped fun _ ↦ Sailed := by
  refine Ledger.Runs.bind (R := fun _ ↦ Mapped) (sails_call mapped_steadfast
    (landlocked_of_quiet _ rfl)) fun (exited : Bool) ↦ ?_
  extract_lets started
  have hstarted : Sails env (started ()) Mapped fun _ ↦ Sailed := by
    refine (sails_look mapped_steadfast).bind fun path ↦ Ledger.Runs.bind (R := fun _ ↦ Sailed) ?_
      fun _ ↦ sails_aside sailed_steadfast (fun _ ↦ rfl) (fun _ ↦ rfl) fun _ ↦ rfl
    refine sails_port (mapped_steadfast.and (path_steadfast path)) sailed_steadfast ?_
    rintro a w ⟨h, rfl⟩
    show decide ("navigation" = "navigation" ∧ a.saved = some w.mapPath) = true ↔
      a.mapSaved = false
    rw [decide_eq_true_iff]
    rcases h.map with ⟨hold, hsaved⟩ | ⟨hnew, hsaved, -⟩
    · rw [hold, hsaved]
      exact ⟨nofun, nofun⟩
    · exact ⟨fun _ ↦ hnew, fun _ ↦ ⟨rfl, hsaved⟩⟩
  refine Ledger.runs_join hstarted (fun _ hk ↦ ?_) fun _ _ _ ↦ id
  exact (sails_call mapped_steadfast fun _ _ _ ↦ rfl).bind fun _ ↦
    (sails_aside mapped_steadfast (g := (·.withStage "")) (fun _ ↦ rfl) (fun _ ↦ rfl)
      fun _ ↦ rfl).bind fun _ ↦ hk

theorem replaceStage_sails (path : String) :
    Sails env (replaceStage env path) (Bound env path) fun _ ↦ Sailed := by
  unfold replaceStage
  extract_lets started prepared
  have hstarted : Sails env (started ()) Sailed fun _ ↦ Sailed :=
    (sails_call sailed_steadfast fun _ _ _ ↦ rfl).bind fun _ ↦
      (sails_keeping (cancelIf_keeping (voyage_frame sailed_steadfast) _ _)).bind fun _ ↦
      Ledger.runs_ite (fun _ ↦ sails_call sailed_steadfast fun _ _ _ ↦ rfl) fun _ ↦
      Ledger.runs_pure fun _ _ ↦ id
  have hprepared : Sails env (prepared ()) Mapped fun _ ↦ Sailed := by
    refine (sails_phase mapped_steadfast (passes_of_ne (by decide) (by decide))).bind fun _ ↦
      (sails_call mapped_steadfast (landlocked_of_quiet _ rfl)).bind fun _ ↦
      startStage_sails.bind fun _ ↦ Ledger.runs_join hstarted (fun _ hk ↦ ?_) fun _ _ _ ↦ id
    exact (sails_call sailed_steadfast fun _ _ _ ↦ rfl).bind fun _ ↦ hk
  have hbound := @bound_steadfast env path
  refine (sails_aside hbound (g := fun w ↦ { w with stageReplaced := env.persistentRuntimeEnabled })
    (fun _ ↦ rfl) (fun _ ↦ rfl) fun _ ↦ rfl).bind fun _ ↦ (stopStage_sails hbound _).bind fun _ ↦
    (sails_keeping (cancelIf_keeping (voyage_frame hbound) _ _)).bind fun _ ↦
    Ledger.runs_join hprepared (fun hpersistent hk ↦ ?_) fun _ _ _ h ↦ h.mapped
  exact (prepareNavigation_sails hpersistent).bind fun _ ↦ hk

theorem switchStage_sails (fuel : ℕ) (path : String) :
    Sails env (switchStage env fuel path) (Bound env path) fun _ ↦ Sailed := by
  refine (sails_keeping (holdStage_keeping (voyage_frame (bound_steadfast path))
    landlocked_of_quiet)).bind fun identity ↦ (replaceStage_sails path).bind fun _ ↦ ?_
  have hsailed := @voyage_frame env _ sailed_steadfast
  cases identity with
  | none => exact Ledger.runs_pure fun _ _ ↦ id
  | some identity =>
    exact (sails_keeping (cancelIf_keeping hsailed _ _)).bind fun _ ↦
      sails_keeping (resumeInternalStageSwitch_keeping hsailed landlocked_of_quiet fuel identity)

theorem startNavigation_sails (fuel : ℕ) :
    Sails env (startNavigation env fuel) Mapped fun _ ↦ Sailed := by
  have hsailed := @voyage_frame env _ sailed_steadfast
  have hclear : Sails env (do
      if ← look env (authorityTransaction env) then
        write env fun w ↦ w.withNode w.node.clearStageSwitch : Session Unit) Sailed
      fun _ ↦ Sailed :=
    (sails_look sailed_steadfast).bind fun _ ↦ Ledger.Runs.of_imp (D := Sailed)
      (Ledger.runs_ite (fun _ ↦ sails_aside sailed_steadfast (fun _ ↦ rfl) (fun _ ↦ rfl)
        fun _ ↦ rfl) fun _ ↦ Ledger.runs_pure fun _ _ ↦ id) fun _ _ h ↦ h.1
  refine (sails_look mapped_steadfast).bind fun phase ↦ Ledger.runs_ite (fun hphase ↦ ?_) fun _ ↦ ?_
  · refine (sails_keeping (setMessage_keeping hsailed _)).of_imp fun a w h ↦ ?_
    exact absurd (h.2.trans hphase) h.1.phase
  · refine Ledger.Runs.of_imp (D := Mapped) ?_ fun _ _ h ↦ h.1
    refine (sails_phase mapped_steadfast (passes_of_ne (by decide) (by decide))).bind fun _ ↦
      (sails_call mapped_steadfast (landlocked_of_quiet _ rfl)).bind fun _ ↦
      mapYamlPath_sails.bind fun path ↦
      (sails_aside (bound_steadfast path) (g := fun w ↦ { w with stageReplaced := false })
        (fun _ ↦ rfl) (fun _ ↦ rfl) fun _ ↦ rfl).bind fun _ ↦
      Ledger.Runs.bind (R := fun _ ↦ Sailed) (Ledger.Runs.ensure (Ledger.Runs.handle
        (switchStage_sails fuel path) fun error ↦ sails_raising (switchFailed_keeping
          voyage_every.toWhole error)) (fun _ ↦ hclear) fun _ ↦
        sails_keeping (clearStageSwitch_keeping voyage_every.toWhole)) fun _ ↦ ?_
    exact (sails_transition sailed_steadfast sailed_steadfast (by decide) fun _ _ ↦ id).bind
      fun _ ↦ sails_call sailed_steadfast (landlocked_of_quiet _ rfl)

theorem waitNavigationReady_sails : Sails env (waitNavigationReady env) Sailed fun _ ↦ Sailed := by
  refine Ledger.Runs.handle (sails_call sailed_steadfast (landlocked_of_quiet _ rfl)) fun error ↦ ?_
  have hcleanup : ∀ error : SessionException, Sails env
      (cleanupFailedNavigationStartup env >>= fun _ ↦ raise error : Session Unit)
      (fun _ _ ↦ True) fun _ ↦ Sailed := fun _ ↦
    (sails_keeping (cleanupFailedNavigationStartup_keeping voyage_every.toWhole)).bind fun _ ↦
      Ledger.runs_raise fun _ _ ↦ id
  cases error with
  | automaticMissionCancelled message => exact Ledger.runs_raise fun _ _ ↦ id
  | persistentStageSwitchInterrupted message | raised message => exact hcleanup _

theorem navigateSavedMap_sails (fuel : ℕ) : Sails env (navigateSavedMap env fuel)
      (fun a w ↦ Charting a w ∧ a.explorationOver env.profile.returns = true) fun _ ↦ Sailed :=
  saveMap_sails.bind fun _ ↦
    (sails_keeping (cancelIf_keeping (voyage_frame mapped_steadfast) _ _)).bind fun _ ↦
    (startNavigation_sails fuel).bind fun _ ↦ waitNavigationReady_sails

theorem runMission_sails (fuel : ℕ) : Sails env (runMission env fuel) Charting fun _ ↦ Sailed := by
  have hsailed := @voyage_frame env _ sailed_steadfast
  have hnavigating : Passes Sailed .automaticNavigating none none :=
    passes_of_ne (by decide) (by decide)
  have hcompleted : Passes Sailed .missionCompleted none none :=
    ⟨rfl, rfl, by decide, fun _ _ _ ↦ id⟩
  have hmapped := @mapSceneRoute_sails env
  have hsaved := @navigateSavedMap_sails env fuel
  unfold runMission
  cases hprofile : env.profile with
  | sceneRoute route navigateText patrolText =>
    rw [hprofile] at hsaved
    refine (hmapped route).bind fun _ ↦ (hsaved.of_imp fun a w h ↦ ⟨h.1, ?_⟩).bind fun _ ↦
      sails_keeping (patrolScene_keeping hsailed landlocked_of_quiet hnavigating hcompleted
        navigateText patrolText)
    exact Bool.and_eq_true_iff.mpr ⟨h.2, Bool.or_true _⟩
  | unknownWorld initialScanText goalCount =>
    exact (mapUnknownWorld_sails fuel initialScanText).bind fun _ ↦
      (navigateSavedMap_sails fuel).bind fun _ ↦ sails_keeping (visitGoals_keeping hsailed
        landlocked_of_quiet hnavigating hcompleted goalCount)

theorem runCommand_sails (fuel : ℕ) {command : SessionCommand} :
    Sails env (runCommand env fuel command)
      (fun a w ↦ command = .runAutomaticMission → Charting a w) fun _ _ _ ↦ True := by
  by_cases hrun : command = .runAutomaticMission
  · refine Ledger.Runs.of_imp (D := Charting) ?_ fun _ _ h ↦ h hrun
    unfold runCommand
    extract_lets steps
    rw [if_pos hrun]
    have hsteps : Sails env (steps ()) (fun _ _ ↦ True) fun _ _ _ ↦ True :=
      sails_keeping (runSteps_keeping voyage_every.toWhole fuel command)
    have hframe := @voyage_frame env _ charting_steadfast
    exact (sails_keeping (setOutcome_keeping hframe _ (by decide))).bind fun _ ↦
      (sails_aside charting_steadfast (g := fun w ↦ { w with returnToStartEvidence := false })
        (fun _ ↦ rfl) (fun _ ↦ rfl) fun _ ↦ rfl).bind fun _ ↦
      (runMission_sails fuel).bind fun _ ↦ hsteps.of_imp fun _ _ _ ↦ trivial
  · refine Ledger.Runs.of_imp (sails_keeping (runCommand_keeping voyage_every.toWhole fuel command
      fun h ↦ absurd h hrun)) fun _ _ _ ↦ trivial

theorem admitRequest_sails (request : CommandRequest) :
    Sails env (admitRequest env request) (fun _ _ ↦ True) fun admitted a w ↦
      admitted = true → request.command = .runAutomaticMission → Charting a w := by
  intro w hw
  refine (meets_interfere (voyage_stable anything_steadfast) hw).bind fun _ w hw ↦
    meets_get_bind ?_
  extract_lets begun
  refine meets_ite (fun hbegun ↦ meets_modify_bind (meets_pure ?_)) fun _ ↦
    meets_pure (hw.imp fun _ _ h ↦ absurd h nofun)
  obtain ⟨hvalid, hnode⟩ := beginRequest_accepted hbegun
  have hbefore := hw.write (v := (w.withNode begun.1).withWork .working)
    (D := fun _ w' ↦ w'.node.fsm = w.node.fsm) rfl fun _ _ ↦
    (congrArg SessionOrchestrator.fsm hnode :)
  refine hbefore.log (fun _ _ ↦ trivial) fun a hfsm _ hrun ↦ ⟨rfl, rfl, ?_, ?_⟩
  · exact congrArg SessionSnapshot.mapSaved hfsm
  · have hphase := congrArg SessionSnapshot.phase hfsm
    rw [(validate_accepted hvalid).1 hrun] at hphase
    exact fun hnavigating ↦ SessionPhase.noConfusion (hphase.symm.trans hnavigating)

theorem executeRequest_sails (fuel : ℕ) (request : CommandRequest) :
    Sails env (executeRequest env fuel request) (fun _ _ ↦ True) fun _ _ _ ↦ True := by
  have hbegun : Steadfast fun a w ↦ request.command = .runAutomaticMission → Charting a w :=
    ⟨fun a w w' hunmoved h hrun ↦ charting_steadfast.unmoved a w w' hunmoved (h hrun),
      fun a w h hrun ↦ charting_steadfast.explored a w (h hrun),
      fun a w h hrun ↦ charting_steadfast.returned a w (h hrun)⟩
  have hend := sails_keeping (@endRequest_keeping env _ _ _ voyage_every)
  refine (admitRequest_sails request).bind fun admitted ↦
    Ledger.runs_ite (fun hadmitted ↦ ?_) fun _ ↦ Ledger.runs_pure fun _ _ _ ↦ trivial
  refine Ledger.Runs.of_imp (D := fun a w ↦ request.command = .runAutomaticMission → Charting a w)
    ?_ fun _ _ h ↦ h hadmitted
  refine Ledger.Runs.bind (sails_aside hbegun (g := fun w ↦
    { w with navigationStartupFailurePending := false }) (fun _ ↦ rfl) (fun _ ↦ rfl)
    fun _ ↦ rfl) fun _ ↦ ?_
  exact Ledger.Runs.ensure (Ledger.Runs.handle (runCommand_sails fuel) fun error ↦
    sails_keeping (requestRaised_keeping voyage_every _ error)) (fun _ ↦ hend) fun _ ↦ hend

theorem executeRequests_sails (fuel : ℕ) (requests : List CommandRequest) :
    Sails env (executeRequests env fuel requests) (fun _ _ ↦ True) fun _ _ _ ↦ True := by
  induction requests with
  | nil => exact fun w hw ↦ meets_interfere (voyage_stable anything_steadfast) hw
  | cons request requests ih => exact (executeRequest_sails fuel request).bind fun _ ↦ ih

theorem workerLoop_sails (fuel : ℕ) (requests : List CommandRequest) :
    Sails env (workerLoop env fuel requests) (fun _ _ ↦ True) fun _ _ _ ↦ True := by
  have hwork : ∀ work, Sails env (modify (·.withWork work)) (fun _ _ ↦ True) fun _ _ _ ↦ True :=
    fun work ↦ sails_keeping fun w ↦ meets_modify ⟨trivial, voyage_every.work w work⟩
  refine (hwork _).bind fun _ ↦ Ledger.Runs.bind (sails_keeping (Relates.attempt
    (startMapping_keeping voyage_every.toWhole))) fun started ↦ ?_
  cases started with
  | error error => exact sails_keeping (failMappingStartup_keeping voyage_every.toWhole error)
  | ok _ => exact (hwork _).bind fun _ ↦ executeRequests_sails fuel requests

end Missions

theorem mission_completed_on_own_map_iff (env : SessionEnvironment) (fuel : ℕ)
    (requests : List CommandRequest) (w : SessionWorld) (htrace : w.trace = [])
    {pre post : List SessionEntry}
    (h : (workerLoop env fuel requests w).2.trace = pre ++ .transition .missionCompleted :: post) :
    ((voyageLedger env.profile).account pre).navigated = true ↔
      ((voyageLedger env.profile).account pre).mapSaved = false := by
  have hstart : (voyageLedger env.profile).Holds (fun _ _ ↦ True) w := by
    refine ⟨?_, trivial⟩
    rw [htrace]
    trivial
  have htold := (Meets.state (@workerLoop_sails env fuel requests w hstart)).told
  rw [h] at htold
  exact ((along_append _).mp htold).2.1 rfl

/-- The goal of the mission is canceled while its map is being saved. -/
def canceledAfterSave (trace : List SessionEntry) : List OtherEvent :=
  match trace.getLast? with
  | some (.port (.saveMap _) _) => [.cancelGoal]
  | _ => []

def missionRequest : CommandRequest := { command := .runAutomaticMission, source := "voice" }

def entered : SessionEntry → Option SessionPhase
  | .transition phase => some phase
  | _ => none

theorem split_of_entered {entries : List SessionEntry} {i : ℕ} {phase : SessionPhase}
    (h : entries[i]?.bind entered = some phase) :
    entries = entries.take i ++ .transition phase :: entries.drop (i + 1) := by
  obtain ⟨e, hget, he⟩ := Option.bind_eq_some_iff.mp h
  obtain ⟨hlt, hget⟩ := List.getElem?_eq_some_iff.mp hget
  cases e with
  | transition phase' =>
    cases he
    rw [← hget, ← List.drop_eq_getElem_cons hlt, List.take_append_drop]
  | _ => cases he

theorem mission_completed_on_own_map : let env := calmEnvironment true fun _ ↦ []
    let trace := (workerLoop env 1 [missionRequest] freshWorld).2.trace
    trace = trace.take 72 ++ .transition .missionCompleted :: trace.drop 73 ∧
      (((voyageLedger env.profile).account (trace.take 72)).navigated = true ↔
        ((voyageLedger env.profile).account (trace.take 72)).mapSaved = false) := by
  intro env trace
  have hsplit : trace = trace.take 72 ++ .transition .missionCompleted :: trace.drop 73 :=
    split_of_entered (by decide +kernel)
  exact ⟨hsplit, mission_completed_on_own_map_iff env 1 [missionRequest] freshWorld rfl hsplit⟩

/-- The second mission completes on the map that the first one has saved. -/
theorem mission_completed_on_earlier_map : let env := calmEnvironment true canceledAfterSave
    let trace := (workerLoop env 1 [missionRequest, missionRequest] freshWorld).2.trace
    trace = trace.take 104 ++ .transition .missionCompleted :: trace.drop 105 ∧
      ((voyageLedger env.profile).account (trace.take 104)).navigated = false := by
  intro env trace
  have hsplit : trace = trace.take 104 ++ .transition .missionCompleted :: trace.drop 105 :=
    split_of_entered (by decide +kernel)
  exact ⟨hsplit, by decide +kernel⟩

end SessionWorker

end EmbodiedAgent.Slam
