import EmbodiedAgent.Library.History

namespace EmbodiedAgent.Slam.StageProcesses

open Library

inductive ProcessRole
  | base
  | stage
  | explorer
  | mapSave
  deriving DecidableEq

inductive Signal
  | term
  | groupTerm
  | groupKill

/-- How a live root answers a call of `_stop_process_tree`, the calls counted. -/
structure Kernel where
  owned : ℕ → ℕ → Bool
  exitsOn : ℕ → ℕ → Signal → Bool

def Kernel.Spares (kernel : Kernel) (root : ℕ) : Prop :=
  ∃ call, kernel.owned call root = false ∨ kernel.exitsOn call root .groupKill = false

/-- The roots are numbered in the order in which they are spawned. -/
structure Processes where
  roots : List ProcessRole := []
  live : List ℕ := []
  commands : ℕ := 0
  stopped : List ℕ := []
  survivors : List ℕ := []
  deriving DecidableEq

namespace Processes

variable (kernel : Kernel) (os : Processes)

def exit (root : ℕ) : Processes := { os with live := os.live.filter fun p ↦ p ≠ root }

def spawn (role : ProcessRole) : Processes :=
  { os with roots := os.roots ++ [role], live := os.live ++ [os.roots.length] }

def survive (root : ℕ) : Processes := { os with survivors := os.survivors ++ [root] }

def stopProcessTree : Option ℕ → Processes
  | none => os
  | some root =>
    let call := os.stopped.length
    let os' := { os with stopped := os.stopped ++ [root] }
    if root ∈ os.live then
      if !kernel.owned call root then os'.survive root
      else if kernel.exitsOn call root .term then os'.exit root
      else if kernel.exitsOn call root .groupTerm then os'.exit root
      else if kernel.exitsOn call root .groupKill then os'.exit root
      else os'.survive root
    else os'

variable {kernel os} {p : ℕ} {process : Option ℕ} {role : ProcessRole}

@[simp] theorem mem_exit_live {root : ℕ} : p ∈ (os.exit root).live ↔ p ∈ os.live ∧ p ≠ root := by
  simp [exit]

variable (kernel os) in
theorem stopProcessTree_cases (root : ℕ) :
    let os' : Processes := { os with stopped := os.stopped ++ [root] }
    os.stopProcessTree kernel (some root) = os'.exit root ∨
      root ∈ os.live ∧ os.stopProcessTree kernel (some root) = os'.survive root ∧
        kernel.Spares root := by
  unfold stopProcessTree
  dsimp only
  split_ifs with hlive howned hterm hgroupTerm hkill
  · exact .inr ⟨hlive, rfl, _, .inl (by simpa using howned)⟩
  · exact .inl rfl
  · exact .inl rfl
  · exact .inl rfl
  · exact .inr ⟨hlive, rfl, _, .inr (by simpa using hkill)⟩
  · have hsame : (os.live.filter fun p ↦ p ≠ root) = os.live :=
      List.filter_eq_self.mpr fun p hp ↦ by simpa using fun heq : p = root ↦ hlive (heq ▸ hp)
    exact .inl (by rw [exit, hsame])

@[simp] theorem stop_roots : (os.stopProcessTree kernel process).roots = os.roots := by
  cases process with
  | none => rfl
  | some root =>
    rcases stopProcessTree_cases kernel os root with heq | ⟨-, heq, -⟩
    · rw [heq]; rfl
    · rw [heq]; rfl

@[simp] theorem stop_commands : (os.stopProcessTree kernel process).commands = os.commands := by
  cases process with
  | none => rfl
  | some root =>
    rcases stopProcessTree_cases kernel os root with heq | ⟨-, heq, -⟩
    · rw [heq]; rfl
    · rw [heq]; rfl

@[simp] theorem mem_stop_stopped :
    p ∈ (os.stopProcessTree kernel process).stopped ↔ p ∈ os.stopped ∨ process = some p := by
  cases process with
  | none => simp [stopProcessTree]
  | some root =>
    rcases stopProcessTree_cases kernel os root with heq | ⟨-, heq, -⟩
    · simp [heq, exit, eq_comm]
    · simp [heq, survive, eq_comm]

theorem live_of_stop (h : p ∈ (os.stopProcessTree kernel process).live) : p ∈ os.live := by
  cases process with
  | none => exact h
  | some root =>
    rcases stopProcessTree_cases kernel os root with heq | ⟨-, heq, -⟩
    · rw [heq] at h
      exact (mem_exit_live.mp h).1
    · rw [heq] at h
      exact h

theorem survivors_of_stop (h : p ∈ os.survivors) :
    p ∈ (os.stopProcessTree kernel process).survivors := by
  cases process with
  | none => exact h
  | some root =>
    rcases stopProcessTree_cases kernel os root with heq | ⟨-, heq, -⟩
    · rw [heq]
      exact h
    · rw [heq]
      exact List.mem_append_left _ h

theorem mem_stop_survivors (h : p ∈ (os.stopProcessTree kernel process).survivors) :
    p ∈ os.survivors ∨ process = some p ∧ kernel.Spares p := by
  cases process with
  | none => exact .inl h
  | some root =>
    rcases stopProcessTree_cases kernel os root with heq | ⟨-, heq, hspares⟩
    · rw [heq] at h
      exact .inl h
    · rw [heq] at h
      refine (List.mem_append.mp h).imp_right fun hp ↦ ?_
      rw [List.mem_singleton.mp hp]
      exact ⟨rfl, hspares⟩

theorem stop_survives (h : p ∈ (os.stopProcessTree kernel (some p)).live) :
    p ∈ (os.stopProcessTree kernel (some p)).survivors := by
  rcases stopProcessTree_cases kernel os p with heq | ⟨-, heq, -⟩
  · rw [heq] at h
    exact absurd rfl (mem_exit_live.mp h).2
  · rw [heq]
    exact List.mem_append_right _ (.head _)

end Processes

/-- A call of `save_map` that has spawned and not returned. -/
structure SaveCall where
  process : ℕ
  stopped : Bool := false
  deriving DecidableEq

structure StageProcessManager where
  persistentRuntimeEnabled : Bool
  dryRun : Bool
  baseProcess : Option ℕ := none
  stageProcess : Option ℕ := none
  explorerProcess : Option ℕ := none
  mapSaveProcess : Option ℕ := none
  baseStartedOnce : Bool := false
  runtimeParamsPrepared : Bool := false
  dryRunBaseLive : Bool := false
  dryRunStageStarted : Bool := false
  terminal : Bool := false
  stage : String := ""
  os : Processes := {}
  saves : List SaveCall := []
  deriving DecidableEq

namespace StageProcessManager

variable (kernel : Kernel) (m : StageProcessManager)

/-- `poll() is None` -/
def polls (process : Option ℕ) : Bool := process.any fun p ↦ p ∈ m.os.live

def baseIsLive : Bool := if m.dryRun then m.dryRunBaseLive else m.polls m.baseProcess

def handle : ProcessRole → Option ℕ
  | .base => m.baseProcess
  | .stage => m.stageProcess
  | .explorer => m.explorerProcess
  | .mapSave => m.mapSaveProcess

def hold (process : Option ℕ) : ProcessRole → StageProcessManager
  | .base => { m with baseProcess := process }
  | .stage => { m with stageProcess := process }
  | .explorer => { m with explorerProcess := process }
  | .mapSave => { m with mapSaveProcess := process }

def stopTree (process : Option ℕ) : StageProcessManager :=
  { m with os := m.os.stopProcessTree kernel process }

abbrev Reply := Except String Unit

structure Spawned where
  popen : Reply := .ok ()
  register : Reply := .ok ()

def popen (role : ProcessRole) (spawned : Spawned) : StageProcessManager × Reply :=
  match spawned.popen with
  | .error e => (m, .error e)
  | .ok () =>
    (({ m with os := m.os.spawn role } : StageProcessManager).hold (some m.os.roots.length) role,
      spawned.register)

def requireOpen (next : StageProcessManager × Reply) : StageProcessManager × Reply :=
  if m.terminal then (m, .error "stage process manager is shut down") else next

def prepareRuntimeParameters (prepared : Reply) : StageProcessManager × Reply :=
  if m.runtimeParamsPrepared then (m, .ok ())
  else if m.dryRun then ({ m with runtimeParamsPrepared := true }, .ok ())
  else
    let m' := { m with os := { m.os with commands := m.os.commands + 1 } }
    match prepared with
    | .error e => (m', .error e)
    | .ok () => ({ m' with runtimeParamsPrepared := true }, .ok ())

/-- What follows the preparation in `start_base`. -/
def spawnBase (spawned : Spawned) : StageProcessManager × Reply :=
  if m.dryRun then ({ m with baseStartedOnce := true, dryRunBaseLive := true }, .ok ())
  else
    match m.popen .base spawned with
    | (m', .error e) => (m', .error e)
    | (m', .ok ()) => ({ m' with baseStartedOnce := true }, .ok ())

def startBase (prepared : Reply) (spawned : Spawned) : StageProcessManager × Reply :=
  m.requireOpen <|
    if m.baseStartedOnce then (m, .error "base process already running")
    else if m.persistentRuntimeEnabled then
      match m.prepareRuntimeParameters prepared with
      | (m', .error e) => (m', .error e)
      | (m', .ok ()) => m'.spawnBase spawned
    else m.spawnBase spawned

def clearStage : StageProcessManager :=
  match m.stageProcess with
  | none => m
  | some root => { m.stopTree kernel (some root) with stageProcess := none, stage := "" }

def spawnStage (stage : String) (spawned : Spawned) : StageProcessManager × Reply :=
  if m.dryRun then
    if m.dryRunStageStarted then (m, .error ("stage process already running: " ++ m.stage))
    else ({ m with stage, dryRunStageStarted := true, stageProcess := none }, .ok ())
  else
    match m.popen .stage spawned with
    | (m', .error e) => (m', .error e)
    | (m', .ok ()) => ({ m' with stage }, .ok ())

def start (stage : String) (spawned : Spawned) : StageProcessManager × Reply :=
  m.requireOpen <|
    if m.persistentRuntimeEnabled && !m.baseIsLive then (m, .error "base process is not running")
    else if m.polls m.stageProcess then
      (m, .error ("stage process already running: " ++ m.stage))
    else (m.clearStage kernel).spawnStage stage spawned

def startMapping (spawned : Spawned) : StageProcessManager × Reply :=
  m.requireOpen <|
    if !m.baseIsLive then (m, .error "base process is not running")
    else m.start kernel "mapping" spawned

def clearExplorer : StageProcessManager :=
  match m.explorerProcess with
  | none => m
  | some root => { m.stopTree kernel (some root) with explorerProcess := none }

def startExplorerUnlocked (installed : Bool) (spawned : Spawned) : StageProcessManager × Reply :=
  if m.dryRun then (m, .ok ())
  else
    let m' := { m with os := { m.os with commands := m.os.commands + 1 } }
    if !installed then
      (m', .error
        "Explore Lite is not installed; run bash scripts/setup_frontier_exploration.sh")
    else if m'.polls m'.explorerProcess then (m', .error "frontier explorer is already running")
    else (m'.clearExplorer kernel).popen .explorer spawned

def startExplorer (installed : Bool) (spawned : Spawned) : StageProcessManager × Reply :=
  m.requireOpen <|
    if m.persistentRuntimeEnabled && !m.baseIsLive then (m, .error "base process is not running")
    else m.startExplorerUnlocked kernel installed spawned

/-- The part of `save_map` that holds the lock first. -/
def saveMap (spawned : Spawned) : StageProcessManager × Reply :=
  m.requireOpen <|
    if m.dryRun then (m, .ok ())
    else if m.polls m.mapSaveProcess then (m, .error "map save is already running")
    else
      match m.popen .mapSave spawned with
      | (m', .error e) => (m', .error e)
      | (m', .ok ()) =>
        ({ m' with saves := m'.saves ++ [{ process := m.os.roots.length }] }, .ok ())

def saveTimesOut (i : ℕ) : StageProcessManager :=
  match m.saves[i]? with
  | none => m
  | some call => m.stopTree kernel (some call.process)

def saveStops (i : ℕ) : StageProcessManager :=
  match m.saves[i]? with
  | none => m
  | some call =>
    { m.stopTree kernel (some call.process) with
      saves := m.saves.set i { call with stopped := true } }

/-- The part of `save_map` that holds the lock last. -/
def saveReturns (i : ℕ) : StageProcessManager :=
  match m.saves[i]? with
  | none => m
  | some call =>
    if call.stopped then
      { m with
        mapSaveProcess := if m.mapSaveProcess = some call.process then none else m.mapSaveProcess
        saves := m.saves.eraseIdx i }
    else m

def stopExplorer : StageProcessManager :=
  let m' := { m with explorerProcess := none }
  if m.dryRun then m' else m'.stopTree kernel m.explorerProcess

def stopStage : StageProcessManager :=
  let m' := { m.stopExplorer kernel with
    stageProcess := none, stage := "", dryRunStageStarted := false }
  if m.dryRun then m' else m'.stopTree kernel m.stageProcess

def shutMapSave : StageProcessManager :=
  let m' := { m with terminal := true, mapSaveProcess := none }
  if m.dryRun then m' else m'.stopTree kernel m.mapSaveProcess

def shutdown : StageProcessManager :=
  let m' := { (m.shutMapSave kernel).stopStage kernel with baseProcess := none }
  if m.dryRun then { m' with dryRunBaseLive := false } else m'.stopTree kernel m.baseProcess

end StageProcessManager

/-- What the threads and the processes do, each with what the operating system answers. -/
inductive Event
  | startBase (prepared : StageProcessManager.Reply) (spawned : StageProcessManager.Spawned)
  | startMapping (spawned : StageProcessManager.Spawned)
  | start (stage : String) (spawned : StageProcessManager.Spawned)
  | startExplorer (installed : Bool) (spawned : StageProcessManager.Spawned)
  | saveMap (spawned : StageProcessManager.Spawned)
  | saveTimesOut (i : ℕ)
  | saveStops (i : ℕ)
  | saveReturns (i : ℕ)
  | stopStage
  | stopExplorer
  | shutdown
  | exits (root : ℕ)

namespace StageProcessManager

def step (kernel : Kernel) (m : StageProcessManager) : Event → StageProcessManager × Reply
  | .startBase prepared spawned => m.startBase prepared spawned
  | .startMapping spawned => m.startMapping kernel spawned
  | .start stage spawned => m.start kernel stage spawned
  | .startExplorer installed spawned => m.startExplorer kernel installed spawned
  | .saveMap spawned => m.saveMap spawned
  | .saveTimesOut i => (m.saveTimesOut kernel i, .ok ())
  | .saveStops i => (m.saveStops kernel i, .ok ())
  | .saveReturns i => (m.saveReturns i, .ok ())
  | .stopStage => (m.stopStage kernel, .ok ())
  | .stopExplorer => (m.stopExplorer kernel, .ok ())
  | .shutdown => (m.shutdown kernel, .ok ())
  | .exits root => ({ m with os := m.os.exit root }, .ok ())

variable {kernel : Kernel} {m m' : StageProcessManager} {role : ProcessRole} {p : ℕ}

structure Owns (kernel : Kernel) (m : StageProcessManager) : Prop where
  roots : ∀ r p, m.handle r = some p → m.os.roots[p]? = some r
  live : ∀ p ∈ m.os.live, p ∉ m.os.survivors →
    ∃ r, m.os.roots[p]? = some r ∧ (r = .mapSave ∨ m.handle r = some p)
  accounted : ∀ p < m.os.roots.length, p ∈ m.os.stopped ∨
    (∃ r, r ≠ .mapSave ∧ m.handle r = some p) ∨ ∃ call ∈ m.saves, call.process = p
  base : m.os.roots.count .base ≤ if m.baseStartedOnce then 1 else 0
  dry : m.dryRun = true → m.os.roots = []
  saves : ∀ call ∈ m.saves, m.os.roots[call.process]? = some .mapSave ∧
    (call.stopped = true → call.process ∈ m.os.stopped)
  survivors : ∀ p ∈ m.os.survivors, p ∈ m.os.stopped ∧ kernel.Spares p

@[simp] theorem handle_hold (r : ProcessRole) (process : Option ℕ) :
    (m.hold process role).handle r = if r = role then process else m.handle r := by
  cases role <;> cases r <;> rfl

@[simp] theorem hold_os (process : Option ℕ) : (m.hold process role).os = m.os := by
  cases role <;> rfl

@[simp] theorem hold_saves (process : Option ℕ) : (m.hold process role).saves = m.saves := by
  cases role <;> rfl

@[simp] theorem hold_terminal (process : Option ℕ) :
    (m.hold process role).terminal = m.terminal := by
  cases role <;> rfl

@[simp] theorem hold_dryRun (process : Option ℕ) : (m.hold process role).dryRun = m.dryRun := by
  cases role <;> rfl

@[simp] theorem hold_baseStartedOnce (process : Option ℕ) :
    (m.hold process role).baseStartedOnce = m.baseStartedOnce := by
  cases role <;> rfl

theorem Owns.stopTree (h : m.Owns kernel) (process : Option ℕ) :
    (m.stopTree kernel process).Owns kernel := by
  have hroots : (m.stopTree kernel process).os.roots = m.os.roots := Processes.stop_roots
  constructor
  · rw [hroots]
    exact h.roots
  · intro p hp hgone
    rw [hroots]
    exact h.live p (Processes.live_of_stop hp) fun hp ↦ hgone (Processes.survivors_of_stop hp)
  · rw [hroots]
    intro p hp
    exact (h.accounted p hp).imp_left fun hstopped ↦
      Processes.mem_stop_stopped.mpr (.inl hstopped)
  · rw [hroots]
    exact h.base
  · rw [hroots]
    exact h.dry
  · intro call hcall
    rw [hroots]
    refine (h.saves call hcall).imp_right fun hstopped hdone ↦ ?_
    exact Processes.mem_stop_stopped.mpr (.inl (hstopped hdone))
  · intro p hp
    rcases Processes.mem_stop_survivors hp with hp | ⟨hprocess, hspares⟩
    · exact (h.survivors p hp).imp_left fun hp ↦ Processes.mem_stop_stopped.mpr (.inl hp)
    · exact ⟨Processes.mem_stop_stopped.mpr (.inr hprocess), hspares⟩

theorem Owns.release (h : m.Owns kernel) (role : ProcessRole)
    (hdone : role ≠ .mapSave → ∀ p, m.handle role = some p →
      p ∈ m.os.stopped ∧ (p ∈ m.os.live → p ∈ m.os.survivors)) :
    (m.hold none role).Owns kernel := by
  have hheld : ∀ r p, (m.hold none role).handle r = some p ↔ m.handle r = some p ∧ r ≠ role := by
    intro r p
    rw [handle_hold]
    split_ifs with heq
    · simp [heq]
    · exact ⟨fun hp ↦ ⟨hp, heq⟩, And.left⟩
  constructor
  · intro r p hp
    rw [hold_os]
    exact h.roots r p ((hheld r p).mp hp).1
  · intro p hp hgone
    rw [hold_os] at hp hgone ⊢
    obtain ⟨r, hr, hlive⟩ := h.live p hp hgone
    by_cases hsave : r = .mapSave
    · exact ⟨r, hr, .inl hsave⟩
    · have hlive := hlive.resolve_left hsave
      refine ⟨r, hr, .inr ((hheld r p).mpr ⟨hlive, ?_⟩)⟩
      rintro rfl
      exact hgone ((hdone hsave p hlive).2 hp)
  · intro p hp
    rw [hold_os] at hp ⊢
    rw [hold_saves]
    rcases h.accounted p hp with hstopped | ⟨r, hsave, hr⟩ | hcall
    · exact .inl hstopped
    · by_cases heq : r = role
      · exact .inl (hdone (heq ▸ hsave) p (heq ▸ hr)).1
      · exact .inr (.inl ⟨r, hsave, (hheld r p).mpr ⟨hr, heq⟩⟩)
    · exact .inr (.inr hcall)
  · rw [hold_os, hold_baseStartedOnce]
    exact h.base
  · rw [hold_os, hold_dryRun]
    exact h.dry
  · rw [hold_os, hold_saves]
    exact h.saves
  · rw [hold_os]
    exact h.survivors

theorem Owns.drop (h : m.Owns kernel) (role : ProcessRole) :
    ((m.stopTree kernel (m.handle role)).hold none role).Owns kernel := by
  refine (h.stopTree _).release role fun _ p hp ↦ ?_
  have hheld : m.handle role = some p := by
    rw [← hp]
    cases role <;> rfl
  rw [StageProcessManager.stopTree, hheld]
  exact ⟨Processes.mem_stop_stopped.mpr (.inr rfl), Processes.stop_survives⟩

theorem Owns.handle_dry (h : m.Owns kernel) (hdry : m.dryRun = true) (role : ProcessRole) :
    m.handle role = none := by
  cases hheld : m.handle role with
  | none => rfl
  | some p => exact absurd (h.roots role p hheld) (by simp [h.dry hdry])

theorem Owns.handle_base (h : m.Owns kernel) (honce : m.baseStartedOnce = false) :
    m.handle .base = none := by
  cases hheld : m.handle .base with
  | none => rfl
  | some p =>
    have hmem := List.mem_of_getElem? (h.roots .base p hheld)
    have hcount := h.base
    rw [honce, if_neg (by simp)] at hcount
    exact absurd (List.count_pos_iff.mpr hmem) (by omega)

theorem Owns.congr (h : m.Owns kernel) (hhandle : m'.handle = m.handle) (hos : m'.os = m.os)
    (hsaves : m'.saves = m.saves) (honce : m'.baseStartedOnce = m.baseStartedOnce)
    (hdry : m'.dryRun = m.dryRun) : m'.Owns kernel := by
  constructor
  · rw [hhandle, hos]
    exact h.roots
  · rw [hhandle, hos]
    exact h.live
  · rw [hhandle, hos, hsaves]
    exact h.accounted
  · rw [hos, honce]
    exact h.base
  · rw [hos, hdry]
    exact h.dry
  · rw [hos, hsaves]
    exact h.saves
  · rw [hos]
    exact h.survivors

def spawned (m : StageProcessManager) (role : ProcessRole) : StageProcessManager :=
  ({ m with
      os := m.os.spawn role
      baseStartedOnce := m.baseStartedOnce || role = .base
      saves := m.saves ++ if role = .mapSave then [{ process := m.os.roots.length }] else [] }
    : StageProcessManager).hold (some m.os.roots.length) role

theorem Owns.spawned (h : m.Owns kernel) (role : ProcessRole)
    (hnone : role ≠ .mapSave → m.handle role = none) (hdry : m.dryRun = false)
    (hbase : role = .base → m.baseStartedOnce = false) : (m.spawned role).Owns kernel := by
  have hnew : (m.os.spawn role).roots = m.os.roots ++ [role] := rfl
  have hlast : (m.os.spawn role).roots[m.os.roots.length]? = some role := by
    exact List.getElem?_concat_length
  have hold : ∀ {p : ℕ} {r : ProcessRole}, m.os.roots[p]? = some r →
      (m.os.spawn role).roots[p]? = some r := by
    intro p r hp
    rw [hnew, List.getElem?_append_left (List.getElem?_eq_some_iff.mp hp).1]
    exact hp
  have hheld : ∀ r, (m.spawned role).handle r =
      if r = role then some m.os.roots.length else m.handle r := by
    intro r
    rw [StageProcessManager.spawned, handle_hold]
    rfl
  have hkept : ∀ {p : ℕ} {r : ProcessRole}, r ≠ .mapSave → m.handle r = some p →
      (m.spawned role).handle r = some p := by
    intro p r hsave hp
    rw [hheld, if_neg ?_]
    · exact hp
    · rintro rfl
      exact absurd ((hnone hsave).symm.trans hp) (by simp)
  constructor
  · intro r p hp
    rw [hheld] at hp
    rw [StageProcessManager.spawned, hold_os]
    split_ifs at hp with heq
    · rw [heq, ← Option.some.inj hp]
      exact hlast
    · exact hold (h.roots r p hp)
  · intro p hp hgone
    rw [StageProcessManager.spawned, hold_os] at hp hgone ⊢
    rcases List.mem_append.mp hp with hp | hp
    · obtain ⟨r, hr, hlive⟩ := h.live p hp hgone
      refine ⟨r, hold hr, ?_⟩
      by_cases hsave : r = .mapSave
      · exact .inl hsave
      · exact .inr (hkept hsave (hlive.resolve_left hsave))
    · obtain rfl := List.mem_singleton.mp hp
      exact ⟨role, hlast, .inr ((hheld role).trans (if_pos rfl))⟩
  · intro p hp
    rw [StageProcessManager.spawned, hold_os] at hp
    by_cases hlt : p < m.os.roots.length
    · rcases h.accounted p hlt with hstopped | ⟨r, hsave, hr⟩ | ⟨call, hcall, heq⟩
      · left
        rw [StageProcessManager.spawned, hold_os]
        exact hstopped
      · exact .inr (.inl ⟨r, hsave, hkept hsave hr⟩)
      · refine .inr (.inr ⟨call, ?_, heq⟩)
        rw [StageProcessManager.spawned, hold_saves]
        exact List.mem_append_left _ hcall
    · have heq : p = m.os.roots.length := by
        rw [hnew, List.length_append, List.length_singleton] at hp
        omega
      subst heq
      by_cases hsave : role = .mapSave
      · refine .inr (.inr ⟨{ process := m.os.roots.length }, ?_, rfl⟩)
        rw [StageProcessManager.spawned, hold_saves, if_pos hsave]
        simp
      · exact .inr (.inl ⟨role, hsave, (hheld role).trans (if_pos rfl)⟩)
  · have hcount := h.base
    rw [StageProcessManager.spawned, hold_os, hold_baseStartedOnce, hnew, List.count_append]
    by_cases hrole : role = .base
    · have honce := hbase hrole
      simpa [hrole, honce] using hcount
    · simpa [hrole, List.count_singleton] using hcount
  · intro hdry'
    rw [StageProcessManager.spawned, hold_dryRun] at hdry'
    exact absurd (hdry.symm.trans hdry') (by simp)
  · intro call hcall
    rw [StageProcessManager.spawned, hold_saves] at hcall
    rw [StageProcessManager.spawned, hold_os]
    rcases List.mem_append.mp hcall with hcall | hcall
    · obtain ⟨hsave, hstopped⟩ := h.saves call hcall
      exact ⟨hold hsave, hstopped⟩
    · split_ifs at hcall with hsave
      · obtain rfl := List.mem_singleton.mp hcall
        exact ⟨hsave ▸ hlast, fun hdone ↦ absurd hdone (by simp)⟩
      · exact absurd hcall (List.not_mem_nil)
  · rw [StageProcessManager.spawned, hold_os]
    exact h.survivors

section Steps

theorem Owns.started (h : m.Owns kernel) (hdry : m.dryRun = true) :
    ({ m with baseStartedOnce := true, dryRunBaseLive := true } : StageProcessManager).Owns
      kernel where
  __ := h
  base := by simp [h.dry hdry]

theorem Owns.counted (h : m.Owns kernel) (commands : ℕ) :
    ({ m with os := { m.os with commands } } : StageProcessManager).Owns kernel :=
  ⟨h.roots, h.live, h.accounted, h.base, h.dry, h.saves, h.survivors⟩

structure Starts (kernel : Kernel) (m m' : StageProcessManager) : Prop where
  owns : m.Owns kernel → m'.Owns kernel
  terminal : m'.terminal = m.terminal

theorem Starts.refl (m : StageProcessManager) : Starts kernel m m := ⟨id, rfl⟩

theorem requireOpen_starts {next : StageProcessManager × Reply} (hnext : Starts kernel m next.1) :
    Starts kernel m (m.requireOpen next).1 := by
  unfold requireOpen
  split_ifs
  · exact .refl m
  · exact hnext

theorem popen_terminal (m : StageProcessManager) (role : ProcessRole) (reply : Spawned) :
    (m.popen role reply).1.terminal = m.terminal := by
  unfold popen
  cases reply.popen with
  | error e => rfl
  | ok _ => exact hold_terminal _

theorem prepareRuntimeParameters_starts (m : StageProcessManager) (reply : Reply) :
    Starts kernel m (m.prepareRuntimeParameters reply).1 ∧
      (m.prepareRuntimeParameters reply).1.baseStartedOnce = m.baseStartedOnce := by
  unfold prepareRuntimeParameters
  split_ifs
  · exact ⟨.refl m, rfl⟩
  · exact ⟨⟨fun h ↦ h.congr rfl rfl rfl rfl rfl, rfl⟩, rfl⟩
  · cases reply with
    | error e => exact ⟨⟨fun h ↦ h.counted _, rfl⟩, rfl⟩
    | ok _ => exact ⟨⟨fun h ↦ (h.counted _).congr rfl rfl rfl rfl rfl, rfl⟩, rfl⟩

variable (kernel) in
theorem spawnBase_starts (honce : m.baseStartedOnce = false) {reply : Spawned}
    (hregister : reply.register = .ok ()) : Starts kernel m (m.spawnBase reply).1 := by
  unfold spawnBase popen
  rw [hregister]
  split_ifs with hdry
  · exact ⟨fun h ↦ h.started hdry, rfl⟩
  · cases reply.popen with
    | error e => exact .refl m
    | ok _ =>
      refine ⟨fun h ↦ ?_, rfl⟩
      have hspawned := h.spawned .base (fun _ ↦ h.handle_base honce) (by simpa using hdry)
        fun _ ↦ honce
      simpa [spawned, hold] using hspawned

theorem startBase_starts (m : StageProcessManager) (prepared : Reply) {reply : Spawned}
    (hregister : reply.register = .ok ()) : Starts kernel m (m.startBase prepared reply).1 := by
  refine requireOpen_starts ?_
  split_ifs with honce hpersistent
  · exact .refl m
  · obtain ⟨hprepares, honce'⟩ := prepareRuntimeParameters_starts m prepared
    split
    next heq => exact heq ▸ hprepares
    next heq =>
      rw [heq] at hprepares honce'
      have hspawns := spawnBase_starts kernel (honce'.trans (by simpa using honce)) hregister
      exact ⟨fun h ↦ hspawns.owns (hprepares.owns h), hspawns.terminal.trans hprepares.terminal⟩
  · exact spawnBase_starts kernel (by simpa using honce) hregister

variable (kernel) in
theorem clearStage_starts (m : StageProcessManager) :
    Starts kernel m (m.clearStage kernel) ∧ (m.clearStage kernel).handle .stage = none := by
  unfold clearStage
  split
  next hnone => exact ⟨.refl m, hnone⟩
  next root hroot =>
    refine ⟨⟨fun h ↦ ?_, rfl⟩, rfl⟩
    have hdrop := h.drop .stage
    rw [show m.handle .stage = some root from hroot] at hdrop
    exact hdrop.congr rfl rfl rfl rfl rfl

variable (kernel) in
theorem spawnStage_starts (hnone : m.handle .stage = none) (stage : String) (reply : Spawned) :
    Starts kernel m (m.spawnStage stage reply).1 := by
  unfold spawnStage popen
  split_ifs with hdry hstarted
  · exact .refl m
  · refine ⟨fun h ↦ ?_, rfl⟩
    have hrelease : (m.hold none .stage).Owns kernel :=
      h.release .stage fun _ p hp ↦ absurd (hnone.symm.trans hp) (by simp)
    exact hrelease.congr rfl rfl rfl rfl rfl
  · cases reply.popen with
    | error e => exact .refl m
    | ok _ =>
      have hspawned : m.Owns kernel → (({ m with os := m.os.spawn .stage } :
          StageProcessManager).hold (some m.os.roots.length) .stage).Owns kernel := by
        intro h
        have hspawned := h.spawned .stage (fun _ ↦ hnone) (by simpa using hdry)
          fun heq ↦ absurd heq (by simp)
        simpa only [spawned, reduceCtorEq, decide_false, Bool.or_false, if_false,
          List.append_nil] using hspawned
      cases reply.register with
      | error e => exact ⟨hspawned, rfl⟩
      | ok _ => exact ⟨fun h ↦ (hspawned h).congr rfl rfl rfl rfl rfl, rfl⟩

theorem start_starts (m : StageProcessManager) (stage : String)
    (reply : Spawned) : Starts kernel m (m.start kernel stage reply).1 := by
  refine requireOpen_starts ?_
  split_ifs
  · exact .refl m
  · exact .refl m
  · obtain ⟨hclears, hnone⟩ := clearStage_starts kernel m
    have hspawns := spawnStage_starts kernel hnone stage reply
    exact ⟨fun h ↦ hspawns.owns (hclears.owns h), hspawns.terminal.trans hclears.terminal⟩

theorem startMapping_starts (m : StageProcessManager) (reply : Spawned) :
    Starts kernel m (m.startMapping kernel reply).1 := by
  refine requireOpen_starts ?_
  split_ifs
  · exact .refl m
  · exact start_starts m "mapping" reply

variable (kernel) in
theorem clearExplorer_starts (m : StageProcessManager) :
    Starts kernel m (m.clearExplorer kernel) ∧ (m.clearExplorer kernel).handle .explorer = none ∧
      (m.clearExplorer kernel).dryRun = m.dryRun := by
  unfold clearExplorer
  split
  next hnone => exact ⟨.refl m, hnone, rfl⟩
  next root hroot =>
    refine ⟨⟨fun h ↦ ?_, rfl⟩, rfl, rfl⟩
    have hdrop := h.drop .explorer
    rwa [show m.handle .explorer = some root from hroot] at hdrop

variable (kernel) in
theorem popenExplorer_starts (hnone : m.handle .explorer = none) (hdry : m.dryRun = false)
    (reply : Spawned) : Starts kernel m (m.popen .explorer reply).1 := by
  refine ⟨fun h ↦ ?_, popen_terminal m .explorer reply⟩
  unfold popen
  cases reply.popen with
  | error e => exact h
  | ok _ =>
    have hspawned := h.spawned .explorer (fun _ ↦ hnone) hdry fun heq ↦ absurd heq (by simp)
    simpa [spawned, hold] using hspawned

theorem startExplorer_starts (m : StageProcessManager) (installed : Bool)
    (reply : Spawned) : Starts kernel m (m.startExplorer kernel installed reply).1 := by
  refine requireOpen_starts ?_
  unfold startExplorerUnlocked
  have hcounts : Starts kernel m { m with os := { m.os with commands := m.os.commands + 1 } } :=
    ⟨fun h ↦ h.counted _, rfl⟩
  split_ifs with hbase hdry hinstalled
  · exact .refl m
  · exact .refl m
  · exact hcounts
  · dsimp only
    split_ifs
    · exact hcounts
    · obtain ⟨hclears, hnone, hdry'⟩ := clearExplorer_starts kernel
        { m with os := { m.os with commands := m.os.commands + 1 } }
      have hpopens := popenExplorer_starts kernel hnone (hdry'.trans (by simpa using hdry)) reply
      exact ⟨fun h ↦ hpopens.owns (hclears.owns (hcounts.owns h)),
        hpopens.terminal.trans hclears.terminal⟩

theorem saveMap_starts (m : StageProcessManager) {reply : Spawned}
    (hregister : reply.register = .ok ()) : Starts kernel m (m.saveMap reply).1 := by
  refine requireOpen_starts ?_
  unfold popen
  rw [hregister]
  split_ifs with hdry
  · exact .refl m
  · exact .refl m
  · cases reply.popen with
    | error e => exact .refl m
    | ok _ =>
      refine ⟨fun h ↦ ?_, rfl⟩
      have hspawned := h.spawned .mapSave (fun hne ↦ absurd rfl hne) (by simpa using hdry)
        fun heq ↦ absurd heq (by simp)
      simpa [spawned, hold] using hspawned

structure Stops (kernel : Kernel) (m m' : StageProcessManager) : Prop where
  owns : m.Owns kernel → m'.Owns kernel
  roots : m'.os.roots = m.os.roots
  commands : m'.os.commands = m.os.commands
  handle : ∀ r, m'.handle r = m.handle r ∨ m'.handle r = none
  terminal : m'.terminal = m.terminal ∨ m'.terminal = true ∧ ∀ r, m'.handle r = none

theorem Stops.refl (m : StageProcessManager) : Stops kernel m m :=
  ⟨id, rfl, rfl, fun _ ↦ .inl rfl, .inl rfl⟩

theorem stopTree_stops (m : StageProcessManager) (process : Option ℕ) :
    Stops kernel m (m.stopTree kernel process) :=
  ⟨fun h ↦ h.stopTree process, Processes.stop_roots, Processes.stop_commands,
    fun _ ↦ .inl rfl, .inl rfl⟩

theorem saveTimesOut_stops (m : StageProcessManager) (i : ℕ) :
    Stops kernel m (m.saveTimesOut kernel i) := by
  unfold saveTimesOut
  split
  · exact .refl m
  · exact stopTree_stops m _

theorem Owns.marks (h : m.Owns kernel) {i : ℕ} {call : SaveCall}
    (hcall : m.saves[i]? = some call) : ({ m.stopTree kernel (some call.process) with
        saves := m.saves.set i { call with stopped := true } } : StageProcessManager).Owns
          kernel := by
  have hstop := h.stopTree (some call.process)
  have hprocesses : (m.saves.set i { call with stopped := true }).map SaveCall.process =
      m.saves.map SaveCall.process := by
    obtain ⟨hi, rfl⟩ := List.getElem?_eq_some_iff.mp hcall
    rw [List.map_set, ← List.getElem_map SaveCall.process, List.set_getElem_self]
    simpa using hi
  refine ⟨hstop.roots, hstop.live, ?_, hstop.base, hstop.dry, ?_, hstop.survivors⟩
  · intro p hp
    refine (hstop.accounted p hp).imp_right (Or.imp_right fun hsave ↦ ?_)
    rw [← List.mem_map] at hsave ⊢
    exact hprocesses ▸ hsave
  · intro call' hcall'
    rcases List.mem_or_eq_of_mem_set hcall' with hmem | rfl
    · exact hstop.saves call' hmem
    · refine ⟨(hstop.saves call (List.mem_of_getElem? hcall)).1, fun _ ↦ ?_⟩
      exact Processes.mem_stop_stopped.mpr (.inr rfl)

theorem saveStops_stops (m : StageProcessManager) (i : ℕ) :
    Stops kernel m (m.saveStops kernel i) := by
  unfold saveStops
  cases hcall : m.saves[i]? with
  | none => exact .refl m
  | some call =>
    exact ⟨fun h ↦ h.marks hcall, Processes.stop_roots, Processes.stop_commands,
      fun _ ↦ .inl rfl, .inl rfl⟩

theorem Owns.forget (h : m.Owns kernel) {i : ℕ} {call : SaveCall} (hcall : m.saves[i]? = some call)
    (hstopped : call.stopped = true) :
    ({ m with saves := m.saves.eraseIdx i } : StageProcessManager).Owns kernel := by
  have hin := (h.saves call (List.mem_of_getElem? hcall)).2 hstopped
  refine ⟨h.roots, h.live, ?_, h.base, h.dry, fun call' hcall' ↦ ?_, h.survivors⟩
  · intro p hp
    rcases h.accounted p hp with hdone | hheld | ⟨call', hmem, rfl⟩
    · exact .inl hdone
    · exact .inr (.inl hheld)
    · obtain ⟨j, hj⟩ := List.mem_iff_getElem?.mp hmem
      by_cases hij : j = i
      · left
        rw [hij, hcall] at hj
        rw [← Option.some.inj hj]
        exact hin
      · exact .inr (.inr ⟨call', List.mem_eraseIdx_iff_getElem?.mpr ⟨j, hij, hj⟩, rfl⟩)
  · exact h.saves call' (List.mem_of_mem_eraseIdx hcall')

theorem saveReturns_stops (m : StageProcessManager) (i : ℕ) : Stops kernel m (m.saveReturns i) := by
  unfold saveReturns
  cases hcall : m.saves[i]? with
  | none => exact .refl m
  | some call =>
    dsimp only
    by_cases hstopped : call.stopped = true
    · rw [if_pos hstopped]
      refine ⟨fun h ↦ ?_, rfl, rfl, fun r ↦ ?_, .inl rfl⟩
      · have hrelease : (m.hold (if m.mapSaveProcess = some call.process then none
            else m.mapSaveProcess) .mapSave).Owns kernel := by
          split_ifs
          · exact h.release .mapSave fun hne ↦ absurd rfl hne
          · exact h
        exact hrelease.forget hcall hstopped
      · cases r with
        | mapSave =>
          by_cases hheld : m.mapSaveProcess = some call.process
          · exact .inr (if_pos hheld)
          · exact .inl (if_neg hheld)
        | _ => exact .inl rfl
    · rw [if_neg hstopped]
      exact .refl m

theorem stopExplorer_stops (m : StageProcessManager) : Stops kernel m (m.stopExplorer kernel) := by
  have hhandle : ∀ r, (m.stopExplorer kernel).handle r = m.handle r ∨
      (m.stopExplorer kernel).handle r = none := by
    intro r
    unfold stopExplorer
    cases m.dryRun <;> cases r <;> first | exact .inl rfl | exact .inr rfl
  refine ⟨fun h ↦ ?_, ?_, ?_, hhandle, .inl ?_⟩
  · unfold stopExplorer
    split_ifs with hdry
    · exact h.release .explorer fun _ p hp ↦
        absurd ((h.handle_dry hdry .explorer).symm.trans hp) (by simp)
    · exact h.drop .explorer
  all_goals
    unfold stopExplorer
    cases m.dryRun <;> simp [stopTree]

variable (kernel) in
theorem stopStage_frame (m : StageProcessManager) :
    (m.stopStage kernel).stageProcess = none ∧ (m.stopStage kernel).explorerProcess = none ∧
      (m.stopStage kernel).mapSaveProcess = m.mapSaveProcess ∧
      (m.stopStage kernel).baseProcess = m.baseProcess ∧
      (m.stopStage kernel).dryRun = m.dryRun ∧ (m.stopStage kernel).terminal = m.terminal := by
  unfold stopStage stopExplorer
  cases m.dryRun <;> exact ⟨rfl, rfl, rfl, rfl, rfl, rfl⟩

variable (kernel) in
theorem stopStage_stops (m : StageProcessManager) : Stops kernel m (m.stopStage kernel) := by
  obtain ⟨hstage, hexplorer, hsave, hbase, -, hterminal⟩ := stopStage_frame kernel m
  refine ⟨fun h ↦ ?_, ?_, ?_, fun r ↦ ?_, .inl hterminal⟩
  · have hstop := (stopExplorer_stops m).owns h
    unfold stopStage
    split_ifs with hdry
    · have hdry' : (m.stopExplorer kernel).dryRun = true := by
        unfold stopExplorer
        rw [if_pos hdry]
        exact hdry
      have hrelease := hstop.release .stage fun _ p hp ↦
        absurd ((hstop.handle_dry hdry' .stage).symm.trans hp) (by simp)
      exact hrelease.congr rfl rfl rfl rfl rfl
    · have hheld : (m.stopExplorer kernel).handle .stage = m.stageProcess := by
        unfold stopExplorer
        rw [if_neg hdry]
        rfl
      have hdrop := hstop.drop .stage
      rw [hheld] at hdrop
      exact hdrop.congr rfl rfl rfl rfl rfl
  · unfold stopStage stopExplorer
    cases m.dryRun <;> simp [stopTree]
  · unfold stopStage stopExplorer
    cases m.dryRun <;> simp [stopTree]
  · cases r with
    | base => exact .inl hbase
    | stage => exact .inr hstage
    | explorer => exact .inr hexplorer
    | mapSave => exact .inl hsave

theorem shutMapSave_owns (h : m.Owns kernel) : (m.shutMapSave kernel).Owns kernel := by
  have hrelease : (m.hold none .mapSave).Owns kernel := h.release .mapSave fun hne ↦ absurd rfl hne
  have hset : ({ m with terminal := true, mapSaveProcess := none } : StageProcessManager).Owns
      kernel :=
    hrelease.congr rfl rfl rfl rfl rfl
  unfold shutMapSave
  split_ifs
  · exact hset
  · exact hset.stopTree _

variable (kernel) in
theorem shutMapSave_frame (m : StageProcessManager) :
    (m.shutMapSave kernel).mapSaveProcess = none ∧ (m.shutMapSave kernel).terminal = true ∧
      (m.shutMapSave kernel).baseProcess = m.baseProcess ∧
      (m.shutMapSave kernel).dryRun = m.dryRun ∧ (m.shutMapSave kernel).os.roots = m.os.roots ∧
      (m.shutMapSave kernel).os.commands = m.os.commands := by
  unfold shutMapSave
  cases m.dryRun <;> simp [stopTree]

variable (kernel) in
theorem shutdown_frame (m : StageProcessManager) :
    (m.shutdown kernel).terminal = true ∧ ∀ r, (m.shutdown kernel).handle r = none := by
  obtain ⟨hsave, hterminal, -, -, -, -⟩ := shutMapSave_frame kernel m
  obtain ⟨hstage, hexplorer, hsave', -, -, hterminal'⟩ :=
    stopStage_frame kernel (m.shutMapSave kernel)
  unfold shutdown
  cases m.dryRun
  all_goals
    refine ⟨hterminal'.trans hterminal, fun r ↦ ?_⟩
    cases r with
    | base => rfl
    | stage => exact hstage
    | explorer => exact hexplorer
    | mapSave => exact hsave'.trans hsave

variable (kernel) in
theorem shutdown_stops (m : StageProcessManager) : Stops kernel m (m.shutdown kernel) := by
  obtain ⟨-, -, hbase, hdry, hroots, hcommands⟩ := shutMapSave_frame kernel m
  obtain ⟨-, -, -, hbase', hdry', -⟩ := stopStage_frame kernel (m.shutMapSave kernel)
  have hstops := stopStage_stops kernel (m.shutMapSave kernel)
  refine ⟨fun h ↦ ?_, ?_, ?_, fun r ↦ .inr ((shutdown_frame kernel m).2 r),
    Or.inr (shutdown_frame kernel m)⟩
  · have howns := hstops.owns (shutMapSave_owns h)
    unfold shutdown
    split_ifs with hrun
    · have hrelease := howns.release .base fun _ p hp ↦
        absurd ((howns.handle_dry (hdry'.trans (hdry.trans hrun)) .base).symm.trans hp) (by simp)
      exact hrelease.congr rfl rfl rfl rfl rfl
    · have hdrop := howns.drop .base
      rw [show ((m.shutMapSave kernel).stopStage kernel).handle .base = m.baseProcess from
        hbase'.trans hbase] at hdrop
      exact hdrop
  · unfold shutdown
    cases m.dryRun <;> simp [stopTree, hstops.roots, hroots]
  · unfold shutdown
    cases m.dryRun <;> simp [stopTree, hstops.commands, hcommands]

theorem exits_stops (m : StageProcessManager) (root : ℕ) :
    Stops kernel m { m with os := m.os.exit root } := by
  refine ⟨fun h ↦ ?_, rfl, rfl, fun _ ↦ .inl rfl, .inl rfl⟩
  exact ⟨h.roots, fun p hp ↦ h.live p (Processes.mem_exit_live.mp hp).1, h.accounted, h.base,
    h.dry, h.saves, h.survivors⟩

end Steps

variable {e : Event}

variable (kernel : Kernel)

def Starting : Event → Prop
  | .startBase _ _ | .startMapping _ | .start _ _ | .startExplorer _ _ | .saveMap _ => True
  | _ => False

def Registered : Event → Prop
  | .startBase _ spawned | .saveMap spawned => spawned.register = .ok ()
  | _ => True

instance : DecidablePred Registered
  | .startBase .. | .saveMap _ => inferInstanceAs (Decidable (_ = _))
  | .startMapping _ | .start .. | .startExplorer .. | .saveTimesOut _ | .saveStops _
  | .saveReturns _ | .stopStage | .stopExplorer | .shutdown | .exits _ => .isTrue trivial

theorem step_starts (m : StageProcessManager) (he : Starting e) (hregistered : Registered e) :
    Starts kernel m (m.step kernel e).1 := by
  cases e with
  | startBase prepared reply => exact startBase_starts m prepared hregistered
  | startMapping reply => exact startMapping_starts m reply
  | start stage reply => exact start_starts m stage reply
  | startExplorer installed reply => exact startExplorer_starts m installed reply
  | saveMap reply => exact saveMap_starts m hregistered
  | _ => exact he.elim

theorem step_stops (m : StageProcessManager) (he : ¬ Starting e) :
    Stops kernel m (m.step kernel e).1 := by
  cases e with
  | saveTimesOut i => exact saveTimesOut_stops m i
  | saveStops i => exact saveStops_stops m i
  | saveReturns i => exact saveReturns_stops m i
  | stopStage => exact stopStage_stops kernel m
  | stopExplorer => exact stopExplorer_stops m
  | shutdown => exact shutdown_stops kernel m
  | exits root => exact exits_stops m root
  | _ => exact absurd trivial he

theorem step_refused (he : Starting e) (hterminal : m.terminal = true) :
    m.step kernel e = (m, .error "stage process manager is shut down") := by
  cases e with
  | startBase prepared reply => exact if_pos hterminal
  | startMapping reply => exact if_pos hterminal
  | start stage reply => exact if_pos hterminal
  | startExplorer installed reply => exact if_pos hterminal
  | saveMap reply => exact if_pos hterminal
  | _ => exact he.elim

def Sound (m : StageProcessManager) : Prop :=
  m.Owns kernel ∧ (m.terminal = true → ∀ r, m.handle r = none)

theorem step_sound (h : m.Sound kernel) {e : Event} (hregistered : Registered e) :
    (m.step kernel e).1.Sound kernel := by
  by_cases he : Starting e
  · have hstarts := step_starts kernel m he hregistered
    refine ⟨hstarts.owns h.1, fun hterminal ↦ ?_⟩
    rw [hstarts.terminal] at hterminal
    rw [step_refused kernel he hterminal]
    exact h.2 hterminal
  · have hstops := step_stops kernel m he
    refine ⟨hstops.owns h.1, fun hterminal r ↦ ?_⟩
    rcases hstops.terminal with hsame | ⟨-, hnone⟩
    · exact (hstops.handle r).elim (fun heq ↦ heq.trans (h.2 (hsame.symm.trans hterminal) r)) id
    · exact hnone r

theorem step_terminal (hterminal : m.terminal = true) (e : Event) :
    (m.step kernel e).1.terminal = true ∧ (m.step kernel e).1.os.roots = m.os.roots ∧
      (m.step kernel e).1.os.commands = m.os.commands := by
  by_cases he : Starting e
  · rw [step_refused kernel he hterminal]
    exact ⟨hterminal, rfl, rfl⟩
  · have hstops := step_stops kernel m he
    exact ⟨hstops.terminal.elim (fun hsame ↦ hsame.trans hterminal) And.left, hstops.roots,
      hstops.commands⟩

theorem run_terminal (hterminal : m.terminal = true) (h : List Event) :
    (History.run (step kernel) m h).terminal = true ∧
      (History.run (step kernel) m h).os.roots = m.os.roots ∧
      (History.run (step kernel) m h).os.commands = m.os.commands := by
  refine History.run_preserves (I := fun m' : StageProcessManager ↦ m'.terminal = true ∧
    m'.os.roots = m.os.roots ∧ m'.os.commands = m.os.commands) _ ?_ ⟨hterminal, rfl, rfl⟩ h
  intro m' e ⟨hterminal', hroots, hcommands⟩
  obtain ⟨hafter, hroots', hcommands'⟩ := step_terminal kernel hterminal' e
  exact ⟨hafter, hroots'.trans hroots, hcommands'.trans hcommands⟩

def after (persistentRuntimeEnabled dryRun : Bool) (h : List Event) : StageProcessManager :=
  History.run (step kernel) { persistentRuntimeEnabled, dryRun } h

theorem after_sound (persistentRuntimeEnabled dryRun : Bool) {h : List Event}
    (hregistered : ∀ e ∈ h, Registered e) :
    (after kernel persistentRuntimeEnabled dryRun h).Sound kernel := by
  revert hregistered
  refine History.run_induction (I := fun h m ↦ (∀ e ∈ h, Registered e) → Sound kernel m) _ ?_ ?_ h
  · refine fun _ ↦ ⟨⟨fun r p hp ↦ ?_, ?_, ?_, ?_, fun _ ↦ rfl, ?_, ?_⟩,
      fun _ r ↦ by cases r <;> rfl⟩
    · cases r <;> exact absurd hp (by simp [handle])
    · simp
    · simp
    · simp
    · simp
    · simp
  · intro h e hm hregistered
    exact step_sound kernel (hm fun e' he' ↦ hregistered e' (by simp [he']))
      (hregistered e (by simp))

def AtMostOneLive (m : StageProcessManager) (role : ProcessRole) : Prop :=
  ∀ p ∈ m.os.live, ∀ q ∈ m.os.live, p ∉ m.os.survivors → q ∉ m.os.survivors →
    m.os.roots[p]? = some role → m.os.roots[q]? = some role → p = q

variable {kernel} in
theorem Owns.atMostOneLive (h : m.Owns kernel) (hrole : role ≠ .mapSave) :
    m.AtMostOneLive role := by
  have hheld : ∀ p ∈ m.os.live, p ∉ m.os.survivors → m.os.roots[p]? = some role →
      m.handle role = some p := by
    intro p hp hgone hroot
    obtain ⟨r, hr, hlive⟩ := h.live p hp hgone
    obtain rfl := Option.some.inj (hr.symm.trans hroot)
    exact hlive.resolve_left hrole
  intro p hp q hq hgonep hgoneq hrootp hrootq
  exact Option.some.inj ((hheld p hp hgonep hrootp).symm.trans (hheld q hq hgoneq hrootq))

def stuck : Kernel := ⟨fun _ _ ↦ true, fun _ root _ ↦ root ≠ 0⟩

def session : List Event :=
  [.startBase (.ok ()) {}, .startMapping {}, .stopStage, .startMapping {}, .saveMap {}, .shutdown,
    .start "navigation" {}, .saveStops 0, .saveReturns 0]

example : (after stuck false false [.startBase (.ok ()) { register := .error "no file handle" },
    .startBase (.ok ()) {}]).os.roots = [.base, .base] := by
  decide

end StageProcessManager

end EmbodiedAgent.Slam.StageProcesses
