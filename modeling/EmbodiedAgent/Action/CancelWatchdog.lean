import EmbodiedAgent.Action.Bridge

namespace EmbodiedAgent.BridgeExecutor

open Library Library.History Library.Interleaving

def activeId (s : ActionScheduler) : Option String := s.active.map RobotCommand.commandId

/-- A pending cancel is the cancel of the scheduler's active command. -/
def CancelsActive (b : TypedActionBridge) : Prop :=
  b.cancelPendingId ≠ "" → activeId b.scheduler = some b.cancelPendingId

def SparesOthers (b : TypedActionBridge) : Prop :=
  ∀ now commandId, activeId b.scheduler = some commandId → commandId ≠ b.cancelPendingId →
    b.activeGoalId = commandId →
      (b.onCancelWatchdog now).1.activeGoalId = commandId ∧
      (b.onCancelWatchdog now).1.activeGoalHandle = b.activeGoalHandle

def completes (commandId : String) : BridgeTask → Bool
  | .completeActive id _ _ _ => id = commandId
  | _ => false

def completing (x : BridgeExecutor) (commandId : String) : Bool :=
  (outstanding x.callbacks).any (completes commandId)

def prompt (x : BridgeExecutor) : BridgeEvent → Bool
  | .start _ => true
  | .advance i reading =>
    match next x.callbacks i with
    | some (.requestCancel commandId) =>
      activeId x.node.scheduler = some commandId && !x.completing commandId
    | some (.dispatchGoal command) =>
      reading.serverReady || command.commandId ≠ x.node.cancelPendingId
    | _ => true

/-- Every step of the history is prompt in the state that it is taken in. -/
def promptRun (x : BridgeExecutor) : List BridgeEvent → Bool
  | [] => true
  | e :: h => x.prompt e && promptRun (x.step e).1 h

structure Targeted (x : BridgeExecutor) : Prop where
  active : CancelsActive x.node
  uncompleted : x.node.cancelPendingId ≠ "" → x.completing x.node.cancelPendingId = false

section Tasks

variable {s : ActionScheduler} {commandId : String} {success : Bool} {status : UInt8}
  {message : String}

theorem activeId_enqueue (command : RobotCommand) (h : activeId s = some commandId) :
    activeId (s.enqueue command).1 = some commandId := by
  have ho := s.step_outcome (.enqueue command)
  rw [ActionScheduler.step] at ho
  generalize s.enqueue command = out at ho ⊢
  cases ho with
  | priorityStarted _ _ _ _ idle | started _ _ _ _ idle => simp [activeId, idle] at h
  | refused | preempted | full | queued => exact h

theorem complete_other (h : activeId s ≠ some commandId) :
    s.complete commandId success status message = (s, []) := by
  have ho := s.step_outcome (.complete commandId success status message)
  rw [ActionScheduler.step] at ho
  generalize s.complete commandId success status message = out at ho ⊢
  cases ho with
  | stale => rfl
  | failed active busy | drained active busy | advanced active busy => simp [activeId, busy] at h

theorem not_mem_processEvents {events : List SchedulerEvent} :
    .completeActive commandId success status message ∉ TypedActionBridge.processEvents events := by
  intro h
  obtain ⟨event, -, hevent⟩ := List.mem_map.mp h
  cases event <;> cases hevent

theorem completing_iff {x : BridgeExecutor} : x.completing commandId = true ↔
    ∃ success status message,
      .completeActive commandId success status message ∈ outstanding x.callbacks := by
  rw [completing, List.any_eq_true]
  constructor
  · rintro ⟨task, htask, hcompletes⟩
    cases task <;> simp only [completes, decide_eq_true_eq, Bool.false_eq_true] at hcompletes
    subst hcompletes
    exact ⟨_, _, _, htask⟩
  · rintro ⟨success, status, message, htask⟩
    exact ⟨_, htask, by simp [completes]⟩

end Tasks

section Run

variable {x : BridgeExecutor} {b b' : TypedActionBridge} {e : BridgeEvent} {reading : TaskReading}
  {task : BridgeTask}

structure Keeps (b b' : TypedActionBridge) (called : List BridgeTask) : Prop where
  pending : b'.cancelPendingId ≠ "" → b'.cancelPendingId = b.cancelPendingId
  active : b'.cancelPendingId ≠ "" → activeId b.scheduler = some b.cancelPendingId →
    activeId b'.scheduler = some b.cancelPendingId
  called : b'.cancelPendingId ≠ "" → ∀ success status message,
    .completeActive b.cancelPendingId success status message ∉ called

theorem keeps_idle (h : b'.cancelPendingId = b.cancelPendingId) (hs : b'.scheduler = b.scheduler) :
    Keeps b b' [] :=
  ⟨fun _ ↦ h, fun _ hactive ↦ by rwa [hs], by simp⟩

theorem keeps_withdrawn (h : b'.cancelPendingId = "") {called : List BridgeTask} :
    Keeps b b' called :=
  ⟨fun hpending ↦ absurd h hpending, fun hpending ↦ absurd h hpending,
    fun hpending ↦ absurd h hpending⟩

theorem acceptGoal_keeps (goal : Goal) : Keeps b (b.acceptGoal goal).1 [] := by
  unfold TypedActionBridge.acceptGoal
  split_ifs
  · exact keeps_idle rfl rfl
  · exact keeps_idle rfl rfl

theorem clearGoalState_keeps (commandId : String) (success : Bool) (status : UInt8)
    (message : String) : Keeps b (b.clearGoalState commandId)
      [.completeActive commandId success status message] := by
  have hframe : (b.clearGoalState commandId).scheduler = b.scheduler ∧
      (b.clearGoalState commandId).cancelPendingId =
        if b.cancelPendingId = commandId then "" else b.cancelPendingId := by
    unfold TypedActionBridge.clearGoalState
    split_ifs <;> simp_all
  obtain ⟨hs, hpending⟩ := hframe
  split_ifs at hpending with hsame
  · exact keeps_withdrawn hpending
  · refine ⟨fun _ ↦ hpending, fun _ hactive ↦ by rwa [hs], ?_⟩
    rintro - success' status' message' hcalled
    obtain ⟨rfl, -⟩ := BridgeTask.completeActive.inj (List.mem_singleton.mp hcalled)
    exact hsame rfl

theorem onCancelWatchdog_keeps (now : Int64) :
    Keeps b (b.onCancelWatchdog now).1 (b.onCancelWatchdog now).2 := by
  unfold TypedActionBridge.onCancelWatchdog
  split_ifs
  · exact keeps_idle rfl rfl
  · exact keeps_withdrawn rfl

theorem dispatchGoal_keeps {command : RobotCommand} {serverReady : Bool}
    (hwait : serverReady = true ∨ command.commandId ≠ b.cancelPendingId) :
    Keeps b b (TypedActionBridge.dispatchGoal command serverReady) := by
  refine ⟨fun _ ↦ rfl, fun _ hactive ↦ hactive, ?_⟩
  rintro - success status message hcalled
  unfold TypedActionBridge.dispatchGoal at hcalled
  split_ifs at hcalled with hready
  · obtain ⟨hsame, -⟩ := BridgeTask.completeActive.inj (List.mem_singleton.mp hcalled)
    rcases hwait with hserver | hother
    · simp [hserver] at hready
    · exact hother hsame.symm
  · simp at hcalled

theorem perform_keeps (hi : Targeted x) (htask : task ∈ outstanding x.callbacks)
    (hcancel : ∀ commandId, task ≠ .requestCancel commandId)
    (hwait : ∀ command, task = .dispatchGoal command →
      reading.serverReady = true ∨ command.commandId ≠ x.node.cancelPendingId) :
    Keeps x.node (x.node.perform reading task).1 (x.node.perform reading task).2.1 := by
  cases task with
  | enqueue command =>
    refine ⟨fun _ ↦ rfl, fun _ hactive ↦ activeId_enqueue command hactive, fun _ _ _ _ ↦ ?_⟩
    exact not_mem_processEvents
  | completeActive commandId success status message =>
    refine ⟨fun _ ↦ rfl, fun hpending hactive ↦ ?_, fun _ _ _ _ ↦ not_mem_processEvents⟩
    have hother : activeId x.node.scheduler ≠ some commandId := by
      rintro hsame
      obtain rfl := Option.some.inj (hsame.symm.trans hactive)
      have hcompleting := completing_iff.mpr ⟨success, status, message, htask⟩
      cases hcompleting.symm.trans (hi.uncompleted hpending)
    simpa only [TypedActionBridge.perform, TypedActionBridge.completeActive,
      complete_other hother] using hactive
  | dispatchGoal command => exact dispatchGoal_keeps (hwait command rfl)
  | requestCancel commandId => exact absurd rfl (hcancel commandId)
  | acceptGoal goal => exact acceptGoal_keeps goal
  | clearGoalState commandId success status message => exact clearGoalState_keeps _ _ _ _
  | cancelWatchdog => exact onCancelWatchdog_keeps reading.now
  | bindGoal | sendGoal | publishResult | recordInputRejection | awaitResult =>
    exact keeps_idle rfl rfl

theorem not_completing {commandId : String} (hold : x.completing commandId = false)
    {called : List BridgeTask} (hcalled : ∀ success status message,
      .completeActive commandId success status message ∉ called)
    {callbacks : List (Callback CallbackGroup BridgeTask)}
    (hout : ∀ task ∈ outstanding callbacks, task ∈ outstanding x.callbacks ∨ task ∈ called) :
    completing { node := b', callbacks := callbacks } commandId = false := by
  refine Bool.eq_false_iff.mpr fun hcompleting ↦ ?_
  obtain ⟨success, status, message, htask⟩ := completing_iff.mp hcompleting
  rcases hout _ htask with hbefore | hnew
  · cases (completing_iff.mpr ⟨success, status, message, hbefore⟩).symm.trans hold
  · exact hcalled success status message hnew

theorem Targeted.of_keeps (hi : Targeted x) {called : List BridgeTask}
    (hk : Keeps x.node b' called) {callbacks : List (Callback CallbackGroup BridgeTask)}
    (hout : ∀ task ∈ outstanding callbacks, task ∈ outstanding x.callbacks ∨ task ∈ called) :
    Targeted { node := b', callbacks := callbacks } := by
  refine ⟨fun hpending ↦ ?_, fun hpending ↦ ?_⟩
  · have hsame := hk.pending hpending
    have hold : x.node.cancelPendingId ≠ "" := hsame ▸ hpending
    rw [hsame]
    exact hk.active hpending (hi.active hold)
  · have hsame := hk.pending hpending
    have hold : x.node.cancelPendingId ≠ "" := hsame ▸ hpending
    rw [hsame]
    exact not_completing (hi.uncompleted hold) (hk.called hpending) hout

theorem not_completing_tasks {callback : BridgeCallback} {commandId : String} {success : Bool}
    {status : UInt8} {message : String} :
    .completeActive commandId success status message ∉ callback.tasks := by
  cases callback with
  | onCommand | onCancelWatchdog => simp [BridgeCallback.tasks]
  | goalResponse goal accepted => cases accepted <;> simp [BridgeCallback.tasks]
  | result goal wrapped => cases wrapped <;> simp [BridgeCallback.tasks]

theorem start_keeps (callback : BridgeCallback) : Keeps b (callback.taken b) callback.tasks := by
  refine ⟨fun _ ↦ ?_, fun _ hactive ↦ ?_, fun _ _ _ _ ↦ not_completing_tasks⟩
  · cases callback <;> rfl
  · cases callback <;> exact hactive

theorem targeted_step (hi : Targeted x) (hprompt : x.prompt e = true) : Targeted (x.step e).1 := by
  cases e with
  | start callback =>
    rw [step]
    split_ifs
    · refine hi.of_keeps (start_keeps callback) fun task htask ↦ ?_
      simpa [outstanding] using htask
    · exact hi
  | advance i reading =>
    rcases advance_cases (fun b ↦ b.perform reading) x.node x.callbacks i with
      ⟨hnode, hout⟩ | ⟨task, hnext, hnode, hout⟩
    · rw [step]
      dsimp only
      rw [hnode]
      exact hi.of_keeps (keeps_idle rfl rfl) fun task htask ↦ .inl (hout task htask)
    · rw [step]
      dsimp only
      rw [hnode]
      rw [prompt, hnext] at hprompt
      by_cases hcancel : ∃ commandId, task = .requestCancel commandId
      · obtain ⟨commandId, rfl⟩ := hcancel
        simp only [Bool.and_eq_true, decide_eq_true_eq, Bool.not_eq_true'] at hprompt
        obtain ⟨hactive, huncompleted⟩ := hprompt
        exact ⟨fun _ ↦ hactive, fun _ ↦ not_completing huncompleted
          (by simp [TypedActionBridge.perform]) hout⟩
      · refine hi.of_keeps (perform_keeps hi (mem_of_next hnext) ?_ ?_) hout
        · intro commandId hsame
          exact hcancel ⟨commandId, hsame⟩
        · rintro command rfl
          simpa using hprompt

theorem targeted_run (hi : Targeted x) {h : List BridgeEvent} (hprompt : promptRun x h = true) :
    Targeted (run step x h) := by
  induction h generalizing x with
  | nil => exact hi
  | cons e h ih =>
    rw [promptRun, Bool.and_eq_true] at hprompt
    exact ih (targeted_step hi hprompt.1) hprompt.2

theorem watchdog_discards_its_goal (maxPendingCommands : ℤ) (clearQueueOnFailure : Bool)
    (cancelTimeoutS : Double) (h : List BridgeEvent)
    (hprompt : promptRun
      { node := .create maxPendingCommands clearQueueOnFailure cancelTimeoutS } h = true) :
    CancelsActive (run step
      { node := .create maxPendingCommands clearQueueOnFailure cancelTimeoutS } h).node ∧
    SparesOthers (run step
      { node := .create maxPendingCommands clearQueueOnFailure cancelTimeoutS } h).node := by
  have hstart : Targeted
      { node := .create maxPendingCommands clearQueueOnFailure cancelTimeoutS } :=
    ⟨fun hpending ↦ absurd rfl hpending, fun hpending ↦ absurd rfl hpending⟩
  have hi := targeted_run hstart hprompt
  generalize run step _ h = x at hi ⊢
  refine ⟨hi.active, fun now commandId hactive hother hgoal ↦ ?_⟩
  have hidle : x.node.cancelPendingId = "" := by
    by_contra hpending
    exact hother (Option.some.inj (hactive.symm.trans (hi.active hpending)))
  simp [TypedActionBridge.onCancelWatchdog, TypedActionBridge.cancelTimedOut, hidle, hgoal]

end Run

/-- The defaults of the node's parameters. -/
def idleBridge : BridgeExecutor := { node := .create 16 true (.ofRat 2) }

def moveCommand (commandId : String) : RobotCommand :=
  { commandId := commandId, actionType := RobotCommand.move, durationS := .ofRat 1 }

def stopCommand : RobotCommand :=
  { commandId := "stop-1", actionType := RobotCommand.stop, priority := true }

def proceed (i : ℕ) : BridgeEvent := .advance i {}

def moveAccepted : List BridgeEvent :=
  .start (.onCommand (moveCommand "move-1")) :: List.replicate 5 (proceed 0) ++
    .start (.goalResponse ⟨0, "move-1"⟩ true) :: List.replicate 3 (proceed 0)

/-- The cancel is processed at once, and its result is still to come. -/
def promptCancel : List BridgeEvent :=
  moveAccepted ++ .start (.onCommand stopCommand) :: List.replicate 3 (proceed 0)

def lateCancel : List BridgeEvent :=
  moveAccepted ++ .start (.onCommand stopCommand) :: proceed 0 ::
    .start (.result ⟨0, "move-1"⟩ (some ⟨true, RobotCommandResult.statusSucceeded, ""⟩)) ::
    List.replicate 7 (proceed 1) ++ [proceed 0]

def failedWait : List BridgeEvent :=
  moveAccepted ++ .start (.onCommand (moveCommand "move-2")) :: List.replicate 2 (proceed 0) ++
    .start (.result ⟨0, "move-1"⟩ (some ⟨true, RobotCommandResult.statusSucceeded, ""⟩)) ::
    List.replicate 3 (proceed 0) ++
    .start (.onCommand stopCommand) :: List.replicate 2 (proceed 1) ++
    .advance 0 ⟨false, 0⟩ :: List.replicate 4 (proceed 0)

theorem not_spares {b : TypedActionBridge} (now : Int64) (commandId : String)
    (hactive : activeId b.scheduler = some commandId) (hother : commandId ≠ b.cancelPendingId)
    (hgoal : b.activeGoalId = commandId)
    (hcleared : (b.onCancelWatchdog now).1.activeGoalId ≠ commandId) : ¬ SparesOthers b :=
  fun h ↦ hcleared (h now commandId hactive hother hgoal).1

theorem watchdog_discards_the_stop :
    (¬ CancelsActive (run step idleBridge lateCancel).node ∧
      ¬ SparesOthers (run step idleBridge lateCancel).node) ∧
    (¬ CancelsActive (run step idleBridge failedWait).node ∧
      ¬ SparesOthers (run step idleBridge failedWait).node) := by
  have hlate := not_spares (b := (run step idleBridge lateCancel).node) 2000000000 "stop-1"
    (by decide +kernel) (by decide +kernel) (by decide +kernel) (by decide +kernel)
  have hfailed := not_spares (b := (run step idleBridge failedWait).node) 2000000000 "stop-1"
    (by decide +kernel) (by decide +kernel) (by decide +kernel) (by decide +kernel)
  refine ⟨⟨fun h ↦ ?_, hlate⟩, fun h ↦ ?_, hfailed⟩
  · exact absurd (h (by decide +kernel)) (by decide +kernel)
  · exact absurd (h (by decide +kernel)) (by decide +kernel)

theorem watchdog_discards_its_goal_prompt :
    CancelsActive (run step idleBridge promptCancel).node ∧
      SparesOthers (run step idleBridge promptCancel).node :=
  watchdog_discards_its_goal 16 true (.ofRat 2) promptCancel (by decide +kernel)

end EmbodiedAgent.BridgeExecutor
