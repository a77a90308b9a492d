import EmbodiedAgent.Action.Command
import EmbodiedAgent.Library.History

namespace EmbodiedAgent

open Library

/-- What the scheduler asks of its caller, with the fields its kind fills in. -/
inductive SchedulerEvent
  | dispatch (command : RobotCommand)
  | cancelActive (commandId : String)
  | result (commandId : String) (success : Bool) (status : UInt8) (message : String)
  | rejectedInput (commandId : String) (message : String)

structure ActionScheduler where
  maxPending : ℕ
  maxPending_pos : 1 ≤ maxPending
  clearQueueOnFailure : Bool
  active : Option RobotCommand := none
  pending : List RobotCommand := []
  cancelRequested : Bool := false
  acceptedCount : UInt64 := 0
  rejectedCount : UInt64 := 0
  completedCount : UInt64 := 0
  clearedCount : UInt64 := 0

namespace ActionScheduler

variable (s : ActionScheduler)

def create (maxPending : ℕ) (clearQueueOnFailure : Bool) : ActionScheduler :=
  { maxPending := max 1 maxPending
    maxPending_pos := le_max_left 1 maxPending
    clearQueueOnFailure := clearQueueOnFailure }

variable (command : RobotCommand)

def isPriority : Bool :=
  command.priority &&
    (command.actionType = RobotCommand.stop || command.actionType = RobotCommand.cancelNavigation)

def containsId (commandId : String) : Bool :=
  (match s.active with
    | some active => active.commandId = commandId
    | none => false) ||
  s.pending.any fun command ↦ command.commandId = commandId

def dispatch : ActionScheduler × SchedulerEvent :=
  ({ s with active := some command }, .dispatch command)

def clearPendingLoop (reason : String) :
    List RobotCommand → UInt64 → List SchedulerEvent → UInt64 × List SchedulerEvent
  | [], clearedCount, events => (clearedCount, events)
  | command :: rest, clearedCount, events =>
    clearPendingLoop reason rest (clearedCount + 1) (events ++
      [.result command.commandId false RobotCommandResult.statusCanceled reason])

def clearPending (events : List SchedulerEvent) (reason : String) :
    ActionScheduler × List SchedulerEvent :=
  let (clearedCount, events) := clearPendingLoop reason s.pending s.clearedCount events
  ({ s with pending := [], clearedCount := clearedCount }, events)

def dispatchNext (events : List SchedulerEvent) : ActionScheduler × List SchedulerEvent :=
  match s.active, s.pending with
  | none, command :: rest =>
    let (s, event) := { s with pending := rest }.dispatch command
    (s, events ++ [event])
  | _, _ => (s, events)

def enqueue : ActionScheduler × List SchedulerEvent :=
  if command.commandId = "" then
    ({ s with rejectedCount := s.rejectedCount + 1 }, [.rejectedInput "" "missing_command_id"])
  else if s.containsId command.commandId then
    ({ s with rejectedCount := s.rejectedCount + 1 },
      [.rejectedInput command.commandId "duplicate_command_id"])
  else if isPriority command then
    let (s, events) := { s with acceptedCount := s.acceptedCount + 1 }.clearPending []
      "queue_cleared_by_priority_command"
    match s.active with
    | none =>
      let (s, event) := s.dispatch command
      (s, events ++ [event])
    | some active =>
      let s := { s with pending := command :: s.pending }
      if !s.cancelRequested then
        ({ s with cancelRequested := true }, events ++ [.cancelActive active.commandId])
      else (s, events)
  else match s.active with
  | none =>
    let (s, event) := { s with acceptedCount := s.acceptedCount + 1 }.dispatch command
    (s, [event])
  | some _ =>
    if s.pending.length ≥ s.maxPending then
      ({ s with rejectedCount := s.rejectedCount + 1 },
        [.result command.commandId false RobotCommandResult.statusRejected "scheduler_queue_full"])
    else
      ({ s with acceptedCount := s.acceptedCount + 1, pending := s.pending ++ [command] }, [])

def complete (commandId : String) (success : Bool) (status : UInt8)
    (message : String) : ActionScheduler × List SchedulerEvent :=
  match s.active with
  | none => (s, [])
  | some active =>
    if active.commandId ≠ commandId then (s, [])
    else
      let wasCancelRequested := s.cancelRequested
      let s := { s with
        active := none, cancelRequested := false, completedCount := s.completedCount + 1 }
      let events := [.result commandId success status message]
      if !success && s.clearQueueOnFailure && !wasCancelRequested then
        s.clearPending events "queue_cleared_after_action_failure"
      else s.dispatchNext events

def clearAll (reason : String) : ActionScheduler × List SchedulerEvent :=
  match s.active with
  | none => s.clearPending [] reason
  | some active =>
    { s with
        active := none, cancelRequested := false
        completedCount := s.completedCount + 1 }.clearPending
      [.cancelActive active.commandId,
        .result active.commandId false RobotCommandResult.statusCanceled reason] reason

inductive Call
  | enqueue (command : RobotCommand)
  | complete (commandId : String) (success : Bool) (status : UInt8) (message : String)
  | clearAll (reason : String)

def step : Call → ActionScheduler × List SchedulerEvent
  | .enqueue command => s.enqueue command
  | .complete commandId success status message => s.complete commandId success status message
  | .clearAll reason => s.clearAll reason

def held : List RobotCommand := s.active.toList ++ s.pending

def cleared (reason : String) (commands : List RobotCommand) : List SchedulerEvent :=
  commands.map fun command ↦
    .result command.commandId false RobotCommandResult.statusCanceled reason

theorem clearPendingLoop_eq (reason : String) (commands : List RobotCommand)
    (clearedCount : UInt64) (events : List SchedulerEvent) :
    clearPendingLoop reason commands clearedCount events =
      (clearedCount + UInt64.ofNat commands.length, events ++ cleared reason commands) := by
  induction commands generalizing clearedCount events with
  | nil => simp [clearPendingLoop, cleared]
  | cons command rest ih =>
    rw [clearPendingLoop, ih, List.length_cons, UInt64.ofNat_add,
      UInt64.add_comm _ (UInt64.ofNat 1),
      UInt64.add_assoc]
    simp [cleared]

theorem clearPending_eq (events : List SchedulerEvent) (reason : String) :
    s.clearPending events reason =
      ({ s with pending := [], clearedCount := s.clearedCount + UInt64.ofNat s.pending.length },
        events ++ cleared reason s.pending) := by
  rw [clearPending, clearPendingLoop_eq]

theorem containsId_iff {s : ActionScheduler} {commandId : String} :
    s.containsId commandId = true ↔ commandId ∈ s.held.map RobotCommand.commandId := by
  cases hactive : s.active with
  | none => simp [containsId, held, hactive]
  | some active =>
    simp only [containsId, held, hactive, Option.toList_some, List.singleton_append,
      List.map_cons, List.mem_cons, Bool.or_eq_true, decide_eq_true_eq, List.any_eq_true,
      List.mem_map]
    rw [eq_comm]

def heldIds : List String := s.held.map RobotCommand.commandId

def accepts : Bool :=
  (s.enqueue command).1.acceptedCount = s.acceptedCount + 1

theorem heldIds_busy {s : ActionScheduler} {active : RobotCommand} (busy : s.active = some active) :
    s.heldIds = active.commandId :: s.pending.map RobotCommand.commandId := by
  simp [heldIds, held, busy]

variable (s : ActionScheduler)

inductive Outcome : Call → ActionScheduler × List SchedulerEvent → Prop
  | refused (command : RobotCommand) (message : String)
      (bad : command.commandId = "" ∨ command.commandId ∈ s.heldIds) :
      Outcome (.enqueue command) ({ s with rejectedCount := s.rejectedCount + 1 },
        [.rejectedInput command.commandId message])
  | priorityStarted (command : RobotCommand) (named : command.commandId ≠ "")
      (new : command.commandId ∉ s.heldIds) (priority : isPriority command = true)
      (idle : s.active = none) :
      Outcome (.enqueue command)
        ({ s with
            active := some command, pending := [], acceptedCount := s.acceptedCount + 1
            clearedCount := s.clearedCount + UInt64.ofNat s.pending.length },
          cleared "queue_cleared_by_priority_command" s.pending ++ [.dispatch command])
  | preempted (command : RobotCommand) (named : command.commandId ≠ "")
      (new : command.commandId ∉ s.heldIds) (priority : isPriority command = true)
      (active : RobotCommand) (busy : s.active = some active) :
      Outcome (.enqueue command)
        ({ s with
            pending := [command], cancelRequested := true, acceptedCount := s.acceptedCount + 1
            clearedCount := s.clearedCount + UInt64.ofNat s.pending.length },
          cleared "queue_cleared_by_priority_command" s.pending ++
            if s.cancelRequested then [] else [.cancelActive active.commandId])
  | started (command : RobotCommand) (named : command.commandId ≠ "")
      (new : command.commandId ∉ s.heldIds) (ordinary : isPriority command = false)
      (idle : s.active = none) :
      Outcome (.enqueue command)
        ({ s with active := some command, acceptedCount := s.acceptedCount + 1 },
          [.dispatch command])
  | full (command : RobotCommand) (named : command.commandId ≠ "")
      (new : command.commandId ∉ s.heldIds) (ordinary : isPriority command = false)
      (active : RobotCommand) (busy : s.active = some active)
      (noRoom : s.maxPending ≤ s.pending.length) :
      Outcome (.enqueue command) ({ s with rejectedCount := s.rejectedCount + 1 },
        [.result command.commandId false RobotCommandResult.statusRejected "scheduler_queue_full"])
  | queued (command : RobotCommand) (named : command.commandId ≠ "")
      (new : command.commandId ∉ s.heldIds) (ordinary : isPriority command = false)
      (active : RobotCommand) (busy : s.active = some active)
      (room : s.pending.length < s.maxPending) :
      Outcome (.enqueue command)
        ({ s with acceptedCount := s.acceptedCount + 1, pending := s.pending ++ [command] }, [])
  | stale (commandId : String) (success : Bool) (status : UInt8) (message : String)
      (other : ∀ active, s.active = some active → active.commandId ≠ commandId) :
      Outcome (.complete commandId success status message) (s, [])
  | failed (active : RobotCommand) (busy : s.active = some active) (status : UInt8)
      (message : String) (clears : s.clearQueueOnFailure = true)
      (uncanceled : s.cancelRequested = false) :
      Outcome (.complete active.commandId false status message)
        ({ s with
            active := none, pending := [], cancelRequested := false
            completedCount := s.completedCount + 1
            clearedCount := s.clearedCount + UInt64.ofNat s.pending.length },
          .result active.commandId false status message ::
            cleared "queue_cleared_after_action_failure" s.pending)
  | drained (active : RobotCommand) (busy : s.active = some active) (success : Bool)
      (status : UInt8) (message : String) (empty : s.pending = []) :
      Outcome (.complete active.commandId success status message)
        ({ s with
            active := none, cancelRequested := false, completedCount := s.completedCount + 1 },
          [.result active.commandId success status message])
  | advanced (active : RobotCommand) (busy : s.active = some active) (success : Bool)
      (status : UInt8) (message : String) (next : RobotCommand) (rest : List RobotCommand)
      (waiting : s.pending = next :: rest) :
      Outcome (.complete active.commandId success status message)
        ({ s with
            active := some next, pending := rest, cancelRequested := false
            completedCount := s.completedCount + 1 },
          [.result active.commandId success status message, .dispatch next])
  | clearedIdle (reason : String) (idle : s.active = none) :
      Outcome (.clearAll reason)
        ({ s with
            pending := [], clearedCount := s.clearedCount + UInt64.ofNat s.pending.length },
          cleared reason s.pending)
  | clearedActive (reason : String) (active : RobotCommand) (busy : s.active = some active) :
      Outcome (.clearAll reason)
        ({ s with
            active := none, pending := [], cancelRequested := false
            completedCount := s.completedCount + 1
            clearedCount := s.clearedCount + UInt64.ofNat s.pending.length },
          [.cancelActive active.commandId,
            .result active.commandId false RobotCommandResult.statusCanceled reason] ++
              cleared reason s.pending)

theorem enqueue_outcome :
    Outcome s (.enqueue command) (s.enqueue command) := by
  rw [enqueue]
  by_cases hnamed : command.commandId = ""
  · rw [if_pos hnamed, ← hnamed]
    exact .refused command _ (.inl hnamed)
  by_cases hnew : s.containsId command.commandId = true
  · rw [if_neg hnamed, if_pos hnew]
    exact .refused command _ (.inr (containsId_iff.mp hnew))
  have hnew' : command.commandId ∉ s.heldIds := fun h ↦ hnew (containsId_iff.mpr h)
  rw [if_neg hnamed, if_neg hnew]
  by_cases hpriority : isPriority command = true
  · rw [if_pos hpriority]
    cases hactive : s.active with
    | none =>
      simp only [clearPending_eq, dispatch, List.nil_append]
      exact .priorityStarted command hnamed hnew' hpriority hactive
    | some active =>
      have ho := Outcome.preempted command hnamed hnew' hpriority active hactive
      simp only [clearPending_eq, List.nil_append]
      cases hcancel : s.cancelRequested <;> simpa [hcancel, hactive] using ho
  · have hordinary := Bool.eq_false_iff.mpr hpriority
    rw [if_neg hpriority]
    cases hactive : s.active with
    | none => exact .started command hnamed hnew' hordinary hactive
    | some active =>
      dsimp only
      split_ifs with hfull
      · rw [← hactive]
        exact .full command hnamed hnew' hordinary active hactive hfull
      · rw [← hactive]
        exact .queued command hnamed hnew' hordinary active hactive (not_le.mp hfull)

theorem complete_outcome (commandId : String) (success : Bool) (status : UInt8)
    (message : String) : Outcome s (.complete commandId success status message)
      (s.complete commandId success status message) := by
  unfold complete
  cases hactive : s.active with
  | none => exact .stale _ _ _ _ (by simp [hactive])
  | some active =>
    by_cases hid : active.commandId = commandId
    · subst hid
      dsimp only
      rw [if_neg (not_not.mpr rfl)]
      split_ifs with hclears
      · simp only [Bool.and_eq_true, Bool.not_eq_true'] at hclears
        obtain ⟨⟨rfl, hclears⟩, hcancel⟩ := hclears
        rw [clearPending_eq]
        exact .failed active hactive status message hclears hcancel
      · cases hpending : s.pending with
        | nil =>
          have ho := Outcome.drained active hactive success status message hpending
          simpa [dispatchNext, hpending] using ho
        | cons next rest => exact .advanced active hactive success status message next rest hpending
    · dsimp only
      rw [if_pos hid]
      exact .stale _ _ _ _ (by simpa [hactive] using hid)

theorem clearAll_outcome (reason : String) : Outcome s (.clearAll reason) (s.clearAll reason) := by
  unfold clearAll
  cases hactive : s.active with
  | none =>
    simp only [clearPending_eq, List.nil_append]
    exact .clearedIdle reason hactive
  | some active =>
    simp only [clearPending_eq]
    exact .clearedActive reason active hactive

theorem step_outcome (c : Call) : Outcome s c (s.step c) := by
  cases c with
  | enqueue command => exact s.enqueue_outcome command
  | complete commandId success status message => exact s.complete_outcome _ _ _ _
  | clearAll reason => exact s.clearAll_outcome reason

end ActionScheduler

end EmbodiedAgent
