import EmbodiedAgent.Action.Scheduler

namespace EmbodiedAgent.ActionScheduler

open Library Library.History
open scoped List

def isRejectedInput : SchedulerEvent → Bool
  | .rejectedInput .. => true
  | _ => false

def refuses (s : ActionScheduler) (command : RobotCommand) : Bool :=
  (s.enqueue command).2.any isRejectedInput

/-- The call is an enqueue under this identifier, and not refused. -/
def Admits (s : ActionScheduler) (commandId : String) (call : Call) : Prop :=
  ∃ command, call = .enqueue command ∧ command.commandId = commandId ∧ s.refuses command = false

def resultIds : List SchedulerEvent → List String
  | [] => []
  | .result commandId _ _ _ :: events => commandId :: resultIds events
  | _ :: events => resultIds events

def dispatched : List SchedulerEvent → List RobotCommand
  | [] => []
  | .dispatch command :: events => command :: dispatched events
  | _ :: events => dispatched events

def emitted (s : ActionScheduler) (h : List Call) : List SchedulerEvent :=
  collect step (fun s call ↦ (s.step call).2) s h

variable {s : ActionScheduler} {call : Call} {commandId : String} {h post : List Call}
  {command : RobotCommand}

theorem resultIds_append (events events' : List SchedulerEvent) :
    resultIds (events ++ events') = resultIds events ++ resultIds events' := by
  induction events with
  | nil => rfl
  | cons event events ih => cases event <;> simp [resultIds, ih]

theorem dispatched_append (events events' : List SchedulerEvent) :
    dispatched (events ++ events') = dispatched events ++ dispatched events' := by
  induction events with
  | nil => rfl
  | cons event events ih => cases event <;> simp [dispatched, ih]

@[simp] theorem resultIds_cleared (reason : String) (commands : List RobotCommand) :
    resultIds (cleared reason commands) = commands.map RobotCommand.commandId := by
  induction commands with
  | nil => rfl
  | cons command commands ih => exact congrArg (command.commandId :: ·) ih

theorem resultIds_cancel (requested : Bool) (commandId : String) :
    resultIds (if requested then [] else [.cancelActive commandId]) = [] := by
  cases requested <;> rfl

@[simp] theorem dispatched_cleared (reason : String) (commands : List RobotCommand) :
    dispatched (cleared reason commands) = [] := by
  induction commands with
  | nil => rfl
  | cons command commands ih => exact ih

@[simp] theorem cleared_any_rejected (reason : String) (commands : List RobotCommand) :
    (cleared reason commands).any isRejectedInput = false := by
  simp [cleared, isRejectedInput]

theorem resultIds_emitted (s : ActionScheduler) (h : List Call) :
    resultIds (emitted s h) = collect step (fun s call ↦ resultIds (s.step call).2) s h := by
  induction h generalizing s with
  | nil => rfl
  | cons call h ih => rw [emitted, collect_cons, resultIds_append, collect_cons, ← ih, emitted]

theorem refuses_eq {out : ActionScheduler × List SchedulerEvent}
    (hs : s.step (.enqueue command) = out) : s.refuses command = out.2.any isRejectedInput := by
  rw [refuses, ← hs, step]

def admittedIds (s : ActionScheduler) : Call → List String
  | .enqueue command => if s.refuses command then [] else [command.commandId]
  | _ => []

theorem admittedIds_eq {out : ActionScheduler × List SchedulerEvent}
    (hs : s.step (.enqueue command) = out) (hout : out.2.any isRejectedInput = false) :
    s.admittedIds (.enqueue command) = [command.commandId] := by
  rw [admittedIds, refuses_eq hs, hout]
  rfl

theorem balance_step (s : ActionScheduler) (call : Call) :
    s.heldIds ++ s.admittedIds call ~ (s.step call).1.heldIds ++ resultIds (s.step call).2 := by
  have ho := s.step_outcome call
  generalize hout : s.step call = out at ho
  cases ho with
  | refused command message bad =>
    rw [admittedIds, refuses_eq hout]
    exact .refl _
  | priorityStarted command named new priority idle =>
    rw [admittedIds_eq hout (by simp [isRejectedInput])]
    simp [heldIds, held, idle, resultIds, resultIds_append]
  | preempted command named new priority active busy =>
    rw [admittedIds_eq hout (by cases s.cancelRequested <;> simp [isRejectedInput])]
    simp only [heldIds, held, busy, resultIds_append, resultIds_cleared, resultIds_cancel]
    simp
  | started command named new ordinary idle =>
    rw [admittedIds_eq hout rfl]
    simp [heldIds, held, idle, resultIds]
  | full command named new ordinary active busy noRoom =>
    rw [admittedIds_eq hout rfl]
    exact .refl _
  | queued command named new ordinary active busy room =>
    rw [admittedIds_eq hout rfl]
    simp [heldIds, held, busy, resultIds]
  | stale => exact .refl _
  | failed active busy status message clears uncanceled =>
    simp [heldIds, held, busy, admittedIds, resultIds]
  | drained active busy success status message empty =>
    simp [heldIds, held, busy, admittedIds, resultIds, empty]
  | advanced active busy success status message next rest waiting =>
    simp only [heldIds, held, busy, waiting, admittedIds, resultIds, Option.toList_some,
      List.singleton_append, List.map_cons, List.append_nil]
    exact (List.perm_append_singleton _ _).symm
  | clearedIdle reason idle => simp [heldIds, held, idle, admittedIds]
  | clearedActive reason active busy =>
    simp [heldIds, held, busy, admittedIds, resultIds]

theorem balance (s : ActionScheduler) (h : List Call) :
    s.heldIds ++ collect step admittedIds s h ~ (run step s h).heldIds ++
      resultIds (emitted s h) := by
  rw [resultIds_emitted]
  exact conserved step heldIds admittedIds _ balance_step s h

theorem not_held_of_not_refused (hc : s.refuses command = false) :
    command.commandId ∉ s.heldIds := by
  have ho := s.step_outcome (.enqueue command)
  generalize hout : s.step (.enqueue command) = out at ho
  rw [refuses_eq hout] at hc
  cases ho with
  | refused => cases hc
  | priorityStarted | preempted | started | full | queued => assumption

theorem admittedIds_quiet (hq : Quiet (fun h' d ↦ Admits (run step s h') commandId d) h post) :
    (collect step admittedIds (run step s h) post).count commandId = 0 := by
  refine List.count_eq_zero.mpr fun hmem ↦ ?_
  obtain ⟨pre, d, rest, hsplit, hd⟩ := (mem_collect step admittedIds).mp hmem
  refine hq pre d rest hsplit ?_
  change Admits (run step s (h ++ pre)) commandId d
  rw [run_append]
  cases d with
  | enqueue command =>
    rw [admittedIds] at hd
    split_ifs at hd with hr
    · cases hd
    · exact ⟨command, rfl, (List.mem_singleton.mp hd).symm, Bool.eq_false_iff.mpr hr⟩
  | complete | clearAll => cases hd

theorem held_add_results (hc : s.refuses command = false)
    (hq : Quiet (fun h' d ↦ Admits (run step s h') command.commandId d) [.enqueue command] post) :
    (run step s (.enqueue command :: post)).heldIds.count command.commandId +
      (resultIds (emitted s (.enqueue command :: post))).count command.commandId = 1 := by
  have hbalance := (balance s (.enqueue command :: post)).count_eq command.commandId
  have hlater := admittedIds_quiet hq
  rw [collect_cons, admittedIds, hc] at hbalance
  rw [run_cons, run_nil] at hlater
  simp only [List.count_append, List.count_eq_zero.mpr (not_held_of_not_refused hc), hlater,
    Bool.false_eq_true, if_false, List.count_singleton_self] at hbalance
  omega

theorem accepts_eq {out : ActionScheduler × List SchedulerEvent}
    (hs : s.step (.enqueue command) = out) :
    s.accepts command = decide (out.1.acceptedCount = s.acceptedCount + 1) := by
  rw [accepts, ← hs, step]

theorem not_refused_of_accepts (ha : s.accepts command = true) : s.refuses command = false := by
  have ho := s.step_outcome (.enqueue command)
  generalize hout : s.step (.enqueue command) = out at ho
  rw [accepts_eq hout] at ha
  rw [refuses_eq hout]
  cases ho with
  | refused => simp at ha
  | priorityStarted => simp [isRejectedInput]
  | preempted => cases s.cancelRequested <;> simp [isRejectedInput]
  | started | full | queued => rfl

theorem held_step {d : RobotCommand} (hd : d ∈ (s.step call).1.held) :
    d ∈ s.held ∨ (call = .enqueue d ∧ s.accepts d = true) := by
  have ho := s.step_outcome call
  generalize hout : s.step call = out at ho hd
  cases ho with
  | refused | full | stale => exact .inl hd
  | priorityStarted command named new priority idle =>
    obtain rfl : d = command := by simpa [held] using hd
    exact .inr ⟨rfl, by simp [accepts_eq hout]⟩
  | preempted command named new priority active busy =>
    rcases (by simpa [held, busy] using hd : d = active ∨ d = command) with rfl | rfl
    · exact .inl (by simp [held, busy])
    · exact .inr ⟨rfl, by simp [accepts_eq hout]⟩
  | started command named new ordinary idle =>
    rcases (by simpa [held] using hd : d = command ∨ d ∈ s.pending) with rfl | hd
    · exact .inr ⟨rfl, by simp [accepts_eq hout]⟩
    · exact .inl (by simp [held, hd])
  | queued command named new ordinary active busy room =>
    rcases (by simpa [held, or_assoc] using hd : d ∈ s.held ∨ d = command) with hd | rfl
    · exact .inl hd
    · exact .inr ⟨rfl, by simp [accepts_eq hout]⟩
  | failed | drained | clearedActive => simp_all [held]
  | advanced active busy success status message next rest waiting =>
    exact .inl (by simp_all [held])
  | clearedIdle reason idle => simp [held, idle] at hd

theorem held_unique (hc : s.refuses command = false)
    (hq : Quiet (fun h' d ↦ Admits (run step s h') command.commandId d) [.enqueue command] post) :
    ∀ d ∈ (run step s (.enqueue command :: post)).held,
      d.commandId = command.commandId → d = command := by
  refine hq.run_induction (I := fun _ (s' : ActionScheduler) ↦
    ∀ d ∈ s'.held, d.commandId = command.commandId → d = command) ?_ ?_
  · intro d hd hid
    rcases held_step hd with hd | ⟨he, -⟩
    · exact absurd (hid ▸ List.mem_map_of_mem hd) (not_held_of_not_refused hc)
    · exact (Call.enqueue.inj he).symm
  · intro mid e he hmid d hd hid
    rcases held_step hd with hd | ⟨rfl, hr⟩
    · exact hmid d hd hid
    · exact absurd ⟨d, rfl, hid, not_refused_of_accepts hr⟩ he

theorem active_of_dispatched {d : RobotCommand} (hd : d ∈ dispatched (s.step call).2) :
    (s.step call).1.active = some d := by
  have ho := s.step_outcome call
  generalize s.step call = out at ho hd ⊢
  cases ho with
  | priorityStarted | started | advanced => simp_all [dispatched, dispatched_append]
  | preempted => cases hcancel : s.cancelRequested <;> simp_all [dispatched, dispatched_append]
  | refused | full | queued | stale | failed | drained | clearedIdle | clearedActive =>
    simp [dispatched] at hd

theorem dispatched_emitted (s : ActionScheduler) (h : List Call) :
    dispatched (emitted s h) = collect step (fun s call ↦ dispatched (s.step call).2) s h := by
  induction h generalizing s with
  | nil => rfl
  | cons call h ih => rw [emitted, collect_cons, dispatched_append, collect_cons, ← ih, emitted]

theorem emitted_cons (s : ActionScheduler) (call : Call) (h : List Call) :
    emitted s (call :: h) = (s.step call).2 ++ emitted (s.step call).1 h := rfl

def rejectsFull (s : ActionScheduler) (command : RobotCommand) : Prop :=
  (s.enqueue command).2 =
    [.result command.commandId false RobotCommandResult.statusRejected "scheduler_queue_full"]

theorem not_refused_of_full (hf : s.rejectsFull command) : s.refuses command = false := by
  rw [refuses, hf]
  rfl

theorem full_answered (hf : s.rejectsFull command)
    (hq : Quiet (fun h' d ↦ Admits (run step s h') command.commandId d) [.enqueue command] post) :
    command.commandId ∉ (run step s (.enqueue command :: post)).heldIds ∧
      (resultIds (emitted s (.enqueue command :: post))).count command.commandId = 1 := by
  have hsum := held_add_results (not_refused_of_full hf) hq
  have hone : 1 ≤ (resultIds (emitted s (.enqueue command :: post))).count command.commandId := by
    rw [emitted_cons, step, hf, List.singleton_append, resultIds, List.count_cons_self]
    omega
  refine ⟨List.count_eq_zero.mp ?_, ?_⟩ <;> omega

theorem dispatched_ne (hout : ∀ mid rest, post = mid ++ rest →
    commandId ∉ (run step s (call :: mid)).heldIds) {d : RobotCommand}
    (hd : d ∈ dispatched (emitted s (call :: post))) : d.commandId ≠ commandId := by
  rw [dispatched_emitted] at hd
  obtain ⟨pre, e, rest, hsplit, he⟩ := (mem_collect step _).mp hd
  have hactive := active_of_dispatched he
  rw [← run_snoc] at hactive
  have hheld : d.commandId ∈ (run step s (pre ++ [e])).heldIds := by
    rw [heldIds_busy hactive]
    exact List.mem_cons_self
  rintro rfl
  cases pre with
  | nil =>
    obtain ⟨rfl, rfl⟩ := List.cons.inj hsplit
    exact hout [] _ rfl hheld
  | cons first mid =>
    obtain ⟨rfl, hmid⟩ := List.cons.inj hsplit
    exact hout (mid ++ [e]) rest (by simp [hmid]) hheld

theorem full_not_dispatched (hf : s.rejectsFull command)
    (hq : Quiet (fun h' d ↦ Admits (run step s h') command.commandId d) [.enqueue command] post)
    (d : RobotCommand) (hd : d ∈ dispatched (emitted s (.enqueue command :: post))) :
    d.commandId ≠ command.commandId := by
  refine dispatched_ne ?_ hd
  rintro mid rest rfl
  exact (full_answered hf hq.of_append).1

/-- How the counters account for what is held. -/
def Counted (s : ActionScheduler) : Prop :=
  s.acceptedCount = s.completedCount + s.clearedCount + (if s.active.isSome then 1 else 0) +
    UInt64.ofNat s.pending.length

theorem counted_step (hs : Counted s) (call : Call) : Counted (s.step call).1 := by
  have ho := s.step_outcome call
  generalize s.step call = out at ho
  unfold Counted at hs ⊢
  cases ho with
  | refused | full | stale => exact hs
  | priorityStarted _ _ _ _ idle | started _ _ _ _ idle | clearedIdle _ idle =>
    simp [idle] at hs ⊢
    grind
  | preempted _ _ _ _ _ busy | queued _ _ _ _ _ busy | failed _ busy | clearedActive _ _ busy =>
    simp [busy] at hs ⊢
    grind
  | drained active busy success status message empty =>
    simp [busy, empty] at hs ⊢
    grind
  | advanced active busy success status message next rest waiting =>
    simp [busy, waiting] at hs ⊢
    grind

theorem counted_run (maxPending : ℕ) (clearQueueOnFailure : Bool) (h : List Call) :
    Counted (run step (create maxPending clearQueueOnFailure) h) :=
  run_preserves step (I := Counted) (fun _ call hs ↦ counted_step hs call)
    (by simp [Counted, create]) h

/-- How the enqueue of `c` is answered within `h`, until its identifier is let in again. -/
structure AnsweredOnce (s : ActionScheduler) (h pre : List Call) (c : RobotCommand)
    (post : List Call) : Prop where
  terminal : (run step s pre).refuses c = false →
    (c ∈ (run step s h).held ∧
      (resultIds (emitted (run step s pre) (.enqueue c :: post))).count c.commandId = 0) ∨
    (c.commandId ∉ (run step s h).heldIds ∧
      (resultIds (emitted (run step s pre) (.enqueue c :: post))).count c.commandId = 1)
  full : (run step s pre).rejectsFull c →
    (resultIds (emitted (run step s pre) (.enqueue c :: post))).count c.commandId = 1 ∧
      ∀ d ∈ dispatched (emitted (run step s pre) (.enqueue c :: post)), d.commandId ≠ c.commandId

theorem terminal_results (maxPending : ℕ) (clearQueueOnFailure : Bool) (h : List Call) :
    (∀ pre c post, h = pre ++ .enqueue c :: post →
      Quiet (fun h' d ↦ Admits (run step (create maxPending clearQueueOnFailure) h') c.commandId d)
        (pre ++ [.enqueue c]) post →
      AnsweredOnce (create maxPending clearQueueOnFailure) h pre c post) ∧
    Counted (run step (create maxPending clearQueueOnFailure) h) := by
  refine ⟨?_, counted_run maxPending clearQueueOnFailure h⟩
  intro pre c post hsplit hquiet
  have hq := hquiet.later (Q := fun s' d ↦ Admits s' c.commandId d)
  constructor
  · intro hc
    have hsum := held_add_results hc hq
    have hunique := held_unique hc hq
    rw [hsplit, run_append]
    by_cases hheld : c.commandId ∈ (run step (run step (create maxPending clearQueueOnFailure) pre)
        (.enqueue c :: post)).heldIds
    · obtain ⟨d, hd, hid⟩ := List.mem_map.mp hheld
      have hpos := List.count_pos_iff.mpr hheld
      refine .inl ⟨hunique d hd hid ▸ hd, ?_⟩
      omega
    · have hzero := List.count_eq_zero.mpr hheld
      refine .inr ⟨hheld, ?_⟩
      omega
  · intro hf
    exact ⟨(full_answered hf hq).2, full_not_dispatched hf hq⟩

def AnsweredOnceForever (s : ActionScheduler) (h : List Call) : Prop :=
  ∀ pre c post, h = pre ++ .enqueue c :: post → (run step s pre).refuses c = false →
    c ∈ (run step s h).held ∨
      (resultIds (emitted (run step s pre) (.enqueue c :: post))).count c.commandId = 1

/-- An identifier that is free again may be used for a second command. -/
def reusedRun : List Call :=
  [.enqueue { commandId := "move-1", actionType := RobotCommand.move },
    .complete "move-1" true RobotCommandResult.statusSucceeded "succeeded",
    .enqueue { commandId := "move-1", actionType := RobotCommand.move },
    .complete "move-1" true RobotCommandResult.statusSucceeded "succeeded"]

theorem reused_identifier_answered_twice : ¬ AnsweredOnceForever (create 16 true) reusedRun := by
  intro h
  have hfirst := h [] { commandId := "move-1", actionType := RobotCommand.move } _ rfl (by decide)
  revert hfirst
  decide

end EmbodiedAgent.ActionScheduler
