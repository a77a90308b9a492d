import EmbodiedAgent.Action.SchedulerResults

namespace EmbodiedAgent.ActionScheduler

open Library Library.History
open scoped List

structure Serial (s : ActionScheduler) : Prop where
  busy : s.active = none → s.pending = []
  distinct : s.heldIds.Nodup
  named : "" ∉ s.heldIds
  bounded : s.pending.length ≤ s.maxPending
  requested : ∀ c ∈ s.pending, isPriority c = true → s.cancelRequested = true
  behind : ∀ c ∈ s.pending.tail, isPriority c = false

def underWay (live : List String) : SchedulerEvent → List String
  | .dispatch command => live ++ [command.commandId]
  | .result commandId _ _ _ => live.erase commandId
  | _ => live

def OneGoal (live : List String) : List SchedulerEvent → Prop
  | [] => live.length ≤ 1
  | event :: events => live.length ≤ 1 ∧ OneGoal (underWay live event) events

def activeIds (s : ActionScheduler) : List String :=
  (s.active.map RobotCommand.commandId).toList

def ordinary (commands : List RobotCommand) : List RobotCommand :=
  commands.filter fun c ↦ !isPriority c

def acceptedBy (s : ActionScheduler) : Call → List RobotCommand
  | .enqueue command => if s.accepts command then [command] else []
  | _ => []

variable {s : ActionScheduler} {call : Call} {command : RobotCommand} {h pre post : List Call}

theorem serial_create (maxPending : ℕ) (clearQueueOnFailure : Bool) :
    Serial (create maxPending clearQueueOnFailure) := by
  constructor <;> simp [create, heldIds, held]

theorem admitted_new (s : ActionScheduler) (call : Call) :
    "" ∉ s.admittedIds call ∧ (s.admittedIds call).Nodup ∧
      s.heldIds.Disjoint (s.admittedIds call) := by
  cases call with
  | complete | clearAll => simp [admittedIds]
  | enqueue command =>
    by_cases hc : s.refuses command = true
    · simp [admittedIds, hc]
    · have hnew := not_held_of_not_refused (Bool.eq_false_iff.mpr hc)
      have ho := s.step_outcome (.enqueue command)
      generalize hout : s.step (.enqueue command) = out at ho
      rw [refuses_eq hout] at hc
      have hnamed : command.commandId ≠ "" := by
        cases ho with
        | refused => simp [isRejectedInput] at hc
        | priorityStarted | preempted | started | full | queued => assumption
      rw [← refuses_eq hout] at hc
      simp [admittedIds, hc, hnamed.symm, hnew]

theorem heldIds_step (hs : Serial s) (call : Call) :
    (s.step call).1.heldIds.Nodup ∧ "" ∉ (s.step call).1.heldIds := by
  obtain ⟨hnamed, hnodup, hnew⟩ := admitted_new s call
  have hbalance := balance_step s call
  have hall : (s.heldIds ++ s.admittedIds call).Nodup :=
    List.nodup_append'.mpr ⟨hs.distinct, hnodup, hnew⟩
  refine ⟨(hbalance.nodup_iff.mp hall).of_append_left, fun hmem ↦ ?_⟩
  rcases List.mem_append.mp (hbalance.mem_iff.mpr (List.mem_append_left _ hmem)) with hm | hm
  · exact hs.named hm
  · exact hnamed hm

theorem serial_step (hs : Serial s) (call : Call) : Serial (s.step call).1 := by
  obtain ⟨hdistinct, hnamed⟩ := heldIds_step hs call
  have ho := s.step_outcome call
  generalize s.step call = out at ho hdistinct hnamed
  cases ho with
  | refused | full => exact ⟨hs.busy, hdistinct, hnamed, hs.bounded, hs.requested, hs.behind⟩
  | stale => exact hs
  | priorityStarted | failed | clearedIdle | clearedActive =>
    exact ⟨by simp, hdistinct, hnamed, by simp, by simp, by simp⟩
  | preempted command named new priority active busy =>
    exact ⟨by simp [busy], hdistinct, hnamed, s.maxPending_pos, by simp, by simp⟩
  | started command named new ordinary idle =>
    exact ⟨by simp, hdistinct, hnamed, hs.bounded, hs.requested, hs.behind⟩
  | queued command named new ordinary active busy room =>
    refine ⟨by simp [busy], hdistinct, hnamed, by simpa using Nat.succ_le_of_lt room, ?_, ?_⟩
    · intro c hc hpriority
      rcases List.mem_append.mp hc with hc | hc
      · exact hs.requested c hc hpriority
      · rw [List.mem_singleton.mp hc, ordinary] at hpriority
        cases hpriority
    · intro c hc
      cases hpending : s.pending with
      | nil => simp [hpending] at hc
      | cons first rest =>
        rw [hpending, List.cons_append, List.tail_cons] at hc
        rcases List.mem_append.mp hc with hc | hc
        · exact hs.behind c (by rwa [hpending])
        · rwa [List.mem_singleton.mp hc]
  | drained active busy success status message empty =>
    exact ⟨fun _ ↦ empty, hdistinct, hnamed, hs.bounded, by simp [empty], by simp [empty]⟩
  | advanced active busy success status message next rest waiting =>
    have hrest : ∀ c ∈ rest, isPriority c = false := by
      intro c hc
      exact hs.behind c (by rwa [waiting])
    have hbound := hs.bounded
    rw [waiting, List.length_cons] at hbound
    refine ⟨by simp, hdistinct, hnamed, ?_, ?_, ?_⟩
    · exact Nat.le_of_succ_le hbound
    · intro c hc hpriority
      exact absurd hpriority (by simp [hrest c hc])
    · intro c hc
      exact hrest c (List.mem_of_mem_tail hc)

theorem serial_run (hs : Serial s) (h : List Call) : Serial (run step s h) :=
  run_preserves step (I := Serial) (fun _ call hs ↦ serial_step hs call) hs h

theorem run_maxPending (s : ActionScheduler) (h : List Call) :
    (run step s h).maxPending = s.maxPending := by
  refine run_preserves step (I := fun s' ↦ s'.maxPending = s.maxPending) ?_ rfl h
  intro s' call hs'
  have ho := s'.step_outcome call
  generalize s'.step call = out at ho
  cases ho <;> exact hs'

theorem oneGoal_append {live : List String} {events events' : List SchedulerEvent} :
    OneGoal live (events ++ events') ↔
      OneGoal live events ∧ OneGoal (events.foldl underWay live) events' := by
  induction events generalizing live with
  | nil => cases events' <;> simp [OneGoal]
  | cons event events ih => simp [OneGoal, ih, and_assoc]

theorem oneGoal_prefix {live : List String} {events q : List SchedulerEvent}
    (h : OneGoal live events) (hq : q <+: events) : (q.foldl underWay live).length ≤ 1 := by
  obtain ⟨rest, rfl⟩ := hq
  have hlast := (oneGoal_append.mp h).2
  cases rest with
  | nil => exact hlast
  | cons event rest => exact hlast.1

theorem foldl_cleared (live : List String) (reason : String) (commands : List RobotCommand)
    (h : ∀ c ∈ commands, c.commandId ∉ live) (hlive : live.length ≤ 1) :
    OneGoal live (cleared reason commands) ∧
      (cleared reason commands).foldl underWay live = live := by
  induction commands with
  | nil => exact ⟨hlive, rfl⟩
  | cons command commands ih =>
    have hkeep : live.erase command.commandId = live :=
      List.erase_of_not_mem (h command List.mem_cons_self)
    obtain ⟨hone, hfold⟩ := ih fun c hc ↦ h c (List.mem_cons_of_mem _ hc)
    simp only [cleared, List.map_cons, OneGoal, underWay, List.foldl_cons, hkeep]
    exact ⟨⟨hlive, hone⟩, hfold⟩

theorem activeIds_idle (idle : s.active = none) : s.activeIds = [] := by
  simp [activeIds, idle]

theorem activeIds_busy {active : RobotCommand} (busy : s.active = some active) :
    s.activeIds = [active.commandId] := by
  simp [activeIds, busy]

theorem activeIds_le_one (s : ActionScheduler) : s.activeIds.length ≤ 1 := by
  cases hactive : s.active <;> simp [activeIds, hactive]

theorem activeIds_held {commandId : String} (h : commandId ∈ s.activeIds) :
    commandId ∈ s.heldIds := by
  cases hactive : s.active with
  | none => simp [activeIds_idle hactive] at h
  | some active =>
    rw [activeIds_busy hactive, List.mem_singleton] at h
    simp [heldIds_busy hactive, h]

theorem pending_apart (hs : Serial s) : ∀ c ∈ s.pending, c.commandId ∉ s.activeIds := by
  intro c hc hid
  cases hactive : s.active with
  | none => simp [activeIds_idle hactive] at hid
  | some active =>
    have hdistinct := hs.distinct
    rw [heldIds_busy hactive, List.nodup_cons] at hdistinct
    rw [activeIds_busy hactive, List.mem_singleton] at hid
    exact hdistinct.1 (hid ▸ List.mem_map_of_mem hc)

theorem oneGoal_step (hs : Serial s) (call : Call) :
    OneGoal s.activeIds (s.step call).2 ∧
      (s.step call).2.foldl underWay s.activeIds = (s.step call).1.activeIds := by
  have hlive := s.activeIds_le_one
  have ho := s.step_outcome call
  generalize s.step call = out at ho
  cases ho with
  | refused => exact ⟨⟨hlive, hlive⟩, rfl⟩
  | stale | queued => exact ⟨hlive, rfl⟩
  | full command named new =>
    have hkeep : s.activeIds.erase command.commandId = s.activeIds :=
      List.erase_of_not_mem fun hid ↦ new (activeIds_held hid)
    simp only [OneGoal, underWay, List.foldl_cons, List.foldl_nil, hkeep]
    exact ⟨⟨hlive, hlive⟩, rfl⟩
  | priorityStarted command named new priority idle =>
    rw [activeIds_idle idle, hs.busy idle, activeIds_busy rfl]
    simp [cleared, OneGoal, underWay]
  | preempted command named new priority active busy =>
    obtain ⟨hone, hfold⟩ := foldl_cleared _ "queue_cleared_by_priority_command" _
      (pending_apart hs) hlive
    rw [oneGoal_append, List.foldl_append, hfold]
    cases s.cancelRequested
    · exact ⟨⟨hone, hlive, hlive⟩, rfl⟩
    · exact ⟨⟨hone, hlive⟩, rfl⟩
  | started command named new ordinary idle =>
    rw [activeIds_idle idle, activeIds_busy rfl]
    simp [OneGoal, underWay]
  | failed active busy status message clears uncanceled =>
    obtain ⟨hone, hfold⟩ := foldl_cleared [] "queue_cleared_after_action_failure" s.pending
      (by simp) (by simp)
    rw [activeIds_busy busy, activeIds_idle rfl]
    simp only [OneGoal, underWay, List.foldl_cons, List.erase_cons_head]
    exact ⟨⟨le_rfl, hone⟩, hfold⟩
  | drained active busy success status message empty =>
    rw [activeIds_busy busy, activeIds_idle rfl]
    simp [OneGoal, underWay]
  | advanced active busy success status message next rest waiting =>
    rw [activeIds_busy busy, activeIds_busy rfl]
    simp [OneGoal, underWay]
  | clearedIdle reason idle => exact foldl_cleared _ reason _ (pending_apart hs) hlive
  | clearedActive reason active busy =>
    obtain ⟨hone, hfold⟩ := foldl_cleared [] reason s.pending (by simp) (by simp)
    rw [activeIds_busy busy, activeIds_idle rfl]
    simp only [List.cons_append, List.nil_append, OneGoal, underWay, List.foldl_cons,
      List.erase_cons_head]
    exact ⟨⟨le_rfl, le_rfl, hone⟩, hfold⟩

theorem oneGoal_run (hs : Serial s) (h : List Call) :
    OneGoal s.activeIds (emitted s h) ∧
      (emitted s h).foldl underWay s.activeIds = (run step s h).activeIds := by
  induction h generalizing s with
  | nil => exact ⟨s.activeIds_le_one, rfl⟩
  | cons call h ih =>
    obtain ⟨hone, hfold⟩ := oneGoal_step hs call
    obtain ⟨hrest, hlast⟩ := ih (serial_step hs call)
    rw [emitted_cons, oneGoal_append, List.foldl_append, hfold]
    exact ⟨⟨hone, hrest⟩, hlast⟩

theorem acceptedBy_eq {out : ActionScheduler × List SchedulerEvent}
    (hs : s.step (.enqueue command) = out) : s.acceptedBy (.enqueue command) =
      if out.1.acceptedCount = s.acceptedCount + 1 then [command] else [] := by
  rw [acceptedBy, accepts_eq hs]
  simp

theorem in_order_step (s : ActionScheduler) (call : Call) (hs : Serial s) :
    ordinary (dispatched (s.step call).2) ++ ordinary (s.step call).1.pending <+
      ordinary s.pending ++ ordinary (s.acceptedBy call) := by
  have ho := s.step_outcome call
  generalize hout : s.step call = out at ho
  cases ho with
  | refused | stale | full => exact List.sublist_append_left _ _
  | queued command named new ord active busy room =>
    rw [acceptedBy_eq hout, if_pos rfl]
    simp [ordinary, dispatched]
  | priorityStarted command named new priority idle =>
    simp [dispatched_append, dispatched, ordinary, priority]
  | preempted command named new priority active busy =>
    cases s.cancelRequested <;> simp [dispatched_append, dispatched, ordinary, priority]
  | started command named new ord idle =>
    rw [acceptedBy_eq hout, if_pos rfl, hs.busy idle]
    simp [ordinary, dispatched]
  | failed | clearedIdle | clearedActive => simp [dispatched, ordinary]
  | drained active busy success status message empty => simp [dispatched, ordinary, empty]
  | advanced active busy success status message next rest waiting =>
    rw [waiting]
    refine List.sublist_append_of_sublist_left ?_
    rw [ordinary, ordinary, ← List.filter_append]
    exact List.Sublist.refl _

theorem ordinary_collect (f : ActionScheduler → Call → List RobotCommand) (s : ActionScheduler)
    (h : List Call) :
    ordinary (collect step f s h) = collect step (fun s call ↦ ordinary (f s call)) s h := by
  induction h generalizing s with
  | nil => rfl
  | cons call h ih => rw [collect_cons, ordinary, List.filter_append, collect_cons, ← ih]; rfl

theorem dispatched_in_order (hs : Serial s) (hempty : s.pending = []) (h : List Call) :
    ordinary (dispatched (emitted s h)) ++ ordinary (run step s h).pending <+
      ordinary (collect step acceptedBy s h) := by
  have horder := in_order step (fun _ call hs ↦ serial_step hs call) (fun s ↦ ordinary s.pending)
    (fun s call ↦ ordinary (s.acceptedBy call)) _ in_order_step hs h
  rw [hempty] at horder
  rw [dispatched_emitted, ordinary_collect, ordinary_collect]
  exact horder

def Successor (s : ActionScheduler) (p : RobotCommand) (post : List Call) (q : RobotCommand) :
    Prop :=
  isPriority q = true ∧ (q = p ∨ ∃ mid rest, post = mid ++ .enqueue q :: rest ∧
    (run step s (.enqueue p :: mid)).accepts q = true)

theorem Successor.snoc {p q : RobotCommand} (hq : Successor s p post q) (call : Call) :
    Successor s p (post ++ [call]) q := by
  obtain ⟨hpriority, rfl | ⟨mid, rest, rfl, ha⟩⟩ := hq
  · exact ⟨hpriority, .inl rfl⟩
  · exact ⟨hpriority, .inr ⟨mid, rest ++ [call], by simp, ha⟩⟩

inductive Preempting (s : ActionScheduler) (p : RobotCommand) (post : List Call) :
    ActionScheduler → List SchedulerEvent → Prop
  | waiting (s' : ActionScheduler) (events : List SchedulerEvent) (active q : RobotCommand)
      (rest : List RobotCommand) (busy : s'.active = some active)
      (canceling : s'.cancelRequested = true)
      (next : s'.pending = q :: rest) (successor : Successor s p post q)
      (none : dispatched events = []) : Preempting s p post s' events
  | done (s' : ActionScheduler) (events : List SchedulerEvent) (q : RobotCommand)
      (rest : List RobotCommand) (successor : Successor s p post q)
      (first : dispatched events = q :: rest) : Preempting s p post s' events

theorem preempting_start (hc : s.accepts command = true) (hpriority : isPriority command = true) :
    Preempting s command [] (s.step (.enqueue command)).1 (s.step (.enqueue command)).2 := by
  have ho := s.step_outcome (.enqueue command)
  generalize hout : s.step (.enqueue command) = out at ho
  rw [accepts_eq hout] at hc
  cases ho with
  | refused | full => simp at hc
  | priorityStarted command named new priority idle =>
    exact .done _ _ command [] ⟨hpriority, .inl rfl⟩ (by simp [dispatched_append, dispatched])
  | preempted command named new priority active busy =>
    refine .waiting _ _ active command [] busy rfl rfl ⟨hpriority, .inl rfl⟩ ?_
    cases s.cancelRequested <;> simp [dispatched_append, dispatched]
  | started command named new ord idle | queued command named new ord =>
    cases hpriority.symm.trans ord

theorem preempting_step {p : RobotCommand} {s' : ActionScheduler} {events : List SchedulerEvent}
    (hp : Preempting s p post s' events) (hs' : s' = run step s (.enqueue p :: post))
    (hcall : ∀ reason, call ≠ .clearAll reason) :
    Preempting s p (post ++ [call]) (s'.step call).1 (events ++ (s'.step call).2) := by
  cases hp with
  | done q rest successor first =>
    refine .done _ _ q (rest ++ dispatched (s'.step call).2) (successor.snoc call) ?_
    rw [dispatched_append, first, List.cons_append]
  | waiting active q rest busy canceling next successor none =>
    have ho := s'.step_outcome call
    generalize hout : s'.step call = out at ho
    cases ho with
    | refused | full | stale =>
      refine .waiting _ _ active q rest busy canceling next (successor.snoc _) ?_
      simp [dispatched_append, none, dispatched]
    | queued command named new ord active' busy' room =>
      refine .waiting _ _ active q (rest ++ [command]) busy canceling ?_ (successor.snoc _) ?_
      · rw [next, List.cons_append]
      · rw [List.append_nil, none]
    | preempted command named new priority active' busy' =>
      have ha : s'.accepts command = true := by simp [accepts_eq hout]
      refine .waiting _ _ active command [] busy rfl rfl ?_ ?_
      · exact ⟨priority, .inr ⟨post, [], by simp, hs' ▸ ha⟩⟩
      · cases s'.cancelRequested <;> simp [dispatched_append, none, dispatched]
    | advanced active' busy' success status message next' rest' waiting =>
      obtain ⟨rfl, rfl⟩ := List.cons.inj (next.symm.trans waiting)
      exact .done _ _ q [] (successor.snoc _) (by simp [dispatched_append, none, dispatched])
    | priorityStarted command named new priority idle => cases busy.symm.trans idle
    | started command named new ord idle => cases busy.symm.trans idle
    | failed active busy status message clears uncanceled => cases canceling.symm.trans uncanceled
    | drained active busy success status message empty => cases next.symm.trans empty
    | clearedIdle reason | clearedActive reason => exact absurd rfl (hcall reason)

theorem emitted_snoc (s : ActionScheduler) (h : List Call) (call : Call) :
    emitted s (h ++ [call]) = emitted s h ++ ((run step s h).step call).2 :=
  collect_snoc step _ s h call

theorem preempting_run (hc : s.accepts command = true) (hpriority : isPriority command = true)
    (hclear : ∀ reason, Call.clearAll reason ∉ post) :
    Preempting s command post (run step s (.enqueue command :: post))
      (emitted s (.enqueue command :: post)) := by
  induction post using List.reverseRecOn with
  | nil => simpa [emitted] using preempting_start hc hpriority
  | append_singleton post call ih =>
    have hlater := ih fun reason hmem ↦ hclear reason (List.mem_append_left _ hmem)
    rw [← List.cons_append, run_snoc, emitted_snoc]
    exact preempting_step hlater rfl fun reason hcall ↦ hclear reason (by simp [hcall])

theorem next_dispatched (hc : s.accepts command = true) (hpriority : isPriority command = true)
    (hclear : ∀ reason, Call.clearAll reason ∉ post) {q : RobotCommand} {rest : List RobotCommand}
    (hq : dispatched (emitted s (.enqueue command :: post)) = q :: rest) :
    Successor s command post q := by
  have hp := preempting_run hc hpriority hclear
  generalize run step s (.enqueue command :: post) = s',
    emitted s (.enqueue command :: post) = events
    at hp hq
  cases hp with
  | waiting active q' rest' busy canceling next successor none => cases none.symm.trans hq
  | done q' rest' successor first =>
    obtain ⟨rfl, -⟩ := List.cons.inj (first.symm.trans hq)
    exact successor

def Accepts (s : ActionScheduler) (commandId : String) (call : Call) : Prop :=
  ∃ command, call = .enqueue command ∧ command.commandId = commandId ∧ s.accepts command = true

theorem pending_dropped (hs : Serial s) (hc : s.accepts command = true)
    (hpriority : isPriority command = true) {d : RobotCommand} (hd : d ∈ s.pending) :
    d.commandId ∉ (s.step (.enqueue command)).1.heldIds := by
  have hapart := pending_apart hs d hd
  have hid : d.commandId ∈ s.heldIds := List.mem_map_of_mem (List.mem_append_right _ hd)
  have ho := s.step_outcome (.enqueue command)
  generalize hout : s.step (.enqueue command) = out at ho
  rw [accepts_eq hout] at hc
  cases ho with
  | refused | full => simp at hc
  | started command named new ord | queued command named new ord => cases hpriority.symm.trans ord
  | priorityStarted command named new priority idle => simp [hs.busy idle] at hd
  | preempted command named new priority active busy =>
    have hne : d.commandId ≠ command.commandId := fun he ↦ new (he ▸ hid)
    rw [activeIds_busy busy, List.mem_singleton] at hapart
    simp [heldIds, held, busy, hapart, hne]

theorem dropped_not_dispatched (hs : Serial s) (hc : s.accepts command = true)
    (hpriority : isPriority command = true) {d : RobotCommand} (hd : d ∈ s.pending)
    (hq : Quiet (fun h' e ↦ Accepts (run step s h') d.commandId e) [.enqueue command] post)
    {e : RobotCommand} (he : e ∈ dispatched (emitted s (.enqueue command :: post))) :
    e.commandId ≠ d.commandId := by
  refine dispatched_ne ?_ he
  rintro mid rest rfl
  refine hq.of_append.run_induction
    (I := fun _ (s' : ActionScheduler) ↦ d.commandId ∉ s'.heldIds) ?_ ?_
  · exact pending_dropped hs hc hpriority hd
  · intro mid' call hcall hmid hheld
    obtain ⟨d', hd', hid⟩ := List.mem_map.mp hheld
    rcases held_step hd' with hd' | ⟨rfl, ha⟩
    · exact hmid (hid ▸ List.mem_map_of_mem hd')
    · exact hcall ⟨d', rfl, hid, ha⟩

/-- What serialisation and preemption promise of a run. -/
structure Serialised (s : ActionScheduler) (h : List Call) : Prop where
  busy : (run step s h).pending ≠ [] → (run step s h).active.isSome = true
  distinct : (run step s h).heldIds.Nodup
  bounded : (run step s h).pending.length ≤ s.maxPending
  priority : ∀ c ∈ (run step s h).pending, isPriority c = true →
    (run step s h).cancelRequested = true ∧
      ∃ rest, (run step s h).pending = c :: rest ∧ ∀ d ∈ rest, isPriority d = false
  one_goal : ∀ events, events <+: emitted s h → (events.foldl underWay []).length ≤ 1
  in_order : ordinary (dispatched (emitted s h)) <+ ordinary (collect step acceptedBy s h)
  dropped : ∀ pre p post, h = pre ++ .enqueue p :: post → (run step s pre).accepts p = true →
    isPriority p = true → ∀ d ∈ (run step s pre).pending,
      Quiet (fun h' e ↦ Accepts (run step s h') d.commandId e) (pre ++ [.enqueue p]) post →
        ∀ e ∈ dispatched (emitted (run step s pre) (.enqueue p :: post)),
          e.commandId ≠ d.commandId
  next : ∀ pre p post, h = pre ++ .enqueue p :: post → (run step s pre).accepts p = true →
    isPriority p = true → (∀ reason, Call.clearAll reason ∉ post) →
      ∀ q rest, dispatched (emitted (run step s pre) (.enqueue p :: post)) = q :: rest →
        Successor (run step s pre) p post q

/-- One goal at a time, in the order of acceptance, unless a priority command takes over. -/
theorem serialised (maxPending : ℕ) (clearQueueOnFailure : Bool) (h : List Call) :
    (create maxPending clearQueueOnFailure).maxPending = max 1 maxPending ∧
      Serialised (create maxPending clearQueueOnFailure) h := by
  have hcreate := serial_create maxPending clearQueueOnFailure
  have hrun := serial_run hcreate h
  refine ⟨rfl, ?_, hrun.distinct, ?_, ?_, ?_, ?_, ?_, ?_⟩
  · intro hpending
    cases hactive : (run step (create maxPending clearQueueOnFailure) h).active with
    | none => exact absurd (hrun.busy hactive) hpending
    | some active => rfl
  · exact run_maxPending _ h ▸ hrun.bounded
  · intro c hc hpriority
    refine ⟨hrun.requested c hc hpriority, ?_⟩
    have hbehind := hrun.behind
    cases hpending : (run step (create maxPending clearQueueOnFailure) h).pending with
    | nil => simp [hpending] at hc
    | cons first rest =>
      rw [hpending, List.tail_cons] at hbehind
      rw [hpending] at hc
      rcases List.mem_cons.mp hc with rfl | hc
      · exact ⟨rest, rfl, hbehind⟩
      · exact absurd hpriority (by simp [hbehind c hc])
  · intro events hevents
    exact oneGoal_prefix (oneGoal_run hcreate h).1 hevents
  · exact (List.sublist_append_left _ _).trans (dispatched_in_order hcreate rfl h)
  · intro pre p post _ hc hpriority d hd hq e he
    exact dropped_not_dispatched (serial_run hcreate pre) hc hpriority hd
      (hq.later (Q := fun s' call ↦ Accepts s' d.commandId call)) he
  · intro pre p post _ hc hpriority hclear q rest hq
    exact next_dispatched hc hpriority hclear hq

end EmbodiedAgent.ActionScheduler
