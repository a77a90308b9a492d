import EmbodiedAgent.Simulation.SimulationControlNode

namespace EmbodiedAgent.Simulation

open Library Library.History

namespace SimulationControlNode

variable {sequence : ReactiveSequence} {n n' n'' : SimulationControlNode} {goal : GoalHandle}
  {nowS timeoutS : Double} {reading : ExecutorReading} {l l' : List ℕ} {g : ℕ}

/-- The goals for which terminal calls have been made. -/
def terminals (n : SimulationControlNode) : List ℕ := n.log.filterMap NodeOutput.terminal

def Timed (n : SimulationControlNode) : Prop :=
  ∃ durationS startedAtS,
    n.actionRuntime.execution = some (.create durationS n.actionTimeoutS startedAtS)

/-- All accepted goals but the active one have had their terminal call, and no other has. -/
structure Accounted (timeoutS : Double) (n : SimulationControlNode) : Prop where
  timeout : n.actionTimeoutS = timeoutS
  enabled : n.activeGoal.isSome → n.isActive
  active : ∀ goal, n.activeGoal = some goal → goal.id < n.accepted ∧ Timed n
  once : ∀ g, n.terminals.count g =
    if g < n.accepted ∧ n.activeGoal.map GoalHandle.id ≠ some g then 1 else 0
  canceled : ∀ g result, .canceled g result ∈ n.log → g ∈ n.canceling

/-- From `n` to `n'`, terminal calls are made for the goals `l`. -/
structure Settles (n n' : SimulationControlNode) (l : List ℕ) : Prop where
  isActive : n'.isActive = n.isActive
  accepted : n'.accepted = n.accepted
  canceling : n'.canceling = n.canceling
  timeout : n'.actionTimeoutS = n.actionTimeoutS
  log : ∃ outputs, n'.log = n.log ++ outputs ∧ outputs.filterMap NodeOutput.terminal = l ∧
    ∀ g result, .canceled g result ∈ outputs → g ∈ n.canceling

theorem settles_same (hactive : n'.isActive = n.isActive) (haccepted : n'.accepted = n.accepted)
    (hcanceling : n'.canceling = n.canceling) (htimeout : n'.actionTimeoutS = n.actionTimeoutS)
    (hlog : n'.log = n.log) : Settles n n' [] :=
  ⟨hactive, haccepted, hcanceling, htimeout, [], hlog.trans (List.append_nil _).symm, rfl,
    fun _ _ h ↦ absurd h List.not_mem_nil⟩

theorem Settles.refl (n : SimulationControlNode) : Settles n n [] :=
  settles_same rfl rfl rfl rfl rfl

theorem Settles.trans (h : Settles n n' l) (h' : Settles n' n'' l') : Settles n n'' (l ++ l') := by
  obtain ⟨outputs, hlog, hterminals, hcanceled⟩ := h.log
  obtain ⟨outputs', hlog', hterminals', hcanceled'⟩ := h'.log
  refine ⟨h'.isActive.trans h.isActive, h'.accepted.trans h.accepted,
    h'.canceling.trans h.canceling, h'.timeout.trans h.timeout, outputs ++ outputs', ?_, ?_,
      fun g result hmem ↦ ?_⟩
  · rw [hlog', hlog, List.append_assoc]
  · rw [List.filterMap_append, hterminals, hterminals']
  · rcases List.mem_append.mp hmem with hfirst | hsecond
    · exact hcanceled g result hfirst
    · exact h.canceling ▸ hcanceled' g result hsecond

theorem settles_emit {outputs : List NodeOutput} (h : ∀ o ∈ outputs, o.terminal = none) :
    Settles n (n.emit outputs) [] := by
  refine ⟨rfl, rfl, rfl, rfl, outputs, rfl, List.filterMap_eq_nil_iff.mpr h, fun g result hmem ↦ ?_⟩
  cases h _ hmem

theorem settles_publishBtStatus (result : CommandTreeResult) :
    Settles n (n.publishBtStatus result) [] :=
  settles_emit fun o ho ↦ by
    rw [List.mem_singleton.mp ho]
    rfl

theorem settles_finishImmediateAction (goal : GoalHandle) (success : Bool) (message : String) :
    Settles n (n.finishImmediateAction goal success message) [goal.id] := by
  cases success with
  | true => exact ⟨rfl, rfl, rfl, rfl, _, rfl, rfl, fun g result hmem ↦ by simp at hmem⟩
  | false => exact ⟨rfl, rfl, rfl, rfl, _, rfl, rfl, fun g result hmem ↦ by simp at hmem⟩

theorem activeGoal_finishImmediateAction (success : Bool) (message : String) :
    (n.finishImmediateAction goal success message).activeGoal = n.activeGoal := by
  cases success <;> rfl

theorem terminal_terminalCall (state : ActionExecutionState) (message : String) :
    (n.terminalCall goal state message).terminal = some goal.id := by
  unfold terminalCall
  cases state with
  | canceled => split_ifs <;> rfl
  | _ => rfl

theorem canceled_terminalCall {state : ActionExecutionState} {message : String}
    {result : ExecuteRobotCommandResult}
    (h : n.terminalCall goal state message = .canceled g result) : g ∈ n.canceling := by
  unfold terminalCall at h
  cases state with
  | canceled =>
    dsimp only at h
    by_cases hcanceling : goal.id ∈ n.canceling
    · rw [if_pos hcanceling] at h
      cases h
      exact hcanceling
    · rw [if_neg hcanceling] at h
      cases h
  | _ => cases h

theorem settles_finishActiveAction (hactive : n.activeGoal = some goal)
    (state : ActionExecutionState) (message : String) :
    Settles n (n.finishActiveAction state message) [goal.id] ∧
      (n.finishActiveAction state message).activeGoal = none := by
  rw [finishActiveAction, hactive]
  refine ⟨⟨rfl, rfl, rfl, rfl, _, rfl, ?_, fun g result hmem ↦ ?_⟩, rfl⟩
  · rw [List.filterMap_cons_none rfl,
      List.filterMap_cons_some (terminal_terminalCall state message),
      List.filterMap_cons_none rfl, List.filterMap_nil]
  · have hcall : n.terminalCall goal state message = .canceled g result := by
      simpa [eq_comm] using hmem
    exact canceled_terminalCall hcall

theorem settles_cancelTree (reason : String) :
    Settles n (n.cancelTree reason) [] ∧ (n.cancelTree reason).activeGoal = n.activeGoal := by
  rw [cancelTree]
  cases htree : n.behaviorTree with
  | none => exact ⟨.refl n, rfl⟩
  | some tree =>
    dsimp only
    split_ifs with hactive
    · have hcanceled : Settles n { n with behaviorTree := some (tree.cancel reason).1 } [] :=
        settles_same rfl rfl rfl rfl rfl
      exact ⟨hcanceled.trans (settles_publishBtStatus _), rfl⟩
    · exact ⟨.refl n, rfl⟩

theorem settles_preempt (reason : String) :
    Settles n (n.preempt reason) (n.activeGoal.map GoalHandle.id).toList ∧
      (n.preempt reason).activeGoal = none := by
  rw [preempt]
  cases hactive : n.activeGoal with
  | none => exact ⟨.refl n, hactive⟩
  | some goal =>
    obtain ⟨htree, hsame⟩ := @settles_cancelTree n reason
    obtain ⟨hfinish, hnone⟩ :=
      settles_finishActiveAction (hsame.trans hactive) .canceled reason
    exact ⟨htree.trans hfinish, hnone⟩

def Takes (n n' : SimulationControlNode) (goal : GoalHandle) : Prop :=
  (Settles n n' [goal.id] ∧ n'.activeGoal = none) ∨
    (Settles n n' [] ∧ n'.activeGoal = some goal ∧ Timed n')

theorem takes_ended (h : Settles n n' [goal.id]) (hnone : n'.activeGoal = none)
    {outputs : List NodeOutput} (houtputs : ∀ o ∈ outputs, o.terminal = none) :
    Takes n (n'.emit outputs) goal :=
  Or.inl ⟨h.trans (settles_emit houtputs), hnone⟩

theorem settles_publishActionFeedback (phase : UInt8) (progress : Double) (detail : String) :
    Settles n (n.publishActionFeedback phase progress detail) [] ∧
      (n.publishActionFeedback phase progress detail).activeGoal = n.activeGoal ∧
      (n.publishActionFeedback phase progress detail).actionRuntime = n.actionRuntime := by
  rw [publishActionFeedback]
  cases hactive : n.activeGoal with
  | none => exact ⟨.refl n, hactive, rfl⟩
  | some goal =>
    refine ⟨settles_emit fun o ho ↦ ?_, hactive, rfl⟩
    rw [List.mem_singleton.mp ho]
    rfl

theorem settles_startTree (detail : String) :
    Settles n (n.startTree sequence goal detail).1 [] ∧
      (n.startTree sequence goal detail).1.activeGoal = n.activeGoal := by
  rw [startTree]
  cases n.behaviorTree with
  | none => exact ⟨.refl n, rfl⟩
  | some _ =>
    have hstarted : ∀ tree, Settles n { n with behaviorTree := some tree } [] :=
      fun tree ↦ settles_same rfl rfl rfl rfl rfl
    exact ⟨(hstarted _).trans (settles_publishBtStatus _), rfl⟩

theorem settles_setActive : Settles n (n.setActive goal) [] := settles_same rfl rfl rfl rfl rfl

theorem takes_started (hquiet : Settles n n' []) (hactive : n'.activeGoal = some goal)
    {phase : UInt8} {detail action : String} {durationS : Double} {external : Bool}
    {outputs : List NodeOutput} (houtputs : ∀ o ∈ outputs, o.terminal = none) :
    Takes n (((n'.startRuntime action durationS nowS external).publishActionFeedback phase 0
      detail).emit outputs) goal := by
  have hstarted : Settles n' (n'.startRuntime action durationS nowS external) [] :=
    settles_same rfl rfl rfl rfl rfl
  obtain ⟨hfeedback, hgoal, hruntime⟩ := @settles_publishActionFeedback
    (n'.startRuntime action durationS nowS external) phase 0 detail
  have hpublished := hstarted.trans hfeedback
  refine .inr ⟨(hquiet.trans hpublished).trans (settles_emit houtputs), hgoal.trans hactive, ?_⟩
  refine ⟨durationS, nowS, ?_⟩
  have hexecution := congrArg ActiveActionRuntime.execution hruntime
  exact hexecution.trans
    (congrArg (fun timeoutS ↦ some (ActionExecution.create durationS timeoutS nowS))
      hpublished.timeout.symm)

theorem takes_startStopAction (hnone : n.activeGoal = none) (actionName : String) :
    Takes n (n.startStopAction sequence goal actionName nowS reading) goal := by
  have hack : ∀ status detail, ∀ o ∈ [NodeOutput.actionAck actionName status detail],
      o.terminal = none := fun status detail o ho ↦ by
    rw [List.mem_singleton.mp ho]
    rfl
  have hstopping : Settles n (n.emit (.requestStop ::
      if reading.publishesCmdVel then [.velocity {}] else [])) [] := by
    refine settles_emit fun o ho ↦ ?_
    rcases List.mem_cons.mp ho with rfl | hrest
    · rfl
    · split_ifs at hrest
      · rw [List.mem_singleton.mp hrest]
        rfl
      · exact absurd hrest List.not_mem_nil
  have hstill : (n.emit (.requestStop ::
      if reading.publishesCmdVel then [.velocity {}] else [])).activeGoal = none := hnone
  unfold startStopAction
  generalize n.emit (.requestStop :: if reading.publishesCmdVel then [.velocity {}] else []) = n'
    at hstopping hstill
  dsimp only
  split_ifs with hsucceeded hterminal
  · exact takes_ended (hstopping.trans (settles_finishImmediateAction goal true _)) hstill
      (hack _ _)
  · exact takes_ended (hstopping.trans (settles_finishImmediateAction goal false _)) hstill
      (hack _ _)
  · obtain ⟨htree, hactive⟩ := @settles_startTree sequence (n'.setActive goal) goal
      reading.stop.detail
    exact takes_started ((hstopping.trans settles_setActive).trans htree) hactive (hack _ _)

theorem takes_refused (hquiet : Settles n n' []) {message : String} {outputs : List NodeOutput}
    (houtputs : ∀ o ∈ outputs, o.terminal = none) :
    Takes n ((n'.finishImmediateAction goal false message).emit outputs).clearPendingLongAction
      goal := by
  have hended := (hquiet.trans (settles_finishImmediateAction goal false message)).trans
    (settles_emit houtputs)
  exact .inl ⟨hended.trans (settles_same rfl rfl rfl rfl rfl), rfl⟩

theorem takes_startLongAction (hquiet : Settles n n' []) :
    Takes n (n'.startLongAction goal nowS reading) goal := by
  have hrefused : ∀ message, Takes n
      (n'.finishImmediateAction goal false message).clearPendingLongAction goal := fun message ↦
    Or.inl ⟨(hquiet.trans (settles_finishImmediateAction goal false message)).trans
      (settles_same rfl rfl rfl rfl rfl), rfl⟩
  rw [startLongAction]
  cases longAction goal.command reading with
  | none => exact hrefused _
  | some action =>
    obtain ⟨actionName, refusal⟩ := action
    dsimp only
    by_cases hexecutes : (!reading.executes) = true
    · rw [if_pos hexecutes]
      exact hrefused _
    · rw [if_neg hexecutes]
      refine takes_started (hquiet.trans settles_setActive) rfl fun o ho ↦ ?_
      rw [List.mem_singleton.mp ho]
      rfl

theorem takes_startChecked (hquiet : Settles n n' []) :
    Takes n (n'.startChecked sequence goal nowS reading) goal := by
  have hstarted := (@settles_startTree sequence (n'.setActive goal) goal "accepted").1
  have htaken := (hquiet.trans settles_setActive).trans hstarted
  rw [startChecked]
  generalize (n'.setActive goal).startTree sequence goal "accepted" = started at htaken
  obtain ⟨started, initial⟩ := started
  split_ifs with htree
  · cases initial with
    | none => exact takes_startLongAction htaken
    | some initial =>
      dsimp only
      split_ifs with hrejected
      · refine takes_refused htaken fun o ho ↦ ?_
        rw [List.mem_singleton.mp ho]
        rfl
      · exact takes_startLongAction htaken
  · exact takes_startLongAction hquiet

theorem takes_startImmediate (hnone : n.activeGoal = none) (action done : String) :
    Takes n (n.startImmediate goal reading action done) goal :=
  takes_ended (settles_finishImmediateAction goal _ _)
    ((activeGoal_finishImmediateAction _ _).trans hnone) fun o ho ↦ by
      rw [List.mem_singleton.mp ho]
      rfl

theorem takes_handleAccepted : Takes (n.preempt "preempted_by_new_goal")
    (n.handleAccepted sequence goal nowS reading) goal := by
  have hnone := (@settles_preempt n "preempted_by_new_goal").2
  rw [handleAccepted]
  generalize n.preempt "preempted_by_new_goal" = n' at hnone
  split_ifs
  · exact takes_startStopAction hnone _
  · exact takes_startStopAction hnone _
  · have hmode : Settles n' (n'.setMode reading).1 [] ∧
        (n'.setMode reading).1.activeGoal = none := by
      rw [setMode]
      split_ifs
      · exact ⟨.refl n', hnone⟩
      · refine ⟨settles_emit fun o ho ↦ ?_, hnone⟩
        rw [List.mem_singleton.mp ho]
        rfl
    generalize n'.setMode reading = moded at hmode
    obtain ⟨moded, accepted⟩ := moded
    refine takes_ended (hmode.1.trans (settles_finishImmediateAction goal _ _))
      ((activeGoal_finishImmediateAction _ _).trans hmode.2) fun o ho ↦ ?_
    rw [List.mem_singleton.mp ho]
    rfl
  · exact takes_startImmediate hnone _ _
  · exact takes_startImmediate hnone _ _
  · exact takes_startChecked (.refl n')

def Keeps (n n' : SimulationControlNode) : Prop :=
  (Settles n n' [] ∧ n'.activeGoal = n.activeGoal ∧ n'.actionRuntime = n.actionRuntime) ∨
    ∃ goal, n.activeGoal = some goal ∧ Settles n n' [goal.id] ∧ n'.activeGoal = none

theorem Keeps.emit (h : Keeps n n') {outputs : List NodeOutput}
    (houtputs : ∀ o ∈ outputs, o.terminal = none) : Keeps n (n'.emit outputs) := by
  rcases h with ⟨hquiet, hsame⟩ | ⟨goal, hactive, hended, hnone⟩
  · exact .inl ⟨hquiet.trans (settles_emit houtputs), hsame⟩
  · exact .inr ⟨goal, hactive, hended.trans (settles_emit houtputs), hnone⟩

theorem keeps_refl (n : SimulationControlNode) : Keeps n n := .inl ⟨.refl n, rfl, rfl⟩

theorem keeps_preempt (reason : String) : Keeps n (n.preempt reason) := by
  obtain ⟨hended, hnone⟩ := @settles_preempt n reason
  cases hactive : n.activeGoal with
  | none =>
    rw [preempt, hactive]
    exact keeps_refl n
  | some goal =>
    rw [hactive] at hended
    exact .inr ⟨goal, hactive, hended, hnone⟩

theorem publishDecision_cases (hactive : n.activeGoal = some goal)
    (decision : ActiveActionDecision) :
    (decision.terminal = false ∧ Settles n (n.publishDecision decision).1 [] ∧
      (n.publishDecision decision).1.activeGoal = n.activeGoal ∧
      (n.publishDecision decision).1.actionRuntime = n.actionRuntime) ∨
    (decision.terminal = true ∧ Settles n (n.publishDecision decision).1 [goal.id] ∧
      (n.publishDecision decision).1.activeGoal = none) := by
  have hpublished : Settles n ((decision.treeResult.map n.publishBtStatus).getD n) [] ∧
      ((decision.treeResult.map n.publishBtStatus).getD n).activeGoal = n.activeGoal ∧
      ((decision.treeResult.map n.publishBtStatus).getD n).actionRuntime = n.actionRuntime := by
    cases decision.treeResult with
    | none => exact ⟨.refl n, rfl, rfl⟩
    | some result => exact ⟨settles_publishBtStatus result, rfl, rfl⟩
  obtain ⟨hquiet, hgoal, hsame⟩ := hpublished
  rw [publishDecision]
  generalize (decision.treeResult.map n.publishBtStatus).getD n = n' at hquiet hgoal hsame
  cases hterminal : decision.terminal with
  | false =>
    obtain ⟨hfeedback, hgoal', hsame'⟩ := @settles_publishActionFeedback n'
      (if n'.stopping then phaseStopping else phaseExecuting) decision.progress decision.detail
    exact .inl ⟨rfl, hquiet.trans hfeedback, hgoal'.trans hgoal, hsame'.trans hsame⟩
  | true =>
    obtain ⟨hfinish, hnone⟩ := settles_finishActiveAction (hgoal.trans hactive) decision.state
      decision.detail
    exact .inr ⟨rfl, hquiet.trans hfinish, hnone⟩

theorem updateActiveAction_eq (hactive : n.activeGoal = some goal)
    (hruntime : n.actionRuntime.active = true) :
    n.updateActiveAction sequence nowS reading =
      { n with behaviorTree := (n.actionRuntime.update sequence n.behaviorTree
          (n.activeActionInput goal nowS reading)).1 }.publishDecision
        (n.actionRuntime.update sequence n.behaviorTree
          (n.activeActionInput goal nowS reading)).2 := by
  rw [updateActiveAction, hactive]
  dsimp only
  rw [hruntime]
  rfl

theorem keeps_updateActiveAction : Keeps n (n.updateActiveAction sequence nowS reading).1 := by
  cases hactive : n.activeGoal with
  | none =>
    rw [updateActiveAction, hactive]
    exact keeps_refl n
  | some goal =>
    cases hruntime : n.actionRuntime.active with
    | false =>
      rw [updateActiveAction, hactive]
      dsimp only
      rw [hruntime]
      exact keeps_refl n
    | true =>
      rw [updateActiveAction_eq hactive hruntime]
      generalize n.actionRuntime.update sequence n.behaviorTree
        (n.activeActionInput goal nowS reading) = updated
      have htree : Settles n { n with behaviorTree := updated.1 } [] :=
        settles_same rfl rfl rfl rfl rfl
      rcases @publishDecision_cases { n with behaviorTree := updated.1 } goal hactive updated.2
        with ⟨-, hquiet, hgoal, hsame⟩ | ⟨-, hended, hnone⟩
      · exact .inl ⟨htree.trans hquiet, hgoal, hsame⟩
      · exact .inr ⟨goal, hactive, htree.trans hended, hnone⟩

theorem keeps_controlTick : Keeps n (n.controlTick sequence nowS reading) := by
  have hupdated := @keeps_updateActiveAction sequence n nowS reading
  rw [controlTick]
  generalize n.updateActiveAction sequence nowS reading = updated at hupdated
  obtain ⟨updated, stopped⟩ := updated
  dsimp only
  by_cases hpublish : shouldPublishExecutorCmdVel reading.publishesCmdVel n.activeGoal.isSome
      stopped reading.modeName = true
  · rw [if_pos hpublish]
    refine hupdated.emit fun o ho ↦ ?_
    rw [List.mem_singleton.mp ho]
    rfl
  · rw [if_neg hpublish]
    exact hupdated

theorem keeps_onModeRequest : Keeps n (n.onModeRequest reading) := by
  rw [onModeRequest, setMode]
  split_ifs
  · exact keeps_refl n
  · exact keeps_refl n
  · refine (keeps_refl n).emit fun o ho ↦ ?_
    rw [List.mem_singleton.mp ho]
    rfl

theorem keeps_onEmergencyStop : Keeps n (n.onEmergencyStop reading) := by
  rw [onEmergencyStop]
  by_cases hactive : (!n.isActive) = true
  · rw [if_pos hactive]
    exact keeps_refl n
  · rw [if_neg hactive]
    refine (keeps_refl n).emit fun o ho ↦ ?_
    cases hpublishes : reading.publishesCmdVel <;> rw [hpublishes] at ho <;> simp at ho
    · rcases ho with rfl | rfl | rfl <;> rfl
    · rcases ho with rfl | rfl | rfl | rfl <;> rfl

theorem Settles.terminals (h : Settles n n' l) : n'.terminals = n.terminals ++ l := by
  obtain ⟨outputs, hlog, hterminals, -⟩ := h.log
  rw [SimulationControlNode.terminals, hlog, List.filterMap_append, hterminals,
    SimulationControlNode.terminals]

theorem Settles.canceled (h : Settles n n' l)
    (hcanceled : ∀ g result, .canceled g result ∈ n.log → g ∈ n.canceling) :
    ∀ g result, .canceled g result ∈ n'.log → g ∈ n'.canceling := by
  obtain ⟨outputs, hlog, -, hnew⟩ := h.log
  intro g result hmem
  rw [h.canceling]
  rw [hlog] at hmem
  rcases List.mem_append.mp hmem with hold | hnow
  · exact hcanceled g result hold
  · exact hnew g result hnow

theorem Accounted.of_keeps (h : Accounted timeoutS n) (hkeeps : Keeps n n') :
    Accounted timeoutS n' := by
  rcases hkeeps with ⟨hquiet, hsame, hruntime⟩ | ⟨goal, hactive, hended, hnone⟩
  · refine ⟨hquiet.timeout.trans h.timeout, fun hgoal ↦ ?_, fun goal hgoal ↦ ?_, fun g ↦ ?_,
      hquiet.canceled h.canceled⟩
    · rw [hquiet.isActive]
      exact h.enabled (hsame ▸ hgoal)
    · obtain ⟨hlt, durationS, startedAtS, hexecution⟩ := h.active goal (hsame.symm.trans hgoal)
      refine ⟨hquiet.accepted.symm ▸ hlt, durationS, startedAtS, ?_⟩
      rw [hruntime, hexecution, hquiet.timeout]
    · rw [hquiet.terminals, List.append_nil, h.once g, hquiet.accepted, hsame]
  · refine ⟨hended.timeout.trans h.timeout, fun hgoal ↦ ?_, fun goal hgoal ↦ ?_, fun g ↦ ?_,
      hended.canceled h.canceled⟩
    · rw [hnone] at hgoal
      cases hgoal
    · rw [hnone] at hgoal
      cases hgoal
    · have hlt := (h.active goal hactive).1
      have honce := h.once g
      rw [hactive] at honce
      rw [hended.terminals, List.count_append, honce, hended.accepted, hnone]
      by_cases hg : g = goal.id
      · subst hg
        simp [hlt]
      · have hother : goal.id ≠ g := fun heq ↦ hg heq.symm
        simp [hother]

theorem Accounted.cleared (h : Accounted timeoutS n) (g : ℕ) :
    (n.terminals ++ (n.activeGoal.map GoalHandle.id).toList).count g =
      if g < n.accepted then 1 else 0 := by
  rw [List.count_append, h.once g]
  cases hactive : n.activeGoal with
  | none => simp
  | some goal =>
    have hlt := (h.active goal hactive).1
    by_cases hg : g = goal.id
    · subst hg
      simp [hlt]
    · have hother : goal.id ≠ g := fun heq ↦ hg heq.symm
      simp [hother]

theorem Accounted.goalStep (h : Accounted timeoutS n) (hisActive : n.isActive = true)
    (command : RobotCommand) :
    Accounted timeoutS ({ n with accepted := n.accepted + 1 }.handleAccepted sequence
      ⟨n.accepted, command⟩ nowS reading) := by
  have hpreempted := (@settles_preempt { n with accepted := n.accepted + 1 }
    "preempted_by_new_goal").1
  have htakes := @takes_handleAccepted sequence { n with accepted := n.accepted + 1 }
    ⟨n.accepted, command⟩ nowS reading
  generalize { n with accepted := n.accepted + 1 }.handleAccepted sequence ⟨n.accepted, command⟩
    nowS reading = n' at htakes
  rcases htakes with ⟨hended, hnone⟩ | ⟨hquiet, hactive, htimed⟩
  · have hall := hpreempted.trans hended
    have haccepted : n'.accepted = n.accepted + 1 := hall.accepted
    refine ⟨hall.timeout.trans h.timeout, fun _ ↦ hall.isActive.trans hisActive,
      fun goal hgoal ↦ ?_, fun g ↦ ?_, hall.canceled h.canceled⟩
    · rw [hnone] at hgoal
      cases hgoal
    · have hcount : n'.terminals.count g =
          (if g < n.accepted then 1 else 0) + [n.accepted].count g := by
        rw [hall.terminals, ← List.append_assoc, List.count_append]
        exact congrArg (· + _) (h.cleared g)
      rw [hcount, haccepted, hnone, List.count_singleton]
      rcases Nat.lt_trichotomy g n.accepted with hlt | heq | hgt
      · simp [hlt, Nat.lt_succ_of_lt hlt, hlt.ne']
      · simp [heq]
      · simp [Nat.not_lt.mpr hgt.le, hgt.ne, Nat.not_lt.mpr (Nat.succ_le_of_lt hgt)]
  · have hall := hpreempted.trans hquiet
    have haccepted : n'.accepted = n.accepted + 1 := hall.accepted
    refine ⟨hall.timeout.trans h.timeout, fun _ ↦ hall.isActive.trans hisActive,
      fun goal hgoal ↦ ?_, fun g ↦ ?_, hall.canceled h.canceled⟩
    · rw [hactive] at hgoal
      cases hgoal
      exact ⟨haccepted ▸ Nat.lt_succ_self _, htimed⟩
    · have hcount : n'.terminals.count g = if g < n.accepted then 1 else 0 := by
        rw [hall.terminals, List.append_nil]
        exact h.cleared g
      rw [hcount, haccepted, hactive]
      rcases Nat.lt_trichotomy g n.accepted with hlt | heq | hgt
      · simp [hlt, Nat.lt_succ_of_lt hlt, hlt.ne']
      · simp [heq]
      · simp [Nat.not_lt.mpr hgt.le, Nat.not_lt.mpr (Nat.succ_le_of_lt hgt)]

theorem Accounted.cancelStep (h : Accounted timeoutS n) (g : ℕ) :
    Accounted timeoutS (n.handleCancel g) := by
  rw [handleCancel]
  split_ifs
  · exact ⟨h.timeout, h.enabled, h.active, h.once, fun g' result hmem ↦
      List.mem_cons_of_mem g (h.canceled g' result hmem)⟩
  · exact h

theorem Accounted.deactivateStep (h : Accounted timeoutS n) : 
    Accounted timeoutS n.onDeactivate := by
  have hstopped : ∀ o ∈ [NodeOutput.requestStop, .velocity {}], o.terminal = none :=
    fun o ho ↦ by
      simp only [List.mem_cons, List.not_mem_nil, or_false] at ho
      rcases ho with rfl | rfl <;> rfl
  have hpreempted := h.of_keeps ((keeps_preempt "deactivated").emit hstopped)
  refine ⟨hpreempted.timeout, fun hgoal ↦ ?_, hpreempted.active, hpreempted.once,
    hpreempted.canceled⟩
  have hnone : n.onDeactivate.activeGoal = none := (settles_preempt "deactivated").2
  rw [hnone] at hgoal
  cases hgoal

theorem isActive_of_handleGoal {command : RobotCommand} (h : n.handleGoal command reading = true) :
    n.isActive = true := by
  rw [handleGoal] at h
  by_contra hinactive
  rw [Bool.not_eq_true] at hinactive
  simp [hinactive] at h

theorem accounted_step (sequence : ReactiveSequence) (n : SimulationControlNode) (event : Event)
    (h : Accounted timeoutS n) : Accounted timeoutS (step sequence n event).1 := by
  cases event with
  | goal command nowS reading =>
    dsimp only [step]
    by_cases haccepted : n.handleGoal command reading = true
    · rw [if_pos haccepted]
      exact h.goalStep (isActive_of_handleGoal haccepted) command
    · rw [if_neg haccepted]
      exact h
  | cancel g => exact h.cancelStep g
  | tick nowS reading =>
    dsimp only [step]
    split_ifs
    · exact h.of_keeps keeps_controlTick
    · exact h
  | emergencyStop reading => exact h.of_keeps keeps_onEmergencyStop
  | modeRequest reading => exact h.of_keeps keeps_onModeRequest
  | activate => exact ⟨h.timeout, fun _ ↦ rfl, h.active, h.once, h.canceled⟩
  | deactivate => exact h.deactivateStep

theorem accounted_after (sequence : ReactiveSequence) (actionTimeoutS : Double)
    (useBehaviorTree : Bool) (h : List Event) :
    Accounted actionTimeoutS (after sequence actionTimeoutS useBehaviorTree h) := by
  refine run_preserves (step sequence) (accounted_step sequence) ?_ _
  refine ⟨rfl, fun hgoal ↦ ?_, fun goal hgoal ↦ ?_, fun g ↦ ?_, fun g result hmem ↦ ?_⟩
  · cases hgoal
  · cases hgoal
  · simp [configured, terminals]
  · simp [configured] at hmem

end SimulationControlNode

theorem max_zero_ne_nan (d : Double) : Double.max 0 d ≠ .nan := by
  rw [Double.max]
  split_ifs with h
  · exact Double.ne_nan_of_lt h
  · exact fun hnan ↦ by cases hnan

theorem ActionExecution.update_overdue {e : ActionExecution} {nowS : Double}
    (hduration : e.durationS ≠ .nan) (htimeout : e.timeoutS ≠ .nan)
    (h : e.timeoutS ≤ e.elapsed nowS) (cancelRequested blocked : Bool) :
    (e.update nowS cancelRequested blocked).state ≠ .running := by
  have hdone : ¬ e.timeoutS < e.durationS → e.durationS ≤ e.elapsed nowS := by
    intro hlate
    by_contra hshort
    exact hshort (Double.le_trans ((Double.le_iff_not_lt hduration htimeout).mpr hlate) h)
  rw [ActionExecution.update]
  split_ifs with hcancel hblocked htimed hsucceeded
  · exact fun hrunning ↦ by cases hrunning
  · exact fun hrunning ↦ by cases hrunning
  · exact fun hrunning ↦ by cases hrunning
  · exact fun hrunning ↦ by cases hrunning
  · exact absurd (hdone fun hlt ↦ htimed ⟨h, hlt⟩) hsucceeded

theorem CommandBehaviorTree.tick_over (sequence : ReactiveSequence) (tree : CommandBehaviorTree)
    (safetyBlocked : Bool) {executionState : ActionExecutionState} (detail : String)
    (h : executionState ≠ .running) :
    (tree.tick sequence safetyBlocked executionState detail).2.outcome ≠ .running := by
  rw [CommandBehaviorTree.tick]
  cases tree.blackboard with
  | none => exact fun hrunning ↦ by cases hrunning
  | some b =>
    simp only [sequence.tick_cons, sequence.tick_nil, validateCommand, checkSafety, executeCommand,
      confirmResult]
    cases isExecutableRobotCommand b.command with
    | false => simp
    | true =>
      cases safetyBlocked with
      | true => simp
      | false =>
        cases executionState with
        | running => exact absurd rfl h
        | _ => simp

theorem ActiveActionRuntime.update_terminal (sequence : ReactiveSequence)
    {runtime : ActiveActionRuntime} {e : ActionExecution} (tree : Option CommandBehaviorTree)
    {input : ActiveActionInput} (hexecution : runtime.execution = some e)
    (h : (e.update input.nowS input.cancelRequested input.safetyStopped).state ≠ .running) :
    (runtime.update sequence tree input).2.terminal = true := by
  have heffective : runtime.effective
      (e.update input.nowS input.cancelRequested input.safetyStopped) input =
      e.update input.nowS input.cancelRequested input.safetyStopped := by
    rw [ActiveActionRuntime.effective]
    cases input.externalUpdate with
    | none => rfl
    | some update => exact if_neg fun hrunning ↦ h hrunning.2
  rw [ActiveActionRuntime.update, hexecution]
  dsimp only
  rw [heffective]
  generalize e.update input.nowS input.cancelRequested input.safetyStopped = timed at h
  cases tree with
  | none => exact decide_eq_true h
  | some tree =>
    have hover := tree.tick_over sequence input.safetyStopped
      (ActiveActionRuntime.decisionDetail timed timed input) h
    dsimp only
    rw [if_neg hover, ActiveActionDecision.terminal]
    generalize (tree.tick sequence input.safetyStopped timed.state
      (ActiveActionRuntime.decisionDetail timed timed input)).2.outcome = outcome at hover
    cases outcome with
    | running => exact absurd rfl hover
    | _ => rfl

namespace SimulationControlNode

variable {n : SimulationControlNode} {goal : GoalHandle}

theorem settles_updateActiveAction (sequence : ReactiveSequence)
    (hactive : n.activeGoal = some goal)
    (htimed : Timed n) {nowS : Double} {e : ActionExecution}
    (hexecution : n.actionRuntime.execution = some e) (hoverdue : e.timeoutS ≤ e.elapsed nowS)
    (reading : ExecutorReading) :
    Settles n (n.updateActiveAction sequence nowS reading).1 [goal.id] ∧
      (n.updateActiveAction sequence nowS reading).1.activeGoal = none := by
  obtain ⟨durationS, startedAtS, hcreated⟩ := htimed
  have heq : e = .create durationS n.actionTimeoutS startedAtS :=
    Option.some.inj (hexecution.symm.trans hcreated)
  have hnow : (n.activeActionInput goal nowS reading).nowS = nowS := by
    unfold activeActionInput
    split_ifs <;> rfl
  have hdue : e.timeoutS ≤ e.elapsed (n.activeActionInput goal nowS reading).nowS := by
    rw [hnow]
    exact hoverdue
  have hover := ActionExecution.update_overdue (heq ▸ max_zero_ne_nan durationS)
    (heq ▸ max_zero_ne_nan n.actionTimeoutS) hdue
    (n.activeActionInput goal nowS reading).cancelRequested
    (n.activeActionInput goal nowS reading).safetyStopped
  have hterminal := ActiveActionRuntime.update_terminal sequence n.behaviorTree hexecution hover
  have hruntime : n.actionRuntime.active = true := by
    rw [ActiveActionRuntime.active, hexecution]
    rfl
  rw [updateActiveAction_eq hactive hruntime]
  generalize n.actionRuntime.update sequence n.behaviorTree
    (n.activeActionInput goal nowS reading) = updated at hterminal
  have htree : Settles n { n with behaviorTree := updated.1 } [] := settles_same rfl rfl rfl rfl rfl
  rcases @publishDecision_cases { n with behaviorTree := updated.1 } goal hactive updated.2
    with ⟨hrunning, -⟩ | ⟨-, hended, hnone⟩
  · exact absurd (hrunning.symm.trans hterminal) Bool.false_ne_true
  · exact ⟨htree.trans hended, hnone⟩

end SimulationControlNode

end EmbodiedAgent.Simulation
