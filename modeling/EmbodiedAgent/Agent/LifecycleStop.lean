import EmbodiedAgent.Agent.AgentLifecycle
import EmbodiedAgent.Agent.ExecutionRuns
import EmbodiedAgent.Agent.SpokenStopRuns

namespace EmbodiedAgent.Agent.AgentLifecycle

open Library Library.History ActionSequence SequentialActionPublisher Execution

section Commands

def pending (generation : ℕ) : PublishPc → List ActionCommand
  | .starting actions _ => actions
  | .checking batch left => if generation ≤ batch.generation then left else []
  | .sending batch command left =>
    command :: if generation ≤ batch.generation then left else []
  | .awaiting .. | .failed .. | .stopping .. | .finished _ => []

def OnlyStops (generation : ℕ) (pc : PublishPc) : Prop :=
  ∀ command ∈ pending generation pc, command.name = "stop"

variable {q : SequentialActionPublisher} {pc : PublishPc} {generation : ℕ} {expired : Bool}

theorem onlyStops_of_nil (h : pending generation pc = []) : OnlyStops generation pc := by
  intro command hcommand
  rw [h] at hcommand
  cases hcommand

theorem OnlyStops.later {generation' : ℕ} (h : OnlyStops generation pc)
    (hle : generation ≤ generation') : OnlyStops generation' pc := by
  intro command hcommand
  cases pc with
  | starting actions waitForResults => exact h command hcommand
  | checking batch left =>
    refine h command ?_
    rw [pending] at hcommand ⊢
    split_ifs at hcommand with hgeneration
    · rwa [if_pos (hle.trans hgeneration)]
    · cases hcommand
  | sending batch first left =>
    refine h command ?_
    rw [pending] at hcommand ⊢
    rcases List.mem_cons.mp hcommand with heq | hleft
    · exact List.mem_cons.mpr (.inl heq)
    · split_ifs at hleft with hgeneration
      · rw [if_pos (hle.trans hgeneration)]
        exact List.mem_cons_of_mem first hleft
      · cases hleft
  | awaiting | failed | stopping | finished => cases hcommand

theorem withRequestId_name (q : SequentialActionPublisher) (action : ActionCommand) :
    (q.withRequestId action).1.name = action.name := by
  unfold withRequestId
  split_ifs <;> rfl

theorem withRequestIds_name (q : SequentialActionPublisher) {actions : List ActionCommand}
    (h : ∀ action ∈ actions, action.name = "stop") :
    ∀ command ∈ (q.withRequestIds actions).1, command.name = "stop" := by
  induction actions generalizing q with
  | nil => exact fun command hcommand ↦ absurd hcommand List.not_mem_nil
  | cons action actions ih =>
    intro command hcommand
    rcases List.mem_cons.mp hcommand with rfl | hrest
    · exact (withRequestId_name q action).trans (h action List.mem_cons_self)
    · exact ih _ (fun action haction ↦ h action (List.mem_cons_of_mem _ haction)) command hrest

theorem onlyStops_awaitStep (q : SequentialActionPublisher) (batch : Batch)
    (left : List ActionCommand) (expired : Bool) :
    OnlyStops generation (q.awaitStep batch left expired).1 := by
  refine onlyStops_of_nil ?_
  cases left with
  | nil => rfl
  | cons command left =>
    simp only [awaitStep]
    split
    · split_ifs <;> rfl
    · split_ifs <;> rfl

theorem OnlyStops.step (h : OnlyStops generation pc) (hle : generation ≤ q.cancelGeneration) :
    OnlyStops generation (q.publishStep pc expired).1 ∧
      ∀ command ∈ (q.publishStep pc expired).2.2, command.name = "stop" := by
  cases pc with
  | starting actions waitForResults =>
    simp only [publishStep]
    split_ifs
    · exact ⟨onlyStops_of_nil rfl, fun _ hcommand ↦ by cases hcommand⟩
    · refine ⟨fun command hcommand ↦ ?_, fun _ hcommand ↦ by cases hcommand⟩
      dsimp only [pending] at hcommand
      rw [if_pos hle] at hcommand
      exact withRequestIds_name q h command hcommand
  | checking batch left =>
    cases left with
    | nil =>
      simp only [publishStep]
      split_ifs
      · exact ⟨onlyStops_of_nil rfl, fun _ hcommand ↦ by cases hcommand⟩
      · exact ⟨onlyStops_of_nil rfl, fun _ hcommand ↦ by cases hcommand⟩
    | cons first left =>
      simp only [publishStep]
      split_ifs with hcancelled
      · exact ⟨onlyStops_of_nil rfl, fun _ hcommand ↦ by cases hcommand⟩
      · have hgeneration : generation ≤ batch.generation := by
          rw [ne_eq, not_not] at hcancelled
          rwa [← hcancelled]
        refine ⟨fun command hcommand ↦ h command ?_, fun _ hcommand ↦ by cases hcommand⟩
        dsimp only [pending] at hcommand ⊢
        rw [if_pos hgeneration] at hcommand ⊢
        exact hcommand
  | sending batch first left =>
    refine ⟨fun command hcommand ↦ h command (List.mem_cons_of_mem first hcommand), ?_⟩
    intro command hcommand
    rw [← Option.mem_some.mp hcommand]
    exact h first List.mem_cons_self
  | awaiting batch left =>
    exact ⟨onlyStops_awaitStep q batch left expired, fun _ hcommand ↦ by cases hcommand⟩
  | failed batch reason =>
    simp only [publishStep]
    split_ifs
    · exact ⟨onlyStops_of_nil rfl, fun _ hcommand ↦ by cases hcommand⟩
    · exact ⟨onlyStops_of_nil rfl, fun _ hcommand ↦ by cases hcommand⟩
  | stopping batch reason =>
    refine ⟨onlyStops_of_nil rfl, fun command hcommand ↦ ?_⟩
    rw [← Option.mem_some.mp hcommand]
    exact withRequestId_name q stopCommand
  | finished report => exact ⟨onlyStops_of_nil rfl, fun _ hcommand ↦ by cases hcommand⟩

end Commands

def Fenced (s : AgentState) : AgentEvent → Prop
  | .publish .lifecycle _ => ∀ batch command left,
    s.calls .lifecycle = some (.sending batch command left) →
      ∀ caller, caller ≠ .lifecycle → ∀ pc, s.calls caller = some pc →
        OnlyStops s.sequencer.cancelGeneration pc
  | .publishActions t actions => s.sinceStop.isSome = true → s.runsTurn t = true →
    ∀ action ∈ actions, action.name = "stop"
  | .preempt k => s.sinceStop.isSome = true →
    ∀ reason action, s.callbacks k = .cancelling reason action → action = "stop"
  | .lifecycle _ => ∀ inputQuiesced, s.lifecycle = .listingThreads inputQuiesced →
    ∀ t, s.execution.threads t ≠ .claimed
  | _ => True

section Candidates

variable {runtime : AgentExecutionRuntime} {s s' : AgentState}

structure LastWord (s : AgentState) : Prop where
  own : ∀ pc, s.calls .lifecycle = some pc → OnlyStops 0 pc ∧ SpokenStop.Unwaiting pc
  published : ∀ published, s.sinceStop = some published →
    ∀ command ∈ published, command.name = "stop"
  pending : s.sinceStop.isSome = true → ∀ caller pc, s.calls caller = some pc →
    OnlyStops s.sequencer.cancelGeneration pc

theorem LastWord.of_same (h : LastWord s) (hcalls : s'.calls = s.calls)
    (hsince : s'.sinceStop = s.sinceStop)
    (hgeneration : s.sequencer.cancelGeneration ≤ s'.sequencer.cancelGeneration) : LastWord s' := by
  refine ⟨?_, ?_, fun hstop caller pc hpc ↦ ?_⟩
  · rw [hcalls]
    exact h.own
  · rw [hsince]
    exact h.published
  · rw [hsince] at hstop
    rw [hcalls] at hpc
    exact (h.pending hstop caller pc hpc).later hgeneration

theorem LastWord.call (h : LastWord s) {caller : Caller} {next : Option PublishPc}
    (hcalls : s'.calls = Function.update s.calls caller next)
    (hsince : s'.sinceStop = s.sinceStop)
    (hgeneration : s.sequencer.cancelGeneration ≤ s'.sequencer.cancelGeneration)
    (hown : caller = .lifecycle →
      ∀ pc, next = some pc → OnlyStops 0 pc ∧ SpokenStop.Unwaiting pc)
    (hnext : s.sinceStop.isSome = true → ∀ pc, next = some pc →
      OnlyStops s'.sequencer.cancelGeneration pc) : LastWord s' := by
  refine ⟨fun pc hpc ↦ ?_, ?_, fun hstop other pc hpc ↦ ?_⟩
  · rw [hcalls] at hpc
    by_cases heq : Caller.lifecycle = caller
    · rw [← heq, Function.update_self] at hpc
      exact hown heq.symm pc hpc
    · rw [Function.update_of_ne heq] at hpc
      exact h.own pc hpc
  · rw [hsince]
    exact h.published
  · rw [hsince] at hstop
    rw [hcalls] at hpc
    by_cases heq : other = caller
    · rw [heq, Function.update_self] at hpc
      exact hnext hstop pc hpc
    · rw [Function.update_of_ne heq] at hpc
      exact (h.pending hstop other pc hpc).later hgeneration

theorem mem_candidates {caller : Caller} {handed : Option ActionCommand}
    {published : List ActionCommand} {command : ActionCommand}
    (h : s.candidates caller handed = some published) (hcommand : command ∈ published) :
    (∃ before, s.sinceStop = some before ∧ command ∈ before) ∨ command ∈ handed := by
  cases handed with
  | none => exact .inl ⟨published, h, hcommand⟩
  | some given =>
    unfold AgentState.candidates at h
    split_ifs at h
    · rw [← Option.some.inj h] at hcommand
      rcases List.mem_append.mp hcommand with hbefore | hgiven
      · cases hsince : s.sinceStop with
        | none =>
          rw [hsince] at hbefore
          cases hbefore
        | some before =>
          rw [hsince] at hbefore
          exact .inl ⟨before, rfl, hbefore⟩
      · exact .inr (congrArg some (List.mem_singleton.mp hgiven).symm)
    · obtain ⟨before, hsince, rfl⟩ := Option.map_eq_some_iff.mp h
      rcases List.mem_append.mp hcommand with hbefore | hgiven
      · exact .inl ⟨before, hsince, hbefore⟩
      · exact .inr (congrArg some (List.mem_singleton.mp hgiven).symm)

theorem publish_step {caller : Caller} {pc : PublishPc} (hpc : s.calls caller = some pc)
    (hopen : ∀ report, pc ≠ .finished report) (expired : Bool) :
    s.publish caller expired =
      { s.call caller (some (s.sequencer.publishStep pc expired).1) with
        sequencer := (s.sequencer.publishStep pc expired).2.1
        sinceStop := s.candidates caller (s.sequencer.publishStep pc expired).2.2 } := by
  unfold AgentState.publish
  rw [hpc]
  cases pc with
  | finished report => exact absurd rfl (hopen report)
  | _ => rfl

theorem LastWord.pending_of_step (h : LastWord s) {caller : Caller} {pc : PublishPc}
    (hpc : s.calls caller = some pc) {expired : Bool} (he : Fenced s (.publish caller expired))
    (hsome : (s.candidates caller (s.sequencer.publishStep pc expired).2.2).isSome = true)
    {other : Caller} {pc' : PublishPc} (hpc' : s.calls other = some pc') :
    OnlyStops s.sequencer.cancelGeneration pc' := by
  cases hsince : s.sinceStop with
  | some before => exact h.pending (by rw [hsince]; rfl) other pc' hpc'
  | none =>
    cases hgiven : (s.sequencer.publishStep pc expired).2.2 with
    | none =>
      rw [hgiven] at hsome
      change s.sinceStop.isSome = true at hsome
      rw [hsince] at hsome
      cases hsome
    | some command =>
      by_cases hcaller : caller = .lifecycle
      · subst hcaller
        obtain ⟨batch, first, left, rfl⟩ := SpokenStop.Unwaiting.sending (h.own pc hpc).2 hgiven
        by_cases hother : other = .lifecycle
        · subst hother
          exact (h.own pc' hpc').1.later (Nat.zero_le _)
        · exact he batch first left hpc other hother pc' hpc'
      · rw [hgiven, AgentState.candidates, if_neg hcaller, hsince] at hsome
        cases hsome

theorem LastWord.publish (h : LastWord s) {caller : Caller} {expired : Bool}
    (he : Fenced s (.publish caller expired)) : LastWord (s.publish caller expired) := by
  cases hpc : s.calls caller with
  | none =>
    rw [AgentState.publish, hpc]
    exact h
  | some pc =>
    by_cases hopen : ∀ report, pc ≠ .finished report
    · have hgeneration := (publishStep_cancel s.sequencer pc expired).1
      rw [publish_step hpc hopen]
      refine ⟨fun pc' hpc' ↦ ?_, fun published hpublished command hcommand ↦ ?_,
        fun hsome other pc' hpc' ↦ ?_⟩
      · by_cases heq : Caller.lifecycle = caller
        · subst heq
          change Function.update s.calls .lifecycle (some (s.sequencer.publishStep pc expired).1)
            .lifecycle = _ at hpc'
          rw [← Option.some.inj hpc']
          exact ⟨((h.own pc hpc).1.step (Nat.zero_le _)).1, (h.own pc hpc).2.step⟩
        · change Function.update s.calls _ _ _ = _ at hpc'
          rw [Function.update_of_ne heq] at hpc'
          exact h.own pc' hpc'
      · rcases mem_candidates hpublished hcommand with ⟨before, hsince, hbefore⟩ | hgiven
        · exact h.published before hsince command hbefore
        · have hsome : (s.candidates caller
              (s.sequencer.publishStep pc expired).2.2).isSome = true :=
            Option.isSome_iff_exists.mpr ⟨published, hpublished⟩
          exact ((h.pending_of_step hpc he hsome hpc).step le_rfl).2 command hgiven
      · rw [hgeneration]
        change Function.update s.calls _ _ _ = _ at hpc'
        by_cases heq : other = caller
        · subst heq
          rw [Function.update_self] at hpc'
          rw [← Option.some.inj hpc']
          exact ((h.pending_of_step hpc he hsome hpc).step le_rfl).1
        · rw [Function.update_of_ne heq] at hpc'
          exact h.pending_of_step hpc he hsome hpc'
    · obtain ⟨report, hreport⟩ := not_forall_not.mp hopen
      rw [AgentState.publish, hpc, hreport]
      have hnone : ∀ pc : PublishPc, none = some pc → False := fun _ hno ↦ by cases hno
      cases caller with
      | turn t =>
        exact h.call rfl rfl le_rfl (fun _ pc hno ↦ (hnone pc hno).elim)
          fun _ pc hno ↦ (hnone pc hno).elim
      | callback k =>
        exact h.call rfl rfl le_rfl (fun _ pc hno ↦ (hnone pc hno).elim)
          fun _ pc hno ↦ (hnone pc hno).elim
      | lifecycle =>
        exact h.call rfl rfl le_rfl (fun _ pc hno ↦ (hnone pc hno).elim)
          fun _ pc hno ↦ (hnone pc hno).elim

theorem LastWord.lifecycleStep (h : LastWord s) (inputOk : Bool) :
    LastWord (AgentState.lifecycleStep runtime s inputOk) := by
  unfold AgentState.lifecycleStep
  split
  · exact h
  · exact h
  · exact h
  · exact h
  · split
    · dsimp only
      split <;> exact h.of_same rfl rfl le_rfl
    · exact h.of_same rfl rfl le_rfl
  · exact h.of_same rfl rfl le_rfl
  · exact h.of_same rfl rfl (Nat.le_succ _)
  · split <;> exact h.of_same rfl rfl le_rfl
  · have hstop : ∀ generation, OnlyStops generation (.starting [stopCommand] false) := by
      intro generation command hcommand
      rw [List.mem_singleton.mp hcommand]
      rfl
    refine h.call rfl rfl le_rfl (fun _ pc hpc ↦ ?_) fun _ pc hpc ↦ ?_
    · rw [← Option.some.inj hpc]
      exact ⟨hstop 0, rfl⟩
    · rw [← Option.some.inj hpc]
      exact hstop _
  · exact h.of_same rfl rfl le_rfl
  · exact h.of_same rfl rfl le_rfl
  · exact h.of_same rfl rfl le_rfl
  · exact h.of_same rfl rfl le_rfl

theorem LastWord.preempt (h : LastWord s) {k : ℕ} (he : Fenced s (.preempt k)) :
    LastWord (s.preempt k) := by
  unfold AgentState.preempt
  split
  · split <;> exact h.of_same rfl rfl le_rfl
  next reason action hcancelling =>
    refine h.call rfl rfl (Nat.le_succ _) (fun hcaller ↦ by cases hcaller) fun hsome pc hpc ↦ ?_
    rw [← Option.some.inj hpc]
    intro command hcommand
    rw [List.mem_singleton.mp hcommand]
    exact he hsome reason action hcancelling
  · exact h

theorem LastWord.publishActions (h : LastWord s) {t : ℕ} {actions : List ActionCommand}
    (he : Fenced s (.publishActions t actions)) :
    LastWord (AgentState.publishActions runtime s t actions) := by
  unfold AgentState.publishActions
  split_ifs with hruns
  · refine h.call rfl rfl le_rfl (fun hcaller ↦ by cases hcaller) fun hsome pc hpc ↦ ?_
    rw [← Option.some.inj hpc]
    exact he hsome (Bool.and_eq_true_iff.mp hruns).1
  · exact h

theorem LastWord.step (h : LastWord s) {e : AgentEvent} (he : Fenced s e) :
    LastWord (step runtime s e).1 := by
  cases e with
  | activate =>
    dsimp only [AgentLifecycle.step, AgentState.activate]
    split
    · exact ⟨h.own, fun _ hnone ↦ (by cases hnone), fun hnone ↦ (by cases hnone)⟩
    · exact ⟨h.own, fun _ hnone ↦ (by cases hnone), fun hnone ↦ (by cases hnone)⟩
    · exact h
  | deactivate =>
    dsimp only [AgentLifecycle.step, AgentState.deactivate]
    split <;> exact h.of_same rfl rfl le_rfl
  | lifecycle inputOk => exact h.lifecycleStep inputOk
  | transcript k =>
    dsimp only [AgentLifecycle.step, AgentState.transcript]
    split
    · split <;> exact h.of_same rfl rfl le_rfl
    · exact h
  | accept k directive =>
    dsimp only [AgentLifecycle.step, AgentState.accept]
    split
    · split <;> exact h.of_same rfl rfl le_rfl
    · exact h
  | preempt k => exact h.preempt he
  | enqueue k item =>
    dsimp only [AgentLifecycle.step, AgentState.enqueue]
    split
    · split <;> exact h.of_same rfl rfl le_rfl
    · exact h
  | beginTurn k =>
    dsimp only [AgentLifecycle.step, AgentState.beginTurn]
    split
    · split <;> exact h.of_same rfl rfl le_rfl
    · exact h
  | register k =>
    dsimp only [AgentLifecycle.step, AgentState.register]
    split <;> exact h.of_same rfl rfl le_rfl
  | run t reading e =>
    dsimp only [AgentLifecycle.step, AgentState.run]
    split <;> exact h.of_same rfl rfl le_rfl
  | publishActions t actions => exact h.publishActions he
  | publish caller expired => exact h.publish he
  | notifyResult commandId result =>
    refine h.of_same rfl rfl (le_of_eq ?_)
    dsimp only [AgentLifecycle.step, SequentialActionPublisher.notifyResult]
    split <;> rfl

/-- How far the call of `stop` is that a deactivation makes. -/
def LifecyclePc.Awaits : LifecyclePc → StopCall → Prop
  | .listingThreads _ => fun call ↦ call = .requested
  | .joiningThreads _ => fun call ↦ ∃ threads, call = .joining threads
  | _ => fun call ↦ call = .idle

/-- The calls of `stop` are those of the deactivations, one after the other. -/
structure Booked (s : AgentState) : Prop where
  sound : Sound s.execution
  attended : Attended s.execution
  earlier : ∀ k < s.stops, (s.execution.stops k).underWay = false
  current : s.lifecycle.Awaits (s.execution.stops s.stops)
  later : ∀ k, s.stops < k → s.execution.stops k = .idle
  calling : ∀ pc, s.calls .lifecycle = some pc → s.lifecycle = .publishingStop
  starting : s.lifecycle = .activating → s.quiesced = false
  settled : s.quiesced = true → Settled s.execution

theorem Booked.of_frame (h : Booked s) (hlifecycle : s'.lifecycle = s.lifecycle)
    (hstops : s'.stops = s.stops) (hquiesced : s'.quiesced = s.quiesced)
    (hcalls : s'.calls .lifecycle = s.calls .lifecycle) (hsound : Sound s'.execution)
    (hattended : Attended s'.execution) (hbooks : s'.execution.stops = s.execution.stops)
    (hsettled : Settled s.execution → Settled s'.execution) : Booked s' := by
  refine ⟨hsound, hattended, ?_, ?_, ?_, ?_, ?_, fun hquiet ↦ ?_⟩
  · rw [hstops, hbooks]
    exact h.earlier
  · rw [hlifecycle, hstops, hbooks]
    exact h.current
  · rw [hstops, hbooks]
    exact h.later
  · rw [hcalls, hlifecycle]
    exact h.calling
  · rw [hlifecycle, hquiesced]
    exact h.starting
  · rw [hquiesced] at hquiet
    exact hsettled (h.settled hquiet)

theorem Booked.of_same (h : Booked s) (hlifecycle : s'.lifecycle = s.lifecycle)
    (hstops : s'.stops = s.stops) (hquiesced : s'.quiesced = s.quiesced)
    (hcalls : s'.calls .lifecycle = s.calls .lifecycle) (hexecution : s'.execution = s.execution) :
    Booked s' := by
  refine h.of_frame hlifecycle hstops hquiesced hcalls ?_ ?_ ?_ ?_
  · rw [hexecution]
    exact h.sound
  · rw [hexecution]
    exact h.attended
  · rw [hexecution]
  · rw [hexecution]
    exact id

theorem Booked.of_items (h : Booked s) {items : List Item} (hlifecycle : s'.lifecycle = s.lifecycle)
    (hstops : s'.stops = s.stops) (hquiesced : s'.quiesced = s.quiesced)
    (hcalls : s'.calls .lifecycle = s.calls .lifecycle)
    (hexecution : s'.execution = { s.execution with items := items }) : Booked s' := by
  refine h.of_frame hlifecycle hstops hquiesced hcalls ?_ ?_ ?_ fun hsettled ↦ ?_
  · rw [hexecution]
    exact h.sound.of_same rfl rfl rfl rfl rfl
  · rw [hexecution]
    exact h.attended.of_same rfl rfl fun t ht ↦ ⟨ht, id⟩
  · rw [hexecution]
  · rw [hexecution]
    exact hsettled.of_same rfl rfl

theorem Booked.go (h : Booked s) (hexecution : s'.execution = s.execution)
    (hstops : s'.stops = s.stops) (hquiesced : s'.quiesced = true → s.quiesced = true)
    (hidle : s.execution.stops s.stops = .idle)
    (hawaits : ∀ call : StopCall, call = .idle → s'.lifecycle.Awaits call)
    (hcalling : ∀ pc, s'.calls .lifecycle = some pc → s'.lifecycle = .publishingStop)
    (hstarting : s'.lifecycle = .activating → s'.quiesced = false) : Booked s' := by
  refine ⟨?_, ?_, ?_, ?_, ?_, hcalling, hstarting, fun hquiet ↦ ?_⟩
  · rw [hexecution]
    exact h.sound
  · rw [hexecution]
    exact h.attended
  · rw [hexecution, hstops]
    exact h.earlier
  · rw [hexecution, hstops]
    exact hawaits _ hidle
  · rw [hexecution, hstops]
    exact h.later
  · rw [hexecution]
    exact h.settled (hquiesced hquiet)

theorem Booked.none_underWay (h : Booked s) (hidle : s.execution.stops s.stops = .idle) (k : ℕ) :
    (s.execution.stops k).underWay = false := by
  rcases Nat.lt_trichotomy k s.stops with hlt | rfl | hgt
  · exact h.earlier k hlt
  · rw [hidle]
    rfl
  · rw [h.later k hgt]
    rfl

theorem start_stops (e : Execution.State) : (start runtime e).1.stops = e.stops := by
  rcases start_cases runtime e with ⟨-, heq⟩ | ⟨-, -, heq⟩ | ⟨-, -, heq⟩
  · rw [heq]
    rfl
  · rw [heq]
    rfl
  · rw [heq]
    rfl

theorem Booked.activating (h : Booked s) (hactivating : s.lifecycle = .activating)
    (inputOk : Bool) : Booked (AgentState.lifecycleStep runtime s inputOk) := by
  have hidle : s.execution.stops s.stops = .idle := by
    have hcurrent := h.current
    rwa [hactivating] at hcurrent
  have hnone : ∀ pc, s.calls .lifecycle ≠ some pc := by
    intro pc hpc
    have hcalling := h.calling pc hpc
    rw [hactivating] at hcalling
    cases hcalling
  have hloud : s.quiesced = false := h.starting hactivating
  have hstarted : ∀ s' : AgentState, s'.execution = (start runtime s.execution).1 →
      s'.stops = s.stops → s'.quiesced = s.quiesced → s'.calls = s.calls →
      (∀ call : StopCall, call = .idle → s'.lifecycle.Awaits call) →
      s'.lifecycle ≠ .activating → Booked s' := by
    intro s' hexecution hstops hquiesced hcalls hawaits hnot
    refine ⟨?_, ?_, ?_, ?_, ?_, ?_, fun hstarting ↦ absurd hstarting hnot, ?_⟩
    · rw [hexecution]
      exact sound_start h.sound
    · rw [hexecution]
      exact attended_start h.attended fun _ ↦ h.none_underWay hidle
    · rw [hexecution, start_stops, hstops]
      exact h.earlier
    · rw [hexecution, start_stops, hstops]
      exact hawaits _ hidle
    · rw [hexecution, start_stops, hstops]
      exact h.later
    · rw [hcalls]
      exact fun pc hpc ↦ absurd hpc (hnone pc)
    · rw [hquiesced, hloud]
      exact fun hquiet ↦ by cases hquiet
  unfold AgentState.lifecycleStep
  rw [hactivating]
  dsimp only
  split_ifs
  · exact hstarted _ rfl rfl rfl rfl (fun _ hcall ↦ hcall) fun hno ↦ by cases hno
  · exact hstarted _ rfl rfl rfl rfl (fun _ hcall ↦ hcall) fun hno ↦ by cases hno
  · exact h.go rfl rfl id hidle (fun _ hcall ↦ hcall) (fun pc hpc ↦ absurd hpc (hnone pc))
      fun hno ↦ by cases hno

theorem Booked.of_stop (h : Booked s) {call : StopCall}
    (hbooks : s'.execution.stops = Function.update s.execution.stops s.stops call)
    (hstops : s'.stops = s.stops) (hquiesced : s'.quiesced = s.quiesced)
    (hcalls : s'.calls = s.calls) (hcurrent : s'.lifecycle.Awaits call)
    (hnot : s.lifecycle ≠ .publishingStop) (hstarting : s'.lifecycle ≠ .activating)
    (hsound : Sound s'.execution) (hattended : Attended s'.execution)
    (hsettled : Settled s.execution → Settled s'.execution) : Booked s' := by
  refine ⟨hsound, hattended, fun k hk ↦ ?_, ?_, fun k hk ↦ ?_, fun pc hpc ↦ ?_,
    fun hactivating ↦ absurd hactivating hstarting, fun hquiet ↦ ?_⟩
  · rw [hstops] at hk
    rw [hbooks, Function.update_of_ne (Nat.ne_of_lt hk)]
    exact h.earlier k hk
  · rw [hstops, hbooks, Function.update_self]
    exact hcurrent
  · rw [hstops] at hk
    rw [hbooks, Function.update_of_ne (Nat.ne_of_gt hk)]
    exact h.later k hk
  · rw [hcalls] at hpc
    exact absurd (h.calling pc hpc) hnot
  · rw [hquiesced] at hquiet
    exact hsettled (h.settled hquiet)

theorem Booked.stopping (h : Booked s) {inputQuiesced : Bool} (inputOk : Bool)
    (hstopping : s.lifecycle = .stoppingExecution inputQuiesced) :
    Booked (AgentState.lifecycleStep runtime s inputOk) := by
  have hidle : s.execution.stops s.stops = .idle := by
    have hcurrent := h.current
    rwa [hstopping] at hcurrent
  have hrequest : (requestStop s.execution s.stops).stops =
      Function.update s.execution.stops s.stops .requested := by
    unfold requestStop
    rw [hidle]
    rfl
  have hstep : AgentState.lifecycleStep runtime s inputOk =
      { s with
        execution := requestStop s.execution s.stops
        lifecycle := .listingThreads inputQuiesced } := by
    unfold AgentState.lifecycleStep
    rw [hstopping]
  rw [hstep]
  refine h.of_stop hrequest rfl rfl rfl rfl (by rw [hstopping]; exact fun hno ↦ by cases hno)
    (fun hno ↦ by cases hno) ?_ (attended_requestStop h.attended) fun hsettled ↦ ?_
  · exact @sound_step runtime _ (.requestStop s.stops) h.sound
  · exact @settled_step runtime _ (.requestStop s.stops) hsettled id

theorem Booked.listing (h : Booked s) {inputQuiesced : Bool} (inputOk : Bool)
    (hlisting : s.lifecycle = .listingThreads inputQuiesced)
    (hclaimed : ∀ t, s.execution.threads t ≠ .claimed) :
    Booked (AgentState.lifecycleStep runtime s inputOk) := by
  have hrequested : s.execution.stops s.stops = .requested := by
    have hcurrent := h.current
    rwa [hlisting] at hcurrent
  have hlisted : (snapshot s.execution s.stops).stops = Function.update s.execution.stops s.stops
      (.joining (s.execution.background ++ s.execution.worker.toList)) := by
    unfold snapshot
    rw [hrequested]
    rfl
  have hstep : AgentState.lifecycleStep runtime s inputOk =
      { s with
        execution := snapshot s.execution s.stops
        lifecycle := .joiningThreads inputQuiesced } := by
    unfold AgentState.lifecycleStep
    rw [hlisting]
  rw [hstep]
  refine h.of_stop hlisted rfl rfl rfl ⟨_, rfl⟩ (by rw [hlisting]; exact fun hno ↦ by cases hno)
    (fun hno ↦ by cases hno) ?_ (attended_snapshot h.attended h.sound.registered fun _ ↦ hclaimed)
    fun hsettled ↦ ?_
  · exact @sound_step runtime _ (.snapshot s.stops) h.sound
  · exact @settled_step runtime _ (.snapshot s.stops) hsettled id

theorem Booked.joining (h : Booked s) {inputQuiesced : Bool} (inputOk : Bool)
    (hjoining : s.lifecycle = .joiningThreads inputQuiesced) :
    Booked (AgentState.lifecycleStep runtime s inputOk) := by
  obtain ⟨threads, hthreads⟩ : ∃ threads, s.execution.stops s.stops = .joining threads := by
    have hcurrent := h.current
    rwa [hjoining] at hcurrent
  have hanswer : (answer s.execution s.stops).stops = Function.update s.execution.stops s.stops
      (.answered !threads.any s.execution.alive) := by
    unfold answer
    rw [hthreads]
    rfl
  have hresult : ∀ lifecycle, ({ s with
      execution := answer s.execution s.stops
      lifecycle := lifecycle } : AgentState).executionQuiesced =
        !threads.any s.execution.alive := by
    intro lifecycle
    unfold AgentState.executionQuiesced
    rw [hanswer, Function.update_self]
  have hstep : AgentState.lifecycleStep runtime s inputOk =
      { s with
        execution := answer s.execution s.stops
        lifecycle := .ended (inputQuiesced && !threads.any s.execution.alive)
        quiesced := s.quiesced || inputQuiesced && !threads.any s.execution.alive
        stops := s.stops + 1 } := by
    unfold AgentState.lifecycleStep
    rw [hjoining]
    dsimp only
    rw [hresult]
  rw [hstep]
  refine ⟨sound_answer h.sound, attended_answer h.attended, fun k hk ↦ ?_, ?_, fun k hk ↦ ?_,
    fun pc hpc ↦ ?_, fun hno ↦ (by cases hno), fun hquiet ↦ ?_⟩
  · dsimp only at hk ⊢
    rw [hanswer]
    by_cases heq : k = s.stops
    · rw [heq, Function.update_self]
      rfl
    · rw [Function.update_of_ne heq]
      exact h.earlier k (by omega)
  · rw [hanswer, Function.update_of_ne (Nat.succ_ne_self s.stops)]
    exact h.later _ (Nat.lt_succ_self _)
  · dsimp only at hk ⊢
    rw [hanswer, Function.update_of_ne (by omega)]
    exact h.later k (by omega)
  · have hcalling := h.calling pc hpc
    rw [hjoining] at hcalling
    cases hcalling
  · rcases Bool.or_eq_true_iff.mp hquiet with hbefore | hnow
    · exact @settled_step runtime _ (.answer s.stops) (h.settled hbefore) id
    · have htrue : (!threads.any s.execution.alive) = true := (Bool.and_eq_true_iff.mp hnow).2
      refine settled_of_returnsTrue h.attended ⟨?_, ?_⟩
      · rw [hthreads]
        rfl
      · rw [hanswer, Function.update_self, htrue]

theorem Booked.next (h : Booked s) {lifecycle : LifecyclePc}
    (hidle : s.execution.stops s.stops = .idle) (hnot : s.lifecycle ≠ .publishingStop)
    (hlifecycle : s'.lifecycle = lifecycle) (hawaits : lifecycle.Awaits .idle)
    (hactivating : lifecycle ≠ .activating) (hexecution : s'.execution = s.execution)
    (hstops : s'.stops = s.stops) (hquiesced : s'.quiesced = s.quiesced)
    (hcalls : s'.calls = s.calls) : Booked s' := by
  refine h.go hexecution hstops (hquiesced ▸ id) hidle ?_ (fun pc hpc ↦ ?_) fun hno ↦ ?_
  · rintro call rfl
    rwa [hlifecycle]
  · rw [hcalls] at hpc
    exact absurd (h.calling pc hpc) hnot
  · exact absurd (hlifecycle.symm.trans hno) hactivating

theorem Booked.lifecycleStep (h : Booked s) {inputOk : Bool}
    (he : Fenced s (.lifecycle inputOk)) :
    Booked (AgentState.lifecycleStep runtime s inputOk) := by
  have hcurrent := h.current
  cases hlifecycle : s.lifecycle with
  | activating => exact h.activating hlifecycle inputOk
  | stoppingExecution inputQuiesced => exact h.stopping inputOk hlifecycle
  | listingThreads inputQuiesced =>
    exact h.listing inputOk hlifecycle (he inputQuiesced hlifecycle)
  | joiningThreads inputQuiesced => exact h.joining inputOk hlifecycle
  | inactive | active | publishingStop | ended quiesced =>
    unfold AgentState.lifecycleStep
    rw [hlifecycle]
    exact h
  | cancellingEndpoint | cancellingSequence | stoppingInput =>
    rw [hlifecycle] at hcurrent
    unfold AgentState.lifecycleStep
    rw [hlifecycle]
    exact h.next hcurrent (by rw [hlifecycle]; exact fun hno ↦ by cases hno) rfl rfl
      (fun hno ↦ by cases hno) rfl rfl rfl rfl
  | clearingQueue =>
    rw [hlifecycle] at hcurrent
    unfold AgentState.lifecycleStep
    rw [hlifecycle]
    dsimp only
    split
    · exact h.next hcurrent (by rw [hlifecycle]; exact fun hno ↦ by cases hno) rfl rfl
        (fun hno ↦ by cases hno) rfl rfl rfl rfl
    · exact h.of_items hlifecycle.symm rfl rfl rfl rfl
  | publishingSession =>
    rw [hlifecycle] at hcurrent
    unfold AgentState.lifecycleStep
    rw [hlifecycle]
    exact h.go rfl rfl id hcurrent (fun _ hcall ↦ hcall) (fun _ _ ↦ rfl) fun hno ↦ by cases hno

theorem call_lifecycle {calls : Caller → Option PublishPc} {caller : Caller}
    {pc : Option PublishPc} (h : caller ≠ .lifecycle) :
    Function.update calls caller pc .lifecycle = calls .lifecycle :=
  Function.update_of_ne h.symm pc calls

theorem Booked.publish (h : Booked s) (caller : Caller) (expired : Bool) :
    Booked (s.publish caller expired) := by
  cases hpc : s.calls caller with
  | none =>
    rw [AgentState.publish, hpc]
    exact h
  | some pc =>
    by_cases hopen : ∀ report, pc ≠ .finished report
    · rw [publish_step hpc hopen]
      by_cases hcaller : caller = .lifecycle
      · subst hcaller
        have hstop := h.calling pc hpc
        have hcurrent := h.current
        rw [hstop] at hcurrent
        refine h.go rfl rfl id hcurrent ?_ (fun _ _ ↦ hstop) fun hno ↦ ?_
        · intro call hcall
          change s.lifecycle.Awaits call
          rw [hstop]
          exact hcall
        · exact absurd (hstop.symm.trans hno) fun hne ↦ by cases hne
      · refine h.of_same rfl rfl rfl ?_ rfl
        exact call_lifecycle hcaller
    · obtain ⟨report, hreport⟩ := not_forall_not.mp hopen
      rw [AgentState.publish, hpc, hreport]
      cases caller with
      | turn t =>
        refine h.of_same rfl rfl rfl ?_ rfl
        change Function.update s.calls (.turn t) none .lifecycle = _
        exact call_lifecycle fun hno ↦ by cases hno
      | callback k =>
        refine h.of_same rfl rfl rfl ?_ rfl
        change Function.update s.calls (.callback k) none .lifecycle = _
        exact call_lifecycle fun hno ↦ by cases hno
      | lifecycle =>
        have hcurrent := h.current
        rw [h.calling pc hpc] at hcurrent
        refine h.go rfl rfl id hcurrent (fun _ hcall ↦ hcall) (fun pc' hpc' ↦ ?_)
          fun hno ↦ by cases hno
        change Function.update s.calls .lifecycle none .lifecycle = _ at hpc'
        cases hpc'

theorem Booked.activate (h : Booked s) : Booked s.activate := by
  have hcurrent := h.current
  have hrest : s.lifecycle ≠ .publishingStop → s.execution.stops s.stops = .idle →
      Booked { s with
        active := true, lifecycle := .activating, sinceStop := none, quiesced := false } :=
    fun hnot hidle ↦ h.go rfl rfl (fun hno ↦ by cases hno) hidle (fun _ hcall ↦ hcall)
      (fun pc hpc ↦ absurd (h.calling pc hpc) hnot) fun _ ↦ rfl
  unfold AgentState.activate
  split
  next hinactive =>
    rw [hinactive] at hcurrent
    exact hrest (by rw [hinactive]; exact fun hno ↦ by cases hno) hcurrent
  next quiesced hended =>
    rw [hended] at hcurrent
    exact hrest (by rw [hended]; exact fun hno ↦ by cases hno) hcurrent
  next => exact h

theorem Booked.deactivate (h : Booked s) : Booked s.deactivate := by
  have hcurrent := h.current
  unfold AgentState.deactivate
  split
  next hactive =>
    rw [hactive] at hcurrent
    exact h.next hcurrent (by rw [hactive]; exact fun hno ↦ by cases hno) rfl rfl
      (fun hno ↦ by cases hno) rfl rfl rfl rfl
  next quiesced hended =>
    rw [hended] at hcurrent
    exact h.next hcurrent (by rw [hended]; exact fun hno ↦ by cases hno) rfl rfl
      (fun hno ↦ by cases hno) rfl rfl rfl rfl
  next => exact h

theorem Booked.step (h : Booked s) {e : AgentEvent} (he : Fenced s e) :
    Booked (step runtime s e).1 := by
  cases e with
  | activate => exact h.activate
  | deactivate => exact h.deactivate
  | lifecycle inputOk => exact h.lifecycleStep he
  | transcript k =>
    dsimp only [AgentLifecycle.step, AgentState.transcript]
    split
    · split <;> exact h.of_same rfl rfl rfl rfl rfl
    · exact h
  | accept k directive =>
    dsimp only [AgentLifecycle.step, AgentState.accept]
    split
    · split <;> exact h.of_same rfl rfl rfl rfl rfl
    · exact h
  | preempt k =>
    dsimp only [AgentLifecycle.step, AgentState.preempt]
    split
    · split
      · exact h.of_same rfl rfl rfl rfl rfl
      · exact h.of_items rfl rfl rfl rfl rfl
    next reason action hcancelling =>
      refine h.of_same rfl rfl rfl ?_ rfl
      change Function.update s.calls (.callback k)
        (some (.starting [{ name := action, priority := true }] false)) .lifecycle = _
      exact call_lifecycle fun hno ↦ by cases hno
    · exact h
  | enqueue k item =>
    dsimp only [AgentLifecycle.step, AgentState.enqueue]
    split
    · split
      · exact h.of_items rfl rfl rfl rfl rfl
      · exact h
    · exact h
  | beginTurn k =>
    dsimp only [AgentLifecycle.step, AgentState.beginTurn]
    split
    · split
      · exact h.of_same rfl rfl rfl rfl rfl
      · refine h.of_frame rfl rfl rfl rfl (sound_tryBeginTurn h.sound)
          (attended_tryBeginTurn h.attended) ?_ fun hsettled ↦ ?_
        · unfold tryBeginTurn
          split <;> rfl
        · exact @settled_step runtime _ .tryBeginTurn hsettled id
    · exact h
  | register k =>
    dsimp only [AgentLifecycle.step, AgentState.register]
    split
    next t hregistering =>
      refine h.of_frame rfl rfl rfl rfl (sound_register h.sound)
        (attended_register h.attended) ?_ fun hsettled ↦ ?_
      · unfold Execution.register
        split <;> rfl
      · exact @settled_step runtime _ (.register t) hsettled id
    next => exact h
  | run t reading e =>
    dsimp only [AgentLifecycle.step, AgentState.run]
    split
    · exact h
    · obtain ⟨hstop, hstops⟩ := run_frame runtime s.execution t reading e
      refine h.of_frame rfl rfl rfl rfl (sound_step (.run t reading e) h.sound)
        (h.attended.of_same hstop hstops fun i hi ↦ lively_run hi) hstops fun hsettled ↦ ?_
      exact @settled_step _ _ (.run t reading e) hsettled id
  | publishActions t actions =>
    dsimp only [AgentLifecycle.step, AgentState.publishActions]
    split
    · refine h.of_same rfl rfl rfl ?_ rfl
      change Function.update s.calls (.turn t) (some (.starting actions
        (s.shouldWaitForActionResults runtime t actions.length))) .lifecycle = _
      exact call_lifecycle fun hno ↦ by cases hno
    · exact h
  | publish caller expired => exact h.publish caller expired
  | notifyResult commandId result => exact h.of_same rfl rfl rfl rfl rfl

end Candidates

abbrev state (runtime : AgentExecutionRuntime) (h : List AgentEvent) : AgentState :=
  History.run (step runtime) {} h

theorem lastWord_initial : LastWord {} where
  own := fun _ hnone ↦ by cases hnone
  published := fun _ hnone ↦ by cases hnone
  pending := fun hnone ↦ by cases hnone

theorem booked_initial : Booked {} where
  sound := sound_initial
  attended := attended_of_none fun _ ↦ rfl
  earlier := fun _ hk ↦ absurd hk (Nat.not_lt_zero _)
  current := rfl
  later := fun _ _ ↦ rfl
  calling := fun _ hnone ↦ by cases hnone
  starting := fun _ ↦ rfl
  settled := fun hnone ↦ by cases hnone

theorem stop_is_last_word (runtime : AgentExecutionRuntime) (h : List AgentEvent)
    (hfenced : Along (step runtime) Fenced {} h) :
    (∀ published, (state runtime h).sinceStop = some published →
      ∀ command ∈ published, command.name = "stop") ∧
    ((state runtime h).quiesced = true →
      ∀ t, ((state runtime h).execution.threads t).inTurn = false) := by
  have hkept : LastWord (state runtime h) ∧ Booked (state runtime h) := by
    refine Along.preserves (step runtime) (I := fun s ↦ LastWord s ∧ Booked s) ?_ ?_ hfenced
    · exact fun s e he hs ↦ ⟨hs.1.step he, hs.2.step he⟩
    · exact ⟨lastWord_initial, booked_initial⟩
  refine ⟨hkept.1.published, fun hquiet t ↦ ?_⟩
  rw [← Bool.not_eq_true]
  intro hturn
  have hlively := Thread.lively_of_holds (Thread.holds_of_inTurn hturn)
  rw [(hkept.2.settled hquiet).still t] at hlively
  cases hlively

def spokenCommands : AgentExecutionRuntime where
  source := "online"
  continuousEnabled := false
  queue := .create 8 0

def move : ActionCommand := { name := "move" }

def commanded : List AgentEvent :=
  [.activate, .lifecycle true, .transcript 0, .accept 0 .command, .beginTurn 0]

/-- A deactivation up to the publication of its STOP, and its other steps. -/
def deactivated : List AgentEvent :=
  .deactivate :: List.replicate 4 (.lifecycle true) ++ List.replicate 3 (.publish .lifecycle false)

def quieted : List AgentEvent :=
  List.replicate 2 (.publish .lifecycle false) ++ List.replicate 4 (.lifecycle true)

theorem fenced_alone {s : AgentState} {expired : Bool}
    (h : ∀ caller, caller ≠ .lifecycle → s.calls caller = none) :
    Fenced s (.publish .lifecycle expired) := by
  intro batch command left hsending caller hcaller pc hpc
  rw [h caller hcaller] at hpc
  cases hpc

/-- A deactivation while nothing goes on. -/
theorem stop_is_last_word_quiet :
    let s := state spokenCommands ([.activate, .lifecycle true] ++ deactivated ++ quieted)
    s.quiesced = true ∧ ∀ t, (s.execution.threads t).inTurn = false := by
  have hquiet : (state spokenCommands
      ([.activate, .lifecycle true] ++ deactivated ++ quieted)).quiesced = true := by
    decide +kernel
  refine ⟨hquiet, (stop_is_last_word spokenCommands _ ?_).2 hquiet⟩
  refine ⟨trivial, ?_, trivial, ?_, ?_, ?_, ?_, ?_, ?_, ?_, ?_, ?_, ?_, ?_, ?_, ?_, trivial⟩
  -- the steps of the lifecycle, the listing among them, and those of the call that publishes
  all_goals first
    | exact fun _ hno ↦ LifecyclePc.noConfusion hno
    | exact fun _ _ t hno ↦ Thread.noConfusion hno
    | refine fenced_alone fun caller hcaller ↦ ?_
      cases caller with
      | turn t => rfl
      | callback k => rfl
      | lifecycle => exact absurd rfl hcaller

/-- A command is checked before the cancellation or comes first after it; so does a turn. -/
theorem published_after_deactivation :
    ((state spokenCommands (commanded ++ [.register 0, .publishActions 0 [move]] ++
        List.replicate 2 (.publish (.turn 0) false) ++ deactivated ++
        [.publish (.turn 0) false])).sinceStop.map (·.map (·.name)) = some ["stop", "move"] ∧
      (state spokenCommands (commanded ++ [.register 0] ++ deactivated ++
        .publishActions 0 [move] :: List.replicate 3 (.publish (.turn 0) false))).sinceStop.map
          (·.map (·.name)) = some ["stop", "move"]) ∧
    ((state spokenCommands (commanded ++ deactivated ++ quieted)).quiesced = true ∧
      ((state spokenCommands (commanded ++ deactivated ++ quieted ++
        [.register 0])).execution.threads 0).inTurn = true) := by
  decide +kernel

end EmbodiedAgent.Agent.AgentLifecycle
