import EmbodiedAgent.Library.History
import EmbodiedAgent.Simulation.GoalSteps

namespace EmbodiedAgent.Simulation

open Library Library.History Library.Interleaving

namespace Nav2RobotExecutor

open scoped List

variable {e : Nav2RobotExecutor} {reading : Nav2Reading} {t t' : Nav2Task} {g : Nav2Goal}

def Due (phase : Nav2Goal → GoalPhase) : Nav2Task → Prop
  | .clearPending goal => phase goal = .rejected
  | .goalResponse _ _ | .makeResultAware _ | .cancelStale _ => False
  | _ => True

theorem Due.next {phase phase' : Nav2Goal → GoalPhase} (h : Due phase t)
    (hnext : ∀ g, phase' g = phase g ∨ (phase g).Next (phase' g)) : Due phase' t := by
  cases t with
  | clearPending goal =>
    replace h : phase goal = .rejected := h
    rcases hnext goal with hsame | hmoved
    · exact hsame.trans h
    · rw [h] at hmoved
      cases hmoved
  | _ => exact h

theorem due_called (hdue : Due e.phase t) (hcalled : t' ∈ (e.perform reading t).2.1) :
    Due (e.perform reading t).1.phase t' ∧
      ∀ goal, t' = .sendGoal goal → ∃ action, t = .bindGoal action := by
  have hcancel : ∀ (e : Nav2RobotExecutor) action phase, t' ∈ e.cancelHeld action →
      Due phase t' ∧ ∀ goal, t' = .sendGoal goal → ∃ action, t = .bindGoal action := by
    intro e action phase h
    obtain ⟨goal, -, rfl⟩ := List.mem_map.mp h
    exact ⟨trivial, fun _ h ↦ by cases h⟩
  cases t with
  | execute command =>
    simp only [perform, execute, sendTasks] at hcalled
    split_ifs at hcalled <;> simp at hcalled <;>
      (rcases hcalled with rfl | rfl <;> exact ⟨trivial, fun _ h ↦ by cases h⟩)
  | bindGoal action =>
    refine ⟨?_, fun _ _ ↦ ⟨action, rfl⟩⟩
    simp only [perform, bindGoal] at hcalled ⊢
    split_ifs at hcalled ⊢ <;> simp at hcalled <;> (rcases hcalled with rfl | rfl <;> trivial)
  | awaitResponse goal =>
    simp only [perform, awaitResponse] at hcalled
    cases hphase : e.phase goal with
    | unsent | bound | sent =>
      rw [hphase] at hcalled
      simp at hcalled
      rcases hcalled with rfl | rfl <;> exact ⟨trivial, fun _ h ↦ by cases h⟩
    | rejected =>
      rw [hphase] at hcalled
      simp at hcalled
      rcases hcalled with rfl | rfl
      · exact ⟨hphase, fun _ h ↦ by cases h⟩
      · exact ⟨trivial, fun _ h ↦ by cases h⟩
    | accepted | known | awaitingResult | settled =>
      rw [hphase] at hcalled
      simp at hcalled
      rw [hcalled]
      exact ⟨trivial, fun _ h ↦ by cases h⟩
  | requestStop requestedAt =>
    simp only [perform, requestStop] at hcalled
    split_ifs at hcalled
    · cases hcalled
    · cases hcalled
    · rcases List.mem_append.mp hcalled with h | h
      · exact hcancel _ _ _ h
      · exact hcancel _ _ _ h
  | requestCancel goal n =>
    obtain ⟨error, -, rfl⟩ := List.mem_map.mp hcalled
    exact ⟨trivial, fun _ h ↦ by cases h⟩
  | goalResponse | makeResultAware | cancelStale => exact hdue.elim
  | _ => cases hcalled

theorem count_called (hb : Booked e) (hdue : Due e.phase t) (reading : Nav2Reading) (g : Nav2Goal) :
    (e.perform reading t).2.1.count (.sendGoal g) = 0 ∨
      (e.perform reading t).2.1.count (.sendGoal g) = 1 ∧ e.phase g = .unsent ∧
        (e.perform reading t).1.phase g = .bound := by
  have hother : (∀ action, t ≠ .bindGoal action) →
      (e.perform reading t).2.1.count (.sendGoal g) = 0 := by
    intro hne
    refine List.count_eq_zero.mpr fun hcalled ↦ ?_
    obtain ⟨action, heq⟩ := (due_called hdue hcalled).2 g rfl
    exact hne action heq
  cases t with
  | bindGoal action =>
    simp only [perform, bindGoal]
    split_ifs
    · exact .inl rfl
    · rcases eq_or_ne g ⟨action, (e.channel action).generation + 1⟩ with rfl | hne
      · refine .inr ⟨by simp, hb.fresh _ (Nat.lt_succ_self _), ?_⟩
        rw [phase_bound, phase_withPhase_self]
      · refine .inl (List.count_eq_zero.mpr ?_)
        simp [hne]
  | _ => exact .inl (hother fun action h ↦ by cases h)

end Nav2RobotExecutor

namespace Nav2Threads

open Nav2RobotExecutor
open scoped List

variable {x : Nav2Threads} {g : Nav2Goal} {t : Nav2Task} {reading : Nav2Reading}

inductive Spinning (phase : Nav2Goal → GoalPhase) : List Nav2Task → Prop
  | idle : Spinning phase []
  | accepted (goal : Nav2Goal) (h : phase goal = .accepted) :
    Spinning phase [.goalResponse goal true, .makeResultAware goal]
  | rejected (goal : Nav2Goal) (h : phase goal = .rejected) :
    Spinning phase [.goalResponse goal false]
  | known (goal : Nav2Goal) (h : phase goal = .known) (lead : List Nav2Task)
    (hlead : ∀ t ∈ lead, ∃ g n, t = .requestCancel g n ∨ ∃ error,
      t = .cancelFailed g.action n error) :
    Spinning phase (lead ++ [.makeResultAware goal])

theorem Spinning.kept {phase phase' : Nav2Goal → GoalPhase} {tasks : List Nav2Task}
    (h : Spinning phase tasks)
    (hkept : ∀ g, phase g = .accepted ∨ phase g = .rejected ∨ phase g = .known →
      phase' g = phase g) : Spinning phase' tasks := by
  cases h with
  | idle => exact .idle
  | accepted goal h => exact .accepted goal ((hkept goal (.inl h)).trans h)
  | rejected goal h => exact .rejected goal ((hkept goal (.inr (.inl h))).trans h)
  | known goal h lead hlead =>
    exact .known goal ((hkept goal (.inr (.inr h))).trans h) lead hlead

/-- The tasks that are outstanding in any thread. -/
def due (x : Nav2Threads) : List Nav2Task := outstanding x.callers ++ x.spin

structure Accounted (x : Nav2Threads) : Prop where
  booked : Booked x.executor
  stops : Stops x.executor x.due
  called : ∀ t ∈ outstanding x.callers, Due x.executor.phase t
  once : ∀ g, (outstanding x.callers).count (.sendGoal g) ≤
    if x.executor.phase g = .bound then 1 else 0
  spinning : Spinning x.executor.phase x.spin

def initial (stopTimeout : ℤ) (places : List String) : Nav2Threads :=
  ⟨{ stopTimeout := stopTimeout, places := places }, [], []⟩

theorem accounted_initial (stopTimeout : ℤ) (places : List String) :
    Accounted (initial stopTimeout places) := by
  refine ⟨⟨?_, ?_, ?_, ?_, ?_⟩, Stops.of_quiesced rfl rfl, ?_, ?_, .idle⟩
  · exact fun g h ↦ by cases h
  · exact fun g h ↦ by cases h
  · exact fun g h ↦ by cases h
  · exact fun a a' h ↦ by cases a <;> cases h
  · exact fun _ _ ↦ rfl
  · exact fun t h ↦ by cases h
  · exact fun g ↦ Nat.zero_le _

theorem Accounted.ready (h : Accounted x) (ht : t ∈ outstanding x.callers) :
    Ready x.executor.phase t := by
  have hdue := h.called t ht
  cases t with
  | sendGoal goal =>
    have honce := h.once goal
    have hcount := List.count_pos_iff.mpr ht
    change x.executor.phase goal = .bound
    by_contra hphase
    rw [if_neg hphase] at honce
    omega
  | clearPending goal => exact hdue
  | goalResponse | makeResultAware => exact hdue.elim
  | _ => trivial

theorem accounted_advance (h : Accounted x) (i : ℕ) (reading : Nav2Reading) :
    Accounted (x.step (.advance i reading)).1 := by
  simp only [step]
  rcases advance_perm (fun (e : Nav2RobotExecutor) t ↦ e.perform reading t) x.executor x.callers i
    with ⟨hexecutor, hsame⟩ | ⟨t, rest, hnext, hbefore, hexecutor, hafter⟩
  · refine ⟨hexecutor.symm ▸ h.booked, ?_, ?_, ?_, hexecutor.symm ▸ h.spinning⟩
    · rw [due, hexecutor, hsame]
      exact h.stops
    · rw [hexecutor, hsame]
      exact h.called
    · rw [hexecutor, hsame]
      exact h.once
  · have hmem := mem_of_next hnext
    have hready := h.ready hmem
    have hdue := h.called t hmem
    have hphase := phase_perform h.booked reading hready
    refine ⟨?_, ?_, ?_, ?_, ?_⟩
    · rw [hexecutor]
      exact booked_perform h.booked hready
    · rw [due, hexecutor]
      refine stops_perform h.booked h.stops hready (fun t' ht' ↦ ?_) fun t' ht' ↦ ?_
      · rcases List.mem_append.mp ht' with hcall | hspin
        · rcases List.mem_cons.mp (hbefore.mem_iff.mp hcall) with rfl | hrest
          · exact .inl rfl
          · exact .inr (List.mem_append_left _
              (hafter.mem_iff.mpr (List.mem_append_right _ hrest)))
        · exact .inr (List.mem_append_right _ hspin)
      · exact List.mem_append_left _ (hafter.mem_iff.mpr (List.mem_append_left _ ht'))
    · intro t' ht'
      rw [hexecutor]
      rcases List.mem_append.mp (hafter.mem_iff.mp ht') with hcalled | hrest
      · exact (due_called hdue hcalled).1
      · exact (h.called t' (hbefore.mem_iff.mpr (List.mem_cons_of_mem _ hrest))).next
          fun g ↦ (hphase g).imp_right Moves.next
    · intro g
      have honce := h.once g
      have hcount := count_called h.booked hdue reading g
      rw [hexecutor, hafter.count_eq, List.count_append]
      rw [hbefore.count_eq, List.count_cons] at honce
      rcases hphase g with hsame | hmoves
      · rw [hsame]
        rcases hcount with hnone | ⟨-, hunsent, hbound⟩
        · omega
        · cases hunsent.symm.trans (hsame.symm.trans hbound)
      · generalize x.executor.phase g = p at hmoves honce hcount
        generalize (x.executor.perform reading t).1.phase g = q at hmoves ⊢
        cases hmoves with
        | bound =>
          simp only [reduceCtorEq, if_false, if_true] at honce ⊢
          omega
        | sent =>
          simp only [reduceCtorEq, if_false, if_true, false_and, and_false, or_false,
            beq_self_eq_true] at honce hcount ⊢
          omega
        | known => exact hdue.elim
        | awaitingResult => exact hdue.elim
    · rw [hexecutor]
      refine h.spinning.kept fun g hg ↦ (hphase g).resolve_right fun hmoves ↦ ?_
      generalize x.executor.phase g = p at hmoves hg
      generalize (x.executor.perform reading t).1.phase g = q at hmoves
      cases hmoves with
      | bound => simp at hg
      | sent => simp at hg
      | known => exact hdue
      | awaitingResult => exact hdue

theorem Accounted.of_sent (h : Accounted x) {e : Nav2RobotExecutor} {spin : List Nav2Task}
    (hphase : ∀ g, e.phase g = x.executor.phase g ∨
      (x.executor.phase g).Next (e.phase g) ∧ x.executor.phase g ≠ .unsent ∧
        x.executor.phase g ≠ .bound)
    (hbooked : Booked e) (hstops : Stops e (outstanding x.callers ++ spin))
    (hspinning : Spinning e.phase spin) : Accounted { x with executor := e, spin := spin } := by
  refine ⟨hbooked, hstops, fun t ht ↦ ?_, fun g ↦ ?_, hspinning⟩
  · exact (h.called t ht).next fun g ↦ (hphase g).imp_right And.left
  · have honce := h.once g
    rcases hphase g with hsame | ⟨-, -, hbound⟩
    · rw [hsame]
      exact honce
    · rw [if_neg hbound] at honce
      exact honce.trans (Nat.zero_le _)

theorem spinning_spin {e : Nav2RobotExecutor} {rest : List Nav2Task} (hb : Booked e)
    (h : Spinning e.phase (t :: rest)) (reading : Nav2Reading) : Ready e.phase t ∧
      ((∀ action, t ≠ .bindGoal action) ∧ ∀ goal, t ≠ .sendGoal goal) ∧
      Spinning (e.perform reading t).1.phase ((e.perform reading t).2.1 ++ rest) := by
  generalize htasks : t :: rest = tasks at h
  cases h with
  | idle => cases htasks
  | accepted goal hphase =>
    obtain ⟨rfl, rfl⟩ := List.cons.inj htasks
    refine ⟨hphase, ⟨fun _ h ↦ (by cases h), fun _ h ↦ (by cases h)⟩, ?_⟩
    refine .known goal ?_ _ fun t ht ↦ ?_
    · rw [perform, (goalResponse_same e goal true).2, phase_responded, if_pos rfl,
        phase_withPhase_self]
    · have hcurrent := hb.current goal (by rw [hphase]; rfl)
      simp only [perform, goalResponse, ne_eq, hcurrent, not_true, if_false, if_true] at ht
      split_ifs at ht
      · exact ⟨goal, _, .inl (List.mem_singleton.mp ht)⟩
      · cases ht
  | rejected goal hphase =>
    obtain ⟨rfl, rfl⟩ := List.cons.inj htasks
    refine ⟨hphase, ⟨fun _ h ↦ (by cases h), fun _ h ↦ (by cases h)⟩, ?_⟩
    have hcalled : (e.goalResponse goal false).2 = [] := by
      simp only [goalResponse, Bool.false_eq_true, if_false]
      split_ifs <;> rfl
    rw [perform, hcalled]
    exact .idle
  | known goal hphase lead hlead =>
    cases lead with
    | nil =>
      obtain ⟨rfl, rfl⟩ := List.cons.inj htasks
      exact ⟨hphase, ⟨fun _ h ↦ (by cases h), fun _ h ↦ (by cases h)⟩, .idle⟩
    | cons task lead =>
      rw [List.cons_append] at htasks
      obtain ⟨rfl, rfl⟩ := List.cons.inj htasks
      obtain ⟨g, n, rfl | ⟨error, rfl⟩⟩ := hlead t List.mem_cons_self
      · refine ⟨trivial, ⟨fun _ h ↦ (by cases h), fun _ h ↦ (by cases h)⟩, ?_⟩
        rw [← List.append_assoc]
        refine .known goal hphase _ fun t ht ↦ ?_
        rcases List.mem_append.mp ht with hcalled | hlater
        · obtain ⟨error, -, rfl⟩ := List.mem_map.mp hcalled
          exact ⟨g, n, .inr ⟨error, rfl⟩⟩
        · exact hlead t (List.mem_cons_of_mem _ hlater)
      · refine ⟨trivial, ⟨fun _ h ↦ (by cases h), fun _ h ↦ (by cases h)⟩, ?_⟩
        rw [perform, (cancelFailed_same e g.action n error).2]
        exact .known goal hphase lead fun t ht ↦ hlead t (List.mem_cons_of_mem _ ht)

theorem accounted_spin (h : Accounted x) (reading : Nav2Reading) :
    Accounted (x.step (.spin reading)).1 := by
  have hspinning := h.spinning
  have hstops := h.stops
  simp only [step]
  cases hspin : x.spin with
  | nil => exact h
  | cons task rest =>
    rw [hspin] at hspinning
    rw [due, hspin] at hstops
    obtain ⟨hready, hmoves, hnew⟩ := spinning_spin h.booked hspinning reading
    refine h.of_sent (fun g ↦ ?_) (booked_perform h.booked hready) ?_ hnew
    · refine (phase_perform h.booked reading hready g).imp_right fun hm ↦ ⟨hm.next, ?_⟩
      generalize x.executor.phase g = p at hm
      generalize (x.executor.perform reading task).1.phase g = q at hm
      cases hm with
      | bound => exact (hmoves.1 _ rfl).elim
      | sent => exact (hmoves.2 _ rfl).elim
      | known => exact ⟨nofun, nofun⟩
      | awaitingResult => exact ⟨nofun, nofun⟩
    · refine stops_perform h.booked hstops hready (fun t' ht' ↦ ?_) fun t' ht' ↦ ?_
      · rcases List.mem_append.mp ht' with hcall | htask
        · exact .inr (List.mem_append_left _ hcall)
        · rcases List.mem_cons.mp htask with rfl | hrest
          · exact .inl rfl
          · exact .inr (List.mem_append_right _ (List.mem_append_right _ hrest))
      · exact List.mem_append_right _ (List.mem_append_left _ ht')

theorem accounted_call (h : Accounted x) (call : Nav2Call) : Accounted (x.step (.call call)).1 := by
  have hcallers : outstanding (x.callers ++ [⟨(), [call.task]⟩]) =
      outstanding x.callers ++ [call.task] := by
    simp [outstanding]
  have hplain : Due x.executor.phase call.task ∧ ∀ g, call.task ≠ .sendGoal g := by
    cases call <;> exact ⟨trivial, fun g h ↦ by cases h⟩
  refine ⟨h.booked, ?_, fun t ht ↦ ?_, fun g ↦ ?_, h.spinning⟩
  · refine h.stops.kept rfl Iff.rfl fun g hg ↦ ⟨hg, ?_⟩
    refine Or.imp_right (Or.imp_right (Exists.imp fun n hdue ↦ ?_))
    simp only [due, step, hcallers]
    rcases List.mem_append.mp hdue with hcall | hspin
    · exact List.mem_append_left _ (List.mem_append_left _ hcall)
    · exact List.mem_append_right _ hspin
  · simp only [step, hcallers] at ht
    rcases List.mem_append.mp ht with hold | hnew
    · exact h.called t hold
    · rw [List.mem_singleton.mp hnew]
      exact hplain.1
  · simp only [step, hcallers, List.count_append]
    rw [List.count_eq_zero.mpr fun hmem ↦ hplain.2 g (List.mem_singleton.mp hmem).symm]
    exact h.once g

theorem accounted_respond (h : Accounted x) (goal : Nav2Goal) (accepted : Bool) :
    Accounted (x.step (.respond goal accepted)).1 := by
  simp only [step]
  split_ifs with hguard
  · obtain ⟨hspin, hsent⟩ := hguard
    have hstops := h.stops
    rw [due, hspin] at hstops
    have hmove : ∀ {p : GoalPhase}, GoalPhase.sent.Next p → ∀ g,
        (x.executor.withPhase goal p).phase g = x.executor.phase g ∨
          (x.executor.phase g).Next ((x.executor.withPhase goal p).phase g) ∧
            x.executor.phase g ≠ .unsent ∧ x.executor.phase g ≠ .bound := by
      intro p hp g
      rw [phase_withPhase]
      split_ifs with hsame
      · rw [hsame, hsent]
        exact .inr ⟨hp, nofun, nofun⟩
      · exact .inl rfl
    have hbooked : ∀ {p : GoalPhase}, p.held = false →
        Booked (x.executor.withPhase goal p) := by
      intro p hp
      refine h.booked.withPhase ?_ (fun _ ↦ h.booked.current goal ?_)
        (fun _ ↦ h.booked.waiting goal ?_) fun hheld ↦ ?_
      · rw [hsent]
        exact nofun
      · rw [hsent]
        rfl
      · rw [hsent]
        rfl
      · cases hp.symm.trans hheld
    have hkept : ∀ {p : GoalPhase} {tasks : List Nav2Task},
      (p.unsettled = true → p.waiting = true) →
        Stops (x.executor.withPhase goal p) (outstanding x.callers ++ tasks) := by
      intro p tasks hp
      refine hstops.withPhase (fun _ ↦ ?_) (fun _ ↦ hp) fun t ht _ _ _ ↦ ?_
      · rw [hsent]
        rfl
      · exact List.mem_append_left _ ((List.mem_append.mp ht).resolve_right nofun)
    cases accepted with
    | true =>
      exact h.of_sent (hmove .accepted) (hbooked rfl) (hkept fun _ ↦ rfl)
        (.accepted goal (phase_withPhase_self _ _))
    | false =>
      exact h.of_sent (hmove .rejected) (hbooked rfl) (hkept nofun)
        (.rejected goal (phase_withPhase_self _ _))
  · exact h

theorem accounted_result (h : Accounted x) (goal : Nav2Goal) (detail : String) :
    Accounted (x.step (.result goal detail)).1 := by
  simp only [step]
  split_ifs with hguard
  · obtain ⟨hspin, hphase⟩ := hguard
    have hsame := result_same x.executor goal detail
    rw [phase_released] at hsame
    refine Accounted.of_sent (e := x.executor.result goal detail) h (fun g ↦ ?_) ?_ ?_ ?_
    · rw [hsame.2, phase_withPhase]
      split_ifs with hg
      · rw [hg, hphase]
        exact .inr ⟨.settled, nofun, nofun⟩
      · exact .inl rfl
    · exact (booked_released h.booked hphase).congr (result_same x.executor goal detail).1
        (result_same x.executor goal detail).2
    · have hstop := sameStop_released x.executor goal
      have hkept : Stops (x.executor.released goal) x.due := by
        refine h.stops.kept hstop.requested (by rw [hstop.state]) fun g hg ↦ ?_
        rw [phase_released, phase_withPhase] at hg
        split_ifs at hg with hsame
        · cases hg
        · refine ⟨hg, Or.imp (fun h ↦ ⟨?_, ?_⟩) (Or.imp_left fun h ↦ ?_)⟩
          · rw [phase_released, phase_withPhase, if_neg hsame]
            exact h.1
          · rw [hstop.requested]
            exact h.2
          · rw [hstop.cancels]
            exact h
      simp only [result]
      split_ifs
      · exact Stops.of_quiesced rfl rfl
      · exact hkept
    · rw [hspin]
      exact .idle
  · exact h

theorem accounted_cancelResponse (h : Accounted x) (action : Nav2Action) (n : ℕ)
    (accepted : Bool) : Accounted (x.step (.cancelResponse action n accepted)).1 := by
  simp only [step]
  split_ifs with hspin
  · have hsame := cancelResponse_same x.executor action n accepted
    refine Accounted.of_sent (e := x.executor.cancelResponse action n accepted) h (fun g ↦ ?_)
      ?_ ?_ ?_
    · rw [hsame.2]
      exact .inl rfl
    · exact h.booked.congr hsame.1 hsame.2
    · unfold cancelResponse
      split_ifs with hstale
      · exact h.stops
      · refine h.stops.withStopState ?_ nofun fun _ ↦ id
        intro hquiesced
        exact hstale (.inr (.inr fun hstopping ↦ by cases hstopping.symm.trans hquiesced))
      · exact h.stops
    · rw [hspin]
      exact .idle
  · exact h

theorem accounted_step (h : Accounted x) (event : Nav2Event) : Accounted (x.step event).1 := by
  cases event with
  | call call => exact accounted_call h call
  | advance i reading => exact accounted_advance h i reading
  | respond goal accepted => exact accounted_respond h goal accepted
  | result goal detail => exact accounted_result h goal detail
  | cancelResponse action n accepted => exact accounted_cancelResponse h action n accepted
  | spin reading => exact accounted_spin h reading

inductive Told (e : Nav2RobotExecutor) : Nav2RobotExecutor → Prop
  | nothing : Told e e
  | response {goal : Nav2Goal} {p : GoalPhase} (hphase : e.phase goal = .sent)
    (hp : GoalPhase.sent.Next p) : Told e (e.withPhase goal p)
  | result {goal : Nav2Goal} (detail : String) (hphase : e.phase goal = .awaitingResult) :
    Told e (e.result goal detail)
  | cancelResponse (action : Nav2Action) (n : ℕ) (accepted : Bool) :
    Told e (e.cancelResponse action n accepted)

theorem step_cases (h : Accounted x) (event : Nav2Event) : (∃ t reading, Ready x.executor.phase t ∧
      (x.step event).1.executor = (x.executor.perform reading t).1 ∧
      ∀ t' ∈ x.due, t' = t ∨ t' ∈ (x.step event).1.due) ∨
    Told x.executor (x.step event).1.executor ∧ ∀ t ∈ x.due, t ∈ (x.step event).1.due := by
  cases event with
  | call call =>
    refine .inr ⟨.nothing, fun t ht ↦ ?_⟩
    simp only [due, step, outstanding, List.flatMap_append, List.append_assoc]
    rcases List.mem_append.mp ht with hcall | hspin
    · exact List.mem_append_left _ hcall
    · exact List.mem_append_right _ (List.mem_append_right _ hspin)
  | advance i reading =>
    simp only [step]
    rcases advance_perm (fun (e : Nav2RobotExecutor) t ↦ e.perform reading t) x.executor
      x.callers i with ⟨hexecutor, hsame⟩ | ⟨t, rest, hnext, hbefore, hexecutor, hafter⟩
    · refine .inr ⟨?_, ?_⟩
      · rw [hexecutor]
        exact .nothing
      · rw [due, due, hsame]
        exact fun _ ↦ id
    · refine .inl ⟨t, reading, h.ready (mem_of_next hnext), hexecutor, fun t' ht' ↦ ?_⟩
      rcases List.mem_append.mp ht' with hcall | hspin
      · refine (List.mem_cons.mp (hbefore.mem_iff.mp hcall)).imp_right fun hrest ↦ ?_
        exact List.mem_append_left _ (hafter.mem_iff.mpr (List.mem_append_right _ hrest))
      · exact .inr (List.mem_append_right _ hspin)
  | respond goal accepted =>
    simp only [step]
    split_ifs with hguard
    · have hdue : x.due = outstanding x.callers ++ [] := by rw [due, hguard.1]
      rw [hdue]
      have hmem : ∀ tasks, ∀ t ∈ outstanding x.callers ++ [], t ∈ outstanding x.callers ++ tasks :=
        fun tasks t ht ↦ List.mem_append_left _
          ((List.mem_append.mp ht).resolve_right List.not_mem_nil)
      cases accepted with
      | true => exact .inr ⟨.response hguard.2 .accepted, hmem _⟩
      | false => exact .inr ⟨.response hguard.2 .rejected, hmem _⟩
    · exact .inr ⟨.nothing, fun _ ↦ id⟩
  | result goal detail =>
    simp only [step]
    split_ifs with hguard
    · exact .inr ⟨.result detail hguard.2, fun _ ↦ id⟩
    · exact .inr ⟨.nothing, fun _ ↦ id⟩
  | cancelResponse action n accepted =>
    simp only [step]
    split_ifs
    · exact .inr ⟨.cancelResponse action n accepted, fun _ ↦ id⟩
    · exact .inr ⟨.nothing, fun _ ↦ id⟩
  | spin reading =>
    have hspinning := h.spinning
    simp only [step]
    cases hspin : x.spin with
    | nil => exact .inr ⟨.nothing, fun _ ↦ id⟩
    | cons task rest =>
      rw [hspin] at hspinning
      refine .inl ⟨task, reading, (spinning_spin h.booked hspinning reading).1, rfl,
        fun t' ht' ↦ ?_⟩
      rw [due, hspin] at ht'
      rcases List.mem_append.mp ht' with hcall | htask
      · exact .inr (List.mem_append_left _ hcall)
      · refine (List.mem_cons.mp htask).imp_right fun hrest ↦ ?_
        exact List.mem_append_right _ (List.mem_append_right _ hrest)

theorem phase_step (h : Accounted x) (event : Nav2Event) (g : Nav2Goal) :
    (x.step event).1.executor.phase g = x.executor.phase g ∨
      (x.executor.phase g).Next ((x.step event).1.executor.phase g) := by
  rcases step_cases h event with ⟨t, reading, hready, hexecutor, -⟩ | ⟨htold, -⟩
  · rw [hexecutor]
    exact (phase_perform h.booked reading hready g).imp_right Moves.next
  · generalize (x.step event).1.executor = e at htold
    have hmove : ∀ {goal p q}, x.executor.phase goal = p → p.Next q →
        (x.executor.withPhase goal q).phase g = x.executor.phase g ∨
          (x.executor.phase g).Next ((x.executor.withPhase goal q).phase g) := by
      intro goal p q hp hnext
      rw [phase_withPhase]
      split_ifs with hsame
      · rw [hsame, hp]
        exact .inr hnext
      · exact .inl rfl
    cases htold with
    | nothing => exact .inl rfl
    | response hphase hp => exact hmove hphase hp
    | result detail hphase =>
      rw [(result_same _ _ detail).2, phase_released]
      exact hmove hphase .settled
    | cancelResponse action n accepted =>
      rw [(cancelResponse_same _ action n accepted).2]
      exact .inl rfl

theorem chased_step (h : Accounted x) (event : Nav2Event) (hg : Chased x.executor x.due g) :
    Chased (x.step event).1.executor (x.step event).1.due g := by
  rcases step_cases h event with ⟨t, reading, hready, hexecutor, hdue⟩ | ⟨htold, hdue⟩
  · rw [hexecutor]
    exact hg.perform hdue
  · have hcancels : (x.step event).1.executor.cancelRequests = x.executor.cancelRequests := by
      generalize (x.step event).1.executor = e at htold
      cases htold with
      | nothing => rfl
      | response => rfl
      | result detail =>
        unfold result
        dsimp only
        split_ifs <;> exact (sameStop_released _ _).cancels
      | cancelResponse =>
        unfold cancelResponse
        split_ifs <;> rfl
    rcases hg with hrequested | ⟨n, hlater⟩
    · exact .inl (hcancels.symm ▸ hrequested)
    · exact .inr ⟨n, hdue _ hlater⟩

theorem stopState_step (h : Accounted x) (event : Nav2Event)
    (hstate : x.executor.stopState ≠ .quiesced) (hold : x.executor.phase g ≠ .unsent)
    (hg : ((x.step event).1.executor.phase g).unsettled = true) :
    (x.step event).1.executor.stopState ≠ .quiesced := by
  have hunsettled := (accounted_step h event).booked.hasUnsettledGoal hg
  rcases step_cases h event with ⟨t, reading, hready, hexecutor, -⟩ | ⟨htold, -⟩
  · rw [hexecutor] at hg ⊢
    exact stop_kept h.booked hready hstate hg hold
  · generalize (x.step event).1.executor = e at htold hunsettled
    cases htold with
    | nothing => exact hstate
    | response => exact hstate
    | @result goal detail =>
      have hsame := (sameStop_released x.executor goal).state
      simp only [result] at hunsettled ⊢
      split_ifs at hunsettled ⊢ with hlast
      · cases hlast.2.2.symm.trans hunsettled
      · exact hsame ▸ hstate
    | cancelResponse =>
      unfold cancelResponse
      split_ifs
      · exact hstate
      · exact nofun
      · exact hstate

theorem accounted_run (h : Accounted x) (events : List Nav2Event) : Accounted (run step x events) :=
  run_preserves step (I := Accounted) (fun _ event h ↦ accounted_step h event) h events

def Stopping (g : Nav2Goal) (x : Nav2Threads) : Prop :=
  (x.executor.phase g).unsettled = true ∧ x.executor.stopState ≠ .quiesced ∨
    (x.executor.phase g = .settled ∧ Chased x.executor x.due g) ∨ x.executor.phase g = .rejected

theorem stopping_requested (h : Accounted x) {i : ℕ} {requestedAt : ℤ}
    (hnext : next x.callers i = some (.requestStop requestedAt))
    (hg : (x.executor.phase g).unsettled = true) : Stopping g (x.step (.advance i reading)).1 := by
  have hunsettled := h.booked.hasUnsettledGoal hg
  obtain ⟨callback, hcallback, hhead⟩ := Option.bind_eq_some_iff.mp hnext
  have hexecutor : (x.step (.advance i reading)).1.executor =
      (x.executor.requestStop requestedAt).1 := by
    cases htasks : callback.tasks with
    | nil => rw [htasks] at hhead; cases hhead
    | cons task rest =>
      rw [htasks, List.head?_cons, Option.some_inj] at hhead
      simp [step, advance, hcallback, htasks, hhead, perform]
  refine .inl ?_
  rw [hexecutor, phase_requestStop]
  refine ⟨hg, ?_⟩
  unfold requestStop
  dsimp only
  split_ifs with hunder hnone
  · rcases hunder with hstopping | ⟨hfailed | htimeout, -⟩
    · rw [hstopping]
      exact fun h ↦ by cases h
    · rw [hfailed]
      exact fun h ↦ by cases h
    · rw [htimeout]
      exact fun h ↦ by cases h
  · have hsame := hasUnsettledGoal_congr (e := x.executor) rfl rfl
    cases ((Bool.not_eq_true' _).mp hnone).symm.trans (hsame.trans hunsettled)
  · exact fun h ↦ by cases h

theorem stopping_step (h : Accounted x) (event : Nav2Event) (hg : Stopping g x) :
    Stopping g (x.step event).1 := by
  have hphase := phase_step h event g
  rcases hg with ⟨hunsettled, hstate⟩ | ⟨hsettled, hchased⟩ | hrejected
  · have hold : x.executor.phase g ≠ .unsent := by
      intro hunsent
      rw [hunsent] at hunsettled
      cases hunsettled
    rcases Bool.eq_false_or_eq_true
      ((x.step event).1.executor.phase g).unsettled with hlater | hlater
    · exact .inl ⟨hlater, stopState_step h event hstate hold hlater⟩
    · -- the goal leaves the account: rejected, or by its result
      have hpursued := h.stops.pursued hstate g hunsettled
      rcases hphase with hsame | hnext
      · rw [hsame, hunsettled] at hlater
        cases hlater
      · rw [Stopping]
        rw [Pursued] at hpursued
        generalize x.executor.phase g = p at hnext hpursued hunsettled
        generalize (x.step event).1.executor.phase g = q at hnext hlater ⊢
        cases hnext with
        | rejected => exact .inr (.inr rfl)
        | settled =>
          exact .inr (.inl ⟨rfl, chased_step h event (hpursued.resolve_left nofun)⟩)
        | bound => cases hunsettled
        | _ => cases hlater
  · rw [hsettled] at hphase
    refine .inr (.inl ⟨hphase.resolve_right nofun, chased_step h event hchased⟩)
  · rw [hrejected] at hphase
    exact .inr (.inr (hphase.resolve_right nofun))

theorem goals_accounted (stopTimeout : ℤ) (places : List String) (h : List Nav2Event) :
    let x := run step (initial stopTimeout places) h
    (∀ g g', (x.executor.phase g).outstanding = true → (x.executor.phase g').outstanding = true →
      g = g') ∧
    (x.executor.isQuiesced = true → ∀ g, x.executor.phase g ≠ .unsent →
      x.executor.phase g ≠ .bound →
      x.executor.phase g = .rejected ∨ x.executor.phase g = .settled) ∧
    ∀ pre i reading post requestedAt, h = pre ++ .advance i reading :: post →
      next (run step (initial stopTimeout places) pre).callers i =
        some (.requestStop requestedAt) →
      ∀ g, ((run step (initial stopTimeout places) pre).executor.phase g).unsettled = true →
        ((x.executor.phase g).seen = true →
          g ∈ x.executor.cancelRequests ∨ ∃ n, .requestCancel g n ∈ x.due) ∧
        ((x.executor.phase g).unsettled = true →
          ∀ now, (x.executor.pollStop now).2.succeeded = false) := by
  intro x
  have hx : Accounted x := accounted_run (accounted_initial stopTimeout places) h
  refine ⟨fun g g' hg hg' ↦ ?_, fun hquiesced g hsent hbound ↦ ?_, ?_⟩
  · exact hx.booked.unique (Bool.and_eq_true_iff.mp hg).1 (Bool.and_eq_true_iff.mp hg').1
  · have hnone : x.executor.hasUnsettledGoal = false := by
      rw [isQuiesced, Bool.and_eq_true, Bool.not_eq_true'] at hquiesced
      exact hquiesced.1
    have hsettled := hx.booked.none_unsettled hnone g
    generalize x.executor.phase g = p at hsent hbound hsettled ⊢
    cases p with
    | unsent => exact (hsent rfl).elim
    | rejected => exact .inl rfl
    | settled => exact .inr rfl
    | _ => cases hsettled
  · rintro pre i reading post requestedAt rfl hnext g hg
    have hpre := accounted_run (accounted_initial stopTimeout places) pre
    have hstopping : Stopping g x := by
      have hrun : x = run step ((run step (initial stopTimeout places) pre).step
          (.advance i reading)).1 post := by
        simp only [x, run_append, run_cons]
      rw [hrun]
      refine (run_preserves step (I := fun x ↦ Accounted x ∧ Stopping g x) ?_ ⟨?_, ?_⟩ post).2
      · exact fun _ event h ↦ ⟨accounted_step h.1 event, stopping_step h.1 event h.2⟩
      · exact accounted_step hpre _
      · exact stopping_requested hpre hnext hg
    refine ⟨fun hseen ↦ ?_, fun hunsettled now ↦ ?_⟩
    · rcases hstopping with ⟨hunsettled, hstate⟩ | ⟨-, hchased⟩ | hrejected
      · refine (hx.stops.pursued hstate g hunsettled).resolve_left fun hwaiting ↦ ?_
        generalize x.executor.phase g = p at hseen hwaiting
        cases p <;> first | exact absurd hseen (by decide) | exact absurd hwaiting.1 (by decide)
      · exact hchased
      · rw [hrejected] at hseen
        cases hseen
    · have hstate : x.executor.stopState ≠ .quiesced := by
        rcases hstopping with ⟨-, hstate⟩ | ⟨hsettled, -⟩ | hrejected
        · exact hstate
        · rw [hsettled] at hunsettled
          cases hunsettled
        · rw [hrejected] at hunsettled
          cases hunsettled
      unfold pollStop StopExecutionUpdate.succeeded
      dsimp only
      split_ifs
      · rfl
      · exact decide_eq_false hstate

/-- A goal is sent and accepted, and a stop requested. -/
def driving : List Nav2Event :=
  [.call (.execute { actionType := RobotCommand.navigateTo, target := "dock" }), .advance 0 {},
    .advance 0 {}, .advance 0 {}, .respond ⟨.navigateToPose, 1⟩ true, .spin {}, .spin {},
    .call (.requestStop 5)]

theorem goals_accounted_stopped : ⟨.navigateToPose, 1⟩ ∈ (run step (initial 10 ["dock"])
        (driving ++ .advance 1 {} :: [])).executor.cancelRequests ∨
      ∃ n, .requestCancel ⟨.navigateToPose, 1⟩ n ∈
        (run step (initial 10 ["dock"]) (driving ++ .advance 1 {} :: [])).due := by
  have hreached := (goals_accounted 10 ["dock"] (driving ++ .advance 1 {} :: [])).2.2 driving 1 {}
    [] 5 rfl (by decide) ⟨.navigateToPose, 1⟩ (by decide)
  exact hreached.1 (by decide)

/-- A command waits for its server while a stop is requested, and then sends its goal. -/
theorem stop_succeeds_while_driving : ∃ (h : List Nav2Event) (g : Nav2Goal),
      ((run step (initial 10 ["dock"]) h).executor.phase g).outstanding = true ∧
      ((run step (initial 10 ["dock"]) h).executor.pollStop 20).2.succeeded = true :=
  ⟨[.call (.execute { actionType := RobotCommand.navigateTo, target := "dock" }), .advance 0 {},
    .call (.requestStop 5), .advance 1 {}, .advance 0 {}, .advance 0 {}],
    ⟨.navigateToPose, 1⟩, by decide, by decide⟩

end Nav2Threads

end EmbodiedAgent.Simulation
