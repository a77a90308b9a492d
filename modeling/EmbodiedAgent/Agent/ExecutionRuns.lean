import EmbodiedAgent.Agent.Execution

namespace EmbodiedAgent.Agent.Execution

open Library History CommandExecutionTracker

variable {runtime : AgentExecutionRuntime}

def WorkerPc.inTurn : WorkerPc → Bool
  | .begun _ | .preparing _ | .executing _ | .ended _ _ | .reporting _ | .releasing _ _ => true
  | _ => false

def BackgroundPc.inTurn : BackgroundPc → Bool
  | .executing | .reporting | .finishing => true
  | _ => false

/-- The thread executes a turn. -/
def Thread.inTurn : Thread → Bool
  | .worker pc _ => pc.inTurn
  | .background pc => pc.inTurn
  | _ => false

/-- The thread has the turn, or will have it once it is registered. -/
def Thread.holds : Thread → Bool
  | .claimed => true
  | thread => thread.inTurn

def Thread.lively : Thread → Bool
  | .claimed => true
  | thread => thread.alive

theorem Thread.lively_of_holds {thread : Thread} (h : thread.holds = true) :
    thread.lively = true := by
  cases thread with
  | unborn => cases h
  | claimed => rfl
  | background pc => cases pc <;> first | rfl | cases h
  | worker pc log => cases pc <;> first | rfl | cases h

theorem Thread.holds_of_inTurn {thread : Thread} (h : thread.inTurn = true) :
    thread.holds = true := by
  cases thread with
  | unborn => cases h
  | claimed => rfl
  | background pc => exact h
  | worker pc log => exact h

inductive Turnover : Bool → Bool → Bool → Bool → Prop
  | keep (held busy : Bool) : Turnover held held busy busy
  | take : Turnover false true false true
  | give (busy : Bool) : Turnover true false busy false

structure Moved (s s' : State) (t : ℕ) (thread : Thread) : Prop where
  threads : s'.threads = Function.update s.threads t thread
  turn : Turnover (s.threads t).holds thread.holds s.busy s'.busy

structure Exclusive (s : State) : Prop where
  unique : ∀ t t', (s.threads t).holds = true → (s.threads t').holds = true → t = t'
  busy : s.busy = true ↔ ∃ t, (s.threads t).holds = true

theorem Moved.apart {s s' : State} {t i : ℕ} {thread : Thread} (hm : Moved s s' t thread)
    (hi : i ≠ t) : s'.threads i = s.threads i := by
  rw [hm.threads, Function.update_of_ne hi]

theorem Moved.self {s s' : State} {t : ℕ} {thread : Thread} (hm : Moved s s' t thread) :
    s'.threads t = thread := by
  rw [hm.threads, Function.update_self]

theorem Exclusive.moved {s s' : State} {t : ℕ} {thread : Thread} (he : Exclusive s)
    (hm : Moved s s' t thread) : Exclusive s' := by
  have hself := hm.self
  have hturn := hm.turn
  generalize hheld : (s.threads t).holds = held at hturn
  generalize hheld' : thread.holds = held' at hturn
  generalize hbusy : s.busy = busy at hturn
  generalize hbusy' : s'.busy = busy' at hturn
  cases hturn with
  | keep =>
    have hsame (i : ℕ) : (s'.threads i).holds = (s.threads i).holds := by
      by_cases hi : i = t
      · rw [hi, hself, hheld, hheld']
      · rw [hm.apart hi]
    refine ⟨fun i j hi hj ↦ he.unique i j ?_ ?_, ?_⟩
    · rwa [← hsame]
    · rwa [← hsame]
    · simp only [hsame, hbusy', ← hbusy, he.busy]
  | take =>
    have hnone (i : ℕ) : ¬ (s.threads i).holds = true := by
      intro hi
      have hset := he.busy.mpr ⟨i, hi⟩
      rw [hbusy] at hset
      cases hset
    have honly (i : ℕ) (hi : (s'.threads i).holds = true) : i = t := by
      by_contra hne
      rw [hm.apart hne] at hi
      exact hnone i hi
    refine ⟨fun i j hi hj ↦ (honly i hi).trans (honly j hj).symm, ?_⟩
    exact ⟨fun _ ↦ ⟨t, by rw [hself, hheld']⟩, fun _ ↦ hbusy'⟩
  | give =>
    have hnone (i : ℕ) : ¬ (s'.threads i).holds = true := by
      intro hi
      by_cases hit : i = t
      · rw [hit, hself, hheld'] at hi
        cases hi
      · rw [hm.apart hit] at hi
        exact hit (he.unique i t hi hheld)
    refine ⟨fun i j hi _ ↦ absurd hi (hnone i), ?_⟩
    rw [hbusy']
    exact ⟨fun h ↦ Bool.noConfusion h, fun ⟨i, hi⟩ ↦ absurd hi (hnone i)⟩

section Steps

variable {s : State} {t : ℕ} {reading : Double} {e : TurnEnd}

theorem workerStep_turn (pc : WorkerPc) :
    Turnover pc.inTurn (workerStep runtime pc reading e s).1.inTurn s.busy
      (workerStep runtime pc reading e s).2.2.busy := by
  cases pc with
  | polling =>
    simp only [workerStep]
    split_ifs <;> exact .keep _ _
  | getting =>
    simp only [workerStep]
    split
    · exact .keep _ _
    · split_ifs <;> exact .keep _ _
  | got item =>
    simp only [workerStep]
    split_ifs <;> exact .keep _ _
  | waiting item =>
    simp only [workerStep]
    split_ifs <;> exact .keep _ _
  | taking item =>
    simp only [workerStep]
    split_ifs with hbusy
    · exact .keep _ _
    · rw [Bool.not_eq_true] at hbusy
      rw [hbusy]
      exact .take
  | begun item => exact .keep _ _
  | preparing item => cases e <;> exact .keep _ _
  | executing item => exact .keep _ _
  | ended item e =>
    rcases e with _ | (_ | text) | (_ | text) | _ <;> exact .keep _ _
  | reporting item => exact .keep _ _
  | releasing item survives => exact .give _
  | released item survives => cases survives <;> exact .keep _ _
  | declining item => exact .keep _ _
  | dead => exact .keep _ _

theorem backgroundStep_turn (pc : BackgroundPc) :
    Turnover pc.inTurn (backgroundStep t pc e s).1.inTurn s.busy
      (backgroundStep t pc e s).2.busy := by
  cases pc with
  | executing => cases e <;> exact .keep _ _
  | reporting => exact .keep _ _
  | finishing => exact .give _
  | discarding => exact .keep _ _
  | dead => exact .keep _ _

theorem workerStep_frame (pc : WorkerPc) : ∃ busy items,
    (workerStep runtime pc reading e s).2.2 = { s with busy := busy, items := items } := by
  cases pc with
  | getting =>
    simp only [workerStep]
    split
    · exact ⟨_, _, rfl⟩
    · split_ifs <;> exact ⟨_, _, rfl⟩
  | taking item =>
    simp only [workerStep]
    split_ifs
    · exact ⟨_, _, rfl⟩
    · exact ⟨_, _, rfl⟩
  | preparing item => cases e <;> exact ⟨_, _, rfl⟩
  | _ => exact ⟨_, _, rfl⟩

theorem backgroundStep_frame (pc : BackgroundPc) : ∃ busy background,
    (backgroundStep t pc e s).2 = { s with busy := busy, background := background } ∧
      ∀ i ∈ s.background, i ∈ background ∨ i = t ∧ (backgroundStep t pc e s).1 = .dead := by
  cases pc with
  | executing => cases e <;> exact ⟨_, _, rfl, fun i hi ↦ .inl hi⟩
  | discarding =>
    refine ⟨_, _, rfl, fun i hi ↦ ?_⟩
    by_cases hit : i = t
    · exact .inr ⟨hit, rfl⟩
    · exact .inl (List.mem_filter.mpr ⟨hi, by simpa using hit⟩)
  | _ => exact ⟨_, _, rfl, fun i hi ↦ .inl hi⟩

end Steps

section Bookkeeping

variable {s s' : State} {t : ℕ}

structure Registered (s : State) : Prop where
  background : ∀ t pc, s.threads t = .background pc → pc ≠ .dead → t ∈ s.background
  worker : ∀ t pc log, s.threads t = .worker pc log → pc ≠ .dead → s.worker = some t
  unborn : ∀ t, s.born ≤ t → s.threads t = .unborn

theorem lively_listed (hr : Registered s) (hclaimed : s.threads t ≠ .claimed)
    (hlively : (s.threads t).lively = true) : t ∈ s.background ++ s.worker.toList := by
  cases hthread : s.threads t with
  | unborn => simp [hthread, Thread.lively, Thread.alive] at hlively
  | claimed => exact absurd hthread hclaimed
  | background pc =>
    refine List.mem_append_left _ (hr.background t pc hthread ?_)
    rintro rfl
    simp [hthread, Thread.lively, Thread.alive] at hlively
  | worker pc log =>
    have hworker := hr.worker t pc log hthread
    refine List.mem_append_right _ ?_
    rw [hworker ?_]
    · simp
    · rintro rfl
      simp [hthread, Thread.lively, Thread.alive] at hlively

theorem alive_background {pc : BackgroundPc} (h : pc ≠ .dead) :
    (Thread.background pc).alive = true := by
  cases pc <;> first | rfl | exact absurd rfl h

theorem alive_worker {pc : WorkerPc} {log : List LogEntry} (h : pc ≠ .dead) :
    (Thread.worker pc log).alive = true := by
  cases pc <;> first | rfl | exact absurd rfl h

theorem Registered.of_same (hr : Registered s) (hthreads : s'.threads = s.threads)
    (hbackground : ∀ t ∈ s.background, s.alive t = true → t ∈ s'.background)
    (hworker : ∀ t, s.worker = some t → s.alive t = true → s'.worker = some t)
    (hborn : s'.born = s.born) : Registered s' := by
  refine ⟨fun t pc ht hpc ↦ ?_, fun t pc log ht hpc ↦ ?_, ?_⟩
  · rw [hthreads] at ht
    exact hbackground t (hr.background t pc ht hpc) (by rw [State.alive, ht, alive_background hpc])
  · rw [hthreads] at ht
    exact hworker t (hr.worker t pc log ht hpc) (by rw [State.alive, ht, alive_worker hpc])
  · rw [hthreads, hborn]
    exact hr.unborn

@[simp] theorem discard_threads : s.discardFinishedThreads.threads = s.threads := rfl

theorem Registered.discard (hr : Registered s) : Registered s.discardFinishedThreads :=
  hr.of_same rfl (fun _ ht halive ↦ List.mem_filter.mpr ⟨ht, halive⟩) (fun _ ht _ ↦ ht) rfl

@[simp] theorem backgroundAlive_discard :
    backgroundAlive s.discardFinishedThreads = backgroundAlive s := by
  change (s.background.filter s.alive).any s.alive = s.background.any s.alive
  simp

@[simp] theorem workerAlive_discard : workerAlive s.discardFinishedThreads = workerAlive s := rfl

theorem start_cases (runtime : AgentExecutionRuntime) (s : State) :
    (startsAnew s = false ∧ (start runtime s).1 = s.discardFinishedThreads) ∨
    (startsAnew s = true ∧ runtime.continuousEnabled = false ∧
      (start runtime s).1 = { s.discardFinishedThreads with stop := false }) ∨
    (startsAnew s = true ∧ runtime.continuousEnabled = true ∧
      (start runtime s).1 =
        { s.discardFinishedThreads.set s.born (.worker .polling []) with
          stop := false, worker := some s.born, born := s.born + 1 }) := by
  simp only [start, startsAnew, backgroundAlive_discard, workerAlive_discard]
  cases backgroundAlive s with
  | true => cases s.discardFinishedThreads.stop <;> exact .inl ⟨rfl, rfl⟩
  | false =>
    cases workerAlive s with
    | true => cases s.discardFinishedThreads.stop <;> exact .inl ⟨rfl, rfl⟩
    | false =>
      cases hmode : runtime.continuousEnabled with
      | true =>
        cases s.discardFinishedThreads.stop <;> exact .inr (.inr ⟨rfl, rfl, rfl⟩)
      | false =>
        cases s.discardFinishedThreads.stop <;> exact .inr (.inl ⟨rfl, rfl, rfl⟩)

end Bookkeeping

section Soundness

variable {s s' : State} {t : ℕ} {reading : Double} {e : TurnEnd}

variable {pc : BackgroundPc}

structure Sound (s : State) : Prop where
  exclusive : Exclusive s
  registered : Registered s

theorem Exclusive.of_same (he : Exclusive s) (hthreads : s'.threads = s.threads)
    (hbusy : s'.busy = s.busy) : Exclusive s' := by
  refine ⟨?_, ?_⟩
  · rw [hthreads]
    exact he.unique
  · rw [hthreads, hbusy]
    exact he.busy

theorem run_worker {pc : WorkerPc} {log : List LogEntry} (h : s.threads t = .worker pc log) :
    run runtime t reading e s = (workerStep runtime pc reading e s).2.2.set t
      (.worker (workerStep runtime pc reading e s).1
        (log ++ (workerStep runtime pc reading e s).2.1)) := by
  simp only [run, h]

theorem run_background (h : s.threads t = .background pc) :
    run runtime t reading e s = (backgroundStep t pc e s).2.set t
      (.background (backgroundStep t pc e s).1) := by
  simp only [run, h]

theorem run_idle (h : s.threads t = .unborn ∨ s.threads t = .claimed) :
    run runtime t reading e s = s := by
  rcases h with h | h <;> simp only [run, h]

theorem moved_worker {pc : WorkerPc} {log : List LogEntry} (h : s.threads t = .worker pc log) :
    Moved s (run runtime t reading e s) t (.worker (workerStep runtime pc reading e s).1
        (log ++ (workerStep runtime pc reading e s).2.1)) := by
  obtain ⟨busy, items, hframe⟩ := workerStep_frame (s := s) pc
  have hturn : Turnover pc.inTurn (workerStep runtime pc reading e s).1.inTurn s.busy
      (workerStep runtime pc reading e s).2.2.busy := workerStep_turn pc
  rw [run_worker h]
  refine ⟨?_, ?_⟩
  · simp only [State.set]
    rw [hframe]
  · simpa only [h, Thread.holds, Thread.inTurn, State.set] using hturn

theorem moved_background (h : s.threads t = .background pc) :
    Moved s (run runtime t reading e s) t (.background (backgroundStep t pc e s).1) := by
  obtain ⟨busy, background, hframe, -⟩ := backgroundStep_frame (t := t) (e := e) (s := s) pc
  have hturn : Turnover pc.inTurn (backgroundStep t pc e s).1.inTurn s.busy
      (backgroundStep t pc e s).2.busy := backgroundStep_turn pc
  rw [run_background h]
  refine ⟨?_, ?_⟩
  · simp only [State.set]
    rw [hframe]
  · simpa only [h, Thread.holds, Thread.inTurn, State.set] using hturn

theorem workerStep_alive {pc : WorkerPc}
    (h : (workerStep runtime pc reading e s).1 ≠ .dead) : pc ≠ .dead := by
  rintro rfl
  exact h rfl

theorem backgroundStep_alive (h : (backgroundStep t pc e s).1 ≠ .dead) : pc ≠ .dead := by
  rintro rfl
  exact h rfl

theorem Registered.moved {thread : Thread} (hr : Registered s)
    (hthreads : s'.threads = Function.update s.threads t thread)
    (hbackground : ∀ i ∈ s.background, i ∈ s'.background ∨ i = t ∧ thread.alive = false)
    (hworker : s'.worker = s.worker) (hborn : s'.born = s.born)
    (hthread : (∃ pc pc', s.threads t = .background pc ∧ thread = .background pc' ∧
        (pc' ≠ .dead → pc ≠ .dead)) ∨
      ∃ pc log pc' log', s.threads t = .worker pc log ∧ thread = .worker pc' log' ∧
        (pc' ≠ .dead → pc ≠ .dead)) : Registered s' := by
  refine ⟨fun i pc hi hpc ↦ ?_, fun i pc log hi hpc ↦ ?_, fun i hi ↦ ?_⟩
  · rw [hthreads] at hi
    by_cases hit : i = t
    · subst hit
      rw [Function.update_self] at hi
      rcases hthread with ⟨old, new, hold, rfl, hdead⟩ | ⟨old, log, new, log', -, rfl, -⟩
      · obtain rfl := Thread.background.inj hi
        rcases hbackground i (hr.background i old hold (hdead hpc)) with hmem | ⟨-, hshut⟩
        · exact hmem
        · rw [alive_background hpc] at hshut
          cases hshut
      · cases hi
    · rw [Function.update_of_ne hit] at hi
      rcases hbackground i (hr.background i pc hi hpc) with hmem | ⟨heq, -⟩
      · exact hmem
      · exact absurd heq hit
  · rw [hthreads] at hi
    rw [hworker]
    by_cases hit : i = t
    · subst hit
      rw [Function.update_self] at hi
      rcases hthread with ⟨old, new, -, rfl, -⟩ | ⟨old, log, new, log', hold, rfl, hdead⟩
      · cases hi
      · obtain ⟨rfl, rfl⟩ := Thread.worker.inj hi
        exact hr.worker i old log hold (hdead hpc)
    · rw [Function.update_of_ne hit] at hi
      exact hr.worker i pc log hi hpc
  · rw [hthreads]
    rw [hborn] at hi
    by_cases hit : i = t
    · subst hit
      have hunborn := hr.unborn i hi
      rcases hthread with ⟨old, new, hold, -, -⟩ | ⟨old, log, new, log', hold, -, -⟩
      · rw [hunborn] at hold
        cases hold
      · rw [hunborn] at hold
        cases hold
    · rw [Function.update_of_ne hit]
      exact hr.unborn i hi

theorem registered_run (hr : Registered s) : Registered (run runtime t reading e s) := by
  cases hthread : s.threads t with
  | unborn => rwa [run_idle (.inl hthread)]
  | claimed => rwa [run_idle (.inr hthread)]
  | background pc =>
    have hmoved : Moved s (run runtime t reading e s) t _ := moved_background hthread
    obtain ⟨busy, background, hframe, hkept⟩ := backgroundStep_frame (t := t) (e := e) (s := s) pc
    refine hr.moved hmoved.threads (fun i hi ↦ ?_) ?_ ?_
      (.inl ⟨pc, _, hthread, rfl, backgroundStep_alive⟩)
    · rw [run_background hthread, hframe]
      refine (hkept i hi).imp id (And.imp id fun hdead ↦ ?_)
      rw [hdead]
      rfl
    · rw [run_background hthread, hframe]
      rfl
    · rw [run_background hthread, hframe]
      rfl
  | worker pc log =>
    have hmoved : Moved s (run runtime t reading e s) t _ := moved_worker hthread
    obtain ⟨busy, items, hframe⟩ := workerStep_frame (s := s) pc
    refine hr.moved hmoved.threads (fun i hi ↦ .inl ?_) ?_ ?_
      (.inr ⟨pc, log, _, _, hthread, rfl, workerStep_alive⟩)
    · rw [run_worker hthread, hframe]
      exact hi
    · rw [run_worker hthread, hframe]
      rfl
    · rw [run_worker hthread, hframe]
      rfl

theorem exclusive_run (he : Exclusive s) : Exclusive (run runtime t reading e s) := by
  cases hthread : s.threads t with
  | unborn => rwa [run_idle (.inl hthread)]
  | claimed => rwa [run_idle (.inr hthread)]
  | background pc => exact he.moved (moved_background hthread)
  | worker pc log => exact he.moved (moved_worker hthread)

theorem sound_start (hs : Sound s) : Sound (start runtime s).1 := by
  obtain ⟨he, hr⟩ := hs
  rcases start_cases runtime s with ⟨-, heq⟩ | ⟨hnew, hmode, heq⟩ | ⟨hnew, hmode, heq⟩
  · rw [heq]
    exact ⟨he.of_same rfl rfl, hr.discard⟩
  · rw [heq]
    exact ⟨he.of_same rfl rfl, hr.discard.of_same rfl (fun _ ht _ ↦ ht) (fun _ ht _ ↦ ht) rfl⟩
  · have hborn := hr.unborn s.born le_rfl
    rw [heq]
    refine ⟨he.moved ⟨rfl, ?_⟩, fun t pc ht hpc ↦ ?_, fun t pc log ht hpc ↦ ?_, fun t ht ↦ ?_⟩
    · rw [hborn]
      exact .keep _ _
    · by_cases hit : t = s.born
      · rw [hit] at ht
        simp [State.set] at ht
      · simp only [State.set, Function.update_of_ne hit] at ht
        exact hr.discard.background t pc ht hpc
    · by_cases hit : t = s.born
      · rw [hit]
      · simp only [State.set, Function.update_of_ne hit, discard_threads] at ht
        -- a worker that is alive would have kept `start` from a new one
        have hworker := hr.worker t pc log ht hpc
        have halive : s.alive t = true := by rw [State.alive, ht, alive_worker hpc]
        simp [startsAnew, workerAlive, hworker, halive] at hnew
    · have hne : t ≠ s.born := by
        rintro rfl
        exact absurd ht (Nat.not_succ_le_self _)
      simp only [State.set, Function.update_of_ne hne]
      exact hr.unborn t (Nat.le_of_succ_le ht)

theorem sound_tryBeginTurn (hs : Sound s) : Sound (tryBeginTurn s) := by
  obtain ⟨he, hr⟩ := hs
  have hborn := hr.unborn s.born le_rfl
  unfold tryBeginTurn
  split_ifs with hrefused
  · exact ⟨he, hr⟩
  · rw [Bool.or_eq_true, not_or, Bool.not_eq_true, Bool.not_eq_true] at hrefused
    refine ⟨he.moved ⟨rfl, ?_⟩, fun t pc ht hpc ↦ ?_, fun t pc log ht hpc ↦ ?_, fun t ht ↦ ?_⟩
    · rw [hborn, hrefused.1]
      exact .take
    · by_cases hit : t = s.born
      · rw [hit] at ht
        simp [State.set] at ht
      · simp only [State.set, Function.update_of_ne hit] at ht
        exact hr.background t pc ht hpc
    · by_cases hit : t = s.born
      · rw [hit] at ht
        simp [State.set] at ht
      · simp only [State.set, Function.update_of_ne hit] at ht
        exact hr.worker t pc log ht hpc
    · have hne : t ≠ s.born := by
        rintro rfl
        exact absurd ht (Nat.not_succ_le_self _)
      simp only [State.set, Function.update_of_ne hne]
      exact hr.unborn t (Nat.le_of_succ_le ht)

theorem register_claimed (h : s.threads t = .claimed) : register s t =
    { s.set t (.background .executing) with background := t :: s.background } := by
  simp only [register, h]

theorem register_idle (h : s.threads t ≠ .claimed) : register s t = s := by
  unfold register
  split
  · exact absurd ‹_› h
  · rfl

theorem sound_register (hs : Sound s) : Sound (register s t) := by
  obtain ⟨he, hr⟩ := hs
  by_cases hclaimed : s.threads t = .claimed
  · rw [register_claimed hclaimed]
    refine ⟨he.moved ⟨rfl, ?_⟩, fun i pc hi hpc ↦ ?_, fun i pc log hi hpc ↦ ?_, fun i hi ↦ ?_⟩
    · rw [hclaimed]
      exact .keep _ _
    · by_cases hit : i = t
      · rw [hit]
        exact List.mem_cons_self ..
      · simp only [State.set, Function.update_of_ne hit] at hi
        exact List.mem_cons_of_mem t (hr.background i pc hi hpc)
    · by_cases hit : i = t
      · rw [hit] at hi
        simp [State.set] at hi
      · simp only [State.set, Function.update_of_ne hit] at hi
        exact hr.worker i pc log hi hpc
    · have hne : i ≠ t := by
        rintro rfl
        have hunborn := hr.unborn i hi
        rw [hclaimed] at hunborn
        cases hunborn
      simp only [State.set, Function.update_of_ne hne]
      exact hr.unborn i hi
  · rw [register_idle hclaimed]
    exact ⟨he, hr⟩

theorem sound_answer {k : ℕ} (hs : Sound s) : Sound (answer s k) := by
  unfold answer
  split
  · refine ⟨hs.exclusive.of_same rfl rfl, hs.registered.of_same rfl ?_ ?_ rfl⟩
    · exact fun t ht halive ↦ List.mem_filter.mpr ⟨ht, halive⟩
    · intro t ht halive
      simp only [ht, Option.filter_some]
      rw [if_pos halive]
  · exact hs

theorem Sound.of_same (hs : Sound s) (hthreads : s'.threads = s.threads)
    (hbusy : s'.busy = s.busy) (hbackground : s'.background = s.background)
    (hworker : s'.worker = s.worker) (hborn : s'.born = s.born) : Sound s' := by
  refine ⟨hs.exclusive.of_same hthreads hbusy, hs.registered.of_same hthreads ?_ ?_ hborn⟩
  · rw [hbackground]
    exact fun _ ht _ ↦ ht
  · rw [hworker]
    exact fun _ ht _ ↦ ht

theorem requestStop_frame (s : State) (k : ℕ) :
    ∃ stop stops, requestStop s k = { s with stop := stop, stops := stops } := by
  unfold requestStop
  split
  · exact ⟨_, _, rfl⟩
  · exact ⟨_, _, rfl⟩

theorem snapshot_frame (s : State) (k : ℕ) : ∃ stops, snapshot s k = { s with stops := stops } := by
  unfold snapshot
  split
  · exact ⟨_, rfl⟩
  · exact ⟨_, rfl⟩

theorem sound_step (event : Event) (hs : Sound s) : Sound (step runtime s event).1 := by
  cases event with
  | put item => exact hs.of_same rfl rfl rfl rfl rfl
  | drop => exact hs.of_same rfl rfl rfl rfl rfl
  | start => exact sound_start hs
  | tryBeginTurn => exact sound_tryBeginTurn hs
  | register t => exact sound_register hs
  | requestStop k =>
    obtain ⟨stop, stops, hframe⟩ := requestStop_frame s k
    simp only [step, hframe]
    exact hs.of_same rfl rfl rfl rfl rfl
  | snapshot k =>
    obtain ⟨stops, hframe⟩ := snapshot_frame s k
    simp only [step, hframe]
    exact hs.of_same rfl rfl rfl rfl rfl
  | answer k => exact sound_answer hs
  | run t reading e => exact ⟨exclusive_run hs.exclusive, registered_run hs.registered⟩

theorem sound_initial : Sound {} where
  exclusive := ⟨fun _ _ ht ↦ Bool.noConfusion ht, fun h ↦ Bool.noConfusion h,
    fun ⟨_, ht⟩ ↦ Bool.noConfusion ht⟩
  registered := ⟨fun _ _ ht ↦ Thread.noConfusion ht, fun _ _ _ ht ↦ Thread.noConfusion ht,
    fun _ _ ↦ rfl⟩

end Soundness

section Stopping

variable {s s' : State} {t k : ℕ} {reading : Double} {e : TurnEnd} {event : Event}

def StopCall.underWay : StopCall → Bool
  | .requested | .joining _ => true
  | _ => false

def Thread.runsItem : Thread → Bool
  | .worker (.preparing _) _ | .worker (.executing _) _ => true
  | _ => false

def Permitted (s : State) : Event → Prop
  | .start => startsAnew s = true → ∀ k, (s.stops k).underWay = false
  | .snapshot k => s.stops k = .requested → ∀ t, s.threads t ≠ .claimed
  | .run t _ e => (s.threads t).runsItem = true → (finishedOf e).isSome = true
  | _ => True

/-- What a call of `stop` can rely on. -/
structure Attended (s : State) : Prop where
  flag : ∀ k, (s.stops k).underWay = true → s.stop = true
  listed : ∀ k threads, s.stops k = .joining threads →
    ∀ t, (s.threads t).lively = true → s.threads t ≠ .claimed ∧ t ∈ threads

structure Settled (s : State) : Prop where
  flag : s.stop = true
  still : ∀ t, (s.threads t).lively = false

theorem run_frame (runtime : AgentExecutionRuntime) (s : State) (t : ℕ) (reading : Double)
    (e : TurnEnd) :
    (run runtime t reading e s).stop = s.stop ∧ (run runtime t reading e s).stops = s.stops := by
  cases hthread : s.threads t with
  | unborn => simp [run_idle (.inl hthread)]
  | claimed => simp [run_idle (.inr hthread)]
  | background pc =>
    obtain ⟨busy, background, hframe, -⟩ := backgroundStep_frame (t := t) (e := e) (s := s) pc
    rw [run_background hthread, hframe]
    exact ⟨rfl, rfl⟩
  | worker pc log =>
    obtain ⟨busy, items, hframe⟩ := workerStep_frame (s := s) pc
    rw [run_worker hthread, hframe]
    exact ⟨rfl, rfl⟩

theorem lively_run {i : ℕ} (h : ((run runtime t reading e s).threads i).lively = true) :
    (s.threads i).lively = true ∧
      (s.threads i ≠ .claimed → (run runtime t reading e s).threads i ≠ .claimed) := by
  cases hthread : s.threads t with
  | unborn =>
    rw [run_idle (.inl hthread)] at h ⊢
    exact ⟨h, id⟩
  | claimed =>
    rw [run_idle (.inr hthread)] at h ⊢
    exact ⟨h, id⟩
  | background pc =>
    have hmoved : Moved s (run runtime t reading e s) t _ := moved_background hthread
    by_cases hit : i = t
    · subst hit
      rw [hmoved.self] at h ⊢
      refine ⟨?_, fun _ ↦ Thread.noConfusion⟩
      have hpc : pc ≠ .dead := by
        rintro rfl
        cases h
      rw [hthread]
      exact alive_background hpc
    · rw [hmoved.apart hit] at h ⊢
      exact ⟨h, id⟩
  | worker pc log =>
    have hmoved : Moved s (run runtime t reading e s) t _ := moved_worker hthread
    by_cases hit : i = t
    · subst hit
      rw [hmoved.self] at h ⊢
      refine ⟨?_, fun _ ↦ Thread.noConfusion⟩
      have hpc : pc ≠ .dead := by
        rintro rfl
        cases h
      rw [hthread]
      exact alive_worker hpc
    · rw [hmoved.apart hit] at h ⊢
      exact ⟨h, id⟩

theorem Attended.of_same (ha : Attended s) (hstop : s'.stop = s.stop) (hstops : s'.stops = s.stops)
    (hlively : ∀ t, (s'.threads t).lively = true →
      (s.threads t).lively = true ∧ (s.threads t ≠ .claimed → s'.threads t ≠ .claimed)) :
    Attended s' := by
  refine ⟨?_, fun k threads hk t ht ↦ ?_⟩
  · rw [hstop, hstops]
    exact ha.flag
  · rw [hstops] at hk
    obtain ⟨hbefore, hclaimed⟩ := hlively t ht
    obtain ⟨hnot, hmem⟩ := ha.listed k threads hk t hbefore
    exact ⟨hclaimed hnot, hmem⟩

theorem attended_of_none (h : ∀ k, (s.stops k).underWay = false) : Attended s := by
  refine ⟨fun k hk ↦ ?_, fun k threads hk ↦ ?_⟩
  · rw [h k] at hk
    cases hk
  · have hnone := h k
    rw [hk] at hnone
    cases hnone

theorem attended_register (ha : Attended s) : Attended (register s t) := by
  by_cases hclaimed : s.threads t = .claimed
  · rw [register_claimed hclaimed]
    refine ⟨ha.flag, fun k threads hk i hi ↦ ?_⟩
    have hlively : (s.threads t).lively = true := by rw [hclaimed]; rfl
    exact absurd hclaimed (ha.listed k threads hk t hlively).1
  · rwa [register_idle hclaimed]

theorem attended_requestStop (ha : Attended s) : Attended (requestStop s k) := by
  unfold requestStop
  split
  · refine ⟨fun _ _ ↦ rfl, fun i threads hi t ht ↦ ?_⟩
    by_cases hik : i = k
    · rw [hik] at hi
      simp [State.setStop] at hi
    · simp only [State.setStop, Function.update_of_ne hik] at hi
      exact ha.listed i threads hi t ht
  · exact ha

theorem attended_snapshot (ha : Attended s) (hr : Registered s)
    (hp : s.stops k = .requested → ∀ t, s.threads t ≠ .claimed) : Attended (snapshot s k) := by
  unfold snapshot
  split
  next hrequested =>
    have hunder : (s.stops k).underWay = true := by rw [hrequested]; rfl
    refine ⟨fun _ _ ↦ ha.flag k hunder, fun i threads hi t ht ↦ ?_⟩
    by_cases hik : i = k
    · rw [hik] at hi
      simp only [State.setStop, Function.update_self, StopCall.joining.injEq] at hi
      rw [← hi]
      exact ⟨hp hrequested t, lively_listed hr (hp hrequested t) ht⟩
    · simp only [State.setStop, Function.update_of_ne hik] at hi
      exact ha.listed i threads hi t ht
  next => exact ha

theorem attended_answer (ha : Attended s) : Attended (answer s k) := by
  unfold answer
  split
  · refine ⟨fun i hi ↦ ?_, fun i threads hi t ht ↦ ?_⟩
    · by_cases hik : i = k
      · rw [hik] at hi
        simp [State.setStop, StopCall.underWay] at hi
      · simp only [State.setStop, Function.update_of_ne hik] at hi
        exact ha.flag i hi
    · by_cases hik : i = k
      · rw [hik] at hi
        simp [State.setStop] at hi
      · simp only [State.setStop, Function.update_of_ne hik] at hi
        exact ha.listed i threads hi t ht
  · exact ha

theorem attended_start (ha : Attended s)
    (hp : startsAnew s = true → ∀ k, (s.stops k).underWay = false) :
    Attended (start runtime s).1 := by
  rcases start_cases runtime s with ⟨-, heq⟩ | ⟨hnew, -, heq⟩ | ⟨hnew, -, heq⟩
  · rw [heq]
    exact ha.of_same rfl rfl fun t ht ↦ ⟨ht, id⟩
  · rw [heq]
    exact attended_of_none (hp hnew)
  · rw [heq]
    exact attended_of_none (hp hnew)

theorem attended_tryBeginTurn (ha : Attended s) : Attended (tryBeginTurn s) := by
  unfold tryBeginTurn
  split_ifs with hrefused
  · exact ha
  · rw [Bool.or_eq_true, not_or, Bool.not_eq_true, Bool.not_eq_true] at hrefused
    refine attended_of_none fun k ↦ ?_
    rw [← Bool.not_eq_true]
    intro hunder
    have hflag := ha.flag k hunder
    rw [hrefused.2] at hflag
    cases hflag

theorem attended_step (hr : Registered s) (ha : Attended s) (hp : Permitted s event) :
    Attended (step runtime s event).1 := by
  cases event with
  | put item => exact ha.of_same rfl rfl fun t ht ↦ ⟨ht, id⟩
  | drop => exact ha.of_same rfl rfl fun t ht ↦ ⟨ht, id⟩
  | start => exact attended_start ha hp
  | tryBeginTurn => exact attended_tryBeginTurn ha
  | register t => exact attended_register ha
  | requestStop k => exact attended_requestStop ha
  | snapshot k => exact attended_snapshot ha hr hp
  | answer k => exact attended_answer ha
  | run t reading e =>
    obtain ⟨hstop, hstops⟩ := run_frame runtime s t reading e
    exact ha.of_same hstop hstops fun i hi ↦ lively_run hi

/-- The call of `stop` returns now, and returns `True`. -/
def ReturnsTrue (s : State) (k : ℕ) : Prop :=
  (s.stops k).underWay = true ∧ (answer s k).stops k = .answered true

/-- A `start` that takes effect. -/
def StartsAnew (s : State) : Event → Prop
  | .start => startsAnew s = true
  | _ => False

theorem alive_of_lively {thread : Thread} (h : thread.lively = true) (hne : thread ≠ .claimed) :
    thread.alive = true := by
  cases thread with
  | claimed => exact absurd rfl hne
  | _ => exact h

theorem settled_of_returnsTrue (ha : Attended s) (h : ReturnsTrue s k) : Settled (answer s k) := by
  obtain ⟨hunder, hresult⟩ := h
  have hflag := ha.flag k hunder
  unfold answer at hresult ⊢
  split at hresult
  next threads hjoining =>
    simp only [State.setStop, Function.update_self, StopCall.answered.injEq,
      Bool.not_eq_true', List.any_eq_false] at hresult
    refine ⟨hflag, fun t ↦ ?_⟩
    rw [← Bool.not_eq_true]
    intro ht
    obtain ⟨hne, hmem⟩ := ha.listed k threads hjoining t ht
    exact hresult t hmem (alive_of_lively ht hne)
  next hnot =>
    rw [hresult] at hunder
    cases hunder

theorem Settled.of_same (hs : Settled s) (hstop : s'.stop = s.stop)
    (hthreads : s'.threads = s.threads) : Settled s' := by
  refine ⟨?_, ?_⟩
  · rw [hstop]
    exact hs.flag
  · rw [hthreads]
    exact hs.still

theorem settled_step (hs : Settled s) (hp : ¬ StartsAnew s event) :
    Settled (step runtime s event).1 := by
  cases event with
  | put item => exact hs.of_same rfl rfl
  | drop => exact hs.of_same rfl rfl
  | start =>
    rcases start_cases runtime s with ⟨-, heq⟩ | ⟨hnew, -⟩ | ⟨hnew, -⟩
    · simp only [step, heq]
      exact hs.of_same rfl rfl
    · exact absurd hnew hp
    · exact absurd hnew hp
  | tryBeginTurn =>
    have hsame : tryBeginTurn s = s := by simp [tryBeginTurn, hs.flag]
    rwa [step, hsame]
  | register t =>
    have hne : s.threads t ≠ .claimed := by
      intro hclaimed
      have hstill := hs.still t
      rw [hclaimed] at hstill
      cases hstill
    rwa [step, register_idle hne]
  | requestStop k =>
    simp only [step, requestStop]
    split
    · exact ⟨rfl, hs.still⟩
    · exact hs
  | snapshot k =>
    obtain ⟨stops, hframe⟩ := snapshot_frame s k
    simp only [step, hframe]
    exact hs.of_same rfl rfl
  | answer k =>
    simp only [step, answer]
    split
    · exact hs.of_same rfl rfl
    · exact hs
  | run t reading e =>
    obtain ⟨hstop, -⟩ := run_frame runtime s t reading e
    refine ⟨hstop.trans hs.flag, fun i ↦ ?_⟩
    rw [← Bool.not_eq_true]
    intro hi
    have hbefore := (lively_run hi).1
    rw [hs.still i] at hbefore
    cases hbefore

theorem settled_run {h : List Event} (hs : Settled s)
    (hp : Along (step runtime) (fun s event ↦ ¬ StartsAnew s event) s h) :
    Settled (History.run (step runtime) s h) :=
  Along.preserves (step runtime) (fun _ _ hnot hsettled ↦ settled_step hsettled hnot) hs hp

end Stopping

section Logs

variable {s : State} {t : ℕ} {reading : Double} {e : TurnEnd} {event : Event}

inductive Turn
  | ran (item : Item) (success : Bool) (reason : String)
  | declined
  | expired (item : Item) (size : ℕ)

def Turn.log (source : String) : Turn → List LogEntry
  | .ran item success reason =>
    [.begun item, .published (executionStarted source item),
      .published (executionFinished source item success reason), .released, .taskDone]
  | .declined => [.taskDone]
  | .expired item size => [.expired item size, .taskDone]

def Logged (source : String) : WorkerPc → List LogEntry → Prop
  | .begun item, log => log = [.begun item]
  | .preparing item, log | .executing item, log =>
    log = [.begun item, .published (executionStarted source item)]
  | .ended item e, log =>
    log = [.begun item, .published (executionStarted source item)] ∧ (finishedOf e).isSome = true
  | .reporting item, log | .releasing item true, log =>
    ∃ success reason, log = [.begun item, .published (executionStarted source item),
      .published (executionFinished source item success reason)]
  | .released item true, log =>
    ∃ success reason, log = [.begun item, .published (executionStarted source item),
      .published (executionFinished source item success reason), .released]
  | .releasing _ false, _ | .released _ false, _ => False
  | _, log => log = []

def WellLogged (source : String) (pc : WorkerPc) (log : List LogEntry) : Prop :=
  ∃ (turns : List Turn) (current : List LogEntry), log = turns.flatMap (Turn.log source) ++
    current ∧ Logged source pc current

theorem WellLogged.more {source : String} {pc pc' : WorkerPc} {log entries : List LogEntry}
    (h : WellLogged source pc log)
    (hmore : ∀ current, Logged source pc current → Logged source pc' (current ++ entries)) :
    WellLogged source pc' (log ++ entries) := by
  obtain ⟨turns, current, rfl, hcurrent⟩ := h
  exact ⟨turns, current ++ entries, List.append_assoc .., hmore current hcurrent⟩

theorem WellLogged.close {source : String} {pc pc' : WorkerPc} {log entries : List LogEntry}
    (h : WellLogged source pc log) (hpc' : Logged source pc' [])
    (hclose : ∀ current, Logged source pc current → ∃ turn : Turn, current ++
      entries = turn.log source) : WellLogged source pc' (log ++ entries) := by
  obtain ⟨turns, current, rfl, hcurrent⟩ := h
  obtain ⟨turn, hturn⟩ := hclose current hcurrent
  refine ⟨turns ++ [turn], [], ?_, hpc'⟩
  rw [List.append_assoc, hturn]
  simp

theorem WellLogged.silent {source : String} {pc pc' : WorkerPc} {log : List LogEntry}
    (h : WellLogged source pc log)
    (hmore : ∀ current, Logged source pc current → Logged source pc' current) :
    WellLogged source pc' (log ++ []) := by
  apply h.more
  intro current hcurrent
  rw [List.append_nil]
  exact hmore current hcurrent

theorem wellLogged_step {pc : WorkerPc} {log : List LogEntry}
    (hp : (Thread.worker pc log).runsItem = true → (finishedOf e).isSome = true)
    (h : WellLogged runtime.source pc log) :
    WellLogged runtime.source (workerStep runtime pc reading e s).1
      (log ++ (workerStep runtime pc reading e s).2.1) := by
  cases pc with
  | polling =>
    simp only [workerStep]
    split_ifs <;> exact h.silent fun _ ↦ id
  | getting =>
    simp only [workerStep]
    split
    next => exact h.silent fun _ ↦ id
    next item rest hitems =>
      split_ifs
      · refine h.close rfl fun current hcurrent ↦ ⟨.expired item rest.length, ?_⟩
        rw [show current = [] from hcurrent]
        rfl
      · exact h.silent fun _ ↦ id
  | got item =>
    simp only [workerStep]
    split_ifs <;> exact h.silent fun _ ↦ id
  | waiting item =>
    simp only [workerStep]
    split_ifs <;> exact h.silent fun _ ↦ id
  | taking item =>
    simp only [workerStep]
    split_ifs
    · exact h.silent fun _ ↦ id
    · refine h.more fun current hcurrent ↦ ?_
      rw [show current = [] from hcurrent]
      rfl
  | begun item =>
    refine h.more fun current hcurrent ↦ ?_
    rw [show current = _ from hcurrent]
    rfl
  | preparing item =>
    have hsome := hp rfl
    cases e with
    | returned => exact h.silent fun _ ↦ id
    | cancelled text => exact h.silent fun _ hcurrent ↦ ⟨hcurrent, hsome⟩
    | failed text => exact h.silent fun _ hcurrent ↦ ⟨hcurrent, hsome⟩
    | interrupted => cases hsome
  | executing item => exact h.silent fun _ hcurrent ↦ ⟨hcurrent, hp rfl⟩
  | ended item e =>
    refine h.more fun current hcurrent ↦ ?_
    obtain ⟨hlog, hsome⟩ := hcurrent
    rw [hlog]
    rcases e with _ | (_ | text) | (_ | text) | _
    · exact ⟨true, "completed", rfl⟩
    · cases hsome
    · exact ⟨false, text, rfl⟩
    · cases hsome
    · exact ⟨false, text, rfl⟩
    · cases hsome
  | reporting item => exact h.silent fun _ ↦ id
  | releasing item survives =>
    refine h.more fun current hcurrent ↦ ?_
    cases survives with
    | false => exact hcurrent
    | true =>
      obtain ⟨success, reason, rfl⟩ := hcurrent
      exact ⟨success, reason, rfl⟩
  | released item survives =>
    cases survives with
    | false =>
      obtain ⟨turns, current, -, hcurrent⟩ := h
      exact hcurrent.elim
    | true =>
      refine h.close rfl fun current hcurrent ↦ ?_
      obtain ⟨success, reason, rfl⟩ := hcurrent
      exact ⟨.ran item success reason, rfl⟩
  | declining item =>
    refine h.close rfl fun current hcurrent ↦ ⟨.declined, ?_⟩
    rw [show current = [] from hcurrent]
    rfl
  | dead => exact h.silent fun _ ↦ id

def LogsWell (source : String) (s : State) : Prop :=
  ∀ t pc log, s.threads t = .worker pc log → WellLogged source pc log

theorem logsWell_set {s' : State} {thread : Thread} {source : String} (h : LogsWell source s)
    (hthreads : s'.threads = Function.update s.threads t thread)
    (hthread : ∀ pc log, thread = .worker pc log → WellLogged source pc log) :
    LogsWell source s' := by
  intro i pc log hi
  rw [hthreads] at hi
  by_cases hit : i = t
  · rw [hit, Function.update_self] at hi
    exact hthread pc log hi
  · rw [Function.update_of_ne hit] at hi
    exact h i pc log hi

theorem logsWell_run (h : LogsWell runtime.source s)
    (hp : (s.threads t).runsItem = true → (finishedOf e).isSome = true) :
    LogsWell runtime.source (run runtime t reading e s) := by
  cases hthread : s.threads t with
  | unborn => rwa [run_idle (.inl hthread)]
  | claimed => rwa [run_idle (.inr hthread)]
  | background pc =>
    have hmoved : Moved s (run runtime t reading e s) t _ := moved_background hthread
    exact logsWell_set h hmoved.threads fun pc log heq ↦ Thread.noConfusion heq
  | worker pc log =>
    have hmoved : Moved s (run runtime t reading e s) t _ := moved_worker hthread
    rw [hthread] at hp
    refine logsWell_set h hmoved.threads fun pc' log' heq ↦ ?_
    obtain ⟨rfl, rfl⟩ := Thread.worker.inj heq
    exact wellLogged_step hp (h t pc log hthread)

theorem logsWell_step (h : LogsWell runtime.source s) (hp : Permitted s event) :
    LogsWell runtime.source (step runtime s event).1 := by
  cases event with
  | put item => exact h
  | drop => exact h
  | start =>
    rcases start_cases runtime s with ⟨-, heq⟩ | ⟨-, -, heq⟩ | ⟨-, -, heq⟩
    · simp only [step, heq]
      exact h
    · simp only [step, heq]
      exact h
    · simp only [step, heq]
      refine logsWell_set h rfl fun pc log heq ↦ ?_
      obtain ⟨rfl, rfl⟩ := Thread.worker.inj heq
      exact ⟨[], [], rfl, rfl⟩
  | tryBeginTurn =>
    simp only [step, tryBeginTurn]
    split_ifs
    · exact h
    · exact logsWell_set h rfl fun pc log heq ↦ Thread.noConfusion heq
  | register t =>
    by_cases hclaimed : s.threads t = .claimed
    · simp only [step, register_claimed hclaimed]
      exact logsWell_set h rfl fun pc log heq ↦ Thread.noConfusion heq
    · simpa only [step, register_idle hclaimed] using h
  | requestStop k =>
    obtain ⟨stop, stops, hframe⟩ := requestStop_frame s k
    simp only [step, hframe]
    exact h
  | snapshot k =>
    obtain ⟨stops, hframe⟩ := snapshot_frame s k
    simp only [step, hframe]
    exact h
  | answer k =>
    simp only [step, answer]
    split
    · exact h
    · exact h
  | run t reading e => exact logsWell_run h hp

end Logs

variable (runtime : AgentExecutionRuntime)

abbrev state (h : List Event) : State :=
  History.run (step runtime) {} h

theorem sound (h : List Event) : Sound (state runtime h) :=
  run_preserves (step runtime) (fun _ event hs ↦ sound_step event hs) sound_initial h

theorem stop_is_truthful (h : List Event) (hp : Along (step runtime) Permitted {} h) :
    (∀ t t', ((state runtime h).threads t).inTurn = true →
      ((state runtime h).threads t').inTurn = true → t = t') ∧
    ((state runtime h).busy = true ↔ ∃ t, ((state runtime h).threads t).holds = true) ∧
    (∀ pre k post, h = pre ++ .answer k :: post → ReturnsTrue (state runtime pre) k →
      Along (step runtime) (fun s event ↦ ¬ StartsAnew s event)
        (state runtime (pre ++ [.answer k])) post →
      ∀ t, ((state runtime h).threads t).inTurn = false) ∧
    LogsWell runtime.source (state runtime h) := by
  have hsound := sound runtime h
  refine ⟨fun t t' ht ht' ↦ ?_, hsound.exclusive.busy, ?_, ?_⟩
  · exact hsound.exclusive.unique t t' (Thread.holds_of_inTurn ht) (Thread.holds_of_inTurn ht')
  · rintro pre k post rfl hreturns hquiet t
    have hpre : Along (step runtime) Permitted {} pre := ((along_append _).mp hp).1
    have hattended : Registered (state runtime pre) ∧ Attended (state runtime pre) := by
      refine Along.preserves (step runtime) (I := fun s ↦ Sound s ∧ Attended s) ?_ ?_ hpre |>.imp
        Sound.registered id
      · exact fun s event hpermitted hs ↦
          ⟨sound_step event hs.1, attended_step hs.1.registered hs.2 hpermitted⟩
      · exact ⟨sound_initial, attended_of_none fun _ ↦ rfl⟩
    have hsettled : Settled (state runtime (pre ++ [.answer k])) := by
      rw [state, run_snoc]
      exact settled_of_returnsTrue hattended.2 hreturns
    have hend := settled_run hsettled hquiet
    rw [List.append_cons, state, run_append, ← Bool.not_eq_true]
    intro hturn
    have hlively := Thread.lively_of_holds (Thread.holds_of_inTurn hturn)
    rw [hend.still t] at hlively
    cases hlively
  · exact Along.preserves (step runtime) (fun _ _ hpermitted hl ↦ logsWell_step hl hpermitted)
      (fun _ _ _ ht ↦ Thread.noConfusion ht) hp

def offline : AgentExecutionRuntime where
  source := "offline"
  continuousEnabled := true
  queue := .create 8 0

def forward : Item := { text := "向前走", context := [] }

def steps (t n : ℕ) (e : TurnEnd) : List Event := List.replicate n (.run t 0 e)

def served : List Event :=
  [.start, .put forward] ++ steps 0 11 .returned ++ [.requestStop 0] ++ steps 0 1 .returned ++
    [.snapshot 0]

theorem served_permitted : Along (step offline) Permitted {} served :=
  ⟨fun _ _ ↦ rfl, trivial, fun _ ↦ rfl, fun _ ↦ rfl, fun _ ↦ rfl, fun _ ↦ rfl, fun _ ↦ rfl,
    fun _ ↦ rfl, fun _ ↦ rfl, fun _ ↦ rfl, fun _ ↦ rfl, fun _ ↦ rfl, fun _ ↦ rfl, trivial,
    fun _ ↦ rfl, fun _ t ↦ by cases t <;> exact Thread.noConfusion, trivial⟩

theorem stop_is_truthful_served :
    ((state offline (served ++ [Event.answer 0])).threads 0).inTurn = false :=
  (stop_is_truthful offline (served ++ [Event.answer 0])
    ((along_snoc _).mpr ⟨served_permitted, trivial⟩)).2.2.1 served 0 [] rfl ⟨rfl, rfl⟩ trivial 0

/-- A thread is registered too late, a second worker is at work, or an item ends the worker. -/
theorem turn_after_stop :
    (ReturnsTrue (state offline [.tryBeginTurn, .requestStop 0, .snapshot 0]) 0 ∧
      ((state offline [.tryBeginTurn, .requestStop 0, .snapshot 0, .answer 0, .register 0]).threads
        0).inTurn = true) ∧ (ReturnsTrue (state offline
        ([.requestStop 0, .snapshot 0, .start, .put forward] ++ steps 0 7 .returned)) 0 ∧
      ((state offline ([.requestStop 0, .snapshot 0, .start, .put forward] ++
        steps 0 7 .returned ++ [.answer 0])).threads 0).inTurn = true) ∧
    (state offline ([.start, .put forward] ++ steps 0 7 .returned ++
      steps 0 4 .interrupted)).threads 0 =
      .worker .dead [.begun forward, .published (executionStarted "offline" forward), .released,
        .taskDone] := by
  refine ⟨⟨⟨rfl, rfl⟩, rfl⟩, ⟨⟨rfl, rfl⟩, rfl⟩, ?_⟩
  rfl

end EmbodiedAgent.Agent.Execution
