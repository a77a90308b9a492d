import EmbodiedAgent.Slam.AuthorityCallback
import EmbodiedAgent.Slam.StopEvidence

namespace EmbodiedAgent.Slam

open Library Library.History AutonomyQuiescenceBarrier

/-- What a section of a worker reads outside the barrier. -/
structure WorkerReading where
  status : String := ""
  activeGoalCount : ℤ := 0
  acceptedGoalCount : ℤ := 0
  terminalGoalCount : ℤ := 0
  cmdVelGeneration : ℤ := 0
  timeoutS : Double := 0
  enteredAt : Double := 0
  now : Double := 0

/-- The section or the call that a worker comes to next. -/
inductive WorkerPoint
  | checking (identity : QuiescenceIdentity)
  | entering (identity : QuiescenceIdentity)
  | comparing (identity : QuiescenceIdentity)
  | settling (identity : QuiescenceIdentity)
  | stopping (identity : QuiescenceIdentity)
  | waiting (identity : QuiescenceIdentity)
  | beginning (identity : QuiescenceIdentity)
  | acknowledging (identity : QuiescenceIdentity)
  | completing (identity : QuiescenceIdentity)
  | handling (identity : QuiescenceIdentity) (error : String)
  | failing (identity : QuiescenceIdentity) (error : String)
  | looking (identity : QuiescenceIdentity)
  | judging (identity : QuiescenceIdentity)
  | leaving
  | restarting (identity : QuiescenceIdentity)
  | ended
  deriving DecidableEq

namespace WorkerPoint

def inCharge : WorkerPoint → Bool
  | .restarting _ | .ended => false
  | _ => true

/-- Past the tests of `_complete_autonomy_quiescence`. -/
def processes : WorkerPoint → Option QuiescenceIdentity
  | .settling i | .stopping i | .waiting i | .beginning i | .acknowledging i | .completing i
  | .handling i _ | .failing i _ => some i
  | _ => none

/-- Inside `_complete_autonomy_quiescence`. -/
def inside : WorkerPoint → Bool
  | .entering _ | .comparing _ => true
  | p => p.processes.isSome

def trying : WorkerPoint → Option QuiescenceIdentity
  | .handling _ _ | .failing _ _ => none
  | p => p.processes

def fails : WorkerPoint → Bool
  | .failing _ _ => true
  | _ => false

def restarts : WorkerPoint → Option QuiescenceIdentity
  | .restarting i => some i
  | _ => none

def stopCommandId (identity : QuiescenceIdentity) : String :=
  "quiescence-stop-" ++ toString identity.managerEpoch ++ "-" ++
    toString identity.revocationSequence

/-- A call of the barrier inside the `try`. -/
def perform (b : AutonomyQuiescenceBarrier) (identity : QuiescenceIdentity) (op : Operation)
    (next : Answer → WorkerPoint) : AutonomyQuiescenceBarrier × WorkerPoint :=
  match b.step op with
  | (b, .error e) => (b, .handling identity (exceptionText e))
  | (b, .ok answer) => (b, next answer)

def advance (b : AutonomyQuiescenceBarrier) (r : WorkerReading) :
    WorkerPoint → AutonomyQuiescenceBarrier × WorkerPoint
  | .checking i => (b, if i ∈ b.acknowledgedIdentities then .looking i else .entering i)
  | .entering i => (b, if i ∈ b.acknowledgedIdentities then .looking i else .comparing i)
  | .comparing i =>
    let b := b.refreshReady
    (b, if b.identity ≠ some i then
          .handling i "quiescence worker identity no longer current"
        else if b.frontierRequired then .settling i
        else .stopping i)
  | .settling i =>
    perform b i
      (.observeFrontier r.status r.activeGoalCount r.acceptedGoalCount r.terminalGoalCount)
      fun _ ↦ .stopping i
  | .stopping i =>
    perform b i (.markPriorityStopRequested (stopCommandId i) r.cmdVelGeneration) fun _ ↦ .waiting i
  | .waiting i =>
    perform b i (.waitReady r.timeoutS r.enteredAt r.now) fun
      | .waits => .waiting i
      | _ => .beginning i
  | .beginning i => perform b i (.beginAcknowledgement i) fun _ ↦ .acknowledging i
  | .acknowledging i => (b, .completing i)
  | .completing i => perform b i (.completeAcknowledgement i) fun _ ↦ .looking i
  | .handling i error =>
    (b, if i ∈ b.acknowledgedIdentities then .looking i else .failing i error)
  | .failing i error => ((b.fail ("autonomy quiescence failed: " ++ error)).1, .looking i)
  | .looking i =>
    let b := b.refreshReady
    (b, if b.state = .failed then .leaving
        else match b.identity with
          | some other => if other ≠ i then .judging other else .leaving
          | none => .leaving)
  | .judging i => (b, if b.active then .checking i else .leaving)
  | p => (b, p)

end WorkerPoint

/-- The barrier, the worker that the slot names and all worker threads there have been. -/
structure HandOff where
  autonomyQuiescence : AutonomyQuiescenceBarrier
  quiescenceWorker : Option ℕ := none
  threads : List WorkerPoint := []
  callbacks : List QuiescenceIdentity := []

def Outside : Operation → Bool
  | .begin _ _ | .beginAcknowledgement _ | .completeAcknowledgement _ => false
  | _ => true

inductive HandOffEvent
  | operate (op : Operation) (outside : Outside op = true)
  | revoke (identity : QuiescenceIdentity) (requireFrontier : Option Bool)
  | start (callback : ℕ)
  | run (thread : ℕ) (reading : WorkerReading)
  | raise (thread : ℕ) (error : String)

namespace HandOff

variable (s : HandOff)

def withBarrier (b : AutonomyQuiescenceBarrier) : HandOff := { s with autonomyQuiescence := b }

def withCallbacks (callbacks : List QuiescenceIdentity) : HandOff :=
  { s with callbacks := callbacks }

def move (thread : ℕ) (p : WorkerPoint) : HandOff := { s with threads := s.threads.set thread p }

def isAlive (thread : ℕ) : Bool :=
  match s.threads[thread]? with
  | none | some .ended => false
  | some _ => true

def startAutonomyQuiescenceWorker (identity : QuiescenceIdentity) : HandOff :=
  if s.quiescenceWorker.any s.isAlive then s
  else
    { s with
      quiescenceWorker := some s.threads.length
      threads := s.threads ++ [.checking identity] }

def release (thread : ℕ) : HandOff :=
  let b := s.autonomyQuiescence.refreshReady
  { s with
    autonomyQuiescence := b
    quiescenceWorker := if s.quiescenceWorker = some thread then none else s.quiescenceWorker
    threads := s.threads.set thread <| match b.identity with
      | some identity => if b.active then .restarting identity else .ended
      | none => .ended }

def step : HandOffEvent → HandOff × Unit
  | .operate op _ => (s.withBarrier (s.autonomyQuiescence.step op).1, ())
  | .revoke identity requireFrontier =>
    match s.autonomyQuiescence.begin identity requireFrontier with
    | (b, .ok true) => ({ s with
        autonomyQuiescence := b
        callbacks := s.callbacks ++ [identity] }, ())
    | (b, _) => (s.withBarrier b, ())
  | .start callback =>
    match s.callbacks[callback]? with
    | none => (s, ())
    | some identity =>
      ((s.withCallbacks (s.callbacks.eraseIdx callback)).startAutonomyQuiescenceWorker identity, ())
  | .run thread reading =>
    match s.threads[thread]? with
    | none | some .ended => (s, ())
    | some .leaving => (s.release thread, ())
    | some (.restarting identity) =>
      ((s.startAutonomyQuiescenceWorker identity).move thread .ended, ())
    | some p =>
      let (b, p) := p.advance s.autonomyQuiescence reading
      ((s.withBarrier b).move thread p, ())
  | .raise thread error =>
    match s.threads[thread]? with
    | none => (s, ())
    | some p =>
      match p.trying with
      | some identity => (s.move thread (.handling identity error), ())
      | none => (s, ())

end HandOff

section Changes

variable {b b' b'' : AutonomyQuiescenceBarrier} {op : Operation} {identity : QuiescenceIdentity}

structure Calm (b b' : AutonomyQuiescenceBarrier) : Prop where
  identities : b'.acknowledgedIdentities = b.acknowledgedIdentities
  identity : b'.identity = b.identity
  state : b'.state = b.state ∨ b'.state = .failed ∨
    (b.state = .waiting ∨ b.state = .ready) ∧ (b'.state = .waiting ∨ b'.state = .ready)

structure Completes (b b' : AutonomyQuiescenceBarrier) (identity : QuiescenceIdentity) : Prop where
  inFlight : b.state = .ackInFlight
  stands : b.identity = some identity
  stays : b'.identity = some identity
  state : b'.state = .acknowledged
  remembered : identity ∈ b'.acknowledgedIdentities

theorem Calm.refl (b : AutonomyQuiescenceBarrier) : Calm b b := ⟨rfl, rfl, .inl rfl⟩

theorem Calm.trans (h : Calm b b') (h' : Calm b' b'') : Calm b b'' := by
  refine ⟨h'.identities.trans h.identities, h'.identity.trans h.identity, ?_⟩
  rcases h'.state with heq | hfailed | ⟨hbefore, hafter⟩
  · rw [heq]
    exact h.state
  · exact .inr (.inl hfailed)
  · rcases h.state with heq | hfailed | ⟨hfirst, -⟩
    · rw [heq] at hbefore
      exact .inr (.inr ⟨hbefore, hafter⟩)
    · rw [hfailed] at hbefore
      simp at hbefore
    · exact .inr (.inr ⟨hfirst, hafter⟩)

theorem calm_failWith (b : AutonomyQuiescenceBarrier) (reason : String) :
    Calm b (b.failWith reason) := by
  refine ⟨?_, ?_, .inr (.inl (failWith_state b reason))⟩
  · rw [failWith]
    split_ifs <;> rfl
  · rw [failWith]
    split_ifs <;> rfl

theorem calm_refreshReady (b : AutonomyQuiescenceBarrier) : Calm b b.refreshReady := by
  unfold refreshReady
  cases hstate : b.state with
  | idle | acknowledged | failed => exact .refl b
  | waiting | ready =>
    refine ⟨rfl, rfl, .inr (.inr ⟨by simp [hstate], ?_⟩)⟩
    by_cases hmissing : b.missing = []
    · exact .inr (if_pos hmissing)
    · exact .inl (if_neg hmissing)
  | ackInFlight =>
    dsimp only
    split_ifs
    · exact .refl b
    · exact calm_failWith b _

theorem Calm.refreshed (h : Calm b b') : Calm b b'.refreshReady :=
  h.trans (calm_refreshReady b')

theorem Calm.failed (h : Calm b b') (reason : String) : Calm b (b'.failWith reason) :=
  h.trans (calm_failWith b' reason)

theorem mem_rememberAcknowledgedIdentity (b : AutonomyQuiescenceBarrier)
    (identity : QuiescenceIdentity) :
    identity ∈ (b.rememberAcknowledgedIdentity identity).acknowledgedIdentities := by
  unfold rememberAcknowledgedIdentity
  by_cases hknown : identity ∈ b.acknowledgedIdentities
  · rw [if_pos hknown]
    exact hknown
  · rw [if_neg hknown]
    exact Finset.mem_insert_self _ _

theorem completes_remember (hstate : b.state = .ackInFlight)
    (hidentity : b.identity = some identity) (observed : Option QuiescenceIdentity) :
    Completes b (((b.rememberAcknowledgedIdentity identity).withState .acknowledged).withAuthority
      observed) identity := by
  obtain ⟨identities, order, heq, -⟩ := rememberAcknowledgedIdentity_eq b identity
  refine ⟨hstate, hidentity, ?_, rfl, mem_rememberAcknowledgedIdentity b identity⟩
  rw [heq]
  exact hidentity

theorem observeAuthority_changes (other : QuiescenceIdentity) (autonomyActive : Bool) :
    Calm b (b.observeAuthority other autonomyActive).1 ∨
      ∃ identity, Completes b (b.observeAuthority other autonomyActive).1 identity := by
  by_cases hb : b.active = true
  · rcases observeAuthority_cases other autonomyActive hb with
      heq | ⟨reason, observed, heq⟩ | ⟨hstate, expected, hidentity, heq⟩
    · rw [heq]
      exact .inl ⟨rfl, rfl, .inl rfl⟩
    · rw [heq]
      exact .inl ((calm_failWith b reason).trans ⟨rfl, rfl, .inl rfl⟩)
    · rw [heq]
      exact .inr ⟨expected, completes_remember hstate hidentity _⟩
  · rw [observeAuthority, if_pos (by simpa using hb)]
    exact .inl ⟨rfl, rfl, .inl rfl⟩

theorem calm_nav2GoalTerminal (b : AutonomyQuiescenceBarrier) (token : String) :
    Calm b (b.nav2GoalTerminal token).1 := by
  unfold nav2GoalTerminal
  dsimp only
  obtain ⟨tokens, order, hremember⟩ :=
    rememberTerminalNav2Goal_eq (b.withoutGoal (Text.strip token)) (Text.strip token)
  rw [hremember]
  have hupdate : Calm b ((b.withoutGoal (Text.strip token)).withTerminalGoals tokens order) :=
    ⟨rfl, rfl, .inl rfl⟩
  split_ifs <;> first | exact .refl b | exact calm_failWith b _ | exact hupdate.refreshed

theorem calm_markPriorityStopRequested (b : AutonomyQuiescenceBarrier) (commandId : String)
    (g : ℤ) : Calm b (b.markPriorityStopRequested commandId g).1 := by
  have hupdate : Calm b (b.withStop (Text.strip commandId) g) := ⟨rfl, rfl, .inl rfl⟩
  unfold markPriorityStopRequested
  dsimp only
  cases b.requireActive with
  | error e => split_ifs <;> exact .refl b
  | ok =>
    dsimp only
    split_ifs <;> first | exact .refl b | exact calm_failWith b _ | exact hupdate.refreshed

theorem calm_observeCmdVel (b : AutonomyQuiescenceBarrier) (generation : ℤ)
    (linearX angularZ : Double) : Calm b (b.observeCmdVel generation linearX angularZ).1 := by
  have hupdate : Calm b (b.withVelocity generation linearX angularZ) := ⟨rfl, rfl, .inl rfl⟩
  unfold observeCmdVel
  cases b.stopCmdVelGeneration with
  | none => split_ifs <;> exact .refl b
  | some requested =>
    dsimp only
    split_ifs <;> first | exact .refl b | exact hupdate.refreshed

theorem calm_waitReady (b : AutonomyQuiescenceBarrier) (timeoutS enteredAt now : Double) :
    Calm b (b.waitReady timeoutS enteredAt now).1 := by
  unfold waitReady
  cases checkTimeout timeoutS with
  | error e => exact .refl b
  | ok =>
    dsimp only
    split_ifs
    · exact .refl b
    · exact calm_refreshReady b
    · exact (calm_refreshReady b).failed _
    · exact calm_refreshReady b

theorem outside_changes (b : AutonomyQuiescenceBarrier) (h : Outside op = true) :
    Calm b (b.step op).1 ∨ ∃ identity, Completes b (b.step op).1 identity := by
  cases op with
  | «begin» | beginAcknowledgement | completeAcknowledgement => cases h
  | observeAuthority other autonomyActive => exact observeAuthority_changes other autonomyActive
  | observeFrontier status active accepted terminal =>
    have hupdate : Calm b (b.withFrontier status active accepted terminal) :=
      ⟨rfl, rfl, .inl rfl⟩
    simp only [AutonomyQuiescenceBarrier.step, Outcome.answer_fst, observeFrontier]
    split_ifs
    · exact .inl (.refl b)
    · exact .inl hupdate.refreshed
    · exact .inl hupdate
  | nav2GoalStarted token =>
    have hupdate : Calm b (b.withGoal (Text.strip token)) := ⟨rfl, rfl, .inl rfl⟩
    simp only [AutonomyQuiescenceBarrier.step, Outcome.answer_fst, nav2GoalStarted]
    split_ifs
    · exact .inl (.refl b)
    · exact .inl (.refl b)
    · exact .inl (.refl b)
    · exact .inl (hupdate.failed _)
    · exact .inl hupdate
  | nav2GoalTerminal token => exact .inl (calm_nav2GoalTerminal b token)
  | markPriorityStopRequested commandId g =>
    exact .inl (calm_markPriorityStopRequested b commandId g)
  | observePriorityStopResult commandId success detail =>
    have hupdate : Calm b b.withStopResult := ⟨rfl, rfl, .inl rfl⟩
    simp only [AutonomyQuiescenceBarrier.step, Outcome.answer_fst, observePriorityStopResult]
    split_ifs
    · exact .inl (.refl b)
    · exact .inl (calm_failWith b _)
    · exact .inl (calm_failWith b _)
    · exact .inl hupdate.refreshed
  | observeCmdVel generation linearX angularZ =>
    exact .inl (calm_observeCmdVel b generation linearX angularZ)
  | waitReady timeoutS enteredAt now => exact .inl (calm_waitReady b timeoutS enteredAt now)
  | waitAcknowledged => exact .inl (.refl b)
  | fail reason => exact .inl (calm_failWith b _)
  | snapshot => exact .inl (calm_refreshReady b)

theorem beginAcknowledgement_changes (b : AutonomyQuiescenceBarrier)
    (identity : QuiescenceIdentity) :
    (Calm b (b.beginAcknowledgement identity).1 ∧
        ∃ e, (b.beginAcknowledgement identity).2 = .error e) ∨
      (b.active = true ∧ b.identity = some identity ∧
        (b.beginAcknowledgement identity).1 = b.refreshReady.withState .ackInFlight ∧
        ∃ snapshot, (b.beginAcknowledgement identity).2 = .ok snapshot) := by
  unfold beginAcknowledgement
  dsimp only
  split_ifs with hfailed hrefused
  · exact .inl ⟨.refl b, _, rfl⟩
  · exact .inl ⟨calm_refreshReady b, _, rfl⟩
  · simp only [not_or, not_not] at hrefused
    obtain ⟨hready, hidentity, -⟩ := hrefused
    have hactive : b.refreshReady.active = true := active_iff.mpr (.inr (.inl hready))
    refine .inr ⟨(refreshReady_active hactive).2.1, ?_, rfl, _, rfl⟩
    rw [← (calm_refreshReady b).identity]
    exact hidentity

theorem completeAcknowledgement_changes (b : AutonomyQuiescenceBarrier)
    (identity : QuiescenceIdentity) :
    ((b.completeAcknowledgement identity).1 = b ∧
        ((∃ e, (b.completeAcknowledgement identity).2 = .error e) ∨
          identity ∈ b.acknowledgedIdentities)) ∨
      Completes b (b.completeAcknowledgement identity).1 identity := by
  unfold completeAcknowledgement
  split_ifs with hdone hfailed hrefused
  · exact .inl ⟨rfl, .inr hdone⟩
  · exact .inl ⟨rfl, .inl ⟨_, rfl⟩⟩
  · exact .inl ⟨rfl, .inl ⟨_, rfl⟩⟩
  · simp only [not_or, not_not] at hrefused
    obtain ⟨hstate, hidentity, hobserved, -⟩ := hrefused
    refine .inr ?_
    simp only [acknowledgeCurrent, hidentity]
    have hobserving : (b.rememberAcknowledgedIdentity identity).withState .acknowledged =
        ((b.rememberAcknowledgedIdentity identity).withState .acknowledged).withAuthority
          b.observedAuthority := by
      obtain ⟨identities, order, heq, -⟩ := rememberAcknowledgedIdentity_eq b identity
      rw [heq]
      rfl
    rw [hobserving]
    exact completes_remember hstate hidentity _

end Changes

section Invariant

structure Coherent (b : AutonomyQuiescenceBarrier) : Prop where
  idle : b.state = .idle → b.identity = none
  active : b.active = true → ∃ i, b.identity = some i ∧ i ∉ b.acknowledgedIdentities
  acknowledged : b.state = .acknowledged → ∃ i, b.identity = some i ∧ i ∈ b.acknowledgedIdentities

def Current (b : AutonomyQuiescenceBarrier) (identity : QuiescenceIdentity) : Prop :=
  b.state = .failed ∨ b.active = true ∧ b.identity = some identity

def Known (b : AutonomyQuiescenceBarrier) (identity : QuiescenceIdentity) : Prop :=
  identity ∈ b.acknowledgedIdentities ∨ Current b identity

instance (b : AutonomyQuiescenceBarrier) (identity : QuiescenceIdentity) :
    Decidable (Known b identity) :=
  inferInstanceAs (Decidable (_ ∨ _ ∨ _ ∧ _))

variable {b b' : AutonomyQuiescenceBarrier} {identity other : QuiescenceIdentity}

theorem Current.known (h : Current b identity) : Known b identity := .inr h

theorem Known.current (h : Known b identity) (hnot : identity ∉ b.acknowledgedIdentities) :
    Current b identity := h.resolve_left hnot

theorem Calm.active (h : Calm b b') (hb : b'.active = true) : b.active = true := by
  rw [active_iff] at hb ⊢
  rcases h.state with heq | hfailed | ⟨hbefore, -⟩
  · rwa [heq] at hb
  · simp [hfailed] at hb
  · exact hbefore.imp_right Or.inl

theorem Calm.inFlight (h : Calm b b') (hb : b'.state = .ackInFlight) : b.state = .ackInFlight := by
  rcases h.state with heq | hfailed | ⟨-, hafter⟩
  · exact heq ▸ hb
  · cases hb.symm.trans hfailed
  · rw [hb] at hafter
    simp at hafter

theorem Calm.coherent (h : Calm b b') (hb : Coherent b) : Coherent b' := by
  have hstate : ∀ {state}, b'.state = state → state ≠ .failed → state ≠ .waiting →
      state ≠ .ready → b.state = state := by
    intro state hb' hnot hwaiting hready
    rcases h.state with heq | hfailed | ⟨-, hafter⟩
    · exact heq ▸ hb'
    · exact absurd (hb'.symm.trans hfailed) hnot
    · rw [hb'] at hafter
      exact absurd hafter (not_or.mpr ⟨hwaiting, hready⟩)
  refine ⟨fun hidle ↦ ?_, fun hactive ↦ ?_, fun hacknowledged ↦ ?_⟩
  · rw [h.identity]
    exact hb.idle (hstate hidle (by simp) (by simp) (by simp))
  · rw [h.identity, h.identities]
    exact hb.active (h.active hactive)
  · rw [h.identity, h.identities]
    exact hb.acknowledged (hstate hacknowledged (by simp) (by simp) (by simp))

theorem Calm.current (h : Calm b b') (hb : Current b identity) : Current b' identity := by
  rcases hb with hfailed | ⟨hactive, hidentity⟩
  · rcases h.state with heq | hfailed' | ⟨hbefore, -⟩
    · exact .inl (heq.trans hfailed)
    · exact .inl hfailed'
    · rw [hfailed] at hbefore
      simp at hbefore
  · rcases h.state with heq | hfailed' | ⟨-, hafter⟩
    · exact .inr ⟨(active_congr heq).trans hactive, h.identity.trans hidentity⟩
    · exact .inl hfailed'
    · exact .inr ⟨active_iff.mpr (hafter.imp_right Or.inl), h.identity.trans hidentity⟩

theorem Calm.known (h : Calm b b') (hb : Known b identity) : Known b' identity := by
  rw [Known, h.identities]
  exact hb.imp_right h.current

theorem Completes.coherent (h : Completes b b' identity) : Coherent b' := by
  refine ⟨fun hidle ↦ ?_, fun hactive ↦ ?_, fun _ ↦ ⟨identity, h.stays, h.remembered⟩⟩
  · cases h.state.symm.trans hidle
  · rw [active_iff, h.state] at hactive
    simp at hactive

namespace WorkerPoint

def flies : WorkerPoint → Option QuiescenceIdentity
  | .acknowledging i | .completing i | .handling i _ | .failing i _ => some i
  | _ => none

def Tells (b : AutonomyQuiescenceBarrier) : WorkerPoint → Prop
  | .checking i | .entering i | .acknowledging i | .completing i | .handling i _ | .judging i =>
    Known b i
  | .comparing i | .settling i | .stopping i | .waiting i | .beginning i => Current b i
  | .failing i _ => b.state = .failed ∨ b.identity = some i
  | .looking i => b.state = .failed ∨ i ∈ b.acknowledgedIdentities
  | .leaving | .restarting _ | .ended => True

structure Serves (b : AutonomyQuiescenceBarrier) (p : WorkerPoint) : Prop where
  coherent : Coherent b
  inCharge : p.inCharge = true
  tells : p.Tells b
  inFlight : b.state = .ackInFlight → ∃ i, p.flies = some i ∧ b.identity = some i

variable {p : WorkerPoint} {r : WorkerReading}

theorem inCharge_of_inside (hp : p.inside = true) : p.inCharge = true := by
  cases p <;> first | rfl | cases hp

theorem Serves.calm (hp : Serves b p) (h : Calm b b') : Serves b' p := by
  refine ⟨h.coherent hp.coherent, hp.inCharge, ?_, fun hstate ↦ ?_⟩
  · have htells := hp.tells
    have hfailed : b.state = .failed → b'.state = .failed := by
      intro hfailed
      rcases h.state with heq | hstate | ⟨hbefore, -⟩
      · exact heq.trans hfailed
      · exact hstate
      · simp [hfailed] at hbefore
    cases p with
    | checking | entering | acknowledging | completing | handling | judging => exact h.known htells
    | comparing | settling | stopping | waiting | beginning => exact h.current htells
    | failing i error => exact htells.imp hfailed h.identity.trans
    | looking i => exact htells.imp hfailed fun hmem ↦ h.identities ▸ hmem
    | leaving | restarting | ended => trivial
  · rw [h.identity]
    exact hp.inFlight (h.inFlight hstate)

theorem Serves.completes (hp : Serves b p) (h : Completes b b' identity) : Serves b' p := by
  obtain ⟨i, hflies, hidentity⟩ := hp.inFlight h.inFlight
  obtain rfl : i = identity := Option.some.inj (hidentity.symm.trans h.stands)
  refine ⟨h.coherent, hp.inCharge, ?_, fun hstate ↦ ?_⟩
  · cases p with
    | acknowledging | completing | handling =>
      cases hflies
      exact .inl h.remembered
    | failing =>
      cases hflies
      exact .inr h.stays
    | _ => cases hflies
  · cases h.state.symm.trans hstate

theorem Serves.notInFlight (hp : Serves b p) (hflies : p.flies = none) :
    b.state ≠ .ackInFlight := by
  intro hstate
  obtain ⟨i, hi, -⟩ := hp.inFlight hstate
  cases hflies.symm.trans hi

theorem Serves.landed (hp : Serves b p) (hflies : p.flies = some identity)
    (hmem : identity ∈ b.acknowledgedIdentities) : b.state ≠ .ackInFlight := by
  intro hstate
  obtain ⟨i, hi, hidentity⟩ := hp.inFlight hstate
  obtain ⟨j, hj, hfresh⟩ := hp.coherent.active (active_iff.mpr (.inr (.inr hstate)))
  cases hflies.symm.trans hi
  cases hidentity.symm.trans hj
  exact hfresh hmem

theorem Serves.goes {q : WorkerPoint} (hp : Serves b p) (h : Calm b b')
    (hcharge : q.inCharge = true) (htells : q.Tells b')
    (hflies : q.flies = p.flies ∨ p.flies = none) : Serves b' q := by
  refine ⟨h.coherent hp.coherent, hcharge, htells, fun hstate ↦ ?_⟩
  obtain ⟨i, hi, hidentity⟩ := hp.inFlight (h.inFlight hstate)
  rcases hflies with heq | hnone
  · exact ⟨i, heq.trans hi, h.identity.trans hidentity⟩
  · cases hnone.symm.trans hi

theorem perform_eq (b : AutonomyQuiescenceBarrier) (identity : QuiescenceIdentity)
    (op : Operation) (next : Answer → WorkerPoint) :
    (perform b identity op next).1 = (b.step op).1 ∧
      ((∃ error, (b.step op).2 = .error error ∧
          (perform b identity op next).2 = .handling identity (exceptionText error)) ∨
        ∃ answer, (b.step op).2 = .ok answer ∧
          (perform b identity op next).2 = next answer) := by
  unfold perform
  rcases b.step op with ⟨b', e | answer⟩
  · exact ⟨rfl, .inl ⟨e, rfl, rfl⟩⟩
  · exact ⟨rfl, .inr ⟨answer, rfl, rfl⟩⟩

theorem Serves.drains {op : Operation} {next : Answer → WorkerPoint} (hp : Serves b p)
    (hflies : p.flies = none) (hcurrent : Current b identity) (hop : Outside op = true)
    (hnext : ∀ answer, (next answer).inCharge = true ∧
      ∀ b', Current b' identity → (next answer).Tells b') :
    Serves (perform b identity op next).1 (perform b identity op next).2 := by
  have hcalm : Calm b (b.step op).1 := by
    rcases outside_changes b hop with hcalm | ⟨i, hcompletes⟩
    · exact hcalm
    · exact absurd hcompletes.inFlight (hp.notInFlight hflies)
  obtain ⟨hb, ⟨error, -, hq⟩ | ⟨answer, -, hq⟩⟩ := perform_eq b identity op next
  · rw [hb, hq]
    exact hp.goes hcalm rfl (hcalm.current hcurrent).known (.inr hflies)
  · rw [hb, hq]
    exact hp.goes hcalm (hnext answer).1 ((hnext answer).2 _ (hcalm.current hcurrent))
      (.inr hflies)

theorem Serves.beginsAcknowledgement (hp : Serves b (.beginning identity)) :
    Serves (advance b r (.beginning identity)).1 (advance b r (.beginning identity)).2 := by
  obtain ⟨hb, hanswer⟩ := perform_eq b identity (.beginAcknowledgement identity)
    fun _ ↦ .acknowledging identity
  have hstep : (b.step (.beginAcknowledgement identity)).1 =
    (b.beginAcknowledgement identity).1 := rfl
  rw [advance, hb, hstep]
  rcases beginAcknowledgement_changes b identity with
    ⟨hcalm, e, he⟩ | ⟨hactive, hidentity, hafter, snapshot, hok⟩
  · have hknown := (hcalm.current hp.tells).known
    rcases hanswer with ⟨error, -, hq⟩ | ⟨answer, hanswer, -⟩
    · rw [hq]
      exact hp.goes hcalm rfl hknown (.inr rfl)
    · simp only [AutonomyQuiescenceBarrier.step, Outcome.answer, he] at hanswer
      cases hanswer
  · rcases hanswer with ⟨error, herror, -⟩ | ⟨answer, -, hq⟩
    · simp only [AutonomyQuiescenceBarrier.step, Outcome.answer, hok] at herror
      cases herror
    rw [hq, hafter]
    have hcalm := calm_refreshReady b
    obtain ⟨i, hi, hfresh⟩ := hp.coherent.active hactive
    obtain rfl : i = identity := Option.some.inj (hi.symm.trans hidentity)
    have hstands : b.refreshReady.identity = some i := hcalm.identity.trans hi
    have hfresh' : i ∉ b.refreshReady.acknowledgedIdentities := by
      rw [hcalm.identities]
      exact hfresh
    refine ⟨⟨?_, fun _ ↦ ⟨i, hstands, hfresh'⟩, ?_⟩, rfl, .inr (.inr ⟨rfl, hstands⟩),
      fun _ ↦ ⟨i, rfl, hstands⟩⟩
    · intro hidle
      cases hidle
    · intro hacknowledged
      cases hacknowledged

theorem Serves.completesAcknowledgement (hp : Serves b (.completing identity)) :
    Serves (advance b r (.completing identity)).1 (advance b r (.completing identity)).2 := by
  obtain ⟨hb, hanswer⟩ := perform_eq b identity (.completeAcknowledgement identity)
    fun _ ↦ .looking identity
  have hstep : (b.step (.completeAcknowledgement identity)).1 =
    (b.completeAcknowledgement identity).1 := rfl
  rw [advance, hb, hstep]
  rcases completeAcknowledgement_changes b identity with ⟨hsame, hcase⟩ | hcompletes
  · rw [hsame]
    rcases hanswer with ⟨error, -, hq⟩ | ⟨answer, hanswer, hq⟩
    · rw [hq]
      exact hp.goes (.refl b) rfl hp.tells (.inl rfl)
    · rw [hq]
      rcases hcase with ⟨e, he⟩ | hmem
      · simp only [AutonomyQuiescenceBarrier.step, Outcome.answer, he] at hanswer
        cases hanswer
      · exact ⟨hp.coherent, rfl, .inr hmem, fun hstate ↦ absurd hstate (hp.landed rfl hmem)⟩
  · have hdone : ∀ q : WorkerPoint, q.inCharge = true →
        q.Tells (b.completeAcknowledgement identity).1 →
        Serves (b.completeAcknowledgement identity).1 q := by
      intro q hcharge htells
      refine ⟨hcompletes.coherent, hcharge, htells, fun hstate ↦ ?_⟩
      cases hcompletes.state.symm.trans hstate
    rcases hanswer with ⟨error, -, hq⟩ | ⟨answer, -, hq⟩
    · rw [hq]
      exact hdone _ rfl (.inl hcompletes.remembered)
    · rw [hq]
      exact hdone _ rfl (.inr hcompletes.remembered)

theorem Serves.looks (hp : Serves b (.looking identity)) :
    Serves (advance b r (.looking identity)).1 (advance b r (.looking identity)).2 := by
  have hcalm := calm_refreshReady b
  have hcoherent := hcalm.coherent hp.coherent
  simp only [advance]
  split_ifs with hfailed
  · exact hp.goes hcalm rfl trivial (.inr rfl)
  cases hidentity : b.refreshReady.identity with
  | none => exact hp.goes hcalm rfl trivial (.inr rfl)
  | some other =>
    dsimp only
    split_ifs
    · refine hp.goes hcalm rfl ?_ (.inr rfl)
      change Known b.refreshReady other
      cases hstate : b.refreshReady.state with
      | idle =>
        rw [hcoherent.idle hstate] at hidentity
        cases hidentity
      | waiting | ready | ackInFlight =>
        refine .inr (.inr ⟨?_, hidentity⟩)
        simp [active_iff, hstate]
      | acknowledged =>
        obtain ⟨i, hi, hmem⟩ := hcoherent.acknowledged hstate
        cases hidentity.symm.trans hi
        exact .inl hmem
      | failed => exact absurd hstate hfailed
    · exact hp.goes hcalm rfl trivial (.inr rfl)

theorem Serves.advances (hp : Serves b p) :
    Serves (p.advance b r).1 (p.advance b r).2 := by
  cases p with
  | checking i =>
    simp only [advance]
    split_ifs with hmem
    · exact hp.goes (.refl b) rfl (.inr hmem) (.inr rfl)
    · exact hp.goes (.refl b) rfl hp.tells (.inr rfl)
  | entering i =>
    simp only [advance]
    split_ifs with hmem
    · exact hp.goes (.refl b) rfl (.inr hmem) (.inr rfl)
    · exact hp.goes (.refl b) rfl (Known.current hp.tells hmem) (.inr rfl)
  | comparing i =>
    have hcalm := calm_refreshReady b
    have hcurrent := hcalm.current hp.tells
    simp only [advance]
    split_ifs
    · exact hp.goes hcalm rfl hcurrent.known (.inr rfl)
    · exact hp.goes hcalm rfl hcurrent (.inr rfl)
    · exact hp.goes hcalm rfl hcurrent (.inr rfl)
  | settling i => exact hp.drains rfl hp.tells rfl fun _ ↦ ⟨rfl, fun _ h ↦ h⟩
  | stopping i => exact hp.drains rfl hp.tells rfl fun _ ↦ ⟨rfl, fun _ h ↦ h⟩
  | waiting i =>
    refine hp.drains rfl hp.tells rfl fun answer ↦ ?_
    cases answer <;> exact ⟨rfl, fun _ h ↦ h⟩
  | beginning i => exact hp.beginsAcknowledgement
  | acknowledging i => exact hp.goes (.refl b) rfl hp.tells (.inl rfl)
  | completing i => exact hp.completesAcknowledgement
  | handling i error =>
    simp only [advance]
    split_ifs with hmem
    · exact ⟨hp.coherent, rfl, .inr hmem, fun hstate ↦ absurd hstate (hp.landed rfl hmem)⟩
    · refine hp.goes (.refl b) rfl ?_ (.inl rfl)
      exact (Known.current hp.tells hmem).imp_right And.right
  | failing i error =>
    have hfailed := failWith_state b
    refine ⟨(calm_failWith b _).coherent hp.coherent, rfl, .inl (hfailed _), fun hstate ↦ ?_⟩
    cases (hfailed _).symm.trans hstate
  | looking i => exact hp.looks
  | judging i =>
    simp only [advance]
    split_ifs
    · exact hp.goes (.refl b) rfl hp.tells (.inr rfl)
    · exact hp.goes (.refl b) rfl trivial (.inr rfl)
  | leaving => exact hp
  | restarting | ended => cases hp.inCharge

theorem Serves.begins {required : Option Bool} (hp : Serves b p) (hinactive : b.active = false)
    (hfailed : b.state ≠ .failed) (hnew : identity ∉ b.acknowledgedIdentities)
    (hfailing : p.fails = false) : Serves (b.opened identity required) p := by
  refine ⟨⟨?_, fun _ ↦ ⟨identity, rfl, hnew⟩, ?_⟩, hp.inCharge, ?_, ?_⟩
  · intro hidle
    cases hidle
  · intro hacknowledged
    cases hacknowledged
  · have hcurrent : ∀ {i}, ¬ Current b i := by
      rintro i (h | ⟨hactive, -⟩)
      · exact hfailed h
      · cases hinactive.symm.trans hactive
    have htells := hp.tells
    cases p with
    | checking | entering | acknowledging | completing | handling | judging =>
      exact .inl (htells.resolve_right hcurrent)
    | comparing | settling | stopping | waiting | beginning => exact absurd htells hcurrent
    | failing i error => cases hfailing
    | looking => exact .inr (htells.resolve_left hfailed)
    | leaving | restarting | ended => trivial
  · intro hstate
    cases hstate

end WorkerPoint

end Invariant

namespace HandOff

section Runs

variable {s : HandOff} {b : AutonomyQuiescenceBarrier} {i j : ℕ} {p q : WorkerPoint}
  {identity : QuiescenceIdentity}

theorem move_self (h : s.threads[i]? = some p) : (s.move i q).threads[i]? = some q := by
  rw [move, List.getElem?_set_self (List.getElem?_eq_some_iff.mp h).1]

theorem move_other (h : j ≠ i) : (s.move i q).threads[j]? = s.threads[j]? := by
  rw [move, List.getElem?_set_ne h.symm]

structure Staffed (s : HandOff) : Prop where
  slot : ∀ i : ℕ, s.quiescenceWorker = some i ↔ ∃ p : WorkerPoint, s.threads[i]? = some p ∧
    p.inCharge = true
  serves : ∀ (i : ℕ) (p : WorkerPoint), s.threads[i]? = some p → p.inCharge = true →
    p.Serves s.autonomyQuiescence
  coherent : Coherent s.autonomyQuiescence
  free : s.quiescenceWorker = none → s.autonomyQuiescence.state ≠ .ackInFlight
  covered : s.autonomyQuiescence.active = true → s.quiescenceWorker ≠ none ∨
    (∃ (i : ℕ) (identity : QuiescenceIdentity),
      s.threads[i]? = some (WorkerPoint.restarting identity) ∧
        s.autonomyQuiescence.identity = some identity) ∨ s.callbacks ≠ []

theorem Staffed.unique (h : Staffed s) (hi : s.threads[i]? = some p) (hp : p.inCharge = true)
    (hj : s.threads[j]? = some q) (hq : q.inCharge = true) : i = j := by
  have hslot := (h.slot i).mpr ⟨p, hi, hp⟩
  exact Option.some.inj (hslot.symm.trans ((h.slot j).mpr ⟨q, hj, hq⟩))

theorem Staffed.calm (h : Staffed s) (hb : Calm s.autonomyQuiescence b) :
    Staffed (s.withBarrier b) := by
  refine ⟨h.slot, fun i p hi hp ↦ (h.serves i p hi hp).calm hb, hb.coherent h.coherent,
    fun hfree hstate ↦ h.free hfree (hb.inFlight hstate), fun hactive ↦ ?_⟩
  have hidentity := hb.identity
  rcases h.covered (hb.active hactive) with hslot | ⟨i, identity, hi, hstands⟩ | hcallbacks
  · exact .inl hslot
  · exact .inr (.inl ⟨i, identity, hi, hidentity.trans hstands⟩)
  · exact .inr (.inr hcallbacks)

theorem Staffed.completes (h : Staffed s) (hb : Completes s.autonomyQuiescence b identity) :
    Staffed (s.withBarrier b) := by
  refine ⟨h.slot, fun i p hi hp ↦ (h.serves i p hi hp).completes hb, hb.coherent,
    fun hfree _ ↦ h.free hfree hb.inFlight, fun hactive ↦ ?_⟩
  rw [active_iff] at hactive
  have hstate := hb.state
  simp only [withBarrier, hstate] at hactive
  simp at hactive

theorem Staffed.goes (h : Staffed s) (hi : s.threads[i]? = some p) (hp : p.inCharge = true)
    (hq : q.Serves b) : Staffed ((s.withBarrier b).move i q) := by
  have hslot : s.quiescenceWorker = some i := (h.slot i).mpr ⟨p, hi, hp⟩
  have hself : ((s.withBarrier b).move i q).threads[i]? = some q := move_self hi
  have hother : ∀ {j}, j ≠ i → ((s.withBarrier b).move i q).threads[j]? = s.threads[j]? :=
    fun hj ↦ move_other (s := s.withBarrier b) hj
  refine ⟨fun j ↦ ?_, fun j p' hj hp' ↦ ?_, hq.coherent, fun hfree ↦ ?_, fun _ ↦ .inl ?_⟩
  · by_cases hji : j = i
    · subst hji
      exact ⟨fun _ ↦ ⟨q, hself, hq.inCharge⟩, fun _ ↦ hslot⟩
    · rw [hother hji]
      exact h.slot j
  · by_cases hji : j = i
    · subst hji
      obtain rfl := Option.some.inj (hself.symm.trans hj)
      exact hq
    · rw [hother hji] at hj
      exact absurd (h.unique hj hp' hi hp) hji
  · cases hslot.symm.trans hfree
  · intro hfree
    cases hslot.symm.trans hfree

theorem Staffed.ends (h : Staffed s) (hi : s.threads[i]? = some p) (hp : p.inCharge = false)
    (hslot : s.quiescenceWorker ≠ none) : Staffed (s.move i .ended) := by
  have hself : (s.move i .ended).threads[i]? = some .ended := move_self hi
  refine ⟨fun j ↦ ?_, fun j p' hj hp' ↦ ?_, h.coherent, fun hfree ↦ absurd hfree hslot,
    fun _ ↦ .inl hslot⟩
  · by_cases hji : j = i
    · subst hji
      refine ⟨fun hj ↦ ?_, fun ⟨p', hj, hp'⟩ ↦ ?_⟩
      · obtain ⟨p', hj, hp'⟩ := (h.slot j).mp hj
        cases hi.symm.trans hj
        cases hp.symm.trans hp'
      · cases hself.symm.trans hj
        cases hp'
    · rw [move_other hji]
      exact h.slot j
  · by_cases hji : j = i
    · subst hji
      cases hself.symm.trans hj
      cases hp'
    · rw [move_other hji] at hj
      exact h.serves j p' hj hp'

theorem isAlive_iff : s.isAlive i = true ↔ ∃ p, s.threads[i]? = some p ∧ p ≠ .ended := by
  unfold isAlive
  cases s.threads[i]? with
  | none => simp
  | some p => cases p <;> simp

theorem isAlive_of_inCharge (hi : s.threads[i]? = some p) (hp : p.inCharge = true) :
    s.isAlive i = true := by
  refine isAlive_iff.mpr ⟨p, hi, ?_⟩
  rintro rfl
  cases hp

theorem Staffed.isAlive (h : Staffed s) (hslot : s.quiescenceWorker = some i) :
    s.isAlive i = true := by
  obtain ⟨p, hi, hp⟩ := (h.slot i).mp hslot
  exact isAlive_of_inCharge hi hp

theorem startWorker_busy (hslot : s.quiescenceWorker = some i) (halive : s.isAlive i = true) :
    s.startAutonomyQuiescenceWorker identity = s := by
  unfold startAutonomyQuiescenceWorker
  rw [hslot]
  exact if_pos halive

theorem startWorker_free (hslot : s.quiescenceWorker = none) :
    s.startAutonomyQuiescenceWorker identity =
      { s with
        quiescenceWorker := some s.threads.length
        threads := s.threads ++ [.checking identity] } := by
  rw [startAutonomyQuiescenceWorker, hslot]
  rfl

theorem Staffed.starts (h : Staffed s) (callbacks : List QuiescenceIdentity)
    (hknown : s.quiescenceWorker = none → Known s.autonomyQuiescence identity) :
    Staffed ((s.withCallbacks callbacks).startAutonomyQuiescenceWorker identity) ∧
      ((s.withCallbacks callbacks).startAutonomyQuiescenceWorker identity).quiescenceWorker ≠
        none := by
  by_cases hslot : s.quiescenceWorker = none
  · rw [startWorker_free (s := s.withCallbacks callbacks) hslot]
    have hvacant : ∀ (i : ℕ) (p : WorkerPoint), s.threads[i]? = some p → p.inCharge = false := by
      intro i p hi
      by_contra hp
      have hi' := (h.slot i).mpr ⟨p, hi, by simpa using hp⟩
      cases hslot.symm.trans hi'
    have hlast : (s.threads ++ [.checking identity])[s.threads.length]? =
        some (.checking identity) := List.getElem?_concat_length
    have hwhich : ∀ {i : ℕ} {p : WorkerPoint},
        (s.threads ++ [.checking identity])[i]? = some p → p.inCharge = true →
        i = s.threads.length ∧ p = .checking identity := by
      intro i p hi hp
      rcases Nat.lt_trichotomy i s.threads.length with hlt | rfl | hgt
      · rw [List.getElem?_append_left hlt] at hi
        cases hp.symm.trans (hvacant i p hi)
      · exact ⟨rfl, Option.some.inj (hi.symm.trans hlast)⟩
      · rw [List.getElem?_eq_none (by simp; omega)] at hi
        cases hi
    refine ⟨⟨fun i ↦ ⟨fun hi ↦ ?_, fun hserved ↦ ?_⟩, fun i p hi hp ↦ ?_, h.coherent,
      fun hfree ↦ (by cases hfree), fun _ ↦ .inl (by simp)⟩, by simp⟩
    · obtain rfl := Option.some.inj hi
      exact ⟨_, hlast, rfl⟩
    · obtain ⟨p, hi, hp⟩ := hserved
      obtain ⟨rfl, -⟩ := hwhich hi hp
      rfl
    · obtain ⟨rfl, rfl⟩ := hwhich hi hp
      exact ⟨h.coherent, rfl, hknown hslot, fun hstate ↦ absurd hstate (h.free hslot)⟩
  · obtain ⟨i, hi⟩ := Option.ne_none_iff_exists'.mp hslot
    have halive : (s.withCallbacks callbacks).isAlive i = true := h.isAlive hi
    rw [startWorker_busy (s := s.withCallbacks callbacks) hi halive]
    exact ⟨⟨h.slot, h.serves, h.coherent, h.free, fun _ ↦ .inl hslot⟩, hslot⟩

theorem release_self (hi : s.threads[i]? = some p)
    (hactive : s.autonomyQuiescence.refreshReady.active = true)
    (hidentity : s.autonomyQuiescence.refreshReady.identity = some identity) :
    (s.release i).threads[i]? = some (.restarting identity) := by
  have hself : (s.release i).threads[i]? = some _ := move_self hi
  rw [hself, hidentity]
  exact congrArg some (if_pos hactive)

theorem Staffed.releases (h : Staffed s) (hi : s.threads[i]? = some .leaving) :
    Staffed (s.release i) := by
  have hcalm := calm_refreshReady s.autonomyQuiescence
  have hcoherent := hcalm.coherent h.coherent
  have hslot : s.quiescenceWorker = some i := (h.slot i).mpr ⟨_, hi, rfl⟩
  have hserves := (h.serves i _ hi rfl).calm hcalm
  have hvacant : ∀ (j : ℕ) (p : WorkerPoint), (s.release i).threads[j]? = some p →
      p.inCharge = false := by
    intro j p hj
    by_cases hji : j = i
    · subst hji
      have hself : (s.release j).threads[j]? = some _ := move_self hi
      rw [hself] at hj
      obtain rfl := Option.some.inj hj
      cases s.autonomyQuiescence.refreshReady.identity with
      | none => rfl
      | some identity =>
        dsimp only
        split_ifs <;> rfl
    · have hother : (s.release i).threads[j]? = s.threads[j]? := move_other hji
      rw [hother] at hj
      by_contra hp
      exact hji (h.unique hj (by simpa using hp) hi rfl)
  have hfree : (s.release i).quiescenceWorker = none := if_pos hslot
  refine ⟨fun j ↦ ⟨fun hj ↦ ?_, fun ⟨p, hj, hp⟩ ↦ ?_⟩, fun j p hj hp ↦ ?_, hcoherent,
    fun _ ↦ hserves.notInFlight rfl, fun hactive ↦ .inr (.inl ?_)⟩
  · cases hfree.symm.trans hj
  · cases hp.symm.trans (hvacant j p hj)
  · cases hp.symm.trans (hvacant j p hj)
  · obtain ⟨identity, hidentity, -⟩ := hcoherent.active hactive
    exact ⟨i, identity, release_self hi hactive hidentity, hidentity⟩

def Orderly (s : HandOff) : HandOffEvent → Prop
  | .revoke identity requireFrontier =>
    (s.autonomyQuiescence.begin identity requireFrontier).2 = .ok true →
      identity ∉ s.autonomyQuiescence.acknowledgedIdentities ∧
        ∀ p ∈ s.threads, p.fails = false
  | .start callback => s.quiescenceWorker = none →
    ∀ identity ∈ s.callbacks[callback]?, Known s.autonomyQuiescence identity
  | .run thread _ => s.quiescenceWorker = none →
    ∀ identity ∈ s.threads[thread]?.bind WorkerPoint.restarts,
      Known s.autonomyQuiescence identity
  | _ => True

instance (s : HandOff) : (e : HandOffEvent) → Decidable (Orderly s e)
  | .revoke identity requireFrontier => inferInstanceAs (Decidable
    ((s.autonomyQuiescence.begin identity requireFrontier).2 = .ok true → _ ∧ ∀ p ∈ _, _ = false))
  | .start callback => inferInstanceAs (Decidable (_ → ∀ identity ∈ s.callbacks[callback]?, _))
  | .run thread _ => inferInstanceAs (Decidable
    (_ → ∀ identity ∈ s.threads[thread]?.bind WorkerPoint.restarts, _))
  | .operate _ _ | .raise _ _ => .isTrue trivial

theorem Staffed.revokes {required : Option Bool} (h : Staffed s)
    (he : Orderly s (.revoke identity required)) :
    Staffed (s.step (.revoke identity required)).1 := by
  rcases begin_cases s.autonomyQuiescence identity required with ⟨hnot, hb⟩ | ⟨hfailed, hb⟩
  · have hcalm : Calm s.autonomyQuiescence (s.autonomyQuiescence.begin identity required).1 := by
      unfold AutonomyQuiescenceBarrier.begin at hnot ⊢
      split_ifs at hnot ⊢
      · exact .refl _
      · exact .refl _
      · exact calm_failWith _ _
      · exact .refl _
      · exact absurd rfl hnot
    have hstep : (s.step (.revoke identity required)).1 =
        s.withBarrier (s.autonomyQuiescence.begin identity required).1 := by
      rcases hbegin : s.autonomyQuiescence.begin identity required with ⟨b, e | _ | _⟩
      · simp only [step, hbegin]
      · simp only [step, hbegin]
      · exact absurd (congrArg Prod.snd hbegin) hnot
    rw [hstep]
    exact h.calm hcalm
  · have hinactive : s.autonomyQuiescence.active = false :=
      begins_inactive (begins_iff.mpr (congrArg Prod.snd hb))
    obtain ⟨hnew, hfailing⟩ := he (congrArg Prod.snd hb)
    rw [opened_settles] at hb
    simp only [step, hb]
    refine ⟨h.slot, fun i p hi hp ↦ ?_, ⟨?_, fun _ ↦ ⟨identity, rfl, hnew⟩, ?_⟩, fun _ hstate ↦ ?_,
      fun _ ↦ .inr (.inr (by simp))⟩
    · exact (h.serves i p hi hp).begins hinactive hfailed hnew
        (hfailing p (List.mem_of_getElem? hi))
    · intro hidle
      cases hidle
    · intro hacknowledged
      cases hacknowledged
    · cases hstate

theorem Staffed.runs {reading : WorkerReading} (h : Staffed s) (he : Orderly s (.run i reading)) :
    Staffed (s.step (.run i reading)).1 := by
  simp only [step]
  cases hi : s.threads[i]? with
  | none => exact h
  | some p =>
    cases p with
    | leaving => exact h.releases hi
    | restarting identity =>
      obtain ⟨hstarted, hslot⟩ :=
        h.starts s.callbacks fun hfree ↦ he hfree identity (by rw [hi]; rfl)
      have hi' : (s.startAutonomyQuiescenceWorker identity).threads[i]? =
          some (.restarting identity) := by
        unfold startAutonomyQuiescenceWorker
        split_ifs
        · exact hi
        · rw [List.getElem?_append_left (List.getElem?_eq_some_iff.mp hi).1]
          exact hi
      exact hstarted.ends hi' rfl hslot
    | ended => exact h
    | _ => exact h.goes hi rfl ((h.serves i _ hi rfl).advances)

theorem Staffed.step {e : HandOffEvent} (h : Staffed s) (he : Orderly s e) :
    Staffed (s.step e).1 := by
  cases e with
  | operate op outside =>
    rcases outside_changes s.autonomyQuiescence outside with hcalm | ⟨identity, hcompletes⟩
    · exact h.calm hcalm
    · exact h.completes hcompletes
  | revoke identity required => exact h.revokes he
  | start callback =>
    simp only [HandOff.step]
    cases hcallback : s.callbacks[callback]? with
    | none => exact h
    | some identity => exact (h.starts _ fun hfree ↦ he hfree identity hcallback).1
  | run i reading => exact h.runs he
  | raise i error =>
    simp only [HandOff.step]
    cases hi : s.threads[i]? with
    | none => exact h
    | some p =>
      dsimp only
      cases htrying : p.trying with
      | none => exact h
      | some identity =>
        have hp : p.inCharge = true := by
          cases p <;> first | rfl | cases htrying
        refine h.goes hi hp ?_
        have hserves := h.serves i p hi hp
        have htells := hserves.tells
        cases p <;> cases htrying <;>
          first
            | exact hserves.goes (.refl _) rfl htells (.inl rfl)
            | exact hserves.goes (.refl _) rfl (Current.known htells) (.inr rfl)

def Reaches (s : HandOff) (identity : QuiescenceIdentity) : Prop :=
  ∃ own : List ℕ, ∃ (i : ℕ) (p : WorkerPoint),
    (run step s (own.map fun i ↦ .run i {})).threads[i]? = some p ∧
      p.processes = some identity ∧
      Current (run step s (own.map fun i ↦ .run i {})).autonomyQuiescence identity

structure Awaits (b : AutonomyQuiescenceBarrier) (identity : QuiescenceIdentity) : Prop where
  state : b.state = .waiting ∨ b.state = .ready
  stands : b.identity = some identity
  fresh : identity ∉ b.acknowledgedIdentities

theorem Awaits.active (h : Awaits b identity) : b.active = true :=
  active_iff.mpr (h.state.imp_right Or.inl)

theorem Awaits.refreshed (h : Awaits b identity) : Awaits b.refreshReady identity := by
  have hcalm := calm_refreshReady b
  refine ⟨?_, hcalm.identity.trans h.stands, hcalm.identities ▸ h.fresh⟩
  have hrefresh : b.refreshReady = b.withState (if b.missing = [] then .ready else .waiting) := by
    unfold refreshReady
    rcases h.state with hstate | hstate <;> rw [hstate]
  rw [hrefresh]
  by_cases hmissing : b.missing = []
  · exact .inr (if_pos hmissing)
  · exact .inl (if_neg hmissing)

theorem Reaches.back (h : Reaches (s.step (.run i {})).1 identity) : Reaches s identity := by
  obtain ⟨own, j, p, hj, hp, hcurrent⟩ := h
  exact ⟨i :: own, j, p, hj, hp, hcurrent⟩

theorem reaches_comparing (hb : Awaits s.autonomyQuiescence identity)
    (hi : s.threads[i]? = some (.comparing identity)) : Reaches s identity := by
  have hafter := hb.refreshed
  refine ⟨[i], i, if s.autonomyQuiescence.refreshReady.frontierRequired then .settling identity
    else .stopping identity, ?_, ?_, ?_⟩
  · simp only [List.map_cons, List.map_nil, run_cons, run_nil, step, hi, WorkerPoint.advance]
    rw [if_neg (not_not.mpr hafter.stands)]
    exact move_self hi
  · split_ifs <;> rfl
  · simp only [List.map_cons, List.map_nil, run_cons, run_nil, step, hi, WorkerPoint.advance]
    exact .inr ⟨hafter.active, hafter.stands⟩

theorem reaches_entering (hb : Awaits s.autonomyQuiescence identity)
    (hi : s.threads[i]? = some (.entering identity)) : Reaches s identity := by
  refine Reaches.back (i := i) ?_
  simp only [step, hi, WorkerPoint.advance]
  rw [if_neg hb.fresh]
  exact reaches_comparing hb (move_self hi)

theorem reaches_checking (hb : Awaits s.autonomyQuiescence identity)
    (hi : s.threads[i]? = some (.checking identity)) : Reaches s identity := by
  refine Reaches.back (i := i) ?_
  simp only [step, hi, WorkerPoint.advance]
  rw [if_neg hb.fresh]
  exact reaches_entering hb (move_self hi)

theorem reaches_judging (hb : Awaits s.autonomyQuiescence identity)
    (hi : s.threads[i]? = some (.judging identity)) : Reaches s identity := by
  refine Reaches.back (i := i) ?_
  simp only [step, hi, WorkerPoint.advance]
  rw [if_pos hb.active]
  exact reaches_checking hb (move_self hi)

theorem reaches_looking {other : QuiescenceIdentity} (hb : Awaits s.autonomyQuiescence identity)
    (hother : identity ≠ other) (hi : s.threads[i]? = some (.looking other)) :
    Reaches s identity := by
  have hafter := hb.refreshed
  refine Reaches.back (i := i) ?_
  have hnot : s.autonomyQuiescence.refreshReady.state ≠ .failed := state_ne_failed hafter.active
  simp only [step, hi, WorkerPoint.advance, hafter.stands]
  rw [if_neg hnot, if_pos hother]
  exact reaches_judging hafter (move_self hi)

theorem reaches_restarting (hb : Awaits s.autonomyQuiescence identity)
    (hslot : s.quiescenceWorker = none) (hi : s.threads[i]? = some (.restarting identity)) :
    Reaches s identity := by
  refine Reaches.back (i := i) ?_
  simp only [step, hi]
  rw [startWorker_free hslot]
  have hlt : i < s.threads.length := (List.getElem?_eq_some_iff.mp hi).1
  refine reaches_checking (i := s.threads.length) hb ?_
  rw [move_other hlt.ne']
  exact List.getElem?_concat_length

theorem reaches_leaving (hb : Awaits s.autonomyQuiescence identity)
    (hslot : s.quiescenceWorker = some i) (hi : s.threads[i]? = some .leaving) :
    Reaches s identity := by
  have hafter := hb.refreshed
  refine Reaches.back (i := i) ?_
  simp only [step, hi]
  exact reaches_restarting hafter (if_pos hslot) (release_self hi hafter.active hafter.stands)

theorem reaches_acknowledged {other : QuiescenceIdentity}
    (hb : Awaits s.autonomyQuiescence identity)
    (hother : other ∈ s.autonomyQuiescence.acknowledgedIdentities)
    (hi : s.threads[i]? = some p) (hp : p = .checking other ∨ p = .entering other ∨
      p = .completing other ∨ ∃ error, p = .handling other error) : Reaches s identity := by
  have hne : identity ≠ other := fun heq ↦ hb.fresh (heq ▸ hother)
  refine Reaches.back (i := i) ?_
  rcases hp with rfl | rfl | rfl | ⟨error, rfl⟩
  · simp only [step, hi, WorkerPoint.advance]
    rw [if_pos hother]
    exact reaches_looking hb hne (move_self hi)
  · simp only [step, hi, WorkerPoint.advance]
    rw [if_pos hother]
    exact reaches_looking hb hne (move_self hi)
  · have hdone : s.autonomyQuiescence.step (.completeAcknowledgement other) =
        (s.autonomyQuiescence, .ok (.flag false)) := by
      simp only [AutonomyQuiescenceBarrier.step, completeAcknowledgement, Outcome.answer]
      rw [if_pos hother]
      rfl
    simp only [step, hi, WorkerPoint.advance, WorkerPoint.perform, hdone]
    exact reaches_looking hb hne (move_self hi)
  · simp only [step, hi, WorkerPoint.advance]
    rw [if_pos hother]
    exact reaches_looking hb hne (move_self hi)

theorem Staffed.reaches_inCharge (h : Staffed s) (hi : s.threads[i]? = some p)
    (hp : p.inCharge = true) (hactive : s.autonomyQuiescence.active = true)
    (hidentity : s.autonomyQuiescence.identity = some identity)
    (hfresh : identity ∉ s.autonomyQuiescence.acknowledgedIdentities) : Reaches s identity := by
  have hserves := h.serves i p hi hp
  have htells := hserves.tells
  have hnot : s.autonomyQuiescence.state ≠ .failed := state_ne_failed hactive
  have hcurrent : ∀ {other}, Current s.autonomyQuiescence other → other = identity := by
    rintro other (hfailed | ⟨-, hother⟩)
    · exact absurd hfailed hnot
    · exact Option.some.inj (hother.symm.trans hidentity)
  have hprocesses : p.processes = some identity → Reaches s identity :=
    fun hp ↦ ⟨[], i, p, hi, hp, .inr ⟨hactive, hidentity⟩⟩
  have hawaits : s.autonomyQuiescence.state ≠ .ackInFlight →
      Awaits s.autonomyQuiescence identity := by
    intro hflight
    rcases active_iff.mp hactive with hstate | hstate | hstate
    · exact ⟨.inl hstate, hidentity, hfresh⟩
    · exact ⟨.inr hstate, hidentity, hfresh⟩
    · exact absurd hstate hflight
  cases p with
  | checking other =>
    have hb := hawaits (hserves.notInFlight rfl)
    rcases htells with hmem | hother
    · exact reaches_acknowledged hb hmem hi (.inl rfl)
    · obtain rfl := hcurrent hother
      exact reaches_checking hb hi
  | entering other =>
    have hb := hawaits (hserves.notInFlight rfl)
    rcases htells with hmem | hother
    · exact reaches_acknowledged hb hmem hi (.inr (.inl rfl))
    · obtain rfl := hcurrent hother
      exact reaches_entering hb hi
  | comparing other =>
    obtain rfl := hcurrent htells
    exact reaches_comparing (hawaits (hserves.notInFlight rfl)) hi
  | settling other | stopping other | waiting other | beginning other =>
    exact hprocesses (congrArg some (hcurrent htells))
  | acknowledging other =>
    rcases htells with hmem | hother
    · have hb := hawaits (hserves.landed rfl hmem)
      refine Reaches.back (i := i) ?_
      simp only [HandOff.step, hi, WorkerPoint.advance]
      exact reaches_acknowledged hb hmem (move_self hi) (.inr (.inr (.inl rfl)))
    · exact hprocesses (congrArg some (hcurrent hother))
  | completing other =>
    rcases htells with hmem | hother
    · exact reaches_acknowledged (hawaits (hserves.landed rfl hmem)) hmem hi
        (.inr (.inr (.inl rfl)))
    · exact hprocesses (congrArg some (hcurrent hother))
  | handling other error =>
    rcases htells with hmem | hother
    · exact reaches_acknowledged (hawaits (hserves.landed rfl hmem)) hmem hi
        (.inr (.inr (.inr ⟨error, rfl⟩)))
    · exact hprocesses (congrArg some (hcurrent hother))
  | failing other error =>
    have hother := htells.resolve_left hnot
    exact hprocesses (congrArg some (Option.some.inj (hother.symm.trans hidentity)))
  | looking other =>
    have hmem := htells.resolve_left hnot
    have hb := hawaits (hserves.notInFlight rfl)
    exact reaches_looking hb (fun heq ↦ hfresh (heq ▸ hmem)) hi
  | judging other =>
    have hb := hawaits (hserves.notInFlight rfl)
    rcases htells with hmem | hother
    · refine Reaches.back (i := i) ?_
      simp only [HandOff.step, hi, WorkerPoint.advance]
      rw [if_pos hactive]
      exact reaches_acknowledged hb hmem (move_self hi) (.inl rfl)
    · obtain rfl := hcurrent hother
      exact reaches_judging hb hi
  | leaving =>
    exact reaches_leaving (hawaits (hserves.notInFlight rfl)) ((h.slot i).mpr ⟨_, hi, rfl⟩) hi
  | restarting | ended => cases hp

theorem Staffed.ends_succeeded (h : Staffed s)
    (hi : s.threads[i]? = some (.restarting identity)) :
    ∃ j, ((s.startAutonomyQuiescenceWorker identity).move i .ended).quiescenceWorker = some j ∧
      ((s.startAutonomyQuiescenceWorker identity).move i .ended).isAlive j = true := by
  by_cases hslot : s.quiescenceWorker = none
  · rw [startWorker_free hslot]
    refine ⟨s.threads.length, rfl, isAlive_iff.mpr ⟨.checking identity, ?_, by simp⟩⟩
    have hlt : i < s.threads.length := (List.getElem?_eq_some_iff.mp hi).1
    rw [move_other hlt.ne']
    exact List.getElem?_concat_length
  · obtain ⟨j, hj⟩ := Option.ne_none_iff_exists'.mp hslot
    rw [startWorker_busy hj (h.isAlive hj)]
    obtain ⟨p, hp, hcharge⟩ := (h.slot j).mp hj
    have hji : j ≠ i := by
      rintro rfl
      cases hi.symm.trans hp
      cases hcharge
    refine ⟨j, hj, isAlive_of_inCharge (p := p) ?_ hcharge⟩
    rw [move_other hji]
    exact hp

theorem Staffed.succeeded (h : Staffed s) (e : HandOffEvent) (halive : s.isAlive i = true)
    (hended : (s.step e).1.isAlive i = false)
    (hactive : (s.step e).1.autonomyQuiescence.active = true) :
    ∃ j, (s.step e).1.quiescenceWorker = some j ∧ (s.step e).1.isAlive j = true := by
  obtain ⟨p, hi, hp⟩ := isAlive_iff.mp halive
  have hkept : (s.step e).1.threads[i]? ≠ some p := by
    intro hkept
    cases (isAlive_iff.mpr ⟨p, hkept, hp⟩).symm.trans hended
  have hmoved : ∀ {b j q}, (s.step e).1 = (s.withBarrier b).move j q → q.inCharge = false := by
    intro b j q hstep
    rw [hstep] at hkept hended
    by_contra hq
    by_cases hij : i = j
    · subst hij
      have hself : ((s.withBarrier b).move i q).threads[i]? = some q := move_self hi
      cases (isAlive_of_inCharge hself (by simpa using hq)).symm.trans hended
    · exact hkept ((move_other (s := s.withBarrier b) hij).trans hi)
  cases e with
  | operate op outside => exact absurd hi hkept
  | revoke identity required =>
    refine absurd ?_ hkept
    simp only [HandOff.step]
    split <;> exact hi
  | start callback =>
    refine absurd ?_ hkept
    simp only [HandOff.step]
    cases s.callbacks[callback]? with
    | none => exact hi
    | some identity =>
      dsimp only [startAutonomyQuiescenceWorker, withCallbacks]
      split_ifs
      · exact hi
      · exact (List.getElem?_append_left (List.getElem?_eq_some_iff.mp hi).1).trans hi
  | run j reading =>
    simp only [HandOff.step] at hkept hended hactive hmoved ⊢
    cases hj : s.threads[j]? with
    | none =>
      rw [hj] at hkept
      exact absurd hi hkept
    | some q =>
      rw [hj] at hkept hended hactive hmoved
      cases q with
      | leaving =>
        have hcoherent := (calm_refreshReady s.autonomyQuiescence).coherent h.coherent
        obtain ⟨identity, hidentity, -⟩ := hcoherent.active hactive
        by_cases hij : i = j
        · subst hij
          have hself := release_self hj hactive hidentity
          cases (isAlive_iff.mpr ⟨_, hself, by simp⟩).symm.trans hended
        · exact absurd ((move_other hij).trans hi) hkept
      | restarting identity => exact h.ends_succeeded hj
      | ended => exact absurd hi hkept
      | _ =>
        have hcharge := ((h.serves j _ hj rfl).advances (r := reading)).inCharge
        cases hcharge.symm.trans (hmoved rfl)
  | raise j error =>
    simp only [HandOff.step] at hkept hmoved
    cases hj : s.threads[j]? with
    | none =>
      rw [hj] at hkept
      exact absurd hi hkept
    | some q =>
      rw [hj] at hkept hmoved
      dsimp only at hkept hmoved
      cases htrying : q.trying with
      | none =>
        rw [htrying] at hkept
        exact absurd hi hkept
      | some identity =>
        rw [htrying] at hmoved
        cases hmoved (b := s.autonomyQuiescence) rfl

/-- A worker that ends leaves a successor to an active barrier. -/
structure Sound (s : HandOff) : Prop where
  processed : s.autonomyQuiescence.active = true → s.callbacks = [] →
    (∃ i, s.isAlive i = true) ∧
      ∃ identity, s.autonomyQuiescence.identity = some identity ∧ Reaches s identity
  succeeded : ∀ (e : HandOffEvent) (i : ℕ), s.isAlive i = true → (s.step e).1.isAlive i = false →
    (s.step e).1.autonomyQuiescence.active = true →
    ∃ j, (s.step e).1.quiescenceWorker = some j ∧ (s.step e).1.isAlive j = true
  single : ∀ (i j : ℕ) (p q : WorkerPoint), s.threads[i]? = some p → p.inside = true →
    s.threads[j]? = some q → q.inside = true → i = j
  own : ∀ (i : ℕ) (identity : QuiescenceIdentity) (error : String),
    s.threads[i]? = some (.failing identity error) → s.autonomyQuiescence.state ≠ .failed →
    s.autonomyQuiescence.identity = some identity

theorem Staffed.processed (h : Staffed s) (hactive : s.autonomyQuiescence.active = true)
    (hcallbacks : s.callbacks = []) :
    (∃ i, s.isAlive i = true) ∧
      ∃ identity, s.autonomyQuiescence.identity = some identity ∧ Reaches s identity := by
  obtain ⟨identity, hidentity, hfresh⟩ := h.coherent.active hactive
  by_cases hslot : s.quiescenceWorker = none
  · rcases h.covered hactive with hbusy | ⟨i, other, hi, hother⟩ | hwaiting
    · exact absurd hslot hbusy
    · obtain rfl := Option.some.inj (hother.symm.trans hidentity)
      refine ⟨⟨i, by rw [HandOff.isAlive, hi]⟩, other, hidentity, ?_⟩
      refine reaches_restarting ⟨?_, hidentity, hfresh⟩ hslot hi
      rcases active_iff.mp hactive with hstate | hstate | hstate
      · exact .inl hstate
      · exact .inr hstate
      · exact absurd hstate (h.free hslot)
    · exact absurd hcallbacks hwaiting
  · obtain ⟨i, hslot⟩ := Option.ne_none_iff_exists'.mp hslot
    obtain ⟨p, hi, hp⟩ := (h.slot i).mp hslot
    exact ⟨⟨i, h.isAlive hslot⟩, identity, hidentity,
      h.reaches_inCharge hi hp hactive hidentity hfresh⟩

theorem Staffed.sound (h : Staffed s) : Sound s := by
  refine ⟨h.processed, fun e i ↦ h.succeeded e, fun i j p q hi hp hj hq ↦ ?_,
    fun i identity error hi hnot ↦ ?_⟩
  · exact h.unique hi (WorkerPoint.inCharge_of_inside hp) hj (WorkerPoint.inCharge_of_inside hq)
  · have htells := (h.serves i _ hi rfl).tells
    exact htells.resolve_left hnot

theorem staffed_start {zeroEpsilon : Double} (hb : create zeroEpsilon = .ok b) :
    Staffed { autonomyQuiescence := b } := by
  unfold create at hb
  split_ifs at hb
  cases hb
  refine ⟨fun i ↦ ⟨fun hi ↦ ?_, fun hserved ↦ ?_⟩, fun i p hi ↦ ?_, ⟨fun _ ↦ rfl, fun h ↦ ?_,
    fun h ↦ ?_⟩, fun _ h ↦ ?_, fun h ↦ ?_⟩
  · cases hi
  · obtain ⟨p, hi, -⟩ := hserved
    cases hi
  · cases hi
  · cases h
  · cases h
  · cases h
  · cases h

theorem hands_on (zeroEpsilon : Double) (b : AutonomyQuiescenceBarrier)
    (hb : create zeroEpsilon = .ok b) (h : List HandOffEvent)
    (ho : Along step Orderly { autonomyQuiescence := b } h) :
    Sound (run step { autonomyQuiescence := b } h) :=
  (ho.preserves step (I := Staffed) (fun _ _ he hs ↦ hs.step he) (staffed_start hb)).sound

end Runs

def nextRevocation : QuiescenceIdentity := ⟨1, 2, Int.one_pos, by decide⟩

def held (identity : QuiescenceIdentity) : List HandOffEvent :=
  [.operate (.observeAuthority identity false) rfl, .revoke identity none, .start 0]

def drained : List HandOffEvent :=
  [.run 0 {}, .run 0 {}, .run 0 {}, .run 0 {},
    .operate (.observePriorityStopResult (WorkerPoint.stopCommandId revocation) true "") rfl,
    .operate (.observeCmdVel 1 0 0) rfl, .run 0 {}, .run 0 {}]

def resumed : List HandOffEvent := [.operate (.observeAuthority revocation true) rfl]

/-- The service times out, and the next revocation begins before the handler runs. -/
def handedOn : List HandOffEvent :=
  held revocation ++ drained ++ [.raise 0 "timeout"] ++ resumed ++ held nextRevocation

theorem hands_on_next : Sound (run step { autonomyQuiescence := standing } handedOn) :=
  hands_on millimetre standing create_standing handedOn (by decide +kernel)

def race : List HandOffEvent :=
  held revocation ++ drained ++ [.raise 0 "timeout", .run 0 {}] ++ resumed ++ held nextRevocation

theorem old_exception_fails_next :
    ¬ ∀ zeroEpsilon b, create zeroEpsilon = .ok b → ∀ h,
      Sound (run step { autonomyQuiescence := b } h) := by
  intro hall
  have hown := (hall millimetre standing create_standing race).own 0 revocation "timeout"
    (by decide +kernel) (by decide +kernel)
  have hnext : (run step { autonomyQuiescence := standing } race).autonomyQuiescence.identity =
      some nextRevocation := by decide +kernel
  cases hnext.symm.trans hown

end HandOff

end EmbodiedAgent.Slam
