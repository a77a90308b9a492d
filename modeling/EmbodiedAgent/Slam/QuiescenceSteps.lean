import EmbodiedAgent.Library.History
import EmbodiedAgent.Slam.QuiescenceBarrier

namespace EmbodiedAgent.AutonomyQuiescenceBarrier

open Library Library.Text Library.History

section Operations

namespace Operation

def mark : Operation → Option (String × ℤ)
  | .markPriorityStopRequested commandId cmdVelGeneration =>
    if strip commandId = "" ∨ cmdVelGeneration < 0 then none
    else some (strip commandId, cmdVelGeneration)
  | _ => none

def result : Operation → Option String
  | .observePriorityStopResult commandId true _ => some (strip commandId)
  | _ => none

def cmdVel : Operation → Option (ℤ × Double × Double)
  | .observeCmdVel generation linearX angularZ =>
    if generation < 0 ∨ (!linearX.isFinite || !angularZ.isFinite) = true then none
    else some (generation, linearX, angularZ)
  | _ => none

def ledger : Operation → Option Bool
  | .observeFrontier status active accepted terminal =>
    if active < 0 ∨ accepted < 0 ∨ terminal < 0 then none
    else some (ledgerActive status active accepted terminal)
  | _ => none

end Operation

def Started (b : AutonomyQuiescenceBarrier) (op : Operation) : Prop :=
  (∃ token, op = .nav2GoalStarted token) ∧ (step b op).2 = .ok .done

def Begins (b : AutonomyQuiescenceBarrier) (op : Operation) : Prop :=
  (∃ identity required, op = .begin identity required) ∧ (step b op).2 = .ok (.flag true)

/-- The operation brings the barrier to ACKNOWLEDGED under the identity. -/
def Acknowledges (b : AutonomyQuiescenceBarrier) (op : Operation) (identity : QuiescenceIdentity) :
    Prop :=
  (identity ∉ b.acknowledgedIdentities ∧ identity ∈ (step b op).1.acknowledgedIdentities) ∨
    (b.state ≠ .acknowledged ∧ (step b op).1.state = .acknowledged ∧
      (step b op).1.identity = some identity)

def Settled (b : AutonomyQuiescenceBarrier) : Prop :=
  b.state = .ready ∨ b.state = .ackInFlight → b.missing = []

variable {b : AutonomyQuiescenceBarrier} {op : Operation} {identity : QuiescenceIdentity}

theorem failWith_state (b : AutonomyQuiescenceBarrier) (reason : String) :
    (b.failWith reason).state = .failed := by
  rw [failWith]
  split_ifs with h
  · exact h
  · rfl

theorem failWith_active (b : AutonomyQuiescenceBarrier) (reason : String) :
    (b.failWith reason).active = false := by
  rw [active, failWith_state]

theorem active_iff : b.active = true ↔
    b.state = .waiting ∨ b.state = .ready ∨ b.state = .ackInFlight := by
  rw [active]
  cases b.state <;> simp

theorem active_congr {b b' : AutonomyQuiescenceBarrier} (h : b'.state = b.state) :
    b'.active = b.active := by
  rw [active, active, h]

theorem state_ne_failed (h : b.active = true) : b.state ≠ .failed := by
  intro hfailed
  rw [active, hfailed] at h
  cases h

theorem refreshReady_active (h : b.refreshReady.active = true) :
    b.refreshReady = b.withState b.refreshReady.state ∧ b.active = true ∧
      b.refreshReady.Settled := by
  have key : b.active = true ∧ ∃ s, b.refreshReady = b.withState s ∧
      (s ≠ .waiting → b.missing = []) := by
    unfold refreshReady at h ⊢
    cases hstate : b.state with
    | idle | acknowledged | failed =>
      simp [active, hstate] at h
    | waiting | ready =>
      refine ⟨by simp [active, hstate], _, rfl, ?_⟩
      intro hs
      by_contra hmissing
      exact hs (if_neg hmissing)
    | ackInFlight =>
      rw [hstate] at h
      split_ifs at h ⊢ with hmissing
      · refine ⟨by simp [active, hstate], b.state, rfl, fun _ ↦ hmissing⟩
      · rw [failWith_active] at h
        cases h
  obtain ⟨hb, s, hs, hmissing⟩ := key
  rw [hs]
  refine ⟨rfl, hb, fun hs' ↦ hmissing ?_⟩
  rintro rfl
  rcases hs' with hs' | hs' <;> cases hs'

theorem rememberTerminalNav2Goal_eq (b : AutonomyQuiescenceBarrier) (token : String) :
    ∃ tokens order, b.rememberTerminalNav2Goal token = b.withTerminalGoals tokens order := by
  unfold rememberTerminalNav2Goal
  split
  · split_ifs <;> exact ⟨_, _, rfl⟩
  · exact ⟨_, _, rfl⟩

inductive Continues (b : AutonomyQuiescenceBarrier) : Operation → AutonomyQuiescenceBarrier → Prop
  | kept (op : Operation) (observed : Option QuiescenceIdentity) (s : QuiescenceState)
      (hmark : ∀ c g, op.mark = some (c, g) →
        c ≠ "" ∧ b.stopCommandId = c ∧ b.stopCmdVelGeneration = some g)
      (hcmdVel : ∀ g v, b.stopCmdVelGeneration = some g → op.cmdVel = some v → v.1 ≤ g)
      (hledger : op.ledger = none) (hstarted : ¬ Started b op) :
      Continues b op ((b.withAuthority observed).withState s)
  | frontier (status : String) (active accepted terminal : ℤ) (s : QuiescenceState)
      (hledger : (Operation.observeFrontier status active accepted terminal).ledger =
        some (ledgerActive status active accepted terminal)) :
      Continues b (.observeFrontier status active accepted terminal)
        ((b.withFrontier status active accepted terminal).withState s)
  | goalTerminal (token : String) (tokens : Finset String) (order : List String)
      (s : QuiescenceState) :
      Continues b (.nav2GoalTerminal token)
        (((b.withoutGoal (strip token)).withTerminalGoals tokens order).withState s)
  | marked (commandId : String) (g : ℤ) (s : QuiescenceState) (hcommand : strip commandId ≠ "")
      (hmark : (Operation.markPriorityStopRequested commandId g).mark = some (strip commandId, g))
      (hunmarked : b.stopCommandId = "") :
      Continues b (.markPriorityStopRequested commandId g)
        ((b.withStop (strip commandId) g).withState s)
  | stopped (commandId detail : String) (s : QuiescenceState)
      (hcommand : strip commandId = b.stopCommandId) :
      Continues b (.observePriorityStopResult commandId true detail) (b.withStopResult.withState s)
  | velocity (generation requested : ℤ) (linearX angularZ : Double) (s : QuiescenceState)
      (hcmdVel : (Operation.observeCmdVel generation linearX angularZ).cmdVel =
        some (generation, linearX, angularZ))
      (hrequested : b.stopCmdVelGeneration = some requested) (hover : requested < generation) :
      Continues b (.observeCmdVel generation linearX angularZ)
        ((b.withVelocity generation linearX angularZ).withState s)

theorem not_started (h : ∀ token, op ≠ .nav2GoalStarted token) : ¬ Started b op :=
  fun hstarted ↦ hstarted.1.elim fun token htoken ↦ h token htoken

theorem continues_same {b' : AutonomyQuiescenceBarrier} (observed : Option QuiescenceIdentity)
    (hs : b.Settled) (h : b' = b.withAuthority observed) (hmark : op.mark = none)
    (hcmdVel : op.cmdVel = none) (hledger : op.ledger = none) (hstarted : ¬ Started b op) :
    Continues b op b' ∧ b'.Settled := by
  subst h
  exact ⟨.kept op observed b.state (fun c g h ↦ by cases hmark.symm.trans h)
    (fun g v _ h ↦ by cases hcmdVel.symm.trans h) hledger hstarted, hs⟩

theorem observeAuthority_cases (identity : QuiescenceIdentity) (autonomyActive : Bool)
    (hb : b.active = true) :
    (b.observeAuthority identity autonomyActive).1 = b.withAuthority (some identity) ∨
      (∃ reason observed, (b.observeAuthority identity autonomyActive).1 =
        (b.failWith reason).withAuthority observed) ∨
      (b.state = .ackInFlight ∧ ∃ expected, b.identity = some expected ∧
        (b.observeAuthority identity autonomyActive).1 =
          ((b.rememberAcknowledgedIdentity expected).withState .acknowledged).withAuthority
            (some identity)) := by
  have hfailed : ∀ reason, ∃ reason' observed,
      b.failWith reason = (b.failWith reason').withAuthority observed :=
    fun reason ↦ ⟨reason, _, rfl⟩
  unfold observeAuthority
  rw [if_neg (by simp [hb])]
  cases hidentity : b.identity with
  | none => exact Or.inr (Or.inl (hfailed _))
  | some expected =>
    have hacknowledged : b.acknowledgeCurrent =
        ((b.rememberAcknowledgedIdentity expected).withState .acknowledged, .ok ()) := by
      rw [acknowledgeCurrent, hidentity]
    simp only [hacknowledged]
    split_ifs with hactive hepoch hstate hother hnext
    · exact Or.inr (Or.inl ⟨_, _, rfl⟩)
    · exact Or.inr (Or.inr ⟨hstate, expected, rfl, rfl⟩)
    · exact Or.inr (Or.inl ⟨_, _, rfl⟩)
    · exact Or.inr (Or.inr ⟨hnext.1, expected, rfl, rfl⟩)
    · exact Or.inr (Or.inl (hfailed _))
    · exact Or.inl rfl

theorem observeAuthority_active {autonomyActive : Bool} (hb : b.active = true)
    (h : (b.observeAuthority identity autonomyActive).1.active = true) :
    (b.observeAuthority identity autonomyActive).1 = b.withAuthority (some identity) := by
  rcases observeAuthority_cases identity autonomyActive hb with
    hsame | ⟨reason, observed, hfail⟩ | ⟨-, expected, -, hdone⟩
  · exact hsame
  · rw [hfail] at h
    have hnot := failWith_active b reason
    cases hnot.symm.trans h
  · rw [hdone] at h
    cases h

theorem begin_active {required : Option Bool} (hb : b.active = true)
    (h : (b.begin identity required).1.active = true) :
    b.begin identity required = (b, .ok false) := by
  unfold begin at h ⊢
  rw [if_neg (state_ne_failed hb), if_pos hb] at h ⊢
  split_ifs at h ⊢ with hsame
  · rfl
  · simp [raiseFailure, failWith_active] at h

theorem continues_observeFrontier {status : String} {active accepted terminal : ℤ}
    (hb : b.active = true) (hs : b.Settled)
    (h : (b.observeFrontier status active accepted terminal).1.active = true) :
    Continues b (.observeFrontier status active accepted terminal)
        (b.observeFrontier status active accepted terminal).1 ∧
      (b.observeFrontier status active accepted terminal).1.Settled := by
  unfold observeFrontier at h ⊢
  split_ifs at h ⊢ with hnegative
  · exact continues_same b.observedAuthority hs rfl rfl rfl (if_pos hnegative)
      (not_started (by simp))
  have hactive : (b.withFrontier status active accepted terminal).active = true := hb
  simp only [hactive, Bool.true_and] at h ⊢
  split_ifs at h ⊢ with hrequired
  · obtain ⟨heq, -, hsettled⟩ := refreshReady_active h
    refine ⟨?_, hsettled⟩
    rw [heq]
    exact .frontier status active accepted terminal _ (if_neg hnegative)
  · refine ⟨.frontier status active accepted terminal b.state (if_neg hnegative), fun hstate ↦ ?_⟩
    -- where the frontier is not required, its ledger is no evidence
    have hmissing := hs hstate
    have hnot : b.frontierRequired = false := Bool.eq_false_iff.mpr hrequired
    simpa [missing, hnot, withFrontier] using hmissing

theorem nav2GoalStarted_active {token : String} (hb : b.active = true)
    (h : (b.nav2GoalStarted token).1.active = true) :
    (b.nav2GoalStarted token).1 = b ∧ ∃ e, (b.nav2GoalStarted token).2 = .error e := by
  have hactive : ∀ t, (b.withGoal t).active = true := fun t ↦ hb
  unfold nav2GoalStarted at h ⊢
  simp only [hactive, if_true] at h ⊢
  split_ifs at h ⊢
  · exact ⟨rfl, _, rfl⟩
  · exact ⟨rfl, _, rfl⟩
  · exact ⟨rfl, _, rfl⟩
  · rw [failWith_active] at h
    cases h

theorem continues_nav2GoalTerminal {token : String} (hs : b.Settled)
    (h : (b.nav2GoalTerminal token).1.active = true) :
    Continues b (.nav2GoalTerminal token) (b.nav2GoalTerminal token).1 ∧
      (b.nav2GoalTerminal token).1.Settled := by
  unfold nav2GoalTerminal at h ⊢
  simp only at h ⊢
  split_ifs at h ⊢
  · exact continues_same b.observedAuthority hs rfl rfl rfl rfl (not_started (by simp))
  all_goals try
    rw [raiseFailure, failWith_active] at h
    cases h
  obtain ⟨tokens, order, hremember⟩ :=
    rememberTerminalNav2Goal_eq (b.withoutGoal (strip token)) (strip token)
  rw [hremember] at h ⊢
  obtain ⟨heq, -, hsettled⟩ := refreshReady_active h
  refine ⟨?_, hsettled⟩
  rw [heq]
  exact .goalTerminal token tokens order _

theorem continues_markPriorityStopRequested {commandId : String} {g : ℤ} (hb : b.active = true)
    (hs : b.Settled) (h : (b.markPriorityStopRequested commandId g).1.active = true) :
    Continues b (.markPriorityStopRequested commandId g)
        (b.markPriorityStopRequested commandId g).1 ∧
      (b.markPriorityStopRequested commandId g).1.Settled := by
  by_cases hill : strip commandId = "" ∨ g < 0
  · refine continues_same b.observedAuthority hs ?_ (if_pos hill) rfl rfl (not_started (by simp))
    unfold markPriorityStopRequested
    rcases hill with hempty | hnegative
    · rw [if_pos hempty]
      rfl
    · simp only [hnegative, if_true]
      split_ifs <;> rfl
  have hmark : (Operation.markPriorityStopRequested commandId g).mark = some (strip commandId, g) :=
    if_neg hill
  obtain ⟨hcommand, hgeneration⟩ := not_or.mp hill
  have hrequire : b.requireActive = .ok () := by
    rw [requireActive, if_neg (state_ne_failed hb), if_neg (by simp [hb])]
  unfold markPriorityStopRequested at h ⊢
  simp only [hcommand, hgeneration, hrequire, if_false] at h ⊢
  split_ifs at h ⊢ with hempty hsame
  · refine ⟨.kept _ b.observedAuthority b.state ?_ ?_ rfl (not_started (by simp)), hs⟩
    · intro c g' heq
      cases hmark.symm.trans heq
      exact ⟨hcommand, hsame.1, hsame.2⟩
    · intro _ _ _ hnone
      cases hnone
  · rw [raiseFailure, failWith_active] at h
    cases h
  · obtain ⟨heq, -, hsettled⟩ := refreshReady_active h
    refine ⟨?_, hsettled⟩
    rw [heq]
    exact .marked commandId g _ hcommand hmark (not_not.mp hempty)

theorem continues_observePriorityStopResult {commandId detail : String} {success : Bool}
    (hs : b.Settled) (h : (b.observePriorityStopResult commandId success detail).1.active = true) :
    Continues b (.observePriorityStopResult commandId success detail)
        (b.observePriorityStopResult commandId success detail).1 ∧
      (b.observePriorityStopResult commandId success detail).1.Settled := by
  unfold observePriorityStopResult at h ⊢
  by_cases hignored : (!b.active || decide (strip commandId ≠ b.stopCommandId)) = true
  · rw [if_pos hignored]
    cases success <;> exact continues_same b.observedAuthority hs rfl rfl rfl rfl
      (not_started (by simp))
  rw [if_neg hignored] at h ⊢
  cases success with
  | false =>
    have hfailed := failWith_active b ("priority STOP failed" ++
      if detail = "" then "" else ": " ++ detail)
    cases hfailed.symm.trans h
  | true =>
    obtain ⟨heq, -, hsettled⟩ := refreshReady_active h
    have hcommand : strip commandId = b.stopCommandId := by
      simp only [Bool.or_eq_true, not_or, decide_eq_true_eq] at hignored
      exact not_not.mp hignored.2
    refine ⟨?_, hsettled⟩
    rw [if_neg (by simp), heq]
    exact .stopped commandId detail _ hcommand

theorem continues_observeCmdVel {generation : ℤ} {linearX angularZ : Double} (hb : b.active = true)
    (hs : b.Settled) (h : (b.observeCmdVel generation linearX angularZ).1.active = true) :
    Continues b (.observeCmdVel generation linearX angularZ)
        (b.observeCmdVel generation linearX angularZ).1 ∧
      (b.observeCmdVel generation linearX angularZ).1.Settled := by
  have hignored : (∀ g v, b.stopCmdVelGeneration = some g →
      (Operation.observeCmdVel generation linearX angularZ).cmdVel = some v → v.1 ≤ g) →
      Continues b (.observeCmdVel generation linearX angularZ) b ∧ b.Settled := by
    intro hover
    refine ⟨.kept _ b.observedAuthority b.state ?_ hover rfl (not_started (by simp)), hs⟩
    intro _ _ hnone
    cases hnone
  by_cases hill : generation < 0 ∨ (!linearX.isFinite || !angularZ.isFinite) = true
  · have hcmdVel : (Operation.observeCmdVel generation linearX angularZ).cmdVel = none :=
      if_pos hill
    have hsame : (b.observeCmdVel generation linearX angularZ).1 = b := by
      unfold observeCmdVel
      rcases hill with hnegative | hfinite
      · rw [if_pos hnegative]
      · split_ifs <;> rfl
    rw [hsame]
    exact hignored fun g v _ hsome ↦ by cases hcmdVel.symm.trans hsome
  have hcmdVel : (Operation.observeCmdVel generation linearX angularZ).cmdVel =
      some (generation, linearX, angularZ) := if_neg hill
  obtain ⟨hgeneration, hfinite⟩ := not_or.mp hill
  unfold observeCmdVel at h ⊢
  rw [if_neg hgeneration, if_neg hfinite, if_neg (by simp [hb])] at h ⊢
  cases hrequested : b.stopCmdVelGeneration with
  | none => exact hignored fun g v hg _ ↦ by cases hrequested.symm.trans hg
  | some requested =>
    rw [hrequested] at h
    dsimp only at h ⊢
    split_ifs at h ⊢ with hold
    · refine hignored fun g v hg hv ↦ ?_
      cases hrequested.symm.trans hg
      cases hcmdVel.symm.trans hv
      exact hold
    · obtain ⟨heq, -, hsettled⟩ := refreshReady_active h
      refine ⟨?_, hsettled⟩
      rw [heq]
      exact .velocity generation requested linearX angularZ _ hcmdVel hrequested (not_le.mp hold)

theorem continues_refreshReady (hmark : op.mark = none) (hcmdVel : op.cmdVel = none)
    (hledger : op.ledger = none) (hstarted : ¬ Started b op) (h : b.refreshReady.active = true) :
    Continues b op b.refreshReady ∧ b.refreshReady.Settled := by
  obtain ⟨heq, -, hsettled⟩ := refreshReady_active h
  refine ⟨?_, hsettled⟩
  rw [heq]
  exact .kept op b.observedAuthority _ (fun c g h ↦ by cases hmark.symm.trans h)
    (fun g v _ h ↦ by cases hcmdVel.symm.trans h) hledger hstarted

theorem waitReady_active {timeoutS enteredAt now : Double}
    (h : (b.waitReady timeoutS enteredAt now).1.active = true) :
    (b.waitReady timeoutS enteredAt now).1 = b ∨
      (b.waitReady timeoutS enteredAt now).1 = b.refreshReady := by
  unfold waitReady at h ⊢
  cases hcheck : checkTimeout timeoutS with
  | error e => exact Or.inl rfl
  | ok =>
    rw [hcheck] at h
    dsimp only at h ⊢
    split_ifs at h ⊢
    · exact Or.inl rfl
    · exact Or.inr rfl
    · rw [failWith_active] at h
      cases h
    · exact Or.inr rfl

theorem continues_beginAcknowledgement (hb : b.active = true)
    (h : (b.beginAcknowledgement identity).1.active = true) :
    Continues b (.beginAcknowledgement identity) (b.beginAcknowledgement identity).1 ∧
      (b.beginAcknowledgement identity).1.Settled := by
  unfold beginAcknowledgement at h ⊢
  rw [if_neg (state_ne_failed hb)] at h ⊢
  dsimp only at h ⊢
  split_ifs at h ⊢ with hrefused
  · exact continues_refreshReady rfl rfl rfl (not_started (by simp)) h
  · have hready : b.refreshReady.state = .ready := not_not.mp (not_or.mp hrefused).1
    have hactive : b.refreshReady.active = true := active_iff.mpr (Or.inr (Or.inl hready))
    obtain ⟨heq, -, hsettled⟩ := refreshReady_active hactive
    refine ⟨?_, fun _ ↦ hsettled (Or.inl hready)⟩
    rw [heq]
    exact .kept _ b.observedAuthority _ (fun _ _ h ↦ by cases h) (fun _ _ _ h ↦ by cases h) rfl
      (not_started (by simp))

theorem completeAcknowledgement_cases (b : AutonomyQuiescenceBarrier)
    (identity : QuiescenceIdentity) :
    (b.completeAcknowledgement identity).1 = b ∨
      (b.state = .ackInFlight ∧ b.identity = some identity ∧ b.missing = [] ∧
        (b.completeAcknowledgement identity).1 =
          (b.rememberAcknowledgedIdentity identity).withState .acknowledged) := by
  unfold completeAcknowledgement
  split_ifs with hdone hfailed hrefused
  · exact Or.inl rfl
  · exact Or.inl rfl
  · exact Or.inl rfl
  · simp only [not_or, not_not] at hrefused
    obtain ⟨hstate, hidentity, -, hmissing⟩ := hrefused
    refine Or.inr ⟨hstate, hidentity, hmissing, ?_⟩
    rw [acknowledgeCurrent, hidentity]

@[simp] theorem Outcome.answer_fst {α : Type} (o : Outcome α) (f : α → Answer) :
    (o.answer f).1 = o.1 := rfl

theorem continues (op : Operation) (hb : b.active = true) (hs : b.Settled)
    (h : (step b op).1.active = true) : Continues b op (step b op).1 ∧ (step b op).1.Settled := by
  have same : ∀ {op : Operation} {b' : AutonomyQuiescenceBarrier}, b' = b → op.mark = none →
      op.cmdVel = none → op.ledger = none → ¬ Started b op → Continues b op b' ∧ b'.Settled :=
    fun h h₁ h₂ h₃ h₄ ↦ continues_same b.observedAuthority hs h h₁ h₂ h₃ h₄
  cases op with
  | observeAuthority identity autonomyActive =>
    exact continues_same (some identity) hs (observeAuthority_active hb h) rfl rfl rfl
      (not_started (by simp))
  | begin identity required =>
    exact same (congrArg Prod.fst (begin_active hb h)) rfl rfl rfl (not_started (by simp))
  | observeFrontier status active accepted terminal =>
    exact continues_observeFrontier hb hs h
  | nav2GoalStarted token =>
    obtain ⟨heq, e, he⟩ := nav2GoalStarted_active hb h
    refine same heq rfl rfl rfl fun hstarted ↦ ?_
    have hanswer : (step b (.nav2GoalStarted token)).2 = .error e := by
      simp only [step, Outcome.answer, he]
      rfl
    cases hanswer.symm.trans hstarted.2
  | nav2GoalTerminal token =>
    exact continues_nav2GoalTerminal hs h
  | markPriorityStopRequested commandId g =>
    exact continues_markPriorityStopRequested hb hs h
  | observePriorityStopResult commandId success detail =>
    exact continues_observePriorityStopResult hs h
  | observeCmdVel generation linearX angularZ =>
    exact continues_observeCmdVel hb hs h
  | waitReady timeoutS enteredAt now =>
    simp only [step, Outcome.answer_fst] at h ⊢
    rcases waitReady_active h with heq | heq
    · exact same heq rfl rfl rfl (not_started (by simp))
    · rw [heq] at h ⊢
      exact continues_refreshReady rfl rfl rfl (not_started (by simp)) h
  | waitAcknowledged identity timeoutS enteredAt now =>
    exact same rfl rfl rfl rfl (not_started (by simp))
  | beginAcknowledgement identity =>
    exact continues_beginAcknowledgement hb h
  | completeAcknowledgement identity =>
    simp only [step, Outcome.answer_fst] at h ⊢
    rcases completeAcknowledgement_cases b identity with heq | ⟨-, -, -, heq⟩
    · exact same heq rfl rfl rfl (not_started (by simp))
    · rw [heq] at h
      cases h
  | fail reason =>
    have hfailed : (step b (.fail reason)).1.active = false := failWith_active b _
    cases hfailed.symm.trans h
  | snapshot =>
    exact continues_refreshReady rfl rfl rfl (not_started (by simp)) h

theorem begins_iff {required : Option Bool} :
    Begins b (.begin identity required) ↔ (b.begin identity required).2 = .ok true := by
  unfold Begins
  simp only [step, Outcome.answer]
  cases (b.begin identity required).2 with
  | error e => simp [Except.map]
  | ok value => simp [Except.map]

theorem not_begins (h : ∀ identity required, op ≠ .begin identity required) : ¬ Begins b op := by
  rintro ⟨⟨identity, required, heq⟩, -⟩
  exact h identity required heq

theorem begins_inactive (h : Begins b op) : b.active = false := by
  obtain ⟨identity, required, rfl⟩ := h.1
  rw [begins_iff] at h
  by_contra hactive
  have hb : b.active = true := by simpa using hactive
  unfold begin at h
  rw [if_neg (state_ne_failed hb), if_pos hb] at h
  split_ifs at h
  · cases h
  · cases h

theorem begin_cases (b : AutonomyQuiescenceBarrier) (identity : QuiescenceIdentity)
    (required : Option Bool) :
    ((b.begin identity required).2 ≠ .ok true ∧
        ((b.begin identity required).1 = b ∨ (b.begin identity required).1.state = .failed)) ∨
      (b.state ≠ .failed ∧ b.begin identity required =
        ((b.opened identity required).refreshReady, .ok true)) := by
  unfold begin
  split_ifs with hfailed hactive hsame hobserved
  · exact Or.inl ⟨by simp [raiseFailure], Or.inl rfl⟩
  · exact Or.inl ⟨by simp, Or.inl rfl⟩
  · exact Or.inl ⟨by simp [raiseFailure], Or.inr (failWith_state b _)⟩
  · exact Or.inl ⟨by simp, Or.inl rfl⟩
  · exact Or.inr ⟨hfailed, rfl⟩

theorem opened_settles (b : AutonomyQuiescenceBarrier) (identity : QuiescenceIdentity)
    (required : Option Bool) :
    (b.opened identity required).refreshReady = b.opened identity required := by
  have hmissing : (b.opened identity required).missing ≠ [] := by
    simp [missing, opened]
  change (b.opened identity required).withState
    (if (b.opened identity required).missing = [] then .ready else .waiting) = _
  rw [if_neg hmissing]
  rfl

theorem refreshReady_inactive (hb : b.active = false) : b.refreshReady = b := by
  rw [active] at hb
  unfold refreshReady
  cases hstate : b.state <;> simp_all

theorem step_inactive (op : Operation) (hb : b.active = false) :
    (¬ Begins b op ∧ ((step b op).1.state = b.state ∨ (step b op).1.state = .failed)) ∨
      (Begins b op ∧ ∃ identity required, op = .begin identity required ∧ b.state ≠ .failed ∧
        (step b op).1 = b.opened identity required) := by
  have hfail : ∀ reason, (b.failWith reason).state = .failed := failWith_state b
  have hrefresh := refreshReady_inactive hb
  cases op with
  | begin identity required =>
    rcases begin_cases b identity required with ⟨hanswer, hstate⟩ | ⟨hfailed, hopened⟩
    · exact Or.inl ⟨fun h ↦ hanswer (begins_iff.mp h), hstate.imp (congrArg state) id⟩
    · rw [opened_settles] at hopened
      refine Or.inr ⟨begins_iff.mpr (congrArg Prod.snd hopened), identity, required, rfl,
        hfailed, ?_⟩
      simp only [step, Outcome.answer_fst, hopened]
  | observeAuthority identity autonomyActive =>
    refine Or.inl ⟨not_begins (by simp), Or.inl ?_⟩
    simp only [step, Outcome.answer_fst, observeAuthority, hb]
    rfl
  | observeFrontier status active accepted terminal =>
    refine Or.inl ⟨not_begins (by simp), Or.inl ?_⟩
    have hactive : (b.withFrontier status active accepted terminal).active = false := hb
    simp only [step, Outcome.answer_fst, observeFrontier, hactive, Bool.false_and,
      Bool.false_eq_true, if_false]
    split_ifs <;> rfl
  | nav2GoalStarted token =>
    refine Or.inl ⟨not_begins (by simp), Or.inl ?_⟩
    have hactive : (b.withGoal (strip token)).active = false := hb
    simp only [step, Outcome.answer_fst, nav2GoalStarted, hactive, Bool.false_eq_true, if_false]
    split_ifs <;> rfl
  | nav2GoalTerminal token =>
    refine Or.inl ⟨not_begins (by simp), ?_⟩
    simp only [step, Outcome.answer_fst, nav2GoalTerminal]
    obtain ⟨tokens, order, hremember⟩ :=
      rememberTerminalNav2Goal_eq (b.withoutGoal (strip token)) (strip token)
    have hactive : ((b.withoutGoal (strip token)).withTerminalGoals tokens order).active = false :=
      hb
    rw [hremember, refreshReady_inactive hactive]
    split_ifs <;> first | exact Or.inr (hfail _) | exact Or.inl rfl
  | markPriorityStopRequested commandId g =>
    refine Or.inl ⟨not_begins (by simp), Or.inl ?_⟩
    simp only [step, Outcome.answer_fst, markPriorityStopRequested, requireActive, hb,
      Bool.not_false, if_true]
    split_ifs <;> rfl
  | observePriorityStopResult commandId success detail =>
    refine Or.inl ⟨not_begins (by simp), Or.inl ?_⟩
    simp only [step, Outcome.answer_fst, observePriorityStopResult, hb]
    rfl
  | observeCmdVel generation linearX angularZ =>
    refine Or.inl ⟨not_begins (by simp), Or.inl ?_⟩
    simp only [step, Outcome.answer_fst, observeCmdVel, hb, Bool.not_false, if_true]
    split_ifs <;> rfl
  | waitReady timeoutS enteredAt now =>
    refine Or.inl ⟨not_begins (by simp), ?_⟩
    simp only [step, Outcome.answer_fst, waitReady, hrefresh]
    cases checkTimeout timeoutS with
    | error e => exact Or.inl rfl
    | ok =>
      split_ifs
      · exact Or.inl rfl
      · exact Or.inl rfl
      · exact Or.inr (hfail _)
      · exact Or.inl rfl
  | waitAcknowledged identity timeoutS enteredAt now =>
    exact Or.inl ⟨not_begins (by simp), Or.inl rfl⟩
  | beginAcknowledgement identity =>
    refine Or.inl ⟨not_begins (by simp), Or.inl ?_⟩
    have hready : b.state ≠ .ready := fun h ↦ by simp [active, h] at hb
    simp only [step, Outcome.answer_fst, beginAcknowledgement, hrefresh]
    rw [if_pos (Or.inl hready)]
    split_ifs <;> rfl
  | completeAcknowledgement identity =>
    refine Or.inl ⟨not_begins (by simp), Or.inl ?_⟩
    simp only [step, Outcome.answer_fst]
    rcases completeAcknowledgement_cases b identity with heq | ⟨hstate, -⟩
    · rw [heq]
    · simp [active, hstate] at hb
  | fail reason => exact Or.inl ⟨not_begins (by simp), Or.inr (hfail _)⟩
  | snapshot =>
    refine Or.inl ⟨not_begins (by simp), Or.inl ?_⟩
    simp only [step, hrefresh]

end Operations

section Frames

variable {b b' b'' : AutonomyQuiescenceBarrier} {op : Operation} {identity : QuiescenceIdentity}

structure Frame (b b' : AutonomyQuiescenceBarrier) : Prop where
  zeroEpsilon : b'.zeroEpsilon = b.zeroEpsilon
  identities : b'.acknowledgedIdentities = b.acknowledgedIdentities
  acknowledged : b'.state = .acknowledged → b.state = .acknowledged
  frontierActive : b'.frontierActive = b.frontierActive
  frontierTerminal : b'.frontierTerminal = b.frontierTerminal

theorem Frame.refl (b : AutonomyQuiescenceBarrier) : Frame b b := ⟨rfl, rfl, id, rfl, rfl⟩

theorem Frame.of_eq (h : b' = b) : Frame b b' := h ▸ .refl b

theorem Frame.trans (h : Frame b b') (h' : Frame b' b'') : Frame b b'' :=
  ⟨h'.zeroEpsilon.trans h.zeroEpsilon, h'.identities.trans h.identities,
    fun hs ↦ h.acknowledged (h'.acknowledged hs),
    h'.frontierActive.trans h.frontierActive, h'.frontierTerminal.trans h.frontierTerminal⟩

theorem frame_withState (b : AutonomyQuiescenceBarrier) {s : QuiescenceState}
    (hs : s ≠ .acknowledged) : Frame b (b.withState s) :=
  ⟨rfl, rfl, fun h ↦ absurd h hs, rfl, rfl⟩

theorem frame_failWith (b : AutonomyQuiescenceBarrier) (reason : String) :
    Frame b (b.failWith reason) := by
  rw [failWith]
  split_ifs
  · exact .refl b
  · exact ⟨rfl, rfl, fun h ↦ (by cases h), rfl, rfl⟩

theorem frame_refreshReady (b : AutonomyQuiescenceBarrier) : Frame b b.refreshReady := by
  unfold refreshReady
  cases b.state with
  | idle | acknowledged | failed => exact .refl b
  | waiting | ready =>
    refine frame_withState b ?_
    split_ifs <;> simp
  | ackInFlight =>
    split_ifs
    · exact .refl b
    · exact frame_failWith b _

theorem Frame.refreshed (h : Frame b b') : Frame b b'.refreshReady :=
  h.trans (frame_refreshReady b')

theorem rememberAcknowledgedIdentity_eq (b : AutonomyQuiescenceBarrier)
    (identity : QuiescenceIdentity) :
    ∃ identities order, b.rememberAcknowledgedIdentity identity =
        b.withAcknowledged identities order ∧
      ∀ i ∈ identities, i = identity ∨ i ∈ b.acknowledgedIdentities := by
  unfold rememberAcknowledgedIdentity
  by_cases hknown : identity ∈ b.acknowledgedIdentities
  · rw [if_pos hknown]
    exact ⟨_, _, rfl, fun i hi ↦ Or.inr hi⟩
  rw [if_neg hknown]
  cases b.acknowledgedIdentityOrder with
  | nil => exact ⟨_, _, rfl, fun i hi ↦ Finset.mem_insert.mp hi⟩
  | cons expired order =>
    split_ifs
    · refine ⟨_, _, rfl, fun i hi ↦ ?_⟩
      rcases Finset.mem_insert.mp hi with heq | hmem
      · exact Or.inl heq
      · exact Or.inr (Finset.mem_of_mem_erase hmem)
    · exact ⟨_, _, rfl, fun i hi ↦ Finset.mem_insert.mp hi⟩

theorem frame_nav2GoalTerminal (b : AutonomyQuiescenceBarrier) (token : String) :
    Frame b (b.nav2GoalTerminal token).1 := by
  unfold nav2GoalTerminal
  dsimp only
  obtain ⟨tokens, order, hremember⟩ :=
    rememberTerminalNav2Goal_eq (b.withoutGoal (strip token)) (strip token)
  rw [hremember]
  have hupdate : Frame b ((b.withoutGoal (strip token)).withTerminalGoals tokens order) :=
    ⟨rfl, rfl, id, rfl, rfl⟩
  split_ifs <;> first | exact .refl b | exact frame_failWith b _ | exact hupdate.refreshed

theorem frame_markPriorityStopRequested (b : AutonomyQuiescenceBarrier) (commandId : String)
    (g : ℤ) : Frame b (b.markPriorityStopRequested commandId g).1 := by
  have hupdate : Frame b (b.withStop (strip commandId) g) := ⟨rfl, rfl, id, rfl, rfl⟩
  unfold markPriorityStopRequested
  dsimp only
  cases b.requireActive with
  | error e => split_ifs <;> exact .refl b
  | ok =>
    split_ifs
    · exact .refl b
    · exact .refl b
    · exact .refl b
    · exact frame_failWith b _
    · exact hupdate.refreshed

theorem frame_observeCmdVel (b : AutonomyQuiescenceBarrier) (generation : ℤ)
    (linearX angularZ : Double) : Frame b (b.observeCmdVel generation linearX angularZ).1 := by
  have hupdate : Frame b (b.withVelocity generation linearX angularZ) := ⟨rfl, rfl, id, rfl, rfl⟩
  unfold observeCmdVel
  cases b.stopCmdVelGeneration with
  | none => split_ifs <;> exact .refl b
  | some requested =>
    dsimp only
    split_ifs
    · exact .refl b
    · exact .refl b
    · exact .refl b
    · exact .refl b
    · exact hupdate.refreshed

theorem frame_waitReady (b : AutonomyQuiescenceBarrier) (timeoutS enteredAt now : Double) :
    Frame b (b.waitReady timeoutS enteredAt now).1 := by
  unfold waitReady
  cases checkTimeout timeoutS with
  | error e => exact .refl b
  | ok =>
    dsimp only
    split_ifs
    · exact .refl b
    · exact frame_refreshReady b
    · exact (frame_refreshReady b).trans (frame_failWith _ _)
    · exact frame_refreshReady b

def Plain : Operation → Prop
  | .observeAuthority .. | .observeFrontier .. | .completeAcknowledgement .. => False
  | _ => True

theorem step_frame (b : AutonomyQuiescenceBarrier) (h : Plain op) : Frame b (step b op).1 := by
  cases op with
  | observeAuthority | observeFrontier | completeAcknowledgement => exact h.elim
  | begin identity required =>
    have hopened : Frame b (b.opened identity required) :=
      ⟨rfl, rfl, fun h ↦ (by cases h), rfl, rfl⟩
    simp only [step, Outcome.answer_fst, begin]
    split_ifs
    · exact .refl b
    · exact .refl b
    · exact frame_failWith b _
    · exact .refl b
    · exact hopened.refreshed
  | nav2GoalStarted token =>
    have hupdate : Frame b (b.withGoal (strip token)) := ⟨rfl, rfl, id, rfl, rfl⟩
    simp only [step, Outcome.answer_fst, nav2GoalStarted]
    split_ifs
    · exact .refl b
    · exact .refl b
    · exact .refl b
    · exact hupdate.trans (frame_failWith _ _)
    · exact hupdate
  | nav2GoalTerminal token =>
    exact frame_nav2GoalTerminal b token
  | markPriorityStopRequested commandId g =>
    exact frame_markPriorityStopRequested b commandId g
  | observePriorityStopResult commandId success detail =>
    have hupdate : Frame b b.withStopResult := ⟨rfl, rfl, id, rfl, rfl⟩
    simp only [step, Outcome.answer_fst, observePriorityStopResult]
    split_ifs
    · exact .refl b
    · exact frame_failWith b _
    · exact frame_failWith b _
    · exact hupdate.refreshed
  | observeCmdVel generation linearX angularZ =>
    exact frame_observeCmdVel b generation linearX angularZ
  | waitReady timeoutS enteredAt now =>
    exact frame_waitReady b timeoutS enteredAt now
  | waitAcknowledged identity timeoutS enteredAt now => exact .refl b
  | beginAcknowledgement identity =>
    simp only [step, Outcome.answer_fst, beginAcknowledgement]
    split_ifs
    · exact .refl b
    · exact frame_refreshReady b
    · exact (frame_refreshReady b).trans (frame_withState _ (by simp))
  | fail reason => exact frame_failWith b _
  | snapshot => exact frame_refreshReady b

theorem step_ledger (b : AutonomyQuiescenceBarrier) (status : String)
    (active accepted terminal : ℤ) :
    ((Operation.observeFrontier status active accepted terminal).ledger = none ∧
        (step b (.observeFrontier status active accepted terminal)).1 = b) ∨
      ((Operation.observeFrontier status active accepted terminal).ledger =
          some (ledgerActive status active accepted terminal) ∧
        Frame (b.withFrontier status active accepted terminal)
          (step b (.observeFrontier status active accepted terminal)).1) := by
  simp only [Operation.ledger, step, Outcome.answer_fst, observeFrontier]
  split_ifs
  · exact Or.inl ⟨rfl, rfl⟩
  · exact Or.inr ⟨rfl, frame_refreshReady _⟩
  · exact Or.inr ⟨rfl, .refl _⟩

theorem acknowledges_inFlight (h : Acknowledges b op identity) :
    b.state = .ackInFlight ∧ b.identity = some identity ∧
      (step b op).1.activeNav2Goals = b.activeNav2Goals := by
  have hframed : ∀ b'' : AutonomyQuiescenceBarrier,
      b''.acknowledgedIdentities = b.acknowledgedIdentities →
      (b''.state = .acknowledged → b.state = .acknowledged) →
      Frame b'' (step b op).1 → False := by
    intro b'' hidentities hstate hframe
    rcases h with ⟨hnew, hmem⟩ | ⟨hnot, hdone, -⟩
    · rw [hframe.identities, hidentities] at hmem
      exact hnew hmem
    · exact hnot (hstate (hframe.acknowledged hdone))
  have hcompleted : ∀ expected observed, b.identity = some expected →
      (step b op).1 = ((b.rememberAcknowledgedIdentity expected).withState
        .acknowledged).withAuthority observed →
      b.identity = some identity ∧ (step b op).1.activeNav2Goals = b.activeNav2Goals := by
    intro expected observed hidentity heq
    obtain ⟨identities, order, hremember, hmembers⟩ := rememberAcknowledgedIdentity_eq b expected
    rw [hremember] at heq
    refine ⟨?_, by rw [heq]; rfl⟩
    rcases h with ⟨hnew, hmem⟩ | ⟨-, -, hstands⟩
    · rw [heq] at hmem
      rcases hmembers identity hmem with rfl | hold
      · exact hidentity
      · exact absurd hold hnew
    · rw [heq] at hstands
      exact hstands
  cases op with
  | observeAuthority other autonomyActive =>
    by_cases hb : b.active = true
    · rcases observeAuthority_cases other autonomyActive hb with
        hsame | ⟨reason, observed, hfail⟩ | ⟨hstate, expected, hidentity, hdone⟩
      · have heq : (step b (.observeAuthority other autonomyActive)).1 =
          b.withAuthority (some other) := hsame
        exact (hframed b rfl id (heq ▸ ⟨rfl, rfl, id, rfl, rfl⟩)).elim
      · have heq : (step b (.observeAuthority other autonomyActive)).1 =
          (b.failWith reason).withAuthority observed := hfail
        refine (hframed (b.failWith reason) (frame_failWith b reason).identities
          (frame_failWith b reason).acknowledged (heq ▸ ⟨rfl, rfl, id, rfl, rfl⟩)).elim
      · exact ⟨hstate, hcompleted expected _ hidentity hdone⟩
    · have heq : (step b (.observeAuthority other autonomyActive)).1 =
          b.withAuthority (some other) := by
        simp only [step, Outcome.answer_fst, observeAuthority]
        rw [if_pos (by simpa using hb)]
      exact (hframed b rfl id (heq ▸ ⟨rfl, rfl, id, rfl, rfl⟩)).elim
  | observeFrontier status active accepted terminal =>
    rcases step_ledger b status active accepted terminal with ⟨-, heq⟩ | ⟨-, hframe⟩
    · exact (hframed b rfl id (.of_eq heq)).elim
    · exact (hframed (b.withFrontier status active accepted terminal) rfl id hframe).elim
  | completeAcknowledgement other =>
    rcases completeAcknowledgement_cases b other with heq | ⟨hstate, hidentity, -, heq⟩
    · have heq' : (step b (.completeAcknowledgement other)).1 = b := heq
      exact (hframed b rfl id (.of_eq heq')).elim
    · refine ⟨hstate, hcompleted other b.observedAuthority hidentity ?_⟩
      obtain ⟨identities, order, hremember, -⟩ := rememberAcknowledgedIdentity_eq b other
      rw [hremember] at heq ⊢
      exact heq
  | begin | nav2GoalStarted | nav2GoalTerminal | markPriorityStopRequested
    | observePriorityStopResult | observeCmdVel | waitReady | waitAcknowledged
    | beginAcknowledgement | fail | snapshot =>
    exact (hframed b rfl id (step_frame b trivial)).elim

theorem step_flags (b : AutonomyQuiescenceBarrier) (hop : op.ledger = none) :
    (step b op).1.zeroEpsilon = b.zeroEpsilon ∧
      (step b op).1.frontierActive = b.frontierActive ∧
      (step b op).1.frontierTerminal = b.frontierTerminal := by
  have hremember : ∀ expected,
      (b.rememberAcknowledgedIdentity expected).zeroEpsilon = b.zeroEpsilon ∧
        (b.rememberAcknowledgedIdentity expected).frontierActive = b.frontierActive ∧
        (b.rememberAcknowledgedIdentity expected).frontierTerminal = b.frontierTerminal := by
    intro expected
    obtain ⟨identities, order, heq, -⟩ := rememberAcknowledgedIdentity_eq b expected
    rw [heq]
    exact ⟨rfl, rfl, rfl⟩
  have hframed : ∀ {b' : AutonomyQuiescenceBarrier}, Frame b b' → b'.zeroEpsilon = b.zeroEpsilon ∧
      b'.frontierActive = b.frontierActive ∧ b'.frontierTerminal = b.frontierTerminal :=
    fun hframe ↦ ⟨hframe.zeroEpsilon, hframe.frontierActive, hframe.frontierTerminal⟩
  cases op with
  | observeAuthority identity autonomyActive =>
    simp only [step, Outcome.answer_fst]
    by_cases hb : b.active = true
    · rcases observeAuthority_cases identity autonomyActive hb with
        heq | ⟨reason, observed, heq⟩ | ⟨-, expected, -, heq⟩
      · rw [heq]
        exact ⟨rfl, rfl, rfl⟩
      · rw [heq]
        exact hframed ((frame_failWith b reason).trans ⟨rfl, rfl, id, rfl, rfl⟩)
      · rw [heq]
        exact hremember expected
    · rw [observeAuthority, if_pos (by simpa using hb)]
      exact ⟨rfl, rfl, rfl⟩
  | observeFrontier status active accepted terminal =>
    rcases step_ledger b status active accepted terminal with ⟨-, heq⟩ | ⟨hsome, -⟩
    · rw [heq]
      exact ⟨rfl, rfl, rfl⟩
    · cases hop.symm.trans hsome
  | completeAcknowledgement identity =>
    simp only [step, Outcome.answer_fst]
    rcases completeAcknowledgement_cases b identity with heq | ⟨-, -, -, heq⟩
    · rw [heq]
      exact ⟨rfl, rfl, rfl⟩
    · rw [heq]
      exact hremember identity
  | begin | nav2GoalStarted | nav2GoalTerminal | markPriorityStopRequested
    | observePriorityStopResult | observeCmdVel | waitReady | waitAcknowledged
    | beginAcknowledgement | fail | snapshot =>
    refine hframed (step_frame b ?_)
    trivial

theorem step_recorded (b : AutonomyQuiescenceBarrier) {a : Bool} (hop : op.ledger = some a) :
    ∃ status active accepted terminal, op = .observeFrontier status active accepted terminal ∧
      a = ledgerActive status active accepted terminal ∧
      Frame (b.withFrontier status active accepted terminal) (step b op).1 := by
  cases op with
  | observeFrontier status active accepted terminal =>
    rcases step_ledger b status active accepted terminal with ⟨hnone, -⟩ | ⟨hsome, hframe⟩
    · cases hnone.symm.trans hop
    · exact ⟨status, active, accepted, terminal, rfl,
        Option.some.inj (hop.symm.trans hsome), hframe⟩
  | _ => cases hop

theorem step_zeroEpsilon (b : AutonomyQuiescenceBarrier) (op : Operation) :
    (step b op).1.zeroEpsilon = b.zeroEpsilon := by
  cases hop : op.ledger with
  | none => exact (step_flags b hop).1
  | some a =>
    obtain ⟨_, _, _, _, -, -, hframe⟩ := step_recorded b hop
    exact hframe.zeroEpsilon

theorem step_failed (op : Operation) (h : b.state = .failed) : (step b op).1.state = .failed := by
  have hidle : b.active = false := by rw [active, h]
  rcases step_inactive op hidle with ⟨-, hsame | hfailed⟩ | ⟨-, identity, required, -, hnot, -⟩
  · exact hsame.trans h
  · exact hfailed
  · exact absurd h hnot

end Frames

variable {b b' : AutonomyQuiescenceBarrier} {op : Operation}

theorem Continues.identity (h : Continues b op b') : b'.identity = b.identity := by
  cases h <;> rfl

theorem stretch {P : List Operation → List Operation → AutonomyQuiescenceBarrier → Prop}
    {Q : AutonomyQuiescenceBarrier → Operation → Prop} {b₀ : AutonomyQuiescenceBarrier}
    (hidle : b₀.active = false)
    (hbegin : ∀ h identity required,
      P (h ++ [.begin identity required]) [] ((run step b₀ h).opened identity required))
    (hstep : ∀ pre post op b', (run step b₀ (pre ++ post)).active = true →
      Q (run step b₀ (pre ++ post)) op → P pre post (run step b₀ (pre ++ post)) →
      Continues (run step b₀ (pre ++ post)) op b' → P pre (post ++ [op]) b')
    (h : List Operation) (hq : Along step Q b₀ h) (hactive : (run step b₀ h).active = true) :
    (run step b₀ h).Settled ∧ ∃ pre identity required post,
      Latest (fun pre op ↦ Begins (run step b₀ pre) op) h pre (.begin identity required) post ∧
        (run step b₀ h).identity = some identity ∧
        P (pre ++ [.begin identity required]) post (run step b₀ h) := by
  induction h using List.reverseRecOn with
  | nil => cases hidle.symm.trans hactive
  | append_singleton h op ih =>
    obtain ⟨hbefore, hop⟩ := (along_snoc step).mp hq
    rw [run_snoc] at hactive ⊢
    cases hb : (run step b₀ h).active with
    | false =>
      rcases step_inactive op hb with
        ⟨-, hsame | hfailed⟩ | ⟨hbegins, identity, required, rfl, -, hopened⟩
      · rw [active_congr hsame, hb] at hactive
        cases hactive
      · rw [active, hfailed] at hactive
        cases hactive
      · rw [hopened]
        refine ⟨?_, h, identity, required, [], .new hbegins, rfl, hbegin h identity required⟩
        rintro (hstate | hstate) <;> cases hstate
    | true =>
      obtain ⟨hsettled, pre, identity, required, post, hlatest, hidentity, hpost⟩ := ih hbefore hb
      obtain ⟨hcontinues, hsettled'⟩ := continues op hb hsettled hactive
      have hsplit : h = (pre ++ [.begin identity required]) ++ post := by
        rw [hlatest.split]
        simp
      refine ⟨hsettled', pre, identity, required, post ++ [op], hlatest.keep ?_,
        hcontinues.identity.trans hidentity, ?_⟩
      · intro hbegins
        cases hb.symm.trans (begins_inactive hbegins)
      · rw [hsplit] at hb hop hpost hcontinues ⊢
        exact hstep _ post op _ hb hop hpost hcontinues

theorem create_inactive {zeroEpsilon : Double} (h : create zeroEpsilon = .ok b) :
    b.active = false ∧ b.zeroEpsilon = zeroEpsilon := by
  unfold create at h
  split_ifs at h
  cases h
  exact ⟨rfl, rfl⟩

end EmbodiedAgent.AutonomyQuiescenceBarrier
