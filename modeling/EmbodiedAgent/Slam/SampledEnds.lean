import EmbodiedAgent.Slam.Nav2GoalAccounts
import EmbodiedAgent.Slam.SampledLedger

namespace EmbodiedAgent.Slam

open Library Library.Program

namespace Nav2MotionTransaction

variable {env : Nav2Environment} (config : Nav2Config)

section Audits

variable {n : ℕ} {t : ActionTerminal} {w₀ w w' : Nav2World}

def Audited (n : ℕ) (w : Nav2World) : Prop :=
  ∃ e, w.ledger.get n = .ok e ∧ e.allPlansKnownFree = true

def ResultRead (t : ActionTerminal) (w w' : Nav2World) : Prop :=
  ∃ seen payload, w.trace <+: seen ∧
    seen ++ [Nav2Entry.call .resultResult (.ok payload)] <+: w'.trace ∧ payload.read = .ok t

def Passed (env : Nav2Environment) (n : ℕ) (t : ActionTerminal) (w w' : Nav2World) : Prop :=
  ∃ a, LedgerRun env n Unsuccessful w a ∧ ResultRead t w a ∧ Audited n a ∧
    LedgerRun env n Unwritten a w'

inductive Told (env : Nav2Environment) (n : ℕ) (w w' : Nav2World) : Prop
  | unsuccessful (h : LedgerRun env n Unsuccessful w w')
  | succeeded (t : ActionTerminal) (b c : Nav2World) (hpassed : Passed env n t w b)
    (hterminal : terminalSucceeded t = true)
    (hwritten : LedgerStep env n (· = .succeeded) b c)
    (hafter : LedgerRun env n Unsuccessful c w')

theorem ResultRead.run {allowed : NavigationGoalStatus → Prop} (h : ResultRead t w₀ w)
    (hrun : LedgerRun env n allowed w w') : ResultRead t w₀ w' := by
  obtain ⟨seen, payload, hseen, htold, hread⟩ := h
  exact ⟨seen, payload, hseen, htold.trans hrun.trace_prefix, hread⟩

theorem Passed.run (h : Passed env n t w₀ w) (hrun : LedgerRun env n Unwritten w w') :
    Passed env n t w₀ w' := by
  obtain ⟨a, hbefore, hread, haudited, hafter⟩ := h
  exact ⟨a, hbefore, hread, haudited, hafter.trans hrun⟩

theorem Passed.ledgerRun (h : Passed env n t w₀ w) : LedgerRun env n Unsuccessful w₀ w := by
  obtain ⟨a, hbefore, -, -, hafter⟩ := h
  exact hbefore.trans (hafter.mono fun _ ↦ False.elim)

theorem Told.run (h : Told env n w₀ w) (hrun : LedgerRun env n Unsuccessful w w') :
    Told env n w₀ w' := by
  cases h with
  | unsuccessful h => exact .unsuccessful (h.trans hrun)
  | succeeded t b c hpassed hterminal hwritten hafter =>
    exact .succeeded t b c hpassed hterminal hwritten (hafter.trans hrun)

end Audits

section Rules

variable {α β : Type} {R : Nav2World → Nav2World → Prop} {w₀ w : Nav2World} {m : Nav2Motion α}

theorem Moves.keeps {P : Nav2World → Prop} (hm : Moves R m)
    (hP : ∀ w', R w w' → P w → P w') (h : P w) : Meets m w (fun _ ↦ P) (fun _ ↦ P) P :=
  (hm w).mono (fun _ w' hr ↦ hP w' hr.2 h) (fun _ w' hr ↦ hP w' hr.2 h) fun w' hr ↦ hP w' hr h

theorem Fails.follows [IsPreorder Nav2World R] {P : α → Nav2World → Prop} (hm : Fails R m)
    (h : R w₀ w) : Meets m w P (fun _ ↦ R w₀) (R w₀) :=
  (hm w).mono (fun _ _ hr ↦ hr.1.elim) (fun _ _ hr ↦ trans_of R h hr.2) fun _ hr ↦ trans_of R h hr

theorem Moves.follows_bind [IsPreorder Nav2World R] {f : α → Nav2Motion β}
    {P : β → Nav2World → Prop} (hm : Moves R m) (h : R w₀ w)
    (hf : ∀ a w', R w₀ w' → Meets (f a) w' P (fun _ ↦ R w₀) (R w₀)) :
    Meets (m >>= f) w P (fun _ ↦ R w₀) (R w₀) :=
  (hm.keeps (fun _ hr h ↦ trans_of R h hr) h).bind hf

end Rules

section Success

variable {i : SampledNavigate} {token : String} {w₀ w : Nav2World}

theorem readTerminal_reads {n : ℕ} {allowed : NavigationGoalStatus → Prop}
    (h : LedgerRun env n allowed w₀ w) {E : Nav2Error → Nav2World → Prop} {U : Nav2World → Prop} :
    Meets (readTerminal env true) w
      (fun r w' ↦ LedgerRun env n allowed w₀ w' ∧ ∀ t, r = .ok t → ResultRead t w₀ w') E U := by
  refine meets_ite nofun fun _ ↦ attempt_call_bind fun done ↦ ?_
  have hlogged (w : Nav2World) (entry : Nav2Entry) :
      LedgerRun env n allowed w { w with trace := w.trace ++ [entry] } :=
    ledgerRun_quiet _ _ rfl (List.prefix_append ..)
  have h₁ := h.trans (hlogged w (.call .resultDone done))
  match done with
  | .error error => exact meets_pure ⟨h₁, nofun⟩
  | .ok false => exact meets_pure ⟨h₁, nofun⟩
  | .ok true =>
    refine attempt_call_bind fun payload ↦ ?_
    have h₂ := h₁.trans (hlogged _ (.call .resultResult payload))
    cases payload with
    | error error => exact meets_pure ⟨h₂, nofun⟩
    | ok payload =>
      exact meets_pure ⟨h₂, fun t hread ↦ ⟨_, payload, LedgerRun.trace_prefix h₁,
        List.prefix_refl _, hread⟩⟩

theorem auditFinalPlans_audits (fuel : ℕ) (deadline : Double) (w : Nav2World) :
    Meets (auditFinalPlans env config fuel (.sampledNavigate i) token deadline) w
      (fun _ w' ↦ LedgerRun env i.sequence Unsuccessful w w' ∧ Audited i.sequence w')
      (fun _ ↦ LedgerRun env i.sequence Unsuccessful w)
      (LedgerRun env i.sequence Unsuccessful w) := by
  refine Moves.follows_bind (monotonic_moves ledgerRun_quiet) .refl fun now w₁ h₁ ↦ ?_
  refine Moves.follows_bind (relates_ite (fun _ ↦ sleep_moves ledgerRun_quiet _)
    fun _ ↦ relates_pure trivial) h₁ fun _ w₂ h₂ ↦ ?_
  -- the record that is looked at is the one that is there
  refine Meets.bind (R := fun record w' ↦ LedgerRun env i.sequence Unsuccessful w w' ∧
    ∀ e, record = .ok e → w'.ledger.get i.sequence = .ok e) (Meets.attempt ?_) ?_
  · have h₃ := h₂.trans (ledgerRun_accessed w₂)
    refine ledgerGet_meets (fun e he ↦ ⟨h₃, fun _ heq ↦ ?_⟩) fun _ _ _ ↦ ⟨h₃, fun _ heq ↦ ?_⟩
    · obtain rfl := Except.ok.inj heq
      exact he
    · cases heq
  · rintro record w₃ ⟨h₃, hget⟩
    cases record with
    | error error => exact (failAcceptedSampledSafely_fails config fuel _).follows h₃
    | ok e =>
      refine meets_ite (fun _ ↦ (failActive_fails config fuel _ (by nofun) _).follows h₃)
        fun hfree ↦ meets_pure ⟨h₃, e, hget e rfl, ?_⟩
      rw [not_or] at hfree
      exact Bool.eq_true_of_not_eq_false hfree.2

theorem finishMotion_passes (h : LedgerRun env i.sequence Unsuccessful w₀ w) (fuel : ℕ)
    (deadline : Double) : Meets (finishMotion env config fuel (.sampledNavigate i) token deadline) w
      (fun t ↦ Passed env i.sequence t w₀) (fun _ ↦ LedgerRun env i.sequence Unsuccessful w₀)
      (LedgerRun env i.sequence Unsuccessful w₀) := by
  refine (readTerminal_reads h).bind fun terminal w₁ ⟨h₁, hread⟩ ↦ ?_
  cases terminal with
  | error error => exact (failActive_fails config fuel _ (by nofun) _).follows h₁
  | ok t =>
    refine Meets.bind ((auditFinalPlans_audits config fuel deadline w₁).mono (fun _ w₂ h₂ ↦ h₂)
      (fun _ w₂ h₂ ↦ h₁.trans h₂) fun w₂ h₂ ↦ h₁.trans h₂) ?_
    rintro _ w₂ ⟨h₂, haudited⟩
    have hpassed : Passed env i.sequence t w₀ w₂ :=
      ⟨w₂, h₁.trans h₂, (hread t rfl).run h₂, haudited, .refl⟩
    -- to close the token writes nothing
    refine Meets.bind ((finishQuiescence_moves ledgerRun_quiet _ _).keeps
      (fun _ hr h ↦ h.run hr) hpassed |>.mono (fun _ _ ↦ id) (fun _ _ h ↦ h.ledgerRun)
      fun _ h ↦ h.ledgerRun) fun _ w₃ h₃ ↦ meets_pure h₃

theorem runGoal_passes (h : LedgerRun env i.sequence Unsuccessful w₀ w) (fuel : ℕ)
    (goal : RuntimeGoal) (deadline : Double) :
    Meets (runGoal env config fuel (.sampledNavigate i) goal token deadline) w
      (fun t ↦ Passed env i.sequence t w₀) (fun _ ↦ LedgerRun env i.sequence Unsuccessful w₀)
      (LedgerRun env i.sequence Unsuccessful w₀) := by
  refine Moves.follows_bind (sendGoal_moves config ledgerRun_quiet _) h fun _ w₁ h₁ ↦ ?_
  refine Moves.follows_bind (relates_iterate (fun _ ↦ responseRound_moves config fuel deadline)
    fuel ()) h₁ fun _ w₂ h₂ ↦ ?_
  refine Moves.follows_bind (acceptGoal_moves config ledgerRun_quiet) h₂ fun _ w₃ h₃ ↦ ?_
  refine Moves.follows_bind (getResultFuture_moves config ledgerRun_quiet fuel) h₃
    fun _ w₄ h₄ ↦ ?_
  refine Moves.follows_bind (recordAcceptance_moves config fuel) h₄ fun _ w₅ h₅ ↦ ?_
  refine Moves.follows_bind (relates_iterate (fun _ ↦ resultRound_moves config fuel deadline)
    fuel ()) h₅ fun _ w₆ h₆ ↦ ?_
  exact finishMotion_passes config h₆ fuel deadline

theorem executeMotion_passes (h : LedgerRun env i.sequence Unsuccessful w₀ w) (fuel : ℕ)
    (deadline : Double) : Meets (executeMotion env config fuel (.sampledNavigate i) deadline) w
      (fun t ↦ Passed env i.sequence t w₀) (fun _ ↦ LedgerRun env i.sequence Unsuccessful w₀)
      (LedgerRun env i.sequence Unsuccessful w₀) := by
  refine Moves.follows_bind (prepare_moves ledgerRun_quiet _ _) h fun _ w₁ h₁ ↦ ?_
  refine Moves.follows_bind (beginQuiescence_moves ledgerRun_quiet _) h₁ fun _ w₂ h₂ ↦ ?_
  exact runGoal_passes config h₂ fuel _ deadline

theorem concludeSampled_told {t : ActionTerminal} (h : Passed env i.sequence t w₀ w) :
    Meets (concludeSampled env i t) w (fun _ ↦ Told env i.sequence w₀)
      (fun _ ↦ Told env i.sequence w₀) (Told env i.sequence w₀) := by
  refine meets_ite (fun hterminal ↦ ?_) fun _ ↦ ?_
  · refine Meets.bind (R := fun _ ↦ Passed env i.sequence t w₀)
      (((call_moves ledgerRun_quiet .evidenceTimestampNs).keeps (fun _ hr h ↦ h.run hr) h).mono
        (fun _ _ ↦ id) (fun _ _ h ↦ .unsuccessful h.ledgerRun)
        fun _ h ↦ .unsuccessful h.ledgerRun) fun timestampNs w₁ h₁ ↦ ?_
    have h₂ := h₁.run (ledgerRun_accessed w₁)
    refine Meets.bind (R := fun _ ↦ Told env i.sequence w₀) (accessTransition_meets
      (fun ledger hledger ↦ ?_) fun _ _ _ ↦ .unsuccessful h₂.ledgerRun) fun _ w₃ h₃ ↦ ?_
    · exact .succeeded t _ { accessed env w₁ with ledger := ledger } h₂ hterminal
        (.written _ _ _ _ _ rfl hledger (List.prefix_refl _)) .refl
    · exact (call_moves ledgerRun_quiet _).keeps (fun _ hr h ↦ h.run hr) h₃
  · have hstatus : Unsuccessful (if t.status = .canceled then .canceled else .aborted) := by
      split <;> nofun
    refine Meets.bind ((transitionSampledPreserving_moves hstatus _ _ _ _).keeps
      (fun _ hr h ↦ h.run hr) (Told.unsuccessful h.ledgerRun)) fun _ w₁ h₁ ↦ meets_raise h₁

theorem recordException_fails (i : SampledNavigate) (error : Nav2Error) :
    Fails (LedgerRun env i.sequence Unsuccessful) (recordException env i error) := by
  refine Relates.bind (V := fun _ ↦ True) ?_ fun _ _ ↦ relates_raise trivial
  split <;> exact transitionSampledPreserving_moves (by nofun) _ _ _ _

end Success

section Settling

variable {n : ℕ} {w w' : Nav2World} {allowed : NavigationGoalStatus → Prop}

/-- The runtime tells the time, from the epoch on. -/
def Timestamped (env : Nav2Environment) : Prop :=
  ∀ trace, ∃ t : ℤ, env.answer trace .evidenceTimestampNs = .ok t ∧ 0 ≤ t

def Known (n : ℕ) (w : Nav2World) : Prop := ∃ e, w.ledger.get n = .ok e

def Settled (n : ℕ) (w : Nav2World) : Prop :=
  ∃ e, w.ledger.get n = .ok e ∧ e.status.terminal = true

theorem Settled.known (h : Settled n w) : Known n w := by
  obtain ⟨e, he, -⟩ := h
  exact ⟨e, he⟩

theorem Known.run (hothers : OnlyInspects env) (h : Known n w)
    (hrun : LedgerRun env n allowed w w') : Known n w' := by
  obtain ⟨e, he⟩ := h
  obtain ⟨e', _, he', -⟩ := hrun.follows hothers he
  exact ⟨e', he'⟩

theorem Settled.run (hothers : OnlyInspects env) (h : Settled n w)
    (hrun : LedgerRun env n allowed w w') : Settled n w' := by
  obtain ⟨e, he, hterminal⟩ := h
  obtain ⟨e', _, he', hfollows⟩ := hrun.follows hothers he
  exact ⟨e', he', (hfollows.evolves.status hterminal).symm ▸ hterminal⟩

theorem Known.accessed (hothers : OnlyInspects env) (h : Known n w) : Known n (accessed env w) :=
  have hrun : LedgerRun env n Unwritten w (Nav2MotionTransaction.accessed env w) :=
    ledgerRun_accessed w
  h.run hothers hrun

variable (hothers : OnlyInspects env) (htimes : Timestamped env)
include hothers htimes

theorem transitionSampled_settles {status : NavigationGoalStatus}
    (hstatus : status.terminal = true) (h : Known n w) (nav2Status nav2ErrorCode : ℤ)
    (detail : String) : Meets (transitionSampled env n status nav2Status nav2ErrorCode detail) w
      (fun _ ↦ Settled n) (fun _ ↦ Settled n) (Settled n) := by
  obtain ⟨t, ht, hpos⟩ := htimes w.trace
  refine Meets.bind (R := fun timestampNs w' ↦ timestampNs = t ∧ Known n w') (meets_invoke
    (fun a ha ↦ ?_) fun e he ↦ ?_) ?_
  · obtain rfl := Except.ok.inj (ht.symm.trans ha)
    exact ⟨rfl, h⟩
  · cases ht.symm.trans he
  · rintro _ w₁ ⟨rfl, h₁⟩
    obtain ⟨e, he⟩ := h₁.accessed hothers
    refine Meets.bind (R := fun _ ↦ Settled n) (accessTransition_meets (fun ledger hledger ↦ ?_)
      fun error error' herror ↦ ?_) fun _ w₂ h₂ ↦ ?_
    · obtain ⟨_, e', -, -, -, rfl, -, hall⟩ := transition_eq_ok hledger
      exact ⟨e', by rw [hall, if_pos rfl], hstatus⟩
    · refine ⟨e, he, Bool.eq_true_of_not_eq_false fun hopen ↦ ?_⟩
      obtain ⟨ledger, hledger⟩ := exists_transition nav2Status nav2ErrorCode detail hpos he hopen
      cases hledger.symm.trans herror
    · have hcall : Moves (LedgerRun env n Unwritten) (call env .navigationEvidenceChanged) :=
        call_moves ledgerRun_quiet _
      exact hcall.keeps (fun _ hr h ↦ h.run hothers hr) h₂

theorem transitionSampledPreserving_settles (primary : Nav2Error)
    {status : NavigationGoalStatus} (hstatus : status.terminal = true) (h : Known n w)
    (nav2Status nav2ErrorCode : ℤ) (detail : String) {E : Nav2Error → Nav2World → Prop} :
    Meets (transitionSampledPreserving env primary n status nav2Status nav2ErrorCode detail) w
      (fun _ ↦ Settled n) E (Settled n) := by
  refine Meets.bind (R := fun _ ↦ Settled n) (Meets.attempt ?_) fun written w₁ h₁ ↦ ?_
  · obtain ⟨e, he⟩ := h.accessed hothers
    refine Meets.bind (R := fun terminal w' ↦ Known n w' ∧ (terminal = true → Settled n w'))
      (ledgerIsTerminal_meets (fun e he ↦ ⟨⟨e, he⟩, fun hterminal ↦ ⟨e, he, hterminal⟩⟩)
        fun _ _ herror ↦ ?_) fun terminal w₁ h₁ ↦ ?_
    · cases he.symm.trans herror
    · exact meets_ite (fun hterminal ↦ meets_pure (h₁.2 hterminal))
        fun _ ↦ transitionSampled_settles hothers htimes hstatus h₁.1 _ _ _
  · cases written with
    | ok => exact meets_pure h₁
    | error error => exact meets_pure h₁

theorem recordException_settles {i : SampledNavigate} (h : Known i.sequence w)
    (error : Nav2Error) {Q : Unit → Nav2World → Prop} :
    Meets (recordException env i error) w Q (fun _ ↦ Settled i.sequence) (Settled i.sequence) := by
  refine Meets.bind (R := fun _ ↦ Settled i.sequence) ?_ fun _ w₁ h₁ ↦ meets_raise h₁
  split <;> exact transitionSampledPreserving_settles hothers htimes _ rfl h _ _ _

theorem concludeSampled_settles {i : SampledNavigate} (h : Known i.sequence w)
    (t : ActionTerminal) : Meets (concludeSampled env i t) w (fun _ ↦ Settled i.sequence)
      (fun _ ↦ Known i.sequence) (Known i.sequence) := by
  refine meets_ite (fun _ ↦ ?_) fun _ ↦ ?_
  · exact (transitionSampled_settles hothers htimes rfl h _ _ _).mono (fun _ _ ↦ id)
      (fun _ _ h ↦ h.known) fun _ h ↦ h.known
  · have hstatus : (if t.status = .canceled then NavigationGoalStatus.canceled
        else .aborted).terminal = true := by
      split <;> rfl
    refine Meets.bind ((transitionSampledPreserving_settles hothers htimes _ hstatus h _ _ _).mono
      (fun _ _ ↦ id) (fun _ _ ↦ id) fun _ h ↦ h.known) fun _ w₁ h₁ ↦ meets_raise h₁.known

end Settling

section Requests

variable {i : SampledNavigate} {w₀ w w' : Nav2World} {e : NavigationGoalEvidence}

/-- The request is one that is taken up. -/
structure Entered (i : SampledNavigate) (deadline : Double) (w : Nav2World)
    (e : NavigationGoalEvidence) : Prop where
  deadline : deadline.isFinite = true
  unlocked : w.locked = false
  goal : e.goalXy = i.goalXy
  requested : e.status = .requested

theorem get_accessed (hothers : OnlyInspects env) (he : w.ledger.get i.sequence = .ok e) :
    ∃ e', (accessed env w).ledger.get i.sequence = .ok e' ∧ e'.goalXy = e.goalXy ∧
      e'.status = e.status := by
  have hrun : LedgerRun env i.sequence Unwritten w (accessed env w) := ledgerRun_accessed w
  obtain ⟨e', _, he', hfollows⟩ := hrun.follows hothers he
  exact ⟨e', he', hfollows.evolves.goal, hfollows.status.resolve_right id⟩

theorem executeSampled_told (h : LedgerRun env i.sequence Unsuccessful w₀ w) (fuel : ℕ)
    (deadline : Double) :
    Meets (executeSampled env config fuel i deadline) w (fun _ ↦ Told env i.sequence w₀)
      (fun _ ↦ Told env i.sequence w₀) (Told env i.sequence w₀) := by
  have haccess := h.trans (ledgerRun_accessed w)
  refine Meets.bind (R := fun _ ↦ LedgerRun env i.sequence Unsuccessful w₀) (ledgerGet_meets
    (fun _ _ ↦ haccess) fun _ _ _ ↦ .unsuccessful haccess) fun record w₁ h₁ ↦ ?_
  refine meets_ite (fun _ ↦ meets_raise (.unsuccessful h₁)) fun _ ↦ meets_ite
    (fun _ ↦ meets_raise (.unsuccessful h₁)) fun _ ↦ Meets.handle
    (F := fun _ ↦ Told env i.sequence w₀) ?_ fun error w₂ h₂ ↦ ?_
  · exact Meets.bind ((executeMotion_passes config h₁ fuel deadline).mono (fun _ _ ↦ id)
      (fun _ _ h ↦ .unsuccessful h) fun _ h ↦ .unsuccessful h) fun t w₂ h₂ ↦
        concludeSampled_told h₂
  · exact (recordException_fails i error).moves.keeps (fun _ hr h ↦ h.run hr) h₂

theorem executeSampled_settles (hothers : OnlyInspects env) (htimes : Timestamped env)
    (he : w.ledger.get i.sequence = .ok e) (hgoal : e.goalXy = i.goalXy)
    (hrequested : e.status = .requested) (fuel : ℕ) (deadline : Double) :
    Meets (executeSampled env config fuel i deadline) w (fun _ ↦ Settled i.sequence)
      (fun _ ↦ Settled i.sequence) fun _ ↦ True := by
  obtain ⟨e', he', hgoal', hrequested'⟩ := get_accessed hothers he
  refine Meets.bind (R := fun record w' ↦ Known i.sequence w' ∧ record.goalXy = i.goalXy ∧
    record.status = .requested) (ledgerGet_meets (fun record hrecord ↦ ?_)
      fun _ _ herror ↦ ?_) ?_
  · obtain rfl := Except.ok.inj (he'.symm.trans hrecord)
    exact ⟨⟨e', he'⟩, hgoal'.trans hgoal, hrequested'.trans hrequested⟩
  · cases he'.symm.trans herror
  · rintro record w₁ ⟨h₁, hgoal, hrequested⟩
    refine meets_ite (fun hne ↦ absurd hgoal hne) fun _ ↦ meets_ite
      (fun hne ↦ absurd hrequested hne) fun _ ↦ Meets.handle (F := fun _ ↦ Known i.sequence)
      ?_ fun error w₂ h₂ ↦ (recordException_settles hothers htimes h₂ error).mono
        (fun _ _ ↦ id) (fun _ _ ↦ id) fun _ _ ↦ trivial
    refine Meets.bind (R := fun _ ↦ Known i.sequence) ((executeMotion_passes config .refl fuel
      deadline).mono (fun _ _ h ↦ h₁.run hothers h.ledgerRun) (fun _ _ h ↦ h₁.run hothers h)
      fun _ _ ↦ trivial) fun t w₂ h₂ ↦ ?_
    exact (concludeSampled_settles hothers htimes h₂ t).mono (fun _ _ ↦ id) (fun _ _ ↦ id)
      fun _ _ ↦ trivial

theorem executeSampled_refuses (hothers : OnlyInspects env) (he : w.ledger.get i.sequence = .ok e)
    (hrefused : ¬ (e.goalXy = i.goalXy ∧ e.status = .requested)) (fuel : ℕ) (deadline : Double) :
    Meets (executeSampled env config fuel i deadline) w
      (fun _ ↦ LedgerRun env i.sequence Unwritten w) (fun _ ↦ LedgerRun env i.sequence Unwritten w)
      (LedgerRun env i.sequence Unwritten w) := by
  obtain ⟨e', he', hgoal', hrequested'⟩ := get_accessed hothers he
  have haccess : LedgerRun env i.sequence Unwritten w (accessed env w) := ledgerRun_accessed w
  refine Meets.bind (R := fun record w' ↦ w' = accessed env w ∧ record.goalXy = e.goalXy ∧
    record.status = e.status) (ledgerGet_meets (fun record hrecord ↦ ?_)
      fun _ _ _ ↦ haccess) ?_
  · obtain rfl := Except.ok.inj (he'.symm.trans hrecord)
    exact ⟨rfl, hgoal', hrequested'⟩
  · rintro record _ ⟨rfl, hgoal, hstatus⟩
    refine meets_ite (fun _ ↦ meets_raise haccess) fun hsame ↦ meets_ite
      (fun _ ↦ meets_raise haccess) fun hopen ↦ absurd ?_ hrefused
    rw [← hgoal, ← hstatus]
    exact ⟨not_not.mp hsame, not_not.mp hopen⟩

theorem execute_meets {P U : Nav2World → Prop} {fuel : ℕ} {deadline : Double}
    (hunlock : ∀ w', P w' → P { w' with locked := false })
    (hrefused : ¬ (deadline.isFinite = true ∧ w.locked = false) → P w)
    (h : deadline.isFinite = true → w.locked = false →
      Meets (executeSampled env config fuel i deadline) { w with locked := true }
        (fun _ ↦ P) (fun _ ↦ P) U) :
    Meets (execute env config fuel (.sampledNavigate i) deadline) w (fun _ ↦ P) (fun _ ↦ P) U := by
  refine meets_ite (fun hinfinite ↦ meets_raise (hrefused fun h ↦ ?_)) fun hfinite ↦ ?_
  · rw [h.1] at hinfinite
    cases hinfinite
  · refine meets_get_bind (meets_ite (fun hlocked ↦ meets_raise (hrefused fun h ↦ ?_))
      fun hunlocked ↦ meets_modify_bind ?_)
    · rw [h.2] at hlocked
      cases hlocked
    · exact (h (Bool.eq_true_of_not_eq_false hfinite)
        (Bool.eq_false_of_not_eq_true hunlocked)).ensure
          (fun _ w' h ↦ meets_modify (hunlock w' h)) fun _ w' h ↦ meets_modify (hunlock w' h)

theorem ledgerRun_locked {n : ℕ} {allowed : NavigationGoalStatus → Prop} (w : Nav2World)
    (locked : Bool) : LedgerRun env n allowed w { w with locked := locked } :=
  .single (.quiet rfl (List.prefix_refl _))

theorem execute_told (fuel : ℕ) (i : SampledNavigate) (deadline : Double) (w : Nav2World) :
    Meets (execute env config fuel (.sampledNavigate i) deadline) w
      (fun _ ↦ Told env i.sequence w) (fun _ ↦ Told env i.sequence w) (Told env i.sequence w) :=
  execute_meets config (fun w' h ↦ h.run (ledgerRun_locked w' false))
    (fun _ ↦ .unsuccessful .refl)
    fun _ _ ↦ executeSampled_told config (ledgerRun_locked w true) fuel deadline

theorem execute_settles (hothers : OnlyInspects env) (htimes : Timestamped env)
    (he : w.ledger.get i.sequence = .ok e) {deadline : Double}
    (h : Entered i deadline w e) (fuel : ℕ) :
    Meets (execute env config fuel (.sampledNavigate i) deadline) w
      (fun _ ↦ Settled i.sequence) (fun _ ↦ Settled i.sequence) fun _ ↦ True :=
  execute_meets config (fun _ h ↦ h) (fun hrefused ↦ absurd ⟨h.deadline, h.unlocked⟩ hrefused)
    fun _ _ ↦ executeSampled_settles config (w := { w with locked := true }) hothers htimes he
      h.goal h.requested fuel deadline

theorem execute_refuses (hothers : OnlyInspects env) (he : w.ledger.get i.sequence = .ok e)
    {deadline : Double} (h : ¬ Entered i deadline w e) (fuel : ℕ) :
    Meets (execute env config fuel (.sampledNavigate i) deadline) w
      (fun _ ↦ LedgerRun env i.sequence Unwritten w) (fun _ ↦ LedgerRun env i.sequence Unwritten w)
      (LedgerRun env i.sequence Unwritten w) := by
  refine execute_meets config (fun w' h ↦ h.trans (ledgerRun_locked w' false)) (fun _ ↦ .refl)
    fun hfinite hunlocked ↦ ?_
  have hrun : LedgerRun env i.sequence Unwritten w { w with locked := true } :=
    ledgerRun_locked w true
  exact (executeSampled_refuses config (w := { w with locked := true }) hothers he
    (fun hsame ↦ h ⟨hfinite, hunlocked, hsame.1, hsame.2⟩) fuel deadline).mono
    (fun _ _ h ↦ hrun.trans h) (fun _ _ h ↦ hrun.trans h) fun _ h ↦ hrun.trans h

end Requests

section Moments

variable {n : ℕ} {w a w' : Nav2World} {moments moments' : List Nav2World}

/-- The moments of a run, of which each is one step after the last. -/
structure Moments (env : Nav2Environment) (n : ℕ) (w w' : Nav2World)
    (moments : List Nav2World) : Prop where
  first : moments.head? = some w
  last : moments.getLast? = some w'
  steps : moments.IsChain (LedgerStep env n fun _ ↦ True)

def RecordEvolves (n : ℕ) (w w' : Nav2World) : Prop :=
  ∀ e, w.ledger.get n = .ok e → ∃ e', w'.ledger.get n = .ok e' ∧ Evolves e e'

instance (n : ℕ) : IsTrans Nav2World (RecordEvolves n) where
  trans w a w' h h' := by
    intro e he
    obtain ⟨e₁, he₁, h₁⟩ := h e he
    obtain ⟨e₂, he₂, h₂⟩ := h' e₁ he₁
    exact ⟨e₂, he₂, h₁.trans h₂⟩

theorem exists_moments {allowed : NavigationGoalStatus → Prop}
    (h : LedgerRun env n allowed w w') : ∃ moments, Moments env n w w' moments := by
  obtain ⟨l, hchain, hlast⟩ := List.exists_isChain_cons_of_relationReflTransGen
    (h.mono fun _ _ ↦ trivial)
  refine ⟨w :: l, rfl, ?_, hchain⟩
  rw [List.getLast?_eq_some_getLast (List.cons_ne_nil w l), hlast]

theorem Moments.append (h : Moments env n w a moments) (h' : Moments env n a w' moments') :
    Moments env n w w' (moments ++ moments') where
  first := by rw [List.head?_append, h.first, Option.some_or]
  last := by rw [List.getLast?_append, h'.last, Option.some_or]
  steps := by
    refine List.isChain_append.mpr ⟨h.steps, h'.steps, ?_⟩
    intro x hx y hy
    rw [h.last] at hx
    rw [h'.first] at hy
    obtain rfl := Option.some.inj hx
    obtain rfl := Option.some.inj hy
    exact .quiet rfl (List.prefix_refl _)

theorem Moments.evolves (hothers : OnlyInspects env) (h : Moments env n w w' moments) :
    moments.Pairwise (RecordEvolves n) := by
  refine List.isChain_iff_pairwise.mp (h.steps.imp fun x y hstep e he ↦ ?_)
  obtain ⟨e', _, he', hfollows⟩ := hstep.follows hothers he
  exact ⟨e', he', hfollows.evolves⟩

end Moments

variable {n : ℕ} {w w' : Nav2World} {e : NavigationGoalEvidence}

def PassedAt (n : ℕ) (w : Nav2World) (e : NavigationGoalEvidence) (a : Nav2World) : Prop :=
  ∃ t plans audited, terminalSucceeded t = true ∧ ResultRead t w a ∧
    a.ledger.get n = .ok audited ∧ Follows n Unsuccessful plans e audited ∧
    0 < e.planCount + plans.length ∧ (0 < e.planCount → e.allPlansKnownFree = true) ∧
    ∀ plan ∈ plans, plan.knownFree = true

theorem Told.moments (hothers : OnlyInspects env) (h : Told env n w w')
    (he : w.ledger.get n = .ok e) :
    ∃ e' moments, w'.ledger.get n = .ok e' ∧ Moments env n w w' moments ∧
      (e'.status = .succeeded → e.status = .succeeded ∨ ∃ a ∈ moments, PassedAt n w e a) := by
  cases h with
  | unsuccessful h =>
    obtain ⟨e', _, he', hfollows⟩ := h.follows hothers he
    obtain ⟨moments, hmoments⟩ := exists_moments h
    refine ⟨e', moments, he', hmoments, fun hsucceeded ↦ ?_⟩
    rcases hfollows.status with hsame | hnew
    · exact .inl (hsame.symm.trans hsucceeded)
    · exact absurd hsucceeded hnew
  | succeeded t b c hpassed hterminal hwritten hafter =>
    obtain ⟨a, hbefore, hread, ⟨audited, haudited, hfree⟩, hquiet⟩ := hpassed
    have hrest : LedgerRun env n (fun _ ↦ True) a w' :=
      (hquiet.mono fun _ _ ↦ trivial).trans
        (.head (hwritten.mono fun _ _ ↦ trivial) (hafter.mono fun _ _ ↦ trivial))
    obtain ⟨e', _, he', -⟩ := hrest.follows hothers haudited
    obtain ⟨audited', plans, haudited', hfollows⟩ := hbefore.follows hothers he
    obtain rfl := Except.ok.inj (haudited.symm.trans haudited')
    obtain ⟨moments, hmoments⟩ := exists_moments hbefore
    obtain ⟨moments', hmoments'⟩ := exists_moments hrest
    refine ⟨e', moments ++ moments', he', hmoments.append hmoments', fun _ ↦ .inr ⟨a, ?_, ?_⟩⟩
    · exact List.mem_append_left _ (List.mem_of_getLast? hmoments.last)
    · exact ⟨t, plans, audited, hterminal, hread, haudited, hfollows,
        allPlansKnownFree_inspections hfollows.counted hfollows.counters hfree⟩

theorem sampled_ledger_truthful (hothers : OnlyInspects env) (fuel : ℕ) (i : SampledNavigate)
    (deadline : Double) (he : w.ledger.get i.sequence = .ok e) :
    let run := execute env config fuel (.sampledNavigate i) deadline w
    ∃ e' moments, run.2.ledger.get i.sequence = .ok e' ∧
      (Timestamped env → Entered i deadline w e → run.1 ≠ .unfinished →
        e'.status.terminal = true) ∧
      (¬ Entered i deadline w e → LedgerRun env i.sequence Unwritten w run.2) ∧
      Moments env i.sequence w run.2 moments ∧ moments.Pairwise (RecordEvolves i.sequence) ∧
      (e'.status = .succeeded → e.status = .succeeded ∨
        ∃ a ∈ moments, PassedAt i.sequence w e a) := by
  intro run
  have htold : Told env i.sequence w run.2 := (execute_told config fuel i deadline w).state
  obtain ⟨e', moments, he', hmoments, hsuccess⟩ := htold.moments hothers he
  refine ⟨e', moments, he', fun htimes hentered hfinished ↦ ?_, fun hrefused ↦ ?_, hmoments,
    hmoments.evolves hothers, hsuccess⟩
  · obtain ⟨e'', he'', hterminal⟩ :=
      (execute_settles config hothers htimes he hentered fuel).finished hfinished
    obtain rfl := Except.ok.inj (he'.symm.trans he'')
    exact hterminal
  · exact (execute_refuses config hothers he hrefused fuel).state

def willing (timestampNs : Except Nav2Error ℤ) (plan : List Nav2Entry → Inspection) :
    Nav2Environment where
  answer
    | _, .isCancelled => .ok false
    | _, .waitForServer .. | _, .responseDone | _, .responseResult | _, .handleAccepted
    | _, .resultDone => .ok true
    | _, .resultResult => .ok (.terminal (.ok 4) (.ok 0) "")
    | _, .evidenceTimestampNs => timestampNs
    | _, .nav2GoalStarted _ | _, .sendGoal _ | _, .getResultAsync | _, .cancelGoalAsync
    | _, .forcePriorityStop _ | _, .nav2GoalTerminal _ | _, .stopNavigationStage
    | _, .navigationEvidenceChanged => .ok ()
  clock _ := 0
  record trace ledger := ledger.inspect (plan trace)
  showFloat _ := ""

theorem willing_onlyInspects (timestampNs : Except Nav2Error ℤ)
    (plan : List Nav2Entry → Inspection) : OnlyInspects (willing timestampNs plan) :=
  fun trace _ ↦ ⟨[plan trace], rfl⟩

def freePlan : Inspection := ⟨1, 0, 0, 0⟩

def latePlan (trace : List Nav2Entry) : Inspection :=
  if trace.any (·.closing.isSome) then ⟨1, 1, 0, 0⟩ else freePlan

theorem standard_positive :
    ∀ v ∈ [Double.ofRat 10, .ofRat (5 / 100)], v.isFinite = true ∧ 0 < v := by decide +kernel

theorem standard_drain_valid :
    (Double.ofRat (3 / 10)).isFinite = true ∧ ¬ Double.ofRat (3 / 10) < 0 := by decide +kernel

def standard : Nav2Config where
  positive := standard_positive
  drain_valid := standard_drain_valid

theorem zero_finite : (0 : Double).isFinite = true := by decide +kernel

def home : SampledNavigate := ⟨1, (0, 0), Nat.one_pos, zero_finite, zero_finite⟩

def requested : NavigationGoalEvidence := { sequence := 1, goalXy := (0, 0), status := .requested }

def awaiting (locked : Bool) : Nav2World := { locked := locked, ledger := ⟨[requested]⟩ }

/-- How the request for `home` ends, and what it leaves in the ledger. -/
def homeward (env : Nav2Environment) (locked : Bool) :
    Ending Nav2Error Unit × Except LedgerError NavigationGoalEvidence :=
  let run := execute env standard 3 (.sampledNavigate home) (.ofRat 1) (awaiting locked)
  (run.1, run.2.ledger.get 1)

theorem willing_goal_passes :
    ∃ moments, Moments (willing (.ok 0) fun _ ↦ freePlan) 1 (awaiting false)
      (execute (willing (.ok 0) fun _ ↦ freePlan) standard 3 (.sampledNavigate home) (.ofRat 1)
        (awaiting false)).2 moments ∧ ∃ a ∈ moments, PassedAt 1 (awaiting false) requested a := by
  obtain ⟨e', moments, he', -, -, hmoments, -, hsuccess⟩ := sampled_ledger_truthful standard
    (willing_onlyInspects (.ok 0) fun _ ↦ freePlan) 3 home (.ofRat 1) (w := awaiting false)
    (e := requested) rfl
  have hstatus : (homeward (willing (.ok 0) fun _ ↦ freePlan) false).2.toOption.map (·.status) =
      some .succeeded := by decide +kernel
  have hhome : (homeward (willing (.ok 0) fun _ ↦ freePlan) false).2 = .ok e' := he'
  rw [hhome] at hstatus
  exact ⟨moments, hmoments, (hsuccess (Option.some.inj hstatus)).resolve_left nofun⟩

/-- A record is left open where the time cannot be told, and a late plan is in a success. -/
theorem sampled_ledger_exceptions :
    ((homeward (willing (.error ⟨.other "RuntimeError", "no clock", []⟩) fun _ ↦ freePlan)
        false).1.failure.isSome = true ∧
      (homeward (willing (.error ⟨.other "RuntimeError", "no clock", []⟩) fun _ ↦ freePlan)
        false).2.toOption.map (·.status.terminal) = some false) ∧
    ((homeward (willing (.ok 0) fun _ ↦ freePlan) true).1.failure.isSome = true ∧
      (homeward (willing (.ok 0) fun _ ↦ freePlan) true).2.toOption.map (·.status.terminal) =
        some false) ∧ (homeward (willing (.ok 0) latePlan) false).2.toOption.map
        (fun e ↦ (e.status, e.maxUnknownCellCount)) = some (.succeeded, 1) := by
  refine ⟨⟨?_, ?_⟩, ⟨?_, ?_⟩, ?_⟩ <;> decide +kernel

end Nav2MotionTransaction

end EmbodiedAgent.Slam
