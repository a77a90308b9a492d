import EmbodiedAgent.Slam.LedgerSteps

namespace EmbodiedAgent.Slam

open Library Library.Program

namespace Nav2MotionTransaction

variable {env : Nav2Environment} (config : Nav2Config)

variable (R : Nav2World → Nav2World → Prop)

abbrev Moves {α : Type} (m : Nav2Motion α) : Prop :=
  Relates R (fun _ ↦ True) m fun _ ↦ True

abbrev Fails {α : Type} (m : Nav2Motion α) : Prop :=
  Relates R (fun _ ↦ True) m fun _ ↦ False

theorem Fails.moves {R : Nav2World → Nav2World → Prop} {α : Type} {m : Nav2Motion α}
    (hm : Fails R m) : Moves R m :=
  hm.imp fun _ ↦ False.elim

def AllowsQuiet : Prop :=
  ∀ w w', w'.ledger = w.ledger → w.trace <+: w'.trace → R w w'

section Quiet

variable {α : Type} {R : Nav2World → Nav2World → Prop} [IsPreorder Nav2World R]
  (hq : AllowsQuiet R) {intent : MotionIntent} {token : String}

include hq

omit [IsPreorder Nav2World R] in
theorem log_moves (entry : Nav2Entry) : Moves R (log entry) := fun _ ↦
  meets_modify ⟨trivial, hq _ _ rfl (List.prefix_append ..)⟩

omit [IsPreorder Nav2World R] in
theorem call_moves (c : RuntimeCall) : Moves R (call env c) := fun _ ↦
  meets_invoke (fun _ _ ↦ ⟨trivial, hq _ _ rfl (List.prefix_append ..)⟩)
    fun _ _ ↦ ⟨trivial, hq _ _ rfl (List.prefix_append ..)⟩

omit [IsPreorder Nav2World R] in
theorem attempt_moves (c : RuntimeCall) : Moves R (attempt (call env c)) :=
  (call_moves hq c).attempt

theorem monotonic_moves : Moves R (monotonic env) := fun _ ↦ meets_get_bind <|
  (log_moves hq _).bind (fun _ _ ↦ relates_pure trivial) _

omit [IsPreorder Nav2World R] in
theorem sleep_moves (seconds : Double) : Moves R (sleep seconds) := log_moves hq _

theorem newCleanupDeadline_moves : Moves R (newCleanupDeadline env config) :=
  (monotonic_moves hq).bind fun _ _ ↦ relates_pure trivial

theorem remainingCleanupS_moves (cleanupDeadline : Double) :
    Moves R (remainingCleanupS env cleanupDeadline) :=
  (monotonic_moves hq).bind fun _ _ ↦ relates_pure trivial

theorem failSafety_moves (reason : String) (cleanupErrors : List String)
    (terminal : Option ActionTerminal) :
    Moves R (failSafety env reason cleanupErrors terminal : Nav2Motion α) :=
  (attempt_moves hq _).bind fun _ _ ↦ relates_raise trivial

theorem finishQuiescence_moves (reason : String) (terminal : Option ActionTerminal) :
    Moves R (finishQuiescence env token reason terminal) := by
  refine (attempt_moves hq _).bind fun closed _ ↦ ?_
  cases closed with
  | ok => exact relates_pure trivial
  | error error => exact failSafety_moves hq _ _ _

theorem failUnknownGoalSafely_moves (reason cleanupFailure : String) (cleanupDeadline : Double) :
    Moves R (failUnknownGoalSafely env reason cleanupFailure cleanupDeadline : Nav2Motion α) :=
  (remainingCleanupS_moves hq _).bind fun _ _ ↦ (attempt_moves hq _).bind
    fun _ _ ↦ failSafety_moves hq _ _ _

theorem responseDone_moves (reason : String) (cleanupDeadline : Option Double) :
    Moves R (responseDone env config reason cleanupDeadline) := by
  refine (attempt_moves hq _).bind fun done _ ↦ ?_
  cases done with
  | ok done => exact relates_pure trivial
  | error error =>
    refine Relates.bind (V := fun _ ↦ True) ?_ fun _ _ ↦ failUnknownGoalSafely_moves hq _ _ _
    cases cleanupDeadline with
    | some deadline => exact relates_pure trivial
    | none => exact newCleanupDeadline_moves config hq

theorem resultDone_moves : Moves R (resultDone env) := by
  refine (attempt_moves hq _).bind fun done _ ↦ ?_
  cases done with
  | ok done => exact relates_pure trivial
  | error error => exact relates_pure trivial

theorem readTerminal_moves (hasFuture : Bool) : Moves R (readTerminal env hasFuture) := by
  refine relates_ite (fun _ ↦ relates_pure trivial) fun _ ↦ ?_
  refine (attempt_moves hq _).bind fun done _ ↦ ?_
  match done with
  | .error error => exact relates_pure trivial
  | .ok false => exact relates_pure trivial
  | .ok true =>
    refine (attempt_moves hq _).bind fun payload _ ↦ ?_
    cases payload with
    | error error => exact relates_pure trivial
    | ok payload => exact relates_pure trivial

theorem canceledResultRound_moves (cleanupDeadline : Double) :
    Moves R (canceledResultRound env config cleanupDeadline ()) := by
  refine (monotonic_moves hq).bind fun now _ ↦ relates_ite (fun _ ↦ ?_)
    fun _ ↦ relates_pure trivial
  refine (attempt_moves hq _).bind fun done _ ↦ ?_
  match done with
  | .ok false =>
    refine (remainingCleanupS_moves hq _).bind fun remaining _ ↦ ?_
    exact (sleep_moves hq _).bind fun _ _ ↦ relates_pure trivial
  | .ok true => exact relates_pure trivial
  | .error error => exact relates_pure trivial

theorem closeCanceled_moves (reason : String) (cleanupErrors : List String)
    (terminal : Except String ActionTerminal) :
    Moves R (closeCanceled env token reason cleanupErrors terminal) := by
  cases terminal with
  | error error => exact failSafety_moves hq _ _ _
  | ok terminal =>
    refine (attempt_moves hq _).bind fun closed _ ↦ ?_
    exact relates_ite (fun _ ↦ relates_pure trivial) fun _ ↦ failSafety_moves hq _ _ _

theorem cancelStopAndProveTerminal_moves (fuel : ℕ) (hasFuture : Bool) (reason : String)
    (cleanupDeadline : Double) :
    Moves R (cancelStopAndProveTerminal env config fuel hasFuture reason token
      cleanupDeadline) := by
  refine (attempt_moves hq _).bind fun _ _ ↦ (remainingCleanupS_moves hq _).bind fun _ _ ↦ ?_
  refine (attempt_moves hq _).bind fun _ _ ↦ Relates.bind (V := fun _ ↦ True)
    (relates_ite (fun _ ↦ ?_) fun _ ↦ relates_pure trivial) fun _ _ ↦ ?_
  · exact relates_iterate (fun _ ↦ canceledResultRound_moves config hq _) fuel ()
  · exact (readTerminal_moves hq _).bind fun _ _ ↦ closeCanceled_moves hq _ _ _

theorem lateResponseRound_moves (reason : String) (cleanupDeadline : Double) :
    Moves R (lateResponseRound env config reason cleanupDeadline ()) := by
  refine (responseDone_moves config hq _ _).bind fun done _ ↦ relates_ite
    (fun _ ↦ relates_pure trivial) fun _ ↦ ?_
  refine (monotonic_moves hq).bind fun now _ ↦ relates_ite (fun _ ↦ ?_)
    fun _ ↦ relates_pure trivial
  refine (remainingCleanupS_moves hq _).bind fun remaining _ ↦ ?_
  exact (sleep_moves hq _).bind fun _ _ ↦ relates_pure trivial

theorem cancelLate_moves (fuel : ℕ) (reason : String) (cleanupDeadline : Double) :
    Moves R (cancelLate env config fuel reason token cleanupDeadline) := by
  refine (attempt_moves hq _).bind fun future _ ↦ Relates.bind (V := fun _ ↦ True) ?_
    fun _ _ ↦ relates_pure trivial
  cases future with
  | ok => exact cancelStopAndProveTerminal_moves config hq _ _ _ _
  | error error => exact cancelStopAndProveTerminal_moves config hq _ _ _ _

theorem resolvePendingGoalSafely_moves (fuel : ℕ) (reason : String) (cleanupDeadline : Double) :
    Moves R (resolvePendingGoalSafely env config fuel reason token cleanupDeadline) := by
  refine Relates.bind (V := fun _ ↦ True)
    (relates_iterate (fun _ ↦ lateResponseRound_moves config hq _ _) fuel ()) fun _ _ ↦ ?_
  refine (responseDone_moves config hq _ _).bind fun done _ ↦ relates_ite
    (fun _ ↦ failUnknownGoalSafely_moves hq _ _ _) fun _ ↦ ?_
  refine (attempt_moves hq _).bind fun handle _ ↦ ?_
  match handle with
  | .error error => exact failUnknownGoalSafely_moves hq _ _ _
  | .ok false => exact (finishQuiescence_moves hq _ _).bind fun _ _ ↦ relates_pure trivial
  | .ok true =>
    refine (attempt_moves hq _).bind fun accepted _ ↦ ?_
    match accepted with
    | .error error => exact failUnknownGoalSafely_moves hq _ _ _
    | .ok false => exact (finishQuiescence_moves hq _ _).bind fun _ _ ↦ relates_pure trivial
    | .ok true => exact cancelLate_moves config hq _ _ _

theorem checkCancelled_moves : Moves R (checkCancelled env intent) :=
  (call_moves hq .isCancelled).bind fun (_ : Bool) _ ↦
    relates_ite (fun _ ↦ relates_raise trivial) fun _ ↦ relates_pure trivial

theorem prepare_moves (kind : Nav2ActionKind) (deadline : Double) :
    Moves R (prepare env intent kind deadline) := by
  refine (monotonic_moves hq).bind fun now _ ↦ (checkCancelled_moves hq).bind fun _ _ ↦ ?_
  refine relates_ite (fun _ ↦ relates_raise trivial) fun _ ↦ ?_
  refine (call_moves hq (.waitForServer ..)).bind fun (available : Bool) _ ↦ ?_
  refine relates_ite (fun _ ↦ relates_raise trivial) fun _ ↦ ?_
  refine (checkCancelled_moves hq).bind fun _ _ ↦ (monotonic_moves hq).bind fun now _ ↦ ?_
  exact relates_ite (fun _ ↦ relates_raise trivial) fun _ ↦ relates_pure trivial

theorem beginQuiescence_moves (label : String) : Moves R (beginQuiescence env label) := by
  intro w
  refine Relates.meets_modify_bind (W := fun _ ↦ True) ?_ (hq _ _ rfl (List.prefix_refl _))
  exact fun w ↦ meets_get_bind (((call_moves hq _).bind fun _ _ ↦ relates_pure trivial) w)

theorem sendGoal_moves (goal : RuntimeGoal) : Moves R (sendGoal env config intent goal) := by
  refine (attempt_moves hq _).bind fun sent _ ↦ ?_
  cases sent with
  | ok => exact relates_pure trivial
  | error error =>
    exact (newCleanupDeadline_moves config hq).bind
      fun _ _ ↦ failUnknownGoalSafely_moves hq _ _ _

theorem rejectGoal_moves : Moves R (rejectGoal env intent token : Nav2Motion α) :=
  (finishQuiescence_moves hq _ _).bind fun _ _ ↦ relates_raise trivial

theorem acceptGoal_moves : Moves R (acceptGoal env config intent token) := by
  refine (attempt_moves hq _).bind fun handle _ ↦ ?_
  match handle with
  | .error error =>
    exact (newCleanupDeadline_moves config hq).bind
      fun _ _ ↦ failUnknownGoalSafely_moves hq _ _ _
  | .ok false => exact rejectGoal_moves hq
  | .ok true =>
    refine (attempt_moves hq _).bind fun accepted _ ↦ ?_
    match accepted with
    | .error error =>
      exact (newCleanupDeadline_moves config hq).bind
        fun _ _ ↦ failUnknownGoalSafely_moves hq _ _ _
    | .ok false => exact rejectGoal_moves hq
    | .ok true => exact relates_pure trivial

theorem getResultFuture_moves (fuel : ℕ) :
    Moves R (getResultFuture env config fuel intent token) := by
  refine (attempt_moves hq _).bind fun future _ ↦ ?_
  cases future with
  | ok => exact relates_pure trivial
  | error error =>
    refine (newCleanupDeadline_moves config hq).bind fun _ _ ↦ ?_
    exact (cancelStopAndProveTerminal_moves config hq _ _ _ _).bind
      fun _ _ ↦ relates_raise trivial

end Quiet

def Unsuccessful (status : NavigationGoalStatus) : Prop := status ≠ .succeeded

/-- No status at all. -/
def Unwritten (_ : NavigationGoalStatus) : Prop := False

instance (sequence : ℕ) (allowed : NavigationGoalStatus → Prop) :
    IsPreorder Nav2World (LedgerRun env sequence allowed) where
  refl _ := .refl
  trans _ _ _ := Relation.ReflTransGen.trans

section Ledger

variable {α : Type} {sequence : ℕ} {allowed : NavigationGoalStatus → Prop}
  {status : NavigationGoalStatus} {w : Nav2World}

theorem ledgerRun_quiet : AllowsQuiet (LedgerRun env sequence allowed) := fun _ _ hledger htrace ↦
  .single (.quiet hledger htrace)

def accessed (env : Nav2Environment) (w : Nav2World) : Nav2World :=
  { w with ledger := env.record w.trace w.ledger, trace := w.trace ++ [.ledger] }

theorem ledgerRun_accessed (w : Nav2World) : LedgerRun env sequence allowed w (accessed env w) :=
  .single (.others rfl (List.prefix_append ..))

theorem accessLedger_meets {β : Type} (g : NavigationGoalLedger → Except LedgerError β)
    (k : NavigationGoalLedger → β → α × NavigationGoalLedger)
    {Q : α → Nav2World → Prop} {E : Nav2Error → Nav2World → Prop} {U : Nav2World → Prop}
    (hok : ∀ b, g (accessed env w).ledger = .ok b → Q (k (accessed env w).ledger b).1
      { accessed env w with ledger := (k (accessed env w).ledger b).2 })
    (herror : ∀ error error', g (accessed env w).ledger = .error error' →
      E error (accessed env w)) :
    Meets (accessLedger env fun ledger ↦ (g ledger).map (k ledger)) w Q E U := by
  refine meets_get_bind (meets_modify_bind ?_)
  dsimp only
  cases h : g (env.record w.trace w.ledger) with
  | error error => exact meets_raise (herror _ error h)
  | ok b => exact meets_modify_bind (meets_pure (hok b h))

theorem ledgerGet_meets {Q : NavigationGoalEvidence → Nav2World → Prop}
    {E : Nav2Error → Nav2World → Prop} {U : Nav2World → Prop}
    (hok : ∀ e, (accessed env w).ledger.get sequence = .ok e → Q e (accessed env w))
    (herror : ∀ error error', (accessed env w).ledger.get sequence = .error error' →
      E error (accessed env w)) : Meets (ledgerGet env sequence) w Q E U :=
  accessLedger_meets (·.get sequence) (fun ledger e ↦ (e, ledger)) hok herror

theorem ledgerIsTerminal_meets {Q : Bool → Nav2World → Prop}
    {E : Nav2Error → Nav2World → Prop} {U : Nav2World → Prop}
    (hok : ∀ e, (accessed env w).ledger.get sequence = .ok e → Q e.status.terminal (accessed env w))
    (herror : ∀ error error', (accessed env w).ledger.get sequence = .error error' →
      E error (accessed env w)) : Meets (ledgerIsTerminal env sequence) w Q E U := by
  refine accessLedger_meets (·.isTerminal sequence) (fun ledger terminal ↦ (terminal, ledger))
    (fun terminal h ↦ ?_) fun error _ h ↦ ?_
  · rw [NavigationGoalLedger.isTerminal] at h
    cases hget : (accessed env w).ledger.get sequence with
    | error error =>
      rw [hget] at h
      cases h
    | ok e =>
      rw [hget] at h
      obtain rfl := Except.ok.inj h
      exact hok e hget
  · rw [NavigationGoalLedger.isTerminal] at h
    cases hget : (accessed env w).ledger.get sequence with
    | error error' => exact herror _ error' hget
    | ok e =>
      rw [hget] at h
      cases h

theorem ledgerGet_moves : Moves (LedgerRun env sequence allowed) (ledgerGet env sequence) :=
  fun w ↦ ledgerGet_meets (fun _ _ ↦ ⟨trivial, ledgerRun_accessed w⟩)
    fun _ _ _ ↦ ⟨trivial, ledgerRun_accessed w⟩

theorem ledgerIsTerminal_moves :
    Moves (LedgerRun env sequence allowed) (ledgerIsTerminal env sequence) := fun w ↦
  ledgerIsTerminal_meets (fun _ _ ↦ ⟨trivial, ledgerRun_accessed w⟩)
    fun _ _ _ ↦ ⟨trivial, ledgerRun_accessed w⟩

theorem accessTransition_meets {nav2Status nav2ErrorCode timestampNs : ℤ} {detail : String}
    {Q : Unit → Nav2World → Prop} {E : Nav2Error → Nav2World → Prop} {U : Nav2World → Prop}
    (hok : ∀ ledger, (accessed env w).ledger.transition sequence status timestampNs
      nav2Status nav2ErrorCode detail = .ok ledger → Q () { accessed env w with ledger := ledger })
    (herror : ∀ error error', (accessed env w).ledger.transition sequence status timestampNs
      nav2Status nav2ErrorCode detail = .error error' → E error (accessed env w)) :
    Meets (accessLedger env fun ledger ↦ (ledger.transition sequence status timestampNs
      nav2Status nav2ErrorCode detail).map ((), ·)) w Q E U :=
  accessLedger_meets (·.transition sequence status timestampNs nav2Status nav2ErrorCode detail)
    (fun _ ledger ↦ ((), ledger)) hok herror

theorem transitionSampled_moves (hstatus : allowed status) (nav2Status nav2ErrorCode : ℤ)
    (detail : String) : Moves (LedgerRun env sequence allowed)
      (transitionSampled env sequence status nav2Status nav2ErrorCode detail) := by
  refine (call_moves ledgerRun_quiet .evidenceTimestampNs).bind fun timestampNs _ ↦ ?_
  refine Relates.bind (V := fun _ ↦ True) (fun w ↦ ?_) fun _ _ ↦ call_moves ledgerRun_quiet _
  refine accessTransition_meets (fun ledger h ↦ ⟨trivial, ?_⟩)
    fun _ _ _ ↦ ⟨trivial, ledgerRun_accessed w⟩
  exact (ledgerRun_accessed w).tail (.written status _ _ _ _ hstatus h (List.prefix_refl _))

theorem transitionSampledPreserving_moves (hstatus : allowed status) (primary : Nav2Error)
    (nav2Status nav2ErrorCode : ℤ) (detail : String) :
    Moves (LedgerRun env sequence allowed) (transitionSampledPreserving env primary sequence
      status nav2Status nav2ErrorCode detail) := by
  refine Relates.bind (V := fun _ ↦ True) (Relates.attempt (G := fun _ ↦ True)
    (V := fun _ ↦ True) ?_) fun written _ ↦ ?_
  · refine ledgerIsTerminal_moves.bind fun terminal _ ↦ ?_
    exact relates_ite (fun _ ↦ relates_pure trivial)
      fun _ ↦ transitionSampled_moves hstatus _ _ _
  · cases written with
    | ok => exact relates_pure trivial
    | error error => exact relates_pure trivial

end Ledger

variable {α : Type} {i : SampledNavigate} {token : String}

theorem recordFailure_moves (primary : Nav2Error) {status : NavigationGoalStatus}
    (hstatus : Unsuccessful status) (terminal : Option ActionTerminal) :
    Moves (LedgerRun env i.sequence Unsuccessful)
      (recordFailure env (.sampledNavigate i) primary status terminal) := by
  cases terminal with
  | none => exact relates_pure trivial
  | some t => exact transitionSampledPreserving_moves hstatus _ _ _ _

theorem failPending_moves (fuel : ℕ) (kind : Nav2ErrorKind) {status : NavigationGoalStatus}
    (hstatus : Unsuccessful status) (reason : String) :
    Moves (LedgerRun env i.sequence Unsuccessful)
      (failPending env config fuel (.sampledNavigate i) token kind status reason :
        Nav2Motion α) := by
  refine (newCleanupDeadline_moves config ledgerRun_quiet).bind fun deadline _ ↦ ?_
  refine (resolvePendingGoalSafely_moves config ledgerRun_quiet _ _ _).bind fun terminal _ ↦ ?_
  exact (recordFailure_moves _ hstatus _).bind fun _ _ ↦ relates_raise trivial

theorem failActive_fails (fuel : ℕ) (kind : Nav2ErrorKind) {status : NavigationGoalStatus}
    (hstatus : Unsuccessful status) (reason : String) :
    Fails (LedgerRun env i.sequence Unsuccessful)
      (failActive env config fuel (.sampledNavigate i) token kind status reason :
        Nav2Motion α) := by
  refine (newCleanupDeadline_moves config ledgerRun_quiet).bind fun deadline _ ↦ ?_
  refine (cancelStopAndProveTerminal_moves config ledgerRun_quiet _ _ _ _).bind
    fun terminal _ ↦ ?_
  exact (recordFailure_moves _ hstatus _).bind fun _ _ ↦ relates_raise trivial

theorem failAcceptedSampledSafely_fails (fuel : ℕ) (reason : String) :
    Fails (LedgerRun env i.sequence Unsuccessful)
      (failAcceptedSampledSafely env config fuel i reason token : Nav2Motion α) :=
  failActive_fails config fuel _ (by nofun) reason

theorem responseRound_moves (fuel : ℕ) (deadline : Double) :
    Moves (LedgerRun env i.sequence Unsuccessful)
      (responseRound env config fuel (.sampledNavigate i) token deadline ()) := by
  refine (responseDone_moves config ledgerRun_quiet _ _).bind fun done _ ↦ relates_ite
    (fun _ ↦ relates_pure trivial) fun _ ↦ ?_
  refine (attempt_moves ledgerRun_quiet .isCancelled).bind
    fun (canceled : Except Nav2Error Bool) _ ↦ ?_
  cases canceled with
  | error error => exact failPending_moves config fuel _ (by nofun) _
  | ok canceled =>
    refine (monotonic_moves ledgerRun_quiet).bind fun now _ ↦ relates_ite
      (fun _ ↦ failPending_moves config fuel _ (by nofun) _) fun _ ↦ relates_ite
      (fun _ ↦ failPending_moves config fuel _ (by nofun) _) fun _ ↦ ?_
    exact (sleep_moves ledgerRun_quiet _).bind fun _ _ ↦ relates_pure trivial

theorem recordAcceptance_moves (fuel : ℕ) : Moves (LedgerRun env i.sequence Unsuccessful)
      (recordAcceptance env config fuel (.sampledNavigate i) token) := by
  refine Relates.bind (V := fun _ ↦ True) (Relates.attempt (G := fun _ ↦ True)
    (V := fun _ ↦ True) ?_) fun recorded _ ↦ ?_
  · exact (transitionSampled_moves (by nofun) _ _ _).bind
      fun _ _ ↦ transitionSampled_moves (by nofun) _ _ _
  · cases recorded with
    | ok => exact relates_pure trivial
    | error error => exact (failAcceptedSampledSafely_fails config fuel _).moves

theorem auditPlans_moves (fuel : ℕ) : Moves (LedgerRun env i.sequence Unsuccessful)
      (auditPlans env config fuel (.sampledNavigate i) token) := by
  refine Relates.bind (V := fun _ ↦ True) (Relates.attempt (G := fun _ ↦ True)
    ledgerGet_moves) fun record _ ↦ ?_
  cases record with
  | error error => exact (failAcceptedSampledSafely_fails config fuel _).moves
  | ok record =>
    exact relates_ite (fun _ ↦ (failActive_fails config fuel _ (by nofun) _).moves)
      fun _ ↦ relates_pure trivial

theorem resultRound_moves (fuel : ℕ) (deadline : Double) :
    Moves (LedgerRun env i.sequence Unsuccessful)
      (resultRound env config fuel (.sampledNavigate i) token deadline ()) := by
  refine (resultDone_moves ledgerRun_quiet).bind fun done _ ↦ relates_ite
    (fun _ ↦ relates_pure trivial) fun _ ↦ ?_
  refine (attempt_moves ledgerRun_quiet .isCancelled).bind fun canceled _ ↦ ?_
  match canceled with
  | .error error => exact (failActive_fails config fuel _ (by nofun) _).moves
  | .ok true => exact (failActive_fails config fuel _ (by nofun) _).moves
  | .ok false =>
    refine (auditPlans_moves config fuel).bind fun _ _ ↦
      (monotonic_moves ledgerRun_quiet).bind fun now _ ↦ relates_ite
      (fun _ ↦ (failActive_fails config fuel _ (by nofun) _).moves) fun _ ↦ ?_
    exact (sleep_moves ledgerRun_quiet _).bind fun _ _ ↦ relates_pure trivial

end Nav2MotionTransaction

end EmbodiedAgent.Slam
