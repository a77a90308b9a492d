import EmbodiedAgent.Slam.Nav2GoalAccounts

namespace EmbodiedAgent.Slam

open Library Library.Program

structure Fresh (n : ℕ) (w : Nav2World) : Prop where
  tokens : w.tokenSequence = n
  ordinary : ∀ e ∈ w.trace, e.ordinary = true

def Tallied (n : ℕ) (token : String) (w : Nav2World) : Prop :=
  w.tokenSequence = n ∧ closings w.trace = [] ∨ Once (n + 1) token w

structure Ended (n : ℕ) (token : String) (failure : Nav2Error) (w : Nav2World) : Prop where
  tallied : Tallied n token w
  accounted : (∃ e ∈ w.trace, e.sends = true) → Accounted token failure w.trace

section States

variable {n : ℕ} {token : String} {t : ActionTerminal} {failure failure' : Nav2Error}
  {w w' : Nav2World}

theorem Fresh.extends (h : Fresh n w) (hx : Extends w w') : Fresh n w' := by
  obtain ⟨added, hadded, hordinary⟩ := hx.trace
  exact ⟨hx.tokens.trans h.tokens, hadded ▸ List.forall_mem_append.mpr ⟨h.ordinary, hordinary⟩⟩

theorem Fresh.tallied (h : Fresh n w) (token : String) : Tallied n token w :=
  Or.inl ⟨h.tokens, closings_ordinary h.ordinary⟩

theorem Tallied.extends (h : Tallied n token w) (hx : Extends w w') : Tallied n token w' :=
  h.imp (fun h ↦ ⟨hx.tokens.trans h.1, hx.closings_eq.trans h.2⟩) fun h ↦ h.extends hx

theorem Tallied.closedOnce (h : Tallied n token w) : ClosedOnce token w.trace :=
  h.elim (fun h ↦ .inl h.2) Once.closings

theorem Fresh.ended (h : Fresh n w) (token : String) (failure : Nav2Error) :
    Ended n token failure w := by
  refine ⟨h.tallied token, fun ⟨e, he, hsends⟩ ↦ ?_⟩
  exact absurd hsends (ne_true_of_eq_false (not_sends_of_ordinary e (h.ordinary e he)))

theorem Failed.ended (h : Failed (n + 1) token failure w) : Ended n token failure w :=
  ⟨.inr h.toOnce, fun _ ↦ h.accounted⟩

theorem Ended.extends (h : Ended n token failure w) (hx : Extends w w')
    (hk : failure'.kind = failure.kind) : Ended n token failure' w' := by
  refine ⟨h.tallied.extends hx, fun ⟨e, he, hsends⟩ ↦ ?_⟩
  obtain ⟨added, hadded, hordinary⟩ := hx.trace
  rw [hadded] at he ⊢
  rcases List.mem_append.mp he with he | he
  · exact ((h.accounted ⟨e, he, hsends⟩).congr hk).append added
  · have hnot := not_sends_of_ordinary e (hordinary e he)
    exact absurd hsends (ne_true_of_eq_false hnot)

end States

namespace Nav2MotionTransaction

variable {env : Nav2Environment} (config : Nav2Config)

/-- The token that the next goal is given. -/
def nextToken (n : ℕ) (intent : MotionIntent) : String :=
  (goalForIntent intent).2.2 ++ ":" ++ toString (n + 1)

def Finished (n : ℕ) (token : String) (w : Nav2World) : Prop :=
  ∃ t, terminalSucceeded t = true ∧ Delivered (n + 1) token t w

def Answers {α : Type} (n : ℕ) (token : String) (m : Nav2Motion α) (w : Nav2World)
    (Q : α → Nav2World → Prop) : Prop :=
  Meets m w Q (Ended n token) (Tallied n token)

section Request

variable {α β : Type} {n : ℕ} {token : String} {t : ActionTerminal} {w : Nav2World}

theorem Secures.answers {m : Nav2Motion α} {Q : α → Nav2World → Prop}
    (h : Secures (n + 1) token m w Q) : Answers n token m w Q :=
  h.mono (fun _ _ ↦ id) (fun _ _ ↦ Failed.ended) fun _ ↦ .inr

theorem fresh_bind {m : Nav2Motion α} {f : α → Nav2Motion β} {Q : β → Nav2World → Prop}
    {V : α → Prop} (hm : Relates Extends (fun _ ↦ True) m V) (h : Fresh n w)
    (hf : ∀ a w', Fresh n w' → Answers n token (f a) w' Q) : Answers n token (m >>= f) w Q :=
  hm.meets_bind (fun a _ _ hx ↦ hf a _ (h.extends hx))
    (fun failure _ _ hx ↦ (h.extends hx).ended token failure)
    fun _ hx ↦ (h.extends hx).tallied token

theorem monotonic_relates : Relates Extends (fun _ : Nav2Error ↦ True) (monotonic env)
    fun _ ↦ True := fun w ↦
  (monotonic_steady env w).mono (fun _ _ ↦ id) (fun _ _ h ↦ h.1.elim) fun _ ↦ id

theorem checkCancelled_relates (intent : MotionIntent) :
    Relates Extends (fun _ ↦ True) (checkCancelled env intent) fun _ ↦ True := by
  refine (call_relates env fun _ ↦ rfl).bind fun (canceled : Bool) _ ↦ ?_
  exact relates_ite (fun _ ↦ relates_raise trivial) fun _ ↦ relates_pure trivial

theorem prepare_relates (intent : MotionIntent) (kind : Nav2ActionKind) (deadline : Double) :
    Relates Extends (fun _ ↦ True) (prepare env intent kind deadline) fun _ ↦ True := by
  refine monotonic_relates.bind fun now _ ↦ (checkCancelled_relates intent).bind fun _ _ ↦ ?_
  refine relates_ite (fun _ ↦ relates_raise trivial) fun _ ↦ ?_
  refine (call_relates env fun _ ↦ rfl).bind fun (available : Bool) _ ↦ ?_
  refine relates_ite (fun _ ↦ relates_raise trivial) fun _ ↦ ?_
  refine (checkCancelled_relates intent).bind fun _ _ ↦ monotonic_relates.bind fun now _ ↦ ?_
  exact relates_ite (fun _ ↦ relates_raise trivial) fun _ ↦ relates_pure trivial

theorem beginQuiescence_answers (h : Fresh n w) (label : String) :
    Answers n token (beginQuiescence env label) w fun begun w' ↦
      begun = label ++ ":" ++ toString (n + 1) ∧ Running (n + 1) w' := by
  obtain ⟨rfl, hordinary⟩ := h
  have hx (reply : Except Nav2Error Unit) (begun : String) :
      ∀ e ∈ w.trace ++ [.call (.nav2GoalStarted begun) reply], e.ordinary = true :=
    List.forall_mem_append.mpr ⟨hordinary, fun e he ↦ List.mem_singleton.mp he ▸ rfl⟩
  refine meets_modify_bind (meets_get_bind (Meets.bind (R := fun _ w' ↦
    Running (w.tokenSequence + 1) w') (meets_invoke (fun reply _ ↦ ?_) fun failure _ ↦ ?_)
    fun _ w' h' ↦ meets_pure ⟨rfl, h'⟩))
  · exact ⟨⟨rfl, closings_ordinary (hx (.ok reply) _)⟩,
      fun e he ↦ not_cancels_of_ordinary e (hx (.ok reply) _ e he)⟩
  · refine ⟨.inr ⟨rfl, .inl (closings_ordinary (hx (.error failure) _))⟩, ?_⟩
    rintro ⟨e, he, hsends⟩
    have hnot := not_sends_of_ordinary e (hx (.error failure) _ e he)
    exact absurd hsends (ne_true_of_eq_false hnot)

theorem executeMotion_answers (h : Fresh n w) (fuel : ℕ) (intent : MotionIntent)
    (deadline : Double) :
    Answers n (nextToken n intent) (executeMotion env config fuel intent deadline) w
      (Delivered (n + 1) (nextToken n intent)) := by
  refine fresh_bind (prepare_relates intent _ deadline) h fun _ w₁ h₁ ↦ ?_
  refine (beginQuiescence_answers h₁ _).bind ?_
  rintro _ w₂ ⟨rfl, h₂⟩
  exact Secures.answers (runGoal_secures config h₂ fuel intent _ deadline)

theorem Delivered.failed (h : Delivered (n + 1) token t w) (failure : Nav2Error) :
    Ended n token failure w :=
  Failed.ended (h.toClosed.failed failure)

theorem concludeSampled_answers (h : Delivered (n + 1) token t w) (i : SampledNavigate) :
    Answers n token (concludeSampled env i t) w fun _ ↦ Finished n token := by
  refine meets_ite (fun hsucceeded ↦ ?_) fun _ ↦ ?_
  · refine (transitionSampled_relates env _ _ _ _ _ w).mono ?_ ?_ ?_
    · exact fun _ w' h' ↦ ⟨t, hsucceeded, h.extends h'.2⟩
    · exact fun failure w' h' ↦ Delivered.failed (h.extends h'.2) failure
    · exact fun w' hx ↦ .inr ((h.extends hx).toClosed.failed ⟨.valueError, "", []⟩).toOnce
  · refine (transitionSampledPreserving_relates env _ _ _ _ _ _).meets_bind
      (fun primary w' _ hx ↦ meets_raise (Delivered.failed (h.extends hx) primary))
      (fun _ _ hfalse _ ↦ hfalse.elim) fun w' hx ↦ ?_
    exact .inr ((h.extends hx).toClosed.failed ⟨.valueError, "", []⟩).toOnce

theorem recordException_answers {failure : Nav2Error} {Q : Unit → Nav2World → Prop}
    (h : Ended n token failure w) (i : SampledNavigate) :
    Answers n token (recordException env i failure) w Q := by
  refine Relates.meets_bind (R := Extends) (F := fun _ ↦ False)
    (V := fun error ↦ error.kind = failure.kind) ?_
    (fun error w' hk hx ↦ meets_raise (h.extends hx hk)) (fun _ _ hfalse _ ↦ hfalse.elim)
    fun _ hx ↦ h.tallied.extends hx
  split <;> exact transitionSampledPreserving_relates env _ _ _ _ _ _

theorem executeSampled_answers (h : Fresh n w) (fuel : ℕ) (i : SampledNavigate)
    (deadline : Double) :
    Answers n (nextToken n (.sampledNavigate i)) (executeSampled env config fuel i deadline) w
      fun _ ↦ Finished n (nextToken n (.sampledNavigate i)) := by
  refine fresh_bind (accessLedger_relates env _) h fun record w₁ h₁ ↦ ?_
  refine meets_ite (fun _ ↦ meets_raise (h₁.ended _ _)) fun _ ↦ ?_
  refine meets_ite (fun _ ↦ meets_raise (h₁.ended _ _)) fun _ ↦ ?_
  refine Meets.handle (F := Ended n (nextToken n (.sampledNavigate i))) ?_
    fun failure w₂ h₂ ↦ recordException_answers h₂ i
  exact (executeMotion_answers config h₁ fuel _ deadline).bind
    fun t w₂ h₂ ↦ concludeSampled_answers h₂ i

theorem requireSuccess_answers (h : Delivered (n + 1) token t w) (label : String) :
    Answers n token (requireSuccess t label) w fun _ ↦ Finished n token :=
  meets_ite (fun hsucceeded ↦ meets_pure ⟨t, hsucceeded, h⟩)
    fun _ ↦ meets_raise (Delivered.failed h _)

theorem requireBackup_answers (h : Delivered (n + 1) token t w) :
    Answers n token (requireBackup env config t) w fun _ ↦ Finished n token := by
  refine meets_ite (fun hsucceeded ↦ meets_pure ⟨t, hsucceeded, h⟩) fun _ ↦ ?_
  refine attempt_call_bind fun stopped ↦ ?_
  have h₁ := h.extends (.logged (e := .call (.forcePriorityStop config.safetyTimeoutS) stopped)
    rfl w)
  cases stopped with
  | ok => exact meets_raise (Delivered.failed h₁ _)
  | error error =>
    refine failSafety_met _ _ _ fun failure _ reply ↦ ?_
    exact Delivered.failed (h₁.extends (.logged rfl _)) failure

theorem executeIntent_answers (h : Fresh n w) (fuel : ℕ) (intent : MotionIntent)
    (deadline : Double) :
    Answers n (nextToken n intent) (executeIntent env config fuel intent deadline) w
      fun _ ↦ Finished n (nextToken n intent) := by
  cases intent with
  | sampledNavigate i => exact executeSampled_answers config h fuel i deadline
  | mappingReturn pose =>
    exact (executeMotion_answers config h fuel _ deadline).bind
      fun t w₁ h₁ ↦ requireSuccess_answers h₁ _
  | recoveryBackup backup =>
    exact (executeMotion_answers config h fuel _ deadline).bind
      fun t w₁ h₁ ↦ requireBackup_answers config h₁

theorem execute_answers (env : Nav2Environment) (fuel : ℕ) (intent : MotionIntent)
    (deadline : Double) (locked : Bool) (n : ℕ) (ledger : NavigationGoalLedger) :
    Meets (execute env config fuel intent deadline) ⟨locked, n, ledger, []⟩
      (fun _ w ↦ w.locked = locked ∧ Finished n (nextToken n intent) w)
      (fun failure w ↦ w.locked = locked ∧ Ended n (nextToken n intent) failure w)
      (Tallied n (nextToken n intent)) := by
  have hfresh (locked : Bool) : Fresh n ⟨locked, n, ledger, []⟩ :=
    ⟨rfl, fun _ he ↦ absurd he List.not_mem_nil⟩
  refine meets_ite (fun _ ↦ meets_raise ⟨rfl, (hfresh locked).ended _ _⟩) fun _ ↦ ?_
  refine meets_get_bind ?_
  cases locked with
  | true => exact meets_raise ⟨rfl, (hfresh true).ended _ _⟩
  | false =>
    refine meets_modify_bind ((executeIntent_answers config (hfresh true) fuel intent
      deadline).ensure (fun _ w h ↦ meets_modify ?_) fun failure w h ↦ meets_modify ?_)
    · obtain ⟨t, hsucceeded, h⟩ := h
      exact ⟨rfl, t, hsucceeded, ⟨⟨h.tokens, h.closings, h.proven⟩, h.accepted⟩⟩
    · refine ⟨rfl, ?_, h.accounted⟩
      exact h.tallied.imp id fun h ↦ ⟨h.tokens, h.closings⟩

end Request

structure MotionRequest where
  env : Nav2Environment
  fuel : ℕ
  intent : MotionIntent
  deadlineMonotonic : Double

/-- All that one transaction object does for the requests it is given. -/
def executeAll : List MotionRequest → Nav2World → List Nav2Entry
  | [], _ => []
  | r :: requests, w =>
    let w' := (execute r.env config r.fuel r.intent r.deadlineMonotonic { w with trace := [] }).2
    w'.trace ++ executeAll requests w'

theorem executeAll_tokens (requests : List MotionRequest) (w : Nav2World) :
    ((closings (executeAll config requests w)).map Prod.fst).Nodup ∧
      ∀ c ∈ closings (executeAll config requests w), ∃ label n, w.tokenSequence < n ∧
        c.1 = label ++ ":" ++ toString n := by
  induction requests generalizing w with
  | nil => exact ⟨List.nodup_nil, fun _ he ↦ absurd he List.not_mem_nil⟩
  | cons r requests ih =>
    have htallied : Tallied w.tokenSequence (nextToken w.tokenSequence r.intent)
        (execute r.env config r.fuel r.intent r.deadlineMonotonic { w with trace := [] }).2 := by
      refine Meets.state ((execute_answers config r.env r.fuel r.intent r.deadlineMonotonic
        w.locked w.tokenSequence w.ledger).mono ?_ (fun _ _ h ↦ h.2.tallied) fun _ ↦ id)
      rintro _ w' ⟨-, t, -, h⟩
      exact .inr (h.toClosed.failed ⟨.valueError, "", []⟩).toOnce
    obtain ⟨hnodup, hlater⟩ := ih
      (execute r.env config r.fuel r.intent r.deadlineMonotonic { w with trace := [] }).2
    simp only [executeAll, closings_append]
    generalize (execute r.env config r.fuel r.intent r.deadlineMonotonic
      { w with trace := [] }).2 = w' at htallied hnodup hlater ⊢
    rcases htallied with ⟨htokens, hnone⟩ | ⟨htokens, hnone | ⟨closed, hclosed⟩⟩
    · rw [hnone, ← htokens]
      exact ⟨hnodup, hlater⟩
    · rw [hnone]
      refine ⟨hnodup, fun c hc ↦ ?_⟩
      obtain ⟨label, n, hn, hname⟩ := hlater c hc
      exact ⟨label, n, by omega, hname⟩
    · rw [hclosed]
      refine ⟨List.nodup_cons.mpr ⟨fun hmem ↦ ?_, hnodup⟩, List.forall_mem_cons.mpr ⟨?_, ?_⟩⟩
      · obtain ⟨c, hc, heq⟩ := List.mem_map.mp hmem
        obtain ⟨label, n, hn, hname⟩ := hlater c hc
        have hnumber := Text.numbered_inj (heq.symm.trans hname)
        omega
      · exact ⟨_, w.tokenSequence + 1, Nat.lt_succ_self _, rfl⟩
      · intro c hc
        obtain ⟨label, n, hn, hname⟩ := hlater c hc
        exact ⟨label, n, by omega, hname⟩

theorem execute_accounts_for_goal (env : Nav2Environment) (fuel : ℕ) (intent : MotionIntent)
    (deadline : Double) (locked : Bool) (n : ℕ) (ledger : NavigationGoalLedger) :
    Meets (execute env config fuel intent deadline) ⟨locked, n, ledger, []⟩
      (fun _ w ↦ w.locked = locked ∧ (∃ e ∈ w.trace, e.accepts = true) ∧
        (∃ t, terminalSucceeded t = true ∧ Proven t w.trace) ∧
        closings w.trace = [(nextToken n intent, true)])
      (fun failure w ↦ w.locked = locked ∧ ClosedOnce (nextToken n intent) w.trace ∧
        ((∃ e ∈ w.trace, e.sends = true) → Accounted (nextToken n intent) failure w.trace))
      (fun w ↦ ClosedOnce (nextToken n intent) w.trace) ∧
    ∀ requests w, ((closings (executeAll config requests w)).map Prod.fst).Nodup := by
  refine ⟨(execute_answers config env fuel intent deadline locked n ledger).mono ?_ ?_ ?_, ?_⟩
  · rintro _ w ⟨hlocked, t, hsucceeded, h⟩
    exact ⟨hlocked, h.accepted, ⟨t, hsucceeded, h.proven⟩, h.closings⟩
  · rintro failure w ⟨hlocked, h⟩
    exact ⟨hlocked, h.tallied.closedOnce, h.accounted⟩
  · exact fun w h ↦ h.closedOnce
  · exact fun requests w ↦ (executeAll_tokens config requests w).1

def origin : PlanarPose := ⟨0, 0, 0, "map", by decide +kernel⟩

/-- The goal is rejected, and the token cannot be closed. -/
def unclosable : Nav2Environment where
  answer
    | _, .waitForServer .. | _, .responseDone => .ok true
    | _, .isCancelled | _, .responseResult | _, .handleAccepted | _, .resultDone => .ok false
    | _, .nav2GoalTerminal _ => .error ⟨.other "RuntimeError", "no quiescence controller", []⟩
    | _, .resultResult => .ok .none
    | _, .evidenceTimestampNs => .ok (0 : ℤ)
    | _, .nav2GoalStarted _ | _, .sendGoal _ | _, .getResultAsync | _, .cancelGoalAsync
    | _, .forcePriorityStop _ | _, .stopNavigationStage | _, .navigationEvidenceChanged => .ok ()
  clock _ := 0
  record _ ledger := ledger
  showFloat _ := ""

/-- The stage is stopped then, and the robot is not. -/
theorem unclosable_not_stopped :
    let run := execute unclosable {} 1 (.mappingReturn origin) (.ofRat 1) {}
    run.1.failure.isSome = true ∧ (∃ e ∈ run.2.trace, e.sends = true) ∧
      ¬ (((∃ e ∈ run.2.trace, e.rejects = true) ∨ ∃ t, Proven t run.2.trace) ∧
        (nextToken 0 (.mappingReturn origin), true) ∈ closings run.2.trace) ∧
      ¬ StageStopped run.2.trace := by
  have hhalts : ∀ e ∈ (execute unclosable {} 1 (.mappingReturn origin) (.ofRat 1) {}).2.trace,
      e.halts = false := by decide +kernel
  refine ⟨by decide +kernel, by decide +kernel, ?_, ?_⟩
  · exact fun h ↦ absurd h.2 (by decide +kernel)
  · rintro ⟨pre, e, post, heq, -, d, hd, hhalt⟩
    have hmem := heq ▸ List.mem_append_left (e :: post) hd
    exact absurd hhalt (ne_true_of_eq_false (hhalts d hmem))

end Nav2MotionTransaction

end EmbodiedAgent.Slam
