import EmbodiedAgent.Library.Text
import EmbodiedAgent.Slam.Nav2Motion

namespace EmbodiedAgent.Slam

open Library Library.Program

namespace Nav2Entry

def sends : Nav2Entry → Bool
  | .call (.sendGoal _) _ => true
  | _ => false

def cancels : Nav2Entry → Bool
  | .call .cancelGoalAsync _ => true
  | _ => false

def halts : Nav2Entry → Bool
  | .call (.forcePriorityStop _) _ => true
  | _ => false

def stopsStage : Nav2Entry → Bool
  | .call .stopNavigationStage _ => true
  | _ => false

def accepts : Nav2Entry → Bool
  | .call .handleAccepted (.ok true) => true
  | _ => false

def rejects : Nav2Entry → Bool
  | .call .responseResult (.ok false) | .call .handleAccepted (.ok false) => true
  | _ => false

def closing : Nav2Entry → Option (String × Bool)
  | .call (.nav2GoalTerminal token) reply => some (token, reply.isOk)
  | _ => none

def ordinary : Nav2Entry → Bool
  | .call (.sendGoal _) _ | .call .cancelGoalAsync _ | .call (.nav2GoalTerminal _) _ => false
  | _ => true

end Nav2Entry

def closings (tr : List Nav2Entry) : List (String × Bool) := tr.filterMap Nav2Entry.closing

def Proven (t : ActionTerminal) (tr : List Nav2Entry) : Prop :=
  ∃ pre payload post, tr = pre ++ .call .resultResult (.ok payload) :: post ∧
    payload.read = .ok t ∧ ((∃ e ∈ pre, e.cancels = true) → ∃ e ∈ pre, e.halts = true)

/-- The stage was told to stop after an attempt to stop the robot. -/
def StageStopped (tr : List Nav2Entry) : Prop :=
  ∃ pre e post, tr = pre ++ e :: post ∧ e.stopsStage = true ∧ ∃ d ∈ pre, d.halts = true

/-- What has become of a goal whose transaction fails. -/
inductive Accounted (token : String) (failure : Nav2Error) (tr : List Nav2Entry) : Prop
  | rejected (hr : ∃ e ∈ tr, e.rejects = true) (hc : (token, true) ∈ closings tr)
  | proven (t : ActionTerminal) (hp : Proven t tr) (hc : (token, true) ∈ closings tr)
  | stopped (hs : StageStopped tr) (hf : failure.isSafetyFailure = true)
  | unclosed (hg : (∃ e ∈ tr, e.rejects = true) ∨ ∃ t, Proven t tr)
    (hc : (token, false) ∈ closings tr) (hs : ∃ e ∈ tr, e.stopsStage = true)
    (hf : failure.isSafetyFailure = true)

/-- The token is closed once at most, and no other. -/
def ClosedOnce (token : String) (tr : List Nav2Entry) : Prop :=
  closings tr = [] ∨ ∃ closed, closings tr = [(token, closed)]

section Traces

variable {t : ActionTerminal} {token : String} {failure : Nav2Error} {tr added : List Nav2Entry}

theorem closings_append : closings (tr ++ added) = closings tr ++ closings added :=
  List.filterMap_append

theorem closings_ordinary (h : ∀ e ∈ added, e.ordinary = true) : closings added = [] := by
  refine List.filterMap_eq_nil_iff.mpr fun e he ↦ ?_
  have hordinary := h e he
  cases e with
  | call call reply => cases call <;> first | rfl | cases hordinary
  | monotonic | sleep | ledger => rfl

theorem Proven.append (h : Proven t tr) (added : List Nav2Entry) : Proven t (tr ++ added) := by
  obtain ⟨pre, payload, post, rfl, hread, hhalts⟩ := h
  exact ⟨pre, payload, post ++ added, by simp, hread, hhalts⟩

theorem StageStopped.append (h : StageStopped tr) (added : List Nav2Entry) :
    StageStopped (tr ++ added) := by
  obtain ⟨pre, e, post, rfl, hstops, hhalts⟩ := h
  exact ⟨pre, e, post ++ added, by simp, hstops, hhalts⟩

theorem exists_mem_append {P : Nav2Entry → Prop} (h : ∃ e ∈ tr, P e) (added : List Nav2Entry) :
    ∃ e ∈ tr ++ added, P e := by
  obtain ⟨e, he, hp⟩ := h
  exact ⟨e, List.mem_append_left _ he, hp⟩

theorem exists_mem_last {P : Nav2Entry → Bool} {e : Nav2Entry} (tr : List Nav2Entry)
    (hp : P e = true) : ∃ d ∈ tr ++ [e], P d = true :=
  ⟨e, List.mem_append_right _ (List.mem_singleton_self e), hp⟩

theorem Accounted.append (h : Accounted token failure tr) (added : List Nav2Entry) :
    Accounted token failure (tr ++ added) := by
  have hmem {c} (hc : c ∈ closings tr) : c ∈ closings (tr ++ added) :=
    closings_append ▸ List.mem_append_left _ hc
  cases h with
  | rejected hr hc => exact .rejected (exists_mem_append hr added) (hmem hc)
  | proven t hp hc => exact .proven t (hp.append added) (hmem hc)
  | stopped hs hf => exact .stopped (hs.append added) hf
  | unclosed hg hc hs hf =>
    refine .unclosed (hg.imp (exists_mem_append · added) ?_) (hmem hc) (exists_mem_append hs added)
      hf
    exact fun ⟨t, hp⟩ ↦ ⟨t, hp.append added⟩

theorem Accounted.congr {failure' : Nav2Error} (h : Accounted token failure tr)
    (hk : failure'.kind = failure.kind) : Accounted token failure' tr := by
  have hsafety : failure'.isSafetyFailure = failure.isSafetyFailure := by
    rw [Nav2Error.isSafetyFailure, Nav2Error.isSafetyFailure, hk]
  cases h with
  | rejected hr hc => exact .rejected hr hc
  | proven t hp hc => exact .proven t hp hc
  | stopped hs hf => exact .stopped hs (hsafety ▸ hf)
  | unclosed hg hc hs hf => exact .unclosed hg hc hs (hsafety ▸ hf)

end Traces

structure Extends (w w' : Nav2World) : Prop where
  trace : ∃ added, w'.trace = w.trace ++ added ∧ ∀ e ∈ added, e.ordinary = true
  tokens : w'.tokenSequence = w.tokenSequence

instance : IsPreorder Nav2World Extends where
  refl w := ⟨⟨[], (List.append_nil _).symm, fun _ he ↦ absurd he List.not_mem_nil⟩, rfl⟩
  trans w w' w'' h h' := by
    obtain ⟨added, hadded, hordinary⟩ := h.trace
    obtain ⟨added', hadded', hordinary'⟩ := h'.trace
    refine ⟨⟨added ++ added', ?_, ?_⟩, h'.tokens.trans h.tokens⟩
    · rw [hadded', hadded, List.append_assoc]
    · exact List.forall_mem_append.mpr ⟨hordinary, hordinary'⟩

namespace Extends

variable {w w' : Nav2World}

theorem entry {e : Nav2Entry} (he : e.ordinary = true) (w : Nav2World) (ledger) (locked) :
    Extends w ⟨locked, w.tokenSequence, ledger, w.trace ++ [e]⟩ :=
  ⟨⟨[e], rfl, fun _ hd ↦ List.mem_singleton.mp hd ▸ he⟩, rfl⟩

theorem logged {e : Nav2Entry} (he : e.ordinary = true) (w : Nav2World) :
    Extends w { w with trace := w.trace ++ [e] } := entry he w w.ledger w.locked

theorem closings_eq (h : Extends w w') : closings w'.trace = closings w.trace := by
  obtain ⟨added, hadded, hordinary⟩ := h.trace
  rw [hadded, closings_append, closings_ordinary hordinary, List.append_nil]

theorem exists_mem (h : Extends w w') {P : Nav2Entry → Prop} (hp : ∃ e ∈ w.trace, P e) :
    ∃ e ∈ w'.trace, P e := by
  obtain ⟨added, hadded, -⟩ := h.trace
  exact hadded ▸ exists_mem_append hp added

theorem proven {t : ActionTerminal} (h : Extends w w') (hp : Proven t w.trace) :
    Proven t w'.trace := by
  obtain ⟨added, hadded, -⟩ := h.trace
  exact hadded ▸ hp.append added

theorem none_mem (h : Extends w w') {P : Nav2Entry → Bool}
    (hP : ∀ e : Nav2Entry, e.ordinary = true → P e = false) (hp : ∀ e ∈ w.trace, P e = false) :
    ∀ e ∈ w'.trace, P e = false := by
  obtain ⟨added, hadded, hordinary⟩ := h.trace
  rw [hadded]
  exact List.forall_mem_append.mpr ⟨hp, fun e he ↦ hP e (hordinary e he)⟩

end Extends

theorem not_cancels_of_ordinary (e : Nav2Entry) (he : e.ordinary = true) : e.cancels = false := by
  cases e with
  | call call reply => cases call <;> first | rfl | cases he
  | monotonic | sleep | ledger => rfl

theorem not_sends_of_ordinary (e : Nav2Entry) (he : e.ordinary = true) : e.sends = false := by
  cases e with
  | call call reply => cases call <;> first | rfl | cases he
  | monotonic | sleep | ledger => rfl

structure Open (n : ℕ) (w : Nav2World) : Prop where
  tokens : w.tokenSequence = n
  closings : closings w.trace = []

structure Closed (n : ℕ) (token : String) (t : ActionTerminal) (w : Nav2World) : Prop where
  tokens : w.tokenSequence = n
  closings : closings w.trace = [(token, true)]
  proven : Proven t w.trace

structure Once (n : ℕ) (token : String) (w : Nav2World) : Prop where
  tokens : w.tokenSequence = n
  closings : ClosedOnce token w.trace

structure Failed (n : ℕ) (token : String) (failure : Nav2Error) (w : Nav2World) : Prop
    extends Once n token w where
  accounted : Accounted token failure w.trace

structure Resolved (n : ℕ) (token : String) (t : Option ActionTerminal) (w : Nav2World) :
    Prop where
  tokens : w.tokenSequence = n
  closings : closings w.trace = [(token, true)]
  known : (∃ e ∈ w.trace, e.rejects = true) ∨ ∃ t, Proven t w.trace

structure Running (n : ℕ) (w : Nav2World) : Prop extends Open n w where
  uncanceled : ∀ e ∈ w.trace, e.cancels = false

structure Accepted (n : ℕ) (w : Nav2World) : Prop extends Running n w where
  accepted : ∃ e ∈ w.trace, e.accepts = true

/-- The goal was accepted, and has come to the terminal `t`. -/
structure Delivered (n : ℕ) (token : String) (t : ActionTerminal) (w : Nav2World) : Prop
    extends Closed n token t w where
  accepted : ∃ e ∈ w.trace, e.accepts = true

section States

variable {n : ℕ} {token : String} {t : ActionTerminal} {failure : Nav2Error} {w w' : Nav2World}

theorem Open.extends (h : Open n w) (hx : Extends w w') : Open n w' :=
  ⟨hx.tokens.trans h.tokens, hx.closings_eq.trans h.closings⟩

theorem Closed.extends (h : Closed n token t w) (hx : Extends w w') : Closed n token t w' :=
  ⟨hx.tokens.trans h.tokens, hx.closings_eq.trans h.closings, hx.proven h.proven⟩

theorem Open.once (h : Open n w) (token : String) : Once n token w :=
  ⟨h.tokens, .inl h.closings⟩

theorem Once.extends (h : Once n token w) (hx : Extends w w') : Once n token w' := by
  refine ⟨hx.tokens.trans h.tokens, ?_⟩
  rw [ClosedOnce, hx.closings_eq]
  exact h.closings

theorem Closed.failed (h : Closed n token t w) (failure : Nav2Error) : Failed n token failure w :=
  ⟨⟨h.tokens, .inr ⟨true, h.closings⟩⟩,
    .proven t h.proven (h.closings ▸ List.mem_singleton_self _)⟩

theorem Closed.resolved (h : Closed n token t w) : Resolved n token (some t) w :=
  ⟨h.tokens, h.closings, .inr ⟨t, h.proven⟩⟩

theorem Resolved.failed {r : Option ActionTerminal} (h : Resolved n token r w)
    (failure : Nav2Error) : Failed n token failure w := by
  have hc : (token, true) ∈ Slam.closings w.trace := h.closings ▸ List.mem_singleton_self _
  refine ⟨⟨h.tokens, .inr ⟨true, h.closings⟩⟩, ?_⟩
  rcases h.known with hr | ⟨t, hp⟩
  · exact .rejected hr hc
  · exact .proven t hp hc

theorem Failed.extends (h : Failed n token failure w) (hx : Extends w w') :
    Failed n token failure w' := by
  obtain ⟨added, hadded, -⟩ := hx.trace
  exact ⟨h.toOnce.extends hx, hadded ▸ h.accounted.append added⟩

theorem Running.extends (h : Running n w) (hx : Extends w w') : Running n w' :=
  ⟨h.toOpen.extends hx, hx.none_mem not_cancels_of_ordinary h.uncanceled⟩

theorem Accepted.extends (h : Accepted n w) (hx : Extends w w') : Accepted n w' :=
  ⟨h.toRunning.extends hx, hx.exists_mem h.accepted⟩

theorem Delivered.extends (h : Delivered n token t w) (hx : Extends w w') :
    Delivered n token t w' :=
  ⟨h.toClosed.extends hx, hx.exists_mem h.accepted⟩

end States

namespace Nav2MotionTransaction

variable {env : Nav2Environment} (config : Nav2Config)

def Steady {α : Type} (m : Nav2Motion α) : Prop := Relates Extends (fun _ ↦ False) m fun _ ↦ True

section Steady

variable (env)

theorem log_steady {e : Nav2Entry} (he : e.ordinary = true) : Steady (log e) :=
  fun w ↦ meets_modify ⟨trivial, .logged he w⟩

theorem monotonic_steady : Steady (monotonic env) := fun _ ↦ meets_get_bind <|
  (log_steady rfl).bind (fun _ _ ↦ relates_pure trivial) _

theorem sleep_steady (seconds : Double) : Steady (sleep seconds) := log_steady rfl

theorem newCleanupDeadline_steady : Steady (newCleanupDeadline env config) :=
  (monotonic_steady env).bind fun _ _ ↦ relates_pure trivial

theorem remainingCleanupS_steady (cleanupDeadline : Double) :
    Steady (remainingCleanupS env cleanupDeadline) :=
  (monotonic_steady env).bind fun _ _ ↦ relates_pure trivial

theorem call_relates {c : RuntimeCall}
    (hc : ∀ reply : Except Nav2Error c.Reply, (Nav2Entry.call c reply).ordinary = true) :
    Relates Extends (fun _ ↦ True) (call env c) fun _ ↦ True := fun w ↦
  meets_invoke (fun reply _ ↦ ⟨trivial, .logged (hc (.ok reply)) w⟩)
    fun error _ ↦ ⟨trivial, .logged (hc (.error error)) w⟩

theorem attempt_steady {c : RuntimeCall}
    (hc : ∀ reply : Except Nav2Error c.Reply, (Nav2Entry.call c reply).ordinary = true) :
    Steady (attempt (call env c)) :=
  (call_relates env hc).attempt

theorem accessLedger_relates {α : Type}
    (f : NavigationGoalLedger → Except LedgerError (α × NavigationGoalLedger)) :
    Relates Extends (fun _ ↦ True) (accessLedger env f) fun _ ↦ True := by
  refine fun w ↦ meets_get_bind (meets_modify_bind ?_)
  have hx (ledger : NavigationGoalLedger) :
      Extends w ⟨w.locked, w.tokenSequence, ledger, w.trace ++ [.ledger]⟩ := .entry rfl w _ _
  cases h : f (env.record w.trace w.ledger) with
  | error error => exact meets_raise ⟨trivial, hx _⟩
  | ok r => exact meets_modify_bind (meets_pure ⟨trivial, hx _⟩)

theorem transitionSampled_relates (sequence : ℕ) (status : NavigationGoalStatus)
    (nav2Status nav2ErrorCode : ℤ) (detail : String) : Relates Extends (fun _ ↦ True)
      (transitionSampled env sequence status nav2Status nav2ErrorCode detail) fun _ ↦ True := by
  refine (call_relates env fun _ ↦ rfl).bind fun timestampNs _ ↦ ?_
  exact (accessLedger_relates env _).bind fun _ _ ↦ call_relates env fun _ ↦ rfl

theorem transitionSampledPreserving_relates (primary : Nav2Error) (sequence : ℕ)
    (status : NavigationGoalStatus) (nav2Status nav2ErrorCode : ℤ) (detail : String) :
    Relates Extends (fun _ ↦ False) (transitionSampledPreserving env primary sequence status
      nav2Status nav2ErrorCode detail) fun error ↦ error.kind = primary.kind := by
  refine Relates.bind (V := fun _ ↦ True) (Relates.attempt (G := fun _ ↦ True)
    (V := fun _ ↦ True) ?_) fun written _ ↦ ?_
  · refine (accessLedger_relates env _).bind fun terminal _ ↦ ?_
    exact relates_ite (fun _ ↦ relates_pure trivial) fun _ ↦ transitionSampled_relates env _ _ _ _ _
  · cases written with
    | ok => exact relates_pure rfl
    | error error => exact relates_pure rfl

theorem recordFailure_relates (intent : MotionIntent) (primary : Nav2Error)
    (status : NavigationGoalStatus) (terminal : Option ActionTerminal) :
    Relates Extends (fun _ ↦ False) (recordFailure env intent primary status terminal)
      fun error ↦ error.kind = primary.kind := by
  unfold recordFailure
  split
  · exact transitionSampledPreserving_relates env _ _ _ _ _ _
  · exact relates_pure rfl

end Steady

def Secures {α : Type} (n : ℕ) (token : String) (m : Nav2Motion α) (w : Nav2World)
    (Q : α → Nav2World → Prop) : Prop :=
  Meets m w Q (Failed n token) (Once n token)

def Guards {α : Type} (n : ℕ) (token : String) (m : Nav2Motion α) : Prop :=
  ∀ w, Open n w → Secures n token m w fun _ w' ↦ Open n w' ∧ Extends w w'

section Rules

variable {α β : Type} {n : ℕ} {token : String} {w : Nav2World}

variable {m : Nav2Motion α}

theorem secures_bind {f : α → Nav2Motion β} {Q : β → Nav2World → Prop}
    (hm : Steady m) (h : Open n w) (hf : ∀ a w', Open n w' → Extends w w' →
      Secures n token (f a) w' Q) : Secures n token (m >>= f) w Q :=
  hm.meets_bind (fun a w' _ hx ↦ hf a w' (h.extends hx) hx) (fun _ _ hfalse _ ↦ hfalse.elim)
    fun _ hx ↦ (h.extends hx).once token

theorem Steady.guards (hm : Steady m) : Guards n token m := fun w h ↦
  (hm w).mono (fun _ _ h' ↦ ⟨h.extends h'.2, h'.2⟩) (fun _ _ h' ↦ h'.1.elim)
    fun _ hx ↦ (h.extends hx).once token

theorem Guards.bind {f : α → Nav2Motion β} (hm : Guards n token m)
    (hf : ∀ a, Guards n token (f a)) : Guards n token (m >>= f) := fun w h ↦
  (hm w h).bind fun a w₁ ⟨h₁, hx₁⟩ ↦ (hf a w₁ h₁).imp
    fun _ _ ⟨h₂, hx₂⟩ ↦ ⟨h₂, trans_of Extends hx₁ hx₂⟩

theorem guards_pure (a : α) : Guards n token (pure a : Nav2Motion α) := fun w h ↦
  meets_pure ⟨h, refl_of Extends w⟩

theorem guards_ite {c : Prop} [Decidable c] {m m' : Nav2Motion α} (h : c → Guards n token m)
    (h' : ¬ c → Guards n token m') : Guards n token (if c then m else m') := by
  split_ifs with hc
  · exact h hc
  · exact h' hc

theorem guards_iterate {body : α → Nav2Motion (α ⊕ β)} (hbody : ∀ a, Guards n token (body a))
    (fuel : ℕ) (a : α) : Guards n token (iterate body fuel a) := by
  intro w h
  refine meets_iterate (I := fun _ w' ↦ Open n w' ∧ Extends w w') (fun a w₁ ⟨h₁, hx₁⟩ ↦ ?_)
    (fun _ _ h ↦ h.1.once token) fuel ⟨h, refl_of Extends w⟩
  refine (hbody a w₁ h₁).imp fun r w₂ ⟨h₂, hx₂⟩ ↦ ?_
  cases r with
  | inl a => exact ⟨h₂, trans_of Extends hx₁ hx₂⟩
  | inr b => exact ⟨h₂, trans_of Extends hx₁ hx₂⟩

theorem attempt_call_bind {c : RuntimeCall} {f : Except Nav2Error c.Reply → Nav2Motion β}
    {Q : β → Nav2World → Prop} {E : Nav2Error → Nav2World → Prop} {U : Nav2World → Prop}
    (hf : ∀ reply, Meets (f reply) { w with trace := w.trace ++ [.call c reply] } Q E U) :
    Meets (attempt (call env c) >>= f) w Q E U := by
  refine Meets.bind (R := fun reply w' ↦ w' = { w with trace := w.trace ++ [.call c reply] })
    (Meets.attempt (meets_invoke (fun _ _ ↦ rfl) fun _ _ ↦ rfl)) ?_
  rintro reply w' rfl
  exact hf reply

end Rules

section Cleanup

variable {α : Type} {n : ℕ} {token : String} {w : Nav2World} {Q : α → Nav2World → Prop}

theorem failSafety_met (reason : String) (cleanupErrors : List String)
    (terminal : Option ActionTerminal) {E : Nav2Error → Nav2World → Prop} {U : Nav2World → Prop}
    (hE : ∀ failure : Nav2Error, failure.isSafetyFailure = true → ∀ reply,
      E failure { w with trace := w.trace ++ [.call .stopNavigationStage reply] }) :
    Meets (failSafety env reason cleanupErrors terminal) w Q E U :=
  attempt_call_bind fun reply ↦ meets_raise (hE _ rfl reply)

theorem failSafety_stopped (hn : w.tokenSequence = n) (hc : ClosedOnce token w.trace)
    (hs : ∃ e ∈ w.trace, e.halts = true) (reason : String) (cleanupErrors : List String)
    (terminal : Option ActionTerminal) :
    Secures n token (failSafety env reason cleanupErrors terminal) w Q := by
  refine failSafety_met reason cleanupErrors terminal fun failure hf reply ↦ ?_
  have hx : Extends w { w with trace := w.trace ++ [.call .stopNavigationStage reply] } :=
    .logged rfl w
  have honce : Once n token w := ⟨hn, hc⟩
  exact ⟨honce.extends hx, .stopped ⟨w.trace, _, [], rfl, rfl, hs⟩ hf⟩

theorem failUnknownGoalSafely_secures (h : Open n w) (reason cleanupFailure : String)
    (cleanupDeadline : Double) :
    Secures n token (failUnknownGoalSafely env reason cleanupFailure cleanupDeadline) w Q := by
  refine secures_bind (remainingCleanupS_steady env _) h fun timeoutS w₁ h₁ _ ↦ ?_
  refine attempt_call_bind fun reply ↦ ?_
  have hx : Extends w₁ { w₁ with trace := w₁.trace ++
    [.call (.forcePriorityStop timeoutS) reply] } :=
    .logged rfl w₁
  refine failSafety_stopped (h₁.extends hx).tokens (.inl (h₁.extends hx).closings) ?_ _ _ _
  exact exists_mem_last _ rfl

theorem finishQuiescence_secures (h : Open n w)
    (hg : (∃ e ∈ w.trace, e.rejects = true) ∨ ∃ t, Proven t w.trace) (reason : String)
    (terminal : Option ActionTerminal) :
    Secures n token (finishQuiescence env token reason terminal) w fun _ w' ↦
      w' = { w with trace := w.trace ++ [.call (.nav2GoalTerminal token) (.ok ())] } := by
  refine attempt_call_bind fun reply ↦ ?_
  cases reply with
  | ok reply => exact meets_pure rfl
  | error error =>
    refine failSafety_met _ _ _ fun failure hf reply ↦ ?_
    have hclosings : closings (w.trace ++ [.call (.nav2GoalTerminal token) (.error error)] ++
        [.call .stopNavigationStage reply]) = [(token, false)] := by
      rw [closings_append, closings_append, h.closings]
      rfl
    refine ⟨⟨h.tokens, .inr ⟨false, hclosings⟩⟩, .unclosed ?_ ?_ ?_ hf⟩
    · rw [List.append_assoc]
      exact hg.imp (exists_mem_append · _) fun ⟨t, hp⟩ ↦ ⟨t, hp.append _⟩
    · exact hclosings ▸ List.mem_singleton_self _
    · exact exists_mem_last _ rfl

theorem closings_closed (h : closings w.trace = []) :
    closings (w.trace ++ [.call (.nav2GoalTerminal token) (.ok ())]) = [(token, true)] := by
  rw [closings_append, h]
  rfl

theorem readTerminal_met (hasFuture : Bool)
    (hs : (∃ e ∈ w.trace, e.cancels = true) → ∃ e ∈ w.trace, e.halts = true)
    {E : Nav2Error → Nav2World → Prop} {U : Nav2World → Prop} : Meets (readTerminal env hasFuture) w
      (fun r w' ↦ Extends w w' ∧ ∀ t, r = .ok t → Proven t w'.trace) E U := by
  refine meets_ite (fun _ ↦ meets_pure ⟨refl_of Extends w, nofun⟩) fun _ ↦ ?_
  refine attempt_call_bind fun done ↦ ?_
  have hx : Extends w { w with trace := w.trace ++ [.call .resultDone done] } := .logged rfl w
  match done, hx with
  | .error error, hx => exact meets_pure ⟨hx, nofun⟩
  | .ok false, hx => exact meets_pure ⟨hx, nofun⟩
  | .ok true, hx =>
    refine attempt_call_bind fun payload ↦ ?_
    have hx' := trans_of Extends hx (.logged (e := .call .resultResult payload) rfl _)
    cases payload with
    | error error => exact meets_pure ⟨hx', nofun⟩
    | ok payload =>
      refine meets_pure ⟨hx', fun t hread ↦ ⟨_, payload, [], rfl, hread, ?_⟩⟩
      rintro ⟨e, he, hcancels⟩
      rcases List.mem_append.mp he with he | he
      · exact exists_mem_append (hs ⟨e, he, hcancels⟩) _
      · rw [List.mem_singleton.mp he] at hcancels
        cases hcancels

theorem closeCanceled_secures (h : Open n w) (hs : ∃ e ∈ w.trace, e.halts = true)
    (reason : String) (cleanupErrors : List String) {terminal : Except String ActionTerminal}
    (hp : ∀ t, terminal = .ok t → Proven t w.trace) :
    Secures n token (closeCanceled env token reason cleanupErrors terminal) w (Closed n token) := by
  cases terminal with
  | error error => exact failSafety_stopped h.tokens (.inl h.closings) hs _ _ _
  | ok t =>
    refine attempt_call_bind fun reply ↦ meets_ite (fun hnone ↦ ?_) fun _ ↦ ?_
    · cases reply with
      | ok reply => exact meets_pure ⟨h.tokens, closings_closed h.closings, (hp t rfl).append _⟩
      | error error => simp [cleanupError] at hnone
    · refine failSafety_stopped
        (w := { w with trace := w.trace ++ [.call (.nav2GoalTerminal token) reply] }) h.tokens
        (.inr ⟨reply.isOk, ?_⟩) (exists_mem_append hs _) _ _ _
      rw [closings_append, h.closings]
      rfl

theorem canceledResult_steady (env : Nav2Environment) (cleanupDeadline : Double) (fuel : ℕ) :
    Steady (iterate (canceledResultRound env config cleanupDeadline) fuel ()) := by
  refine relates_iterate (fun _ ↦ ?_) fuel ()
  refine (monotonic_steady env).bind fun now _ ↦ relates_ite (fun _ ↦ ?_) fun _ ↦ ?_
  · refine (attempt_steady env fun _ ↦ rfl).bind fun done _ ↦ ?_
    match done with
    | .ok false =>
      refine (remainingCleanupS_steady env _).bind fun remaining _ ↦ ?_
      exact (sleep_steady _).bind fun _ _ ↦ relates_pure trivial
    | .ok true => exact relates_pure trivial
    | .error error => exact relates_pure trivial
  · exact relates_pure trivial

theorem cancelStopAndProveTerminal_secures (h : Open n w) (fuel : ℕ) (hasFuture : Bool)
    (reason : String) (cleanupDeadline : Double) :
    Secures n token (cancelStopAndProveTerminal env config fuel hasFuture reason token
      cleanupDeadline) w (Closed n token) := by
  refine attempt_call_bind fun canceled ↦ ?_
  have h₁ : Open n { w with trace := w.trace ++ [.call .cancelGoalAsync canceled] } :=
    ⟨h.tokens, by rw [closings_append, h.closings]; rfl⟩
  refine secures_bind (remainingCleanupS_steady env _) h₁ fun timeoutS w₂ h₂ _ ↦ ?_
  refine attempt_call_bind fun stopped ↦ ?_
  have h₃ := h₂.extends (.logged (e := .call (.forcePriorityStop timeoutS) stopped) rfl w₂)
  have hs : ∃ e ∈ w₂.trace ++ [.call (.forcePriorityStop timeoutS) stopped], e.halts = true :=
    exists_mem_last _ rfl
  refine secures_bind (relates_ite (fun _ ↦ canceledResult_steady config env _ fuel)
    fun _ ↦ relates_pure trivial) h₃ fun _ w₄ h₄ hx₄ ↦ ?_
  have hs₄ := hx₄.exists_mem hs
  refine (readTerminal_met hasFuture fun _ ↦ hs₄).bind fun terminal w₅ ⟨hx₅, hp⟩ ↦ ?_
  exact closeCanceled_secures (h₄.extends hx₅) (hx₅.exists_mem hs₄) _ _ hp

theorem responseDone_guards (reason : String) (cleanupDeadline : Option Double) :
    Guards n token (responseDone env config reason cleanupDeadline) := by
  refine (attempt_steady env fun _ ↦ rfl).guards.bind fun done ↦ ?_
  cases done with
  | ok done => exact guards_pure done
  | error error =>
    cases cleanupDeadline with
    | some cleanupDeadline =>
      exact (guards_pure cleanupDeadline).bind fun _ w h ↦ failUnknownGoalSafely_secures h _ _ _
    | none =>
      exact (newCleanupDeadline_steady env config).guards.bind
        fun _ w h ↦ failUnknownGoalSafely_secures h _ _ _

theorem lateResponse_guards (reason : String) (cleanupDeadline : Double) (fuel : ℕ) :
    Guards n token (iterate (lateResponseRound env config reason cleanupDeadline) fuel ()) := by
  refine guards_iterate (fun _ ↦ ?_) fuel ()
  refine (responseDone_guards config reason _).bind fun done ↦ guards_ite
    (fun _ ↦ guards_pure _) fun _ ↦ (monotonic_steady env).guards.bind fun now ↦ guards_ite
    (fun _ ↦ ?_) fun _ ↦ guards_pure _
  refine (remainingCleanupS_steady env _).guards.bind fun remaining ↦ ?_
  exact (sleep_steady _).guards.bind fun _ ↦ guards_pure _

theorem finishRejected_secures (h : Open n w) (hr : ∃ e ∈ w.trace, e.rejects = true)
    (reason : String) (terminal : Option ActionTerminal) :
    Secures n token (finishQuiescence env token reason terminal) w
      fun _ w' ↦ Resolved n token none w' := by
  refine (finishQuiescence_secures h (.inl hr) reason terminal).imp ?_
  rintro _ w' rfl
  exact ⟨h.tokens, closings_closed h.closings, .inl (exists_mem_append hr _)⟩

theorem cancelLate_secures (h : Open n w) (fuel : ℕ) (reason : String) (cleanupDeadline : Double) :
    Secures n token (cancelLate env config fuel reason token cleanupDeadline) w
      (Resolved n token) := by
  refine attempt_call_bind fun future ↦ ?_
  have h₁ := h.extends (.logged (e := .call .getResultAsync future) rfl w)
  refine Meets.bind (R := Closed n token) ?_ fun t w' ht ↦ meets_pure ht.resolved
  cases future with
  | ok => exact cancelStopAndProveTerminal_secures config h₁ fuel true _ _
  | error error => exact cancelStopAndProveTerminal_secures config h₁ fuel false _ _

theorem resolvePendingGoalSafely_secures (h : Open n w) (fuel : ℕ) (reason : String)
    (cleanupDeadline : Double) :
    Secures n token (resolvePendingGoalSafely env config fuel reason token cleanupDeadline) w
      (Resolved n token) := by
  refine (lateResponse_guards config reason cleanupDeadline fuel w h).bind fun _ w₁ ⟨h₁, _⟩ ↦ ?_
  refine (responseDone_guards config reason _ w₁ h₁).bind fun done w₂ ⟨h₂, _⟩ ↦ ?_
  refine meets_ite (fun _ ↦ failUnknownGoalSafely_secures h₂ _ _ _) fun _ ↦ ?_
  refine attempt_call_bind fun handle ↦ ?_
  have h₃ := h₂.extends (.logged (e := .call .responseResult handle) rfl w₂)
  match handle, h₃ with
  | .error error, h₃ => exact failUnknownGoalSafely_secures h₃ _ _ _
  | .ok false, h₃ =>
    have hr : ∃ e ∈ w₂.trace ++ [.call .responseResult (.ok false)], e.rejects = true :=
      exists_mem_last _ rfl
    exact (finishRejected_secures h₃ hr _ _).bind fun _ w' h' ↦ meets_pure h'
  | .ok true, h₃ =>
    refine attempt_call_bind fun accepted ↦ ?_
    have h₄ := h₃.extends (.logged (e := .call .handleAccepted accepted) rfl _)
    match accepted, h₄ with
    | .error error, h₄ => exact failUnknownGoalSafely_secures h₄ _ _ _
    | .ok false, h₄ =>
      have hr : ∃ e ∈ w₂.trace ++ [.call .responseResult (.ok true)] ++
          [.call .handleAccepted (.ok false)], e.rejects = true :=
        exists_mem_last _ rfl
      exact (finishRejected_secures h₄ hr _ _).bind fun _ w' h' ↦ meets_pure h'
    | .ok true, h₄ => exact cancelLate_secures config h₄ fuel _ _

theorem recordFailure_secures (h : ∀ failure, Failed n token failure w) (intent : MotionIntent)
    (primary : Nav2Error) (status : NavigationGoalStatus) (terminal : Option ActionTerminal) :
    Secures n token (recordFailure env intent primary status terminal >>= fun primary ↦
      raise primary) w Q :=
  (recordFailure_relates env intent primary status terminal).meets_bind
    (fun primary _ _ hx ↦ meets_raise ((h primary).extends hx)) (fun _ _ hfalse _ ↦ hfalse.elim)
    fun _ hx ↦ (h primary).toOnce.extends hx

theorem failPending_secures (h : Open n w) (fuel : ℕ) (intent : MotionIntent)
    (kind : Nav2ErrorKind) (status : NavigationGoalStatus) (reason : String) :
    Secures n token (failPending env config fuel intent token kind status reason) w Q := by
  refine secures_bind (newCleanupDeadline_steady env config) h fun cleanupDeadline w₁ h₁ _ ↦ ?_
  refine (resolvePendingGoalSafely_secures config h₁ fuel reason _).bind fun t w₂ h₂ ↦ ?_
  exact recordFailure_secures h₂.failed intent _ status t

theorem failActive_secures (h : Open n w) (fuel : ℕ) (intent : MotionIntent)
    (kind : Nav2ErrorKind) (status : NavigationGoalStatus) (reason : String) :
    Secures n token (failActive env config fuel intent token kind status reason) w Q := by
  refine secures_bind (newCleanupDeadline_steady env config) h fun cleanupDeadline w₁ h₁ _ ↦ ?_
  refine (cancelStopAndProveTerminal_secures config h₁ fuel true reason _).bind fun t w₂ h₂ ↦ ?_
  exact recordFailure_secures h₂.failed intent _ status (some t)

end Cleanup
variable {n : ℕ} {token : String} {w : Nav2World}

theorem sendGoal_secures (h : Running n w) (intent : MotionIntent) (goal : RuntimeGoal) :
    Secures n token (sendGoal env config intent goal) w fun _ w' ↦ Running n w' := by
  refine attempt_call_bind fun sent ↦ ?_
  have h₁ : Running n { w with trace := w.trace ++ [.call (.sendGoal goal) sent] } := by
    refine ⟨⟨h.tokens, ?_⟩, List.forall_mem_append.mpr ⟨h.uncanceled, ?_⟩⟩
    · rw [closings_append, h.closings]
      rfl
    · exact fun e he ↦ List.mem_singleton.mp he ▸ rfl
  cases sent with
  | ok => exact meets_pure h₁
  | error error =>
    refine secures_bind (newCleanupDeadline_steady env config) h₁.toOpen fun deadline w₂ h₂ _ ↦ ?_
    exact failUnknownGoalSafely_secures h₂ _ _ _

theorem responseRound_guards (fuel : ℕ) (intent : MotionIntent) (deadline : Double) :
    Guards n token (responseRound env config fuel intent token deadline ()) := by
  refine (responseDone_guards config _ none).bind fun done ↦ guards_ite (fun _ ↦ guards_pure _)
    fun _ ↦ (attempt_steady env fun _ ↦ rfl).guards.bind
      fun canceled : Except Nav2Error Bool ↦ ?_
  match canceled with
  | .error error => exact fun w h ↦ failPending_secures config h fuel intent _ _ _
  | .ok canceled =>
    refine (monotonic_steady env).guards.bind fun now ↦ ?_
    refine guards_ite (fun _ w h ↦ failPending_secures config h fuel intent _ _ _) fun _ ↦ ?_
    refine guards_ite (fun _ w h ↦ failPending_secures config h fuel intent _ _ _) fun _ ↦ ?_
    exact (sleep_steady _).guards.bind fun _ ↦ guards_pure _

theorem rejectGoal_secures {α : Type} {Q : α → Nav2World → Prop} (h : Open n w)
    (hr : ∃ e ∈ w.trace, e.rejects = true) (intent : MotionIntent) :
    Secures n token (rejectGoal env intent token) w Q :=
  (finishRejected_secures h hr _ _).bind fun _ _ h' ↦ meets_raise (h'.failed _)

theorem acceptGoal_secures (h : Running n w) (intent : MotionIntent) :
    Secures n token (acceptGoal env config intent token) w fun _ w' ↦ Accepted n w' := by
  refine attempt_call_bind fun handle ↦ ?_
  have h₁ := h.extends (.logged (e := .call .responseResult handle) rfl w)
  match handle, h₁ with
  | .error error, h₁ =>
    refine secures_bind (newCleanupDeadline_steady env config) h₁.toOpen fun deadline w₂ h₂ _ ↦ ?_
    exact failUnknownGoalSafely_secures h₂ _ _ _
  | .ok false, h₁ =>
    exact rejectGoal_secures h₁.toOpen (exists_mem_last _ rfl) intent
  | .ok true, h₁ =>
    refine attempt_call_bind fun accepted ↦ ?_
    have h₂ := h₁.extends (.logged (e := .call .handleAccepted accepted) rfl _)
    match accepted, h₂ with
    | .error error, h₂ =>
      refine secures_bind (newCleanupDeadline_steady env config) h₂.toOpen
        fun deadline w₃ h₃ _ ↦ ?_
      exact failUnknownGoalSafely_secures h₃ _ _ _
    | .ok false, h₂ =>
      exact rejectGoal_secures h₂.toOpen (exists_mem_last _ rfl) intent
    | .ok true, h₂ =>
      exact meets_pure ⟨h₂, exists_mem_last _ rfl⟩

theorem getResultFuture_guards (fuel : ℕ) (intent : MotionIntent) :
    Guards n token (getResultFuture env config fuel intent token) := by
  refine (attempt_steady env fun _ ↦ rfl).guards.bind fun future ↦ ?_
  cases future with
  | ok => exact guards_pure ()
  | error error =>
    refine (newCleanupDeadline_steady env config).guards.bind fun deadline w h ↦ ?_
    refine (cancelStopAndProveTerminal_secures config h fuel false _ _).bind fun t w' h' ↦ ?_
    exact meets_raise (h'.failed _)

theorem recordAcceptance_guards (fuel : ℕ) (intent : MotionIntent) :
    Guards n token (recordAcceptance env config fuel intent token) := by
  cases intent with
  | sampledNavigate i =>
    have hm : Steady (attempt (do
        transitionSampled env i.sequence .accepted ActionStatus.accepted.value 0
          "NavigateToPose accepted"
        transitionSampled env i.sequence .executing ActionStatus.executing.value 0
          "NavigateToPose executing")) :=
      ((transitionSampled_relates env _ _ _ _ _).bind
        fun _ _ ↦ transitionSampled_relates env _ _ _ _ _).attempt
    refine hm.guards.bind fun recorded ↦ ?_
    cases recorded with
    | ok => exact guards_pure ()
    | error error => exact fun w h ↦ failActive_secures config h fuel _ _ _ _
  | mappingReturn => exact guards_pure ()
  | recoveryBackup => exact guards_pure ()

theorem ledgerGet_guards (sequence : ℕ) : Guards n token (attempt (ledgerGet env sequence)) :=
  Steady.guards (accessLedger_relates env _).attempt

theorem auditPlans_guards (fuel : ℕ) (intent : MotionIntent) :
    Guards n token (auditPlans env config fuel intent token) := by
  cases intent with
  | sampledNavigate i =>
    refine (ledgerGet_guards i.sequence).bind fun record ↦ ?_
    cases record with
    | error error => exact fun w h ↦ failActive_secures config h fuel _ _ _ _
    | ok record =>
      exact guards_ite (fun _ w h ↦ failActive_secures config h fuel _ _ _ _)
        fun _ ↦ guards_pure ()
  | mappingReturn => exact guards_pure ()
  | recoveryBackup => exact guards_pure ()

theorem resultDone_steady : Steady (resultDone env) := by
  refine (attempt_steady env fun _ ↦ rfl).bind fun done _ ↦ ?_
  cases done with
  | ok done => exact relates_pure trivial
  | error error => exact relates_pure trivial

theorem resultRound_guards (fuel : ℕ) (intent : MotionIntent) (deadline : Double) :
    Guards n token (resultRound env config fuel intent token deadline ()) := by
  refine resultDone_steady.guards.bind fun done ↦ guards_ite (fun _ ↦ guards_pure _)
    fun _ ↦ (attempt_steady env fun _ ↦ rfl).guards.bind fun canceled ↦ ?_
  match canceled with
  | .error error => exact fun w h ↦ failActive_secures config h fuel intent _ _ _
  | .ok true => exact fun w h ↦ failActive_secures config h fuel intent _ _ _
  | .ok false =>
    refine (auditPlans_guards config fuel intent).bind fun _ ↦ ?_
    refine (monotonic_steady env).guards.bind fun now ↦ ?_
    refine guards_ite (fun _ w h ↦ failActive_secures config h fuel intent _ _ _) fun _ ↦ ?_
    exact (sleep_steady _).guards.bind fun _ ↦ guards_pure _

theorem auditFinalPlans_guards (fuel : ℕ) (intent : MotionIntent) (deadline : Double) :
    Guards n token (auditFinalPlans env config fuel intent token deadline) := by
  cases intent with
  | sampledNavigate i =>
    refine (monotonic_steady env).guards.bind fun now ↦ ?_
    refine Guards.bind (guards_ite (fun _ ↦ (sleep_steady _).guards) fun _ ↦ guards_pure _)
      fun _ ↦ (ledgerGet_guards i.sequence).bind fun record ↦ ?_
    cases record with
    | error error => exact fun w h ↦ failActive_secures config h fuel _ _ _ _
    | ok record =>
      exact guards_ite (fun _ w h ↦ failActive_secures config h fuel _ _ _ _)
        fun _ ↦ guards_pure ()
  | mappingReturn => exact guards_pure ()
  | recoveryBackup => exact guards_pure ()

theorem finishMotion_secures (h : Accepted n w) (fuel : ℕ) (intent : MotionIntent)
    (deadline : Double) : Secures n token (finishMotion env config fuel intent token deadline) w
      (Delivered n token) := by
  have huncanceled : (∃ e ∈ w.trace, e.cancels = true) → ∃ e ∈ w.trace, e.halts = true := by
    rintro ⟨e, he, hcancels⟩
    exact absurd hcancels (ne_true_of_eq_false (h.uncanceled e he))
  refine (readTerminal_met true huncanceled).bind fun terminal w₁ ⟨hx₁, hp⟩ ↦ ?_
  have h₁ := h.extends hx₁
  cases terminal with
  | error error => exact failActive_secures config h₁.toOpen fuel intent _ _ _
  | ok t =>
    refine (auditFinalPlans_guards config fuel intent deadline w₁ h₁.toOpen).bind
      fun _ w₂ ⟨_, hx₂⟩ ↦ ?_
    have h₂ := h₁.extends hx₂
    have hp₂ : Proven t w₂.trace := hx₂.proven (hp t rfl)
    refine (finishQuiescence_secures h₂.toOpen (.inr ⟨t, hp₂⟩) _ _).bind ?_
    rintro _ w₃ rfl
    refine meets_pure ⟨⟨h₂.tokens, closings_closed h₂.closings, hp₂.append _⟩, ?_⟩
    exact exists_mem_append h₂.accepted _

theorem runGoal_secures (h : Running n w) (fuel : ℕ) (intent : MotionIntent) (goal : RuntimeGoal)
    (deadline : Double) : Secures n token (runGoal env config fuel intent goal token deadline) w
      (Delivered n token) := by
  refine (sendGoal_secures config h intent goal).bind fun _ w₁ h₁ ↦ ?_
  refine (guards_iterate (fun _ ↦ responseRound_guards config fuel intent deadline) fuel () w₁
    h₁.toOpen).bind fun _ w₂ ⟨_, hx₂⟩ ↦ ?_
  refine (acceptGoal_secures config (h₁.extends hx₂) intent).bind fun _ w₃ h₃ ↦ ?_
  refine (getResultFuture_guards config fuel intent w₃ h₃.toOpen).bind fun _ w₄ ⟨h₄, hx₄⟩ ↦ ?_
  refine (recordAcceptance_guards config fuel intent w₄ h₄).bind fun _ w₅ ⟨h₅, hx₅⟩ ↦ ?_
  refine (guards_iterate (fun _ ↦ resultRound_guards config fuel intent deadline) fuel () w₅
    h₅).bind fun _ w₆ ⟨_, hx₆⟩ ↦ ?_
  exact finishMotion_secures config (((h₃.extends hx₄).extends hx₅).extends hx₆) fuel intent
    deadline

end Nav2MotionTransaction

end EmbodiedAgent.Slam
