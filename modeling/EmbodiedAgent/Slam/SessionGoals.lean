import EmbodiedAgent.Slam.QuiescenceAdmission
import EmbodiedAgent.Slam.SessionRules

namespace EmbodiedAgent.Slam

open Library Library.History Library.Interleaving SessionOrchestrator

inductive TerminalCall
  | canceled | succeed | abort
  deriving DecidableEq

structure ActionResult where
  success : Bool
  message : String

inductive CallerPoint
  | enqueuing (position : EnqueuePosition)
  | refused
  | polling | waiting | asking
  | deciding | canceling | judging
  | settling (success : Bool)
  | reporting | returned
  deriving DecidableEq

/-- A call of `_enqueue`, the request that it has made, and the goal if it is made for one. -/
structure Caller where
  request : CommandRequest
  point : CallerPoint := .enqueuing .stopping
  cancelRequested : Bool := false
  calls : List TerminalCall := []
  result : Option ActionResult := none

namespace Caller

variable (c : Caller)

def withRequest (request : CommandRequest) : Caller := { c with request := request }

def moved (point : CallerPoint) : Caller := { c with point := point }

def returns (result : ActionResult) : Caller :=
  { c with result := some result, point := .returned }

def calling (call : TerminalCall) : Caller := { c with calls := c.calls ++ [call] }

def messageOr (message : String) : String :=
  if c.request.message = "" then message else c.request.message

/-- One section of `_execute_action` from the return of `_enqueue` on. -/
def advance (rclpyOk : Bool) : Caller :=
  match c.point with
  | .refused => (c.calling .abort).returns ⟨false, c.messageOr "session busy"⟩
  | .polling => c.moved (if rclpyOk then .waiting else .deciding)
  | .waiting => c.moved (if c.request.completed then .deciding else .asking)
  | .asking =>
    if c.cancelRequested then
      (c.withRequest { c.request with canceled := true }).moved .polling
    else c.moved .polling
  | .deciding => c.moved (if c.request.canceled then .canceling else .judging)
  | .canceling => (c.calling .canceled).returns ⟨false, c.messageOr "canceled"⟩
  | .judging => c.moved (.settling c.request.success)
  | .settling success => (c.calling (if success then .succeed else .abort)).moved .reporting
  | .reporting => c.returns ⟨c.request.success, c.request.message⟩
  | .enqueuing _ | .returned => c

/-- Where `_enqueue` returns to. -/
def enqueued (request : CommandRequest) (queued : Bool) : Caller :=
  (c.withRequest request).moved
    (if request.goalHandle = false then .returned else if queued then .polling else .refused)

def undecided : Bool :=
  match c.point with
  | .enqueuing _ | .polling | .waiting | .asking | .deciding => true
  | _ => false

end Caller

inductive RequestWorker
  | starting
  | failing (detail : String)
  | draining (detail : String)
  | shuttingDown
  | testing | getting
  | taken (r : ℕ)
  | running (r : ℕ)
  | checking (r : ℕ)
  | switching (r : ℕ)
  | succeeding (r : ℕ)
  | handling (r : ℕ) (message : String)
  | releasing (r : ℕ)
  | clearing (r : ℕ)
  | completing (r : ℕ)
  | ended

def CallerPoint.queued : CallerPoint → Bool
  | .enqueuing _ | .refused => false
  | _ => true

namespace RequestWorker

def holds : RequestWorker → Option ℕ
  | .taken r | .running r | .checking r | .switching r | .succeeding r | .handling r _
  | .releasing r | .clearing r | .completing r => some r
  | _ => none

def started : RequestWorker → Bool
  | .starting | .failing _ | .draining _ => false
  | _ => true

def serves : RequestWorker → Bool
  | .shuttingDown | .ended => false
  | _ => true

end RequestWorker

/-- The section of `close` that comes next. -/
inductive ClosePoint
  | stopping | canceling | waking | done

/-- The node with its callers, which are numbered, and with the callbacks of the authority. -/
structure SessionGoals where
  node : SessionOrchestrator
  persistentRuntimeEnabled : Bool
  callbacks : List (Callback Unit AuthorityTask) := []
  callers : List Caller := []
  requests : List (Option ℕ) := []
  activeRequest : Option ℕ := none
  worker : RequestWorker := .starting
  closing : ClosePoint := .stopping
  rclpyOk : Bool := true
  accepted : List ℕ := []
  finished : List ℕ := []

inductive SessionGoalEvent
  | goal (command : SessionCommand)
  | speak (command : SessionCommand)
  | advance (r : ℕ) (now : Double)
  | cancel (r : ℕ)
  | speakCancel
  | work (now : Double) (error : Option String)
  | write (fsm : SessionSnapshot) (outcome : MissionOutcome) (message : String)
      (internal : Option InternalStageSwitch)
  | message (m : AuthorityMessage)
  | run (i : ℕ)
  | leaseTimer (now : Double)
  | childTimer (owner code : String)
  | barrier (op : AutonomyQuiescenceBarrier.Operation)
  | close
  | shutdown

namespace SessionGoals

variable (s : SessionGoals)

def request (r : ℕ) : Option CommandRequest := s.callers[r]?.map Caller.request

def view : SessionOrchestrator :=
  { s.node with
    requests := s.requests.map fun entry ↦ entry.bind s.request
    activeRequest := s.activeRequest.bind s.request }

def withNode (n : SessionOrchestrator) : SessionGoals := { s with node := n }

def withWorker (worker : RequestWorker) : SessionGoals := { s with worker := worker }

def withRequests (requests : List (Option ℕ)) : SessionGoals := { s with requests := requests }

def update (r : ℕ) (f : Caller → Caller) : SessionGoals :=
  { s with callers := s.callers.modify r f }

def setRequest (r : ℕ) (f : CommandRequest → CommandRequest) : SessionGoals :=
  s.update r fun c ↦ c.withRequest (f c.request)

def adopt (n : SessionOrchestrator) : SessionGoals :=
  match s.activeRequest, n.activeRequest with
  | some r, some request => (s.withNode n).setRequest r fun _ ↦ request
  | _, _ => s.withNode n

def call (request : CommandRequest) : SessionGoals :=
  { s with callers := s.callers ++ [{ request := request }] }

/-- `put_nowait` of an accepted request. -/
def accept (r : ℕ) : SessionGoals :=
  { s with requests := s.requests ++ [some r], accepted := s.accepted ++ [r] }

def enqueueSection (r : ℕ) (c : Caller) (position : EnqueuePosition) (now : Double) :
    SessionGoals :=
  match (s.view.proceed ⟨position, c.request⟩ now).2 with
  | .continues call =>
    s.update r fun c ↦ (c.withRequest call.request).moved (.enqueuing call.position)
  | .ended request queued =>
    (if queued then s.accept r else s).update r fun c ↦ c.enqueued request queued

def advanceCaller (r : ℕ) (now : Double) : SessionGoals :=
  match s.callers[r]? with
  | none => s
  | some c =>
    match c.point with
    | .enqueuing position => s.enqueueSection r c position now
    | _ => s.update r (·.advance s.rclpyOk)

def stop : SessionGoals := s.withNode { s.node with stopping := true }

/-- The first section of `_execute_request`. -/
def begin (r : ℕ) (now : Double) : SessionGoals :=
  match s.request r with
  | none => s.withWorker .testing
  | some request =>
    let begun := s.view.beginRequest request now
    let s := s.setRequest r fun _ ↦ begun.2.1
    if begun.2.2 then
      { s.withNode { s.node with operationActive := true } with
        activeRequest := some r
        worker := .running r }
    else s.withWorker .testing

def succeed (r : ℕ) : SessionGoals :=
  { s.setRequest r fun request ↦ { request with
      success := true
      message := if request.message = "" then "session command completed" else request.message }
    with finished := s.finished ++ [r], worker := .releasing r }

def work (now : Double) (error : Option String) : SessionGoals :=
  match s.worker with
  | .starting =>
    match error with
    | none => s.withWorker .testing
    | some error => s.stop.withWorker (.failing ("mapping startup failed: " ++ error))
  | .failing detail =>
    (s.withNode ({ s.node with missionOutcome := .failed, missionMessage := detail }.transition
      .failed detail)).withWorker (.draining detail)
  | .draining detail =>
    match s.requests with
    | [] => s.withWorker .shuttingDown
    | none :: rest => s.withRequests rest
    | some r :: rest => (s.withRequests rest).setRequest r fun request ↦ { request with
        success := false, message := detail, completed := true }
  | .shuttingDown => { s.withWorker .ended with rclpyOk := false }
  | .testing => s.withWorker (if s.node.stopping then .ended else .getting)
  | .getting =>
    match s.requests with
    | [] => s.withWorker .testing
    | none :: rest => (s.withRequests rest).withWorker .ended
    | some r :: rest => (s.withRequests rest).withWorker (.taken r)
  | .taken r => s.begin r now
  | .running r =>
    match error with
    | none => s.withWorker (.checking r)
    | some message => s.withWorker (.handling r message)
  | .checking r =>
    if (s.request r).any CommandRequest.canceled then
      (s.setRequest r fun request ↦ { request with
        message := "canceled before stage switch" }).withWorker (.releasing r)
    else s.withWorker (.switching r)
  | .switching r =>
    match error with
    | none => s.withWorker (.succeeding r)
    | some message => s.withWorker (.handling r message)
  | .succeeding r => s.succeed r
  | .handling r message =>
    (s.setRequest r fun request ↦ { request with message := message }).withWorker (.releasing r)
  | .releasing r =>
    { s.withWorker (.clearing r) with
      activeRequest := if s.activeRequest = some r then none else s.activeRequest }
  | .clearing r =>
    (s.withNode { s.node with operationActive := false }).withWorker (.completing r)
  | .completing r =>
    (s.setRequest r fun request ↦ { request with completed := true }).withWorker .testing
  | .ended => s

def closeRequest (request : CommandRequest) : CommandRequest :=
  { request with
    canceled := true
    message := if request.message = "" then "session is closing" else request.message }

def close : SessionGoals :=
  match s.closing with
  | .stopping => { s.stop with closing := .canceling }
  | .canceling =>
    { s.adopt { s.view with activeRequest := s.view.activeRequest.map closeRequest } with
      closing := .waking }
  | .waking =>
    { s.withRequests (if s.requests.length < queueSize then s.requests ++ [none] else s.requests)
      with closing := .done }
  | .done => s

def startCallback (n : SessionOrchestrator × List AuthorityTask) : SessionGoals :=
  { s.adopt n.1 with callbacks := s.callbacks ++ [⟨(), n.2⟩] }

def step : SessionGoalEvent → SessionGoals × Unit
  | .goal command =>
    (s.call { command := command, source := "action", goalHandle := true }, ())
  | .speak command => (s.call { command := command, source := "voice" }, ())
  | .advance r now => (s.advanceCaller r now, ())
  | .cancel r => (s.update r fun c ↦ { c with cancelRequested := true }, ())
  | .speakCancel => (s.adopt (s.view.cancelActiveAutomaticMission none).1, ())
  | .work now error => (s.work now error, ())
  | .write fsm outcome message internal =>
    (s.withNode { s.node with
      fsm := fsm
      missionOutcome := outcome
      missionMessage := message
      internalStageSwitch := internal }, ())
  | .message m => (s.startCallback (s.view.receive m), ())
  | .run i =>
    let advanced := Interleaving.advance perform s.view s.callbacks i
    ({ s.adopt advanced.1 with callbacks := advanced.2.1 }, ())
  | .leaseTimer now => (s.startCallback (s.view.checkAuthorityLease now), ())
  | .childTimer owner code =>
    (s.startCallback
      (s.view, s.view.checkChildProcess s.persistentRuntimeEnabled owner code), ())
  | .barrier op =>
    (s.withNode (s.node.withBarrier (s.node.autonomyQuiescence.step op).1), ())
  | .close => (s.close, ())
  | .shutdown => ({ s with rclpyOk := false }, ())

end SessionGoals

section Marks

structure Touched (request request' : CommandRequest) : Prop where
  completed : request'.completed = request.completed
  success : request'.success = request.success
  goalHandle : request'.goalHandle = request.goalHandle
  canceled : request.canceled = true → request'.canceled = true

theorem Touched.refl (request : CommandRequest) : Touched request request := ⟨rfl, rfl, rfl, id⟩

variable {n n' : SessionOrchestrator} {request request' : CommandRequest} {call : EnqueueCall}
  {now : Double}

def Stays (n n' : SessionOrchestrator) : Prop :=
  ∀ request request', n.activeRequest = some request → n'.activeRequest = some request' →
    Touched request request'

theorem Stays.of_eq (h : n'.activeRequest = n.activeRequest) : Stays n n' := by
  intro request request' hn hn'
  cases hn.symm.trans (h.symm.trans hn')
  exact .refl _

theorem stays_cancel (n : SessionOrchestrator) (identity : Option QuiescenceIdentity) :
    Stays n (n.cancelActiveAutomaticMission identity).1 := by
  intro request request' hn hn'
  unfold cancelActiveAutomaticMission at hn'
  simp only [hn] at hn'
  split_ifs at hn'
  · cases hn.symm.trans hn'
    exact .refl _
  · cases hn'
    exact ⟨rfl, rfl, rfl, fun _ ↦ rfl⟩

theorem stays_perform (n : SessionOrchestrator) (task : AuthorityTask) :
    Stays n (perform n task).1 := by
  cases task with
  | report | clearReport | readMission c | startWorker c | testIdentity c | testActive c
  | testFailed c | failBarrier reason | failOutcome reason | quiescing c | failTransition reason
  | childTransition detail => exact .of_eq rfl
  | publish c => exact .of_eq (congrArg (·.activeRequest) (publish_inside n c))
  | observeActive c =>
    simp only [perform]
    split <;> exact .of_eq rfl
  | observe c =>
    simp only [perform]
    split <;> exact .of_eq rfl
  | «begin» c =>
    simp only [perform]
    split <;> exact .of_eq rfl
  | cancel identity => exact stays_cancel n identity
  | childFailure detail =>
    intro request request' hn hn'
    simp only [perform, hn, Option.map_some, Option.some.injEq] at hn'
    subst hn'
    exact ⟨rfl, rfl, rfl, fun _ ↦ rfl⟩

structure Alike (request request' : CommandRequest) : Prop where
  success : request'.success = request.success
  goalHandle : request'.goalHandle = request.goalHandle
  canceled : request'.canceled = request.canceled
  completed : request.completed = true → request'.completed = true

theorem Alike.refl (request : CommandRequest) : Alike request request := ⟨rfl, rfl, rfl, id⟩

theorem alike_refuse (request : CommandRequest) (message : String) :
    Alike request (request.refuse message) := ⟨rfl, rfl, rfl, fun _ ↦ rfl⟩

def progressed : EnqueueProgress → CommandRequest
  | .continues call => call.request
  | .ended request _ => request

theorem alike_admission (n : SessionOrchestrator) (request : CommandRequest) (now : Double) :
    Alike request (n.admission request now).1 := by
  unfold admission
  split_ifs
  · exact alike_refuse request _
  · dsimp only
    split
    · exact ⟨rfl, rfl, rfl, id⟩
    · exact ⟨rfl, rfl, rfl, fun _ ↦ rfl⟩
  · dsimp only
    split
    · exact .refl request
    · exact alike_refuse request _

theorem alike_proceed (n : SessionOrchestrator) (call : EnqueueCall) (now : Double) :
    Alike call.request (progressed (n.proceed call now).2) := by
  unfold proceed
  cases call.position with
  | stopping | barrier | operation =>
    dsimp only
    split_ifs <;> first | exact .refl _ | exact alike_refuse _ _
  | admission =>
    have hadmission := alike_admission n call.request now
    dsimp only
    split_ifs <;> exact hadmission
  | put =>
    dsimp only [progressed]
    unfold put
    split_ifs
    · exact .refl _
    · exact alike_refuse _ _

theorem proceed_queued (h : (n.proceed call now).2 = .ended request true) :
    call.position = .put ∧ n.requests.length < queueSize := by
  unfold proceed at h
  cases hposition : call.position with
  | stopping | barrier | operation =>
    rw [hposition] at h
    dsimp only at h
    split_ifs at h
    cases h
  | admission =>
    rw [hposition] at h
    dsimp only at h
    split_ifs at h
    cases h
  | put =>
    refine ⟨rfl, ?_⟩
    rw [hposition] at h
    unfold put at h
    by_contra hfull
    rw [if_neg hfull] at h
    cases h

theorem alike_begin (n : SessionOrchestrator) (request : CommandRequest) (now : Double) :
    Alike request (n.beginRequest request now).2.1 := by
  unfold beginRequest
  split
  · exact alike_refuse request _
  · split_ifs
    · exact alike_refuse request _
    · exact .refl request

theorem begin_completed (hbegun : (n.beginRequest request now).2.2 = false) :
    (n.beginRequest request now).2.1.completed = true := by
  unfold beginRequest at hbegun ⊢
  split at hbegun
  · rfl
  · split_ifs at hbegun ⊢
    · rfl

end Marks

namespace Caller

variable {c : Caller} {request : CommandRequest}

def Fine (c : Caller) : Prop :=
  match c.point with
  | .enqueuing _ | .polling | .waiting | .asking | .deciding => c.calls = [] ∧ c.result = none ∧
      (c.request.canceled = true → c.cancelRequested = true ∧ c.request.success = false)
  | .refused => c.calls = [] ∧ c.result = none ∧ c.request.success = false
  | .canceling => c.calls = [] ∧ c.result = none ∧ c.cancelRequested = true ∧
      c.request.success = false
  | .judging | .settling _ => c.calls = [] ∧ c.result = none
  | .reporting => c.result = none ∧ ∃ call, c.calls = [call] ∧ call ≠ .canceled
  | .returned =>
    (c.request.goalHandle = false ∧ c.calls = [] ∧ c.result = none) ∨
      ∃ call message, c.calls = [call] ∧ (call = .canceled → c.cancelRequested = true) ∧
        c.result = some ⟨c.request.success, message⟩

theorem Fine.touch (h : c.Fine) (hsuccess : request.success = c.request.success)
    (hhandle : request.goalHandle = c.request.goalHandle)
    (hmark : c.undecided = true → c.request.canceled = false → request.canceled = true →
      c.cancelRequested = true ∧ c.request.success = false) : (c.withRequest request).Fine := by
  have hcanceled : c.undecided = true →
      (c.request.canceled = true → c.cancelRequested = true ∧ c.request.success = false) →
      request.canceled = true → c.cancelRequested = true ∧ request.success = false := by
    intro hundecided hbefore hafter
    rw [hsuccess]
    cases hcanceled : c.request.canceled with
    | true => exact hbefore hcanceled
    | false => exact hmark hundecided hcanceled hafter
  unfold Fine at h ⊢
  unfold undecided at hcanceled
  simp only [withRequest]
  cases hpoint : c.point with
  | enqueuing | polling | waiting | asking | deciding =>
    rw [hpoint] at h hcanceled
    exact ⟨h.1, h.2.1, hcanceled rfl h.2.2⟩
  | refused =>
    rw [hpoint] at h
    exact ⟨h.1, h.2.1, hsuccess.trans h.2.2⟩
  | canceling =>
    rw [hpoint] at h
    exact ⟨h.1, h.2.1, h.2.2.1, hsuccess.trans h.2.2.2⟩
  | judging | settling | reporting =>
    rw [hpoint] at h
    exact h
  | returned =>
    rw [hpoint] at h
    dsimp only at h ⊢
    rw [hsuccess, hhandle]
    exact h

theorem Fine.asked (h : c.Fine) : Fine { c with cancelRequested := true } := by
  unfold Fine at h ⊢
  dsimp only
  cases hpoint : c.point with
  | enqueuing | polling | waiting | asking | deciding =>
    rw [hpoint] at h
    exact ⟨h.1, h.2.1, fun hcanceled ↦ ⟨rfl, (h.2.2 hcanceled).2⟩⟩
  | refused | judging | settling | reporting =>
    rw [hpoint] at h
    exact h
  | canceling =>
    rw [hpoint] at h
    exact ⟨h.1, h.2.1, rfl, h.2.2.2⟩
  | returned =>
    rw [hpoint] at h
    exact h.imp_right fun ⟨call, message, hcalls, _, hresult⟩ ↦
      ⟨call, message, hcalls, fun _ ↦ rfl, hresult⟩

theorem Fine.succeeds {message : String} (h : c.Fine) (hpoint : c.point ≠ .refused)
    (hundecided : c.undecided = true → c.request.canceled = false)
    (hcanceling : c.point ≠ .canceling)
    (hreturned : c.point = .returned → c.calls = []) :
    (c.withRequest { c.request with success := true, message := message }).Fine := by
  unfold Fine at h ⊢
  unfold undecided at hundecided
  simp only [withRequest]
  cases hp : c.point with
  | enqueuing | polling | waiting | asking | deciding =>
    rw [hp] at h hundecided
    refine ⟨h.1, h.2.1, fun hcanceled ↦ ?_⟩
    cases (hundecided rfl).symm.trans hcanceled
  | refused => exact absurd hp hpoint
  | canceling => exact absurd hp hcanceling
  | judging | settling | reporting =>
    rw [hp] at h
    exact h
  | returned =>
    rw [hp] at h
    rcases h with hvoice | ⟨call, message, hcall, -, -⟩
    · exact .inl hvoice
    · cases (hreturned hp).symm.trans hcall

theorem advance_request (c : Caller) (rclpyOk : Bool) :
    (c.advance rclpyOk).request.success = c.request.success ∧
      (c.advance rclpyOk).request.completed = c.request.completed := by
  unfold advance
  cases c.point with
  | asking =>
    dsimp only
    split_ifs <;> exact ⟨rfl, rfl⟩
  | _ => exact ⟨rfl, rfl⟩

theorem advance_queued (rclpyOk : Bool) (h : c.point.queued = true) :
    (c.advance rclpyOk).point.queued = true := by
  unfold advance
  cases hpoint : c.point with
  | enqueuing | returned => exact h
  | refused | canceling | judging | settling | reporting => rfl
  | polling =>
    cases rclpyOk <;> rfl
  | waiting =>
    dsimp only [moved]
    split_ifs <;> rfl
  | asking =>
    dsimp only
    split_ifs <;> rfl
  | deciding =>
    dsimp only [moved]
    split_ifs <;> rfl

theorem Fine.advances {rclpyOk : Bool} (h : c.Fine)
    (hmark : c.undecided = true → c.request.canceled = false →
      (c.advance rclpyOk).request.canceled = true → c.request.success = false) :
    (c.advance rclpyOk).Fine := by
  unfold advance at hmark ⊢
  unfold Fine at h
  cases hpoint : c.point with
  | enqueuing | returned =>
    rw [hpoint] at h
    simp only [Fine, hpoint]
    exact h
  | refused =>
    rw [hpoint] at h
    dsimp only
    simp only [Fine, returns, calling, h.1, List.nil_append]
    refine .inr ⟨.abort, _, rfl, fun hcall ↦ ?_, by rw [h.2.2]⟩
    cases hcall
  | polling =>
    rw [hpoint] at h
    cases rclpyOk <;> exact h
  | waiting =>
    rw [hpoint] at h
    dsimp only
    cases c.request.completed <;> exact h
  | asking =>
    rw [hpoint] at h hmark
    dsimp only at hmark ⊢
    split_ifs at hmark ⊢ with hasked
    · refine ⟨h.1, h.2.1, fun _ ↦ ⟨hasked, ?_⟩⟩
      cases hcanceled : c.request.canceled with
      | true => exact (h.2.2 hcanceled).2
      | false => exact hmark (by simp [undecided, hpoint]) hcanceled rfl
    · exact h
  | deciding =>
    rw [hpoint] at h
    dsimp only
    split_ifs with hcanceled
    · exact ⟨h.1, h.2.1, (h.2.2 hcanceled).1, (h.2.2 hcanceled).2⟩
    · exact ⟨h.1, h.2.1⟩
  | canceling =>
    rw [hpoint] at h
    dsimp only
    simp only [Fine, returns, calling, h.1, List.nil_append]
    exact .inr ⟨.canceled, _, rfl, fun _ ↦ h.2.2.1, by rw [h.2.2.2]⟩
  | judging =>
    rw [hpoint] at h
    exact h
  | settling success =>
    rw [hpoint] at h
    dsimp only
    simp only [Fine, moved, calling, h.1, List.nil_append]
    exact ⟨h.2, _, rfl, by cases success <;> simp⟩
  | reporting =>
    rw [hpoint] at h
    obtain ⟨-, call, hcall, hnot⟩ := h
    exact .inr ⟨call, _, hcall, fun hcanceled ↦ absurd hcanceled hnot, rfl⟩

theorem Fine.calls (h : c.Fine) : c.calls.length ≤ 1 ∧
    (c.request.goalHandle = true → c.point = .returned → c.calls.length = 1) := by
  unfold Fine at h
  cases hpoint : c.point with
  | returned =>
    rw [hpoint] at h
    rcases h with ⟨hvoice, hcalls, -⟩ | ⟨call, message, hcalls, -⟩
    · refine ⟨by simp [hcalls], fun hhandle ↦ ?_⟩
      cases hvoice.symm.trans hhandle
    · simp [hcalls]
  | reporting =>
    rw [hpoint] at h
    obtain ⟨-, call, hcalls, -⟩ := h
    simp [hcalls]
  | _ =>
    rw [hpoint] at h
    simp [h.1]

theorem Fine.legal (h : c.Fine) (hcall : .canceled ∈ c.calls) : c.cancelRequested = true := by
  unfold Fine at h
  cases hpoint : c.point with
  | returned =>
    rw [hpoint] at h
    rcases h with ⟨-, hcalls, -⟩ | ⟨call, message, hcalls, hasked, -⟩
    · rw [hcalls] at hcall
      cases hcall
    · rw [hcalls] at hcall
      exact hasked (List.mem_singleton.mp hcall).symm
  | reporting =>
    rw [hpoint] at h
    obtain ⟨-, call, hcalls, hnot⟩ := h
    rw [hcalls] at hcall
    exact absurd (List.mem_singleton.mp hcall).symm hnot
  | _ =>
    rw [hpoint] at h
    rw [h.1] at hcall
    cases hcall

theorem Fine.honest {result : ActionResult} (h : c.Fine) (hresult : c.result = some result) :
    result.success = c.request.success := by
  unfold Fine at h
  cases hpoint : c.point with
  | returned =>
    rw [hpoint] at h
    rcases h with ⟨-, -, hnone⟩ | ⟨call, message, -, -, hsome⟩
    · cases hnone.symm.trans hresult
    · cases hsome.symm.trans hresult
      rfl
  | reporting =>
    rw [hpoint] at h
    cases h.1.symm.trans hresult
  | judging | settling =>
    rw [hpoint] at h
    cases h.2.symm.trans hresult
  | _ =>
    rw [hpoint] at h
    cases h.2.1.symm.trans hresult

end Caller

namespace SessionGoals

section Runs

variable {s s' : SessionGoals} {r j : ℕ} {c c' : Caller} {f : Caller → Caller}
  {n : SessionOrchestrator} {worker : RequestWorker}

def Pending (s : SessionGoals) (r : ℕ) : Prop :=
  (some r ∈ s.requests ∧ s.worker.serves = true) ∨ s.worker.holds = some r

structure Lawful (s : SessionGoals) : Prop where
  fine : ∀ (r : ℕ) (c : Caller), s.callers[r]? = some c → c.Fine
  finished : ∀ (r : ℕ) (c : Caller), s.callers[r]? = some c →
    (c.request.success = true ↔ r ∈ s.finished)
  ran : ∀ r ∈ s.finished, r ∈ s.accepted
  unstarted : s.worker.started = false → s.finished = []
  queued : ∀ r, some r ∈ s.requests → r ∈ s.accepted
  held : ∀ r, s.worker.holds = some r → r ∈ s.accepted
  kept : ∀ r ∈ s.accepted, ∃ c : Caller, s.callers[r]? = some c ∧ c.point.queued = true ∧
    (c.request.completed = true ∨ s.Pending r)

theorem update_get (h : s.callers[j]? = some c) :
    (s.update r f).callers[j]? = some (if r = j then f c else c) := by
  rw [update, List.getElem?_modify, h]
  rfl

theorem get_update (h : (s.update r f).callers[j]? = some c') :
    ∃ c, s.callers[j]? = some c ∧ c' = if r = j then f c else c := by
  rw [update, List.getElem?_modify] at h
  obtain ⟨c, hc, rfl⟩ := Option.map_eq_some_iff.mp h
  exact ⟨c, hc, rfl⟩

theorem Lawful.update (h : Lawful s) (hf : ∀ c, s.callers[r]? = some c → (f c).Fine ∧
    (f c).request.success = c.request.success ∧
    (c.point.queued = true → (f c).point.queued = true) ∧
    (c.request.completed = true → (f c).request.completed = true)) : Lawful (s.update r f) := by
  refine ⟨fun j c' hc' ↦ ?_, fun j c' hc' ↦ ?_, h.ran, h.unstarted, h.queued, h.held,
    fun j hj ↦ ?_⟩
  · obtain ⟨c, hc, rfl⟩ := get_update hc'
    split_ifs with hrj
    · subst hrj
      exact (hf c hc).1
    · exact h.fine j c hc
  · obtain ⟨c, hc, rfl⟩ := get_update hc'
    split_ifs with hrj
    · subst hrj
      rw [(hf c hc).2.1]
      exact h.finished r c hc
    · exact h.finished j c hc
  · obtain ⟨c, hc, hqueued, hkept⟩ := h.kept j hj
    refine ⟨_, update_get hc, ?_⟩
    split_ifs with hrj
    · subst hrj
      obtain ⟨-, -, hpoint, hcompleted⟩ := hf c hc
      exact ⟨hpoint hqueued, hkept.imp_left hcompleted⟩
    · exact ⟨hqueued, hkept⟩

theorem Lawful.moves (h : Lawful s) (hcallers : s'.callers = s.callers)
    (hfinished : s'.finished = s.finished) (haccepted : s'.accepted = s.accepted)
    (hstarted : s'.worker.started = false → s.worker.started = false)
    (hqueued : ∀ r, some r ∈ s'.requests → r ∈ s.accepted)
    (hheld : ∀ r, s'.worker.holds = some r → r ∈ s.accepted)
    (hpending : ∀ (r : ℕ) (c : Caller), s.callers[r]? = some c → s.Pending r →
      c.request.completed = true ∨ s'.Pending r) : Lawful s' := by
  refine ⟨?_, ?_, ?_, ?_, ?_, ?_, ?_⟩
  · rw [hcallers]
    exact h.fine
  · rw [hcallers, hfinished]
    exact h.finished
  · rw [hfinished, haccepted]
    exact h.ran
  · rw [hfinished]
    exact fun hs ↦ h.unstarted (hstarted hs)
  · rw [haccepted]
    exact hqueued
  · rw [haccepted]
    exact hheld
  · rw [haccepted, hcallers]
    intro r hr
    obtain ⟨c, hc, hpoint, hkept⟩ := h.kept r hr
    refine ⟨c, hc, hpoint, ?_⟩
    rcases hkept with hcompleted | hpending'
    · exact .inl hcompleted
    · exact hpending r c hc hpending'

theorem Lawful.walks {before : RequestWorker} (h : Lawful s) (hworker : s.worker = before)
    (hholds : worker.holds = before.holds)
    (hserves : before.serves = true → worker.serves = true)
    (hstarted : worker.started = false → before.started = false) :
    Lawful (s.withWorker worker) := by
  subst hworker
  refine h.moves rfl rfl rfl hstarted h.queued (fun r hr ↦ h.held r (hholds ▸ hr)) ?_
  rintro r c - (⟨hqueue, hworker⟩ | hholding)
  · exact .inr (.inl ⟨hqueue, hserves hworker⟩)
  · exact .inr (.inr (hholds.trans hholding))

theorem Lawful.touches {g : CommandRequest → CommandRequest} (h : Lawful s)
    (hg : ∀ c, s.callers[r]? = some c → Alike c.request (g c.request)) :
    Lawful (s.setRequest r g) := by
  refine h.update fun c hc ↦ ?_
  have halike := hg c hc
  refine ⟨(h.fine r c hc).touch halike.success halike.goalHandle fun _ hbefore hafter ↦ ?_,
    halike.success, id, halike.completed⟩
  cases hbefore.symm.trans (halike.canceled.symm.trans hafter)

def MarksOwn (s s' : SessionGoals) : Prop :=
  ∀ p ∈ s.callers.zip s'.callers, p.1.undecided = true → p.1.request.canceled = false →
    p.2.request.canceled = true → p.1.cancelRequested = true ∧ p.1.request.success = false

theorem MarksOwn.get (h : MarksOwn s s') (hc : s.callers[r]? = some c)
    (hc' : s'.callers[r]? = some c') (hundecided : c.undecided = true)
    (hbefore : c.request.canceled = false) (hafter : c'.request.canceled = true) :
    c.cancelRequested = true ∧ c.request.success = false :=
  h (c, c') (List.mem_of_getElem? (List.getElem?_zip_eq_some.mpr ⟨hc, hc'⟩)) hundecided hbefore
    hafter

theorem Lawful.withNode (h : Lawful s) (n : SessionOrchestrator) : Lawful (s.withNode n) :=
  ⟨h.fine, h.finished, h.ran, h.unstarted, h.queued, h.held, h.kept⟩

theorem Lawful.adopts (h : Lawful s) (hn : Stays s.view n) (hmarks : MarksOwn s (s.adopt n)) :
    Lawful (s.adopt n) := by
  unfold adopt at hmarks ⊢
  cases hactive : s.activeRequest with
  | none => exact h.withNode n
  | some r =>
    cases hrequest : n.activeRequest with
    | none => exact h.withNode n
    | some request =>
      rw [hactive, hrequest] at hmarks
      refine Lawful.update (h.withNode n) fun c hc ↦ ?_
      have hview : s.view.activeRequest = some c.request := by
        have hc' : s.callers[r]? = some c := hc
        simp [view, SessionGoals.request, hactive, hc']
      obtain ⟨hcompleted, hsuccess, hhandle, -⟩ := hn _ _ hview hrequest
      refine ⟨(h.fine r c hc).touch hsuccess hhandle fun hundecided hbefore hafter ↦ ?_, hsuccess,
        id, fun hdone ↦ hcompleted.trans hdone⟩
      have hc' : ((s.withNode n).setRequest r fun _ ↦ request).callers[r]? =
          some (c.withRequest request) := by
        rw [setRequest, update_get (s := s.withNode n) hc, if_pos rfl]
      exact hmarks.get hc hc' hundecided hbefore hafter

def WorksOn (s : SessionGoals) : RequestWorker → Prop
  | .succeeding r => ∀ c ∈ s.callers[r]?, (c.undecided = true → c.request.canceled = false) ∧
      c.point ≠ .canceling ∧ (c.point = .returned → c.calls = [])
  | .testing => s.node.stopping = true → ∀ entry ∈ s.requests, entry = none
  | .getting => s.requests.head? = some none → ∀ entry ∈ s.requests, entry = none
  | _ => True

instance (s : SessionGoals) : (worker : RequestWorker) → Decidable (s.WorksOn worker)
  | .succeeding r => inferInstanceAs (Decidable (∀ c ∈ s.callers[r]?, _ ∧ c.point ≠ _ ∧ _))
  | .testing => inferInstanceAs (Decidable (_ → ∀ entry ∈ s.requests, entry = none))
  | .getting => inferInstanceAs (Decidable (_ → ∀ entry ∈ s.requests, entry = none))
  | .starting | .failing _ | .draining _ | .shuttingDown | .taken _ | .running _ | .checking _
  | .switching _ | .handling _ _ | .releasing _ | .clearing _ | .completing _ | .ended =>
    .isTrue trivial

def CallsInTime (s : SessionGoals) : SessionGoalEvent → Prop
  | .work _ _ => s.WorksOn s.worker
  | .advance r _ => ∀ c ∈ s.callers[r]?, c.point = .enqueuing .put →
      s.requests.length < queueSize → s.worker.serves = true
  | _ => True

instance (s : SessionGoals) : (e : SessionGoalEvent) → Decidable (s.CallsInTime e)
  | .work _ _ => inferInstanceAs (Decidable (s.WorksOn s.worker))
  | .advance r _ => inferInstanceAs (Decidable (∀ c ∈ s.callers[r]?, c.point = _ → _ → _))
  | .goal _ | .speak _ | .cancel _ | .speakCancel | .write .. | .message _ | .run _
  | .leaseTimer _ | .childTimer .. | .barrier _ | .close | .shutdown => .isTrue trivial

def Orderly (s : SessionGoals) (e : SessionGoalEvent) : Prop :=
  MarksOwn s (s.step e).1 ∧ s.CallsInTime e

instance (s : SessionGoals) (e : SessionGoalEvent) : Decidable (s.Orderly e) :=
  inferInstanceAs (Decidable ((∀ p ∈ s.callers.zip (s.step e).1.callers, _ → _ → _ → _) ∧ _))

theorem Lawful.begins (h : Lawful s) (hworker : s.worker = .taken r) (now : Double) :
    Lawful (s.begin r now) := by
  have hheld : r ∈ s.accepted := h.held r (by rw [hworker]; rfl)
  obtain ⟨c, hc, -⟩ := h.kept r hheld
  have hrequest : s.request r = some c.request := by rw [SessionGoals.request, hc]; rfl
  unfold begin
  rw [hrequest]
  dsimp only
  have hset : Lawful (s.setRequest r fun _ ↦ (s.view.beginRequest c.request now).2.1) := by
    refine h.touches fun c' hc' ↦ ?_
    obtain rfl := Option.some.inj (hc.symm.trans hc')
    exact alike_begin s.view c.request now
  split_ifs with hbegun
  · refine Lawful.moves hset rfl rfl rfl (fun hstarted ↦ (by cases hstarted)) h.queued
      (fun j hj ↦ ?_) ?_
    · cases hj
      exact hheld
    · rintro j c' - (⟨hqueue, -⟩ | hholding)
      · exact .inr (.inl ⟨hqueue, rfl⟩)
      · have hj : some r = some j := by
          rw [← hholding]
          change _ = s.worker.holds
          rw [hworker]
          rfl
        exact .inr (.inr hj)
  · refine Lawful.moves hset rfl rfl rfl (fun hstarted ↦ (by cases hstarted)) h.queued
      (fun j hj ↦ by cases hj) ?_
    rintro j c' hc' (⟨hqueue, -⟩ | hholding)
    · exact .inr (.inl ⟨hqueue, rfl⟩)
    · -- the request that was taken has been refused
      have hj : r = j := by
        change s.worker.holds = some j at hholding
        rw [hworker] at hholding
        exact Option.some.inj hholding
      subst hj
      obtain ⟨c'', hc'', rfl⟩ := get_update hc'
      rw [if_pos rfl]
      exact .inl (begin_completed (by simpa using hbegun))

theorem Lawful.tells (h : Lawful s) (message : String) :
    Lawful (s.setRequest r fun request ↦ { request with message := message }) :=
  h.touches fun _ _ ↦ ⟨rfl, rfl, rfl, id⟩

theorem Lawful.leaves (h : Lawful s) (hholds : s.worker.holds = none)
    (hempty : ∀ entry ∈ s.requests, entry = none) {requests : List (Option ℕ)}
    (hrequests : ∀ entry ∈ requests, entry ∈ s.requests) (hstarted : worker.started = true)
    (hworker : worker.holds = none) : Lawful ((s.withRequests requests).withWorker worker) := by
  refine h.moves rfl rfl rfl (fun hnot ↦ ?_) (fun r hr ↦ h.queued r (hrequests _ hr))
    (fun r hr ↦ ?_) ?_
  · cases hstarted.symm.trans hnot
  · cases hworker.symm.trans hr
  · rintro r c - (⟨hqueue, -⟩ | hholding)
    · cases hempty _ hqueue
    · cases hholds.symm.trans hholding

theorem Lawful.drains (h : Lawful s) {detail : String} (hworker : s.worker = .draining detail)
    (now : Double) (error : Option String) : Lawful (s.work now error) := by
  have hnone : s.finished = [] := h.unstarted (by rw [hworker]; rfl)
  have hserves : ∀ requests, (s.withRequests requests).worker.serves = true := by
    intro requests
    change s.worker.serves = true
    rw [hworker]
    rfl
  have hholds : s.worker.holds = none := by
    rw [hworker]
    rfl
  unfold work
  rw [hworker]
  dsimp only
  split
  · rename_i hempty
    refine h.leaves hholds ?_ (fun _ h ↦ h) rfl rfl
    rw [hempty]
    exact fun _ hmem ↦ absurd hmem List.not_mem_nil
  · rename_i rest hrequests
    refine h.moves rfl rfl rfl id (fun r hr ↦ h.queued r ?_) h.held ?_
    · rw [hrequests]
      exact List.mem_cons_of_mem _ hr
    · rintro r c - (⟨hqueue, -⟩ | hholding)
      · rw [hrequests] at hqueue
        rcases List.mem_cons.mp hqueue with heq | hrest
        · cases heq
        · exact .inr (.inl ⟨hrest, hserves rest⟩)
      · cases hholds.symm.trans hholding
  · rename_i r rest hrequests
    -- the request is told first, then it leaves the queue
    have htold : Lawful (s.setRequest r fun request ↦ { request with
        success := false, message := detail, completed := true }) := by
      refine h.touches fun c hc ↦ ⟨?_, rfl, rfl, fun _ ↦ rfl⟩
      have hnot : ¬ c.request.success = true := fun hsuccess ↦ by
        have hmem := (h.finished r c hc).mp hsuccess
        rw [hnone] at hmem
        cases hmem
      simpa using hnot
    refine htold.moves rfl rfl rfl id (fun j hj ↦ h.queued j ?_) h.held ?_
    · rw [hrequests]
      exact List.mem_cons_of_mem _ hj
    · rintro j c hc (⟨hqueue, -⟩ | hholding)
      · change some j ∈ s.requests at hqueue
        rw [hrequests] at hqueue
        rcases List.mem_cons.mp hqueue with heq | hrest
        · cases heq
          obtain ⟨c', hc', rfl⟩ := get_update hc
          rw [if_pos rfl]
          exact .inl rfl
        · exact .inr (.inl ⟨hrest, hserves rest⟩)
      · cases hholds.symm.trans hholding

theorem Lawful.succeeds (h : Lawful s) (hworker : s.worker = .succeeding r)
    (ho : s.WorksOn (.succeeding r)) : Lawful (s.succeed r) := by
  have hholds : s.worker.holds = some r := by rw [hworker]; rfl
  have hheld : r ∈ s.accepted := h.held r hholds
  obtain ⟨c, hc, hqueued, -⟩ := h.kept r hheld
  have hrefused : c.point ≠ .refused := by
    intro hpoint
    rw [hpoint] at hqueued
    cases hqueued
  obtain ⟨hundecided, hcanceling, hreturned⟩ := ho c hc
  refine ⟨fun j c' hc' ↦ ?_, fun j c' hc' ↦ ?_, fun j hj ↦ ?_, fun hstarted ↦ (by cases hstarted),
    h.queued, fun j hj ↦ ?_, fun j hj ↦ ?_⟩
  · obtain ⟨c'', hc'', rfl⟩ := get_update (s := s) hc'
    split_ifs with hrj
    · subst hrj
      obtain rfl := Option.some.inj (hc.symm.trans hc'')
      exact (h.fine r c hc).succeeds hrefused hundecided hcanceling hreturned
    · exact h.fine j c'' hc''
  · obtain ⟨c'', hc'', rfl⟩ := get_update (s := s) hc'
    have hfinished := h.finished j c'' hc''
    split_ifs with hrj
    · subst hrj
      exact ⟨fun _ ↦ List.mem_append_right _ (List.mem_singleton.mpr rfl), fun _ ↦ rfl⟩
    · rw [hfinished]
      have hne : j ≠ r := Ne.symm hrj
      simp [succeed, hne]
  · rcases List.mem_append.mp hj with hold | hnew
    · exact h.ran j hold
    · exact List.mem_singleton.mp hnew ▸ hheld
  · cases hj
    exact hheld
  · obtain ⟨c', hc', hpoint, hkept⟩ := h.kept j hj
    refine ⟨_, update_get (s := s) hc', ?_⟩
    have hpending : s.Pending j → (s.succeed r).Pending j := by
      rintro (⟨hqueue, -⟩ | hholding)
      · exact .inl ⟨hqueue, rfl⟩
      · exact .inr (hholds.symm.trans hholding)
    split_ifs
    · exact ⟨hpoint, hkept.imp id hpending⟩
    · exact ⟨hpoint, hkept.imp id hpending⟩

theorem Lawful.takes (h : Lawful s) (hworker : s.worker = .getting)
    (ho : s.WorksOn .getting) (now : Double) (error : Option String) :
    Lawful (s.work now error) := by
  have hholds : s.worker.holds = none := by
    rw [hworker]
    rfl
  simp only [work, hworker]
  split
  · exact h.walks hworker rfl id fun hstarted ↦ by cases hstarted
  · rename_i rest hrequests
    refine h.leaves hholds (ho (by rw [hrequests]; rfl)) (fun entry hentry ↦ ?_) rfl rfl
    rw [hrequests]
    exact List.mem_cons_of_mem _ hentry
  · rename_i r rest hrequests
    have hqueued : ∀ {j}, some j ∈ rest → some j ∈ s.requests := by
      intro j hj
      rw [hrequests]
      exact List.mem_cons_of_mem _ hj
    refine h.moves rfl rfl rfl (fun hstarted ↦ (by cases hstarted))
      (fun j hj ↦ h.queued j (hqueued hj)) (fun j hj ↦ ?_) ?_
    · cases hj
      exact h.queued r (by rw [hrequests]; exact List.mem_cons_self)
    · rintro j c - (⟨hqueue, -⟩ | hholding)
      · rw [hrequests] at hqueue
        rcases List.mem_cons.mp hqueue with heq | hrest
        · cases heq
          exact .inr (.inr rfl)
        · exact .inr (.inl ⟨hrest, rfl⟩)
      · cases hholds.symm.trans hholding

theorem Lawful.completes (h : Lawful s) (hworker : s.worker = .completing r) (now : Double)
    (error : Option String) : Lawful (s.work now error) := by
  simp only [work, hworker]
  have htold : Lawful (s.setRequest r fun request ↦ { request with completed := true }) :=
    h.touches fun c _ ↦ ⟨rfl, rfl, rfl, fun _ ↦ rfl⟩
  refine htold.moves rfl rfl rfl (fun hstarted ↦ (by cases hstarted)) h.queued
    (fun j hj ↦ by cases hj) ?_
  rintro j c hc (⟨hqueue, -⟩ | hholding)
  · exact .inr (.inl ⟨hqueue, rfl⟩)
  · change s.worker.holds = some j at hholding
    rw [hworker] at hholding
    cases hholding
    obtain ⟨c', hc', rfl⟩ := get_update hc
    rw [if_pos rfl]
    exact .inl rfl

theorem Lawful.works (h : Lawful s) (ho : s.WorksOn s.worker) (now : Double)
    (error : Option String) : Lawful (s.work now error) := by
  cases hworker : s.worker with
  | starting =>
    simp only [work, hworker]
    cases error with
    | none => exact h.walks hworker rfl id fun hstarted ↦ by cases hstarted
    | some error => exact (h.withNode _).walks hworker rfl id fun _ ↦ rfl
  | failing detail =>
    simp only [work, hworker]
    exact (h.withNode _).walks hworker rfl id fun _ ↦ rfl
  | draining detail => exact h.drains hworker now error
  | shuttingDown =>
    simp only [work, hworker]
    have hended : Lawful (s.withWorker .ended) :=
      h.walks hworker rfl id fun hstarted ↦ by cases hstarted
    exact ⟨hended.fine, hended.finished, hended.ran, hended.unstarted, hended.queued, hended.held,
      hended.kept⟩
  | testing =>
    rw [hworker] at ho
    simp only [work, hworker]
    split_ifs with hstopping
    · exact h.leaves (by rw [hworker]; rfl) (ho hstopping) (fun _ hentry ↦ hentry) rfl rfl
    · exact h.walks hworker rfl id fun hstarted ↦ by cases hstarted
  | getting =>
    rw [hworker] at ho
    exact h.takes hworker ho now error
  | taken r =>
    simp only [work, hworker]
    exact h.begins hworker now
  | running r =>
    simp only [work, hworker]
    cases error <;> exact h.walks hworker rfl id fun hstarted ↦ by cases hstarted
  | checking r =>
    simp only [work, hworker]
    split_ifs
    · exact (h.tells _).walks hworker rfl id fun hstarted ↦ by cases hstarted
    · exact h.walks hworker rfl id fun hstarted ↦ by cases hstarted
  | switching r =>
    simp only [work, hworker]
    cases error <;> exact h.walks hworker rfl id fun hstarted ↦ by cases hstarted
  | succeeding r =>
    rw [hworker] at ho
    simp only [work, hworker]
    exact h.succeeds hworker ho
  | handling r message =>
    simp only [work, hworker]
    exact (h.tells _).walks hworker rfl id fun hstarted ↦ by cases hstarted
  | releasing r =>
    simp only [work, hworker]
    have hcleared : Lawful (s.withWorker (.clearing r)) :=
      h.walks hworker rfl id fun hstarted ↦ by cases hstarted
    exact ⟨hcleared.fine, hcleared.finished, hcleared.ran, hcleared.unstarted, hcleared.queued,
      hcleared.held, hcleared.kept⟩
  | clearing r =>
    simp only [work, hworker]
    exact (h.withNode _).walks hworker rfl id fun hstarted ↦ by cases hstarted
  | completing r => exact h.completes hworker now error
  | ended =>
    simp only [work, hworker]
    exact h

theorem Lawful.calls (h : Lawful s) {request : CommandRequest} (hsuccess : request.success = false)
    (hcanceled : request.canceled = false) : Lawful (s.call request) := by
  have hold : ∀ {j : ℕ} {c : Caller}, s.callers[j]? = some c →
      (s.call request).callers[j]? = some c := by
    intro j c hc
    rw [call, List.getElem?_append_left (List.getElem?_eq_some_iff.mp hc).1]
    exact hc
  have hnew : ∀ {j : ℕ} {c : Caller}, (s.call request).callers[j]? = some c →
      s.callers[j]? = some c ∨ (j = s.callers.length ∧ c = { request := request }) := by
    intro j c hc
    rcases Nat.lt_trichotomy j s.callers.length with hlt | rfl | hgt
    · rw [call, List.getElem?_append_left hlt] at hc
      exact .inl hc
    · rw [call, List.getElem?_concat_length] at hc
      exact .inr ⟨rfl, (Option.some.inj hc).symm⟩
    · rw [call, List.getElem?_eq_none (by simp; omega)] at hc
      cases hc
  refine ⟨fun j c hc ↦ ?_, fun j c hc ↦ ?_, h.ran, h.unstarted, h.queued, h.held, fun j hj ↦ ?_⟩
  · rcases hnew hc with hc | ⟨-, rfl⟩
    · exact h.fine j c hc
    · refine ⟨rfl, rfl, fun hmarked ↦ ?_⟩
      cases hcanceled.symm.trans hmarked
  · rcases hnew hc with hc | ⟨rfl, rfl⟩
    · exact h.finished j c hc
    · refine ⟨fun hdone ↦ ?_, fun hran ↦ ?_⟩
      · cases hsuccess.symm.trans hdone
      · obtain ⟨c, hc, -⟩ := h.kept _ (h.ran _ hran)
        have hlt := (List.getElem?_eq_some_iff.mp hc).1
        exact absurd hlt (Nat.lt_irrefl _)
  · obtain ⟨c, hc, hpoint, hkept⟩ := h.kept j hj
    exact ⟨c, hold hc, hpoint, hkept⟩

theorem Lawful.accepts (h : Lawful s) (hc : s.callers[r]? = some c)
    (hpoint : c.point.queued = true) (hserves : s.worker.serves = true) :
    Lawful (s.accept r) := by
  refine ⟨h.fine, h.finished, fun j hj ↦ List.mem_append_left _ (h.ran j hj), h.unstarted,
    fun j hj ↦ ?_, fun j hj ↦ List.mem_append_left _ (h.held j hj), fun j hj ↦ ?_⟩
  · rcases List.mem_append.mp hj with hold | hnew
    · exact List.mem_append_left _ (h.queued j hold)
    · cases List.mem_singleton.mp hnew
      exact List.mem_append_right _ (List.mem_singleton.mpr rfl)
  · have hpending : ∀ {j}, s.Pending j → (s.accept r).Pending j := by
      rintro j (⟨hqueue, hworker⟩ | hholding)
      · exact .inl ⟨List.mem_append_left _ hqueue, hworker⟩
      · exact .inr hholding
    rcases List.mem_append.mp hj with hold | hnew
    · obtain ⟨c', hc', hpoint', hkept⟩ := h.kept j hold
      exact ⟨c', hc', hpoint', hkept.imp id hpending⟩
    · cases List.mem_singleton.mp hnew
      exact ⟨c, hc, hpoint, .inr (.inl ⟨List.mem_append_right _ (List.mem_singleton.mpr rfl),
        hserves⟩)⟩

theorem Lawful.unfinished (h : Lawful s) (hc : s.callers[r]? = some c)
    (hpoint : c.point.queued = false) : c.request.success = false := by
  have hnot : ¬ c.request.success = true := by
    intro hsuccess
    obtain ⟨c', hc', hqueued, -⟩ := h.kept r (h.ran r ((h.finished r c hc).mp hsuccess))
    obtain rfl := Option.some.inj (hc.symm.trans hc')
    cases hpoint.symm.trans hqueued
  simpa using hnot

theorem Lawful.enqueues {position : EnqueuePosition} (h : Lawful s)
    (hc : s.callers[r]? = some c) (hpoint : c.point = .enqueuing position) (now : Double)
    (hserves : position = .put → s.requests.length < queueSize → s.worker.serves = true) :
    Lawful (s.enqueueSection r c position now) := by
  have halike := alike_proceed s.view ⟨position, c.request⟩ now
  have hfine := h.fine r c hc
  have hunqueued : c.point.queued = false := by
    rw [hpoint]
    rfl
  have hsuccess := h.unfinished hc hunqueued
  obtain ⟨hcalls, hresult, hcanceled⟩ : c.calls = [] ∧ c.result = none ∧
      (c.request.canceled = true → c.cancelRequested = true ∧ c.request.success = false) := by
    unfold Caller.Fine at hfine
    rw [hpoint] at hfine
    exact hfine
  have hself : ∀ {c'}, s.callers[r]? = some c' → c' = c := fun hc' ↦
    Option.some.inj (hc'.symm.trans hc)
  unfold enqueueSection
  cases hproceed : (s.view.proceed ⟨position, c.request⟩ now).2 with
  | continues call =>
    rw [hproceed] at halike
    refine h.update fun c' hc' ↦ ?_
    obtain rfl := hself hc'
    refine ⟨⟨hcalls, hresult, fun hmarked ↦ ?_⟩, halike.success, fun hqueued ↦ ?_,
      halike.completed⟩
    · obtain ⟨hasked, -⟩ := hcanceled (halike.canceled.symm.trans hmarked)
      exact ⟨hasked, halike.success.trans hsuccess⟩
    · cases hunqueued.symm.trans hqueued
  | ended request queued =>
    rw [hproceed] at halike
    have hsuccess' : request.success = false := halike.success.trans hsuccess
    have hmoved : Lawful (s.update r fun c ↦ c.enqueued request queued) := by
      refine h.update fun c' hc' ↦ ?_
      obtain rfl := hself hc'
      refine ⟨?_, halike.success, fun hqueued ↦ ?_, halike.completed⟩
      · cases hhandle : request.goalHandle with
        | false =>
          simp only [Caller.enqueued, hhandle, if_true]
          exact .inl ⟨hhandle, hcalls, hresult⟩
        | true =>
          cases queued with
          | false =>
            simp only [Caller.enqueued, hhandle]
            exact ⟨hcalls, hresult, hsuccess'⟩
          | true =>
            simp only [Caller.enqueued, hhandle]
            refine ⟨hcalls, hresult, fun hmarked ↦ ?_⟩
            obtain ⟨hasked, -⟩ := hcanceled (halike.canceled.symm.trans hmarked)
            exact ⟨hasked, hsuccess'⟩
      · cases hunqueued.symm.trans hqueued
    cases queued with
    | false => exact hmoved
    | true =>
      obtain ⟨hput, hroom⟩ := proceed_queued hproceed
      have hroom' : s.requests.length < queueSize := by simpa [view] using hroom
      refine hmoved.accepts (update_get hc) ?_ (hserves hput hroom')
      rw [if_pos rfl]
      unfold Caller.enqueued
      cases request.goalHandle <;> rfl

theorem Lawful.advances (h : Lawful s) {now : Double} (ho : s.Orderly (.advance r now)) :
    Lawful (s.advanceCaller r now) := by
  obtain ⟨hmarks, htime⟩ := ho
  change MarksOwn s (s.advanceCaller r now) at hmarks
  unfold advanceCaller at hmarks ⊢
  cases hc : s.callers[r]? with
  | none => exact h
  | some c =>
    rw [hc] at hmarks
    dsimp only at hmarks ⊢
    cases hpoint : c.point with
    | enqueuing position =>
      refine h.enqueues hc hpoint now fun hput hroom ↦ ?_
      exact htime c hc (hpoint.trans (congrArg _ hput)) hroom
    | _ =>
      rw [hpoint] at hmarks
      refine h.update fun c' hc' ↦ ?_
      obtain rfl := Option.some.inj (hc'.symm.trans hc)
      obtain ⟨hsuccess, hcompleted⟩ := c'.advance_request s.rclpyOk
      refine ⟨(h.fine r c' hc).advances fun hundecided hbefore hafter ↦ ?_, hsuccess,
        Caller.advance_queued s.rclpyOk, hcompleted.trans⟩
      have hc'' : (s.update r (·.advance s.rclpyOk)).callers[r]? =
          some (c'.advance s.rclpyOk) := by
        rw [update_get hc, if_pos rfl]
      exact (hmarks.get hc hc'' hundecided hbefore hafter).2

theorem Lawful.withCallbacks (h : Lawful s)
    (callbacks : List (Callback Unit AuthorityTask)) :
    Lawful { s with callbacks := callbacks } :=
  ⟨h.fine, h.finished, h.ran, h.unstarted, h.queued, h.held, h.kept⟩

theorem Lawful.withClosing (h : Lawful s) (closing : ClosePoint) :
    Lawful { s with closing := closing } :=
  ⟨h.fine, h.finished, h.ran, h.unstarted, h.queued, h.held, h.kept⟩

theorem stays_close (n : SessionOrchestrator) :
    Stays n { n with activeRequest := n.activeRequest.map closeRequest } := by
  intro request request' hn hn'
  simp only [hn, Option.map_some, Option.some.injEq] at hn'
  subst hn'
  exact ⟨rfl, rfl, rfl, fun _ ↦ rfl⟩

theorem Lawful.closes (h : Lawful s) (hmarks : MarksOwn s s.close) : Lawful s.close := by
  unfold close at hmarks ⊢
  cases hclosing : s.closing with
  | stopping => exact (h.withNode _).withClosing _
  | canceling =>
    rw [hclosing] at hmarks
    exact (h.adopts (stays_close s.view) hmarks).withClosing _
  | waking =>
    refine Lawful.withClosing (s := s.withRequests _) ?_ _
    refine h.moves rfl rfl rfl id (fun r hr ↦ ?_) h.held ?_
    · simp only [withRequests] at hr
      split_ifs at hr
      · rcases List.mem_append.mp hr with hold | hnew
        · exact h.queued r hold
        · cases List.mem_singleton.mp hnew
      · exact h.queued r hr
    · rintro r c - (⟨hqueue, hworker⟩ | hholding)
      · refine .inr (.inl ⟨?_, hworker⟩)
        simp only [withRequests]
        split_ifs
        · exact List.mem_append_left _ hqueue
        · exact hqueue
      · exact .inr (.inr hholding)
  | done => exact h

theorem stays_advance (s : SessionGoals) (i : ℕ) :
    Stays s.view (Interleaving.advance perform s.view s.callbacks i).1 := by
  rw [advance_state]
  cases next s.callbacks i with
  | none => exact .of_eq rfl
  | some task => exact stays_perform s.view task

theorem stays_receive (n : SessionOrchestrator) (m : AuthorityMessage) :
    Stays n (n.receive m).1 := by
  unfold receive
  dsimp only
  split_ifs <;> exact .of_eq rfl

theorem stays_checkAuthorityLease (n : SessionOrchestrator) (now : Double) :
    Stays n (n.checkAuthorityLease now).1 := by
  unfold checkAuthorityLease
  split_ifs <;> exact .of_eq rfl

theorem Lawful.step {e : SessionGoalEvent} (h : Lawful s) (ho : s.Orderly e) :
    Lawful (s.step e).1 := by
  have hmarks := ho.1
  cases e with
  | goal command => exact h.calls rfl rfl
  | speak command => exact h.calls rfl rfl
  | advance r now => exact h.advances ho
  | cancel r => exact h.update fun c hc ↦ ⟨(h.fine r c hc).asked, rfl, id, id⟩
  | speakCancel => exact h.adopts (stays_cancel s.view none) hmarks
  | work now error => exact h.works ho.2 now error
  | write => exact h.withNode _
  | message m => exact (h.adopts (stays_receive s.view m) hmarks).withCallbacks _
  | run i => exact (h.adopts (stays_advance s i) hmarks).withCallbacks _
  | leaseTimer now =>
    exact (h.adopts (stays_checkAuthorityLease s.view now) hmarks).withCallbacks _
  | childTimer owner code =>
    exact (h.adopts (.of_eq rfl) hmarks).withCallbacks _
  | barrier op => exact h.withNode _
  | close => exact h.closes hmarks
  | shutdown => exact ⟨h.fine, h.finished, h.ran, h.unstarted, h.queued, h.held, h.kept⟩

/-- Every goal is ended once, as its command ended, and no accepted request is given up. -/
structure Sound (s : SessionGoals) : Prop where
  once : ∀ c ∈ s.callers, c.request.goalHandle = true →
    c.calls.length ≤ 1 ∧ (c.point = .returned → c.calls.length = 1)
  legal : ∀ c ∈ s.callers, .canceled ∈ c.calls → c.cancelRequested = true
  honest : ∀ (r : ℕ) (c : Caller) (result : ActionResult), s.callers[r]? = some c →
    c.result = some result → (result.success = true ↔ r ∈ s.finished)
  kept : ∀ r ∈ s.accepted, ∃ c : Caller, s.callers[r]? = some c ∧
    (c.request.completed = true ∨ s.Pending r)

theorem Lawful.sound (h : Lawful s) : Sound s := by
  have hfine : ∀ c ∈ s.callers, c.Fine := by
    intro c hc
    obtain ⟨r, hr⟩ := List.getElem?_of_mem hc
    exact h.fine r c hr
  refine ⟨fun c hc hhandle ↦ ?_, fun c hc hcall ↦ ?_, fun r c result hr hresult ↦ ?_,
    fun r hr ↦ ?_⟩
  · obtain ⟨hlength, hreturned⟩ := (hfine c hc).calls
    exact ⟨hlength, hreturned hhandle⟩
  · exact (hfine c hc).legal hcall
  · rw [← h.finished r c hr, (h.fine r c hr).honest hresult]
  · obtain ⟨c, hc, -, hkept⟩ := h.kept r hr
    exact ⟨c, hc, hkept⟩

theorem lawful_start (n : SessionOrchestrator) (persistent : Bool) :
    Lawful { node := n, persistentRuntimeEnabled := persistent } := by
  refine ⟨fun r c hc ↦ ?_, fun r c hc ↦ ?_, fun r hr ↦ ?_, fun _ ↦ rfl, fun r hr ↦ ?_,
    fun r hr ↦ ?_, fun r hr ↦ ?_⟩
  · cases hc
  · cases hc
  · cases hr
  · cases hr
  · cases hr
  · cases hr

theorem goals_settle (n : SessionOrchestrator) (persistent : Bool) (h : List SessionGoalEvent)
    (ho : Along step Orderly { node := n, persistentRuntimeEnabled := persistent } h) :
    Sound (run step { node := n, persistentRuntimeEnabled := persistent } h) :=
  (ho.preserves step (I := Lawful) (fun _ _ he hs ↦ hs.step he) (lawful_start n persistent)).sound

end Runs

def executed (command : SessionCommand) : List SessionGoalEvent :=
  [.work 0 none, .goal command] ++ List.replicate 5 (.advance 0 0) ++
    List.replicate 3 (.work 0 none)

def settled (message : String) : List SessionGoalEvent :=
  .work 0 (some message) :: List.replicate 4 (.work 0 none) ++ List.replicate 6 (.advance 0 0)

def ungated : SessionOrchestrator := { mapped with authorityGateEnabled := false }

def clientCancels : List SessionGoalEvent :=
  executed .runAutomaticMission ++ .cancel 0 :: List.replicate 3 (.advance 0 0) ++
    settled "automatic mission canceled"

theorem goals_settle_when_client_cancels :
    Sound (run step { node := ungated, persistentRuntimeEnabled := true } clientCancels) :=
  goals_settle ungated true clientCancels (by decide +kernel)

def voiceCancels : List SessionGoalEvent :=
  executed .runAutomaticMission ++ .speakCancel :: settled "automatic mission canceled"

/-- The goal of a mission that is canceled by voice ends in `canceled` without its client. -/
theorem voice_cancels_goal :
    ¬ ∀ n persistent h,
      Sound (run step { node := n, persistentRuntimeEnabled := persistent } h) := by
  intro hall
  have hlegal := (hall ungated true voiceCancels).legal
  obtain ⟨c, hc, hcall, hasked⟩ :
      ∃ c ∈ (run step { node := ungated, persistentRuntimeEnabled := true } voiceCancels).callers,
        .canceled ∈ c.calls ∧ c.cancelRequested = false := by
    decide +kernel
  cases hasked.symm.trans (hlegal c hc hcall)

end SessionGoals

end EmbodiedAgent.Slam
