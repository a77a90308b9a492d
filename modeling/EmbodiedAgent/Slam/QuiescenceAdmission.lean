import EmbodiedAgent.Slam.AuthorityOrder
import EmbodiedAgent.Slam.QuiescenceSteps

namespace EmbodiedAgent.Slam.SessionOrchestrator

open Library Library.History Library.Interleaving

/-- The section of `_enqueue` that a call comes to next. -/
inductive EnqueuePosition
  | stopping | barrier | operation | admission | put
  deriving DecidableEq

structure EnqueueCall where
  position : EnqueuePosition := .stopping
  request : CommandRequest

inductive EnqueueProgress
  | continues (call : EnqueueCall)
  | ended (request : CommandRequest) (queued : Bool)

/-- One section of `_enqueue`. -/
def proceed (n : SessionOrchestrator) (call : EnqueueCall) (now : Double) :
    SessionOrchestrator × EnqueueProgress :=
  match call.position with
  | .stopping =>
    (n, if n.stopping then .ended (call.request.refuse "session is stopping") false
      else .continues { call with position := .barrier })
  | .barrier =>
    (n, if n.autonomyQuiescence.active then
        .ended (call.request.refuse "autonomy quiescence is still in progress") false
      else .continues { call with position := .operation })
  | .operation =>
    (n, if n.operationActive then .ended call.request false
      else .continues { call with position := .admission })
  | .admission =>
    let admitted := n.admission call.request now
    (n, if admitted.2 then .continues { position := .put, request := admitted.1 }
      else .ended admitted.1 false)
  | .put =>
    let put := n.put call.request
    (put.1, .ended put.2.1 put.2.2)

inductive SessionWorker
  | starting | draining | waiting
  | taken (request : CommandRequest)
  | executing | ended
  deriving DecidableEq

/-- The node with the callbacks, the calls of `_enqueue` and the worker that run on it. -/
structure AdmissionState where
  node : SessionOrchestrator
  callbacks : List (Callback Unit AuthorityTask) := []
  calls : List EnqueueCall := []
  worker : SessionWorker := .starting

inductive AdmissionEvent
  | message (m : AuthorityMessage)
  | run (i : ℕ)
  | ask (command : SessionCommand) (source : String) (goalHandle : Bool)
  | proceed (i : ℕ) (now : Double)
  | started
  | startFailed
  | drain
  | take
  | execute (now : Double)
  | write (fsm : SessionSnapshot) (outcome : MissionOutcome) (message : String)
  | finish
  | barrier (op : AutonomyQuiescenceBarrier.Operation)

namespace AdmissionState

variable (s : AdmissionState)

def writing : Bool := s.worker = .starting || s.worker = .draining || s.worker = .executing

def step : AdmissionEvent → AdmissionState × Unit
  | .message m =>
    ({ s with
        node := (s.node.receive m).1
        callbacks := s.callbacks ++ [⟨(), (s.node.receive m).2⟩] }, ())
  | .run i =>
    let advanced := advance perform s.node s.callbacks i
    ({ s with node := advanced.1, callbacks := advanced.2.1 }, ())
  | .ask command source goalHandle =>
    ({ s with calls := s.calls ++ [{ request :=
        { command := command, source := source, goalHandle := goalHandle } }] }, ())
  | .proceed i now =>
    match s.calls[i]? with
    | none => (s, ())
    | some call =>
      let result := s.node.proceed call now
      match result.2 with
      | .continues call' => ({ s with node := result.1, calls := s.calls.set i call' }, ())
      | .ended _ _ => ({ s with node := result.1, calls := s.calls.eraseIdx i }, ())
  | .started => (if s.worker = .starting then { s with worker := .waiting } else s, ())
  | .startFailed =>
    (if s.worker = .starting then
      { s with node := { s.node with stopping := true }, worker := .draining } else s, ())
  | .drain =>
    (if s.worker = .draining then
      { s with
        node := { s.node with requests := s.node.requests.tail }
        worker := if s.node.requests = [] then .ended else .draining } else s, ())
  | .take =>
    match s.worker, s.node.requests with
    | .waiting, none :: rest =>
      ({ s with node := { s.node with requests := rest }, worker := .ended }, ())
    | .waiting, some request :: rest =>
      ({ s with node := { s.node with requests := rest }, worker := .taken request }, ())
    | _, _ => (s, ())
  | .execute now =>
    match s.worker with
    | .taken request =>
      let begun := s.node.beginRequest request now
      ({ s with node := begun.1, worker := if begun.2.2 then .executing else .waiting }, ())
    | _ => (s, ())
  | .write fsm outcome message =>
    (if s.writing then { s with node := { s.node with
        fsm := fsm
        missionOutcome := outcome
        missionMessage := message } } else s, ())
  | .finish =>
    (if s.worker = .executing then { s with
        node := { s.node with activeRequest := none, operationActive := false }
        worker := .waiting } else s, ())
  | .barrier (.begin _ _) => (s, ())
  | .barrier op =>
    ({ s with node := s.node.withBarrier (s.node.autonomyQuiescence.step op).1 }, ())

def waiting : List CommandRequest :=
  s.node.requests.filterMap id ++
    match s.worker with
    | .taken request => [request]
    | _ => []

def StartsAtRest : AdmissionEvent → Prop
  | .execute now => ∀ request, s.worker = .taken request → request.command ≠ .stopSession →
      (s.node.beginRequest request now).2.2 = true → s.node.autonomyQuiescence.active = false
  | _ => True

def NothingOnItsWay : Prop :=
  (∀ call ∈ s.calls, call.request.command ≠ .stopSession →
    call.position = .stopping ∨ call.position = .barrier) ∧
  ∀ request ∈ s.waiting, request.command ≠ .stopSession →
    request.command = .runAutomaticMission ∧
      s.node.authorityLease.authority ≠ AuthoritySnapshot.autonomy

instance : Decidable s.NothingOnItsWay := inferInstanceAs (Decidable (_ ∧ _))

def beginning : Option AuthorityTask → Option Identified
  | some (.begin c) => some c
  | _ => none

/-- A quiescence that begins finds nothing on its way. -/
def BeginsInTime : AdmissionEvent → Prop
  | .run i => ∀ c ∈ beginning (next s.callbacks i),
      (s.node.autonomyQuiescence.begin c.identity (some c.explorerRunning)).2 = .ok true →
      s.NothingOnItsWay
  | _ => True

instance : (e : AdmissionEvent) → Decidable (s.BeginsInTime e)
  | .run i => inferInstanceAs (Decidable (∀ c ∈ beginning (next s.callbacks i),
      (s.node.autonomyQuiescence.begin c.identity (some c.explorerRunning)).2 = .ok true →
      s.NothingOnItsWay))
  | .message _ | .ask _ _ _ | .proceed _ _ | .started | .startFailed | .drain | .take
  | .execute _ | .write _ _ _ | .finish | .barrier _ => .isTrue trivial

end AdmissionState

variable {n : SessionOrchestrator} {task : AuthorityTask} {request : CommandRequest}

def barrierCall : AuthorityTask → Option AutonomyQuiescenceBarrier.Operation
  | .observeActive c =>
    some (.observeAuthority c.identity (decide (c.authority = AuthoritySnapshot.autonomy)))
  | .testFailed _ => some .snapshot
  | .observe c => some (.observeAuthority c.identity false)
  | .begin c => some (.begin c.identity (some c.explorerRunning))
  | .failBarrier reason => some (.fail reason)
  | _ => none

theorem perform_barrier (n : SessionOrchestrator) (task : AuthorityTask) :
    (perform n task).1.autonomyQuiescence = (barrierCall task).elim n.autonomyQuiescence
      fun op ↦ (n.autonomyQuiescence.step op).1 := by
  cases task with
  | report | clearReport | testActive c | readMission c | quiescing c | startWorker c
  | testIdentity c | failOutcome reason | failTransition reason | childFailure detail
  | childTransition detail => rfl
  | testFailed c => rfl
  | publish c =>
    rw [publish_inside]
    rfl
  | observeActive c | observe c | «begin» c =>
    simp only [perform, barrierCall, Option.elim_some, AutonomyQuiescenceBarrier.step,
      AutonomyQuiescenceBarrier.Outcome.answer]
    split <;> simp_all [withBarrier]
  | failBarrier reason => rfl
  | cancel identity =>
    simp only [perform, barrierCall, Option.elim_none, cancelActiveAutomaticMission]
    split
    · rfl
    · split_ifs <;> rfl

theorem step_stays_inactive {b : AutonomyQuiescenceBarrier}
    {op : AutonomyQuiescenceBarrier.Operation} (hb : b.active = false)
    (hop : ¬ AutonomyQuiescenceBarrier.Begins b op) : (b.step op).1.active = false := by
  rcases AutonomyQuiescenceBarrier.step_inactive op hb with ⟨-, hstate | hstate⟩ | ⟨hbegins, -⟩
  · rw [AutonomyQuiescenceBarrier.active_congr hstate, hb]
  · rw [AutonomyQuiescenceBarrier.active, hstate]
  · exact absurd hbegins hop

theorem perform_active (hafter : (perform n task).1.autonomyQuiescence.active = true) :
    n.autonomyQuiescence.active = true ∨ ∃ c, task = .begin c ∧
      (n.autonomyQuiescence.begin c.identity (some c.explorerRunning)).2 = .ok true := by
  by_contra hnone
  obtain ⟨hactive, hbegin⟩ := not_or.mp hnone
  have hb : n.autonomyQuiescence.active = false := by simpa using hactive
  have hcall : ∀ op, barrierCall task = some op →
      ¬ AutonomyQuiescenceBarrier.Begins n.autonomyQuiescence op := by
    rintro op hop hbegins
    obtain ⟨identity, required, rfl⟩ := hbegins.1
    cases task with
    | «begin» c =>
      obtain ⟨rfl, rfl⟩ : c.identity = identity ∧ some c.explorerRunning = required := by
        simpa [barrierCall] using hop
      exact hbegin ⟨c, rfl, AutonomyQuiescenceBarrier.begins_iff.mp hbegins⟩
    | _ => simp [barrierCall] at hop
  rw [perform_barrier] at hafter
  cases hop : barrierCall task with
  | none =>
    rw [hop, Option.elim_none, hb] at hafter
    cases hafter
  | some op =>
    rw [hop, Option.elim_some, step_stays_inactive hb (hcall op hop)] at hafter
    cases hafter

theorem update_generation (l : ControlAuthorityLease) (snapshot : AuthoritySnapshot) (t : Double) :
    l.generation < (l.update snapshot t).1.generation ∨
      ((l.update snapshot t).1.generation = l.generation ∧
        (l.update snapshot t).1.authority = l.authority) := by
  unfold ControlAuthorityLease.update
  by_cases hvalid : (!ControlAuthorityLease.payloadIsValid snapshot) = true
  · rw [if_pos hvalid]
    exact .inr ⟨rfl, rfl⟩
  rw [if_neg hvalid]
  have haccept : ∀ (l' : ControlAuthorityLease) decision discontinuity,
      l'.generation = l.generation →
        l.generation < (l'.accept snapshot t decision true discontinuity).1.generation := by
    intro l' decision discontinuity hgeneration
    rw [← hgeneration]
    exact Nat.lt_succ_self _
  split
  · split_ifs
    · exact .inr ⟨rfl, rfl⟩
    · exact .inr ⟨rfl, rfl⟩
    · exact .inr ⟨rfl, rfl⟩
    · exact .inl (haccept _ _ _ rfl)
    · exact .inr ⟨rfl, rfl⟩
    · exact .inr ⟨rfl, rfl⟩
    · exact .inr ⟨rfl, rfl⟩
    · exact .inr ⟨rfl, rfl⟩
    · exact .inl (haccept _ _ _ rfl)
  · exact .inl (haccept _ _ _ rfl)

def Bound (n : SessionOrchestrator) (request : CommandRequest) : Prop :=
  n.authorityGateEnabled = true → request.command = .runAutomaticMission →
    ∃ g, request.authorityGeneration = some g ∧ g ≤ n.authorityLease.generation ∧
      (g = n.authorityLease.generation → n.authorityLease.authority = AuthoritySnapshot.autonomy)

def Outdated (n : SessionOrchestrator) (request : CommandRequest) : Prop :=
  request.command ≠ .stopSession → request.command = .runAutomaticMission ∧
    ∃ g, request.authorityGeneration = some g ∧ g < n.authorityLease.generation

structure Fenced (s : AdmissionState) : Prop where
  gate : s.node.autonomyQuiescence.active = true ∨ outstanding s.callbacks ≠ [] →
    s.node.authorityGateEnabled = true
  waiting : ∀ request ∈ s.waiting, Bound s.node request
  putting : ∀ call ∈ s.calls, call.position = .put → Bound s.node call.request
  calls : s.node.autonomyQuiescence.active = true → ∀ call ∈ s.calls,
    call.request.command ≠ .stopSession → call.position = .stopping ∨ call.position = .barrier
  outdated : s.node.autonomyQuiescence.active = true →
    ∀ request ∈ s.waiting, Outdated s.node request

theorem Bound.later {n n' : SessionOrchestrator} (h : Bound n request)
    (hgate : n'.authorityGateEnabled = n.authorityGateEnabled)
    (hlease : n.authorityLease.generation < n'.authorityLease.generation ∨
      (n'.authorityLease.generation = n.authorityLease.generation ∧
        n'.authorityLease.authority = n.authorityLease.authority)) : Bound n' request := by
  intro hgated hcommand
  obtain ⟨g, hg, hle, hauthority⟩ := h (hgate ▸ hgated) hcommand
  rcases hlease with hlt | ⟨hsame, hkept⟩
  · exact ⟨g, hg, by omega, fun heq ↦ by omega⟩
  · exact ⟨g, hg, hsame ▸ hle, fun heq ↦ hkept.trans (hauthority (heq.trans hsame))⟩

structure Shrinks (s s' : AdmissionState) : Prop where
  gate : s'.node.authorityGateEnabled = s.node.authorityGateEnabled
  lease : s.node.authorityLease.generation < s'.node.authorityLease.generation ∨
    (s'.node.authorityLease.generation = s.node.authorityLease.generation ∧
      s'.node.authorityLease.authority = s.node.authorityLease.authority)
  active : s'.node.autonomyQuiescence.active = true → s.node.autonomyQuiescence.active = true
  tasks : outstanding s'.callbacks ≠ [] →
    outstanding s.callbacks ≠ [] ∨ s.node.authorityGateEnabled = true
  waiting : s'.waiting ⊆ s.waiting
  calls : s'.calls ⊆ s.calls

theorem Fenced.shrinks {s s' : AdmissionState} (h : Fenced s) (hs : Shrinks s s') : Fenced s' := by
  refine ⟨?_, ?_, ?_, ?_, ?_⟩
  · rw [hs.gate]
    rintro (hactive | htasks)
    · exact h.gate (.inl (hs.active hactive))
    · exact (hs.tasks htasks).elim (fun hold ↦ h.gate (.inr hold)) id
  · exact fun request hrequest ↦ (h.waiting request (hs.waiting hrequest)).later hs.gate hs.lease
  · exact fun call hcall hput ↦ (h.putting call (hs.calls hcall) hput).later hs.gate hs.lease
  · exact fun hactive call hcall ↦ h.calls (hs.active hactive) call (hs.calls hcall)
  · intro hactive request hrequest hguarded
    obtain ⟨hcommand, g, hg, hlt⟩ :=
      h.outdated (hs.active hactive) request (hs.waiting hrequest) hguarded
    refine ⟨hcommand, g, hg, ?_⟩
    rcases hs.lease with hlease | ⟨hlease, -⟩ <;> omega

theorem receive_generation (n : SessionOrchestrator) (m : AuthorityMessage) :
    n.authorityLease.generation < (n.receive m).1.authorityLease.generation ∨
      ((n.receive m).1.authorityLease.generation = n.authorityLease.generation ∧
        (n.receive m).1.authorityLease.authority = n.authorityLease.authority) := by
  unfold receive
  split_ifs
  · exact .inr ⟨rfl, rfl⟩
  · exact update_generation n.authorityLease m.snapshot m.receivedAt

theorem Fenced.message {s : AdmissionState} (h : Fenced s) (m : AuthorityMessage) :
    Fenced (s.step (.message m)).1 := by
  have hnode := receive_withLease s.node m
  refine h.shrinks ⟨?_, receive_generation s.node m, ?_, ?_, ?_, List.Subset.refl _⟩
  · change (s.node.receive m).1.authorityGateEnabled = _
    rw [hnode]
    rfl
  · change (s.node.receive m).1.autonomyQuiescence.active = true → _
    rw [hnode]
    exact id
  · intro htasks
    by_cases hgate : s.node.authorityGateEnabled = true
    · exact .inr hgate
    · left
      have hcalls : (s.node.receive m).2 = [] := by
        rw [receive, if_pos (by simpa using hgate)]
      simpa [AdmissionState.step, outstanding, hcalls] using htasks
  · change AdmissionState.waiting { s with node := (s.node.receive m).1 } ⊆ _
    rw [hnode]
    exact List.Subset.refl _

theorem requests_perform (n : SessionOrchestrator) (task : AuthorityTask) :
    (perform n task).1.requests = n.requests := by
  by_cases hreaction : stage task = 2
  · exact congrArg Surroundings.requests (surroundings_perform hreaction n)
  · cases task with
    | report | clearReport => rfl
    | publish c =>
      rw [publish_inside]
      rfl
    | _ => exact absurd rfl hreaction

theorem Fenced.run {s : AdmissionState} {i : ℕ} (h : Fenced s) (hi : s.BeginsInTime (.run i)) :
    Fenced (s.step (.run i)).1 := by
  have hadvanced : (s.step (.run i)).1 = { s with
      node := (advance perform s.node s.callbacks i).1
      callbacks := (advance perform s.node s.callbacks i).2.1 } := rfl
  rw [hadvanced]
  rcases advance_split perform s.node s.callbacks i with
    ⟨hnode, -, hrest⟩ | ⟨task, rest, hnext, hall, hnode, -, hrest⟩
  · rw [hnode]
    refine h.shrinks ⟨rfl, .inr ⟨rfl, rfl⟩, id, ?_, List.Subset.refl _, List.Subset.refl _⟩
    rw [hrest]
    exact .inl
  rw [hnode]
  obtain ⟨hlease, hgate⟩ := lease_perform s.node task
  have hrequests := requests_perform s.node task
  have hgated : s.node.authorityGateEnabled = true := by
    refine h.gate (.inr ?_)
    rw [hall]
    simp
  have hwaiting : AdmissionState.waiting { s with
      node := (perform s.node task).1
      callbacks := (advance perform s.node s.callbacks i).2.1 } = s.waiting := by
    simp only [AdmissionState.waiting, hrequests]
  by_cases hbegins : ∃ c, task = .begin c ∧
      (s.node.autonomyQuiescence.begin c.identity (some c.explorerRunning)).2 = .ok true
  · obtain ⟨c, rfl, hanswer⟩ := hbegins
    obtain ⟨hcalls, hrequest⟩ := hi c (by rw [hnext]; rfl) hanswer
    refine ⟨fun _ ↦ hgate.trans hgated, ?_, ?_, fun _ ↦ hcalls, ?_⟩
    · rw [hwaiting]
      exact fun request hmem ↦ (h.waiting request hmem).later hgate
        (.inr ⟨by rw [hlease], by rw [hlease]⟩)
    · exact fun call hcall hput ↦ (h.putting call hcall hput).later hgate
        (.inr ⟨by rw [hlease], by rw [hlease]⟩)
    · rw [hwaiting]
      intro _ request hmem hguarded
      obtain ⟨hcommand, hrevoked⟩ := hrequest request hmem hguarded
      obtain ⟨g, hg, hle, hauthority⟩ := h.waiting request hmem hgated hcommand
      refine ⟨hcommand, g, hg, ?_⟩
      rw [hlease]
      exact lt_of_le_of_ne hle fun heq ↦ hrevoked (hauthority heq)
  · refine h.shrinks ⟨hgate, .inr ⟨by rw [hlease], by rw [hlease]⟩, ?_, fun _ ↦ .inr hgated,
      by rw [hwaiting]; exact List.Subset.refl _, List.Subset.refl _⟩
    exact fun hafter ↦ (perform_active hafter).resolve_right hbegins

theorem admit_bound {n : SessionOrchestrator} {now : Double}
    (h : (n.admission request now).2 = true) :
    (n.admission request now).1.command = request.command ∧
      Bound n (n.admission request now).1 := by
  unfold admission at h ⊢
  by_cases hneeds : n.needsAuthority request = true
  · by_cases hfresh : n.authorityLease.freshAutonomy now = true
    · have hauthority : n.authorityLease.authority = AuthoritySnapshot.autonomy := by
        simp only [ControlAuthorityLease.freshAutonomy, Bool.and_eq_true, decide_eq_true_eq]
          at hfresh
        exact hfresh.2
      simp only [hneeds, hfresh, Bool.not_true, Bool.and_false, Bool.false_eq_true, if_false,
        if_true] at h ⊢
      split at h
      · exact ⟨rfl, fun _ _ ↦ ⟨_, rfl, le_rfl, fun _ ↦ hauthority⟩⟩
      · cases h
    · simp only [hneeds, hfresh, Bool.not_false, Bool.and_true, if_true] at h
      cases h
  · simp only [hneeds, Bool.false_and, Bool.false_eq_true, if_false] at h ⊢
    split at h
    · refine ⟨rfl, fun hgate hcommand ↦ absurd ?_ hneeds⟩
      change request.command = .runAutomaticMission at hcommand
      simp [needsAuthority, hgate, hcommand]
    · cases h

theorem Fenced.continues {s : AdmissionState} {i : ℕ} {call' : EnqueueCall} (h : Fenced s)
    (hput : call'.position = .put → Bound s.node call'.request)
    (hposition : s.node.autonomyQuiescence.active = true →
      call'.request.command ≠ .stopSession →
        call'.position = .stopping ∨ call'.position = .barrier) :
    Fenced { s with calls := s.calls.set i call' } := by
  refine ⟨h.gate, h.waiting, ?_, ?_, h.outdated⟩
  · intro call hmem hcall
    rcases List.mem_or_eq_of_mem_set hmem with hold | rfl
    · exact h.putting call hold hcall
    · exact hput hcall
  · intro hactive call hmem hguarded
    rcases List.mem_or_eq_of_mem_set hmem with hold | rfl
    · exact h.calls hactive call hold hguarded
    · exact hposition hactive hguarded

theorem Fenced.ends {s : AdmissionState} (h : Fenced s) (i : ℕ) :
    Fenced { s with calls := s.calls.eraseIdx i } :=
  h.shrinks ⟨rfl, .inr ⟨rfl, rfl⟩, id, .inl, List.Subset.refl _, List.eraseIdx_subset⟩

theorem Fenced.proceed {s : AdmissionState} (h : Fenced s) (i : ℕ) (now : Double) :
    Fenced (s.step (.proceed i now)).1 := by
  simp only [AdmissionState.step]
  cases hcall : s.calls[i]? with
  | none => exact h
  | some call =>
    have hmem : call ∈ s.calls := List.mem_of_getElem? hcall
    -- while a quiescence is active, a call past the test of the barrier is one to stop
    have hpast : s.node.autonomyQuiescence.active = true → call.position ≠ .stopping →
        call.position ≠ .barrier → call.request.command = .stopSession := by
      intro hactive hstopping hbarrier
      by_contra hguarded
      exact (h.calls hactive call hmem hguarded).elim hstopping hbarrier
    simp only
    cases hposition : call.position with
    | stopping =>
      simp only [SessionOrchestrator.proceed, hposition]
      cases s.node.stopping with
      | true => exact h.ends i
      | false =>
        refine h.continues (fun hput ↦ ?_) (fun _ _ ↦ .inr rfl)
        cases hput
    | barrier =>
      simp only [SessionOrchestrator.proceed, hposition]
      cases hactive : s.node.autonomyQuiescence.active with
      | true => exact h.ends i
      | false =>
        refine h.continues (fun hput ↦ ?_) (fun hcontra ↦ ?_)
        · cases hput
        · rw [hactive] at hcontra
          cases hcontra
    | operation =>
      simp only [SessionOrchestrator.proceed, hposition]
      cases s.node.operationActive with
      | true => exact h.ends i
      | false =>
        refine h.continues (fun hput ↦ ?_) (fun hactive hguarded ↦ ?_)
        · cases hput
        · exact absurd (hpast hactive (by simp [hposition]) (by simp [hposition])) hguarded
    | admission =>
      simp only [SessionOrchestrator.proceed, hposition]
      cases hadmitted : (s.node.admission call.request now).2 with
      | false => exact h.ends i
      | true =>
        obtain ⟨hcommand, hbound⟩ := admit_bound hadmitted
        refine h.continues (fun _ ↦ hbound) (fun hactive hguarded ↦ ?_)
        rw [hcommand] at hguarded
        exact absurd (hpast hactive (by simp [hposition]) (by simp [hposition])) hguarded
    | put =>
      simp only [SessionOrchestrator.proceed, hposition]
      unfold SessionOrchestrator.put
      split_ifs with hroom
      · have hmember : ∀ request ∈ AdmissionState.waiting { s with
            node := { s.node with requests := s.node.requests ++ [some call.request] }
            calls := s.calls.eraseIdx i }, request ∈ s.waiting ∨ request = call.request := by
          intro request hrequest
          simp only [AdmissionState.waiting, List.filterMap_append, List.mem_append] at hrequest ⊢
          rcases hrequest with (hold | hnew) | htaken
          · exact .inl (.inl hold)
          · exact .inr (by simpa using hnew)
          · exact .inl (.inr htaken)
        refine ⟨h.gate, ?_, (h.ends i).putting, (h.ends i).calls, ?_⟩
        · intro request hrequest
          rcases hmember request hrequest with hold | rfl
          · exact h.waiting request hold
          · exact h.putting call hmem hposition
        · intro hactive request hrequest
          rcases hmember request hrequest with hold | rfl
          · exact h.outdated hactive request hold
          · exact fun hguarded ↦
              absurd (hpast hactive (by simp [hposition]) (by simp [hposition])) hguarded
      · exact h.ends i

theorem beginRequest_frame (n : SessionOrchestrator) (request : CommandRequest) (now : Double) :
    (n.beginRequest request now).1.authorityGateEnabled = n.authorityGateEnabled ∧
      (n.beginRequest request now).1.authorityLease = n.authorityLease ∧
      (n.beginRequest request now).1.autonomyQuiescence = n.autonomyQuiescence ∧
      (n.beginRequest request now).1.requests = n.requests := by
  unfold beginRequest
  split
  · exact ⟨rfl, rfl, rfl, rfl⟩
  · split_ifs <;> exact ⟨rfl, rfl, rfl, rfl⟩

theorem Fenced.step {s : AdmissionState} {e : AdmissionEvent} (h : Fenced s)
    (he : s.BeginsInTime e) : Fenced (s.step e).1 := by
  have hstay : ∀ s' : AdmissionState, s'.node.authorityGateEnabled = s.node.authorityGateEnabled →
      s'.node.authorityLease = s.node.authorityLease →
      s'.node.autonomyQuiescence = s.node.autonomyQuiescence → s'.callbacks = s.callbacks →
      s'.waiting ⊆ s.waiting → s'.calls = s.calls → Fenced s' := by
    intro s' hgate hlease hbarrier hcallbacks hwaiting hcalls
    refine h.shrinks ⟨hgate, .inr ⟨by rw [hlease], by rw [hlease]⟩, ?_, ?_, hwaiting, ?_⟩
    · rw [hbarrier]
      exact id
    · rw [hcallbacks]
      exact .inl
    · rw [hcalls]
      exact List.Subset.refl _
  cases e with
  | message m => exact h.message m
  | run i => exact h.run he
  | proceed i now => exact h.proceed i now
  | ask command source goalHandle =>
    refine ⟨h.gate, h.waiting, ?_, ?_, h.outdated⟩
    · intro call hcall hput
      rcases List.mem_append.mp hcall with hold | hnew
      · exact h.putting call hold hput
      · obtain rfl := List.mem_singleton.mp hnew
        cases hput
    · intro hactive call hcall hguarded
      rcases List.mem_append.mp hcall with hold | hnew
      · exact h.calls hactive call hold hguarded
      · obtain rfl := List.mem_singleton.mp hnew
        exact .inl rfl
  | started | finish =>
    simp only [AdmissionState.step]
    split_ifs with hworker
    · refine hstay _ rfl rfl rfl rfl ?_ rfl
      simp [AdmissionState.waiting]
    · exact h
  | startFailed =>
    simp only [AdmissionState.step]
    split_ifs with hworker
    · refine hstay _ rfl rfl rfl rfl ?_ rfl
      simp [AdmissionState.waiting]
    · exact h
  | drain =>
    simp only [AdmissionState.step]
    split_ifs with hworker hempty
    · refine hstay _ rfl rfl rfl rfl ?_ rfl
      simp [AdmissionState.waiting, hempty]
    · refine hstay _ rfl rfl rfl rfl ?_ rfl
      simp only [AdmissionState.waiting, hworker, List.append_nil]
      intro request hrequest
      obtain ⟨entry, hentry, heq⟩ := List.mem_filterMap.mp hrequest
      exact List.mem_filterMap.mpr ⟨entry, List.mem_of_mem_tail hentry, heq⟩
    · exact h
  | take =>
    simp only [AdmissionState.step]
    split
    · rename_i rest hworker hrequests
      refine hstay _ rfl rfl rfl rfl ?_ rfl
      simp [AdmissionState.waiting, hworker, hrequests]
    · rename_i request rest hworker hrequests
      refine hstay _ rfl rfl rfl rfl ?_ rfl
      intro other hother
      simp only [AdmissionState.waiting, hworker, hrequests] at hother ⊢
      simpa [or_comm] using hother
    · exact h
  | execute now =>
    simp only [AdmissionState.step]
    split
    · rename_i request hworker
      obtain ⟨hgate, hlease, hbarrier, hrequests⟩ := beginRequest_frame s.node request now
      refine hstay _ hgate hlease hbarrier rfl ?_ rfl
      simp only [AdmissionState.waiting, hrequests, hworker]
      split_ifs <;> simp
    · exact h
  | write fsm outcome message =>
    simp only [AdmissionState.step]
    split_ifs
    · exact hstay _ rfl rfl rfl rfl (List.Subset.refl _) rfl
    · exact h
  | barrier op =>
    have hop : ∀ op, ¬ AutonomyQuiescenceBarrier.Begins s.node.autonomyQuiescence op →
        Fenced { s with
          node := s.node.withBarrier (s.node.autonomyQuiescence.step op).1 } := by
      intro op hbegins
      refine h.shrinks ⟨rfl, .inr ⟨rfl, rfl⟩, ?_, .inl, List.Subset.refl _,
        List.Subset.refl _⟩
      intro hafter
      by_contra hactive
      have hstays := step_stays_inactive (by simpa using hactive) hbegins
      rw [← Bool.not_eq_true] at hstays
      exact hstays hafter
    cases op with
    | «begin» identity required => exact h
    | _ => exact hop _ (AutonomyQuiescenceBarrier.not_begins (by simp))

theorem Fenced.startsAtRest {s : AdmissionState} (h : Fenced s) (e : AdmissionEvent) :
    s.StartsAtRest e := by
  cases e with
  | execute now =>
    intro request hworker hguarded hbegun
    by_contra hactive
    have hb : s.node.autonomyQuiescence.active = true := by simpa using hactive
    have hmem : request ∈ s.waiting := by simp [AdmissionState.waiting, hworker]
    obtain ⟨hcommand, g, hg, hlt⟩ := h.outdated hb request hmem hguarded
    have hneeds : s.node.needsAuthority request = true := by
      simp [needsAuthority, h.gate (.inl hb), hcommand]
    have hold : request.authorityGeneration ≠ some s.node.authorityLease.generation := by
      rw [hg]
      intro heq
      exact hlt.ne (Option.some.inj heq)
    unfold beginRequest at hbegun
    split at hbegun
    · cases hbegun
    · simp [hneeds, hold] at hbegun
  | _ => trivial

/-- Nothing is queued, no callback is in flight and no quiescence is active. -/
structure AtRest (n : SessionOrchestrator) : Prop where
  requests : n.requests = []
  inactive : n.autonomyQuiescence.active = false

theorem no_start_in_quiescence (n : SessionOrchestrator) (hn : AtRest n) (h : List AdmissionEvent)
    (hh : Along AdmissionState.step AdmissionState.BeginsInTime { node := n } h) :
    Along AdmissionState.step AdmissionState.StartsAtRest { node := n } h := by
  have hstart : Fenced { node := n } := by
    have hwaiting : AdmissionState.waiting { node := n } = [] := by
      simp [AdmissionState.waiting, hn.requests]
    refine ⟨?_, ?_, ?_, ?_, ?_⟩
    · rintro (hactive | htasks)
      · rw [hn.inactive] at hactive
        cases hactive
      · exact absurd rfl htasks
    · rw [hwaiting]
      exact fun request hmem ↦ absurd hmem List.not_mem_nil
    · exact fun call hmem ↦ absurd hmem List.not_mem_nil
    · exact fun _ call hmem ↦ absurd hmem List.not_mem_nil
    · rw [hwaiting]
      exact fun _ request hmem ↦ absurd hmem List.not_mem_nil
  exact Along.mono AdmissionState.step (fun s e he hs ↦ Fenced.step hs he)
    (fun s e hs _ ↦ Fenced.startsAtRest hs e) hstart hh

def mapped : SessionOrchestrator := { gated with fsm := { phase := .mapping } }

theorem mapped_atRest : AtRest mapped := ⟨rfl, rfl⟩

def driven : List AdmissionEvent :=
  [.started, .message ⟨drivingSnapshot, 0, false⟩, .run 0, .run 0, .run 0, .run 0]

/-- HOLD arrives, and its callback begins a quiescence. -/
def revoked : List AdmissionEvent :=
  [.message ⟨heldSnapshot, 0, false⟩, .run 0, .run 0, .run 0, .run 0, .run 0]

def saveMapQueued : List AdmissionEvent :=
  [.ask .saveMap "voice" false, .proceed 0 0, .proceed 0 0, .proceed 0 0, .proceed 0 0,
    .proceed 0 0]

theorem no_start_when_revoked_first :
    Along AdmissionState.step AdmissionState.StartsAtRest { node := mapped }
      (driven ++ revoked ++ saveMapQueued ++ [.take, .execute 0]) :=
  no_start_in_quiescence mapped mapped_atRest _ (by decide +kernel)

/-- The map is asked for in time, waits in the queue, and is saved in the quiescence. -/
theorem save_starts_in_quiescence :
    ¬ ∀ n, AtRest n → ∀ h, Along AdmissionState.step AdmissionState.StartsAtRest
      { node := n } h := by
  intro hall
  have hrun := (along_snoc AdmissionState.step).mp
    (hall mapped mapped_atRest (driven ++ saveMapQueued ++ revoked ++ [.take] ++ [.execute 0]))
  have hrest := hrun.2 { command := .saveMap, source := "voice" } (by decide +kernel) (by decide)
    (by decide +kernel)
  have hactive : (run AdmissionState.step { node := mapped }
      (driven ++ saveMapQueued ++ revoked ++ [.take])).node.autonomyQuiescence.active = true := by
    decide +kernel
  rw [hactive] at hrest
  cases hrest

end EmbodiedAgent.Slam.SessionOrchestrator
