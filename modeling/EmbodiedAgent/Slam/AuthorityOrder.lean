import EmbodiedAgent.Library.History
import EmbodiedAgent.Slam.AuthorityCallback

namespace EmbodiedAgent.Slam.SessionOrchestrator

open Library Library.History Library.Interleaving

section Sections

def stage : AuthorityTask → ℕ
  | .report | .clearReport => 0
  | .publish _ => 1
  | _ => 2

structure Surroundings where
  authorityGateEnabled : Bool
  authorityLease : ControlAuthorityLease
  authorityLeaseFailureReported : Bool
  authoritySnapshot : Option AuthoritySnapshot
  internalStageSwitch : Option InternalStageSwitch
  requests : List (Option CommandRequest)

def surroundings (n : SessionOrchestrator) : Surroundings where
  authorityGateEnabled := n.authorityGateEnabled
  authorityLease := n.authorityLease
  authorityLeaseFailureReported := n.authorityLeaseFailureReported
  authoritySnapshot := n.authoritySnapshot
  internalStageSwitch := n.internalStageSwitch
  requests := n.requests

def inside (n : SessionOrchestrator) (s : Surroundings) : SessionOrchestrator :=
  { n with
    authorityGateEnabled := s.authorityGateEnabled
    authorityLease := s.authorityLease
    authorityLeaseFailureReported := s.authorityLeaseFailureReported
    authoritySnapshot := s.authoritySnapshot
    internalStageSwitch := s.internalStageSwitch
    requests := s.requests }

def withLease (n : SessionOrchestrator) (lease : ControlAuthorityLease) : SessionOrchestrator :=
  { n with authorityLease := lease }

def withReport (n : SessionOrchestrator) (reported : Bool) : SessionOrchestrator :=
  { n with authorityLeaseFailureReported := reported }

variable {n : SessionOrchestrator} {task task' : AuthorityTask} {m : AuthorityMessage}

theorem perform_inside (h : stage task = 2) (n : SessionOrchestrator) (s : Surroundings) :
    perform (n.inside s) task = ((perform n task).1.inside s, (perform n task).2) := by
  cases task with
  | report | clearReport | publish c => cases h
  | testActive c | testFailed c | readMission c | quiescing c | startWorker c | testIdentity c
  | failBarrier reason | failOutcome reason | failTransition reason | childFailure detail
  | childTransition detail => rfl
  | observeActive c =>
    simp only [perform, inside]
    split <;> rfl
  | observe c =>
    simp only [perform, inside]
    split <;> rfl
  | «begin» c =>
    simp only [perform, inside]
    split <;> rfl
  | cancel identity =>
    have hcancel : (n.inside s).cancelActiveAutomaticMission identity =
        ((n.cancelActiveAutomaticMission identity).1.inside s,
          (n.cancelActiveAutomaticMission identity).2) := by
      obtain ⟨_, _, _, _, _, _, _, _, _, _, _, _ | request, _⟩ := n
      · rfl
      · simp only [cancelActiveAutomaticMission, inside]
        split_ifs <;> rfl
    simp only [perform, hcancel]

theorem surroundings_perform (h : stage task = 2) (n : SessionOrchestrator) :
    (perform n task).1.surroundings = n.surroundings := by
  have hperform := congrArg (fun r ↦ r.1.surroundings) (perform_inside h n n.surroundings)
  exact hperform

variable {c : AcceptedState}

theorem matchesRevocation_inside (n : SessionOrchestrator) (snapshot : AuthoritySnapshot) :
    (n.matchesInternalStageSwitchRevocation snapshot).1 = n.inside { n.surroundings with
      internalStageSwitch :=
        (n.matchesInternalStageSwitchRevocation snapshot).1.internalStageSwitch } := by
  unfold matchesInternalStageSwitchRevocation
  repeat' split
  all_goals rfl

theorem matchesRevocation_congr {n' : SessionOrchestrator} {snapshot : AuthoritySnapshot}
    (h : n.internalStageSwitch = n'.internalStageSwitch) :
    (n.matchesInternalStageSwitchRevocation snapshot).2 =
        (n'.matchesInternalStageSwitchRevocation snapshot).2 ∧
      (n.matchesInternalStageSwitchRevocation snapshot).1.internalStageSwitch =
        (n'.matchesInternalStageSwitchRevocation snapshot).1.internalStageSwitch := by
  unfold matchesInternalStageSwitchRevocation
  rw [h]
  repeat' split
  all_goals exact ⟨rfl, by first | exact h | rfl⟩

theorem publish_inside (n : SessionOrchestrator) (c : AcceptedState) :
    (perform n (.publish c)).1 = n.inside { n.surroundings with
      authoritySnapshot := some c.snapshot
      internalStageSwitch := (perform n (.publish c)).1.internalStageSwitch } := by
  have hmatches := matchesRevocation_inside
    { n with authoritySnapshot := some c.snapshot } c.snapshot
  simp only [perform]
  split <;> exact hmatches

theorem publish_congr {n' : SessionOrchestrator}
    (h : n.internalStageSwitch = n'.internalStageSwitch) :
    (perform n (.publish c)).2 = (perform n' (.publish c)).2 ∧
      (perform n (.publish c)).1.internalStageSwitch =
        (perform n' (.publish c)).1.internalStageSwitch := by
  obtain ⟨hmatches, hswitch⟩ := @matchesRevocation_congr
    { n with authoritySnapshot := some c.snapshot }
    { n' with authoritySnapshot := some c.snapshot } c.snapshot h
  simp only [perform, matchesInternalStageSwitchResume, hmatches, hswitch]
  split
  · exact ⟨rfl, hswitch⟩
  · exact ⟨rfl, hswitch⟩

theorem stage_called (h : stage task = 2) : ∀ task' ∈ (perform n task).2.1, stage task' = 2 := by
  have hconclude : ∀ c revocationStarted, ∀ task' ∈ conclude c revocationStarted,
      stage task' = 2 := by
    intro c revocationStarted task' h'
    unfold conclude at h'
    split_ifs at h' <;> first | (obtain rfl := List.mem_singleton.mp h'; rfl) | simp at h'
  have hrevoke : ∀ c, ∀ task' ∈ revoke c, stage task' = 2 := by
    intro c task' h'
    unfold revoke at h'
    split_ifs at h' with hc
    · obtain rfl := List.mem_singleton.mp h'
      rfl
    · exact hconclude c false task' h'
  have hfail : ∀ error, ∀ task' ∈ failAutonomyQuiescence error, stage task' = 2 := by
    intro error task' h'
    simp only [failAutonomyQuiescence, List.mem_cons, List.not_mem_nil, or_false] at h'
    rcases h' with rfl | rfl | rfl <;> rfl
  intro task' h'
  cases task with
  | report | clearReport | publish c => cases h
  | testActive c =>
    simp only [perform] at h'
    split_ifs at h' with hactive
    · obtain rfl := List.mem_singleton.mp h'
      rfl
    · exact hrevoke c task' h'
  | testFailed c =>
    simp only [perform] at h'
    split_ifs at h' with hfailed
    · exact hfail _ task' h'
    · exact hrevoke c task' h'
  | observeActive c | observe c =>
    simp only [perform] at h'
    split at h'
    · cases h'
    · obtain rfl := List.mem_singleton.mp h'
      rfl
  | «begin» c =>
    simp only [perform] at h'
    split at h'
    · exact hfail _ task' h'
    · obtain rfl := List.mem_singleton.mp h'
      rfl
    · exact hconclude c false task' h'
  | readMission c =>
    simp only [perform] at h'
    split_ifs at h' <;> (obtain rfl := List.mem_singleton.mp h'; rfl)
  | startWorker c => exact hconclude c true task' h'
  | quiescing c | testIdentity c =>
    obtain rfl := List.mem_singleton.mp h'
    rfl
  | cancel identity | failBarrier reason | failOutcome reason | failTransition reason
  | childFailure detail | childTransition detail => cases h'

theorem publish_silent (n : SessionOrchestrator) (c : AcceptedState) :
    (perform n (.publish c)).2.2 = [] ∧
      ∀ task' ∈ (perform n (.publish c)).2.1, stage task' = 2 := by
  simp only [perform]
  split
  · exact ⟨rfl, fun task' h' ↦ by cases h'⟩
  · refine ⟨rfl, fun task' h' ↦ ?_⟩
    obtain rfl := List.mem_singleton.mp h'
    rfl

theorem perform_withReport (h : stage task ≠ 0) (n : SessionOrchestrator) (reported : Bool) :
    perform (n.withReport reported) task =
      ((perform n task).1.withReport reported, (perform n task).2) := by
  by_cases hreaction : stage task = 2
  · have hperform := perform_inside hreaction n
      { n.surroundings with authorityLeaseFailureReported := reported }
    refine hperform.trans (Prod.ext ?_ rfl)
    rw [← surroundings_perform hreaction n]
    rfl
  · obtain ⟨c, rfl⟩ : ∃ c, task = .publish c := by
      cases task with
      | publish c => exact ⟨c, rfl⟩
      | report | clearReport => exact absurd rfl h
      | _ => exact absurd rfl hreaction
    obtain ⟨hcalls, hswitch⟩ := @publish_congr (n.withReport reported) c n rfl
    refine Prod.ext ?_ hcalls
    rw [publish_inside, hswitch, publish_inside n]
    rfl

theorem perform_withLease (n : SessionOrchestrator) (lease : ControlAuthorityLease)
    (task : AuthorityTask) : perform (n.withLease lease) task =
      ((perform n task).1.withLease lease, (perform n task).2) := by
  by_cases hreaction : stage task = 2
  · have hperform := perform_inside hreaction n { n.surroundings with authorityLease := lease }
    refine hperform.trans (Prod.ext ?_ rfl)
    rw [← surroundings_perform hreaction n]
    rfl
  · cases task with
    | report | clearReport => rfl
    | publish c =>
      obtain ⟨hcalls, hswitch⟩ := @publish_congr (n.withLease lease) c n rfl
      refine Prod.ext ?_ hcalls
      rw [publish_inside, hswitch, publish_inside n]
      rfl
    | _ => exact absurd rfl hreaction

theorem lease_perform (n : SessionOrchestrator) (task : AuthorityTask) :
    (perform n task).1.authorityLease = n.authorityLease ∧
      (perform n task).1.authorityGateEnabled = n.authorityGateEnabled := by
  by_cases hreaction : stage task = 2
  · have hkept := surroundings_perform hreaction n
    exact ⟨congrArg Surroundings.authorityLease hkept,
      congrArg Surroundings.authorityGateEnabled hkept⟩
  · cases task with
    | report | clearReport => exact ⟨rfl, rfl⟩
    | publish c =>
      rw [publish_inside]
      exact ⟨rfl, rfl⟩
    | _ => exact absurd rfl hreaction

theorem stage_le (task : AuthorityTask) : stage task ≤ 2 := by
  cases task <;> simp [stage]

theorem called_reaction (h : stage task ≠ 0) :
    ∀ task' ∈ (perform n task).2.1, stage task' = 2 := by
  cases task with
  | report | clearReport => exact absurd rfl h
  | publish c => exact (publish_silent n c).2
  | _ => exact stage_called rfl

theorem settles_postpone {first rest : List AuthorityTask} {n' : SessionOrchestrator}
    {out : List AuthorityEffect} (hfirst : ∀ task' ∈ first, stage task < stage task')
    (h : Settles perform (perform n task).1 (first ++ ((perform n task).2.1 ++ rest)) n' out) :
    Settles perform n (first ++ task :: rest) n' ((perform n task).2.2 ++ out) := by
  cases task with
  | report =>
    have hstage : ∀ task' ∈ first, stage task' ≠ 0 := fun task' h' ↦ (hfirst task' h').ne'
    refine Settles.postpone ?_ (fun n task' h' ↦ perform_withReport h' n true)
      (fun n task' h' ↦ rfl) (fun n ↦ rfl) hstage h
    intro n task' h' task'' h''
    rw [called_reaction h' task'' h'']
    decide
  | clearReport =>
    have hstage : ∀ task' ∈ first, stage task' ≠ 0 := fun task' h' ↦ (hfirst task' h').ne'
    refine Settles.postpone ?_ (fun n task' h' ↦ perform_withReport h' n false)
      (fun n task' h' ↦ rfl) (fun n ↦ rfl) hstage h
    intro n task' h' task'' h''
    rw [called_reaction h' task'' h'']
    decide
  | publish c =>
    have hstage : ∀ task' ∈ first, stage task' = 2 := by
      intro task' h'
      have hlater : 1 < stage task' := hfirst task' h'
      have hlast := stage_le task'
      omega
    rw [(publish_silent n c).1, List.nil_append]
    refine Settles.postpone (fun n task' h' ↦ stage_called h') ?_ ?_
      (fun n ↦ (publish_silent n c).1) hstage h
    · -- the reaction neither sees the new snapshot nor the bound identity
      intro n task' h'
      have hkept := surroundings_perform h' n
      have hswitch := (@publish_congr (perform n task').1 c n
        (congrArg Surroundings.internalStageSwitch hkept)).2
      rw [publish_inside n, perform_inside h', publish_inside (perform n task').1, hkept, hswitch]
    · intro n task' h'
      exact (publish_congr (congrArg Surroundings.internalStageSwitch
        (surroundings_perform h' n))).1
  | _ =>
    -- nothing comes after a reaction
    obtain rfl : first = [] := by
      refine List.eq_nil_iff_forall_not_mem.mpr fun task' h' ↦ ?_
      have hlater : 2 < stage task' := hfirst task' h'
      have hlast := stage_le task'
      omega
    exact .task h

end Sections

/-- The node, and the callbacks in the order of their lease sections. -/
structure CallbackState where
  node : SessionOrchestrator
  callbacks : List (Callback Unit AuthorityTask) := []

inductive CallbackEvent
  | message (m : AuthorityMessage)
  | run (i : ℕ)

namespace CallbackState

variable (s : CallbackState)

def outstanding : List AuthorityTask := Interleaving.outstanding s.callbacks

def step : CallbackEvent → CallbackState × List AuthorityEffect
  | .message m =>
    ({ node := (s.node.receive m).1, callbacks := s.callbacks ++ [⟨(), (s.node.receive m).2⟩] }, [])
  | .run i =>
    let advanced := advance perform s.node s.callbacks i
    ({ node := advanced.1, callbacks := advanced.2.1 }, advanced.2.2)

def effects (s : CallbackState) (h : List CallbackEvent) : List AuthorityEffect :=
  collect step (fun s e ↦ (s.step e).2) s h

def InOrder : CallbackEvent → Prop
  | .message _ => True
  | .run i => ∀ task ∈ next s.callbacks i,
      ∀ task' ∈ Interleaving.outstanding (s.callbacks.take i), stage task < stage task'

instance (e : CallbackEvent) : Decidable (s.InOrder e) :=
  match e with
  | .message _ => .isTrue trivial
  | .run i => inferInstanceAs (Decidable (∀ task ∈ next s.callbacks i,
      ∀ task' ∈ Interleaving.outstanding (s.callbacks.take i), stage task < stage task'))

end CallbackState

def messages (h : List CallbackEvent) : List AuthorityMessage :=
  h.filterMap fun
    | .message m => some m
    | .run _ => none

inductive Serial : SessionOrchestrator → List AuthorityMessage → SessionOrchestrator →
    List AuthorityEffect → Prop
  | nil (n : SessionOrchestrator) : Serial n [] n []
  | snoc {n n₁ n₂ : SessionOrchestrator} {ms : List AuthorityMessage} {m : AuthorityMessage}
      {out out' : List AuthorityEffect} : Serial n ms n₁ out →
      Settles perform (n₁.receive m).1 (n₁.receive m).2 n₂ out' →
      Serial n (ms ++ [m]) n₂ (out ++ out')

def CallbackState.Resting (s : CallbackState) : Prop := s.outstanding = []

/-- The view never goes back within an epoch, and callbacks take effect one after another. -/
structure NeverRollsBack (n : SessionOrchestrator) (h : List CallbackEvent) : Prop where
  current : (run CallbackState.step { node := n } h).Resting →
    (run CallbackState.step { node := n } h).node.authoritySnapshot =
      (run CallbackState.step { node := n } h).node.authorityLease.snapshot
  monotone : ∀ before after, h = before ++ after →
    ∀ earlier ∈ (run CallbackState.step { node := n } before).node.authoritySnapshot,
    ∀ later ∈ (run CallbackState.step { node := n } h).node.authoritySnapshot,
      earlier.managerEpoch = later.managerEpoch →
        earlier.transitionSequence ≤ later.transitionSequence
  serial : (run CallbackState.step { node := n } h).Resting →
    Serial n (messages h) (run CallbackState.step { node := n } h).node
      (CallbackState.effects { node := n } h)

/-- No callback is in flight, and the lease has the time of its snapshot. -/
structure Quiet (n : SessionOrchestrator) : Prop where
  view : n.authoritySnapshot = n.authorityLease.snapshot
  dated : n.authorityLease.snapshot.isSome = n.authorityLease.receivedAt.isSome

variable {n n' : SessionOrchestrator} {m : AuthorityMessage} {h : List CallbackEvent}
  {out : List AuthorityEffect}

theorem receive_withLease (n : SessionOrchestrator) (m : AuthorityMessage) :
    (n.receive m).1 = n.withLease (n.receive m).1.authorityLease := by
  unfold receive
  split_ifs <;> rfl

theorem receive_congr (hgate : n.authorityGateEnabled = n'.authorityGateEnabled)
    (hlease : n.authorityLease = n'.authorityLease) :
    (n.receive m).2 = (n'.receive m).2 ∧
      (n.receive m).1.authorityLease = (n'.receive m).1.authorityLease := by
  unfold receive
  rw [hgate, hlease]
  split_ifs
  · exact ⟨rfl, hlease⟩
  · exact ⟨rfl, rfl⟩

theorem outstanding_message (s : CallbackState) (m : AuthorityMessage) :
    (s.step (.message m)).1.outstanding = s.outstanding ++ (s.node.receive m).2 := by
  simp [CallbackState.step, CallbackState.outstanding, Interleaving.outstanding]

theorem messages_snoc (h : List CallbackEvent) (e : CallbackEvent) :
    messages (h ++ [e]) = messages h ++ messages [e] := List.filterMap_append

theorem serial_run (hh : Along CallbackState.step CallbackState.InOrder { node := n } h)
    (hend : Settles perform (run CallbackState.step { node := n } h).node
      (run CallbackState.step { node := n } h).outstanding n' out) :
    Serial n (messages h) n' (CallbackState.effects { node := n } h ++ out) := by
  induction h using List.reverseRecOn generalizing n' out with
  | nil =>
    cases hend
    exact .nil n
  | append_singleton h e ih =>
    obtain ⟨hbefore, he⟩ := (along_snoc CallbackState.step).mp hh
    replace ih := fun n' out ↦ @ih n' out hbefore
    rw [run_snoc] at hend
    rw [messages_snoc, CallbackState.effects, collect_snoc, ← CallbackState.effects]
    generalize run CallbackState.step { node := n } h = s at ih he hend ⊢
    cases e with
    | message m =>
      rw [outstanding_message] at hend
      obtain ⟨mid, out₁, out₂, hfirst, hlast, rfl⟩ := hend.append
      have hnode : (s.step (.message m)).1.node =
          s.node.withLease (s.node.receive m).1.authorityLease :=
        receive_withLease s.node m
      -- the earlier callbacks run under the lease as it was before the message
      have hframe := hfirst.map fun n task ↦ perform_withLease n s.node.authorityLease task
      have hkept := hfirst.preserves
        (I := fun n ↦ n.authorityLease = (s.node.receive m).1.authorityLease ∧
          n.authorityGateEnabled = s.node.authorityGateEnabled)
        (fun n task hn ↦ ⟨(lease_perform n task).1.trans hn.1, (lease_perform n task).2.trans hn.2⟩)
        (by rw [hnode]; exact ⟨rfl, rfl⟩)
      rw [hnode] at hframe
      have hserial := ih _ _ hframe
      obtain ⟨hcalls, hlease⟩ :=
        @receive_congr (mid.withLease s.node.authorityLease) s.node m hkept.2 rfl
      have hmid : ((mid.withLease s.node.authorityLease).receive m).1 = mid := by
        rw [receive_withLease, hlease, ← hkept.1]
        rfl
      rw [← hmid, ← hcalls] at hlast
      have hnext := hserial.snoc hlast
      have hsilent : (s.step (.message m)).2 = [] := rfl
      rw [hsilent, List.append_nil, ← List.append_assoc]
      exact hnext
    | run i =>
      have hmessages : messages h ++ messages [.run i] = messages h := List.append_nil _
      rw [hmessages, List.append_assoc]
      rcases advance_split perform s.node s.callbacks i with
        ⟨hnode, hout, hrest⟩ | ⟨task, rest, hnext, hall, hnode, hout, hrest⟩
      · have hstep : (s.step (.run i)).2 = [] := hout
        rw [hstep, List.nil_append]
        refine ih _ _ ?_
        rw [← hnode, CallbackState.outstanding, ← hrest]
        exact hend
      · have hstep : (s.step (.run i)).2 = (perform s.node task).2.2 := hout
        rw [hstep]
        refine ih _ _ ?_
        rw [CallbackState.outstanding, hall]
        refine settles_postpone (he task hnext) ?_
        rw [← hnode, ← hrest]
        exact hend

section Views

open ControlAuthorityLease

inductive Follows (l l' : ControlAuthorityLease) (current snapshot : AuthoritySnapshot) : Prop
  | restart (changed : snapshot.managerEpoch ≠ current.managerEpoch)
      (unused : snapshot.managerEpoch ∉ l.retiredEpochs)
      (retired : l'.retiredEpochs = insert current.managerEpoch l.retiredEpochs)
  | onward (same : snapshot.managerEpoch = current.managerEpoch)
      (sequence : current.transitionSequence ≤ snapshot.transitionSequence)
      (retired : l'.retiredEpochs = l.retiredEpochs)

variable {l : ControlAuthorityLease} {snapshot : AuthoritySnapshot} {t : Double}

theorem update_cases (l : ControlAuthorityLease) (snapshot : AuthoritySnapshot) (t : Double) :
    ((l.update snapshot t).2.accepted = false ∧ (l.update snapshot t).1 = l) ∨
    ((l.update snapshot t).2.accepted = true ∧ (l.update snapshot t).1.snapshot = some snapshot ∧
      (l.update snapshot t).1.receivedAt = some t ∧
      ∀ current ∈ l.snapshot, l.receivedAt.isSome = true →
        Follows l (l.update snapshot t).1 current snapshot) := by
  unfold update
  by_cases hvalid : (!payloadIsValid snapshot) = true
  · rw [if_pos hvalid]
    exact .inl ⟨rfl, rfl⟩
  rw [if_neg hvalid]
  cases hsnapshot : l.snapshot with
  | none => exact .inr ⟨rfl, rfl, rfl, fun current h ↦ by cases h⟩
  | some current =>
    cases hreceived : l.receivedAt with
    | none => exact .inr ⟨rfl, rfl, rfl, fun _ _ h ↦ by cases h⟩
    | some previous =>
      simp only
      split_ifs with hearly hepoch hretired hboot hgap hold hsame hconflict
      · exact .inl ⟨rfl, rfl⟩
      · exact .inl ⟨rfl, rfl⟩
      · exact .inl ⟨rfl, rfl⟩
      · refine .inr ⟨rfl, rfl, rfl, ?_⟩
        rintro _ ⟨⟩ -
        exact .restart hepoch hretired rfl
      · exact .inl ⟨rfl, rfl⟩
      · exact .inl ⟨rfl, rfl⟩
      · exact .inl ⟨rfl, rfl⟩
      · refine .inr ⟨rfl, ?_, rfl, ?_⟩
        · rw [not_not.mp hconflict]
        · rintro _ ⟨⟩ -
          exact .onward (not_not.mp hepoch) hsame.ge rfl
      · refine .inr ⟨rfl, rfl, rfl, ?_⟩
        rintro _ ⟨⟩ -
        exact .onward (not_not.mp hepoch) (not_lt.mp hold) rfl

def Before (a b : AuthoritySnapshot) : Prop :=
  a.managerEpoch = b.managerEpoch → a.transitionSequence ≤ b.transitionSequence

structure Passed (a : AuthoritySnapshot) (l : ControlAuthorityLease) : Prop where
  dated : l.receivedAt.isSome = true
  reached : ∃ current ∈ l.snapshot,
    (a.managerEpoch ∈ l.retiredEpochs ∧ a.managerEpoch ≠ current.managerEpoch) ∨
      (a.managerEpoch = current.managerEpoch ∧ a.transitionSequence ≤ current.transitionSequence)

variable {a : AuthoritySnapshot}

theorem Passed.update (h : Passed a l) (haccepted : (l.update snapshot t).2.accepted = true) :
    Before a snapshot ∧ Passed a (l.update snapshot t).1 := by
  rcases update_cases l snapshot t with ⟨hrejected, -⟩ | ⟨-, hsnapshot, hreceived, hfollows⟩
  · rw [hrejected] at haccepted
    cases haccepted
  obtain ⟨current, hcurrent, hreached⟩ := h.reached
  have hdated : (l.update snapshot t).1.receivedAt.isSome = true := by
    rw [hreceived]
    rfl
  cases hfollows current hcurrent h.dated with
  | restart changed unused retired =>
    have hleft : a.managerEpoch ∈ (l.update snapshot t).1.retiredEpochs ∧
        a.managerEpoch ≠ snapshot.managerEpoch := by
      rw [retired]
      rcases hreached with ⟨hretired, -⟩ | ⟨hsame, -⟩
      · refine ⟨Finset.mem_insert_of_mem hretired, ?_⟩
        intro heq
        exact unused (heq ▸ hretired)
      · refine ⟨hsame ▸ Finset.mem_insert_self _ _, ?_⟩
        intro heq
        exact changed (heq.symm.trans hsame)
    exact ⟨fun heq ↦ absurd heq hleft.2, hdated, snapshot, hsnapshot, .inl hleft⟩
  | onward same sequence retired =>
    rcases hreached with ⟨hretired, hother⟩ | ⟨hsame, hle⟩
    · rw [← same] at hother
      refine ⟨fun heq ↦ absurd heq hother, hdated, snapshot, hsnapshot, .inl ⟨?_, hother⟩⟩
      rw [retired]
      exact hretired
    · exact ⟨fun _ ↦ hle.trans sequence, hdated, snapshot, hsnapshot,
        Or.inr ⟨hsame.trans same.symm, hle.trans sequence⟩⟩

theorem passed_accepted (haccepted : (l.update snapshot t).2.accepted = true) :
    Passed snapshot (l.update snapshot t).1 := by
  rcases update_cases l snapshot t with ⟨hrejected, -⟩ | ⟨-, hsnapshot, hreceived, -⟩
  · rw [hrejected] at haccepted
    cases haccepted
  · refine ⟨?_, snapshot, hsnapshot, .inr ⟨rfl, le_rfl⟩⟩
    rw [hreceived]
    rfl

def published : AuthorityTask → Option AuthoritySnapshot
  | .publish c => some c.snapshot
  | _ => none

def CallbackState.views (s : CallbackState) : List AuthoritySnapshot :=
  s.node.authoritySnapshot.toList ++ s.outstanding.filterMap published

theorem published_of_stage (h : stage task ≠ 1) : published task = none := by
  cases task with
  | publish c => exact absurd rfl h
  | _ => rfl

theorem filterMap_published {tasks : List AuthorityTask} (h : ∀ task ∈ tasks, stage task ≠ 1) :
    tasks.filterMap published = [] :=
  List.filterMap_eq_nil_iff.mpr fun task htask ↦ published_of_stage (h task htask)

theorem views_message (s : CallbackState) (m : AuthorityMessage) :
    ((s.step (.message m)).1.views = s.views ∧
      (s.step (.message m)).1.node.authorityLease = s.node.authorityLease) ∨
    ((s.step (.message m)).1.views = s.views ++ [m.snapshot] ∧
      (s.step (.message m)).1.node.authorityLease =
        (s.node.authorityLease.update m.snapshot m.receivedAt).1 ∧
      (s.node.authorityLease.update m.snapshot m.receivedAt).2.accepted = true) := by
  have hnode : (s.step (.message m)).1.node.authoritySnapshot = s.node.authoritySnapshot := by
    change (s.node.receive m).1.authoritySnapshot = _
    rw [receive_withLease]
    rfl
  have hviews : (s.step (.message m)).1.views =
      s.views ++ (s.node.receive m).2.filterMap published := by
    rw [CallbackState.views, hnode, outstanding_message, List.filterMap_append,
      ← List.append_assoc, ← CallbackState.views]
  rw [hviews]
  change (_ ∧ (s.node.receive m).1.authorityLease = _) ∨
    (_ ∧ (s.node.receive m).1.authorityLease = _ ∧ _)
  unfold receive
  by_cases hgate : s.node.authorityGateEnabled = false
  · rw [if_pos hgate]
    exact .inl ⟨List.append_nil _, rfl⟩
  · rw [if_neg hgate]
    rcases update_cases s.node.authorityLease m.snapshot m.receivedAt with
      ⟨hrejected, hlease⟩ | ⟨haccepted, -⟩
    · refine .inl ⟨?_, hlease⟩
      simp only [hrejected, Bool.false_eq_true, if_false]
      split_ifs
      · exact List.append_nil _
      · exact List.append_nil _
    · refine .inr ⟨?_, rfl, haccepted⟩
      simp only [haccepted]
      rfl

theorem views_run {s : CallbackState} {i : ℕ} (h : s.InOrder (.run i)) :
    (s.step (.run i)).1.node.authorityLease = s.node.authorityLease ∧
      (s.step (.run i)).1.views <:+ s.views ∧
      (s.step (.run i)).1.views.getLast? = s.views.getLast? := by
  have hviews : (s.step (.run i)).1.views =
      (advance perform s.node s.callbacks i).1.authoritySnapshot.toList ++
        (Interleaving.outstanding (advance perform s.node s.callbacks i).2.1).filterMap
          published := rfl
  change (advance perform s.node s.callbacks i).1.authorityLease = _ ∧ _
  rw [hviews]
  rcases advance_split perform s.node s.callbacks i with
    ⟨hnode, -, hrest⟩ | ⟨task, rest, hnext, hall, hnode, -, hrest⟩
  · rw [hnode, hrest]
    exact ⟨rfl, List.suffix_rfl, rfl⟩
  · rw [hnode, hrest]
    refine ⟨(lease_perform s.node task).1, ?_⟩
    rw [CallbackState.views, CallbackState.outstanding, hall]
    have hstages := h task hnext
    by_cases hpublish : stage task = 1
    · obtain ⟨c, rfl⟩ : ∃ c, task = .publish c := by
        cases task with
        | publish c => exact ⟨c, rfl⟩
        | _ => cases hpublish
      have hearlier := filterMap_published fun task' h' ↦ (hstages task' h').ne'
      have hcalled : (perform s.node (.publish c)).2.1.filterMap published = [] :=
        filterMap_published fun task' h' ↦ by rw [(publish_silent s.node c).2 task' h']; decide
      rw [publish_inside]
      simp only [List.filterMap_append, hearlier, hcalled, List.nil_append, List.filterMap_cons,
        published]
      cases s.node.authoritySnapshot with
      | none => exact ⟨List.suffix_rfl, rfl⟩
      | some shown => exact ⟨List.suffix_cons _ _, rfl⟩
    · have hkept : (perform s.node task).1.authoritySnapshot = s.node.authoritySnapshot ∧
          (perform s.node task).2.1.filterMap published = [] := by
        by_cases hreaction : stage task = 2
        · refine ⟨congrArg Surroundings.authoritySnapshot (surroundings_perform hreaction s.node),
            filterMap_published fun task' h' ↦ ?_⟩
          rw [stage_called hreaction task' h']
          decide
        · cases task with
          | report | clearReport => exact ⟨rfl, rfl⟩
          | publish c => exact absurd rfl hpublish
          | _ => exact absurd rfl hreaction
      obtain ⟨hsnapshot, hcalled⟩ := hkept
      rw [hsnapshot]
      simp only [List.filterMap_append, hcalled, List.nil_append, List.filterMap_cons,
        published_of_stage hpublish]
      exact ⟨List.suffix_rfl, trivial⟩

end Views

structure Ordered (s : CallbackState) : Prop where
  pairwise : s.views.Pairwise Before
  passed : ∀ a ∈ s.views, Passed a s.node.authorityLease
  last : s.views.getLast? = s.node.authorityLease.snapshot

structure Behind (a : AuthoritySnapshot) (s : CallbackState) : Prop where
  before : ∀ b ∈ s.views, Before a b
  passed : Passed a s.node.authorityLease

theorem Behind.step {a : AuthoritySnapshot} {s : CallbackState} {e : CallbackEvent}
    (h : Behind a s) (he : s.InOrder e) : Behind a (s.step e).1 := by
  cases e with
  | message m =>
    rcases views_message s m with ⟨hviews, hlease⟩ | ⟨hviews, hlease, haccepted⟩
    · exact ⟨hviews ▸ h.before, hlease ▸ h.passed⟩
    · obtain ⟨hbefore, hpassed⟩ := h.passed.update haccepted
      refine ⟨?_, hlease ▸ hpassed⟩
      rw [hviews]
      intro b hb
      rcases List.mem_append.mp hb with hold | hnew
      · exact h.before b hold
      · exact List.mem_singleton.mp hnew ▸ hbefore
  | run i =>
    obtain ⟨hlease, hsuffix, -⟩ := views_run he
    exact ⟨fun b hb ↦ h.before b (hsuffix.subset hb), hlease ▸ h.passed⟩

theorem Ordered.step {s : CallbackState} {e : CallbackEvent} (h : Ordered s)
    (he : s.InOrder e) : Ordered (s.step e).1 := by
  cases e with
  | message m =>
    rcases views_message s m with ⟨hviews, hlease⟩ | ⟨hviews, hlease, haccepted⟩
    · exact ⟨hviews ▸ h.pairwise, by rw [hviews, hlease]; exact h.passed,
        by rw [hviews, hlease]; exact h.last⟩
    · refine ⟨?_, ?_, ?_⟩
      · rw [hviews]
        refine List.pairwise_append.mpr ⟨h.pairwise, List.pairwise_singleton _ _, ?_⟩
        intro a ha b hb
        exact List.mem_singleton.mp hb ▸ ((h.passed a ha).update haccepted).1
      · rw [hviews, hlease]
        intro a ha
        rcases List.mem_append.mp ha with hold | hnew
        · exact ((h.passed a hold).update haccepted).2
        · rw [List.mem_singleton.mp hnew]
          exact passed_accepted haccepted
      · rw [hviews, hlease, List.getLast?_concat]
        rcases update_cases s.node.authorityLease m.snapshot m.receivedAt with
          ⟨hrejected, -⟩ | ⟨-, hsnapshot, -⟩
        · rw [hrejected] at haccepted
          cases haccepted
        · exact hsnapshot.symm
  | run i =>
    obtain ⟨hlease, hsuffix, hlast⟩ := views_run he
    refine ⟨h.pairwise.sublist hsuffix.sublist, ?_, ?_⟩
    · rw [hlease]
      exact fun a ha ↦ h.passed a (hsuffix.subset ha)
    · rw [hlast, hlease]
      exact h.last

theorem ordered_start (hn : Quiet n) : Ordered { node := n } := by
  have hviews : CallbackState.views { node := n } = n.authorityLease.snapshot.toList := by
    rw [← hn.view]
    exact List.append_nil _
  have hdated := hn.dated
  refine ⟨?_, ?_, ?_⟩
  · rw [hviews]
    cases n.authorityLease.snapshot with
    | none => exact List.Pairwise.nil
    | some current => exact List.pairwise_singleton _ _
  · rw [hviews]
    intro a ha
    have hcurrent : n.authorityLease.snapshot = some a := Option.mem_toList.mp ha
    rw [hcurrent] at hdated
    exact ⟨hdated.symm, a, hcurrent, .inr ⟨rfl, le_rfl⟩⟩
  · rw [hviews]
    change _ = n.authorityLease.snapshot
    cases n.authorityLease.snapshot <;> rfl

theorem never_rolls_back (n : SessionOrchestrator) (hn : Quiet n) (h : List CallbackEvent)
    (hh : Along CallbackState.step CallbackState.InOrder { node := n } h) :
    NeverRollsBack n h := by
  have hordered : ∀ h, Along CallbackState.step CallbackState.InOrder { node := n } h →
      Ordered (run CallbackState.step { node := n } h) :=
    fun h hh ↦ Along.preserves CallbackState.step (fun s e he hs ↦ Ordered.step hs he)
      (ordered_start hn) hh
  refine ⟨?_, ?_, ?_⟩
  · intro hresting
    have hlast := (hordered h hh).last
    rw [CallbackState.views, hresting] at hlast
    rw [← hlast]
    cases (run CallbackState.step { node := n } h).node.authoritySnapshot <;> rfl
  · intro before after hsplit earlier hearlier later hlater
    rw [hsplit, along_append] at hh
    have hbefore := hordered before hh.1
    have hmem : earlier ∈ (run CallbackState.step { node := n } before).views :=
      List.mem_append_left _ (Option.mem_toList.mpr hearlier)
    have hbehind : Behind earlier (run CallbackState.step { node := n } before) := by
      refine ⟨?_, hbefore.passed earlier hmem⟩
      have hpairwise := hbefore.pairwise
      rw [CallbackState.views, Option.mem_def.mp hearlier] at hpairwise ⊢
      intro b hb
      rcases List.mem_cons.mp hb with rfl | hpending
      · exact fun _ ↦ le_rfl
      · exact (List.pairwise_cons.mp hpairwise).1 b hpending
    have hafter := Along.preserves CallbackState.step
      (fun s e he hs ↦ Behind.step hs he) hbehind hh.2
    rw [← run_append, ← hsplit] at hafter
    exact hafter.before later (List.mem_append_left _ (Option.mem_toList.mpr hlater))
  · intro hresting
    have hsettled : Settles perform (run CallbackState.step { node := n } h).node
        (run CallbackState.step { node := n } h).outstanding
        (run CallbackState.step { node := n } h).node [] := by
      rw [hresting]
      exact .done _
    have hserial := serial_run hh hsettled
    rw [List.append_nil] at hserial
    exact hserial

def gated : SessionOrchestrator where
  authorityGateEnabled := true
  authorityLease := { leaseS := .ofRat 1 }
  autonomyQuiescence := { zeroEpsilon := 0, zeroEpsilon_valid := Double.zero_valid }

def drivingSnapshot : AuthoritySnapshot where
  authority := AuthoritySnapshot.autonomy
  estopLatched := false
  managerEpoch := 1
  transitionSequence := 1
  activeSource := "autonomy"
  reason := "resume"

def heldSnapshot : AuthoritySnapshot where
  authority := AuthoritySnapshot.hold
  estopLatched := false
  managerEpoch := 1
  transitionSequence := 2
  activeSource := ""
  reason := "hold"
  pendingAutonomyRevocationSequence := 2

def resumeAndHold : List CallbackEvent :=
  [.message ⟨drivingSnapshot, 0, false⟩, .message ⟨heldSnapshot, 0, false⟩]

theorem gated_quiet : Quiet gated := ⟨rfl, rfl⟩

theorem never_rolls_back_in_turn :
    NeverRollsBack gated (resumeAndHold ++ [.run 0, .run 0, .run 1, .run 0]) :=
  never_rolls_back gated gated_quiet _ (by decide +kernel)

/-- The callback of HOLD publishes first, then the one of the earlier AUTONOMY. -/
theorem view_rolls_back :
    ¬ ∀ n, Quiet n → ∀ h, NeverRollsBack n h := by
  intro hall
  have hrun := hall gated gated_quiet (resumeAndHold ++ [.run 1, .run 1] ++ [.run 0, .run 0])
  have hshown := hrun.monotone (resumeAndHold ++ [.run 1, .run 1]) [.run 0, .run 0] rfl
    heldSnapshot (by decide +kernel) drivingSnapshot (by decide +kernel) rfl
  exact absurd hshown (by decide)

end EmbodiedAgent.Slam.SessionOrchestrator
