import EmbodiedAgent.Control.Tracker
import EmbodiedAgent.Library.History
import EmbodiedAgent.Library.KeyedLog

namespace EmbodiedAgent.ControlAuthorityTracker

open Library Library.History Library.KeyedLog
open scoped List

variable (k : ControlAuthorityTracker)

/-- One delivery of a snapshot, with the time it was received. -/
def step (c : ControlAuthoritySnapshot × ℤ) :
    ControlAuthorityTracker × AuthorityUpdateResult :=
  k.update c.1 c.2

def accepted (h : List (ControlAuthoritySnapshot × ℤ)) :
    List ControlAuthoritySnapshot :=
  collect step (fun k c ↦ if (k.step c).2.accepted then [c.1] else []) k h

def identity (s : ControlAuthoritySnapshot) : UInt64 × UInt64 :=
  (s.managerEpoch, s.transitionSequence)

structure Recorded (log : List ControlAuthoritySnapshot) (k : ControlAuthorityTracker) : Prop where
  latest : k.state = log.getLast?
  received : k.receivedAt = none ↔ log = []
  unseen : log = [] → k.retiredEpochs = ∅
  retired : ∀ a ∈ log, ∀ s, k.state = some s →
    a.managerEpoch ∈ k.retiredEpochs ∨ a.managerEpoch = s.managerEpoch
  current : ∀ s, k.state = some s → s.managerEpoch ∉ k.retiredEpochs
  newest : ∀ a ∈ log, ∀ s, k.state = some s → a.managerEpoch = s.managerEpoch →
    a.transitionSequence ≤ s.transitionSequence ∧
      (a.transitionSequence = s.transitionSequence → a = s)

structure Disciplined (log : List ControlAuthoritySnapshot) : Prop where
  no_return : NoReturn (·.managerEpoch) log
  bootstrap : ∀ pre b post, log = pre ++ b :: post → pre ≠ [] →
    (∀ a ∈ pre, a.managerEpoch ≠ b.managerEpoch) →
    b.transitionSequence = 0 ∧ b.authority = .hold ∧ safeManagerBootstrap b = true
  ordered : ∀ a b, [a, b] <+ log → a.managerEpoch = b.managerEpoch →
    a.transitionSequence ≤ b.transitionSequence ∧
      (a.transitionSequence = b.transitionSequence → a = b)

variable {log : List ControlAuthoritySnapshot} {k : ControlAuthorityTracker}
  {s : ControlAuthoritySnapshot} {t : ℤ}

theorem Recorded.log_eq {state : ControlAuthoritySnapshot} (hr : Recorded log k)
    (hs : k.state = some state) : ∃ log', log = log' ++ [state] := by
  rw [hr.latest] at hs
  exact List.getLast?_eq_some_iff.mp hs

theorem Recorded.log_nil (hr : Recorded log k) (hs : k.state = none ∨ k.receivedAt = none) :
    log = [] := by
  rcases hs with hs | hs
  · rwa [hr.latest, List.getLast?_eq_none_iff] at hs
  · exact hr.received.mp hs

theorem recorded_same (t : ℤ) (generation : UInt64) {state : ControlAuthoritySnapshot}
    (hr : Recorded log k) (hs : k.state = some state) (hepoch : s.managerEpoch = state.managerEpoch)
    (hseq : s = state ∨ state.transitionSequence < s.transitionSequence) :
    Recorded (log ++ [s])
      { k with state := some s, receivedAt := some t, generation := generation } where
  latest := by simp
  received := by simp
  unseen := by simp
  retired := by
    intro a ha s' hs'
    obtain rfl := Option.some.inj hs'
    rw [hepoch]
    rcases List.mem_append.mp ha with ha | ha
    · exact hr.retired a ha state hs
    · exact .inr (List.mem_singleton.mp ha ▸ hepoch)
  current := by
    intro s' hs'
    obtain rfl := Option.some.inj hs'
    exact hepoch ▸ hr.current state hs
  newest := by
    intro a ha s' hs' he
    obtain rfl := Option.some.inj hs'
    rcases List.mem_append.mp ha with ha | ha
    · obtain ⟨hle, heq⟩ := hr.newest a ha state hs (he.trans hepoch)
      rcases hseq with rfl | hlt
      · exact ⟨hle, heq⟩
      · have hlt' := UInt64.lt_of_le_of_lt hle hlt
        exact ⟨UInt64.le_of_lt hlt', fun h ↦ absurd h (UInt64.ne_of_lt hlt')⟩
    · rw [List.mem_singleton.mp ha]
      exact ⟨UInt64.le_refl _, fun _ ↦ rfl⟩

theorem recorded_fresh {generation : UInt64} {retired : Finset UInt64}
    (hnew : ∀ a ∈ log, a.managerEpoch ∈ retired) (hs : s.managerEpoch ∉ retired) :
    Recorded (log ++ [s])
      { k with state := some s, receivedAt := some t, generation := generation,
               retiredEpochs := retired } where
  latest := by simp
  received := by simp
  unseen := by simp
  retired := by
    intro a ha s' hs'
    obtain rfl := Option.some.inj hs'
    rcases List.mem_append.mp ha with ha | ha
    · exact .inl (hnew a ha)
    · exact .inr (List.mem_singleton.mp ha ▸ rfl)
  current := by
    intro s' hs'
    obtain rfl := Option.some.inj hs'
    exact hs
  newest := by
    intro a ha s' hs' he
    obtain rfl := Option.some.inj hs'
    rcases List.mem_append.mp ha with ha | ha
    · exact absurd (he ▸ hnew a ha) hs
    · rw [List.mem_singleton.mp ha]
      exact ⟨UInt64.le_refl _, fun _ ↦ rfl⟩

theorem disciplined_same {state : ControlAuthoritySnapshot} (hd : Disciplined log)
    (hr : Recorded log k) (hs : k.state = some state)
    (hepoch : s.managerEpoch = state.managerEpoch)
    (hseq : s = state ∨ state.transitionSequence < s.transitionSequence) :
    Disciplined (log ++ [s]) where
  no_return := by
    obtain ⟨log', rfl⟩ := hr.log_eq hs
    exact hd.no_return.same hepoch
  bootstrap := by
    intro pre b post hsplit hpre hb
    rcases snoc_eq_append_cons hsplit with ⟨-, rfl, rfl⟩ | ⟨post', -, hlog⟩
    · obtain ⟨log', rfl⟩ := hr.log_eq hs
      exact absurd hepoch.symm (hb state (by simp))
    · exact hd.bootstrap pre b post' hlog hpre hb
  ordered := by
    intro a b hab he
    rcases pair_sublist_snoc hab with hab | ⟨rfl, ha⟩
    · exact hd.ordered a b hab he
    · exact (recorded_same 0 0 hr hs hepoch hseq).newest a
        (List.mem_append_left _ ha) b rfl he

theorem disciplined_fresh (hd : Disciplined log)
    (hnew : ∀ a ∈ log, a.managerEpoch ≠ s.managerEpoch)
    (hs : log ≠ [] → safeManagerBootstrap s = true) : Disciplined (log ++ [s]) where
  no_return := hd.no_return.fresh hnew
  bootstrap := by
    intro pre b post hsplit hpre hb
    rcases snoc_eq_append_cons hsplit with ⟨-, rfl, rfl⟩ | ⟨post', -, hlog⟩
    · obtain ⟨hseq, hhold⟩ := safeManagerBootstrap_spec (hs hpre)
      exact ⟨hseq, hhold, hs hpre⟩
    · exact hd.bootstrap pre b post' hlog hpre hb
  ordered := by
    intro a b hab he
    rcases pair_sublist_snoc hab with hab | ⟨rfl, ha⟩
    · exact hd.ordered a b hab he
    · exact absurd he (hnew a ha)

theorem accepted_snoc (h : List (ControlAuthoritySnapshot × ℤ))
    (c : ControlAuthoritySnapshot × ℤ) :
    accepted k (h ++ [c]) =
      accepted k h ++ if ((run step k h).step c).2.accepted then [c.1] else [] :=
  collect_snoc step _ k h c

theorem discipline_step (h : List (ControlAuthoritySnapshot × ℤ))
    (c : ControlAuthoritySnapshot × ℤ)
    (hi : Recorded (accepted k h) (run step k h) ∧ Disciplined (accepted k h)) :
    Recorded (accepted k (h ++ [c])) ((run step k h).step c).1 ∧
      Disciplined (accepted k (h ++ [c])) := by
  obtain ⟨hr, hd⟩ := hi
  have ho := update_outcome (run step k h) c.1 c.2
  rw [accepted_snoc, step]
  generalize (run step k h).update c.1 c.2 = out at ho
  cases ho with
  | rejected discontinuity decision => simpa using ⟨hr, hd⟩
  | initial hvalid hunseen =>
    have hlog := hr.log_nil hunseen
    have hretired := hr.unseen hlog
    rw [hlog] at hd ⊢
    exact ⟨recorded_fresh (by simp) (by simp [hretired]), disciplined_fresh hd (by simp) (by simp)⟩
  | restart state previous hstate hprevious hordered hepoch hunused hbootstrap =>
    have hretired : ∀ a ∈ accepted k h,
        a.managerEpoch ∈ insert state.managerEpoch (run step k h).retiredEpochs := by
      intro a ha
      rcases hr.retired a ha state hstate with ha | ha
      · exact Finset.mem_insert_of_mem ha
      · exact ha ▸ Finset.mem_insert_self _ _
    have hnew : c.1.managerEpoch ∉
        insert state.managerEpoch (run step k h).retiredEpochs := by
      simp [hepoch, hunused]
    refine ⟨recorded_fresh hretired hnew, disciplined_fresh hd ?_ fun _ ↦ hbootstrap⟩
    intro a ha he
    exact hnew (he ▸ hretired a ha)
  | heartbeat previous hstate hprevious halive =>
    have hs := recorded_same c.2 (run step k h).generation hr hstate rfl (.inl rfl)
    refine ⟨?_, disciplined_same hd hr hstate rfl (.inl rfl)⟩
    rw [← hstate] at hs
    exact hs
  | transition state previous hstate hprevious halive hepoch hlater =>
    exact ⟨recorded_same _ _ hr hstate hepoch (.inr hlater),
      disciplined_same hd hr hstate hepoch (.inr hlater)⟩

theorem discipline {lease : ℤ} (hk : create lease = .ok k)
    (h : List (ControlAuthoritySnapshot × ℤ)) :
    Recorded (accepted k h) (run step k h) ∧ Disciplined (accepted k h) := by
  obtain ⟨-, hstate, hreceived, -, hretired⟩ := create_spec hk
  refine run_induction step (I := fun h s ↦ Recorded (accepted k h) s ∧ Disciplined (accepted k h))
    ?_ (fun h c hi ↦ discipline_step h c hi) h
  refine ⟨⟨by simp [accepted, hstate], by simp [accepted, hreceived], fun _ ↦ hretired, ?_, ?_, ?_⟩,
    ⟨noReturn_nil, ?_, ?_⟩⟩
  · simp [accepted]
  · simp [hretired]
  · simp [accepted]
  · simp [accepted]
  · intro a b hab
    cases hab

/-- No ABA and no rollback, over every history of deliveries. -/
structure EpochDiscipline (k : ControlAuthorityTracker) : Prop where
  log : ∀ h, Disciplined (accepted k h)
  generation : ∀ h c, ((run step k h).step c).2.accepted = true →
    ((run step k h).step c).1.generation = (run step k h).generation +
      if ((accepted k h).getLast?).map identity = some (identity c.1) then 0 else 1
  rejected : ∀ h c, ((run step k h).step c).2.accepted = false →
    ((run step k h).step c).1 = run step k h

theorem generation_step {log : List ControlAuthoritySnapshot} (hr : Recorded log k)
    (c : ControlAuthoritySnapshot × ℤ) (hc : (k.step c).2.accepted = true) :
    (k.step c).1.generation = k.generation +
      if log.getLast?.map identity = some (identity c.1) then 0 else 1 := by
  have ho := update_outcome k c.1 c.2
  rw [← hr.latest]
  rw [step] at hc ⊢
  generalize k.update c.1 c.2 = out at ho hc
  cases ho with
  | rejected discontinuity decision => cases hc
  | initial hvalid hunseen => simp [hr.latest, hr.log_nil hunseen, accept]
  | restart state previous hstate hprevious hordered hepoch hunused hbootstrap =>
    have hne : identity state ≠ identity c.1 := fun h ↦ hepoch (congrArg Prod.fst h).symm
    simp [hstate, hne, accept]
  | heartbeat previous hstate hprevious halive => simp [hstate]
  | transition state previous hstate hprevious halive hepoch hlater =>
    have hne : identity state ≠ identity c.1 :=
      fun h ↦ UInt64.ne_of_lt hlater (congrArg Prod.snd h)
    simp [hstate, hne, accept]

theorem epoch_discipline (lease : ℤ) (k : ControlAuthorityTracker) (hk : create lease = .ok k) :
    EpochDiscipline k where
  log h := (discipline hk h).2
  generation h c hc := generation_step (discipline hk h).1 c hc
  rejected _ _ hc := rejected_keeps hc

theorem epoch_discipline_one_second : EpochDiscipline { lease := 1000, lease_pos := by decide } :=
  epoch_discipline 1000 _ rfl

end EmbodiedAgent.ControlAuthorityTracker
