import EmbodiedAgent.Control.Authority
import EmbodiedAgent.Library.History

namespace EmbodiedAgent.ControlAuthorityMachine

open Library.History

variable (m : ControlAuthorityMachine)

def EntersAutonomy (pre : List Call) (c : Call) : Prop :=
  (run step m pre).state.authority ≠ .autonomy ∧
    (step (run step m pre) c).1.state.authority = .autonomy

def LeavesAutonomy (pre : List Call) (c : Call) : Prop :=
  (run step m pre).state.authority = .autonomy ∧
    (step (run step m pre) c).1.state.authority ≠ .autonomy

def Acknowledges (pre : List Call) (c : Call) : Prop :=
  (∃ a, c = .acknowledge a) ∧ (step (run step m pre) c).2.accepted = true ∧
    (step (run step m pre) c).2.changed = true

def Token (h post : List Call) (sequence : UInt64) : Prop :=
  (∃ pre exit, Latest (LeavesAutonomy m) h pre exit post ∧
    sequence = (run step m (pre ++ [exit])).state.transitionSequence) ∨
  (Quiet (LeavesAutonomy m) [] h ∧ post = h ∧ sequence = 0)

def AcknowledgedSinceExit (h : List Call) : Prop :=
  ∃ pre a post mid, Latest (Acknowledges m) h pre (.acknowledge a) post ∧
    a.managerEpoch = m.state.managerEpoch ∧
    Token m h (mid ++ .acknowledge a :: post) a.autonomyRevocationSequence

theorem Token.keep {m : ControlAuthorityMachine} {h post : List Call} {n : UInt64} {c : Call}
    (ht : Token m h post n) (hc : ¬ LeavesAutonomy m h c) : Token m (h ++ [c]) (post ++ [c]) n := by
  rcases ht with ⟨pre, exit, hl, hn⟩ | ⟨hq, rfl, hn⟩
  · exact .inl ⟨pre, exit, hl.keep hc, hn⟩
  · exact .inr ⟨hq.snoc hc, rfl, hn⟩

theorem AcknowledgedSinceExit.keep {m : ControlAuthorityMachine} {h : List Call} {c : Call}
    (ha : AcknowledgedSinceExit m h) (hleave : ¬ LeavesAutonomy m h c)
    (hack : ¬ Acknowledges m h c) : AcknowledgedSinceExit m (h ++ [c]) := by
  obtain ⟨pre, a, post, mid, hl, hepoch, ht⟩ := ha
  exact ⟨pre, a, post ++ [c], mid, hl.keep hack, hepoch, by simpa using ht.keep hleave⟩

structure Ledger (h : List Call) (s : ControlAuthorityMachine) : Prop where
  epoch : s.state.managerEpoch = m.state.managerEpoch
  token : s.state.authority ≠ .autonomy →
    ∃ post, Token m h post s.state.pendingAutonomyRevocationSequence
  consumed : s.state.authority = .autonomy → s.state.autonomyQuiescenceAcknowledged = false
  acknowledged : s.state.autonomyQuiescenceAcknowledged = true → AcknowledgedSinceExit m h

variable {m}

theorem Ledger.keep {h : List Call} {c : Call} {s : ControlAuthorityMachine}
    (hl : Ledger m h (run step m h)) (hack : ¬ Acknowledges m h c) (hleave : ¬ LeavesAutonomy m h c)
    (hepoch : s.state.managerEpoch = (run step m h).state.managerEpoch)
    (htoken : s.state.authority ≠ .autonomy → (run step m h).state.authority ≠ .autonomy ∧
      s.state.pendingAutonomyRevocationSequence =
        (run step m h).state.pendingAutonomyRevocationSequence)
    (hconsumed : s.state.authority = .autonomy → s.state.autonomyQuiescenceAcknowledged = false)
    (hflag : s.state.autonomyQuiescenceAcknowledged = true →
      (run step m h).state.autonomyQuiescenceAcknowledged = true) : Ledger m (h ++ [c]) s where
  epoch := hepoch.trans hl.epoch
  token := by
    intro ha
    obtain ⟨hrun, hpending⟩ := htoken ha
    obtain ⟨post, ht⟩ := hl.token hrun
    exact ⟨post ++ [c], hpending ▸ ht.keep hleave⟩
  consumed := hconsumed
  acknowledged := fun hf ↦ (hl.acknowledged (hflag hf)).keep hleave hack

theorem ledger_same {h : List Call} {c : Call} (hl : Ledger m h (run step m h))
    (hs : (step (run step m h) c).1 = run step m h)
    (hc : (step (run step m h) c).2.changed = false) : Ledger m (h ++ [c]) (run step m h) := by
  refine hl.keep ?_ ?_ rfl (fun ha ↦ ⟨ha, rfl⟩) hl.consumed id
  · intro hack
    obtain ⟨-, -, hchanged⟩ := hack
    rw [hc] at hchanged
    cases hchanged
  · intro hleave
    rw [LeavesAutonomy, hs] at hleave
    exact hleave.2 hleave.1

theorem ledger_moved {h : List Call} {r : ControlAuthorityRequest} {authority : ControlAuthority}
    {source reason message : String} {stop : Bool} (hl : Ledger m h (run step m h))
    (hs : step (run step m h) (.request r) =
      (run step m h).transitionTo authority source reason message stop) :
    Ledger m (h ++ [.request r])
      ((run step m h).transitionTo authority source reason message stop).1 := by
  have hack : ¬ Acknowledges m h (.request r) := by
    intro hack
    obtain ⟨a, ha⟩ := hack.1
    cases ha
  by_cases hfrom : (run step m h).state.authority = .autonomy
  · by_cases hto : authority = .autonomy
    · refine hl.keep hack ?_ rfl ?_ ?_ ?_
      · intro hleave
        rw [LeavesAutonomy, hs] at hleave
        exact hleave.2 hto
      · intro ha
        exact absurd hto ha
      · intro _
        simp [transitionTo, hto]
      · simp [transitionTo, hto]
    · -- an exit: its own sequence number becomes the token, the flag is cleared
      have hleave : LeavesAutonomy m h (.request r) := by
        rw [LeavesAutonomy, hs]
        exact ⟨hfrom, hto⟩
      refine ⟨hl.epoch, fun _ ↦ ⟨[], .inl ⟨h, .request r, .new hleave, ?_⟩⟩, ?_, ?_⟩
      · rw [run_snoc, hs]
        simp [transitionTo, hfrom, hto]
      · intro ha
        exact absurd ha hto
      · simp [transitionTo, hfrom, hto]
  · refine hl.keep hack ?_ rfl ?_ ?_ ?_
    · intro hleave
      exact hfrom hleave.1
    · intro ha
      refine ⟨hfrom, ?_⟩
      have hto : authority ≠ .autonomy := ha
      simp [transitionTo, hfrom, hto]
    · intro ha
      have hto : authority = .autonomy := ha
      simp [transitionTo, hfrom, hto]
    · intro hf
      by_cases hto : authority = .autonomy
      · simp [transitionTo, hfrom, hto] at hf
      · simpa [transitionTo, hfrom, hto] using hf

theorem ledger_acknowledged {h : List Call} {a : AutonomyQuiescenceAcknowledgement}
    {t : ControlAuthorityTransition} (hl : Ledger m h (run step m h))
    (hs : step (run step m h) (.acknowledge a) = ((run step m h).acknowledged a.detail, t))
    (ht : t.accepted = true ∧ t.changed = true)
    (hepoch : a.managerEpoch = (run step m h).state.managerEpoch)
    (howner : (run step m h).state.authority ≠ .autonomy)
    (hrevocation : a.autonomyRevocationSequence =
      (run step m h).state.pendingAutonomyRevocationSequence) :
    Ledger m (h ++ [.acknowledge a]) ((run step m h).acknowledged a.detail) := by
  have hack : Acknowledges m h (.acknowledge a) := by
    rw [Acknowledges, hs]
    exact ⟨⟨a, rfl⟩, ht⟩
  have hleave : ¬ LeavesAutonomy m h (.acknowledge a) := fun hleave ↦ howner hleave.1
  obtain ⟨post, htoken⟩ := hl.token howner
  have htoken' := htoken.keep hleave
  refine ⟨hl.epoch, fun _ ↦ ⟨_, htoken'⟩, fun ha ↦ absurd ha howner, fun _ ↦ ?_⟩
  exact ⟨h, a, [], post, .new hack, hepoch.trans hl.epoch, hrevocation ▸ htoken'⟩

theorem ledger_step (h : List Call) (c : Call) (hl : Ledger m h (run step m h)) :
    Ledger m (h ++ [c]) (step (run step m h) c).1 := by
  have ho := step_outcome (run step m h) c
  generalize hout : step (run step m h) c = out at ho
  cases ho with
  | rejected | idempotent => exact ledger_same hl (by rw [hout]) (by rw [hout]; rfl)
  | moved r authority source reason message stop hr move => exact ledger_moved hl hout
  | acknowledged a hepoch howner hrevocation message =>
    exact ledger_acknowledged hl hout ⟨rfl, rfl⟩ hepoch howner hrevocation

theorem ledger {epoch : UInt64} (hm : create epoch false = .ok m) (h : List Call) :
    Ledger m h (run step m h) := by
  refine run_induction step ?_ ledger_step h
  unfold create at hm
  split_ifs at hm
  cases hm
  exact ⟨rfl, fun _ ↦ ⟨[], .inr ⟨quiet_nil, rfl, rfl⟩⟩, fun _ ↦ rfl, fun hf ↦ by cases hf⟩

theorem acknowledgement_of_flag (h : List Call)
    (hm : m.state.autonomyQuiescenceAcknowledged = false)
    (hf : (run step m h).state.autonomyQuiescenceAcknowledged = true) :
    ∃ pre a post, h = pre ++ .acknowledge a :: post ∧ Acknowledges m pre (.acknowledge a) := by
  induction h using List.reverseRecOn with
  | nil => simp [hm] at hf
  | append_singleton h c ih =>
    rw [run_snoc] at hf
    have ho := step_outcome (run step m h) c
    have earlier : (run step m h).state.autonomyQuiescenceAcknowledged = true →
        ∃ pre a post, h ++ [c] = pre ++ .acknowledge a :: post ∧
          Acknowledges m pre (.acknowledge a) := by
      intro hflag
      obtain ⟨pre, a, post, rfl, ha⟩ := ih hflag
      exact ⟨pre, a, post ++ [c], by simp, ha⟩
    generalize hout : step (run step m h) c = out at ho hf
    cases ho with
    | rejected | idempotent => exact earlier hf
    | moved r authority source reason message stop hr move =>
      apply earlier
      simp only [transitionTo] at hf
      split_ifs at hf
      exact hf
    | acknowledged a hepoch howner hrevocation message =>
      refine ⟨h, a, [], rfl, ?_⟩
      rw [Acknowledges, hout]
      exact ⟨⟨a, rfl⟩, rfl, rfl⟩

theorem enters_spec {h : List Call} {c : Call} (he : EntersAutonomy m h c) :
    (run step m h).state.autonomyQuiescenceAcknowledged = true ∧
      (run step m (h ++ [c])).state.autonomyQuiescenceAcknowledged = false := by
  rw [run_snoc]
  have ho := step_outcome (run step m h) c
  obtain ⟨hfrom, hto⟩ := he
  generalize step (run step m h) c = out at ho hto
  cases ho with
  | rejected | idempotent => exact absurd hto hfrom
  | moved r authority source reason message stop hr move =>
    cases move with
    | resumeAutonomy hc howner hack => exact ⟨hack, by simp [transitionTo]⟩
    | takeKeyboard | releaseKeyboard | enterHold | emergencyStop | resetEmergencyStop => cases hto
  | acknowledged a hepoch howner hrevocation message => exact absurd hto howner

/-- What the manager promises about handing motion back to AUTONOMY. -/
structure QuiescenceContract (m : ControlAuthorityMachine) : Prop where
  acknowledged : ∀ h c, EntersAutonomy m h c → AcknowledgedSinceExit m h
  single_use : ∀ h c h' c', EntersAutonomy m h c → EntersAutonomy m (h ++ c :: h') c' →
    ∀ pre a post, Latest (Acknowledges m) (h ++ c :: h') pre a post → h.length < pre.length
  estop : ∀ h c, (run step m h).state.authority = .estop →
    (step (run step m h) c).1.state.authority ≠ .estop →
    (∃ r, c = .request r ∧ r.command = .resetEmergencyStop) ∧
      (step (run step m h) c).1.state.authority = .hold
  unchanged : ∀ h c, (step (run step m h) c).2.changed = false →
    (step (run step m h) c).1.snapshot = (run step m h).snapshot
  rejected : ∀ h c, (step (run step m h) c).2.accepted = false →
    (step (run step m h) c).2.changed = false
  changed : ∀ h c, (step (run step m h) c).2.changed = true →
    (step (run step m h) c).1.snapshot.transitionSequence =
      (run step m h).snapshot.transitionSequence + 1

theorem single_use {h : List Call} {c : Call} {h' : List Call} {c' : Call}
    (he : EntersAutonomy m h c) (he' : EntersAutonomy m (h ++ c :: h') c')
    {pre : List Call} {a : Call} {post : List Call}
    (hl : Latest (Acknowledges m) (h ++ c :: h') pre a post) : h.length < pre.length := by
  have hcut : h ++ c :: h' = (h ++ [c]) ++ h' := by simp
  obtain ⟨-, hlow⟩ := enters_spec he
  obtain ⟨hhigh, -⟩ := enters_spec he'
  rw [hcut, run_append] at hhigh
  obtain ⟨mid, b, rest, rfl, hb⟩ := acknowledgement_of_flag h' hlow hhigh
  have hb' : Acknowledges m (h ++ c :: mid) (.acknowledge b) := by
    simpa [Acknowledges, hcut, run_append] using hb
  have hsplit : h ++ c :: (mid ++ .acknowledge b :: rest) =
      (h ++ c :: mid) ++ .acknowledge b :: rest := by simp
  have hle := hl.not_after hsplit hb'
  simp only [List.length_append, List.length_cons] at hle
  omega

theorem estop_exit {c : Call} (hfrom : m.state.authority = .estop)
    (hto : (step m c).1.state.authority ≠ .estop) :
    (∃ r, c = .request r ∧ r.command = .resetEmergencyStop) ∧
      (step m c).1.state.authority = .hold := by
  have ho := step_outcome m c
  generalize step m c = out at ho hto
  cases ho with
  | rejected | idempotent | acknowledged => exact absurd hfrom hto
  | moved r authority source reason message stop hr move =>
    cases move with
    | resetEmergencyStop hc howner => exact ⟨⟨r, rfl, hc⟩, rfl⟩
    | takeKeyboard hc howner | releaseKeyboard hc howner | enterHold hc howner
    | resumeAutonomy hc howner => simp [hfrom] at howner
    | emergencyStop hc howner => exact absurd hfrom howner

/-- AUTONOMY is resumed only by an acknowledgement of the latest revocation, each good for one
entry. -/
theorem quiescence_contract (epoch : UInt64) (m : ControlAuthorityMachine)
    (hm : create epoch false = .ok m) : QuiescenceContract m where
  acknowledged h c he := (ledger hm h).acknowledged (enters_spec he).1
  single_use h c h' c' he he' pre a post hl := single_use he he' hl
  estop h c hfrom hto := estop_exit hfrom hto
  unchanged h c hc := by
    rw [snapshot, (step_outcome (run step m h) c).unchanged hc, snapshot]
  rejected h c hr := by
    by_contra hc
    have hchanged := (step_outcome (run step m h) c).changed (by simpa using hc)
    rw [hr] at hchanged
    exact absurd hchanged.1 (by decide)
  changed h c hc := ((step_outcome (run step m h) c).changed hc).2

theorem quiescence_contract_first_epoch : QuiescenceContract
      ⟨{ managerEpoch := 1, autonomyQuiescenceAcknowledged := false }, by decide⟩ :=
  quiescence_contract 1 _ rfl

end EmbodiedAgent.ControlAuthorityMachine
