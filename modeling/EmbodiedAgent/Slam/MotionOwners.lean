import EmbodiedAgent.Slam.StopEvidence

namespace EmbodiedAgent.AutonomyQuiescenceBarrier

open Library Library.Text Library.History

def LedgerQuiet (h : List Operation) : Prop :=
  ∀ pre op post, Latest (fun _ op ↦ op.ledger.isSome = true) h pre op post →
    op.ledger = some false

/-- No motion owner is left when `op` comes after `h`. -/
structure OwnersSettled (b₀ : AutonomyQuiescenceBarrier) (h : List Operation) (op : Operation)
    (identity : QuiescenceIdentity) : Prop where
  goals : (step (run step b₀ h) op).1.activeNav2Goals = ∅
  unstarted : ∃ pre required post,
    Latest (fun pre op ↦ Begins (run step b₀ pre) op) h pre (.begin identity required) post ∧
      Quiet (fun pre op ↦ Started (run step b₀ pre) op) (pre ++ [.begin identity required]) post
  ledger : LedgerQuiet h

/-- No active ledger arrives at a barrier that was begun without one. -/
def Expected (b : AutonomyQuiescenceBarrier) (op : Operation) : Prop :=
  ¬ (op.ledger = some true ∧ b.active = true ∧ b.frontierRequired = false)

instance (b : AutonomyQuiescenceBarrier) (op : Operation) : Decidable (Expected b op) :=
  inferInstanceAs (Decidable (¬ _))

section Ledger

variable {b b' b₀ : AutonomyQuiescenceBarrier} {op : Operation} {h : List Operation}

theorem active_status_not_terminal {status : String} (h : status ∈ frontierActiveStatuses) :
    status ∉ frontierTerminalStatuses := by
  simp only [frontierActiveStatuses, List.mem_cons, List.not_mem_nil, or_false] at h
  rcases h with rfl | rfl <;> decide

theorem not_active_of_terminal {status : String} {active accepted terminal : ℤ}
    (h : ledgerTerminal status active accepted terminal = true) :
    ledgerActive status active accepted terminal = false := by
  simp only [ledgerTerminal, Bool.and_eq_true, decide_eq_true_eq] at h
  obtain ⟨⟨hstatus, hactive⟩, hsettled⟩ := h
  have hnot : lower (strip status) ∉ frontierActiveStatuses :=
    fun hmem ↦ active_status_not_terminal hmem hstatus
  simp [ledgerActive, hnot, hactive, hsettled]

structure LedgerKept (h : List Operation) (b : AutonomyQuiescenceBarrier) : Prop where
  terminal : b.frontierTerminal = true → b.frontierActive = false
  quiet : b.frontierActive = false → LedgerQuiet h

theorem ledgerQuiet_snoc (hop : op.ledger = none) (hq : LedgerQuiet h) :
    LedgerQuiet (h ++ [op]) := by
  intro pre d post hl
  rcases hl.of_snoc with ⟨-, rfl, rfl⟩ | ⟨post', -, hl'⟩
  · have hsome := hl.holds
    rw [hop] at hsome
    cases hsome
  · exact hq pre d post' hl'

theorem ledgerQuiet_new (hop : op.ledger = some false) : LedgerQuiet (h ++ [op]) := by
  intro pre d post hl
  rcases hl.of_snoc with ⟨-, rfl, rfl⟩ | ⟨post', rfl, hl'⟩
  · exact hop
  · have hafter := hl.not_after rfl (by rw [hop]; rfl)
    rw [hl'.split] at hafter
    simp at hafter

theorem ledgerKept_step (hb : LedgerKept h b) : LedgerKept (h ++ [op]) (step b op).1 := by
  cases hop : op.ledger with
  | none =>
    obtain ⟨-, hactive, hterminal⟩ := step_flags b hop
    refine ⟨?_, ?_⟩
    · rw [hactive, hterminal]
      exact hb.terminal
    · rw [hactive]
      exact fun hidle ↦ ledgerQuiet_snoc hop (hb.quiet hidle)
  | some a =>
    obtain ⟨status, active, accepted, terminal, -, ha, hframe⟩ := step_recorded b hop
    have hactive : (step b op).1.frontierActive = a := hframe.frontierActive.trans ha.symm
    have hterminal : (step b op).1.frontierTerminal =
      ledgerTerminal status active accepted terminal := hframe.frontierTerminal
    refine ⟨fun h ↦ ?_, fun hidle ↦ ?_⟩
    · rw [hactive, ha]
      exact not_active_of_terminal (hterminal ▸ h)
    · rw [hactive] at hidle
      exact ledgerQuiet_new (hidle ▸ hop)

theorem ledgerKept_run {zeroEpsilon : Double} (hb : create zeroEpsilon = .ok b₀)
    (h : List Operation) : LedgerKept h (run step b₀ h) := by
  refine run_induction step (s := b₀) (I := LedgerKept) ?_ (fun h op ih ↦ ledgerKept_step ih) h
  have hquiet : LedgerQuiet [] := by
    intro pre op post hl
    have hsplit := hl.split
    simp at hsplit
  unfold create at hb
  split_ifs at hb
  cases hb
  exact ⟨fun _ ↦ rfl, fun _ ↦ hquiet⟩

end Ledger

section Stretch

variable {b b' b₀ : AutonomyQuiescenceBarrier} {op : Operation}
  {pre post : List Operation}

structure Awaited (b₀ : AutonomyQuiescenceBarrier) (pre post : List Operation)
    (b : AutonomyQuiescenceBarrier) : Prop where
  goals : b.activeNav2Goals ⊆ b.requiredNav2Goals
  frontier : b.frontierRequired = false → b.frontierActive = false
  unstarted : Quiet (fun pre op ↦ Started (run step b₀ pre) op) pre post

theorem awaited_opened (b : AutonomyQuiescenceBarrier) (identity : QuiescenceIdentity)
    (required : Option Bool) : Awaited b₀ pre [] (b.opened identity required) := by
  refine ⟨subset_rfl, fun hnot ↦ ?_, quiet_nil⟩
  cases required with
  | none => exact hnot
  | some r => exact (Bool.or_eq_false_iff.mp hnot).2

theorem awaited_step (hb : (run step b₀ (pre ++ post)).active = true)
    (hexpected : Expected (run step b₀ (pre ++ post)) op)
    (h : Awaited b₀ pre post (run step b₀ (pre ++ post)))
    (hc : Continues (run step b₀ (pre ++ post)) op b') : Awaited b₀ pre (post ++ [op]) b' := by
  have hunstarted : ¬ Started (run step b₀ (pre ++ post)) op →
      Quiet (fun pre op ↦ Started (run step b₀ pre) op) pre (post ++ [op]) := h.unstarted.snoc
  cases hc with
  | kept _ observed s _ _ _ hstarted => exact ⟨h.goals, h.frontier, hunstarted hstarted⟩
  | frontier status active accepted terminal s hledger =>
    refine ⟨h.goals, fun hnot ↦ ?_, hunstarted (not_started (by simp))⟩
    cases hactive : ledgerActive status active accepted terminal with
    | false => exact hactive
    | true => exact absurd ⟨hledger.trans (congrArg some hactive), hb, hnot⟩ hexpected
  | goalTerminal token tokens order s =>
    exact ⟨Finset.erase_subset_erase _ h.goals, h.frontier, hunstarted (not_started (by simp))⟩
  | marked => exact ⟨h.goals, h.frontier, hunstarted (not_started (by simp))⟩
  | stopped => exact ⟨h.goals, h.frontier, hunstarted (not_started (by simp))⟩
  | velocity => exact ⟨h.goals, h.frontier, hunstarted (not_started (by simp))⟩

theorem Awaited.settled (h : Awaited b₀ pre post b) (hmissing : b.missing = [])
    (hterminal : b.frontierTerminal = true → b.frontierActive = false) :
    b.activeNav2Goals = ∅ ∧ b.frontierActive = false := by
  simp only [missing, List.append_eq_nil_iff] at hmissing
  obtain ⟨⟨⟨hfrontier, hgoals⟩, -⟩, -⟩ := hmissing
  refine ⟨?_, ?_⟩
  · have hrequired : b.requiredNav2Goals = ∅ := by
      by_contra hne
      rw [if_pos hne] at hgoals
      cases hgoals
    exact Finset.subset_empty.mp (hrequired ▸ h.goals)
  · cases hrequired : b.frontierRequired with
    | false => exact h.frontier hrequired
    | true =>
      refine hterminal ?_
      by_contra hnot
      rw [hrequired, Bool.eq_false_iff.mpr hnot] at hfrontier
      cases hfrontier

end Stretch

section Runs

variable {b₀ : AutonomyQuiescenceBarrier} {zeroEpsilon : Double} {h : List Operation}

theorem ownersSettled_of_acknowledges {op : Operation} {identity : QuiescenceIdentity}
    (hb : create zeroEpsilon = .ok b₀) (hexpected : Along step Expected b₀ h)
    (hack : Acknowledges (run step b₀ h) op identity) : OwnersSettled b₀ h op identity := by
  obtain ⟨hstate, hidentity, hgoals⟩ := acknowledges_inFlight hack
  have hactive : (run step b₀ h).active = true := active_iff.mpr (.inr (.inr hstate))
  obtain ⟨hsettled, pre, identity', required, post, hlatest, hidentity', hawaited⟩ :=
    stretch (P := Awaited b₀) (create_inactive hb).1
      (fun h identity required ↦ awaited_opened _ identity required)
      (fun pre post op b' ↦ awaited_step) h hexpected hactive
  cases hidentity.symm.trans hidentity'
  have hkept := ledgerKept_run hb h
  obtain ⟨hnone, hidle⟩ := hawaited.settled (hsettled (.inr hstate)) hkept.terminal
  exact ⟨hgoals.trans hnone, ⟨pre, required, post, hlatest, hawaited.unstarted⟩, hkept.quiet hidle⟩

theorem run_failed (hfailed : (run step b₀ h).state = .failed) (rest : List Operation) :
    (run step b₀ (h ++ rest)).state = .failed := by
  rw [run_append]
  exact run_preserves step (I := fun b ↦ b.state = .failed) (fun b op hb ↦ step_failed op hb)
    hfailed rest

theorem acknowledged_without_owners (zeroEpsilon : Double) (b₀ : AutonomyQuiescenceBarrier)
    (hb : create zeroEpsilon = .ok b₀) (h : List Operation) :
    (Along step Expected b₀ h → ∀ op identity,
      Acknowledges (run step b₀ h) op identity → OwnersSettled b₀ h op identity) ∧
    ((run step b₀ h).state = .failed → ∀ rest, (run step b₀ (h ++ rest)).state = .failed ∧
      ∀ op identity, ¬ Acknowledges (run step b₀ (h ++ rest)) op identity) := by
  refine ⟨fun hexpected op identity ↦ ownersSettled_of_acknowledges hb hexpected,
    fun hfailed rest ↦ ?_⟩
  have hstate := run_failed hfailed rest
  refine ⟨hstate, fun op identity hack ↦ ?_⟩
  cases hstate.symm.trans (acknowledges_inFlight hack).1

end Runs

def explored : List Operation :=
  stopped ++ [.observeFrontier "exploration_running" 1 1 0]

theorem acknowledged_while_exploring : create millimetre = .ok standing ∧
      Acknowledges (run step standing explored) (.completeAcknowledgement revocation) revocation ∧
      ¬ OwnersSettled standing explored (.completeAcknowledgement revocation) revocation := by
  refine ⟨create_standing, .inl (by decide +kernel), fun howners ↦ ?_⟩
  have hledger : (Operation.observeFrontier "exploration_running" 1 1 0).ledger = some true := by
    decide +kernel
  have hlatest : Latest (fun _ op ↦ op.ledger.isSome = true) explored stopped
      (.observeFrontier "exploration_running" 1 1 0) [] := .new (by rw [hledger]; rfl)
  cases hledger.symm.trans (howners.ledger _ _ _ hlatest)

theorem acknowledged_without_owners_when_stopped :
    OwnersSettled standing stopped (.completeAcknowledgement revocation) revocation :=
  (acknowledged_without_owners millimetre standing create_standing stopped).1 (by decide +kernel)
    (.completeAcknowledgement revocation) revocation (.inl (by decide +kernel))

end EmbodiedAgent.AutonomyQuiescenceBarrier
