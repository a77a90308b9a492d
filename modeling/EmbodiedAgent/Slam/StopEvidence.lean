import EmbodiedAgent.Slam.QuiescenceSteps

namespace EmbodiedAgent.AutonomyQuiescenceBarrier

open Library Library.Text Library.History

def MarkedOnce (c : String) (g : ℤ) (post rest : List Operation) : Prop :=
  ∃ pre op, post = pre ++ op :: rest ∧ op.mark = some (c, g) ∧ (∀ d ∈ pre, d.mark = none) ∧
    ∀ d ∈ rest, ∀ m, d.mark = some m → m = (c, g)

def ZeroLatest (zeroEpsilon : Double) (g : ℤ) (post : List Operation) : Prop :=
  ∃ pre op rest v, Latest (fun _ op ↦ ∃ v, op.cmdVel = some v ∧ g < v.1) post pre op rest ∧
    op.cmdVel = some v ∧ isZero zeroEpsilon v.2.1 v.2.2 = true

def StopEvidence (zeroEpsilon : Double) (post : List Operation) : Prop :=
  ∃ c g rest, MarkedOnce c g post rest ∧ (∃ op ∈ rest, op.result = some c) ∧
    ZeroLatest zeroEpsilon g post

def EvidenceFor (b₀ : AutonomyQuiescenceBarrier) (zeroEpsilon : Double) (h : List Operation)
    (identity : QuiescenceIdentity) : Prop :=
  ∃ pre required post,
    Latest (fun pre op ↦ Begins (run step b₀ pre) op) h pre (.begin identity required) post ∧
      StopEvidence zeroEpsilon post

def Attributed (b : AutonomyQuiescenceBarrier) (op : Operation) : Prop :=
  ¬ (op.result = some "" ∧ b.active = true ∧ b.stopCommandId = "")

instance (b : AutonomyQuiescenceBarrier) (op : Operation) : Decidable (Attributed b op) :=
  inferInstanceAs (Decidable (¬ _))

section Collecting

variable {b b' : AutonomyQuiescenceBarrier} {op : Operation} {c : String} {g : ℤ}
  {post rest : List Operation} {zeroEpsilon : Double}

theorem mark_ne_empty (h : op.mark = some (c, g)) : c ≠ "" := by
  cases op with
  | markPriorityStopRequested commandId generation =>
    rw [Operation.mark] at h
    split_ifs at h with hill
    cases h
    exact fun hempty ↦ hill (.inl hempty)
  | _ => cases h

theorem MarkedOnce.keep (h : MarkedOnce c g post rest) (hop : ∀ m, op.mark = some m → m = (c, g)) :
    MarkedOnce c g (post ++ [op]) (rest ++ [op]) := by
  obtain ⟨pre, first, rfl, hmark, hpre, hrest⟩ := h
  refine ⟨pre, first, by simp, hmark, hpre, fun d hd ↦ ?_⟩
  rcases List.mem_append.mp hd with hd | hd
  · exact hrest d hd
  · rw [List.mem_singleton.mp hd]
    exact hop

theorem MarkedOnce.new (h : ∀ d ∈ post, d.mark = none) (hop : op.mark = some (c, g)) :
    MarkedOnce c g (post ++ [op]) [] :=
  ⟨post, op, rfl, hop, h, fun d hd ↦ by cases hd⟩

theorem ZeroLatest.keep (h : ZeroLatest zeroEpsilon g post)
    (hop : ∀ v, op.cmdVel = some v → v.1 ≤ g) : ZeroLatest zeroEpsilon g (post ++ [op]) := by
  obtain ⟨pre, last, later, v, hlatest, hv, hzero⟩ := h
  refine ⟨pre, last, later ++ [op], v, hlatest.keep ?_, hv, hzero⟩
  rintro ⟨w, hw, hover⟩
  exact absurd (hop w hw) (not_le.mpr hover)

structure Collected (post : List Operation) (b : AutonomyQuiescenceBarrier) : Prop where
  unmarked : b.stopCommandId = "" → (∀ op ∈ post, op.mark = none) ∧
    b.stopResultObserved = false ∧ b.stopCmdVelGeneration = none ∧ b.freshZeroGeneration = none
  marked : b.stopCommandId ≠ "" → ∃ g rest, b.stopCmdVelGeneration = some g ∧
    MarkedOnce b.stopCommandId g post rest ∧
    (b.stopResultObserved = true → ∃ op ∈ rest, op.result = some b.stopCommandId) ∧
    (b.freshZeroGeneration.isSome = true → ZeroLatest b.zeroEpsilon g post)

theorem collected_opened (b : AutonomyQuiescenceBarrier) (identity : QuiescenceIdentity)
    (required : Option Bool) : Collected [] (b.opened identity required) :=
  ⟨fun _ ↦ ⟨fun _ hop ↦ (by cases hop), rfl, rfl, rfl⟩, fun h ↦ absurd rfl h⟩

theorem Collected.same (h : Collected post b) (hcommand : b'.stopCommandId = b.stopCommandId)
    (hresult : b'.stopResultObserved = b.stopResultObserved)
    (hgeneration : b'.stopCmdVelGeneration = b.stopCmdVelGeneration)
    (hzero : b'.freshZeroGeneration = b.freshZeroGeneration)
    (hepsilon : b'.zeroEpsilon = b.zeroEpsilon) (hmark : ∀ c g, op.mark = some (c, g) →
      c ≠ "" ∧ b.stopCommandId = c ∧ b.stopCmdVelGeneration = some g)
    (hcmdVel : ∀ g v, b.stopCmdVelGeneration = some g → op.cmdVel = some v → v.1 ≤ g) :
    Collected (post ++ [op]) b' := by
  constructor
  · intro hempty
    rw [hcommand] at hempty
    obtain ⟨hnone, hfields⟩ := h.unmarked hempty
    rw [hresult, hgeneration, hzero]
    refine ⟨fun d hd ↦ ?_, hfields⟩
    rcases List.mem_append.mp hd with hd | hd
    · exact hnone d hd
    · rw [List.mem_singleton.mp hd]
      by_contra hsome
      obtain ⟨⟨c, g⟩, hm⟩ := Option.ne_none_iff_exists'.mp hsome
      obtain ⟨hne, heq, -⟩ := hmark c g hm
      exact hne (heq ▸ hempty)
  · intro hne
    rw [hcommand] at hne
    obtain ⟨g, rest, hg, honce, hobserved, hlatest⟩ := h.marked hne
    rw [hcommand, hresult, hgeneration, hzero, hepsilon]
    refine ⟨g, rest ++ [op], hg, honce.keep ?_, ?_, fun hsome ↦
      (hlatest hsome).keep (hcmdVel g · hg)⟩
    · rintro ⟨c', g'⟩ hm
      obtain ⟨-, rfl, hg'⟩ := hmark c' g' hm
      rw [Option.some.inj (hg.symm.trans hg')]
    · intro htrue
      obtain ⟨d, hd, hresult⟩ := hobserved htrue
      exact ⟨d, List.mem_append_left _ hd, hresult⟩

theorem collected_step (hb : b.active = true) (hattributed : Attributed b op)
    (h : Collected post b) (hc : Continues b op b') : Collected (post ++ [op]) b' := by
  have hquiet : ∀ {c g}, op.mark = none → op.mark = some (c, g) →
      c ≠ "" ∧ b.stopCommandId = c ∧ b.stopCmdVelGeneration = some g :=
    fun hnone hsome ↦ by cases hnone.symm.trans hsome
  cases hc with
  | kept _ observed s hmark hcmdVel => exact h.same rfl rfl rfl rfl rfl hmark hcmdVel
  | frontier =>
    exact h.same rfl rfl rfl rfl rfl (fun _ _ ↦ hquiet rfl) (fun _ _ _ hv ↦ by cases hv)
  | goalTerminal =>
    exact h.same rfl rfl rfl rfl rfl (fun _ _ ↦ hquiet rfl) (fun _ _ _ hv ↦ by cases hv)
  | marked commandId g s hcommand hmark hunmarked =>
    obtain ⟨hnone, hresult, -, -⟩ := h.unmarked hunmarked
    refine ⟨fun hempty ↦ absurd hempty hcommand, fun _ ↦ ⟨g, [], rfl, .new hnone hmark, ?_, ?_⟩⟩
    · intro htrue
      cases hresult.symm.trans htrue
    · intro hsome
      cases hsome
  | stopped commandId detail s hcommand =>
    have hresult : (Operation.observePriorityStopResult commandId true detail).result =
      some b.stopCommandId := congrArg some hcommand
    refine ⟨fun hempty ↦ ?_, fun hne ↦ ?_⟩
    · -- the result would be taken for that of a STOP that nobody requested
      have hunset : b.stopCommandId = "" := hempty
      exact absurd ⟨hunset ▸ hresult, hb, hunset⟩ hattributed
    · obtain ⟨g, rest, hg, honce, -, hlatest⟩ := h.marked hne
      refine ⟨g, _, hg, honce.keep fun m hm ↦ (by cases hm), fun _ ↦ ?_, fun hsome ↦ ?_⟩
      · exact ⟨_, List.mem_append_right _ (List.mem_singleton_self _), hresult⟩
      · exact (hlatest hsome).keep fun v hv ↦ by cases hv
  | velocity generation requested linearX angularZ s hcmdVel hrequested hover =>
    refine ⟨fun hempty ↦ ?_, fun hne ↦ ?_⟩
    · obtain ⟨-, -, hnone, -⟩ := h.unmarked hempty
      cases hnone.symm.trans hrequested
    · obtain ⟨g, rest, hg, honce, hobserved, -⟩ := h.marked hne
      cases hrequested.symm.trans hg
      refine ⟨requested, _, hrequested, honce.keep fun m hm ↦ (by cases hm), fun htrue ↦ ?_,
        fun hsome ↦ ?_⟩
      · obtain ⟨d, hd, hresult⟩ := hobserved htrue
        exact ⟨d, List.mem_append_left _ hd, hresult⟩
      · refine ⟨post, _, [], _, .new ⟨_, hcmdVel, hover⟩, hcmdVel, ?_⟩
        by_contra hnot
        have hnone : (b.withVelocity generation linearX angularZ).freshZeroGeneration = none :=
          if_neg hnot
        have hfresh : (b.withVelocity generation linearX
          angularZ).freshZeroGeneration.isSome = true :=
          hsome
        rw [hnone] at hfresh
        cases hfresh

theorem Collected.evidence (h : Collected post b) (hmissing : b.missing = []) :
    StopEvidence b.zeroEpsilon post := by
  simp only [missing, List.append_eq_nil_iff] at hmissing
  obtain ⟨⟨⟨-, -⟩, hresult⟩, hzero⟩ := hmissing
  have hobserved : b.stopResultObserved = true := by
    by_contra hnot
    rw [if_neg hnot] at hresult
    cases hresult
  have hsome : b.freshZeroGeneration.isSome = true := by
    cases hfresh : b.freshZeroGeneration with
    | none => simp [hfresh] at hzero
    | some generation => rfl
  have hne : b.stopCommandId ≠ "" := by
    intro hempty
    cases (h.unmarked hempty).2.1.symm.trans hobserved
  obtain ⟨g, rest, -, honce, hresult, hlatest⟩ := h.marked hne
  exact ⟨_, g, rest, honce, hresult hobserved, hlatest hsome⟩

end Collecting

section Runs

variable {b₀ : AutonomyQuiescenceBarrier} {zeroEpsilon : Double} {h : List Operation}

theorem run_zeroEpsilon (b : AutonomyQuiescenceBarrier) (h : List Operation) :
    (run step b h).zeroEpsilon = b.zeroEpsilon :=
  run_preserves step (fun b' op (hb : b'.zeroEpsilon = b.zeroEpsilon) ↦
    (step_zeroEpsilon b' op).trans hb) rfl h

theorem evidence_of_settled (hb : create zeroEpsilon = .ok b₀) (hq : Along step Attributed b₀ h)
    (hstate : (run step b₀ h).state = .ready ∨ (run step b₀ h).state = .ackInFlight) :
    ∃ identity, (run step b₀ h).identity = some identity ∧
      EvidenceFor b₀ zeroEpsilon h identity := by
  obtain ⟨hidle, hepsilon⟩ := create_inactive hb
  have hactive : (run step b₀ h).active = true := active_iff.mpr (.inr hstate)
  obtain ⟨hsettled, pre, identity, required, post, hlatest, hidentity, hcollected⟩ :=
    stretch (P := fun _ post b ↦ Collected post b) hidle
      (fun h identity required ↦ collected_opened _ identity required)
      (fun pre post op b' ↦ collected_step) h hq hactive
  refine ⟨identity, hidentity, pre, required, post, hlatest, ?_⟩
  rw [← hepsilon, ← run_zeroEpsilon b₀ h]
  exact hcollected.evidence (hsettled hstate)

theorem stop_evidence_exact (zeroEpsilon : Double) (b₀ : AutonomyQuiescenceBarrier)
    (hb : create zeroEpsilon = .ok b₀) (h : List Operation)
    (hattributed : Along step Attributed b₀ h) :
    ((run step b₀ h).state = .ready ∨ (run step b₀ h).state = .ackInFlight →
        ∃ identity, (run step b₀ h).identity = some identity ∧
          EvidenceFor b₀ zeroEpsilon h identity) ∧
      ∀ op identity, Acknowledges (run step b₀ h) op identity →
        EvidenceFor b₀ zeroEpsilon h identity := by
  refine ⟨evidence_of_settled hb hattributed, fun op identity hack ↦ ?_⟩
  obtain ⟨hstate, hidentity, -⟩ := acknowledges_inFlight hack
  obtain ⟨identity', hidentity', hevidence⟩ := evidence_of_settled hb hattributed (.inr hstate)
  cases hidentity.symm.trans hidentity'
  exact hevidence

end Runs

def millimetre : Double := .ofRat (1 / 1000)

def revocation : QuiescenceIdentity := ⟨1, 1, by decide, by decide⟩

def standing : AutonomyQuiescenceBarrier :=
  { zeroEpsilon := millimetre, zeroEpsilon_valid := by decide +kernel }

theorem create_standing : create millimetre = .ok standing := dif_pos (by decide +kernel)

def stopped : List Operation :=
  [.observeAuthority revocation false, .begin revocation none,
    .markPriorityStopRequested "stop" 0, .observePriorityStopResult " stop" true "",
    .observeCmdVel 1 0 0, .beginAcknowledgement revocation]

theorem stop_evidence_exact_when_stopped : EvidenceFor standing millimetre stopped revocation :=
  (stop_evidence_exact millimetre standing create_standing stopped (by decide +kernel)).2
    (.completeAcknowledgement revocation) revocation (.inl (by decide +kernel))

/-- A result without a command, before STOP is requested at all. -/
def strayResult : List Operation :=
  [.observeAuthority revocation false, .begin revocation none,
    .observePriorityStopResult "" true "", .markPriorityStopRequested "stop" 0,
    .observeCmdVel 1 0 0]

/-- The stray result counts as the one of the STOP requested after it. -/
theorem ready_without_stop_result :
    create millimetre = .ok standing ∧ (run step standing strayResult).state = .ready ∧
      (run step standing strayResult).identity = some revocation ∧
      ¬ EvidenceFor standing millimetre strayResult revocation := by
  refine ⟨create_standing, by decide +kernel, by decide +kernel, ?_⟩
  rintro ⟨pre, required, post, hlatest, c, g, rest, ⟨first, op, hsplit, hmark, -⟩,
    ⟨d, hd, hresult⟩, -⟩
  have hmem : d ∈ strayResult := by
    rw [hlatest.split, hsplit]
    simp [hd]
  have hempty : ∀ d ∈ strayResult, ∀ c, d.result = some c → c = "" := by
    intro d hd c hc
    simp only [strayResult, List.mem_cons, List.not_mem_nil, or_false] at hd
    rcases hd with rfl | rfl | rfl | rfl | rfl
    · cases hc
    · cases hc
    · cases hc
      decide +kernel
    · cases hc
    · cases hc
  exact mark_ne_empty hmark (hempty d hmem c hresult)

end EmbodiedAgent.AutonomyQuiescenceBarrier
