import EmbodiedAgent.Slam.MissionCalls

namespace EmbodiedAgent.Slam

open Library Library.Program

/-- What the protocol of the evidence is about. -/
inductive Mark
  | epoch (confirmation : Bool) | start | probe
  deriving DecidableEq

def Mark.isEpoch : Mark → Bool
  | .epoch _ => true
  | _ => false

def MissionEntry.mark : MissionEntry → Option Mark
  | .epoch _ confirmation => some (.epoch confirmation)
  | .port (.startExplorer _) _ => some .start
  | .finalProbe _ => some .probe
  | _ => none

def marks (tr : List MissionEntry) : List Mark := tr.filterMap MissionEntry.mark

/-- At most `R + 2` explorers are started, and nothing of the protocol follows the final probe. -/
structure Disciplined (R : ℕ) (ms : List Mark) : Prop where
  epochs : ms.countP Mark.isEpoch ≤ R + 2
  starts : ms.count .start ≤ R + 2
  confirmation_last : ms.Pairwise fun d e ↦ d = .epoch true → ¬ e.isEpoch
  probe_last : ms.Pairwise fun d _ ↦ d ≠ .probe

def Innocent (failure : MissionFailure) : Prop :=
  failure.error ≠ .noFinalProbe ∧ ∀ error, failure.error = .saturation error →
    error = .mappingPathInvalid ∨ error = .mapQuietInvalid

/-- Other threads take nothing back from the totals. -/
structure MissionEnvironment.Monotone (env : MissionEnvironment) : Prop where
  terminals : ∀ tr evidence, evidence.snapshot.frontierTelemetry.terminalCount ≤
    (env.record tr evidence).snapshot.frontierTelemetry.terminalCount
  path : ∀ tr (evidence : MappingEvidenceTracker), evidence.mappingPathM ≠ .nan →
    evidence.mappingPathM ≤ (env.record tr evidence).mappingPathM

/-- The marks of `n` epochs before the confirmation. -/
def ordinary (n : ℕ) : List Mark := (List.replicate n [Mark.epoch false, .start]).flatten

theorem ordinary_succ (n : ℕ) : ordinary (n + 1) = ordinary n ++ [.epoch false, .start] := by
  simp only [ordinary, List.replicate_succ', List.flatten_append, List.flatten_singleton]

def protocol (n : ℕ) (confirmation : Bool) : List Mark :=
  ordinary n ++ [.epoch confirmation, .start, .probe]

def Safe (R : ℕ) (w : MissionWorld) : Prop :=
  ∃ n confirmation, n ≤ R + 1 ∧ marks w.trace <+: protocol n confirmation

section Protocol

variable {n R : ℕ} {c : Bool}

theorem mem_ordinary {m : Mark} (h : m ∈ ordinary n) : m = .epoch false ∨ m = .start := by
  simp only [ordinary, List.mem_flatten, List.mem_replicate] at h
  obtain ⟨l, ⟨-, rfl⟩, hm⟩ := h
  simpa using hm

theorem count_ordinary : (ordinary n).count .start = n ∧
    (ordinary n).countP Mark.isEpoch = n := by
  induction n with
  | zero => exact ⟨rfl, rfl⟩
  | succ n ih =>
    rw [ordinary_succ, List.count_append, List.countP_append, ih.1, ih.2]
    exact ⟨rfl, rfl⟩

theorem protocol_pairwise {P : Mark → Mark → Prop} (hfalse : ∀ m, P (.epoch false) m)
    (hstart : ∀ m, P .start m) (hlast : P (.epoch c) .start ∧ P (.epoch c) .probe) :
    (protocol n c).Pairwise P := by
  have hordinary : ∀ m ∈ ordinary n, ∀ m', P m m' := by
    intro m hm m'
    rcases mem_ordinary hm with rfl | rfl
    · exact hfalse m'
    · exact hstart m'
  refine List.pairwise_append.mpr ⟨?_, ?_, fun m hm m' _ ↦ hordinary m hm m'⟩
  · exact List.Pairwise.imp_of_mem (R := fun _ _ ↦ True) (fun hm _ _ ↦ hordinary _ hm _)
      (List.pairwise_of_forall fun _ _ ↦ trivial)
  · simp [hlast, hstart]

theorem protocol_disciplined (hn : n ≤ R + 1) : Disciplined R (protocol n c) := by
  refine ⟨?_, ?_, ?_, ?_⟩
  · rw [protocol, List.countP_append, count_ordinary.2]
    exact Nat.succ_le_succ hn
  · rw [protocol, List.count_append, count_ordinary.1]
    exact Nat.succ_le_succ hn
  · exact protocol_pairwise nofun nofun ⟨nofun, nofun⟩
  · exact protocol_pairwise nofun nofun ⟨nofun, nofun⟩

theorem Safe.disciplined {w : MissionWorld} (h : Safe R w) : Disciplined R (marks w.trace) := by
  obtain ⟨n, c, hn, hprefix⟩ := h
  have hsub := hprefix.sublist
  have hd : Disciplined R (protocol n c) := protocol_disciplined hn
  exact ⟨hsub.countP_le.trans hd.epochs, (hsub.count_le _).trans hd.starts,
    hd.confirmation_last.sublist hsub, hd.probe_last.sublist hsub⟩

end Protocol
def MissionWorld.terminals (w : MissionWorld) : ℕ :=
  w.evidence.snapshot.frontierTelemetry.terminalCount

structure Keeps (w₀ w : MissionWorld) : Prop where
  marks : marks w.trace = marks w₀.trace
  terminals : w₀.terminals ≤ w.terminals
  path : ∀ p, p ≤ w₀.evidence.mappingPathM → p ≤ w.evidence.mappingPathM

instance : IsPreorder MissionWorld Keeps where
  refl _ := ⟨rfl, le_rfl, fun _ ↦ id⟩
  trans _ _ _ h h' :=
    ⟨h'.marks.trans h.marks, h.terminals.trans h'.terminals, fun p hp ↦ h'.path p (h.path p hp)⟩

theorem Keeps.trans {w w' w'' : MissionWorld} (h : Keeps w w') (h' : Keeps w' w'') : Keeps w w'' :=
  trans_of Keeps h h'

theorem marks_snoc (tr : List MissionEntry) (e : MissionEntry) :
    marks (tr ++ [e]) = marks tr ++ e.mark.toList := by
  rw [marks, List.filterMap_append]
  cases h : e.mark <;> simp [marks, h]

theorem keeps_log {e : MissionEntry} (he : e.mark = none) (w : MissionWorld) :
    Keeps w ⟨w.evidence, w.trace ++ [e]⟩ :=
  ⟨by rw [marks_snoc, he]; exact List.append_nil _, le_rfl, fun _ ↦ id⟩

theorem Safe.keeps {R : ℕ} {w w' : MissionWorld} (h : Safe R w) (hk : Keeps w w') : Safe R w' := by
  rw [Safe, hk.marks]
  exact h

def Proceeds {α : Type} (R : ℕ) (m : Mission α) (w : MissionWorld)
    (Q : α → MissionWorld → Prop) : Prop :=
  Meets m w Q (fun failure w ↦ Innocent failure ∧ Safe R w) (Safe R)

theorem proceeds_bind {α β : Type} {R : ℕ} {w : MissionWorld} {m : Mission α} {f : α → Mission β}
    {V : α → Prop} {Q : β → MissionWorld → Prop} (hm : Relates Keeps Innocent m V) (hs : Safe R w)
    (hf : ∀ a w', Keeps w w' → Proceeds R (f a) w' Q) : Proceeds R (m >>= f) w Q :=
  hm.meets_bind (fun a w' _ hk ↦ hf a w' hk) (fun _ _ h hk ↦ ⟨h, hs.keeps hk⟩) fun _ ↦ hs.keeps

theorem mark_of_between {e : MissionEntry} (he : e.between = true) : e.mark = none := by
  cases e with
  | port call reply => cases call <;> first | rfl | cases he
  | epoch | finalProbe => cases he
  | monotonic | canceled | evidence | observe => rfl

theorem keeps_frame {env : MissionEnvironment} (henv : env.Monotone) :
    Frame env Keeps Innocent where
  entry w e he := keeps_log (mark_of_between he) w
  evidence w f snapshot hf := by
    refine ⟨?_, (henv.terminals w.trace w.evidence).trans (hf.terminals _), fun p hp ↦ ?_⟩
    · rw [marks_snoc]
      exact List.append_nil _
    · rw [hf.path]
      exact Double.le_trans hp (henv.path w.trace w.evidence (Double.ne_nan_of_le hp))
  failure failure h := by
    refine ⟨fun he ↦ ?_, fun e he ↦ .inr ?_⟩
    · rw [he] at h
      cases h
    · rw [he] at h
      exact of_decide_eq_true h

namespace EpochRecovery

variable {r : EpochRecovery}

theorem decision_assess (h : r.decision = .assessStallSaturation) :
    (r.recoveryReason = "recovery_required:reachable_frontiers_stalled" ∧
      r.countersAreTerminal = true) ∧ ¬ 0 < r.recoveryAttemptsRemaining ∧
      0 < r.completedRecoveryEpochs := by
  simp only [decision, decide_eq_true_eq] at h
  split_ifs at h with _ _ _ _ _ hstalled hcompleted
  exact ⟨hcompleted.1, fun hr ↦ hstalled ⟨hcompleted.1, hr⟩, hcompleted.2⟩

theorem decision_advance
    (h : r.decision = .advanceEpoch ∨ r.decision = .runStallConfirmationEpoch) :
    0 < r.recoveryAttemptsRemaining := by
  unfold decision at h
  grind

theorem decision_stalled
    (hreason : r.recoveryReason = "recovery_required:reachable_frontiers_stalled")
    (hremaining : r.recoveryAttemptsRemaining = 0) : r.decision = .assessStallSaturation ∨
      r.decision = .failBelowMaterialGain ∨ r.decision = .failBudgetExhausted := by
  have hother : r.recoveryReason ≠ "recovery_required:frontier_attempts_exhausted" := by
    rw [hreason]
    decide
  simp only [decision, hother, hremaining, lt_irrefl, false_and, and_false, decide_false, if_false,
    Bool.false_eq_true]
  split_ifs <;> simp

end EpochRecovery

namespace SaturationEvidenceTracker

structure Idle (tracker : SaturationEvidenceTracker) (n : ℕ) : Prop where
  activeEpoch : tracker.activeEpoch = none
  probeStart : tracker.probeStart = none
  finalProbe : tracker.finalProbe = none
  epochs : ∀ e ∈ tracker.epochs.getLast?, e.epochId ≤ n

variable {tracker : SaturationEvidenceTracker} {n : ℕ} {c : ExplorationCounters}

theorem Idle.observed (h : tracker.Idle n) : Idle { tracker with counters := c } n :=
  ⟨h.activeEpoch, h.probeStart, h.finalProbe, h.epochs⟩

theorem Idle.beginEpoch (h : tracker.Idle n) : tracker.beginEpoch (n + 1) =
    .ok { tracker with activeEpoch := some (n + 1, tracker.counters) } := by
  have hids : tracker.epochs.getLast?.any (n + 1 ≤ ·.epochId) = false := by
    cases hlast : tracker.epochs.getLast? with
    | none => rfl
    | some e =>
      have hle := h.epochs e hlast
      exact decide_eq_false (by omega)
  rw [SaturationEvidenceTracker.beginEpoch, if_neg (Nat.succ_ne_zero n), h.activeEpoch,
    if_neg nofun, h.probeStart, if_neg nofun, hids, if_neg nofun]

theorem Idle.finishEpoch (h : tracker.Idle n) (hc : tracker.counters.Below c) :
    ∃ tracker', SaturationEvidenceTracker.finishEpoch
        { tracker with activeEpoch := some (n + 1, tracker.counters), counters := c } =
          .ok tracker' ∧ tracker'.Idle (n + 1) ∧ tracker'.counters = c := by
  refine ⟨{ tracker with
    epochs := tracker.epochs ++ [⟨n + 1, tracker.counters, c, Nat.succ_pos n, hc⟩]
    activeEpoch := none
    counters := c }, ?_, ⟨rfl, h.probeStart, h.finalProbe, ?_⟩, rfl⟩
  · simp only [SaturationEvidenceTracker.finishEpoch,
      ExplorationEpochEvidence.create_ok (Nat.succ_pos n) hc]
    rfl
  · intro e he
    rw [List.getLast?_append, List.getLast?_singleton, Option.some_or, Option.mem_some_iff] at he
    exact he ▸ le_rfl

theorem Idle.beginFinalProbe (h : tracker.Idle n) (trigger : SaturationTrigger) :
    tracker.beginFinalProbe trigger =
      .ok { tracker with probeStart := some (trigger, tracker.counters) } := by
  simp [SaturationEvidenceTracker.beginFinalProbe, h.activeEpoch, h.probeStart, h.finalProbe]

theorem finishFinalProbe_ok (trigger : SaturationTrigger) (hc : tracker.counters.Below c) :
    ∃ tracker', finishFinalProbe
      { tracker with probeStart := some (trigger, tracker.counters), counters := c } =
        .ok tracker' := by
  refine ⟨{ tracker with
    probeStart := none
    finalProbe := some ⟨trigger, tracker.counters, c, hc⟩
    counters := c }, ?_⟩
  simp only [finishFinalProbe, FinalProbeEvidence.create_ok trigger hc]
  rfl

theorem observe_cases (cells terminals : ℕ) (path : Double)
    (hterminals : tracker.counters.terminalGoalCount ≤ terminals)
    (hpath : tracker.counters.mappingPathM = 0 ∨ tracker.counters.mappingPathM ≤ path) :
    tracker.observe cells terminals path = .error .mappingPathInvalid ∨
      ∃ tracker', tracker.observe cells terminals path = .ok tracker' := by
  by_cases hvalid : path.isFinite = true ∧ ¬ path < 0
  · have hlt : ¬ path < tracker.counters.mappingPathM := by
      rcases hpath with h | h
      · exact h ▸ hvalid.2
      · exact fun hlt ↦ Double.lt_irrefl _ (Double.lt_of_le_of_lt h hlt)
    rw [observe, dif_pos hvalid, if_neg (not_lt.mpr hterminals), if_neg hlt]
    exact .inr ⟨_, rfl⟩
  · exact .inl (dif_neg hvalid)

end SaturationEvidenceTracker

structure Bounded (c : ExplorationCounters) (w : MissionWorld) : Prop where
  terminals : c.terminalGoalCount ≤ w.terminals
  path : c.mappingPathM = 0 ∨ c.mappingPathM ≤ w.evidence.mappingPathM

theorem Bounded.congr {c : ExplorationCounters} {w w' : MissionWorld} (h : Bounded c w)
    (he : w'.evidence = w.evidence) : Bounded c w' := by
  refine ⟨?_, he ▸ h.path⟩
  rw [MissionWorld.terminals, he]
  exact h.terminals

theorem Bounded.keeps {c : ExplorationCounters} {w w' : MissionWorld} (h : Bounded c w)
    (hk : Keeps w w') : Bounded c w' :=
  ⟨h.terminals.trans hk.terminals, h.path.imp_right (hk.path _)⟩

namespace UnknownWorldMissionExecutor

variable {env : MissionEnvironment} (henv : env.Monotone) (spec : UnknownWorldMissionSpec)

theorem port_keeps (env : MissionEnvironment) {call : PortCall}
    (hcall : ∀ reply : Except PortError call.Reply, (MissionEntry.port call reply).mark = none) :
    Relates Keeps Innocent (port env call) fun _ ↦ True := by
  refine fun w ↦ meets_invoke (fun reply _ ↦ ⟨trivial, ?_⟩) fun error _ ↦ ⟨⟨nofun, nofun⟩, ?_⟩
  · exact keeps_log (hcall (.ok reply)) w
  · exact keeps_log (hcall (.error error)) w

theorem noting_keeps {α : Type} {failure : MissionFailure} (h : Innocent failure) (stage : String)
    {m : Mission α} (hm : Relates Keeps Innocent m fun _ ↦ True) :
    Relates Keeps Innocent (noting failure stage m) Innocent :=
  (hm.bind fun _ _ ↦ relates_pure h).handle fun _ _ ↦ relates_pure h

theorem cleanup_keeps {α : Type} {failure : MissionFailure} (h : Innocent failure)
    (stopExplorer : Bool) :
    Relates Keeps Innocent (cleanupFailedFrontierEpoch env spec failure stopExplorer : Mission α)
      fun _ ↦ True := by
  refine Relates.bind (V := Innocent) (relates_ite (fun _ ↦ ?_) fun _ ↦ relates_pure h)
    fun failure h ↦ ?_
  · refine Relates.bind (noting_keeps h _ (port_keeps env fun _ ↦ rfl)) fun failure h ↦ ?_
    exact noting_keeps h _ (port_keeps env fun _ ↦ rfl)
  · refine (noting_keeps h _ (port_keeps env fun _ ↦ rfl)).bind fun failure h ↦ ?_
    exact relates_raise h

theorem stopExplorer_keeps :
    Relates Keeps Innocent (stopExplorer env spec) fun _ ↦ True :=
  (port_keeps env fun _ ↦ rfl).handle fun _ h ↦ cleanup_keeps spec h false

section Evidence

include henv

theorem snapshot_met (w : MissionWorld) {E : MissionFailure → MissionWorld → Prop}
    {U : MissionWorld → Prop} : Meets (snapshot env) w (fun snapshot w' ↦
      Keeps w w' ∧ snapshot = w'.evidence.snapshot) E U :=
  And.intro ((keeps_frame henv).evidence w id _ harmless_id) rfl

theorem observe_met {tracker : SaturationEvidenceTracker} {w : MissionWorld}
    (hb : Bounded tracker.counters w) (point : ObservationPoint) :
    Meets (observeSaturationTracker env point tracker) w
      (fun tracker' w' ↦ Keeps w w' ∧ ∃ c, tracker' = { tracker with counters := c } ∧
        tracker.counters.Below c ∧ Bounded c w')
      (fun failure w' ↦ Innocent failure ∧ Keeps w w') (Keeps w) := by
  refine (snapshot_met henv w).bind fun snapshot w₁ h ↦ ?_
  obtain ⟨hk, rfl⟩ := h
  have hb₁ := hb.keeps hk
  refine meets_modify_bind ?_
  have hcases := SaturationEvidenceTracker.observe_cases w₁.evidence.snapshot.stats.knownCells
    w₁.evidence.snapshot.frontierTelemetry.terminalCount w₁.evidence.snapshot.mappingPathM
    hb₁.terminals hb₁.path
  generalize hresult : tracker.observe w₁.evidence.snapshot.stats.knownCells
    w₁.evidence.snapshot.frontierTelemetry.terminalCount w₁.evidence.snapshot.mappingPathM = result
    at hcases ⊢
  have hk₂ := hk.trans (keeps_log (e := .observe point result.isOk) rfl w₁)
  rcases hcases with rfl | ⟨tracker', rfl⟩
  · refine meets_raise ⟨⟨nofun, fun e he ↦ ?_⟩, hk₂⟩
    cases he
    exact .inl rfl
  · obtain ⟨c, rfl, hbelow, hterminals, hpath⟩ := SaturationEvidenceTracker.observe_ok hresult
    refine meets_pure ⟨hk₂, c, rfl, hbelow, le_of_eq hterminals, .inr ?_⟩
    obtain ⟨q, hq, heq⟩ := Double.eq_finite_of_isFinite c.path_valid.1
    rw [← show c.mappingPathM = w₁.evidence.mappingPathM from hpath, heq]
    exact Double.finite_le_finite.mpr le_rfl

end Evidence

structure Exploring (R : ℕ) (st : ExplorationState) (w : MissionWorld) : Prop where
  idle : st.tracker.Idle st.epochId
  bounded : Bounded st.tracker.counters w
  remaining : 0 ≤ st.remaining
  epochs : st.epochId + st.remaining ≤ R + if st.finalConfirmationActive then 1 else 0
  marks : marks w.trace = ordinary st.epochId

structure Explored (R : ℕ) (st : ExplorationState) (w : MissionWorld) : Prop where
  idle : st.tracker.Idle st.epochId
  bounded : Bounded st.tracker.counters w
  remaining : 0 ≤ st.remaining
  epochs : st.epochId + st.remaining ≤ R + 1 + if st.finalConfirmationActive then 1 else 0
  marks : ∃ n, st.epochId = n + 1 ∧
    marks w.trace = ordinary n ++ [.epoch st.finalConfirmationActive, .start]

section Epochs

variable {R : ℕ} {st : ExplorationState} {w w' : MissionWorld}

theorem Exploring.lt (h : Exploring R st w) : st.epochId ≤ R + 1 := by
  have h₁ := h.epochs
  have h₂ := h.remaining
  split_ifs at h₁ <;> omega

theorem Exploring.safe (h : Exploring R st w) : Safe R w :=
  ⟨st.epochId, true, h.lt, h.marks ▸ List.prefix_append _ _⟩

theorem Exploring.keeps (h : Exploring R st w) (hk : Keeps w w') : Exploring R st w' :=
  ⟨h.idle, h.bounded.keeps hk, h.remaining, h.epochs, hk.marks.trans h.marks⟩

theorem Explored.keeps (h : Explored R st w) (hk : Keeps w w') : Explored R st w' :=
  ⟨h.idle, h.bounded.keeps hk, h.remaining, h.epochs, hk.marks ▸ h.marks⟩

theorem Explored.observed (h : Explored R st w) {c : ExplorationCounters} (hb : Bounded c w) :
    Explored R { st with tracker := { st.tracker with counters := c } } w :=
  ⟨h.idle.observed, hb, h.remaining, h.epochs, h.marks⟩

theorem Explored.lt (h : Explored R st w) {n : ℕ} (hn : st.epochId = n + 1) : n ≤ R + 1 := by
  have h₁ := h.epochs
  have h₂ := h.remaining
  split_ifs at h₁ <;> omega

theorem started_safe {n : ℕ} {c : Bool} (hn : n ≤ R + 1)
    (h : marks w.trace = ordinary n ++ [.epoch c, .start]) : Safe R w := by
  refine ⟨n, c, hn, [.probe], ?_⟩
  rw [h, List.append_assoc]
  rfl

theorem Explored.safe (h : Explored R st w) : Safe R w := by
  obtain ⟨n, hn, hmarks⟩ := h.marks
  exact started_safe (h.lt hn) hmarks

theorem Explored.probed (h : Explored R st w) (trigger : SaturationTrigger) :
    Safe R ⟨w.evidence, w.trace ++ [.finalProbe trigger]⟩ := by
  obtain ⟨n, hn, hmarks⟩ := h.marks
  refine ⟨n, st.finalConfirmationActive, h.lt hn, ?_⟩
  rw [marks_snoc, hmarks, List.append_assoc]
  exact List.prefix_rfl

theorem Explored.unconfirmed (h : Explored R st w) (hst : st.finalConfirmationActive = false) :
    Slam.marks w.trace = ordinary st.epochId := by
  obtain ⟨n, hn, hmarks⟩ := h.marks
  rw [hmarks, hst, hn, ordinary_succ]

theorem Explored.advance (h : Explored R st w) (hst : st.finalConfirmationActive = false)
    (hremaining : 0 < st.remaining) : Exploring R { st with remaining := st.remaining - 1 } w := by
  have hepochs := h.epochs
  rw [hst] at hepochs
  refine ⟨h.idle, h.bounded, Int.sub_nonneg_of_le hremaining, ?_, h.unconfirmed hst⟩
  simp only [hst, Bool.false_eq_true, if_false] at hepochs ⊢
  omega

theorem Explored.confirm (h : Explored R st w) (hst : st.finalConfirmationActive = false)
    (deadline : Option Double) : Exploring R { st with
      finalConfirmationActive := true
      finalConfirmationDeadline := deadline } w := by
  have hepochs := h.epochs
  rw [hst] at hepochs
  refine ⟨h.idle, h.bounded, h.remaining, ?_, h.unconfirmed hst⟩
  simpa using hepochs

end Epochs

section Rounds

variable {R : ℕ} {st : ExplorationState} {w : MissionWorld}

theorem stallProbeActive_iff {outcome : String} {remaining : ℤ} {telemetry : FrontierTelemetry} :
    stallProbeActive spec outcome remaining telemetry = true ↔
      outcome = "recovery_required:reachable_frontiers_stalled" ∧ remaining = 0 ∧
        0 < (spec.maxRecoveryAttempts : ℤ) - remaining ∧ telemetry.availableFrontierCount = 0 ∧
        telemetry.activeGoalCount = 0 := by
  rw [stallProbeActive, decide_eq_true_iff]

theorem assess_probed {outcome : String} {before settled : MappingEvidenceSnapshot}
    {displacement : Option Double} (hremaining : 0 ≤ st.remaining)
    (h : (epochRecovery spec st outcome before displacement settled).decision =
      .assessStallSaturation) :
    stallProbeActive spec outcome st.remaining before.frontierTelemetry = true := by
  obtain ⟨⟨hreason, hterminal⟩, hnone, hcompleted⟩ := EpochRecovery.decision_assess h
  obtain ⟨havailable, hactive, -⟩ := of_decide_eq_true hterminal
  exact (stallProbeActive_iff spec).mpr
    ⟨hreason, le_antisymm (not_lt.mp hnone) hremaining, hcompleted, havailable, hactive⟩

theorem beginStallProbe_met {tracker : SaturationEvidenceTracker} {n : ℕ} (h : tracker.Idle n)
    {E : MissionFailure → MissionWorld → Prop} {U : MissionWorld → Prop} :
    Meets (beginStallProbe tracker) w (fun tracker' w' ↦
      tracker' = { tracker with
        probeStart := some (.repeatedReachableStall, tracker.counters) } ∧
      w' = ⟨w.evidence, w.trace ++ [.finalProbe .repeatedReachableStall]⟩) E U := by
  rw [beginStallProbe, h.beginFinalProbe]
  exact And.intro rfl rfl

include henv

theorem observe_proceeds {β : Type} {Q : β → MissionWorld → Prop}
    {tracker : SaturationEvidenceTracker} (hb : Bounded tracker.counters w) (hs : Safe R w)
    (point : ObservationPoint) {f : SaturationEvidenceTracker → Mission β}
    (hf : ∀ c w', Keeps w w' → tracker.counters.Below c → Bounded c w' →
      Proceeds R (f { tracker with counters := c }) w' Q) :
    Proceeds R (observeSaturationTracker env point tracker >>= f) w Q := by
  refine Meets.bind ((observe_met henv hb point).mono (fun tracker' w' ↦ id) ?_ ?_) ?_
  · exact fun failure w' h ↦ ⟨h.1, hs.keeps h.2⟩
  · exact fun w' h ↦ hs.keeps h
  · rintro tracker' w' ⟨hk, c, rfl, hbelow, hb'⟩
    exact hf c w' hk hbelow hb'

theorem exploreFrontier_proceeds (h : Exploring R st w) (deadline : Double) :
    Proceeds R (exploreFrontier env spec deadline st) w fun r w' ↦ Explored R r.1 w' := by
  have frame := keeps_frame henv
  refine proceeds_bind (transition_relates frame _) h.safe fun _ w₁ hk₁ ↦ ?_
  have h₁ := h.keeps hk₁
  refine observe_proceeds henv h₁.bounded h₁.safe .epochStart fun c w₂ hk₂ hbelow hb₂ ↦ ?_
  have h₂ := h₁.keeps hk₂
  refine meets_ofTracker (h₂.idle.observed (c := c)).beginEpoch (meets_modify_bind ?_)
  have hmarks : Slam.marks (w₂.trace ++ [.epoch (st.epochId + 1) st.finalConfirmationActive]) =
      ordinary st.epochId ++ [.epoch st.finalConfirmationActive] := by
    rw [marks_snoc, h₂.marks]
    rfl
  have hstarted (reply : Except PortError Unit) : Slam.marks
      (w₂.trace ++ [.epoch (st.epochId + 1) st.finalConfirmationActive] ++
        [.port (.startExplorer spec.explorerConfigPath) reply]) =
      ordinary st.epochId ++ [.epoch st.finalConfirmationActive, .start] := by
    rw [marks_snoc, hmarks, List.append_assoc]
    rfl
  refine Meets.bind (R := fun _ w₃ ↦ w₃.evidence = w₂.evidence ∧ Slam.marks w₃.trace =
    ordinary st.epochId ++ [.epoch st.finalConfirmationActive, .start])
    (meets_invoke (fun reply _ ↦ ⟨rfl, hstarted (.ok reply)⟩)
      fun error _ ↦ ⟨⟨nofun, nofun⟩, started_safe h₂.lt (hstarted (.error error))⟩)
    fun _ w₃ h₃ ↦ ?_
  have hs₃ := started_safe h₂.lt h₃.2
  refine proceeds_bind (Relates.handle (port_keeps env fun _ ↦ rfl) fun _ hf ↦
    cleanup_keeps spec hf true) hs₃ fun outcome w₄ hk₄ ↦ ?_
  have hb₄ := (hb₂.congr h₃.1).keeps hk₄
  refine observe_proceeds henv hb₄ (hs₃.keeps hk₄) .afterWait fun c' w₅ hk₅ hbelow' hb₅ ↦ ?_
  obtain ⟨tracker, hfinished, hidle, rfl⟩ := (h₂.idle.observed (c := c)).finishEpoch hbelow'
  refine meets_ofTracker hfinished (meets_pure ⟨hidle, hb₅, h₂.remaining, ?_, ?_⟩)
  · have hepochs := h₂.epochs
    split_ifs at hepochs ⊢ <;> push_cast <;> omega
  · exact ⟨st.epochId, rfl, ((hk₄.trans hk₅).marks).trans h₃.2⟩

theorem finishProbe_proceeds {tracker : SaturationEvidenceTracker}
    (hb : Bounded tracker.counters w) (hs : Safe R w)
    (trigger : SaturationTrigger) :
    Proceeds R (finishProbe env { tracker with probeStart := some (trigger, tracker.counters) }) w
      fun _ w' ↦ Safe R w' := by
  let probing : SaturationEvidenceTracker :=
    { tracker with probeStart := some (trigger, tracker.counters) }
  have hb' : Bounded probing.counters w := hb
  refine observe_proceeds henv hb' hs .afterScan fun c w' hk hbelow _ ↦ ?_
  obtain ⟨tracker', h⟩ := SaturationEvidenceTracker.finishFinalProbe_ok trigger hbelow
  refine meets_ofExcept (fun _ _ ↦ hs.keeps hk) fun failure hf ↦ ?_
  cases hf.symm.trans (congrArg (Except.mapError _) h)

theorem assessTimeBudgetSaturation_proceeds (h : Explored R st w) (fuel : ℕ)
    (telemetry : FrontierTelemetry) :
    Proceeds R (assessTimeBudgetSaturation env spec fuel st.tracker telemetry st.remaining) w
      fun _ w' ↦ Safe R w' := by
  have frame := keeps_frame henv
  refine proceeds_bind (stopMotionAndWait_relates frame spec _) h.safe fun _ w₁ hk₁ ↦ ?_
  have h₁ := h.keeps hk₁
  refine proceeds_bind (updateEvidence_relates frame harmless_finishMappingPath) h₁.safe
    fun _ w₂ hk₂ ↦ ?_
  have h₂ := h₁.keeps hk₂
  refine meets_ofTracker (h₂.idle.beginFinalProbe .timeBudget) (meets_modify_bind ?_)
  have hs₃ := h₂.probed .timeBudget
  have hb₃ : Bounded st.tracker.counters
      ⟨w₂.evidence, w₂.trace ++ [.finalProbe .timeBudget]⟩ := h₂.bounded.congr rfl
  refine proceeds_bind (recoveryScan_relates frame spec) hs₃ fun _ w₄ hk₄ ↦ ?_
  refine proceeds_bind (waitForMapQuiet_relates frame spec _ _) (hs₃.keeps hk₄) fun _ w₅ hk₅ ↦ ?_
  have hb₅ := (hb₃.keeps hk₄).keeps hk₅
  refine Meets.bind (finishProbe_proceeds henv hb₅ ((hs₃.keeps hk₄).keeps hk₅) .timeBudget)
    fun tracker w₆ hs₆ ↦ ?_
  exact (finalizeSaturationAssessment_relates frame spec _ _
    (fun hr ↦ absurd h.remaining (not_le.mpr hr)) _ _ _ w₆).mono
    (fun _ _ h ↦ hs₆.keeps h.2) (fun _ _ h ↦ ⟨h.1, hs₆.keeps h.2⟩) fun _ ↦ hs₆.keeps

def Leaves (R : ℕ) (r : ExplorationState ⊕ ExplorationRunOutcome) (w : MissionWorld) : Prop :=
  r.elim (Exploring R · w) fun _ ↦ Safe R w

theorem timeBudgetReached_proceeds (h : Explored R st w) (fuel : ℕ) :
    Proceeds R (timeBudgetReached env spec fuel st) w (Leaves R) := by
  have frame := keeps_frame henv
  refine proceeds_bind (port_keeps env fun _ ↦ rfl) h.safe fun telemetry w₁ hk₁ ↦ ?_
  have h₁ := h.keeps hk₁
  refine proceeds_bind (stopExplorer_keeps spec) h₁.safe fun _ w₂ hk₂ ↦ ?_
  have h₂ := h₁.keeps hk₂
  refine meets_ite (fun hgranted ↦ ?_) fun _ ↦ ?_
  · refine proceeds_bind (stopMotionAndWait_relates frame spec _) h₂.safe fun _ w₃ hk₃ ↦ ?_
    have h₃ := h₂.keeps hk₃
    refine proceeds_bind (recoveryScan_relates frame spec) h₃.safe fun _ w₄ hk₄ ↦ ?_
    have h₄ := h₃.keeps hk₄
    refine proceeds_bind (waitForMapQuiet_relates frame spec _ _) h₄.safe fun _ w₅ hk₅ ↦ ?_
    have h₅ := h₄.keeps hk₅
    refine observe_proceeds henv h₅.bounded h₅.safe .afterScan fun c w₆ hk₆ _ hb₆ ↦ ?_
    have h₆ := (h₅.keeps hk₆).observed hb₆
    refine proceeds_bind (monotonic_relates frame) h₆.safe fun now w₇ hk₇ ↦ ?_
    have h₇ := h₆.keeps hk₇
    refine proceeds_bind (transition_relates frame _) h₇.safe fun _ w₈ hk₈ ↦ ?_
    have h₈ := h₇.keeps hk₈
    refine proceeds_bind (resumeExploration_relates frame) h₈.safe fun _ w₉ hk₉ ↦ meets_pure ?_
    exact (h₈.keeps hk₉).confirm hgranted.1 _
  · exact (assessTimeBudgetSaturation_proceeds henv spec h₂ fuel telemetry).bind
      fun _ _ hs ↦ meets_pure hs

theorem scanAfterEpoch_proceeds (h : Explored R st w) (fuel : ℕ) (outcome : String)
    (stallProbe : Bool) :
    Proceeds R (scanAfterEpoch env spec fuel outcome st.remaining stallProbe st.tracker) w
      fun r w' ↦ Safe R w' ∧ (stallProbe = false → Explored R { st with tracker := r.1 } w') := by
  have frame := keeps_frame henv
  cases stallProbe with
  | false =>
    refine Meets.bind (R := fun t w' ↦ t = st.tracker ∧ w' = w) (meets_pure ⟨rfl, rfl⟩) ?_
    rintro _ _ ⟨rfl, rfl⟩
    refine proceeds_bind (recoveryBackup_relates frame spec _ _) h.safe fun displacement w₁ hk₁ ↦ ?_
    have h₁ := h.keeps hk₁
    refine proceeds_bind (recoveryScan_relates frame spec) h₁.safe fun _ w₂ hk₂ ↦ ?_
    have h₂ := h₁.keeps hk₂
    refine proceeds_bind (waitForMapQuiet_relates frame spec _ _) h₂.safe fun settled w₃ hk₃ ↦ ?_
    have h₃ := h₂.keeps hk₃
    exact meets_pure ⟨h₃.safe, fun _ ↦ h₃⟩
  | true =>
    refine Meets.bind (beginStallProbe_met h.idle) ?_
    rintro tracker w₁ ⟨rfl, rfl⟩
    have hs₁ := h.probed .repeatedReachableStall
    have hb₁ : Bounded st.tracker.counters
        ⟨w.evidence, w.trace ++ [.finalProbe .repeatedReachableStall]⟩ := h.bounded.congr rfl
    refine proceeds_bind (recoveryBackup_relates frame spec _ _) hs₁ fun displacement w₂ hk₂ ↦ ?_
    refine proceeds_bind (recoveryScan_relates frame spec) (hs₁.keeps hk₂) fun _ w₃ hk₃ ↦ ?_
    have hk₃' := hk₂.trans hk₃
    refine proceeds_bind (waitForMapQuiet_relates frame spec _ _) (hs₁.keeps hk₃')
      fun _ w₄ hk₄ ↦ ?_
    have hk₄' := hk₃'.trans hk₄
    refine Meets.bind (finishProbe_proceeds henv (hb₁.keeps hk₄') (hs₁.keeps hk₄')
      .repeatedReachableStall) fun tracker w₅ hs₅ ↦ ?_
    exact meets_pure ⟨hs₅, nofun⟩

theorem applyDecision_proceeds {r : EpochRecovery} {stallProbe : Bool} (hs : Safe R w)
    (h : stallProbe = false → Explored R st w) (hst : st.finalConfirmationActive = false)
    (hremaining : 0 ≤ st.remaining) (hr : r.recoveryAttemptsRemaining = st.remaining)
    (hprobe : stallProbe = true →
      r.recoveryReason = "recovery_required:reachable_frontiers_stalled" ∧ st.remaining = 0)
    (hassess : r.decision = .assessStallSaturation → stallProbe = true) (detail : String)
    (telemetry : FrontierTelemetry) (settled : MappingEvidenceSnapshot) :
    Proceeds R (applyDecision env spec st r stallProbe detail telemetry settled) w (Leaves R) := by
  have frame := keeps_frame henv
  have hgo (hd : r.decision ≠ .assessStallSaturation) (hb : r.decision ≠ .failBelowMaterialGain)
      (hf : r.decision ≠ .failBudgetExhausted) : Explored R st w := by
    refine h (Bool.eq_false_iff.mpr fun hstall ↦ ?_)
    obtain ⟨hreason, hzero⟩ := hprobe hstall
    rcases EpochRecovery.decision_stalled hreason (hr.trans hzero) with h | h | h
    · exact hd h
    · exact hb h
    · exact hf h
  unfold applyDecision
  split
  next hd =>
    refine proceeds_bind (updateEvidence_relates frame (harmless_setCompletionReason _)) hs
      fun _ w₁ hk₁ ↦ meets_pure ?_
    exact hs.keeps hk₁
  next hd =>
    rw [if_neg (by rw [hassess hd]; simp)]
    refine proceeds_bind (finalizeSaturationAssessment_relates frame spec _ _
      (fun hnegative ↦ absurd hremaining (not_le.mpr hnegative)) _ _ _) hs
      fun _ w₁ hk₁ ↦ meets_pure ?_
    exact hs.keeps hk₁
  next hd =>
    have h := hgo (by simp [hd]) (by simp [hd]) (by simp [hd])
    refine proceeds_bind (monotonic_relates frame) hs fun now w₁ hk₁ ↦ ?_
    have h₁ := h.keeps hk₁
    refine proceeds_bind (resumeExploration_relates frame) h₁.safe fun _ w₂ hk₂ ↦ meets_pure ?_
    exact (h₁.keeps hk₂).confirm hst _
  next hd => exact meets_raise ⟨frame.failure _ rfl, hs⟩
  next hd => exact meets_raise ⟨frame.failure _ rfl, hs⟩
  all_goals
    rename_i hd
    have h := hgo (by simp [hd]) (by simp [hd]) (by simp [hd])
    have hpositive := EpochRecovery.decision_advance (r := r) (by simp [hd])
    refine proceeds_bind (resumeExploration_relates frame) hs fun _ w₁ hk₁ ↦ meets_pure ?_
    exact (h.keeps hk₁).advance hst (hr ▸ hpositive)

theorem recover_proceeds (h : Explored R st w) (hst : st.finalConfirmationActive = false)
    (fuel : ℕ) (outcome : String) :
    Proceeds R (recover env spec fuel st outcome) w (Leaves R) := by
  have frame := keeps_frame henv
  refine proceeds_bind (updateEvidence_relates frame harmless_finishMappingPath) h.safe
    fun _ w₁ hk₁ ↦ ?_
  have h₁ := h.keeps hk₁
  refine proceeds_bind (transition_relates frame _) h₁.safe fun _ w₂ hk₂ ↦ ?_
  have h₂ := h₁.keeps hk₂
  refine proceeds_bind (stopMotionAndWait_relates frame spec _) h₂.safe fun _ w₃ hk₃ ↦ ?_
  have h₃ := h₂.keeps hk₃
  refine proceeds_bind (canceled_relates frame) h₃.safe fun canceled w₄ hk₄ ↦ ?_
  have h₄ := h₃.keeps hk₄
  refine meets_ite (fun _ ↦ meets_raise ⟨⟨nofun, nofun⟩, h₄.safe⟩) fun _ ↦ ?_
  refine proceeds_bind (snapshot_relates frame) h₄.safe fun before w₅ hk₅ ↦ ?_
  have h₅ := h₄.keeps hk₅
  refine Meets.bind (scanAfterEpoch_proceeds henv spec h₅ fuel outcome
    (stallProbeActive spec outcome st.remaining before.frontierTelemetry)) ?_
  rintro ⟨tracker, displacement, settled⟩ w₆ ⟨hs₆, h₆⟩
  dsimp only at h₆ ⊢
  split
  next message _ => exact meets_raise ⟨⟨nofun, nofun⟩, hs₆⟩
  next =>
    refine proceeds_bind (transition_relates frame _) hs₆ fun _ w₇ hk₇ ↦ ?_
    refine applyDecision_proceeds henv spec (hs₆.keeps hk₇) (fun hprobe ↦ (h₆ hprobe).keeps hk₇) hst
      h.remaining rfl (fun hprobe ↦ ?_) (assess_probed spec h.remaining) _ _ _
    obtain ⟨hreason, hzero, -⟩ := (stallProbeActive_iff spec).mp hprobe
    exact ⟨hreason, hzero⟩

theorem exploreEpoch_proceeds (h : Exploring R st w) (fuel : ℕ) (deadline : Double) :
    Proceeds R (exploreEpoch env spec fuel deadline st) w (Leaves R) := by
  have frame := keeps_frame henv
  refine Meets.bind (exploreFrontier_proceeds henv spec h deadline) ?_
  rintro ⟨st, outcome⟩ w₁ h₁
  refine meets_ite (fun _ ↦ timeBudgetReached_proceeds henv spec h₁ fuel) fun _ ↦ ?_
  refine proceeds_bind (stopExplorer_keeps spec) h₁.safe fun _ w₂ hk₂ ↦ ?_
  have h₂ := h₁.keeps hk₂
  refine meets_ite (fun _ ↦ ?_) fun hended ↦ meets_ite (fun _ ↦ ?_) fun hrecovery ↦ ?_
  · exact proceeds_bind (confirmationEnded_relates frame spec outcome) h₂.safe fun _ w₃ hk₃ ↦
      meets_pure (h₂.safe.keeps hk₃)
  · exact proceeds_bind (updateEvidence_relates frame (harmless_setCompletionReason _)) h₂.safe
      fun _ w₃ hk₃ ↦ meets_pure (h₂.safe.keeps hk₃)
  · refine recover_proceeds henv spec h₂ ?_ fuel outcome
    rw [Bool.eq_false_iff]
    exact fun hst ↦ hended ⟨hst, Bool.eq_true_of_not_eq_false hrecovery⟩

/-- However often its loops go round, the exploration follows the protocol of its evidence. -/
theorem exploration_disciplined (evidence : MappingEvidenceTracker) (epochFuel quietFuel : ℕ) :
    Meets (exploreWithBoundedRecovery env spec epochFuel quietFuel) ⟨evidence, []⟩
      (fun _ w ↦ Disciplined spec.maxRecoveryAttempts (marks w.trace))
      (fun failure w ↦ Innocent failure ∧ Disciplined spec.maxRecoveryAttempts (marks w.trace))
      fun w ↦ Disciplined spec.maxRecoveryAttempts (marks w.trace) := by
  have hproceeds : Proceeds spec.maxRecoveryAttempts
      (exploreWithBoundedRecovery env spec epochFuel quietFuel) ⟨evidence, []⟩
      fun _ w ↦ Safe spec.maxRecoveryAttempts w := by
    have hstart : Exploring spec.maxRecoveryAttempts { remaining := spec.maxRecoveryAttempts }
        ⟨evidence, []⟩ := by
      refine ⟨⟨rfl, rfl, rfl, ?_⟩, ⟨Nat.zero_le _, .inl rfl⟩, Int.natCast_nonneg _, ?_, rfl⟩
      · simp
      · simp
    refine proceeds_bind (monotonic_relates (keeps_frame henv)) hstart.safe fun now w hk ↦ ?_
    refine meets_iterate (I := Exploring spec.maxRecoveryAttempts) (fun st w h ↦ ?_)
      (fun st w h ↦ h.safe) epochFuel (hstart.keeps hk)
    exact exploreEpoch_proceeds henv spec h quietFuel _
  exact hproceeds.mono (fun _ _ h ↦ h.disciplined) (fun _ _ h ↦ ⟨h.1, h.2.disciplined⟩)
    fun _ h ↦ h.disciplined

end Rounds

/-- A mission with one attempt to recover. -/
def oneAttempt : UnknownWorldMissionSpec where
  explorerConfigPath := "explore.yaml"
  explorationTimeoutS := .ofRat 900
  actionTimeoutS := .ofRat 5
  recoveryScanText := "turn around"
  recoveryBackup :=
    { distanceM := .ofRat (1 / 4)
      speedMps := .ofRat (1 / 8)
      timeoutS := .ofRat 10
      minimumDisplacementM := .ofRat (1 / 8)
      finite := by decide +kernel
      distance_valid := by decide +kernel
      speed_valid := by decide +kernel
      displacement_valid := by decide +kernel
      timeout_valid := by decide +kernel }
  maxRecoveryAttempts := 1
  minimumEpochMapGainCells := 40
  minimumEpochMapGainRatio := .ofRat (1 / 100)
  mapSettleS := .ofRat 2
  timeouts_valid := by decide +kernel
  ratio_valid := by decide +kernel
  settle_valid := by decide +kernel

/-- Every call succeeds, and every search stalls. -/
def stalling : MissionEnvironment where
  answer _ call :=
    match call with
    | .waitForFrontier .. => .ok "recovery_required:reachable_frontiers_stalled"
    | .quiesceFrontier .. => .ok ({} : FrontierTelemetry)
    | .runRecoveryBackup .. => .ok (.ofRat (1 / 4))
    | .transition _ | .startExplorer _ | .stopExplorer | .stopMotionAndWait ..
    | .runAgentAction .. => .ok ()
  clock tr := .ofRat (10 * tr.length)
  canceled _ := false
  record _ evidence := evidence

theorem stalling_monotone : stalling.Monotone := by
  refine ⟨fun _ _ ↦ le_rfl, fun _ evidence h ↦ ?_⟩
  exact (Double.le_iff_not_lt h h).mpr (Double.lt_irrefl _)

theorem exploration_disciplined_stalling :
    let run := exploreWithBoundedRecovery stalling oneAttempt 3 1
    marks (run ⟨.create 10 0 0, []⟩).2.trace =
        [.epoch false, .start, .epoch false, .start, .probe] ∧
      Meets run ⟨.create 10 0 0, []⟩ (fun _ w ↦ Disciplined 1 (marks w.trace))
        (fun failure w ↦ Innocent failure ∧ Disciplined 1 (marks w.trace))
        fun w ↦ Disciplined 1 (marks w.trace) :=
  ⟨by decide +kernel, exploration_disciplined stalling_monotone oneAttempt (.create 10 0 0) 3 1⟩

end UnknownWorldMissionExecutor

end EmbodiedAgent.Slam
