import EmbodiedAgent.Slam.FrontierEpochs

namespace EmbodiedAgent.Slam

open Library Library.History

theorem FrontierTelemetry.Follows.of {later before : FrontierTelemetry} (h : later.Follows before)
    (c : GoalCounter) : c.of before ≤ c.of later := by
  obtain ⟨haccepted, hsucceeded, haborted, hcanceled⟩ := h
  cases c
  · exact haccepted
  · exact hsucceeded
  · exact haborted
  · exact hcanceled

theorem FrontierTelemetry.Follows.trans {t₁ t₂ t₃ : FrontierTelemetry} (h : t₃.Follows t₂)
    (h' : t₂.Follows t₁) : t₃.Follows t₁ :=
  ⟨(h'.of .accepted).trans (h.of .accepted), (h'.of .succeeded).trans (h.of .succeeded),
    (h'.of .aborted).trans (h.of .aborted), (h'.of .canceled).trans (h.of .canceled)⟩

namespace GoalCounter

def total (totals : FrontierActionTotals) : GoalCounter → ℕ
  | .accepted => totals.acceptedGoalCount
  | .succeeded => totals.succeededGoalCount
  | .aborted => totals.abortedGoalCount
  | .canceled => totals.canceledGoalCount

variable (c : GoalCounter)

theorem of_empty : c.of {} = 0 := by cases c <;> rfl

theorem of_snapshot (tracker : MappingEvidenceTracker) :
    c.of tracker.snapshot.frontierTelemetry =
      c.of tracker.frontierTelemetry + c.total tracker.frontierActionTotals := by
  cases c <;> rfl

theorem total_reset (tracker : MappingEvidenceTracker)
    (growthNow activityNow : Double) :
    c.total (tracker.resetExploration true growthNow activityNow).frontierActionTotals =
      c.total tracker.frontierActionTotals + c.of tracker.frontierTelemetry := by
  cases c <;> rfl

end GoalCounter

theorem FrontierWait.poll_frontier (w : FrontierWait) (r : MonitorReading) :
    (w.poll r).1.tracker.frontierTelemetry = w.tracker.frontierTelemetry ∧
      (w.poll r).1.tracker.frontierActionTotals = w.tracker.frontierActionTotals := by
  have hconclude : ∀ reason, (w.conclude reason).1.tracker.frontierTelemetry =
      w.tracker.frontierTelemetry ∧ (w.conclude reason).1.tracker.frontierActionTotals =
        w.tracker.frontierActionTotals := by
    intro reason
    unfold conclude
    split <;> exact ⟨rfl, rfl⟩
  unfold poll
  split
  · split
    · split <;> exact ⟨rfl, rfl⟩
    · exact ⟨rfl, rfl⟩
  · split
    · unfold round
      dsimp only
      split
      · exact ⟨rfl, rfl⟩
      · split
        · exact ⟨rfl, rfl⟩
        · split
          · exact ⟨rfl, rfl⟩
          · exact hconclude _
          · split <;> exact ⟨rfl, rfl⟩
    · exact ⟨rfl, rfl⟩
  · unfold expire
    dsimp only
    split
    · exact ⟨rfl, rfl⟩
    · exact hconclude _
    · exact ⟨rfl, rfl⟩
  · exact ⟨rfl, rfl⟩

namespace FrontierMission

variable (s : FrontierMission)

/-- The report that the evidence holds. -/
def telemetry : FrontierTelemetry := s.wait.tracker.frontierTelemetry

/-- A counter as the snapshot has it. -/
def cumulative (c : GoalCounter) : ℕ := c.of s.wait.tracker.snapshot.frontierTelemetry

/-- What the explorer of an epoch has counted up to its last message. -/
def final (epoch : ℕ) (c : GoalCounter) : ℕ := (s.published epoch).getLast?.elim 0 c.of

/-- The last message of every explorer of the mission has been recorded. -/
def LastRecorded : Prop :=
  ∀ epoch ∈ Finset.Icc 1 s.epoch, s.published epoch ≠ [] →
    (epoch, (s.published epoch).length - 1) ∈ s.recorded

instance : Decidable s.LastRecorded :=
  inferInstanceAs (Decidable (∀ epoch ∈ Finset.Icc 1 s.epoch, s.published epoch ≠ [] →
    (epoch, (s.published epoch).length - 1) ∈ s.recorded))

def InTime (s : FrontierMission) : FrontierMissionEvent → Prop
  | .onExploreStatus epoch index _ =>
    epoch = s.epoch ∧ ∀ p ∈ s.recorded, p.1 = epoch → p.2 < index
  | _ => True

instance (s : FrontierMission) : (e : FrontierMissionEvent) → Decidable (s.InTime e)
  | .onExploreStatus .. => inferInstanceAs (Decidable (_ ∧ _))
  | .startExplorer .. | .publish _ | .recordMap .. | .recordOdom .. | .poll _ | .stopExplorer
  | .finishMappingPath | .resetExploration .. | .resumeMappingPath => .isTrue trivial

def heard (epoch : ℕ) : Option FrontierTelemetry :=
  (s.recorded.find? (·.1 = epoch)).bind fun p ↦ (s.published epoch)[p.2]?

def heardCount (epoch : ℕ) (c : GoalCounter) : ℕ := (s.heard epoch).elim 0 c.of

structure Exact : Prop where
  positive : 1 ≤ s.epoch
  ahead : ∀ epoch, s.epoch < epoch → s.published epoch = []
  grows : ∀ epoch, 1 ≤ epoch →
    (s.published epoch).Pairwise fun before later ↦ later.Follows before
  recorded : ∀ p ∈ s.recorded, p.2 < (s.published p.1).length
  newest : s.recorded.Pairwise fun p q ↦ p.1 = q.1 → q.2 < p.2
  telemetry : s.telemetry = (s.heard s.epoch).getD {}
  totals : ∀ c : GoalCounter, c.total s.wait.tracker.frontierActionTotals =
    ∑ epoch ∈ Finset.Ico 1 s.epoch, s.heardCount epoch c

variable {s} {hypot : Double → Double → Double} {config : FrontierMonitorConfig}

theorem heard_of_recorded {epoch : ℕ} {p : ℕ × ℕ} (h : s.recorded.find? (·.1 = epoch) = some p) :
    s.heard epoch = (s.published epoch)[p.2]? := by
  rw [heard, h, Option.bind_some]

theorem mem_of_heard {epoch : ℕ} {t : FrontierTelemetry} (h : s.heard epoch = some t) :
    t ∈ s.published epoch := by
  obtain ⟨p, -, ht⟩ := Option.bind_eq_some_iff.mp h
  exact List.mem_of_getElem? ht

theorem Exact.own (h : s.Exact) : s.telemetry = {} ∨ s.telemetry ∈ s.published s.epoch := by
  rw [h.telemetry]
  cases hheard : s.heard s.epoch with
  | none => exact .inl rfl
  | some t => exact .inr (mem_of_heard hheard)

theorem of_telemetry (h : s.Exact) (c : GoalCounter) :
    c.of s.telemetry = s.heardCount s.epoch c := by
  rw [h.telemetry, heardCount]
  cases s.heard s.epoch with
  | none => exact c.of_empty
  | some t => rfl

theorem Exact.cumulative (h : s.Exact) (c : GoalCounter) :
    s.cumulative c = ∑ epoch ∈ Finset.Icc 1 s.epoch, s.heardCount epoch c := by
  rw [FrontierMission.cumulative, c.of_snapshot, h.totals, ← Finset.Ico_add_one_right_eq_Icc,
    Finset.sum_Ico_succ_top h.positive, Nat.add_comm]
  exact congrArg _ (of_telemetry h c)

theorem of_le_final {epoch : ℕ}
    (hgrows : (s.published epoch).Pairwise fun before later ↦ later.Follows before)
    {t : FrontierTelemetry} (ht : t ∈ s.published epoch) (c : GoalCounter) :
    c.of t ≤ s.final epoch c := by
  rw [final]
  rcases List.eq_nil_or_concat (s.published epoch) with hnil | ⟨before, last, hlast⟩
  · rw [hnil] at ht
    cases ht
  · rw [List.concat_eq_append] at hlast
    rw [hlast] at ht hgrows ⊢
    rw [List.getLast?_append_of_ne_nil _ (List.cons_ne_nil last []), List.getLast?_singleton]
    rcases List.mem_append.mp ht with hbefore | hsame
    · exact ((List.pairwise_append.mp hgrows).2.2 t hbefore last (List.mem_singleton.mpr rfl)).of c
    · rw [List.mem_singleton.mp hsame]
      exact le_rfl

theorem Exact.heardCount_le (h : s.Exact) {epoch : ℕ} (hpositive : 1 ≤ epoch) (c : GoalCounter) :
    s.heardCount epoch c ≤ s.final epoch c := by
  rw [heardCount]
  cases hheard : s.heard epoch with
  | none => exact Nat.zero_le _
  | some t => exact of_le_final (h.grows epoch hpositive) (mem_of_heard hheard) c

theorem Exact.heardCount_last (h : s.Exact) {epoch : ℕ} (c : GoalCounter)
    (hlast : s.published epoch ≠ [] →
      (epoch, (s.published epoch).length - 1) ∈ s.recorded) :
    s.heardCount epoch c = s.final epoch c := by
  by_cases hnil : s.published epoch = []
  · rw [heardCount, heard, final, hnil]
    cases s.recorded.find? (·.1 = epoch) <;> rfl
  · have hmem := hlast hnil
    obtain ⟨p, hp⟩ := Option.isSome_iff_exists.mp
      (List.find?_isSome.mpr ⟨_, hmem, decide_eq_true rfl⟩ :
        (s.recorded.find? (·.1 = epoch)).isSome)
    have hepoch : p.1 = epoch := by simpa using List.find?_some hp
    have hlt := h.recorded p (List.mem_of_find?_eq_some hp)
    have hfirst : (s.published epoch).length - 1 ≤ p.2 := by
      obtain ⟨-, before, after, hsplit, hbefore⟩ := List.find?_eq_some_iff_append.mp hp
      have hnewest := h.newest
      rw [hsplit] at hmem hnewest
      rcases List.mem_append.mp hmem with hearlier | hlater
      · simpa using hbefore _ hearlier
      · rcases List.mem_cons.mp hlater with heq | hold
        · exact (congrArg Prod.snd heq).le
        · have hpair := List.rel_of_pairwise_cons (List.pairwise_append.mp hnewest).2.1 hold
          exact (hpair hepoch).le
    rw [hepoch] at hlt
    rw [heardCount, heard_of_recorded hp, final, List.getLast?_eq_getElem?]
    congr 2
    omega

variable {s' : FrontierMission}

theorem Exact.heard_eq (h : s.Exact) (hrecorded : s'.recorded = s.recorded)
    (hgrown : ∀ epoch, s.published epoch <+: s'.published epoch) (epoch : ℕ) :
    s'.heard epoch = s.heard epoch := by
  rw [heard, heard, hrecorded]
  cases hfind : s.recorded.find? (·.1 = epoch) with
  | none => rfl
  | some p =>
    have hepoch : p.1 = epoch := by simpa using List.find?_some hfind
    have hlt := h.recorded p (List.mem_of_find?_eq_some hfind)
    rw [hepoch] at hlt
    rw [Option.bind_some, Option.bind_some, List.getElem?_eq_getElem hlt]
    exact ((List.prefix_iff_getElem?.mp (hgrown epoch)) p.2 hlt)

theorem Exact.of_grown (h : s.Exact) (hepoch : s'.epoch = s.epoch)
    (hrecorded : s'.recorded = s.recorded) (htelemetry : s'.telemetry = s.telemetry)
    (htotals : s'.wait.tracker.frontierActionTotals = s.wait.tracker.frontierActionTotals)
    (hgrown : ∀ epoch, s.published epoch <+: s'.published epoch)
    (hahead : ∀ epoch, s.epoch < epoch → s'.published epoch = [])
    (hgrows : ∀ epoch, 1 ≤ epoch →
      (s'.published epoch).Pairwise fun before later ↦ later.Follows before) :
    s'.Exact := by
  refine ⟨?_, ?_, hgrows, fun p hp ↦ ?_, ?_, ?_, fun c ↦ ?_⟩
  · rw [hepoch]
    exact h.positive
  · rw [hepoch]
    exact hahead
  · rw [hrecorded] at hp
    exact (h.recorded p hp).trans_le (hgrown p.1).length_le
  · rw [hrecorded]
    exact h.newest
  · rw [htelemetry, hepoch, h.heard_eq hrecorded hgrown]
    exact h.telemetry
  · rw [htotals, hepoch, h.totals]
    refine Finset.sum_congr rfl fun epoch _ ↦ ?_
    rw [heardCount, heardCount, h.heard_eq hrecorded hgrown]

theorem Exact.of_eq (h : s.Exact) (hepoch : s'.epoch = s.epoch)
    (hpublished : s'.published = s.published) (hrecorded : s'.recorded = s.recorded)
    (htelemetry : s'.telemetry = s.telemetry)
    (htotals : s'.wait.tracker.frontierActionTotals = s.wait.tracker.frontierActionTotals) :
    s'.Exact := by
  refine h.of_grown hepoch hrecorded htelemetry htotals (fun epoch ↦ ?_) ?_ ?_
  · rw [hpublished]
  · rw [hpublished]
    exact h.ahead
  · rw [hpublished]
    exact h.grows

theorem follows_last {l : List FrontierTelemetry} {t : FrontierTelemetry}
    (hgrows : l.Pairwise fun before later ↦ later.Follows before)
    (hlast : ∀ before ∈ l.getLast?, t.Follows before) : ∀ before ∈ l, t.Follows before := by
  intro before hbefore
  rcases List.eq_nil_or_concat l with rfl | ⟨earlier, last, rfl⟩
  · cases hbefore
  · rw [List.concat_eq_append] at hgrows hlast hbefore
    have htlast : t.Follows last := hlast last (by simp)
    rcases List.mem_append.mp hbefore with hearlier | hsame
    · exact htlast.trans
        ((List.pairwise_append.mp hgrows).2.2 before hearlier last (List.mem_singleton.mpr rfl))
    · rw [List.mem_singleton.mp hsame]
      exact htlast

theorem Exact.publish (h : s.Exact) (t : FrontierTelemetry) : (s.publish t).Exact := by
  rw [FrontierMission.publish]
  split_ifs with hnext
  · refine h.of_grown rfl rfl rfl rfl (fun epoch ↦ ?_) (fun epoch hlt ↦ ?_)
      fun epoch hpositive ↦ ?_
    · dsimp only
      by_cases heq : epoch = s.epoch
      · rw [heq, Function.update_self]
        exact List.prefix_append _ _
      · rw [Function.update_of_ne heq]
    · dsimp only
      rw [Function.update_of_ne (Nat.ne_of_gt hlt)]
      exact h.ahead epoch hlt
    · dsimp only
      by_cases heq : epoch = s.epoch
      · rw [heq, Function.update_self]
        refine List.pairwise_append.mpr
          ⟨h.grows s.epoch h.positive, List.pairwise_singleton _ _, ?_⟩
        intro before hbefore later hlater
        rw [List.mem_singleton.mp hlater]
        exact follows_last (h.grows s.epoch h.positive) hnext.2 before hbefore
      · rw [Function.update_of_ne heq]
        exact h.grows epoch hpositive
  · exact h

theorem Exact.record (h : s.Exact) {index : ℕ} {t : FrontierTelemetry} (now : Double)
    (ht : (s.published s.epoch)[index]? = some t)
    (hnewest : ∀ p ∈ s.recorded, p.1 = s.epoch → p.2 < index) :
    Exact { s.updateEvidence (·.recordFrontierTelemetry t now) with
      recorded := (s.epoch, index) :: s.recorded } := by
  have hindex : index < (s.published s.epoch).length := by
    by_contra hle
    rw [List.getElem?_eq_none (Nat.le_of_not_lt hle)] at ht
    cases ht
  refine ⟨h.positive, h.ahead, h.grows, fun p hp ↦ ?_, ?_, ?_, fun c ↦ ?_⟩
  · rcases List.mem_cons.mp hp with rfl | hold
    · exact hindex
    · exact h.recorded p hold
  · exact List.pairwise_cons.mpr ⟨fun q hq heq ↦ hnewest q hq heq.symm, h.newest⟩
  · refine Eq.symm ?_
    have hfirst : ((s.epoch, index) :: s.recorded).find? (·.1 = s.epoch) =
        some (s.epoch, index) := List.find?_cons_of_pos (decide_eq_true rfl)
    dsimp only [heard, updateEvidence]
    rw [hfirst, Option.bind_some, ht]
    rfl
  · refine (h.totals c).trans (Finset.sum_congr rfl fun epoch hepoch ↦ ?_)
    have hne : ¬ s.epoch = epoch := Nat.ne_of_gt (Finset.mem_Ico.mp hepoch).2
    dsimp only [heardCount, heard, updateEvidence]
    rw [List.find?_cons_of_neg (by simpa using hne)]

theorem Exact.reset (h : s.Exact) (growthNow activityNow : Double) :
    Exact { s.updateEvidence (·.resetExploration true growthNow activityNow) with
      epoch := s.epoch + 1
      stage := .ready } := by
  have hnone : s.heard (s.epoch + 1) = none := by
    rw [heard, h.ahead _ (Nat.lt_succ_self _)]
    cases s.recorded.find? (·.1 = s.epoch + 1) <;> rfl
  refine ⟨Nat.le_add_left 1 _, fun epoch hlt ↦ h.ahead epoch (Nat.lt_of_succ_lt hlt), h.grows,
    h.recorded, h.newest, ?_, fun c ↦ ?_⟩
  · exact (congrArg (Option.getD · {}) hnone).symm
  · refine (c.total_reset s.wait.tracker growthNow activityNow).trans ?_
    dsimp only
    rw [Finset.sum_Ico_succ_top h.positive, h.totals c]
    exact congrArg _ (of_telemetry h c)

theorem tracker_wait (tracker : MappingEvidenceTracker) (remaining : ℤ) (deadline : Option Double)
    (now : Double) : (FrontierWait.wait config tracker remaining deadline now).1.tracker =
      tracker := by
  unfold FrontierWait.wait
  dsimp only
  split_ifs <;> rfl

theorem Exact.kept (h : s.Exact) (hepoch : s'.epoch = s.epoch)
    (hpublished : s'.published = s.published) (hrecorded : s'.recorded = s.recorded)
    (hfrontier : s'.wait.tracker.frontierTelemetry = s.wait.tracker.frontierTelemetry ∧
      s'.wait.tracker.frontierActionTotals = s.wait.tracker.frontierActionTotals) :
    s'.Exact ∧ ∀ c, s.cumulative c ≤ s'.cumulative c := by
  refine ⟨h.of_eq hepoch hpublished hrecorded hfrontier.1 hfrontier.2, fun c ↦ le_of_eq ?_⟩
  rw [FrontierMission.cumulative, FrontierMission.cumulative, c.of_snapshot, c.of_snapshot,
    hfrontier.1, hfrontier.2]

theorem Exact.onExploreStatus (h : s.Exact) {epoch index : ℕ} {now : Double}
    (he : s.InTime (.onExploreStatus epoch index now)) :
    (s.onExploreStatus epoch index now).Exact ∧
      ∀ c, s.cumulative c ≤ (s.onExploreStatus epoch index now).cumulative c := by
  obtain ⟨rfl, hnewest⟩ := he
  rw [FrontierMission.onExploreStatus]
  cases ht : (s.published s.epoch)[index]? with
  | none => exact ⟨h, fun c ↦ le_rfl⟩
  | some t =>
    dsimp only
    split_ifs with hdouble
    · exact ⟨h, fun c ↦ le_rfl⟩
    · refine ⟨h.record now ht hnewest, fun c ↦ ?_⟩
      have hle : c.of s.telemetry ≤ c.of t := by
        rw [of_telemetry h c, heardCount]
        cases hheard : s.heard s.epoch with
        | none => exact Nat.zero_le _
        | some t' =>
          obtain ⟨p, hp, ht'⟩ := Option.bind_eq_some_iff.mp hheard
          have hepoch : p.1 = s.epoch := by simpa using List.find?_some hp
          have hlt := hnewest p (List.mem_of_find?_eq_some hp) hepoch
          obtain ⟨hp', rfl⟩ := List.getElem?_eq_some_iff.mp ht'
          obtain ⟨hindex, rfl⟩ := List.getElem?_eq_some_iff.mp ht
          exact (List.pairwise_iff_getElem.mp
            (h.grows s.epoch h.positive) p.2 index hp' hindex hlt).of c
      rw [FrontierMission.cumulative, FrontierMission.cumulative, c.of_snapshot, c.of_snapshot]
      exact Nat.add_le_add_right hle _

theorem Exact.resetExploration (h : s.Exact) (growthNow activityNow : Double) :
    (s.resetExploration growthNow activityNow).Exact ∧
      ∀ c, s.cumulative c ≤ (s.resetExploration growthNow activityNow).cumulative c := by
  rw [FrontierMission.resetExploration]
  split_ifs
  · refine ⟨h.reset growthNow activityNow, fun c ↦ le_of_eq ?_⟩
    rw [FrontierMission.cumulative, FrontierMission.cumulative, c.of_snapshot, c.of_snapshot]
    refine Eq.symm ((congrArg₂ (· + ·) c.of_empty
      (c.total_reset s.wait.tracker growthNow activityNow)).trans ?_)
    rw [Nat.zero_add, Nat.add_comm]
  · exact ⟨h, fun c ↦ le_rfl⟩

variable (hypot) in
theorem Exact.step (h : s.Exact) {e : FrontierMissionEvent} (he : s.InTime e) :
    (step hypot s e).1.Exact ∧ ∀ c, s.cumulative c ≤ (step hypot s e).1.cumulative c := by
  cases e with
  | startExplorer remaining deadline now =>
    dsimp only [FrontierMission.step, startExplorer]
    split_ifs
    · refine h.kept rfl rfl rfl ?_
      dsimp only
      rw [tracker_wait]
      exact ⟨rfl, rfl⟩
    · exact ⟨h, fun c ↦ le_rfl⟩
  | publish t =>
    refine ⟨h.publish t, fun c ↦ le_of_eq ?_⟩
    dsimp only [FrontierMission.step, FrontierMission.publish]
    split_ifs <;> rfl
  | onExploreStatus epoch index now => exact h.onExploreStatus he
  | poll reading =>
    dsimp only [FrontierMission.step, FrontierMission.poll]
    split_ifs
    · exact h.kept rfl rfl rfl (s.wait.poll_frontier reading)
    · exact ⟨h, fun c ↦ le_rfl⟩
  | resetExploration growthNow activityNow => exact h.resetExploration growthNow activityNow
  | stopExplorer =>
    dsimp only [FrontierMission.step]
    split_ifs
    · exact h.kept rfl rfl rfl ⟨rfl, rfl⟩
    · exact ⟨h, fun c ↦ le_rfl⟩
  | recordMap values now =>
    refine h.kept rfl rfl rfl ?_
    dsimp only [FrontierMission.step, updateEvidence, MappingEvidenceTracker.recordMap]
    split_ifs <;> exact ⟨rfl, rfl⟩
  | recordOdom x y =>
    refine h.kept rfl rfl rfl ?_
    dsimp only [FrontierMission.step, updateEvidence, MappingEvidenceTracker.recordOdom]
    split_ifs
    · exact ⟨rfl, rfl⟩
    · split
      · exact ⟨rfl, rfl⟩
      · split_ifs <;> exact ⟨rfl, rfl⟩
  | finishMappingPath => exact h.kept rfl rfl rfl ⟨rfl, rfl⟩
  | resumeMappingPath => exact h.kept rfl rfl rfl ⟨rfl, rfl⟩

theorem exact_start (config : FrontierMonitorConfig) (tracker : MappingEvidenceTracker)
    (earlier : List FrontierTelemetry) (growthNow activityNow : Double) :
    (start config tracker earlier growthNow activityNow).Exact := by
  refine ⟨le_rfl, fun epoch hlt ↦ if_neg (Nat.ne_of_gt (Nat.zero_lt_of_lt hlt)),
    fun epoch hpositive ↦ ?_, fun p hp ↦ absurd hp List.not_mem_nil, List.Pairwise.nil, rfl,
    fun c ↦ ?_⟩
  · dsimp only [start]
    rw [if_neg (Nat.ne_of_gt hpositive)]
    exact List.Pairwise.nil
  · cases c <;> rfl

theorem Exact.run (h : s.Exact) {events : List FrontierMissionEvent}
    (hin : Along (FrontierMission.step hypot) InTime s events) :
    (History.run (FrontierMission.step hypot) s events).Exact ∧ ∀ c, s.cumulative c ≤
      (History.run (FrontierMission.step hypot) s events).cumulative c := by
  induction events generalizing s with
  | nil => exact ⟨h, fun c ↦ le_rfl⟩
  | cons e events ih =>
    obtain ⟨hexact, hle⟩ := h.step hypot hin.1
    obtain ⟨hrun, hrest⟩ := ih hexact hin.2
    exact ⟨hrun, fun c ↦ (hle c).trans (hrest c)⟩

theorem frontier_totals_exact (hypot : Double → Double → Double) (config : FrontierMonitorConfig)
    (tracker : MappingEvidenceTracker) (earlier : List FrontierTelemetry)
    (growthNow activityNow : Double) (pre post : List FrontierMissionEvent)
    (hin : Along (FrontierMission.step hypot) InTime
      (start config tracker earlier growthNow activityNow) (pre ++ post)) :
    let before := History.run (FrontierMission.step hypot)
      (start config tracker earlier growthNow activityNow) pre
    let after := History.run (FrontierMission.step hypot) before post
    (∀ c, before.cumulative c ≤ after.cumulative c) ∧
      (∀ c, after.cumulative c ≤ ∑ epoch ∈ Finset.Icc 1 after.epoch, after.final epoch c) ∧
      (after.LastRecorded →
        ∀ c, after.cumulative c = ∑ epoch ∈ Finset.Icc 1 after.epoch, after.final epoch c) ∧
      (after.telemetry = {} ∨ after.telemetry ∈ after.published after.epoch) := by
  intro before after
  obtain ⟨hpre, hpost⟩ := (along_append (FrontierMission.step hypot)).mp hin
  have hbefore : before.Exact := ((exact_start config tracker earlier growthNow activityNow).run
    hpre).1
  obtain ⟨hafter, hle⟩ := hbefore.run hpost
  refine ⟨hle, fun c ↦ ?_, fun hlast c ↦ ?_, hafter.own⟩
  · rw [hafter.cumulative]
    exact Finset.sum_le_sum fun epoch hepoch ↦
      hafter.heardCount_le (Finset.mem_Icc.mp hepoch).1 c
  · rw [hafter.cumulative]
    exact Finset.sum_congr rfl fun epoch hepoch ↦ hafter.heardCount_last c (hlast epoch hepoch)

def unknownWorldConfig : FrontierMonitorConfig where
  timeoutS := .ofRat 900
  minRuntimeS := .ofRat 60
  stableMapS := .ofRat 20
  completionStatus := "exploration_complete"
  minKnownCells := 0
  minOccupiedCells := 0
  minMappingPathM := 0
  policyMode := "unknown_world"
  idleGrace_valid := Double.zero_valid

def blockedReport : FrontierTelemetry :=
  { status := "exploration_blocked"
    completionReason := "no_clearance_safe_frontier_approach"
    detectedFrontierCount := 1
    acceptedGoalCount := 1
    succeededGoalCount := 1 }

def freshMission : FrontierMission := start unknownWorldConfig (.create 0 0 0) [] 0 0

def blockedEpoch : List FrontierMissionEvent :=
  [.startExplorer 2 (.ofRat 900) 0, .publish blockedReport, .onExploreStatus 1 0 0, .poll {},
    .publish blockedReport]

def nextEpoch : List FrontierMissionEvent :=
  [.stopExplorer, .finishMappingPath, .resetExploration 0 0, .resumeMappingPath]

/-- In time, the second report is recorded before the reset. -/
theorem frontier_totals_exact_blocked :
    let s := run (step Double.add) freshMission
      (blockedEpoch ++ (.onExploreStatus 1 1 0 :: nextEpoch))
    s.epoch = 2 ∧ s.LastRecorded ∧
      ∀ c, s.cumulative c = ∑ epoch ∈ Finset.Icc 1 s.epoch, s.final epoch c := by
  have hin : Along (step Double.add) InTime freshMission
      ([] ++ (blockedEpoch ++ (.onExploreStatus 1 1 0 :: nextEpoch))) := by decide +kernel
  have hlast : LastRecorded (run (step Double.add) freshMission
      (blockedEpoch ++ (.onExploreStatus 1 1 0 :: nextEpoch))) := by decide +kernel
  obtain ⟨-, -, hequal, -⟩ := frontier_totals_exact Double.add unknownWorldConfig (.create 0 0 0) []
    0 0 [] (blockedEpoch ++ (.onExploreStatus 1 1 0 :: nextEpoch)) hin
  exact ⟨by decide +kernel, hlast, hequal hlast⟩

/-- The second report arrives after the reset, and the goal counts twice. -/
theorem late_report_counts_twice :
    let late := run (step Double.add) freshMission
      (blockedEpoch ++ nextEpoch ++ [.onExploreStatus 1 1 0])
    let started := run (step Double.add) late [.startExplorer 1 (.ofRat 900) 0]
    let heard := run (step Double.add) started [.publish {}, .onExploreStatus 2 0 0]
    (∑ epoch ∈ Finset.Icc 1 late.epoch, late.final epoch .accepted = 1 ∧
        late.cumulative .accepted = 2) ∧
      (started.epoch = 2 ∧ started.published 2 = [] ∧
        (step Double.add started (.poll {})).2 =
          some (.ok "recovery_required:no_clearance_safe_frontier_approach")) ∧
      heard.cumulative .accepted = 1 := by
  decide +kernel

end FrontierMission

end EmbodiedAgent.Slam
