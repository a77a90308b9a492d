import EmbodiedAgent.Library.History
import EmbodiedAgent.Slam.ExplorationSaturation
import Mathlib.Data.List.TakeWhile

namespace EmbodiedAgent.Slam

open Library Library.History

namespace SaturationEvidenceTracker

inductive Operation
  | observe (currentKnownCells terminalGoalCount : ℤ) (mappingPathM : Double)
  | beginEpoch (epochId : ℤ)
  | finishEpoch
  | beginFinalProbe (trigger : SaturationTrigger)
  | finishFinalProbe

def attempt (tracker : SaturationEvidenceTracker) : Operation → Option SaturationEvidenceTracker
  | .observe currentKnownCells terminalGoalCount mappingPathM =>
    if currentKnownCells < 0 ∨ terminalGoalCount < 0 then none
    else
      (tracker.observe currentKnownCells.toNat terminalGoalCount.toNat mappingPathM).toOption
  | .beginEpoch epochId => (tracker.beginEpoch epochId.toNat).toOption
  | .finishEpoch => tracker.finishEpoch.toOption
  | .beginFinalProbe trigger => (tracker.beginFinalProbe trigger).toOption
  | .finishFinalProbe => tracker.finishFinalProbe.toOption

/-- An operation that raises leaves the tracker as it is. -/
def step (tracker : SaturationEvidenceTracker) (op : Operation) :
    SaturationEvidenceTracker × Bool :=
  match tracker.attempt op with
  | none => (tracker, false)
  | some tracker' => (tracker', true)

def after (h : List Operation) : SaturationEvidenceTracker := run step {} h

def Succeeds (h : List Operation) (k : ℕ) (op : Operation) : Prop :=
  h[k]? = some op ∧ ((after (h.take k)).attempt op).isSome = true

def countersAt (h : List Operation) (k : ℕ) : ExplorationCounters := (after (h.take k)).counters

structure Spans (h : List Operation) (interval : ℕ × ℕ) (epoch : ExplorationEpochEvidence) :
    Prop where
  begun : Succeeds h interval.1 (.beginEpoch epoch.epochId)
  finished : Succeeds h interval.2 .finishEpoch
  lt : interval.1 < interval.2
  start : epoch.start = countersAt h interval.1
  finish : epoch.finish = countersAt h interval.2

/-- The recorded epochs are disjoint intervals of the history, one after the other. -/
structure Consecutive (h : List Operation) (intervals : List (ℕ × ℕ)) : Prop where
  spans : List.Forall₂ (Spans h) intervals (after h).epochs
  disjoint : intervals.Pairwise fun p q ↦ p.2 < q.1
  all : ∀ j, Succeeds h j .finishEpoch → j ∈ intervals.map Prod.snd
  ids : (after h).epochs.Pairwise fun e e' ↦ e.epochId < e'.epochId
  gains : ∀ e ∈ (after h).epochs, e.start.Below e.finish

structure Probed (h : List Operation) (interval : ℕ × ℕ) (probe : FinalProbeEvidence) : Prop where
  begun : Succeeds h interval.1 (.beginFinalProbe probe.trigger)
  finished : Succeeds h interval.2 .finishFinalProbe
  lt : interval.1 < interval.2
  start : probe.start = countersAt h interval.1
  finish : probe.finish = countersAt h interval.2
  begun_once : ∀ k trigger, Succeeds h k (.beginFinalProbe trigger) → k = interval.1
  finished_once : ∀ k, Succeeds h k .finishFinalProbe → k = interval.2

section Attempts

variable {t t' : SaturationEvidenceTracker}

theorem attempt_observe {cells terminals : ℤ} {path : Double}
    (h : t.attempt (.observe cells terminals path) = some t') :
    ∃ c, t' = { t with counters := c } := by
  rw [attempt] at h
  split_ifs at h with hnegative
  cases hobserve : t.observe cells.toNat terminals.toNat path with
  | error error =>
    rw [hobserve] at h
    cases h
  | ok tracker =>
    rw [hobserve] at h
    obtain ⟨c, hc, -⟩ := observe_ok hobserve
    exact ⟨c, (Option.some.inj h).symm.trans hc⟩

theorem attempt_beginEpoch {epochId : ℤ} (h : t.attempt (.beginEpoch epochId) = some t') :
    (epochId.toNat : ℤ) = epochId ∧ t.activeEpoch = none ∧ t.probeStart = none ∧
      (∀ last ∈ t.epochs.getLast?, last.epochId < epochId.toNat) ∧
      t' = { t with activeEpoch := some (epochId.toNat, t.counters) } := by
  rw [attempt, beginEpoch] at h
  split_ifs at h with hid hactive hprobe hlast
  · cases h
  · cases h
  · cases h
  · cases h
  · refine ⟨by omega, by simpa using hactive, by simpa using hprobe, fun last hmem ↦ ?_, ?_⟩
    · rw [Option.mem_def.mp hmem] at hlast
      simpa using hlast
    · exact (Option.some.inj h).symm

theorem attempt_finishEpoch (h : t.attempt .finishEpoch = some t') :
    ∃ epoch : ExplorationEpochEvidence, t.activeEpoch = some (epoch.epochId, epoch.start) ∧
      epoch.finish = t.counters ∧
      t' = { t with epochs := t.epochs ++ [epoch], activeEpoch := none } := by
  rw [attempt, finishEpoch] at h
  cases hactive : t.activeEpoch with
  | none =>
    rw [hactive] at h
    cases h
  | some active =>
    obtain ⟨epochId, start⟩ := active
    rw [hactive] at h
    dsimp only at h
    unfold ExplorationEpochEvidence.create at h
    split_ifs at h with hid hpeak hterminal hpath
    · cases h
    · cases h
    · cases h
    · cases h
    · exact ⟨_, rfl, rfl, (Option.some.inj h).symm⟩

theorem attempt_beginFinalProbe {trigger : SaturationTrigger}
    (h : t.attempt (.beginFinalProbe trigger) = some t') :
    t.activeEpoch = none ∧ t.probeStart = none ∧ t.finalProbe = none ∧
      t' = { t with probeStart := some (trigger, t.counters) } := by
  rw [attempt, beginFinalProbe] at h
  split_ifs at h with hactive hprobe
  · cases h
  · cases h
  · rw [not_or] at hprobe
    exact ⟨by simpa using hactive, by simpa using hprobe.1, by simpa using hprobe.2,
      (Option.some.inj h).symm⟩

theorem attempt_finishFinalProbe (h : t.attempt .finishFinalProbe = some t') :
    ∃ probe : FinalProbeEvidence, t.probeStart = some (probe.trigger, probe.start) ∧
      probe.finish = t.counters ∧ t' = { t with finalProbe := some probe, probeStart := none } := by
  rw [attempt, finishFinalProbe] at h
  cases hprobe : t.probeStart with
  | none =>
    rw [hprobe] at h
    cases h
  | some begun =>
    obtain ⟨trigger, start⟩ := begun
    rw [hprobe] at h
    dsimp only at h
    unfold FinalProbeEvidence.create at h
    split_ifs at h with hpeak hterminal hpath
    · cases h
    · cases h
    · cases h
    · exact ⟨_, rfl, rfl, (Option.some.inj h).symm⟩

end Attempts

variable {h : List Operation} {op o : Operation} {k : ℕ} {intervals : List (ℕ × ℕ)}

variable {t' : SaturationEvidenceTracker}

theorem after_snoc : after (h ++ [op]) = ((after h).step op).1 := run_snoc step _ h op

theorem after_raised (hraised : (after h).attempt op = none) : after (h ++ [op]) = after h := by
  rw [after_snoc, step, hraised]

theorem after_done (hdone : (after h).attempt op = some t') : after (h ++ [op]) = t' := by
  rw [after_snoc, step, hdone]

theorem Succeeds.lt (hk : Succeeds h k o) : k < h.length := (List.getElem?_eq_some_iff.mp hk.1).1

theorem take_snoc (hk : k ≤ h.length) : (h ++ [op]).take k = h.take k :=
  List.take_append_of_le_length hk

theorem Succeeds.snoc (hk : Succeeds h k o) : Succeeds (h ++ [op]) k o := by
  refine ⟨(List.getElem?_append_left hk.lt).trans hk.1, ?_⟩
  rw [take_snoc hk.lt.le]
  exact hk.2

theorem succeeds_last (hdone : ((after h).attempt op).isSome = true) :
    Succeeds (h ++ [op]) h.length op := by
  refine ⟨List.getElem?_concat_length, ?_⟩
  rw [take_snoc le_rfl, List.take_length]
  exact hdone

theorem Succeeds.of_snoc (hk : Succeeds (h ++ [op]) k o) :
    Succeeds h k o ∨ k = h.length ∧ o = op ∧ ((after h).attempt op).isSome = true := by
  have hlt := hk.lt
  rw [List.length_append, List.length_singleton] at hlt
  obtain ⟨hget, hdone⟩ := hk
  rw [take_snoc (by omega)] at hdone
  rcases Nat.lt_succ_iff_lt_or_eq.mp hlt with hold | rfl
  · rw [List.getElem?_append_left hold] at hget
    exact .inl ⟨hget, hdone⟩
  · rw [List.getElem?_concat_length] at hget
    obtain rfl := Option.some.inj hget
    rw [List.take_length] at hdone
    exact .inr ⟨rfl, rfl, hdone⟩

theorem countersAt_snoc (hk : k ≤ h.length) : countersAt (h ++ [op]) k = countersAt h k := by
  rw [countersAt, take_snoc hk, countersAt]

theorem countersAt_last : countersAt (h ++ [op]) h.length = (after h).counters := by
  rw [countersAt_snoc le_rfl, countersAt, List.take_length]

theorem Spans.snoc {interval : ℕ × ℕ} {epoch : ExplorationEpochEvidence}
    (hs : Spans h interval epoch) : Spans (h ++ [op]) interval epoch := by
  refine ⟨hs.begun.snoc, hs.finished.snoc, hs.lt, ?_, ?_⟩
  · rw [countersAt_snoc hs.begun.lt.le]
    exact hs.start
  · rw [countersAt_snoc hs.finished.lt.le]
    exact hs.finish

structure Active (h : List Operation) (intervals : List (ℕ × ℕ)) : Prop where
  begun : ∀ epochId start, (after h).activeEpoch = some (epochId, start) →
    (∀ e ∈ (after h).epochs, e.epochId < epochId) ∧
      ∃ i, Succeeds h i (.beginEpoch epochId) ∧ start = countersAt h i ∧
        (∀ p ∈ intervals, p.2 < i) ∧ ∀ f, Succeeds h f .finishFinalProbe → f < i

structure Probing (h : List Operation) (intervals : List (ℕ × ℕ)) : Prop where
  before : (after h).probeStart = none → (after h).finalProbe = none →
    ∀ k trigger, ¬ Succeeds h k (.beginFinalProbe trigger)
  unrecorded : (after h).finalProbe = none → ∀ k, ¬ Succeeds h k .finishFinalProbe
  running : ∀ trigger start, (after h).probeStart = some (trigger, start) →
    (after h).activeEpoch = none ∧ (after h).finalProbe = none ∧
      ∃ b, Succeeds h b (.beginFinalProbe trigger) ∧ start = countersAt h b ∧
        (∀ p ∈ intervals, p.2 < b) ∧ ∀ k trigger, Succeeds h k (.beginFinalProbe trigger) → k = b
  recorded : ∀ probe, (after h).finalProbe = some probe →
    ∃ q, Probed h q probe ∧ ∀ p ∈ intervals, p.2 < q.1 ∨ q.2 < p.1

theorem Consecutive.kept (hc : Consecutive h intervals)
    (hepochs : (after (h ++ [op])).epochs = (after h).epochs)
    (hother : ∀ k, Succeeds (h ++ [op]) k .finishEpoch → Succeeds h k .finishEpoch) :
    Consecutive (h ++ [op]) intervals := by
  refine ⟨?_, hc.disjoint, fun j hj ↦ hc.all j (hother j hj), ?_, ?_⟩
  · rw [hepochs]
    exact hc.spans.imp fun _ _ ↦ Spans.snoc
  · rw [hepochs]
    exact hc.ids
  · rw [hepochs]
    exact hc.gains

theorem Active.kept (ha : Active h intervals)
    (hepochs : (after (h ++ [op])).epochs = (after h).epochs)
    (hactive : (after (h ++ [op])).activeEpoch = (after h).activeEpoch)
    (hother : ∀ k, Succeeds (h ++ [op]) k .finishFinalProbe → Succeeds h k .finishFinalProbe) :
    Active (h ++ [op]) intervals := by
  refine ⟨fun epochId start hstart ↦ ?_⟩
  rw [hactive] at hstart
  obtain ⟨hids, i, hi, hcounters, hintervals, hprobes⟩ := ha.begun epochId start hstart
  refine ⟨by rwa [hepochs], i, hi.snoc, ?_, hintervals, fun f hf ↦ hprobes f (hother f hf)⟩
  rw [countersAt_snoc hi.lt.le]
  exact hcounters

theorem Active.idle (hidle : (after h).activeEpoch = none) : Active h intervals := by
  refine ⟨fun epochId start hstart ↦ ?_⟩
  rw [hidle] at hstart
  cases hstart

theorem Probed.kept {q : ℕ × ℕ} {probe : FinalProbeEvidence} (hq : Probed h q probe)
    (hbegins : ∀ k trigger, Succeeds (h ++ [op]) k (.beginFinalProbe trigger) →
      Succeeds h k (.beginFinalProbe trigger))
    (hfinishes : ∀ k, Succeeds (h ++ [op]) k .finishFinalProbe → Succeeds h k .finishFinalProbe) :
    Probed (h ++ [op]) q probe := by
  refine ⟨hq.begun.snoc, hq.finished.snoc, hq.lt, ?_, ?_,
    fun k trigger hk ↦ hq.begun_once k trigger (hbegins k trigger hk),
    fun k hk ↦ hq.finished_once k (hfinishes k hk)⟩
  · rw [countersAt_snoc hq.begun.lt.le]
    exact hq.start
  · rw [countersAt_snoc hq.finished.lt.le]
    exact hq.finish

theorem Probing.kept (hp : Probing h intervals) {intervals' : List (ℕ × ℕ)}
    (hstart : (after (h ++ [op])).probeStart = (after h).probeStart)
    (hfinal : (after (h ++ [op])).finalProbe = (after h).finalProbe)
    (hactive : (after h).probeStart = none ∨
      (after (h ++ [op])).activeEpoch = (after h).activeEpoch)
    (hbegins : ∀ k trigger, Succeeds (h ++ [op]) k (.beginFinalProbe trigger) →
      Succeeds h k (.beginFinalProbe trigger))
    (hfinishes : ∀ k, Succeeds (h ++ [op]) k .finishFinalProbe → Succeeds h k .finishFinalProbe)
    (hnew : ∀ p ∈ intervals', p ∈ intervals ∨ (after h).probeStart = none ∧
      ∀ f, Succeeds h f .finishFinalProbe → f < p.1) : Probing (h ++ [op]) intervals' where
  before hnone hunrecorded k trigger hk :=
    hp.before (hstart.symm.trans hnone) (hfinal.symm.trans hunrecorded) k trigger
      (hbegins k trigger hk)
  unrecorded hnone k hk := hp.unrecorded (hfinal.symm.trans hnone) k (hfinishes k hk)
  running trigger start hbegun := by
    rw [hstart] at hbegun
    obtain ⟨hidle, hunrecorded, b, hb, hcounters, hintervals, honce⟩ :=
      hp.running trigger start hbegun
    refine ⟨?_, hfinal.trans hunrecorded, b, hb.snoc, ?_, fun p hmem ↦ ?_,
      fun k trigger hk ↦ honce k trigger (hbegins k trigger hk)⟩
    · rcases hactive with hnone | hsame
      · cases hnone.symm.trans hbegun
      · exact hsame.trans hidle
    · rw [countersAt_snoc hb.lt.le]
      exact hcounters
    · rcases hnew p hmem with hold | ⟨hnone, -⟩
      · exact hintervals p hold
      · cases hnone.symm.trans hbegun
  recorded probe hprobe := by
    obtain ⟨q, hq, hapart⟩ := hp.recorded probe (hfinal.symm.trans hprobe)
    refine ⟨q, hq.kept hbegins hfinishes, fun p hmem ↦ ?_⟩
    rcases hnew p hmem with hold | ⟨-, hafter⟩
    · exact hapart p hold
    · exact .inr (hafter q.2 hq.finished)

structure Recorded (h : List Operation) (intervals : List (ℕ × ℕ)) : Prop where
  consecutive : Consecutive h intervals
  active : Active h intervals
  probing : Probing h intervals

theorem Succeeds.old (hk : Succeeds (h ++ [op]) k o) (hne : op ≠ o) : Succeeds h k o :=
  hk.of_snoc.resolve_right fun hnew ↦ hne hnew.2.1.symm

theorem Recorded.quiet (hr : Recorded h intervals) {c : ExplorationCounters}
    (hsame : after (h ++ [op]) = { after h with counters := c })
    (hold : ∀ k o, Succeeds (h ++ [op]) k o → Succeeds h k o ∨ o = op ∧ ∃ x y z,
      op = .observe x y z) : Recorded (h ++ [op]) intervals := by
  have hothers : ∀ k o, (∀ x y z, o ≠ .observe x y z) → Succeeds (h ++ [op]) k o →
      Succeeds h k o := by
    intro k o hne hk
    refine (hold k o hk).resolve_right ?_
    rintro ⟨rfl, x, y, z, heq⟩
    exact hne x y z heq
  have hepochs : ∀ k, Succeeds (h ++ [op]) k .finishEpoch → Succeeds h k .finishEpoch :=
    fun k ↦ hothers k _ fun _ _ _ heq ↦ by cases heq
  have hbegins : ∀ k trigger, Succeeds (h ++ [op]) k (.beginFinalProbe trigger) →
      Succeeds h k (.beginFinalProbe trigger) := fun k _ ↦ hothers k _ fun _ _ _ heq ↦ by cases heq
  have hfinishes : ∀ k, Succeeds (h ++ [op]) k .finishFinalProbe → Succeeds h k .finishFinalProbe :=
    fun k ↦ hothers k _ fun _ _ _ heq ↦ by cases heq
  refine ⟨hr.consecutive.kept ?_ hepochs, hr.active.kept ?_ ?_ hfinishes,
    hr.probing.kept ?_ ?_ (.inr ?_) hbegins hfinishes fun p hp ↦ .inl hp⟩
  all_goals rw [hsame]

theorem Recorded.raised (hr : Recorded h intervals) (hraised : (after h).attempt op = none) :
    Recorded (h ++ [op]) intervals := by
  refine hr.quiet (c := (after h).counters) (after_raised hraised) fun k o hk ↦
    Or.inl (hk.of_snoc.resolve_right ?_)
  rintro ⟨-, -, hdone⟩
  rw [hraised] at hdone
  cases hdone

theorem Recorded.observe {x y : ℤ} {z : Double} {t' : SaturationEvidenceTracker}
    (hr : Recorded h intervals) (hdone : (after h).attempt (.observe x y z) = some t') :
    Recorded (h ++ [.observe x y z]) intervals := by
  obtain ⟨c, hc⟩ := attempt_observe hdone
  exact hr.quiet ((after_done hdone).trans hc) fun k o hk ↦
    hk.of_snoc.imp_right fun hnew ↦ ⟨hnew.2.1, x, y, z, rfl⟩

theorem exists_of_mem {α β : Type*} {R : α → β → Prop} {l : List α} {l' : List β} {a : α}
    (h : List.Forall₂ R l l') (ha : a ∈ l) : ∃ b ∈ l', R a b := by
  induction h with
  | nil => cases ha
  | cons hab _ ih =>
    rcases List.mem_cons.mp ha with rfl | hrest
    · exact ⟨_, List.mem_cons_self, hab⟩
    · obtain ⟨b, hb, hrel⟩ := ih hrest
      exact ⟨b, List.mem_cons_of_mem _ hb, hrel⟩

theorem Consecutive.lt (hc : Consecutive h intervals) {p : ℕ × ℕ} (hp : p ∈ intervals) :
    p.2 < h.length := by
  obtain ⟨epoch, -, hspans⟩ := exists_of_mem hc.spans hp
  exact hspans.finished.lt

theorem lt_of_last {epochs : List ExplorationEpochEvidence} {epochId : ℕ}
    (hids : epochs.Pairwise fun e e' ↦ e.epochId < e'.epochId)
    (hlast : ∀ last ∈ epochs.getLast?, last.epochId < epochId) :
    ∀ e ∈ epochs, e.epochId < epochId := by
  rcases List.eq_nil_or_concat epochs with rfl | ⟨front, last, rfl⟩
  · exact fun e he ↦ absurd he List.not_mem_nil
  · have hlt := hlast last (by simp)
    intro e he
    rw [List.concat_eq_append] at hids he
    rcases List.mem_append.mp he with hfront | hsame
    · exact ((List.pairwise_append.mp hids).2.2 e hfront last (List.mem_singleton_self _)).trans hlt
    · rwa [List.mem_singleton.mp hsame]

theorem Recorded.beginEpoch {epochId : ℤ} {t' : SaturationEvidenceTracker}
    (hr : Recorded h intervals) (hdone : (after h).attempt (.beginEpoch epochId) = some t') :
    Recorded (h ++ [.beginEpoch epochId]) intervals := by
  obtain ⟨hid, -, hprobe, hlast, hsame⟩ := attempt_beginEpoch hdone
  have hafter := (after_done hdone).trans hsame
  refine ⟨hr.consecutive.kept ?_ fun k hk ↦ hk.old nofun, ⟨fun epochId' start hstart ↦ ?_⟩,
    hr.probing.kept ?_ ?_ (.inl hprobe) (fun k trigger hk ↦ hk.old nofun)
      (fun k hk ↦ hk.old nofun) fun p hp ↦ .inl hp⟩
  · rw [hafter]
  · rw [hafter] at hstart ⊢
    obtain ⟨rfl, rfl⟩ := Prod.mk.inj (Option.some.inj hstart)
    refine ⟨lt_of_last hr.consecutive.ids hlast, h.length, ?_, ?_, fun p hp ↦ ?_, fun f hf ↦ ?_⟩
    · rw [hid]
      exact succeeds_last (Option.isSome_iff_exists.mpr ⟨_, hdone⟩)
    · exact countersAt_last.symm
    · exact hr.consecutive.lt hp
    · exact (hf.old nofun).lt
  · rw [hafter]
  · rw [hafter]

theorem Recorded.finishEpoch (hr : Recorded h intervals)
    (hdone : (after h).attempt .finishEpoch = some t') :
    ∃ p, Recorded (h ++ [.finishEpoch]) (intervals ++ [p]) := by
  obtain ⟨epoch, hactive, hfinish, hsame⟩ := attempt_finishEpoch hdone
  have hafter := (after_done hdone).trans hsame
  obtain ⟨hids, i, hi, hstart, hbefore, hprobes⟩ := hr.active.begun _ _ hactive
  have hprobe : (after h).probeStart = none := by
    cases hbegun : (after h).probeStart with
    | none => rfl
    | some begun => cases (hr.probing.running _ _ hbegun).1.symm.trans hactive
  refine ⟨(i, h.length), ⟨?_, ?_, fun j hj ↦ ?_, ?_, ?_⟩, Active.idle ?_,
    hr.probing.kept ?_ ?_ (.inl hprobe) (fun k trigger hk ↦ hk.old nofun)
      (fun k hk ↦ hk.old nofun) fun p hp ↦ ?_⟩
  · rw [hafter]
    refine List.rel_append (hr.consecutive.spans.imp fun _ _ ↦ Spans.snoc)
      (.cons ⟨hi.snoc, ?_, hi.lt, ?_, ?_⟩ .nil)
    · exact succeeds_last (Option.isSome_iff_exists.mpr ⟨_, hdone⟩)
    · rw [countersAt_snoc hi.lt.le]
      exact hstart
    · rw [countersAt_last]
      exact hfinish
  · refine List.pairwise_append.mpr ⟨hr.consecutive.disjoint, List.pairwise_singleton _ _, ?_⟩
    intro p hp p' hp'
    rw [List.mem_singleton.mp hp']
    exact hbefore p hp
  · rw [List.map_append]
    rcases hj.of_snoc with hold | ⟨rfl, -, -⟩
    · exact List.mem_append_left _ (hr.consecutive.all j hold)
    · exact List.mem_append_right _ (List.mem_singleton_self _)
  · rw [hafter]
    refine List.pairwise_append.mpr ⟨hr.consecutive.ids, List.pairwise_singleton _ _, ?_⟩
    intro e he e' he'
    rw [List.mem_singleton.mp he']
    exact hids e he
  · rw [hafter]
    intro e he
    rcases List.mem_append.mp he with hold | hnew
    · exact hr.consecutive.gains e hold
    · exact e.below
  · rw [hafter]
  · rw [hafter]
  · rw [hafter]
  · rcases List.mem_append.mp hp with hold | hnew
    · exact .inl hold
    · rw [List.mem_singleton.mp hnew]
      exact .inr ⟨hprobe, hprobes⟩

theorem Recorded.beginFinalProbe {trigger : SaturationTrigger} {t' : SaturationEvidenceTracker}
    (hr : Recorded h intervals) (hdone : (after h).attempt (.beginFinalProbe trigger) = some t') :
    Recorded (h ++ [.beginFinalProbe trigger]) intervals := by
  obtain ⟨hidle, hnone, hunrecorded, hsame⟩ := attempt_beginFinalProbe hdone
  have hafter := (after_done hdone).trans hsame
  refine ⟨hr.consecutive.kept ?_ fun k hk ↦ hk.old nofun, Active.idle ?_, ?_, ?_, ?_, ?_⟩
  · rw [hafter]
  · rw [hafter]
    exact hidle
  · rw [hafter]
    exact nofun
  · exact fun _ k hk ↦ hr.probing.unrecorded hunrecorded k (hk.old nofun)
  · intro trigger' start hstart
    rw [hafter] at hstart ⊢
    obtain ⟨rfl, rfl⟩ := Prod.mk.inj (Option.some.inj hstart)
    refine ⟨hidle, hunrecorded, h.length, ?_, countersAt_last.symm,
      fun p hp ↦ hr.consecutive.lt hp, fun k trigger hk ↦ ?_⟩
    · exact succeeds_last (Option.isSome_iff_exists.mpr ⟨_, hdone⟩)
    · rcases hk.of_snoc with hold | ⟨hlast, -⟩
      · exact absurd hold (hr.probing.before hnone hunrecorded k trigger)
      · exact hlast
  · rw [hafter]
    intro probe hprobe
    cases hunrecorded.symm.trans hprobe

theorem Recorded.finishFinalProbe (hr : Recorded h intervals)
    (hdone : (after h).attempt .finishFinalProbe = some t') :
    Recorded (h ++ [.finishFinalProbe]) intervals := by
  obtain ⟨probe, hbegun, hfinish, hsame⟩ := attempt_finishFinalProbe hdone
  have hafter := (after_done hdone).trans hsame
  obtain ⟨hidle, hunrecorded, b, hb, hstart, hbefore, honce⟩ := hr.probing.running _ _ hbegun
  refine ⟨hr.consecutive.kept ?_ fun k hk ↦ hk.old nofun, Active.idle ?_, ?_, ?_, ?_, ?_⟩
  · rw [hafter]
  · rw [hafter]
    exact hidle
  · rw [hafter]
    exact fun _ hnone ↦ by cases hnone
  · rw [hafter]
    exact fun hnone ↦ by cases hnone
  · rw [hafter]
    exact fun trigger start hstart ↦ by cases hstart
  · intro probe' hprobe
    rw [hafter] at hprobe
    obtain rfl := Option.some.inj hprobe
    refine ⟨(b, h.length), ⟨hb.snoc, ?_, hb.lt, ?_, ?_, fun k trigger hk ↦ ?_, fun k hk ↦ ?_⟩,
      fun p hp ↦ .inl (hbefore p hp)⟩
    · exact succeeds_last (Option.isSome_iff_exists.mpr ⟨_, hdone⟩)
    · rw [countersAt_snoc hb.lt.le]
      exact hstart
    · rw [countersAt_last]
      exact hfinish
    · exact honce k trigger (hk.old nofun)
    · rcases hk.of_snoc with hold | ⟨hlast, -⟩
      · exact absurd hold (hr.probing.unrecorded hunrecorded k)
      · exact hlast

theorem recorded_start : Recorded [] [] := by
  have hnone : ∀ k o, ¬ Succeeds [] k o := fun k o hk ↦ absurd hk.lt (Nat.not_lt_zero k)
  refine ⟨⟨.nil, .nil, fun j hj ↦ absurd hj (hnone j _), .nil, fun e he ↦ ?_⟩, Active.idle rfl,
    ⟨fun _ _ k _ ↦ hnone k _, fun _ k ↦ hnone k _, fun _ _ hbegun ↦ ?_, fun _ hprobe ↦ ?_⟩⟩
  · exact absurd he List.not_mem_nil
  · cases hbegun
  · cases hprobe

theorem recorded (h : List Operation) : ∃ intervals, Recorded h intervals := by
  induction h using List.reverseRecOn with
  | nil => exact ⟨[], recorded_start⟩
  | append_singleton h op ih =>
    obtain ⟨intervals, hr⟩ := ih
    cases hdone : (after h).attempt op with
    | none => exact ⟨intervals, hr.raised hdone⟩
    | some t' =>
      cases op with
      | observe x y z => exact ⟨intervals, hr.observe hdone⟩
      | beginEpoch epochId => exact ⟨intervals, hr.beginEpoch hdone⟩
      | finishEpoch =>
        obtain ⟨p, hp⟩ := hr.finishEpoch hdone
        exact ⟨intervals ++ [p], hp⟩
      | beginFinalProbe trigger => exact ⟨intervals, hr.beginFinalProbe hdone⟩
      | finishFinalProbe => exact ⟨intervals, hr.finishFinalProbe hdone⟩

theorem Succeeds.take {n : ℕ} (hk : Succeeds h k o) (hlt : k < n) : Succeeds (h.take n) k o := by
  refine ⟨(List.getElem?_take_of_lt hlt).trans hk.1, ?_⟩
  rw [List.take_take, min_eq_left hlt.le]
  exact hk.2

/-- No epoch is begun once the final probe is recorded. -/
def ProbeLast (tracker : SaturationEvidenceTracker) : Operation → Prop
  | .beginEpoch _ => tracker.finalProbe.isNone = true
  | _ => True

theorem probe_after_epochs (hlast : Along step ProbeLast {} h) {probe : FinalProbeEvidence}
    (hprobe : (after h).finalProbe = some probe) :
    ∃ q, Probed h q probe ∧ ∀ j, Succeeds h j .finishEpoch → j < q.1 := by
  obtain ⟨intervals, hr⟩ := recorded h
  obtain ⟨q, hq, hapart⟩ := hr.probing.recorded probe hprobe
  refine ⟨q, hq, fun j hj ↦ ?_⟩
  obtain ⟨p, hp, rfl⟩ := List.mem_map.mp (hr.consecutive.all j hj)
  obtain ⟨epoch, -, hspans⟩ := exists_of_mem hr.consecutive.spans hp
  refine (hapart p hp).resolve_right fun hlater ↦ ?_
  obtain ⟨hlt, hget⟩ := List.getElem?_eq_some_iff.mp hspans.begun.1
  have hsplit : h = h.take p.1 ++ .beginEpoch epoch.epochId :: h.drop (p.1 + 1) := by
    rw [← hget, List.getElem_cons_drop, List.take_append_drop]
  have hnone := (along_iff step).mp hlast _ _ _ hsplit
  obtain ⟨_, hr'⟩ := recorded (h.take p.1)
  exact hr'.probing.unrecorded (Option.isNone_iff_eq_none.mp hnone) q.2 (hq.finished.take hlater)

end SaturationEvidenceTracker

/-- What the record of the runtime evidence is refused without. -/
structure SaturationRuntimeEvidence.Valid (evidence : SaturationRuntimeEvidence) : Prop where
  recovery : ¬ evidence.recoveryAttemptsRemaining < 0
  quiet : evidence.mapQuietS.isFinite = true ∧ ¬ evidence.mapQuietS < 0
  age : ∀ age ∈ evidence.finalStopAgeS, age.isFinite = true ∧ ¬ age < 0

namespace SaturationPolicy

open SaturationEvidenceTracker

/-- What a completion stands on, told of the history of the tracker. -/
structure Justified (policy : SaturationPolicy) (h : List Operation)
    (evidence : SaturationRuntimeEvidence) : Prop where
  two : 2 ≤ policy.minimumLowYieldEpochs
  enough : policy.minimumLowYieldEpochs ≤ (after h).epochs.length
  lowYield : ∀ e ∈ (after h).epochs.drop
    ((after h).epochs.length - policy.minimumLowYieldEpochs),
      policy.minimumTerminalGoalsPerEpoch ≤ e.terminalGoals ∧ policy.material e = false
  probe : ∃ probe q, (after h).finalProbe = some probe ∧ Probed h q probe ∧
    (∀ j, Succeeds h j .finishEpoch → j < q.1) ∧ probe.trigger = evidence.trigger ∧
      probe.start.mapGainCells probe.finish < policy.maximumLowYieldGainCells ∧
        probe.start.mapGainRatio probe.finish < policy.maximumLowYieldGainRatio
  drained : evidence.activeGoalCount = 0 ∧ evidence.pendingGoalCount = 0
  quiet : policy.requiredMapQuietS ≤ evidence.mapQuietS
  stopped : evidence.typedStopConfirmed = true ∧ evidence.typedStopAfterFinalProbe = true
  fresh : ∃ age ∈ evidence.finalStopAgeS, age ≤ policy.maximumFinalStopAgeS

section Assessment

variable {policy : SaturationPolicy} {evidence : SaturationRuntimeEvidence}
  {history : SaturationHistory}

theorem mem_takeWhile_of_take {α : Type*} {p : α → Bool} {l : List α} {n : ℕ}
    (hn : n ≤ (l.takeWhile p).length) {x : α} (hx : x ∈ l.take n) : p x = true := by
  have hpre : l.take n <+: l.takeWhile p :=
    List.prefix_of_prefix_length_le (List.take_prefix n l) (List.takeWhile_prefix p)
      ((List.length_take_le n l).trans hn)
  exact List.mem_takeWhile_imp (hpre.subset hx)

theorem not_of_nothing {p : Prop} [Decidable p] {text : String}
    (h : (if p then [text] else []) = []) : ¬ p := fun hp ↦ by
  rw [if_pos hp] at h
  cases h

theorem epochs_met (hmet : policy.epochsUnmet history = []) :
    policy.minimumLowYieldEpochs ≤ history.epochs.length ∧
      ∀ e ∈ history.epochs.drop (history.epochs.length - policy.minimumLowYieldEpochs),
        policy.minimumTerminalGoalsPerEpoch ≤ e.terminalGoals ∧ policy.material e = false := by
  rw [epochsUnmet] at hmet
  by_cases hfew : (history.epochs.drop
      (history.epochs.length - policy.minimumLowYieldEpochs)).length < policy.minimumLowYieldEpochs
  · rw [if_pos hfew] at hmet
    cases hmet
  · rw [if_neg hfew] at hmet
    have hcount := not_of_nothing (List.append_eq_nil_iff.mp hmet).2
    rw [List.length_drop] at hfew
    rw [consecutiveLowYieldEpochCount, not_lt] at hcount
    refine ⟨by have := policy.epochs_valid; omega, fun e he ↦ ?_⟩
    have hmem : e ∈ history.epochs.reverse.take policy.minimumLowYieldEpochs := by
      rw [List.take_reverse]
      exact List.mem_reverse.mpr he
    simpa using mem_takeWhile_of_take hcount hmem

theorem probe_met (hmet : policy.probeUnmet evidence = []) :
    ∃ probe, evidence.history.finalProbe = some probe ∧ probe.trigger = evidence.trigger ∧
      probe.start.mapGainCells probe.finish < policy.maximumLowYieldGainCells ∧
        probe.start.mapGainRatio probe.finish < policy.maximumLowYieldGainRatio := by
  rw [probeUnmet] at hmet
  cases hprobe : evidence.history.finalProbe with
  | none =>
    rw [hprobe] at hmet
    cases hmet
  | some probe =>
    rw [hprobe] at hmet
    obtain ⟨htrigger, hgain⟩ := List.append_eq_nil_iff.mp hmet
    have hgain := not_of_nothing hgain
    rw [not_or, not_le] at hgain
    refine ⟨probe, rfl, not_not.mp (not_of_nothing htrigger), hgain.1, ?_⟩
    refine Double.lt_of_not_le (fun hnan ↦ ?_) (Double.ofRat_ne_nan _) hgain.2
    have hfinite := (policy.durations_valid policy.maximumLowYieldGainRatio (by simp)).1
    rw [hnan] at hfinite
    cases hfinite

theorem complete_met (hcomplete : (policy.assessBoundedFrontierSaturation evidence).decision =
    .complete) : policy.epochsUnmet evidence.history = [] ∧ policy.probeUnmet evidence = [] ∧
      (evidence.activeGoalCount = 0 ∧ evidence.pendingGoalCount = 0) ∧
      ¬ evidence.mapQuietS < policy.requiredMapQuietS ∧
      (evidence.typedStopConfirmed = true ∧ evidence.typedStopAfterFinalProbe = true) ∧
      evidence.finalStopAgeS.all (policy.maximumFinalStopAgeS < ·) = false := by
  simp only [assessBoundedFrontierSaturation, ite_eq_left_iff, reduceCtorEq, imp_false, not_not,
    List.append_eq_nil_iff] at hcomplete
  obtain ⟨⟨⟨⟨⟨⟨⟨⟨⟨-, hepochs⟩, -⟩, -⟩, hdrained⟩, hprobe⟩, hquiet⟩, hstop⟩, hafter⟩, hstale⟩ :=
    hcomplete
  have hdrained := not_of_nothing hdrained
  rw [not_or, not_not, not_not] at hdrained
  refine ⟨hepochs, hprobe, hdrained, not_of_nothing hquiet, ⟨?_, ?_⟩, ?_⟩
  · simpa using not_of_nothing hstop
  · simpa using not_of_nothing hafter
  · simpa using not_of_nothing hstale

end Assessment

/-- With no epoch begun after the final probe, a completion is justified. -/
theorem saturation_justified (h : List Operation) (hlast : Along step ProbeLast {} h) :
    (∃ intervals, Consecutive h intervals) ∧
      ∀ (policy : SaturationPolicy) (evidence : SaturationRuntimeEvidence), evidence.Valid →
        evidence.history = (after h).snapshot →
          (policy.assessBoundedFrontierSaturation evidence).decision = .complete →
            policy.Justified h evidence := by
  obtain ⟨intervals, hr⟩ := recorded h
  refine ⟨⟨intervals, hr.consecutive⟩, fun policy evidence hvalid hhistory hcomplete ↦ ?_⟩
  obtain ⟨hepochs, hprobe, hdrained, hquiet, hstopped, hstale⟩ := complete_met hcomplete
  obtain ⟨henough, hlow⟩ := epochs_met hepochs
  obtain ⟨probe, hrecorded, htrigger, hcells, hratio⟩ := probe_met hprobe
  rw [hhistory] at henough hlow hrecorded
  obtain ⟨q, hq, hbefore⟩ := probe_after_epochs hlast hrecorded
  have hbounds : ∀ v ∈ [policy.minimumMappingPathM, policy.maximumLowYieldGainRatio,
      policy.requiredMapQuietS, policy.maximumFinalStopAgeS], v ≠ .nan := by
    intro v hv hnan
    have hfinite := (policy.durations_valid v hv).1
    rw [hnan] at hfinite
    cases hfinite
  refine ⟨policy.epochs_valid, henough, hlow,
    ⟨probe, q, hrecorded, hq, hbefore, htrigger, hcells, hratio⟩, hdrained, ?_, hstopped, ?_⟩
  · refine (Double.le_iff_not_lt (hbounds _ (by simp)) fun hnan ↦ ?_).mpr hquiet
    have hfinite := hvalid.quiet.1
    rw [hnan] at hfinite
    cases hfinite
  · cases hage : evidence.finalStopAgeS with
    | none =>
      rw [hage] at hstale
      cases hstale
    | some age =>
      refine ⟨age, rfl, (Double.le_iff_not_lt (fun hnan ↦ ?_) (hbounds _ (by simp))).mpr ?_⟩
      · have hfinite := (hvalid.age age hage).1
        rw [hnan] at hfinite
        cases hfinite
      · rw [hage] at hstale
        simpa using hstale

def saturated : List Operation :=
  [.observe 1000 0 0, .beginEpoch 1, .observe 900 3 (.ofRat 11), .finishEpoch, .beginEpoch 2,
    .observe 1000 6 (.ofRat 22), .finishEpoch, .beginFinalProbe .timeBudget,
    .observe 1000 6 (.ofRat 22), .finishFinalProbe]

/-- A third epoch is begun after the probe. -/
def reopened : List Operation :=
  saturated ++ [.beginEpoch 3, .observe 1010 9 (.ofRat 33), .finishEpoch]

def stopped (h : List Operation) : SaturationRuntimeEvidence where
  history := (after h).snapshot
  trigger := .timeBudget
  recoveryAttemptsRemaining := 0
  residualAvailableFrontiers := 0
  activeGoalCount := 0
  pendingGoalCount := 0
  mapQuietS := .ofRat 15
  typedStopConfirmed := true
  typedStopAfterFinalProbe := true
  finalStopAgeS := some (.ofRat 1)

theorem stopped_valid (h : List Operation) : (stopped h).Valid := by
  refine ⟨lt_irrefl (0 : ℤ), ?_, ?_⟩
  · change (Double.ofRat 15).isFinite = true ∧ ¬ Double.ofRat 15 < 0
    decide +kernel
  · rintro age ⟨rfl⟩
    decide +kernel

theorem completes_after_reopening : (stopped reopened).Valid ∧
    (assessBoundedFrontierSaturation {} (stopped reopened)).decision = .complete ∧
      ¬ Justified {} reopened (stopped reopened) := by
  refine ⟨stopped_valid _, by decide +kernel, fun hjustified ↦ ?_⟩
  obtain ⟨probe, q, -, hq, hbefore, -⟩ := hjustified.probe
  have hbegun : Succeeds reopened 7 (.beginFinalProbe .timeBudget) := ⟨rfl, by decide +kernel⟩
  have hfinished : Succeeds reopened 12 .finishEpoch := ⟨rfl, by decide +kernel⟩
  have hlt := hbefore 12 hfinished
  rw [← hq.begun_once 7 _ hbegun] at hlt
  exact absurd hlt (by decide)

theorem saturation_justified_saturated : Justified {} saturated (stopped saturated) := by
  refine (saturation_justified saturated ?_).2 {} _ (stopped_valid _) rfl (by decide +kernel)
  refine ⟨trivial, ?_, trivial, trivial, ?_, trivial, trivial, trivial, trivial, trivial, trivial⟩
  all_goals
    change Option.isNone _ = true
    decide +kernel

end SaturationPolicy

end EmbodiedAgent.Slam
