import EmbodiedAgent.Library.History
import EmbodiedAgent.Slam.LoopConsistency

namespace EmbodiedAgent.Slam

open Library Library.History
open scoped List

structure ConsistencyBounds.Follows (m : MathLibrary) (b : ConsistencyBounds)
    (previous o : LidarLoopTemporalObservation) : Prop where
  newer : previous.queryStampNs < o.queryStampNs
  gap : (deltasBetween m o previous).queryGapS ≤ b.maximumQueryGapS
  pairAge : (deltasBetween m o previous).pairAgeDeltaS ≤ b.maximumPairAgeDeltaS
  translation : ¬ b.maximumTranslationDeltaM < (deltasBetween m o previous).translationDeltaM
  yaw : ¬ b.maximumYawDeltaRad < (deltasBetween m o previous).yawDeltaRad

def Confirmed (R : LidarLoopTemporalObservation → LidarLoopTemporalObservation → Prop)
    (observed : List LidarLoopTemporalObservation) (o : LidarLoopTemporalObservation) (n : ℕ) :
    Prop :=
  ∃ chain, chain.length + 1 = n ∧ (chain ++ [o]).IsChain R ∧ (∀ x ∈ chain ++ [o], x.valid = true) ∧
    chain ++ [o] <+ observed

section Chains

variable {R : LidarLoopTemporalObservation → LidarLoopTemporalObservation → Prop}
  {observed observed' : List LidarLoopTemporalObservation}
  {o previous : LidarLoopTemporalObservation} {n : ℕ}

theorem Confirmed.mono (h : Confirmed R observed o n) (hsub : observed <+ observed') :
    Confirmed R observed' o n := by
  obtain ⟨chain, hlength, hchain, hvalid, hchosen⟩ := h
  exact ⟨chain, hlength, hchain, hvalid, hchosen.trans hsub⟩

theorem confirmed_start (ho : o ∈ observed) (hvalid : o.valid = true) :
    Confirmed R observed o 1 := by
  refine ⟨[], rfl, List.isChain_singleton o, ?_, List.singleton_sublist.mpr ho⟩
  rintro x hx
  rw [List.mem_singleton.mp hx]
  exact hvalid

theorem Confirmed.extend (h : Confirmed R observed previous n) (hr : R previous o)
    (hvalid : o.valid = true) {new : List LidarLoopTemporalObservation} (ho : o ∈ new) :
    Confirmed R (observed ++ new) o (n + 1) := by
  obtain ⟨chain, hlength, hchain, hall, hchosen⟩ := h
  refine ⟨chain ++ [previous], ?_, ?_, fun x hx ↦ ?_, ?_⟩
  · rw [List.length_append, List.length_singleton, hlength]
  · refine hchain.append (List.isChain_singleton o) fun x hx y hy ↦ ?_
    rw [List.getLast?_concat] at hx
    cases hx
    cases hy
    exact hr
  · rcases List.mem_append.mp hx with hold | hnew
    · exact hall x hold
    · rw [List.mem_singleton.mp hnew]
      exact hvalid
  · exact hchosen.append (List.singleton_sublist.mpr ho)

end Chains

section Bounds

variable {m : MathLibrary} {b : ConsistencyBounds} {o previous : LidarLoopTemporalObservation}

theorem toSeconds_ne_nan (n : Int64) : toSeconds n ≠ .nan := by
  have hfinite : (Double.ofRat (1 / 1000000000)).isFinite = true := by decide +kernel
  have hne : Double.ofRat (1 / 1000000000) ≠ 0 := by decide +kernel
  obtain ⟨q, hq, heq⟩ := Double.eq_finite_of_isFinite hfinite
  rw [toSeconds, heq]
  rw [heq] at hne
  have hq' : q ≠ 0 := by
    rintro rfl
    exact hne rfl
  cases hn : Double.ofRat n.toInt with
  | nan => exact absurd hn (Double.ofRat_ne_nan _)
  | infinite negative =>
    rw [Double.mul, if_neg hq']
    exact Double.noConfusion
  | finite a ha => exact Double.ofRat_ne_nan _

theorem abs_ne_nan {v : Double} (h : v ≠ .nan) : v.abs ≠ .nan := by
  cases v with
  | nan => exact absurd rfl h
  | infinite | finite => exact Double.noConfusion

theorem ConsistencyBounds.Valid.ne_nan (hb : b.Valid) {v : Double}
    (hv : v ∈ [b.maximumQueryGapS, b.maximumPairAgeDeltaS, b.maximumTranslationDeltaM,
      b.maximumYawDeltaRad]) : v ≠ .nan := by
  rintro rfl
  cases hb.finite _ hv

theorem ConsistencyBounds.Valid.follows (hb : b.Valid)
    (hnewer : previous.queryStampNs < o.queryStampNs)
    (hgap : ¬ b.maximumQueryGapS < (deltasBetween m o previous).queryGapS)
    (hage : ¬ b.maximumPairAgeDeltaS < (deltasBetween m o previous).pairAgeDeltaS)
    (htranslation : ¬ b.maximumTranslationDeltaM < (deltasBetween m o previous).translationDeltaM)
    (hyaw : ¬ b.maximumYawDeltaRad < (deltasBetween m o previous).yawDeltaRad) :
    b.Follows m previous o := by
  refine ⟨hnewer, ?_, ?_, htranslation, hyaw⟩
  · exact (Double.le_iff_not_lt (toSeconds_ne_nan _) (hb.ne_nan (by simp))).mpr hgap
  · exact (Double.le_iff_not_lt (abs_ne_nan (toSeconds_ne_nan _)) (hb.ne_nan (by simp))).mpr hage

end Bounds

namespace LidarLoopTemporalConsistency

variable (m : MathLibrary) (config : Config)

def step (s : State) (o : LidarLoopTemporalObservation) : State × LidarLoopTemporalDecision :=
  ((observe m config s o).2, (observe m config s o).1)

def after (h : List LidarLoopTemporalObservation) : State := run (step m config) {} h

/-- What the filter says of the next observation after a history of observations. -/
structure Sound (h : List LidarLoopTemporalObservation) (o : LidarLoopTemporalObservation) :
    Prop where
  approved : (observe m config (after m config h) o).1.approved = true →
    config.minimumConfirmations ≤ (observe m config (after m config h) o).1.confirmationCount ∧
      Confirmed (config.toConsistencyBounds.Follows m) (h ++ [o]) o
        (observe m config (after m config h) o).1.confirmationCount
  stale : (∃ earlier ∈ h, earlier.valid = true ∧ o.queryStampNs ≤ earlier.queryStampNs) →
    after m config (h ++ [o]) = after m config h

structure Tracked (h : List LidarLoopTemporalObservation) (s : State) : Prop where
  chain : ∀ previous, s.previous = some previous →
    Confirmed (config.toConsistencyBounds.Follows m) h previous s.confirmationCount
  newest : ∀ o ∈ h, o.valid = true →
    ∃ previous, s.previous = some previous ∧ o.queryStampNs ≤ previous.queryStampNs

variable {m config}
variable {s : State} {o : LidarLoopTemporalObservation} {h : List LidarLoopTemporalObservation}

inductive Outcome (m : MathLibrary) (config : Config) (s : State)
    (o : LidarLoopTemporalObservation) :
    LidarLoopTemporalDecision × State → Prop
  | refused (d : LidarLoopTemporalDecision) (happroved : d.approved = false)
    (hold : o.valid = true →
      ∃ previous, s.previous = some previous ∧ o.queryStampNs ≤ previous.queryStampNs) :
    Outcome m config s o (d, s)
  | started (d : LidarLoopTemporalDecision) (hvalid : o.valid = true)
    (hnewer : ∀ previous, s.previous = some previous → previous.queryStampNs < o.queryStampNs)
    (happroved : d.approved = true → config.minimumConfirmations ≤ 1 ∧ d.confirmationCount = 1) :
    Outcome m config s o (d, startTrack o)
  | extended (previous : LidarLoopTemporalObservation) (deltas : Deltas) (hvalid : o.valid = true)
    (hprevious : s.previous = some previous)
    (hfollows : config.toConsistencyBounds.Follows m previous o) :
    Outcome m config s o (tracked config (s.confirmationCount + 1) deltas,
      { previous := some o, confirmationCount := s.confirmationCount + 1 })

theorem follows_of_kept {previous : LidarLoopTemporalObservation}
    (hnewer : previous.queryStampNs < o.queryStampNs)
    (hkept : resetReason config (deltasBetween m o previous) = none) :
    config.toConsistencyBounds.Follows m previous o := by
  unfold resetReason at hkept
  split_ifs at hkept with hgap hage htransform
  rw [not_or] at htransform
  exact config.valid.follows hnewer hgap hage htransform.1 htransform.2

theorem observe_outcome : Outcome m config s o (observe m config s o) := by
  rw [observe]
  by_cases hvalid : o.valid = true
  · rw [if_neg (by simp [hvalid])]
    cases hprevious : s.previous with
    | none =>
      refine .started _ hvalid (fun previous hsome ↦ ?_) fun happroved ↦ ⟨?_, rfl⟩
      · cases hprevious.symm.trans hsome
      · exact of_decide_eq_true happroved
    | some previous =>
      dsimp only
      split_ifs with hold
      · exact .refused _ rfl fun _ ↦ ⟨previous, hprevious, hold⟩
      · have hnewer := Int64.not_le.mp hold
        cases hreason : resetReason config (deltasBetween m o previous) with
        | none => exact .extended previous _ hvalid hprevious (follows_of_kept hnewer hreason)
        | some reason =>
          refine .started _ hvalid (fun previous' hsome ↦ ?_) fun happroved ↦ by cases happroved
          cases hprevious.symm.trans hsome
          exact hnewer
  · rw [if_pos (by simpa using hvalid)]
    exact .refused _ rfl fun h ↦ absurd h hvalid

theorem after_snoc : after m config (h ++ [o]) = (observe m config (after m config h) o).2 :=
  run_snoc (step m config) _ h o

theorem tracked_snoc (ht : Tracked m config h (after m config h)) :
    Tracked m config (h ++ [o]) (after m config (h ++ [o])) := by
  have hsub : h <+ h ++ [o] := List.sublist_append_left h [o]
  have hlast : o ∈ h ++ [o] := List.mem_append_right _ (List.mem_singleton_self o)
  have houtcome := @observe_outcome m config (after m config h) o
  rw [after_snoc]
  generalize observe m config (after m config h) o = result at houtcome
  cases houtcome with
  | refused d happroved hold =>
    refine ⟨fun previous hprevious ↦ (ht.chain previous hprevious).mono hsub, fun x hx hvalid ↦ ?_⟩
    rcases List.mem_append.mp hx with hearlier | hnew
    · exact ht.newest x hearlier hvalid
    · rw [List.mem_singleton.mp hnew] at hvalid ⊢
      exact hold hvalid
  | started d hvalid hnewer happroved =>
    refine ⟨fun previous hprevious ↦ ?_, fun x hx hvalid' ↦ ⟨o, rfl, ?_⟩⟩
    · cases hprevious
      exact confirmed_start hlast hvalid
    · rcases List.mem_append.mp hx with hearlier | hnew
      · obtain ⟨previous, hprevious, hle⟩ := ht.newest x hearlier hvalid'
        exact Int64.le_of_lt (Int64.lt_of_le_of_lt hle (hnewer previous hprevious))
      · rw [List.mem_singleton.mp hnew]
        exact Int64.le_refl _
  | extended previous deltas hvalid hprevious hfollows =>
    refine ⟨fun previous' hprevious' ↦ ?_, fun x hx hvalid' ↦ ⟨o, rfl, ?_⟩⟩
    · cases hprevious'
      exact (ht.chain previous hprevious).extend hfollows hvalid (List.mem_singleton_self o)
    · rcases List.mem_append.mp hx with hearlier | hnew
      · obtain ⟨previous', hprevious', hle⟩ := ht.newest x hearlier hvalid'
        cases hprevious.symm.trans hprevious'
        exact Int64.le_of_lt (Int64.lt_of_le_of_lt hle hfollows.newer)
      · rw [List.mem_singleton.mp hnew]
        exact Int64.le_refl _

theorem tracked_after (h : List LidarLoopTemporalObservation) :
    Tracked m config h (after m config h) := by
  induction h using List.reverseRecOn with
  | nil => exact ⟨fun _ hprevious ↦ (by cases hprevious), fun x hx ↦ absurd hx List.not_mem_nil⟩
  | append_singleton h o ih => exact tracked_snoc ih

theorem sound (h : List LidarLoopTemporalObservation) (o : LidarLoopTemporalObservation) :
    Sound m config h o := by
  have ht := @tracked_after m config h
  have houtcome := @observe_outcome m config (after m config h) o
  refine ⟨fun happroved ↦ ?_, fun hstale ↦ ?_⟩
  · generalize observe m config (after m config h) o = result at houtcome happroved
    cases houtcome with
    | refused d hrefused hold => cases hrefused.symm.trans happroved
    | started d hvalid hnewer hone =>
      obtain ⟨hmin, hcount⟩ := hone happroved
      refine ⟨hmin.trans hcount.ge, ?_⟩
      rw [hcount]
      exact confirmed_start (List.mem_append_right _ (List.mem_singleton_self o)) hvalid
    | extended previous deltas hvalid hprevious hfollows =>
      exact ⟨of_decide_eq_true happroved,
        (ht.chain previous hprevious).extend hfollows hvalid (List.mem_singleton_self o)⟩
  · obtain ⟨earlier, hearlier, hvalid, hle⟩ := hstale
    obtain ⟨newest, hnewest, hle'⟩ := ht.newest earlier hearlier hvalid
    have hnot : ¬ newest.queryStampNs < o.queryStampNs :=
      Int64.not_lt.mpr (Int64.le_trans hle hle')
    rw [after_snoc]
    generalize observe m config (after m config h) o = result at houtcome
    cases houtcome with
    | refused d hrefused hold => rfl
    | started d hvalid hnewer hone => exact absurd (hnewer newest hnewest) hnot
    | extended previous deltas hvalid hprevious hfollows =>
      cases hprevious.symm.trans hnewest
      exact absurd hfollows.newer hnot

end LidarLoopTemporalConsistency

namespace LidarLoopSequenceConsistency

variable (m : MathLibrary) (config : Config)

def Extends (previous o : LidarLoopTemporalObservation) : Prop :=
  previous.candidateStampNs < o.candidateStampNs ∧ config.toConsistencyBounds.Follows m previous o

def step (s : State) (batch : List LidarLoopTemporalObservation) :
    State × List LidarLoopTemporalDecision :=
  match observeBatch m config s batch with
  | .error _ => (s, [])
  | .ok (decisions, s') => (s', decisions)

def after (h : List (List LidarLoopTemporalObservation)) : State := run (step m config) {} h

def taken (s : State) (batch : List LidarLoopTemporalObservation) :
    List LidarLoopTemporalObservation :=
  match observeBatch m config s batch with
  | .error _ => []
  | .ok _ => batch

def observed (h : List (List LidarLoopTemporalObservation)) : List LidarLoopTemporalObservation :=
  collect (step m config) (taken m config) {} h

/-- What the filter says of the next batch after a history of batches. -/
structure Sound (h : List (List LidarLoopTemporalObservation))
    (batch : List LidarLoopTemporalObservation) : Prop where
  approved : ∀ decisions s', observeBatch m config (after m config h) batch = .ok (decisions, s') →
    decisions.length = batch.length ∧ ∀ p ∈ batch.zip decisions, p.2.approved = true →
      config.minimumConfirmations ≤ p.2.confirmationCount ∧
        Confirmed (Extends m config) (observed m config h ++ batch) p.1 p.2.confirmationCount
  bounded : (after m config h).hypotheses.length ≤ config.maximumHypotheses
  stale : (∃ o ∈ batch, ∃ earlier ∈ observed m config h, o.queryStampNs ≤ earlier.queryStampNs) →
    after m config (h ++ [batch]) = after m config h

structure Tracked (observed : List LidarLoopTemporalObservation) (s : State) : Prop where
  chains : ∀ x ∈ s.hypotheses, x.observation.queryStampNs ≤ s.latestQueryStampNs ∧
    Confirmed (Extends m config) observed x.observation x.confirmationCount
  newest : ∀ o ∈ observed, o.queryStampNs ≤ s.latestQueryStampNs
  bounded : s.hypotheses.length ≤ config.maximumHypotheses

variable {m config}
variable {s : State} {o : LidarLoopTemporalObservation} {hypotheses : List Hypothesis}

theorem of_outOfBounds {d : Deltas} (h : ¬ outOfBounds config d = true) :
    ¬ config.maximumQueryGapS < d.queryGapS ∧ ¬ config.maximumPairAgeDeltaS < d.pairAgeDeltaS ∧
      ¬ config.maximumTranslationDeltaM < d.translationDeltaM ∧
        ¬ config.maximumYawDeltaRad < d.yawDeltaRad := by
  simpa [outOfBounds, and_assoc] using h

theorem mem_best (hold : ∀ x ∈ hypotheses, x.observation.queryStampNs < o.queryStampNs) {b : Best}
    (hb : hypotheses.foldl (consider m config o) none = some b) :
    b.hypothesis ∈ hypotheses ∧ Extends m config b.hypothesis.observation o := by
  induction hypotheses using List.reverseRecOn generalizing b with
  | nil => cases hb
  | append_singleton hypotheses x ih =>
    have hx := hold x (List.mem_append_right _ (List.mem_singleton_self x))
    have hbefore : ∀ {b}, hypotheses.foldl (consider m config o) none = some b →
        b.hypothesis ∈ hypotheses ++ [x] ∧ Extends m config b.hypothesis.observation o := by
      intro b hb
      obtain ⟨hmem, hext⟩ := ih (fun x hx ↦ hold x (List.mem_append_left _ hx)) hb
      exact ⟨List.mem_append_left _ hmem, hext⟩
    rw [List.foldl_append, List.foldl_cons, List.foldl_nil, consider] at hb
    by_cases hcandidate : o.candidateStampNs ≤ x.observation.candidateStampNs
    · rw [if_pos hcandidate] at hb
      exact hbefore hb
    · rw [if_neg hcandidate] at hb
      by_cases hbounds : outOfBounds config (deltasBetween m o x.observation) = true
      · rw [if_pos hbounds] at hb
        exact hbefore hb
      · rw [if_neg hbounds] at hb
        obtain ⟨hgap, hage, htranslation, hyaw⟩ := of_outOfBounds hbounds
        have hext : Extends m config x.observation o :=
          ⟨Int64.not_le.mp hcandidate, config.valid.follows hx hgap hage htranslation hyaw⟩
        have hnew : x ∈ hypotheses ++ [x] := List.mem_append_right _ (List.mem_singleton_self x)
        cases hbest : hypotheses.foldl (consider m config o) none with
        | none =>
          rw [hbest] at hb
          cases hb
          exact ⟨hnew, hext⟩
        | some best =>
          rw [hbest] at hb
          dsimp only at hb
          split_ifs at hb with hbetter
          · cases hb
            exact ⟨hnew, hext⟩
          · cases hb
            exact hbefore hbest

theorem extend_confirmed {observed batch : List LidarLoopTemporalObservation}
    (hold : ∀ x ∈ hypotheses, x.observation.queryStampNs < o.queryStampNs)
    (hchains : ∀ x ∈ hypotheses,
      Confirmed (Extends m config) observed x.observation x.confirmationCount) (ho : o ∈ batch) :
    ((extend m config hypotheses o).1.approved = true → config.minimumConfirmations ≤
        (extend m config hypotheses o).1.confirmationCount ∧
      Confirmed (Extends m config) (observed ++ batch) o
        (extend m config hypotheses o).1.confirmationCount) ∧
    ∀ x, (extend m config hypotheses o).2 = some x → x.observation = o ∧
      Confirmed (Extends m config) (observed ++ batch) o x.confirmationCount := by
  rw [extend]
  by_cases hvalid : o.valid = true
  · rw [if_neg (by simp [hvalid])]
    have hconfirmed : Confirmed (Extends m config) (observed ++ batch) o
        (((hypotheses.foldl (consider m config o) none).map
          (·.hypothesis.confirmationCount + 1)).getD 1) := by
      cases hbest : hypotheses.foldl (consider m config o) none with
      | none => exact confirmed_start (List.mem_append_right _ ho) hvalid
      | some b =>
        obtain ⟨hmem, hext⟩ := mem_best hold hbest
        exact (hchains _ hmem).extend hext hvalid ho
    refine ⟨fun happroved ↦ ⟨of_decide_eq_true happroved, hconfirmed⟩, fun x hx ↦ ?_⟩
    cases hx
    exact ⟨rfl, hconfirmed⟩
  · rw [if_pos (by simpa using hvalid)]
    exact ⟨fun happroved ↦ (by cases happroved), fun x hx ↦ by cases hx⟩

inductive Outcome (m : MathLibrary) (config : Config) (s : State)
    (batch : List LidarLoopTemporalObservation) :
    Except String (List LidarLoopTemporalDecision × State) → Prop
  | raised (message : String) : Outcome m config s batch (.error message)
  | stale (decisions : List LidarLoopTemporalDecision) (hlength : decisions.length = batch.length)
    (hrefused : ∀ d ∈ decisions, d.approved = false)
    (hold : ∀ o ∈ batch, o.queryStampNs ≤ s.latestQueryStampNs) :
    Outcome m config s batch (.ok (decisions, s))
  | extended (stamp : Int64) (recent : List Hypothesis) (s' : State)
    (hstamp : ∀ o ∈ batch, o.queryStampNs = stamp) (hnewer : s.latestQueryStampNs < stamp)
    (hne : batch ≠ []) (hrecent : ∀ x ∈ recent, x ∈ s.hypotheses)
    (hnew : ∀ x ∈ s'.hypotheses, x ∈ recent ∨ ∃ o ∈ batch, (extend m config recent o).2 = some x)
    (hlatest : s'.latestQueryStampNs = stamp)
    (hbounded : s'.hypotheses.length ≤ config.maximumHypotheses) :
    Outcome m config s batch (.ok ((batch.map (extend m config recent)).map Prod.fst, s'))

theorem observeBatch_outcome {batch : List LidarLoopTemporalObservation} :
    Outcome m config s batch (observeBatch m config s batch) := by
  cases batch with
  | nil =>
    refine .stale [] List.length_nil (fun d hd ↦ ?_) fun o ho ↦ ?_
    · exact absurd hd List.not_mem_nil
    · exact absurd ho List.not_mem_nil
  | cons first rest =>
    rw [observeBatch]
    split_ifs with hmixed hold
    · exact .raised _
    · have hstamp : ∀ o ∈ first :: rest, o.queryStampNs = first.queryStampNs := by
        simpa using hmixed
      refine .stale _ (List.length_map _) (fun d hd ↦ ?_) fun o ho ↦ ?_
      · obtain ⟨-, -, rfl⟩ := List.mem_map.mp hd
        rfl
      · rw [hstamp o ho]
        exact hold
    · have hstamp : ∀ o ∈ first :: rest, o.queryStampNs = first.queryStampNs := by
        simpa using hmixed
      refine .extended first.queryStampNs _ _ hstamp (Int64.not_le.mp hold) (List.cons_ne_nil _ _)
        (fun x hx ↦ (List.mem_filter.mp hx).1) (fun x hx ↦ ?_) rfl (List.length_take_le _ _)
      have hmem := List.mem_mergeSort.mp (List.mem_of_mem_take hx)
      rcases List.mem_append.mp hmem with hrecent | hextended
      · exact .inl hrecent
      · obtain ⟨p, hp, hsome⟩ := List.mem_filterMap.mp hextended
        obtain ⟨o, ho, rfl⟩ := List.mem_map.mp hp
        exact .inr ⟨o, ho, hsome⟩

variable {seen batch : List LidarLoopTemporalObservation}

theorem Tracked.newer (ht : Tracked m config seen s) {recent : List Hypothesis}
    (hrecent : ∀ x ∈ recent, x ∈ s.hypotheses) {stamp : Int64}
    (hnewer : s.latestQueryStampNs < stamp) (hstamp : o.queryStampNs = stamp) :
    ∀ x ∈ recent, x.observation.queryStampNs < o.queryStampNs := by
  intro x hx
  rw [hstamp]
  exact Int64.lt_of_le_of_lt (ht.chains x (hrecent x hx)).1 hnewer

theorem mem_zip_map {α β : Type*} {f : α → β} {l : List α} {p : α × β}
    (h : p ∈ l.zip (l.map f)) : p.1 ∈ l ∧ p.2 = f p.1 := by
  induction l with
  | nil => cases h
  | cons x l ih =>
    rcases List.mem_cons.mp h with rfl | hrest
    · exact ⟨List.mem_cons_self, rfl⟩
    · obtain ⟨hmem, heq⟩ := ih hrest
      exact ⟨List.mem_cons_of_mem _ hmem, heq⟩

theorem tracked_step (ht : Tracked m config seen s) :
    Tracked m config (seen ++ taken m config s batch) (step m config s batch).1 := by
  have houtcome := @observeBatch_outcome m config s batch
  rw [taken, step]
  generalize observeBatch m config s batch = result at houtcome
  cases houtcome with
  | raised message =>
    rw [List.append_nil]
    exact ht
  | stale decisions hlength hrefused hold =>
    refine ⟨fun x hx ↦ ?_, fun o ho ↦ ?_, ht.bounded⟩
    · obtain ⟨hle, hchain⟩ := ht.chains x hx
      exact ⟨hle, hchain.mono (List.sublist_append_left seen batch)⟩
    · rcases List.mem_append.mp ho with hseen | hnew
      · exact ht.newest o hseen
      · exact hold o hnew
  | extended stamp recent s' hstamp hnewer hne hrecent hnew hlatest hbounded =>
    refine ⟨fun x hx ↦ ?_, fun o ho ↦ ?_, hbounded⟩
    · rcases hnew x hx with hold | ⟨o, ho, hsome⟩
      · obtain ⟨hle, hchain⟩ := ht.chains x (hrecent x hold)
        refine ⟨?_, hchain.mono (List.sublist_append_left seen batch)⟩
        rw [hlatest]
        exact Int64.le_of_lt (Int64.lt_of_le_of_lt hle hnewer)
      · obtain ⟨hsame, hchain⟩ := (extend_confirmed (ht.newer hrecent hnewer (hstamp o ho))
          (fun x hx ↦ (ht.chains x (hrecent x hx)).2) ho).2 x hsome
        rw [hsame, hlatest, hstamp o ho]
        exact ⟨Int64.le_refl _, hchain⟩
    · rw [hlatest]
      rcases List.mem_append.mp ho with hseen | hnew
      · exact Int64.le_of_lt (Int64.lt_of_le_of_lt (ht.newest o hseen) hnewer)
      · rw [hstamp o hnew]
        exact Int64.le_refl _

theorem tracked_after (h : List (List LidarLoopTemporalObservation)) :
    Tracked m config (observed m config h) (after m config h) := by
  induction h using List.reverseRecOn with
  | nil => exact ⟨fun x hx ↦ absurd hx List.not_mem_nil, fun o ho ↦ absurd ho List.not_mem_nil,
      Nat.zero_le _⟩
  | append_singleton h batch ih =>
    rw [observed, collect_snoc, after, run_snoc]
    exact tracked_step ih

theorem sound (h : List (List LidarLoopTemporalObservation))
    (batch : List LidarLoopTemporalObservation) : Sound m config h batch := by
  have ht := @tracked_after m config h
  have houtcome := @observeBatch_outcome m config (after m config h) batch
  refine ⟨fun decisions s' hresult ↦ ?_, ht.bounded, fun hstale ↦ ?_⟩
  · rw [hresult] at houtcome
    cases houtcome with
    | stale _ hlength hrefused hold =>
      refine ⟨hlength, fun p hp happroved ↦ ?_⟩
      cases (hrefused p.2 (List.of_mem_zip hp).2).symm.trans happroved
    | extended stamp recent s' hstamp hnewer hne hrecent hnew hlatest hbounded =>
      rw [List.map_map]
      refine ⟨List.length_map _, fun p hp happroved ↦ ?_⟩
      obtain ⟨ho, heq⟩ := mem_zip_map hp
      rw [heq] at happroved ⊢
      exact (extend_confirmed (ht.newer hrecent hnewer (hstamp _ ho))
        (fun x hx ↦ (ht.chains x (hrecent x hx)).2) ho).1 happroved
  · obtain ⟨o, ho, earlier, hearlier, hle⟩ := hstale
    have hnot : ¬ (after m config h).latestQueryStampNs < o.queryStampNs :=
      Int64.not_lt.mpr (Int64.le_trans hle (ht.newest earlier hearlier))
    rw [after, run_snoc]
    change (step m config (after m config h) batch).1 = after m config h
    rw [step]
    generalize observeBatch m config (after m config h) batch = result at houtcome
    cases houtcome with
    | raised message => rfl
    | stale decisions hlength hrefused hold => rfl
    | extended stamp recent s' hstamp hnewer hne hrecent hnew hlatest hbounded =>
      rw [← hstamp o ho] at hnewer
      exact absurd hnewer hnot

end LidarLoopSequenceConsistency

/-- Both filters, after every history, with every library of the platform. -/
theorem loop_confirmation_sound (m : MathLibrary) :
    (∀ config h batch, LidarLoopSequenceConsistency.Sound m config h batch) ∧
      ∀ config h o, LidarLoopTemporalConsistency.Sound m config h o :=
  ⟨fun _ ↦ LidarLoopSequenceConsistency.sound, fun _ ↦ LidarLoopTemporalConsistency.sound⟩

end EmbodiedAgent.Slam
