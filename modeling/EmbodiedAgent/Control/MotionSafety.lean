import EmbodiedAgent.Control.VelocityGate
import EmbodiedAgent.Library.History

namespace EmbodiedAgent.VelocityAuthorityGate

open Library Library.History
open scoped List

inductive GateEvent
  | authority (snapshot : ControlAuthoritySnapshot) (receivedAt : ℤ)
  | velocity (channel : Channel) (velocity : VelocityCommand) (receivedAt : ℤ)

def GateEvent.receivedAt : GateEvent → ℤ
  | .authority _ receivedAt => receivedAt
  | .velocity _ _ receivedAt => receivedAt

variable (g : VelocityAuthorityGate)

def step : GateEvent → VelocityAuthorityGate × Bool
  | .authority snapshot receivedAt => g.updateAuthority snapshot receivedAt
  | .velocity .autonomy velocity receivedAt => g.updateAutonomy velocity receivedAt
  | .velocity .keyboard velocity receivedAt => g.updateKeyboard velocity receivedAt

def GateEvent.sampleOf (channel : Channel) : GateEvent → Option TimedVelocity
  | .authority .. => none
  | .velocity c v receivedAt => if c = channel then some ⟨v, receivedAt⟩ else none

def samples (channel : Channel) (h : List GateEvent) : List TimedVelocity :=
  h.filterMap (GateEvent.sampleOf channel)

def AcceptsAuthority (h : List GateEvent) (e : GateEvent) : Prop :=
  ∃ s t, e = .authority s t ∧ ((run step g h).authorityTracker.update s t).2.accepted = true

def ChangesGeneration (h : List GateEvent) (e : GateEvent) : Prop :=
  ∃ s t, e = .authority s t ∧ ((run step g h).authorityTracker.update s t).2.accepted = true ∧
    ((run step g h).authorityTracker.update s t).2.generationChanged = true

def Owns (h : List GateEvent) (now : ℤ) (channel : Channel) : Prop :=
  ∃ pre s t post, Latest (AcceptsAuthority g) h pre (.authority s t) post ∧
    channel.OwnedBy g.config s ∧ Fresh t g.config.authorityLease now

structure Newest (config : VelocityAuthorityGateConfig) (channel : Channel) (t : ℤ)
    (post mid : List GateEvent) (x : TimedVelocity) (rest : List GateEvent) (now : ℤ) : Prop where
  split : post = mid ++ .velocity channel x.velocity x.receivedAt :: rest
  last : samples channel rest = []
  admitted : config.admits x.velocity = true
  after : t ≤ x.receivedAt
  fresh : Fresh x.receivedAt (channel.timeout config) now

/-- The autonomy sample `x` ended the quarantine and drove nothing itself. -/
structure Released (g : VelocityAuthorityGate) (pre : List GateEvent) (t : ℤ)
    (mid : List GateEvent) (x : TimedVelocity) : Prop where
  admitted : g.config.admits x.velocity = true
  active : (run step g (pre ++ mid)).autonomy.quarantineActive = true
  ended : (run step g (pre ++ mid ++
    [.velocity .autonomy x.velocity x.receivedAt])).autonomy.quarantineActive = false
  quiet : x.velocity.isZero = true ∨
    (t + nanoseconds g.config.autonomyTimeout ≤ x.receivedAt ∧
      ∀ y ∈ samples .autonomy mid,
        y.receivedAt + nanoseconds g.config.autonomyTimeout ≤ x.receivedAt)
  unused : ∀ tail, samples .autonomy tail = [] → ∀ later, ((run step g (pre ++ mid ++
    .velocity .autonomy x.velocity x.receivedAt :: tail)).evaluate later).decision ≠
      .autonomyAuthorized

/-- What stands behind an output `v` at `now` that moves the robot. -/
def MotionJustified (h : List GateEvent) (now : ℤ)
    (v : VelocityCommand) : Prop :=
  ∃ channel, Owns g h now channel ∧
    ∃ pre s t post, Latest (ChangesGeneration g) h pre (.authority s t) post ∧
      ∃ mid u rest, Newest g.config channel t post mid ⟨v, u⟩ rest now ∧
        (channel = .autonomy → ∃ before x after, mid =
            before ++ .velocity .autonomy x.velocity x.receivedAt :: after ∧
          Released g (pre ++ [.authority s t]) t before x)

section Source

variable {config : VelocityAuthorityGateConfig} {timeout t : ℤ} {source : VelocitySource}
  {l : List TimedVelocity} {x : TimedVelocity}

def feed (config : VelocityAuthorityGateConfig) (timeout : ℤ) (source : VelocitySource)
    (l : List TimedVelocity) : VelocitySource :=
  run (fun source x ↦ updateSource config source x.velocity timeout x.receivedAt) source l

theorem feed_snoc : feed config timeout source (l ++ [x]) =
    (updateSource config (feed config timeout source l) x.velocity timeout x.receivedAt).1 :=
  run_snoc _ _ _ _

theorem updateSource_open (h : source.quarantineActive = false) :
    (updateSource config source x.velocity timeout x.receivedAt).1 =
      { source with sample := if config.admits x.velocity = true then some x else none } := by
  by_cases hx : config.admits x.velocity = true
  · simp [updateSource, hx, h]
  · simp [updateSource, hx, h]

theorem feed_open (h : source.quarantineActive = false) :
    (feed config timeout source l).quarantineActive = false := by
  induction l using List.reverseRecOn with
  | nil => exact h
  | append_singleton l x ih => rw [feed_snoc, updateSource_open ih]; exact ih

theorem feed_open_sample (h : source.quarantineActive = false) (hempty : source.sample = none)
    (hx : (feed config timeout source l).sample = some x) :
    ∃ l', l = l' ++ [x] ∧ config.admits x.velocity = true := by
  induction l using List.reverseRecOn with
  | nil => exact absurd hx (by simp [feed, hempty])
  | append_singleton l y ih =>
    rw [feed_snoc, updateSource_open (feed_open h)] at hx
    split_ifs at hx with hy
    obtain rfl := Option.some.inj hx
    exact ⟨l, rfl, hy⟩

structure Quarantined (t : ℤ) (l : List TimedVelocity) (source : VelocitySource) : Prop where
  active : source.quarantineActive = true
  empty : source.sample = none
  quiet : ∃ quiet, source.quarantineQuietSince = some quiet ∧ t ≤ quiet ∧
    ∀ y ∈ l, y.receivedAt ≤ quiet

/-- The sample `x`, arriving after `l`, is one that ends the quarantine. -/
structure Release (config : VelocityAuthorityGateConfig) (timeout t : ℤ) (l : List TimedVelocity)
    (x : TimedVelocity) : Prop where
  admitted : config.admits x.velocity = true
  quiet : x.velocity.isZero = true ∨ (t + nanoseconds timeout ≤ x.receivedAt ∧
    ∀ y ∈ l, y.receivedAt + nanoseconds timeout ≤ x.receivedAt)

theorem quarantined_start : Quarantined t [] (startSourceQuarantine t) :=
  ⟨rfl, rfl, t, rfl, le_rfl, by simp⟩

theorem Quarantined.extend {quiet : ℤ} (hq : ∀ y ∈ l, y.receivedAt ≤ x.receivedAt)
    (ht : t ≤ x.receivedAt) (hs : source.quarantineActive = true) (he : source.sample = none)
    (hsince : source.quarantineQuietSince = some quiet) (hquiet : quiet = x.receivedAt) :
    Quarantined t (l ++ [x]) source := by
  subst hquiet
  refine ⟨hs, he, x.receivedAt, hsince, ht, ?_⟩
  intro y hy
  rcases List.mem_append.mp hy with hy | hy
  · exact hq y hy
  · rw [List.mem_singleton.mp hy]

theorem Quarantined.step (config : VelocityAuthorityGateConfig) (timeout : ℤ)
    (hq : Quarantined t l source) (ht : t ≤ x.receivedAt)
    (hl : ∀ y ∈ l, y.receivedAt ≤ x.receivedAt) :
    Quarantined t (l ++ [x]) (updateSource config source x.velocity timeout x.receivedAt).1 ∨
      (Release config timeout t l x ∧
        (updateSource config source x.velocity timeout x.receivedAt).1 = {}) := by
  obtain ⟨quiet, hsince, hstart, hquiet⟩ := hq.quiet
  unfold updateSource
  by_cases hx : config.admits x.velocity = true
  · rw [if_neg (by simp [hx]), if_pos hq.active]
    split_ifs with hzero hsilent
    · exact .inr ⟨⟨hx, .inl hzero⟩, rfl⟩
    · simp only [quietFor, hsince, Bool.and_eq_true, decide_eq_true_eq] at hsilent
      refine .inr ⟨⟨hx, .inr ⟨by omega, ?_⟩⟩, rfl⟩
      intro y hy
      have hy' := hquiet y hy
      omega
    · exact .inl (.extend hl ht hq.active rfl rfl rfl)
  · rw [if_pos (by simp [hx]), hq.active]
    exact .inl (.extend hl ht rfl rfl rfl rfl)

theorem feed_quarantine (ht : ∀ y ∈ l, t ≤ y.receivedAt)
    (hl : (l.map TimedVelocity.receivedAt).Pairwise (· ≤ ·)) :
    Quarantined t l (feed config timeout (startSourceQuarantine t) l) ∨
      ∃ before x after, l = before ++ x :: after ∧
        Quarantined t before (feed config timeout (startSourceQuarantine t) before) ∧
        Release config timeout t before x ∧
        feed config timeout (startSourceQuarantine t) (before ++ [x]) = {} ∧
        feed config timeout (startSourceQuarantine t) l = feed config timeout {} after := by
  induction l using List.reverseRecOn with
  | nil => exact .inl quarantined_start
  | append_singleton l x ih =>
    rw [List.map_append, List.pairwise_append] at hl
    rcases ih (fun y hy ↦ ht y (List.mem_append_left _ hy)) hl.1 with
      hq | ⟨before, y, after, rfl, hq, hr, hend, hrest⟩
    · have hpast : ∀ y ∈ l, y.receivedAt ≤ x.receivedAt := by
        intro y hy
        exact hl.2.2 _ (List.mem_map_of_mem hy) _ (by simp)
      rcases hq.step config timeout (ht x (by simp)) hpast with
        hq' | ⟨hr, hend⟩
      · exact .inl (feed_snoc ▸ hq')
      · rw [← feed_snoc] at hend
        exact .inr ⟨l, x, [], by simp, hq, hr, hend, hend⟩
    · refine .inr ⟨before, y, after ++ [x], by simp, hq, hr, hend, ?_⟩
      rw [feed_snoc, hrest, feed_snoc]

end Source

section Runs

variable {g : VelocityAuthorityGate} {h pre post : List GateEvent} {e : GateEvent}
  {s : ControlAuthoritySnapshot} {t : ℤ} {channel : Channel}

theorem updateAuthority_rejected (ha : (g.authorityTracker.update s t).2.accepted = false) :
    (g.updateAuthority s t).1 = g := by
  have hk : (g.authorityTracker.update s t).1 = g.authorityTracker :=
    ControlAuthorityTracker.rejected_keeps ha
  simp [updateAuthority, ha, hk]

theorem updateAuthority_same (hc : (g.authorityTracker.update s t).2.generationChanged = false) :
    (g.updateAuthority s t).1 =
      { g with authorityTracker := (g.authorityTracker.update s t).1 } := by
  by_cases ha : (g.authorityTracker.update s t).2.accepted = true
  · simp [updateAuthority, ha, hc]
  · simp [updateAuthority, ha]

def startOf (s : ControlAuthoritySnapshot) (t : ℤ) : Channel → VelocitySource
  | .autonomy => if s.authority = .autonomy then startSourceQuarantine t else {}
  | .keyboard => {}

theorem updateAuthority_changed (ha : (g.authorityTracker.update s t).2.accepted = true)
    (hc : (g.authorityTracker.update s t).2.generationChanged = true) :
    (g.updateAuthority s t).1 =
      { g with
          authorityTracker := (g.authorityTracker.update s t).1
          authorityTransitionAt := some t
          autonomy := startOf s t .autonomy
          keyboard := startOf s t .keyboard } := by
  simp [updateAuthority, ha, hc, startOf]

theorem updateAuthority_tracker :
    (g.updateAuthority s t).1.authorityTracker = (g.authorityTracker.update s t).1 := by
  unfold updateAuthority
  dsimp only
  split_ifs <;> rfl

theorem updateAuthority_config : (g.updateAuthority s t).1.config = g.config := by
  unfold updateAuthority
  dsimp only
  split_ifs <;> rfl

theorem step_config (e : GateEvent) : (step g e).1.config = g.config := by
  cases e with
  | authority s t => exact updateAuthority_config
  | velocity channel v t => cases channel <;> rfl

theorem run_config (h : List GateEvent) : (run step g h).config = g.config :=
  run_preserves step (I := fun g' ↦ g'.config = g.config)
    (fun _ e hs ↦ (step_config e).trans hs) rfl h

theorem run_lease (h : List GateEvent) :
    (run step g h).authorityTracker.lease = g.authorityTracker.lease := by
  refine run_preserves step (I := fun g' ↦ g'.authorityTracker.lease = g.authorityTracker.lease)
    ?_ rfl h
  intro g' e hs
  cases e with
  | authority s t =>
    rw [step, updateAuthority_tracker, ControlAuthorityTracker.update_lease]
    exact hs
  | velocity channel v t => cases channel <;> exact hs

theorem held_of_latest (hl : Latest (AcceptsAuthority g) h pre (.authority s t) post) :
    (run step g h).authorityTracker.state = some s ∧
      (run step g h).authorityTracker.receivedAt = some t := by
  rw [hl.split, List.append_cons]
  refine hl.quiet.run_induction
    (I := fun _ (g' : VelocityAuthorityGate) ↦ g'.authorityTracker.state = some s ∧
    g'.authorityTracker.receivedAt = some t) ?_ ?_
  · obtain ⟨s', t', he, ha⟩ := hl.holds
    cases he
    rw [run_snoc, step, updateAuthority_tracker]
    exact ControlAuthorityTracker.accepted_held ha
  · intro mid d hd hheld
    cases d with
    | authority s' t' =>
      have ha : ((run step g (pre ++ [.authority s t] ++ mid)).authorityTracker.update
          s' t').2.accepted = false := by
        by_contra hne
        exact hd ⟨s', t', rfl, by simpa using hne⟩
      rwa [step, updateAuthority_rejected ha]
    | velocity channel v t' => cases channel <;> exact hheld

theorem unheld_of_quiet (hq : Quiet (AcceptsAuthority g) [] h)
    (hg : g.authorityTracker.state = none) : (run step g h).authorityTracker.state = none := by
  rw [← List.nil_append h]
  refine hq.run_induction (I := fun _ (g' : VelocityAuthorityGate) ↦
    g'.authorityTracker.state = none) hg ?_
  intro mid d hd hheld
  cases d with
  | authority s t =>
    have ha : ((run step g mid).authorityTracker.update s t).2.accepted = false := by
      by_contra hne
      exact hd ⟨s, t, rfl, by simpa using hne⟩
    rwa [List.nil_append, step, updateAuthority_rejected ha]
  | velocity channel v t => cases channel <;> exact hheld

structure Since (g : VelocityAuthorityGate) (s : ControlAuthoritySnapshot) (t : ℤ)
    (post : List GateEvent) (g' : VelocityAuthorityGate) : Prop where
  transition : g'.authorityTransitionAt = some t
  held : g'.authorityTracker.state = some s
  sources : ∀ channel : Channel, channel.source g' =
    feed g.config (channel.timeout g.config) (startOf s t channel) (samples channel post)

theorem samples_snoc (h : List GateEvent) (e : GateEvent) :
    samples channel (h ++ [e]) = samples channel h ++ (e.sampleOf channel).toList := by
  cases he : e.sampleOf channel <;> simp [samples, he]

variable {g' : VelocityAuthorityGate}

theorem since_authority {s' : ControlAuthoritySnapshot} {t' : ℤ}
    (hs : Since g s t post g')
    (hc : (g'.authorityTracker.update s' t').2.generationChanged = false) :
    Since g s t (post ++ [.authority s' t']) (g'.updateAuthority s' t').1 := by
  rw [updateAuthority_same hc]
  refine ⟨hs.transition, ?_, ?_⟩
  · exact (ControlAuthorityTracker.same_generation_held hc).1.trans hs.held
  · intro channel
    have hsource := hs.sources channel
    rw [samples_snoc, GateEvent.sampleOf, Option.toList_none, List.append_nil, ← hsource]
    cases channel <;> rfl

theorem step_source {c : Channel} {v : VelocityCommand} {t' : ℤ} :
    channel.source (step g' (.velocity c v t')).1 =
      if c = channel then
        (updateSource g'.config (channel.source g') v (channel.timeout g'.config) t').1
      else channel.source g' := by
  cases c <;> cases channel <;> rfl

theorem since_velocity {c : Channel} {v : VelocityCommand} {t' : ℤ}
    (hs : Since g s t post g') (hconfig : g'.config = g.config) :
    Since g s t (post ++ [.velocity c v t']) (step g' (.velocity c v t')).1 := by
  refine ⟨?_, ?_, ?_⟩
  · cases c <;> exact hs.transition
  · cases c <;> exact hs.held
  · intro channel
    rw [step_source, samples_snoc, GateEvent.sampleOf, hs.sources channel, hconfig]
    by_cases hc : c = channel
    · rw [if_pos hc, if_pos hc, Option.toList_some, feed_snoc]
    · rw [if_neg hc, if_neg hc, Option.toList_none, List.append_nil]

theorem since_of_latest (hl : Latest (ChangesGeneration g) h pre (.authority s t) post) :
    Since g s t post (run step g h) := by
  rw [hl.split, List.append_cons]
  refine hl.quiet.run_induction (I := Since g s t) ?_ ?_
  · obtain ⟨s', t', he, ha, hc⟩ := hl.holds
    cases he
    rw [run_snoc, step, updateAuthority_changed ha hc]
    refine ⟨rfl, (ControlAuthorityTracker.accepted_held ha).1, ?_⟩
    rintro (_ | _) <;> rfl
  · intro mid d hd hs
    cases d with
    | authority s' t' =>
      refine since_authority hs ?_
      by_contra hc
      have hc' := (Bool.not_eq_false _).mp hc
      exact hd ⟨s', t', rfl, ControlAuthorityTracker.accepted_of_changed hc', hc'⟩
    | velocity channel v t' => exact since_velocity hs (run_config _)

theorem since_exists (hg : g.authorityTransitionAt = none)
    (h' : (run step g h).authorityTransitionAt ≠ none) :
    ∃ pre s t post, Latest (ChangesGeneration g) h pre (.authority s t) post := by
  rcases quiet_or_latest (ChangesGeneration g) h with hq | ⟨pre, e, post, hl⟩
  · refine absurd ?_ h'
    rw [← List.nil_append h]
    refine hq.run_induction
      (I := fun _ (g' : VelocityAuthorityGate) ↦ g'.authorityTransitionAt = none) hg ?_
    intro mid d hd hnone
    cases d with
    | authority s t =>
      rw [step, updateAuthority_same]
      · exact hnone
      · by_contra hc
        have hc' := (Bool.not_eq_false _).mp hc
        exact hd ⟨s, t, rfl, ControlAuthorityTracker.accepted_of_changed hc', hc'⟩
    | velocity channel v t => cases channel <;> exact hnone
  · obtain ⟨s, t, rfl, ha⟩ := hl.holds
    exact ⟨pre, s, t, post, hl⟩

theorem held_exists (hg : g.authorityTracker.state = none)
    (h' : (run step g h).authorityTracker.state ≠ none) :
    ∃ pre s t post, Latest (AcceptsAuthority g) h pre (.authority s t) post := by
  rcases quiet_or_latest (AcceptsAuthority g) h with hq | ⟨pre, e, post, hl⟩
  · exact absurd (unheld_of_quiet hq hg) h'
  · obtain ⟨s, t, rfl, ha⟩ := hl.holds
    exact ⟨pre, s, t, post, hl⟩

theorem samples_eq_append {l₁ l₂ : List TimedVelocity} (h' : samples channel h = l₁ ++ l₂) :
    ∃ h₁ h₂, h = h₁ ++ h₂ ∧ samples channel h₁ = l₁ ∧ samples channel h₂ = l₂ :=
  List.filterMap_eq_append_iff.mp h'

theorem samples_eq_cons {x : TimedVelocity} {l : List TimedVelocity}
    (h' : samples channel h = x :: l) :
    ∃ h₁ h₂, h = h₁ ++ .velocity channel x.velocity x.receivedAt :: h₂ ∧
      samples channel h₁ = [] ∧ samples channel h₂ = l := by
  obtain ⟨h₁, e, h₂, rfl, hnone, he, hrest⟩ := List.filterMap_eq_cons_iff.mp h'
  cases e with
  | authority s t => cases he
  | velocity c v t =>
    rw [GateEvent.sampleOf] at he
    split_ifs at he with hc
    obtain rfl := Option.some.inj he
    exact ⟨h₁, h₂, by rw [hc], List.filterMap_eq_nil_iff.mpr hnone, hrest⟩

theorem samples_split {x : TimedVelocity} {l₁ l₂ : List TimedVelocity}
    (h' : samples channel h = l₁ ++ x :: l₂) :
    ∃ h₁ h₂, h = h₁ ++ .velocity channel x.velocity x.receivedAt :: h₂ ∧
      samples channel h₁ = l₁ ∧ samples channel h₂ = l₂ := by
  obtain ⟨h₁, h₂, rfl, hl₁, hl₂⟩ := samples_eq_append h'
  obtain ⟨h₃, h₄, rfl, hnone, hl⟩ := samples_eq_cons hl₂
  refine ⟨h₁ ++ h₃, h₄, by simp, ?_, hl⟩
  rw [samples, List.filterMap_append]
  exact (congrArg₂ (· ++ ·) hl₁ hnone).trans (List.append_nil _)

theorem samples_times (h : List GateEvent) :
    (samples channel h).map TimedVelocity.receivedAt <+ h.map GateEvent.receivedAt := by
  induction h with
  | nil => simp [samples]
  | cons e h ih =>
    rw [samples, List.filterMap_cons, List.map_cons]
    cases e with
    | authority s t => exact ih.cons _
    | velocity c v t =>
      rw [GateEvent.sampleOf]
      by_cases hc : c = channel
      · rw [if_pos hc]
        exact ih.cons_cons t
      · rw [if_neg hc]
        exact ih.cons _

theorem times_after (hord : (h.map GateEvent.receivedAt).Pairwise (· ≤ ·))
    (hs : h = pre ++ .authority s t :: post) :
    (∀ y ∈ samples channel post, t ≤ y.receivedAt) ∧
      ((samples channel post).map TimedVelocity.receivedAt).Pairwise (· ≤ ·) := by
  rw [hs, List.map_append, List.map_cons, List.pairwise_append, List.pairwise_cons] at hord
  obtain ⟨hafter, hpost⟩ := hord.2.1
  refine ⟨?_, hpost.sublist (samples_times post)⟩
  intro y hy
  exact hafter _ ((samples_times post).subset (List.mem_map_of_mem hy))

theorem unstored_step (hnone : g'.autonomy.sample = none)
    (he : e.sampleOf .autonomy = none) : (step g' e).1.autonomy.sample = none := by
  cases e with
  | authority s t =>
    by_cases hc : (g'.authorityTracker.update s t).2.generationChanged = true
    · rw [step, updateAuthority_changed (ControlAuthorityTracker.accepted_of_changed hc) hc]
      dsimp only [startOf]
      split_ifs <;> rfl
    · rw [step, updateAuthority_same (Bool.eq_false_iff.mpr hc)]
      exact hnone
  | velocity channel v t =>
    cases channel with
    | autonomy => cases he
    | keyboard => exact hnone

theorem unstored_silent (hnone : g'.autonomy.sample = none)
    {tail : List GateEvent} (htail : samples .autonomy tail = []) (later : ℤ) :
    ((run step g' tail).evaluate later).decision ≠ .autonomyAuthorized := by
  have hempty : (run step g' tail).autonomy.sample = none := by
    induction tail using List.reverseRecOn with
    | nil => exact hnone
    | append_singleton tail e ih =>
      rw [samples_snoc, List.append_eq_nil_iff, Option.toList_eq_nil_iff] at htail
      rw [run_snoc]
      exact unstored_step (ih htail.1) htail.2
  have hv := evaluate_verdict (run step g' tail) later
  generalize (run step g' tail).evaluate later = out at hv
  cases hv with
  | silent decision hdecision =>
    rintro rfl
    exact hdecision (by decide)
  | motion channel s transitionAt sample held alive owned transition released stored =>
    cases channel with
    | autonomy => cases hempty.symm.trans stored
    | keyboard => simp [Channel.authorized]

theorem owns_of_motion (hstate : g.authorityTracker.state = none)
    (hlease : g.authorityTracker.lease = g.config.authorityLease)
    (held : (run step g h).authorityTracker.state = some s)
    (alive : (run step g h).authorityTracker.fresh t = true)
    (owned : channel.OwnedBy g.config s) : Owns g h t channel := by
  obtain ⟨pre, s', t', post, hl⟩ := held_exists hstate (held ▸ Option.some_ne_none s)
  obtain ⟨hs', ht'⟩ := held_of_latest hl
  obtain rfl := Option.some.inj (held.symm.trans hs')
  obtain ⟨_, previous, -, hprevious, hfresh⟩ := ControlAuthorityTracker.fresh_iff_exists.mp alive
  obtain rfl := Option.some.inj (ht'.symm.trans hprevious)
  rw [run_lease, hlease] at hfresh
  exact ⟨pre, s, t', post, hl, owned, hfresh⟩

theorem newest_of_stored {l : List TimedVelocity} {x : TimedVelocity} {now : ℤ}
    (hl : samples channel post = l ++ [x]) (hx : g.config.admits x.velocity = true)
    (hafter : t ≤ x.receivedAt)
    (hfresh : Fresh x.receivedAt (channel.timeout g.config) now) :
    ∃ mid rest, Newest g.config channel t post mid x rest now ∧ samples channel mid = l := by
  obtain ⟨mid, rest, hsplit, hmid, hrest⟩ := samples_split hl
  exact ⟨mid, rest, ⟨hsplit, hrest, hx, hafter, hfresh⟩, hmid⟩

theorem autonomy_fed (hl : Latest (ChangesGeneration g) h pre (.authority s t) post)
    (hs : s.authority = .autonomy) : (run step g h).autonomy =
      feed g.config g.config.autonomyTimeout (startSourceQuarantine t)
        (samples .autonomy post) := by
  have hsource := (since_of_latest hl).sources .autonomy
  rwa [startOf, if_pos hs] at hsource

theorem released_of_feed {before after : List GateEvent} {x : TimedVelocity}
    (hl : Latest (ChangesGeneration g) h pre (.authority s t)
      (before ++ .velocity .autonomy x.velocity x.receivedAt :: after))
    (hs : s.authority = .autonomy)
    (hq : Quarantined t (samples .autonomy before) (feed g.config g.config.autonomyTimeout
      (startSourceQuarantine t) (samples .autonomy before)))
    (hr : Release g.config g.config.autonomyTimeout t (samples .autonomy before) x)
    (hend : feed g.config g.config.autonomyTimeout (startSourceQuarantine t)
      (samples .autonomy before ++ [x]) = {}) :
    Released g (pre ++ [.authority s t]) t before x := by
  have hbefore := autonomy_fed hl.of_append hs
  rw [List.append_cons before] at hl
  have hafter := autonomy_fed hl.of_append hs
  rw [samples_snoc, GateEvent.sampleOf, if_pos rfl, Option.toList_some, hend] at hafter
  rw [List.append_cons] at hbefore hafter
  rw [← List.append_assoc] at hafter
  refine ⟨hr.admitted, ?_, ?_, hr.quiet, ?_⟩
  · rw [hbefore]
    exact hq.active
  · rw [hafter]
  · intro tail htail later
    rw [List.append_cons, run_append]
    exact unstored_silent (by rw [hafter]) htail later

end Runs

theorem motion_safety (config : VelocityAuthorityGateConfig) (g : VelocityAuthorityGate)
    (hg : create config = .ok g) (h : List GateEvent)
    (hord : (h.map GateEvent.receivedAt).Pairwise (· ≤ ·)) (now : ℤ)
    (hout : ((run step g h).evaluate now).authorized = true ∨
      ((run step g h).evaluate now).velocity.isZero = false) :
    MotionJustified g h now ((run step g h).evaluate now).velocity := by
  obtain ⟨k, hk, rfl⟩ := create_spec hg
  obtain ⟨hlease, hstate, -⟩ := ControlAuthorityTracker.create_spec hk
  have hv := evaluate_verdict (run step { config := config, authorityTracker := k } h) now
  generalize (run step { config := config, authorityTracker := k } h).evaluate now = out at hv hout
  cases hv with
  | silent decision hdecision =>
    rcases hout with hout | hout
    · cases hout
    · simp [VelocityCommand.isZero] at hout
  | motion channel s t x held alive owned transition released stored after fresh =>
    rw [run_config] at owned fresh
    obtain ⟨pre, s', t', post, hl⟩ := since_exists rfl (transition ▸ Option.some_ne_none t)
    have hs := since_of_latest hl
    obtain rfl := Option.some.inj (held.symm.trans hs.held)
    obtain rfl := Option.some.inj (transition.symm.trans hs.transition)
    refine ⟨channel, owns_of_motion hstate hlease held alive owned, pre, s, t, post, hl, ?_⟩
    cases channel with
    | keyboard =>
      rw [hs.sources .keyboard] at stored
      obtain ⟨l, hlast, hx⟩ := feed_open_sample rfl rfl stored
      obtain ⟨mid, rest, hnewest, -⟩ := newest_of_stored hlast hx after fresh
      exact ⟨mid, x.receivedAt, rest, hnewest, fun hc ↦ by cases hc⟩
    | autonomy =>
      have hfed := autonomy_fed hl owned
      rw [Channel.source] at stored released
      obtain ⟨hfirst, hsorted⟩ := times_after hord hl.split
      rcases feed_quarantine hfirst hsorted with hq | ⟨before, y, rest, hsplit, hq, hr, hend, hrest⟩
      · rw [hfed, hq.active] at released
        cases released
      · rw [hfed, hrest] at stored
        obtain ⟨l, rfl, hx⟩ := feed_open_sample rfl rfl stored
        have hlast : samples .autonomy post = (before ++ y :: l) ++ [x] := by simp [hsplit]
        obtain ⟨mid, tail, hnewest, hmid⟩ := newest_of_stored hlast hx after fresh
        obtain ⟨mid₁, mid₂, rfl, hmid₁, -⟩ := samples_split hmid
        refine ⟨_, x.receivedAt, tail, hnewest, fun _ ↦ ⟨mid₁, y, mid₂, rfl, ?_⟩⟩
        rw [← hmid₁] at hq hr hend
        rw [hnewest.split, List.append_assoc, List.cons_append] at hl
        exact released_of_feed hl owned hq hr hend

/-- Autonomy takes over, acknowledges with a zero sample and then drives. -/
def resumedRun : List GateEvent :=
  [.authority
      { authority := .autonomy, transitionSequence := 1, autonomyQuiescenceAcknowledged := false,
        activeSource := "autonomy" } 0,
    .velocity .autonomy {} 100000000,
    .velocity .autonomy { linearX := .ofRat (1 / 8) } 160000000]

def defaultGate : VelocityAuthorityGate :=
  { config := {}, authorityTracker := { lease := 750, lease_pos := by decide } }

theorem motion_safety_resumed : MotionJustified defaultGate resumedRun 170000000
    ((run step defaultGate resumedRun).evaluate 170000000).velocity :=
  motion_safety {} defaultGate (by decide +kernel) resumedRun (by decide) 170000000
    (.inl (by decide +kernel))

end EmbodiedAgent.VelocityAuthorityGate
