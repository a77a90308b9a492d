import EmbodiedAgent.Slam.StageReadiness

namespace EmbodiedAgent.Slam.StageReadiness

open Library Library.History

variable {s start : StageReadiness} {event : ReadinessEvent} {generation : ℕ}
  {h before after : List ReadinessEvent} {taking : ReadinessEvent}

inductive Continues (s : StageReadiness) (event : ReadinessEvent) (generation : ℕ) :
    StageReadiness × List ReadinessOutput → Prop
  | takes (s' : StageReadiness) (hgeneration : generation = s'.readyGeneration) :
      Continues s event generation (s', [.tookGeneration])
  | goes (s' : StageReadiness) (out : List ReadinessOutput)
      (hbefore : s.generation = some generation) (hout : .tookGeneration ∉ out)
      (hready : s'.readyGeneration = s.readyGeneration ∧ s'.latestReady = s.latestReady)
      (hstage : .startStage ∈ s.steps ∨ s'.started = s.started ∧ s'.steps ⊆ s.steps) :
      Continues s event generation (s', out)
  | counts (message : SystemReadiness) (hevent : event = .onReadiness message)
      (hbefore : s.generation = some generation) (hpublished : message.stage ≤ s.started)
      (hexpects : s.Expects message) :
      Continues s event generation
        ({ s with readyGeneration := s.readyGeneration + 1, latestReady := message.ready },
          [.received message])

theorem continues_of_same (hbefore : s.generation = some generation) :
    Continues s event generation (s, []) :=
  .goes s [] hbefore List.not_mem_nil ⟨rfl, rfl⟩ (.inr ⟨rfl, List.Subset.refl _⟩)

theorem continues_of_rest {stage : StartStep} {rest : List StartStep}
    (hsteps : s.steps = stage :: rest) (hbefore : s.generation = some generation) :
    Continues s event generation ({ s with steps := rest }, []) :=
  .goes _ [] hbefore List.not_mem_nil ⟨rfl, rfl⟩
    (.inr ⟨rfl, hsteps ▸ List.subset_cons_self stage rest⟩)

theorem begin_continues {steps : List StartStep}
    (hafter : (s.begin steps).generation = some generation) :
    Continues s event generation (s.begin steps, []) := by
  rw [begin] at hafter ⊢
  split_ifs at hafter ⊢
  exact continues_of_same hafter

theorem onReadiness_continues {message : SystemReadiness}
    (hafter : (s.onReadiness message).1.generation = some generation) :
    Continues s (.onReadiness message) generation (s.onReadiness message) := by
  rw [onReadiness] at hafter ⊢
  split_ifs at hafter ⊢ with hpublished hexpects
  · exact continues_of_same hafter
  · exact .counts message rfl hafter (Nat.le_of_not_lt hpublished) hexpects
  · exact .goes s _ hafter (by simp) ⟨rfl, rfl⟩ (.inr ⟨rfl, List.Subset.refl _⟩)

theorem waitForNewReady_continues {now : Double} {rest : List StartStep} {waited : ℕ}
    (hafter : (s.waitForNewReady waited now rest).1.generation = some generation) :
    Continues s event generation (s.waitForNewReady waited now rest) := by
  unfold waitForNewReady at hafter ⊢
  cases hdeadline : s.deadline with
  | none =>
    simp only [hdeadline] at hafter ⊢
    split_ifs at hafter ⊢
    exact .goes _ [] hafter List.not_mem_nil ⟨rfl, rfl⟩ (.inr ⟨rfl, List.Subset.refl _⟩)
  | some deadline =>
    simp only [hdeadline] at hafter ⊢
    split_ifs at hafter ⊢
    · exact continues_of_same hafter
    · cases hafter

theorem proceed_continues {now : Double} {raises : Bool}
    (hafter : (s.proceed now raises).1.generation = some generation) :
    Continues s event generation (s.proceed now raises) := by
  unfold proceed at hafter ⊢
  cases hsteps : s.steps with
  | nil =>
    simp only [hsteps] at hafter ⊢
    exact continues_of_same hafter
  | cons first rest =>
    simp only [hsteps] at hafter ⊢
    cases first with
    | armReadinessProfile profile =>
      obtain rfl := Option.some.inj hafter
      exact .takes _ rfl
    | readinessGeneration =>
      obtain rfl := Option.some.inj hafter
      exact .takes _ rfl
    | waitForNewReady =>
      dsimp only at hafter ⊢
      cases hwaited : s.generation with
      | none =>
        simp only [hwaited] at hafter
        cases hafter
      | some waited =>
        simp only [hwaited] at hafter ⊢
        exact waitForNewReady_continues hafter
    | startStage =>
      cases raises
      · exact .goes _ [] hafter List.not_mem_nil ⟨rfl, rfl⟩
          (.inl (hsteps ▸ List.mem_cons_self ..))
      · cases hafter
    | _ =>
      cases raises
      · exact continues_of_rest hsteps hafter
      · cases hafter

theorem step_continues (hafter : (step s event).1.generation = some generation) :
    Continues s event generation (step s event) := by
  cases event with
  | startMapping | startNavigation => exact begin_continues hafter
  | proceed now raises => exact proceed_continues hafter
  | onReadiness message => exact onReadiness_continues hafter

theorem newReady_spec (hmem : .newReady ∈ (step s event).2) (hdry : s.dryRun = false) :
    ∃ generation, s.generation = some generation ∧ generation < s.readyGeneration ∧
      s.latestReady = true := by
  cases event with
  | startMapping | startNavigation => exact absurd hmem List.not_mem_nil
  | onReadiness message =>
    rw [step, onReadiness] at hmem
    split_ifs at hmem <;> simp at hmem
  | proceed now raises =>
    rw [step] at hmem
    unfold proceed at hmem
    cases hsteps : s.steps with
    | nil => simp [hsteps] at hmem
    | cons first rest =>
      simp only [hsteps] at hmem
      cases first with
      | waitForNewReady =>
        dsimp only at hmem
        cases hwaited : s.generation with
        | none => simp [hwaited] at hmem
        | some generation =>
          simp only [hwaited, waitForNewReady, hdry, Bool.false_eq_true, if_false] at hmem
          cases hdeadline : s.deadline with
          | none => simp [hdeadline] at hmem
          | some deadline =>
            simp only [hdeadline] at hmem
            split_ifs at hmem with hbefore hready
            · exact ⟨generation, rfl, hready⟩
            · exact absurd hmem List.not_mem_nil
            · simp [abort] at hmem
      | armReadinessProfile | readinessGeneration => simp at hmem
      | _ => cases raises <;> simp [abort] at hmem

def awaitedStage (s : StageReadiness) : ℕ :=
  if .startStage ∈ s.steps then s.started + 1 else s.started

def Regular (s : StageReadiness) (event : ReadinessEvent) : Prop :=
  s.dryRun = false ∧
    match event with
    | .onReadiness message => s.generation.isSome = true → message.stage ≤ s.started →
      s.Expects message → message.ready = true → message.stage = s.awaitedStage
    | _ => True

instance (s : StageReadiness) : DecidablePred s.Regular
  | .onReadiness message => inferInstanceAs (Decidable (_ ∧ (s.generation.isSome = true →
    message.stage ≤ s.started → s.Expects message → message.ready = true →
      message.stage = s.awaitedStage)))
  | .startMapping | .startNavigation | .proceed _ _ =>
    inferInstanceAs (Decidable (s.dryRun = false ∧ True))

def Takes (start : StageReadiness) (before : List ReadinessEvent) (event : ReadinessEvent) : Prop :=
  .tookGeneration ∈ (step (run step start before) event).2

def receivedSince (start : StageReadiness) (before : List ReadinessEvent) (taking : ReadinessEvent)
    (after : List ReadinessEvent) : List ReadinessOutput :=
  collect step (fun s event ↦ (step s event).2) (run step start (before ++ [taking])) after

def Heard (start : StageReadiness) (before : List ReadinessEvent) (taking : ReadinessEvent)
    (after : List ReadinessEvent) (stage : ℕ) : Prop :=
  ∃ message, .received message ∈ receivedSince start before taking after ∧
    message.ready = true ∧ message.stage = stage

theorem Heard.snoc {stage : ℕ} (hh : Heard start before taking after stage)
    (event : ReadinessEvent) : Heard start before taking (after ++ [event]) stage := by
  obtain ⟨message, hmem, hready⟩ := hh
  refine ⟨message, ?_, hready⟩
  rw [receivedSince, collect_snoc]
  exact List.mem_append_left _ hmem

structure Waits (start : StageReadiness) (h : List ReadinessEvent) (generation : ℕ)
    (before : List ReadinessEvent) (taking : ReadinessEvent) (after : List ReadinessEvent) :
    Prop where
  latest : Latest (Takes start) h before taking after
  taken : generation ≤ (run step start h).readyGeneration
  heard : generation < (run step start h).readyGeneration →
    (run step start h).latestReady = true → .startStage ∉ (run step start h).steps ∧
      Heard start before taking after (run step start h).started

theorem waits_snoc
    (hwaits : (run step start h).generation = some generation →
      ∃ before taking after, Waits start h generation before taking after)
    (hregular : (run step start h).Regular event)
    (hafter : (run step start (h ++ [event])).generation = some generation) :
    ∃ before taking after, Waits start (h ++ [event]) generation before taking after := by
  rw [run_snoc] at hafter
  have hcontinues := step_continues hafter
  generalize hnext : step (run step start h) event = next at hcontinues
  cases hcontinues with
  | takes s' hgeneration =>
    have htakes : Takes start h event := by
      rw [Takes, hnext]
      exact List.mem_singleton_self _
    refine ⟨h, event, [], .new htakes, ?_, fun hlt ↦ ?_⟩
    · rw [run_snoc, hnext, hgeneration]
    · rw [run_snoc, hnext, hgeneration] at hlt
      exact absurd hlt (Nat.lt_irrefl _)
  | goes s' out hbefore hout hready hstage =>
    obtain ⟨before, taking, after, hlatest, htaken, hheard⟩ := hwaits hbefore
    have hkept : ¬ Takes start h event := by
      rw [Takes, hnext]
      exact hout
    refine ⟨before, taking, after ++ [event], hlatest.keep hkept, ?_, fun hlt hlast ↦ ?_⟩
    · rw [run_snoc, hnext]
      exact htaken.trans hready.1.ge
    · rw [run_snoc, hnext] at hlt hlast ⊢
      obtain ⟨hstarted, hmessage⟩ := hheard (hready.1 ▸ hlt) (hready.2.symm.trans hlast)
      obtain ⟨hsame, hsteps⟩ := hstage.resolve_left hstarted
      exact ⟨fun hmem ↦ hstarted (hsteps hmem), hsame ▸ hmessage.snoc event⟩
  | counts message hevent hbefore hpublished hexpects =>
    obtain ⟨before, taking, after, hlatest, htaken, -⟩ := hwaits hbefore
    have hkept : ¬ Takes start h event := by
      rw [Takes, hnext]
      simp
    refine ⟨before, taking, after ++ [event], hlatest.keep hkept, ?_, fun _ hlast ↦ ?_⟩
    · rw [run_snoc, hnext]
      exact htaken.trans (Nat.le_succ _)
    · rw [run_snoc, hnext] at hlast ⊢
      subst hevent
      have hawaited : message.stage = (run step start h).awaitedStage :=
        hregular.2 (by rw [hbefore]; rfl) hpublished hexpects hlast
      rw [awaitedStage] at hawaited
      split_ifs at hawaited with hpending
      · exact absurd (hawaited ▸ hpublished) (Nat.not_succ_le_self _)
      · refine ⟨hpending, message, ?_, hlast, hawaited⟩
        have hsince : run step start (before ++ [taking] ++ after) = run step start h := by
          rw [hlatest.split, List.append_assoc, List.singleton_append]
        rw [receivedSince, collect_snoc, ← run_append, hsince, hnext]
        exact List.mem_append_right _ (List.mem_singleton_self _)

theorem run_waits (hstart : start.generation = none) (hregular : Along step Regular start h)
    (hgeneration : (run step start h).generation = some generation) :
    ∃ before taking after, Waits start h generation before taking after := by
  induction h using List.reverseRecOn with
  | nil => cases hstart.symm.trans hgeneration
  | append_singleton h event ih =>
    obtain ⟨hbefore, hevent⟩ := (along_snoc step).mp hregular
    exact waits_snoc (ih hbefore) hevent hgeneration

def NoStaleReadiness (start : StageReadiness) (h : List ReadinessEvent) : Prop :=
  ∀ pre event post, h = pre ++ event :: post → .newReady ∈ (step (run step start pre) event).2 →
    ∃ before taking after, Latest (Takes start) pre before taking after ∧
      Heard start before taking after (run step start pre).started

/-- In every run of regular steps. -/
theorem no_stale_readiness {dryRun persistentRuntimeEnabled authorityGateEnabled : Bool}
    {startupTimeoutS : Double}
    (hregular : Along step Regular
      (create dryRun persistentRuntimeEnabled authorityGateEnabled startupTimeoutS) h) :
    NoStaleReadiness
      (create dryRun persistentRuntimeEnabled authorityGateEnabled startupTimeoutS) h := by
  rintro pre event post rfl hmem
  obtain ⟨hbefore, hevent, -⟩ := (along_append step).mp hregular
  obtain ⟨generation, hgeneration, hlt, hready⟩ := newReady_spec hmem hevent.1
  obtain ⟨before, taking, after, hlatest, -, hheard⟩ := run_waits rfl hbefore hgeneration
  exact ⟨before, taking, after, hlatest, (hheard hlt hready).2⟩

def proceeds (n : ℕ) : List ReadinessEvent := List.replicate n (.proceed 0 false)

/-- The mapping stage's last message is late, and kept out by its profile. -/
def replaced : List ReadinessEvent :=
  .startMapping :: proceeds 6 ++
    [.onReadiness ⟨1, "persistent_mapping_stage", true⟩] ++ proceeds 4 ++
    .startNavigation :: proceeds 6 ++
    [.onReadiness ⟨1, "persistent_mapping_stage", true⟩] ++ proceeds 4 ++
    [.onReadiness ⟨2, "persistent_navigation_stage", true⟩] ++ proceeds 4

/-- The same without profiles; the navigation stage sends nothing. -/
def overtaken : List ReadinessEvent :=
  .startMapping :: proceeds 3 ++ [.onReadiness ⟨1, "slam_mapping", true⟩] ++ proceeds 3 ++
    .startNavigation :: proceeds 5 ++ [.onReadiness ⟨1, "slam_mapping", true⟩] ++ proceeds 4

theorem replaced_fresh : NoStaleReadiness (create false true false (.ofRat 30)) replaced :=
  no_stale_readiness (by decide +kernel)

theorem receivedSince_subset :
    receivedSince start before taking after ⊆
      collect step (fun s event ↦ (step s event).2) start (before ++ taking :: after) := by
  have hsplit : before ++ taking :: after = (before ++ [taking]) ++ after :=
    List.append_cons before taking after
  rw [receivedSince, hsplit, collect_append]
  exact List.subset_append_right _ _

theorem overtaken_stale :
    ¬ NoStaleReadiness (create false false false (.ofRat 30)) (overtaken ++ proceeds 1) := by
  intro h
  obtain ⟨before, taking, after, hlatest, message, hmem, -, hstage⟩ :=
    h overtaken (.proceed 0 false) [] rfl (by decide +kernel)
  have hreceived := receivedSince_subset hmem
  rw [← hlatest.split] at hreceived
  have houtputs : collect step (fun s event ↦ (step s event).2)
      (create false false false (.ofRat 30)) overtaken =
      [.tookGeneration, .received ⟨1, "slam_mapping", true⟩, .newReady, .tookGeneration,
        .received ⟨1, "slam_mapping", true⟩] := by decide +kernel
  have hstarted : (run step (create false false false (.ofRat 30)) overtaken).started = 2 := by
    decide +kernel
  rw [houtputs] at hreceived
  rw [hstarted] at hstage
  obtain rfl : message = ⟨1, "slam_mapping", true⟩ := by simpa using hreceived
  cases hstage

end EmbodiedAgent.Slam.StageReadiness
