import EmbodiedAgent.Simulation.FrontClearance

namespace EmbodiedAgent.Simulation

open Library Library.History

/-- The controller with the forward velocity that its last step has put out. -/
structure PublishedSpeed where
  controller : SimulationController
  last : Option Double := none

namespace PublishedSpeed

open SimulationController

def perform (p : PublishedSpeed) (op : Operation) : PublishedSpeed × Option ControllerOutput :=
  match (p.controller.perform op).2 with
  | none => ({ p with controller := (p.controller.perform op).1 }, none)
  | some o => (⟨(p.controller.perform op).1, some o.velocity.linearX⟩, some o)

variable (p : PublishedSpeed)

def Ramps : Operation → Prop
  | .step nowS => ∀ last ∈ p.last,
    ¬ last.add (p.controller.config.linearAcceleration.mul (p.controller.dt nowS)) <
      (p.controller.step nowS).2.velocity.linearX
  | _ => True

def TakesOver (s : SimulationController) (nowS : Double) : Prop :=
  s.jumps nowS false = true ∨ Blocked s nowS ∧ HeadsForward s nowS

def Breaks (nowS last : Double) : Prop :=
  TakesOver p.controller nowS ∨ p.controller.currentCommand.linearX ≠ last

def Launches (nowS : Double) : Prop :=
  p.controller.forceStop = true ∧ HeadsForward p.controller nowS ∧ ¬ Blocked p.controller nowS

def Eased : Operation → Prop
  | .step nowS => ∀ last ∈ p.last,
    (p.Breaks nowS last → ¬ last < 0) ∧ ¬ p.Launches nowS
  | _ => True

section Approach

variable {current target delta last velocity : Double}

theorem approach_rises (hdelta : ¬ delta < 0) :
    ¬ current.add delta < approach current target delta := by
  intro hrise
  have hnan : current.add delta ≠ .nan := fun heq ↦ by
    rw [heq] at hrise
    cases hvelocity : approach current target delta <;> rw [hvelocity] at hrise <;> cases hrise
  have hup := Double.le_add hdelta hnan
  unfold approach at hrise
  split_ifs at hrise with hlt
  · rw [Double.min] at hrise
    split_ifs at hrise with hover
    · exact Double.lt_irrefl _ (Double.lt_trans hrise hover)
    · exact Double.lt_irrefl _ hrise
  · rw [Double.max] at hrise
    split_ifs at hrise with hover
    · exact hlt (Double.lt_of_le_of_lt hup hrise)
    · have hdown := Double.sub_le hdelta (Double.ne_nan_of_lt hrise)
      exact Double.lt_irrefl _ (Double.lt_of_le_of_lt hup (Double.lt_of_lt_of_le hrise hdown))

theorem pos_of_over (hdelta : ¬ delta < 0) (hover : delta < velocity) : velocity > 0 := by
  by_contra hnot
  have hdelta' : delta ≠ .nan := fun heq ↦ by
    rw [heq] at hover
    cases velocity <;> cases hover
  have hle : velocity ≤ 0 := (Double.le_iff_not_lt (Double.ne_nan_of_lt hover) (by decide)).mpr hnot
  exact hdelta (Double.lt_of_lt_of_le hover hle)

theorem rises_over (hlast : ¬ last < 0) (hrise : last.add delta < velocity) : delta < velocity := by
  have hnan : delta.add last ≠ .nan := fun heq ↦ by
    rw [Double.add_comm, heq] at hrise
    cases velocity <;> cases hrise
  have hle := Double.le_add hlast hnan
  rw [Double.add_comm] at hrise
  exact Double.lt_of_le_of_lt hle hrise

end Approach

section Step

variable {p : PublishedSpeed} {s : SimulationController} {nowS last : Double}

theorem step_velocity (s : SimulationController) (nowS : Double) : ∃ target : VelocityCommand,
    (target.linearX > 0 → HeadsForward s nowS ∧ ¬ Blocked s nowS) ∧
      (TakesOver s nowS ∧ (s.step nowS).2.velocity = s.limitTarget target ∨ ¬ TakesOver s nowS ∧
          (s.step nowS).2.velocity = s.rampTarget (s.limitTarget target) (s.dt nowS)) := by
  have hforward := chooseTarget_forward s nowS (s.dt nowS)
  generalize hchosen : s.chooseTarget nowS (s.dt nowS) = chosen at hforward
  obtain ⟨s', requested, reason⟩ := chosen
  by_cases htaken : Blocked s nowS ∧ HeadsForward s nowS
  · obtain ⟨hzero, hsafety⟩ := overrideTarget_forward htaken.1 (hforward.mpr htaken.2) reason
    generalize hallowed : s.overrideTarget nowS requested reason = allowed at hzero hsafety
    obtain ⟨allowed, safetyStopped, reason'⟩ := allowed
    have hstopped : safetyStopped = true := hsafety
    have hjumps : s.jumps nowS safetyStopped = true := by
      rw [hstopped]
      exact Bool.or_true _
    refine ⟨allowed, fun hpos ↦ ?_, .inl ⟨.inr htaken, ?_⟩⟩
    · rw [hzero] at hpos
      exact absurd hpos (Double.lt_irrefl 0)
    · simp [step, hchosen, hallowed, hjumps]
  · have hallowed : s.overrideTarget nowS requested reason = (requested, false, reason) := by
      by_cases hheads : HeadsForward s nowS
      · have hfree : ¬ Blocked s nowS := fun hblocked ↦ htaken ⟨hblocked, hheads⟩
        rw [Blocked, not_or, Bool.not_eq_true] at hfree
        simp [overrideTarget, hfree.1, hfree.2]
      · exact overrideTarget_still (fun h ↦ hheads (hforward.mp h)) reason
    refine ⟨requested, fun hpos ↦ ?_, ?_⟩
    · exact ⟨hforward.mp hpos, fun hblocked ↦ htaken ⟨hblocked, hforward.mp hpos⟩⟩
    · cases hjumps : s.jumps nowS false with
      | true =>
        refine .inl ⟨.inl hjumps, ?_⟩
        simp [step, hchosen, hallowed, hjumps]
      | false =>
        refine .inr ⟨fun htakes ↦ htakes.elim (fun h ↦ ?_) htaken, ?_⟩
        · cases hjumps.symm.trans h
        · simp [step, hchosen, hallowed, hjumps]

theorem jumps_launches (hjumps : s.jumps nowS false = true) (hheads : HeadsForward s nowS)
    (hfree : ¬ Blocked s nowS) : s.forceStop = true := by
  rw [Blocked, not_or, Bool.not_eq_true] at hfree
  simpa [jumps, hheads.1, hfree.1] using hjumps

def GoesOn (p : PublishedSpeed) : Prop :=
  ∀ last ∈ p.last, p.controller.currentCommand.linearX = last ∨
    p.controller.currentCommand.linearX = 0

theorem ramps_of_eased (hvalid : Valid p.controller.config) (hgoes : p.GoesOn) {op : Operation}
    (heased : p.Eased op) : p.Ramps op := by
  cases op with
  | step nowS =>
    intro last hlast
    obtain ⟨hbreaks, hlaunches⟩ := heased last hlast
    have hdelta := delta_not_neg hvalid nowS
    obtain ⟨target, htarget, ⟨htakes, hvelocity⟩ | ⟨htakes, hvelocity⟩⟩ :=
      step_velocity p.controller nowS
    · rw [hvelocity]
      intro hrise
      have hstill : ¬ target.linearX > 0 := fun hpos ↦ by
        obtain ⟨hheads, hfree⟩ := htarget hpos
        exact hlaunches ⟨htakes.elim (fun hjumps ↦ jumps_launches hjumps hheads hfree)
          fun hblocked ↦ absurd hblocked.1 hfree, hheads, hfree⟩
      have hover := rises_over (hbreaks (.inl htakes)) hrise
      exact Double.clamp_not_pos hstill (valid_spec hvalid).1 (pos_of_over hdelta hover)
    · have hramp := @approach_rises p.controller.currentCommand.linearX
        (p.controller.limitTarget target).linearX _ hdelta
      rw [hvelocity, rampTarget]
      dsimp only
      by_cases hsame : p.controller.currentCommand.linearX = last
      · rwa [hsame] at hramp ⊢
      · rw [(hgoes last hlast).resolve_left hsame] at hramp ⊢
        rw [Double.zero_add] at hramp
        exact fun hrise ↦ hramp (rises_over (hbreaks (.inr hsame)) hrise)
  | _ => trivial

structure Keeps (config : ControllerConfig) (p : PublishedSpeed) : Prop where
  config : p.controller.config = config
  goesOn : p.GoesOn

theorem keeps_perform {config : ControllerConfig} (h : Keeps config p) (op : Operation) :
    Keeps config (p.perform op).1 := by
  cases op with
  | setMode mode =>
    simp only [perform, SimulationController.perform, setMode]
    cases parseMode mode <;> exact ⟨h.config, h.goesOn⟩
  | setManualCommand => exact ⟨h.config, h.goesOn⟩
  | stop => exact ⟨h.config, fun _ _ ↦ .inr rfl⟩
  | setEmergencyStop active =>
    cases active
    · exact ⟨h.config, h.goesOn⟩
    · exact ⟨h.config, fun _ _ ↦ .inr rfl⟩
  | updateScan fuel ranges angleMin angleIncrement rangeMin rangeMax nowS =>
    simp only [perform, SimulationController.perform, updateScan]
    split
    · exact h
    · exact ⟨h.config, h.goesOn⟩
  | step nowS =>
    obtain ⟨hconfig, -⟩ := chooseTarget_kept p.controller nowS (p.controller.dt nowS)
    refine ⟨hconfig.trans h.config, fun last hlast ↦ .inl ?_⟩
    exact Option.some.inj hlast

end Step

def start (config : ControllerConfig) : PublishedSpeed := { controller := { config := config } }

theorem speed_ramps (config : ControllerConfig) (hvalid : Valid config) (h : List Operation) :
    Along perform (fun p op ↦ p.Eased op → p.Ramps op) (start config) h := by
  refine (along_iff perform).mpr fun pre op post _ heased ↦ ?_
  have hkeeps : Keeps config (run perform (start config) pre) :=
    run_preserves perform (I := Keeps config) (fun p op hp ↦ keeps_perform hp op)
      ⟨rfl, fun last hlast ↦ by cases hlast⟩ pre
  exact ramps_of_eased (hkeeps.config.symm ▸ hvalid) hkeeps.goesOn heased

def reversing : List Operation :=
  [.setManualCommand (.ofRat (-0.2)) 0 (.ofRat 10) 0, .step 0, .step (.ofRat 0.2)]

/-- A mode that heads forward is taken up at its full speed. -/
def launching : List Operation := [echo 3 0, .step 0, .setMode "obstacle_avoidance"]

theorem speed_jumps : Valid factory ∧
    ¬ Along perform Ramps (start factory) (reversing ++ [.stop] ++ [.step (.ofRat 0.25)]) ∧
    ¬ Along perform Ramps (start factory) (launching ++ [.step (.ofRat 0.05)]) := by
  refine ⟨valid_factory, fun hramps ↦ ?_, fun hramps ↦ ?_⟩
  · exact ((along_snoc perform).mp hramps).2 _ rfl (by decide +kernel)
  · exact ((along_snoc perform).mp hramps).2 _ rfl (by decide +kernel)

theorem speed_ramps_cruising : Along perform (fun p op ↦ p.Eased op → p.Ramps op) (start factory)
    (launching ++ [.step (.ofRat 0.05), .stop, .step (.ofRat 0.1)]) :=
  speed_ramps factory valid_factory _

end PublishedSpeed

end EmbodiedAgent.Simulation
