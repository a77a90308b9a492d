import EmbodiedAgent.Library.History
import EmbodiedAgent.Simulation.Controller

namespace EmbodiedAgent.Simulation.SimulationController

open Library Library.History

variable {s : SimulationController} {nowS : Double} {config : ControllerConfig}

/-- The configuration is one that the node starts with. -/
def Valid (config : ControllerConfig) : Prop :=
  ∃ controlRateHz actionTimeoutS executorPlugin,
    (validateNodeConfiguration config controlRateHz actionTimeoutS executorPlugin).valid = true

/-- A forward velocity is only put out with a fresh scan and a free way ahead. -/
def Clear (s : SimulationController) (op : Operation) : Prop :=
  ∀ o, (perform s op).2 = some o → o.velocity.linearX > 0 →
    o.sensorStale = false ∧ s.config.emergencyDistance ≤ o.frontDistance

def Blocked (s : SimulationController) (nowS : Double) : Prop :=
  s.scanStale nowS = true ∨ s.frontDistance < s.config.emergencyDistance

instance (s : SimulationController) (nowS : Double) : Decidable (Blocked s nowS) :=
  inferInstanceAs (Decidable (_ ∨ _))

def HeadsForward (s : SimulationController) (nowS : Double) : Prop :=
  s.emergencyStop = false ∧
  match s.mode with
  | .manual => nowS ≤ s.manualUntilS ∧ s.manualCommand.linearX > 0
  | .obstacleAvoidance => s.scanStale nowS = false ∧
      ¬ s.frontDistance < s.config.obstacleDistance ∧ s.config.autonomousLinearSpeed > 0
  | .wallFollowing => s.scanStale nowS = false ∧
      ¬ s.frontDistance < s.config.obstacleDistance ∧
      (if s.rightDistance.isFinite then s.config.autonomousLinearSpeed
        else s.config.autonomousLinearSpeed.mul (.ofRat 0.6)) > 0

def RollsOn (s : SimulationController) (nowS : Double) : Prop :=
  s.currentCommand.linearX.sub (s.config.linearAcceleration.mul (s.dt nowS)) > 0

def Halts (s : SimulationController) : Operation → Prop
  | .step nowS => s.config.emergencyDistance ≠ .nan ∧
      (Blocked s nowS → s.jumps nowS false = true ∨ HeadsForward s nowS ∨ ¬ RollsOn s nowS)
  | _ => True

theorem valid_spec (h : Valid config) :
    ¬ config.maxLinearSpeed ≤ 0 ∧ ¬ config.linearAcceleration ≤ 0 := by
  obtain ⟨controlRateHz, actionTimeoutS, executorPlugin, h⟩ := h
  unfold validateNodeConfiguration at h
  split_ifs at h with h₁ h₂ h₃ hlimits
  exact ⟨fun hspeed ↦ hlimits (.inl hspeed),
    fun haccel ↦ hlimits (.inr (.inr (.inl haccel)))⟩

theorem chooseTarget_forward (s : SimulationController) (nowS dt : Double) :
    (s.chooseTarget nowS dt).2.1.linearX > 0 ↔ HeadsForward s nowS := by
  have hzero : ¬ ((0 : Double) > 0) := Double.lt_irrefl 0
  unfold chooseTarget HeadsForward
  cases hestop : s.emergencyStop with
  | true => simpa using hzero
  | false =>
    cases hmode : s.mode with
    | manual =>
      by_cases huntil : nowS ≤ s.manualUntilS
      · simp [huntil]
      · simpa [huntil] using hzero
    | obstacleAvoidance =>
      cases hstale : s.scanStale nowS with
      | true => simpa using hzero
      | false =>
        by_cases hfront : s.frontDistance < s.config.obstacleDistance
        · simpa [hfront] using hzero
        · simp [hfront]
    | wallFollowing =>
      cases hstale : s.scanStale nowS with
      | true => simpa using hzero
      | false =>
        by_cases hfront : s.frontDistance < s.config.obstacleDistance
        · simpa [hfront] using hzero
        · cases hright : s.rightDistance.isFinite <;> simp [hfront]

theorem overrideTarget_forward {target : VelocityCommand} (hblocked : Blocked s nowS)
    (htarget : target.linearX > 0) (reason : String) :
    (s.overrideTarget nowS target reason).1.linearX = 0 ∧
      (s.overrideTarget nowS target reason).2.1 = true := by
  unfold overrideTarget
  cases hstale : s.scanStale nowS with
  | true => simp [htarget]
  | false =>
    have hfront : s.frontDistance < s.config.emergencyDistance := by
      rcases hblocked with hseen | hfront
      · cases hstale.symm.trans hseen
      · exact hfront
    simp [htarget, hfront]

theorem overrideTarget_still {target : VelocityCommand} (htarget : ¬ target.linearX > 0)
    (reason : String) :
    s.overrideTarget nowS target reason = (target, false, reason) := by
  unfold overrideTarget
  rw [if_neg (fun h ↦ htarget h.2), if_neg (fun h ↦ htarget h.2.2)]

section Ramp

variable {current target delta : Double}

theorem approach_still (htarget : ¬ target > 0) (hroll : ¬ current.sub delta > 0) :
    ¬ approach current target delta > 0 := by
  unfold approach
  split_ifs with hlt
  · rw [Double.min]
    split_ifs with hover
    · exact htarget
    · intro hpos
      have hle : target ≤ 0 := by
        by_contra hnot
        exact htarget (Double.lt_of_not_le (Double.ne_nan_of_lt hlt) (by decide) hnot)
      exact hover (Double.lt_of_le_of_lt hle hpos)
  · rw [Double.max]
    split_ifs
    · exact htarget
    · exact hroll

theorem approach_rolls (htarget : ¬ target > 0) (hdelta : ¬ delta < 0)
    (hroll : current.sub delta > 0) : approach current target delta > 0 := by
  have hcurrent : current > 0 := by
    by_contra hnot
    exact Double.sub_not_pos hnot hdelta hroll
  unfold approach
  rw [if_neg fun hlt ↦ htarget (Double.lt_trans hcurrent hlt), Double.max,
    if_neg fun hlt ↦ htarget (Double.lt_trans hroll hlt)]
  exact hroll

theorem dt_pos (s : SimulationController) (nowS : Double) : ¬ s.dt nowS ≤ 0 := by
  have hlow : (0 : Double) < .ofRat 0.001 := by decide +kernel
  unfold dt
  split_ifs
  · rw [clamp]
    split_ifs with hbelow habove
    · decide +kernel
    · decide +kernel
    · exact fun hle ↦ hbelow (Double.lt_of_le_of_lt hle hlow)
  · decide +kernel

theorem delta_not_neg (hvalid : Valid s.config) (nowS : Double) :
    ¬ s.config.linearAcceleration.mul (s.dt nowS) < 0 :=
  Double.mul_not_neg (valid_spec hvalid).2 (dt_pos s nowS)

end Ramp

theorem step_blocked (hvalid : Valid s.config) (hblocked : Blocked s nowS) :
    (s.step nowS).2.velocity.linearX > 0 ↔
      s.jumps nowS false = false ∧ ¬ HeadsForward s nowS ∧ RollsOn s nowS := by
  obtain ⟨hspeed, -⟩ := valid_spec hvalid
  have hforward := chooseTarget_forward s nowS (s.dt nowS)
  have hlimit : ∀ target : VelocityCommand, ¬ target.linearX > 0 →
      ¬ (s.limitTarget target).linearX > 0 := fun target h ↦ Double.clamp_not_pos h hspeed
  generalize hchosen : s.chooseTarget nowS (s.dt nowS) = chosen at hforward
  obtain ⟨s', requested, reason⟩ := chosen
  by_cases hheads : HeadsForward s nowS
  · obtain ⟨hzero, hsafety⟩ := overrideTarget_forward hblocked (hforward.mpr hheads) reason
    generalize hallowed : s.overrideTarget nowS requested reason = allowed at hzero hsafety
    obtain ⟨allowed, safetyStopped, reason'⟩ := allowed
    have hjumps : s.jumps nowS safetyStopped = true := by
      have hstopped : safetyStopped = true := hsafety
      rw [hstopped]
      exact Bool.or_true _
    have hvelocity : (s.step nowS).2.velocity = s.limitTarget allowed := by
      simp [step, hchosen, hallowed, hjumps]
    rw [hvelocity]
    refine iff_of_false (hlimit allowed ?_) fun h ↦ h.2.1 hheads
    rw [hzero]
    exact Double.lt_irrefl 0
  · have hstill : ¬ requested.linearX > 0 := fun h ↦ hheads (hforward.mp h)
    have hallowed : s.overrideTarget nowS requested reason = (requested, false, reason) :=
      overrideTarget_still hstill reason
    cases hjumps : s.jumps nowS false with
    | true =>
      have hvelocity : (s.step nowS).2.velocity = s.limitTarget requested := by
        simp [step, hchosen, hallowed, hjumps]
      rw [hvelocity]
      exact iff_of_false (hlimit requested hstill) fun h ↦ by cases h.1
    | false =>
      have hvelocity : (s.step nowS).2.velocity =
          s.rampTarget (s.limitTarget requested) (s.dt nowS) := by
        simp [step, hchosen, hallowed, hjumps]
      rw [hvelocity]
      refine ⟨fun hpos ↦ ⟨rfl, hheads, ?_⟩, fun h ↦ ?_⟩
      · by_contra hroll
        exact approach_still (hlimit requested hstill) hroll hpos
      · exact approach_rolls (hlimit requested hstill) (delta_not_neg hvalid nowS) h.2.2

theorem front_free (hemergency : s.config.emergencyDistance ≠ .nan)
    (hfront : s.frontDistance ≠ .nan) :
    s.config.emergencyDistance ≤ s.frontDistance ↔
      ¬ s.frontDistance < s.config.emergencyDistance :=
  Double.le_iff_not_lt hemergency hfront

theorem clear_iff_halts (hvalid : Valid s.config) (hfront : s.frontDistance ≠ .nan)
    (hemergency : s.config.emergencyDistance ≠ .nan) (op : Operation) :
    Clear s op ↔ Halts s op := by
  cases op with
  | step nowS =>
    have hclear : Clear s (.step nowS) ↔
        ((s.step nowS).2.velocity.linearX > 0 → ¬ Blocked s nowS) := by
      have hoption : Clear s (.step nowS) ↔ ((s.step nowS).2.velocity.linearX > 0 →
          s.scanStale nowS = false ∧ s.config.emergencyDistance ≤ s.frontDistance) :=
        ⟨fun h ↦ h _ rfl, fun h o ho ↦ by cases ho; exact h⟩
      rw [hoption, front_free hemergency hfront, Blocked, not_or, Bool.not_eq_true]
    rw [hclear]
    by_cases hblocked : Blocked s nowS
    · rw [step_blocked hvalid hblocked]
      simp only [Halts, hblocked, hemergency, not_true_eq_false, ne_eq, not_false_eq_true,
        true_and, forall_const]
      cases s.jumps nowS false <;> simp [or_iff_not_imp_left]
    · exact iff_of_true (fun _ ↦ hblocked) ⟨hemergency, fun h ↦ absurd h hblocked⟩
  | _ => exact iff_of_true (fun o ho ↦ by cases ho) trivial

theorem scanRange_front {fuel index : ℕ} {angleMin angleIncrement rangeMin rangeMax range : Double}
    {sectors sectors' : Sectors} (hfront : sectors.front ≠ .nan)
    (h : scanRange fuel angleMin angleIncrement rangeMin rangeMax index range sectors =
      some sectors') : sectors'.front ≠ .nan := by
  unfold scanRange at h
  split_ifs at h with hskip
  · cases h
    exact hfront
  · have hrange : range ≠ .nan := by
      rintro rfl
      exact hskip (.inl rfl)
    simp only [Option.bind_eq_bind, Option.bind_eq_some_iff] at h
    obtain ⟨angle, -, inFront, -, onLeft, -, onRight, -, h⟩ := h
    cases h
    cases inFront with
    | false => exact hfront
    | true =>
      change sectors.front.min range ≠ .nan
      rw [Double.min]
      split_ifs
      · exact hrange
      · exact hfront

theorem scanRanges_front {fuel : ℕ} {angleMin angleIncrement rangeMin rangeMax : Double}
    (ranges : List Double) (index : ℕ) {sectors sectors' : Sectors}
    (hfront : sectors.front ≠ .nan)
    (h : scanRanges fuel angleMin angleIncrement rangeMin rangeMax index ranges sectors =
      some sectors') : sectors'.front ≠ .nan := by
  induction ranges generalizing index sectors with
  | nil =>
    cases h
    exact hfront
  | cons range ranges ih =>
    obtain ⟨seen, hseen, hrest⟩ := Option.bind_eq_some_iff.mp h
    exact ih (index + 1) (scanRange_front hfront hseen) hrest

structure Kept (config : ControllerConfig) (s : SimulationController) : Prop where
  config : s.config = config
  front : s.frontDistance ≠ .nan

theorem chooseTarget_kept (s : SimulationController) (nowS dt : Double) :
    (s.chooseTarget nowS dt).1.config = s.config ∧
      (s.chooseTarget nowS dt).1.frontDistance = s.frontDistance := by
  unfold chooseTarget
  cases s.mode <;> dsimp only <;> split_ifs <;> exact ⟨rfl, rfl⟩

theorem perform_kept (s : SimulationController) (op : Operation) (h : Kept config s) :
    Kept config (perform s op).1 := by
  cases op with
  | setMode mode =>
    simp only [perform, setMode]
    cases parseMode mode <;> exact ⟨h.config, h.front⟩
  | setManualCommand => exact ⟨h.config, h.front⟩
  | stop => exact ⟨h.config, h.front⟩
  | setEmergencyStop active => cases active <;> exact ⟨h.config, h.front⟩
  | updateScan fuel ranges angleMin angleIncrement rangeMin rangeMax nowS =>
    simp only [perform, updateScan]
    split
    · exact h
    · rename_i sectors hsectors
      exact ⟨h.config, scanRanges_front ranges 0 (by decide) hsectors⟩
  | step nowS =>
    obtain ⟨hconfig, hfront⟩ := chooseTarget_kept s nowS (s.dt nowS)
    exact ⟨hconfig.trans h.config, hfront ▸ h.front⟩

def factory : ControllerConfig := {}

theorem valid_factory : Valid factory :=
  ⟨.ofRat 20, .ofRat 30, "gazebo", by decide +kernel⟩

def echo (range : ℚ) (nowS : ℚ) : Operation :=
  .updateScan 4 [.ofRat range] 0 0 0 (.ofRat 10) (.ofRat nowS)

def driving : List Operation :=
  [echo 3 0, .setManualCommand (.ofRat 0.2) 0 (.ofRat 10) 0, .step 0, .step (.ofRat 0.05)]

def turning : List Operation :=
  driving ++ [.setManualCommand 0 (.ofRat 0.5) (.ofRat 10) (.ofRat 0.1), echo 0.125 0.1,
    .step (.ofRat 0.1)]

end EmbodiedAgent.Simulation.SimulationController
