import EmbodiedAgent.Library.History
import EmbodiedAgent.Library.SteadyClock

namespace EmbodiedAgent

open Library History

structure KeyboardInputConfig where
  linearSpeed : Double := .ofRat 0.2
  angularSpeed : Double := .ofRat 0.8
  maxLinearSpeed : Double := .ofRat 0.26
  maxAngularSpeed : Double := .ofRat 1.82
  deadmanTimeout : ℤ := 600

inductive KeyboardIntent
  | none | motion | softStop | emergencyStop | resetAndResume | safeExit | deadmanStop
  | blockedByEmergencyStop
  deriving DecidableEq

structure KeyboardInputUpdate where
  intent : KeyboardIntent := .none
  linearX : Double := 0
  angularZ : Double := 0
  recognized : Bool := false
  emergencyStopLatched : Bool := false

def checkedPositive (value : Double) : Bool := value.isFinite && decide (0 < value)

structure KeyboardInputConfig.Valid (config : KeyboardInputConfig) : Prop where
  maxLinearSpeed : checkedPositive config.maxLinearSpeed = true
  maxAngularSpeed : checkedPositive config.maxAngularSpeed = true
  speeds : config.linearSpeed.isFinite = true ∧ config.angularSpeed.isFinite = true
  deadmanTimeout : 0 < config.deadmanTimeout

/-- The keys as intents of motion, with the configuration checked and limited. -/
structure KeyboardInput where
  config : KeyboardInputConfig
  valid : config.Valid
  linearX : Double := 0
  angularZ : Double := 0
  motionActive : Bool := false
  emergencyStopLatched : Bool := false
  lastMotionInput : ℤ := 0

namespace KeyboardInput

theorem clamp_isFinite {v m : Double} (hv : v ≠ .nan) (hm : checkedPositive m = true) :
    (clamp v 0 m).isFinite = true := by
  simp only [checkedPositive, Bool.and_eq_true, decide_eq_true_eq] at hm
  cases m with
  | nan => cases hm.1
  | infinite negative => cases hm.1
  | finite b hb =>
    have hpos : 0 ≤ b := (Double.finite_lt_finite.mp hm.2).le
    obtain ⟨c, hc, heq, -⟩ : ∃ c hc, clamp v (.finite 0 representable_zero) (.finite b hb) =
        .finite c hc ∧ 0 ≤ c ∧ c ≤ b := Double.clamp_between hv hpos
    exact congrArg Double.isFinite heq

theorem abs_ne_nan_of_isFinite {v : Double} (h : v.isFinite = true) : v.abs ≠ .nan := by
  cases v with
  | nan => cases h
  | infinite negative => cases h
  | finite q hq => exact Double.noConfusion

def create (config : KeyboardInputConfig) : Except String KeyboardInput :=
  if hlinear : checkedPositive config.maxLinearSpeed = true then
    if hangular : checkedPositive config.maxAngularSpeed = true then
      if hspeeds : config.linearSpeed.isFinite = true ∧ config.angularSpeed.isFinite = true then
        if hdeadman : 0 < config.deadmanTimeout then
          .ok
            { config := { config with
                linearSpeed := clamp config.linearSpeed.abs 0 config.maxLinearSpeed
                angularSpeed := clamp config.angularSpeed.abs 0 config.maxAngularSpeed }
              valid := ⟨hlinear, hangular,
                ⟨clamp_isFinite (abs_ne_nan_of_isFinite hspeeds.1) hlinear,
                  clamp_isFinite (abs_ne_nan_of_isFinite hspeeds.2) hangular⟩, hdeadman⟩ }
        else .error "deadman_timeout must be greater than zero"
      else .error "keyboard speeds must be finite"
    else .error "max_angular_speed must be finite and greater than zero"
  else .error "max_linear_speed must be finite and greater than zero"

variable (input : KeyboardInput)

def makeUpdate (intent : KeyboardIntent) (recognized : Bool) : KeyboardInputUpdate :=
  ⟨intent, input.linearX, input.angularZ, recognized, input.emergencyStopLatched⟩

def setMotion (linearX angularZ : Double) (now : ℤ) : KeyboardInput :=
  { input with
    linearX := clamp linearX input.config.maxLinearSpeed.neg input.config.maxLinearSpeed
    angularZ := clamp angularZ input.config.maxAngularSpeed.neg input.config.maxAngularSpeed
    lastMotionInput := now
    motionActive := true }

def stopMotion : KeyboardInput := { input with linearX := 0, angularZ := 0, motionActive := false }

def isMotionKey (key : Char) : Bool :=
  key.toLower = 'w' || key.toLower = 's' || key.toLower = 'a' || key.toLower = 'd'

def motionOf (config : KeyboardInputConfig) (key : Char) : Double × Double :=
  match key.toLower with
  | 'w' => (config.linearSpeed, 0)
  | 's' => (config.linearSpeed.neg, 0)
  | 'a' => (0, config.angularSpeed)
  | _ => (0, config.angularSpeed.neg)

def applyKey (key : Char) (now : ℤ) : KeyboardInput × KeyboardInputUpdate :=
  if key.toLower = 'x' then
    let stopped := { input with emergencyStopLatched := true }.stopMotion
    (stopped, stopped.makeUpdate .emergencyStop true)
  else if key.toLower = 'r' then
    let stopped := { input with emergencyStopLatched := false }.stopMotion
    (stopped, stopped.makeUpdate .resetAndResume true)
  else if key.toLower = 'q' then
    (input.stopMotion, input.stopMotion.makeUpdate .safeExit true)
  else if key = ' ' then
    (input.stopMotion, input.stopMotion.makeUpdate .softStop true)
  else if !isMotionKey key then (input, input.makeUpdate .none false)
  else if input.emergencyStopLatched then
    (input.stopMotion, input.stopMotion.makeUpdate .blockedByEmergencyStop true)
  else
    let motion := motionOf input.config key
    let moving := input.setMotion motion.1 motion.2 now
    (moving, moving.makeUpdate .motion true)

def snapshot : KeyboardInputUpdate := input.makeUpdate .none false

def updateDeadman (now : ℤ) : KeyboardInput × KeyboardInputUpdate :=
  if input.motionActive ∧ nanoseconds input.config.deadmanTimeout ≤ now - input.lastMotionInput then
    (input.stopMotion, input.stopMotion.makeUpdate .deadmanStop true)
  else (input, input.snapshot)

end KeyboardInput

end EmbodiedAgent
