import EmbodiedAgent.Library.Binary64

namespace EmbodiedAgent.Simulation

open Library

inductive ControlMode
  | manual | obstacleAvoidance | wallFollowing
  deriving DecidableEq

structure ControllerConfig where
  maxLinearSpeed : Double := .ofRat 0.22
  maxAngularSpeed : Double := .ofRat 1.0
  linearAcceleration : Double := .ofRat 0.5
  angularAcceleration : Double := .ofRat 2.0
  emergencyDistance : Double := .ofRat 0.22
  obstacleDistance : Double := .ofRat 0.50
  wallTargetDistance : Double := .ofRat 0.40
  autonomousLinearSpeed : Double := .ofRat 0.14
  obstacleTurnSpeed : Double := .ofRat 0.65
  scanTimeout : Double := .ofRat 0.50
  stopTimeoutS : Double := .ofRat 3.0
  wallKp : Double := .ofRat 1.8
  wallKi : Double := .ofRat 0.0
  wallKd : Double := .ofRat 0.15

structure ConfigurationValidation where
  valid : Bool
  error : String

/-- The checks of the node on its parameters, in their order. -/
def validateNodeConfiguration (controller : ControllerConfig)
    (controlRateHz actionTimeoutS : Double) (executorPlugin : String) : ConfigurationValidation :=
  if !controlRateHz.isFinite ∨ controlRateHz ≤ 0 ∨ controlRateHz > .ofRat 1000.0 then
    ⟨false, "control_rate_hz must be in (0, 1000]"⟩
  else if !actionTimeoutS.isFinite ∨ actionTimeoutS ≤ 0 then
    ⟨false, "action_timeout_s must be positive"⟩
  else if executorPlugin = "" then ⟨false, "executor_plugin must not be empty"⟩
  else if controller.maxLinearSpeed ≤ 0 ∨ controller.maxAngularSpeed ≤ 0 ∨
      controller.linearAcceleration ≤ 0 ∨ controller.angularAcceleration ≤ 0 then
    ⟨false, "speed and acceleration limits must be positive"⟩
  else if controller.emergencyDistance ≤ 0 ∨
      controller.obstacleDistance ≤ controller.emergencyDistance then
    ⟨false, "obstacle_distance must exceed emergency_distance"⟩
  else if controller.scanTimeout ≤ 0 then ⟨false, "scan_timeout must be positive"⟩
  else if !controller.stopTimeoutS.isFinite ∨ controller.stopTimeoutS ≤ 0 then
    ⟨false, "stop_timeout_s must be positive"⟩
  else ⟨true, ""⟩

structure VelocityCommand where
  linearX : Double := 0
  angularZ : Double := 0

structure ControllerOutput where
  velocity : VelocityCommand
  mode : ControlMode
  sensorStale : Bool
  safetyStopped : Bool
  frontDistance : Double
  rightDistance : Double
  reason : String

def infinity : Double := .infinite false

structure SimulationController where
  config : ControllerConfig
  mode : ControlMode := .manual
  manualCommand : VelocityCommand := {}
  currentCommand : VelocityCommand := {}
  manualUntilS : Double := 0
  lastStepS : Double := .nan
  lastScanS : Double := .infinite true
  frontDistance : Double := infinity
  leftDistance : Double := infinity
  rightDistance : Double := infinity
  emergencyStop : Bool := false
  forceStop : Bool := false
  wallIntegral : Double := 0
  wallPreviousError : Double := 0

namespace SimulationController

variable (s : SimulationController)

def kPi : Double := .ofRat 3.14159265358979323846

def kFrontHalfWidth : Double := ((Double.ofRat 20).mul kPi).div (.ofRat 180)

def kSideHalfWidth : Double := ((Double.ofRat 25).mul kPi).div (.ofRat 180)

def resetPid : SimulationController :=
  { s with wallIntegral := 0, wallPreviousError := 0 }

def parseMode : String → Option ControlMode
  | "manual" => some .manual
  | "obstacle_avoidance" => some .obstacleAvoidance
  | "wall_following" => some .wallFollowing
  | _ => none

def setMode (mode : String) : SimulationController × Bool :=
  match parseMode mode with
  | none => (s, false)
  | some requested =>
    ({ s with
      mode := requested
      manualCommand := {}
      manualUntilS := 0
      forceStop := true }.resetPid, true)

def setManualCommand (linearX angularZ durationS nowS : Double) : SimulationController :=
  { s with
    mode := .manual
    manualCommand := {
      linearX := clamp linearX s.config.maxLinearSpeed.neg s.config.maxLinearSpeed
      angularZ := clamp angularZ s.config.maxAngularSpeed.neg s.config.maxAngularSpeed }
    manualUntilS := nowS.add (clamp durationS 0 (.ofRat 10.0))
    forceStop := false }.resetPid

def stop : SimulationController :=
  { s with
    mode := .manual
    manualCommand := {}
    manualUntilS := 0
    currentCommand := {}
    forceStop := true }

def setEmergencyStop (active : Bool) : SimulationController :=
  if active then { s with emergencyStop := active }.stop else { s with emergencyStop := active }

def turnDown : ℕ → Double → Option Double
  | 0, _ => none
  | fuel + 1, angle =>
    if angle > kPi then turnDown fuel (angle.sub ((Double.ofRat 2).mul kPi)) else some angle

def turnUp : ℕ → Double → Option Double
  | 0, _ => none
  | fuel + 1, angle =>
    if angle < kPi.neg then turnUp fuel (angle.add ((Double.ofRat 2).mul kPi)) else some angle

def normalizedAngle (fuel : ℕ) (angle : Double) : Option Double :=
  (turnDown fuel angle).bind (turnUp fuel)

def inSector (fuel : ℕ) (angle center halfWidth : Double) : Option Bool :=
  (normalizedAngle fuel (angle.sub center)).map fun a ↦ decide (a.abs ≤ halfWidth)

structure Sectors where
  front : Double := infinity
  left : Double := infinity
  right : Double := infinity

def scanRange (fuel : ℕ) (angleMin angleIncrement rangeMin rangeMax : Double) (index : ℕ)
    (range : Double) (sectors : Sectors) : Option Sectors :=
  if !range.isFinite ∨ range < rangeMin ∨ range > rangeMax then some sectors
  else do
    let angle ← normalizedAngle fuel (angleMin.add ((Double.ofRat index).mul angleIncrement))
    let inFront ← inSector fuel angle 0 kFrontHalfWidth
    let onLeft ← inSector fuel angle (kPi.div (.ofRat 2)) kSideHalfWidth
    let onRight ← inSector fuel angle (kPi.neg.div (.ofRat 2)) kSideHalfWidth
    return {
      front := if inFront then sectors.front.min range else sectors.front
      left := if onLeft then sectors.left.min range else sectors.left
      right := if onRight then sectors.right.min range else sectors.right }

def scanRanges (fuel : ℕ) (angleMin angleIncrement rangeMin rangeMax : Double) (index : ℕ) :
    List Double → Sectors → Option Sectors
  | [], sectors => some sectors
  | range :: ranges, sectors =>
    (scanRange fuel angleMin angleIncrement rangeMin rangeMax index range sectors).bind
      (scanRanges fuel angleMin angleIncrement rangeMin rangeMax (index + 1) ranges)

def updateScan (fuel : ℕ) (ranges : List Double)
    (angleMin angleIncrement rangeMin rangeMax nowS : Double) : SimulationController :=
  match scanRanges fuel angleMin angleIncrement rangeMin rangeMax 0 ranges {} with
  | none => s
  | some sectors =>
    { s with
      frontDistance := sectors.front
      leftDistance := sectors.left
      rightDistance := sectors.right
      lastScanS := nowS }

def approach (current target maxDelta : Double) : Double :=
  if current < target then (current.add maxDelta).min target
  else (current.sub maxDelta).max target

def dt (nowS : Double) : Double :=
  if s.lastStepS.isFinite = true ∧ nowS ≥ s.lastStepS then
    clamp (nowS.sub s.lastStepS) (.ofRat 0.001) (.ofRat 0.20)
  else .ofRat 0.05

def scanStale (nowS : Double) : Bool :=
  decide (nowS.sub s.lastScanS > s.config.scanTimeout)

def chooseTarget (nowS dt : Double) : SimulationController × VelocityCommand × String :=
  if s.emergencyStop then (s, {}, "emergency_stop")
  else if s.mode = .manual then
    if nowS ≤ s.manualUntilS then (s, s.manualCommand, "manual_command")
    else (s, {}, "manual_timeout")
  else if s.scanStale nowS then (s, {}, "scan_timeout")
  else match s.mode with
  | .manual => (s, {}, "manual_idle")
  | .obstacleAvoidance =>
    if s.frontDistance < s.config.obstacleDistance then
      (s, { angularZ := if s.leftDistance ≥ s.rightDistance then s.config.obstacleTurnSpeed
          else s.config.obstacleTurnSpeed.neg }, "obstacle_turn")
    else (s, { linearX := s.config.autonomousLinearSpeed }, "obstacle_clear")
  | .wallFollowing =>
    if s.frontDistance < s.config.obstacleDistance then
      (s.resetPid, { angularZ := s.config.obstacleTurnSpeed }, "wall_corner")
    else if !s.rightDistance.isFinite then
      (s, { linearX := s.config.autonomousLinearSpeed.mul (.ofRat 0.6)
            angularZ := s.config.obstacleTurnSpeed.neg.mul (.ofRat 0.5) }, "wall_search")
    else
      let error := s.config.wallTargetDistance.sub s.rightDistance
      let integral := clamp (s.wallIntegral.add (error.mul dt)) (.ofRat (-0.5)) (.ofRat 0.5)
      let derivative := (error.sub s.wallPreviousError).div dt
      ({ s with wallIntegral := integral, wallPreviousError := error },
        { linearX := s.config.autonomousLinearSpeed
          angularZ := clamp (((s.config.wallKp.mul error).add (s.config.wallKi.mul integral)).add
            (s.config.wallKd.mul derivative))
            s.config.maxAngularSpeed.neg s.config.maxAngularSpeed }, "wall_tracking")

def overrideTarget (nowS : Double) (target : VelocityCommand)
    (reason : String) : VelocityCommand × Bool × String :=
  if s.scanStale nowS = true ∧ target.linearX > 0 then
    ({ target with linearX := 0 }, true, "scan_timeout")
  else if s.scanStale nowS = false ∧ s.frontDistance < s.config.emergencyDistance ∧
      target.linearX > 0 then
    ({ target with linearX := 0 }, true, "front_emergency")
  else (target, false, reason)

def limitTarget (target : VelocityCommand) : VelocityCommand where
  linearX := clamp target.linearX s.config.maxLinearSpeed.neg s.config.maxLinearSpeed
  angularZ := clamp target.angularZ s.config.maxAngularSpeed.neg s.config.maxAngularSpeed

/-- The velocity takes the target at once, past the ramp. -/
def jumps (nowS : Double) (safetyStopped : Bool) : Bool :=
  s.forceStop || s.emergencyStop || (s.scanStale nowS && decide (s.mode ≠ .manual)) ||
    safetyStopped

def rampTarget (target : VelocityCommand) (dt : Double) : VelocityCommand where
  linearX := approach s.currentCommand.linearX target.linearX (s.config.linearAcceleration.mul dt)
  angularZ :=
    approach s.currentCommand.angularZ target.angularZ (s.config.angularAcceleration.mul dt)

def step (nowS : Double) : SimulationController × ControllerOutput :=
  let dt := s.dt nowS
  let (s', requested, reason) := s.chooseTarget nowS dt
  let (allowed, safetyStopped, reason) := s.overrideTarget nowS requested reason
  let target := s.limitTarget allowed
  let jumps := s.jumps nowS safetyStopped
  let velocity := if jumps then target else s.rampTarget target dt
  let s' := { s' with
    lastStepS := nowS
    currentCommand := velocity
    forceStop := s.forceStop && !jumps }
  (s', {
    velocity := velocity
    mode := s.mode
    sensorStale := s.scanStale nowS
    safetyStopped := safetyStopped
    frontDistance := s.frontDistance
    rightDistance := s.rightDistance
    reason := reason })

inductive Operation
  | setMode (mode : String)
  | setManualCommand (linearX angularZ durationS nowS : Double)
  | stop
  | setEmergencyStop (active : Bool)
  | updateScan (fuel : ℕ) (ranges : List Double)
      (angleMin angleIncrement rangeMin rangeMax nowS : Double)
  | step (nowS : Double)

def perform :
    Operation → SimulationController × Option ControllerOutput
  | .setMode mode => ((s.setMode mode).1, none)
  | .setManualCommand linearX angularZ durationS nowS =>
    (s.setManualCommand linearX angularZ durationS nowS, none)
  | .stop => (s.stop, none)
  | .setEmergencyStop active => (s.setEmergencyStop active, none)
  | .updateScan fuel ranges angleMin angleIncrement rangeMin rangeMax nowS =>
    (s.updateScan fuel ranges angleMin angleIncrement rangeMin rangeMax nowS, none)
  | .step nowS => ((s.step nowS).1, some (s.step nowS).2)

end SimulationController

end EmbodiedAgent.Simulation
