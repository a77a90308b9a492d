import EmbodiedAgent.Action.Validator
import EmbodiedAgent.Agent.CommandFallback
import EmbodiedAgent.Agent.UserMemory
import EmbodiedAgent.Library.Approximation

namespace EmbodiedAgent.Agent.UserPreferences

open Library UserMemory

/-- How the standard library reads a number from a text and writes a value as one. -/
structure Texts where
  parse : String → Option Double
  render : JsonValue → String

section Numbers

variable (t : Texts)

/-- `float`, none where it raises. -/
def toFloat : JsonValue → Option Double
  | .float value => some value
  | .int value => some (.ofRat value)
  | .bool value => some (.ofRat (if value then 1 else 0))
  | .str value => t.parse value
  | .null | .arr _ | .obj _ => none

def safeFloat (value : Option JsonValue) : Option Double :=
  (value.bind (toFloat t)).filter Double.isFinite

def closeTo (value : Option Double) (expected : Double) : Bool :=
  match value with
  | none => false
  | some numeric => (numeric.sub expected).abs ≤ .ofRat (1 / 20)

/-- `_clamp` -/
def bounded (value lower upper : Double) : Double := Double.min upper (Double.max lower value)

end Numbers

section Preferences

variable (t : Texts) (preferences : Dict)

variable (args : Dict)

def speedFactors : List (String × ℚ) := [("slow", 3 / 4), ("fast", 23 / 20)]

def defaultMoveDuration : Double := .ofRat 1

def defaultTurnDuration : Double := .ofRat (13 / 5)

def defaultTurnDegrees : Double := .ofRat 90

def spinDuration : Double := .ofRat (157 / 20)

/-- The factor as it is written in the source. -/
def speedFactor : ℚ :=
  let value :=
    match preferences.lookup "movement_speed" with
    | some value => if value.truthy then value.text t.render else ""
    | none => ""
  (speedFactors.lookup (Text.lower (Text.strip value))).getD 1

def movementSpeedFactor : Double := .ofRat (speedFactor t preferences)

def scaleNumericArg (key : String) (factor : Double) : Dict :=
  if closeTo (some factor) (.ofRat 1) then args
  else
    match safeFloat t (args.lookup key) with
    | none => args
    | some value => setItem key (.float ((value.mul factor).round 4)) args

def applyDefaultMoveDuration : Dict :=
  match safeFloat t (preferences.lookup "default_move_duration_s") with
  | none => args
  | some duration =>
    if (args.lookup "duration_s").isNone ||
        closeTo (safeFloat t (args.lookup "duration_s")) defaultMoveDuration then
      setItem "duration_s" (.float (bounded duration (.ofRat (1 / 5)) (.ofRat 10))) args
    else args

def applyDefaultTurnDegrees : Dict × Bool :=
  match safeFloat t (preferences.lookup "default_turn_degrees") with
  | none => (args, false)
  | some degrees =>
    if (args.lookup "duration_s").isSome &&
        !closeTo (safeFloat t (args.lookup "duration_s")) defaultTurnDuration then
      (args, false)
    else
      let degrees := bounded degrees (.ofRat 15) (.ofRat 360)
      let duration := ((defaultTurnDuration.mul degrees).div defaultTurnDegrees).round 3
      (setItem "duration_s" (.float duration) args, true)

def stretched (duration factor : Double) : Double :=
  (bounded (duration.div factor) (.ofRat (1 / 5)) (.ofRat 12)).round 3

def scaleTurnSpeedPreservingDefaultAngle (factor : Double) (forcePreserveAngle : Bool) : Dict :=
  if closeTo (some factor) (.ofRat 1) then args
  else
    let originalDuration := safeFloat t (args.lookup "duration_s")
    let preserveAngle := forcePreserveAngle || closeTo originalDuration defaultTurnDuration ||
      closeTo originalDuration spinDuration
    let args := scaleNumericArg t args "angular_z" factor
    match originalDuration with
    | none => args
    | some duration =>
      if preserveAngle then setItem "duration_s" (.float (stretched duration factor)) args
      else args

def scaleArcSpeedPreservingShape (factor : Double) : Dict :=
  if closeTo (some factor) (.ofRat 1) then args
  else
    let originalDuration := safeFloat t (args.lookup "duration_s")
    let args := scaleNumericArg t args "linear_x" factor
    let args := scaleNumericArg t args "angular_z" factor
    match originalDuration with
    | none => args
    | some duration => setItem "duration_s" (.float (stretched duration factor)) args

def adjusted (name : String) (args : Dict) : Dict :=
  if name = "move" then
    scaleNumericArg t (applyDefaultMoveDuration t preferences args) "linear_x"
      (movementSpeedFactor t preferences)
  else if name = "turn" then
    let (args, defaultTurnApplied) := applyDefaultTurnDegrees t preferences args
    scaleTurnSpeedPreservingDefaultAngle t args (movementSpeedFactor t preferences)
      defaultTurnApplied
  else if name = "arc" then
    scaleArcSpeedPreservingShape t args (movementSpeedFactor t preferences)
  else args

/-- `_apply_to_action` -/
def applyToAction (action : ActionCommand) : ActionCommand :=
  if action.name = "stop" ∨ action.name = "cancel_navigation" then action
  else { action with arguments := adjusted t preferences action.name action.arguments }

def applyUserPreferences (actions : List ActionCommand) : List ActionCommand :=
  actions.map (applyToAction t preferences)

end Preferences

section Messages

variable (t : Texts)

def turnMessage (source : String) (action : ActionCommand) : Option RobotCommand := do
  let angularZ ← (action.arguments.lookup "angular_z").bind (toFloat t)
  let durationS ← (action.arguments.lookup "duration_s").bind (toFloat t)
  return {
    commandId := action.requestId
    source := source
    priority := action.priority
    actionType := RobotCommand.turn
    angularZ := angularZ
    durationS := durationS }

end Messages

variable {t : Texts} {args : Dict} {key key' : String} {value : JsonValue}

theorem lookup_setItem (key : String) (value : JsonValue) (args : Dict) :
    (setItem key value args).lookup key = some value := by
  induction args with
  | nil => simp [setItem]
  | cons item args ih =>
    rw [setItem]
    split_ifs with hkey
    · simp
    · rw [List.lookup_cons, beq_false_of_ne (Ne.symm hkey)]
      exact ih

theorem lookup_setItem_ne (h : key' ≠ key) (value : JsonValue) (args : Dict) :
    (setItem key value args).lookup key' = args.lookup key' := by
  induction args with
  | nil => rw [setItem, List.lookup_cons, beq_false_of_ne h]
  | cons item args ih =>
    rw [setItem]
    split_ifs with hkey
    · rw [List.lookup_cons, List.lookup_cons, hkey, beq_false_of_ne h]
    · rw [List.lookup_cons, List.lookup_cons, ih]

theorem toFloat_of_safeFloat {numeric : Double} (h : safeFloat t (args.lookup key) = some numeric) :
    (args.lookup key).bind (toFloat t) = some numeric ∧ numeric.isFinite = true :=
  Option.filter_eq_some_iff.mp h

theorem safeFloat_float {numeric : Double} (h : numeric.isFinite = true) :
    safeFloat t (some (.float numeric)) = some numeric :=
  Option.filter_eq_some_iff.mpr ⟨rfl, h⟩

theorem safeFloat_int (t : Texts) (n : ℤ) (h : |n| < 2 ^ 53) :
    safeFloat t (some (.int n)) = some (.finite n (representable_intCast h)) := by
  refine Option.filter_eq_some_iff.mpr ⟨?_, rfl⟩
  exact congrArg some (Double.ofRat_of_representable _)

end EmbodiedAgent.Agent.UserPreferences
