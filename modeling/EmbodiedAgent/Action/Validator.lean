import EmbodiedAgent.Action.Command

namespace EmbodiedAgent

open Library

structure ValidationResult where
  valid : Bool
  command : RobotCommand
  error : String

namespace ActionValidator

def supportedNavigationPlaces : List String :=
  ["home", "door", "desk", "living_room", "kitchen", "charging_station", "entrance", "office",
    "meeting_room", "hallway", "waypoint_a", "waypoint_b", "waypoint_c", "unreachable_zone"]

def colors : List String := ["off", "red", "green", "blue", "yellow", "white"]

def modes : List String := ["manual", "obstacle_avoidance", "wall_following"]

def supportedPlace (value : String) : Bool := value ∈ supportedNavigationPlaces

section Payload

variable (command : RobotCommand)

def noMotionPayload : Bool :=
  command.linearX = 0 && command.angularZ = 0 && command.durationS = 0

def noAccessoryPayload : Bool :=
  command.count = 0 && command.color = "" && command.mode = ""

def noNavigationPayload : Bool :=
  command.target = "" && command.waypoints = [] && command.numberOfLoops = 0

def noNonMotionPayload : Bool := noAccessoryPayload command && noNavigationPayload command

def noPayload : Bool :=
  noMotionPayload command && noAccessoryPayload command && noNavigationPayload command

def validateNavigationPlaces : String :=
  if command.waypoints = [] then "waypoints must not be empty"
  else if command.waypoints.length > 8 then "too many waypoints"
  else if command.waypoints.any fun waypoint ↦ !supportedPlace waypoint then
    "unsupported navigation waypoint"
  else ""

end Payload

def clampLinear (value : Double) : Double := clamp value (.ofRat (-1 / 2)) (.ofRat (1 / 2))

def clampAngular (value : Double) : Double := clamp value (.ofRat (-3 / 2)) (.ofRat (3 / 2))

def clampDuration (value : Double) : Double := clamp value (.ofRat 0) (.ofRat 10)

section Cases

variable (candidate command : RobotCommand)

def normalizeControl : Except String RobotCommand :=
  if !noPayload candidate then .error "control command contains unrelated payload" else .ok command

def normalizeMove : Except String RobotCommand :=
  if !noNonMotionPayload candidate || !candidate.linearX.isFinite ||
      !candidate.angularZ.isFinite || !candidate.durationS.isFinite then
    .error "invalid move payload"
  else .ok { command with
    linearX := clampLinear candidate.linearX
    angularZ := clampAngular candidate.angularZ
    durationS := clampDuration candidate.durationS
    actionType := RobotCommand.move }

def normalizeTurn : Except String RobotCommand :=
  if candidate.linearX ≠ 0 || !noNonMotionPayload candidate ||
      !candidate.angularZ.isFinite || !candidate.durationS.isFinite then
    .error "invalid turn payload"
  else .ok { command with
    angularZ := clampAngular candidate.angularZ
    durationS := clampDuration candidate.durationS }

def normalizeWave : Except String RobotCommand :=
  if !noMotionPayload candidate || candidate.color ≠ "" || candidate.mode ≠ "" ||
      !noNavigationPayload candidate || candidate.count = 0 then
    .error "invalid wave payload"
  else .ok { command with count := clamp candidate.count 1 5 }

def normalizeSetLed : Except String RobotCommand :=
  if !noMotionPayload candidate || candidate.count ≠ 0 || candidate.mode ≠ "" ||
      !noNavigationPayload candidate then
    .error "invalid LED payload"
  else if candidate.color ∉ colors then .error "unsupported LED color"
  else .ok command

def normalizeSetMode : Except String RobotCommand :=
  if !noMotionPayload candidate || candidate.count ≠ 0 || candidate.color ≠ "" ||
      !noNavigationPayload candidate then
    .error "invalid mode payload"
  else if candidate.mode ∉ modes then .error "unsupported control mode"
  else .ok command

def normalizeNavigateTo : Except String RobotCommand :=
  if !noMotionPayload candidate || !noAccessoryPayload candidate || candidate.waypoints ≠ [] ||
      candidate.numberOfLoops ≠ 0 || !supportedPlace candidate.target then
    .error (if supportedPlace candidate.target then "invalid navigation payload"
      else "unsupported navigation target")
  else .ok { command with durationS := .ofRat 3 }

def normalizeFollowWaypoints : Except String RobotCommand :=
  if !noMotionPayload candidate || !noAccessoryPayload candidate || candidate.target ≠ "" then
    .error "invalid waypoint payload"
  else if validateNavigationPlaces candidate ≠ "" then .error (validateNavigationPlaces candidate)
  else
    let numberOfLoops := clamp
      (if candidate.numberOfLoops = 0 then 1 else candidate.numberOfLoops) 1 3
    let visits := Double.ofRat (command.waypoints.length * numberOfLoops.toNat)
    .ok { command with
      numberOfLoops := numberOfLoops
      durationS := clamp (visits.mul (.ofRat 2)) (.ofRat 2) (.ofRat 10) }

/-- The switch over the action type; `command` is the candidate under its final
identifiers. -/
def normalize : Except String RobotCommand :=
  if candidate.actionType = RobotCommand.stop ∨
      candidate.actionType = RobotCommand.cancelNavigation then normalizeControl candidate command
  else if candidate.actionType = RobotCommand.move ∨ candidate.actionType = RobotCommand.arc then
    normalizeMove candidate command
  else if candidate.actionType = RobotCommand.turn then normalizeTurn candidate command
  else if candidate.actionType = RobotCommand.wave then normalizeWave candidate command
  else if candidate.actionType = RobotCommand.setLed then normalizeSetLed candidate command
  else if candidate.actionType = RobotCommand.setMode then normalizeSetMode candidate command
  else if candidate.actionType = RobotCommand.navigateTo then normalizeNavigateTo candidate command
  else if candidate.actionType = RobotCommand.followWaypoints then
    normalizeFollowWaypoints candidate command
  else .error "unsupported action type"

end Cases

def identified (candidate : RobotCommand) (fallbackCommandId fallbackSource : String) :
    RobotCommand :=
  { candidate with
    commandId := if candidate.commandId = "" then fallbackCommandId else candidate.commandId
    source := if candidate.source = "" then fallbackSource else candidate.source }

def validate (candidate : RobotCommand) (fallbackCommandId fallbackSource : String) :
    ValidationResult :=
  let command := identified candidate fallbackCommandId fallbackSource
  if command.commandId = "" then ⟨false, command, "command_id must not be empty"⟩
  else if candidate.priority && candidate.actionType ≠ RobotCommand.stop &&
      candidate.actionType ≠ RobotCommand.cancelNavigation then
    ⟨false, command, "priority is only valid for stop or cancel_navigation"⟩
  else match normalize candidate command with
  | .error error => ⟨false, command, error⟩
  | .ok command => ⟨true, command, ""⟩

def Between (lower upper : ℚ) (value : Double) : Prop :=
  ∃ v hv, value = .finite v hv ∧ lower ≤ v ∧ v ≤ upper

structure WithinLimits (command : RobotCommand) : Prop where
  linear : Between (-1 / 2) (1 / 2) command.linearX
  angular : Between (-3 / 2) (3 / 2) command.angularZ
  duration : Between 0 10 command.durationS
  turn : command.actionType = RobotCommand.turn → command.linearX = 0

def IsMotion (command : RobotCommand) : Prop :=
  command.actionType = RobotCommand.move ∨ command.actionType = RobotCommand.turn

theorem clamp_between {lower upper : ℚ} (hlower : Representable lower)
    (hupper : Representable upper) (hle : lower ≤ upper) {value : Double}
    (hfinite : value.isFinite = true) :
    Between lower upper (clamp value (.ofRat lower) (.ofRat upper)) := by
  obtain ⟨q, hq, rfl⟩ := Double.eq_finite_of_isFinite hfinite
  rw [Double.ofRat_of_representable hlower, Double.ofRat_of_representable hupper]
  exact Double.clamp_between Double.noConfusion hle

theorem clampLinear_between {value : Double} (hfinite : value.isFinite = true) :
    Between (-1 / 2) (1 / 2) (clampLinear value) := by
  have hhalf : Representable (1 / 2) := ⟨1, -1, by norm_num, by norm_num, by norm_num, by norm_num⟩
  have hneg : Representable (-1 / 2) := by simpa [neg_div] using hhalf.neg
  exact clamp_between hneg hhalf (by norm_num) hfinite

theorem clampAngular_between {value : Double} (hfinite : value.isFinite = true) :
    Between (-3 / 2) (3 / 2) (clampAngular value) := by
  have hthree : Representable (3 / 2) := ⟨3, -1, by norm_num, by norm_num, by norm_num, by norm_num⟩
  have hneg : Representable (-3 / 2) := by simpa [neg_div] using hthree.neg
  exact clamp_between hneg hthree (by norm_num) hfinite

theorem clampDuration_between {value : Double} (hfinite : value.isFinite = true) :
    Between 0 10 (clampDuration value) := by
  have hten : Representable 10 := by
    exact_mod_cast representable_intCast (n := 10) (by norm_num)
  exact clamp_between representable_zero hten (by norm_num) hfinite

variable {candidate command result : RobotCommand}

theorem normalizeMove_spec (h : normalizeMove candidate command = .ok result) :
    result.actionType = RobotCommand.move ∧ WithinLimits result := by
  unfold normalizeMove at h
  split_ifs at h with hpayload
  cases h
  simp only [Bool.or_eq_true, Bool.not_eq_true', not_or, Bool.not_eq_false] at hpayload
  obtain ⟨⟨⟨-, hlinear⟩, hangular⟩, hduration⟩ := hpayload
  have hmove : RobotCommand.move ≠ RobotCommand.turn := by decide
  exact ⟨rfl, clampLinear_between hlinear, clampAngular_between hangular,
    clampDuration_between hduration, fun hturn ↦ absurd hturn hmove⟩

theorem normalizeTurn_spec (hlinear : command.linearX = candidate.linearX)
    (h : normalizeTurn candidate command = .ok result) :
    result.actionType = command.actionType ∧ WithinLimits result := by
  unfold normalizeTurn at h
  split_ifs at h with hpayload
  cases h
  simp only [Bool.or_eq_true, Bool.not_eq_true', not_or, Bool.not_eq_false, decide_eq_true_eq,
    not_not] at hpayload
  obtain ⟨⟨⟨hzero, -⟩, hangular⟩, hduration⟩ := hpayload
  have hzero' : command.linearX = 0 := hlinear.trans hzero
  refine ⟨rfl, ⟨0, representable_zero, hzero', by norm_num, by norm_num⟩,
    clampAngular_between hangular, clampDuration_between hduration, fun _ ↦ hzero'⟩

theorem normalize_other (h : normalize candidate command = .ok result)
    (hmove : ¬ (candidate.actionType = RobotCommand.move ∨ candidate.actionType = RobotCommand.arc))
    (hturn : candidate.actionType ≠ RobotCommand.turn) :
    result.actionType = command.actionType := by
  unfold normalize at h
  rw [if_neg hmove, if_neg hturn] at h
  split_ifs at h
  · unfold normalizeControl at h
    split_ifs at h
    cases h
    rfl
  · unfold normalizeWave at h
    split_ifs at h
    cases h
    rfl
  · unfold normalizeSetLed at h
    split_ifs at h
    cases h
    rfl
  · unfold normalizeSetMode at h
    split_ifs at h
    cases h
    rfl
  · unfold normalizeNavigateTo at h
    split_ifs at h
    cases h
    rfl
  · unfold normalizeFollowWaypoints at h
    dsimp only at h
    split_ifs at h <;> cases h <;> rfl

theorem normalize_motion (hlinear : command.linearX = candidate.linearX)
    (htype : command.actionType = candidate.actionType)
    (h : normalize candidate command = .ok result) (hmotion : IsMotion result) :
    WithinLimits result := by
  by_cases hmove : candidate.actionType = RobotCommand.move ∨
      candidate.actionType = RobotCommand.arc
  · have hcontrol : ¬ (candidate.actionType = RobotCommand.stop ∨
        candidate.actionType = RobotCommand.cancelNavigation) := by
      rcases hmove with hm | hm <;> rw [hm] <;> decide
    rw [normalize, if_neg hcontrol, if_pos hmove] at h
    exact (normalizeMove_spec h).2
  by_cases hturn : candidate.actionType = RobotCommand.turn
  · have hcontrol : ¬ (candidate.actionType = RobotCommand.stop ∨
        candidate.actionType = RobotCommand.cancelNavigation) := by
      rw [hturn]
      decide
    rw [normalize, if_neg hcontrol, if_neg hmove, if_pos hturn] at h
    exact (normalizeTurn_spec hlinear h).2
  · have hsame := (normalize_other h hmove hturn).trans htype
    rcases hmotion with hm | hm
    · exact absurd (.inl (hsame.symm.trans hm)) hmove
    · exact absurd (hsame.symm.trans hm) hturn

theorem validate_valid {commandId source : String}
    (h : (validate candidate commandId source).valid = true) :
    ∃ result, validate candidate commandId source = ⟨true, result, ""⟩ ∧
      (identified candidate commandId source).commandId ≠ "" ∧
      normalize candidate (identified candidate commandId source) = .ok result := by
  unfold validate at h ⊢
  dsimp only at h ⊢
  split_ifs at h ⊢ with hnamed hpriority
  cases hresult : normalize candidate (identified candidate commandId source) with
  | error => simp [hresult] at h
  | ok result => exact ⟨result, rfl, hnamed, rfl⟩

theorem validate_motion {commandId source : String}
    (hvalid : (validate candidate commandId source).valid = true)
    (hmotion : IsMotion (validate candidate commandId source).command) :
    WithinLimits (validate candidate commandId source).command := by
  obtain ⟨result, hresult, -, hnormalize⟩ := validate_valid hvalid
  rw [hresult] at hmotion ⊢
  have hlinear : (identified candidate commandId source).linearX = candidate.linearX := rfl
  have htype : (identified candidate commandId source).actionType = candidate.actionType := rfl
  exact normalize_motion hlinear htype hnormalize hmotion

end ActionValidator

end EmbodiedAgent
