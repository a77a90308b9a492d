import EmbodiedAgent.Action.Validator
import EmbodiedAgent.Hardware.Protocol
import EmbodiedAgent.Library.SteadyClock

namespace EmbodiedAgent

open Library

/-- Stops the motion when its time is over. -/
structure MotionWatchdog where
  deadline : Option ℤ := none

namespace MotionWatchdog

def arm (duration now : ℤ) : MotionWatchdog := { deadline := some (now + nanoseconds duration) }

def disarm : MotionWatchdog := {}

def expired (w : MotionWatchdog) (now : ℤ) : MotionWatchdog × Bool :=
  match w.deadline with
  | none => (w, false)
  | some deadline => if now < deadline then (w, false) else ({}, true)

end MotionWatchdog

structure RobotActionAck where
  action : String
  backend : String
  sequence : UInt64
  status : UInt8
  detail : String

def RobotActionAck.statusAccepted : UInt8 := 1

structure HardwareController where
  backend : String := "mock"
  protocol : HardwareProtocol := {}
  watchdog : MotionWatchdog := {}

/-- What the node does: a frame handed to the transport, or a message it publishes. -/
inductive ControllerOutput
  | send (frame : List UInt8)
  | ack (message : RobotActionAck)
  | status (data : String)

/-- What a callback finds outside: the error of the transport, and the steady clock. -/
structure ControllerReading where
  sendError : Option String := none
  now : ℤ := 0

inductive ControllerEvent
  | command (command : RobotCommand) (reading : ControllerReading)
  | emergencyStop (reading : ControllerReading)
  | watchdogTimer (expiredAt : ℤ) (reading : ControllerReading)

namespace HardwareController

variable (json : JsonLibrary) (k : HardwareController)

def toProtocolCommand (command : RobotCommand) : Json :=
  if command.actionType = RobotCommand.move then
    .object
      [("arguments", .object
        [("duration_s", .float command.durationS), ("linear_x", .float command.linearX)]),
      ("name", .string "move")]
  else if command.actionType = RobotCommand.turn then
    .object
      [("arguments", .object
        [("angular_z", .float command.angularZ), ("duration_s", .float command.durationS)]),
      ("name", .string "turn")]
  else if command.actionType = RobotCommand.wave then
    .object
      [("arguments", .object [("count", .integer command.count.toInt)]), ("name", .string "wave")]
  else if command.actionType = RobotCommand.setLed then
    .object
      [("arguments", .object [("color", .string command.color)]), ("name", .string "set_led")]
  else .object [("arguments", .object []), ("name", .string "unsupported")]

def publishStatus (state detail : String) : ControllerOutput :=
  .status (json.dump (.object
    ((if detail = "" then [] else [("detail", .string detail)]) ++
      [("state", .string state), ("transport", .string k.backend)])))

def publishAck (command : EncodedHardwareCommand) (source : String) : ControllerOutput :=
  .ack
    { action := command.actionName
      backend := k.backend
      sequence := command.sequence.toUInt64
      status := RobotActionAck.statusAccepted
      detail := "source=" ++ source }

def sendStop (source : String) (reading : ControllerReading) :
    HardwareController × List ControllerOutput :=
  let (protocol, stop) := k.protocol.encodeStop
  let k := { k with protocol := protocol, watchdog := .disarm }
  match reading.sendError with
  | some error =>
    ({ k with watchdog := .arm 100 reading.now },
      [.send stop.frame, k.publishStatus json "io_error" error])
  | none => (k, [.send stop.frame, k.publishAck stop source])

def execute (command : RobotCommand) (reading : ControllerReading) :
    HardwareController × List ControllerOutput :=
  let source := if command.source = "" then "typed_command" else command.source
  if command.actionType = RobotCommand.stop then k.sendStop json source reading
  else
    let (protocol, encoded) := k.protocol.encode json (json.dump (toProtocolCommand command))
    let k := { k with protocol := protocol }
    if !encoded.valid then (k, [k.publishStatus json "rejected" encoded.error])
    else match reading.sendError with
    | some error => (k, [.send encoded.frame, k.publishStatus json "io_error" error])
    | none =>
      let watchdog :=
        if encoded.actionName = "move" ∨ encoded.actionName = "turn" then
          .arm encoded.motionDuration reading.now
        else k.watchdog
      ({ k with watchdog := watchdog }, [.send encoded.frame, k.publishAck encoded source])

def step : ControllerEvent → HardwareController × List ControllerOutput
  | .command command reading => k.execute json command reading
  | .emergencyStop reading => k.sendStop json "emergency_stop" reading
  | .watchdogTimer expiredAt reading =>
    let (watchdog, expired) := k.watchdog.expired expiredAt
    let k := { k with watchdog := watchdog }
    if expired then k.sendStop json "duration_elapsed" reading else (k, [])

end HardwareController

end EmbodiedAgent
