import EmbodiedAgent.Library.Binary64

namespace EmbodiedAgent

open Library

/-- The robot command message, without its header: no modelled function reads the stamp. -/
structure RobotCommand where
  commandId : String := ""
  source : String := ""
  priority : Bool := false
  actionType : UInt8 := 0
  linearX : Double := 0
  angularZ : Double := 0
  durationS : Double := 0
  count : Int32 := 0
  color : String := ""
  mode : String := ""
  target : String := ""
  waypoints : List String := []
  numberOfLoops : UInt32 := 0
  deriving DecidableEq

namespace RobotCommand

def stop : UInt8 := 1
def move : UInt8 := 2
def turn : UInt8 := 3
def wave : UInt8 := 4
def setLed : UInt8 := 5
def setMode : UInt8 := 6
def navigateTo : UInt8 := 7
def followWaypoints : UInt8 := 8
def cancelNavigation : UInt8 := 9
def arc : UInt8 := 10

def isPriorityStop (command : RobotCommand) : Bool := command.priority && command.actionType = stop

end RobotCommand

namespace RobotCommandResult

def statusSucceeded : UInt8 := 1
def statusRejected : UInt8 := 2
def statusCanceled : UInt8 := 3
def statusTimedOut : UInt8 := 4

end RobotCommandResult

end EmbodiedAgent
