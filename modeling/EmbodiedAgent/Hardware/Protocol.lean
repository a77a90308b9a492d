import EmbodiedAgent.Library.Binary64

namespace EmbodiedAgent

open Library

inductive Json
  | null
  | boolean (value : Bool)
  | integer (value : ℤ)
  | float (value : Double)
  | string (value : String)
  | array (elements : List Json)
  | object (fields : List (String × Json))

/-- What the code takes from the JSON library. -/
structure JsonLibrary where
  dump : Json → String
  parse : String → Except String Json
  noKey : String → Json → String
  typeError : Json → String

inductive HardwareOpcode
  | stop | move | turn | wave | setLed
  deriving DecidableEq

namespace HardwareOpcode

def code : HardwareOpcode → UInt8
  | .stop => 0x01
  | .move => 0x02
  | .turn => 0x03
  | .wave => 0x04
  | .setLed => 0x05

theorem code_injective {a b : HardwareOpcode} (h : a.code = b.code) : a = b := by
  revert h
  cases a <;> cases b <;> decide

end HardwareOpcode

structure EncodedHardwareCommand where
  valid : Bool := false
  error : String := ""
  actionName : String := ""
  sequence : UInt16 := 0
  motionDuration : ℕ := 0
  frame : List UInt8 := []

structure HardwareProtocol where
  nextSequence : UInt16 := 1

namespace JsonLibrary

variable (json : JsonLibrary)

/-- `at` on an object. -/
def field (j : Json) (key : String) : Except String Json :=
  match j with
  | .object fields =>
    match fields.find? fun field ↦ field.1 = key with
    | some field => .ok field.2
    | none => .error (json.noKey key j)
  | _ => .error (json.typeError j)

def getString : Json → Except String String
  | .string value => .ok value
  | j => .error (json.typeError j)

def getDouble : Json → Except String Double
  | .float value => .ok value
  | .integer value => .ok (.ofRat value)
  | j => .error (json.typeError j)

def getInt : Json → Except String Int32
  | .integer value => .ok (.ofInt value)
  | .float (.finite value _) => .ok (.ofInt (value.num.tdiv value.den))
  | .float _ => .ok Int32.minValue
  | .boolean value => .ok (if value then 1 else 0)
  | j => .error (json.typeError j)

end JsonLibrary

namespace HardwareProtocol

variable (p : HardwareProtocol)

def appendU16 (value : UInt16) : List UInt8 :=
  [(value &&& 0xff).toUInt8, ((value >>> 8) &&& 0xff).toUInt8]

def appendI16 (value : Int16) : List UInt8 := appendU16 value.toUInt16

def invalidCommand (error : String) : EncodedHardwareCommand := { error := error }

def crcBit (crc : UInt16) : UInt16 :=
  if crc &&& 0x8000 ≠ 0 then (crc <<< 1) ^^^ 0x1021 else crc <<< 1

def crcByte (crc : UInt16) (byte : UInt8) : UInt16 :=
  (List.range 8).foldl (fun crc _ ↦ crcBit crc) (crc ^^^ (byte.toUInt16 <<< 8))

def crc16 (data : List UInt8) : UInt16 := data.foldl crcByte 0xffff

def frame (opcode : HardwareOpcode) (actionName : String)
    (payload : List UInt8) (duration : ℕ) : HardwareProtocol × EncodedHardwareCommand :=
  let sequence := p.nextSequence
  let frame := [0xaa, 0x55, 0x01, opcode.code, UInt8.ofNat payload.length] ++ appendU16 sequence ++
    payload
  ({ p with nextSequence := p.nextSequence + 1 },
    { valid := true
      actionName := actionName
      sequence := sequence
      motionDuration := duration
      frame := frame ++ appendU16 (crc16 frame) })

def encodeStop : HardwareProtocol × EncodedHardwareCommand :=
  p.frame .stop "stop" [] 0

def thousandths (value : Double) : ℤ := (value.mul (.ofRat 1000)).lround

def motionPayload (quantity duration : Double) : List UInt8 :=
  appendI16 (.ofInt (thousandths quantity)) ++ appendU16 (.ofInt (thousandths duration))

def encodeMotion (opcode : HardwareOpcode) (name : String)
    (quantity duration : Double) : HardwareProtocol × EncodedHardwareCommand :=
  p.frame opcode name (motionPayload quantity duration)
    (UInt16.ofInt (thousandths duration)).toNat

def ledColors : List (String × List UInt8) :=
  [("off", [0, 0, 0]), ("red", [255, 0, 0]), ("green", [0, 255, 0]), ("blue", [0, 0, 255]),
    ("yellow", [255, 255, 0]), ("white", [255, 255, 255])]

def encodeParsed (json : JsonLibrary) (p : HardwareProtocol) (command : Json) :
    Except String (HardwareProtocol × EncodedHardwareCommand) := do
  let name ← json.getString (← json.field command "name")
  let arguments ← json.field command "arguments"
  if name = "stop" then return p.encodeStop
  else if name = "move" then
    let velocity ← json.getDouble (← json.field arguments "linear_x")
    let duration ← json.getDouble (← json.field arguments "duration_s")
    return p.encodeMotion .move name velocity duration
  else if name = "turn" then
    let angular ← json.getDouble (← json.field arguments "angular_z")
    let duration ← json.getDouble (← json.field arguments "duration_s")
    return p.encodeMotion .turn name angular duration
  else if name = "wave" then
    let count ← json.getInt (← json.field arguments "count")
    return p.frame .wave name [UInt8.ofInt count.toInt] 0
  else if name = "set_led" then
    let color ← json.getString (← json.field arguments "color")
    match ledColors.find? fun entry ↦ entry.1 = color with
    | none => return (p, invalidCommand ("unsupported LED color: " ++ color))
    | some entry => return p.frame .setLed name entry.2 0
  else return (p, invalidCommand ("unsupported hardware action: " ++ name))

def encode (json : JsonLibrary) (p : HardwareProtocol) (serialized : String) :
    HardwareProtocol × EncodedHardwareCommand :=
  match json.parse serialized >>= p.encodeParsed json with
  | .ok result => result
  | .error what => (p, invalidCommand ("invalid hardware command: " ++ what))

end HardwareProtocol

end EmbodiedAgent
