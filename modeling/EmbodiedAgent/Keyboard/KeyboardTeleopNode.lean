import EmbodiedAgent.Action.Guard
import EmbodiedAgent.Keyboard.KeyboardInput

namespace EmbodiedAgent

open Library History

/-- A request as its callback remembers it. -/
structure AuthorityServiceRequest where
  command : ControlAuthorityCommand
  requester : String
  reason : String
  isTakeRequest : Bool := false
  deriving DecidableEq

structure AuthorityServiceResponse where
  accepted : Bool
  state : ControlAuthorityState

structure KeyboardVelocity where
  linearX : Double
  angularZ : Double
  deriving DecidableEq

inductive KeyboardOutput
  | velocity (velocity : KeyboardVelocity)
  | request (request : AuthorityServiceRequest)
  deriving DecidableEq

structure ServiceMoment where
  ready : Bool := true
  sends : Bool := true

def ServiceMoment.serves (service : ServiceMoment) : Bool := service.ready && service.sends

structure CachedAuthority where
  authority : ControlAuthority := .hold
  managerEpoch : UInt64 := 0
  transitionSequence : UInt64 := 0
  activeSource : String := ""
  seen : Bool := false

structure KeyboardTeleopNode where
  keyboardInput : KeyboardInput
  authorityTracker : ControlAuthorityTracker
  requester : String
  takeRequestPending : Bool := false
  releaseRequestPending : Bool := false
  shutdownScheduled : Bool := false
  running : Bool := true
  unanswered : List AuthorityServiceRequest := []

namespace KeyboardTeleopNode

variable (node : KeyboardTeleopNode)

def create (config : KeyboardInputConfig) (authorityLease : ℤ) (requester : String) :
    Except String KeyboardTeleopNode := do
  let keyboardInput ← KeyboardInput.create config
  let authorityTracker ← ControlAuthorityTracker.create authorityLease
  return ⟨keyboardInput, authorityTracker, requester, false, false, false, true, []⟩

def authoritySnapshot (clock : ℤ) : CachedAuthority :=
  match node.authorityTracker.snapshot with
  | none => {}
  | some snapshot =>
    if !node.authorityTracker.fresh clock then {}
    else
      { authority := snapshot.authority
        managerEpoch := snapshot.managerEpoch
        transitionSequence := snapshot.transitionSequence
        activeSource := snapshot.activeSource
        seen := true }

def updateAuthorityCache (message : ControlAuthorityState) (clock : ℤ) : KeyboardTeleopNode :=
  match message.snapshot with
  | none => node
  | some snapshot =>
    { node with authorityTracker := (node.authorityTracker.update snapshot clock).1 }

def receive (response : Option AuthorityServiceResponse) (clock : ℤ) : KeyboardTeleopNode :=
  match response with
  | none => node
  | some response =>
    if response.accepted then node.updateAuthorityCache response.state clock else node

end KeyboardTeleopNode

/-- A callback in progress: the node and what it has sent. -/
structure KeyboardTurn where
  node : KeyboardTeleopNode
  sent : List KeyboardOutput := []

namespace KeyboardTurn

variable (turn : KeyboardTurn)

def publishVelocity (linearX angularZ : Double) : KeyboardTurn :=
  { turn with sent := turn.sent ++ [.velocity ⟨linearX, angularZ⟩] }

def publishZero : KeyboardTurn := turn.publishVelocity 0 0

def requestAuthority (service : ServiceMoment) (command : ControlAuthorityCommand)
    (reason : String) (isTakeRequest : Bool := false) : KeyboardTurn :=
  if !service.ready then turn
  else
    let pending : KeyboardTeleopNode :=
      { turn.node with
        takeRequestPending := turn.node.takeRequestPending || isTakeRequest
        releaseRequestPending :=
          turn.node.releaseRequestPending || decide (command = .releaseKeyboard) }
    let request : AuthorityServiceRequest :=
      ⟨command, turn.node.requester, reason, isTakeRequest⟩
    if service.sends then
      { node := { pending with unanswered := turn.node.unanswered ++ [request] }
        sent := turn.sent ++ [.request request] }
    else
      { turn with
        node := { pending with takeRequestPending := false, releaseRequestPending := false } }

def maybeTakeKeyboard (clock : ℤ) (service : ServiceMoment) : KeyboardTurn :=
  let authority := turn.node.authoritySnapshot clock
  if (authority.authority = .keyboard ∧ authority.activeSource = turn.node.requester) ∨
      turn.node.takeRequestPending ∨ turn.node.releaseRequestPending then turn
  else turn.requestAuthority service .takeKeyboard "keyboard_motion_input" true

def scheduleShutdown : KeyboardTurn :=
  if turn.node.shutdownScheduled then turn
  else { turn with node := { turn.node with shutdownScheduled := true } }.publishZero

def handleIntent (intent : KeyboardIntent) (wasEstopLatched : Bool) (clock : ℤ)
    (service : ServiceMoment) : KeyboardTurn :=
  match intent with
  | .motion => turn.maybeTakeKeyboard clock service
  | .softStop => turn.publishZero.requestAuthority service .enterHold "keyboard_soft_stop"
  | .emergencyStop =>
    turn.publishZero.requestAuthority service .emergencyStop "keyboard_emergency_stop"
  | .resetAndResume =>
    if wasEstopLatched ∨ (turn.node.authoritySnapshot clock).authority = .estop then
      turn.publishZero.requestAuthority service .resetEmergencyStop
        "keyboard_reset_emergency_stop"
    else turn.publishZero.requestAuthority service .resumeAutonomy "keyboard_resume_autonomy"
  | .safeExit =>
    (turn.publishZero.requestAuthority service .enterHold "keyboard_safe_exit").scheduleShutdown
  | .blockedByEmergencyStop | .deadmanStop | .none => turn

/-- A key as it is read, with what its handling finds on the clock and at the service. -/
structure KeyRead where
  key : Char
  clock : ℤ
  service : ServiceMoment

def handleKey (now : ℤ) (turn : KeyboardTurn) (read : KeyRead) : KeyboardTurn :=
  let wasEstopLatched := turn.node.keyboardInput.emergencyStopLatched
  let applied := turn.node.keyboardInput.applyKey read.key now
  let next := { turn with node := { turn.node with keyboardInput := applied.1 } }
  if applied.2.recognized then
    next.handleIntent applied.2.intent wasEstopLatched read.clock read.service
  else next

structure Tick where
  now : ℤ
  keys : List KeyRead := []
  readFails : Bool := false
  deadmanService : ServiceMoment := {}
  clock : ℤ
  takeClock : ℤ
  takeService : ServiceMoment := {}

def checkDeadman (tick : Tick) : KeyboardTurn :=
  let deadman := turn.node.keyboardInput.updateDeadman tick.now
  let next := { turn with node := { turn.node with keyboardInput := deadman.1 } }
  if deadman.2.intent = .deadmanStop then
    next.requestAuthority tick.deadmanService .releaseKeyboard "keyboard_deadman_timeout"
  else next

def takeForMotion (authority : CachedAuthority) (tick : Tick) : KeyboardTurn :=
  if turn.node.keyboardInput.motionActive ∧
      (authority.authority ≠ .keyboard ∨ authority.activeSource ≠ turn.node.requester) then
    turn.maybeTakeKeyboard tick.takeClock tick.takeService
  else turn

def publishCurrent (authority : CachedAuthority) : KeyboardTurn :=
  let current := turn.node.keyboardInput.snapshot
  let keyboardAuthorized := authority.seen && decide (authority.authority = .keyboard) &&
    decide (authority.activeSource = turn.node.requester) && !turn.node.releaseRequestPending
  turn.publishVelocity (if keyboardAuthorized then current.linearX else 0)
    (if keyboardAuthorized then current.angularZ else 0)

def drive (tick : Tick) : KeyboardTurn :=
  let checked := turn.checkDeadman tick
  if checked.node.shutdownScheduled then checked
  else
    let authority := checked.node.authoritySnapshot tick.clock
    (checked.takeForMotion authority tick).publishCurrent authority

def processInput (tick : Tick) : KeyboardTurn :=
  let read := tick.keys.foldl (handleKey tick.now) turn
  if tick.readFails then
    (read.requestAuthority tick.deadmanService .enterHold
      "keyboard_read_failed").publishZero.scheduleShutdown
  else read.drive tick

def onResponse (request : AuthorityServiceRequest) (response : Option AuthorityServiceResponse)
    (clock takeClock : ℤ) (service : ServiceMoment) : KeyboardTurn :=
  let isReleaseRequest := decide (request.command = .releaseKeyboard)
  let cleared : KeyboardTeleopNode :=
    { turn.node with
      takeRequestPending := turn.node.takeRequestPending && !request.isTakeRequest
      releaseRequestPending := turn.node.releaseRequestPending && !isReleaseRequest }
  let next := { turn with node := cleared.receive response clock }
  if isReleaseRequest ∧ next.node.keyboardInput.motionActive then
    next.maybeTakeKeyboard takeClock service
  else next

end KeyboardTurn

namespace KeyboardTeleopNode

open KeyboardTurn

inductive Event
  | tick (tick : Tick)
  | authorityState (message : ControlAuthorityState) (clock : ℤ)
  | response (index : ℕ) (response : Option AuthorityServiceResponse) (clock takeClock : ℤ)
    (service : ServiceMoment)
  | shutdownTimer

def turnOf (node : KeyboardTeleopNode) : Event → KeyboardTurn
  | .tick tick => KeyboardTurn.processInput ⟨node, []⟩ tick
  | .authorityState message clock => ⟨node.updateAuthorityCache message clock, []⟩
  | .response index response clock takeClock service =>
    match node.unanswered[index]? with
    | none => ⟨node, []⟩
    | some request =>
      KeyboardTurn.onResponse ⟨{ node with unanswered := node.unanswered.eraseIdx index }, []⟩
        request response clock takeClock service
  | .shutdownTimer =>
    if node.shutdownScheduled then KeyboardTurn.publishZero ⟨{ node with running := false }, []⟩
    else ⟨node, []⟩

def step (node : KeyboardTeleopNode) (event : Event) : KeyboardTeleopNode × List KeyboardOutput :=
  if node.running then ((node.turnOf event).node, (node.turnOf event).sent) else (node, [])

end KeyboardTeleopNode

end EmbodiedAgent
