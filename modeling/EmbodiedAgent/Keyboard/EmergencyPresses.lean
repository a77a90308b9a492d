import EmbodiedAgent.Keyboard.KeyboardRuns

namespace EmbodiedAgent

open Library History KeyboardInput

namespace KeyboardTurn

variable {turn : KeyboardTurn} {service : ServiceMoment} {clock : ℤ}

def emergencyRequests (sent : List KeyboardOutput) : List AuthorityServiceRequest :=
  sent.filterMap fun
    | .request request => if request.command = .emergencyStop then some request else none
    | .velocity _ => none

def emergencyRequest (requester : String) : AuthorityServiceRequest :=
  ⟨.emergencyStop, requester, "keyboard_emergency_stop", false⟩

@[simp] theorem emergencyRequests_publishVelocity (linearX angularZ : Double) :
    emergencyRequests (turn.publishVelocity linearX angularZ).sent =
      emergencyRequests turn.sent := by
  simp [publishVelocity, emergencyRequests]

@[simp] theorem emergencyRequests_publishZero :
    emergencyRequests turn.publishZero.sent = emergencyRequests turn.sent :=
  emergencyRequests_publishVelocity 0 0

theorem emergencyRequests_requestAuthority (command : ControlAuthorityCommand) (reason : String)
    (isTakeRequest : Bool) :
    emergencyRequests (turn.requestAuthority service command reason isTakeRequest).sent =
      emergencyRequests turn.sent ++ if service.serves = true ∧ command = .emergencyStop then
          [⟨command, turn.node.requester, reason, isTakeRequest⟩] else [] := by
  rw [requestAuthority]
  split_ifs with hready hsends hserves <;>
    simp_all [ServiceMoment.serves, emergencyRequests]

theorem emergencyRequests_other {command : ControlAuthorityCommand} (h : command ≠ .emergencyStop)
    (reason : String) (isTakeRequest : Bool) :
    emergencyRequests (turn.requestAuthority service command reason isTakeRequest).sent =
      emergencyRequests turn.sent := by
  rw [emergencyRequests_requestAuthority, if_neg fun hboth ↦ h hboth.2, List.append_nil]

@[simp] theorem emergencyRequests_maybeTakeKeyboard :
    emergencyRequests (turn.maybeTakeKeyboard clock service).sent =
      emergencyRequests turn.sent := by
  rw [maybeTakeKeyboard]
  split_ifs
  · rfl
  · exact emergencyRequests_other (by decide) _ _

@[simp] theorem emergencyRequests_scheduleShutdown :
    emergencyRequests turn.scheduleShutdown.sent = emergencyRequests turn.sent := by
  rw [scheduleShutdown]
  split_ifs
  · rfl
  · exact emergencyRequests_publishZero

theorem emergencyRequests_handleIntent (intent : KeyboardIntent) (wasEstopLatched : Bool) :
    emergencyRequests (turn.handleIntent intent wasEstopLatched clock service).sent =
      emergencyRequests turn.sent ++ if intent = .emergencyStop ∧ service.serves = true then
          [emergencyRequest turn.node.requester] else [] := by
  cases intent with
  | emergencyStop =>
    rw [handleIntent, emergencyRequests_requestAuthority, emergencyRequests_publishZero]
    simp [emergencyRequest, publishZero, publishVelocity, and_comm]
  | motion => simp [handleIntent]
  | softStop => simp [handleIntent, emergencyRequests_other]
  | resetAndResume =>
    rw [handleIntent]
    split_ifs <;> simp_all [emergencyRequests_other]
  | safeExit => simp [handleIntent, emergencyRequests_other]
  | blockedByEmergencyStop | deadmanStop | none => simp [handleIntent]

theorem applyKey_emergencyStop (input : KeyboardInput) (key : Char) (now : ℤ) :
    ((input.applyKey key now).2.recognized = true ∧
      (input.applyKey key now).2.intent = .emergencyStop) ↔ key.toLower = 'x' := by
  rw [applyKey]
  split_ifs <;> simp_all [makeUpdate]

def KeyRead.stops (read : KeyRead) : Bool := read.key.toLower = 'x' && read.service.serves

theorem emergencyRequests_handleKey (now : ℤ) (turn : KeyboardTurn) (read : KeyRead) :
    emergencyRequests (handleKey now turn read).sent = emergencyRequests turn.sent ++
      if read.stops then [emergencyRequest turn.node.requester] else [] := by
  have hkey := applyKey_emergencyStop turn.node.keyboardInput read.key now
  rw [handleKey]
  split_ifs with hrecognized hstops hstops
  · rw [KeyRead.stops, Bool.and_eq_true, decide_eq_true_eq, ← hkey] at hstops
    rw [emergencyRequests_handleIntent, if_pos ⟨hstops.1.2, hstops.2⟩]
  · rw [KeyRead.stops, Bool.and_eq_true, decide_eq_true_eq, ← hkey] at hstops
    rw [emergencyRequests_handleIntent, if_neg fun h ↦ hstops ⟨⟨hrecognized, h.1⟩, h.2⟩]
  · rw [KeyRead.stops, Bool.and_eq_true, decide_eq_true_eq, ← hkey] at hstops
    exact absurd hstops.1.1 hrecognized
  · rw [List.append_nil]

theorem emergencyRequests_foldl (now : ℤ) (reads : List KeyRead) (turn : KeyboardTurn) :
    emergencyRequests (reads.foldl (handleKey now) turn).sent = emergencyRequests turn.sent ++
      (reads.filter KeyRead.stops).map fun _ ↦ emergencyRequest turn.node.requester := by
  induction reads generalizing turn with
  | nil => simp
  | cons read reads ih =>
    have hrequester : (handleKey now turn read).node.requester = turn.node.requester :=
      (handleKey_alike turn now read).requester
    rw [List.foldl_cons, ih, emergencyRequests_handleKey, hrequester, List.append_assoc]
    cases hstops : read.stops <;> simp [hstops]

theorem emergencyRequests_drive (turn : KeyboardTurn) (tick : Tick) :
    emergencyRequests (turn.drive tick).sent = emergencyRequests turn.sent := by
  have hchecked : emergencyRequests (turn.checkDeadman tick).sent =
      emergencyRequests turn.sent := by
    rw [checkDeadman]
    split_ifs
    · exact emergencyRequests_other (by decide) _ _
    · rfl
  have htaken : ∀ authority, emergencyRequests
      ((turn.checkDeadman tick).takeForMotion authority tick).sent =
        emergencyRequests (turn.checkDeadman tick).sent := by
    intro authority
    rw [takeForMotion]
    split_ifs
    · exact emergencyRequests_maybeTakeKeyboard
    · rfl
  rw [drive]
  split_ifs
  · exact hchecked
  · exact (emergencyRequests_publishVelocity _ _).trans ((htaken _).trans hchecked)

theorem emergencyRequests_processInput (node : KeyboardTeleopNode) (tick : Tick) :
    emergencyRequests (processInput ⟨node, []⟩ tick).sent =
      (tick.keys.filter KeyRead.stops).map fun _ ↦ emergencyRequest node.requester := by
  have hkeys := emergencyRequests_foldl tick.now tick.keys ⟨node, []⟩
  rw [processInput]
  split_ifs
  · rw [emergencyRequests_scheduleShutdown, emergencyRequests_publishZero,
      emergencyRequests_other (by decide), hkeys]
    rfl
  · rw [emergencyRequests_drive, hkeys]
    rfl

theorem emergencyRequests_onResponse (node : KeyboardTeleopNode)
    (request : AuthorityServiceRequest) (response : Option AuthorityServiceResponse)
    (clock takeClock : ℤ) (service : ServiceMoment) :
    emergencyRequests (onResponse ⟨node, []⟩ request response clock takeClock service).sent =
      [] := by
  rw [onResponse]
  split_ifs
  · exact emergencyRequests_maybeTakeKeyboard
  · rfl

end KeyboardTurn

namespace KeyboardTeleopNode

open KeyboardTurn

variable {start : KeyboardTeleopNode}

/-- The emergency stops of an event that the service takes. -/
def servedPresses (node : KeyboardTeleopNode) : Event → List AuthorityServiceRequest
  | .tick tick =>
    if node.running then
      (tick.keys.filter KeyRead.stops).map fun _ ↦ emergencyRequest node.requester
    else []
  | _ => []

theorem emergencyRequests_step (node : KeyboardTeleopNode) (event : Event) :
    emergencyRequests (step node event).2 = servedPresses node event := by
  rw [step]
  cases hrunning : node.running with
  | false => cases event <;> simp [servedPresses, hrunning, emergencyRequests]
  | true =>
    rw [if_pos rfl]
    cases event with
    | tick tick =>
      rw [servedPresses, hrunning, if_pos rfl, turnOf]
      exact emergencyRequests_processInput node tick
    | authorityState message clock => rfl
    | response index response clock takeClock service =>
      rw [turnOf]
      cases node.unanswered[index]? with
      | none => rfl
      | some request => exact emergencyRequests_onResponse _ _ _ _ _ _
    | shutdownTimer =>
      rw [turnOf]
      split_ifs
      · exact emergencyRequests_publishZero
      · rfl

theorem run_stopped {node : KeyboardTeleopNode} (h : node.running = false) (events : List Event) :
    (run step node events).running = false :=
  run_preserves step (I := fun node ↦ node.running = false)
    (fun node event hstopped ↦ by simp [step, hstopped]) h events

/-- The service takes whatever a tick has to ask. -/
def Serves (tick : Tick) : Prop :=
  (∀ read ∈ tick.keys, read.service.serves = true) ∧ tick.deadmanService.serves = true ∧
    tick.takeService.serves = true

def handed (node : KeyboardTeleopNode) (h : List Event) : List AuthorityServiceRequest :=
  collect step (fun node event ↦ emergencyRequests (step node event).2) node h

def KeepsStops (start : KeyboardTeleopNode) (h : List Event) : Prop :=
  ∀ pre press rest post front last before read after,
    h = pre ++ .tick press :: rest ++ post → .tick press :: rest = front ++ [.tick last] →
    (run step start (pre ++ front)).running = true → press.keys = before ++ read :: after →
    read.key.toLower = 'x' → (∀ k ∈ after, k.key.toLower ≠ 'r') →
    (∀ k ∈ pressed rest, k.1.toLower ≠ 'r') → Serves last →
    (emergencyRequests (before.foldl (handleKey press.now) ⟨run step start pre, []⟩).sent).length <
      (handed (run step start pre) (.tick press :: rest)).length

def PressesServed (h : List Event) : Prop :=
  ∀ tick, .tick tick ∈ h → ∀ read ∈ tick.keys, read.key.toLower = 'x' → read.service.serves = true

theorem emergencyRequests_tick {node : KeyboardTeleopNode} (hrunning : node.running = true)
    (tick : Tick) : emergencyRequests (step node (.tick tick)).2 =
      (tick.keys.filter KeyRead.stops).map fun _ ↦ emergencyRequest node.requester := by
  rw [emergencyRequests_step, servedPresses, if_pos hrunning]

/-- Where each press of X is served no emergency stop is lost. -/
theorem stops_kept {config : KeyboardInputConfig} {authorityLease : ℤ} {requester : String}
    (hcreate : create config authorityLease requester = .ok start) (h : List Event)
    (hserved : PressesServed h) : KeepsStops start h ∧ ((run step start h).running = true →
      ((run step start h).keyboardInput.emergencyStopLatched = true ↔ Stopped (pressed h))) := by
  refine ⟨?_, fun hrunning ↦ ((run_typed (create_spec hcreate).1 h).follows hrunning).latched⟩
  intro pre press rest post front last before read after hsplit hlast hlive hkeys hx _ _ _
  have hrunning : (run step start pre).running = true := by
    by_contra hstopped
    have hdown := run_stopped (eq_false_of_ne_true hstopped) front
    rw [← run_append, hlive] at hdown
    cases hdown
  have hstops : read.stops = true := by
    have hserves := hserved press (by simp [hsplit]) read (by simp [hkeys]) hx
    simp [KeyRead.stops, hx, hserves]
  have hbefore : emergencyRequests
      (before.foldl (handleKey press.now) ⟨run step start pre, []⟩).sent =
        (before.filter KeyRead.stops).map fun _ ↦ emergencyRequest (run step start pre).requester :=
    emergencyRequests_foldl press.now before ⟨run step start pre, []⟩
  rw [handed, collect_cons, emergencyRequests_tick hrunning, hbefore, hkeys, List.filter_append,
    List.filter_cons_of_pos hstops]
  simp only [List.map_append, List.map_cons, List.length_append, List.length_cons]
  omega

def firmPress : List Event :=
  [tickAt 1 [⟨'R', 1, {}⟩, ⟨'X', 1, {}⟩, ⟨'w', 1, ⟨false, true⟩⟩], tickAt 2 []]

theorem firmPress_kept : ∃ start, create unitSpeeds 750 "keyboard" = .ok start ∧
    KeepsStops start firmPress ∧ Stopped (pressed firmPress) ∧
      (handed start firmPress).length = 1 := by
  have hserved : PressesServed firmPress := by
    intro tick hmem
    rcases List.mem_pair.mp hmem with heq | heq
    · cases heq
      decide +kernel
    · cases heq
      decide
  obtain ⟨hkept, hlatch⟩ := stops_kept create_deck firmPress hserved
  exact ⟨deck, create_deck, hkept, (hlatch (by decide +kernel)).mp (by decide +kernel),
    by decide +kernel⟩

/-- The service is not ready at X, and ready at the next tick. -/
theorem press_lost : ∃ start, create unitSpeeds 750 "keyboard" = .ok start ∧
    ¬ KeepsStops start [tickAt 1 [⟨'x', 1, ⟨false, true⟩⟩], tickAt 100000000 []] := by
  refine ⟨deck, create_deck, fun h ↦ ?_⟩
  have hlost := h [] _ [tickAt 100000000 []] [] [tickAt 1 [⟨'x', 1, ⟨false, true⟩⟩]] _ [] _ [] rfl
    rfl (by decide +kernel) rfl (by decide) (by simp) (by simp [pressed, tickAt])
    ⟨by simp, rfl, rfl⟩
  revert hlost
  decide +kernel

end KeyboardTeleopNode

end EmbodiedAgent
