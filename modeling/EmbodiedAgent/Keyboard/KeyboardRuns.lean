import EmbodiedAgent.Keyboard.KeyLog
import EmbodiedAgent.Keyboard.KeyboardTeleopNode

namespace EmbodiedAgent

open Library History KeyboardInput

namespace KeyboardTeleopNode

structure Alike (node other : KeyboardTeleopNode) : Prop where
  keyboardInput : other.keyboardInput = node.keyboardInput
  authorityTracker : other.authorityTracker = node.authorityTracker
  requester : other.requester = node.requester
  running : other.running = node.running

theorem Alike.refl (node : KeyboardTeleopNode) : Alike node node := ⟨rfl, rfl, rfl, rfl⟩

theorem Alike.trans {node other third : KeyboardTeleopNode} (h : Alike node other)
    (h' : Alike other third) : Alike node third where
  keyboardInput := h'.keyboardInput.trans h.keyboardInput
  authorityTracker := h'.authorityTracker.trans h.authorityTracker
  requester := h'.requester.trans h.requester
  running := h'.running.trans h.running

end KeyboardTeleopNode

namespace KeyboardTurn

open KeyboardTeleopNode

variable {turn : KeyboardTurn} {service : ServiceMoment} {command : ControlAuthorityCommand}
  {reason : String} {isTakeRequest : Bool} {clock now : ℤ} {config : KeyboardInputConfig}
  {log : KeyLog} {tick : Tick}

theorem requestAuthority_alike (turn : KeyboardTurn) : Alike turn.node
    (turn.requestAuthority service command reason isTakeRequest).node := by
  rw [requestAuthority]
  split_ifs <;> exact ⟨rfl, rfl, rfl, rfl⟩

theorem maybeTakeKeyboard_alike (turn : KeyboardTurn) (clock : ℤ) (service : ServiceMoment) :
    Alike turn.node (turn.maybeTakeKeyboard clock service).node := by
  rw [maybeTakeKeyboard]
  split_ifs
  · exact .refl _
  · exact requestAuthority_alike _

theorem scheduleShutdown_alike (turn : KeyboardTurn) :
    Alike turn.node turn.scheduleShutdown.node := by
  rw [scheduleShutdown]
  split_ifs <;> exact ⟨rfl, rfl, rfl, rfl⟩

theorem handleIntent_alike (turn : KeyboardTurn) (intent : KeyboardIntent)
    (wasEstopLatched : Bool) :
    Alike turn.node (turn.handleIntent intent wasEstopLatched clock service).node := by
  have hzero : Alike turn.node turn.publishZero.node := .refl _
  cases intent with
  | motion => exact maybeTakeKeyboard_alike _ _ _
  | softStop | emergencyStop => exact hzero.trans (requestAuthority_alike _)
  | resetAndResume =>
    rw [handleIntent]
    split_ifs <;> exact hzero.trans (requestAuthority_alike _)
  | safeExit =>
    exact (hzero.trans (requestAuthority_alike _)).trans (scheduleShutdown_alike _)
  | blockedByEmergencyStop | deadmanStop | none => exact .refl _

theorem handleKey_alike (turn : KeyboardTurn) (now : ℤ) (read : KeyRead) : Alike { turn.node with
    keyboardInput := (turn.node.keyboardInput.applyKey read.key now).1 }
    (handleKey now turn read).node := by
  rw [handleKey]
  split_ifs
  · exact handleIntent_alike ⟨_, turn.sent⟩ _ _
  · exact .refl _

theorem foldl_handleKey_follows (hfollows : Follows config log turn.node.keyboardInput) (now : ℤ)
    (reads : List KeyRead) :
    Follows config (log ++ reads.map fun read ↦ (read.key, now))
        (reads.foldl (handleKey now) turn).node.keyboardInput ∧
      (reads.foldl (handleKey now) turn).node.requester = turn.node.requester ∧
      (reads.foldl (handleKey now) turn).node.running = turn.node.running := by
  induction reads generalizing turn log with
  | nil =>
    refine ⟨?_, rfl, rfl⟩
    rwa [List.map_nil, List.append_nil]
  | cons read reads ih =>
    have hkey := handleKey_alike turn now read
    have hfollows' : Follows config (log ++ [(read.key, now)])
        (handleKey now turn read).node.keyboardInput := by
      rw [hkey.keyboardInput]
      exact hfollows.applyKey read.key now
    obtain ⟨hlog, hrequester, hrunning⟩ := ih hfollows'
    refine ⟨?_, hrequester.trans hkey.requester, hrunning.trans hkey.running⟩
    rwa [List.append_assoc] at hlog

theorem checkDeadman_alike (turn : KeyboardTurn) (tick : Tick) : Alike { turn.node with
    keyboardInput := (turn.node.keyboardInput.updateDeadman tick.now).1 }
    (turn.checkDeadman tick).node := by
  rw [checkDeadman]
  split_ifs
  · exact requestAuthority_alike ⟨_, turn.sent⟩
  · exact .refl _

theorem takeForMotion_alike (turn : KeyboardTurn) (authority : CachedAuthority) (tick : Tick) :
    Alike turn.node (turn.takeForMotion authority tick).node := by
  rw [takeForMotion]
  split_ifs
  · exact maybeTakeKeyboard_alike _ _ _
  · exact .refl _

theorem drive_alike (turn : KeyboardTurn) (tick : Tick) :
    Alike (turn.checkDeadman tick).node (turn.drive tick).node := by
  rw [drive]
  split_ifs
  · exact .refl _
  · exact takeForMotion_alike _ _ _

theorem processInput_follows {node : KeyboardTeleopNode}
    (hfollows : Follows config log node.keyboardInput) (tick : Tick) :
    Follows config (log ++ tick.keys.map fun read ↦ (read.key, tick.now))
        (processInput ⟨node, []⟩ tick).node.keyboardInput ∧
      (processInput ⟨node, []⟩ tick).node.requester = node.requester ∧
      (processInput ⟨node, []⟩ tick).node.running = node.running := by
  have hread : Follows config log (KeyboardTurn.mk node []).node.keyboardInput := hfollows
  obtain ⟨hlog, hrequester, hrunning⟩ := foldl_handleKey_follows hread tick.now tick.keys
  rw [processInput]
  generalize tick.keys.foldl (handleKey tick.now) ⟨node, []⟩ = turn at *
  split_ifs
  · have halike : Alike turn.node (turn.requestAuthority tick.deadmanService .enterHold
        "keyboard_read_failed").publishZero.scheduleShutdown.node :=
      (requestAuthority_alike turn).trans (scheduleShutdown_alike (publishZero _))
    exact ⟨halike.keyboardInput ▸ hlog, halike.requester.trans hrequester,
      halike.running.trans hrunning⟩
  · have hchecked := checkDeadman_alike turn tick
    have hdriven := drive_alike turn tick
    refine ⟨?_, hdriven.requester.trans (hchecked.requester.trans hrequester),
      hdriven.running.trans (hchecked.running.trans hrunning)⟩
    rw [hdriven.keyboardInput, hchecked.keyboardInput]
    exact hlog.updateDeadman tick.now

theorem updateAuthorityCache_eq (node : KeyboardTeleopNode) (message : ControlAuthorityState)
    (clock : ℤ) : ∃ tracker, node.updateAuthorityCache message clock =
      { node with authorityTracker := tracker } := by
  rw [updateAuthorityCache]
  cases message.snapshot with
  | none => exact ⟨node.authorityTracker, rfl⟩
  | some snapshot => exact ⟨_, rfl⟩

theorem receive_eq (node : KeyboardTeleopNode) (response : Option AuthorityServiceResponse)
    (clock : ℤ) : ∃ tracker, node.receive response clock =
      { node with authorityTracker := tracker } := by
  cases response with
  | none => exact ⟨node.authorityTracker, rfl⟩
  | some response =>
    rw [receive]
    split_ifs
    · exact updateAuthorityCache_eq node response.state clock
    · exact ⟨node.authorityTracker, rfl⟩

theorem onResponse_alike (node : KeyboardTeleopNode) (request : AuthorityServiceRequest)
    (response : Option AuthorityServiceResponse) (clock takeClock : ℤ) (service : ServiceMoment) :
    (onResponse ⟨node, []⟩ request response clock takeClock service).node.keyboardInput =
        node.keyboardInput ∧
      (onResponse ⟨node, []⟩ request response clock takeClock service).node.requester =
        node.requester ∧
      (onResponse ⟨node, []⟩ request response clock takeClock service).node.running =
        node.running := by
  rw [onResponse]
  obtain ⟨tracker, htracker⟩ := receive_eq { node with
    takeRequestPending := node.takeRequestPending && !request.isTakeRequest
    releaseRequestPending := node.releaseRequestPending &&
      !decide (request.command = .releaseKeyboard) } response clock
  simp only [htracker]
  split_ifs
  · have halike := maybeTakeKeyboard_alike ⟨{ node with
      authorityTracker := tracker
      takeRequestPending := node.takeRequestPending && !request.isTakeRequest
      releaseRequestPending := node.releaseRequestPending &&
        !decide (request.command = .releaseKeyboard) }, []⟩ takeClock service
    exact ⟨halike.keyboardInput, halike.requester, halike.running⟩
  · exact ⟨rfl, rfl, rfl⟩

end KeyboardTurn

namespace KeyboardTeleopNode

open KeyboardTurn

/-- The keys that a history reads. -/
def pressed (h : List Event) : KeyLog :=
  h.flatMap fun
    | .tick tick => tick.keys.map fun read ↦ (read.key, tick.now)
    | _ => []

structure Typed (start : KeyboardTeleopNode) (log : KeyLog) (node : KeyboardTeleopNode) : Prop where
  requester : node.requester = start.requester
  follows : node.running = true → Follows start.keyboardInput.config log node.keyboardInput

variable {start node : KeyboardTeleopNode} {log : KeyLog}

theorem Typed.step (h : Typed start log node) (event : Event) :
    Typed start (log ++ pressed [event]) (step node event).1 := by
  rw [KeyboardTeleopNode.step]
  split_ifs with hrunning
  swap
  · exact ⟨h.requester, fun hruns ↦ absurd hruns hrunning⟩
  have hfollows := h.follows hrunning
  cases event with
  | tick tick =>
    have hlog : pressed [.tick tick] = tick.keys.map fun read ↦ (read.key, tick.now) := by
      simp [pressed]
    obtain ⟨hnext, hrequester, -⟩ := processInput_follows hfollows tick
    rw [hlog]
    exact ⟨hrequester.trans h.requester, fun _ ↦ hnext⟩
  | authorityState message clock =>
    obtain ⟨tracker, htracker⟩ := updateAuthorityCache_eq node message clock
    rw [turnOf, htracker]
    exact ⟨h.requester, fun _ ↦ (List.append_nil log).symm ▸ hfollows⟩
  | response index response clock takeClock service =>
    rw [turnOf]
    cases node.unanswered[index]? with
    | none => exact ⟨h.requester, fun _ ↦ (List.append_nil log).symm ▸ hfollows⟩
    | some request =>
      obtain ⟨hinput, hrequester, -⟩ := onResponse_alike
        { node with unanswered := node.unanswered.eraseIdx index } request response clock
        takeClock service
      refine ⟨hrequester.trans h.requester, fun _ ↦ ?_⟩
      rw [hinput]
      exact (List.append_nil log).symm ▸ hfollows
  | shutdownTimer =>
    rw [turnOf]
    split_ifs
    · exact ⟨h.requester, nofun⟩
    · exact ⟨h.requester, fun _ ↦ (List.append_nil log).symm ▸ hfollows⟩

theorem create_spec {config : KeyboardInputConfig} {authorityLease : ℤ} {requester : String}
    (hcreate : create config authorityLease requester = .ok start) :
    Typed start [] start ∧ start.unanswered = [] := by
  rw [create] at hcreate
  cases hinput : KeyboardInput.create config with
  | error message =>
    rw [hinput] at hcreate
    cases hcreate
  | ok input =>
    cases htracker : ControlAuthorityTracker.create authorityLease with
    | error message =>
      rw [hinput, htracker] at hcreate
      cases hcreate
    | ok tracker =>
      rw [hinput, htracker] at hcreate
      obtain rfl := Except.ok.inj hcreate
      exact ⟨⟨rfl, fun _ ↦ follows_create hinput⟩, rfl⟩

theorem run_typed (hstart : Typed start [] start) (h : List Event) :
    Typed start (pressed h) (run step start h) := by
  induction h using List.reverseRecOn with
  | nil => exact hstart
  | append_singleton h event ih =>
    rw [run_snoc, pressed, List.flatMap_append]
    exact ih.step event

def unitSpeed : Double := .finite 1 representable_one

def unitSpeeds : KeyboardInputConfig := ⟨unitSpeed, unitSpeed, unitSpeed, unitSpeed, 600⟩

theorem deck_lease_pos : (0 : ℤ) < 750 := by decide

def deck : KeyboardTeleopNode where
  keyboardInput :=
    { config := unitSpeeds
      valid := ⟨by decide, by decide, by decide, by decide⟩ }
  authorityTracker := { lease := 750, lease_pos := deck_lease_pos }
  requester := "keyboard"

theorem create_deck : create unitSpeeds 750 "keyboard" = .ok deck := by
  rfl

def tickAt (now : ℤ) (keys : List KeyRead) : Event :=
  .tick { now := now, keys := keys, clock := now, takeClock := now }

end KeyboardTeleopNode

end EmbodiedAgent
