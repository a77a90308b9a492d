import EmbodiedAgent.Keyboard.KeyboardRuns

namespace EmbodiedAgent

open Library History KeyboardInput

def ServiceMoment.fails (service : ServiceMoment) : Bool := service.ready && !service.sends

namespace KeyboardTeleopNode

def Releasing (node : KeyboardTeleopNode) : Prop :=
  ∃ request ∈ node.unanswered, request.command = .releaseKeyboard

def Guarded (node : KeyboardTeleopNode) : Prop :=
  node.Releasing → node.releaseRequestPending = true

theorem authoritySnapshot_seen {node : KeyboardTeleopNode} {clock : ℤ}
    (h : (node.authoritySnapshot clock).seen = true) :
    ∃ snapshot, node.authorityTracker.state = some snapshot ∧
      node.authorityTracker.fresh clock = true ∧
      (node.authoritySnapshot clock).authority = snapshot.authority ∧
      (node.authoritySnapshot clock).activeSource = snapshot.activeSource := by
  rw [authoritySnapshot, ControlAuthorityTracker.snapshot] at h ⊢
  cases hstate : node.authorityTracker.state with
  | none =>
    rw [hstate] at h
    cases h
  | some snapshot =>
    rw [hstate] at h
    dsimp only at h ⊢
    split_ifs at h ⊢ with hfresh
    exact ⟨snapshot, rfl, by simpa using hfresh, rfl, rfl⟩

end KeyboardTeleopNode

namespace KeyboardTurn

open KeyboardTeleopNode

variable {turn : KeyboardTurn} {service : ServiceMoment} {command : ControlAuthorityCommand}
  {reason : String} {isTakeRequest : Bool} {clock : ℤ} {quiet : Prop}

def OnlyStops (sent : List KeyboardOutput) : Prop :=
  ∀ velocity, .velocity velocity ∈ sent → velocity = ⟨0, 0⟩

structure Calm (quiet : Prop) (turn : KeyboardTurn) : Prop where
  guarded : turn.node.Guarded
  spared : quiet ∨ ¬ turn.node.Releasing
  stops : OnlyStops turn.sent

theorem onlyStops_request {sent : List KeyboardOutput} (h : OnlyStops sent)
    (request : AuthorityServiceRequest) : OnlyStops (sent ++ [.request request]) := by
  intro velocity hmem
  rcases List.mem_append.mp hmem with hmem | hmem
  · exact h velocity hmem
  · simp at hmem

theorem requestAuthority_stops (h : OnlyStops turn.sent) :
    OnlyStops (turn.requestAuthority service command reason isTakeRequest).sent := by
  rw [requestAuthority]
  split_ifs
  · exact h
  · exact onlyStops_request h _
  · exact h

theorem Calm.requestAuthority (h : Calm quiet turn) (hservice : quiet → service.fails = false)
    (hcommand : command ≠ .releaseKeyboard) :
    Calm quiet (turn.requestAuthority service command reason isTakeRequest) := by
  have hstops : OnlyStops (turn.requestAuthority service command reason isTakeRequest).sent :=
    requestAuthority_stops h.stops
  rw [KeyboardTurn.requestAuthority] at hstops ⊢
  split_ifs at hstops ⊢ with hready hsends
  · exact h
  · have hiff : Releasing { turn.node with unanswered :=
        turn.node.unanswered ++ [⟨command, turn.node.requester, reason, isTakeRequest⟩] } ↔
        turn.node.Releasing := by
      simp [Releasing, or_and_right, exists_or, hcommand]
    refine ⟨fun hreleasing ↦ ?_, h.spared.imp_right (mt hiff.mp), hstops⟩
    simp [h.guarded (hiff.mp hreleasing)]
  · have hnot : ¬ quiet := by
      intro hquiet
      have hfails := hservice hquiet
      simp_all [ServiceMoment.fails]
    have hspared := h.spared.resolve_left hnot
    exact ⟨fun hreleasing ↦ absurd hreleasing hspared, .inr hspared, hstops⟩

theorem Calm.publishZero (h : Calm quiet turn) : Calm quiet turn.publishZero := by
  refine ⟨h.guarded, h.spared, fun velocity hmem ↦ ?_⟩
  rcases List.mem_append.mp hmem with hmem | hmem
  · exact h.stops velocity hmem
  · simpa using hmem

theorem Calm.maybeTakeKeyboard (h : Calm quiet turn) (hservice : quiet → service.fails = false) :
    Calm quiet (turn.maybeTakeKeyboard clock service) := by
  rw [KeyboardTurn.maybeTakeKeyboard]
  split_ifs
  · exact h
  · exact h.requestAuthority hservice (by decide)

theorem Calm.scheduleShutdown (h : Calm quiet turn) : Calm quiet turn.scheduleShutdown := by
  rw [KeyboardTurn.scheduleShutdown]
  split_ifs
  · exact h
  · exact Calm.publishZero ⟨h.guarded, h.spared, h.stops⟩

theorem Calm.handleIntent (h : Calm quiet turn) (hservice : quiet → service.fails = false)
    (intent : KeyboardIntent) (wasEstopLatched : Bool) :
    Calm quiet (turn.handleIntent intent wasEstopLatched clock service) := by
  cases intent with
  | motion => exact h.maybeTakeKeyboard hservice
  | softStop => exact h.publishZero.requestAuthority hservice (by decide)
  | emergencyStop => exact h.publishZero.requestAuthority hservice (by decide)
  | resetAndResume =>
    rw [KeyboardTurn.handleIntent]
    split_ifs
    · exact h.publishZero.requestAuthority hservice (by decide)
    · exact h.publishZero.requestAuthority hservice (by decide)
  | safeExit => exact (h.publishZero.requestAuthority hservice (by decide)).scheduleShutdown
  | blockedByEmergencyStop | deadmanStop | none => exact h

variable {config : KeyboardInputConfig} {log : KeyLog} {now : ℤ} {tick : Tick}

theorem Calm.handleKey (h : Calm quiet turn) {read : KeyRead}
    (hservice : quiet → read.service.fails = false) : Calm quiet (handleKey now turn read) := by
  have hnext : Calm quiet { turn with node := { turn.node with
      keyboardInput := (turn.node.keyboardInput.applyKey read.key now).1 } } :=
    ⟨h.guarded, h.spared, h.stops⟩
  rw [KeyboardTurn.handleKey]
  split_ifs
  · exact hnext.handleIntent hservice _ _
  · exact hnext

theorem foldl_handleKey_calm (h : Calm quiet turn) (now : ℤ) {reads : List KeyRead}
    (hservice : ∀ read ∈ reads, quiet → read.service.fails = false) :
    Calm quiet (reads.foldl (KeyboardTurn.handleKey now) turn) := by
  induction reads generalizing turn with
  | nil => exact h
  | cons read reads ih =>
    obtain ⟨hread, hreads⟩ := List.forall_mem_cons.mp hservice
    exact ih (h.handleKey hread) hreads

theorem Calm.release (h : Calm quiet turn) (hservice : quiet → service.fails = false) :
    (turn.requestAuthority service .releaseKeyboard reason).node.Guarded := by
  rw [KeyboardTurn.requestAuthority]
  split_ifs with hready hsends
  · exact h.guarded
  · exact fun _ ↦ by simp
  · have hnot : ¬ quiet := by
      intro hquiet
      have hfails := hservice hquiet
      simp_all [ServiceMoment.fails]
    exact fun hreleasing ↦ absurd hreleasing (h.spared.resolve_left hnot)

def Owned (node : KeyboardTeleopNode) (clock : ℤ) : Prop :=
  ∃ snapshot, node.authorityTracker.state = some snapshot ∧
    node.authorityTracker.fresh clock = true ∧ snapshot.authority = .keyboard ∧
    snapshot.activeSource = node.requester

structure Drives (config : KeyboardInputConfig) (log : KeyLog) (tick : Tick)
    (after : KeyboardTurn) : Prop where
  guarded : after.node.Guarded
  published : ∀ velocity, .velocity velocity ∈ after.sent → velocity ≠ ⟨0, 0⟩ →
    Owned after.node tick.clock ∧ after.node.releaseRequestPending = false ∧
    velocity = ⟨after.node.keyboardInput.linearX, after.node.keyboardInput.angularZ⟩ ∧
    ∃ time, MovedAt log time ∧ tick.now - time < nanoseconds config.deadmanTimeout

theorem updateDeadman_stops {input : KeyboardInput}
    (h : (input.updateDeadman now).2.intent = .deadmanStop) :
    (input.updateDeadman now).1.motionActive = false := by
  rw [updateDeadman] at h ⊢
  split_ifs at h ⊢
  · rfl
  · cases h

theorem Calm.checkDeadman (h : Calm quiet turn)
    (hservice : quiet → tick.deadmanService.fails = false) :
    (turn.checkDeadman tick).node.Guarded ∧ OnlyStops (turn.checkDeadman tick).sent ∧
      ((turn.checkDeadman tick).node.keyboardInput.motionActive = true →
        Calm quiet (turn.checkDeadman tick)) := by
  have hnext : Calm quiet { turn with node := { turn.node with
      keyboardInput := (turn.node.keyboardInput.updateDeadman tick.now).1 } } :=
    ⟨h.guarded, h.spared, h.stops⟩
  have hinput := (checkDeadman_alike turn tick).keyboardInput
  rw [KeyboardTurn.checkDeadman] at hinput ⊢
  split_ifs at hinput ⊢ with hintent
  · refine ⟨hnext.release hservice, requestAuthority_stops hnext.stops, fun hmoving ↦ ?_⟩
    rw [hinput] at hmoving
    cases (updateDeadman_stops hintent).symm.trans hmoving
  · exact ⟨hnext.guarded, hnext.stops, fun _ ↦ hnext⟩

theorem takeForMotion_stops (authority : CachedAuthority) (hguarded : turn.node.Guarded)
    (hstops : OnlyStops turn.sent)
    (hmoves : turn.node.keyboardInput.motionActive = true → Calm quiet turn)
    (hservice : quiet → tick.takeService.fails = false) :
    (turn.takeForMotion authority tick).node.Guarded ∧
      OnlyStops (turn.takeForMotion authority tick).sent := by
  rw [takeForMotion]
  split_ifs with hmoving
  · have hcalm : Calm quiet (turn.maybeTakeKeyboard tick.takeClock tick.takeService) :=
      (hmoves hmoving.1).maybeTakeKeyboard hservice
    exact ⟨hcalm.guarded, hcalm.stops⟩
  · exact ⟨hguarded, hstops⟩

theorem publishCurrent_spec {authority : CachedAuthority} (hstops : OnlyStops turn.sent)
    {velocity : KeyboardVelocity}
    (hmem : .velocity velocity ∈ (turn.publishCurrent authority).sent) (hne : velocity ≠ ⟨0, 0⟩) :
    authority.seen = true ∧ authority.authority = .keyboard ∧
      authority.activeSource = turn.node.requester ∧ turn.node.releaseRequestPending = false ∧
      velocity = ⟨turn.node.keyboardInput.linearX, turn.node.keyboardInput.angularZ⟩ := by
  rcases List.mem_append.mp hmem with hmem | hmem
  · exact absurd (hstops velocity hmem) hne
  · rw [List.mem_singleton, KeyboardOutput.velocity.injEq] at hmem
    split_ifs at hmem with hauthorized
    · simp only [Bool.and_eq_true, decide_eq_true_eq, Bool.not_eq_true'] at hauthorized
      obtain ⟨⟨⟨hseen, hkeyboard⟩, hsource⟩, hpending⟩ := hauthorized
      exact ⟨hseen, hkeyboard, hsource, hpending, hmem⟩
    · exact absurd hmem hne

theorem Calm.drive (h : Calm quiet turn) (hfollows : Follows config log turn.node.keyboardInput)
    (hdeadman : quiet → tick.deadmanService.fails = false)
    (htake : quiet → tick.takeService.fails = false) :
    Drives config log tick (turn.drive tick) := by
  obtain ⟨hguarded, hstops, hmoves⟩ := h.checkDeadman hdeadman
  have hchecked : (turn.checkDeadman tick).node.keyboardInput =
      (turn.node.keyboardInput.updateDeadman tick.now).1 :=
    (checkDeadman_alike turn tick).keyboardInput
  rw [KeyboardTurn.drive]
  split_ifs with hshutdown
  · exact ⟨hguarded, fun velocity hmem hne ↦ absurd (hstops velocity hmem) hne⟩
  set authority := (turn.checkDeadman tick).node.authoritySnapshot tick.clock with hauthority
  obtain ⟨htaken, htakenStops⟩ := takeForMotion_stops authority hguarded hstops hmoves htake
  have halike := takeForMotion_alike (turn.checkDeadman tick) authority tick
  refine ⟨htaken, fun velocity hmem hne ↦ ?_⟩
  obtain ⟨hseen, hkeyboard, hsource, hpending, rfl⟩ := publishCurrent_spec htakenStops hmem hne
  rw [hauthority] at hseen
  obtain ⟨snapshot, hstate, hfresh, hauthorized, hactive⟩ := authoritySnapshot_seen hseen
  refine ⟨⟨snapshot, ?_, ?_, hauthorized ▸ hkeyboard, hactive ▸ hsource⟩, hpending, rfl, ?_⟩
  · exact (congrArg ControlAuthorityTracker.state halike.authorityTracker).trans hstate
  · exact (congrArg (ControlAuthorityTracker.fresh · tick.clock)
      halike.authorityTracker).trans hfresh
  · refine recent_of_updateDeadman hfollows (Bool.eq_true_of_not_eq_false fun hidle ↦ hne ?_)
    obtain ⟨hlinear, hangular⟩ := (hfollows.updateDeadman tick.now).idle hidle
    rw [halike.keyboardInput, hchecked, hlinear, hangular]

/-- No send of the tick fails. -/
structure Tick.Quiet (tick : Tick) : Prop where
  keys : ∀ read ∈ tick.keys, read.service.fails = false
  deadmanService : tick.deadmanService.fails = false
  takeService : tick.takeService.fails = false

theorem processInput_drives {node : KeyboardTeleopNode} (hguarded : node.Guarded)
    (hquiet : node.Releasing → tick.Quiet) (hfollows : Follows config log node.keyboardInput) :
    Drives config (log ++ tick.keys.map fun read ↦ (read.key, tick.now)) tick
      (processInput ⟨node, []⟩ tick) := by
  have hstart : Calm tick.Quiet ⟨node, []⟩ := by
    refine ⟨hguarded, ?_, fun velocity hmem ↦ absurd hmem List.not_mem_nil⟩
    by_cases hreleasing : node.Releasing
    · exact .inl (hquiet hreleasing)
    · exact .inr hreleasing
  have hcalm := foldl_handleKey_calm hstart tick.now fun read hmem h ↦ h.keys read hmem
  have hinput : Follows config log (KeyboardTurn.mk node []).node.keyboardInput := hfollows
  have hread := (foldl_handleKey_follows hinput tick.now tick.keys).1
  rw [processInput]
  generalize tick.keys.foldl (KeyboardTurn.handleKey tick.now) ⟨node, []⟩ = turn at hcalm hread ⊢
  split_ifs with hfails
  · have hheld : Calm tick.Quiet
        (turn.requestAuthority tick.deadmanService .enterHold "keyboard_read_failed") :=
      hcalm.requestAuthority (fun h ↦ h.deadmanService) (by decide)
    have hend := hheld.publishZero.scheduleShutdown
    exact ⟨hend.guarded, fun velocity hmem hne ↦ absurd (hend.stops velocity hmem) hne⟩
  · exact hcalm.drive hread (fun h ↦ h.deadmanService) fun h ↦ h.takeService

theorem onResponse_guarded {request : AuthorityServiceRequest} (clock takeClock : ℤ)
    (service : ServiceMoment) (response : Option AuthorityServiceResponse)
    {node : KeyboardTeleopNode} (hguarded : node.Guarded)
    (honly : request.command = .releaseKeyboard → ¬ node.Releasing) :
    (onResponse ⟨node, []⟩ request response clock takeClock service).node.Guarded ∧
      OnlyStops (onResponse ⟨node, []⟩ request response clock takeClock service).sent := by
  have hnone : OnlyStops [] := fun velocity hmem ↦ absurd hmem List.not_mem_nil
  rw [onResponse]
  obtain ⟨tracker, htracker⟩ := receive_eq { node with
    takeRequestPending := node.takeRequestPending && !request.isTakeRequest
    releaseRequestPending := node.releaseRequestPending &&
      !decide (request.command = .releaseKeyboard) } response clock
  simp only [htracker]
  split_ifs with hrelease
  · have hnot : ¬ node.Releasing := honly (by simpa using hrelease.1)
    have hcalm : Calm False ⟨{ node with
        authorityTracker := tracker
        takeRequestPending := node.takeRequestPending && !request.isTakeRequest
        releaseRequestPending := node.releaseRequestPending &&
          !decide (request.command = .releaseKeyboard) }, []⟩ :=
      ⟨fun hreleasing ↦ absurd hreleasing hnot, .inr hnot, hnone⟩
    exact ⟨(hcalm.maybeTakeKeyboard False.elim).guarded, (hcalm.maybeTakeKeyboard False.elim).stops⟩
  · refine ⟨fun hreleasing ↦ ?_, hnone⟩
    by_cases hcommand : request.command = .releaseKeyboard
    · exact absurd hreleasing (honly hcommand)
    · have hflag := hguarded hreleasing
      simp [hflag, hcommand]

end KeyboardTurn

namespace KeyboardTeleopNode

open KeyboardTurn

def Regular (node : KeyboardTeleopNode) : Event → Prop
  | .tick tick => node.Releasing → tick.Quiet
  | .response index _ _ _ _ => ∀ request, node.unanswered[index]? = some request →
    request.command = .releaseKeyboard →
    ¬ { node with unanswered := node.unanswered.eraseIdx index }.Releasing
  | .authorityState _ _ | .shutdownTimer => True

/-- What a velocity other than zero stands on when it is published. -/
structure Justified (start node : KeyboardTeleopNode) (log : KeyLog) (tick : Tick)
    (velocity : KeyboardVelocity) : Prop where
  owned : ∃ snapshot, node.authorityTracker.state = some snapshot ∧
    node.authorityTracker.fresh tick.clock = true ∧ snapshot.authority = .keyboard ∧
    snapshot.activeSource = start.requester
  released : ¬ node.Releasing
  moved : ∃ time, MovedAt log time ∧
    tick.now - time < nanoseconds start.keyboardInput.config.deadmanTimeout
  limited : velocity.linearX.abs ≤ start.keyboardInput.config.maxLinearSpeed ∧
    velocity.angularZ.abs ≤ start.keyboardInput.config.maxAngularSpeed

def HonoursDeadMan (start : KeyboardTeleopNode) (h : List Event) : Prop :=
  ∀ pre event post, h = pre ++ event :: post → ∀ velocity,
    .velocity velocity ∈ (step (run step start pre) event).2 → velocity ≠ ⟨0, 0⟩ →
    ∃ tick, event = .tick tick ∧
      Justified start (run step start (pre ++ [event])) (pressed (pre ++ [event])) tick velocity

variable {start node : KeyboardTeleopNode} {log : KeyLog} {event : Event}

theorem step_guarded (hguarded : node.Guarded) (hnode : Typed start log node)
    (hregular : Regular node event) : (step node event).1.Guarded ∧
      ∀ velocity, .velocity velocity ∈ (step node event).2 → velocity ≠ ⟨0, 0⟩ →
        ∃ tick, event = .tick tick ∧
          Justified start (step node event).1 (log ++ pressed [event]) tick velocity := by
  have hnext := hnode.step event
  rw [step] at hnext ⊢
  split_ifs at hnext ⊢ with hrunning
  swap
  · exact ⟨hguarded, fun velocity hmem ↦ absurd hmem List.not_mem_nil⟩
  have hfollows := hnode.follows hrunning
  cases event with
  | tick tick =>
    have hlog : pressed [.tick tick] = tick.keys.map fun read ↦ (read.key, tick.now) := by
      simp [pressed]
    rw [hlog] at hnext ⊢
    have hdrives := processInput_drives hguarded hregular hfollows
    have hruns := (processInput_follows hfollows tick).2.2.trans hrunning
    refine ⟨hdrives.guarded, fun velocity hmem hne ↦ ?_⟩
    obtain ⟨⟨snapshot, hstate, hfresh, hkeyboard, hsource⟩, hpending, rfl, hmoved⟩ :=
      hdrives.published velocity hmem hne
    refine ⟨tick, rfl, ⟨snapshot, hstate, hfresh, hkeyboard, hsource.trans hnext.requester⟩, ?_,
      hmoved, (hnext.follows hruns).limited⟩
    intro hreleasing
    cases (hdrives.guarded hreleasing).symm.trans hpending
  | authorityState message clock =>
    obtain ⟨tracker, htracker⟩ := updateAuthorityCache_eq node message clock
    rw [turnOf, htracker]
    exact ⟨hguarded, fun velocity hmem ↦ absurd hmem List.not_mem_nil⟩
  | response index response clock takeClock service =>
    rw [turnOf]
    cases hrequest : node.unanswered[index]? with
    | none => exact ⟨hguarded, fun velocity hmem ↦ absurd hmem List.not_mem_nil⟩
    | some request =>
      have hrest : ({ node with
          unanswered := node.unanswered.eraseIdx index } : KeyboardTeleopNode).Guarded := by
        rintro ⟨other, hother, hrelease⟩
        exact hguarded ⟨other, List.mem_of_mem_eraseIdx hother, hrelease⟩
      obtain ⟨hguarded', hstops⟩ := onResponse_guarded clock takeClock service response hrest
        (hregular request hrequest)
      exact ⟨hguarded', fun velocity hmem hne ↦ absurd (hstops velocity hmem) hne⟩
  | shutdownTimer =>
    rw [turnOf]
    split_ifs with hscheduled
    · refine ⟨hguarded, fun velocity hmem hne ↦ ?_⟩
      exact absurd (by simpa [KeyboardTurn.publishZero, publishVelocity] using hmem) hne
    · exact ⟨hguarded, fun velocity hmem ↦ absurd hmem List.not_mem_nil⟩

theorem run_guarded (hguarded : start.Guarded) (hstart : Typed start [] start) {h : List Event}
    (hregular : Along step Regular start h) : (run step start h).Guarded := by
  induction h using List.reverseRecOn with
  | nil => exact hguarded
  | append_singleton h event ih =>
    obtain ⟨hbefore, hevent⟩ := (along_snoc step).mp hregular
    rw [run_snoc]
    exact (step_guarded (ih hbefore) (run_typed hstart h) hevent).1

/-- In every run of regular steps. -/
theorem honours_deadMan {config : KeyboardInputConfig} {authorityLease : ℤ} {requester : String}
    (hcreate : create config authorityLease requester = .ok start) {h : List Event}
    (hregular : Along step Regular start h) : HonoursDeadMan start h := by
  obtain ⟨hstart, hunanswered⟩ := create_spec hcreate
  have hguarded : start.Guarded := by
    rintro ⟨request, hrequest, -⟩
    rw [hunanswered] at hrequest
    cases hrequest
  rintro pre event post rfl velocity hmem hne
  obtain ⟨hbefore, hevent, -⟩ := (along_append step).mp hregular
  obtain ⟨-, hpublished⟩ := step_guarded (run_guarded hguarded hstart hbefore)
    (run_typed hstart pre) hevent
  obtain ⟨tick, rfl, hjustified⟩ := hpublished velocity hmem hne
  refine ⟨tick, rfl, ?_⟩
  rw [run_snoc]
  rwa [pressed, List.flatMap_append]

def granted : ControlAuthorityState :=
  { authority := 2, managerEpoch := 1, transitionSequence := 1, activeSource := "keyboard" }

/-- The authority, a step forward, and the dead-man's release. -/
def releasing : List Event :=
  [.authorityState granted 0, tickAt 1 [⟨'w', 1, {}⟩], tickAt 700000000 []]

/-- A Space whose request cannot be sent, and the next key. -/
def slip : Event := tickAt 710000000 [⟨' ', 710000000, ⟨true, false⟩⟩, ⟨'w', 710000000, {}⟩]

theorem releasing_honours :
    ∃ start, create unitSpeeds 750 "keyboard" = .ok start ∧ HonoursDeadMan start releasing := by
  have hregular : Along step Regular deck releasing :=
    ⟨trivial, fun _ ↦ ⟨by decide, rfl, rfl⟩, fun _ ↦ ⟨by decide, rfl, rfl⟩, trivial⟩
  exact ⟨deck, create_deck, honours_deadMan create_deck hregular⟩

theorem slip_dishonours : ∃ start, create unitSpeeds 750 "keyboard" = .ok start ∧
      ¬ HonoursDeadMan start (releasing ++ [slip]) := by
  refine ⟨deck, create_deck, fun h ↦ ?_⟩
  obtain ⟨tick, -, hjustified⟩ := h releasing slip [] rfl ⟨unitSpeed, 0⟩ (by decide +kernel)
    (by decide)
  refine hjustified.released ?_
  have hunanswered : ((run step deck (releasing ++ [slip])).unanswered.any fun request ↦
      request.command = .releaseKeyboard) = true := by decide +kernel
  simpa [Releasing] using hunanswered

end KeyboardTeleopNode

end EmbodiedAgent
