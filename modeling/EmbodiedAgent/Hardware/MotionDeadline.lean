import EmbodiedAgent.Hardware.MotionFrames
import EmbodiedAgent.Library.Fallible
import EmbodiedAgent.Library.History

namespace EmbodiedAgent.HardwareController

open Library Library.History HardwareProtocol

/-- A frame handed to the transport at some time, and whether it went out. -/
structure Transmission where
  frame : List UInt8
  sent : Bool
  time : ℤ

namespace Transmission

variable (x : Transmission)

def carries (opcode : HardwareOpcode) : Prop :=
  opcodeOf x.frame = some opcode.code

def StartsMotion : Prop := x.sent = true ∧ (x.carries .move ∨ x.carries .turn)

def EndsMotion : Prop := x.sent = true ∧ x.carries .stop

def FailsToStop : Prop := x.sent = false ∧ x.carries .stop

def duration : ℕ :=
  match payloadOf x.frame with
  | [_, _, low, high] => low.toNat + 256 * high.toNat
  | _ => 0

end Transmission

open Transmission

def readingOf : ControllerEvent → ControllerReading
  | .command _ reading | .emergencyStop reading | .watchdogTimer _ reading => reading

/-- What a callback hands to the transport. -/
def transmissions (json : JsonLibrary) (k : HardwareController) (e : ControllerEvent) :
    List Transmission :=
  (framesOf (k.step json e).2).map fun frame ↦
    ⟨frame, (readingOf e).sendError.isNone, (readingOf e).now⟩

def MotionGuarded (log : List Transmission) (w : MotionWatchdog) : Prop :=
  ∀ pre m post, log = pre ++ m :: post → m.StartsMotion →
    (∀ x ∈ post, ¬ x.StartsMotion ∧ ¬ x.EndsMotion) →
    ∃ deadline, w.deadline = some deadline ∧
      (deadline ≤ m.time + nanoseconds m.duration ∨
        ∃ x ∈ post, x.FailsToStop ∧ deadline ≤ x.time + nanoseconds 100)

section Encoder

variable (json : JsonLibrary) (p : HardwareProtocol)

inductive Encoded : HardwareProtocol × EncodedHardwareCommand → Prop
  | refused (error : String) : Encoded (p, invalidCommand error)
  | motion (opcode : HardwareOpcode) (name : String) (quantity duration : Double)
      (named : opcode = .move ∧ name = "move" ∨ opcode = .turn ∧ name = "turn") :
      Encoded (p.encodeMotion opcode name quantity duration)
  | other (opcode : HardwareOpcode) (name : String) (payload : List UInt8)
      (still : opcode ≠ .move ∧ opcode ≠ .turn) (named : name ≠ "move" ∧ name ≠ "turn") :
      Encoded (p.frame opcode name payload 0)

theorem encodeParsed_cases {command : Json} {r : HardwareProtocol × EncodedHardwareCommand}
    (h : p.encodeParsed json command = .ok r) : Encoded p r := by
  obtain ⟨_, -, h⟩ := exists_ok_of_bind h
  obtain ⟨name, -, h⟩ := exists_ok_of_bind h
  obtain ⟨arguments, -, h⟩ := exists_ok_of_bind h
  split_ifs at h with hstop hmove hturn hwave hled
  · cases h
    exact .other .stop "stop" [] (by decide) (by decide)
  · obtain ⟨_, -, h⟩ := exists_ok_of_bind h
    obtain ⟨velocity, -, h⟩ := exists_ok_of_bind h
    obtain ⟨_, -, h⟩ := exists_ok_of_bind h
    obtain ⟨duration, -, h⟩ := exists_ok_of_bind h
    cases h
    exact .motion .move name velocity duration (.inl ⟨rfl, hmove⟩)
  · obtain ⟨_, -, h⟩ := exists_ok_of_bind h
    obtain ⟨angular, -, h⟩ := exists_ok_of_bind h
    obtain ⟨_, -, h⟩ := exists_ok_of_bind h
    obtain ⟨duration, -, h⟩ := exists_ok_of_bind h
    cases h
    exact .motion .turn name angular duration (.inr ⟨rfl, hturn⟩)
  · obtain ⟨_, -, h⟩ := exists_ok_of_bind h
    obtain ⟨count, -, h⟩ := exists_ok_of_bind h
    cases h
    exact .other .wave name _ (by decide) ⟨hmove, hturn⟩
  · obtain ⟨_, -, h⟩ := exists_ok_of_bind h
    obtain ⟨color, -, h⟩ := exists_ok_of_bind h
    split at h
    · cases h
      exact .refused _
    · cases h
      exact .other .setLed name _ (by decide) ⟨hmove, hturn⟩
  · cases h
    exact .refused _

theorem encode_cases (serialized : String) : Encoded p (p.encode json serialized) := by
  rw [encode]
  split
  · rename_i result hresult
    obtain ⟨command, -, h⟩ := exists_ok_of_bind hresult
    exact encodeParsed_cases json p h
  · exact .refused _

end Encoder

section Step

variable {json : JsonLibrary} {k : HardwareController} {w w' : MotionWatchdog}
  {log l : List Transmission}

theorem not_stop_of_startsMotion {x : Transmission} (h : x.StartsMotion) : ¬ x.carries .stop := by
  intro hstop
  rcases h.2 with hopcode | hopcode
  · exact absurd (Option.some.inj (hopcode.symm.trans hstop)) (by decide)
  · exact absurd (Option.some.inj (hopcode.symm.trans hstop)) (by decide)

theorem duration_encodeMotion (p : HardwareProtocol) (opcode : HardwareOpcode) (name : String)
    (quantity duration : Double) (sent : Bool) (time : ℤ) :
    (Transmission.mk (p.encodeMotion opcode name quantity duration).2.frame sent time).duration =
      (p.encodeMotion opcode name quantity duration).2.motionDuration := by
  have hpayload : payloadOf (p.encodeMotion opcode name quantity duration).2.frame =
      motionPayload quantity duration :=
    payloadOf_frame p opcode name _ (by simp [motionPayload, appendI16, appendU16])
  rw [Transmission.duration, hpayload]
  generalize hd : UInt16.ofInt (thousandths duration) = d
  have hmask (n : ℕ) : n &&& 255 = n % 256 := Nat.and_two_pow_sub_one_eq_mod n 8
  have hd' := d.toNat_lt
  simp [motionPayload, appendI16, appendU16, encodeMotion, HardwareProtocol.frame, hd, hmask,
    Nat.shiftRight_eq_div_pow]
  omega

inductive Transmits (w : MotionWatchdog) : List Transmission → MotionWatchdog → Prop
  | silent : Transmits w [] w
  | motion (x : Transmission) (starts : x.StartsMotion) :
      Transmits w [x] { deadline := some (x.time + nanoseconds x.duration) }
  | unarmed (x : Transmission) (still : ¬ x.StartsMotion) : Transmits w [x] w
  | stopped (x : Transmission) (ends : x.EndsMotion) (w' : MotionWatchdog) : Transmits w [x] w'
  | unstopped (x : Transmission) (fails : x.FailsToStop) :
      Transmits w [x] { deadline := some (x.time + nanoseconds 100) }

theorem sendStop_transmits (source : String) (reading : ControllerReading) :
    Transmits w ((framesOf (k.sendStop json source reading).2).map fun frame ↦
        ⟨frame, reading.sendError.isNone, reading.now⟩)
      (k.sendStop json source reading).1.watchdog := by
  unfold sendStop
  cases herror : reading.sendError with
  | none => exact .stopped ⟨k.protocol.encodeStop.2.frame, true, reading.now⟩ ⟨rfl, rfl⟩ _
  | some error => exact .unstopped ⟨k.protocol.encodeStop.2.frame, false, reading.now⟩ ⟨rfl, rfl⟩

theorem execute_transmits (command : RobotCommand) (reading : ControllerReading) :
    Transmits k.watchdog ((framesOf (k.execute json command reading).2).map fun frame ↦
        ⟨frame, reading.sendError.isNone, reading.now⟩)
      (k.execute json command reading).1.watchdog := by
  unfold execute
  dsimp only
  by_cases hstop : command.actionType = RobotCommand.stop
  · rw [if_pos hstop]
    exact sendStop_transmits _ reading
  rw [if_neg hstop]
  have hencoded := encode_cases json k.protocol (json.dump (toProtocolCommand command))
  generalize k.protocol.encode json (json.dump (toProtocolCommand command)) = out at hencoded ⊢
  cases hencoded with
  | refused error => exact .silent
  | motion opcode name quantity duration named =>
    cases herror : reading.sendError with
    | some error => exact .unarmed _ fun h ↦ absurd h.1 (by simp)
    | none =>
      have harmed : name = "move" ∨ name = "turn" := named.imp And.right And.right
      have hcarries (o : HardwareOpcode) (ho : opcode = o) : carries
          ⟨(k.protocol.encodeMotion opcode name quantity duration).2.frame, true,
            reading.now⟩ o := by
        rw [← ho]
        rfl
      have hmotion := Transmits.motion (w := k.watchdog) _
        ⟨rfl, named.imp (fun h ↦ hcarries _ h.1) fun h ↦ hcarries _ h.1⟩
      rw [duration_encodeMotion] at hmotion
      simpa [encodeMotion, HardwareProtocol.frame, framesOf, publishAck, MotionWatchdog.arm, harmed]
        using hmotion
  | other opcode name payload still named =>
    have hunarmed (sent : Bool) :
      ¬ (Transmission.mk (k.protocol.frame opcode name payload 0).2.frame
        sent reading.now).StartsMotion := by
      rintro ⟨-, hopcode | hopcode⟩
      · exact still.1 (HardwareOpcode.code_injective (Option.some.inj hopcode))
      · exact still.2 (HardwareOpcode.code_injective (Option.some.inj hopcode))
    cases herror : reading.sendError with
    | some error => exact .unarmed _ (hunarmed false)
    | none =>
      have h := Transmits.unarmed (w := k.watchdog) _ (hunarmed true)
      simpa [HardwareProtocol.frame, framesOf, publishAck, named] using h

theorem step_transmits (e : ControllerEvent) :
    Transmits k.watchdog (transmissions json k e) (k.step json e).1.watchdog := by
  cases e with
  | command command reading => exact execute_transmits command reading
  | emergencyStop reading => exact sendStop_transmits _ reading
  | watchdogTimer expiredAt reading =>
    unfold transmissions step MotionWatchdog.expired
    cases hdeadline : k.watchdog.deadline with
    | none => exact .silent
    | some deadline =>
      by_cases hnow : expiredAt < deadline
      · simp only [hnow, if_true]
        exact .silent
      · simp only [hnow, if_false]
        exact sendStop_transmits _ reading

theorem guarded_step (h : MotionGuarded log w) (ht : Transmits w l w') :
    MotionGuarded (log ++ l) w' := by
  intro pre m post hsplit hm hpost
  cases ht with
  | silent => exact h pre m post (by simpa using hsplit) hm hpost
  | motion x starts =>
    rcases snoc_eq_append_cons hsplit with ⟨rfl, -, rfl⟩ | ⟨post', rfl, -⟩
    · exact ⟨_, rfl, .inl le_rfl⟩
    · exact absurd starts (hpost x (by simp)).1
  | unarmed x still =>
    rcases snoc_eq_append_cons hsplit with ⟨-, -, rfl⟩ | ⟨post', rfl, hlog⟩
    · exact absurd hm still
    · obtain ⟨deadline, hw, hd⟩ := h pre m post' hlog hm fun y hy ↦ hpost y (by simp [hy])
      refine ⟨deadline, hw, hd.imp_right ?_⟩
      rintro ⟨y, hy, hfails, hle⟩
      exact ⟨y, by simp [hy], hfails, hle⟩
  | stopped x ends =>
    rcases snoc_eq_append_cons hsplit with ⟨-, -, rfl⟩ | ⟨post', rfl, -⟩
    · exact absurd ends.2 (not_stop_of_startsMotion hm)
    · exact absurd ends (hpost x (by simp)).2
  | unstopped x fails =>
    rcases snoc_eq_append_cons hsplit with ⟨-, -, rfl⟩ | ⟨post', rfl, -⟩
    · exact absurd fails.2 (not_stop_of_startsMotion hm)
    · exact ⟨_, rfl, .inr ⟨x, by simp, fails, le_rfl⟩⟩

theorem watchdog_stops {deadline expiredAt : ℤ} (hw : k.watchdog.deadline = some deadline)
    (hdue : deadline ≤ expiredAt) (reading : ControllerReading) :
    ∃ x, transmissions json k (.watchdogTimer expiredAt reading) = [x] ∧ x.carries .stop := by
  have hnow : ¬ expiredAt < deadline := not_lt.mpr hdue
  unfold transmissions step MotionWatchdog.expired
  simp only [hw, hnow, if_false]
  unfold sendStop
  cases herror : reading.sendError with
  | none => exact ⟨_, rfl, rfl⟩
  | some error => exact ⟨_, rfl, rfl⟩

end Step

theorem moving_robot_watched (json : JsonLibrary) (backend : String) (h : List ControllerEvent) :
    MotionGuarded (collect (step json) (transmissions json) { backend := backend } h)
        (run (step json) { backend := backend } h).watchdog ∧
      ∀ deadline, (run (step json) { backend := backend } h).watchdog.deadline = some deadline →
        ∀ expiredAt, deadline ≤ expiredAt → ∀ reading, ∃ x,
          transmissions json (run (step json) { backend := backend } h)
            (.watchdogTimer expiredAt reading) = [x] ∧ x.carries .stop := by
  refine ⟨?_, fun deadline hw expiredAt hdue reading ↦ watchdog_stops hw hdue reading⟩
  induction h using List.reverseRecOn with
  | nil =>
    intro pre m post hsplit
    simp at hsplit
  | append_singleton h e ih =>
    rw [collect_snoc, run_snoc]
    exact guarded_step ih (step_transmits e)

end EmbodiedAgent.HardwareController
