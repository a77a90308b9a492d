import EmbodiedAgent.Hardware.Controller

namespace EmbodiedAgent.HardwareController

open Library HardwareProtocol ActionValidator

def opcodeOf (frame : List UInt8) : Option UInt8 := frame[3]?

def payloadOf (frame : List UInt8) : List UInt8 :=
  (frame.drop 7).take ((frame[4]?.getD 0).toNat)

def framesOf (outputs : List ControllerOutput) : List (List UInt8) :=
  outputs.filterMap fun output ↦
    match output with
    | .send frame => some frame
    | _ => none

/-- The motion of a command in thousandths. -/
structure Motion where
  linearX : ℤ
  angularZ : ℤ
  durationS : ℤ
  deriving DecidableEq

def motionOf (command : RobotCommand) : Motion :=
  ⟨thousandths command.linearX, thousandths command.angularZ, thousandths command.durationS⟩

/-- The validator turned some candidate into the motion `command`. -/
def Approved (command : RobotCommand) : Prop :=
  ∃ candidate commandId source, (validate candidate commandId source).valid = true ∧
    (validate candidate commandId source).command = command ∧ IsMotion command

/-- The JSON library reads back what it wrote for the command. -/
def RoundTrips (json : JsonLibrary) (command : RobotCommand) : Prop :=
  json.parse (json.dump (toProtocolCommand command)) = .ok (toProtocolCommand command)

/-- The narrowing conversions keep the numbers of the command. -/
structure Unwrapped (command : RobotCommand) : Prop where
  linear : (Int16.ofInt (thousandths command.linearX)).toInt = thousandths command.linearX
  angular : (Int16.ofInt (thousandths command.angularZ)).toInt = thousandths command.angularZ
  duration : ((UInt16.ofInt (thousandths command.durationS)).toNat : ℤ) =
    thousandths command.durationS

def Distinguished (json : JsonLibrary) (c c' : RobotCommand) : Prop :=
  ∀ k k' reading reading', ∃ frame frame',
    framesOf (execute json k c reading).2 = [frame] ∧
    framesOf (execute json k' c' reading').2 = [frame'] ∧
    (motionOf c ≠ motionOf c' →
      ¬ (opcodeOf frame = opcodeOf frame' ∧ payloadOf frame = payloadOf frame'))

/-- Two moves that differ in the turn alone. -/
def DifferInTurnAlone (c c' : RobotCommand) : Prop :=
  c.actionType = RobotCommand.move ∧ c'.actionType = RobotCommand.move ∧
    thousandths c.linearX = thousandths c'.linearX ∧
    thousandths c.durationS = thousandths c'.durationS ∧
    thousandths c.angularZ ≠ thousandths c'.angularZ

theorem thousandths_between {lower upper : ℚ} {value : Double} (m n : ℤ) (hm : |m| < 2 ^ 53)
    (hn : |n| < 2 ^ 53) (hlower : (m : ℚ) = lower * 1000) (hupper : (n : ℚ) = upper * 1000)
    (h : Between lower upper value) : m ≤ thousandths value ∧ thousandths value ≤ n := by
  obtain ⟨q, hq, rfl, hlow, hhigh⟩ := h
  have hthousand : Representable 1000 := by
    exact_mod_cast representable_intCast (n := 1000) (by norm_num)
  obtain ⟨v, hv, heq, hmv, hvn⟩ := Double.ofRat_between (representable_intCast hm)
    (representable_intCast hn) (show (m : ℚ) ≤ q * 1000 by linarith) (by linarith)
  rw [thousandths, Double.ofRat_of_representable hthousand, Double.mul_finite, heq]
  have hround : m ≤ roundHalfAway v ∧ roundHalfAway v ≤ n :=
    ⟨le_roundHalfAway hmv, roundHalfAway_le hvn⟩
  rw [abs_lt] at hm hn
  rw [Double.lround, if_pos (by omega)]
  exact hround

theorem int16_unwrapped {n : ℤ} (hlow : -2 ^ 15 ≤ n) (hhigh : n < 2 ^ 15) :
    (Int16.ofInt n).toInt = n :=
  Int16.toInt_ofInt_of_le hlow hhigh

theorem uint16_unwrapped {n : ℤ} (hlow : 0 ≤ n) (hhigh : n < 2 ^ 16) :
    ((UInt16.ofInt n).toNat : ℤ) = n := by
  simp only [UInt16.ofInt, UInt16.toNat_ofNat']
  omega

theorem unwrapped_of_limits {c : RobotCommand} (h : WithinLimits c) : Unwrapped c := by
  have hlinear := thousandths_between (-500) 500 (by norm_num) (by norm_num) (by norm_num)
    (by norm_num) h.linear
  have hangular := thousandths_between (-1500) 1500 (by norm_num) (by norm_num) (by norm_num)
    (by norm_num) h.angular
  have hduration := thousandths_between 0 10000 (by norm_num) (by norm_num) (by norm_num)
    (by norm_num) h.duration
  exact ⟨int16_unwrapped (by omega) (by omega), int16_unwrapped (by omega) (by omega),
    uint16_unwrapped (by omega) (by omega)⟩

section Bytes

theorem appendU16_injective {a b : UInt16} (h : appendU16 a = appendU16 b) : a = b := by
  simp only [appendU16, List.cons.injEq, and_true] at h
  obtain ⟨hlow, hhigh⟩ := h
  have hlow' := congrArg UInt8.toNat hlow
  have hhigh' := congrArg UInt8.toNat hhigh
  have hmask (n : ℕ) : n &&& 255 = n % 256 := Nat.and_two_pow_sub_one_eq_mod n 8
  simp [hmask, Nat.shiftRight_eq_div_pow] at hlow' hhigh'
  apply UInt16.toNat_inj.mp
  have ha := a.toNat_lt
  have hb := b.toNat_lt
  omega

theorem appendI16_injective {a b : Int16} (h : appendI16 a = appendI16 b) : a = b := by
  have hraw := appendU16_injective h
  cases a
  cases b
  cases hraw
  rfl

theorem motionPayload_injective {quantity quantity' duration duration' : Double}
    (h : motionPayload quantity duration = motionPayload quantity' duration') :
    Int16.ofInt (thousandths quantity) = Int16.ofInt (thousandths quantity') ∧
      UInt16.ofInt (thousandths duration) = UInt16.ofInt (thousandths duration') := by
  obtain ⟨hquantity, hduration⟩ := List.append_inj h rfl
  exact ⟨appendI16_injective hquantity, appendU16_injective hduration⟩

variable (p : HardwareProtocol) (opcode : HardwareOpcode) (name : String) (duration : ℕ)

theorem opcodeOf_frame (payload : List UInt8) :
    opcodeOf (p.frame opcode name payload duration).2.frame = some opcode.code := rfl

theorem payloadOf_frame {payload : List UInt8} (h : payload.length < 256) :
    payloadOf (p.frame opcode name payload duration).2.frame = payload := by
  have hlength : (UInt8.ofNat payload.length).toNat = payload.length := by
    rw [UInt8.toNat_ofNat', Nat.mod_eq_of_lt h]
  simp [payloadOf, HardwareProtocol.frame, appendU16, hlength]

end Bytes

section Execute

variable {json : JsonLibrary} {c c' : RobotCommand}

def motionOpcode (c : RobotCommand) : HardwareOpcode :=
  if c.actionType = RobotCommand.move then .move else .turn

def motionQuantity (c : RobotCommand) : Double :=
  if c.actionType = RobotCommand.move then c.linearX else c.angularZ

theorem encode_motion (p : HardwareProtocol) (hmotion : IsMotion c) (hjson : RoundTrips json c) :
    ∃ name, p.encode json (json.dump (toProtocolCommand c)) =
      p.encodeMotion (motionOpcode c) name (motionQuantity c) c.durationS := by
  have hturn : RobotCommand.turn ≠ RobotCommand.move := by decide
  unfold RoundTrips at hjson
  rw [encode, hjson]
  rcases hmotion with hm | hm
  · refine ⟨"move", ?_⟩
    rw [motionOpcode, motionQuantity, if_pos hm, if_pos hm, toProtocolCommand, if_pos hm]
    rfl
  · have hmove : c.actionType ≠ RobotCommand.move := fun h ↦ hturn (hm.symm.trans h)
    refine ⟨"turn", ?_⟩
    rw [motionOpcode, motionQuantity, if_neg hmove, if_neg hmove, toProtocolCommand, if_neg hmove,
      if_pos hm]
    rfl

theorem execute_motion (k : HardwareController) (reading : ControllerReading)
    (hmotion : IsMotion c) (hjson : RoundTrips json c) : ∃ name,
    framesOf (execute json k c reading).2 =
      [(k.protocol.encodeMotion (motionOpcode c) name (motionQuantity c) c.durationS).2.frame] := by
  have hstop : c.actionType ≠ RobotCommand.stop := by
    rcases hmotion with hm | hm <;> rw [hm] <;> decide
  obtain ⟨name, hencode⟩ := encode_motion k.protocol hmotion hjson
  refine ⟨name, ?_⟩
  rw [execute, if_neg hstop, hencode]
  cases reading.sendError with
  | some error => rfl
  | none => rfl

theorem quantity_unwrapped (h : Unwrapped c) :
    (Int16.ofInt (thousandths (motionQuantity c))).toInt = thousandths (motionQuantity c) := by
  unfold motionQuantity
  split_ifs
  · exact h.linear
  · exact h.angular

theorem frames_agree_iff {p p' : HardwareProtocol} {name name' : String} (h : Unwrapped c)
    (h' : Unwrapped c') :
    (opcodeOf (p.encodeMotion (motionOpcode c) name (motionQuantity c) c.durationS).2.frame =
        opcodeOf
          (p'.encodeMotion (motionOpcode c') name' (motionQuantity c') c'.durationS).2.frame ∧
      payloadOf (p.encodeMotion (motionOpcode c) name (motionQuantity c) c.durationS).2.frame =
        payloadOf
          (p'.encodeMotion (motionOpcode c') name' (motionQuantity c') c'.durationS).2.frame) ↔
      motionOpcode c = motionOpcode c' ∧
        thousandths (motionQuantity c) = thousandths (motionQuantity c') ∧
        thousandths c.durationS = thousandths c'.durationS := by
  have hshort (quantity duration : Double) : (motionPayload quantity duration).length < 256 := by
    simp [motionPayload, appendI16, appendU16]
  rw [encodeMotion, encodeMotion, opcodeOf_frame, opcodeOf_frame,
    payloadOf_frame _ _ _ _ (hshort _ _),
    payloadOf_frame _ _ _ _ (hshort _ _)]
  constructor
  · rintro ⟨hopcode, hpayload⟩
    obtain ⟨hquantity, hduration⟩ := motionPayload_injective hpayload
    refine ⟨HardwareOpcode.code_injective (Option.some.inj hopcode), ?_, ?_⟩
    · rw [← quantity_unwrapped h, ← quantity_unwrapped h', hquantity]
    · rw [← h.duration, ← h'.duration, hduration]
  · rintro ⟨hopcode, hquantity, hduration⟩
    exact ⟨by rw [hopcode], by rw [motionPayload, motionPayload, hquantity, hduration]⟩

theorem differ_of_agree (hc : IsMotion c) (hc' : IsMotion c') (hlimits : WithinLimits c)
    (hlimits' : WithinLimits c') (hopcode : motionOpcode c = motionOpcode c')
    (hquantity : thousandths (motionQuantity c) = thousandths (motionQuantity c'))
    (hduration : thousandths c.durationS = thousandths c'.durationS)
    (hmotion : motionOf c ≠ motionOf c') : DifferInTurnAlone c c' := by
  unfold motionOpcode at hopcode
  unfold motionQuantity at hquantity
  split_ifs at hopcode hquantity with hm hm'
  · refine ⟨hm, hm', hquantity, hduration, fun hangular ↦ hmotion ?_⟩
    rw [motionOf, motionOf, hquantity, hangular, hduration]
  · have hturn := hlimits.turn (hc.resolve_left hm)
    have hturn' := hlimits'.turn (hc'.resolve_left ‹_›)
    refine absurd ?_ hmotion
    rw [motionOf, motionOf, hturn, hturn', hquantity, hduration]

theorem limits_of_approved (hc : Approved c) : IsMotion c ∧ WithinLimits c := by
  obtain ⟨candidate, commandId, source, hvalid, rfl, hmotion⟩ := hc
  exact ⟨hmotion, validate_motion hvalid hmotion⟩

theorem motion_frames {json : JsonLibrary} {c c' : RobotCommand} (hc : Approved c)
    (hc' : Approved c') (hjson : RoundTrips json c) (hjson' : RoundTrips json c') :
    (Distinguished json c c' ∧ Unwrapped c ∧ Unwrapped c') ↔ ¬ DifferInTurnAlone c c' := by
  obtain ⟨hmotion, hlimits⟩ := limits_of_approved hc
  obtain ⟨hmotion', hlimits'⟩ := limits_of_approved hc'
  have hunwrapped := unwrapped_of_limits hlimits
  have hunwrapped' := unwrapped_of_limits hlimits'
  constructor
  · rintro ⟨hdistinguished, -⟩ ⟨hm, hm', hlinear, hduration, hangular⟩
    obtain ⟨frame, frame', hframe, hframe', hdiffer⟩ := hdistinguished {} {} {} {}
    obtain ⟨name, hsent⟩ := execute_motion {} {} hmotion hjson
    obtain ⟨name', hsent'⟩ := execute_motion {} {} hmotion' hjson'
    obtain rfl := List.singleton_inj.mp (hframe.symm.trans hsent)
    obtain rfl := List.singleton_inj.mp (hframe'.symm.trans hsent')
    refine hdiffer (fun hsame ↦ hangular (congrArg Motion.angularZ hsame)) ?_
    refine (frames_agree_iff hunwrapped hunwrapped').mpr ⟨?_, ?_, hduration⟩
    · rw [motionOpcode, motionOpcode, if_pos hm, if_pos hm']
    · rw [motionQuantity, motionQuantity, if_pos hm, if_pos hm', hlinear]
  · intro hturn
    refine ⟨fun k k' reading reading' ↦ ?_, hunwrapped, hunwrapped'⟩
    obtain ⟨name, hsent⟩ := execute_motion k reading hmotion hjson
    obtain ⟨name', hsent'⟩ := execute_motion k' reading' hmotion' hjson'
    refine ⟨_, _, hsent, hsent', fun hdiffer hagree ↦ hturn ?_⟩
    obtain ⟨hopcode, hquantity, hduration⟩ := (frames_agree_iff hunwrapped hunwrapped').mp hagree
    exact differ_of_agree hmotion hmotion' hlimits hlimits' hopcode hquantity hduration hdiffer

end Execute

def straight : RobotCommand :=
  { commandId := "guard-1", source := "agent", actionType := RobotCommand.move,
    linearX := .ofRat (1 / 4), durationS := .ofRat 1 }

def curved : RobotCommand :=
  { straight with commandId := "guard-2", angularZ := .ofRat (1 / 2) }

def turning : RobotCommand :=
  { commandId := "guard-3", source := "agent", actionType := RobotCommand.turn,
    angularZ := .ofRat (1 / 2), durationS := .ofRat 1 }

def moveText : String :=
  "\x7b\"arguments\":\x7b\"duration_s\":1.0,\"linear_x\":0.25\x7d,\"name\":\"move\"\x7d"

def turnText : String :=
  "\x7b\"arguments\":\x7b\"angular_z\":0.5,\"duration_s\":1.0\x7d,\"name\":\"turn\"\x7d"

/-- The library on the three commands above. -/
def tableJson : JsonLibrary where
  dump
    | .object [_, ("name", .string "turn")] => turnText
    | _ => moveText
  parse text :=
    if text = moveText then .ok (toProtocolCommand straight)
    else if text = turnText then .ok (toProtocolCommand turning)
    else .error "parse error"
  noKey key _ := "key not found: " ++ key
  typeError _ := "type error"

theorem approved_straight : Approved straight :=
  ⟨{ straight with commandId := "", source := "" }, "guard-1", "agent", by decide +kernel,
    by decide +kernel, .inl rfl⟩

theorem approved_turning : Approved turning :=
  ⟨{ turning with commandId := "", source := "" }, "guard-3", "agent", by decide +kernel,
    by decide +kernel, .inr rfl⟩

theorem arc_sent_as_straight_move :
    Approved straight ∧ Approved curved ∧ RoundTrips tableJson straight ∧
      RoundTrips tableJson curved ∧ motionOf straight ≠ motionOf curved ∧
      ¬ Distinguished tableJson straight curved := by
  have hcurved : Approved curved :=
    ⟨{ curved with commandId := "", source := "", actionType := RobotCommand.arc }, "guard-2",
      "agent", by decide +kernel, by decide +kernel, .inl rfl⟩
  have hmotion : motionOf straight ≠ motionOf curved := by decide +kernel
  refine ⟨approved_straight, hcurved, rfl, rfl, hmotion, fun h ↦ ?_⟩
  obtain ⟨frame, frame', hframe, hframe', hdiffer⟩ := h {} {} {} {}
  have hsame : framesOf (execute tableJson {} straight {}).2 =
      framesOf (execute tableJson {} curved {}).2 := rfl
  obtain rfl := List.singleton_inj.mp ((hframe.symm.trans hsame).trans hframe')
  exact hdiffer hmotion ⟨rfl, rfl⟩

theorem motion_frames_move_and_turn :
    (Distinguished tableJson straight turning ∧ Unwrapped straight ∧ Unwrapped turning) ↔
      ¬ DifferInTurnAlone straight turning :=
  motion_frames approved_straight approved_turning rfl rfl

end EmbodiedAgent.HardwareController
