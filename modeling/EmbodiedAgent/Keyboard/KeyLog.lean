import EmbodiedAgent.Keyboard.KeyboardInput

namespace EmbodiedAgent.KeyboardInput

open Library

abbrev KeyLog := List (Char × ℤ)

/-- X was pressed, and not R since. -/
def Stopped (log : KeyLog) : Prop :=
  ∃ pre x post, log = pre ++ x :: post ∧ x.1.toLower = 'x' ∧ ∀ k ∈ post, k.1.toLower ≠ 'r'

def EndsMotion (key : Char) : Prop :=
  key.toLower = 'x' ∨ key.toLower = 'r' ∨ key.toLower = 'q' ∨ key = ' '

def MovedAt (log : KeyLog) (time : ℤ) : Prop :=
  ∃ pre m post, log = pre ++ m :: post ∧ isMotionKey m.1 = true ∧ m.2 = time ∧ ¬ Stopped pre ∧
    ∀ k ∈ post, isMotionKey k.1 = false ∧ ¬ EndsMotion k.1

structure Follows (config : KeyboardInputConfig) (log : KeyLog) (input : KeyboardInput) : Prop where
  configured : input.config = config
  latched : input.emergencyStopLatched = true ↔ Stopped log
  idle : input.motionActive = false → input.linearX = 0 ∧ input.angularZ = 0
  moving : input.motionActive = true → MovedAt log input.lastMotionInput
  limited : input.linearX.abs ≤ config.maxLinearSpeed ∧ input.angularZ.abs ≤ config.maxAngularSpeed

section Speeds

variable {v m : Double}

theorem abs_zero_le (hm : checkedPositive m = true) : (0 : Double).abs ≤ m := by
  simp only [checkedPositive, Bool.and_eq_true, decide_eq_true_eq] at hm
  cases m with
  | nan => cases hm.1
  | infinite negative => cases hm.1
  | finite b hb =>
    refine Double.finite_le_finite.mpr ?_
    rw [abs_zero]
    exact (Double.finite_lt_finite.mp hm.2).le

theorem abs_clamp_le (hv : v ≠ .nan) (hm : checkedPositive m = true) :
    (clamp v m.neg m).abs ≤ m := by
  simp only [checkedPositive, Bool.and_eq_true, decide_eq_true_eq] at hm
  cases m with
  | nan => cases hm.1
  | infinite negative => cases hm.1
  | finite b hb =>
    have hpos : 0 < b := Double.finite_lt_finite.mp hm.2
    have hrange : -b ≤ b := by linarith
    obtain ⟨c, hc, heq, hlow, hhigh⟩ :
        ∃ c hc, clamp v (.finite (-b) hb.neg) (.finite b hb) = .finite c hc ∧ -b ≤ c ∧ c ≤ b :=
      Double.clamp_between hv hrange
    rw [Double.neg, heq]
    exact Double.finite_le_finite.mpr (abs_le.mpr ⟨hlow, hhigh⟩)

theorem motionOf_ne_nan {config : KeyboardInputConfig} (h : config.Valid) (key : Char) :
    (motionOf config key).1 ≠ .nan ∧ (motionOf config key).2 ≠ .nan := by
  have hfinite : ∀ {v : Double}, v.isFinite = true → v ≠ .nan ∧ v.neg ≠ .nan := by
    intro v hv
    cases v with
    | nan | infinite => cases hv
    | finite q hq => exact ⟨Double.noConfusion, Double.noConfusion⟩
  have hzero : (0 : Double) ≠ .nan := Double.noConfusion
  obtain ⟨hlinear, hangular⟩ := h.speeds
  rw [motionOf]
  split
  · exact ⟨(hfinite hlinear).1, hzero⟩
  · exact ⟨(hfinite hlinear).2, hzero⟩
  · exact ⟨hzero, (hfinite hangular).1⟩
  · exact ⟨hzero, (hfinite hangular).2⟩

end Speeds

variable {config : KeyboardInputConfig} {log : KeyLog} {input : KeyboardInput} {k : Char × ℤ}
  {time now : ℤ} {key : Char}

theorem stopped_snoc : Stopped (log ++ [k]) ↔
    k.1.toLower = 'x' ∨ Stopped log ∧ k.1.toLower ≠ 'r' := by
  constructor
  · rintro ⟨pre, x, post, hsplit, hx, hpost⟩
    rcases History.snoc_eq_append_cons hsplit with ⟨rfl, rfl, rfl⟩ | ⟨post', rfl, rfl⟩
    · exact .inl hx
    · refine .inr ⟨⟨pre, x, post', rfl, hx, fun k hk ↦ hpost k (List.mem_append_left _ hk)⟩, ?_⟩
      exact hpost k (by simp)
  · rintro (hx | ⟨⟨pre, x, post, rfl, hx, hpost⟩, hk⟩)
    · exact ⟨log, k, [], rfl, hx, by simp⟩
    · refine ⟨pre, x, post ++ [k], by simp, hx, fun l hl ↦ ?_⟩
      rcases List.mem_append.mp hl with hl | hl
      · exact hpost l hl
      · rwa [List.mem_singleton.mp hl]

theorem MovedAt.snoc (h : MovedAt log time) (hkey : isMotionKey k.1 = false)
    (hends : ¬ EndsMotion k.1) : MovedAt (log ++ [k]) time := by
  obtain ⟨pre, m, post, rfl, hm, htime, hpre, hpost⟩ := h
  refine ⟨pre, m, post ++ [k], by simp, hm, htime, hpre, fun l hl ↦ ?_⟩
  rcases List.mem_append.mp hl with hl | hl
  · exact hpost l hl
  · rw [List.mem_singleton.mp hl]
    exact ⟨hkey, hends⟩

theorem follows_create (h : create config = .ok input) : Follows input.config [] input := by
  rw [create] at h
  split_ifs at h with hlinear hangular hspeeds hdeadman
  obtain rfl := Except.ok.inj h
  refine ⟨rfl, iff_of_false Bool.false_ne_true ?_, fun _ ↦ ⟨rfl, rfl⟩, nofun,
    abs_zero_le hlinear, abs_zero_le hangular⟩
  rintro ⟨pre, x, post, hsplit, -⟩
  simp at hsplit

theorem follows_stopMotion (input : KeyboardInput) {latched : Bool}
    (hlatched : latched = true ↔ Stopped log) :
    Follows input.config log { input with emergencyStopLatched := latched }.stopMotion where
  configured := rfl
  latched := hlatched
  idle _ := ⟨rfl, rfl⟩
  moving hmoving := by cases hmoving
  limited := ⟨abs_zero_le input.valid.maxLinearSpeed, abs_zero_le input.valid.maxAngularSpeed⟩

theorem Follows.applyKey (h : Follows config log input) (key : Char) (now : ℤ) :
    Follows config (log ++ [(key, now)]) (input.applyKey key now).1 := by
  obtain rfl := h.configured
  have hsame : key.toLower ≠ 'x' → key.toLower ≠ 'r' →
      (input.emergencyStopLatched = true ↔ Stopped (log ++ [(key, now)])) := by
    intro hx hr
    rw [stopped_snoc, or_iff_right hx, and_iff_left hr]
    exact h.latched
  rw [KeyboardInput.applyKey]
  split_ifs with hx hr hq hspace hmotion hlatched
  · exact follows_stopMotion input (iff_of_true rfl (stopped_snoc.mpr (.inl hx)))
  · refine follows_stopMotion input (iff_of_false Bool.false_ne_true fun hstopped ↦ ?_)
    rcases stopped_snoc.mp hstopped with hx' | ⟨-, hr'⟩
    · exact hx hx'
    · exact hr' hr
  · exact follows_stopMotion input (hsame hx hr)
  · exact follows_stopMotion input (hsame hx hr)
  · refine ⟨rfl, hsame hx hr, h.idle, fun hmoving ↦ (h.moving hmoving).snoc ?_ ?_, h.limited⟩
    · simpa using hmotion
    · rintro (hx' | hr' | hq' | hspace')
      · exact hx hx'
      · exact hr hr'
      · exact hq hq'
      · exact hspace hspace'
  · exact follows_stopMotion input (hsame hx hr)
  · obtain ⟨hlinear, hangular⟩ := motionOf_ne_nan input.valid key
    refine ⟨rfl, hsame hx hr, nofun, fun _ ↦ ?_, ?_⟩
    · exact ⟨log, (key, now), [], rfl, by simpa using hmotion, rfl, mt h.latched.mpr hlatched,
        by simp⟩
    · exact ⟨abs_clamp_le hlinear input.valid.maxLinearSpeed,
        abs_clamp_le hangular input.valid.maxAngularSpeed⟩

theorem Follows.updateDeadman (h : Follows config log input) (now : ℤ) :
    Follows config log (input.updateDeadman now).1 := by
  obtain rfl := h.configured
  rw [KeyboardInput.updateDeadman]
  split_ifs
  · exact follows_stopMotion input h.latched
  · exact h

theorem recent_of_updateDeadman (h : Follows config log input)
    (hmoving : (input.updateDeadman now).1.motionActive = true) :
    ∃ time, MovedAt log time ∧ now - time < nanoseconds config.deadmanTimeout := by
  obtain rfl := h.configured
  rw [KeyboardInput.updateDeadman] at hmoving
  split_ifs at hmoving with hdeadman
  · cases hmoving
  · exact ⟨input.lastMotionInput, h.moving hmoving,
      not_le.mp fun hle ↦ hdeadman ⟨hmoving, hle⟩⟩

end EmbodiedAgent.KeyboardInput
