import EmbodiedAgent.Agent.UserPreferences

namespace EmbodiedAgent.Agent.UserPreferences

open Library Library.Double UserMemory

section Defaults

variable (t : Texts)

inductive TurnDuration (preferences args : Dict) : ℚ → Prop
  | preferred {degrees : ℚ} {hdegrees : Representable degrees}
      (hpreference : safeFloat t (preferences.lookup "default_turn_degrees") =
        some (.finite degrees hdegrees))
      (hlow : 15 ≤ degrees) (hhigh : degrees ≤ 360)
      (hdefault : args.lookup "duration_s" = none ∨
        closeTo (safeFloat t (args.lookup "duration_s")) defaultTurnDuration = true) :
      TurnDuration preferences args (13 / 5 * degrees / 90)
  | original {duration : ℚ} {hduration : Representable duration}
      (hlookup : safeFloat t (args.lookup "duration_s") = some (.finite duration hduration))
      (hdefault : closeTo (some (.finite duration hduration)) defaultTurnDuration = true ∧
          safeFloat t (preferences.lookup "default_turn_degrees") = none ∨
        closeTo (some (.finite duration hduration)) spinDuration = true) :
      TurnDuration preferences args duration

/-- A turn by default that is ready to be sent. -/
structure DefaultTurn (preferences : Dict) (action : ActionCommand) (rate duration : ℚ) : Prop where
  name : action.name = "turn"
  requestId : action.requestId ≠ ""
  priority : action.priority = false
  rate : ∃ hrate, safeFloat t (action.arguments.lookup "angular_z") = some (.finite rate hrate)
  duration : TurnDuration t preferences action.arguments duration

end Defaults

section Close

variable {d e : ℚ} {hd : Representable d}

theorem sixteenth_representable : Representable (1 / 16) :=
  ⟨1, -4, by norm_num, by norm_num, by norm_num, by norm_num⟩

theorem lt_of_ofRat_abs_le (h : (Double.ofRat e).abs ≤ Double.ofRat (1 / 20)) : |e| < 1 / 16 := by
  obtain ⟨w, hw, hlimit, hnear⟩ := near_ofRat (q := 1 / 20) (by norm_num [abs_of_pos])
  have hwlt : w < 1 / 16 := by
    have hw' := (abs_le.mp hnear).2
    norm_num [unit] at hw'
    linarith
  rw [hlimit] at h
  rw [abs_lt]
  constructor
  · by_contra hle
    have hmono := ofRat_le_finite sixteenth_representable.neg (q := e) (by linarith)
    cases hof : Double.ofRat e with
    | nan => exact ofRat_ne_nan e hof
    | infinite negative =>
      rw [hof] at h
      cases h
    | finite v hv =>
      rw [hof] at h hmono
      have hv' := finite_le_finite.mp hmono
      have habs := finite_le_finite.mp h
      linarith [neg_le_abs v]
  · by_contra hle
    have hmono := finite_le_ofRat sixteenth_representable (q := e) (by linarith)
    cases hof : Double.ofRat e with
    | nan => exact ofRat_ne_nan e hof
    | infinite negative =>
      rw [hof] at h
      cases h
    | finite v hv =>
      rw [hof] at h hmono
      have hv' := finite_le_finite.mp hmono
      have habs := finite_le_finite.mp h
      linarith [le_abs_self v]

theorem near_of_closeTo (h : closeTo (some (.finite d hd)) (.ofRat e) = true) (he : |e| < 1000) :
    |d - e| < 1 / 15 := by
  obtain ⟨v, hv, hof, hnear⟩ := near_ofRat he
  have hle := of_decide_eq_true h
  rw [hof, sub_finite] at hle
  have hlt := lt_of_ofRat_abs_le hle
  have htriangle := abs_sub_le d v e
  norm_num [unit] at hnear
  linarith

end Close

theorem speedFactor_cases (t : Texts) (preferences : Dict) : speedFactor t preferences = 3 / 4 ∨
    speedFactor t preferences = 1 ∨ speedFactor t preferences = 23 / 20 := by
  rw [speedFactor]
  generalize Text.lower _ = value
  rw [speedFactors, List.lookup_cons, List.lookup_cons, List.lookup_nil]
  cases value == "slow" with
  | true => exact .inl rfl
  | false =>
    cases value == "fast" with
    | true => exact .inr (.inr rfl)
    | false => exact .inr (.inl rfl)

theorem closeTo_factor {f : ℚ} (h : f = 3 / 4 ∨ f = 1 ∨ f = 23 / 20) :
    closeTo (some (.ofRat f)) (.ofRat 1) = decide (f = 1) := by
  rcases h with rfl | rfl | rfl <;> decide +kernel

theorem ofRat_intCast {n : ℤ} (h : |n| < 2 ^ 53) :
    ∃ hn : Representable n, Double.ofRat n = .finite n hn :=
  ⟨representable_intCast h, ofRat_of_representable _⟩

theorem near_bounded {x lower upper : Double} {q ε a b : ℚ} {ha : Representable a}
    {hb : Representable b} (h : Near x q ε) (hlower : lower = .finite a ha)
    (hupper : upper = .finite b hb) (hlow : a ≤ q) (hhigh : q ≤ b) :
    Near (bounded x lower upper) q ε := by
  rw [bounded, hlower, hupper]
  exact (h.max hlow).min hhigh

theorem near_twelve {q : ℚ} (hlow : 3 / 10 ≤ q) (hhigh : q ≤ 12) {x : Double} {ε : ℚ}
    (h : Near x q ε) : Near (bounded x (.ofRat (1 / 5)) (.ofRat 12)) q ε := by
  obtain ⟨a, ha, hlower, hnear⟩ := near_ofRat (q := 1 / 5) (by norm_num [abs_of_pos])
  obtain ⟨hb, hupper⟩ := ofRat_intCast (n := 12) (by norm_num)
  have ha' := (abs_le.mp hnear).2
  norm_num [unit] at ha'
  refine near_bounded h hlower (by exact_mod_cast hupper) (by linarith) (by exact_mod_cast hhigh)

def durationError : ℚ := 501 / 10 ^ 6

def stretchedError : ℚ := 1504 / 10 ^ 6

theorem near_preferred {degrees : ℚ} (hdegrees : Representable degrees) (hlow : 15 ≤ degrees)
    (hhigh : degrees ≤ 360) :
    Near (((defaultTurnDuration.mul (bounded (.finite degrees hdegrees) (.ofRat 15)
      (.ofRat 360))).div defaultTurnDegrees).round 3) (13 / 5 * degrees / 90) durationError := by
  obtain ⟨ha, hlower⟩ := ofRat_intCast (n := 15) (by norm_num)
  obtain ⟨hb, hupper⟩ := ofRat_intCast (n := 360) (by norm_num)
  have hbounded : Near (bounded (.finite degrees hdegrees) (.ofRat 15) (.ofRat 360)) degrees 0 :=
    near_bounded (near_finite hdegrees) (by exact_mod_cast hlower) (by exact_mod_cast hupper)
      (by exact_mod_cast hlow) (by exact_mod_cast hhigh)
  have hdefault : Near defaultTurnDuration (13 / 5) unit :=
    near_ofRat (by norm_num [abs_of_pos])
  have hninety : Near defaultTurnDegrees 90 unit := near_ofRat (by norm_num [abs_of_pos])
  have hproduct := (hdefault.mul hbounded (by
    rw [abs_of_pos (by linarith), abs_of_pos (by linarith : (0 : ℚ) < degrees)]
    norm_num [unit]
    linarith)).mono (δ := 361 / 10 ^ 12) (by
      rw [abs_of_pos (by linarith : (0 : ℚ) < degrees)]
      norm_num [unit]
      linarith)
  have habs : |13 / 5 * degrees / 90| ≤ 11 := by
    rw [abs_of_pos (by linarith)]
    linarith
  have hquotient := (hproduct.div hninety (by norm_num [unit]) (by norm_num [unit]) (by
    norm_num [unit]
    linarith)).mono (δ := 1 / 10 ^ 9) (by
      norm_num [unit]
      linarith)
  exact (hquotient.round 3 (by linarith)).mono (by norm_num [unit, durationError])

theorem near_stretched {x : Double} {q f : ℚ} (h : Near x q durationError)
    (hf : f = 3 / 4 ∨ f = 23 / 20) (hlow : 3 / 10 ≤ q / f) (hhigh : q / f ≤ 12) :
    Near (stretched x (.ofRat f)) (q / f) stretchedError := by
  have hfactor : Near (.ofRat f) f unit := by
    apply near_ofRat
    rcases hf with rfl | rfl <;> norm_num [abs_of_pos]
  have habs : |q / f| ≤ 12 := by
    rwa [abs_of_pos (by linarith)]
  have hquotient := (h.div hfactor (by rcases hf with rfl | rfl <;> norm_num [unit])
    (by norm_num [unit]) (by
      norm_num [unit, durationError]
      linarith)).mono (δ := 1003 / 10 ^ 6) (by
        norm_num [unit, durationError]
        linarith)
  exact ((near_twelve hlow hhigh hquotient).round 3 (by linarith)).mono
    (by norm_num [unit, stretchedError])

def rateError : ℚ := 501 / 10 ^ 7

theorem near_scaled {rate f : ℚ} {hrate : Representable rate} (hf : f = 3 / 4 ∨ f = 23 / 20)
    (h : |rate * f| ≤ 3 / 2) :
    Near (((Double.finite rate hrate).mul (.ofRat f)).round 4) (rate * f) rateError := by
  have hfactor : Near (.ofRat f) f unit := by
    apply near_ofRat
    rcases hf with rfl | rfl <;> norm_num [abs_of_pos]
  have habs : |rate| * |f| ≤ 3 / 2 := (abs_mul rate f) ▸ h
  have hrate' : |rate| ≤ 2 := by
    rcases hf with rfl | rfl <;> norm_num [abs_of_pos] at habs <;> linarith
  have hproduct := ((near_finite hrate).mul hfactor (by
    norm_num [unit]
    linarith)).mono (δ := 3 / 10 ^ 12) (by
      norm_num [unit]
      linarith)
  exact (hproduct.round 4 (by linarith)).mono (by norm_num [unit, rateError])

section Adjusting

variable {t : Texts} {preferences : Dict} {rate duration : ℚ}

structure Scaled (t : Texts) (args : Dict) (rate duration f : ℚ) : Prop where
  rate : ∃ x, (args.lookup "angular_z").bind (toFloat t) = some x ∧
    (f = 1 → ∃ hrate, x = .finite rate hrate) ∧
    (f ≠ 1 → |rate * f| ≤ 3 / 2 → Near x (rate * f) rateError)
  duration : ∃ x, (args.lookup "duration_s").bind (toFloat t) = some x ∧
    (f = 1 → Near x duration durationError) ∧
    (f ≠ 1 → duration / f ≤ 12 → Near x (duration / f) stretchedError)

variable {args : Dict}

theorem scaleNumericArg_eq {key : String} {f : ℚ} {x : Double}
    (hf : f = 3 / 4 ∨ f = 1 ∨ f = 23 / 20) (hx : safeFloat t (args.lookup key) = some x) :
    scaleNumericArg t args key (.ofRat f) =
      if f = 1 then args else setItem key (.float ((x.mul (.ofRat f)).round 4)) args := by
  rw [scaleNumericArg, closeTo_factor hf, hx]
  by_cases hone : f = 1
  · rw [if_pos hone, if_pos (decide_eq_true hone)]
  · rw [if_neg hone, if_neg (by rwa [decide_eq_true_eq])]

theorem scaled_turn {f : ℚ} {x : Double} (hrate : Representable rate)
    {force : Bool} (hf : f = 3 / 4 ∨ f = 1 ∨ f = 23 / 20)
    (hrate' : safeFloat t (args.lookup "angular_z") = some (.finite rate hrate))
    (hx : safeFloat t (args.lookup "duration_s") = some x) (hnear : Near x duration durationError)
    (hlow : 13 / 30 ≤ duration)
    (hpreserve : force = true ∨ closeTo (some x) defaultTurnDuration = true ∨
      closeTo (some x) spinDuration = true) :
    Scaled t (scaleTurnSpeedPreservingDefaultAngle t args (.ofRat f) force) rate duration f := by
  rw [scaleTurnSpeedPreservingDefaultAngle, closeTo_factor hf]
  by_cases hone : f = 1
  · rw [if_pos (decide_eq_true hone)]
    refine ⟨⟨_, (toFloat_of_safeFloat hrate').1, fun _ ↦ ⟨hrate, rfl⟩, fun hne ↦ absurd hone hne⟩,
      ⟨x, (toFloat_of_safeFloat hx).1, fun _ ↦ hnear, fun hne ↦ absurd hone hne⟩⟩
  · have hf' : f = 3 / 4 ∨ f = 23 / 20 := by
      rcases hf with hf | hf | hf
      · exact .inl hf
      · exact absurd hf hone
      · exact .inr hf
    have hflag : (force || closeTo (some x) defaultTurnDuration ||
        closeTo (some x) spinDuration) = true := by
      rw [Bool.or_eq_true, Bool.or_eq_true, or_assoc]
      exact hpreserve
    rw [if_neg (by rwa [decide_eq_true_eq]), hx]
    dsimp only
    rw [hflag, if_pos rfl, scaleNumericArg_eq hf hrate', if_neg hone]
    refine ⟨⟨((finite rate hrate).mul (.ofRat f)).round 4, ?_, fun heq ↦ absurd heq hone,
        fun _ ↦ near_scaled hf'⟩,
      ⟨stretched x (.ofRat f), ?_, fun heq ↦ absurd heq hone, fun _ hhigh ↦
        near_stretched hnear hf' ?_ hhigh⟩⟩
    · rw [lookup_setItem_ne (by decide), lookup_setItem]
      rfl
    · rw [lookup_setItem]
      rfl
    · rcases hf' with rfl | rfl <;> linarith

theorem TurnDuration.bounds (h : TurnDuration t preferences args duration) :
    13 / 30 ≤ duration ∧ duration ≤ 21 / 2 := by
  cases h with
  | preferred _ hlow hhigh _ => exact ⟨by linarith, by linarith⟩
  | original _ hdefault =>
    rcases hdefault with ⟨hclose, -⟩ | hclose
    · have hnear := abs_lt.mp (near_of_closeTo hclose (by norm_num [abs_of_pos]))
      exact ⟨by linarith, by linarith⟩
    · have hnear := abs_lt.mp (near_of_closeTo hclose (by norm_num [abs_of_pos]))
      exact ⟨by linarith, by linarith⟩

theorem applyDefaultTurnDegrees_original {hduration : Representable duration}
    (hlookup : safeFloat t (args.lookup "duration_s") = some (.finite duration hduration))
    (hdefault : closeTo (some (.finite duration hduration)) defaultTurnDuration = true ∧
        safeFloat t (preferences.lookup "default_turn_degrees") = none ∨
      closeTo (some (.finite duration hduration)) spinDuration = true) :
    applyDefaultTurnDegrees t preferences args = (args, false) := by
  rw [applyDefaultTurnDegrees]
  cases hpreference : safeFloat t (preferences.lookup "default_turn_degrees") with
  | none => rfl
  | some degrees =>
    have hclose := hdefault.resolve_left fun hnone ↦ absurd (hpreference.symm.trans hnone.2) nofun
    have hspin := abs_lt.mp (near_of_closeTo hclose (by norm_num [abs_of_pos]))
    have hfar : closeTo (some (.finite duration hduration)) defaultTurnDuration = false := by
      by_contra hnear
      have hnear' := abs_lt.mp (near_of_closeTo (eq_true_of_ne_false hnear)
        (by norm_num [abs_of_pos]))
      linarith
    have hsome : (args.lookup "duration_s").isSome = true := by
      cases hargs : args.lookup "duration_s" with
      | none =>
        rw [hargs] at hlookup
        cases hlookup
      | some value => rfl
    dsimp only
    rw [hlookup, hfar, hsome]
    rfl

theorem adjusted_turn {hrate : Representable rate}
    (hrate' : safeFloat t (args.lookup "angular_z") = some (.finite rate hrate))
    (h : TurnDuration t preferences args duration) :
    Scaled t (adjusted t preferences "turn" args) rate duration (speedFactor t preferences) := by
  have hlow := h.bounds.1
  rw [adjusted, if_neg (by decide), if_pos rfl]
  cases h with
  | @preferred degrees hdegrees hpreference hlow' hhigh hdefault =>
    have happlied : applyDefaultTurnDegrees t preferences args =
        (setItem "duration_s" (.float (((defaultTurnDuration.mul (bounded
          (.finite degrees hdegrees) (.ofRat 15) (.ofRat 360))).div defaultTurnDegrees).round 3))
          args, true) := by
      rw [applyDefaultTurnDegrees, hpreference]
      refine if_neg ?_
      rcases hdefault with hnone | hclose
      · rw [hnone]
        exact Bool.false_ne_true
      · rw [hclose, Bool.not_true, Bool.and_false]
        exact Bool.false_ne_true
    have hnear := near_preferred hdegrees hlow' hhigh
    rw [happlied]
    refine scaled_turn hrate (speedFactor_cases t preferences) ?_ ?_ hnear hlow (.inl rfl)
    · rwa [lookup_setItem_ne (by decide)]
    · rw [lookup_setItem]
      obtain ⟨v, hv, heq, -⟩ := hnear
      rw [heq]
      exact safeFloat_float rfl
  | @original duration hduration hlookup hdefault =>
    rw [applyDefaultTurnDegrees_original hlookup hdefault]
    refine scaled_turn hrate (speedFactor_cases t preferences) hrate' hlookup ?_ hlow (.inr ?_)
    · exact (near_finite hduration).mono (by norm_num [durationError])
    · exact hdefault.imp And.left id

end Adjusting

section Guarding

variable (t : Texts) (source fallbackCommandId fallbackSource : String)

def guarded (action : ActionCommand) : Option RobotCommand :=
  (turnMessage t source action).bind fun candidate ↦
    let result := ActionValidator.validate candidate fallbackCommandId fallbackSource
    if result.valid then some result.command else none

/-- The turn that remains keeps its angle, up to one percent. -/
def AngleKept (action : ActionCommand) (angle : ℚ) : Prop :=
  ∃ command rate hrate duration hduration,
    guarded t source fallbackCommandId fallbackSource action = some command ∧
    command.angularZ = .finite rate hrate ∧ command.durationS = .finite duration hduration ∧
    |rate * duration - angle| ≤ |angle| / 100

variable {t source fallbackCommandId fallbackSource} {action : ActionCommand} {x y : Double}
  {command : RobotCommand}

theorem guarded_eq (hid : action.requestId ≠ "") (hpriority : action.priority = false)
    (hx : (action.arguments.lookup "angular_z").bind (toFloat t) = some x)
    (hy : (action.arguments.lookup "duration_s").bind (toFloat t) = some y) :
    guarded t source fallbackCommandId fallbackSource action =
      if x.isFinite && y.isFinite then some {
        commandId := action.requestId
        source := if source = "" then fallbackSource else source
        actionType := RobotCommand.turn
        angularZ := ActionValidator.clampAngular x
        durationS := ActionValidator.clampDuration y }
      else none := by
  have hmessage : turnMessage t source action = some {
      commandId := action.requestId
      source := source
      priority := action.priority
      actionType := RobotCommand.turn
      angularZ := x
      durationS := y } := by
    rw [turnMessage, hx, hy]
    rfl
  have hturn : ∀ candidate command : RobotCommand, candidate.actionType = RobotCommand.turn →
      ActionValidator.normalize candidate command =
        ActionValidator.normalizeTurn candidate command := by
    intro candidate command htype
    rw [ActionValidator.normalize, htype, if_neg (by decide), if_neg (by decide), if_pos rfl]
  rw [guarded, hmessage, Option.bind_some, ActionValidator.validate, ActionValidator.identified,
    hpriority]
  dsimp only
  rw [if_neg hid, if_neg hid, Bool.false_and, Bool.false_and, if_neg Bool.false_ne_true,
    hturn _ _ rfl, ActionValidator.normalizeTurn]
  cases x.isFinite with
  | false => rfl
  | true =>
    cases y.isFinite with
    | false => rfl
    | true => rfl

theorem guarded_some (hid : action.requestId ≠ "") (hpriority : action.priority = false)
    (hx : (action.arguments.lookup "angular_z").bind (toFloat t) = some x)
    (hy : (action.arguments.lookup "duration_s").bind (toFloat t) = some y)
    (h : guarded t source fallbackCommandId fallbackSource action = some command) :
    x.isFinite = true ∧ y.isFinite = true ∧ command.angularZ = ActionValidator.clampAngular x ∧
      command.durationS = ActionValidator.clampDuration y := by
  rw [guarded_eq hid hpriority hx hy] at h
  cases hfinite : x.isFinite && y.isFinite with
  | false =>
    rw [hfinite] at h
    cases h
  | true =>
    rw [hfinite, if_pos rfl] at h
    obtain rfl := Option.some.inj h
    obtain ⟨hfx, hfy⟩ := Bool.and_eq_true_iff.mp hfinite
    exact ⟨hfx, hfy, rfl, rfl⟩

theorem near_clampAngular {q ε : ℚ} (h : Near x q ε) (hq : |q| ≤ 3 / 2) :
    Near (ActionValidator.clampAngular x) q ε := by
  have hthree : Representable (3 / 2) := ⟨3, -1, by norm_num, by norm_num, by norm_num, by norm_num⟩
  have hneg : Representable (-3 / 2) := by simpa [neg_div] using hthree.neg
  obtain ⟨hlow, hhigh⟩ := abs_le.mp hq
  rw [ActionValidator.clampAngular, ofRat_of_representable hneg, ofRat_of_representable hthree]
  exact h.clamp (by linarith) hhigh

theorem near_clampDuration {q ε : ℚ} (h : Near x q ε) (hlow : 0 ≤ q) (hhigh : q ≤ 10) :
    Near (ActionValidator.clampDuration x) q ε := by
  obtain ⟨hten, hupper⟩ := ofRat_intCast (n := 10) (by norm_num)
  norm_num at hupper
  rw [ActionValidator.clampDuration, ofRat_of_representable representable_zero, hupper]
  exact h.clamp hlow (by exact_mod_cast hhigh)

end Guarding

section Angles

variable {R S r d m n e e' : ℚ}

theorem product_near (hr : |r - R| ≤ e) (hd : |d - S| ≤ e') (he : e ≤ 502 / 10 ^ 5 * |R|)
    (he' : e' ≤ 4 / 10 ^ 3 * S) (hS : 0 ≤ S) : |r * d - R * S| ≤ |R * S| / 100 := by
  have hsplit : r * d - R * S = (r - R) * S + (R * (d - S) + (r - R) * (d - S)) := by ring
  have hR := abs_nonneg R
  calc |r * d - R * S| ≤ |(r - R) * S| + (|R * (d - S)| + |(r - R) * (d - S)|) := by
        rw [hsplit]
        exact (abs_add_le _ _).trans (add_le_add_right (abs_add_le _ _) _)
    _ = |r - R| * S + (|R| * |d - S| + |r - R| * |d - S|) := by
        rw [abs_mul, abs_mul, abs_mul, abs_of_nonneg hS]
    _ ≤ 502 / 10 ^ 5 * |R| * S + (|R| * (4 / 10 ^ 3 * S) +
          502 / 10 ^ 5 * |R| * (4 / 10 ^ 3 * S)) := by
        have hr' := hr.trans he
        have hd' := hd.trans he'
        gcongr
    _ ≤ |R * S| / 100 := by
        rw [abs_mul, abs_of_nonneg hS]
        have hRS := mul_nonneg hR hS
        linarith

theorem product_bound (hr : |r| ≤ m + e) (hd : |d| ≤ n + e') (hm : 0 ≤ m) (hn : 0 ≤ n)
    (hmR : m ≤ |R|) (hnS : n ≤ S) (he0 : 0 ≤ e) (he : e ≤ 502 / 10 ^ 5 * |R|) (he0' : 0 ≤ e')
    (he' : e' ≤ 4 / 10 ^ 3 * S) (hS : 0 ≤ S) (hkept : |r * d - R * S| ≤ |R * S| / 100) :
    49 / 50 * (|R| * S) ≤ m * n := by
  have hRS : |R * S| = |R| * S := by rw [abs_mul, abs_of_nonneg hS]
  have hlow : 99 / 100 * (|R| * S) ≤ |r| * |d| := by
    have htriangle := abs_sub_abs_le_abs_sub (R * S) (r * d)
    rw [abs_sub_comm] at htriangle
    rw [abs_mul r d, hRS] at htriangle
    rw [hRS] at hkept
    linarith
  have hhigh : |r| * |d| ≤ (m + e) * (n + e') :=
    mul_le_mul hr hd (abs_nonneg _) (add_nonneg hm he0)
  have hen : e * n ≤ 502 / 10 ^ 5 * |R| * S := mul_le_mul he hnS hn (by positivity)
  have hme : m * e' ≤ |R| * (4 / 10 ^ 3 * S) := mul_le_mul hmR he' he0' (abs_nonneg _)
  have hee : e * e' ≤ 502 / 10 ^ 5 * |R| * (4 / 10 ^ 3 * S) :=
    mul_le_mul he he' he0' (by positivity)
  have hnonneg := mul_nonneg (abs_nonneg R) hS
  linarith

end Angles

variable {t : Texts} {source fallbackCommandId fallbackSource : String} {preferences : Dict}
  {action : ActionCommand} {rate duration : ℚ}

theorem Scaled.errors {args : Dict} {f : ℚ} (h : Scaled t args rate duration f)
    (hf : f = 3 / 4 ∨ f = 1 ∨ f = 23 / 20) (hlow : 13 / 30 ≤ duration)
    (hlegible : f = 1 ∨ 1 / 100 ≤ |rate * f|) :
    ∃ x y e e', (args.lookup "angular_z").bind (toFloat t) = some x ∧
      (args.lookup "duration_s").bind (toFloat t) = some y ∧
      (|rate * f| ≤ 3 / 2 → Near x (rate * f) e) ∧
      (duration / f ≤ 10 → Near y (duration / f) e') ∧
      0 ≤ e ∧ e ≤ 502 / 10 ^ 5 * |rate * f| ∧ 0 ≤ e' ∧ e' ≤ 4 / 10 ^ 3 * (duration / f) := by
  obtain ⟨x, hx, hsame, hscaled⟩ := h.rate
  obtain ⟨y, hy, hsame', hstretched⟩ := h.duration
  by_cases hone : f = 1
  · subst hone
    obtain ⟨hrate, rfl⟩ := hsame rfl
    refine ⟨_, y, 0, durationError, hx, hy, fun _ ↦ ?_, fun _ ↦ ?_, le_rfl, by positivity,
      by norm_num [durationError], ?_⟩
    · rw [mul_one]
      exact near_finite hrate
    · rw [div_one]
      exact hsame' rfl
    · rw [div_one, durationError]
      linarith
  · have hlegible' := hlegible.resolve_left hone
    refine ⟨x, y, rateError, stretchedError, hx, hy, hscaled hone,
      fun hhigh ↦ hstretched hone (by linarith), by norm_num [rateError], ?_,
      by norm_num [stretchedError], ?_⟩
    · rw [rateError]
      linarith
    · have hle : duration * (20 / 23) ≤ duration / f := by
        rcases hf with rfl | rfl | rfl
        · linarith
        · exact absurd rfl hone
        · linarith
      rw [stretchedError]
      linarith

theorem default_turn_kept (h : DefaultTurn t preferences action rate duration)
    (hlegible : speedFactor t preferences = 1 ∨ 1 / 100 ≤ |rate * speedFactor t preferences|) :
    (|rate * speedFactor t preferences| ≤ 3 / 2 → duration / speedFactor t preferences ≤ 10 →
      AngleKept t source fallbackCommandId fallbackSource (applyToAction t preferences action)
        (rate * duration)) ∧
    (AngleKept t source fallbackCommandId fallbackSource (applyToAction t preferences action)
        (rate * duration) →
      49 / 50 * |rate * duration| ≤ min (3 / 2) |rate * speedFactor t preferences| *
        min 10 (duration / speedFactor t preferences)) := by
  obtain ⟨hrate, hrate'⟩ := h.rate
  have hf := speedFactor_cases t preferences
  have hlow := h.duration.bounds.1
  have happlied : applyToAction t preferences action =
      { action with arguments := adjusted t preferences "turn" action.arguments } := by
    rw [applyToAction, h.name, if_neg (by decide)]
  obtain ⟨x, y, e, e', hx, hy, hnear, hnear', he0, he, he0', he'⟩ :=
    (adjusted_turn hrate' h.duration).errors hf hlow hlegible
  obtain ⟨hid, hpriority, hx, hy⟩ : (applyToAction t preferences action).requestId ≠ "" ∧
      (applyToAction t preferences action).priority = false ∧
      ((applyToAction t preferences action).arguments.lookup "angular_z").bind (toFloat t) =
        some x ∧
      ((applyToAction t preferences action).arguments.lookup "duration_s").bind (toFloat t) =
        some y := by
    rw [happlied]
    exact ⟨h.requestId, h.priority, hx, hy⟩
  generalize applyToAction t preferences action = sent at hid hpriority hx hy
  generalize speedFactor t preferences = f at hf hnear hnear' he he'
  have hfpos : 0 < f := by rcases hf with rfl | rfl | rfl <;> norm_num
  have hS : 0 ≤ duration / f := div_nonneg (by linarith) hfpos.le
  have hangle : rate * duration = rate * f * (duration / f) := by
    field_simp
  rw [hangle]
  constructor
  · intro hrateLimit hdurationLimit
    obtain ⟨r, hr, hreq, hrnear⟩ := near_clampAngular (hnear hrateLimit) hrateLimit
    obtain ⟨d, hd, hdeq, hdnear⟩ := near_clampDuration (hnear' hdurationLimit) hS hdurationLimit
    obtain ⟨v, hv, rfl, -⟩ := hnear hrateLimit
    obtain ⟨w, hw, rfl, -⟩ := hnear' hdurationLimit
    exact ⟨_, r, hr, d, hd, (guarded_eq hid hpriority hx hy).trans (if_pos rfl), hreq, hdeq,
      product_near hrnear hdnear he he' hS⟩
  · rintro ⟨command, r, hr, d, hd, hguarded, hreq, hdeq, hkept⟩
    obtain ⟨hfx, hfy, hangular, hstretched⟩ := guarded_some hid hpriority hx hy hguarded
    rw [hangular] at hreq
    rw [hstretched] at hdeq
    rw [abs_mul, abs_of_nonneg hS]
    refine product_bound (r := r) (d := d) (e := e) ?_ ?_ ?_ ?_ (min_le_right _ _)
      (min_le_right _ _) he0 he he0' he' hS hkept
    · rcases le_total |rate * f| (3 / 2) with hle | hle
      · obtain ⟨r', hr', hreq', hrnear⟩ := near_clampAngular (hnear hle) hle
        obtain ⟨rfl, -⟩ := Double.finite.inj (hreq'.symm.trans hreq)
        have htriangle := abs_sub_abs_le_abs_sub r (rate * f)
        rw [min_eq_right hle]
        linarith
      · obtain ⟨r', hr', hreq', hrlow, hrhigh⟩ := ActionValidator.clampAngular_between hfx
        obtain ⟨rfl, -⟩ := Double.finite.inj (hreq'.symm.trans hreq)
        rw [min_eq_left hle]
        exact (abs_le.mpr ⟨by linarith, hrhigh⟩).trans (by linarith)
    · rcases le_total (duration / f) 10 with hle | hle
      · obtain ⟨d', hd', hdeq', hdnear⟩ := near_clampDuration (hnear' hle) hS hle
        obtain ⟨rfl, -⟩ := Double.finite.inj (hdeq'.symm.trans hdeq)
        have htriangle := abs_sub_abs_le_abs_sub d (duration / f)
        rw [min_eq_right hle]
        rw [abs_of_nonneg hS] at htriangle
        linarith
      · obtain ⟨d', hd', hdeq', hdlow, hdhigh⟩ := ActionValidator.clampDuration_between hfy
        obtain ⟨rfl, -⟩ := Double.finite.inj (hdeq'.symm.trans hdeq)
        rw [min_eq_left hle, abs_of_nonneg hdlow]
        linarith
    · exact le_min (by norm_num) (abs_nonneg _)
    · exact le_min (by norm_num) hS

/-- Texts are no numbers, and no other value is written as a speed. -/
def plainTexts : Texts := ⟨fun _ ↦ none, fun _ ↦ ""⟩

def slowPreferences : Dict := [("movement_speed", .str "slow"), ("default_turn_degrees", .int 90)]

def quarterTurn : ActionCommand :=
  { name := "turn"
    arguments := [("angular_z", .int 1), ("duration_s", .float (.ofRat (13 / 5)))]
    requestId := "agent-action-1" }

theorem slow_quarterTurn_kept : AngleKept plainTexts "agent" "" ""
    (applyToAction plainTexts slowPreferences quarterTurn) (1 * (13 / 5 * 90 / 90)) := by
  have hone : Representable 1 := representable_one
  have hfactor : speedFactor plainTexts slowPreferences = 3 / 4 := by decide +kernel
  have hturn : DefaultTurn plainTexts slowPreferences quarterTurn 1 (13 / 5 * 90 / 90) := by
    refine ⟨rfl, by decide, rfl, ⟨hone, ?_⟩, ?_⟩
    · exact safeFloat_int plainTexts 1 (by norm_num)
    · exact .preferred (safeFloat_int plainTexts 90 (by norm_num)) (by norm_num) (by norm_num)
        (.inr (by decide +kernel))
  refine (default_turn_kept hturn ?_).1 ?_ ?_
  · rw [hfactor]
    norm_num [abs_of_pos]
  · rw [hfactor]
    norm_num [abs_of_pos]
  · rw [hfactor]
    norm_num

def spin : ActionCommand :=
  { name := "turn"
    arguments :=
      [("angular_z", .float (.ofRat (4 / 5))), ("duration_s", .float (.ofRat (157 / 20)))]
    requestId := "agent-action-1" }

/-- A slow spin would take longer than the guard allows. -/
theorem slow_spin_cut : ∃ rate duration,
    DefaultTurn plainTexts [("movement_speed", .str "slow")] spin rate duration ∧
      ¬ AngleKept plainTexts "agent" "" ""
        (applyToAction plainTexts [("movement_speed", .str "slow")] spin) (rate * duration) := by
  obtain ⟨rate, hrate, hrateEq, hrateNear⟩ := near_ofRat (q := 4 / 5) (by norm_num [abs_of_pos])
  obtain ⟨duration, hduration, hdurationEq, hdurationNear⟩ :=
    near_ofRat (q := 157 / 20) (by norm_num [abs_of_pos])
  obtain ⟨left, hleft, hleftEq, hleftNear⟩ := near_ofRat (q := 3 / 5) (by norm_num [abs_of_pos])
  obtain ⟨hten, htenEq⟩ := ofRat_intCast (n := 10) (by norm_num)
  have hspin : (guarded plainTexts "agent" "" "" (applyToAction plainTexts
      [("movement_speed", .str "slow")] spin)).map (fun c ↦ (c.angularZ, c.durationS)) =
        some (.ofRat (3 / 5), .ofRat (10 : ℤ)) := by
    decide +kernel
  refine ⟨rate, duration, ⟨rfl, by decide, rfl, ⟨hrate, ?_⟩, ?_⟩, ?_⟩
  · rw [← hrateEq]
    exact safeFloat_float (by rw [hrateEq]; rfl)
  · refine @TurnDuration.original plainTexts _ _ duration hduration ?_ (.inr ?_)
    · rw [← hdurationEq]
      exact safeFloat_float (by rw [hdurationEq]; rfl)
    · rw [← hdurationEq]
      decide +kernel
  · rintro ⟨command, r, hr, d, hd, hguarded, hreq, hdeq, hkept⟩
    rw [hguarded, hleftEq, htenEq, Option.map_some, hreq, hdeq] at hspin
    obtain ⟨hr', hd'⟩ := Prod.mk.inj (Option.some.inj hspin)
    obtain ⟨rfl, -⟩ := Double.finite.inj hr'
    obtain ⟨rfl, -⟩ := Double.finite.inj hd'
    norm_num [unit] at hrateNear hdurationNear hleftNear
    rw [abs_le] at hrateNear hdurationNear hleftNear
    have hangle : 627 / 100 ≤ rate * duration := by nlinarith
    rw [abs_of_pos (by linarith : 0 < rate * duration)] at hkept
    push_cast at hkept
    have hlow := (abs_le.mp hkept).1
    linarith

end EmbodiedAgent.Agent.UserPreferences
