import EmbodiedAgent.Library.Binary64

namespace EmbodiedAgent.Library

variable {p q : ℚ}

theorem roundHalfEven_mono (h : p ≤ q) : roundHalfEven p ≤ roundHalfEven q := by
  have hfloor : ⌊p⌋ ≤ ⌊q⌋ := Int.floor_mono h
  rcases hfloor.lt_or_eq with hlt | heq
  · have hp : roundHalfEven p ≤ ⌊p⌋ + 1 :=
      roundHalfEven_le (by exact_mod_cast (Int.lt_floor_add_one p).le)
    have hq : ⌊q⌋ ≤ roundHalfEven q := le_roundHalfEven (Int.floor_le q)
    omega
  · have hfract : Int.fract p ≤ Int.fract q := by
      rw [Int.fract, Int.fract, heq]
      exact sub_le_sub_right h _
    rw [roundHalfEven, roundHalfEven, heq]
    split_ifs <;> first | omega | linarith

theorem toNearest_le_top (q : ℚ) : toNearest q ≤ 2 ^ 53 * 2 ^ ulpExponent q := by
  have h : roundHalfEven (q / 2 ^ ulpExponent q) ≤ 2 ^ 53 :=
    (le_abs_self _).trans (abs_significand_le q)
  exact mul_le_mul_of_nonneg_right (by exact_mod_cast h) (zpow_two_pos _).le

theorem toNearest_mono (hp : 0 ≤ p) (h : p ≤ q) : toNearest p ≤ toNearest q := by
  rcases hp.eq_or_lt with rfl | hpos
  · rw [toNearest_zero]
    exact representable_zero.le_toNearest h
  have hlog : Int.log 2 |p| ≤ Int.log 2 |q| := by
    rw [abs_of_pos hpos, abs_of_pos (hpos.trans_le h)]
    exact Int.log_mono_right hpos h
  have hulp : ulpExponent p ≤ ulpExponent q := by
    rw [ulpExponent, ulpExponent]
    omega
  rcases hulp.lt_or_eq with hlt | heq
  · -- a power of two lies between the two numbers
    have hbottom : -1074 < ulpExponent q :=
      lt_of_le_of_lt (le_max_right (Int.log 2 |p| - 52) (-1074)) hlt
    calc toNearest p ≤ 2 ^ 53 * 2 ^ ulpExponent p := toNearest_le_top p
      _ = ((2 ^ 52 : ℤ) : ℚ) * 2 ^ (ulpExponent p + 1) := by
        rw [zpow_two_add]
        norm_num
        ring
      _ ≤ ((2 ^ 52 : ℤ) : ℚ) * 2 ^ ulpExponent q :=
        mul_le_mul_of_nonneg_left (zpow_le_zpow_right₀ one_le_two (by omega)) (by norm_num)
      _ = 2 ^ Int.log 2 |q| := binade_eq hbottom
      _ ≤ toNearest q := binade_le_toNearest hbottom (hpos.trans_le h)
  · have hround : roundHalfEven (p / 2 ^ ulpExponent q) ≤
        roundHalfEven (q / 2 ^ ulpExponent q) :=
      roundHalfEven_mono (div_le_div_of_nonneg_right h (zpow_two_pos _).le)
    rw [toNearest, toNearest, heq]
    exact mul_le_mul_of_nonneg_right (by exact_mod_cast hround) (zpow_two_pos _).le

namespace Double

theorem ofRat_mono (hp : 0 ≤ p) (h : p ≤ q) : ofRat p ≤ ofRat q := by
  have hle := toNearest_mono hp h
  have hp' : 0 ≤ toNearest p := representable_zero.le_toNearest hp
  have habs : |toNearest p| ≤ |toNearest q| := by
    rwa [abs_of_nonneg hp', abs_of_nonneg (hp'.trans hle)]
  have hsign : decide (q < 0) = false := decide_eq_false (hp.trans h).not_gt
  rw [ofRat, ofRat, hsign]
  split_ifs with hsmall hsmall' hsmall'
  · exact finite_le_finite.mpr hle
  · rfl
  · exact absurd (habs.trans_lt hsmall') hsmall
  · exact Bool.or_true _

variable {x y z : Double}

theorem add_le_add_right (hx : 0 ≤ x) (hxy : x ≤ y) (hz : 0 ≤ z) : x.add z ≤ y.add z := by
  cases x with
  | nan => cases hx
  | infinite negative =>
    cases negative
    · cases y with
      | nan => cases hxy
      | infinite negative =>
        cases negative
        · cases z with
          | nan => cases hz
          | infinite negative =>
            cases negative
            · rfl
            · cases hz
          | finite c hc => rfl
        · cases hxy
      | finite b hb => cases hxy
    · cases hx
  | finite a ha =>
    cases z with
    | nan => cases hz
    | infinite negative =>
      cases negative
      · cases y with
        | nan => cases hxy
        | infinite negative =>
          cases negative
          · rfl
          · cases hxy
        | finite b hb => rfl
      · cases hz
    | finite c hc =>
      have ha' : 0 ≤ a := finite_le_finite.mp hx
      have hc' : 0 ≤ c := finite_le_finite.mp hz
      have hsum : (0 : ℚ) ≤ a + c := Rat.add_nonneg ha' hc'
      cases y with
      | nan => cases hxy
      | infinite negative =>
        cases negative
        · rw [add, add]
          have htop := ofRat_nonneg hsum
          cases hv : ofRat (a + c) with
          | nan => exact absurd hv (ofRat_ne_nan _)
          | infinite negative => exact Bool.or_true _
          | finite v hv => rfl
        · cases hxy
      | finite b hb =>
        exact ofRat_mono hsum (by linarith [finite_le_finite.mp hxy])

/-- The sum of durations, added up one after another from `x` on. -/
def total (x : Double) (durations : List Double) : Double := durations.foldl add x

end Double

end EmbodiedAgent.Library
