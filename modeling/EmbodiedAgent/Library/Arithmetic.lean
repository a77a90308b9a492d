import EmbodiedAgent.Library.Binary64

namespace EmbodiedAgent.Library

class Extended (α : Type*) where
  isFinite : α → Bool
  belowInfinity : α → Bool

/-- Exact numbers are all finite. -/
instance (priority := low) Extended.exact {K : Type*} [Field K] [LinearOrder K] : Extended K :=
  ⟨fun _ ↦ true, fun _ ↦ true⟩

namespace Double

instance : One Double := ⟨.ofRat 1⟩

instance : Add Double := ⟨Double.add⟩

instance : Sub Double := ⟨Double.sub⟩

instance : Mul Double := ⟨Double.mul⟩

instance : Div Double := ⟨Double.div⟩

instance : NatCast Double := ⟨fun n ↦ .ofRat n⟩

instance : OfScientific Double := ⟨fun m s e ↦ .ofRat (OfScientific.ofScientific m s e)⟩

instance : Extended Double := ⟨Double.isFinite, fun x ↦ decide (x < .infinite false)⟩

theorem div_not_neg {x y : Double} (hx : ¬ x < 0) (hy : ¬ y ≤ 0) : ¬ x.div y < 0 := by
  intro hneg
  cases x with
  | nan => cases hneg
  | infinite negative =>
    cases negative with
    | true => exact hx rfl
    | false =>
      cases y with
      | nan | infinite => cases hneg
      | finite b hb =>
        have hb' : 0 < b := not_le.mp fun hle ↦ hy (finite_le_finite.mpr hle)
        rw [div, decide_eq_false (not_lt.mpr hb'.le)] at hneg
        cases hneg
  | finite a ha =>
    cases y with
    | nan => cases hneg
    | infinite negative => exact lt_irrefl _ hneg
    | finite b hb =>
      have ha' : 0 ≤ a := not_lt.mp fun hlt ↦ hx (finite_lt_finite.mpr hlt)
      have hb' : 0 < b := not_le.mp fun hle ↦ hy (finite_le_finite.mpr hle)
      rw [div, if_neg hb'.ne'] at hneg
      exact lt_irrefl _ (lt_of_le_of_lt (ofRat_nonneg (div_nonneg ha' hb'.le)) hneg)

theorem le_of_lt {x y : Double} (h : x < y) : x ≤ y := by
  have hx : x ≠ nan := by
    rintro rfl
    cases h
  exact (le_iff_not_lt hx (ne_nan_of_lt h)).mpr fun hlt ↦ lt_irrefl x (lt_trans h hlt)

theorem one_eq : (1 : Double) = finite 1 representable_one :=
  ofRat_of_representable representable_one

theorem mul_le_one {c z : Double} (hc0 : 0 ≤ c) (hc1 : c ≤ 1) (hz : z ≤ 1) (h : 0 < c.mul z) :
    c.mul z ≤ 1 := by
  rw [one_eq] at hc1 hz ⊢
  cases c with
  | nan => cases hc0
  | infinite negative =>
    cases negative
    · cases hc1
    · cases hc0
  | finite a ha =>
    have ha0 : 0 ≤ a := finite_le_finite.mp hc0
    have ha1 : a ≤ 1 := finite_le_finite.mp hc1
    cases z with
    | nan => cases hz
    | infinite negative =>
      cases negative with
      | false => cases hz
      | true =>
        rw [mul] at h
        split_ifs at h
        · cases h
        · rw [decide_eq_false (not_lt.mpr ha0)] at h
          cases h
    | finite b hb =>
      have hb1 : b ≤ 1 := finite_le_finite.mp hz
      refine ofRat_le_finite representable_one ?_
      by_cases hb0 : 0 ≤ b
      · exact mul_le_one₀ ha1 hb0 hb1
      · exact (mul_nonpos_of_nonneg_of_nonpos ha0 (not_le.mp hb0).le).trans zero_le_one

end Double

section Order

variable {α : Type*} [LT α] [DecidableLT α]

def stdMax (a b : α) : α := if a < b then b else a

def stdMin (a b : α) : α := if b < a then b else a

def ltExtended [Extended α] (a : α) : Option α → Bool
  | none => Extended.belowInfinity a
  | some b => decide (a < b)

end Order

theorem stdMax_eq_max {K : Type*} [LinearOrder K] (a b : K) : stdMax a b = max a b := by
  rw [stdMax, max_def]
  rcases lt_trichotomy a b with h | h | h
  · rw [if_pos h, if_pos h.le]
  · rw [if_neg h.not_lt, if_pos h.le, h]
  · rw [if_neg h.not_gt, if_neg h.not_ge]

variable {K : Type*} [Field K] [LinearOrder K]

theorem ltExtended_none (a : K) : ltExtended a none = true := rfl

theorem ltExtended_some (a b : K) : ltExtended a (some b) = true ↔ a < b := decide_eq_true_iff

/-- `1e-12`, which tolerates a rounding error. -/
def slack : K := ((10 ^ 12 : ℕ) : K)⁻¹

theorem slack_pos [IsStrictOrderedRing K] : (0 : K) < slack := by
  rw [slack]
  positivity

end EmbodiedAgent.Library
