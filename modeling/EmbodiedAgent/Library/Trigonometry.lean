import Mathlib.Analysis.SpecialFunctions.Complex.Arg

namespace EmbodiedAgent.Library

/-- Cosine and sine over exact numbers, by their identities. -/
structure Trigonometry (K : Type*) [Field K] [LinearOrder K] where
  pi : K
  cos : K → K
  sin : K → K
  pi_pos : 0 < pi
  cos_add : ∀ a b, cos (a + b) = cos a * cos b - sin a * sin b
  sin_add : ∀ a b, sin (a + b) = sin a * cos b + cos a * sin b
  cos_neg : ∀ a, cos (-a) = cos a
  sin_neg : ∀ a, sin (-a) = -sin a
  cos_sq_add_sin_sq : ∀ a, cos a * cos a + sin a * sin a = 1
  cos_turn : cos (pi + pi) = 1
  sin_turn : sin (pi + pi) = 0

noncomputable def realTrigonometry : Trigonometry ℝ where
  pi := Real.pi
  cos := Real.cos
  sin := Real.sin
  pi_pos := Real.pi_pos
  cos_add := Real.cos_add
  sin_add := Real.sin_add
  cos_neg := Real.cos_neg
  sin_neg := Real.sin_neg
  cos_sq_add_sin_sq a := by
    rw [← sq, ← sq]
    exact Real.cos_sq_add_sin_sq a
  cos_turn := by rw [← two_mul, Real.cos_two_pi]
  sin_turn := by rw [← two_mul, Real.sin_two_pi]

/-- Square roots and the angle of a direction besides, by their identities. -/
structure Polar (K : Type*) [Field K] [LinearOrder K] extends Trigonometry K where
  sqrt : K → K
  atan2 : K → K → K
  sqrt_nonneg : ∀ a, 0 ≤ sqrt a
  sqrt_mul_sqrt : ∀ a, 0 ≤ a → sqrt a * sqrt a = a
  sqrt_mul_cos_atan2 : ∀ y x, sqrt (x * x + y * y) * cos (atan2 y x) = x
  sqrt_mul_sin_atan2 : ∀ y x, sqrt (x * x + y * y) * sin (atan2 y x) = y
  atan2_zero : ∀ x, 0 ≤ x → atan2 0 x = 0

noncomputable def realPolar : Polar ℝ where
  toTrigonometry := realTrigonometry
  sqrt := Real.sqrt
  atan2 y x := Complex.arg ⟨x, y⟩
  sqrt_nonneg := Real.sqrt_nonneg
  sqrt_mul_sqrt _ h := Real.mul_self_sqrt h
  sqrt_mul_cos_atan2 y x := Complex.norm_mul_cos_arg ⟨x, y⟩
  sqrt_mul_sin_atan2 y x := Complex.norm_mul_sin_arg ⟨x, y⟩
  atan2_zero _ h := Complex.arg_ofReal_of_nonneg h

namespace Polar

variable {K : Type*} [Field K] [LinearOrder K] (polar : Polar K)

/-- `std::hypot` -/
def hypot (x y : K) : K := polar.sqrt (x * x + y * y)

theorem sqrt_zero : polar.sqrt 0 = 0 := mul_self_eq_zero.mp (polar.sqrt_mul_sqrt 0 le_rfl)

theorem hypot_zero : polar.hypot 0 0 = 0 := by
  rw [hypot, mul_zero, add_zero, polar.sqrt_zero]

end Polar

namespace Trigonometry

variable {K : Type*} [Field K] [LinearOrder K] (trig : Trigonometry K)

def turn : K := trig.pi + trig.pi

theorem turn_pos [IsStrictOrderedRing K] : 0 < trig.turn := add_pos trig.pi_pos trig.pi_pos

theorem cos_zero : trig.cos 0 = 1 := by
  have h := trig.cos_add (trig.pi + trig.pi) 0
  rw [add_zero, trig.cos_turn, trig.sin_turn] at h
  rw [h]
  ring

theorem sin_zero [IsStrictOrderedRing K] : trig.sin 0 = 0 := by
  have h := trig.sin_neg 0
  rw [neg_zero] at h
  linarith

theorem add_turn (a : K) :
    trig.cos (a + trig.turn) = trig.cos a ∧ trig.sin (a + trig.turn) = trig.sin a := by
  rw [trig.cos_add, trig.sin_add, turn, trig.cos_turn, trig.sin_turn]
  constructor <;> ring

theorem add_nat_turns (a : K) (n : ℕ) :
    trig.cos (a + n * trig.turn) = trig.cos a ∧ trig.sin (a + n * trig.turn) = trig.sin a := by
  induction n with
  | zero => simp
  | succ n ih =>
    have heq : a + (n + 1 : ℕ) * trig.turn = a + n * trig.turn + trig.turn := by
      push_cast
      ring
    rw [heq, (trig.add_turn _).1, (trig.add_turn _).2]
    exact ih

def SameHeading (a b : K) : Prop := ∃ k : ℤ, a = b + k * trig.turn

variable {trig} {a b c : K}

theorem SameHeading.refl (a : K) : trig.SameHeading a a := ⟨0, by simp⟩

theorem SameHeading.trans (h : trig.SameHeading a b) (h' : trig.SameHeading b c) :
    trig.SameHeading a c := by
  obtain ⟨k, rfl⟩ := h
  obtain ⟨k', rfl⟩ := h'
  refine ⟨k' + k, ?_⟩
  push_cast
  ring

theorem SameHeading.symm (h : trig.SameHeading a b) : trig.SameHeading b a := by
  obtain ⟨k, rfl⟩ := h
  refine ⟨-k, ?_⟩
  push_cast
  ring

theorem SameHeading.add (h : trig.SameHeading a b) (c : K) : trig.SameHeading (a + c) (b + c) := by
  obtain ⟨k, rfl⟩ := h
  exact ⟨k, by ring⟩

theorem SameHeading.sub {d : K} (h : trig.SameHeading a b) (h' : trig.SameHeading c d) :
    trig.SameHeading (a - c) (b - d) := by
  obtain ⟨k, rfl⟩ := h
  obtain ⟨k', rfl⟩ := h'
  refine ⟨k - k', ?_⟩
  push_cast
  ring

theorem SameHeading.cos_sin (h : trig.SameHeading a b) :
    trig.cos a = trig.cos b ∧ trig.sin a = trig.sin b := by
  obtain ⟨k, rfl⟩ := h
  obtain ⟨n, rfl | rfl⟩ := k.eq_nat_or_neg
  · exact_mod_cast trig.add_nat_turns b n
  · have hback := trig.add_nat_turns (b + ((-(n : ℤ) : ℤ) : K) * trig.turn) n
    have heq : b + ((-(n : ℤ) : ℤ) : K) * trig.turn + n * trig.turn = b := by
      push_cast
      ring
    rw [heq] at hback
    exact ⟨hback.1.symm, hback.2.symm⟩

end Trigonometry

end EmbodiedAgent.Library
