import EmbodiedAgent.Library.Trigonometry

namespace EmbodiedAgent.Slam.Planar

open Library

structure Pose2d (K : Type) where
  x : K
  y : K
  yaw : K

/-- `LidarPoint2D` -/
structure Point (K : Type) where
  x : K
  y : K

variable {K : Type} [Field K] [LinearOrder K] (trig : Trigonometry K)

section Angles

def turnBack : ℕ → K → K
  | 0, angle => angle
  | n + 1, angle => if trig.pi < angle then turnBack n (angle - trig.turn) else angle

def turnForth : ℕ → K → K
  | 0, angle => angle
  | n + 1, angle => if angle < -trig.pi then turnForth n (angle + trig.turn) else angle

variable {trig} {n : ℕ} {angle : K}

theorem turnBack_sameHeading (n : ℕ) (angle : K) :
    trig.SameHeading (turnBack trig n angle) angle := by
  induction n generalizing angle with
  | zero => exact .refl angle
  | succ n ih =>
    rw [turnBack]
    split_ifs
    · refine (ih (angle - trig.turn)).trans ⟨-1, ?_⟩
      push_cast
      ring
    · exact .refl angle

theorem turnForth_sameHeading (n : ℕ) (angle : K) :
    trig.SameHeading (turnForth trig n angle) angle := by
  induction n generalizing angle with
  | zero => exact .refl angle
  | succ n ih =>
    rw [turnForth]
    split_ifs
    · refine (ih (angle + trig.turn)).trans ⟨1, ?_⟩
      push_cast
      ring
    · exact .refl angle

section Bounds

variable [IsStrictOrderedRing K]

theorem turnBack_le (h : angle ≤ trig.pi + n * trig.turn) : turnBack trig n angle ≤ trig.pi := by
  induction n generalizing angle with
  | zero => simpa [turnBack] using h
  | succ n ih =>
    rw [turnBack]
    split_ifs with hlt
    · refine ih ?_
      push_cast at h
      linarith
    · exact not_lt.mp hlt

theorem le_turnBack (h : -trig.pi ≤ angle ∨ turnBack trig n angle ≠ angle) :
    -trig.pi ≤ turnBack trig n angle := by
  have hturn := trig.turn_pos
  induction n generalizing angle with
  | zero => exact h.resolve_right fun hne ↦ hne rfl
  | succ n ih =>
    rw [turnBack] at h ⊢
    split_ifs at h ⊢ with hlt
    · refine ih (.inl ?_)
      rw [Trigonometry.turn]
      linarith
    · exact h.resolve_right fun hne ↦ hne rfl

theorem turnForth_ge (h : -trig.pi - n * trig.turn ≤ angle) :
    -trig.pi ≤ turnForth trig n angle := by
  induction n generalizing angle with
  | zero => simpa [turnForth] using h
  | succ n ih =>
    rw [turnForth]
    split_ifs with hlt
    · refine ih ?_
      push_cast at h
      linarith
    · exact not_lt.mp hlt

theorem turnForth_le (h : angle ≤ trig.pi) : turnForth trig n angle ≤ trig.pi := by
  induction n generalizing angle with
  | zero => exact h
  | succ n ih =>
    rw [turnForth]
    split_ifs with hlt
    · refine ih ?_
      rw [Trigonometry.turn]
      linarith
    · exact h

end Bounds

variable [FloorRing K]

variable (trig) in
def turnsIn (angle : K) : ℕ := ⌈|angle| / trig.turn⌉₊

variable (trig) in
def normalizeAngle (angle : K) : K :=
  turnForth trig (turnsIn trig angle) (turnBack trig (turnsIn trig angle) angle)

variable (trig) in
theorem normalizeAngle_sameHeading (angle : K) :
    trig.SameHeading (normalizeAngle trig angle) angle :=
  (turnForth_sameHeading _ _).trans (turnBack_sameHeading _ _)

variable [IsStrictOrderedRing K]

variable (trig) in
theorem abs_le_turnsIn (angle : K) : |angle| ≤ turnsIn trig angle * trig.turn := by
  have h : |angle| / trig.turn ≤ (turnsIn trig angle : K) := Nat.le_ceil _
  rwa [div_le_iff₀ trig.turn_pos] at h

theorem normalizeAngle_range (angle : K) : -trig.pi ≤ normalizeAngle trig angle ∧
    normalizeAngle trig angle ≤ trig.pi ∧ trig.SameHeading (normalizeAngle trig angle) angle := by
  have hturns := abs_le_turnsIn trig angle
  have hpi := trig.pi_pos
  refine ⟨?_, ?_, normalizeAngle_sameHeading trig angle⟩
  · refine turnForth_ge ?_
    by_cases heq : turnBack trig (turnsIn trig angle) angle = angle
    · rw [heq]
      linarith [neg_abs_le angle]
    · have hback := le_turnBack (.inr heq)
      have hnonneg := mul_nonneg (Nat.cast_nonneg (α := K) (turnsIn trig angle)) trig.turn_pos.le
      linarith
  · refine turnForth_le (turnBack_le ?_)
    linarith [le_abs_self angle]

omit [IsStrictOrderedRing K] in
theorem normalizeAngle_of_range (hlow : -trig.pi ≤ angle) (hhigh : angle ≤ trig.pi) :
    normalizeAngle trig angle = angle := by
  have hback : ∀ n, turnBack trig n angle = angle := by
    intro n
    cases n with
    | zero => rfl
    | succ n => rw [turnBack, if_neg hhigh.not_gt]
  have hforth : ∀ n, turnForth trig n angle = angle := by
    intro n
    cases n with
    | zero => rfl
    | succ n => rw [turnForth, if_neg hlow.not_gt]
  rw [normalizeAngle, hback, hforth]

variable (trig) in
theorem normalizeAngle_zero : normalizeAngle trig 0 = 0 :=
  normalizeAngle_of_range (neg_nonpos.mpr trig.pi_pos.le) trig.pi_pos.le

end Angles

/-- A pose applied to a point of its frame. -/
def transformPoint (pose : Pose2d K) (p : Point K) : Point K :=
  { x := trig.cos pose.yaw * p.x - trig.sin pose.yaw * p.y + pose.x
    y := trig.sin pose.yaw * p.x + trig.cos pose.yaw * p.y + pose.y }

theorem transformPoint_identity [IsStrictOrderedRing K] :
    transformPoint trig ⟨0, 0, 0⟩ = id := by
  funext p
  rw [transformPoint]
  dsimp only
  rw [trig.cos_zero, trig.sin_zero]
  simp

variable [FloorRing K]

def compose (left right : Pose2d K) : Pose2d K :=
  { x := trig.cos left.yaw * right.x - trig.sin left.yaw * right.y + left.x
    y := trig.sin left.yaw * right.x + trig.cos left.yaw * right.y + left.y
    yaw := normalizeAngle trig (left.yaw + right.yaw) }

def inverse (pose : Pose2d K) : Pose2d K :=
  { x := -trig.cos pose.yaw * pose.x - trig.sin pose.yaw * pose.y
    y := trig.sin pose.yaw * pose.x - trig.cos pose.yaw * pose.y
    yaw := normalizeAngle trig (-pose.yaw) }

variable {trig}

theorem transformPoint_compose (left right : Pose2d K) (p : Point K) :
    transformPoint trig (compose trig left right) p =
      transformPoint trig left (transformPoint trig right p) := by
  have hyaw := normalizeAngle_sameHeading trig (left.yaw + right.yaw)
  rw [transformPoint, compose]
  dsimp only
  rw [hyaw.cos_sin.1, hyaw.cos_sin.2, trig.cos_add, trig.sin_add]
  simp only [transformPoint, Point.mk.injEq]
  constructor <;> ring

theorem transformPoint_inverse (pose : Pose2d K) (p : Point K) :
    transformPoint trig (inverse trig pose) (transformPoint trig pose p) = p := by
  have hyaw := normalizeAngle_sameHeading trig (-pose.yaw)
  have hunit := trig.cos_sq_add_sin_sq pose.yaw
  rw [transformPoint, inverse]
  dsimp only
  rw [hyaw.cos_sin.1, hyaw.cos_sin.2, trig.cos_neg, trig.sin_neg]
  obtain ⟨px, py⟩ := p
  simp only [transformPoint, Point.mk.injEq]
  constructor
  · linear_combination px * hunit
  · linear_combination py * hunit

end EmbodiedAgent.Slam.Planar
