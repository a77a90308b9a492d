import EmbodiedAgent.Library.Arithmetic
import EmbodiedAgent.Slam.OccupancyMap
import Mathlib.Data.Int.Range

namespace EmbodiedAgent.Slam.UnknownWorld

open Library OccupancyMap

section Model

variable {K : Type} [Field K] [LinearOrder K] (polar : Polar K) (m : OccupancyMap K)

def centerDistance (x y : K) (row column : ℤ) : K :=
  let candidate := m.cellCenterWorld polar.toTrigonometry row column
  polar.hypot (candidate.1 - x) (candidate.2 - y)

/-- Half of the diagonal of a cell is added to the tolerance. -/
def centerTolerance (toleranceM : K) : K := toleranceM + m.resolution / polar.sqrt (1 + 1)

variable [FloorRing K]

/-- How many rows and columns are searched on each side. -/
def cellRadius (toleranceM : K) : ℤ := max 1 ⌈toleranceM / m.resolution⌉

def occupiedNearWorld (x y toleranceM : K) : Bool :=
  match m.worldToCell polar.toTrigonometry x y with
  | none => false
  | some center =>
    let deltas := Int.range (-cellRadius m toleranceM) (cellRadius m toleranceM + 1)
    deltas.any fun rowDelta ↦ deltas.any fun columnDelta ↦
      let row := center.1 + rowDelta
      let column := center.2 + columnDelta
      if ¬m.Inside row column then false
      else if m.state row column ≠ .occupied then false
      else centerDistance polar m x y row column ≤ centerTolerance polar m toleranceM + slack

end Model

section Window

variable {K : Type} [Field K] [LinearOrder K] {polar : Polar K} {m : OccupancyMap K}
  {x y toleranceM radius : K} {center : ℤ × ℤ} {row column k : ℤ}

/-- A wall of the map whose centre is near to the point. -/
def WallWithin (polar : Polar K) (m : OccupancyMap K) (x y radius : K) (row column : ℤ) : Prop :=
  m.Inside row column ∧ m.state row column = .occupied ∧
    centerDistance polar m x y row column ≤ radius

def WallBeyond (polar : Polar K) (m : OccupancyMap K) (x y radius : K) (row column : ℤ) : Prop :=
  m.Inside row column ∧ m.state row column = .occupied ∧
    radius < centerDistance polar m x y row column ∧
      centerDistance polar m x y row column ≤ radius + slack

/-- The cells that are at most so many rows and columns away. -/
def InWindow (center : ℤ × ℤ) (k row column : ℤ) : Prop :=
  |row - center.1| ≤ k ∧ |column - center.2| ≤ k

/-- The cells around a window. -/
def OnRing (center : ℤ × ℤ) (k row column : ℤ) : Prop :=
  InWindow center (k + 1) row column ∧ ¬InWindow center k row column

section Search

variable [FloorRing K]

theorem occupiedNearWorld_iff_window
    (hcenter : m.worldToCell polar.toTrigonometry x y = some center) :
    occupiedNearWorld polar m x y toleranceM = true ↔ ∃ row column,
      InWindow center (cellRadius m toleranceM) row column ∧
        WallWithin polar m x y (centerTolerance polar m toleranceM + slack) row column := by
  rw [occupiedNearWorld, hcenter]
  simp only [List.any_eq_true, Int.mem_range_iff]
  constructor
  · rintro ⟨rowDelta, hrow, columnDelta, hcolumn, hfound⟩
    split_ifs at hfound with hinside hstate
    refine ⟨_, _, ⟨?_, ?_⟩, hinside, not_not.mp hstate, of_decide_eq_true hfound⟩
    · rw [add_sub_cancel_left, abs_le]
      omega
    · rw [add_sub_cancel_left, abs_le]
      omega
  · rintro ⟨row, column, ⟨hrow, hcolumn⟩, hinside, hstate, hdistance⟩
    rw [abs_le] at hrow hcolumn
    refine ⟨row - center.1, by omega, column - center.2, by omega, ?_⟩
    rw [add_sub_cancel, add_sub_cancel, if_neg (not_not.mpr hinside),
      if_neg (not_not.mpr hstate)]
    exact decide_eq_true hdistance

end Search

theorem hypot_comm (a b : K) : polar.hypot a b = polar.hypot b a := by
  rw [Polar.hypot, Polar.hypot, add_comm]

variable [IsStrictOrderedRing K]

theorem wallWithin_add_slack_iff : WallWithin polar m x y (radius + slack) row column ↔
    WallWithin polar m x y radius row column ∨ WallBeyond polar m x y radius row column := by
  rw [WallWithin, WallWithin, WallBeyond, ← and_or_left, ← and_or_left]
  refine and_congr_right fun _ ↦ and_congr_right fun _ ↦ ⟨fun hnear ↦ ?_, ?_⟩
  · exact (le_or_gt _ radius).imp_right fun hfar ↦ ⟨hfar, hnear⟩
  · rintro (hnear | ⟨-, hnear⟩)
    · exact hnear.trans (le_add_of_nonneg_right slack_pos.le)
    · exact hnear

theorem abs_le_hypot (a b : K) : |a| ≤ polar.hypot a b := by
  have hnonneg : 0 ≤ a * a + b * b := add_nonneg (mul_self_nonneg a) (mul_self_nonneg b)
  refine abs_le_of_sq_le_sq' ?_ (polar.sqrt_nonneg _) |> abs_le.mpr
  rw [sq, sq, Polar.hypot, polar.sqrt_mul_sqrt _ hnonneg]
  exact le_add_of_nonneg_right (mul_self_nonneg b)

theorem half_add_half : (half : K) + half = 1 := by
  rw [half, ← two_mul, ← one_add_one_eq_two]
  exact mul_inv_cancel₀ (by rw [one_add_one_eq_two]; exact two_ne_zero)

theorem far_on_axis [FloorRing K] {resolution z : K} {c : ℤ} (hresolution : 0 < resolution)
    (hk : k ≤ |c - ⌊z / resolution⌋|) :
    ((k : K) - half) * resolution ≤ |((c : K) + half) * resolution - z| := by
  have hhalf := half_add_half (K := K)
  have hlow := Int.floor_le (z / resolution)
  have hhigh := Int.lt_floor_add_one (z / resolution)
  generalize hf : ⌊z / resolution⌋ = f at hk hlow hhigh
  have hz : z = z / resolution * resolution := (div_mul_cancel₀ z hresolution.ne').symm
  have hfactor : ((c : K) + half) * resolution - z =
      ((c : K) + half - z / resolution) * resolution := by
    rw [sub_mul, ← hz]
  rw [hfactor, abs_mul, abs_of_pos hresolution]
  refine mul_le_mul_of_nonneg_right ?_ hresolution.le
  rcases le_abs.mp hk with hright | hleft
  · have hcast : (k : K) ≤ (c : K) - f := by exact_mod_cast hright
    exact le_abs.mpr (.inl (by linarith))
  · have hcast : (k : K) ≤ -((c : K) - f) := by exact_mod_cast hleft
    exact le_abs.mpr (.inr (by linarith))

variable [FloorRing K]

theorem far_of_not_inWindow (hcenter : m.worldToCell polar.toTrigonometry x y = some center)
    (hfar : ¬InWindow center k row column) :
    ((k : K) + half) * m.resolution ≤ centerDistance polar m x y row column := by
  obtain ⟨-, hcolumn, hrow⟩ := worldToCell_eq_some hcenter
  have hsum : ((k + 1 : ℤ) : K) - half = k + half := by
    push_cast
    linarith [half_add_half (K := K)]
  have hlocal : centerDistance polar m x y row column = polar.hypot
      (((column : K) + half) * m.resolution - (m.toLocal polar.toTrigonometry x y).1)
      (((m.height : K) - (row : K) - half) * m.resolution -
        (m.toLocal polar.toTrigonometry x y).2) := by
    exact congrArg polar.sqrt (toLocal_center row column)
  rw [hlocal, ← hsum]
  rcases not_and_or.mp hfar with hfar | hfar
  · rw [hypot_comm]
    refine le_trans ?_ (abs_le_hypot _ _)
    have hshift : ((m.height : K) - (row : K) - half) =
        (((m.height : ℤ) - 1 - row : ℤ) : K) + half := by
      push_cast
      linarith [half_add_half (K := K)]
    rw [hshift]
    refine far_on_axis m.resolution_pos ?_
    rw [not_le, lt_abs] at hfar
    rw [le_abs]
    omega
  · refine le_trans ?_ (abs_le_hypot _ _)
    refine far_on_axis m.resolution_pos ?_
    rw [← hcolumn]
    exact Int.add_one_le_of_lt (not_le.mp hfar)

theorem centerTolerance_le (polar : Polar K) (m : OccupancyMap K) (toleranceM : K) :
    centerTolerance polar m toleranceM ≤ toleranceM + m.resolution := by
  have hsq := polar.sqrt_mul_sqrt (1 + 1) (add_nonneg zero_le_one zero_le_one)
  have hroot : 1 ≤ polar.sqrt (1 + 1) := by
    by_contra hless
    have hlt := not_le.mp hless
    have hmul := mul_le_mul hlt.le hlt.le (polar.sqrt_nonneg _) zero_le_one
    linarith [zero_lt_one (α := K)]
  refine add_le_add le_rfl (div_le_self m.resolution_pos.le hroot)

theorem tolerance_le (m : OccupancyMap K) (toleranceM : K) :
    toleranceM ≤ (cellRadius m toleranceM : K) * m.resolution := by
  rw [← div_le_iff₀ m.resolution_pos]
  calc toleranceM / m.resolution ≤ (⌈toleranceM / m.resolution⌉ : K) := Int.le_ceil _
    _ ≤ (cellRadius m toleranceM : K) := Int.cast_le.mpr (le_max_right _ _)

theorem inWindow_of_wallWithin (hcenter : m.worldToCell polar.toTrigonometry x y = some center)
    (hwall : WallWithin polar m x y (centerTolerance polar m toleranceM) row column) :
    InWindow center (cellRadius m toleranceM + 1) row column := by
  by_contra hfar
  have hdistance := (far_of_not_inWindow hcenter hfar).trans hwall.2.2
  have htolerance := tolerance_le m toleranceM
  have hradius := centerTolerance_le polar m toleranceM
  have hhalf : 0 < (half : K) * m.resolution :=
    mul_pos (inv_pos.mpr (add_pos zero_lt_one zero_lt_one)) m.resolution_pos
  have hexpand : (((cellRadius m toleranceM + 1 : ℤ) : K) + half) * m.resolution =
      (cellRadius m toleranceM : K) * m.resolution + m.resolution + half * m.resolution := by
    push_cast
    ring
  linarith

theorem ring_empty (hcenter : m.worldToCell polar.toTrigonometry x y = some center)
    (hwide : centerTolerance polar m toleranceM <
      ((cellRadius m toleranceM : K) + half) * m.resolution)
    (hring : OnRing center (cellRadius m toleranceM) row column) :
    ¬ WallWithin polar m x y (centerTolerance polar m toleranceM) row column := by
  intro hwall
  exact absurd (far_of_not_inWindow hcenter hring.2) (not_le.mpr (hwall.2.2.trans_lt hwide))

theorem occupiedNearWorld_iff (hcenter : m.worldToCell polar.toTrigonometry x y = some center) :
    (occupiedNearWorld polar m x y toleranceM = true ↔
      ∃ row column, WallWithin polar m x y (centerTolerance polar m toleranceM) row column) ↔
    (∃ row column, InWindow center (cellRadius m toleranceM) row column ∧
      WallWithin polar m x y (centerTolerance polar m toleranceM) row column) ∨
    ((∃ row column, OnRing center (cellRadius m toleranceM) row column ∧
        WallWithin polar m x y (centerTolerance polar m toleranceM) row column) ↔
      ∃ row column, InWindow center (cellRadius m toleranceM) row column ∧
        WallBeyond polar m x y (centerTolerance polar m toleranceM) row column) := by
  have hall : (∃ row column,
      WallWithin polar m x y (centerTolerance polar m toleranceM) row column) ↔
      (∃ row column, InWindow center (cellRadius m toleranceM) row column ∧
        WallWithin polar m x y (centerTolerance polar m toleranceM) row column) ∨
      ∃ row column, OnRing center (cellRadius m toleranceM) row column ∧
        WallWithin polar m x y (centerTolerance polar m toleranceM) row column := by
    constructor
    · rintro ⟨row, column, hwall⟩
      by_cases hwindow : InWindow center (cellRadius m toleranceM) row column
      · exact .inl ⟨row, column, hwindow, hwall⟩
      · exact .inr ⟨row, column, ⟨inWindow_of_wallWithin hcenter hwall, hwindow⟩, hwall⟩
    · rintro (⟨row, column, -, hwall⟩ | ⟨row, column, -, hwall⟩)
      · exact ⟨row, column, hwall⟩
      · exact ⟨row, column, hwall⟩
  rw [occupiedNearWorld_iff_window hcenter, hall]
  simp only [wallWithin_add_slack_iff, and_or_left, exists_or]
  by_cases hwindow : ∃ row column, InWindow center (cellRadius m toleranceM) row column ∧
      WallWithin polar m x y (centerTolerance polar m toleranceM) row column
  · exact iff_of_true (iff_of_true (.inl hwindow) (.inl hwindow)) (.inl hwindow)
  · simp only [hwindow, false_or]
    exact iff_comm

end Window

noncomputable section Border

def hall : OccupancyMap ℝ where
  width := 3
  height := 1
  resolution := 1
  originX := 0
  originY := 0
  originYaw := 0
  cells := [.occupied, .free, .free]
  width_pos := Nat.succ_pos 2
  height_pos := Nat.one_pos
  resolution_pos := Real.zero_lt_one
  cells_length := rfl

theorem hall_toLocal (x y : ℝ) : hall.toLocal realTrigonometry x y = (x, y) := by
  simp [toLocal, hall, realTrigonometry]

theorem half_eq : (half : ℝ) = 1 / 2 := by norm_num [half]

theorem hall_center {x : ℝ} {column : ℤ} (hcolumn : ⌊x⌋ = column) (hlow : 0 ≤ column)
    (hhigh : column < 3) : hall.worldToCell realPolar.toTrigonometry x half = some (0, column) := by
  have hcolumn' : ⌊x / hall.resolution⌋ = column := by rw [hall, div_one, hcolumn]
  have hrow : ⌊(half : ℝ) / hall.resolution⌋ = 0 := by
    rw [hall, div_one, half_eq, Int.floor_eq_iff]
    norm_num
  rw [worldToCell]
  rw [show realPolar.toTrigonometry = realTrigonometry from rfl, hall_toLocal]
  rw [hcolumn', hrow]
  exact if_pos ⟨⟨le_rfl, by decide⟩, hlow, hhigh⟩

theorem hall_distance (x : ℝ) : centerDistance realPolar hall x half 0 0 = |half - x| := by
  rw [← Real.sqrt_mul_self_eq_abs]
  simp [centerDistance, cellCenterWorld, Polar.hypot, realPolar, realTrigonometry, hall, half_eq]
  exact congrArg Real.sqrt (by ring)

theorem hall_radius : cellRadius hall 1 = 1 := by
  rw [cellRadius, hall, div_one, Int.ceil_one, max_self]

/-- From the middle of its cell the wall in the next cell is found. -/
theorem wall_found : occupiedNearWorld realPolar hall (1 + half) half 1 = true := by
  have hcenter : hall.worldToCell realPolar.toTrigonometry (1 + half) half = some (0, 1) :=
    hall_center (by rw [half_eq, Int.floor_eq_iff]; norm_num) (by decide) (by decide)
  have hwall :
      WallWithin realPolar hall (1 + half) half (centerTolerance realPolar hall 1) 0 0 := by
    refine ⟨⟨⟨le_rfl, by decide⟩, by decide, by decide⟩, rfl, ?_⟩
    rw [hall_distance, sub_add_cancel_right, abs_neg, abs_one]
    exact le_add_of_nonneg_right (div_nonneg zero_le_one (Real.sqrt_nonneg _))
  have hwindow : InWindow (0, 1) (cellRadius hall 1) 0 0 := by
    rw [hall_radius]
    exact ⟨by decide, by decide⟩
  exact ((occupiedNearWorld_iff hcenter).mpr (.inl ⟨0, 0, hwindow, hwall⟩)).mpr ⟨0, 0, hwall⟩

theorem hall_occupied {row column : ℤ} (hinside : hall.Inside row column)
    (hstate : hall.state row column = .occupied) : row = 0 ∧ column = 0 := by
  obtain ⟨⟨hrow, hrow'⟩, hcolumn, hcolumn'⟩ := hinside
  have hzero : row = 0 := le_antisymm (Int.lt_add_one_iff.mp hrow') hrow
  subst hzero
  refine ⟨rfl, ?_⟩
  have hcases : column = 0 ∨ column = 1 ∨ column = 2 := by
    have hthree : column < 3 := hcolumn'
    omega
  rcases hcases with rfl | rfl | rfl
  · rfl
  · cases hstate
  · cases hstate

theorem border_missed : ¬(occupiedNearWorld realPolar hall 2 half 1 = true ↔ ∃ row column,
    WallWithin realPolar hall 2 half (centerTolerance realPolar hall 1) row column) := by
  have hmissed : ¬occupiedNearWorld realPolar hall 2 half 1 = true := by
    rw [occupiedNearWorld_iff_window (hall_center (Int.floor_ofNat 2) (by decide) (by decide))]
    rintro ⟨row, column, hwindow, hinside, hstate, -⟩
    obtain ⟨rfl, rfl⟩ := hall_occupied hinside hstate
    have hcolumn := hwindow.2
    rw [hall_radius] at hcolumn
    exact absurd hcolumn (by decide)
  intro hiff
  refine hmissed (hiff.mpr ⟨0, 0, ⟨⟨le_rfl, by decide⟩, by decide, by decide⟩, rfl, ?_⟩)
  have hdistance : centerDistance realPolar hall 2 half 0 0 = 3 / 2 := by
    rw [hall_distance, half_eq]
    norm_num
  have hroot : (1 / 2 : ℝ) ≤ 1 / √(1 + 1) := by
    refine one_div_le_one_div_of_le (Real.sqrt_pos.mpr (by norm_num)) ?_
    exact Real.sqrt_le_iff.mpr ⟨by norm_num, by norm_num⟩
  rw [hdistance]
  calc (3 / 2 : ℝ) = 1 + 1 / 2 := by norm_num
    _ ≤ 1 + 1 / √(1 + 1) := add_le_add le_rfl hroot
    _ = centerTolerance realPolar hall 1 := rfl

end Border

end EmbodiedAgent.Slam.UnknownWorld
