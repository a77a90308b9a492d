import EmbodiedAgent.Navigation.PredictedObstacleLayer

namespace EmbodiedAgent.Navigation

open Library

namespace Costmap2D

variable {K : Type} [Field K] [LinearOrder K]

def CenterWithin (grid : Costmap2D K) (point : PredictedPoint K) (cell : ℕ × ℕ) : Prop :=
  (grid.centerX cell - point.x) * (grid.centerX cell - point.x) +
    (grid.centerY cell - point.y) * (grid.centerY cell - point.y) ≤ point.radius * point.radius

variable [FloorRing K] [IsStrictOrderedRing K]

def cellIndex (origin resolution : K) (size : ℕ) (w : K) : Option ℕ :=
  if w < origin then none
  else if ⌊(w - origin) / resolution⌋₊ < size then some ⌊(w - origin) / resolution⌋₊ else none

theorem cellIndex_iff {origin resolution : K} (hresolution : 0 < resolution) (size : ℕ) (w : K)
    (i : ℕ) : cellIndex origin resolution size w = some i ↔
      i < size ∧ origin + i * resolution ≤ w ∧ w < origin + (i + 1) * resolution := by
  have hfloor : origin ≤ w → (⌊(w - origin) / resolution⌋₊ = i ↔
      origin + i * resolution ≤ w ∧ w < origin + (i + 1) * resolution) := by
    intro hle
    rw [Nat.floor_eq_iff (div_nonneg (sub_nonneg.mpr hle) hresolution.le),
      le_div_iff₀ hresolution, div_lt_iff₀ hresolution]
    constructor
    · rintro ⟨hlow, hhigh⟩
      constructor <;> linarith
    · rintro ⟨hlow, hhigh⟩
      constructor <;> linarith
  rw [cellIndex]
  split_ifs with hbelow hinside
  · refine iff_of_false (by simp) fun ⟨_, hlow, _⟩ ↦ ?_
    have hsteps : (0 : K) ≤ i * resolution := mul_nonneg (Nat.cast_nonneg i) hresolution.le
    linarith
  · rw [Option.some.injEq, ← hfloor (not_lt.mp hbelow)]
    exact ⟨fun h ↦ ⟨h ▸ hinside, h⟩, fun h ↦ h.2⟩
  · rw [← hfloor (not_lt.mp hbelow)]
    exact iff_of_false (by simp) fun h ↦ hinside (h.2 ▸ h.1)

def uniform (originX originY resolution : K) (sizeX sizeY : ℕ) (h : 0 < resolution) :
    Costmap2D K where
  originX := originX
  originY := originY
  resolution := resolution
  sizeInCellsX := sizeX
  sizeInCellsY := sizeY
  resolution_pos := h
  worldToMap x y := (cellIndex originX resolution sizeX x).bind fun i ↦
    (cellIndex originY resolution sizeY y).map fun j ↦ (i, j)
  worldToMap_iff x y cell := by
    obtain ⟨i, j⟩ := cell
    rw [← cellIndex_iff h, ← cellIndex_iff h]
    simp [Option.bind_eq_some_iff, Option.map_eq_some_iff]

end Costmap2D

namespace PredictedObstacleLayer

variable {K : Type} [Field K] [LinearOrder K] [FloorRing K] {layer : PredictedObstacleLayer K}
  {grid : Costmap2D K} {window : Window} {costs : Costs} {point : PredictedPoint K} {cell : ℕ × ℕ}

/-- After the call no cell in a predicted disc is left to drive over. -/
def Covers (layer : PredictedObstacleLayer K) (grid : Costmap2D K) (window : Window)
    (costs : Costs) : Prop :=
  ∀ point ∈ layer.activePoints, 0 < point.radius → ∀ cell, grid.InWindow window cell →
    grid.CenterWithin point cell →
    layer.updateCosts grid window costs cell = lethalObstacle

theorem covers_iff (layer : PredictedObstacleLayer K) (grid : Costmap2D K) (window : Window)
    (costs : Costs) : layer.Covers grid window costs ↔
      ∀ point ∈ layer.activePoints, 0 < point.radius → ∀ cell, grid.InWindow window cell →
        grid.CenterWithin point cell → costs cell = lethalObstacle ∨
          layer.enabled = true ∧ ∃ other ∈ layer.activePoints, Reaches grid other cell := by
  refine forall₄_congr fun point _ _ cell ↦ forall₂_congr fun hcell _ ↦ ?_
  rw [updateCosts_eq_lethal_iff]
  simp [hcell]

def HasRoom (grid : Costmap2D K) (point : PredictedPoint K) : Prop :=
  ∃ center, grid.worldToMap point.x point.y = some center ∧
    (point.x - grid.centerX center) * (point.x - grid.centerX center) +
      (point.y - grid.centerY center) * (point.y - grid.centerY center) ≤
        (cellRadius grid point * grid.resolution - point.radius) *
          (cellRadius grid point * grid.resolution - point.radius)

section Room

variable [IsStrictOrderedRing K]

theorem norm_add_le {u v d e r s : K} (hr : 0 ≤ r) (hs : 0 ≤ s) (huv : u * u + v * v ≤ r * r)
    (hde : d * d + e * e ≤ s * s) :
    (u + d) * (u + d) + (v + e) * (v + e) ≤ (r + s) * (r + s) := by
  have hcross : (u * d + v * e) * (u * d + v * e) ≤ (r * s) * (r * s) := by
    calc (u * d + v * e) * (u * d + v * e)
        ≤ (u * u + v * v) * (d * d + e * e) := by linarith [mul_self_nonneg (u * e - v * d)]
      _ ≤ (r * r) * (s * s) := mul_le_mul huv hde
          (add_nonneg (mul_self_nonneg d) (mul_self_nonneg e)) (mul_self_nonneg r)
      _ = (r * s) * (r * s) := by ring
  have hinner : u * d + v * e ≤ r * s :=
    (le_abs_self _).trans (abs_le_of_sq_le_sq (by rwa [sq, sq]) (mul_nonneg hr hs))
  linarith

theorem reaches_of_room (hroom : HasRoom grid point) (hradius : 0 < point.radius)
    (hwithin : grid.CenterWithin point cell) : Reaches grid point cell := by
  have hresolution := grid.resolution_pos
  obtain ⟨center, hcenter, hoffset⟩ := hroom
  have hup : 0 ≤ cellRadius grid point * grid.resolution - point.radius := by
    rw [sub_nonneg, ← div_le_iff₀ hresolution]
    exact Int.le_ceil _
  have hdisc := norm_add_le hradius.le hup hwithin hoffset
  refine ⟨center, hcenter, Int.ceil_nonneg (div_pos hradius hresolution).le, ?_⟩
  have hcells : ((cell.1 : K) - center.1) * (cell.1 - center.1) +
      ((cell.2 : K) - center.2) * (cell.2 - center.2) ≤
      (cellRadius grid point : K) * cellRadius grid point := by
    refine le_of_mul_le_mul_right ?_ (mul_pos hresolution hresolution)
    simp only [Costmap2D.centerX, Costmap2D.centerY] at hdisc
    linarith
  exact_mod_cast hcells

theorem covers_of_room (layer : PredictedObstacleLayer K) (grid : Costmap2D K) (window : Window)
    (costs : Costs)
    (hroom : ∀ point ∈ layer.activePoints, 0 < point.radius → ∀ cell, grid.InWindow window cell →
      grid.CenterWithin point cell → costs cell ≠ lethalObstacle → layer.enabled = true ∧
        ∃ other ∈ layer.activePoints, 0 < other.radius ∧ grid.CenterWithin other cell ∧
          HasRoom grid other) :
    layer.Covers grid window costs := by
  rw [covers_iff]
  intro point hpoint hradius cell hcell hwithin
  refine or_iff_not_imp_left.mpr fun hfree ↦ ?_
  obtain ⟨henabled, other, hother, hpositive, hcovered, hroomy⟩ :=
    hroom point hpoint hradius cell hcell hwithin hfree
  exact ⟨henabled, other, hother, reaches_of_room hroomy hpositive hcovered⟩

end Room

def pointAt (x y radius : ℚ) : PredictedPoint ℚ := ⟨x, y, radius, 0⟩

def single (p : PredictedPoint ℚ) : PredictedObstacleLayer ℚ where
  globalFrameId := "map"
  enabled := true
  predictionHorizonS := 2
  predictionStepS := 1 / 4
  observationTimeoutS := 4 / 5
  minimumConfidence := 9 / 20
  radiusPaddingM := 9 / 50
  futureRadiusGrowthMps := 2 / 25
  activePoints := [p]

/-- Eight by eight cells of one metre. -/
def board : Costmap2D ℚ := Costmap2D.uniform 0 0 1 8 8 one_pos

def lane : PredictedObstacleLayer ℚ :=
  { single (pointAt (5 / 2) (5 / 2) 1) with
    activePoints :=
      [pointAt (5 / 2) (5 / 2) 1, pointAt (15 / 4) (5 / 2) (3 / 2), pointAt (-2) 4 1] }

theorem lane_covers : lane.Covers board ⟨0, 0, 8, 8⟩ (fun _ ↦ 0) := by
  refine covers_of_room _ _ _ _ fun point hpoint hradius cell hcell hwithin _ ↦ ⟨rfl, ?_⟩
  have hself (hroom : HasRoom board point) : ∃ other ∈ lane.activePoints, 0 < other.radius ∧
      board.CenterWithin other cell ∧ HasRoom board other :=
    ⟨point, hpoint, hradius, hwithin, hroom⟩
  simp only [lane, List.mem_cons, List.not_mem_nil, or_false] at hpoint
  rcases hpoint with rfl | rfl | rfl
  · refine hself ⟨(2, 2), (board.worldToMap_iff _ _ _).mpr ?_, ?_⟩ <;>
      norm_num [cellRadius, board, Costmap2D.uniform, pointAt, Costmap2D.centerX,
        Costmap2D.centerY]
  · refine hself ⟨(3, 2), (board.worldToMap_iff _ _ _).mpr ?_, ?_⟩ <;>
      norm_num [cellRadius, board, Costmap2D.uniform, pointAt, Costmap2D.centerX,
        Costmap2D.centerY]
  · have hpositive : (0 : ℚ) ≤ cell.1 := Nat.cast_nonneg _
    norm_num [Costmap2D.CenterWithin, Costmap2D.centerX, Costmap2D.centerY, board,
      Costmap2D.uniform, pointAt] at hwithin
    nlinarith [mul_self_nonneg ((cell.2 : ℚ) + 1 / 2 - 4)]

theorem not_covers_of_missed {p : PredictedPoint ℚ} (hradius : 0 < p.radius) (cell : ℕ × ℕ)
    (hcell : board.InWindow ⟨0, 0, 8, 8⟩ cell) (hwithin : board.CenterWithin p cell)
    (hmissed : ¬ Reaches board p cell) : ¬ (single p).Covers board ⟨0, 0, 8, 8⟩ (fun _ ↦ 0) := by
  intro h
  rcases (updateCosts_eq_lethal_iff _ _).mp (h p (.head _) hradius cell hcell hwithin) with
    hbefore | ⟨-, other, hother, hreaches, -⟩
  · cases hbefore
  · rw [List.mem_singleton.mp hother] at hreaches
    exact hmissed hreaches

/-- The cell across the corner is near and not painted; a point off the map paints nothing. -/
theorem gaps : ¬ (single (pointAt (29 / 10) (29 / 10) 1)).Covers board ⟨0, 0, 8, 8⟩ (fun _ ↦ 0) ∧
    ¬ (single (pointAt (-1 / 4) (5 / 2) 1)).Covers board ⟨0, 0, 8, 8⟩ (fun _ ↦ 0) := by
  constructor
  · refine not_covers_of_missed one_pos (3, 3) (by decide) ?_ ?_
    · norm_num [Costmap2D.CenterWithin, Costmap2D.centerX, Costmap2D.centerY, board,
        Costmap2D.uniform, pointAt]
    · have hcenter : board.worldToMap (29 / 10) (29 / 10) = some (2, 2) :=
        (board.worldToMap_iff _ _ _).mpr (by norm_num [board, Costmap2D.uniform])
      rintro ⟨center, hother, -, hdisc⟩
      cases hcenter.symm.trans hother
      norm_num [cellRadius, board, Costmap2D.uniform, pointAt] at hdisc
  · refine not_covers_of_missed one_pos (0, 2) (by decide) ?_ ?_
    · norm_num [Costmap2D.CenterWithin, Costmap2D.centerX, Costmap2D.centerY, board,
        Costmap2D.uniform, pointAt]
    · rintro ⟨center, hother, -⟩
      obtain ⟨⟨-, hlow, -⟩, -⟩ := (board.worldToMap_iff _ _ _).mp hother
      have hpositive : (0 : ℚ) ≤ center.1 := Nat.cast_nonneg _
      norm_num [board, Costmap2D.uniform, pointAt] at hlow
      linarith

end PredictedObstacleLayer

end EmbodiedAgent.Navigation
