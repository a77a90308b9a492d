import EmbodiedAgent.Library.Arithmetic
import EmbodiedAgent.Library.Marking
import Mathlib.Data.Int.Range

namespace EmbodiedAgent.Navigation

open Library Marking

section Prediction

structure ObstacleMotion (K : Type) where
  x : K
  y : K
  velocityX : K
  velocityY : K
  radius : K
  confidence : K

structure PredictionConfig (K : Type) where
  horizonS : K
  stepS : K
  minimumConfidence : K
  radiusPaddingM : K
  futureRadiusGrowthMps : K

structure PredictedPoint (K : Type) where
  x : K
  y : K
  radius : K
  timeS : K
  deriving DecidableEq

variable {K : Type} [Field K] [LinearOrder K] [FloorRing K]

/-- `1e-6` -/
def micro : K := ((10 ^ 6 : ℕ) : K)⁻¹

def predictionTimes (config : PredictionConfig K) : List K :=
  let horizonS := stdMax 0 config.horizonS
  let stepS := stdMax ((20 : ℕ) : K)⁻¹ config.stepS
  (List.range (⌊(horizonS + micro) / stepS⌋₊ + 1)).map fun (k : ℕ) ↦ (k : K) * stepS

def predictConstantVelocity (obstacles : List (ObstacleMotion K)) (config : PredictionConfig K) :
    List (PredictedPoint K) :=
  obstacles.flatMap fun obstacle ↦
    if obstacle.confidence < config.minimumConfidence then []
    else (predictionTimes config).map fun timeS ↦
      { x := obstacle.x + obstacle.velocityX * timeS
        y := obstacle.y + obstacle.velocityY * timeS
        radius := stdMax ((20 : ℕ) : K)⁻¹
          (obstacle.radius + config.radiusPaddingM + config.futureRadiusGrowthMps * timeS)
        timeS := timeS }

end Prediction

section Costmap

/-- The geometry of a costmap. Its conversion of a position finds the cell that holds it. -/
structure Costmap2D (K : Type) [Field K] [LinearOrder K] where
  originX : K
  originY : K
  resolution : K
  sizeInCellsX : ℕ
  sizeInCellsY : ℕ
  resolution_pos : 0 < resolution
  worldToMap : K → K → Option (ℕ × ℕ)
  worldToMap_iff : ∀ x y cell, worldToMap x y = some cell ↔
    (cell.1 < sizeInCellsX ∧ originX + cell.1 * resolution ≤ x ∧
      x < originX + (cell.1 + 1) * resolution) ∧
    (cell.2 < sizeInCellsY ∧ originY + cell.2 * resolution ≤ y ∧
      y < originY + (cell.2 + 1) * resolution)

/-- The cells of a map with their costs. -/
abbrev Costs := ℕ × ℕ → UInt8

def lethalObstacle : UInt8 := 254

structure Window where
  minI : ℤ
  minJ : ℤ
  maxI : ℤ
  maxJ : ℤ

structure Bounds (K : Type) where
  minX : K
  minY : K
  maxX : K
  maxY : K

variable {K : Type} [Field K] [LinearOrder K]

namespace Costmap2D

variable (grid : Costmap2D K)

def centerX (cell : ℕ × ℕ) : K := grid.originX + (cell.1 + (1 + 1)⁻¹) * grid.resolution

def centerY (cell : ℕ × ℕ) : K := grid.originY + (cell.2 + (1 + 1)⁻¹) * grid.resolution

/-- The cells that `updateCosts` may touch. -/
def InWindow (window : Window) (cell : ℕ × ℕ) : Prop :=
  (window.minI ≤ cell.1 ∧ cell.1 < window.maxI ∧ cell.1 < grid.sizeInCellsX) ∧
    (window.minJ ≤ cell.2 ∧ cell.2 < window.maxJ ∧ cell.2 < grid.sizeInCellsY)

instance (window : Window) (cell : ℕ × ℕ) : Decidable (grid.InWindow window cell) :=
  inferInstanceAs (Decidable (_ ∧ _))

end Costmap2D

end Costmap

structure PredictedObstacleLayer (K : Type) where
  globalFrameId : String
  enabled : Bool
  predictionHorizonS : K
  predictionStepS : K
  observationTimeoutS : K
  minimumConfidence : K
  radiusPaddingM : K
  futureRadiusGrowthMps : K
  activePoints : List (PredictedPoint K) := []
  previousPoints : List (PredictedPoint K) := []
  lastObservationTime : ℤ := 0
  current : Bool := true

namespace PredictedObstacleLayer

variable {K : Type} [Field K] [LinearOrder K] [FloorRing K] (layer : PredictedObstacleLayer K)

def predictionConfig : PredictionConfig K :=
  ⟨layer.predictionHorizonS, layer.predictionStepS, layer.minimumConfidence,
    layer.radiusPaddingM, layer.futureRadiusGrowthMps⟩

def onObstacles (frameId : String) (obstacles : List (ObstacleMotion K)) (now : ℤ) :
    PredictedObstacleLayer K :=
  if frameId ≠ layer.globalFrameId then layer
  else
    { layer with
      activePoints := predictConstantVelocity obstacles layer.predictionConfig
      lastObservationTime := now
      current := true }

def timedOut (now : ℤ) : Bool :=
  layer.lastObservationTime = 0 ||
    layer.observationTimeoutS < ((now - layer.lastObservationTime : ℤ) : K) / ((10 ^ 9 : ℕ) : K)

def enlarge (bounds : Bounds K) (point : PredictedPoint K) : Bounds K :=
  { minX := stdMin bounds.minX (point.x - point.radius)
    minY := stdMin bounds.minY (point.y - point.radius)
    maxX := stdMax bounds.maxX (point.x + point.radius)
    maxY := stdMax bounds.maxY (point.y + point.radius) }

def updateBounds (bounds : Bounds K) (now : ℤ) : PredictedObstacleLayer K × Bounds K :=
  if !layer.enabled then (layer, bounds)
  else
    let next := if layer.timedOut now then [] else layer.activePoints
    let current := if layer.timedOut now then true else layer.current
    ({ layer with activePoints := next, previousPoints := next, current := current },
      next.foldl enlarge (layer.previousPoints.foldl enlarge bounds))

/-- `cell_radius` -/
def cellRadius (grid : Costmap2D K) (point : PredictedPoint K) : ℤ :=
  ⌈point.radius / grid.resolution⌉

def paintCell (grid : Costmap2D K) (window : Window) (point : PredictedPoint K) (center : ℕ × ℕ)
    (dx : ℤ) (costs : Costs) (dy : ℤ) : Costs :=
  if dx * dx + dy * dy > cellRadius grid point * cellRadius grid point then costs
  else
    let mx := center.1 + dx
    let my := center.2 + dy
    if mx < window.minI ∨ my < window.minJ ∨ window.maxI ≤ mx ∨ window.maxJ ≤ my ∨ mx < 0 ∨ my < 0 ∨
        grid.sizeInCellsX ≤ mx ∨ grid.sizeInCellsY ≤ my then costs
    else Function.update costs (mx.toNat, my.toNat) lethalObstacle

def paintPoint (grid : Costmap2D K) (window : Window) (costs : Costs) (point : PredictedPoint K) :
    Costs :=
  match grid.worldToMap point.x point.y with
  | none => costs
  | some center =>
    let deltas := Int.range (-cellRadius grid point) (cellRadius grid point + 1)
    deltas.foldl (fun costs dx ↦ deltas.foldl (paintCell grid window point center dx) costs) costs

def updateCosts (grid : Costmap2D K) (window : Window) (costs : Costs) : Costs :=
  if !layer.enabled then costs
  else layer.activePoints.foldl (paintPoint grid window) costs

def reset : PredictedObstacleLayer K :=
  { layer with activePoints := [], previousPoints := [], current := true }

variable {layer} {grid : Costmap2D K} {window : Window} {point : PredictedPoint K} {cell : ℕ × ℕ}

/-- The rounded disc around the cell of the point. -/
def Reaches (grid : Costmap2D K) (point : PredictedPoint K) (cell : ℕ × ℕ) : Prop :=
  ∃ center, grid.worldToMap point.x point.y = some center ∧ 0 ≤ cellRadius grid point ∧
    ((cell.1 : ℤ) - center.1) * (cell.1 - center.1) +
      ((cell.2 : ℤ) - center.2) * (cell.2 - center.2) ≤
        cellRadius grid point * cellRadius grid point

theorem paintCell_marks (grid : Costmap2D K) (window : Window) (point : PredictedPoint K)
    (center : ℕ × ℕ) (dx dy : ℤ) :
    Marks lethalObstacle (fun costs ↦ paintCell grid window point center dx costs dy) fun cell ↦
      dx * dx + dy * dy ≤ cellRadius grid point * cellRadius grid point ∧
        (cell.1 : ℤ) = center.1 + dx ∧ (cell.2 : ℤ) = center.2 + dy ∧
          grid.InWindow window cell := by
  unfold paintCell
  dsimp only
  split_ifs with hfar hout
  · refine (marks_none lethalObstacle).congr fun cell ↦ ⟨False.elim, fun h ↦ ?_⟩
    exact absurd h.1 (not_le.mpr hfar)
  · refine (marks_none lethalObstacle).congr fun cell ↦ ⟨False.elim, fun ⟨_, hx, hy, hcell⟩ ↦ ?_⟩
    rw [Costmap2D.InWindow] at hcell
    omega
  · refine (marks_update lethalObstacle _).congr fun cell ↦ ?_
    rw [Costmap2D.InWindow, Prod.ext_iff]
    dsimp only
    constructor
    · rintro ⟨hx, hy⟩
      omega
    · rintro ⟨-, hx, hy, -⟩
      omega

theorem mem_deltas {k : ℤ} (r : ℤ) : k ∈ Int.range (-r) (r + 1) ↔ |k| ≤ r := by
  rw [Int.mem_range_iff, abs_le, Int.lt_add_one_iff]

theorem paintPoint_marks (grid : Costmap2D K) (window : Window) (point : PredictedPoint K) :
    Marks lethalObstacle (fun costs ↦ paintPoint grid window costs point) fun cell ↦
      Reaches grid point cell ∧ grid.InWindow window cell := by
  unfold paintPoint
  cases hcenter : grid.worldToMap point.x point.y with
  | none =>
    refine (marks_none lethalObstacle).congr fun cell ↦ ⟨False.elim, ?_⟩
    rintro ⟨⟨center, hmap, -⟩, -⟩
    cases hcenter.symm.trans hmap
  | some center =>
    refine (marks_foldl fun dx _ ↦ marks_foldl fun dy _ ↦
      paintCell_marks grid window point center dx dy).congr fun cell ↦ ?_
    simp only [mem_deltas]
    constructor
    · rintro ⟨dx, hdx, dy, -, hdisc, hx, hy, hcell⟩
      have hx' : (cell.1 : ℤ) - center.1 = dx := by omega
      have hy' : (cell.2 : ℤ) - center.2 = dy := by omega
      refine ⟨⟨center, hcenter, (abs_nonneg dx).trans hdx, ?_⟩, hcell⟩
      rwa [hx', hy']
    · rintro ⟨⟨other, hother, hradius, hdisc⟩, hcell⟩
      cases hcenter.symm.trans hother
      have hwithin : ∀ a b : ℤ, a * a + b * b ≤ cellRadius grid point * cellRadius grid point →
          |a| ≤ cellRadius grid point := by
        intro a b h
        refine abs_le_of_sq_le_sq ?_ hradius
        nlinarith [mul_self_nonneg b]
      exact ⟨cell.1 - center.1, hwithin _ _ hdisc, cell.2 - center.2,
        hwithin _ _ ((add_comm _ _).trans_le hdisc), hdisc, by omega, by omega, hcell⟩

theorem updateCosts_eq_lethal_iff (costs : Costs) (cell : ℕ × ℕ) :
    layer.updateCosts grid window costs cell = lethalObstacle ↔ costs cell = lethalObstacle ∨
      layer.enabled = true ∧ ∃ point ∈ layer.activePoints, Reaches grid point cell ∧
        grid.InWindow window cell := by
  rw [updateCosts]
  split_ifs with henabled
  · simp_all
  · have hmarks := marks_foldl (l := layer.activePoints)
      fun point _ ↦ paintPoint_marks grid window point
    rw [hmarks.eq_mark_iff costs cell]
    simp_all

end PredictedObstacleLayer

end EmbodiedAgent.Navigation
