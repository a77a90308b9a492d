import EmbodiedAgent.Library.History
import EmbodiedAgent.Navigation.ObstacleCoverage

namespace EmbodiedAgent.Navigation

open Library History

namespace Bounds

variable {K : Type} [LinearOrder K]

def Contains (bounds : Bounds K) (x y : K) : Prop :=
  (bounds.minX ≤ x ∧ x ≤ bounds.maxX) ∧ bounds.minY ≤ y ∧ y ≤ bounds.maxY

end Bounds

namespace PredictedObstacleLayer

variable {K : Type} [Field K] [LinearOrder K] [FloorRing K]

/-- The calls of the costmap and of the subscription, each under the lock of the layer. -/
inductive Event (K : Type) [Field K] [LinearOrder K]
  | obstacles (frameId : String) (obstacles : List (ObstacleMotion K)) (now : ℤ)
  | updateBounds (bounds : Bounds K) (now : ℤ)
  | updateCosts (grid : Costmap2D K) (window : Window) (costs : Costs)

/-- The layer, with the points it painted in this cycle outside of the reported bounds. -/
structure Cycle (K : Type) where
  layer : PredictedObstacleLayer K
  unreported : List (PredictedPoint K) := []

def painted (layer : PredictedObstacleLayer K) : List (PredictedPoint K) :=
  if layer.enabled then layer.activePoints else []

def step (s : Cycle K) : Event K → Cycle K × Unit
  | .obstacles frameId obstacles now =>
    ({ s with layer := s.layer.onObstacles frameId obstacles now }, ())
  | .updateBounds bounds now => ({ layer := (s.layer.updateBounds bounds now).1 }, ())
  | .updateCosts _ _ _ =>
    ({ s with
        unreported := s.unreported ++
          s.layer.painted.filter fun point ↦ point ∉ s.layer.previousPoints }, ())

def Event.isBounds : Event K → Bool
  | .updateBounds _ _ => true
  | _ => false

def LeavesNoResidue (s : Cycle K) (h : List (Event K)) : Prop :=
  ∀ pre grid window costs mid bounds now post,
    h = pre ++ .updateCosts grid window costs :: (mid ++ .updateBounds bounds now :: post) →
    (∀ e ∈ mid, e.isBounds = false) → ∀ cell, costs cell ≠ lethalObstacle →
    (run step s pre).layer.updateCosts grid window costs cell = lethalObstacle →
    (((run step s (pre ++ .updateCosts grid window costs :: mid)).layer.updateBounds
      bounds now).2).Contains (grid.centerX cell) (grid.centerY cell)

def InSquare (point : PredictedPoint K) (x y : K) : Prop :=
  (point.x - point.radius ≤ x ∧ x ≤ point.x + point.radius) ∧
    point.y - point.radius ≤ y ∧ y ≤ point.y + point.radius

def Regular (s : Cycle K) : Event K → Prop
  | .obstacles frameId _ _ => frameId = s.layer.globalFrameId → s.unreported = []
  | .updateBounds _ now => s.layer.timedOut now = true → s.unreported = []
  | .updateCosts grid window costs => ∀ point ∈ s.layer.painted, ∀ cell,
    Reaches grid point cell → grid.InWindow window cell → costs cell ≠ lethalObstacle →
    ∃ other ∈ s.layer.painted, InSquare other (grid.centerX cell) (grid.centerY cell)

section Bounding

variable {point : PredictedPoint K} {x y : K} {bounds : Bounds K} {points : List (PredictedPoint K)}

omit [FloorRing K]

omit [Field K] in
theorem stdMin_eq_min (a b : K) : stdMin a b = min a b := by
  rw [stdMin, min_comm, min_def_lt]

theorem enlarge_contains_iff : (enlarge bounds point).Contains x y ↔
    ((bounds.minX ≤ x ∨ point.x - point.radius ≤ x) ∧
      (x ≤ bounds.maxX ∨ x ≤ point.x + point.radius)) ∧
    (bounds.minY ≤ y ∨ point.y - point.radius ≤ y) ∧
      (y ≤ bounds.maxY ∨ y ≤ point.y + point.radius) := by
  simp only [Bounds.Contains, enlarge, stdMin_eq_min, stdMax_eq_max, min_le_iff, le_max_iff]

theorem Contains.enlarge (h : bounds.Contains x y) :
    (PredictedObstacleLayer.enlarge bounds point).Contains x y := by
  obtain ⟨⟨hminX, hmaxX⟩, hminY, hmaxY⟩ := h
  exact enlarge_contains_iff.mpr ⟨⟨.inl hminX, .inl hmaxX⟩, .inl hminY, .inl hmaxY⟩

theorem InSquare.enlarge (h : InSquare point x y) :
    (PredictedObstacleLayer.enlarge bounds point).Contains x y := by
  obtain ⟨⟨hminX, hmaxX⟩, hminY, hmaxY⟩ := h
  exact enlarge_contains_iff.mpr ⟨⟨.inr hminX, .inr hmaxX⟩, .inr hminY, .inr hmaxY⟩

theorem Contains.foldl (h : bounds.Contains x y) (points : List (PredictedPoint K)) :
    (points.foldl PredictedObstacleLayer.enlarge bounds).Contains x y := by
  induction points generalizing bounds with
  | nil => exact h
  | cons point points ih => exact ih (Contains.enlarge h)

theorem InSquare.foldl (hpoint : point ∈ points) (h : InSquare point x y) :
    (points.foldl PredictedObstacleLayer.enlarge bounds).Contains x y := by
  induction points generalizing bounds with
  | nil => cases hpoint
  | cons other points ih =>
    rcases List.mem_cons.mp hpoint with rfl | hlater
    · exact Contains.foldl h.enlarge points
    · exact ih hlater

variable {layer : PredictedObstacleLayer K} {now : ℤ}

theorem updateBounds_contains (henabled : layer.enabled = true)
    (hpoint : point ∈ layer.previousPoints ∨
      layer.timedOut now = false ∧ point ∈ layer.activePoints) (h : InSquare point x y) :
    (layer.updateBounds bounds now).2.Contains x y := by
  have hreported : (layer.updateBounds bounds now).2 =
      (if layer.timedOut now then [] else layer.activePoints).foldl enlarge
        (layer.previousPoints.foldl enlarge bounds) := by
    simp [updateBounds, henabled]
  rw [hreported]
  rcases hpoint with hpoint | ⟨hnot, hpoint⟩
  · exact Contains.foldl (InSquare.foldl hpoint h) _
  · rw [hnot]
    exact InSquare.foldl hpoint h

end Bounding

section Cycles

variable {s : Cycle K} {e : Event K} {h : List (Event K)} {points : List (PredictedPoint K)}

def Remembered (points : List (PredictedPoint K)) (s : Cycle K) : Prop :=
  s.layer.enabled = true ∧ ∀ point ∈ points, point ∈ s.layer.previousPoints ∨
    point ∈ s.unreported ∧ point ∈ s.layer.activePoints

theorem remembered_painted (henabled : s.layer.enabled = true) (grid : Costmap2D K)
    (window : Window) (costs : Costs) :
    Remembered s.layer.painted (step s (.updateCosts grid window costs)).1 := by
  refine ⟨henabled, fun point hpoint ↦ ?_⟩
  by_cases hreported : point ∈ s.layer.previousPoints
  · exact .inl hreported
  · have hfiltered : point ∈ s.layer.painted.filter fun point ↦ point ∉ s.layer.previousPoints :=
      List.mem_filter.mpr ⟨hpoint, by simpa using hreported⟩
    refine .inr ⟨List.mem_append_right _ hfiltered, ?_⟩
    rwa [painted, if_pos henabled] at hpoint

theorem Remembered.step (he : e.isBounds = false) (hregular : Regular s e)
    (hs : Remembered points s) : Remembered points (PredictedObstacleLayer.step s e).1 := by
  cases e with
  | obstacles frameId obstacles now =>
    by_cases hframe : frameId = s.layer.globalFrameId
    · have hreported := hregular hframe
      simp only [PredictedObstacleLayer.step, onObstacles, hframe, ne_eq, not_true_eq_false,
        if_false]
      refine ⟨hs.1, fun point hpoint ↦ ?_⟩
      rcases hs.2 point hpoint with hprevious | ⟨hunreported, -⟩
      · exact .inl hprevious
      · rw [hreported] at hunreported
        cases hunreported
    · simp only [PredictedObstacleLayer.step, onObstacles, ne_eq, hframe, not_false_eq_true,
        if_true]
      exact hs
  | updateBounds bounds now => cases he
  | updateCosts grid window costs =>
    refine ⟨hs.1, fun point hpoint ↦ ?_⟩
    exact (hs.2 point hpoint).imp_right fun h ↦ ⟨List.mem_append_left _ h.1, h.2⟩

theorem Remembered.run (hh : ∀ e ∈ h, e.isBounds = false)
    (hregular : Along PredictedObstacleLayer.step Regular s h) (hs : Remembered points s) :
    Remembered points (History.run PredictedObstacleLayer.step s h) := by
  induction h generalizing s with
  | nil => exact hs
  | cons e h ih =>
    obtain ⟨he, hlater⟩ := List.forall_mem_cons.mp hh
    exact ih hlater hregular.2 (hs.step he hregular.1)

/-- In every run of regular cycles. -/
theorem no_residue (layer : PredictedObstacleLayer K) (h : List (Event K))
    (hregular : Along step Regular ⟨layer, []⟩ h) : LeavesNoResidue ⟨layer, []⟩ h := by
  rintro pre grid window costs mid bounds now post rfl hmid cell hcell hlethal
  obtain ⟨hpainting, hkept⟩ := ((along_append step).mp hregular).2
  obtain ⟨hbetween, hreporting, -⟩ := (along_append step).mp hkept
  rw [run_append, run_cons]
  set s := run step ⟨layer, []⟩ pre
  obtain ⟨henabled, point, hpoint, hreaches, hinside⟩ :=
    ((updateCosts_eq_lethal_iff costs cell).mp hlethal).resolve_left hcell
  have hpainted : s.layer.painted = s.layer.activePoints := if_pos henabled
  obtain ⟨other, hother, hsquare⟩ :=
    hpainting point (hpainted ▸ hpoint) cell hreaches hinside hcell
  have hrun := (remembered_painted henabled grid window costs).run hmid hbetween
  refine updateBounds_contains hrun.1 ?_ hsquare
  refine (hrun.2 other hother).imp_right fun ⟨hunreported, hactive⟩ ↦ ⟨?_, hactive⟩
  by_contra htimedOut
  rw [hreporting (Bool.eq_true_of_not_eq_false htimedOut)] at hunreported
  cases hunreported

end Cycles

def holding (activePoints previousPoints : List (PredictedPoint ℚ)) (stamp : ℤ) :
    PredictedObstacleLayer ℚ where
  globalFrameId := "map"
  enabled := true
  predictionHorizonS := 0
  predictionStepS := 1 / 4
  observationTimeoutS := 4 / 5
  minimumConfidence := 0
  radiusPaddingM := 0
  futureRadiusGrowthMps := 0
  activePoints := activePoints
  previousPoints := previousPoints
  lastObservationTime := stamp

def standing (x y : ℚ) : List (ObstacleMotion ℚ) := [⟨x, y, 0, 0, 1, 1⟩]

/-- What a costmap starts its bounds with. -/
def noBounds : Bounds ℚ := ⟨10 ^ 30, 10 ^ 30, -10 ^ 30, -10 ^ 30⟩

theorem onObstacles_holding (activePoints previousPoints : List (PredictedPoint ℚ)) (stamp now : ℤ)
    (x y : ℚ) : (holding activePoints previousPoints stamp).onObstacles "map" (standing x y) now =
      holding [pointAt x y 1] previousPoints now := by
  have htimes : predictionTimes ⟨(0 : ℚ), 1 / 4, 0, 0, 0⟩ = [0] := by
    have hfloor : ⌊((0 : ℚ) + micro) / (1 / 4)⌋₊ = 0 :=
      Nat.floor_eq_zero.mpr (by norm_num [micro])
    have hstep : stdMax (((20 : ℕ) : ℚ)⁻¹) (1 / 4) = 1 / 4 := by norm_num [stdMax]
    have hhorizon : stdMax (0 : ℚ) 0 = 0 := if_neg (lt_irrefl 0)
    simp only [predictionTimes, hstep, hhorizon, hfloor]
    simp
  have hpredicted : predictConstantVelocity (standing x y) ⟨(0 : ℚ), 1 / 4, 0, 0, 0⟩ =
      [pointAt x y 1] := by
    rw [predictConstantVelocity, htimes]
    norm_num [standing, pointAt, stdMax]
  have hconfig : (holding activePoints previousPoints stamp).predictionConfig =
      ⟨0, 1 / 4, 0, 0, 0⟩ := rfl
  have hframe : ¬ "map" ≠ (holding activePoints previousPoints stamp).globalFrameId :=
    fun h ↦ h rfl
  rw [onObstacles, if_neg hframe, hconfig, hpredicted]
  rfl

theorem updateBounds_holding (activePoints previousPoints : List (PredictedPoint ℚ))
    (stamp now : ℤ) (hstamp : stamp ≠ 0) (hnow : now - stamp ≤ 2) (bounds : Bounds ℚ) :
    (holding activePoints previousPoints stamp).updateBounds bounds now =
      (holding activePoints activePoints stamp,
        activePoints.foldl enlarge (previousPoints.foldl enlarge bounds)) := by
  have hfresh : (holding activePoints previousPoints stamp).timedOut now = false := by
    have helapsed : ((now - stamp : ℤ) : ℚ) ≤ 2 := by exact_mod_cast hnow
    have hwithin : ((now - stamp : ℤ) : ℚ) / ((10 ^ 9 : ℕ) : ℚ) ≤ 4 / 5 := by
      rw [div_le_iff₀ (by norm_num)]
      norm_num
      push_cast at helapsed
      linarith
    simpa [timedOut, holding, hstamp] using hwithin
  rw [updateBounds, hfresh]
  rfl

theorem painted_holding (activePoints previousPoints : List (PredictedPoint ℚ)) (stamp : ℤ) :
    (holding activePoints previousPoints stamp).painted = activePoints := rfl

theorem updateBounds_unobserved (bounds : Bounds ℚ) (now : ℤ) :
    (holding [] [] 0).updateBounds bounds now = (holding [] [] 0, bounds) := rfl

theorem reaches_board {x y : ℚ} {center cell : ℕ × ℕ}
    (hcenter : board.worldToMap x y = some center) : Reaches board (pointAt x y 1) cell ↔
      ((cell.1 : ℤ) - center.1) * (cell.1 - center.1) +
        ((cell.2 : ℤ) - center.2) * (cell.2 - center.2) ≤ 1 := by
  have hradius : cellRadius board (pointAt x y 1) = 1 := by
    simp [cellRadius, board, Costmap2D.uniform, pointAt]
  rw [Reaches, hradius]
  constructor
  · rintro ⟨other, hother, -, hdisc⟩
    cases hcenter.symm.trans hother
    exact hdisc
  · exact fun h ↦ ⟨center, hcenter, zero_le_one, h⟩

theorem board_center (x y : ℚ) (i j : ℕ) (hi : i < 8) (hj : j < 8) (hx : i ≤ x ∧ x < i + 1)
    (hy : j ≤ y ∧ y < j + 1) : board.worldToMap x y = some (i, j) :=
  (board.worldToMap_iff x y (i, j)).mpr (by
    simpa [board, Costmap2D.uniform] using ⟨⟨hi, hx⟩, hj, hy⟩)

theorem cycle_standing (x y : ℚ) : run step ⟨holding [] [] 0, []⟩
    [.obstacles "map" (standing x y) 1, .updateBounds noBounds 2] =
      ⟨holding [pointAt x y 1] [pointAt x y 1] 1, []⟩ := by
  simp only [run_cons, run_nil, step, onObstacles_holding]
  rw [updateBounds_holding _ _ 1 2 one_ne_zero (by decide)]

theorem standing_no_residue : LeavesNoResidue ⟨holding [] [] 0, []⟩
    [.obstacles "map" (standing (5 / 2) (5 / 2)) 1, .updateBounds noBounds 2,
      .updateCosts board ⟨0, 0, 8, 8⟩ (fun _ ↦ 0), .updateBounds noBounds 3] := by
  refine no_residue _ _ ((along_append step (h := [_, _])).mpr
    ⟨⟨fun _ ↦ rfl, fun _ ↦ rfl, trivial⟩, ?_⟩)
  rw [cycle_standing]
  refine ⟨?_, fun _ ↦ by simp [step, painted, holding], trivial⟩
  intro point hpoint cell hreaches _ _
  rw [painted_holding, List.mem_singleton] at hpoint
  rw [hpoint, reaches_board (board_center _ _ 2 2 (by decide) (by decide) (by norm_num)
    (by norm_num))] at hreaches
  have hrows : ∀ a b : ℤ, (a - 2) * (a - 2) + (b - 2) * (b - 2) ≤ 1 →
      (1 : ℚ) ≤ a ∧ (a : ℚ) ≤ 3 := by
    intro a b hdisc
    have hlow : 1 ≤ a := by nlinarith [mul_self_nonneg (b - 2)]
    have hhigh : a ≤ 3 := by nlinarith [mul_self_nonneg (b - 2)]
    exact ⟨by exact_mod_cast hlow, by exact_mod_cast hhigh⟩
  obtain ⟨hx, hx'⟩ := hrows cell.1 cell.2 hreaches
  obtain ⟨hy, hy'⟩ := hrows cell.2 cell.1 ((add_comm _ _).trans_le hreaches)
  push_cast at hx hx' hy hy'
  refine ⟨pointAt (5 / 2) (5 / 2) 1, .head _, ?_⟩
  simp only [InSquare, pointAt, Costmap2D.centerX, Costmap2D.centerY, board, Costmap2D.uniform]
  refine ⟨⟨?_, ?_⟩, ?_, ?_⟩ <;> linarith

theorem residues : ¬ LeavesNoResidue ⟨holding [] [] 0, []⟩
      [.obstacles "map" (standing (9 / 4) (5 / 2)) 1, .updateBounds noBounds 2,
        .updateCosts board ⟨0, 0, 8, 8⟩ (fun _ ↦ 0), .updateBounds noBounds 3] ∧
    ¬ LeavesNoResidue ⟨holding [] [] 0, []⟩
      [.updateBounds noBounds 1, .obstacles "map" (standing (5 / 2) (5 / 2)) 2,
        .updateCosts board ⟨0, 0, 8, 8⟩ (fun _ ↦ 0),
        .obstacles "map" (standing (13 / 2) (13 / 2)) 3, .updateBounds noBounds 4] := by
  have hreaches : ∀ {x y : ℚ} {cell : ℕ × ℕ}, ((2 : ℕ) ≤ x ∧ x < (2 : ℕ) + 1) →
      ((2 : ℕ) ≤ y ∧ y < (2 : ℕ) + 1) →
      ((cell.1 : ℤ) - 2) * (cell.1 - 2) + ((cell.2 : ℤ) - 2) * (cell.2 - 2) ≤ 1 →
      Reaches board (pointAt x y 1) cell :=
    fun hx hy hdisc ↦
      (reaches_board (board_center _ _ 2 2 (by decide) (by decide) hx hy)).mpr hdisc
  constructor
  · intro h
    have hcontains := h [.obstacles "map" (standing (9 / 4) (5 / 2)) 1, .updateBounds noBounds 2]
      board ⟨0, 0, 8, 8⟩ (fun _ ↦ 0) [] noBounds 3 [] rfl (by simp) (3, 2) (by decide) ?_
    · rw [run_append, cycle_standing] at hcontains
      have hmaxX := hcontains.1.2
      simp only [run_cons, run_nil, step] at hmaxX
      rw [updateBounds_holding _ _ 1 3 one_ne_zero (by decide)] at hmaxX
      norm_num [enlarge, pointAt, noBounds, stdMax, Costmap2D.centerX, board,
        Costmap2D.uniform] at hmaxX
    · rw [cycle_standing, updateCosts_eq_lethal_iff]
      exact .inr ⟨rfl, _, .head _, hreaches (by norm_num) (by norm_num) (by decide), by decide⟩
  · have hobserved : run step ⟨holding [] [] 0, []⟩
        [.updateBounds noBounds 1, .obstacles "map" (standing (5 / 2) (5 / 2)) 2] =
          ⟨holding [pointAt (5 / 2) (5 / 2) 1] [] 2, []⟩ := by
      simp only [run_cons, run_nil, step, updateBounds_unobserved, onObstacles_holding]
    intro h
    have hcontains := h [.updateBounds noBounds 1, .obstacles "map" (standing (5 / 2) (5 / 2)) 2]
      board ⟨0, 0, 8, 8⟩ (fun _ ↦ 0) [.obstacles "map" (standing (13 / 2) (13 / 2)) 3] noBounds 4 []
      rfl (by simp [Event.isBounds]) (2, 2) (by decide) ?_
    · rw [run_append, hobserved] at hcontains
      have hminX := hcontains.1.1
      simp only [run_cons, run_nil, step, onObstacles_holding] at hminX
      rw [updateBounds_holding _ _ 3 4 (by decide) (by decide)] at hminX
      norm_num [enlarge, pointAt, noBounds, stdMin, Costmap2D.centerX, board,
        Costmap2D.uniform] at hminX
    · rw [hobserved, updateCosts_eq_lethal_iff]
      exact .inr ⟨rfl, _, .head _, hreaches (by norm_num) (by norm_num) (by decide), by decide⟩

end PredictedObstacleLayer

end EmbodiedAgent.Navigation
