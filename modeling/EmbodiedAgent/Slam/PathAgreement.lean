import EmbodiedAgent.Slam.OccupancyMap
import EmbodiedAgent.Slam.PathInspection

namespace EmbodiedAgent.Slam.UnknownWorld

open Library OccupancyMap
open MappedGoalSampler (OccupancySnapshot inspectPathOccupancy)

section Model

variable {K : Type} [Field K] [LinearOrder K] [FloorRing K] (polar : Polar K)

/-- The points after `start`, up to `finish`. -/
def densifySegment (start finish : K × K) (maximumStepM : K) : List (K × K) :=
  let distance := polar.hypot (finish.1 - start.1) (finish.2 - start.2)
  let steps := max 1 ⌈distance / maximumStepM⌉.toNat
  (List.range' 1 steps).map fun (index : ℕ) ↦
    (start.1 + (finish.1 - start.1) * (index : K) / (steps : K),
      start.2 + (finish.2 - start.2) * (index : K) / (steps : K))

def densifyPath (path : List (K × K)) (maximumStepM : K) : Except String (List (K × K)) :=
  if maximumStepM ≤ 0 then .error "path sampling step must be positive"
  else
    match path with
    | [] => .ok []
    | first :: rest =>
      .ok (first :: (path.zip rest).flatMap fun (start, finish) ↦
        densifySegment polar start finish maximumStepM)

structure PathReport where
  pointCount : ℕ
  sampleCount : ℕ
  unknownSampleCount : ℕ
  occupiedSampleCount : ℕ
  passed : Bool

/-- The states that a path leads through. -/
def pathStates (m : OccupancyMap K) (path : List (K × K)) : Except String (List CellState) :=
  match densifyPath polar path (m.resolution * half) with
  | .error e => .error e
  | .ok dense => .ok (dense.map fun p ↦ m.stateAtWorld polar.toTrigonometry p.1 p.2)

def pathReport (m : OccupancyMap K) (path : List (K × K)) : Except String PathReport :=
  match pathStates polar m path with
  | .error e => .error e
  | .ok states =>
    .ok
      { pointCount := path.length
        sampleCount := states.length
        unknownSampleCount := states.count .unknown
        occupiedSampleCount := states.count .occupied
        passed := !states.isEmpty && states.all (· == .free) }

end Model

section Agreement

variable {K : Type} [Field K] [LinearOrder K] [FloorRing K] {polar : Polar K}
  {snapshot : OccupancySnapshot K} {document : MapDocument K} {m : OccupancyMap K}

def savedState (value : ℤ) : CellState :=
  if value = 0 then .free else if value = 100 then .occupied else .unknown

omit [FloorRing K] in
structure SavedAs (snapshot : OccupancySnapshot K) (document : MapDocument K) : Prop where
  values : ∀ value ∈ snapshot.cells, value = -1 ∨ value = 0 ∨ value = 100
  width : document.image.width = snapshot.width
  height : document.image.height = snapshot.height
  resolution : document.resolution = snapshot.resolution
  originX : document.origin.1 = snapshot.origin.1
  originY : document.origin.2.1 = snapshot.origin.2
  originYaw : document.origin.2.2 = 0
  pixels : ∀ column row, snapshot.Contains (column, row) →
    (document.image.pixels[((snapshot.height - 1 - row) * snapshot.width + column).toNat]?).map
      (pixelState document) = some (savedState (snapshot.value (column, row)))

theorem savedState_eq_free {value : ℤ} : savedState value = .free ↔ value = 0 := by
  rw [savedState]
  split_ifs with hzero hoccupied
  · exact iff_of_true rfl hzero
  · exact iff_of_false (fun h ↦ by cases h) hzero
  · exact iff_of_false (fun h ↦ by cases h) hzero

omit [FloorRing K] in
theorem hypot_neg (x y : K) : polar.hypot (-x) (-y) = polar.hypot x y := by
  rw [Polar.hypot, Polar.hypot, neg_mul_neg, neg_mul_neg]

theorem densifySegment_eq (hresolution : m.resolution = snapshot.resolution)
    (start finish : K × K) : densifySegment polar start finish (m.resolution * half) =
      MappedGoalSampler.densify polar.hypot snapshot start finish := by
  have hstep : m.resolution * half = snapshot.resolution / 2 := by
    rw [hresolution, half, one_add_one_eq_two, div_eq_mul_inv]
  have hlength : polar.hypot (finish.1 - start.1) (finish.2 - start.2) =
      MappedGoalSampler.distance polar.hypot start finish := by
    rw [MappedGoalSampler.distance, ← hypot_neg, neg_sub, neg_sub]
  rw [densifySegment, hstep, hlength]
  rfl

theorem inspect_knownFree (first : K × K) (rest : List (K × K)) :
    (∃ stats, inspectPathOccupancy polar.hypot snapshot (first :: rest) = .ok stats ∧
      stats.KnownFree) ↔ ∀ point ∈ first :: ((first :: rest).zip rest).flatMap fun (start, finish) ↦
      MappedGoalSampler.densify polar.hypot snapshot start finish,
        snapshot.Free (snapshot.cellOf point) := by
  constructor
  · rintro ⟨stats, hok, hfree⟩
    obtain rfl := Except.ok.inj hok
    exact ((MappedGoalSampler.foldl_knownFree _ _).mp hfree).2
  · intro hall
    exact ⟨_, rfl, (MappedGoalSampler.foldl_knownFree _ _).mpr
      ⟨⟨Nat.succ_pos _, rfl, rfl, rfl⟩, hall⟩⟩

variable [IsStrictOrderedRing K]

theorem stateAtWorld_eq_free (hsaved : SavedAs snapshot document)
    (hload : loadMap document = .ok m) (point : K × K) :
    m.stateAtWorld polar.toTrigonometry point.1 point.2 = .free ↔
      snapshot.Free (snapshot.cellOf point) := by
  obtain ⟨hwidth, hheight, hresolution, hx, hy, hyaw, hcells⟩ := loadMap_ok hload
  have hlocal : m.toLocal polar.toTrigonometry point.1 point.2 =
      (point.1 - snapshot.origin.1, point.2 - snapshot.origin.2) := by
    simp only [toLocal, hyaw, hsaved.originYaw, hx, hsaved.originX, hy, hsaved.originY,
      polar.cos_zero, polar.sin_zero, one_mul, zero_mul, add_zero, neg_zero, zero_add]
  have hinside : ∀ column row, m.Inside ((m.height : ℤ) - 1 - row) column ↔
      snapshot.Contains (column, row) := by
    intro column row
    rw [Inside, OccupancySnapshot.Contains, hheight, hwidth, hsaved.height, hsaved.width]
    constructor
    · rintro ⟨hrow, hcolumn⟩
      exact ⟨hcolumn, by omega, by omega⟩
    · rintro ⟨hcolumn, hrow⟩
      exact ⟨⟨by omega, by omega⟩, hcolumn⟩
  have hstate : ∀ column row, snapshot.Contains (column, row) →
      m.state ((m.height : ℤ) - 1 - row) column = savedState (snapshot.value (column, row)) := by
    intro column row hcontains
    have hpixel := hsaved.pixels column row hcontains
    rw [state, hcells, hheight, hwidth, hsaved.height, hsaved.width, List.getD_eq_getElem?_getD,
      List.getElem?_map, hpixel, Option.getD_some]
  rw [stateAtWorld, worldToCell, hlocal, hresolution, hsaved.resolution]
  rw [OccupancySnapshot.Free, OccupancySnapshot.cellOf]
  dsimp only
  generalize ⌊(point.1 - snapshot.origin.1) / snapshot.resolution⌋ = column
  generalize ⌊(point.2 - snapshot.origin.2) / snapshot.resolution⌋ = row
  by_cases hcontains : snapshot.Contains (column, row)
  · rw [if_pos ((hinside column row).mpr hcontains)]
    dsimp only
    rw [hstate column row hcontains, savedState_eq_free]
    exact (and_iff_right hcontains).symm
  · rw [if_neg (mt (hinside column row).mp hcontains)]
    exact iff_of_false (fun h ↦ by cases h) fun h ↦ hcontains h.1

theorem densifyPath_eq (hsaved : SavedAs snapshot document) (hload : loadMap document = .ok m)
    (first : K × K) (rest : List (K × K)) :
    densifyPath polar (first :: rest) (m.resolution * half) =
      .ok (first :: ((first :: rest).zip rest).flatMap fun (start, finish) ↦
        MappedGoalSampler.densify polar.hypot snapshot start finish) := by
  obtain ⟨-, -, hresolution, -⟩ := loadMap_ok hload
  have hpos : 0 < m.resolution * half :=
    mul_pos m.resolution_pos (inv_pos.mpr (add_pos zero_lt_one zero_lt_one))
  rw [densifyPath, if_neg (not_le.mpr hpos)]
  simp only [densifySegment_eq (hresolution.trans hsaved.resolution)]

variable (polar) in
theorem pathStates_cons (hsaved : SavedAs snapshot document) (hload : loadMap document = .ok m)
    (first : K × K) (rest : List (K × K)) :
    ∃ states, pathStates polar m (first :: rest) = .ok states ∧ states ≠ [] ∧
      ((∀ state ∈ states, state = .free) ↔
        ∃ stats, inspectPathOccupancy polar.hypot snapshot (first :: rest) = .ok stats ∧
          stats.KnownFree) := by
  rw [pathStates, densifyPath_eq hsaved hload, inspect_knownFree]
  refine ⟨_, rfl, List.cons_ne_nil _ _, ?_⟩
  rw [List.forall_mem_map]
  exact forall₂_congr fun point _ ↦ stateAtWorld_eq_free hsaved hload point

theorem pathStates_nil : pathStates polar m [] = .ok [] := by
  have hpos : 0 < m.resolution * half :=
    mul_pos m.resolution_pos (inv_pos.mpr (add_pos zero_lt_one zero_lt_one))
  rw [pathStates, densifyPath, if_neg (not_le.mpr hpos)]
  rfl

omit [IsStrictOrderedRing K] in
theorem pathReport_passed {path : List (K × K)} {states : List CellState}
    (h : pathStates polar m path = .ok states) :
    (∃ report, pathReport polar m path = .ok report ∧ report.passed = true) ↔
      states ≠ [] ∧ ∀ state ∈ states, state = .free := by
  rw [pathReport, h]
  simp

/-- Both accept a path when it has a point and all of its samples are free. -/
theorem path_agreement (hsaved : SavedAs snapshot document) (hload : loadMap document = .ok m)
    (path : List (K × K)) :
    ((∃ stats, inspectPathOccupancy polar.hypot snapshot path = .ok stats ∧ stats.KnownFree) ↔
      path ≠ [] ∧ ∃ states, pathStates polar m path = .ok states ∧
        ∀ state ∈ states, state = .free) ∧
    ((∃ stats, inspectPathOccupancy polar.hypot snapshot path = .ok stats ∧ stats.KnownFree) ↔
      ∃ report, pathReport polar m path = .ok report ∧ report.passed = true) := by
  cases path with
  | nil =>
    have hrefused : ¬∃ stats, inspectPathOccupancy polar.hypot snapshot [] = .ok stats ∧
        stats.KnownFree := by
      rintro ⟨stats, hok, -⟩
      cases hok
    refine ⟨iff_of_false hrefused fun h ↦ h.1 rfl, iff_of_false hrefused ?_⟩
    rw [pathReport_passed pathStates_nil]
    exact fun h ↦ h.1 rfl
  | cons first rest =>
    obtain ⟨states, hstates, hne, hiff⟩ :=
      pathStates_cons polar hsaved hload first rest
    refine ⟨?_, ?_⟩
    · rw [← hiff]
      constructor
      · intro hfree
        exact ⟨List.cons_ne_nil _ _, states, hstates, hfree⟩
      · rintro ⟨-, states', hstates', hfree⟩
        rw [hstates] at hstates'
        cases hstates'
        exact hfree
    · rw [pathReport_passed hstates, ← hiff]
      exact (and_iff_right hne).symm

end Agreement

noncomputable section Spot

def roomGrid : OccupancySnapshot ℝ where
  width := 2
  height := 2
  resolution := 1
  origin := (0, 0)
  cells := [0, 0, -1, 100]
  width_pos := Nat.succ_pos 1
  height_pos := Nat.succ_pos 1
  resolution_pos := one_pos
  cells_length := rfl

theorem grey_le : ∀ pixel ∈ [205, 0, 254, 254], pixel ≤ 255 := by decide

def roomImage : PgmImage where
  width := 2
  height := 2
  maxValue := 255
  pixels := [205, 0, 254, 254]
  width_pos := Nat.succ_pos 1
  height_pos := Nat.succ_pos 1
  maxValue_pos := Nat.succ_pos 254
  maxValue_le := le_rfl
  pixels_length := rfl
  pixels_le := grey_le

def roomDocument : MapDocument ℝ where
  image := roomImage
  resolution := 1
  origin := (0, 0, 0)
  negate := 0
  occupiedThresh := ((65 : ℕ) : ℝ) / ((100 : ℕ) : ℝ)
  freeThresh := ((196 : ℕ) : ℝ) / ((1000 : ℕ) : ℝ)

theorem roomDocument_states : pixelState roomDocument 205 = savedState (-1) ∧
    pixelState roomDocument 0 = savedState 100 ∧ pixelState roomDocument 254 = savedState 0 := by
  norm_num [pixelState, roomDocument, roomImage, savedState]

theorem roomGrid_saved : SavedAs roomGrid roomDocument := by
  refine ⟨by decide, rfl, rfl, rfl, rfl, rfl, rfl, ?_⟩
  rintro column row ⟨⟨hcolumn, hcolumn'⟩, hrow, hrow'⟩
  obtain ⟨hunknown, hoccupied, hfree⟩ := roomDocument_states
  have hcolumn' : column < 2 := hcolumn'
  have hrow' : row < 2 := hrow'
  interval_cases column <;> interval_cases row
  · exact congrArg some hfree
  · exact congrArg some hunknown
  · exact congrArg some hfree
  · exact congrArg some hoccupied

theorem roomDocument_loads : ∃ m, loadMap roomDocument = .ok m := by
  rw [loadMap, dif_neg, if_neg]
  · exact ⟨_, rfl⟩
  · norm_num [roomDocument]
  · norm_num [roomDocument]

theorem roomGrid_densify {start finish : ℝ × ℝ}
    (h : MappedGoalSampler.distance realPolar.hypot start finish = 1) :
    MappedGoalSampler.densify realPolar.hypot roomGrid start finish =
      [(start.1 + (finish.1 - start.1) / 2, start.2 + (finish.2 - start.2) / 2), finish] := by
  have hsteps : MappedGoalSampler.steps realPolar.hypot roomGrid start finish = 2 := by
    rw [MappedGoalSampler.steps, h]
    norm_num [roomGrid]
    rfl
  simp [MappedGoalSampler.densify, hsteps, List.range']

theorem roomGrid_cellOf (x y : ℝ) : roomGrid.cellOf (x, y) = (⌊x⌋, ⌊y⌋) := by
  simp [OccupancySnapshot.cellOf, roomGrid]

theorem room_agreement : ∃ m, loadMap roomDocument = .ok m ∧
    (∃ report, pathReport realPolar m [(0, 0), (1, 0)] = .ok report ∧ report.passed = true) ∧
    ¬∃ report, pathReport realPolar m [(0, 0), (0, 1)] = .ok report ∧ report.passed = true := by
  obtain ⟨m, hload⟩ := roomDocument_loads
  have hright : MappedGoalSampler.distance realPolar.hypot ((0 : ℝ), (0 : ℝ)) (1, 0) = 1 := by
    norm_num [MappedGoalSampler.distance, Polar.hypot, realPolar]
  have hup : MappedGoalSampler.distance realPolar.hypot ((0 : ℝ), (0 : ℝ)) (0, 1) = 1 := by
    norm_num [MappedGoalSampler.distance, Polar.hypot, realPolar]
  have hhalf : ⌊(2 : ℝ)⁻¹⌋ = 0 := by
    rw [Int.floor_eq_zero_iff]
    norm_num
  refine ⟨m, hload, (path_agreement roomGrid_saved hload _).2.mp ?_, fun h ↦ ?_⟩
  · rw [inspect_knownFree]
    have hfree : roomGrid.Free (0, 0) ∧ roomGrid.Free (1, 0) :=
      ⟨⟨by decide, by decide⟩, ⟨by decide, by decide⟩⟩
    simpa [roomGrid_densify hright, roomGrid_cellOf, hhalf] using hfree
  · have hfree := (inspect_knownFree _ _).mp ((path_agreement roomGrid_saved hload _).2.mpr h)
    have hunknown := hfree (0, 1) (by simp [roomGrid_densify hup])
    rw [roomGrid_cellOf, Int.floor_zero, Int.floor_one] at hunknown
    exact absurd hunknown.2 (by decide)

/-- A path without a point has no sample that is not free, and is refused all the same. -/
theorem empty_path_refused : ¬∀ (snapshot : OccupancySnapshot ℝ) (document : MapDocument ℝ)
    (m : OccupancyMap ℝ) (path : List (ℝ × ℝ)), SavedAs snapshot document →
      loadMap document = .ok m →
      ((∃ stats, inspectPathOccupancy realPolar.hypot snapshot path = .ok stats ∧
        stats.KnownFree) ↔ ∃ states, pathStates realPolar m path = .ok states ∧
          ∀ state ∈ states, state = .free) := by
  intro hall
  obtain ⟨m, hload⟩ := roomDocument_loads
  obtain ⟨stats, hok, -⟩ := (hall roomGrid roomDocument m [] roomGrid_saved hload).mpr
    ⟨[], pathStates_nil, fun state hstate ↦ (List.not_mem_nil hstate).elim⟩
  cases hok

end Spot

end EmbodiedAgent.Slam.UnknownWorld
