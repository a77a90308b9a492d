import EmbodiedAgent.Library.FarthestFirst
import EmbodiedAgent.Library.Flood
import Mathlib.Algebra.Order.Floor.Ring
import Mathlib.Data.Int.Range
import Mathlib.Data.List.Sort
import Mathlib.Tactic.Ring

namespace EmbodiedAgent.Slam.MappedGoalSampler

open Library

/-- A column and a row. -/
abbrev Cell := ℤ × ℤ

abbrev Point2D (K : Type*) := K × K

inductive SamplerError
  | valueError (message : String)
  | goalSampling (message : String)

/-- A map, with the values of its cells row by row. -/
structure OccupancySnapshot (K : Type*) [Zero K] [LT K] where
  width : ℕ
  height : ℕ
  resolution : K
  origin : Point2D K
  cells : List ℤ
  width_pos : 0 < width
  height_pos : 0 < height
  resolution_pos : 0 < resolution
  cells_length : cells.length = width * height

/-- A generator of random permutations, which the seed determines. -/
structure Shuffle (α : Type*) where
  shuffle : ℤ → List α → List α
  perm : ∀ seed l, (shuffle seed l).Perm l

variable {K : Type*} [Field K] [LinearOrder K]

namespace OccupancySnapshot

variable (snapshot : OccupancySnapshot K)

def value (cell : Cell) : ℤ :=
  snapshot.cells.getD (cell.2 * snapshot.width + cell.1).toNat (-1)

def Contains (cell : Cell) : Prop :=
  (0 ≤ cell.1 ∧ cell.1 < snapshot.width) ∧ 0 ≤ cell.2 ∧ cell.2 < snapshot.height

instance (cell : Cell) : Decidable (snapshot.Contains cell) :=
  inferInstanceAs (Decidable (_ ∧ _))

def cellCenter (cell : Cell) : Point2D K :=
  (snapshot.origin.1 + (cell.1 + 1 / 2) * snapshot.resolution,
    snapshot.origin.2 + (cell.2 + 1 / 2) * snapshot.resolution)

def grid : List Cell :=
  (Int.range 0 snapshot.height).flatMap fun row ↦
    (Int.range 0 snapshot.width).map fun column ↦ (column, row)

variable [FloorRing K]

def cellOf (point : Point2D K) : Cell :=
  (⌊(point.1 - snapshot.origin.1) / snapshot.resolution⌋,
    ⌊(point.2 - snapshot.origin.2) / snapshot.resolution⌋)

def worldToCell (point : Point2D K) : Option Cell :=
  if snapshot.Contains (snapshot.cellOf point) then some (snapshot.cellOf point) else none

end OccupancySnapshot

/-- What is counted along a path. -/
structure PathOccupancyStats where
  sampleCount : ℕ
  unknownCellCount : ℕ := 0
  occupiedCellCount : ℕ := 0
  outsideMapCellCount : ℕ := 0

def PathOccupancyStats.KnownFree (stats : PathOccupancyStats) : Prop :=
  0 < stats.sampleCount ∧ stats.unknownCellCount = 0 ∧ stats.occupiedCellCount = 0 ∧
    stats.outsideMapCellCount = 0

/-- `hypot` is the one of the standard library. -/
def distance (hypot : K → K → K) (a b : Point2D K) : K := hypot (a.1 - b.1) (a.2 - b.2)

/-- Lengths without a rounding error. -/
structure Exact (hypot : K → K → K) : Prop where
  nonneg : ∀ x y, 0 ≤ hypot x y
  sq : ∀ x y, hypot x y ^ 2 = x ^ 2 + y ^ 2

def OccupancySnapshot.halfCell (snapshot : OccupancySnapshot K) : K := snapshot.resolution / 2

section Paths

variable [FloorRing K] (hypot : K → K → K) (snapshot : OccupancySnapshot K)

def steps (start finish : Point2D K) : ℕ :=
  max 1 ⌈distance hypot start finish / (snapshot.resolution / 2)⌉.toNat

def densify (start finish : Point2D K) : List (Point2D K) :=
  (List.range' 1 (steps hypot snapshot start finish)).map fun (index : ℕ) ↦
    (start.1 + (finish.1 - start.1) * index / steps hypot snapshot start finish,
      start.2 + (finish.2 - start.2) * index / steps hypot snapshot start finish)

def countPoint (stats : PathOccupancyStats) (point : Point2D K) : PathOccupancyStats :=
  match snapshot.worldToCell point with
  | none => { stats with outsideMapCellCount := stats.outsideMapCellCount + 1 }
  | some cell =>
    if snapshot.value cell < 0 then
      { stats with unknownCellCount := stats.unknownCellCount + 1 }
    else if snapshot.value cell ≠ 0 then
      { stats with occupiedCellCount := stats.occupiedCellCount + 1 }
    else stats

def inspectPathOccupancy (points : List (Point2D K)) : Except SamplerError PathOccupancyStats :=
  match points with
  | [] => .error (.valueError "navigation path must contain at least one point")
  | first :: rest =>
    let dense := first :: (points.zip rest).flatMap fun (start, finish) ↦
      densify hypot snapshot start finish
    .ok (dense.foldl (countPoint snapshot) { sampleCount := dense.length })

end Paths

variable [FloorRing K] (hypot : K → K → K) (snapshot : OccupancySnapshot K)

def clearanceOffsets (resolution clearance : K) : Except SamplerError (List Cell) :=
  if clearance < 0 then .error (.valueError "clearance must be non-negative")
  else
    let radius := ⌈clearance / resolution + 1 / 2⌉
    let tolerance := max (1 / 10 ^ 12) (resolution * (1 / 10 ^ 9))
    let square := (Int.range (-radius) (radius + 1)).flatMap fun rowDelta ↦
      (Int.range (-radius) (radius + 1)).map fun columnDelta ↦ (columnDelta, rowDelta)
    .ok (square.filter fun (columnDelta, rowDelta) ↦
      hypot (max 0 ((((|columnDelta| : ℤ) : K) - 1 / 2) * resolution))
        (max 0 ((((|rowDelta| : ℤ) : K) - 1 / 2) * resolution)) ≤ clearance + tolerance)

def Clear (offsets : List Cell) (cell : Cell) : Prop :=
  ∀ offset ∈ offsets, snapshot.Contains (cell.1 + offset.1, cell.2 + offset.2) ∧
    snapshot.value (cell.1 + offset.1, cell.2 + offset.2) = 0

instance (offsets : List Cell) (cell : Cell) : Decidable (Clear snapshot offsets cell) :=
  List.decidableBAll _ _

def safeFreeCells (clearance : K) : Except SamplerError (List Cell) := do
  let offsets ← clearanceOffsets hypot snapshot.resolution clearance
  .ok (snapshot.grid.filter fun cell ↦ snapshot.value cell = 0 ∧ Clear snapshot offsets cell)

def neighbors (cell : Cell) : List Cell :=
  [(cell.1 - 1, cell.2), (cell.1 + 1, cell.2), (cell.1, cell.2 - 1), (cell.1, cell.2 + 1)]

def connectedComponent (start : Cell) (safe : List Cell) : List Cell :=
  Flood.component neighbors safe start

def tooNear (minimumSeparation d : K) : Bool := d + 1 / 10 ^ 12 < minimumSeparation

omit [FloorRing K] in
def rankFarthestGoals (rng : Shuffle (Point2D K)) (candidates : List (Point2D K))
    (startXy : Point2D K) (candidateLimit seed : ℤ) (minimumSeparation : K) : List (Point2D K) :=
  FarthestFirst.select (distance hypot) startXy (tooNear minimumSeparation) candidateLimit.toNat
    (rng.shuffle seed candidates) []

def cellLe (a b : Cell) : Prop := a.1 < b.1 ∨ a.1 = b.1 ∧ a.2 ≤ b.2

instance : DecidableRel cellLe := fun _ _ ↦ inferInstanceAs (Decidable (_ ∨ _))

def rankMappedGoalCandidates (rng : Shuffle (Point2D K)) (startXy : Point2D K) (seed : ℤ)
    (minimumSeparation clearance : K) (candidateLimit : ℤ) :
    Except SamplerError (List (Point2D K)) :=
  if candidateLimit ≤ 0 then .error (.valueError "candidate limit must be positive")
  else if minimumSeparation < 0 then
    .error (.valueError "minimum separation must be non-negative")
  else
    match snapshot.worldToCell startXy with
    | none => .error (.goalSampling "robot start is not in known free space")
    | some start =>
      if snapshot.value start ≠ 0 then
        .error (.goalSampling "robot start is not in known free space")
      else
        let knownFree := snapshot.grid.filter (snapshot.value · = 0)
        let reachable := connectedComponent start knownFree
        match safeFreeCells hypot snapshot clearance with
        | .error e => .error e
        | .ok goalSafe =>
          let candidates := (((goalSafe.filter (· ∈ reachable)).insertionSort cellLe).filter
            (· ≠ start)).map snapshot.cellCenter
          .ok (rankFarthestGoals hypot rng candidates startXy candidateLimit seed
            minimumSeparation)

end EmbodiedAgent.Slam.MappedGoalSampler
