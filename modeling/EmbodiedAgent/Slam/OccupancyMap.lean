import EmbodiedAgent.Library.Trigonometry

namespace EmbodiedAgent.Slam.UnknownWorld

open Library

inductive CellState
  | unknown
  | free
  | occupied
  deriving DecidableEq

/-- A saved map, with its cells row by row from the top. -/
structure OccupancyMap (K : Type) [Zero K] [LT K] where
  width : ℕ
  height : ℕ
  resolution : K
  originX : K
  originY : K
  originYaw : K
  cells : List CellState
  width_pos : 0 < width
  height_pos : 0 < height
  resolution_pos : 0 < resolution
  cells_length : cells.length = width * height

variable {K : Type} [Field K] [LinearOrder K]

namespace OccupancyMap

section Model

variable (m : OccupancyMap K)

def state (row column : ℤ) : CellState :=
  m.cells.getD (row * m.width + column).toNat .unknown

def Inside (row column : ℤ) : Prop :=
  (0 ≤ row ∧ row < m.height) ∧ 0 ≤ column ∧ column < m.width

instance (row column : ℤ) : Decidable (m.Inside row column) :=
  inferInstanceAs (Decidable (_ ∧ _))

/-- `0.5` -/
def half : K := (1 + 1)⁻¹

variable (trig : Trigonometry K)

def cellCenterWorld (row column : ℤ) : K × K :=
  let localX := ((column : K) + half) * m.resolution
  let localY := ((m.height : K) - (row : K) - half) * m.resolution
  let cosine := trig.cos m.originYaw
  let sine := trig.sin m.originYaw
  (m.originX + cosine * localX - sine * localY, m.originY + sine * localX + cosine * localY)

def toLocal (x y : K) : K × K :=
  let deltaX := x - m.originX
  let deltaY := y - m.originY
  let cosine := trig.cos m.originYaw
  let sine := trig.sin m.originYaw
  (cosine * deltaX + sine * deltaY, -sine * deltaX + cosine * deltaY)

variable [FloorRing K]

def worldToCell (x y : K) : Option (ℤ × ℤ) :=
  let column := ⌊(m.toLocal trig x y).1 / m.resolution⌋
  let gridY := ⌊(m.toLocal trig x y).2 / m.resolution⌋
  let row := (m.height : ℤ) - 1 - gridY
  if m.Inside row column then some (row, column) else none

def stateAtWorld (x y : K) : CellState :=
  match m.worldToCell trig x y with
  | none => .unknown
  | some cell => m.state cell.1 cell.2

end Model

variable {m : OccupancyMap K} {trig : Trigonometry K} {x y : K}

theorem toLocal_center (row column : ℤ) : let center := m.cellCenterWorld trig row column
    let a := ((column : K) + half) * m.resolution - (m.toLocal trig x y).1
    let b := ((m.height : K) - (row : K) - half) * m.resolution - (m.toLocal trig x y).2
    (center.1 - x) * (center.1 - x) + (center.2 - y) * (center.2 - y) = a * a + b * b := by
  have hunit := trig.cos_sq_add_sin_sq m.originYaw
  simp only [cellCenterWorld, toLocal]
  generalize ((column : K) + half) * m.resolution = u
  generalize ((m.height : K) - (row : K) - half) * m.resolution = v
  linear_combination (u * u + v * v - (x - m.originX) * (x - m.originX) -
    (y - m.originY) * (y - m.originY)) * hunit

theorem worldToCell_eq_some [FloorRing K] {cell : ℤ × ℤ} (h : m.worldToCell trig x y = some cell) :
    m.Inside cell.1 cell.2 ∧ cell.2 = ⌊(m.toLocal trig x y).1 / m.resolution⌋ ∧
      (m.height : ℤ) - 1 - cell.1 = ⌊(m.toLocal trig x y).2 / m.resolution⌋ := by
  rw [worldToCell] at h
  split_ifs at h with hinside
  cases h
  exact ⟨hinside, rfl, sub_sub_cancel _ _⟩

end OccupancyMap

/-- An image that has been read, row by row from the top. -/
structure PgmImage where
  width : ℕ
  height : ℕ
  maxValue : ℕ
  pixels : List ℕ
  width_pos : 0 < width
  height_pos : 0 < height
  maxValue_pos : 0 < maxValue
  maxValue_le : maxValue ≤ 255
  pixels_length : pixels.length = width * height
  pixels_le : ∀ pixel ∈ pixels, pixel ≤ maxValue

/-- A map as its file describes it. -/
structure MapDocument (K : Type) where
  image : PgmImage
  resolution : K
  origin : K × K × K
  negate : ℤ
  occupiedThresh : K
  freeThresh : K

def pixelState (document : MapDocument K) (pixel : ℕ) : CellState :=
  let normalized := (pixel : K) / (document.image.maxValue : K)
  let occupancy := if document.negate ≠ 0 then normalized else 1 - normalized
  if document.occupiedThresh < occupancy then .occupied
  else if occupancy < document.freeThresh then .free
  else .unknown

def loadMap (document : MapDocument K) : Except String (OccupancyMap K) :=
  if h : document.resolution ≤ 0 then .error "invalid map resolution/origin"
  else if ¬(0 ≤ document.freeThresh ∧ document.freeThresh < document.occupiedThresh ∧
      document.occupiedThresh ≤ 1) then
    .error "invalid occupancy thresholds"
  else
    .ok
      { width := document.image.width
        height := document.image.height
        resolution := document.resolution
        originX := document.origin.1
        originY := document.origin.2.1
        originYaw := document.origin.2.2
        cells := document.image.pixels.map (pixelState document)
        width_pos := document.image.width_pos
        height_pos := document.image.height_pos
        resolution_pos := not_le.mp h
        cells_length := (List.length_map _).trans document.image.pixels_length }

theorem loadMap_ok {document : MapDocument K} {m : OccupancyMap K} (h : loadMap document = .ok m) :
    m.width = document.image.width ∧ m.height = document.image.height ∧
      m.resolution = document.resolution ∧ m.originX = document.origin.1 ∧
      m.originY = document.origin.2.1 ∧ m.originYaw = document.origin.2.2 ∧
      m.cells = document.image.pixels.map (pixelState document) := by
  rw [loadMap] at h
  split_ifs at h
  cases h
  exact ⟨rfl, rfl, rfl, rfl, rfl, rfl, rfl⟩

end EmbodiedAgent.Slam.UnknownWorld
