import EmbodiedAgent.Library.Arithmetic

namespace EmbodiedAgent.Navigation

open Library

structure Point2d (α : Type*) where
  x : α
  y : α

inductive AssociationStrategy
  | greedyNearest | globalNearest

inductive AssociationMetric
  | euclidean | mahalanobis

structure AssociationPrediction (α : Type*) where
  position : Point2d α
  positionVariance : Point2d α

/-- The observation of each prediction, if it gets one. -/
abbrev ObservationAssignment := List (Option ℕ)

structure AssociationCosts (α : Type*) where
  rows : ℕ
  realColumns : ℕ
  unmatchedCost : α
  forbiddenCost : α
  value : ℕ → ℕ → α

variable {α : Type*} [Zero α] [One α] [Add α] [Sub α] [Mul α] [Div α] [NatCast α] [OfScientific α]
  [LT α] [DecidableLT α] [LE α] [DecidableLE α] [Extended α]

def squaredDistance (left right : Point2d α) : α :=
  (left.x - right.x) * (left.x - right.x) + (left.y - right.y) * (left.y - right.y)

def minimumVariance : α := 1e-9

def innovationSquared (prediction : AssociationPrediction α) (observation : Point2d α)
    (measurementNoiseVariance : α) : α :=
  let varianceX :=
    stdMax (prediction.positionVariance.x + measurementNoiseVariance) minimumVariance
  let varianceY :=
    stdMax (prediction.positionVariance.y + measurementNoiseVariance) minimumVariance
  let deltaX := observation.x - prediction.position.x
  let deltaY := observation.y - prediction.position.y
  deltaX * deltaX / varianceX + deltaY * deltaY / varianceY

def pairCost (measurementNoiseVariance maximumSquaredDistance associationNisGate : α)
    (metric : AssociationMetric) (prediction : AssociationPrediction α)
    (observation : Point2d α) : Option α :=
  let distance := squaredDistance prediction.position observation
  if maximumSquaredDistance ≤ distance then none
  else
    match metric with
    | .euclidean => some distance
    | .mahalanobis =>
      let cost := innovationSquared prediction observation measurementNoiseVariance
      if associationNisGate ≤ cost then none else some cost

def buildCosts (predictions : List (AssociationPrediction α)) (observations : List (Point2d α))
    (measurementNoiseVariance maximumSquaredDistance associationNisGate : α)
    (metric : AssociationMetric) : AssociationCosts α :=
  let rows := predictions.length
  let realColumns := observations.length
  let unmatchedCost :=
    match metric with
    | .mahalanobis => associationNisGate
    | .euclidean => maximumSquaredDistance
  let columns := realColumns + rows
  let forbiddenCost := stdMax 1 (unmatchedCost * ((rows + columns + 4 : ℕ) : α))
  { rows := rows
    realColumns := realColumns
    unmatchedCost := unmatchedCost
    forbiddenCost := forbiddenCost
    value := fun row column ↦
      match predictions[row]?, observations[column]? with
      | some prediction, some observation =>
        (pairCost measurementNoiseVariance maximumSquaredDistance associationNisGate metric
          prediction observation).getD forbiddenCost
      | _, _ => forbiddenCost }

namespace AssociationCosts

variable (costs : AssociationCosts α)

def feasible (row column : ℕ) : Bool := decide (costs.value row column < costs.forbiddenCost)

def greedyBest (used : List ℕ) (row columns : ℕ) : α × Option ℕ :=
  (List.range columns).foldl (fun best column ↦
    if column ∈ used then best
    else if costs.value row column < best.1 then (costs.value row column, some column)
    else best) (costs.unmatchedCost, none)

def greedyChoice (used : List ℕ) (row : ℕ) : Option ℕ :=
  (costs.greedyBest used row costs.realColumns).2

def greedyAssignment : ObservationAssignment :=
  ((List.range costs.rows).foldl (fun (done : ObservationAssignment × List ℕ) row ↦
    let choice := costs.greedyChoice done.2 row
    (done.1 ++ [choice], done.2 ++ choice.toList)) ([], [])).1

def cost (row column : ℕ) : α :=
  if column < costs.realColumns then costs.value row column
  else if column - costs.realColumns = row then costs.unmatchedCost
  else costs.forbiddenCost

end AssociationCosts

structure Search (α : Type*) where
  rowPotential : ℕ → α
  columnPotential : ℕ → α
  previousColumn : ℕ → ℕ
  minimumSlack : ℕ → Option α := fun _ ↦ none
  visited : List ℕ := []
  currentColumn : ℕ := 0

structure Scan (α : Type*) where
  minimumSlack : ℕ → Option α
  previousColumn : ℕ → ℕ
  delta : Option α := none
  nextColumn : ℕ := 0

def Scan.lower (scan : Scan α) (currentColumn column : ℕ) (reducedCost : α) : Scan α :=
  if ltExtended reducedCost (scan.minimumSlack column) then
    { scan with
      minimumSlack := Function.update scan.minimumSlack column (some reducedCost)
      previousColumn := Function.update scan.previousColumn column currentColumn }
  else scan

def Scan.select (scan : Scan α) (column : ℕ) : Scan α :=
  match scan.minimumSlack column with
  | none => scan
  | some slack =>
    if ltExtended slack scan.delta then { scan with delta := some slack, nextColumn := column }
    else scan

def Scan.column (scan : Scan α) (visited : List ℕ) (currentColumn : ℕ) (reducedCost : ℕ → α)
    (column : ℕ) : Scan α :=
  if column ∈ visited then scan
  else (scan.lower currentColumn column (reducedCost column)).select column

namespace Search

variable (s : Search α)

def reducedCost (cost : ℕ → ℕ → α) (row column : ℕ) : α :=
  cost (row - 1) (column - 1) - s.rowPotential row - s.columnPotential column

def scan (cost : ℕ → ℕ → α) (columns row : ℕ) : Scan α :=
  (List.range columns).foldl
    (fun scan i ↦ scan.column s.visited s.currentColumn (s.reducedCost cost row) (i + 1))
    { minimumSlack := s.minimumSlack, previousColumn := s.previousColumn }

def shiftColumn (matchedRow : ℕ → ℕ) (delta : α) (column : ℕ) : Search α :=
  if column ∈ s.visited then
    { s with
      rowPotential := Function.update s.rowPotential (matchedRow column)
        (s.rowPotential (matchedRow column) + delta)
      columnPotential := Function.update s.columnPotential column
        (s.columnPotential column - delta) }
  else
    { s with
      minimumSlack := Function.update s.minimumSlack column
        ((s.minimumSlack column).map (· - delta)) }

def shift (matchedRow : ℕ → ℕ) (delta : α) (columns : ℕ) : Search α :=
  (List.range (columns + 1)).foldl (fun s column ↦ s.shiftColumn matchedRow delta column) s

def visit : Search α := { s with visited := s.currentColumn :: s.visited }

def scanned (scan : Scan α) : Search α :=
  { s with minimumSlack := scan.minimumSlack, previousColumn := scan.previousColumn }

def step (cost : ℕ → ℕ → α) (columns : ℕ) (matchedRow : ℕ → ℕ) : Option (Search α) :=
  let scan := s.visit.scan cost columns (matchedRow s.currentColumn)
  scan.delta.map fun delta ↦
    { (s.visit.scanned scan).shift matchedRow delta columns with currentColumn := scan.nextColumn }

def run (cost : ℕ → ℕ → α) (columns : ℕ) (matchedRow : ℕ → ℕ) : ℕ → Search α → Option (Search α)
  | 0, _ => none
  | fuel + 1, s =>
    (s.step cost columns matchedRow).bind fun s ↦
      if matchedRow s.currentColumn = 0 then some s else run cost columns matchedRow fuel s

end Search

def augment (previousColumn : ℕ → ℕ) : ℕ → (ℕ → ℕ) → ℕ → Option (ℕ → ℕ)
  | 0, _, _ => none
  | fuel + 1, matchedRow, currentColumn =>
    let predecessor := previousColumn currentColumn
    let matchedRow := Function.update matchedRow currentColumn (matchedRow predecessor)
    if predecessor = 0 then some matchedRow else augment previousColumn fuel matchedRow predecessor

structure Phase (α : Type*) where
  rowPotential : ℕ → α
  columnPotential : ℕ → α
  matchedRow : ℕ → ℕ
  previousColumn : ℕ → ℕ

def Phase.search (phase : Phase α) : Search α :=
  { rowPotential := phase.rowPotential
    columnPotential := phase.columnPotential
    previousColumn := phase.previousColumn }

def Phase.row (cost : ℕ → ℕ → α) (columns row : ℕ) (phase : Phase α) : Option (Phase α) :=
  let matchedRow := Function.update phase.matchedRow 0 row
  (Search.run cost columns matchedRow (columns + 1) phase.search).bind fun s ↦
    (augment s.previousColumn (columns + 1) matchedRow s.currentColumn).map fun matchedRow ↦
      { rowPotential := s.rowPotential
        columnPotential := s.columnPotential
        matchedRow := matchedRow
        previousColumn := s.previousColumn }

def phases (cost : ℕ → ℕ → α) (columns : ℕ) : ℕ → Option (Phase α)
  | 0 =>
    some
      { rowPotential := fun _ ↦ 0
        columnPotential := fun _ ↦ 0
        matchedRow := fun _ ↦ 0
        previousColumn := fun _ ↦ 0 }
  | row + 1 => (phases cost columns row).bind (Phase.row cost columns (row + 1))

namespace AssociationCosts

variable (costs : AssociationCosts α)

def readMatching (matchedRow : ℕ → ℕ) : ObservationAssignment :=
  (List.range costs.realColumns).foldl (fun assignment column ↦
    if matchedRow (column + 1) = 0 then assignment
    else if costs.feasible (matchedRow (column + 1) - 1) column then
      assignment.set (matchedRow (column + 1) - 1) (some column)
    else assignment) (List.replicate costs.rows none)

def globalAssignment : Option ObservationAssignment :=
  if costs.rows = 0 then some []
  else
    (phases costs.cost (costs.realColumns + costs.rows) costs.rows).map fun phase ↦
      costs.readMatching phase.matchedRow

end AssociationCosts

def Point2d.isFinite (point : Point2d α) : Bool :=
  Extended.isFinite point.x && Extended.isFinite point.y

def AssociationPrediction.valid (prediction : AssociationPrediction α) : Bool :=
  prediction.position.isFinite && prediction.positionVariance.isFinite &&
    decide (0 ≤ prediction.positionVariance.x) && decide (0 ≤ prediction.positionVariance.y)

/-- Invalid arguments are refused with a message. -/
def assignGatedObservations (predictions : List (AssociationPrediction α))
    (observations : List (Point2d α))
    (measurementNoiseVariance associationDistanceM associationNisGate : α)
    (strategy : AssociationStrategy) (metric : AssociationMetric) :
    Except String (Option ObservationAssignment) :=
  if !Extended.isFinite associationDistanceM || decide (associationDistanceM ≤ 0) then
    .error "association distance must be finite and positive"
  else if !Extended.isFinite measurementNoiseVariance ||
      decide (measurementNoiseVariance < 0) then
    .error "measurement noise variance must be finite and non-negative"
  else if !Extended.isFinite associationNisGate || decide (associationNisGate ≤ 0) then
    .error "association NIS gate must be finite and positive"
  else if !predictions.all AssociationPrediction.valid || !observations.all Point2d.isFinite then
    .error "association positions and variances must be finite and valid"
  else
    let costs := buildCosts predictions observations measurementNoiseVariance
      (associationDistanceM * associationDistanceM) associationNisGate metric
    match strategy with
    | .globalNearest => .ok costs.globalAssignment
    | .greedyNearest => .ok (some costs.greedyAssignment)

end EmbodiedAgent.Navigation
