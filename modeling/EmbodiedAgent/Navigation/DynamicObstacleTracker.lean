import EmbodiedAgent.Library.History
import EmbodiedAgent.Navigation.MotionEstimators

namespace EmbodiedAgent.Navigation

open Library

structure TrackedObstacle (α : Type*) where
  id : String
  position : Point2d α
  velocity : Point2d α
  radius : α
  confidence : α
  lastSeenS : α
  observationCount : ℕ

structure InternalTrack (α : Type*) where
  output : TrackedObstacle α
  estimator : MotionEstimator α

structure DynamicObstacleTracker (α : Type*) where
  config : TrackerConfig α
  tracks : List (InternalTrack α) := []
  outputCache : List (TrackedObstacle α) := []
  nextTrackId : ℕ := 1

/-- How a call of `update` ends. -/
inductive UpdateOutcome
  | returned
  | invalidArgument (message : String)
  | diverged
  deriving DecidableEq

variable {α : Type*} [Zero α] [One α] [Add α] [Sub α] [Mul α] [Div α] [NatCast α] [OfScientific α]
  [LT α] [DecidableLT α] [LE α] [DecidableLE α] [Extended α]

namespace InternalTrack

variable (track : InternalTrack α) (config : TrackerConfig α) (timestampS : α)

def expired : Bool := decide (config.trackTimeoutS < timestampS - track.output.lastSeenS)

def prediction : AssociationPrediction α :=
  ⟨(track.estimator.predict timestampS).position,
    (track.estimator.predict timestampS).positionVariance⟩

def coast : InternalTrack α :=
  let predicted := track.estimator.predict timestampS
  let ageS := stdMax 0 (timestampS - track.output.lastSeenS)
  { track with
    output :=
      { track.output with
        position := predicted.position
        velocity := predicted.velocity
        confidence :=
          stdMax 0 (track.output.confidence * (1 - ageS / stdMax config.trackTimeoutS 1e-3)) } }

def observe (density : α → α → α) (observation : Point2d α) : InternalTrack α :=
  let (estimator, estimate) := track.estimator.update density observation timestampS
  { output :=
      { track.output with
        position := estimate.position
        velocity := estimate.velocity
        lastSeenS := timestampS
        observationCount := track.output.observationCount + 1
        confidence := stdMin 1 (0.45 + 0.12 * ((track.output.observationCount + 1 : ℕ) : α)) }
    estimator := estimator }

def follow (density : α → α → α) : Option (Point2d α) → InternalTrack α
  | none => track.coast config timestampS
  | some observation => track.observe timestampS density observation

def create (number : ℕ) (observation : Point2d α) : InternalTrack α :=
  { output :=
      { id := "track_" ++ toString number
        position := observation
        velocity := ⟨0, 0⟩
        radius := config.defaultRadiusM
        confidence := 0.5
        lastSeenS := timestampS
        observationCount := 1 }
    estimator := .make observation timestampS config }

end InternalTrack

namespace DynamicObstacleTracker

variable (tracker : DynamicObstacleTracker α) (density : α → α → α)
  (observations : List (Point2d α)) (timestampS : α)

def prune : DynamicObstacleTracker α :=
  { tracker with tracks := tracker.tracks.filter (!·.expired tracker.config timestampS) }

def assign : Except String (Option ObservationAssignment) :=
  assignGatedObservations (tracker.tracks.map (·.prediction timestampS)) observations
    tracker.config.measurementNoiseVariance tracker.config.associationDistanceM
    tracker.config.associationNisGate tracker.config.associationStrategy
    tracker.config.associationMetric

def followed (assignments : ObservationAssignment) : List (InternalTrack α) :=
  List.zipWith (fun track choice ↦ track.follow tracker.config timestampS density
    (choice.bind (observations[·]?))) tracker.tracks assignments

def unused (assignments : ObservationAssignment) : List ℕ :=
  (List.range observations.length).filter (some · ∉ assignments)

def created (indices : List ℕ) : List (InternalTrack α) :=
  (indices.filterMap (observations[·]?)).zipIdx.map fun (observation, k) ↦
    .create tracker.config timestampS (tracker.nextTrackId + k) observation

def update : DynamicObstacleTracker α × UpdateOutcome :=
  let tracker := tracker.prune timestampS
  match tracker.assign observations timestampS with
  | .error message => (tracker, .invalidArgument message)
  | .ok none => (tracker, .diverged)
  | .ok (some assignments) =>
    let fresh := tracker.created observations timestampS (unused observations assignments)
    let tracks := tracker.followed density observations timestampS assignments ++ fresh
    ({ tracker with
        tracks := tracks
        outputCache := tracks.map InternalTrack.output
        nextTrackId := tracker.nextTrackId + fresh.length },
      .returned)

def clear : DynamicObstacleTracker α :=
  { tracker with tracks := [], outputCache := [], nextTrackId := 1 }

end DynamicObstacleTracker

/-- A call of the tracker. -/
inductive TrackerCall (α : Type*)
  | update (observations : List (Point2d α)) (timestampS : α)
  | clear

namespace DynamicObstacleTracker

/-- A call that does not end leaves the tracker to nobody. -/
def step (density : α → α → α) (tracker : DynamicObstacleTracker α) :
    TrackerCall α → DynamicObstacleTracker α × UpdateOutcome
  | .update observations timestampS => tracker.update density observations timestampS
  | .clear => (tracker.clear, .returned)

def after (density : α → α → α) (config : TrackerConfig α) (h : List (TrackerCall α)) :
    DynamicObstacleTracker α :=
  History.run (step density) { config := config } h

end DynamicObstacleTracker

end EmbodiedAgent.Navigation
