import EmbodiedAgent.Navigation.GatedObservationAssignment

namespace EmbodiedAgent.Navigation

open Library

inductive MotionModel
  | currentOnly | constantVelocity | kalman | imm

structure TrackerConfig (α : Type*) where
  associationDistanceM : α
  velocitySmoothing : α
  trackTimeoutS : α
  defaultRadiusM : α
  associationStrategy : AssociationStrategy
  associationMetric : AssociationMetric
  associationNisGate : α
  motionModel : MotionModel
  measurementNoiseVariance : α
  processNoiseVariance : α
  immStationaryProcessNoise : α
  immManeuverProcessNoise : α
  immStayProbability : α
  immStationaryVelocityDecay : α

structure MotionEstimate (α : Type*) where
  position : Point2d α
  velocity : Point2d α
  positionVariance : Point2d α

/-- Position and velocity along one axis, with their covariance. -/
structure AxisState (α : Type*) where
  position : α
  velocity : α
  p00 : α
  p01 : α
  p10 : α
  p11 : α

variable {α : Type*} [Zero α] [One α] [Add α] [Sub α] [Mul α] [Div α] [OfScientific α]
  [LT α] [DecidableLT α] [LE α] [DecidableLE α]

def TrackerConfig.default : TrackerConfig α :=
  { associationDistanceM := 0.8
    velocitySmoothing := 0.65
    trackTimeoutS := 1.0
    defaultRadiusM := 0.25
    associationStrategy := .globalNearest
    associationMetric := .euclidean
    associationNisGate := 9.210
    motionModel := .constantVelocity
    measurementNoiseVariance := 0.01
    processNoiseVariance := 0.2
    immStationaryProcessNoise := 0.01
    immManeuverProcessNoise := 1.0
    immStayProbability := 0.94
    immStationaryVelocityDecay := 0.2 }

def minimumDeltaS : α := 1e-4

def minimumLikelihood : α := 1e-12

namespace AxisState

variable (s : AxisState α)

def start (position variance : α) : AxisState α := ⟨position, 0, variance, 0, 0, 1⟩

def predict (deltaS processNoise velocityDecay : α) : AxisState α :=
  if deltaS ≤ 0 then s
  else
    let decay := clamp velocityDecay 0 1
    let q := stdMax 0 processNoise
    let dt2 := deltaS * deltaS
    let dt3 := dt2 * deltaS
    let dt4 := dt2 * dt2
    { position := s.position + s.velocity * deltaS
      velocity := s.velocity * decay
      p00 := s.p00 + deltaS * (s.p01 + s.p10) + dt2 * s.p11 + q * dt4 / 4.0
      p01 := decay * (s.p01 + deltaS * s.p11) + q * dt3 / 2.0
      p10 := decay * (s.p10 + deltaS * s.p11) + q * dt3 / 2.0
      p11 := decay * decay * s.p11 + q * dt2 }

def innovationVariance (measurementVariance : α) : α :=
  stdMax (s.p00 + stdMax measurementVariance minimumVariance) minimumVariance

def update (measurement measurementVariance : α) : AxisState α :=
  let innovation := measurement - s.position
  let gainPosition := s.p00 / s.innovationVariance measurementVariance
  let gainVelocity := s.p10 / s.innovationVariance measurementVariance
  { position := s.position + gainPosition * innovation
    velocity := s.velocity + gainVelocity * innovation
    p00 := stdMax ((1 - gainPosition) * s.p00) minimumVariance
    p01 := (1 - gainPosition) * s.p01
    p10 := (1 - gainPosition) * s.p01
    p11 := stdMax (s.p11 - gainVelocity * s.p01) minimumVariance }

def likelihood (density : α → α → α) (measurement measurementVariance : α) : α :=
  stdMax (density (measurement - s.position) (s.innovationVariance measurementVariance))
    minimumLikelihood

end AxisState

def mixAxis (sources : Fin 2 → AxisState α) (weights : Fin 2 → α) : AxisState α :=
  let position := weights 0 * (sources 0).position + weights 1 * (sources 1).position
  let velocity := weights 0 * (sources 0).velocity + weights 1 * (sources 1).velocity
  let positionDelta := fun index ↦ (sources index).position - position
  let velocityDelta := fun index ↦ (sources index).velocity - velocity
  let mixed := fun (part : Fin 2 → α) ↦ weights 0 * part 0 + weights 1 * part 1
  { position := position
    velocity := velocity
    p00 := mixed fun i ↦ (sources i).p00 + positionDelta i * positionDelta i
    p01 := mixed fun i ↦ (sources i).p01 + positionDelta i * velocityDelta i
    p10 := mixed fun i ↦ (sources i).p10 + velocityDelta i * positionDelta i
    p11 := mixed fun i ↦ (sources i).p11 + velocityDelta i * velocityDelta i }

structure CurrentOnlyEstimator (α : Type*) where
  position : Point2d α
  positionVariance : α

namespace CurrentOnlyEstimator

variable (e : CurrentOnlyEstimator α)

def predict : MotionEstimate α := ⟨e.position, ⟨0, 0⟩, ⟨e.positionVariance, e.positionVariance⟩⟩

def update (observation : Point2d α) : CurrentOnlyEstimator α × MotionEstimate α :=
  ({ e with position := observation }, { e with position := observation }.predict)

end CurrentOnlyEstimator

structure SmoothedConstantVelocityEstimator (α : Type*) where
  position : Point2d α
  velocity : Point2d α
  timestampS : α
  smoothing : α
  positionVariance : α

namespace SmoothedConstantVelocityEstimator

variable (e : SmoothedConstantVelocityEstimator α)

def update (observation : Point2d α) (timestampS : α) :
    SmoothedConstantVelocityEstimator α × MotionEstimate α :=
  let deltaS := timestampS - e.timestampS
  let velocity : Point2d α :=
    if minimumDeltaS < deltaS then
      ⟨e.smoothing * ((observation.x - e.position.x) / deltaS) + (1 - e.smoothing) * e.velocity.x,
        e.smoothing * ((observation.y - e.position.y) / deltaS) + (1 - e.smoothing) * e.velocity.y⟩
    else e.velocity
  ({ e with position := observation, velocity := velocity, timestampS := timestampS },
    ⟨observation, velocity, ⟨e.positionVariance, e.positionVariance⟩⟩)

def predict (timestampS : α) : MotionEstimate α :=
  let deltaS := stdMax 0 (timestampS - e.timestampS)
  ⟨⟨e.position.x + e.velocity.x * deltaS, e.position.y + e.velocity.y * deltaS⟩, e.velocity,
    ⟨e.positionVariance, e.positionVariance⟩⟩

end SmoothedConstantVelocityEstimator

structure KalmanEstimator (α : Type*) where
  x : AxisState α
  y : AxisState α
  timestampS : α
  measurementVariance : α
  processNoise : α

namespace KalmanEstimator

variable (e : KalmanEstimator α)

def estimate (x y : AxisState α) : MotionEstimate α :=
  ⟨⟨x.position, y.position⟩, ⟨x.velocity, y.velocity⟩, ⟨x.p00, y.p00⟩⟩

def update (observation : Point2d α) (timestampS : α) : KalmanEstimator α × MotionEstimate α :=
  let deltaS := stdMax 0 (timestampS - e.timestampS)
  let x := (e.x.predict deltaS e.processNoise 1).update observation.x e.measurementVariance
  let y := (e.y.predict deltaS e.processNoise 1).update observation.y e.measurementVariance
  ({ e with x := x, y := y, timestampS := stdMax e.timestampS timestampS }, estimate x y)

def predict (timestampS : α) : MotionEstimate α :=
  let deltaS := stdMax 0 (timestampS - e.timestampS)
  estimate (e.x.predict deltaS e.processNoise 1) (e.y.predict deltaS e.processNoise 1)

end KalmanEstimator

/-- Both axes of one of the two models. -/
structure ModelState (α : Type*) where
  x : AxisState α
  y : AxisState α

structure ImmEstimator (α : Type*) where
  models : Fin 2 → ModelState α
  probabilities : Fin 2 → α
  timestampS : α
  measurementVariance : α
  processNoise : Fin 2 → α
  stayProbability : α
  stationaryVelocityDecay : α

namespace ImmEstimator

variable (e : ImmEstimator α)

def transition (source target : Fin 2) : α :=
  if source = target then e.stayProbability else 1 - e.stayProbability

def priorProbability (target : Fin 2) : α :=
  e.probabilities 0 * e.transition 0 target + e.probabilities 1 * e.transition 1 target

def weights (target source : Fin 2) : α :=
  e.probabilities source * e.transition source target /
    stdMax (e.priorProbability target) minimumLikelihood

def mixedModels (target : Fin 2) : ModelState α :=
  ⟨mixAxis (fun source ↦ (e.models source).x) (e.weights target),
    mixAxis (fun source ↦ (e.models source).y) (e.weights target)⟩

def velocityDecay (model : Fin 2) : α := if model = 0 then e.stationaryVelocityDecay else 1

def predictModel (model : Fin 2) (state : ModelState α) (deltaS : α) : ModelState α :=
  ⟨state.x.predict deltaS (e.processNoise model) (e.velocityDecay model),
    state.y.predict deltaS (e.processNoise model) (e.velocityDecay model)⟩

def mixedEstimate (models : Fin 2 → ModelState α) (probabilities : Fin 2 → α) : MotionEstimate α :=
  let mixed := fun (part : Fin 2 → α) ↦ probabilities 0 * part 0 + probabilities 1 * part 1
  let positionX := mixed fun i ↦ (models i).x.position
  let positionY := mixed fun i ↦ (models i).y.position
  { position := ⟨positionX, positionY⟩
    velocity := ⟨mixed fun i ↦ (models i).x.velocity, mixed fun i ↦ (models i).y.velocity⟩
    positionVariance :=
      ⟨mixed fun i ↦ (models i).x.p00 +
          ((models i).x.position - positionX) * ((models i).x.position - positionX),
        mixed fun i ↦ (models i).y.p00 +
          ((models i).y.position - positionY) * ((models i).y.position - positionY)⟩ }

def normalized (posterior : Fin 2 → α) : Fin 2 → α :=
  let normalizer := posterior 0 + posterior 1
  if minimumLikelihood < normalizer then fun model ↦ posterior model / normalizer
  else fun _ ↦ 0.5

def update (density : α → α → α) (observation : Point2d α) (timestampS : α) :
    ImmEstimator α × MotionEstimate α :=
  let deltaS := stdMax 0 (timestampS - e.timestampS)
  let predicted := fun model ↦ e.predictModel model (e.mixedModels model) deltaS
  let models : Fin 2 → ModelState α := fun model ↦
    ⟨(predicted model).x.update observation.x e.measurementVariance,
      (predicted model).y.update observation.y e.measurementVariance⟩
  let posterior := fun model ↦ e.priorProbability model *
    (predicted model).x.likelihood density observation.x e.measurementVariance *
    (predicted model).y.likelihood density observation.y e.measurementVariance
  let probabilities := normalized posterior
  ({ e with
      models := models
      probabilities := probabilities
      timestampS := stdMax e.timestampS timestampS },
    mixedEstimate models probabilities)

def predict (timestampS : α) : MotionEstimate α :=
  let deltaS := stdMax 0 (timestampS - e.timestampS)
  mixedEstimate (fun model ↦ e.predictModel model (e.models model) deltaS) e.probabilities

end ImmEstimator

inductive MotionEstimator (α : Type*)
  | currentOnly (estimator : CurrentOnlyEstimator α)
  | constantVelocity (estimator : SmoothedConstantVelocityEstimator α)
  | kalman (estimator : KalmanEstimator α)
  | imm (estimator : ImmEstimator α)

namespace MotionEstimator

def update (density : α → α → α) (observation : Point2d α) (timestampS : α) :
    MotionEstimator α → MotionEstimator α × MotionEstimate α
  | .currentOnly e => (e.update observation).map .currentOnly id
  | .constantVelocity e => (e.update observation timestampS).map .constantVelocity id
  | .kalman e => (e.update observation timestampS).map .kalman id
  | .imm e => (e.update density observation timestampS).map .imm id

def predict (timestampS : α) : MotionEstimator α → MotionEstimate α
  | .currentOnly e => e.predict
  | .constantVelocity e => e.predict timestampS
  | .kalman e => e.predict timestampS
  | .imm e => e.predict timestampS

def make (observation : Point2d α) (timestampS : α) (config : TrackerConfig α) :
    MotionEstimator α :=
  let variance := stdMax config.measurementNoiseVariance minimumVariance
  match config.motionModel with
  | .currentOnly => .currentOnly ⟨observation, variance⟩
  | .constantVelocity =>
    .constantVelocity
      ⟨observation, ⟨0, 0⟩, timestampS, clamp config.velocitySmoothing 0 1, variance⟩
  | .kalman =>
    .kalman
      { x := .start observation.x variance
        y := .start observation.y variance
        timestampS := timestampS
        measurementVariance := config.measurementNoiseVariance
        processNoise := config.processNoiseVariance }
  | .imm =>
    .imm
      { models := fun _ ↦ ⟨.start observation.x variance, .start observation.y variance⟩
        probabilities := fun _ ↦ 0.5
        timestampS := timestampS
        measurementVariance := config.measurementNoiseVariance
        processNoise := fun model ↦
          if model = 0 then config.immStationaryProcessNoise else config.immManeuverProcessNoise
        stayProbability := clamp config.immStayProbability 0.5 0.999
        stationaryVelocityDecay := clamp config.immStationaryVelocityDecay 0 1 }

end MotionEstimator

end EmbodiedAgent.Navigation
