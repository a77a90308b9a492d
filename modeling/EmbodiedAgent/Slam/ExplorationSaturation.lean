import EmbodiedAgent.Library.Binary64

namespace EmbodiedAgent.Slam

open Library

/-- What the evidence tracker refuses. -/
inductive SaturationError
  | mappingPathInvalid | terminalTotalDecreased | pathTotalDecreased
  | epochIdNotPositive | epochActive | epochDuringProbe | epochIdsNotIncreasing | noEpochActive
  | epochNotFinished | probeOnlyOnce | probeNotStarted
  | peakDecreased | terminalDecreased | pathDecreased
  | probePeakDecreased | probeTerminalDecreased | probePathDecreased
  | runtimeCountersNegative | mapQuietInvalid
  deriving DecidableEq

def SaturationError.message : SaturationError → String
  | .mappingPathInvalid => "mapping path must be finite and non-negative"
  | .terminalTotalDecreased => "terminal goal total must be monotonic"
  | .pathTotalDecreased => "mapping path total must be monotonic"
  | .epochIdNotPositive => "epoch id must be positive"
  | .epochActive => "an exploration epoch is already active"
  | .epochDuringProbe => "cannot start an epoch during the final probe"
  | .epochIdsNotIncreasing => "epoch ids must increase"
  | .noEpochActive => "no exploration epoch is active"
  | .epochNotFinished => "finish the active epoch before the final probe"
  | .probeOnlyOnce => "the final probe may run only once"
  | .probeNotStarted => "the final probe has not started"
  | .peakDecreased => "peak known cells must not decrease across an epoch"
  | .terminalDecreased => "terminal goal count must not decrease across an epoch"
  | .pathDecreased => "mapping path must not decrease across an epoch"
  | .probePeakDecreased => "probe peak known cells must not decrease"
  | .probeTerminalDecreased => "probe terminal goal count must not decrease"
  | .probePathDecreased => "probe mapping path must not decrease"
  | .runtimeCountersNegative => "runtime saturation counters must be non-negative"
  | .mapQuietInvalid => "map quiet duration must be finite and non-negative"

/-- Totals of one sample. The counts are natural numbers: a negative one is refused before. -/
structure ExplorationCounters where
  peakKnownCells : ℕ
  terminalGoalCount : ℕ
  mappingPathM : Double
  path_valid : mappingPathM.isFinite = true ∧ ¬ mappingPathM < 0

namespace ExplorationCounters

def Below (c c' : ExplorationCounters) : Prop :=
  c.peakKnownCells ≤ c'.peakKnownCells ∧ c.terminalGoalCount ≤ c'.terminalGoalCount ∧
    ¬ c'.mappingPathM < c.mappingPathM

def mapGainCells (start finish : ExplorationCounters) : ℕ :=
  finish.peakKnownCells - start.peakKnownCells

def mapGainRatio (start finish : ExplorationCounters) : Double :=
  .ofRat (mapGainCells start finish / max 1 start.peakKnownCells)

end ExplorationCounters

structure ExplorationEpochEvidence where
  epochId : ℕ
  start : ExplorationCounters
  finish : ExplorationCounters
  id_pos : 0 < epochId
  below : start.Below finish

namespace ExplorationEpochEvidence

def create (epochId : ℕ) (start finish : ExplorationCounters) :
    Except SaturationError ExplorationEpochEvidence :=
  if hid : epochId = 0 then .error .epochIdNotPositive
  else if hpeak : finish.peakKnownCells < start.peakKnownCells then .error .peakDecreased
  else if hterminal : finish.terminalGoalCount < start.terminalGoalCount then
    .error .terminalDecreased
  else if hpath : finish.mappingPathM < start.mappingPathM then .error .pathDecreased
  else .ok ⟨epochId, start, finish, Nat.pos_of_ne_zero hid, not_lt.mp hpeak, not_lt.mp hterminal,
    hpath⟩

theorem create_ok {epochId : ℕ} {start finish : ExplorationCounters} (hid : 0 < epochId)
    (h : start.Below finish) :
    create epochId start finish = .ok ⟨epochId, start, finish, hid, h⟩ := by
  rw [create, dif_neg hid.ne', dif_neg (not_lt.mpr h.1), dif_neg (not_lt.mpr h.2.1), dif_neg h.2.2]

variable (e : ExplorationEpochEvidence)

def mapGainCells : ℕ := e.start.mapGainCells e.finish

def mapGainRatio : Double := e.start.mapGainRatio e.finish

def terminalGoals : ℕ := e.finish.terminalGoalCount - e.start.terminalGoalCount

def mapGainCellsPerTerminal : Double := .ofRat (e.mapGainCells / max 1 e.terminalGoals)

def mapGainRatioPerTerminal : Double :=
  e.mapGainRatio.div (.ofRat (max 1 e.terminalGoals : ℕ))

end ExplorationEpochEvidence

inductive SaturationTrigger
  | timeBudget | repeatedReachableStall
  deriving DecidableEq

def SaturationTrigger.value : SaturationTrigger → String
  | .timeBudget => "time_budget"
  | .repeatedReachableStall => "repeated_reachable_stall"

structure FinalProbeEvidence where
  trigger : SaturationTrigger
  start : ExplorationCounters
  finish : ExplorationCounters
  below : start.Below finish

def FinalProbeEvidence.create (trigger : SaturationTrigger) (start finish : ExplorationCounters) :
    Except SaturationError FinalProbeEvidence :=
  if hpeak : finish.peakKnownCells < start.peakKnownCells then .error .probePeakDecreased
  else if hterminal : finish.terminalGoalCount < start.terminalGoalCount then
    .error .probeTerminalDecreased
  else if hpath : finish.mappingPathM < start.mappingPathM then .error .probePathDecreased
  else .ok ⟨trigger, start, finish, not_lt.mp hpeak, not_lt.mp hterminal, hpath⟩

theorem FinalProbeEvidence.create_ok {start finish : ExplorationCounters}
    (trigger : SaturationTrigger) (h : start.Below finish) :
    create trigger start finish = .ok ⟨trigger, start, finish, h⟩ := by
  rw [create, dif_neg (not_lt.mpr h.1), dif_neg (not_lt.mpr h.2.1), dif_neg h.2.2]

structure SaturationHistory where
  counters : ExplorationCounters
  epochs : List ExplorationEpochEvidence
  finalProbe : Option FinalProbeEvidence

structure SaturationEvidenceTracker where
  counters : ExplorationCounters := ⟨0, 0, 0, Double.zero_valid⟩
  epochs : List ExplorationEpochEvidence := []
  activeEpoch : Option (ℕ × ExplorationCounters) := none
  probeStart : Option (SaturationTrigger × ExplorationCounters) := none
  finalProbe : Option FinalProbeEvidence := none

namespace SaturationEvidenceTracker

variable (tracker : SaturationEvidenceTracker)

def observe (currentKnownCells terminalGoalCount : ℕ) (mappingPathM : Double) :
    Except SaturationError SaturationEvidenceTracker :=
  if hpath : mappingPathM.isFinite = true ∧ ¬ mappingPathM < 0 then
    if terminalGoalCount < tracker.counters.terminalGoalCount then .error .terminalTotalDecreased
    else if mappingPathM < tracker.counters.mappingPathM then .error .pathTotalDecreased
    else .ok { tracker with
      counters := ⟨max tracker.counters.peakKnownCells currentKnownCells, terminalGoalCount,
        mappingPathM, hpath⟩ }
  else .error .mappingPathInvalid

variable {tracker} in
theorem observe_ok {cells terminals : ℕ} {path : Double} {tracker' : SaturationEvidenceTracker}
    (h : tracker.observe cells terminals path = .ok tracker') :
    ∃ c, tracker' = { tracker with counters := c } ∧ tracker.counters.Below c ∧
      c.terminalGoalCount = terminals ∧ c.mappingPathM = path := by
  unfold observe at h
  split_ifs at h with hvalid hterminals hpath
  cases h
  exact ⟨_, rfl, ⟨Nat.le_max_left _ _, not_lt.mp hterminals, hpath⟩, rfl, rfl⟩

def beginEpoch (epochId : ℕ) : Except SaturationError SaturationEvidenceTracker :=
  if epochId = 0 then .error .epochIdNotPositive
  else if tracker.activeEpoch.isSome then .error .epochActive
  else if tracker.probeStart.isSome then .error .epochDuringProbe
  else if tracker.epochs.getLast?.any (epochId ≤ ·.epochId) then .error .epochIdsNotIncreasing
  else .ok { tracker with activeEpoch := some (epochId, tracker.counters) }

def finishEpoch : Except SaturationError SaturationEvidenceTracker :=
  match tracker.activeEpoch with
  | none => .error .noEpochActive
  | some (epochId, start) => do
    let evidence ← ExplorationEpochEvidence.create epochId start tracker.counters
    .ok { tracker with epochs := tracker.epochs ++ [evidence], activeEpoch := none }

def beginFinalProbe (trigger : SaturationTrigger) :
    Except SaturationError SaturationEvidenceTracker :=
  if tracker.activeEpoch.isSome then .error .epochNotFinished
  else if tracker.probeStart.isSome ∨ tracker.finalProbe.isSome then .error .probeOnlyOnce
  else .ok { tracker with probeStart := some (trigger, tracker.counters) }

def finishFinalProbe : Except SaturationError SaturationEvidenceTracker :=
  match tracker.probeStart with
  | none => .error .probeNotStarted
  | some (trigger, start) => do
    let evidence ← FinalProbeEvidence.create trigger start tracker.counters
    .ok { tracker with finalProbe := some evidence, probeStart := none }

def snapshot : SaturationHistory := ⟨tracker.counters, tracker.epochs, tracker.finalProbe⟩

end SaturationEvidenceTracker

theorem default_durations : ∀ v ∈ [.ofRat 20, .ofRat (2 / 1000), .ofRat 10, .ofRat 5],
    Double.isFinite v = true ∧ 0 < v := by
  decide +kernel

theorem default_ratio : ¬ Double.ofRat 1 < .ofRat (2 / 1000) := by decide +kernel

structure SaturationPolicy where
  minimumLowYieldEpochs : ℕ := 2
  minimumTerminalGoalsPerEpoch : ℕ := 3
  minimumMappingPathM : Double := .ofRat 20
  maximumLowYieldGainCells : ℕ := 40
  maximumLowYieldGainRatio : Double := .ofRat (2 / 1000)
  requiredMapQuietS : Double := .ofRat 10
  maximumFinalStopAgeS : Double := .ofRat 5
  epochs_valid : 2 ≤ minimumLowYieldEpochs := by decide
  goals_valid : 3 ≤ minimumTerminalGoalsPerEpoch := by decide
  cells_valid : 0 < maximumLowYieldGainCells := by decide
  durations_valid : ∀ v ∈ [minimumMappingPathM, maximumLowYieldGainRatio, requiredMapQuietS,
    maximumFinalStopAgeS], v.isFinite = true ∧ 0 < v := by exact default_durations
  ratio_valid : ¬ .ofRat 1 < maximumLowYieldGainRatio := by exact default_ratio

structure SaturationRuntimeEvidence where
  history : SaturationHistory
  trigger : SaturationTrigger
  recoveryAttemptsRemaining : ℤ
  residualAvailableFrontiers : ℕ
  activeGoalCount : ℕ
  pendingGoalCount : ℕ
  mapQuietS : Double
  typedStopConfirmed : Bool
  typedStopAfterFinalProbe : Bool
  finalStopAgeS : Option Double

def SaturationRuntimeEvidence.validated (e : SaturationRuntimeEvidence) :
    Except SaturationError SaturationRuntimeEvidence :=
  if e.recoveryAttemptsRemaining < 0 then .error .runtimeCountersNegative
  else if ¬ (e.mapQuietS.isFinite ∧ ¬ e.mapQuietS < 0) then .error .mapQuietInvalid
  else .ok e

inductive SaturationDecision
  | continues | complete
  deriving DecidableEq

structure SaturationAssessment where
  decision : SaturationDecision
  unmetRequirements : List String

def notBelow (n : ℤ) : Double → Bool
  | .nan => false
  | .infinite negative => !negative
  | .finite q _ => decide ((n : ℚ) ≤ q)

namespace SaturationPolicy

variable (policy : SaturationPolicy)

def material (epoch : ExplorationEpochEvidence) : Bool :=
  notBelow policy.maximumLowYieldGainCells epoch.mapGainCellsPerTerminal ∧
    policy.maximumLowYieldGainRatio ≤ epoch.mapGainRatioPerTerminal

def consecutiveLowYieldEpochCount (history : SaturationHistory) : ℕ :=
  (history.epochs.reverse.takeWhile fun epoch ↦
    policy.minimumTerminalGoalsPerEpoch ≤ epoch.terminalGoals ∧ ¬ policy.material epoch).length

def epochsUnmet (history : SaturationHistory) : List String :=
  let recent := history.epochs.drop (history.epochs.length - policy.minimumLowYieldEpochs)
  if recent.length < policy.minimumLowYieldEpochs then ["insufficient_low_yield_epochs"]
  else
    (if recent.any (·.terminalGoals < policy.minimumTerminalGoalsPerEpoch) then
      ["insufficient_terminal_goals_per_epoch"] else []) ++
    if policy.consecutiveLowYieldEpochCount history < policy.minimumLowYieldEpochs then
      ["recent_epochs_still_material"] else []

def probeUnmet (evidence : SaturationRuntimeEvidence) : List String :=
  match evidence.history.finalProbe with
  | none => ["final_probe_missing"]
  | some probe =>
    (if probe.trigger ≠ evidence.trigger then ["final_probe_trigger_mismatch"] else []) ++
    if policy.maximumLowYieldGainCells ≤ probe.start.mapGainCells probe.finish ∨
        policy.maximumLowYieldGainRatio ≤ probe.start.mapGainRatio probe.finish then
      ["final_probe_still_material"] else []

def assessBoundedFrontierSaturation (evidence : SaturationRuntimeEvidence) : SaturationAssessment :=
  let stalled := evidence.trigger = .repeatedReachableStall
  let unmet :=
    (if stalled ∧ evidence.recoveryAttemptsRemaining ≠ 0 then
      ["stall_confirmation_budget_remaining"] else []) ++
    policy.epochsUnmet evidence.history ++
    (if evidence.history.counters.mappingPathM < policy.minimumMappingPathM then
      ["insufficient_mapping_path"] else []) ++
    (if stalled ∧ evidence.residualAvailableFrontiers ≠ 0 then
      ["reachable_frontiers_remain_after_stall"] else []) ++
    (if evidence.activeGoalCount ≠ 0 ∨ evidence.pendingGoalCount ≠ 0 then
      ["action_ledger_not_drained"] else []) ++
    policy.probeUnmet evidence ++
    (if evidence.mapQuietS < policy.requiredMapQuietS then ["map_not_quiet"] else []) ++
    (if !evidence.typedStopConfirmed then ["final_stop_missing"] else []) ++
    (if !evidence.typedStopAfterFinalProbe then ["final_stop_not_after_probe"] else []) ++
    if evidence.finalStopAgeS.all (policy.maximumFinalStopAgeS < ·) then
      ["final_stop_stale"] else []
  ⟨if unmet = [] then .complete else .continues, unmet⟩

end SaturationPolicy

end EmbodiedAgent.Slam
