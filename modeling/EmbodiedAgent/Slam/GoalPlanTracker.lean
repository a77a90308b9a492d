import EmbodiedAgent.Library.Accumulation
import EmbodiedAgent.Library.Dictionary
import EmbodiedAgent.Library.History

namespace EmbodiedAgent.Slam.GoalPlans

open Library

structure Stamp where
  sec : ℤ
  nanosec : ℕ
  deriving DecidableEq

def rosTimestampS (stamp : Stamp) : Double :=
  (Double.ofRat stamp.sec).add ((Double.ofRat stamp.nanosec).div (.ofRat 1000000000))

/-- What a message of the session says of one sampled goal. -/
structure GoalEvidence where
  sequence : ℤ
  x : Double
  y : Double
  frameId : String
  status : ℕ
  startedAt : Option Stamp

structure SessionState where
  missionSequence : ℤ
  sampledNavigationGoals : List GoalEvidence

structure PathPose where
  frameId : String
  x : Double
  y : Double
  deriving DecidableEq

structure NavPath where
  frameId : String
  stamp : Stamp
  poses : List PathPose
  deriving DecidableEq

def statusRequested : ℕ := 2

def statusAccepted : ℕ := 3

def statusExecuting : ℕ := 4

def activeStatus (status : ℕ) : Bool :=
  status == statusRequested || status == statusAccepted || status == statusExecuting

def navigationPlanEndpoint (message : NavPath) : Option (Double × Double) :=
  if message.frameId ≠ "map" then none
  else
    match message.poses.getLast? with
    | none => none
    | some last =>
      if message.poses.any fun pose ↦ pose.frameId ≠ "" && pose.frameId ≠ "map" then none
      else some (last.x, last.y)

def sampledPlanEndpointToleranceM : Double := .ofRat (35 / 100)

def pendingSampledPlanLimit : ℕ := 16

def pendingSampledPlanTtlS : Double := .ofRat 4

def systemClockEpochFloorS : Double := .ofRat 1000000000

def timestampsShareClockDomain (leftS rightS : Double) : Bool :=
  if leftS ≤ 0 ∨ rightS ≤ 0 then false
  else decide (systemClockEpochFloorS ≤ leftS) == decide (systemClockEpochFloorS ≤ rightS)

/-- What is kept of a sampled goal. -/
structure Goal where
  sequence : ℤ
  x : Double
  y : Double
  frameId : String
  status : ℕ
  startedAt : Option Double
  missionSequence : ℤ

structure PendingSampledPlan where
  path : NavPath
  endpointX : Double
  endpointY : Double
  missionSequence : ℤ
  receivedAtS : Double
  pathStampS : Double

structure SampledGoalPlanTracker where
  missionSequence : ℤ := 0
  goals : List (ℤ × Goal) := []
  statusHistory : List (ℤ × List ℕ) := []
  plans : List (ℤ × List NavPath) := []
  navigationPlans : List NavPath := []
  activeSequence : Option ℤ := none
  evidenceError : String := ""
  pending : List PendingSampledPlan := []

structure Binding where
  sequence : ℤ
  pending : PendingSampledPlan
  now : Double

/-- Python's `d.setdefault(k, []).append(v)`. -/
def appendItem {α : Type} (d : List (ℤ × List α)) (k : ℤ) (v : α) : List (ℤ × List α) :=
  Dictionary.setItem d k ((d.lookup k).getD [] ++ [v])

def pushBounded {α : Type} (limit : ℕ) (l : List α) (v : α) : List α :=
  (l ++ [v]).drop ((l ++ [v]).length - limit)

def goalOf (missionSequence : ℤ) (message : GoalEvidence) : Goal where
  sequence := message.sequence
  x := message.x
  y := message.y
  frameId := message.frameId
  status := message.status
  startedAt := message.startedAt.map rosTimestampS
  missionSequence := missionSequence

namespace SampledGoalPlanTracker

variable (t : SampledGoalPlanTracker)

def resetMission (previousMission : ℤ) : SampledGoalPlanTracker :=
  { t with
    goals := []
    statusHistory := []
    plans := []
    activeSequence := none
    evidenceError := ""
    pending := if 0 < previousMission then [] else t.pending }

def prunePending (nowS : Double) (pending : List PendingSampledPlan) : List PendingSampledPlan :=
  pending.dropWhile fun p ↦ pendingSampledPlanTtlS < nowS.sub p.receivedAtS

def matchingActiveSequence (hypot : Double → Double → Double) (t : SampledGoalPlanTracker)
    (pending : PendingSampledPlan) : Option ℤ :=
  match t.activeSequence with
  | none => none
  | some sequence =>
    if t.missionSequence ≤ 0 then none
    else
      match t.goals.lookup sequence with
      | none => none
      | some goal =>
        let startedAt := goal.startedAt.getD 0
        if !activeStatus goal.status then none
        else if goal.missionSequence ≠ t.missionSequence then none
        else if pending.missionSequence ≠ 0 ∧ pending.missionSequence ≠ t.missionSequence then none
        else if goal.frameId ≠ "map" then none
        else if sampledPlanEndpointToleranceM <
            hypot (pending.endpointX.sub goal.x) (pending.endpointY.sub goal.y) then none
        else if 0 < startedAt ∧ 0 < pending.pathStampS ∧
            timestampsShareClockDomain startedAt pending.pathStampS = true ∧
            pending.pathStampS < startedAt then none
        else some sequence

structure Replay where
  plans : List (ℤ × List NavPath)
  retained : List PendingSampledPlan
  bound : List Binding

def replayOne (hypot : Double → Double → Double) (t : SampledGoalPlanTracker) (nowS : Double)
    (replay : Replay) (pending : PendingSampledPlan) : Replay :=
  match t.matchingActiveSequence hypot pending with
  | some sequence =>
    { replay with
      plans := appendItem replay.plans sequence pending.path
      bound := replay.bound ++ [⟨sequence, pending, nowS⟩] }
  | none =>
    if pending.missionSequence = 0 ∨ pending.missionSequence = t.missionSequence then
      { replay with
        retained := pushBounded pendingSampledPlanLimit replay.retained pending }
    else replay

def replayPending (hypot : Double → Double → Double) (t : SampledGoalPlanTracker)
    (nowS : Double) : SampledGoalPlanTracker × List Binding :=
  let replay := (prunePending nowS t.pending).foldl (t.replayOne hypot nowS) ⟨t.plans, [], []⟩
  ({ t with plans := replay.plans, pending := replay.retained }, replay.bound)

structure Noted where
  goals : List (ℤ × Goal)
  statusHistory : List (ℤ × List ℕ)
  active : List ℤ

def noteGoal (missionSequence : ℤ) (noted : Noted) (item : GoalEvidence) : Noted where
  goals := Dictionary.setItem noted.goals item.sequence (goalOf missionSequence item)
  statusHistory :=
    match noted.goals.lookup item.sequence with
    | none => appendItem noted.statusHistory item.sequence item.status
    | some previous =>
      if previous.status ≠ item.status then
        appendItem noted.statusHistory item.sequence item.status
      else noted.statusHistory
  active := if activeStatus item.status then noted.active ++ [item.sequence] else noted.active

def noteState (message : SessionState) : SampledGoalPlanTracker :=
  let incomingMission := message.missionSequence
  let t := if 0 < incomingMission ∧ incomingMission ≠ t.missionSequence then
    t.resetMission t.missionSequence else t
  let noted := message.sampledNavigationGoals.foldl (noteGoal incomingMission)
    ⟨t.goals, t.statusHistory, []⟩
  { t with
    missionSequence := incomingMission
    goals := noted.goals
    statusHistory := noted.statusHistory
    evidenceError := if 1 < noted.active.length then
      "multiple sampled navigation goals active concurrently" else t.evidenceError
    activeSequence := if noted.active.length = 1 then noted.active.head? else none }

def updateState (hypot : Double → Double → Double) (t : SampledGoalPlanTracker) (nowS : Double)
    (message : SessionState) : SampledGoalPlanTracker × List Binding :=
  (t.noteState message).replayPending hypot nowS

def pendingOf (nowS : Double) (message : NavPath)
    (endpoint : Double × Double) : PendingSampledPlan where
  path := message
  endpointX := endpoint.1
  endpointY := endpoint.2
  missionSequence := t.missionSequence
  receivedAtS := nowS
  pathStampS := rosTimestampS message.stamp

def observePlan (hypot : Double → Double → Double) (t : SampledGoalPlanTracker) (nowS : Double)
    (message : NavPath) : SampledGoalPlanTracker × List Binding :=
  match navigationPlanEndpoint message with
  | none => (t, [])
  | some endpoint =>
    let pending := t.pendingOf nowS message endpoint
    let t := { t with navigationPlans := t.navigationPlans ++ [message] }
    match t.matchingActiveSequence hypot pending with
    | some sequence =>
      ({ t with plans := appendItem t.plans sequence message }, [⟨sequence, pending, nowS⟩])
    | none =>
      ({ t with
        pending := pushBounded pendingSampledPlanLimit (prunePending nowS t.pending) pending }, [])

end SampledGoalPlanTracker

/-- A call, as it takes the lock: its clock was read before. -/
inductive Event
  | updateState (nowS : Double) (message : SessionState)
  | observePlan (nowS : Double) (message : NavPath)

def step (hypot : Double → Double → Double) (t : SampledGoalPlanTracker) :
    Event → SampledGoalPlanTracker × List Binding
  | .updateState nowS message => t.updateState hypot nowS message
  | .observePlan nowS message => t.observePlan hypot nowS message

end EmbodiedAgent.Slam.GoalPlans
