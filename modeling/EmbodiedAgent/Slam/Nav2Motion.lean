import EmbodiedAgent.Library.Program
import EmbodiedAgent.Slam.NavigationLedger

namespace EmbodiedAgent.Slam

open Library Library.Program

inductive ActionStatus
  | unknown | accepted | executing | canceling | succeeded | canceled | aborted
  deriving DecidableEq

namespace ActionStatus

def value : ActionStatus → ℤ
  | .unknown => 0
  | .accepted => 1
  | .executing => 2
  | .canceling => 3
  | .succeeded => 4
  | .canceled => 5
  | .aborted => 6

def ofInt (n : ℤ) : Option ActionStatus :=
  [.unknown, .accepted, .executing, .canceling, .succeeded, .canceled, .aborted].find?
    fun status : ActionStatus ↦ status.value = n

def terminal : ActionStatus → Bool
  | .succeeded | .canceled | .aborted => true
  | _ => false

end ActionStatus

inductive Nav2ActionKind
  | navigateToPose | backUp
  deriving DecidableEq

structure SampledNavigate where
  sequence : ℕ
  goalXy : Double × Double
  sequence_pos : 0 < sequence
  finite : goalXy.1.isFinite = true ∧ goalXy.2.isFinite = true

structure PlanarPose where
  x : Double
  y : Double
  yaw : Double
  frameId : String
  finite : ∀ v ∈ [x, y, yaw], v.isFinite = true

structure RecoveryBackup where
  distanceM : Double
  speedMps : Double
  timeAllowanceS : Double
  positive : ∀ v ∈ [distanceM, speedMps, timeAllowanceS], v.isFinite = true ∧ 0 < v

inductive MotionIntent
  | sampledNavigate (intent : SampledNavigate)
  | mappingReturn (goalPose : PlanarPose)
  | recoveryBackup (intent : RecoveryBackup)

inductive RuntimeGoal
  | navigate (frameId : String) (x y yaw : Double)
  | backup (distanceM speedMps timeAllowanceS : Double)

/-- The end of an action, as the adapter has read it. -/
structure ActionTerminal where
  status : ActionStatus
  errorCode : ℤ
  errorMessage : String := ""

inductive ResultPayload
  | none | invalid
  | terminal (status errorCode : Except String ℤ) (errorMessage : String)

def ResultPayload.read : ResultPayload → Except String ActionTerminal
  | .none => .error "Nav2 result future returned no terminal"
  | .invalid => .error "Nav2 result future returned invalid terminal payload"
  | .terminal (.error e) _ _ => .error ("Nav2 terminal status is unreadable: " ++ e)
  | .terminal (.ok n) code message =>
    match ActionStatus.ofInt n with
    | .none => .error s!"Nav2 terminal status is unreadable: {n} is not a valid ActionStatus"
    | some status =>
      if status.terminal = false then
        .error s!"Nav2 terminal has non-terminal status: {status.value}"
      else
        match code with
        | .error e => .error ("Nav2 terminal error code is unreadable: " ++ e)
        | .ok code => .ok ⟨status, code, message⟩

inductive Nav2ErrorKind
  | automaticMissionCancelled | nav2GoalRejected | nav2MotionFailed
  | nav2SafetyFailure (terminal : Option ActionTerminal)
  | nav2TransactionBusy | timeoutError | valueError | indexError
  | other (className : String)

/-- An `Exception`, of this module or of a port. -/
structure Nav2Error where
  kind : Nav2ErrorKind
  message : String
  notes : List String := []

namespace Nav2Error

variable (error : Nav2Error)

def addNote (note : String) : Nav2Error :=
  { error with notes := error.notes ++ [note] }

def isSafetyFailure : Bool :=
  match error.kind with
  | .nav2SafetyFailure _ => true
  | _ => false

def terminal : Option ActionTerminal :=
  match error.kind with
  | .nav2SafetyFailure terminal => terminal
  | _ => none

def ofLedger (error : LedgerError) : Nav2Error :=
  match error with
  | .unknownSequence _ => ⟨.indexError, error.message, []⟩
  | _ => ⟨.valueError, error.message, []⟩

end Nav2Error

/-- The calls of the runtime, of the two futures and of the goal handle. -/
inductive RuntimeCall
  | isCancelled
  | waitForServer (kind : Nav2ActionKind) (timeoutS : Double)
  | nav2GoalStarted (token : String)
  | sendGoal (goal : RuntimeGoal)
  | responseDone | responseResult | handleAccepted | getResultAsync | cancelGoalAsync
  | resultDone | resultResult
  | forcePriorityStop (timeoutS : Double)
  | nav2GoalTerminal (token : String)
  | stopNavigationStage
  | evidenceTimestampNs
  | navigationEvidenceChanged

def RuntimeCall.Reply : RuntimeCall → Type
  | .isCancelled | .waitForServer .. | .responseDone | .responseResult | .handleAccepted
  | .resultDone => Bool
  | .resultResult => ResultPayload
  | .evidenceTimestampNs => ℤ
  | _ => Unit

inductive Nav2Entry
  | call (call : RuntimeCall) (reply : Except Nav2Error call.Reply)
  | monotonic (now : Double)
  | sleep (seconds : Double)
  | ledger

/-- The world around the transaction; other threads may write to the ledger. -/
structure Nav2Environment where
  answer : List Nav2Entry → (call : RuntimeCall) → Except Nav2Error call.Reply
  clock : List Nav2Entry → Double
  record : List Nav2Entry → NavigationGoalLedger → NavigationGoalLedger
  showFloat : Double → String

structure Nav2Config where
  safetyTimeoutS : Double := .ofRat 10
  pollIntervalS : Double := .ofRat (5 / 100)
  latePlanDrainS : Double := .ofRat (3 / 10)
  positive : ∀ v ∈ [safetyTimeoutS, pollIntervalS], v.isFinite = true ∧ 0 < v := by decide +kernel
  drain_valid : latePlanDrainS.isFinite = true ∧ ¬ latePlanDrainS < 0 := by decide +kernel

structure Nav2World where
  locked : Bool := false
  tokenSequence : ℕ := 0
  ledger : NavigationGoalLedger := {}
  trace : List Nav2Entry := []

abbrev Nav2Motion := Program Nav2World Nav2Error

namespace Nav2MotionTransaction

def log (entry : Nav2Entry) : Nav2Motion Unit :=
  modify fun w ↦ { w with trace := w.trace ++ [entry] }

def fails {α : Type} (kind : Nav2ErrorKind) (message : String) : Nav2Motion α :=
  raise ⟨kind, message, []⟩

variable (env : Nav2Environment) (config : Nav2Config)

def call (c : RuntimeCall) : Nav2Motion c.Reply :=
  invoke (fun w : Nav2World ↦ env.answer w.trace c) id
    fun reply w ↦ { w with trace := w.trace ++ [.call c reply] }

def monotonic : Nav2Motion Double := do
  let w ← get
  log (.monotonic (env.clock w.trace))
  pure (env.clock w.trace)

def sleep (seconds : Double) : Nav2Motion Unit := log (.sleep seconds)

def accessLedger {α : Type}
    (f : NavigationGoalLedger → Except LedgerError (α × NavigationGoalLedger)) :
    Nav2Motion α := do
  let w ← get
  let ledger := env.record w.trace w.ledger
  modify fun w ↦ { w with ledger := ledger, trace := w.trace ++ [.ledger] }
  match f ledger with
  | .error error => raise (.ofLedger error)
  | .ok (a, ledger) => do
    modify fun w ↦ { w with ledger := ledger }
    pure a

def ledgerGet (sequence : ℕ) : Nav2Motion NavigationGoalEvidence :=
  accessLedger env fun ledger ↦ (ledger.get sequence).map (·, ledger)

def ledgerIsTerminal (sequence : ℕ) : Nav2Motion Bool :=
  accessLedger env fun ledger ↦ (ledger.isTerminal sequence).map (·, ledger)

def showGoal (intent : SampledNavigate) : String :=
  "(" ++ env.showFloat intent.goalXy.1 ++ ", " ++ env.showFloat intent.goalXy.2 ++ ")"

def goalForIntent : MotionIntent → Nav2ActionKind × RuntimeGoal × String
  | .sampledNavigate i =>
    (.navigateToPose, .navigate "map" i.goalXy.1 i.goalXy.2 0, s!"sampled-{i.sequence}")
  | .mappingReturn pose =>
    (.navigateToPose, .navigate pose.frameId pose.x pose.y pose.yaw, "mapping-return")
  | .recoveryBackup b =>
    (.backUp, .backup b.distanceM b.speedMps b.timeAllowanceS, "backup")

def serverUnavailableMessage : MotionIntent → String
  | .recoveryBackup _ => "Nav2 BackUp Action server unavailable"
  | .mappingReturn _ => "NavigateToPose Action server unavailable for return"
  | .sampledNavigate _ => "NavigateToPose Action server unavailable"

def responseReadReason : MotionIntent → String
  | .recoveryBackup _ => "cannot read Nav2 BackUp goal response"
  | .mappingReturn _ => "cannot read mapping return goal response"
  | .sampledNavigate i => "cannot read navigation goal response for " ++ showGoal env i

variable (intent : MotionIntent)

def pendingReason (canceled : Bool) : String :=
  match intent with
  | .recoveryBackup _ =>
    if canceled then "automatic mission canceled during recovery backup"
    else "Nav2 BackUp goal response timeout"
  | .mappingReturn _ =>
    if canceled then "automatic mission canceled before return goal response"
    else "mapping return goal response timeout"
  | .sampledNavigate i =>
    if canceled then "automatic mission canceled before goal response"
    else "navigation goal response timeout: " ++ showGoal env i

def activeCancelReason : MotionIntent → String
  | .recoveryBackup _ => "automatic mission canceled during recovery backup"
  | .mappingReturn _ => "automatic mission canceled during mapping return"
  | .sampledNavigate _ => "automatic mission canceled during navigation"

def activeTimeoutReason : MotionIntent → String
  | .recoveryBackup _ => "Nav2 BackUp result timeout"
  | .mappingReturn _ => "mapping return goal result timeout"
  | .sampledNavigate i => "navigation goal result timeout: " ++ showGoal env i

def rejectedMessage : MotionIntent → String
  | .recoveryBackup _ => "Nav2 BackUp goal rejected"
  | .mappingReturn _ => "mapping return goal rejected"
  | .sampledNavigate i => "navigation goal rejected: " ++ showGoal env i

def missingResultFutureReason (error : Nav2Error) : String :=
  match intent with
  | .recoveryBackup _ => "cannot get Nav2 BackUp result future: " ++ error.message
  | .mappingReturn _ => "cannot get mapping return result future: " ++ error.message
  | .sampledNavigate i =>
    "cannot get Nav2 result future for goal " ++ showGoal env i ++ ": " ++ error.message

def invalidTerminalReason (terminalError : String) : String :=
  match intent with
  | .recoveryBackup _ => "invalid Nav2 BackUp terminal result: " ++ terminalError
  | .mappingReturn _ => "invalid mapping return terminal: " ++ terminalError
  | .sampledNavigate _ => "invalid NavigateToPose terminal result: " ++ terminalError

def terminalSucceeded (terminal : ActionTerminal) : Bool :=
  terminal.status = .succeeded ∧ terminal.errorCode = 0

def newCleanupDeadline : Nav2Motion Double := do
  let now ← monotonic env
  pure (now.add config.safetyTimeoutS)

def remainingCleanupS (cleanupDeadline : Double) : Nav2Motion Double := do
  let now ← monotonic env
  pure (Double.max 0 (cleanupDeadline.sub now))

def transitionSampled (sequence : ℕ) (status : NavigationGoalStatus) (nav2Status nav2ErrorCode : ℤ)
    (detail : String) : Nav2Motion Unit := do
  let timestampNs ← call env .evidenceTimestampNs
  accessLedger env fun ledger ↦
    (ledger.transition sequence status timestampNs nav2Status nav2ErrorCode detail).map ((), ·)
  call env .navigationEvidenceChanged

def transitionSampledIfOpen (sequence : ℕ) (status : NavigationGoalStatus)
    (nav2Status nav2ErrorCode : ℤ) (detail : String) : Nav2Motion Unit := do
  let terminal ← ledgerIsTerminal env sequence
  if terminal then pure ()
  else transitionSampled env sequence status nav2Status nav2ErrorCode detail

def transitionSampledPreserving (primary : Nav2Error) (sequence : ℕ)
    (status : NavigationGoalStatus) (nav2Status nav2ErrorCode : ℤ) (detail : String) :
    Nav2Motion Nav2Error := do
  let written ← attempt
    (transitionSampledIfOpen env sequence status nav2Status nav2ErrorCode detail)
  match written with
  | .ok () => pure primary
  | .error error => pure (primary.addNote
      ("cannot publish sampled navigation failure evidence: " ++ error.message))

def recordFailure (primary : Nav2Error) (status : NavigationGoalStatus)
    (terminal : Option ActionTerminal) : Nav2Motion Nav2Error :=
  match intent, terminal with
  | .sampledNavigate i, some t =>
    transitionSampledPreserving env primary i.sequence status t.status.value t.errorCode
      primary.message
  | _, _ => pure primary

def failSafety {α : Type} (reason : String) (cleanupErrors : List String)
    (terminal : Option ActionTerminal) : Nav2Motion α := do
  let stopped ← attempt (call env .stopNavigationStage)
  let shutdownDetail :=
    match stopped with
    | .ok () => "navigation stage stopped by fail-safe"
    | .error error => "navigation stage stop failed: " ++ error.message
  fails (.nav2SafetyFailure terminal) (reason ++ "; navigation safety cleanup failed: " ++
    String.intercalate "; " (cleanupErrors ++ [shutdownDetail]))

def cleanupError {α : Type} (stage : String) : Except Nav2Error α → List String
  | .ok _ => []
  | .error error => [stage ++ ": " ++ error.message]

def finishQuiescence (token reason : String) (terminal : Option ActionTerminal) :
    Nav2Motion Unit := do
  let closed ← attempt (call env (.nav2GoalTerminal token))
  match closed with
  | .ok () => pure ()
  | .error error =>
    failSafety env reason
      ["Nav2 quiescence terminal update failed: " ++ error.message] terminal

def failUnknownGoalSafely {α : Type} (reason cleanupFailure : String) (cleanupDeadline : Double) :
    Nav2Motion α := do
  let timeoutS ← remainingCleanupS env cleanupDeadline
  let stopped ← attempt (call env (.forcePriorityStop timeoutS))
  failSafety env reason (cleanupFailure :: cleanupError "typed stop failed" stopped) none

def responseDone (reason : String) (cleanupDeadline : Option Double) : Nav2Motion Bool := do
  let done ← attempt (call env .responseDone)
  match done with
  | .ok done => pure done
  | .error error => do
    let deadline ← (match cleanupDeadline with
      | some deadline => pure deadline
      | none => newCleanupDeadline env config)
    failUnknownGoalSafely env reason
      ("Nav2 goal response readiness check failed: " ++ error.message) deadline

def resultDone : Nav2Motion Bool := do
  let done ← attempt (call env .resultDone)
  match done with
  | .ok done => pure done
  | .error _ => pure true

def readTerminal (hasFuture : Bool) : Nav2Motion (Except String ActionTerminal) :=
  if hasFuture = false then pure (.error "Nav2 result future unavailable")
  else do
    let done ← attempt (call env .resultDone)
    match done with
    | .error error => pure (.error ("Nav2 result readiness check failed: " ++ error.message))
    | .ok false => pure (.error "Nav2 goal did not reach terminal after cancel")
    | .ok true => do
      let payload ← attempt (call env .resultResult)
      match payload with
      | .error error => pure (.error ("Nav2 result read failed: " ++ error.message))
      | .ok payload => pure payload.read

def canceledResultRound (cleanupDeadline : Double) : Unit → Nav2Motion (Unit ⊕ Unit) := fun _ ↦ do
  let now ← monotonic env
  if now < cleanupDeadline then do
    let done ← attempt (call env .resultDone)
    match done with
    | .ok false => do
      let remaining ← remainingCleanupS env cleanupDeadline
      sleep (Double.min config.pollIntervalS remaining)
      pure (.inl ())
    | _ => pure (.inr ())
  else pure (.inr ())

def closeCanceled (token reason : String) (cleanupErrors : List String)
    (terminal : Except String ActionTerminal) : Nav2Motion ActionTerminal :=
  match terminal with
  | .error error => failSafety env reason (cleanupErrors ++ [error]) none
  | .ok terminal => do
    let closed ← attempt (call env (.nav2GoalTerminal token))
    let errors := cleanupErrors ++ cleanupError "Nav2 quiescence terminal update failed" closed
    if errors = [] then pure terminal else failSafety env reason errors (some terminal)

def cancelStopAndProveTerminal (fuel : ℕ) (hasFuture : Bool) (reason token : String)
    (cleanupDeadline : Double) : Nav2Motion ActionTerminal := do
  -- the stop does not wait for the cancel
  let canceled ← attempt (call env .cancelGoalAsync)
  let timeoutS ← remainingCleanupS env cleanupDeadline
  let stopped ← attempt (call env (.forcePriorityStop timeoutS))
  let _ ← (if hasFuture then iterate (canceledResultRound env config cleanupDeadline) fuel ()
    else pure ())
  let terminal ← readTerminal env hasFuture
  closeCanceled env token reason
    (cleanupError "cancel request failed" canceled ++ cleanupError "typed stop failed" stopped)
    terminal

def lateResponseRound (reason : String) (cleanupDeadline : Double) :
    Unit → Nav2Motion (Unit ⊕ Unit) := fun _ ↦ do
  let done ← responseDone env config reason (some cleanupDeadline)
  if done then pure (.inr ())
  else do
    let now ← monotonic env
    if now < cleanupDeadline then do
      let remaining ← remainingCleanupS env cleanupDeadline
      sleep (Double.min config.pollIntervalS remaining)
      pure (.inl ())
    else pure (.inr ())

def cancelLate (fuel : ℕ) (reason token : String) (cleanupDeadline : Double) :
    Nav2Motion (Option ActionTerminal) := do
  let future ← attempt (call env .getResultAsync)
  let terminal ← (match future with
    | .ok () => cancelStopAndProveTerminal env config fuel true reason token cleanupDeadline
    | .error error => cancelStopAndProveTerminal env config fuel false
        (reason ++ "; cannot get Nav2 result future: " ++ error.message) token cleanupDeadline)
  pure (some terminal)

def resolvePendingGoalSafely (fuel : ℕ) (reason token : String) (cleanupDeadline : Double) :
    Nav2Motion (Option ActionTerminal) := do
  iterate (lateResponseRound env config reason cleanupDeadline) fuel ()
  let done ← responseDone env config reason (some cleanupDeadline)
  if done = false then
    failUnknownGoalSafely env reason "Nav2 goal response did not arrive within safety budget"
      cleanupDeadline
  else do
    let handle ← attempt (call env .responseResult)
    match handle with
    | .error error =>
      failUnknownGoalSafely env reason
        ("Nav2 goal response failed: " ++ error.message) cleanupDeadline
    | .ok false => do
      finishQuiescence env token reason none
      pure none
    | .ok true => do
      let accepted ← attempt (call env .handleAccepted)
      match accepted with
      | .error error =>
        failUnknownGoalSafely env reason
          ("Nav2 goal acceptance is unreadable: " ++ error.message) cleanupDeadline
      | .ok false => do
        finishQuiescence env token reason none
        pure none
      | .ok true => cancelLate env config fuel reason token cleanupDeadline

def failPending {α : Type} (fuel : ℕ) (intent : MotionIntent) (token : String)
    (kind : Nav2ErrorKind) (status : NavigationGoalStatus) (reason : String) : Nav2Motion α := do
  let cleanupDeadline ← newCleanupDeadline env config
  let terminal ← resolvePendingGoalSafely env config fuel reason token cleanupDeadline
  let primary ← recordFailure env intent ⟨kind, reason, []⟩ status terminal
  raise primary

def failActive {α : Type} (fuel : ℕ) (intent : MotionIntent) (token : String)
    (kind : Nav2ErrorKind) (status : NavigationGoalStatus) (reason : String) : Nav2Motion α := do
  let cleanupDeadline ← newCleanupDeadline env config
  let terminal ← cancelStopAndProveTerminal env config fuel true reason token cleanupDeadline
  let primary ← recordFailure env intent ⟨kind, reason, []⟩ status (some terminal)
  raise primary

def failAcceptedSampledSafely {α : Type} (fuel : ℕ) (intent : SampledNavigate)
    (reason token : String) : Nav2Motion α :=
  failActive env config fuel (.sampledNavigate intent) token .nav2MotionFailed .aborted reason

def checkCancelled : Nav2Motion Unit := do
  let canceled : Bool ← call env .isCancelled
  if canceled then fails .automaticMissionCancelled (pendingReason env intent true) else pure ()

def prepare (kind : Nav2ActionKind) (deadlineMonotonic : Double) :
    Nav2Motion Unit := do
  let now ← monotonic env
  let remaining := Double.max 0 (deadlineMonotonic.sub now)
  checkCancelled env intent
  if remaining ≤ 0 then fails .timeoutError (pendingReason env intent false)
  else do
    let waitCapS : Double := if kind = .backUp then .ofRat 5 else .ofRat 10
    let available : Bool ← call env (.waitForServer kind (Double.min waitCapS remaining))
    if available = false then fails .timeoutError (serverUnavailableMessage intent)
    else do
      -- the wait has taken some of the time
      checkCancelled env intent
      let now ← monotonic env
      if deadlineMonotonic ≤ now then fails .timeoutError (pendingReason env intent false)
      else pure ()

def beginQuiescence (label : String) : Nav2Motion String := do
  modify fun w ↦ { w with tokenSequence := w.tokenSequence + 1 }
  let w ← get
  let token := label ++ ":" ++ toString w.tokenSequence
  call env (.nav2GoalStarted token)
  pure token

def sendGoal (goal : RuntimeGoal) : Nav2Motion Unit := do
  let sent ← attempt (call env (.sendGoal goal))
  match sent with
  | .ok () => pure ()
  | .error error => do
    let cleanupDeadline ← newCleanupDeadline env config
    failUnknownGoalSafely env (responseReadReason env intent)
      ("Nav2 goal dispatch failed: " ++ error.message) cleanupDeadline

def responseRound (fuel : ℕ) (intent : MotionIntent) (token : String)
    (deadlineMonotonic : Double) : Unit → Nav2Motion (Unit ⊕ Unit) := fun _ ↦ do
  let done ← responseDone env config (responseReadReason env intent) none
  if done then pure (.inr ())
  else do
    let canceled : Except Nav2Error Bool ← attempt (call env .isCancelled)
    match canceled with
    | .error error =>
      failPending env config fuel intent token .nav2MotionFailed .aborted
        ("cannot evaluate mission cancellation while waiting for Nav2 goal response: " ++
          error.message)
    | .ok canceled => do
      let now ← monotonic env
      if canceled then
        failPending env config fuel intent token .automaticMissionCancelled .canceled
          (pendingReason env intent true)
      else if deadlineMonotonic ≤ now then
        failPending env config fuel intent token .timeoutError .timedOut
          (pendingReason env intent false)
      else do
        sleep config.pollIntervalS
        pure (.inl ())

def rejectGoal {α : Type} (intent : MotionIntent) (token : String) : Nav2Motion α := do
  finishQuiescence env token (rejectedMessage env intent) none
  fails .nav2GoalRejected (rejectedMessage env intent)

def acceptGoal (token : String) : Nav2Motion Unit := do
  let handle ← attempt (call env .responseResult)
  match handle with
  | .error error => do
    let cleanupDeadline ← newCleanupDeadline env config
    failUnknownGoalSafely env (responseReadReason env intent)
      ("Nav2 goal response failed: " ++ error.message) cleanupDeadline
  | .ok false => rejectGoal env intent token
  | .ok true => do
    let accepted ← attempt (call env .handleAccepted)
    match accepted with
    | .error error => do
      let cleanupDeadline ← newCleanupDeadline env config
      failUnknownGoalSafely env (responseReadReason env intent)
        ("Nav2 goal acceptance is unreadable: " ++ error.message) cleanupDeadline
    | .ok false => rejectGoal env intent token
    | .ok true => pure ()

def getResultFuture (fuel : ℕ) (intent : MotionIntent) (token : String) : Nav2Motion Unit := do
  let future ← attempt (call env .getResultAsync)
  match future with
  | .ok () => pure ()
  | .error error => do
    let reason := missingResultFutureReason env intent error
    let cleanupDeadline ← newCleanupDeadline env config
    let _ ← cancelStopAndProveTerminal env config fuel false reason token cleanupDeadline
    fails .nav2MotionFailed reason

def recordAcceptance (fuel : ℕ) (intent : MotionIntent) (token : String) : Nav2Motion Unit :=
  match intent with
  | .sampledNavigate i => do
    let recorded ← attempt (do
      transitionSampled env i.sequence .accepted ActionStatus.accepted.value 0
        "NavigateToPose accepted"
      transitionSampled env i.sequence .executing ActionStatus.executing.value 0
        "NavigateToPose executing")
    match recorded with
    | .ok () => pure ()
    | .error error =>
      failAcceptedSampledSafely env config fuel i
        ("cannot record sampled navigation acceptance: " ++ error.message) token
  | _ => pure ()

def auditPlans (fuel : ℕ) (intent : MotionIntent) (token : String) : Nav2Motion Unit :=
  match intent with
  | .sampledNavigate i => do
    let record ← attempt (ledgerGet env i.sequence)
    match record with
    | .error error =>
      failAcceptedSampledSafely env config fuel i
        ("cannot audit sampled navigation ledger after acceptance: " ++ error.message) token
    | .ok record =>
      if 0 < record.planCount ∧ record.allPlansKnownFree = false then
        failActive env config fuel intent token .nav2MotionFailed .aborted
          s!"unsafe runtime navigation plan for goal {i.sequence}"
      else pure ()
  | _ => pure ()

def resultRound (fuel : ℕ) (intent : MotionIntent) (token : String)
    (deadlineMonotonic : Double) : Unit → Nav2Motion (Unit ⊕ Unit) := fun _ ↦ do
  let done ← resultDone env
  if done then pure (.inr ())
  else do
    let canceled : Except Nav2Error Bool ← attempt (call env .isCancelled)
    match canceled with
    | .error error =>
      failActive env config fuel intent token .nav2MotionFailed .aborted
        ("cannot evaluate mission cancellation during Nav2 motion: " ++ error.message)
    | .ok true =>
      failActive env config fuel intent token .automaticMissionCancelled .canceled
        (activeCancelReason intent)
    | .ok false => do
      auditPlans env config fuel intent token
      let now ← monotonic env
      if deadlineMonotonic ≤ now then
        failActive env config fuel intent token .timeoutError .timedOut
          (activeTimeoutReason env intent)
      else do
        sleep config.pollIntervalS
        pure (.inl ())

def auditFinalPlans (fuel : ℕ) (intent : MotionIntent) (token : String)
    (deadlineMonotonic : Double) : Nav2Motion Unit :=
  match intent with
  | .sampledNavigate i => do
    let now ← monotonic env
    let drainS := Double.min config.latePlanDrainS (Double.max 0 (deadlineMonotonic.sub now))
    let _ ← (if 0 < drainS then sleep drainS else pure ())
    let record ← attempt (ledgerGet env i.sequence)
    match record with
    | .error error =>
      failAcceptedSampledSafely env config fuel i
        ("cannot audit sampled navigation ledger after terminal: " ++ error.message) token
    | .ok record =>
      if record.planCount = 0 ∨ record.allPlansKnownFree = false then
        failActive env config fuel intent token .nav2MotionFailed .aborted
          s!"unsafe or missing runtime plan for goal {i.sequence}"
      else pure ()
  | _ => pure ()

def finishMotion (fuel : ℕ) (intent : MotionIntent) (token : String)
    (deadlineMonotonic : Double) : Nav2Motion ActionTerminal := do
  let terminal ← readTerminal env true
  match terminal with
  | .error error =>
    failActive env config fuel intent token .nav2MotionFailed .aborted
      (invalidTerminalReason intent error)
  | .ok terminal => do
    auditFinalPlans env config fuel intent token deadlineMonotonic
    finishQuiescence env token ("cannot close Nav2 transaction " ++ token) (some terminal)
    pure terminal

def runGoal (fuel : ℕ) (intent : MotionIntent) (goal : RuntimeGoal) (token : String)
    (deadlineMonotonic : Double) : Nav2Motion ActionTerminal := do
  sendGoal env config intent goal
  iterate (responseRound env config fuel intent token deadlineMonotonic) fuel ()
  acceptGoal env config intent token
  getResultFuture env config fuel intent token
  recordAcceptance env config fuel intent token
  iterate (resultRound env config fuel intent token deadlineMonotonic) fuel ()
  finishMotion env config fuel intent token deadlineMonotonic

def executeMotion (fuel : ℕ) (intent : MotionIntent) (deadlineMonotonic : Double) :
    Nav2Motion ActionTerminal := do
  let (kind, goal, tokenLabel) := goalForIntent intent
  prepare env intent kind deadlineMonotonic
  let token ← beginQuiescence env tokenLabel
  runGoal env config fuel intent goal token deadlineMonotonic

def concludeSampled (i : SampledNavigate) (terminal : ActionTerminal) : Nav2Motion Unit :=
  if terminalSucceeded terminal then
    transitionSampled env i.sequence .succeeded terminal.status.value terminal.errorCode
      "NavigateToPose succeeded"
  else do
    let primary ← transitionSampledPreserving env
      ⟨.nav2MotionFailed, "navigation goal failed: goal=" ++ showGoal env i ++
        s!" status={terminal.status.value} error={terminal.errorCode}", []⟩ i.sequence
      (if terminal.status = .canceled then .canceled else .aborted)
      terminal.status.value terminal.errorCode
      s!"NavigateToPose failed status={terminal.status.value} error={terminal.errorCode}"
    raise primary

def recordException (i : SampledNavigate) (error : Nav2Error) : Nav2Motion Unit := do
  let error ← (match error.kind with
    | .automaticMissionCancelled => transitionSampledPreserving env error i.sequence .canceled 0 0
        "mission canceled during navigation"
    | .nav2GoalRejected =>
      transitionSampledPreserving env error i.sequence .rejected 0 0 error.message
    | .timeoutError =>
      transitionSampledPreserving env error i.sequence .timedOut 0 0 error.message
    | _ => transitionSampledPreserving env error i.sequence .aborted
        (error.terminal.elim ActionStatus.unknown.value (·.status.value))
        (error.terminal.elim 0 (·.errorCode)) error.message)
  raise error

def executeSampled (fuel : ℕ) (i : SampledNavigate) (deadlineMonotonic : Double) :
    Nav2Motion Unit := do
  let record ← ledgerGet env i.sequence
  if record.goalXy ≠ i.goalXy then
    fails .valueError "sampled navigation intent does not match planned ledger goal"
  else if record.status ≠ .requested then
    fails .valueError "sampled navigation goal must be REQUESTED before execution"
  else
    handle (do
      let terminal ← executeMotion env config fuel (.sampledNavigate i) deadlineMonotonic
      concludeSampled env i terminal) (recordException env i)

def requireSuccess (terminal : ActionTerminal) (label : String) : Nav2Motion Unit :=
  if terminalSucceeded terminal then pure ()
  else fails .nav2MotionFailed
    (label ++ s!" NavigateToPose failed: status={terminal.status.value} error={terminal.errorCode}")

def requireBackup (terminal : ActionTerminal) : Nav2Motion Unit :=
  if terminalSucceeded terminal then pure ()
  else do
    let reason := s!"Nav2 BackUp failed: status={terminal.status.value} " ++
      s!"error={terminal.errorCode} message=" ++
      (if terminal.errorMessage = "" then "unknown" else terminal.errorMessage)
    let stopped ← attempt (call env (.forcePriorityStop config.safetyTimeoutS))
    match stopped with
    | .error error =>
      failSafety env reason ["typed stop failed: " ++ error.message] (some terminal)
    | .ok () => fails .nav2MotionFailed reason

def executeIntent (fuel : ℕ) (intent : MotionIntent) (deadlineMonotonic : Double) :
    Nav2Motion Unit :=
  match intent with
  | .sampledNavigate i => executeSampled env config fuel i deadlineMonotonic
  | .mappingReturn _ => do
    let terminal ← executeMotion env config fuel intent deadlineMonotonic
    requireSuccess terminal "mapping return"
  | .recoveryBackup _ => do
    let terminal ← executeMotion env config fuel intent deadlineMonotonic
    requireBackup env config terminal

/-- Every loop has the same fuel. -/
def execute (fuel : ℕ) (intent : MotionIntent) (deadlineMonotonic : Double) : Nav2Motion Unit :=
  if deadlineMonotonic.isFinite = false then
    fails .valueError "Nav2 motion deadline must be finite"
  else do
    let w ← get
    if w.locked then fails .nav2TransactionBusy "another Nav2 motion transaction is active"
    else do
      modify fun w ↦ { w with locked := true }
      ensure (executeIntent env config fuel intent deadlineMonotonic)
        (modify fun w ↦ { w with locked := false })

end Nav2MotionTransaction

end EmbodiedAgent.Slam
