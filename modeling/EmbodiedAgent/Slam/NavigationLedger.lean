import EmbodiedAgent.Library.Binary64

namespace EmbodiedAgent.Slam

open Library

inductive NavigationGoalStatus
  | unspecified | planned | requested | accepted | executing | succeeded | rejected | aborted
  | canceled | timedOut
  deriving DecidableEq

def NavigationGoalStatus.terminal : NavigationGoalStatus → Bool
  | .succeeded | .rejected | .aborted | .canceled | .timedOut => true
  | _ => false

structure NavigationGoalEvidence where
  sequence : ℕ
  goalXy : Double × Double
  status : NavigationGoalStatus := .planned
  startedAtNs : ℕ := 0
  finishedAtNs : ℕ := 0
  nav2Status : ℤ := 0
  nav2ErrorCode : ℤ := 0
  planCount : ℕ := 0
  maxUnknownCellCount : ℕ := 0
  maxOccupiedCellCount : ℕ := 0
  maxOutsideMapCellCount : ℕ := 0
  detail : String := ""

def NavigationGoalEvidence.allPlansKnownFree (e : NavigationGoalEvidence) : Bool :=
  0 < e.planCount ∧ e.maxUnknownCellCount = 0 ∧ e.maxOccupiedCellCount = 0 ∧
    e.maxOutsideMapCellCount = 0

inductive LedgerError
  | timestampNegative | unknownSequence (sequence : ℕ) | alreadyTerminal (sequence : ℕ)

def LedgerError.message : LedgerError → String
  | .timestampNegative => "navigation evidence timestamp must be non-negative"
  | .unknownSequence sequence => s!"unknown navigation goal sequence: {sequence}"
  | .alreadyTerminal sequence => s!"navigation goal {sequence} is already terminal"

/-- The goals of a mission, one record each. The first has the sequence number one. -/
structure NavigationGoalLedger where
  records : List NavigationGoalEvidence := []

namespace NavigationGoalLedger

variable (ledger : NavigationGoalLedger)

def get (sequence : ℕ) : Except LedgerError NavigationGoalEvidence :=
  if sequence = 0 then .error (.unknownSequence sequence)
  else
    match ledger.records[sequence - 1]? with
    | none => .error (.unknownSequence sequence)
    | some record => .ok record

def isTerminal (sequence : ℕ) : Except LedgerError Bool := do
  let record ← ledger.get sequence
  .ok record.status.terminal

def transition (sequence : ℕ) (status : NavigationGoalStatus) (timestampNs nav2Status
    nav2ErrorCode : ℤ) (detail : String) : Except LedgerError NavigationGoalLedger :=
  if timestampNs < 0 then .error .timestampNegative
  else do
    let current ← ledger.get sequence
    if current.status.terminal then .error (.alreadyTerminal sequence)
    else
      .ok ⟨ledger.records.set (sequence - 1) { current with
        status := status
        startedAtNs :=
          if status = .requested ∧ current.startedAtNs = 0 then timestampNs.toNat
          else current.startedAtNs
        finishedAtNs := if status.terminal then timestampNs.toNat else 0
        nav2Status := nav2Status
        nav2ErrorCode := nav2ErrorCode
        detail := detail }⟩

end NavigationGoalLedger

end EmbodiedAgent.Slam
