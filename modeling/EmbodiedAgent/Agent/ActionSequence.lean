import EmbodiedAgent.Agent.CommandFallback

namespace EmbodiedAgent.Agent.ActionSequence

structure SequencePublishReport where
  published : ℕ
  completed : ℕ
  failed : Bool
  reason : String := ""

structure ActionResult where
  success : Bool
  status : ℤ := 0
  message : String

/-- What the condition of the publisher guards. -/
structure SequentialActionPublisher where
  resultsById : List (String × ActionResult) := []
  cancelGeneration : ℕ := 0
  cancelReason : String := "cancelled"
  requestSequence : ℕ := 0

/-- The local variables of a call of `publish`. -/
structure Batch where
  generation : ℕ
  commands : List ActionCommand
  waitForResults : Bool
  published : ℕ := 0
  completed : ℕ := 0

/-- Where a call of `publish` stands. -/
inductive PublishPc
  | starting (actions : List ActionCommand) (waitForResults : Bool)
  | checking (batch : Batch) (left : List ActionCommand)
  | sending (batch : Batch) (command : ActionCommand) (left : List ActionCommand)
  | awaiting (batch : Batch) (left : List ActionCommand)
  | failed (batch : Batch) (reason : String)
  | stopping (batch : Batch) (reason : String)
  | finished (report : SequencePublishReport)

namespace SequentialActionPublisher

variable (q : SequentialActionPublisher)

def notifyResult (commandId : String) (result : ActionResult) : SequentialActionPublisher :=
  if commandId = "" then q
  else { q with resultsById := (commandId, result) :: q.resultsById.filter (·.1 ≠ commandId) }

def cancel (reason : String) : SequentialActionPublisher :=
  { q with cancelGeneration := q.cancelGeneration + 1, cancelReason := reason }

/-- `_command_with_request_id` -/
def withRequestId (action : ActionCommand) : ActionCommand × SequentialActionPublisher :=
  if action.requestId ≠ "" then (action, q)
  else
    ({ action with requestId := "agent-action-" ++ toString (q.requestSequence + 1) },
      { q with requestSequence := q.requestSequence + 1 })

def withRequestIds : SequentialActionPublisher → List ActionCommand →
    List ActionCommand × SequentialActionPublisher
  | q, [] => ([], q)
  | q, action :: rest =>
    let (command, q) := q.withRequestId action
    let (commands, q) := q.withRequestIds rest
    (command :: commands, q)

def stopCommand : ActionCommand := { name := "stop", priority := true }

def cancelled (batch : Batch) : PublishPc :=
  .finished
    { published := batch.published
      completed := batch.completed
      failed := true
      reason := q.cancelReason }

def awaitStep (batch : Batch) (left : List ActionCommand) (expired : Bool) :
    PublishPc × SequentialActionPublisher :=
  match left with
  | [] => (.finished
      { published := batch.published, completed := batch.completed, failed := false },
      q)
  | command :: rest =>
    match q.resultsById.lookup command.requestId with
    | none =>
      if q.cancelGeneration ≠ batch.generation then (.failed batch q.cancelReason, q)
      else if expired then (.failed batch "action_result_timeout", q)
      else (.awaiting batch left, q)
    | some result =>
      if q.cancelGeneration ≠ batch.generation then (.failed batch q.cancelReason, q)
      else
        let q := { q with resultsById := q.resultsById.filter (·.1 ≠ command.requestId) }
        if result.success then
          (.awaiting { batch with completed := batch.completed + 1 } rest, q)
        else (.failed batch result.message, q)

def publishStep (pc : PublishPc) (expired : Bool) :
    PublishPc × SequentialActionPublisher × Option ActionCommand :=
  match pc with
  | .starting actions waitForResults =>
    if actions.isEmpty then (.finished { published := 0, completed := 0, failed := false }, q, none)
    else
      let (commands, q') := q.withRequestIds actions
      (.checking
        { generation := q.cancelGeneration, commands := commands, waitForResults := waitForResults }
        commands, q', none)
  | .checking batch [] =>
    if batch.waitForResults then (.awaiting batch batch.commands, q, none)
    else
      (.finished { published := batch.published, completed := batch.completed, failed := false }, q,
        none)
  | .checking batch (command :: left) =>
    if q.cancelGeneration ≠ batch.generation then (q.cancelled batch, q, none)
    else (.sending batch command left, q, none)
  | .sending batch command left =>
    (.checking { batch with published := batch.published + 1 } left, q, some command)
  | .awaiting batch left =>
    let (pc, q) := q.awaitStep batch left expired
    (pc, q, none)
  | .failed batch reason =>
    if reason = q.cancelReason then
      (.finished
        { published := batch.published
          completed := batch.completed
          failed := true
          reason := reason }, q, none)
    else (.stopping batch reason, q, none)
  | .stopping batch reason =>
    let (command, q) := q.withRequestId stopCommand
    (.finished
      { published := batch.published + 1
        completed := batch.completed
        failed := true
        reason := reason }, q, some command)
  | .finished report => (.finished report, q, none)

variable (q : SequentialActionPublisher)

theorem withRequestId_cancel (action : ActionCommand) :
    (q.withRequestId action).2.cancelGeneration = q.cancelGeneration ∧
      (q.withRequestId action).2.cancelReason = q.cancelReason := by
  unfold withRequestId
  split_ifs <;> exact ⟨rfl, rfl⟩

theorem withRequestIds_cancel (actions : List ActionCommand) :
    (q.withRequestIds actions).2.cancelGeneration = q.cancelGeneration ∧
      (q.withRequestIds actions).2.cancelReason = q.cancelReason := by
  induction actions generalizing q with
  | nil => exact ⟨rfl, rfl⟩
  | cons action actions ih =>
    obtain ⟨hgeneration, hreason⟩ := ih (q.withRequestId action).2
    obtain ⟨hgeneration', hreason'⟩ := withRequestId_cancel q action
    exact ⟨hgeneration.trans hgeneration', hreason.trans hreason'⟩

theorem awaitStep_cancel (batch : Batch) (left : List ActionCommand) (expired : Bool) :
    (q.awaitStep batch left expired).2.cancelGeneration = q.cancelGeneration ∧
      (q.awaitStep batch left expired).2.cancelReason = q.cancelReason := by
  cases left with
  | nil => exact ⟨rfl, rfl⟩
  | cons command left =>
    simp only [awaitStep]
    split
    · split_ifs <;> exact ⟨rfl, rfl⟩
    · split_ifs <;> exact ⟨rfl, rfl⟩

theorem publishStep_cancel (pc : PublishPc) (expired : Bool) :
    (q.publishStep pc expired).2.1.cancelGeneration = q.cancelGeneration ∧
      (q.publishStep pc expired).2.1.cancelReason = q.cancelReason := by
  cases pc with
  | starting actions waitForResults =>
    simp only [publishStep]
    split_ifs
    · exact ⟨rfl, rfl⟩
    · exact withRequestIds_cancel q actions
  | checking batch left =>
    cases left with
    | nil =>
      simp only [publishStep]
      split_ifs <;> exact ⟨rfl, rfl⟩
    | cons command left =>
      simp only [publishStep]
      split_ifs <;> exact ⟨rfl, rfl⟩
  | sending batch command left => exact ⟨rfl, rfl⟩
  | awaiting batch left => exact awaitStep_cancel q batch left expired
  | failed batch reason =>
    simp only [publishStep]
    split_ifs <;> exact ⟨rfl, rfl⟩
  | stopping batch reason => exact withRequestId_cancel q stopCommand
  | finished report => exact ⟨rfl, rfl⟩

end SequentialActionPublisher

end EmbodiedAgent.Agent.ActionSequence
