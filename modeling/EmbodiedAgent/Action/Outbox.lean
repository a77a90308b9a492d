import EmbodiedAgent.Action.Command

namespace EmbodiedAgent

open Library

structure GuardedCommandDrain where
  ready : List RobotCommand := []
  expiredCommandIds : List String := []
  invalidatedCommandIds : List String := []
  supersededStopCommandIds : List String := []

/-- A command with its deadline's start and the generation it was admitted under. -/
structure OutboxEntry where
  command : RobotCommand
  enqueuedAtS : Double
  authorityGeneration : UInt64
  deriving DecidableEq

structure GuardedCommandOutbox where
  maxPending : ℕ
  maxPending_pos : 0 < maxPending
  pending : List OutboxEntry := []
  preemptedCommandIds : List String := []
  supersededStopCommandIds : List String := []
  deriving DecidableEq

namespace GuardedCommandOutbox

def create (maxPending : ℕ) : GuardedCommandOutbox :=
  { maxPending := max 1 maxPending, maxPending_pos := lt_max_of_lt_left one_pos }

def removeLoop (commandId : String) :
    List OutboxEntry → List String → List String → List String × List String
  | [], preempted, superseded => (preempted, superseded)
  | entry :: rest, preempted, superseded =>
    if entry.command.isPriorityStop then
      if entry.command.commandId ≠ commandId then
        removeLoop commandId rest preempted (superseded ++ [entry.command.commandId])
      else removeLoop commandId rest preempted superseded
    else removeLoop commandId rest (preempted ++ [entry.command.commandId]) superseded

variable (o : GuardedCommandOutbox)

def enqueue (command : RobotCommand) (nowS : Double)
    (authorityGeneration : UInt64) : GuardedCommandOutbox × Bool :=
  let entry : OutboxEntry := ⟨command, nowS, authorityGeneration⟩
  if command.isPriorityStop then
    let (preempted, superseded) := removeLoop command.commandId o.pending o.preemptedCommandIds
      o.supersededStopCommandIds
    ({ o with
        pending := [entry]
        preemptedCommandIds := preempted
        supersededStopCommandIds := superseded }, true)
  else if o.pending.length ≥ o.maxPending then (o, false)
  else ({ o with pending := o.pending ++ [entry] }, true)

def expires (nowS safeTtl : Double) (entry : OutboxEntry) : Bool :=
  safeTtl ≤ nowS.sub entry.enqueuedAtS

def invalidates (allowedAuthorityGeneration : Option UInt64) (entry : OutboxEntry) : Bool :=
  !entry.command.isPriorityStop && decide
    (allowedAuthorityGeneration ≠ some entry.authorityGeneration)

def drainLoop (nowS safeTtl : Double) (allowedAuthorityGeneration : Option UInt64) :
    List OutboxEntry → List OutboxEntry → GuardedCommandDrain →
      List OutboxEntry × GuardedCommandDrain
  | [], retained, output => (retained, output)
  | entry :: rest, retained, output =>
    if expires nowS safeTtl entry then
      drainLoop nowS safeTtl allowedAuthorityGeneration rest retained { output with
        expiredCommandIds := output.expiredCommandIds ++ [entry.command.commandId] }
    else if invalidates allowedAuthorityGeneration entry then
      drainLoop nowS safeTtl allowedAuthorityGeneration rest retained { output with
        invalidatedCommandIds := output.invalidatedCommandIds ++ [entry.command.commandId] }
    else drainLoop nowS safeTtl allowedAuthorityGeneration rest (retained ++ [entry]) output

def drain (downstreamReady : Bool) (nowS ttlS : Double)
    (allowedAuthorityGeneration : Option UInt64) : GuardedCommandOutbox × GuardedCommandDrain :=
  let (pending, output) := drainLoop nowS
    (Double.max 0 ttlS) allowedAuthorityGeneration o.pending []
    { invalidatedCommandIds := o.preemptedCommandIds
      supersededStopCommandIds := o.supersededStopCommandIds }
  let o := { o with preemptedCommandIds := [], supersededStopCommandIds := [] }
  if !downstreamReady then ({ o with pending := pending }, output)
  else
    ({ o with pending := [] }, { output with ready := pending.map OutboxEntry.command })

def clear : GuardedCommandOutbox :=
  { o with pending := [], preemptedCommandIds := [], supersededStopCommandIds := [] }

def keeps (nowS safeTtl : Double) (allowedAuthorityGeneration : Option UInt64)
    (entry : OutboxEntry) : Bool :=
  !expires nowS safeTtl entry && !invalidates allowedAuthorityGeneration entry

def drops (nowS safeTtl : Double) (allowedAuthorityGeneration : Option UInt64)
    (entry : OutboxEntry) : Bool :=
  !expires nowS safeTtl entry && invalidates allowedAuthorityGeneration entry

def ids (entries : List OutboxEntry) : List String := entries.map fun entry ↦
  entry.command.commandId

/-- The loop sorts the entries by two tests and keeps their order. -/
theorem drainLoop_eq (nowS safeTtl : Double) (allowed : Option UInt64)
    (pending retained : List OutboxEntry) (output : GuardedCommandDrain) :
    drainLoop nowS safeTtl allowed pending retained output =
      (retained ++ pending.filter (keeps nowS safeTtl allowed), { output with
        expiredCommandIds :=
          output.expiredCommandIds ++ ids (pending.filter (expires nowS safeTtl))
        invalidatedCommandIds :=
          output.invalidatedCommandIds ++ ids (pending.filter (drops nowS safeTtl allowed)) }) := by
  induction pending generalizing retained output with
  | nil => simp [drainLoop, ids]
  | cons entry rest ih =>
    rw [drainLoop]
    split_ifs with hexpires hinvalid
    · simp [ih, ids, keeps, drops, hexpires]
    · simp [ih, ids, keeps, drops, hexpires, hinvalid]
    · simp [ih, ids, keeps, drops, hexpires, hinvalid]

variable {o : GuardedCommandOutbox} {downstreamReady : Bool} {nowS ttlS : Double}
  {allowed : Option UInt64} {entry : OutboxEntry} {command : RobotCommand} {generation : UInt64}

theorem keeps_iff : keeps nowS ttlS allowed entry = true ↔
    ¬ ttlS ≤ nowS.sub entry.enqueuedAtS ∧
      (entry.command.isPriorityStop = false → allowed = some entry.authorityGeneration) := by
  cases hstop : entry.command.isPriorityStop <;> simp [keeps, expires, invalidates, hstop]

theorem drain_pending : (o.drain downstreamReady nowS ttlS allowed).1.pending =
    if downstreamReady then [] else o.pending.filter (keeps nowS (Double.max 0 ttlS) allowed) := by
  cases downstreamReady <;> simp [drain, drainLoop_eq]

theorem drain_ready : (o.drain downstreamReady nowS ttlS allowed).2.ready =
    if downstreamReady then
      (o.pending.filter (keeps nowS (Double.max 0 ttlS) allowed)).map OutboxEntry.command
    else [] := by
  cases downstreamReady <;> simp [drain, drainLoop_eq]

theorem mem_drain_pending (h : entry ∈ (o.drain downstreamReady nowS ttlS allowed).1.pending) :
    entry ∈ o.pending ∧ keeps nowS (Double.max 0 ttlS) allowed entry = true := by
  rw [drain_pending] at h
  split_ifs at h with hready
  · cases h
  · exact List.mem_filter.mp h

theorem mem_drain_ready (h : command ∈ (o.drain downstreamReady nowS ttlS allowed).2.ready) :
    ∃ entry ∈ o.pending, keeps nowS (Double.max 0 ttlS) allowed entry = true ∧
      entry.command = command := by
  rw [drain_ready] at h
  split_ifs at h with hready
  · obtain ⟨entry, hentry, rfl⟩ := List.mem_map.mp h
    obtain ⟨hpending, hkeeps⟩ := List.mem_filter.mp hentry
    exact ⟨entry, hpending, hkeeps, rfl⟩
  · cases h

theorem enqueue_refused (h : (o.enqueue command nowS generation).2 = false) :
    (o.enqueue command nowS generation).1 = o := by
  unfold enqueue at h ⊢
  split_ifs at h ⊢
  rfl

theorem mem_pending_enqueue (h : entry ∈ (o.enqueue command nowS generation).1.pending) :
    entry ∈ o.pending ∨ (entry = ⟨command, nowS, generation⟩ ∧
      (o.enqueue command nowS generation).2 = true) := by
  unfold enqueue at h ⊢
  split_ifs at h ⊢ with hstop hfull
  · exact .inr ⟨List.mem_singleton.mp h, rfl⟩
  · exact .inl h
  · rcases List.mem_append.mp h with hold | hnew
    · exact .inl hold
    · exact .inr ⟨List.mem_singleton.mp hnew, rfl⟩

end GuardedCommandOutbox

end EmbodiedAgent
