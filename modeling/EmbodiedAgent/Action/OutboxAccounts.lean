import EmbodiedAgent.Action.Outbox
import EmbodiedAgent.Library.History

namespace EmbodiedAgent

open Library Library.History
open scoped List

namespace GuardedCommandOutbox

inductive Operation
  | enqueue (command : RobotCommand) (nowS : Double) (authorityGeneration : UInt64)
  | drain (downstreamReady : Bool) (nowS ttlS : Double) (allowed : Option UInt64)

def step (o : GuardedCommandOutbox) : Operation → GuardedCommandOutbox × GuardedCommandDrain
  | .enqueue command nowS generation => ((o.enqueue command nowS generation).1, {})
  | .drain downstreamReady nowS ttlS allowed => o.drain downstreamReady nowS ttlS allowed

def after (maxPending : ℕ) (h : List Operation) : GuardedCommandOutbox :=
  run step (create maxPending) h

def reported {α : Type} (maxPending : ℕ) (field : GuardedCommandDrain → List α)
    (h : List Operation) : List α :=
  collect step (fun o e ↦ field (o.step e).2) (create maxPending) h

/-- The `k`-th operation is an enqueue that succeeds. -/
def Accepted (maxPending : ℕ) (h : List Operation) (k : ℕ) : Prop :=
  ∃ command nowS generation, h[k]? = some (.enqueue command nowS generation) ∧
    ((after maxPending (h.take k)).enqueue command nowS generation).2 = true

def commandAt (h : List Operation) (k : ℕ) : Option RobotCommand :=
  match h[k]? with
  | some (.enqueue command _ _) => some command
  | _ => none

def idAt (h : List Operation) (k : ℕ) : Option String := (commandAt h k).map RobotCommand.commandId

def stopAt (h : List Operation) (k : ℕ) : Option String :=
  ((commandAt h k).filter RobotCommand.isPriorityStop).map RobotCommand.commandId

/-- The outbox with its entries named by the operations that have put them in. -/
structure OutboxAccount where
  operations : ℕ := 0
  pending : List (ℕ × OutboxEntry) := []
  accepted : List ℕ := []
  ready : List ℕ := []
  expired : List ℕ := []
  invalidated : List ℕ := []
  superseded : List ℕ := []
  replaced : List ℕ := []

namespace OutboxAccount

variable (a : OutboxAccount)

def select (f : OutboxEntry → Bool) : List (ℕ × OutboxEntry) := a.pending.filter fun p ↦ f p.2

def labels (f : OutboxEntry → Bool) : List ℕ := (a.select f).map Prod.fst

def isStop (entry : OutboxEntry) : Bool := entry.command.isPriorityStop

def other (commandId : String) (entry : OutboxEntry) : Bool :=
  decide (entry.command.commandId ≠ commandId)

def step (maxPending : ℕ) : Operation → OutboxAccount
  | .enqueue command nowS generation =>
    if command.isPriorityStop then
      { a with
        operations := a.operations + 1
        accepted := a.accepted ++ [a.operations]
        pending := [(a.operations, ⟨command, nowS, generation⟩)]
        invalidated := a.invalidated ++ a.labels fun entry ↦ !isStop entry
        superseded := a.superseded ++ a.labels fun entry ↦
          !!isStop entry && other command.commandId entry
        replaced := a.replaced ++ a.labels fun entry ↦
          !!isStop entry && !other command.commandId entry }
    else if a.pending.length ≥ max 1 maxPending then { a with operations := a.operations + 1 }
    else { a with
      operations := a.operations + 1
      accepted := a.accepted ++ [a.operations]
      pending := a.pending ++ [(a.operations, ⟨command, nowS, generation⟩)] }
  | .drain downstreamReady nowS ttlS allowed =>
    let kept := keeps nowS (Double.max 0 ttlS) allowed
    { a with
      operations := a.operations + 1
      pending := if downstreamReady then [] else a.select kept
      ready := a.ready ++ if downstreamReady then a.labels kept else []
      expired := a.expired ++ a.labels (expires nowS (Double.max 0 ttlS))
      invalidated := a.invalidated ++ a.labels (drops nowS (Double.max 0 ttlS) allowed) }

end OutboxAccount

/-- The account of a history. -/
def account (maxPending : ℕ) (h : List Operation) : OutboxAccount :=
  h.foldl (OutboxAccount.step · maxPending) {}

/-- What the account says of the outbox. -/
structure Accounts (maxPending : ℕ) (h : List Operation) (a : OutboxAccount) : Prop where
  operations : a.operations = h.length
  accepted : ∀ k, k ∈ a.accepted ↔ Accepted maxPending h k
  pending : (after maxPending h).pending = a.pending.map Prod.snd
  entered : ∀ p ∈ a.pending,
    h[p.1]? = some (.enqueue p.2.command p.2.enqueuedAtS p.2.authorityGeneration)
  ready : (reported maxPending (·.ready) h).map some = a.ready.map (commandAt h)
  expired : (reported maxPending (·.expiredCommandIds) h).map some = a.expired.map (idAt h)
  invalidated : (reported maxPending (·.invalidatedCommandIds) h ++
    (after maxPending h).preemptedCommandIds).map some = a.invalidated.map (idAt h)
  superseded : (reported maxPending (·.supersededStopCommandIds) h ++
    (after maxPending h).supersededStopCommandIds).map some = a.superseded.map (idAt h)
  drained : ∀ downstreamReady nowS ttlS allowed,
    h.getLast? = some (.drain downstreamReady nowS ttlS allowed) →
      (after maxPending h).preemptedCommandIds = [] ∧
        (after maxPending h).supersededStopCommandIds = []
  once : ∀ k, (if k ∈ a.accepted then 1 else 0) = (a.pending.map Prod.fst).count k +
    a.ready.count k + a.expired.count k + a.invalidated.count k + a.superseded.count k +
    a.replaced.count k
  replaced : ∀ k ∈ a.replaced, ∃ j ∈ a.accepted, k < j ∧ (stopAt h k).isSome = true ∧
    stopAt h j = stopAt h k
  ordered : (a.ready ++ a.pending.map Prod.fst).Pairwise (· < ·)
  bounded : (after maxPending h).pending.length ≤ max 1 maxPending
  head : ∀ entry ∈ (after maxPending h).pending.tail, entry.command.isPriorityStop = false

section Removal

variable {α : Type}

theorem perm_three (l : List α) (f g : α → Bool) :
    l ~ l.filter f ++ (l.filter (fun x ↦ !f x && g x) ++ l.filter fun x ↦ !f x && !g x) := by
  have hfirst := (List.filter_append_perm f l).symm
  have hsecond := (List.filter_append_perm g (l.filter fun x ↦ !f x)).symm
  rw [List.filter_filter, List.filter_filter] at hsecond
  refine hfirst.trans (List.Perm.append_left _ (hsecond.trans ?_))
  simp only [Bool.and_comm]
  exact List.Perm.refl _

theorem removeLoop_eq (commandId : String) (pending : List OutboxEntry)
    (preempted superseded : List String) :
    removeLoop commandId pending preempted superseded =
      (preempted ++ ids (pending.filter fun entry ↦ !OutboxAccount.isStop entry),
        superseded ++ ids (pending.filter fun entry ↦ !!OutboxAccount.isStop entry &&
          OutboxAccount.other commandId entry)) := by
  induction pending generalizing preempted superseded with
  | nil => simp [removeLoop, ids]
  | cons entry rest ih =>
    rw [removeLoop]
    split_ifs with hstop hother
    · simp [ih, ids, OutboxAccount.isStop, OutboxAccount.other, hstop, hother]
    · simp [ih, ids, OutboxAccount.isStop, OutboxAccount.other, hstop, hother]
    · simp [ih, ids, OutboxAccount.isStop, OutboxAccount.other, hstop]

variable {o : GuardedCommandOutbox} {command : RobotCommand} {nowS ttlS : Double}
  {generation : UInt64} {downstreamReady : Bool} {allowed : Option UInt64}

theorem enqueue_stop (hstop : command.isPriorityStop = true) :
    o.enqueue command nowS generation = ({ o with
      pending := [⟨command, nowS, generation⟩]
      preemptedCommandIds := o.preemptedCommandIds ++
        ids (o.pending.filter fun entry ↦ !OutboxAccount.isStop entry)
      supersededStopCommandIds := o.supersededStopCommandIds ++
        ids (o.pending.filter fun entry ↦ !!OutboxAccount.isStop entry &&
          OutboxAccount.other command.commandId entry) }, true) := by
  rw [enqueue, if_pos hstop, removeLoop_eq]

theorem enqueue_full (hstop : ¬ command.isPriorityStop = true)
    (hfull : o.pending.length ≥ o.maxPending) :
    o.enqueue command nowS generation = (o, false) := by
  rw [enqueue, if_neg hstop, if_pos hfull]

theorem enqueue_room (hstop : ¬ command.isPriorityStop = true)
    (hroom : ¬ o.pending.length ≥ o.maxPending) : o.enqueue command nowS generation =
      ({ o with pending := o.pending ++ [⟨command, nowS, generation⟩] }, true) := by
  rw [enqueue, if_neg hstop, if_neg hroom]

theorem drain_eq : o.drain downstreamReady nowS ttlS allowed = ({ o with
      preemptedCommandIds := []
      supersededStopCommandIds := []
      pending := if downstreamReady then []
        else o.pending.filter (keeps nowS (Double.max 0 ttlS) allowed) }, {
      ready := if downstreamReady then
          (o.pending.filter (keeps nowS (Double.max 0 ttlS) allowed)).map OutboxEntry.command
        else []
      expiredCommandIds := ids (o.pending.filter (expires nowS (Double.max 0 ttlS)))
      invalidatedCommandIds := o.preemptedCommandIds ++
        ids (o.pending.filter (drops nowS (Double.max 0 ttlS) allowed))
      supersededStopCommandIds := o.supersededStopCommandIds }) := by
  cases downstreamReady <;> simp [drain, drainLoop_eq]

end Removal

variable {maxPending : ℕ} {h : List Operation} {op : Operation} {a : OutboxAccount} {k : ℕ}

theorem after_snoc : after maxPending (h ++ [op]) = ((after maxPending h).step op).1 :=
  run_snoc step _ h op

theorem reported_snoc {α : Type} (field : GuardedCommandDrain → List α) :
    reported maxPending field (h ++ [op]) =
      reported maxPending field h ++ field ((after maxPending h).step op).2 :=
  collect_snoc step _ _ h op

theorem account_snoc :
    account maxPending (h ++ [op]) = (account maxPending h).step maxPending op := by
  rw [account, List.foldl_append]
  rfl

theorem after_maxPending : (after maxPending h).maxPending = max 1 maxPending := by
  refine run_preserves step (I := fun o ↦ o.maxPending = max 1 maxPending) (fun o op ho ↦ ?_) rfl h
  cases op with
  | enqueue command nowS generation =>
    by_cases hstop : command.isPriorityStop = true
    · rw [step, enqueue_stop hstop]
      exact ho
    · by_cases hfull : o.pending.length ≥ o.maxPending
      · rw [step, enqueue_full hstop hfull]
        exact ho
      · rw [step, enqueue_room hstop hfull]
        exact ho
  | drain downstreamReady nowS ttlS allowed =>
    rw [step, drain_eq]
    exact ho

theorem getElem?_snoc_lt (hk : k < h.length) : (h ++ [op])[k]? = h[k]? :=
  List.getElem?_append_left hk

theorem commandAt_snoc (hk : k < h.length) : commandAt (h ++ [op]) k = commandAt h k := by
  rw [commandAt, getElem?_snoc_lt hk, commandAt]

theorem idAt_snoc (hk : k < h.length) : idAt (h ++ [op]) k = idAt h k := by
  rw [idAt, commandAt_snoc hk, idAt]

theorem stopAt_snoc (hk : k < h.length) : stopAt (h ++ [op]) k = stopAt h k := by
  rw [stopAt, commandAt_snoc hk, stopAt]

theorem accepted_lt (hk : Accepted maxPending h k) : k < h.length := by
  obtain ⟨command, nowS, generation, hget, -⟩ := hk
  exact (List.getElem?_eq_some_iff.mp hget).1

theorem accepted_snoc_old (hk : k < h.length) :
    Accepted maxPending (h ++ [op]) k ↔ Accepted maxPending h k := by
  unfold Accepted
  rw [getElem?_snoc_lt hk, List.take_append_of_le_length hk.le]

theorem accepted_snoc_new {command : RobotCommand} {nowS : Double} {generation : UInt64} :
    Accepted maxPending (h ++ [.enqueue command nowS generation]) h.length ↔
      ((after maxPending h).enqueue command nowS generation).2 = true := by
  unfold Accepted
  rw [List.getElem?_concat_length, List.take_append_length]
  constructor
  · rintro ⟨command', nowS', generation', heq, haccepted⟩
    cases heq
    exact haccepted
  · exact fun haccepted ↦ ⟨command, nowS, generation, rfl, haccepted⟩

theorem accepted_snoc (haccepted : ∀ k, k ∈ a.accepted ↔ Accepted maxPending h k) :
    ∀ k, Accepted maxPending (h ++ [op]) k ↔
      k ∈ a.accepted ∨ k = h.length ∧ Accepted maxPending (h ++ [op]) k := by
  intro k
  rcases lt_trichotomy k h.length with hlt | rfl | hgt
  · rw [accepted_snoc_old hlt, ← haccepted]
    exact ⟨.inl, fun hk ↦ hk.elim id fun hk ↦ absurd hk.1 hlt.ne⟩
  · exact ⟨fun hk ↦ .inr ⟨rfl, hk⟩, fun hk ↦ hk.elim
      (fun hk ↦ absurd (accepted_lt ((haccepted _).mp hk)) (lt_irrefl _)) And.right⟩
  · refine ⟨fun hk ↦ ?_, fun hk ↦ hk.elim (fun hk ↦ ?_) And.right⟩
    · have hlt := accepted_lt hk
      rw [List.length_append, List.length_singleton] at hlt
      omega
    · exact absurd (accepted_lt ((haccepted _).mp hk)) hgt.not_gt

namespace Accounts

variable (ha : Accounts maxPending h a)

include ha

theorem mem_of_counted (hk : 0 < (a.pending.map Prod.fst).count k + a.ready.count k +
    a.expired.count k + a.invalidated.count k + a.superseded.count k + a.replaced.count k) :
    k ∈ a.accepted := by
  have honce := ha.once k
  by_contra hnot
  rw [if_neg hnot] at honce
  omega

theorem lt_of_counted (hk : 0 < (a.pending.map Prod.fst).count k + a.ready.count k +
    a.expired.count k + a.invalidated.count k + a.superseded.count k + a.replaced.count k) :
    k < h.length :=
  accepted_lt ((ha.accepted k).mp (ha.mem_of_counted hk))

theorem pending_lt {p : ℕ × OutboxEntry} (hp : p ∈ a.pending) : p.1 < h.length :=
  (List.getElem?_eq_some_iff.mp (ha.entered p hp)).1

theorem commands_of_labels (f : OutboxEntry → Bool) : (a.labels f).map (commandAt h) =
    (((after maxPending h).pending.filter f).map OutboxEntry.command).map some := by
  rw [ha.pending, List.filter_map, OutboxAccount.labels, OutboxAccount.select, List.map_map,
    List.map_map, List.map_map]
  refine List.map_congr_left fun p hp ↦ ?_
  show commandAt h p.1 = some p.2.command
  rw [commandAt, ha.entered p (List.mem_filter.mp hp).1]

theorem ids_of_labels (f : OutboxEntry → Bool) : (a.labels f).map (idAt h) =
    (ids ((after maxPending h).pending.filter f)).map some := by
  have hcommands := congrArg (List.map (Option.map RobotCommand.commandId))
    (ha.commands_of_labels f)
  rw [List.map_map, List.map_map] at hcommands
  rw [ids, List.map_map]
  refine hcommands.trans ?_
  rw [List.map_map]
  rfl

omit ha in
theorem map_snoc {β : Type} {f g : ℕ → β} {l : List ℕ} (hl : ∀ k ∈ l, k < h.length)
    (hfg : ∀ k, k < h.length → f k = g k) : l.map f = l.map g :=
  List.map_congr_left fun k hk ↦ hfg k (hl k hk)

theorem ready_lt (hk : k ∈ a.ready) : k < h.length := ha.lt_of_counted (by
  have := List.count_pos_iff.mpr hk
  omega)

theorem expired_lt (hk : k ∈ a.expired) : k < h.length := ha.lt_of_counted (by
  have := List.count_pos_iff.mpr hk
  omega)

theorem invalidated_lt (hk : k ∈ a.invalidated) : k < h.length := ha.lt_of_counted (by
  have := List.count_pos_iff.mpr hk
  omega)

theorem superseded_lt (hk : k ∈ a.superseded) : k < h.length := ha.lt_of_counted (by
  have := List.count_pos_iff.mpr hk
  omega)

theorem replaced_lt (hk : k ∈ a.replaced) : k < h.length := ha.lt_of_counted (by
  have := List.count_pos_iff.mpr hk
  omega)

theorem labels_lt {f : OutboxEntry → Bool} (hk : k ∈ a.labels f) : k < h.length := by
  obtain ⟨p, hp, rfl⟩ := List.mem_map.mp hk
  exact ha.pending_lt (List.mem_filter.mp hp).1

omit ha in
theorem reports_snoc {α : Type} {f : GuardedCommandDrain → List α} {w w' n : List α} {l r : List ℕ}
    {name : List Operation → ℕ → Option α}
    (hold : (reported maxPending f h ++ w).map some = l.map (name h))
    (hl : ∀ k ∈ l, k < h.length) (hr : ∀ k ∈ r, k < h.length)
    (hname : ∀ k, k < h.length → name (h ++ [op]) k = name h k)
    (hnew : r.map (name h) = n.map some)
    (hmoved : f ((after maxPending h).step op).2 ++ w' = w ++ n) :
    (reported maxPending f (h ++ [op]) ++ w').map some = (l ++ r).map (name (h ++ [op])) := by
  rw [reported_snoc, List.append_assoc, hmoved, ← List.append_assoc, List.map_append, hold, ← hnew,
    List.map_append, map_snoc hl hname, map_snoc hr hname]

omit ha in
theorem reports_enqueue {α : Type} {f : GuardedCommandDrain → List α} {w : List α} {l : List ℕ}
    {name : List Operation → ℕ → Option α} {command : RobotCommand} {nowS : Double}
    {generation : UInt64} (hnone : f {} = [])
    (hold : (reported maxPending f h ++ w).map some = l.map (name h)) (hl : ∀ k ∈ l, k < h.length)
    (hname : ∀ k, k < h.length → name (h ++ [.enqueue command nowS generation]) k = name h k) :
    (reported maxPending f (h ++ [.enqueue command nowS generation]) ++ w).map some =
      l.map (name (h ++ [.enqueue command nowS generation])) := by
  rw [reported_snoc, step, hnone, List.append_nil, hold, map_snoc hl hname]

variable {command : RobotCommand}

theorem ready_enqueue {nowS : Double} {generation : UInt64} :
    (reported maxPending (·.ready) (h ++ [.enqueue command nowS generation])).map some =
      a.ready.map (commandAt (h ++ [.enqueue command nowS generation])) := by
  rw [← List.append_nil (reported _ _ _)]
  exact reports_enqueue rfl ((congrArg _ (List.append_nil _)).trans ha.ready) (fun k ↦ ha.ready_lt)
    fun k ↦ commandAt_snoc

theorem expired_enqueue {nowS : Double} {generation : UInt64} :
    (reported maxPending (·.expiredCommandIds) (h ++ [.enqueue command nowS generation])).map some =
      a.expired.map (idAt (h ++ [.enqueue command nowS generation])) := by
  rw [← List.append_nil (reported _ _ _)]
  exact reports_enqueue rfl ((congrArg _ (List.append_nil _)).trans ha.expired)
    (fun k ↦ ha.expired_lt) fun k ↦ idAt_snoc

omit ha in
theorem start : Accounts maxPending [] {} where
  operations := rfl
  accepted k := by
    refine ⟨fun hk ↦ absurd hk List.not_mem_nil, fun hk ↦ absurd (accepted_lt hk) ?_⟩
    exact Nat.not_lt_zero k
  pending := rfl
  entered p hp := absurd hp List.not_mem_nil
  ready := rfl
  expired := rfl
  invalidated := rfl
  superseded := rfl
  drained _ _ _ _ hlast := absurd hlast nofun
  once k := by simp
  replaced k hk := absurd hk List.not_mem_nil
  ordered := List.Pairwise.nil
  bounded := Nat.zero_le _
  head entry hentry := absurd hentry List.not_mem_nil

theorem full {nowS : Double} {generation : UInt64}
    (hstop : ¬ command.isPriorityStop = true)
    (hfull : (after maxPending h).pending.length ≥ (after maxPending h).maxPending) :
    Accounts maxPending (h ++ [.enqueue command nowS generation])
      { a with operations := a.operations + 1 } := by
  have hsame : after maxPending (h ++ [.enqueue command nowS generation]) = after maxPending h := by
    rw [after_snoc, step, enqueue_full hstop hfull]
  refine ⟨?_, fun k ↦ ?_, ?_, fun p hp ↦ ?_, ha.ready_enqueue, ha.expired_enqueue, ?_, ?_, ?_,
    ha.once, fun k hk ↦ ?_,
    ha.ordered, ?_, ?_⟩
  · rw [List.length_append, ha.operations]
    rfl
  · rw [accepted_snoc ha.accepted]
    refine ⟨.inl, fun hk ↦ hk.elim id ?_⟩
    rintro ⟨rfl, hnew⟩
    rw [accepted_snoc_new, enqueue_full hstop hfull] at hnew
    cases hnew
  · rw [hsame]
    exact ha.pending
  · rw [getElem?_snoc_lt (ha.pending_lt hp)]
    exact ha.entered p hp
  · rw [hsame]
    exact reports_enqueue rfl ha.invalidated (fun k ↦ ha.invalidated_lt) fun k ↦ idAt_snoc
  · rw [hsame]
    exact reports_enqueue rfl ha.superseded (fun k ↦ ha.superseded_lt) fun k ↦ idAt_snoc
  · intro downstreamReady nowS ttlS allowed hlast
    rw [List.getLast?_concat] at hlast
    cases hlast
  · obtain ⟨j, hj, hlt, hstops, hid⟩ := ha.replaced k hk
    have hj' : j < h.length := accepted_lt ((ha.accepted j).mp hj)
    refine ⟨j, hj, hlt, ?_⟩
    rw [stopAt_snoc hj', stopAt_snoc (ha.replaced_lt hk)]
    exact ⟨hstops, hid⟩
  · rw [hsame]
    exact ha.bounded
  · rw [hsame]
    exact ha.head

theorem fresh : a.operations ∉ a.accepted := fun hk ↦ by
  have hlt := accepted_lt ((ha.accepted _).mp hk)
  rw [ha.operations] at hlt
  exact lt_irrefl _ hlt

theorem accepted_new {nowS : Double} {generation : UInt64}
    (hnew : ((after maxPending h).enqueue command nowS generation).2 = true) :
    k ∈ a.accepted ++ [a.operations] ↔
      Accepted maxPending (h ++ [.enqueue command nowS generation]) k := by
  rw [accepted_snoc ha.accepted, List.mem_append, List.mem_singleton, ha.operations]
  refine or_congr_right ⟨?_, And.left⟩
  rintro rfl
  exact ⟨rfl, accepted_snoc_new.mpr hnew⟩

theorem once_new : (if k ∈ a.accepted ++ [a.operations] then 1 else 0) =
    (if k = a.operations then 1 else 0) + ((a.pending.map Prod.fst).count k +
      a.ready.count k + a.expired.count k + a.invalidated.count k + a.superseded.count k +
      a.replaced.count k) := by
  rw [← ha.once k]
  by_cases hk : k = a.operations
  · subst hk
    rw [if_pos (List.mem_append_right _ (List.mem_singleton_self _)), if_pos rfl,
      if_neg ha.fresh]
  · rw [if_neg hk, Nat.zero_add]
    refine if_congr ?_ rfl rfl
    rw [List.mem_append, List.mem_singleton]
    exact or_iff_left hk

theorem replaced_old {accepted : List ℕ} (hsub : ∀ j ∈ a.accepted, j ∈ accepted)
    (hk : k ∈ a.replaced) : ∃ j ∈ accepted, k < j ∧ (stopAt (h ++ [op]) k).isSome = true ∧
      stopAt (h ++ [op]) j = stopAt (h ++ [op]) k := by
  obtain ⟨j, hj, hlt, hstops, hid⟩ := ha.replaced k hk
  refine ⟨j, hsub j hj, hlt, ?_⟩
  rw [stopAt_snoc (accepted_lt ((ha.accepted j).mp hj)), stopAt_snoc (ha.replaced_lt hk)]
  exact ⟨hstops, hid⟩

omit ha in
theorem not_drained {nowS : Double} {generation : UInt64} {P : Prop}
    {downstreamReady : Bool} {nowS' ttlS : Double} {allowed : Option UInt64}
    (hlast : (h ++ [Operation.enqueue command nowS generation]).getLast? =
      some (.drain downstreamReady nowS' ttlS allowed)) : P := by
  rw [List.getLast?_concat] at hlast
  cases hlast

theorem stop {nowS : Double} {generation : UInt64}
    (hstop : command.isPriorityStop = true) :
    Accounts maxPending (h ++ [.enqueue command nowS generation])
      (a.step maxPending (.enqueue command nowS generation)) := by
  rw [OutboxAccount.step, if_pos hstop]
  have hafter : after maxPending (h ++ [.enqueue command nowS generation]) =
      ((after maxPending h).enqueue command nowS generation).1 := after_snoc
  rw [enqueue_stop hstop] at hafter
  refine ⟨?_, fun k ↦ ha.accepted_new ?_, ?_, ?_, ha.ready_enqueue, ha.expired_enqueue, ?_, ?_, ?_,
    fun k ↦ ?_,
    fun k hk ↦ ?_, ?_, ?_, ?_⟩
  · rw [List.length_append, ha.operations]
    rfl
  · rw [enqueue_stop hstop]
  · rw [hafter]
    rfl
  · intro p hp
    rw [List.mem_singleton.mp hp, ha.operations]
    exact List.getElem?_concat_length
  · rw [hafter]
    exact reports_snoc ha.invalidated (fun k ↦ ha.invalidated_lt) (fun k ↦ ha.labels_lt)
      (fun k ↦ idAt_snoc) (ha.ids_of_labels _) rfl
  · rw [hafter]
    exact reports_snoc ha.superseded (fun k ↦ ha.superseded_lt) (fun k ↦ ha.labels_lt)
      (fun k ↦ idAt_snoc) (ha.ids_of_labels _) rfl
  · exact fun _ _ _ _ ↦ not_drained
  · have hsplit := ((perm_three a.pending (fun p ↦ !OutboxAccount.isStop p.2)
      fun p ↦ OutboxAccount.other command.commandId p.2).map Prod.fst).count_eq k
    rw [List.map_append, List.map_append, List.count_append, List.count_append] at hsplit
    rw [ha.once_new, hsplit]
    simp only [List.map_cons, List.map_nil, List.count_singleton, List.count_append, beq_iff_eq,
      OutboxAccount.labels, OutboxAccount.select, eq_comm (a := k)]
    omega
  · rcases List.mem_append.mp hk with hold | hnew
    · exact ha.replaced_old (fun j ↦ List.mem_append_left _) hold
    · obtain ⟨p, hp, rfl⟩ := List.mem_map.mp hnew
      obtain ⟨hmem, hsame⟩ := List.mem_filter.mp hp
      have hlt := ha.pending_lt hmem
      obtain ⟨hold, hid⟩ := Bool.and_eq_true_iff.mp hsame
      have hids : p.2.command.commandId = command.commandId := by
        simpa [OutboxAccount.other] using hid
      have hstops : stopAt (h ++ [.enqueue command nowS generation]) p.1 =
          some command.commandId := by
        rw [stopAt_snoc hlt, stopAt, commandAt, ha.entered p hmem]
        have hpriority : p.2.command.isPriorityStop = true := by
          simpa [OutboxAccount.isStop] using hold
        simp [hpriority, hids]
      refine ⟨a.operations, List.mem_append_right _ (List.mem_singleton_self _), ?_, ?_, ?_⟩
      · rw [ha.operations]
        exact hlt
      · rw [hstops]
        rfl
      · rw [hstops, stopAt, commandAt, ha.operations, List.getElem?_concat_length]
        simp [hstop]
  · refine List.pairwise_append.mpr ⟨(List.pairwise_append.mp ha.ordered).1,
      List.pairwise_singleton _ _, fun k hk j hj ↦ ?_⟩
    rw [List.mem_singleton.mp hj, ha.operations]
    exact ha.ready_lt hk
  · rw [hafter]
    exact le_max_left 1 _
  · rw [hafter]
    exact fun entry hentry ↦ absurd hentry List.not_mem_nil

theorem room {nowS : Double} {generation : UInt64}
    (hstop : ¬ command.isPriorityStop = true)
    (hroom : ¬ (after maxPending h).pending.length ≥ (after maxPending h).maxPending) :
    Accounts maxPending (h ++ [.enqueue command nowS generation]) { a with
      operations := a.operations + 1
      accepted := a.accepted ++ [a.operations]
      pending := a.pending ++ [(a.operations, ⟨command, nowS, generation⟩)] } := by
  have hafter : after maxPending (h ++ [.enqueue command nowS generation]) =
      ((after maxPending h).enqueue command nowS generation).1 := after_snoc
  rw [enqueue_room hstop hroom] at hafter
  refine ⟨?_, fun k ↦ ha.accepted_new ?_, ?_, ?_, ha.ready_enqueue, ha.expired_enqueue, ?_, ?_, ?_,
    fun k ↦ ?_,
    fun k hk ↦ ha.replaced_old (fun j ↦ List.mem_append_left _) hk, ?_, ?_, ?_⟩
  · rw [List.length_append, ha.operations]
    rfl
  · rw [enqueue_room hstop hroom]
  · rw [hafter, List.map_append, ha.pending]
    rfl
  · intro p hp
    rcases List.mem_append.mp hp with hold | hnew
    · rw [getElem?_snoc_lt (ha.pending_lt hold)]
      exact ha.entered p hold
    · rw [List.mem_singleton.mp hnew, ha.operations]
      exact List.getElem?_concat_length
  · rw [hafter]
    exact reports_enqueue rfl ha.invalidated (fun k ↦ ha.invalidated_lt) fun k ↦ idAt_snoc
  · rw [hafter]
    exact reports_enqueue rfl ha.superseded (fun k ↦ ha.superseded_lt) fun k ↦ idAt_snoc
  · exact fun _ _ _ _ ↦ not_drained
  · rw [ha.once_new]
    simp only [List.map_append, List.map_cons, List.map_nil, List.count_append,
      List.count_singleton, beq_iff_eq, eq_comm (a := k)]
    omega
  · rw [List.map_append, ← List.append_assoc]
    refine List.pairwise_append.mpr ⟨ha.ordered, List.pairwise_singleton _ _, fun k hk j hj ↦ ?_⟩
    rw [List.map_singleton, List.mem_singleton] at hj
    rw [hj, ha.operations]
    rcases List.mem_append.mp hk with hready | hpending
    · exact ha.ready_lt hready
    · obtain ⟨p, hp, rfl⟩ := List.mem_map.mp hpending
      exact ha.pending_lt hp
  · rw [after_maxPending] at hroom
    rw [hafter, List.length_append, List.length_singleton]
    omega
  · rw [hafter]
    intro entry hentry
    cases hpending : (after maxPending h).pending with
    | nil =>
      rw [hpending] at hentry
      exact absurd hentry List.not_mem_nil
    | cons first rest =>
      have hhead := ha.head
      rw [hpending] at hentry hhead
      rcases List.mem_append.mp hentry with hold | hnew
      · exact hhead entry hold
      · rw [List.mem_singleton.mp hnew]
        exact eq_false_of_ne_true hstop

omit ha in
theorem mem_tail_filter {α : Type} {f : α → Bool} {l : List α} {x : α}
    (hx : x ∈ (l.filter f).tail) : x ∈ l.tail := by
  cases l with
  | nil => exact absurd hx List.not_mem_nil
  | cons y l =>
    rw [List.filter_cons] at hx
    split_ifs at hx
    · exact (List.mem_filter.mp hx).1
    · exact (List.mem_filter.mp (List.mem_of_mem_tail hx)).1

theorem ready_ordered {f : OutboxEntry → Bool} (b : Bool) :
    ((a.ready ++ if b then a.labels f else []) ++
      (if b then [] else a.select f).map Prod.fst).Pairwise (· < ·) := by
  have hsub : (a.ready ++ a.labels f).Pairwise (· < ·) := ha.ordered.sublist
    (List.Sublist.append_left (List.filter_sublist.map _) _)
  cases b with
  | true => simpa using hsub
  | false => simpa [OutboxAccount.labels] using hsub

theorem drain_once {nowS ttlS : Double} {allowed : Option UInt64} (b : Bool) :
    (if k ∈ a.accepted then 1 else 0) =
      ((if b then [] else a.select (keeps nowS ttlS allowed)).map Prod.fst).count k +
        (a.ready ++ if b then a.labels (keeps nowS ttlS allowed) else []).count k +
        (a.expired ++ a.labels (expires nowS ttlS)).count k +
        (a.invalidated ++ a.labels (drops nowS ttlS allowed)).count k + a.superseded.count k +
        a.replaced.count k := by
  have hsplit := ((perm_three a.pending (fun p ↦ expires nowS ttlS p.2)
    fun p ↦ invalidates allowed p.2).map Prod.fst).count_eq k
  rw [List.map_append, List.map_append, List.count_append, List.count_append] at hsplit
  have hmoved : (a.labels (keeps nowS ttlS allowed)).count k =
      ((if b then [] else a.select (keeps nowS ttlS allowed)).map Prod.fst).count k +
        (if b then a.labels (keeps nowS ttlS allowed) else []).count k := by
    cases b with
    | true => exact (Nat.zero_add _).symm
    | false => rfl
  have hall : (a.pending.map Prod.fst).count k = (a.labels (expires nowS ttlS)).count k +
      ((a.labels (drops nowS ttlS allowed)).count k +
        (a.labels (keeps nowS ttlS allowed)).count k) :=
    hsplit
  rw [ha.once k, List.count_append, List.count_append, List.count_append]
  omega

theorem drain {downstreamReady : Bool} {nowS ttlS : Double} {allowed : Option UInt64} :
    Accounts maxPending (h ++ [.drain downstreamReady nowS ttlS allowed])
      (a.step maxPending (.drain downstreamReady nowS ttlS allowed)) := by
  have hdrained : (after maxPending h).step (.drain downstreamReady nowS ttlS allowed) = _ :=
    drain_eq
  have hafter : after maxPending (h ++ [.drain downstreamReady nowS ttlS allowed]) =
      ((after maxPending h).step (.drain downstreamReady nowS ttlS allowed)).1 := after_snoc
  rw [hdrained] at hafter
  rw [OutboxAccount.step]
  refine ⟨?_, fun k ↦ ?_, ?_, fun p hp ↦ ?_, ?_, ?_, ?_, ?_, fun _ _ _ _ _ ↦ ?_,
    fun k ↦ ha.drain_once downstreamReady, fun k hk ↦ ha.replaced_old (fun _ ↦ id) hk,
    ha.ready_ordered downstreamReady, ?_, ?_⟩
  · rw [List.length_append, ha.operations]
    rfl
  · rw [accepted_snoc ha.accepted]
    refine ⟨.inl, fun hk ↦ hk.elim id ?_⟩
    rintro ⟨rfl, command, nowS', generation, hget, -⟩
    rw [List.getElem?_concat_length] at hget
    cases hget
  · rw [hafter]
    cases downstreamReady with
    | true => rfl
    | false =>
      rw [ha.pending, List.filter_map]
      rfl
  · cases downstreamReady with
    | true => exact absurd hp List.not_mem_nil
    | false =>
      have hmem := (List.mem_filter.mp hp).1
      rw [getElem?_snoc_lt (ha.pending_lt hmem)]
      exact ha.entered p hmem
  · rw [← List.append_nil (reported _ _ _)]
    refine reports_snoc ((congrArg _ (List.append_nil _)).trans ha.ready) (fun k ↦ ha.ready_lt)
      (fun k hk ↦ ?_) (fun k ↦ commandAt_snoc) ?_
      ((List.append_nil _).trans (List.nil_append _).symm)
    · cases downstreamReady with
      | true => exact ha.labels_lt hk
      | false => exact absurd hk List.not_mem_nil
    · rw [hdrained]
      cases downstreamReady with
      | true => exact ha.commands_of_labels _
      | false => rfl
  · rw [← List.append_nil (reported _ _ _)]
    refine reports_snoc ((congrArg _ (List.append_nil _)).trans ha.expired) (fun k ↦ ha.expired_lt)
      (fun k ↦ ha.labels_lt) (fun k ↦ idAt_snoc) (ha.ids_of_labels _) ?_
    rw [hdrained, List.append_nil, List.nil_append]
  · rw [hafter]
    refine reports_snoc ha.invalidated (fun k ↦ ha.invalidated_lt) (fun k ↦ ha.labels_lt)
      (fun k ↦ idAt_snoc) (ha.ids_of_labels _) ?_
    rw [hdrained, List.append_nil]
  · rw [hafter, ← List.append_nil a.superseded]
    refine reports_snoc ha.superseded (fun k ↦ ha.superseded_lt) (fun _ ↦ nofun)
      (fun k ↦ idAt_snoc) (List.map_nil.trans List.map_nil.symm) ?_
    rw [hdrained]
  · rw [hafter]
    exact ⟨rfl, rfl⟩
  · rw [hafter]
    cases downstreamReady with
    | true => exact Nat.zero_le _
    | false => exact (List.length_filter_le _ _).trans ha.bounded
  · rw [hafter]
    intro entry hentry
    cases downstreamReady with
    | true => exact absurd hentry List.not_mem_nil
    | false => exact ha.head entry (mem_tail_filter hentry)

end Accounts

/-- The account of any history, with no clear in it, is the outbox's. -/
theorem outbox_accounts (maxPending : ℕ) (h : List Operation) :
    Accounts maxPending h (account maxPending h) := by
  induction h using List.reverseRecOn with
  | nil => exact Accounts.start
  | append_singleton h op ha =>
    rw [account_snoc]
    cases op with
    | enqueue command nowS generation =>
      by_cases hstop : command.isPriorityStop = true
      · exact ha.stop hstop
      · have hlength :
            (account maxPending h).pending.length = (after maxPending h).pending.length := by
          rw [ha.pending, List.length_map]
        rw [OutboxAccount.step, if_neg hstop, hlength, ← @after_maxPending maxPending h]
        by_cases hfull : (after maxPending h).pending.length ≥ (after maxPending h).maxPending
        · rw [if_pos hfull]
          exact ha.full hstop hfull
        · rw [if_neg hfull]
          exact ha.room hstop hfull
    | drain downstreamReady nowS ttlS allowed => exact ha.drain

end GuardedCommandOutbox

end EmbodiedAgent
