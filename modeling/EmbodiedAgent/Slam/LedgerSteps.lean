import EmbodiedAgent.Slam.Nav2Motion

namespace EmbodiedAgent.Slam

open Library Library.Program

/-- What `record_plan` refuses. -/
inductive PlanError
  | countNegative
  | ledger (error : LedgerError)

structure Inspection where
  sequence : ℕ
  unknownCellCount : ℤ
  occupiedCellCount : ℤ
  outsideMapCellCount : ℤ

/-- What a plan must be to be counted in the record of goal `n`. -/
structure Inspection.Counted (n : ℕ) (plan : Inspection) : Prop where
  sequence : plan.sequence = n
  unknown : 0 ≤ plan.unknownCellCount
  occupied : 0 ≤ plan.occupiedCellCount
  outside : 0 ≤ plan.outsideMapCellCount

def Inspection.knownFree (plan : Inspection) : Bool :=
  plan.unknownCellCount = 0 ∧ plan.occupiedCellCount = 0 ∧ plan.outsideMapCellCount = 0

namespace NavigationGoalEvidence

def counters (e : NavigationGoalEvidence) : ℕ × ℕ × ℕ × ℕ :=
  (e.planCount, e.maxUnknownCellCount, e.maxOccupiedCellCount, e.maxOutsideMapCellCount)

def withPlan (e : NavigationGoalEvidence) (plan : Inspection) : NavigationGoalEvidence :=
  { e with
    planCount := e.planCount + 1
    maxUnknownCellCount := max e.maxUnknownCellCount plan.unknownCellCount.toNat
    maxOccupiedCellCount := max e.maxOccupiedCellCount plan.occupiedCellCount.toNat
    maxOutsideMapCellCount := max e.maxOutsideMapCellCount plan.outsideMapCellCount.toNat }

end NavigationGoalEvidence

namespace NavigationGoalLedger

variable (ledger : NavigationGoalLedger)

def recordPlan (plan : Inspection) : Except PlanError NavigationGoalLedger :=
  if plan.unknownCellCount < 0 ∨ plan.occupiedCellCount < 0 ∨ plan.outsideMapCellCount < 0 then
    .error .countNegative
  else
    match ledger.get plan.sequence with
    | .error error => .error (.ledger error)
    | .ok current => .ok ⟨ledger.records.set (plan.sequence - 1) (current.withPlan plan)⟩

def inspect (plan : Inspection) : NavigationGoalLedger :=
  match ledger.recordPlan plan with
  | .error _ => ledger
  | .ok ledger => ledger

end NavigationGoalLedger

/-- The other threads only inspect plans. -/
def OnlyInspects (env : Nav2Environment) : Prop :=
  ∀ trace ledger, ∃ plans : List Inspection,
    env.record trace ledger = plans.foldl NavigationGoalLedger.inspect ledger

section Records

structure Evolves (e e' : NavigationGoalEvidence) : Prop where
  status : e.status.terminal = true → e'.status = e.status
  goal : e'.goalXy = e.goalXy
  plans : e.planCount ≤ e'.planCount
  unknown : e.maxUnknownCellCount ≤ e'.maxUnknownCellCount
  occupied : e.maxOccupiedCellCount ≤ e'.maxOccupiedCellCount
  outside : e.maxOutsideMapCellCount ≤ e'.maxOutsideMapCellCount

variable {e e' e'' : NavigationGoalEvidence} {ledger ledger' : NavigationGoalLedger} {n s : ℕ}

theorem Evolves.refl (e : NavigationGoalEvidence) : Evolves e e :=
  ⟨fun _ ↦ rfl, rfl, le_rfl, le_rfl, le_rfl, le_rfl⟩

theorem Evolves.trans (h : Evolves e e') (h' : Evolves e' e'') : Evolves e e'' where
  status hterminal := by
    have hstatus := h.status hterminal
    rw [← hstatus]
    exact h'.status (hstatus ▸ hterminal)
  goal := h'.goal.trans h.goal
  plans := h.plans.trans h'.plans
  unknown := h.unknown.trans h'.unknown
  occupied := h.occupied.trans h'.occupied
  outside := h.outside.trans h'.outside

theorem get_eq_ok : ledger.get n = .ok e ↔ n ≠ 0 ∧ ledger.records[n - 1]? = some e := by
  rw [NavigationGoalLedger.get]
  by_cases hn : n = 0
  · simp [hn]
  · rw [if_neg hn]
    cases ledger.records[n - 1]? <;> simp [hn]

theorem get_set (h : ledger.get s = .ok e) :
    (⟨ledger.records.set (s - 1) e'⟩ : NavigationGoalLedger).get n =
      if n = s then .ok e' else ledger.get n := by
  obtain ⟨hs, he⟩ := get_eq_ok.mp h
  obtain ⟨hlength, -⟩ := List.getElem?_eq_some_iff.mp he
  by_cases hn : n = s
  · subst hn
    rw [if_pos rfl, get_eq_ok, List.getElem?_set_self hlength]
    exact ⟨hs, rfl⟩
  · rw [if_neg hn, NavigationGoalLedger.get, NavigationGoalLedger.get]
    by_cases hzero : n = 0
    · rw [if_pos hzero, if_pos hzero]
    · rw [if_neg hzero, if_neg hzero, List.getElem?_set_ne (by omega)]

theorem evolves_withPlan (e : NavigationGoalEvidence) (plan : Inspection) :
    Evolves e (e.withPlan plan) where
  status _ := rfl
  goal := rfl
  plans := Nat.le_succ _
  unknown := le_max_left ..
  occupied := le_max_left ..
  outside := le_max_left ..

theorem get_inspect (plan : Inspection) (h : ledger.get n = .ok e) :
    (ledger.inspect plan).get n = .ok e ∨
      plan.Counted n ∧ (ledger.inspect plan).get n = .ok (e.withPlan plan) := by
  rw [NavigationGoalLedger.inspect, NavigationGoalLedger.recordPlan]
  split_ifs with hnegative
  · exact .inl h
  · cases hcurrent : ledger.get plan.sequence with
    | error error => exact .inl h
    | ok current =>
      dsimp only
      rw [get_set hcurrent]
      split_ifs with hn
      · subst hn
        obtain rfl := Except.ok.inj (h.symm.trans hcurrent)
        exact .inr ⟨⟨rfl, by omega, by omega, by omega⟩, rfl⟩
      · exact .inl h

theorem get_inspections (plans : List Inspection) (h : ledger.get n = .ok e) :
    ∃ counted : List Inspection, (∀ plan ∈ counted, plan.Counted n) ∧
      (plans.foldl NavigationGoalLedger.inspect ledger).get n =
        .ok (counted.foldl NavigationGoalEvidence.withPlan e) := by
  induction plans generalizing ledger e with
  | nil => exact ⟨[], fun _ hmem ↦ absurd hmem List.not_mem_nil, h⟩
  | cons plan plans ih =>
    rcases get_inspect plan h with hsame | ⟨hcounted, hnew⟩
    · exact ih hsame
    · obtain ⟨counted, hall, hget⟩ := ih hnew
      exact ⟨plan :: counted, List.forall_mem_cons.mpr ⟨hcounted, hall⟩, hget⟩

theorem evolves_inspections (plans : List Inspection) (e : NavigationGoalEvidence) :
    Evolves e (plans.foldl NavigationGoalEvidence.withPlan e) ∧
      (plans.foldl NavigationGoalEvidence.withPlan e).status = e.status := by
  induction plans generalizing e with
  | nil => exact ⟨.refl e, rfl⟩
  | cons plan plans ih =>
    obtain ⟨hevolves, hstatus⟩ := ih (e.withPlan plan)
    exact ⟨(evolves_withPlan e plan).trans hevolves, hstatus⟩

theorem counters_inspections (plans : List Inspection) (h : e.counters = e'.counters) :
    (plans.foldl NavigationGoalEvidence.withPlan e).counters =
      (plans.foldl NavigationGoalEvidence.withPlan e').counters := by
  induction plans generalizing e e' with
  | nil => exact h
  | cons plan plans ih =>
    apply ih
    simp only [NavigationGoalEvidence.counters, Prod.mk.injEq] at h
    simp only [NavigationGoalEvidence.counters, NavigationGoalEvidence.withPlan, h]

theorem allPlansKnownFree_iff : e.allPlansKnownFree = true ↔ 0 < e.planCount ∧
    e.maxUnknownCellCount = 0 ∧ e.maxOccupiedCellCount = 0 ∧ e.maxOutsideMapCellCount = 0 :=
  decide_eq_true_iff

theorem allPlansKnownFree_inspections {plans : List Inspection}
    (hcounted : ∀ plan ∈ plans, plan.Counted n)
    (h : e'.counters = (plans.foldl NavigationGoalEvidence.withPlan e).counters)
    (hfree : e'.allPlansKnownFree = true) :
    0 < e.planCount + plans.length ∧ (0 < e.planCount → e.allPlansKnownFree = true) ∧
      ∀ plan ∈ plans, plan.knownFree = true := by
  induction plans generalizing e with
  | nil =>
    simp only [NavigationGoalEvidence.counters, List.foldl_nil, Prod.mk.injEq] at h
    rw [allPlansKnownFree_iff, h.1, h.2.1, h.2.2.1, h.2.2.2] at hfree
    refine ⟨hfree.1, fun _ ↦ ?_, fun _ hmem ↦ absurd hmem List.not_mem_nil⟩
    exact allPlansKnownFree_iff.mpr hfree
  | cons plan plans ih =>
    obtain ⟨hplan, hplans⟩ := List.forall_mem_cons.mp hcounted
    obtain ⟨-, hearlier, hall⟩ := ih hplans h
    have hsum := allPlansKnownFree_iff.mp (hearlier (Nat.succ_pos _))
    dsimp only [NavigationGoalEvidence.withPlan] at hsum
    obtain ⟨-, hunknown, hoccupied, houtside⟩ := hsum
    have := hplan.unknown
    have := hplan.occupied
    have := hplan.outside
    refine ⟨?_, fun hpos ↦ ?_, List.forall_mem_cons.mpr ⟨?_, hall⟩⟩
    · rw [List.length_cons]
      omega
    · exact allPlansKnownFree_iff.mpr ⟨hpos, by omega, by omega, by omega⟩
    · exact decide_eq_true ⟨by omega, by omega, by omega⟩

theorem transition_eq_ok {status : NavigationGoalStatus} {t a c : ℤ} {detail : String}
    (h : ledger.transition s status t a c detail = .ok ledger') :
    ∃ e e', ledger.get s = .ok e ∧ e.status.terminal = false ∧ Evolves e e' ∧
      e'.status = status ∧ e'.counters = e.counters ∧
      ∀ n, ledger'.get n = if n = s then .ok e' else ledger.get n := by
  by_cases hnegative : t < 0
  · rw [NavigationGoalLedger.transition, if_pos hnegative] at h
    cases h
  rw [NavigationGoalLedger.transition, if_neg hnegative] at h
  cases hget : ledger.get s with
  | error error =>
    rw [hget] at h
    cases h
  | ok e =>
    rw [hget] at h
    change (if e.status.terminal = true then _ else _) = _ at h
    by_cases hterminal : e.status.terminal = true
    · rw [if_pos hterminal] at h
      cases h
    · rw [if_neg hterminal] at h
      obtain rfl := Except.ok.inj h
      refine ⟨e, _, rfl, Bool.eq_false_of_not_eq_true hterminal, ?_, rfl, ?_,
        fun n ↦ get_set hget⟩
      · exact ⟨fun ht ↦ absurd ht hterminal, rfl, le_rfl, le_rfl, le_rfl, le_rfl⟩
      · rfl

theorem exists_transition {status : NavigationGoalStatus} {t : ℤ} (a c : ℤ) (detail : String)
    (ht : 0 ≤ t) (h : ledger.get s = .ok e) (hopen : e.status.terminal = false) :
    ∃ ledger', ledger.transition s status t a c detail = .ok ledger' := by
  rw [NavigationGoalLedger.transition, if_neg (not_lt.mpr ht), h]
  change ∃ ledger', (if e.status.terminal = true then _ else _) = Except.ok ledger'
  rw [if_neg (by simp [hopen])]
  exact ⟨_, rfl⟩

structure Follows (n : ℕ) (allowed : NavigationGoalStatus → Prop) (plans : List Inspection)
    (e e' : NavigationGoalEvidence) : Prop where
  evolves : Evolves e e'
  status : e'.status = e.status ∨ allowed e'.status
  counted : ∀ plan ∈ plans, plan.Counted n
  counters : e'.counters = (plans.foldl NavigationGoalEvidence.withPlan e).counters

theorem Follows.refl {allowed : NavigationGoalStatus → Prop} (e : NavigationGoalEvidence) :
    Follows n allowed [] e e :=
  ⟨.refl e, .inl rfl, fun _ hmem ↦ absurd hmem List.not_mem_nil, rfl⟩

theorem Follows.trans {allowed : NavigationGoalStatus → Prop} {plans plans' : List Inspection}
    (h : Follows n allowed plans e e') (h' : Follows n allowed plans' e' e'') :
    Follows n allowed (plans ++ plans') e e'' where
  evolves := h.evolves.trans h'.evolves
  status := by
    rcases h'.status with hsame | hnew
    · rw [hsame]
      exact h.status
    · exact .inr hnew
  counted := List.forall_mem_append.mpr ⟨h.counted, h'.counted⟩
  counters := by
    rw [List.foldl_append, h'.counters]
    exact counters_inspections plans' h.counters

end Records

variable {env : Nav2Environment} {sequence : ℕ} {allowed : NavigationGoalStatus → Prop}
  {w w' : Nav2World} {e : NavigationGoalEvidence}

inductive LedgerStep (env : Nav2Environment) (sequence : ℕ)
    (allowed : NavigationGoalStatus → Prop) (w w' : Nav2World) : Prop
  | quiet (hledger : w'.ledger = w.ledger) (htrace : w.trace <+: w'.trace)
  | others (hledger : w'.ledger = env.record w.trace w.ledger) (htrace : w.trace <+: w'.trace)
  | written (status : NavigationGoalStatus) (t a c : ℤ) (detail : String)
    (hstatus : allowed status)
    (hledger : w.ledger.transition sequence status t a c detail = .ok w'.ledger)
    (htrace : w.trace <+: w'.trace)

theorem LedgerStep.mono {allowed' : NavigationGoalStatus → Prop}
    (hallowed : ∀ status, allowed status → allowed' status)
    (h : LedgerStep env sequence allowed w w') : LedgerStep env sequence allowed' w w' := by
  cases h with
  | quiet hledger htrace => exact .quiet hledger htrace
  | others hledger htrace => exact .others hledger htrace
  | written status t a c detail hstatus hledger htrace =>
    exact .written status t a c detail (hallowed status hstatus) hledger htrace

theorem LedgerStep.trace_prefix (h : LedgerStep env sequence allowed w w') :
    w.trace <+: w'.trace := by
  cases h <;> assumption

theorem LedgerStep.follows (hothers : OnlyInspects env)
    (h : LedgerStep env sequence allowed w w') (he : w.ledger.get sequence = .ok e) :
    ∃ e' plans, w'.ledger.get sequence = .ok e' ∧ Follows sequence allowed plans e e' := by
  cases h with
  | quiet hledger htrace => exact ⟨e, [], hledger ▸ he, .refl e⟩
  | others hledger htrace =>
    obtain ⟨plans, hplans⟩ := hothers w.trace w.ledger
    obtain ⟨counted, hcounted, hget⟩ := get_inspections plans he
    obtain ⟨hevolves, hstatus⟩ := evolves_inspections counted e
    exact ⟨_, counted, by rw [hledger, hplans, hget], hevolves, .inl hstatus, hcounted, rfl⟩
  | written status t a c detail hstatus hledger htrace =>
    obtain ⟨e₁, e₂, hget, -, hevolves, rfl, hcounters, hall⟩ := transition_eq_ok hledger
    obtain rfl := Except.ok.inj (he.symm.trans hget)
    refine ⟨e₂, [], by rw [hall, if_pos rfl], hevolves, .inr hstatus, ?_, hcounters⟩
    exact fun _ hmem ↦ absurd hmem List.not_mem_nil

/-- A run of such steps. -/
abbrev LedgerRun (env : Nav2Environment) (sequence : ℕ)
    (allowed : NavigationGoalStatus → Prop) : Nav2World → Nav2World → Prop :=
  Relation.ReflTransGen (LedgerStep env sequence allowed)

theorem LedgerRun.mono {allowed' : NavigationGoalStatus → Prop}
    (hallowed : ∀ status, allowed status → allowed' status)
    (h : LedgerRun env sequence allowed w w') : LedgerRun env sequence allowed' w w' :=
  Relation.ReflTransGen.mono (fun _ _ ↦ LedgerStep.mono hallowed) _ _ h

theorem LedgerRun.follows (hothers : OnlyInspects env)
    (h : LedgerRun env sequence allowed w w') (he : w.ledger.get sequence = .ok e) :
    ∃ e' plans, w'.ledger.get sequence = .ok e' ∧ Follows sequence allowed plans e e' := by
  induction h with
  | refl => exact ⟨e, [], he, .refl e⟩
  | tail _ hstep ih =>
    obtain ⟨e₁, plans₁, he₁, h₁⟩ := ih
    obtain ⟨e₂, plans₂, he₂, h₂⟩ := hstep.follows hothers he₁
    exact ⟨e₂, plans₁ ++ plans₂, he₂, h₁.trans h₂⟩

theorem LedgerRun.trace_prefix (h : LedgerRun env sequence allowed w w') :
    w.trace <+: w'.trace := by
  induction h with
  | refl => exact List.prefix_refl _
  | tail _ hstep ih => exact ih.trans hstep.trace_prefix

end EmbodiedAgent.Slam
