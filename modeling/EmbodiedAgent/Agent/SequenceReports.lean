import EmbodiedAgent.Agent.ActionSequence
import EmbodiedAgent.Library.History

namespace EmbodiedAgent.Agent.ActionSequence

open Library.History SequentialActionPublisher

structure Publication where
  sequencer : SequentialActionPublisher
  pc : PublishPc

inductive PublicationEvent
  | proceed (expired : Bool)
  | notifyResult (commandId : String) (result : ActionResult)
  | cancel (reason : String)

def PublicationEvent.cancels : PublicationEvent → Bool
  | .cancel _ => true
  | _ => false

def cancelCount (h : List PublicationEvent) : ℕ := h.countP PublicationEvent.cancels

namespace Publication

variable (p : Publication)

def start (q : SequentialActionPublisher) (actions : List ActionCommand) : Publication :=
  let started := q.publishStep (.starting actions true) false
  { sequencer := started.2.1, pc := started.1 }

def step : PublicationEvent → Publication × Option ActionCommand
  | .proceed expired =>
    let stepped := p.sequencer.publishStep p.pc expired
    ({ sequencer := stepped.2.1, pc := stepped.1 }, stepped.2.2)
  | .notifyResult commandId result =>
    ({ p with sequencer := p.sequencer.notifyResult commandId result }, none)
  | .cancel reason => ({ p with sequencer := p.sequencer.cancel reason }, none)

def handed (e : PublicationEvent) : List ActionCommand := (p.step e).2.toList

def Finds (left : List ActionCommand) (result : ActionResult) : Prop :=
  ∃ batch command rest, p.pc = .awaiting batch left ∧ left = command :: rest ∧
    p.sequencer.resultsById.lookup command.requestId = some result

def Mistaken : PublicationEvent → Prop
  | .proceed expired =>
    (∃ left result, p.Finds left result ∧ result.success = false ∧
      result.message = p.sequencer.cancelReason) ∨
    ∃ batch command rest, p.pc = .awaiting batch (command :: rest) ∧
      p.sequencer.resultsById.lookup command.requestId = none ∧ expired = true ∧
      "action_result_timeout" = p.sequencer.cancelReason
  | _ => False

variable (q : SequentialActionPublisher) (actions : List ActionCommand)
  (h : List PublicationEvent)

def commands : List ActionCommand := (q.withRequestIds actions).1

def after : Publication := run step (start q actions) h

def payloads : List ActionCommand := collect step handed (start q actions) h

def Observed (k : ℕ) : Prop :=
  ∃ front expired back, h = front ++ .proceed expired :: back ∧ cancelCount front = 0 ∧
    ∃ result, (after q actions front).Finds ((commands q actions).drop k) result ∧
      result.success = true

/-- What is reported of a call of `publish`, and what it has handed out. -/
structure Faithful (report : SequencePublishReport) : Prop where
  observed : ∀ k, Observed q actions h k ↔ k < report.completed
  succeeded : report.failed = false → report.completed = actions.length
  stopped : report.failed = true → cancelCount h = 0 → report.completed < actions.length ∧
    ∃ stop : ActionCommand, stop.name = "stop" ∧ stop.priority = true ∧
      payloads q actions h = commands q actions ++ [stop]

/-- No wait ends with the reason of an earlier cancellation. -/
def Distinct : Prop := Along step (fun p e ↦ ¬ p.Mistaken e) (start q actions) h

section Batches

theorem withRequestIds_length (actions : List ActionCommand) (q : SequentialActionPublisher) :
    (q.withRequestIds actions).1.length = actions.length := by
  induction actions generalizing q with
  | nil => rfl
  | cons action actions ih => exact congrArg Nat.succ (ih _)

variable {q actions}

theorem commands_length : (commands q actions).length = actions.length :=
  withRequestIds_length actions q

theorem drop_inj {j k : ℕ} {command : ActionCommand} {rest : List ActionCommand}
    (hj : command :: rest = (commands q actions).drop j)
    (hk : command :: rest = (commands q actions).drop k) : j = k := by
  have hlengths := congrArg List.length (hj.symm.trans hk)
  have hlength := congrArg List.length hj
  rw [List.length_drop, List.length_drop] at hlengths
  rw [List.length_drop, List.length_cons] at hlength
  omega

theorem notifyResult_cancel (q : SequentialActionPublisher) (commandId : String)
    (result : ActionResult) :
    (q.notifyResult commandId result).cancelGeneration = q.cancelGeneration ∧
      (q.notifyResult commandId result).cancelReason = q.cancelReason := by
  rw [notifyResult]
  split_ifs
  · exact ⟨rfl, rfl⟩
  · exact ⟨rfl, rfl⟩

end Batches

section Histories

variable {q actions h} {e : PublicationEvent} {expired : Bool} {k : ℕ}

theorem after_snoc : after q actions (h ++ [e]) = ((after q actions h).step e).1 :=
  run_snoc step (start q actions) h e

theorem payloads_snoc :
    payloads q actions (h ++ [e]) = payloads q actions h ++ (after q actions h).handed e :=
  collect_snoc step handed (start q actions) h e

theorem distinct_snoc :
    Distinct q actions (h ++ [e]) ↔ Distinct q actions h ∧ ¬ (after q actions h).Mistaken e :=
  along_snoc step

theorem cancelCount_snoc :
    cancelCount (h ++ [e]) = cancelCount h + if e.cancels = true then 1 else 0 := by
  rw [cancelCount, List.countP_append, List.countP_singleton]
  rfl

theorem observed_snoc : Observed q actions (h ++ [.proceed expired]) k ↔ Observed q actions h k ∨
    cancelCount h = 0 ∧ ∃ result,
      (after q actions h).Finds ((commands q actions).drop k) result ∧ result.success = true := by
  constructor
  · rintro ⟨front, expired', back, hsplit, hcount, hfinds⟩
    rcases snoc_eq_append_cons hsplit with ⟨-, rfl, -⟩ | ⟨back', -, rfl⟩
    · exact .inr ⟨hcount, hfinds⟩
    · exact .inl ⟨front, expired', back', rfl, hcount, hfinds⟩
  · rintro (⟨front, expired', back, rfl, hobserved⟩ | ⟨hcount, hfinds⟩)
    · exact ⟨front, expired', back ++ [.proceed expired], by simp, hobserved⟩
    · exact ⟨h, expired, [], rfl, hcount, hfinds⟩

theorem observed_aside (he : ∀ expired, e ≠ .proceed expired) :
    Observed q actions (h ++ [e]) k ↔ Observed q actions h k := by
  constructor
  · rintro ⟨front, expired, back, hsplit, hobserved⟩
    rcases snoc_eq_append_cons hsplit with ⟨-, -, heq⟩ | ⟨back', -, rfl⟩
    · exact absurd heq.symm (he expired)
    · exact ⟨front, expired, back', rfl, hobserved⟩
  · rintro ⟨front, expired, back, rfl, hobserved⟩
    exact ⟨front, expired, back ++ [e], by simp, hobserved⟩

theorem generation_after (q : SequentialActionPublisher) (actions : List ActionCommand)
    (h : List PublicationEvent) :
    (after q actions h).sequencer.cancelGeneration = q.cancelGeneration + cancelCount h ∧
      (cancelCount h = 0 → (after q actions h).sequencer.cancelReason = q.cancelReason) := by
  induction h using List.reverseRecOn with
  | nil =>
    obtain ⟨hgeneration, hreason⟩ := publishStep_cancel q (.starting actions true) false
    exact ⟨hgeneration, fun _ ↦ hreason⟩
  | append_singleton h e ih =>
    obtain ⟨ihgeneration, ihreason⟩ := ih
    rw [after_snoc, cancelCount_snoc]
    cases e with
    | proceed expired =>
      obtain ⟨hgeneration, hreason⟩ := publishStep_cancel (after q actions h).sequencer
        (after q actions h).pc expired
      exact ⟨hgeneration.trans ihgeneration, fun hcount ↦ hreason.trans (ihreason hcount)⟩
    | notifyResult commandId result =>
      obtain ⟨hgeneration, hreason⟩ :=
        notifyResult_cancel (after q actions h).sequencer commandId result
      exact ⟨hgeneration.trans ihgeneration, fun hcount ↦ hreason.trans (ihreason hcount)⟩
    | cancel reason =>
      exact ⟨congrArg (· + 1) ihgeneration, fun hcount ↦ absurd hcount (Nat.succ_ne_zero _)⟩

theorem uncancelled_iff :
    (after q actions h).sequencer.cancelGeneration = q.cancelGeneration ↔ cancelCount h = 0 := by
  rw [(generation_after q actions h).1]
  omega

end Histories

section Reports

variable (batch : Batch)

structure Kept : Prop where
  generation : batch.generation = q.cancelGeneration
  commands : batch.commands = commands q actions
  waits : batch.waitForResults = true

def Counted (n : ℕ) : Prop := ∀ k, Observed q actions h k ↔ k < n

def Stands : PublishPc → Prop
  | .starting .. => False
  | .checking batch left => Kept q actions batch ∧ batch.completed = 0 ∧
    payloads q actions h ++ left = commands q actions ∧ Counted q actions h 0 ∧
    Distinct q actions h
  | .sending batch command left => Kept q actions batch ∧ batch.completed = 0 ∧
    payloads q actions h ++ command :: left = commands q actions ∧ Counted q actions h 0 ∧
    Distinct q actions h
  | .awaiting batch left => Kept q actions batch ∧ batch.completed ≤ actions.length ∧
    payloads q actions h = commands q actions ∧ left = (commands q actions).drop batch.completed ∧
    Counted q actions h batch.completed ∧ Distinct q actions h
  | .failed batch reason => Counted q actions h batch.completed ∧ (cancelCount h = 0 →
    batch.completed < actions.length ∧ payloads q actions h = commands q actions ∧
    (Distinct q actions h ↔ reason ≠ q.cancelReason))
  | .stopping batch _ => Counted q actions h batch.completed ∧ (cancelCount h = 0 →
    batch.completed < actions.length ∧ payloads q actions h = commands q actions ∧
    Distinct q actions h)
  | .finished report => Counted q actions h report.completed ∧
    (report.failed = false → report.completed = actions.length ∧ Distinct q actions h) ∧
    (report.failed = true → cancelCount h = 0 → report.completed < actions.length ∧
      (Distinct q actions h → ∃ stop : ActionCommand, stop.name = "stop" ∧
        stop.priority = true ∧ payloads q actions h = commands q actions ++ [stop]) ∧
      (¬ Distinct q actions h → payloads q actions h = commands q actions))

variable {q actions h batch}

theorem Stands.aside {e : PublicationEvent} {pc : PublishPc} (hstands : Stands q actions h pc)
    (he : ∀ expired, e ≠ .proceed expired) : Stands q actions (h ++ [e]) pc := by
  have hobserved : ∀ n, Counted q actions h n → Counted q actions (h ++ [e]) n :=
    fun n hn k ↦ (observed_aside he).trans (hn k)
  have hcount : cancelCount (h ++ [e]) = 0 → cancelCount h = 0 := fun hnone ↦ by
    rw [cancelCount_snoc] at hnone
    omega
  have hdistinct : Distinct q actions (h ++ [e]) ↔ Distinct q actions h := by
    rw [distinct_snoc]
    cases e with
    | proceed expired => exact absurd rfl (he expired)
    | notifyResult | cancel => exact and_iff_left id
  have hpayloads : payloads q actions (h ++ [e]) = payloads q actions h := by
    rw [payloads_snoc]
    cases e with
    | proceed expired => exact absurd rfl (he expired)
    | notifyResult | cancel => exact List.append_nil _
  cases pc with
  | starting => exact hstands
  | checking batch left | sending batch command left =>
    obtain ⟨hkept, hcompleted, hout, hcounted, hclean⟩ := hstands
    exact ⟨hkept, hcompleted, by rwa [hpayloads], hobserved _ hcounted, hdistinct.mpr hclean⟩
  | awaiting batch left =>
    obtain ⟨hkept, hcompleted, hout, hleft, hcounted, hclean⟩ := hstands
    exact ⟨hkept, hcompleted, by rwa [hpayloads], hleft, hobserved _ hcounted,
      hdistinct.mpr hclean⟩
  | failed batch reason | stopping batch reason =>
    obtain ⟨hcounted, hfailed⟩ := hstands
    refine ⟨hobserved _ hcounted, fun hnone ↦ ?_⟩
    rw [hpayloads, hdistinct]
    exact hfailed (hcount hnone)
  | finished report =>
    obtain ⟨hcounted, hdone, hfailed⟩ := hstands
    refine ⟨hobserved _ hcounted, ?_⟩
    rw [hpayloads, hdistinct]
    exact ⟨hdone, fun hfailure hnone ↦ hfailed hfailure (hcount hnone)⟩

section Proceeding

variable {expired : Bool}

theorem observed_elsewhere {n : ℕ}
    (hpc : ∀ batch command rest, (after q actions h).pc ≠ .awaiting batch (command :: rest))
    (hcounted : Counted q actions h n) : Counted q actions (h ++ [.proceed expired]) n := by
  intro k
  rw [observed_snoc, ← hcounted k]
  refine or_iff_left ?_
  rintro ⟨-, result, ⟨batch, command, rest, hawaiting, hleft, -⟩, -⟩
  rw [hleft] at hawaiting
  exact hpc batch command rest hawaiting

theorem not_mistaken {p : Publication} {e : PublicationEvent}
    (hpc : ∀ batch command rest, p.pc ≠ .awaiting batch (command :: rest)) : ¬ p.Mistaken e := by
  cases e with
  | notifyResult | cancel => exact id
  | proceed expired =>
    rintro (⟨left, result, ⟨batch, command, rest, hawaiting, hleft, -⟩, -⟩ |
      ⟨batch, command, rest, hawaiting, -⟩)
    · rw [hleft] at hawaiting
      exact hpc batch command rest hawaiting
    · exact hpc batch command rest hawaiting

theorem distinct_elsewhere
    (hpc : ∀ batch command rest, (after q actions h).pc ≠ .awaiting batch (command :: rest)) :
    Distinct q actions (h ++ [.proceed expired]) ↔ Distinct q actions h := by
  rw [distinct_snoc]
  exact and_iff_left (not_mistaken hpc)

theorem proceed_pc : (after q actions (h ++ [.proceed expired])).pc =
    ((after q actions h).sequencer.publishStep (after q actions h).pc expired).1 := by
  rw [after_snoc]
  rfl

theorem proceed_payloads : payloads q actions (h ++ [.proceed expired]) = payloads q actions h ++
    ((after q actions h).sequencer.publishStep (after q actions h).pc expired).2.2.toList := by
  rw [payloads_snoc]
  rfl

theorem proceed_count : cancelCount (h ++ [.proceed expired]) = cancelCount h := cancelCount_snoc

theorem checking_proceeds {left : List ActionCommand}
    (hpc : (after q actions h).pc = .checking batch left)
    (hstands : Stands q actions h (.checking batch left)) :
    Stands q actions (h ++ [.proceed expired]) (after q actions (h ++ [.proceed expired])).pc := by
  obtain ⟨hkept, hcompleted, hout, hcounted, hclean⟩ := hstands
  have helsewhere : ∀ batch command rest,
      (after q actions h).pc ≠ .awaiting batch (command :: rest) := by
    rw [hpc]
    intro _ _ _ heq
    cases heq
  have hcounted' : Counted q actions (h ++ [.proceed expired]) 0 :=
    observed_elsewhere helsewhere hcounted
  have hclean' : Distinct q actions (h ++ [.proceed expired]) :=
    (distinct_elsewhere helsewhere).mpr hclean
  have hpayloads : payloads q actions (h ++ [.proceed expired]) = _ := proceed_payloads
  rw [proceed_pc, hpc]
  rw [hpc] at hpayloads
  cases left with
  | nil =>
    rw [publishStep, if_pos hkept.waits] at hpayloads ⊢
    rw [List.append_nil] at hout
    refine ⟨hkept, hcompleted ▸ Nat.zero_le _, ?_, ?_, hcompleted ▸ hcounted', hclean'⟩
    · exact hpayloads.trans ((List.append_nil _).trans hout)
    · rw [hkept.commands, hcompleted]
      rfl
  | cons command left =>
    rw [publishStep] at hpayloads ⊢
    split_ifs at hpayloads ⊢ with hcancelled
    · refine ⟨hcompleted ▸ hcounted', Bool.noConfusion, fun _ hnone ↦ ?_⟩
      rw [proceed_count] at hnone
      exact absurd ((uncancelled_iff.mpr hnone).trans hkept.generation.symm) hcancelled
    · refine ⟨hkept, hcompleted, ?_, hcounted', hclean'⟩
      rw [hpayloads]
      exact (congrArg (· ++ _) (List.append_nil _)).trans hout

theorem sending_proceeds {command : ActionCommand} {left : List ActionCommand}
    (hpc : (after q actions h).pc = .sending batch command left)
    (hstands : Stands q actions h (.sending batch command left)) :
    Stands q actions (h ++ [.proceed expired]) (after q actions (h ++ [.proceed expired])).pc := by
  obtain ⟨hkept, hcompleted, hout, hcounted, hclean⟩ := hstands
  have helsewhere : ∀ batch command rest,
      (after q actions h).pc ≠ .awaiting batch (command :: rest) := by
    rw [hpc]
    intro _ _ _ heq
    cases heq
  rw [proceed_pc, hpc]
  refine ⟨⟨hkept.generation, hkept.commands, hkept.waits⟩, hcompleted, ?_,
    observed_elsewhere helsewhere hcounted, (distinct_elsewhere helsewhere).mpr hclean⟩
  rw [proceed_payloads, hpc, ← hout, List.append_assoc]
  rfl

theorem failed_proceeds {reason : String} (hpc : (after q actions h).pc = .failed batch reason)
    (hstands : Stands q actions h (.failed batch reason)) :
    Stands q actions (h ++ [.proceed expired]) (after q actions (h ++ [.proceed expired])).pc := by
  obtain ⟨hcounted, hfailed⟩ := hstands
  have helsewhere : ∀ batch command rest,
      (after q actions h).pc ≠ .awaiting batch (command :: rest) := by
    rw [hpc]
    intro _ _ _ heq
    cases heq
  have hcounted' : Counted q actions (h ++ [.proceed expired]) batch.completed :=
    observed_elsewhere helsewhere hcounted
  have hclean : Distinct q actions (h ++ [.proceed expired]) ↔ Distinct q actions h :=
    distinct_elsewhere helsewhere
  have hpayloads : payloads q actions (h ++ [.proceed expired]) = _ := proceed_payloads
  rw [proceed_pc, hpc]
  rw [hpc] at hpayloads
  rw [publishStep] at hpayloads ⊢
  split_ifs at hpayloads ⊢ with hreason
  · refine ⟨hcounted', Bool.noConfusion, fun _ hnone ↦ ?_⟩
    rw [proceed_count] at hnone
    obtain ⟨hlt, hout, hdistinct⟩ := hfailed hnone
    rw [(generation_after q actions h).2 hnone] at hreason
    refine ⟨hlt, fun hd ↦ absurd hreason (hdistinct.mp (hclean.mp hd)), fun _ ↦ ?_⟩
    exact hpayloads.trans ((List.append_nil _).trans hout)
  · refine ⟨hcounted', fun hnone ↦ ?_⟩
    rw [proceed_count] at hnone
    obtain ⟨hlt, hout, hdistinct⟩ := hfailed hnone
    rw [(generation_after q actions h).2 hnone] at hreason
    refine ⟨hlt, hpayloads.trans ((List.append_nil _).trans hout), ?_⟩
    exact hclean.mpr (hdistinct.mpr hreason)

theorem stopping_proceeds {reason : String} (hpc : (after q actions h).pc = .stopping batch reason)
    (hstands : Stands q actions h (.stopping batch reason)) :
    Stands q actions (h ++ [.proceed expired]) (after q actions (h ++ [.proceed expired])).pc := by
  obtain ⟨hcounted, hstopping⟩ := hstands
  have helsewhere : ∀ batch command rest,
      (after q actions h).pc ≠ .awaiting batch (command :: rest) := by
    rw [hpc]
    intro _ _ _ heq
    cases heq
  have hpayloads : payloads q actions (h ++ [.proceed expired]) = _ := proceed_payloads
  rw [proceed_pc, hpc]
  rw [hpc] at hpayloads
  refine ⟨observed_elsewhere helsewhere hcounted, nofun, fun _ hnone ↦ ?_⟩
  rw [proceed_count] at hnone
  obtain ⟨hlt, hout, hclean⟩ := hstopping hnone
  rw [hout] at hpayloads
  exact ⟨hlt, fun _ ↦ ⟨_, rfl, rfl, hpayloads⟩,
    fun hd ↦ absurd ((distinct_elsewhere helsewhere).mpr hclean) hd⟩

theorem finished_proceeds {report : SequencePublishReport}
    (hpc : (after q actions h).pc = .finished report)
    (hstands : Stands q actions h (.finished report)) :
    Stands q actions (h ++ [.proceed expired]) (after q actions (h ++ [.proceed expired])).pc := by
  obtain ⟨hcounted, hdone, hfailed⟩ := hstands
  have helsewhere : ∀ batch command rest,
      (after q actions h).pc ≠ .awaiting batch (command :: rest) := by
    rw [hpc]
    intro _ _ _ heq
    cases heq
  have hpayloads : payloads q actions (h ++ [.proceed expired]) = _ := proceed_payloads
  rw [hpc] at hpayloads
  rw [proceed_pc, hpc]
  refine ⟨observed_elsewhere helsewhere hcounted, ?_⟩
  rw [distinct_elsewhere helsewhere, proceed_count, hpayloads, publishStep, Option.toList_none,
    List.append_nil]
  exact ⟨hdone, hfailed⟩

variable {command : ActionCommand} {rest : List ActionCommand} {result : ActionResult}

variable {p : Publication}

theorem finds_iff {left : List ActionCommand}
    (hpc : p.pc = .awaiting batch (command :: rest)) : p.Finds left result ↔
      left = command :: rest ∧ p.sequencer.resultsById.lookup command.requestId = some result := by
  constructor
  · rintro ⟨batch', command', rest', hpc', rfl, hlookup⟩
    obtain ⟨-, hleft⟩ := PublishPc.awaiting.inj (hpc.symm.trans hpc')
    obtain ⟨rfl, rfl⟩ := List.cons.inj hleft
    exact ⟨rfl, hlookup⟩
  · rintro ⟨rfl, hlookup⟩
    exact ⟨batch, command, rest, hpc, rfl, hlookup⟩

theorem mistaken_of_found (hpc : p.pc = .awaiting batch (command :: rest))
    (hlookup : p.sequencer.resultsById.lookup command.requestId = some result) :
    p.Mistaken (.proceed expired) ↔
      result.success = false ∧ result.message = p.sequencer.cancelReason := by
  constructor
  · rintro (⟨left, result', hfinds, hmistaken⟩ | ⟨batch', command', rest', hpc', hnone, -⟩)
    · obtain ⟨-, hlookup'⟩ := (finds_iff hpc).mp hfinds
      rwa [Option.some.inj (hlookup.symm.trans hlookup')]
    · obtain ⟨-, hleft⟩ := PublishPc.awaiting.inj (hpc.symm.trans hpc')
      obtain ⟨rfl, rfl⟩ := List.cons.inj hleft
      exact absurd (hlookup.symm.trans hnone) nofun
  · intro hmistaken
    exact .inl ⟨_, result, (finds_iff hpc).mpr ⟨rfl, hlookup⟩, hmistaken⟩

theorem mistaken_of_missing (hpc : p.pc = .awaiting batch (command :: rest))
    (hlookup : p.sequencer.resultsById.lookup command.requestId = none) :
    p.Mistaken (.proceed expired) ↔
      expired = true ∧ "action_result_timeout" = p.sequencer.cancelReason := by
  constructor
  · rintro (⟨left, result', hfinds, -⟩ | ⟨-, -, -, -, -, hmistaken⟩)
    · obtain ⟨-, hlookup'⟩ := (finds_iff hpc).mp hfinds
      exact absurd (hlookup.symm.trans hlookup') (Option.some_ne_none _).symm
    · exact hmistaken
  · intro hmistaken
    exact .inr ⟨batch, command, rest, hpc, hlookup, hmistaken⟩

theorem observed_of_finds (hcounted : Counted q actions h batch.completed)
    (hno : cancelCount h = 0 → ∀ left result,
      (after q actions h).Finds left result → result.success = true → False) :
    Counted q actions (h ++ [.proceed expired]) batch.completed := by
  intro k
  rw [observed_snoc, ← hcounted k]
  refine or_iff_left ?_
  rintro ⟨hcount, result, hfinds, hsuccess⟩
  exact hno hcount _ result hfinds hsuccess

theorem observed_success (hpc : (after q actions h).pc = .awaiting batch (command :: rest))
    (hleft : command :: rest = (commands q actions).drop batch.completed)
    (hcounted : Counted q actions h batch.completed) (hcount : cancelCount h = 0)
    (hlookup : (after q actions h).sequencer.resultsById.lookup command.requestId = some result)
    (hsuccess : result.success = true) :
    Counted q actions (h ++ [.proceed expired]) (batch.completed + 1) := by
  intro k
  rw [observed_snoc, hcounted k, Nat.lt_succ_iff_lt_or_eq]
  refine or_congr_right ?_
  constructor
  · rintro ⟨-, result', hfinds, -⟩
    exact drop_inj ((finds_iff hpc).mp hfinds).1.symm hleft
  · rintro rfl
    exact ⟨hcount, result, (finds_iff hpc).mpr ⟨hleft.symm, hlookup⟩, hsuccess⟩

theorem awaiting_proceeds {left : List ActionCommand}
    (hpc : (after q actions h).pc = .awaiting batch left)
    (hstands : Stands q actions h (.awaiting batch left)) :
    Stands q actions (h ++ [.proceed expired]) (after q actions (h ++ [.proceed expired])).pc := by
  obtain ⟨hkept, hcompleted, hout, hleft, hcounted, hclean⟩ := hstands
  have hpayloads : payloads q actions (h ++ [.proceed expired]) = commands q actions := by
    rw [proceed_payloads, hpc, ← hout]
    exact List.append_nil _
  have hlength := congrArg List.length hleft
  rw [List.length_drop, commands_length] at hlength
  have hgeneration : (after q actions h).sequencer.cancelGeneration ≠ batch.generation ↔
      cancelCount h ≠ 0 := by
    rw [hkept.generation]
    exact not_congr uncancelled_iff
  rw [proceed_pc, hpc, publishStep]
  dsimp only
  cases left with
  | nil =>
    have helsewhere : ∀ batch command rest,
        (after q actions h).pc ≠ .awaiting batch (command :: rest) := by
      rw [hpc]
      intro batch' command rest heq
      cases (PublishPc.awaiting.inj heq).2
    rw [List.length_nil] at hlength
    refine ⟨observed_elsewhere helsewhere hcounted, fun _ ↦ ⟨?_, ?_⟩, fun hfalse ↦ ?_⟩
    · dsimp only
      omega
    · exact (distinct_elsewhere helsewhere).mpr hclean
    · cases hfalse
  | cons command rest =>
    rw [List.length_cons] at hlength
    rw [awaitStep]
    cases hlookup : (after q actions h).sequencer.resultsById.lookup command.requestId with
    | none =>
      have hcounted' : Counted q actions (h ++ [.proceed expired]) batch.completed :=
        observed_of_finds hcounted fun _ left result hfinds _ ↦
          absurd (hlookup.symm.trans ((finds_iff hpc).mp hfinds).2) (Option.some_ne_none _).symm
      have hmistaken : (after q actions h).Mistaken (.proceed expired) ↔ _ :=
        mistaken_of_missing hpc hlookup
      dsimp only
      split_ifs with hcancelled hexpired
      · refine ⟨hcounted', fun hnone ↦ ?_⟩
        exact absurd (proceed_count.symm.trans hnone) (hgeneration.mp hcancelled)
      · refine ⟨hcounted', fun hnone ↦ ⟨by omega, hpayloads, ?_⟩⟩
        rw [distinct_snoc, hmistaken,
          (generation_after q actions h).2 (proceed_count.symm.trans hnone)]
        exact ⟨fun hd heq ↦ hd.2 ⟨hexpired, heq⟩, fun hne ↦ ⟨hclean, fun hm ↦ hne hm.2⟩⟩
      · refine ⟨hkept, hcompleted, hpayloads, hleft, hcounted', distinct_snoc.mpr ⟨hclean, ?_⟩⟩
        rw [hmistaken]
        exact fun hm ↦ hexpired hm.1
    | some result =>
      have hmistaken : (after q actions h).Mistaken (.proceed expired) ↔ _ :=
        mistaken_of_found hpc hlookup
      dsimp only
      split_ifs with hcancelled hsuccess
      · have hnonzero := hgeneration.mp hcancelled
        refine ⟨observed_of_finds hcounted fun hcount ↦ absurd hcount hnonzero, fun hnone ↦ ?_⟩
        exact absurd (proceed_count.symm.trans hnone) hnonzero
      · have hcount : cancelCount h = 0 := not_not.mp (mt hgeneration.mpr hcancelled)
        refine ⟨⟨hkept.generation, hkept.commands, hkept.waits⟩, ?_, hpayloads, ?_,
          observed_success hpc hleft hcounted hcount hlookup hsuccess,
          distinct_snoc.mpr ⟨hclean, ?_⟩⟩
        · dsimp only
          omega
        · rw [← List.drop_drop, ← hleft]
          rfl
        · rw [hmistaken, hsuccess]
          exact fun hm ↦ Bool.false_ne_true hm.1.symm
      · have hfailure : result.success = false := eq_false_of_ne_true hsuccess
        refine ⟨observed_of_finds hcounted fun _ left result' hfinds hsuccess' ↦ ?_,
          fun hnone ↦ ⟨by omega, hpayloads, ?_⟩⟩
        · have hsame := hlookup.symm.trans ((finds_iff hpc).mp hfinds).2
          rw [← Option.some.inj hsame] at hsuccess'
          exact hsuccess hsuccess'
        · rw [distinct_snoc, hmistaken,
            (generation_after q actions h).2 (proceed_count.symm.trans hnone)]
          exact ⟨fun hd heq ↦ hd.2 ⟨hfailure, heq⟩, fun hne ↦ ⟨hclean, fun hm ↦ hne hm.2⟩⟩

end Proceeding

theorem start_stands (q : SequentialActionPublisher) (actions : List ActionCommand) :
    Stands q actions [] (after q actions []).pc := by
  have hcounted : Counted q actions [] 0 := by
    intro k
    refine iff_of_false ?_ (Nat.not_lt_zero k)
    rintro ⟨front, expired, back, hsplit, -⟩
    exact List.append_ne_nil_of_right_ne_nil front (List.cons_ne_nil _ back) hsplit.symm
  cases actions with
  | nil => exact ⟨hcounted, fun _ ↦ ⟨rfl, trivial⟩, nofun⟩
  | cons action actions => exact ⟨⟨rfl, rfl, rfl⟩, rfl, rfl, hcounted, trivial⟩

theorem stands_after (q : SequentialActionPublisher) (actions : List ActionCommand)
    (h : List PublicationEvent) : Stands q actions h (after q actions h).pc := by
  induction h using List.reverseRecOn with
  | nil => exact start_stands q actions
  | append_singleton h e ih =>
    cases e with
    | notifyResult commandId result =>
      rw [after_snoc]
      exact ih.aside nofun
    | cancel reason =>
      rw [after_snoc]
      exact ih.aside nofun
    | proceed expired =>
      cases hpc : (after q actions h).pc with
      | starting actions' waitForResults =>
        rw [hpc] at ih
        exact ih.elim
      | checking batch left => exact checking_proceeds hpc (hpc ▸ ih)
      | sending batch command left => exact sending_proceeds hpc (hpc ▸ ih)
      | awaiting batch left => exact awaiting_proceeds hpc (hpc ▸ ih)
      | failed batch reason => exact failed_proceeds hpc (hpc ▸ ih)
      | stopping batch reason => exact stopping_proceeds hpc (hpc ▸ ih)
      | finished report => exact finished_proceeds hpc (hpc ▸ ih)

end Reports

/-- What is reported has happened as long as no reason reads like that of a cancellation. -/
theorem report_faithful_iff (q : SequentialActionPublisher) (actions : List ActionCommand)
    (h : List PublicationEvent) (report : SequencePublishReport)
    (hreport : (after q actions h).pc = .finished report) :
    Faithful q actions h report ↔ (cancelCount h = 0 → Distinct q actions h) := by
  have hstands := stands_after q actions h
  rw [hreport] at hstands
  obtain ⟨hcounted, hdone, hfailed⟩ := hstands
  constructor
  · intro hfaithful hcount
    by_contra hmistaken
    cases hfailure : report.failed with
    | false => exact hmistaken (hdone hfailure).2
    | true =>
      obtain ⟨-, -, hsilent⟩ := hfailed hfailure hcount
      obtain ⟨-, stop, -, -, hstop⟩ := hfaithful.stopped hfailure hcount
      have hlength := congrArg List.length (hstop.symm.trans (hsilent hmistaken))
      rw [List.length_append, List.length_singleton] at hlength
      omega
  · intro hdistinct
    refine ⟨hcounted, fun hfailure ↦ (hdone hfailure).1, fun hfailure hcount ↦ ?_⟩
    obtain ⟨hlt, hstops, -⟩ := hfailed hfailure hcount
    exact ⟨hlt, hstops (hdistinct hcount)⟩

def moveThenTurn : List ActionCommand := [{ name := "move" }, { name := "turn" }]

/-- The move fails as soon as it has been handed out. -/
def blockedMove (message : String) (k : ℕ) : List PublicationEvent :=
  [.proceed false, .proceed false,
    .notifyResult "agent-action-1" { success := false, status := 5, message := message }] ++
    List.replicate k (.proceed false)

theorem blocked_move_stops : Faithful {} moveThenTurn (blockedMove "blocked" 6)
    { published := 3, completed := 0, failed := true, reason := "blocked" } := by
  refine (report_faithful_iff {} moveThenTurn (blockedMove "blocked" 6) _ rfl).mpr fun _ ↦ ?_
  have hwait : ¬ (after {} moveThenTurn (blockedMove "blocked" 3)).Mistaken (.proceed false) := by
    rw [mistaken_of_found rfl rfl]
    decide
  exact ⟨not_mistaken nofun, not_mistaken nofun, not_mistaken nofun, not_mistaken nofun,
    not_mistaken nofun, not_mistaken nofun, hwait, not_mistaken nofun, not_mistaken nofun, trivial⟩

/-- The move has failed with a message that reads like the reason of a cancellation. -/
theorem cancelled_move_goes_on : (after {} moveThenTurn (blockedMove "cancelled" 5)).pc =
      .finished { published := 2, completed := 0, failed := true, reason := "cancelled" } ∧
    cancelCount (blockedMove "cancelled" 5) = 0 ∧
    ¬ Faithful {} moveThenTurn (blockedMove "cancelled" 5)
      { published := 2, completed := 0, failed := true, reason := "cancelled" } := by
  refine ⟨rfl, rfl, fun hfaithful ↦ ?_⟩
  obtain ⟨-, stop, -, -, hstop⟩ := hfaithful.stopped rfl rfl
  have hlength : 2 = 3 := congrArg List.length hstop
  omega

end Publication

end EmbodiedAgent.Agent.ActionSequence
