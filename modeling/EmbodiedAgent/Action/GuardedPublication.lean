import EmbodiedAgent.Action.Guard
import EmbodiedAgent.Library.History

namespace EmbodiedAgent.ActionGuard

open Library Library.History

/-- An authority snapshot of another epoch or sequence than `s` is accepted. -/
def Crosses (g : ActionGuard) (s : ControlAuthoritySnapshot) (h : List GuardEvent)
    (e : GuardEvent) : Prop :=
  ∃ message s' receivedAt reading, e = .authorityState message receivedAt reading ∧
    message.snapshot = some s' ∧
    ((run step g h).authorityTracker.update s' receivedAt).2.accepted = true ∧
    (s'.managerEpoch, s'.transitionSequence) ≠ (s.managerEpoch, s.transitionSequence)

structure Admitted (g : ActionGuard) (h : List GuardEvent) (c : RobotCommand)
    (s : ControlAuthoritySnapshot) (enqueuedAt : Int64) (pre : List GuardEvent)
    (message : RobotCommand) (readyAt : ℤ) (reading : FlushReading) (mid : List GuardEvent) :
    Prop where
  split : h = pre ++ .candidate message readyAt enqueuedAt reading :: mid
  valid : ((run step g pre).validated message).valid = true
  validated : ((run step g pre).validated message).command = c
  held : (run step g pre).authorityTracker.state = some s
  autonomy : (run step g pre).authorityTracker.freshAutonomy readyAt = true
  buffered : ((run step g pre).outbox.enqueue c (steadyNowSeconds enqueuedAt)
    (run step g pre).authorityGeneration).2 = true
  uncrossed : Quiet (Crosses g s) (pre ++ [.candidate message readyAt enqueuedAt reading]) mid

def Authorized (g : ActionGuard) (h : List GuardEvent) (ttl : Double) (published : FlushReading)
    (c : RobotCommand) : Prop :=
  ∃ s enqueuedAt pre message readyAt reading mid,
    Admitted g h c s enqueuedAt pre message readyAt reading mid ∧
    (run step g h).authorityTracker.state = some s ∧
    (run step g h).authorityTracker.freshAutonomy published.allowedAt = true ∧
    (steadyNowSeconds published.drainAt).sub (steadyNowSeconds enqueuedAt) < ttl

section Outcome

variable (g : ActionGuard)

inductive Outcome : GuardEvent → ActionGuard × List GuardPublication → Prop
  | ignored (e : GuardEvent)
      (rejected : ∀ message receivedAt reading, e = .authorityState message receivedAt reading →
        ∀ s, message.snapshot = some s →
          (g.authorityTracker.update s receivedAt).2.accepted = false) : Outcome e (g, [])
  | activated : Outcome .activate ({ g with active := true }, [])
  | deactivated : Outcome .deactivate ({ g with active := false, outbox := g.outbox.clear }, [])
  | refused (message : RobotCommand) (readyAt : ℤ) (enqueuedAt : Int64) (reading : FlushReading)
      (data : String) : Outcome (.candidate message readyAt enqueuedAt reading)
        ({ g with commandSequence := g.commandSequence + 1 }, [.rejection data])
  | authority (message : ControlAuthorityState) (receivedAt : ℤ) (reading : FlushReading)
      (s : ControlAuthoritySnapshot) (decoded : message.snapshot = some s)
      (accepted : (g.authorityTracker.update s receivedAt).2.accepted = true) :
      Outcome (.authorityState message receivedAt reading)
        ({ g with authorityTracker := (g.authorityTracker.update s receivedAt).1 }.flushOutbox
          reading)
  | admitted (message : RobotCommand) (readyAt : ℤ) (enqueuedAt : Int64) (reading : FlushReading)
      (c : RobotCommand) (active : g.active = true) (valid : (g.validated message).valid = true)
      (validated : (g.validated message).command = c)
      (allowed : evaluateActionAuthority g.authorityGateEnabled (g.authorityTracker.fresh readyAt)
        g.authorityTracker.authority c.isPriorityStop = .allow)
      (buffered :
        (g.outbox.enqueue c (steadyNowSeconds enqueuedAt) g.authorityGeneration).2 = true) :
      Outcome (.candidate message readyAt enqueuedAt reading)
        ({ g with
            commandSequence := g.commandSequence + 1
            outbox := (g.outbox.enqueue c (steadyNowSeconds enqueuedAt) g.authorityGeneration).1
          }.flushOutbox reading)
  | flushed (reading : FlushReading) : Outcome (.timer reading) (g.flushOutbox reading)

@[simp] theorem authorityGeneration_numbered (n : UInt64) :
    { g with commandSequence := n }.authorityGeneration = g.authorityGeneration := rfl

theorem candidate_outcome (message : RobotCommand) (readyAt : ℤ) (enqueuedAt : Int64)
    (reading : FlushReading) : Outcome g (.candidate message readyAt enqueuedAt reading)
      (g.onCandidate message readyAt enqueuedAt reading) := by
  by_cases hidle : g.active = false
  · rw [onCandidate, if_pos (by simp [hidle])]
    exact .ignored _ (by simp)
  rw [onCandidate, if_neg (by simpa using hidle)]
  by_cases hvalid : (g.validated message).valid = true
  · rw [if_neg (by simp [hvalid])]
    by_cases hallowed : evaluateActionAuthority g.authorityGateEnabled
        (g.authorityTracker.fresh readyAt) g.authorityTracker.authority
        (g.validated message).command.isPriorityStop = .allow
    · rw [if_neg (not_not.mpr hallowed), authorityGeneration_numbered]
      cases hout : (g.outbox.enqueue (g.validated message).command (steadyNowSeconds enqueuedAt)
          g.authorityGeneration).2 with
      | false =>
        have hsame := GuardedCommandOutbox.enqueue_refused hout
        simpa [hout, hsame] using Outcome.refused message readyAt enqueuedAt reading _
      | true =>
        simpa [hout] using Outcome.admitted message readyAt enqueuedAt reading _
          (Bool.not_eq_false _ ▸ hidle) hvalid rfl hallowed hout
    · rw [if_pos hallowed]
      exact .refused _ _ _ _ _
  · rw [if_pos (by simpa using hvalid)]
    exact .refused _ _ _ _ _

theorem authority_outcome (message : ControlAuthorityState) (receivedAt : ℤ)
    (reading : FlushReading) : Outcome g (.authorityState message receivedAt reading)
      (g.onAuthorityState message receivedAt reading) := by
  unfold onAuthorityState
  cases hdecoded : message.snapshot with
  | none => exact .ignored _ (by simp [hdecoded])
  | some s =>
    dsimp only
    split_ifs with hrejected
    · have hrejected' : (g.authorityTracker.update s receivedAt).2.accepted = false := by
        simpa using hrejected
      rw [ControlAuthorityTracker.rejected_keeps hrejected']
      refine .ignored _ ?_
      rintro message receivedAt reading ⟨⟩ s' hs'
      rwa [← Option.some.inj (hdecoded.symm.trans hs')]
    · exact .authority message receivedAt reading s hdecoded (by simpa using hrejected)

theorem step_outcome (e : GuardEvent) : Outcome g e (g.step e) := by
  cases e with
  | activate => exact .activated
  | deactivate => exact .deactivated
  | authorityState message receivedAt reading => exact g.authority_outcome _ _ _
  | candidate message readyAt enqueuedAt reading => exact g.candidate_outcome _ _ _ _
  | timer reading => exact .flushed reading

end Outcome

section Flush

variable {g : ActionGuard} {reading : FlushReading} {entry : OutboxEntry} {c : RobotCommand}

theorem flush_frame (g : ActionGuard) (reading : FlushReading) :
    ∃ outbox, (g.flushOutbox reading).1 = { g with outbox := outbox } := by
  unfold flushOutbox
  split_ifs
  · exact ⟨g.outbox, rfl⟩
  · exact ⟨_, rfl⟩

def Passes (g : ActionGuard) (reading : FlushReading) (entry : OutboxEntry) : Prop :=
  ¬ Double.max 0 g.downstreamWaitTimeoutS ≤
      (steadyNowSeconds reading.drainAt).sub entry.enqueuedAtS ∧
    (entry.command.isPriorityStop = false →
      g.allowedAuthorityGeneration reading.allowedAt = some entry.authorityGeneration)

theorem mem_flush_pending (hactive : g.active = true)
    (h : entry ∈ (g.flushOutbox reading).1.outbox.pending) :
    entry ∈ g.outbox.pending ∧ g.Passes reading entry := by
  rw [flushOutbox, if_neg (by simp [hactive])] at h
  obtain ⟨hpending, hkeeps⟩ := GuardedCommandOutbox.mem_drain_pending h
  exact ⟨hpending, GuardedCommandOutbox.keeps_iff.mp hkeeps⟩

theorem flush_idle (hidle : g.active = false) : g.flushOutbox reading = (g, []) := by
  rw [flushOutbox, if_pos (by simp [hidle])]

theorem mem_flush_command (h : .command c ∈ (g.flushOutbox reading).2) :
    ∃ entry ∈ g.outbox.pending, g.Passes reading entry ∧ entry.command = c := by
  unfold flushOutbox at h
  split_ifs at h
  · cases h
  · obtain ⟨entry, hpending, hkeeps, hcommand⟩ :=
      GuardedCommandOutbox.mem_drain_ready (by simpa using h)
    exact ⟨entry, hpending, GuardedCommandOutbox.keeps_iff.mp hkeeps, hcommand⟩

end Flush

variable {g g' : ActionGuard} {h : List GuardEvent} {e : GuardEvent} {k : ControlAuthorityTracker}
  {entry : OutboxEntry} {c : RobotCommand} {s : ControlAuthoritySnapshot} {reading : FlushReading}
  {out : ActionGuard × List GuardPublication}

def Carried (g : ActionGuard) (h : List GuardEvent) (k : ControlAuthorityTracker)
    (entry : OutboxEntry) : Prop :=
  ∃ s enqueuedAt pre message readyAt reading mid, k.state = some s ∧
    entry.enqueuedAtS = steadyNowSeconds enqueuedAt ∧
    Admitted g h entry.command s enqueuedAt pre message readyAt reading mid

structure Poised (g : ActionGuard) (h : List GuardEvent) (g' : ActionGuard) : Prop where
  gate : g'.authorityGateEnabled = true
  ttl : g'.downstreamWaitTimeoutS = g.downstreamWaitTimeoutS
  idle : g'.active = false → g'.outbox.pending = []
  carried : ∀ entry ∈ g'.outbox.pending, entry.command.isPriorityStop = false →
    entry.authorityGeneration = g'.authorityTracker.generation →
    Carried g h g'.authorityTracker entry

structure Guarded (g : ActionGuard) (h : List GuardEvent) (g' : ActionGuard) : Prop
    extends Poised g h g' where
  tagged : ∀ entry ∈ g'.outbox.pending, entry.command.isPriorityStop = false →
    entry.authorityGeneration = g'.authorityTracker.generation

theorem allowed_of_gate (hgate : g'.authorityGateEnabled = true) {now : ℤ} {generation : UInt64}
    (h : g'.allowedAuthorityGeneration now = some generation) :
    g'.authorityTracker.freshAutonomy now = true ∧ generation = g'.authorityTracker.generation := by
  rw [allowedAuthorityGeneration, if_neg (by simp [hgate])] at h
  split_ifs at h with hfresh
  exact ⟨hfresh, (Option.some.inj h).symm⟩

theorem Poised.flush (hp : Poised g h g') : Guarded g h (g'.flushOutbox reading).1 := by
  cases hactive : g'.active with
  | false =>
    rw [flush_idle hactive]
    exact ⟨hp, by simp [hp.idle hactive]⟩
  | true =>
    have hpasses : ∀ entry ∈ (g'.flushOutbox reading).1.outbox.pending,
        entry ∈ g'.outbox.pending ∧ g'.Passes reading entry :=
      fun entry hentry ↦ mem_flush_pending hactive hentry
    obtain ⟨outbox, hframe⟩ := flush_frame g' reading
    rw [hframe] at hpasses ⊢
    refine ⟨⟨hp.gate, hp.ttl, fun hidle ↦ absurd (hidle.symm.trans hactive) (by simp), ?_⟩, ?_⟩
    · intro entry hentry hordinary htag
      exact hp.carried entry (hpasses entry hentry).1 hordinary htag
    · intro entry hentry hordinary
      exact (allowed_of_gate hp.gate ((hpasses entry hentry).2.2 hordinary)).2

theorem Poised.published (hp : Poised g h g') (hc : .command c ∈ (g'.flushOutbox reading).2)
    (hordinary : c.isPriorityStop = false) :
    g'.authorityTracker.freshAutonomy reading.allowedAt = true ∧
      ∃ entry, entry.command = c ∧ Carried g h g'.authorityTracker entry ∧
        ¬ Double.max 0 g.downstreamWaitTimeoutS ≤
          (steadyNowSeconds reading.drainAt).sub entry.enqueuedAtS := by
  obtain ⟨entry, hentry, ⟨hyoung, hallowed⟩, rfl⟩ := mem_flush_command hc
  obtain ⟨hfresh, htag⟩ := allowed_of_gate hp.gate (hallowed hordinary)
  rw [hp.ttl] at hyoung
  exact ⟨hfresh, entry, rfl, hp.carried entry hentry hordinary htag, hyoung⟩

theorem Carried.extend (hc : Carried g h k entry)
    (hnot : ∀ s, k.state = some s → ¬ Crosses g s h e) : Carried g (h ++ [e]) k entry := by
  obtain ⟨s, enqueuedAt, pre, message, readyAt, reading, mid, hstate, henqueued, ha⟩ := hc
  refine ⟨s, enqueuedAt, pre, message, readyAt, reading, mid ++ [e], hstate, henqueued, ?_⟩
  have hsplit := ha.split
  have hcross := hnot s hstate
  rw [hsplit, List.append_cons] at hcross
  exact { ha with
    split := by rw [hsplit]; simp
    uncrossed := ha.uncrossed.snoc hcross }

theorem Carried.congr {k' : ControlAuthorityTracker} (hc : Carried g h k entry)
    (hstate : k'.state = k.state) : Carried g h k' entry := by
  obtain ⟨s, enqueuedAt, pre, message, readyAt, reading, mid, hs, hrest⟩ := hc
  exact ⟨s, enqueuedAt, pre, message, readyAt, reading, mid, hstate.trans hs, hrest⟩

theorem not_crosses (he : ∀ message receivedAt reading,
    e ≠ .authorityState message receivedAt reading) : ¬ Crosses g s h e := by
  rintro ⟨message, s', receivedAt, reading, heq, -⟩
  exact he message receivedAt reading heq

theorem accepted_crosses {message : ControlAuthorityState} {receivedAt : ℤ} (reading : FlushReading)
    (hdecoded : message.snapshot = some s)
    (hgeneration : ((run step g h).authorityTracker.update s receivedAt).1.generation =
      (run step g h).authorityTracker.generation)
    (haccepted : ((run step g h).authorityTracker.update s receivedAt).2.accepted = true) :
    (run step g h).authorityTracker.state = some s ∧
      ((run step g h).authorityTracker.update s receivedAt).1.state = some s ∧
      ¬ Crosses g s h (.authorityState message receivedAt reading) := by
  rcases ControlAuthorityTracker.update_effect (run step g h).authorityTracker s receivedAt with
    ⟨hrejected, -⟩ | ⟨-, -, hstate, -, hk⟩ | ⟨-, -, -, -, -, hnext⟩
  · cases hrejected.symm.trans haccepted
  · refine ⟨hstate, by rw [hk]; exact hstate, ?_⟩
    rintro ⟨_, s', _, _, ⟨⟩, hs', -, hne⟩
    rw [Option.some.inj (hdecoded.symm.trans hs')] at hne
    exact hne rfl
  · rw [hgeneration] at hnext
    exact absurd hnext (by grind)

theorem guarded_step (hi : Guarded g h (run step g h)) (ho : Outcome (run step g h) e out) :
    (Guarded g (h ++ [e]) out.1 ∧ ∀ c, .command c ∉ out.2) ∨
      ∃ g' reading, e.reading = some reading ∧ Poised g (h ++ [e]) g' ∧
        out = g'.flushOutbox reading := by
  have hkeep : ∀ {entry}, entry ∈ (run step g h).outbox.pending →
      entry.command.isPriorityStop = false →
      (∀ s, (run step g h).authorityTracker.state = some s → ¬ Crosses g s h e) →
      Carried g (h ++ [e]) (run step g h).authorityTracker entry := by
    intro entry hentry hordinary hnot
    exact (hi.carried entry hentry hordinary (hi.tagged entry hentry hordinary)).extend hnot
  cases ho with
  | ignored _ hrejected =>
    have hnot : ∀ s, ¬ Crosses g s h e := by
      rintro s ⟨message, s', receivedAt, reading, he, hs', haccepted, -⟩
      have hfalse := hrejected message receivedAt reading he s' hs'
      cases hfalse.symm.trans haccepted
    refine .inl ⟨⟨⟨hi.gate, hi.ttl, hi.idle, ?_⟩, hi.tagged⟩, by simp⟩
    intro entry hentry hordinary _
    exact hkeep hentry hordinary fun s _ ↦ hnot s
  | activated =>
    refine .inl ⟨⟨⟨hi.gate, hi.ttl, fun hidle ↦ (by cases hidle), ?_⟩, hi.tagged⟩, by simp⟩
    intro entry hentry hordinary _
    exact hkeep hentry hordinary fun s _ ↦ not_crosses (by simp)
  | deactivated =>
    refine .inl ⟨⟨⟨hi.gate, hi.ttl, fun _ ↦ rfl, ?_⟩, ?_⟩, by simp⟩
    · simp [GuardedCommandOutbox.clear]
    · simp [GuardedCommandOutbox.clear]
  | refused message readyAt enqueuedAt reading data =>
    refine .inl ⟨⟨⟨hi.gate, hi.ttl, hi.idle, ?_⟩, hi.tagged⟩, by simp⟩
    intro entry hentry hordinary _
    exact hkeep hentry hordinary fun s _ ↦ not_crosses (by simp)
  | authority message receivedAt reading s hdecoded haccepted =>
    refine .inr ⟨{ run step g h with
      authorityTracker := ((run step g h).authorityTracker.update s receivedAt).1 }, reading, rfl,
      ⟨hi.gate, hi.ttl, hi.idle, ?_⟩, rfl⟩
    intro entry hentry hordinary htag
    have hgeneration := htag.symm.trans (hi.tagged entry hentry hordinary)
    obtain ⟨hold, hnew, hnot⟩ := accepted_crosses reading hdecoded hgeneration haccepted
    refine (hkeep hentry hordinary fun s' hs' ↦ ?_).congr (hnew.trans hold.symm)
    rwa [← Option.some.inj (hold.symm.trans hs')]
  | admitted message readyAt enqueuedAt reading c hactive hvalid hvalidated hallowed hbuffered =>
    refine .inr ⟨{ run step g h with
      commandSequence := (run step g h).commandSequence + 1
      outbox := ((run step g h).outbox.enqueue c (steadyNowSeconds enqueuedAt)
        (run step g h).authorityGeneration).1 }, reading, rfl, ⟨hi.gate, hi.ttl,
        fun hidle ↦ absurd (hidle.symm.trans hactive) (by simp), ?_⟩, rfl⟩
    intro entry hentry hordinary _
    rcases GuardedCommandOutbox.mem_pending_enqueue hentry with hold | ⟨rfl, -⟩
    · exact hkeep hold hordinary fun s _ ↦ not_crosses (by simp)
    · rw [hi.gate, hordinary] at hallowed
      obtain ⟨hfresh, howner⟩ := evaluateActionAuthority_allow hallowed
      obtain ⟨s, -, hstate, -⟩ := ControlAuthorityTracker.fresh_iff_exists.mp hfresh
      have hautonomy : (run step g h).authorityTracker.freshAutonomy readyAt = true := by
        simp [ControlAuthorityTracker.freshAutonomy, hfresh, howner]
      exact ⟨s, enqueuedAt, h, message, readyAt, reading, [], hstate, rfl,
        ⟨rfl, hvalid, hvalidated, hstate, hautonomy, hbuffered, quiet_nil⟩⟩
  | flushed reading =>
    refine .inr ⟨_, reading, rfl, ⟨hi.gate, hi.ttl, hi.idle, ?_⟩, rfl⟩
    intro entry hentry hordinary _
    exact hkeep hentry hordinary fun s _ ↦ not_crosses (by simp)

theorem configure_spec {parameters : ActionGuardParameters} (hg : configure parameters = some g) :
    g.authorityGateEnabled = parameters.authorityGateEnabled ∧ g.downstreamWaitTimeoutS =
        Double.max (.ofRat (1 / 10)) parameters.downstreamWaitTimeoutS ∧ g.outbox.pending = [] := by
  unfold configure at hg
  split at hg
  · cases hg
  · split at hg
    · cases hg
    · cases hg
      exact ⟨rfl, rfl, rfl⟩

theorem guarded_run (hgate : g.authorityGateEnabled = true) (hempty : g.outbox.pending = [])
    (h : List GuardEvent) : Guarded g h (run step g h) := by
  refine run_induction step ⟨⟨hgate, rfl, fun _ ↦ hempty, by simp [hempty]⟩, by simp [hempty]⟩ ?_ h
  intro h e hi
  rcases guarded_step hi (step_outcome _ e) with ⟨hnext, -⟩ | ⟨g', reading, -, hp, hout⟩
  · exact hnext
  · rw [hout]
    exact hp.flush

theorem lt_ttl {parameter : Double} {now enqueuedAt : Int64}
    (hyoung : ¬ Double.max 0 (Double.max (.ofRat (1 / 10)) parameter) ≤
      (steadyNowSeconds now).sub (steadyNowSeconds enqueuedAt)) :
    (steadyNowSeconds now).sub (steadyNowSeconds enqueuedAt) <
      Double.max (.ofRat (1 / 10)) parameter := by
  have htenth : (0 : Double) < .ofRat (1 / 10) := by decide +kernel
  have hpos : 0 < Double.max (.ofRat (1 / 10)) parameter := by
    unfold Double.max
    split_ifs with hlarger
    · exact Double.lt_trans htenth hlarger
    · exact htenth
  rw [Double.max, if_pos hpos] at hyoung
  obtain ⟨a, ha, hnow⟩ := durationSeconds_finite now
  obtain ⟨b, hb, hthen⟩ := durationSeconds_finite enqueuedAt
  rw [steadyNowSeconds, steadyNowSeconds, hnow, hthen, Double.sub_finite] at hyoung ⊢
  exact Double.lt_of_not_le (Double.ne_nan_of_lt hpos) (Double.ofRat_ne_nan _) hyoung

theorem no_action_crosses_generation (parameters : ActionGuardParameters)
    (hg : configure parameters = some g) (hgate : parameters.authorityGateEnabled = true)
    (h : List GuardEvent) (e : GuardEvent) (c : RobotCommand)
    (hc : .command c ∈ ((run step g h).step e).2) (hordinary : c.isPriorityStop = false) :
    ∃ published, e.reading = some published ∧ Authorized g (h ++ [e])
      (Double.max (.ofRat (1 / 10)) parameters.downstreamWaitTimeoutS) published c := by
  obtain ⟨henabled, httl, hempty⟩ := configure_spec hg
  have hi := guarded_run (henabled.trans hgate) hempty h
  rcases guarded_step hi (step_outcome _ e) with ⟨-, hsilent⟩ | ⟨g', published, hread, hp, hout⟩
  · exact absurd hc (hsilent c)
  obtain ⟨outbox, hframe⟩ := flush_frame g' published
  rw [hout] at hc
  obtain ⟨hfresh, entry, rfl, hcarried, hyoung⟩ := hp.published hc hordinary
  obtain ⟨s, enqueuedAt, pre, message, readyAt, reading, mid, hstate, henqueued, ha⟩ := hcarried
  rw [henqueued, httl] at hyoung
  refine ⟨published, hread, s, enqueuedAt, pre, message, readyAt, reading, mid, ha, ?_, ?_,
    lt_ttl hyoung⟩
  · rw [run_snoc, hout, hframe]
    exact hstate
  · rw [run_snoc, hout, hframe]
    exact hfresh

/-- The scheduler is not there yet when the command is accepted, and is at the next tick. -/
def bufferedRun : List GuardEvent :=
  [.activate,
    .authorityState
      { authority := ControlAuthorityState.autonomy, managerEpoch := 7, transitionSequence := 1,
        activeSource := "autonomy" } 0 ⟨false, 10, 20⟩,
    .candidate
      { commandId := "move-1", actionType := RobotCommand.move, linearX := .ofRat (1 / 4),
        durationS := .ofRat 1 } 1000 2000 ⟨false, 3000, 4000⟩]

theorem no_action_crosses_generation_buffered : ∃ published,
    (GuardEvent.timer ⟨true, 50000000, 50001000⟩).reading = some published ∧ Authorized
        { downstreamWaitTimeoutS := .ofRat 3
          authorityGateEnabled := true
          authorityTracker := { lease := 1000, lease_pos := by decide }
          outbox := .create 32 }
        (bufferedRun ++ [.timer ⟨true, 50000000, 50001000⟩])
        (Double.max (.ofRat (1 / 10)) (.ofRat 3)) published
        { commandId := "move-1", source := "agent", actionType := RobotCommand.move,
          linearX := .ofRat (1 / 4), durationS := .ofRat 1 } :=
  no_action_crosses_generation { authorityGateEnabled := true }
    (by decide +kernel) rfl bufferedRun _
    _ (by decide +kernel) rfl

end EmbodiedAgent.ActionGuard
