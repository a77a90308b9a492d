import EmbodiedAgent.Slam.AgentActionGateway

namespace EmbodiedAgent.Slam

open Library Library.History

def GatewayPhase.Locked : GatewayPhase → Prop
  | .calling | .ended => False
  | _ => True

def GatewayPhase.Baselined : GatewayPhase → Prop
  | .publishing _ _ _ | .awaitingCandidate _ _ _ | .awaitingResult _ _ _ => True
  | _ => False

def GatewayPhase.resultBaseline? : GatewayPhase → Option ℕ
  | .publishing _ baseline _ | .awaitingCandidate _ baseline _ | .awaitingResult _ baseline _ =>
    some baseline
  | _ => none

theorem GatewayPhase.baselined_iff {phase : GatewayPhase} :
    phase.Baselined ↔ ∃ baseline, phase.resultBaseline? = some baseline := by
  cases phase <;> simp [Baselined, resultBaseline?]

theorem GatewayPhase.Baselined.locked {phase : GatewayPhase} (h : phase.Baselined) :
    phase.Locked := by
  cases phase <;> trivial

namespace AgentActionGateway

variable {s : AgentActionGateway} {i j : ℕ} {caller : GatewayCaller} {moment : GatewayMoment}
  {event : GatewayEvent} {candidateBaseline resultBaseline : ℕ} {deadline : Double}
  {commandId : String} {outcome : AgentActionOutcome}

inductive Next (s : AgentActionGateway) (caller : GatewayCaller) : GatewayPhase → Prop
  | baselines {deadline : Double} (hphase : caller.phase = .starting deadline) :
      Next s caller (.publishing s.candidateGeneration s.resultGeneration deadline)
  | text {candidateBaseline resultBaseline : ℕ} {deadline : Double}
      (hphase : caller.phase = .publishing candidateBaseline resultBaseline deadline) :
      Next s caller (.awaitingCandidate candidateBaseline resultBaseline deadline)
  | typed {candidateBaseline resultBaseline : ℕ} {deadline : Double} {commandId name : String}
      {timeoutS : Double}
      (hphase : caller.phase = .publishing candidateBaseline resultBaseline deadline)
      (hcall : caller.call = .runTyped commandId name timeoutS) :
      Next s caller (.awaitingResult commandId resultBaseline deadline)
  | candidate {candidateBaseline resultBaseline : ℕ} {deadline : Double}
      {candidate : GatewayCandidate}
      (hphase : caller.phase = .awaitingCandidate candidateBaseline resultBaseline deadline)
      (hcandidate : s.candidateFor candidateBaseline caller.call = some candidate) :
      Next s caller (.awaitingResult candidate.commandId resultBaseline deadline)

def Finds (s : AgentActionGateway) (caller : GatewayCaller) (outcome : AgentActionOutcome) : Prop :=
  ∃ commandId baseline deadline generation,
    caller.phase = .awaitingResult commandId baseline deadline ∧
    s.results.find commandId = some (generation, outcome) ∧ baseline < generation

/-- What a pass of call `i` does. -/
inductive Passes (s : AgentActionGateway) (i : ℕ) (caller : GatewayCaller) :
    AgentActionGateway × List GatewayOutput → Prop
  | stays : Passes s i caller (s, [])
  | locks (deadline : Double) (hphase : caller.phase = .calling) (hlock : s.runLock = none) :
      Passes s i caller ({ s.goto i caller (.starting deadline) with runLock := some i }, [])
  | goes (phase : GatewayPhase) (out : List GatewayOutput) (hnext : Next s caller phase)
      (hout : ∀ j result, .returned j result ∉ out) : Passes s i caller (s.goto i caller phase, out)
  | leaves (results : RecencyMap String (ℕ × AgentActionOutcome) 128) (out : List GatewayOutput)
      (hlocked : caller.phase.Locked)
      (hresults : ∀ entry ∈ results.entries, entry ∈ s.results.entries)
      (hout : ∀ j outcome, .returned j (.ok (some outcome)) ∈ out →
        j = i ∧ Finds s caller outcome) :
      Passes s i caller
        ({ s with
            results
            runLock := none
            callers := s.callers.set i { caller with phase := .ended } }, out)

theorem leave_passes (hlocked : caller.phase.Locked) (error : GatewayError) :
    Passes s i caller (s.leave i caller (.error error)) :=
  .leaves s.results _ hlocked (fun _ ↦ id) fun j outcome hmem ↦ by simp at hmem

theorem raiseIfCanceled_passes (hlocked : caller.phase.Locked)
    {pass : AgentActionGateway × List GatewayOutput} (hpass : Passes s i caller pass) :
    Passes s i caller (s.raiseIfCanceled i caller moment pass) := by
  rw [raiseIfCanceled]
  split_ifs
  · cases moment.raised with
    | some text => exact leave_passes hlocked _
    | none => exact .leaves s.results _ hlocked (fun _ ↦ id) fun j outcome hmem ↦ by simp at hmem
  · exact hpass

theorem start_passes (hphase : caller.phase = .starting deadline) :
    Passes s i caller (s.start i caller moment deadline) := by
  have hlocked : caller.phase.Locked := by rw [hphase]; trivial
  have hpublishing : Passes s i caller
      (s.goto i caller (.publishing s.candidateGeneration s.resultGeneration deadline), []) :=
    .goes _ [] (.baselines hphase) fun _ _ ↦ List.not_mem_nil
  unfold start
  cases caller.call with
  | runTyped => exact hpublishing
  | run =>
    split_ifs
    · exact raiseIfCanceled_passes hlocked (leave_passes hlocked _)
    · exact raiseIfCanceled_passes hlocked .stays
    · exact hpublishing

theorem publish_passes
    (hphase : caller.phase = .publishing candidateBaseline resultBaseline deadline) :
    Passes s i caller (s.publish i caller moment candidateBaseline resultBaseline deadline) := by
  unfold publish
  cases moment.raised with
  | some text => exact leave_passes (by rw [hphase]; trivial) _
  | none =>
    cases hcall : caller.call with
    | run => exact .goes _ _ (.text hphase) fun _ _ hmem ↦ by simp at hmem
    | runTyped => exact .goes _ _ (.typed hphase hcall) fun _ _ hmem ↦ by simp at hmem

theorem waitForCandidate_passes
    (hphase : caller.phase = .awaitingCandidate candidateBaseline resultBaseline deadline) :
    Passes s i caller
      (s.waitForCandidate i caller moment candidateBaseline resultBaseline deadline) := by
  have hlocked : caller.phase.Locked := by rw [hphase]; trivial
  refine raiseIfCanceled_passes hlocked ?_
  cases hcandidate : s.candidateFor candidateBaseline caller.call with
  | some candidate =>
    exact .goes _ [] (.candidate hphase hcandidate) fun _ _ ↦ List.not_mem_nil
  | none =>
    split_ifs
    · exact leave_passes hlocked _
    · exact .stays

theorem waitForResult_passes
    (hphase : caller.phase = .awaitingResult commandId resultBaseline deadline) :
    Passes s i caller (s.waitForResult i caller moment commandId resultBaseline deadline) := by
  have hlocked : caller.phase.Locked := by rw [hphase]; trivial
  refine raiseIfCanceled_passes hlocked ?_
  cases hrecorded :
      (s.results.find commandId).filter fun recorded ↦ resultBaseline < recorded.1 with
  | some recorded =>
    obtain ⟨hfind, hlt⟩ := Option.filter_eq_some_iff.mp hrecorded
    refine .leaves (s.results.pop commandId) _ hlocked (fun _ ↦ RecencyMap.mem_pop)
      fun j outcome hmem ↦ ?_
    rw [List.mem_singleton, GatewayOutput.returned.injEq, resultOf] at hmem
    split_ifs at hmem
    · obtain ⟨rfl, hresult⟩ := hmem
      obtain rfl : outcome = recorded.2 := by simpa using hresult
      exact ⟨rfl, commandId, resultBaseline, deadline, recorded.1, hphase, hfind,
        of_decide_eq_true hlt⟩
    · exact nomatch hmem.2
  | none =>
    split_ifs
    · exact leave_passes hlocked _
    · exact .stays

theorem advance_passes (hcaller : s.callers[i]? = some caller) :
    Passes s i caller (s.advance i moment) := by
  rw [advance, hcaller]
  dsimp only
  cases hphase : caller.phase with
  | calling =>
    split_ifs with hlock
    · exact .locks _ hphase hlock
    · exact .stays
  | starting deadline => exact start_passes hphase
  | publishing candidateBaseline resultBaseline deadline => exact publish_passes hphase
  | awaitingCandidate candidateBaseline resultBaseline deadline =>
    exact waitForCandidate_passes hphase
  | awaitingResult commandId baseline deadline => exact waitForResult_passes hphase
  | ended => exact .stays

theorem enter_eq (s : AgentActionGateway) (call : GatewayCall) :
    ∃ phase out, s.enter call = ({ s with callers := s.callers ++ [⟨call, phase⟩] }, out) ∧
      ¬ phase.Locked ∧ ∀ j outcome, .returned j (.ok (some outcome)) ∉ out := by
  cases call with
  | run =>
    rw [enter]
    split_ifs
    · exact ⟨.ended, _, rfl, id, fun j outcome hmem ↦ by simp at hmem⟩
    · exact ⟨.calling, _, rfl, id, fun j outcome ↦ List.not_mem_nil⟩
  | runTyped =>
    rw [enter]
    split_ifs
    · exact ⟨.ended, _, rfl, id, fun j outcome hmem ↦ by simp at hmem⟩
    · exact ⟨.ended, _, rfl, id, fun j outcome hmem ↦ by simp at hmem⟩
    · exact ⟨.calling, _, rfl, id, fun j outcome ↦ List.not_mem_nil⟩

def recorded? : GatewayEvent → Option String
  | .recordResult commandId _ => if commandId = "" then none else some commandId
  | _ => none

/-- What a section leaves, and hands out. -/
inductive Steps (s : AgentActionGateway) :
    GatewayEvent → AgentActionGateway × List GatewayOutput → Prop
  | idle {event : GatewayEvent} (hquiet : recorded? event = none) : Steps s event (s, [])
  | enters {call : GatewayCall} {phase : GatewayPhase} {out : List GatewayOutput}
      (hunlocked : ¬ phase.Locked) (hout : ∀ j outcome, .returned j (.ok (some outcome)) ∉ out) :
      Steps s (.call call) ({ s with callers := s.callers ++ [⟨call, phase⟩] }, out)
  | advances {i : ℕ} {caller : GatewayCaller} {moment : GatewayMoment}
      {after : AgentActionGateway × List GatewayOutput} (hcaller : s.callers[i]? = some caller)
      (hpasses : Passes s i caller after) : Steps s (.advance i moment) after
  | candidate (origin : Option String) (actionType : ℤ) (commandId : String) :
      Steps s (.recordCandidate origin actionType commandId)
        ({ s with
            candidateGeneration := s.candidateGeneration + 1
            candidates := List.rtake
              (s.candidates ++ [⟨s.candidateGeneration + 1, actionType, commandId⟩]) 64 }, [])
  | result {commandId : String} (outcome : AgentActionOutcome) (hne : commandId ≠ "") :
      Steps s (.recordResult commandId outcome)
        ({ s with
            resultGeneration := s.resultGeneration + 1
            results := s.results.record commandId (s.resultGeneration + 1, outcome) }, [])

theorem step_steps (s : AgentActionGateway) (event : GatewayEvent) :
    Steps s event (step s event) := by
  cases event with
  | call call =>
    obtain ⟨phase, out, henter, hunlocked, hout⟩ := enter_eq s call
    rw [step, henter]
    exact .enters hunlocked hout
  | advance i moment =>
    cases hcaller : s.callers[i]? with
    | none =>
      rw [step, advance, hcaller]
      exact .idle rfl
    | some caller => exact .advances hcaller (advance_passes hcaller)
  | recordCandidate origin actionType commandId =>
    rw [step, recordCandidate]
    split_ifs
    · exact .idle rfl
    · exact .candidate origin actionType commandId
  | recordResult commandId outcome =>
    rw [step, recordResult]
    split_ifs with hempty
    · exact .idle (if_pos hempty)
    · exact .result outcome hempty

theorem step_counts (s : AgentActionGateway) (event : GatewayEvent) :
    s.candidateGeneration ≤ (step s event).1.candidateGeneration ∧
      s.resultGeneration ≤ (step s event).1.resultGeneration := by
  have hsteps := s.step_steps event
  generalize step s event = after at hsteps ⊢
  cases hsteps with
  | idle | enters => exact ⟨le_rfl, le_rfl⟩
  | advances hcaller hpasses => cases hpasses <;> exact ⟨le_rfl, le_rfl⟩
  | candidate => exact ⟨Nat.le_succ _, le_rfl⟩
  | result => exact ⟨le_rfl, Nat.le_succ _⟩

theorem run_counts (s : AgentActionGateway) (h : List GatewayEvent) :
    s.candidateGeneration ≤ (run step s h).candidateGeneration ∧
      s.resultGeneration ≤ (run step s h).resultGeneration :=
  run_preserves step (I := fun s' ↦ s.candidateGeneration ≤ s'.candidateGeneration ∧
    s.resultGeneration ≤ s'.resultGeneration) (fun s' event h ↦ by
      obtain ⟨hcandidates, hresults⟩ := step_counts s' event
      exact ⟨h.1.trans hcandidates, h.2.trans hresults⟩) ⟨le_rfl, le_rfl⟩ h

theorem mem_of_count_lt (count : List GatewayEvent → ℕ)
    (hmono : ∀ h h', count h ≤ count (h ++ h')) {before later pre post : List GatewayEvent}
    (hsplit : before ++ later = pre ++ event :: post)
    (hlt : count before < count (pre ++ [event])) :
    event ∈ later := by
  rcases List.append_eq_append_iff.mp hsplit with ⟨mid, rfl, rfl⟩ | ⟨mid, rfl, hrest⟩
  · simp
  · cases mid with
    | nil =>
      rw [List.nil_append] at hrest
      exact hrest ▸ List.mem_cons_self ..
    | cons first mid =>
      obtain ⟨rfl, -⟩ := List.cons.inj hrest
      have hle := hmono (pre ++ [event]) mid
      rw [List.append_assoc, List.singleton_append] at hle
      exact absurd hlt hle.not_gt

def Names (later : List GatewayEvent) (commandId : String) : GatewayCall → Prop
  | .run _ expectedType _ _ => ∃ origin, .recordCandidate origin expectedType commandId ∈ later
  | .runTyped expectedId _ _ => commandId = expectedId

structure Since (start : AgentActionGateway) (h : List GatewayEvent) (i : ℕ) (call : GatewayCall)
    (resultBaseline : ℕ) (before later : List GatewayEvent) : Prop where
  split : h = before ++ later
  about : ∃ candidateBaseline deadline,
    (run step start before).callers[i]? =
      some ⟨call, .publishing candidateBaseline resultBaseline deadline⟩
  results : (run step start before).resultGeneration = resultBaseline

def Placed (start : AgentActionGateway) (h : List GatewayEvent) (i : ℕ) (caller : GatewayCaller) :
    Prop :=
  match caller.phase with
  | .publishing candidateBaseline resultBaseline _
  | .awaitingCandidate candidateBaseline resultBaseline _ => ∃ before later,
    Since start h i caller.call resultBaseline before later ∧
      (run step start before).candidateGeneration = candidateBaseline
  | .awaitingResult commandId resultBaseline _ => ∃ before later,
    Since start h i caller.call resultBaseline before later ∧ Names later commandId caller.call
  | _ => True

variable {start : AgentActionGateway} {h before later : List GatewayEvent} {call : GatewayCall}

theorem Since.snoc (hs : Since start h i call resultBaseline before later)
    (event : GatewayEvent) :
    Since start (h ++ [event]) i call resultBaseline before (later ++ [event]) :=
  ⟨by rw [hs.split, List.append_assoc], hs.about, hs.results⟩

theorem Names.snoc (hn : Names later commandId call) (event : GatewayEvent) :
    Names (later ++ [event]) commandId call := by
  cases call with
  | run =>
    obtain ⟨origin, hmem⟩ := hn
    exact ⟨origin, List.mem_append_left _ hmem⟩
  | runTyped => exact hn

theorem Placed.snoc (hp : Placed start h i caller) (event : GatewayEvent) :
    Placed start (h ++ [event]) i caller := by
  obtain ⟨call, phase⟩ := caller
  cases phase with
  | publishing | awaitingCandidate =>
    obtain ⟨before, later, hsince, hcandidates⟩ := hp
    exact ⟨before, later ++ [event], hsince.snoc event, hcandidates⟩
  | awaitingResult =>
    obtain ⟨before, later, hsince, hnames⟩ := hp
    exact ⟨before, later ++ [event], hsince.snoc event, hnames.snoc event⟩
  | calling | starting | ended => trivial

structure Traced (start : AgentActionGateway) (h : List GatewayEvent) : Prop where
  candidates : ∀ candidate ∈ (run step start h).candidates, ∃ pre post origin,
    h = pre ++ .recordCandidate origin candidate.actionType candidate.commandId :: post ∧
    candidate.generation = (run step start (pre ++ [.recordCandidate origin candidate.actionType
      candidate.commandId])).candidateGeneration
  results : ∀ entry ∈ (run step start h).results.entries, ∃ pre post,
    h = pre ++ .recordResult entry.1 entry.2.2 :: post ∧
    entry.2.1 = (run step start (pre ++ [.recordResult entry.1 entry.2.2])).resultGeneration
  callers : ∀ i caller, (run step start h).callers[i]? = some caller → Placed start h i caller

theorem traced_create (dryRun : Bool) : Traced (create dryRun) [] where
  candidates candidate hmem := absurd hmem List.not_mem_nil
  results entry hmem := absurd hmem List.not_mem_nil
  callers i caller hget := by simp [create] at hget

theorem candidates_step {candidate : GatewayCandidate}
    (hmem : candidate ∈ (step s event).1.candidates) :
    candidate ∈ s.candidates ∨
      ∃ origin, event = .recordCandidate origin candidate.actionType candidate.commandId ∧
        candidate.generation = (step s event).1.candidateGeneration := by
  have hsteps := s.step_steps event
  generalize step s event = after at hsteps hmem ⊢
  cases hsteps with
  | idle | enters | result => exact .inl hmem
  | advances hcaller hpasses => cases hpasses <;> exact .inl hmem
  | candidate origin =>
    rcases List.mem_append.mp (List.mem_of_mem_drop hmem) with hold | hnew
    · exact .inl hold
    · rw [List.mem_singleton] at hnew
      subst hnew
      exact .inr ⟨origin, rfl, rfl⟩

theorem results_step {entry : String × ℕ × AgentActionOutcome}
    (hmem : entry ∈ (step s event).1.results.entries) :
    entry ∈ s.results.entries ∨
      event = .recordResult entry.1 entry.2.2 ∧
        entry.2.1 = (step s event).1.resultGeneration := by
  have hsteps := s.step_steps event
  generalize step s event = after at hsteps hmem ⊢
  cases hsteps with
  | idle | enters | candidate => exact .inl hmem
  | advances hcaller hpasses =>
    cases hpasses with
    | stays | locks | goes => exact .inl hmem
    | leaves results out hlocked hresults => exact .inl (hresults entry hmem)
  | result =>
    rcases RecencyMap.mem_record hmem with hold | rfl
    · exact .inl hold
    · exact .inr ⟨rfl, rfl⟩

theorem callers_step (hget : (step s event).1.callers[i]? = some caller)
    (hphase : caller.phase.Baselined) :
    s.callers[i]? = some caller ∨
      ∃ before, s.callers[i]? = some before ∧ before.call = caller.call ∧
        Next s before caller.phase ∧ (step s event).1 = s.goto i before caller.phase := by
  have hsteps := s.step_steps event
  generalize step s event = after at hsteps hget ⊢
  cases hsteps with
  | idle | candidate | result => exact .inl hget
  | enters hunlocked =>
    rw [List.getElem?_append] at hget
    split_ifs at hget with hlt
    · exact .inl hget
    · rw [List.mem_singleton.mp (List.mem_of_getElem? hget)] at hphase
      exact absurd hphase.locked hunlocked
  | @advances j before moment after hcaller hpasses =>
    cases hpasses with
    | stays => exact .inl hget
    | locks deadline =>
      rw [goto, List.getElem?_set] at hget
      split_ifs at hget with hij
      · cases hget
        exact absurd hphase id
      · exact .inl hget
    | goes phase out hnext =>
      dsimp only [goto] at hget
      rw [List.getElem?_set] at hget
      split_ifs at hget with hij
      · subst hij
        cases hget
        exact .inr ⟨before, hcaller, rfl, hnext, rfl⟩
      · exact .inl hget
    | leaves results out =>
      rw [List.getElem?_set] at hget
      split_ifs at hget with hij
      · cases hget
        exact absurd hphase id
      · exact .inl hget

theorem names_of_candidateFor {candidate : GatewayCandidate} (ht : Traced start h)
    (hsince : Since start h i call resultBaseline before later)
    (hcount : (run step start before).candidateGeneration = candidateBaseline)
    (hcandidate : (run step start h).candidateFor candidateBaseline call = some candidate) :
    Names later candidate.commandId call := by
  cases call with
  | runTyped => cases hcandidate
  | run text expectedType name timeoutS =>
    have hmatches := List.find?_some hcandidate
    simp only [decide_eq_true_eq] at hmatches
    obtain ⟨hlt, rfl⟩ := hmatches
    obtain ⟨pre, post, origin, hsplit, hgeneration⟩ :=
      ht.candidates candidate (List.mem_of_find?_eq_some hcandidate)
    rw [hgeneration, ← hcount] at hlt
    refine ⟨origin, mem_of_count_lt (fun h ↦ (run step start h).candidateGeneration)
      (fun h h' ↦ ?_) (hsince.split.symm.trans hsplit) hlt⟩
    rw [run_append]
    exact (run_counts _ h').1

theorem Next.placed {caller' : GatewayCaller} (ht : Traced start h)
    (hcaller : (run step start h).callers[i]? = some caller)
    (hnext : Next (run step start h) caller caller'.phase) (hcall : caller.call = caller'.call)
    (hget : (run step start (h ++ [event])).callers[i]? = some caller')
    (hcandidates : (run step start (h ++ [event])).candidateGeneration =
      (run step start h).candidateGeneration)
    (hresults : (run step start (h ++ [event])).resultGeneration =
      (run step start h).resultGeneration) : Placed start (h ++ [event]) i caller' := by
  have hplaced := ht.callers i caller hcaller
  obtain ⟨call, phase⟩ := caller
  obtain ⟨call', phase'⟩ := caller'
  obtain rfl : call = call' := hcall
  cases hnext with
  | baselines hphase =>
    exact ⟨h ++ [event], [], ⟨by rw [List.append_nil], ⟨_, _, hget⟩, hresults⟩, hcandidates⟩
  | text hphase =>
    obtain rfl : phase = _ := hphase
    exact hplaced.snoc event
  | typed hphase hcall =>
    obtain rfl : phase = _ := hphase
    obtain rfl : call = _ := hcall
    obtain ⟨before, later, hsince, -⟩ := hplaced
    exact ⟨before, later ++ [event], hsince.snoc event, rfl⟩
  | candidate hphase hcandidate =>
    obtain rfl : phase = _ := hphase
    obtain ⟨before, later, hsince, hcount⟩ := hplaced
    exact ⟨before, later ++ [event], hsince.snoc event,
      (names_of_candidateFor ht hsince hcount hcandidate).snoc event⟩

theorem Traced.snoc (ht : Traced start h) (event : GatewayEvent) : Traced start (h ++ [event]) := by
  refine ⟨fun candidate hmem ↦ ?_, fun entry hmem ↦ ?_, fun i caller hget ↦ ?_⟩
  · rw [run_snoc] at hmem
    rcases candidates_step hmem with hold | ⟨origin, rfl, hgeneration⟩
    · obtain ⟨pre, post, origin, hsplit, hgeneration⟩ := ht.candidates candidate hold
      exact ⟨pre, post ++ [event], origin, by rw [hsplit]; simp, hgeneration⟩
    · exact ⟨h, [], origin, rfl, by rw [run_snoc]; exact hgeneration⟩
  · rw [run_snoc] at hmem
    rcases results_step hmem with hold | ⟨rfl, hgeneration⟩
    · obtain ⟨pre, post, hsplit, hgeneration⟩ := ht.results entry hold
      exact ⟨pre, post ++ [event], by rw [hsplit]; simp, hgeneration⟩
    · exact ⟨h, [], rfl, by rw [run_snoc]; exact hgeneration⟩
  · by_cases hbaselined : caller.phase.Baselined
    · have hget' := hget
      rw [run_snoc] at hget
      rcases callers_step hget hbaselined with hold | ⟨before, hbefore, hcall, hnext, hstep⟩
      · exact (ht.callers i caller hold).snoc event
      · refine hnext.placed ht hbefore hcall hget' ?_ ?_ <;> rw [run_snoc, hstep, goto]
    · obtain ⟨call, phase⟩ := caller
      cases phase with
      | calling | starting | ended => trivial
      | publishing | awaitingCandidate | awaitingResult => exact absurd trivial hbaselined

theorem run_traced (dryRun : Bool) (h : List GatewayEvent) : Traced (create dryRun) h := by
  induction h using List.reverseRecOn with
  | nil => exact traced_create dryRun
  | append_singleton h event ih => exact ih.snoc event

theorem finds_of_returned (hmem : .returned i (.ok (some outcome)) ∈ (step s event).2) :
    ∃ caller, s.callers[i]? = some caller ∧ Finds s caller outcome := by
  have hsteps := s.step_steps event
  generalize step s event = after at hsteps hmem
  cases hsteps with
  | idle | candidate | result => exact absurd hmem List.not_mem_nil
  | enters hunlocked hout => exact absurd hmem (hout i outcome)
  | @advances j caller moment after hcaller hpasses =>
    cases hpasses with
    | stays | locks => exact absurd hmem List.not_mem_nil
    | goes phase out hnext hout => exact absurd hmem (hout i _)
    | leaves results out hlocked hresults hout =>
      obtain ⟨rfl, hfinds⟩ := hout i outcome hmem
      exact ⟨caller, hcaller, hfinds⟩

def Associated (start : AgentActionGateway) (h : List GatewayEvent) (i : ℕ) (call : GatewayCall)
    (outcome : AgentActionOutcome) : Prop :=
  ∃ resultBaseline before later commandId, Since start h i call resultBaseline before later ∧
    Names later commandId call ∧ .recordResult commandId outcome ∈ later

theorem associated_of_finds (ht : Traced start h)
    (hcaller : (run step start h).callers[i]? = some caller)
    (hfinds : Finds (run step start h) caller outcome) :
    Associated start h i caller.call outcome := by
  obtain ⟨commandId, resultBaseline, deadline, generation, hphase, hfind, hlt⟩ := hfinds
  have hplaced := ht.callers i caller hcaller
  obtain ⟨call, phase⟩ := caller
  obtain rfl : phase = _ := hphase
  obtain ⟨before, later, hsince, hnames⟩ := hplaced
  obtain ⟨pre, post, hsplit, hgeneration⟩ := ht.results _ (RecencyMap.mem_of_find hfind)
  refine ⟨resultBaseline, before, later, commandId, hsince, hnames, ?_⟩
  dsimp only at hgeneration
  rw [hgeneration, ← hsince.results] at hlt
  refine mem_of_count_lt (fun h ↦ (run step start h).resultGeneration) (fun h h' ↦ ?_)
    (hsince.split.symm.trans hsplit) hlt
  rw [run_append]
  exact (run_counts _ h').2

def Guarded (s : AgentActionGateway) : Prop :=
  ∀ i caller, s.callers[i]? = some caller → caller.phase.Locked → s.runLock = some i

theorem Next.locked {phase : GatewayPhase} (h : Next s caller phase) : caller.phase.Locked := by
  cases h with
  | baselines hphase | text hphase | typed hphase | candidate hphase => rw [hphase]; trivial

theorem Guarded.step (hs : s.Guarded) (event : GatewayEvent) : (step s event).1.Guarded := by
  intro j caller hget hlocked
  have hsteps := s.step_steps event
  generalize AgentActionGateway.step s event = after at hsteps hget ⊢
  cases hsteps with
  | idle | candidate | result => exact hs j caller hget hlocked
  | enters hunlocked =>
    rw [List.getElem?_append] at hget
    split_ifs at hget with hlt
    · exact hs j caller hget hlocked
    · rw [List.mem_singleton.mp (List.mem_of_getElem? hget)] at hlocked
      exact absurd hlocked hunlocked
  | @advances i before moment after hcaller hpasses =>
    cases hpasses with
    | stays => exact hs j caller hget hlocked
    | locks deadline hphase hlock =>
      dsimp only [goto] at hget
      rw [List.getElem?_set] at hget
      split_ifs at hget with hij
      · rw [hij]
      · cases hlock.symm.trans (hs j caller hget hlocked)
    | goes phase out hnext =>
      have hown := hs i before hcaller hnext.locked
      dsimp only [goto] at hget
      rw [List.getElem?_set] at hget
      split_ifs at hget with hij
      · exact hij ▸ hown
      · exact hs j caller hget hlocked
    | leaves results out hlocked' =>
      rw [List.getElem?_set] at hget
      split_ifs at hget with hij
      · cases hget
        exact hlocked.elim
      · have hother := hs j caller hget hlocked
        exact absurd (Option.some.inj ((hs i before hcaller hlocked').symm.trans hother)) hij

theorem run_guarded (dryRun : Bool) (h : List GatewayEvent) :
    (run step (create dryRun) h).Guarded :=
  run_preserves step (I := Guarded) (fun _ event hs ↦ hs.step event)
    (fun i caller hget ↦ by simp [create] at hget) h

def newer (h : List GatewayEvent) : Finset String := (h.filterMap recorded?).toFinset

def Holding (s : AgentActionGateway) (i baseline : ℕ) (commandId : String)
    (value : ℕ × AgentActionOutcome) (ids : Finset String) : Prop :=
  ∃ caller, s.callers[i]? = some caller ∧
    (caller.phase = .ended ∨
      caller.phase.resultBaseline? = some baseline ∧ s.results.Recent commandId value ids)

variable {baseline : ℕ} {value : ℕ × AgentActionOutcome} {ids : Finset String}

theorem Next.keeps_baseline {phase : GatewayPhase} (h : Next s caller phase)
    (hbaseline : caller.phase.resultBaseline? = some baseline) :
    phase.resultBaseline? = some baseline := by
  cases h with
  | baselines hphase | text hphase | typed hphase | candidate hphase =>
    rw [hphase] at hbaseline
    first | exact hbaseline | cases hbaseline

theorem Holding.passes (hs : s.Guarded) (hold : s.Holding i baseline commandId value ids)
    {other : GatewayCaller} {after : AgentActionGateway × List GatewayOutput}
    (hcaller : s.callers[j]? = some other) (hpasses : Passes s j other after) :
    after.1.Holding i baseline commandId value ids := by
  obtain ⟨caller, hget, hphase⟩ := hold
  have hlt := (List.getElem?_eq_some_iff.mp hcaller).1
  by_cases hij : j = i
  · subst hij
    cases hcaller.symm.trans hget
    cases hpasses with
    | stays => exact ⟨_, hget, hphase⟩
    | locks deadline hcalling => simp [hcalling, GatewayPhase.resultBaseline?] at hphase
    | goes phase out hnext =>
      refine ⟨_, List.getElem?_set_self hlt, hphase.imp (fun hover ↦ ?_) fun h ↦ ?_⟩
      · exact absurd hnext.locked (by rw [hover]; exact id)
      · exact ⟨hnext.keeps_baseline h.1, h.2⟩
    | leaves => exact ⟨_, List.getElem?_set_self hlt, .inl rfl⟩
  · have hfree (hlocked : other.phase.Locked) : caller.phase = .ended := by
      refine hphase.resolve_right fun h ↦ ?_
      have hown := hs i caller hget (GatewayPhase.baselined_iff.mpr ⟨_, h.1⟩).locked
      exact hij (Option.some.inj ((hs j other hcaller hlocked).symm.trans hown))
    cases hpasses with
    | stays => exact ⟨caller, hget, hphase⟩
    | locks deadline hcalling =>
      exact ⟨caller, (List.getElem?_set_ne hij).trans hget, hphase⟩
    | goes phase out hnext =>
      exact ⟨caller, (List.getElem?_set_ne hij).trans hget, hphase⟩
    | leaves results out hlocked =>
      exact ⟨caller, (List.getElem?_set_ne hij).trans hget, .inl (hfree hlocked)⟩

theorem Holding.step (hs : s.Guarded) (hold : s.Holding i baseline commandId value ids)
    (hevent : ∀ outcome, event ≠ .recordResult commandId outcome) :
    (step s event).1.Holding i baseline commandId value
      ((recorded? event).elim ids fun id ↦ insert id ids) := by
  have hsteps := s.step_steps event
  generalize AgentActionGateway.step s event = after at hsteps ⊢
  cases hsteps with
  | idle hquiet =>
    rw [hquiet]
    exact hold
  | enters =>
    obtain ⟨caller, hget, hphase⟩ := hold
    have hlt := (List.getElem?_eq_some_iff.mp hget).1
    exact ⟨caller, (List.getElem?_append_left hlt).trans hget, hphase⟩
  | advances hcaller hpasses => exact hold.passes hs hcaller hpasses
  | candidate => exact hold
  | @result resultId outcome hresult =>
    obtain ⟨caller, hget, hphase⟩ := hold
    have hne : resultId ≠ commandId := fun heq ↦ hevent outcome (by rw [heq])
    rw [recorded?, if_neg hresult]
    exact ⟨caller, hget, hphase.imp_right fun h ↦ ⟨h.1, h.2.record hne _⟩⟩

theorem run_holding (hs : s.Guarded) {post : List GatewayEvent}
    (hold : s.Holding i baseline commandId value ids)
    (hpost : ∀ outcome, .recordResult commandId outcome ∉ post) :
    (run step s post).Holding i baseline commandId value (ids ∪ newer post) := by
  induction post generalizing s ids with
  | nil => simpa [newer] using hold
  | cons event post ih =>
    have hnext := hold.step hs fun outcome (heq : event = _) ↦
      hpost outcome (heq ▸ List.mem_cons_self ..)
    have hlast := ih (hs.step event) hnext fun outcome hmem ↦
      hpost outcome (List.mem_cons_of_mem event hmem)
    have hids : ((recorded? event).elim ids fun id ↦ insert id ids) ∪ newer post =
        ids ∪ newer (event :: post) := by
      rw [newer, newer, List.filterMap_cons]
      cases recorded? event <;> simp
    rw [run_cons, ← hids]
    exact hlast

structure Awaited (start : AgentActionGateway) (h : List GatewayEvent) (commandId : String)
    (outcome : AgentActionOutcome) (baseline : ℕ) (post : List GatewayEvent) : Prop where
  nonempty : commandId ≠ ""
  last : ∀ outcome', .recordResult commandId outcome' ∉ post
  recorded : ∃ (pre : List GatewayEvent) (i : ℕ) (before after : GatewayCaller)
    (deadline : Double), h = pre ++ .recordResult commandId outcome :: post ∧
    (run step start pre).callers[i]? = some before ∧ before.phase.Baselined ∧
    (run step start h).callers[i]? = some after ∧
    after.phase = .awaitingResult commandId baseline deadline

def Kept (start : AgentActionGateway) (h : List GatewayEvent) (commandId : String)
    (outcome : AgentActionOutcome) (baseline : ℕ) : Prop :=
  ∃ generation, baseline < generation ∧
    (run step start h).results.find commandId = some (generation, outcome)

theorem Placed.since (hp : Placed start h i caller)
    (hbaseline : caller.phase.resultBaseline? = some baseline) :
    ∃ before later, Since start h i caller.call baseline before later := by
  obtain ⟨call, phase⟩ := caller
  cases phase with
  | calling | starting | ended => cases hbaseline
  | publishing | awaitingCandidate | awaitingResult =>
    cases hbaseline
    obtain ⟨before, later, hsince, -⟩ := hp
    exact ⟨before, later, hsince⟩

theorem kept_iff {dryRun : Bool} {post : List GatewayEvent}
    (ha : Awaited (create dryRun) h commandId outcome baseline post) :
    Kept (create dryRun) h commandId outcome baseline ↔ (newer post).card < 128 := by
  obtain ⟨hne, hlast, pre, i, before, after, deadline, rfl, hbefore, hbaselined, hafter, hphase⟩ :=
    ha
  obtain ⟨first, hfirst⟩ := GatewayPhase.baselined_iff.mp hbaselined
  obtain ⟨earlier, later, hsince⟩ := ((run_traced dryRun pre).callers i before hbefore).since hfirst
  have hcount : first ≤ (run step (create dryRun) pre).resultGeneration := by
    rw [← hsince.results, hsince.split, run_append]
    exact (run_counts _ later).2
  have hstart : (step (run step (create dryRun) pre) (.recordResult commandId outcome)).1.Holding i
      first commandId ((run step (create dryRun) pre).resultGeneration + 1, outcome) ∅ := by
    rw [step, recordResult, if_neg hne]
    exact ⟨before, hbefore, .inr ⟨hfirst, RecencyMap.recent_record _ _ _ (by decide)⟩⟩
  have hguarded := run_guarded dryRun (pre ++ [.recordResult commandId outcome])
  rw [run_snoc] at hguarded
  obtain ⟨caller, hget, hcaller⟩ := run_holding hguarded hstart hlast
  rw [← run_cons, ← run_append] at hget hcaller
  cases hafter.symm.trans hget
  rw [hphase, Finset.empty_union] at hcaller
  obtain ⟨hsame, hrecent⟩ := hcaller.resolve_left nofun
  obtain rfl : baseline = first := Option.some.inj hsame
  rw [Kept, hrecent.find]
  split_ifs with hcard
  · exact iff_of_true ⟨_, Nat.lt_succ_of_le hcount, rfl⟩ hcard
  · exact iff_of_false (fun ⟨_, _, hnone⟩ ↦ nomatch hnone) hcard

def owns (s : AgentActionGateway) (origin : Option String) (actionType : ℤ) (commandId : String)
    (caller : GatewayCaller) : Bool :=
  match caller.call, caller.phase with
  | .run text expectedType _ _, .publishing _ resultBaseline _
  | .run text expectedType _ _, .awaitingCandidate _ resultBaseline _ =>
    decide (actionType = expectedType → origin = some text ∧
      ∀ entry ∈ s.results.entries, entry.1 = commandId → entry.2.1 ≤ resultBaseline)
  | _, _ => true

def Own (s : AgentActionGateway) : GatewayEvent → Prop
  | .recordCandidate origin actionType commandId =>
    ∀ caller ∈ s.callers, s.owns origin actionType commandId caller = true
  | _ => True

instance (s : AgentActionGateway) (event : GatewayEvent) : Decidable (s.Own event) := by
  cases event <;> unfold Own <;> infer_instance

def Made (h : List GatewayEvent) (s : AgentActionGateway) (text : String) (actionType : ℤ)
    (baseline : ℕ) (commandId : String) : Prop :=
  ∃ pre post, h = pre ++ .recordCandidate (some text) actionType commandId :: post ∧
    ∀ entry ∈ s.results.entries, entry.1 = commandId → baseline < entry.2.1 →
      .recordResult commandId entry.2.2 ∈ post

def MadeFor (h : List GatewayEvent) (s : AgentActionGateway) : GatewayCaller → Prop
  | ⟨.run text actionType _ _, .publishing candidateBaseline resultBaseline _⟩
  | ⟨.run text actionType _ _, .awaitingCandidate candidateBaseline resultBaseline _⟩ =>
    ∀ candidate ∈ s.candidates, candidateBaseline < candidate.generation →
      candidate.actionType = actionType →
        Made h s text actionType resultBaseline candidate.commandId
  | ⟨.run text actionType _ _, .awaitingResult commandId resultBaseline _⟩ =>
    Made h s text actionType resultBaseline commandId
  | _ => True

structure Answers (h : List GatewayEvent) (s : AgentActionGateway) : Prop where
  counted : ∀ candidate ∈ s.candidates, candidate.generation ≤ s.candidateGeneration
  callers : ∀ caller ∈ s.callers, MadeFor h s caller

variable {text : String} {actionType : ℤ}

theorem Made.snoc (hm : Made h s text actionType resultBaseline commandId) (event : GatewayEvent) :
    Made (h ++ [event]) (step s event).1 text actionType resultBaseline commandId := by
  obtain ⟨pre, post, rfl, hlater⟩ := hm
  refine ⟨pre, post ++ [event], by simp, fun entry hmem hid hlt ↦ ?_⟩
  rcases results_step hmem with hold | ⟨rfl, -⟩
  · exact List.mem_append_left _ (hlater entry hold hid hlt)
  · exact List.mem_append_right _ (by rw [hid]; exact List.mem_singleton_self _)

theorem made_of_owns {origin : Option String} {candidate : GatewayCandidate}
    (hevent : event = .recordCandidate origin actionType candidate.commandId)
    (hown : actionType = actionType → origin = some text ∧ ∀ entry ∈ s.results.entries,
      entry.1 = candidate.commandId → entry.2.1 ≤ resultBaseline) :
    Made (h ++ [event]) (step s event).1 text actionType resultBaseline candidate.commandId := by
  obtain ⟨rfl, hnew⟩ := hown rfl
  subst hevent
  refine ⟨h, [], rfl, fun entry hmem hid hlt ↦ ?_⟩
  rcases results_step hmem with hold | ⟨hresult, -⟩
  · exact absurd hlt (hnew entry hold hid).not_gt
  · cases hresult

theorem MadeFor.snoc (hcaller : caller ∈ s.callers) (hm : MadeFor h s caller)
    (hown : s.Own event) : MadeFor (h ++ [event]) (step s event).1 caller := by
  have howns : ∀ origin actionType commandId,
      event = .recordCandidate origin actionType commandId →
        s.owns origin actionType commandId caller = true := by
    rintro origin actionType commandId rfl
    exact hown caller hcaller
  obtain ⟨call, phase⟩ := caller
  cases call with
  | runTyped => cases phase <;> trivial
  | run text expectedType name timeoutS =>
    cases phase with
    | calling | starting | ended => trivial
    | awaitingResult => exact Made.snoc hm event
    | publishing | awaitingCandidate =>
      intro candidate hmem hlt htype
      rcases candidates_step hmem with hold | ⟨origin, hevent, -⟩
      · exact (hm candidate hold hlt htype).snoc event
      · subst htype
        exact made_of_owns hevent (of_decide_eq_true (howns _ _ _ hevent))

theorem Answers.snoc (ha : Answers h s) (hown : s.Own event) :
    Answers (h ++ [event]) (step s event).1 := by
  refine ⟨fun candidate hmem ↦ ?_, fun caller hmem ↦ ?_⟩
  · rcases candidates_step hmem with hold | ⟨origin, -, hgeneration⟩
    · exact (ha.counted candidate hold).trans (step_counts s event).1
    · exact hgeneration.le
  by_cases hbaselined : caller.phase.Baselined
  swap
  · obtain ⟨call, phase⟩ := caller
    cases phase with
    | calling | starting | ended => cases call <;> trivial
    | publishing | awaitingCandidate | awaitingResult => exact absurd trivial hbaselined
  obtain ⟨i, hget⟩ := List.mem_iff_getElem?.mp hmem
  rcases callers_step hget hbaselined with hold | ⟨before, hbefore, hcall, hnext, hstep⟩
  · have hold := List.mem_of_getElem? hold
    exact (ha.callers caller hold).snoc hold hown
  have hbefore := List.mem_of_getElem? hbefore
  have hmade := (ha.callers before hbefore).snoc hbefore hown
  obtain ⟨call, phase⟩ := before
  obtain ⟨call', phase'⟩ := caller
  obtain rfl : call = call' := hcall
  cases call with
  | runTyped => cases phase' <;> trivial
  | run text expectedType name timeoutS =>
    cases hnext with
    | baselines =>
      intro candidate hmem hlt
      rw [hstep] at hmem
      exact absurd hlt (ha.counted candidate hmem).not_gt
    | text hphase =>
      obtain rfl : phase = _ := hphase
      exact hmade
    | typed hphase hcall => cases hcall
    | candidate hphase hcandidate =>
      obtain rfl : phase = _ := hphase
      have hmatches := List.find?_some hcandidate
      simp only [decide_eq_true_eq] at hmatches
      refine hmade _ ?_ hmatches.1 hmatches.2
      rw [hstep]
      exact List.mem_of_find?_eq_some hcandidate

theorem run_answers {dryRun : Bool} (hown : Along step Own (create dryRun) h) :
    Answers h (run step (create dryRun) h) := by
  induction h using List.reverseRecOn with
  | nil =>
    exact ⟨fun _ hmem ↦ absurd hmem List.not_mem_nil, fun _ hmem ↦ absurd hmem List.not_mem_nil⟩
  | append_singleton h event ih =>
    obtain ⟨hown, hevent⟩ := (along_snoc step).mp hown
    rw [run_snoc]
    exact (ih hown).snoc hevent

def AnswersTexts (start : AgentActionGateway) (h : List GatewayEvent) : Prop :=
  ∀ pre event post i outcome text expectedType name timeoutS phase, h = pre ++ event :: post →
    .returned i (.ok (some outcome)) ∈ (step (run step start pre) event).2 →
    (run step start pre).callers[i]? = some ⟨.run text expectedType name timeoutS, phase⟩ →
    ∃ commandId front back,
      pre = front ++ .recordCandidate (some text) expectedType commandId :: back ∧
      .recordResult commandId outcome ∈ back

/-- Up to 128 newer ids take nothing away. -/
def KeepsBound (start : AgentActionGateway) (h : List GatewayEvent) : Prop :=
  ∀ commandId outcome baseline post, Awaited start h commandId outcome baseline post →
    (newer post).card ≤ 128 → Kept start h commandId outcome baseline

def NeverAtBound (start : AgentActionGateway) (h : List GatewayEvent) : Prop :=
  ∀ commandId outcome baseline post, Awaited start h commandId outcome baseline post →
    (newer post).card ≠ 128

structure Associates (start : AgentActionGateway) (h : List GatewayEvent) : Prop where
  outcomes : ∀ pre event post i outcome, h = pre ++ event :: post →
    .returned i (.ok (some outcome)) ∈ (step (run step start pre) event).2 →
    ∃ caller, (run step start pre).callers[i]? = some caller ∧
      Associated start pre i caller.call outcome
  texts : AnswersTexts start h
  kept : KeepsBound start h

theorem associates (dryRun : Bool) (h : List GatewayEvent)
    (hown : Along step Own (create dryRun) h) (hbound : NeverAtBound (create dryRun) h) :
    Associates (create dryRun) h where
  outcomes pre event post i outcome _ hmem := by
    obtain ⟨caller, hcaller, hfinds⟩ := finds_of_returned hmem
    exact ⟨caller, hcaller, associated_of_finds (run_traced dryRun pre) hcaller hfinds⟩
  texts pre event post i outcome text expectedType name timeoutS phase hsplit hmem hget := by
    obtain ⟨caller, hcaller, commandId, baseline, deadline, generation, hphase, hfind, hlt⟩ :=
      finds_of_returned hmem
    cases hcaller.symm.trans hget
    rw [hsplit, along_append] at hown
    have hmade := (run_answers hown.1).callers _ (List.mem_of_getElem? hget)
    obtain rfl : phase = _ := hphase
    obtain ⟨front, back, hfront, hlater⟩ := hmade
    exact ⟨commandId, front, back, hfront,
      hlater _ (RecencyMap.mem_of_find hfind) rfl hlt⟩
  kept commandId outcome baseline post ha hle :=
    (kept_iff ha).mpr (lt_of_le_of_ne hle (hbound commandId outcome baseline post ha))

def succeeded : AgentActionOutcome := ⟨true, 1, "succeeded"⟩

def steered : List GatewayEvent :=
  .call (.run "turn left" 3 "turn" 0) :: List.replicate 3 (.advance 0 {}) ++
    [.recordCandidate (some "go") 1 "voice-7", .recordCandidate (some "turn left") 3 "text-1",
      .recordResult "voice-7" ⟨false, 4, "blocked"⟩, .advance 0 {},
      .recordResult "text-1" succeeded, .advance 0 {}]

theorem newer_card_le (h : List GatewayEvent) : (newer h).card ≤ h.length :=
  (List.toFinset_card_le _).trans (List.length_filterMap_le _ _)

theorem steered_associates : Associates (create false) steered ∧
    (step (run step (create false) (steered.take 9)) (.advance 0 {})).2 =
      [.returned 0 (.ok (some succeeded))] := by
  refine ⟨associates false steered (by decide +kernel) fun commandId outcome baseline post ha ↦ ?_,
    by decide +kernel⟩
  obtain ⟨pre, i, before, after, deadline, hsplit, -⟩ := ha.recorded
  have hlength := congrArg List.length hsplit
  have hcard := newer_card_le post
  simp only [List.length_append, List.length_cons] at hlength
  have hten : steered.length = 10 := rfl
  omega

/-- While the turn is awaited another speaker has one made. -/
def foreign : List GatewayEvent :=
  .call (.run "turn left" 3 "turn" 0) :: List.replicate 3 (.advance 0 {}) ++
    [.recordCandidate (some "turn right") 3 "voice-7", .recordResult "voice-7" succeeded,
      .advance 0 {}, .advance 0 {}]

def ident (n : ℕ) : String := String.ofList (List.replicate (n + 1) 'x')

/-- The stop is over, and so are 128 other commands, before its call looks. -/
def crowd : List GatewayEvent := (List.range 128).map fun n ↦ .recordResult (ident n) succeeded

/-- A stop that has been published, and its result. -/
def stopping : List GatewayEvent :=
  .call (.runTyped "stop-1" "stop" 0) :: List.replicate 3 (.advance 0 {}) ++
    [.recordResult "stop-1" succeeded]

theorem ident_injective : Function.Injective ident := by
  intro n m h
  have hlist := congrArg (fun text : String ↦ text.toList.length) h
  simpa [ident] using hlist

theorem newer_crowd : (newer crowd).card = 128 := by
  have hids : crowd.filterMap recorded? = (List.range 128).map ident := by
    rw [crowd, List.filterMap_map, ← List.filterMap_eq_map]
    refine List.filterMap_congr fun n _ ↦ if_neg fun hempty ↦ ?_
    have hlength := congrArg (fun text : String ↦ text.toList.length) hempty
    simp [ident] at hlength
  rw [newer, hids, List.toFinset_card_of_nodup (List.nodup_range.map ident_injective)]
  rfl

theorem crowd_callers (s : AgentActionGateway) : (run step s crowd).callers = s.callers := by
  rw [crowd]
  induction List.range 128 generalizing s with
  | nil => rfl
  | cons n l ih =>
    rw [List.map_cons, run_cons, ih, step, recordResult]
    split_ifs <;> rfl

theorem stop_notMem_crowd (outcome : AgentActionOutcome) :
    .recordResult "stop-1" outcome ∉ crowd := by
  intro hmem
  obtain ⟨n, -, heq⟩ := List.mem_map.mp hmem
  have hlist := congrArg String.toList (GatewayEvent.recordResult.inj heq).1
  simp [ident, List.replicate_succ] at hlist

theorem foreign_crowded :
    ¬ AnswersTexts (create false) foreign ∧ ¬ KeepsBound (create false) (stopping ++ crowd) := by
  constructor
  · intro h
    obtain ⟨commandId, front, back, hsplit, -⟩ := h (foreign.take 7) (.advance 0 {}) [] 0 succeeded
      "turn left" 3 "turn" 0 _ rfl (by decide +kernel) rfl
    have hmem : .recordCandidate (some "turn left") 3 commandId ∈ foreign.take 7 := by
      simp [hsplit]
    simp [foreign] at hmem
  · intro h
    have hcallers : (run step (create false) (stopping ++ crowd)).callers =
        (run step (create false) stopping).callers := by
      rw [run_append, crowd_callers]
    have hawaited : Awaited (create false) (stopping ++ crowd) "stop-1" succeeded 0 crowd :=
      ⟨by decide, stop_notMem_crowd, stopping.take 4, 0, _, _, _, rfl, rfl, trivial,
        (congrArg (·[0]?) hcallers).trans rfl, rfl⟩
    have hkept := h "stop-1" succeeded 0 crowd hawaited newer_crowd.le
    exact absurd ((kept_iff hawaited).mp hkept) newer_crowd.not_lt

end AgentActionGateway

end EmbodiedAgent.Slam
