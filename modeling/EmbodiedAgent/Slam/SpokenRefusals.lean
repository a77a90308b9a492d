import EmbodiedAgent.Agent.CommandFallback
import EmbodiedAgent.Slam.SessionOrchestrator

namespace EmbodiedAgent.Slam.SpokenRefusals

open Library Search SessionOrchestrator
open Agent.CommandFallback (shouldBlockModelActions)

variable (u : Unicode)

def startCommands : List SessionCommand :=
  [.runAutomaticMission, .startNavigation, .saveAndStartNavigation]

def Refusing (text : Chars) : Prop :=
  shouldBlockModelActions u text = true ∨ isAutomaticMissionCancelText u text = true

def startPhrases : List String :=
  automaticMissionPhrases ++ saveAndStartPhrases ++ startNavigationPhrases

/-- The text holds the words of a command that starts something. -/
def NamesStart (text : Chars) : Prop :=
  isTruncatedAutomaticMissionText u (normalizeSessionText u text) = true ∨
    ∃ phrase ∈ startPhrases, phrase.toList <:+: normalizeSessionText u text

/-- A command that starts something is put into the queue. -/
def Starts (n n' : SessionOrchestrator) : Prop :=
  ∃ request : CommandRequest, request.command ∈ startCommands ∧
    n'.requests = n.requests ++ [some request]

/-- The text is not taken for a command that starts something. -/
def ParsesHarmless (text : Chars) : Prop :=
  ∀ command, parseSessionCommand u text = some command → command ∉ startCommands

def Harmless (text : Chars) : Prop :=
  ∀ (n : SessionOrchestrator) (r : Readings), ¬ Starts n (n.handleSessionCommandText u text r)

variable {u : Unicode} {text : Chars} {n : SessionOrchestrator} {request : CommandRequest}
  {command : SessionCommand} {r : Readings} {now : Double}

theorem containsAny_iff {words : List String} :
    containsAny text words = true ↔ ∃ word ∈ words, word.toList <:+: text := by
  simp only [containsAny, List.any_eq_true, contains_iff]

theorem parse_of_run (hrun : (isTruncatedAutomaticMissionText u (normalizeSessionText u text) ||
      containsAny (normalizeSessionText u text) automaticMissionPhrases) = true) :
    parseSessionCommand u text = some .runAutomaticMission :=
  if_pos hrun

theorem parse_of_save (hrun : ¬ (isTruncatedAutomaticMissionText u (normalizeSessionText u text) ||
      containsAny (normalizeSessionText u text) automaticMissionPhrases) = true)
    (hsave : containsAny (normalizeSessionText u text) saveAndStartPhrases = true) :
    parseSessionCommand u text = some .saveAndStartNavigation :=
  (if_neg hrun).trans (if_pos hsave)

theorem parse_of_start (hrun : ¬ (isTruncatedAutomaticMissionText u (normalizeSessionText u text) ||
      containsAny (normalizeSessionText u text) automaticMissionPhrases) = true)
    (hsave : ¬ containsAny (normalizeSessionText u text) saveAndStartPhrases = true)
    (hstart : containsAny (normalizeSessionText u text) startNavigationPhrases = true) :
    parseSessionCommand u text = some .startNavigation :=
  (if_neg hrun).trans ((if_neg hsave).trans (if_pos hstart))

theorem parse_other (hrun : ¬ (isTruncatedAutomaticMissionText u (normalizeSessionText u text) ||
      containsAny (normalizeSessionText u text) automaticMissionPhrases) = true)
    (hsave : ¬ containsAny (normalizeSessionText u text) saveAndStartPhrases = true)
    (hstart : ¬ containsAny (normalizeSessionText u text) startNavigationPhrases = true)
    (h : parseSessionCommand u text = some command) : command ∉ startCommands := by
  have hrest := ((if_neg hrun).trans ((if_neg hsave).trans (if_neg hstart))).symm.trans h
  split_ifs at hrest
  · obtain rfl := Option.some.inj hrest
    decide
  · obtain rfl := Option.some.inj hrest
    decide

theorem parse_start_iff : (∃ command ∈ startCommands, parseSessionCommand u text = some command) ↔
      NamesStart u text := by
  have hnames : NamesStart u text ↔
      isTruncatedAutomaticMissionText u (normalizeSessionText u text) = true ∨
      containsAny (normalizeSessionText u text) automaticMissionPhrases = true ∨
      containsAny (normalizeSessionText u text) saveAndStartPhrases = true ∨
      containsAny (normalizeSessionText u text) startNavigationPhrases = true := by
    simp only [NamesStart, startPhrases, containsAny_iff, List.mem_append, or_and_right,
      exists_or, or_assoc]
  rw [hnames]
  by_cases hrun : (isTruncatedAutomaticMissionText u (normalizeSessionText u text) ||
      containsAny (normalizeSessionText u text) automaticMissionPhrases) = true
  · rw [parse_of_run hrun]
    rw [Bool.or_eq_true] at hrun
    exact iff_of_true ⟨_, by simp [startCommands], rfl⟩ (hrun.imp_right Or.inl)
  by_cases hsave : containsAny (normalizeSessionText u text) saveAndStartPhrases = true
  · rw [parse_of_save hrun hsave]
    exact iff_of_true ⟨_, by simp [startCommands], rfl⟩ (.inr (.inr (.inl hsave)))
  by_cases hstart : containsAny (normalizeSessionText u text) startNavigationPhrases = true
  · rw [parse_of_start hrun hsave hstart]
    exact iff_of_true ⟨_, by simp [startCommands], rfl⟩ (.inr (.inr (.inr hstart)))
  refine iff_of_false ?_ ?_
  · rintro ⟨command, hmem, heq⟩
    exact parse_other hrun hsave hstart heq hmem
  · rw [Bool.or_eq_true] at hrun
    rintro (h | h | h | h)
    · exact hrun (.inl h)
    · exact hrun (.inr h)
    · exact hsave h
    · exact hstart h

theorem admission_command : (n.admission request now).1.command = request.command := by
  rw [admission]
  split_ifs with hauthority hgeneration
  · rfl
  all_goals
    dsimp only
    split <;> rfl

theorem enqueue_requests : (n.enqueue request now).1.requests = n.requests ∨
      ∃ queued : CommandRequest, queued.command = request.command ∧
        (n.enqueue request now).1.requests = n.requests ++ [some queued] := by
  have hcommand : (n.admission request now).1.command = request.command := admission_command
  rw [enqueue]
  split_ifs with hstop hbarrier hactive
  · exact .inl rfl
  · exact .inl rfl
  · exact .inl rfl
  · generalize n.admission request now = answer at hcommand ⊢
    obtain ⟨queued, accepted⟩ := answer
    cases accepted with
    | false => exact .inl rfl
    | true =>
      simp only [put]
      split_ifs with hroom
      · exact .inr ⟨queued, hcommand, rfl⟩
      · exact .inl rfl

theorem cancel_requests {identity : Option QuiescenceIdentity} :
    (n.cancelActiveAutomaticMission identity).1.requests = n.requests := by
  rw [cancelActiveAutomaticMission]
  split
  · rfl
  · split_ifs <;> rfl

theorem not_starts_of_eq {n' : SessionOrchestrator} (h : n'.requests = n.requests) :
    ¬ Starts n n' := by
  rintro ⟨request, -, hrequests⟩
  rw [h] at hrequests
  exact List.cons_ne_nil _ _ (List.self_eq_append_right.mp hrequests)

theorem command_of_starts (h : Starts n (n.hearCommand command r)) : command ∈ startCommands := by
  rw [hearCommand] at h
  split_ifs at h with hduplicate
  · exact absurd h (not_starts_of_eq rfl)
  · obtain ⟨request, hmem, hrequests⟩ := h
    rcases enqueue_requests with hsame | ⟨queued, hcommand, hqueued⟩
    · exact absurd ⟨request, hmem, hrequests⟩ (not_starts_of_eq hsame)
    · rw [hqueued] at hrequests
      obtain rfl : queued = request := by simpa using hrequests
      rwa [hcommand] at hmem

theorem parse_of_starts (h : Starts n (n.handleSessionCommandText u text r)) :
    ∃ command ∈ startCommands, parseSessionCommand u text = some command := by
  rw [handleSessionCommandText] at h
  split_ifs at h with hcancel
  · exact absurd h (not_starts_of_eq cancel_requests)
  · cases hparse : parseSessionCommand u text with
    | none =>
      rw [hparse] at h
      exact absurd h (not_starts_of_eq rfl)
    | some command =>
      rw [hparse] at h
      exact ⟨command, command_of_starts h, rfl⟩

/-- A session with nothing to do. -/
def idle (phase : SessionPhase) (mapSaved : Bool) : SessionOrchestrator where
  authorityGateEnabled := false
  authorityLease := { leaseS := .ofRat 1 }
  autonomyQuiescence := { zeroEpsilon := 0, zeroEpsilon_valid := Double.zero_valid }
  fsm := { phase := phase, mapSaved := mapSaved }

theorem admit_of_valid (hgate : n.authorityGateEnabled = false)
    (hvalid : (n.fsm.validate request.command).1 = true) :
      n.admission request now = (request, true) := by
  have hfree : n.needsAuthority request = false := by rw [needsAuthority, hgate, Bool.false_and]
  rw [admission, hfree, Bool.false_and, if_neg Bool.false_ne_true, if_neg Bool.false_ne_true]
  dsimp only
  generalize n.fsm.validate request.command = answer at hvalid ⊢
  obtain ⟨accepted, reason⟩ := answer
  obtain rfl : accepted = true := hvalid
  rfl

theorem idle_starts {phase : SessionPhase} {mapSaved : Bool} (hstart : command ∈ startCommands)
    (hparse : parseSessionCommand u text = some command)
    (hvalid : ((idle phase mapSaved).fsm.validate command).1 = true) :
    Starts (idle phase mapSaved) ((idle phase mapSaved).handleSessionCommandText u text r) := by
  have hnone : (idle phase mapSaved).cancelActiveAutomaticMission none =
      (idle phase mapSaved, false) := rfl
  have hfirst : ¬ ((idle phase mapSaved).lastIntent.1 = some command ∧
      r.heard.sub (idle phase mapSaved).lastIntent.2 < .ofRat 3) := fun h ↦ nomatch h.1
  rw [handleSessionCommandText, hnone, Bool.and_false, if_neg Bool.false_ne_true, hparse,
    Option.elim_some, hearCommand, if_neg hfirst]
  refine ⟨{ command := command, source := "voice" }, hstart, ?_⟩
  dsimp only [enqueue]
  rw [admit_of_valid rfl hvalid]
  rfl

theorem exists_valid (hstart : command ∈ startCommands) :
    ∃ phase mapSaved, ((idle phase mapSaved).fsm.validate command).1 = true := by
  simp only [startCommands, List.mem_cons, List.not_mem_nil, or_false] at hstart
  rcases hstart with rfl | rfl | rfl
  · exact ⟨.mapping, false, rfl⟩
  · exact ⟨.mapSaved, true, rfl⟩
  · exact ⟨.mapping, false, rfl⟩

theorem parsesHarmless_iff : ParsesHarmless u text ↔ ¬ NamesStart u text := by
  rw [← parse_start_iff]
  constructor
  · rintro h ⟨command, hmem, hparse⟩
    exact h command hparse hmem
  · intro h command hparse hmem
    exact h ⟨command, hmem, hparse⟩

theorem harmless_iff : Harmless u text ↔ ¬ NamesStart u text := by
  rw [← parse_start_iff]
  constructor
  · rintro h ⟨command, hmem, hparse⟩
    obtain ⟨phase, mapSaved, hvalid⟩ := exists_valid hmem
    exact h (idle phase mapSaved) ⟨0, 0⟩ (idle_starts hmem hparse hvalid)
  · intro h n r hstarts
    exact h (parse_of_starts hstarts)

/-- A refusal is harmless just when it does not hold the words of a starting command. -/
theorem refusal_harmless_iff (text : Chars) :
    ((Refusing u text → ParsesHarmless u text) ↔ (Refusing u text → ¬ NamesStart u text)) ∧
      ((Refusing u text → Harmless u text) ↔ (Refusing u text → ¬ NamesStart u text)) :=
  ⟨imp_congr_right fun _ ↦ parsesHarmless_iff, imp_congr_right fun _ ↦ harmless_iff⟩

/-- A table without upper case. -/
def caseless : Unicode where
  lower := id
  digit _ := none

theorem refusal_starts_mission : Refusing caseless "不要开始自动建图".toList ∧
      parseSessionCommand caseless "不要开始自动建图".toList = some .runAutomaticMission ∧
      Starts (idle .mapping false) ((idle .mapping false).handleSessionCommandText caseless
        "不要开始自动建图".toList ⟨0, 0⟩) := by
  have hparse : parseSessionCommand caseless "不要开始自动建图".toList =
      some .runAutomaticMission := by decide
  exact ⟨.inl (by decide), hparse, idle_starts (by decide) hparse rfl⟩

end EmbodiedAgent.Slam.SpokenRefusals
