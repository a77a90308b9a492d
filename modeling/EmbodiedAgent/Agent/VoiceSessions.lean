import EmbodiedAgent.Agent.ContinuousVoice

namespace EmbodiedAgent.Agent.ContinuousVoice

open Library Search History

variable {u : Unicode} (session : ContinuousVoiceSession u)

inductive Hearing
  | unheard
  | sleep
  | wake
  | follow

def hearing (transcript : Chars) : Hearing :=
  let text := Text.stripChars transcript
  if text = [] ∨ isFiller session text = true then .unheard
  else if session.enabled && isSleepCommand session text then .sleep
  else if (session.gate.search text).isSome then .wake
  else .follow

def Operation.IsWake : Operation → Prop
  | .accept transcript _ => hearing session transcript = .wake
  | .externalWake .. => True
  | .externalSleep _ => False

def Operation.IsSleep : Operation → Prop
  | .accept transcript _ => hearing session transcript = .sleep
  | .externalWake .. => False
  | .externalSleep _ => True

def Operation.readings : Operation → List Double
  | .accept _ r => [r.wasActive, r.checked, r.renewed, r.active, r.duplicate, r.remembered]
  | .externalWake _ _ reading => [reading]
  | .externalSleep _ => []

def Operation.stamp : Operation → Option (Double × Double)
  | .accept transcript r =>
    match hearing session transcript with
    | .wake => some (r.checked, r.checked)
    | .follow => some (r.checked, r.renewed)
    | _ => none
  | .externalWake _ _ reading => some (reading, reading)
  | .externalSleep _ => none

/-- The clock is positive and never goes back. -/
structure Timed (h : List Operation) : Prop where
  positive : ∀ t ∈ h.flatMap Operation.readings, 0 < t
  ordered : (h.flatMap Operation.readings).Pairwise (· ≤ ·)

abbrev state (h : List Operation) : Memory := run (step session) asleep h

def InSession (h : List Operation) : Prop :=
  ∃ before w mid, h = before ++ w :: mid ∧ w.IsWake session ∧
    (∀ o ∈ mid, ¬ o.IsSleep session) ∧
    ((w :: mid).filterMap (Operation.stamp session)).IsChain
      fun earlier later ↦ later.1 ≤ earlier.2.add session.gate.activeTimeoutS

def Accepts (s : Memory) (op : Operation) : Prop :=
  ∃ d, (step session s op).2 = .decision d ∧ d.accepted = true

def AcceptsOrdinary (text : Chars) (s : Memory) (op : Operation) : Prop :=
  ∃ d command, (step session s op).2 = .decision d ∧ d.accepted = true ∧
    d.priorityStop = false ∧ d.command = some command ∧ normalizeShortText u command = text

def ReportsTimeout (s : Memory) (op : Operation) : Prop :=
  ∃ d, (step session s op).2 = .decision d ∧ d.reason = "session_timeout"

/-- A session begins or ends here. -/
def Restarts (s : Memory) (op : Operation) : Prop :=
  match (step session s op).2 with
  | .decision d =>
    d.event.wakeEvent.kind = .wake ∨ d.event.wakeEvent.kind = .sleep ∨
      d.reason = "session_timeout"
  | .event _ => True

section Calls

variable {session} {transcript : Chars} {r : Readings} {s : Memory} {d : WakeDecision}

theorem accept_unheard (h : hearing session transcript = .unheard) :
    ∃ reason, reason ≠ "session_timeout" ∧
      accept session transcript r s = (ignored session transcript r s reason, s) := by
  simp only [hearing] at h
  split_ifs at h with hfiller
  by_cases hempty : Text.stripChars transcript = []
  · exact ⟨"empty", by decide, by simp [accept, hempty]⟩
  · have hyes := hfiller.resolve_left hempty
    exact ⟨"filler", by decide, by simp [accept, hempty, hyes]⟩

theorem accept_sleep (h : hearing session transcript = .sleep) :
    accept session transcript r s = (sleepDecision transcript, asleep) := by
  simp only [hearing] at h
  split_ifs at h with hfiller hsleep
  rw [not_or] at hfiller
  simp only [accept, if_neg hfiller.1, if_neg hfiller.2, if_pos hsleep]

theorem accept_heard
    (h : hearing session transcript = .wake ∨ hearing session transcript = .follow) :
    accept session transcript r s =
      let d := TextWakeProvider.accept session.gate (Text.stripChars transcript) r.toReadings
        s.activeUntil
      afterWake session d.1 r { s with activeUntil := d.2 } := by
  have hheard : ¬ (Text.stripChars transcript = [] ∨
      isFiller session (Text.stripChars transcript) = true) ∧
      ¬ (session.enabled && isSleepCommand session (Text.stripChars transcript)) = true := by
    simp only [hearing] at h
    split_ifs at h <;> simp_all
  obtain ⟨hfiller, hsleep⟩ := hheard
  rw [not_or] at hfiller
  simp only [accept, if_neg hfiller.1, if_neg hfiller.2, if_neg hsleep]

def woken (d : WakeDecision) (s : Memory) : Memory :=
  if d.event.kind = .wake then { s.forgetCommand with hadActiveSession := true } else s

inductive Answer (session : ContinuousVoiceSession u) (d : WakeDecision) (r : Readings)
    (s : Memory) : SessionDecision × Memory → Prop
  | timedOut (hc : d.command = none) (ha : d.active = false) (hs : s.hadActiveSession = true) :
    Answer session d r s (decisionFromWake d false "session_timeout" none false,
      { s.forgetCommand with hadActiveSession := false })
  | nothing (reason : String) (hc : d.command = none)
    (hs : d.active = true ∨ s.hadActiveSession = false) (hr : reason ≠ "session_timeout") :
    Answer session d r s (decisionFromWake d false reason none false, s)
  | duplicate (command : Chars) (hc : d.command = some command) :
    Answer session d r s (decisionFromWake d false "duplicate_command" none false, s)
  | stop (command : Chars) (hc : d.command = some command) :
    Answer session d r s (decisionFromWake d true "accepted" (some command) true,
      { s with hadActiveSession := d.active })
  | ordinary (command : Chars) (hc : d.command = some command)
    (hd : isDuplicateCommand session s command r.duplicate = false) :
    Answer session d r s (decisionFromWake d true "accepted" (some command) false,
      { rememberCommand u s command r.remembered with hadActiveSession := d.active })

theorem afterWake_answer : Answer session d r (woken d s) (afterWake session d r s) := by
  cases hc : d.command with
  | none =>
    have hunfold : afterWake session d r s = acceptNothing d (woken d s) := by
      rw [afterWake, hc]
      rfl
    rw [hunfold]
    simp only [acceptNothing]
    split_ifs with ht ha
    · rw [Bool.and_eq_true, Bool.not_eq_true'] at ht
      exact .timedOut hc ht.1 ht.2
    · exact .nothing _ hc (.inl ha) (by decide)
    · refine .nothing _ hc (.inr ?_) (by decide)
      simpa [ha] using ht
  | some command =>
    have hunfold : afterWake session d r s = acceptCommand session d command r (woken d s) := by
      rw [afterWake, hc]
      rfl
    rw [hunfold]
    simp only [acceptCommand]
    cases hstop : isPriorityStop session command with
    | true =>
      simp only [Bool.not_true, Bool.false_and, Bool.false_eq_true, if_false, if_true]
      exact .stop command hc
    | false =>
      simp only [Bool.not_false, Bool.true_and, Bool.false_eq_true, if_false]
      split_ifs with hd
      · exact .duplicate command hc
      · exact .ordinary command hc (by simpa using hd)

@[simp] theorem woken_activeUntil : (woken d s).activeUntil = s.activeUntil := by
  simp only [woken]
  split_ifs <;> rfl

theorem woken_of_wake (h : d.event.kind = .wake) :
    woken d s = { s.forgetCommand with hadActiveSession := true } := if_pos h

theorem woken_of_ne (h : d.event.kind ≠ .wake) : woken d s = s := if_neg h

theorem Answer.activeUntil {out : SessionDecision × Memory} (h : Answer session d r s out) :
    out.2.activeUntil = s.activeUntil := by
  cases h <;> rfl

theorem Answer.wakeEvent {out : SessionDecision × Memory} (h : Answer session d r s out) :
    out.1.event.wakeEvent = d.event := by
  cases h <;> rfl

theorem process_wake (hgate : session.gate.enabled = true)
    (h : hearing session transcript = .wake) (checked renewed activeUntil : Double) :
    ∃ command, session.gate.process (Text.stripChars transcript) checked renewed activeUntil =
      (command, checked.add session.gate.activeTimeoutS) := by
  simp only [hearing] at h
  split_ifs at h with hfiller hsleep hsearch
  rw [not_or] at hfiller
  obtain ⟨⟨index, word⟩, hword⟩ := Option.isSome_iff_exists.mp hsearch
  refine ⟨WakeWordGate.remainder (Text.stripChars transcript) index word, ?_⟩
  simp [WakeWordGate.process, hfiller.1, hgate, hword]

theorem process_follow (hgate : session.gate.enabled = true)
    (h : hearing session transcript = .follow) (checked renewed activeUntil : Double) :
    session.gate.process (Text.stripChars transcript) checked renewed activeUntil =
      if checked ≤ activeUntil then
        (some (Text.stripChars transcript), renewed.add session.gate.activeTimeoutS)
      else (none, activeUntil) := by
  simp only [hearing] at h
  split_ifs at h with hfiller hsleep hsearch
  rw [not_or] at hfiller
  rw [Bool.not_eq_true, Option.isSome_eq_false_iff, Option.isNone_iff_eq_none] at hsearch
  simp [WakeWordGate.process, hfiller.1, hgate, hsearch]

theorem Answer.reports {out : SessionDecision × Memory} (h : Answer session d r s out)
    (hr : out.1.reason = "session_timeout") : out.2.hadActiveSession = false := by
  cases h with
  | timedOut hc ha hs => rfl
  | nothing reason hc hs hne => exact absurd hr hne
  | duplicate command hc => exact absurd hr (by simp [decisionFromWake])
  | stop command hc => exact absurd hr (by simp [decisionFromWake])
  | ordinary command hc hd => exact absurd hr (by simp [decisionFromWake])

theorem Answer.flag {out : SessionDecision × Memory} (h : Answer session d r s out)
    (hout : out.2.hadActiveSession = false) (ha : d.active = true) :
    s.hadActiveSession = false := by
  cases h with
  | timedOut hc hna hs => simp [ha] at hna
  | nothing reason hc hs hne => exact hout
  | duplicate command hc => exact hout
  | stop command hc => exact absurd hout (by simp [ha])
  | ordinary command hc hd => exact absurd hout (by simp [ha])

theorem Answer.flag_before {out : SessionDecision × Memory} (h : Answer session d r s out)
    (hcommand : d.command = none) (hout : out.2.hadActiveSession = true) :
    s.hadActiveSession = true := by
  cases h with
  | timedOut hc ha hs => exact hs
  | nothing reason hc hs hne => exact hout
  | duplicate command hc => simp [hcommand] at hc
  | stop command hc => simp [hcommand] at hc
  | ordinary command hc hd => simp [hcommand] at hc

theorem Answer.ordinary_inv {out : SessionDecision × Memory} {command : Chars}
    (h : Answer session d r s out) (haccepted : out.1.accepted = true)
    (hstop : out.1.priorityStop = false) (hcommand : out.1.command = some command) :
    out.2.lastCommandText = normalizeShortText u command ∧
      out.2.lastCommandAt = r.remembered ∧
        isDuplicateCommand session s command r.duplicate = false := by
  cases h with
  | timedOut hc ha hs => simp [decisionFromWake] at haccepted
  | nothing reason hc hs hne => simp [decisionFromWake] at haccepted
  | duplicate command hc => simp [decisionFromWake] at haccepted
  | stop command hc => simp [decisionFromWake] at hstop
  | ordinary command' hc hd =>
    simp only [decisionFromWake, Option.some.injEq] at hcommand
    subst hcommand
    exact ⟨rfl, rfl, hd⟩

theorem Answer.kept {out : SessionDecision × Memory} (h : Answer session d r s out)
    (hreport : out.1.reason ≠ "session_timeout")
    (hordinary : ¬ (out.1.accepted = true ∧ out.1.priorityStop = false ∧ out.1.command.isSome)) :
    out.2.lastCommandText = s.lastCommandText ∧ out.2.lastCommandAt = s.lastCommandAt := by
  cases h with
  | timedOut hc ha hs => exact absurd rfl hreport
  | nothing reason hc hs hne => exact ⟨rfl, rfl⟩
  | duplicate command hc => exact ⟨rfl, rfl⟩
  | stop command hc => exact ⟨rfl, rfl⟩
  | ordinary command hc hd => exact absurd ⟨rfl, rfl, rfl⟩ hordinary

theorem Answer.command_of_accepted {out : SessionDecision × Memory}
    (h : Answer session d r s out) (haccepted : out.1.accepted = true) : d.command ≠ none := by
  cases h with
  | timedOut hc ha hs => simp [decisionFromWake] at haccepted
  | nothing reason hc hs hne => simp [decisionFromWake] at haccepted
  | duplicate command hc => simp [decisionFromWake] at haccepted
  | stop command hc => simp [hc]
  | ordinary command hc hd => simp [hc]

theorem Answer.reported {out : SessionDecision × Memory} (h : Answer session d r s out)
    (hreport : out.1.reason = "session_timeout") :
    d.command = none ∧ d.active = false ∧ s.hadActiveSession = true := by
  cases h with
  | timedOut hc ha hs => exact ⟨hc, ha, hs⟩
  | nothing reason hc hs hne => exact absurd hreport hne
  | duplicate command hc => exact absurd hreport (by simp [decisionFromWake])
  | stop command hc => exact absurd hreport (by simp [decisionFromWake])
  | ordinary command hc hd => exact absurd hreport (by simp [decisionFromWake])

theorem woken_flag (h : (woken d s).hadActiveSession = false) :
    d.event.kind ≠ .wake ∧ s.hadActiveSession = false := by
  by_cases hkind : d.event.kind = .wake
  · simp [woken_of_wake hkind] at h
  · rw [woken_of_ne hkind] at h
    exact ⟨hkind, h⟩

theorem kindOf_ne_wake {command : Option Chars} {wasActive : Bool}
    (h : TextWakeProvider.kindOf command true wasActive ≠ .wake) : wasActive = true := by
  cases wasActive with
  | true => rfl
  | false => cases command <;> simp [TextWakeProvider.kindOf] at h

theorem accept_expired (hgate : session.gate.enabled = true)
    (h : hearing session transcript = .follow) (hclosed : ¬ r.checked ≤ s.activeUntil)
    (hactive : ¬ r.active ≤ s.activeUntil) :
    ∃ d : WakeDecision, d.command = none ∧ d.active = false ∧ d.event.kind = .rejected ∧
      Answer session d r s (accept session transcript r s) := by
  have hprocess : session.gate.process (Text.stripChars transcript) r.checked r.renewed
      s.activeUntil = (none, s.activeUntil) := by
    rw [process_follow hgate h, if_neg hclosed]
  have hinactive : session.gate.active r.active s.activeUntil = false := by
    rw [← Bool.not_eq_true, WakeWordGate.active_iff hgate]
    exact hactive
  rw [accept_heard (.inr h)]
  refine ⟨(TextWakeProvider.accept session.gate (Text.stripChars transcript) r.toReadings
    s.activeUntil).1, ?_, ?_, ?_, ?_⟩
  · simp only [TextWakeProvider.accept, hprocess]
  · simp only [TextWakeProvider.accept, hprocess, hinactive]
  · simp [TextWakeProvider.accept, hprocess, hinactive, TextWakeProvider.kindOf]
  · have hanswer : Answer session _ r (woken _ s) (afterWake session
        (TextWakeProvider.accept session.gate (Text.stripChars transcript) r.toReadings
          s.activeUntil).1 r s) := afterWake_answer
    rw [woken_of_ne] at hanswer
    · simpa only [TextWakeProvider.accept, hprocess] using hanswer
    · simp [TextWakeProvider.accept, hprocess, hinactive, TextWakeProvider.kindOf]

def Opens (session : ContinuousVoiceSession u) (s : Memory) (transcript : Chars) (r : Readings)
    (renewal : Double) : Prop :=
  hearing session transcript = .wake ∧ renewal = r.checked ∨
    hearing session transcript = .follow ∧ r.checked ≤ s.activeUntil ∧ renewal = r.renewed

theorem accept_open {renewal : Double} (hgate : session.gate.enabled = true)
    (h : Opens session s transcript r renewal) :
    ∃ d : WakeDecision,
      d.active = session.gate.active r.active (renewal.add session.gate.activeTimeoutS) ∧
      d.event.kind =
        TextWakeProvider.kindOf d.command d.active (session.gate.active r.wasActive s.activeUntil) ∧
      Answer session d r
        (woken d { s with activeUntil := renewal.add session.gate.activeTimeoutS })
        (accept session transcript r s) := by
  have hprocess : ∃ command, session.gate.process (Text.stripChars transcript) r.checked r.renewed
      s.activeUntil = (command, renewal.add session.gate.activeTimeoutS) := by
    rcases h with ⟨hwake, rfl⟩ | ⟨hfollow, hopen, rfl⟩
    · exact process_wake hgate hwake r.checked r.renewed s.activeUntil
    · exact ⟨_, by rw [process_follow hgate hfollow, if_pos hopen]⟩
  have hheard : hearing session transcript = .wake ∨ hearing session transcript = .follow :=
    h.imp And.left And.left
  obtain ⟨command, hcommand⟩ := hprocess
  rw [accept_heard hheard]
  refine ⟨(TextWakeProvider.accept session.gate (Text.stripChars transcript) r.toReadings
    s.activeUntil).1, ?_, ?_, ?_⟩
  · simp only [TextWakeProvider.accept, hcommand]
  · simp only [TextWakeProvider.accept]
  · simp only [TextWakeProvider.accept, hcommand]
    exact afterWake_answer

end Calls

section Clock

variable {session} {h : List Operation} {op : Operation} {t : Double}

def Later (h : List Operation) (t : Double) : Prop :=
  0 < t ∧ ∀ r ∈ h.flatMap Operation.readings, r ≤ t

def Closed (h : List Operation) (activeUntil : Double) : Prop :=
  ∀ t, Later h t → ¬ t ≤ activeUntil

theorem timed_snoc (ht : Timed (h ++ [op])) :
    Timed h ∧ (∀ t ∈ op.readings, Later h t) ∧ op.readings.Pairwise (· ≤ ·) := by
  obtain ⟨hpositive, hordered⟩ := ht
  simp only [List.flatMap_append, List.flatMap_singleton, List.mem_append] at hpositive hordered
  obtain ⟨hbefore, hop, hcross⟩ := List.pairwise_append.mp hordered
  refine ⟨⟨fun t hmem ↦ hpositive t (.inl hmem), hbefore⟩, fun t hmem ↦ ?_, hop⟩
  exact ⟨hpositive t (.inr hmem), fun earlier hearlier ↦ hcross earlier hearlier t hmem⟩

theorem Later.of_snoc (ht : Later (h ++ [op]) t) : Later h t ∧ ∀ r ∈ op.readings, r ≤ t := by
  obtain ⟨hpositive, hall⟩ := ht
  simp only [List.flatMap_append, List.flatMap_singleton, List.mem_append] at hall
  exact ⟨⟨hpositive, fun r hr ↦ hall r (.inl hr)⟩, fun r hr ↦ hall r (.inr hr)⟩

theorem Closed.snoc {activeUntil : Double} (hc : Closed h activeUntil) :
    Closed (h ++ [op]) activeUntil :=
  fun t ht ↦ hc t ht.of_snoc.1

theorem closed_zero : Closed h 0 :=
  fun _ ht hle ↦ Double.lt_irrefl _ (Double.lt_of_le_of_lt hle ht.1)

theorem closed_of_reading {activeUntil : Double} (ht : t ∈ op.readings)
    (hc : ¬ t ≤ activeUntil) : Closed (h ++ [op]) activeUntil := by
  intro later hlater hle
  exact hc (Double.le_trans (hlater.of_snoc.2 t ht) hle)

end Clock

section Invariant

variable {session} {h : List Operation} {op : Operation} {s : Memory}

def Spells (session : ContinuousVoiceSession u) (stamps : List (Double × Double)) : Prop :=
  stamps.IsChain fun earlier later ↦ later.1 ≤ earlier.2.add session.gate.activeTimeoutS

def Window (session : ContinuousVoiceSession u) (h : List Operation) (activeUntil : Double) :
    Prop :=
  ∃ before w mid stamp, h = before ++ w :: mid ∧ w.IsWake session ∧
    (∀ o ∈ mid, ¬ o.IsSleep session) ∧
    Spells session ((w :: mid).filterMap (Operation.stamp session)) ∧
    ((w :: mid).filterMap (Operation.stamp session)).getLast? = some stamp ∧
    activeUntil = stamp.2.add session.gate.activeTimeoutS

theorem Window.inSession {activeUntil : Double} (hw : Window session h activeUntil) :
    InSession session h := by
  obtain ⟨before, w, mid, stamp, hsplit, hwake, hsleep, hspells, -⟩ := hw
  exact ⟨before, w, mid, hsplit, hwake, hsleep, hspells⟩

theorem Window.new {stamp : Double × Double} (hwake : op.IsWake session)
    (hstamp : op.stamp session = some stamp) :
    Window session (h ++ [op]) (stamp.2.add session.gate.activeTimeoutS) := by
  refine ⟨h, op, [], stamp, rfl, hwake, by simp, ?_, ?_, rfl⟩
  · simp [Spells, hstamp]
  · simp [hstamp]

theorem Window.renew {activeUntil : Double} {stamp : Double × Double}
    (hw : Window session h activeUntil) (hsleep : ¬ op.IsSleep session)
    (hstamp : op.stamp session = some stamp) (hle : stamp.1 ≤ activeUntil) :
    Window session (h ++ [op]) (stamp.2.add session.gate.activeTimeoutS) := by
  obtain ⟨before, w, mid, last, rfl, hwake, hquiet, hspells, hlast, rfl⟩ := hw
  have hstamps : (w :: (mid ++ [op])).filterMap (Operation.stamp session) =
      (w :: mid).filterMap (Operation.stamp session) ++ [stamp] := by
    rw [← List.cons_append, List.filterMap_append]
    simp [hstamp]
  refine ⟨before, w, mid ++ [op], stamp, by simp, hwake, ?_, ?_, ?_, rfl⟩
  · intro o ho
    rcases List.mem_append.mp ho with hmid | hop
    · exact hquiet o hmid
    · rwa [List.mem_singleton.mp hop]
  · rw [hstamps, Spells, List.isChain_append]
    refine ⟨hspells, List.isChain_singleton stamp, fun x hx y hy ↦ ?_⟩
    rw [hlast] at hx
    obtain rfl := Option.some.inj hx
    simp only [List.head?_cons, Option.mem_def, Option.some.injEq] at hy
    rwa [← hy]
  · rw [hstamps, List.getLast?_concat]

theorem Window.keep {activeUntil : Double} (hw : Window session h activeUntil)
    (hsleep : ¬ op.IsSleep session) (hstamp : op.stamp session = none) :
    Window session (h ++ [op]) activeUntil := by
  obtain ⟨before, w, mid, last, rfl, hwake, hquiet, hspells, hlast, rfl⟩ := hw
  have hstamps : (w :: (mid ++ [op])).filterMap (Operation.stamp session) =
      (w :: mid).filterMap (Operation.stamp session) := by
    rw [← List.cons_append, List.filterMap_append]
    simp [hstamp]
  refine ⟨before, w, mid ++ [op], last, by simp, hwake, ?_, ?_, ?_, rfl⟩
  · intro o ho
    rcases List.mem_append.mp ho with hmid | hop
    · exact hquiet o hmid
    · rwa [List.mem_singleton.mp hop]
  · rwa [hstamps]
  · rwa [hstamps]

/-- A wake with no report of a timeout since. -/
def WakeUnreported (session : ContinuousVoiceSession u) (h : List Operation) : Prop :=
  ∃ before w mid, h = before ++ w :: mid ∧ w.IsWake session ∧
    Quiet (fun past o ↦ ReportsTimeout session (state session past) o) before (w :: mid)

structure Coherent (session : ContinuousVoiceSession u) (h : List Operation) (s : Memory) :
    Prop where
  window : Closed h s.activeUntil ∨ Window session h s.activeUntil
  flag : s.hadActiveSession = false → Closed h s.activeUntil
  wake : s.hadActiveSession = true → WakeUnreported session h

theorem WakeUnreported.snoc (hw : WakeUnreported session h)
    (hop : ¬ ReportsTimeout session (state session h) op) : WakeUnreported session (h ++ [op]) := by
  obtain ⟨before, w, mid, rfl, hwake, hquiet⟩ := hw
  refine ⟨before, w, mid ++ [op], by simp, hwake, ?_⟩
  rw [← List.cons_append]
  exact hquiet.snoc hop

theorem wakeUnreported_new (hwake : op.IsWake session)
    (hop : ¬ ReportsTimeout session (state session h) op) : WakeUnreported session (h ++ [op]) := by
  refine ⟨h, op, [], rfl, hwake, ?_⟩
  have hnil : Quiet (fun past o ↦ ReportsTimeout session (state session past) o) h [] := quiet_nil
  exact hnil.snoc (by simpa using hop)

theorem reports_accept {transcript : Chars} {r : Readings} :
    ReportsTimeout session s (.accept transcript r) ↔
      (accept session transcript r s).1.reason = "session_timeout" := by
  simp [ReportsTimeout, step]

theorem not_reports_wake {provider : String} {transcript : Chars} {reading : Double} :
    ¬ ReportsTimeout session s (.externalWake provider transcript reading) := by
  simp [ReportsTimeout, step]

theorem coherent_unheard {transcript : Chars} {r : Readings}
    (hhear : hearing session transcript = .unheard)
    (hc : Coherent session h (state session h)) :
    Coherent session (h ++ [.accept transcript r])
      (step session (state session h) (.accept transcript r)).1 := by
  obtain ⟨reason, hreason, haccept⟩ := accept_unheard (r := r) (s := state session h) hhear
  have hsame : (step session (state session h) (.accept transcript r)).1 = state session h := by
    rw [step, haccept]
  rw [hsame]
  refine ⟨?_, fun hflag ↦ (hc.flag hflag).snoc, fun hflag ↦ (hc.wake hflag).snoc ?_⟩
  · rcases hc.window with hclosed | hwindow
    · exact .inl hclosed.snoc
    · refine .inr (hwindow.keep ?_ ?_)
      · simp [Operation.IsSleep, hhear]
      · simp [Operation.stamp, hhear]
  · rw [reports_accept, haccept]
    exact hreason

theorem checked_le_active {transcript : Chars} {r : Readings}
    (h : (Operation.accept transcript r).readings.Pairwise (· ≤ ·)) : r.checked ≤ r.active := by
  simp only [Operation.readings, List.pairwise_cons, List.mem_cons] at h
  exact h.2.1 r.active (by simp)

theorem coherent_expired {transcript : Chars} {r : Readings} (hgate : session.gate.enabled = true)
    (hordered : (Operation.accept transcript r).readings.Pairwise (· ≤ ·))
    (hhear : hearing session transcript = .follow)
    (hclosed : ¬ r.checked ≤ (state session h).activeUntil)
    (hc : Coherent session h (state session h)) :
    Coherent session (h ++ [.accept transcript r])
      (step session (state session h) (.accept transcript r)).1 := by
  have hactive : ¬ r.active ≤ (state session h).activeUntil :=
    fun hle ↦ hclosed (Double.le_trans (checked_le_active hordered) hle)
  obtain ⟨d, hcommand, hinactive, -, hanswer⟩ := accept_expired hgate hhear hclosed hactive
  have hshut : Closed (h ++ [.accept transcript r])
      (accept session transcript r (state session h)).2.activeUntil := by
    rw [hanswer.activeUntil]
    exact closed_of_reading (t := r.checked) (by simp [Operation.readings]) hclosed
  refine ⟨.inl hshut, fun _ ↦ hshut, fun hflag ↦ ?_⟩
  change (accept session transcript r (state session h)).2.hadActiveSession = true at hflag
  have hsilent : ¬ ReportsTimeout session (state session h) (.accept transcript r) := by
    rw [reports_accept]
    intro hreport
    rw [hanswer.reports hreport] at hflag
    cases hflag
  exact (hc.wake (hanswer.flag_before hcommand hflag)).snoc hsilent

theorem coherent_open {transcript : Chars} {r : Readings} {renewal : Double}
    (hgate : session.gate.enabled = true)
    (hlater : Later h r.wasActive)
    (hopens : Opens session (state session h) transcript r renewal)
    (hc : Coherent session h (state session h))
    (hwindow : Window session (h ++ [.accept transcript r])
      (renewal.add session.gate.activeTimeoutS))
    (hwake : (state session h).hadActiveSession = false →
      (Operation.accept transcript r).IsWake session) :
    Coherent session (h ++ [.accept transcript r])
      (step session (state session h) (.accept transcript r)).1 := by
  obtain ⟨d, hactive, hkind, hanswer⟩ := accept_open hgate hopens
  have huntil : (accept session transcript r (state session h)).2.activeUntil =
      renewal.add session.gate.activeTimeoutS := by
    rw [hanswer.activeUntil, woken_activeUntil]
  refine ⟨.inr ?_, fun hflag ↦ ?_, fun hflag ↦ ?_⟩
  · change Window session _ (accept session transcript r (state session h)).2.activeUntil
    rwa [huntil]
  · change Closed _ (accept session transcript r (state session h)).2.activeUntil
    rw [huntil]
    -- an active gate leaves the flag down only if it was down in an open window
    cases ha : d.active with
    | false =>
      apply closed_of_reading (t := r.active) (by simp [Operation.readings])
      rw [← WakeWordGate.active_iff hgate, ← hactive, ha]
      exact Bool.false_ne_true
    | true =>
      obtain ⟨hne, hdown⟩ := woken_flag (hanswer.flag hflag ha)
      rw [hkind, ha] at hne
      have hopen := (WakeWordGate.active_iff hgate).mp (kindOf_ne_wake hne)
      exact absurd hopen (hc.flag hdown r.wasActive hlater)
  · have hsilent : ¬ ReportsTimeout session (state session h) (.accept transcript r) := by
      rw [reports_accept]
      intro hreport
      change (accept session transcript r (state session h)).2.hadActiveSession = true at hflag
      rw [hanswer.reports hreport] at hflag
      cases hflag
    cases hbefore : (state session h).hadActiveSession with
    | false => exact wakeUnreported_new (hwake hbefore) hsilent
    | true => exact (hc.wake hbefore).snoc hsilent

theorem coherent_step (hgate : session.gate.enabled = true) (htimed : Timed (h ++ [op]))
    (hc : Coherent session h (state session h)) :
    Coherent session (h ++ [op]) (step session (state session h) op).1 := by
  obtain ⟨-, hlater, hordered⟩ := timed_snoc htimed
  cases op with
  | externalSleep provider =>
    exact ⟨.inl closed_zero, fun _ ↦ closed_zero, by simp [step, externalSleep, asleep]⟩
  | externalWake provider transcript reading =>
    have hwake : (Operation.externalWake provider transcript reading).IsWake session := trivial
    have hstamp : (Operation.externalWake provider transcript reading).stamp session =
        some (reading, reading) := rfl
    exact ⟨.inr (Window.new hwake hstamp), by simp [step, externalWake],
      fun _ ↦ wakeUnreported_new hwake not_reports_wake⟩
  | accept transcript r =>
    have hwas : Later h r.wasActive := hlater _ (by simp [Operation.readings])
    have hchecked : Later h r.checked := hlater _ (by simp [Operation.readings])
    cases hhear : hearing session transcript with
    | unheard => exact coherent_unheard hhear hc
    | sleep =>
      have hasleep : (step session (state session h) (.accept transcript r)).1 = asleep := by
        rw [step, accept_sleep hhear]
      rw [hasleep]
      exact ⟨.inl closed_zero, fun _ ↦ closed_zero, by simp [asleep]⟩
    | wake =>
      have hstamp : (Operation.accept transcript r).stamp session =
          some (r.checked, r.checked) := by simp [Operation.stamp, hhear]
      have hwake : (Operation.accept transcript r).IsWake session := hhear
      exact coherent_open hgate hwas (.inl ⟨hhear, rfl⟩) hc (Window.new hwake hstamp)
        fun _ ↦ hwake
    | follow =>
      by_cases hopen : r.checked ≤ (state session h).activeUntil
      · have hstamp : (Operation.accept transcript r).stamp session =
            some (r.checked, r.renewed) := by simp [Operation.stamp, hhear]
        have hwindow := hc.window.resolve_left fun hclosed ↦ hclosed _ hchecked hopen
        refine coherent_open hgate hwas (.inr ⟨hhear, hopen, rfl⟩) hc
          (hwindow.renew ?_ hstamp hopen) fun hdown ↦ ?_
        · simp [Operation.IsSleep, hhear]
        · exact absurd hopen (hc.flag hdown _ hchecked)
      · exact coherent_expired hgate hordered hhear hopen hc

theorem coherent (hgate : session.gate.enabled = true) (htimed : Timed h) :
    Coherent session h (state session h) := by
  induction h using List.reverseRecOn with
  | nil => exact ⟨.inl closed_zero, fun _ ↦ closed_zero, by simp [state, asleep]⟩
  | append_singleton h op ih =>
    rw [state, run_snoc]
    exact coherent_step hgate htimed (ih (timed_snoc htimed).1)

end Invariant

section Duplicates

variable {session} {h : List Operation} {op : Operation} {s : Memory} {text transcript : Chars}
  {r : Readings} {t : Double}

theorem accept_answer
    (hhear : hearing session transcript = .wake ∨ hearing session transcript = .follow) :
    ∃ (d : WakeDecision) (activeUntil : Double),
      d.event.kind =
        TextWakeProvider.kindOf d.command d.active (session.gate.active r.wasActive s.activeUntil) ∧
      Answer session d r (woken d { s with activeUntil := activeUntil })
        (accept session transcript r s) := by
  rw [accept_heard hhear]
  exact ⟨_, _, rfl, afterWake_answer⟩

theorem accept_answer_within
    (hhear : hearing session transcript = .wake ∨ hearing session transcript = .follow)
    (hrestart : ¬ Restarts session s (.accept transcript r)) :
    ∃ (d : WakeDecision) (activeUntil : Double),
      Answer session d r { s with activeUntil := activeUntil }
        (accept session transcript r s) := by
  obtain ⟨d, activeUntil, -, hanswer⟩ := accept_answer (s := s) (r := r) hhear
  have hkind : d.event.kind ≠ .wake := by
    rw [← hanswer.wakeEvent]
    exact fun hwake ↦ hrestart (.inl hwake)
  rw [woken_of_ne hkind] at hanswer
  exact ⟨d, activeUntil, hanswer⟩

theorem acceptsOrdinary_accept : AcceptsOrdinary session text s (.accept transcript r) ↔
    (accept session transcript r s).1.accepted = true ∧
      (accept session transcript r s).1.priorityStop = false ∧
        ∃ command, (accept session transcript r s).1.command = some command ∧
          normalizeShortText u command = text := by
  simp [AcceptsOrdinary, step]

theorem heard_of_accepted (h : (accept session transcript r s).1.accepted = true) :
    hearing session transcript = .wake ∨ hearing session transcript = .follow := by
  cases hhear : hearing session transcript with
  | unheard =>
    obtain ⟨reason, -, haccept⟩ := accept_unheard (r := r) (s := s) hhear
    simp [haccept, ignored, decisionFromWake] at h
  | sleep => simp [accept_sleep hhear, sleepDecision] at h
  | wake => exact .inl rfl
  | follow => exact .inr rfl

theorem ordinary_remembered (h : AcceptsOrdinary session text s (.accept transcript r)) :
    (step session s (.accept transcript r)).1.lastCommandText = text ∧
      (step session s (.accept transcript r)).1.lastCommandAt = r.remembered := by
  obtain ⟨haccepted, hstop, command, hcommand, rfl⟩ := acceptsOrdinary_accept.mp h
  obtain ⟨d, activeUntil, -, hanswer⟩ :=
    accept_answer (s := s) (r := r) (heard_of_accepted haccepted)
  obtain ⟨htext, hat, -⟩ := hanswer.ordinary_inv haccepted hstop hcommand
  exact ⟨htext, hat⟩

theorem ordinary_apart (h : AcceptsOrdinary session text s (.accept transcript r))
    (hrestart : ¬ Restarts session s (.accept transcript r)) (htext : text ≠ [])
    (hwindow : ¬ session.duplicateWindowS ≤ 0) (hlast : s.lastCommandText = text) :
    ¬ r.duplicate.sub s.lastCommandAt ≤ session.duplicateWindowS := by
  obtain ⟨haccepted, hstop, command, hcommand, rfl⟩ := acceptsOrdinary_accept.mp h
  obtain ⟨d, activeUntil, hanswer⟩ := accept_answer_within (heard_of_accepted haccepted) hrestart
  obtain ⟨-, -, hduplicate⟩ := hanswer.ordinary_inv haccepted hstop hcommand
  simpa [isDuplicateCommand, hwindow, htext, hlast] using hduplicate

theorem memory_kept (hrestart : ¬ Restarts session s op)
    (hordinary : ¬ ∃ text, AcceptsOrdinary session text s op) :
    (step session s op).1.lastCommandText = s.lastCommandText ∧
      (step session s op).1.lastCommandAt = s.lastCommandAt := by
  cases op with
  | externalWake provider transcript reading => exact absurd trivial hrestart
  | externalSleep provider => exact absurd trivial hrestart
  | accept transcript r =>
    change (accept session transcript r s).2.lastCommandText = _ ∧
      (accept session transcript r s).2.lastCommandAt = _
    have hheard (hhear : hearing session transcript = .wake ∨
        hearing session transcript = .follow) :
        (accept session transcript r s).2.lastCommandText = s.lastCommandText ∧
          (accept session transcript r s).2.lastCommandAt = s.lastCommandAt := by
      obtain ⟨d, activeUntil, hanswer⟩ := accept_answer_within hhear hrestart
      refine hanswer.kept (fun hreport ↦ hrestart (.inr (.inr hreport))) ?_
      rintro ⟨haccepted, hstop, hsome⟩
      obtain ⟨command, hcommand⟩ := Option.isSome_iff_exists.mp hsome
      exact hordinary ⟨_, acceptsOrdinary_accept.mpr ⟨haccepted, hstop, command, hcommand, rfl⟩⟩
    cases hhear : hearing session transcript with
    | unheard =>
      obtain ⟨reason, -, haccept⟩ := accept_unheard (r := r) (s := s) hhear
      rw [haccept]
      exact ⟨rfl, rfl⟩
    | sleep =>
      refine absurd (.inr (.inl ?_)) hrestart
      simp [accept_sleep hhear, sleepDecision, TextWakeProvider.sleepEvent]
    | wake => exact hheard (.inl hhear)
    | follow => exact hheard (.inr hhear)

theorem memory_between {before mid : List Operation} {first : Operation}
    (h : (step session (state session before) first).1.lastCommandText = text ∧
      (step session (state session before) first).1.lastCommandAt = t)
    (hordinary : Quiet (fun past o ↦ ∃ text, AcceptsOrdinary session text (state session past) o)
      (before ++ [first]) mid)
    (hrestart : Quiet (fun past o ↦ Restarts session (state session past) o) (before ++ [first])
      mid) :
    (state session (before ++ first :: mid)).lastCommandText = text ∧
      (state session (before ++ first :: mid)).lastCommandAt = t := by
  rw [List.append_cons]
  induction mid using List.reverseRecOn with
  | nil => rwa [List.append_nil, state, run_snoc]
  | append_singleton mid o ih =>
    obtain ⟨hquiet, ho⟩ := hordinary.of_snoc
    obtain ⟨hquiet', ho'⟩ := hrestart.of_snoc
    obtain ⟨htext, hat⟩ := ih hquiet hquiet'
    obtain ⟨hkept, hkept'⟩ := memory_kept ho' ho
    rw [← List.append_assoc, state, run_snoc]
    exact ⟨hkept.trans htext, hkept'.trans hat⟩

def CommandsApart (session : ContinuousVoiceSession u) (h : List Operation) : Prop :=
  ∀ before transcript r mid transcript' r' text,
    h = before ++ .accept transcript r :: (mid ++ [.accept transcript' r']) →
    AcceptsOrdinary session text (state session before) (.accept transcript r) →
    AcceptsOrdinary session text (state session (before ++ .accept transcript r :: mid))
      (.accept transcript' r') →
    Quiet (fun past o ↦ ∃ text, AcceptsOrdinary session text (state session past) o)
      (before ++ [.accept transcript r]) mid →
    Quiet (fun past o ↦ Restarts session (state session past) o)
      (before ++ [.accept transcript r]) (mid ++ [.accept transcript' r']) →
    text ≠ [] → ¬ session.duplicateWindowS ≤ 0 →
    ¬ r'.duplicate.sub r.remembered ≤ session.duplicateWindowS

theorem commandsApart (session : ContinuousVoiceSession u) (h : List Operation) :
    CommandsApart session h := by
  rintro before transcript r mid transcript' r' text - hfirst hsecond hordinary hrestart htext
    hwindow
  obtain ⟨hquiet, hlast⟩ := hrestart.of_snoc
  obtain ⟨hmemory, hat⟩ := memory_between (ordinary_remembered hfirst) hordinary hquiet
  rw [← List.append_cons] at hlast
  have hapart := ordinary_apart hsecond hlast htext hwindow hmemory
  rwa [hat] at hapart

end Duplicates

variable {session} {h : List Operation} {op : Operation}

theorem inSession_of_accepts (hgate : session.gate.enabled = true) (htimed : Timed (h ++ [op]))
    (haccepts : Accepts session (state session h) op) : InSession session (h ++ [op]) := by
  obtain ⟨hbefore, hlater, hordered⟩ := timed_snoc htimed
  obtain ⟨d, hd, haccepted⟩ := haccepts
  cases op with
  | externalWake provider transcript reading => cases hd
  | externalSleep provider => cases hd
  | accept transcript r =>
    cases hd
    have hchecked : Later h r.checked := hlater _ (by simp [Operation.readings])
    rcases heard_of_accepted haccepted with hwake | hfollow
    · have hstamp : (Operation.accept transcript r).stamp session =
          some (r.checked, r.checked) := by simp [Operation.stamp, hwake]
      have hop : (Operation.accept transcript r).IsWake session := hwake
      exact (Window.new hop hstamp).inSession
    · have hstamp : (Operation.accept transcript r).stamp session =
          some (r.checked, r.renewed) := by simp [Operation.stamp, hfollow]
      by_cases hopen : r.checked ≤ (state session h).activeUntil
      · have hwindow := (coherent hgate hbefore).window.resolve_left fun hclosed ↦
          hclosed _ hchecked hopen
        refine (hwindow.renew ?_ hstamp hopen).inSession
        simp [Operation.IsSleep, hfollow]
      · have hactive : ¬ r.active ≤ (state session h).activeUntil :=
          fun hle ↦ hopen (Double.le_trans (checked_le_active hordered) hle)
        obtain ⟨d, hcommand, -, -, hanswer⟩ := accept_expired hgate hfollow hopen hactive
        exact absurd hcommand (hanswer.command_of_accepted haccepted)

theorem flag_of_reports {s : Memory} (hreport : ReportsTimeout session s op) :
    s.hadActiveSession = true := by
  cases op with
  | externalWake provider transcript reading => simp [ReportsTimeout, step] at hreport
  | externalSleep provider => simp [ReportsTimeout, step] at hreport
  | accept transcript r =>
    rw [reports_accept] at hreport
    have hheard (hhear : hearing session transcript = .wake ∨
        hearing session transcript = .follow) : s.hadActiveSession = true := by
      obtain ⟨d, activeUntil, hkind, hanswer⟩ := accept_answer (s := s) (r := r) hhear
      obtain ⟨hcommand, hactive, hflag⟩ := hanswer.reported hreport
      have hne : d.event.kind ≠ .wake := by
        simp [hkind, hcommand, hactive, TextWakeProvider.kindOf]
      rwa [woken_of_ne hne] at hflag
    cases hhear : hearing session transcript with
    | unheard =>
      obtain ⟨reason, hreason, haccept⟩ := accept_unheard (r := r) (s := s) hhear
      rw [haccept] at hreport
      exact absurd hreport hreason
    | sleep => simp [accept_sleep hhear, sleepDecision] at hreport
    | wake => exact hheard (.inl hhear)
    | follow => exact hheard (.inr hhear)

theorem commands_need_a_session (session : ContinuousVoiceSession u)
    (hgate : session.gate.enabled = true) (h : List Operation) (op : Operation)
    (htimed : Timed (h ++ [op])) :
    (Accepts session (state session h) op → InSession session (h ++ [op])) ∧
      (ReportsTimeout session (state session h) op → WakeUnreported session h) ∧
        CommandsApart session (h ++ [op]) := by
  refine ⟨inSession_of_accepts hgate htimed, fun hreport ↦ ?_, commandsApart session _⟩
  exact (coherent hgate (timed_snoc htimed).1).wake (flag_of_reports hreport)

def plain : Unicode := { lower := id, digit := fun _ ↦ none }

def gate : WakeWordGate plain where
  given := ["小智".toList]
  words := ["小智".toList]
  activeTimeoutS := .ofRat 10
  perm := by decide
  longest_first := by decide

def listening : ContinuousVoiceSession plain := { gate := gate, enabled := true }

/-- Without a window for duplicates. -/
def eager : ContinuousVoiceSession plain := { listening with givenDuplicateWindowS := 0 }

/-- Outside the continuous mode. -/
def single : ContinuousVoiceSession plain := { listening with enabled := false }

def spoken (text : String) (t : ℚ) : Operation :=
  .accept text.toList
    { wasActive := .ofRat t
      checked := .ofRat t
      renewed := .ofRat t
      active := .ofRat t
      duplicate := .ofRat t
      remembered := .ofRat t }

def woke : Operation := .externalWake "sherpa_kws" "小智".toList (.ofRat 1)

theorem commands_need_a_session_heard : InSession listening [woke, spoken "向前走" 2] :=
  (commands_need_a_session listening rfl [woke] (spoken "向前走" 2)
    ⟨by decide +kernel, by decide +kernel⟩).1 ⟨_, rfl, by decide +kernel⟩

/-- Punctuation, a window of zero, and a sleep word outside of the continuous mode. -/
theorem repeated_within_the_window :
    (Timed [woke, spoken "，" 2, spoken "，" 2] ∧
      AcceptsOrdinary listening [] (state listening [woke]) (spoken "，" 2) ∧
      AcceptsOrdinary listening [] (state listening [woke, spoken "，" 2]) (spoken "，" 2) ∧
      ¬ Restarts listening (state listening [woke, spoken "，" 2]) (spoken "，" 2) ∧
      (Double.ofRat 2).sub (.ofRat 2) ≤ listening.duplicateWindowS) ∧
    (AcceptsOrdinary eager "前进".toList (state eager [woke]) (spoken "前进" 2) ∧
      AcceptsOrdinary eager "前进".toList (state eager [woke, spoken "前进" 2])
        (spoken "前进" 2) ∧
      ¬ Restarts eager (state eager [woke, spoken "前进" 2]) (spoken "前进" 2) ∧
      (Double.ofRat 2).sub (.ofRat 2) ≤ eager.duplicateWindowS) ∧
    (isSleepCommand single "休眠".toList = true ∧
      AcceptsOrdinary single "前进".toList (state single [woke, spoken "休眠" 2])
        (spoken "前进" 2)) := by
  refine ⟨⟨⟨by decide +kernel, by decide +kernel⟩, ?_, ?_, ?_, by decide +kernel⟩,
    ⟨?_, ?_, ?_, by decide +kernel⟩, by decide +kernel, ?_⟩
  · exact ⟨_, "，".toList, rfl, by decide +kernel⟩
  · exact ⟨_, "，".toList, rfl, by decide +kernel⟩
  · change ¬ (_ ∨ _ ∨ _)
    decide +kernel
  · exact ⟨_, "前进".toList, rfl, by decide +kernel⟩
  · exact ⟨_, "前进".toList, rfl, by decide +kernel⟩
  · change ¬ (_ ∨ _ ∨ _)
    decide +kernel
  · exact ⟨_, "前进".toList, rfl, by decide +kernel⟩

end EmbodiedAgent.Agent.ContinuousVoice
