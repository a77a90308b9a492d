import EmbodiedAgent.Agent.WakeWord
import EmbodiedAgent.Library.History

namespace EmbodiedAgent.Agent.ContinuousVoice

open Library Search History

def defaultSleepWords : List String := ["退出控制", "结束控制", "休眠", "睡眠", "先这样"]

def defaultExactSleepWords : List String := ["退出", "结束"]

def defaultPriorityStopWords : List String := ["停下", "停止", "急停", "刹车", "别动"]

def defaultFillerWords : List String := ["嗯", "嗯嗯", "啊", "哦", "噢", "呃", "额", "唔"]

def punctuationChars : Chars := " \t\r\n，。！？!?、,.；;：:".toList

def normalizeShortText (u : Unicode) (text : Chars) : Chars :=
  u.lower (text.filter (· ∉ punctuationChars))

inductive SessionEventKind
  | wake
  | command
  | rejected
  | sleep

structure SessionEvent where
  kind : SessionEventKind
  sessionState : String
  wakeEvent : WakeEvent
  transcript : Chars := []
  command : Option Chars := none

structure SessionDecision where
  command : Option Chars
  accepted : Bool
  reason : String
  sessionActive : Bool
  priorityStop : Bool := false
  event : SessionEvent

structure ContinuousVoiceSession (u : Unicode) where
  gate : WakeWordGate u
  enabled : Bool
  givenSleepWords : List String := defaultSleepWords
  givenExactSleepWords : List String := defaultExactSleepWords
  givenPriorityStopWords : List String := defaultPriorityStopWords
  givenFillerWords : List String := defaultFillerWords
  givenDuplicateWindowS : Double := .ofRat (12 / 10)

namespace ContinuousVoiceSession

variable {u : Unicode} (session : ContinuousVoiceSession u)

def sleepWords : List String := session.givenSleepWords.filter (· ≠ "")

def exactSleepWords : List Chars :=
  (session.givenExactSleepWords.filter (· ≠ "")).map (normalizeShortText u ·.toList)

def priorityStopWords : List String := session.givenPriorityStopWords.filter (· ≠ "")

def fillerWords : List Chars :=
  (session.givenFillerWords.filter (· ≠ "")).map (normalizeShortText u ·.toList)

def duplicateWindowS : Double := Double.max 0 session.givenDuplicateWindowS

end ContinuousVoiceSession

/-- What a session remembers, the window of its gate included. -/
structure Memory where
  activeUntil : Double := 0
  lastCommandText : Chars := []
  lastCommandAt : Double := 0
  hadActiveSession : Bool := false

def Memory.forgetCommand (s : Memory) : Memory :=
  { s with lastCommandText := [], lastCommandAt := 0 }

/-- The readings of the clock in a call of `accept`, in their order. -/
structure Readings extends TextWakeProvider.Readings where
  duplicate : Double
  remembered : Double

def sessionKind (kind : WakeEventKind) (accepted : Bool) : SessionEventKind :=
  match kind with
  | .sleep => .sleep
  | .wake => if accepted then .command else .wake
  | _ => if accepted then .command else .rejected

def decisionFromWake (d : WakeDecision) (accepted : Bool) (reason : String)
    (command : Option Chars) (priorityStop : Bool) : SessionDecision :=
  { command := command
    accepted := accepted
    reason := reason
    sessionActive := d.active
    priorityStop := priorityStop
    event :=
      { kind := sessionKind d.event.kind accepted
        sessionState := if d.active then "awake" else "sleeping"
        wakeEvent := d.event
        transcript := d.event.transcript
        command := command } }

variable {u : Unicode} (session : ContinuousVoiceSession u)

variable (d : WakeDecision)

def isFiller (text : Chars) : Bool :=
  decide (normalizeShortText u text ≠ []) &&
    decide (normalizeShortText u text ∈ session.fillerWords)

def isSleepCommand (text : Chars) : Bool :=
  containsAny text session.sleepWords ||
    decide (normalizeShortText u text ≠ []) &&
      decide (normalizeShortText u text ∈ session.exactSleepWords)

def isPriorityStop (command : Chars) : Bool := containsAny command session.priorityStopWords

def isDuplicateCommand (s : Memory) (command : Chars) (reading : Double) : Bool :=
  if session.duplicateWindowS ≤ 0 then false
  else if normalizeShortText u command = [] ∨ normalizeShortText u command ≠ s.lastCommandText then
    false
  else decide (reading.sub s.lastCommandAt ≤ session.duplicateWindowS)

def rememberCommand (u : Unicode) (s : Memory) (command : Chars) (reading : Double) : Memory :=
  { s with lastCommandText := normalizeShortText u command, lastCommandAt := reading }

def ignored (transcript : Chars) (r : Readings) (s : Memory) (reason : String) : SessionDecision :=
  decisionFromWake
    { command := none
      active := session.gate.active r.wasActive s.activeUntil
      event := { kind := .rejected, provider := "text", transcript := transcript } }
    false reason none false

def sleepDecision (transcript : Chars) : SessionDecision :=
  { command := none
    accepted := false
    reason := "session_sleep"
    sessionActive := false
    event :=
      { kind := .sleep
        sessionState := "sleeping"
        wakeEvent := TextWakeProvider.sleepEvent
        transcript := transcript } }

def asleep : Memory := {}

def acceptNothing (s : Memory) : SessionDecision × Memory :=
  if !d.active && s.hadActiveSession then
    (decisionFromWake d false "session_timeout" none false,
      { s.forgetCommand with hadActiveSession := false })
  else
    (decisionFromWake d false (if d.active then "session_awake" else "wake_word_not_detected")
      none false, s)

def acceptCommand (command : Chars) (r : Readings) (s : Memory) : SessionDecision × Memory :=
  let priorityStop := isPriorityStop session command
  if !priorityStop && isDuplicateCommand session s command r.duplicate then
    (decisionFromWake d false "duplicate_command" none false, s)
  else
    let s := if priorityStop then s else rememberCommand u s command r.remembered
    (decisionFromWake d true "accepted" (some command) priorityStop,
      { s with hadActiveSession := d.active })

/-- From `wake_decision` on. -/
def afterWake (r : Readings) (s : Memory) : SessionDecision × Memory :=
  let s := if d.event.kind = .wake then { s.forgetCommand with hadActiveSession := true } else s
  match d.command with
  | none => acceptNothing d s
  | some command => acceptCommand session d command r s

def accept (transcript : Chars) (r : Readings) (s : Memory) : SessionDecision × Memory :=
  let text := Text.stripChars transcript
  if text = [] then (ignored session transcript r s "empty", s)
  else if isFiller session text then (ignored session transcript r s "filler", s)
  else if session.enabled && isSleepCommand session text then (sleepDecision transcript, asleep)
  else
    let d := TextWakeProvider.accept session.gate text r.toReadings s.activeUntil
    afterWake session d.1 r { s with activeUntil := d.2 }

def externalWake (provider : String) (transcript : Chars) (reading : Double) (s : Memory) :
    SessionEvent × Memory :=
  ({ kind := .wake
     sessionState := "awake"
     wakeEvent := TextWakeProvider.externalWakeEvent provider transcript
     transcript := transcript },
    { s.forgetCommand with
      activeUntil := reading.add session.gate.activeTimeoutS, hadActiveSession := true })

def externalSleep (provider : String) : SessionEvent × Memory :=
  ({ kind := .sleep
     sessionState := "sleeping"
     wakeEvent := TextWakeProvider.externalSleepEvent provider }, asleep)

inductive Operation
  | accept (transcript : Chars) (readings : Readings)
  | externalWake (provider : String) (transcript : Chars) (reading : Double)
  | externalSleep (provider : String)

inductive Outcome
  | decision (d : SessionDecision)
  | event (e : SessionEvent)

def step (s : Memory) : Operation → Memory × Outcome
  | .accept transcript r =>
    ((accept session transcript r s).2, .decision (accept session transcript r s).1)
  | .externalWake provider transcript reading =>
    ((externalWake session provider transcript reading s).2,
      .event (externalWake session provider transcript reading s).1)
  | .externalSleep provider => ((externalSleep provider).2, .event (externalSleep provider).1)

end EmbodiedAgent.Agent.ContinuousVoice
