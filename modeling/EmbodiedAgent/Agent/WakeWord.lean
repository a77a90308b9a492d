import EmbodiedAgent.Library.Search

namespace EmbodiedAgent.Agent

open Library Search

/-- `str.strip` with the characters to be taken off. -/
def stripOf (characters text : Chars) : Chars :=
  (text.dropWhile (· ∈ characters)).rdropWhile (· ∈ characters)

namespace WakeWordGate

def remainderEdges : Chars := " ，,。.!！?？".toList

def triggers (u : Unicode) (words : List Chars) : List Chars :=
  (((words.map Text.stripChars).filter (· ≠ [])).map u.lower).dedup

end WakeWordGate

structure WakeWordGate (u : Unicode) where
  given : List Chars
  words : List Chars
  enabled : Bool := true
  activeTimeoutS : Double
  perm : words.Perm (WakeWordGate.triggers u given)
  longest_first : words.Pairwise fun v w ↦ w.length ≤ v.length

namespace WakeWordGate

variable {u : Unicode} (gate : WakeWordGate u)

def search (text : Chars) : Option (ℕ × Chars) :=
  gate.words.findSome? fun word ↦ (find word (u.lower text)).map (·, word)

def remainder (text : Chars) (index : ℕ) (word : Chars) : Option Chars :=
  let rest := stripOf remainderEdges (text.take index ++ text.drop (index + word.length))
  if rest = [] then none else some rest

def process (transcript : Chars) (checked renewed activeUntil : Double) : Option Chars × Double :=
  let text := Text.stripChars transcript
  if text = [] then (none, activeUntil)
  else if !gate.enabled then (some text, activeUntil)
  else
    match gate.search text with
    | some (index, word) => (remainder text index word, checked.add gate.activeTimeoutS)
    | none =>
      if checked ≤ activeUntil then (some text, renewed.add gate.activeTimeoutS)
      else (none, activeUntil)

def active (reading activeUntil : Double) : Bool := !gate.enabled || decide (reading ≤ activeUntil)

variable {gate} {text : Chars} {t t' activeUntil : Double}

theorem active_iff (h : gate.enabled = true) : gate.active t activeUntil = true ↔
    t ≤ activeUntil := by
  simp [active, h]

end WakeWordGate

inductive WakeEventKind
  | wake
  | continue
  | rejected
  | sleep
  deriving DecidableEq

structure WakeEvent where
  kind : WakeEventKind
  provider : String
  transcript : Chars := []
  command : Option Chars := none

structure WakeDecision where
  command : Option Chars
  active : Bool
  event : WakeEvent

namespace TextWakeProvider

def providerName : String := "text"

def orExternal (provider : String) : String := if provider = "" then "external" else provider

def sleepEvent : WakeEvent := { kind := .sleep, provider := providerName }

def externalWakeEvent (provider : String) (transcript : Chars) : WakeEvent :=
  { kind := .wake, provider := orExternal provider, transcript := transcript }

def externalSleepEvent (provider : String) : WakeEvent :=
  { kind := .sleep, provider := orExternal provider }

/-- The readings of the clock in a call of `accept`, in their order. -/
structure Readings where
  wasActive : Double
  checked : Double
  renewed : Double
  active : Double

variable {u : Unicode} (gate : WakeWordGate u)

def kindOf (command : Option Chars) (active wasActive : Bool) : WakeEventKind :=
  match command with
  | some _ => if wasActive then .continue else .wake
  | none => if active && !wasActive then .wake else .rejected

def accept (transcript : Chars) (r : Readings) (activeUntil : Double) : WakeDecision × Double :=
  let wasActive := gate.active r.wasActive activeUntil
  let processed := gate.process transcript r.checked r.renewed activeUntil
  let active := gate.active r.active processed.2
  ({ command := processed.1
     active := active
     event :=
       { kind := kindOf processed.1 active wasActive
         provider := providerName
         transcript := transcript
         command := processed.1 } }, processed.2)

end TextWakeProvider

end EmbodiedAgent.Agent
