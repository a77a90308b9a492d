import EmbodiedAgent.Audio.SpeechEndpointDetector
import EmbodiedAgent.Library.Framing

namespace EmbodiedAgent.Audio

open Library History Framing

inductive VadEventName
  | speechStarted
  | speechEnded
  deriving DecidableEq

structure VadEvent where
  name : VadEventName
  reason : String := ""
  probability : ℚ := 0
  deriving DecidableEq

abbrev Bytes := List UInt8

/-- A model that answers each frame with a probability and a new state of its own. -/
structure VadProbabilityProvider (σ : Type) where
  speechProbability : σ → Bytes → ℕ → ℚ × σ

/-- The parameters, as the constructor accepts them. -/
structure StreamingVadEndpoint where
  sampleRate : ℕ
  frameMs : ℕ
  threshold : ℚ
  speechEndSilenceS : ℚ
  minUtteranceMs : ℚ
  maxUtteranceS : ℚ
  speechStartMs : ℚ := 0
  givenEndThreshold : Option ℚ := none
  sampleRate_pos : 0 < sampleRate
  frameMs_pos : 0 < frameMs
  threshold_unit : 0 ≤ threshold ∧ threshold ≤ 1
  endSilence_pos : 0 < speechEndSilenceS
  minUtterance_nonneg : 0 ≤ minUtteranceMs
  maxUtterance_pos : 0 < maxUtteranceS
  speechStart_nonneg : 0 ≤ speechStartMs
  endThreshold_le : ∀ given ∈ givenEndThreshold, 0 ≤ given ∧ given ≤ threshold
  frame_pos : 0 < ⌊(sampleRate : ℚ) * (frameMs / 1000)⌋₊ * 2

namespace StreamingVadEndpoint

variable (endpoint : StreamingVadEndpoint)

def frameSeconds : ℚ := endpoint.frameMs / 1000

def frameBytes : ℕ := ⌊(endpoint.sampleRate : ℚ) * endpoint.frameSeconds⌋₊ * 2

def speechStartS : ℚ := max endpoint.speechStartMs endpoint.minUtteranceMs / 1000

def speechEndThreshold : ℚ := endpoint.givenEndThreshold.getD endpoint.threshold

def tolerance : ℚ := 1 / 1000000000

/-- The counters of the endpoint. -/
structure Memory where
  inUtterance : Bool := false
  pendingSpeechS : ℚ := 0
  pendingProbability : ℚ := 0
  speechS : ℚ := 0
  silenceS : ℚ := 0

/-- `_finish` -/
def finish (reason : String) (probability : ℚ) : Memory × List VadEvent :=
  ({}, [{ name := .speechEnded, reason := reason, probability := probability }])

def updateOutside (m : Memory) (probability : ℚ) : Memory × List VadEvent :=
  if probability < endpoint.threshold then
    ({ m with pendingSpeechS := 0, pendingProbability := 0 }, [])
  else
    let m := { m with
      pendingSpeechS := m.pendingSpeechS + endpoint.frameSeconds
      pendingProbability := max m.pendingProbability probability }
    if m.pendingSpeechS + tolerance < endpoint.speechStartS then (m, [])
    else
      let started : VadEvent := { name := .speechStarted, probability := m.pendingProbability }
      let m := { m with
        inUtterance := true
        speechS := m.pendingSpeechS
        pendingSpeechS := 0
        pendingProbability := 0 }
      if endpoint.maxUtteranceS ≤ m.speechS + tolerance then
        ((finish "max_duration" probability).1, started :: (finish "max_duration" probability).2)
      else (m, [started])

def updateInside (m : Memory) (probability : ℚ) : Memory × List VadEvent :=
  if endpoint.speechEndThreshold ≤ probability then
    let m := { m with speechS := m.speechS + endpoint.frameSeconds, silenceS := 0 }
    if endpoint.maxUtteranceS ≤ m.speechS + tolerance then finish "max_duration" probability
    else (m, [])
  else
    let m := { m with silenceS := m.silenceS + endpoint.frameSeconds }
    if endpoint.speechEndSilenceS ≤ m.silenceS + tolerance then finish "silence" probability
    else (m, [])

/-- `_update` -/
def update (m : Memory) (probability : ℚ) : Memory × List VadEvent :=
  if m.inUtterance then endpoint.updateInside m probability
  else endpoint.updateOutside m probability

variable {σ : Type} (provider : VadProbabilityProvider σ)

/-- The counters and the state of the provider. -/
structure Listener (σ : Type) where
  memory : Memory := {}
  model : σ

structure State (σ : Type) extends Listener σ where
  buffer : Bytes := []

def hear (l : Listener σ) (frame : Bytes) : Listener σ × List VadEvent :=
  let answer := provider.speechProbability l.model frame endpoint.sampleRate
  let result := endpoint.update l.memory answer.1
  ({ memory := result.1, model := answer.2 }, result.2)

def drain : ℕ → State σ → State σ × List VadEvent
  | 0, s => (s, [])
  | turns + 1, s =>
    if s.buffer.length < endpoint.frameBytes then (s, [])
    else
      let heard := endpoint.hear provider s.toListener (s.buffer.take endpoint.frameBytes)
      let later := drain turns
        { toListener := heard.1, buffer := s.buffer.drop endpoint.frameBytes }
      (later.1, heard.2 ++ later.2)

def processPcm (s : State σ) (pcmChunk : Bytes) : State σ × List VadEvent :=
  let pcmChunk := if pcmChunk.length % 2 ≠ 0 then pcmChunk.dropLast else pcmChunk
  let s := { s with buffer := s.buffer ++ pcmChunk }
  endpoint.drain provider s.buffer.length s

/-- The events of a stream that comes in chunks. -/
def events (s : State σ) (chunks : List Bytes) : List VadEvent :=
  collect (endpoint.processPcm provider) (fun s chunk ↦ (endpoint.processPcm provider s chunk).2) s
    chunks

variable {endpoint provider}

theorem frameBytes_pos (endpoint : StreamingVadEndpoint) : 0 < endpoint.frameBytes :=
  endpoint.frame_pos

def heardEvents (endpoint : StreamingVadEndpoint) (provider : VadProbabilityProvider σ)
    (l : Listener σ) (frames : List Bytes) : List VadEvent :=
  collect (endpoint.hear provider) (fun l frame ↦ (endpoint.hear provider l frame).2) l frames

theorem drain_eq (turns : ℕ) (s : State σ) (h : s.buffer.length ≤ turns) :
    endpoint.drain provider turns s =
      ({ toListener := run (endpoint.hear provider) s.toListener
           (frames endpoint.frameBytes s.buffer)
         buffer := rest endpoint.frameBytes s.buffer },
        heardEvents endpoint provider s.toListener (frames endpoint.frameBytes s.buffer)) := by
  induction turns generalizing s with
  | zero =>
    have hshort : s.buffer.length < endpoint.frameBytes := by
      have := frameBytes_pos endpoint
      omega
    rw [drain, frames_short hshort, rest_short hshort]
    rfl
  | succ turns ih =>
    rcases Nat.lt_or_ge s.buffer.length endpoint.frameBytes with hshort | hlong
    · rw [drain, if_pos hshort, frames_short hshort, rest_short hshort]
      rfl
    · have hlength : (s.buffer.drop endpoint.frameBytes).length ≤ turns := by
        have := frameBytes_pos endpoint
        rw [List.length_drop]
        omega
      rw [drain, if_neg hlong.not_gt, frames_cons (frameBytes_pos endpoint) hlong,
        rest_drop (frameBytes_pos endpoint) hlong]
      dsimp only
      rw [ih _ hlength]
      rfl

theorem processPcm_eq (endpoint : StreamingVadEndpoint) (provider : VadProbabilityProvider σ)
    (s : State σ) {chunk : Bytes} (h : chunk.length % 2 = 0) :
    endpoint.processPcm provider s chunk =
      ({ toListener := run (endpoint.hear provider) s.toListener
           (frames endpoint.frameBytes (s.buffer ++ chunk))
         buffer := rest endpoint.frameBytes (s.buffer ++ chunk) },
        heardEvents endpoint provider s.toListener
          (frames endpoint.frameBytes (s.buffer ++ chunk))) := by
  have heven : ¬ chunk.length % 2 ≠ 0 := not_not.mpr h
  rw [processPcm, if_neg heven]
  exact drain_eq _ _ le_rfl

theorem events_eq {chunks : List Bytes} (heven : ∀ chunk ∈ chunks, chunk.length % 2 = 0)
    (s : State σ) (hs : s.buffer.length < endpoint.frameBytes) :
    endpoint.events provider s chunks = heardEvents endpoint provider s.toListener
      (frames endpoint.frameBytes (s.buffer ++ chunks.flatten)) := by
  induction chunks generalizing s with
  | nil =>
    rw [List.flatten_nil, List.append_nil, frames_short hs]
    rfl
  | cons chunk chunks ih =>
    have hchunk := processPcm_eq endpoint provider s
      (heven chunk List.mem_cons_self)
    have hlater := ih (fun c hc ↦ heven c (List.mem_cons_of_mem _ hc))
      (endpoint.processPcm provider s chunk).1
      (by rw [hchunk]; exact rest_length_lt (frameBytes_pos endpoint) _)
    rw [events, collect_cons, ← events, hlater, hchunk, List.flatten_cons, ← List.append_assoc,
      (frames_append (frameBytes_pos endpoint) (s.buffer ++ chunk) chunks.flatten).1]
    exact (collect_append _ _ _ _ _).symm

/-- What the provider answers to a list of frames. -/
def probabilities (endpoint : StreamingVadEndpoint) (provider : VadProbabilityProvider σ) :
    σ → List Bytes → List ℚ
  | _, [] => []
  | model, frame :: frames =>
    let answer := provider.speechProbability model frame endpoint.sampleRate
    answer.1 :: probabilities endpoint provider answer.2 frames

/-- The events of a sequence of probabilities. -/
def eventsOf (endpoint : StreamingVadEndpoint) (m : Memory) (ps : List ℚ) : List VadEvent :=
  collect endpoint.update (fun m p ↦ (endpoint.update m p).2) m ps

theorem heardEvents_eq (l : Listener σ) (frames : List Bytes) :
    heardEvents endpoint provider l frames =
      endpoint.eventsOf l.memory (endpoint.probabilities provider l.model frames) := by
  induction frames generalizing l with
  | nil => rfl
  | cons frame frames ih =>
    rw [heardEvents, collect_cons, ← heardEvents, ih]
    rfl

end StreamingVadEndpoint

end EmbodiedAgent.Audio
