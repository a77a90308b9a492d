import EmbodiedAgent.Library.History

namespace EmbodiedAgent.Offline.PseudoStreamingTts

open Library History

variable {Text Byte : Type}

inductive Failure
  | synthesis
  | audioBufferFull
  deriving DecidableEq

/-- Where the thread that feeds the pipeline is. -/
inductive Producer (Text : Type)
  | idle
  | putting (text : Text)
  | closing
  | joiningTts
  | joiningAudio
  | reporting
  | drainingMessages
  | wakingTts
  | abortingAudio
  | drainingAudio
  | wakingAudio
  | left
  deriving DecidableEq

/-- Where `_tts_worker` is. -/
inductive TtsWorker (Text Byte : Type)
  | getting
  | synthesizing (text : Text)
  | feeding (chunk : List Byte) (rest : List (List Byte))
  | putting (chunk : List Byte) (rest : List (List Byte))
  | closing
  | closingPut
  | ended
  deriving DecidableEq

/-- Where `_audio_worker` is. -/
inductive AudioWorker (Byte : Type)
  | getting
  | publishing (chunk : List Byte)
  | ended

/-- A buffer of capacity two; `none` is the sentinel. -/
structure DoubleBuffer (α : Type) where
  queue : List (Option α) := []
  closed : Bool := false

def DoubleBuffer.full {α : Type} (b : DoubleBuffer α) : Bool := 2 ≤ b.queue.length

def DoubleBuffer.add {α : Type} (b : DoubleBuffer α) (item : Option α) : DoubleBuffer α :=
  { b with queue := b.queue ++ [item] }

structure State (Text Byte : Type) where
  message : DoubleBuffer Text := {}
  audio : DoubleBuffer (List Byte) := {}
  producer : Producer Text := .idle
  tts : TtsWorker Text Byte := .getting
  player : AudioWorker Byte := .getting
  errors : List Failure := []
  aborted : Bool := false
  accepted : List Text := []
  synthesized : List (Text × List Byte) := []
  published : List (List Byte) := []

inductive ProducerEvent (Text : Type)
  | putText (text : Text)
  | enqueue
  | putTimeout
  | closeAndWait
  | putSentinel
  | joinTts
  | joinAudio
  | report
  | abort
  | drainMessage
  | wakeTts
  | abortAudio
  | drainAudio
  | wakeAudio
  | leave

inductive TtsEvent (Byte : Type)
  | getText
  | synthesized (pcm : List Byte)
  | synthesizeRaises
  | synthesizeStops
  | offerChunk
  | putChunk
  | chunkTimeout
  | closeAudio
  | putSentinel

inductive AudioEvent
  | getChunk
  | published
  | publishRaises

inductive Event (Text Byte : Type)
  | producer (event : ProducerEvent Text)
  | tts (event : TtsEvent Byte)
  | audio (event : AudioEvent)

/-- How a call of `close_and_wait` ends. -/
inductive Outcome
  | returned
  | timedOut
  | raised (failure : Failure)
  deriving DecidableEq

def chunks (bytesPerChunk : ℕ) (pcm : List Byte) : List (List Byte) :=
  (List.range ((pcm.length + bytesPerChunk - 1) / bytesPerChunk)).map fun i ↦
    (pcm.drop (i * bytesPerChunk)).take bytesPerChunk

def bytesPerChunk (sampleRate pcmChunkMs : ℤ) : ℕ :=
  (max 2 ((sampleRate * pcmChunkMs).tdiv 1000 * 2)).toNat

def feeding : List (List Byte) → TtsWorker Text Byte
  | [] => .getting
  | chunk :: rest => .feeding chunk rest

variable (s : State Text Byte)

def produce (e : ProducerEvent Text) : State Text Byte :=
  match e, s.producer with
  | .putText text, .idle => if s.message.closed then s else { s with producer := .putting text }
  | .enqueue, .putting text =>
    if s.message.full then s
    else
      { s with
          message := s.message.add (some text)
          accepted := s.accepted ++ [text]
          producer := .idle }
  | .putTimeout, .putting _ => if s.message.full then { s with producer := .idle } else s
  | .closeAndWait, .idle =>
    if s.message.closed then { s with producer := .joiningTts }
    else { s with message := { s.message with closed := true }, producer := .closing }
  | .putSentinel, .closing =>
    if s.message.full then s
    else { s with message := s.message.add none, producer := .joiningTts }
  -- either the thread has ended or the join has timed out
  | .joinTts, .joiningTts => { s with producer := .joiningAudio }
  | .joinAudio, .joiningAudio => { s with producer := .reporting }
  | .report, .reporting => { s with producer := .idle }
  | .abort, .idle =>
    { s with
        message := { s.message with closed := true }
        aborted := true
        producer := .drainingMessages }
  | .drainMessage, .drainingMessages =>
    match s.message.queue with
    | [] => { s with producer := .wakingTts }
    | _ :: rest => { s with message := { s.message with queue := rest } }
  | .wakeTts, .wakingTts =>
    -- `put_nowait` would raise `queue.Full`
    if s.message.full then { s with producer := .idle }
    else { s with message := s.message.add none, producer := .abortingAudio }
  | .abortAudio, .abortingAudio =>
    { s with audio := { s.audio with closed := true }, producer := .drainingAudio }
  | .drainAudio, .drainingAudio =>
    match s.audio.queue with
    | [] => { s with producer := .wakingAudio }
    | _ :: rest => { s with audio := { s.audio with queue := rest } }
  | .wakeAudio, .wakingAudio =>
    if s.audio.full then { s with producer := .idle }
    else { s with audio := s.audio.add none, producer := .idle }
  | .leave, .idle => if s.message.closed then { s with producer := .left } else s
  | _, _ => s

def State.fail (failure : Failure) : State Text Byte :=
  { s with errors := s.errors ++ [failure], tts := .closing }

/-- The steps of `_tts_worker`. -/
def synthesizeTexts (bytesPerChunk : ℕ) (s : State Text Byte) (e : TtsEvent Byte) :
    State Text Byte :=
  match e, s.tts with
  | .getText, .getting =>
    match s.message.queue with
    | [] => s
    | none :: rest => { s with message := { s.message with queue := rest }, tts := .closing }
    | some text :: rest =>
      { s with message := { s.message with queue := rest }, tts := .synthesizing text }
  | .synthesized pcm, .synthesizing text =>
    { s with
        synthesized := s.synthesized ++ [(text, pcm)]
        tts := feeding (chunks bytesPerChunk pcm) }
  | .synthesizeRaises, .synthesizing _ => s.fail .synthesis
  -- `StopIteration` is taken for the sentinel; other than `Exception` is not recorded
  | .synthesizeStops, .synthesizing _ => { s with tts := .closing }
  | .offerChunk, .feeding chunk rest =>
    if s.audio.closed then s.fail .audioBufferFull else { s with tts := .putting chunk rest }
  | .putChunk, .putting chunk rest =>
    if s.audio.full then s else { s with audio := s.audio.add (some chunk), tts := feeding rest }
  | .chunkTimeout, .putting _ _ => if s.audio.full then s.fail .audioBufferFull else s
  | .closeAudio, .closing =>
    if s.audio.closed then { s with tts := .ended }
    else { s with audio := { s.audio with closed := true }, tts := .closingPut }
  | .putSentinel, .closingPut =>
    if s.audio.full then s else { s with audio := s.audio.add none, tts := .ended }
  | _, _ => s

/-- The steps of `_audio_worker`. -/
def publishAudio (e : AudioEvent) : State Text Byte :=
  match e, s.player with
  | .getChunk, .getting =>
    match s.audio.queue with
    | [] => s
    | none :: rest => { s with audio := { s.audio with queue := rest }, player := .ended }
    | some chunk :: rest =>
      { s with audio := { s.audio with queue := rest }, player := .publishing chunk }
  | .published, .publishing chunk =>
    { s with published := s.published ++ [chunk], player := .getting }
  -- nothing but `StopIteration` is caught here, and that one is the end, too
  | .publishRaises, .publishing _ => { s with player := .ended }
  | _, _ => s

/-- What `close_and_wait` does after the two joins. -/
def outcome : Event Text Byte → Option Outcome
  | .producer .report =>
    match s.producer, s.tts, s.player, s.errors with
    | .reporting, .ended, .ended, [] => some .returned
    | .reporting, .ended, .ended, failure :: _ => some (.raised failure)
    | .reporting, _, _, _ => some .timedOut
    | _, _, _, _ => none
  | _ => none

def step (bytesPerChunk : ℕ) (s : State Text Byte) (e : Event Text Byte) :
    State Text Byte × Option Outcome :=
  (match e with
    | .producer event => produce s event
    | .tts event => synthesizeTexts bytesPerChunk s event
    | .audio event => publishAudio s event, outcome s e)

variable {k : ℕ} {pcm : List Byte}

theorem flatten_slices (k n : ℕ) (pcm : List Byte) :
    ((List.range n).map fun i ↦ (pcm.drop (i * k)).take k).flatten = pcm.take (n * k) := by
  induction n with
  | zero => simp
  | succ n ih =>
    rw [List.range_succ, List.map_append, List.flatten_append, ih, Nat.succ_mul, List.take_add]
    simp

theorem flatten_chunks (hk : 0 < k) (pcm : List Byte) : (chunks k pcm).flatten = pcm := by
  rw [chunks, flatten_slices, List.take_of_length_le]
  have hdiv := Nat.lt_div_mul_add (a := pcm.length + k - 1) hk
  omega

theorem bytesPerChunk_pos (sampleRate pcmChunkMs : ℤ) :
    0 < bytesPerChunk sampleRate pcmChunkMs := by
  rw [bytesPerChunk]
  omega

end EmbodiedAgent.Offline.PseudoStreamingTts
