import EmbodiedAgent.Offline.PseudoStreamingTts

namespace EmbodiedAgent.Offline.PseudoStreamingTts

open Library History

variable {Text Byte : Type} {k : ℕ} {s : State Text Byte}

def TtsWorker.looping : TtsWorker Text Byte → Bool
  | .getting | .synthesizing _ | .feeding _ _ | .putting _ _ => true
  | .closing | .closingPut | .ended => false

def TtsWorker.inFlight : TtsWorker Text Byte → ℕ
  | .putting _ _ | .closingPut => 1
  | _ => 0

@[simp] theorem feeding_looping (rest : List (List Byte)) :
    (feeding rest : TtsWorker Text Byte).looping = true := by
  cases rest <;> rfl

@[simp] theorem feeding_inFlight (rest : List (List Byte)) :
    (feeding rest : TtsWorker Text Byte).inFlight = 0 := by
  cases rest <;> rfl

@[simp] theorem putting_inFlight (chunk : List Byte) (rest : List (List Byte)) :
    (TtsWorker.putting chunk rest : TtsWorker Text Byte).inFlight = 1 := rfl

@[simp] theorem closingPut_inFlight : (TtsWorker.closingPut : TtsWorker Text Byte).inFlight = 1 :=
  rfl

@[simp] theorem closing_inFlight : (TtsWorker.closing : TtsWorker Text Byte).inFlight = 0 := rfl

@[simp] theorem ended_inFlight : (TtsWorker.ended : TtsWorker Text Byte).inFlight = 0 := rfl

def OneWaiting (s : State Text Byte) : Prop :=
  none ∈ s.message.queue ∨ s.message.queue.length ≤ 1

def Fails (s : State Text Byte) : TtsEvent Byte → Prop
  | .synthesizeRaises | .chunkTimeout => True
  | .offerChunk => s.audio.closed = true
  | _ => False

/-- The steps on which the pipeline completes honestly. -/
def Allowed (s : State Text Byte) : Event Text Byte → Prop
  | .producer .enqueue => s.tts.looping = false → s.message.queue = []
  | .producer .closeAndWait => s.aborted = false
  | .tts .synthesizeStops => False
  | .tts event => Fails s event → OneWaiting s
  | .audio .publishRaises => False
  | _ => True

section Decidable

variable [DecidableEq Text]

instance (s : State Text Byte) : Decidable (OneWaiting s) :=
  inferInstanceAs (Decidable (none ∈ s.message.queue ∨ s.message.queue.length ≤ 1))

instance (s : State Text Byte) : DecidablePred (Fails s)
  | .synthesizeRaises | .chunkTimeout => inferInstanceAs (Decidable True)
  | .offerChunk => inferInstanceAs (Decidable (s.audio.closed = true))
  | .getText | .synthesized _ | .synthesizeStops | .putChunk | .closeAudio | .putSentinel =>
    inferInstanceAs (Decidable False)

instance (s : State Text Byte) : DecidablePred (Allowed s)
  | .producer event =>
    match event with
    | .enqueue => inferInstanceAs (Decidable (s.tts.looping = false → s.message.queue = []))
    | .closeAndWait => inferInstanceAs (Decidable (s.aborted = false))
    | .putText _ | .putTimeout | .putSentinel | .joinTts | .joinAudio | .report | .abort
    | .drainMessage | .wakeTts | .abortAudio | .drainAudio | .wakeAudio | .leave =>
      inferInstanceAs (Decidable True)
  | .tts event =>
    match event with
    | .synthesizeStops => inferInstanceAs (Decidable False)
    | .getText | .synthesized _ | .synthesizeRaises | .offerChunk | .putChunk | .chunkTimeout
    | .closeAudio | .putSentinel => inferInstanceAs (Decidable (Fails s _ → OneWaiting s))
  | .audio event =>
    match event with
    | .publishRaises => inferInstanceAs (Decidable False)
    | .getChunk | .published => inferInstanceAs (Decidable True)

end Decidable

def SentinelLast {α : Type} (queue : List (Option α)) : Prop :=
  none ∈ queue → ∃ items, queue = items ++ [none] ∧ none ∉ items

section Sentinel

variable {α : Type} {item : Option α} {queue : List (Option α)}

theorem sentinelLast_of_not_mem (h : none ∉ queue) : SentinelLast queue := fun hmem ↦
  absurd hmem h

theorem sentinelLast_append (h : none ∉ queue) : SentinelLast (queue ++ [none]) := fun _ ↦
  ⟨queue, rfl, h⟩

theorem SentinelLast.tail (h : SentinelLast (item :: queue)) : SentinelLast queue := by
  intro hmem
  obtain ⟨items, heq, hnone⟩ := h (List.mem_cons_of_mem item hmem)
  cases items with
  | nil =>
    obtain ⟨-, rfl⟩ := List.cons.inj heq
    cases hmem
  | cons head items =>
    obtain ⟨-, rfl⟩ := List.cons.inj heq
    exact ⟨items, rfl, fun h ↦ hnone (List.mem_cons_of_mem head h)⟩

theorem SentinelLast.eq_nil (h : SentinelLast (none :: queue)) : queue = [] := by
  obtain ⟨items, heq, hnone⟩ := h (List.mem_cons_self ..)
  cases items with
  | nil => exact (List.cons.inj heq).2
  | cons head items =>
    obtain ⟨rfl, -⟩ := List.cons.inj heq
    exact absurd (List.mem_cons_self ..) hnone

end Sentinel

section Steps

theorem not_full_iff {α : Type} {b : DoubleBuffer α} : ¬b.full = true ↔ b.queue.length < 2 := by
  rw [DoubleBuffer.full, decide_eq_true_eq, not_le]

/-- What a step of the thread that feeds the pipeline does. -/
inductive Produces (s : State Text Byte) : ProducerEvent Text → State Text Byte → Prop
  | stays (e : ProducerEvent Text) : Produces s e s
  | begins (text : Text) (hidle : s.producer = .idle) (hopen : ¬s.message.closed = true) :
      Produces s (.putText text) { s with producer := .putting text }
  | accepts (text : Text) (hput : s.producer = .putting text) (hroom : ¬s.message.full = true) :
      Produces s .enqueue
        { s with
            message := s.message.add (some text)
            accepted := s.accepted ++ [text]
            producer := .idle }
  | rejects (text : Text) (hput : s.producer = .putting text) :
      Produces s .putTimeout { s with producer := .idle }
  | closes (hidle : s.producer = .idle) (hopen : ¬s.message.closed = true) :
      Produces s .closeAndWait
        { s with message := { s.message with closed := true }, producer := .closing }
  | waits (hidle : s.producer = .idle) (hclosed : s.message.closed = true) :
      Produces s .closeAndWait { s with producer := .joiningTts }
  | sends (hclosing : s.producer = .closing) (hroom : ¬s.message.full = true) :
      Produces s .putSentinel { s with message := s.message.add none, producer := .joiningTts }
  | joinsTts (hjoin : s.producer = .joiningTts) :
      Produces s .joinTts { s with producer := .joiningAudio }
  | joinsAudio (hjoin : s.producer = .joiningAudio) :
      Produces s .joinAudio { s with producer := .reporting }
  | reports (hreport : s.producer = .reporting) : Produces s .report { s with producer := .idle }
  | aborts (hidle : s.producer = .idle) :
      Produces s .abort
        { s with
            message := { s.message with closed := true }
            aborted := true
            producer := .drainingMessages }
  | drains (item : Option Text) (rest : List (Option Text))
      (hdrain : s.producer = .drainingMessages) (hqueue : s.message.queue = item :: rest) :
      Produces s .drainMessage { s with message := { s.message with queue := rest } }
  | drained (hdrain : s.producer = .drainingMessages) (hqueue : s.message.queue = []) :
      Produces s .drainMessage { s with producer := .wakingTts }
  | wakes (hwake : s.producer = .wakingTts) (hroom : ¬s.message.full = true) :
      Produces s .wakeTts { s with message := s.message.add none, producer := .abortingAudio }
  | raises (hwake : s.producer = .wakingTts) (hfull : s.message.full = true) :
      Produces s .wakeTts { s with producer := .idle }
  | closesAudio (habort : s.producer = .abortingAudio) :
      Produces s .abortAudio
        { s with audio := { s.audio with closed := true }, producer := .drainingAudio }
  | drainsAudio (item : Option (List Byte)) (rest : List (Option (List Byte)))
      (hdrain : s.producer = .drainingAudio) (hqueue : s.audio.queue = item :: rest) :
      Produces s .drainAudio { s with audio := { s.audio with queue := rest } }
  | drainedAudio (hdrain : s.producer = .drainingAudio) (hqueue : s.audio.queue = []) :
      Produces s .drainAudio { s with producer := .wakingAudio }
  | wakesAudio (hwake : s.producer = .wakingAudio) (hroom : ¬s.audio.full = true) :
      Produces s .wakeAudio { s with audio := s.audio.add none, producer := .idle }
  | raisesAudio (hwake : s.producer = .wakingAudio) (hfull : s.audio.full = true) :
      Produces s .wakeAudio { s with producer := .idle }
  | leaves (hidle : s.producer = .idle) (hclosed : s.message.closed = true) :
      Produces s .leave { s with producer := .left }

theorem produce_produces (s : State Text Byte) (e : ProducerEvent Text) :
    Produces s e (produce s e) := by
  fun_cases produce s e
  · exact .stays _
  · exact .begins _ ‹_› ‹_›
  · exact .stays _
  · exact .accepts _ ‹_› ‹_›
  · exact .rejects _ ‹_›
  · exact .stays _
  · exact .waits ‹_› ‹_›
  · exact .closes ‹_› ‹_›
  · exact .stays _
  · exact .sends ‹_› ‹_›
  · exact .joinsTts ‹_›
  · exact .joinsAudio ‹_›
  · exact .reports ‹_›
  · exact .aborts ‹_›
  · exact .drained ‹_› ‹_›
  · exact .drains _ _ ‹_› ‹_›
  · exact .raises ‹_› ‹_›
  · exact .wakes ‹_› ‹_›
  · exact .closesAudio ‹_›
  · exact .drainedAudio ‹_› ‹_›
  · exact .drainsAudio _ _ ‹_› ‹_›
  · exact .raisesAudio ‹_› ‹_›
  · exact .wakesAudio ‹_› ‹_›
  · exact .leaves ‹_› ‹_›
  · exact .stays _
  · exact .stays _

/-- What a step of `_tts_worker` does. -/
inductive Synthesizes (k : ℕ) (s : State Text Byte) : TtsEvent Byte → State Text Byte → Prop
  | stays (e : TtsEvent Byte) : Synthesizes k s e s
  | ends (rest : List (Option Text)) (hget : s.tts = .getting)
      (hqueue : s.message.queue = none :: rest) :
      Synthesizes k s .getText
        { s with message := { s.message with queue := rest }, tts := .closing }
  | takes (text : Text) (rest : List (Option Text)) (hget : s.tts = .getting)
      (hqueue : s.message.queue = some text :: rest) :
      Synthesizes k s .getText
        { s with message := { s.message with queue := rest }, tts := .synthesizing text }
  | feeds (text : Text) (pcm : List Byte) (hsyn : s.tts = .synthesizing text) :
      Synthesizes k s (.synthesized pcm)
        { s with
            synthesized := s.synthesized ++ [(text, pcm)]
            tts := feeding (chunks k pcm) }
  | fails {e : TtsEvent Byte} (failure : Failure) (hlooping : s.tts.looping = true)
      (hfails : Fails s e) : Synthesizes k s e (s.fail failure)
  | stops (text : Text) (hsyn : s.tts = .synthesizing text) :
      Synthesizes k s .synthesizeStops { s with tts := .closing }
  | offers (chunk : List Byte) (rest : List (List Byte)) (hfeed : s.tts = .feeding chunk rest)
      (hopen : ¬s.audio.closed = true) :
      Synthesizes k s .offerChunk { s with tts := .putting chunk rest }
  | puts (chunk : List Byte) (rest : List (List Byte)) (hput : s.tts = .putting chunk rest)
      (hroom : ¬s.audio.full = true) :
      Synthesizes k s .putChunk
        { s with audio := s.audio.add (some chunk), tts := feeding rest }
  | closed (hclose : s.tts = .closing) (hclosed : s.audio.closed = true) :
      Synthesizes k s .closeAudio { s with tts := .ended }
  | closes (hclose : s.tts = .closing) (hopen : ¬s.audio.closed = true) :
      Synthesizes k s .closeAudio
        { s with audio := { s.audio with closed := true }, tts := .closingPut }
  | sends (hput : s.tts = .closingPut) (hroom : ¬s.audio.full = true) :
      Synthesizes k s .putSentinel { s with audio := s.audio.add none, tts := .ended }

theorem synthesizeTexts_synthesizes (k : ℕ) (s : State Text Byte) (e : TtsEvent Byte) :
    Synthesizes k s e (synthesizeTexts k s e) := by
  fun_cases synthesizeTexts k s e
  · exact .stays _
  · exact .ends _ ‹_› ‹_›
  · exact .takes _ _ ‹_› ‹_›
  · exact .feeds _ _ ‹_›
  · exact .fails _ (by rw [‹s.tts = _›]; rfl) trivial
  · exact .stops _ ‹_›
  · exact .fails _ (by rw [‹s.tts = _›]; rfl) ‹_›
  · exact .offers _ _ ‹_› ‹_›
  · exact .stays _
  · exact .puts _ _ ‹_› ‹_›
  · exact .fails _ (by rw [‹s.tts = _›]; rfl) trivial
  · exact .stays _
  · exact .closed ‹_› ‹_›
  · exact .closes ‹_› ‹_›
  · exact .stays _
  · exact .sends ‹_› ‹_›
  · exact .stays _

/-- What a step of `_audio_worker` does. -/
inductive Publishes (s : State Text Byte) : AudioEvent → State Text Byte → Prop
  | stays (e : AudioEvent) : Publishes s e s
  | ends (rest : List (Option (List Byte))) (hget : s.player = .getting)
      (hqueue : s.audio.queue = none :: rest) :
      Publishes s .getChunk
        { s with audio := { s.audio with queue := rest }, player := .ended }
  | takes (chunk : List Byte) (rest : List (Option (List Byte))) (hget : s.player = .getting)
      (hqueue : s.audio.queue = some chunk :: rest) :
      Publishes s .getChunk
        { s with audio := { s.audio with queue := rest }, player := .publishing chunk }
  | publishes (chunk : List Byte) (hpublish : s.player = .publishing chunk) :
      Publishes s .published
        { s with published := s.published ++ [chunk], player := .getting }
  | raises (chunk : List Byte) (hpublish : s.player = .publishing chunk) :
      Publishes s .publishRaises { s with player := .ended }

theorem publishAudio_publishes (s : State Text Byte) (e : AudioEvent) :
    Publishes s e (publishAudio s e) := by
  fun_cases publishAudio s e
  · exact .stays _
  · exact .ends _ ‹_› ‹_›
  · exact .takes _ _ ‹_› ‹_›
  · exact .publishes _ ‹_›
  · exact .raises _ ‹_›
  · exact .stays _

end Steps

def Producer.sending : Producer Text → Bool
  | .closing | .drainingMessages | .wakingTts => true
  | _ => false

structure MessageSide (s : State Text Byte) : Prop where
  length : s.message.queue.length ≤ 2
  unclosed : s.message.closed = false →
    none ∉ s.message.queue ∧ (s.producer = .idle ∨ ∃ text, s.producer = .putting text)
  putting : ∀ text, s.producer = .putting text → s.message.closed = false
  closing : s.producer = .closing → none ∉ s.message.queue
  last : SentinelLast s.message.queue
  sent : s.tts.looping = true → s.message.closed = true → s.producer.sending = false →
    none ∈ s.message.queue
  short : s.tts.looping = false → none ∉ s.message.queue → s.message.queue.length ≤ 1
  waking : s.producer = .wakingTts → s.message.queue = []

theorem messageSide_start : MessageSide ({} : State Text Byte) where
  length := Nat.zero_le 2
  unclosed _ := ⟨List.not_mem_nil, .inl rfl⟩
  putting := nofun
  closing := nofun
  last := sentinelLast_of_not_mem List.not_mem_nil
  sent := nofun
  short := nofun
  waking := nofun

theorem publishAudio_rest (s : State Text Byte) (e : AudioEvent) :
    (publishAudio s e).message = s.message ∧ (publishAudio s e).producer = s.producer ∧
      (publishAudio s e).tts = s.tts ∧ (publishAudio s e).aborted = s.aborted := by
  have hstep := publishAudio_publishes s e
  generalize publishAudio s e = s' at hstep ⊢
  cases hstep <;> exact ⟨rfl, rfl, rfl, rfl⟩

theorem oneWaiting_of_fails {e : TtsEvent Byte} (hallowed : Allowed s (.tts e : Event Text Byte))
    (hfails : Fails s e) : OneWaiting s := by
  cases e with
  | synthesizeStops => exact hallowed.elim
  | _ => exact hallowed hfails

namespace MessageSide

theorem closed (h : MessageSide s) (hidle : s.producer ≠ .idle)
    (hput : ∀ text, s.producer ≠ .putting text) : s.message.closed = true := by
  by_contra hopen
  rcases (h.unclosed (by simpa using hopen)).2 with heq | ⟨text, heq⟩
  · exact hidle heq
  · exact hput text heq

variable {s' : State Text Byte}

/-- While the buffer is open it holds texts only. -/
theorem of_open (hlength : s'.message.queue.length ≤ 2) (hopen : s'.message.closed = false)
    (hnone : none ∉ s'.message.queue)
    (hproducer : s'.producer = .idle ∨ ∃ text, s'.producer = .putting text)
    (hshort : s'.tts.looping = false → s'.message.queue.length ≤ 1) : MessageSide s' where
  length := hlength
  unclosed _ := ⟨hnone, hproducer⟩
  putting _ _ := hopen
  closing _ := hnone
  last := sentinelLast_of_not_mem hnone
  sent _ hclosed := nomatch hopen.symm.trans hclosed
  short hloop _ := hshort hloop
  waking hwake := by
    rw [hwake] at hproducer
    exact hproducer.elim nofun nofun

theorem move (h : MessageSide s) (hmessage : s'.message = s.message) (htts : s'.tts = s.tts)
    (hclosed : s.message.closed = true) (hsending : s.producer.sending = false)
    (hsending' : s'.producer.sending = false) (hput : ∀ text, s'.producer ≠ .putting text) :
    MessageSide s' where
  length := hmessage ▸ h.length
  unclosed hopen := nomatch (hmessage ▸ hclosed).symm.trans hopen
  putting text hputting := absurd hputting (hput text)
  closing hclosing := nomatch (congrArg Producer.sending hclosing).symm.trans hsending'
  last := hmessage ▸ h.last
  sent hloop _ _ := hmessage ▸ h.sent (htts ▸ hloop) hclosed hsending
  short hloop := hmessage ▸ h.short (htts ▸ hloop)
  waking hwake := nomatch (congrArg Producer.sending hwake).symm.trans hsending'

/-- The sentinel is put. -/
theorem send (hmessage : s'.message = s.message.add none)
    (hclosed : s.message.closed = true) (hroom : s.message.queue.length < 2)
    (hnone : none ∉ s.message.queue) (hsending' : s'.producer.sending = false)
    (hput : ∀ text, s'.producer ≠ .putting text) : MessageSide s' := by
  have hqueue : s'.message.queue = s.message.queue ++ [none] := congrArg (·.queue) hmessage
  have hmem : none ∈ s'.message.queue := by simp [hqueue]
  have hclosed' : s'.message.closed = true := (congrArg (·.closed) hmessage).trans hclosed
  exact
    { length := by rw [hqueue, List.length_append]; exact hroom
      unclosed := fun hopen ↦ nomatch hclosed'.symm.trans hopen
      putting := fun text hputting ↦ absurd hputting (hput text)
      closing := fun hclosing ↦ nomatch (congrArg Producer.sending hclosing).symm.trans hsending'
      last := hqueue ▸ sentinelLast_append hnone
      sent := fun _ _ _ ↦ hmem
      short := fun _ hnot ↦ absurd hmem hnot
      waking := fun hwake ↦ nomatch (congrArg Producer.sending hwake).symm.trans hsending' }

theorem produce (h : MessageSide s) {e : ProducerEvent Text} (hstep : Produces s e s')
    (hallowed : Allowed s (.producer e : Event Text Byte)) : MessageSide s' := by
  cases hstep with
  | stays => exact h
  | begins text hidle hopen =>
    have hopen : s.message.closed = false := by simpa using hopen
    have hnone := (h.unclosed hopen).1
    exact of_open h.length hopen hnone (.inr ⟨text, rfl⟩) fun hloop ↦ h.short hloop hnone
  | accepts text hput hroom =>
    have hopen := h.putting text hput
    have hnone : none ∉ s.message.queue ++ [some text] := by simpa using (h.unclosed hopen).1
    have hroom := not_full_iff.mp hroom
    refine of_open ?_ hopen hnone (.inl rfl) fun hloop ↦ ?_
    · exact (List.length_append ..).trans_le hroom
    · have hempty : s.message.queue = [] := hallowed hloop
      simp [DoubleBuffer.add, hempty]
  | rejects text hput =>
    have hopen := h.putting text hput
    have hnone := (h.unclosed hopen).1
    exact of_open h.length hopen hnone (.inl rfl) fun hloop ↦ h.short hloop hnone
  | closes hidle hopen =>
    have hopen : s.message.closed = false := by simpa using hopen
    have hnone := (h.unclosed hopen).1
    exact ⟨h.length, nofun, nofun, fun _ ↦ hnone, h.last, nofun, h.short, nofun⟩
  | aborts hidle => exact ⟨h.length, nofun, nofun, nofun, h.last, nofun, h.short, nofun⟩
  | waits hplace hclosed | leaves hplace hclosed =>
    exact h.move rfl rfl hclosed (by rw [hplace]; rfl) rfl nofun
  | joinsTts hplace | joinsAudio hplace | reports hplace | closesAudio hplace
  | drainedAudio hplace _ | raisesAudio hplace _ | wakesAudio hplace _ =>
    have hclosed := h.closed (by simp [hplace]) (by simp [hplace])
    exact h.move rfl rfl hclosed (by rw [hplace]; rfl) rfl nofun
  | drainsAudio item rest hplace _ =>
    have hclosed := h.closed (by simp [hplace]) (by simp [hplace])
    exact h.move rfl rfl hclosed (by rw [hplace]; rfl) (by simp [hplace, Producer.sending])
      (by simp [hplace])
  | sends hclosing hroom =>
    have hclosed := h.closed (by simp [hclosing]) (by simp [hclosing])
    exact send rfl hclosed (not_full_iff.mp hroom) (h.closing hclosing) rfl nofun
  | wakes hwake hroom =>
    have hclosed := h.closed (by simp [hwake]) (by simp [hwake])
    exact send rfl hclosed (not_full_iff.mp hroom) (by simp [h.waking hwake]) rfl nofun
  | raises hwake hfull => simp [DoubleBuffer.full, h.waking hwake] at hfull
  | drained hdrain hqueue =>
    have hclosed := h.closed (by simp [hdrain]) (by simp [hdrain])
    have hnot : s.message.closed ≠ false := by simp [hclosed]
    exact ⟨h.length, (absurd · hnot), nofun, nofun, h.last, nofun, h.short, fun _ ↦ hqueue⟩
  | drains item rest hdrain hqueue =>
    have hclosed := h.closed (by simp [hdrain]) (by simp [hdrain])
    have hlength := h.length
    have hlast := h.last
    rw [hqueue] at hlength hlast
    exact
      { length := Nat.le_of_succ_le hlength
        unclosed := fun hopen ↦ nomatch hclosed.symm.trans hopen
        putting := fun text hput ↦ nomatch hdrain.symm.trans hput
        closing := fun hclosing ↦ nomatch hdrain.symm.trans hclosing
        last := hlast.tail
        sent := fun _ _ hsending ↦ nomatch (congrArg Producer.sending hdrain).symm.trans hsending
        short := fun _ _ ↦ Nat.le_of_succ_le_succ hlength
        waking := fun hwake ↦ nomatch hdrain.symm.trans hwake }

theorem keep (h : MessageSide s) (hmessage : s'.message = s.message)
    (hproducer : s'.producer = s.producer)
    (hsent : s'.tts.looping = true → s.tts.looping = true)
    (hshort : s'.tts.looping = false → s.tts.looping = false ∨ OneWaiting s) :
    MessageSide s' where
  length := hmessage ▸ h.length
  unclosed := by simpa only [hmessage, hproducer] using h.unclosed
  putting := by simpa only [hmessage, hproducer] using h.putting
  closing := by simpa only [hmessage, hproducer] using h.closing
  last := hmessage ▸ h.last
  sent hloop := by simpa only [hmessage, hproducer] using h.sent (hsent hloop)
  short hloop hnone := by
    rw [hmessage] at hnone ⊢
    rcases hshort hloop with hended | hone
    · exact h.short hended hnone
    · exact hone.resolve_left hnone
  waking := by simpa only [hmessage, hproducer] using h.waking

theorem frame (h : MessageSide s) (hmessage : s'.message = s.message)
    (hproducer : s'.producer = s.producer) (htts : s'.tts.looping = s.tts.looping) :
    MessageSide s' :=
  h.keep hmessage hproducer (htts ▸ id) fun hloop ↦ .inl (htts ▸ hloop)

theorem synthesizeTexts (h : MessageSide s) {e : TtsEvent Byte} (hstep : Synthesizes k s e s')
    (hallowed : Allowed s (.tts e : Event Text Byte)) : MessageSide s' := by
  cases hstep with
  | stays => exact h
  | ends rest hget hqueue =>
    have hmem : none ∈ s.message.queue := by simp [hqueue]
    have hlast := h.last
    rw [hqueue] at hlast
    obtain rfl := hlast.eq_nil
    -- the sentinel came last, and it comes from a buffer that is closed
    have hclosed : s.message.closed = true := by
      by_contra hopen
      exact (h.unclosed (by simpa using hopen)).1 hmem
    exact
      { length := Nat.zero_le 2
        unclosed := fun hopen ↦ nomatch hclosed.symm.trans hopen
        putting := h.putting
        closing := fun _ ↦ List.not_mem_nil
        last := hlast.tail
        sent := nofun
        short := fun _ _ ↦ Nat.zero_le 1
        waking := fun _ ↦ rfl }
  | takes text rest hget hqueue =>
    obtain ⟨hlength, hunclosed, hputting, hclosing, hlast, hsent, -, hwaking⟩ := h
    rw [hqueue] at hlength hunclosed hclosing hlast hsent hwaking
    exact
      { length := Nat.le_of_succ_le hlength
        unclosed := fun hopen ↦ (hunclosed hopen).imp_left (mt (List.mem_cons_of_mem _))
        putting := hputting
        closing := fun hclose ↦ mt (List.mem_cons_of_mem _) (hclosing hclose)
        last := hlast.tail
        sent := fun _ hclosed hsending ↦
          (List.mem_cons.mp (hsent (by rw [hget]; rfl) hclosed hsending)).resolve_left nofun
        short := nofun
        waking := fun hwake ↦ nomatch hwaking hwake }
  | feeds text pcm hplace | puts chunk rest hplace _ =>
    exact h.frame rfl rfl ((feeding_looping _).trans (by rw [hplace]; rfl))
  | offers chunk rest hplace _ => exact h.frame rfl rfl (by rw [hplace]; rfl)
  | closed hplace _ | closes hplace _ | sends hplace _ =>
    exact h.frame rfl rfl (by rw [hplace]; rfl)
  | fails failure hlooping hfails =>
    exact h.keep rfl rfl (fun hloop ↦ by cases hloop) fun _ ↦
      .inr (oneWaiting_of_fails hallowed hfails)
  | stops => exact hallowed.elim

theorem step (h : MessageSide s) (e : Event Text Byte) (hallowed : Allowed s e) :
    MessageSide (step k s e).1 := by
  cases e with
  | producer e => exact h.produce (produce_produces s e) hallowed
  | tts e => exact h.synthesizeTexts (synthesizeTexts_synthesizes k s e) hallowed
  | audio e =>
    obtain ⟨hmessage, hproducer, htts, -⟩ := publishAudio_rest s e
    exact h.frame hmessage hproducer (congrArg TtsWorker.looping htts)

end MessageSide

/-- `abort` is busy with the audio buffer. -/
def Producer.clearing : Producer Text → Bool
  | .drainingAudio | .wakingAudio => true
  | _ => false

structure AudioSide (s : State Text Byte) : Prop where
  length : s.audio.queue.length ≤ 2
  unclosed : s.audio.closed = false → none ∉ s.audio.queue ∧ s.player ≠ .ended ∧
    (s.tts.looping = true ∨ s.tts = .closing) ∧ s.producer.clearing = false
  sent : s.audio.closed = true → s.tts ≠ .closingPut → s.player ≠ .ended →
    s.producer.clearing = false → none ∈ s.audio.queue
  waking : s.producer = .wakingAudio → s.audio.queue.length + s.tts.inFlight ≤ 1
  room : none ∈ s.audio.queue ∨ s.player = .ended →
    s.audio.queue.length + s.tts.inFlight ≤ 2

theorem audioSide_start : AudioSide ({} : State Text Byte) where
  length := Nat.zero_le 2
  unclosed _ := ⟨List.not_mem_nil, nofun, .inl rfl, rfl⟩
  sent := nofun
  waking := nofun
  room _ := Nat.zero_le 2

theorem inFlight_le (tts : TtsWorker Text Byte) : tts.inFlight ≤ 1 := by
  cases tts <;> simp [TtsWorker.inFlight]

namespace AudioSide

theorem closed_of_clearing (h : AudioSide s) (hclearing : s.producer.clearing = true) :
    s.audio.closed = true := by
  by_contra hopen
  have hclear := (h.unclosed (by simpa using hopen)).2.2.2
  exact nomatch hclear.symm.trans hclearing

theorem closed_of_closingPut (h : AudioSide s) (hput : s.tts = .closingPut) :
    s.audio.closed = true := by
  by_contra hopen
  have hlooping := (h.unclosed (by simpa using hopen)).2.2.1
  rw [hput] at hlooping
  exact hlooping.elim nofun nofun

variable {s' : State Text Byte}

theorem frame (h : AudioSide s) (haudio : s'.audio = s.audio)
    (htts : s'.tts = s.tts) (hplayer : s'.player = s.player)
    (hproducer : s.producer.clearing = false) (hproducer' : s'.producer.clearing = false) :
    AudioSide s' := by
  obtain ⟨hlength, hunclosed, hsent, hwaking, hroom⟩ := h
  constructor
  · rwa [haudio]
  · rw [haudio, hplayer, htts, hproducer']
    rw [hproducer] at hunclosed
    exact hunclosed
  · rw [haudio, hplayer, htts]
    exact fun hclosed hput hend _ ↦ hsent hclosed hput hend hproducer
  · intro hwake
    rw [hwake] at hproducer'
    cases hproducer'
  · rwa [haudio, hplayer, htts]

theorem produce (h : AudioSide s) {e : ProducerEvent Text} (hstep : Produces s e s') :
    AudioSide s' := by
  have hclearing := h.closed_of_clearing
  cases hstep with
  | stays => exact h
  | begins _ hplace _ | accepts _ hplace _ | rejects _ hplace | closes hplace _ | waits hplace _
  | sends hplace _ | joinsTts hplace | joinsAudio hplace | reports hplace | aborts hplace
  | drained hplace _ | wakes hplace _ | raises hplace _ | leaves hplace _ =>
    exact h.frame rfl rfl rfl (by rw [hplace]; rfl) rfl
  | drains _ _ hplace _ =>
    have hclear : s.producer.clearing = false := by rw [hplace]; rfl
    exact h.frame rfl rfl rfl hclear hclear
  | closesAudio habort =>
    exact
      { length := h.length
        unclosed := nofun
        sent := nofun
        waking := nofun
        room := h.room }
  | drainsAudio item rest hdrain hqueue =>
    have hclear : s.producer.clearing = true := by rw [hdrain]; rfl
    have hclosed := h.closed_of_clearing hclear
    have hlength := h.length
    have hroom := h.room
    rw [hqueue, List.length_cons] at hlength hroom
    exact
      { length := Nat.le_of_succ_le hlength
        unclosed := fun hopen ↦ nomatch hclosed.symm.trans hopen
        sent := fun _ _ _ hnot ↦ nomatch hclear.symm.trans hnot
        waking := fun hwake ↦ nomatch hdrain.symm.trans hwake
        room := fun hor ↦ by
          have hsum := hroom (hor.imp_left (List.mem_cons_of_mem _))
          dsimp only
          omega }
  | drainedAudio hdrain hqueue =>
    have hclosed := h.closed_of_clearing (by rw [hdrain]; rfl)
    have hflight := inFlight_le s.tts
    have hempty : s.audio.queue.length + s.tts.inFlight ≤ 1 := by
      rw [hqueue]
      exact (Nat.zero_add _).trans_le hflight
    exact
      { length := h.length
        unclosed := fun hopen ↦ nomatch hclosed.symm.trans hopen
        sent := nofun
        waking := fun _ ↦ hempty
        room := fun _ ↦ Nat.le_succ_of_le hempty }
  | wakesAudio hwake hroom =>
    have hclosed := h.closed_of_clearing (by rw [hwake]; rfl)
    have hfew := h.waking hwake
    have hlength : (s.audio.queue ++ [none]).length + s.tts.inFlight ≤ 2 := by
      rw [List.length_append, List.length_singleton]
      omega
    exact
      { length := (Nat.le_add_right _ _).trans hlength
        unclosed := fun hopen ↦ nomatch hclosed.symm.trans hopen
        sent := fun _ _ _ _ ↦ List.mem_append_right _ (List.mem_singleton_self _)
        waking := nofun
        room := fun _ ↦ hlength }
  | raisesAudio hwake hfull =>
    have hfew := h.waking hwake
    rw [DoubleBuffer.full, decide_eq_true_eq] at hfull
    omega

theorem work (h : AudioSide s) (haudio : s'.audio = s.audio)
    (hproducer : s'.producer = s.producer) (hplayer : s'.player = s.player)
    (hflight : s'.tts.inFlight ≤ s.tts.inFlight) (hput : s.tts ≠ .closingPut)
    (htts : s'.tts.looping = true ∨ s'.tts = .closing) : AudioSide s' := by
  obtain ⟨hlength, hunclosed, hsent, hwaking, hroom⟩ := h
  constructor
  · rwa [haudio]
  · rw [haudio, hplayer, hproducer]
    exact fun hopen ↦ ⟨(hunclosed hopen).1, (hunclosed hopen).2.1, htts, (hunclosed hopen).2.2.2⟩
  · rw [haudio, hplayer, hproducer]
    exact fun hclosed _ ↦ hsent hclosed hput
  · rw [haudio, hproducer]
    exact fun hwake ↦ (Nat.add_le_add_left hflight _).trans (hwaking hwake)
  · rw [haudio, hplayer]
    exact fun hor ↦ (Nat.add_le_add_left hflight _).trans (hroom hor)

theorem synthesizeTexts (h : AudioSide s) {e : TtsEvent Byte} (hstep : Synthesizes k s e s') :
    AudioSide s' := by
  cases hstep with
  | stays => exact h
  | ends rest hget _ =>
    exact h.work rfl rfl rfl (Nat.zero_le _) (by simp [hget]) (.inr rfl)
  | takes text rest hget _ =>
    exact h.work rfl rfl rfl (Nat.zero_le _) (by simp [hget]) (.inl rfl)
  | feeds text pcm hsyn =>
    exact h.work rfl rfl rfl ((feeding_inFlight _).trans_le (Nat.zero_le _)) (by simp [hsyn])
      (.inl (feeding_looping _))
  | stops text hsyn => exact h.work rfl rfl rfl (Nat.zero_le _) (by simp [hsyn]) (.inr rfl)
  | fails failure hlooping hfails =>
    have hput : s.tts ≠ .closingPut := by
      intro hput
      rw [hput] at hlooping
      cases hlooping
    exact h.work rfl rfl rfl (Nat.zero_le _) hput (.inr rfl)
  | offers chunk rest hfeed hopen =>
    -- a new chunk is on its way: the buffer is open, so there is no sentinel
    have hopen : s.audio.closed = false := by simpa using hopen
    obtain ⟨hnone, hplaying, -, hproducer⟩ := h.unclosed hopen
    exact
      { length := h.length
        unclosed := fun _ ↦ ⟨hnone, hplaying, .inl rfl, hproducer⟩
        sent := fun hclosed ↦ nomatch hopen.symm.trans hclosed
        waking := fun hwake ↦ nomatch hproducer.symm.trans (congrArg Producer.clearing hwake)
        room := fun hor ↦ absurd hor (not_or.mpr ⟨hnone, hplaying⟩) }
  | puts chunk rest hput hroom =>
    obtain ⟨hlength, hunclosed, hsent, hwaking, hroom'⟩ := h
    rw [hput, putting_inFlight] at hwaking hroom'
    have hroom := not_full_iff.mp hroom
    have hmem : none ∈ s.audio.queue ++ [some chunk] → none ∈ s.audio.queue := by simp
    have hlength' : (s.audio.queue ++ [some chunk]).length = s.audio.queue.length + 1 :=
      List.length_append ..
    have hflight : (feeding rest : TtsWorker Text Byte).inFlight = 0 := feeding_inFlight rest
    exact
      { length := hlength'.trans_le hroom
        unclosed := fun hopen ↦
          let ⟨hnone, hplaying, _, hproducer⟩ := hunclosed hopen
          ⟨mt hmem hnone, hplaying, .inl (feeding_looping rest), hproducer⟩
        sent := fun hclosed _ hplaying hproducer ↦
          List.mem_append_left _ (hsent hclosed (by simp [hput]) hplaying hproducer)
        waking := fun hwake ↦ by
          have hsum := hwaking hwake
          dsimp only [DoubleBuffer.add]
          omega
        room := fun hor ↦ by
          have hsum := hroom' (hor.imp_left hmem)
          dsimp only [DoubleBuffer.add]
          omega }
  | closed hclose hclosed =>
    exact
      { length := h.length
        unclosed := fun hopen ↦ nomatch hclosed.symm.trans hopen
        sent := fun _ _ ↦ h.sent hclosed (by simp [hclose])
        waking := by simpa [hclose] using h.waking
        room := by simpa [hclose] using h.room }
  | closes hclose hopen =>
    obtain ⟨hnone, hplaying, -, hproducer⟩ := h.unclosed (by simpa using hopen)
    exact
      { length := h.length
        unclosed := nofun
        sent := fun _ hput ↦ absurd rfl hput
        waking := fun hwake ↦ nomatch hproducer.symm.trans (congrArg Producer.clearing hwake)
        room := fun hor ↦ absurd hor (not_or.mpr ⟨hnone, hplaying⟩) }
  | sends hput hroom =>
    have hclosed := h.closed_of_closingPut hput
    have hwaking := h.waking
    rw [hput, closingPut_inFlight] at hwaking
    have hlength : (s.audio.queue ++ [none]).length ≤ 2 :=
      (List.length_append ..).trans_le (not_full_iff.mp hroom)
    exact
      { length := hlength
        unclosed := fun hopen ↦ nomatch hclosed.symm.trans hopen
        sent := fun _ _ _ _ ↦ List.mem_append_right _ (List.mem_singleton_self _)
        waking := fun hwake ↦ by
          have hsum := hwaking hwake
          simp only [DoubleBuffer.add, List.length_append, List.length_singleton, ended_inFlight]
          omega
        room := fun _ ↦ hlength }

theorem publishAudio (h : AudioSide s) {e : AudioEvent} (hstep : Publishes s e s')
    (hallowed : Allowed s (.audio e : Event Text Byte)) : AudioSide s' := by
  obtain ⟨hlength, hunclosed, hsent, hwaking, hroom⟩ := h
  cases hstep with
  | stays => exact ⟨hlength, hunclosed, hsent, hwaking, hroom⟩
  | ends rest hget hqueue =>
    have hclosed : s.audio.closed = true := by
      by_contra hopen
      have hnone := (hunclosed (by simpa using hopen)).1
      simp [hqueue] at hnone
    rw [hqueue, List.length_cons] at hlength hwaking hroom
    have hsum := hroom (.inl (List.mem_cons_self ..))
    exact
      { length := Nat.le_of_succ_le hlength
        unclosed := fun hopen ↦ nomatch hclosed.symm.trans hopen
        sent := fun _ _ hplaying ↦ absurd rfl hplaying
        waking := fun hwake ↦ by
          have hfew := hwaking hwake
          dsimp only
          omega
        room := fun _ ↦ by
          dsimp only
          omega }
  | takes chunk rest hget hqueue =>
    rw [hqueue] at hunclosed hsent
    rw [hqueue, List.length_cons] at hlength hwaking hroom
    exact
      { length := Nat.le_of_succ_le hlength
        unclosed := fun hopen ↦
          let ⟨hnone, _, htts, hproducer⟩ := hunclosed hopen
          ⟨mt (List.mem_cons_of_mem _) hnone, nofun, htts, hproducer⟩
        sent := fun hclosed hput _ hproducer ↦
          (List.mem_cons.mp (hsent hclosed hput (by simp [hget]) hproducer)).resolve_left nofun
        waking := fun hwake ↦ by
          have hsum := hwaking hwake
          dsimp only
          omega
        room := fun hor ↦ by
          have hsum := hroom (.inl (List.mem_cons_of_mem _ (hor.resolve_right nofun)))
          dsimp only
          omega }
  | publishes chunk hpublish =>
    exact
      { length := hlength
        unclosed := fun hopen ↦
          let ⟨hnone, _, htts, hproducer⟩ := hunclosed hopen
          ⟨hnone, nofun, htts, hproducer⟩
        sent := fun hclosed hput _ ↦ hsent hclosed hput (by simp [hpublish])
        waking := hwaking
        room := fun hor ↦ hroom (.inl (hor.resolve_right nofun)) }
  | raises => exact hallowed.elim

theorem step (h : AudioSide s) (e : Event Text Byte) (hallowed : Allowed s e) :
    AudioSide (step k s e).1 := by
  cases e with
  | producer e => exact h.produce (produce_produces s e)
  | tts e => exact h.synthesizeTexts (synthesizeTexts_synthesizes k s e)
  | audio e => exact h.publishAudio (publishAudio_publishes s e) hallowed

end AudioSide

/-- A thread waits at a full or an empty buffer, and the thread at its other end has ended. -/
inductive Blocked (s : State Text Byte) : Prop
  | producer (hput : s.producer = .closing) (hfull : s.message.full = true)
      (hpartner : s.tts = .ended)
  | getText (hget : s.tts = .getting) (hempty : s.message.queue = [])
      (hpartner : s.producer = .left)
  | putSentinel (hput : s.tts = .closingPut) (hfull : s.audio.full = true)
      (hpartner : s.player = .ended)
  | getChunk (hget : s.player = .getting) (hempty : s.audio.queue = [])
      (hpartner : s.tts = .ended) (hproducer : s.producer.clearing = false)

theorem not_blocked (hm : MessageSide s) (ha : AudioSide s) : ¬ Blocked s := by
  rintro (⟨hput, hfull, hpartner⟩ | ⟨hget, hempty, hpartner⟩ | ⟨hput, hfull, hpartner⟩ |
    ⟨hget, hempty, hpartner, hproducer⟩)
  · have hone := hm.short (by rw [hpartner]; rfl) (hm.closing hput)
    simp only [DoubleBuffer.full, decide_eq_true_eq] at hfull
    omega
  · have hclosed := hm.closed (by simp [hpartner]) (by simp [hpartner])
    have hsent := hm.sent (by rw [hget]; rfl) hclosed (by rw [hpartner]; rfl)
    simp [hempty] at hsent
  · have hroom := ha.room (.inr hpartner)
    rw [hput, closingPut_inFlight] at hroom
    simp only [DoubleBuffer.full, decide_eq_true_eq] at hfull
    omega
  · have hclosed : s.audio.closed = true := by
      by_contra hopen
      have hlooping := (ha.unclosed (by simpa using hopen)).2.2.1
      simp [hpartner, TtsWorker.looping] at hlooping
    have hsent := ha.sent hclosed (by simp [hpartner]) (by simp [hget]) hproducer
    simp [hempty] at hsent

end EmbodiedAgent.Offline.PseudoStreamingTts
