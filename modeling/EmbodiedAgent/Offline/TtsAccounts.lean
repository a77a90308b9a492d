import EmbodiedAgent.Offline.TtsCompletion
import Mathlib.Data.List.ReduceOption

namespace EmbodiedAgent.Offline.PseudoStreamingTts

open Library History

variable {Text Byte : Type} {k : ℕ} {s : State Text Byte}

def TtsWorker.text : TtsWorker Text Byte → List Text
  | .synthesizing text => [text]
  | _ => []

def TtsWorker.pending : TtsWorker Text Byte → List (List Byte)
  | .feeding chunk rest | .putting chunk rest => chunk :: rest
  | _ => []

def AudioWorker.chunk : AudioWorker Byte → List (List Byte)
  | .publishing chunk => [chunk]
  | _ => []

theorem text_synthesizing (text : Text) :
    (TtsWorker.synthesizing text : TtsWorker Text Byte).text = [text] := rfl

theorem pending_synthesizing (text : Text) :
    (TtsWorker.synthesizing text : TtsWorker Text Byte).pending = [] := rfl

theorem text_putting (chunk : List Byte) (rest : List (List Byte)) :
    (TtsWorker.putting chunk rest : TtsWorker Text Byte).text = [] := rfl

theorem pending_putting (chunk : List Byte) (rest : List (List Byte)) :
    (TtsWorker.putting chunk rest : TtsWorker Text Byte).pending = chunk :: rest := rfl

@[simp] theorem feeding_pending (rest : List (List Byte)) :
    (feeding rest : TtsWorker Text Byte).pending = rest := by
  cases rest <;> rfl

@[simp] theorem feeding_text (rest : List (List Byte)) :
    (feeding rest : TtsWorker Text Byte).text = [] := by
  cases rest <;> rfl

@[simp] theorem feeding_ne_ended (rest : List (List Byte)) :
    (feeding rest : TtsWorker Text Byte) ≠ .ended := by
  cases rest <;> simp [feeding]

/-- `close_and_wait` is running. -/
def Producer.waiting : Producer Text → Bool
  | .closing | .joiningTts | .joiningAudio | .reporting => true
  | _ => false

def Producer.aborting : Producer Text → Bool
  | .drainingMessages | .wakingTts | .abortingAudio | .drainingAudio | .wakingAudio => true
  | _ => false

structure Accounts (s : State Text Byte) : Prop where
  texts : s.errors = [] →
    s.accepted = s.synthesized.map Prod.fst ++ s.tts.text ++ s.message.queue.reduceOption
  bytes : s.errors = [] → (s.synthesized.map Prod.snd).flatten =
    (s.published ++ s.player.chunk ++ s.audio.queue.reduceOption ++ s.tts.pending).flatten
  stopped : s.errors = [] → s.tts.looping = false →
    s.message.queue = [] ∧ s.message.closed = true ∧ s.producer ≠ .closing
  playing : s.tts ≠ .ended → none ∉ s.audio.queue ∧ s.player ≠ .ended
  played : s.tts = .ended →
    SentinelLast s.audio.queue ∧ (s.player = .ended → s.audio.queue = [])

structure Kept (s : State Text Byte) : Prop where
  waiting : s.producer.waiting = true → s.aborted = false
  aborting : s.producer.aborting = true → s.aborted = true
  accounts : s.aborted = false → Accounts s

theorem kept_start : Kept ({} : State Text Byte) where
  waiting := nofun
  aborting := nofun
  accounts _ :=
    { texts := fun _ ↦ rfl
      bytes := fun _ ↦ rfl
      stopped := nofun
      playing := fun _ ↦ ⟨List.not_mem_nil, nofun⟩
      played := nofun }

variable {s' : State Text Byte}

theorem Accounts.move (h : Accounts s) {place : Producer Text} (hplace : place ≠ .closing) :
    Accounts { s with producer := place } where
  texts := h.texts
  bytes := h.bytes
  stopped hnone hloop :=
    let ⟨hempty, hclosed, _⟩ := h.stopped hnone hloop
    ⟨hempty, hclosed, hplace⟩
  playing := h.playing
  played := h.played

theorem Accounts.produce (h : Accounts s) (hm : MessageSide s) {e : ProducerEvent Text}
    (hstep : Produces s e s') (hbusy : s.producer.aborting = false) (hnot : s'.aborted = false) :
    Accounts s' := by
  cases hstep with
  | stays => exact h
  | begins | rejects | waits | joinsTts | joinsAudio | reports | leaves => exact h.move nofun
  | accepts text hput hroom =>
    have hopen := hm.putting text hput
    exact
      { texts := fun hnone ↦ by
          simp [h.texts hnone, DoubleBuffer.add, List.reduceOption_append]
        bytes := h.bytes
        stopped := fun hnone hloop ↦ nomatch hopen.symm.trans (h.stopped hnone hloop).2.1
        playing := h.playing
        played := h.played }
  | closes hidle hopen =>
    exact
      { texts := h.texts
        bytes := h.bytes
        stopped := fun hnone hloop ↦ absurd (h.stopped hnone hloop).2.1 hopen
        playing := h.playing
        played := h.played }
  | sends hclosing hroom =>
    exact
      { texts := fun hnone ↦ by
          simp [h.texts hnone, DoubleBuffer.add, List.reduceOption_append]
        bytes := h.bytes
        stopped := fun hnone hloop ↦ absurd hclosing (h.stopped hnone hloop).2.2
        playing := h.playing
        played := h.played }
  | aborts => cases hnot
  | drains _ _ hplace _ | drained hplace _ | wakes hplace _ | raises hplace _ | closesAudio hplace
  | drainsAudio _ _ hplace _ | drainedAudio hplace _ | wakesAudio hplace _
  | raisesAudio hplace _ =>
    rw [hplace] at hbusy
    cases hbusy

theorem Accounts.synthesizeTexts (h : Accounts s) (hm : MessageSide s) (hk : 0 < k)
    {e : TtsEvent Byte} (hstep : Synthesizes k s e s') (he : e ≠ .synthesizeStops) :
    Accounts s' := by
  cases hstep with
  | stays => exact h
  | ends rest hget hqueue =>
    have hsent : none ∈ s.message.queue := by simp [hqueue]
    have hlast := hm.last
    rw [hqueue] at hlast
    obtain rfl := hlast.eq_nil
    have hclosed : s.message.closed = true := by
      by_contra hopen
      exact (hm.unclosed (by simpa using hopen)).1 hsent
    exact
      { texts := by simpa [hget, hqueue, TtsWorker.text] using h.texts
        bytes := by simpa [hget, TtsWorker.pending] using h.bytes
        stopped := fun _ _ ↦ ⟨rfl, hclosed, fun hput ↦ hm.closing hput hsent⟩
        playing := fun _ ↦ h.playing (by simp [hget])
        played := fun hended ↦ by cases hended }
  | takes text rest hget hqueue =>
    exact
      { texts := by simpa [hget, hqueue, TtsWorker.text] using h.texts
        bytes := by simpa [hget, TtsWorker.pending] using h.bytes
        stopped := fun _ hloop ↦ by cases hloop
        playing := fun _ ↦ h.playing (by simp [hget])
        played := fun hended ↦ by cases hended }
  | feeds text pcm hsyn =>
    have hslices := flatten_chunks hk pcm
    exact
      { texts := by simpa [hsyn, text_synthesizing] using h.texts
        bytes := fun hnone ↦ by
          simp [h.bytes hnone, hsyn, pending_synthesizing, hslices]
        stopped := fun _ hloop ↦ nomatch (feeding_looping _).symm.trans hloop
        playing := fun _ ↦ h.playing (by simp [hsyn])
        played := fun hended ↦ absurd hended (feeding_ne_ended _) }
  | fails failure hlooping hfails =>
    have hne : s.tts ≠ .ended := by
      intro hended
      rw [hended] at hlooping
      cases hlooping
    have herrors : s.errors ++ [failure] ≠ [] := List.append_ne_nil_of_right_ne_nil _ nofun
    exact
      { texts := (absurd · herrors)
        bytes := (absurd · herrors)
        stopped := (absurd · herrors)
        playing := fun _ ↦ h.playing hne
        played := fun hended ↦ by cases hended }
  | stops => exact absurd rfl he
  | offers chunk rest hfeed hopen =>
    exact
      { texts := by simpa [hfeed, TtsWorker.text] using h.texts
        bytes := by simpa [hfeed, TtsWorker.pending] using h.bytes
        stopped := fun _ hloop ↦ by cases hloop
        playing := fun _ ↦ h.playing (by simp [hfeed])
        played := fun hended ↦ by cases hended }
  | puts chunk rest hput hroom =>
    obtain ⟨hnone, hplaying⟩ := h.playing (by simp [hput])
    exact
      { texts := by simpa [hput, text_putting] using h.texts
        bytes := by
          simpa [hput, pending_putting, DoubleBuffer.add, List.reduceOption_append] using h.bytes
        stopped := fun _ hloop ↦ nomatch (feeding_looping _).symm.trans hloop
        playing := fun _ ↦ ⟨by simpa [DoubleBuffer.add] using hnone, hplaying⟩
        played := fun hended ↦ absurd hended (feeding_ne_ended _) }
  | closed hclose hclosed =>
    obtain ⟨hnone, hplaying⟩ := h.playing (by simp [hclose])
    exact
      { texts := by simpa [hclose, TtsWorker.text] using h.texts
        bytes := by simpa [hclose, TtsWorker.pending] using h.bytes
        stopped := fun herrors _ ↦ h.stopped herrors (by rw [hclose]; rfl)
        playing := fun hended ↦ absurd rfl hended
        played := fun _ ↦ ⟨sentinelLast_of_not_mem hnone, fun hended ↦ absurd hended hplaying⟩ }
  | closes hclose hopen =>
    exact
      { texts := by simpa [hclose, TtsWorker.text] using h.texts
        bytes := by simpa [hclose, TtsWorker.pending] using h.bytes
        stopped := fun herrors _ ↦ h.stopped herrors (by rw [hclose]; rfl)
        playing := fun _ ↦ h.playing (by simp [hclose])
        played := fun hended ↦ by cases hended }
  | sends hput hroom =>
    obtain ⟨hnone, hplaying⟩ := h.playing (by simp [hput])
    exact
      { texts := by simpa [hput, TtsWorker.text] using h.texts
        bytes := by
          simpa [hput, TtsWorker.pending, DoubleBuffer.add, List.reduceOption_append] using h.bytes
        stopped := fun herrors _ ↦ h.stopped herrors (by rw [hput]; rfl)
        playing := fun hended ↦ absurd rfl hended
        played := fun _ ↦ ⟨sentinelLast_append hnone, fun hended ↦ absurd hended hplaying⟩ }

theorem Accounts.publishAudio (h : Accounts s) {e : AudioEvent} (hstep : Publishes s e s')
    (he : e ≠ .publishRaises) : Accounts s' := by
  cases hstep with
  | stays => exact h
  | ends rest hget hqueue =>
    have hended : s.tts = .ended := by
      by_contra hne
      exact (h.playing hne).1 (by simp [hqueue])
    obtain ⟨hlast, -⟩ := h.played hended
    rw [hqueue] at hlast
    obtain rfl := hlast.eq_nil
    exact
      { texts := h.texts
        bytes := by simpa [hget, hqueue, AudioWorker.chunk] using h.bytes
        stopped := h.stopped
        playing := fun hne ↦ absurd hended hne
        played := fun _ ↦ ⟨sentinelLast_of_not_mem List.not_mem_nil, fun _ ↦ rfl⟩ }
  | takes chunk rest hget hqueue =>
    have hplaying := h.playing
    have hplayed := h.played
    rw [hqueue] at hplaying hplayed
    exact
      { texts := h.texts
        bytes := by simpa [hget, hqueue, AudioWorker.chunk] using h.bytes
        stopped := h.stopped
        playing := fun hne ↦ ⟨mt (List.mem_cons_of_mem _) (hplaying hne).1, nofun⟩
        played := fun hended ↦ ⟨(hplayed hended).1.tail, nofun⟩ }
  | publishes chunk hpublish =>
    exact
      { texts := h.texts
        bytes := by simpa [hpublish, AudioWorker.chunk] using h.bytes
        stopped := h.stopped
        playing := fun hne ↦ ⟨(h.playing hne).1, nofun⟩
        played := fun hended ↦ ⟨(h.played hended).1, nofun⟩ }
  | raises => exact absurd rfl he

theorem produce_waiting {e : ProducerEvent Text} (hstep : Produces s e s')
    (h : s.producer.waiting = true → s.aborted = false)
    (hallowed : Allowed s (.producer e : Event Text Byte)) :
    s'.producer.waiting = true → s'.aborted = false := by
  cases hstep with
  | stays | drains | drainsAudio => exact h
  | closes | waits => exact fun _ ↦ hallowed
  | sends hplace _ | joinsTts hplace | joinsAudio hplace => exact fun _ ↦ h (by rw [hplace]; rfl)
  | _ => nofun

theorem produce_aborting {e : ProducerEvent Text} (hstep : Produces s e s')
    (h : s.producer.aborting = true → s.aborted = true) :
    s'.producer.aborting = true → s'.aborted = true := by
  cases hstep with
  | stays | drains | drainsAudio => exact h
  | aborts => exact fun _ ↦ rfl
  | drained hplace _ | wakes hplace _ | closesAudio hplace | drainedAudio hplace _ =>
    exact fun _ ↦ h (by rw [hplace]; rfl)
  | _ => nofun

theorem produce_aborted {e : ProducerEvent Text} (hstep : Produces s e s')
    (h : s'.aborted = false) : s.aborted = false := by
  cases hstep with
  | aborts => cases h
  | _ => exact h

theorem synthesizeTexts_rest (k : ℕ) (s : State Text Byte) (e : TtsEvent Byte) :
    (synthesizeTexts k s e).producer = s.producer ∧
      (synthesizeTexts k s e).aborted = s.aborted := by
  have hstep := synthesizeTexts_synthesizes k s e
  generalize synthesizeTexts k s e = s' at hstep ⊢
  cases hstep <;> exact ⟨rfl, rfl⟩

theorem Kept.step (h : Kept s) (hm : MessageSide s) (hk : 0 < k) (e : Event Text Byte)
    (hallowed : Allowed s e) : Kept (step k s e).1 := by
  obtain ⟨hwaiting, haborting, haccounts⟩ := h
  cases e with
  | producer e =>
    have hstep := produce_produces s e
    refine ⟨produce_waiting hstep hwaiting hallowed, produce_aborting hstep haborting,
      fun hnot ↦ ?_⟩
    have hbefore := produce_aborted hstep hnot
    have hbusy : s.producer.aborting = false := by
      by_contra hbusy
      exact nomatch hbefore.symm.trans (haborting (by simpa using hbusy))
    exact (haccounts hbefore).produce hm hstep hbusy hnot
  | tts e =>
    have hstep := synthesizeTexts_synthesizes k s e
    obtain ⟨hproducer, haborted⟩ := synthesizeTexts_rest k s e
    have hstops : e ≠ .synthesizeStops := by
      rintro rfl
      exact hallowed
    refine ⟨?_, ?_, fun hnot ↦ ?_⟩
    · exact hproducer.symm ▸ haborted.symm ▸ hwaiting
    · exact hproducer.symm ▸ haborted.symm ▸ haborting
    · exact (haccounts (haborted ▸ hnot)).synthesizeTexts hm hk hstep hstops
  | audio e =>
    obtain ⟨-, hproducer, -, haborted⟩ := publishAudio_rest s e
    have hraises : e ≠ .publishRaises := by
      rintro rfl
      exact hallowed
    refine ⟨?_, ?_, fun hnot ↦ ?_⟩
    · exact hproducer.symm ▸ haborted.symm ▸ hwaiting
    · exact hproducer.symm ▸ haborted.symm ▸ haborting
    · exact (haccounts (haborted ▸ hnot)).publishAudio (publishAudio_publishes s e) hraises

theorem outcome_returned {e : Event Text Byte} (h : outcome s e = some .returned) :
    s.producer = .reporting ∧ s.tts = .ended ∧ s.player = .ended ∧ s.errors = [] := by
  unfold outcome at h
  split at h
  · split at h
    · exact ⟨‹_›, ‹_›, ‹_›, ‹_›⟩
    · cases h
    · cases h
    · cases h
  · cases h

theorem published_of_returned (h : Kept s) {e : Event Text Byte}
    (hreturned : outcome s e = some .returned) : s.synthesized.map Prod.fst = s.accepted ∧
      s.published.flatten = (s.synthesized.map Prod.snd).flatten := by
  obtain ⟨hproducer, htts, hplayer, herrors⟩ := outcome_returned hreturned
  have haccounts := h.accounts (h.waiting (by rw [hproducer]; rfl))
  obtain ⟨hempty, -⟩ := haccounts.stopped herrors (by rw [htts]; rfl)
  have hplayed := (haccounts.played htts).2 hplayer
  have htexts := haccounts.texts herrors
  have hbytes := haccounts.bytes herrors
  simp only [htts, hempty, TtsWorker.text, List.reduceOption_nil, List.append_nil] at htexts
  simp only [htts, hplayer, hplayed, TtsWorker.pending, AudioWorker.chunk,
    List.reduceOption_nil, List.append_nil] at hbytes
  exact ⟨htexts.symm, hbytes.symm⟩

def after (sampleRate pcmChunkMs : ℤ) (events : List (Event Text Byte)) : State Text Byte :=
  run (step (bytesPerChunk sampleRate pcmChunkMs)) {} events

/-- On allowed steps no thread waits for one that has ended, and what is published is what was
accepted. -/
theorem completes_honestly (sampleRate pcmChunkMs : ℤ) {events : List (Event Text Byte)}
    (hrun : Along (step (bytesPerChunk sampleRate pcmChunkMs)) Allowed {} events) :
    ¬ Blocked (after sampleRate pcmChunkMs events) ∧
      ∀ e, outcome (after sampleRate pcmChunkMs events) e = some .returned →
        (after sampleRate pcmChunkMs events).synthesized.map Prod.fst =
          (after sampleRate pcmChunkMs events).accepted ∧
        (after sampleRate pcmChunkMs events).published.flatten =
          ((after sampleRate pcmChunkMs events).synthesized.map Prod.snd).flatten := by
  have hk := bytesPerChunk_pos sampleRate pcmChunkMs
  obtain ⟨⟨hmessage, haudio⟩, hkept⟩ := Along.preserves
    (step (bytesPerChunk sampleRate pcmChunkMs))
      (I := fun s ↦ (MessageSide s ∧ AudioSide s) ∧ Kept s)
    (fun s e hallowed h ↦ ⟨⟨h.1.1.step e hallowed, h.1.2.step e hallowed⟩,
      h.2.step h.1.1 hk e hallowed⟩)
    ⟨⟨messageSide_start, audioSide_start⟩, kept_start⟩ hrun
  exact ⟨not_blocked hmessage haudio, fun e ↦ published_of_returned hkept⟩

def twoTexts : List (Event String ℕ) :=
  [.producer (.putText "a"), .producer .enqueue, .tts .getText, .producer (.putText "b"),
    .producer .enqueue, .tts (.synthesized [1, 2]), .tts .offerChunk, .tts .putChunk, .tts .getText,
    .producer .closeAndWait, .producer .putSentinel, .audio .getChunk, .audio .published,
    .tts (.synthesized [3]), .tts .offerChunk, .tts .putChunk, .tts .getText, .tts .closeAudio,
    .tts .putSentinel, .audio .getChunk, .audio .published, .audio .getChunk, .producer .joinTts,
    .producer .joinAudio]

theorem completes_honestly_twoTexts : ¬ Blocked (after 1000 1 twoTexts) ∧
    outcome (after 1000 1 twoTexts) (.producer .report) = some .returned ∧
    (after 1000 1 twoTexts).published.flatten = [1, 2, 3] := by
  have hrun : Along (step (bytesPerChunk 1000 1)) Allowed {} twoTexts := by decide
  have hreturned : outcome (after 1000 1 twoTexts) (.producer .report) = some .returned := by
    decide
  obtain ⟨hblocked, hpublished⟩ := completes_honestly 1000 1 hrun
  exact ⟨hblocked, hreturned, (hpublished _ hreturned).2.trans (by decide)⟩

/-- The audio worker dies of the only chunk, and nobody is told. -/
def lostAudio : List (Event String ℕ) :=
  [.producer (.putText "a"), .producer .enqueue, .tts .getText, .tts (.synthesized [1, 2]),
    .tts .offerChunk, .tts .putChunk, .audio .getChunk, .audio .publishRaises,
    .producer .closeAndWait, .producer .putSentinel, .tts .getText, .tts .closeAudio,
    .tts .putSentinel, .producer .joinTts, .producer .joinAudio]

def closedTooLate : List (Event String ℕ) :=
  [.producer (.putText "a"), .producer .enqueue, .tts .getText, .producer (.putText "b"),
    .producer .enqueue, .producer (.putText "c"), .producer .enqueue, .tts .synthesizeRaises,
    .tts .closeAudio, .tts .putSentinel, .producer .closeAndWait]

theorem dishonest_completion :
    (outcome (after 1000 1 lostAudio) (.producer .report) = some .returned ∧
      (after 1000 1 lostAudio).accepted = ["a"] ∧
      (after 1000 1 lostAudio).synthesized = [("a", [1, 2])] ∧
      (after 1000 1 lostAudio).published = []) ∧ Blocked (after 1000 1 closedTooLate) :=
  ⟨by decide, .producer (by decide) (by decide) (by decide)⟩

end EmbodiedAgent.Offline.PseudoStreamingTts
