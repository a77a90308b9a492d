import EmbodiedAgent.Agent.Protocol

namespace EmbodiedAgent.Agent.StreamingTurn

open Library Protocol

structure StreamingTurnResult where
  assistantText : Chars
  modelOutput : Chars
  rawOutput : Chars
  actions : List ActionCommand
  modelActions : List ActionCommand
  protocolErrors : List String
  actionSource : String

inductive Callback
  | firstToken
  | speechDelta (delta : Chars)
  | speakable (sentence : Chars)
  | protocolError (error : String)

structure StreamingTurnRuntime where
  parser : TaggedStreamParser := {}
  chunker : SentenceChunker
  firstToken : Bool := true
  speechParts : List Chars := []
  modelActions : List ActionCommand := []
  rawOutputParts : List Chars := []
  protocolErrors : List String := []
  finished : Bool := false
  callbacks : List Callback := []

def formatErrorSpeech : Chars := "抱歉，回复格式解析失败，请再说一次。".toList

def alreadyFinished : String := "streaming turn is already finished"

/-- `_select_actions` -/
def selectActions (u : Unicode) (modelActions : List ActionCommand) (userText : Chars)
    (allowActions : Bool) : List ActionCommand × String :=
  if !allowActions then ([], "context_blocked")
  else
    let deterministic := CommandFallback.parseFallbackActions u userText
    if !deterministic.isEmpty then (deterministic, "deterministic")
    else if CommandFallback.shouldBlockModelActions u userText then ([], "blocked")
    else if !modelActions.isEmpty then (modelActions, "model")
    else ([], "none")

def taggedSpeech (assistantText : Chars) : Chars := speechOpen ++ assistantText ++ speechClose

namespace StreamingTurnRuntime

def create (maxChunkChars : ℤ) : StreamingTurnRuntime :=
  { chunker := { maxChars := maxChunkChars } }

def acceptSpeech (r : StreamingTurnRuntime) (delta : Chars) : StreamingTurnRuntime :=
  let chunked := r.chunker.feed delta
  { r with
      speechParts := r.speechParts ++ [delta]
      chunker := chunked.1
      callbacks := r.callbacks ++ .speechDelta delta :: chunked.2.map .speakable }

def consumeEvents (r : StreamingTurnRuntime) (events : ProtocolEvents) : StreamingTurnRuntime :=
  let accepted := events.speech.foldl acceptSpeech r
  { accepted with
      modelActions := accepted.modelActions ++ events.actions
      protocolErrors := accepted.protocolErrors ++ events.errors
      callbacks := accepted.callbacks ++ events.errors.map .protocolError }

def apologize (r : StreamingTurnRuntime) : StreamingTurnRuntime :=
  if r.speechParts.isEmpty then r.acceptSpeech formatErrorSpeech else r

def flush (r : StreamingTurnRuntime) : StreamingTurnRuntime :=
  let chunked := r.chunker.finish
  { r with
      chunker := chunked.1
      callbacks := r.callbacks ++ chunked.2.map .speakable }

variable (loads : Chars → Except String JsonValue) (u : Unicode)

def result (r : StreamingTurnRuntime) (userText : Chars) (allowActions : Bool) :
    StreamingTurnResult :=
  let selected := selectActions u r.modelActions userText allowActions
  let assistantText := Text.stripChars r.speechParts.flatten
  let rawOutput := Text.stripChars r.rawOutputParts.flatten
  { assistantText := assistantText
    modelOutput :=
      if rawOutput ≠ [] ∧ r.protocolErrors = [] then rawOutput else taggedSpeech assistantText
    rawOutput := rawOutput
    actions := selected.1
    modelActions := r.modelActions
    protocolErrors := r.protocolErrors
    actionSource := selected.2 }

def readRest (r : StreamingTurnRuntime) : StreamingTurnRuntime :=
  consumeEvents { r with finished := true, parser := (r.parser.finish loads).1 }
    (r.parser.finish loads).2

def receive (r : StreamingTurnRuntime) (token : Chars) : StreamingTurnRuntime :=
  { r with
      rawOutputParts := r.rawOutputParts ++ [token]
      firstToken := false
      callbacks := if r.firstToken then r.callbacks ++ [.firstToken] else r.callbacks
      parser := (r.parser.feed loads token).1 }

def feed (r : StreamingTurnRuntime) (token : Chars) : Except String StreamingTurnRuntime :=
  if r.finished then .error alreadyFinished
  else .ok ((r.receive loads token).consumeEvents (r.parser.feed loads token).2)

def finish (r : StreamingTurnRuntime) (userText : Chars) (allowActions : Bool) :
    Except String (StreamingTurnResult × StreamingTurnRuntime) :=
  if r.finished then .error alreadyFinished
  else
    let closed := (r.readRest loads).apologize.flush
    .ok (closed.result u userText allowActions, closed)

def turn (maxChunkChars : ℤ) (tokens : List Chars) (userText : Chars) (allowActions : Bool) :
    Except String (StreamingTurnResult × StreamingTurnRuntime) :=
  tokens.foldlM (feed loads) (create maxChunkChars) >>= fun r ↦
    r.finish loads u userText allowActions

def speakable : Callback → Option Chars
  | .speakable sentence => some sentence
  | _ => none

def sentences (r : StreamingTurnRuntime) : List Chars := r.callbacks.filterMap speakable

end StreamingTurnRuntime

open StreamingTurnRuntime

def sentencesOf (maxChunkChars : ℤ) (speech : Chars) : List Chars :=
  let chunked := SentenceChunker.feed { maxChars := maxChunkChars } speech
  chunked.2 ++ chunked.1.finish.2

def spokenText (reading : Reading) : Chars :=
  if reading.speech = [] then formatErrorSpeech else reading.speech

/-- The result of a turn, from the whole text of the model at once. -/
def oneShot (loads : Chars → Except String JsonValue) (u : Unicode) (text userText : Chars)
    (allowActions : Bool) : StreamingTurnResult :=
  let reading := readFrom loads .outside text
  let selected := selectActions u reading.actions userText allowActions
  let assistantText := Text.stripChars (spokenText reading)
  let rawOutput := Text.stripChars text
  { assistantText := assistantText
    modelOutput :=
      if rawOutput ≠ [] ∧ reading.errors = [] then rawOutput else taggedSpeech assistantText
    rawOutput := rawOutput
    actions := selected.1
    modelActions := reading.actions
    protocolErrors := reading.errors
    actionSource := selected.2 }

variable {loads : Chars → Except String JsonValue} {u : Unicode} {r : StreamingTurnRuntime}
  {maxChunkChars : ℤ} {text token : Chars} {events : ProtocolEvents}

def readSoFar (r : StreamingTurnRuntime) : Reading :=
  { speech := r.speechParts.flatten, actions := r.modelActions, errors := r.protocolErrors }

structure Speaks (maxChunkChars : ℤ) (r : StreamingTurnRuntime) : Prop where
  parts : ∀ part ∈ r.speechParts, part ≠ []
  chunker : r.chunker =
    (SentenceChunker.feed { maxChars := maxChunkChars } r.speechParts.flatten).1
  spoken : r.sentences =
    (SentenceChunker.feed { maxChars := maxChunkChars } r.speechParts.flatten).2

structure Follows (loads : Chars → Except String JsonValue) (maxChunkChars : ℤ) (text : Chars)
    (r : StreamingTurnRuntime) : Prop where
  reading : ∀ more, readFrom loads .outside (text ++ more) =
    (readSoFar r).append (readFrom loads r.parser.state (r.parser.buffer ++ more))
  raw : r.rawOutputParts.flatten = text
  unfinished : r.finished = false
  speaks : Speaks maxChunkChars r

theorem speakable_map (l : List Chars) : (l.map Callback.speakable).filterMap speakable = l := by
  induction l with
  | nil => rfl
  | cons s l ih => simp [speakable, ih]

theorem speakable_errors (l : List String) :
    (l.map Callback.protocolError).filterMap speakable = [] := by
  induction l with
  | nil => rfl
  | cons e l ih => simp [speakable]

theorem Speaks.acceptSpeech (h : Speaks maxChunkChars r) {delta : Chars} (hd : delta ≠ []) :
    Speaks maxChunkChars (r.acceptSpeech delta) where
  parts := by
    intro part hpart
    rcases List.mem_append.mp hpart with hold | hnew
    · exact h.parts part hold
    · rwa [List.mem_singleton.mp hnew]
  chunker := by
    simp only [StreamingTurnRuntime.acceptSpeech, List.flatten_append, List.flatten_cons,
      List.flatten_nil, List.append_nil, SentenceChunker.feed_append, ← h.chunker]
  spoken := by
    have hspoken := h.spoken
    simp only [sentences] at hspoken
    simp only [StreamingTurnRuntime.acceptSpeech, sentences, List.flatten_append,
      List.flatten_cons, List.flatten_nil, List.append_nil, SentenceChunker.feed_append,
      ← h.chunker, List.filterMap_append, List.filterMap_cons, hspoken, speakable_map]
    rfl

theorem Speaks.foldl (h : Speaks maxChunkChars r) {deltas : List Chars}
    (hd : ∀ delta ∈ deltas, delta ≠ []) :
    Speaks maxChunkChars (deltas.foldl StreamingTurnRuntime.acceptSpeech r) := by
  induction deltas generalizing r with
  | nil => exact h
  | cons delta deltas ih =>
    exact ih (h.acceptSpeech (hd delta (List.mem_cons_self ..)))
      fun d hmem ↦ hd d (List.mem_cons_of_mem delta hmem)

theorem foldl_acceptSpeech (r : StreamingTurnRuntime) (deltas : List Chars) :
    let accepted := deltas.foldl StreamingTurnRuntime.acceptSpeech r
    accepted.speechParts = r.speechParts ++ deltas ∧ accepted.parser = r.parser ∧
      accepted.modelActions = r.modelActions ∧ accepted.protocolErrors = r.protocolErrors ∧
      accepted.rawOutputParts = r.rawOutputParts ∧ accepted.finished = r.finished := by
  induction deltas generalizing r with
  | nil => simp
  | cons delta deltas ih =>
    obtain ⟨hparts, hrest⟩ := ih (r.acceptSpeech delta)
    refine ⟨?_, hrest⟩
    simp only [List.foldl_cons, hparts]
    simp [StreamingTurnRuntime.acceptSpeech]

theorem Speaks.consumeEvents (h : Speaks maxChunkChars r)
    (hd : ∀ delta ∈ events.speech, delta ≠ []) :
    Speaks maxChunkChars (r.consumeEvents events) where
  parts := (h.foldl hd).parts
  chunker := (h.foldl hd).chunker
  spoken := by
    have hspoken := (h.foldl hd).spoken
    simp only [sentences] at hspoken
    simp only [StreamingTurnRuntime.consumeEvents, sentences, List.filterMap_append, hspoken,
      speakable_errors, List.append_nil]

theorem readSoFar_consumeEvents (r : StreamingTurnRuntime) (events : ProtocolEvents) :
    readSoFar (r.consumeEvents events) = (readSoFar r).append events.reading := by
  obtain ⟨hparts, -, hactions, herrors, -⟩ := foldl_acceptSpeech r events.speech
  simp only [readSoFar, StreamingTurnRuntime.consumeEvents, Reading.append,
    ProtocolEvents.reading, hparts, hactions, herrors, List.flatten_append]

theorem drain_speech_ne (loads : Chars → Except String JsonValue) (p : TaggedStreamParser) :
    ∀ delta ∈ (drain loads p).2.speech, delta ≠ [] := by
  fun_induction drain loads p with
  | case4 p hempty hstate index hclose drained ih =>
    intro delta hdelta
    rcases List.mem_append.mp hdelta with hnew | hlater
    · split_ifs at hnew with hindex
      · cases hnew
      · obtain rfl := List.mem_singleton.mp hnew
        intro hnil
        have hlength := congrArg List.length hnil
        have hfound := Search.find_length hclose
        rw [List.length_take, List.length_nil] at hlength
        omega
    · exact ih delta hlater
  | case5 p hempty hstate hclose safe hsafe =>
    intro delta hdelta
    obtain rfl := List.mem_singleton.mp hdelta
    intro hnil
    have hlength := congrArg List.length hnil
    rw [List.length_take, List.length_nil] at hlength
    omega
  | case2 p hempty hstate state rest htag ih => exact ih
  | case7 p hempty hstate index hclose drained ih =>
    intro delta hdelta
    have hnone : (readAction loads (p.buffer.take index)).speech = [] := by
      simp only [readAction]
      cases loads (Text.stripChars (p.buffer.take index)) <;> rfl
    simp only [ProtocolEvents.append, hnone, List.nil_append] at hdelta
    exact ih delta hdelta
  | _ => simp

theorem follows_create (loads : Chars → Except String JsonValue) (maxChunkChars : ℤ) :
    Follows loads maxChunkChars [] (create maxChunkChars) where
  reading more := (Reading.nil_append _).symm
  raw := rfl
  unfinished := rfl
  speaks := ⟨by simp [create], rfl, rfl⟩

theorem Follows.feed (h : Follows loads maxChunkChars text r) (token : Chars) :
    ∃ r', r.feed loads token = .ok r' ∧ Follows loads maxChunkChars (text ++ token) r' := by
  have hspeaks : Speaks maxChunkChars (r.receive loads token) := by
    refine ⟨h.speaks.parts, h.speaks.chunker, ?_⟩
    have hspoken := h.speaks.spoken
    simp only [sentences] at hspoken
    simp only [sentences, receive]
    split_ifs <;> simp [hspoken, speakable]
  have hne : ∀ delta ∈ (r.parser.feed loads token).2.speech, delta ≠ [] :=
    drain_speech_ne loads _
  obtain ⟨-, hparser, -, -, hraw, hfinished⟩ :=
    foldl_acceptSpeech (r.receive loads token) (r.parser.feed loads token).2.speech
  refine ⟨_, by rw [StreamingTurnRuntime.feed, h.unfinished, if_neg Bool.false_ne_true], ?_⟩
  constructor
  · intro more
    have hparser' : ((r.receive loads token).consumeEvents (r.parser.feed loads token).2).parser =
        (r.parser.feed loads token).1 := hparser
    rw [List.append_assoc, h.reading, reading_feed, readSoFar_consumeEvents, hparser',
      Reading.append_assoc]
    rfl
  · simp only [StreamingTurnRuntime.consumeEvents, hraw]
    simp [receive, h.raw]
  · simp only [StreamingTurnRuntime.consumeEvents, hfinished]
    exact h.unfinished
  · exact hspeaks.consumeEvents hne

theorem Follows.foldlM (h : Follows loads maxChunkChars text r) (tokens : List Chars) :
    ∃ r', tokens.foldlM (StreamingTurnRuntime.feed loads) r = .ok r' ∧
      Follows loads maxChunkChars (text ++ tokens.flatten) r' := by
  induction tokens generalizing text r with
  | nil => exact ⟨r, rfl, by simpa using h⟩
  | cons token tokens ih =>
    obtain ⟨r', hfeed, hr'⟩ := h.feed token
    obtain ⟨r'', hrest, hr''⟩ := ih hr'
    refine ⟨r'', ?_, by simpa using hr''⟩
    rw [List.foldlM_cons, hfeed]
    exact hrest

theorem Speaks.apologize (h : Speaks maxChunkChars r) : Speaks maxChunkChars r.apologize ∧
    r.apologize.speechParts.flatten = spokenText (readSoFar r) := by
  cases hparts : r.speechParts with
  | nil =>
    have happly : r.apologize = r.acceptSpeech formatErrorSpeech := by
      simp [StreamingTurnRuntime.apologize, hparts]
    rw [happly]
    refine ⟨h.acceptSpeech (by decide), ?_⟩
    simp [StreamingTurnRuntime.acceptSpeech, hparts, spokenText, readSoFar]
  | cons part parts =>
    have happly : r.apologize = r := by simp [StreamingTurnRuntime.apologize, hparts]
    have hne : part ≠ [] := h.parts part (by rw [hparts]; exact List.mem_cons_self ..)
    rw [happly]
    refine ⟨h, ?_⟩
    simp [spokenText, readSoFar, hparts, hne]

theorem apologize_rest (r : StreamingTurnRuntime) :
    r.apologize.modelActions = r.modelActions ∧ r.apologize.protocolErrors = r.protocolErrors ∧
      r.apologize.rawOutputParts = r.rawOutputParts := by
  simp only [StreamingTurnRuntime.apologize]
  split_ifs
  · exact ⟨rfl, rfl, rfl⟩
  · exact ⟨rfl, rfl, rfl⟩

theorem Follows.readRest (h : Follows loads maxChunkChars text r) :
    readSoFar (r.readRest loads) = readFrom loads .outside text ∧
      (r.readRest loads).rawOutputParts.flatten = text ∧
      Speaks maxChunkChars (r.readRest loads) := by
  refine ⟨?_, ?_, ?_⟩
  · have hend := h.reading []
    simp only [List.append_nil] at hend
    rw [StreamingTurnRuntime.readRest, readSoFar_consumeEvents, reading_finish, hend]
    rfl
  · obtain ⟨-, -, -, -, hraw, -⟩ := foldl_acceptSpeech
      { r with finished := true, parser := (r.parser.finish loads).1 }
      (r.parser.finish loads).2.speech
    rw [StreamingTurnRuntime.readRest, StreamingTurnRuntime.consumeEvents, hraw]
    exact h.raw
  · refine Speaks.consumeEvents ⟨h.speaks.parts, h.speaks.chunker, h.speaks.spoken⟩ ?_
    have hne := drain_speech_ne loads { r.parser with buffer := r.parser.buffer ++ [] }
    simpa [TaggedStreamParser.finish, ProtocolEvents.append, TaggedStreamParser.feed] using hne

theorem Speaks.flush (h : Speaks maxChunkChars r) :
    r.flush.sentences = sentencesOf maxChunkChars r.speechParts.flatten := by
  have hspoken := h.spoken
  simp only [sentences] at hspoken
  simp only [StreamingTurnRuntime.flush, sentences, List.filterMap_append, speakable_map, hspoken,
    sentencesOf, h.chunker]

theorem Follows.finish (h : Follows loads maxChunkChars text r) (u : Unicode) (userText : Chars)
    (allowActions : Bool) :
    ∃ r', r.finish loads u userText allowActions =
        .ok (oneShot loads u text userText allowActions, r') ∧
      r'.sentences = sentencesOf maxChunkChars (spokenText (readFrom loads .outside text)) := by
  obtain ⟨hreading, hraw, hspeaks⟩ := h.readRest
  obtain ⟨hspoken, hflat⟩ := hspeaks.apologize
  obtain ⟨hactions, herrors, hparts⟩ := apologize_rest (r.readRest loads)
  rw [hreading] at hflat
  refine ⟨(r.readRest loads).apologize.flush, ?_, ?_⟩
  · have hresult : (r.readRest loads).apologize.flush.result u userText allowActions =
        oneShot loads u text userText allowActions := by
      simp only [result, oneShot, StreamingTurnRuntime.flush, hactions, herrors, hparts, hflat,
        hraw, ← hreading]
      rfl
    rw [StreamingTurnRuntime.finish, h.unfinished, if_neg Bool.false_ne_true]
    dsimp only
    rw [hresult]
  · rw [hspoken.flush, hflat]

theorem sentencesOf_word (maxChunkChars : ℤ) (speech : Chars) :
    ∀ s ∈ sentencesOf maxChunkChars speech, Text.Word s := by
  intro s hs
  rcases List.mem_append.mp hs with hs | hs
  · exact SentenceChunker.feed_word _ _ s hs
  · exact sentence_word _ s hs

theorem sentencesOf_spaced (maxChunkChars : ℤ) (speech : Chars) :
    Text.Spaced (sentencesOf maxChunkChars speech) speech := by
  obtain ⟨spoken, htext, hspaced⟩ :=
    SentenceChunker.feed_spaced { maxChars := maxChunkChars } speech
  rw [List.nil_append] at htext
  conv_rhs => rw [htext]
  exact hspaced.append (sentence_spaced _)

/-- What a turn shows: its result and the sentences that were spoken. -/
def observed (loads : Chars → Except String JsonValue) (u : Unicode) (maxChunkChars : ℤ)
    (tokens : List Chars) (userText : Chars) (allowActions : Bool) :
    Except String (StreamingTurnResult × List Chars) :=
  (turn loads u maxChunkChars tokens userText allowActions).map fun done ↦
    (done.1, done.2.sentences)

theorem observed_eq (loads : Chars → Except String JsonValue) (u : Unicode) (maxChunkChars : ℤ)
    (tokens : List Chars) (userText : Chars) (allowActions : Bool) :
    observed loads u maxChunkChars tokens userText allowActions =
      .ok (oneShot loads u tokens.flatten userText allowActions,
        sentencesOf maxChunkChars (spokenText (readFrom loads .outside tokens.flatten))) := by
  obtain ⟨r, hrun, hr⟩ := (follows_create loads maxChunkChars).foldlM tokens
  rw [List.nil_append] at hr
  obtain ⟨r', hfinish, hsentences⟩ := hr.finish u userText allowActions
  have hturn : turn loads u maxChunkChars tokens userText allowActions =
      .ok (oneShot loads u tokens.flatten userText allowActions, r') := by
    rw [turn, hrun]
    exact hfinish
  rw [observed, hturn, ← hsentences]
  rfl

/-- However the tokens are cut, a turn is the one-shot reading of their text. -/
theorem turn_independent_of_cuts (loads : Chars → Except String JsonValue) (u : Unicode)
    (maxChunkChars : ℤ) (tokens : List Chars) (userText : Chars) (allowActions : Bool) :
    (∀ tokens' : List Chars, tokens'.flatten = tokens.flatten →
      observed loads u maxChunkChars tokens' userText allowActions =
        observed loads u maxChunkChars tokens userText allowActions) ∧
    observed loads u maxChunkChars tokens userText allowActions =
      .ok (oneShot loads u tokens.flatten userText allowActions,
        sentencesOf maxChunkChars (spokenText (readFrom loads .outside tokens.flatten))) ∧
    Text.Spaced (sentencesOf maxChunkChars (spokenText (readFrom loads .outside tokens.flatten)))
      (oneShot loads u tokens.flatten userText allowActions).assistantText := by
  refine ⟨?_, observed_eq .., ?_⟩
  · intro tokens' htext
    rw [observed_eq, observed_eq, htext]
  · exact (sentencesOf_spaced maxChunkChars _).strip (sentencesOf_word maxChunkChars _)

end EmbodiedAgent.Agent.StreamingTurn
