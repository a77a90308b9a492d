import EmbodiedAgent.Agent.CommandFallback

namespace EmbodiedAgent.Agent.Protocol

open Library Search

structure ProtocolEvents where
  speech : List Chars := []
  actions : List ActionCommand := []
  errors : List String := []

inductive Mode
  | outside
  | speech
  | action
  deriving DecidableEq

structure TaggedStreamParser where
  buffer : Chars := []
  state : Mode := .outside

def speechOpen : Chars := "<speech>".toList
def speechClose : Chars := "</speech>".toList
def actionOpen : Chars := "<action>".toList
def actionClose : Chars := "</action>".toList

section Actions

def readItem : JsonValue → Except String ActionCommand
  | .obj members =>
    match members.lookup "name" with
    | some (.str name) =>
      match members.lookup "arguments" with
      | none => .ok { name := name }
      | some (.obj arguments) => .ok { name := name, arguments := arguments }
      | some _ => .error "action arguments must be an object"
    | _ => .error "action requires a string name"
  | _ => .error "action requires a string name"

def readItems : List JsonValue → List ActionCommand × Option String
  | [] => ([], none)
  | item :: rest =>
    match readItem item with
    | .error error => ([], some error)
    | .ok action => (action :: (readItems rest).1, (readItems rest).2)

def payloadItems : JsonValue → List JsonValue
  | .arr items => items
  | payload => [payload]

variable (loads : Chars → Except String JsonValue)

def readAction (raw : Chars) : ProtocolEvents :=
  match loads (Text.stripChars raw) with
  | .error error => { errors := ["invalid action: " ++ error] }
  | .ok payload =>
    let items := readItems (payloadItems payload)
    { actions := items.1, errors := items.2.toList.map ("invalid action: " ++ ·) }

end Actions

def ProtocolEvents.append (e e' : ProtocolEvents) : ProtocolEvents :=
  { speech := e.speech ++ e'.speech
    actions := e.actions ++ e'.actions
    errors := e.errors ++ e'.errors }

def enterNextTag (buffer : Chars) : Option (Mode × Chars) :=
  match find speechOpen buffer, find actionOpen buffer with
  | none, none => none
  | some i, none => some (.speech, buffer.drop (i + speechOpen.length))
  | none, some j => some (.action, buffer.drop (j + actionOpen.length))
  | some i, some j =>
    if i ≤ j then some (.speech, buffer.drop (i + speechOpen.length))
    else some (.action, buffer.drop (j + actionOpen.length))

theorem drop_length_lt {tag buffer : Chars} {index : ℕ} (htag : 0 < tag.length)
    (h : find tag buffer = some index) :
    (buffer.drop (index + tag.length)).length < buffer.length := by
  have hlength := find_length h
  rw [List.length_drop]
  omega

theorem enterNextTag_length {buffer rest : Chars} {state : Mode}
    (h : enterNextTag buffer = some (state, rest)) : rest.length < buffer.length := by
  have hspeech {i : ℕ} (hi : find speechOpen buffer = some i) :=
    drop_length_lt (by decide) hi
  have haction {j : ℕ} (hj : find actionOpen buffer = some j) :=
    drop_length_lt (by decide) hj
  cases hi : find speechOpen buffer with
  | none =>
    cases hj : find actionOpen buffer with
    | none => simp [enterNextTag, hi, hj] at h
    | some j =>
      simp only [enterNextTag, hi, hj, Option.some.injEq, Prod.mk.injEq] at h
      rw [← h.2]
      exact haction hj
  | some i =>
    cases hj : find actionOpen buffer with
    | none =>
      simp only [enterNextTag, hi, hj, Option.some.injEq, Prod.mk.injEq] at h
      rw [← h.2]
      exact hspeech hi
    | some j =>
      simp only [enterNextTag, hi, hj] at h
      split_ifs at h
      · simp only [Option.some.injEq, Prod.mk.injEq] at h
        rw [← h.2]
        exact hspeech hi
      · simp only [Option.some.injEq, Prod.mk.injEq] at h
        rw [← h.2]
        exact haction hj

def keep : ℕ := max speechOpen.length actionOpen.length - 1

/-- The loop of `feed` on what is buffered. -/
def drain (loads : Chars → Except String JsonValue) (p : TaggedStreamParser) :
    TaggedStreamParser × ProtocolEvents :=
  if p.buffer = [] then (p, {})
  else
    match p.state with
    | .outside =>
      match _htag : enterNextTag p.buffer with
      | some (state, rest) => drain loads { buffer := rest, state := state }
      | none => ({ p with buffer := p.buffer.drop (p.buffer.length - keep) }, {})
    | .speech =>
      match _hclose : find speechClose p.buffer with
      | some index =>
        let drained := drain loads
          { buffer := p.buffer.drop (index + speechClose.length), state := .outside }
        (drained.1, ProtocolEvents.append
          { speech := if index = 0 then [] else [p.buffer.take index] } drained.2)
      | none =>
        let safe := p.buffer.length - (speechClose.length - 1)
        if 0 < safe then
          ({ p with buffer := p.buffer.drop safe }, { speech := [p.buffer.take safe] })
        else (p, {})
    | .action =>
      match _hclose : find actionClose p.buffer with
      | some index =>
        let drained := drain loads
          { buffer := p.buffer.drop (index + actionClose.length), state := .outside }
        (drained.1, (readAction loads (p.buffer.take index)).append drained.2)
      | none => (p, {})
termination_by p.buffer.length
decreasing_by
  · exact enterNextTag_length _htag
  · exact drop_length_lt (by decide) _hclose
  · exact drop_length_lt (by decide) _hclose

namespace TaggedStreamParser

variable (loads : Chars → Except String JsonValue)

def feed (p : TaggedStreamParser) (chunk : Chars) : TaggedStreamParser × ProtocolEvents :=
  drain loads { p with buffer := p.buffer ++ chunk }

def finish (p : TaggedStreamParser) : TaggedStreamParser × ProtocolEvents :=
  let fed := p.feed loads []
  let incomplete := fed.1.state ≠ .outside ∨ Text.stripChars fed.1.buffer ≠ []
  (fed.1, fed.2.append { errors := if incomplete then ["incomplete tagged response"] else [] })

end TaggedStreamParser

structure SentenceChunker where
  maxChars : ℤ := 32
  buffer : Chars := []

namespace SentenceChunker

def boundaries : Chars := "。！？!?；;，,\n".toList

/-- `str.strip`, and nothing when nothing is left. -/
def sentence (buffer : Chars) : List Chars :=
  if Text.stripChars buffer = [] then [] else [Text.stripChars buffer]

def feed (s : SentenceChunker) : Chars → SentenceChunker × List Chars
  | [] => (s, [])
  | c :: cs =>
    let buffer := s.buffer ++ [c]
    if c ∈ boundaries ∨ s.maxChars ≤ buffer.length then
      let rest := feed { s with buffer := [] } cs
      (rest.1, sentence buffer ++ rest.2)
    else feed { s with buffer := buffer } cs

def finish (s : SentenceChunker) : SentenceChunker × List Chars :=
  ({ s with buffer := [] }, sentence s.buffer)

end SentenceChunker

section OneShot

/-- What a whole answer says: its speech, its actions and what is wrong with it. -/
structure Reading where
  speech : Chars := []
  actions : List ActionCommand := []
  errors : List String := []

def Reading.append (r r' : Reading) : Reading :=
  { speech := r.speech ++ r'.speech
    actions := r.actions ++ r'.actions
    errors := r.errors ++ r'.errors }

def ProtocolEvents.reading (e : ProtocolEvents) : Reading :=
  { speech := e.speech.flatten, actions := e.actions, errors := e.errors }

def incomplete : Reading := { errors := ["incomplete tagged response"] }

def opening : Chars → Option (Mode × Chars)
  | [] => none
  | c :: cs =>
    if speechOpen <+: c :: cs then some (.speech, (c :: cs).drop speechOpen.length)
    else if actionOpen <+: c :: cs then some (.action, (c :: cs).drop actionOpen.length)
    else opening cs

theorem enterNextTag_eq (text : Chars) : enterNextTag text = opening text := by
  induction text with
  | nil => rfl
  | cons c cs ih =>
    simp only [opening]
    split_ifs with hspeech haction
    · have hi : find speechOpen (c :: cs) = some 0 := by simp [find, hspeech]
      cases hj : find actionOpen (c :: cs) <;> simp [enterNextTag, hi, hj]
    · cases hi : find speechOpen cs <;> simp [enterNextTag, find, hspeech, haction, hi]
    · rw [← ih]
      simp only [enterNextTag, find, hspeech, haction, if_false]
      cases find speechOpen cs <;> cases find actionOpen cs <;>
        simp [Nat.add_right_comm _ 1]

theorem opening_length {text rest : Chars} {state : Mode} (h : opening text = some (state, rest)) :
    rest.length < text.length := enterNextTag_length ((enterNextTag_eq text).trans h)

def readFrom (loads : Chars → Except String JsonValue) (state : Mode) (text : Chars) : Reading :=
  match state with
  | .outside =>
    match _htag : opening text with
    | some (state, rest) => readFrom loads state rest
    | none => if Text.stripChars (text.drop (text.length - keep)) = [] then {} else incomplete
  | .speech =>
    match _hclose : find speechClose text with
    | some index =>
      Reading.append { speech := text.take index }
        (readFrom loads .outside (text.drop (index + speechClose.length)))
    | none =>
      Reading.append { speech := text.take (text.length - (speechClose.length - 1)) } incomplete
  | .action =>
    match _hclose : find actionClose text with
    | some index => (readAction loads (text.take index)).reading.append
        (readFrom loads .outside (text.drop (index + actionClose.length)))
    | none => incomplete
termination_by text.length
decreasing_by
  · exact opening_length _htag
  · exact drop_length_lt (by decide) _hclose
  · exact drop_length_lt (by decide) _hclose

theorem Reading.append_assoc (a b c : Reading) : (a.append b).append c = a.append (b.append c) := by
  simp only [Reading.append, List.append_assoc]

theorem Reading.nil_append (r : Reading) : Reading.append {} r = r := by
  simp only [Reading.append, List.nil_append]

theorem reading_append (e e' : ProtocolEvents) :
    (e.append e').reading = e.reading.append e'.reading := by
  simp only [ProtocolEvents.append, ProtocolEvents.reading, Reading.append, List.flatten_append]

variable {loads : Chars → Except String JsonValue} {text rest more : Chars} {state : Mode}
  {index : ℕ}

theorem readFrom_outside (h : opening text = some (state, rest)) :
    readFrom loads .outside text = readFrom loads state rest := by
  rw [readFrom]
  split
  · next state' rest' h' =>
    rw [h] at h'
    obtain ⟨rfl, rfl⟩ := Prod.mk.inj (Option.some.inj h')
    rfl
  · next h' => simp [h] at h'

theorem readFrom_outside_none (h : opening text = none) : readFrom loads .outside text =
    if Text.stripChars (text.drop (text.length - keep)) = [] then {} else incomplete := by
  rw [readFrom]
  split
  · next h' => simp [h] at h'
  · rfl

theorem readFrom_speech (h : find speechClose text = some index) :
    readFrom loads .speech text = Reading.append { speech := text.take index }
      (readFrom loads .outside (text.drop (index + speechClose.length))) := by
  conv_lhs => rw [readFrom]
  split
  · next index' h' =>
    obtain rfl := Option.some.inj (h.symm.trans h')
    rfl
  · next h' => simp [h] at h'

theorem readFrom_speech_none (h : find speechClose text = none) :
    readFrom loads .speech text = Reading.append
      { speech := text.take (text.length - (speechClose.length - 1)) } incomplete := by
  conv_lhs => rw [readFrom]
  split
  · next h' => simp [h] at h'
  · rfl

theorem readFrom_action (h : find actionClose text = some index) :
    readFrom loads .action text = (readAction loads (text.take index)).reading.append
      (readFrom loads .outside (text.drop (index + actionClose.length))) := by
  conv_lhs => rw [readFrom]
  split
  · next index' h' =>
    obtain rfl := Option.some.inj (h.symm.trans h')
    rfl
  · next h' => simp [h] at h'

theorem readFrom_action_none (h : find actionClose text = none) :
    readFrom loads .action text = incomplete := by
  conv_lhs => rw [readFrom]
  split
  · next h' => simp [h] at h'
  · rfl

theorem opening_long (h : opening text = some (state, rest)) : 8 ≤ text.length := by
  induction text with
  | nil => cases h
  | cons c cs ih =>
    simp only [opening] at h
    split_ifs at h with hspeech haction
    · exact hspeech.length_le
    · exact haction.length_le
    · exact (ih h).trans (Nat.le_succ _)

theorem opening_append (h : opening text = some (state, rest)) :
    opening (text ++ more) = some (state, rest ++ more) := by
  have hlong := opening_long h
  induction text with
  | nil => cases h
  | cons c cs ih =>
    have hspeechIff := prefix_append_iff (p := speechOpen) (u := more) hlong
    have hactionIff := prefix_append_iff (p := actionOpen) (u := more) hlong
    simp only [opening] at h
    rw [List.cons_append, opening, ← List.cons_append]
    split_ifs at h with hspeech haction
    · obtain ⟨rfl, rfl⟩ := Prod.mk.inj (Option.some.inj h)
      rw [if_pos (hspeechIff.mpr hspeech), List.drop_append_of_le_length hspeech.length_le]
    · obtain ⟨rfl, rfl⟩ := Prod.mk.inj (Option.some.inj h)
      rw [if_neg (mt hspeechIff.mp hspeech), if_pos (hactionIff.mpr haction),
        List.drop_append_of_le_length haction.length_le]
    · rw [if_neg (mt hspeechIff.mp hspeech), if_neg (mt hactionIff.mp haction)]
      exact ih h (opening_long h)

theorem opening_append_of_none (h : opening text = none) :
    opening (text ++ more) = opening (text.drop (text.length - keep) ++ more) := by
  induction text with
  | nil => simp
  | cons c cs ih =>
    by_cases hl : keep ≤ cs.length
    · have hlong : 8 ≤ (c :: cs).length := Nat.succ_le_succ hl
      have hspeechIff := prefix_append_iff (p := speechOpen) (u := more) hlong
      have hactionIff := prefix_append_iff (p := actionOpen) (u := more) hlong
      simp only [opening] at h
      split_ifs at h with hspeech haction
      have hcut : (c :: cs).length - keep = cs.length - keep + 1 := by
        simp only [List.length_cons]
        omega
      rw [hcut, List.drop_succ_cons, List.cons_append, opening, ← List.cons_append,
        if_neg (mt hspeechIff.mp hspeech), if_neg (mt hactionIff.mp haction), ih h]
    · have hcut : (c :: cs).length - keep = 0 := by
        simp only [List.length_cons]
        omega
      rw [hcut, List.drop_zero]

theorem readFrom_outside_keep (h : opening text = none) : readFrom loads .outside (text ++ more) =
      readFrom loads .outside (text.drop (text.length - keep) ++ more) := by
  cases hmore : opening (text ++ more) with
  | some next =>
    obtain ⟨state, rest⟩ := next
    rw [readFrom_outside hmore, readFrom_outside ((opening_append_of_none h).symm.trans hmore)]
  | none =>
    rw [readFrom_outside_none hmore,
      readFrom_outside_none ((opening_append_of_none h).symm.trans hmore)]
    rw [drop_append_left, List.drop_drop, ← length_sub_append]

theorem readFrom_speech_keep (h : find speechClose text = none) :
    readFrom loads .speech (text ++ more) = Reading.append
      { speech := text.take (text.length - (speechClose.length - 1)) }
      (readFrom loads .speech (text.drop (text.length - (speechClose.length - 1)) ++ more)) := by
  have hkeep : speechClose.length - 1 = 8 := rfl
  have hlength : speechClose.length ≤ 8 + 1 := le_rfl
  have hfind := find_append_of_none (u := more) hlength h
  rw [hkeep]
  rw [drop_append_left] at hfind ⊢
  set d := text.length - 8 with hd
  have htake : text.take d = (text ++ more).take d :=
    (List.take_append_of_le_length (Nat.sub_le ..)).symm
  cases hrest : find speechClose ((text ++ more).drop d) with
  | some i =>
    have hall : find speechClose (text ++ more) = some (i + d) := by rw [hfind, hrest]; rfl
    rw [readFrom_speech hall, readFrom_speech hrest, ← Reading.append_assoc, List.drop_drop, htake,
      Nat.add_comm i d, List.take_add, Nat.add_assoc]
    rfl
  | none =>
    have hall : find speechClose (text ++ more) = none := by rw [hfind, hrest]; rfl
    rw [readFrom_speech_none hall, readFrom_speech_none hrest, ← Reading.append_assoc, hkeep,
      length_sub_append, ← hd, List.take_add, htake]
    rfl

theorem readFrom_drain (loads : Chars → Except String JsonValue) (p : TaggedStreamParser)
    (more : Chars) : readFrom loads p.state (p.buffer ++ more) = (drain loads p).2.reading.append
      (readFrom loads (drain loads p).1.state ((drain loads p).1.buffer ++ more)) := by
  fun_induction drain loads p with
  | case1 p hempty => exact (Reading.nil_append _).symm
  | case2 p hempty hstate state rest htag ih =>
    rw [hstate, readFrom_outside (opening_append ((enterNextTag_eq _).symm.trans htag))]
    exact ih
  | case3 p hempty hstate htag =>
    rw [hstate, readFrom_outside_keep ((enterNextTag_eq _).symm.trans htag)]
    exact (Reading.nil_append _).symm
  | case4 p hempty hstate index hclose drained ih =>
    have hlength := find_length hclose
    rw [hstate, readFrom_speech (find_append hclose), List.drop_append_of_le_length hlength,
      List.take_append_of_le_length (by omega), reading_append, Reading.append_assoc]
    have hspeech : ProtocolEvents.reading
        { speech := if index = 0 then [] else [p.buffer.take index] } =
        { speech := p.buffer.take index } := by
      by_cases hindex : index = 0 <;> simp [ProtocolEvents.reading, hindex]
    rw [hspeech]
    exact congrArg (Reading.append _) ih
  | case5 p hempty hstate hclose safe hsafe =>
    rw [hstate, readFrom_speech_keep hclose]
    simp only [ProtocolEvents.reading, List.flatten_cons, List.flatten_nil, List.append_nil]
    rfl
  | case6 p hempty hstate hclose safe hsafe => exact (Reading.nil_append _).symm
  | case7 p hempty hstate index hclose drained ih =>
    have hlength := find_length hclose
    rw [hstate, readFrom_action (find_append hclose), List.drop_append_of_le_length hlength,
      List.take_append_of_le_length (by omega), reading_append, Reading.append_assoc]
    exact congrArg (Reading.append _) ih
  | case8 p hempty hstate hclose => exact (Reading.nil_append _).symm

def Drained (p : TaggedStreamParser) : Prop :=
  match p.state with
  | .outside => opening p.buffer = none ∧ p.buffer.length ≤ keep
  | .speech => find speechClose p.buffer = none ∧ p.buffer.length ≤ speechClose.length - 1
  | .action => find actionClose p.buffer = none

theorem opening_drop (h : opening text = none) (k : ℕ) : opening (text.drop k) = none := by
  induction text generalizing k with
  | nil => simpa using h
  | cons c cs ih =>
    cases k with
    | zero => exact h
    | succ k =>
      simp only [opening] at h
      split_ifs at h
      exact ih h k

theorem drain_drained (loads : Chars → Except String JsonValue) (p : TaggedStreamParser) :
    Drained (drain loads p).1 := by
  fun_induction drain loads p with
  | case1 p hempty =>
    cases hstate : p.state <;> simp [Drained, hstate, hempty, opening, find] <;> decide
  | case2 p hempty hstate state rest htag ih => exact ih
  | case3 p hempty hstate htag =>
    simp only [Drained, hstate]
    refine ⟨opening_drop ((enterNextTag_eq _).symm.trans htag) _, ?_⟩
    rw [List.length_drop]
    omega
  | case4 p hempty hstate index hclose drained ih => exact ih
  | case5 p hempty hstate hclose safe hsafe =>
    simp only [Drained, hstate]
    constructor
    · rw [find_eq_none] at hclose ⊢
      exact fun hin ↦ hclose (hin.trans (List.drop_suffix _ _).isInfix)
    · rw [List.length_drop]
      omega
  | case6 p hempty hstate hclose safe hsafe =>
    simp only [Drained, hstate]
    exact ⟨hclose, Nat.sub_eq_zero_iff_le.mp (Nat.eq_zero_of_not_pos hsafe)⟩
  | case7 p hempty hstate index hclose drained ih => exact ih
  | case8 p hempty hstate hclose =>
    simp only [Drained, hstate]
    exact hclose

theorem readFrom_drained {p : TaggedStreamParser} (h : Drained p) :
    readFrom loads p.state p.buffer =
      { errors := if p.state ≠ .outside ∨ Text.stripChars p.buffer ≠ [] then
          ["incomplete tagged response"] else [] } := by
  cases hstate : p.state with
  | outside =>
    simp only [Drained, hstate] at h
    rw [readFrom_outside_none h.1, Nat.sub_eq_zero_of_le h.2, List.drop_zero]
    by_cases hblank : Text.stripChars p.buffer = [] <;> simp [hblank, incomplete]
  | speech =>
    simp only [Drained, hstate] at h
    rw [readFrom_speech_none h.1, Nat.sub_eq_zero_of_le h.2]
    simp [Reading.append, incomplete]
  | action =>
    simp only [Drained, hstate] at h
    rw [readFrom_action_none h]
    simp [incomplete]

theorem reading_feed (loads : Chars → Except String JsonValue) (p : TaggedStreamParser)
    (chunk more : Chars) :
    readFrom loads p.state (p.buffer ++ (chunk ++ more)) = (p.feed loads chunk).2.reading.append
      (readFrom loads (p.feed loads chunk).1.state ((p.feed loads chunk).1.buffer ++ more)) := by
  rw [← List.append_assoc]
  exact readFrom_drain loads { p with buffer := p.buffer ++ chunk } more

theorem reading_finish (loads : Chars → Except String JsonValue) (p : TaggedStreamParser) :
    (p.finish loads).2.reading = readFrom loads p.state p.buffer := by
  have hfeed := reading_feed loads p [] []
  have hdrained : Drained (p.feed loads []).1 := drain_drained loads _
  simp only [List.append_nil] at hfeed
  rw [hfeed, readFrom_drained hdrained]
  exact reading_append _ _

end OneShot

variable {text more : Chars}

variable (s : SentenceChunker)

theorem SentenceChunker.feed_append (text more : Chars) :
    s.feed (text ++ more) = (((s.feed text).1.feed more).1,
      (s.feed text).2 ++ ((s.feed text).1.feed more).2) := by
  induction text generalizing s with
  | nil => rfl
  | cons c cs ih =>
    simp only [List.cons_append, SentenceChunker.feed]
    split_ifs
    · rw [ih, List.append_assoc]
    · exact ih _

theorem sentence_spaced (buffer : Chars) :
    Text.Spaced (SentenceChunker.sentence buffer) buffer := by
  simp only [SentenceChunker.sentence]
  split_ifs with hempty
  · exact Text.blank_of_stripChars hempty
  · exact Text.spaced_stripChars buffer

theorem sentence_word (buffer : Chars) : ∀ s ∈ SentenceChunker.sentence buffer, Text.Word s := by
  intro s hs
  simp only [SentenceChunker.sentence] at hs
  split_ifs at hs with hempty
  · cases hs
  · obtain rfl := List.mem_singleton.mp hs
    exact Text.word_stripChars hempty

theorem SentenceChunker.feed_spaced (text : Chars) :
    ∃ spoken, s.buffer ++ text = spoken ++ (s.feed text).1.buffer ∧
      Text.Spaced (s.feed text).2 spoken := by
  induction text generalizing s with
  | nil => exact ⟨[], by simp [SentenceChunker.feed], by simp [SentenceChunker.feed, Text.Spaced]⟩
  | cons c cs ih =>
    simp only [SentenceChunker.feed]
    split_ifs
    · obtain ⟨spoken, htext, hspaced⟩ := ih { s with buffer := [] }
      refine ⟨s.buffer ++ [c] ++ spoken, ?_, (sentence_spaced _).append hspaced⟩
      rw [List.append_assoc (s.buffer ++ [c]), ← htext]
      simp
    · obtain ⟨spoken, htext, hspaced⟩ := ih { s with buffer := s.buffer ++ [c] }
      exact ⟨spoken, by rw [← htext]; simp, hspaced⟩

theorem SentenceChunker.feed_word (text : Chars) : ∀ t ∈ (s.feed text).2, Text.Word t := by
  induction text generalizing s with
  | nil => simp [SentenceChunker.feed]
  | cons c cs ih =>
    intro t ht
    simp only [SentenceChunker.feed] at ht
    split_ifs at ht
    · exact (List.mem_append.mp ht).elim (sentence_word _ t) (ih _ t)
    · exact ih _ t ht

end EmbodiedAgent.Agent.Protocol
