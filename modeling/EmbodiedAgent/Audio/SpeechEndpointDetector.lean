import EmbodiedAgent.Library.Accumulation
import EmbodiedAgent.Library.Arithmetic
import EmbodiedAgent.Library.History

namespace EmbodiedAgent.Audio

open Library History

inductive SpeechEndpointReason
  | none
  | silence
  | maxDuration

structure SpeechEndpointEvent where
  speechStarted : Bool := false
  speechEnded : Bool := false
  endReason : SpeechEndpointReason := .none

/-- One frame of audio: whether it is speech, and its length in seconds. -/
structure Frame where
  speech : Bool
  seconds : Double

structure SpeechEndpointDetector where
  endSilenceSeconds : Double
  minUtteranceSeconds : Double
  maxUtteranceSeconds : Double
  endSilence_pos : ¬ endSilenceSeconds ≤ 0
  minUtterance_nonneg : ¬ minUtteranceSeconds < 0
  maxUtterance_pos : ¬ maxUtteranceSeconds ≤ 0

namespace SpeechEndpointDetector

structure State where
  speechSeconds : Double := 0
  silenceSeconds : Double := 0
  inUtterance : Bool := false

/-- `1e-9` -/
def tolerance : Double := .ofRat (1 / 1000000000)

variable (detector : SpeechEndpointDetector)

def LongEnough (s : State) : Prop := detector.minUtteranceSeconds ≤ s.speechSeconds.add tolerance

instance (s : State) : Decidable (detector.LongEnough s) :=
  inferInstanceAs (Decidable (detector.minUtteranceSeconds ≤ s.speechSeconds.add tolerance))

def finish (s : State) (reason : SpeechEndpointReason) : State × SpeechEndpointEvent :=
  ({}, if detector.LongEnough s then { speechEnded := true, endReason := reason } else {})

def hearSpeech (s : State) (seconds : Double) : State :=
  { speechSeconds := s.speechSeconds.add seconds, silenceSeconds := 0, inUtterance := true }

def hearSilence (s : State) (seconds : Double) : State :=
  { s with silenceSeconds := s.silenceSeconds.add seconds }

def update (s : State) (frame : Frame) : State × SpeechEndpointEvent :=
  if frame.seconds ≤ 0 then (s, {})
  else if frame.speech then
    let heard := hearSpeech s frame.seconds
    if detector.maxUtteranceSeconds ≤ heard.speechSeconds.add tolerance then
      let finished := detector.finish heard .maxDuration
      (finished.1, { finished.2 with speechStarted := !s.inUtterance })
    else (heard, { speechStarted := !s.inUtterance })
  else if !s.inUtterance then (s, {})
  else
    let heard := hearSilence s frame.seconds
    if heard.silenceSeconds.add tolerance < detector.endSilenceSeconds then (heard, {})
    else detector.finish heard .silence

end SpeechEndpointDetector

inductive Marker
  | started
  | ended
  deriving DecidableEq

def SpeechEndpointEvent.markers (event : SpeechEndpointEvent) : List Marker :=
  (if event.speechStarted then [.started] else []) ++ if event.speechEnded then [.ended] else []

def Alternates : Bool → List Marker → Prop
  | _, [] => True
  | false, .started :: markers => Alternates true markers
  | true, .ended :: markers => Alternates false markers
  | _, _ => False

theorem takeWhile_ended {markers : List Marker} (h : Alternates false markers) :
    (Marker.ended :: markers).takeWhile (· ≠ .started) = [.ended] := by
  cases markers with
  | nil => rfl
  | cons marker markers =>
    cases marker with
    | started => rfl
    | ended => cases h

namespace SpeechEndpointDetector

variable {detector : SpeechEndpointDetector} {s : State} {frame : Frame} {frames : List Frame}

variable (detector) in
/-- What the detector announces, from the state `s` on. -/
def markers (s : State) (frames : List Frame) : List Marker :=
  collect detector.update (fun s frame ↦ (detector.update s frame).2.markers) s frames

def heard (s : State) (frame : Frame) : State :=
  if frame.speech then hearSpeech s frame.seconds else hearSilence s frame.seconds

variable (detector) in
def Closes (s : State) (frame : Frame) : Prop :=
  if frame.speech then
    detector.maxUtteranceSeconds ≤ (hearSpeech s frame.seconds).speechSeconds.add tolerance
  else s.inUtterance = true ∧
    ¬ (hearSilence s frame.seconds).silenceSeconds.add tolerance < detector.endSilenceSeconds

variable (detector) in
/-- An utterance that the frame ends has had speech enough. -/
def Permitted (s : State) (frame : Frame) : Prop :=
  detector.Closes s frame → detector.LongEnough (heard s frame)

instance (s : State) (frame : Frame) : Decidable (detector.Closes s frame) :=
  inferInstanceAs (Decidable (if frame.speech then _ else _))

instance (s : State) (frame : Frame) : Decidable (detector.Permitted s frame) :=
  inferInstanceAs (Decidable (_ → _))

theorem update_permitted (hpos : ¬ frame.seconds ≤ 0) (h : detector.Permitted s frame)
    (later : List Marker) :
    Alternates s.inUtterance ((detector.update s frame).2.markers ++ later) ↔
      Alternates (detector.update s frame).1.inUtterance later := by
  rw [update, if_neg hpos]
  by_cases hspeech : frame.speech = true
  · rw [if_pos hspeech]
    rw [Permitted, Closes, heard, if_pos hspeech, if_pos hspeech] at h
    dsimp only
    split_ifs with hmax
    · simp only [finish, if_pos (h hmax)]
      cases hin : s.inUtterance <;> simp [SpeechEndpointEvent.markers, Alternates]
    · cases hin : s.inUtterance <;> simp [SpeechEndpointEvent.markers, Alternates, hearSpeech]
  · rw [if_neg hspeech]
    rw [Permitted, Closes, heard, if_neg hspeech, if_neg hspeech] at h
    cases hin : s.inUtterance with
    | false => simp [SpeechEndpointEvent.markers, hin]
    | true =>
      dsimp only
      rw [Bool.not_true, if_neg Bool.false_ne_true]
      split_ifs with hend
      · simp [SpeechEndpointEvent.markers, hearSilence, hin]
      · simp only [finish, if_pos (h ⟨hin, hend⟩)]
        simp [SpeechEndpointEvent.markers, Alternates]

theorem update_dropped (hpos : ¬ frame.seconds ≤ 0) (h : ¬ detector.Permitted s frame)
    (later : List Marker) :
    (detector.update s frame).1 = {} ∧
      (Alternates s.inUtterance ((detector.update s frame).2.markers ++ later) ↔
        Alternates true later) := by
  obtain ⟨hcloses, hshort⟩ := Classical.not_imp.mp h
  rw [update, if_neg hpos]
  by_cases hspeech : frame.speech = true
  · rw [Closes, if_pos hspeech] at hcloses
    rw [heard, if_pos hspeech] at hshort
    rw [if_pos hspeech]
    dsimp only
    rw [if_pos hcloses]
    simp only [finish, if_neg hshort]
    cases hin : s.inUtterance <;> simp [SpeechEndpointEvent.markers, Alternates]
  · rw [Closes, if_neg hspeech] at hcloses
    rw [heard, if_neg hspeech] at hshort
    rw [if_neg hspeech, hcloses.1]
    dsimp only
    rw [Bool.not_true, if_neg Bool.false_ne_true, if_neg hcloses.2]
    simp only [finish, if_neg hshort]
    simp [SpeechEndpointEvent.markers]

theorem markers_cons : detector.markers s (frame :: frames) =
    (detector.update s frame).2.markers ++ detector.markers (detector.update s frame).1 frames :=
  collect_cons _ _ _ _ _

theorem alternates_of_permitted (hpos : ∀ frame ∈ frames, ¬ frame.seconds ≤ 0)
    (h : Along detector.update detector.Permitted s frames) :
    Alternates s.inUtterance (detector.markers s frames) := by
  induction frames generalizing s with
  | nil => cases hin : s.inUtterance <;> trivial
  | cons frame frames ih =>
    rw [markers_cons, update_permitted (hpos frame List.mem_cons_self) h.1]
    exact ih (fun frame hframe ↦ hpos frame (List.mem_cons_of_mem _ hframe)) h.2

theorem tolerance_nonneg : 0 ≤ tolerance := Double.ofRat_nonneg (by norm_num)

theorem zero_le : (0 : Double) ≤ 0 := Double.finite_le_finite.mpr le_rfl

theorem not_nonpos {x : Double} (h : 0 < x) : ¬ x ≤ 0 := fun hle ↦
  Double.lt_irrefl 0 (Double.lt_of_lt_of_le h hle)

theorem le_add_tolerance {x : Double} (hx : 0 ≤ x) : x ≤ x.add tolerance := by
  have hnot : ¬ tolerance < 0 := fun h ↦
    Double.lt_irrefl 0 (Double.lt_of_le_of_lt tolerance_nonneg h)
  exact Double.le_add hnot (Double.ne_nan_of_le (Double.add_nonneg hx tolerance_nonneg))

theorem update_silence (hpos : ¬ frame.seconds ≤ 0) (hin : s.inUtterance = true)
    (hspeech : frame.speech = false) (h : detector.Permitted s frame) :
    (detector.update s frame).2.markers = [.ended] ∨
      (detector.update s frame).2.markers = [] ∧
        (detector.update s frame).1 = hearSilence s frame.seconds ∧
        (s.silenceSeconds.add frame.seconds).add tolerance < detector.endSilenceSeconds := by
  have hno : ¬ frame.speech = true := by simp [hspeech]
  rw [Permitted, Closes, heard, if_neg hno, if_neg hno] at h
  rw [update, if_neg hpos, if_neg hno, hin, Bool.not_true, if_neg Bool.false_ne_true]
  dsimp only
  split_ifs with hend
  · exact .inr ⟨rfl, rfl, hend⟩
  · left
    simp only [finish, if_pos (h ⟨hin, hend⟩)]
    rfl

theorem update_speech (hpos : ¬ frame.seconds ≤ 0) (hin : s.inUtterance = true)
    (hspeech : frame.speech = true) (h : detector.Permitted s frame) :
    (detector.update s frame).2.markers = [.ended] ∨
      (detector.update s frame).2.markers = [] ∧
        (detector.update s frame).1 = hearSpeech s frame.seconds := by
  rw [Permitted, Closes, heard, if_pos hspeech, if_pos hspeech] at h
  rw [update, if_neg hpos, if_pos hspeech, hin]
  dsimp only
  split_ifs with hmax
  · left
    simp only [finish, if_pos (h hmax)]
    rfl
  · exact .inr ⟨rfl, rfl⟩

theorem ended_in_silence {x : Double} (silent post : List Frame) (hx : 0 ≤ x)
    (hle : x ≤ s.silenceSeconds) (hnot : ¬ detector.endSilenceSeconds ≤ x)
    (hin : s.inUtterance = true) (hpos : ∀ frame ∈ silent, 0 < frame.seconds)
    (hsilent : ∀ frame ∈ silent, frame.speech = false)
    (hsum : detector.endSilenceSeconds ≤ Double.total x (silent.map Frame.seconds))
    (h : Along detector.update detector.Permitted s (silent ++ post)) :
    ∃ later, detector.markers s (silent ++ post) = .ended :: later := by
  induction silent generalizing x s with
  | nil => exact absurd hsum hnot
  | cons frame silent ih =>
    have hframe := hpos frame List.mem_cons_self
    have hseconds : 0 ≤ frame.seconds := Double.le_of_lt hframe
    have hnonpos := not_nonpos hframe
    have hx' := Double.add_nonneg hx hseconds
    have hle' := Double.add_le_add_right hx hle hseconds
    rw [List.cons_append, markers_cons]
    rcases update_silence hnonpos hin (hsilent frame List.mem_cons_self) h.1 with
      hended | ⟨hquiet, hstate, hshort⟩
    · rw [hended]
      exact ⟨_, rfl⟩
    · have hlater := h.2
      rw [hstate] at hlater
      rw [hquiet, hstate, List.nil_append]
      refine ih hx' hle' ?_ hin (fun frame hframe ↦ hpos frame (List.mem_cons_of_mem _ hframe))
        (fun frame hframe ↦ hsilent frame (List.mem_cons_of_mem _ hframe)) hsum hlater
      intro hend
      have hreached := Double.le_trans (Double.le_trans hend hle')
        (le_add_tolerance (Double.le_trans hx' hle'))
      exact Double.lt_irrefl _ (Double.lt_of_le_of_lt hreached hshort)

theorem ended_after {mid silent post : List Frame} (hin : s.inUtterance = true)
    (hsilence : 0 ≤ s.silenceSeconds)
    (hpos : ∀ frame ∈ mid ++ (silent ++ post), 0 < frame.seconds)
    (hsilent : ∀ frame ∈ silent, frame.speech = false)
    (hsum : detector.endSilenceSeconds ≤ Double.total 0 (silent.map Frame.seconds))
    (h : Along detector.update detector.Permitted s (mid ++ (silent ++ post))) :
    ∃ later, detector.markers s (mid ++ (silent ++ post)) = .ended :: later := by
  induction mid generalizing s with
  | nil =>
    exact ended_in_silence silent post zero_le hsilence detector.endSilence_pos hin
      (fun frame hframe ↦ hpos frame (List.mem_append_left post hframe)) hsilent hsum h
  | cons frame mid ih =>
    have hframe := hpos frame List.mem_cons_self
    have hnonpos := not_nonpos hframe
    have hlater := h.2
    rw [List.cons_append, markers_cons]
    cases hspeech : frame.speech with
    | true =>
      rcases update_speech hnonpos hin hspeech h.1 with hended | ⟨hquiet, hstate⟩
      · rw [hended]
        exact ⟨_, rfl⟩
      · rw [hstate] at hlater
        rw [hquiet, hstate, List.nil_append]
        exact ih rfl zero_le (fun frame hframe ↦ hpos frame (List.mem_cons_of_mem _ hframe)) hlater
    | false =>
      rcases update_silence hnonpos hin hspeech h.1 with hended | ⟨hquiet, hstate, -⟩
      · rw [hended]
        exact ⟨_, rfl⟩
      · rw [hstate] at hlater
        rw [hquiet, hstate, List.nil_append]
        exact ih hin (Double.add_nonneg hsilence (Double.le_of_lt hframe))
          (fun frame hframe ↦ hpos frame (List.mem_cons_of_mem _ hframe)) hlater

theorem started_next (detector : SpeechEndpointDetector) (hin : s.inUtterance = false)
    (hspeech : frame.speech = true) (hpos : ∀ frame' ∈ frames ++ [frame], ¬ frame'.seconds ≤ 0) :
    ∃ later, detector.markers s (frames ++ [frame]) = .started :: later := by
  have hstart : ∀ {frame : Frame} {frames : List Frame}, ¬ frame.seconds ≤ 0 →
      frame.speech = true →
      ∃ later, detector.markers s (frame :: frames) = .started :: later := by
    intro frame frames hpos hspeech
    rw [markers_cons]
    rw [update, if_neg hpos, if_pos hspeech, hin]
    dsimp only
    split_ifs <;> exact ⟨_, rfl⟩
  induction frames with
  | nil => exact hstart (hpos frame List.mem_cons_self) hspeech
  | cons frame' frames ih =>
    have hpos' := hpos frame' List.mem_cons_self
    by_cases hspeech' : frame'.speech = true
    · exact hstart hpos' hspeech'
    · have hquiet : detector.update s frame' = (s, {}) := by
        rw [update, if_neg hpos', if_neg hspeech', hin, Bool.not_false, if_pos rfl]
      rw [List.cons_append, markers_cons, hquiet]
      exact ih fun frame hframe ↦ hpos frame (List.mem_cons_of_mem _ hframe)

theorem permitted_of_alternates (hspeech : frame.speech = true)
    (hpos : ∀ frame' ∈ frames ++ [frame], ¬ frame'.seconds ≤ 0)
    (h : Alternates s.inUtterance (detector.markers s (frames ++ [frame]))) :
    Along detector.update detector.Permitted s frames := by
  induction frames generalizing s with
  | nil => trivial
  | cons frame' frames ih =>
    have hpos' := hpos frame' List.mem_cons_self
    have hlater : ∀ frame'' ∈ frames ++ [frame], ¬ frame''.seconds ≤ 0 :=
      fun frame hframe ↦ hpos frame (List.mem_cons_of_mem _ hframe)
    rw [List.cons_append, markers_cons] at h
    by_cases hpermitted : detector.Permitted s frame'
    · rw [update_permitted hpos' hpermitted] at h
      exact ⟨hpermitted, ih hlater h⟩
    · rw [(update_dropped hpos' hpermitted _).2, (update_dropped hpos' hpermitted []).1] at h
      obtain ⟨later, hstarted⟩ := started_next detector (s := {}) rfl hspeech hlater
      rw [hstarted] at h
      cases h

variable (detector) in
def afterStart (pre : List Frame) (frame : Frame) (frames : List Frame) : List Marker :=
  let result := detector.update (run detector.update {} pre) frame
  (if result.2.speechEnded then [.ended] else []) ++ detector.markers result.1 frames

variable (detector) in
structure Paired (frames : List Frame) : Prop where
  alternates : Alternates false (detector.markers {} frames)
  ends : ∀ pre frame mid silent post, frames = pre ++ frame :: (mid ++ (silent ++ post)) →
    (detector.update (run detector.update {} pre) frame).2.speechStarted = true →
    (∀ frame ∈ silent, frame.speech = false) →
    detector.endSilenceSeconds ≤ Double.total 0 (silent.map Frame.seconds) →
    (detector.afterStart pre frame (mid ++ (silent ++ post))).takeWhile (· ≠ .started) = [.ended]

theorem update_started (hpos : ¬ frame.seconds ≤ 0) (h : detector.Permitted s frame)
    (hstarted : (detector.update s frame).2.speechStarted = true) :
    s.inUtterance = false ∧ ((detector.update s frame).2.markers = [.started, .ended] ∧
        (detector.update s frame).2.speechEnded = true ∨
      (detector.update s frame).2.speechEnded = false ∧
        (detector.update s frame).1 = hearSpeech s frame.seconds) := by
  rw [update, if_neg hpos] at hstarted ⊢
  by_cases hspeech : frame.speech = true
  · rw [Permitted, Closes, heard, if_pos hspeech, if_pos hspeech] at h
    rw [if_pos hspeech] at hstarted ⊢
    dsimp only at hstarted ⊢
    split_ifs at hstarted ⊢ with hmax
    · simp only [finish, if_pos (h hmax)] at hstarted ⊢
      refine ⟨by simpa using hstarted, .inl ⟨?_, trivial⟩⟩
      simp [SpeechEndpointEvent.markers, hstarted]
    · exact ⟨by simpa using hstarted, .inr ⟨rfl, rfl⟩⟩
  · rw [if_neg hspeech] at hstarted
    dsimp only at hstarted
    split_ifs at hstarted
    rw [finish] at hstarted
    split_ifs at hstarted

theorem paired_of_permitted (hpos : ∀ frame ∈ frames, 0 < frame.seconds)
    (h : Along detector.update detector.Permitted {} frames) : detector.Paired frames := by
  have hall := alternates_of_permitted (fun frame hframe ↦ not_nonpos (hpos frame hframe)) h
  refine { alternates := hall, ends := ?_ }
  rintro pre frame mid silent post rfl hstarted hsilent hsum
  obtain ⟨hpre, hframe, hlater⟩ := (along_append _).mp h
  have hframepos : 0 < frame.seconds := hpos frame (by simp)
  have hlaterpos : ∀ frame' ∈ mid ++ (silent ++ post), 0 < frame'.seconds :=
    fun frame' hframe' ↦ hpos frame' (List.mem_append_right _ (List.mem_cons_of_mem _ hframe'))
  have hrest := alternates_of_permitted
    (fun frame hframe ↦ not_nonpos (hlaterpos frame hframe)) hlater
  obtain ⟨hin, hcases⟩ := update_started (not_nonpos hframepos) hframe hstarted
  rw [afterStart]
  rcases hcases with ⟨hmarkers, hended⟩ | ⟨hopen, hstate⟩
  · have hwhole := (update_permitted (not_nonpos hframepos) hframe _).mpr hrest
    rw [hin, hmarkers] at hwhole
    rw [hended, if_pos rfl]
    exact takeWhile_ended hwhole
  · rw [hopen, if_neg Bool.false_ne_true, List.nil_append]
    rw [hstate] at hlater hrest ⊢
    obtain ⟨later, heq⟩ := ended_after rfl zero_le hlaterpos hsilent hsum hlater
    rw [heq] at hrest ⊢
    exact takeWhile_ended hrest

theorem announcements_paired (detector : SpeechEndpointDetector) (frames : List Frame)
    (hpos : ∀ frame ∈ frames, 0 < frame.seconds) :
    (Along detector.update detector.Permitted {} frames → detector.Paired frames) ∧
      ∀ frame : Frame, frame.speech = true → 0 < frame.seconds →
        ¬ Along detector.update detector.Permitted {} frames →
        ¬ detector.Paired (frames ++ [frame]) := by
  refine ⟨paired_of_permitted hpos, fun frame hspeech hframe hdropped hpaired ↦ hdropped ?_⟩
  refine permitted_of_alternates hspeech (fun frame' hframe' ↦ not_nonpos ?_) hpaired.alternates
  rcases List.mem_append.mp hframe' with hold | hnew
  · exact hpos frame' hold
  · rw [List.mem_singleton.mp hnew]
    exact hframe

theorem defaultSilence_pos : ¬ Double.ofRat (4 / 10) ≤ 0 := by decide +kernel

theorem defaultMinimum_nonneg : ¬ Double.ofRat (1 / 10) < 0 := by decide +kernel

theorem defaultMaximum_pos : ¬ Double.ofRat 12 ≤ 0 := by decide +kernel

def defaults : SpeechEndpointDetector where
  endSilenceSeconds := .ofRat (4 / 10)
  minUtteranceSeconds := .ofRat (1 / 10)
  maxUtteranceSeconds := .ofRat 12
  endSilence_pos := defaultSilence_pos
  minUtterance_nonneg := defaultMinimum_nonneg
  maxUtterance_pos := defaultMaximum_pos

def twentyMilliseconds (speech : Bool) : Frame := { speech := speech, seconds := .ofRat (2 / 100) }

/-- Five frames of speech and 0.4 s of silence. -/
def shortWord : List Frame :=
  List.replicate 5 (twentyMilliseconds true) ++ List.replicate 20 (twentyMilliseconds false)

theorem shortWord_paired : defaults.Paired shortWord :=
  (announcements_paired defaults shortWord (by decide +kernel)).1 (by decide +kernel)

def knock : List Frame :=
  twentyMilliseconds true :: List.replicate 20 (twentyMilliseconds false) ++
    [twentyMilliseconds true]

theorem knock_started_twice :
    (∀ frame ∈ knock, 0 < frame.seconds) ∧
      defaults.markers {} knock = [.started, .started] ∧ ¬ defaults.Paired knock := by
  have hmarkers : defaults.markers {} knock = [.started, .started] := by decide +kernel
  refine ⟨by decide +kernel, hmarkers, fun h ↦ ?_⟩
  have halternates := h.alternates
  rw [hmarkers] at halternates
  exact halternates

end SpeechEndpointDetector

end EmbodiedAgent.Audio
