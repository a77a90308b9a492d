import EmbodiedAgent.Slam.VoiceTriggerEvidence

namespace EmbodiedAgent.Slam

open Library TimeSeries Brackets

namespace VoiceTriggerEvidenceWindow

variable {u : Unicode} {window : VoiceTriggerEvidenceWindow}

def starts (item : EndpointSnapshot) : Bool := item.event = .speechStarted

def moments (pair : EndpointSnapshot × EndpointSnapshot) : ℤ × ℤ :=
  (pair.1.observedAtNs, pair.2.observedAtNs)

variable (window) in
def inOrder : List EndpointSnapshot := sortedBy EndpointSnapshot.observedAtNs window.endpoints

theorem foldl_completeStep (stack l : List EndpointSnapshot) (complete : List (ℤ × ℤ)) :
    l.foldl completeStep (stack.map EndpointSnapshot.observedAtNs, complete) =
      ((openFrom starts stack l).map EndpointSnapshot.observedAtNs,
        complete ++ (pairsFrom starts stack l).map moments) := by
  induction l generalizing stack complete with
  | nil => simp [openFrom, pairsFrom]
  | cons item l ih =>
    rw [List.foldl_cons, openFrom_cons]
    cases hevent : item.event with
    | speechStarted =>
      have hstarts : starts item = true := decide_eq_true hevent
      rw [pairsFrom_open hstarts, if_pos hstarts, ← ih]
      simp [completeStep, hevent]
    | speechEnded =>
      have hends : starts item = false := by simp [starts, hevent]
      rw [pairsFrom_close hends, hends, if_neg Bool.false_ne_true]
      cases stack with
      | nil =>
        have hkept := ih [] complete
        simpa [completeStep, hevent] using hkept
      | cons start stack =>
        have hpaired := ih stack (complete ++ [(start.observedAtNs, item.observedAtNs)])
        simpa [completeStep, hevent, moments] using hpaired

theorem completeEndpoints_eq :
    window.completeEndpoints = (pairsFrom starts [] window.inOrder).map moments := by
  have hfold := foldl_completeStep [] window.inOrder []
  rw [List.map_nil] at hfold
  rw [completeEndpoints, ← inOrder, hfold, List.nil_append]

variable (window) in
def LastUtterance (time : ℤ) (utterance : ℤ × ℤ) : Prop :=
  ∃ before s e after, window.inOrder = before ++ e :: after ∧ utterance = moments (s, e) ∧
    starts e = false ∧ Closes starts before s ∧ e.observedAtNs ≤ time ∧
    (∀ b x y a, before = b ++ y :: a → starts y = false → Closes starts b x →
      y.observedAtNs ≠ e.observedAtNs) ∧
    ∀ b x y a, after = b ++ y :: a → starts y = false → Closes starts (before ++ e :: b) x →
      y.observedAtNs ≤ time → y.observedAtNs = e.observedAtNs

theorem candidateEndpoint_eq_some_iff {item : AsrFinalSnapshot} {utterance : ℤ × ℤ} :
    window.candidateEndpoint item = some utterance ↔
      window.LastUtterance item.observedAtNs utterance := by
  have hsorted : window.inOrder.Pairwise fun a b ↦ a.observedAtNs ≤ b.observedAtNs :=
    sortedBy_pairwise _
  rw [candidateEndpoint, completeEndpoints_eq, argmax_filter_eq_some_iff]
  constructor
  · rintro ⟨first, rest, hl, hended, hfirst, hrest⟩
    obtain ⟨first, tail, hpairs, rfl, htail⟩ := List.map_eq_append_iff.mp hl
    obtain ⟨⟨s, e⟩, rest, rfl, rfl, rfl⟩ := List.map_eq_cons_iff.mp htail
    obtain ⟨before, after, horder, hclose, hhead, rfl, rfl⟩ := pairsFrom_eq_append_cons.mp hpairs
    have hended' : e.observedAtNs ≤ item.observedAtNs := of_decide_eq_true hended
    rw [horder] at hsorted
    obtain ⟨-, htail, hcross⟩ := List.pairwise_append.mp hsorted
    refine ⟨before, s, e, after, horder, rfl, hclose, closes_iff.mpr hhead, hended', ?_, ?_⟩
    · rintro b x y a rfl hy hx heq
      have hle : y.observedAtNs ≤ item.observedAtNs := heq.trans_le hended'
      have hmem : (x, y) ∈ pairsFrom starts [] (b ++ y :: a) := mem_pairsFrom_nil.mpr
        ⟨b, a, rfl, hy, hx⟩
      have hlt := hfirst _ (List.mem_map_of_mem hmem) (decide_eq_true hle)
      exact hlt.ne heq
    · rintro b x y a rfl hy hx hle
      have hmem : (x, y) ∈ pairsFrom starts (openFrom starts [] (before ++ [e])) (b ++ y :: a) :=
        mem_pairsFrom_openFrom.mpr ⟨b, a, rfl, hy, by simpa using hx⟩
      have hlast := hrest _ (List.mem_map_of_mem hmem) (decide_eq_true hle)
      have hlater := (List.pairwise_cons.mp htail).1 y (by simp)
      exact le_antisymm hlast hlater
  · rintro ⟨before, s, e, after, horder, rfl, hclose, hcloses, hended, hfirst, hrest⟩
    have hpairs := (pairsFrom_eq_append_cons (p := (s, e))).mpr
      ⟨before, after, horder, hclose, closes_iff.mp hcloses, rfl, rfl⟩
    rw [horder] at hsorted
    obtain ⟨-, htail, hcross⟩ := List.pairwise_append.mp hsorted
    refine ⟨_, _, by rw [hpairs, List.map_append, List.map_cons], decide_eq_true hended, ?_, ?_⟩
    · intro pair hpair hbefore
      obtain ⟨⟨x, y⟩, hmem, rfl⟩ := List.mem_map.mp hpair
      obtain ⟨b, a, rfl, hy, hx⟩ := mem_pairsFrom_nil.mp hmem
      exact lt_of_le_of_ne (hcross y (by simp) e (.head _)) (hfirst b x y a rfl hy hx)
    · intro pair hpair hbefore
      obtain ⟨⟨x, y⟩, hmem, rfl⟩ := List.mem_map.mp hpair
      obtain ⟨b, a, rfl, hy, hx⟩ := mem_pairsFrom_openFrom.mp hmem
      rw [List.append_assoc, List.singleton_append] at hx
      exact (hrest b x y a rfl hy hx (of_decide_eq_true hbefore)).le

section Selecting

variable {item : AsrFinalSnapshot} {items : List AsrFinalSnapshot} {utterance : ℤ × ℤ}
  {coreReport : Dict} {render : JsonValue → String}

structure Triggers (u : Unicode) (window : VoiceTriggerEvidenceWindow) (item : AsrFinalSnapshot)
    (utterance : ℤ × ℤ) : Prop where
  automatic : parseSessionCommand u item.text = some .runAutomaticMission
  closed : window.LastUtterance item.observedAtNs utterance
  woken : ∃ wake ∈ window.wakeEvents, accepts u utterance item wake = true

theorem matchingWake_isSome_iff : (window.matchingWake u utterance item).isSome = true ↔
    ∃ wake ∈ window.wakeEvents, accepts u utterance item wake = true := by
  rw [matchingWake, Option.isSome_iff_ne_none, ne_eq, List.argmin_eq_none,
    List.filter_eq_nil_iff]
  simp

def Settled (u : Unicode) (window : VoiceTriggerEvidenceWindow) (items : List AsrFinalSnapshot)
    (selected : Selection) : Prop :=
  (selected.matchedWake = none ∧
    ∀ item ∈ items, ∀ utterance, ¬ Triggers u window item utterance) ∨
  ∃ before item after utterance wake, items = before ++ item :: after ∧
    selected = ⟨some item, some utterance, some wake⟩ ∧ Triggers u window item utterance ∧
    ∀ earlier ∈ before, ∀ utterance, ¬ Triggers u window earlier utterance

theorem Settled.skip {selected : Selection} (h : Settled u window items selected)
    (hitem : ∀ utterance, ¬ Triggers u window item utterance) :
    Settled u window (item :: items) selected := by
  rcases h with ⟨hnone, hitems⟩ | ⟨before, other, after, utterance, wake, rfl, hselected⟩
  · exact .inl ⟨hnone, List.forall_mem_cons.mpr ⟨hitem, hitems⟩⟩
  · exact .inr ⟨item :: before, other, after, utterance, wake, rfl, hselected.1, hselected.2.1,
      List.forall_mem_cons.mpr ⟨hitem, hselected.2.2⟩⟩

theorem settled_select (first : Selection) (hfirst : first.matchedWake = none)
    (items : List AsrFinalSnapshot) : Settled u window items (window.select u first items) := by
  induction items generalizing first with
  | nil => exact .inl ⟨hfirst, by simp⟩
  | cons item items ih =>
    by_cases hparse : parseSessionCommand u item.text = some .runAutomaticMission
    swap
    · rw [select, if_pos hparse]
      exact (ih first hfirst).skip fun utterance ht ↦ hparse ht.automatic
    rw [select, if_neg (not_not.mpr hparse)]
    cases hcandidate : window.candidateEndpoint item with
    | none =>
      refine (ih first hfirst).skip fun utterance ht ↦ ?_
      rw [candidateEndpoint_eq_some_iff.mpr ht.closed] at hcandidate
      cases hcandidate
    | some candidate =>
      dsimp only
      cases hwake : window.matchingWake u candidate item with
      | none =>
        refine (ih _ ?_).skip fun utterance ht ↦ ?_
        · split_ifs
          · rfl
          · exact hfirst
        have hsame := hcandidate.symm.trans (candidateEndpoint_eq_some_iff.mpr ht.closed)
        have hsome := matchingWake_isSome_iff.mpr ht.woken
        rw [← Option.some.inj hsame, hwake] at hsome
        cases hsome
      | some wake =>
        refine .inr ⟨[], item, items, candidate, wake, rfl, rfl, ⟨hparse, ?_, ?_⟩, by simp⟩
        · exact candidateEndpoint_eq_some_iff.mp hcandidate
        · exact matchingWake_isSome_iff.mp (by rw [hwake, Option.isSome_some])

/-- The earliest final that triggers. -/
structure FirstTrigger (u : Unicode) (window : VoiceTriggerEvidenceWindow)
    (item : AsrFinalSnapshot) (utterance : ℤ × ℤ) : Prop where
  recorded : item ∈ window.asrFinals
  triggers : Triggers u window item utterance
  first : ∀ earlier ∈ window.asrFinals, earlier.observedAtNs < item.observedAtNs →
    ∀ utterance, ¬ Triggers u window earlier utterance

theorem Triggers.unique {item' : AsrFinalSnapshot} {utterance' : ℤ × ℤ}
    (h : Triggers u window item utterance) (h' : Triggers u window item' utterance')
    (htime : item.observedAtNs = item'.observedAtNs) : utterance = utterance' := by
  have hcandidate := candidateEndpoint_eq_some_iff.mpr h.closed
  have hcandidate' := candidateEndpoint_eq_some_iff.mpr h'.closed
  rw [candidateEndpoint, htime, ← candidateEndpoint, hcandidate'] at hcandidate
  exact (Option.some.inj hcandidate).symm

theorem selection_iff (utterance : ℤ × ℤ) :
    (∃ item wake, window.selection u = ⟨some item, some utterance, some wake⟩) ↔
      ∃ item, FirstTrigger u window item utterance := by
  have hsorted : (sortedBy AsrFinalSnapshot.observedAtNs window.asrFinals).Pairwise
      fun a b ↦ a.observedAtNs ≤ b.observedAtNs := sortedBy_pairwise _
  have hmem : ∀ item, item ∈ sortedBy AsrFinalSnapshot.observedAtNs window.asrFinals ↔
      item ∈ window.asrFinals := fun item ↦ (sortedBy_perm _).mem_iff
  have hsettled : Settled u window (sortedBy AsrFinalSnapshot.observedAtNs window.asrFinals)
    (window.selection u) := settled_select {} rfl _
  rcases hsettled with
    ⟨hnone, hall⟩ | ⟨before, item, after, chosen, wake, hl, hselected, ht, hfirst⟩
  · refine iff_of_false ?_ ?_
    · rintro ⟨item, wake, heq⟩
      rw [heq] at hnone
      cases hnone
    · rintro ⟨item, hitem⟩
      exact hall item ((hmem item).mpr hitem.recorded) utterance hitem.triggers
  · rw [hl] at hsorted
    simp only [hl] at hmem
    obtain ⟨-, htail, hcross⟩ := List.pairwise_append.mp hsorted
    have hitem : FirstTrigger u window item chosen := by
      refine ⟨(hmem item).mp (by simp), ht, fun earlier hearlier hlt ↦ ?_⟩
      rcases List.mem_append.mp ((hmem earlier).mpr hearlier) with hbefore | hafter
      · exact hfirst earlier hbefore
      · rcases List.mem_cons.mp hafter with rfl | hafter
        · exact absurd hlt (lt_irrefl _)
        · exact absurd hlt (not_lt.mpr ((List.pairwise_cons.mp htail).1 earlier hafter))
    constructor
    · rintro ⟨item', wake', heq⟩
      rw [hselected] at heq
      cases heq
      exact ⟨item, hitem⟩
    · rintro ⟨other, hother⟩
      have htime : item.observedAtNs = other.observedAtNs := by
        rcases lt_trichotomy item.observedAtNs other.observedAtNs with hlt | heq | hlt
        · exact absurd ht (hother.first item hitem.recorded hlt chosen)
        · exact heq
        · exact absurd hother.triggers (hitem.first other hother.recorded hlt utterance)
      rw [← ht.unique hother.triggers htime]
      exact ⟨item, wake, hselected⟩

theorem buildEnvelope_passed {agentMode : String} {envelope : VoiceEnvelope}
    (h : window.buildEnvelope u render coreReport agentMode = .ok envelope) :
    envelope.passed = true ↔ strictCoreSchemaV4Passed render coreReport = true ∧
      ∃ item utterance, FirstTrigger u window item utterance ∧
        window.hasRealAudio utterance = true := by
  rw [buildEnvelope] at h
  split_ifs at h with hmode
  obtain rfl := Except.ok.inj h
  simp only [← exists_comm (α := ℤ × ℤ), exists_and_right, ← selection_iff]
  have hsettled : Settled u window (sortedBy AsrFinalSnapshot.observedAtNs window.asrFinals)
    (window.selection u) := settled_select {} rfl _
  rcases hsettled with ⟨hnone, -⟩ | ⟨-, item, -, chosen, wake, -, hselected, ht, -⟩
  · refine iff_of_false ?_ ?_
    · simp [VoiceChecks.all, hnone]
    · rintro ⟨-, utterance, ⟨item, wake, heq⟩, -⟩
      rw [heq] at hnone
      cases hnone
  · have hcomplete : window.completeEndpoints ≠ [] := by
      intro hnil
      have hcandidate := candidateEndpoint_eq_some_iff.mpr ht.closed
      rw [candidateEndpoint, hnil] at hcandidate
      cases hcandidate
    simp [VoiceChecks.all, hselected, hcomplete, and_comm]

end Selecting

section Verdict

variable {s e : EndpointSnapshot} {utterance : ℤ × ℤ} {coreReport : Dict}
  {render : JsonValue → String}

variable {other : VoiceTriggerEvidenceWindow}

/-- A start and an end with no other endpoint event between them in time. -/
structure Adjacent (window : VoiceTriggerEvidenceWindow) (s e : EndpointSnapshot) : Prop where
  started : s ∈ window.endpoints ∧ s.event = .speechStarted
  ended : e ∈ window.endpoints ∧ e.event = .speechEnded
  empty : ∀ x ∈ window.endpoints,
    ¬ (s.observedAtNs < x.observedAtNs ∧ x.observedAtNs < e.observedAtNs)

/-- Speech was heard between the two, then understood and accepted as the mission. -/
structure Heard (u : Unicode) (window : VoiceTriggerEvidenceWindow) (utterance : ℤ × ℤ) : Prop where
  audible : ∃ sample ∈ window.audio, isReal sample = true ∧
    utterance.1 ≤ sample.observedAtNs ∧ sample.observedAtNs ≤ utterance.2
  understood : ∃ item ∈ window.asrFinals,
    parseSessionCommand u item.text = some .runAutomaticMission ∧
    utterance.2 ≤ item.observedAtNs ∧
    ∃ wake ∈ window.wakeEvents, accepts u utterance item wake = true

def Sound (u : Unicode) (render : JsonValue → String) (window : VoiceTriggerEvidenceWindow)
    (coreReport : Dict) : Prop :=
  ∀ agentMode envelope, window.buildEnvelope u render coreReport agentMode = .ok envelope →
    envelope.passed = true → ∃ s e, window.Adjacent s e ∧ Heard u window (moments (s, e))

/-- The same observations in another order of recording. -/
structure Reordered (window other : VoiceTriggerEvidenceWindow) : Prop where
  audio : window.audio.Perm other.audio
  endpoints : window.endpoints.Perm other.endpoints
  wakeEvents : window.wakeEvents.Perm other.wakeEvents
  asrFinals : window.asrFinals.Perm other.asrFinals

def OrderFree (u : Unicode) (render : JsonValue → String) (window : VoiceTriggerEvidenceWindow)
    (coreReport : Dict) : Prop :=
  (window.endpoints.map EndpointSnapshot.observedAtNs).Nodup →
    ∀ other, window.Reordered other → ∀ agentMode envelope envelope',
      window.buildEnvelope u render coreReport agentMode = .ok envelope →
      other.buildEnvelope u render coreReport agentMode = .ok envelope' →
      envelope.passed = envelope'.passed

variable (window) in
def AudibleIn (utterance : ℤ × ℤ) : Prop :=
  ∃ sample ∈ window.audio, isReal sample = true ∧
    utterance.1 ≤ sample.observedAtNs ∧ sample.observedAtNs ≤ utterance.2

def Clear (window : VoiceTriggerEvidenceWindow) : Prop :=
  ∀ time utterance, window.LastUtterance time utterance → window.AudibleIn utterance →
    ∃ s e, window.Adjacent s e ∧ e.observedAtNs ≤ utterance.2 ∧ window.AudibleIn (moments (s, e))

theorem hasRealAudio_iff : window.hasRealAudio utterance = true ↔ window.AudibleIn utterance := by
  simp [hasRealAudio, AudibleIn, and_comm, and_assoc]

theorem exists_buildEnvelope (u : Unicode) (render : JsonValue → String)
    (window : VoiceTriggerEvidenceWindow) (coreReport : Dict) :
    ∃ envelope, window.buildEnvelope u render coreReport "offline" = .ok envelope :=
  ⟨_, if_neg (by decide)⟩

theorem Reordered.symm (h : window.Reordered other) : other.Reordered window :=
  ⟨h.audio.symm, h.endpoints.symm, h.wakeEvents.symm, h.asrFinals.symm⟩

theorem Reordered.triggers {item : AsrFinalSnapshot} (h : window.Reordered other)
    (hdistinct : (window.endpoints.map EndpointSnapshot.observedAtNs).Nodup)
    (ht : Triggers u window item utterance) : Triggers u other item utterance := by
  have horder : window.inOrder = other.inOrder := sortedBy_congr hdistinct h.endpoints
  obtain ⟨wake, hwake, haccepts⟩ := ht.woken
  refine ⟨ht.automatic, ?_, wake, h.wakeEvents.mem_iff.mp hwake, haccepts⟩
  have hclosed := ht.closed
  rwa [LastUtterance, horder] at hclosed

theorem Reordered.passed (h : window.Reordered other)
    (hdistinct : (window.endpoints.map EndpointSnapshot.observedAtNs).Nodup)
    {agentMode : String} {envelope envelope' : VoiceEnvelope}
    (hbuild : window.buildEnvelope u render coreReport agentMode = .ok envelope)
    (hbuild' : other.buildEnvelope u render coreReport agentMode = .ok envelope')
    (hpassed : envelope.passed = true) : envelope'.passed = true := by
  obtain ⟨hstrict, item, utterance, hitem, hreal⟩ := (buildEnvelope_passed hbuild).mp hpassed
  have hdistinct' : (other.endpoints.map EndpointSnapshot.observedAtNs).Nodup :=
    (h.endpoints.map _).nodup_iff.mp hdistinct
  refine (buildEnvelope_passed hbuild').mpr ⟨hstrict, item, utterance, ?_, ?_⟩
  · refine ⟨h.asrFinals.mem_iff.mp hitem.recorded, h.triggers hdistinct hitem.triggers, ?_⟩
    intro earlier hearlier hlt pair hpair
    exact hitem.first earlier (h.asrFinals.mem_iff.mpr hearlier) hlt pair
      (h.symm.triggers hdistinct' hpair)
  · obtain ⟨sample, hsample, hrest⟩ := hasRealAudio_iff.mp hreal
    exact hasRealAudio_iff.mpr ⟨sample, h.audio.mem_iff.mp hsample, hrest⟩

theorem orderFree (u : Unicode) (render : JsonValue → String) (window : VoiceTriggerEvidenceWindow)
    (coreReport : Dict) : window.OrderFree u render coreReport := by
  intro hdistinct other h agentMode envelope envelope' hbuild hbuild'
  have hdistinct' : (other.endpoints.map EndpointSnapshot.observedAtNs).Nodup :=
    (h.endpoints.map _).nodup_iff.mp hdistinct
  exact Bool.eq_iff_iff.mpr
    ⟨h.passed hdistinct hbuild hbuild', h.symm.passed hdistinct' hbuild' hbuild⟩

theorem accepts_of_le {item : AsrFinalSnapshot} {wake : WakeSnapshot} {earlier : ℤ × ℤ}
    (hle : earlier.2 ≤ utterance.2) (h : accepts u utterance item wake = true) :
    accepts u earlier item wake = true := by
  simp only [accepts, Bool.and_eq_true, decide_eq_true_eq] at h ⊢
  exact ⟨⟨h.1.1, hle.trans h.1.2⟩, h.2⟩

theorem LastUtterance.ended {time : ℤ} (h : window.LastUtterance time utterance) :
    utterance.2 ≤ time := by
  obtain ⟨-, s, e, -, -, rfl, -, -, hended, -⟩ := h
  exact hended

theorem LastUtterance.at_end {time : ℤ} (h : window.LastUtterance time utterance) :
    window.LastUtterance utterance.2 utterance := by
  obtain ⟨before, s, e, after, horder, rfl, hends, hcloses, hended, hfirst, hlast⟩ := h
  refine ⟨before, s, e, after, horder, rfl, hends, hcloses, le_rfl, hfirst, ?_⟩
  intro b x y a hafter hy hx hle
  exact hlast b x y a hafter hy hx (hle.trans hended)

theorem Clear.understood (hclear : window.Clear) (wakeEvents : List WakeSnapshot)
    (asrFinals : List AsrFinalSnapshot) : ({ window with wakeEvents, asrFinals }).Clear := by
  intro time utterance hlast haudible
  obtain ⟨s, e, hadjacent, he, hinner⟩ := hclear time utterance hlast haudible
  exact ⟨s, e, ⟨hadjacent.started, hadjacent.ended, hadjacent.empty⟩, he, hinner⟩

theorem sound_of_clear (hclear : window.Clear) : window.Sound u render coreReport := by
  intro agentMode envelope hbuild hpassed
  obtain ⟨-, item, utterance, hitem, hreal⟩ := (buildEnvelope_passed hbuild).mp hpassed
  have hclosed := hitem.triggers.closed
  obtain ⟨s, e, hadjacent, he, haudible⟩ := hclear _ _ hclosed (hasRealAudio_iff.mp hreal)
  obtain ⟨wake, hwake, haccepts⟩ := hitem.triggers.woken
  exact ⟨s, e, hadjacent, haudible, item, hitem.recorded, hitem.triggers.automatic,
    he.trans hclosed.ended, wake, hwake, accepts_of_le he haccepts⟩

def strictReport : Dict :=
  [("schema_version", .int 4), ("evidence_kind", .str coreEvidenceKind), ("passed", .bool true),
    ("session_id", .str "session"), ("session_start_ns", .int 1), ("mission_sequence", .int 1),
    ("checks", .obj (coreRequiredChecks.map fun name ↦ (name, .bool true)))] ++
  coreRequiredSections.map fun name ↦ (name, .obj [("passed", .bool true)])

theorem strict_strictReport (render : JsonValue → String) :
    strictCoreSchemaV4Passed render strictReport = true := by
  have hsession : Text.strip "session" ≠ "" := by
    intro h
    have hchars := congrArg String.toList h
    rw [Text.toList_strip] at hchars
    revert hchars
    decide
  have hlookup : strictReport.lookup "session_id" = some (.str "session") := by rfl
  simp only [strictCoreSchemaV4Passed, hlookup, Option.map_some, Option.getD_some, JsonValue.text,
    decide_eq_true hsession]
  rfl

def commanded (window : VoiceTriggerEvidenceWindow) (time : ℤ) (text : Chars) :
    VoiceTriggerEvidenceWindow :=
  { window with
    wakeEvents := [⟨time, wakeKindWake, "asr".toList, "asr".toList, true, text⟩]
    asrFinals := [⟨time, text⟩] }

theorem commanded_firstTrigger {text : Chars} {time : ℤ}
    (hspoken : parseSessionCommand u text = some .runAutomaticMission)
    (h : window.LastUtterance time utterance) :
    FirstTrigger u (window.commanded utterance.2 text) ⟨utterance.2, text⟩ utterance := by
  refine ⟨.head _, ⟨hspoken, h.at_end, _, .head _, ?_⟩, ?_⟩
  · have hkind : wakeKindWake ∈ acceptedWakeKinds := by decide
    have hbound : (0 : ℤ) ≤ wakeAsrCorrelationNs := by decide
    simp [accepts, hkind, hspoken, hbound]
  · intro earlier hearlier hlt
    rw [List.mem_singleton.mp hearlier] at hlt
    exact absurd hlt (lt_irrefl _)

theorem clear_of_sound {text : Chars}
    (hspoken : parseSessionCommand u text = some .runAutomaticMission)
    (hsound : ∀ time, (window.commanded time text).Sound u render strictReport) :
    window.Clear := by
  intro time utterance hlast haudible
  obtain ⟨envelope, hbuild⟩ :=
    exists_buildEnvelope u render (window.commanded utterance.2 text) strictReport
  have hpassed : envelope.passed = true := (buildEnvelope_passed hbuild).mpr
    ⟨strict_strictReport render, _, utterance, commanded_firstTrigger hspoken hlast,
      hasRealAudio_iff.mpr haudible⟩
  obtain ⟨s, e, hadjacent, hheard⟩ := hsound _ _ _ hbuild hpassed
  obtain ⟨item, hitem, -, he, -⟩ := hheard.understood
  rw [List.mem_singleton.mp hitem] at he
  exact ⟨s, e, ⟨hadjacent.started, hadjacent.ended, hadjacent.empty⟩, he, hheard.audible⟩

/-- For every window, whatever was understood and accepted in it. -/
theorem sound_iff {text : Chars} (hspoken : parseSessionCommand u text = some .runAutomaticMission)
    (render : JsonValue → String) (window : VoiceTriggerEvidenceWindow) :
    (∀ wakeEvents asrFinals coreReport,
      ({ window with wakeEvents, asrFinals }).Sound u render coreReport ∧
        ({ window with wakeEvents, asrFinals }).OrderFree u render coreReport) ↔
      window.Clear := by
  constructor
  · intro hsound
    exact clear_of_sound hspoken fun time ↦ (hsound _ _ strictReport).1
  · intro hclear wakeEvents asrFinals coreReport
    exact ⟨sound_of_clear (hclear.understood wakeEvents asrFinals), orderFree u render _ coreReport⟩

end Verdict

def spoken : Chars := "开始自动建图".toList

def nested (sampledAtNs : ℤ) : VoiceTriggerEvidenceWindow where
  windowStartedAtNs := 0
  audio := [⟨sampledAtNs, true, 1, 1⟩]
  endpoints := [⟨1, .speechStarted, []⟩, ⟨3, .speechStarted, []⟩, ⟨5, .speechEnded, []⟩,
    ⟨6, .speechEnded, []⟩]
  wakeEvents := [⟨7, wakeKindWake, spoken, spoken, true, spoken⟩]
  asrFinals := [⟨7, spoken⟩]

theorem nested_selection (sampledAtNs : ℤ) : (nested sampledAtNs).selection ⟨id, fun _ ↦ none⟩ =
    ⟨some ⟨7, spoken⟩, some (1, 6), some ⟨7, wakeKindWake, spoken, spoken, true, spoken⟩⟩ := by
  rfl

theorem isReal_one (sampledAtNs : ℤ) : isReal ⟨sampledAtNs, true, 1, 1⟩ = true := by
  have hrms : (0 : Double) < 1 := by
    rw [Double.one_eq]
    exact Double.finite_lt_finite.mpr one_pos
  simp [isReal, hrms]

theorem nested_passed {sampledAtNs : ℤ} (hfirst : 1 ≤ sampledAtNs) (hlast : sampledAtNs ≤ 6) :
    ∃ envelope, (nested sampledAtNs).buildEnvelope ⟨id, fun _ ↦ none⟩ (fun _ ↦ "") strictReport
      "offline" = .ok envelope ∧ envelope.passed = true := by
  obtain ⟨envelope, hbuild⟩ := exists_buildEnvelope ⟨id, fun _ ↦ none⟩ (fun _ ↦ "")
    (nested sampledAtNs) strictReport
  obtain ⟨item, hitem⟩ := (selection_iff (1, 6)).mp ⟨_, _, nested_selection sampledAtNs⟩
  refine ⟨envelope, hbuild, (buildEnvelope_passed hbuild).mpr
    ⟨strict_strictReport _, item, (1, 6), hitem, hasRealAudio_iff.mpr ?_⟩⟩
  exact ⟨⟨sampledAtNs, true, 1, 1⟩, .head _, isReal_one sampledAtNs, hfirst, hlast⟩

theorem nested_ends {sampledAtNs : ℤ} {e : EndpointSnapshot}
    (he : e ∈ (nested sampledAtNs).endpoints) (hended : e.event = .speechEnded) :
    5 ≤ e.observedAtNs := by
  simp only [nested, List.mem_cons, List.not_mem_nil, or_false] at he
  rcases he with rfl | rfl | rfl | rfl
  · cases hended
  · cases hended
  · decide
  · decide

/-- Heard between the second start and the first end. -/
theorem inner_certified :
    (∃ envelope, (nested 4).buildEnvelope ⟨id, fun _ ↦ none⟩ (fun _ ↦ "") strictReport "offline" =
      .ok envelope ∧ envelope.passed = true) ∧
    ∃ s e, (nested 4).Adjacent s e ∧ Heard ⟨id, fun _ ↦ none⟩ (nested 4) (moments (s, e)) := by
  obtain ⟨envelope, hbuild, hpassed⟩ := nested_passed (show 1 ≤ 4 by decide) (by decide)
  have hclear : (nested 4).Clear := by
    rintro time utterance ⟨before, s, e, after, horder, rfl, hends, -⟩ -
    have hmem : e ∈ (nested 4).endpoints :=
      (sortedBy_perm _).mem_iff.mp (by rw [← inOrder, horder]; simp)
    have hended : e.event = .speechEnded := by
      cases hevent : e.event with
      | speechStarted => simp [starts, hevent] at hends
      | speechEnded => rfl
    refine ⟨⟨3, .speechStarted, []⟩, ⟨5, .speechEnded, []⟩, ⟨?_, ?_, ?_⟩, nested_ends hmem hended,
      ⟨4, true, 1, 1⟩, .head _, isReal_one 4, by decide, by decide⟩
    · simp [nested]
    · simp [nested]
    · simp [nested]
  have hspoken : parseSessionCommand ⟨id, fun _ ↦ none⟩ spoken = some .runAutomaticMission := by
    decide
  have hsound := ((sound_iff hspoken (fun _ ↦ "") (nested 4)).mpr hclear
    (nested 4).wakeEvents (nested 4).asrFinals strictReport).1
  exact ⟨⟨envelope, hbuild, hpassed⟩, hsound _ _ hbuild hpassed⟩

theorem nested_unsound :
    ¬ (nested 2).Sound ⟨id, fun _ ↦ none⟩ (fun _ ↦ "") strictReport := by
  intro hsound
  obtain ⟨envelope, hbuild, hpassed⟩ := nested_passed (show 1 ≤ 2 by decide) (by decide)
  obtain ⟨s, e, hadjacent, ⟨sample, hsample, -, hinside⟩, -⟩ := hsound _ _ hbuild hpassed
  obtain ⟨⟨hs, hstarted⟩, ⟨he, hended⟩, hempty⟩ := hadjacent
  rw [List.mem_singleton.mp hsample] at hinside
  have hfirst : s.observedAtNs < 3 := lt_of_le_of_lt hinside.1 (by decide)
  have hlast : 3 < e.observedAtNs := lt_of_lt_of_le (by decide) (nested_ends he hended)
  exact hempty ⟨3, .speechStarted, []⟩ (by simp [nested]) ⟨hfirst, hlast⟩

end VoiceTriggerEvidenceWindow

end EmbodiedAgent.Slam
