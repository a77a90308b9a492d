import EmbodiedAgent.Audio.StreamingVadEndpoint

namespace EmbodiedAgent.Audio

open Library History

def VadEvent.marker (event : VadEvent) : Marker :=
  match event.name with
  | .speechStarted => .started
  | .speechEnded => .ended

namespace StreamingVadEndpoint

variable (endpoint : StreamingVadEndpoint)

def eventsAt (pre : List ℚ) (p : ℚ) : List VadEvent :=
  (endpoint.update (run endpoint.update {} pre) p).2

def accumulated (confirmed later : List ℚ) : ℚ :=
  (confirmed.length + later.countP (endpoint.speechEndThreshold ≤ ·) : ℕ) * endpoint.frameSeconds

structure Confirmed (lead before : List ℚ) (p : ℚ) : Prop where
  loud : ∀ q ∈ before ++ [p], endpoint.threshold ≤ q
  started : ∃ event ∈ endpoint.eventsAt (lead ++ before) p, event.name = .speechStarted
  enough : endpoint.speechStartS ≤ (before ++ [p]).length * endpoint.frameSeconds + tolerance
  first : before = [] ∨ before.length * endpoint.frameSeconds + tolerance < endpoint.speechStartS

inductive Tracks : List ℚ → Memory → Prop
  | outside {lead pending : List ℚ} {m : Memory} (quiet : m.inUtterance = false)
      (loud : ∀ q ∈ pending, endpoint.threshold ≤ q)
      (counted : m.pendingSpeechS = pending.length * endpoint.frameSeconds)
      (early : pending = [] ∨ m.pendingSpeechS + tolerance < endpoint.speechStartS)
      (noSilence : m.silenceS = 0) : Tracks (lead ++ pending) m
  | inside {lead before later : List ℚ} {p : ℚ} {m : Memory} (talking : m.inUtterance = true)
      (confirmed : endpoint.Confirmed lead before p)
      (silently : endpoint.eventsOf (run endpoint.update {} (lead ++ (before ++ [p]))) later = [])
      (counted : m.speechS = endpoint.accumulated (before ++ [p]) later)
      (silence : ∃ loud silent, later = loud ++ silent ∧
        (∀ q ∈ silent, q < endpoint.speechEndThreshold) ∧
        m.silenceS = silent.length * endpoint.frameSeconds) :
      Tracks (lead ++ (before ++ [p]) ++ later) m

variable {endpoint} {m : Memory} {ps pre later : List ℚ} {p : ℚ}

theorem frameSeconds_pos (endpoint : StreamingVadEndpoint) : 0 < endpoint.frameSeconds :=
  div_pos (Nat.cast_pos.mpr endpoint.frameMs_pos) (by norm_num)

theorem eventsOf_cons : endpoint.eventsOf m (p :: ps) =
    (endpoint.update m p).2 ++ endpoint.eventsOf (endpoint.update m p).1 ps :=
  collect_cons _ _ _ _ _

theorem eventsOf_snoc : endpoint.eventsOf m (ps ++ [p]) =
    endpoint.eventsOf m ps ++ (endpoint.update (run endpoint.update m ps) p).2 :=
  collect_snoc _ _ _ _ _

theorem update_outside (endpoint : StreamingVadEndpoint) (p : ℚ) (hin : m.inUtterance = false) :
    (p < endpoint.threshold ∧ endpoint.update m p =
        ({ m with pendingSpeechS := 0, pendingProbability := 0 }, [])) ∨
      (endpoint.threshold ≤ p ∧
        m.pendingSpeechS + endpoint.frameSeconds + tolerance < endpoint.speechStartS ∧
        endpoint.update m p = ({ m with
          pendingSpeechS := m.pendingSpeechS + endpoint.frameSeconds
          pendingProbability := max m.pendingProbability p }, [])) ∨
      (endpoint.threshold ≤ p ∧
        endpoint.speechStartS ≤ m.pendingSpeechS + endpoint.frameSeconds + tolerance ∧
        ((endpoint.maxUtteranceS ≤ m.pendingSpeechS + endpoint.frameSeconds + tolerance ∧
            endpoint.update m p = ({},
              [{ name := .speechStarted, probability := max m.pendingProbability p },
                { name := .speechEnded, reason := "max_duration", probability := p }])) ∨
          (m.pendingSpeechS + endpoint.frameSeconds + tolerance < endpoint.maxUtteranceS ∧
            endpoint.update m p = ({ m with
              inUtterance := true
              speechS := m.pendingSpeechS + endpoint.frameSeconds
              pendingSpeechS := 0
              pendingProbability := 0 },
              [{ name := .speechStarted, probability := max m.pendingProbability p }])))) := by
  rw [update, if_neg (Bool.eq_false_iff.mp hin), updateOutside]
  dsimp only
  split_ifs with hlow hearly hmax
  · exact .inl ⟨hlow, rfl⟩
  · exact .inr (.inl ⟨not_lt.mp hlow, hearly, rfl⟩)
  · exact .inr (.inr ⟨not_lt.mp hlow, not_lt.mp hearly, .inl ⟨hmax, rfl⟩⟩)
  · exact .inr (.inr ⟨not_lt.mp hlow, not_lt.mp hearly, .inr ⟨not_le.mp hmax, rfl⟩⟩)

theorem update_inside (endpoint : StreamingVadEndpoint) (p : ℚ) (hin : m.inUtterance = true) :
    (endpoint.speechEndThreshold ≤ p ∧
        ((endpoint.maxUtteranceS ≤ m.speechS + endpoint.frameSeconds + tolerance ∧
            endpoint.update m p = ({},
              [{ name := .speechEnded, reason := "max_duration", probability := p }])) ∨
          (m.speechS + endpoint.frameSeconds + tolerance < endpoint.maxUtteranceS ∧
            endpoint.update m p =
              ({ m with speechS := m.speechS + endpoint.frameSeconds, silenceS := 0 }, [])))) ∨
      (p < endpoint.speechEndThreshold ∧
        ((endpoint.speechEndSilenceS ≤ m.silenceS + endpoint.frameSeconds + tolerance ∧
            endpoint.update m p = ({},
              [{ name := .speechEnded, reason := "silence", probability := p }])) ∨
          (m.silenceS + endpoint.frameSeconds + tolerance < endpoint.speechEndSilenceS ∧
            endpoint.update m p =
              ({ m with silenceS := m.silenceS + endpoint.frameSeconds }, [])))) := by
  rw [update, if_pos hin, updateInside]
  dsimp only
  split_ifs with hhigh hmax hend
  · exact .inl ⟨hhigh, .inl ⟨hmax, rfl⟩⟩
  · exact .inl ⟨hhigh, .inr ⟨not_le.mp hmax, rfl⟩⟩
  · exact .inr ⟨not_le.mp hhigh, .inl ⟨hend, rfl⟩⟩
  · exact .inr ⟨not_le.mp hhigh, .inr ⟨not_le.mp hend, rfl⟩⟩

theorem tracks_forgotten (hps : List ℚ) : endpoint.Tracks hps {} := by
  have h : endpoint.Tracks (hps ++ []) {} :=
    .outside rfl (fun _ hq ↦ absurd hq List.not_mem_nil) (by simp) (.inl rfl) rfl
  rwa [List.append_nil] at h

theorem length_snoc_mul (l : List ℚ) (p x : ℚ) :
    ((l ++ [p]).length : ℚ) * x = l.length * x + x := by
  rw [List.length_append, List.length_singleton]
  push_cast
  ring

theorem all_snoc {P : ℚ → Prop} {l : List ℚ} (h : ∀ q ∈ l, P q) (hp : P p) :
    ∀ q ∈ l ++ [p], P q := by
  intro q hq
  rcases List.mem_append.mp hq with hq | hq
  · exact h q hq
  · rwa [List.mem_singleton.mp hq]

theorem confirmed_of_pending {lead pending : List ℚ}
    (loud : ∀ q ∈ pending, endpoint.threshold ≤ q)
    (counted : m.pendingSpeechS = pending.length * endpoint.frameSeconds)
    (early : pending = [] ∨ m.pendingSpeechS + tolerance < endpoint.speechStartS)
    (hloud : endpoint.threshold ≤ p)
    (henough : endpoint.speechStartS ≤ m.pendingSpeechS + endpoint.frameSeconds + tolerance)
    (hstarted : ∃ event ∈ endpoint.eventsAt (lead ++ pending) p, event.name = .speechStarted) :
    endpoint.Confirmed lead pending p where
  loud := all_snoc loud hloud
  started := hstarted
  enough := by rwa [length_snoc_mul, ← counted]
  first := by rwa [← counted]

theorem accumulated_snoc {confirmed : List ℚ} : endpoint.accumulated confirmed (later ++ [p]) =
    endpoint.accumulated confirmed later +
      if endpoint.speechEndThreshold ≤ p then endpoint.frameSeconds else 0 := by
  rw [accumulated, accumulated, List.countP_append, List.countP_singleton]
  split_ifs with h h' h'
  · push_cast
    ring
  · exact absurd (of_decide_eq_true h) h'
  · exact absurd (decide_eq_true h') h
  · push_cast
    ring

theorem tracks_step (h : endpoint.Tracks pre (run endpoint.update {} pre)) (p : ℚ) :
    endpoint.Tracks (pre ++ [p]) (run endpoint.update {} (pre ++ [p])) := by
  rw [run_snoc]
  generalize hm : run endpoint.update {} pre = m at h ⊢
  cases h with
  | @outside lead pending _ quiet loud counted early noSilence =>
    rcases update_outside endpoint p quiet with ⟨hlow, heq⟩ | ⟨hloud, hearly, heq⟩ |
      ⟨hloud, henough, ⟨hmax, heq⟩ | ⟨hmax, heq⟩⟩
    · rw [heq, ← List.append_nil (lead ++ pending ++ [p])]
      exact .outside quiet (fun _ hq ↦ absurd hq List.not_mem_nil) (by simp) (.inl rfl) noSilence
    · rw [heq, List.append_assoc]
      refine .outside quiet (all_snoc loud hloud) ?_ (.inr hearly) noSilence
      rw [length_snoc_mul, counted]
    · rw [heq]
      exact tracks_forgotten _
    · have hconfirmed : endpoint.Confirmed lead pending p :=
        confirmed_of_pending loud counted early hloud henough
          (by rw [eventsAt, hm, heq]; exact ⟨_, List.mem_cons_self, rfl⟩)
      rw [heq, List.append_assoc, ← List.append_nil (lead ++ (pending ++ [p]))]
      refine .inside rfl hconfirmed rfl ?_ ⟨[], [], rfl, by simp, by simpa using noSilence⟩
      dsimp only
      rw [accumulated, counted, List.countP_nil, Nat.add_zero, length_snoc_mul]
  | @inside lead before later q _ talking confirmed silently counted silence =>
    obtain ⟨loud, silent, rfl, hsilent, hcount⟩ := silence
    have hquiet (heq : (endpoint.update m p).2 = []) :
        endpoint.eventsOf (run endpoint.update {} (lead ++ (before ++ [q])))
          (loud ++ silent ++ [p]) = [] := by
      rw [eventsOf_snoc, silently, ← run_append, hm, heq]
      rfl
    rcases update_inside endpoint p talking with ⟨hhigh, ⟨hmax, heq⟩ | ⟨hmax, heq⟩⟩ |
      ⟨hlow, ⟨hend, heq⟩ | ⟨hend, heq⟩⟩
    · rw [heq]
      exact tracks_forgotten _
    · have hnothing := hquiet (by rw [heq])
      rw [heq, List.append_assoc (lead ++ (before ++ [q]))]
      refine .inside talking confirmed hnothing ?_
        ⟨loud ++ silent ++ [p], [], (List.append_nil _).symm, by simp, by simp⟩
      dsimp only
      rw [accumulated_snoc, counted, if_pos hhigh]
    · rw [heq]
      exact tracks_forgotten _
    · have hnothing := hquiet (by rw [heq])
      rw [heq, List.append_assoc (lead ++ (before ++ [q]))]
      refine .inside talking confirmed hnothing ?_
        ⟨loud, silent ++ [p], List.append_assoc _ _ _, all_snoc hsilent hlow, ?_⟩
      · dsimp only
        rw [accumulated_snoc, counted, if_neg hlow.not_ge, add_zero]
      · dsimp only
        rw [length_snoc_mul, hcount]

theorem tracks (endpoint : StreamingVadEndpoint) (ps : List ℚ) :
    endpoint.Tracks ps (run endpoint.update {} ps) := by
  refine run_induction endpoint.update (I := endpoint.Tracks) (tracks_forgotten []) ?_ ps
  intro pre p h
  have hstep := tracks_step h p
  rwa [run_snoc] at hstep

theorem confirmed_of_started
    (h : ∃ event ∈ endpoint.eventsAt pre p, event.name = .speechStarted) :
    ∃ lead before, pre = lead ++ before ∧ endpoint.Confirmed lead before p := by
  have htracks := tracks endpoint pre
  have hstarted := h
  rw [eventsAt] at hstarted
  generalize run endpoint.update {} pre = m at htracks hstarted
  cases htracks with
  | @outside lead pending _ quiet loud counted early noSilence =>
    rcases update_outside endpoint p quiet with ⟨hlow, heq⟩ | ⟨hloud, hearly, heq⟩ |
      ⟨hloud, henough, -⟩
    · simp [heq] at hstarted
    · simp [heq] at hstarted
    · exact ⟨lead, pending, rfl, confirmed_of_pending loud counted early hloud henough h⟩
  | @inside lead before later q _ talking confirmed silently counted silence =>
    rcases update_inside endpoint p talking with ⟨-, ⟨-, heq⟩ | ⟨-, heq⟩⟩ |
      ⟨-, ⟨-, heq⟩ | ⟨-, heq⟩⟩ <;> simp [heq] at hstarted

theorem silence_of_ended (h : ∃ event ∈ endpoint.eventsAt pre p,
      event.name = .speechEnded ∧ event.reason = "silence") :
    ∃ lead silent, pre ++ [p] = lead ++ silent ∧
      (∀ q ∈ silent, q < endpoint.speechEndThreshold) ∧
      endpoint.speechEndSilenceS ≤ silent.length * endpoint.frameSeconds + tolerance := by
  have htracks := tracks endpoint pre
  rw [eventsAt] at h
  generalize run endpoint.update {} pre = m at htracks h
  cases htracks with
  | @outside lead pending _ quiet loud counted early noSilence =>
    rcases update_outside endpoint p quiet with ⟨-, heq⟩ | ⟨-, -, heq⟩ |
      ⟨-, -, ⟨-, heq⟩ | ⟨-, heq⟩⟩ <;> simp [heq] at h
  | @inside lead before later q _ talking confirmed silently counted silence =>
    obtain ⟨loud, silent, rfl, hsilent, hcount⟩ := silence
    rcases update_inside endpoint p talking with ⟨-, ⟨-, heq⟩ | ⟨-, heq⟩⟩ |
      ⟨hlow, ⟨hend, heq⟩ | ⟨-, heq⟩⟩
    · simp [heq] at h
    · simp [heq] at h
    · refine ⟨lead ++ (before ++ [q]) ++ loud, silent ++ [p], by simp, all_snoc hsilent hlow, ?_⟩
      rwa [length_snoc_mul, ← hcount]
    · simp [heq] at h

theorem speech_of_ended (h : ∃ event ∈ endpoint.eventsAt pre p,
      event.name = .speechEnded ∧ event.reason = "max_duration") :
    ∃ lead before q later, pre ++ [p] = lead ++ (before ++ [q]) ++ later ∧
      endpoint.Confirmed lead before q ∧
      endpoint.eventsOf (run endpoint.update {} (lead ++ (before ++ [q]))) later.dropLast = [] ∧
      endpoint.maxUtteranceS ≤ endpoint.accumulated (before ++ [q]) later + tolerance := by
  have htracks := tracks endpoint pre
  rw [eventsAt] at h
  generalize hm : run endpoint.update {} pre = m at htracks h
  cases htracks with
  | @outside lead pending _ quiet loud counted early noSilence =>
    rcases update_outside endpoint p quiet with ⟨-, heq⟩ | ⟨-, -, heq⟩ |
      ⟨hloud, henough, ⟨hmax, heq⟩ | ⟨-, heq⟩⟩
    · simp [heq] at h
    · simp [heq] at h
    · refine ⟨lead, pending, p, [], by simp, ?_, rfl, ?_⟩
      · refine confirmed_of_pending loud counted early hloud henough ?_
        rw [eventsAt, hm, heq]
        exact ⟨_, List.mem_cons_self, rfl⟩
      · rwa [accumulated, List.countP_nil, Nat.add_zero, length_snoc_mul, ← counted]
    · simp [heq] at h
  | @inside lead before later q _ talking confirmed silently counted silence =>
    rcases update_inside endpoint p talking with ⟨hhigh, ⟨hmax, heq⟩ | ⟨-, heq⟩⟩ |
      ⟨-, ⟨-, heq⟩ | ⟨-, heq⟩⟩
    · refine ⟨lead, before, q, later ++ [p], by simp, confirmed, ?_, ?_⟩
      · rwa [List.dropLast_concat]
      · rwa [accumulated_snoc, if_pos hhigh, ← counted]
    · simp [heq] at h
    · simp [heq] at h
    · simp [heq] at h

theorem below_maximum_of_silently {confirmed : List ℚ} (pre : List ℚ)
    (talking : m.inUtterance = true) (counted : m.speechS = endpoint.accumulated confirmed pre)
    (hmax : m.speechS + tolerance < endpoint.maxUtteranceS)
    (silently : endpoint.eventsOf m later = []) :
    endpoint.accumulated confirmed (pre ++ later) + tolerance < endpoint.maxUtteranceS := by
  induction later generalizing m pre with
  | nil => rwa [List.append_nil, ← counted]
  | cons p later ih =>
    rw [eventsOf_cons] at silently
    obtain ⟨hnow, hlater⟩ := List.append_eq_nil_iff.mp silently
    rw [List.append_cons]
    rcases update_inside endpoint p talking with ⟨hhigh, ⟨-, heq⟩ | ⟨hbelow, heq⟩⟩ |
      ⟨hlow, ⟨-, heq⟩ | ⟨-, heq⟩⟩
    · simp [heq] at hnow
    · rw [heq] at hlater
      refine ih (pre ++ [p])
        (m := { m with speechS := m.speechS + endpoint.frameSeconds, silenceS := 0 })
        talking ?_ hbelow hlater
      dsimp only
      rw [accumulated_snoc, if_pos hhigh, counted]
    · simp [heq] at hnow
    · rw [heq] at hlater
      refine ih (pre ++ [p]) (m := { m with silenceS := m.silenceS + endpoint.frameSeconds })
        talking ?_ hmax hlater
      dsimp only
      rw [accumulated_snoc, if_neg hlow.not_ge, add_zero, counted]

theorem just_enough_unique {a b : ℕ} {x y z : ℚ} (hx : 0 < x)
    (ha : a = 0 ∨ a * x + y < z) (ha' : z ≤ a * x + x + y)
    (hb : b = 0 ∨ b * x + y < z) (hb' : z ≤ b * x + x + y) : a = b := by
  have key : ∀ {a b : ℕ}, (b = 0 ∨ b * x + y < z) → z ≤ a * x + x + y → b ≤ a := by
    intro a b hb ha
    rcases hb with rfl | hb
    · exact Nat.zero_le a
    · have hlt : (b : ℚ) * x < (a + 1 : ℕ) * x := by
        push_cast
        linarith
      exact Nat.lt_succ_iff.mp (by exact_mod_cast lt_of_mul_lt_mul_right hlt hx.le)
  exact le_antisymm (key ha hb') (key hb ha')

theorem below_maximum {lead before : List ℚ} (h : endpoint.Confirmed lead before p)
    (hopen : ∀ event ∈ endpoint.eventsAt (lead ++ before) p, event.name ≠ .speechEnded)
    (silently : endpoint.eventsOf (run endpoint.update {} (lead ++ (before ++ [p]))) later = []) :
    endpoint.accumulated (before ++ [p]) later + tolerance < endpoint.maxUtteranceS := by
  have htracks := tracks endpoint (lead ++ before)
  have hstarted := h.started
  rw [← List.append_assoc, run_snoc] at silently
  rw [eventsAt] at hopen hstarted
  generalize hps : lead ++ before = ps at htracks hopen hstarted silently
  generalize run endpoint.update {} ps = m at htracks hopen hstarted silently
  cases htracks with
  | @outside lead' pending _ quiet loud counted early noSilence =>
    rcases update_outside endpoint p quiet with ⟨-, heq⟩ | ⟨-, -, heq⟩ |
      ⟨hloud, henough, ⟨-, heq⟩ | ⟨hmax, heq⟩⟩
    · simp [heq] at hstarted
    · simp [heq] at hstarted
    · simp [heq] at hopen
    · have hlength : pending.length = before.length := by
        have henough' := h.enough
        rw [length_snoc_mul] at henough'
        rw [counted] at early henough
        exact just_enough_unique (frameSeconds_pos endpoint)
          (early.imp_left List.length_eq_zero_iff.mpr) henough
          (h.first.imp_left List.length_eq_zero_iff.mpr) henough'
      rw [heq] at silently
      refine below_maximum_of_silently [] rfl ?_ hmax silently
      dsimp only
      rw [accumulated, counted, hlength, List.countP_nil, Nat.add_zero, length_snoc_mul]
  | @inside lead' before' later' q _ talking confirmed silently' counted silence =>
    rcases update_inside endpoint p talking with ⟨-, ⟨-, heq⟩ | ⟨-, heq⟩⟩ |
      ⟨-, ⟨-, heq⟩ | ⟨-, heq⟩⟩ <;> simp [heq] at hstarted

variable (endpoint) in
/-- What is announced from the state `m` on. -/
def markers (m : Memory) (ps : List ℚ) : List Marker :=
  (endpoint.eventsOf m ps).map VadEvent.marker

theorem markers_cons : endpoint.markers m (p :: ps) =
    (endpoint.update m p).2.map VadEvent.marker ++ endpoint.markers (endpoint.update m p).1 ps := by
  rw [markers, eventsOf_cons, List.map_append, ← markers]

theorem update_alternates (endpoint : StreamingVadEndpoint) (m : Memory) (p : ℚ)
    (later : List Marker) :
    Alternates m.inUtterance ((endpoint.update m p).2.map VadEvent.marker ++ later) ↔
      Alternates (endpoint.update m p).1.inUtterance later := by
  cases hin : m.inUtterance with
  | false =>
    rcases update_outside endpoint p hin with ⟨-, heq⟩ | ⟨-, -, heq⟩ |
      ⟨-, -, ⟨-, heq⟩ | ⟨-, heq⟩⟩ <;> simp [heq, hin, VadEvent.marker, Alternates]
  | true =>
    rcases update_inside endpoint p hin with ⟨-, ⟨-, heq⟩ | ⟨-, heq⟩⟩ |
      ⟨-, ⟨-, heq⟩ | ⟨-, heq⟩⟩ <;> simp [heq, hin, VadEvent.marker, Alternates]

theorem markers_alternate (endpoint : StreamingVadEndpoint) (m : Memory) (ps : List ℚ) :
    Alternates m.inUtterance (endpoint.markers m ps) := by
  induction ps generalizing m with
  | nil => cases m.inUtterance <;> trivial
  | cons p ps ih =>
    rw [markers_cons, update_alternates]
    exact ih _

theorem ended_in_silence {x : ℚ} {silent : List ℚ} (post : List ℚ) (talking : m.inUtterance = true)
    (hle : x ≤ m.silenceS) (hnot : x < endpoint.speechEndSilenceS)
    (hsilent : ∀ q ∈ silent, q < endpoint.speechEndThreshold)
    (hsum : endpoint.speechEndSilenceS ≤ x + silent.length * endpoint.frameSeconds) :
    ∃ later, endpoint.markers m (silent ++ post) = .ended :: later := by
  have htolerance : 0 < tolerance := by norm_num [tolerance]
  induction silent generalizing m x with
  | nil =>
    rw [List.length_nil, Nat.cast_zero, zero_mul, add_zero] at hsum
    exact absurd hnot hsum.not_gt
  | cons p silent ih =>
    rw [List.cons_append, markers_cons]
    have hlow := hsilent p List.mem_cons_self
    rcases update_inside endpoint p talking with ⟨hhigh, -⟩ | ⟨-, ⟨-, heq⟩ | ⟨hshort, heq⟩⟩
    · exact absurd hlow hhigh.not_gt
    · rw [heq]
      exact ⟨_, rfl⟩
    · rw [heq]
      refine ih (x := x + endpoint.frameSeconds) talking ?_ ?_
        (fun q hq ↦ hsilent q (List.mem_cons_of_mem _ hq)) ?_
      · exact add_le_add_left hle _
      · linarith
      · rw [List.length_cons] at hsum
        push_cast at hsum
        linarith

theorem ended_after {silent : List ℚ} (mid post : List ℚ) (talking : m.inUtterance = true)
    (hsilence : 0 ≤ m.silenceS) (hsilent : ∀ q ∈ silent, q < endpoint.speechEndThreshold)
    (hsum : endpoint.speechEndSilenceS ≤ silent.length * endpoint.frameSeconds) :
    ∃ later, endpoint.markers m (mid ++ (silent ++ post)) = .ended :: later := by
  induction mid generalizing m with
  | nil =>
    refine ended_in_silence post talking hsilence endpoint.endSilence_pos hsilent ?_
    rwa [zero_add]
  | cons p mid ih =>
    rw [List.cons_append, markers_cons]
    rcases update_inside endpoint p talking with ⟨-, ⟨-, heq⟩ | ⟨-, heq⟩⟩ |
      ⟨-, ⟨-, heq⟩ | ⟨-, heq⟩⟩
    · rw [heq]
      exact ⟨_, rfl⟩
    · rw [heq]
      exact ih talking le_rfl
    · rw [heq]
      exact ⟨_, rfl⟩
    · rw [heq]
      exact ih talking (add_nonneg hsilence (frameSeconds_pos endpoint).le)

variable (endpoint) in
def afterStart (pre : List ℚ) (p : ℚ) (later : List ℚ) : List Marker :=
  (((endpoint.eventsAt pre p).map VadEvent.marker) ++
    endpoint.markers (run endpoint.update {} (pre ++ [p])) later).drop 1

theorem ended_after_start {pre mid silent post : List ℚ}
    (hstarted : ∃ event ∈ endpoint.eventsAt pre p, event.name = .speechStarted)
    (hsilent : ∀ q ∈ silent, q < endpoint.speechEndThreshold)
    (hsum : endpoint.speechEndSilenceS ≤ silent.length * endpoint.frameSeconds) :
    (endpoint.afterStart pre p (mid ++ (silent ++ post))).takeWhile (· ≠ .started) = [.ended] := by
  have htracks := tracks endpoint pre
  rw [eventsAt] at hstarted
  rw [afterStart, eventsAt, run_snoc]
  generalize run endpoint.update {} pre = m at htracks hstarted ⊢
  have hrest := markers_alternate endpoint (endpoint.update m p).1 (mid ++ (silent ++ post))
  cases htracks with
  | @outside lead pending _ quiet loud counted early noSilence =>
    rcases update_outside endpoint p quiet with ⟨-, heq⟩ | ⟨-, -, heq⟩ |
      ⟨-, -, ⟨-, heq⟩ | ⟨-, heq⟩⟩
    · simp [heq] at hstarted
    · simp [heq] at hstarted
    · rw [heq] at hrest ⊢
      exact takeWhile_ended hrest
    · rw [heq] at hrest ⊢
      obtain ⟨later, hended⟩ := ended_after (m := { m with
        inUtterance := true
        speechS := m.pendingSpeechS + endpoint.frameSeconds
        pendingSpeechS := 0
        pendingProbability := 0 }) mid post rfl noSilence.ge hsilent hsum
      dsimp only at hrest ⊢
      rw [hended] at hrest ⊢
      exact takeWhile_ended hrest
  | @inside lead before later q _ talking confirmed silently counted silence =>
    rcases update_inside endpoint p talking with ⟨-, ⟨-, heq⟩ | ⟨-, heq⟩⟩ |
      ⟨-, ⟨-, heq⟩ | ⟨-, heq⟩⟩ <;> simp [heq] at hstarted

variable (endpoint) in
/-- What the events of a sequence of probabilities mean, up to `slack` seconds. -/
structure Announced (slack : ℚ) (ps : List ℚ) : Prop where
  alternates : Alternates false (endpoint.markers {} ps)
  started : ∀ pre p, pre ++ [p] <+: ps →
    (∃ event ∈ endpoint.eventsAt pre p, event.name = .speechStarted) →
    ∃ lead speech, pre ++ [p] = lead ++ speech ∧ (∀ q ∈ speech, endpoint.threshold ≤ q) ∧
      endpoint.speechStartS ≤ speech.length * endpoint.frameSeconds + slack
  endedInSilence : ∀ pre p, pre ++ [p] <+: ps →
    (∃ event ∈ endpoint.eventsAt pre p, event.name = .speechEnded ∧ event.reason = "silence") →
    ∃ lead silent, pre ++ [p] = lead ++ silent ∧ (∀ q ∈ silent, q < endpoint.speechEndThreshold) ∧
      endpoint.speechEndSilenceS ≤ silent.length * endpoint.frameSeconds + slack
  endedAtMaximum : ∀ pre p, pre ++ [p] <+: ps →
    (∃ event ∈ endpoint.eventsAt pre p,
      event.name = .speechEnded ∧ event.reason = "max_duration") →
    ∃ lead before q later, pre ++ [p] = lead ++ (before ++ [q]) ++ later ∧
      endpoint.Confirmed lead before q ∧
      endpoint.eventsOf (run endpoint.update {} (lead ++ (before ++ [q]))) later.dropLast = [] ∧
      endpoint.maxUtteranceS ≤ endpoint.accumulated (before ++ [q]) later + slack
  openBelowMaximum : ∀ lead before q later, lead ++ (before ++ [q]) ++ later <+: ps →
    endpoint.Confirmed lead before q →
    (∀ event ∈ endpoint.eventsAt (lead ++ before) q, event.name ≠ .speechEnded) →
    endpoint.eventsOf (run endpoint.update {} (lead ++ (before ++ [q]))) later = [] →
    endpoint.accumulated (before ++ [q]) later + slack < endpoint.maxUtteranceS
  ends : ∀ pre p mid silent post, ps = pre ++ p :: (mid ++ (silent ++ post)) →
    (∃ event ∈ endpoint.eventsAt pre p, event.name = .speechStarted) →
    (∀ q ∈ silent, q < endpoint.speechEndThreshold) →
    endpoint.speechEndSilenceS ≤ silent.length * endpoint.frameSeconds →
    (endpoint.afterStart pre p (mid ++ (silent ++ post))).takeWhile (· ≠ .started) = [.ended]

theorem announced (endpoint : StreamingVadEndpoint) (ps : List ℚ) :
    endpoint.Announced tolerance ps where
  alternates := markers_alternate endpoint {} ps
  started pre p _ hstarted := by
    obtain ⟨lead, before, rfl, hconfirmed⟩ := confirmed_of_started hstarted
    exact ⟨lead, before ++ [p], List.append_assoc _ _ _, hconfirmed.loud, hconfirmed.enough⟩
  endedInSilence _ _ _ hended := silence_of_ended hended
  endedAtMaximum _ _ _ hended := speech_of_ended hended
  openBelowMaximum _ _ _ _ _ hconfirmed hopen silently :=
    below_maximum hconfirmed hopen silently
  ends _ _ _ _ _ _ hstarted hsilent hsum := ended_after_start hstarted hsilent hsum

/-- Whatever the chunks are, the events are those of the probabilities of the frames. -/
theorem chunks_announced {σ : Type} (endpoint : StreamingVadEndpoint)
    (provider : VadProbabilityProvider σ) (model : σ) (chunks : List Bytes)
    (heven : ∀ chunk ∈ chunks, chunk.length % 2 = 0) :
    let ps := endpoint.probabilities provider model
      (Framing.frames endpoint.frameBytes chunks.flatten)
    endpoint.events provider { model := model } chunks = endpoint.eventsOf {} ps ∧
      (∀ chunks' : List Bytes, (∀ chunk ∈ chunks', chunk.length % 2 = 0) →
        chunks'.flatten = chunks.flatten →
        endpoint.events provider { model := model } chunks' =
          endpoint.events provider { model := model } chunks) ∧
      endpoint.Announced tolerance ps := by
  intro ps
  have heq : ∀ chunks' : List Bytes, (∀ chunk ∈ chunks', chunk.length % 2 = 0) →
      chunks'.flatten = chunks.flatten →
      endpoint.events provider { model := model } chunks' = endpoint.eventsOf {} ps := by
    intro chunks' heven' hflatten
    rw [events_eq heven' { model := model } (frameBytes_pos endpoint), heardEvents_eq]
    dsimp only
    rw [List.nil_append, hflatten]
  refine ⟨heq chunks heven rfl, fun chunks' heven' hflatten ↦ ?_, announced endpoint ps⟩
  rw [heq chunks' heven' hflatten, heq chunks heven rfl]

theorem lowRate_pos : 0 < 50 := Nat.succ_pos _

theorem shortFrame_pos : 0 < 20 := Nat.succ_pos _

theorem half_unit : 0 ≤ (1 / 2 : ℚ) ∧ (1 / 2 : ℚ) ≤ 1 := by norm_num

theorem silenceLimit_pos : 0 < (2 / 5 : ℚ) := by norm_num

theorem startLimit_nonneg : 0 ≤ (60 + 1 / 2 ^ 21 : ℚ) := by norm_num

theorem speechLimit_pos : 0 < (12 : ℚ) := by norm_num

theorem noGiven_le : ∀ given ∈ (none : Option ℚ), 0 ≤ given ∧ given ≤ (1 / 2 : ℚ) := by
  intro given hgiven
  cases hgiven

theorem oneSample_pos : 0 < ⌊((50 : ℕ) : ℚ) * ((20 : ℕ) / 1000)⌋₊ * 2 := by
  norm_num

/-- A start is confirmed by a little more than three frames of 20 ms. -/
def justMore : StreamingVadEndpoint where
  sampleRate := 50
  frameMs := 20
  threshold := 1 / 2
  speechEndSilenceS := 2 / 5
  minUtteranceMs := 60 + 1 / 2 ^ 21
  maxUtteranceS := 12
  sampleRate_pos := lowRate_pos
  frameMs_pos := shortFrame_pos
  threshold_unit := half_unit
  endSilence_pos := silenceLimit_pos
  minUtterance_nonneg := startLimit_nonneg
  maxUtterance_pos := speechLimit_pos
  speechStart_nonneg := le_rfl
  endThreshold_le := noGiven_le
  frame_pos := oneSample_pos

def surely : VadProbabilityProvider Unit where
  speechProbability _ _ _ := (9 / 10, ())

def threeFrames : List Bytes := [[0, 0, 0, 0], [0, 0]]

/-- The third frame of 20 ms announces a start that was to take more than 60 ms. -/
theorem started_too_early :
    justMore.events surely { model := () } threeFrames =
        [{ name := .speechStarted, probability := 9 / 10 }] ∧
      ¬ justMore.Announced 0 (justMore.probabilities surely ()
        (Framing.frames justMore.frameBytes threeFrames.flatten)) := by
  refine ⟨by decide +kernel, fun h ↦ ?_⟩
  have hps : justMore.probabilities surely ()
      (Framing.frames justMore.frameBytes threeFrames.flatten) = [9 / 10, 9 / 10, 9 / 10] := by
    decide +kernel
  rw [hps] at h
  obtain ⟨lead, speech, hsplit, -, henough⟩ := h.started [9 / 10, 9 / 10] (9 / 10)
    List.prefix_rfl (by decide +kernel)
  have hlength := congrArg List.length hsplit
  rw [List.length_append] at hlength
  have hthree : speech.length ≤ 3 := by
    simp only [List.length_append, List.length_cons, List.length_nil] at hlength
    omega
  have hcount : (speech.length : ℚ) ≤ 3 := by exact_mod_cast hthree
  have hstart : justMore.speechStartS = (60 + 1 / 2 ^ 21) / 1000 := by decide +kernel
  have hframe : justMore.frameSeconds = 20 / 1000 := by decide +kernel
  rw [hstart, hframe] at henough
  linarith

/-- The split of a stream that the test of a start uses. -/
theorem threeFrames_announced :
    justMore.events surely { model := () } threeFrames = justMore.eventsOf {}
        (justMore.probabilities surely ()
          (Framing.frames justMore.frameBytes threeFrames.flatten)) ∧
      (∀ chunks' : List Bytes, (∀ chunk ∈ chunks', chunk.length % 2 = 0) →
        chunks'.flatten = threeFrames.flatten →
        justMore.events surely { model := () } chunks' =
          justMore.events surely { model := () } threeFrames) ∧
      justMore.Announced tolerance (justMore.probabilities surely ()
        (Framing.frames justMore.frameBytes threeFrames.flatten)) :=
  chunks_announced justMore surely () threeFrames (by decide)

end StreamingVadEndpoint

end EmbodiedAgent.Audio
