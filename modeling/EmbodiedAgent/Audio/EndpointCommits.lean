import EmbodiedAgent.Audio.AsrEndpointRuntime

namespace EmbodiedAgent.Audio

open Library Library.History

def Phase.Committing (phase : Phase) : Prop :=
  phase = .performing .current ∨ phase = .performing .clear ∨
    phase = .performing .announcing ∨ phase = .performing .notified

instance : DecidablePred Phase.Committing := fun phase ↦ by
  rw [Phase.Committing]
  infer_instance

def Phase.rank : Phase → ℕ
  | .accepted => 0
  | .announced => 1
  | .armed => 2
  | .started => 3
  | .performing .entered => 4
  | .performing .current => 5
  | .performing .clear => 6
  | .performing .announcing => 7
  | .performing .notified => 8
  | .performing .committing => 9
  | .leaving _ => 10
  | .done _ => 11

def Phase.outcome? : Phase → Option Outcome
  | .leaving outcome | .done outcome => some outcome
  | _ => none

inductive Callback
  | onCommit | commit

def Output.calls? : Callback → Output → Option ℕ
  | .onCommit, .onCommit e _ => some e
  | .commit, .commit e => some e
  | _, _ => none

def CommitStage.called : Callback → CommitStage → Bool
  | .onCommit, .announcing | .onCommit, .notified | _, .committing => true
  | _, _ => false

def Outcome.called : Callback → Outcome → Bool
  | .onCommit, .unannounced | _, .failed | _, .committed => true
  | _, _ => false

def Phase.called (callback : Callback) : Phase → Bool
  | .performing stage => stage.called callback
  | .leaving outcome | .done outcome => outcome.called callback
  | _ => false

def Event.IsCall : Event → Prop
  | .close | .cancelPending | .resumeUtterance => True
  | _ => False

def Event.flagFor (e : ℕ) : Event → Option Bool
  | .advance e' flag => if e' = e then some flag else none
  | _ => none

namespace AsrEndpointRuntime

def outputs (start : AsrEndpointRuntime) (h : List Event) : List Output :=
  collect step (fun s event ↦ (step s event).2) start h

variable {s : AsrEndpointRuntime} {event : Event} {e : ℕ} {endpoint endpoint' : Endpoint}

def Outdated (s : AsrEndpointRuntime) (endpoint : Endpoint) : Prop :=
  s.closed = true ∨ endpoint.generation < s.generation

/-- What an event makes of endpoint `e`. -/
structure Evolves (s : AsrEndpointRuntime) (event : Event) (e : ℕ)
    (endpoint endpoint' : Endpoint) : Prop where
  source : endpoint'.source = endpoint.source
  generation : endpoint'.generation = endpoint.generation
  phase : endpoint'.phase =
    (event.flagFor e).elim endpoint.phase fun flag ↦ (s.proceed e endpoint flag).1
  cancelled : endpoint'.cancelled = endpoint.cancelled ∨ ∃ call ∈ s.calls, e ∈ call.timers

structure Moves (s : AsrEndpointRuntime) (event : Event) (s' : AsrEndpointRuntime) : Prop where
  kept : ∀ e endpoint, s.endpoints[e]? = some endpoint →
    ∃ endpoint', s'.endpoints[e]? = some endpoint' ∧ Evolves s event e endpoint endpoint'
  fresh : ∀ endpoint', s'.endpoints[s.endpoints.length]? = some endpoint' →
    ∃ source blocked now, event = .request source blocked now ∧
      endpoint' = ⟨source, s.generation, .accepted, false⟩ ∧ s.closed = false
  bounded : s'.endpoints.length ≤ s.endpoints.length + 1

theorem evolves_self (hflag : event.flagFor e = none) : Evolves s event e endpoint endpoint :=
  ⟨rfl, rfl, by rw [hflag, Option.elim_none], .inl rfl⟩

theorem moves_of_endpoints_eq {s' : AsrEndpointRuntime} (h : s'.endpoints = s.endpoints)
    (hflag : ∀ e endpoint, s.endpoints[e]? = some endpoint → event.flagFor e = none) :
    Moves s event s' where
  kept e endpoint hget := ⟨endpoint, h ▸ hget, evolves_self (hflag e endpoint hget)⟩
  fresh endpoint' hget := by simp [h] at hget
  bounded := by rw [h]; exact Nat.le_succ _

theorem request_moves (source : String) (blocked : Bool) (now : Double) :
    Moves s (.request source blocked now) (s.request source blocked now).1 := by
  rw [request]
  split_ifs with hblocked hclosed hduplicate
  · exact moves_of_endpoints_eq rfl fun _ _ _ ↦ rfl
  · exact moves_of_endpoints_eq rfl fun _ _ _ ↦ rfl
  · exact moves_of_endpoints_eq rfl fun _ _ _ ↦ rfl
  · refine ⟨fun e endpoint hget ↦ ⟨endpoint, ?_, evolves_self rfl⟩, fun endpoint' hget ↦ ?_, ?_⟩
    · exact (List.getElem?_append_left (List.getElem?_eq_some_iff.mp hget).1).trans hget
    · rw [List.getElem?_concat_length, Option.some.injEq] at hget
      exact ⟨source, blocked, now, rfl, hget.symm, Bool.eq_false_of_not_eq_true hclosed⟩
    · rw [List.length_append, List.length_singleton]

theorem advance_moves (e : ℕ) (flag : Bool) :
    Moves s (.advance e flag) (s.advance e flag).1 := by
  rw [advance]
  cases hget : s.endpoints[e]? with
  | none =>
    refine moves_of_endpoints_eq rfl fun e' endpoint' hget' ↦ if_neg ?_
    rintro rfl
    cases hget.symm.trans hget'
  | some endpoint =>
    have hlt := (List.getElem?_eq_some_iff.mp hget).1
    refine ⟨fun e' endpoint' hget' ↦ ?_, fun endpoint' hget' ↦ ?_, ?_⟩
    · by_cases he : e = e'
      · subst he
        cases hget.symm.trans hget'
        refine ⟨_, List.getElem?_set_self hlt, rfl, rfl, ?_, .inl rfl⟩
        rw [Event.flagFor, if_pos rfl, Option.elim_some]
      · exact ⟨endpoint', (List.getElem?_set_ne he).trans hget', evolves_self (if_neg he)⟩
    · simp at hget'
    · simp

theorem cancelTimer_moves (call place : ℕ) :
    Moves s (.cancelTimer call place) (s.cancelTimer call place) := by
  rw [cancelTimer]
  cases hcall : s.calls[call]? with
  | none => exact moves_of_endpoints_eq rfl fun _ _ _ ↦ rfl
  | some running =>
    dsimp only
    cases htimer : running.timers[place]? with
    | none => exact moves_of_endpoints_eq rfl fun _ _ _ ↦ rfl
    | some timer =>
      refine ⟨fun e endpoint hget ↦ ?_, fun endpoint' hget ↦ ?_, ?_⟩
      · by_cases he : timer = e
        · subst he
          refine ⟨{ endpoint with cancelled := true }, ?_, rfl, rfl, rfl, .inr ?_⟩
          · simp [hget]
          · exact ⟨running, List.mem_of_getElem? hcall, List.mem_of_getElem? htimer⟩
        · exact ⟨endpoint, by simp [he, hget], evolves_self rfl⟩
      · simp at hget
      · simp

@[simp] theorem cancelPending_endpoints (s : AsrEndpointRuntime) :
    s.cancelPending.endpoints = s.endpoints := by
  rw [cancelPending]
  split_ifs <;> rfl

theorem step_moves (s : AsrEndpointRuntime) (event : Event) : Moves s event (step s event).1 := by
  cases event with
  | request source blocked now => exact request_moves source blocked now
  | advance e flag => exact advance_moves e flag
  | close => exact moves_of_endpoints_eq rfl fun _ _ _ ↦ rfl
  | cancelPending => exact moves_of_endpoints_eq s.cancelPending_endpoints fun _ _ _ ↦ rfl
  | resumeUtterance => exact moves_of_endpoints_eq s.cancelPending_endpoints fun _ _ _ ↦ rfl
  | cancelTimer call place => exact cancelTimer_moves call place
  | returns call => exact moves_of_endpoints_eq rfl fun _ _ _ ↦ rfl

theorem Moves.back {s' : AsrEndpointRuntime} (h : Moves s event s')
    (hget : s'.endpoints[e]? = some endpoint') (hlt : e < s.endpoints.length) :
    ∃ endpoint, s.endpoints[e]? = some endpoint ∧ Evolves s event e endpoint endpoint' := by
  obtain ⟨endpoint, hbefore, hevolves⟩ := h.kept e _ (List.getElem?_eq_getElem hlt)
  cases hget.symm.trans hbefore
  exact ⟨_, List.getElem?_eq_getElem hlt, hevolves⟩

theorem Moves.length_le {s' : AsrEndpointRuntime} (h : Moves s event s') :
    s.endpoints.length ≤ s'.endpoints.length := by
  by_contra hlt
  obtain ⟨endpoint', hget, -⟩ :=
    h.kept s'.endpoints.length _ (List.getElem?_eq_getElem (Nat.lt_of_not_le hlt))
  exact absurd (List.getElem?_eq_some_iff.mp hget).1 (Nat.lt_irrefl _)

inductive CallOf (s : AsrEndpointRuntime) (event : Event) (s' : AsrEndpointRuntime) : Call → Prop
  | same {call : Call} (hmem : call ∈ s.calls) : CallOf s event s' call
  | cancelled {call : Call} (place : ℕ) (hmem : call ∈ s.calls) :
      CallOf s event s' { call with timers := call.timers.eraseIdx place }
  | returned {call : Call} (i : ℕ) (hevent : event = .returns i) (hmem : s.calls[i]? = some call)
      (htimers : call.timers = []) : CallOf s event s' { call with ended := true }
  | made (timers : List ℕ) (htimers : timers ⊆ s.timers) (hcall : event.IsCall)
      (houtdates : s'.closed = true ∨ s.generation < s'.generation) :
      CallOf s event s' ⟨s.endpoints.length, timers, false⟩

theorem CallOf.origin {s' : AsrEndpointRuntime} {call : Call} (h : CallOf s event s' call) :
    (∃ old ∈ s.calls, old.accepted = call.accepted ∧ call.timers ⊆ old.timers) ∨
    (event.IsCall ∧ call.accepted = s.endpoints.length ∧ call.timers ⊆ s.timers ∧
      (s'.closed = true ∨ s.generation < s'.generation)) := by
  cases h with
  | same hmem => exact .inl ⟨_, hmem, rfl, List.Subset.refl _⟩
  | cancelled place hmem => exact .inl ⟨_, hmem, rfl, List.eraseIdx_subset⟩
  | returned i hevent hmem htimers =>
    exact .inl ⟨_, List.mem_of_getElem? hmem, rfl, List.Subset.refl _⟩
  | made timers htimers hcall houtdates => exact .inr ⟨hcall, rfl, htimers, houtdates⟩

structure Guards (s : AsrEndpointRuntime) (event : Event) (s' : AsrEndpointRuntime) : Prop where
  closed : s.closed = true → s'.closed = true
  generation : s.generation ≤ s'.generation
  quiet : ¬ event.IsCall → s'.closed = s.closed ∧ s'.generation = s.generation
  timers : ∀ timer ∈ s'.timers, timer ∈ s.timers ∨ timer < s.endpoints.length
  calls : ∀ call ∈ s'.calls, CallOf s event s' call

theorem guards_of_same {s' : AsrEndpointRuntime} (hclosed : s'.closed = s.closed)
    (hgeneration : s'.generation = s.generation)
    (htimers : ∀ timer ∈ s'.timers, timer ∈ s.timers ∨ timer < s.endpoints.length)
    (hcalls : ∀ call ∈ s'.calls, CallOf s event s' call) : Guards s event s' where
  closed h := hclosed.trans h
  generation := hgeneration.ge
  quiet _ := ⟨hclosed, hgeneration⟩
  timers := htimers
  calls := hcalls

theorem mem_timersAfter {timer : ℕ} (hmem : timer ∈ s.timersAfter e endpoint) :
    timer ∈ s.timers ∨ timer = e := by
  unfold timersAfter at hmem
  split at hmem
  · split_ifs at hmem
    · exact .inl hmem
    · simpa using hmem
  · exact .inl (List.mem_of_mem_erase hmem)
  · exact .inl hmem

theorem advance_guards (e : ℕ) (flag : Bool) :
    Guards s (.advance e flag) (s.advance e flag).1 := by
  rw [advance]
  cases hget : s.endpoints[e]? with
  | none => exact guards_of_same rfl rfl (fun _ ↦ .inl) fun _ hmem ↦ .same hmem
  | some endpoint =>
    refine guards_of_same rfl rfl (fun timer hmem ↦ ?_) fun _ hmem ↦ .same hmem
    rcases mem_timersAfter hmem with hmem | rfl
    · exact .inl hmem
    · exact .inr (List.getElem?_eq_some_iff.mp hget).1

theorem close_guards : Guards s .close s.close where
  closed _ := rfl
  generation := Nat.le_succ _
  quiet h := absurd trivial h
  timers timer hmem := absurd hmem List.not_mem_nil
  calls call hmem := by
    rcases List.mem_append.mp hmem with hmem | hmem
    · exact .same hmem
    · rw [List.mem_singleton] at hmem
      subst hmem
      exact .made s.timers (List.Subset.refl _) trivial (.inl rfl)

theorem cancelPending_guards (hcall : event.IsCall) : Guards s event s.cancelPending := by
  rw [cancelPending]
  split_ifs with hclosed
  · refine ⟨id, le_rfl, fun h ↦ absurd hcall h, fun _ ↦ .inl, fun call hmem ↦ ?_⟩
    rcases List.mem_append.mp hmem with hmem | hmem
    · exact .same hmem
    · rw [List.mem_singleton] at hmem
      subst hmem
      exact .made [] (List.nil_subset _) hcall (.inl hclosed)
  · refine ⟨id, Nat.le_succ _, fun h ↦ absurd hcall h, fun timer hmem ↦ absurd hmem
      List.not_mem_nil, fun call hmem ↦ ?_⟩
    rcases List.mem_append.mp hmem with hmem | hmem
    · exact .same hmem
    · rw [List.mem_singleton] at hmem
      subst hmem
      exact .made s.timers (List.Subset.refl _) hcall (.inr (Nat.lt_succ_self _))

theorem cancelTimer_guards (call place : ℕ) :
    Guards s (.cancelTimer call place) (s.cancelTimer call place) := by
  rw [cancelTimer]
  cases hcall : s.calls[call]? with
  | none => exact guards_of_same rfl rfl (fun _ ↦ .inl) fun _ hmem ↦ .same hmem
  | some running =>
    dsimp only
    cases htimer : running.timers[place]? with
    | none => exact guards_of_same rfl rfl (fun _ ↦ .inl) fun _ hmem ↦ .same hmem
    | some timer =>
      refine guards_of_same rfl rfl (fun _ ↦ .inl) fun other hmem ↦ ?_
      rcases List.mem_or_eq_of_mem_set hmem with hmem | rfl
      · exact .same hmem
      · exact .cancelled place (List.mem_of_getElem? hcall)

theorem returns_guards (i : ℕ) : Guards s (.returns i) (s.returns i) := by
  refine guards_of_same rfl rfl (fun _ ↦ .inl) fun call hmem ↦ ?_
  obtain ⟨j, hget⟩ := List.mem_iff_getElem?.mp hmem
  rw [returns, List.getElem?_modify] at hget
  obtain ⟨running, hcall, hnext⟩ := Option.map_eq_some_iff.mp hget
  split_ifs at hnext with hi htimers
  · subst hi hnext
    exact .returned i rfl hcall htimers
  · exact hnext ▸ .same (List.mem_of_getElem? hcall)
  · exact hnext ▸ .same (List.mem_of_getElem? hcall)

theorem step_guards (s : AsrEndpointRuntime) (event : Event) :
    Guards s event (step s event).1 := by
  cases event with
  | request source blocked now =>
    rw [step, request]
    split_ifs
    all_goals exact guards_of_same rfl rfl (fun _ ↦ .inl) fun _ hmem ↦ .same hmem
  | advance e flag => exact advance_guards e flag
  | close => exact close_guards
  | cancelPending => exact cancelPending_guards trivial
  | resumeUtterance => exact cancelPending_guards trivial
  | cancelTimer call place => exact cancelTimer_guards call place
  | returns call => exact returns_guards call

structure Lawful (s : AsrEndpointRuntime) : Prop where
  timers : ∀ timer ∈ s.timers, timer < s.endpoints.length
  generations : ∀ (e : ℕ) (endpoint : Endpoint), s.endpoints[e]? = some endpoint →
    endpoint.generation ≤ s.generation
  calls : ∀ call ∈ s.calls, call.accepted ≤ s.endpoints.length ∧
    ∀ timer ∈ call.timers, timer < call.accepted
  outdated : ∀ call ∈ s.calls, ∀ e endpoint, e < call.accepted → s.endpoints[e]? = some endpoint →
    s.Outdated endpoint

theorem lawful_create (delayMs : ℤ) (duplicateWindowS : Double) :
    (create delayMs duplicateWindowS).Lawful where
  timers timer hmem := absurd hmem List.not_mem_nil
  generations e endpoint hget := by simp [create] at hget
  calls call hmem := absurd hmem List.not_mem_nil
  outdated call hmem := absurd hmem List.not_mem_nil

theorem Lawful.outdated_of_mem (h : s.Lawful) {call : Call} (hmem : call ∈ s.calls)
    (hlt : e < call.accepted) (hget : (step s event).1.endpoints[e]? = some endpoint') :
    ∃ endpoint, s.endpoints[e]? = some endpoint ∧ s.Outdated endpoint ∧
      Evolves s event e endpoint endpoint' := by
  obtain ⟨endpoint, hbefore, hevolves⟩ :=
    (step_moves s event).back hget (hlt.trans_le (h.calls call hmem).1)
  exact ⟨endpoint, hbefore, h.outdated call hmem e endpoint hlt hbefore, hevolves⟩

theorem Outdated.step (h : s.Outdated endpoint) (hevolves : Evolves s event e endpoint endpoint') :
    (step s event).1.Outdated endpoint' := by
  rcases h with hclosed | hlt
  · exact .inl ((step_guards s event).closed hclosed)
  · exact .inr (hevolves.generation ▸ hlt.trans_le (step_guards s event).generation)

theorem Lawful.step (h : s.Lawful) (event : Event) : (step s event).1.Lawful := by
  have hmoves := step_moves s event
  have hguards := step_guards s event
  have hlength := hmoves.length_le
  refine ⟨fun timer hmem ↦ ?_, fun e endpoint' hget ↦ ?_, fun call hmem ↦ ?_,
    fun call hmem e endpoint' hlt hget ↦ ?_⟩
  · rcases hguards.timers timer hmem with hold | hlt
    · exact (h.timers timer hold).trans_le hlength
    · exact hlt.trans_le hlength
  · by_cases hlt : e < s.endpoints.length
    · obtain ⟨endpoint, hbefore, hevolves⟩ := hmoves.back hget hlt
      rw [hevolves.generation]
      exact (h.generations e endpoint hbefore).trans hguards.generation
    · have hbound := (List.getElem?_eq_some_iff.mp hget).1
      have heq : e = s.endpoints.length := by
        have hnext := hmoves.bounded
        omega
      subst heq
      obtain ⟨source, blocked, now, rfl, rfl, -⟩ := hmoves.fresh endpoint' hget
      exact hguards.generation
  · rcases (hguards.calls call hmem).origin with ⟨old, hold, heq, htimers⟩ | ⟨-, heq, htimers, -⟩
    · obtain ⟨hbound, hold⟩ := h.calls old hold
      rw [← heq]
      exact ⟨hbound.trans hlength, fun timer htimer ↦ hold timer (htimers htimer)⟩
    · rw [heq]
      exact ⟨hlength, fun timer htimer ↦ h.timers timer (htimers htimer)⟩
  · rcases (hguards.calls call hmem).origin with
      ⟨old, hold, heq, -⟩ | ⟨-, heq, -, hclosed | hlater⟩
    · obtain ⟨endpoint, -, houtdated, hevolves⟩ := h.outdated_of_mem hold (heq ▸ hlt) hget
      exact houtdated.step hevolves
    · exact .inl hclosed
    · obtain ⟨endpoint, hbefore, hevolves⟩ := hmoves.back hget (heq ▸ hlt)
      refine .inr (lt_of_le_of_lt ?_ hlater)
      rw [hevolves.generation]
      exact h.generations e endpoint hbefore

theorem run_lawful (h : s.Lawful) (events : List Event) : (run step s events).Lawful :=
  run_preserves step (I := Lawful) (fun _ event h ↦ h.step event) h events

def Regular (s : AsrEndpointRuntime) : Event → Prop
  | .returns i => ∀ call ∈ s.calls[i]?, call.timers = [] →
    ∀ endpoint ∈ s.endpoints.take call.accepted, ¬ endpoint.phase.Committing
  | _ => True

instance (s : AsrEndpointRuntime) : DecidablePred s.Regular
  | .returns i => inferInstanceAs (Decidable (∀ call ∈ s.calls[i]?, call.timers = [] →
    ∀ endpoint ∈ s.endpoints.take call.accepted, ¬ endpoint.phase.Committing))
  | .request _ _ _ | .advance _ _ | .close | .cancelPending | .resumeUtterance
  | .cancelTimer _ _ => .isTrue trivial

def Spent (s : AsrEndpointRuntime) : Prop :=
  ∀ call ∈ s.calls, call.ended = true → ∀ e endpoint, e < call.accepted →
    s.endpoints[e]? = some endpoint → ¬ endpoint.phase.Committing

theorem timerFired_not_committing (s : AsrEndpointRuntime) (outcome : Outcome) :
    ¬ (s.timerFired outcome).Committing := by
  rw [timerFired]
  split_ifs <;> simp [Phase.Committing]

theorem proceed_not_committing (h : ¬ endpoint.phase.Committing) (houtdated : s.Outdated endpoint)
    (flag : Bool) : ¬ (s.proceed e endpoint flag).1.Committing := by
  have hstale : s.closed = true ∨ endpoint.generation ≠ s.generation :=
    houtdated.imp_right Nat.ne_of_lt
  unfold proceed
  split
  · dsimp only
    split_ifs <;> simp [Phase.Committing]
  · dsimp only
    split_ifs <;> simp [Phase.Committing]
  · simp [Phase.Committing]
  · dsimp only
    split_ifs <;> simp [Phase.Committing]
  · next stage hphase =>
    cases stage with
    | entered =>
      rw [performCommit, if_pos hstale]
      exact s.timerFired_not_committing .stale
    | committing =>
      cases flag
      · exact s.timerFired_not_committing .committed
      · exact s.timerFired_not_committing .failed
    | current | clear | announcing | notified => exact absurd (by simp [hphase, Phase.Committing]) h
  · simp [Phase.Committing]
  · simp [Phase.Committing]

theorem Evolves.not_committing (hevolves : Evolves s event e endpoint endpoint')
    (h : ¬ endpoint.phase.Committing) (houtdated : s.Outdated endpoint) :
    ¬ endpoint'.phase.Committing := by
  rw [hevolves.phase]
  cases event.flagFor e with
  | none => exact h
  | some flag => exact proceed_not_committing h houtdated flag

theorem Spent.step (h : s.Spent) (hlawful : s.Lawful) (hregular : s.Regular event) :
    (step s event).1.Spent := by
  intro call hmem hover e endpoint' hlt hget
  cases (step_guards s event).calls call hmem with
  | same hold =>
    obtain ⟨endpoint, hbefore, houtdated, hevolves⟩ := hlawful.outdated_of_mem hold hlt hget
    exact hevolves.not_committing (h _ hold hover e endpoint hlt hbefore) houtdated
  | cancelled place hold =>
    obtain ⟨endpoint, hbefore, houtdated, hevolves⟩ := hlawful.outdated_of_mem hold hlt hget
    exact hevolves.not_committing (h _ hold hover e endpoint hlt hbefore) houtdated
  | returned i hevent hold htimers =>
    obtain ⟨endpoint, hbefore, houtdated, hevolves⟩ :=
      hlawful.outdated_of_mem (List.mem_of_getElem? hold) hlt hget
    subst hevent
    have hmem : endpoint ∈ s.endpoints.take _ :=
      List.mem_of_getElem? ((List.getElem?_take_of_lt hlt).trans hbefore)
    exact hevolves.not_committing (hregular _ hold htimers endpoint hmem) houtdated
  | made timers htimers hcall houtdates => cases hover

theorem run_spent (hspent : s.Spent) (hlawful : s.Lawful) {events : List Event}
    (hregular : Along step Regular s events) : (run step s events).Spent := by
  induction events using List.reverseRecOn with
  | nil => exact hspent
  | append_singleton events event ih =>
    obtain ⟨hbefore, hevent⟩ := (along_snoc step).mp hregular
    rw [run_snoc]
    exact (ih hbefore).step (run_lawful hlawful events) hevent

section Tallies

variable (callback : Callback)

theorem timerFired_called (s : AsrEndpointRuntime) (outcome : Outcome) :
    (s.timerFired outcome).called callback = outcome.called callback := by
  rw [timerFired]
  split_ifs <;> rfl

structure Calls (e : ℕ) (before after : Bool) (out : List Output) : Prop where
  kept : before = true → after = true
  called : out.filterMap (Output.calls? callback) = if before = after then [] else [e]

theorem performCommit_calls (s : AsrEndpointRuntime) (e : ℕ) (endpoint : Endpoint) (flag : Bool)
    (stage : CommitStage) :
    Calls callback e (stage.called callback) ((s.performCommit e endpoint flag stage).1.casesOn
        (Outcome.called callback) (CommitStage.called callback))
      (s.performCommit e endpoint flag stage).2 := by
  cases stage with
  | entered =>
    rw [performCommit]
    split_ifs <;> cases callback <;> exact ⟨nofun, rfl⟩
  | current => cases flag <;> cases callback <;> exact ⟨nofun, rfl⟩
  | clear => cases callback <;> exact ⟨nofun, rfl⟩
  | announcing => cases flag <;> cases callback <;> exact ⟨fun h ↦ h, rfl⟩
  | notified => cases callback <;> exact ⟨fun _ ↦ rfl, rfl⟩
  | committing => cases flag <;> cases callback <;> exact ⟨fun _ ↦ rfl, rfl⟩

theorem proceed_calls (s : AsrEndpointRuntime) (e : ℕ) (endpoint : Endpoint) (flag : Bool) :
    Calls callback e (endpoint.phase.called callback)
      ((s.proceed e endpoint flag).1.called callback) (s.proceed e endpoint flag).2 := by
  unfold proceed
  cases endpoint.phase with
  | accepted =>
    dsimp only
    split_ifs <;> cases callback <;> exact ⟨nofun, rfl⟩
  | announced | started =>
    dsimp only
    split_ifs <;> cases callback <;> exact ⟨nofun, rfl⟩
  | armed => exact ⟨nofun, rfl⟩
  | performing stage =>
    have hcalls := performCommit_calls callback s e endpoint flag stage
    dsimp only
    cases hperform : s.performCommit e endpoint flag stage with
    | mk next out =>
      rw [hperform] at hcalls
      cases next with
      | error outcome => rwa [timerFired_called]
      | ok next => exact hcalls
  | leaving outcome | done outcome => exact ⟨id, (if_pos rfl).symm⟩

def called (s : AsrEndpointRuntime) (e : ℕ) : Bool :=
  s.endpoints[e]?.any fun endpoint ↦ endpoint.phase.called callback

variable {callback}

theorem called_step (hflag : event.flagFor e = none) :
    (step s event).1.called callback e = s.called callback e := by
  have hmoves := step_moves s event
  rcases lt_trichotomy e s.endpoints.length with hlt | heq | hgt
  · have hget := List.getElem?_eq_getElem hlt
    obtain ⟨endpoint', hget', hevolves⟩ := hmoves.kept e _ hget
    rw [called, called, hget, hget', Option.any_some, Option.any_some, hevolves.phase, hflag,
      Option.elim_none]
  · subst heq
    rw [called, called, List.getElem?_eq_none le_rfl, Option.any_none]
    cases hget' : (step s event).1.endpoints[s.endpoints.length]? with
    | none => rfl
    | some endpoint' =>
      obtain ⟨source, blocked, now, -, rfl, -⟩ := hmoves.fresh endpoint' hget'
      cases callback <;> rfl
  · have hbound := hmoves.bounded
    rw [called, called, List.getElem?_eq_none hgt.le,
      List.getElem?_eq_none (hbound.trans (Nat.succ_le_of_lt hgt))]

theorem calls_step (hflag : event.flagFor e = none) :
    e ∉ (step s event).2.filterMap (Output.calls? callback) := by
  cases event with
  | request source blocked now =>
    rw [step, request]
    split_ifs <;> cases callback <;> exact List.not_mem_nil
  | advance e' flag =>
    have hne : e' ≠ e := fun he ↦ by simp [Event.flagFor, he] at hflag
    rw [step, advance]
    cases s.endpoints[e']? with
    | none => exact List.not_mem_nil
    | some endpoint =>
      dsimp only
      rw [(proceed_calls callback s e' endpoint flag).called]
      split_ifs
      · exact List.not_mem_nil
      · exact fun hmem ↦ hne (List.mem_singleton.mp hmem).symm
  | close | cancelPending | resumeUtterance | cancelTimer | returns => exact List.not_mem_nil

theorem count_step (s : AsrEndpointRuntime) (event : Event) (e : ℕ) :
    (s.called callback e).toNat + ((step s event).2.filterMap (Output.calls? callback)).count e =
      ((step s event).1.called callback e).toNat := by
  cases hflag : event.flagFor e with
  | none =>
    rw [called_step hflag, List.count_eq_zero.mpr (calls_step hflag), Nat.add_zero]
  | some flag =>
    obtain rfl : event = .advance e flag := by
      cases event <;> simp_all [Event.flagFor]
    rw [step, advance, called]
    cases hget : s.endpoints[e]? with
    | none => simp [called, hget]
    | some endpoint =>
      obtain ⟨hkept, hcalled⟩ := proceed_calls callback s e endpoint flag
      have hlt := (List.getElem?_eq_some_iff.mp hget).1
      dsimp only
      rw [called, List.getElem?_set_self hlt, Option.any_some, Option.any_some, hcalled]
      generalize (s.proceed e endpoint flag).1.called callback = after at hkept ⊢
      generalize endpoint.phase.called callback = before at hkept ⊢
      cases before <;> cases after <;> simp_all

theorem count_outputs {start : AsrEndpointRuntime} (hstart : start.endpoints = [])
    (h : List Event) (e : ℕ) :
    ((outputs start h).filterMap (Output.calls? callback)).count e =
      ((run step start h).called callback e).toNat := by
  induction h using List.reverseRecOn with
  | nil => simp [outputs, called, hstart]
  | append_singleton h event ih =>
    rw [outputs, collect_snoc, List.filterMap_append, List.count_append, ← outputs, ih, run_snoc,
      count_step]

end Tallies

def Outcome.Fair : Outcome → Prop
  | .dropped | .cancelled | .stale => False
  | _ => True

structure Pending (s : AsrEndpointRuntime) (e n : ℕ) (endpoint : Endpoint) : Prop where
  get : s.endpoints[e]? = some endpoint
  generation : endpoint.generation = s.generation
  cancelled : endpoint.cancelled = false
  closed : s.closed = false
  calls : ∀ call ∈ s.calls, call.accepted ≤ e
  fair : ∀ outcome, endpoint.phase.outcome? = some outcome → Outcome.Fair outcome
  rank : min n 11 ≤ endpoint.phase.rank

theorem timerFired_outcome (s : AsrEndpointRuntime) (outcome : Outcome) :
    (s.timerFired outcome).outcome? = some outcome := by
  rw [timerFired]
  split_ifs <;> rfl

theorem rank_timerFired (s : AsrEndpointRuntime) (outcome : Outcome) :
    10 ≤ (s.timerFired outcome).rank := by
  rw [timerFired]
  split_ifs
  · exact Nat.le_succ 10
  · exact le_rfl

theorem rank_proceed (s : AsrEndpointRuntime) (e : ℕ) (endpoint : Endpoint) (flag : Bool) :
    min (endpoint.phase.rank + 1) 11 ≤ (s.proceed e endpoint flag).1.rank := by
  unfold proceed
  cases endpoint.phase with
  | accepted | announced | started =>
    dsimp only
    split_ifs <;> decide
  | armed => exact (by decide : min (Phase.armed.rank + 1) 11 ≤ Phase.started.rank)
  | leaving outcome | done outcome => exact min_le_right _ _
  | performing stage =>
    dsimp only
    cases stage with
    | entered =>
      rw [performCommit]
      split_ifs
      · exact (by decide : 5 ≤ 10).trans (s.rank_timerFired _)
      · exact le_rfl
    | clear | notified => exact le_rfl
    | current | announcing =>
      cases flag
      · exact le_rfl
      · exact (min_le_left _ _).trans ((by decide : _ ≤ 10).trans (s.rank_timerFired _))
    | committing => cases flag <;> exact (min_le_left _ _).trans (s.rank_timerFired _)

theorem Pending.proceed_fair {n : ℕ} (h : s.Pending e n endpoint) {flag : Bool} {outcome : Outcome}
    (houtcome : (s.proceed e endpoint flag).1.outcome? = some outcome) : Outcome.Fair outcome := by
  have hfair := h.fair
  unfold proceed at houtcome
  cases hphase : endpoint.phase with
  | accepted =>
    rw [hphase] at houtcome
    dsimp only at houtcome
    split_ifs at houtcome
    · cases houtcome
      trivial
    · cases houtcome
    · cases houtcome
  | announced => simp [hphase, h.closed, Phase.outcome?] at houtcome
  | armed => simp [hphase, Phase.outcome?] at houtcome
  | started => simp [hphase, h.cancelled, Phase.outcome?] at houtcome
  | leaving o | done o =>
    rw [hphase] at houtcome hfair
    exact hfair outcome houtcome
  | performing stage =>
    rw [hphase] at houtcome
    cases stage with
    | entered => simp [performCommit, h.closed, h.generation, Phase.outcome?] at houtcome
    | clear | notified => cases houtcome
    | current =>
      cases flag with
      | false => cases houtcome
      | true =>
        cases (s.timerFired_outcome .blocked).symm.trans houtcome
        trivial
    | announcing =>
      cases flag with
      | false => cases houtcome
      | true =>
        cases (s.timerFired_outcome .unannounced).symm.trans houtcome
        trivial
    | committing =>
      cases flag with
      | false =>
        cases (s.timerFired_outcome .committed).symm.trans houtcome
        trivial
      | true =>
        cases (s.timerFired_outcome .failed).symm.trans houtcome
        trivial

theorem Pending.step {n : ℕ} (h : s.Pending e n endpoint) (hlawful : s.Lawful)
    (hcall : ¬ event.IsCall) :
    ∃ endpoint', (step s event).1.Pending e (n + (event.flagFor e).toList.length) endpoint' := by
  obtain ⟨endpoint', hget', hevolves⟩ := (step_moves s event).kept e endpoint h.get
  have hguards := step_guards s event
  obtain ⟨hclosed, hgeneration⟩ := hguards.quiet hcall
  have htimer : ¬ ∃ call ∈ s.calls, e ∈ call.timers := by
    rintro ⟨call, hmem, htimer⟩
    exact absurd ((hlawful.calls call hmem).2 e htimer) (h.calls call hmem).not_gt
  have hphase := hevolves.phase
  refine ⟨endpoint', hget', ?_, ?_, hclosed.trans h.closed, fun call hmem ↦ ?_,
    fun outcome houtcome ↦ ?_, ?_⟩
  · rw [hevolves.generation, h.generation, hgeneration]
  · exact (hevolves.cancelled.resolve_right htimer).trans h.cancelled
  · rcases (hguards.calls call hmem).origin with ⟨old, hold, heq, -⟩ | ⟨hmade, -⟩
    · exact heq ▸ h.calls old hold
    · exact absurd hmade hcall
  · rw [hphase] at houtcome
    cases hflag : event.flagFor e with
    | none =>
      rw [hflag] at houtcome
      exact h.fair outcome houtcome
    | some flag =>
      rw [hflag] at houtcome
      exact h.proceed_fair houtcome
  · rw [hphase]
    have hrank := h.rank
    cases hflag : event.flagFor e with
    | none => exact hrank
    | some flag =>
      have hnext := rank_proceed s e endpoint flag
      simp only [Option.toList_some, List.length_singleton, Option.elim_some]
      omega

def advances (e : ℕ) (h : List Event) : ℕ := (h.filterMap (Event.flagFor e)).length

theorem run_pending {n : ℕ} (h : s.Pending e n endpoint) (hlawful : s.Lawful) {post : List Event}
    (hcalls : ∀ event ∈ post, ¬ event.IsCall) :
    ∃ endpoint', (run step s post).Pending e (n + advances e post) endpoint' := by
  induction post generalizing s n endpoint with
  | nil => exact ⟨endpoint, h⟩
  | cons event post ih =>
    obtain ⟨endpoint', hnext⟩ := h.step hlawful (hcalls event (List.mem_cons_self ..))
    obtain ⟨endpoint'', hlast⟩ := ih hnext (hlawful.step event)
      fun d hmem ↦ hcalls d (List.mem_cons_of_mem event hmem)
    have hcount : advances e (event :: post) =
        (event.flagFor e).toList.length + advances e post := by
      rw [advances, List.filterMap_cons, advances]
      cases event.flagFor e <;> simp [Nat.add_comm]
    rw [run_cons, hcount, ← Nat.add_assoc]
    exact ⟨endpoint'', hlast⟩

def Accepts (s : AsrEndpointRuntime) (event : Event) : Prop :=
  s.endpoints.length < (step s event).1.endpoints.length

theorem pending_of_accepts (h : s.Lawful) (haccepts : s.Accepts event) :
    ∃ endpoint, (step s event).1.Pending s.endpoints.length 0 endpoint := by
  obtain ⟨source, blocked, now, rfl, hget', hclosed⟩ :=
    (step_moves s event).fresh _ (List.getElem?_eq_getElem haccepts)
  obtain ⟨hstill, hgeneration⟩ := (step_guards s (.request source blocked now)).quiet id
  refine ⟨_, (List.getElem?_eq_getElem haccepts).trans (congrArg some hget'), hgeneration.symm, rfl,
    hstill.trans hclosed, fun call hmem ↦ ?_, nofun, by simp⟩
  rcases ((step_guards s (.request source blocked now)).calls call hmem).origin with
    ⟨old, hold, heq, -⟩ | ⟨hmade, -⟩
  · exact heq ▸ (h.calls old hold).1
  · exact hmade.elim

def Settled (start : AsrEndpointRuntime) (h : List Event) (e : ℕ) : Prop :=
  ∃ endpoint outcome, (run step start h).endpoints[e]? = some endpoint ∧
    endpoint.phase = .done outcome ∧
    (outcome = .refused ∨ outcome = .blocked ∨
      e ∈ (outputs start h).filterMap (Output.calls? .onCommit) ∧
        (outcome = .unannounced ∨ e ∈ (outputs start h).filterMap (Output.calls? .commit)))

structure SafelyCancels (start : AsrEndpointRuntime) (h : List Event) : Prop where
  late : ∀ pre event post, h = pre ++ event :: post →
    ∀ call ∈ (run step start pre).calls, call.ended = true → ∀ e < call.accepted, ∀ callback,
      ∀ output ∈ (step (run step start pre) event).2, output.calls? callback ≠ some e
  once : ∀ callback e, ((outputs start h).filterMap (Output.calls? callback)).count e ≤ 1
  fired : ∀ pre event post, h = pre ++ event :: post → (run step start pre).Accepts event →
    (∀ d ∈ post, ¬ d.IsCall) → 11 ≤ advances (run step start pre).endpoints.length post →
    Settled start h (run step start pre).endpoints.length

theorem committing_of_calls {callback : Callback} {output : Output}
    (hmem : output ∈ (step s event).2) (hcalls : output.calls? callback = some e) :
    ∃ endpoint, s.endpoints[e]? = some endpoint ∧ endpoint.phase.Committing := by
  have hcalled : e ∈ (step s event).2.filterMap (Output.calls? callback) :=
    List.mem_filterMap.mpr ⟨output, hmem, hcalls⟩
  cases hflag : event.flagFor e with
  | none => exact absurd hcalled (calls_step hflag)
  | some flag =>
    obtain rfl : event = .advance e flag := by
      cases event <;> simp_all [Event.flagFor]
    rw [step, advance] at hmem
    cases hget : s.endpoints[e]? with
    | none => simp [hget] at hmem
    | some endpoint =>
      refine ⟨endpoint, rfl, ?_⟩
      simp only [hget, proceed] at hmem
      cases hphase : endpoint.phase with
      | accepted => cases callback <;> simp_all [Output.calls?]
      | announced | armed | started | leaving | done => simp [hphase] at hmem
      | performing stage =>
        cases stage with
        | current => exact .inl rfl
        | clear => exact .inr (.inl rfl)
        | announcing => exact .inr (.inr (.inl rfl))
        | notified => exact .inr (.inr (.inr rfl))
        | entered =>
          simp only [hphase, performCommit] at hmem
          split_ifs at hmem <;> cases hmem
        | committing => cases flag <;> cases callback <;> simp_all [performCommit, Output.calls?]

theorem settled_of_pending {start : AsrEndpointRuntime} (hstart : start.endpoints = [])
    {h : List Event} {n : ℕ} (hpending : (run step start h).Pending e n endpoint) (hn : 11 ≤ n) :
    Settled start h e := by
  have hrank := hpending.rank
  rw [Nat.min_eq_right hn] at hrank
  obtain ⟨outcome, hdone⟩ : ∃ outcome, endpoint.phase = .done outcome := by
    cases hphase : endpoint.phase with
    | done outcome => exact ⟨outcome, rfl⟩
    | performing stage => cases stage <;> simp [hphase, Phase.rank] at hrank
    | accepted | announced | armed | started | leaving => simp [hphase, Phase.rank] at hrank
  have hfair := hpending.fair outcome (by rw [hdone]; rfl)
  have hlogged (callback : Callback) (hcalled : outcome.called callback = true) :
      e ∈ (outputs start h).filterMap (Output.calls? callback) := by
    refine List.count_pos_iff.mp ?_
    rw [count_outputs hstart, called, hpending.get, Option.any_some, hdone, Phase.called, hcalled]
    exact Nat.one_pos
  refine ⟨endpoint, outcome, hpending.get, hdone, ?_⟩
  cases outcome with
  | refused => exact .inl rfl
  | blocked => exact .inr (.inl rfl)
  | unannounced => exact .inr (.inr ⟨hlogged .onCommit rfl, .inl rfl⟩)
  | failed | committed => exact .inr (.inr ⟨hlogged .onCommit rfl, .inr (hlogged .commit rfl)⟩)
  | dropped | cancelled | stale => exact hfair.elim

/-- In every run of regular steps. -/
theorem safely_cancels {delayMs : ℤ} {duplicateWindowS : Double} {h : List Event}
    (hregular : Along step Regular (create delayMs duplicateWindowS) h) :
    SafelyCancels (create delayMs duplicateWindowS) h := by
  have hlawful := lawful_create delayMs duplicateWindowS
  refine ⟨?_, fun callback e ↦ ?_, ?_⟩
  · rintro pre event post rfl call hmem hover e hlt callback output houtput hcalls
    obtain ⟨endpoint, hget, hcommitting⟩ := committing_of_calls houtput hcalls
    have hspent : Spent (create delayMs duplicateWindowS) :=
      fun call hmem ↦ absurd hmem List.not_mem_nil
    have hbefore := ((along_append step).mp hregular).1
    exact run_spent hspent hlawful hbefore call hmem hover e endpoint hlt hget hcommitting
  · rw [count_outputs rfl]
    exact Bool.toNat_le _
  · rintro pre event post rfl haccepts hcalls hadvances
    have hbefore := run_lawful hlawful pre
    obtain ⟨endpoint, hpending⟩ := pending_of_accepts hbefore haccepts
    obtain ⟨endpoint', hlast⟩ := run_pending hpending (hbefore.step event) hcalls
    rw [← run_snoc, ← run_append, List.append_assoc, List.singleton_append] at hlast
    exact settled_of_pending rfl hlast (by omega)

/-- An endpoint whose timer has fired and passed the comparison. -/
def firing : List Event :=
  .request "vad" false 0 :: List.replicate 5 (.advance 0 false)

/-- The call comes back, the thread goes on. -/
def resumedLate : List Event :=
  [.resumeUtterance, .cancelTimer 0 0, .returns 0, .advance 0 false, .advance 0 false]

/-- One endpoint is cancelled before its timer fires, the next one committed. -/
def resumedInTime : List Event :=
  .request "vad" false 0 :: List.replicate 3 (.advance 0 false) ++
    [.resumeUtterance, .cancelTimer 0 0, .returns 0, .advance 0 false, .request "vad" false 0] ++
    List.replicate 11 (.advance 1 false)

theorem resumedInTime_safe : SafelyCancels (create 300 0) resumedInTime :=
  safely_cancels (by decide +kernel)

theorem resumedLate_unsafe : ¬ SafelyCancels (create 300 0) (firing ++ resumedLate) := by
  intro h
  have hlate := h.late (firing ++ resumedLate.take 4) (.advance 0 false) [] rfl ⟨1, [], true⟩
    (by decide +kernel) rfl 0 (by decide) .onCommit (.onCommit 0 "vad") (by decide +kernel)
  exact hlate rfl

end AsrEndpointRuntime

end EmbodiedAgent.Audio
