import EmbodiedAgent.Simulation.Nav2RobotExecutor

namespace EmbodiedAgent.Simulation

namespace GoalPhase

def waiting : GoalPhase → Bool
  | .bound | .sent | .accepted => true
  | _ => false

def held : GoalPhase → Bool
  | .known | .awaitingResult => true
  | _ => false

def unsettled (p : GoalPhase) : Bool := p.waiting || p.held

/-- The goal was sent, and neither rejected nor has it delivered its result. -/
def outstanding (p : GoalPhase) : Bool := p.unsettled && decide (p ≠ .bound)

/-- The executor has seen the handle. -/
def seen (p : GoalPhase) : Bool := p.held || decide (p = .settled)

inductive Next : GoalPhase → GoalPhase → Prop
  | bound : Next .unsent .bound
  | sent : Next .bound .sent
  | accepted : Next .sent .accepted
  | rejected : Next .sent .rejected
  | known : Next .accepted .known
  | awaitingResult : Next .known .awaitingResult
  | settled : Next .awaitingResult .settled

end GoalPhase

namespace Nav2RobotExecutor

open scoped List

variable {e e' : Nav2RobotExecutor} {g goal : Nav2Goal} {L T : List Nav2Task}

def flagged (c : GoalChannel) : Bool := c.pending || c.handle.isSome

theorem hasUnsettledGoal_eq (e : Nav2RobotExecutor) :
    e.hasUnsettledGoal = (flagged e.navigate || flagged e.follow) := by
  unfold hasUnsettledGoal flagged
  cases e.navigate.pending <;> cases e.follow.pending <;> cases e.navigate.handle.isSome <;>
    cases e.follow.handle.isSome <;> rfl

theorem hasUnsettledGoal_of_flagged {action : Nav2Action} (h : flagged (e.channel action) = true) :
    e.hasUnsettledGoal = true := by
  rw [hasUnsettledGoal_eq]
  cases action with
  | navigateToPose =>
    have hnavigate : flagged e.navigate = true := h
    rw [hnavigate, Bool.true_or]
  | followWaypoints =>
    have hfollow : flagged e.follow = true := h
    rw [hfollow, Bool.or_true]

@[simp] theorem channel_withChannel (e : Nav2RobotExecutor) (c : GoalChannel)
    (action action' : Nav2Action) : (e.withChannel c action).channel action' =
      if action' = action then c else e.channel action' := by
  cases action <;> cases action' <;> rfl

@[simp] theorem phase_withChannel (e : Nav2RobotExecutor) (c : GoalChannel)
    (action : Nav2Action) : (e.withChannel c action).phase = e.phase := by
  cases action <;> rfl

@[simp] theorem channel_withPhase (e : Nav2RobotExecutor) (p : GoalPhase) :
    (e.withPhase goal p).channel = e.channel := by
  funext action
  cases action <;> rfl

theorem phase_withPhase (e : Nav2RobotExecutor) (p : GoalPhase) (g : Nav2Goal) :
    (e.withPhase goal p).phase g = if g = goal then p else e.phase g := rfl

@[simp] theorem phase_withPhase_self (e : Nav2RobotExecutor) (p : GoalPhase) :
    (e.withPhase goal p).phase goal = p := if_pos rfl

theorem phase_withPhase_of_ne (e : Nav2RobotExecutor) (p : GoalPhase) (h : g ≠ goal) :
    (e.withPhase goal p).phase g = e.phase g := if_neg h

theorem phase_bound (e : Nav2RobotExecutor) (goal : Nav2Goal) :
    (e.bound goal).phase = (e.withPhase goal .bound).phase := by
  funext g
  change ((e.withChannel _ goal.action).withPhase goal .bound).phase g = _
  rw [phase_withPhase, phase_withPhase, phase_withChannel]

theorem channel_congr (hn : e'.navigate = e.navigate) (hf : e'.follow = e.follow) :
    e'.channel = e.channel := by
  funext action
  cases action
  · exact hn
  · exact hf

structure Booked (e : Nav2RobotExecutor) : Prop where
  current : ∀ g, (e.phase g).unsettled = true → g.generation = (e.channel g.action).generation
  waiting : ∀ g, (e.phase g).waiting = true → (e.channel g.action).pending = true
  held : ∀ g, (e.phase g).held = true → (e.channel g.action).handle = some g
  exclusive : ∀ a a', flagged (e.channel a) = true → flagged (e.channel a') = true → a = a'
  fresh : ∀ g, (e.channel g.action).generation < g.generation → e.phase g = .unsent

theorem Booked.congr (h : Booked e) (hc : e'.channel = e.channel) (hp : e'.phase = e.phase) :
    Booked e' := by
  constructor
  · rw [hc, hp]
    exact h.current
  · rw [hc, hp]
    exact h.waiting
  · rw [hc, hp]
    exact h.held
  · rw [hc]
    exact h.exclusive
  · rw [hc, hp]
    exact h.fresh

theorem Booked.flagged_channel (h : Booked e) (hg : (e.phase g).unsettled = true) :
    flagged (e.channel g.action) = true := by
  rcases Bool.or_eq_true_iff.mp hg with hwaiting | hheld
  · rw [flagged, h.waiting g hwaiting, Bool.true_or]
  · rw [flagged, h.held g hheld]
    exact Bool.or_true _

theorem Booked.hasUnsettledGoal (h : Booked e) (hg : (e.phase g).unsettled = true) :
    e.hasUnsettledGoal = true :=
  hasUnsettledGoal_of_flagged (h.flagged_channel hg)

theorem Booked.none_unsettled (h : Booked e) (hnone : e.hasUnsettledGoal = false) (g : Nav2Goal) :
    (e.phase g).unsettled = false := by
  by_contra hg
  cases hnone.symm.trans (h.hasUnsettledGoal (Bool.eq_true_of_not_eq_false hg))

theorem Booked.unique (h : Booked e) {g g' : Nav2Goal} (hg : (e.phase g).unsettled = true)
    (hg' : (e.phase g').unsettled = true) : g = g' := by
  obtain ⟨action, generation⟩ := g
  obtain ⟨action', generation'⟩ := g'
  obtain rfl : action = action' := h.exclusive _ _ (h.flagged_channel hg) (h.flagged_channel hg')
  have hsame := (h.current _ hg).trans (h.current _ hg').symm
  simpa using hsame

theorem Booked.withPhase (h : Booked e) {p : GoalPhase} (hold : e.phase goal ≠ .unsent)
    (hunsettled : p.unsettled = true → goal.generation = (e.channel goal.action).generation)
    (hwaiting : p.waiting = true → (e.channel goal.action).pending = true)
    (hheld : p.held = true → (e.channel goal.action).handle = some goal) :
    Booked (e.withPhase goal p) := by
  refine ⟨fun g hg ↦ ?_, fun g hg ↦ ?_, fun g hg ↦ ?_, fun a a' ↦ ?_, fun g hg ↦ ?_⟩
  all_goals simp only [channel_withPhase] at *
  · rw [phase_withPhase] at hg
    split_ifs at hg with hsame
    · rw [hsame]
      exact hunsettled hg
    · exact h.current g hg
  · rw [phase_withPhase] at hg
    split_ifs at hg with hsame
    · rw [hsame]
      exact hwaiting hg
    · exact h.waiting g hg
  · rw [phase_withPhase] at hg
    split_ifs at hg with hsame
    · rw [hsame]
      exact hheld hg
    · exact h.held g hg
  · exact h.exclusive a a'
  · have hunsent := h.fresh g hg
    rw [phase_withPhase, if_neg]
    · exact hunsent
    · rintro rfl
      exact hold hunsent

theorem booked_bound (h : Booked e) (hnone : e.hasUnsettledGoal = false) (action : Nav2Action) :
    Booked (e.bound ⟨action, (e.channel action).generation + 1⟩) := by
  have hidle := h.none_unsettled hnone
  have hflags : ∀ a, flagged (e.channel a) = false := by
    intro a
    by_contra hflag
    cases hnone.symm.trans (hasUnsettledGoal_of_flagged (Bool.eq_true_of_not_eq_false hflag))
  set goal : Nav2Goal := ⟨action, (e.channel action).generation + 1⟩ with hgoal
  have hchannel : ∀ a, (e.bound goal).channel a =
      if a = action then ⟨none, true, goal.generation⟩ else e.channel a := by
    intro a
    have hsame : (e.bound goal).channel = ((e.withChannel
        { handle := none, pending := true, generation := goal.generation }
        goal.action).withPhase goal .bound).channel := channel_congr rfl rfl
    rw [hsame, channel_withPhase, channel_withChannel]
  have hphase : ∀ g, (e.bound goal).phase g = if g = goal then .bound else e.phase g :=
    congrFun (phase_bound e goal)
  have honly : ∀ g, ((e.bound goal).phase g).unsettled = true → g = goal := by
    intro g hg
    by_contra hne
    rw [hphase, if_neg hne, hidle g] at hg
    cases hg
  refine ⟨fun g hg ↦ ?_, fun g hg ↦ ?_, fun g hg ↦ ?_, fun a a' ha ha' ↦ ?_, fun g hg ↦ ?_⟩
  · rw [honly g hg, hchannel, if_pos rfl]
  · rw [honly g (by rw [GoalPhase.unsettled, hg, Bool.true_or]), hchannel, if_pos rfl]
  · have hself := honly g (by rw [GoalPhase.unsettled, hg, Bool.or_true])
    rw [hself, hphase, if_pos rfl] at hg
    cases hg
  · rw [hchannel] at ha ha'
    split_ifs at ha ha' with hsame hsame'
    · exact hsame.trans hsame'.symm
    · cases (hflags a').symm.trans ha'
    · cases (hflags a).symm.trans ha
    · cases (hflags a).symm.trans ha
  · rw [hchannel] at hg
    rw [hphase, if_neg]
    · split_ifs at hg with hsame
      · refine h.fresh g ?_
        rw [hsame]
        exact (Nat.lt_succ_self _).trans hg
      · exact h.fresh g hg
    · rintro rfl
      rw [if_pos rfl] at hg
      exact lt_irrefl _ hg

theorem Booked.only (h : Booked e) (hcurrent : goal.generation = (e.channel goal.action).generation)
    (haction : g.action = goal.action) (hg : (e.phase g).unsettled = true) : g = goal := by
  have hgeneration := h.current g hg
  rw [haction, ← hcurrent] at hgeneration
  cases g
  cases goal
  simp_all

theorem Booked.withGoal (h : Booked e) {p : GoalPhase} {c : GoalChannel}
    (hold : e.phase goal ≠ .unsent)
    (hcurrent : goal.generation = (e.channel goal.action).generation)
    (hgeneration : c.generation = (e.channel goal.action).generation)
    (hwaiting : p.waiting = true → c.pending = true)
    (hheld : p.held = true → c.handle = some goal)
    (hflags : flagged c = true → flagged (e.channel goal.action) = true) :
    Booked ((e.withPhase goal p).withChannel c goal.action) := by
  have hother : ∀ g, g ≠ goal → g.action = goal.action → (e.phase g).unsettled = true → False :=
    fun g hne haction hg ↦ hne (h.only hcurrent haction hg)
  refine ⟨fun g hg ↦ ?_, fun g hg ↦ ?_, fun g hg ↦ ?_, fun a a' ha ha' ↦ ?_, fun g hg ↦ ?_⟩
  all_goals simp only [channel_withChannel, phase_withChannel, channel_withPhase,
    phase_withPhase] at *
  · rcases eq_or_ne g goal with rfl | hne
    · rw [if_pos rfl]
      exact hcurrent.trans hgeneration.symm
    · rw [if_neg hne] at hg
      rw [if_neg fun haction ↦ hother g hne haction hg]
      exact h.current g hg
  · rcases eq_or_ne g goal with rfl | hne
    · rw [if_pos rfl] at hg ⊢
      exact hwaiting hg
    · rw [if_neg hne] at hg
      rw [if_neg fun haction ↦ hother g hne haction (by rw [GoalPhase.unsettled, hg, Bool.true_or])]
      exact h.waiting g hg
  · rcases eq_or_ne g goal with rfl | hne
    · rw [if_pos rfl] at hg ⊢
      exact hheld hg
    · rw [if_neg hne] at hg
      rw [if_neg fun haction ↦ hother g hne haction (by rw [GoalPhase.unsettled, hg, Bool.or_true])]
      exact h.held g hg
  · split_ifs at ha ha' with hsame hsame' hsame'
    · exact hsame.trans hsame'.symm
    · rw [hsame]
      exact h.exclusive _ _ (hflags ha) ha'
    · rw [hsame']
      exact h.exclusive _ _ ha (hflags ha')
    · exact h.exclusive _ _ ha ha'
  · have hunsent : e.phase g = .unsent := by
      refine h.fresh g ?_
      split_ifs at hg with haction
      · rw [haction, ← hgeneration]
        exact hg
      · exact hg
    rw [if_neg]
    · exact hunsent
    · rintro rfl
      exact hold hunsent

theorem Booked.withFlags (h : Booked e) {c : GoalChannel} (hphase : e.phase goal = .rejected)
    (hcurrent : goal.generation = (e.channel goal.action).generation)
    (hgeneration : c.generation = (e.channel goal.action).generation)
    (hflags : flagged c = true → flagged (e.channel goal.action) = true) :
    Booked (e.withChannel c goal.action) := by
  have hsame : e.withPhase goal .rejected = e := by
    have hphases : (fun g ↦ if g = goal then .rejected else e.phase g) = e.phase := by
      funext g
      split_ifs with hg
      · rw [hg, hphase]
      · rfl
    rw [Nav2RobotExecutor.withPhase, hphases]
  rw [← hsame]
  refine h.withGoal ?_ hcurrent hgeneration ?_ ?_ hflags
  · rw [hphase]
    exact fun h ↦ by cases h
  · exact fun h ↦ by cases h
  · exact fun h ↦ by cases h

theorem booked_clearPending (h : Booked e) (hphase : e.phase goal = .rejected) :
    Booked (e.clearPending goal) := by
  unfold clearPending
  dsimp only
  split_ifs with hcurrent
  · refine h.withFlags hphase hcurrent rfl fun hflag ↦ ?_
    rw [flagged, Bool.false_or] at hflag
    rw [flagged, hflag, Bool.or_true]
  · exact h

theorem booked_responded (h : Booked e) {accepted : Bool}
    (hphase : e.phase goal = if accepted then .accepted else .rejected) :
    Booked (e.responded goal accepted) := by
  cases accepted with
  | true =>
    replace hphase : e.phase goal = .accepted := hphase
    have hcurrent := h.current goal (by rw [hphase]; rfl)
    have hpending := h.waiting goal (by rw [hphase]; rfl)
    simp only [responded, if_true, ne_eq, not_true, if_false, hcurrent]
    refine h.withGoal ?_ hcurrent rfl ?_ ?_ fun _ ↦ ?_
    · rw [hphase]
      exact fun h ↦ by cases h
    · exact fun h ↦ by cases h
    · exact fun _ ↦ rfl
    · rw [flagged, hpending, Bool.true_or]
  | false =>
    simp only [responded, Bool.false_eq_true, if_false]
    split_ifs with hcurrent
    · exact h
    · exact h.withFlags hphase (not_not.mp hcurrent) rfl fun hflag ↦ by cases hflag

theorem booked_released (h : Booked e) (hphase : e.phase goal = .awaitingResult) :
    Booked (e.released goal) := by
  have hcurrent := h.current goal (by rw [hphase]; rfl)
  simp only [released, ne_eq, not_true, if_false, hcurrent]
  refine h.withGoal ?_ hcurrent rfl ?_ ?_ fun hflag ↦ ?_
  · rw [hphase]
    exact fun h ↦ by cases h
  · exact fun h ↦ by cases h
  · exact fun h ↦ by cases h
  · cases hflag

def Ready (phase : Nav2Goal → GoalPhase) : Nav2Task → Prop
  | .sendGoal goal => phase goal = .bound
  | .clearPending goal => phase goal = .rejected
  | .goalResponse goal accepted => phase goal = if accepted then .accepted else .rejected
  | .makeResultAware goal => phase goal = .known
  | _ => True

theorem phase_clearPending (e : Nav2RobotExecutor) (goal : Nav2Goal) :
    (e.clearPending goal).phase = e.phase := by
  unfold clearPending
  dsimp only
  split_ifs
  · rw [phase_withChannel]
  · rfl

theorem phase_requestStop (e : Nav2RobotExecutor) (requestedAt : ℤ) :
    (e.requestStop requestedAt).1.phase = e.phase := by
  unfold requestStop
  dsimp only
  split_ifs <;> rfl

theorem channel_requestStop (e : Nav2RobotExecutor) (requestedAt : ℤ) :
    (e.requestStop requestedAt).1.channel = e.channel := by
  unfold requestStop
  dsimp only
  split_ifs <;> exact channel_congr rfl rfl

theorem cancelFailed_same (e : Nav2RobotExecutor) (action : Nav2Action) (n : ℕ) (error : String) :
    (e.cancelFailed action n error).channel = e.channel ∧
      (e.cancelFailed action n error).phase = e.phase := by
  unfold cancelFailed
  split_ifs
  · exact ⟨channel_congr rfl rfl, rfl⟩
  · exact ⟨rfl, rfl⟩

theorem cancelResponse_same (e : Nav2RobotExecutor) (action : Nav2Action) (n : ℕ)
    (accepted : Bool) : (e.cancelResponse action n accepted).channel = e.channel ∧
      (e.cancelResponse action n accepted).phase = e.phase := by
  unfold cancelResponse
  split_ifs
  · exact ⟨rfl, rfl⟩
  · exact ⟨channel_congr rfl rfl, rfl⟩
  · exact ⟨rfl, rfl⟩

theorem pollStop_same (e : Nav2RobotExecutor) (now : ℤ) :
    (e.pollStop now).1.channel = e.channel ∧ (e.pollStop now).1.phase = e.phase := by
  unfold pollStop
  dsimp only
  split_ifs
  · exact ⟨channel_congr rfl rfl, rfl⟩
  · exact ⟨rfl, rfl⟩

theorem goalResponse_same (e : Nav2RobotExecutor) (goal : Nav2Goal) (accepted : Bool) :
    (e.goalResponse goal accepted).1.channel = (e.responded goal accepted).channel ∧
      (e.goalResponse goal accepted).1.phase = (e.responded goal accepted).phase := by
  unfold goalResponse
  dsimp only
  split_ifs <;> exact ⟨channel_congr rfl rfl, rfl⟩

theorem result_same (e : Nav2RobotExecutor) (goal : Nav2Goal) (detail : String) :
    (e.result goal detail).channel = (e.released goal).channel ∧
      (e.result goal detail).phase = (e.released goal).phase := by
  unfold result
  dsimp only
  split_ifs
  · exact ⟨channel_congr rfl rfl, rfl⟩
  · exact ⟨rfl, rfl⟩

theorem phase_responded (e : Nav2RobotExecutor) (goal : Nav2Goal) (accepted : Bool) :
    (e.responded goal accepted).phase =
      if accepted then (e.withPhase goal .known).phase else e.phase := by
  cases accepted with
  | true =>
    simp only [responded, if_true]
    split_ifs
    · rfl
    · rw [phase_withChannel]
  | false =>
    simp only [responded, Bool.false_eq_true, if_false]
    split_ifs
    · rfl
    · rw [phase_withChannel]

theorem phase_released (e : Nav2RobotExecutor) (goal : Nav2Goal) :
    (e.released goal).phase = (e.withPhase goal .settled).phase := by
  unfold released
  dsimp only
  split_ifs
  · rfl
  · rw [phase_withChannel]

theorem booked_perform (h : Booked e) {reading : Nav2Reading} {t : Nav2Task}
    (hready : Ready e.phase t) : Booked (e.perform reading t).1 := by
  cases t with
  | execute => exact h
  | bindGoal action =>
    simp only [perform, bindGoal]
    split_ifs with hunsettled
    · exact h
    · exact booked_bound h (Bool.eq_false_of_not_eq_true hunsettled) action
  | sendGoal goal =>
    replace hready : e.phase goal = .bound := hready
    refine h.withPhase ?_ (fun _ ↦ h.current goal ?_) (fun _ ↦ h.waiting goal ?_) ?_
    · rw [hready]
      exact fun h ↦ by cases h
    · rw [hready]
      rfl
    · rw [hready]
      rfl
    · exact fun h ↦ by cases h
  | awaitResponse => exact h
  | clearPending => exact booked_clearPending h hready
  | requestStop requestedAt =>
    exact h.congr (channel_requestStop e requestedAt) (phase_requestStop e requestedAt)
  | requestCancel => exact h.congr (channel_congr rfl rfl) rfl
  | cancelFailed action n error =>
    exact h.congr (cancelFailed_same e action n error).1 (cancelFailed_same e action n error).2
  | cancelStale => exact h.congr (channel_congr rfl rfl) rfl
  | goalResponse goal accepted =>
    exact (booked_responded h hready).congr (goalResponse_same e goal accepted).1
      (goalResponse_same e goal accepted).2
  | makeResultAware goal =>
    replace hready : e.phase goal = .known := hready
    refine h.withPhase ?_ (fun _ ↦ h.current goal ?_) ?_ fun _ ↦ h.held goal ?_
    · rw [hready]
      exact fun h ↦ by cases h
    · rw [hready]
      rfl
    · exact fun h ↦ by cases h
    · rw [hready]
      rfl
  | pollStop now => exact h.congr (pollStop_same e now).1 (pollStop_same e now).2
  | isQuiesced => exact h
  | done => exact h

inductive Moves (g : Nav2Goal) : Nav2Task → GoalPhase → GoalPhase → Prop
  | bound : Moves g (.bindGoal g.action) .unsent .bound
  | sent : Moves g (.sendGoal g) .bound .sent
  | known : Moves g (.goalResponse g true) .accepted .known
  | awaitingResult : Moves g (.makeResultAware g) .known .awaitingResult

theorem Moves.next {t : Nav2Task} {p q : GoalPhase} (h : Moves g t p q) : p.Next q := by
  cases h with
  | bound => exact .bound
  | sent => exact .sent
  | known => exact .known
  | awaitingResult => exact .awaitingResult

theorem phase_perform (h : Booked e) (reading : Nav2Reading) {t : Nav2Task}
    (hready : Ready e.phase t) (g : Nav2Goal) :
    (e.perform reading t).1.phase g = e.phase g ∨
      Moves g t (e.phase g) ((e.perform reading t).1.phase g) := by
  have hmove : ∀ {goal p q}, e.phase goal = p → Moves goal t p q →
      (e.withPhase goal q).phase g = e.phase g ∨
        Moves g t (e.phase g) ((e.withPhase goal q).phase g) := by
    intro goal p q hp hmoves
    rw [phase_withPhase]
    split_ifs with hsame
    · rw [hsame, hp]
      exact .inr hmoves
    · exact .inl rfl
  cases t with
  | bindGoal action =>
    simp only [perform, bindGoal]
    split_ifs with hunsettled
    · exact .inl rfl
    · have hfresh := h.fresh ⟨action, (e.channel action).generation + 1⟩ (Nat.lt_succ_self _)
      rw [phase_bound]
      exact hmove hfresh .bound
  | sendGoal => exact hmove hready .sent
  | clearPending goal => exact .inl (congrFun (phase_clearPending e goal) g)
  | requestStop requestedAt => exact .inl (congrFun (phase_requestStop e requestedAt) g)
  | cancelFailed action n error =>
    exact .inl (congrFun (cancelFailed_same e action n error).2 g)
  | goalResponse goal accepted =>
    simp only [perform, (goalResponse_same e goal accepted).2, phase_responded]
    cases accepted with
    | true => exact hmove hready .known
    | false => exact .inl rfl
  | makeResultAware => exact hmove hready .awaitingResult
  | pollStop now => exact .inl (congrFun (pollStop_same e now).2 g)
  | _ => exact .inl rfl

variable {T' : List Nav2Task} {reading : Nav2Reading} {t : Nav2Task}

def Chased (e : Nav2RobotExecutor) (T : List Nav2Task) (g : Nav2Goal) : Prop :=
  g ∈ e.cancelRequests ∨ ∃ n, .requestCancel g n ∈ T

def Pursued (e : Nav2RobotExecutor) (T : List Nav2Task) (g : Nav2Goal) : Prop :=
  (e.phase g).waiting = true ∧ e.stopRequested = true ∨ Chased e T g

structure Stops (e : Nav2RobotExecutor) (T : List Nav2Task) : Prop where
  requested : e.stopRequested = true → e.stopState ≠ .quiesced
  pursued : e.stopState ≠ .quiesced → ∀ g, (e.phase g).unsettled = true → Pursued e T g

structure SameStop (e e' : Nav2RobotExecutor) : Prop where
  requested : e'.stopRequested = e.stopRequested
  state : e'.stopState = e.stopState
  cancels : e'.cancelRequests = e.cancelRequests

theorem SameStop.trans {e'' : Nav2RobotExecutor} (h : SameStop e e') (h' : SameStop e' e'') :
    SameStop e e'' :=
  ⟨h'.requested.trans h.requested, h'.state.trans h.state, h'.cancels.trans h.cancels⟩

theorem sameStop_withPhase (e : Nav2RobotExecutor) (goal : Nav2Goal) (p : GoalPhase) :
    SameStop e (e.withPhase goal p) :=
  ⟨rfl, rfl, rfl⟩

theorem sameStop_withChannel (e : Nav2RobotExecutor) (c : GoalChannel) (action : Nav2Action) :
    SameStop e (e.withChannel c action) := by
  cases action <;> exact ⟨rfl, rfl, rfl⟩

theorem sameStop_clearPending (e : Nav2RobotExecutor) (goal : Nav2Goal) :
    SameStop e (e.clearPending goal) := by
  unfold clearPending
  dsimp only
  split_ifs
  · exact sameStop_withChannel e _ _
  · exact ⟨rfl, rfl, rfl⟩

theorem sameStop_responded (e : Nav2RobotExecutor) (goal : Nav2Goal) (accepted : Bool) :
    SameStop e (e.responded goal accepted) := by
  cases accepted with
  | true =>
    simp only [responded, if_true]
    split_ifs
    · exact ⟨rfl, rfl, rfl⟩
    · exact (sameStop_withPhase e goal .known).trans (sameStop_withChannel _ _ _)
  | false =>
    simp only [responded, Bool.false_eq_true, if_false]
    split_ifs
    · exact ⟨rfl, rfl, rfl⟩
    · exact sameStop_withChannel e _ _

theorem sameStop_released (e : Nav2RobotExecutor) (goal : Nav2Goal) :
    SameStop e (e.released goal) := by
  unfold released
  dsimp only
  split_ifs
  · exact ⟨rfl, rfl, rfl⟩
  · exact (sameStop_withPhase e goal .settled).trans (sameStop_withChannel _ _ _)

theorem Stops.of_quiesced (hrequested : e.stopRequested = false)
    (hstate : e.stopState = .quiesced) : Stops e T :=
  ⟨fun h ↦ (Bool.false_ne_true (hrequested.symm.trans h)).elim, fun h ↦ (h hstate).elim⟩

theorem Stops.kept (h : Stops e T) (hrequested : e'.stopRequested = e.stopRequested)
    (hstate : e'.stopState = .quiesced ↔ e.stopState = .quiesced)
    (hpursued : ∀ g, (e'.phase g).unsettled = true → (e.phase g).unsettled = true ∧
      (Pursued e T g → Pursued e' T' g)) : Stops e' T' := by
  refine ⟨fun hreq ↦ ?_, fun hne g hg ↦ ?_⟩
  · rw [ne_eq, hstate]
    exact h.requested (hrequested ▸ hreq)
  · exact (hpursued g hg).2 (h.pursued (fun heq ↦ hne (hstate.mpr heq)) g (hpursued g hg).1)

theorem Stops.withStopState (h : Stops e T) {state : StopExecutionState} {detail : String}
    (hold : e.stopState ≠ .quiesced) (hnew : state ≠ .quiesced)
    (hT : ∀ g, Chased e T g → Chased e T' g) : Stops (e.withStopState state detail) T' :=
  h.kept rfl ⟨fun h ↦ (hnew h).elim, fun h ↦ (hold h).elim⟩ fun g hg ↦ ⟨hg, Or.imp_right (hT g)⟩

theorem cancelRequests_perform (e : Nav2RobotExecutor) (reading : Nav2Reading) (t : Nav2Task) :
    ∀ g ∈ e.cancelRequests, g ∈ (e.perform reading t).1.cancelRequests := by
  intro g hg
  cases t with
  | bindGoal action =>
    simp only [perform, bindGoal]
    split_ifs
    · exact hg
    · have hsame := sameStop_withChannel e ⟨none, true, (e.channel action).generation + 1⟩ action
      exact hsame.cancels.symm ▸ hg
  | clearPending goal => exact (sameStop_clearPending e goal).cancels.symm ▸ hg
  | requestStop requestedAt =>
    simp only [perform, requestStop]
    split_ifs <;> exact hg
  | requestCancel => exact List.mem_append_left _ hg
  | cancelStale => exact List.mem_append_left _ hg
  | cancelFailed action n error =>
    simp only [perform, cancelFailed]
    split_ifs <;> exact hg
  | goalResponse goal accepted =>
    have hsame := (sameStop_responded e goal accepted).cancels.symm ▸ hg
    simp only [perform, goalResponse]
    split_ifs <;> exact hsame
  | pollStop now =>
    simp only [perform, pollStop]
    split_ifs <;> exact hg
  | _ => exact hg

theorem Chased.perform {g : Nav2Goal} (h : Chased e T g) (hT : ∀ t' ∈ T, t' = t ∨ t' ∈ T') :
    Chased (e.perform reading t).1 T' g := by
  rcases h with hrequested | ⟨n, hdue⟩
  · exact .inl (cancelRequests_perform e reading t g hrequested)
  · rcases hT _ hdue with rfl | hlater
    · exact .inl (List.mem_append_right _ (List.mem_singleton_self g))
    · exact .inr ⟨n, hlater⟩

theorem mem_cancelHeld {g : Nav2Goal} (hheld : (e.channel g.action).handle = some g) :
    .requestCancel g (e.channel g.action).generation ∈
      e.cancelHeld .navigateToPose ++ e.cancelHeld .followWaypoints := by
  have hmem : .requestCancel g (e.channel g.action).generation ∈ e.cancelHeld g.action := by
    rw [cancelHeld, hheld]
    exact List.mem_singleton_self _
  cases haction : g.action with
  | navigateToPose => exact List.mem_append_left _ (haction ▸ hmem)
  | followWaypoints => exact List.mem_append_right _ (haction ▸ hmem)

theorem stops_requestStop (hb : Booked e) (h : Stops e T) {requestedAt : ℤ}
    (hT : ∀ t' ∈ T, t' = .requestStop requestedAt ∨ t' ∈ T')
    (hcalled : ∀ t' ∈ (e.requestStop requestedAt).2, t' ∈ T') :
    Stops (e.requestStop requestedAt).1 T' := by
  have hchased : ∀ g, Chased e T g → Chased e T' g := by
    rintro g (hrequested | ⟨n, hdue⟩)
    · exact .inl hrequested
    · exact .inr ⟨n, (hT _ hdue).resolve_left fun h ↦ by cases h⟩
  unfold requestStop at hcalled ⊢
  dsimp only at hcalled ⊢
  split_ifs at hcalled ⊢ with hunder hnone
  · refine h.kept rfl Iff.rfl fun g hg ↦ ⟨hg, ?_⟩
    exact Or.imp_right (hchased g)
  · exact Stops.of_quiesced rfl rfl
  · refine ⟨fun _ ↦ ?_, fun _ g hg ↦ ?_⟩
    · exact fun h ↦ by cases h
    · rcases Bool.or_eq_true_iff.mp hg with hwaiting | hheld
      · exact .inl ⟨hwaiting, rfl⟩
      · exact .inr (.inr ⟨_, hcalled _ (mem_cancelHeld (hb.held g hheld))⟩)

theorem Stops.withPhase (h : Stops e T) {p : GoalPhase}
    (hunsettled : p.unsettled = true → (e.phase goal).unsettled = true)
    (hwaiting : (e.phase goal).waiting = true → p.unsettled = true → p.waiting = true)
    (hT : ∀ t' ∈ T, ∀ g n, t' = .requestCancel g n → t' ∈ T') :
    Stops (e.withPhase goal p) T' := by
  refine h.kept rfl Iff.rfl fun g hg ↦ ?_
  have hchased : Chased e T g → Chased (e.withPhase goal p) T' g := by
    rintro (hrequested | ⟨n, hdue⟩)
    · exact .inl hrequested
    · exact .inr ⟨n, hT _ hdue g n rfl⟩
  rcases eq_or_ne g goal with rfl | hne
  · rw [phase_withPhase_self] at hg
    refine ⟨hunsettled hg, Or.imp (fun h ↦ ⟨?_, h.2⟩) hchased⟩
    rw [phase_withPhase_self]
    exact hwaiting h.1 hg
  · rw [phase_withPhase_of_ne e p hne] at hg
    refine ⟨hg, Or.imp (fun h ↦ ⟨?_, h.2⟩) hchased⟩
    rw [phase_withPhase_of_ne e p hne]
    exact h.1

theorem stops_accepted (h : Stops e T) (hb : Booked e) (hphase : e.phase goal = .accepted)
    (hT : ∀ t' ∈ T, t' = .goalResponse goal true ∨ t' ∈ T')
    (hcalled : ∀ t' ∈ (e.goalResponse goal true).2, t' ∈ T') :
    Stops (e.goalResponse goal true).1 T' := by
  have hcurrent := hb.current goal (by rw [hphase]; rfl)
  have hsame := sameStop_responded e goal true
  simp only [goalResponse, ne_eq, hcurrent, not_true, if_false, if_true] at hcalled ⊢
  refine h.kept hsame.requested (by rw [hsame.state]) fun g hg ↦ ?_
  rw [phase_responded, if_pos rfl] at hg
  have hchased : Chased e T g → Chased (e.responded goal true) T' g := by
    rintro (hrequested | ⟨n, hdue⟩)
    · exact .inl (hsame.cancels.symm ▸ hrequested)
    · exact .inr ⟨n, (hT _ hdue).resolve_left fun h ↦ by cases h⟩
  rcases eq_or_ne g goal with rfl | hne
  · refine ⟨by rw [hphase]; rfl, fun hpursued ↦ .inr ?_⟩
    rcases hpursued with ⟨-, hrequested⟩ | hdue
    · refine .inr ⟨g.generation, hcalled _ ?_⟩
      rw [← hcurrent, if_pos hrequested]
      exact List.mem_singleton_self _
    · exact hchased hdue
  · rw [phase_withPhase_of_ne e _ hne] at hg
    refine ⟨hg, Or.imp (fun h ↦ ⟨?_, ?_⟩) hchased⟩
    · rw [phase_responded, if_pos rfl, phase_withPhase_of_ne e _ hne]
      exact h.1
    · rw [hsame.requested]
      exact h.2

theorem stops_rejected (h : Stops e T)
    (hT : ∀ t' ∈ T, t' = .goalResponse goal false ∨ t' ∈ T') :
    Stops (e.goalResponse goal false).1 T' := by
  have hsame := sameStop_responded e goal false
  have hkept : Stops (e.responded goal false) T' := by
    refine h.kept hsame.requested (by rw [hsame.state]) fun g hg ↦ ?_
    have hphase : (e.responded goal false).phase = e.phase := phase_responded e goal false
    rw [hphase] at hg
    refine ⟨hg, Or.imp (fun h ↦ ⟨?_, ?_⟩) ?_⟩
    · rw [hphase]
      exact h.1
    · rw [hsame.requested]
      exact h.2
    · rintro (hrequested | ⟨n, hdue⟩)
      · exact .inl (hsame.cancels.symm ▸ hrequested)
      · exact .inr ⟨n, (hT _ hdue).resolve_left fun h ↦ by cases h⟩
  simp only [goalResponse, Bool.false_eq_true, if_false]
  split_ifs
  · exact hkept
  · exact Stops.of_quiesced rfl rfl
  · exact hkept

theorem stops_perform (hb : Booked e) (h : Stops e T) (hready : Ready e.phase t)
    (hT : ∀ t' ∈ T, t' = t ∨ t' ∈ T')
    (hcalled : ∀ t' ∈ (e.perform reading t).2.1, t' ∈ T') : Stops (e.perform reading t).1 T' := by
  have hchased : ∀ g, Chased e T g → Chased (e.perform reading t).1 T' g :=
    fun g hg ↦ hg.perform hT
  cases t with
  | bindGoal action =>
    simp only [perform, bindGoal] at hchased ⊢
    split_ifs at hchased ⊢
    · exact h.kept rfl Iff.rfl fun g hg ↦ ⟨hg, Or.imp_right (hchased g)⟩
    · exact Stops.of_quiesced rfl rfl
  | sendGoal goal =>
    replace hready : e.phase goal = .bound := hready
    refine h.withPhase ?_ ?_ fun t' ht' g n ↦ ?_
    · rw [hready]
      exact fun _ ↦ rfl
    · exact fun _ _ ↦ rfl
    · rintro rfl
      exact (hT _ ht').resolve_left fun h ↦ by cases h
  | clearPending goal =>
    have hsame := sameStop_clearPending e goal
    refine h.kept hsame.requested (by rw [perform, hsame.state]) fun g hg ↦ ?_
    rw [perform, phase_clearPending] at hg
    refine ⟨hg, Or.imp (fun h ↦ ?_) (hchased g)⟩
    rw [perform, phase_clearPending, hsame.requested]
    exact h
  | requestStop requestedAt => exact stops_requestStop hb h hT hcalled
  | cancelFailed action n error =>
    have hkept : ∀ g, Chased e T g → Chased e T' g :=
      fun g ↦ Or.imp_right fun ⟨n, hn⟩ ↦ ⟨n, (hT _ hn).resolve_left fun h ↦ by cases h⟩
    simp only [perform, cancelFailed]
    split_ifs with hcurrent
    · refine h.withStopState (h.requested hcurrent.2) ?_ hkept
      exact fun h ↦ by cases h
    · exact h.kept rfl Iff.rfl fun g hg ↦ ⟨hg, Or.imp_right (hkept g)⟩
  | goalResponse goal accepted =>
    cases accepted with
    | true => exact stops_accepted h hb hready hT hcalled
    | false => exact stops_rejected h hT
  | makeResultAware goal =>
    replace hready : e.phase goal = .known := hready
    refine h.withPhase ?_ ?_ fun t' ht' g n ↦ ?_
    · rw [hready]
      exact fun _ ↦ rfl
    · rw [hready]
      exact fun h ↦ by cases h
    · rintro rfl
      exact (hT _ ht').resolve_left fun h ↦ by cases h
  | pollStop now =>
    have hkept : ∀ g, Chased e T g → Chased e T' g :=
      fun g ↦ Or.imp_right fun ⟨n, hn⟩ ↦ ⟨n, (hT _ hn).resolve_left fun h ↦ by cases h⟩
    simp only [perform, pollStop]
    split_ifs with hlate
    · refine h.withStopState ?_ ?_ hkept
      · rw [hlate.1]
        exact fun h ↦ by cases h
      · exact fun h ↦ by cases h
    · exact h.kept rfl Iff.rfl fun g hg ↦ ⟨hg, Or.imp_right (hkept g)⟩
  | _ => exact h.kept rfl Iff.rfl fun g hg ↦ ⟨hg, Or.imp_right (hchased g)⟩

theorem hasUnsettledGoal_congr (hn : e'.navigate = e.navigate) (hf : e'.follow = e.follow) :
    e'.hasUnsettledGoal = e.hasUnsettledGoal := by
  rw [hasUnsettledGoal_eq, hasUnsettledGoal_eq, hn, hf]

theorem stop_kept (hb : Booked e) (hready : Ready e.phase t) (hstate : e.stopState ≠ .quiesced)
    {g : Nav2Goal} (hg : ((e.perform reading t).1.phase g).unsettled = true)
    (hold : e.phase g ≠ .unsent) : (e.perform reading t).1.stopState ≠ .quiesced := by
  have hunsettled := (booked_perform hb hready).hasUnsettledGoal hg
  cases t with
  | bindGoal action =>
    simp only [perform, bindGoal] at hg ⊢
    split_ifs at hg ⊢ with hnone
    · exact hstate
    · have hidle := hb.none_unsettled (Bool.eq_false_of_not_eq_true hnone) g
      rw [phase_bound, phase_withPhase] at hg
      split_ifs at hg with hsame
      · exact (hold (hsame ▸ hb.fresh _ (Nat.lt_succ_self _))).elim
      · cases hidle.symm.trans hg
  | clearPending goal => exact (sameStop_clearPending e goal).state ▸ hstate
  | requestStop requestedAt =>
    simp only [perform, requestStop] at hunsettled ⊢
    split_ifs at hunsettled ⊢ with hunder hnone
    · exact hstate
    · rw [hasUnsettledGoal_congr rfl rfl, Bool.not_eq_true'] at hnone
      cases hnone.symm.trans hunsettled
    · exact fun h ↦ by cases h
  | cancelFailed action n error =>
    simp only [perform, cancelFailed]
    split_ifs
    · exact fun h ↦ by cases h
    · exact hstate
  | goalResponse goal accepted =>
    have hsame := (sameStop_responded e goal accepted).state
    cases accepted with
    | true =>
      simp only [perform, goalResponse, if_true]
      split_ifs <;> exact hsame ▸ hstate
    | false =>
      simp only [perform, goalResponse, Bool.false_eq_true, if_false] at hunsettled ⊢
      split_ifs at hunsettled ⊢ with hcurrent hnone
      · exact hsame ▸ hstate
      · rw [Bool.and_eq_true, Bool.not_eq_true'] at hnone
        cases hnone.2.symm.trans hunsettled
      · exact hsame ▸ hstate
  | pollStop now =>
    simp only [perform, pollStop]
    split_ifs
    · exact fun h ↦ by cases h
    · exact hstate
  | _ => exact hstate

end Nav2RobotExecutor

end EmbodiedAgent.Simulation
