import EmbodiedAgent.Slam.PlanAssociations

namespace EmbodiedAgent.Slam.GoalPlans

open Library History SampledGoalPlanTracker

open scoped List

variable {hypot : Double → Double → Double} {h : List Event}

/-- The tracker after some calls. -/
def track (hypot : Double → Double → Double) (h : List Event) : SampledGoalPlanTracker :=
  run (step hypot) {} h

def bindings (hypot : Double → Double → Double) (h : List Event) : List Binding :=
  collect (step hypot) (fun t e ↦ (step hypot t e).2) {} h

def received (hypot : Double → Double → Double) (h : List Event) : List PendingSampledPlan :=
  collect (step hypot) arrivals {} h

def states (h : List Event) : List SessionState := h.filterMap Event.state?

def lastState (h : List Event) : Option SessionState := (states h).getLast?

def currentMission (h : List Event) : ℤ :=
  match lastState h with
  | none => 0
  | some m => m.missionSequence

theorem lastState_snoc (h : List Event) (e : Event) :
    lastState (h ++ [e]) = match e.state? with
      | none => lastState h
      | some m => some m := by
  rw [lastState, states, List.filterMap_append]
  cases hstate : e.state? with
  | none => simp [hstate, lastState, states]
  | some m => simp [hstate]

theorem track_snoc (h : List Event) (e : Event) :
    track hypot (h ++ [e]) = (step hypot (track hypot h) e).1 := run_snoc _ _ _ _

theorem step_handled (t : SampledGoalPlanTracker)
    (hlength : t.pending.length ≤ pendingSampledPlanLimit) (e : Event) :
    Handled hypot t e (step hypot t e).1 (step hypot t e).2 := by
  cases e with
  | updateState now m => exact updateState_handled hypot t now m
  | observePlan now path => exact observePlan_handled hypot t hlength now path

theorem track_length (h : List Event) : (track hypot h).pending.length ≤ pendingSampledPlanLimit :=
  run_preserves (step hypot) (I := fun t ↦ t.pending.length ≤ pendingSampledPlanLimit)
    (fun t e ht ↦ (step_handled t ht e).length) (Nat.zero_le _) h

theorem track_handled (h : List Event) (e : Event) :
    Handled hypot (track hypot h) e (track hypot (h ++ [e])) (step hypot (track hypot h) e).2 := by
  rw [track_snoc]
  exact step_handled _ (track_length h) e

variable (hypot) in
theorem observePlan_frame (t : SampledGoalPlanTracker) (now : Double) (path : NavPath) :
    (t.observePlan hypot now path).1.missionSequence = t.missionSequence ∧
      (t.observePlan hypot now path).1.activeSequence = t.activeSequence ∧
      (t.observePlan hypot now path).1.goals = t.goals := by
  rw [observePlan]
  cases navigationPlanEndpoint path with
  | none => exact ⟨rfl, rfl, rfl⟩
  | some endpoint =>
    dsimp only
    split
    · exact ⟨rfl, rfl, rfl⟩
    · exact ⟨rfl, rfl, rfl⟩

structure Reported (h : List Event) (t : SampledGoalPlanTracker) : Prop where
  mission : t.missionSequence = currentMission h
  active : ∀ g, t.activeSequence = some g → ∃ m, lastState h = some m ∧
    m.activeSequences = [g] ∧ ∀ item, m.entry g = some item →
      t.goals.lookup g = some (goalOf m.missionSequence item)

variable (hypot) in
theorem track_reported (h : List Event) : Reported h (track hypot h) := by
  refine run_induction (step hypot) (I := Reported) ⟨rfl, fun g hg ↦ by cases hg⟩ ?_ h
  intro h e ih
  have hlast := lastState_snoc h e
  cases e with
  | updateState now m =>
    refine ⟨?_, ?_⟩
    · rw [currentMission, hlast]
      exact noteState_mission (run (step hypot) {} h) m
    · intro g hg
      exact ⟨m, hlast, noteState_active (run (step hypot) {} h) m hg,
        fun item hitem ↦ noteState_goals _ m hitem⟩
  | observePlan now path =>
    obtain ⟨hmission, hactive, hgoals⟩ :=
      observePlan_frame hypot (run (step hypot) {} h) now path
    refine ⟨?_, ?_⟩
    · rw [currentMission, hlast]
      exact hmission.trans ih.mission
    · intro g hg
      obtain ⟨m, hm, hsingle, hentry⟩ := ih.active g (hactive.symm.trans hg)
      refine ⟨m, hlast.trans hm, hsingle, ?_⟩
      intro item hitem
      exact (congrArg (List.lookup g) hgoals).trans (hentry item hitem)

theorem track_pending (h : List Event) : (track hypot h).pending <+ received hypot h := by
  have horder := in_order (step hypot)
    (I := fun t ↦ t.pending.length ≤ pendingSampledPlanLimit)
    (fun t e ht ↦ (step_handled t ht e).length) SampledGoalPlanTracker.pending arrivals
    (fun _ _ ↦ []) (fun t e ht ↦ (step_handled t ht e).order)
    (s := {}) (Nat.zero_le _) h
  have hnone : collect (step hypot) (fun _ _ ↦ ([] : List PendingSampledPlan)) {} h = [] := by
    refine List.eq_nil_iff_forall_not_mem.mpr ?_
    intro p hp
    obtain ⟨pre, e, post, -, hmem⟩ := (mem_collect _ _).mp hp
    exact List.not_mem_nil hmem
  rw [hnone] at horder
  exact horder

theorem mem_received {p : PendingSampledPlan} (hp : p ∈ received hypot h) :
    ∃ pre now path post endpoint, h = pre ++ .observePlan now path :: post ∧
      navigationPlanEndpoint path = some endpoint ∧
      p = (track hypot pre).pendingOf now path endpoint := by
  obtain ⟨pre, e, post, hsplit, hmem⟩ := (mem_collect _ _).mp hp
  cases e with
  | updateState now m => cases hmem
  | observePlan now path =>
    rw [arrivals] at hmem
    cases hendpoint : navigationPlanEndpoint path with
    | none =>
      rw [hendpoint] at hmem
      cases hmem
    | some endpoint =>
      rw [hendpoint] at hmem
      exact ⟨pre, now, path, post, endpoint, hsplit, hendpoint, List.mem_singleton.mp hmem⟩

theorem received_snoc (h : List Event) (e : Event) :
    received hypot (h ++ [e]) = received hypot h ++ arrivals (track hypot h) e :=
  collect_snoc _ _ _ _ _

variable (hypot) in
theorem bindings_once (h : List Event) :
    (bindings hypot h).map Binding.pending <+~ received hypot h := by
  have hmost := at_most (step hypot)
    (I := fun t ↦ t.pending.length ≤ pendingSampledPlanLimit)
    (fun t e ht ↦ (step_handled t ht e).length) SampledGoalPlanTracker.pending arrivals
    (fun t e ↦ (step hypot t e).2.map Binding.pending)
    (fun t e ht ↦ (step_handled t ht e).once) (s := {}) (Nat.zero_le _) h
  rw [← map_collect] at hmost
  exact (List.sublist_append_left _ _).subperm.trans hmost

theorem exists_binding {g : ℤ} {path : NavPath} (hlisted : Listed (track hypot h).plans g path) :
    ∃ pre e post, h = pre ++ e :: post ∧ ∃ b ∈ (step hypot (track hypot pre) e).2,
      b.sequence = g ∧ b.pending.path = path := by
  induction h using List.reverseRecOn with
  | nil =>
    obtain ⟨l, hl, -⟩ := hlisted
    cases hl
  | append_singleton h e ih =>
    rcases (track_handled h e).listed g path hlisted with hlisted | ⟨b, hb, hg, hpath⟩
    · obtain ⟨pre, d, post, rfl, hbound⟩ := ih hlisted
      exact ⟨pre, d, post ++ [e], by rw [List.append_assoc, List.cons_append], hbound⟩
    · exact ⟨h, e, [], rfl, b, hb, hg, hpath⟩

section Freshness

variable {now : Double} {l : List PendingSampledPlan}

theorem sub_le_sub {r r' n : Double} (hr : r.isFinite = true) (hr' : r'.isFinite = true)
    (hn : n.isFinite = true) (h : r ≤ r') (h' : r' ≤ n) : n.sub r' ≤ n.sub r := by
  obtain ⟨a, ha, rfl⟩ := Double.eq_finite_of_isFinite hr
  obtain ⟨b, hb, rfl⟩ := Double.eq_finite_of_isFinite hr'
  obtain ⟨c, hc, rfl⟩ := Double.eq_finite_of_isFinite hn
  rw [Double.sub_finite, Double.sub_finite]
  exact Double.ofRat_mono (sub_nonneg.mpr (Double.finite_le_finite.mp h'))
    (sub_le_sub_left (Double.finite_le_finite.mp h) c)

theorem sub_ne_nan {r n : Double} (hr : r.isFinite = true) (hn : n.isFinite = true) :
    n.sub r ≠ .nan := by
  obtain ⟨a, ha, rfl⟩ := Double.eq_finite_of_isFinite hr
  obtain ⟨c, hc, rfl⟩ := Double.eq_finite_of_isFinite hn
  exact Double.ofRat_ne_nan _

theorem ttl_ne_nan : pendingSampledPlanTtlS ≠ .nan := Double.ofRat_ne_nan 4

theorem prunePending_recent (hsorted : (l.map PendingSampledPlan.receivedAtS).Pairwise (· ≤ ·))
    (hfinite : ∀ p ∈ l, p.receivedAtS.isFinite = true) (hnow : now.isFinite = true)
    (hpast : ∀ p ∈ l, p.receivedAtS ≤ now) {p : PendingSampledPlan}
    (hp : p ∈ prunePending now l) : now.sub p.receivedAtS ≤ pendingSampledPlanTtlS := by
  induction l with
  | nil => cases hp
  | cons first l ih =>
    rw [prunePending, List.dropWhile_cons] at hp
    rw [List.map_cons, List.pairwise_cons] at hsorted
    split_ifs at hp with hold
    · exact ih hsorted.2 (fun q hq ↦ hfinite q (.tail _ hq)) (fun q hq ↦ hpast q (.tail _ hq)) hp
    · have hfresh : now.sub first.receivedAtS ≤ pendingSampledPlanTtlS :=
        (Double.le_iff_not_lt (sub_ne_nan (hfinite first (.head _)) hnow)
          ttl_ne_nan).mpr (by simpa using hold)
      rcases List.mem_cons.mp hp with rfl | hp
      · exact hfresh
      · refine Double.le_trans ?_ hfresh
        exact sub_le_sub (hfinite first (.head _)) (hfinite p (.tail _ hp)) hnow
          (hsorted.1 _ (List.mem_map_of_mem hp)) (hpast p (.tail _ hp))

end Freshness

def observed (h : List Event) : List NavPath :=
  h.filterMap fun
    | .updateState _ _ => none
    | .observePlan _ path => (navigationPlanEndpoint path).map fun _ ↦ path

variable (hypot) in
theorem received_path (h : List Event) :
    (received hypot h).map PendingSampledPlan.path = observed h := by
  induction h using List.reverseRecOn with
  | nil => rfl
  | append_singleton h e ih =>
    rw [received_snoc, List.map_append, ih, observed, observed, List.filterMap_append]
    congr 1
    cases e with
    | updateState now m => rfl
    | observePlan now path =>
      rw [arrivals]
      cases hendpoint : navigationPlanEndpoint path with
      | none => simp [hendpoint]
      | some endpoint => simp [hendpoint, pendingOf]

/-- Why the plan `b` is bound by the call `e`; `m` is the last message before it. -/
structure Justified (hypot : Double → Double → Double) (pre : List Event) (e : Event)
    (b : Binding) (m : SessionState) (goal : GoalEvidence) (before : List Event)
    (receivedAt : Double) (endpoint : Double × Double) : Prop where
  message : lastState (pre ++ [e]) = some m
  positive : 0 < m.missionSequence
  onlyActive : m.activeSequences = [b.sequence]
  entry : m.entry b.sequence = some goal
  status : activeStatus goal.status = true
  arrival : ∃ post, pre ++ [e] = before ++ .observePlan receivedAt b.pending.path :: post
  ends : navigationPlanEndpoint b.pending.path = some endpoint
  near : hypot (endpoint.1.sub goal.x) (endpoint.2.sub goal.y) ≤ sampledPlanEndpointToleranceM
  stamp : timestampsShareClockDomain ((goal.startedAt.map rosTimestampS).getD 0)
    (rosTimestampS b.pending.path.stamp) = true →
      ¬rosTimestampS b.pending.path.stamp < (goal.startedAt.map rosTimestampS).getD 0
  recent : e.now.sub receivedAt ≤ pendingSampledPlanTtlS
  mission : currentMission before = m.missionSequence ∨
    ∀ m' ∈ states before, m'.missionSequence ≤ 0

variable (hypot) in
theorem received_times (h : List Event) :
    (received hypot h).map PendingSampledPlan.receivedAtS <+ h.map Event.now := by
  induction h using List.reverseRecOn with
  | nil => exact List.Sublist.refl _
  | append_singleton h e ih =>
    rw [received_snoc, List.map_append, List.map_append]
    refine ih.append ?_
    cases e with
    | updateState now m => exact List.nil_sublist _
    | observePlan now path =>
      rw [arrivals]
      cases navigationPlanEndpoint path with
      | none => exact List.nil_sublist _
      | some endpoint => exact List.Sublist.refl _

theorem sub_self_le {n : Double} (hn : n.isFinite = true) : n.sub n ≤ pendingSampledPlanTtlS := by
  obtain ⟨c, hc, rfl⟩ := Double.eq_finite_of_isFinite hn
  rw [Double.sub_finite, sub_self]
  decide +kernel

theorem states_append (h h' : List Event) : states (h ++ h') = states h ++ states h' :=
  List.filterMap_append

theorem mem_states_of_last {m : SessionState} (hm : lastState h = some m) : m ∈ states h :=
  List.mem_of_getLast? hm

theorem mem_of_entry {m : SessionState} {g : ℤ} {item : GoalEvidence}
    (hitem : m.entry g = some item) : item ∈ m.sampledNavigationGoals :=
  (List.mem_filter.mp (List.mem_of_getLast? hitem)).1

theorem mem_observed {pre post : List Event} {now : Double} {path : NavPath}
    {endpoint : Double × Double} (hsplit : h = pre ++ .observePlan now path :: post)
    (hendpoint : navigationPlanEndpoint path = some endpoint) : path ∈ observed h := by
  subst hsplit
  refine List.mem_filterMap.mpr ⟨.observePlan now path, by simp, ?_⟩
  simp [hendpoint]

theorem stamp_of_matches {started stamp : Double}
    (h : ¬(0 < started ∧ 0 < stamp ∧ timestampsShareClockDomain started stamp = true ∧
      stamp < started)) (hshare : timestampsShareClockDomain started stamp = true) :
    ¬stamp < started := by
  intro hless
  have hset : ¬(started ≤ 0 ∨ stamp ≤ 0) := by
    intro hunset
    rw [timestampsShareClockDomain, if_pos hunset] at hshare
    cases hshare
  rw [not_or] at hset
  have hstamp : stamp ≠ .nan := by
    rintro rfl
    cases hless
  have hzero : (0 : Double) ≠ .nan := by decide
  exact h ⟨Double.lt_of_not_le (Double.ne_nan_of_lt hless) hzero hset.1,
    Double.lt_of_not_le hstamp hzero hset.2, hshare, hless⟩

/-- The plans are associated as they should be. -/
structure Sound (hypot : Double → Double → Double) (h : List Event) : Prop where
  plans : ∀ g path, Listed (track hypot h).plans g path →
    ∃ pre e post, h = pre ++ e :: post ∧ ∃ b ∈ (step hypot (track hypot pre) e).2,
      b.sequence = g ∧ b.pending.path = path ∧
        ∃ m goal before receivedAt endpoint,
          Justified hypot pre e b m goal before receivedAt endpoint
  once : (bindings hypot h).map (fun b ↦ b.pending.path) <+~ observed h
  limit : (track hypot h).pending.length ≤ pendingSampledPlanLimit

structure Regular (hypot : Double → Double → Double) (h : List Event) : Prop where
  ordered : (h.map Event.now).Pairwise (· ≤ ·)
  finite : ∀ e ∈ h, e.now.isFinite = true
  measured : ∀ path ∈ observed h, ∀ endpoint, navigationPlanEndpoint path = some endpoint →
    ∀ m ∈ states h, ∀ goal ∈ m.sampledNavigationGoals,
      hypot (endpoint.1.sub goal.x) (endpoint.2.sub goal.y) ≠ .nan
  settled : ∀ pre now path post, h = pre ++ .observePlan now path :: post →
    navigationPlanEndpoint path ≠ none → currentMission pre = 0 →
      ∀ m ∈ states pre, m.missionSequence ≤ 0

theorem origin_of_bound (hregular : Regular hypot h) {pre post : List Event} {e : Event}
    (hsplit : h = pre ++ e :: post) {b : Binding} (hb : b ∈ (step hypot (track hypot pre) e).2) :
    ∃ before receivedAt rest endpoint,
      pre ++ [e] = before ++ .observePlan receivedAt b.pending.path :: rest ∧
        navigationPlanEndpoint b.pending.path = some endpoint ∧
        b.pending = (track hypot before).pendingOf receivedAt b.pending.path endpoint ∧
        e.now.sub receivedAt ≤ pendingSampledPlanTtlS := by
  have hfinite : ∀ d ∈ pre ++ [e], d.now.isFinite = true := by
    intro d hd
    refine hregular.finite d ?_
    rw [hsplit, List.append_cons]
    exact List.mem_append_left _ hd
  have hnow : e.now.isFinite = true := hfinite e (by simp)
  have hordered := hregular.ordered
  rw [hsplit, List.map_append, List.map_cons, List.pairwise_append] at hordered
  have htimes := received_times hypot pre
  obtain ⟨-, -, ⟨waiting, hwaiting, hmem⟩ | hmem⟩ := (track_handled pre e).bound b hb
  · have hsublist := hwaiting.trans (track_pending pre)
    have hall : ∀ p ∈ waiting, p.receivedAtS ∈ pre.map Event.now :=
      fun p hp ↦ htimes.subset (List.mem_map_of_mem (hsublist.subset hp))
    have hrecent := prunePending_recent
      (hordered.1.sublist ((hsublist.map PendingSampledPlan.receivedAtS).trans htimes))
      (fun p hp ↦ by
        obtain ⟨d, hd, htime⟩ := List.mem_map.mp (hall p hp)
        exact htime ▸ hfinite d (List.mem_append_left _ hd))
      hnow (fun p hp ↦ hordered.2.2 _ (hall p hp) _ (.head _)) hmem
    have hreceived := hsublist.subset ((List.dropWhile_sublist _).subset hmem)
    obtain ⟨before, receivedAt, path, rest, endpoint, rfl, hendpoint, heq⟩ :=
      mem_received hreceived
    have hpath : b.pending.path = path := by rw [heq]; rfl
    refine ⟨before, receivedAt, rest ++ [e], endpoint, ?_, ?_, ?_, ?_⟩
    · rw [hpath, List.append_assoc, List.cons_append]
    · rw [hpath]
      exact hendpoint
    · rw [hpath]
      exact heq
    · rw [heq] at hrecent
      exact hrecent
  · cases e with
    | updateState now m => cases hmem
    | observePlan now path =>
      rw [arrivals] at hmem
      cases hendpoint : navigationPlanEndpoint path with
      | none =>
        rw [hendpoint] at hmem
        cases hmem
      | some endpoint =>
        rw [hendpoint] at hmem
        have heq := List.mem_singleton.mp hmem
        have hpath : b.pending.path = path := by rw [heq]; rfl
        refine ⟨pre, now, [], endpoint, ?_, ?_, ?_, sub_self_le hnow⟩
        · rw [hpath]
        · rw [hpath]
          exact hendpoint
        · rw [hpath]
          exact heq

/-- Every association of a regular run is sound. -/
theorem sound_of_regular (hregular : Regular hypot h) : Sound hypot h := by
  refine ⟨?_, ?_, track_length h⟩
  · intro g path hlisted
    obtain ⟨pre, e, post, hsplit, b, hb, hg, hpath⟩ := exists_binding hlisted
    refine ⟨pre, e, post, hsplit, b, hb, hg, hpath, ?_⟩
    obtain ⟨before, receivedAt, rest, endpoint, hbefore, hends, hpending, hrecent⟩ :=
      origin_of_bound hregular hsplit hb
    obtain ⟨-, hmatch, -⟩ := (track_handled pre e).bound b hb
    obtain ⟨goal, hmatches⟩ := matches_of_some hmatch
    have hreported := track_reported hypot (pre ++ [e])
    obtain ⟨m, hlast, hsingle, hentries⟩ := hreported.active _ hmatches.active
    obtain ⟨item, hitem⟩ := exists_entry hsingle
    have hgoal : goal = goalOf m.missionSequence item :=
      Option.some.inj (hmatches.found.symm.trans (hentries item hitem))
    have hmission : (track hypot (pre ++ [e])).missionSequence = m.missionSequence := by
      rw [hreported.mission, currentMission, hlast]
    have hwhole : h = before ++ .observePlan receivedAt b.pending.path :: (rest ++ post) := by
      rw [hsplit, List.append_cons, hbefore, List.append_assoc, List.cons_append]
    have hstates : m ∈ states h := by
      rw [hsplit, List.append_cons, states_append]
      exact List.mem_append_left _ (mem_states_of_last hlast)
    subst hgoal
    have hX : b.pending.endpointX = endpoint.1 := by rw [hpending]; rfl
    have hY : b.pending.endpointY = endpoint.2 := by rw [hpending]; rfl
    have hstamp : b.pending.pathStampS = rosTimestampS b.pending.path.stamp := by
      rw [hpending]; rfl
    have hseen : b.pending.missionSequence = currentMission before := by
      rw [hpending, ← (track_reported hypot before).mission]; rfl
    have hnear := hmatches.near
    rw [hX, hY] at hnear
    refine ⟨m, item, before, receivedAt, endpoint,
      { message := hlast
        positive := hmission ▸ hmatches.positive
        onlyActive := hsingle
        entry := hitem
        status := hmatches.status
        arrival := ⟨rest, hbefore⟩
        ends := hends
        near := ?_
        stamp := ?_
        recent := hrecent
        mission := ?_ }⟩
    · exact (Double.le_iff_not_lt (hregular.measured _ (mem_observed hwhole hends) endpoint hends m
        hstates item (mem_of_entry hitem)) (Double.ofRat_ne_nan _)).mpr hnear
    · rw [← hstamp]
      exact stamp_of_matches hmatches.stamp
    · rcases hmatches.received with hzero | hsame
      · refine .inr ?_
        exact hregular.settled before receivedAt b.pending.path (rest ++ post) hwhole
          (by rw [hends]; exact Option.some_ne_none _) (hseen.symm.trans hzero)
      · exact .inl (hseen.symm.trans (hsame.trans hmission))
  · obtain ⟨l, hperm, hsublist⟩ := bindings_once hypot h
    have hpaths := hperm.map PendingSampledPlan.path
    rw [List.map_map] at hpaths
    rw [← received_path hypot]
    exact ⟨_, hpaths, hsublist.map PendingSampledPlan.path⟩

/-- A plan that ends at the origin of the map. -/
def homePlan : NavPath := ⟨"map", ⟨3, 0⟩, [⟨"", 0, 0⟩]⟩

def homeGoal : GoalEvidence := ⟨7, 0, 0, "map", statusExecuting, none⟩

/-- A distance that is exact on each axis. -/
def taxicab (x y : Double) : Double := x.abs.add y.abs

theorem early_plan_sound : Listed (track taxicab
      [.observePlan 0 homePlan, .updateState 0 ⟨1, [homeGoal]⟩]).plans 7 homePlan ∧
    Sound taxicab [.observePlan 0 homePlan, .updateState 0 ⟨1, [homeGoal]⟩] := by
  refine ⟨⟨[homePlan], by decide +kernel, .head _⟩, sound_of_regular ?_⟩
  refine ⟨by decide +kernel, by decide +kernel, ?_, ?_⟩
  · intro path hpath endpoint hendpoint m hm goal hgoal
    have hobserved : path = homePlan := by
      have heq : observed [.observePlan 0 homePlan, .updateState 0 ⟨1, [homeGoal]⟩] =
          [homePlan] := by decide +kernel
      rw [heq] at hpath
      exact List.mem_singleton.mp hpath
    subst hobserved
    have hend : endpoint = (0, 0) := Option.some.inj (hendpoint.symm.trans (by decide))
    have hstate : m = ⟨1, [homeGoal]⟩ := List.mem_singleton.mp hm
    subst hend
    subst hstate
    rw [List.mem_singleton.mp hgoal]
    decide +kernel
  · intro pre now path post hsplit _ _
    cases pre with
    | nil =>
      intro m hm
      cases hm
    | cons first pre =>
      cases pre with
      | nil => simp at hsplit
      | cons second pre => simp at hsplit

/-- A plan that arrives between two missions is bound to a goal of the later one. -/
theorem stale_plan_bound : ¬Sound taxicab
    [.updateState 0 ⟨1, []⟩, .updateState 0 ⟨0, []⟩, .observePlan 0 homePlan,
      .updateState 0 ⟨2, [homeGoal]⟩] := by
  intro hsound
  obtain ⟨pre, e, post, hsplit, b, -, -, hpath, m, goal, before, receivedAt, endpoint,
    hjustified⟩ := hsound.plans 7 homePlan ⟨[homePlan], by decide +kernel, .head _⟩
  obtain ⟨rest, harrival⟩ := hjustified.arrival
  rw [List.append_cons, harrival, List.append_assoc, List.cons_append] at hsplit
  have hbefore : before = [.updateState 0 ⟨1, []⟩, .updateState 0 ⟨0, []⟩] := by
    rcases before with _ | ⟨e₁, _ | ⟨e₂, _ | ⟨e₃, _ | ⟨e₄, before⟩⟩⟩⟩
    · simp at hsplit
    · simp at hsplit
    · simp only [List.cons_append, List.nil_append, List.cons.injEq] at hsplit
      rw [hsplit.1, hsplit.2.1]
    · simp at hsplit
    · simp at hsplit
  subst hbefore
  rcases hjustified.mission with hmission | hmission
  · exact absurd hjustified.positive (by rw [← hmission]; decide)
  · exact absurd (hmission ⟨1, []⟩ (.head _)) (by decide)

end EmbodiedAgent.Slam.GoalPlans
