import EmbodiedAgent.Slam.GoalPlanTracker

namespace EmbodiedAgent.Slam.GoalPlans

open Library History SampledGoalPlanTracker

open scoped List

variable {hypot : Double → Double → Double} {t : SampledGoalPlanTracker}

section Buffers

variable {α : Type} {d : List (ℤ × List α)} {k g : ℤ} {v w : α} {limit : ℕ} {l : List α}

/-- The value is in the list under the key. -/
def Listed (d : List (ℤ × List α)) (g : ℤ) (v : α) : Prop := ∃ l, d.lookup g = some l ∧ v ∈ l

theorem listed_appendItem : Listed (appendItem d k v) g w ↔ Listed d g w ∨ g = k ∧ w = v := by
  rw [Listed, appendItem]
  simp only [Dictionary.lookup_setItem]
  split_ifs with h
  · subst h
    constructor
    · rintro ⟨l, hl, hw⟩
      cases hl
      rcases List.mem_append.mp hw with hw | hw
      · cases hlookup : d.lookup g with
        | none =>
          rw [hlookup] at hw
          cases hw
        | some l =>
          rw [hlookup] at hw
          exact .inl ⟨l, hlookup, hw⟩
      · exact .inr ⟨rfl, List.mem_singleton.mp hw⟩
    · rintro (⟨l, hl, hw⟩ | ⟨-, rfl⟩)
      · exact ⟨_, rfl, List.mem_append_left _ (by rw [hl]; exact hw)⟩
      · exact ⟨_, rfl, List.mem_append_right _ (.head _)⟩
  · simp [h, Listed]

theorem pushBounded_sublist (limit : ℕ) (l : List α) (v : α) :
    pushBounded limit l v <+ l ++ [v] := List.drop_sublist _ _

theorem pushBounded_length (limit : ℕ) (l : List α) (v : α) :
    (pushBounded limit l v).length ≤ limit := by
  rw [pushBounded, List.length_drop]
  omega

end Buffers

section Matching

variable {p : PendingSampledPlan} {g : ℤ}

structure Matches (hypot : Double → Double → Double) (t : SampledGoalPlanTracker)
    (p : PendingSampledPlan) (g : ℤ) (goal : Goal) : Prop where
  active : t.activeSequence = some g
  positive : 0 < t.missionSequence
  found : t.goals.lookup g = some goal
  status : activeStatus goal.status = true
  mission : goal.missionSequence = t.missionSequence
  received : p.missionSequence = 0 ∨ p.missionSequence = t.missionSequence
  near : ¬sampledPlanEndpointToleranceM <
    hypot (p.endpointX.sub goal.x) (p.endpointY.sub goal.y)
  stamp : ¬(0 < goal.startedAt.getD 0 ∧ 0 < p.pathStampS ∧
    timestampsShareClockDomain (goal.startedAt.getD 0) p.pathStampS = true ∧
    p.pathStampS < goal.startedAt.getD 0)

theorem matches_of_some (h : t.matchingActiveSequence hypot p = some g) :
    ∃ goal, Matches hypot t p g goal := by
  rw [matchingActiveSequence] at h
  cases hactive : t.activeSequence with
  | none =>
    rw [hactive] at h
    cases h
  | some sequence =>
    rw [hactive] at h
    dsimp only at h
    have hmission : ¬t.missionSequence ≤ 0 := by
      intro hle
      rw [if_pos hle] at h
      cases h
    rw [if_neg hmission] at h
    cases hgoal : t.goals.lookup sequence with
    | none =>
      rw [hgoal] at h
      cases h
    | some goal =>
      rw [hgoal] at h
      dsimp only at h
      split_ifs at h with hstatus hsame hreceived hframe hnear hstamp
      cases h
      refine ⟨goal, hactive, not_le.mp hmission, hgoal, ?_, not_not.mp hsame, ?_, hnear, hstamp⟩
      · simpa using hstatus
      · tauto

end Matching

section Replaying

variable {now : Double} {l : List PendingSampledPlan} {r : Replay} {p : PendingSampledPlan}

theorem replayOne_cases (hypot : Double → Double → Double) (t : SampledGoalPlanTracker)
    (now : Double) (r : Replay) (p : PendingSampledPlan) :
    (∃ g, t.matchingActiveSequence hypot p = some g ∧ t.replayOne hypot now r p =
      ⟨appendItem r.plans g p.path, r.retained, r.bound ++ [⟨g, p, now⟩]⟩) ∨
    t.replayOne hypot now r p =
      ⟨r.plans, pushBounded pendingSampledPlanLimit r.retained p, r.bound⟩ ∨
    t.replayOne hypot now r p = r := by
  rw [replayOne]
  cases hmatch : t.matchingActiveSequence hypot p with
  | some g => exact .inl ⟨g, rfl, rfl⟩
  | none =>
    dsimp only
    split_ifs
    · exact .inr (.inl rfl)
    · exact .inr (.inr rfl)

/-- What a replay of the waiting plans `l` makes of `r`. -/
structure Replayed (hypot : Double → Double → Double) (t : SampledGoalPlanTracker) (now : Double)
    (l : List PendingSampledPlan) (r r' : Replay) : Prop where
  bound : ∀ b ∈ r'.bound, b ∈ r.bound ∨
    b.now = now ∧ b.pending ∈ l ∧ t.matchingActiveSequence hypot b.pending = some b.sequence
  listed : ∀ g path, Listed r'.plans g path →
    Listed r.plans g path ∨ ∃ b ∈ r'.bound, b.sequence = g ∧ b.pending.path = path
  kept : ∀ b ∈ r.bound, b ∈ r'.bound
  order : r'.retained <+ r.retained ++ l
  once : r'.bound.map Binding.pending ++ r'.retained <+~
    (r.bound.map Binding.pending ++ r.retained) ++ l
  length : r.retained.length ≤ pendingSampledPlanLimit →
    r'.retained.length ≤ pendingSampledPlanLimit

theorem replayOne_replayed (hypot : Double → Double → Double) (t : SampledGoalPlanTracker)
    (now : Double) (r : Replay) (p : PendingSampledPlan) :
    Replayed hypot t now [p] r (t.replayOne hypot now r p) := by
  rcases replayOne_cases hypot t now r p with ⟨g, hmatch, heq⟩ | heq | heq
  · rw [heq]
    refine ⟨?_, ?_, fun b hb ↦ List.mem_append_left _ hb, List.sublist_append_left _ _, ?_, id⟩
    · intro b hb
      rcases List.mem_append.mp hb with hb | hb
      · exact .inl hb
      · rw [List.mem_singleton.mp hb]
        exact .inr ⟨rfl, .head _, hmatch⟩
    · intro g' path hlisted
      rcases listed_appendItem.mp hlisted with hlisted | ⟨rfl, rfl⟩
      · exact .inl hlisted
      · exact .inr ⟨_, List.mem_append_right _ (.head _), rfl, rfl⟩
    · rw [List.map_append, List.append_assoc, List.append_assoc]
      exact List.Perm.subperm (List.perm_append_comm.append_left _)
  · rw [heq]
    refine ⟨fun b hb ↦ .inl hb, fun g path h ↦ .inl h, fun b hb ↦ hb,
      pushBounded_sublist _ _ _, ?_, fun _ ↦ pushBounded_length _ _ _⟩
    rw [List.append_assoc]
    exact (List.subperm_append_left _).mpr (pushBounded_sublist _ _ _).subperm
  · rw [heq]
    exact ⟨fun b hb ↦ .inl hb, fun g path h ↦ .inl h, fun b hb ↦ hb,
      List.sublist_append_left _ _, (List.sublist_append_left _ _).subperm, id⟩

theorem Replayed.trans {l' : List PendingSampledPlan} {r' r'' : Replay}
    (h : Replayed hypot t now l r r') (h' : Replayed hypot t now l' r' r'') :
    Replayed hypot t now (l ++ l') r r'' := by
  refine ⟨?_, ?_, fun b hb ↦ h'.kept b (h.kept b hb), ?_, ?_, fun hr ↦ h'.length (h.length hr)⟩
  · intro b hb
    rcases h'.bound b hb with hb | ⟨hnow, hmem, hmatch⟩
    · rcases h.bound b hb with hb | ⟨hnow, hmem, hmatch⟩
      · exact .inl hb
      · exact .inr ⟨hnow, List.mem_append_left _ hmem, hmatch⟩
    · exact .inr ⟨hnow, List.mem_append_right _ hmem, hmatch⟩
  · intro g path hlisted
    rcases h'.listed g path hlisted with hlisted | hbound
    · rcases h.listed g path hlisted with hlisted | ⟨b, hb, hsequence⟩
      · exact .inl hlisted
      · exact .inr ⟨b, h'.kept b hb, hsequence⟩
    · exact .inr hbound
  · rw [← List.append_assoc]
    exact h'.order.trans (h.order.append_right l')
  · rw [← List.append_assoc]
    exact h'.once.trans ((List.subperm_append_right l').mpr h.once)

theorem foldl_replayed (hypot : Double → Double → Double) (t : SampledGoalPlanTracker)
    (now : Double) (l : List PendingSampledPlan) (r : Replay) :
    Replayed hypot t now l r (l.foldl (t.replayOne hypot now) r) := by
  induction l generalizing r with
  | nil =>
    exact ⟨fun b hb ↦ .inl hb, fun g path h ↦ .inl h, fun b hb ↦ hb, by simp,
      by simpa using List.Subperm.refl _, id⟩
  | cons p l ih => exact (replayOne_replayed hypot t now r p).trans (ih _)

end Replaying

section States

variable (t : SampledGoalPlanTracker)

variable (m : SessionState)

def SessionState.activeSequences : List ℤ :=
  (m.sampledNavigationGoals.filter fun item ↦ activeStatus item.status).map GoalEvidence.sequence

def SessionState.entry (g : ℤ) : Option GoalEvidence :=
  (m.sampledNavigationGoals.filter fun item ↦ item.sequence = g).getLast?

theorem foldl_noteGoal (mission : ℤ) (items : List GoalEvidence) (noted : Noted) :
    (items.foldl (noteGoal mission) noted).active = noted.active ++
      (items.filter fun item ↦ activeStatus item.status).map GoalEvidence.sequence ∧
    ∀ g item, (items.filter fun item ↦ item.sequence = g).getLast? = some item →
      (items.foldl (noteGoal mission) noted).goals.lookup g = some (goalOf mission item) := by
  induction items using List.reverseRecOn with
  | nil => exact ⟨by simp, fun g item h ↦ by cases h⟩
  | append_singleton items last ih =>
    obtain ⟨hactive, hgoals⟩ := ih
    rw [List.foldl_append, List.foldl_cons, List.foldl_nil]
    refine ⟨?_, ?_⟩
    · rw [noteGoal, hactive, List.filter_append, List.map_append]
      by_cases hstatus : activeStatus last.status = true
      · simp [hstatus]
      · simp [hstatus]
    · intro g item hitem
      rw [noteGoal, Dictionary.lookup_setItem]
      rw [List.filter_append] at hitem
      by_cases hg : g = last.sequence
      · subst hg
        rw [if_pos rfl]
        simp only [decide_true, List.filter_cons_of_pos, List.filter_nil,
          List.getLast?_concat] at hitem
        cases hitem
        rfl
      · rw [if_neg hg]
        refine hgoals g item ?_
        simpa [Ne.symm hg] using hitem

theorem noteState_mission :
    (t.noteState m).missionSequence = m.missionSequence := rfl

theorem noteState_active {g : ℤ}
    (h : (t.noteState m).activeSequence = some g) : m.activeSequences = [g] := by
  rw [noteState] at h
  dsimp only at h
  rw [(foldl_noteGoal _ _ _).1, List.nil_append] at h
  split_ifs at h with hlength
  all_goals
    obtain ⟨z, hz⟩ := List.length_eq_one_iff.mp hlength
    rw [hz] at h
    cases h
    exact hz

theorem noteState_goals {g : ℤ}
    {item : GoalEvidence} (h : m.entry g = some item) :
    (t.noteState m).goals.lookup g = some (goalOf m.missionSequence item) :=
  (foldl_noteGoal m.missionSequence m.sampledNavigationGoals _).2 g item h

theorem noteState_pending : (t.noteState m).pending <+ t.pending ∧
      ∀ g path, Listed (t.noteState m).plans g path → Listed t.plans g path := by
  rw [noteState]
  dsimp only
  split_ifs with hreset
  · rw [resetMission]
    dsimp only
    refine ⟨?_, ?_⟩
    · split_ifs
      · exact List.nil_sublist _
      · exact List.Sublist.refl _
    · rintro g path ⟨l, hl, -⟩
      cases hl
  · exact ⟨List.Sublist.refl _, fun g path h ↦ h⟩

theorem exists_entry {m : SessionState} {g : ℤ} (h : m.activeSequences = [g]) :
    ∃ item, m.entry g = some item := by
  have hg : g ∈ m.activeSequences := by rw [h]; exact .head _
  obtain ⟨item, hitem, rfl⟩ := List.mem_map.mp hg
  have hmem : item ∈ m.sampledNavigationGoals.filter fun item' ↦ item'.sequence = item.sequence :=
    List.mem_filter.mpr ⟨(List.mem_filter.mp hitem).1, decide_eq_true rfl⟩
  cases hlast : m.entry item.sequence with
  | none =>
    rw [SessionState.entry, List.getLast?_eq_none_iff] at hlast
    rw [hlast] at hmem
    cases hmem
  | some last => exact ⟨last, rfl⟩

end States

def Event.now : Event → Double
  | .updateState now _ | .observePlan now _ => now

def Event.state? : Event → Option SessionState
  | .updateState _ message => some message
  | .observePlan _ _ => none

def arrivals (t : SampledGoalPlanTracker) : Event → List PendingSampledPlan
  | .updateState _ _ => []
  | .observePlan now message =>
    match navigationPlanEndpoint message with
    | none => []
    | some endpoint => [t.pendingOf now message endpoint]

structure Handled (hypot : Double → Double → Double) (t : SampledGoalPlanTracker) (e : Event)
    (t' : SampledGoalPlanTracker) (bindings : List Binding) : Prop where
  bound : ∀ b ∈ bindings, b.now = e.now ∧ t'.matchingActiveSequence hypot b.pending =
    some b.sequence ∧
      ((∃ waiting, waiting <+ t.pending ∧ b.pending ∈ prunePending e.now waiting) ∨
        b.pending ∈ arrivals t e)
  listed : ∀ g path, Listed t'.plans g path →
    Listed t.plans g path ∨ ∃ b ∈ bindings, b.sequence = g ∧ b.pending.path = path
  order : t'.pending <+ t.pending ++ arrivals t e
  once : bindings.map Binding.pending ++ t'.pending <+~ t.pending ++ arrivals t e
  length : t'.pending.length ≤ pendingSampledPlanLimit

theorem matchingActiveSequence_congr {t' : SampledGoalPlanTracker}
    (hmission : t'.missionSequence = t.missionSequence) (hgoals : t'.goals = t.goals)
    (hactive : t'.activeSequence = t.activeSequence) (p : PendingSampledPlan) :
    t'.matchingActiveSequence hypot p = t.matchingActiveSequence hypot p := by
  rw [matchingActiveSequence, matchingActiveSequence, hmission, hgoals, hactive]

theorem updateState_handled (hypot : Double → Double → Double) (t : SampledGoalPlanTracker)
    (now : Double) (m : SessionState) : Handled hypot t (.updateState now m)
      (t.updateState hypot now m).1 (t.updateState hypot now m).2 := by
  obtain ⟨hpending, hplans⟩ := noteState_pending t m
  have hreplayed := foldl_replayed hypot (t.noteState m) now
    (prunePending now (t.noteState m).pending) ⟨(t.noteState m).plans, [], []⟩
  have hpruned : prunePending now (t.noteState m).pending <+ t.pending :=
    (List.dropWhile_sublist _).trans hpending
  rw [updateState, replayPending]
  refine ⟨?_, ?_, ?_, ?_, hreplayed.length (Nat.zero_le _)⟩
  · intro b hb
    rcases hreplayed.bound b hb with hb | ⟨hnow, hmem, hmatch⟩
    · cases hb
    · exact ⟨hnow, (matchingActiveSequence_congr rfl rfl rfl _).trans hmatch,
        Or.inl ⟨_, hpending, hmem⟩⟩
  · intro g path hlisted
    rcases hreplayed.listed g path hlisted with hlisted | hbound
    · exact .inl (hplans g path hlisted)
    · exact .inr hbound
  · rw [arrivals, List.append_nil]
    exact hreplayed.order.trans hpruned
  · rw [arrivals, List.append_nil]
    exact hreplayed.once.trans hpruned.subperm

theorem observePlan_handled (hypot : Double → Double → Double) (t : SampledGoalPlanTracker)
    (hlength : t.pending.length ≤ pendingSampledPlanLimit) (now : Double) (path : NavPath) :
    Handled hypot t (.observePlan now path) (t.observePlan hypot now path).1
      (t.observePlan hypot now path).2 := by
  rw [observePlan]
  cases hendpoint : navigationPlanEndpoint path with
  | none =>
    refine ⟨fun b hb ↦ (List.not_mem_nil hb).elim, fun g path' h ↦ .inl h, ?_, ?_, hlength⟩
    · exact List.sublist_append_left _ _
    · exact (List.sublist_append_left _ _).subperm
  | some endpoint =>
    have harrivals : arrivals t (.observePlan now path) = [t.pendingOf now path endpoint] := by
      rw [arrivals, hendpoint]
    have hsame : ({ t with navigationPlans := t.navigationPlans ++ [path] } :
        SampledGoalPlanTracker).matchingActiveSequence hypot (t.pendingOf now path endpoint) =
        t.matchingActiveSequence hypot (t.pendingOf now path endpoint) :=
      matchingActiveSequence_congr rfl rfl rfl _
    dsimp only
    rw [hsame]
    cases hmatch : t.matchingActiveSequence hypot (t.pendingOf now path endpoint) with
    | none =>
      dsimp only
      have hpushed := pushBounded_sublist pendingSampledPlanLimit (prunePending now t.pending)
        (t.pendingOf now path endpoint)
      have hpruned := hpushed.trans ((List.dropWhile_sublist _).append_right
        [t.pendingOf now path endpoint])
      refine ⟨fun b hb ↦ (List.not_mem_nil hb).elim, fun g path' h ↦ .inl h, ?_, ?_,
        pushBounded_length _ _ _⟩
      · rw [harrivals]
        exact hpruned
      · rw [harrivals]
        exact hpruned.subperm
    | some g =>
      refine ⟨?_, ?_, List.sublist_append_left _ _, ?_, hlength⟩
      · intro b hb
        rw [List.mem_singleton.mp hb, harrivals]
        exact ⟨rfl, (matchingActiveSequence_congr rfl rfl rfl _).trans hmatch,
          Or.inr (.head _)⟩
      · intro g' path' hlisted
        rcases listed_appendItem.mp hlisted with hlisted | ⟨rfl, rfl⟩
        · exact .inl hlisted
        · exact .inr ⟨_, .head _, rfl, rfl⟩
      · rw [harrivals]
        have hperm : (t.pendingOf now path endpoint :: t.pending).Perm
            (t.pending ++ [t.pendingOf now path endpoint]) :=
          (List.perm_append_singleton _ _).symm
        exact hperm.subperm

end EmbodiedAgent.Slam.GoalPlans
