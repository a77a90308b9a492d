import EmbodiedAgent.Library.History
import EmbodiedAgent.Slam.MappedGoalSampler

namespace EmbodiedAgent.Slam.StageInputs

open Library MappedGoalSampler

/-- What the node reads of a map message. The orientation is x, y, z and w. -/
structure OccupancyGrid (K : Type*) where
  width : ℕ
  height : ℕ
  resolution : K
  origin : Point2D K
  orientation : K × K × K × K
  data : List ℤ

/-- What a stage has published. The message itself does not say which stage that was. -/
structure Published (α : Type*) where
  stage : ℕ
  content : α

section Snapshots

variable {K : Type*} [Field K] [LinearOrder K]

def tilt : K := ((1000000 : ℕ) : K)⁻¹

def occupancySnapshotFromMessage (message : OccupancyGrid K) :
    Except String (OccupancySnapshot K) :=
  let (x, y, z, w) := message.orientation
  if tilt < |x| ∨ tilt < |y| then
    .error "occupancy map origin roll/pitch is unsupported"
  else if tilt < |z| ∨ tilt < |w - 1| then
    .error "occupancy map origin yaw must be zero"
  else if hsize : 0 < message.width ∧ 0 < message.height then
    if hresolution : 0 < message.resolution then
      if hcells : message.data.length = message.width * message.height then
        .ok ⟨message.width, message.height, message.resolution, message.origin, message.data,
          hsize.1, hsize.2, hresolution, hcells⟩
      else .error "occupancy cell count does not match dimensions"
    else .error "occupancy resolution must be positive"
  else .error "occupancy dimensions must be positive"

end Snapshots

structure NavigationInputs (K : Type*) [Zero K] [LT K] where
  enabled : Bool := false
  generation : ℤ := 0
  latestOccupancy : Option (Published (OccupancySnapshot K)) := none
  latestOccupancyGeneration : ℤ := -1
  latestMapPoseXy : Option (Published (Point2D K)) := none
  latestMapPoseGeneration : ℤ := -1

namespace NavigationInputs

variable {K : Type*} [Field K] [LinearOrder K] (s : NavigationInputs K)

def onMap (snapshot : Published (OccupancySnapshot K)) : NavigationInputs K :=
  if s.enabled then
    { s with latestOccupancy := some snapshot, latestOccupancyGeneration := s.generation }
  else s

def onAmclPose (pose : Published (Point2D K)) : NavigationInputs K :=
  if s.enabled then
    { s with latestMapPoseXy := some pose, latestMapPoseGeneration := s.generation }
  else s

def switchGeneration : NavigationInputs K where
  generation := s.generation + 1

/-- What a goal selection gets, if it does not wait on. -/
def forSelection : Option (Published (OccupancySnapshot K) × Published (Point2D K)) :=
  match s.latestOccupancy, s.latestMapPoseXy with
  | some occupancy, some startXy =>
    if s.latestOccupancyGeneration ≠ s.generation ∨ s.latestMapPoseGeneration ≠ s.generation then
      none
    else some (occupancy, startXy)
  | _, _ => none

structure OwnedBy (owner : Option ℕ) : Prop where
  occupancy : ∀ snapshot, s.latestOccupancy = some snapshot →
    s.latestOccupancyGeneration = s.generation → owner = some snapshot.stage
  pose : ∀ pose, s.latestMapPoseXy = some pose →
    s.latestMapPoseGeneration = s.generation → owner = some pose.stage

variable {s} {owner : Option ℕ}

theorem OwnedBy.selected (hs : s.OwnedBy owner)
    {selected : Published (OccupancySnapshot K) × Published (Point2D K)}
    (hselected : s.forSelection = some selected) :
    owner = some selected.1.stage ∧ owner = some selected.2.stage := by
  unfold forSelection at hselected
  split at hselected
  next occupancy startXy hoccupancy hpose =>
    split_ifs at hselected with hgeneration
    obtain rfl := Option.some.inj hselected
    rw [not_or, not_not, not_not] at hgeneration
    exact ⟨hs.occupancy _ hoccupancy hgeneration.1, hs.pose _ hpose hgeneration.2⟩
  next => exact absurd hselected (by simp)

theorem ownedBy_onMap (hs : s.OwnedBy owner) (snapshot : Published (OccupancySnapshot K)) :
    (s.onMap snapshot).OwnedBy owner ↔ (s.enabled = true → owner = some snapshot.stage) := by
  unfold onMap
  split_ifs with henabled
  · constructor
    · intro hstored _
      exact hstored.occupancy snapshot rfl rfl
    · intro howner
      refine ⟨?_, hs.pose⟩
      rintro stored hstored -
      rw [← Option.some.inj hstored]
      exact howner henabled
  · exact ⟨fun _ hopen ↦ absurd hopen henabled, fun _ ↦ hs⟩

theorem ownedBy_onAmclPose (hs : s.OwnedBy owner) (pose : Published (Point2D K)) :
    (s.onAmclPose pose).OwnedBy owner ↔ (s.enabled = true → owner = some pose.stage) := by
  unfold onAmclPose
  split_ifs with henabled
  · constructor
    · intro hstored _
      exact hstored.pose pose rfl rfl
    · intro howner
      refine ⟨hs.occupancy, ?_⟩
      rintro stored hstored -
      rw [← Option.some.inj hstored]
      exact howner henabled
  · exact ⟨fun _ hopen ↦ absurd hopen henabled, fun _ ↦ hs⟩

theorem ownedBy_switchGeneration : s.switchGeneration.OwnedBy owner := by
  constructor
  · intro snapshot hsnapshot
    exact absurd hsnapshot (by simp [switchGeneration])
  · intro pose hpose
    exact absurd hpose (by simp [switchGeneration])

theorem OwnedBy.adopt (hs : s.OwnedBy none) : s.OwnedBy owner := by
  constructor
  · intro snapshot hsnapshot hgeneration
    exact absurd (hs.occupancy snapshot hsnapshot hgeneration) (by simp)
  · intro pose hpose hgeneration
    exact absurd (hs.pose pose hpose hgeneration) (by simp)

theorem OwnedBy.withEnabled (hs : s.OwnedBy owner) (enabled : Bool) :
    ({ s with enabled } : NavigationInputs K).OwnedBy owner :=
  ⟨hs.occupancy, hs.pose⟩

end NavigationInputs

/-- Where `start_navigation` stands, by the operation that comes next. -/
inductive SwitchPoint
  | holding
  | stopping
  | replacing
  | preparing
  | opening
  | starting
  | waiting
  | failing (stageReplaced canceled : Bool)
  | cleaning

inductive Outcome
  | done
  | canceled
  | failed
  deriving DecidableEq

/-- Stages are numbered in the order in which they are started. -/
structure World (K : Type*) [Zero K] [LT K] where
  inputs : NavigationInputs K := {}
  switch : Option SwitchPoint := none
  started : ℕ := 0
  running : Option ℕ := none
  owner : Option ℕ := none
  maps : List (Published (OccupancyGrid K)) := []
  poses : List (Published (Point2D K)) := []
  mapCallbacks : List (Published (OccupancySnapshot K)) := []
  poseCallbacks : List (Published (Point2D K)) := []

inductive Event (K : Type*)
  | startMapping
  | stageExits
  | publishMap (message : OccupancyGrid K)
  | publishPose (position : Point2D K)
  | loseMap (i : ℕ)
  | losePose (i : ℕ)
  | receiveMap (i : ℕ)
  | receivePose (i : ℕ)
  | lockMap (i : ℕ)
  | lockPose (i : ℕ)
  | startNavigation
  | proceed (outcome : Outcome)

namespace World

variable {K : Type*} [Field K] [LinearOrder K]

section Steps

variable (persistent authorityTransaction : Bool) (w : World K)

def follow (point : SwitchPoint) (stageReplaced : Bool) : Outcome → World K
  | .done => { w with switch := some point }
  | .canceled => { w with switch := some (.failing stageReplaced true) }
  | .failed => { w with switch := some (.failing stageReplaced false) }

/-- The next operation of `start_navigation`. -/
def proceed (outcome : Outcome) : World K :=
  match w.switch with
  | none => w
  | some .holding => w.follow .stopping false outcome
  | some .stopping =>
    let w' := w.follow .replacing persistent outcome
    if outcome = .done then { w' with running := none } else w'
  | some .replacing =>
    { w with inputs := w.inputs.switchGeneration, owner := none, switch := some .preparing }
  | some .preparing => w.follow .opening persistent outcome
  | some .opening =>
    { w with inputs := { w.inputs with enabled := true }, switch := some .starting }
  | some .starting =>
    let w' := w.follow .waiting persistent outcome
    if outcome = .done then
      { w' with running := some w.started, owner := some w.started, started := w.started + 1 }
    else w'
  | some .waiting =>
    if outcome = .done then { w with switch := none } else w.follow .waiting persistent outcome
  | some (.failing stageReplaced canceled) =>
    -- a legacy session that was canceled keeps its stage, one that failed does not
    let cleans := if canceled then persistent && stageReplaced else !persistent || stageReplaced
    { w with
      inputs := { w.inputs with enabled := false },
      switch := if cleans then some .cleaning else none }
  | some .cleaning =>
    { w with running := if outcome = .done then none else w.running, switch := none }

def receiveMap (i : ℕ) : World K :=
  match w.maps[i]? with
  | none => w
  | some message =>
    let w' := { w with maps := w.maps.eraseIdx i }
    match occupancySnapshotFromMessage message.content with
    | .error _ => w'
    | .ok snapshot => { w' with mapCallbacks := w.mapCallbacks ++ [⟨message.stage, snapshot⟩] }

def receivePose (i : ℕ) : World K :=
  match w.poses[i]? with
  | none => w
  | some message =>
    { w with poses := w.poses.eraseIdx i, poseCallbacks := w.poseCallbacks ++ [message] }

def lockMap (i : ℕ) : World K :=
  match w.mapCallbacks[i]? with
  | none => w
  | some snapshot =>
    { w with inputs := w.inputs.onMap snapshot, mapCallbacks := w.mapCallbacks.eraseIdx i }

def lockPose (i : ℕ) : World K :=
  match w.poseCallbacks[i]? with
  | none => w
  | some pose =>
    { w with inputs := w.inputs.onAmclPose pose, poseCallbacks := w.poseCallbacks.eraseIdx i }

def step : Event K → World K × Unit
  | .startMapping =>
    if w.started = 0 then ({ w with running := some w.started, started := 1 }, ()) else (w, ())
  | .stageExits => ({ w with running := none }, ())
  | .publishMap message =>
    match w.running with
    | none => (w, ())
    | some stage => ({ w with maps := w.maps ++ [⟨stage, message⟩] }, ())
  | .publishPose position =>
    match w.running with
    | none => (w, ())
    | some stage => ({ w with poses := w.poses ++ [⟨stage, position⟩] }, ())
  | .loseMap i => ({ w with maps := w.maps.eraseIdx i }, ())
  | .losePose i => ({ w with poses := w.poses.eraseIdx i }, ())
  | .receiveMap i => (w.receiveMap i, ())
  | .receivePose i => (w.receivePose i, ())
  | .lockMap i => (w.lockMap i, ())
  | .lockPose i => (w.lockPose i, ())
  | .startNavigation =>
    if w.started ≠ 0 ∧ w.switch = none then
      ({ w with switch := some (if authorityTransaction then .holding else .stopping) }, ())
    else (w, ())
  | .proceed outcome => (w.proceed persistent outcome, ())

end Steps

def Timely (w : World K) : Event K → Prop
  | .lockMap i => ∀ snapshot ∈ w.mapCallbacks[i]?, w.inputs.enabled = true →
      w.owner = some snapshot.stage
  | .lockPose i => ∀ pose ∈ w.poseCallbacks[i]?, w.inputs.enabled = true →
      w.owner = some pose.stage
  | _ => True

instance (w : World K) : (e : Event K) → Decidable (w.Timely e)
  | .lockMap i => inferInstanceAs (Decidable (∀ snapshot ∈ w.mapCallbacks[i]?, _))
  | .lockPose i => inferInstanceAs (Decidable (∀ pose ∈ w.poseCallbacks[i]?, _))
  | .startMapping | .stageExits | .publishMap _ | .publishPose _ | .loseMap _ | .losePose _
  | .receiveMap _ | .receivePose _ | .startNavigation | .proceed _ => .isTrue trivial

def Owned (w : World K) : Prop := w.inputs.OwnedBy w.owner

def Unstarted (point : Option SwitchPoint) : Prop :=
  point = some .preparing ∨ point = some .opening ∨ point = some .starting

def Vacant (w : World K) : Prop := Unstarted w.switch → w.owner = none

variable {persistent authorityTransaction : Bool} {w : World K}

theorem not_unstarted_failing (stageReplaced canceled : Bool) :
    ¬ Unstarted (some (.failing stageReplaced canceled)) := by
  simp [Unstarted]

variable (point : SwitchPoint)

@[simp] theorem follow_owner (stageReplaced : Bool) (outcome : Outcome) :
    (w.follow point stageReplaced outcome).owner = w.owner := by
  cases outcome <;> rfl

theorem follow_owned (hw : w.Owned) (point : SwitchPoint) (stageReplaced : Bool)
    (outcome : Outcome) : (w.follow point stageReplaced outcome).Owned := by
  cases outcome <;> exact hw

theorem follow_switch (stageReplaced : Bool) (outcome : Outcome) :
    (w.follow point stageReplaced outcome).switch = some point ∨
      ∃ canceled, (w.follow point stageReplaced outcome).switch =
        some (.failing stageReplaced canceled) := by
  cases outcome with
  | done => exact .inl rfl
  | canceled => exact .inr ⟨true, rfl⟩
  | failed => exact .inr ⟨false, rfl⟩

theorem vacant_follow {point : SwitchPoint} (stageReplaced : Bool) (outcome : Outcome)
    (hw : Unstarted (some point) → w.owner = none) :
    (w.follow point stageReplaced outcome).Vacant := by
  intro hpoint
  rw [follow_owner]
  rcases follow_switch (w := w) point stageReplaced outcome with hswitch | ⟨canceled, hswitch⟩
  · exact hw (hswitch ▸ hpoint)
  · rw [hswitch] at hpoint
    exact absurd hpoint (not_unstarted_failing _ _)

theorem proceed_owned (hw : w.Owned) (hvacant : w.Vacant) (outcome : Outcome) :
    (w.proceed persistent outcome).Owned := by
  unfold proceed
  split
  next => exact hw
  next => exact follow_owned hw _ _ _
  next => split_ifs <;> exact follow_owned hw _ _ _
  next => exact NavigationInputs.ownedBy_switchGeneration
  next => exact follow_owned hw _ _ _
  next => exact hw.withEnabled true
  next hswitch =>
    have howner : w.owner = none := hvacant (by simp [Unstarted, hswitch])
    have hadopt : w.inputs.OwnedBy none := howner ▸ hw
    split_ifs with hdone
    · subst hdone
      exact hadopt.adopt
    · exact follow_owned hw _ _ _
  next =>
    split_ifs
    · exact hw
    · exact follow_owned hw _ _ _
  next => exact hw.withEnabled false
  next => exact hw

theorem proceed_vacant (hvacant : w.Vacant) (outcome : Outcome) :
    (w.proceed persistent outcome).Vacant := by
  unfold proceed
  split
  next => exact hvacant
  next => exact vacant_follow _ _ (by simp [Unstarted])
  next =>
    have hfollow : (w.follow .replacing persistent outcome).Vacant :=
      vacant_follow _ _ (by simp [Unstarted])
    split_ifs <;> exact hfollow
  next => exact fun _ ↦ rfl
  next hswitch => exact vacant_follow _ _ fun _ ↦ hvacant (by simp [Unstarted, hswitch])
  next hswitch => exact fun _ ↦ hvacant (by simp [Unstarted, hswitch])
  next =>
    split_ifs with hdone
    · subst hdone
      intro hpoint
      simp [Unstarted, follow] at hpoint
    · exact vacant_follow _ _ (by simp [Unstarted])
  next =>
    split_ifs with hdone
    · intro hpoint
      simp [Unstarted] at hpoint
    · exact vacant_follow _ _ (by simp [Unstarted])
  next =>
    intro hpoint
    split_ifs at hpoint <;> simp_all [Unstarted]
  next =>
    intro hpoint
    simp [Unstarted] at hpoint

theorem lockMap_owned (hw : w.Owned) (i : ℕ) :
    (w.lockMap i).Owned ↔ w.Timely (.lockMap i) := by
  unfold lockMap
  cases hsnapshot : w.mapCallbacks[i]? with
  | none => simp [Timely, hsnapshot, hw]
  | some snapshot =>
    simp only [Timely, hsnapshot, Option.mem_def, Option.some.injEq, forall_eq']
    exact NavigationInputs.ownedBy_onMap hw snapshot

theorem lockPose_owned (hw : w.Owned) (i : ℕ) :
    (w.lockPose i).Owned ↔ w.Timely (.lockPose i) := by
  unfold lockPose
  cases hpose : w.poseCallbacks[i]? with
  | none => simp [Timely, hpose, hw]
  | some pose =>
    simp only [Timely, hpose, Option.mem_def, Option.some.injEq, forall_eq']
    exact NavigationInputs.ownedBy_onAmclPose hw pose

structure Aside (w w' : World K) : Prop where
  inputs : w'.inputs = w.inputs
  owner : w'.owner = w.owner
  switch : Unstarted w'.switch → Unstarted w.switch

theorem Aside.owned {w' : World K} (h : Aside w w') (hw : w.Owned) : w'.Owned := by
  unfold Owned
  rw [h.inputs, h.owner]
  exact hw

theorem Aside.vacant {w' : World K} (h : Aside w w') (hw : w.Vacant) : w'.Vacant :=
  fun hpoint ↦ h.owner.trans (hw (h.switch hpoint))

theorem receiveMap_aside (i : ℕ) : Aside w (w.receiveMap i) := by
  unfold receiveMap
  split
  · exact ⟨rfl, rfl, id⟩
  · dsimp only
    split <;> exact ⟨rfl, rfl, id⟩

theorem receivePose_aside (i : ℕ) : Aside w (w.receivePose i) := by
  unfold receivePose
  split <;> exact ⟨rfl, rfl, id⟩

theorem lockMap_vacant (hvacant : w.Vacant) (i : ℕ) : (w.lockMap i).Vacant := by
  unfold lockMap
  split <;> exact hvacant

theorem lockPose_vacant (hvacant : w.Vacant) (i : ℕ) : (w.lockPose i).Vacant := by
  unfold lockPose
  split <;> exact hvacant

def IsAside : Event K → Prop
  | .lockMap _ | .lockPose _ | .proceed _ => False
  | _ => True

theorem step_aside {e : Event K} (he : IsAside e) :
    Aside w (w.step persistent authorityTransaction e).1 := by
  cases e with
  | startMapping => unfold step; dsimp only; split_ifs <;> exact ⟨rfl, rfl, id⟩
  | stageExits => exact ⟨rfl, rfl, id⟩
  | publishMap message => unfold step; dsimp only; split <;> exact ⟨rfl, rfl, id⟩
  | publishPose position => unfold step; dsimp only; split <;> exact ⟨rfl, rfl, id⟩
  | loseMap i => exact ⟨rfl, rfl, id⟩
  | losePose i => exact ⟨rfl, rfl, id⟩
  | receiveMap i => exact receiveMap_aside i
  | receivePose i => exact receivePose_aside i
  | startNavigation =>
    unfold step
    dsimp only
    split_ifs
    · exact ⟨rfl, rfl, fun hpoint ↦ by simp [Unstarted] at hpoint⟩
    · exact ⟨rfl, rfl, fun hpoint ↦ by simp [Unstarted] at hpoint⟩
    · exact ⟨rfl, rfl, id⟩
  | lockMap i => exact he.elim
  | lockPose i => exact he.elim
  | proceed outcome => exact he.elim

theorem step_owned (hw : w.Owned) (hvacant : w.Vacant) (e : Event K) :
    (w.step persistent authorityTransaction e).1.Owned ↔ w.Timely e := by
  cases e with
  | lockMap i => exact lockMap_owned hw i
  | lockPose i => exact lockPose_owned hw i
  | proceed outcome => exact iff_of_true (proceed_owned hw hvacant outcome) trivial
  | _ => exact iff_of_true ((step_aside (by trivial)).owned hw) trivial

theorem step_vacant (hvacant : w.Vacant) (e : Event K) :
    (w.step persistent authorityTransaction e).1.Vacant := by
  cases e with
  | lockMap i => exact lockMap_vacant hvacant i
  | lockPose i => exact lockPose_vacant hvacant i
  | proceed outcome => exact proceed_vacant hvacant outcome
  | _ => exact (step_aside (by trivial)).vacant hvacant

theorem start_owned : ({} : World K).Owned := by
  constructor
  · intro snapshot hsnapshot
    exact absurd hsnapshot (by simp)
  · intro pose hpose
    exact absurd hpose (by simp)

theorem start_vacant : ({} : World K).Vacant := fun _ ↦ rfl

end World

open World

variable {K : Type*} [Field K] [LinearOrder K] {persistent authorityTransaction : Bool}

def after (persistent authorityTransaction : Bool) (h : List (Event K)) : World K :=
  History.run (step persistent authorityTransaction) {} h

theorem after_vacant (h : List (Event K)) : (after persistent authorityTransaction h).Vacant :=
  History.run_preserves (I := Vacant) _ (fun _ e hw ↦ step_vacant hw e) start_vacant h

theorem snapshots_owned_iff (persistent authorityTransaction : Bool) (h : List (Event K)) :
    ((∀ pre post, h = pre ++ post → (after persistent authorityTransaction pre).Owned) ↔
      History.Along (step persistent authorityTransaction) Timely {} h) ∧
    (History.Along (step persistent authorityTransaction) Timely {} h →
      ∀ pre post, h = pre ++ post → ∀ selected,
        (after persistent authorityTransaction pre).inputs.forSelection = some selected →
        (after persistent authorityTransaction pre).owner = some selected.1.stage ∧
          (after persistent authorityTransaction pre).owner = some selected.2.stage) := by
  have hkept : History.Along (step persistent authorityTransaction) Timely {} h →
      ∀ pre post, h = pre ++ post → (after persistent authorityTransaction pre).Owned := by
    rintro htimely pre post rfl
    have hpre := ((History.along_append _).mp htimely).1
    have hboth : (after persistent authorityTransaction pre).Owned ∧
        (after persistent authorityTransaction pre).Vacant :=
      History.Along.preserves (I := fun w ↦ w.Owned ∧ w.Vacant) _
        (fun w e he hw ↦ ⟨(step_owned hw.1 hw.2 e).mpr he, step_vacant hw.2 e⟩)
        ⟨start_owned, start_vacant⟩ hpre
    exact hboth.1
  refine ⟨⟨fun howned ↦ (History.along_iff _).mpr ?_, hkept⟩, ?_⟩
  · rintro pre e post rfl
    have hbefore := howned pre (e :: post) rfl
    have hafter := howned (pre ++ [e]) post (by simp)
    rw [after, History.run_snoc] at hafter
    exact (step_owned hbefore (after_vacant pre) e).mp hafter
  · intro htimely pre post hpre selected hselected
    exact (hkept htimely pre post hpre).selected hselected

def closet : OccupancyGrid ℚ where
  width := 1
  height := 1
  resolution := 1
  origin := (0, 0)
  orientation := (0, 0, 0, 1)
  data := [0]

def switched : List (Event ℚ) :=
  [.startMapping, .startNavigation] ++ List.replicate 6 (.proceed .done) ++
    [.publishMap closet, .receiveMap 0, .lockMap 0, .publishPose (0, 0), .receivePose 0,
      .lockPose 0]

theorem switched_selects_own :
    (after true true switched).owner = some 1 ∧
      (after true true switched).inputs.forSelection.map (fun s ↦ (s.1.stage, s.2.stage)) =
        some (1, 1) ∧
      ∀ selected, (after true true switched).inputs.forSelection = some selected →
        (after true true switched).owner = some selected.1.stage ∧
          (after true true switched).owner = some selected.2.stage :=
  ⟨by decide +kernel, by decide +kernel,
    (snapshots_owned_iff true true switched).2 (by decide +kernel) switched [] rfl⟩

def crossing : List (Event ℚ) :=
  [.startMapping, .publishMap closet, .receiveMap 0, .startNavigation] ++
    List.replicate 5 (.proceed .done) ++
    [.lockMap 0, .proceed .done, .publishPose (0, 0), .receivePose 0, .lockPose 0, .proceed .done]

theorem map_crosses :
    (after true true crossing).owner = some 1 ∧ (after true true crossing).switch = none ∧
      (after true true crossing).inputs.forSelection.map (fun s ↦ (s.1.stage, s.2.stage)) =
        some (0, 1) := by
  decide +kernel

end EmbodiedAgent.Slam.StageInputs
