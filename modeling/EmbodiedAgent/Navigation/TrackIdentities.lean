import EmbodiedAgent.Navigation.EstimatorCovariance

namespace EmbodiedAgent.Navigation

open Library Library.History

namespace OneToOne

variable {α : Type*} {observations : List (Point2d α)} {a : ObservationAssignment}
  {rows columns : ℕ}

theorem nodup (h : OneToOne rows columns a) : a.reduceOption.Nodup := by
  have hlist : ∀ a : ObservationAssignment,
      (∀ i i' c : ℕ, a[i]? = some (some c) → a[i']? = some (some c) → i = i') →
        a.reduceOption.Nodup := by
    intro a
    induction a with
    | nil => exact fun _ ↦ List.nodup_nil
    | cons choice rest ih =>
      intro hinj
      have hrest : rest.reduceOption.Nodup := ih fun i i' c hi hi' ↦
        Nat.succ.inj (hinj (i + 1) (i' + 1) c hi hi')
      cases choice with
      | none => exact hrest
      | some c =>
        refine List.nodup_cons.mpr ⟨fun hmem ↦ ?_, hrest⟩
        obtain ⟨i, hi⟩ := List.mem_iff_getElem?.mp (List.reduceOption_mem_iff.mp hmem)
        have := hinj 0 (i + 1) c rfl hi
        omega
  exact hlist a h.inj

theorem perm (h : OneToOne rows observations.length a) :
    (a.reduceOption ++ DynamicObstacleTracker.unused observations a).Perm
      (List.range observations.length) := by
  have hunused : (DynamicObstacleTracker.unused observations a).Nodup :=
    List.nodup_range.filter _
  have hdisjoint : a.reduceOption.Disjoint (DynamicObstacleTracker.unused observations a) := by
    intro c hc hc'
    have hfree := List.of_mem_filter hc'
    exact of_decide_eq_true hfree (List.reduceOption_mem_iff.mp hc)
  refine (List.perm_ext_iff_of_nodup (h.nodup.append hunused hdisjoint) List.nodup_range).mpr
    fun c ↦ ?_
  rw [List.mem_append, List.mem_range, List.reduceOption_mem_iff, DynamicObstacleTracker.unused,
    List.mem_filter, List.mem_range, decide_eq_true_iff]
  constructor
  · rintro (hmem | ⟨hlt, -⟩)
    · obtain ⟨i, hi⟩ := List.mem_iff_getElem?.mp hmem
      exact h.lt i c hi
    · exact hlt
  · intro hlt
    by_cases hmem : some c ∈ a
    · exact .inl hmem
    · exact .inr ⟨hlt, hmem⟩

end OneToOne

namespace DynamicObstacleTracker

section Numbers

variable {α : Type*} {tracker : DynamicObstacleTracker α}

def trackId (number : ℕ) : String := "track_" ++ toString number

theorem trackId_injective : Function.Injective trackId := fun _ _ h ↦
  Nat.repr_inj.mp ((String.append_right_inj "track_").mp h)

structure Numbered (tracker : DynamicObstacleTracker α) (numbers : List ℕ) : Prop where
  ids : tracker.tracks.map (·.output.id) = numbers.map trackId
  nodup : numbers.Nodup
  lt : ∀ n ∈ numbers, n < tracker.nextTrackId

theorem Numbered.prune [Sub α] [LT α] [DecidableLT α] {numbers : List ℕ}
    (h : tracker.Numbered numbers) (timestampS : α) :
    ∃ kept, kept.Sublist numbers ∧ (tracker.prune timestampS).Numbered kept := by
  have hsub : ((tracker.prune timestampS).tracks.map (·.output.id)).Sublist
      (numbers.map trackId) := by
    rw [← h.ids]
    exact List.filter_sublist.map _
  obtain ⟨kept, hkept, hids⟩ := List.sublist_map_iff.mp hsub
  exact ⟨kept, hkept, hids, hkept.nodup h.nodup, fun n hn ↦ h.lt n (hkept.subset hn)⟩

end Numbers

variable {α : Type*} [Zero α] [One α] [Add α] [Sub α] [Mul α] [Div α] [NatCast α] [OfScientific α]
  [LT α] [DecidableLT α] [LE α] [DecidableLE α] {tracker tracker' : DynamicObstacleTracker α}
  {density : α → α → α} {observations : List (Point2d α)} {timestampS : α}
  {a : ObservationAssignment} {numbers : List ℕ}

def Received (tracker : DynamicObstacleTracker α) (density : α → α → α)
    (observations : List (Point2d α)) (timestampS : α) : Option ℕ → InternalTrack α → Prop
  | none, track => ∃ before ∈ tracker.tracks, track = before.coast tracker.config timestampS
  | some c, track => ∃ observation, observations[c]? = some observation ∧
    ((∃ before ∈ tracker.tracks, track = before.observe timestampS density observation) ∨
      ∃ number, track = .create tracker.config timestampS number observation)

theorem received_followed {tracks : List (InternalTrack α)}
    (hmem : ∀ track ∈ tracks, track ∈ tracker.tracks) (hlength : a.length = tracks.length)
    (hlt : ∀ c, some c ∈ a → c < observations.length) :
    List.Forall₂ (tracker.Received density observations timestampS) a
      (List.zipWith (fun track choice ↦ track.follow tracker.config timestampS density
        (choice.bind (observations[·]?))) tracks a) := by
  induction tracks generalizing a with
  | nil =>
    rw [List.eq_nil_of_length_eq_zero hlength]
    exact .nil
  | cons track tracks ih =>
    cases a with
    | nil => cases hlength
    | cons choice a =>
      have hrest := ih (fun t ht ↦ hmem t (List.mem_cons_of_mem track ht))
        (Nat.succ.inj hlength) fun c hc ↦ hlt c (List.mem_cons_of_mem choice hc)
      refine .cons ?_ hrest
      cases choice with
      | none => exact ⟨track, hmem track List.mem_cons_self, rfl⟩
      | some c =>
        have hc : c < observations.length := hlt c List.mem_cons_self
        have ho : observations[c]? = some observations[c] := List.getElem?_eq_getElem hc
        refine ⟨_, ho, .inl ⟨track, hmem track List.mem_cons_self, ?_⟩⟩
        dsimp only
        rw [Option.bind_some, ho]
        rfl

theorem received_created {indices : List ℕ} (hlt : ∀ c ∈ indices, c < observations.length)
    (n : ℕ) : List.Forall₂ (tracker.Received density observations timestampS) (indices.map some)
      (((indices.filterMap (observations[·]?)).zipIdx n).map fun (observation, k) ↦
        .create tracker.config timestampS (tracker.nextTrackId + k) observation) := by
  induction indices generalizing n with
  | nil => exact .nil
  | cons c indices ih =>
    have hc : c < observations.length := hlt c List.mem_cons_self
    have ho : observations[c]? = some observations[c] := List.getElem?_eq_getElem hc
    rw [List.filterMap_cons_some ho, List.zipIdx_cons, List.map_cons, List.map_cons]
    refine .cons ⟨_, ho, .inr ⟨_, rfl⟩⟩ ?_
    exact ih (fun c hc ↦ hlt c (List.mem_cons_of_mem _ hc)) (n + 1)

theorem ids_followed (h : a.length = tracker.tracks.length) :
    (tracker.followed density observations timestampS a).map (·.output.id) =
      tracker.tracks.map (·.output.id) := by
  have hlists : ∀ (tracks : List (InternalTrack α)) (a : ObservationAssignment),
      a.length = tracks.length →
      (List.zipWith (fun track choice ↦ track.follow tracker.config timestampS density
        (choice.bind (observations[·]?))) tracks a).map (·.output.id) =
          tracks.map (·.output.id) := by
    intro tracks
    induction tracks with
    | nil => exact fun a _ ↦ rfl
    | cons track tracks ih =>
      intro a ha
      cases a with
      | nil => cases ha
      | cons choice a =>
        rw [List.zipWith_cons_cons, List.map_cons, List.map_cons, ih a (Nat.succ.inj ha)]
        congr 1
        cases choice.bind (observations[·]?) <;> rfl
  exact hlists tracker.tracks a h

omit [Add α] [Sub α] [Mul α] [Div α] [NatCast α] [LE α] [DecidableLE α] in
theorem ids_created (indices : List ℕ) :
    (tracker.created observations timestampS indices).map (·.output.id) =
      (List.range' tracker.nextTrackId
        (tracker.created observations timestampS indices).length).map trackId := by
  have hids : ∀ l : List (Point2d α × ℕ), (l.map fun pair ↦ InternalTrack.create tracker.config
      timestampS (tracker.nextTrackId + pair.2) pair.1).map (·.output.id) =
        ((l.map Prod.snd).map (tracker.nextTrackId + ·)).map trackId := by
    intro l
    rw [List.map_map, List.map_map, List.map_map]
    rfl
  rw [created, List.length_map, List.length_zipIdx]
  refine (hids _).trans ?_
  rw [List.zipIdx_map_snd, List.map_add_range', Nat.add_zero]

variable [Extended α]

theorem update_returned (h : tracker.update density observations timestampS =
    (tracker', .returned)) :
    ∃ a, OneToOne (tracker.prune timestampS).tracks.length observations.length a ∧
      tracker'.config = tracker.config ∧ tracker'.tracks =
        (tracker.prune timestampS).followed density observations timestampS a ++
          (tracker.prune timestampS).created observations timestampS (unused observations a) ∧
      tracker'.nextTrackId = tracker.nextTrackId +
        ((tracker.prune timestampS).created observations timestampS
          (unused observations a)).length := by
  rw [update] at h
  cases hassign : (tracker.prune timestampS).assign observations timestampS with
  | error message =>
    rw [hassign] at h
    cases h
  | ok assigned =>
    rw [hassign] at h
    cases assigned with
    | none => cases h
    | some a =>
      cases h
      refine ⟨a, ?_, rfl, rfl, rfl⟩
      have hone := assignGatedObservations_oneToOne hassign
      rwa [List.length_map] at hone

theorem received_update (h : tracker.update density observations timestampS =
    (tracker', .returned)) : ∃ received, List.Forall₂
        ((tracker.prune timestampS).Received density observations timestampS) received
        tracker'.tracks ∧ received.reduceOption.Perm (List.range observations.length) := by
  obtain ⟨a, hone, -, htracks, -⟩ := update_returned h
  refine ⟨a ++ (unused observations a).map some, ?_, ?_⟩
  · rw [htracks]
    refine List.rel_append (received_followed (fun _ htrack ↦ htrack) hone.length fun c hc ↦ ?_)
      (received_created (fun c hc ↦ List.mem_range.mp (List.mem_of_mem_filter hc)) 0)
    obtain ⟨i, hi⟩ := List.mem_iff_getElem?.mp hc
    exact hone.lt i c hi
  · have hsome : ((unused observations a).map some).reduceOption = unused observations a := by
      rw [List.reduceOption, List.filterMap_map]
      exact List.filterMap_some
    rw [List.reduceOption_append, hsome]
    exact hone.perm

theorem update_cases (tracker : DynamicObstacleTracker α) (density : α → α → α)
    (observations : List (Point2d α)) (timestampS : α) :
    (tracker.update density observations timestampS).1 = tracker.prune timestampS ∨
      ∃ tracker', tracker.update density observations timestampS = (tracker', .returned) := by
  rw [update]
  cases (tracker.prune timestampS).assign observations timestampS with
  | error message => exact .inl rfl
  | ok assigned =>
    cases assigned with
    | none => exact .inl rfl
    | some a => exact .inr ⟨_, rfl⟩

theorem Numbered.update (h : tracker.Numbered numbers)
    (hupdate : tracker.update density observations timestampS = (tracker', .returned)) :
    ∃ kept, kept.Sublist numbers ∧ (tracker.prune timestampS).Numbered kept ∧
      tracker.nextTrackId ≤ tracker'.nextTrackId ∧
      (tracker'.tracks.drop (tracker.prune timestampS).tracks.length).map (·.output.id) =
        (List.range' tracker.nextTrackId (tracker'.nextTrackId - tracker.nextTrackId)).map trackId ∧
      tracker'.Numbered (kept ++ List.range' tracker.nextTrackId
        (tracker'.nextTrackId - tracker.nextTrackId)) := by
  obtain ⟨kept, hsub, hkept⟩ := h.prune timestampS
  obtain ⟨a, hone, -, htracks, hnext⟩ := update_returned hupdate
  have hnew : tracker'.nextTrackId - tracker.nextTrackId =
      ((tracker.prune timestampS).created observations timestampS
        (unused observations a)).length := by omega
  have hfollowed : ((tracker.prune timestampS).followed density observations timestampS a).length =
      (tracker.prune timestampS).tracks.length := by
    rw [followed, List.length_zipWith, hone.length, Nat.min_self]
  have hcreated : ((tracker.prune timestampS).created observations timestampS
      (unused observations a)).map (·.output.id) = (List.range' tracker.nextTrackId
        ((tracker.prune timestampS).created observations timestampS
          (unused observations a)).length).map trackId := ids_created _
  refine ⟨kept, hsub, hkept, by omega, ?_, ?_, ?_, ?_⟩
  · rw [htracks, ← hfollowed, List.drop_left, hnew]
    exact hcreated
  · rw [htracks, List.map_append, ids_followed hone.length, hkept.ids, List.map_append, hnew]
    exact congrArg _ hcreated
  · refine hkept.nodup.append List.nodup_range' fun n hn hn' ↦ ?_
    have hlt := hkept.lt n hn
    have hge := (List.mem_range'_1.mp hn').1
    exact absurd hlt (Nat.not_lt.mpr hge)
  · intro n hn
    rcases List.mem_append.mp hn with hold | hfresh
    · have hlt : n < tracker.nextTrackId := hkept.lt n hold
      omega
    · have := (List.mem_range'_1.mp hfresh).2
      omega

/-- The ids of the tracks that a call creates. -/
def issued (density : α → α → α) (tracker : DynamicObstacleTracker α) :
    TrackerCall α → List String
  | .update observations timestampS =>
    ((tracker.update density observations timestampS).1.tracks.drop
      (tracker.prune timestampS).tracks.length).map (·.output.id)
  | .clear => []

variable (density) in
theorem Numbered.step (h : tracker.Numbered numbers) {call : TrackerCall α}
    (hcall : call ≠ .clear) : ∃ kept, kept.Sublist numbers ∧
      tracker.nextTrackId ≤ (step density tracker call).1.nextTrackId ∧
      issued density tracker call = (List.range' tracker.nextTrackId
        ((step density tracker call).1.nextTrackId - tracker.nextTrackId)).map trackId ∧
      (step density tracker call).1.Numbered (kept ++ List.range' tracker.nextTrackId
        ((step density tracker call).1.nextTrackId - tracker.nextTrackId)) := by
  cases call with
  | clear => exact absurd rfl hcall
  | update observations timestampS =>
    rw [issued, DynamicObstacleTracker.step]
    rcases tracker.update_cases density observations timestampS with hpruned | ⟨tracker', hupdate⟩
    · obtain ⟨kept, hsub, hkept⟩ := h.prune timestampS
      rw [hpruned, List.drop_length]
      have hnext : (tracker.prune timestampS).nextTrackId = tracker.nextTrackId := rfl
      rw [hnext, Nat.sub_self]
      refine ⟨kept, hsub, le_rfl, rfl, ?_⟩
      rwa [List.range'_zero, List.append_nil]
    · obtain ⟨kept, hsub, -, hle, hnew, hnumbered⟩ := h.update hupdate
      rw [hupdate]
      exact ⟨kept, hsub, hle, hnew, hnumbered⟩

variable (density) in
theorem Numbered.run (h : tracker.Numbered numbers) {calls : List (TrackerCall α)}
    (hcalls : .clear ∉ calls) :
    ∃ n, collect (DynamicObstacleTracker.step density) (issued density) tracker calls =
      (List.range' tracker.nextTrackId n).map trackId := by
  induction calls generalizing tracker numbers with
  | nil => exact ⟨0, rfl⟩
  | cons call calls ih =>
    have hcall : call ≠ .clear := fun heq ↦ hcalls (heq ▸ List.mem_cons_self)
    obtain ⟨kept, -, hle, hissued, hnumbered⟩ := h.step density hcall
    obtain ⟨n, hrest⟩ := ih hnumbered fun hmem ↦ hcalls (List.mem_cons_of_mem call hmem)
    refine ⟨(DynamicObstacleTracker.step density tracker call).1.nextTrackId -
      tracker.nextTrackId + n, ?_⟩
    rw [collect_cons, hissued, hrest, ← List.map_append, ← List.range'_append_1]
    congr 4
    omega

theorem numbered_after (density : α → α → α) (config : TrackerConfig α)
    (h : List (TrackerCall α)) : ∃ numbers, (after density config h).Numbered numbers := by
  refine run_preserves (DynamicObstacleTracker.step density)
    (I := fun tracker ↦ ∃ numbers, tracker.Numbered numbers) (fun tracker call hI ↦ ?_)
    ⟨[], rfl, List.nodup_nil, fun _ hn ↦ absurd hn List.not_mem_nil⟩ h
  obtain ⟨numbers, hnumbers⟩ := hI
  by_cases hcall : call = .clear
  · rw [hcall]
    exact ⟨[], rfl, List.nodup_nil, fun _ hn ↦ absurd hn List.not_mem_nil⟩
  · obtain ⟨kept, -, -, -, hnumbered⟩ := hnumbers.step density hcall
    exact ⟨_, hnumbered⟩

theorem Numbered.nodup_ids (h : tracker.Numbered numbers) {calls : List (TrackerCall α)}
    (hcalls : .clear ∉ calls) : (tracker.tracks.map (·.output.id) ++
      collect (DynamicObstacleTracker.step density) (issued density) tracker calls).Nodup := by
  obtain ⟨n, hissued⟩ := h.run density hcalls
  rw [h.ids, hissued, ← List.map_append]
  refine (h.nodup.append List.nodup_range' fun m hm hm' ↦ ?_).map trackId_injective
  exact absurd (h.lt m hm) (Nat.not_lt.mpr (List.mem_range'_1.mp hm').1)

theorem Numbered.survives (h : tracker.Numbered numbers)
    (hupdate : tracker.update density observations timestampS = (tracker', .returned))
    {before : InternalTrack α} (hbefore : before ∈ tracker.tracks) :
    (∃ track ∈ tracker'.tracks, track.output.id = before.output.id) ↔
      before.expired tracker.config timestampS = false := by
  obtain ⟨a, hone, -, htracks, -⟩ := update_returned hupdate
  have hfollowed : ((tracker.prune timestampS).followed density observations timestampS a).map
      (·.output.id) = (tracker.prune timestampS).tracks.map (·.output.id) :=
    ids_followed hone.length
  constructor
  · rintro ⟨track, htrack, hid⟩
    rw [htracks] at htrack
    rcases List.mem_append.mp htrack with hkept | hnew
    · have hmem : track.output.id ∈ (tracker.prune timestampS).tracks.map (·.output.id) := by
        rw [← hfollowed]
        exact List.mem_map_of_mem hkept
      obtain ⟨same, hsame, hsameId⟩ := List.mem_map.mp hmem
      have hnodup : (tracker.tracks.map (·.output.id)).Nodup := by
        rw [h.ids]
        exact h.nodup.map trackId_injective
      have heq : same = before := List.inj_on_of_nodup_map hnodup (List.mem_of_mem_filter hsame)
        hbefore (hsameId.trans hid)
      rw [heq] at hsame
      simpa using List.of_mem_filter hsame
    -- a new track has a number that no earlier one has
    · have hmem : track.output.id ∈ ((tracker.prune timestampS).created observations timestampS
          (unused observations a)).map (·.output.id) := List.mem_map_of_mem hnew
      rw [ids_created] at hmem
      obtain ⟨m, hm, hmId⟩ := List.mem_map.mp hmem
      have hold : before.output.id ∈ numbers.map trackId := by
        rw [← h.ids]
        exact List.mem_map_of_mem hbefore
      obtain ⟨n, hn, hnId⟩ := List.mem_map.mp hold
      have hmn : m = n := trackId_injective (hmId.trans (hid.trans hnId.symm))
      have hge : tracker.nextTrackId ≤ m := (List.mem_range'_1.mp hm).1
      have hlt := h.lt n hn
      omega
  · intro hexpired
    have hkept : before ∈ (tracker.prune timestampS).tracks :=
      List.mem_filter.mpr ⟨hbefore, by rw [hexpired]; rfl⟩
    have hmem : before.output.id ∈ ((tracker.prune timestampS).followed density observations
        timestampS a).map (·.output.id) := by
      rw [hfollowed]
      exact List.mem_map_of_mem hkept
    obtain ⟨track, htrack, hid⟩ := List.mem_map.mp hmem
    exact ⟨track, htracks ▸ List.mem_append_left _ htrack, hid⟩

theorem ids_update (hupdate : tracker.update density observations timestampS =
    (tracker', .returned)) :
    tracker'.tracks.map (·.output.id) = (tracker.prune timestampS).tracks.map (·.output.id) ++
      issued density tracker (.update observations timestampS) := by
  obtain ⟨a, hone, -, htracks, -⟩ := update_returned hupdate
  have hfollowed : ((tracker.prune timestampS).followed density observations timestampS a).length =
      (tracker.prune timestampS).tracks.length := by
    rw [followed, List.length_zipWith, hone.length, Nat.min_self]
  rw [issued, hupdate, htracks, ← hfollowed, List.drop_left, List.map_append,
    ids_followed hone.length]

section Confidence

/-- A number between 0 and 1. -/
def Credible (confidence : Double) : Prop := 0 ≤ confidence ∧ confidence ≤ 1

theorem credible_coast {confidence : Double} (hconfidence : Credible confidence)
    (ageS timeoutS : Double) :
    Credible (stdMax 0 (confidence * (1 - stdMax 0 ageS / stdMax timeoutS 1e-3))) := by
  have hage : ¬ stdMax 0 ageS < 0 := by
    rw [stdMax]
    split_ifs with hpos
    · exact fun hneg ↦ Double.lt_irrefl _ (Double.lt_trans hpos hneg)
    · exact Double.lt_irrefl 0
  have htimeout : ¬ stdMax timeoutS 1e-3 ≤ 0 := by
    rw [stdMax]
    split_ifs with hsmall
    · decide +kernel
    · exact fun hle ↦ hsmall (Double.lt_of_le_of_lt hle (by decide +kernel))
  have hshare : ¬ stdMax 0 ageS / stdMax timeoutS 1e-3 < 0 := Double.div_not_neg hage htimeout
  rw [stdMax]
  split_ifs with hpos
  · have hnumber : Double.sub 1 (stdMax 0 ageS / stdMax timeoutS 1e-3) ≠ .nan := by
      intro hnan
      have hproduct : Double.mul confidence .nan = .nan := by cases confidence <;> rfl
      change 0 < Double.mul confidence (Double.sub 1 (stdMax 0 ageS / stdMax timeoutS 1e-3)) at hpos
      rw [hnan, hproduct] at hpos
      cases hpos
    have hle : 1 - stdMax 0 ageS / stdMax timeoutS 1e-3 ≤ (1 : Double) :=
      Double.sub_le hshare hnumber
    have hnonneg : (0 : Double) ≤ _ := Double.le_of_lt hpos
    exact ⟨hnonneg, Double.mul_le_one hconfidence.1 hconfidence.2 hle hpos⟩
  · exact ⟨by decide +kernel, by decide +kernel⟩

theorem credible_observe (count : ℕ) :
    Credible (stdMin 1 (0.45 + 0.12 * ((count + 1 : ℕ) : Double))) := by
  rw [stdMin]
  split_ifs with hlt
  · have hcount : ¬ ((count + 1 : ℕ) : Double) ≤ 0 := by
      intro hle
      have hone : Double.finite 1 representable_one ≤ ((count + 1 : ℕ) : Double) :=
        Double.finite_le_ofRat representable_one (by norm_cast; omega)
      have hbad := Double.le_trans hone hle
      revert hbad
      decide +kernel
    have hgain : ¬ (0.12 : Double).mul ((count + 1 : ℕ) : Double) < 0 :=
      Double.mul_not_neg (by decide +kernel) hcount
    have hnumber : (0.45 : Double).add ((0.12 : Double).mul ((count + 1 : ℕ) : Double)) ≠ .nan := by
      intro hnan
      change (0.45 : Double).add ((0.12 : Double).mul ((count + 1 : ℕ) : Double)) < 1 at hlt
      rw [hnan] at hlt
      cases hlt
    have hbase : (0.45 : Double) ≤ 0.45 + 0.12 * ((count + 1 : ℕ) : Double) :=
      Double.le_add hgain hnumber
    exact ⟨Double.le_trans (by decide +kernel) hbase, Double.le_of_lt hlt⟩
  · exact ⟨by decide +kernel, by decide +kernel⟩

variable {tracker tracker' : DynamicObstacleTracker Double} {density : Double → Double → Double}
  {observations : List (Point2d Double)} {timestampS : Double}

theorem Received.credible (h : ∀ track ∈ tracker.tracks, Credible track.output.confidence)
    {choice : Option ℕ} {track : InternalTrack Double}
    (hreceived : tracker.Received density observations timestampS choice track) :
    Credible track.output.confidence := by
  cases choice with
  | none =>
    obtain ⟨before, hbefore, rfl⟩ := hreceived
    exact credible_coast (h before hbefore) _ _
  | some c =>
    obtain ⟨observation, -, ⟨before, -, rfl⟩ | ⟨number, rfl⟩⟩ := hreceived
    · exact credible_observe _
    · exact (⟨by decide +kernel, by decide +kernel⟩ : Credible 0.5)

theorem credible_update (h : ∀ track ∈ tracker.tracks, Credible track.output.confidence) :
    ∀ track ∈ (tracker.update density observations timestampS).1.tracks,
      Credible track.output.confidence := by
  have hpruned : ∀ track ∈ (tracker.prune timestampS).tracks,
      Credible track.output.confidence := fun track htrack ↦ h track (List.mem_of_mem_filter htrack)
  rcases tracker.update_cases density observations timestampS with heq | ⟨tracker', hupdate⟩
  · rwa [heq]
  · obtain ⟨received, hall, -⟩ := received_update hupdate
    rw [hupdate]
    intro track htrack
    obtain ⟨i, hi, rfl⟩ := List.mem_iff_getElem.mp htrack
    exact Received.credible hpruned (hall.get (hall.length_eq ▸ hi) hi)

theorem credible_after (density : Double → Double → Double) (config : TrackerConfig Double)
    (h : List (TrackerCall Double)) :
    ∀ track ∈ (after density config h).tracks, Credible track.output.confidence := by
  refine run_preserves (DynamicObstacleTracker.step density)
    (I := fun tracker ↦ ∀ track ∈ tracker.tracks, Credible track.output.confidence)
    (fun tracker call hI ↦ ?_) (fun track htrack ↦ absurd htrack List.not_mem_nil) h
  cases call with
  | update observations timestampS => exact credible_update hI
  | clear => exact fun track htrack ↦ absurd htrack List.not_mem_nil

end Confidence

section Frames

variable (tracker tracker' density observations timestampS) in
/-- A frame loses and doubles nothing. -/
structure Frame : Prop where
  received : ∃ received, List.Forall₂
      ((tracker.prune timestampS).Received density observations timestampS) received
      tracker'.tracks ∧
    received.reduceOption.Perm (List.range observations.length)
  ids : tracker'.tracks.map (·.output.id) = (tracker.prune timestampS).tracks.map (·.output.id) ++
    issued density tracker (.update observations timestampS)
  survives : ∀ before ∈ tracker.tracks,
    (∃ track ∈ tracker'.tracks, track.output.id = before.output.id) ↔
      (∃ observation ∈ observations,
        before.observe timestampS density observation ∈ tracker'.tracks) ∨
        ¬ tracker.config.trackTimeoutS < timestampS - before.output.lastSeenS

theorem Numbered.frame (h : tracker.Numbered numbers)
    (hupdate : tracker.update density observations timestampS = (tracker', .returned)) :
    Frame tracker tracker' density observations timestampS := by
  refine ⟨received_update hupdate, ids_update hupdate, fun before hbefore ↦ ?_⟩
  have hsurvives := h.survives hupdate hbefore
  constructor
  · intro hkept
    exact .inr (of_decide_eq_false (hsurvives.mp hkept))
  · rintro (⟨observation, -, hobserved⟩ | hrecent)
    · exact ⟨_, hobserved, rfl⟩
    · exact hsurvives.mpr (decide_eq_false hrecent)

variable (density observations timestampS) in
def Answered (tracker : DynamicObstacleTracker α) : Prop :=
  match tracker.update density observations timestampS with
  | (tracker', .returned) => Frame tracker tracker' density observations timestampS
  | (tracker', .invalidArgument message) => tracker' = tracker.prune timestampS ∧
    (tracker.prune timestampS).assign observations timestampS = .error message
  | (_, .diverged) => tracker.config.associationStrategy = .globalNearest

theorem Numbered.answered (h : tracker.Numbered numbers) :
    tracker.Answered density observations timestampS := by
  unfold Answered
  cases hupdate : tracker.update density observations timestampS with
  | mk tracker' outcome =>
    cases outcome with
    | returned => exact h.frame hupdate
    | invalidArgument message =>
      rw [DynamicObstacleTracker.update] at hupdate
      split at hupdate
      · cases hupdate
        exact ⟨rfl, ‹_›⟩
      · cases hupdate
      · cases hupdate
    | diverged =>
      rw [DynamicObstacleTracker.update] at hupdate
      split at hupdate
      · cases hupdate
      · rename_i hassign
        cases hstrategy : tracker.config.associationStrategy with
        | globalNearest => rfl
        | greedyNearest =>
          have hgreedy : (tracker.prune timestampS).config.associationStrategy = .greedyNearest :=
            hstrategy
          rw [assign, assignGatedObservations, hgreedy] at hassign
          split_ifs at hassign
          cases hassign
      · cases hupdate

end Frames

section Exact

variable {K : Type*} [Field K] [LinearOrder K] [IsStrictOrderedRing K]

theorem exists_assign {tracker : DynamicObstacleTracker K} (h : tracker.Usable)
    (hvalid : tracker.config.Valid) (observations : List (Point2d K)) (timestampS : K) :
    ∃ a, tracker.assign observations timestampS = .ok (some a) := by
  have hvariance : ∀ p ∈ tracker.tracks.map (·.prediction timestampS),
      0 ≤ p.positionVariance.x ∧ 0 ≤ p.positionVariance.y := by
    intro p hp
    obtain ⟨track, htrack, rfl⟩ := List.mem_map.mp hp
    exact ((h track htrack).predict timestampS).imp le_of_lt le_of_lt
  rw [assign, assignGatedObservations_valid _ _ _ _ _ _ hvalid.1 hvalid.2.1 hvalid.2.2 hvariance]
  cases tracker.config.associationStrategy with
  | greedyNearest => exact ⟨_, rfl⟩
  | globalNearest =>
    have hsound := @gatedCosts_sound K _ _ (tracker.tracks.map (·.prediction timestampS))
      observations tracker.config.measurementNoiseVariance _ _ tracker.config.associationMetric _
      hvalid.1 hvalid.2.2
    obtain ⟨a, ha, -⟩ := AssociationCosts.globalAssignment_optimal hsound
    exact ⟨a, congrArg Except.ok ha⟩

theorem frame_of_valid (density : K → K → K) {config : TrackerConfig K} (hvalid : config.Valid)
    (h : List (TrackerCall K)) (observations : List (Point2d K)) (timestampS : K) :
    ∃ tracker', (after density config h).update density observations timestampS =
        (tracker', .returned) ∧
      Frame (after density config h) tracker' density observations timestampS := by
  obtain ⟨hconfig, husable⟩ := usable_after density config h
  obtain ⟨numbers, hnumbers⟩ := numbered_after density config h
  rw [← hconfig] at hvalid
  have hpruned : ((after density config h).prune timestampS).Usable := husable.prune
  obtain ⟨a, ha⟩ := exists_assign hpruned hvalid observations timestampS
  have hupdate : ∃ tracker', (after density config h).update density observations timestampS =
      (tracker', .returned) := by
    rw [update, ha]
    exact ⟨_, rfl⟩
  obtain ⟨tracker', hupdate⟩ := hupdate
  exact ⟨tracker', hupdate, hnumbers.frame hupdate⟩

end Exact

theorem identities_kept (density : Double → Double → Double) (config : TrackerConfig Double)
    (h : List (TrackerCall Double)) :
    (∀ calls, .clear ∉ calls → ((after density config h).tracks.map (·.output.id) ++
        collect (DynamicObstacleTracker.step density) (issued density) (after density config h)
          calls).Nodup) ∧
      (∀ track ∈ (after density config h).tracks, Credible track.output.confidence) ∧
      (∀ observations timestampS,
        (after density config h).Answered density observations timestampS) ∧
      ∀ {K : Type} [Field K] [LinearOrder K] [IsStrictOrderedRing K] (density : K → K → K)
        (config : TrackerConfig K), config.Valid → ∀ (h : List (TrackerCall K)) observations
        timestampS, ∃ tracker',
          (after density config h).update density observations timestampS =
            (tracker', .returned) ∧
          Frame (after density config h) tracker' density observations timestampS := by
  obtain ⟨numbers, hnumbers⟩ := numbered_after density config h
  refine ⟨fun calls hcalls ↦ hnumbers.nodup_ids hcalls, credible_after density config h, ?_, ?_⟩
  · exact fun observations timestampS ↦ hnumbers.answered
  · intro K _ _ _ density config hvalid h observations timestampS
    exact frame_of_valid density hvalid h observations timestampS

/-- Two objects are seen; then the second one has moved, and one more is seen. -/
def crossing {α : Type*} [Zero α] [OfScientific α] : List (TrackerCall α) :=
  [.update [⟨0, 0⟩, ⟨2.0, 0⟩] 1.0, .update [⟨5.0, 0⟩, ⟨2.5, 0⟩] 1.5]

theorem crossing_kept :
    ((after (fun _ _ ↦ 1) TrackerConfig.default (crossing (α := Double))).tracks.map
        fun track ↦ (track.output.id, track.output.observationCount)) =
      [("track_1", 1), ("track_2", 2), ("track_3", 1)] ∧
    (∀ track ∈ (after (fun _ _ ↦ 1) TrackerConfig.default (crossing (α := Double))).tracks,
      Credible track.output.confidence) ∧
    ∃ tracker', (after (fun _ _ ↦ 1) TrackerConfig.default (crossing (α := ℚ))).update
      (fun _ _ ↦ 1) [⟨5.25, 0⟩] 2.25 = (tracker', .returned) ∧
      Frame (after (fun _ _ ↦ 1) TrackerConfig.default (crossing (α := ℚ))) tracker'
        (fun _ _ ↦ 1) [⟨5.25, 0⟩] 2.25 := by
  have hkept := identities_kept (fun _ _ ↦ 1) TrackerConfig.default crossing
  refine ⟨by decide +kernel, hkept.2.1, hkept.2.2.2 (fun _ _ ↦ 1) TrackerConfig.default ?_ crossing
    [⟨5.25, 0⟩] 2.25⟩
  refine ⟨?_, ?_, ?_⟩
  · norm_num [TrackerConfig.default]
  · norm_num [TrackerConfig.default]
  · norm_num [TrackerConfig.default]

/-- An observation that is no number is refused, and the one beside it comes to no track. -/
theorem refused_observation :
    (((after (fun _ _ ↦ 1) TrackerConfig.default []).update (fun _ _ ↦ 1)
      [⟨.nan, 0⟩, ⟨1, 0⟩] 1 : DynamicObstacleTracker Double × UpdateOutcome).2 =
        .invalidArgument "association positions and variances must be finite and valid") ∧
    (((after (fun _ _ ↦ 1) TrackerConfig.default []).update (fun _ _ ↦ 1)
      [⟨.nan, 0⟩, ⟨1, 0⟩] 1 : DynamicObstacleTracker Double × UpdateOutcome)).1.tracks.length =
        0 := by
  decide +kernel

example : ((after (α := Double) (fun _ _ ↦ 1)
    { TrackerConfig.default with associationDistanceM := 1e200 } [.update [⟨0, 0⟩] 1]).update
      (fun _ _ ↦ 1) [] 1.5).2 = .diverged := by
  decide +kernel

end DynamicObstacleTracker

end EmbodiedAgent.Navigation
