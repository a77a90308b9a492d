import EmbodiedAgent.Library.OrderedMap
import EmbodiedAgent.Slam.LidarSubmap

namespace EmbodiedAgent.Slam.LiveSubmap

open Library Planar LidarSubmaps

section Caches

variable {α : Type}

structure Cache (α : Type) where
  entries : OrderedMap ℤ α := .empty
  insertionOrder : List ℤ := []

def evict (maximum : ℕ) : List ℤ → OrderedMap ℤ α → Cache α
  | [], entries => ⟨entries, []⟩
  | stampNs :: order, entries =>
    if maximum < entries.size then evict maximum order (entries.erase stampNs)
    else ⟨entries, stampNs :: order⟩

def Cache.store (maximum : ℕ) (c : Cache α) (stampNs : ℤ) (v : α) : Cache α :=
  match c.entries.find stampNs with
  | some _ => { c with entries := c.entries.insert stampNs v }
  | none => evict maximum (c.insertionOrder ++ [stampNs]) (c.entries.insert stampNs v)

def storeAll (maximum : ℕ) (c : Cache α) (l : List (ℤ × α)) : Cache α :=
  l.foldl (fun c e ↦ c.store maximum e.1 e.2) c

theorem evict_entries {maximum : ℕ} {entries : OrderedMap ℤ α} (order : List ℤ)
    (h : entries.size ≤ maximum) : (evict maximum order entries).entries = entries := by
  cases order with
  | nil => rfl
  | cons stampNs order => rw [evict, if_neg (not_lt.mpr h)]

structure Holds (m : OrderedMap ℤ α) (l : List (ℤ × α)) : Prop where
  sound : ∀ e ∈ m.entries, e ∈ l
  complete : ∀ e ∈ l, ∃ e' ∈ m.entries, e'.1 = e.1

theorem Holds.size_le {m : OrderedMap ℤ α} {l : List (ℤ × α)} (h : Holds m l) {stamps : List ℤ}
    (hl : ∀ e ∈ l, e.1 ∈ stamps) : m.size ≤ stamps.length := by
  have hsub : m.entries.map Prod.fst ⊆ stamps := by
    intro k hk
    obtain ⟨e, he, rfl⟩ := List.mem_map.mp hk
    exact hl e (h.sound e he)
  simpa [OrderedMap.size] using (m.keys_nodup.subperm hsub).length_le

theorem Holds.insert {m : OrderedMap ℤ α} {l : List (ℤ × α)} (h : Holds m l) (e : ℤ × α) :
    Holds (m.insert e.1 e.2) (l ++ [e]) := by
  constructor
  · intro d hd
    rcases OrderedMap.mem_insert.mp hd with rfl | ⟨hd, -⟩
    · simp
    · exact List.mem_append_left _ (h.sound d hd)
  · intro d hd
    by_cases hkey : d.1 = e.1
    · exact ⟨e, OrderedMap.mem_insert.mpr (.inl rfl), hkey.symm⟩
    · have hd' : d ∈ l := by
        rcases List.mem_append.mp hd with hd | hd
        · exact hd
        · exact absurd (congrArg Prod.fst (List.mem_singleton.mp hd)) hkey
      obtain ⟨d', hmem, hd'⟩ := h.complete d hd'
      exact ⟨d', OrderedMap.mem_insert.mpr (.inr ⟨hmem, hd' ▸ hkey⟩), hd'⟩

theorem storeAll_holds {maximum : ℕ} (stamps : List ℤ) (hmax : stamps.length ≤ maximum)
    {l : List (ℤ × α)} (hl : ∀ e ∈ l, e.1 ∈ stamps) :
    Holds (storeAll maximum {} l).entries l := by
  induction l using List.reverseRecOn with
  | nil => exact ⟨fun e he ↦ he, fun e he ↦ absurd he (List.not_mem_nil)⟩
  | append_singleton l e ih =>
    have hbefore := ih fun d hd ↦ hl d (List.mem_append_left _ hd)
    have hafter := hbefore.insert e
    rw [storeAll, List.foldl_append, List.foldl_cons, List.foldl_nil]
    change Holds ((storeAll maximum {} l).store maximum e.1 e.2).entries _
    unfold Cache.store
    split
    · exact hafter
    · rw [evict_entries _ ((hafter.size_le hl).trans hmax)]
      exact hafter

end Caches

section Verifier

variable {K : Type} [Field K] [LinearOrder K] [FloorRing K]

structure LiveLidarLoopVerifierConfig (K : Type) [Zero K] [LT K] where
  maximumCachedScans : ℕ
  maximumCachedOdometry : ℕ
  maximumOdometryTimeDeltaNs : ℤ
  submap : LidarSubmapConfig K
  maximumCachedScans_pos : 0 < maximumCachedScans
  maximumCachedOdometry_pos : 0 < maximumCachedOdometry
  maximumOdometryTimeDeltaNs_pos : 0 < maximumOdometryTimeDeltaNs

structure LiveLidarLoopVerifier (K : Type) [Zero K] [LT K] where
  config : LiveLidarLoopVerifierConfig K
  scans : Cache (List (Point K)) := {}
  odometry : Cache (Planar.Pose2d K) := {}

namespace LiveLidarLoopVerifier

variable (trig : Trigonometry K) (verifier : LiveLidarLoopVerifier K)

def cacheScan (stampNs : ℤ) (points : List (Point K)) : LiveLidarLoopVerifier K :=
  { verifier with
    scans := verifier.scans.store verifier.config.maximumCachedScans stampNs points }

def cacheOdometry (stampNs : ℤ) (pose : Planar.Pose2d K) : LiveLidarLoopVerifier K :=
  { verifier with
    odometry := verifier.odometry.store verifier.config.maximumCachedOdometry stampNs
      { pose with yaw := normalizeAngle trig pose.yaw } }

def nearestOdometry (stampNs : ℤ) : Option (Planar.Pose2d K) :=
  match verifier.odometry.entries.nearest stampNs with
  | none => none
  | some best =>
    if verifier.config.maximumOdometryTimeDeltaNs < |best.1 - stampNs| then none
    else some best.2

def frame (scan : ℤ × List (Point K)) : Option (LidarSubmapFrameView K) :=
  (verifier.nearestOdometry scan.1).map fun odometry ↦
    ⟨scan.1, seconds scan.1, scan.2, odometry⟩

def buildSubmap (centerStampNs : ℤ) : LidarSubmapGeometry K :=
  let half := verifier.config.submap.halfWindowScans
  match verifier.scans.entries.find centerStampNs with
  | none => missing centerStampNs
  | some _ =>
    let before := (verifier.scans.entries.below centerStampNs).rtake half
    let onward := (verifier.scans.entries.onward centerStampNs).take (half + 1)
    assembleLidarSubmap trig verifier.config.submap centerStampNs
      ((before ++ onward).filterMap verifier.frame)

inductive Arrival (K : Type)
  | scan (stampNs : ℤ) (points : List (Point K))
  | odometry (stampNs : ℤ) (pose : Planar.Pose2d K)

def receive : Arrival K → LiveLidarLoopVerifier K
  | .scan stampNs points => verifier.cacheScan stampNs points
  | .odometry stampNs pose => verifier.cacheOdometry trig stampNs pose

/-- The verifier after what has come, oldest first. -/
def after (config : LiveLidarLoopVerifierConfig K) (arrivals : List (Arrival K)) :
    LiveLidarLoopVerifier K :=
  arrivals.foldl (receive trig) { config }

variable {trig} {config : LiveLidarLoopVerifierConfig K} {arrivals : List (Arrival K)}

def Arrival.scanEntry : Arrival K → Option (ℤ × List (Point K))
  | .scan stampNs points => some (stampNs, points)
  | .odometry _ _ => none

variable (trig) in
def Arrival.odometryEntry : Arrival K → Option (ℤ × Planar.Pose2d K)
  | .scan _ _ => none
  | .odometry stampNs pose => some (stampNs, { pose with yaw := normalizeAngle trig pose.yaw })

theorem after_eq (arrivals : List (Arrival K)) :
    after trig config arrivals =
      { config
        scans := storeAll config.maximumCachedScans {} (arrivals.filterMap Arrival.scanEntry)
        odometry := storeAll config.maximumCachedOdometry {}
          (arrivals.filterMap (Arrival.odometryEntry trig)) } := by
  induction arrivals using List.reverseRecOn with
  | nil => rfl
  | append_singleton arrivals arrival ih =>
    rw [after, List.foldl_append, List.foldl_cons, List.foldl_nil]
    change (after trig config arrivals).receive trig arrival = _
    rw [ih]
    cases arrival with
    | scan stampNs points =>
      simp [receive, cacheScan, storeAll, List.filterMap_cons, Arrival.scanEntry,
        Arrival.odometryEntry]
    | odometry stampNs pose =>
      simp [receive, cacheOdometry, storeAll, List.filterMap_cons, Arrival.scanEntry,
        Arrival.odometryEntry]

end LiveLidarLoopVerifier

end Verifier

open LiveLidarLoopVerifier

variable {K : Type} [Field K] [LinearOrder K] [FloorRing K]

/-- The rows of a corpus as messages. -/
def messages (builder : LidarSubmapBuilder K) : List (Arrival K) :=
  (builder.scans.map fun scan ↦ .scan scan.stampNs scan.points) ++
    builder.odometry.map fun row ↦ .odometry row.stampNs row.pose

/-- A row of odometry has the id of a scan just if it has its stamp. -/
structure Matched (builder : LidarSubmapBuilder K) (tolerance : ℤ) : Prop where
  own : ∀ scan ∈ builder.scans, ∀ row ∈ builder.odometry,
    row.scanId = scan.scanId ↔ row.stampNs = scan.stampNs
  apart : ∀ scan ∈ builder.scans, (∀ row ∈ builder.odometry, row.stampNs ≠ scan.stampNs) →
    ∀ row ∈ builder.odometry, tolerance < |row.stampNs - scan.stampNs|

/-- The same frames, one knowing the scans by their stamps and the other by their ids. -/
structure SubmapsAgree (builder : LidarSubmapBuilder K) (live : LidarSubmapGeometry K)
    (offline : LidarSubmap K) : Prop where
  available : live.available = offline.available
  points : live.points = offline.points
  rejectionReason : live.rejectionReason = offline.rejectionReason
  frames : ∃ frames : List (LidarScanRecord K), frames.Sublist builder.scans ∧
    live.contributingFrameIds = frames.map LidarScanRecord.stampNs ∧
    offline.contributingScanIds = frames.map LidarScanRecord.scanId

/-- The corpus in order, and the live verifier fed with it in any order. -/
structure Fed (builder : LidarSubmapBuilder K) (config : LiveLidarLoopVerifierConfig K)
    (arrivals : List (Arrival K)) : Prop where
  config_eq : config.submap = builder.config
  increasing : builder.scans.Pairwise fun s s' ↦ s.stampNs < s'.stampNs
  arrivals_perm : arrivals.Perm (messages builder)
  scans_room : builder.scans.length ≤ config.maximumCachedScans
  odometry_room : (builder.odometry.map LidarOdometryRecord.stampNs).dedup.length ≤
    config.maximumCachedOdometry

variable {trig : Trigonometry K} {builder : LidarSubmapBuilder K}
  {config : LiveLidarLoopVerifierConfig K} {arrivals : List (Arrival K)}

def scanEntry (scan : LidarScanRecord K) : ℤ × List (Point K) := (scan.stampNs, scan.points)

variable (trig) in
def odometryEntry (row : LidarOdometryRecord K) : ℤ × Planar.Pose2d K :=
  (row.stampNs, { row.pose with yaw := normalizeAngle trig row.pose.yaw })

omit [FloorRing K] in
theorem filterMap_scans (h : arrivals.Perm (messages builder)) :
    (arrivals.filterMap Arrival.scanEntry).Perm (builder.scans.map scanEntry) := by
  have hfilter := h.filterMap Arrival.scanEntry
  unfold scanEntry
  simpa [messages, List.filterMap_map, Function.comp_def, Arrival.scanEntry,
    List.filterMap_eq_map'] using hfilter

variable (trig) in
theorem filterMap_odometry (h : arrivals.Perm (messages builder)) :
    (arrivals.filterMap (Arrival.odometryEntry trig)).Perm
      (builder.odometry.map (odometryEntry trig)) := by
  have hfilter := h.filterMap (Arrival.odometryEntry trig)
  unfold odometryEntry
  simpa [messages, List.filterMap_map, Function.comp_def, Arrival.odometryEntry,
    List.filterMap_eq_map'] using hfilter

variable (trig) in
theorem cached_scans (h : Fed builder config arrivals) :
    (after trig config arrivals).scans.entries.entries = builder.scans.map scanEntry := by
  have hperm := filterMap_scans h.arrivals_perm
  have hsorted : (builder.scans.map scanEntry).Pairwise fun e e' ↦ e.1 < e'.1 :=
    List.pairwise_map.mpr h.increasing
  have hkeys : ((builder.scans.map scanEntry).map Prod.fst).Nodup :=
    List.pairwise_map.mpr (hsorted.imp fun hlt ↦ hlt.ne)
  have hholds : Holds (after trig config arrivals).scans.entries
      (arrivals.filterMap Arrival.scanEntry) := by
    rw [after_eq]
    refine storeAll_holds ((builder.scans.map scanEntry).map Prod.fst)
      (by simpa using h.scans_room) ?_
    intro e he
    exact List.mem_map_of_mem (hperm.mem_iff.mp he)
  have heq : (after trig config arrivals).scans.entries =
      ⟨builder.scans.map scanEntry, hsorted⟩ := by
    refine OrderedMap.eq_of_mem_iff fun e ↦ ⟨fun he ↦ hperm.mem_iff.mp (hholds.sound e he), ?_⟩
    intro he
    obtain ⟨e', hmem, hkey⟩ := hholds.complete e (hperm.mem_iff.mpr he)
    rwa [← List.inj_on_of_nodup_map hkeys (hperm.mem_iff.mp (hholds.sound e' hmem)) he hkey]
  rw [heq]

variable (trig) in
theorem cached_odometry (h : Fed builder config arrivals) :
    Holds (after trig config arrivals).odometry.entries
      (arrivals.filterMap (Arrival.odometryEntry trig)) := by
  have hperm := filterMap_odometry trig h.arrivals_perm
  rw [after_eq]
  refine storeAll_holds _ h.odometry_room ?_
  intro e he
  obtain ⟨row, hrow, rfl⟩ := List.mem_map.mp (hperm.mem_iff.mp he)
  exact List.mem_dedup.mpr (List.mem_map_of_mem hrow)

def rowOf (builder : LidarSubmapBuilder K) (scan : LidarScanRecord K) :
    Option (LidarOdometryRecord K) :=
  builder.odometry.find? fun row ↦ row.scanId = scan.scanId

theorem nearestOdometry_eq (h : Fed builder config arrivals)
    (hmatched : Matched builder config.maximumOdometryTimeDeltaNs) {scan : LidarScanRecord K}
    (hscan : scan ∈ builder.scans) :
    (after trig config arrivals).nearestOdometry scan.stampNs =
      (rowOf builder scan).map fun row ↦ (odometryEntry trig row).2 := by
  have hholds := cached_odometry trig h
  have hperm := filterMap_odometry trig h.arrivals_perm
  have hfrom : ∀ e ∈ (after trig config arrivals).odometry.entries.entries,
      ∃ row ∈ builder.odometry, odometryEntry trig row = e := fun e he ↦
    List.mem_map.mp (hperm.mem_iff.mp (hholds.sound e he))
  have hconfig : (after trig config arrivals).config = config := by rw [after_eq]
  cases hrow : rowOf builder scan with
  | some row =>
    have hmem : row ∈ builder.odometry := List.mem_of_find?_eq_some hrow
    have hid : row.scanId = scan.scanId := by simpa using List.find?_some hrow
    have hstamp := (hmatched.own scan hscan row hmem).mp hid
    -- whatever the cache has at the stamp comes from a row with the id of the scan
    obtain ⟨e, he, hkey⟩ := hholds.complete (odometryEntry trig row)
      (hperm.mem_iff.mpr (List.mem_map_of_mem hmem))
    obtain ⟨row', hmem', rfl⟩ := hfrom e he
    have hid' := (hmatched.own scan hscan row' hmem').mpr (hkey.trans hstamp)
    obtain rfl : row' = row :=
      List.inj_on_of_nodup_map builder.odometryIds_nodup hmem' hmem (hid'.trans hid.symm)
    rw [nearestOdometry, ← hstamp, OrderedMap.nearest_of_mem (v := (odometryEntry trig row').2) he,
      hconfig]
    simp [config.maximumOdometryTimeDeltaNs_pos.le]
  | none =>
    have hnone : ∀ row ∈ builder.odometry, row.scanId ≠ scan.scanId := by
      simpa using List.find?_eq_none.mp hrow
    rw [nearestOdometry, hconfig]
    split
    · rfl
    · next best hbest =>
      obtain ⟨row, hmem, rfl⟩ := hfrom best (OrderedMap.nearest_le hbest).1
      have hapart : config.maximumOdometryTimeDeltaNs < |row.stampNs - scan.stampNs| := by
        refine hmatched.apart scan hscan (fun row' hrow' hstamp ↦ ?_) row hmem
        exact hnone row' hrow' ((hmatched.own scan hscan row' hrow').mpr hstamp)
      exact if_pos hapart

variable (pair : LidarScanRecord K × LidarOdometryRecord K)

def offlineView : LidarSubmapFrameView K :=
  ⟨pair.1.scanId, seconds pair.1.stampNs, pair.1.points, pair.2.pose⟩

variable (trig) in
def liveView : LidarSubmapFrameView K :=
  ⟨pair.1.stampNs, seconds pair.1.stampNs, pair.1.points, (odometryEntry trig pair.2).2⟩

theorem views_alike :
    Alike trig (liveView trig pair) (offlineView pair) :=
  ⟨rfl, rfl, rfl, rfl, normalizeAngle_sameHeading trig _⟩

def paired (builder : LidarSubmapBuilder K) (window : List (LidarScanRecord K)) :
    List (LidarScanRecord K × LidarOdometryRecord K) :=
  window.filterMap fun scan ↦ (rowOf builder scan).map fun row ↦ (scan, row)

omit [FloorRing K] in
theorem paired_offline (window : List (LidarScanRecord K)) :
    window.filterMap builder.frame = (paired builder window).map offlineView := by
  rw [paired, List.map_filterMap]
  simp only [Option.map_map]
  rfl

theorem paired_live (h : Fed builder config arrivals)
    (hmatched : Matched builder config.maximumOdometryTimeDeltaNs)
    {window : List (LidarScanRecord K)} (hwindow : ∀ scan ∈ window, scan ∈ builder.scans) :
    (window.map scanEntry).filterMap (after trig config arrivals).frame =
      (paired builder window).map (liveView trig) := by
  rw [paired, List.map_filterMap, List.filterMap_map]
  refine List.filterMap_congr fun scan hscan ↦ ?_
  rw [Function.comp_apply, LiveLidarLoopVerifier.frame, scanEntry,
    nearestOdometry_eq h hmatched (hwindow scan hscan), Option.map_map, Option.map_map]
  rfl

omit [FloorRing K] in
theorem paired_sublist (window : List (LidarScanRecord K)) :
    ((paired builder window).map Prod.fst).Sublist window := by
  rw [paired, List.map_filterMap]
  induction window with
  | nil => exact List.Sublist.slnil
  | cons scan window ih =>
    rw [List.filterMap_cons]
    cases rowOf builder scan with
    | none => exact ih.cons _
    | some row => exact ih.cons_cons _

theorem buildSubmap_eq (h : Fed builder config arrivals)
    (hmatched : Matched builder config.maximumOdometryTimeDeltaNs)
    {pre post : List (LidarScanRecord K)} {scan : LidarScanRecord K}
    (hscans : builder.scans = pre ++ scan :: post) :
    (after trig config arrivals).buildSubmap trig scan.stampNs =
      assembleLidarSubmap trig builder.config scan.stampNs
        ((paired builder (pre.rtake builder.config.halfWindowScans ++
          scan :: post.take builder.config.halfWindowScans)).map (liveView trig)) := by
  have hentries := cached_scans trig h
  rw [hscans, List.map_append, List.map_cons] at hentries
  obtain ⟨hbelow, honward⟩ := OrderedMap.cut_eq hentries
  have hconfig : (after trig config arrivals).config.submap = builder.config := by
    rw [after_eq]
    exact h.config_eq
  have hwindow : ∀ s ∈ pre.rtake builder.config.halfWindowScans ++
      scan :: post.take builder.config.halfWindowScans, s ∈ builder.scans := by
    intro s hs
    rw [hscans]
    refine (List.Sublist.append ?_ ((List.take_sublist _ _).cons_cons scan)).subset hs
    exact List.drop_sublist _ _
  rw [buildSubmap, hconfig]
  split
  next hnone =>
    exact absurd rfl (OrderedMap.find_eq_none.mp hnone (scanEntry scan) (by simp [hentries]))
  next =>
    rw [hbelow, honward, ← paired_live h hmatched hwindow]
    simp [List.rtake, scanEntry, List.map_drop, List.map_take]

/-- The live verifier and the offline builder make the same submap of every scan. -/
theorem submaps_agree (trig : Trigonometry K) (h : Fed builder config arrivals)
    (hmatched : Matched builder config.maximumOdometryTimeDeltaNs) {scan : LidarScanRecord K}
    (hscan : scan ∈ builder.scans) :
    SubmapsAgree builder ((after trig config arrivals).buildSubmap trig scan.stampNs)
      (builder.build trig scan.scanId) := by
  obtain ⟨pre, post, hscans⟩ := List.append_of_mem hscan
  have hids : ∀ s ∈ builder.scans, s.stampNs = scan.stampNs ↔ s.scanId = scan.scanId := by
    have hstamps : (builder.scans.map LidarScanRecord.stampNs).Nodup :=
      List.pairwise_map.mpr (h.increasing.imp fun hlt ↦ hlt.ne)
    intro s hs
    constructor
    · intro heq
      rw [List.inj_on_of_nodup_map hstamps hs hscan heq]
    · intro heq
      rw [List.inj_on_of_nodup_map builder.scanIds_nodup hs hscan heq]
  rw [buildSubmap_eq h hmatched hscans, LidarSubmapBuilder.build_eq trig hscans, paired_offline]
  generalize hwindow : pre.rtake builder.config.halfWindowScans ++
    scan :: post.take builder.config.halfWindowScans = window
  have hsub : window.Sublist builder.scans := by
    rw [hscans, ← hwindow]
    exact List.Sublist.append (List.drop_sublist _ _) ((List.take_sublist _ _).cons_cons scan)
  have hmem : ∀ pair ∈ paired builder window, pair.1 ∈ builder.scans := fun pair hpair ↦
    hsub.subset ((paired_sublist window).subset (List.mem_map_of_mem hpair))
  have hcenter : ∀ pair ∈ paired builder window,
      (liveView trig pair).frameId = scan.stampNs ↔ (offlineView pair).frameId = scan.scanId :=
    fun pair hpair ↦ hids pair.1 (hmem pair hpair)
  obtain ⟨frames, hframes, hlive, hoffline, hpoints, havailable, hreason⟩ :=
    assemble_alike builder.config hcenter fun pair _ ↦ views_alike pair
  refine ⟨havailable, hpoints, hreason, frames.map Prod.fst, ?_, ?_, ?_⟩
  · exact ((hframes.map Prod.fst).trans (paired_sublist window)).trans hsub
  · rw [hlive, List.map_map]
    rfl
  · rw [LidarSubmap.ofGeometry, hoffline, List.map_map]
    rfl

theorem tolerance_pos : (0 : ℤ) < 50000000 := by norm_num

noncomputable def cornerConfig : LiveLidarLoopVerifierConfig ℝ where
  maximumCachedScans := 1
  maximumCachedOdometry := 1
  maximumOdometryTimeDeltaNs := 50000000
  submap := ⟨1, 1, 1, 1, 3, Nat.one_pos, Nat.one_pos, le_rfl, Real.zero_lt_one⟩
  maximumCachedScans_pos := Nat.one_pos
  maximumCachedOdometry_pos := Nat.one_pos
  maximumOdometryTimeDeltaNs_pos := tolerance_pos

def cornerScan : LidarScanRecord ℝ := ⟨1, 0, [⟨0, 0⟩, ⟨1, 0⟩, ⟨0, 1⟩]⟩

/-- One scan, and its row of odometry with this stamp. -/
noncomputable def corner (stampNs : ℤ) : LidarSubmapBuilder ℝ where
  scans := [cornerScan]
  odometry := [⟨1, stampNs, ⟨0, 0, 0⟩⟩]
  config := cornerConfig.submap
  scans_ne_nil := List.cons_ne_nil _ _
  odometry_ne_nil := List.cons_ne_nil _ _
  scanIds_nodup := List.nodup_singleton _
  odometryIds_nodup := List.nodup_singleton _

theorem corner_fed (stampNs : ℤ) :
    Fed (corner stampNs) cornerConfig (messages (corner stampNs)) where
  config_eq := rfl
  increasing := List.pairwise_singleton _ _
  arrivals_perm := .refl _
  scans_room := le_rfl
  odometry_room := by simp [corner, cornerConfig]

theorem corner_matched : Matched (corner 0) cornerConfig.maximumOdometryTimeDeltaNs where
  own := by simp [corner, cornerScan]
  apart := by simp [corner, cornerScan]

theorem corner_agrees :
    SubmapsAgree (corner 0)
      ((after realTrigonometry cornerConfig (messages (corner 0))).buildSubmap realTrigonometry
        cornerScan.stampNs)
      ((corner 0).build realTrigonometry cornerScan.scanId) :=
  submaps_agree realTrigonometry (corner_fed 0) corner_matched (List.mem_singleton.mpr rfl)

/-- The builder takes the row of a scan wherever its stamp is. -/
theorem far_row_used :
    Fed (corner 10000000000) cornerConfig (messages (corner 10000000000)) ∧
      (∀ scan ∈ (corner 10000000000).scans,
        (∃ row ∈ (corner 10000000000).odometry, row.stampNs = scan.stampNs) ∨
          ∀ row ∈ (corner 10000000000).odometry,
            cornerConfig.maximumOdometryTimeDeltaNs < |row.stampNs - scan.stampNs|) ∧
      ((after realTrigonometry cornerConfig (messages (corner 10000000000))).buildSubmap
        realTrigonometry 0).available = false ∧
      ((corner 10000000000).build realTrigonometry 1).available = true := by
  refine ⟨corner_fed _, ?_, ?_, ?_⟩
  · simp [corner, cornerScan, cornerConfig]
  · simp [messages, corner, cornerConfig, cornerScan, after, receive, cacheScan, cacheOdometry,
      Cache.store, OrderedMap.find, OrderedMap.empty, evict, OrderedMap.size, OrderedMap.insert,
      OrderedMap.place, buildSubmap, OrderedMap.below, OrderedMap.onward,
      LiveLidarLoopVerifier.frame, nearestOdometry, OrderedMap.nearest, assembleLidarSubmap,
      missing]
  · simp [corner, cornerConfig, cornerScan, LidarSubmapBuilder.build, List.findIdx?_cons,
      LidarSubmapBuilder.window, LidarSubmap.ofGeometry, assembleLidarSubmap,
      LidarSubmapBuilder.frame, judge, InTime, contribution, strided, List.range_succ]

end EmbodiedAgent.Slam.LiveSubmap
