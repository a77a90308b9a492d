import EmbodiedAgent.Slam.PlanarPose
import Mathlib.Data.List.DropRight

namespace EmbodiedAgent.Slam.LidarSubmaps

open Library Planar

/-- `LidarSubmapConfig`, which `validateConfig` has accepted. -/
structure LidarSubmapConfig (K : Type) [Zero K] [LT K] where
  halfWindowScans : ℕ
  maximumTimeDeltaS : K
  pointStride : ℕ
  minimumContributingScans : ℕ
  minimumPoints : ℕ
  pointStride_pos : 0 < pointStride
  minimumContributingScans_pos : 0 < minimumContributingScans
  minimumPoints_ge : 3 ≤ minimumPoints
  maximumTimeDeltaS_pos : 0 < maximumTimeDeltaS

structure LidarSubmapFrameView (K : Type) where
  frameId : ℤ
  stampS : K
  points : List (Point K)
  odometryPose : Planar.Pose2d K

structure LidarSubmapGeometry (K : Type) where
  available : Bool := false
  centerFrameId : ℤ
  contributingFrameIds : List ℤ := []
  points : List (Point K) := []
  rejectionReason : String

def strided {α : Type} (stride : ℕ) (points : List α) : List α :=
  ((List.range points.length).filter fun i ↦ i % stride = 0).filterMap fun i ↦ points[i]?

variable {K : Type} [Field K] [LinearOrder K] [FloorRing K]

section Assembling

variable (trig : Trigonometry K)

def relativePose (center neighbor : Planar.Pose2d K) : Planar.Pose2d K :=
  let worldX := neighbor.x - center.x
  let worldY := neighbor.y - center.y
  { x := trig.cos center.yaw * worldX + trig.sin center.yaw * worldY
    y := -trig.sin center.yaw * worldX + trig.cos center.yaw * worldY
    yaw := normalizeAngle trig (neighbor.yaw - center.yaw) }

variable (config : LidarSubmapConfig K)

def contribution (center frame : LidarSubmapFrameView K) : List (Point K) :=
  (strided config.pointStride frame.points).map
    (transformPoint trig (relativePose trig center.odometryPose frame.odometryPose))

def InTime (center frame : LidarSubmapFrameView K) : Prop :=
  |frame.stampS - center.stampS| ≤ config.maximumTimeDeltaS

instance (center frame : LidarSubmapFrameView K) : Decidable (InTime config center frame) :=
  inferInstanceAs (Decidable (_ ≤ _))

def judge (centerFrameId : ℤ) (ids : List ℤ) (points : List (Point K)) : LidarSubmapGeometry K :=
  { available := config.minimumContributingScans ≤ ids.length ∧ config.minimumPoints ≤ points.length
    centerFrameId
    contributingFrameIds := ids
    points
    rejectionReason :=
      if ids.length < config.minimumContributingScans then "insufficient_contributing_scans"
      else if points.length < config.minimumPoints then "insufficient_submap_points"
      else "available" }

def missing (centerFrameId : ℤ) : LidarSubmapGeometry K where
  centerFrameId := centerFrameId
  rejectionReason := "missing_center_scan_or_odometry"

/-- Numbers of `K` are finite, and so are the points that come of them. -/
def assembleLidarSubmap (centerFrameId : ℤ) (orderedFrames : List (LidarSubmapFrameView K)) :
    LidarSubmapGeometry K :=
  match orderedFrames.find? (fun frame ↦ frame.frameId = centerFrameId) with
  | none => missing centerFrameId
  | some center =>
    let frames := orderedFrames.filter fun frame ↦ InTime config center frame
    judge config centerFrameId (frames.map LidarSubmapFrameView.frameId)
      (frames.flatMap (contribution trig config center))

end Assembling

def seconds (ns : ℤ) : K := ns / ((1000000000 : ℕ) : K)

structure LidarScanRecord (K : Type) where
  scanId : ℤ
  stampNs : ℤ
  points : List (Point K)

structure LidarOdometryRecord (K : Type) where
  scanId : ℤ
  stampNs : ℤ
  pose : Planar.Pose2d K

structure LidarSubmap (K : Type) where
  available : Bool := false
  centerScanId : ℤ
  contributingScanIds : List ℤ := []
  points : List (Point K) := []
  rejectionReason : String

def LidarSubmap.ofGeometry (centerScanId : ℤ) (geometry : LidarSubmapGeometry K) :
    LidarSubmap K where
  available := geometry.available
  centerScanId := centerScanId
  contributingScanIds := geometry.contributingFrameIds
  points := geometry.points
  rejectionReason := geometry.rejectionReason

structure LidarSubmapBuilder (K : Type) [Zero K] [LT K] where
  scans : List (LidarScanRecord K)
  odometry : List (LidarOdometryRecord K)
  config : LidarSubmapConfig K
  scans_ne_nil : scans ≠ []
  odometry_ne_nil : odometry ≠ []
  scanIds_nodup : (scans.map LidarScanRecord.scanId).Nodup
  odometryIds_nodup : (odometry.map LidarOdometryRecord.scanId).Nodup

namespace LidarSubmapBuilder

variable (trig : Trigonometry K) (builder : LidarSubmapBuilder K)

def frame (scan : LidarScanRecord K) : Option (LidarSubmapFrameView K) :=
  (builder.odometry.find? fun row ↦ row.scanId = scan.scanId).map fun row ↦
    ⟨scan.scanId, seconds scan.stampNs, scan.points, row.pose⟩

def window (index : ℕ) : List (LidarSubmapFrameView K) :=
  let half := builder.config.halfWindowScans
  let first := if half < index then index - half else 0
  let last := min (builder.scans.length - 1) (index + half)
  (List.range' first (last + 1 - first)).filterMap fun i ↦
    builder.scans[i]?.bind builder.frame

def build (centerScanId : ℤ) : LidarSubmap K :=
  match builder.scans.findIdx? (fun scan ↦ scan.scanId = centerScanId),
    builder.odometry.find? (fun row ↦ row.scanId = centerScanId) with
  | some index, some _ =>
    .ofGeometry centerScanId
      (assembleLidarSubmap trig builder.config centerScanId (builder.window index))
  | _, _ => { centerScanId, rejectionReason := "missing_center_scan_or_odometry" }

variable {builder} {pre post : List (LidarScanRecord K)} {scan : LidarScanRecord K}

theorem filterMap_range' {α β : Type} (f : α → Option β) (l : List α) (first count : ℕ) :
    (List.range' first count).filterMap (fun i ↦ l[i]?.bind f) =
      ((l.drop first).take count).filterMap f := by
  induction count generalizing first with
  | zero => simp
  | succ count ih =>
    rw [List.range'_succ, List.filterMap_cons, ih (first + 1)]
    by_cases hfirst : first < l.length
    · rw [List.drop_eq_getElem_cons hfirst, List.take_succ_cons, List.filterMap_cons,
        List.getElem?_eq_getElem hfirst, Option.bind_some]
    · have hend : l.length ≤ first := not_lt.mp hfirst
      rw [List.getElem?_eq_none hend, Option.bind_none, List.drop_eq_nil_of_le hend,
        List.drop_eq_nil_of_le (Nat.le_succ_of_le hend)]
      simp

omit [FloorRing K] in
theorem window_eq (h : builder.scans = pre ++ scan :: post) : builder.window pre.length =
      (pre.rtake builder.config.halfWindowScans ++
        scan :: post.take builder.config.halfWindowScans).filterMap builder.frame := by
  generalize hhalf : builder.config.halfWindowScans = half
  have hfirst : (if half < pre.length then pre.length - half else 0) = pre.length - half := by
    split_ifs <;> omega
  have hcount : min (builder.scans.length - 1) (pre.length + half) + 1 - (pre.length - half) =
      (pre.drop (pre.length - half)).length + (min half post.length + 1) := by
    rw [h, List.length_append, List.length_cons, List.length_drop]
    omega
  rw [window, hhalf, hfirst, hcount, filterMap_range', h,
    List.drop_append_of_le_length (Nat.sub_le _ _), List.take_length_add_append,
    List.take_succ_cons, ← List.take_eq_take_min, List.rtake]

omit [FloorRing K] in
theorem findIdx?_eq (h : builder.scans = pre ++ scan :: post) :
    builder.scans.findIdx? (fun s ↦ s.scanId = scan.scanId) = some pre.length := by
  have hids := builder.scanIds_nodup
  have hpre : ∀ s ∈ pre, s.scanId ≠ scan.scanId := by
    intro s hs
    rw [h, List.map_append, List.map_cons] at hids
    exact (List.nodup_append.mp hids).2.2 s.scanId (List.mem_map_of_mem hs) scan.scanId (by simp)
  rw [h, List.findIdx?_append, List.findIdx?_eq_none_iff.mpr (by simpa using hpre),
    List.findIdx?_cons]
  simp

omit [FloorRing K] in
theorem frame_eq_some {frame : LidarSubmapFrameView K} (h : builder.frame scan = some frame) :
    frame.frameId = scan.scanId ∧
      (builder.odometry.find? fun row ↦ row.scanId = scan.scanId).isSome := by
  obtain ⟨row, hrow, rfl⟩ := Option.map_eq_some_iff.mp h
  exact ⟨rfl, by rw [hrow]; rfl⟩

theorem build_eq (h : builder.scans = pre ++ scan :: post) : builder.build trig scan.scanId =
      .ofGeometry scan.scanId (assembleLidarSubmap trig builder.config scan.scanId
        ((pre.rtake builder.config.halfWindowScans ++
          scan :: post.take builder.config.halfWindowScans).filterMap builder.frame)) := by
  rw [build, findIdx?_eq h]
  cases hrow : builder.odometry.find? (fun row ↦ row.scanId = scan.scanId) with
  | some row => rw [← window_eq h]
  | none =>
    have hcenter : ((pre.rtake builder.config.halfWindowScans ++
        scan :: post.take builder.config.halfWindowScans).filterMap builder.frame).find?
          (fun frame ↦ frame.frameId = scan.scanId) = none := by
      rw [List.find?_eq_none]
      intro frame hframe hid
      obtain ⟨s, -, hs⟩ := List.mem_filterMap.mp hframe
      obtain ⟨hframeId, hsome⟩ := frame_eq_some hs
      rw [← hframeId, of_decide_eq_true hid, hrow] at hsome
      exact absurd hsome (by simp)
    rw [assembleLidarSubmap, hcenter]
    rfl

end LidarSubmapBuilder

structure Alike (trig : Trigonometry K) (f f' : LidarSubmapFrameView K) : Prop where
  stampS : f.stampS = f'.stampS
  points : f.points = f'.points
  x : f.odometryPose.x = f'.odometryPose.x
  y : f.odometryPose.y = f'.odometryPose.y
  yaw : trig.SameHeading f.odometryPose.yaw f'.odometryPose.yaw

variable {trig : Trigonometry K} {config : LidarSubmapConfig K}
  {center center' f f' : LidarSubmapFrameView K}

omit [FloorRing K] in
theorem transformPoint_alike {pose pose' : Planar.Pose2d K} (hx : pose.x = pose'.x)
    (hy : pose.y = pose'.y) (hyaw : trig.SameHeading pose.yaw pose'.yaw) :
    transformPoint trig pose = transformPoint trig pose' := by
  funext p
  rw [transformPoint, transformPoint, hx, hy, hyaw.cos_sin.1, hyaw.cos_sin.2]

theorem contribution_alike (hcenter : Alike trig center center') (hf : Alike trig f f') :
    contribution trig config center f = contribution trig config center' f' := by
  obtain ⟨hcos, hsin⟩ := hcenter.yaw.cos_sin
  have hpose : transformPoint trig (relativePose trig center.odometryPose f.odometryPose) =
      transformPoint trig (relativePose trig center'.odometryPose f'.odometryPose) := by
    apply transformPoint_alike
    · rw [relativePose, relativePose, hcenter.x, hcenter.y, hf.x, hf.y, hcos, hsin]
    · rw [relativePose, relativePose, hcenter.x, hcenter.y, hf.x, hf.y, hcos, hsin]
    · exact (normalizeAngle_sameHeading trig _).trans
        ((hf.yaw.sub hcenter.yaw).trans (normalizeAngle_sameHeading trig _).symm)
  rw [contribution, contribution, hf.points, hpose]

omit [FloorRing K] in
theorem inTime_alike (hcenter : Alike trig center center') (hf : Alike trig f f') :
    InTime config center f ↔ InTime config center' f' := by
  rw [InTime, InTime, hcenter.stampS, hf.stampS]

theorem assemble_alike (config : LidarSubmapConfig K) {ι : Type} {l : List ι}
    {view view' : ι → LidarSubmapFrameView K} {c c' : ℤ}
    (hcenter : ∀ i ∈ l, (view i).frameId = c ↔ (view' i).frameId = c')
    (halike : ∀ i ∈ l, Alike trig (view i) (view' i)) : ∃ frames : List ι, frames.Sublist l ∧
      ((assembleLidarSubmap trig config c (l.map view)).contributingFrameIds =
          frames.map fun i ↦ (view i).frameId) ∧
      ((assembleLidarSubmap trig config c' (l.map view')).contributingFrameIds =
          frames.map fun i ↦ (view' i).frameId) ∧
      (assembleLidarSubmap trig config c (l.map view)).points =
        (assembleLidarSubmap trig config c' (l.map view')).points ∧
      (assembleLidarSubmap trig config c (l.map view)).available =
        (assembleLidarSubmap trig config c' (l.map view')).available ∧
      (assembleLidarSubmap trig config c (l.map view)).rejectionReason =
        (assembleLidarSubmap trig config c' (l.map view')).rejectionReason := by
  have hfind : l.find? (fun i ↦ (view i).frameId = c) = l.find? fun i ↦ (view' i).frameId = c' :=
    List.find?_congr fun i hi ↦ decide_eq_decide.mpr (hcenter i hi)
  unfold assembleLidarSubmap
  rw [List.find?_map, List.find?_map, Function.comp_def, Function.comp_def, hfind]
  cases hi : l.find? (fun i ↦ (view' i).frameId = c') with
  | none => exact ⟨[], List.nil_sublist l, rfl, rfl, rfl, rfl, rfl⟩
  | some i =>
    have hmem : i ∈ l := List.mem_of_find?_eq_some hi
    have hfilter : l.filter (fun j ↦ InTime config (view i) (view j)) =
        l.filter fun j ↦ InTime config (view' i) (view' j) :=
      List.filter_congr fun j hj ↦
        decide_eq_decide.mpr (inTime_alike (halike i hmem) (halike j hj))
    have hpoints : (l.filter fun j ↦ InTime config (view' i) (view' j)).flatMap
          (fun j ↦ contribution trig config (view i) (view j)) =
        (l.filter fun j ↦ InTime config (view' i) (view' j)).flatMap
          fun j ↦ contribution trig config (view' i) (view' j) :=
      List.flatMap_congr fun j hj ↦
        contribution_alike (halike i hmem) (halike j (List.mem_of_mem_filter hj))
    refine ⟨l.filter fun j ↦ InTime config (view' i) (view' j), List.filter_sublist, ?_⟩
    simp only [Option.map_some, judge, List.filter_map, Function.comp_def, List.map_map,
      List.flatMap_map, List.length_map, hfilter, hpoints, true_and]

end EmbodiedAgent.Slam.LidarSubmaps
