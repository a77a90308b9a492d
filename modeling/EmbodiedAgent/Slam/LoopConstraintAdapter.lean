import EmbodiedAgent.Library.Arithmetic
import EmbodiedAgent.Slam.PlanarPose

namespace EmbodiedAgent.Slam.LoopConstraintAdapter

open Library Planar

section Model

variable {K : Type}

structure LoopConstraintBackendRequest (K : Type) where
  queryStampNs : Int64 := 0
  candidateStampNs : Int64 := 0
  targetToSource : Planar.Pose2d K

structure LoopConstraintScanRecord (K : Type) where
  uniqueId : Int64 := -1
  stampNs : Int64 := 0
  correctedPose : Planar.Pose2d K
  sensorPose : Planar.Pose2d K

structure ResolvedLoopConstraint (K : Type) where
  available : Bool := false
  query : Option (LoopConstraintScanRecord K) := none
  candidate : Option (LoopConstraintScanRecord K) := none
  querySensorPose : Option (Planar.Pose2d K) := none
  reason : String := ""

def finitePose [Extended K] (pose : Planar.Pose2d K) : Bool :=
  Extended.isFinite pose.x && Extended.isFinite pose.y && Extended.isFinite pose.yaw

def delta (stampNs : Int64) (scan : LoopConstraintScanRecord K) : ℤ :=
  |scan.stampNs.toInt - stampNs.toInt|

def maxInt64 : ℤ := 2 ^ 63 - 1

def keepNearer (stampNs : Int64) (state : Option (LoopConstraintScanRecord K) × ℤ)
    (scan : LoopConstraintScanRecord K) : Option (LoopConstraintScanRecord K) × ℤ :=
  if delta stampNs scan < state.2 then (some scan, delta stampNs scan)
  else
    match state.1 with
    | some best =>
      if delta stampNs scan = state.2 ∧ scan.uniqueId < best.uniqueId then
        (some scan, delta stampNs scan)
      else state
    | none => state

def nearest (scans : List (LoopConstraintScanRecord K)) (stampNs maximumDeltaNs : Int64) :
    Option (LoopConstraintScanRecord K) :=
  let state := scans.foldl (keepNearer stampNs) (none, maxInt64)
  if state.2 ≤ maximumDeltaNs.toInt then state.1 else none

variable [Field K] [LinearOrder K] [FloorRing K] [Extended K] (trig : Trigonometry K)

def resolveLoopConstraint (request : LoopConstraintBackendRequest K)
    (scans : List (LoopConstraintScanRecord K)) (maximumStampDeltaNs : Int64) :
    Except String (ResolvedLoopConstraint K) :=
  if maximumStampDeltaNs ≤ 0 ∨ request.queryStampNs ≤ 0 ∨ request.candidateStampNs ≤ 0 ∨
      request.candidateStampNs ≥ request.queryStampNs ∨ !finitePose request.targetToSource then
    .error "invalid loop constraint backend request"
  else
    match nearest scans request.queryStampNs maximumStampDeltaNs with
    | none => .ok { reason := "query_scan_not_resolved" }
    | some query =>
      match nearest scans request.candidateStampNs maximumStampDeltaNs with
      | none => .ok { reason := "candidate_scan_not_resolved" }
      | some candidate =>
        if query.uniqueId = candidate.uniqueId then .ok { reason := "resolved_to_same_scan" }
        else if candidate.stampNs ≥ query.stampNs then
          .ok { reason := "resolved_time_order_invalid" }
        else if !finitePose query.correctedPose || !finitePose query.sensorPose ||
            !finitePose candidate.correctedPose || !finitePose candidate.sensorPose then
          .ok { reason := "resolved_scan_pose_invalid" }
        else
          .ok
            { available := true
              query := some query
              candidate := some candidate
              querySensorPose := some
                (compose trig candidate.sensorPose (inverse trig request.targetToSource))
              reason := "resolved" }

end Model

section Nearest

variable {K : Type} {scans : List (LoopConstraintScanRecord K)} {stampNs maximumDeltaNs : Int64}
  {best scan : LoopConstraintScanRecord K}

def NoLater (stampNs : Int64) (a b : LoopConstraintScanRecord K) : Prop :=
  delta stampNs a < delta stampNs b ∨
    delta stampNs a = delta stampNs b ∧ a.uniqueId.toInt ≤ b.uniqueId.toInt

def Keeps (stampNs : Int64) (scans : List (LoopConstraintScanRecord K)) :
    Option (LoopConstraintScanRecord K) × ℤ → Prop
  | (some best, d) => best ∈ scans ∧ d = delta stampNs best ∧ d < maxInt64 ∧
      ∀ scan ∈ scans, NoLater stampNs best scan
  | (none, d) => d = maxInt64 ∧ ∀ scan ∈ scans, maxInt64 ≤ delta stampNs scan

theorem noLater_refl (stampNs : Int64) (scan : LoopConstraintScanRecord K) :
    NoLater stampNs scan scan := .inr ⟨rfl, le_rfl⟩

theorem NoLater.trans {a b c : LoopConstraintScanRecord K} (h : NoLater stampNs a b)
    (h' : NoLater stampNs b c) : NoLater stampNs a c := by
  rw [NoLater] at h h' ⊢
  omega

theorem keeps_step {state : Option (LoopConstraintScanRecord K) × ℤ}
    (h : Keeps stampNs scans state) (scan : LoopConstraintScanRecord K) :
    Keeps stampNs (scans ++ [scan]) (keepNearer stampNs state scan) := by
  have hall {best : LoopConstraintScanRecord K} (hold : ∀ s ∈ scans, NoLater stampNs best s)
      (hnew : NoLater stampNs best scan) : ∀ s ∈ scans ++ [scan], NoLater stampNs best s := by
    intro s hs
    rcases List.mem_append.mp hs with hs | hs
    · exact hold s hs
    · rwa [List.mem_singleton.mp hs]
  have hmem : scan ∈ scans ++ [scan] := List.mem_append_right _ List.mem_cons_self
  obtain ⟨best, d⟩ := state
  rw [keepNearer]
  cases best with
  | none =>
    obtain ⟨rfl, hfar⟩ := h
    dsimp only
    split_ifs with hlt
    · refine ⟨hmem, rfl, hlt, hall (fun s hs ↦ .inl ?_) (noLater_refl _ _)⟩
      exact hlt.trans_le (hfar s hs)
    · refine ⟨rfl, fun s hs ↦ ?_⟩
      rcases List.mem_append.mp hs with hs | hs
      · exact hfar s hs
      · rw [List.mem_singleton.mp hs]
        exact not_lt.mp hlt
  | some best =>
    obtain ⟨hbest, rfl, hmax, hnearest⟩ := h
    dsimp only
    split_ifs with hlt htie
    · exact ⟨hmem, rfl, hlt.trans hmax,
        hall (fun s hs ↦ NoLater.trans (.inl hlt) (hnearest s hs)) (noLater_refl _ _)⟩
    · have hfirst : NoLater stampNs scan best :=
        Or.inr ⟨htie.1, (Int64.lt_iff_toInt_lt.mp htie.2).le⟩
      exact ⟨hmem, rfl, htie.1 ▸ hmax,
        hall (fun s hs ↦ hfirst.trans (hnearest s hs)) (noLater_refl _ _)⟩
    · refine ⟨List.mem_append_left _ hbest, rfl, hmax, hall hnearest ?_⟩
      rw [Int64.lt_iff_toInt_lt] at htie
      rw [NoLater]
      omega

theorem keeps_fold (stampNs : Int64) (scans : List (LoopConstraintScanRecord K)) :
    Keeps stampNs scans (scans.foldl (keepNearer stampNs) (none, maxInt64)) := by
  induction scans using List.reverseRecOn with
  | nil => exact ⟨rfl, fun s hs ↦ absurd hs List.not_mem_nil⟩
  | append_singleton scans scan ih =>
    rw [List.foldl_append]
    exact keeps_step ih scan

structure NearestTo (scans : List (LoopConstraintScanRecord K)) (stampNs maximumDeltaNs : Int64)
    (scan : LoopConstraintScanRecord K) : Prop where
  recorded : scan ∈ scans
  nearest : ∀ other ∈ scans, delta stampNs scan ≤ delta stampNs other
  within : delta stampNs scan ≤ maximumDeltaNs.toInt

theorem nearestTo_of_nearest (h : nearest scans stampNs maximumDeltaNs = some scan) :
    NearestTo scans stampNs maximumDeltaNs scan := by
  have hkeeps := keeps_fold stampNs scans
  rw [nearest] at h
  generalize scans.foldl (keepNearer stampNs) (none, maxInt64) = state at h hkeeps
  obtain ⟨best, d⟩ := state
  dsimp only at h
  split_ifs at h with hd
  subst h
  obtain ⟨hmem, rfl, -, hnearest⟩ := hkeeps
  refine ⟨hmem, fun other hother ↦ ?_, hd⟩
  rcases hnearest other hother with hlt | ⟨heq, -⟩
  · exact hlt.le
  · exact heq.le

theorem eq_of_noLater {a b : LoopConstraintScanRecord K}
    (hids : (scans.map LoopConstraintScanRecord.uniqueId).Nodup) (ha : a ∈ scans) (hb : b ∈ scans)
    (hab : NoLater stampNs a b) (hba : NoLater stampNs b a) : a = b := by
  have hid : a.uniqueId = b.uniqueId := by
    rw [← Int64.toInt_inj]
    rw [NoLater] at hab hba
    omega
  exact List.inj_on_of_nodup_map hids ha hb hid

theorem nearest_perm {scans' : List (LoopConstraintScanRecord K)}
    (hids : (scans.map LoopConstraintScanRecord.uniqueId).Nodup) (h : scans.Perm scans') :
    nearest scans' stampNs maximumDeltaNs = nearest scans stampNs maximumDeltaNs := by
  have hkeeps := keeps_fold stampNs scans
  have hkeeps' := keeps_fold stampNs scans'
  rw [nearest, nearest]
  generalize scans.foldl (keepNearer stampNs) (none, maxInt64) = state at hkeeps ⊢
  generalize scans'.foldl (keepNearer stampNs) (none, maxInt64) = state' at hkeeps' ⊢
  obtain ⟨best, d⟩ := state
  obtain ⟨best', d'⟩ := state'
  cases best with
  | none =>
    obtain ⟨rfl, hfar⟩ := hkeeps
    cases best' with
    | none =>
      obtain ⟨rfl, -⟩ := hkeeps'
      rfl
    | some scan =>
      obtain ⟨hmem, rfl, hmax, -⟩ := hkeeps'
      exact absurd hmax (hfar scan (h.mem_iff.mpr hmem)).not_gt
  | some scan =>
    obtain ⟨hmem, rfl, hmax, hnearest⟩ := hkeeps
    cases best' with
    | none =>
      obtain ⟨rfl, hfar⟩ := hkeeps'
      exact absurd hmax (hfar scan (h.mem_iff.mp hmem)).not_gt
    | some scan' =>
      obtain ⟨hmem', rfl, -, hnearest'⟩ := hkeeps'
      have hmem'' := h.mem_iff.mpr hmem'
      have hlater := hnearest' scan (h.mem_iff.mp hmem)
      rw [eq_of_noLater hids hmem hmem'' (hnearest scan' hmem'') hlater]

end Nearest

variable {K : Type} [Field K] [LinearOrder K] [FloorRing K] [Extended K] {trig : Trigonometry K}
  {request : LoopConstraintBackendRequest K} {scans : List (LoopConstraintScanRecord K)}
  {maximumStampDeltaNs : Int64} {output : ResolvedLoopConstraint K}

/-- What an available resolution consists of. -/
structure Resolves (trig : Trigonometry K) (request : LoopConstraintBackendRequest K)
    (scans : List (LoopConstraintScanRecord K)) (maximumStampDeltaNs : Int64)
    (query candidate : LoopConstraintScanRecord K) (pose : Planar.Pose2d K) : Prop where
  query_nearest : NearestTo scans request.queryStampNs maximumStampDeltaNs query
  candidate_nearest : NearestTo scans request.candidateStampNs maximumStampDeltaNs candidate
  distinct : query.uniqueId ≠ candidate.uniqueId
  inOrder : candidate.stampNs < query.stampNs
  exact : ∀ p : Point K, transformPoint trig pose (transformPoint trig request.targetToSource p) =
    transformPoint trig candidate.sensorPose p
  heading : trig.SameHeading (pose.yaw + request.targetToSource.yaw) candidate.sensorPose.yaw

omit [Extended K] in
theorem heading_of_inverse (candidate target : Planar.Pose2d K) : trig.SameHeading
    ((compose trig candidate (inverse trig target)).yaw + target.yaw) candidate.yaw := by
  have hinverse : trig.SameHeading (candidate.yaw + (inverse trig target).yaw)
      (candidate.yaw + -target.yaw) := by
    have h := (normalizeAngle_sameHeading trig (-target.yaw)).add candidate.yaw
    rwa [add_comm _ candidate.yaw, add_comm _ candidate.yaw] at h
  have hsum := ((normalizeAngle_sameHeading trig _).trans hinverse).add target.yaw
  rwa [neg_add_cancel_right] at hsum

theorem resolves_of_available
    (h : resolveLoopConstraint trig request scans maximumStampDeltaNs = .ok output)
    (havailable : output.available = true) :
    ∃ query candidate pose, output.query = some query ∧ output.candidate = some candidate ∧
      output.querySensorPose = some pose ∧
      Resolves trig request scans maximumStampDeltaNs query candidate pose := by
  rw [resolveLoopConstraint] at h
  split_ifs at h
  split at h
  · cases h
    cases havailable
  · rename_i query hquery
    split at h
    · cases h
      cases havailable
    · rename_i candidate hcandidate
      split_ifs at h with hsame horder hpose
      · cases h
        cases havailable
      · cases h
        cases havailable
      · cases h
        cases havailable
      · cases h
        refine ⟨query, candidate, _, rfl, rfl, rfl, ?_⟩
        exact
          { query_nearest := nearestTo_of_nearest hquery
            candidate_nearest := nearestTo_of_nearest hcandidate
            distinct := hsame
            inOrder := Int64.not_le.mp horder
            exact := fun p ↦ by rw [transformPoint_compose, transformPoint_inverse]
            heading := heading_of_inverse _ _ }

/-- Resolution takes the nearest scans and a pose that maps what the request maps. -/
theorem resolution_exact (trig : Trigonometry K) (request : LoopConstraintBackendRequest K)
    (scans : List (LoopConstraintScanRecord K)) (maximumStampDeltaNs : Int64)
    (hids : (scans.map LoopConstraintScanRecord.uniqueId).Nodup) : (∀ scans', scans.Perm scans' →
      resolveLoopConstraint trig request scans' maximumStampDeltaNs =
        resolveLoopConstraint trig request scans maximumStampDeltaNs) ∧
      ∀ output, resolveLoopConstraint trig request scans maximumStampDeltaNs = .ok output →
        output.available = true →
        ∃ query candidate pose, output.query = some query ∧ output.candidate = some candidate ∧
          output.querySensorPose = some pose ∧
          Resolves trig request scans maximumStampDeltaNs query candidate pose := by
  refine ⟨fun scans' hperm ↦ ?_, fun output h havailable ↦ resolves_of_available h havailable⟩
  rw [resolveLoopConstraint, resolveLoopConstraint, nearest_perm hids hperm,
    nearest_perm hids hperm]

def twoScans : List (LoopConstraintScanRecord ℝ) :=
  [{ uniqueId := 10, stampNs := 1000000010, correctedPose := ⟨0, 1, 0⟩, sensorPose := ⟨0, 1, 0⟩ },
    { uniqueId := 12, stampNs := 2000000010, correctedPose := ⟨1, 1, 0⟩, sensorPose := ⟨1, 1, 0⟩ }]

def metreBack : LoopConstraintBackendRequest ℝ :=
  { queryStampNs := 2000000000, candidateStampNs := 1000000000, targetToSource := ⟨-1, 0, 0⟩ }

theorem twoScans_resolved : (∀ scans', twoScans.Perm scans' →
      resolveLoopConstraint realTrigonometry metreBack scans' 25 =
        resolveLoopConstraint realTrigonometry metreBack twoScans 25) ∧
      ∃ output, resolveLoopConstraint realTrigonometry metreBack twoScans 25 = .ok output ∧
        ∃ query candidate pose, output.query = some query ∧ output.candidate = some candidate ∧
          output.querySensorPose = some pose ∧ query.uniqueId = 12 ∧ candidate.uniqueId = 10 ∧
          Resolves realTrigonometry metreBack twoScans 25 query candidate pose := by
  have hids : (twoScans.map LoopConstraintScanRecord.uniqueId).Nodup := by decide
  obtain ⟨hperm, hsound⟩ := resolution_exact realTrigonometry metreBack twoScans 25 hids
  have hrun : ∃ output, resolveLoopConstraint realTrigonometry metreBack twoScans 25 =
      .ok output ∧ output.available = true ∧
      output.query.map LoopConstraintScanRecord.uniqueId = some 12 ∧
      output.candidate.map LoopConstraintScanRecord.uniqueId = some 10 := ⟨_, rfl, rfl, rfl, rfl⟩
  obtain ⟨output, hok, havailable, hquery, hcandidate⟩ := hrun
  obtain ⟨query, candidate, pose, heq, heq', hpose, hresolves⟩ := hsound output hok havailable
  rw [heq] at hquery
  rw [heq'] at hcandidate
  exact ⟨hperm, output, hok, query, candidate, pose, heq, heq', hpose, Option.some.inj hquery,
    Option.some.inj hcandidate, hresolves⟩

end EmbodiedAgent.Slam.LoopConstraintAdapter
