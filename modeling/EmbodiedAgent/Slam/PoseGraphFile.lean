import EmbodiedAgent.Library.Dictionary
import EmbodiedAgent.Library.TextStream
import EmbodiedAgent.Slam.PlanarPose

namespace EmbodiedAgent.Slam.PoseGraphFile

open Library Dictionary TextStream Planar
open scoped List

section Model

structure PoseGraphConstraint (V : Type) where
  sourceId : Int32
  targetId : Int32
  relativePose : Planar.Pose2d V
  covariance : Matrix (Fin 3) (Fin 3) V
  scanOverlapRatio : Option V := none

structure GraphSnapshot (V : Type) where
  poses : List (Int32 × Planar.Pose2d V) := []
  stamps : List (Int32 × V) := []
  constraints : List (PoseGraphConstraint V) := []

/-- `evidence_poses_`, `evidence_node_stamps_` and `evidence_constraints_`. -/
structure Evidence (V : Type) where
  poses : List (Int32 × Planar.Pose2d V) := []
  nodeStamps : List (Int32 × V) := []
  constraints : List (UInt64 × PoseGraphConstraint V) := []

def constraintKey (sourceId targetId : Int32) : UInt64 :=
  (sourceId.toUInt32.toUInt64 <<< 32) ||| targetId.toUInt32.toUInt64

variable {V : Type}

def entries (covariance : Matrix (Fin 3) (Fin 3) V) : List V :=
  (List.finRange 3).flatMap fun row ↦ (List.finRange 3).map fun column ↦ covariance row column

def ofEntries [Zero V] (values : List V) : Matrix (Fin 3) (Fin 3) V :=
  fun row column ↦ values.getD (3 * row + column) 0

variable (format : NumberFormat V)

def printId (id : Int32) : List Char := printInt id.toInt

def nodeLine (id : Int32) (stamp : V) (pose : Planar.Pose2d V) : List Char :=
  'N' :: fields (printId id :: [stamp, pose.x, pose.y, pose.yaw].map format.print)

def constraintLine (c : PoseGraphConstraint V) : List Char :=
  'C' :: fields (printId c.sourceId :: printId c.targetId ::
    ([c.relativePose.x, c.relativePose.y, c.relativePose.yaw] ++ entries c.covariance ++
      c.scanOverlapRatio.toList).map format.print)

def header : List Char := "# embodied_slam_pose_graph_v2 scan_overlap_ratio=optional".toList

def Evidence.sortedPoses (evidence : Evidence V) : List (Int32 × Planar.Pose2d V) :=
  sortedItems (fun a b ↦ a ≤ b) evidence.poses

def Evidence.sortedConstraints (evidence : Evidence V) : List (PoseGraphConstraint V) :=
  (sortedItems (fun a b ↦ a ≤ b) evidence.constraints).map Prod.snd

def Evidence.stampOf [Zero V] (evidence : Evidence V) (id : Int32) : V :=
  (evidence.nodeStamps.lookup id).getD 0

def snapshotLines [Zero V] (evidence : Evidence V) : List (List Char) :=
  header :: ((evidence.sortedPoses.map fun node ↦
      nodeLine format node.1 (evidence.stampOf node.1) node.2) ++
    evidence.sortedConstraints.map (constraintLine format))

/-- The file that `write_graph_snapshot` writes. -/
def snapshotText [Zero V] (evidence : Evidence V) : List Char :=
  putLines (snapshotLines format evidence)

def readId (text : List Char) : Option (Int32 × List Char) :=
  (readIntWithin (-2 ^ 31) (2 ^ 31 - 1) (skipBlanks text)).map fun read ↦
    (Int32.ofInt read.1, read.2)

def readNode (row : List Char) : Option ((Int32 × V × Planar.Pose2d V) × List Char) :=
  match readId row with
  | none => none
  | some (id, row) =>
    match readNumbers format 4 row with
    | some ([stamp, x, y, yaw], row) => some ((id, stamp, { x, y, yaw }), row)
    | _ => none

def readEdge (row : List Char) : Option ((Int32 × Int32 × Planar.Pose2d V) × List Char) :=
  match readId row with
  | none => none
  | some (sourceId, row) =>
    match readId row with
    | none => none
    | some (targetId, row) =>
      match readNumbers format 3 row with
      | some ([x, y, yaw], row) => some ((sourceId, targetId, { x, y, yaw }), row)
      | _ => none

def endRow (number : ℕ) (row : List Char) (graph : GraphSnapshot V) :
    Except String (GraphSnapshot V) :=
  if skipBlanks row = [] then .ok graph else .error ("extra fields at line " ++ toString number)

variable [Zero V] [One V] [LT V] [DecidableLT V]

def readOverlap (row : List Char) : Option (Option V × List Char) :=
  if skipBlanks row = [] then some (none, row)
  else
    match format.read (skipBlanks row) with
    | none => none
    | some (ratio, row) =>
      if !format.isFinite ratio ∨ ratio < 0 ∨ 1 < ratio then none else some (some ratio, row)

def loadRow (number : ℕ) (raw : List Char) (graph : GraphSnapshot V) :
    Except String (GraphSnapshot V) :=
  if raw = [] ∨ raw.head? = some '#' then .ok graph
  else
    match skipBlanks raw with
    | 'N' :: row =>
      match readNode format row with
      | none => .error ("invalid node row at line " ++ toString number)
      | some ((id, stamp, pose), row) =>
        endRow number row
          { graph with
            poses := setItem graph.poses id pose
            stamps := setItem graph.stamps id stamp }
    | 'C' :: row =>
      match readEdge format row with
      | none => .error ("invalid constraint row at line " ++ toString number)
      | some ((sourceId, targetId, relativePose), row) =>
        match readNumbers format 9 row with
        | none => .error ("incomplete covariance at line " ++ toString number)
        | some (covariance, row) =>
          match readOverlap format row with
          | none => .error ("invalid scan overlap ratio at line " ++ toString number)
          | some (scanOverlapRatio, row) =>
            endRow number row
              { graph with
                constraints := graph.constraints ++
                  [{ sourceId, targetId, relativePose, covariance := ofEntries covariance
                     scanOverlapRatio }] }
    | _ => .error ("unknown graph row at line " ++ toString number)

/-- The rows from line `number + 1` on. -/
def loadRows : ℕ → List (List Char) → GraphSnapshot V → Except String (GraphSnapshot V)
  | _, [], graph => .ok graph
  | number, raw :: rows, graph =>
    match loadRow format (number + 1) raw graph with
    | .error message => .error message
    | .ok graph => loadRows (number + 1) rows graph

def loadGraph (path : String) (file : Option (List Char)) : Except String (GraphSnapshot V) :=
  match file with
  | none => .error ("cannot open graph snapshot: " ++ path)
  | some text =>
    match loadRows format 0 (getLines text) {} with
    | .error message => .error message
    | .ok graph =>
      if graph.poses.length < 3 ∨ graph.constraints = [] then
        .error "graph snapshot must contain at least 3 nodes and 1 constraint"
      else if graph.constraints.any fun c ↦
          (graph.poses.lookup c.sourceId).isNone || (graph.poses.lookup c.targetId).isNone then
        .error "constraint references a missing node"
      else .ok graph

end Model

section Rows

variable {V : Type} {format : NumberFormat V}

theorem readId_field (id : Int32) {rest : List Char} (h : Bounded rest) :
    readId (' ' :: (printId id ++ rest)) = some (id, rest) := by
  have hlow := Int32.le_toInt id
  have hhigh := Int32.toInt_lt id
  rw [readId, printId, readIntWithin_field hlow (by omega) h, Option.map_some, Int32.ofInt_toInt]

theorem ofEntries_entries [Zero V] (covariance : Matrix (Fin 3) (Fin 3) V) :
    ofEntries (entries covariance) = covariance := by
  funext row column
  fin_cases row <;> fin_cases column <;> rfl

def poseValues (pose : Planar.Pose2d V) : List V := [pose.x, pose.y, pose.yaw]

theorem readNode_fields {stamp : V} {pose : Planar.Pose2d V}
    (h : ∀ v ∈ stamp :: poseValues pose, format.ReadsBack v) (id : Int32) :
    readNode format (' ' :: (printId id ++
      fields ((stamp :: poseValues pose).map format.print))) = some ((id, stamp, pose), []) := by
  have hbounded := bounded_fields ((stamp :: poseValues pose).map format.print) bounded_nil
  have hread : readNumbers format 4
      (fields ((stamp :: poseValues pose).map format.print) ++ []) =
        some (stamp :: poseValues pose, []) := readNumbers_fields h bounded_nil
  rw [List.append_nil] at hbounded hread
  rw [readNode, readId_field id hbounded]
  dsimp only
  rw [hread]
  rfl

theorem readEdge_fields {pose : Planar.Pose2d V} (h : ∀ v ∈ poseValues pose, format.ReadsBack v)
    (sourceId targetId : Int32) {rest : List Char} (hrest : Bounded rest) :
    readEdge format (' ' :: (printId sourceId ++ (' ' :: (printId targetId ++
      (fields ((poseValues pose).map format.print) ++ rest))))) =
        some ((sourceId, targetId, pose), rest) := by
  have hread : readNumbers format 3 (fields ((poseValues pose).map format.print) ++ rest) =
      some (poseValues pose, rest) := readNumbers_fields h hrest
  rw [readEdge, readId_field sourceId (bounded_blank _)]
  dsimp only
  rw [readId_field targetId (bounded_fields _ hrest)]
  dsimp only
  rw [hread]
  rfl

variable {c : PoseGraphConstraint V}

theorem mem_entries {v : V} (h : v ∈ entries c.covariance) :
    ∃ row column, c.covariance row column = v := by
  obtain ⟨row, -, hrow⟩ := List.mem_flatMap.mp h
  obtain ⟨column, -, hv⟩ := List.mem_map.mp hrow
  exact ⟨row, column, hv⟩

theorem constraintLine_eq (c : PoseGraphConstraint V) :
    constraintLine format c = 'C' :: ' ' :: (printId c.sourceId ++ (' ' ::
      (printId c.targetId ++ (fields ((poseValues c.relativePose).map format.print) ++
        (fields ((entries c.covariance).map format.print) ++
          fields (c.scanOverlapRatio.toList.map format.print)))))) := by
  rw [constraintLine, List.map_append, List.map_append, fields_cons, fields_cons, fields_append,
    fields_append, List.append_assoc]
  rfl

theorem nodeLine_eq (id : Int32) (stamp : V) (pose : Planar.Pose2d V) :
    nodeLine format id stamp pose = 'N' :: ' ' :: (printId id ++
      fields ((stamp :: poseValues pose).map format.print)) := rfl

variable [Zero V] [One V] [LT V]

/-- A ratio that `load_graph` takes. -/
def IsRatio (format : NumberFormat V) (ratio : V) : Prop :=
  format.isFinite ratio = true ∧ ¬ ratio < 0 ∧ ¬ 1 < ratio

structure PoseGraphConstraint.Readable (format : NumberFormat V) (c : PoseGraphConstraint V) :
    Prop where
  pose : ∀ v ∈ poseValues c.relativePose, format.ReadsBack v
  covariance : ∀ row column, format.ReadsBack (c.covariance row column)
  overlap : ∀ ratio ∈ c.scanOverlapRatio, format.ReadsBack ratio ∧ IsRatio format ratio

theorem PoseGraphConstraint.Readable.entries
    (h : c.Readable format) : ∀ v ∈ PoseGraphFile.entries c.covariance, format.ReadsBack v := by
  intro v hv
  obtain ⟨row, column, rfl⟩ := mem_entries hv
  exact h.covariance row column

variable [DecidableLT V]

theorem readOverlap_fields {overlap : Option V}
    (h : ∀ ratio ∈ overlap, format.ReadsBack ratio ∧ IsRatio format ratio) :
    readOverlap format (fields (overlap.toList.map format.print)) = some (overlap, []) := by
  cases overlap with
  | none => rfl
  | some ratio =>
    obtain ⟨hback, hfinite, hlow, hhigh⟩ := h ratio rfl
    have hskip : skipBlanks (fields ((some ratio).toList.map format.print)) =
        format.print ratio := by
      have hfield := skipBlanks_field hback.solid []
      rw [List.append_nil] at hfield
      rw [Option.toList_some, List.map_singleton, fields_singleton]
      exact hfield
    have hread := hback.read [] bounded_nil
    rw [List.append_nil] at hread
    rw [readOverlap, hskip, if_neg hback.solid.nonempty, hread]
    dsimp only
    rw [if_neg (by simp [hfinite, hlow, hhigh])]

theorem loadRow_nodeLine {stamp : V} {pose : Planar.Pose2d V}
    (h : ∀ v ∈ stamp :: poseValues pose, format.ReadsBack v) (id : Int32) (number : ℕ)
    (graph : GraphSnapshot V) :
    loadRow format number (nodeLine format id stamp pose) graph =
      .ok { graph with
        poses := setItem graph.poses id pose
        stamps := setItem graph.stamps id stamp } := by
  rw [nodeLine_eq, loadRow, if_neg (by simp)]
  simp only [skipBlanks, List.dropWhile_cons_of_neg (show ¬ isBlank 'N' = true by decide)]
  rw [readNode_fields h id]
  rfl

theorem loadRow_constraintLine (h : c.Readable format) (number : ℕ)
    (graph : GraphSnapshot V) :
    loadRow format number (constraintLine format c) graph =
      .ok { graph with constraints := graph.constraints ++ [c] } := by
  have hoverlap : Bounded (fields (c.scanOverlapRatio.toList.map format.print)) := by
    have hfields := bounded_fields (c.scanOverlapRatio.toList.map format.print) bounded_nil
    rwa [List.append_nil] at hfields
  have hread : readNumbers format 9 (fields ((entries c.covariance).map format.print) ++
      fields (c.scanOverlapRatio.toList.map format.print)) =
        some (entries c.covariance, fields (c.scanOverlapRatio.toList.map format.print)) :=
    readNumbers_fields h.entries hoverlap
  rw [constraintLine_eq, loadRow, if_neg (by simp)]
  simp only [skipBlanks, List.dropWhile_cons_of_neg (show ¬ isBlank 'C' = true by decide)]
  rw [readEdge_fields h.pose _ _ (bounded_fields _ hoverlap)]
  dsimp only
  rw [hread]
  dsimp only
  rw [readOverlap_fields h.overlap]
  dsimp only
  rw [ofEntries_entries]
  rfl

end Rows

variable {V : Type} {format : NumberFormat V} [Zero V] [One V] [LT V] {evidence : Evidence V}

structure Evidence.Sound (format : NumberFormat V) (evidence : Evidence V) : Prop where
  distinct : (keys evidence.poses).Nodup
  distinctEdges : (keys evidence.constraints).Nodup
  poses : ∀ node ∈ evidence.poses, ∀ v ∈ poseValues node.2, format.ReadsBack v
  stamps : ∀ stamp ∈ evidence.nodeStamps, format.ReadsBack stamp.2
  edges : ∀ edge ∈ evidence.constraints, edge.2.Readable format
  ends : ∀ edge ∈ evidence.constraints,
    edge.2.sourceId ∈ keys evidence.poses ∧ edge.2.targetId ∈ keys evidence.poses

structure Recorded (evidence : Evidence V) (graph : GraphSnapshot V) : Prop where
  poses : ∀ id, graph.poses.lookup id = evidence.poses.lookup id
  stamps : ∀ id, graph.stamps.lookup id =
    (evidence.poses.lookup id).map fun _ ↦ (evidence.nodeStamps.lookup id).getD 0
  constraints : graph.constraints ~ evidence.constraints.map Prod.snd

namespace Evidence.Sound

variable (h : evidence.Sound format)

include h

theorem readsBack_stampOf (hzero : format.ReadsBack 0) (id : Int32) :
    format.ReadsBack (evidence.stampOf id) := by
  rw [Evidence.stampOf]
  cases hlookup : evidence.nodeStamps.lookup id with
  | none => exact hzero
  | some stamp => exact h.stamps (id, stamp) (mem_of_lookup hlookup)

theorem sortedPoses_perm : evidence.sortedPoses ~ evidence.poses := sortedItems_perm _ h.distinct

theorem sortedConstraints_perm :
    evidence.sortedConstraints ~ evidence.constraints.map Prod.snd :=
  (sortedItems_perm _ h.distinctEdges).map Prod.snd

theorem distinct_sorted : (keys evidence.sortedPoses).Nodup :=
  ((h.sortedPoses_perm.map Prod.fst).nodup_iff).mpr h.distinct

theorem readable {c : PoseGraphConstraint V} (hc : c ∈ evidence.sortedConstraints) :
    c.Readable format := by
  obtain ⟨edge, hedge, rfl⟩ := List.mem_map.mp (h.sortedConstraints_perm.subset hc)
  exact h.edges edge hedge

theorem lookup_sortedPoses (id : Int32) :
    evidence.sortedPoses.lookup id = evidence.poses.lookup id :=
  lookup_congr h.distinct_sorted h.sortedPoses_perm id

end Evidence.Sound

theorem solid_printId (id : Int32) : Solid (printId id) := solid_printInt _

theorem no_newline_snapshotLines (h : evidence.Sound format) (hzero : format.ReadsBack 0) :
    ∀ line ∈ snapshotLines format evidence, '\n' ∉ line := by
  intro line hline
  rcases List.mem_cons.mp hline with rfl | hline
  · decide
  rcases List.mem_append.mp hline with hline | hline
  · obtain ⟨node, hnode, rfl⟩ := List.mem_map.mp hline
    rw [nodeLine, List.mem_cons, not_or]
    refine ⟨by decide, no_newline_fields fun text htext ↦ ?_⟩
    rcases List.mem_cons.mp htext with rfl | htext
    · exact solid_printId _
    · obtain ⟨v, hv, rfl⟩ := List.mem_map.mp htext
      rcases List.mem_cons.mp hv with rfl | hv
      · exact (h.readsBack_stampOf hzero node.1).solid
      · exact (h.poses node (h.sortedPoses_perm.subset hnode) v hv).solid
  · obtain ⟨c, hc, rfl⟩ := List.mem_map.mp hline
    have hreadable := h.readable hc
    rw [constraintLine, List.mem_cons, not_or]
    refine ⟨by decide, no_newline_fields fun text htext ↦ ?_⟩
    rcases List.mem_cons.mp htext with rfl | htext
    · exact solid_printId _
    rcases List.mem_cons.mp htext with rfl | htext
    · exact solid_printId _
    obtain ⟨v, hv, rfl⟩ := List.mem_map.mp htext
    rcases List.mem_append.mp hv with hv | hv
    · rcases List.mem_append.mp hv with hv | hv
      · exact (hreadable.pose v hv).solid
      · exact (hreadable.entries v hv).solid
    · exact (hreadable.overlap v (Option.mem_toList.mp hv)).1.solid

variable [DecidableLT V]

theorem loadRows_nodes {nodes : List (Int32 × Planar.Pose2d V)} {stampOf : Int32 → V}
    (h : ∀ node ∈ nodes, ∀ v ∈ stampOf node.1 :: poseValues node.2, format.ReadsBack v)
    (number : ℕ) (rows : List (List Char)) (graph : GraphSnapshot V) :
    loadRows format number
        ((nodes.map fun node ↦ nodeLine format node.1 (stampOf node.1) node.2) ++ rows) graph =
      loadRows format (number + nodes.length) rows
        { graph with
          poses := merge graph.poses nodes
          stamps := merge graph.stamps (nodes.map fun node ↦ (node.1, stampOf node.1)) } := by
  induction nodes generalizing number graph with
  | nil => rfl
  | cons node nodes ih =>
    rw [List.map_cons, List.cons_append, loadRows, loadRow_nodeLine (h node (.head _))]
    dsimp only
    rw [ih (fun n hn ↦ h n (.tail _ hn)), List.length_cons, Nat.add_right_comm, Nat.add_assoc]
    rfl

theorem loadRows_edges {edges : List (PoseGraphConstraint V)}
    (h : ∀ c ∈ edges, c.Readable format) (number : ℕ) (graph : GraphSnapshot V) :
    loadRows format number (edges.map (constraintLine format)) graph =
      .ok { graph with constraints := graph.constraints ++ edges } := by
  induction edges generalizing number graph with
  | nil => rw [List.append_nil]; rfl
  | cons c edges ih =>
    rw [List.map_cons, loadRows, loadRow_constraintLine (h c (.head _))]
    dsimp only
    rw [ih (fun d hd ↦ h d (.tail _ hd)), List.append_assoc]
    rfl

def loaded (evidence : Evidence V) : GraphSnapshot V :=
  { poses := evidence.sortedPoses
    stamps := evidence.sortedPoses.map fun node ↦ (node.1, evidence.stampOf node.1)
    constraints := evidence.sortedConstraints }

theorem loadRows_snapshotLines (h : evidence.Sound format) (hzero : format.ReadsBack 0) :
    loadRows format 0 (snapshotLines format evidence) {} = .ok (loaded evidence) := by
  have hheader : loadRow format (0 + 1) header ({} : GraphSnapshot V) = .ok {} := rfl
  have hposes : merge [] evidence.sortedPoses = evidence.sortedPoses :=
    merge_new h.distinct_sorted
  have hstamps : merge [] (evidence.sortedPoses.map fun node ↦
      (node.1, evidence.stampOf node.1)) =
        evidence.sortedPoses.map fun node ↦ (node.1, evidence.stampOf node.1) := by
    refine merge_new ?_
    rw [keys, List.nil_append, List.map_map]
    exact h.distinct_sorted
  have hnodes : ∀ node ∈ evidence.sortedPoses,
      ∀ v ∈ evidence.stampOf node.1 :: poseValues node.2, format.ReadsBack v := by
    intro node hnode v hv
    rcases List.mem_cons.mp hv with rfl | hv
    · exact h.readsBack_stampOf hzero node.1
    · exact h.poses node (h.sortedPoses_perm.subset hnode) v hv
  rw [snapshotLines, loadRows, hheader]
  dsimp only
  rw [loadRows_nodes hnodes, hposes, hstamps, loadRows_edges fun c hc ↦ h.readable hc]
  rfl

theorem loadGraph_snapshotText (h : evidence.Sound format) (hzero : format.ReadsBack 0)
    (hnodes : 3 ≤ evidence.poses.length) (hedges : 1 ≤ evidence.constraints.length)
    (path : String) :
    ∃ graph, loadGraph format path (some (snapshotText format evidence)) = .ok graph ∧
      Recorded evidence graph := by
  have hlines : getLines (snapshotText format evidence) = snapshotLines format evidence :=
    getLines_putLines (no_newline_snapshotLines h hzero)
  have hsize := h.sortedPoses_perm.length_eq
  have hsize' := h.sortedConstraints_perm.length_eq
  have hends : ∀ c ∈ evidence.sortedConstraints,
      (evidence.sortedPoses.lookup c.sourceId).isNone = false ∧
        (evidence.sortedPoses.lookup c.targetId).isNone = false := by
    intro c hc
    obtain ⟨edge, hedge, rfl⟩ := List.mem_map.mp (h.sortedConstraints_perm.subset hc)
    obtain ⟨hsource, htarget⟩ := h.ends edge hedge
    have hfound : ∀ id ∈ keys evidence.poses,
        (evidence.sortedPoses.lookup id).isNone = false := by
      intro id hid
      rw [h.lookup_sortedPoses, Bool.eq_false_iff, Ne, Option.isNone_iff_eq_none, lookup_eq_none]
      exact not_not.mpr hid
    exact ⟨hfound _ hsource, hfound _ htarget⟩
  refine ⟨loaded evidence, ?_, h.lookup_sortedPoses, ?_, h.sortedConstraints_perm⟩
  · rw [loadGraph, hlines, loadRows_snapshotLines h hzero]
    dsimp only [loaded]
    rw [if_neg, if_neg]
    · rw [List.any_eq_true]
      rintro ⟨c, hc, hmissing⟩
      rw [(hends c hc).1, (hends c hc).2] at hmissing
      cases hmissing
    · rw [not_or, not_lt, hsize]
      refine ⟨hnodes, fun hnil ↦ ?_⟩
      rw [hnil, List.length_map] at hsize'
      rw [← hsize'] at hedges
      exact absurd hedges (Nat.not_succ_le_zero 0)
  · intro id
    rw [loaded, lookup_map fun id _ ↦ evidence.stampOf id, h.lookup_sortedPoses]
    rfl

end EmbodiedAgent.Slam.PoseGraphFile
