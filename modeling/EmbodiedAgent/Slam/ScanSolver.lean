import EmbodiedAgent.Library.History
import EmbodiedAgent.Slam.PoseGraphFile

namespace EmbodiedAgent.Slam.ScanSolver

open Library History Dictionary TextStream Planar PoseGraphFile
open scoped List

section Model

variable {V : Type}

/-- The calls that change the solver; `Compute` comes with what it meets. -/
inductive Operation (V : Type)
  | configure (path : String)
  | addNode (id : Int32) (pose : Planar.Pose2d V) (stamp : V)
  | addConstraint (c : PoseGraphConstraint V)
  | compute (published : Bool) (optimized : List (Int32 × Planar.Pose2d V))
  | removeNode (id : Int32)
  | removeConstraint (sourceId targetId : Int32)
  | clear
  | modifyNode (id : Int32) (pose : Planar.Pose2d V)

structure Solver (V : Type) where
  graphLogPath : String := ""
  initialPoses : List (Int32 × Planar.Pose2d V) := []
  constraints : List (PoseGraphConstraint V) := []
  evidence : Evidence V := {}
  bestGraphSnapshotNodes : ℕ := 0
  bestGraphSnapshotConstraints : ℕ := 0
  disk : String → Option (List Char) := fun _ ↦ none

def erase {α : Type} (items : List (Int32 × α)) (id : Int32) : List (Int32 × α) :=
  items.filter fun item ↦ item.1 != id

def touches (id : Int32) (c : PoseGraphConstraint V) : Bool :=
  c.sourceId == id || c.targetId == id

def keepsSnapshot (s : Solver V) : Bool :=
  s.evidence.poses.length < s.bestGraphSnapshotNodes ||
    s.evidence.poses.length == s.bestGraphSnapshotNodes &&
      s.evidence.constraints.length ≤ s.bestGraphSnapshotConstraints

variable [Zero V] (format : NumberFormat V)

def writeGraphSnapshot (published : Bool) (s : Solver V) : Solver V × Option (List Char) :=
  if s.graphLogPath = "" ∨ keepsSnapshot s ∨ !published then (s, none)
  else
    let file := snapshotText format s.evidence
    ({ s with
        disk := fun path ↦ if path = s.graphLogPath then some file else s.disk path
        bestGraphSnapshotNodes := s.evidence.poses.length
        bestGraphSnapshotConstraints := s.evidence.constraints.length }, some file)

def step (s : Solver V) (op : Operation V) : Solver V × Option (List Char) :=
  match op with
  | .configure path =>
    ({ s with
        graphLogPath := path
        bestGraphSnapshotNodes := 0
        bestGraphSnapshotConstraints := 0
        evidence := {} }, none)
  | .addNode id pose stamp =>
    ({ s with
        initialPoses := setItem s.initialPoses id pose
        evidence :=
          { s.evidence with
            poses := setItem s.evidence.poses id pose
            nodeStamps := setItem s.evidence.nodeStamps id stamp } }, none)
  | .addConstraint c =>
    ({ s with
        constraints := s.constraints ++ [c]
        evidence :=
          { s.evidence with
            constraints :=
              setItem s.evidence.constraints (constraintKey c.sourceId c.targetId) c } }, none)
  | .compute published optimized =>
    let (s, file) := writeGraphSnapshot format published s
    ({ s with initialPoses := merge s.initialPoses optimized }, file)
  | .removeNode id =>
    ({ s with
        initialPoses := erase s.initialPoses id
        constraints := s.constraints.filter fun c ↦ !touches id c
        evidence :=
          { poses := erase s.evidence.poses id
            nodeStamps := erase s.evidence.nodeStamps id
            constraints := s.evidence.constraints.filter fun edge ↦ !touches id edge.2 } }, none)
  | .removeConstraint sourceId targetId =>
    ({ s with
        constraints :=
          s.constraints.filter fun c ↦ !(c.sourceId == sourceId && c.targetId == targetId)
        evidence :=
          { s.evidence with
            constraints := s.evidence.constraints.filter fun edge ↦
              edge.1 != constraintKey sourceId targetId } }, none)
  | .clear => ({ s with initialPoses := [], constraints := [] }, none)
  | .modifyNode id pose =>
    ({ s with
        initialPoses := setItem s.initialPoses id pose
        evidence := { s.evidence with poses := setItem s.evidence.poses id pose } }, none)

end Model

theorem constraintKey_toNat (sourceId targetId : Int32) :
    (constraintKey sourceId targetId).toNat =
      sourceId.toUInt32.toNat * 2 ^ 32 + targetId.toUInt32.toNat := by
  have hsource := sourceId.toUInt32.toNat_lt
  have htarget := targetId.toUInt32.toNat_lt
  have hshift : sourceId.toUInt32.toNat <<< ((32 : UInt64).toNat % 64) % 2 ^ 64 =
      sourceId.toUInt32.toNat <<< 32 := by
    have hplaces : (32 : UInt64).toNat % 64 = 32 := rfl
    rw [hplaces, Nat.shiftLeft_eq]
    omega
  rw [constraintKey, UInt64.toNat_or, UInt64.toNat_shiftLeft, UInt32.toNat_toUInt64,
    UInt32.toNat_toUInt64, hshift, ← Nat.shiftLeft_add_eq_or_of_lt htarget, Nat.shiftLeft_eq]

theorem toUInt32_injective {a b : Int32} (h : a.toUInt32.toNat = b.toUInt32.toNat) : a = b := by
  rw [← Int32.toInt32_toUInt32 a, ← Int32.toInt32_toUInt32 b, UInt32.toNat_inj.mp h]

theorem constraintKey_inj {a b a' b' : Int32} :
    constraintKey a b = constraintKey a' b' ↔ a = a' ∧ b = b' := by
  constructor
  · intro h
    have hkeys := congrArg UInt64.toNat h
    rw [constraintKey_toNat, constraintKey_toNat] at hkeys
    have hb := b.toUInt32.toNat_lt
    have hb' := b'.toUInt32.toNat_lt
    exact ⟨toUInt32_injective (by omega), toUInt32_injective (by omega)⟩
  · rintro ⟨rfl, rfl⟩
    rfl

section Records

variable {V : Type}

/-- What the calls since `Configure` say of the graph. -/
structure Record (V : Type) where
  poses : Int32 → Option (Planar.Pose2d V) := fun _ ↦ none
  stamps : Int32 → Option V := fun _ ↦ none
  edges : Int32 → Int32 → Option (PoseGraphConstraint V) := fun _ _ ↦ none

def Record.note (r : Record V) : Operation V → Record V
  | .configure _ => {}
  | .addNode id pose stamp =>
    { r with
      poses := fun id' ↦ if id' = id then some pose else r.poses id'
      stamps := fun id' ↦ if id' = id then some stamp else r.stamps id' }
  | .addConstraint c =>
    { r with
      edges := fun source target ↦
        if source = c.sourceId ∧ target = c.targetId then some c else r.edges source target }
  | .removeNode id =>
    { poses := fun id' ↦ if id' = id then none else r.poses id'
      stamps := fun id' ↦ if id' = id then none else r.stamps id'
      edges := fun source target ↦
        if source = id ∨ target = id then none else r.edges source target }
  | .removeConstraint sourceId targetId =>
    { r with
      edges := fun source target ↦
        if source = sourceId ∧ target = targetId then none else r.edges source target }
  | .modifyNode id pose => { r with poses := fun id' ↦ if id' = id then some pose else r.poses id' }
  | .compute _ _ | .clear => r

def recordOf (ops : List (Operation V)) : Record V := ops.foldl Record.note {}

variable [Zero V] [One V] [LT V]

def FinitePose (format : NumberFormat V) (pose : Planar.Pose2d V) : Prop :=
  ∀ v ∈ poseValues pose, format.isFinite v = true

structure FiniteEdge (format : NumberFormat V) (c : PoseGraphConstraint V) : Prop where
  pose : FinitePose format c.relativePose
  covariance : ∀ row column, format.isFinite (c.covariance row column) = true
  overlap : ∀ ratio ∈ c.scanOverlapRatio, IsRatio format ratio

def Legal (format : NumberFormat V) (r : Record V) : Operation V → Prop
  | .addNode _ pose stamp => FinitePose format pose ∧ format.isFinite stamp = true
  | .addConstraint c =>
    FiniteEdge format c ∧ (r.poses c.sourceId).isSome = true ∧ (r.poses c.targetId).isSome = true
  | .modifyNode _ pose => FinitePose format pose
  | _ => True

def LegalRun (format : NumberFormat V) : Record V → List (Operation V) → Prop
  | _, [] => True
  | r, op :: ops => Legal format r op ∧ LegalRun format (r.note op) ops

structure Keeps (format : NumberFormat V) (evidence : Evidence V) (r : Record V) : Prop where
  sound : evidence.Sound format
  distinctStamps : (keys evidence.nodeStamps).Nodup
  poses : ∀ id, evidence.poses.lookup id = r.poses id
  stamps : ∀ id, evidence.nodeStamps.lookup id = r.stamps id
  edges : ∀ source target,
    evidence.constraints.lookup (constraintKey source target) = r.edges source target
  keyed : ∀ edge ∈ evidence.constraints, edge.1 = constraintKey edge.2.sourceId edge.2.targetId

end Records

section Steps

variable {V : Type} [Zero V] [One V] [LT V] {format : NumberFormat V} {evidence : Evidence V}
  {r : Record V}

theorem keeps_start : Keeps format ({} : Evidence V) {} where
  sound :=
    { distinct := List.nodup_nil
      distinctEdges := List.nodup_nil
      poses := by simp
      stamps := by simp
      edges := by simp
      ends := by simp }
  distinctStamps := List.nodup_nil
  poses _ := rfl
  stamps _ := rfl
  edges _ _ := rfl
  keyed := by simp

theorem Keeps.mem_keys (h : Keeps format evidence r) {id : Int32}
    (hid : (r.poses id).isSome = true) : id ∈ keys evidence.poses := by
  by_contra hmissing
  rw [← h.poses, lookup_eq_none.mpr hmissing] at hid
  cases hid

theorem Keeps.setPose (h : Keeps format evidence r) (id : Int32) {pose : Planar.Pose2d V}
    (hpose : ∀ v ∈ poseValues pose, format.ReadsBack v) :
    Keeps format { evidence with poses := setItem evidence.poses id pose }
      { r with poses := fun id' ↦ if id' = id then some pose else r.poses id' } := by
  refine
    { h with
      sound := { h.sound with distinct := nodup_setItem h.sound.distinct, poses := ?_, ends := ?_ }
      poses := ?_ }
  · intro node hnode
    rcases mem_setItem hnode with rfl | hnode
    · exact hpose
    · exact h.sound.poses node hnode
  · intro edge hedge
    obtain ⟨hsource, htarget⟩ := h.sound.ends edge hedge
    exact ⟨mem_keys_setItem.mpr (.inr hsource), mem_keys_setItem.mpr (.inr htarget)⟩
  · intro id'
    rw [lookup_setItem, h.poses]

theorem Keeps.setStamp (h : Keeps format evidence r) (id : Int32) {stamp : V}
    (hstamp : format.ReadsBack stamp) :
    Keeps format { evidence with nodeStamps := setItem evidence.nodeStamps id stamp }
      { r with stamps := fun id' ↦ if id' = id then some stamp else r.stamps id' } := by
  refine
    { h with
      sound := { h.sound with stamps := ?_ }
      distinctStamps := nodup_setItem h.distinctStamps
      stamps := ?_ }
  · intro item hitem
    rcases mem_setItem hitem with rfl | hitem
    · exact hstamp
    · exact h.sound.stamps item hitem
  · intro id'
    rw [lookup_setItem, h.stamps]

theorem Keeps.setEdge (h : Keeps format evidence r) {c : PoseGraphConstraint V}
    (hc : c.Readable format) (hsource : (r.poses c.sourceId).isSome = true)
    (htarget : (r.poses c.targetId).isSome = true) :
    Keeps format
      { evidence with
        constraints := setItem evidence.constraints (constraintKey c.sourceId c.targetId) c }
      { r with
        edges := fun source target ↦
          if source = c.sourceId ∧ target = c.targetId then some c
          else r.edges source target } := by
  refine
    { h with
      sound :=
        { h.sound with
          distinctEdges := nodup_setItem h.sound.distinctEdges, edges := ?_, ends := ?_ }
      edges := ?_
      keyed := ?_ }
  · intro edge hedge
    rcases mem_setItem hedge with rfl | hedge
    · exact hc
    · exact h.sound.edges edge hedge
  · intro edge hedge
    rcases mem_setItem hedge with rfl | hedge
    · exact ⟨h.mem_keys hsource, h.mem_keys htarget⟩
    · exact h.sound.ends edge hedge
  · intro source target
    rw [lookup_setItem, h.edges]
    simp only [constraintKey_inj]
  · intro edge hedge
    rcases mem_setItem hedge with rfl | hedge
    · rfl
    · exact h.keyed edge hedge

theorem mem_of_mem_erase {α : Type} {items : List (Int32 × α)} {id : Int32} {item : Int32 × α}
    (h : item ∈ erase items id) : item ∈ items := List.mem_of_mem_filter h

theorem nodup_erase {α : Type} {items : List (Int32 × α)} (h : (keys items).Nodup) (id : Int32) :
    (keys (erase items id)).Nodup := (List.filter_sublist.map Prod.fst).nodup h

theorem lookup_erase {α : Type} {items : List (Int32 × α)} (h : (keys items).Nodup)
    (id id' : Int32) :
    (erase items id).lookup id' = if id' = id then none else items.lookup id' := by
  rw [erase, lookup_filter h]
  split_ifs with heq
  · cases items.lookup id' <;> simp [heq]
  · cases items.lookup id' <;> simp [heq]

theorem mem_keys_erase {α : Type} {items : List (Int32 × α)} {id id' : Int32}
    (h : id' ∈ keys items) (hne : id' ≠ id) : id' ∈ keys (erase items id) := by
  obtain ⟨item, hitem, rfl⟩ := List.mem_map.mp h
  exact List.mem_map_of_mem (List.mem_filter.mpr ⟨hitem, bne_iff_ne.mpr hne⟩)

omit [Zero V] [One V] [LT V] in
theorem touches_iff {id : Int32} {c : PoseGraphConstraint V} :
    touches id c = true ↔ c.sourceId = id ∨ c.targetId = id := by
  rw [touches, Bool.or_eq_true, beq_iff_eq, beq_iff_eq]

theorem Keeps.dropNode (h : Keeps format evidence r) (id : Int32) :
    Keeps format
      { poses := erase evidence.poses id
        nodeStamps := erase evidence.nodeStamps id
        constraints := evidence.constraints.filter fun edge ↦ !touches id edge.2 }
      (r.note (.removeNode id)) := by
  refine
    { sound :=
        { distinct := nodup_erase h.sound.distinct id
          distinctEdges := (List.filter_sublist.map Prod.fst).nodup h.sound.distinctEdges
          poses := fun node hnode ↦ h.sound.poses node (mem_of_mem_erase hnode)
          stamps := fun item hitem ↦ h.sound.stamps item (mem_of_mem_erase hitem)
          edges := fun edge hedge ↦ h.sound.edges edge (List.mem_of_mem_filter hedge)
          ends := ?_ }
      distinctStamps := nodup_erase h.distinctStamps id
      poses := ?_
      stamps := ?_
      edges := ?_
      keyed := fun edge hedge ↦ h.keyed edge (List.mem_of_mem_filter hedge) }
  · intro edge hedge
    obtain ⟨hmem, huntouched⟩ := List.mem_filter.mp hedge
    obtain ⟨hsource, htarget⟩ := h.sound.ends edge hmem
    rw [Bool.not_eq_true', Bool.eq_false_iff, Ne, touches_iff, not_or] at huntouched
    exact ⟨mem_keys_erase hsource huntouched.1, mem_keys_erase htarget huntouched.2⟩
  · intro id'
    rw [lookup_erase h.sound.distinct, h.poses]
    rfl
  · intro id'
    rw [lookup_erase h.distinctStamps, h.stamps]
    rfl
  · intro source target
    rw [lookup_filter h.sound.distinctEdges, h.edges]
    dsimp only [Record.note]
    cases hedge : r.edges source target with
    | none => split_ifs <;> rfl
    | some c =>
      rw [← h.edges] at hedge
      have hkey := h.keyed _ (mem_of_lookup hedge)
      obtain ⟨hsource, htarget⟩ := constraintKey_inj.mp hkey
      dsimp only at hsource htarget
      rw [hsource, htarget, Option.filter_some]
      by_cases htouch : touches id c = true
      · rw [if_pos (touches_iff.mp htouch), htouch]
        rfl
      · rw [if_neg (mt touches_iff.mpr htouch), Bool.eq_false_iff.mpr htouch]
        rfl

theorem Keeps.dropEdge (h : Keeps format evidence r) (sourceId targetId : Int32) :
    Keeps format
      { evidence with
        constraints := evidence.constraints.filter fun edge ↦
          edge.1 != constraintKey sourceId targetId }
      (r.note (.removeConstraint sourceId targetId)) := by
  refine
    { h with
      sound :=
        { h.sound with
          distinctEdges := (List.filter_sublist.map Prod.fst).nodup h.sound.distinctEdges
          edges := fun edge hedge ↦ h.sound.edges edge (List.mem_of_mem_filter hedge)
          ends := fun edge hedge ↦ h.sound.ends edge (List.mem_of_mem_filter hedge) }
      edges := ?_
      keyed := fun edge hedge ↦ h.keyed edge (List.mem_of_mem_filter hedge) }
  intro source target
  rw [lookup_filter h.sound.distinctEdges, h.edges]
  dsimp only [Record.note]
  split_ifs with hsame
  · obtain ⟨rfl, rfl⟩ := hsame
    cases r.edges source target <;> simp
  · have hkey : constraintKey source target ≠ constraintKey sourceId targetId :=
      fun heq ↦ hsame (constraintKey_inj.mp heq)
    cases r.edges source target <;> simp [hkey]

variable {s : Solver V} {op : Operation V}

omit [Zero V] [One V] [LT V] in
theorem FinitePose.readable (hformat : ∀ v, format.isFinite v = true → format.ReadsBack v)
    {pose : Planar.Pose2d V} (h : FinitePose format pose) :
    ∀ v ∈ poseValues pose, format.ReadsBack v := fun v hv ↦ hformat v (h v hv)

theorem FiniteEdge.readable (hformat : ∀ v, format.isFinite v = true → format.ReadsBack v)
    {c : PoseGraphConstraint V} (h : FiniteEdge format c) : c.Readable format where
  pose := h.pose.readable hformat
  covariance row column := hformat _ (h.covariance row column)
  overlap ratio hratio := ⟨hformat ratio (h.overlap ratio hratio).1, h.overlap ratio hratio⟩

omit [One V] [LT V] in
theorem writeGraphSnapshot_evidence (format : NumberFormat V) (published : Bool) (s : Solver V) :
    (writeGraphSnapshot format published s).1.evidence = s.evidence := by
  rw [writeGraphSnapshot]
  split_ifs <;> rfl

theorem Keeps.step (hformat : ∀ v, format.isFinite v = true → format.ReadsBack v)
    (h : Keeps format s.evidence r) (hlegal : Legal format r op) :
    Keeps format (step format s op).1.evidence (r.note op) := by
  cases op with
  | configure path => exact keeps_start
  | addNode id pose stamp =>
    exact (h.setPose id (FinitePose.readable hformat hlegal.1)).setStamp id (hformat _ hlegal.2)
  | addConstraint c => exact h.setEdge (hlegal.1.readable hformat) hlegal.2.1 hlegal.2.2
  | compute published optimized =>
    have hsame := writeGraphSnapshot_evidence format published s
    change Keeps format (writeGraphSnapshot format published s).1.evidence r
    rw [hsame]
    exact h
  | removeNode id => exact h.dropNode id
  | removeConstraint sourceId targetId => exact h.dropEdge sourceId targetId
  | clear => exact h
  | modifyNode id pose => exact h.setPose id (FinitePose.readable hformat hlegal)

theorem keeps_run (hformat : ∀ v, format.isFinite v = true → format.ReadsBack v)
    {ops : List (Operation V)} (h : Keeps format s.evidence r) (hlegal : LegalRun format r ops) :
    Keeps format (run (ScanSolver.step format) s ops).evidence (ops.foldl Record.note r) := by
  induction ops generalizing s r with
  | nil => exact h
  | cons op ops ih => exact ih (h.step hformat hlegal.1) hlegal.2

end Steps

section Files

variable {V : Type} [Zero V] [One V] [LT V] {format : NumberFormat V} {evidence : Evidence V}
  {r : Record V} {graph : GraphSnapshot V} {s : Solver V} {op : Operation V} {file : List Char}

/-- The graph of a record: each node once with its time, and each edge once. -/
structure Restores (r : Record V) (graph : GraphSnapshot V) : Prop where
  poses : ∀ id, graph.poses.lookup id = r.poses id
  stamps : ∀ id, graph.stamps.lookup id = (r.poses id).map fun _ ↦ (r.stamps id).getD 0
  edges : ∀ c, c ∈ graph.constraints ↔ r.edges c.sourceId c.targetId = some c
  once : (graph.constraints.map fun c ↦ (c.sourceId, c.targetId)).Nodup

theorem Keeps.mem_edges (h : Keeps format evidence r) {c : PoseGraphConstraint V} :
    c ∈ evidence.constraints.map Prod.snd ↔ r.edges c.sourceId c.targetId = some c := by
  rw [← h.edges, lookup_eq_some h.sound.distinctEdges, List.mem_map]
  constructor
  · rintro ⟨edge, hedge, rfl⟩
    rw [← h.keyed edge hedge]
    exact hedge
  · exact fun hedge ↦ ⟨_, hedge, rfl⟩

theorem Keeps.once (h : Keeps format evidence r) :
    ((evidence.constraints.map Prod.snd).map fun c ↦ (c.sourceId, c.targetId)).Nodup := by
  have hkeys : keys evidence.constraints = ((evidence.constraints.map Prod.snd).map
      fun c ↦ (c.sourceId, c.targetId)).map fun ends ↦ constraintKey ends.1 ends.2 := by
    rw [keys, List.map_map, List.map_map]
    exact List.map_congr_left h.keyed
  have hdistinct := h.sound.distinctEdges
  rw [hkeys] at hdistinct
  exact hdistinct.of_map _

theorem Keeps.restores (h : Keeps format evidence r) (hrecorded : Recorded evidence graph) :
    Restores r graph where
  poses id := by rw [hrecorded.poses, h.poses]
  stamps id := by rw [hrecorded.stamps, h.poses, h.stamps]
  edges c := by rw [hrecorded.constraints.mem_iff, h.mem_edges]
  once := ((hrecorded.constraints.map _).nodup_iff).mpr h.once

omit [One V] [LT V] in
theorem file_of_step (h : (step format s op).2 = some file) :
    file = snapshotText format s.evidence := by
  cases op with
  | compute published optimized =>
    change (writeGraphSnapshot format published s).2 = some file at h
    rw [writeGraphSnapshot] at h
    split_ifs at h
    cases h
    rfl
  | _ => cases h

variable [DecidableLT V]

theorem written_loads (hformat : ∀ v, format.isFinite v = true → format.ReadsBack v)
    (hzero : format.isFinite 0 = true) {ops : List (Operation V)}
    (hlegal : LegalRun format {} ops) (disk : String → Option (List Char))
    (hfile : (step format (run (step format) { disk } ops) op).2 = some file)
    (hnodes : 3 ≤ (run (step format) { disk } ops).evidence.poses.length)
    (hedges : 1 ≤ (run (step format) { disk } ops).evidence.constraints.length)
    (path : String) :
    ∃ graph, loadGraph format path (some file) = .ok graph ∧ Restores (recordOf ops) graph := by
  have hkeeps : Keeps format (run (step format) { disk } ops).evidence (recordOf ops) :=
    keeps_run hformat keeps_start hlegal
  obtain ⟨graph, hload, hrecorded⟩ := loadGraph_snapshotText hkeeps.sound (hformat 0 hzero)
    hnodes hedges path
  rw [file_of_step hfile]
  exact ⟨graph, hload, hkeeps.restores hrecorded⟩

end Files

section Largest

variable {V : Type} [Zero V] {format : NumberFormat V} {s : Solver V} {path : String}

/-- The size of the graph: nodes first, then edges. -/
def size (s : Solver V) : ℕ ×ₗ ℕ :=
  toLex (s.evidence.poses.length, s.evidence.constraints.length)

def bestSize (s : Solver V) : ℕ ×ₗ ℕ :=
  toLex (s.bestGraphSnapshotNodes, s.bestGraphSnapshotConstraints)

omit [Zero V] in
theorem keepsSnapshot_iff : keepsSnapshot s = true ↔ size s ≤ bestSize s := by
  rw [size, bestSize, Prod.Lex.toLex_le_toLex]
  simp [keepsSnapshot]

def Attempted (since : List (Operation V)) (pre : List (Operation V)) : Prop :=
  ∃ optimized post, since = pre ++ .compute true optimized :: post

omit [Zero V] in
theorem attempted_snoc {since pre : List (Operation V)} {op : Operation V} :
    Attempted (since ++ [op]) pre ↔
      Attempted since pre ∨ pre = since ∧ ∃ optimized, op = .compute true optimized := by
  constructor
  · rintro ⟨optimized, post, heq⟩
    rcases snoc_eq_append_cons heq with ⟨-, rfl, rfl⟩ | ⟨post', -, heq'⟩
    · exact .inr ⟨rfl, optimized, rfl⟩
    · exact .inl ⟨optimized, post', heq'⟩
  · rintro (⟨optimized, post, rfl⟩ | ⟨rfl, optimized, rfl⟩)
    · exact ⟨optimized, post ++ [op], by rw [List.append_assoc, List.cons_append]⟩
    · exact ⟨optimized, [], rfl⟩

structure SameFile (s s' : Solver V) : Prop where
  path : s'.graphLogPath = s.graphLogPath
  best : bestSize s' = bestSize s
  disk : s'.disk = s.disk

theorem sameFile_step {op : Operation V} (hconfigure : ∀ path, op ≠ .configure path)
    (hquiet : (step format s op).2 = none) : SameFile s (step format s op).1 := by
  cases op with
  | configure path => exact absurd rfl (hconfigure path)
  | compute published optimized =>
    change (writeGraphSnapshot format published s).2 = none at hquiet
    have hsame : (writeGraphSnapshot format published s).1 = s := by
      rw [writeGraphSnapshot] at hquiet ⊢
      split_ifs at hquiet ⊢
      rfl
    unfold step
    dsimp only
    rw [hsame]
    exact ⟨rfl, rfl, rfl⟩
  | _ => exact ⟨rfl, rfl, rfl⟩

structure Holds (format : NumberFormat V) (path : String) (start : Solver V)
    (since : List (Operation V)) : Prop where
  logPath : (run (step format) start since).graphLogPath = path
  attempts : ∀ pre, Attempted since pre →
    size (run (step format) start pre) ≤ bestSize (run (step format) start since)
  file : bestSize (run (step format) start since) ≠ toLex (0, 0) →
    ∃ pre, Attempted since pre ∧
      bestSize (run (step format) start since) = size (run (step format) start pre) ∧
      (run (step format) start since).disk path =
        some (snapshotText format (run (step format) start pre).evidence)

theorem Holds.same {start : Solver V} {since : List (Operation V)} {op : Operation V}
    (h : Holds format path start since)
    (hsame : SameFile (run (step format) start since) (run (step format) start (since ++ [op])))
    (hnew : ∀ optimized, op = .compute true optimized →
      size (run (step format) start since) ≤ bestSize (run (step format) start since)) :
    Holds format path start (since ++ [op]) := by
  refine ⟨hsame.path.trans h.logPath, ?_, ?_⟩
  · intro pre hpre
    rw [hsame.best]
    rcases attempted_snoc.mp hpre with hold | ⟨rfl, optimized, hop⟩
    · exact h.attempts pre hold
    · exact hnew optimized hop
  · rw [hsame.best, hsame.disk]
    intro hbest
    obtain ⟨pre, hpre, hsize, hdisk⟩ := h.file hbest
    exact ⟨pre, attempted_snoc.mpr (.inl hpre), hsize, hdisk⟩

theorem Holds.written {start : Solver V} {since : List (Operation V)} {published : Bool}
    {optimized : List (Int32 × Planar.Pose2d V)} {file : List Char}
    (h : Holds format path start since)
    (hfile : (step format (run (step format) start since) (.compute published optimized)).2 =
      some file) : Holds format path start (since ++ [.compute published optimized]) := by
  have hsnoc := run_snoc (step format) start since (.compute published optimized)
  change (writeGraphSnapshot format published _).2 = some file at hfile
  have hwrites : ¬ ((run (step format) start since).graphLogPath = "" ∨
      keepsSnapshot (run (step format) start since) = true ∨ (!published) = true) := by
    intro hkeeps
    rw [writeGraphSnapshot, if_pos hkeeps] at hfile
    cases hfile
  have hstate : run (step format) start (since ++ [.compute published optimized]) =
      { run (step format) start since with
        disk := fun path' ↦
          if path' = (run (step format) start since).graphLogPath then
            some (snapshotText format (run (step format) start since).evidence)
          else (run (step format) start since).disk path'
        bestGraphSnapshotNodes := (run (step format) start since).evidence.poses.length
        bestGraphSnapshotConstraints :=
          (run (step format) start since).evidence.constraints.length
        initialPoses :=
          merge (run (step format) start since).initialPoses optimized } := by
    rw [hsnoc, step, writeGraphSnapshot, if_neg hwrites]
  rw [not_or, not_or, keepsSnapshot_iff, not_le, Bool.not_eq_true', Bool.not_eq_false] at hwrites
  obtain ⟨-, hlarger, rfl⟩ := hwrites
  have hbest : bestSize (run (step format) start (since ++ [.compute true optimized])) =
      size (run (step format) start since) := by
    rw [hstate]
    rfl
  refine ⟨?_, ?_, ?_⟩
  · rw [hstate]
    exact h.logPath
  · intro pre hpre
    rw [hbest]
    rcases attempted_snoc.mp hpre with hold | ⟨rfl, -⟩
    · exact (h.attempts pre hold).trans hlarger.le
    · exact le_rfl
  · intro _
    refine ⟨since, attempted_snoc.mpr (.inr ⟨rfl, optimized, rfl⟩), hbest, ?_⟩
    rw [hstate]
    exact if_pos h.logPath.symm

theorem Holds.step {start : Solver V} {since : List (Operation V)} {op : Operation V}
    (h : Holds format path start since) (hpath : path ≠ "")
    (hconfigure : ∀ path, op ≠ .configure path) : Holds format path start (since ++ [op]) := by
  have hsnoc := run_snoc (ScanSolver.step format) start since op
  cases hfile : (ScanSolver.step format (run (ScanSolver.step format) start since) op).2 with
  | none =>
    refine h.same ?_ ?_
    · rw [hsnoc]
      exact sameFile_step hconfigure hfile
    · rintro optimized rfl
      change (writeGraphSnapshot format true _).2 = none at hfile
      rw [writeGraphSnapshot] at hfile
      split_ifs at hfile with hkeeps
      rcases hkeeps with hempty | hkeeps | hpublished
      · exact absurd (h.logPath.symm.trans hempty) hpath
      · exact keepsSnapshot_iff.mp hkeeps
      · cases hpublished
  | some file =>
    cases op with
    | compute published optimized =>
      exact h.written hfile
    | _ => cases hfile

variable (format) in
theorem holds_since {start : Solver V} (hpath : start.graphLogPath = path) (hne : path ≠ "")
    (hbest : bestSize start = toLex (0, 0)) {since : List (Operation V)}
    (hsince : ∀ op ∈ since, ∀ path, op ≠ .configure path) : Holds format path start since := by
  induction since using List.reverseRecOn with
  | nil =>
    refine ⟨hpath, ?_, fun hne ↦ absurd hbest hne⟩
    rintro pre ⟨optimized, post, heq⟩
    exact absurd heq (by simp)
  | append_singleton since op ih =>
    have hbefore := ih fun op' hop' ↦ hsince op' (List.mem_append_left _ hop')
    exact hbefore.step hne (hsince op (List.mem_append_right _ (.head _)))

end Largest

variable {V : Type} [Zero V] {format : NumberFormat V}

/-- The solver once it is configured with a path, after so many calls. -/
def configured (format : NumberFormat V) (disk : String → Option (List Char))
    (before : List (Operation V)) (path : String) (since : List (Operation V)) : Solver V :=
  run (step format) (step format (run (step format) { disk } before) (.configure path)).1 since

/-- The file is the snapshot of an attempt, and no attempt was larger. -/
structure LargestSnapshot (format : NumberFormat V) (disk : String → Option (List Char))
    (before : List (Operation V)) (path : String) (since pre : List (Operation V)) : Prop where
  attempted : Attempted since pre
  file : (configured format disk before path since).disk path =
    some (snapshotText format (configured format disk before path pre).evidence)
  largest : ∀ pre', Attempted since pre' →
    size (configured format disk before path pre') ≤ size (configured format disk before path pre)

theorem exists_largestSnapshot (disk : String → Option (List Char)) (before : List (Operation V))
    {path : String} (hne : path ≠ "") {since : List (Operation V)}
    (hsince : ∀ op ∈ since, ∀ path, op ≠ .configure path)
    (hattempt : ∃ pre, Attempted since pre ∧
      size (configured format disk before path pre) ≠ toLex (0, 0)) :
    ∃ pre, LargestSnapshot format disk before path since pre := by
  have hpath : (step format (run (step format) { disk } before) (.configure path)).1.graphLogPath =
      path := rfl
  have hholds := holds_since format hpath hne rfl hsince
  obtain ⟨pre₀, hpre₀, hsize₀⟩ := hattempt
  have hbest : bestSize (configured format disk before path since) ≠ toLex (0, 0) := by
    intro hzero
    have hle := hholds.attempts pre₀ hpre₀
    rw [configured] at hzero
    rw [hzero] at hle
    refine hsize₀ (le_antisymm hle ?_)
    rw [size, Prod.Lex.toLex_le_toLex]
    dsimp only
    omega
  obtain ⟨pre, hpre, hsize, hfile⟩ := hholds.file hbest
  exact ⟨pre, hpre, hfile, fun pre' hpre' ↦ (hholds.attempts pre' hpre').trans hsize.le⟩

variable [One V] [LT V] [DecidableLT V]

/-- Snapshots of legal runs are read as they were recorded, and the file is the largest. -/
theorem snapshots_kept (hformat : ∀ v, format.isFinite v = true → format.ReadsBack v)
    (hzero : format.isFinite 0 = true) (disk : String → Option (List Char)) :
    (∀ ops op file path, LegalRun format {} ops →
      (step format (run (step format) { disk } ops) op).2 = some file →
      3 ≤ (run (step format) { disk } ops).evidence.poses.length →
      1 ≤ (run (step format) { disk } ops).evidence.constraints.length →
      ∃ graph, loadGraph format path (some file) = .ok graph ∧ Restores (recordOf ops) graph) ∧
    ∀ before path since, path ≠ "" → (∀ op ∈ since, ∀ path, op ≠ .configure path) →
      (∃ pre, Attempted since pre ∧
        size (configured format disk before path pre) ≠ toLex (0, 0)) →
      ∃ pre, LargestSnapshot format disk before path since pre := by
  constructor
  · intro ops op file path hlegal hfile hnodes hedges
    exact written_loads hformat hzero hlegal disk hfile hnodes hedges path
  · intro before path since hne hsince hattempt
    exact exists_largestSnapshot disk before hne hsince hattempt

def integers : NumberFormat ℤ where
  isFinite _ := true
  print := printInt
  read := readInt

theorem integers_readBack (v : ℤ) (_ : integers.isFinite v = true) : integers.ReadsBack v :=
  ⟨solid_printInt v, fun _ hrest ↦ readInt_printInt v hrest⟩

def edge (sourceId targetId : Int32) : PoseGraphConstraint ℤ :=
  { sourceId, targetId, relativePose := ⟨1, 0, 0⟩, covariance := fun _ _ ↦ 1
    scanOverlapRatio := some 1 }

/-- Three nodes, one of them without a time, and one edge. -/
def threeNodes : List (Operation ℤ) :=
  [.configure "graph.txt", .addNode 1 ⟨0, 0, 0⟩ 10, .addNode 2 ⟨1, 0, 0⟩ 11,
    .modifyNode 3 ⟨1, 1, 0⟩, .addConstraint (edge 1 2)]

theorem finiteEdge_edge (sourceId targetId : Int32) :
    FiniteEdge integers (edge sourceId targetId) where
  pose _ _ := rfl
  covariance _ _ := rfl
  overlap ratio hratio := by
    cases hratio
    exact ⟨rfl, by decide, by decide⟩

theorem legalRun_threeNodes : LegalRun integers {} threeNodes :=
  ⟨trivial, ⟨fun _ _ ↦ rfl, rfl⟩, ⟨fun _ _ ↦ rfl, rfl⟩, fun _ _ ↦ rfl,
    ⟨finiteEdge_edge 1 2, rfl, rfl⟩, trivial⟩

theorem threeNodes_kept : ∃ file graph,
    (step integers (run (step integers) {} threeNodes) (.compute true [])).2 = some file ∧
    loadGraph integers "graph.txt" (some file) = .ok graph ∧
    Restores (recordOf threeNodes) graph := by
  obtain ⟨file, hfile⟩ : ∃ file,
      (step integers (run (step integers) {} threeNodes) (.compute true [])).2 = some file :=
    ⟨_, rfl⟩
  obtain ⟨graph, hload, hrestores⟩ := (snapshots_kept integers_readBack rfl fun _ ↦ none).1
    threeNodes (.compute true []) file "graph.txt" legalRun_threeNodes hfile
    (by decide) (by decide)
  exact ⟨file, graph, hfile, hload, hrestores⟩

def reconfigured : List (Operation ℤ) :=
  [.configure "graph.txt", .addNode 1 ⟨0, 0, 0⟩ 10, .addNode 2 ⟨1, 0, 0⟩ 11,
    .configure "graph.txt", .addNode 3 ⟨0, 0, 0⟩ 12, .addNode 4 ⟨0, 0, 0⟩ 13,
    .addNode 5 ⟨0, 0, 0⟩ 14]

def unpublished : List (Operation ℤ) :=
  [.addNode 1 ⟨0, 0, 0⟩ 10, .compute true [], .addNode 2 ⟨1, 0, 0⟩ 11, .compute false []]

/-- `Configure` forgets the evidence, and an unpublishable snapshot is not kept. -/
theorem snapshots_not_kept :
    (∃ file, (1 : Int32) ∈ keys (run (step integers) {} reconfigured).initialPoses ∧
      (2 : Int32) ∈ keys (run (step integers) {} reconfigured).initialPoses ∧
      (step integers (run (step integers) {} (reconfigured ++ [.addConstraint (edge 1 2)]))
        (.compute true [])).2 = some file ∧
      loadGraph integers "graph.txt" (some file) =
        .error "constraint references a missing node") ∧
    (configured integers (fun _ ↦ none) [] "graph.txt" unpublished).disk "graph.txt" =
      some (snapshotText integers
        (configured integers (fun _ ↦ none) [] "graph.txt" (unpublished.take 1)).evidence) ∧
    size (configured integers (fun _ ↦ none) [] "graph.txt" (unpublished.take 1)) <
      size (configured integers (fun _ ↦ none) [] "graph.txt" (unpublished.take 3)) := by
  refine ⟨⟨_, by decide, by decide, rfl, rfl⟩, rfl, ?_⟩
  rw [size, size, Prod.Lex.toLex_lt_toLex]
  decide

end EmbodiedAgent.Slam.ScanSolver
