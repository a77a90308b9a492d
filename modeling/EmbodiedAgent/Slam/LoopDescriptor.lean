import EmbodiedAgent.Library.Arithmetic
import EmbodiedAgent.Library.Cyclic
import EmbodiedAgent.Slam.PlanarPose

namespace EmbodiedAgent.Slam.LoopDescriptor

open Library Planar Finset

section Model

structure PolarDescriptorConfig (K : Type) where
  radialBins : ℕ := 20
  angularBins : ℕ := 60
  maximumRangeM : K
  minimumPoints : ℕ := 30

structure PolarScanDescriptor (K : Type) where
  radialBins : ℕ := 0
  angularBins : ℕ := 0
  validPoints : ℕ := 0
  cells : List K := []
  ringKey : List K := []

structure DescriptorAlignment (K : Type) where
  similarity : K
  sectorShift : ℕ
  yawOffsetRad : K

def PolarScanDescriptor.valid {K : Type} (d : PolarScanDescriptor K) : Bool :=
  0 < d.radialBins && 0 < d.angularBins && 0 < d.validPoints &&
    d.cells.length == d.radialBins * d.angularBins && d.ringKey.length == d.radialBins

variable {K : Type} [Field K]

def ringKeys (radialBins angularBins : ℕ) (cells : List K) : List K :=
  (List.range radialBins).map fun radial ↦
    (∑ angular ∈ range angularBins, cells.getD (radial * angularBins + angular) 0) /
      (angularBins : K)

variable [LinearOrder K]

def validateConfig [Extended K] (config : PolarDescriptorConfig K) : Except String Unit :=
  if config.radialBins = 0 ∨ config.angularBins < 4 ∨ !Extended.isFinite config.maximumRangeM ∨
      config.maximumRangeM ≤ 0 ∨ config.minimumPoints = 0 then
    .error "invalid polar descriptor configuration"
  else .ok ()

def validateDescriptorPair (left right : PolarScanDescriptor K) : Except String Unit :=
  if !left.valid ∨ !right.valid then .error "cannot compare invalid polar descriptors"
  else if left.radialBins ≠ right.radialBins ∨ left.angularBins ≠ right.angularBins ∨
      left.cells.length ≠ right.cells.length then
    .error "descriptor dimensions differ"
  else .ok ()

def normSquared (d : PolarScanDescriptor K) : K := (d.cells.map fun value ↦ value * value).sum

def dot (query candidate : PolarScanDescriptor K) (shift : ℕ) : K :=
  ∑ radial ∈ range query.radialBins, ∑ angular ∈ range query.angularBins,
    query.cells.getD (radial * query.angularBins + angular) 0 *
      candidate.cells.getD
        (radial * query.angularBins + (angular + shift) % query.angularBins) 0

variable (polar : Polar K)

def ringKeyDistance (left right : PolarScanDescriptor K) : Except String K :=
  if left.ringKey.length ≠ right.ringKey.length then
    .error "descriptor ring-key dimensions differ"
  else .ok (polar.sqrt ((left.ringKey.zip right.ringKey).map fun (l, r) ↦
    (l - r) * (l - r)).sum)

/-- `std::numeric_limits<double>::epsilon()` -/
def epsilon : K := ((2 ^ 52 : ℕ) : K)⁻¹

def alignPolarDescriptors (query candidate : PolarScanDescriptor K) :
    Except String (DescriptorAlignment K) :=
  match validateDescriptorPair query candidate with
  | .error e => .error e
  | .ok () =>
    let denominator := polar.sqrt (normSquared query * normSquared candidate)
    if denominator ≤ epsilon then .ok ⟨0, 0, 0⟩
    else
      let best := (List.range query.angularBins).foldl
        (Cyclic.raise fun shift ↦ dot query candidate shift / denominator) (0, 0)
      .ok
        { similarity := best.1
          sectorShift := best.2
          yawOffsetRad := polar.turn * (best.2 : K) / (query.angularBins : K) }

variable [FloorRing K] [Extended K]

def cellOf (config : PolarDescriptorConfig K) (point : Point K) : Option ℕ :=
  if !Extended.isFinite point.x ∨ !Extended.isFinite point.y then none
  else
    let radius := polar.hypot point.x point.y
    if radius ≤ 0 ∨ config.maximumRangeM ≤ radius then none
    else
      let angle := polar.atan2 point.y point.x
      let angle := if angle < 0 then angle + polar.turn else angle
      let radial := min (config.radialBins - 1)
        ⌊radius / config.maximumRangeM * (config.radialBins : K)⌋₊
      let angular := min (config.angularBins - 1)
        ⌊angle / polar.turn * (config.angularBins : K)⌋₊
      some (radial * config.angularBins + angular)

def countPoint (config : PolarDescriptorConfig K) (d : PolarScanDescriptor K)
    (point : Point K) : PolarScanDescriptor K :=
  match cellOf polar config point with
  | none => d
  | some cell =>
    { d with cells := d.cells.modify cell (· + 1), validPoints := d.validPoints + 1 }

def makePolarScanDescriptor (log1p : K → K) (points : List (Point K))
    (config : PolarDescriptorConfig K) : Except String (PolarScanDescriptor K) :=
  match validateConfig config with
  | .error e => .error e
  | .ok () =>
    let counted := points.foldl (countPoint polar config)
      { radialBins := config.radialBins
        angularBins := config.angularBins
        cells := List.replicate (config.radialBins * config.angularBins) 0
        ringKey := List.replicate config.radialBins 0 }
    if counted.validPoints < config.minimumPoints then .ok { counted with validPoints := 0 }
    else
      let cells := counted.cells.map log1p
      .ok
        { counted with
          cells := cells
          ringKey := ringKeys config.radialBins config.angularBins cells }

end Model

section Sectors

variable {K : Type} [Field K] {d : PolarScanDescriptor K} {k : ℕ}

/-- The value of a cell, on a ring that closes. -/
def PolarScanDescriptor.sector (d : PolarScanDescriptor K) (radial angular : ℕ) : K :=
  d.cells.getD (radial * d.angularBins + angular % d.angularBins) 0

def rotate (k : ℕ) (d : PolarScanDescriptor K) : PolarScanDescriptor K :=
  let cells := (List.range (d.radialBins * d.angularBins)).map fun i ↦
    d.sector (i / d.angularBins) (i % d.angularBins + (d.angularBins - k % d.angularBins))
  { d with cells := cells, ringKey := ringKeys d.radialBins d.angularBins cells }

/-- The sectors that are missing to a full turn after `k` of them. -/
def PolarScanDescriptor.missing (d : PolarScanDescriptor K) (k : ℕ) : ℕ :=
  d.angularBins - k % d.angularBins

/-- The ring key is the one that the descriptor of a scan has. -/
def PolarScanDescriptor.Keyed (d : PolarScanDescriptor K) : Prop :=
  d.ringKey = ringKeys d.radialBins d.angularBins d.cells

omit [Field K] in
theorem valid_iff : d.valid = true ↔ 0 < d.radialBins ∧ 0 < d.angularBins ∧ 0 < d.validPoints ∧
    d.cells.length = d.radialBins * d.angularBins ∧ d.ringKey.length = d.radialBins := by
  simp only [PolarScanDescriptor.valid, Bool.and_eq_true, decide_eq_true_eq, beq_iff_eq, and_assoc]

theorem sector_periodic (d : PolarScanDescriptor K) (radial : ℕ) :
    Function.Periodic (d.sector radial) d.angularBins := by
  intro angular
  rw [PolarScanDescriptor.sector, PolarScanDescriptor.sector, Nat.add_mod_right]

omit [Field K] in
theorem dvd_add_missing (hvalid : d.valid = true) (k : ℕ) : d.angularBins ∣ k + d.missing k := by
  obtain ⟨-, hpos, -⟩ := valid_iff.mp hvalid
  have hlt := Nat.mod_lt k hpos
  refine ⟨k / d.angularBins + 1, ?_⟩
  have hdiv := Nat.div_add_mod k d.angularBins
  rw [PolarScanDescriptor.missing, mul_add, mul_one]
  omega

theorem sector_rotate (hvalid : d.valid = true) (k : ℕ) {radial : ℕ}
    (hradial : radial < d.radialBins) (angular : ℕ) :
    (rotate k d).sector radial angular = Cyclic.shifted d.sector (d.missing k) radial angular := by
  obtain ⟨-, hpos, -⟩ := valid_iff.mp hvalid
  have hmod := Nat.mod_lt angular hpos
  have hlt : radial * d.angularBins + angular % d.angularBins <
      d.radialBins * d.angularBins := by
    calc radial * d.angularBins + angular % d.angularBins
        < radial * d.angularBins + d.angularBins := Nat.add_lt_add_left hmod _
      _ = (radial + 1) * d.angularBins := (Nat.succ_mul _ _).symm
      _ ≤ d.radialBins * d.angularBins := Nat.mul_le_mul_right _ hradial
  have hget : (rotate k d).sector radial angular =
      d.sector radial (angular % d.angularBins + d.missing k) := by
    rw [PolarScanDescriptor.sector, rotate]
    dsimp only
    rw [List.getD_eq_getElem?_getD, List.getElem?_map, List.getElem?_range hlt, Option.map_some,
      Option.getD_some, Nat.add_comm (radial * d.angularBins), Nat.add_mul_div_right _ _ hpos,
      Nat.div_eq_of_lt hmod, Nat.zero_add, Nat.add_mul_mod_self_right,
      Nat.mod_mod, PolarScanDescriptor.missing]
  rw [hget, Cyclic.shifted]
  have hperiodic : Function.Periodic (fun a ↦ d.sector radial (a + d.missing k)) d.angularBins :=
    Cyclic.shifted_periodic (sector_periodic d) (d.missing k) radial
  exact hperiodic.map_mod_nat angular

theorem rotate_valid (hvalid : d.valid = true) (k : ℕ) : (rotate k d).valid = true := by
  obtain ⟨hradial, hangular, hpoints, -, -⟩ := valid_iff.mp hvalid
  exact valid_iff.mpr ⟨hradial, hangular, hpoints, by simp [rotate], by simp [rotate, ringKeys]⟩

theorem ringKey_rotate (hvalid : d.valid = true) (hkeyed : d.Keyed) (k : ℕ) :
    (rotate k d).ringKey = d.ringKey := by
  have hsum : ∀ (d' : PolarScanDescriptor K) (radial : ℕ), d'.angularBins = d.angularBins →
      ∑ angular ∈ range d.angularBins, d'.cells.getD (radial * d.angularBins + angular) 0 =
        ∑ angular ∈ range d.angularBins, d'.sector radial angular := by
    intro d' radial hbins
    refine sum_congr rfl fun angular hangular ↦ ?_
    rw [PolarScanDescriptor.sector, hbins, Nat.mod_eq_of_lt (mem_range.mp hangular)]
  rw [hkeyed]
  refine List.map_congr_left ?_
  intro radial hradial
  have hrotated := hsum (rotate k d) radial rfl
  rw [hsum d radial rfl]
  refine congrArg (· / (d.angularBins : K)) (hrotated.trans ?_)
  rw [← Cyclic.sum_shift (sector_periodic d radial) (d.missing k)]
  refine sum_congr rfl fun angular _ ↦ ?_
  rw [sector_rotate hvalid k (List.mem_range.mp hradial)]
  rfl

end Sectors

section Alignment

variable {K : Type} {query candidate d : PolarScanDescriptor K} {k : ℕ}

/-- Descriptors that can be compared. -/
structure Comparable (query candidate : PolarScanDescriptor K) : Prop where
  query_valid : query.valid = true
  candidate_valid : candidate.valid = true
  radial : candidate.radialBins = query.radialBins
  angular : candidate.angularBins = query.angularBins

theorem Comparable.symm (h : Comparable query candidate) : Comparable candidate query :=
  ⟨h.candidate_valid, h.query_valid, h.radial.symm, h.angular.symm⟩

theorem Comparable.validates (h : Comparable query candidate) :
    validateDescriptorPair query candidate = .ok () := by
  obtain ⟨hquery, hcandidate, hradial, hangular⟩ := h
  obtain ⟨-, -, -, hcells, -⟩ := valid_iff.mp hquery
  obtain ⟨-, -, -, hcells', -⟩ := valid_iff.mp hcandidate
  rw [validateDescriptorPair, if_neg (by simp [hquery, hcandidate]),
    if_neg (by simp [hradial, hangular, hcells, hcells'])]

variable [Field K]

theorem Comparable.rotate_query (h : Comparable query candidate) (k : ℕ) :
    Comparable (rotate k query) candidate :=
  ⟨rotate_valid h.query_valid k, h.candidate_valid, h.radial, h.angular⟩

theorem Comparable.rotate_candidate (h : Comparable query candidate) (k : ℕ) :
    Comparable query (rotate k candidate) :=
  ⟨h.query_valid, rotate_valid h.candidate_valid k, h.radial, h.angular⟩

theorem normSquared_eq (hvalid : d.valid = true) :
    normSquared d = Cyclic.energy d.radialBins d.angularBins d.sector := by
  obtain ⟨-, -, -, hcells, -⟩ := valid_iff.mp hvalid
  rw [normSquared, Cyclic.sum_rows hcells 0]
  refine sum_congr rfl fun radial _ ↦ sum_congr rfl fun angular hangular ↦ ?_
  rw [PolarScanDescriptor.sector, Nat.mod_eq_of_lt (mem_range.mp hangular)]

theorem dot_eq (h : Comparable query candidate) (shift : ℕ) : dot query candidate shift =
    Cyclic.correlate query.radialBins query.angularBins query.sector candidate.sector shift := by
  refine sum_congr rfl fun radial _ ↦ sum_congr rfl fun angular hangular ↦ ?_
  rw [PolarScanDescriptor.sector, PolarScanDescriptor.sector, h.angular,
    Nat.mod_eq_of_lt (mem_range.mp hangular)]

theorem normSquared_rotate (hvalid : d.valid = true) (k : ℕ) :
    normSquared (rotate k d) = normSquared d := by
  rw [normSquared_eq (rotate_valid hvalid k), normSquared_eq hvalid,
    ← Cyclic.energy_shifted (sector_periodic d) (d.missing k)]
  refine sum_congr rfl fun radial hradial ↦ sum_congr rfl fun angular _ ↦ ?_
  rw [sector_rotate hvalid k (mem_range.mp hradial)]

theorem dot_rotate_candidate (h : Comparable query candidate) (k shift : ℕ) :
    dot query (rotate k candidate) shift = dot query candidate
      ((shift + candidate.missing k) % query.angularBins) := by
  have hperiodic : ∀ r, Function.Periodic (candidate.sector r) query.angularBins := by
    intro r
    rw [← h.angular]
    exact sector_periodic candidate r
  rw [dot_eq (h.rotate_candidate k), dot_eq h, Cyclic.correlate_eq_mod hperiodic,
    ← Cyclic.correlate_shifted_right]
  refine sum_congr rfl fun radial hradial ↦ sum_congr rfl fun angular _ ↦ ?_
  rw [sector_rotate h.candidate_valid k (h.radial ▸ mem_range.mp hradial)]

theorem dot_comm (h : Comparable query candidate) (shift : ℕ) :
    dot query candidate shift = dot candidate query (query.missing shift % query.angularBins) := by
  have hperiodic : ∀ r, Function.Periodic (candidate.sector r) query.angularBins := by
    intro r
    rw [← h.angular]
    exact sector_periodic candidate r
  rw [dot_eq h, dot_eq h.symm, h.radial, h.angular, Cyclic.correlate_eq_mod (sector_periodic query)]
  exact Cyclic.correlate_comm (sector_periodic query) hperiodic
    (dvd_add_missing h.query_valid shift)

theorem dot_self (hvalid : d.valid = true) : dot d d 0 = normSquared d := by
  rw [dot_eq ⟨hvalid, hvalid, rfl, rfl⟩, normSquared_eq hvalid]
  rfl

theorem comparable_rotate (hvalid : d.valid = true) (k : ℕ) : Comparable d (rotate k d) :=
  Comparable.rotate_candidate ⟨hvalid, hvalid, rfl, rfl⟩ k

theorem dot_self_rotate (hvalid : d.valid = true) (k : ℕ) :
    dot d (rotate k d) (k % d.angularBins) = normSquared d := by
  obtain ⟨t, ht⟩ := dvd_add_missing hvalid k
  rw [dot_rotate_candidate ⟨hvalid, hvalid, rfl, rfl⟩, Nat.mod_add_mod, ht, Nat.mul_mod_right,
    dot_self hvalid]

variable [LinearOrder K] {polar : Polar K} {query' candidate' : PolarScanDescriptor K}

theorem alignPolarDescriptors_eq (polar : Polar K) (h : Comparable query candidate) :
    alignPolarDescriptors polar query candidate =
      let denominator := polar.sqrt (normSquared query * normSquared candidate)
      if denominator ≤ epsilon then .ok ⟨0, 0, 0⟩
      else
        let best := (List.range query.angularBins).foldl
          (Cyclic.raise fun shift ↦ dot query candidate shift / denominator) (0, 0)
        .ok ⟨best.1, best.2, polar.turn * (best.2 : K) / (query.angularBins : K)⟩ := by
  rw [alignPolarDescriptors, h.validates]

theorem ringKeyDistance_congr (hquery : query'.ringKey = query.ringKey)
    (hcandidate : candidate'.ringKey = candidate.ringKey) :
    ringKeyDistance polar query' candidate' = ringKeyDistance polar query candidate := by
  rw [ringKeyDistance, ringKeyDistance, hquery, hcandidate]

theorem exists_align (polar : Polar K) (h : Comparable query candidate) :
    ∃ a, alignPolarDescriptors polar query candidate = .ok a := by
  rw [alignPolarDescriptors_eq polar h]
  dsimp only
  split_ifs
  · exact ⟨_, rfl⟩
  · exact ⟨_, rfl⟩

def similarity (polar : Polar K) (query candidate : PolarScanDescriptor K) : Except String K :=
  (alignPolarDescriptors polar query candidate).map DescriptorAlignment.similarity

theorem similarity_congr (h : Comparable query candidate) (h' : Comparable query' candidate')
    (hnorm : normSquared query * normSquared candidate =
      normSquared query' * normSquared candidate')
    (hfit : ∀ s < query.angularBins, ∃ s' < query'.angularBins,
      dot query candidate s = dot query' candidate' s')
    (hfit' : ∀ s' < query'.angularBins, ∃ s < query.angularBins,
      dot query' candidate' s' = dot query candidate s) :
    similarity polar query candidate = similarity polar query' candidate' := by
  rw [similarity, similarity, alignPolarDescriptors_eq polar h, alignPolarDescriptors_eq polar h',
    hnorm]
  dsimp only
  split_ifs
  · rfl
  · refine congrArg Except.ok (Cyclic.foldl_raise_congr ?_ ?_)
    · intro s hs
      obtain ⟨s', hs', heq⟩ := hfit s (List.mem_range.mp hs)
      exact ⟨s', List.mem_range.mpr hs', by rw [heq]⟩
    · intro s' hs'
      obtain ⟨s, hs, heq⟩ := hfit' s' (List.mem_range.mp hs')
      exact ⟨s, List.mem_range.mpr hs, by rw [heq]⟩

theorem similarity_comm (h : Comparable query candidate) :
    similarity polar query candidate = similarity polar candidate query := by
  obtain ⟨-, hpos, -⟩ := valid_iff.mp h.query_valid
  refine similarity_congr h h.symm (mul_comm _ _) ?_ ?_
  · intro s _
    refine ⟨query.missing s % query.angularBins, ?_, dot_comm h s⟩
    rw [h.angular]
    exact Nat.mod_lt _ hpos
  · intro s' _
    have hback := dot_comm h.symm s'
    rw [h.angular] at hback
    exact ⟨_, Nat.mod_lt _ hpos, hback⟩

theorem similarity_rotate_candidate (h : Comparable query candidate) (k : ℕ) :
    similarity polar query (rotate k candidate) = similarity polar query candidate := by
  obtain ⟨-, hpos, -⟩ := valid_iff.mp h.query_valid
  refine similarity_congr (h.rotate_candidate k) h ?_ ?_ ?_
  · rw [normSquared_rotate h.candidate_valid]
  · intro s _
    exact ⟨_, Nat.mod_lt _ hpos, dot_rotate_candidate h k s⟩
  · intro s' hs'
    refine ⟨(s' + k) % query.angularBins, Nat.mod_lt _ hpos, ?_⟩
    obtain ⟨t, ht⟩ := dvd_add_missing h.candidate_valid k
    rw [dot_rotate_candidate h, Nat.mod_add_mod, add_assoc, ht, h.angular,
      Nat.add_mul_mod_self_left, Nat.mod_eq_of_lt hs']

theorem similarity_rotate_query (h : Comparable query candidate) (k : ℕ) :
    similarity polar (rotate k query) candidate = similarity polar query candidate := by
  rw [similarity_comm (h.rotate_query k), similarity_rotate_candidate h.symm,
    similarity_comm h]

variable [IsStrictOrderedRing K]

theorem normSquared_nonneg (d : PolarScanDescriptor K) : 0 ≤ normSquared d := by
  refine List.sum_nonneg ?_
  intro z hz
  obtain ⟨value, -, rfl⟩ := List.mem_map.mp hz
  exact mul_self_nonneg value

theorem dot_le (polar : Polar K) (h : Comparable query candidate) (shift : ℕ) :
    dot query candidate shift ≤ polar.sqrt (normSquared query * normSquared candidate) := by
  have hperiodic : ∀ r, Function.Periodic (candidate.sector r) query.angularBins := by
    intro r
    rw [← h.angular]
    exact sector_periodic candidate r
  have hsq := Cyclic.correlate_sq_le (f := query.sector) (m := query.radialBins) hperiodic shift
  have hroot := polar.sqrt_mul_sqrt _
    (mul_nonneg (normSquared_nonneg query) (normSquared_nonneg candidate))
  have hcandidate := normSquared_eq h.candidate_valid
  rw [h.radial, h.angular] at hcandidate
  rw [← dot_eq h, ← normSquared_eq h.query_valid, ← hcandidate, ← hroot, ← sq] at hsq
  exact le_of_abs_le (abs_le_of_sq_le_sq hsq (polar.sqrt_nonneg _))

theorem epsilon_nonneg : (0 : K) ≤ epsilon := inv_nonneg.mpr (Nat.cast_nonneg _)

theorem similarity_le_one (h : Comparable query candidate) {value : K}
    (hvalue : similarity polar query candidate = .ok value) : value ≤ 1 := by
  rw [similarity, alignPolarDescriptors_eq polar h] at hvalue
  dsimp only at hvalue
  split_ifs at hvalue with hdenominator
  · cases hvalue
    exact zero_le_one
  · cases hvalue
    have hpos := epsilon_nonneg.trans_lt (not_le.mp hdenominator)
    rcases (Cyclic.foldl_raise (fun shift ↦ dot query candidate shift /
      polar.sqrt (normSquared query * normSquared candidate)) (List.range query.angularBins)
      (0, 0)).2.2 with heq | ⟨s, -, heq⟩
    · rw [heq]
      exact zero_le_one
    · rw [heq, div_le_one hpos]
      exact dot_le polar h s

theorem sqrt_mul_self {z : K} (hz : 0 ≤ z) : polar.sqrt (z * z) = z :=
  (mul_self_inj (polar.sqrt_nonneg _) hz).mp (polar.sqrt_mul_sqrt _ (mul_nonneg hz hz))

theorem sector_eq_of_dot (hvalid : d.valid = true) {shift : ℕ}
    (hdot : dot d (rotate k d) shift = normSquared d) {radial : ℕ} (hradial : radial < d.radialBins)
    (angular : ℕ) : (rotate k d).sector radial (angular + shift) = d.sector radial angular := by
  obtain ⟨-, hpos, -⟩ := valid_iff.mp hvalid
  have hperiodic : ∀ r, Function.Periodic ((rotate k d).sector r) d.angularBins :=
    sector_periodic (rotate k d)
  have henergy : Cyclic.energy d.radialBins d.angularBins (rotate k d).sector =
      Cyclic.energy d.radialBins d.angularBins d.sector := by
    rw [← normSquared_eq hvalid, ← normSquared_rotate hvalid k,
      normSquared_eq (rotate_valid hvalid k)]
    rfl
  have hfit := hdot
  rw [dot_eq (comparable_rotate hvalid k), normSquared_eq hvalid] at hfit
  have hcell := Cyclic.eq_of_correlate hperiodic henergy hfit hradial
    (Nat.mod_lt angular hpos)
  rw [(sector_periodic d radial).map_mod_nat] at hcell
  rw [hcell]
  have hmod := (hperiodic radial).map_mod_nat
  rw [← hmod (angular + shift), ← hmod (angular % _ + shift), Nat.mod_add_mod]

variable (polar) in
theorem align_rotate (hvalid : d.valid = true) (hnorm : epsilon < normSquared d) (k : ℕ) :
    ∃ a, alignPolarDescriptors polar d (rotate k d) = .ok a ∧ a.similarity = 1 ∧
      a.sectorShift < d.angularBins ∧ dot d (rotate k d) a.sectorShift = normSquared d := by
  obtain ⟨-, hpos, -⟩ := valid_iff.mp hvalid
  have hnormpos := epsilon_nonneg.trans_lt hnorm
  have hroot : polar.sqrt (normSquared d * normSquared (rotate k d)) = normSquared d := by
    rw [normSquared_rotate hvalid, sqrt_mul_self hnormpos.le]
  have halign := alignPolarDescriptors_eq polar (comparable_rotate hvalid k)
  dsimp only at halign
  rw [hroot, if_neg (not_le.mpr hnorm)] at halign
  refine ⟨_, halign, ?_⟩
  obtain ⟨-, hall, hvalue⟩ := Cyclic.foldl_raise
    (fun shift ↦ dot d (rotate k d) shift / normSquared d) (List.range d.angularBins) (0, 0)
  have hone := hall _ (List.mem_range.mpr (Nat.mod_lt k hpos))
  rw [dot_self_rotate hvalid, div_self hnormpos.ne'] at hone
  rcases hvalue with heq | ⟨s, hs, heq⟩
  · rw [heq] at hone
    exact absurd hone (not_le.mpr zero_lt_one)
  · rw [heq] at hone ⊢
    have hle := dot_le polar (comparable_rotate hvalid k) s
    rw [hroot, ← div_le_one hnormpos] at hle
    have hfull := le_antisymm hle hone
    exact ⟨hfull, List.mem_range.mp hs, (div_eq_one_iff_eq hnormpos.ne').mp hfull⟩

theorem sector_symmetry (hvalid : d.valid = true) {shift : ℕ}
    (hdot : dot d (rotate k d) shift = normSquared d) {radial : ℕ} (hradial : radial < d.radialBins)
    (angular : ℕ) :
    d.sector radial (angular + shift + d.missing k) = d.sector radial angular := by
  have hturned := sector_eq_of_dot hvalid hdot hradial angular
  rw [sector_rotate hvalid k hradial] at hturned
  exact hturned

/-- Comparing descriptors does not depend on where the sectors of a scan begin. -/
theorem rotation_invariant (polar : Polar K) (h : Comparable query candidate) (k : ℕ) :
    (query.Keyed → ringKeyDistance polar (rotate k query) candidate =
      ringKeyDistance polar query candidate) ∧
    (candidate.Keyed → ringKeyDistance polar query (rotate k candidate) =
      ringKeyDistance polar query candidate) ∧
    similarity polar (rotate k query) candidate = similarity polar query candidate ∧
    similarity polar query (rotate k candidate) = similarity polar query candidate ∧
    similarity polar query candidate = similarity polar candidate query ∧
    (∃ value ≤ 1, similarity polar query candidate = .ok value) ∧
    (epsilon < normSquared query →
      ∃ a, alignPolarDescriptors polar query (rotate k query) = .ok a ∧ a.similarity = 1 ∧
        a.sectorShift < query.angularBins ∧ ∀ radial < query.radialBins, ∀ angular,
          (rotate k query).sector radial (angular + a.sectorShift) =
            query.sector radial angular ∧
          query.sector radial (angular + a.sectorShift + query.missing k) =
            query.sector radial angular) := by
  refine ⟨fun hquery ↦ ringKeyDistance_congr (ringKey_rotate h.query_valid hquery k) rfl,
    fun hcandidate ↦ ringKeyDistance_congr rfl (ringKey_rotate h.candidate_valid hcandidate k),
    similarity_rotate_query h k, similarity_rotate_candidate h k, similarity_comm h, ?_, ?_⟩
  · obtain ⟨a, ha⟩ := exists_align polar h
    have hvalue : similarity polar query candidate = .ok a.similarity := by
      rw [similarity, ha]
      rfl
    exact ⟨_, similarity_le_one h hvalue, hvalue⟩
  · intro hnorm
    obtain ⟨a, halign, hone, hshift, hdot⟩ := align_rotate polar h.query_valid hnorm k
    refine ⟨a, halign, hone, hshift, ?_⟩
    intro radial hradial angular
    exact ⟨sector_eq_of_dot h.query_valid hdot hradial angular,
      sector_symmetry h.query_valid hdot hradial angular⟩

theorem rotation_invariant_spot : ∃ d : PolarScanDescriptor ℝ, epsilon < normSquared d ∧
    ringKeyDistance realPolar (rotate 1 d) d = ringKeyDistance realPolar d d ∧
    ringKeyDistance realPolar d (rotate 1 d) = ringKeyDistance realPolar d d ∧
    ∃ a, alignPolarDescriptors realPolar d (rotate 1 d) = .ok a ∧ a.similarity = 1 := by
  let d : PolarScanDescriptor ℝ := ⟨1, 4, 1, [1, 0, 0, 0], ringKeys 1 4 [1, 0, 0, 0]⟩
  have hvalid : d.valid = true := rfl
  have hnorm : epsilon < normSquared d := by
    have hunit : normSquared d = 1 := by simp [d, normSquared]
    rw [hunit, epsilon]
    exact inv_lt_one_of_one_lt₀ (by exact_mod_cast Nat.one_lt_two_pow (by omega))
  have hself : Comparable d d := ⟨hvalid, hvalid, rfl, rfl⟩
  obtain ⟨hquery, hcandidate, -, -, -, -, hown⟩ := rotation_invariant realPolar hself 1
  obtain ⟨a, halign, hone, -⟩ := hown hnorm
  exact ⟨d, hnorm, hquery rfl, hcandidate rfl, a, halign, hone⟩

/-- A descriptor without weight passes for valid and does not fit even to itself. -/
theorem blank_unlike : ¬∀ d : PolarScanDescriptor ℝ, d.valid = true → d.Keyed → ∀ k,
    similarity realPolar d (rotate k d) = .ok 1 := by
  intro hall
  let d : PolarScanDescriptor ℝ := ⟨1, 4, 1, [0, 0, 0, 0], ringKeys 1 4 [0, 0, 0, 0]⟩
  have hvalid : d.valid = true := rfl
  have hclaim := hall d hvalid rfl 0
  have hnorm : normSquared d = 0 := by simp [d, normSquared]
  rw [similarity, alignPolarDescriptors_eq _ (comparable_rotate hvalid 0), hnorm] at hclaim
  dsimp only at hclaim
  rw [zero_mul, Polar.sqrt_zero, if_pos epsilon_nonneg] at hclaim
  have hzero : (0 : ℝ) = 1 := Except.ok.inj hclaim
  exact zero_ne_one hzero

end Alignment

section Scans

variable {K : Type} [Field K] [LinearOrder K] [FloorRing K] [Extended K] {polar : Polar K}
  {config : PolarDescriptorConfig K} {d : PolarScanDescriptor K}

variable (polar config) in
theorem countPoint_bins (points : List (Point K)) (d : PolarScanDescriptor K) :
    (points.foldl (countPoint polar config) d).radialBins = d.radialBins ∧
      (points.foldl (countPoint polar config) d).angularBins = d.angularBins := by
  induction points generalizing d with
  | nil => exact ⟨rfl, rfl⟩
  | cons point points ih =>
    rw [List.foldl_cons, (ih _).1, (ih _).2, countPoint]
    cases cellOf polar config point <;> exact ⟨rfl, rfl⟩

theorem makePolarScanDescriptor_keyed {log1p : K → K} {points : List (Point K)}
    (h : makePolarScanDescriptor polar log1p points config = .ok d) (hvalid : d.valid = true) :
    d.Keyed := by
  obtain ⟨-, -, hpoints, -, -⟩ := valid_iff.mp hvalid
  have hbins := countPoint_bins polar config points
  unfold makePolarScanDescriptor at h
  cases hconfig : validateConfig config with
  | error e => simp [hconfig] at h
  | ok u =>
    rw [hconfig] at h
    dsimp only at h
    split_ifs at h
    · cases h
      exact absurd hpoints (lt_irrefl 0)
    · cases h
      rw [PolarScanDescriptor.Keyed]
      rw [(hbins _).1, (hbins _).2]

end Scans

end EmbodiedAgent.Slam.LoopDescriptor
