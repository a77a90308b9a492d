import EmbodiedAgent.Navigation.OptimalAssignment

namespace EmbodiedAgent.Navigation

open Library Library.Assignment

variable {K : Type*} [Field K] [LinearOrder K]

namespace AssociationCosts

variable {costs : AssociationCosts K} {a b : ObservationAssignment}

def rowCost (costs : AssociationCosts K) (a : ObservationAssignment) (row : ℕ) : K :=
  match a[row]? with
  | some (some column) => costs.value row column
  | _ => costs.unmatchedCost

structure Allowed (costs : AssociationCosts K) (a : ObservationAssignment) : Prop where
  oneToOne : OneToOne costs.rows costs.realColumns a
  feasible : ∀ i c : ℕ, a[i]? = some (some c) → costs.feasible i c = true

structure Sound (costs : AssociationCosts K) : Prop where
  nonneg : ∀ i c, 0 ≤ costs.value i c
  unmatched : 0 ≤ costs.unmatchedCost
  forbidden : (costs.rows : K) * costs.unmatchedCost < costs.forbiddenCost
  le : costs.unmatchedCost ≤ costs.forbiddenCost

theorem Sound.cost_nonneg (h : costs.Sound) (i j : ℕ) : 0 ≤ costs.cost i j := by
  rw [cost]
  split_ifs
  · exact h.nonneg i j
  · exact h.unmatched
  · exact h.unmatched.trans h.le

def columnOf (costs : AssociationCosts K) (a : ObservationAssignment) (row : ℕ) : ℕ :=
  match a[row]? with
  | some (some column) => column
  | _ => costs.realColumns + row

omit [Field K] [LinearOrder K] in
theorem columnOf_cases (costs : AssociationCosts K) (a : ObservationAssignment) (row : ℕ) :
    (∃ c, a[row]? = some (some c) ∧ costs.columnOf a row = c ∧
      costs.rowCost a row = costs.value row c) ∨
    (costs.columnOf a row = costs.realColumns + row ∧
      costs.rowCost a row = costs.unmatchedCost) := by
  rw [columnOf, rowCost]
  cases hrow : a[row]? with
  | none => exact .inr ⟨rfl, rfl⟩
  | some choice =>
    cases choice with
    | none => exact .inr ⟨rfl, rfl⟩
    | some c => exact .inl ⟨c, rfl, rfl, rfl⟩

omit [Field K] [LinearOrder K] in
theorem cost_columnOf (h : OneToOne costs.rows costs.realColumns a) (row : ℕ) :
    costs.cost row (costs.columnOf a row) = costs.rowCost a row := by
  rw [cost]
  rcases costs.columnOf_cases a row with ⟨c, hc, hcolumn, hcost⟩ | ⟨hcolumn, hcost⟩
  · rw [hcolumn, hcost, if_pos (h.lt row c hc)]
  · rw [hcolumn, hcost, if_neg (Nat.not_lt.mpr (Nat.le_add_right _ _)),
      if_pos (Nat.add_sub_cancel_left _ _)]

omit [Field K] [LinearOrder K] in
theorem assigns_columnOf (h : OneToOne costs.rows costs.realColumns a) :
    Assigns (Finset.range costs.rows) (Finset.Icc 1 (costs.realColumns + costs.rows))
      fun row ↦ costs.columnOf a row + 1 := by
  refine ⟨fun i hi ↦ Finset.mem_Icc.mpr ⟨Nat.le_add_left 1 _, ?_⟩, fun i _ i' _ heq ↦ ?_⟩
  · have hlt := Finset.mem_range.mp hi
    rcases costs.columnOf_cases a i with ⟨c, hc, hcolumn, -⟩ | ⟨hcolumn, -⟩
    · have := h.lt i c hc
      omega
    · omega
  · have hsame : costs.columnOf a i = costs.columnOf a i' := Nat.succ.inj heq
    rcases costs.columnOf_cases a i with ⟨c, hc, hcolumn, -⟩ | ⟨hcolumn, -⟩
    · rcases costs.columnOf_cases a i' with ⟨c', hc', hcolumn', -⟩ | ⟨hcolumn', -⟩
      · have heq' : c = c' := by omega
        exact h.inj i i' c hc (heq' ▸ hc')
      · have := h.lt i c hc
        omega
    · rcases costs.columnOf_cases a i' with ⟨c', hc', hcolumn', -⟩ | ⟨hcolumn', -⟩
      · have := h.lt i' c' hc'
        omega
      · omega

section Optimum

variable [IsStrictOrderedRing K] {m : ℕ → ℕ} {u v : ℕ → K}

structure Columns (costs : AssociationCosts K) (m σ : ℕ → ℕ) : Prop where
  le : ∀ i < costs.rows, 1 ≤ σ i ∧ σ i ≤ costs.realColumns + costs.rows
  row : ∀ i < costs.rows, m (σ i) = i + 1
  column : ∀ j, 1 ≤ j → j ≤ costs.realColumns + costs.rows → m j ≠ 0 →
    ∃ i < costs.rows, σ i = j

omit [Field K] [LinearOrder K] [IsStrictOrderedRing K] in
theorem exists_columns
    (hm : Matches (costs.realColumns + costs.rows) costs.rows (fun _ _ ↦ True) m 0) :
    ∃ σ, costs.Columns m σ := by
  have honto : ∀ i, i < costs.rows → ∃ j ≤ costs.realColumns + costs.rows, j ≠ 0 ∧ m j = i + 1 :=
    fun i hi ↦ hm.onto (i + 1) ⟨Nat.le_add_left 1 i, hi⟩
  choose! σ hle hne hrow using honto
  refine ⟨σ, fun i hi ↦ ⟨Nat.one_le_iff_ne_zero.mpr (hne i hi), hle i hi⟩, hrow,
    fun j h1 hn htaken ↦ ?_⟩
  have hj0 := Nat.one_le_iff_ne_zero.mp h1
  obtain ⟨hj1, hjn⟩ := hm.mem j hn hj0 htaken
  have hi : m j - 1 < costs.rows := by omega
  have hsame : m (σ (m j - 1)) = m j := by
    rw [hrow _ hi]
    omega
  exact ⟨m j - 1, hi, hm.inj _ (hle _ hi) j hn (hne _ hi) hj0
    (fun h0 ↦ htaken (hsame.symm.trans h0)) hsame⟩

theorem Columns.minimal {σ τ : ℕ → ℕ} (hσ : costs.Columns m σ)
    (hp : Priced costs.cost costs.rows (costs.realColumns + costs.rows) m u v)
    (hτ : Assigns (Finset.range costs.rows) (Finset.Icc 1 (costs.realColumns + costs.rows)) τ) :
    ∑ i ∈ Finset.range costs.rows, costs.cost i (σ i - 1) ≤
      ∑ i ∈ Finset.range costs.rows, costs.cost i (τ i - 1) := by
  have hfeasible : Feasible (Finset.range costs.rows)
      (Finset.Icc 1 (costs.realColumns + costs.rows)) (fun i j ↦ costs.cost i (j - 1))
      (fun i ↦ u (i + 1)) v := by
    refine ⟨fun i hi j hj ↦ ?_, fun j hj ↦ ?_⟩
    · obtain ⟨h1, hn⟩ := Finset.mem_Icc.mp hj
      have hnonneg := hp.nonneg (i + 1) j (Nat.le_add_left 1 i) (Finset.mem_range.mp hi) h1 hn
      rw [reduced, Nat.add_sub_cancel] at hnonneg
      linarith
    · obtain ⟨h1, hn⟩ := Finset.mem_Icc.mp hj
      exact hp.nonpos j h1 hn
  refine hfeasible.minimal ⟨fun i hi ↦ ?_, fun i hi i' hi' heq ↦ ?_⟩ (fun i hi ↦ ?_)
    (fun j hj hother ↦ ?_) hτ
  · exact Finset.mem_Icc.mpr (hσ.le i (Finset.mem_range.mp hi))
  · have hrow := hσ.row i (Finset.mem_range.mp hi)
    have hrow' := hσ.row i' (Finset.mem_range.mp hi')
    rw [heq] at hrow
    omega
  · have hlt := Finset.mem_range.mp hi
    obtain ⟨h1, hn⟩ := hσ.le i hlt
    have htight := hp.tight (σ i) h1 hn (hσ.row i hlt ▸ Nat.succ_ne_zero i)
    rw [hσ.row i hlt, reduced, Nat.add_sub_cancel] at htight
    linarith
  · obtain ⟨h1, hn⟩ := Finset.mem_Icc.mp hj
    refine hp.free j h1 hn ?_
    by_contra htaken
    obtain ⟨i, hi, hσi⟩ := hσ.column j h1 hn htaken
    exact hother i (Finset.mem_range.mpr hi) hσi

theorem Columns.allowed (h : costs.Sound) {σ : ℕ → ℕ} (hσ : costs.Columns m σ)
    (hp : Priced costs.cost costs.rows (costs.realColumns + costs.rows) m u v) {i : ℕ}
    (hi : i < costs.rows) : costs.cost i (σ i - 1) < costs.forbiddenCost := by
  have hown : Assigns (Finset.range costs.rows) (Finset.Icc 1 (costs.realColumns + costs.rows))
      fun row ↦ costs.realColumns + row + 1 := by
    refine ⟨fun i hi ↦ Finset.mem_Icc.mpr ?_, fun i _ i' _ heq ↦ ?_⟩
    · have := Finset.mem_range.mp hi
      omega
    · omega
  have hterm : ∀ row, costs.cost row (costs.realColumns + row + 1 - 1) = costs.unmatchedCost := by
    intro row
    rw [cost, Nat.add_sub_cancel, if_neg (Nat.not_lt.mpr (Nat.le_add_right _ _)),
      if_pos (Nat.add_sub_cancel_left _ _)]
  calc
    costs.cost i (σ i - 1) ≤ ∑ i ∈ Finset.range costs.rows, costs.cost i (σ i - 1) :=
      Finset.single_le_sum (fun i _ ↦ h.cost_nonneg i (σ i - 1)) (Finset.mem_range.mpr hi)
    _ ≤ ∑ row ∈ Finset.range costs.rows, costs.cost row (costs.realColumns + row + 1 - 1) :=
      hσ.minimal hp hown
    _ = costs.rows * costs.unmatchedCost := by
      rw [Finset.sum_congr rfl fun row _ ↦ hterm row, Finset.sum_const, Finset.card_range,
        nsmul_eq_mul]
    _ < costs.forbiddenCost := h.forbidden

theorem Columns.rowCost (h : costs.Sound) {σ : ℕ → ℕ} (hσ : costs.Columns m σ)
    (hm : Matches (costs.realColumns + costs.rows) costs.rows (fun _ _ ↦ True) m 0)
    (hp : Priced costs.cost costs.rows (costs.realColumns + costs.rows) m u v) {i : ℕ}
    (hi : i < costs.rows) :
    costs.rowCost (costs.readMatching m) i = costs.cost i (σ i - 1) := by
  have hread := read_readMatching hm (Nat.le_add_right _ _)
  have hallowed := hσ.allowed h hp hi
  obtain ⟨h1, hn⟩ := hσ.le i hi
  rw [AssociationCosts.rowCost]
  rw [cost] at hallowed ⊢
  split_ifs at hallowed ⊢ with hreal hown
  · have hmatched : (costs.readMatching m)[i]? = some (some (σ i - 1)) := by
      refine (hread.iff i (σ i - 1)).mpr ⟨hi, hreal, ?_, decide_eq_true hallowed⟩
      rw [Nat.sub_add_cancel h1, hσ.row i hi]
    rw [hmatched]
  · rcases costs.columnOf_cases (costs.readMatching m) i with ⟨c, hc, -⟩ | ⟨-, hcost⟩
    · obtain ⟨-, hclt, hcrow, -⟩ := (hread.iff i c).mp hc
      have hsame : m (c + 1) = m (σ i) := hcrow.trans (hσ.row i hi).symm
      have hle : c + 1 ≤ costs.realColumns + costs.rows := by omega
      have := hm.inj (c + 1) hle (σ i) hn (Nat.succ_ne_zero c)
        (Nat.one_le_iff_ne_zero.mp h1) (hcrow ▸ Nat.succ_ne_zero i) hsame
      omega
    · rw [AssociationCosts.rowCost] at hcost
      exact hcost
  · exact absurd hallowed (lt_irrefl _)

theorem globalAssignment_optimal (h : costs.Sound) :
    ∃ a, costs.globalAssignment = some a ∧ costs.Allowed a ∧ ∀ b, costs.Allowed b →
      ∑ i ∈ Finset.range costs.rows, costs.rowCost a i ≤
        ∑ i ∈ Finset.range costs.rows, costs.rowCost b i := by
  rw [globalAssignment]
  split_ifs with hrows
  · refine ⟨[], rfl, ⟨⟨hrows.symm, fun i c hic ↦ ?_, fun i i' c hic ↦ ?_⟩, fun i c hic ↦ ?_⟩,
      fun b _ ↦ ?_⟩
    · cases hic
    · cases hic
    · cases hic
    · rw [hrows, Finset.range_zero, Finset.sum_empty, Finset.sum_empty]
  · obtain ⟨phase, hphase, hm, hp⟩ := phases_total (Nat.le_add_left costs.rows costs.realColumns)
      h.cost_nonneg le_rfl
    have hread := read_readMatching hm (Nat.le_add_right _ _)
    obtain ⟨σ, hσ⟩ := exists_columns hm
    rw [hphase]
    refine ⟨_, rfl, ⟨hread.oneToOne, fun i c hic ↦ ((hread.iff i c).mp hic).2.2.2⟩, fun b hb ↦ ?_⟩
    calc
      ∑ i ∈ Finset.range costs.rows, costs.rowCost (costs.readMatching phase.matchedRow) i
        = ∑ i ∈ Finset.range costs.rows, costs.cost i (σ i - 1) :=
          Finset.sum_congr rfl fun i hi ↦ hσ.rowCost h hm hp (Finset.mem_range.mp hi)
      _ ≤ ∑ i ∈ Finset.range costs.rows, costs.cost i (costs.columnOf b i + 1 - 1) :=
          hσ.minimal hp (assigns_columnOf hb.oneToOne)
      _ = ∑ i ∈ Finset.range costs.rows, costs.rowCost b i :=
          Finset.sum_congr rfl fun i _ ↦ cost_columnOf hb.oneToOne i

end Optimum

omit [Field K] in
theorem greedyChoice_lt {used : List ℕ} {row c : ℕ} (h : costs.greedyChoice used row = some c) :
    costs.value row c < costs.unmatchedCost := by
  have hbest : ∀ n, (costs.greedyBest used row n).1 ≤ costs.unmatchedCost ∧
      ∀ c, (costs.greedyBest used row n).2 = some c → costs.value row c < costs.unmatchedCost := by
    intro n
    induction n with
    | zero => exact ⟨le_rfl, fun c hc ↦ by cases hc⟩
    | succ n ih =>
      obtain ⟨hle, hlt⟩ := ih
      rw [greedyBest_succ]
      split_ifs with hused hbetter
      · exact ⟨hle, hlt⟩
      · refine ⟨hbetter.le.trans hle, fun c hc ↦ ?_⟩
        cases hc
        exact hbetter.trans_le hle
      · exact ⟨hle, hlt⟩
  exact (hbest costs.realColumns).2 c h

theorem greedyAssignment_allowed (h : costs.Sound) : costs.Allowed costs.greedyAssignment := by
  obtain ⟨hone, hgood⟩ := @chosen_greedyAssignment K _ _ costs
    (fun i c ↦ costs.value i c < costs.unmatchedCost) fun _ _ _ hc ↦ greedyChoice_lt hc
  exact ⟨hone, fun i c hic ↦ decide_eq_true ((hgood i c hic).trans_le h.le)⟩

end AssociationCosts

section Gates

variable (noise distance gate : K) (metric : AssociationMetric)
  (prediction : AssociationPrediction K) (observation : Point2d K)

def Gated : Prop :=
  squaredDistance prediction.position observation < distance * distance ∧
    (metric = .mahalanobis → innovationSquared prediction observation noise < gate)

def matchedCost : K :=
  match metric with
  | .euclidean => squaredDistance prediction.position observation
  | .mahalanobis => innovationSquared prediction observation noise

def unmatchedCost : K :=
  match metric with
  | .euclidean => distance * distance
  | .mahalanobis => gate

variable {noise distance gate metric prediction observation}

theorem Gated.pairCost (h : Gated noise distance gate metric prediction observation) :
    pairCost noise (distance * distance) gate metric prediction observation =
      some (matchedCost noise metric prediction observation) := by
  unfold Navigation.pairCost
  dsimp only
  rw [if_neg (not_le.mpr h.1)]
  cases metric with
  | euclidean => rfl
  | mahalanobis => exact if_neg (not_le.mpr (h.2 rfl))

theorem pairCost_of_not_gated (h : ¬ Gated noise distance gate metric prediction observation) :
    pairCost noise (distance * distance) gate metric prediction observation = none := by
  unfold pairCost
  dsimp only
  by_cases hdistance : distance * distance ≤ squaredDistance prediction.position observation
  · exact if_pos hdistance
  · rw [if_neg hdistance]
    cases metric with
    | euclidean => exact absurd ⟨not_le.mp hdistance, fun hm ↦ by cases hm⟩ h
    | mahalanobis =>
      refine if_pos (not_lt.mp fun hlt ↦ h ⟨not_le.mp hdistance, fun _ ↦ hlt⟩)

theorem Gated.lt (h : Gated noise distance gate metric prediction observation) :
    matchedCost noise metric prediction observation < unmatchedCost distance gate metric := by
  cases metric with
  | euclidean => exact h.1
  | mahalanobis => exact h.2 rfl

theorem matchedCost_nonneg [IsStrictOrderedRing K] :
    0 ≤ matchedCost noise metric prediction observation := by
  have hvariance : ∀ x : K, 0 ≤ stdMax x minimumVariance := by
    intro x
    rw [stdMax_eq_max]
    exact le_max_of_le_right (by norm_num [minimumVariance])
  cases metric with
  | euclidean => exact add_nonneg (mul_self_nonneg _) (mul_self_nonneg _)
  | mahalanobis =>
    exact add_nonneg (div_nonneg (mul_self_nonneg _) (hvariance _))
      (div_nonneg (mul_self_nonneg _) (hvariance _))

end Gates

section Assignments

variable (predictions : List (AssociationPrediction K)) (observations : List (Point2d K))
  (noise distance gate : K) (metric : AssociationMetric)

/-- A partial matching of tracks and observations that uses gated pairs only. -/
structure GatedMatching (a : ObservationAssignment) : Prop where
  oneToOne : OneToOne predictions.length observations.length a
  gated : ∀ (i c : ℕ) (p : AssociationPrediction K) (o : Point2d K), a[i]? = some (some c) →
    predictions[i]? = some p → observations[c]? = some o → Gated noise distance gate metric p o

def matchedTrackCost (a : ObservationAssignment) (i : ℕ) : K :=
  (a[i]?.join.bind fun c ↦ predictions[i]?.bind fun p ↦ observations[c]?.map fun o ↦
    matchedCost noise metric p o).getD 0

/-- The matched costs, and the unmatched cost once for each unmatched track. -/
def totalCost (a : ObservationAssignment) : K :=
  ∑ i ∈ Finset.range predictions.length,
    matchedTrackCost predictions observations noise metric a i +
    unmatchedCost distance gate metric * (a.count none : K)

def gatedCosts : AssociationCosts K :=
  buildCosts predictions observations noise (distance * distance) gate metric

variable {predictions observations noise distance gate metric}

theorem gatedCosts_value {i c : ℕ} {p : AssociationPrediction K} {o : Point2d K}
    (hp : predictions[i]? = some p) (ho : observations[c]? = some o) :
    (gatedCosts predictions observations noise distance gate metric).value i c =
      (pairCost noise (distance * distance) gate metric p o).getD
        (gatedCosts predictions observations noise distance gate metric).forbiddenCost := by
  dsimp only [gatedCosts, buildCosts]
  rw [hp, ho]

theorem gatedCosts_value_none {i c : ℕ} (h : predictions[i]? = none ∨ observations[c]? = none) :
    (gatedCosts predictions observations noise distance gate metric).value i c =
      (gatedCosts predictions observations noise distance gate metric).forbiddenCost := by
  dsimp only [gatedCosts, buildCosts]
  rcases h with h | h
  · rw [h]
  · rw [h]
    cases predictions[i]? <;> rfl

theorem gatedCosts_unmatched :
    (gatedCosts predictions observations noise distance gate metric).unmatchedCost =
      unmatchedCost distance gate metric := by
  cases metric <;> rfl

theorem gatedCosts_forbidden :
    (gatedCosts predictions observations noise distance gate metric).forbiddenCost =
      max 1 (unmatchedCost distance gate metric *
        ((predictions.length + (observations.length + predictions.length) + 4 : ℕ) : K)) := by
  rw [← stdMax_eq_max]
  cases metric <;> rfl

section Sound

variable [IsStrictOrderedRing K]

theorem unmatchedCost_pos (hdistance : 0 < distance) (hgate : 0 < gate) :
    0 < unmatchedCost distance gate metric := by
  cases metric with
  | euclidean => exact mul_pos hdistance hdistance
  | mahalanobis => exact hgate

theorem gatedCosts_forbidden_large (hdistance : 0 < distance) (hgate : 0 < gate) {n : ℕ}
    (hn : n < predictions.length + 4) : (n : K) * unmatchedCost distance gate metric <
      (gatedCosts predictions observations noise distance gate metric).forbiddenCost := by
  have hunmatched : 0 < unmatchedCost distance gate metric := unmatchedCost_pos hdistance hgate
  rw [gatedCosts_forbidden, mul_comm]
  refine lt_max_of_lt_right (mul_lt_mul_of_pos_left (Nat.cast_lt.mpr ?_) hunmatched)
  omega

theorem gatedCosts_sound (hdistance : 0 < distance) (hgate : 0 < gate) :
    (gatedCosts predictions observations noise distance gate metric).Sound := by
  have hunmatched : 0 < unmatchedCost distance gate metric := unmatchedCost_pos hdistance hgate
  have hforbidden : 0 ≤
      (gatedCosts predictions observations noise distance gate metric).forbiddenCost := by
    rw [gatedCosts_forbidden]
    exact le_max_of_le_left zero_le_one
  refine ⟨fun i c ↦ ?_, ?_, ?_, ?_⟩
  · cases hp : predictions[i]? with
    | none =>
      rw [gatedCosts_value_none (.inl hp)]
      exact hforbidden
    | some p =>
      cases ho : observations[c]? with
      | none =>
        rw [gatedCosts_value_none (.inr ho)]
        exact hforbidden
      | some o =>
        rw [gatedCosts_value hp ho]
        by_cases hgated : Gated noise distance gate metric p o
        · rw [hgated.pairCost]
          exact matchedCost_nonneg
        · rw [pairCost_of_not_gated hgated]
          exact hforbidden
  · rw [gatedCosts_unmatched]
    exact hunmatched.le
  · rw [gatedCosts_unmatched]
    exact gatedCosts_forbidden_large hdistance hgate (Nat.lt_add_of_pos_right (by omega))
  · rw [gatedCosts_unmatched, ← one_mul (unmatchedCost distance gate metric), ← Nat.cast_one]
    exact (gatedCosts_forbidden_large hdistance hgate (by omega)).le

theorem gatedCosts_feasible (hdistance : 0 < distance) (hgate : 0 < gate) {i c : ℕ}
    {p : AssociationPrediction K} {o : Point2d K} (hp : predictions[i]? = some p)
    (ho : observations[c]? = some o) :
    (gatedCosts predictions observations noise distance gate metric).feasible i c = true ↔
      Gated noise distance gate metric p o := by
  rw [AssociationCosts.feasible, decide_eq_true_iff, gatedCosts_value hp ho]
  by_cases hgated : Gated noise distance gate metric p o
  · rw [hgated.pairCost, Option.getD_some]
    have hle := (@gatedCosts_sound K _ _ predictions observations noise distance gate metric _
      hdistance hgate).le
    rw [gatedCosts_unmatched] at hle
    exact iff_of_true (hgated.lt.trans_le hle) hgated
  · rw [pairCost_of_not_gated hgated, Option.getD_none]
    exact iff_of_false (lt_irrefl _) hgated

theorem allowed_iff (hdistance : 0 < distance) (hgate : 0 < gate) {a : ObservationAssignment} :
    (gatedCosts predictions observations noise distance gate metric).Allowed a ↔
      GatedMatching predictions observations noise distance gate metric a := by
  constructor
  · intro h
    refine ⟨h.oneToOne, fun i c p o hic hp ho ↦ ?_⟩
    exact (gatedCosts_feasible hdistance hgate hp ho).mp (h.feasible i c hic)
  · intro h
    refine ⟨h.oneToOne, fun i c hic ↦ ?_⟩
    have hi : i < predictions.length := by
      rw [← h.oneToOne.length]
      exact (List.getElem?_eq_some_iff.mp hic).1
    have hc := h.oneToOne.lt i c hic
    have hp : predictions[i]? = some predictions[i] := List.getElem?_eq_getElem hi
    have ho : observations[c]? = some observations[c] := List.getElem?_eq_getElem hc
    exact (gatedCosts_feasible hdistance hgate hp ho).mpr (h.gated i c _ _ hic hp ho)

end Sound

theorem GatedMatching.rowCost {a : ObservationAssignment}
    (h : GatedMatching predictions observations noise distance gate metric a) {i : ℕ}
    (hi : i < predictions.length) :
    (gatedCosts predictions observations noise distance gate metric).rowCost a i =
      matchedTrackCost predictions observations noise metric a i +
        if a[i]? = some none then unmatchedCost distance gate metric else 0 := by
  have hia : i < a.length := h.oneToOne.length.symm ▸ hi
  have hsome : a[i]? = some a[i] := List.getElem?_eq_getElem hia
  rw [AssociationCosts.rowCost, matchedTrackCost, hsome]
  cases hchoice : a[i] with
  | none =>
    dsimp only
    rw [if_pos rfl, gatedCosts_unmatched]
    exact (zero_add _).symm
  | some c =>
    rw [hchoice] at hsome
    have hc := h.oneToOne.lt i c hsome
    have hp : predictions[i]? = some predictions[i] := List.getElem?_eq_getElem hi
    have ho : observations[c]? = some observations[c] := List.getElem?_eq_getElem hc
    dsimp only
    rw [gatedCosts_value hp ho, (h.gated i c _ _ hsome hp ho).pairCost,
      if_neg fun heq ↦ Option.some_ne_none c (Option.some.inj heq), add_zero, Option.join_some,
      Option.bind_some, hp, Option.bind_some, ho]
    rfl

omit [LinearOrder K] in
theorem sum_unmatched (w : K) (a : ObservationAssignment) :
    ∑ i ∈ Finset.range a.length, (if a[i]? = some none then w else 0) =
      w * (a.count none : K) := by
  induction a using List.reverseRecOn with
  | nil => simp
  | append_singleton a choice ih =>
    rw [List.length_append, List.length_singleton, Finset.sum_range_succ, List.count_append,
      Nat.cast_add, mul_add, ← ih, List.getElem?_concat_length]
    congr 1
    · refine Finset.sum_congr rfl fun i hi ↦ ?_
      rw [List.getElem?_append_left (Finset.mem_range.mp hi)]
    · cases choice <;> simp

theorem GatedMatching.totalCost {a : ObservationAssignment}
    (h : GatedMatching predictions observations noise distance gate metric a) :
    ∑ i ∈ Finset.range predictions.length,
        (gatedCosts predictions observations noise distance gate metric).rowCost a i =
      totalCost predictions observations noise distance gate metric a := by
  rw [Navigation.totalCost, ← sum_unmatched, h.oneToOne.length, ← Finset.sum_add_distrib]
  exact Finset.sum_congr rfl fun i hi ↦ h.rowCost (Finset.mem_range.mp hi)

end Assignments

variable [IsStrictOrderedRing K] (predictions : List (AssociationPrediction K))
  (observations : List (Point2d K)) (noise distance gate : K) (metric : AssociationMetric)

omit [IsStrictOrderedRing K] in
theorem assignGatedObservations_valid (hdistance : 0 < distance) (hnoise : 0 ≤ noise)
    (hgate : 0 < gate)
    (hvariance : ∀ p ∈ predictions, 0 ≤ p.positionVariance.x ∧ 0 ≤ p.positionVariance.y)
    (strategy : AssociationStrategy) :
    assignGatedObservations predictions observations noise distance gate strategy metric =
      match strategy with
      | .globalNearest =>
        .ok (gatedCosts predictions observations noise distance gate metric).globalAssignment
      | .greedyNearest => .ok (some
        (gatedCosts predictions observations noise distance gate metric).greedyAssignment) := by
  have hpredictions : predictions.all AssociationPrediction.valid = true := by
    refine List.all_eq_true.mpr fun p hp ↦ ?_
    obtain ⟨hx, hy⟩ := hvariance p hp
    rw [AssociationPrediction.valid, decide_eq_true hx, decide_eq_true hy]
    rfl
  have hobservations : observations.all Point2d.isFinite = true :=
    List.all_eq_true.mpr fun o _ ↦ rfl
  have hfinite : ∀ x : K, (!Extended.isFinite x) = false := fun x ↦ rfl
  rw [assignGatedObservations, hpredictions, hobservations, hfinite, hfinite, hfinite,
    decide_eq_false (not_le.mpr hdistance), decide_eq_false (not_lt.mpr hnoise),
    decide_eq_false (not_le.mpr hgate)]
  cases strategy <;> rfl

/-- With valid inputs the global assignment is a matching of gated pairs, and none costs less. -/
theorem global_assignment_optimal (hdistance : 0 < distance) (hnoise : 0 ≤ noise)
    (hgate : 0 < gate)
    (hvariance : ∀ p ∈ predictions, 0 ≤ p.positionVariance.x ∧ 0 ≤ p.positionVariance.y) :
    ∃ a, assignGatedObservations predictions observations noise distance gate .globalNearest
        metric = .ok (some a) ∧
      GatedMatching predictions observations noise distance gate metric a ∧
      (∀ b, GatedMatching predictions observations noise distance gate metric b →
        totalCost predictions observations noise distance gate metric a ≤
          totalCost predictions observations noise distance gate metric b) ∧
      ∃ b, assignGatedObservations predictions observations noise distance gate .greedyNearest
          metric = .ok (some b) ∧
        GatedMatching predictions observations noise distance gate metric b ∧
        totalCost predictions observations noise distance gate metric a ≤
          totalCost predictions observations noise distance gate metric b := by
  have hsound := @gatedCosts_sound K _ _ predictions observations noise distance gate metric _
    hdistance hgate
  obtain ⟨a, ha, hallowed, hminimal⟩ := AssociationCosts.globalAssignment_optimal hsound
  have hmatching := (allowed_iff hdistance hgate).mp hallowed
  have hoptimal : ∀ b, GatedMatching predictions observations noise distance gate metric b →
      totalCost predictions observations noise distance gate metric a ≤
        totalCost predictions observations noise distance gate metric b := by
    intro b hb
    rw [← hmatching.totalCost, ← hb.totalCost]
    exact hminimal b ((allowed_iff hdistance hgate).mpr hb)
  have hgreedy := (allowed_iff hdistance hgate).mp
    (AssociationCosts.greedyAssignment_allowed hsound)
  refine ⟨a, ?_, hmatching, hoptimal, _, ?_, hgreedy, hoptimal _ hgreedy⟩
  · rw [assignGatedObservations_valid predictions observations noise distance gate metric hdistance
      hnoise hgate hvariance, ← ha]
  · rw [assignGatedObservations_valid predictions observations noise distance gate metric hdistance
      hnoise hgate hvariance]

/-- Two tracks that are both near to the first observation. -/
def crowdedTracks : List (AssociationPrediction ℚ) :=
  [⟨⟨0, 0⟩, ⟨0, 0⟩⟩, ⟨⟨1, 0⟩, ⟨0, 0⟩⟩]

def crowdedObservations : List (Point2d ℚ) := [⟨2 / 5, 0⟩, ⟨-1 / 2, 0⟩]

theorem global_assignment_optimal_crowded :
    ∃ a, assignGatedObservations crowdedTracks crowdedObservations 0 (7 / 10) 1 .globalNearest
        .euclidean = .ok (some a) ∧
      GatedMatching crowdedTracks crowdedObservations 0 (7 / 10) 1 .euclidean a ∧
      (∀ b, GatedMatching crowdedTracks crowdedObservations 0 (7 / 10) 1 .euclidean b →
        totalCost crowdedTracks crowdedObservations 0 (7 / 10) 1 .euclidean a ≤
          totalCost crowdedTracks crowdedObservations 0 (7 / 10) 1 .euclidean b) ∧
      ∃ b, assignGatedObservations crowdedTracks crowdedObservations 0 (7 / 10) 1 .greedyNearest
          .euclidean = .ok (some b) ∧
        GatedMatching crowdedTracks crowdedObservations 0 (7 / 10) 1 .euclidean b ∧
        totalCost crowdedTracks crowdedObservations 0 (7 / 10) 1 .euclidean a ≤
          totalCost crowdedTracks crowdedObservations 0 (7 / 10) 1 .euclidean b :=
  global_assignment_optimal crowdedTracks crowdedObservations 0 (7 / 10) 1 .euclidean
    (by norm_num) le_rfl one_pos fun p hp ↦ by
      simp only [crowdedTracks, List.mem_cons, List.not_mem_nil, or_false] at hp
      rcases hp with rfl | rfl <;> exact ⟨le_rfl, le_rfl⟩

end EmbodiedAgent.Navigation
