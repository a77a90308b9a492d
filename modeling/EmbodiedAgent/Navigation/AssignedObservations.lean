import EmbodiedAgent.Navigation.AugmentingSearch

namespace EmbodiedAgent.Navigation

open Library Library.Assignment

/-- No row and no column is matched twice or left without its place. -/
structure OneToOne (rows columns : ℕ) (a : ObservationAssignment) : Prop where
  length : a.length = rows
  lt : ∀ i c : ℕ, a[i]? = some (some c) → c < columns
  inj : ∀ i i' c : ℕ, a[i]? = some (some c) → a[i']? = some (some c) → i = i'

namespace AssociationCosts

section Global

variable {α : Type*} [LT α] [DecidableLT α] {costs : AssociationCosts α} {columns : ℕ}
  {good : ℕ → ℕ → Prop} {m : ℕ → ℕ}

structure Read (costs : AssociationCosts α) (m : ℕ → ℕ) (n : ℕ) (a : ObservationAssignment) :
    Prop where
  length : a.length = costs.rows
  iff : ∀ i c : ℕ, a[i]? = some (some c) ↔
    i < costs.rows ∧ c < n ∧ m (c + 1) = i + 1 ∧ costs.feasible i c = true

theorem Read.succ {n : ℕ} {a : ObservationAssignment} (h : costs.Read m n a)
    (hm : Matches columns costs.rows good m 0) (hn : n + 1 ≤ columns) :
    costs.Read m (n + 1) (if m (n + 1) = 0 then a
      else if costs.feasible (m (n + 1) - 1) n then a.set (m (n + 1) - 1) (some n) else a) := by
  by_cases hfree : m (n + 1) = 0
  · rw [if_pos hfree]
    refine ⟨h.length, fun i c ↦ (h.iff i c).trans ?_⟩
    refine and_congr_right fun hi ↦ and_congr_left fun ⟨hmatched, _⟩ ↦ ?_
    have hne : c ≠ n := fun heq ↦ by
      rw [heq, hfree] at hmatched
      omega
    omega
  rw [if_neg hfree]
  obtain ⟨r, hr⟩ : ∃ r, m (n + 1) = r + 1 := ⟨m (n + 1) - 1, by omega⟩
  have hrow : r < costs.rows := by
    have := (hm.mem (n + 1) hn (Nat.succ_ne_zero n) hfree).2
    omega
  have hunique : ∀ c < n + 1, m (c + 1) = r + 1 → c = n := fun c hc heq ↦ by
    have hle : c + 1 ≤ columns := by omega
    have := hm.inj (c + 1) hle (n + 1) hn (Nat.succ_ne_zero c) (Nat.succ_ne_zero n)
      (heq ▸ Nat.succ_ne_zero r) (heq.trans hr.symm)
    omega
  rw [hr, Nat.add_sub_cancel]
  by_cases hfeasible : costs.feasible r n = true
  · rw [if_pos hfeasible]
    refine ⟨by rw [List.length_set, h.length], fun i c ↦ ?_⟩
    by_cases hi : r = i
    · subst hi
      rw [List.getElem?_set_self (h.length.symm ▸ hrow)]
      constructor
      · intro heq
        cases heq
        exact ⟨hrow, Nat.lt_succ_self n, hr, hfeasible⟩
      · rintro ⟨-, hc, hmatched, -⟩
        rw [hunique c hc hmatched]
    · rw [List.getElem?_set_ne hi, h.iff]
      refine and_congr_right fun _ ↦ and_congr_left fun ⟨hmatched, _⟩ ↦ ?_
      have hne : c ≠ n := fun heq ↦ by
        rw [heq, hr] at hmatched
        omega
      omega
  · rw [if_neg hfeasible]
    refine ⟨h.length, fun i c ↦ (h.iff i c).trans ?_⟩
    refine and_congr_right fun _ ↦ and_congr_left fun ⟨hmatched, hsome⟩ ↦ ?_
    have hne : c ≠ n := fun heq ↦ by
      rw [heq, hr] at hmatched
      have hir : i = r := by omega
      exact hfeasible (hir ▸ heq ▸ hsome)
    omega

theorem read_readMatching (hm : Matches columns costs.rows good m 0)
    (hcolumns : costs.realColumns ≤ columns) :
    costs.Read m costs.realColumns (costs.readMatching m) := by
  have hread : ∀ n ≤ costs.realColumns, costs.Read m n ((List.range n).foldl
      (fun assignment column ↦
        if m (column + 1) = 0 then assignment
        else if costs.feasible (m (column + 1) - 1) column then
          assignment.set (m (column + 1) - 1) (some column)
        else assignment) (List.replicate costs.rows none)) := by
    intro n hn
    induction n with
    | zero =>
      refine ⟨List.length_replicate, fun i c ↦
        ⟨fun h ↦ ?_, fun h ↦ absurd h.2.1 (Nat.not_lt_zero c)⟩⟩
      have hmem := List.mem_of_getElem? h
      exact absurd (List.eq_of_mem_replicate hmem) (Option.some_ne_none c)
    | succ n ih =>
      rw [List.range_succ, List.foldl_append]
      exact (ih (Nat.le_of_succ_le hn)).succ hm (hn.trans hcolumns)
  exact hread costs.realColumns le_rfl

theorem Read.oneToOne {a : ObservationAssignment} (h : costs.Read m costs.realColumns a) :
    OneToOne costs.rows costs.realColumns a := by
  refine ⟨h.length, fun i c hic ↦ ((h.iff i c).mp hic).2.1, fun i i' c hic hi'c ↦ ?_⟩
  have hi := ((h.iff i c).mp hic).2.2.1
  have hi' := ((h.iff i' c).mp hi'c).2.2.1
  omega

end Global

section Global

variable {α : Type*} [Zero α] [Add α] [Sub α] [LT α] [DecidableLT α] [Extended α]
  {costs : AssociationCosts α} {a : ObservationAssignment}

theorem globalAssignment_oneToOne (h : costs.globalAssignment = some a) :
    OneToOne costs.rows costs.realColumns a := by
  rw [globalAssignment] at h
  split_ifs at h with hrows
  · cases h
    refine ⟨hrows.symm, fun i c hic ↦ ?_, fun i i' c hic ↦ ?_⟩
    · cases hic
    · cases hic
  · obtain ⟨phase, hphase, rfl⟩ := Option.map_eq_some_iff.mp h
    exact (read_readMatching (phases_matches hphase) (Nat.le_add_right _ _)).oneToOne

end Global

variable {α : Type*} [LT α] [DecidableLT α] {costs : AssociationCosts α}

theorem greedyBest_succ (used : List ℕ) (row n : ℕ) : costs.greedyBest used row (n + 1) =
    if n ∈ used then costs.greedyBest used row n
    else if costs.value row n < (costs.greedyBest used row n).1 then (costs.value row n, some n)
    else costs.greedyBest used row n := by
  rw [greedyBest, List.range_succ, List.foldl_append]
  rfl

theorem greedyChoice_spec {used : List ℕ} {row c : ℕ} (h : costs.greedyChoice used row = some c) :
    c < costs.realColumns ∧ c ∉ used := by
  have hbest : ∀ n c, (costs.greedyBest used row n).2 = some c → c < n ∧ c ∉ used := by
    intro n
    induction n with
    | zero => exact fun c hc ↦ by cases hc
    | succ n ih =>
      intro c hc
      rw [greedyBest_succ] at hc
      split_ifs at hc with hused hlt
      · exact (ih c hc).imp_left Nat.lt_succ_of_lt
      · cases hc
        exact ⟨Nat.lt_succ_self n, hused⟩
      · exact (ih c hc).imp_left Nat.lt_succ_of_lt
  exact hbest costs.realColumns c h

/-- What the greedy loop has chosen in its first `n` rows. -/
structure Chosen (costs : AssociationCosts α) (n : ℕ) (good : ℕ → ℕ → Prop)
    (done : ObservationAssignment × List ℕ) : Prop where
  oneToOne : OneToOne n costs.realColumns done.1
  used : ∀ i c : ℕ, done.1[i]? = some (some c) → c ∈ done.2
  good : ∀ i c : ℕ, done.1[i]? = some (some c) → good i c

theorem Chosen.succ {n : ℕ} {good : ℕ → ℕ → Prop} {done : ObservationAssignment × List ℕ}
    (h : costs.Chosen n good done) (hgood : ∀ c, costs.greedyChoice done.2 n = some c → good n c) :
    costs.Chosen (n + 1) good (done.1 ++ [costs.greedyChoice done.2 n],
      done.2 ++ (costs.greedyChoice done.2 n).toList) := by
  have hsplit : ∀ i c : ℕ, (done.1 ++ [costs.greedyChoice done.2 n])[i]? = some (some c) →
      (i < n ∧ done.1[i]? = some (some c)) ∨
        (i = n ∧ costs.greedyChoice done.2 n = some c) := by
    intro i c hic
    rcases Nat.lt_or_ge i n with hlt | hge
    · rw [List.getElem?_append_left (h.oneToOne.length.symm ▸ hlt)] at hic
      exact .inl ⟨hlt, hic⟩
    · rw [List.getElem?_append_right (h.oneToOne.length.symm ▸ hge), h.oneToOne.length,
        List.getElem?_singleton] at hic
      split_ifs at hic with heq
      exact .inr ⟨by omega, Option.some.inj hic⟩
  refine ⟨⟨?_, fun i c hic ↦ ?_, fun i i' c hic hi'c ↦ ?_⟩, fun i c hic ↦ ?_, fun i c hic ↦ ?_⟩
  · rw [List.length_append, h.oneToOne.length]
    rfl
  · rcases hsplit i c hic with ⟨-, hold⟩ | ⟨-, hnew⟩
    · exact h.oneToOne.lt i c hold
    · exact (greedyChoice_spec hnew).1
  · rcases hsplit i c hic with ⟨-, hold⟩ | ⟨hi, hnew⟩
    · rcases hsplit i' c hi'c with ⟨-, hold'⟩ | ⟨-, hnew'⟩
      · exact h.oneToOne.inj i i' c hold hold'
      · exact absurd (h.used i c hold) (greedyChoice_spec hnew').2
    · rcases hsplit i' c hi'c with ⟨-, hold'⟩ | ⟨hi', -⟩
      · exact absurd (h.used i' c hold') (greedyChoice_spec hnew).2
      · rw [hi, hi']
  · rcases hsplit i c hic with ⟨-, hold⟩ | ⟨-, hnew⟩
    · exact List.mem_append_left _ (h.used i c hold)
    · rw [hnew]
      exact List.mem_append_right _ (List.mem_singleton_self c)
  · rcases hsplit i c hic with ⟨-, hold⟩ | ⟨hi, hnew⟩
    · exact h.good i c hold
    · exact hi ▸ hgood c hnew

theorem chosen_greedyAssignment {good : ℕ → ℕ → Prop}
    (hgood : ∀ used row c, costs.greedyChoice used row = some c → good row c) :
    OneToOne costs.rows costs.realColumns costs.greedyAssignment ∧
      ∀ i c : ℕ, costs.greedyAssignment[i]? = some (some c) → good i c := by
  have hfold : ∀ n, costs.Chosen n good ((List.range n).foldl
      (fun (done : ObservationAssignment × List ℕ) row ↦
        let choice := costs.greedyChoice done.2 row
        (done.1 ++ [choice], done.2 ++ choice.toList)) ([], [])) := by
    intro n
    induction n with
    | zero =>
      refine ⟨⟨rfl, fun i c hic ↦ ?_, fun i i' c hic ↦ ?_⟩, fun i c hic ↦ ?_, fun i c hic ↦ ?_⟩ <;>
        cases hic
    | succ n ih =>
      rw [List.range_succ, List.foldl_append]
      exact ih.succ fun c hc ↦ hgood _ n c hc
  exact ⟨(hfold costs.rows).oneToOne, (hfold costs.rows).good⟩

end AssociationCosts

variable {α : Type*} [Zero α] [One α] [Add α] [Sub α] [Mul α] [Div α] [NatCast α] [OfScientific α]
  [LT α] [DecidableLT α] [LE α] [DecidableLE α] [Extended α]

/-- Whatever the mode, the answer is one-to-one. -/
theorem assignGatedObservations_oneToOne {predictions : List (AssociationPrediction α)}
    {observations : List (Point2d α)}
    {measurementNoiseVariance associationDistanceM associationNisGate : α}
    {strategy : AssociationStrategy} {metric : AssociationMetric} {a : ObservationAssignment}
    (h : assignGatedObservations predictions observations measurementNoiseVariance
      associationDistanceM associationNisGate strategy metric = .ok (some a)) :
    OneToOne predictions.length observations.length a := by
  rw [assignGatedObservations] at h
  split_ifs at h
  cases strategy with
  | globalNearest => exact AssociationCosts.globalAssignment_oneToOne (Except.ok.inj h)
  | greedyNearest =>
    cases Option.some.inj (Except.ok.inj h)
    exact (@AssociationCosts.chosen_greedyAssignment α _ _ (buildCosts predictions observations
      measurementNoiseVariance (associationDistanceM * associationDistanceM) associationNisGate
      metric) (fun _ _ ↦ True) fun _ _ _ _ ↦ trivial).1

end EmbodiedAgent.Navigation
