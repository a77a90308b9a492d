import EmbodiedAgent.Navigation.AssignedObservations

namespace EmbodiedAgent.Navigation

open Library Library.Assignment

variable {K : Type*} [Field K] [LinearOrder K]

def reduced (cost : ℕ → ℕ → K) (u v : ℕ → K) (i j : ℕ) : K := cost (i - 1) (j - 1) - u i - v j

/-- No reduced cost is negative, and those of matched pairs are zero. -/
structure Priced (cost : ℕ → ℕ → K) (rows columns : ℕ) (matchedRow : ℕ → ℕ) (u v : ℕ → K) :
    Prop where
  nonneg : ∀ i j, 1 ≤ i → i ≤ rows → 1 ≤ j → j ≤ columns → 0 ≤ reduced cost u v i j
  nonpos : ∀ j, 1 ≤ j → j ≤ columns → v j ≤ 0
  free : ∀ j, 1 ≤ j → j ≤ columns → matchedRow j = 0 → v j = 0
  tight : ∀ j, 1 ≤ j → j ≤ columns → matchedRow j ≠ 0 → reduced cost u v (matchedRow j) j = 0

theorem Scan.select_le {scan : Scan K} {column : ℕ} {x : K}
    (h : scan.minimumSlack column = some x) :
    ∃ d, (scan.select column).delta = some d ∧ d ≤ x ∧ ∀ d', scan.delta = some d' → d ≤ d' := by
  rw [Scan.select, h]
  dsimp only
  cases hdelta : scan.delta with
  | none =>
    rw [if_pos (ltExtended_none x)]
    exact ⟨x, rfl, le_rfl, fun d' hd' ↦ by cases hd'⟩
  | some d =>
    by_cases hlt : x < d
    · rw [if_pos ((ltExtended_some x d).mpr hlt)]
      refine ⟨x, rfl, le_rfl, fun d' hd' ↦ ?_⟩
      cases hd'
      exact hlt.le
    · rw [if_neg (mt (ltExtended_some x d).mp hlt)]
      refine ⟨d, hdelta, not_lt.mp hlt, fun d' hd' ↦ ?_⟩
      cases hd'
      exact le_rfl

namespace Search

variable {s s' : Search K} {cost : ℕ → ℕ → K} {rows columns : ℕ} {matchedRow : ℕ → ℕ} {delta : K}

theorem lowered_some (s : Search K) (cost : ℕ → ℕ → K) (row j : ℕ) :
    ∃ x, s.lowered cost row j = some x := by
  rw [lowered]
  cases s.minimumSlack j with
  | none => exact ⟨_, if_pos (ltExtended_none _)⟩
  | some slack =>
    split_ifs
    · exact ⟨_, rfl⟩
    · exact ⟨slack, rfl⟩

theorem scan_delta (s : Search K) (cost : ℕ → ℕ → K) (row n : ℕ) {j : ℕ} (hj : j ∉ s.visited)
    (h1 : 1 ≤ j) (hn : j ≤ n) :
    ∃ d x, (s.scan cost n row).delta = some d ∧ s.lowered cost row j = some x ∧ d ≤ x := by
  induction n with
  | zero => omega
  | succ n ih =>
    rw [scan_succ]
    by_cases hvisited : n + 1 ∈ s.visited
    · rw [Scan.column_visited _ _ _ hvisited]
      refine ih (Nat.lt_succ_iff.mp (Nat.lt_of_le_of_ne hn fun heq ↦ ?_))
      exact hj (heq ▸ hvisited)
    · have hslack := (s.scanned_scan cost row n).slackSame (n + 1)
        (.inr (.inr (Nat.lt_succ_self n)))
      obtain ⟨hlower, -, hdelta, -⟩ := (s.scan cost n row).lower_arrays
        s.currentColumn (n + 1) (s.reducedCost cost row (n + 1))
      rw [hslack, ← lowered] at hlower
      obtain ⟨x, hx⟩ := s.lowered_some cost row (n + 1)
      rw [Scan.column, if_neg hvisited]
      have hself : ((s.scan cost n row).lower s.currentColumn (n + 1)
          (s.reducedCost cost row (n + 1))).minimumSlack (n + 1) = some x := by
        rw [hlower, Function.update_self, hx]
      obtain ⟨d, hd, hdx, hdold⟩ := Scan.select_le hself
      rcases Nat.lt_or_eq_of_le hn with hlt | rfl
      · obtain ⟨d', x', hd', hx', hle⟩ := ih (Nat.lt_succ_iff.mp hlt)
        exact ⟨d, x', hd, hx', (hdold d' (hdelta.trans hd')).trans hle⟩
      · exact ⟨d, x, hd, hx, hdx⟩

/-- The potentials in the course of a search. -/
structure Pricing (cost : ℕ → ℕ → K) (rows columns : ℕ) (matchedRow : ℕ → ℕ) (s : Search K) :
    Prop where
  searching : s.Searching columns matchedRow
  priced : Priced cost rows columns matchedRow s.rowPotential s.columnPotential
  tree : ∀ j ∈ s.currentColumn :: s.visited, j ≠ 0 →
    s.reducedCost cost (matchedRow (s.previousColumn j)) j = 0
  slackLe : ∀ j, j ∉ s.visited → 1 ≤ j → j ≤ columns → ∀ i ∈ s.visited,
    ∃ x, s.minimumSlack j = some x ∧ x ≤ s.reducedCost cost (matchedRow i) j
  slackEq : ∀ j, j ∉ s.visited → 1 ≤ j → j ≤ columns → ∀ x, s.minimumSlack j = some x →
    x = s.reducedCost cost (matchedRow (s.previousColumn j)) j

/-- Each row has one column at most. -/
structure Rows (rows columns : ℕ) (matchedRow : ℕ → ℕ) : Prop where
  le : ∀ j ≤ columns, matchedRow j ≤ rows
  inj : ∀ j ≤ columns, ∀ j' ≤ columns, matchedRow j ≠ 0 → matchedRow j = matchedRow j' → j = j'

section Shift

variable {i j : ℕ}

theorem Stepped.reduced_visited (h : s.Stepped cost columns matchedRow delta s')
    (hi : i ∈ s'.visited) (hj : j ∈ s'.visited) :
    s'.reducedCost cost (matchedRow i) j = s.reducedCost cost (matchedRow i) j := by
  rw [reducedCost, reducedCost, h.row i hi, h.column j hj]
  ring

theorem Stepped.reduced_fresh (h : s.Stepped cost columns matchedRow delta s')
    (hi : i ∈ s'.visited) (hj : j ∉ s'.visited) :
    s'.reducedCost cost (matchedRow i) j = s.reducedCost cost (matchedRow i) j - delta := by
  rw [reducedCost, reducedCost, h.row i hi, h.columnSame j hj]
  ring

theorem Stepped.reduced_otherVisited (h : s.Stepped cost columns matchedRow delta s')
    (hi : ∀ t ∈ s'.visited, matchedRow t ≠ i) (hj : j ∈ s'.visited) :
    s'.reducedCost cost i j = s.reducedCost cost i j + delta := by
  rw [reducedCost, reducedCost, h.rowSame i hi, h.column j hj]
  ring

theorem Stepped.reduced_otherFresh (h : s.Stepped cost columns matchedRow delta s')
    (hi : ∀ t ∈ s'.visited, matchedRow t ≠ i) (hj : j ∉ s'.visited) :
    s'.reducedCost cost i j = s.reducedCost cost i j := by
  rw [reducedCost, reducedCost, h.rowSame i hi, h.columnSame j hj]

end Shift

theorem Pricing.lowered (hs : s.Pricing cost rows columns matchedRow)
    (h : s.Stepped cost columns matchedRow delta s') {j : ℕ} (hj : j ∉ s'.visited) (h1 : 1 ≤ j)
    (hn : j ≤ columns) {x : K} (hx : s.visit.lowered cost (matchedRow s.currentColumn) j = some x) :
    x = s.reducedCost cost (matchedRow (s'.previousColumn j)) j ∧
      ∀ i ∈ s'.visited, x ≤ s.reducedCost cost (matchedRow i) j := by
  have hfresh : j ∉ s.visited := fun hmem ↦ hj (h.visited ▸ List.mem_cons_of_mem _ hmem)
  rw [h.previous j hj h1 hn, h.visited, loweredPrevious]
  rw [Search.lowered] at hx
  by_cases hlt : ltExtended (s.visit.reducedCost cost (matchedRow s.currentColumn) j)
      (s.visit.minimumSlack j) = true
  · rw [if_pos hlt] at hx ⊢
    cases hx
    refine ⟨rfl, fun i hi ↦ ?_⟩
    rcases List.mem_cons.mp hi with rfl | hmem
    · exact le_rfl
    · obtain ⟨y, hy, hle⟩ := hs.slackLe j hfresh h1 hn i hmem
      rw [show s.visit.minimumSlack j = some y from hy, ltExtended_some] at hlt
      exact hlt.le.trans hle
  · rw [if_neg hlt] at hx ⊢
    have hslack : s.minimumSlack j = some x := hx
    refine ⟨hs.slackEq j hfresh h1 hn x hslack, fun i hi ↦ ?_⟩
    rcases List.mem_cons.mp hi with rfl | hmem
    · rw [hx, ltExtended_some] at hlt
      exact not_lt.mp hlt
    · obtain ⟨y, hy, hle⟩ := hs.slackLe j hfresh h1 hn i hmem
      cases hslack.symm.trans hy
      exact hle

theorem Pricing.step [IsStrictOrderedRing K] (hs : s.Pricing cost rows columns matchedRow)
    (hrows : Rows rows columns matchedRow) (hcurrent : matchedRow s.currentColumn ≠ 0)
    (h : s.Stepped cost columns matchedRow delta s')
    (hmin : ∀ j, j ∉ s'.visited → 1 ≤ j → j ≤ columns →
      ∃ x, s.visit.lowered cost (matchedRow s.currentColumn) j = some x ∧ delta ≤ x) :
    s'.Pricing cost rows columns matchedRow := by
  have hsearching := hs.searching.step hcurrent h
  obtain ⟨hfresh, hnext1, hnextn, hdelta⟩ := h.next
  have hvisitedLe : ∀ j ∈ s'.visited, j ≤ columns :=
    fun j hj ↦ hsearching.le j (List.mem_cons_of_mem _ hj)
  have hpreviousMem : ∀ j, j ∉ s'.visited → 1 ≤ j → j ≤ columns →
      s'.previousColumn j ∈ s'.visited := by
    intro j hj h1 hn
    obtain ⟨x, hx, -⟩ := hmin j hj h1 hn
    exact h.previous_mem hs.searching hj h1 hn (hx ▸ Option.some_ne_none x)
  have hdeltaEq := (hs.lowered h hfresh hnext1 hnextn hdelta).1
  have hdeltaLe : ∀ j, j ∉ s'.visited → 1 ≤ j → j ≤ columns → ∀ i ∈ s'.visited,
      delta ≤ s.reducedCost cost (matchedRow i) j := by
    intro j hj h1 hn i hi
    obtain ⟨x, hx, hle⟩ := hmin j hj h1 hn
    exact hle.trans ((hs.lowered h hj h1 hn hx).2 i hi)
  have hdelta0 : 0 ≤ delta := by
    have hmem := hpreviousMem _ hfresh hnext1 hnextn
    rw [hdeltaEq]
    exact hs.priced.nonneg _ _ (Nat.one_le_iff_ne_zero.mpr (hsearching.taken _ hmem))
      (hrows.le _ (hvisitedLe _ hmem)) hnext1 hnextn
  refine ⟨hsearching, ⟨fun i j hi1 hin hj1 hjn ↦ ?_, fun j h1 hn ↦ ?_, fun j h1 hn hfree ↦ ?_,
    fun j h1 hn htaken ↦ ?_⟩, fun j hj hj0 ↦ ?_, fun j hj h1 hn i hi ↦ ?_, fun j hj h1 hn x hx ↦ ?_⟩
  · change 0 ≤ s'.reducedCost cost i j
    have hold : 0 ≤ s.reducedCost cost i j := hs.priced.nonneg i j hi1 hin hj1 hjn
    by_cases htree : ∃ t ∈ s'.visited, matchedRow t = i
    · obtain ⟨t, ht, rfl⟩ := htree
      by_cases hj : j ∈ s'.visited
      · rw [h.reduced_visited ht hj]
        exact hold
      · rw [h.reduced_fresh ht hj]
        exact sub_nonneg.mpr (hdeltaLe j hj hj1 hjn t ht)
    · have hother : ∀ t ∈ s'.visited, matchedRow t ≠ i := fun t ht heq ↦ htree ⟨t, ht, heq⟩
      by_cases hj : j ∈ s'.visited
      · rw [h.reduced_otherVisited hother hj]
        exact add_nonneg hold hdelta0
      · rw [h.reduced_otherFresh hother hj]
        exact hold
  · have hold := hs.priced.nonpos j h1 hn
    by_cases hj : j ∈ s'.visited
    · rw [h.column j hj]
      exact sub_nonpos.mpr (hold.trans hdelta0)
    · rw [h.columnSame j hj]
      exact hold
  · rw [h.columnSame j fun hj ↦ hsearching.taken j hj hfree]
    exact hs.priced.free j h1 hn hfree
  · change s'.reducedCost cost (matchedRow j) j = 0
    have hold : s.reducedCost cost (matchedRow j) j = 0 := hs.priced.tight j h1 hn htaken
    by_cases hj : j ∈ s'.visited
    · rw [h.reduced_visited hj hj]
      exact hold
    · have hother : ∀ t ∈ s'.visited, matchedRow t ≠ matchedRow j := by
        intro t ht heq
        exact hj (hrows.inj t (hvisitedLe t ht) j hn (hsearching.taken t ht) heq ▸ ht)
      rw [h.reduced_otherFresh hother hj]
      exact hold
  · rcases List.mem_cons.mp hj with rfl | hmem
    · rw [h.reduced_fresh (hpreviousMem _ hfresh hnext1 hnextn) hfresh, ← hdeltaEq, sub_self]
    · rw [h.previousSame j hmem]
      have hmem' : j ∈ s.currentColumn :: s.visited := h.visited ▸ hmem
      have hprevious : s.previousColumn j ∈ s'.visited :=
        h.visited ▸ hs.searching.rooted.previous_mem hmem' hj0
      rw [h.reduced_visited hprevious hmem]
      exact hs.tree j hmem' hj0
  · obtain ⟨x, hx, -⟩ := hmin j hj h1 hn
    refine ⟨x - delta, ?_, ?_⟩
    · rw [h.slack j hj h1 hn, hx]
      rfl
    · rw [h.reduced_fresh hi hj]
      exact sub_le_sub_right ((hs.lowered h hj h1 hn hx).2 i hi) delta
  · obtain ⟨y, hy, -⟩ := hmin j hj h1 hn
    rw [h.slack j hj h1 hn, hy] at hx
    rw [h.reduced_fresh (hpreviousMem j hj h1 hn) hj, ← (hs.lowered h hj h1 hn hy).1]
    exact (Option.some.inj hx).symm

omit [Field K] [LinearOrder K] in
theorem exists_fresh (hs : s.Searching columns matchedRow) (hrows : Rows rows columns matchedRow)
    (hle : rows ≤ columns) (hcurrent : matchedRow s.currentColumn ≠ 0) :
    ∃ j, j ∉ s.currentColumn :: s.visited ∧ 1 ≤ j ∧ j ≤ columns := by
  have htaken : ∀ j ∈ s.currentColumn :: s.visited, matchedRow j ≠ 0 := by
    intro j hj
    rcases List.mem_cons.mp hj with rfl | hmem
    · exact hcurrent
    · exact hs.taken j hmem
  by_contra hall
  have hsub : Finset.range (columns + 1) ⊆ (s.currentColumn :: s.visited).toFinset := by
    intro j hj
    rw [List.mem_toFinset]
    by_contra hj'
    have hj0 : j ≠ 0 := fun h0 ↦ hj' (h0 ▸ hs.rooted.root_mem)
    exact hall ⟨j, hj', Nat.one_le_iff_ne_zero.mpr hj0, Nat.lt_succ_iff.mp (Finset.mem_range.mp hj)⟩
  have hcard : (s.currentColumn :: s.visited).toFinset.card ≤ (Finset.Icc 1 rows).card := by
    refine Finset.card_le_card_of_injOn matchedRow (fun j hj ↦ ?_) fun j hj j' hj' heq ↦ ?_
    · have hmem := List.mem_toFinset.mp (Finset.mem_coe.mp hj)
      exact Finset.mem_coe.mpr (Finset.mem_Icc.mpr
        ⟨Nat.one_le_iff_ne_zero.mpr (htaken j hmem), hrows.le j (hs.le j hmem)⟩)
    · have hmem := List.mem_toFinset.mp (Finset.mem_coe.mp hj)
      have hmem' := List.mem_toFinset.mp (Finset.mem_coe.mp hj')
      exact hrows.inj j (hs.le j hmem) j' (hs.le j' hmem') (htaken j hmem) heq
  have hrange := Finset.card_le_card hsub
  rw [Finset.card_range] at hrange
  rw [Nat.card_Icc] at hcard
  omega

theorem Pricing.step_total [IsStrictOrderedRing K] (hs : s.Pricing cost rows columns matchedRow)
    (hrows : Rows rows columns matchedRow) (hle : rows ≤ columns)
    (hcurrent : matchedRow s.currentColumn ≠ 0) :
    ∃ s', s.step cost columns matchedRow = some s' ∧ s'.Pricing cost rows columns matchedRow ∧
      s'.visited = s.currentColumn :: s.visited := by
  obtain ⟨j, hj, h1, hn⟩ := exists_fresh hs.searching hrows hle hcurrent
  obtain ⟨d, -, hd, -, -⟩ := scan_delta s.visit cost (matchedRow s.currentColumn) columns hj h1 hn
  have hstep : ∃ s', s.step cost columns matchedRow = some s' ∧
      s'.currentColumn = (s.visit.scan cost columns (matchedRow s.currentColumn)).nextColumn := by
    rw [Search.step]
    dsimp only
    rw [hd]
    exact ⟨_, rfl, rfl⟩
  obtain ⟨s', hs', hnext⟩ := hstep
  obtain ⟨delta, hstepped⟩ := stepped hs.searching.le (fun i hi i' hi' heq ↦ by
    refine hrows.inj i (hs.searching.le i hi) i' (hs.searching.le i' hi') ?_ heq
    rcases List.mem_cons.mp hi with rfl | hmem
    · exact hcurrent
    · exact hs.searching.taken i hmem) hs'
  have hselected := ((s.visit.scanned_scan cost (matchedRow s.currentColumn) columns).next d
    hd).2.2.2
  have hdelta : d = delta := by
    rw [← hnext, hstepped.next.2.2.2] at hselected
    exact (Option.some.inj hselected).symm
  refine ⟨s', hs', hs.step hrows hcurrent hstepped fun i hi h1 hn ↦ ?_, hstepped.visited⟩
  obtain ⟨d', x, hd', hx, hle'⟩ := scan_delta s.visit cost (matchedRow s.currentColumn) columns
    (fun hmem ↦ hi (hstepped.visited ▸ hmem)) h1 hn
  cases hd.symm.trans hd'
  exact ⟨x, hx, hdelta ▸ hle'⟩

theorem Pricing.run_total [IsStrictOrderedRing K] (hs : s.Pricing cost rows columns matchedRow)
    (hrows : Rows rows columns matchedRow) (hle : rows ≤ columns)
    (hcurrent : matchedRow s.currentColumn ≠ 0) {fuel : ℕ}
    (hfuel : columns + 1 ≤ s.visited.length + fuel) :
    ∃ t, run cost columns matchedRow fuel s = some t ∧ t.Pricing cost rows columns matchedRow ∧
      matchedRow t.currentColumn = 0 := by
  induction fuel generalizing s with
  | zero =>
    have := hs.searching.length_le
    omega
  | succ fuel ih =>
    obtain ⟨s', hstep, hs', hvisited⟩ := hs.step_total hrows hle hcurrent
    rw [run, hstep, Option.bind_some]
    by_cases hfree : matchedRow s'.currentColumn = 0
    · rw [if_pos hfree]
      exact ⟨s', rfl, hs', hfree⟩
    · rw [if_neg hfree]
      refine ih hs' hfree ?_
      rw [hvisited, List.length_cons]
      omega

end Search

variable [IsStrictOrderedRing K] {cost : ℕ → ℕ → K} {total columns rows : ℕ}

theorem Phase.row_total {phase : Phase K} (hrows : rows < total) (hle : total ≤ columns)
    (hm : Matches columns rows (fun _ _ ↦ True) phase.matchedRow 0)
    (hp : Priced cost total columns phase.matchedRow phase.rowPotential phase.columnPotential) :
    ∃ phase', phase.row cost columns (rows + 1) = some phase' ∧
      Matches columns (rows + 1) (fun _ _ ↦ True) phase'.matchedRow 0 ∧
      Priced cost total columns phase'.matchedRow phase'.rowPotential phase'.columnPotential := by
  have hstart : Search.Rows total columns (Function.update phase.matchedRow 0 (rows + 1)) := by
    refine ⟨fun j hj ↦ ?_, fun j hj j' hj' htaken heq ↦ hm.injective hj hj' htaken heq⟩
    by_cases hj0 : j = 0
    · rw [hj0, Function.update_self]
      exact hrows
    · rw [Function.update_of_ne hj0]
      by_cases hfree : phase.matchedRow j = 0
      · omega
      · have := (hm.mem j hj hj0 hfree).2
        omega
  have hpricing : phase.search.Pricing cost total columns
      (Function.update phase.matchedRow 0 (rows + 1)) := by
    refine ⟨Phase.searching, ⟨hp.nonneg, hp.nonpos, fun j h1 hn hfree ↦ ?_,
      fun j h1 hn htaken ↦ ?_⟩, fun j hj hj0 ↦ ?_, fun j _ _ _ i hi ↦ ?_, fun j _ _ _ x hx ↦ ?_⟩
    · rw [Function.update_of_ne (Nat.one_le_iff_ne_zero.mp h1)] at hfree
      exact hp.free j h1 hn hfree
    · rw [Function.update_of_ne (Nat.one_le_iff_ne_zero.mp h1)] at htaken ⊢
      exact hp.tight j h1 hn htaken
    · exact absurd (List.mem_singleton.mp hj) hj0
    · exact absurd hi List.not_mem_nil
    · cases hx
  have hcurrent : Function.update phase.matchedRow 0 (rows + 1) phase.search.currentColumn ≠ 0 := by
    rw [show phase.search.currentColumn = 0 from rfl, Function.update_self]
    exact Nat.succ_ne_zero rows
  obtain ⟨t, hrun, ht, hfree⟩ := hpricing.run_total hstart hle hcurrent
    (Nat.le_add_left (columns + 1) _)
  have hgood : Matches columns rows
    (fun i j ↦ reduced cost t.rowPotential t.columnPotential i j = 0)
      phase.matchedRow 0 := by
    refine ⟨hm.inj, hm.onto, hm.mem, fun j hj hj0 _ htaken ↦ ?_⟩
    have htight := ht.priced.tight j (Nat.one_le_iff_ne_zero.mpr hj0) hj
    rw [Function.update_of_ne hj0] at htight
    exact htight htaken
  obtain ⟨m, hrow, hmatches, hfreed⟩ := Phase.row_of_run hgood hrun ht.searching hfree ht.tree
  refine ⟨_, hrow, ⟨hmatches.inj, hmatches.onto, hmatches.mem, fun _ _ _ _ _ ↦ trivial⟩,
    ht.priced.nonneg, ht.priced.nonpos, fun j h1 hn hj ↦ ?_, fun j h1 hn htaken ↦ ?_⟩
  · refine ht.priced.free j h1 hn ?_
    rw [Function.update_of_ne (Nat.one_le_iff_ne_zero.mp h1)]
    exact hfreed j h1 hj
  · have hj0 := Nat.one_le_iff_ne_zero.mp h1
    exact hmatches.good j hn hj0 hj0 htaken

theorem phases_total (hle : total ≤ columns) (hcost : ∀ i j, 0 ≤ cost i j) (hrows : rows ≤ total) :
    ∃ phase, phases cost columns rows = some phase ∧
      Matches columns rows (fun _ _ ↦ True) phase.matchedRow 0 ∧
      Priced cost total columns phase.matchedRow phase.rowPotential phase.columnPotential := by
  induction rows with
  | zero =>
    refine ⟨_, rfl, matches_nil, fun i j _ _ _ _ ↦ ?_, fun _ _ _ ↦ le_rfl, fun _ _ _ _ ↦ rfl,
      fun j _ _ htaken ↦ absurd rfl htaken⟩
    rw [reduced, sub_zero, sub_zero]
    exact hcost (i - 1) (j - 1)
  | succ rows ih =>
    obtain ⟨phase, hphase, hm, hp⟩ := ih (Nat.le_of_succ_le hrows)
    obtain ⟨phase', hrow, hm', hp'⟩ := Phase.row_total hrows hle hm hp
    refine ⟨phase', ?_, hm', hp'⟩
    rw [phases, hphase, Option.bind_some, hrow]

end EmbodiedAgent.Navigation
