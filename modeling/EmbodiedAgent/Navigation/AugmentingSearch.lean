import EmbodiedAgent.Library.Assignment
import EmbodiedAgent.Navigation.GatedObservationAssignment

namespace EmbodiedAgent.Navigation

open Library Library.Assignment

variable {α : Type*} [LT α] [DecidableLT α] [Extended α]

section Scan

variable (scan : Scan α) {visited : List ℕ} (currentColumn : ℕ) (reducedCost : ℕ → α) {column : ℕ}

theorem Scan.column_visited (h : column ∈ visited) :
    scan.column visited currentColumn reducedCost column = scan := if_pos h

theorem Scan.select_arrays (column : ℕ) : (scan.select column).minimumSlack = scan.minimumSlack ∧
    (scan.select column).previousColumn = scan.previousColumn := by
  rw [Scan.select]
  cases scan.minimumSlack column with
  | none => exact ⟨rfl, rfl⟩
  | some slack =>
    dsimp only
    split_ifs <;> exact ⟨rfl, rfl⟩

theorem Scan.select_cases (column : ℕ) : ((scan.select column).delta = scan.delta ∧
      (scan.select column).nextColumn = scan.nextColumn) ∨
    ((scan.select column).delta = scan.minimumSlack column ∧
      (scan.select column).nextColumn = column) := by
  rw [Scan.select]
  cases hslack : scan.minimumSlack column with
  | none => exact .inl ⟨rfl, rfl⟩
  | some slack =>
    dsimp only
    split_ifs
    · exact .inr ⟨rfl, rfl⟩
    · exact .inl ⟨rfl, rfl⟩

theorem Scan.lower_arrays (column : ℕ) (cost : α) :
    (scan.lower currentColumn column cost).minimumSlack = Function.update scan.minimumSlack column
      (if ltExtended cost (scan.minimumSlack column) then some cost else scan.minimumSlack column) ∧
    (scan.lower currentColumn column cost).previousColumn =
      Function.update scan.previousColumn column
        (if ltExtended cost (scan.minimumSlack column) then currentColumn
          else scan.previousColumn column) ∧
    (scan.lower currentColumn column cost).delta = scan.delta ∧
    (scan.lower currentColumn column cost).nextColumn = scan.nextColumn := by
  rw [Scan.lower]
  split_ifs
  · exact ⟨rfl, rfl, rfl, rfl⟩
  · exact ⟨(Function.update_eq_self _ _).symm, (Function.update_eq_self _ _).symm, rfl, rfl⟩

end Scan

namespace Search

section Pass

variable [Sub α] (s : Search α) (cost : ℕ → ℕ → α) (row : ℕ)

def lowered (column : ℕ) : Option α :=
  if ltExtended (s.reducedCost cost row column) (s.minimumSlack column) then
    some (s.reducedCost cost row column)
  else s.minimumSlack column

def loweredPrevious (column : ℕ) : ℕ :=
  if ltExtended (s.reducedCost cost row column) (s.minimumSlack column) then s.currentColumn
  else s.previousColumn column

/-- The pass over the first columns: the column selected has the slack `delta`. -/
structure Scanned (n : ℕ) (scan : Scan α) : Prop where
  slack : ∀ j, j ∉ s.visited → 1 ≤ j → j ≤ n → scan.minimumSlack j = s.lowered cost row j
  slackSame : ∀ j, j ∈ s.visited ∨ j = 0 ∨ n < j → scan.minimumSlack j = s.minimumSlack j
  previous : ∀ j, j ∉ s.visited → 1 ≤ j → j ≤ n →
    scan.previousColumn j = s.loweredPrevious cost row j
  previousSame : ∀ j, j ∈ s.visited ∨ j = 0 ∨ n < j → scan.previousColumn j = s.previousColumn j
  next : ∀ delta, scan.delta = some delta → scan.nextColumn ∉ s.visited ∧ 1 ≤ scan.nextColumn ∧
    scan.nextColumn ≤ n ∧ s.lowered cost row scan.nextColumn = some delta

theorem scan_succ (n : ℕ) : s.scan cost (n + 1) row =
    (s.scan cost n row).column s.visited s.currentColumn (s.reducedCost cost row) (n + 1) := by
  rw [scan, List.range_succ, List.foldl_append]
  rfl

theorem scanned_scan (n : ℕ) : s.Scanned cost row n (s.scan cost n row) := by
  induction n with
  | zero =>
    refine ⟨fun j _ hj hj' ↦ ?_, fun j _ ↦ rfl, fun j _ hj hj' ↦ ?_, fun j _ ↦ rfl,
      fun delta hdelta ↦ by cases hdelta⟩
    · omega
    · omega
  | succ n ih =>
    rw [scan_succ]
    by_cases hvisited : n + 1 ∈ s.visited
    · rw [Scan.column_visited _ _ _ hvisited]
      have hne : ∀ j, j ∉ s.visited → j ≠ n + 1 := fun j hj heq ↦ hj (heq ▸ hvisited)
      refine ⟨fun j hj h1 hn ↦ ih.slack j hj h1 ?_, fun j hj ↦ ih.slackSame j ?_,
        fun j hj h1 hn ↦ ih.previous j hj h1 ?_, fun j hj ↦ ih.previousSame j ?_,
        fun delta hdelta ↦ ?_⟩
      · have := hne j hj
        omega
      · exact hj.imp_right (Or.imp_right Nat.lt_of_succ_lt)
      · have := hne j hj
        omega
      · exact hj.imp_right (Or.imp_right Nat.lt_of_succ_lt)
      · obtain ⟨hnext, h1, hn, hlowered⟩ := ih.next delta hdelta
        exact ⟨hnext, h1, Nat.le_succ_of_le hn, hlowered⟩
    · have hslack := ih.slackSame (n + 1) (.inr (.inr (Nat.lt_succ_self n)))
      have hprevious := ih.previousSame (n + 1) (.inr (.inr (Nat.lt_succ_self n)))
      rw [Scan.column, if_neg hvisited]
      obtain ⟨hlower, hlowerPrevious, hdelta, hnext⟩ := (s.scan cost n row).lower_arrays
        s.currentColumn (n + 1) (s.reducedCost cost row (n + 1))
      rw [hslack, ← lowered] at hlower
      rw [hslack, hprevious, ← loweredPrevious] at hlowerPrevious
      generalize (s.scan cost n row).lower s.currentColumn (n + 1)
        (s.reducedCost cost row (n + 1)) = scan at hlower hlowerPrevious hdelta hnext
      obtain ⟨hselect, hselectPrevious⟩ := scan.select_arrays (n + 1)
      refine ⟨fun j hj h1 hn ↦ ?_, fun j hj ↦ ?_, fun j hj h1 hn ↦ ?_, fun j hj ↦ ?_,
        fun delta hselected ↦ ?_⟩
      · rw [hselect, hlower]
        rcases Nat.lt_or_eq_of_le hn with hlt | rfl
        · rw [Function.update_of_ne hlt.ne]
          exact ih.slack j hj h1 (Nat.lt_succ_iff.mp hlt)
        · exact Function.update_self _ _ _
      · have hne : j ≠ n + 1 := by
          rintro rfl
          rcases hj with hmem | h0 | hlt
          · exact hvisited hmem
          · omega
          · omega
        rw [hselect, hlower, Function.update_of_ne hne]
        exact ih.slackSame j (hj.imp_right (Or.imp_right Nat.lt_of_succ_lt))
      · rw [hselectPrevious, hlowerPrevious]
        rcases Nat.lt_or_eq_of_le hn with hlt | rfl
        · rw [Function.update_of_ne hlt.ne]
          exact ih.previous j hj h1 (Nat.lt_succ_iff.mp hlt)
        · exact Function.update_self _ _ _
      · have hne : j ≠ n + 1 := by
          rintro rfl
          rcases hj with hmem | h0 | hlt
          · exact hvisited hmem
          · omega
          · omega
        rw [hselectPrevious, hlowerPrevious, Function.update_of_ne hne]
        exact ih.previousSame j (hj.imp_right (Or.imp_right Nat.lt_of_succ_lt))
      · rcases scan.select_cases (n + 1) with ⟨hkept, hkeptNext⟩ | ⟨htaken, htakenNext⟩
        · rw [hkept, hdelta] at hselected
          rw [hkeptNext, hnext]
          obtain ⟨hfresh, h1, hn, hlowered⟩ := ih.next delta hselected
          exact ⟨hfresh, h1, Nat.le_succ_of_le hn, hlowered⟩
        · rw [htaken, hlower, Function.update_self] at hselected
          rw [htakenNext]
          exact ⟨hvisited, Nat.le_add_left 1 n, le_rfl, hselected⟩

end Pass

section Shift

variable [Add α] [Sub α] (s : Search α) (matchedRow : ℕ → ℕ) (delta : α)

/-- What the shift of the potentials by `delta` has done to the first columns. -/
structure Shifted (n : ℕ) (t : Search α) : Prop where
  row : ∀ j, j < n → j ∈ s.visited →
    t.rowPotential (matchedRow j) = s.rowPotential (matchedRow j) + delta
  rowSame : ∀ r, (∀ j, j < n → j ∈ s.visited → matchedRow j ≠ r) →
    t.rowPotential r = s.rowPotential r
  column : ∀ j, j < n → j ∈ s.visited → t.columnPotential j = s.columnPotential j - delta
  columnSame : ∀ j, j ∉ s.visited ∨ n ≤ j → t.columnPotential j = s.columnPotential j
  slack : ∀ j, j < n → j ∉ s.visited → t.minimumSlack j = (s.minimumSlack j).map (· - delta)
  slackSame : ∀ j, n ≤ j → t.minimumSlack j = s.minimumSlack j
  visited : t.visited = s.visited
  previous : t.previousColumn = s.previousColumn

omit [LT α] [DecidableLT α] [Extended α] in
theorem shifted (hinj : ∀ j ∈ s.visited, ∀ j' ∈ s.visited, matchedRow j = matchedRow j' → j = j')
    (n : ℕ) : s.Shifted matchedRow delta n ((List.range n).foldl
      (fun s column ↦ s.shiftColumn matchedRow delta column) s) := by
  induction n with
  | zero =>
    refine ⟨fun j hj ↦ absurd hj (Nat.not_lt_zero j), fun r _ ↦ rfl,
      fun j hj ↦ absurd hj (Nat.not_lt_zero j), fun j _ ↦ rfl,
      fun j hj ↦ absurd hj (Nat.not_lt_zero j), fun j _ ↦ rfl, rfl, rfl⟩
  | succ n ih =>
    rw [List.range_succ, List.foldl_append]
    generalize (List.range n).foldl (fun s column ↦ s.shiftColumn matchedRow delta column) s = t
      at ih
    change s.Shifted matchedRow delta (n + 1) (t.shiftColumn matchedRow delta n)
    rw [shiftColumn, ih.visited]
    by_cases hvisited : n ∈ s.visited
    · rw [if_pos hvisited]
      have hrow : t.rowPotential (matchedRow n) = s.rowPotential (matchedRow n) := by
        refine ih.rowSame _ fun j hj hmem heq ↦ ?_
        exact absurd (hinj j hmem n hvisited heq) hj.ne
      refine ⟨fun j hj hmem ↦ ?_, fun r hr ↦ ?_, fun j hj hmem ↦ ?_, fun j hj ↦ ?_,
        fun j hj hmem ↦ ?_, fun j hj ↦ ih.slackSame j (Nat.le_of_succ_le hj), rfl,
        ih.previous⟩
      · rcases Nat.lt_or_eq_of_le (Nat.lt_succ_iff.mp hj) with hlt | rfl
        · have hne : matchedRow j ≠ matchedRow n :=
            fun heq ↦ hlt.ne (hinj j hmem n hvisited heq)
          dsimp only
          rw [Function.update_of_ne hne]
          exact ih.row j hlt hmem
        · dsimp only
          rw [Function.update_self, hrow]
      · dsimp only
        rw [Function.update_of_ne (hr n (Nat.lt_succ_self n) hvisited).symm]
        exact ih.rowSame r fun j hj hmem ↦ hr j (Nat.lt_succ_of_lt hj) hmem
      · rcases Nat.lt_or_eq_of_le (Nat.lt_succ_iff.mp hj) with hlt | rfl
        · dsimp only
          rw [Function.update_of_ne hlt.ne]
          exact ih.column j hlt hmem
        · dsimp only
          rw [Function.update_self, ih.columnSame j (.inr le_rfl)]
      · have hne : j ≠ n := by
          rintro rfl
          rcases hj with hfresh | hle
          · exact hfresh hvisited
          · omega
        dsimp only
        rw [Function.update_of_ne hne]
        exact ih.columnSame j (hj.imp_right Nat.le_of_succ_le)
      · have hne : j ≠ n := fun heq ↦ hmem (heq ▸ hvisited)
        exact ih.slack j (by omega) hmem
    · rw [if_neg hvisited]
      have hne : ∀ j, j ∈ s.visited → j ≠ n := fun j hmem heq ↦ hvisited (heq ▸ hmem)
      refine ⟨fun j hj hmem ↦ ih.row j ?_ hmem, fun r hr ↦ ih.rowSame r fun j hj ↦ ?_,
        fun j hj hmem ↦ ih.column j ?_ hmem, fun j hj ↦ ?_, fun j hj hmem ↦ ?_, fun j hj ↦ ?_,
        rfl, ih.previous⟩
      · have := hne j hmem
        omega
      · exact hr j (Nat.lt_succ_of_lt hj)
      · have := hne j hmem
        omega
      · refine ih.columnSame j ?_
        exact hj.imp_right Nat.le_of_succ_le
      · rcases Nat.lt_or_eq_of_le (Nat.lt_succ_iff.mp hj) with hlt | rfl
        · dsimp only
          rw [Function.update_of_ne hlt.ne]
          exact ih.slack j hlt hmem
        · dsimp only
          rw [Function.update_self, ih.slackSame j le_rfl]
      · have hjn : j ≠ n := by omega
        dsimp only
        rw [Function.update_of_ne hjn]
        exact ih.slackSame j (Nat.le_of_succ_le hj)

end Shift

variable [Add α] [Sub α] {s s' : Search α} {cost : ℕ → ℕ → α} {columns : ℕ} {matchedRow : ℕ → ℕ}
  {delta : α}

structure Stepped (s : Search α) (cost : ℕ → ℕ → α) (columns : ℕ) (matchedRow : ℕ → ℕ) (delta : α)
    (s' : Search α) : Prop where
  visited : s'.visited = s.currentColumn :: s.visited
  next : s'.currentColumn ∉ s'.visited ∧ 1 ≤ s'.currentColumn ∧ s'.currentColumn ≤ columns ∧
    s.visit.lowered cost (matchedRow s.currentColumn) s'.currentColumn = some delta
  previous : ∀ j, j ∉ s'.visited → 1 ≤ j → j ≤ columns →
    s'.previousColumn j = s.visit.loweredPrevious cost (matchedRow s.currentColumn) j
  previousSame : ∀ j ∈ s'.visited, s'.previousColumn j = s.previousColumn j
  slack : ∀ j, j ∉ s'.visited → 1 ≤ j → j ≤ columns → s'.minimumSlack j =
    (s.visit.lowered cost (matchedRow s.currentColumn) j).map (· - delta)
  row : ∀ j ∈ s'.visited,
    s'.rowPotential (matchedRow j) = s.rowPotential (matchedRow j) + delta
  rowSame : ∀ r, (∀ j ∈ s'.visited, matchedRow j ≠ r) → s'.rowPotential r = s.rowPotential r
  column : ∀ j ∈ s'.visited, s'.columnPotential j = s.columnPotential j - delta
  columnSame : ∀ j, j ∉ s'.visited → s'.columnPotential j = s.columnPotential j

theorem stepped (hle : ∀ j ∈ s.currentColumn :: s.visited, j ≤ columns)
    (hinj : ∀ j ∈ s.currentColumn :: s.visited, ∀ j' ∈ s.currentColumn :: s.visited,
      matchedRow j = matchedRow j' → j = j') (h : s.step cost columns matchedRow = some s') :
    ∃ delta, s.Stepped cost columns matchedRow delta s' := by
  rw [step] at h
  obtain ⟨delta, hdelta, rfl⟩ := Option.map_eq_some_iff.mp h
  have hscan := s.visit.scanned_scan cost (matchedRow s.currentColumn) columns
  generalize s.visit.scan cost columns (matchedRow s.currentColumn) = scan at hdelta hscan
  have hshift := (s.visit.scanned scan).shifted matchedRow delta hinj (columns + 1)
  have hlt : ∀ j ∈ s.currentColumn :: s.visited, j < columns + 1 :=
    fun j hj ↦ Nat.lt_succ_of_le (hle j hj)
  dsimp only [shift]
  generalize (List.range (columns + 1)).foldl
    (fun s column ↦ s.shiftColumn matchedRow delta column) (s.visit.scanned scan) = t at hshift
  have hvisited : t.visited = s.currentColumn :: s.visited := hshift.visited
  refine ⟨delta, hvisited, hvisited ▸ hscan.next delta hdelta, fun j hj h1 hn ↦ ?_, fun j hj ↦ ?_,
    fun j hj h1 hn ↦ ?_, fun j hj ↦ ?_, fun r hr ↦ ?_, fun j hj ↦ ?_, fun j hj ↦ ?_⟩
  · rw [show t.visited = _ from hvisited] at hj
    exact (congrFun hshift.previous j).trans (hscan.previous j hj h1 hn)
  · rw [show t.visited = _ from hvisited] at hj
    exact (congrFun hshift.previous j).trans (hscan.previousSame j (.inl hj))
  · rw [show t.visited = _ from hvisited] at hj
    refine (hshift.slack j (Nat.lt_succ_of_le hn) hj).trans ?_
    exact congrArg (Option.map (· - delta)) (hscan.slack j hj h1 hn)
  · rw [show t.visited = _ from hvisited] at hj
    exact hshift.row j (hlt j hj) hj
  · rw [show t.visited = _ from hvisited] at hr
    exact hshift.rowSame r fun j _ hj ↦ hr j hj
  · rw [show t.visited = _ from hvisited] at hj
    exact hshift.column j (hlt j hj) hj
  · rw [show t.visited = _ from hvisited] at hj
    exact hshift.columnSame j (.inl hj)

structure Searching (columns : ℕ) (matchedRow : ℕ → ℕ) (s : Search α) : Prop where
  le : ∀ j ∈ s.currentColumn :: s.visited, j ≤ columns
  rooted : Rooted s.previousColumn 0 (s.currentColumn :: s.visited)
  taken : ∀ j ∈ s.visited, matchedRow j ≠ 0
  slack : ∀ j, j ∉ s.visited → s.minimumSlack j ≠ none → 1 ≤ j → j ≤ columns →
    s.previousColumn j ∈ s.visited

theorem Stepped.previous_mem (h : s.Stepped cost columns matchedRow delta s')
    (hs : s.Searching columns matchedRow) {j : ℕ} (hj : j ∉ s'.visited) (h1 : 1 ≤ j)
    (hn : j ≤ columns) (hlowered : s.visit.lowered cost (matchedRow s.currentColumn) j ≠ none) :
    s'.previousColumn j ∈ s'.visited := by
  have hfresh : j ∉ s.currentColumn :: s.visited := h.visited ▸ hj
  rw [h.previous j hj h1 hn, h.visited, loweredPrevious]
  rw [lowered] at hlowered
  split_ifs at hlowered ⊢
  · exact List.mem_cons_self
  · have hold : j ∉ s.visited := fun hmem ↦ hfresh (List.mem_cons_of_mem _ hmem)
    exact List.mem_cons_of_mem _ (hs.slack j hold hlowered h1 hn)

theorem Searching.step (hs : s.Searching columns matchedRow)
    (hcurrent : matchedRow s.currentColumn ≠ 0)
    (h : s.Stepped cost columns matchedRow delta s') : s'.Searching columns matchedRow := by
  obtain ⟨hfresh, h1, hn, hdelta⟩ := h.next
  refine ⟨fun j hj ↦ ?_, ?_, fun j hj ↦ ?_, fun j hj hslack h1 hn ↦ ?_⟩
  · rcases List.mem_cons.mp hj with rfl | hmem
    · exact hn
    · exact hs.le j (h.visited ▸ hmem)
  · have hrooted : Rooted s.previousColumn 0 s'.visited := h.visited ▸ hs.rooted
    refine (hrooted.congr h.previousSame).cons hfresh (h.previous_mem hs hfresh h1 hn ?_)
    rw [hdelta]
    exact Option.some_ne_none delta
  · rw [h.visited] at hj
    rcases List.mem_cons.mp hj with rfl | hmem
    · exact hcurrent
    · exact hs.taken j hmem
  · refine h.previous_mem hs hj h1 hn fun hnone ↦ hslack ?_
    rw [h.slack j hj h1 hn, hnone]
    rfl

omit [LT α] [DecidableLT α] [Extended α] [Add α] [Sub α] in
theorem Searching.length_le (hs : s.Searching columns matchedRow) : s.visited.length ≤ columns := by
  have hsub : (s.currentColumn :: s.visited).toFinset ⊆ Finset.range (columns + 1) := by
    intro j hj
    exact Finset.mem_range.mpr (Nat.lt_succ_of_le (hs.le j (List.mem_toFinset.mp hj)))
  have hcard := Finset.card_le_card hsub
  rw [List.toFinset_card_of_nodup hs.rooted.nodup, Finset.card_range, List.length_cons] at hcard
  omega

theorem run_preserves {I : Search α → Prop} (hstep : ∀ s s', I s → matchedRow s.currentColumn ≠ 0 →
      s.step cost columns matchedRow = some s' → I s') {fuel : ℕ} {t : Search α} (hs : I s)
    (hcurrent : matchedRow s.currentColumn ≠ 0)
    (h : run cost columns matchedRow fuel s = some t) : I t ∧ matchedRow t.currentColumn = 0 := by
  induction fuel generalizing s with
  | zero => cases h
  | succ fuel ih =>
    rw [run] at h
    obtain ⟨s', hs', hrest⟩ := Option.bind_eq_some_iff.mp h
    have hkept := hstep s s' hs hcurrent hs'
    by_cases hfree : matchedRow s'.currentColumn = 0
    · rw [if_pos hfree] at hrest
      cases hrest
      exact ⟨hkept, hfree⟩
    · rw [if_neg hfree] at hrest
      exact ih hkept hfree hrest

end Search

abbrev Matches (columns rows : ℕ) (good : ℕ → ℕ → Prop) (matchedRow : ℕ → ℕ) (hole : ℕ) : Prop :=
  Matched {j | j ≤ columns} {i | 1 ≤ i ∧ i ≤ rows} 0 good 0 matchedRow hole

section Augment

variable {columns rows : ℕ} {good : ℕ → ℕ → Prop} {matchedRow matchedRow₀ previousColumn : ℕ → ℕ}

theorem augment_matches {currentColumn : ℕ} {nodes : List ℕ}
    (hrooted : Rooted previousColumn 0 nodes) (hle : ∀ j ∈ nodes, j ≤ columns)
    (hcurrent : currentColumn ≤ columns) (hfresh : currentColumn ∉ nodes)
    (hprevious : previousColumn currentColumn ∈ nodes)
    (hgood : ∀ j ∈ currentColumn :: nodes, j ≠ 0 → good (matchedRow₀ (previousColumn j)) j)
    (htaken : ∀ j ∈ nodes, matchedRow₀ j ≠ 0) (hsame : ∀ j ∈ nodes, matchedRow j = matchedRow₀ j)
    (hm : Matches columns rows good matchedRow currentColumn) {fuel : ℕ}
    (hfuel : nodes.length ≤ fuel) :
    ∃ m, augment previousColumn fuel matchedRow currentColumn = some m ∧
      Matches columns rows good m 0 ∧ ∀ j, m j = 0 → matchedRow j = 0 := by
  induction nodes generalizing currentColumn matchedRow fuel with
  | nil => exact hrooted.elim
  | cons j rest ih =>
    have hrestLe : ∀ i ∈ rest, i ≤ columns := fun i hi ↦ hle i (List.mem_cons_of_mem j hi)
    have hne : j ≠ currentColumn := fun heq ↦ hfresh (heq ▸ List.mem_cons_self)
    have hfreshRest : currentColumn ∉ rest := fun hmem ↦ hfresh (List.mem_cons_of_mem j hmem)
    rcases List.mem_cons.mp hprevious with hj | hmem
    · obtain ⟨fuel, rfl⟩ : ∃ n, fuel = n + 1 := ⟨fuel - 1, by
        have := List.length_cons ▸ hfuel
        omega⟩
      have hcurrent0 : currentColumn ≠ 0 := fun heq ↦ hfresh (heq ▸ hrooted.root_mem)
      have hedge := hgood currentColumn List.mem_cons_self hcurrent0
      rw [hj, ← hsame j List.mem_cons_self] at hedge
      have hshift := hm.shift hcurrent (hle j List.mem_cons_self) hne hedge
      have hkept : ∀ i, Function.update matchedRow currentColumn (matchedRow j) i = 0 →
          matchedRow i = 0 := by
        intro i hi
        by_cases hic : i = currentColumn
        · rw [hic, Function.update_self, hsame j List.mem_cons_self] at hi
          exact absurd hi (htaken j List.mem_cons_self)
        · rwa [Function.update_of_ne hic] at hi
      rw [augment, hj]
      by_cases hroot : j = 0
      · rw [if_pos hroot]
        exact ⟨_, rfl, hroot ▸ hshift, hkept⟩
      · rw [if_neg hroot]
        rcases hrooted with ⟨h0, -⟩ | ⟨-, hjfresh, hjprevious, hrest⟩
        · exact absurd h0 hroot
        have hsameRest : ∀ i ∈ rest, Function.update matchedRow currentColumn (matchedRow j) i =
            matchedRow₀ i := by
          intro i hi
          have hi' : i ≠ currentColumn := fun heq ↦ hfreshRest (heq ▸ hi)
          rw [Function.update_of_ne hi']
          exact hsame i (List.mem_cons_of_mem j hi)
        obtain ⟨m, hm', hmatches, hfree⟩ := ih hrest hrestLe (hle j List.mem_cons_self) hjfresh
          hjprevious (fun i hi ↦ hgood i (List.mem_cons_of_mem _ hi))
          (fun i hi ↦ htaken i (List.mem_cons_of_mem j hi)) hsameRest hshift
          (Nat.le_of_succ_le_succ hfuel)
        exact ⟨m, hm', hmatches, fun i hi ↦ hkept i (hfree i hi)⟩
    · rcases hrooted with ⟨-, hnil⟩ | ⟨-, -, -, hrest⟩
      · rw [hnil] at hmem
        exact absurd hmem List.not_mem_nil
      refine ih hrest hrestLe hcurrent hfreshRest hmem (fun i hi ↦ hgood i ?_)
        (fun i hi ↦ htaken i (List.mem_cons_of_mem j hi))
        (fun i hi ↦ hsame i (List.mem_cons_of_mem j hi)) hm (Nat.le_of_succ_le hfuel)
      rcases List.mem_cons.mp hi with rfl | hi
      · exact List.mem_cons_self
      · exact List.mem_cons_of_mem _ (List.mem_cons_of_mem j hi)

theorem Matches.injective {m : ℕ → ℕ} (hm : Matches columns rows good m 0) {j j' : ℕ}
    (hj : j ≤ columns) (hj' : j' ≤ columns) (htaken : Function.update m 0 (rows + 1) j ≠ 0)
    (heq : Function.update m 0 (rows + 1) j = Function.update m 0 (rows + 1) j') : j = j' := by
  have hbelow : ∀ j ≤ columns, j ≠ 0 → m j ≠ rows + 1 := by
    intro j hj hj0 heq
    have := (hm.mem j hj hj0 (heq ▸ Nat.succ_ne_zero rows)).2
    omega
  by_cases hj0 : j = 0
  · by_cases hj'0 : j' = 0
    · rw [hj0, hj'0]
    · rw [hj0, Function.update_self, Function.update_of_ne hj'0] at heq
      exact absurd heq.symm (hbelow j' hj' hj'0)
  · rw [Function.update_of_ne hj0] at heq htaken
    by_cases hj'0 : j' = 0
    · rw [hj'0, Function.update_self] at heq
      exact absurd heq (hbelow j hj hj0)
    · rw [Function.update_of_ne hj'0] at heq
      exact hm.inj j hj j' hj' hj0 hj'0 htaken heq

theorem Matches.start {m : ℕ → ℕ} {currentColumn : ℕ} (hm : Matches columns rows good m 0)
    (hne : currentColumn ≠ 0) (hfree : m currentColumn = 0) :
    Matches columns (rows + 1) good (Function.update m 0 (rows + 1)) currentColumn := by
  refine ⟨fun j hj j' hj' _ _ htaken heq ↦ hm.injective hj hj' htaken heq, fun i hi ↦ ?_,
    fun j hj _ htaken ↦ ?_, fun j hj _ hroot htaken ↦ ?_⟩
  · rcases Nat.lt_or_eq_of_le hi.2 with hlt | heq
    · obtain ⟨j, hj, hj0, hji⟩ := hm.onto i ⟨hi.1, Nat.lt_succ_iff.mp hlt⟩
      refine ⟨j, hj, fun hjc ↦ ?_, by rw [Function.update_of_ne hj0, hji]⟩
      have := hi.1
      rw [hjc, hfree] at hji
      omega
    · exact ⟨0, Nat.zero_le columns, hne.symm, by rw [Function.update_self, heq]⟩
  · by_cases hj0 : j = 0
    · rw [hj0, Function.update_self]
      exact ⟨Nat.le_add_left 1 rows, le_rfl⟩
    · rw [Function.update_of_ne hj0] at htaken ⊢
      obtain ⟨h1, hn⟩ := hm.mem j hj hj0 htaken
      exact ⟨h1, Nat.le_succ_of_le hn⟩
  · rw [Function.update_of_ne hroot] at htaken ⊢
    exact hm.good j hj hroot hroot htaken

end Augment

section Phases

variable [Add α] [Sub α] {cost : ℕ → ℕ → α} {columns rows : ℕ} {good : ℕ → ℕ → Prop}
  {phase phase' : Phase α} {s s' t : Search α}

omit [LT α] [DecidableLT α] [Extended α] [Add α] [Sub α] in
theorem Phase.searching :
    phase.search.Searching columns (Function.update phase.matchedRow 0 (rows + 1)) := by
  refine ⟨fun j hj ↦ ?_, .inl ⟨rfl, rfl⟩, fun j hj ↦ absurd hj List.not_mem_nil,
    fun j _ hslack ↦ absurd rfl hslack⟩
  rw [List.mem_singleton.mp hj]
  exact Nat.zero_le columns

theorem Matches.stepped (hm : Matches columns rows good phase.matchedRow 0)
    (hs : s.Searching columns (Function.update phase.matchedRow 0 (rows + 1)))
    (hcurrent : Function.update phase.matchedRow 0 (rows + 1) s.currentColumn ≠ 0)
    (h : s.step cost columns (Function.update phase.matchedRow 0 (rows + 1)) = some s') :
    ∃ delta, s.Stepped cost columns (Function.update phase.matchedRow 0 (rows + 1)) delta s' := by
  refine Search.stepped hs.le (fun j hj j' hj' heq ↦ ?_) h
  refine hm.injective (hs.le j hj) (hs.le j' hj') ?_ heq
  rcases List.mem_cons.mp hj with rfl | hmem
  · exact hcurrent
  · exact hs.taken j hmem

theorem Phase.row_of_run (hm : Matches columns rows good phase.matchedRow 0)
    (hrun : Search.run cost columns (Function.update phase.matchedRow 0 (rows + 1)) (columns + 1)
      phase.search = some t)
    (hs : t.Searching columns (Function.update phase.matchedRow 0 (rows + 1)))
    (hfree : Function.update phase.matchedRow 0 (rows + 1) t.currentColumn = 0)
    (hgood : ∀ j ∈ t.currentColumn :: t.visited, j ≠ 0 →
      good (Function.update phase.matchedRow 0 (rows + 1) (t.previousColumn j)) j) :
    ∃ m, phase.row cost columns (rows + 1) =
        some ⟨t.rowPotential, t.columnPotential, m, t.previousColumn⟩ ∧
      Matches columns (rows + 1) good m 0 ∧ ∀ j, 1 ≤ j → m j = 0 → phase.matchedRow j = 0 := by
  have hne : t.currentColumn ≠ 0 := by
    intro h0
    rw [h0, Function.update_self] at hfree
    omega
  have hstart := hm.start hne (by rwa [Function.update_of_ne hne] at hfree)
  rcases hs.rooted with ⟨h0, -⟩ | ⟨-, hfresh, hprevious, hrooted⟩
  · exact absurd h0 hne
  obtain ⟨m, haugment, hmatches, hfreed⟩ := augment_matches hrooted
    (fun j hj ↦ hs.le j (List.mem_cons_of_mem _ hj)) (hs.le _ List.mem_cons_self) hfresh hprevious
    hgood hs.taken (fun _ _ ↦ rfl) hstart (Nat.le_succ_of_le hs.length_le)
  refine ⟨m, ?_, hmatches, fun j h1 hj ↦ ?_⟩
  swap
  · have hj0 := hfreed j hj
    rwa [Function.update_of_ne (Nat.one_le_iff_ne_zero.mp h1)] at hj0
  rw [Phase.row, hrun, Option.bind_some, haugment]
  rfl

theorem Phase.row_matches (hm : Matches columns rows (fun _ _ ↦ True) phase.matchedRow 0)
    (h : phase.row cost columns (rows + 1) = some phase') :
    Matches columns (rows + 1) (fun _ _ ↦ True) phase'.matchedRow 0 := by
  obtain ⟨t, hrun, -⟩ := Option.bind_eq_some_iff.mp h
  have hstart : Function.update phase.matchedRow 0 (rows + 1) phase.search.currentColumn ≠ 0 := by
    rw [show phase.search.currentColumn = 0 from rfl, Function.update_self]
    exact Nat.succ_ne_zero rows
  obtain ⟨hs, hfree⟩ := Search.run_preserves
    (fun s s' hs hcurrent hstep ↦
      (hm.stepped hs hcurrent hstep).elim fun _ hstepped ↦ hs.step hcurrent hstepped)
    Phase.searching hstart hrun
  obtain ⟨m, hrow, hmatches, -⟩ := Phase.row_of_run hm hrun hs hfree fun _ _ _ ↦ trivial
  rw [h] at hrow
  cases hrow
  exact hmatches

end Phases

theorem matches_nil {columns : ℕ} {good : ℕ → ℕ → Prop} : Matches columns 0 good (fun _ ↦ 0) 0 := by
  refine ⟨fun _ _ _ _ _ _ htaken ↦ absurd rfl htaken, fun i hi ↦ ?_,
    fun _ _ _ htaken ↦ absurd rfl htaken, fun _ _ _ _ htaken ↦ absurd rfl htaken⟩
  have := hi.1
  have := hi.2
  omega

theorem phases_matches [Zero α] [Add α] [Sub α] {cost : ℕ → ℕ → α} {columns rows : ℕ}
    {phase : Phase α} (h : phases cost columns rows = some phase) :
    Matches columns rows (fun _ _ ↦ True) phase.matchedRow 0 := by
  induction rows generalizing phase with
  | zero =>
    cases h
    exact matches_nil
  | succ rows ih =>
    obtain ⟨before, hbefore, hrow⟩ := Option.bind_eq_some_iff.mp h
    exact Phase.row_matches (ih hbefore) hrow

end EmbodiedAgent.Navigation
