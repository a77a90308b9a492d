import Mathlib.Data.List.MinMax

/-! Opening and closing brackets. One that closes nothing counts for nothing. -/

namespace EmbodiedAgent.Library.Brackets

section Pairs

variable {α : Type*} (opens : α → Bool)

def openFrom (stack : List α) (l : List α) : List α :=
  l.foldl (fun stack a ↦ if opens a then a :: stack else stack.tail) stack

def pairsFrom : List α → List α → List (α × α)
  | _, [] => []
  | stack, a :: l =>
    if opens a then pairsFrom (a :: stack) l
    else (stack.head?.map fun b ↦ (b, a)).toList ++ pairsFrom stack.tail l

inductive Balanced : List α → Prop
  | nil : Balanced []
  | pair {a b : α} {inner rest : List α} (ha : opens a = true) (hb : opens b = false)
    (hinner : Balanced inner) (hrest : Balanced rest) : Balanced (a :: inner ++ b :: rest)

/-- A closing bracket after the sequence closes `a`. -/
def Closes (before : List α) (a : α) : Prop :=
  ∃ pre inner, before = pre ++ a :: inner ∧ opens a = true ∧ Balanced opens inner

variable {opens} {stack l l' before after : List α} {a b : α}

theorem openFrom_append : openFrom opens stack (l ++ l') =
    openFrom opens (openFrom opens stack l) l' := List.foldl_append

theorem openFrom_cons : openFrom opens stack (a :: l) =
    openFrom opens (if opens a then a :: stack else stack.tail) l := rfl

theorem Balanced.append (h : Balanced opens l) (h' : Balanced opens l') :
    Balanced opens (l ++ l') := by
  induction h with
  | nil => exact h'
  | pair ha hb hinner _ _ ihrest =>
    rw [List.append_assoc, List.cons_append]
    exact .pair ha hb hinner ihrest

theorem Balanced.openFrom_eq (h : Balanced opens l) (stack : List α) :
    openFrom opens stack l = stack := by
  induction h generalizing stack with
  | nil => rfl
  | pair ha hb _ _ ihinner ihrest =>
    rw [List.cons_append, openFrom_cons, if_pos ha, openFrom_append, ihinner, openFrom_cons, hb,
      if_neg Bool.false_ne_true, List.tail_cons, ihrest]

theorem exists_of_openFrom (h : openFrom opens [] l = a :: stack) :
    ∃ pre inner, l = pre ++ a :: inner ∧ opens a = true ∧ Balanced opens inner ∧
      openFrom opens [] pre = stack := by
  induction hn : l.length using Nat.strong_induction_on generalizing l a stack with
  | _ n ih =>
  rcases List.eq_nil_or_concat l with rfl | ⟨before, b, rfl⟩
  · cases h
  rw [List.concat_eq_append] at h hn ⊢
  rw [List.length_append, List.length_singleton] at hn
  rw [openFrom_append, openFrom_cons] at h
  cases hb : opens b with
  | true =>
    rw [hb, if_pos rfl] at h
    obtain ⟨rfl, hstack⟩ := List.cons.inj h
    exact ⟨before, [], rfl, hb, .nil, hstack⟩
  | false =>
    rw [hb, if_neg Bool.false_ne_true] at h
    cases hbefore : openFrom opens [] before with
    | nil =>
      rw [hbefore] at h
      cases h
    | cons c below =>
      rw [hbefore] at h
      obtain ⟨pre, inner, rfl, hc, hinner, hpre⟩ := ih _ (by omega) hbefore rfl
      rw [List.length_append, List.length_cons] at hn
      have hbelow : openFrom opens [] pre = a :: stack := hpre.trans h
      obtain ⟨first, between, rfl, ha, hbetween, hfirst⟩ := ih _ (by omega) hbelow rfl
      refine ⟨first, between ++ (c :: inner ++ [b]), by simp, ha, ?_, hfirst⟩
      exact hbetween.append (.pair hc hb hinner .nil)

theorem closes_iff : Closes opens before a ↔ (openFrom opens [] before).head? = some a := by
  constructor
  · rintro ⟨pre, inner, rfl, ha, hinner⟩
    rw [openFrom_append, openFrom_cons, if_pos ha, hinner.openFrom_eq, List.head?_cons]
  · intro h
    obtain ⟨stack, hstack⟩ := List.head?_eq_some_iff.mp h
    obtain ⟨pre, inner, hl, ha, hinner, -⟩ := exists_of_openFrom hstack
    exact ⟨pre, inner, hl, ha, hinner⟩

theorem pairsFrom_open (ha : opens a = true) (stack l : List α) :
    pairsFrom opens stack (a :: l) = pairsFrom opens (a :: stack) l := by
  rw [pairsFrom, if_pos ha]

theorem pairsFrom_close (ha : opens a = false) (stack l : List α) : pairsFrom opens stack (a :: l) =
      (stack.head?.map fun b ↦ (b, a)).toList ++ pairsFrom opens stack.tail l := by
  rw [pairsFrom, ha, if_neg Bool.false_ne_true]

theorem pairsFrom_append : pairsFrom opens stack (l ++ l') =
    pairsFrom opens stack l ++ pairsFrom opens (openFrom opens stack l) l' := by
  induction l generalizing stack with
  | nil => rfl
  | cons a l ih =>
    rw [List.cons_append, openFrom_cons]
    cases ha : opens a with
    | true => rw [pairsFrom_open ha, pairsFrom_open ha, ih, if_pos rfl]
    | false =>
      rw [pairsFrom_close ha, pairsFrom_close ha, ih, if_neg Bool.false_ne_true,
        List.append_assoc]

theorem pairsFrom_eq_append_cons {p : α × α} {first rest : List (α × α)} :
    pairsFrom opens stack l = first ++ p :: rest ↔ ∃ before after, l = before ++ p.2 :: after ∧
      opens p.2 = false ∧ (openFrom opens stack before).head? = some p.1 ∧
      pairsFrom opens stack before = first ∧
      pairsFrom opens (openFrom opens stack (before ++ [p.2])) after = rest := by
  constructor
  · intro h
    induction l generalizing stack first with
    | nil => simp [pairsFrom] at h
    | cons a l ih =>
      cases ha : opens a with
      | true =>
        rw [pairsFrom_open ha] at h
        obtain ⟨before, after, rfl, hclose, hhead, hfirst, hrest⟩ := ih h
        refine ⟨a :: before, after, rfl, hclose, ?_, ?_, ?_⟩
        · rwa [openFrom_cons, if_pos ha]
        · rwa [pairsFrom_open ha]
        · rwa [List.cons_append, openFrom_cons, if_pos ha]
      | false =>
        rw [pairsFrom_close ha] at h
        have hlater : ∀ first', pairsFrom opens stack.tail l = first' ++ p :: rest →
            first = (stack.head?.map fun b ↦ (b, a)).toList ++ first' → ∃ before after,
              a :: l = before ++ p.2 :: after ∧ opens p.2 = false ∧
              (openFrom opens stack before).head? = some p.1 ∧
              pairsFrom opens stack before = first ∧
              pairsFrom opens (openFrom opens stack (before ++ [p.2])) after = rest := by
          intro first' htail hfirst'
          obtain ⟨before, after, rfl, hclose, hhead, hfirst, hrest⟩ := ih htail
          have hnot : ¬ opens a = true := by simp [ha]
          refine ⟨a :: before, after, rfl, hclose, ?_, ?_, ?_⟩
          · rwa [openFrom_cons, if_neg hnot]
          · rw [pairsFrom_close ha, hfirst, hfirst']
          · rwa [List.cons_append, openFrom_cons, if_neg hnot]
        cases stack with
        | nil => exact hlater first h rfl
        | cons b stack =>
          cases first with
          | nil =>
            obtain ⟨rfl, hrest⟩ := List.cons.inj h
            refine ⟨[], l, rfl, ha, rfl, rfl, ?_⟩
            rwa [List.nil_append, openFrom_cons, if_neg (by simp [ha])]
          | cons q first =>
            obtain ⟨rfl, htail⟩ := List.cons.inj h
            exact hlater first htail rfl
  · rintro ⟨before, after, rfl, hclose, hhead, rfl, rfl⟩
    rw [pairsFrom_append, pairsFrom_close hclose, hhead, openFrom_append, openFrom_cons, hclose,
      if_neg Bool.false_ne_true]
    rfl

theorem mem_pairsFrom_nil {p : α × α} : p ∈ pairsFrom opens [] l ↔
    ∃ before after, l = before ++ p.2 :: after ∧ opens p.2 = false ∧ Closes opens before p.1 := by
  rw [List.mem_iff_append]
  simp only [pairsFrom_eq_append_cons, closes_iff]
  constructor
  · rintro ⟨_, _, before, after, hl, hclose, hhead, -, -⟩
    exact ⟨before, after, hl, hclose, hhead⟩
  · rintro ⟨before, after, hl, hclose, hhead⟩
    exact ⟨_, _, before, after, hl, hclose, hhead, rfl, rfl⟩

theorem mem_pairsFrom_openFrom {p : α × α} :
    p ∈ pairsFrom opens (openFrom opens [] before) l ↔ ∃ between after,
      l = between ++ p.2 :: after ∧ opens p.2 = false ∧ Closes opens (before ++ between) p.1 := by
  rw [List.mem_iff_append]
  simp only [pairsFrom_eq_append_cons, closes_iff, openFrom_append]
  constructor
  · rintro ⟨_, _, between, after, hl, hclose, hhead, -, -⟩
    exact ⟨between, after, hl, hclose, hhead⟩
  · rintro ⟨between, after, hl, hclose, hhead⟩
    exact ⟨_, _, between, after, hl, hclose, hhead, rfl, rfl⟩

end Pairs

variable {α β : Type*} [LinearOrder β] {f : α → β} {l : List α} {m : α}

def IsFirstMax (f : α → β) (first : List α) (m : α) (rest : List α) : Prop :=
  (∀ a ∈ first, f a < f m) ∧ ∀ a ∈ rest, f a ≤ f m

theorem IsFirstMax.unique {first first' rest rest' : List α} {m' : α}
    (h : IsFirstMax f first m rest) (h' : IsFirstMax f first' m' rest')
    (hl : first ++ m :: rest = first' ++ m' :: rest') : m = m' := by
  rcases List.append_eq_append_iff.mp hl with ⟨between, rfl, htail⟩ | ⟨between, rfl, htail⟩
  · cases between with
    | nil => exact (List.cons.inj htail).1
    | cons a between =>
      obtain ⟨rfl, hrest⟩ := List.cons.inj htail
      have hlt := h'.1 m (by simp)
      have hle := h.2 m' (by simp [hrest])
      exact absurd hlt (not_lt.mpr hle)
  · cases between with
    | nil => exact (List.cons.inj htail).1.symm
    | cons a between =>
      obtain ⟨rfl, hrest⟩ := List.cons.inj htail
      have hlt := h.1 m' (by simp)
      have hle := h'.2 m (by simp [hrest])
      exact absurd hlt (not_lt.mpr hle)

theorem exists_of_argmax (h : l.argmax f = some m) :
    ∃ first rest, l = first ++ m :: rest ∧ IsFirstMax f first m rest := by
  induction l using List.reverseRecOn generalizing m with
  | nil => cases h
  | append_singleton l b ih =>
    rw [List.argmax_concat] at h
    cases hmax : l.argmax f with
    | none =>
      rw [hmax] at h
      obtain rfl := Option.some.inj h
      rw [List.argmax_eq_none.mp hmax]
      exact ⟨[], [], rfl, by simp, by simp⟩
    | some c =>
      obtain ⟨first, rest, rfl, hfirst, hrest⟩ := ih hmax
      rw [hmax] at h
      dsimp only at h
      split_ifs at h with hlt
      · obtain rfl := Option.some.inj h
        refine ⟨first ++ c :: rest, [], rfl, ?_, by simp⟩
        intro a ha
        rcases List.mem_append.mp ha with ha | ha
        · exact (hfirst a ha).trans hlt
        · rcases List.mem_cons.mp ha with rfl | ha
          · exact hlt
          · exact (hrest a ha).trans_lt hlt
      · obtain rfl := Option.some.inj h
        refine ⟨first, rest ++ [b], by simp, hfirst, ?_⟩
        intro a ha
        rcases List.mem_append.mp ha with ha | ha
        · exact hrest a ha
        · rw [List.mem_singleton.mp ha]
          exact not_lt.mp hlt

theorem argmax_eq_some_iff_split : l.argmax f = some m ↔
    ∃ first rest, l = first ++ m :: rest ∧ IsFirstMax f first m rest := by
  refine ⟨exists_of_argmax, ?_⟩
  rintro ⟨first, rest, rfl, h⟩
  cases hmax : (first ++ m :: rest).argmax f with
  | none => simp at hmax
  | some c =>
    obtain ⟨first', rest', hl, h'⟩ := exists_of_argmax hmax
    rw [h.unique h' hl]

theorem argmax_filter_eq_some_iff {p : α → Bool} : (l.filter p).argmax f = some m ↔
    ∃ first rest, l = first ++ m :: rest ∧ p m = true ∧
      (∀ a ∈ first, p a = true → f a < f m) ∧ ∀ a ∈ rest, p a = true → f a ≤ f m := by
  rw [argmax_eq_some_iff_split]
  constructor
  · rintro ⟨first, rest, hl, hfirst, hrest⟩
    obtain ⟨l₁, l', rfl, rfl, htail⟩ := List.filter_eq_append_iff.mp hl
    obtain ⟨l₂, l₃, rfl, hnone, hm, rfl⟩ := List.filter_eq_cons_iff.mp htail
    refine ⟨l₁ ++ l₂, l₃, by simp, hm, ?_, fun a ha hp ↦ hrest a (List.mem_filter.mpr ⟨ha, hp⟩)⟩
    intro a ha hp
    rcases List.mem_append.mp ha with ha | ha
    · exact hfirst a (List.mem_filter.mpr ⟨ha, hp⟩)
    · exact absurd hp (hnone a ha)
  · rintro ⟨first, rest, rfl, hm, hfirst, hrest⟩
    refine ⟨first.filter p, rest.filter p, ?_, ?_, ?_⟩
    · rw [List.filter_append, List.filter_cons_of_pos hm]
    · intro a ha
      exact hfirst a (List.mem_filter.mp ha).1 (List.mem_filter.mp ha).2
    · intro a ha
      exact hrest a (List.mem_filter.mp ha).1 (List.mem_filter.mp ha).2

end EmbodiedAgent.Library.Brackets
