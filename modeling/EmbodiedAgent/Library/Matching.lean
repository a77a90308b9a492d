import Mathlib.Data.List.Infix

namespace EmbodiedAgent.Library.Matching

variable {α : Type*}

abbrev Pattern (α : Type*) := List α → List (List α)

def one (p : α → Bool) : Pattern α
  | [] => []
  | a :: l => if p a then [l] else []

def many (p : α → Bool) : Pattern α
  | [] => [[]]
  | a :: l => if p a then many p l ++ [a :: l] else [a :: l]

def seq (first next : Pattern α) : Pattern α := fun l ↦ (first l).flatMap next

def either (first second : Pattern α) : Pattern α := fun l ↦ first l ++ second l

def optionally (pattern : Pattern α) : Pattern α := either pattern fun l ↦ [l]

def oneOrMore (p : α → Bool) : Pattern α := seq (one p) (many p)

def word [DecidableEq α] (w : List α) : Pattern α := fun l ↦
  if w <+: l then [l.drop w.length] else []

/-- `(?!…)` -/
def notBefore (pattern : Pattern α) : Pattern α := fun l ↦ if (pattern l).isEmpty then [l] else []

structure Hit (α : Type*) where
  value : List α
  rest : List α

def capture (before value after : Pattern α) (l : List α) : Option (Hit α) :=
  ((before l).flatMap fun m ↦ (value m).flatMap fun r ↦
    (after r).map fun rest ↦ ⟨m.take (m.length - r.length), rest⟩).head?

/-- What a match captured and where it starts and stops. -/
structure Found (α : Type*) where
  value : List α
  start : ℕ
  stop : ℕ

def findFrom (pattern : List α → Option (Hit α)) : ℕ → ℕ → List α → List (Found α)
  | _, _, [] => []
  | skip + 1, i, _ :: l => findFrom pattern skip (i + 1) l
  | 0, i, a :: l =>
    match pattern (a :: l) with
    | none => findFrom pattern 0 (i + 1) l
    | some hit =>
      { value := hit.value, start := i, stop := i + ((a :: l).length - hit.rest.length) } ::
        findFrom pattern ((a :: l).length - hit.rest.length - 1) (i + 1) l

def findIter (pattern : List α → Option (Hit α)) (l : List α) : List (Found α) :=
  findFrom pattern 0 0 l

/-- `re.search` -/
def search (pattern : List α → Option (Hit α)) (l : List α) : Option (Found α) :=
  (findIter pattern l).head?

variable {p : α → Bool} {a : α} {d l m : List α}

@[simp] theorem one_nil : one p [] = [] := rfl

theorem one_of_not (h : p a = false) : one p (a :: l) = [] := by
  rw [one, if_neg (by simp [h])]

theorem one_of (h : p a = true) : one p (a :: l) = [l] := by
  rw [one, if_pos h]

theorem oneOrMore_of_not (h : p a = false) : oneOrMore p (a :: l) = [] := by
  rw [oneOrMore, seq, one_of_not h, List.flatMap_nil]

theorem many_of_not (h : p a = false) : many p (a :: l) = [a :: l] := by
  rw [many, if_neg (by simp [h])]

theorem flatMap_many {β : Type*} {next : List α → List β}
    (hnext : ∀ a ∈ d, ∀ l, next (a :: l) = []) (hd : ∀ a ∈ d, p a = true)
    (hl : ∀ a, l.head? = some a → p a = false) : (many p (d ++ l)).flatMap next = next l := by
  induction d with
  | nil =>
    cases l with
    | nil => simp [many]
    | cons a l =>
      rw [List.nil_append, many_of_not (hl a rfl)]
      simp
  | cons a d ih =>
    have ha := hd a (.head _)
    rw [List.cons_append, many, if_pos ha, List.flatMap_append,
      ih (fun b hb ↦ hnext b (.tail _ hb)) fun b hb ↦ hd b (.tail _ hb)]
    simp [hnext a (.head _) (d ++ l)]

theorem flatMap_oneOrMore {β : Type*} {next : List α → List β}
    (hnext : ∀ a ∈ d, ∀ l, next (a :: l) = []) (hne : d ≠ []) (hd : ∀ a ∈ d, p a = true)
    (hl : ∀ a, l.head? = some a → p a = false) : (oneOrMore p (d ++ l)).flatMap next = next l := by
  cases d with
  | nil => exact absurd rfl hne
  | cons a d =>
    rw [List.cons_append, oneOrMore, seq, one_of (hd a (.head _))]
    simp only [List.flatMap_cons, List.flatMap_nil, List.append_nil]
    exact flatMap_many (fun b hb ↦ hnext b (.tail _ hb)) (fun b hb ↦ hd b (.tail _ hb)) hl

variable {pattern : List α → Option (Hit α)} {i : ℕ}

theorem findFrom_nil (skip : ℕ) : findFrom pattern skip i [] = [] := by
  cases skip <;> rfl

theorem findFrom_of_none (h : pattern (a :: l) = none) :
    findFrom pattern 0 i (a :: l) = findFrom pattern 0 (i + 1) l := by
  rw [findFrom, h]

theorem findFrom_append (h : ∀ t, t ≠ [] → t <:+ d → pattern (t ++ l) = none) :
    findFrom pattern 0 i (d ++ l) = findFrom pattern 0 (i + d.length) l := by
  induction d generalizing i with
  | nil => rfl
  | cons a d ih =>
    have hnone : pattern (a :: (d ++ l)) = none := h (a :: d) (by simp) (List.suffix_refl _)
    rw [List.cons_append, findFrom_of_none hnone,
      ih fun t hne ht ↦ h t hne (ht.trans (List.suffix_cons a d)), List.length_cons]
    congr 1
    omega

theorem findFrom_skip (d l : List α) (i : ℕ) :
    findFrom pattern d.length i (d ++ l) = findFrom pattern 0 (i + d.length) l := by
  induction d generalizing i with
  | nil => rfl
  | cons a d ih =>
    rw [List.length_cons, List.cons_append, findFrom, ih]
    congr 1
    omega

theorem findFrom_hit (hne : d ≠ []) (h : pattern (d ++ l) = some ⟨m, l⟩) :
    findFrom pattern 0 i (d ++ l) =
      ⟨m, i, i + d.length⟩ :: findFrom pattern 0 (i + d.length) l := by
  cases d with
  | nil => exact absurd rfl hne
  | cons a d =>
    have hlength : (a :: (d ++ l)).length - l.length = d.length + 1 := by
      simp only [List.length_cons, List.length_append]
      omega
    have hstop : i + 1 + d.length = i + (d.length + 1) := by omega
    rw [List.cons_append] at h ⊢
    rw [findFrom, h]
    dsimp only
    rw [hlength, Nat.add_sub_cancel, findFrom_skip, hstop, List.length_cons]

end EmbodiedAgent.Library.Matching
