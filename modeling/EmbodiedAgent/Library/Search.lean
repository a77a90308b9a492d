import EmbodiedAgent.Library.Text

namespace EmbodiedAgent.Library

abbrev Chars := List Char

instance (priority := 2000) Chars.decidableBAll (p : Char → Prop) [DecidablePred p]
    (text : Chars) : Decidable (∀ c ∈ text, p c) :=
  List.decidableBAll p text

/-- The character tables of the platform: lower case, and decimal digits. -/
structure Unicode where
  lower : Chars → Chars
  digit : Char → Option ℕ

namespace Search

theorem prefix_append_iff {α : Type*} {p l u : List α} (hl : p.length ≤ l.length) : p <+: l ++ u ↔
    p <+: l := by
  constructor
  · intro h
    exact List.prefix_of_prefix_length_le h (List.prefix_append l u) hl
  · intro h
    exact h.trans (List.prefix_append l u)

theorem length_sub_append {α : Type*} (l u : List α) (k : ℕ) : (l ++ u).length - k =
      (l.length - k) + (((l ++ u).drop (l.length - k)).length - k) := by
  simp only [List.length_drop, List.length_append]
  omega

theorem drop_append_left {α : Type*} (l u : List α) (k : ℕ) :
    l.drop (l.length - k) ++ u = (l ++ u).drop (l.length - k) :=
  (List.drop_append_of_le_length (Nat.sub_le ..)).symm

variable {α : Type*} [DecidableEq α]

def find (pattern : List α) : List α → Option ℕ
  | [] => if pattern = [] then some 0 else none
  | a :: l => if pattern <+: a :: l then some 0 else (find pattern l).map (· + 1)

section Occurrences

variable {p l u : List α} {i k : ℕ}

theorem prefix_of_find (h : find p l = some i) : p <+: l.drop i := by
  induction l generalizing i with
  | nil =>
    simp only [find] at h
    split_ifs at h with hp
    rw [hp]
    exact List.nil_prefix
  | cons a l ih =>
    simp only [find] at h
    split_ifs at h with hp
    · obtain rfl := Option.some.inj h
      exact hp
    · obtain ⟨j, hj, rfl⟩ := Option.map_eq_some_iff.mp h
      exact ih hj

theorem find_eq_none : find p l = none ↔ ¬ p <:+: l := by
  induction l with
  | nil => simp [find]
  | cons a l ih =>
    rw [List.infix_cons_iff]
    simp only [find]
    split_ifs with hp
    · simp [hp]
    · simp [hp, ih]

theorem find_length (h : find p l = some i) : i + p.length ≤ l.length := by
  induction l generalizing i with
  | nil =>
    simp only [find] at h
    split_ifs at h with hp
    obtain rfl := Option.some.inj h
    simp [hp]
  | cons a l ih =>
    simp only [find] at h
    split_ifs at h with hp
    · obtain rfl := Option.some.inj h
      simpa using hp.length_le
    · obtain ⟨j, hj, rfl⟩ := Option.map_eq_some_iff.mp h
      have hlength := ih hj
      simp only [List.length_cons]
      omega

theorem find_append (h : find p l = some i) : find p (l ++ u) = some i := by
  induction l generalizing i with
  | nil =>
    simp only [find] at h
    split_ifs at h with hp
    obtain rfl := Option.some.inj h
    subst hp
    cases u <;> simp [find]
  | cons a l ih =>
    simp only [find] at h
    simp only [List.cons_append, find]
    split_ifs at h with hp
    · have hmore : p <+: a :: (l ++ u) := hp.trans ⟨u, by simp⟩
      rw [if_pos hmore]
      exact h
    · obtain ⟨j, hj, rfl⟩ := Option.map_eq_some_iff.mp h
      have hlength := find_length hj
      have hmore : ¬ p <+: a :: (l ++ u) := by
        rw [← List.cons_append, prefix_append_iff (by simp only [List.length_cons]; omega)]
        exact hp
      rw [if_neg hmore, ih hj]
      rfl

theorem find_append_of_none (hk : p.length ≤ k + 1) (h : find p l = none) : find p (l ++ u) =
      (find p (l.drop (l.length - k) ++ u)).map (· + (l.length - k)) := by
  induction l with
  | nil => simp
  | cons a l ih =>
    by_cases hl : k ≤ l.length
    · simp only [find] at h
      split_ifs at h with hp
      have hmore : ¬ p <+: a :: (l ++ u) := by
        rw [← List.cons_append, prefix_append_iff (by simp only [List.length_cons]; omega)]
        exact hp
      have hcut : (a :: l).length - k = l.length - k + 1 := by
        simp only [List.length_cons]
        omega
      rw [hcut, List.drop_succ_cons, List.cons_append, find, if_neg hmore,
        ih (Option.map_eq_none_iff.mp h), Option.map_map]
      rfl
    · have hcut : (a :: l).length - k = 0 := by
        simp only [List.length_cons]
        omega
      rw [hcut, List.drop_zero]
      simp

end Occurrences

def replaceFrom (old new : List α) : ℕ → List α → List α
  | _, [] => []
  | skip + 1, _ :: l => replaceFrom old new skip l
  | 0, a :: l =>
    if old <+: a :: l then new ++ replaceFrom old new (old.length - 1) l
    else a :: replaceFrom old new 0 l

/-- `str.replace` of a text that is not empty. -/
def replace (old new l : List α) : List α := replaceFrom old new 0 l

theorem replace_of_not_infix {old l : List α} (h : ¬ old <:+: l) (new : List α) :
    replace old new l = l := by
  unfold replace
  induction l with
  | nil => rfl
  | cons a l ih =>
    rw [List.infix_cons_iff, not_or] at h
    rw [replaceFrom, if_neg h.1, ih h.2]

def contains (text : Chars) (word : String) : Bool := (find word.toList text).isSome

def containsAny (text : Chars) (words : List String) : Bool := words.any (contains text)

theorem contains_iff {text : Chars} {word : String} :
    contains text word = true ↔ word.toList <:+: text := by
  rw [contains, Option.isSome_iff_ne_none, ne_eq, find_eq_none, not_not]

end EmbodiedAgent.Library.Search
