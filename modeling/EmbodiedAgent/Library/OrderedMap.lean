import Mathlib.Algebra.Order.Group.Abs
import Mathlib.Data.List.DropRight
import Mathlib.Data.List.Sort

namespace EmbodiedAgent.Library

/-- A map whose entries are in the order of their keys. -/
structure OrderedMap (κ α : Type*) [LinearOrder κ] where
  entries : List (κ × α)
  sorted : entries.Pairwise fun e e' ↦ e.1 < e'.1

namespace OrderedMap

variable {κ α : Type*} [LinearOrder κ]

def empty : OrderedMap κ α := ⟨[], .nil⟩

def size (m : OrderedMap κ α) : ℕ := m.entries.length

def find (m : OrderedMap κ α) (k : κ) : Option α := m.entries.lookup k

def place (k : κ) (v : α) : List (κ × α) → List (κ × α)
  | [] => [(k, v)]
  | e :: l =>
    if k < e.1 then (k, v) :: e :: l else if k = e.1 then (k, v) :: l else e :: place k v l

variable {k : κ} {v : α} {e : κ × α} {l : List (κ × α)} {m m' : OrderedMap κ α}

theorem mem_place (hl : l.Pairwise fun e e' ↦ e.1 < e'.1) :
    e ∈ place k v l ↔ e = (k, v) ∨ e ∈ l ∧ e.1 ≠ k := by
  induction l with
  | nil => simp [place]
  | cons d l ih =>
    obtain ⟨hfirst, hrest⟩ := List.pairwise_cons.mp hl
    have hlater : ∀ x ∈ l, k ≤ d.1 → x.1 ≠ k := fun x hx hle ↦ (hle.trans_lt (hfirst x hx)).ne'
    rw [place]
    split_ifs with hlt heq
    · have hkept : ∀ x ∈ d :: l, x.1 ≠ k := by
        rintro x hx
        rcases List.mem_cons.mp hx with rfl | hx
        · exact hlt.ne'
        · exact hlater x hx hlt.le
      rw [List.mem_cons]
      exact or_congr_right ⟨fun he ↦ ⟨he, hkept e he⟩, And.left⟩
    · rw [List.mem_cons, List.mem_cons]
      refine or_congr_right ⟨fun he ↦ ⟨.inr he, hlater e he heq.le⟩, ?_⟩
      rintro ⟨rfl | he, hne⟩
      · exact absurd heq.symm hne
      · exact he
    · rw [List.mem_cons, List.mem_cons, ih hrest]
      constructor
      · rintro (rfl | rfl | ⟨he, hne⟩)
        · exact .inr ⟨.inl rfl, fun h ↦ heq h.symm⟩
        · exact .inl rfl
        · exact .inr ⟨.inr he, hne⟩
      · rintro (rfl | ⟨rfl | he, hne⟩)
        · exact .inr (.inl rfl)
        · exact .inl rfl
        · exact .inr (.inr ⟨he, hne⟩)

theorem place_sorted (k : κ) (v : α) (hl : l.Pairwise fun e e' ↦ e.1 < e'.1) :
    (place k v l).Pairwise fun e e' ↦ e.1 < e'.1 := by
  induction l with
  | nil => exact List.pairwise_singleton _ _
  | cons d l ih =>
    obtain ⟨hfirst, hrest⟩ := List.pairwise_cons.mp hl
    rw [place]
    split_ifs with hlt heq
    · refine List.pairwise_cons.mpr ⟨?_, hl⟩
      rintro x hx
      rcases List.mem_cons.mp hx with rfl | hx
      · exact hlt
      · exact hlt.trans (hfirst x hx)
    · exact List.pairwise_cons.mpr ⟨fun x hx ↦ heq ▸ hfirst x hx, hrest⟩
    · refine List.pairwise_cons.mpr ⟨?_, ih hrest⟩
      intro x hx
      rcases (mem_place hrest).mp hx with rfl | ⟨hx, -⟩
      · exact lt_of_le_of_ne (not_lt.mp hlt) (Ne.symm heq)
      · exact hfirst x hx

def insert (m : OrderedMap κ α) (k : κ) (v : α) : OrderedMap κ α :=
  ⟨place k v m.entries, place_sorted k v m.sorted⟩

def erase (m : OrderedMap κ α) (k : κ) : OrderedMap κ α :=
  ⟨m.entries.filter fun e ↦ e.1 ≠ k, m.sorted.filter _⟩

@[simp] theorem mem_insert :
    e ∈ (m.insert k v).entries ↔ e = (k, v) ∨ e ∈ m.entries ∧ e.1 ≠ k :=
  mem_place m.sorted

theorem keys_nodup (m : OrderedMap κ α) : (m.entries.map Prod.fst).Nodup :=
  List.pairwise_map.mpr (m.sorted.imp fun h ↦ h.ne)

theorem eq_of_key_eq {e' : κ × α} (he : e ∈ m.entries) (he' : e' ∈ m.entries)
    (hkey : e.1 = e'.1) : e = e' :=
  List.inj_on_of_nodup_map m.keys_nodup he he' hkey

theorem eq_of_mem_iff (h : ∀ e, e ∈ m.entries ↔ e ∈ m'.entries) : m = m' := by
  have hperm : m.entries.Perm m'.entries :=
    (List.perm_ext_iff_of_nodup m.keys_nodup.of_map m'.keys_nodup.of_map).mpr h
  have heq : m.entries = m'.entries := by
    refine hperm.eq_of_pairwise ?_ m.sorted m'.sorted
    intro e e' _ _ hlt hgt
    exact absurd hlt hgt.asymm
  cases m
  cases m'
  cases heq
  rfl

theorem find_eq_none : m.find k = none ↔ ∀ e ∈ m.entries, e.1 ≠ k := by
  rw [find, List.lookup_eq_none_iff]
  simp only [bne_iff_ne, ne_comm]

/-- The entries before `std::map::lower_bound`. -/
def below (m : OrderedMap κ α) (k : κ) : List (κ × α) := m.entries.takeWhile fun e ↦ e.1 < k

/-- The entries from `std::map::lower_bound` on. -/
def onward (m : OrderedMap κ α) (k : κ) : List (κ × α) := m.entries.dropWhile fun e ↦ e.1 < k

theorem below_append_onward (m : OrderedMap κ α) (k : κ) :
    m.below k ++ m.onward k = m.entries :=
  List.takeWhile_append_dropWhile

theorem lt_of_mem_below (h : e ∈ m.below k) : e.1 < k := by
  simpa using List.mem_takeWhile_imp h

theorem le_of_mem_onward (h : e ∈ m.onward k) : k ≤ e.1 := by
  have hsorted : (m.onward k).Pairwise fun e e' ↦ e.1 < e'.1 :=
    m.sorted.sublist (List.dropWhile_sublist _)
  cases honward : m.onward k with
  | nil => simp [honward] at h
  | cons d l =>
    have hfirst : k ≤ d.1 := by
      have hnot := List.head?_dropWhile_not (fun e : κ × α ↦ decide (e.1 < k)) m.entries
      rw [show m.entries.dropWhile (fun e ↦ decide (e.1 < k)) = d :: l from honward] at hnot
      simpa using hnot
    rw [honward] at h hsorted
    rcases List.mem_cons.mp h with rfl | h
    · exact hfirst
    · exact hfirst.trans ((List.pairwise_cons.mp hsorted).1 e h).le

theorem cut_eq {pre post : List (κ × α)} (h : m.entries = pre ++ (k, v) :: post) :
    m.below k = pre ∧ m.onward k = (k, v) :: post := by
  have hsorted := m.sorted
  rw [h, List.pairwise_append] at hsorted
  have hpre : ∀ e ∈ pre, decide (e.1 < k) = true := by
    intro e he
    simpa using hsorted.2.2 e he (k, v) (by simp)
  rw [below, onward, h]
  constructor
  · rw [List.takeWhile_append_of_pos hpre]
    simp
  · rw [List.dropWhile_append_of_pos hpre]
    simp

variable [AddCommGroup κ] [IsOrderedAddMonoid κ]

def nearest (m : OrderedMap κ α) (k : κ) : Option (κ × α) :=
  match (m.below k).getLast?, (m.onward k).head? with
  | none, after => after
  | some before, none => some before
  | some before, some after =>
    if |before.1 - k| ≤ |after.1 - k| then some before else some after

theorem below_getLast {before : κ × α} (h : (m.below k).getLast? = some before)
    (he : e ∈ m.below k) : |before.1 - k| ≤ |e.1 - k| := by
  obtain ⟨l, hl⟩ := List.getLast?_eq_some_iff.mp h
  have hsorted : (m.below k).Pairwise fun e e' ↦ e.1 < e'.1 :=
    m.sorted.sublist (List.takeWhile_sublist _)
  have hle : e.1 ≤ before.1 := by
    rw [hl] at he hsorted
    rcases List.mem_append.mp he with he | he
    · exact ((List.pairwise_append.mp hsorted).2.2 e he before (by simp)).le
    · rw [List.mem_singleton.mp he]
  have hbefore : before.1 < k := lt_of_mem_below (List.mem_of_getLast? h)
  rw [abs_of_nonpos (sub_nonpos.mpr hbefore.le),
    abs_of_nonpos (sub_nonpos.mpr (hle.trans hbefore.le))]
  exact neg_le_neg (sub_le_sub_right hle k)

theorem onward_head {after : κ × α} (h : (m.onward k).head? = some after)
    (he : e ∈ m.onward k) : |after.1 - k| ≤ |e.1 - k| := by
  obtain ⟨l, hl⟩ := List.head?_eq_some_iff.mp h
  have hsorted : (m.onward k).Pairwise fun e e' ↦ e.1 < e'.1 :=
    m.sorted.sublist (List.dropWhile_sublist _)
  have hafter : k ≤ after.1 := le_of_mem_onward (List.mem_of_mem_head? h)
  have hle : after.1 ≤ e.1 := by
    rw [hl] at he hsorted
    rcases List.mem_cons.mp he with rfl | he
    · exact le_rfl
    · exact ((List.pairwise_cons.mp hsorted).1 e he).le
  rw [abs_of_nonneg (sub_nonneg.mpr hafter), abs_of_nonneg (sub_nonneg.mpr (hafter.trans hle))]
  exact sub_le_sub_right hle k

theorem nearest_le (h : m.nearest k = some e) :
    e ∈ m.entries ∧ ∀ e' ∈ m.entries, |e.1 - k| ≤ |e'.1 - k| := by
  rw [← m.below_append_onward k]
  simp only [List.mem_append]
  unfold nearest at h
  split at h
  next hbelow =>
    have hnone : m.below k = [] := List.getLast?_eq_none_iff.mp hbelow
    refine ⟨.inr (List.mem_of_mem_head? h), ?_⟩
    rintro e' (he' | he')
    · simp [hnone] at he'
    · exact onward_head h he'
  next before hbelow honward =>
    obtain rfl := Option.some.inj h
    have hnone : m.onward k = [] := List.head?_eq_none_iff.mp honward
    refine ⟨.inl (List.mem_of_getLast? hbelow), ?_⟩
    rintro e' (he' | he')
    · exact below_getLast hbelow he'
    · simp [hnone] at he'
  next before after hbelow honward =>
    have hmem : before ∈ m.below k := List.mem_of_getLast? hbelow
    have hmem' : after ∈ m.onward k := List.mem_of_mem_head? honward
    split_ifs at h with hle
    · obtain rfl := Option.some.inj h
      refine ⟨.inl hmem, ?_⟩
      rintro e' (he' | he')
      · exact below_getLast hbelow he'
      · exact hle.trans (onward_head honward he')
    · obtain rfl := Option.some.inj h
      refine ⟨.inr hmem', ?_⟩
      rintro e' (he' | he')
      · exact (not_le.mp hle).le.trans (below_getLast hbelow he')
      · exact onward_head honward he'

omit [IsOrderedAddMonoid κ] in
theorem nearest_eq_none (h : m.nearest k = none) : m.entries = [] := by
  rw [← m.below_append_onward k]
  unfold nearest at h
  split at h
  next hbelow => rw [List.getLast?_eq_none_iff.mp hbelow, List.head?_eq_none_iff.mp h]; rfl
  next => exact absurd h (by simp)
  next => split_ifs at h

theorem nearest_of_mem (h : (k, v) ∈ m.entries) : m.nearest k = some (k, v) := by
  cases hnearest : m.nearest k with
  | none => simp [nearest_eq_none hnearest] at h
  | some e =>
    obtain ⟨hmem, hle⟩ := nearest_le hnearest
    have hzero : |e.1 - k| ≤ 0 := by simpa using hle (k, v) h
    have hkey : e.1 = k := sub_eq_zero.mp (abs_nonpos_iff.mp hzero)
    rw [eq_of_key_eq hmem h hkey]

end OrderedMap

end EmbodiedAgent.Library
