import EmbodiedAgent.Agent.CommandFallback
import Mathlib.Data.List.Lemmas

namespace EmbodiedAgent.Agent.NavigationPhrases

open Library Search

def position (u : Unicode) (normalized : Chars) (place : String) : Option ℕ :=
  (placeAliases.lookup place).bind (·.findSome? (findAlias u normalized))

structure Mention where
  before : Chars
  place : String
  spelling : String

def Mention.text (u : Unicode) (m : Mention) : Chars := m.before ++ u.lower m.spelling.toList

def Mention.Listed (m : Mention) : Prop :=
  ∃ row ∈ placeAliases, row.1 = m.place ∧ m.spelling ∈ row.2

instance (m : Mention) : Decidable m.Listed :=
  inferInstanceAs (Decidable (∃ row ∈ placeAliases, row.1 = m.place ∧ m.spelling ∈ row.2))

def AliasFree (u : Unicode) (text : Chars) : Prop :=
  ∀ row ∈ placeAliases, ∀ spelling ∈ row.2, findAlias u text spelling = none

instance (u : Unicode) (text : Chars) : Decidable (AliasFree u text) :=
  inferInstanceAs (Decidable (∀ row ∈ placeAliases, ∀ spelling ∈ row.2,
    findAlias u text spelling = none))

/-- A normalized utterance: aliases of places, and between them text without any. -/
structure Utterance (u : Unicode) where
  mentions : List Mention
  after : Chars
  listed : ∀ m ∈ mentions, m.Listed
  separated : ∀ m ∈ mentions, AliasFree u m.before
  ended : AliasFree u after

namespace Utterance

variable {u : Unicode} (w : Utterance u)

def text : Chars := w.mentions.flatMap (Mention.text u) ++ w.after

/-- The places in the order of mention. -/
def route : List String := compress (w.mentions.map Mention.place)

/-- The places are looked for in the order of mention, and no other place is found. -/
structure Aligned : Prop where
  ordered : w.route.Pairwise fun p q ↦
    ∀ i ∈ position u w.text p, ∀ j ∈ position u w.text q, i < j
  mentioned : ∀ row ∈ placeAliases, (position u w.text row.1).isSome → row.1 ∈ w.route

end Utterance

def Apart (u : Unicode) (text : Chars) : Prop :=
  ∀ i < text.length, ∀ row ∈ placeAliases, ∀ spelling ∈ row.2,
    u.lower spelling.toList <+: text.drop i → ∀ j < i + (u.lower spelling.toList).length, i ≤ j →
      ∀ row' ∈ placeAliases, ∀ spelling' ∈ row'.2,
        u.lower spelling'.toList <+: text.drop j → row.1 = row'.1

instance (u : Unicode) (text : Chars) : Decidable (Apart u text) :=
  inferInstanceAs (Decidable (∀ i < text.length, _))

/-- `str.lower` makes the letters of the table small. -/
def LowersAliases (u : Unicode) : Prop :=
  ∀ row ∈ placeAliases, ∀ spelling ∈ row.2,
    u.lower spelling.toList = spelling.toList.map Char.toLower

theorem places_nodup : (placeAliases.map Prod.fst).Nodup := by decide

theorem lookup_row : ∀ row ∈ placeAliases, placeAliases.lookup row.1 = some row.2 := by decide

theorem aliases_apart : ∀ row ∈ placeAliases, ∀ row' ∈ placeAliases, row.1 ≠ row'.1 →
    ∀ spelling ∈ row.2, ∀ spelling' ∈ row'.2,
      ¬ spelling.toList.map Char.toLower <+: spelling'.toList.map Char.toLower := by
  decide +kernel

section Found

variable {u : Unicode} {normalized : Chars} {p q : String} {i : ℕ}

theorem compress_eq_self {l : List String} (h : l.Nodup) : compress l = l := by
  induction l with
  | nil => rfl
  | cons p l ih =>
    cases l with
    | nil => rfl
    | cons q l =>
      have hne : p ≠ q := fun heq ↦ (List.nodup_cons.mp h).1 (heq ▸ .head l)
      rw [compress, if_neg hne, ih h.of_cons]

theorem mem_compress {l : List String} : p ∈ compress l ↔ p ∈ l := by
  induction l with
  | nil => rfl
  | cons q l ih =>
    cases l with
    | nil => rfl
    | cons r l =>
      rw [compress]
      split_ifs with heq
      · rw [ih, heq]
        constructor
        · exact List.mem_cons_of_mem r
        · intro h
          rcases List.mem_cons.mp h with hp | h
          · exact hp ▸ .head l
          · exact h
      · rw [List.mem_cons, ih, List.mem_cons (b := q)]

open scoped List in
theorem pair_sublist_compress {l : List String} (hne : p ≠ q) (h : [p, q] <+ l) :
    [p, q] <+ compress l := by
  induction l with
  | nil => exact h
  | cons r l ih =>
    cases l with
    | nil => exact h
    | cons s l =>
      rw [compress]
      split_ifs with heq
      · refine ih ?_
        subst heq
        rcases List.sublist_cons_iff.mp h with h | ⟨tail, htail, h⟩
        · exact h
        · obtain ⟨rfl, rfl⟩ := List.cons.inj htail
          refine List.Sublist.cons_cons p (List.singleton_sublist.mpr ?_)
          exact (List.mem_cons.mp (h.subset (.head []))).resolve_left hne.symm
      · rcases List.sublist_cons_iff.mp h with h | ⟨tail, htail, h⟩
        · exact (ih h).cons r
        · obtain ⟨rfl, rfl⟩ := List.cons.inj htail
          refine List.Sublist.cons_cons p (List.singleton_sublist.mpr (mem_compress.mpr ?_))
          exact h.subset (.head [])

open scoped List in
theorem not_sublist_swap {l : List String} (hl : l.Nodup) (h : [p, q] <+ l) : ¬ [q, p] <+ l := by
  induction l with
  | nil => cases h
  | cons r l ih =>
    intro h'
    obtain ⟨hr, hl⟩ := List.nodup_cons.mp hl
    rcases List.sublist_cons_iff.mp h with hkept | ⟨tail, htail, hkept⟩
    · rcases List.sublist_cons_iff.mp h' with hkept' | ⟨tail', htail', -⟩
      · exact ih hl hkept hkept'
      · refine hr ?_
        rw [← (List.cons.inj htail').1]
        exact hkept.subset (.tail p (.head []))
    · obtain ⟨rfl, rfl⟩ := List.cons.inj htail
      refine hr ?_
      rcases List.sublist_cons_iff.mp h' with hkept' | ⟨tail', htail', hkept'⟩
      · exact hkept'.subset (.tail q (.head []))
      · obtain ⟨-, rfl⟩ := List.cons.inj htail'
        exact hkept'.subset (.head [])

theorem position_some (h : position u normalized p = some i) : ∃ row ∈ placeAliases, row.1 = p ∧
    ∃ spelling ∈ row.2, u.lower spelling.toList <+: normalized.drop i := by
  obtain ⟨aliases, hlookup, hfound⟩ := Option.bind_eq_some_iff.mp h
  obtain ⟨spelling, hspelling, hfind⟩ := List.exists_of_findSome?_eq_some hfound
  obtain ⟨front, back, htable, -⟩ := List.lookup_eq_some_iff.mp hlookup
  refine ⟨(p, aliases), ?_, rfl, spelling, hspelling, prefix_of_find hfind⟩
  rw [htable]
  exact List.mem_append_right front (.head back)

theorem position_inj (hu : LowersAliases u) (hp : position u normalized p = some i)
    (hq : position u normalized q = some i) : p = q := by
  obtain ⟨row, hrow, rfl, spelling, hspelling, hprefix⟩ := position_some hp
  obtain ⟨row', hrow', rfl, spelling', hspelling', hprefix'⟩ := position_some hq
  rw [hu row hrow spelling hspelling] at hprefix
  rw [hu row' hrow' spelling' hspelling'] at hprefix'
  by_contra hne
  rcases List.prefix_or_prefix_of_prefix hprefix hprefix' with h | h
  · exact aliases_apart row hrow row' hrow' hne spelling hspelling spelling' hspelling' h
  · exact aliases_apart row' hrow' row hrow (Ne.symm hne) spelling' hspelling' spelling hspelling h

def foundPlaces (u : Unicode) (normalized : Chars) : List (ℕ × String) :=
  placeAliases.filterMap fun row ↦
    (position u normalized row.1).map fun index ↦ (index, row.1)

theorem mem_foundPlaces {found : ℕ × String} : found ∈ foundPlaces u normalized ↔
    position u normalized found.2 = some found.1 := by
  rw [foundPlaces, List.mem_filterMap]
  constructor
  · rintro ⟨row, -, hrow⟩
    obtain ⟨index, hindex, rfl⟩ := Option.map_eq_some_iff.mp hrow
    exact hindex
  · intro h
    obtain ⟨row, hrow, hplace, -⟩ := position_some h
    refine ⟨row, hrow, ?_⟩
    rw [hplace, h]
    rfl

theorem foundPlaces_nodup : ((foundPlaces u normalized).map Prod.snd).Nodup := by
  refine List.Sublist.nodup ?_ places_nodup
  rw [foundPlaces]
  generalize placeAliases = table
  induction table with
  | nil => exact List.nil_sublist _
  | cons row table ih =>
    rw [List.map_cons, List.filterMap_cons]
    cases position u normalized row.1 with
    | none => exact ih.cons row.1
    | some index => exact ih.cons_cons row.1

def orderedPlaces (u : Unicode) (normalized : Chars) : List String :=
  ((foundPlaces u normalized).mergeSort fun a b ↦ decide (a.1 ≤ b.1)).map Prod.snd

theorem orderedPlaces_perm :
    (orderedPlaces u normalized).Perm ((foundPlaces u normalized).map Prod.snd) :=
  (List.mergeSort_perm ..).map _

theorem orderedPlaces_nodup : (orderedPlaces u normalized).Nodup :=
  orderedPlaces_perm.nodup_iff.mpr foundPlaces_nodup

theorem mem_orderedPlaces : p ∈ orderedPlaces u normalized ↔ (position u normalized p).isSome := by
  rw [orderedPlaces_perm.mem_iff, List.mem_map, Option.isSome_iff_exists]
  constructor
  · rintro ⟨found, hfound, rfl⟩
    exact ⟨found.1, mem_foundPlaces.mp hfound⟩
  · rintro ⟨index, hindex⟩
    exact ⟨(index, p), mem_foundPlaces.mpr hindex, rfl⟩

theorem orderedPlaces_sorted (hu : LowersAliases u) :
    (orderedPlaces u normalized).Pairwise fun p q ↦
      ∀ i ∈ position u normalized p, ∀ j ∈ position u normalized q, i < j := by
  have hsorted : ((foundPlaces u normalized).mergeSort fun a b ↦ decide (a.1 ≤ b.1)).Pairwise
      fun a b ↦ decide (a.1 ≤ b.1) = true :=
    List.pairwise_mergeSort
      (fun a b c hab hbc ↦ decide_eq_true ((of_decide_eq_true hab).trans (of_decide_eq_true hbc)))
      (fun a b ↦ by simpa using le_total a.1 b.1) _
  have hdistinct : (orderedPlaces u normalized).Nodup := orderedPlaces_nodup
  rw [orderedPlaces, List.nodup_iff_pairwise_ne, List.pairwise_map] at hdistinct
  rw [orderedPlaces, List.pairwise_map]
  refine (hsorted.and hdistinct).imp_of_mem fun {a b} ha hb hab i hi j hj ↦ ?_
  have ha := mem_foundPlaces.mp (List.mem_mergeSort.mp ha)
  have hb := mem_foundPlaces.mp (List.mem_mergeSort.mp hb)
  obtain rfl := Option.some.inj (ha.symm.trans hi)
  obtain rfl := Option.some.inj (hb.symm.trans hj)
  refine lt_of_le_of_ne (of_decide_eq_true hab.1) fun heq ↦ hab.2 ?_
  exact position_inj hu ha (heq ▸ hb)

theorem extractWaypoints_eq (u : Unicode) (text : Chars) :
    extractWaypoints u text = orderedPlaces u (u.lower (normalizePlaceText text)) := by
  have hfound : foundPlaces u (u.lower (normalizePlaceText text)) = placeAliases.filterMap
      fun place ↦ (place.2.findSome? (findAlias u (u.lower (normalizePlaceText text)))).map
        fun index ↦ (index, place.1) :=
    List.filterMap_congr fun row hrow ↦ by rw [position, lookup_row row hrow]; rfl
  exact compress_eq_self orderedPlaces_nodup

end Found

namespace Utterance

open scoped List

variable {u : Unicode} {w : Utterance u} {text : Chars} {p : String}

theorem position_mentioned (hp : p ∈ w.route) : (position u w.text p).isSome := by
  obtain ⟨m, hm, rfl⟩ := List.mem_map.mp (mem_compress.mp hp)
  obtain ⟨row, hrow, hplace, hspelling⟩ := w.listed m hm
  rw [position, ← hplace, lookup_row row hrow, Option.bind_some, List.findSome?_isSome_iff]
  refine ⟨m.spelling, hspelling, ?_⟩
  rw [findAlias, Option.isSome_iff_ne_none, ne_eq, find_eq_none, not_not]
  obtain ⟨front, back, hmentions⟩ := List.append_of_mem hm
  rw [Utterance.text, hmentions, List.flatMap_append, List.flatMap_cons, Mention.text]
  exact ⟨front.flatMap (Mention.text u) ++ m.before, back.flatMap (Mention.text u) ++ w.after,
    by simp only [List.append_assoc]⟩

theorem extracted_iff_aligned (hu : LowersAliases u) (w : Utterance u) (text : Chars)
    (htext : u.lower (normalizePlaceText text) = w.text) :
    extractWaypoints u text = w.route ↔ w.route.Nodup ∧ w.Aligned := by
  rw [extractWaypoints_eq, htext]
  constructor
  · intro hroute
    refine ⟨hroute ▸ orderedPlaces_nodup, hroute ▸ orderedPlaces_sorted hu, fun row _ hfound ↦ ?_⟩
    rw [← hroute]
    exact mem_orderedPlaces.mpr hfound
  · rintro ⟨hnodup, haligned⟩
    refine List.Perm.eq_of_pairwise ?_ (orderedPlaces_sorted hu) haligned.ordered ?_
    · intro p q hp hq hpq hqp
      obtain ⟨i, hi⟩ := Option.isSome_iff_exists.mp (mem_orderedPlaces.mp hp)
      obtain ⟨j, hj⟩ := Option.isSome_iff_exists.mp (position_mentioned hq)
      exact absurd (hpq i hi j hj) (Nat.lt_asymm (hqp j hj i hi))
    · refine (List.perm_ext_iff_of_nodup orderedPlaces_nodup hnodup).mpr fun p ↦ ?_
      rw [mem_orderedPlaces]
      refine ⟨fun hfound ↦ ?_, position_mentioned⟩
      obtain ⟨i, hi⟩ := Option.isSome_iff_exists.mp hfound
      obtain ⟨row, hrow, rfl, -⟩ := position_some hi
      exact haligned.mentioned row hrow hfound

theorem occurrence_inside {row : String × List String} (hrow : row ∈ placeAliases)
    {spelling : String} (hspelling : spelling ∈ row.2) {i : ℕ} (hapart : Apart u text)
    (hoccurs : u.lower spelling.toList <+: text.drop i) (ms : List Mention) (after : Chars)
    (hlisted : ∀ m ∈ ms, m.Listed) (hseparated : ∀ m ∈ ms, AliasFree u m.before)
    (hended : AliasFree u after) (pre : Chars)
    (htext : text = pre ++ (ms.flatMap (Mention.text u) ++ after)) (hi : pre.length ≤ i) :
    ∃ front m back, ms = front ++ m :: back ∧ m.place = row.1 ∧
      pre.length + (front.flatMap (Mention.text u)).length ≤ i ∧
      i < pre.length + (front.flatMap (Mention.text u)).length + (m.text u).length := by
  induction ms generalizing pre with
  | nil =>
    refine absurd ?_ (find_eq_none.mp (hended row hrow spelling hspelling))
    rw [htext, List.drop_append, List.drop_of_length_le hi] at hoccurs
    exact hoccurs.isInfix.trans (List.drop_suffix _ after).isInfix
  | cons m ms ih =>
    obtain ⟨row', hrow', hplace, hspelling'⟩ := hlisted m (.head ms)
    have hlength : (m.text u).length = m.before.length + (u.lower m.spelling.toList).length :=
      List.length_append
    by_cases hin : i < pre.length + (m.text u).length
    swap
    · obtain ⟨front, m', back, hms, hplace', hlow, hhigh⟩ :=
        ih (fun m' hm' ↦ hlisted m' (.tail m hm')) (fun m' hm' ↦ hseparated m' (.tail m hm'))
          (pre ++ m.text u) (by rw [htext]; simp) (by rw [List.length_append]; omega)
      rw [List.length_append] at hlow hhigh
      refine ⟨m :: front, m', back, by rw [hms]; rfl, hplace', ?_, ?_⟩ <;>
        (rw [List.flatMap_cons, List.length_append]; omega)
    refine ⟨[], m, ms, rfl, ?_, by simpa using hi, by simpa using hin⟩
    have hsplit : text = pre ++ m.before ++
        (u.lower m.spelling.toList ++ (ms.flatMap (Mention.text u) ++ after)) := by
      rw [htext, List.flatMap_cons, Mention.text]
      simp only [List.append_assoc]
    have hstart : u.lower m.spelling.toList <+: text.drop (pre.length + m.before.length) := by
      rw [hsplit, List.drop_left' List.length_append]
      exact List.prefix_append _ _
    have htotal := congrArg List.length hsplit
    simp only [List.length_append] at htotal
    rw [← hplace]
    rcases le_or_gt (pre.length + m.before.length) i with hafter | hbefore
    · exact hapart _ (by omega) row' hrow' m.spelling hspelling' hstart i (by omega) hafter row hrow
        spelling hspelling hoccurs
    by_cases hgap : i + (u.lower spelling.toList).length ≤ pre.length + m.before.length
    · refine absurd ?_ (find_eq_none.mp (hseparated m (.head ms) row hrow spelling hspelling))
      rw [hsplit, List.append_assoc, List.drop_append, List.drop_of_length_le hi, List.nil_append,
        List.drop_append_of_le_length (by omega),
        prefix_append_iff (by rw [List.length_drop]; omega)] at hoccurs
      exact hoccurs.isInfix.trans (List.drop_suffix _ m.before).isInfix
    · exact (hapart i (by omega) row hrow spelling hspelling hoccurs _ (not_le.mp hgap) hbefore.le
        row' hrow' m.spelling hspelling' hstart).symm

theorem inside (hapart : Apart u w.text) {i : ℕ} (hp : position u w.text p = some i) :
    ∃ front m back, w.mentions = front ++ m :: back ∧ m.place = p ∧
      (front.flatMap (Mention.text u)).length ≤ i ∧
      i < (front.flatMap (Mention.text u)).length + (m.text u).length := by
  obtain ⟨row, hrow, rfl, spelling, hspelling, hoccurs⟩ := position_some hp
  obtain ⟨front, m, back, hm, hplace, hlow, hhigh⟩ :=
    occurrence_inside hrow hspelling hapart hoccurs
    w.mentions w.after w.listed w.separated w.ended [] rfl (Nat.zero_le i)
  rw [List.length_nil, Nat.zero_add] at hlow hhigh
  exact ⟨front, m, back, hm, hplace, hlow, hhigh⟩

theorem aligned_of_apart (hapart : Apart u w.text) (hroute : w.route.Nodup) : w.Aligned := by
  constructor
  · refine List.pairwise_iff_forall_sublist.mpr fun {p q} hpq i hi j hj ↦ ?_
    obtain ⟨front, m, back, hm, rfl, -, hlt⟩ := inside hapart hi
    obtain ⟨front', m', back', hm', rfl, hle, -⟩ := inside hapart hj
    have hne : m.place ≠ m'.place := by simpa using hpq.nodup hroute
    have hbefore : front.length < front'.length := by
      by_contra hge
      have hlength : front'.length < front.length := by
        refine lt_of_le_of_ne (not_lt.mp hge) fun heq ↦ hne ?_
        have hsame := List.append_inj (hm.symm.trans hm') heq.symm
        rw [(List.cons.inj hsame.2).1]
      have hsub : [m'.place, m.place] <+ w.mentions.map Mention.place := by
        have hfront : front' ++ [m'] <+: front := by
          have hmentions : front' ++ [m'] <+: w.mentions :=
            ⟨back', by rw [hm', List.append_assoc]; rfl⟩
          refine List.prefix_of_prefix_length_le hmentions ⟨m :: back, hm.symm⟩ ?_
          rw [List.length_append]
          exact hlength
        obtain ⟨middle, rfl⟩ := hfront
        rw [hm]
        simp
      exact absurd (pair_sublist_compress hne.symm hsub) (not_sublist_swap hroute hpq)
    have hfront : front ++ [m] <+: front' := by
      have hmentions : front ++ [m] <+: w.mentions := ⟨back, by rw [hm, List.append_assoc]; rfl⟩
      refine List.prefix_of_prefix_length_le hmentions ⟨m' :: back', hm'.symm⟩ ?_
      rw [List.length_append]
      exact hbefore
    obtain ⟨middle, rfl⟩ := hfront
    simp only [List.flatMap_append, List.length_append, List.flatMap_cons, List.flatMap_nil,
      List.append_nil] at hle
    omega
  · intro row hrow hfound
    obtain ⟨i, hi⟩ := Option.isSome_iff_exists.mp hfound
    obtain ⟨front, m, back, hm, hplace, -⟩ := inside hapart hi
    rw [← hplace]
    exact mem_compress.mpr (List.mem_map_of_mem (hm ▸ List.mem_append_right front (.head back)))

theorem route_extracted (hu : LowersAliases u) (w : Utterance u) (text : Chars)
    (htext : u.lower (normalizePlaceText text) = w.text) :
    (w.route.Nodup ∧ Apart u w.text → extractWaypoints u text = w.route) ∧
      (extractWaypoints u text = w.route → w.route.Nodup) := by
  have haligned := extracted_iff_aligned hu w text htext
  exact ⟨fun h ↦ haligned.mpr ⟨h.1, aligned_of_apart h.2 h.1⟩, fun h ↦ (haligned.mp h).1⟩

/-- The small letters of ASCII. -/
def asciiLower : Unicode := { lower := List.map Char.toLower, digit := fun _ ↦ none }

def doorThenKitchen : Utterance asciiLower where
  mentions := [⟨"先去".toList, "door", "门口"⟩, ⟨"到".toList, "door", "门边"⟩,
    ⟨"再去".toList, "kitchen", "厨房"⟩]
  after := "看看".toList
  listed := by decide
  separated := by decide +kernel
  ended := by decide +kernel

theorem doorThenKitchen_extracted :
    extractWaypoints asciiLower "先去门口，到门边，再去厨房看看。".toList = ["door", "kitchen"] :=
  (route_extracted (fun _ _ _ _ ↦ rfl) doorThenKitchen _ (by decide +kernel)).1
    ⟨by decide +kernel, by decide +kernel⟩

def backToDoor : Utterance asciiLower where
  mentions := [⟨"先去".toList, "door", "门口"⟩, ⟨"再去".toList, "kitchen", "厨房"⟩,
    ⟨"再回".toList, "door", "门口"⟩]
  after := []
  listed := by decide
  separated := by decide +kernel
  ended := by decide +kernel

/-- The way back is lost. -/
theorem return_visit_dropped :
    asciiLower.lower (normalizePlaceText "先去门口，再去厨房，再回门口。".toList) = backToDoor.text ∧
    backToDoor.route = ["door", "kitchen", "door"] ∧
    extractWaypoints asciiLower "先去门口，再去厨房，再回门口。".toList = ["door", "kitchen"] := by
  refine ⟨by decide +kernel, by decide +kernel, ?_⟩
  rw [extractWaypoints_eq, orderedPlaces]
  have hfound : foundPlaces asciiLower (asciiLower.lower (normalizePlaceText
      "先去门口，再去厨房，再回门口。".toList)) = [(2, "door"), (6, "kitchen")] := by decide +kernel
  rw [hfound, List.mergeSort_of_pairwise (by decide)]
  rfl

end Utterance

end EmbodiedAgent.Agent.NavigationPhrases
