import Mathlib.Data.Nat.Notation
import Mathlib.Logic.Basic

namespace EmbodiedAgent.Library

universe u v

theorem exists_ok_of_bind {ε : Type u} {α β : Type v} {x : Except ε α} {f : α → Except ε β} {b : β}
    (h : x >>= f = .ok b) : ∃ a, x = .ok a ∧ f a = .ok b := by
  cases x with
  | error e => cases h
  | ok a => exact ⟨a, rfl, h⟩

theorem map_eq_of_mapM {ε : Type u} {α β : Type v} {f : α → Except ε β} {l : List α} {l' : List β}
    (h : l.mapM f = .ok l') : l.map f = l'.map .ok := by
  induction l generalizing l' with
  | nil => cases h; rfl
  | cons a l ih =>
    rw [List.mapM_cons] at h
    obtain ⟨b, hb, h⟩ := exists_ok_of_bind h
    obtain ⟨rest, hrest, h⟩ := exists_ok_of_bind h
    cases h
    rw [List.map_cons, List.map_cons, hb, ih hrest]

theorem mapM_getElem?_eq {ε : Type u} {α β : Type v} {f : α → Except ε β} {l : List α}
    {l' : List β} (h : l.mapM f = .ok l') {i : ℕ} {b : β} :
    l'[i]? = some b ↔ ∃ a, l[i]? = some a ∧ f a = .ok b := by
  have heq : l[i]?.map f = l'[i]?.map .ok := by
    rw [← List.getElem?_map, ← List.getElem?_map, map_eq_of_mapM h]
  constructor
  · intro hb
    rw [hb, Option.map_some, Option.map_eq_some_iff] at heq
    exact heq
  · rintro ⟨a, ha, hf⟩
    rw [ha, Option.map_some, hf, eq_comm, Option.map_eq_some_iff] at heq
    obtain ⟨c, hc, hok⟩ := heq
    cases hok
    exact hc

theorem exists_mapM_ok {ε : Type u} {α β : Type v} {f : α → Except ε β} {l : List α}
    (h : ∀ a ∈ l, ∃ b, f a = .ok b) : ∃ l', l.mapM f = .ok l' := by
  induction l with
  | nil => exact ⟨[], rfl⟩
  | cons a l ih =>
    obtain ⟨b, hb⟩ := h a (.head _)
    obtain ⟨rest, hrest⟩ := ih fun c hc ↦ h c (.tail _ hc)
    refine ⟨b :: rest, ?_⟩
    rw [List.mapM_cons, hb, hrest]
    rfl

theorem exists_of_mem_mapM {ε : Type u} {α β : Type v} {f : α → Except ε β} {l : List α}
    {l' : List β} (h : l.mapM f = .ok l') {b : β} (hb : b ∈ l') : ∃ a ∈ l, f a = .ok b := by
  have hmem : Except.ok b ∈ l'.map (Except.ok (ε := ε)) := List.mem_map_of_mem hb
  rw [← map_eq_of_mapM h] at hmem
  exact List.mem_map.mp hmem

theorem map_of_mapM {ε : Type u} {α β : Type v} {γ : Type*} {f : α → Except ε β} {l : List α}
    {l' : List β} {g : α → γ} {g' : β → γ} (h : l.mapM f = .ok l')
    (hg : ∀ a b, f a = .ok b → g' b = g a) : l'.map g' = l.map g := by
  induction l generalizing l' with
  | nil => cases h; rfl
  | cons a l ih =>
    rw [List.mapM_cons] at h
    obtain ⟨b, hb, h⟩ := exists_ok_of_bind h
    obtain ⟨rest, hrest, h⟩ := exists_ok_of_bind h
    cases h
    rw [List.map_cons, List.map_cons, hg a b hb, ih hrest]

theorem mapM_eq_ok {ε : Type u} {α β : Type v} {f : α → Except ε β} {g : α → β} {l : List α}
    (h : ∀ a ∈ l, f a = .ok (g a)) : l.mapM f = .ok (l.map g) := by
  induction l with
  | nil => rfl
  | cons a l ih =>
    rw [List.mapM_cons, h a (.head _), ih fun b hb ↦ h b (.tail _ hb)]
    rfl

end EmbodiedAgent.Library
