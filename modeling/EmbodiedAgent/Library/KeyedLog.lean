import Mathlib.Data.List.Basic

namespace EmbodiedAgent.Library.KeyedLog

open scoped List

variable {α κ : Type*}

theorem sublist_snoc {l : List α} (l₀ : List α) {x y : α} (h : l₀ ++ [y] <+ l ++ [x]) :
    l₀ ++ [y] <+ l ∨ (y = x ∧ l₀ <+ l) := by
  obtain ⟨l₁, l₂, heq, h₁, h₂⟩ := List.sublist_append_iff.mp h
  rcases List.sublist_cons_iff.mp h₂ with h₂ | ⟨r, hr, h₂⟩
  · obtain rfl := List.sublist_nil.mp h₂
    rw [List.append_nil] at heq
    exact .inl (heq ▸ h₁)
  · obtain rfl := List.sublist_nil.mp h₂
    subst hr
    obtain ⟨rfl, hy⟩ := List.append_inj' heq rfl
    exact .inr ⟨List.singleton_inj.mp hy, h₁⟩

theorem pair_sublist_snoc {l : List α} {a b x : α} (h : [a, b] <+ l ++ [x]) :
    [a, b] <+ l ∨ (b = x ∧ a ∈ l) := by
  rcases sublist_snoc [a] h with hl | ⟨rfl, ha⟩
  · exact .inl hl
  · exact .inr ⟨rfl, List.singleton_sublist.mp ha⟩

def NoReturn (key : α → κ) (l : List α) : Prop :=
  ∀ a b c, [a, b, c] <+ l → key a = key c → key b = key a

variable {key : α → κ} {l : List α} {x y : α}

theorem noReturn_nil : NoReturn key [] := by
  intro a b c h
  cases h

theorem NoReturn.same (h : NoReturn key (l ++ [y])) (hx : key x = key y) :
    NoReturn key (l ++ [y] ++ [x]) := by
  intro a b c hs hac
  rcases sublist_snoc [a, b] hs with hl | ⟨rfl, hab⟩
  · exact h a b c hl hac
  · rcases pair_sublist_snoc hab with hab | ⟨rfl, -⟩
    · exact h a b y (hab.append (List.Sublist.refl [y])) (hac.trans hx)
    · exact (hac.trans hx).symm

theorem NoReturn.fresh (h : NoReturn key l) (hx : ∀ a ∈ l, key a ≠ key x) :
    NoReturn key (l ++ [x]) := by
  intro a b c hs hac
  rcases sublist_snoc [a, b] hs with hl | ⟨rfl, hab⟩
  · exact h a b c hl hac
  · exact absurd hac (hx a (hab.subset (by simp)))

end EmbodiedAgent.Library.KeyedLog
