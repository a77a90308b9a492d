import Mathlib.Data.List.Basic
import Mathlib.Logic.Relation

namespace EmbodiedAgent.Library.Flood

open Relation

variable {α : Type*} [DecidableEq α] (next : α → List α) (allowed : List α)

def Step (a b : α) : Prop := b ∈ next a ∧ b ∈ allowed

structure Frontier (α : Type*) where
  queue : List α
  found : List α

def Frontier.discover (f : Frontier α) (a : α) : Frontier α :=
  if a ∈ allowed ∧ a ∉ f.found then { queue := f.queue ++ [a], found := a :: f.found } else f

def flood : ℕ → Frontier α → List α
  | 0, f => f.found
  | fuel + 1, f =>
    match f.queue with
    | [] => f.found
    | a :: queue =>
      flood fuel ((next a).foldl (Frontier.discover allowed) { f with queue := queue })

/-- Everything that is found from `start`, with the nodes taken in the order they are found. -/
def component (start : α) : List α :=
  flood next allowed (allowed.length + 1) { queue := [start], found := [start] }

def missing (found : List α) : ℕ := allowed.countP (· ∉ found)

variable {next allowed}

structure Frontier.Grown (allowed : List α) (near : List α) (f g : Frontier α) : Prop where
  queue : ∀ a, a ∈ g.queue → a ∈ f.queue ∨ a ∈ near ∧ a ∈ allowed
  found : ∀ a, a ∈ g.found ↔ a ∈ f.found ∨ a ∈ near ∧ a ∈ allowed
  waits : ∀ a, a ∈ f.queue ∨ a ∈ g.found ∧ a ∉ f.found → a ∈ g.queue
  shrinks : g.queue.length + missing allowed g.found ≤ f.queue.length + missing allowed f.found

theorem missing_cons {a : α} {found : List α} (ha : a ∈ allowed) (hnew : a ∉ found) :
    missing allowed (a :: found) + 1 ≤ missing allowed found := by
  induction allowed with
  | nil => cases ha
  | cons b allowed ih =>
    have hsub : missing allowed (a :: found) ≤ missing allowed found := by
      apply List.countP_mono_left
      intro c _ hc
      simp only [List.mem_cons, not_or, decide_eq_true_eq] at hc ⊢
      exact hc.2
    rw [missing, missing, List.countP_cons, List.countP_cons]
    rcases List.mem_cons.mp ha with rfl | ha
    · rw [if_neg (by simp), if_pos (by simpa using hnew)]
      exact Nat.succ_le_succ hsub
    · have hrest := ih ha
      rw [missing, missing] at hrest
      by_cases hb : b ∈ found
      · rw [if_neg (by simp [hb]), if_neg (by simp [hb])]
        exact hrest
      · rw [if_pos (by simpa using hb : decide (b ∉ found) = true)]
        split_ifs
        · omega
        · omega

theorem Frontier.discover_grown (f : Frontier α) (a : α) :
    Grown allowed [a] f (f.discover allowed a) := by
  by_cases ha : a ∈ allowed ∧ a ∉ f.found
  · rw [discover, if_pos ha]
    refine ⟨fun b hb ↦ ?_, fun b ↦ ?_, fun b hb ↦ ?_, ?_⟩
    · rcases List.mem_append.mp hb with hb | hb
      · exact .inl hb
      · exact .inr ⟨hb, List.mem_singleton.mp hb ▸ ha.1⟩
    · rw [List.mem_cons, List.mem_singleton]
      constructor
      · rintro (rfl | hb)
        · exact .inr ⟨rfl, ha.1⟩
        · exact .inl hb
      · rintro (hb | ⟨rfl, -⟩)
        · exact .inr hb
        · exact .inl rfl
    · rcases hb with hb | ⟨hb, hnew⟩
      · exact List.mem_append_left _ hb
      · exact List.mem_append_right _
          (List.mem_singleton.mpr ((List.mem_cons.mp hb).resolve_right hnew))
    · have hmissing := missing_cons ha.1 ha.2
      dsimp only
      rw [List.length_append, List.length_singleton]
      omega
  · rw [discover, if_neg ha]
    refine ⟨fun b hb ↦ .inl hb, fun b ↦ ?_, fun b hb ↦ ?_, Nat.le_refl _⟩
    · refine ⟨.inl, ?_⟩
      rintro (hb | ⟨hb, hallowed⟩)
      · exact hb
      · rw [List.mem_singleton] at hb
        subst hb
        exact not_not.mp fun hnew ↦ ha ⟨hallowed, hnew⟩
    · rcases hb with hb | ⟨hb, hnew⟩
      · exact hb
      · exact absurd hb hnew

theorem Frontier.foldl_grown (near : List α) (f : Frontier α) :
    Grown allowed near f (near.foldl (discover allowed) f) := by
  induction near generalizing f with
  | nil =>
    refine ⟨fun b hb ↦ .inl hb, fun b ↦ ?_, fun b hb ↦ ?_, Nat.le_refl _⟩
    · simp
    · exact hb.elim id fun hb ↦ absurd hb.1 hb.2
  | cons a near ih =>
    have hone : Grown allowed [a] f (f.discover allowed a) := f.discover_grown a
    have hrest := ih (f.discover allowed a)
    refine ⟨fun b hb ↦ ?_, fun b ↦ ?_, fun b hb ↦ ?_, Nat.le_trans hrest.shrinks hone.shrinks⟩
    · rcases hrest.queue b hb with hb | ⟨hb, hallowed⟩
      · rcases hone.queue b hb with hb | ⟨hb, hallowed⟩
        · exact .inl hb
        · exact .inr ⟨List.mem_cons.mpr (.inl (List.mem_singleton.mp hb)), hallowed⟩
      · exact .inr ⟨List.mem_cons_of_mem _ hb, hallowed⟩
    · rw [List.foldl_cons, hrest.found, hone.found, List.mem_singleton, List.mem_cons]
      tauto
    · apply hrest.waits
      rcases hb with hb | ⟨hb, hnew⟩
      · exact .inl (hone.waits b (.inl hb))
      · by_cases hfound : b ∈ (f.discover allowed a).found
        · exact .inl (hone.waits b (.inr ⟨hfound, hnew⟩))
        · exact .inr ⟨hb, hfound⟩

structure Frontier.Explored (next : α → List α) (allowed : List α) (start : α)
    (f : Frontier α) : Prop where
  origin : start ∈ f.found
  reached : ∀ a ∈ f.found, ReflTransGen (Step next allowed) start a
  queue : ∀ a ∈ f.queue, a ∈ f.found
  searched : ∀ a ∈ f.found, a ∈ f.queue ∨ ∀ b ∈ next a, b ∈ allowed → b ∈ f.found

theorem Frontier.Explored.advance {start a : α} {queue found : List α}
    (h : Explored next allowed start { queue := a :: queue, found := found }) :
    Explored next allowed start
      ((next a).foldl (discover allowed) { queue := queue, found := found }) := by
  have hgrown : Grown allowed (next a) _ _ :=
    foldl_grown (next a) { queue := queue, found := found }
  have ha : a ∈ found := h.queue a List.mem_cons_self
  refine ⟨(hgrown.found start).mpr (.inl h.origin), fun b hb ↦ ?_, fun b hb ↦ ?_, fun b hb ↦ ?_⟩
  · rcases (hgrown.found b).mp hb with hb | hb
    · exact h.reached b hb
    · exact (h.reached a ha).tail hb
  · rcases hgrown.queue b hb with hb | hb
    · exact (hgrown.found b).mpr (.inl (h.queue b (List.mem_cons_of_mem _ hb)))
    · exact (hgrown.found b).mpr (.inr hb)
  · by_cases hold : b ∈ found
    · rcases h.searched b hold with hqueue | hsearched
      · rcases List.mem_cons.mp hqueue with rfl | hqueue
        · exact .inr fun c hc hallowed ↦ (hgrown.found c).mpr (.inr ⟨hc, hallowed⟩)
        · exact .inl (hgrown.waits b (.inl hqueue))
      · exact .inr fun c hc hallowed ↦ (hgrown.found c).mpr (.inl (hsearched c hc hallowed))
    · exact .inl (hgrown.waits b (.inr ⟨hb, hold⟩))

omit [DecidableEq α] in
theorem Frontier.Explored.mem_found_iff {start a : α} {f : Frontier α}
    (h : f.Explored next allowed start) (hempty : f.queue = []) :
    a ∈ f.found ↔ ReflTransGen (Step next allowed) start a := by
  refine ⟨h.reached a, fun hreach ↦ ?_⟩
  induction hreach with
  | refl => exact h.origin
  | tail _ hstep ih =>
    refine (h.searched _ ih).resolve_left ?_ _ hstep.1 hstep.2
    rw [hempty]
    exact List.not_mem_nil

theorem flood_iff {start a : α} (fuel : ℕ) (f : Frontier α) (h : f.Explored next allowed start)
    (hfuel : f.queue.length + missing allowed f.found ≤ fuel) :
    a ∈ flood next allowed fuel f ↔ ReflTransGen (Step next allowed) start a := by
  induction fuel generalizing f with
  | zero =>
    rw [flood]
    exact h.mem_found_iff (List.eq_nil_of_length_eq_zero (by omega))
  | succ fuel ih =>
    obtain ⟨queue, found⟩ := f
    rw [flood]
    cases queue with
    | nil => exact h.mem_found_iff rfl
    | cons b queue =>
      have hgrown : Frontier.Grown allowed (next b) _ _ :=
        Frontier.foldl_grown (next b) { queue := queue, found := found }
      have hshrinks := hgrown.shrinks
      dsimp only [List.length_cons] at hfuel hshrinks ⊢
      exact ih _ h.advance (by omega)

theorem mem_component {start a : α} :
    a ∈ component next allowed start ↔ ReflTransGen (Step next allowed) start a := by
  apply flood_iff
  · refine ⟨List.mem_singleton_self _, fun b hb ↦ ?_, fun b hb ↦ hb, fun b hb ↦ .inl hb⟩
    rw [List.mem_singleton.mp hb]
  · have hmissing : missing allowed [start] ≤ allowed.length := List.countP_le_length
    dsimp only [List.length_singleton]
    omega

end EmbodiedAgent.Library.Flood
