import Mathlib.Data.List.Infix
import Mathlib.Data.List.Perm.Subperm

namespace EmbodiedAgent.Library.History

open scoped List

variable {σ ε ω α : Type*}

section Runs

variable (step : σ → ε → σ × ω)

/-- The state reached from `s` after a history of events, oldest first. -/
def run (s : σ) (h : List ε) : σ := h.foldl (fun s e ↦ (step s e).1) s

@[simp] theorem run_nil (s : σ) : run step s [] = s := rfl

@[simp] theorem run_cons (s : σ) (e : ε) (h : List ε) :
    run step s (e :: h) = run step (step s e).1 h := rfl

theorem run_append (s : σ) (h h' : List ε) : run step s (h ++ h') = run step (run step s h) h' := by
  simp only [run, List.foldl_append]

theorem run_snoc (s : σ) (h : List ε) (e : ε) :
    run step s (h ++ [e]) = (step (run step s h) e).1 := by
  simp only [run_append, run_cons, run_nil]

def collect (f : σ → ε → List α) (s : σ) : List ε → List α
  | [] => []
  | e :: h => f s e ++ collect f (step s e).1 h

variable (f : σ → ε → List α)

@[simp] theorem collect_nil (s : σ) : collect step f s [] = [] := rfl

@[simp] theorem collect_cons (s : σ) (e : ε) (h : List ε) :
    collect step f s (e :: h) = f s e ++ collect step f (step s e).1 h := rfl

theorem collect_append (s : σ) (h h' : List ε) :
    collect step f s (h ++ h') = collect step f s h ++ collect step f (run step s h) h' := by
  induction h generalizing s with
  | nil => rfl
  | cons e h ih => simp only [List.cons_append, collect_cons, run_cons, ih, List.append_assoc]

theorem collect_snoc (s : σ) (h : List ε) (e : ε) :
    collect step f s (h ++ [e]) = collect step f s h ++ f (run step s h) e := by
  simp only [collect_append, collect_cons, collect_nil, List.append_nil]

theorem mem_collect {s : σ} {h : List ε} {a : α} : a ∈ collect step f s h ↔
      ∃ pre e post, h = pre ++ e :: post ∧ a ∈ f (run step s pre) e := by
  induction h generalizing s with
  | nil => simp
  | cons e h ih =>
    simp only [collect_cons, List.mem_append, ih]
    constructor
    · rintro (ha | ⟨pre, d, post, rfl, ha⟩)
      · exact ⟨[], e, h, rfl, ha⟩
      · exact ⟨e :: pre, d, post, rfl, ha⟩
    · rintro ⟨pre, d, post, hsplit, ha⟩
      rcases List.cons_eq_append_iff.mp hsplit with ⟨rfl, hd⟩ | ⟨pre', rfl, rfl⟩
      · obtain ⟨rfl, rfl⟩ := List.cons.inj hd
        exact .inl ha
      · exact .inr ⟨pre', d, post, rfl, ha⟩

theorem run_preserves {I : σ → Prop} (hstep : ∀ s e, I s → I (step s e).1) {s : σ}
    (hs : I s) (h : List ε) : I (run step s h) := by
  induction h generalizing s with
  | nil => exact hs
  | cons e h ih => exact ih (hstep s e hs)

theorem run_induction {s : σ} {I : List ε → σ → Prop} (h₀ : I [] s)
    (hstep : ∀ h e, I h (run step s h) → I (h ++ [e]) (step (run step s h) e).1)
    (h : List ε) : I h (run step s h) := by
  induction h using List.reverseRecOn with
  | nil => exact h₀
  | append_singleton h e ih =>
    rw [run_snoc]
    exact hstep h e ih

def Along (Q : σ → ε → Prop) (s : σ) : List ε → Prop
  | [] => True
  | e :: h => Q s e ∧ Along Q (step s e).1 h

instance {Q : σ → ε → Prop} [∀ s e, Decidable (Q s e)] :
    (s : σ) → (h : List ε) → Decidable (Along step Q s h)
  | _, [] => .isTrue trivial
  | s, e :: h =>
    have : Decidable (Along step Q (step s e).1 h) := instDecidableAlong (step s e).1 h
    inferInstanceAs (Decidable (Q s e ∧ Along step Q (step s e).1 h))

variable {Q : σ → ε → Prop}

theorem along_append {s : σ} {h h' : List ε} :
    Along step Q s (h ++ h') ↔ Along step Q s h ∧ Along step Q (run step s h) h' := by
  induction h generalizing s with
  | nil => simp [Along]
  | cons e h ih => simp only [List.cons_append, Along, run_cons, ih, and_assoc]

theorem along_snoc {s : σ} {h : List ε} {e : ε} :
    Along step Q s (h ++ [e]) ↔ Along step Q s h ∧ Q (run step s h) e := by
  simp [along_append, Along]

theorem along_iff {s : σ} {h : List ε} :
    Along step Q s h ↔ ∀ pre e post, h = pre ++ e :: post → Q (run step s pre) e := by
  constructor
  · rintro hq pre e post rfl
    exact ((along_append step).mp hq).2.1
  · intro hq
    induction h using List.reverseRecOn with
    | nil => trivial
    | append_singleton h e ih =>
      refine (along_snoc step).mpr ⟨ih fun pre d post hs ↦ ?_, hq h e [] rfl⟩
      exact hq pre d (post ++ [e]) (by rw [hs, List.append_assoc, List.cons_append])

theorem Along.mono {R : σ → ε → Prop} {I : σ → Prop} (hI : ∀ s e, Q s e → I s → I (step s e).1)
    (hQR : ∀ s e, I s → Q s e → R s e) {s : σ} (hs : I s) {h : List ε}
    (hq : Along step Q s h) : Along step R s h := by
  induction h generalizing s with
  | nil => trivial
  | cons e h ih => exact ⟨hQR s e hs hq.1, ih (hI s e hq.1 hs) hq.2⟩

theorem Along.preserves {I : σ → Prop} (hI : ∀ s e, Q s e → I s → I (step s e).1) {s : σ}
    (hs : I s) {h : List ε} (hq : Along step Q s h) : I (run step s h) := by
  induction h generalizing s with
  | nil => exact hs
  | cons e h ih => exact ih (hI s e hq.1 hs) hq.2

theorem conserved (held : σ → List α) (taken released : σ → ε → List α)
    (hstep : ∀ s e, held s ++ taken s e ~ held (step s e).1 ++ released s e) (s : σ) (h : List ε) :
    held s ++ collect step taken s h ~ held (run step s h) ++ collect step released s h := by
  classical
  induction h generalizing s with
  | nil => simp
  | cons e h ih =>
    refine List.perm_iff_count.mpr fun a ↦ ?_
    have h₁ := (hstep s e).count_eq a
    have h₂ := (ih (step s e).1).count_eq a
    simp only [collect_cons, run_cons, List.count_append] at h₁ h₂ ⊢
    omega

theorem in_order {I : σ → Prop} (hI : ∀ s e, I s → I (step s e).1) (held : σ → List α)
    (taken released : σ → ε → List α)
    (hstep : ∀ s e, I s → released s e ++ held (step s e).1 <+ held s ++ taken s e) {s : σ}
    (hs : I s) (h : List ε) :
    collect step released s h ++ held (run step s h) <+ held s ++ collect step taken s h := by
  induction h generalizing s with
  | nil => simp
  | cons e h ih =>
    have hlater := (ih (hI s e hs)).append_left (released s e)
    rw [← List.append_assoc, ← List.append_assoc] at hlater
    rw [collect_cons, collect_cons, run_cons, ← List.append_assoc (held s)]
    exact hlater.trans ((hstep s e hs).append_right _)

theorem at_most {I : σ → Prop} (hI : ∀ s e, I s → I (step s e).1) (held : σ → List α)
    (taken released : σ → ε → List α)
    (hstep : ∀ s e, I s → released s e ++ held (step s e).1 <+~ held s ++ taken s e) {s : σ}
    (hs : I s) (h : List ε) :
    collect step released s h ++ held (run step s h) <+~ held s ++ collect step taken s h := by
  induction h generalizing s with
  | nil => simpa using List.Subperm.refl (held s)
  | cons e h ih =>
    have hlater := (List.subperm_append_left (released s e)).mpr (ih (hI s e hs))
    rw [← List.append_assoc, ← List.append_assoc] at hlater
    rw [collect_cons, collect_cons, run_cons, ← List.append_assoc (held s)]
    exact hlater.trans ((List.subperm_append_right _).mpr (hstep s e hs))

theorem map_collect {β : Type*} (g : α → β) (f : σ → ε → List α) (s : σ) (h : List ε) :
    (collect step f s h).map g = collect step (fun s e ↦ (f s e).map g) s h := by
  induction h generalizing s with
  | nil => rfl
  | cons e h ih => rw [collect_cons, collect_cons, List.map_append, ih]

end Runs

theorem snoc_eq_append_cons {h pre post : List ε} {e d : ε} (hs : h ++ [e] = pre ++ d :: post) :
    (post = [] ∧ pre = h ∧ d = e) ∨ ∃ post', post = post' ++ [e] ∧ h = pre ++ d :: post' := by
  rcases List.eq_nil_or_concat post with rfl | ⟨post', x, rfl⟩
  · obtain ⟨rfl, hd⟩ := List.append_inj' hs rfl
    exact .inl ⟨rfl, rfl, (List.singleton_inj.mp hd).symm⟩
  · have hs' : h ++ [e] = (pre ++ d :: post') ++ [x] := by simpa using hs
    obtain ⟨rfl, hx⟩ := List.append_inj' hs' rfl
    exact .inr ⟨post', by rw [List.singleton_inj.mp hx, List.concat_eq_append], rfl⟩

def Answered (A B : ε → Prop) : List ε → Prop
  | [] => True
  | e :: h => (A e → ∃ d ∈ h, B d) ∧ Answered A B h

instance decidableAnswered {A B : ε → Prop} [DecidablePred A] [DecidablePred B] :
    (h : List ε) → Decidable (Answered A B h)
  | [] => .isTrue trivial
  | e :: h =>
    have : Decidable (Answered A B h) := decidableAnswered h
    inferInstanceAs (Decidable ((A e → ∃ d ∈ h, B d) ∧ Answered A B h))

theorem answered_snoc {A B : ε → Prop} {h : List ε} {e : ε} :
    Answered A B (h ++ [e]) ↔ ¬ A e ∧ (B e ∨ Answered A B h) := by
  induction h with
  | nil => simp [Answered]
  | cons d h ih =>
    simp only [List.cons_append, Answered, ih, List.mem_append, List.mem_singleton]
    constructor
    · rintro ⟨hd, he, hb⟩
      refine ⟨he, or_iff_not_imp_left.mpr fun hne ↦ ⟨fun ha ↦ ?_, hb.resolve_left hne⟩⟩
      obtain ⟨x, hx | rfl, hbx⟩ := hd ha
      · exact ⟨x, hx, hbx⟩
      · exact absurd hbx hne
    · rintro ⟨he, hb | ⟨hd, hh⟩⟩
      · exact ⟨fun _ ↦ ⟨e, .inr rfl, hb⟩, he, .inl hb⟩
      · refine ⟨fun ha ↦ ?_, he, .inr hh⟩
        obtain ⟨x, hx, hbx⟩ := hd ha
        exact ⟨x, .inl hx, hbx⟩

/-- No event of `post`, coming after `pre`, has property `P`. -/
def Quiet (P : List ε → ε → Prop) (pre post : List ε) : Prop :=
  ∀ mid d rest, post = mid ++ d :: rest → ¬ P (pre ++ mid) d

/-- `e` is the latest event of the history `h` that has property `P`. -/
structure Latest (P : List ε → ε → Prop) (h pre : List ε) (e : ε) (post : List ε) : Prop where
  split : h = pre ++ e :: post
  holds : P pre e
  quiet : Quiet P (pre ++ [e]) post

variable {P : List ε → ε → Prop} {h pre post : List ε} {d e : ε}

theorem quiet_nil : Quiet P pre [] := by
  intro mid d rest hs
  simp at hs

theorem Quiet.snoc (hq : Quiet P pre post) (he : ¬ P (pre ++ post) e) :
    Quiet P pre (post ++ [e]) := by
  intro mid d rest hs
  rcases snoc_eq_append_cons hs with ⟨-, rfl, rfl⟩ | ⟨rest', -, rfl⟩
  · exact he
  · exact hq mid d rest' rfl

theorem Quiet.of_append {post' : List ε} (hq : Quiet P pre (post ++ post')) : Quiet P pre post := by
  intro mid d rest hs
  exact hq mid d (rest ++ post') (by simp [hs])

theorem Quiet.of_snoc (hq : Quiet P pre (post ++ [e])) : Quiet P pre post ∧ ¬ P (pre ++ post) e :=
  ⟨hq.of_append, hq post e [] (by simp)⟩

theorem Quiet.run_induction {step : σ → ε → σ × ω} {s : σ} {I : List ε → σ → Prop}
    (hq : Quiet P pre post) (h₀ : I [] (run step s pre))
    (hstep : ∀ mid d, ¬ P (pre ++ mid) d → I mid (run step s (pre ++ mid)) →
      I (mid ++ [d]) (step (run step s (pre ++ mid)) d).1) : I post (run step s (pre ++ post)) := by
  induction post using List.reverseRecOn with
  | nil => simpa using h₀
  | append_singleton post e ih =>
    obtain ⟨hq', he⟩ := hq.of_snoc
    rw [← List.append_assoc, run_snoc]
    exact hstep post e he (ih hq')

theorem Quiet.later {step : σ → ε → σ × ω} {s : σ} {Q : σ → ε → Prop}
    (hq : Quiet (fun h e ↦ Q (run step s h) e) (h ++ pre) post) :
    Quiet (fun h' e ↦ Q (run step (run step s h) h') e) pre post := by
  intro mid d rest hs hd
  have hnot : ¬ Q (run step s (h ++ pre ++ mid)) d := hq mid d rest hs
  rw [List.append_assoc, run_append] at hnot
  exact hnot hd

theorem Latest.new (he : P h e) : Latest P (h ++ [e]) h e [] :=
  ⟨rfl, he, quiet_nil⟩

theorem Latest.keep (hl : Latest P h pre d post) (he : ¬ P h e) :
    Latest P (h ++ [e]) pre d (post ++ [e]) := by
  refine ⟨by rw [hl.split]; simp, hl.holds, hl.quiet.snoc ?_⟩
  have hsplit := hl.split
  rw [List.append_cons] at hsplit
  rwa [hsplit] at he

theorem Latest.of_snoc (hl : Latest P (h ++ [e]) pre d post) :
    (post = [] ∧ pre = h ∧ d = e) ∨ ∃ post', post = post' ++ [e] ∧ Latest P h pre d post' := by
  rcases snoc_eq_append_cons hl.split with hlast | ⟨post', rfl, hsplit⟩
  · exact .inl hlast
  · exact .inr ⟨post', rfl, hsplit, hl.holds, hl.quiet.of_append⟩

theorem Latest.of_append {post' : List ε} (hl : Latest P h pre d (post ++ post')) :
    Latest P (pre ++ d :: post) pre d post :=
  ⟨rfl, hl.holds, hl.quiet.of_append⟩

theorem quiet_or_latest (P : List ε → ε → Prop) (h : List ε) :
    Quiet P [] h ∨ ∃ pre e post, Latest P h pre e post := by
  classical
  induction h using List.reverseRecOn with
  | nil => exact .inl quiet_nil
  | append_singleton h e ih =>
    by_cases he : P h e
    · exact .inr ⟨h, e, [], .new he⟩
    · rcases ih with hq | ⟨pre, d, post, hl⟩
      · exact .inl (hq.snoc he)
      · exact .inr ⟨pre, d, post ++ [e], hl.keep he⟩

theorem Latest.not_after (hl : Latest P h pre e post) {pre' post' : List ε}
    (hs : h = pre' ++ d :: post') (hd : P pre' d) : pre'.length ≤ pre.length := by
  by_contra hlt
  have heq : pre ++ e :: post = pre' ++ d :: post' := hl.split.symm.trans hs
  rcases List.append_eq_append_iff.mp heq with ⟨mid, rfl, htail⟩ | ⟨mid, rfl, -⟩
  · cases mid with
    | nil => simp at hlt
    | cons x mid =>
      obtain ⟨rfl, hpost⟩ := List.cons.inj htail
      exact hl.quiet mid d post' hpost (by simpa using hd)
  · simp at hlt

end EmbodiedAgent.Library.History
