import Mathlib.Data.List.Perm.Basic

namespace EmbodiedAgent.Library.Interleaving

open scoped List

variable {σ τ κ ω : Type*}

/-- A running callback: the atomic tasks it still has to perform, the next one first. -/
structure Callback (κ τ : Type*) where
  group : κ
  tasks : List τ

def outstanding (callbacks : List (Callback κ τ)) : List τ := callbacks.flatMap Callback.tasks

def next (callbacks : List (Callback κ τ)) (i : ℕ) : Option τ :=
  callbacks[i]?.bind fun callback ↦ callback.tasks.head?

/-- Callback `i` performs its next task; the tasks this calls for come first. -/
def advance (perform : σ → τ → σ × List τ × List ω) (s : σ) (callbacks : List (Callback κ τ))
    (i : ℕ) : σ × List (Callback κ τ) × List ω :=
  match callbacks[i]? with
  | none => (s, callbacks, [])
  | some callback =>
    match callback.tasks with
    | [] => (s, callbacks.eraseIdx i, [])
    | task :: rest =>
      let (s, called, out) := perform s task
      (s, callbacks.set i { callback with tasks := called ++ rest }, out)

variable {perform : σ → τ → σ × List τ × List ω} {s : σ} {callbacks : List (Callback κ τ)} {i : ℕ}
  {task task' : τ} {callback : Callback κ τ}

theorem mem_outstanding : task ∈ outstanding callbacks ↔
    ∃ callback ∈ callbacks, task ∈ callback.tasks := List.mem_flatMap

theorem mem_of_next (h : next callbacks i = some task) : task ∈ outstanding callbacks := by
  obtain ⟨callback, hcallback, htask⟩ := Option.bind_eq_some_iff.mp h
  exact mem_outstanding.mpr
    ⟨callback, List.mem_of_getElem? hcallback, List.mem_of_head? htask⟩

theorem mem_outstanding_set (h : task' ∈ outstanding (callbacks.set i callback)) :
    task' ∈ outstanding callbacks ∨ task' ∈ callback.tasks := by
  obtain ⟨callback', hcallback', htask⟩ := mem_outstanding.mp h
  rcases List.mem_or_eq_of_mem_set hcallback' with hold | rfl
  · exact .inl (mem_outstanding.mpr ⟨callback', hold, htask⟩)
  · exact .inr htask

theorem advance_state (perform : σ → τ → σ × List τ × List ω) (s : σ)
    (callbacks : List (Callback κ τ)) (i : ℕ) : (advance perform s callbacks i).1 =
      (next callbacks i).elim s fun task ↦ (perform s task).1 := by
  unfold advance next
  cases callbacks[i]? with
  | none => rfl
  | some callback =>
    obtain ⟨group, tasks⟩ := callback
    cases tasks <;> rfl

theorem advance_cases (perform : σ → τ → σ × List τ × List ω) (s : σ)
    (callbacks : List (Callback κ τ)) (i : ℕ) : ((advance perform s callbacks i).1 = s ∧
      ∀ task ∈ outstanding (advance perform s callbacks i).2.1, task ∈ outstanding callbacks) ∨
    ∃ task, next callbacks i = some task ∧ (advance perform s callbacks i).1 = (perform s task).1 ∧
      ∀ task' ∈ outstanding (advance perform s callbacks i).2.1,
        task' ∈ outstanding callbacks ∨ task' ∈ (perform s task).2.1 := by
  cases hcallback : callbacks[i]? with
  | none => simp [advance, hcallback]
  | some callback =>
    have hmem := List.mem_of_getElem? hcallback
    cases htasks : callback.tasks with
    | nil =>
      refine .inl ⟨by simp [advance, hcallback, htasks], ?_⟩
      intro task htask
      simp only [advance, hcallback, htasks] at htask
      obtain ⟨callback', hcallback', htask'⟩ := mem_outstanding.mp htask
      exact mem_outstanding.mpr ⟨callback', List.mem_of_mem_eraseIdx hcallback', htask'⟩
    | cons task rest =>
      refine .inr ⟨task, by simp [next, hcallback, htasks], ?_, ?_⟩
      · simp [advance, hcallback, htasks]
      · intro task' htask'
        simp only [advance, hcallback, htasks] at htask'
        rcases mem_outstanding_set htask' with hold | hnew
        · exact .inl hold
        · rcases List.mem_append.mp hnew with hcalled | hrest
          · exact .inr hcalled
          · refine .inl (mem_outstanding.mpr ⟨callback, hmem, ?_⟩)
            rw [htasks]
            exact List.mem_cons_of_mem task hrest

theorem advance_forall {P : List τ → Prop} (h : ∀ callback ∈ callbacks, P callback.tasks)
    (hstep : ∀ task rest, next callbacks i = some task → P (task :: rest) →
      P ((perform s task).2.1 ++ rest)) :
    ∀ callback ∈ (advance perform s callbacks i).2.1, P callback.tasks := by
  cases hcallback : callbacks[i]? with
  | none => simpa only [advance, hcallback] using h
  | some callback =>
    have hmem := List.mem_of_getElem? hcallback
    intro callback' hcallback'
    cases htasks : callback.tasks with
    | nil =>
      simp only [advance, hcallback, htasks] at hcallback'
      exact h callback' (List.mem_of_mem_eraseIdx hcallback')
    | cons task rest =>
      simp only [advance, hcallback, htasks] at hcallback'
      rcases List.mem_or_eq_of_mem_set hcallback' with hold | rfl
      · exact h callback' hold
      · exact hstep task rest (by simp [next, hcallback, htasks]) (htasks ▸ h callback hmem)

theorem advance_perm (perform : σ → τ → σ × List τ × List ω) (s : σ)
    (callbacks : List (Callback κ τ)) (i : ℕ) : ((advance perform s callbacks i).1 = s ∧
      outstanding (advance perform s callbacks i).2.1 = outstanding callbacks) ∨
    ∃ task rest, next callbacks i = some task ∧ outstanding callbacks ~ task :: rest ∧
      (advance perform s callbacks i).1 = (perform s task).1 ∧
      outstanding (advance perform s callbacks i).2.1 ~ (perform s task).2.1 ++ rest := by
  cases hcallback : callbacks[i]? with
  | none => simp [advance, hcallback]
  | some callback =>
    obtain ⟨hi, heq⟩ := List.getElem?_eq_some_iff.mp hcallback
    have hsplit : callbacks = callbacks.take i ++ callback :: callbacks.drop (i + 1) := by
      rw [← heq, List.getElem_cons_drop, List.take_append_drop]
    cases htasks : callback.tasks with
    | nil =>
      refine .inl ⟨by simp [advance, hcallback, htasks], ?_⟩
      simp only [advance, hcallback, htasks, List.eraseIdx_eq_take_drop_succ]
      conv_rhs => rw [hsplit]
      simp [outstanding, htasks]
    | cons task rest =>
      refine .inr ⟨task, outstanding (callbacks.take i) ++ (rest ++
        outstanding (callbacks.drop (i + 1))), by simp [next, hcallback, htasks], ?_, ?_, ?_⟩
      · conv_lhs => rw [hsplit]
        simp only [outstanding, List.flatMap_append, List.flatMap_cons, htasks, List.cons_append]
        exact List.perm_middle
      · simp [advance, hcallback, htasks]
      · simp only [advance, hcallback, htasks, List.set_eq_take_append_cons_drop, hi, if_true,
          outstanding, List.flatMap_append, List.flatMap_cons, List.append_assoc]
        exact (List.perm_append_comm_assoc _ _ _)

theorem advance_split (perform : σ → τ → σ × List τ × List ω) (s : σ)
    (callbacks : List (Callback κ τ)) (i : ℕ) :
    ((advance perform s callbacks i).1 = s ∧ (advance perform s callbacks i).2.2 = [] ∧
      outstanding (advance perform s callbacks i).2.1 = outstanding callbacks) ∨
    ∃ task rest, next callbacks i = some task ∧
      outstanding callbacks = outstanding (callbacks.take i) ++ task :: rest ∧
      (advance perform s callbacks i).1 = (perform s task).1 ∧
      (advance perform s callbacks i).2.2 = (perform s task).2.2 ∧
      outstanding (advance perform s callbacks i).2.1 =
        outstanding (callbacks.take i) ++ ((perform s task).2.1 ++ rest) := by
  cases hcallback : callbacks[i]? with
  | none => simp [advance, hcallback]
  | some callback =>
    obtain ⟨hi, heq⟩ := List.getElem?_eq_some_iff.mp hcallback
    have hsplit : callbacks = callbacks.take i ++ callback :: callbacks.drop (i + 1) := by
      rw [← heq, List.getElem_cons_drop, List.take_append_drop]
    have hall : outstanding callbacks = outstanding (callbacks.take i) ++
        (callback.tasks ++ outstanding (callbacks.drop (i + 1))) := by
      conv_lhs => rw [hsplit]
      rw [outstanding, List.flatMap_append, List.flatMap_cons]
      rfl
    cases htasks : callback.tasks with
    | nil =>
      refine .inl ⟨by simp [advance, hcallback, htasks], by simp [advance, hcallback, htasks], ?_⟩
      rw [hall, htasks, List.nil_append]
      simp only [advance, hcallback, htasks, List.eraseIdx_eq_take_drop_succ]
      rw [outstanding, List.flatMap_append]
      rfl
    | cons task rest =>
      refine .inr ⟨task, rest ++ outstanding (callbacks.drop (i + 1)),
        by simp [next, hcallback, htasks], ?_,
        by simp [advance, hcallback, htasks], by simp [advance, hcallback, htasks], ?_⟩
      · rw [hall, htasks, List.cons_append]
      · simp only [advance, hcallback, htasks, List.set_eq_take_append_cons_drop, hi, if_true]
        rw [outstanding, List.flatMap_append, List.flatMap_cons, List.append_assoc]
        rfl

inductive Settles (perform : σ → τ → σ × List τ × List ω) :
    σ → List τ → σ → List ω → Prop
  | done (s : σ) : Settles perform s [] s []
  | task {s s' : σ} {task : τ} {rest : List τ} {out : List ω} :
      Settles perform (perform s task).1 ((perform s task).2.1 ++ rest) s' out →
      Settles perform s (task :: rest) s' ((perform s task).2.2 ++ out)

theorem Settles.append {s s' : σ} {first rest : List τ} {out : List ω}
    (h : Settles perform s (first ++ rest) s' out) :
    ∃ between out₁ out₂, Settles perform s first between out₁ ∧
      Settles perform between rest s' out₂ ∧ out = out₁ ++ out₂ := by
  generalize hall : first ++ rest = all at h
  induction h generalizing first with
  | done s =>
    obtain ⟨rfl, rfl⟩ := List.append_eq_nil_iff.mp hall
    exact ⟨s, [], [], .done s, .done s, rfl⟩
  | @task s s' task rest' out h ih =>
    cases first with
    | nil =>
      obtain rfl := hall
      exact ⟨s, [], _, .done s, .task h, rfl⟩
    | cons task' first =>
      obtain ⟨rfl, rfl⟩ := List.cons.inj hall
      obtain ⟨between, out₁, out₂, hfirst, hrest, rfl⟩ := ih (List.append_assoc ..)
      exact ⟨between, _, out₂, .task hfirst, hrest, (List.append_assoc ..).symm⟩

theorem Settles.map {f : σ → σ} (hf : ∀ s task, perform (f s) task =
    (f (perform s task).1, (perform s task).2)) {s s' : σ} {tasks : List τ} {out : List ω}
    (h : Settles perform s tasks s' out) : Settles perform (f s) tasks (f s') out := by
  induction h with
  | done s => exact .done (f s)
  | @task s s' task rest out h ih =>
    have hperform := hf s task
    have htask : Settles perform (f s) (task :: rest) (f s') ((perform (f s) task).2.2 ++ out) :=
      .task (by rw [hperform]; exact ih)
    rwa [hperform] at htask

theorem Settles.preserves {I : σ → Prop} (hI : ∀ s task, I s → I (perform s task).1) {s s' : σ}
    {tasks : List τ} {out : List ω} (h : Settles perform s tasks s' out) (hs : I s) : I s' := by
  induction h with
  | done s => exact hs
  | task h ih => exact ih (hI _ _ hs)

theorem Settles.postpone {P : τ → Prop} {task : τ}
    (hclosed : ∀ s task', P task' → ∀ task'' ∈ (perform s task').2.1, P task'')
    (hswap : ∀ s task', P task' → perform (perform s task).1 task' =
        ((perform (perform s task').1 task).1, (perform s task').2))
    (hsame : ∀ s task', P task' → (perform (perform s task').1 task).2 = (perform s task).2)
    (hsilent : ∀ s, (perform s task).2.2 = []) {s s' : σ} {first rest : List τ} {out : List ω}
    (hfirst : ∀ task' ∈ first, P task')
    (h : Settles perform (perform s task).1 (first ++ ((perform s task).2.1 ++ rest)) s' out) :
    Settles perform s (first ++ task :: rest) s' out := by
  generalize hstate : (perform s task).1 = t at h
  generalize hlist : first ++ ((perform s task).2.1 ++ rest) = tasks at h
  induction h generalizing s first with
  | done t =>
    obtain ⟨rfl, hnil⟩ := List.append_eq_nil_iff.mp hlist
    subst hstate
    have hrun : Settles perform (perform s task).1 ((perform s task).2.1 ++ rest)
        (perform s task).1 [] := by
      rw [hnil]
      exact .done _
    have htask := hrun.task
    rwa [hsilent] at htask
  | @task t s' task' rest' out h ih =>
    subst hstate
    cases first with
    | nil =>
      have hrun := h.task
      rw [← hlist] at hrun
      have htask := hrun.task
      rwa [hsilent] at htask
    | cons task'' first =>
      obtain ⟨rfl, hrest⟩ := List.cons.inj hlist
      obtain ⟨hmem, hfirst⟩ := List.forall_mem_cons.mp hfirst
      have hcommutes := hswap s task'' hmem
      rw [hcommutes] at h ih ⊢
      have hafter : Settles perform (perform s task'').1
          (((perform s task'').2.1 ++ first) ++ task :: rest) s' out := by
        refine ih ?_ rfl ?_
        · intro task hmem'
          rcases List.mem_append.mp hmem' with hcalled | hold
          · exact hclosed s task'' hmem task hcalled
          · exact hfirst task hold
        · rw [hsame s task'' hmem, List.append_assoc, ← hrest]
          rfl
      rw [List.append_assoc] at hafter
      exact .task hafter

end EmbodiedAgent.Library.Interleaving
