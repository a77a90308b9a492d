import Mathlib.Data.List.Basic

namespace EmbodiedAgent.Library

/-- How a run ends: with a value, with an error, or when a loop has used up its fuel. -/
inductive Ending (ε α : Type)
  | value (a : α)
  | raised (error : ε)
  | unfinished

def Ending.failure {ε α : Type} : Ending ε α → Option ε
  | .raised error => some error
  | _ => none

def Program (σ ε α : Type) : Type := σ → Ending ε α × σ

namespace Program

variable {σ ε δ α β : Type}

variable (m : Program σ ε α)

instance : Monad (Program σ ε) where
  pure a := fun s ↦ (.value a, s)
  bind m f := fun s ↦
    match m s with
    | (.value a, s) => f a s
    | (.raised error, s) => (.raised error, s)
    | (.unfinished, s) => (.unfinished, s)

def raise (error : ε) : Program σ ε α := fun s ↦ (.raised error, s)

def unfinished : Program σ ε α := fun s ↦ (.unfinished, s)

/-- `try` with one handler for every error. -/
def handle (handler : ε → Program σ ε α) : Program σ ε α := fun s ↦
  match m s with
  | (.value a, s) => (.value a, s)
  | (.raised error, s) => handler error s
  | (.unfinished, s) => (.unfinished, s)

/-- `try` with a `finally` part. -/
def ensure (finally' : Program σ ε Unit) : Program σ ε α := fun s ↦
  match m s with
  | (.value a, s) => (finally' >>= fun _ ↦ pure a) s
  | (.raised error, s) => (finally' >>= fun _ ↦ raise error) s
  | (.unfinished, s) => (.unfinished, s)

/-- What `m` raises is taken as a value. -/
def attempt : Program σ ε (Except ε α) :=
  handle (m >>= fun a ↦ pure (.ok a)) fun error ↦ pure (.error error)

def get : Program σ ε σ := fun s ↦ (.value s, s)

def modify (f : σ → σ) : Program σ ε Unit := fun s ↦ (.value (), f s)

def invoke (answer : σ → Except δ α) (wrap : δ → ε) (record : Except δ α → σ → σ) :
    Program σ ε α := fun s ↦
  match answer s with
  | .ok a => (.value a, record (.ok a) s)
  | .error error => (.raised (wrap error), record (.error error) s)

def ofExcept : Except ε α → Program σ ε α
  | .ok a => pure a
  | .error error => raise error

def iterate (body : α → Program σ ε (α ⊕ β)) : ℕ → α → Program σ ε β
  | 0, _ => unfinished
  | fuel + 1, a => body a >>= fun
    | .inl a => iterate body fuel a
    | .inr b => pure b

def Met (Q : α → σ → Prop) (E : ε → σ → Prop) (U : σ → Prop) : Ending ε α × σ → Prop
  | (.value a, s) => Q a s
  | (.raised error, s) => E error s
  | (.unfinished, s) => U s

def Meets (s : σ) (Q : α → σ → Prop) (E : ε → σ → Prop) (U : σ → Prop) : Prop :=
  Met Q E U (m s)

section Rules

variable {m : Program σ ε α} {f : α → Program σ ε β} {s : σ} {a : α} {error : ε}
  {Q R : α → σ → Prop} {P : β → σ → Prop} {E F : ε → σ → Prop} {U V : σ → Prop}

theorem meets_pure (h : Q a s) : Meets (pure a) s Q E U := h

theorem meets_raise (h : E error s) : Meets (raise error) s Q E U := h

theorem meets_get_bind {f : σ → Program σ ε β} (h : Meets (f s) s P E U) :
    Meets (get >>= f) s P E U := h

theorem meets_modify {g : σ → σ} {Q : Unit → σ → Prop} (h : Q () (g s)) :
    Meets (modify g) s Q E U := h

theorem meets_modify_bind {g : σ → σ} {f : Unit → Program σ ε β} (h : Meets (f ()) (g s) P E U) :
    Meets (modify g >>= f) s P E U := h

theorem Meets.mono (h : Meets m s R F V) (hQ : ∀ a s, R a s → Q a s) (hE : ∀ e s, F e s → E e s)
    (hU : ∀ s, V s → U s) : Meets m s Q E U := by
  unfold Meets at h ⊢
  generalize m s = x at h ⊢
  obtain ⟨r, s'⟩ := x
  cases r with
  | value a => exact hQ a s' h
  | raised e => exact hE e s' h
  | unfinished => exact hU s' h

theorem Meets.imp (h : Meets m s R E U) (hQ : ∀ a s, R a s → Q a s) : Meets m s Q E U :=
  h.mono hQ (fun _ _ ↦ id) fun _ ↦ id

theorem Meets.state {P : σ → Prop} (h : Meets m s (fun _ ↦ P) (fun _ ↦ P) P) : P (m s).2 := by
  unfold Meets at h
  generalize m s = x at h ⊢
  obtain ⟨r, s'⟩ := x
  cases r with
  | value a => exact h
  | raised e => exact h
  | unfinished => exact h

theorem Meets.finished {P : σ → Prop} (h : Meets m s (fun _ ↦ P) (fun _ ↦ P) U)
    (hfinished : (m s).1 ≠ .unfinished) : P (m s).2 := by
  unfold Meets at h
  generalize m s = x at h hfinished ⊢
  obtain ⟨r, s'⟩ := x
  cases r with
  | value a => exact h
  | raised e => exact h
  | unfinished => exact absurd rfl hfinished

theorem Meets.bind (h : Meets m s R E U) (hf : ∀ a s, R a s → Meets (f a) s P E U) :
    Meets (m >>= f) s P E U := by
  have hbind : (m >>= f) s = match m s with
    | (.value a, s) => f a s
    | (.raised error, s) => (.raised error, s)
    | (.unfinished, s) => (.unfinished, s) := rfl
  unfold Meets at h
  rw [Meets, hbind]
  generalize m s = x at h ⊢
  obtain ⟨r, s'⟩ := x
  cases r with
  | value a => exact hf a s' h
  | raised e => exact h
  | unfinished => exact h

theorem Meets.handle {handler : ε → Program σ ε α} (h : Meets m s Q F U)
    (hhandler : ∀ e s, F e s → Meets (handler e) s Q E U) :
    Meets (Program.handle m handler) s Q E U := by
  unfold Meets at h
  unfold Meets Program.handle
  generalize m s = x at h ⊢
  obtain ⟨r, s'⟩ := x
  cases r with
  | value a => exact h
  | raised e => exact hhandler e s' h
  | unfinished => exact h

theorem Meets.ensure {finally' : Program σ ε Unit} (h : Meets m s R F U)
    (hvalue : ∀ a s, R a s → Meets finally' s (fun _ ↦ Q a) E U)
    (hraised : ∀ e s, F e s → Meets finally' s (fun _ ↦ E e) E U) :
    Meets (Program.ensure m finally') s Q E U := by
  unfold Meets at h
  unfold Meets Program.ensure
  generalize m s = x at h ⊢
  obtain ⟨r, s'⟩ := x
  cases r with
  | value a => exact (hvalue a s' h).bind fun _ _ h ↦ meets_pure h
  | raised e => exact (hraised e s' h).bind fun _ _ h ↦ meets_raise h
  | unfinished => exact h

theorem Meets.attempt {Q : Except ε α → σ → Prop} (h : Meets m s (fun a ↦ Q (.ok a))
    (fun e ↦ Q (.error e)) U) : Meets (Program.attempt m) s Q E U :=
  (h.bind fun _ _ h ↦ meets_pure h).handle fun _ _ h ↦ meets_pure h

theorem meets_invoke {answer : σ → Except δ α} {wrap : δ → ε} {record : Except δ α → σ → σ}
    (hok : ∀ a, answer s = .ok a → Q a (record (.ok a) s))
    (herror : ∀ e, answer s = .error e → E (wrap e) (record (.error e) s)) :
    Meets (invoke answer wrap record) s Q E U := by
  unfold Meets invoke
  cases h : answer s with
  | ok a => exact hok a h
  | error e => exact herror e h

theorem meets_ofExcept {r : Except ε α} (hok : ∀ a, r = .ok a → Q a s)
    (herror : ∀ e, r = .error e → E e s) : Meets (ofExcept r) s Q E U := by
  cases r with
  | ok a => exact hok a rfl
  | error e => exact herror e rfl

theorem meets_ite {c : Prop} [Decidable c] {m' : Program σ ε α} (h : c → Meets m s Q E U)
    (h' : ¬ c → Meets m' s Q E U) : Meets (if c then m else m') s Q E U := by
  split_ifs with hc
  · exact h hc
  · exact h' hc

theorem meets_iterate {body : α → Program σ ε (α ⊕ β)} {I : α → σ → Prop}
    (hbody : ∀ a s, I a s → Meets (body a) s (fun r s ↦ r.elim (I · s) (P · s)) E U)
    (hU : ∀ a s, I a s → U s) (fuel : ℕ) (h : I a s) : Meets (iterate body fuel a) s P E U := by
  induction fuel generalizing a s with
  | zero => exact hU a s h
  | succ fuel ih =>
    refine (hbody a s h).bind fun r s hr ↦ ?_
    cases r with
    | inl a => exact ih hr
    | inr b => exact meets_pure hr

end Rules

variable {R : σ → σ → Prop} {F : ε → Prop} {V : α → Prop} {W : β → Prop} {m : Program σ ε α}
  {f : α → Program σ ε β}

def Relates (R : σ → σ → Prop) (F : ε → Prop) (m : Program σ ε α) (V : α → Prop) : Prop :=
  ∀ s, Meets m s (fun a s' ↦ V a ∧ R s s') (fun e s' ↦ F e ∧ R s s') (R s)

theorem Relates.meets_bind {s : σ} {P : β → σ → Prop} {E : ε → σ → Prop} {U : σ → Prop}
    (hm : Relates R F m V) (hf : ∀ a s', V a → R s s' → Meets (f a) s' P E U)
    (hE : ∀ e s', F e → R s s' → E e s') (hU : ∀ s', R s s' → U s') : Meets (m >>= f) s P E U :=
  ((hm s).mono (fun _ _ ↦ id) (fun e s' h ↦ hE e s' h.1 h.2) hU).bind
    fun a s' h ↦ hf a s' h.1 h.2

theorem Relates.imp {X : α → Prop} (hm : Relates R F m V) (hV : ∀ a, V a → X a) :
    Relates R F m X := fun s ↦
  (hm s).imp fun a _ h ↦ ⟨hV a h.1, h.2⟩

theorem Relates.attempt {G : ε → Prop} (hm : Relates R G m V) :
    Relates R F (Program.attempt m) fun _ ↦ True := fun s ↦
  Meets.attempt ((hm s).mono (fun _ _ h ↦ ⟨trivial, h.2⟩) (fun _ _ h ↦ ⟨trivial, h.2⟩)
    fun _ h ↦ h)

variable [IsPreorder σ R]

theorem relates_pure {a : α} (h : V a) : Relates R F (pure a) V := fun s ↦
  meets_pure ⟨h, refl_of R s⟩

theorem relates_raise {error : ε} (h : F error) : Relates R F (raise error : Program σ ε α) V :=
  fun s ↦ meets_raise ⟨h, refl_of R s⟩

theorem Relates.bind (hm : Relates R F m V) (hf : ∀ a, V a → Relates R F (f a) W) :
    Relates R F (m >>= f) W := by
  refine fun s ↦ hm.meets_bind (fun a s' ha h ↦ (hf a ha s').mono ?_ ?_ ?_) ?_ ?_
  · exact fun b s'' h' ↦ ⟨h'.1, trans_of R h h'.2⟩
  · exact fun e s'' h' ↦ ⟨h'.1, trans_of R h h'.2⟩
  · exact fun s'' h' ↦ trans_of R h h'
  · exact fun e s' he h ↦ ⟨he, h⟩
  · exact fun s' h ↦ h

theorem Relates.meets_modify_bind {g : σ → σ} {s : σ} {f : Unit → Program σ ε β}
    (hf : Relates R F (f ()) W) (hg : R s (g s)) :
    Meets (modify g >>= f) s (fun b s' ↦ W b ∧ R s s') (fun e s' ↦ F e ∧ R s s') (R s) :=
  Program.meets_modify_bind ((hf (g s)).mono (fun _ _ h ↦ ⟨h.1, trans_of R hg h.2⟩)
    (fun _ _ h ↦ ⟨h.1, trans_of R hg h.2⟩) fun _ h ↦ trans_of R hg h)

theorem Relates.handle {handler : ε → Program σ ε α} (hm : Relates R F m V)
    (hh : ∀ e, F e → Relates R F (handler e) V) : Relates R F (Program.handle m handler) V := by
  refine fun s ↦ (hm s).handle fun e s' h ↦ (hh e h.1 s').mono ?_ ?_ ?_
  · exact fun b s'' h' ↦ ⟨h'.1, trans_of R h.2 h'.2⟩
  · exact fun e s'' h' ↦ ⟨h'.1, trans_of R h.2 h'.2⟩
  · exact fun s'' h' ↦ trans_of R h.2 h'

omit [IsPreorder σ R] in
theorem relates_ite {c : Prop} [Decidable c] {m' : Program σ ε α} (h : c → Relates R F m V)
    (h' : ¬ c → Relates R F m' V) : Relates R F (if c then m else m') V := by
  split_ifs with hc
  · exact h hc
  · exact h' hc

theorem Relates.ensure {finally' : Program σ ε Unit} (hm : Relates R F m V)
    (hf : Relates R F finally' fun _ ↦ True) : Relates R F (Program.ensure m finally') V := by
  refine fun s ↦ (hm s).ensure (fun a s' h ↦ (hf s').mono ?_ ?_ ?_)
    (fun e s' h ↦ (hf s').mono ?_ ?_ ?_)
  · exact fun _ s'' h' ↦ ⟨h.1, trans_of R h.2 h'.2⟩
  · exact fun e s'' h' ↦ ⟨h'.1, trans_of R h.2 h'.2⟩
  · exact fun s'' h' ↦ trans_of R h.2 h'
  · exact fun _ s'' h' ↦ ⟨h.1, trans_of R h.2 h'.2⟩
  · exact fun e s'' h' ↦ ⟨h'.1, trans_of R h.2 h'.2⟩
  · exact fun s'' h' ↦ trans_of R h.2 h'

omit [IsPreorder σ R] in
theorem relates_join {c : Prop} [Decidable c] {m : Program σ ε β} {k : Unit → Program σ ε β}
    (hk : Relates R F (k ()) W) (h : c → Relates R F (k ()) W → Relates R F m W) :
    Relates R F (if c then m else k ()) W :=
  relates_ite (fun hc ↦ h hc hk) fun _ ↦ hk

theorem relates_iterate {body : α → Program σ ε (α ⊕ β)}
    (h : ∀ a, Relates R F (body a) fun _ ↦ True) (fuel : ℕ) (a : α) :
    Relates R F (iterate body fuel a) fun _ ↦ True := by
  intro s
  refine meets_iterate (I := fun _ ↦ R s) (fun a s' hr ↦ ?_) (fun _ _ ↦ id) fuel (refl_of R s)
  refine (h a s').mono (fun r s'' h' ↦ ?_) (fun _ _ h' ↦ ⟨h'.1, trans_of R hr h'.2⟩)
    fun _ ↦ trans_of R hr
  cases r with
  | inl a => exact trans_of R hr h'.2
  | inr b => exact ⟨trivial, trans_of R hr h'.2⟩

end Program

end EmbodiedAgent.Library
