import EmbodiedAgent.Library.History
import Mathlib.Data.List.ReduceOption

namespace EmbodiedAgent.Offline.DoubleBuffer

open Library History
open scoped List

section Model

variable {α : Type}

/-- Where the thread that calls `put` is. -/
inductive Producer (α : Type)
  | idle
  | putting (item : α)
  | evicting (item : α)
  | counting (item : α)
  | retrying (item : α)
  | accepting (item : α)
  | refusing

/-- Where the call of `close` is that found the buffer open. -/
inductive Closer
  | idle
  | closing
  | evicting
  | returned
  deriving DecidableEq

/-- In the queue `none` is the sentinel, among the results it is `StopIteration`. -/
structure State (α : Type) where
  queue : List (Option α) := []
  closed : Bool := false
  accepted : ℕ := 0
  dropped : ℕ := 0
  highWatermark : ℕ := 0
  producer : Producer α := .idle
  closer : Closer := .idle
  acceptedItems : List α := []
  results : List (Option α) := []

inductive Event (α : Type)
  | put (item : α)
  | insert
  | timeOut
  | evict
  | countDropped
  | insertAgain
  | accept
  | refuse
  | get
  | close
  | placeSentinel
  | evictForSentinel

def State.full (s : State α) : Bool := 2 ≤ s.queue.length

/-- The steps of `put`. -/
def put (dropOldest : Bool) (s : State α) (e : Event α) : State α :=
  match e, s.producer with
  | .put item, .idle => if s.closed then s else { s with producer := .putting item }
  | .insert, .putting item =>
    if s.full then
      -- without `drop_oldest` the call waits
      if dropOldest then { s with producer := .evicting item } else s
    else { s with queue := s.queue ++ [some item], producer := .accepting item }
  | .timeOut, .putting _ =>
    if s.full && !dropOldest then { s with producer := .refusing } else s
  | .evict, .evicting item => { s with queue := s.queue.tail, producer := .counting item }
  | .countDropped, .counting item =>
    { s with dropped := s.dropped + 1, producer := .retrying item }
  | .insertAgain, .retrying item =>
    -- a second `queue.Full` is not caught
    if s.full then { s with producer := .idle }
    else { s with queue := s.queue ++ [some item], producer := .accepting item }
  | .accept, .accepting item =>
    { s with
        accepted := s.accepted + 1
        highWatermark := max s.highWatermark s.queue.length
        acceptedItems := s.acceptedItems ++ [item]
        producer := .idle }
  | .refuse, .refusing => { s with dropped := s.dropped + 1, producer := .idle }
  | _, _ => s

def get (s : State α) : State α :=
  match s.queue with
  | [] => s
  | entry :: rest => { s with queue := rest, results := s.results ++ [entry] }

def close (dropOldest : Bool) (s : State α) (e : Event α) : State α :=
  match e, s.closer with
  | .close, .idle => if s.closed then s else { s with closed := true, closer := .closing }
  | .placeSentinel, .closing =>
    if s.full then
      if dropOldest then { s with closer := .evicting } else s
    else { s with queue := s.queue ++ [none], closer := .returned }
  | .evictForSentinel, .evicting =>
    match s.queue with
    | [] => { s with closer := .returned }
    | _ :: rest => { s with queue := rest, closer := .closing }
  | _, _ => s

def act (dropOldest : Bool) (s : State α) (e : Event α) : State α :=
  match e with
  | .get => get s
  | .close | .placeSentinel | .evictForSentinel => close dropOldest s e
  | _ => put dropOldest s e

def step (dropOldest : Bool) (s : State α) (e : Event α) : State α × Unit :=
  (act dropOldest s e, ())

def State.stream (s : State α) : List (Option α) := s.results ++ s.queue

def Producer.pending : Producer α → List α
  | .accepting item => [item]
  | _ => []

def Producer.uncounted : Producer α → ℕ
  | .counting _ => 1
  | _ => 0

def Producer.replaces : Producer α → Bool
  | .evicting _ | .counting _ | .retrying _ => true
  | _ => false

def enters (s : State α) (e : Event α) : Bool :=
  match e, s.producer with
  | .insert, .putting _ | .insertAgain, .retrying _ => !s.full
  | .evict, .evicting _ => true
  | _, _ => false

def crowded (s : State α) (e : Event α) : Bool :=
  match e, s.closer with
  | .placeSentinel, .closing => s.full
  | _, _ => false

/-- No `put` gets behind the sentinel, and the sentinel finds room. -/
structure Orderly (dropOldest : Bool) (s : State α) (e : Event α) : Prop where
  before : enters s e = true → s.closer ≠ .returned
  room : dropOldest = true → crowded s e = false

structure Inv (dropOldest : Bool) (s : State α) : Prop where
  order : s.stream.reduceOption <+ s.acceptedItems ++ s.producer.pending
  kept : dropOldest = false →
    s.stream.reduceOption = s.acceptedItems ++ s.producer.pending
  counted : (s.acceptedItems ++ s.producer.pending).length ≤
    s.stream.reduceOption.length + s.dropped + s.producer.uncounted
  accepted_eq : s.accepted = s.acceptedItems.length
  closed_iff : s.closed = true ↔ s.closer ≠ .idle
  ended : s.closer = .returned → ∃ items : List α, s.stream = items.map some ++ [none]
  unended : s.closer ≠ .returned → none ∉ s.stream
  waits : dropOldest = false → s.producer.replaces = false
  places : s.closer ≠ .evicting

end Model

section Steps

variable {α : Type} {dropOldest : Bool} {s next : State α} {e : Event α}

theorem eq_map_some {l : List (Option α)} (h : none ∉ l) : l = l.reduceOption.map some := by
  induction l with
  | nil => rfl
  | cons entry l ih =>
    rw [List.mem_cons, not_or] at h
    cases entry with
    | none => exact absurd rfl h.1
    | some item => rw [List.reduceOption_cons_of_some, List.map_cons, ← ih h.2]

theorem Inv.move (hi : Inv dropOldest s) {producer : Producer α}
    (hpending : producer.pending = s.producer.pending)
    (huncounted : producer.uncounted = s.producer.uncounted)
    (hwaits : dropOldest = false → producer.replaces = false) :
    Inv dropOldest { s with producer } := by
  refine { hi with order := ?_, kept := ?_, counted := ?_, waits := hwaits }
  · rw [hpending]
    exact hi.order
  · rw [hpending]
    exact hi.kept
  · rw [hpending, huncounted]
    exact hi.counted

theorem Inv.enter (hi : Inv dropOldest s) (item : α) (hpending : s.producer.pending = [])
    (huncounted : s.producer.uncounted = 0) (hopen : s.closer ≠ .returned) :
    Inv dropOldest
      { s with queue := s.queue ++ [some item], producer := .accepting item } := by
  have hstream : (s.results ++ (s.queue ++ [some item])).reduceOption =
      s.stream.reduceOption ++ [item] := by
    rw [← List.append_assoc, List.reduceOption_append]
    rfl
  have horder := hi.order
  have hkept := hi.kept
  have hcounted := hi.counted
  rw [hpending, List.append_nil] at horder hkept hcounted
  refine
    { hi with
      order := ?_, kept := ?_, counted := ?_, ended := fun h ↦ absurd h hopen
      unended := fun _ ↦ ?_, waits := fun _ ↦ rfl }
  · dsimp only [State.stream, Producer.pending]
    rw [hstream]
    exact horder.append (List.Sublist.refl _)
  · intro hdrop
    dsimp only [State.stream, Producer.pending]
    rw [hstream, hkept hdrop]
  · dsimp only [State.stream, Producer.pending, Producer.uncounted]
    rw [hstream, List.length_append, List.length_append]
    omega
  · have hnone := hi.unended hopen
    dsimp only [State.stream] at hnone ⊢
    simp only [List.mem_append, List.mem_singleton, reduceCtorEq, or_false] at hnone ⊢
    exact hnone

theorem Inv.evict (hi : Inv dropOldest s) {item : α} (hproducer : s.producer = .evicting item)
    (hopen : s.closer ≠ .returned) :
    Inv dropOldest { s with queue := s.queue.tail, producer := .counting item } := by
  have hdrop : dropOldest = true := by
    rcases Bool.eq_false_or_eq_true dropOldest with h | h
    · exact h
    · have hwaits := hi.waits h
      rw [hproducer] at hwaits
      cases hwaits
  have hsub : s.results ++ s.queue.tail <+ s.stream :=
    (List.Sublist.refl _).append (List.tail_sublist _)
  have hlength : s.stream.reduceOption.length ≤
      (s.results ++ s.queue.tail).reduceOption.length + 1 := by
    rw [State.stream, List.reduceOption_append, List.reduceOption_append, List.length_append,
      List.length_append]
    cases s.queue with
    | nil => exact Nat.le_succ _
    | cons entry rest =>
      cases entry with
      | none => exact Nat.le_succ _
      | some old =>
        rw [List.reduceOption_cons_of_some, List.tail_cons, List.length_cons]
        exact le_rfl
  have horder := hi.order
  have hcounted := hi.counted
  rw [hproducer] at horder hcounted
  refine
    { hi with
      order := ?_, kept := fun h ↦ ?_, counted := ?_, ended := fun h ↦ absurd h hopen
      unended := fun _ hmem ↦ hi.unended hopen (hsub.subset hmem), waits := fun h ↦ ?_ }
  · exact (hsub.filterMap id).trans horder
  · rw [hdrop] at h
    cases h
  · dsimp only [State.stream, Producer.pending, Producer.uncounted] at hcounted hlength ⊢
    omega
  · rw [hdrop] at h
    cases h

theorem Inv.count (hi : Inv dropOldest s) {item : α} (hproducer : s.producer = .counting item) :
    Inv dropOldest { s with dropped := s.dropped + 1, producer := .retrying item } := by
  have horder := hi.order
  have hkept := hi.kept
  have hcounted := hi.counted
  have hwaits := hi.waits
  rw [hproducer] at horder hkept hcounted hwaits
  refine { hi with order := horder, kept := hkept, counted := ?_, waits := hwaits }
  dsimp only [State.stream, Producer.pending, Producer.uncounted] at hcounted ⊢
  omega

theorem Inv.accept (hi : Inv dropOldest s) {item : α} (hproducer : s.producer = .accepting item) :
    Inv dropOldest
      { s with
        accepted := s.accepted + 1
        highWatermark := max s.highWatermark s.queue.length
        acceptedItems := s.acceptedItems ++ [item]
        producer := .idle } := by
  have horder := hi.order
  have hkept := hi.kept
  have hcounted := hi.counted
  rw [hproducer] at horder hkept hcounted
  refine
    { hi with
      order := ?_, kept := ?_, counted := ?_, accepted_eq := ?_, waits := fun _ ↦ rfl }
  · change s.stream.reduceOption <+ s.acceptedItems ++ [item] ++ []
    rw [List.append_nil]
    exact horder
  · change dropOldest = false → s.stream.reduceOption = s.acceptedItems ++ [item] ++ []
    rw [List.append_nil]
    exact hkept
  · change (s.acceptedItems ++ [item] ++ []).length ≤ _
    rw [List.append_nil]
    exact hcounted
  · rw [List.length_append, hi.accepted_eq]
    rfl

theorem Inv.refuse (hi : Inv dropOldest s) (hproducer : s.producer = .refusing) :
    Inv dropOldest { s with dropped := s.dropped + 1, producer := .idle } := by
  have horder := hi.order
  have hkept := hi.kept
  have hcounted := hi.counted
  rw [hproducer] at horder hkept hcounted
  refine { hi with order := horder, kept := hkept, counted := ?_, waits := fun _ ↦ rfl }
  dsimp only [State.stream, Producer.pending, Producer.uncounted] at hcounted ⊢
  omega

/-- What a step of `put` does. -/
inductive Puts (dropOldest : Bool) (s : State α) : Event α → State α → Prop
  | stays (e : Event α) : Puts dropOldest s e s
  | begins (item : α) (hplace : s.producer = .idle) (hopen : ¬s.closed = true) :
      Puts dropOldest s (.put item) { s with producer := .putting item }
  | replaces (item : α) (hplace : s.producer = .putting item) (hdrop : dropOldest = true) :
      Puts dropOldest s .insert { s with producer := .evicting item }
  | inserts (item : α) (hplace : s.producer = .putting item) (hroom : ¬s.full = true) :
      Puts dropOldest s .insert
        { s with queue := s.queue ++ [some item], producer := .accepting item }
  | timesOut (item : α) (hplace : s.producer = .putting item) :
      Puts dropOldest s .timeOut { s with producer := .refusing }
  | evicts (item : α) (hplace : s.producer = .evicting item) :
      Puts dropOldest s .evict { s with queue := s.queue.tail, producer := .counting item }
  | counts (item : α) (hplace : s.producer = .counting item) :
      Puts dropOldest s .countDropped
        { s with dropped := s.dropped + 1, producer := .retrying item }
  | raises (item : α) (hplace : s.producer = .retrying item) :
      Puts dropOldest s .insertAgain { s with producer := .idle }
  | insertsAgain (item : α) (hplace : s.producer = .retrying item) (hroom : ¬s.full = true) :
      Puts dropOldest s .insertAgain
        { s with queue := s.queue ++ [some item], producer := .accepting item }
  | accepts (item : α) (hplace : s.producer = .accepting item) :
      Puts dropOldest s .accept
        { s with
            accepted := s.accepted + 1
            highWatermark := max s.highWatermark s.queue.length
            acceptedItems := s.acceptedItems ++ [item]
            producer := .idle }
  | refuses (hplace : s.producer = .refusing) :
      Puts dropOldest s .refuse { s with dropped := s.dropped + 1, producer := .idle }

theorem put_puts (dropOldest : Bool) (s : State α) (e : Event α) :
    Puts dropOldest s e (put dropOldest s e) := by
  fun_cases put dropOldest s e
  · exact .stays _
  · exact .begins _ ‹_› ‹_›
  · exact .replaces _ ‹_› ‹_›
  · exact .stays _
  · exact .inserts _ ‹_› ‹_›
  · exact .timesOut _ ‹_›
  · exact .stays _
  · exact .evicts _ ‹_›
  · exact .counts _ ‹_›
  · exact .raises _ ‹_›
  · exact .insertsAgain _ ‹_› ‹_›
  · exact .accepts _ ‹_›
  · exact .refuses ‹_›
  · exact .stays _

/-- What a step of `close` does. -/
inductive Closes (dropOldest : Bool) (s : State α) : Event α → State α → Prop
  | stays (e : Event α) : Closes dropOldest s e s
  | begins (hplace : s.closer = .idle) (hopen : ¬s.closed = true) :
      Closes dropOldest s .close { s with closed := true, closer := .closing }
  | crowds (hplace : s.closer = .closing) (hfull : s.full = true) (hdrop : dropOldest = true) :
      Closes dropOldest s .placeSentinel { s with closer := .evicting }
  | places (hplace : s.closer = .closing) (hroom : ¬s.full = true) :
      Closes dropOldest s .placeSentinel
        { s with queue := s.queue ++ [none], closer := .returned }
  | givesUp (hplace : s.closer = .evicting) (hqueue : s.queue = []) :
      Closes dropOldest s .evictForSentinel { s with closer := .returned }
  | evicts (entry : Option α) (rest : List (Option α)) (hplace : s.closer = .evicting)
      (hqueue : s.queue = entry :: rest) :
      Closes dropOldest s .evictForSentinel { s with queue := rest, closer := .closing }

theorem close_closes (dropOldest : Bool) (s : State α) (e : Event α) :
    Closes dropOldest s e (close dropOldest s e) := by
  fun_cases close dropOldest s e
  · exact .stays _
  · exact .begins ‹_› ‹_›
  · exact .crowds ‹_› ‹_› ‹_›
  · exact .stays _
  · exact .places ‹_› ‹_›
  · exact .givesUp ‹_› ‹_›
  · exact .evicts _ _ ‹_› ‹_›
  · exact .stays _

theorem Inv.put (hi : Inv dropOldest s) (hputs : Puts dropOldest s e next)
    (hbefore : enters s e = true → s.closer ≠ .returned) : Inv dropOldest next := by
  cases hputs with
  | stays => exact hi
  | begins item hplace | timesOut item hplace | raises item hplace =>
    exact hi.move (by rw [hplace]; rfl) (by rw [hplace]; rfl) fun _ ↦ rfl
  | replaces item hplace hdrop =>
    exact hi.move (by rw [hplace]; rfl) (by rw [hplace]; rfl) fun h ↦
      absurd (hdrop.symm.trans h) Bool.noConfusion
  | inserts item hplace hroom | insertsAgain item hplace hroom =>
    refine hi.enter item (by rw [hplace]; rfl) (by rw [hplace]; rfl) (hbefore ?_)
    simp [enters, hplace, hroom]
  | evicts item hplace =>
    refine hi.evict hplace (hbefore ?_)
    simp [enters, hplace]
  | counts item hplace => exact hi.count hplace
  | accepts item hplace => exact hi.accept hplace
  | refuses hplace => exact hi.refuse hplace

theorem Inv.get (hi : Inv dropOldest s) : Inv dropOldest (get s) := by
  unfold DoubleBuffer.get
  split
  · exact hi
  · next entry rest hqueue =>
    have hstream : { s with queue := rest, results := s.results ++ [entry] }.stream =
        s.stream := by
      simp [State.stream, hqueue]
    refine { hi with order := ?_, kept := ?_, counted := ?_, ended := ?_, unended := ?_ }
    all_goals rw [hstream]
    · exact hi.order
    · exact hi.kept
    · exact hi.counted
    · exact hi.ended
    · exact hi.unended

theorem Inv.close (hi : Inv dropOldest s) (hcloses : Closes dropOldest s e next)
    (hroom : dropOldest = true → crowded s e = false) : Inv dropOldest next := by
  cases hcloses with
  | stays => exact hi
  | begins hplace =>
    have hunended := hi.unended (by rw [hplace]; exact Closer.noConfusion)
    exact
      { hi with
        closed_iff := ⟨fun _ h ↦ Closer.noConfusion h, fun _ ↦ rfl⟩
        ended := fun h ↦ Closer.noConfusion h
        unended := fun _ ↦ hunended
        places := fun h ↦ Closer.noConfusion h }
  | crowds hplace hfull hdrop =>
    have hcrowded := hroom hdrop
    simp only [crowded, hplace, hfull, Bool.true_eq_false] at hcrowded
  | places hplace =>
    have hopen : s.closer ≠ .returned := by
      rw [hplace]
      exact Closer.noConfusion
    have hplaced : s.results ++ (s.queue ++ [none]) = s.stream ++ [none] :=
      (List.append_assoc _ _ _).symm
    have hsame : (s.results ++ (s.queue ++ [none])).reduceOption = s.stream.reduceOption := by
      rw [hplaced, List.reduceOption_append]
      exact List.append_nil _
    refine
      { hi with
        order := ?_, kept := ?_, counted := ?_, closed_iff := ?_, ended := ?_, unended := ?_
        places := fun h ↦ Closer.noConfusion h }
    · exact hsame ▸ hi.order
    · exact hsame ▸ hi.kept
    · exact hsame ▸ hi.counted
    · have hclosed := hi.closed_iff.mpr (by rw [hplace]; exact Closer.noConfusion)
      exact ⟨fun _ h ↦ Closer.noConfusion h, fun _ ↦ hclosed⟩
    · intro _
      refine ⟨s.stream.reduceOption, ?_⟩
      rw [← eq_map_some (hi.unended hopen)]
      exact hplaced
    · exact fun h ↦ absurd rfl h
  | givesUp hplace | evicts _ _ hplace => exact absurd hplace hi.places

theorem Inv.step (hi : Inv dropOldest s) (horderly : Orderly dropOldest s e) :
    Inv dropOldest (act dropOldest s e) := by
  unfold act
  split
  · exact hi.get
  · exact hi.close (close_closes _ _ _) horderly.room
  · exact hi.close (close_closes _ _ _) horderly.room
  · exact hi.close (close_closes _ _ _) horderly.room
  · exact hi.put (put_puts _ _ _) horderly.before

theorem inv_start : Inv dropOldest ({} : State α) where
  order := List.Sublist.refl _
  kept := fun _ ↦ rfl
  counted := le_rfl
  accepted_eq := rfl
  closed_iff := ⟨fun h ↦ Bool.noConfusion h, fun h ↦ absurd rfl h⟩
  ended := fun h ↦ Closer.noConfusion h
  unended := fun _ ↦ List.not_mem_nil
  waits := fun _ ↦ rfl
  places := Closer.noConfusion

theorem inv_run {h : List (Event α)}
    (horderly : Along (step dropOldest) (Orderly dropOldest) {} h) :
    Inv dropOldest (run (step dropOldest) {} h) :=
  Along.preserves (step dropOldest) (fun _ _ hstep hi ↦ hi.step hstep) inv_start horderly

end Steps

variable {α : Type} {dropOldest : Bool} {s next : State α} {e : Event α}

def Producer.work : Producer α → ℕ
  | .idle => 0
  | .accepting _ | .refusing => 1
  | .retrying _ => 4
  | .counting _ => 5
  | .evicting _ => 6
  | .putting _ => 7

def Closer.work : Closer → ℕ
  | .idle | .returned => 0
  | .evicting => 3
  | .closing => 4

def State.work (s : State α) : ℕ := s.producer.work + s.closer.work + 2 * s.queue.length

theorem Puts.work (hputs : Puts dropOldest s e next) (hclosed : s.closed = true) :
    next = s ∨ next.work < s.work := by
  cases hputs with
  | stays => exact .inl rfl
  | begins item hplace hopen => exact absurd hclosed hopen
  | inserts item hplace | insertsAgain item hplace =>
    right
    simp only [State.work, hplace, Producer.work, List.length_append, List.length_singleton]
    omega
  | evicts item hplace =>
    right
    simp only [State.work, hplace, Producer.work, List.length_tail]
    omega
  | replaces item hplace | timesOut item hplace | counts item hplace | raises item hplace
  | accepts item hplace | refuses hplace =>
    right
    simp only [State.work, hplace, Producer.work]
    omega

theorem get_work : get s = s ∨ (get s).work < s.work := by
  unfold get
  split
  · exact .inl rfl
  · next entry rest hqueue =>
    right
    simp only [State.work, hqueue, List.length_cons]
    omega

theorem Closes.work (hcloses : Closes dropOldest s e next) (hclosed : s.closed = true) :
    next = s ∨ next.work < s.work := by
  cases hcloses with
  | stays => exact .inl rfl
  | begins hplace hopen => exact absurd hclosed hopen
  | crowds hplace | givesUp hplace =>
    right
    simp only [State.work, hplace, Closer.work]
    omega
  | places hplace =>
    right
    simp only [State.work, hplace, Closer.work, List.length_append, List.length_singleton]
    omega
  | evicts entry rest hplace hqueue =>
    right
    simp only [State.work, hplace, hqueue, Closer.work, List.length_cons]
    omega

theorem act_work (hclosed : s.closed = true) :
    act dropOldest s e = s ∨ (act dropOldest s e).work < s.work := by
  unfold act
  split
  · exact get_work
  · exact (close_closes _ _ _).work hclosed
  · exact (close_closes _ _ _).work hclosed
  · exact (close_closes _ _ _).work hclosed
  · exact (put_puts _ _ _).work hclosed

/-- No thread can go on, unless it calls the open buffer again. -/
def Settled (dropOldest : Bool) (s : State α) : Prop := ∀ e, act dropOldest s e = s

theorem Settled.queue_eq (hs : Settled dropOldest s) : s.queue = [] := by
  have hget : get s = s := hs .get
  unfold get at hget
  split at hget
  · assumption
  · next entry rest hqueue =>
    have hlength := congrArg (List.length ∘ State.queue) hget
    simp [hqueue] at hlength

theorem Settled.producer_eq (hs : Settled dropOldest s) : s.producer = .idle := by
  have hfull : s.full = false := by simp [State.full, hs.queue_eq]
  have hput : ∀ e, put dropOldest s e = act dropOldest s e →
      (put dropOldest s e).producer = s.producer := by
    intro e he
    rw [he, hs e]
  cases hproducer : s.producer with
  | idle => rfl
  | putting item =>
    have h := hput .insert rfl
    simp [put, hproducer, hfull] at h
  | evicting item =>
    have h := hput .evict rfl
    simp [put, hproducer] at h
  | counting item =>
    have h := hput .countDropped rfl
    simp [put, hproducer] at h
  | retrying item =>
    have h := hput .insertAgain rfl
    simp [put, hproducer, hfull] at h
  | accepting item =>
    have h := hput .accept rfl
    simp [put, hproducer] at h
  | refusing =>
    have h := hput .refuse rfl
    simp [put, hproducer] at h

theorem Settled.closer_eq (hs : Settled dropOldest s) (hi : Inv dropOldest s)
    (hclosed : s.closed = true) : s.closer = .returned := by
  cases hcloser : s.closer with
  | idle => exact absurd hcloser (hi.closed_iff.mp hclosed)
  | closing =>
    have hplace : close dropOldest s .placeSentinel = s := hs .placeSentinel
    have h := congrArg State.closer hplace
    simp [close, hcloser, State.full, hs.queue_eq] at h
  | evicting => exact absurd hcloser hi.places
  | returned => rfl

/-- What `get` gave is in the order of acceptance, `StopIteration` last. -/
structure InOrder (s : State α) (delivered : List α) : Prop where
  results : s.results = delivered.map some ∨ s.results = delivered.map some ++ [none]
  order : delivered <+ s.acceptedItems ++ s.producer.pending

/-- The account of a buffer that was closed and drained. -/
structure Accounted (dropOldest : Bool) (s : State α) (delivered : List α) : Prop where
  results : s.results = delivered.map some ++ [none]
  order : delivered <+ s.acceptedItems
  all : dropOldest = false → delivered = s.acceptedItems
  counted : s.accepted ≤ delivered.length + s.dropped

theorem reduceOption_map_some (l : List α) : (l.map some).reduceOption = l := by
  induction l with
  | nil => rfl
  | cons a l ih => rw [List.map_cons, List.reduceOption_cons_of_some, ih]

theorem Inv.inOrder (hi : Inv dropOldest s) : ∃ delivered, InOrder s delivered := by
  have hbefore : s.results <+: s.stream := List.prefix_append _ _
  have horder : s.results.reduceOption <+ s.acceptedItems ++ s.producer.pending :=
    (hbefore.sublist.filterMap id).trans hi.order
  refine ⟨s.results.reduceOption, ?_, horder⟩
  by_cases hcloser : s.closer = .returned
  · obtain ⟨items, hitems⟩ := hi.ended hcloser
    rw [hitems, List.prefix_concat_iff] at hbefore
    rcases hbefore with heq | hbefore
    · right
      rw [heq, List.reduceOption_append, reduceOption_map_some]
      exact congrArg (fun l ↦ l.map some ++ [none]) (List.append_nil items).symm
    · left
      refine eq_map_some fun hmem ↦ ?_
      obtain ⟨item, -, hnone⟩ := List.mem_map.mp (hbefore.subset hmem)
      exact Option.some_ne_none item hnone
  · left
    exact eq_map_some fun hmem ↦ hi.unended hcloser (hbefore.subset hmem)

theorem Inv.accounted (hi : Inv dropOldest s) (hclosed : s.closed = true)
    (hs : Settled dropOldest s) : ∃ delivered, Accounted dropOldest s delivered := by
  obtain ⟨items, hitems⟩ := hi.ended (hs.closer_eq hi hclosed)
  have hstream : s.stream = s.results := by rw [State.stream, hs.queue_eq, List.append_nil]
  have hreduce : s.stream.reduceOption = items := by
    rw [hitems, List.reduceOption_append, reduceOption_map_some]
    exact List.append_nil items
  have hpending : s.producer.pending = [] := by rw [hs.producer_eq]; rfl
  have hcounted := hi.counted
  rw [hpending, List.append_nil, hreduce, hs.producer_eq] at hcounted
  refine ⟨items, ?_, ?_, ?_, hi.accepted_eq ▸ hcounted⟩
  · rw [← hstream, hitems]
  · have horder := hi.order
    rwa [hpending, List.append_nil, hreduce] at horder
  · intro hdrop
    have hkept := hi.kept hdrop
    rwa [hpending, List.append_nil, hreduce] at hkept

instance : Decidable (Orderly dropOldest s e) :=
  decidable_of_iff ((enters s e = true → s.closer ≠ .returned) ∧
    (dropOldest = true → crowded s e = false))
    ⟨fun h ↦ ⟨h.1, h.2⟩, fun h ↦ ⟨h.before, h.room⟩⟩

/-- Where that is so, everything that was accepted is accounted for. -/
theorem accounts_for_accepted {h : List (Event α)}
    (horderly : Along (step dropOldest) (Orderly dropOldest) {} h) :
    (∃ delivered, InOrder (run (step dropOldest) {} h) delivered) ∧
    ((run (step dropOldest) {} h).closed = true →
      (∀ e, act dropOldest (run (step dropOldest) {} h) e = run (step dropOldest) {} h ∨
        (act dropOldest (run (step dropOldest) {} h) e).work <
          (run (step dropOldest) {} h).work) ∧
      (Settled dropOldest (run (step dropOldest) {} h) →
        ∃ delivered, Accounted dropOldest (run (step dropOldest) {} h) delivered)) := by
  have hi := inv_run horderly
  refine ⟨hi.inOrder, fun hclosed ↦ ⟨fun e ↦ act_work hclosed, ?_⟩⟩
  exact fun hs ↦ hi.accounted hclosed hs

/-- Two items fill the buffer, a third one replaces the first. -/
def replaced : List (Event ℕ) :=
  [.put 1, .insert, .accept, .put 2, .insert, .accept, .put 3, .insert, .evict, .countDropped,
    .insertAgain, .accept, .get, .close, .placeSentinel, .get, .get]

theorem replaced_accounted :
    ∃ delivered, Accounted true (run (step true) {} replaced) delivered :=
  ((accounts_for_accepted (by decide)).2 rfl).2 fun e ↦ by cases e <;> rfl

def closedFull : List (Event ℕ) :=
  [.put 1, .insert, .accept, .put 2, .insert, .accept, .close, .placeSentinel, .evictForSentinel,
    .placeSentinel, .get, .get]

theorem closedFull_unaccounted : ¬ ∀ h : List (Event ℕ),
    (run (step true) {} h).closed = true → Settled true (run (step true) {} h) →
      ∃ delivered, Accounted true (run (step true) {} h) delivered := by
  intro hall
  obtain ⟨delivered, haccounted⟩ := hall closedFull rfl fun e ↦ by cases e <;> rfl
  have hresults : [some 2, none] = delivered.map some ++ [none] := haccounted.results
  have hcounted : 2 ≤ delivered.length + 0 := haccounted.counted
  have hlength := congrArg List.length hresults
  simp only [List.length_cons, List.length_nil, List.length_append, List.length_map] at hlength
  omega

-- The consumer empties the full buffer before `close` evicts: nothing ever stops the consumer.
example : (run (step true) ({} : State ℕ)
    [.put 1, .insert, .accept, .put 2, .insert, .accept, .close, .placeSentinel, .get, .get,
      .evictForSentinel]).results = [some 1, some 2] := by decide

-- A call of `put` that found the buffer open puts its item behind the sentinel.
example : (run (step false) ({} : State ℕ)
    [.put 1, .close, .placeSentinel, .insert, .accept, .get, .get]).results = [none, some 1] := by
  decide

end EmbodiedAgent.Offline.DoubleBuffer
