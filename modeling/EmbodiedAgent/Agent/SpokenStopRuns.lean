import EmbodiedAgent.Agent.SpokenStop

namespace EmbodiedAgent.Agent.SpokenStop

open Library History ActionSequence SequentialActionPublisher

section Publishing

variable {q : SequentialActionPublisher} {pc : PublishPc} {expired : Bool} {generation : ℕ}
  {reason : String}

def Spent (q : SequentialActionPublisher) : PublishPc → Prop
  | .checking batch _ | .awaiting batch _ => batch.generation < q.cancelGeneration
  | .failed batch reason => batch.generation < q.cancelGeneration ∧ reason = q.cancelReason
  | .finished _ => True
  | _ => False

def readGeneration : PublishPc → Option ℕ
  | .checking batch _ | .sending batch _ _ | .awaiting batch _ | .failed batch _
  | .stopping batch _ => some batch.generation
  | _ => none

def Unstarted : PublishPc → Prop
  | .starting _ _ => True
  | _ => False

def Unwaiting : PublishPc → Prop
  | .starting _ waitForResults => waitForResults = false
  | .checking batch _ | .sending batch _ _ => batch.waitForResults = false
  | .awaiting _ _ | .failed _ _ | .stopping _ _ => False
  | .finished _ => True

theorem Spent.congr {q' : SequentialActionPublisher} (h : Spent q pc)
    (hgeneration : q'.cancelGeneration = q.cancelGeneration)
    (hreason : q'.cancelReason = q.cancelReason) : Spent q' pc := by
  cases pc <;> simp_all [Spent]

theorem awaitStep_outdated {batch : Batch} (left : List ActionCommand) (expired : Bool)
    (h : batch.generation < q.cancelGeneration) :
    (∃ report, (q.awaitStep batch left expired).1 = .finished report) ∨
      (q.awaitStep batch left expired).1 = .failed batch q.cancelReason := by
  cases left with
  | nil => exact .inl ⟨_, rfl⟩
  | cons command left =>
    simp only [awaitStep, ne_eq, h.ne', not_false_eq_true, if_true]
    split <;> exact .inr rfl

theorem Spent.step (h : Spent q pc) :
    Spent q (q.publishStep pc expired).1 ∧ (q.publishStep pc expired).2.2 = none := by
  cases pc with
  | starting actions waitForResults => exact h.elim
  | checking batch left =>
    cases left with
    | nil =>
      simp only [publishStep]
      split_ifs
      · exact ⟨h, rfl⟩
      · exact ⟨trivial, rfl⟩
    | cons command left =>
      have hne : q.cancelGeneration ≠ batch.generation := Nat.ne_of_gt h
      simp only [publishStep, if_pos hne]
      exact ⟨trivial, trivial⟩
  | sending batch command left => exact h.elim
  | awaiting batch left =>
    refine ⟨?_, rfl⟩
    rcases awaitStep_outdated left expired h with ⟨report, hfinished⟩ | hfailed
    · simp only [publishStep, hfinished]
      trivial
    · simp only [publishStep, hfailed]
      exact ⟨h, rfl⟩
  | failed batch reason =>
    simp only [publishStep, if_pos h.2]
    exact ⟨trivial, trivial⟩
  | stopping batch reason => exact h.elim
  | finished report => exact ⟨trivial, rfl⟩

theorem awaitStep_generation (q : SequentialActionPublisher) (batch : Batch)
    (left : List ActionCommand) (expired : Bool) {generation : ℕ}
    (h : readGeneration (q.awaitStep batch left expired).1 = some generation) :
    generation = batch.generation := by
  cases left with
  | nil => cases h
  | cons command left =>
    simp only [awaitStep] at h
    split at h
    · split_ifs at h <;> exact (Option.some.inj h).symm
    · split_ifs at h <;> exact (Option.some.inj h).symm

theorem publishStep_generation
    (h : readGeneration (q.publishStep pc expired).1 = some generation) :
    readGeneration pc = some generation ∨ Unstarted pc ∧ generation = q.cancelGeneration := by
  cases pc with
  | starting actions waitForResults =>
    simp only [publishStep] at h
    split_ifs at h
    · cases h
    · exact .inr ⟨trivial, (Option.some.inj h).symm⟩
  | checking batch left =>
    left
    cases left with
    | nil =>
      simp only [publishStep] at h
      split_ifs at h
      · exact h
      · cases h
    | cons command left =>
      simp only [publishStep] at h
      split_ifs at h
      · cases h
      · exact h
  | sending batch command left => exact .inl h
  | awaiting batch left =>
    obtain rfl := awaitStep_generation q batch left expired h
    exact .inl rfl
  | failed batch reason =>
    left
    simp only [publishStep] at h
    split_ifs at h
    · cases h
    · exact h
  | stopping batch reason => cases h
  | finished report => cases h

theorem awaitStep_started (q : SequentialActionPublisher) (batch : Batch)
    (left : List ActionCommand) (expired : Bool) :
      ¬ Unstarted (q.awaitStep batch left expired).1 := by
  cases left with
  | nil => exact id
  | cons command left =>
    simp only [awaitStep]
    split
    · split_ifs <;> exact id
    · split_ifs <;> exact id

theorem publishStep_started (q : SequentialActionPublisher) (pc : PublishPc) (expired : Bool) :
    ¬ Unstarted (q.publishStep pc expired).1 := by
  cases pc with
  | starting actions waitForResults =>
    simp only [publishStep]
    split_ifs <;> exact id
  | checking batch left =>
    cases left with
    | nil =>
      simp only [publishStep]
      split_ifs <;> exact id
    | cons command left =>
      simp only [publishStep]
      split_ifs <;> exact id
  | sending batch command left => exact id
  | awaiting batch left => exact awaitStep_started q batch left expired
  | failed batch reason =>
    simp only [publishStep]
    split_ifs <;> exact id
  | stopping batch reason => exact id
  | finished report => exact id

theorem Unwaiting.step (h : Unwaiting pc) : Unwaiting (q.publishStep pc expired).1 := by
  cases pc with
  | starting actions waitForResults =>
    simp only [publishStep]
    split_ifs
    · trivial
    · exact h
  | checking batch left =>
    cases left with
    | nil =>
      simp only [publishStep, show batch.waitForResults = false from h]
      trivial
    | cons command left =>
      simp only [publishStep]
      split_ifs
      · trivial
      · exact h
  | sending batch command left => exact h
  | awaiting batch left => exact h.elim
  | failed batch reason => exact h.elim
  | stopping batch reason => exact h.elim
  | finished report => trivial

theorem Unwaiting.sending {action : ActionCommand} (h : Unwaiting pc)
    (hsent : (q.publishStep pc expired).2.2 = some action) :
    ∃ batch command left, pc = .sending batch command left := by
  cases pc with
  | starting actions waitForResults =>
    simp only [publishStep] at hsent
    split_ifs at hsent
  | checking batch left =>
    cases left with
    | nil =>
      simp only [publishStep] at hsent
      split_ifs at hsent
    | cons command left =>
      simp only [publishStep] at hsent
      split_ifs at hsent
  | sending batch command left => exact ⟨batch, command, left, rfl⟩
  | awaiting batch left => exact h.elim
  | failed batch reason => exact h.elim
  | stopping batch reason => exact h.elim
  | finished report => cases hsent

end Publishing

variable {queue : ContinuousCommandQueue} {s : State} {event : Event} {b : ℕ}

def WorkerPc.unread : WorkerPc → Prop
  | .holding _ | .running _ => True
  | .publishing _ pc => Unstarted pc
  | .idle => False

def WorkerPc.poised (q : SequentialActionPublisher) : WorkerPc → Prop
  | .publishing _ (.sending _ _ _) | .publishing _ (.stopping _ _) => True
  | .publishing _ (.failed _ reason) => reason ≠ q.cancelReason
  | _ => False

def WorkerPc.told (q : SequentialActionPublisher) (reason : String) : WorkerPc → Prop
  | .publishing _ (.failed batch old) =>
    batch.generation < q.cancelGeneration ∧ old = q.cancelReason ∧ old ≠ reason
  | _ => False

/-- The steps that leave the worker's windows alone. -/
def Permitted (s : State) : Event → Prop
  | .transcript =>
    match s.transcript with
    | .cancelling reason _ => ¬ s.worker.unread ∧ ¬ s.worker.told s.sequencer reason
    | .publishing (.sending _ _ _) => ¬ s.worker.poised s.sequencer
    | _ => True
  | _ => True

def WorkerPc.Silent (b : ℕ) (q : SequentialActionPublisher) : WorkerPc → Prop
  | .idle => True
  | .holding item | .running item => b ≤ item.context
  | .publishing item pc => b ≤ item.context ∨ Spent q pc

/-- The commands before the `b`-th are over. -/
structure Superseded (b : ℕ) (s : State) : Prop where
  queued : b ≤ s.queued
  items : ∀ item ∈ s.items, b ≤ item.context
  worker : s.worker.Silent b s.sequencer

structure Drained (s : State) : Prop where
  items : s.items = []
  read : ¬ s.worker.unread
  worker : ∀ item pc generation, s.worker = .publishing item pc →
    readGeneration pc = some generation → generation < s.sequencer.cancelGeneration

structure Orderly (s : State) : Prop where
  read : ∀ item pc generation, s.worker = .publishing item pc →
    readGeneration pc = some generation → generation ≤ s.sequencer.cancelGeneration
  cancelling : ∀ reason action, s.transcript = .cancelling reason action → s.items = []
  publishing : ∀ pc, s.transcript = .publishing pc → Unwaiting pc ∧ Drained s

/-- No candidate of a command follows one with priority that came after the command. -/
def Fenced (published : List Candidate) : Prop :=
  ∀ pre b action post, published = pre ++ { origin := .priority b, action := action } :: post →
    ∀ candidate ∈ post, ∀ number, candidate.origin = .command number → b ≤ number

structure Safe (s : State) : Prop where
  orderly : Orderly s
  superseded : ∀ candidate ∈ s.published, ∀ b, candidate.origin = .priority b → Superseded b s
  fenced : Fenced s.published

theorem Fenced.snoc {published : List Candidate} {candidate : Candidate}
    (h : Fenced published)
    (hlast : ∀ number, candidate.origin = .command number →
      ∀ earlier ∈ published, ∀ b, earlier.origin = .priority b → b ≤ number) :
    Fenced (published ++ [candidate]) := by
  intro pre b action post hsplit later hlater number hnumber
  rcases snoc_eq_append_cons hsplit with ⟨rfl, -, -⟩ | ⟨post', rfl, rfl⟩
  · cases hlater
  · rcases List.mem_append.mp hlater with hbefore | hlast'
    · exact h pre b action post' rfl later hbefore number hnumber
    · rw [List.mem_singleton.mp hlast'] at hnumber
      exact hlast number hnumber _ (List.mem_append_right _ (List.mem_cons_self ..)) b rfl

section Worker

variable {reading : Double} {actions : List ActionCommand} {expired : Bool}

theorem workerStep_publishing (queue : ContinuousCommandQueue) (reading : Double)
    (actions : List ActionCommand) (expired : Bool) {item : Item} {pc : PublishPc}
    (h : s.worker = .publishing item pc) :
    workerStep queue reading actions expired s = { s with worker := .idle } ∨
    workerStep queue reading actions expired s =
      { s with
        sequencer := (s.sequencer.publishStep pc expired).2.1
        worker := .publishing item (s.sequencer.publishStep pc expired).1
        published := s.published ++
          publishing (.command item.context) (s.sequencer.publishStep pc expired).2.2 } := by
  cases pc with
  | finished report =>
    left
    simp only [workerStep, h]
  | _ =>
    right
    simp only [workerStep, h]

theorem workerStep_frame (queue : ContinuousCommandQueue) (s : State) (reading : Double)
    (actions : List ActionCommand) (expired : Bool) :
    (workerStep queue reading actions expired s).transcript = s.transcript ∧
    (workerStep queue reading actions expired s).queued = s.queued ∧
    (workerStep queue reading actions expired s).sequencer.cancelGeneration =
      s.sequencer.cancelGeneration ∧
    (workerStep queue reading actions expired s).sequencer.cancelReason =
      s.sequencer.cancelReason ∧
    ∀ item ∈ (workerStep queue reading actions expired s).items, item ∈ s.items := by
  cases hworker : s.worker with
  | idle =>
    cases hitems : s.items with
    | nil => simp [workerStep, hworker, hitems]
    | cons item items =>
      simp only [workerStep, hworker, hitems]
      split_ifs
      · exact ⟨rfl, rfl, rfl, rfl, fun i hi ↦ List.mem_cons_of_mem item hi⟩
      · exact ⟨rfl, rfl, rfl, rfl, fun i hi ↦ List.mem_cons_of_mem item hi⟩
  | holding item => simp [workerStep, hworker]
  | running item => simp [workerStep, hworker]
  | publishing item pc =>
    obtain ⟨hgeneration, hreason⟩ := publishStep_cancel s.sequencer pc expired
    rcases workerStep_publishing queue reading actions expired hworker with h | h
    · rw [h]
      exact ⟨rfl, rfl, rfl, rfl, fun _ ↦ id⟩
    · rw [h]
      exact ⟨rfl, rfl, hgeneration, hreason, fun _ ↦ id⟩

theorem workerStep_published (queue : ContinuousCommandQueue) (s : State) (reading : Double)
    (actions : List ActionCommand) (expired : Bool) :
    (workerStep queue reading actions expired s).published = s.published ∨
    ∃ number action, (workerStep queue reading actions expired s).published =
        s.published ++ [{ origin := .command number, action := action }] ∧
      ∀ b, Superseded b s → b ≤ number := by
  cases hworker : s.worker with
  | idle =>
    cases hitems : s.items with
    | nil => simp [workerStep, hworker, hitems]
    | cons item items =>
      simp only [workerStep, hworker, hitems]
      split_ifs <;> exact .inl rfl
  | holding item => simp [workerStep, hworker]
  | running item => simp [workerStep, hworker]
  | publishing item pc =>
    rcases workerStep_publishing queue reading actions expired hworker with h | h
    · rw [h]
      exact .inl rfl
    · rw [h]
      cases hpayload : (s.sequencer.publishStep pc expired).2.2 with
      | none =>
        left
        simp [publishing]
      | some action =>
        refine .inr ⟨item.context, action, by simp [publishing], fun b hb ↦ ?_⟩
        have hsilent := hb.worker
        rw [hworker] at hsilent
        rcases hsilent with hlate | hspent
        · exact hlate
        · have hnone : (s.sequencer.publishStep pc expired).2.2 = none := hspent.step.2
          rw [hpayload] at hnone
          cases hnone

theorem silent_worker (hb : Superseded b s) :
    (workerStep queue reading actions expired s).worker.Silent b s.sequencer := by
  have hsilent := hb.worker
  cases hworker : s.worker with
  | idle =>
    cases hitems : s.items with
    | nil =>
      simp only [workerStep, hworker, hitems]
      trivial
    | cons item items =>
      simp only [workerStep, hworker, hitems]
      split_ifs
      · trivial
      · exact hb.items item (by simp [hitems])
  | holding item =>
    rw [hworker] at hsilent
    simp only [workerStep, hworker]
    exact hsilent
  | running item =>
    rw [hworker] at hsilent
    simp only [workerStep, hworker]
    exact .inl hsilent
  | publishing item pc =>
    rw [hworker] at hsilent
    rcases workerStep_publishing queue reading actions expired hworker with h | h
    · rw [h]
      trivial
    · rw [h]
      exact hsilent.imp id fun hspent ↦ hspent.step.1

theorem WorkerPc.Silent.congr {worker : WorkerPc} {q q' : SequentialActionPublisher}
    (h : worker.Silent b q) (hgeneration : q'.cancelGeneration = q.cancelGeneration)
    (hreason : q'.cancelReason = q.cancelReason) : worker.Silent b q' := by
  cases worker with
  | publishing item pc => exact h.imp id fun hspent ↦ hspent.congr hgeneration hreason
  | _ => exact h

theorem Superseded.worker_step (hb : Superseded b s) :
    Superseded b (workerStep queue reading actions expired s) := by
  obtain ⟨-, hqueued, hgeneration, hreason, hitems⟩ :=
    workerStep_frame queue s reading actions expired
  refine ⟨hqueued ▸ hb.queued, fun item hitem ↦ hb.items item (hitems item hitem), ?_⟩
  exact (silent_worker hb).congr hgeneration hreason

theorem workerStep_read {item : Item} {pc : PublishPc} {generation : ℕ}
    (h : (workerStep queue reading actions expired s).worker = .publishing item pc)
    (hread : readGeneration pc = some generation) :
    (∃ pc', s.worker = .publishing item pc' ∧ readGeneration pc' = some generation) ∨
      s.worker.unread ∧ generation = s.sequencer.cancelGeneration := by
  cases hworker : s.worker with
  | idle =>
    cases hitems : s.items with
    | nil => simp [workerStep, hworker, hitems] at h
    | cons item items =>
      simp only [workerStep, hworker, hitems] at h
      split_ifs at h
  | holding item' => simp [workerStep, hworker] at h
  | running item' =>
    simp only [workerStep, hworker, WorkerPc.publishing.injEq] at h
    rw [← h.2] at hread
    cases hread
  | publishing item' pc' =>
    rcases workerStep_publishing queue reading actions expired hworker with h' | h'
    · rw [h'] at h
      cases h
    · rw [h'] at h
      obtain ⟨rfl, rfl⟩ := WorkerPc.publishing.inj h
      rcases publishStep_generation hread with hbefore | ⟨hstart, hgeneration⟩
      · exact .inl ⟨pc', rfl, hbefore⟩
      · exact .inr ⟨hstart, hgeneration⟩

theorem workerStep_unread (hitems : s.items = [])
    (h : (workerStep queue reading actions expired s).worker.unread) : s.worker.unread := by
  cases hworker : s.worker with
  | idle =>
    simp only [workerStep, hworker, hitems] at h
    exact h.elim
  | holding item => trivial
  | running item => trivial
  | publishing item pc =>
    rcases workerStep_publishing queue reading actions expired hworker with h' | h'
    · rw [h'] at h
      exact h.elim
    · rw [h'] at h
      exact absurd h (publishStep_started s.sequencer pc expired)

theorem Drained.worker_step (hd : Drained s) :
    Drained (workerStep queue reading actions expired s) := by
  obtain ⟨-, -, hgeneration, -, hitems⟩ := workerStep_frame queue s reading actions expired
  refine ⟨?_, fun h ↦ hd.read (workerStep_unread hd.items h), fun item pc generation h hread ↦ ?_⟩
  · rw [List.eq_nil_iff_forall_not_mem]
    intro item hitem
    have hold := hitems item hitem
    rw [hd.items] at hold
    cases hold
  · rw [hgeneration]
    rcases workerStep_read h hread with ⟨pc', hbefore, hread'⟩ | ⟨hunread, -⟩
    · exact hd.worker item pc' generation hbefore hread'
    · exact absurd hunread hd.read

theorem Orderly.worker_step (ho : Orderly s) :
    Orderly (workerStep queue reading actions expired s) := by
  obtain ⟨htranscript, -, hgeneration, -, hitems⟩ :=
    workerStep_frame queue s reading actions expired
  refine ⟨fun item pc generation h hread ↦ ?_, fun reason action h ↦ ?_, fun pc h ↦ ?_⟩
  · rw [hgeneration]
    rcases workerStep_read h hread with ⟨pc', hbefore, hread'⟩ | ⟨-, rfl⟩
    · exact ho.read item pc' generation hbefore hread'
    · exact le_rfl
  · rw [htranscript] at h
    rw [List.eq_nil_iff_forall_not_mem]
    intro item hitem
    have hold := hitems item hitem
    rw [ho.cancelling reason action h] at hold
    cases hold
  · rw [htranscript] at h
    obtain ⟨hunwaiting, hdrained⟩ := ho.publishing pc h
    exact ⟨hunwaiting, hdrained.worker_step⟩

theorem safe_worker (hs : Safe s) : Safe (workerStep queue reading actions expired s) := by
  have hsuperseded : ∀ candidate ∈ s.published, ∀ b, candidate.origin = .priority b →
      Superseded b (workerStep queue reading actions expired s) :=
    fun candidate hmem b horigin ↦ (hs.superseded candidate hmem b horigin).worker_step
  rcases workerStep_published queue s reading actions expired with hsame |
    ⟨number, action, hpublished, hafter⟩
  · refine ⟨hs.orderly.worker_step, ?_, ?_⟩
    · rwa [hsame]
    · rw [hsame]
      exact hs.fenced
  · refine ⟨hs.orderly.worker_step, fun candidate hmem b horigin ↦ ?_, ?_⟩
    · rw [hpublished] at hmem
      rcases List.mem_append.mp hmem with hbefore | hnew
      · exact hsuperseded candidate hbefore b horigin
      · rw [List.mem_singleton.mp hnew] at horigin
        cases horigin
    · rw [hpublished]
      refine hs.fenced.snoc fun n hn earlier hmem b horigin ↦ ?_
      obtain rfl := Origin.command.inj hn
      exact hafter b (hs.superseded earlier hmem b horigin)

end Worker

theorem Orderly.cancel {reason action : String} (ho : Orderly s)
    (htranscript : s.transcript = .cancelling reason action) (hunread : ¬ s.worker.unread) :
    Orderly (transcriptStep s) := by
  have hstep : transcriptStep s = { s with
      sequencer := s.sequencer.cancel reason
      transcript := .publishing (.starting [{ name := action, priority := true }] false) } := by
    simp only [transcriptStep, htranscript]
  rw [hstep]
  refine ⟨fun item pc generation h hread ↦ ?_, fun reason action h ↦ ?_, fun pc h ↦ ?_⟩
  · exact Nat.le_succ_of_le (ho.read item pc generation h hread)
  · cases h
  · obtain rfl := TranscriptPc.publishing.inj h
    refine ⟨rfl, ho.cancelling reason action htranscript, hunread, ?_⟩
    exact fun item pc generation h hread ↦ Nat.lt_succ_of_le (ho.read item pc generation h hread)

theorem Superseded.cancel {reason : String} {transcript : TranscriptPc} (hb : Superseded b s)
    (htold : ¬ s.worker.told s.sequencer reason) :
    Superseded b { s with sequencer := s.sequencer.cancel reason, transcript := transcript } := by
  refine ⟨hb.queued, hb.items, ?_⟩
  have hsilent := hb.worker
  cases hworker : s.worker with
  | publishing item pc =>
    rw [hworker] at hsilent htold
    refine hsilent.imp id fun hspent ↦ ?_
    cases pc with
    | failed batch old =>
      refine ⟨Nat.lt_succ_of_lt hspent.1, ?_⟩
      by_contra hne
      exact htold ⟨hspent.1, hspent.2, hne⟩
    | checking batch left => exact Nat.lt_succ_of_lt hspent
    | awaiting batch left => exact Nat.lt_succ_of_lt hspent
    | _ => exact hspent
  | _ =>
    rw [hworker] at hsilent
    exact hsilent

theorem Drained.superseded (hd : Drained s) (hpoised : ¬ s.worker.poised s.sequencer) :
    Superseded s.queued s := by
  refine ⟨le_rfl, by simp [hd.items], ?_⟩
  cases hworker : s.worker with
  | idle => trivial
  | holding item =>
    refine absurd ?_ hd.read
    rw [hworker]
    trivial
  | running item =>
    refine absurd ?_ hd.read
    rw [hworker]
    trivial
  | publishing item pc =>
    right
    rw [hworker] at hpoised
    cases pc with
    | starting actions waitForResults =>
      refine absurd ?_ hd.read
      rw [hworker]
      trivial
    | checking batch left => exact hd.worker item _ _ hworker rfl
    | sending batch command left => exact absurd trivial hpoised
    | awaiting batch left => exact hd.worker item _ _ hworker rfl
    | failed batch reason => exact ⟨hd.worker item _ _ hworker rfl, not_not.mp hpoised⟩
    | stopping batch reason => exact absurd trivial hpoised
    | finished report => trivial

theorem transcriptStep_publishing {pc : PublishPc} (h : s.transcript = .publishing pc) :
    transcriptStep s = { s with transcript := .idle } ∨
    transcriptStep s = { s with
      sequencer := (s.sequencer.publishStep pc false).2.1
      transcript := .publishing (s.sequencer.publishStep pc false).1
      published := s.published ++
        publishing (.priority s.queued) (s.sequencer.publishStep pc false).2.2 } := by
  cases pc with
  | finished report =>
    left
    simp only [transcriptStep, h]
  | _ =>
    right
    simp only [transcriptStep, h]

theorem Superseded.of_same {s' : State} (hb : Superseded b s) (hqueued : s.queued ≤ s'.queued)
    (hitems : ∀ item ∈ s'.items, item ∈ s.items ∨ s.queued ≤ item.context)
    (hworker : s'.worker = s.worker)
    (hgeneration : s'.sequencer.cancelGeneration = s.sequencer.cancelGeneration)
    (hreason : s'.sequencer.cancelReason = s.sequencer.cancelReason) : Superseded b s' := by
  refine ⟨hb.queued.trans hqueued, fun item hitem ↦ ?_, ?_⟩
  · rcases hitems item hitem with hold | hnew
    · exact hb.items item hold
    · exact hb.queued.trans hnew
  · rw [hworker]
    exact hb.worker.congr hgeneration hreason

theorem Drained.of_same {s' : State} (hd : Drained s) (hitems : s'.items = s.items)
    (hworker : s'.worker = s.worker)
    (hgeneration : s'.sequencer.cancelGeneration = s.sequencer.cancelGeneration) :
    Drained s' := by
  refine ⟨hitems.trans hd.items, ?_, ?_⟩
  · rw [hworker]
    exact hd.read
  · rw [hworker, hgeneration]
    exact hd.worker

theorem Safe.of_same {s' : State} (hs : Safe s) (ho : Orderly s')
    (hsuperseded : ∀ b, Superseded b s → Superseded b s')
    (hpublished : s'.published = s.published) :
    Safe s' := by
  refine ⟨ho, fun candidate hmem b horigin ↦ ?_, ?_⟩
  · rw [hpublished] at hmem
    exact hsuperseded b (hs.superseded candidate hmem b horigin)
  · rw [hpublished]
    exact hs.fenced

theorem safe_clearing {reason action : String} (hs : Safe s)
    (htranscript : s.transcript = .clearing reason action) : Safe (transcriptStep s) := by
  cases hitems : s.items with
  | nil =>
    have hstep : transcriptStep s = { s with transcript := .cancelling reason action } := by
      simp only [transcriptStep, htranscript, hitems]
    rw [hstep]
    refine hs.of_same ⟨hs.orderly.read, fun _ _ _ ↦ hitems, fun _ h ↦ by cases h⟩ ?_ rfl
    exact fun b hb ↦ hb.of_same le_rfl (fun _ h ↦ .inl h) rfl rfl rfl
  | cons item items =>
    have hstep : transcriptStep s = { s with items := items } := by
      simp only [transcriptStep, htranscript, hitems]
    rw [hstep]
    refine hs.of_same ⟨hs.orderly.read, ?_, ?_⟩ (fun b hb ↦ ?_) rfl
    · intro _ _ h
      simp only [htranscript] at h
      cases h
    · intro _ h
      simp only [htranscript] at h
      cases h
    · refine hb.of_same le_rfl (fun _ h ↦ .inl ?_) rfl rfl rfl
      rw [hitems]
      exact List.mem_cons_of_mem item h

theorem safe_publishing {pc : PublishPc} (hs : Safe s) (htranscript : s.transcript = .publishing pc)
    (hp : Permitted s .transcript) : Safe (transcriptStep s) := by
  obtain ⟨hunwaiting, hdrained⟩ := hs.orderly.publishing pc htranscript
  obtain ⟨hgeneration, hreason⟩ := publishStep_cancel s.sequencer pc false
  rcases transcriptStep_publishing htranscript with h | h
  · rw [h]
    refine hs.of_same ⟨hs.orderly.read, fun _ _ h ↦ TranscriptPc.noConfusion h,
      fun _ h ↦ TranscriptPc.noConfusion h⟩ ?_ rfl
    exact fun b hb ↦ hb.of_same le_rfl (fun _ h ↦ .inl h) rfl rfl rfl
  · have hsuperseded (b : ℕ) (hb : Superseded b s) : Superseded b (transcriptStep s) := by
      rw [h]
      exact hb.of_same le_rfl (fun _ h ↦ .inl h) rfl hgeneration hreason
    have horderly : Orderly (transcriptStep s) := by
      rw [h]
      refine ⟨fun item pc generation hpc hread ↦ ?_, fun _ _ h ↦ TranscriptPc.noConfusion h,
        fun pc' h ↦ ?_⟩
      · simp only [hgeneration]
        exact hs.orderly.read item pc generation hpc hread
      · obtain rfl := TranscriptPc.publishing.inj h
        exact ⟨hunwaiting.step, hdrained.of_same rfl rfl hgeneration⟩
    cases hpayload : (s.sequencer.publishStep pc false).2.2 with
    | none =>
      refine hs.of_same horderly hsuperseded ?_
      rw [h, hpayload]
      simp [publishing]
    | some action =>
      -- the one position from which a transcript publishes is the one that `Permitted` guards
      obtain ⟨batch, command, left, rfl⟩ := hunwaiting.sending hpayload
      have hpoised : ¬ s.worker.poised s.sequencer := by
        simpa only [Permitted, htranscript] using hp
      have hpublished : (transcriptStep s).published =
          s.published ++ [{ origin := .priority s.queued, action := action }] := by
        rw [h, hpayload]
        rfl
      refine ⟨horderly, fun candidate hmem b horigin ↦ ?_, ?_⟩
      · rw [hpublished] at hmem
        rcases List.mem_append.mp hmem with hbefore | hnew
        · exact hsuperseded b (hs.superseded candidate hbefore b horigin)
        · rw [List.mem_singleton.mp hnew] at horigin
          obtain rfl := Origin.priority.inj horigin
          exact hsuperseded _ (hdrained.superseded hpoised)
      · rw [hpublished]
        exact hs.fenced.snoc fun number hnumber ↦ by cases hnumber

theorem safe_transcript (hs : Safe s) (hp : Permitted s .transcript) : Safe (transcriptStep s) := by
  cases htranscript : s.transcript with
  | idle => simpa only [transcriptStep, htranscript] using hs
  | clearing reason action => exact safe_clearing hs htranscript
  | cancelling reason action =>
    obtain ⟨hunread, htold⟩ : ¬ s.worker.unread ∧ ¬ s.worker.told s.sequencer reason := by
      simpa only [Permitted, htranscript] using hp
    refine hs.of_same (hs.orderly.cancel htranscript hunread) (fun b hb ↦ ?_) ?_
    · simp only [transcriptStep, htranscript]
      exact hb.cancel htold
    · simp only [transcriptStep, htranscript]
  | publishing pc => exact safe_publishing hs htranscript hp

theorem safe_enqueue {text : String} {createdAt : Double} (hs : Safe s) :
    Safe (enqueue queue text createdAt s) := by
  unfold enqueue
  split
  next hidle =>
    split
    next => exact hs
    next items hput =>
      refine hs.of_same ⟨hs.orderly.read, ?_, ?_⟩ (fun b hb ↦ ?_) rfl
      · intro _ _ h
        rw [hidle] at h
        cases h
      · intro _ h
        rw [hidle] at h
        cases h
      · refine hb.of_same (Nat.le_succ _) (fun item hitem ↦ ?_) rfl rfl rfl
        unfold ContinuousCommandQueue.putNowait at hput
        split_ifs at hput
        rw [← Option.some.inj hput] at hitem
        rcases List.mem_append.mp hitem with hold | hnew
        · exact .inl hold
        · rw [List.mem_singleton.mp hnew]
          exact .inr le_rfl
  next => exact hs

theorem safe_step (event : Event) (hs : Safe s) (hp : Permitted s event) :
    Safe (step queue s event).1 := by
  cases event with
  | enqueue text createdAt => exact safe_enqueue hs
  | prioritize reason action =>
    simp only [step, prioritize]
    split
    · refine hs.of_same ⟨hs.orderly.read, fun _ _ h ↦ TranscriptPc.noConfusion h,
      fun _ h ↦ TranscriptPc.noConfusion h⟩ ?_ rfl
      exact fun b hb ↦ hb.of_same le_rfl (fun _ h ↦ .inl h) rfl rfl rfl
    · exact hs
  | transcript => exact safe_transcript hs hp
  | worker reading actions expired => exact safe_worker hs
  | notifyResult commandId result =>
    have hcancel : (s.sequencer.notifyResult commandId result).cancelGeneration =
          s.sequencer.cancelGeneration ∧
        (s.sequencer.notifyResult commandId result).cancelReason = s.sequencer.cancelReason := by
      unfold notifyResult
      split_ifs <;> exact ⟨rfl, rfl⟩
    refine hs.of_same ⟨fun item pc generation h hread ↦ ?_, hs.orderly.cancelling, fun pc h ↦ ?_⟩
      (fun b hb ↦ ?_) rfl
    · simp only [step, hcancel.1]
      exact hs.orderly.read item pc generation h hread
    · obtain ⟨hunwaiting, hdrained⟩ := hs.orderly.publishing pc h
      exact ⟨hunwaiting, hdrained.of_same rfl rfl hcancel.1⟩
    · exact hb.of_same le_rfl (fun _ h ↦ .inl h) rfl hcancel.1 hcancel.2

abbrev state (queue : ContinuousCommandQueue) (h : List Event) : State := run (step queue) {} h

theorem safe_initial : Safe {} where
  orderly :=
    { read := fun _ _ _ h ↦ by cases h
      cancelling := fun _ _ h ↦ by cases h
      publishing := fun _ h ↦ by cases h }
  superseded := fun _ hmem ↦ by cases hmem
  fenced := by
    intro pre b action post h
    simp at h

/-- A command said before a transcript with priority publishes nothing after it. -/
theorem stop_supersedes (queue : ContinuousCommandQueue) (h : List Event)
    (hp : Along (step queue) Permitted {} h) : Fenced (state queue h).published :=
  (Along.preserves (step queue) (fun _ event hpermitted hs ↦ safe_step event hs hpermitted)
    safe_initial hp).fenced

def ageless : ContinuousCommandQueue := .create 8 0

def move : ActionCommand := { name := "move", requestId := "m" }

def works (n : ℕ) (expired : Bool) : List Event :=
  List.replicate n (.worker 0 [move] expired)

/-- A transcript with priority, up to its publication. -/
def spoken (reason : String) : List Event :=
  .prioritize reason "stop" :: List.replicate 5 .transcript

def forward : List Event := [.enqueue "向前走" 0]

theorem stop_supersedes_published :
    Fenced (state ageless (forward ++ works 6 false ++ spoken "priority_stop" ++
      works 3 false)).published :=
  stop_supersedes ageless (forward ++ works 6 false ++ spoken "priority_stop" ++ works 3 false)
    ⟨trivial, trivial, trivial, trivial, trivial, trivial, trivial, trivial, trivial,
      ⟨id, id⟩, trivial, trivial, id, trivial, trivial, trivial, trivial⟩

theorem not_fenced {published : List Candidate} (pre : List Candidate) {b number : ℕ}
    {action action' : ActionCommand}
    (h : published = pre ++ { origin := .priority b, action := action } ::
      [{ origin := .command number, action := action' }]) (hlt : number < b) :
    ¬ Fenced published := fun hf ↦
  absurd (hf pre b action _ h _ (List.mem_singleton_self _) number rfl) (Nat.not_le_of_lt hlt)

theorem published_after_stop :
    ¬ Fenced (state ageless
      (forward ++ works 1 false ++ spoken "priority_stop" ++ works 5 false)).published ∧
    ¬ Fenced (state ageless
      (forward ++ works 5 false ++ spoken "priority_stop" ++ works 1 false)).published ∧
    ¬ Fenced (state ageless
      (forward ++ works 8 true ++ spoken "priority_stop" ++ works 2 false)).published ∧
    ¬ Fenced (state ageless
      (forward ++ works 7 false ++ spoken "priority_stop" ++ works 1 false ++
        [.transcript, .transcript, .prioritize "session_sleep" "stop", .transcript, .transcript] ++
        works 2 false)).published := by
  refine ⟨not_fenced [] rfl Nat.one_pos, not_fenced [] rfl Nat.one_pos,
    not_fenced [⟨_, _⟩] rfl Nat.one_pos, not_fenced [⟨_, _⟩] rfl Nat.one_pos⟩

end EmbodiedAgent.Agent.SpokenStop
