import EmbodiedAgent.Library.History
import EmbodiedAgent.Slam.LiveSubmap
import EmbodiedAgent.Slam.ScanMatches

namespace EmbodiedAgent.Slam.LoopVerification

open Library Library.History
open scoped List

structure LiveLidarLoopCandidateInput (K : Type) where
  candidateId : ℤ
  candidateStampNs : ℤ
  rank : ℕ
  similarity : K
  yawOffsetRad : K

structure CandidateArray (K : Type) where
  stampNs : ℤ
  queryId : ℤ
  indexedScans : ℕ
  candidates : List (LiveLidarLoopCandidateInput K)

structure VerificationArray (K M : Type) where
  stampNs : ℤ
  queryId : ℤ
  indexedScans : ℕ
  shadowOnly : Bool
  matchingMode : String
  verifications : List (LiveLidarLoopCandidateInput K × M)

structure PendingBatch (K : Type) where
  message : CandidateArray K
  enqueueScanSequence : ℕ
  enqueueTime : ℤ

structure LoopVerifier (K V S O M : Type) where
  hasGeometry : V → ℤ → Bool
  cacheScan : V → S → Except String V
  cacheOdometry : V → O → Except String V
  verify : V → ℤ → LiveLidarLoopCandidateInput K → Except String M
  matchingMode : V → String

/-- An exception that leaves a callback ends the process. -/
structure LidarLoopVerifierNode (K V : Type) where
  maximumPendingBatches : ℕ
  pendingScanGrace : ℕ
  pendingTimeout : ℤ
  maximumPendingBatches_pos : 0 < maximumPendingBatches
  verifier : Option V := none
  active : Bool := false
  scanSequence : ℕ := 0
  pendingBatches : List (PendingBatch K) := []
  terminated : Bool := false

inductive BatchOutput (K M : Type)
  | published (batch : CandidateArray K) (verifications : VerificationArray K M)
  | cleared (batch : CandidateArray K)
  | unhandled (batch : CandidateArray K)

def BatchOutput.batch {K M : Type} : BatchOutput K M → CandidateArray K
  | published batch _ | cleared batch | unhandled batch => batch

/-- Every turn of a drain reads the clock. -/
inductive VerifierEvent (K V S O : Type)
  | configure (verifier : Option V)
  | activate
  | deactivate
  | cleanup
  | shutdown
  | scan (scan : S) (now : ℕ → ℤ)
  | odometry (odometry : O) (now : ℕ → ℤ)
  | candidates (batch : CandidateArray K) (now : ℤ)
  | pendingTimer (now : ℕ → ℤ)

/-- The lifecycle clears what is pending. -/
def VerifierEvent.clears {K V S O : Type} : VerifierEvent K V S O → Bool
  | .configure none | .deactivate | .cleanup | .shutdown => true
  | _ => false

def VerifierEvent.clock {K V S O : Type} : VerifierEvent K V S O → ℕ → ℤ
  | .scan _ now | .odometry _ now | .pendingTimer now => now
  | _ => fun _ ↦ 0

namespace LidarLoopVerifierNode

variable {K V S O M : Type} (port : LoopVerifier K V S O M) (n : LidarLoopVerifierNode K V)

def batchGeometryReady (verifier : V) (batch : CandidateArray K) : Bool :=
  batch.candidates.isEmpty || port.hasGeometry verifier batch.stampNs &&
    batch.candidates.all fun candidate ↦ port.hasGeometry verifier candidate.candidateStampNs

def publishVerification (verifier : V) (batch : CandidateArray K) :
    Except String (VerificationArray K M) := do
  let results ← batch.candidates.mapM fun candidate ↦
    (port.verify verifier batch.stampNs candidate).map fun result ↦ (candidate, result)
  return {
    stampNs := batch.stampNs
    queryId := batch.queryId
    indexedScans := batch.indexedScans
    shadowOnly := true
    matchingMode := port.matchingMode verifier
    verifications := results }

def expired (p : PendingBatch K) (now : ℤ) : Bool :=
  decide (p.enqueueScanSequence + n.pendingScanGrace ≤ n.scanSequence) ||
    decide (n.pendingTimeout ≤ now - p.enqueueTime)

def due (verifier : V) (p : PendingBatch K) (now : ℤ) : Bool :=
  batchGeometryReady port verifier p.message || n.expired p now

def drainPendingBatches (verifier : V) (now : ℕ → ℤ) :
    ℕ → List (PendingBatch K) → List (PendingBatch K) × List (BatchOutput K M) × Bool
  | _, [] => ([], [], false)
  | turn, p :: rest =>
    if n.due port verifier p (now turn) then
      match publishVerification port verifier p.message with
      | .error _ => (p :: rest, [], true)
      | .ok verifications =>
        let (kept, out, raised) := drainPendingBatches verifier now (turn + 1) rest
        (kept, .published p.message verifications :: out, raised)
    else
      let (kept, out, raised) := drainPendingBatches verifier now (turn + 1) rest
      (p :: kept, out, raised)

def drained (verifier : V) (now : ℕ → ℤ) :
    LidarLoopVerifierNode K V × List (BatchOutput K M) × Bool :=
  let (kept, out, raised) := n.drainPendingBatches port verifier now 0 n.pendingBatches
  ({ n with verifier := some verifier, pendingBatches := kept }, out, raised)

def clearPendingBatches : List (BatchOutput K M) := n.pendingBatches.map fun p ↦ .cleared p.message

def onCandidates (verifier : V) (batch : CandidateArray K) (now : ℤ) :
    LidarLoopVerifierNode K V × List (BatchOutput K M) :=
  if batchGeometryReady port verifier batch then
    match publishVerification port verifier batch with
    | .error _ => ({ n with terminated := true }, [.unhandled batch])
    | .ok verifications => (n, [.published batch verifications])
  else
    let queued : PendingBatch K := ⟨batch, n.scanSequence, now⟩
    if n.maximumPendingBatches ≤ n.pendingBatches.length then
      match n.pendingBatches with
      | front :: rest =>
        match publishVerification port verifier front.message with
        | .error _ => ({ n with terminated := true }, [.unhandled batch])
        | .ok verifications =>
          ({ n with pendingBatches := rest ++ [queued] }, [.published front.message verifications])
      -- The maximum is positive, and a full queue has a front.
      | [] => (n, [])
    else ({ n with pendingBatches := n.pendingBatches ++ [queued] }, [])

def callback : VerifierEvent K V S O → V → LidarLoopVerifierNode K V × List (BatchOutput K M)
  | .scan scan now, verifier =>
    let n := { n with scanSequence := n.scanSequence + 1 }
    match port.cacheScan verifier scan with
    | .error _ => (n, [])
    | .ok verifier =>
      let (n, out, _) := n.drained port verifier now
      (n, out)
  | .odometry odometry now, verifier =>
    match port.cacheOdometry verifier odometry with
    | .error _ => (n, [])
    | .ok verifier =>
      let (n, out, _) := n.drained port verifier now
      (n, out)
  | .candidates batch now, verifier => n.onCandidates port verifier batch now
  | .pendingTimer now, verifier =>
    let (n, out, raised) := n.drained port verifier now
    ({ n with terminated := raised }, out)
  | _, _ => (n, [])

def running : Option V := if n.active && !n.terminated then n.verifier else none

def step (event : VerifierEvent K V S O) : LidarLoopVerifierNode K V × List (BatchOutput K M) :=
  if n.terminated then (n, [])
  else match event with
    | .configure (some verifier) => ({ n with verifier := some verifier }, [])
    | .configure none | .cleanup | .shutdown =>
      ({ n with verifier := none, active := false, scanSequence := 0, pendingBatches := [] },
        n.clearPendingBatches)
    | .activate => ({ n with active := true }, [])
    | .deactivate => ({ n with active := false, pendingBatches := [] }, n.clearPendingBatches)
    | event =>
      match n.running with
      | none => (n, [])
      | some verifier => n.callback port event verifier

def received : VerifierEvent K V S O → List (CandidateArray K)
  | .candidates batch _ => if n.running.isSome then [batch] else []
  | _ => []

structure Answers (batch : CandidateArray K) (array : VerificationArray K M) : Prop where
  stampNs : array.stampNs = batch.stampNs
  queryId : array.queryId = batch.queryId
  indexedScans : array.indexedScans = batch.indexedScans
  shadowOnly : array.shadowOnly = true
  candidates : array.verifications.map Prod.fst = batch.candidates

variable {port n} {verifier : V} {batch : CandidateArray K} {array : VerificationArray K M}

theorem answers_of_published (h : publishVerification port verifier batch = .ok array) :
    Answers batch array := by
  obtain ⟨results, hresults, h⟩ := exists_ok_of_bind h
  cases h
  refine ⟨rfl, rfl, rfl, rfl, ?_⟩
  rw [map_of_mapM (g := id) hresults, List.map_id]
  intro candidate result hresult
  cases hverify : port.verify verifier batch.stampNs candidate with
  | error e =>
    rw [hverify] at hresult
    cases hresult
  | ok match' =>
    rw [hverify] at hresult
    cases hresult
    rfl

structure Drains (port : LoopVerifier K V S O M) (verifier : V) (due : PendingBatch K → ℤ → Bool)
    (now : ℕ → ℤ) (turn : ℕ) (pending kept : List (PendingBatch K)) (out : List (BatchOutput K M))
    (raised : Bool) : Prop where
  accounted : pending.map PendingBatch.message ~
    kept.map PendingBatch.message ++ out.map BatchOutput.batch
  kept_sublist : kept <+ pending
  published : ∀ o ∈ out, ∃ p ∈ pending, (∃ t < turn + pending.length, due p (now t) = true) ∧
    ∃ array, publishVerification port verifier p.message = .ok array ∧
      o = .published p.message array
  waits : raised = false → ∀ p ∈ kept, ∃ t < turn + pending.length, due p (now t) = false
  raises : raised = true →
    ∃ p ∈ pending, ∃ e, publishVerification port verifier p.message = .error e

variable (port n) in
theorem drains (verifier : V) (now : ℕ → ℤ) (turn : ℕ) (pending : List (PendingBatch K)) :
    Drains port verifier (n.due port verifier) now turn pending
      (n.drainPendingBatches port verifier now turn pending).1
      (n.drainPendingBatches port verifier now turn pending).2.1
      (n.drainPendingBatches port verifier now turn pending).2.2 := by
  induction pending generalizing turn with
  | nil => exact ⟨.nil, .slnil, by simp [drainPendingBatches], by simp [drainPendingBatches],
      by simp [drainPendingBatches]⟩
  | cons p rest ih =>
    have later := ih (turn + 1)
    have hlength : turn + 1 + rest.length = turn + (p :: rest).length := by
      rw [List.length_cons]
      omega
    rw [drainPendingBatches]
    split_ifs with hdue
    · cases hpublish : publishVerification port verifier p.message with
      | error e =>
        exact ⟨by simp, .refl _, by simp, by simp, fun _ ↦ ⟨p, .head _, e, hpublish⟩⟩
      | ok array =>
        refine ⟨?_, later.kept_sublist.cons p, ?_, hlength ▸ later.waits, ?_⟩
        · exact (later.accounted.cons p.message).trans List.perm_middle.symm
        · intro o ho
          rcases List.mem_cons.mp ho with rfl | ho
          · exact ⟨p, .head _, ⟨turn, by simp, hdue⟩, array, hpublish, rfl⟩
          · obtain ⟨q, hq, found⟩ := later.published o ho
            exact ⟨q, .tail _ hq, hlength ▸ found⟩
        · intro hraised
          obtain ⟨q, hq, found⟩ := later.raises hraised
          exact ⟨q, .tail _ hq, found⟩
    · refine ⟨later.accounted.cons p.message, later.kept_sublist.cons_cons p, ?_, ?_, ?_⟩
      · intro o ho
        obtain ⟨q, hq, found⟩ := later.published o ho
        exact ⟨q, .tail _ hq, hlength ▸ found⟩
      · intro hraised q hq
        rcases List.mem_cons.mp hq with rfl | hq
        · exact ⟨turn, by simp, by simpa using hdue⟩
        · exact hlength ▸ later.waits hraised q hq
      · intro hraised
        obtain ⟨q, hq, found⟩ := later.raises hraised
        exact ⟨q, .tail _ hq, found⟩

theorem verifier_of_running (h : n.running = some verifier) : n.verifier = some verifier := by
  unfold running at h
  split_ifs at h
  exact h

inductive Steps (port : LoopVerifier K V S O M) (n : LidarLoopVerifierNode K V) :
    VerifierEvent K V S O → LidarLoopVerifierNode K V → List (BatchOutput K M) → Prop
  | quiet {e n'} (hreceived : n.received e = []) (hpending : n'.pendingBatches = n.pendingBatches)
      (hterminated : n'.terminated = n.terminated) : Steps port n e n' []
  | cleared {e n'} (hclears : e.clears = true) (hreceived : n.received e = [])
      (hpending : n'.pendingBatches = []) (hterminated : n'.terminated = n.terminated) :
      Steps port n e n' n.clearPendingBatches
  | drained {e n' out verifier raised} (hreceived : n.received e = [])
      (hverifier : n'.verifier = some verifier)
      (hdrains : Drains port verifier (n'.due port verifier) e.clock 0 n.pendingBatches
        n'.pendingBatches out raised)
      (hterminated : n'.terminated = true → n.terminated = true ∨ raised = true) :
      Steps port n e n' out
  | answered {batch now verifier array} (hrunning : n.running = some verifier)
      (hready : batchGeometryReady port verifier batch = true)
      (hpublish : publishVerification port verifier batch = .ok array) :
      Steps port n (.candidates batch now) n [.published batch array]
  | queued {batch now verifier} (hrunning : n.running = some verifier)
      (hroom : n.pendingBatches.length < n.maximumPendingBatches) :
      Steps port n (.candidates batch now)
        { n with pendingBatches := n.pendingBatches ++ [⟨batch, n.scanSequence, now⟩] } []
  | displaced {batch now verifier front rest array} (hrunning : n.running = some verifier)
      (hpending : n.pendingBatches = front :: rest)
      (hfull : n.maximumPendingBatches ≤ n.pendingBatches.length)
      (hpublish : publishVerification port verifier front.message = .ok array) :
      Steps port n (.candidates batch now)
        { n with pendingBatches := rest ++ [⟨batch, n.scanSequence, now⟩] }
        [.published front.message array]
  | unhandled {batch now verifier failing e} (hrunning : n.running = some verifier)
      (hfailing : failing ∈ n.pendingBatches.map PendingBatch.message ++ [batch])
      (herror : publishVerification port verifier failing = .error e) :
      Steps port n (.candidates batch now) { n with terminated := true } [.unhandled batch]

theorem onCandidates_steps (hrunning : n.running = some verifier) (batch : CandidateArray K)
    (now : ℤ) : Steps port n (.candidates batch now) (n.onCandidates port verifier batch now).1
      (n.onCandidates port verifier batch now).2 := by
  by_cases hready : batchGeometryReady port verifier batch = true
  · rw [onCandidates, if_pos hready]
    cases hpublish : publishVerification port verifier batch with
    | error e => exact .unhandled hrunning (by simp) hpublish
    | ok array => exact .answered hrunning hready hpublish
  · rw [onCandidates, if_neg hready]
    by_cases hfull : n.maximumPendingBatches ≤ n.pendingBatches.length
    · simp only [if_pos hfull]
      cases hpending : n.pendingBatches with
      | nil =>
        have hmaximum := n.maximumPendingBatches_pos
        simp only [hpending, List.length_nil] at hfull
        omega
      | cons front rest =>
        dsimp only
        rw [← hpending]
        cases hpublish : publishVerification port verifier front.message with
        | error e => exact .unhandled hrunning (by simp [hpending]) hpublish
        | ok array => exact .displaced hrunning hpending hfull hpublish
    · simp only [if_neg hfull]
      exact .queued hrunning (not_le.mp hfull)

theorem step_steps (event : VerifierEvent K V S O) :
    Steps port n event (n.step port event).1 (n.step port event).2 := by
  unfold step
  split_ifs with hterminated
  · refine .quiet ?_ rfl rfl
    cases event <;> simp [received, running, hterminated]
  · cases event with
    | configure verifier =>
      cases verifier with
      | none => exact .cleared rfl rfl rfl rfl
      | some verifier => exact .quiet rfl rfl rfl
    | activate => exact .quiet rfl rfl rfl
    | deactivate => exact .cleared rfl rfl rfl rfl
    | cleanup => exact .cleared rfl rfl rfl rfl
    | shutdown => exact .cleared rfl rfl rfl rfl
    | scan scan now =>
      cases hrunning : n.running with
      | none => exact .quiet rfl rfl rfl
      | some verifier =>
        simp only [callback, drained]
        cases port.cacheScan verifier scan with
        | error e => exact .quiet rfl rfl rfl
        | ok verifier =>
          exact .drained rfl rfl (drains port { n with scanSequence := n.scanSequence + 1 } verifier
            now 0 n.pendingBatches) .inl
    | odometry odometry now =>
      cases hrunning : n.running with
      | none => exact .quiet rfl rfl rfl
      | some verifier =>
        simp only [callback, drained]
        cases port.cacheOdometry verifier odometry with
        | error e => exact .quiet rfl rfl rfl
        | ok verifier =>
          exact .drained rfl rfl (drains port n verifier now 0 n.pendingBatches) .inl
    | candidates batch now =>
      cases hrunning : n.running with
      | none => exact .quiet (by simp [received, hrunning]) rfl rfl
      | some verifier => exact onCandidates_steps hrunning batch now
    | pendingTimer now =>
      cases hrunning : n.running with
      | none => exact .quiet rfl rfl rfl
      | some verifier =>
        exact .drained rfl rfl (drains port n verifier now 0 n.pendingBatches) .inr

section Events

variable {e : VerifierEvent K V S O} {n' : LidarLoopVerifierNode K V} {out : List (BatchOutput K M)}
  (h : Steps port n e n' out)
include h

theorem Steps.accounted : n.pendingBatches.map PendingBatch.message ++ n.received e ~
      n'.pendingBatches.map PendingBatch.message ++ out.map BatchOutput.batch := by
  cases h with
  | quiet hreceived hpending => simp [hreceived, hpending]
  | cleared hclears hreceived hpending =>
    simp [hreceived, hpending, clearPendingBatches, Function.comp_def, BatchOutput.batch]
  | drained hreceived _ hdrains =>
    rw [hreceived, List.append_nil]
    exact hdrains.accounted
  | answered hrunning => simp [received, hrunning, BatchOutput.batch]
  | queued hrunning => simp [received, hrunning]
  | @displaced batch now verifier front rest array hrunning hpending =>
    have hfront := List.perm_append_singleton front.message
      (rest.map PendingBatch.message ++ [batch])
    simpa [received, hrunning, hpending, BatchOutput.batch] using hfront.symm
  | unhandled hrunning => simp [received, hrunning, BatchOutput.batch]

theorem Steps.bounded (hsize : n.pendingBatches.length ≤ n.maximumPendingBatches) :
    n'.pendingBatches.length ≤ n.maximumPendingBatches := by
  cases h with
  | quiet hreceived hpending => rwa [hpending]
  | cleared hclears hreceived hpending => simp [hpending]
  | drained hreceived _ hdrains => exact hdrains.kept_sublist.length_le.trans hsize
  | answered => exact hsize
  | queued hrunning hroom =>
    simp only [List.length_append, List.length_singleton]
    omega
  | displaced hrunning hpending => simpa [hpending] using hsize
  | unhandled => exact hsize

theorem Steps.justified (hout : .published batch array ∈ out) :
    ∃ verifier, n'.verifier = some verifier ∧
      publishVerification port verifier batch = .ok array ∧
      (batchGeometryReady port verifier batch = true ∨ ∃ p ∈ n.pendingBatches, p.message = batch ∧
        ((∃ t < n.pendingBatches.length, n'.expired p (e.clock t) = true) ∨
          n.maximumPendingBatches ≤ n.pendingBatches.length ∧
            n.pendingBatches.head? = some p)) := by
  cases h with
  | quiet => cases hout
  | cleared =>
    obtain ⟨p, -, hp⟩ := List.mem_map.mp hout
    cases hp
  | @drained e n' out verifier raised hreceived hverifier hdrains =>
    obtain ⟨p, hp, ⟨t, ht, hdue⟩, found, hpublish, heq⟩ := hdrains.published _ hout
    cases heq
    refine ⟨verifier, hverifier, hpublish, ?_⟩
    rcases Bool.or_eq_true_iff.mp hdue with hready | hexpired
    · exact .inl hready
    · exact .inr ⟨p, hp, rfl, .inl ⟨t, by simpa using ht, hexpired⟩⟩
  | @answered _ _ verifier _ hrunning hready hpublish =>
    cases List.mem_singleton.mp hout
    exact ⟨verifier, verifier_of_running hrunning, hpublish, .inl hready⟩
  | queued => cases hout
  | @displaced _ _ verifier front _ _ hrunning hpending hfull hpublish =>
    cases List.mem_singleton.mp hout
    refine ⟨verifier, verifier_of_running hrunning, hpublish,
      .inr ⟨front, ?_, rfl, .inr ⟨hfull, ?_⟩⟩⟩
    · rw [hpending]
      exact .head _
    · rw [hpending, List.head?_cons]
  | unhandled => cases List.mem_singleton.mp hout

theorem Steps.sound (hsound : ∀ batch ∈ n.pendingBatches.map PendingBatch.message ++ n.received e,
      ∀ verifier, ∃ array, publishVerification port verifier batch = .ok array)
    (hclears : e.clears = false) :
    (n'.terminated = true → n.terminated = true) ∧
      ∀ o ∈ out, ∃ batch array, o = .published batch array := by
  cases h with
  | quiet _ _ hterminated => exact ⟨fun h ↦ hterminated ▸ h, by simp⟩
  | cleared hclears' => cases hclears.symm.trans hclears'
  | drained hreceived _ hdrains hterminated =>
    refine ⟨fun h ↦ (hterminated h).resolve_right fun hraised ↦ ?_, fun o ho ↦ ?_⟩
    · obtain ⟨p, hp, e, herror⟩ := hdrains.raises hraised
      obtain ⟨array, hok⟩ := hsound p.message
        (List.mem_append_left _ (List.mem_map_of_mem hp)) _
      cases hok.symm.trans herror
    · obtain ⟨p, -, -, array, -, rfl⟩ := hdrains.published o ho
      exact ⟨p.message, array, rfl⟩
  | answered => exact ⟨id, by simp⟩
  | queued => exact ⟨id, by simp⟩
  | displaced => exact ⟨id, by simp⟩
  | unhandled hrunning hfailing herror =>
    obtain ⟨array, hok⟩ := hsound _ (by simpa [received, hrunning] using hfailing) _
    cases hok.symm.trans herror

theorem Steps.clears_of_cleared (hout : .cleared batch ∈ out) : e.clears = true := by
  cases h with
  | cleared hclears => exact hclears
  | drained hreceived _ hdrains =>
    obtain ⟨p, -, -, array, -, hp⟩ := hdrains.published _ hout
    cases hp
  | _ => simp at hout

theorem Steps.waits {p : PendingBatch K} (hp : p ∈ n'.pendingBatches) :
    p ∈ n.pendingBatches ∨
      e = .candidates p.message p.enqueueTime ∧ p.enqueueScanSequence = n.scanSequence := by
  cases h with
  | quiet hreceived hpending => exact .inl (hpending ▸ hp)
  | cleared hclears hreceived hpending => rw [hpending] at hp; cases hp
  | drained hreceived _ hdrains => exact .inl (hdrains.kept_sublist.subset hp)
  | answered => exact .inl hp
  | queued =>
    rcases List.mem_append.mp hp with hp | hp
    · exact .inl hp
    · cases List.mem_singleton.mp hp
      exact .inr ⟨rfl, rfl⟩
  | displaced hrunning hpending =>
    rcases List.mem_append.mp hp with hp | hp
    · exact .inl (hpending ▸ List.mem_cons_of_mem _ hp)
    · cases List.mem_singleton.mp hp
      exact .inr ⟨rfl, rfl⟩
  | unhandled => exact .inl hp

end Events

theorem step_maximum (e : VerifierEvent K V S O) :
    (n.step port e).1.maximumPendingBatches = n.maximumPendingBatches := by
  unfold step
  split_ifs
  · rfl
  · cases e with
    | configure verifier => cases verifier <;> rfl
    | activate | deactivate | cleanup | shutdown => rfl
    | _ => cases n.running <;> grind [callback, onCandidates, drained]

variable (port n) in
def outputs : List (VerifierEvent K V S O) → List (BatchOutput K M) :=
  collect (step port) (fun n e ↦ (n.step port e).2) n

variable {h : List (VerifierEvent K V S O)}

theorem bounded_run (hsize : n.pendingBatches.length ≤ n.maximumPendingBatches)
    (h : List (VerifierEvent K V S O)) :
    (run (step port) n h).pendingBatches.length ≤ n.maximumPendingBatches ∧
      (run (step port) n h).maximumPendingBatches = n.maximumPendingBatches := by
  refine run_preserves (step port)
    (I := fun n' ↦ n'.pendingBatches.length ≤ n.maximumPendingBatches ∧
      n'.maximumPendingBatches = n.maximumPendingBatches) (fun n' e hn ↦ ?_) ⟨hsize, rfl⟩ h
  obtain ⟨hsize, hmaximum⟩ := hn
  exact ⟨hmaximum ▸ (step_steps e).bounded (hmaximum.symm ▸ hsize),
    (step_maximum e).trans hmaximum⟩

theorem batches_accounted (hsize : n.pendingBatches.length ≤ n.maximumPendingBatches)
    (h : List (VerifierEvent K V S O)) :
    n.pendingBatches.map PendingBatch.message ++ collect (step port) received n h ~
        (run (step port) n h).pendingBatches.map PendingBatch.message ++
          (outputs port n h).map BatchOutput.batch ∧
      (run (step port) n h).pendingBatches.length ≤ n.maximumPendingBatches ∧
      (∀ batch array, .published batch array ∈ outputs port n h → Answers batch array) ∧
      ∀ batch, .cleared batch ∈ outputs port n h → ∃ e ∈ h, e.clears = true := by
  refine ⟨?_, ?_, ?_, ?_⟩
  · rw [outputs, map_collect]
    exact conserved (step port) (fun n ↦ n.pendingBatches.map PendingBatch.message) received _
      (fun n e ↦ (step_steps e).accounted) n h
  · exact (bounded_run hsize h).1
  · intro batch array hout
    obtain ⟨pre, e, post, -, hout⟩ := (mem_collect (step port) _).mp hout
    obtain ⟨verifier, -, hpublish, -⟩ := (step_steps e).justified hout
    exact answers_of_published hpublish
  · intro batch hout
    obtain ⟨pre, e, post, rfl, hcleared⟩ := (mem_collect (step port) _).mp hout
    exact ⟨e, by simp, (step_steps e).clears_of_cleared hcleared⟩

def Waits (port : LoopVerifier K V S O M) (n : LidarLoopVerifierNode K V)
    (h : List (VerifierEvent K V S O)) (p : PendingBatch K) : Prop :=
  ∃ pre post, h = pre ++ .candidates p.message p.enqueueTime :: post ∧
    p.enqueueScanSequence = (run (step port) n pre).scanSequence

theorem pending_waits (hnone : n.pendingBatches = []) (h : List (VerifierEvent K V S O)) :
    ∀ p ∈ (run (step port) n h).pendingBatches, Waits port n h p := by
  refine run_induction (step port) (I := fun h n' ↦ ∀ p ∈ n'.pendingBatches, Waits port n h p)
    (by simp [hnone]) (fun h e ih p hp ↦ ?_) h
  rcases (step_steps e).waits hp with hp | ⟨rfl, hsequence⟩
  · obtain ⟨pre, post, rfl, hsequence⟩ := ih p hp
    exact ⟨pre, post ++ [e], by simp, hsequence⟩
  · exact ⟨h, [], rfl, hsequence⟩

def Verifiable (port : LoopVerifier K V S O M) (batch : CandidateArray K) : Prop :=
  ∀ verifier, ∃ array, publishVerification port verifier batch = .ok array

theorem pending_verifiable (hnone : n.pendingBatches = [])
    (hbatches : ∀ batch now, .candidates batch now ∈ h → Verifiable port batch) {pre post}
    (hsplit : h = pre ++ post) :
    ∀ batch ∈ (run (step port) n pre).pendingBatches.map PendingBatch.message,
      Verifiable port batch := by
  intro batch hbatch
  obtain ⟨p, hp, rfl⟩ := List.mem_map.mp hbatch
  obtain ⟨before, between, rfl, -⟩ := pending_waits hnone pre p hp
  exact hbatches p.message p.enqueueTime (by simp [hsplit])

theorem step_published (hnone : n.pendingBatches = [])
    (hbatches : ∀ batch now, .candidates batch now ∈ h → Verifiable port batch)
    (hclears : ∀ e ∈ h, e.clears = false) {pre e post} (hsplit : h = pre ++ e :: post) :
    ((run (step port) n (pre ++ [e])).terminated = true →
      (run (step port) n pre).terminated = true) ∧
      ∀ o ∈ ((run (step port) n pre).step port e).2, ∃ batch array, o = .published batch array := by
  rw [run_snoc]
  refine (step_steps e).sound (fun batch hbatch ↦ ?_) (hclears e (by simp [hsplit]))
  rcases List.mem_append.mp hbatch with hbatch | hbatch
  · exact pending_verifiable hnone hbatches hsplit batch hbatch
  · cases e with
    | candidates arriving now =>
      rw [received] at hbatch
      split_ifs at hbatch
      · cases List.mem_singleton.mp hbatch
        exact hbatches batch now (by simp [hsplit])
      · cases hbatch
    | _ => cases hbatch

structure BatchesPublished (port : LoopVerifier K V S O M) (n : LidarLoopVerifierNode K V)
    (h : List (VerifierEvent K V S O)) : Prop where
  alive : (run (step port) n h).terminated = false
  published : ∀ o ∈ outputs port n h, ∃ batch array, o = .published batch array ∧
    Answers batch array
  accounted : collect (step port) received n h ~
    (run (step port) n h).pendingBatches.map PendingBatch.message ++
      (outputs port n h).map BatchOutput.batch
  drained : ∀ now verifier, (run (step port) n h).running = some verifier →
    ∀ p ∈ (run (step port) n (h ++ [.pendingTimer now])).pendingBatches,
      ∃ t < (run (step port) n h).pendingBatches.length,
        (run (step port) n h).due port verifier p (now t) = false

theorem batches_published_of_verifiable (hterminated : n.terminated = false)
    (hnone : n.pendingBatches = [])
    (hbatches : ∀ batch now, .candidates batch now ∈ h → Verifiable port batch)
    (hclears : ∀ e ∈ h, e.clears = false) : BatchesPublished port n h where
  alive := by
    refine run_induction (step port) (I := fun pre n' ↦ ∀ post, h = pre ++ post →
      n'.terminated = false) (fun _ _ ↦ hterminated) (fun pre e ih post hsplit ↦ ?_) h [] (by simp)
    have hsplit' : h = pre ++ e :: post := by simpa using hsplit
    have halive := (step_published hnone hbatches hclears hsplit').1
    rw [run_snoc, ih (e :: post) hsplit'] at halive
    simpa using halive
  published o ho := by
    obtain ⟨pre, e, post, hsplit, hout⟩ := (mem_collect (step port) _).mp ho
    obtain ⟨batch, array, rfl⟩ := (step_published hnone hbatches hclears hsplit).2 o hout
    obtain ⟨verifier, -, hpublish, -⟩ := (step_steps e).justified hout
    exact ⟨batch, array, rfl, answers_of_published hpublish⟩
  accounted := by
    simpa [hnone] using (batches_accounted (n := n) (by simp [hnone]) h).1
  drained now verifier hrunning p hp := by
    have hdrains := drains port (run (step port) n h) verifier now 0
      (run (step port) n h).pendingBatches
    have halive : (run (step port) n h).terminated = false := by
      cases hstopped : (run (step port) n h).terminated with
      | true => simp [running, hstopped] at hrunning
      | false => rfl
    simp only [run_snoc, step, halive, hrunning, callback, drained, Bool.false_eq_true,
      if_false] at hp
    rw [← Nat.zero_add (run (step port) n h).pendingBatches.length]
    refine hdrains.waits (Bool.eq_false_iff.mpr fun hraised ↦ ?_) p hp
    obtain ⟨q, hq, e, herror⟩ := hdrains.raises hraised
    have hverifiable := pending_verifiable hnone hbatches (List.append_nil h).symm
    obtain ⟨array, hok⟩ := hverifiable q.message (List.mem_map_of_mem hq) verifier
    cases hok.symm.trans herror

end LidarLoopVerifierNode

section Live

open Planar ScanOverlap ScanMatcher LiveSubmap LidarLoopVerifierNode

variable {K : Type} [Field K] [LinearOrder K] [FloorRing K] [Extended K] (num : Numerics K)

inductive LiveLidarMatchingMode
  | scanToScan | scanToSubmap

def LiveLidarMatchingMode.toString : LiveLidarMatchingMode → String
  | .scanToScan => "scan_to_scan"
  | .scanToSubmap => "scan_to_submap"

structure LiveLidarLoopVerification (K : Type) where
  queryContributingScans : ℕ := 0
  candidateContributingScans : ℕ := 0
  result : LidarScanMatchResult K

def rejected (rejectionReason : String) : LidarScanMatchResult K :=
  { startResult [] [] 0 with rejectionReason }

variable (matcher : LidarScanMatcherConfig K) (mode : LiveLidarMatchingMode)
  (verifier : LiveLidarLoopVerifier K)

def hasGeometry (stampNs : ℤ) : Bool :=
  match mode with
  | .scanToScan => (verifier.scans.entries.find stampNs).isSome
  | .scanToSubmap => (verifier.buildSubmap num.toTrigonometry stampNs).available

/-- The body of the loop of `verify`. -/
def verifyCandidate (queryStampNs : ℤ) (candidate : LiveLidarLoopCandidateInput K) :
    Except String (LiveLidarLoopVerification K) :=
  let target := verifier.scans.entries.find candidate.candidateStampNs
  match verifier.scans.entries.find queryStampNs, mode with
  | none, _ => .ok { result := rejected "query_scan_not_cached" }
  | some query, .scanToScan =>
    match target with
    | none =>
      .ok { queryContributingScans := 1, result := rejected "candidate_scan_not_cached" }
    | some target =>
      (matchLidarScans num query target candidate.yawOffsetRad matcher none).map (⟨1, 1, ·⟩)
  | some _, .scanToSubmap =>
    let query := verifier.buildSubmap num.toTrigonometry queryStampNs
    let queryScans := query.contributingFrameIds.length
    if !query.available then
      .ok ⟨queryScans, 0, rejected ("query_submap_" ++ query.rejectionReason)⟩
    else if target.isNone then .ok { result := rejected "candidate_scan_not_cached" }
    else
      let submap := verifier.buildSubmap num.toTrigonometry candidate.candidateStampNs
      let submapScans := submap.contributingFrameIds.length
      if !submap.available then
        .ok ⟨queryScans, submapScans, rejected ("candidate_submap_" ++ submap.rejectionReason)⟩
      else (matchLidarScans num query.points submap.points candidate.yawOffsetRad matcher
        none).map (⟨queryScans, submapScans, ·⟩)

def liveVerifier : LoopVerifier K (LiveLidarLoopVerifier K) (ℤ × List (Point K))
    (ℤ × Planar.Pose2d K) (LiveLidarLoopVerification K) where
  hasGeometry := hasGeometry num mode
  cacheScan verifier scan :=
    if scan.2.all fun point ↦ Extended.isFinite point.x && Extended.isFinite point.y then
      .ok (verifier.cacheScan scan.1 scan.2)
    else .error "cached scan points must be finite"
  cacheOdometry verifier odometry :=
    let pose := odometry.2
    if Extended.isFinite pose.x && Extended.isFinite pose.y && Extended.isFinite pose.yaw then
      .ok (verifier.cacheOdometry num.toTrigonometry odometry.1 pose)
    else .error "cached odometry pose must be finite"
  verify := verifyCandidate num matcher mode
  matchingMode _ := mode.toString

variable {matcher} (hvalid : validateConfig matcher = .ok ())
include hvalid

theorem matchLidarScans_ok (source target : List (Point K)) {yawOffsetRad : K}
    (hyaw : Extended.isFinite yawOffsetRad = true) :
    ∃ result, matchLidarScans num source target yawOffsetRad matcher none = .ok result := by
  by_cases hsize : matcher.minimumPoints ≤ (sampleFinite source matcher.pointStride).length ∧
      matcher.minimumPoints ≤ (sampleFinite target matcher.pointStride).length
  · have harguments : ValidArguments matcher yawOffsetRad none := ⟨hvalid, hyaw, by simp⟩
    obtain ⟨_, _, _, _, heq⟩ := matchLidarScans_eq num harguments rfl rfl hsize.1 hsize.2
    exact ⟨_, heq⟩
  · rw [not_and_or, not_le, not_le] at hsize
    simp [matchLidarScans, hvalid, hyaw, hsize]

theorem verifyCandidate_ok (queryStampNs : ℤ) {candidate : LiveLidarLoopCandidateInput K}
    (hyaw : Extended.isFinite candidate.yawOffsetRad = true) :
    ∃ result, verifyCandidate num matcher mode verifier queryStampNs candidate = .ok result := by
  unfold verifyCandidate
  dsimp only
  split
  · exact ⟨_, rfl⟩
  · split
    · exact ⟨_, rfl⟩
    · obtain ⟨result, hresult⟩ := matchLidarScans_ok num hvalid _ _ hyaw
      exact ⟨_, congrArg (Except.map _) hresult⟩
  · split_ifs
    · exact ⟨_, rfl⟩
    · exact ⟨_, rfl⟩
    · exact ⟨_, rfl⟩
    · obtain ⟨result, hresult⟩ := matchLidarScans_ok num hvalid _ _ hyaw
      exact ⟨_, congrArg (Except.map _) hresult⟩

theorem live_batches_published {n : LidarLoopVerifierNode K (LiveLidarLoopVerifier K)}
    {h : List (VerifierEvent K (LiveLidarLoopVerifier K) (ℤ × List (Point K))
      (ℤ × Planar.Pose2d K))}
    (hterminated : n.terminated = false) (hnone : n.pendingBatches = [])
    (hclears : ∀ e ∈ h, e.clears = false)
    (hfinite : ∀ batch now, .candidates batch now ∈ h → ∀ candidate ∈ batch.candidates,
      Extended.isFinite candidate.yawOffsetRad = true) :
    BatchesPublished (liveVerifier num matcher mode) n h := by
  refine batches_published_of_verifiable hterminated hnone (fun batch now hbatch verifier ↦ ?_)
    hclears
  obtain ⟨results, hresults⟩ := exists_mapM_ok fun candidate hcandidate ↦ by
    obtain ⟨result, hresult⟩ := verifyCandidate_ok num mode verifier hvalid batch.stampNs
      (hfinite batch now hbatch candidate hcandidate)
    exact ⟨(candidate, result), congrArg (Except.map fun result ↦ (candidate, result)) hresult⟩
  exact ⟨_, congrArg (· >>= _) hresults⟩

omit hvalid

def starter : LidarLoopVerifierNode ℝ (LiveLidarLoopVerifier ℝ) where
  maximumPendingBatches := 1
  pendingScanGrace := 2
  pendingTimeout := 500000000
  maximumPendingBatches_pos := Nat.one_pos

def awaited : CandidateArray ℝ := ⟨1, 7, 9, [⟨3, 0, 0, 1, 0⟩]⟩

noncomputable def overdue : List (VerifierEvent ℝ (LiveLidarLoopVerifier ℝ) (ℤ × List (Point ℝ))
    (ℤ × Planar.Pose2d ℝ)) :=
  [.configure (some { config := LiveSubmap.cornerConfig }), .activate, .candidates awaited 0,
    .pendingTimer fun _ ↦ 500000000]

noncomputable def port : LoopVerifier ℝ (LiveLidarLoopVerifier ℝ) (ℤ × List (Point ℝ))
    (ℤ × Planar.Pose2d ℝ) (LiveLidarLoopVerification ℝ) :=
  liveVerifier realNumerics ScanMatcher.cornerConfig .scanToScan

/-- After it a batch is received that is still pending when the node is shut down. -/
noncomputable def closed : List (VerifierEvent ℝ (LiveLidarLoopVerifier ℝ) (ℤ × List (Point ℝ))
    (ℤ × Planar.Pose2d ℝ)) :=
  overdue ++ [.candidates { awaited with queryId := 8 } 600000000, .shutdown]

theorem closed_accounted :
    [awaited, { awaited with queryId := 8 }] ~
        (run (step port) starter closed).pendingBatches.map PendingBatch.message ++
          (outputs port starter closed).map BatchOutput.batch ∧
      (run (step port) starter closed).pendingBatches.length ≤ 1 ∧
      (∀ batch array, .published batch array ∈ outputs port starter closed →
        Answers batch array) ∧
      ∃ e ∈ closed, e.clears = true := by
  have hsize : starter.pendingBatches.length ≤ starter.maximumPendingBatches := Nat.zero_le 1
  obtain ⟨haccounted, hbound, hanswers, hcleared⟩ :
      [] ++ collect (step port) received starter closed ~ _ ∧ _ := batches_accounted hsize closed
  exact ⟨haccounted, hbound, hanswers,
    hcleared { awaited with queryId := 8 } (.tail _ (.head _))⟩

theorem overdue_batches_published : BatchesPublished port starter overdue :=
  live_batches_published realNumerics .scanToScan (defaultConfig_valid one_ne_zero le_rfl) rfl rfl
    (by simp [overdue, VerifierEvent.clears]) fun _ _ _ _ _ ↦ rfl

end Live

end EmbodiedAgent.Slam.LoopVerification
