import EmbodiedAgent.Library.History
import EmbodiedAgent.Library.Binary64
import Mathlib.Algebra.Order.Floor.Semifield

namespace EmbodiedAgent.Audio

open Library History

/-- The echo canceller with its reference buffer, as the constructor accepts it. -/
structure NlmsEchoCanceller where
  microphoneRate : ℕ
  referenceRate : ℕ
  step : ℚ
  delaySamples : ℕ
  weights : List ℚ
  history : List ℚ
  referenceBuffer : List Int16 := []
  delayInserted : Bool := false
  microphoneRate_pos : 0 < microphoneRate
  referenceRate_pos : 0 < referenceRate
  step_pos : 0 < step
  step_le : step ≤ 2

namespace NlmsEchoCanceller

def create (microphoneRate referenceRate : ℤ) (taps : ℕ) (step : ℚ) (delayMs : ℤ) :
    Except String NlmsEchoCanceller :=
  if h : microphoneRate ≤ 0 ∨ referenceRate ≤ 0 then .error "sample rates must be positive"
  else if hstep : step ≤ 0 ∨ 2 < step then .error "NLMS step must be in (0, 2]"
  else .ok
    { microphoneRate := microphoneRate.toNat
      referenceRate := referenceRate.toNat
      step := step
      delaySamples := microphoneRate.toNat * (max 0 delayMs).toNat / 1000
      weights := List.replicate (max 8 taps) 0
      history := List.replicate (max 8 taps) 0
      microphoneRate_pos := by omega
      referenceRate_pos := by omega
      step_pos := by simpa using (not_or.mp hstep).1
      step_le := by simpa using (not_or.mp hstep).2 }

variable (c : NlmsEchoCanceller)

def ratio : ℚ := c.microphoneRate / c.referenceRate

def interpolated (samples : List Int16) (outputIndex : ℕ) : ℚ :=
  let sourcePosition := (outputIndex : ℚ) / c.ratio
  let lower := ⌊sourcePosition⌋₊
  let upper := min (lower + 1) (samples.length - 1)
  let fraction := sourcePosition - lower
  (1 - fraction) * (samples.getD lower 0).toInt + fraction * (samples.getD upper 0).toInt

def outputSize (samples : List Int16) : ℕ := ⌊(samples.length : ℚ) * c.ratio⌋₊

def resampleReference (samples : List Int16) : List Int16 :=
  if c.referenceRate = c.microphoneRate then samples
  else (List.range (c.outputSize samples)).map fun outputIndex ↦
    Int16.ofInt (roundHalfAway (c.interpolated samples outputIndex))

def inserted (samples : List Int16) : List Int16 :=
  if samples.isEmpty then []
  else
    (if c.delayInserted then [] else List.replicate c.delaySamples 0) ++
      c.resampleReference samples

def addReference (samples : List Int16) : NlmsEchoCanceller :=
  if samples.isEmpty then c
  else
    let buffer := c.referenceBuffer ++ c.inserted samples
    { c with
      referenceBuffer := buffer.drop (buffer.length - c.microphoneRate * 2)
      delayInserted := true }

def cancelEcho (microphoneSample : Int16) : NlmsEchoCanceller × Int16 :=
  let reference := ((c.referenceBuffer.headD 0).toInt : ℚ) / 32768
  let history := reference :: c.history.dropLast
  let predicted := (c.weights.zipWith (· * ·) history).sum
  let energy := 1 / 1000000 + (history.map fun h ↦ h * h).sum
  let error := (microphoneSample.toInt : ℚ) / 32768 - predicted
  let scale := c.step * error / energy
  ({ c with
      weights := c.weights.zipWith (fun weight h ↦ weight + scale * h) history
      history := history
      referenceBuffer := c.referenceBuffer.tail },
    Int16.ofInt (clamp (Int32.ofInt (roundHalfAway (error * 32768))).toInt (-32768) 32767))

def cancelEchoes (c : NlmsEchoCanceller) : List Int16 → NlmsEchoCanceller × List Int16
  | [] => (c, [])
  | sample :: samples =>
    let (c, out) := c.cancelEcho sample
    let (c, outs) := cancelEchoes c samples
    (c, out :: outs)

def process (microphoneSamples : List Int16) : NlmsEchoCanceller × List Int16 :=
  if c.referenceBuffer.length < microphoneSamples.length then (c, microphoneSamples)
  else c.cancelEchoes microphoneSamples

def reset : NlmsEchoCanceller :=
  { c with
    weights := c.weights.map fun _ ↦ 0
    history := c.history.map fun _ ↦ 0
    referenceBuffer := []
    delayInserted := false }

/-- The calls of the two threads; each holds the lock while it touches the buffer. -/
inductive Call
  | addReference (samples : List Int16)
  | process (microphoneSamples : List Int16)

def perform (c : NlmsEchoCanceller) : Call → NlmsEchoCanceller × List Int16
  | .addReference samples => (c.addReference samples, [])
  | .process microphoneSamples => c.process microphoneSamples

def Call.chunk : Call → List Int16
  | .addReference samples => samples
  | .process _ => []

def appendedBy (c : NlmsEchoCanceller) (call : Call) : List Int16 := c.inserted call.chunk

def appended (calls : List Call) : List Int16 := collect perform appendedBy c calls

/-- The samples of the reference stream, over all its chunks. -/
def streamed (calls : List Call) : ℕ := (calls.map fun call ↦ call.chunk.length).sum

def Aligned (calls : List Call) : Prop :=
  |((c.appended calls).length : ℤ) -
    (c.delaySamples + ⌊(streamed calls : ℚ) * c.microphoneRate / c.referenceRate⌋)| ≤ 1

section Totals

variable {c} {samples : List Int16} {call : Call}

theorem resampleReference_length (samples : List Int16) : (c.resampleReference samples).length =
    samples.length * c.microphoneRate / c.referenceRate := by
  rw [resampleReference]
  split_ifs with hsame
  · rw [hsame, Nat.mul_div_cancel _ c.microphoneRate_pos]
  · have hratio : (samples.length : ℚ) * c.ratio =
        ((samples.length * c.microphoneRate : ℕ) : ℚ) / (c.referenceRate : ℚ) := by
      rw [ratio, Nat.cast_mul, mul_div_assoc]
    rw [List.length_map, List.length_range, outputSize, hratio, Nat.floor_div_eq_div]

theorem inserted_length (samples : List Int16) : (c.inserted samples).length =
    (if c.delayInserted ∨ samples.length = 0 then 0 else c.delaySamples) +
      samples.length * c.microphoneRate / c.referenceRate := by
  rw [inserted]
  cases samples with
  | nil => simp
  | cons sample samples =>
    rw [if_neg (by simp), List.length_append, resampleReference_length]
    cases c.delayInserted <;> simp

structure SameStream (c c' : NlmsEchoCanceller) : Prop where
  microphoneRate : c'.microphoneRate = c.microphoneRate
  referenceRate : c'.referenceRate = c.referenceRate
  delaySamples : c'.delaySamples = c.delaySamples

theorem cancelEchoes_same (samples : List Int16) (c : NlmsEchoCanceller) :
    SameStream c (c.cancelEchoes samples).1 ∧
      (c.cancelEchoes samples).1.delayInserted = c.delayInserted := by
  induction samples generalizing c with
  | nil => exact ⟨⟨rfl, rfl, rfl⟩, rfl⟩
  | cons sample samples ih =>
    obtain ⟨⟨hmicrophone, hreference, hdelay⟩, hinserted⟩ := ih (c.cancelEcho sample).1
    exact ⟨⟨hmicrophone, hreference, hdelay⟩, hinserted⟩

theorem perform_same (c : NlmsEchoCanceller) (call : Call) :
    SameStream c (c.perform call).1 ∧
      ((c.perform call).1.delayInserted ↔ c.delayInserted ∨ call.chunk.length ≠ 0) := by
  cases call with
  | addReference samples =>
    rw [perform, addReference]
    cases samples with
    | nil => exact ⟨⟨rfl, rfl, rfl⟩, by simp [Call.chunk]⟩
    | cons sample samples => exact ⟨⟨rfl, rfl, rfl⟩, by simp [Call.chunk]⟩
  | process samples =>
    rw [perform, process]
    split_ifs
    · exact ⟨⟨rfl, rfl, rfl⟩, by simp [Call.chunk]⟩
    · obtain ⟨hsame, hinserted⟩ := cancelEchoes_same samples c
      exact ⟨hsame, by simp [Call.chunk, hinserted]⟩

def resampled (c : NlmsEchoCanceller) (calls : List Call) : ℕ :=
  (calls.map fun call ↦ call.chunk.length * c.microphoneRate / c.referenceRate).sum

def lost (c : NlmsEchoCanceller) (calls : List Call) : ℕ :=
  (calls.map fun call ↦ call.chunk.length * c.microphoneRate % c.referenceRate).sum

theorem appended_length (calls : List Call) (c : NlmsEchoCanceller) : (c.appended calls).length =
    (if c.delayInserted ∨ streamed calls = 0 then 0 else c.delaySamples) +
      c.resampled calls := by
  induction calls generalizing c with
  | nil => simp [appended, streamed, resampled]
  | cons call calls ih =>
    obtain ⟨⟨hmicrophone, hreference, hdelay⟩, hinserted⟩ := perform_same c call
    have hlater := ih (c.perform call).1
    rw [appended] at hlater
    rw [appended, collect_cons, List.length_append, hlater, appendedBy, inserted_length, resampled,
      resampled, List.map_cons, List.sum_cons, hmicrophone, hreference, hdelay, streamed, streamed,
      List.map_cons, List.sum_cons]
    simp only [hinserted]
    split_ifs <;> grind

theorem resampled_add_lost (c : NlmsEchoCanceller) (calls : List Call) :
    c.resampled calls + c.lost calls / c.referenceRate =
      streamed calls * c.microphoneRate / c.referenceRate := by
  have hparts : streamed calls * c.microphoneRate =
      c.lost calls + c.referenceRate * c.resampled calls := by
    induction calls with
    | nil => simp [streamed, lost, resampled]
    | cons call calls ih =>
      have hchunk := Nat.mod_add_div (call.chunk.length * c.microphoneRate) c.referenceRate
      rw [streamed, lost, resampled] at ih ⊢
      simp only [List.map_cons, List.sum_cons, add_mul, mul_add]
      omega
  rw [hparts, Nat.add_mul_div_left _ _ c.referenceRate_pos, add_comm]

theorem lost_replicate (c : NlmsEchoCanceller) (k n : ℕ) :
    c.lost (List.replicate k (.addReference (List.replicate n 0))) =
      k * (n * c.microphoneRate % c.referenceRate) := by
  rw [lost, List.map_replicate, List.sum_replicate_nat, Call.chunk, List.length_replicate]

theorem aligned_iff_lengths (calls : List Call) : c.reset.Aligned calls ↔
    (0 < streamed calls ∨ c.delaySamples ≤ 1) ∧ c.lost calls / c.referenceRate ≤ 1 := by
  have htotal := resampled_add_lost c calls
  have hfloor : ⌊(streamed calls : ℚ) * c.microphoneRate / c.referenceRate⌋ =
      ((streamed calls * c.microphoneRate / c.referenceRate : ℕ) : ℤ) := by
    rw [← Nat.cast_mul, ← Int.natCast_floor_eq_floor (by positivity), Nat.floor_div_eq_div]
  have hlength := appended_length calls c.reset
  have hresampled : c.reset.resampled calls = c.resampled calls := rfl
  simp only [Aligned, reset] at hlength hfloor hresampled ⊢
  rw [hfloor, hlength, hresampled, ← htotal, abs_le]
  rcases Nat.eq_zero_or_pos (streamed calls) with hempty | hsome
  · rw [hempty, zero_mul, Nat.zero_div] at htotal
    simp only [hempty]
    grind
  · simp only [hsome.ne', hsome]
    grind

end Totals

theorem reference_aligned_iff (c : NlmsEchoCanceller) (calls : List Call) :
    c.reset.Aligned calls ↔ (0 < streamed calls ∨ c.delaySamples ≤ 1) ∧
      (calls.map fun call ↦ call.chunk.length * c.microphoneRate % c.referenceRate).sum <
        2 * c.referenceRate := by
  rw [aligned_iff_lengths, ← lost, ← Nat.lt_add_one_iff (m := c.lost calls / c.referenceRate),
    Nat.div_lt_iff_lt_mul c.referenceRate_pos]

def defaultCanceller : NlmsEchoCanceller where
  microphoneRate := 16000
  referenceRate := 24000
  step := 7 / 20
  delaySamples := 1280
  weights := List.replicate 64 0
  history := List.replicate 64 0
  microphoneRate_pos := by decide
  referenceRate_pos := by decide
  step_pos := by norm_num
  step_le := by norm_num

example : create 16000 24000 64 (7 / 20) 80 = .ok defaultCanceller := by
  rw [create, dif_neg (by decide), dif_neg (by norm_num)]
  rfl

/-- Each chunk of 1024 samples loses two thirds of a sample. -/
theorem fourChunks_behind : ¬ defaultCanceller.reset.Aligned
    (List.replicate 4 (.addReference (List.replicate 1024 0))) := by
  rw [aligned_iff_lengths]
  rintro ⟨-, hlost⟩
  rw [lost_replicate] at hlost
  norm_num [defaultCanceller] at hlost

end NlmsEchoCanceller

end EmbodiedAgent.Audio
