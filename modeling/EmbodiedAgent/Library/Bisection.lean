import Mathlib.Data.List.Basic
import Mathlib.Data.Nat.Basic

namespace EmbodiedAgent.Library.Bisection

variable {β : Type*} (fits : ℕ → Bool) (value : ℕ → β)

/-- Looks by halving for the largest number from `low` on and below `stop` that fits. -/
def bisect : ℕ → ℕ → ℕ → β → β
  | 0, _, _, best => best
  | fuel + 1, low, stop, best =>
    if low < stop then
      if fits ((low + stop - 1) / 2) then
        bisect fuel ((low + stop - 1) / 2 + 1) stop (value ((low + stop - 1) / 2))
      else bisect fuel low ((low + stop - 1) / 2) best
    else best

def probes : ℕ → ℕ → ℕ → List ℕ
  | 0, _, _ => []
  | fuel + 1, low, stop =>
    if low < stop then
      (low + stop - 1) / 2 ::
        if fits ((low + stop - 1) / 2) then probes fuel ((low + stop - 1) / 2 + 1) stop
        else probes fuel low ((low + stop - 1) / 2)
    else []

/-- The numbers that are tried when those up to `M` fit. -/
def probesFor (M : ℕ) : ℕ → ℕ → ℕ → List ℕ := probes fun m ↦ decide (m ≤ M)

variable {fits value} {M fuel low stop : ℕ} {best : β}

variable (fits value) in
theorem bisect_value (fuel low stop : ℕ) (best : β) : bisect fits value fuel low stop best = best ∨
      ∃ r < stop, fits r = true ∧ bisect fits value fuel low stop best = value r := by
  induction fuel generalizing low stop best with
  | zero => exact .inl rfl
  | succ fuel ih =>
    rw [bisect]
    split_ifs with hlt hfits
    · rcases ih ((low + stop - 1) / 2 + 1) stop (value ((low + stop - 1) / 2)) with heq | hvalue
      · exact .inr ⟨_, by omega, hfits, heq⟩
      · exact .inr hvalue
    · rcases ih low ((low + stop - 1) / 2) best with heq | ⟨r, hr, hrfits, heq⟩
      · exact .inl heq
      · exact .inr ⟨r, by omega, hrfits, heq⟩
    · exact .inl rfl

theorem bisect_found (hfuel : stop ≤ low + fuel) (hlow : low ≤ M + 1) (hstop : M < stop)
    (habove : ∀ m, M < m → m < stop → fits m = false)
    (hbelow : ∀ m ∈ probesFor M fuel low stop, m ≤ M → fits m = true)
    (hbest : M < low → best = value M) : bisect fits value fuel low stop best = value M := by
  induction fuel generalizing low stop best with
  | zero => exact hbest (by omega)
  | succ fuel ih =>
    rw [probesFor, probes] at hbelow
    rw [bisect]
    split_ifs at hbelow ⊢ with hlt hfits hle hle
    · refine ih (by omega) ?_ hstop habove (fun m hm ↦ hbelow m (.tail _ hm)) ?_
      · exact Nat.succ_le_succ (of_decide_eq_true hle)
      · intro hM
        have hle' := of_decide_eq_true hle
        rw [show (low + stop - 1) / 2 = M by omega]
    · have hgt : M < (low + stop - 1) / 2 := not_le.mp fun h ↦ hle (decide_eq_true h)
      rw [habove _ hgt (by omega)] at hfits
      cases hfits
    · exact absurd (hbelow _ (.head _) (of_decide_eq_true hle)) hfits
    · have hgt : M < (low + stop - 1) / 2 := not_le.mp fun h ↦ hle (decide_eq_true h)
      exact ih (by omega) hlow hgt (fun m hm hm' ↦ habove m hm (by omega))
        (fun m hm ↦ hbelow m (.tail _ hm)) hbest
    · exact hbest (by omega)

theorem bisect_missed (hstop : M < stop) (habove : ∀ m, M < m → m < stop → fits m = false)
    (hbelow : ∃ m ∈ probesFor M fuel low stop, m ≤ M ∧ fits m = false)
    (hbest : ∃ r ≤ low, best = value r) :
    ∃ m ≤ M, fits m = false ∧ ∃ r ≤ m, bisect fits value fuel low stop best = value r := by
  induction fuel generalizing low stop best with
  | zero =>
    obtain ⟨m, hm, -⟩ := hbelow
    cases hm
  | succ fuel ih =>
    obtain ⟨m, hm, hmle, hmfits⟩ := hbelow
    rw [probesFor, probes] at hm
    rw [bisect]
    split_ifs at hm ⊢ with hlt hfits hle hle
    · refine ih hstop habove ⟨m, ?_, hmle, hmfits⟩ ⟨_, Nat.le_succ _, rfl⟩
      rcases List.mem_cons.mp hm with rfl | hm
      · rw [hfits] at hmfits
        cases hmfits
      · exact hm
    · have hgt : M < (low + stop - 1) / 2 := not_le.mp fun h ↦ hle (decide_eq_true h)
      rw [habove _ hgt (by omega)] at hfits
      cases hfits
    · refine ⟨(low + stop - 1) / 2, of_decide_eq_true hle, Bool.eq_false_iff.mpr hfits, ?_⟩
      rcases bisect_value fits value fuel low ((low + stop - 1) / 2) best
        with heq | ⟨r, hr, -, heq⟩
      · obtain ⟨r, hr, hvalue⟩ := hbest
        exact ⟨r, by omega, heq.trans hvalue⟩
      · exact ⟨r, Nat.le_of_lt hr, heq⟩
    · have hgt : M < (low + stop - 1) / 2 := not_le.mp fun h ↦ hle (decide_eq_true h)
      refine ih hgt (fun m hm hm' ↦ habove m hm (by omega)) ⟨m, ?_, hmle, hmfits⟩ hbest
      rcases List.mem_cons.mp hm with rfl | hm
      · exact absurd hmle hgt.not_ge
      · exact hm
    · cases hm

theorem bisect_eq_iff (hfuel : stop ≤ fuel) (hstop : M < stop) (hM : fits M = true)
    (habove : ∀ m, M < m → m < stop → fits m = false)
    (hconvex : ∀ r m, r ≤ m → m ≤ M → value r = value M → fits m = fits M) :
    bisect fits value fuel 0 stop (value 0) = value M ↔
      ∀ m ∈ probesFor M fuel 0 stop, m ≤ M → fits m = true := by
  constructor
  · intro heq m hm hmle
    by_contra hmfits
    obtain ⟨m', hm'le, hm'fits, r, hr, hvalue⟩ := bisect_missed hstop habove
      ⟨m, hm, hmle, Bool.eq_false_iff.mpr hmfits⟩ ⟨0, le_rfl, rfl⟩
    have hsame := hconvex r m' hr hm'le (hvalue.symm.trans heq)
    rw [hm'fits, hM] at hsame
    cases hsame
  · intro hbelow
    exact bisect_found (by omega) (Nat.zero_le _) hstop habove hbelow fun h ↦
      absurd h (Nat.not_lt_zero M)

end EmbodiedAgent.Library.Bisection
