import Mathlib.Data.List.Basic

namespace EmbodiedAgent.Library.Framing

variable {α : Type*} {n : ℕ} {l : List α}

/-- The first `k` blocks of length `n`. -/
def blocks (n : ℕ) : ℕ → List α → List (List α)
  | 0, _ => []
  | k + 1, l => l.take n :: blocks n k (l.drop n)

/-- The complete frames of length `n` at the front of a stream. -/
def frames (n : ℕ) (l : List α) : List (List α) := blocks n (l.length / n) l

def rest (n : ℕ) (l : List α) : List α := l.drop (l.length / n * n)

theorem frames_short (h : l.length < n) : frames n l = [] := by
  rw [frames, Nat.div_eq_of_lt h, blocks]

theorem rest_short (h : l.length < n) : rest n l = l := by
  rw [rest, Nat.div_eq_of_lt h, Nat.zero_mul, List.drop_zero]

theorem div_length_drop (hn : 0 < n) (h : n ≤ l.length) :
    l.length / n = (l.drop n).length / n + 1 := by
  rw [List.length_drop, Nat.div_eq_sub_div hn h]

theorem frames_cons (hn : 0 < n) (h : n ≤ l.length) :
    frames n l = l.take n :: frames n (l.drop n) := by
  rw [frames, div_length_drop hn h, blocks, frames]

theorem rest_drop (hn : 0 < n) (h : n ≤ l.length) : rest n l = rest n (l.drop n) := by
  rw [rest, rest, div_length_drop hn h, List.drop_drop, Nat.succ_mul, Nat.add_comm]

theorem rest_length_lt (hn : 0 < n) (l : List α) : (rest n l).length < n := by
  rw [rest, List.length_drop, Nat.mul_comm]
  exact (Nat.mod_eq_sub_mul_div (x := l.length)).symm ▸ Nat.mod_lt _ hn

theorem frames_append (hn : 0 < n) (l l' : List α) :
    frames n (l ++ l') = frames n l ++ frames n (rest n l ++ l') ∧
      rest n (l ++ l') = rest n (rest n l ++ l') := by
  induction hlen : l.length using Nat.strongRecOn generalizing l with
  | ind m ih =>
    subst hlen
    rcases Nat.lt_or_ge l.length n with hshort | hlong
    · rw [frames_short hshort, rest_short hshort]
      exact ⟨rfl, rfl⟩
    · have hsplit : n ≤ (l ++ l').length := by
        rw [List.length_append]
        omega
      have hsmaller : (l.drop n).length < l.length := by
        rw [List.length_drop]
        omega
      obtain ⟨hframes, hrest⟩ := ih _ hsmaller (l.drop n) rfl
      rw [frames_cons hn hsplit, rest_drop hn hsplit, List.take_append_of_le_length hlong,
        List.drop_append_of_le_length hlong, hframes, hrest, frames_cons hn hlong,
        rest_drop hn hlong]
      exact ⟨rfl, rfl⟩

end EmbodiedAgent.Library.Framing
