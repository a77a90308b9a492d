import EmbodiedAgent.Library.Binary64

namespace EmbodiedAgent.Library.Double

/-- `round` to so many decimal places, half to even. -/
def round (digits : ℕ) : Double → Double
  | .finite a _ => ofRat (roundHalfEven (a * 10 ^ digits) / 10 ^ digits)
  | x => x

/-- A finite number that differs from `q` by no more than `ε`. -/
def Near (x : Double) (q ε : ℚ) : Prop := ∃ v hv, x = finite v hv ∧ |v - q| ≤ ε

def unit : ℚ := 1 / 10 ^ 12

variable {x y : Double} {p q r a b c ε δ : ℚ}

theorem Near.mono (h : Near x q ε) (hle : ε ≤ δ) : Near x q δ := by
  obtain ⟨v, hv, rfl, hnear⟩ := h
  exact ⟨v, hv, rfl, hnear.trans hle⟩

theorem Near.of_near (h : Near x q ε) (hpq : |q - p| ≤ δ) : Near x p (ε + δ) := by
  obtain ⟨v, hv, rfl, hnear⟩ := h
  exact ⟨v, hv, rfl, (abs_sub_le v q p).trans (add_le_add hnear hpq)⟩

theorem near_finite (hq : Representable q) : Near (finite q hq) q 0 :=
  ⟨q, hq, rfl, by rw [sub_self, abs_zero]⟩

theorem near_ofRat (h : |q| < 1000) : Near (ofRat q) q unit := by
  have hsize : |q| < 2 ^ (10 : ℤ) := h.trans (by norm_num)
  obtain ⟨v, hv, hof, hnear⟩ := ofRat_near hsize (by norm_num) (by norm_num)
  exact ⟨v, hv, hof, hnear.trans (by norm_num [unit])⟩

theorem near_ofRat_of_near (hsize : |q| + ε < 1000) (h : |p - q| ≤ ε) :
    Near (ofRat p) q (ε + unit) := by
  have hp := abs_sub_abs_le_abs_sub p q
  rw [Rat.add_comm ε]
  exact (near_ofRat (by linarith)).of_near h

theorem Near.mul (hx : Near x p a) (hy : Near y q b)
    (hsize : |p * q| + (|p| * b + |q| * a + a * b) < 1000) :
    Near (x.mul y) (p * q) (|p| * b + |q| * a + a * b + unit) := by
  obtain ⟨v, hv, rfl, hv'⟩ := hx
  obtain ⟨w, hw, rfl, hw'⟩ := hy
  refine near_ofRat_of_near hsize ?_
  have hsplit : v * w - p * q = p * (w - q) + q * (v - p) + (v - p) * (w - q) := by ring
  rw [hsplit]
  calc |p * (w - q) + q * (v - p) + (v - p) * (w - q)|
      ≤ |p * (w - q)| + |q * (v - p)| + |(v - p) * (w - q)| := abs_add_three _ _ _
    _ = |p| * |w - q| + |q| * |v - p| + |v - p| * |w - q| := by rw [abs_mul, abs_mul, abs_mul]
    _ ≤ |p| * b + |q| * a + a * b := by
      have ha := (abs_nonneg _).trans hv'
      gcongr

theorem Near.div (hx : Near x p a) (hy : Near y q b) (hq : 1 / 2 ≤ q - b) (hb : 0 ≤ b)
    (hsize : |p / q| + 2 * (a + |p / q| * b) < 1000) :
    Near (x.div y) (p / q) (2 * (a + |p / q| * b) + unit) := by
  obtain ⟨v, hv, rfl, hv'⟩ := hx
  obtain ⟨w, hw, rfl, hw'⟩ := hy
  have hwlow : 1 / 2 ≤ w := by linarith [(abs_le.mp hw').1]
  have hw0 : w ≠ 0 := by linarith
  have hq0 : q ≠ 0 := by linarith
  have hdiv : div (finite v hv) (finite w hw) = ofRat (v / w) := if_neg hw0
  rw [hdiv]
  refine near_ofRat_of_near hsize ?_
  have hsplit : v / w - p / q = (v - p - p / q * (w - q)) / w := by
    field_simp
    ring
  rw [hsplit, abs_div, abs_of_pos (by linarith : 0 < w), div_le_iff₀ (by linarith)]
  have hnumerator : |v - p - p / q * (w - q)| ≤ a + |p / q| * b :=
    calc |v - p - p / q * (w - q)| ≤ |v - p| + |p / q * (w - q)| := abs_sub _ _
      _ = |v - p| + |p / q| * |w - q| := by rw [abs_mul]
      _ ≤ a + |p / q| * b := by gcongr
  have hnonneg := (abs_nonneg _).trans hnumerator
  nlinarith

theorem Near.round (digits : ℕ) (h : Near x q a) (hsize : |q| + (a + 1) < 1000) :
    Near (x.round digits) q (a + 1 / (2 * 10 ^ digits) + unit) := by
  obtain ⟨v, hv, rfl, hv'⟩ := h
  have hpow : (0 : ℚ) < 10 ^ digits := by positivity
  have hdigits : |(roundHalfEven (v * 10 ^ digits) : ℚ) / 10 ^ digits - v| ≤
      1 / (2 * 10 ^ digits) := by
    have herror := roundHalfEven_error (v * 10 ^ digits)
    have hsplit : (roundHalfEven (v * 10 ^ digits) : ℚ) / 10 ^ digits - v =
        (roundHalfEven (v * 10 ^ digits) - v * 10 ^ digits) / 10 ^ digits := by
      field_simp
    rw [hsplit, abs_div, abs_of_pos hpow, div_le_iff₀ hpow]
    calc _ ≤ 1 / 2 := herror
      _ = 1 / (2 * 10 ^ digits) * 10 ^ digits := by field_simp
  have hone : (1 : ℚ) / (2 * 10 ^ digits) ≤ 1 := by
    rw [div_le_one (by positivity)]
    have hge : (1 : ℚ) ≤ 10 ^ digits := one_le_pow₀ (by norm_num)
    linarith
  refine near_ofRat_of_near (by linarith) ?_
  exact (abs_sub_le _ v q).trans (by linarith)

variable {ha : Representable a}

theorem abs_sub_le_of_between {v : ℚ} (h : v ≤ a ∧ a ≤ q ∨ q ≤ a ∧ a ≤ v) : |a - q| ≤ |v - q| := by
  rcases h with ⟨hva, haq⟩ | ⟨hqa, hav⟩
  · rw [abs_of_nonpos (by linarith), abs_of_nonpos (by linarith)]
    linarith
  · rw [abs_of_nonneg (by linarith), abs_of_nonneg (by linarith)]
    linarith

theorem Near.max (h : Near x q ε) (hle : a ≤ q) : Near (Double.max (finite a ha) x) q ε := by
  obtain ⟨v, hv, rfl, hnear⟩ := h
  rw [Double.max]
  split_ifs with hlt
  · exact ⟨v, hv, rfl, hnear⟩
  · rw [finite_lt_finite, not_lt] at hlt
    exact ⟨a, ha, rfl, (abs_sub_le_of_between (.inl ⟨hlt, hle⟩)).trans hnear⟩

theorem Near.min (h : Near x q ε) (hle : q ≤ a) : Near (Double.min (finite a ha) x) q ε := by
  obtain ⟨v, hv, rfl, hnear⟩ := h
  rw [Double.min]
  split_ifs with hlt
  · exact ⟨v, hv, rfl, hnear⟩
  · rw [finite_lt_finite, not_lt] at hlt
    exact ⟨a, ha, rfl, (abs_sub_le_of_between (.inr ⟨hle, hlt⟩)).trans hnear⟩

theorem Near.clamp {hb : Representable b} (h : Near x q ε) (hlow : a ≤ q) (hhigh : q ≤ b) :
    Near (Library.clamp x (finite a ha) (finite b hb)) q ε := by
  obtain ⟨v, hv, rfl, hnear⟩ := h
  rw [Library.clamp]
  split_ifs with hlt hlt'
  · rw [finite_lt_finite] at hlt
    exact ⟨a, ha, rfl, (abs_sub_le_of_between (.inl ⟨hlt.le, hlow⟩)).trans hnear⟩
  · rw [finite_lt_finite] at hlt'
    exact ⟨b, hb, rfl, (abs_sub_le_of_between (.inr ⟨hhigh, hlt'.le⟩)).trans hnear⟩
  · exact ⟨v, hv, rfl, hnear⟩

end EmbodiedAgent.Library.Double
