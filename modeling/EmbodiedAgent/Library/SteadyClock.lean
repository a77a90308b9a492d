import EmbodiedAgent.Library.Binary64

namespace EmbodiedAgent.Library

def nanoseconds (milliseconds : ℤ) : ℤ := 1000000 * milliseconds

def Fresh (since d now : ℤ) : Prop :=
  since ≤ now ∧ now - since ≤ nanoseconds d

instance (since d now : ℤ) :
    Decidable (Fresh since d now) :=
  inferInstanceAs (Decidable (_ ∧ _))

theorem fresh_iff {since now d : ℤ} (h : since ≤ now) :
    Fresh since d now ↔ now - since ≤ nanoseconds d := by
  simp [Fresh, h]

theorem not_fresh_mono {since t t' d : ℤ} (hs : since ≤ t)
    (h : ¬ Fresh since d t) (ht : t ≤ t') : ¬ Fresh since d t' := by
  have hs' : since ≤ t' := by omega
  rw [fresh_iff hs] at h
  rw [fresh_iff hs']
  omega

def durationSeconds (count : Int64) : Double := .ofRat (toNearest count.toInt / 1000000000)

theorem durationSeconds_finite (count : Int64) : ∃ v hv, durationSeconds count = .finite v hv := by
  have hbound : Representable (2 ^ 63) :=
    ⟨1, 63, by norm_num, by norm_num, by norm_num, by norm_num⟩
  have hlow : -2 ^ 63 ≤ toNearest count.toInt :=
    hbound.neg.le_toNearest (by exact_mod_cast count.le_toInt)
  have hhigh : toNearest count.toInt ≤ 2 ^ 63 :=
    hbound.toNearest_le (by exact_mod_cast count.toInt_lt.le)
  have hquotient : -2 ^ 63 ≤ toNearest count.toInt / 1000000000 ∧
      toNearest count.toInt / 1000000000 ≤ 2 ^ 63 := by
    constructor <;> linarith
  obtain ⟨v, hv, heq, -⟩ := Double.ofRat_between hbound.neg hbound hquotient.1 hquotient.2
  exact ⟨v, hv, heq⟩

/-- A reading of the steady clock in floating-point seconds. -/
def monotonicSeconds (t : ℤ) : Double :=
  if t % 1000000000 = 0 then .ofRat (t / 1000000000 : ℤ) else .ofRat (toNearest t / 1000000000)

/-- A configured duration as a floating-point number of seconds. -/
def leaseSeconds (milliseconds : ℤ) : Double := .ofRat (milliseconds / 1000)

theorem monotonicSeconds_ne_nan (t : ℤ) : monotonicSeconds t ≠ .nan := by
  rw [monotonicSeconds]
  split_ifs
  · exact Double.ofRat_ne_nan _
  · exact Double.ofRat_ne_nan _

variable {t u d : ℤ}

theorem leaseSeconds_pos (hd : 0 < d) : ¬ leaseSeconds d ≤ 0 := by
  have hbound : Representable (2 ^ (-10 : ℤ)) :=
    ⟨1, -10, by norm_num, by norm_num, by norm_num, by norm_num⟩
  have hd' : (1 : ℚ) ≤ d := by exact_mod_cast hd
  have hlow : Double.finite (2 ^ (-10 : ℤ)) hbound ≤ leaseSeconds d :=
    Double.finite_le_ofRat hbound (by norm_num; linarith)
  have hpos : (0 : Double) < Double.finite (2 ^ (-10 : ℤ)) hbound :=
    Double.finite_lt_finite.mpr (by norm_num)
  intro h
  exact Double.lt_irrefl _ (Double.lt_of_le_of_lt hlow (Double.lt_of_le_of_lt h hpos))

theorem monotonicSeconds_near (h₀ : 0 ≤ t) (h : t < 2 ^ 51) :
    ∃ v hv, monotonicSeconds t = .finite v hv ∧ |v - t / 1000000000| ≤ 2 ^ (-32 : ℤ) := by
  have ht₀ : (0 : ℚ) ≤ t := by exact_mod_cast h₀
  have ht : (t : ℚ) < 2 ^ 51 := by exact_mod_cast h
  have hsmall : |(t : ℚ) / 1000000000| < 2 ^ (22 : ℤ) := by
    rw [abs_of_nonneg (by positivity)]
    norm_num at ht ⊢
    linarith
  have hexact : toNearest (t : ℚ) = t := by
    refine (representable_intCast ?_).toNearest_eq
    rw [abs_of_nonneg h₀]
    omega
  rw [monotonicSeconds, hexact]
  split_ifs with hwhole
  · have hquotient : ((t / 1000000000 : ℤ) : ℚ) = t / 1000000000 := by
      rw [Int.cast_div (Int.dvd_of_emod_eq_zero hwhole) (by norm_num)]
      norm_num
    rw [hquotient]
    exact Double.ofRat_near hsmall (by norm_num) (by norm_num)
  · exact Double.ofRat_near hsmall (by norm_num) (by norm_num)

theorem monotonicSeconds_lt (ht₀ : 0 ≤ t) (ht : t < 2 ^ 51) (hu₀ : 0 ≤ u) (hu : u < 2 ^ 51) :
    monotonicSeconds t < monotonicSeconds u ↔ t < u := by
  have hlt {a b : ℤ} (ha₀ : 0 ≤ a) (ha : a < 2 ^ 51) (hb₀ : 0 ≤ b) (hb : b < 2 ^ 51) (hab : a < b) :
      monotonicSeconds a < monotonicSeconds b := by
    obtain ⟨v, hv, hva, hverror⟩ := monotonicSeconds_near ha₀ ha
    obtain ⟨w, hw, hwb, hwerror⟩ := monotonicSeconds_near hb₀ hb
    have hgap : (a : ℚ) + 1 ≤ b := by exact_mod_cast hab
    rw [hva, hwb, Double.finite_lt_finite]
    rw [abs_le] at hverror hwerror
    norm_num at hverror hwerror
    linarith
  refine ⟨fun h ↦ ?_, hlt ht₀ ht hu₀ hu⟩
  rcases lt_trichotomy t u with htu | rfl | hut
  · exact htu
  · exact absurd h (Double.lt_irrefl _)
  · exact absurd (Double.lt_trans h (hlt hu₀ hu ht₀ ht hut)) (Double.lt_irrefl _)

theorem monotonicSeconds_sub_near (ht₀ : 0 ≤ t) (ht : t < 2 ^ 51) (hu₀ : 0 ≤ u) (hu : u < 2 ^ 51) :
    ∃ x hx, (monotonicSeconds t).sub (monotonicSeconds u) = .finite x hx ∧
      |x - (t - u) / 1000000000| ≤ 3 * 2 ^ (-32 : ℤ) := by
  obtain ⟨v, hv, hvt, hverror⟩ := monotonicSeconds_near ht₀ ht
  obtain ⟨w, hw, hwu, hwerror⟩ := monotonicSeconds_near hu₀ hu
  have ht₀' : (0 : ℚ) ≤ t := by exact_mod_cast ht₀
  have hu₀' : (0 : ℚ) ≤ u := by exact_mod_cast hu₀
  have ht' : (t : ℚ) < 2 ^ 51 := by exact_mod_cast ht
  have hu' : (u : ℚ) < 2 ^ 51 := by exact_mod_cast hu
  rw [abs_le] at hverror hwerror
  norm_num at hverror hwerror ht' hu'
  have hsize : |v - w| < 2 ^ (22 : ℤ) := by
    rw [abs_lt]
    norm_num
    constructor <;> linarith
  obtain ⟨x, hx, hsub, hxerror⟩ := Double.ofRat_near hsize (by norm_num) (by norm_num)
  refine ⟨x, hx, by rw [hvt, hwu, Double.sub_finite, hsub], ?_⟩
  rw [abs_le] at hxerror ⊢
  norm_num at hxerror ⊢
  constructor <;> linarith

theorem leaseSeconds_lt_sub (hd₀ : 0 < d) (ht₀ : 0 ≤ t) (ht : t < 2 ^ 51) (hu₀ : 0 ≤ u)
    (hu : u < 2 ^ 51) (hgap : t - u ≠ nanoseconds d) :
    leaseSeconds d < (monotonicSeconds t).sub (monotonicSeconds u) ↔ nanoseconds d < t - u := by
  obtain ⟨x, hx, hsub, hxerror⟩ := monotonicSeconds_sub_near ht₀ ht hu₀ hu
  have hd₀' : (0 : ℚ) < d := by exact_mod_cast hd₀
  rw [hsub]
  rw [abs_le] at hxerror
  norm_num at hxerror
  rcases lt_or_ge d (2 ^ 22 * 1000) with hd | hd
  · have hd' : (d : ℚ) < 2 ^ 22 * 1000 := by exact_mod_cast hd
    have hsize : |(d : ℚ) / 1000| < 2 ^ (22 : ℤ) := by
      rw [abs_of_pos (by positivity)]
      norm_num at hd' ⊢
      linarith
    obtain ⟨y, hy, hlease, hyerror⟩ := Double.ofRat_near hsize (by norm_num) (by norm_num)
    rw [abs_le] at hyerror
    norm_num at hyerror
    rw [leaseSeconds, hlease, Double.finite_lt_finite, nanoseconds]
    rcases lt_or_gt_of_ne hgap with hless | hmore
    · have hless' : (t : ℚ) - u + 1 ≤ 1000000 * d := by exact_mod_cast hless
      refine iff_of_false (fun h ↦ ?_) (not_lt.mpr hless.le)
      linarith
    · have hmore' : 1000000 * (d : ℚ) + 1 ≤ t - u := by exact_mod_cast hmore
      refine iff_of_true ?_ hmore
      linarith
  · -- so long a duration has not passed yet
    have hd' : (2 : ℚ) ^ 22 * 1000 ≤ d := by exact_mod_cast hd
    have hbound : Representable (2 ^ 22) :=
      ⟨1, 22, by norm_num, by norm_num, by norm_num, by norm_num⟩
    have hlease : Double.finite (2 ^ 22) hbound ≤ leaseSeconds d :=
      Double.finite_le_ofRat hbound (by linarith)
    have hpassed : (t : ℚ) - u < 2 ^ 51 := by exact_mod_cast (show t - u < 2 ^ 51 by omega)
    refine iff_of_false (fun h ↦ ?_) ?_
    · have hlong := Double.finite_lt_finite.mp (Double.lt_of_le_of_lt hlease h)
      norm_num at hlong hpassed
      linarith
    · rw [nanoseconds]
      omega

end EmbodiedAgent.Library
