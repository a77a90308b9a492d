import Mathlib.Algebra.Order.Field.Power
import Mathlib.Data.Int.Log
import Mathlib.Data.Rat.Floor
import Mathlib.Tactic.Positivity

namespace EmbodiedAgent.Library

section Rounding

def Representable (q : ℚ) : Prop :=
  ∃ m e : ℤ, |m| < 2 ^ 53 ∧ -1074 ≤ e ∧ e ≤ 971 ∧ q = m * 2 ^ e

def roundHalfEven (q : ℚ) : ℤ :=
  if Int.fract q < 1 / 2 then ⌊q⌋
  else if 1 / 2 < Int.fract q then ⌊q⌋ + 1
  else if Even ⌊q⌋ then ⌊q⌋ else ⌊q⌋ + 1

def ulpExponent (q : ℚ) : ℤ := max (Int.log 2 |q| - 52) (-1074)

def toNearest (q : ℚ) : ℚ := roundHalfEven (q / 2 ^ ulpExponent q) * 2 ^ ulpExponent q

variable {q r : ℚ} {n : ℤ}

theorem le_roundHalfEven (h : (n : ℚ) ≤ q) : n ≤ roundHalfEven q := by
  have hfloor : n ≤ ⌊q⌋ := Int.le_floor.mpr h
  rw [roundHalfEven]
  split_ifs <;> omega

theorem roundHalfEven_le (h : q ≤ n) : roundHalfEven q ≤ n := by
  rcases h.lt_or_eq with hlt | rfl
  · have hfloor : ⌊q⌋ < n := Int.floor_lt.mpr hlt
    rw [roundHalfEven]
    split_ifs <;> omega
  · simp [roundHalfEven]

theorem zpow_two_pos (e : ℤ) : (0 : ℚ) < 2 ^ e := zpow_pos two_pos e

theorem zpow_two_add (e e' : ℤ) : (2 : ℚ) ^ (e + e') = 2 ^ e * 2 ^ e' := zpow_add₀ two_ne_zero e e'

theorem multiple_le_toNearest (h : n * (2 : ℚ) ^ ulpExponent q ≤ q) :
    n * (2 : ℚ) ^ ulpExponent q ≤ toNearest q := by
  have hn : n ≤ roundHalfEven (q / 2 ^ ulpExponent q) :=
    le_roundHalfEven ((le_div_iff₀ (zpow_two_pos _)).mpr h)
  exact mul_le_mul_of_nonneg_right (by exact_mod_cast hn) (zpow_two_pos _).le

theorem toNearest_le_multiple (h : q ≤ n * (2 : ℚ) ^ ulpExponent q) :
    toNearest q ≤ n * (2 : ℚ) ^ ulpExponent q := by
  have hn : roundHalfEven (q / 2 ^ ulpExponent q) ≤ n :=
    roundHalfEven_le ((div_le_iff₀ (zpow_two_pos _)).mpr h)
  exact mul_le_mul_of_nonneg_right (by exact_mod_cast hn) (zpow_two_pos _).le

@[simp] theorem toNearest_zero : toNearest 0 = 0 := by
  simp [toNearest, roundHalfEven]

theorem binade_eq (hq : -1074 < ulpExponent q) :
    ((2 ^ 52 : ℤ) : ℚ) * 2 ^ ulpExponent q = 2 ^ Int.log 2 |q| := by
  have hu : Int.log 2 |q| = 52 + ulpExponent q := by
    rw [ulpExponent] at hq ⊢
    omega
  rw [hu, zpow_two_add]
  norm_num

theorem binade_le (hq : q ≠ 0) : (2 : ℚ) ^ Int.log 2 |q| ≤ |q| := by
  have h := Int.zpow_log_le_self (b := 2) one_lt_two (abs_pos.mpr hq)
  simpa using h

theorem binade_le_toNearest (hu : -1074 < ulpExponent q) (hq : 0 < q) :
    (2 : ℚ) ^ Int.log 2 |q| ≤ toNearest q := by
  rw [← binade_eq hu]
  refine multiple_le_toNearest ?_
  rw [binade_eq hu]
  exact (binade_le hq.ne').trans_eq (abs_of_pos hq)

theorem toNearest_le_neg_binade (hu : -1074 < ulpExponent q) (hq : q < 0) :
    toNearest q ≤ -2 ^ Int.log 2 |q| := by
  rw [← binade_eq hu, ← neg_mul, ← Int.cast_neg]
  refine toNearest_le_multiple ?_
  rw [Int.cast_neg, neg_mul, binade_eq hu, le_neg, ← abs_of_neg hq]
  exact binade_le hq.ne

theorem binade_le_abs_toNearest (hu : -1074 < ulpExponent q) (hq : q ≠ 0) :
    (2 : ℚ) ^ Int.log 2 |q| ≤ |toNearest q| := by
  rcases lt_or_gt_of_ne hq with hneg | hpos
  · exact (le_neg.mp (toNearest_le_neg_binade hu hneg)).trans (neg_le_abs _)
  · exact (binade_le_toNearest hu hpos).trans (le_abs_self _)

theorem abs_lt_ulp (q : ℚ) : |q| < 2 ^ (53 + ulpExponent q) := by
  have hlog : |q| < 2 ^ (Int.log 2 |q| + 1) := by
    simpa using Int.lt_zpow_succ_log_self (b := 2) one_lt_two |q|
  have hu : Int.log 2 |q| + 1 ≤ 53 + ulpExponent q := by
    rw [ulpExponent]
    omega
  exact hlog.trans_le (zpow_le_zpow_right₀ one_le_two hu)

theorem Representable.grid (hr : Representable r) (q : ℚ) : (∃ n : ℤ, r = n * 2 ^ ulpExponent q) ∨
      (-1074 < ulpExponent q ∧ |r| < 2 ^ Int.log 2 |q|) := by
  obtain ⟨m, e, hm, hmin, -, rfl⟩ := hr
  rcases le_or_gt (ulpExponent q) e with hle | hlt
  · obtain ⟨k, hk⟩ := Int.le.dest hle
    refine .inl ⟨m * 2 ^ k, ?_⟩
    rw [← hk, zpow_two_add]
    push_cast
    rw [zpow_natCast]
    ring
  · have hu : -1074 < ulpExponent q := by omega
    refine .inr ⟨hu, ?_⟩
    have hpow : (2 : ℚ) ^ (e + 1) ≤ 2 ^ ulpExponent q :=
      zpow_le_zpow_right₀ one_le_two (by omega)
    have hm' : |(m : ℚ)| < 2 ^ 53 := by exact_mod_cast hm
    calc |(m : ℚ) * 2 ^ e| = |(m : ℚ)| * 2 ^ e := by rw [abs_mul, abs_of_pos (zpow_two_pos e)]
      _ < 2 ^ 53 * 2 ^ e := mul_lt_mul_of_pos_right hm' (zpow_two_pos e)
      _ = ((2 ^ 52 : ℤ) : ℚ) * 2 ^ (e + 1) := by rw [zpow_two_add]; push_cast; ring
      _ ≤ ((2 ^ 52 : ℤ) : ℚ) * 2 ^ ulpExponent q := mul_le_mul_of_nonneg_left hpow (by norm_num)
      _ = 2 ^ Int.log 2 |q| := binade_eq hu

theorem Representable.le_toNearest (hr : Representable r) (h : r ≤ q) : r ≤ toNearest q := by
  rcases hr.grid q with ⟨n, rfl⟩ | ⟨hu, hsmall⟩
  · exact multiple_le_toNearest h
  rcases lt_trichotomy q 0 with hneg | rfl | hpos
  · have hbinade := binade_le hneg.ne
    rw [abs_of_neg hneg] at hsmall hbinade
    linarith [neg_abs_le r]
  · simpa using h
  · linarith [binade_le_toNearest hu hpos, le_abs_self r]

theorem Representable.toNearest_le (hr : Representable r) (h : q ≤ r) : toNearest q ≤ r := by
  rcases hr.grid q with ⟨n, rfl⟩ | ⟨hu, hsmall⟩
  · exact toNearest_le_multiple h
  rcases lt_trichotomy q 0 with hneg | rfl | hpos
  · linarith [toNearest_le_neg_binade hu hneg, neg_abs_le r]
  · simpa using h
  · have hbinade := binade_le hpos.ne'
    rw [abs_of_pos hpos] at hsmall hbinade
    linarith [le_abs_self r]

theorem Representable.toNearest_eq (hr : Representable r) : toNearest r = r :=
  le_antisymm (hr.toNearest_le le_rfl) (hr.le_toNearest le_rfl)

theorem Representable.abs_lt (hr : Representable r) : |r| < 2 ^ (1024 : ℤ) := by
  obtain ⟨m, e, hm, -, hmax, rfl⟩ := hr
  have hm' : |(m : ℚ)| < 2 ^ 53 := by exact_mod_cast hm
  have hpow : (2 : ℚ) ^ e ≤ 2 ^ (971 : ℤ) := zpow_le_zpow_right₀ one_le_two hmax
  calc |(m : ℚ) * 2 ^ e| = |(m : ℚ)| * 2 ^ e := by rw [abs_mul, abs_of_pos (zpow_two_pos e)]
    _ < 2 ^ 53 * 2 ^ e := mul_lt_mul_of_pos_right hm' (zpow_two_pos e)
    _ ≤ 2 ^ 53 * 2 ^ (971 : ℤ) := mul_le_mul_of_nonneg_left hpow (by positivity)
    _ = 2 ^ ((53 : ℕ) : ℤ) * 2 ^ (971 : ℤ) := by rw [zpow_natCast]
    _ = 2 ^ (1024 : ℤ) := by rw [← zpow_two_add]; rfl

theorem Representable.neg (hr : Representable r) : Representable (-r) := by
  obtain ⟨m, e, hm, hmin, hmax, rfl⟩ := hr
  exact ⟨-m, e, by rwa [abs_neg], hmin, hmax, by push_cast; ring⟩

theorem Representable.abs (hr : Representable r) : Representable |r| := by
  rcases abs_choice r with h | h
  · rwa [h]
  · rw [h]
    exact hr.neg

theorem representable_zero : Representable 0 :=
  ⟨0, 0, by norm_num, by norm_num, by norm_num, by simp⟩

theorem representable_one : Representable 1 :=
  ⟨1, 0, by norm_num, by norm_num, by norm_num, by simp⟩

theorem exponent_lt_of_abs_lt {m u k : ℤ} (h : |(m : ℚ) * 2 ^ u| < 2 ^ (1024 : ℤ))
    (hm : (2 : ℚ) ^ k ≤ |(m : ℚ)|) : k + u < 1024 := by
  rw [abs_mul, abs_of_pos (zpow_two_pos u)] at h
  have hpow : (2 : ℚ) ^ (k + u) < 2 ^ (1024 : ℤ) := by
    rw [zpow_two_add]
    exact (mul_le_mul_of_nonneg_right hm (zpow_two_pos u).le).trans_lt h
  exact (zpow_lt_zpow_iff_right₀ one_lt_two).mp hpow

theorem abs_significand_le (q : ℚ) : |roundHalfEven (q / 2 ^ ulpExponent q)| ≤ 2 ^ 53 := by
  have hq : |q / 2 ^ ulpExponent q| ≤ 2 ^ 53 := by
    rw [abs_div, abs_of_pos (zpow_two_pos _), div_le_iff₀ (zpow_two_pos _)]
    have h := abs_lt_ulp q
    rw [zpow_two_add] at h
    exact h.le
  obtain ⟨hlow, hhigh⟩ := abs_le.mp hq
  refine abs_le.mpr ⟨le_roundHalfEven ?_, roundHalfEven_le ?_⟩
  · push_cast
    exact hlow
  · push_cast
    exact hhigh

theorem toNearest_representable (h : |toNearest q| < 2 ^ (1024 : ℤ)) :
    Representable (toNearest q) := by
  have hmin : -1074 ≤ ulpExponent q := le_max_right _ _
  have hm := abs_significand_le q
  rcases eq_or_ne q 0 with rfl | hq
  · rw [toNearest_zero]
    exact representable_zero
  rcases hm.lt_or_eq with hlt | heq
  · refine ⟨_, ulpExponent q, hlt, hmin, ?_, rfl⟩
    by_contra hlarge
    have hbinade := binade_le_abs_toNearest (q := q) (by omega) hq
    have hlog : (2 : ℚ) ^ (1024 : ℤ) ≤ 2 ^ Int.log 2 |q| := by
      refine zpow_le_zpow_right₀ one_le_two ?_
      rw [ulpExponent] at hlarge
      omega
    linarith
  · -- the significand overflowed: the value is 2^52 on the next grid
    have hu : 53 + ulpExponent q < 1024 := by
      refine exponent_lt_of_abs_lt h ?_
      rw [← Int.cast_abs, heq]
      norm_num
    obtain ⟨k, hk, hk'⟩ : ∃ k : ℤ, roundHalfEven (q / 2 ^ ulpExponent q) = k * 2 ∧
      |k| < 2 ^ 53 := by
      rcases eq_or_eq_neg_of_abs_eq heq with hm | hm
      · exact ⟨2 ^ 52, by rw [hm]; norm_num, by norm_num⟩
      · exact ⟨-2 ^ 52, by rw [hm]; norm_num, by norm_num⟩
    refine ⟨k, ulpExponent q + 1, hk', by omega, by omega, ?_⟩
    rw [toNearest, hk, zpow_two_add]
    push_cast
    ring

theorem roundHalfEven_error (q : ℚ) : |(roundHalfEven q : ℚ) - q| ≤ 1 / 2 := by
  have hlow := Int.fract_nonneg q
  have hhigh := Int.fract_lt_one q
  have hq := Int.floor_add_fract q
  rw [roundHalfEven, abs_le]
  split_ifs <;> push_cast <;> constructor <;> linarith

theorem toNearest_error (q : ℚ) : |toNearest q - q| ≤ 2 ^ ulpExponent q / 2 := by
  have hpos := zpow_two_pos (ulpExponent q)
  have hq : toNearest q - q =
      (roundHalfEven (q / 2 ^ ulpExponent q) - q / 2 ^ ulpExponent q) * 2 ^ ulpExponent q := by
    rw [sub_mul, div_mul_cancel₀ q hpos.ne', toNearest]
  have herror := mul_le_mul_of_nonneg_right (roundHalfEven_error (q / 2 ^ ulpExponent q)) hpos.le
  rw [hq, abs_mul, abs_of_pos hpos]
  linarith

theorem toNearest_error_of_abs_lt {k : ℤ} (h : |q| < 2 ^ k) (hk : -1021 ≤ k) :
    |toNearest q - q| ≤ 2 ^ (k - 54) := by
  rcases eq_or_ne q 0 with rfl | hq
  · simp [(zpow_two_pos _).le]
  have hu : ulpExponent q ≤ k - 53 := by
    have hlog : Int.log 2 |q| < k :=
      (zpow_lt_zpow_iff_right₀ one_lt_two).mp ((binade_le hq).trans_lt h)
    rw [ulpExponent]
    omega
  calc |toNearest q - q| ≤ 2 ^ ulpExponent q / 2 := toNearest_error q
    _ ≤ 2 ^ (k - 53) / 2 := by gcongr; exact one_le_two
    _ = 2 ^ (k - 54) := by
      rw [show k - 53 = k - 54 + 1 by ring, zpow_two_add, zpow_one, mul_div_cancel_right₀]
      exact two_ne_zero

theorem representable_intCast (h : |n| < 2 ^ 53) : Representable n :=
  ⟨n, 0, h, by norm_num, by norm_num, by simp⟩

end Rounding

def roundHalfAway (q : ℚ) : ℤ := if 0 ≤ q then ⌊q + 1 / 2⌋ else ⌈q - 1 / 2⌉

theorem le_roundHalfAway {q : ℚ} {n : ℤ} (h : (n : ℚ) ≤ q) : n ≤ roundHalfAway q := by
  rw [roundHalfAway]
  split_ifs
  · exact Int.le_floor.mpr (by linarith)
  · have hlt : n - 1 < ⌈q - 1 / 2⌉ := Int.lt_ceil.mpr (by push_cast; linarith)
    omega

theorem roundHalfAway_le {q : ℚ} {n : ℤ} (h : q ≤ n) : roundHalfAway q ≤ n := by
  rw [roundHalfAway]
  split_ifs
  · have hlt : ⌊q + 1 / 2⌋ < n + 1 := Int.floor_lt.mpr (by push_cast; linarith)
    omega
  · exact Int.ceil_le.mpr (by linarith)

def clamp {α : Type*} [LT α] [DecidableLT α] (value lower upper : α) : α :=
  if value < lower then lower else if upper < value then upper else value

/-- A binary64 value. The two zeros are one value here: no operation below tells
them apart. -/
inductive Double
  | nan
  | infinite (negative : Bool)
  | finite (value : ℚ) (representable : Representable value)
  deriving DecidableEq

namespace Double

instance : Zero Double := ⟨.finite 0 representable_zero⟩

/-- The value an exact result is delivered as. -/
def ofRat (q : ℚ) : Double :=
  if h : |toNearest q| < 2 ^ (1024 : ℤ) then .finite (toNearest q) (toNearest_representable h)
  else .infinite (decide (q < 0))

theorem ofRat_of_representable {q : ℚ} (h : Representable q) : ofRat q = .finite q h := by
  have hq : |toNearest q| < 2 ^ (1024 : ℤ) := by
    rw [h.toNearest_eq]
    exact h.abs_lt
  rw [ofRat, dif_pos hq]
  congr 1
  exact h.toNearest_eq

def isFinite : Double → Bool
  | .finite .. => true
  | _ => false

def ble : Double → Double → Bool
  | .nan, _ | _, .nan => false
  | .infinite a, .infinite b => a || !b
  | .infinite a, .finite .. => a
  | .finite .., .infinite b => !b
  | .finite a _, .finite b _ => decide (a ≤ b)

def blt : Double → Double → Bool
  | .nan, _ | _, .nan => false
  | .infinite a, .infinite b => a && !b
  | .infinite a, .finite .. => a
  | .finite .., .infinite b => !b
  | .finite a _, .finite b _ => decide (a < b)

instance : LE Double := ⟨fun a b ↦ ble a b = true⟩

instance : LT Double := ⟨fun a b ↦ blt a b = true⟩

instance (a b : Double) : Decidable (a ≤ b) := inferInstanceAs (Decidable (ble a b = true))

instance (a b : Double) : Decidable (a < b) := inferInstanceAs (Decidable (blt a b = true))

def abs : Double → Double
  | .nan => .nan
  | .infinite _ => .infinite false
  | .finite a h => .finite |a| h.abs

def sub : Double → Double → Double
  | .nan, _ | _, .nan => .nan
  | .infinite a, .infinite b => if a = b then .nan else .infinite a
  | .infinite a, .finite .. => .infinite a
  | .finite .., .infinite b => .infinite !b
  | .finite a _, .finite b _ => ofRat (a - b)

def add : Double → Double → Double
  | .nan, _ | _, .nan => .nan
  | .infinite a, .infinite b => if a = b then .infinite a else .nan
  | .infinite a, .finite .. | .finite .., .infinite a => .infinite a
  | .finite a _, .finite b _ => ofRat (a + b)

def mul : Double → Double → Double
  | .nan, _ | _, .nan => .nan
  | .infinite a, .infinite b => .infinite (a ^^ b)
  | .infinite a, .finite b _ | .finite b _, .infinite a =>
    if b = 0 then .nan else .infinite (a ^^ decide (b < 0))
  | .finite a _, .finite b _ => ofRat (a * b)

def div : Double → Double → Double
  | .nan, _ | _, .nan => .nan
  | .infinite _, .infinite _ => .nan
  | .infinite a, .finite b _ => .infinite (a ^^ decide (b < 0))
  | .finite .., .infinite _ => 0
  | .finite a _, .finite b _ =>
    if b = 0 then if a = 0 then .nan else .infinite (decide (a < 0)) else ofRat (a / b)

def neg : Double → Double
  | .nan => .nan
  | .infinite a => .infinite !a
  | .finite a h => .finite (-a) h.neg

def lround : Double → ℤ
  | .finite a _ =>
    if -2 ^ 63 ≤ roundHalfAway a ∧ roundHalfAway a < 2 ^ 63 then roundHalfAway a else -2 ^ 63
  | _ => -2 ^ 63

/-- The larger one in the order of `<`, the first where `<` does not decide. -/
def max (a b : Double) : Double := if a < b then b else a

def min (a b : Double) : Double := if b < a then b else a

variable {q r : ℚ} {a b : ℚ} {ha : Representable a} {hb : Representable b}

@[simp] theorem finite_le_finite : finite a ha ≤ finite b hb ↔ a ≤ b :=
  decide_eq_true_iff

@[simp] theorem finite_lt_finite : finite a ha < finite b hb ↔ a < b :=
  decide_eq_true_iff

theorem eq_finite_of_isFinite {v : Double} (h : v.isFinite = true) : ∃ q hq, v = finite q hq := by
  cases v with
  | finite q hq => exact ⟨q, hq, rfl⟩
  | nan | infinite => cases h

theorem sub_finite : sub (finite a ha) (finite b hb) = ofRat (a - b) := rfl

theorem mul_finite : mul (finite a ha) (finite b hb) = ofRat (a * b) := rfl

theorem finite_le_ofRat (hr : Representable r) (h : r ≤ q) : finite r hr ≤ ofRat q := by
  have hlow := hr.le_toNearest h
  rw [ofRat]
  split_ifs with hsize
  · exact finite_le_finite.mpr hlow
  · have hq : 0 ≤ q := by
      by_contra hneg
      have hhigh := representable_zero.toNearest_le (not_le.mp hneg).le
      refine hsize (lt_of_le_of_lt ?_ hr.abs_lt)
      rw [abs_of_nonpos hhigh]
      linarith [neg_abs_le r]
    have hsign : decide (q < 0) = false := by simpa using hq
    rw [hsign]
    rfl

theorem ofRat_le_finite (hr : Representable r) (h : q ≤ r) : ofRat q ≤ finite r hr := by
  have hhigh := hr.toNearest_le h
  rw [ofRat]
  split_ifs with hsize
  · exact finite_le_finite.mpr hhigh
  · have hq : q < 0 := by
      by_contra hpos
      have hlow := representable_zero.le_toNearest (not_lt.mp hpos)
      refine hsize (lt_of_le_of_lt ?_ hr.abs_lt)
      rw [abs_of_nonneg hlow]
      linarith [le_abs_self r]
    rw [decide_eq_true hq]
    rfl

theorem ofRat_between (ha : Representable a) (hb : Representable b) (hqa : a ≤ q) (hqb : q ≤ b) :
    ∃ v hv, ofRat q = finite v hv ∧ a ≤ v ∧ v ≤ b := by
  have hlow := finite_le_ofRat ha hqa
  have hhigh := ofRat_le_finite hb hqb
  cases hv : ofRat q with
  | nan =>
    rw [hv] at hlow
    cases hlow
  | infinite negative =>
    rw [hv] at hlow hhigh
    cases negative
    · cases hhigh
    · cases hlow
  | finite v h =>
    rw [hv] at hlow hhigh
    exact ⟨v, h, rfl, finite_le_finite.mp hlow, finite_le_finite.mp hhigh⟩

theorem ofRat_near {k : ℤ} (h : |q| < 2 ^ k) (hk : -1021 ≤ k) (hk' : k ≤ 1023) :
    ∃ v hv, ofRat q = finite v hv ∧ |v - q| ≤ 2 ^ (k - 54) := by
  have herror := toNearest_error_of_abs_lt h hk
  have hsmall : (2 : ℚ) ^ (k - 54) ≤ 2 ^ k := zpow_le_zpow_right₀ one_le_two (by omega)
  have htop : (2 : ℚ) ^ (k + 1) ≤ 2 ^ (1024 : ℤ) := zpow_le_zpow_right₀ one_le_two (by omega)
  have htriangle := abs_add_le (toNearest q - q) q
  rw [sub_add_cancel] at htriangle
  rw [zpow_two_add, zpow_one] at htop
  have hsize : |toNearest q| < 2 ^ (1024 : ℤ) := by linarith
  exact ⟨toNearest q, toNearest_representable hsize, dif_pos hsize, herror⟩

theorem lt_of_not_le {x y : Double} (hx : x ≠ nan) (hy : y ≠ nan) (h : ¬ x ≤ y) : y < x := by
  change ¬ ble x y = true at h
  change blt y x = true
  cases x <;> cases y <;> simp_all [ble, blt]

theorem lt_irrefl (x : Double) : ¬ x < x := by
  change ¬ blt x x = true
  cases x <;> simp [blt]

theorem zero_valid : isFinite 0 = true ∧ ¬ (0 : Double) < 0 := ⟨rfl, lt_irrefl 0⟩

theorem lt_trans {x y z : Double} (hxy : x < y) (hyz : y < z) : x < z := by
  change blt x y = true at hxy
  change blt y z = true at hyz
  change blt x z = true
  cases x <;> cases y <;> cases z <;> simp_all [blt]
  exact hxy.trans hyz

theorem le_trans {x y z : Double} (hxy : x ≤ y) (hyz : y ≤ z) : x ≤ z := by
  change ble x y = true at hxy
  change ble y z = true at hyz
  change ble x z = true
  cases x <;> cases y <;> cases z <;> simp_all [ble]
  · rcases hxy with h | h <;> simp_all
  · exact hxy.trans hyz

theorem lt_of_le_of_lt {x y z : Double} (hxy : x ≤ y) (hyz : y < z) : x < z := by
  change ble x y = true at hxy
  change blt y z = true at hyz
  change blt x z = true
  cases x <;> cases y <;> cases z <;> simp_all [ble, blt]
  exact hxy.trans_lt hyz

theorem lt_of_lt_of_le {x y z : Double} (hxy : x < y) (hyz : y ≤ z) : x < z := by
  change blt x y = true at hxy
  change ble y z = true at hyz
  change blt x z = true
  cases x <;> cases y <;> cases z <;> simp_all [ble, blt]
  exact hxy.trans_le hyz

theorem le_iff_not_lt {x y : Double} (hx : x ≠ nan) (hy : y ≠ nan) : x ≤ y ↔ ¬ y < x := by
  refine ⟨fun hle hlt ↦ lt_irrefl x (lt_of_le_of_lt hle hlt), fun h ↦ ?_⟩
  by_contra hle
  exact h (lt_of_not_le hx hy hle)

theorem ne_nan_of_lt {x y : Double} (h : x < y) : y ≠ nan := by
  rintro rfl
  cases x <;> cases h

theorem ne_nan_of_le {x y : Double} (h : x ≤ y) : y ≠ nan := by
  rintro rfl
  cases x <;> cases h

theorem ofRat_ne_nan (q : ℚ) : ofRat q ≠ nan := by
  rw [ofRat]
  split_ifs <;> simp

theorem clamp_not_pos {v m : Double} (hv : ¬ 0 < v) (hm : ¬ m ≤ 0) : ¬ 0 < clamp v m.neg m := by
  rw [clamp]
  split_ifs with hlow hhigh
  · intro hpos
    cases m with
    | nan => cases hpos
    | infinite negative =>
      cases negative
      · cases hpos
      · exact hm rfl
    | finite q hq =>
      have hneg : q ≤ 0 := by
        have h := finite_lt_finite.mp hpos
        linarith
      exact hm (finite_le_finite.mpr hneg)
  · exact fun hpos ↦ hv (lt_trans hpos hhigh)
  · exact hv

theorem sub_not_pos {x d : Double} (hx : ¬ 0 < x) (hd : ¬ d < 0) : ¬ 0 < x.sub d := by
  intro hpos
  cases x with
  | nan => cases hpos
  | infinite negative =>
    cases negative
    · exact hx rfl
    · cases d with
      | nan => cases hpos
      | infinite negative => cases negative <;> cases hpos
      | finite b hb => cases hpos
  | finite a ha =>
    cases d with
    | nan => cases hpos
    | infinite negative =>
      cases negative
      · cases hpos
      · exact hd rfl
    | finite b hb =>
      have ha' : a ≤ 0 := not_lt.mp fun h ↦ hx (finite_lt_finite.mpr h)
      have hb' : 0 ≤ b := not_lt.mp fun h ↦ hd (finite_lt_finite.mpr h)
      have hle : ofRat (a - b) ≤ 0 := ofRat_le_finite representable_zero (by linarith)
      exact lt_irrefl _ (lt_of_le_of_lt hle hpos)

theorem le_add {x d : Double} (hd : ¬ d < 0) (h : x.add d ≠ nan) : x ≤ x.add d := by
  cases x with
  | nan => exact absurd rfl h
  | infinite negative =>
    cases d with
    | nan => exact absurd rfl h
    | infinite negative' => cases negative <;> cases negative' <;> first | rfl | exact absurd rfl h
    | finite b hb => cases negative <;> rfl
  | finite a ha =>
    cases d with
    | nan => exact absurd rfl h
    | infinite negative =>
      cases negative
      · rfl
      · exact absurd rfl hd
    | finite b hb =>
      have hb' : 0 ≤ b := not_lt.mp fun hlt ↦ hd (finite_lt_finite.mpr hlt)
      exact finite_le_ofRat ha (by linarith)

theorem add_comm (x y : Double) : x.add y = y.add x := by
  cases x with
  | nan => cases y <;> rfl
  | infinite negative =>
    cases y with
    | nan => rfl
    | infinite negative' => cases negative <;> cases negative' <;> rfl
    | finite b hb => rfl
  | finite a ha =>
    cases y with
    | nan | infinite => rfl
    | finite b hb =>
      rw [add, add, Rat.add_comm]

theorem sub_le {x d : Double} (hd : ¬ d < 0) (h : x.sub d ≠ nan) : x.sub d ≤ x := by
  cases x with
  | nan => exact absurd rfl h
  | infinite negative =>
    cases d with
    | nan => exact absurd rfl h
    | infinite negative' => cases negative <;> cases negative' <;> first | rfl | exact absurd rfl h
    | finite b hb => cases negative <;> rfl
  | finite a ha =>
    cases d with
    | nan => exact absurd rfl h
    | infinite negative =>
      cases negative
      · rfl
      · exact absurd rfl hd
    | finite b hb =>
      have hb' : 0 ≤ b := not_lt.mp fun hlt ↦ hd (finite_lt_finite.mpr hlt)
      exact ofRat_le_finite ha (by linarith)

theorem zero_add {d : Double} : Double.add 0 d = d := by
  cases d with
  | nan | infinite => rfl
  | finite b hb =>
    show ofRat (0 + b) = _
    rw [Rat.zero_add, ofRat_of_representable hb]

theorem mul_not_neg {x y : Double} (hx : ¬ x ≤ 0) (hy : ¬ y ≤ 0) : ¬ x.mul y < 0 := by
  have hsign : ∀ {q : ℚ} (hq : Representable q), ¬ finite q hq ≤ 0 → 0 < q :=
    fun hq h ↦ not_le.mp fun hle ↦ h (finite_le_finite.mpr hle)
  intro hneg
  cases x with
  | nan => cases hneg
  | infinite negative =>
    cases negative
    · cases y with
      | nan => cases hneg
      | infinite negative =>
        cases negative
        · cases hneg
        · exact hy rfl
      | finite b hb =>
        have hpos := hsign hb hy
        rw [mul, if_neg hpos.ne', decide_eq_false (not_lt.mpr hpos.le)] at hneg
        cases hneg
    · exact hx rfl
  | finite a ha =>
    have ha' := hsign ha hx
    cases y with
    | nan => cases hneg
    | infinite negative =>
      cases negative
      · rw [mul, if_neg ha'.ne', decide_eq_false (not_lt.mpr ha'.le)] at hneg
        cases hneg
      · exact hy rfl
    | finite b hb =>
      have hb' := hsign hb hy
      have hle : 0 ≤ ofRat (a * b) := finite_le_ofRat representable_zero (mul_pos ha' hb').le
      exact lt_irrefl _ (lt_of_le_of_lt hle hneg)

theorem ofRat_nonneg (h : 0 ≤ q) : 0 ≤ ofRat q := finite_le_ofRat representable_zero h

theorem add_nonneg {x y : Double} (hx : 0 ≤ x) (hy : 0 ≤ y) : 0 ≤ x.add y := by
  cases x with
  | nan => cases hx
  | infinite negative =>
    cases negative
    · cases y with
      | nan => cases hy
      | infinite negative =>
        cases negative
        · rfl
        · cases hy
      | finite b hb => rfl
    · cases hx
  | finite a ha =>
    cases y with
    | nan => cases hy
    | infinite negative =>
      cases negative
      · rfl
      · cases hy
    | finite b hb =>
      exact ofRat_nonneg (Rat.add_nonneg (finite_le_finite.mp hx) (finite_le_finite.mp hy))

theorem mul_nonneg {x y : Double} (hx : x.isFinite = true) (hy : y.isFinite = true)
    (hx' : 0 ≤ x) (hy' : 0 ≤ y) : 0 ≤ x.mul y := by
  obtain ⟨a, ha, rfl⟩ := eq_finite_of_isFinite hx
  obtain ⟨b, hb, rfl⟩ := eq_finite_of_isFinite hy
  exact ofRat_nonneg (Rat.mul_nonneg (finite_le_finite.mp hx') (finite_le_finite.mp hy'))

theorem div_ne_nan {x y : Double} (hx : x.isFinite = true) (hy : y.isFinite = true)
    (hpos : ¬ y ≤ 0) : x.div y ≠ nan := by
  obtain ⟨a, ha, rfl⟩ := eq_finite_of_isFinite hx
  obtain ⟨b, hb, rfl⟩ := eq_finite_of_isFinite hy
  have hne : b ≠ 0 := by
    rintro rfl
    exact hpos (finite_le_finite.mpr le_rfl)
  rw [div, if_neg hne]
  exact ofRat_ne_nan _

theorem finite_sub_ne_nan {y : Double} (hy : y ≠ nan) : (finite a ha).sub y ≠ nan := by
  cases y with
  | nan => exact absurd rfl hy
  | infinite negative => exact Double.noConfusion
  | finite b hb => exact ofRat_ne_nan _

theorem clamp_between {v : Double} (hv : v ≠ nan) (hab : a ≤ b) :
    ∃ c hc, clamp v (finite a ha) (finite b hb) = finite c hc ∧ a ≤ c ∧ c ≤ b := by
  cases v with
  | nan => exact absurd rfl hv
  | infinite negative =>
    cases negative
    · exact ⟨b, hb, rfl, hab, le_rfl⟩
    · exact ⟨a, ha, rfl, le_rfl, hab⟩
  | finite q hq =>
    rw [clamp]
    split_ifs with hlow hhigh
    · exact ⟨a, ha, rfl, le_rfl, hab⟩
    · exact ⟨b, hb, rfl, hab, le_rfl⟩
    · rw [finite_lt_finite] at hlow hhigh
      exact ⟨q, hq, rfl, not_lt.mp hlow, not_lt.mp hhigh⟩

end Double

end EmbodiedAgent.Library
