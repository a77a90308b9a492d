import EmbodiedAgent.Agent.CommandNlu

namespace EmbodiedAgent.Agent.CommandNlu

open Library Matching

theorem roundMillis_error (x : ℚ) : |roundMillis x - x| ≤ 1 / 2000 := by
  have herror := roundHalfEven_error (x * 1000)
  have hscale : roundMillis x - x = (roundHalfEven (x * 1000) - x * 1000) / 1000 := by
    rw [roundMillis]
    ring
  rw [hscale, abs_div, abs_of_pos (by norm_num : (0 : ℚ) < 1000), div_le_iff₀ (by norm_num)]
  exact herror.trans (by norm_num)

theorem roundMillis_le {x : ℚ} {n : ℤ} (h : x ≤ n) : roundMillis x ≤ n := by
  have hrounded : roundHalfEven (x * 1000) ≤ n * 1000 := by
    apply roundHalfEven_le
    push_cast
    linarith
  rw [roundMillis, div_le_iff₀ (by norm_num)]
  exact_mod_cast hrounded

section Readings

variable {u : Unicode} {text : Chars} {span : Option (ℕ × ℕ)} {metres : ℚ}

theorem clamp_mem {lower upper : ℚ} (h : lower ≤ upper) (value : ℚ) :
    lower ≤ clamp lower upper value ∧ clamp lower upper value ≤ upper :=
  ⟨le_min h (le_max_left ..), min_le_left ..⟩

theorem distance_mem (h : distance u text span = some metres) : 1 / 20 ≤ metres ∧ metres ≤ 5 := by
  obtain ⟨found, -, hfound⟩ := List.exists_of_findSome?_eq_some h
  split_ifs at hfound
  obtain ⟨value, -, rfl⟩ := Option.map_eq_some_iff.mp hfound
  exact clamp_mem (by norm_num) value

theorem speed_mem (u : Unicode) (text : Chars) :
    1 / 20 ≤ (speed u text).value ∧ (speed u text).value ≤ 1 / 2 := by
  have hspoken (read : ℚ × (ℕ × ℕ)) :
      1 / 20 ≤ (spokenSpeed read).value ∧ (spokenSpeed read).value ≤ 1 / 2 :=
    clamp_mem (by norm_num) read.1
  rw [speed]
  split
  · exact hspoken _
  · split
    · exact hspoken _
    · split_ifs <;> norm_num

theorem motionSpeed_mem {reading : SpeedReading}
    (h : 1 / 20 ≤ reading.value ∧ reading.value ≤ 1 / 2) (hmetres : 1 / 20 ≤ metres) :
    0 < motionSpeed reading (some metres) ∧ motionSpeed reading (some metres) ≤ 1 / 2 := by
  rw [motionSpeed]
  split_ifs
  · refine ⟨lt_min (by norm_num) ?_, min_le_left ..⟩
    linarith
  · exact ⟨by linarith [h.1], h.2⟩

theorem motionSpeed_explicit {reading : SpeedReading} (h : reading.isExplicit = true)
    (distance : Option ℚ) : motionSpeed reading distance = reading.value := by
  cases distance with
  | none => rfl
  | some metres =>
    rw [motionSpeed, if_neg]
    rintro ⟨-, hnot⟩
    simp [h] at hnot

end Readings

section Splitting

variable {total : ℚ}

theorem parts_cover (htotal : 1 / 10 ≤ total) {n : ℕ} (hn : n = max 1 ⌈total / 10⌉.toNat) :
    1 / 10 ≤ total / n ∧ total / n ≤ 10 := by
  have hone : 1 ≤ n := hn ▸ le_max_left ..
  have hpos : (0 : ℚ) < n := by exact_mod_cast hone
  have hceil : (⌈total / 10⌉.toNat : ℚ) = (⌈total / 10⌉ : ℤ) := by
    have hnonneg : 0 ≤ ⌈total / 10⌉ := Int.ceil_nonneg (by linarith)
    exact_mod_cast Int.toNat_of_nonneg hnonneg
  have hup := Int.le_ceil (total / 10)
  have hlow := Int.ceil_lt_add_one (total / 10)
  have hle : (⌈total / 10⌉.toNat : ℚ) ≤ n := by exact_mod_cast hn ▸ le_max_right ..
  constructor
  · rw [le_div_iff₀ hpos]
    rcases hone.eq_or_lt with rfl | htwo
    · simpa using htotal
    · have hexact : n = ⌈total / 10⌉.toNat := by omega
      have htwo' : (2 : ℚ) ≤ n := by exact_mod_cast htwo
      rw [← hexact] at hceil
      linarith
  · rw [div_le_iff₀ hpos]
    linarith

end Splitting

def Action.float (action : Action) (key : String) : Option ℚ :=
  match action.arguments.lookup key with
  | some (.float x) => some x
  | _ => none

/-- The signed way of a motion. -/
def Action.travel (action : Action) : ℚ :=
  (action.float "linear_x").getD 0 * (action.float "duration_s").getD 0

@[simp] theorem float_linearX (v duration : ℚ) :
    (moveAction v duration).float "linear_x" = some v := rfl

@[simp] theorem float_duration (v duration : ℚ) :
    (moveAction v duration).float "duration_s" = some duration := rfl

@[simp] theorem travel_moveAction (v duration : ℚ) :
    (moveAction v duration).travel = v * duration := rfl

theorem signed_mul (direction : Heading) (v x : ℚ) :
    direction.signed v * x = direction.signed (v * x) := by
  cases direction
  · rfl
  · exact neg_mul v x

theorem signed_sub (direction : Heading) (x y : ℚ) :
    |direction.signed x - direction.signed y| = |x - y| := by
  cases direction
  · rfl
  · rw [← abs_neg]
    congr 1
    simp only [Heading.signed]
    ring

theorem travel_error {v metres : ℚ} (hv : 0 < v) (hhalf : v ≤ 1 / 2) {n : ℕ} (hn : 1 ≤ n) :
    |n * (v * roundMillis (metres / v / n)) - metres| ≤ 1 / 4000 * n := by
  have hpos : (0 : ℚ) < n := by exact_mod_cast hn
  have herror := roundMillis_error (metres / v / n)
  have hsplit : n * (v * roundMillis (metres / v / n)) - metres =
      n * v * (roundMillis (metres / v / n) - metres / v / n) := by
    field_simp
  rw [hsplit, abs_mul, abs_of_pos (mul_pos hpos hv)]
  calc n * v * |roundMillis (metres / v / n) - metres / v / n|
      ≤ n * (1 / 2) * (1 / 2000) := by gcongr
    _ = 1 / 4000 * n := by ring

variable {u : Unicode} {segment : Chars} {metres : ℚ}

theorem motionActions_eq (direction : Heading)
    (h : distance u segment (speed u segment).span = some metres) :
    ∃ v n, v = motionSpeed (speed u segment) (some metres) ∧ n = max 1 ⌈metres / v / 10⌉.toNat ∧
      (motionActionAndSlots u segment direction).actions =
        List.replicate n (moveAction (direction.signed v) (roundMillis (metres / v / n))) := by
  refine ⟨_, _, rfl, rfl, ?_⟩
  simp only [motionActionAndSlots, h]

theorem motion_split_exact (u : Unicode) (segment : Chars) (direction : Heading)
    (h : distance u segment (speed u segment).span = some metres) :
    ∃ v, 0 < v ∧ v ≤ 1 / 2 ∧
      ((speed u segment).isExplicit = true → v = (speed u segment).value) ∧
      (motionActionAndSlots u segment direction).actions ≠ [] ∧
      (∀ action ∈ (motionActionAndSlots u segment direction).actions,
        action.name = "move" ∧ action.float "linear_x" = some (direction.signed v) ∧
          ∃ duration, action.float "duration_s" = some duration ∧
            0 < duration ∧ duration ≤ 10) ∧
      |((motionActionAndSlots u segment direction).actions.map Action.travel).sum -
          direction.signed metres| ≤
        1 / 4000 * (motionActionAndSlots u segment direction).actions.length := by
  obtain ⟨v, n, hv, hn, hactions⟩ := motionActions_eq direction h
  obtain ⟨hlow, -⟩ := distance_mem h
  obtain ⟨hpos, hhalf⟩ := motionSpeed_mem (speed_mem u segment) hlow
  rw [← hv] at hpos hhalf
  have hone : 1 ≤ n := hn ▸ le_max_left ..
  have htotal : 1 / 10 ≤ metres / v := by
    rw [le_div_iff₀ hpos]
    linarith
  obtain ⟨hshort, hlong⟩ := parts_cover htotal hn
  have herror := abs_le.mp (roundMillis_error (metres / v / n))
  rw [hactions]
  refine ⟨v, hpos, hhalf, ?_, ?_, ?_, ?_⟩
  · intro hexplicit
    rw [hv, motionSpeed_explicit hexplicit]
  · intro hnil
    have hzero : n = 0 := by simpa using hnil
    omega
  · intro action haction
    obtain rfl := List.eq_of_mem_replicate haction
    refine ⟨rfl, float_linearX .., _, float_duration .., ?_, ?_⟩
    · linarith [herror.1]
    · exact roundMillis_le (n := 10) (by exact_mod_cast hlong)
  · rw [List.map_replicate, List.sum_replicate, travel_moveAction, signed_mul, nsmul_eq_mul,
      mul_comm, signed_mul, signed_sub, mul_comm, List.length_replicate]
    exact travel_error hpos hhalf hone

def asciiTables : Unicode where
  lower := List.map Char.toLower
  digit c := if c.isDigit then some (c.toNat - '0'.toNat) else none

/-- A tenth of a metre per second, and two metres. -/
def slowTwoMetres : Chars := "以每秒零点一米向前走两米".toList

theorem slow_two_metres_split :
    ∃ v, 0 < v ∧ v ≤ 1 / 2 ∧
      ((speed asciiTables slowTwoMetres).isExplicit = true →
        v = (speed asciiTables slowTwoMetres).value) ∧
      (motionActionAndSlots asciiTables slowTwoMetres .backward).actions ≠ [] ∧
      (∀ action ∈ (motionActionAndSlots asciiTables slowTwoMetres .backward).actions,
        action.name = "move" ∧ action.float "linear_x" = some (Heading.backward.signed v) ∧
          ∃ duration, action.float "duration_s" = some duration ∧
            0 < duration ∧ duration ≤ 10) ∧
      |((motionActionAndSlots asciiTables slowTwoMetres .backward).actions.map Action.travel).sum -
          Heading.backward.signed 2| ≤
        1 / 4000 * (motionActionAndSlots asciiTables slowTwoMetres .backward).actions.length :=
  motion_split_exact asciiTables slowTwoMetres .backward (by decide +kernel)

end EmbodiedAgent.Agent.CommandNlu
