import EmbodiedAgent.Agent.SpokenDistances
import EmbodiedAgent.Agent.SpokenNumbers

namespace EmbodiedAgent.Agent.CommandNlu

open Library Search Matching

/-- A numeral of digits, with a point before the last of them or with none. -/
structure Numeral where
  whole : Chars
  fraction : Chars
  whole_digit : ∀ c ∈ whole, c.isDigit = true
  fraction_digit : ∀ c ∈ fraction, c.isDigit = true
  nonempty : whole ++ fraction ≠ []
  deriving DecidableEq

namespace Numeral

variable (n : Numeral)

def text : Chars := if n.fraction = [] then n.whole else n.whole ++ '.' :: n.fraction

def digits : Chars := n.whole ++ n.fraction

def value : ℚ :=
  Nat.ofDigitChars 10 n.whole 0 + Nat.ofDigitChars 10 n.fraction 0 / 10 ^ n.fraction.length

def nominal : ℕ := Nat.ofDigitChars 10 n.digits 0

theorem digit_digits : ∀ c ∈ n.digits, c.isDigit = true := fun c hc ↦
  (List.mem_append.mp hc).elim (n.whole_digit c) (n.fraction_digit c)

theorem value_eq : n.value = n.nominal / 10 ^ n.fraction.length := by
  have hpow : (10 : ℚ) ^ n.fraction.length ≠ 0 := pow_ne_zero _ (by norm_num)
  have hnominal : n.nominal = 10 ^ n.fraction.length * Nat.ofDigitChars 10 n.whole 0 +
      Nat.ofDigitChars 10 n.fraction 0 := by
    rw [nominal, digits, Nat.ofDigitChars_append,
      Nat.ofDigitChars_eq_ofDigitChars_zero (l := n.fraction)]
  rw [value, hnominal]
  push_cast
  rw [add_div, mul_div_cancel_left₀ _ hpow]

theorem value_eq_nominal (h : n.fraction = []) : n.value = n.nominal := by
  rw [value_eq, h, List.length_nil, pow_zero, div_one]

theorem value_lt_nominal (h : n.fraction ≠ []) (hpos : 0 < n.nominal) : n.value < n.nominal := by
  have hpow : (1 : ℚ) < 10 ^ n.fraction.length :=
    one_lt_pow₀ (by norm_num) (by simpa using h)
  rw [value_eq]
  exact div_lt_self (by exact_mod_cast hpos) hpow

theorem value_le_nominal : n.value ≤ n.nominal := by
  rw [value_eq]
  exact div_le_self (Nat.cast_nonneg _) (one_le_pow₀ (by norm_num))

end Numeral

/-- The numbers that a motion or a turn is described with. -/
inductive Slot
  | seconds | metres | metresPerSecond | degrees
  deriving DecidableEq

namespace Slot

variable (slot : Slot)

def lower : Slot → ℚ
  | seconds => 1 / 10
  | metres => 1 / 20
  | metresPerSecond => 1 / 20
  | degrees => 1

def upper : Slot → ℚ
  | seconds => 10
  | metres => 5
  | metresPerSecond => 1 / 2
  | degrees => 360

def key : Slot → String
  | seconds => "duration_s"
  | metres => "distance_m"
  | metresPerSecond => "speed_mps"
  | degrees => "angle_deg"

def clamped (value : ℚ) : ℚ := clamp slot.lower slot.upper value

theorem lower_pos : 0 < slot.lower := by
  cases slot <;> norm_num [lower]

theorem lower_lt_upper : slot.lower < slot.upper := by
  cases slot <;> norm_num [lower, upper]

theorem clamped_nominal_iff (n : Numeral) : slot.clamped n.nominal = slot.clamped n.value ↔
      n.fraction = [] ∨ (n.nominal : ℚ) ≤ slot.lower ∨ slot.upper ≤ n.value := by
  have hrange := slot.lower_lt_upper
  have hle := n.value_le_nominal
  rw [clamped, clamped, clamp, clamp]
  constructor
  · intro heq
    by_contra hnot
    simp only [not_or, not_le] at hnot
    obtain ⟨hfraction, hlow, hhigh⟩ := hnot
    have hpos : 0 < n.nominal := by
      have hpos := slot.lower_pos.trans hlow
      exact_mod_cast hpos
    have hlt := n.value_lt_nominal hfraction hpos
    have hstrict : max slot.lower n.value < min slot.upper (max slot.lower n.nominal) :=
      lt_min (max_lt hrange hhigh) ((max_lt hlow hlt).trans_le (le_max_right ..))
    rw [heq] at hstrict
    exact absurd hstrict (not_lt.mpr (min_le_right ..))
  · rintro (hfraction | hlow | hhigh)
    · rw [n.value_eq_nominal hfraction]
    · rw [max_eq_left hlow, max_eq_left (hle.trans hlow)]
    · rw [min_eq_left (hhigh.trans (le_max_right ..)),
        min_eq_left ((hhigh.trans hle).trans (le_max_right ..))]

end Slot

/-- A numeral with the words after it. -/
structure Measure where
  numeral : Numeral
  after : Chars

/-- A command as it is spoken: words and the numerals between them. -/
structure Phrase where
  lead : Chars
  measures : List Measure

def spelled : List Measure → Chars
  | [] => []
  | m :: measures => m.numeral.text ++ (m.after ++ spelled measures)

def heard (words : Chars) : Chars := words.filter fun c ↦ !isPunctuation c

def Measure.item (m : Measure) : Item := { digits := m.numeral.digits, word := heard m.after }

def slotOf (before after : Chars) : Option Slot :=
  if startsWith isSecond after then some .seconds
  else if startsWith isDegree after then some .degrees
  else if startsWith isMetre after then
    if eachSecond.isSuffixOf before || metreThen startsPerSecond after then some .metresPerSecond
    else some .metres
  else none

def quantities (before : Chars) : List Measure → List (Option Slot × Numeral)
  | [] => []
  | m :: measures =>
    (slotOf before (heard m.after), m.numeral) :: quantities (heard m.after) measures

namespace Phrase

variable (phrase : Phrase)

def text : Chars := phrase.lead ++ spelled phrase.measures

def items : List Item := phrase.measures.map Measure.item

def normalized : Chars := heard phrase.lead ++ joined phrase.items

def quantities : List (Option Slot × Numeral) :=
  CommandNlu.quantities (heard phrase.lead) phrase.measures

def slots : List (Option Slot) := phrase.quantities.map Prod.fst

def words : List Chars := phrase.lead :: phrase.measures.map Measure.after

end Phrase

structure Plain (u : Unicode) (text : Chars) (phrase : Phrase) : Prop where
  spelled : u.lower (Text.stripChars text) = phrase.text
  words : ∀ words ∈ phrase.words, ∀ c ∈ heard words, numberChar u c = false
  unconnected : ∀ connector ∈ connectors, ¬ connector.toList <:+: phrase.normalized
  units : none ∉ phrase.slots
  speeds : phrase.slots.countP (· = some .metresPerSecond) ≤ 1
  measures : phrase.slots.countP (· ≠ some .metresPerSecond) ≤ 1
  action : (findAnchors phrase.normalized).length = 1

section Normalization

variable {u : Unicode} {text : Chars} {phrase : Phrase}

theorem heard_append (words words' : Chars) :
    heard (words ++ words') = heard words ++ heard words' :=
  List.filter_append ..

theorem heard_digits {d : Chars} (hd : ∀ c ∈ d, c.isDigit = true) : heard d = d :=
  List.filter_eq_self.mpr fun c hc ↦ by simp [not_punctuation_of_digit (hd c hc)]

theorem heard_numeral (n : Numeral) : heard n.text = n.digits := by
  have hwhole := heard_digits n.whole_digit
  have hfraction := heard_digits n.fraction_digit
  have hpoint : heard ('.' :: n.fraction) = heard n.fraction :=
    List.filter_cons_of_neg (by decide)
  rw [Numeral.text, Numeral.digits]
  split_ifs with h
  · rw [hwhole, h, List.append_nil]
  · rw [heard_append, hwhole, hpoint, hfraction]

theorem heard_spelled (measures : List Measure) :
    heard (spelled measures) = joined (measures.map Measure.item) := by
  induction measures with
  | nil => rfl
  | cons m measures ih =>
    rw [spelled, heard_append, heard_append, ih, heard_numeral, List.map_cons, joined]
    rfl

theorem clean_eq (h : Plain u text phrase) :
    clean u (Text.stripChars text) = phrase.normalized := by
  have hheard : (u.lower (Text.stripChars text)).filter (fun c ↦ !isPunctuation c) =
      phrase.normalized := by
    rw [h.spelled, Phrase.normalized, Phrase.items, ← heard_spelled, ← heard_append]
    rfl
  have hkept (words : List String) (hwords : ∀ word ∈ words, ¬ word.toList <:+: phrase.normalized) :
      words.foldl (fun cleaned word ↦ Search.replace word.toList [] cleaned)
        phrase.normalized = phrase.normalized := by
    induction words with
    | nil => rfl
    | cons word words ih =>
      rw [List.foldl_cons, Search.replace_of_not_infix (hwords word (.head _))]
      exact ih fun w hw ↦ hwords w (.tail _ hw)
  rw [clean, hheard]
  exact hkept connectors h.unconnected

theorem quiet_heard (h : Plain u text phrase) {words : Chars} (hwords : words ∈ phrase.words) :
    ∀ c ∈ heard words, Quiet u c := fun c hc ↦
  { number := h.words words hwords c hc
    punctuation := by simpa using (List.mem_filter.mp hc).2 }

theorem lead_quiet (h : Plain u text phrase) : ∀ c ∈ heard phrase.lead, Quiet u c :=
  quiet_heard h (.head _)

theorem slotOf_nil (before : Chars) : slotOf before [] = none := by
  simp [slotOf, startsWith]

theorem mem_slots_of_mem (before : Chars) {measures : List Measure} {m : Measure}
    (hm : m ∈ measures) :
    ∃ before', slotOf before' (heard m.after) ∈ (quantities before measures).map Prod.fst := by
  induction measures generalizing before with
  | nil => cases hm
  | cons m' measures ih =>
    rcases List.mem_cons.mp hm with rfl | hm
    · exact ⟨before, .head _⟩
    · obtain ⟨before', hslot⟩ := ih _ hm
      exact ⟨before', .tail _ hslot⟩

theorem items_sound (h : Plain u text phrase) : ∀ item ∈ phrase.items, item.Sound u := by
  intro item hitem
  obtain ⟨m, hm, rfl⟩ := List.mem_map.mp hitem
  refine ⟨m.numeral.nonempty, m.numeral.digit_digits, ?_, ?_⟩
  · intro hnil
    obtain ⟨before, hslot⟩ := mem_slots_of_mem (heard phrase.lead) hm
    have hword : heard m.after = [] := hnil
    rw [hword, slotOf_nil] at hslot
    exact h.units hslot
  · exact quiet_heard h (.tail _ (List.mem_map_of_mem hm))

end Normalization

section Spots

variable {u : Unicode} {text : Chars} {phrase : Phrase} {p q : Place}

def Place.slot (p : Place) : Option Slot := slotOf p.before p.item.word

def Phrase.spots (phrase : Phrase) : List Place :=
  CommandNlu.spots (heard phrase.lead) phrase.items

theorem slots_places (i : ℕ) (before : Chars) (measures : List Measure) :
    (places i before (measures.map Measure.item)).map Place.slot =
      (quantities before measures).map Prod.fst := by
  induction measures generalizing i before with
  | nil => rfl
  | cons m measures ih =>
    rw [List.map_cons, places, List.map_cons, quantities, List.map_cons, ih]
    rfl

theorem mem_places_of_quantity {slot : Option Slot} {n : Numeral} {before : Chars}
    {measures : List Measure} (i : ℕ) (h : (slot, n) ∈ quantities before measures) :
    ∃ p ∈ places i before (measures.map Measure.item), p.slot = slot ∧
      p.item.digits = n.digits := by
  induction measures generalizing i before with
  | nil => cases h
  | cons m measures ih =>
    rw [List.map_cons, places]
    rcases List.mem_cons.mp h with heq | h
    · obtain ⟨rfl, rfl⟩ := Prod.mk.inj heq
      exact ⟨_, .head _, rfl, rfl⟩
    · obtain ⟨p, hp, hslot⟩ := ih _ h
      exact ⟨p, .tail _ hp, hslot⟩

theorem eq_of_countP {α : Type} {f : α → Bool} {l : List α} {a b : α} (h : l.countP f ≤ 1)
    (ha : a ∈ l) (hb : b ∈ l) (hfa : f a = true) (hfb : f b = true) : a = b := by
  have hmem : a ∈ l.filter f := List.mem_filter.mpr ⟨ha, hfa⟩
  have hmem' : b ∈ l.filter f := List.mem_filter.mpr ⟨hb, hfb⟩
  rw [List.countP_eq_length_filter] at h
  generalize l.filter f = kept at h hmem hmem'
  rcases kept with - | ⟨c, - | ⟨d, kept⟩⟩
  · cases hmem
  · rw [List.mem_singleton.mp hmem, List.mem_singleton.mp hmem']
  · simp at h

theorem countP_slots (f : Option Slot → Bool) :
    phrase.slots.countP f = phrase.spots.countP fun p ↦ f p.slot := by
  have hslots : phrase.slots = phrase.spots.map Place.slot := (slots_places _ _ _).symm
  rw [hslots, List.countP_map]
  rfl

theorem Plain.only_speed (h : Plain u text phrase) (hp : p ∈ phrase.spots) (hq : q ∈ phrase.spots)
    (hps : p.slot = some .metresPerSecond) (hqs : q.slot = some .metresPerSecond) : p = q := by
  have hcount := h.speeds
  rw [countP_slots] at hcount
  exact eq_of_countP hcount hp hq (decide_eq_true hps) (decide_eq_true hqs)

theorem Plain.only_measure (h : Plain u text phrase) (hp : p ∈ phrase.spots)
    (hq : q ∈ phrase.spots) (hps : p.slot ≠ some .metresPerSecond)
    (hqs : q.slot ≠ some .metresPerSecond) : p = q := by
  have hcount := h.measures
  rw [countP_slots] at hcount
  exact eq_of_countP hcount hp hq (decide_eq_true hps) (decide_eq_true hqs)

theorem startsWith_apart {f g : Char → Bool} (hfg : ∀ c, f c = true → g c = false) {w : Chars}
    (h : startsWith f w = true) : startsWith g w = false := by
  cases w with
  | nil => rfl
  | cons c w => exact hfg c h

theorem degree_not_second : ∀ c, isDegree c = true → isSecond c = false := by
  intro c hc
  simp only [isDegree, Bool.or_eq_true, decide_eq_true_eq] at hc
  rcases hc with rfl | rfl <;> rfl

theorem metre_not_second : ∀ c, isMetre c = true → isSecond c = false := by
  intro c hc
  simp only [isMetre, Bool.or_eq_true, decide_eq_true_eq] at hc
  rcases hc with (rfl | rfl) | rfl <;> rfl

theorem metre_not_degree : ∀ c, isMetre c = true → isDegree c = false := by
  intro c hc
  simp only [isMetre, Bool.or_eq_true, decide_eq_true_eq] at hc
  rcases hc with (rfl | rfl) | rfl <;> rfl

theorem startsWith_of_metreThen {f : Chars → Bool} {w : Chars} (h : metreThen f w = true) :
    startsWith isMetre w = true := by
  obtain ⟨c, rest, rfl, hc, -⟩ := metreThen_cons h
  exact hc

theorem slot_of_second (h : startsWith isSecond p.item.word = true) : p.slot = some .seconds := by
  rw [Place.slot, slotOf, if_pos h]

theorem slot_of_degree (h : startsWith isDegree p.item.word = true) : p.slot = some .degrees := by
  have hsecond := startsWith_apart degree_not_second h
  rw [Place.slot, slotOf, if_neg (by simp [hsecond]), if_pos h]

theorem slot_of_metre (h : startsWith isMetre p.item.word = true) :
    p.slot = if eachSecond.isSuffixOf p.before || metreThen startsPerSecond p.item.word then
      some .metresPerSecond else some .metres := by
  have hsecond := startsWith_apart metre_not_second h
  have hdegree := startsWith_apart metre_not_degree h
  rw [Place.slot, slotOf, if_neg (by simp [hsecond]), if_neg (by simp [hdegree]), if_pos h]

theorem slot_of_isEach (h : p.isEach = true) : p.slot = some .metresPerSecond := by
  rw [Place.isEach, Bool.and_eq_true] at h
  rw [slot_of_metre h.2, h.1, Bool.true_or, if_pos rfl]

theorem slot_of_rate (h : metreThen startsPerSecond p.item.word = true) :
    p.slot = some .metresPerSecond := by
  rw [slot_of_metre (startsWith_of_metreThen h), h, Bool.or_true, if_pos rfl]

theorem slot_of_isMetres (h : p.isMetres = true) : p.slot = some .metres ∨ p.isEach = true := by
  have hmetre := startsWith_of_metreThen h
  have hrate : metreThen startsPerSecond p.item.word = false := by
    obtain ⟨c, rest, hcons, -, hrest⟩ := metreThen_cons h
    simp only [Bool.not_eq_true'] at hrest
    rw [hcons, metreThen, hrest, Bool.and_false]
  rw [slot_of_metre hmetre, hrate, Bool.or_false, Place.isEach, hmetre, Bool.and_true]
  by_cases hsuffix : eachSecond.isSuffixOf p.before = true
  · exact .inr hsuffix
  · exact .inl (if_neg hsuffix)

def Place.Fills (p : Place) : Slot → Prop
  | .seconds => startsWith isSecond p.item.word = true
  | .degrees => startsWith isDegree p.item.word = true
  | .metres => p.isMetres = true
  | .metresPerSecond => p.isEach = true ∨ metreThen startsPerSecond p.item.word = true

theorem fills_of_slot {slot : Slot} (h : p.slot = some slot) : p.Fills slot := by
  rw [Place.slot, slotOf] at h
  split_ifs at h with hsecond hdegree hmetre hrate
  · obtain rfl := Option.some.inj h
    exact hsecond
  · obtain rfl := Option.some.inj h
    exact hdegree
  · obtain rfl := Option.some.inj h
    rcases Bool.or_eq_true_iff.mp hrate with hsuffix | hafter
    · exact .inl (by rw [Place.isEach, hsuffix, hmetre, Bool.and_true])
    · exact .inr hafter
  · obtain rfl := Option.some.inj h
    rw [Bool.or_eq_true, not_or, Bool.not_eq_true, Bool.not_eq_true] at hrate
    cases hword : p.item.word with
    | nil =>
      rw [hword] at hmetre
      cases hmetre
    | cons c rest =>
      rw [hword] at hmetre hrate
      have hc : isMetre c = true := hmetre
      have hrest : startsPerSecond rest = false := by simpa [metreThen, hc] using hrate.2
      simp [Place.Fills, Place.isMetres, hword, metreThen, hc, hrest]

end Spots

section Segments

variable {u : Unicode} {math : MathFunctions} {nlu : Config} {text : Chars}
  {command : ParsedCommand}

def Intent.isMotion (intent : Intent) : Bool := intent = .moveForward || intent = .moveBackward

def Intent.isTurn (intent : Intent) : Bool := intent = .turnLeft || intent = .turnRight

theorem slots_of_commandFor {anchorIntent : Intent} {segment : Chars}
    (h : commandFor u math nlu anchorIntent segment = some command) :
    command.slots = (actionsAndSlotsFor u math command.intent segment).slots := by
  rw [commandFor, Option.bind_eq_some_iff] at h
  obtain ⟨scored, -, hscored⟩ := h
  dsimp only at hscored
  split_ifs at hscored
  obtain rfl := Option.some.inj hscored
  rfl

theorem segments_single (normalized : Chars) (a : Anchor) :
    segments normalized [a] = [(a.intent, normalized)] := rfl

theorem command_segment (h : command ∈ (parse u math nlu text).commands)
    (hintent : (command.intent.isMotion || command.intent.isTurn) = true) :
    ∃ segment ∈ segments (clean u (Text.stripChars text))
        (findAnchors (clean u (Text.stripChars text))),
      commandFor u math nlu segment.1 segment.2 = some command := by
  have hnot (intent : Intent) (hother : (intent.isMotion || intent.isTurn) = false) :
      command.intent ≠ intent := by
    rintro rfl
    rw [hother] at hintent
    cases hintent
  unfold parse at h
  dsimp only at h
  split_ifs at h
  · cases h
  · cases h
  · cases h
  · cases h
  rw [parseAnchors] at h
  split at h
  · cases h
  split at h
  · obtain rfl := List.mem_singleton.mp h
    exact absurd rfl (hnot .stop rfl)
  split at h
  · obtain rfl := List.mem_singleton.mp h
    exact absurd rfl (hnot .cancelNavigation rfl)
  split at h
  · obtain rfl := List.mem_singleton.mp h
    exact absurd rfl (hnot .followWaypoints rfl)
  split at h
  · obtain rfl := List.mem_singleton.mp h
    exact absurd rfl (hnot .followWaypoints rfl)
  rw [parseSegments] at h
  split_ifs at h
  · obtain ⟨segment, hsegment, hcommand⟩ := List.mem_filterMap.mp h
    exact ⟨segment, hsegment, hcommand⟩
  · cases h
  · cases h

theorem slots_of_plain {phrase : Phrase} (hplain : Plain u text phrase)
    (h : command ∈ (parse u math nlu text).commands)
    (hintent : (command.intent.isMotion || command.intent.isTurn) = true) : command.slots =
      (actionsAndSlotsFor u math command.intent phrase.normalized).slots := by
  obtain ⟨segment, hsegment, hcommand⟩ := command_segment h hintent
  obtain ⟨a, ha⟩ := List.length_eq_one_iff.mp hplain.action
  rw [clean_eq hplain, ha, segments_single] at hsegment
  obtain rfl := List.mem_singleton.mp hsegment
  exact slots_of_commandFor hcommand

end Segments

section Readings

variable {u : Unicode} {text : Chars} {phrase : Phrase} {q : Place}

theorem find_unique {α : Type} {f : α → Bool} {l : List α} {a : α} (ha : a ∈ l) (hf : f a = true)
    (honly : ∀ b ∈ l, f b = true → b = a) : l.find? f = some a := by
  cases hfind : l.find? f with
  | none => exact absurd hf (List.find?_eq_none.mp hfind a ha)
  | some b =>
    rw [honly b (List.mem_of_find?_eq_some hfind) (List.find?_some hfind)]

variable (hu : ReadsDigits u) (hplain : Plain u text phrase)

include hu hplain

theorem speed_cases : (∀ p ∈ phrase.spots, p.slot ≠ some .metresPerSecond) ∧
        (speed u phrase.normalized).span = none ∨
      ∃ r ∈ phrase.spots, r.slot = some .metresPerSecond ∧
        (r.isEach = true ∧ speed u phrase.normalized = spokenSpeed (r.value, r.eachSpan) ∨
          r.isEach = false ∧ metreThen startsPerSecond r.item.word = true ∧
            speed u phrase.normalized = spokenSpeed (r.value, r.rateSpan)) := by
  have hsound := items_sound hplain
  have hlead := lead_quiet hplain
  by_cases hspeed : ∃ r ∈ phrase.spots, r.slot = some .metresPerSecond
  · obtain ⟨r, hr, hslot⟩ := hspeed
    refine .inr ⟨r, hr, hslot, ?_⟩
    by_cases heach : r.isEach = true
    · have hfind : phrase.spots.find? Place.isEach = some r :=
        find_unique hr heach fun p hp hpeach ↦ hplain.only_speed hp hr (slot_of_isEach hpeach) hslot
      exact .inl ⟨heach, speed_of_isEach hu hsound hlead hfind⟩
    · have hrate : metreThen startsPerSecond r.item.word = true :=
        (fills_of_slot hslot).resolve_left heach
      have hnone : phrase.spots.find? Place.isEach = none := by
        apply List.find?_eq_none.mpr
        intro p hp hpeach
        rw [hplain.only_speed hp hr (slot_of_isEach hpeach) hslot] at hpeach
        exact heach hpeach
      have hfind : phrase.spots.find? (fun p ↦ metreThen startsPerSecond p.item.word) = some r :=
        find_unique hr hrate fun p hp hprate ↦ hplain.only_speed hp hr (slot_of_rate hprate) hslot
      exact .inr ⟨Bool.eq_false_of_not_eq_true heach, hrate,
        speed_of_rate hu hsound hlead hnone hfind⟩
  · have hno : ∀ p ∈ phrase.spots, p.slot ≠ some .metresPerSecond := fun p hp hslot ↦
      hspeed ⟨p, hp, hslot⟩
    have hnone : phrase.spots.find? Place.isEach = none :=
      List.find?_eq_none.mpr fun p hp heach ↦ hno p hp (slot_of_isEach heach)
    have hfind : phrase.spots.find? (fun p ↦ metreThen startsPerSecond p.item.word) = none :=
      List.find?_eq_none.mpr fun p hp hrate ↦ hno p hp (slot_of_rate hrate)
    exact .inl ⟨hno, speed_of_none hu hsound hlead hnone hfind⟩

theorem speed_spoken (hq : q ∈ phrase.spots) (hslot : q.slot = some .metresPerSecond) :
    (speed u phrase.normalized).isExplicit = true ∧
      (speed u phrase.normalized).value = clamp (1 / 20) (1 / 2) q.value := by
  rcases speed_cases hu hplain with ⟨hno, -⟩ | ⟨r, hr, hrslot, ⟨-, hspeed⟩ | ⟨-, -, hspeed⟩⟩
  · exact absurd hslot (hno q hq)
  · rw [hspeed, hplain.only_speed hq hr hslot hrslot]
    exact ⟨rfl, rfl⟩
  · rw [hspeed, hplain.only_speed hq hr hslot hrslot]
    exact ⟨rfl, rfl⟩

theorem distance_spoken (hq : q ∈ phrase.spots) (hslot : q.slot = some .metres) :
    distance u phrase.normalized (speed u phrase.normalized).span =
      some (clamp (1 / 20) 5 q.value) := by
  have hmeasure : q.slot ≠ some .metresPerSecond := by simp [hslot]
  have hmetres : q.isMetres = true := fills_of_slot hslot
  have honly {p : Place} (hp : p ∈ phrase.spots) (hpmetres : p.isMetres = true) :
      p = q ∨ p.isEach = true ∧ p.slot = some .metresPerSecond := by
    rcases slot_of_isMetres hpmetres with hpslot | heach
    · exact .inl (hplain.only_measure hp hq (by simp [hpslot]) hmeasure)
    · exact .inr ⟨heach, slot_of_isEach heach⟩
  have hread := @distance_eq_some u phrase.items (heard phrase.lead) hu (items_sound hplain)
    (lead_quiet hplain)
  rcases speed_cases hu hplain with
    ⟨hno, hspan⟩ | ⟨r, hr, hrslot, ⟨heach, hspeed⟩ | ⟨hneach, hrate, hspeed⟩⟩
  · rw [hspan]
    refine hread hq hmetres rfl fun p hp hpmetres ↦ ?_
    rcases honly hp hpmetres with rfl | ⟨-, hpslot⟩
    · exact .inl rfl
    · exact absurd hpslot (hno p hp)
  · have hne : q ≠ r := by
      rintro rfl
      exact hmeasure hrslot
    have hword := (spots_sound (items_sound hplain) hr).word_ne
    rw [hspeed]
    refine hread hq hmetres
      (not_overlaps_eachSpan hmetres heach hword (spots_precede hq hr hne)) fun p hp hpmetres ↦ ?_
    rcases honly hp hpmetres with rfl | ⟨-, hpslot⟩
    · exact .inl rfl
    · rw [hplain.only_speed hp hr hpslot hrslot]
      exact .inr (overlaps_eachSpan r)
  · have hne : q ≠ r := by
      rintro rfl
      exact hmeasure hrslot
    rw [hspeed]
    refine hread hq hmetres
      (not_overlaps_rateSpan hmetres hrate (spots_precede hq hr hne)) fun p hp hpmetres ↦ ?_
    rcases honly hp hpmetres with rfl | ⟨hpeach, hpslot⟩
    · exact .inl rfl
    · rw [hplain.only_speed hp hr hpslot hrslot, hneach] at hpeach
      cases hpeach

theorem distance_unspoken (hq : q ∈ phrase.spots) (hmeasure : q.slot ≠ some .metresPerSecond)
    (hmetres : q.slot ≠ some .metres) :
    distance u phrase.normalized (speed u phrase.normalized).span = none := by
  have honly {p : Place} (hp : p ∈ phrase.spots) (hpmetres : p.isMetres = true) :
      p.isEach = true ∧ p.slot = some .metresPerSecond := by
    rcases slot_of_isMetres hpmetres with hpslot | heach
    · rw [hplain.only_measure hp hq (by simp [hpslot]) hmeasure] at hpslot
      exact absurd hpslot hmetres
    · exact ⟨heach, slot_of_isEach heach⟩
  apply distance_eq_none hu (items_sound hplain) (lead_quiet hplain)
  intro p hp hpmetres
  obtain ⟨hpeach, hpslot⟩ := honly hp hpmetres
  rcases speed_cases hu hplain with ⟨hno, -⟩ | ⟨r, hr, hrslot, ⟨-, hspeed⟩ | ⟨hneach, -, -⟩⟩
  · exact absurd hpslot (hno p hp)
  · rw [hspeed, hplain.only_speed hp hr hpslot hrslot]
    exact overlaps_eachSpan r
  · rw [hplain.only_speed hp hr hpslot hrslot, hneach] at hpeach
    cases hpeach

theorem duration_spoken (hq : q ∈ phrase.spots) (hslot : q.slot = some .seconds) :
    duration u phrase.normalized = clamp (1 / 10) 10 q.value := by
  have hsecond : startsWith isSecond q.item.word = true := fills_of_slot hslot
  have hfind : phrase.spots.find? (fun p ↦ startsWith isSecond p.item.word) = some q := by
    refine find_unique hq hsecond fun p hp hpsecond ↦ ?_
    exact hplain.only_measure hp hq (by simp [slot_of_second hpsecond]) (by simp [hslot])
  exact duration_joined hu (items_sound hplain) (lead_quiet hplain) hfind

theorem angle_spoken (hq : q ∈ phrase.spots) (hslot : q.slot = some .degrees) :
    angle u phrase.normalized = some (clamp 1 360 q.value) := by
  have hdegree : startsWith isDegree q.item.word = true := fills_of_slot hslot
  have hfind : phrase.spots.find? (fun p ↦ startsWith isDegree p.item.word) = some q := by
    refine find_unique hq hdegree fun p hp hpdegree ↦ ?_
    exact hplain.only_measure hp hq (by simp [slot_of_degree hpdegree]) (by simp [hslot])
  have hread := angle_joined hu (items_sound hplain) (lead_quiet hplain)
  rw [← CommandNlu.Phrase.spots, hfind] at hread
  exact hread

theorem angle_unspoken (hq : q ∈ phrase.spots) (hslot : q.slot = some .seconds) :
    angle u phrase.normalized = none := by
  have hfind : phrase.spots.find? (fun p ↦ startsWith isDegree p.item.word) = none := by
    apply List.find?_eq_none.mpr
    intro p hp hdegree
    have hpslot := slot_of_degree hdegree
    rw [hplain.only_measure hp hq (by simp [hpslot]) (by simp [hslot]), hslot] at hpslot
    cases hpslot
  have hread := angle_joined hu (items_sound hplain) (lead_quiet hplain)
  rw [← CommandNlu.Phrase.spots, hfind] at hread
  exact hread

end Readings

section Results

variable {u : Unicode} {math : MathFunctions} {segment : Chars} {metres value : ℚ}

theorem motionSlots_of_none (heading : Heading)
    (h : distance u segment (speed u segment).span = none) :
    (motionActionAndSlots u segment heading).slots =
      [("direction", .str heading.text), ("speed_mps", .float (speed u segment).value),
        ("duration_s", .float (roundMillis (duration u segment)))] := by
  simp only [motionActionAndSlots, h]
  rfl

theorem lookup_metres (heading : Heading)
    (h : distance u segment (speed u segment).span = some metres) :
    (motionActionAndSlots u segment heading).slots.lookup "distance_m" = some (.float metres) := by
  simp only [motionActionAndSlots, h]
  rfl

theorem lookup_speed (heading : Heading) (h : (speed u segment).isExplicit = true) :
    (motionActionAndSlots u segment heading).slots.lookup "speed_mps" =
      some (.float (speed u segment).value) := by
  cases hmetres : distance u segment (speed u segment).span with
  | none =>
    rw [motionSlots_of_none heading hmetres]
    rfl
  | some metres =>
    simp only [motionActionAndSlots, hmetres, motionSpeed_explicit h]
    rfl

theorem lookup_angle (side : Side) (h : angle u segment = some value) :
    (turnActionAndSlots u math segment side).slots.lookup "angle_deg" = some (.float value) := by
  simp only [turnActionAndSlots, h, Option.isNone_some, Bool.false_and, Bool.false_eq_true,
    if_false, Option.getD_some]
  split_ifs <;> rfl

theorem lookup_turnDuration (math : MathFunctions) (side : Side) (h : angle u segment = none) :
    (turnActionAndSlots u math segment side).slots.lookup "duration_s" =
      some (.float (if contains segment "秒" then duration u segment else 26 / 10)) := by
  simp only [turnActionAndSlots, h, Option.isNone_none, Bool.true_and, Option.getD_none]
  split_ifs <;> rfl

theorem roundMillis_clamp (n : ℕ) : roundMillis (clamp (1 / 10) 10 n) = clamp (1 / 10) 10 n := by
  have hexact (k : ℤ) : roundHalfEven (k : ℚ) = k :=
    le_antisymm (roundHalfEven_le le_rfl) (le_roundHalfEven le_rfl)
  obtain ⟨k, hk⟩ : ∃ k : ℤ, clamp (1 / 10) 10 n * 1000 = k := by
    rw [clamp]
    rcases Nat.eq_zero_or_pos n with rfl | hpos
    · exact ⟨100, by norm_num⟩
    · have hone : (1 : ℚ) ≤ n := by exact_mod_cast hpos
      refine ⟨min 10 n * 1000, ?_⟩
      rw [max_eq_right (by linarith)]
      push_cast
      rfl
  rw [roundMillis, hk, hexact, ← hk, mul_div_cancel_right₀ _ (by norm_num)]

theorem clamp_eq_inner {lower upper x : ℚ} (hlow : lower < x) (hhigh : x < upper) (v : ℚ) :
    x = clamp lower upper v ↔ v = x := by
  rw [clamp]
  constructor
  · intro h
    have hmin : max lower v < upper := by
      by_contra hnot
      rw [min_eq_left (not_lt.mp hnot)] at h
      exact absurd h hhigh.ne
    rw [min_eq_right hmin.le] at h
    have hmax : lower < v := by
      by_contra hnot
      rw [max_eq_left (not_lt.mp hnot)] at h
      exact absurd h.symm hlow.ne
    rw [max_eq_right hmax.le] at h
    exact h.symm
  · rintro rfl
    rw [max_eq_right hlow.le, min_eq_right hhigh.le]

end Results

variable {u : Unicode} {math : MathFunctions} {nlu : Config} {text : Chars} {phrase : Phrase}
  {command : ParsedCommand} {slot : Slot} {n : Numeral}

/-- The slots of a motion and those of a turn. -/
def Slot.belongs : Slot → Intent → Bool
  | seconds, intent => intent.isMotion || intent.isTurn
  | metres, intent => intent.isMotion
  | metresPerSecond, intent => intent.isMotion
  | degrees, intent => intent.isTurn

/-- Where a numeral keeps its value. -/
def Kept (phrase : Phrase) (intent : Intent) (slot : Slot) (n : Numeral) : Prop :=
  if slot = .seconds ∧ intent.isTurn = true ∧ contains phrase.normalized "秒" = false then
    n.value = 26 / 10
  else n.fraction = [] ∨ (n.nominal : ℚ) ≤ slot.lower ∨ slot.upper ≤ n.value

theorem motion_or_turn (h : slot.belongs command.intent = true) :
    (command.intent.isMotion || command.intent.isTurn) = true := by
  cases slot with
  | seconds => exact h
  | metres => rw [Bool.or_eq_true]; exact .inl h
  | metresPerSecond => rw [Bool.or_eq_true]; exact .inl h
  | degrees => rw [Bool.or_eq_true]; exact .inr h

theorem actions_of_isMotion (u : Unicode) (math : MathFunctions) {intent : Intent}
    (h : intent.isMotion = true) (segment : Chars) :
    ∃ heading, actionsAndSlotsFor u math intent segment =
      motionActionAndSlots u segment heading := by
  rw [Intent.isMotion, Bool.or_eq_true, decide_eq_true_eq, decide_eq_true_eq] at h
  rcases h with rfl | rfl
  · exact ⟨.forward, rfl⟩
  · exact ⟨.backward, rfl⟩

theorem actions_of_isTurn (u : Unicode) (math : MathFunctions) {intent : Intent}
    (h : intent.isTurn = true) (segment : Chars) :
    ∃ side, actionsAndSlotsFor u math intent segment = turnActionAndSlots u math segment side := by
  rw [Intent.isTurn, Bool.or_eq_true, decide_eq_true_eq, decide_eq_true_eq] at h
  rcases h with rfl | rfl
  · exact ⟨.left, rfl⟩
  · exact ⟨.right, rfl⟩

theorem lookup_spoken (hu : ReadsDigits u) (hplain : Plain u text phrase) {q : Place}
    (hq : q ∈ phrase.spots) (hqslot : q.slot = some slot) {intent : Intent}
    (hslot : slot.belongs intent = true) :
    (actionsAndSlotsFor u math intent phrase.normalized).slots.lookup slot.key =
      some (.float (if slot = .seconds ∧ intent.isTurn = true ∧
        contains phrase.normalized "秒" = false then 26 / 10 else slot.clamped q.value)) := by
  cases slot with
  | metres =>
    obtain ⟨heading, hactions⟩ := actions_of_isMotion u math hslot phrase.normalized
    rw [hactions, if_neg (by simp)]
    exact lookup_metres heading (distance_spoken hu hplain hq hqslot)
  | metresPerSecond =>
    obtain ⟨heading, hactions⟩ := actions_of_isMotion u math hslot phrase.normalized
    obtain ⟨hexplicit, hvalue⟩ := speed_spoken hu hplain hq hqslot
    have hlookup := lookup_speed heading hexplicit
    rw [hvalue] at hlookup
    rw [hactions, if_neg (by simp)]
    exact hlookup
  | degrees =>
    obtain ⟨side, hactions⟩ := actions_of_isTurn u math hslot phrase.normalized
    rw [hactions, if_neg (by simp)]
    exact lookup_angle side (angle_spoken hu hplain hq hqslot)
  | seconds =>
    have hduration := duration_spoken hu hplain hq hqslot
    rcases Bool.or_eq_true_iff.mp hslot with hmotion | hturn
    · obtain ⟨heading, hactions⟩ := actions_of_isMotion u math hmotion phrase.normalized
      have hturn : intent.isTurn = false := by
        rw [Intent.isMotion, Bool.or_eq_true, decide_eq_true_eq, decide_eq_true_eq] at hmotion
        rcases hmotion with rfl | rfl <;> rfl
      have hnone := distance_unspoken hu hplain hq (by simp [hqslot]) (by simp [hqslot])
      have hround : roundMillis (clamp (1 / 10) 10 q.value) = clamp (1 / 10) 10 q.value :=
        roundMillis_clamp _
      rw [hactions, motionSlots_of_none heading hnone, hduration, hround,
        if_neg (by simp [hturn])]
      rfl
    · obtain ⟨side, hactions⟩ := actions_of_isTurn u math hturn phrase.normalized
      have hlookup := lookup_turnDuration math side (angle_unspoken hu hplain hq hqslot)
      rw [hduration] at hlookup
      rw [hactions]
      by_cases hsecond : contains phrase.normalized "秒" = true
      · rw [if_pos hsecond] at hlookup
        rw [if_neg (by simp [hsecond])]
        exact hlookup
      · rw [if_neg hsecond] at hlookup
        rw [if_pos ⟨rfl, hturn, Bool.eq_false_of_not_eq_true hsecond⟩]
        exact hlookup

theorem spoken_quantity_kept_iff (math : MathFunctions) (nlu : Config) (hu : ReadsDigits u)
    (hplain : Plain u text phrase) (hcommand : command ∈ (parse u math nlu text).commands)
    (hquantity : (some slot, n) ∈ phrase.quantities) (hslot : slot.belongs command.intent = true) :
    command.slots.lookup slot.key = some (.float (slot.clamped n.value)) ↔
      Kept phrase command.intent slot n := by
  obtain ⟨q, hq, hqslot, hdigits⟩ := mem_places_of_quantity (heard phrase.lead).length hquantity
  have hvalue : q.value = n.nominal := by rw [Place.value, hdigits, Numeral.nominal]
  rw [slots_of_plain hplain hcommand (motion_or_turn hslot),
    lookup_spoken hu hplain hq hqslot hslot, hvalue, Kept, Option.some.injEq,
    SlotValue.float.injEq]
  split_ifs with hunread
  · obtain ⟨rfl, -, -⟩ := hunread
    exact clamp_eq_inner (by norm_num [Slot.lower]) (by norm_num [Slot.upper]) n.value
  · exact slot.clamped_nominal_iff n

/-- Square roots to a tenth, and `π` as 3.14. -/
def roughMath : MathFunctions where
  sqrt x := (((List.range 100).countP fun k ↦ ((k * k : ℕ) : ℚ) ≤ x * 100) - 1 : ℕ) / 10
  radians degrees := degrees * (314 / 18000)
  degrees radians := radians * (18000 / 314)

theorem digit_zero : ∀ c ∈ ['0'], c.isDigit = true := by decide

theorem digit_three : ∀ c ∈ ['3'], c.isDigit = true := by decide

theorem digit_five : ∀ c ∈ ['5'], c.isDigit = true := by decide

theorem digit_none : ∀ c ∈ ([] : Chars), c.isDigit = true := by decide

def oneHalf : Numeral where
  whole := ['0']
  fraction := ['5']
  whole_digit := digit_zero
  fraction_digit := digit_five
  nonempty := List.cons_ne_nil _ _

def three : Numeral where
  whole := ['3']
  fraction := []
  whole_digit := digit_three
  fraction_digit := digit_none
  nonempty := List.cons_ne_nil _ _

theorem asciiTables_readsDigits : ReadsDigits asciiTables := fun _ hc ↦ if_pos hc

def slowThreeMetres : Phrase where
  lead := "以每秒 ".toList
  measures := [⟨oneHalf, " 米, 向前走 ".toList⟩, ⟨three, " 米".toList⟩]

theorem slowThreeMetres_plain : Plain asciiTables slowThreeMetres.text slowThreeMetres where
  spelled := by decide +kernel
  words := by decide +kernel
  unconnected := by decide +kernel
  units := by decide +kernel
  speeds := by decide +kernel
  measures := by decide +kernel
  action := by decide +kernel

theorem slowThreeMetres_parsed :
    ∃ command ∈ (parse asciiTables roughMath {} slowThreeMetres.text).commands,
      command.intent = .moveForward := by
  decide +kernel

theorem three_metres_kept :
    ∃ command ∈ (parse asciiTables roughMath {} slowThreeMetres.text).commands,
      command.slots.lookup Slot.metres.key = some (.float (Slot.metres.clamped three.value)) := by
  obtain ⟨command, hcommand, hintent⟩ := slowThreeMetres_parsed
  have hkept : Kept slowThreeMetres command.intent .metres three := by
    rw [Kept, if_neg (by simp)]
    exact .inl rfl
  refine ⟨command, hcommand, (spoken_quantity_kept_iff roughMath {} asciiTables_readsDigits
    slowThreeMetres_plain hcommand (by decide +kernel) ?_).mpr hkept⟩
  rw [hintent]
  rfl

def halfMetre : Phrase where
  lead := "向前走".toList
  measures := [⟨oneHalf, "米".toList⟩]

/-- Half a metre becomes five metres. -/
theorem half_metre_read_as_five :
    halfMetre.text = "向前走0.5米".toList ∧ Plain asciiTables halfMetre.text halfMetre ∧
      (some .metres, oneHalf) ∈ halfMetre.quantities ∧ Slot.metres.clamped oneHalf.value = 1 / 2 ∧
      ∃ command ∈ (parse asciiTables roughMath {} halfMetre.text).commands,
        command.intent = .moveForward ∧ command.slots.lookup Slot.metres.key = some (.float 5) ∧
          command.slots.lookup Slot.metres.key ≠
            some (.float (Slot.metres.clamped oneHalf.value)) := by
  refine ⟨by decide +kernel, ?_, by decide +kernel, by decide +kernel, by decide +kernel⟩
  exact
    { spelled := by decide +kernel
      words := by decide +kernel
      unconnected := by decide +kernel
      units := by decide +kernel
      speeds := by decide +kernel
      measures := by decide +kernel
      action := by decide +kernel }

end EmbodiedAgent.Agent.CommandNlu
