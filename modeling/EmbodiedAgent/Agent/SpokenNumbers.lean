import EmbodiedAgent.Agent.CommandNlu

namespace EmbodiedAgent.Agent.CommandNlu

open Library Search Matching

/-- What is documented of decimal digits, for those of ASCII. -/
def ReadsDigits (u : Unicode) : Prop :=
  ∀ c : Char, c.isDigit = true → u.digit c = some (c.toNat - '0'.toNat)

section Characters

variable {u : Unicode} {c : Char}

def asciiDigits : List Char := ['0', '1', '2', '3', '4', '5', '6', '7', '8', '9']

theorem mem_asciiDigits (h : c.isDigit = true) : c ∈ asciiDigits := by
  obtain ⟨hlow, hhigh⟩ : 48 ≤ c.toNat ∧ c.toNat ≤ 57 := by
    simp only [Char.isDigit, Bool.and_eq_true, decide_eq_true_eq, ge_iff_le,
      UInt32.le_iff_toNat_le] at h
    exact h
  have hdigit : ∀ n < 58, 48 ≤ n → Char.ofNat n ∈ asciiDigits := by decide
  rw [← Char.ofNat_toNat c]
  exact hdigit _ (by omega) hlow

theorem of_asciiDigits {p : Char → Prop} (hp : ∀ c ∈ asciiDigits, p c) (h : c.isDigit = true) :
    p c :=
  hp c (mem_asciiDigits h)

def numberChar (u : Unicode) (c : Char) : Bool := isDigit u c || isNumeral c || c = '半'

structure Quiet (u : Unicode) (c : Char) : Prop where
  number : numberChar u c = false
  punctuation : isPunctuation c = false

namespace Quiet

theorem isDigit (h : Quiet u c) : isDigit u c = false := by
  have hnumber := h.number
  simp only [numberChar, Bool.or_eq_false_iff] at hnumber
  exact hnumber.1.1

theorem isNumeral (h : Quiet u c) : isNumeral c = false := by
  have hnumber := h.number
  simp only [numberChar, Bool.or_eq_false_iff] at hnumber
  exact hnumber.1.2

theorem ne_half (h : Quiet u c) : c ≠ '半' := by
  have hnumber := h.number
  simp only [numberChar, Bool.or_eq_false_iff] at hnumber
  exact of_decide_eq_false hnumber.2

theorem isSpace (h : Quiet u c) : Text.isSpace c = false := by
  have hpunctuation := h.punctuation
  rw [isPunctuation, Bool.or_eq_false_iff] at hpunctuation
  exact hpunctuation.2

theorem ne_point (h : Quiet u c) : c ≠ '.' := by
  rintro rfl
  exact absurd h.punctuation (by decide)

end Quiet

theorem isDigit_of_ascii (hu : ReadsDigits u) (h : c.isDigit = true) : isDigit u c = true := by
  rw [isDigit, hu c h]
  rfl

theorem not_numeral_of_digit (h : c.isDigit = true) : isNumeral c = false :=
  of_asciiDigits (p := fun c ↦ isNumeral c = false) (by decide) h

theorem not_space_of_digit (h : c.isDigit = true) : Text.isSpace c = false :=
  of_asciiDigits (p := fun c ↦ Text.isSpace c = false) (by decide) h

theorem not_punctuation_of_digit (h : c.isDigit = true) : isPunctuation c = false :=
  of_asciiDigits (p := fun c ↦ isPunctuation c = false) (by decide) h

theorem ne_of_digit {d : Char} (hd : d.isDigit = false) (h : c.isDigit = true) : c ≠ d := by
  rintro rfl
  rw [h] at hd
  cases hd

end Characters

section Tokens

variable {u : Unicode} {c : Char} {d l : Chars}

theorem numberToken_of_quiet (h : Quiet u c) (l : Chars) : numberToken u (c :: l) = [] := by
  simp only [numberToken, either, seq, oneOrMore_of_not h.isDigit, oneOrMore_of_not h.isNumeral,
    List.flatMap_nil, one_of_not (p := fun c ↦ decide (c = '半')) (decide_eq_false h.ne_half),
    List.append_nil]

theorem optionally_fraction (h : ∀ c, l.head? = some c → c ≠ '.') :
    optionally (seq (one (· = '.')) (oneOrMore (isDigit u))) l = [l] := by
  cases l with
  | nil => rfl
  | cons c l =>
    have hpoint : one (fun c ↦ decide (c = '.')) (c :: l) = [] :=
      one_of_not (decide_eq_false (h c rfl))
    simp only [optionally, either, seq, hpoint, List.flatMap_nil, List.nil_append]

theorem flatMap_numberToken {β : Type*} {next : Chars → List β} (hu : ReadsDigits u)
    (hnext : ∀ c l, c.isDigit = true → next (c :: l) = []) (hne : d ≠ [])
    (hd : ∀ c ∈ d, c.isDigit = true) (hl : ∀ c, l.head? = some c → isDigit u c = false ∧ c ≠ '.') :
    (numberToken u (d ++ l)).flatMap next = next l := by
  cases d with
  | nil => exact absurd rfl hne
  | cons c d =>
    have hc := hd c (.head _)
    have hnumeral : oneOrMore isNumeral (c :: (d ++ l)) = [] :=
      oneOrMore_of_not (not_numeral_of_digit hc)
    have hhalf : one (fun c ↦ decide (c = '半')) (c :: (d ++ l)) = [] :=
      one_of_not (decide_eq_false (ne_of_digit (by decide) hc))
    rw [List.cons_append]
    simp only [numberToken, either, hnumeral, hhalf, List.append_nil, seq]
    rw [List.flatMap_assoc, ← List.cons_append]
    refine (flatMap_oneOrMore ?_ hne (fun b hb ↦ isDigit_of_ascii hu (hd b hb))
      fun b hb ↦ (hl b hb).1).trans ?_
    · intro b hb m
      have hpoint : b ≠ '.' := ne_of_digit (by decide) (hd b hb)
      have hsingle : optionally (seq (one (· = '.')) (oneOrMore (isDigit u))) (b :: m) = [b :: m] :=
        optionally_fraction fun e he ↦ (Option.some.inj he) ▸ hpoint
      rw [hsingle, List.flatMap_singleton, hnext b m (hd b hb)]
    · rw [optionally_fraction fun e he ↦ (hl e he).2, List.flatMap_singleton]

end Tokens

section Values

variable {u : Unicode} {d : Chars}

theorem digitsValue_eq (hu : ReadsDigits u) (hd : ∀ c ∈ d, c.isDigit = true) :
    CommandFallback.digitsValue u d = Nat.ofDigitChars 10 d 0 := by
  rw [CommandFallback.digitsValue, Nat.ofDigitChars]
  apply List.foldl_ext
  intro n c hc
  rw [hu c (hd c hc), Option.getD_some]

theorem floatOf_digits (hu : ReadsDigits u) (hne : d ≠ []) (hd : ∀ c ∈ d, c.isDigit = true) :
    floatOf u d = some (Nat.ofDigitChars 10 d 0 : ℚ) := by
  have hread : ∀ c ∈ d, CommandFallback.isDigit u c = true := fun c hc ↦
    isDigit_of_ascii hu (hd c hc)
  have hdecimal : CommandFallback.decimal u d = some ((Nat.ofDigitChars 10 d 0 : ℚ), []) := by
    simp only [CommandFallback.decimal, List.takeWhile_eq_self_iff.mpr hread,
      List.dropWhile_eq_nil_iff.mpr hread, if_neg hne, digitsValue_eq hu hd]
  rw [floatOf, hdecimal]
  rfl

theorem stripChars_digits (hd : ∀ c ∈ d, c.isDigit = true) : Text.stripChars d = d := by
  by_cases hne : d = []
  · rw [hne]
    rfl
  · have hword : Text.Word d :=
      { nonempty := hne
        front := fun c hc ↦ not_space_of_digit (hd c (List.mem_of_mem_head? hc))
        back := fun c hc ↦ not_space_of_digit (hd c (List.mem_of_mem_getLast? hc)) }
    exact hword.stripChars

theorem parseNumber_digits (hu : ReadsDigits u) (hne : d ≠ []) (hd : ∀ c ∈ d, c.isDigit = true) :
    parseNumber u d = some (Nat.ofDigitChars 10 d 0 : ℚ) := by
  have hpoint : '点' ∉ d := fun h ↦ absurd (hd '点' h) (by decide)
  have hhalf : d ≠ ['半'] := by
    rintro rfl
    exact absurd (hd '半' (.head _)) (by decide)
  simp only [parseNumber, stripChars_digits hd, if_neg hpoint, parseWhole, if_neg hhalf,
    floatOf_digits hu hne hd]

end Values

section Quantities

variable {u : Unicode} {after : Pattern Char} {c : Char} {d l w : Chars} {i : ℕ}

theorem quantity_of_quiet (h : Quiet u c) (after : Pattern Char) (l : Chars) :
    quantity u (fun l ↦ [l]) after (c :: l) = none := by
  simp only [quantity, capture, List.flatMap_singleton, numberToken_of_quiet h, List.flatMap_nil,
    List.head?_nil]

theorem quantity_digits (hu : ReadsDigits u)
    (hafter : ∀ c l, c.isDigit = true → after (c :: l) = []) (hne : d ≠ [])
    (hd : ∀ c ∈ d, c.isDigit = true) (hl : ∀ c, l.head? = some c → isDigit u c = false ∧ c ≠ '.') :
    quantity u (fun l ↦ [l]) after (d ++ l) = (after l).head?.map fun rest ↦ ⟨d, rest⟩ := by
  have htake : (d ++ l).take ((d ++ l).length - l.length) = d := by
    rw [List.length_append, Nat.add_sub_cancel, List.take_left]
  rw [quantity, capture, List.flatMap_singleton, flatMap_numberToken hu ?_ hne hd hl, htake,
    List.head?_map]
  intro c m hc
  rw [hafter c m hc, List.map_nil]

theorem findFrom_quiet (h : ∀ c ∈ w, Quiet u c) :
    findFrom (quantity u (fun l ↦ [l]) after) 0 i (w ++ l) =
      findFrom (quantity u (fun l ↦ [l]) after) 0 (i + w.length) l := by
  apply findFrom_append
  intro t hne ht
  cases t with
  | nil => exact absurd rfl hne
  | cons c t => exact quantity_of_quiet (h c (ht.subset (.head _))) after (t ++ l)

structure Reads (u : Unicode) (after : Pattern Char) (test : Chars → Bool) (k : ℕ) : Prop where
  digit : ∀ c l, c.isDigit = true → after (c :: l) = []
  word : ∀ w l, w ≠ [] → (∀ c ∈ w, Quiet u c) → (∀ c, l.head? = some c → c.isDigit = true) →
    after (w ++ l) = if test w then [w.drop k ++ l] else []
  length : ∀ w, test w = true → k ≤ w.length

structure Item where
  digits : Chars
  word : Chars

structure Item.Sound (u : Unicode) (item : Item) : Prop where
  digits_ne : item.digits ≠ []
  digit : ∀ c ∈ item.digits, c.isDigit = true
  word_ne : item.word ≠ []
  quiet : ∀ c ∈ item.word, Quiet u c

theorem Item.Sound.head {item : Item} (h : item.Sound u) (l : Chars) {c : Char}
    (hc : (item.word ++ l).head? = some c) : Quiet u c := by
  rw [List.head?_append_of_ne_nil _ h.word_ne] at hc
  exact h.quiet c (List.mem_of_mem_head? hc)

theorem Item.Sound.quantity_eq {item : Item} {test : Chars → Bool} {k : ℕ} (hu : ReadsDigits u)
    (h : item.Sound u) (hafter : Reads u after test k) {d : Chars} (hne : d ≠ [])
    (hd : d ⊆ item.digits) (hl : ∀ c, l.head? = some c → c.isDigit = true) :
    quantity u (fun l ↦ [l]) after (d ++ (item.word ++ l)) =
      if test item.word then some ⟨d, item.word.drop k ++ l⟩ else none := by
  rw [quantity_digits hu hafter.digit hne (fun c hc ↦ h.digit c (hd hc)) fun c hc ↦
    ⟨(h.head l hc).isDigit, (h.head l hc).ne_point⟩, hafter.word _ l h.word_ne h.quiet hl]
  split_ifs <;> rfl

theorem findFrom_item {item : Item} {test : Chars → Bool} {k : ℕ} (hu : ReadsDigits u)
    (h : item.Sound u) (hafter : Reads u after test k)
    (hl : ∀ c, l.head? = some c → c.isDigit = true) :
    findFrom (quantity u (fun l ↦ [l]) after) 0 i (item.digits ++ (item.word ++ l)) =
      (if test item.word then [⟨item.digits, i, i + (item.digits.length + k)⟩] else []) ++
        findFrom (quantity u (fun l ↦ [l]) after) 0
          (i + (item.digits.length + item.word.length)) l := by
  split_ifs with htest
  · have hk := hafter.length _ htest
    have hhit := h.quantity_eq hu hafter h.digits_ne (List.Subset.refl _) hl
    have hsplit : item.digits ++ (item.word ++ l) =
        (item.digits ++ item.word.take k) ++ (item.word.drop k ++ l) := by
      rw [List.append_assoc, ← List.append_assoc (item.word.take k), List.take_append_drop]
    have hne : item.digits ++ item.word.take k ≠ [] := by simp [h.digits_ne]
    have hlength : (item.digits ++ item.word.take k).length = item.digits.length + k := by
      rw [List.length_append, List.length_take, min_eq_left hk]
    rw [if_pos htest, hsplit] at hhit
    rw [hsplit, findFrom_hit hne hhit, hlength,
      findFrom_quiet fun c hc ↦ h.quiet c (List.mem_of_mem_drop hc), List.length_drop]
    congr 2
    omega
  · have hmiss : ∀ t, t ≠ [] → t <:+ item.digits →
        quantity u (fun l ↦ [l]) after (t ++ (item.word ++ l)) = none := by
      intro t hne ht
      rw [h.quantity_eq hu hafter hne ht.subset hl, if_neg htest]
    rw [findFrom_append hmiss, findFrom_quiet h.quiet, List.nil_append, Nat.add_assoc]

end Quantities

section Items

variable {u : Unicode} {items : List Item} {item : Item}

def joined : List Item → Chars
  | [] => []
  | item :: items => item.digits ++ (item.word ++ joined items)

structure Place where
  start : ℕ
  before : Chars
  item : Item

def places : ℕ → Chars → List Item → List Place
  | _, _, [] => []
  | i, before, item :: items =>
    ⟨i, before, item⟩ :: places (i + (item.digits.length + item.word.length)) item.word items

theorem head_joined (h : ∀ item ∈ items, item.Sound u) {c : Char}
    (hc : (joined items).head? = some c) : c.isDigit = true := by
  cases items with
  | nil => cases hc
  | cons item items =>
    have hitem := h item (.head _)
    rw [joined, List.head?_append_of_ne_nil _ hitem.digits_ne] at hc
    exact hitem.digit c (List.mem_of_mem_head? hc)

theorem places_items (i : ℕ) (before : Chars) (items : List Item) :
    (places i before items).map Place.item = items := by
  induction items generalizing i before with
  | nil => rfl
  | cons item items ih => rw [places, List.map_cons, ih]

theorem findFrom_joined {after : Pattern Char} {test : Chars → Bool} {k : ℕ}
    (hu : ReadsDigits u) (h : ∀ item ∈ items, item.Sound u) (hafter : Reads u after test k)
    (i : ℕ) (before : Chars) : findFrom (quantity u (fun l ↦ [l]) after) 0 i (joined items) =
      ((places i before items).filter fun p ↦ test p.item.word).map fun p ↦
        ⟨p.item.digits, p.start, p.start + (p.item.digits.length + k)⟩ := by
  induction items generalizing i before with
  | nil => rfl
  | cons item items ih =>
    have hitems : ∀ item ∈ items, item.Sound u := fun item hitem ↦ h item (.tail _ hitem)
    rw [joined, findFrom_item hu (h item (.head _)) hafter fun c ↦ head_joined hitems,
      ih hitems _ item.word, places, List.filter_cons]
    split_ifs <;> rfl

theorem findIter_joined {after : Pattern Char} {test : Chars → Bool} {k : ℕ}
    (hu : ReadsDigits u) (h : ∀ item ∈ items, item.Sound u) (hafter : Reads u after test k)
    {lead : Chars} (hlead : ∀ c ∈ lead, Quiet u c) :
    findIter (quantity u (fun l ↦ [l]) after) (lead ++ joined items) =
      ((places lead.length lead items).filter fun p ↦ test p.item.word).map fun p ↦
        ⟨p.item.digits, p.start, p.start + (p.item.digits.length + k)⟩ := by
  rw [findIter, findFrom_quiet hlead, Nat.zero_add, findFrom_joined hu h hafter _ lead]

end Items

section Units

variable {u : Unicode} {l w : Chars}

variable {p : Char → Bool}

theorem seq_spaces {pattern : Pattern Char} (h : ∀ c, l.head? = some c → Text.isSpace c = false) :
    seq spaces pattern l = pattern l := by
  cases l with
  | nil => simp [seq, spaces, many]
  | cons c l => rw [seq, spaces, many_of_not (h c rfl), List.flatMap_singleton]

theorem not_space_append (hw : ∀ c ∈ w, Quiet u c)
    (hl : ∀ c, l.head? = some c → c.isDigit = true) (c : Char) (hc : (w ++ l).head? = some c) :
    Text.isSpace c = false := by
  cases w with
  | nil => exact not_space_of_digit (hl c hc)
  | cons d w =>
    obtain rfl := Option.some.inj hc
    exact (hw d (.head _)).isSpace

theorem unit_of_digit (hp : ∀ c ∈ asciiDigits, p c = false) {c : Char}
    (hc : c.isDigit = true) (l : Chars) : unit p (c :: l) = [] := by
  have hspace : ∀ d, (c :: l).head? = some d → Text.isSpace d = false := by
    intro d hd
    obtain rfl := Option.some.inj hd
    exact not_space_of_digit hc
  rw [unit, seq_spaces hspace, one_of_not (of_asciiDigits hp hc)]

def startsWith (p : Char → Bool) (w : Chars) : Bool := w.head?.any p

theorem unit_append (hne : w ≠ []) (hw : ∀ c ∈ w, Quiet u c)
    (hl : ∀ c, l.head? = some c → c.isDigit = true) :
    unit p (w ++ l) = if startsWith p w then [w.drop 1 ++ l] else [] := by
  rw [unit, seq_spaces (not_space_append hw hl)]
  cases w with
  | nil => exact absurd rfl hne
  | cons c w => rfl

theorem reads_unit (hp : ∀ c ∈ asciiDigits, p c = false) : Reads u (unit p) (startsWith p) 1 where
  digit c l hc := unit_of_digit hp hc l
  word w l := unit_append
  length w hw := by
    cases w with
    | nil => cases hw
    | cons c w => exact Nat.le_add_left ..

/-- `每秒|/s` at the front of the words. -/
def startsPerSecond : Chars → Bool
  | c :: d :: _ => c = '每' && d = '秒' || c = '/' && isLetterS d
  | _ => false

@[simp] theorem perSecond_single (c : Char) : perSecond [c] = [] := by
  by_cases hc : c = '/'
  · subst hc
    rfl
  · simp [perSecond, either, seq, word, List.prefix_cons_iff]

theorem perSecond_pair (c d : Char) (l : Chars) :
    perSecond (c :: d :: l) = if startsPerSecond (c :: d :: l) then [l] else [] := by
  by_cases heach : c = '每'
  · subst heach
    simp [perSecond, either, seq, word, startsPerSecond, List.cons_prefix_cons, eq_comm]
  · by_cases hslash : c = '/'
    · subst hslash
      simp [perSecond, either, seq, word, one, startsPerSecond, List.cons_prefix_cons]
    · simp [perSecond, either, seq, word, startsPerSecond, List.cons_prefix_cons, heach, hslash,
        eq_comm]

theorem not_perSecond_of_digit {c : Char} (hc : c.isDigit = true) (l : Chars) :
    perSecond (c :: l) = [] := by
  cases l with
  | nil => exact perSecond_single c
  | cons d l =>
    have heach : c ≠ '每' := ne_of_digit (by decide) hc
    have hslash : c ≠ '/' := ne_of_digit (by decide) hc
    simp [perSecond_pair, startsPerSecond, heach, hslash]

theorem perSecond_append (hl : ∀ c, l.head? = some c → c.isDigit = true) :
    perSecond (w ++ l) = if startsPerSecond w then [w.drop 2 ++ l] else [] := by
  rcases w with - | ⟨c, - | ⟨d, w⟩⟩
  · cases l with
    | nil => rfl
    | cons d l => exact not_perSecond_of_digit (hl d rfl) l
  · cases l with
    | nil => exact perSecond_single c
    | cons d l =>
      have hsecond : d ≠ '秒' := ne_of_digit (by decide) (hl d rfl)
      have hletter : isLetterS d = false :=
        of_asciiDigits (p := fun d ↦ isLetterS d = false) (by decide) (hl d rfl)
      rw [List.singleton_append, perSecond_pair]
      simp [startsPerSecond, hsecond, hletter]
  · exact perSecond_pair c d (w ++ l)

def metreThen (p : Chars → Bool) : Chars → Bool
  | c :: w => isMetre c && p w
  | [] => false

theorem metre_not_digit : ∀ c ∈ asciiDigits, isMetre c = false := by decide

theorem reads_metre {next : Pattern Char} {p : Chars → Bool} {k : ℕ}
    (hnext : ∀ w l, (∀ c ∈ w, Quiet u c) → (∀ c, l.head? = some c → c.isDigit = true) →
      next (w ++ l) = if p w then [w.drop k ++ l] else [])
    (hlength : ∀ w, p w = true → k ≤ w.length) :
    Reads u (seq (unit isMetre) next) (metreThen p) (k + 1) where
  digit c l hc := by rw [seq, unit_of_digit metre_not_digit hc, List.flatMap_nil]
  word w l hne hw hl := by
    cases w with
    | nil => exact absurd rfl hne
    | cons c w =>
      rw [seq, unit_append hne hw hl]
      by_cases hc : isMetre c = true
      · have hrest := hnext w l (fun d hd ↦ hw d (.tail _ hd)) hl
        simpa [startsWith, metreThen, hc] using hrest
      · simp [startsWith, metreThen, hc]
  length w hw := by
    cases w with
    | nil => cases hw
    | cons c w =>
      simp only [metreThen, Bool.and_eq_true] at hw
      exact Nat.succ_le_succ (hlength w hw.2)

theorem spaced_perSecond (hw : ∀ c ∈ w, Quiet u c) (hl : ∀ c, l.head? = some c → c.isDigit = true) :
    seq spaces perSecond (w ++ l) = if startsPerSecond w then [w.drop 2 ++ l] else [] := by
  rw [seq_spaces (not_space_append hw hl), perSecond_append hl]

theorem reads_rate :
    Reads u (seq (unit isMetre) (seq spaces perSecond)) (metreThen startsPerSecond) 3 :=
  reads_metre (fun _ _ ↦ spaced_perSecond) fun w hw ↦ by
    rcases w with - | ⟨c, - | ⟨d, w⟩⟩
    · cases hw
    · cases hw
    · simp

theorem reads_distance : Reads u (seq (unit isMetre) (notBefore (seq spaces perSecond)))
      (metreThen fun w ↦ !startsPerSecond w) 1 := by
  refine reads_metre (k := 0) ?_ fun _ _ ↦ Nat.zero_le _
  intro w l hw hl
  rw [notBefore, spaced_perSecond hw hl]
  by_cases hrate : startsPerSecond w = true
  · simp [hrate]
  · simp [hrate]

end Units

section EachSecond

variable {u : Unicode} {items : List Item} {l w : Chars}

def eachSecond : Chars := ['每', '秒']

theorem eachSecond_of_not_prefix (h : ¬ eachSecond <+: l) : eachSecondPattern u l = none := by
  have hword : word ['每', '秒'] l = [] := if_neg h
  simp only [eachSecondPattern, quantity, capture, seq, hword, List.flatMap_nil, List.head?_nil]

theorem eachSecond_append (h : ∀ c, l.head? = some c → Text.isSpace c = false) :
    eachSecondPattern u (eachSecond ++ l) = quantity u (fun l ↦ [l]) (unit isMetre) l := by
  have hword : seq (word ['每', '秒']) spaces (eachSecond ++ l) = [l] := by
    have hspaces : spaces l = [l] := by
      cases l with
      | nil => rfl
      | cons c l => exact many_of_not (h c rfl)
    have hprefix : ['每', '秒'] <+: eachSecond ++ l := List.prefix_append eachSecond l
    rw [seq, word, if_pos hprefix, List.flatMap_singleton]
    exact hspaces
  simp only [eachSecondPattern, quantity, capture, hword]

theorem eachSecond_in_words (hw : ∀ c ∈ w, Quiet u c)
    (hl : ∀ c, l.head? = some c → c.isDigit = true) (hne : w ≠ []) (hnot : w ≠ eachSecond) :
    eachSecondPattern u (w ++ l) = none := by
  by_cases h : eachSecond <+: w ++ l
  · rcases w with - | ⟨c, - | ⟨d, - | ⟨e, w⟩⟩⟩
    · exact absurd rfl hne
    · obtain ⟨-, hsecond⟩ := List.cons_prefix_cons.mp h
      cases l with
      | nil => simp at hsecond
      | cons d l =>
        obtain ⟨rfl, -⟩ := List.cons_prefix_cons.mp hsecond
        exact absurd (hl '秒' rfl) (by decide)
    · obtain ⟨rfl, hsecond⟩ := List.cons_prefix_cons.mp h
      obtain ⟨rfl, -⟩ := List.cons_prefix_cons.mp hsecond
      exact absurd rfl hnot
    · obtain ⟨rfl, hsecond⟩ := List.cons_prefix_cons.mp h
      obtain ⟨rfl, -⟩ := List.cons_prefix_cons.mp hsecond
      have he := hw e (by simp)
      have hspace : ∀ c, (e :: (w ++ l)).head? = some c → Text.isSpace c = false := by
        intro c hc
        obtain rfl := Option.some.inj hc
        exact he.isSpace
      exact (eachSecond_append hspace).trans (quantity_of_quiet he _ _)
  · exact eachSecond_of_not_prefix h

def Place.isEach (p : Place) : Bool :=
  eachSecond.isSuffixOf p.before && startsWith isMetre p.item.word

theorem findFrom_eachSecond (hu : ReadsDigits u) (h : ∀ item ∈ items, item.Sound u)
    {before : Chars} (hbefore : ∀ c ∈ before, Quiet u c) (i : ℕ) :
    (findFrom (eachSecondPattern u) 0 i (before ++ joined items)).head? =
      ((places (i + before.length) before items).find? Place.isEach).map fun p ↦
        ⟨p.item.digits, p.start - 2, p.start + (p.item.digits.length + 1)⟩ := by
  induction items generalizing before i with
  | nil =>
    have hmiss : ∀ t, t ≠ [] → t <:+ before → eachSecondPattern u (t ++ []) = none := by
      intro t hne ht
      by_cases heach : t = eachSecond
      · subst heach
        rw [eachSecond_append (by simp)]
        rfl
      · exact eachSecond_in_words (fun c hc ↦ hbefore c (ht.subset hc)) (by simp) hne heach
    rw [joined, findFrom_append hmiss, findFrom_nil]
    rfl
  | cons item items ih =>
    have hitem := h item (.head _)
    have hitems : ∀ item ∈ items, item.Sound u := fun item hitem ↦ h item (.tail _ hitem)
    have hdigits : ∀ c, (joined (item :: items)).head? = some c → c.isDigit = true :=
      fun c ↦ head_joined h
    have hnumber := eachSecond_append (u := u) fun c hc ↦ not_space_of_digit (hdigits c hc)
    have hquantity := hitem.quantity_eq hu (reads_unit metre_not_digit) hitem.digits_ne
      (List.Subset.refl _) fun c ↦ head_joined hitems
    rw [← joined] at hquantity
    rw [hquantity] at hnumber
    rw [places, List.find?_cons]
    by_cases hhit : Place.isEach ⟨i + before.length, before, item⟩ = true
    · simp only [hhit, Option.map_some]
      simp only [Place.isEach, Bool.and_eq_true, List.isSuffixOf_iff_suffix] at hhit
      obtain ⟨⟨front, rfl⟩, hmetre⟩ := hhit
      have hmiss : ∀ t, t ≠ [] → t <:+ front →
          eachSecondPattern u (t ++ (eachSecond ++ joined (item :: items))) = none := by
        intro t hne ht
        rw [← List.append_assoc]
        refine eachSecond_in_words (fun c hc ↦ hbefore c ?_) hdigits (by simp [hne]) (by simp [hne])
        rcases List.mem_append.mp hc with hc | hc
        · exact List.mem_append_left _ (ht.subset hc)
        · exact List.mem_append_right _ hc
      have hword : item.word.take 1 ++ (item.word.drop 1 ++ joined items) =
          item.word ++ joined items := by
        rw [← List.append_assoc, List.take_append_drop]
      have hsplit : eachSecond ++ joined (item :: items) =
          (eachSecond ++ item.digits ++ item.word.take 1) ++
            (item.word.drop 1 ++ joined items) := by
        rw [joined, List.append_assoc, List.append_assoc, hword]
      have hlength : (item.word.take 1).length = 1 := by
        rw [List.length_take, min_eq_left (List.length_pos_of_ne_nil hitem.word_ne)]
      rw [if_pos hmetre, hsplit] at hnumber
      rw [List.append_assoc, findFrom_append hmiss, hsplit,
        findFrom_hit (by simp [eachSecond]) hnumber]
      simp only [List.head?_cons, List.length_append, hlength, eachSecond, List.length_cons,
        List.length_nil]
      congr 2
      omega
    · have hmiss : ∀ t, t ≠ [] → t <:+ before →
          eachSecondPattern u (t ++ joined (item :: items)) = none := by
        intro t hne ht
        by_cases heach : t = eachSecond
        · subst heach
          have hmetre : startsWith isMetre item.word ≠ true := by
            intro hmetre
            exact hhit (by simp [Place.isEach, hmetre, List.isSuffixOf_iff_suffix, ht])
          rw [hnumber, if_neg hmetre]
        · exact eachSecond_in_words (fun c hc ↦ hbefore c (ht.subset hc)) hdigits hne heach
      have hskip : ∀ t, t ≠ [] → t <:+ item.digits →
          eachSecondPattern u (t ++ (item.word ++ joined items)) = none := by
        intro t hne ht
        apply eachSecond_of_not_prefix
        cases t with
        | nil => exact absurd rfl hne
        | cons c t =>
          intro hprefix
          obtain ⟨rfl, -⟩ := List.cons_prefix_cons.mp hprefix
          exact absurd (hitem.digit '每' (ht.subset (.head _))) (by decide)
      simp only [hhit]
      rw [findFrom_append hmiss, joined, findFrom_append hskip, ih hitems hitem.quiet,
        Nat.add_assoc]

end EachSecond

section Readings

variable {u : Unicode} {items : List Item} {lead : Chars}

def spots (lead : Chars) (items : List Item) : List Place := places lead.length lead items

def Place.value (p : Place) : ℚ := (Nat.ofDigitChars 10 p.item.digits 0 : ℕ)

theorem spots_sound (h : ∀ item ∈ items, item.Sound u) {p : Place} (hp : p ∈ spots lead items) :
    p.item.Sound u := by
  apply h
  rw [← places_items lead.length lead items]
  exact List.mem_map_of_mem hp

theorem parseNumber_spot (hu : ReadsDigits u) {p : Place} (hp : p.item.Sound u) :
    parseNumber u p.item.digits = some p.value :=
  parseNumber_digits hu hp.digits_ne hp.digit

variable (hu : ReadsDigits u) (h : ∀ item ∈ items, item.Sound u) (hlead : ∀ c ∈ lead, Quiet u c)

include hu h hlead

theorem quantityMatch_joined {after : Pattern Char} {test : Chars → Bool} {k : ℕ}
    (hafter : Reads u after test k) :
    quantityMatch u (quantity u (fun l ↦ [l]) after) (lead ++ joined items) =
      ((spots lead items).find? fun p ↦ test p.item.word).map fun p ↦
        (p.value, (p.start, p.start + (p.item.digits.length + k))) := by
  rw [quantityMatch, search, findIter_joined hu h hafter hlead, List.head?_map,
    List.head?_filter, ← spots]
  cases hfind : (spots lead items).find? fun p ↦ test p.item.word with
  | none => rfl
  | some p =>
    have hsound := spots_sound h (List.mem_of_find?_eq_some hfind)
    simp only [Option.map_some, Option.bind_some, parseNumber_spot hu hsound]

theorem quantityMatch_eachSecond : quantityMatch u (eachSecondPattern u) (lead ++ joined items) =
      ((spots lead items).find? Place.isEach).map fun p ↦
        (p.value, (p.start - 2, p.start + (p.item.digits.length + 1))) := by
  rw [quantityMatch, search, findIter, findFrom_eachSecond hu h hlead, Nat.zero_add, ← spots]
  cases hfind : (spots lead items).find? Place.isEach with
  | none => rfl
  | some p =>
    have hsound := spots_sound h (List.mem_of_find?_eq_some hfind)
    simp only [Option.map_some, Option.bind_some, parseNumber_spot hu hsound]

omit hu in
theorem not_half_joined : contains (lead ++ joined items) "半秒" = false := by
  have hhalf : '半' ∉ joined items := by
    intro hmem
    induction items with
    | nil => cases hmem
    | cons item items ih =>
      have hitem := h item (.head _)
      rcases List.mem_append.mp hmem with hmem | hmem
      · exact absurd (hitem.digit _ hmem) (by decide)
      · rcases List.mem_append.mp hmem with hmem | hmem
        · exact (hitem.quiet _ hmem).ne_half rfl
        · exact ih (fun item hitem ↦ h item (.tail _ hitem)) hmem
  rw [Bool.eq_false_iff]
  intro hcontains
  have hmem := (contains_iff.mp hcontains).subset (show '半' ∈ "半秒".toList by decide)
  rcases List.mem_append.mp hmem with hmem | hmem
  · exact (hlead _ hmem).ne_half rfl
  · exact hhalf hmem

theorem duration_joined {p : Place}
    (hp : (spots lead items).find? (fun p ↦ startsWith isSecond p.item.word) = some p) :
    duration u (lead ++ joined items) = clamp (1 / 10) 10 p.value := by
  have hread : Reads u (unit isSecond) (startsWith isSecond) 1 := reads_unit (by decide)
  have hmatch := quantityMatch_joined hu h hlead hread
  rw [hp, Option.map_some] at hmatch
  simp only [duration, not_half_joined h hlead, durationPattern, hmatch, Bool.false_eq_true,
    if_false]

theorem angle_joined : angle u (lead ++ joined items) =
      ((spots lead items).find? fun p ↦ startsWith isDegree p.item.word).map fun p ↦
        clamp 1 360 p.value := by
  have hread : Reads u (unit isDegree) (startsWith isDegree) 1 := reads_unit (by decide)
  rw [angle, anglePattern, quantityMatch_joined hu h hlead hread, Option.map_map]
  rfl

theorem speed_of_isEach {p : Place} (hp : (spots lead items).find? Place.isEach = some p) :
    speed u (lead ++ joined items) =
      spokenSpeed (p.value, (p.start - 2, p.start + (p.item.digits.length + 1))) := by
  rw [speed, quantityMatch_eachSecond hu h hlead, hp]
  rfl

theorem speed_of_rate {p : Place} (hnone : (spots lead items).find? Place.isEach = none)
    (hp : (spots lead items).find? (fun p ↦ metreThen startsPerSecond p.item.word) = some p) :
    speed u (lead ++ joined items) =
      spokenSpeed (p.value, (p.start, p.start + (p.item.digits.length + 3))) := by
  have hrate := quantityMatch_joined hu h hlead reads_rate
  rw [hp] at hrate
  rw [speed, quantityMatch_eachSecond hu h hlead, hnone]
  simp only [Option.map_none, ratePattern, hrate, Option.map_some]

theorem speed_of_none (hnone : (spots lead items).find? Place.isEach = none)
    (hp : (spots lead items).find? (fun p ↦ metreThen startsPerSecond p.item.word) = none) :
    (speed u (lead ++ joined items)).span = none := by
  have hrate := quantityMatch_joined hu h hlead reads_rate
  rw [hp] at hrate
  rw [speed, quantityMatch_eachSecond hu h hlead, hnone]
  simp only [Option.map_none, ratePattern, hrate]
  split_ifs <;> rfl

omit hu h hlead in
theorem findSome_unique {α β : Type} {f : α → Option β} {l : List α} {b : β}
    (hsome : ∃ a ∈ l, f a = some b) (honly : ∀ a ∈ l, f a = none ∨ f a = some b) :
    l.findSome? f = some b := by
  cases hfind : l.findSome? f with
  | none =>
    obtain ⟨a, ha, hb⟩ := hsome
    rw [List.findSome?_eq_none_iff.mp hfind a ha] at hb
    cases hb
  | some c =>
    obtain ⟨a, ha, hc⟩ := List.exists_of_findSome?_eq_some hfind
    rcases honly a ha with hnone | hb
    · rw [hc] at hnone
      cases hnone
    · exact hc.symm.trans hb

omit hu h hlead in
def Place.metres (p : Place) : Found Char :=
  ⟨p.item.digits, p.start, p.start + (p.item.digits.length + 1)⟩

omit hu h hlead in
def Place.isMetres (p : Place) : Bool := metreThen (fun w ↦ !startsPerSecond w) p.item.word

theorem mem_distances (found : Found Char) :
    found ∈ findIter (distancePattern u) (lead ++ joined items) ↔
      ∃ p ∈ spots lead items, p.isMetres = true ∧ p.metres = found := by
  rw [distancePattern, findIter_joined hu h reads_distance hlead, ← spots, List.mem_map]
  simp only [List.mem_filter, and_assoc]
  rfl

theorem distance_eq_some {span : Option (ℕ × ℕ)} {q : Place} (hq : q ∈ spots lead items)
    (hmetres : q.isMetres = true) (hfree : overlaps span q.metres = false)
    (honly : ∀ p ∈ spots lead items, p.isMetres = true → p = q ∨ overlaps span p.metres = true) :
    distance u (lead ++ joined items) span = some (clamp (1 / 20) 5 q.value) := by
  have hread : (parseNumber u q.metres.value).map (clamp (1 / 20) 5) =
      some (clamp (1 / 20) 5 q.value) := by
    rw [Place.metres, parseNumber_spot hu (spots_sound h hq), Option.map_some]
  apply findSome_unique
  · refine ⟨q.metres, (mem_distances hu h hlead _).mpr ⟨q, hq, hmetres, rfl⟩, ?_⟩
    rw [if_neg (by simp [hfree]), hread]
  · intro found hfound
    obtain ⟨p, hp, hpmetres, rfl⟩ := (mem_distances hu h hlead _).mp hfound
    rcases honly p hp hpmetres with rfl | hoverlap
    · right
      rw [if_neg (by simp [hfree]), hread]
    · left
      rw [if_pos hoverlap]

theorem distance_eq_none {span : Option (ℕ × ℕ)}
    (honly : ∀ p ∈ spots lead items, p.isMetres = true → overlaps span p.metres = true) :
    distance u (lead ++ joined items) span = none := by
  apply List.findSome?_eq_none_iff.mpr
  intro found hfound
  obtain ⟨p, hp, hmetres, rfl⟩ := (mem_distances hu h hlead _).mp hfound
  rw [if_pos (honly p hp hmetres)]

end Readings

variable {u : Unicode} {items : List Item} {lead : Chars}

variable (p : Place)

def Place.stop : ℕ := p.start + (p.item.digits.length + p.item.word.length)

def Place.Precedes (p q : Place) : Prop :=
  q.before = p.item.word ∧ q.start = p.stop ∨ p.stop + q.before.length ≤ q.start

theorem mem_places {i : ℕ} {before : Chars} {p : Place} (hp : p ∈ places i before items) :
    p.before = before ∧ p.start = i ∨ i + p.before.length ≤ p.start := by
  induction items generalizing i before with
  | nil => cases hp
  | cons item items ih =>
    rcases List.mem_cons.mp hp with rfl | hp
    · exact .inl ⟨rfl, rfl⟩
    · right
      rcases ih hp with ⟨hbefore, hstart⟩ | hle
      · rw [hbefore]
        omega
      · omega

theorem places_precede (i : ℕ) (before : Chars) (items : List Item) :
    (places i before items).Pairwise Place.Precedes := by
  induction items generalizing i before with
  | nil => exact .nil
  | cons item items ih => exact .cons (fun q hq ↦ mem_places hq) (ih _ _)

theorem spots_precede {p q : Place} (hp : p ∈ spots lead items) (hq : q ∈ spots lead items)
    (hne : p ≠ q) : p.Precedes q ∨ q.Precedes p := by
  have hpairs : (spots lead items).Pairwise fun p q ↦ p.Precedes q ∨ q.Precedes p :=
    (places_precede lead.length lead items).imp Or.inl
  have hsymm : Std.Symm fun p q : Place ↦ p.Precedes q ∨ q.Precedes p := ⟨fun _ _ ↦ Or.symm⟩
  exact hpairs.forall hp hq hne

theorem Place.Precedes.start_le {p q : Place} (h : p.Precedes q) : p.stop ≤ q.start := by
  rcases h with ⟨-, hstart⟩ | hle
  · exact hstart.ge
  · omega

def Place.eachSpan : ℕ × ℕ := (p.start - 2, p.start + (p.item.digits.length + 1))

def Place.rateSpan : ℕ × ℕ := (p.start, p.start + (p.item.digits.length + 3))

theorem not_overlaps_iff {span : ℕ × ℕ} {found : Found Char} :
    overlaps (some span) found = false ↔ span.2 ≤ found.start ∨ found.stop ≤ span.1 := by
  change (decide (found.start < span.2) && decide (span.1 < found.stop)) = false ↔ _
  rw [Bool.and_eq_false_iff, decide_eq_false_iff_not, decide_eq_false_iff_not, not_lt, not_lt]

theorem overlaps_eachSpan : overlaps (some p.eachSpan) p.metres = true := by
  rw [← Bool.not_eq_false, not_overlaps_iff]
  simp only [Place.eachSpan, Place.metres]
  omega

theorem metreThen_cons {f : Chars → Bool} {w : Chars} (h : metreThen f w = true) :
    ∃ c rest, w = c :: rest ∧ isMetre c = true ∧ f rest = true := by
  cases w with
  | nil => cases h
  | cons c rest =>
    simp only [metreThen, Bool.and_eq_true] at h
    exact ⟨c, rest, rfl, h⟩

theorem not_overlaps_eachSpan {p r : Place} (hp : p.isMetres = true) (hr : r.isEach = true)
    (hword : r.item.word ≠ []) (h : p.Precedes r ∨ r.Precedes p) :
    overlaps (some r.eachSpan) p.metres = false := by
  obtain ⟨c, rest, hcons, hc, -⟩ := metreThen_cons hp
  have hlength : p.item.word.length = rest.length + 1 := congrArg List.length hcons
  have hrword := List.length_pos_of_ne_nil hword
  simp only [Place.isEach, Bool.and_eq_true, List.isSuffixOf_iff_suffix] at hr
  obtain ⟨⟨front, hfront⟩, -⟩ := hr
  have hbefore := congrArg List.length hfront
  rw [List.length_append, eachSecond, List.length_cons, List.length_singleton] at hbefore
  rw [not_overlaps_iff]
  simp only [Place.eachSpan, Place.metres]
  rcases h with (⟨heq, hstart⟩ | hle) | hlt
  · rw [heq, hcons] at hfront
    have hne : front ≠ [] := by
      rintro rfl
      obtain ⟨rfl, -⟩ := List.cons.inj hfront
      exact absurd hc (by decide)
    have hpos := List.length_pos_of_ne_nil hne
    rw [heq] at hbefore
    simp only [Place.stop] at hstart
    omega
  · simp only [Place.stop] at hle
    omega
  · have hstart := hlt.start_le
    simp only [Place.stop] at hstart
    omega

theorem not_overlaps_rateSpan {p r : Place} (hp : p.isMetres = true)
    (hr : metreThen startsPerSecond r.item.word = true) (h : p.Precedes r ∨ r.Precedes p) :
    overlaps (some r.rateSpan) p.metres = false := by
  obtain ⟨c, rest, hcons, -, -⟩ := metreThen_cons hp
  have hlength : p.item.word.length = rest.length + 1 := congrArg List.length hcons
  have hrword := (reads_rate (u := { lower := id, digit := fun _ ↦ none })).length _ hr
  rw [not_overlaps_iff]
  simp only [Place.rateSpan, Place.metres]
  rcases h with hlt | hlt
  · have hstart := hlt.start_le
    simp only [Place.stop] at hstart
    omega
  · have hstart := hlt.start_le
    simp only [Place.stop] at hstart
    omega

end EmbodiedAgent.Agent.CommandNlu
