import EmbodiedAgent.Library.Binary64
import Mathlib.Data.List.DropRight

namespace EmbodiedAgent.Library.Text

/-- What `str.strip` takes for white space. -/
def isSpace (c : Char) : Bool :=
  let n := c.toNat
  decide (9 ≤ n ∧ n ≤ 13 ∨ 28 ≤ n ∧ n ≤ 32 ∨ n = 0x85 ∨ n = 0xA0 ∨ n = 0x1680 ∨
    0x2000 ≤ n ∧ n ≤ 0x200A ∨ n = 0x2028 ∨ n = 0x2029 ∨ n = 0x202F ∨ n = 0x205F ∨ n = 0x3000)

@[irreducible] def strip (s : String) : String :=
  String.ofList ((s.toList.dropWhile isSpace).reverse.dropWhile isSpace).reverse

def stripChars (l : List Char) : List Char :=
  ((l.dropWhile isSpace).reverse.dropWhile isSpace).reverse

theorem toList_strip (s : String) : (strip s).toList = stripChars s.toList := by
  rw [strip, String.toList_ofList, stripChars]

section Strip

variable {l text : List Char}

theorem stripChars_eq (l : List Char) :
    stripChars l = (l.dropWhile isSpace).rdropWhile isSpace := rfl

theorem exists_stripChars (l : List Char) : ∃ front back, (∀ c ∈ front, isSpace c = true) ∧
    (∀ c ∈ back, isSpace c = true) ∧ l = front ++ (stripChars l ++ back) := by
  refine ⟨l.takeWhile isSpace, (l.dropWhile isSpace).rtakeWhile isSpace,
    fun _ ↦ List.mem_takeWhile_imp, fun _ ↦ List.mem_rtakeWhile_imp, ?_⟩
  rw [stripChars_eq, List.rdropWhile_append_rtakeWhile, List.takeWhile_append_dropWhile]

theorem blank_of_stripChars (h : stripChars l = []) : ∀ c ∈ l, isSpace c = true := by
  obtain ⟨front, back, hfront, hback, hl⟩ := exists_stripChars l
  rw [h, List.nil_append] at hl
  rw [hl]
  exact fun c hc ↦ (List.mem_append.mp hc).elim (hfront c) (hback c)

structure Word (l : List Char) : Prop where
  nonempty : l ≠ []
  front : ∀ c, l.head? = some c → isSpace c = false
  back : ∀ c, l.getLast? = some c → isSpace c = false

theorem head_dropWhile {c : Char} (h : (l.dropWhile isSpace).head? = some c) :
    isSpace c = false := by
  induction l with
  | nil => cases h
  | cons d l ih =>
    by_cases hd : isSpace d = true
    · rw [List.dropWhile_cons_of_pos hd] at h
      exact ih h
    · rw [List.dropWhile_cons_of_neg hd] at h
      obtain rfl := Option.some.inj h
      exact Bool.eq_false_of_not_eq_true hd

theorem word_stripChars (h : stripChars l ≠ []) : Word (stripChars l) where
  nonempty := h
  front c hc := by
    obtain ⟨back, hback⟩ := List.rdropWhile_prefix isSpace (l.dropWhile isSpace)
    apply head_dropWhile (l := l)
    rw [← hback]
    exact List.head?_append_of_ne_nil _ h ▸ hc
  back c hc := by
    have hlast := List.rdropWhile_last_not isSpace _ h
    rw [List.getLast?_eq_some_getLast h] at hc
    obtain rfl := Option.some.inj hc
    exact Bool.eq_false_of_not_eq_true hlast

theorem Word.dropWhile (h : Word l) (more : List Char) :
    (l ++ more).dropWhile isSpace = l ++ more := by
  cases l with
  | nil => exact absurd rfl h.nonempty
  | cons c l => exact List.dropWhile_cons_of_neg (by simp [h.front c rfl])

theorem rdropWhile_append (h : ∀ c, l.getLast? = some c → isSpace c = false) (more : List Char) :
    (l ++ more).rdropWhile isSpace = l ++ more.rdropWhile isSpace := by
  induction more using List.reverseRecOn with
  | nil =>
    rw [List.append_nil, List.rdropWhile_nil, List.append_nil, List.rdropWhile_eq_self_iff]
    intro hl
    simpa using h _ (List.getLast?_eq_some_getLast hl)
  | append_singleton more c ih =>
    rw [← List.append_assoc]
    by_cases hc : isSpace c = true
    · rw [List.rdropWhile_concat_pos _ _ _ hc, List.rdropWhile_concat_pos _ _ _ hc, ih]
    · rw [List.rdropWhile_concat_neg _ _ _ hc, List.rdropWhile_concat_neg _ _ _ hc,
        List.append_assoc]

theorem Word.stripChars (h : Word l) : stripChars l = l := by
  have hfront : l.dropWhile isSpace = l := by simpa using h.dropWhile []
  rw [stripChars_eq, hfront]
  simpa using rdropWhile_append h.back []

@[simp] theorem stripChars_stripChars (l : List Char) :
    Text.stripChars (Text.stripChars l) = Text.stripChars l := by
  by_cases h : Text.stripChars l = []
  · rw [h]
    rfl
  · exact (word_stripChars h).stripChars

def Spaced : List (List Char) → List Char → Prop
  | [], text => ∀ c ∈ text, isSpace c = true
  | word :: words, text =>
    ∃ gap tail, (∀ c ∈ gap, isSpace c = true) ∧ text = gap ++ (word ++ tail) ∧ Spaced words tail

theorem Spaced.append {words words' : List (List Char)} {text text' : List Char}
    (h : Spaced words text) (h' : Spaced words' text') :
    Spaced (words ++ words') (text ++ text') := by
  induction words generalizing text with
  | nil =>
    cases words' with
    | nil => exact fun c hc ↦ (List.mem_append.mp hc).elim (h c) (h' c)
    | cons word words' =>
      obtain ⟨gap, tail, hgap, rfl, htail⟩ := h'
      exact ⟨text ++ gap, tail, fun c hc ↦ (List.mem_append.mp hc).elim (h c) (hgap c), by simp,
        htail⟩
  | cons word words ih =>
    obtain ⟨gap, tail, hgap, rfl, htail⟩ := h
    exact ⟨gap, tail ++ text', hgap, by simp, ih htail⟩

theorem spaced_stripChars (l : List Char) : Spaced [stripChars l] l := by
  obtain ⟨front, back, hfront, hback, hl⟩ := exists_stripChars l
  exact ⟨front, back, hfront, hl, hback⟩

theorem Spaced.rdropWhile {words : List (List Char)} (h : Spaced words text)
    (hwords : ∀ word ∈ words, Word word) : Spaced words (text.rdropWhile isSpace) := by
  induction words generalizing text with
  | nil =>
    rw [List.rdropWhile_eq_nil_iff.mpr h]
    intro c hc
    cases hc
  | cons word words ih =>
    obtain ⟨gap, tail, hgap, rfl, htail⟩ := h
    have hword := hwords word (List.mem_cons_self ..)
    rw [← List.append_assoc, rdropWhile_append, List.append_assoc]
    · exact ⟨gap, _, hgap, rfl, ih htail fun w hw ↦ hwords w (List.mem_cons_of_mem word hw)⟩
    · rw [List.getLast?_append_of_ne_nil _ hword.nonempty]
      exact hword.back

theorem Spaced.strip {words : List (List Char)} (h : Spaced words text)
    (hwords : ∀ word ∈ words, Word word) : Spaced words (stripChars text) := by
  rw [stripChars_eq]
  cases words with
  | nil =>
    rw [List.dropWhile_eq_nil_iff.mpr h, List.rdropWhile_nil]
    intro c hc
    cases hc
  | cons word words =>
    have hword := hwords word (List.mem_cons_self ..)
    apply Spaced.rdropWhile _ hwords
    obtain ⟨gap, tail, hgap, rfl, htail⟩ := h
    rw [List.dropWhile_append_of_pos hgap, hword.dropWhile]
    exact ⟨[], tail, by simp, rfl, htail⟩

end Strip

/-- `str.lower` on the letters of ASCII. -/
@[irreducible] def lower (s : String) : String := String.ofList (s.toList.map Char.toLower)

def padded (width n : ℕ) : String :=
  let digits := toString n
  String.ofList (List.replicate (width - digits.length) '0') ++ digits

def fixed (places : ℕ) : Double → String
  | .nan => "nan"
  | .infinite negative => if negative then "-inf" else "inf"
  | .finite q _ =>
    let n := (roundHalfEven (|q| * 10 ^ places)).natAbs
    (if q < 0 then "-" else "") ++ toString (n / 10 ^ places) ++ "." ++
      padded places (n % 10 ^ places)

theorem append_separator_inj {α : Type} {a : α} {l l' d d' : List α} (hd : a ∉ d) (hd' : a ∉ d')
    (h : l ++ a :: d = l' ++ a :: d') : d = d' := by
  rcases List.append_eq_append_iff.mp h with ⟨m, rfl, hm⟩ | ⟨m, rfl, hm⟩
  · cases m with
    | nil => exact (List.cons.inj hm).2
    | cons x m =>
      obtain ⟨-, rfl⟩ := List.cons.inj hm
      simp at hd
  · cases m with
    | nil => exact (List.cons.inj hm).2.symm
    | cons x m =>
      obtain ⟨-, rfl⟩ := List.cons.inj hm
      simp at hd'

theorem numbered_inj {label label' : String} {n n' : ℕ}
    (h : label ++ ":" ++ toString n = label' ++ ":" ++ toString n') : n = n' := by
  have hcolon (n : ℕ) : ':' ∉ Nat.toDigits 10 n := fun hmem ↦ by
    simpa using Nat.isDigit_of_mem_toDigits (by decide) (by decide) hmem
  have hlist := congrArg String.toList h
  simp only [String.toList_append, Nat.toString_eq_repr, Nat.toList_repr,
    List.append_assoc] at hlist
  have hdigits := append_separator_inj (hcolon n) (hcolon n') hlist
  have hvalue := congrArg (Nat.ofDigitChars 10 · 0) hdigits
  simpa using hvalue

end EmbodiedAgent.Library.Text
