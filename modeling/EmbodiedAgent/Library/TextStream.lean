import Mathlib.Data.Int.Basic
import Mathlib.Data.List.Basic

namespace EmbodiedAgent.Library.TextStream

def getLines : List Char → List (List Char)
  | [] => []
  | c :: text =>
    if c = '\n' then [] :: getLines text
    else
      match getLines text with
      | [] => [[c]]
      | line :: lines => (c :: line) :: lines

def putLines (lines : List (List Char)) : List Char := lines.flatMap fun line ↦ line ++ ['\n']

theorem getLines_line {line : List Char} (h : '\n' ∉ line) (text : List Char) :
    getLines (line ++ '\n' :: text) = line :: getLines text := by
  induction line with
  | nil => rw [List.nil_append, getLines, if_pos rfl]
  | cons c line ih =>
    rw [List.mem_cons, not_or] at h
    rw [List.cons_append, getLines, if_neg (Ne.symm h.1), ih h.2]

theorem getLines_putLines {lines : List (List Char)} (h : ∀ line ∈ lines, '\n' ∉ line) :
    getLines (putLines lines) = lines := by
  induction lines with
  | nil => rfl
  | cons line lines ih =>
    have hput : putLines (line :: lines) = line ++ '\n' :: putLines lines := by
      rw [putLines, List.flatMap_cons, List.append_assoc]
      rfl
    rw [hput, getLines_line (h line (.head _)), ih fun l hl ↦ h l (.tail _ hl)]

/-- `std::isspace` in the C locale. -/
def isBlank (c : Char) : Bool := c = ' ' || 9 ≤ c.toNat && c.toNat ≤ 13

def skipBlanks (text : List Char) : List Char := text.dropWhile isBlank

def Bounded (text : List Char) : Prop := ∀ c, text.head? = some c → isBlank c = true

theorem bounded_nil : Bounded [] := fun c h ↦ by cases h

theorem bounded_blank (text : List Char) : Bounded (' ' :: text) := by
  intro c h
  cases h
  rfl

structure Solid (text : List Char) : Prop where
  nonempty : text ≠ []
  solid : ∀ c ∈ text, isBlank c = false

theorem Solid.no_newline {text : List Char} (h : Solid text) : '\n' ∉ text := by
  intro hmem
  have hblank := h.solid _ hmem
  revert hblank
  decide

theorem skipBlanks_field {text : List Char} (h : Solid text) (rest : List Char) :
    skipBlanks (' ' :: (text ++ rest)) = text ++ rest := by
  cases text with
  | nil => exact absurd rfl h.nonempty
  | cons c text =>
    have hc := h.solid c (.head _)
    rw [skipBlanks, List.dropWhile_cons_of_pos rfl, List.cons_append,
      List.dropWhile_cons_of_neg (Bool.eq_false_iff.mp hc)]

def fields (texts : List (List Char)) : List Char := texts.flatMap fun text ↦ ' ' :: text

theorem fields_cons (text : List Char) (texts : List (List Char)) :
    fields (text :: texts) = ' ' :: (text ++ fields texts) := rfl

theorem fields_singleton (text : List Char) : fields [text] = ' ' :: text := List.append_nil _

theorem fields_append (texts texts' : List (List Char)) :
    fields (texts ++ texts') = fields texts ++ fields texts' := List.flatMap_append

theorem bounded_fields (texts : List (List Char)) {rest : List Char} (h : Bounded rest) :
    Bounded (fields texts ++ rest) := by
  cases texts with
  | nil => exact h
  | cons text texts => exact bounded_blank _

theorem no_newline_fields {texts : List (List Char)} (h : ∀ text ∈ texts, Solid text) :
    '\n' ∉ fields texts := by
  intro hmem
  obtain ⟨text, htext, hc⟩ := List.mem_flatMap.mp hmem
  rcases List.mem_cons.mp hc with hblank | hc
  · revert hblank
    decide
  · exact (h text htext).no_newline hc

def printInt : ℤ → List Char
  | .ofNat n => Nat.toDigits 10 n
  | .negSucc n => '-' :: Nat.toDigits 10 (n + 1)

def readNat (text : List Char) : Option (ℕ × List Char) :=
  if text.takeWhile Char.isDigit = [] then none
  else some (Nat.ofDigitChars 10 (text.takeWhile Char.isDigit) 0, text.dropWhile Char.isDigit)

def readInt : List Char → Option (ℤ × List Char)
  | [] => none
  | c :: text =>
    if c = '-' then (readNat text).map fun read ↦ (-(read.1 : ℤ), read.2)
    else if c = '+' then (readNat text).map fun read ↦ ((read.1 : ℤ), read.2)
    else (readNat (c :: text)).map fun read ↦ ((read.1 : ℤ), read.2)

theorem isDigit_of_mem_toDigits {n : ℕ} {c : Char} (h : c ∈ Nat.toDigits 10 n) : c.isDigit = true :=
  Nat.isDigit_of_mem_toDigits (by decide) (by decide) h

theorem toNat_of_isDigit {c : Char} (h : c.isDigit = true) : 48 ≤ c.toNat ∧ c.toNat ≤ 57 := by
  rw [Char.isDigit, Bool.and_eq_true, decide_eq_true_iff, decide_eq_true_iff] at h
  exact ⟨UInt32.le_iff_toNat_le.mp h.1, UInt32.le_iff_toNat_le.mp h.2⟩

theorem isBlank_of_isDigit {c : Char} (h : c.isDigit = true) : isBlank c = false := by
  obtain ⟨hlow, -⟩ := toNat_of_isDigit h
  rw [Bool.eq_false_iff, isBlank, Ne, Bool.or_eq_true, decide_eq_true_iff, Bool.and_eq_true,
    decide_eq_true_iff, decide_eq_true_iff]
  rintro (rfl | hblank)
  · cases h
  · omega

theorem takeWhile_toDigits {rest : List Char} (h : Bounded rest) (n : ℕ) :
    (Nat.toDigits 10 n ++ rest).takeWhile Char.isDigit = Nat.toDigits 10 n ∧
      (Nat.toDigits 10 n ++ rest).dropWhile Char.isDigit = rest := by
  rw [List.takeWhile_append_of_pos fun c hc ↦ isDigit_of_mem_toDigits hc,
    List.dropWhile_append_of_pos fun c hc ↦ isDigit_of_mem_toDigits hc]
  cases rest with
  | nil => exact ⟨List.append_nil _, rfl⟩
  | cons c rest =>
    have hc : ¬ c.isDigit = true := by
      intro hdigit
      have hblank := h c rfl
      rw [isBlank_of_isDigit hdigit] at hblank
      cases hblank
    rw [List.takeWhile_cons_of_neg hc, List.dropWhile_cons_of_neg hc, List.append_nil]
    exact ⟨rfl, rfl⟩

theorem readNat_toDigits {n : ℕ} {rest : List Char} (h : Bounded rest) :
    readNat (Nat.toDigits 10 n ++ rest) = some (n, rest) := by
  obtain ⟨htake, hdrop⟩ := takeWhile_toDigits h n
  rw [readNat, htake, hdrop, if_neg Nat.toDigits_ne_nil, Nat.ofDigitChars_ten_toDigits]

theorem solid_toDigits (n : ℕ) : Solid (Nat.toDigits 10 n) where
  nonempty := Nat.toDigits_ne_nil
  solid _ hc := isBlank_of_isDigit (isDigit_of_mem_toDigits hc)

theorem solid_printInt (n : ℤ) : Solid (printInt n) := by
  cases n with
  | ofNat n => exact solid_toDigits n
  | negSucc n =>
    refine ⟨List.cons_ne_nil _ _, fun c hc ↦ ?_⟩
    rcases List.mem_cons.mp hc with rfl | hc
    · rfl
    · exact (solid_toDigits (n + 1)).solid c hc

theorem readInt_printInt (n : ℤ) {rest : List Char} (h : Bounded rest) :
    readInt (printInt n ++ rest) = some (n, rest) := by
  cases n with
  | negSucc n =>
    rw [printInt, List.cons_append, readInt, if_pos rfl, readNat_toDigits h]
    rfl
  | ofNat n =>
    have hread := readNat_toDigits (n := n) h
    rw [printInt]
    cases hdigits : Nat.toDigits 10 n with
    | nil => exact absurd hdigits Nat.toDigits_ne_nil
    | cons c text =>
      have hc : c.isDigit = true := by
        refine isDigit_of_mem_toDigits (n := n) ?_
        rw [hdigits]
        exact .head _
      rw [hdigits, List.cons_append] at hread
      rw [List.cons_append, readInt, if_neg, if_neg, hread]
      · rfl
      · rintro rfl
        cases hc
      · rintro rfl
        cases hc

def readIntWithin (low high : ℤ) (text : List Char) : Option (ℤ × List Char) :=
  (readInt text).filter fun read ↦ low ≤ read.1 && read.1 ≤ high

theorem readIntWithin_field {low high n : ℤ} (hlow : low ≤ n) (hhigh : n ≤ high)
    {rest : List Char} (h : Bounded rest) :
    readIntWithin low high (skipBlanks (' ' :: (printInt n ++ rest))) = some (n, rest) := by
  rw [skipBlanks_field (solid_printInt n), readIntWithin, readInt_printInt n h]
  simp [hlow, hhigh]

/-- How numbers are printed and read; `read` finds no blank before the number. -/
structure NumberFormat (V : Type*) where
  isFinite : V → Bool
  print : V → List Char
  read : List Char → Option (V × List Char)

variable {V : Type*} {format : NumberFormat V}

/-- The text of a number reads back as this number. -/
structure NumberFormat.ReadsBack (format : NumberFormat V) (v : V) : Prop where
  solid : Solid (format.print v)
  read : ∀ rest, Bounded rest → format.read (format.print v ++ rest) = some (v, rest)

def readNumbers (format : NumberFormat V) : ℕ → List Char → Option (List V × List Char)
  | 0, text => some ([], text)
  | n + 1, text =>
    match format.read (skipBlanks text) with
    | none => none
    | some (v, text) => (readNumbers format n text).map fun read ↦ (v :: read.1, read.2)

theorem readNumbers_fields {values : List V} (h : ∀ v ∈ values, format.ReadsBack v)
    {rest : List Char} (hrest : Bounded rest) :
    readNumbers format values.length (fields (values.map format.print) ++ rest) =
      some (values, rest) := by
  induction values with
  | nil => rfl
  | cons v values ih =>
    have hv := h v (.head _)
    rw [List.map_cons, fields_cons, List.cons_append, List.append_assoc, List.length_cons,
      readNumbers, skipBlanks_field hv.solid, hv.read _ (bounded_fields _ hrest)]
    dsimp only
    rw [ih fun u hu ↦ h u (.tail _ hu)]
    rfl

end EmbodiedAgent.Library.TextStream
