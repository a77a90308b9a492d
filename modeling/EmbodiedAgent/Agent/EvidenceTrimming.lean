import EmbodiedAgent.Agent.PromptContext

namespace EmbodiedAgent.Agent.PromptContext

open Library
open scoped List

section Limits

variable {l l' : List Char} {hits : List RetrievalHit} {r m M : ℕ}

theorem rdropWhile_prefix_of_prefix (h : l <+: l') :
    l.rdropWhile Text.isSpace <+: l'.rdropWhile Text.isSpace := by
  obtain ⟨more, rfl⟩ := h
  have hlast : ∀ c, (l.rdropWhile Text.isSpace).getLast? = some c → Text.isSpace c = false := by
    intro c hc
    obtain ⟨hne, rfl⟩ := List.mem_getLast?_eq_getLast hc
    exact Bool.eq_false_iff.mpr (List.rdropWhile_last_not Text.isSpace l hne)
  have hstrip := Text.rdropWhile_append hlast (l.rtakeWhile Text.isSpace ++ more)
  rw [← List.append_assoc, List.rdropWhile_append_rtakeWhile] at hstrip
  rw [hstrip]
  exact List.prefix_append _ _

def cut (content : List Char) (limit : ℕ) : List Char :=
  (content.take limit).rdropWhile Text.isSpace

theorem cut_prefix (content : List Char) (hle : r ≤ m) : cut content r <+: cut content m :=
  rdropWhile_prefix_of_prefix (List.take_prefix_take_left hle)

theorem length_cut_le (content : List Char) (limit : ℕ) : (cut content limit).length ≤ limit :=
  ((List.rdropWhile_prefix Text.isSpace _).length_le).trans (List.length_take_le _ _)

theorem lt_length_cut {content : List Char} (hr : cut content r = [])
    (hM : cut content M ≠ []) : r < (cut content M).length := by
  have hbefore : cut content M <+: content :=
    (List.rdropWhile_prefix Text.isSpace _).trans (List.take_prefix M content)
  rw [cut, List.rdropWhile_eq_nil_iff] at hr
  by_contra hshort
  have hwithin : cut content M <+: content.take r :=
    List.prefix_take_iff.mpr ⟨hbefore, not_lt.mp hshort⟩
  exact List.rdropWhile_last_not Text.isSpace _ hM
    (hr _ (hwithin.subset (List.getLast_mem hM)))

theorem truncateHits_cons (hit : RetrievalHit) (hits : List RetrievalHit) (hm : m ≠ 0) :
    truncateHits (hit :: hits) m = if cut hit.content m = [] then truncateHits hits m
      else { hit with content := cut hit.content m } ::
        truncateHits hits (m - (cut hit.content m).length) := by
  rw [truncateHits, if_neg hm]
  rfl

theorem truncateHits_zero (hits : List RetrievalHit) : truncateHits hits 0 = [] := by
  cases hits <;> rfl

theorem length_le_of_mem_truncateHits {hit : RetrievalHit} (h : hit ∈ truncateHits hits m) :
    hit.content.length ≤ m := by
  induction hits generalizing m with
  | nil => cases h
  | cons first hits ih =>
    by_cases hm : m = 0
    · rw [hm, truncateHits_zero] at h
      cases h
    · rw [truncateHits_cons first hits hm] at h
      split_ifs at h
      · exact ih h
      · rcases List.mem_cons.mp h with rfl | h
        · exact length_cut_le _ _
        · exact (ih h).trans (Nat.sub_le _ _)

theorem truncateHits_nil_of_le (hle : m ≤ M) (h : truncateHits hits M = []) :
    truncateHits hits m = [] := by
  induction hits with
  | nil => rfl
  | cons first hits ih =>
    by_cases hm : m = 0
    · rw [hm, truncateHits_zero]
    · rw [truncateHits_cons first hits (by omega)] at h
      rw [truncateHits_cons first hits hm]
      split_ifs at h with hM
      have hcut : cut first.content m = [] := by
        have hbefore := cut_prefix first.content hle
        rw [hM] at hbefore
        exact List.prefix_nil.mp hbefore
      rw [if_pos hcut]
      exact ih h

theorem truncateHits_between (hrm : r ≤ m) (hmM : m ≤ M)
    (h : truncateHits hits r = truncateHits hits M) :
    truncateHits hits m = truncateHits hits M := by
  induction hits generalizing r m M with
  | nil => rfl
  | cons first hits ih =>
    by_cases hr : r = 0
    · rw [hr, truncateHits_zero] at h
      rw [← h]
      exact truncateHits_nil_of_le hmM h.symm
    · rw [truncateHits_cons first hits hr, truncateHits_cons first hits (by omega)] at h
      rw [truncateHits_cons first hits (by omega), truncateHits_cons first hits (by omega)]
      have hbefore := cut_prefix first.content hrm
      have hbefore' := cut_prefix first.content hmM
      by_cases hcutM : cut first.content M = []
      · rw [hcutM] at hbefore'
        have hcutm := List.prefix_nil.mp hbefore'
        rw [hcutm] at hbefore
        have hcutr := List.prefix_nil.mp hbefore
        rw [if_pos hcutr, if_pos hcutM] at h
        rw [if_pos hcutm, if_pos hcutM]
        exact ih hrm hmM h
      · by_cases hcutr : cut first.content r = []
        · rw [if_pos hcutr, if_neg hcutM] at h
          have hmem : { first with content := cut first.content M } ∈ truncateHits hits r := by
            rw [h]
            exact .head _
          exact absurd (length_le_of_mem_truncateHits hmem) (lt_length_cut hcutr hcutM).not_ge
        · rw [if_neg hcutr, if_neg hcutM, List.cons.injEq] at h
          obtain ⟨hhit, hrest⟩ := h
          have hsame : cut first.content r = cut first.content M :=
            congrArg RetrievalHit.content hhit
          have hmid : cut first.content m = cut first.content M := by
            refine hbefore'.eq_of_length_le ?_
            rw [← hsame]
            exact hbefore.length_le
          rw [hsame] at hrest
          rw [hmid, if_neg hcutM, if_neg hcutM,
            ih (Nat.sub_le_sub_right hrm _) (Nat.sub_le_sub_right hmM _) hrest]

end Limits

section Search

variable {assembler : PromptContextAssembler} {system user : Message} {raw : List Char}
  {retrieval : RetrievalResult} {M : ℕ}

/-- The largest limit whose prompt meets the budget. -/
def LargestLimit (assembler : PromptContextAssembler) (system user : Message) (raw : List Char)
    (retrieval : RetrievalResult) (M : ℕ) : Prop :=
  IsGreatest {m | m ≤ retrieval.retrievedChars ∧
    candidateFits assembler system user raw retrieval m = true} M

def triedLimits (retrieval : RetrievalResult) (M : ℕ) : List ℕ :=
  Bisection.probesFor M (retrieval.retrievedChars + 1) 0 (retrieval.retrievedChars + 1)

theorem fitRagEvidence_largest_iff (hhits : retrieval.hits ≠ [])
    (hM : LargestLimit assembler system user raw retrieval M) :
    fitRagEvidence assembler system user raw retrieval = candidate raw retrieval M ↔
      ∀ m ∈ triedLimits retrieval M, m ≤ M →
        candidateFits assembler system user raw retrieval m = true := by
  obtain ⟨⟨hle, hfits⟩, hgreatest⟩ := hM
  rw [fitRagEvidence, if_neg hhits, ← candidate_zero raw retrieval]
  refine Bisection.bisect_eq_iff le_rfl (Nat.lt_succ_of_le hle) hfits ?_ ?_
  · intro m hlt hm
    by_contra hmfits
    have hmle := hgreatest ⟨Nat.le_of_lt_succ hm, by simpa using hmfits⟩
    omega
  · intro r m hrm hmM heq
    have hsame : truncateHits retrieval.hits r = truncateHits retrieval.hits M :=
      congrArg Prod.fst heq
    have hmid := truncateHits_between hrm hmM hsame
    unfold candidateFits candidate
    rw [hmid]

end Search

def twoHits : RetrievalResult :=
  { route := "knowledge"
    hits :=
      [{ sourceId := "k.md#1".toList, title := "topic".toList, content := "a b".toList,
          score := 0 },
        { sourceId := "k.md#2".toList, title := "topic".toList, content := "x".toList,
          score := 0 }] }

def rules : Message := { role := "system", content := "rules".toList }

def question : Message := { role := "user", content := "how".toList }

theorem wide_room : (16 : ℤ) + 16 < 256 := by decide

def wide : PromptContextAssembler :=
  { contextWindowTokens := 256
    maxOutputTokens := 16
    safetyReserveTokens := 16
    room := wide_room }

/-- With room for all of the evidence, all of it is kept. -/
theorem twoHits_kept : fitRagEvidence wide rules question question.content twoHits =
      candidate question.content twoHits 4 := by
  have hlargest : LargestLimit wide rules question question.content twoHits 4 :=
    ⟨⟨by decide, by decide +kernel⟩, fun m hm ↦ hm.1⟩
  exact (fitRagEvidence_largest_iff (by decide) hlargest).mpr (by decide +kernel)

theorem narrow_room : (16 : ℤ) + 16 < 212 := by decide

def narrow : PromptContextAssembler :=
  { contextWindowTokens := 212
    maxOutputTokens := 16
    safetyReserveTokens := 16
    room := narrow_room }

/-- The first content fits as a whole, and two of its characters do not. -/
theorem twoHits_lost : LargestLimit narrow rules question question.content twoHits 3 ∧
    fitRagEvidence narrow rules question question.content twoHits ≠
      candidate question.content twoHits 3 := by
  refine ⟨⟨⟨by decide, by decide +kernel⟩, ?_⟩, by decide +kernel⟩
  rintro m ⟨hle, hfits⟩
  have hchars : twoHits.retrievedChars = 4 := by decide
  have hall : candidateFits narrow rules question question.content twoHits 4 = false := by
    decide +kernel
  by_contra hlt
  have hm : m = 4 := by omega
  rw [hm, hall] at hfits
  cases hfits

end EmbodiedAgent.Agent.PromptContext
