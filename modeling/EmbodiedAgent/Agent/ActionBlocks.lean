import EmbodiedAgent.Agent.StreamingTurn

namespace EmbodiedAgent.Agent.ActionBlocks

open Library Search Protocol StreamingTurn

def actionBlocks (state : Mode) (text : Chars) : List Chars :=
  match state with
  | .outside =>
    match _htag : opening text with
    | some (state, rest) => actionBlocks state rest
    | none => []
  | .speech =>
    match _hclose : find speechClose text with
    | some index => actionBlocks .outside (text.drop (index + speechClose.length))
    | none => []
  | .action =>
    match _hclose : find actionClose text with
    | some index =>
      text.take index :: actionBlocks .outside (text.drop (index + actionClose.length))
    | none => []
termination_by text.length
decreasing_by
  · exact opening_length _htag
  · exact drop_length_lt (by decide) _hclose
  · exact drop_length_lt (by decide) _hclose

def hasName (members : Dict) : Bool :=
  match members.lookup "name" with
  | some (.str _) => true
  | _ => false

def hasArguments (strict : Bool) (members : Dict) : Bool :=
  match members.lookup "arguments" with
  | none => !strict
  | some (.obj _) => true
  | some _ => false

def wellFormed (strict : Bool) : JsonValue → Bool
  | .obj members => hasName members && hasArguments strict members
  | _ => false

section Blocks

variable (loads : Chars → Except String JsonValue) (strict : Bool) (raw : Chars)

def authorized : List ActionCommand :=
  match loads (Text.stripChars raw) with
  | .error _ => []
  | .ok payload =>
    if (payloadItems payload).all (wellFormed strict) then
      (payloadItems payload).filterMap fun item ↦ (readItem item).toOption
    else []

/-- A block with a malformed item begins with one that the parser rejects. -/
def RejectsFirst : Prop :=
  ∀ payload, loads (Text.stripChars raw) = .ok payload →
    (∃ item ∈ payloadItems payload, wellFormed strict item = false) →
      ∀ first, (payloadItems payload).head? = some first → wellFormed false first = false

variable {loads strict raw} {item : JsonValue} {items : List JsonValue}

theorem hasArguments_of_strict {members : Dict} (h : hasArguments strict members = true) :
    hasArguments false members = true := by
  rw [hasArguments] at h ⊢
  cases hlookup : members.lookup "arguments" with
  | none => rfl
  | some arguments =>
    rw [hlookup] at h
    cases arguments <;> exact h

theorem wellFormed_of_strict (h : wellFormed strict item = true) :
    wellFormed false item = true := by
  cases item with
  | obj members =>
    obtain ⟨hname, harguments⟩ := Bool.and_eq_true_iff.mp h
    exact Bool.and_eq_true_iff.mpr ⟨hname, hasArguments_of_strict harguments⟩
  | _ => cases h

theorem readItem_isOk (item : JsonValue) : (readItem item).isOk = wellFormed false item := by
  cases item with
  | obj members =>
    rw [readItem, wellFormed, hasName, hasArguments]
    cases members.lookup "name" with
    | none => rfl
    | some name =>
      cases name with
      | str name =>
        cases members.lookup "arguments" with
        | none => rfl
        | some arguments => cases arguments <;> rfl
      | _ => rfl
  | _ => rfl

theorem readItem_accepts (h : wellFormed false item = true) :
    ∃ action, readItem item = .ok action := by
  rw [← readItem_isOk] at h
  cases hitem : readItem item with
  | ok action => exact ⟨action, rfl⟩
  | error error =>
    rw [hitem] at h
    cases h

theorem readItem_rejects (h : wellFormed false item = false) :
    ∃ error, readItem item = .error error := by
  rw [← readItem_isOk] at h
  cases hitem : readItem item with
  | error error => exact ⟨error, rfl⟩
  | ok action =>
    rw [hitem] at h
    cases h

theorem readItems_actions (items : List JsonValue) : (readItems items).1 =
    (items.takeWhile (wellFormed false)).filterMap fun item ↦ (readItem item).toOption := by
  induction items with
  | nil => rfl
  | cons item items ih =>
    cases hitem : wellFormed false item with
    | true =>
      obtain ⟨action, haction⟩ := readItem_accepts hitem
      rw [readItems, haction, List.takeWhile_cons_of_pos hitem, List.filterMap_cons, haction, ← ih]
      rfl
    | false =>
      obtain ⟨error, herror⟩ := readItem_rejects hitem
      rw [readItems, herror, List.takeWhile_cons_of_neg (Bool.eq_false_iff.mp hitem)]
      rfl

theorem readItems_nil_iff : (readItems items).1 = [] ↔
    ∀ first, items.head? = some first → wellFormed false first = false := by
  cases items with
  | nil => exact ⟨fun _ first h ↦ absurd h nofun, fun _ ↦ rfl⟩
  | cons item items =>
    cases hitem : wellFormed false item with
    | true =>
      obtain ⟨action, haction⟩ := readItem_accepts hitem
      rw [readItems, haction]
      constructor
      · intro h
        cases h
      · intro h
        rw [h item rfl] at hitem
        cases hitem
    | false =>
      obtain ⟨error, herror⟩ := readItem_rejects hitem
      rw [readItems, herror]
      refine ⟨fun _ first hfirst ↦ ?_, fun _ ↦ rfl⟩
      rw [← Option.some.inj hfirst]
      exact hitem

variable {payload : JsonValue}

theorem actions_of_loads (hloads : loads (Text.stripChars raw) = .ok payload) :
    (readAction loads raw).actions = (readItems (payloadItems payload)).1 := by
  rw [readAction, hloads]

theorem authorized_of_all (hloads : loads (Text.stripChars raw) = .ok payload)
    (hall : ∀ item ∈ payloadItems payload, wellFormed strict item = true) :
    authorized loads strict raw = (readAction loads raw).actions := by
  rw [actions_of_loads hloads, readItems_actions, List.takeWhile_eq_self_iff.mpr,
    authorized, hloads]
  · exact if_pos (List.all_eq_true.mpr hall)
  · intro item hitem
    exact wellFormed_of_strict (hall item hitem)

theorem authorized_of_bad (hloads : loads (Text.stripChars raw) = .ok payload)
    (hbad : ∃ item ∈ payloadItems payload, wellFormed strict item = false) :
    authorized loads strict raw = [] := by
  obtain ⟨item, hitem, hmalformed⟩ := hbad
  rw [authorized, hloads]
  refine if_neg fun hall ↦ ?_
  rw [List.all_eq_true.mp hall item hitem] at hmalformed
  cases hmalformed

theorem authorized_cases (loads : Chars → Except String JsonValue) (strict : Bool) (raw : Chars) :
    authorized loads strict raw = (readAction loads raw).actions ∨
      authorized loads strict raw = [] := by
  cases hloads : loads (Text.stripChars raw) with
  | error error =>
    rw [authorized, hloads]
    exact .inr rfl
  | ok payload =>
    by_cases hall : ∀ item ∈ payloadItems payload, wellFormed strict item = true
    · exact .inl (authorized_of_all hloads hall)
    · exact .inr (authorized_of_bad hloads (by simpa using hall))

theorem handsOut_iff : (readAction loads raw).actions = authorized loads strict raw ↔
    RejectsFirst loads strict raw := by
  constructor
  · intro h payload hloads hbad
    rw [authorized_of_bad hloads hbad, actions_of_loads hloads] at h
    exact readItems_nil_iff.mp h
  · intro h
    cases hloads : loads (Text.stripChars raw) with
    | error error => rw [authorized, readAction, hloads]
    | ok payload =>
      by_cases hall : ∀ item ∈ payloadItems payload, wellFormed strict item = true
      · exact (authorized_of_all hloads hall).symm
      · have hbad : ∃ item ∈ payloadItems payload, wellFormed strict item = false := by
          simpa using hall
        rw [authorized_of_bad hloads hbad, actions_of_loads hloads, readItems_nil_iff]
        exact h payload hloads hbad

end Blocks

theorem flatMap_eq_iff {α β : Type*} {f g : α → List β} {l : List α}
    (h : ∀ x ∈ l, (g x).length ≤ (f x).length) : l.flatMap f = l.flatMap g ↔ ∀ x ∈ l,
      f x = g x := by
  induction l with
  | nil => simp
  | cons x l ih =>
    obtain ⟨hx, hl⟩ := List.forall_mem_cons.mp h
    rw [List.flatMap_cons, List.flatMap_cons, List.forall_mem_cons, ← ih hl]
    constructor
    · intro heq
      have hrest : (l.flatMap g).length ≤ (l.flatMap f).length := by
        rw [List.length_flatMap, List.length_flatMap]
        exact List.sum_le_sum hl
      have hlength := congrArg List.length heq
      rw [List.length_append, List.length_append] at hlength
      exact List.append_inj heq (by omega)
    · rintro ⟨hpiece, hrest⟩
      rw [hpiece, hrest]

theorem readFrom_actions (loads : Chars → Except String JsonValue) (state : Mode) (text : Chars) :
    (readFrom loads state text).actions =
      (actionBlocks state text).flatMap fun raw ↦ (readAction loads raw).actions := by
  fun_induction actionBlocks state text with
  | case1 text state rest htag ih => rw [readFrom_outside htag, ih]
  | case2 text htag =>
    rw [readFrom_outside_none htag]
    split_ifs <;> rfl
  | case3 text index hclose ih =>
    rw [readFrom_speech hclose, ← ih]
    rfl
  | case4 text hclose =>
    rw [readFrom_speech_none hclose]
    rfl
  | case5 text index hclose ih =>
    rw [readFrom_action hclose, List.flatMap_cons, ← ih]
    rfl
  | case6 text hclose =>
    rw [readFrom_action_none hclose]
    rfl

theorem actionBlocks_outside {text rest : Chars} {state : Mode}
    (h : opening text = some (state, rest)) :
    actionBlocks .outside text = actionBlocks state rest := by
  rw [actionBlocks]
  split
  · next state' rest' h' =>
    obtain ⟨rfl, rfl⟩ := Prod.mk.inj (Option.some.inj (h.symm.trans h'))
    rfl
  · next h' => simp [h] at h'

theorem actionBlocks_action {text : Chars} {index : ℕ} (h : find actionClose text = some index) :
    actionBlocks .action text =
      text.take index :: actionBlocks .outside (text.drop (index + actionClose.length)) := by
  conv_lhs => rw [actionBlocks]
  split
  · next index' h' =>
    obtain rfl := Option.some.inj (h.symm.trans h')
    rfl
  · next h' => simp [h] at h'

theorem actionBlocks_none {text : Chars} (h : opening text = none) :
    actionBlocks .outside text = [] := by
  rw [actionBlocks]
  split
  · next h' => simp [h] at h'
  · rfl

variable (loads : Chars → Except String JsonValue) (strict : Bool)

/-- The result of a turn has the actions of the well-formed blocks, in order, and no others. -/
structure Atomic (u : Unicode) (text userText : Chars) (r : StreamingTurnResult) : Prop where
  modelActions : r.modelActions = (actionBlocks .outside text).flatMap (authorized loads strict)
  actions : r.actions = (actionBlocks .outside text).flatMap (authorized loads strict) ∨
    r.actions = CommandFallback.parseFallbackActions u userText ∨ r.actions = []

theorem selectActions_cases (u : Unicode) (modelActions : List ActionCommand) (userText : Chars)
    (allowActions : Bool) : (selectActions u modelActions userText allowActions).1 = modelActions ∨
      (selectActions u modelActions userText allowActions).1 =
        CommandFallback.parseFallbackActions u userText ∨
      (selectActions u modelActions userText allowActions).1 = [] := by
  rw [selectActions]
  dsimp only
  split_ifs
  · exact .inr (.inr rfl)
  · exact .inr (.inl rfl)
  · exact .inr (.inr rfl)
  · exact .inl rfl
  · exact .inr (.inr rfl)

theorem blocks_atomic_iff (u : Unicode) (maxChunkChars : ℤ) (tokens : List Chars)
    (userText : Chars) (allowActions : Bool) :
    ∃ r spoken, observed loads u maxChunkChars tokens userText allowActions = .ok (r, spoken) ∧
      (Atomic loads strict u tokens.flatten userText r ↔
        ∀ raw ∈ actionBlocks .outside tokens.flatten, RejectsFirst loads strict raw) := by
  refine ⟨_, _, observed_eq .., ?_⟩
  have hmodel : (oneShot loads u tokens.flatten userText allowActions).modelActions =
      (actionBlocks .outside tokens.flatten).flatMap fun raw ↦ (readAction loads raw).actions :=
    readFrom_actions ..
  have hlength : ∀ raw ∈ actionBlocks .outside tokens.flatten,
      (authorized loads strict raw).length ≤ (readAction loads raw).actions.length := by
    intro raw _
    rcases authorized_cases loads strict raw with h | h
    · exact (congrArg List.length h).le
    · rw [h]
      exact Nat.zero_le _
  have hiff := flatMap_eq_iff hlength
  constructor
  · intro h raw hraw
    exact handsOut_iff.mp (hiff.mp (hmodel.symm.trans h.modelActions) raw hraw)
  · intro h
    have hequal := hmodel.trans (hiff.mpr fun raw hraw ↦ handsOut_iff.mpr (h raw hraw))
    refine ⟨hequal, ?_⟩
    rw [← hequal]
    exact selectActions_cases u _ userText allowActions

def halfBadBlock : Chars :=
  "[\x7b\"name\":\"move\",\"arguments\":\x7b\x7d\x7d,\x7b\"name\":5\x7d]".toList

def loadHalfBad (_ : Chars) : Except String JsonValue :=
  .ok (.arr [.obj [("name", .str "move"), ("arguments", .obj [])], .obj [("name", .int 5)]])

def halfBadText : Chars := "<action>".toList ++ halfBadBlock ++ "</action>".toList

theorem opening_halfBad :
    opening halfBadText = some (.action, halfBadBlock ++ "</action>".toList) := by
  decide +kernel

theorem find_halfBad :
    find actionClose (halfBadBlock ++ "</action>".toList) = some halfBadBlock.length := by
  decide +kernel

theorem halfBad_blocks : actionBlocks .outside halfBadText = [halfBadBlock] := by
  rw [actionBlocks_outside opening_halfBad, actionBlocks_action find_halfBad, List.take_left,
    ← List.drop_drop, List.drop_left, actionBlocks_none (by decide)]

theorem halfBad_actions :
    (readFrom loadHalfBad .outside halfBadText).actions = [{ name := "move" }] := by
  rw [readFrom_actions, halfBad_blocks]
  rfl

def plain : Unicode := { lower := id, digit := fun _ ↦ none }

theorem halfBad_selected :
    selectActions plain [{ name := "move" }] "好".toList true = ([{ name := "move" }], "model") := by
  have hnone : CommandFallback.parseFallbackActions plain "好".toList = [] :=
    List.isEmpty_iff.mp (by decide +kernel)
  have hfree : CommandFallback.shouldBlockModelActions plain "好".toList = false := by
    decide +kernel
  rw [selectActions, hnone, hfree]
  rfl

/-- The move before the bad item is authorised. -/
theorem half_bad_block_moves : ∃ r spoken,
    observed loadHalfBad plain 32 ["<action>".toList ++ halfBadBlock, "</action>".toList]
      "好".toList true = .ok (r, spoken) ∧ r.modelActions.map ActionCommand.name = ["move"] ∧
    r.actions.map ActionCommand.name = ["move"] ∧
    ¬ Atomic loadHalfBad false plain halfBadText "好".toList r := by
  have htokens : ["<action>".toList ++ halfBadBlock, "</action>".toList].flatten = halfBadText :=
    congrArg (_ ++ ·) (List.append_nil _)
  have hresult := observed_eq loadHalfBad plain 32
    ["<action>".toList ++ halfBadBlock, "</action>".toList] "好".toList true
  rw [htokens] at hresult
  refine ⟨_, _, hresult, ?_, ?_, fun hatomic ↦ ?_⟩
  · exact congrArg _ halfBad_actions
  · rw [oneShot, halfBad_actions, halfBad_selected]
    rfl
  · have hmodel := halfBad_actions.symm.trans hatomic.modelActions
    rw [halfBad_blocks] at hmodel
    cases hmodel

end EmbodiedAgent.Agent.ActionBlocks
