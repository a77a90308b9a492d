import EmbodiedAgent.Library.Cells
import EmbodiedAgent.Library.Json
import EmbodiedAgent.Library.Text

namespace EmbodiedAgent.Agent.UserMemory

open Library

def unknownSpeakerId : String := "unknown"

section Dictionaries

variable {α : Type}

def setItem (key : String) (value : α) : List (String × α) → List (String × α)
  | [] => [(key, value)]
  | item :: rest =>
    if item.1 = key then (key, value) :: rest else item :: setItem key value rest

def popItem (key : String) (items : List (String × α)) : List (String × α) :=
  items.filter fun item ↦ item.1 ≠ key

end Dictionaries

structure SpeakerIdentity where
  speakerId : String := unknownSpeakerId
  enrolled : Bool := false

def SpeakerIdentity.usable (i : SpeakerIdentity) : Bool :=
  i.enrolled && i.speakerId ≠ "" && i.speakerId ≠ unknownSpeakerId

/-- The argument `SpeakerIdentity | str | None`. -/
inductive Identity
  | recognized (identity : SpeakerIdentity)
  | named (name : String)
  | absent

structure Interaction where
  ts : Double
  user : String
  assistant : String
  actions : List Dict
  success : Option Bool

structure Correction where
  ts : Double
  other : Dict

structure UserProfile where
  speakerId : String
  displayName : String := ""
  preferences : Dict := []
  commandCounts : List (String × ℕ) := []
  recentInteractions : List Interaction := []
  corrections : List Correction := []
  updatedAt : Double

structure UserMemoryStore where
  maxRecent : ℕ
  retentionS : Double
  maxRecent_pos : 0 < maxRecent

def UserMemoryStore.create (maxRecent : ℤ) (retentionS : Double) : UserMemoryStore :=
  { maxRecent := max 1 maxRecent.toNat
    retentionS := Double.max 0 retentionS
    maxRecent_pos := Nat.lt_of_lt_of_le Nat.zero_lt_one (Nat.le_max_left _ _) }

abbrev FileName := List Char

abbrev FileSystem := FileName → Option UserProfile

def noFiles : FileSystem := fun _ ↦ none

/-- The characters that `_SAFE_ID_RE` leaves alone. -/
def safeChar (c : Char) : Bool :=
  c.isAlphanum || c = '_' || c = '-' || (0x4e00 ≤ c.toNat && c.toNat ≤ 0x9fff)

def substitute (inRun : Bool) : List Char → List Char
  | [] => []
  | c :: cs =>
    if safeChar c then c :: substitute false cs
    else if inRun then substitute true cs
    else '_' :: substitute true cs

def edge (c : Char) : Bool := c = '.' || c = '_'

def stripEdges (cs : List Char) : List Char :=
  ((cs.dropWhile edge).reverse.dropWhile edge).reverse

def orElse (s t : List Char) : List Char := if s = [] then t else s

def profilePath (speakerId : String) : FileName :=
  let safe := stripEdges (substitute false (orElse speakerId.toList unknownSpeakerId.toList))
  orElse safe unknownSpeakerId.toList ++ ".json".toList

def temporaryPath (path : FileName) : FileName := path ++ ".tmp".toList

def speakerIdOf : Identity → String
  | .recognized identity => if identity.usable then identity.speakerId else unknownSpeakerId
  | .named name => if Text.strip name ≠ "" then Text.strip name else unknownSpeakerId
  | .absent => unknownSpeakerId

inductive UserMemoryError
  | lowConfidenceSpeaker (message : String)

def writableSpeakerId (identity : Identity) : Except UserMemoryError String :=
  let speakerId := speakerIdOf identity
  if speakerId = unknownSpeakerId then
    .error (.lowConfidenceSpeaker
      "low confidence speaker identity; refusing to write personal memory")
  else .ok speakerId

structure Readings where
  created : Double
  pruned : Double
  stamped : Double

def fromDict (raw : UserProfile) (speakerId : String) : UserProfile :=
  { raw with speakerId := if raw.speakerId ≠ "" then raw.speakerId else speakerId }

def restore (content : Option UserProfile) (speakerId : String) (clock : Readings) :
    UserProfile :=
  match content with
  | none => { speakerId := speakerId, updatedAt := clock.created }
  | some raw => fromDict raw speakerId

def loadProfile (files : FileSystem) (speakerId : String) (clock : Readings) : UserProfile :=
  restore (files (profilePath speakerId)) speakerId clock

def saveProfile (files : FileSystem) (profile : UserProfile) : FileSystem :=
  let path := profilePath profile.speakerId
  let temporary := temporaryPath path
  let written := Function.update files temporary (some profile)
  -- `os.replace`
  Function.update (Function.update written path (written temporary)) temporary none

namespace UserMemoryStore

variable (store : UserMemoryStore)

def cutoff (clock : Readings) : Double :=
  if store.retentionS ≤ 0 then clock.pruned else clock.pruned.sub store.retentionS

def pruneExpired (clock : Readings) (profile : UserProfile) : UserProfile × Bool :=
  let recent := profile.recentInteractions.filter fun item ↦ store.cutoff clock ≤ item.ts
  let corrections := profile.corrections.filter fun item ↦ store.cutoff clock ≤ item.ts
  ({ profile with recentInteractions := recent, corrections := corrections },
    recent.length ≠ profile.recentInteractions.length ||
      corrections.length ≠ profile.corrections.length)

end UserMemoryStore

def actionName (render : JsonValue → String) (action : Dict) : String :=
  match action.lookup "name" with
  | none => ""
  | some name => if name.truthy then name.text render else ""

def countActions (render : JsonValue → String) (counts : List (String × ℕ)) (actions : List Dict) :
    List (String × ℕ) :=
  actions.foldl (fun counts action ↦
    let name := actionName render action
    if name ≠ "" then setItem name ((counts.lookup name).getD 0 + 1) counts else counts) counts

inductive Reply
  | profile (profile : UserProfile)
  | cleared
  | summary (text : String)

abbrev Answer := Except UserMemoryError Reply

def updateProfile (change : UserProfile → UserProfile) (files : FileSystem) (identity : Identity)
    (clock : Readings) : FileSystem × Answer :=
  match writableSpeakerId identity with
  | .error error => (files, .error error)
  | .ok speakerId =>
    let profile := change (loadProfile files speakerId clock)
    (saveProfile files profile, .ok (.profile profile))

def named (displayName : String) (clock : Readings) (profile : UserProfile) : UserProfile :=
  { profile with
      displayName :=
        if Text.strip displayName ≠ "" then Text.strip displayName else profile.displayName
      updatedAt := clock.stamped }

def preferring (key : String) (value : JsonValue) (clock : Readings) (profile : UserProfile) :
    UserProfile :=
  { profile with
      preferences := setItem key value profile.preferences
      updatedAt := clock.stamped }

def unpreferring (key : String) (clock : Readings) (profile : UserProfile) : UserProfile :=
  { profile with
      preferences := popItem key profile.preferences
      updatedAt := clock.stamped }

def joined (separator : String) (parts : List String) : String := separator.intercalate parts

def nameLine (profile : UserProfile) (speakerId : String) : String :=
  let name := if profile.displayName ≠ "" then profile.displayName else speakerId
  "当前识别用户：" ++ name ++ "（speaker_id=" ++ speakerId ++ "）。"

def preferenceLines (render : JsonValue → String) (preferences : Dict) : List String :=
  if preferences = [] then []
  else
    let sorted := preferences.mergeSort fun a b ↦ decide (a.1 ≤ b.1)
    ["用户偏好：" ++ joined "；" (sorted.map fun item ↦ item.1 ++ "=" ++ item.2.text render) ++ "。"]

def countLines (counts : List (String × ℕ)) : List String :=
  if counts = [] then []
  else
    let top := (counts.mergeSort fun a b ↦ decide (b.2 ≤ a.2)).take 3
    ["常用动作：" ++ joined "，" (top.map fun item ↦ item.1 ++ "×" ++ toString item.2) ++ "。"]

def summaryOf (render : JsonValue → String) (profile : UserProfile) (speakerId : String)
    (maxChars : ℤ) : String :=
  let parts := nameLine profile speakerId :: preferenceLines render profile.preferences ++
    countLines profile.commandCounts
  String.ofList ((Text.strip (joined "\n" parts)).toList.take maxChars.toNat)

namespace UserMemoryStore

variable (store : UserMemoryStore) (render : JsonValue → String)

def recorded (userText assistantText : String) (actions : List Dict) (success : Option Bool)
    (clock : Readings) (profile : UserProfile) : UserProfile :=
  let profile := (store.pruneExpired clock profile).1
  let interaction : Interaction :=
    { ts := clock.stamped, user := userText, assistant := assistantText, actions := actions,
      success := success }
  let recent := profile.recentInteractions ++ [interaction]
  { profile with
      commandCounts := countActions render profile.commandCounts actions
      recentInteractions := recent.drop (recent.length - store.maxRecent)
      updatedAt := clock.stamped }

def enroll (displayName : String) (files : FileSystem) (identity : Identity) (clock : Readings) :
    FileSystem × Answer := updateProfile (named displayName clock) files identity clock

def setPreference (key : String) (value : JsonValue) (files : FileSystem) (identity : Identity)
    (clock : Readings) : FileSystem × Answer :=
  updateProfile (preferring key value clock) files identity clock

def removePreference (key : String) (files : FileSystem) (identity : Identity)
    (clock : Readings) : FileSystem × Answer :=
  updateProfile (unpreferring key clock) files identity clock

def recordInteraction (userText assistantText : String) (actions : List Dict)
    (success : Option Bool) (files : FileSystem) (identity : Identity) (clock : Readings) :
    FileSystem × Answer :=
  updateProfile (store.recorded render userText assistantText actions success clock) files
    identity clock

def clear (files : FileSystem) (identity : Identity) : FileSystem × Answer :=
  match writableSpeakerId identity with
  | .error error => (files, .error error)
  | .ok speakerId =>
    let path := profilePath speakerId
    (if (files path).isSome then Function.update files path none else files, .ok .cleared)

def readProfile (files : FileSystem) (speakerId : String) (clock : Readings) :
    FileSystem × UserProfile :=
  let (profile, changed) := store.pruneExpired clock (loadProfile files speakerId clock)
  (if changed then saveProfile files profile else files, profile)

def profile (files : FileSystem) (identity : Identity) (clock : Readings) :
    FileSystem × Answer :=
  let (files, profile) := store.readProfile files (speakerIdOf identity) clock
  (files, .ok (.profile profile))

def promptSummary (maxChars : ℤ) (files : FileSystem) (identity : Identity)
    (clock : Readings) : FileSystem × Answer :=
  let speakerId := speakerIdOf identity
  if speakerId = unknownSpeakerId then (files, .ok (.summary ""))
  else
    let (files, profile) := store.readProfile files (speakerIdOf (.named speakerId)) clock
    (files, .ok (.summary (summaryOf render profile speakerId maxChars)))

end UserMemoryStore

inductive Call
  | profile
  | enroll (displayName : String)
  | clear
  | setPreference (key : String) (value : JsonValue)
  | removePreference (key : String)
  | recordInteraction (userText assistantText : String) (actions : List Dict)
      (success : Option Bool)
  | promptSummary (maxChars : ℤ)

structure Operation where
  identity : Identity
  call : Call
  clock : Readings

def Operation.speakerId (op : Operation) : String := speakerIdOf op.identity

def Operation.path (op : Operation) : FileName := profilePath op.speakerId

def step (store : UserMemoryStore) (render : JsonValue → String) (files : FileSystem)
    (op : Operation) : FileSystem × Answer :=
  match op.call with
  | .profile => store.profile files op.identity op.clock
  | .enroll displayName => UserMemoryStore.enroll displayName files op.identity op.clock
  | .clear => UserMemoryStore.clear files op.identity
  | .setPreference key value =>
    UserMemoryStore.setPreference key value files op.identity op.clock
  | .removePreference key => UserMemoryStore.removePreference key files op.identity op.clock
  | .recordInteraction userText assistantText actions success =>
    store.recordInteraction render userText assistantText actions success files op.identity
      op.clock
  | .promptSummary maxChars => store.promptSummary render maxChars files op.identity op.clock

section Record

variable (store : UserMemoryStore) (render : JsonValue → String)

def writeRecord (change : UserProfile → UserProfile) (record : Option UserProfile)
    (op : Operation) : Option UserProfile × Answer :=
  match writableSpeakerId op.identity with
  | .error error => (record, .error error)
  | .ok speakerId =>
    let profile := change (restore record speakerId op.clock)
    (some profile, .ok (.profile profile))

def readRecord (speakerId : String) (record : Option UserProfile) (clock : Readings) :
    Option UserProfile × UserProfile :=
  let (profile, changed) := store.pruneExpired clock (restore record speakerId clock)
  (if changed then some profile else record, profile)

def act (record : Option UserProfile) (op : Operation) : Option UserProfile × Answer :=
  match op.call with
  | .profile =>
    let (record, profile) := readRecord store op.speakerId record op.clock
    (record, .ok (.profile profile))
  | .enroll displayName => writeRecord (named displayName op.clock) record op
  | .clear =>
    match writableSpeakerId op.identity with
    | .error error => (record, .error error)
    | .ok _ => (none, .ok .cleared)
  | .setPreference key value => writeRecord (preferring key value op.clock) record op
  | .removePreference key => writeRecord (unpreferring key op.clock) record op
  | .recordInteraction userText assistantText actions success =>
    writeRecord (store.recorded render userText assistantText actions success op.clock) record op
  | .promptSummary maxChars =>
    if op.speakerId = unknownSpeakerId then (record, .ok (.summary ""))
    else
      let (record, profile) :=
        readRecord store (speakerIdOf (.named op.speakerId)) record op.clock
      (record, .ok (.summary (summaryOf render profile op.speakerId maxChars)))

end Record

section Names

variable {c : Char} {cs ws : List Char} {inRun : Bool}

theorem not_safe_of_isSpace (h : Text.isSpace c = true) : safeChar c = false := by
  have hval : c.val.toNat = c.toNat := rfl
  have hsafeChar : safeChar c = ((((decide ('A'.val ≤ c.val ∧ c.val ≤ 'Z'.val) ||
      (decide ('a'.val ≤ c.val) && decide (c.val ≤ 'z'.val))) ||
      (decide ('0'.val ≤ c.val) && decide (c.val ≤ '9'.val))) || decide (c = '_') ||
      decide (c = '-')) || decide (0x4e00 ≤ c.toNat) && decide (c.toNat ≤ 0x9fff)) := rfl
  simp only [Text.isSpace, decide_eq_true_eq] at h
  by_contra hsafe
  simp only [hsafeChar, UInt32.le_iff_toNat_le, hval, Bool.not_eq_false, Bool.or_eq_true,
    Bool.and_eq_true, decide_eq_true_eq] at hsafe
  change (((((65 ≤ c.toNat ∧ c.toNat ≤ 90) ∨ 97 ≤ c.toNat ∧ c.toNat ≤ 122) ∨
    48 ≤ c.toNat ∧ c.toNat ≤ 57) ∨ c = '_') ∨ c = '-') ∨
    0x4e00 ≤ c.toNat ∧ c.toNat ≤ 0x9fff at hsafe
  rcases hsafe with ((hword | rfl) | rfl) | hchinese
  · omega
  · revert h
    decide
  · revert h
    decide
  · omega

@[simp] theorem edge_underscore : edge '_' = true := rfl

theorem dropWhile_substitute (inRun : Bool) (cs : List Char) :
    (substitute inRun cs).dropWhile edge = (substitute false cs).dropWhile edge := by
  cases cs with
  | nil => rfl
  | cons c cs => cases inRun <;> by_cases hc : safeChar c <;>
      simp [substitute, hc, List.dropWhile_cons]

theorem dropWhile_substitute_cons (hc : safeChar c = false) :
    (substitute inRun (c :: cs)).dropWhile edge = (substitute false cs).dropWhile edge := by
  rw [dropWhile_substitute inRun, ← dropWhile_substitute true cs]
  simp [substitute, hc, List.dropWhile_cons]

theorem dropWhile_substitute_strip (inRun : Bool) (cs : List Char) :
    (substitute inRun cs).dropWhile edge =
      (substitute false (cs.dropWhile Text.isSpace)).dropWhile edge := by
  induction cs generalizing inRun with
  | nil => rfl
  | cons c cs ih =>
    by_cases hc : Text.isSpace c = true
    · rw [dropWhile_substitute_cons (not_safe_of_isSpace hc), ih false,
        List.dropWhile_cons_of_pos hc]
    · rw [List.dropWhile_cons_of_neg hc, dropWhile_substitute]

theorem substitute_append (hws : ∀ c ∈ ws, safeChar c = false) (inRun : Bool) (cs : List Char) :
    substitute inRun (cs ++ ws) = substitute inRun cs ∨
      substitute inRun (cs ++ ws) = substitute inRun cs ++ ['_'] := by
  induction cs generalizing inRun with
  | nil =>
    have htrue : substitute true ws = [] := by
      induction ws with
      | nil => rfl
      | cons c ws ih =>
        have hc := hws c (List.mem_cons_self ..)
        simpa [substitute, hc] using ih fun d hd ↦ hws d (List.mem_cons_of_mem c hd)
    cases ws with
    | nil => exact .inl rfl
    | cons c ws =>
      have hc := hws c (List.mem_cons_self ..)
      cases inRun <;> simp_all [substitute]
  | cons c cs ih =>
    simp only [List.cons_append, substitute]
    split_ifs
    · exact (ih false).imp (congrArg (c :: ·)) (congrArg (c :: ·))
    · exact ih true
    · exact (ih true).imp (congrArg ('_' :: ·)) (congrArg ('_' :: ·))

theorem stripEdges_append_underscore (cs : List Char) :
    stripEdges (cs ++ ['_']) = stripEdges cs := by
  simp only [stripEdges, List.dropWhile_append]
  split_ifs with hempty
  · rw [List.isEmpty_iff.mp hempty]
    rfl
  · simp [List.dropWhile_cons]

theorem stripEdges_substitute_strip (cs : List Char) :
    stripEdges (substitute false (Text.stripChars cs)) = stripEdges (substitute false cs) := by
  rw [Text.stripChars]
  set middle := cs.dropWhile Text.isSpace with hmiddle
  have hsplit : middle = (middle.reverse.dropWhile Text.isSpace).reverse ++
      (middle.reverse.takeWhile Text.isSpace).reverse := by
    rw [← List.reverse_append, List.takeWhile_append_dropWhile, List.reverse_reverse]
  have hunsafe : ∀ c ∈ (middle.reverse.takeWhile Text.isSpace).reverse, safeChar c = false :=
    fun c hc ↦ not_safe_of_isSpace (List.mem_takeWhile_imp (List.mem_reverse.mp hc))
  calc stripEdges (substitute false (middle.reverse.dropWhile Text.isSpace).reverse)
      = stripEdges (substitute false middle) := by
        conv_rhs => rw [hsplit]
        rcases substitute_append hunsafe false (middle.reverse.dropWhile Text.isSpace).reverse
          with h | h
        · rw [h]
        · rw [h, stripEdges_append_underscore]
    _ = stripEdges (substitute false cs) := by
        rw [stripEdges, stripEdges, dropWhile_substitute_strip false cs, ← hmiddle]

theorem profilePath_speakerIdOf (speakerId : String) :
    profilePath (speakerIdOf (.named speakerId)) = profilePath speakerId := by
  have hsame := stripEdges_substitute_strip speakerId.toList
  rw [← Text.toList_strip] at hsame
  by_cases hempty : Text.strip speakerId = ""
  · have hunknown : speakerIdOf (.named speakerId) = unknownSpeakerId := by
      simp [speakerIdOf, hempty]
    rw [hunknown]
    by_cases hnone : speakerId = ""
    · rw [hnone]
      rfl
    · rw [hempty] at hsame
      simp only [profilePath, orElse, String.toList_eq_nil_iff, hnone, if_false, ← hsame]
      rfl
  · have hstripped : speakerIdOf (.named speakerId) = Text.strip speakerId := by
      simp [speakerIdOf, hempty]
    have hnone : speakerId ≠ "" := fun h ↦ hempty (by rw [h, Text.strip]; rfl)
    simp only [hstripped, profilePath, orElse, String.toList_eq_nil_iff, hempty, hnone, if_false,
      hsame]

theorem profilePath_ne_temporary (speakerId : String) (path : FileName) :
    profilePath speakerId ≠ temporaryPath path := by
  intro h
  have hlast := congrArg List.getLast? h
  simp [profilePath, temporaryPath, List.getLast?_append] at hlast

theorem substitute_of_safe (hsafe : ∀ c ∈ cs, safeChar c = true) (inRun : Bool) :
    substitute inRun cs = cs := by
  induction cs generalizing inRun with
  | nil => rfl
  | cons c cs ih =>
    have hc := hsafe c (List.mem_cons_self ..)
    have hcs := ih (fun d hd ↦ hsafe d (List.mem_cons_of_mem c hd)) false
    rw [substitute, if_pos hc, hcs]

theorem dropWhile_of_head (h : ∀ c, cs.head? = some c → edge c = false) :
    cs.dropWhile edge = cs := by
  cases cs with
  | nil => rfl
  | cons c cs => exact List.dropWhile_cons_of_neg (by simp [h c rfl])

structure Clean (speakerId : String) : Prop where
  nonempty : speakerId ≠ ""
  safe : ∀ c ∈ speakerId.toList, safeChar c = true
  front : ∀ c, speakerId.toList.head? = some c → edge c = false
  back : ∀ c, speakerId.toList.getLast? = some c → edge c = false

theorem Clean.profilePath_eq {speakerId : String} (h : Clean speakerId) :
    profilePath speakerId = speakerId.toList ++ ".json".toList := by
  have hback : speakerId.toList.reverse.dropWhile edge = speakerId.toList.reverse := by
    refine dropWhile_of_head fun c hc ↦ h.back c ?_
    rwa [List.head?_reverse] at hc
  have hnonempty : speakerId.toList ≠ [] := fun hnil ↦
    h.nonempty (String.toList_eq_nil_iff.mp hnil)
  simp only [profilePath, orElse, hnonempty, if_false, substitute_of_safe h.safe, stripEdges,
    dropWhile_of_head h.front, hback, List.reverse_reverse]

end Names

def Filed (files : FileSystem) : Prop :=
  ∀ path profile, files path = some profile → path = profilePath profile.speakerId

section Files

variable {store : UserMemoryStore} {render : JsonValue → String} {files : FileSystem}
  {profile raw : UserProfile} {content : Option UserProfile} {speakerId : String}
  {clock : Readings} {op : Operation} {change : UserProfile → UserProfile}

theorem noFiles_filed : Filed noFiles := by
  intro path profile h
  cases h

theorem Filed.no_temporary (hf : Filed files) (path : FileName) :
    files (temporaryPath path) = none := by
  cases hfile : files (temporaryPath path) with
  | none => rfl
  | some profile => exact absurd (hf _ _ hfile).symm (profilePath_ne_temporary _ path)

theorem Filed.update (hf : Filed files) (profile : UserProfile) :
    Filed (Function.update files (profilePath profile.speakerId) (some profile)) := by
  intro path other h
  by_cases hpath : path = profilePath profile.speakerId
  · subst hpath
    rw [Function.update_self] at h
    obtain rfl := Option.some.inj h
    rfl
  · rw [Function.update_of_ne hpath] at h
    exact hf path other h

theorem Filed.remove (hf : Filed files) (path : FileName) :
    Filed (Function.update files path none) := by
  intro path' profile h
  by_cases hpath : path' = path
  · rw [hpath, Function.update_self] at h
    cases h
  · rw [Function.update_of_ne hpath] at h
    exact hf path' profile h

theorem saveProfile_eq (hf : Filed files) (profile : UserProfile) :
    saveProfile files profile =
      Function.update files (profilePath profile.speakerId) (some profile) := by
  have hne : temporaryPath (profilePath profile.speakerId) ≠ profilePath profile.speakerId :=
    fun h ↦ profilePath_ne_temporary _ _ h.symm
  have hnone := hf.no_temporary (profilePath profile.speakerId)
  simp only [saveProfile, Function.update_self]
  rw [Function.update_comm hne, Function.update_idem, Function.update_comm hne.symm]
  congr 1
  rw [← hnone, Function.update_eq_self]

theorem Filed.load (hf : Filed files) (speakerId : String) (clock : Readings) :
    profilePath (loadProfile files speakerId clock).speakerId = profilePath speakerId := by
  cases hfile : files (profilePath speakerId) with
  | none => simp [loadProfile, restore, hfile]
  | some raw =>
    have hpath := hf _ _ hfile
    simp only [loadProfile, restore, hfile, fromDict]
    split_ifs
    · exact hpath.symm
    · rfl

theorem named_speakerId (displayName : String) (clock : Readings) (profile : UserProfile) :
    (named displayName clock profile).speakerId = profile.speakerId := rfl

theorem preferring_speakerId (key : String) (value : JsonValue) (clock : Readings)
    (profile : UserProfile) : (preferring key value clock profile).speakerId = profile.speakerId :=
  rfl

theorem unpreferring_speakerId (key : String) (clock : Readings) (profile : UserProfile) :
    (unpreferring key clock profile).speakerId = profile.speakerId := rfl

theorem pruneExpired_speakerId (store : UserMemoryStore) (clock : Readings)
    (profile : UserProfile) :
    (store.pruneExpired clock profile).1.speakerId = profile.speakerId := rfl

theorem recorded_speakerId (store : UserMemoryStore) (render : JsonValue → String)
    (userText assistantText : String) (actions : List Dict) (success : Option Bool)
    (clock : Readings) (profile : UserProfile) :
    (store.recorded render userText assistantText actions success clock profile).speakerId =
      profile.speakerId := rfl

theorem updateProfile_eq (hf : Filed files) (hkeep : ∀ p, (change p).speakerId = p.speakerId)
    (op : Operation) :
    updateProfile change files op.identity op.clock =
      (Function.update files op.path (writeRecord change (files op.path) op).1,
        (writeRecord change (files op.path) op).2) := by
  by_cases hunknown : speakerIdOf op.identity = unknownSpeakerId
  · simp [updateProfile, writeRecord, writableSpeakerId, hunknown]
  · have hpath := hf.load (speakerIdOf op.identity) op.clock
    rw [← hkeep] at hpath
    simp only [updateProfile, writeRecord, writableSpeakerId, hunknown, if_false]
    rw [saveProfile_eq hf, hkeep, hf.load]
    rfl

theorem readProfile_eq (hf : Filed files) (store : UserMemoryStore) (speakerId : String)
    (clock : Readings) :
    store.readProfile files speakerId clock =
      (Function.update files (profilePath speakerId)
          (readRecord store speakerId (files (profilePath speakerId)) clock).1,
        (readRecord store speakerId (files (profilePath speakerId)) clock).2) := by
  have hsave := saveProfile_eq hf
    (store.pruneExpired clock (loadProfile files speakerId clock)).1
  rw [pruneExpired_speakerId, hf.load] at hsave
  have hsame : restore (files (profilePath speakerId)) speakerId clock =
      loadProfile files speakerId clock := rfl
  simp only [UserMemoryStore.readProfile, readRecord, hsame, hsave]
  by_cases hchanged : (store.pruneExpired clock (loadProfile files speakerId clock)).2 = true
  · simp only [hchanged, if_true]
  · rw [if_neg hchanged, if_neg hchanged, Function.update_eq_self]

theorem clear_eq (files : FileSystem) (op : Operation) (h : op.call = .clear) :
    UserMemoryStore.clear files op.identity =
      (Function.update files op.path (act store render (files op.path) op).1,
        (act store render (files op.path) op).2) := by
  by_cases hunknown : speakerIdOf op.identity = unknownSpeakerId
  · simp [UserMemoryStore.clear, act, h, writableSpeakerId, hunknown]
  · simp only [UserMemoryStore.clear, act, h, writableSpeakerId, hunknown, if_false]
    split_ifs with hsome
    · rfl
    · rw [Option.not_isSome_iff_eq_none] at hsome
      rw [← hsome]
      exact congrArg (·, _) (Function.update_eq_self _ _).symm

theorem step_eq (hf : Filed files) (store : UserMemoryStore) (render : JsonValue → String)
    (op : Operation) :
    step store render files op =
      (Function.update files op.path (act store render (files op.path) op).1,
        (act store render (files op.path) op).2) := by
  cases hcall : op.call with
  | profile =>
    simp only [step, act, hcall, UserMemoryStore.profile, readProfile_eq hf]
    rfl
  | enroll displayName =>
    simp only [step, act, hcall, UserMemoryStore.enroll]
    exact updateProfile_eq hf (named_speakerId displayName op.clock) op
  | clear =>
    simp only [step, hcall]
    exact clear_eq files op hcall
  | setPreference key value =>
    simp only [step, act, hcall, UserMemoryStore.setPreference]
    exact updateProfile_eq hf (preferring_speakerId key value op.clock) op
  | removePreference key =>
    simp only [step, act, hcall, UserMemoryStore.removePreference]
    exact updateProfile_eq hf (unpreferring_speakerId key op.clock) op
  | recordInteraction userText assistantText actions success =>
    simp only [step, act, hcall, UserMemoryStore.recordInteraction]
    exact updateProfile_eq hf
      (recorded_speakerId store render userText assistantText actions success op.clock) op
  | promptSummary maxChars =>
    simp only [step, act, hcall, UserMemoryStore.promptSummary, readProfile_eq hf,
      profilePath_speakerIdOf]
    by_cases hunknown : op.speakerId = unknownSpeakerId
    · have hunknown' : speakerIdOf op.identity = unknownSpeakerId := hunknown
      rw [if_pos hunknown, if_pos hunknown', Function.update_eq_self]
    · have hunknown' : ¬ speakerIdOf op.identity = unknownSpeakerId := hunknown
      rw [if_neg hunknown, if_neg hunknown']
      rfl

theorem Filed.save (hf : Filed files) (profile : UserProfile) :
    Filed (saveProfile files profile) := by
  rw [saveProfile_eq hf]
  exact hf.update profile

theorem Filed.updateProfile (hf : Filed files) (change : UserProfile → UserProfile)
    (identity : Identity) (clock : Readings) :
    Filed (updateProfile change files identity clock).1 := by
  simp only [UserMemory.updateProfile]
  cases writableSpeakerId identity with
  | error error => exact hf
  | ok speakerId => exact hf.save _

theorem Filed.readProfile (hf : Filed files) (store : UserMemoryStore) (speakerId : String)
    (clock : Readings) : Filed (store.readProfile files speakerId clock).1 := by
  simp only [UserMemoryStore.readProfile]
  split_ifs
  · exact hf.save _
  · exact hf

theorem Filed.clear (hf : Filed files) (identity : Identity) :
    Filed (UserMemoryStore.clear files identity).1 := by
  simp only [UserMemoryStore.clear]
  cases writableSpeakerId identity with
  | error error => exact hf
  | ok speakerId =>
    dsimp only
    split_ifs
    · exact hf.remove _
    · exact hf

theorem Filed.step (hf : Filed files) (store : UserMemoryStore) (render : JsonValue → String)
    (op : Operation) : Filed (step store render files op).1 := by
  cases hcall : op.call with
  | profile =>
    simp only [UserMemory.step, hcall]
    exact hf.readProfile store _ _
  | enroll displayName =>
    simp only [UserMemory.step, hcall]
    exact hf.updateProfile _ _ _
  | clear =>
    simp only [UserMemory.step, hcall]
    exact hf.clear _
  | setPreference key value =>
    simp only [UserMemory.step, hcall]
    exact hf.updateProfile _ _ _
  | removePreference key =>
    simp only [UserMemory.step, hcall]
    exact hf.updateProfile _ _ _
  | recordInteraction userText assistantText actions success =>
    simp only [UserMemory.step, hcall]
    exact hf.updateProfile _ _ _
  | promptSummary maxChars =>
    simp only [UserMemory.step, hcall, UserMemoryStore.promptSummary]
    split_ifs
    · exact hf
    · exact hf.readProfile store _ _

theorem step_local (store : UserMemoryStore) (render : JsonValue → String) :
    Cells.Local (step store render) Operation.path (act store render) Filed where
  cell _ op hf := step_eq hf store render op
  invariant _ op hf := hf.step store render op

end Files

/-- A speaker id that a write accepts. -/
def Writable (speakerId : String) : Prop := ∃ identity, writableSpeakerId identity = .ok speakerId

def filesAfter (store : UserMemoryStore) (render : JsonValue → String) (ops : List Operation) :
    FileSystem := History.run (step store render) noFiles ops

def answersFor (store : UserMemoryStore) (render : JsonValue → String) (b : String) :
    FileSystem → List Operation → List Answer :=
  Cells.answers (step store render) fun op ↦ op.speakerId = b

def without (a : String) (ops : List Operation) : List Operation :=
  ops.filter fun op ↦ !decide (op.speakerId = a)

def Isolated (store : UserMemoryStore) (render : JsonValue → String) (a b : String) : Prop :=
  ∀ earlier ops, answersFor store render b (filesAfter store render earlier) ops =
    answersFor store render b (filesAfter store render earlier) (without a ops)

variable {a b : String}

theorem filesAfter_filed (store : UserMemoryStore) (render : JsonValue → String)
    (ops : List Operation) : Filed (filesAfter store render ops) :=
  History.run_preserves (step store render) (fun _ op hf ↦ hf.step store render op)
    noFiles_filed ops

theorem isolated_of_path_ne (store : UserMemoryStore) (render : JsonValue → String)
    (hne : profilePath a ≠ profilePath b) : Isolated store render a b := by
  intro earlier ops
  have hf := filesAfter_filed store render earlier
  refine (step_local store render).answers_filter {profilePath a} ?_ ?_ hf hf (fun _ _ ↦ rfl) ops
  · intro op hseen
    have hb : op.speakerId = b := of_decide_eq_true hseen
    rw [Operation.path, hb]
    exact hne.symm
  · intro op hhidden
    have ha : op.speakerId = a := of_decide_eq_true hhidden
    rw [Operation.path, ha]
    exact Set.mem_singleton _

theorem speakerIdOf_of_writable {identity : Identity}
    (h : writableSpeakerId identity = .ok a) : speakerIdOf identity = a ∧ a ≠ unknownSpeakerId := by
  simp only [writableSpeakerId] at h
  split_ifs at h with hunknown
  obtain rfl := Except.ok.inj h
  exact ⟨rfl, hunknown⟩

def preferencesTold (answers : List Answer) : List Dict :=
  answers.map fun
    | .ok (.profile profile) => profile.preferences
    | _ => []

theorem preferences_told_after (store : UserMemoryStore) (render : JsonValue → String)
    {identity : Identity} {op : Operation} (hop : op.identity = identity)
    (hcall : op.call = .profile) (hb : speakerIdOf identity = b) {files : FileSystem}
    (hf : Filed files) :
    preferencesTold (answersFor store render b files [op]) =
      [((files (profilePath b)).elim [] UserProfile.preferences)] := by
  have hseen : op.speakerId = b := by rw [Operation.speakerId, hop, hb]
  cases hfile : files (profilePath b) with
  | none =>
    simp [answersFor, Cells.answers, preferencesTold, hseen, step_eq hf, act, hcall, readRecord,
      restore, UserMemoryStore.pruneExpired, Operation.path, hfile]
  | some raw =>
    simp [answersFor, Cells.answers, preferencesTold, hseen, step_eq hf, act, hcall, readRecord,
      restore, fromDict, UserMemoryStore.pruneExpired, Operation.path, hfile]

theorem not_isolated_of_path_eq (store : UserMemoryStore) (render : JsonValue → String)
    (ha : Writable a) (hb : Writable b) (hab : a ≠ b) (hpath : profilePath a = profilePath b) :
    ¬ Isolated store render a b := by
  obtain ⟨identityA, hidA⟩ := ha
  obtain ⟨identityB, hidB⟩ := hb
  obtain ⟨hspeakerA, hknown⟩ := speakerIdOf_of_writable hidA
  obtain ⟨hspeakerB, -⟩ := speakerIdOf_of_writable hidB
  let clock : Readings := ⟨0, 0, 0⟩
  let opA : Operation :=
    { identity := identityA, call := .setPreference "movement_speed" (.str "slow"), clock := clock }
  let opB : Operation := { identity := identityB, call := .profile, clock := clock }
  have hseenA : opA.speakerId = a := hspeakerA
  have hseenB : opB.speakerId = b := hspeakerB
  have hstored : ((step store render noFiles opA).1 (profilePath b)).elim []
      UserProfile.preferences = [("movement_speed", .str "slow")] := by
    rw [step_eq noFiles_filed, ← hpath, Operation.path, hseenA]
    simp [act, opA, writeRecord, hidA, restore, noFiles, preferring, setItem]
  intro hiso
  have hruns := congrArg preferencesTold (hiso [] [opA, opB])
  have hwith : answersFor store render b noFiles [opA, opB] =
      answersFor store render b (step store render noFiles opA).1 [opB] := by
    simp [answersFor, Cells.answers, hseenA, hab]
  have hwithout : without a [opA, opB] = [opB] := by
    simp [without, hseenA, hseenB, hab.symm]
  change preferencesTold (answersFor store render b noFiles [opA, opB]) =
    preferencesTold (answersFor store render b noFiles (without a [opA, opB])) at hruns
  rw [hwith, hwithout, preferences_told_after store render rfl rfl hspeakerB
    (noFiles_filed.step store render opA), preferences_told_after store render rfl rfl hspeakerB
    noFiles_filed, hstored] at hruns
  cases hruns

/-- Two speakers are isolated from each other if and only if their ids have different
file names. -/
theorem isolated_iff (store : UserMemoryStore) (render : JsonValue → String) (ha : Writable a)
    (hb : Writable b) (hab : a ≠ b) :
    Isolated store render a b ↔ profilePath a ≠ profilePath b :=
  ⟨fun hiso hpath ↦ not_isolated_of_path_eq store render ha hb hab hpath hiso,
    isolated_of_path_ne store render⟩

theorem isolated_iff_of_recognized : (Isolated (.create 8 (.ofRat 7776000)) (fun _ ↦ "")
    "lcy" "小李" ↔ profilePath "lcy" ≠ profilePath "小李") ∧ profilePath "lcy" ≠ profilePath "小李" :=
  ⟨isolated_iff _ _ ⟨.recognized ⟨"lcy", true⟩, rfl⟩ ⟨.recognized ⟨"小李", true⟩, rfl⟩ (by decide),
    by decide⟩

/-- The blank and the underscore are one character to the file name. -/
theorem blank_and_underscore_share : Writable "user 1" ∧ Writable "user_1" ∧ "user 1" ≠ "user_1" ∧
    ¬ Isolated (.create 8 (.ofRat 7776000)) (fun _ ↦ "") "user 1" "user_1" := by
  have hblank : Writable "user 1" := ⟨.recognized ⟨"user 1", true⟩, rfl⟩
  have hunderscore : Writable "user_1" := ⟨.recognized ⟨"user_1", true⟩, rfl⟩
  exact ⟨hblank, hunderscore, by decide,
    not_isolated_of_path_eq _ _ hblank hunderscore (by decide) (by decide)⟩

/-- Whoever else uses the store, users with clean ids are answered as if it were theirs alone. -/
theorem answers_alone_of_clean (store : UserMemoryStore) (render : JsonValue → String)
    {ops : List Operation} (hops : ∀ op ∈ ops, Clean op.speakerId) (hb : Clean b) :
    answersFor store render b noFiles ops =
      answersFor store render b noFiles (ops.filter fun op ↦ op.speakerId = b) := by
  have halone : answersFor store render b noFiles ops = answersFor store render b noFiles
      (ops.filter fun op ↦ !(!decide (op.path = profilePath b))) := by
    refine (step_local store render).answers_filter {path | path ≠ profilePath b} ?_ ?_
      noFiles_filed noFiles_filed (fun _ _ ↦ rfl) ops
    · intro op hseen hpath
      exact hpath (congrArg profilePath (of_decide_eq_true hseen))
    · intro op hhidden
      simpa using hhidden
  refine halone.trans (congrArg _ (List.filter_congr fun op hop ↦ ?_))
  rw [Bool.not_not, decide_eq_decide, Operation.path]
  refine ⟨fun hpath ↦ ?_, congrArg profilePath⟩
  rw [(hops op hop).profilePath_eq, hb.profilePath_eq] at hpath
  exact String.toList_injective (List.append_cancel_right hpath)

theorem clean_of_all {speakerId : String} (hne : speakerId ≠ "")
    (hall : speakerId.toList.all (fun c ↦ safeChar c && !edge c) = true) : Clean speakerId := by
  simp only [List.all_eq_true, Bool.and_eq_true, Bool.not_eq_true'] at hall
  exact ⟨hne, fun c hc ↦ (hall c hc).1, fun c hc ↦ (hall c (List.mem_of_head? hc)).2,
    fun c hc ↦ (hall c (List.mem_of_getLast? hc)).2⟩

def slowed : List Operation :=
  [⟨.recognized ⟨"lcy", true⟩, .setPreference "movement_speed" (.str "slow"), ⟨0, 0, 0⟩⟩,
    ⟨.recognized ⟨"小李", true⟩, .profile, ⟨0, 0, 0⟩⟩]

theorem slowed_alone : answersFor (.create 8 (.ofRat 7776000)) (fun _ ↦ "") "小李" noFiles slowed =
    answersFor (.create 8 (.ofRat 7776000)) (fun _ ↦ "") "小李" noFiles
      (slowed.filter fun op ↦ op.speakerId = "小李") := by
  have hli : Clean "小李" := clean_of_all (by decide) (by decide)
  refine answers_alone_of_clean _ _ (fun op hop ↦ ?_) hli
  rcases List.mem_pair.mp hop with rfl | rfl
  · exact clean_of_all (by decide) (by decide)
  · exact hli

end EmbodiedAgent.Agent.UserMemory
