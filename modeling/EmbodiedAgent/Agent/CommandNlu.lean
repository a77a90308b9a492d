import EmbodiedAgent.Agent.CommandFallback
import EmbodiedAgent.Library.Matching
import Mathlib.Data.List.Sort

namespace EmbodiedAgent.Agent.CommandNlu

open Library Search Matching NavigationPhrases

inductive Intent
  | moveForward | moveBackward | turnLeft | turnRight | stop | arc | spin | square | demo | wave
  | setLed | setMode | navigateTo | followWaypoints | cancelNavigation
  deriving DecidableEq

/-- The functions of the platform that are no arithmetic. -/
structure MathFunctions where
  sqrt : ℚ → ℚ
  radians : ℚ → ℚ
  degrees : ℚ → ℚ

inductive SlotValue
  | float (x : ℚ)
  | int (n : ℤ)
  | str (text : String)
  | list (texts : List String)
  deriving DecidableEq

abbrev Slots := List (String × SlotValue)

structure Action where
  name : String
  arguments : Slots := []
  priority : Bool := false

section Cleaning

variable (u : Unicode)

/-- `[，。！？!?\s、,.；;：:]` -/
def isPunctuation (c : Char) : Bool := "，。！？!?、,.；;：:".toList.contains c || Text.isSpace c

def connectors : List String := ["然后", "接着", "随后", "再", "并且"]

def clean (text : Chars) : Chars :=
  connectors.foldl (fun cleaned connector ↦ Search.replace connector.toList [] cleaned)
    ((u.lower text).filter fun c ↦ !isPunctuation c)

def chineseDigit (c : Char) : Option ℕ :=
  match c with
  | '零' => some 0
  | '〇' => some 0
  | '一' => some 1
  | '二' => some 2
  | '两' => some 2
  | '三' => some 3
  | '四' => some 4
  | '五' => some 5
  | '六' => some 6
  | '七' => some 7
  | '八' => some 8
  | '九' => some 9
  | _ => none

def isNumeral (c : Char) : Bool := "零〇一二两三四五六七八九十百点".toList.contains c

def isDigit (c : Char) : Bool := (u.digit c).isSome

def numberToken : Pattern Char :=
  either (seq (oneOrMore (isDigit u)) (optionally (seq (one (· = '.')) (oneOrMore (isDigit u)))))
    (either (oneOrMore isNumeral) (one (· = '半')))

def floatOf (token : Chars) : Option ℚ :=
  (CommandFallback.decimal u token).bind fun number ↦
    if number.2 = [] then some number.1 else none

def countUnit (state : ℕ × ℕ) (c : Char) : ℕ × ℕ :=
  match chineseDigit c with
  | some digit => (state.1, digit)
  | none =>
    let digit := if state.2 = 0 then 1 else state.2
    if c = '十' then (state.1 + digit * 10, 0)
    else if c = '百' then (state.1 + digit * 100, 0)
    else state

/-- `_parse_number` of a token without `点`. -/
def parseWhole (token : Chars) : Option ℚ :=
  if token = ['半'] then some (1 / 2)
  else
    match floatOf u token with
    | some value => some value
    | none =>
      if token = [] then none
      else if token.any fun c ↦ (chineseDigit c).isNone && c ≠ '十' && c ≠ '百' then none
      else
        let state := token.foldl countUnit (0, 0)
        some ((state.1 + state.2 : ℕ) : ℚ)

def parseNumber (token : Chars) : Option ℚ :=
  let token := Text.stripChars token
  if '点' ∈ token then
    let whole := token.takeWhile (· ≠ '点')
    let fraction := (token.dropWhile (· ≠ '点')).tail
    match parseWhole u (if whole = [] then ['零'] else whole) with
    | none => none
    | some integer =>
      if fraction = [] ∨ fraction.any fun c ↦ (chineseDigit c).isNone then none
      else
        let digits := fraction.foldl (fun n c ↦ 10 * n + (chineseDigit c).getD 0) 0
        some (⌊integer⌋ + digits / 10 ^ fraction.length)
  else parseWhole u token

def isLetterS (c : Char) : Bool := c = 's' || c = 'S' || c = 'ſ'

def isSecond (c : Char) : Bool := c = '秒' || isLetterS c

def isMetre (c : Char) : Bool := c = '米' || c = 'm' || c = 'M'

def isDegree (c : Char) : Bool := c = '度' || c = '°'

def spaces : Pattern Char := many Text.isSpace

def unit (p : Char → Bool) : Pattern Char := seq spaces (one p)

/-- `每秒|/s` -/
def perSecond : Pattern Char :=
  either (word ['每', '秒']) (seq (word ['/']) (one isLetterS))

def quantity (before after : Pattern Char) : Chars → Option (Hit Char) :=
  capture before (numberToken u) after

def quantityMatch (pattern : Chars → Option (Hit Char)) (text : Chars) : Option (ℚ × (ℕ × ℕ)) :=
  (search pattern text).bind fun found ↦
    (parseNumber u found.value).map fun value ↦ (value, (found.start, found.stop))

def clamp (lower upper value : ℚ) : ℚ := min upper (max lower value)

def durationPattern : Chars → Option (Hit Char) := quantity u (fun l ↦ [l]) (unit isSecond)

def duration (text : Chars) : ℚ :=
  if contains text "半秒" then 1 / 2
  else
    match quantityMatch u (durationPattern u) text with
    | some read => clamp (1 / 10) 10 read.1
    | none => 1

/-- What `_speed` returns. -/
structure SpeedReading where
  value : ℚ
  span : Option (ℕ × ℕ) := none
  isExplicit : Bool

/-- `每秒\s*…\s*(?:米|m)` -/
def eachSecondPattern : Chars → Option (Hit Char) :=
  quantity u (seq (word ['每', '秒']) spaces) (unit isMetre)

/-- `…\s*(?:米|m)\s*(?:每秒|/s)` -/
def ratePattern : Chars → Option (Hit Char) :=
  quantity u (fun l ↦ [l]) (seq (unit isMetre) (seq spaces perSecond))

def spokenSpeed (read : ℚ × (ℕ × ℕ)) : SpeedReading :=
  { value := clamp (1 / 20) (1 / 2) read.1, span := some read.2, isExplicit := true }

def speed (text : Chars) : SpeedReading :=
  match quantityMatch u (eachSecondPattern u) text with
  | some read => spokenSpeed read
  | none =>
    match quantityMatch u (ratePattern u) text with
    | some read => spokenSpeed read
    | none =>
      if contains text "慢速" || contains text "慢一点" then { value := 1 / 10, isExplicit := true }
      else if contains text "快速" || contains text "快一点" then
        { value := 3 / 10, isExplicit := true }
      else { value := 1 / 5, isExplicit := false }

/-- `…\s*(?:米|m)(?!\s*(?:每秒|/s))` -/
def distancePattern : Chars → Option (Hit Char) :=
  quantity u (fun l ↦ [l]) (seq (unit isMetre) (notBefore (seq spaces perSecond)))

def overlaps (span : Option (ℕ × ℕ)) (found : Found Char) : Bool :=
  match span with
  | some span => found.start < span.2 && span.1 < found.stop
  | none => false

def distance (text : Chars) (speedSpan : Option (ℕ × ℕ)) : Option ℚ :=
  (findIter (distancePattern u) text).findSome? fun found ↦
    if overlaps speedSpan found then none
    else (parseNumber u found.value).map (clamp (1 / 20) 5)

def anglePattern : Chars → Option (Hit Char) := quantity u (fun l ↦ [l]) (unit isDegree)

def angle (text : Chars) : Option ℚ :=
  (quantityMatch u (anglePattern u) text).map fun read ↦ clamp 1 360 read.1

end Cleaning

section Actions

def stopAction (priority : Bool) : Action := { name := "stop", priority := priority }

def moveAction (linearX duration : ℚ) : Action :=
  { name := "move", arguments := [("linear_x", .float linearX), ("duration_s", .float duration)] }

def turnAction (angularZ duration : ℚ) : Action :=
  { name := "turn"
    arguments := [("angular_z", .float angularZ), ("duration_s", .float duration)] }

def arcAction : Action :=
  { name := "arc"
    arguments := [("linear_x", .float (12 / 100)), ("angular_z", .float (45 / 100)),
      ("duration_s", .float 6)] }

def setLedAction (color : String) : Action :=
  { name := "set_led", arguments := [("color", .str color)] }

def setModeAction (mode : String) : Action :=
  { name := "set_mode", arguments := [("mode", .str mode)] }

def waveAction (count : ℕ) : Action := { name := "wave", arguments := [("count", .int count)] }

def navigateAction (target : String) : Action :=
  { name := "navigate_to", arguments := [("target", .str target)] }

def routeSlots (waypoints : List String) : Slots :=
  [("waypoints", .list waypoints), ("number_of_loops", .int 1)]

def routeAction (waypoints : List String) : Action :=
  { name := "follow_waypoints", arguments := routeSlots waypoints }

def squareSequence : List Action :=
  (List.replicate 4 [moveAction (18 / 100) (12 / 10), turnAction (6 / 10) (26 / 10)]).flatten

def demoSequence : List Action :=
  [setLedAction "blue", waveAction 2, moveAction (18 / 100) 1, turnAction (8 / 10) 2, arcAction,
    stopAction false]

structure Reading where
  actions : List Action := []
  slots : Slots := []

/-- `round(x, 3)` -/
def roundMillis (x : ℚ) : ℚ := roundHalfEven (x * 1000) / 1000

inductive Heading
  | forward | backward

def Heading.text : Heading → String
  | forward => "forward"
  | backward => "backward"

def Heading.signed : Heading → ℚ → ℚ
  | forward, speed => speed
  | backward, speed => -speed

inductive Side
  | left | right

def Side.text : Side → String
  | left => "left"
  | right => "right"

def Side.signed : Side → ℚ → ℚ
  | left, speed => speed
  | right, speed => -speed

variable (u : Unicode)

def motionSpeed (reading : SpeedReading) (distance : Option ℚ) : ℚ :=
  match distance with
  | some metres =>
    if 10 < metres / reading.value ∧ !reading.isExplicit then min (1 / 2) (metres / 10)
    else reading.value
  | none => reading.value

def motionActionAndSlots (segment : Chars) (direction : Heading) : Reading :=
  let reading := speed u segment
  let metres := distance u segment reading.span
  let speed := motionSpeed reading metres
  let totalDuration :=
    match metres with
    | some metres => metres / speed
    | none => duration u segment
  let segmentCount := max 1 ⌈totalDuration / 10⌉.toNat
  let segmentDuration := roundMillis (totalDuration / segmentCount)
  { actions := List.replicate segmentCount (moveAction (direction.signed speed) segmentDuration)
    slots :=
      match metres with
      | some metres =>
        [("direction", .str direction.text), ("distance_m", .float metres),
          ("speed_mps", .float speed), ("duration_s", .float (roundMillis totalDuration))] ++
          if 1 < segmentCount then [("segment_count", .int segmentCount)] else []
      | none =>
        [("direction", .str direction.text), ("speed_mps", .float speed),
          ("duration_s", .float (roundMillis totalDuration))] }

variable (math : MathFunctions)

def turnReading (direction : Side) (angle angularSpeed duration : ℚ) : Reading :=
  { actions := [turnAction (direction.signed angularSpeed) duration]
    slots := [("direction", .str direction.text), ("angle_deg", .float angle),
      ("angular_speed_rps", .float angularSpeed), ("duration_s", .float duration)] }

def turnActionAndSlots (segment : Chars) (direction : Side) : Reading :=
  let explicitAngle := angle u segment
  let angle := explicitAngle.getD 90
  let angularSpeed := if 10 < math.radians angle / (6 / 10) then 8 / 10 else 6 / 10
  if explicitAngle.isNone && contains segment "秒" then
    let duration := duration u segment
    turnReading direction (roundMillis (math.degrees (angularSpeed * duration))) angularSpeed
      duration
  else if angle = 90 then turnReading direction angle angularSpeed (26 / 10)
  else
    turnReading direction angle angularSpeed (roundMillis (math.radians angle / angularSpeed))

def ledReading (segment : Chars) : Reading :=
  match CommandFallback.colorOf segment with
  | some color => { actions := [setLedAction color], slots := [("color", .str color)] }
  | none => {}

def modeReading (segment : Chars) : Reading :=
  let reading (mode : String) : Reading :=
    { actions := [setModeAction mode], slots := [("mode", .str mode)] }
  if containsAny segment ["沿墙", "贴墙"] then reading "wall_following"
  else if containsAny segment ["自动避障", "避障模式"] then reading "obstacle_avoidance"
  else if containsAny segment ["手动", "退出自动"] then reading "manual"
  else {}

def waypointReading (segment : Chars) : Reading :=
  let named := extractWaypoints u segment
  let waypoints :=
    if named ≠ [] then named else if isPatrolRequest segment then defaultPatrolWaypoints else []
  if 2 ≤ waypoints.length then
    { actions := [routeAction waypoints], slots := routeSlots waypoints }
  else {}

def actionsAndSlotsFor (intent : Intent) (segment : Chars) : Reading :=
  match intent with
  | .moveForward => motionActionAndSlots u segment .forward
  | .moveBackward => motionActionAndSlots u segment .backward
  | .turnLeft => turnActionAndSlots u math segment .left
  | .turnRight => turnActionAndSlots u math segment .right
  | .spin =>
    { actions := [turnAction (8 / 10) (785 / 100)]
      slots := [("direction", .str "left"), ("angle_deg", .float 360),
        ("angular_speed_rps", .float (8 / 10)), ("duration_s", .float (785 / 100))] }
  | .arc => { actions := [arcAction] }
  | .square => { actions := squareSequence }
  | .demo => { actions := demoSequence }
  | .wave =>
    { actions := [waveAction (CommandFallback.count segment)]
      slots := [("count", .float (CommandFallback.count segment))] }
  | .setLed => ledReading segment
  | .setMode => modeReading segment
  | .navigateTo =>
    match resolvePlace u segment with
    | some target => { actions := [navigateAction target], slots := [("place", .str target)] }
    | none => {}
  | .followWaypoints => waypointReading u segment
  | .stop => {}
  | .cancelNavigation => {}

end Actions

section Classifier

def defaultPrototypes : List (Intent × List String) :=
  [(.moveForward, ["向前走一秒", "前进一秒", "往前走", "向前", "前进"]),
    (.moveBackward, ["后退一秒", "向后退", "往后走", "后退", "向后"]),
    (.turnLeft, ["左转九十度", "向左转", "左转", "左转90度"]),
    (.turnRight, ["右转九十度", "向右转", "右转", "右转90度"]),
    (.stop, ["停下", "停止", "急停", "刹车", "别动"]),
    (.arc, ["绕圈", "画圆", "转圈"]),
    (.spin, ["原地转一圈", "旋转一圈", "转一圈"]),
    (.square, ["走正方形", "正方形", "方形巡游"]),
    (.demo, ["演示一下", "做个演示", "展示一下"]),
    (.wave, ["挥手", "挥手三次"]),
    (.setLed, ["开蓝灯", "把灯设为蓝色", "关灯"]),
    (.setMode, ["开启自动避障", "开始沿墙行走", "退出自动模式"]),
    (.navigateTo, ["去门口", "去客厅", "前往书桌", "回到起点", "去封闭区", "去入口", "去办公室",
      "前往会议区", "导航到走廊", "回充电区"]),
    (.followWaypoints, ["开始巡航", "依次去门口书桌起点", "依次去入口办公室会议区充电区",
      "多点巡航"]),
    (.cancelNavigation, ["取消导航", "停止巡航"])]

variable (u : Unicode) (math : MathFunctions)

def ngrams (text : Chars) : List Chars :=
  if text = [] then []
  else if text.length ≤ 2 then [text]
  else ((List.range (text.length - 1)).map fun i ↦ (text.drop i).take 2).dedup

abbrev Counts := List (Chars × ℕ)

def addToken (token : Chars) : Counts → Counts
  | [] => [(token, 1)]
  | entry :: counts =>
    if entry.1 = token then (entry.1, entry.2 + 1) :: counts else entry :: addToken token counts

def vectorize (samples : List Chars) : Counts :=
  samples.foldl (fun counts sample ↦
    (ngrams (clean u sample)).foldl (fun counts token ↦ addToken token counts) counts) []

def countOf (counts : Counts) (token : Chars) : ℕ := (counts.lookup token).getD 0

def norm (counts : Counts) : ℚ :=
  math.sqrt ((counts.map fun entry ↦ entry.2 * entry.2).sum : ℕ)

def cosine (left right : Counts) : ℚ :=
  if left = [] ∨ right = [] then 0
  else
    let dot := (left.map fun entry ↦ entry.2 * countOf right entry.1).sum
    if norm math left ≠ 0 ∧ norm math right ≠ 0 then
      (dot : ℕ) / (norm math left * norm math right)
    else 0

structure Scored where
  intent : Intent
  confidence : ℚ

/-- `max`: the first of the best. -/
def best : Option Scored → Scored → Option Scored
  | none, item => some item
  | some other, item => if other.confidence < item.confidence then some item else some other

def predict (prototypes : List (Intent × List String)) (text : Chars)
    (candidates : List Intent) : Option Scored :=
  let vector := vectorize u [text]
  let names := if candidates = [] then prototypes.map Prod.fst else candidates
  let scored := names.map fun intent ↦
    { intent := intent
      confidence := cosine math vector
        (vectorize u (((prototypes.lookup intent).getD []).map String.toList)) : Scored }
  scored.foldl best none

end Classifier

def anchorWords : List (Intent × List String) :=
  [(.stop, ["停下", "停止", "急停", "刹车", "别动"]),
    (.square, ["走正方形", "正方形", "方形巡游"]),
    (.demo, ["演示一下", "做个演示", "展示一下"]),
    (.spin, ["原地转一圈", "旋转一圈", "转一圈"]),
    (.arc, ["绕圈", "画圆", "转圈"]),
    (.moveForward, ["向前走", "往前走", "向前", "前进"]),
    (.moveBackward, ["向后退", "往后退", "向后", "后退"]),
    (.turnLeft, ["向左转", "左转"]),
    (.turnRight, ["向右转", "右转"]),
    (.wave, ["挥手"]),
    (.setLed, ["灯"]),
    (.setMode, ["自动避障", "避障模式", "沿墙", "贴墙", "手动模式", "手动控制", "退出自动"]),
    (.cancelNavigation, ["取消导航", "停止导航", "退出导航", "取消巡航", "停止巡航"]),
    (.followWaypoints, ["开始巡航", "巡航一圈", "巡逻一圈", "开始巡逻", "多点巡航", "巡逻", "巡航",
      "依次", "按顺序"]),
    (.navigateTo, ["导航到", "前往", "回到", "返回", "去", "到", "回"])]

structure Anchor where
  start : ℕ
  length : ℕ
  intent : Intent

def occurrences (word text : Chars) : List ℕ :=
  (List.range text.length).filter fun i ↦ word.isPrefixOf (text.drop i)

def anchorMatches (normalized : Chars) : List Anchor :=
  anchorWords.flatMap fun group ↦ group.2.flatMap fun word ↦
    (occurrences word.toList normalized).map fun start ↦
      { start := start, length := word.toList.length, intent := group.1 }

def Anchor.before (a b : Anchor) : Prop :=
  a.start < b.start ∨ a.start = b.start ∧ b.length ≤ a.length

instance : DecidableRel Anchor.before := fun a b ↦
  inferInstanceAs (Decidable (a.start < b.start ∨ a.start = b.start ∧ b.length ≤ a.length))

def disjoint : ℕ → List Anchor → List Anchor
  | _, [] => []
  | occupiedUntil, a :: rest =>
    if a.start < occupiedUntil then disjoint occupiedUntil rest
    else a :: disjoint (a.start + a.length) rest

def findAnchors (normalized : Chars) : List Anchor :=
  disjoint 0 ((anchorMatches normalized).insertionSort Anchor.before)

structure ParsedCommand where
  intent : Intent
  spanText : Chars
  actions : List Action
  confidence : ℚ
  slots : Slots := []

structure NluResult where
  sourceText : Chars
  commands : List ParsedCommand := []
  reason : String := ""

/-- The fields of `CommandNLU`. -/
structure Config where
  enabled : Bool := true
  minConfidence : ℚ := 18 / 100
  prototypes : List (Intent × List String) := defaultPrototypes

def questionOrNegation : List String :=
  ["什么", "为什么", "如何", "是否", "能否", "可否", "会不会", "请问", "说明", "原理", "觉得", "意思",
    "怎么样", "多少", "能不能", "可不可以", "吗", "不要", "禁止"]

def unsafeSpeedMarkers : List String := ["高速", "全速", "最快", "最大速度", "冲过去"]

def unsafeCombinationMarkers : List String := ["一边", "同时", "高速"]

def unsafeRotationMarkers : List String := ["旋转", "转"]

def looksLikeTurnAngleWithoutDirection (normalized : Chars) : Bool :=
  !containsAny normalized ["左", "右", "转"] &&
    ["", "我", "向", "往"].any fun front ↦
      ["四十五", "九十", "一百八十", "三百六十", "45", "90", "180", "360"].any fun angle ↦
        ["", "度"].any fun unit ↦ normalized = (front ++ angle ++ unit).toList

def segmentsFrom (normalized : Chars) : List Anchor → List (Intent × Chars)
  | [] => []
  | [a] => [(a.intent, normalized.drop a.start)]
  | a :: b :: rest =>
    (a.intent, (normalized.take b.start).drop a.start) :: segmentsFrom normalized (b :: rest)

def segments (normalized : Chars) : List Anchor → List (Intent × Chars)
  | [] => []
  | a :: rest => segmentsFrom normalized ({ a with start := 0 } :: rest)

variable (u : Unicode) (math : MathFunctions) (nlu : Config)

def commandFor (anchorIntent : Intent) (segment : Chars) : Option ParsedCommand :=
  (predict u math nlu.prototypes segment [anchorIntent]).bind fun scored ↦
    if scored.confidence < nlu.minConfidence then none
    else
      let reading := actionsAndSlotsFor u math scored.intent segment
      if reading.actions = [] then none
      else
        some { intent := scored.intent, spanText := segment, actions := reading.actions,
               confidence := scored.confidence, slots := reading.slots }

def priorityCommand (intent : Intent) (name spanText : String) : ParsedCommand :=
  { intent := intent, spanText := spanText.toList, confidence := 1,
    actions := [{ name := name, priority := true }] }

def routeCommand (normalized : Chars) (waypoints : List String) : ParsedCommand :=
  { intent := .followWaypoints, spanText := normalized, actions := [routeAction waypoints],
    confidence := 1, slots := routeSlots waypoints }

def parseSegments (source normalized : Chars) (anchors : List Anchor) : NluResult :=
  let commands := (segments normalized anchors).filterMap fun segment ↦
    commandFor u math nlu segment.1 segment.2
  if commands ≠ [] then { sourceText := source, commands := commands }
  else if anchors.any fun a ↦ a.intent = .setLed then
    { sourceText := source, reason := "missing_led_color" }
  else { sourceText := source, reason := "low_confidence" }

/-- `parse` from the anchors on. -/
def parseAnchors (source normalized : Chars) (anchors : List Anchor) : NluResult :=
  let wholeWaypoints := extractWaypoints u normalized
  if anchors = [] then
    { sourceText := source
      reason := if looksLikeTurnAngleWithoutDirection normalized then "missing_turn_direction"
        else "no_anchor" }
  else if anchors.any fun a ↦ a.intent = .stop then
    { sourceText := source, commands := [priorityCommand .stop "stop" "停下"] }
  else if (anchors.any fun a ↦ a.intent = .cancelNavigation) || isNavigationCancel normalized then
    { sourceText := source,
      commands := [priorityCommand .cancelNavigation "cancel_navigation" "取消导航"] }
  else if isWaypointSequenceRequest source && 2 ≤ wholeWaypoints.length ||
      isMultiStopRouteRequest source && 3 ≤ wholeWaypoints.length then
    { sourceText := source, commands := [routeCommand normalized wholeWaypoints] }
  else if isPatrolRequest normalized then
    { sourceText := source
      commands := [routeCommand normalized
        (if wholeWaypoints = [] then defaultPatrolWaypoints else wholeWaypoints)] }
  else parseSegments u math nlu source normalized anchors

def parse (text : Chars) : NluResult :=
  let source := Text.stripChars text
  let normalized := clean u source
  if !nlu.enabled || normalized = [] then
    { sourceText := source, reason := "disabled_or_empty" }
  else if containsAny normalized questionOrNegation then
    { sourceText := source, reason := "blocked_semantic" }
  else if containsAny normalized unsafeSpeedMarkers then
    { sourceText := source, reason := "blocked_unsafe_speed" }
  else if containsAny normalized unsafeCombinationMarkers &&
      containsAny normalized unsafeRotationMarkers then
    { sourceText := source, reason := "blocked_unsafe_combination" }
  else parseAnchors u math nlu source normalized (findAnchors normalized)

end EmbodiedAgent.Agent.CommandNlu
