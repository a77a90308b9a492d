import EmbodiedAgent.Library.Json
import EmbodiedAgent.Library.Search

namespace EmbodiedAgent.Agent

open Library Search

structure ActionCommand where
  name : String
  arguments : Dict := []
  requestId : String := ""
  priority : Bool := false

namespace NavigationPhrases

variable (u : Unicode)

def placeAliases : List (String × List String) :=
  [("home", ["起点", "原点", "回家", "回到起点", "返回起点", "回起点", "出发点", "home"]),
    ("door", ["门口", "门边", "门", "door"]),
    ("desk", ["桌子", "书桌", "桌子旁", "办公桌", "desk"]),
    ("living_room", ["客厅", "大厅", "livingroom"]),
    ("kitchen", ["厨房", "kitchen"]),
    ("entrance", ["入口", "玄关", "entrance"]),
    ("office", ["办公室", "办公区", "office"]),
    ("meeting_room", ["会议区", "会议室", "meetingroom"]),
    ("hallway", ["走廊", "过道", "hallway"]),
    ("charging_station", ["充电区", "充电桩", "充电站", "charger"]),
    ("unreachable_zone", ["封闭区", "不可达区", "禁区", "unreachable"]),
    ("waypoint_a", ["a点", "A点", "一号点", "1号点"]),
    ("waypoint_b", ["b点", "B点", "二号点", "2号点"]),
    ("waypoint_c", ["c点", "C点", "三号点", "3号点"])]

def defaultPatrolWaypoints : List String := ["door", "desk", "home"]

def normalizePlaceText (text : Chars) : Chars :=
  text.filter fun c ↦ !("，。！？!?、,.；;：:".toList.contains c || Text.isSpace c)

def findAlias (normalized : Chars) (spelling : String) : Option ℕ :=
  find (u.lower spelling.toList) normalized

def resolvePlace (text : Chars) : Option String :=
  let normalized := u.lower (normalizePlaceText text)
  (placeAliases.find? fun place ↦
    place.2.any fun spelling ↦ (findAlias u normalized spelling).isSome).map Prod.fst

def compress : List String → List String
  | [] => []
  | [place] => [place]
  | place :: next :: rest =>
    if place = next then compress (next :: rest) else place :: compress (next :: rest)

def extractWaypoints (text : Chars) : List String :=
  let normalized := u.lower (normalizePlaceText text)
  let found := placeAliases.filterMap fun place ↦
    (place.2.findSome? (findAlias u normalized)).map fun index ↦ (index, place.1)
  compress ((found.mergeSort fun a b ↦ decide (a.1 ≤ b.1)).map Prod.snd)

def isNavigationCancel (text : Chars) : Bool :=
  containsAny (normalizePlaceText text) ["取消导航", "停止导航", "退出导航", "取消巡航", "停止巡航"]

def isPatrolRequest (text : Chars) : Bool :=
  containsAny (normalizePlaceText text)
    ["开始巡航", "巡航一圈", "巡逻一圈", "开始巡逻", "多点巡航", "巡逻", "巡航"]

def isWaypointSequenceRequest (text : Chars) : Bool :=
  containsAny (normalizePlaceText text) ["依次", "按顺序", "逐个", "逐一"] ||
    isPatrolRequest (normalizePlaceText text)

def isMultiStopRouteRequest (text : Chars) : Bool :=
  contains (normalizePlaceText text) "最后" &&
    containsAny (normalizePlaceText text) ["先", "再", "然后", "接着", "随后"]

def isNavigationRequest (text : Chars) : Bool :=
  containsAny (normalizePlaceText text) ["去", "到", "前往", "导航到", "回到", "返回"]

end NavigationPhrases

namespace CommandFallback

open NavigationPhrases

variable (u : Unicode)

def chineseNumber (c : Char) : Option ℕ :=
  match c with
  | '一' => some 1
  | '二' => some 2
  | '两' => some 2
  | '三' => some 3
  | '四' => some 4
  | '五' => some 5
  | _ => none

def search {α : Type} (pattern : Chars → Option α) : Chars → Option α
  | [] => pattern []
  | c :: cs => (pattern (c :: cs)).or (search pattern cs)

def digitsValue (digits : Chars) : ℕ :=
  digits.foldl (fun n c ↦ 10 * n + (u.digit c).getD 0) 0

def isDigit (c : Char) : Bool := (u.digit c).isSome

def decimal (text : Chars) : Option (ℚ × Chars) :=
  let whole := text.takeWhile (isDigit u)
  let rest := text.dropWhile (isDigit u)
  if whole = [] then none
  else
    match rest with
    | '.' :: more =>
      let fraction := more.takeWhile (isDigit u)
      if fraction = [] then some (digitsValue u whole, rest)
      else some (digitsValue u whole + digitsValue u fraction / 10 ^ fraction.length,
        more.dropWhile (isDigit u))
    | _ => some (digitsValue u whole, rest)

def isSecond (c : Char) : Bool := c = '秒' || c = 's' || c = 'S' || c = 'ſ'

def decimalSeconds (text : Chars) : Option ℚ :=
  (decimal u text).bind fun number ↦
    match number.2.dropWhile Text.isSpace with
    | c :: _ => if isSecond c then some number.1 else none
    | [] => none

def chineseBefore (unit : Char) : Chars → Option ℕ
  | c :: d :: _ => if d = unit then chineseNumber c else none
  | _ => none

/-- `([1-5])\s*次` -/
def digitTimes : Chars → Option ℕ
  | c :: cs =>
    if '1' ≤ c ∧ c ≤ '5' ∧ (cs.dropWhile Text.isSpace).head? = some '次' then
      some (c.toNat - '0'.toNat)
    else none
  | [] => none

def duration (text : Chars) (default : ℚ) : Double :=
  if contains text "半秒" then .ofRat (1 / 2)
  else
    match search (decimalSeconds u) text with
    | some value => Double.min (.ofRat 10) (Double.max (.ofRat (1 / 10)) (.ofRat value))
    | none =>
      match search (chineseBefore '秒') text with
      | some value => .ofRat value
      | none => .ofRat default

def count (text : Chars) : ℕ :=
  ((search digitTimes text).or (search (chineseBefore '次') text)).getD 1

def move (linearX : ℚ) (duration : Double) : ActionCommand :=
  { name := "move"
    arguments := [("linear_x", .float (.ofRat linearX)), ("duration_s", .float duration)] }

def turn (angularZ : ℚ) (duration : Double) : ActionCommand :=
  { name := "turn"
    arguments := [("angular_z", .float (.ofRat angularZ)), ("duration_s", .float duration)] }

def arc : ActionCommand :=
  { name := "arc"
    arguments := [("linear_x", .float (.ofRat (12 / 100))),
      ("angular_z", .float (.ofRat (45 / 100))), ("duration_s", .float (.ofRat 6))] }

def wave (count : ℕ) : ActionCommand :=
  { name := "wave", arguments := [("count", .int count)] }

def setLed (color : String) : ActionCommand :=
  { name := "set_led", arguments := [("color", .str color)] }

def setMode (mode : String) : ActionCommand :=
  { name := "set_mode", arguments := [("mode", .str mode)] }

def stop (priority : Bool) : ActionCommand := { name := "stop", priority := priority }

def cancelNavigation : ActionCommand := { name := "cancel_navigation", priority := true }

def followWaypoints (waypoints : List String) : ActionCommand :=
  { name := "follow_waypoints"
    arguments := [("waypoints", .arr (waypoints.map .str)), ("number_of_loops", .int 1)] }

def navigateTo (target : String) : ActionCommand :=
  { name := "navigate_to", arguments := [("target", .str target)] }

def squareSequence : List ActionCommand :=
  (List.replicate 4 [move (18 / 100) (.ofRat (12 / 10)),
    turn (6 / 10) (.ofRat (26 / 10))]).flatten

def demoSequence : List ActionCommand :=
  [setLed "blue", wave 2, move (18 / 100) (.ofRat 1), turn (8 / 10) (.ofRat 2), arc, stop false]

/-- `re.sub(r"[，。！？!?\s]", "", text.lower())` -/
def normalize (text : Chars) : Chars :=
  (u.lower text).filter fun c ↦ !("，。！？!?".toList.contains c || Text.isSpace c)

def questionMarkers : List String :=
  ["什么", "为什么", "如何", "觉得", "意思", "怎么样", "多少", "能不能", "可不可以", "吗"]

def negationMarkers : List String := ["不要", "别", "禁止"]

def unsafeSpeedMarkers : List String := ["高速", "全速", "最快", "最大速度", "冲过去"]

def shouldBlockModelActions (text : Chars) : Bool :=
  let normalized := normalize u text
  if containsAny normalized questionMarkers then true
  else if containsAny normalized negationMarkers then true
  else if containsAny normalized unsafeSpeedMarkers then true
  else
    (contains normalized "一边" || contains normalized "同时" || contains normalized "高速") &&
      (contains normalized "旋转" || contains normalized "转")

/-- `挥.*手` -/
def waves : Chars → Bool
  | [] => false
  | c :: cs => (c = '挥' && (cs.takeWhile (· ≠ '\n')).contains '手') || waves cs

def colors : List (String × String) :=
  [("红", "red"), ("绿", "green"), ("蓝", "blue"), ("黄", "yellow"), ("白", "white"),
    ("关闭", "off"), ("关", "off")]

def colorOf (text : Chars) : Option String :=
  (colors.find? fun color ↦ contains text color.1).map Prod.snd

def turnDuration (normalized : Chars) : Double :=
  if contains normalized "九十度" || contains normalized "90度" || !contains normalized "秒" then
    .ofRat (26 / 10)
  else duration u normalized 1

def parsePrimitive (normalized : Chars) : List ActionCommand :=
  if containsAny normalized ["停止", "停下", "急停"] then [stop true]
  else if containsAny normalized ["原地转一圈", "旋转一圈", "转一圈"] then
    [turn (8 / 10) (.ofRat (785 / 100))]
  else if containsAny normalized ["绕圈", "画圆", "转圈"] then [arc]
  else if containsAny normalized ["向前", "前进"] then
    [move (2 / 10) (duration u normalized 1)]
  else if containsAny normalized ["后退", "向后"] then
    [move (-(2 / 10)) (duration u normalized 1)]
  else if containsAny normalized ["左转", "向左转"] then [turn (6 / 10) (turnDuration u normalized)]
  else if containsAny normalized ["右转", "向右转"] then
    [turn (-(6 / 10)) (turnDuration u normalized)]
  else if waves normalized then [wave (count normalized)]
  else if contains normalized "灯" then
    match colorOf normalized with
    | some color => [setLed color]
    | none => []
  else []

def parseNavigation (text normalized : Chars) : Option (List ActionCommand) :=
  if isNavigationCancel normalized then some [cancelNavigation]
  else if isPatrolRequest normalized then
    let waypoints := extractWaypoints u normalized
    some [followWaypoints (if waypoints = [] then defaultPatrolWaypoints else waypoints)]
  else if (isWaypointSequenceRequest text || isMultiStopRouteRequest text) &&
      2 ≤ (extractWaypoints u normalized).length then
    some [followWaypoints (extractWaypoints u normalized)]
  else if isNavigationRequest normalized then
    (resolvePlace u normalized).map fun target ↦ [navigateTo target]
  else none

def parseFallbackActions (text : Chars) : List ActionCommand :=
  let normalized := normalize u text
  if containsAny normalized ["走正方形", "正方形", "方形巡游"] then squareSequence
  else if containsAny normalized ["演示一下", "做个演示", "展示一下"] then demoSequence
  else if containsAny normalized ["退出自动", "关闭自动", "停止自动"] then [setMode "manual"]
  else if containsAny normalized ["手动模式", "手动控制"] then [setMode "manual"]
  else if containsAny normalized ["自动避障", "避障模式"] then [setMode "obstacle_avoidance"]
  else if containsAny normalized ["沿墙", "贴墙"] then [setMode "wall_following"]
  else if containsAny normalized ["别动", "不要动"] then [stop true]
  else if shouldBlockModelActions u normalized then []
  else (parseNavigation u text normalized).getD (parsePrimitive u normalized)

end CommandFallback

end EmbodiedAgent.Agent
