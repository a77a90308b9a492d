import EmbodiedAgent.Library.Search

namespace EmbodiedAgent.Slam

open Library Search

inductive SessionCommand
  | saveMap | startNavigation | saveAndStartNavigation | stopSession | runAutomaticMission
  deriving DecidableEq

inductive SessionPhase
  | stopped | startingMapping | mapping | savingMap | mapSaved | switchingToNavigation
  | startingNavigation | navigating | failed | stopping | automaticMapping | automaticNavigating
  | missionCompleted | quiescing
  deriving DecidableEq

/-- `phase.name.lower()` -/
def SessionPhase.text : SessionPhase → String
  | .stopped => "stopped"
  | .startingMapping => "starting_mapping"
  | .mapping => "mapping"
  | .savingMap => "saving_map"
  | .mapSaved => "map_saved"
  | .switchingToNavigation => "switching_to_navigation"
  | .startingNavigation => "starting_navigation"
  | .navigating => "navigating"
  | .failed => "failed"
  | .stopping => "stopping"
  | .automaticMapping => "automatic_mapping"
  | .automaticNavigating => "automatic_navigating"
  | .missionCompleted => "mission_completed"
  | .quiescing => "quiescing"

/-- The state machine of a session is its last snapshot. -/
structure SessionSnapshot where
  phase : SessionPhase := .stopped
  mapSaved : Bool := false
  mapYamlPath : String := ""
  detail : String := ""

namespace SessionSnapshot

variable (s : SessionSnapshot)

def transition (phase : SessionPhase) (detail : String) (mapSaved : Option Bool := none)
    (mapYamlPath : Option String := none) : SessionSnapshot where
  phase := phase
  mapSaved := mapSaved.getD s.mapSaved
  mapYamlPath := mapYamlPath.getD s.mapYamlPath
  detail := detail

def busyPhases : List SessionPhase :=
  [.startingMapping, .savingMap, .switchingToNavigation, .startingNavigation, .stopping,
    .automaticMapping, .automaticNavigating, .quiescing]

def validate (command : SessionCommand) : Bool × String :=
  if s.phase ∈ busyPhases then (false, "session busy in phase=" ++ s.phase.text)
  else if command = .runAutomaticMission ∧ s.phase ≠ .mapping then
    (false, "automatic mission can only start while mapping is ready")
  else if (command = .saveMap ∨ command = .saveAndStartNavigation) ∧ s.phase ≠ .mapping ∧
      s.phase ≠ .mapSaved then
    (false, "map can only be saved while mapping is active")
  else if command = .startNavigation ∧ (s.phase = .navigating ∨ s.phase = .missionCompleted) then
    (true, "navigation already active")
  else if command = .startNavigation ∧ (s.phase ≠ .mapSaved ∨ s.mapSaved = false) then
    (false, "save the map before starting navigation")
  else if command = .stopSession ∧ s.phase = .stopped then (true, "session already stopped")
  else (true, "accepted")

end SessionSnapshot

variable (u : Unicode)

def normalizeSessionText (text : Chars) : Chars :=
  u.lower (text.filter fun c ↦ !("，。！？!?、,；;：:".toList.contains c || Text.isSpace c))

def truncatedAutomaticMissionFinals : List String := ["开始自动"]

def isTruncatedAutomaticMissionText (text : Chars) : Bool :=
  truncatedAutomaticMissionFinals.any fun final ↦ normalizeSessionText u text = final.toList

def isAutomaticMissionCancelText (text : Chars) : Bool :=
  containsAny (normalizeSessionText u text) ["停下", "急停", "停止自动任务", "取消自动任务"]

def automaticMissionPhrases : List String :=
  ["开始自动巡检建图", "开始自动建图", "自动建图并导航", "自动巡检建图", "开始自主建图"]

def saveAndStartPhrases : List String :=
  ["保存地图并开始导航", "保存地图然后开始导航", "保存并开始导航", "存图并开始导航"]

def startNavigationPhrases : List String :=
  ["开始导航", "进入导航模式", "切换到导航", "切换导航模式"]

def parseSessionCommand (text : Chars) : Option SessionCommand :=
  let normalized := normalizeSessionText u text
  if isTruncatedAutomaticMissionText u normalized ||
      containsAny normalized automaticMissionPhrases then some .runAutomaticMission
  else if containsAny normalized saveAndStartPhrases then some .saveAndStartNavigation
  else if containsAny normalized startNavigationPhrases then some .startNavigation
  else if containsAny normalized ["保存地图", "保存当前地图", "存图"] then some .saveMap
  else if containsAny normalized
      ["结束建图演示", "退出建图演示", "停止建图会话", "停止自动任务", "取消自动任务"] then
    some .stopSession
  else none

end EmbodiedAgent.Slam
