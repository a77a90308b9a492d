import EmbodiedAgent.Library.Arithmetic
import EmbodiedAgent.Library.Brackets
import EmbodiedAgent.Library.Json
import EmbodiedAgent.Library.TimeSeries
import EmbodiedAgent.Slam.ShowcaseSession

namespace EmbodiedAgent.Slam

open Library TimeSeries Brackets

structure AudioMetricSnapshot where
  observedAtNs : ℤ
  speech : Bool
  rms : Double
  peak : ℤ

inductive EndpointEvent
  | speechStarted
  | speechEnded
  deriving DecidableEq

structure EndpointSnapshot where
  observedAtNs : ℤ
  event : EndpointEvent
  provider : Chars

structure WakeSnapshot where
  observedAtNs : ℤ
  kind : ℤ
  provider : Chars
  transcript : Chars
  commandKnown : Bool
  command : Chars

structure AsrFinalSnapshot where
  observedAtNs : ℤ
  text : Chars

def wakeKindWake : ℤ := 1

def wakeKindContinue : ℤ := 2

def acceptedWakeKinds : List ℤ := [wakeKindWake, wakeKindContinue]

def wakeAsrCorrelationNs : ℤ := 5000000000

def voiceEvidenceKind : String := "voice_unknown_world_slam_nav_e2e"

def coreEvidenceKind : String := "unknown_world_slam_nav_dynamic_replan"

def coreRequiredChecks : List String :=
  ["unknown_world_profile", "mission_sequence_present", "mission_completed",
    "mission_outcome_succeeded", "map_saved", "fresh_session_map", "map_quality",
    "frontier_complete", "localization_quality", "sampled_navigation", "nav2_lifecycle_active",
    "dynamic_navigation", "cmd_vel_observed", "robot_motion_observed",
    "final_task_motion_observed", "final_cmd_vel_fresh", "final_cmd_vel_zero"]

def coreRequiredSections : List String :=
  ["map_quality", "frontier", "localization", "sampled_navigation", "dynamic_navigation"]

def positiveInt : Option JsonValue → Bool
  | some (.int n) => decide (0 < n)
  | _ => false

def isTrue : Option JsonValue → Bool
  | some (.bool value) => value
  | _ => false

def strictCoreSchemaV4Passed (render : JsonValue → String) (report : Dict) : Bool :=
  (match report.lookup "schema_version" with
    | some (.int n) => decide (n = 4)
    | _ => false) &&
  (match report.lookup "evidence_kind" with
    | some (.str kind) => decide (kind = coreEvidenceKind)
    | _ => false) &&
  isTrue (report.lookup "passed") &&
  Text.strip (((report.lookup "session_id").map (JsonValue.text render)).getD "") ≠ "" &&
  positiveInt (report.lookup "session_start_ns") &&
  positiveInt (report.lookup "mission_sequence") &&
  (match report.lookup "checks" with
    | some (.obj checks) =>
      coreRequiredChecks.all (fun name ↦ (checks.lookup name).isSome) &&
        checks.all fun check ↦ isTrue (some check.2)
    | _ => false) &&
  coreRequiredSections.all fun name ↦
    match report.lookup name with
    | some (.obj part) => isTrue (part.lookup "passed")
    | _ => false

/-- What was recorded during the window of the trigger. -/
structure VoiceTriggerEvidenceWindow where
  windowStartedAtNs : ℤ
  audio : List AudioMetricSnapshot := []
  endpoints : List EndpointSnapshot := []
  wakeEvents : List WakeSnapshot := []
  asrFinals : List AsrFinalSnapshot := []

structure VoiceChecks where
  realAudioObserved : Bool
  endpointObserved : Bool
  wakeAccepted : Bool
  automaticMissionAsrFinal : Bool
  strictCoreSchemaV4Passed : Bool

def VoiceChecks.all (checks : VoiceChecks) : Bool :=
  checks.realAudioObserved && checks.endpointObserved && checks.wakeAccepted &&
    checks.automaticMissionAsrFinal && checks.strictCoreSchemaV4Passed

structure VoiceEnvelope where
  schemaVersion : ℕ
  evidenceKind : String
  sessionId : String
  agentMode : String
  triggerSource : String
  passed : Bool
  checks : VoiceChecks
  voiceWindow : VoiceTriggerEvidenceWindow
  matchedEndpoint : Option (ℤ × ℤ)
  matchedAutomaticMissionFinal : Option AsrFinalSnapshot
  matchedWakeEvent : Option WakeSnapshot
  coreReport : Dict

namespace VoiceTriggerEvidenceWindow

variable (window : VoiceTriggerEvidenceWindow)

def completeStep (s : List ℤ × List (ℤ × ℤ)) (item : EndpointSnapshot) : List ℤ × List (ℤ × ℤ) :=
  match item.event, s.1 with
  | .speechStarted, starts => (item.observedAtNs :: starts, s.2)
  | .speechEnded, [] => s
  | .speechEnded, start :: starts => (starts, s.2 ++ [(start, item.observedAtNs)])

def completeEndpoints : List (ℤ × ℤ) :=
  ((sortedBy EndpointSnapshot.observedAtNs window.endpoints).foldl completeStep ([], [])).2

def isReal (sample : AudioMetricSnapshot) : Bool :=
  sample.speech && decide (0 < sample.rms) && decide (0 < sample.peak)

def hasRealAudio (endpoint : ℤ × ℤ) : Bool :=
  window.audio.any fun sample ↦
    decide (endpoint.1 ≤ sample.observedAtNs ∧ sample.observedAtNs ≤ endpoint.2) && isReal sample

variable (u : Unicode)

def accepts (endpoint : ℤ × ℤ) (item : AsrFinalSnapshot) (wake : WakeSnapshot) : Bool :=
  acceptedWakeKinds.contains wake.kind && !wake.provider.isEmpty && !wake.transcript.isEmpty &&
    wake.commandKnown && decide (parseSessionCommand u wake.command = some .runAutomaticMission) &&
    decide (endpoint.2 ≤ wake.observedAtNs) &&
    decide (|wake.observedAtNs - item.observedAtNs| ≤ wakeAsrCorrelationNs)

def candidateEndpoint (item : AsrFinalSnapshot) : Option (ℤ × ℤ) :=
  @List.argmax _ _ Int.instLinearOrder.toPreorder Int.decLt Prod.snd
    (window.completeEndpoints.filter fun pair ↦ pair.2 ≤ item.observedAtNs)

def matchingWake (endpoint : ℤ × ℤ) (item : AsrFinalSnapshot) : Option WakeSnapshot :=
  @List.argmin _ _ Int.instLinearOrder.toPreorder Int.decLt
    (fun wake ↦ |wake.observedAtNs - item.observedAtNs|)
    (window.wakeEvents.filter (accepts u endpoint item))

structure Selection where
  automaticFinal : Option AsrFinalSnapshot := none
  endpoint : Option (ℤ × ℤ) := none
  matchedWake : Option WakeSnapshot := none

def select (first : Selection) : List AsrFinalSnapshot → Selection
  | [] => first
  | item :: items =>
    if parseSessionCommand u item.text ≠ some .runAutomaticMission then select first items
    else match window.candidateEndpoint item with
      | none => select first items
      | some candidate =>
        match window.matchingWake u candidate item with
        | none =>
          select (if first.automaticFinal.isNone then ⟨some item, some candidate, none⟩ else first)
            items
        | some wake => ⟨some item, some candidate, some wake⟩

def selection : Selection :=
  window.select u {} (sortedBy AsrFinalSnapshot.observedAtNs window.asrFinals)

/-- The verdict of the envelope, with its checks. -/
def buildEnvelope (render : JsonValue → String) (coreReport : Dict) (agentMode : String) :
    Except String VoiceEnvelope :=
  if agentMode ≠ "offline" ∧ agentMode ≠ "online" then
    .error "agent_mode must be offline or online"
  else
    let selected := window.selection u
    let checks : VoiceChecks :=
      { realAudioObserved := selected.endpoint.any window.hasRealAudio
        endpointObserved := !window.completeEndpoints.isEmpty
        wakeAccepted := selected.matchedWake.isSome
        automaticMissionAsrFinal := selected.automaticFinal.isSome
        strictCoreSchemaV4Passed := Slam.strictCoreSchemaV4Passed render coreReport }
    .ok
      { schemaVersion := 1
        evidenceKind := voiceEvidenceKind
        sessionId := ((coreReport.lookup "session_id").map (JsonValue.text render)).getD ""
        agentMode := agentMode
        triggerSource := "live_voice"
        passed := checks.all
        checks := checks
        voiceWindow := window
        matchedEndpoint := selected.endpoint
        matchedAutomaticMissionFinal := selected.automaticFinal
        matchedWakeEvent := selected.matchedWake
        coreReport := coreReport }

end VoiceTriggerEvidenceWindow

end EmbodiedAgent.Slam
