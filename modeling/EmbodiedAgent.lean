import EmbodiedAgent.Control.Quiescence
import EmbodiedAgent.Control.LostLease
import EmbodiedAgent.Control.Agreement
import EmbodiedAgent.Control.MotionSafety
import EmbodiedAgent.Action.SchedulerOrder
import EmbodiedAgent.Action.GuardedPublication
import EmbodiedAgent.Action.CancelWatchdog
import EmbodiedAgent.Hardware.MotionDeadline
import EmbodiedAgent.Slam.TrackersAgree
import EmbodiedAgent.Slam.MotionOwners
import EmbodiedAgent.Slam.DrainedLedger
import EmbodiedAgent.Simulation.GoalAccounts
import EmbodiedAgent.Slam.ExplorerCleanup
import EmbodiedAgent.Slam.Nav2MotionRuns
import EmbodiedAgent.Offline.TtsAccounts
import EmbodiedAgent.Agent.VoiceSessions
import EmbodiedAgent.Slam.LoopCommits
import EmbodiedAgent.Slam.SpokenRefusals
import EmbodiedAgent.Slam.MissionMaps
import EmbodiedAgent.Slam.FailedQuiescence
import EmbodiedAgent.Action.OutboxAccounts
import EmbodiedAgent.Simulation.SpeedRamp
import EmbodiedAgent.Slam.SaturationRuns
import EmbodiedAgent.Slam.LoopChains
import EmbodiedAgent.Simulation.GoalTerminals
import EmbodiedAgent.Navigation.EstimatorCovariance
import EmbodiedAgent.Navigation.TrackIdentities
import EmbodiedAgent.Slam.FrontierTotals
import EmbodiedAgent.Agent.LifecycleStop
import EmbodiedAgent.Agent.WaypointRoutes
import EmbodiedAgent.Agent.ActionBlocks
import EmbodiedAgent.Agent.SequenceReports
import EmbodiedAgent.Slam.SampledGoals
import EmbodiedAgent.Agent.TurnAngles
import EmbodiedAgent.Slam.SampledEnds
import EmbodiedAgent.Agent.CommandBatches
import EmbodiedAgent.Audio.VadUtterances
import EmbodiedAgent.Slam.LoopConstraintAdapter
import EmbodiedAgent.Offline.DoubleBuffer
import EmbodiedAgent.Agent.EvidenceTrimming
import EmbodiedAgent.Slam.ScanSolver
import EmbodiedAgent.Slam.AlignedEvidence
import EmbodiedAgent.Slam.WallSearch
import EmbodiedAgent.Slam.PathAgreement
import EmbodiedAgent.Slam.BoundPlans
import EmbodiedAgent.Slam.StageInputs
import EmbodiedAgent.Slam.StageProcesses
import EmbodiedAgent.Slam.QuiescenceHandOff
import EmbodiedAgent.Slam.SessionGoals
import EmbodiedAgent.Audio.EchoReference
import EmbodiedAgent.Slam.LoopCandidates
import EmbodiedAgent.Navigation.ObstacleResidue
import EmbodiedAgent.Slam.VoiceVerdict
import EmbodiedAgent.Keyboard.DeadMan
import EmbodiedAgent.Keyboard.EmergencyPresses
import EmbodiedAgent.Audio.EndpointCommits
import EmbodiedAgent.Slam.GatewayAssociations
import EmbodiedAgent.Slam.FreshReadiness
import EmbodiedAgent.Slam.LoopVerifierNode
