import Dankong.Runs
import Dankong.Vectors
import Dankong.StateUtils
import Dankong.TrackerGuidance
import Dankong.TrackerControl
import Dankong.TrackerSpeedLimit
import Dankong.ThreadRunner
import Dankong.TrackerStop
import Dankong.Telemetry
import Dankong.Numerals
import Dankong.Json
import Dankong.NodeEvents
import Dankong.Mission
import Dankong.WaypointRequest
import Dankong.FlightEngine
import Dankong.EngineRules
import Dankong.EngineQueue
import Dankong.MissionAccess
import Dankong.ReturnPoint
import Dankong.MissionProgress
import Dankong.MissionEvents
import Dankong.AbandonedPlan
import Dankong.History
import Dankong.Quaternions
import Dankong.LandingDescent
import Dankong.LandingTrajectory
import Dankong.LandingController
import Dankong.BlindDescent
import Dankong.ConfigFile
import Dankong.OrderedJoin
import Dankong.DatumSync
import Dankong.NtripStream
import Dankong.CarCommand
import Dankong.DogStand
import Dankong.Detection
import Dankong.HandleLedger
import Dankong.SpeedLimitTokens
import Dankong.TwoRuns
import Dankong.TrackerCommands
import Dankong.TrackerReplacement
import Dankong.LimitedMotion
import Dankong.TrackerCaps
import Dankong.TakeoffRequests
import Dankong.TrackerLimits
import Dankong.CruiseLimit
import Dankong.StampedBuffer
import Dankong.PoseHistory
import Dankong.AckermannPivot
import Dankong.BinaryRounding
import Dankong.DoubleYaw
import Dankong.PointCommand
import Dankong.MissionRequests
import Dankong.MissionSegments
import Dankong.SharpTurns
import Dankong.ParamRequest
import Dankong.Attitude
import Dankong.BodyVelocity
import Dankong.Setpoints
import Dankong.GpsConversion
import Dankong.SlidingWindow
import Dankong.TagPose
import Dankong.CameraOffset
import Dankong.Ramps
import Dankong.DescentLaw
import Dankong.RabbitMotion
import Dankong.Streaks
import Dankong.StationaryTarget
import Dankong.SingleOutlier
import Dankong.StampedLookup
import Dankong.PoseInterpolation
import Dankong.DogPosture
import Dankong.GimbalBridge
import Dankong.Base64
import Dankong.RtcmRelay
import Dankong.DecimalText
import Dankong.GgaSentence
import Dankong.BasicAuth
import Dankong.Covariance
import Dankong.YawFilter
import Dankong.CtrvFilter
import Dankong.CarSteering
import Dankong.Pursuit
import Dankong.ConfigInheritance
import Dankong.ConfigLayers
import Dankong.ByteWords
import Dankong.UdpPacket
import Dankong.TextSearch
import Dankong.ParsedUrl
import Dankong.PercentText
import Dankong.FormBody
import Dankong.LossyQueue
import Dankong.LogSender
import Dankong.WhileLoops
import Dankong.AngleNormalisers
import Dankong.AngleController
import Dankong.BrakedFeedback
import Dankong.StallChecker
import Dankong.BitFields
import Dankong.VcuFrames
import Dankong.TimedPath
import Dankong.DetectorRuns
import Dankong.TouchdownSight
import Dankong.RequestAnswers
import Dankong.MoveBaseTracker
import Dankong.TreeStack
import Dankong.ParamDocs
import Dankong.ChangeFeed
import Dankong.ModeRequests
import Dankong.ClosedLoop
import Dankong.LandingLoop
import Dankong.FlightOrders
import Dankong.TextLines
import Dankong.CorrectionLink
import Dankong.BagRecorder
