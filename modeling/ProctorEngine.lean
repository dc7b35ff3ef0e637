import ProctorEngine.Lib.Run
import ProctorEngine.Lib.Table
import ProctorEngine.Lib.Json
import ProctorEngine.Lib.PyJson
import ProctorEngine.Lib.Digits
import ProctorEngine.Lib.UtcTime
import ProctorEngine.Lib.Window
import ProctorEngine.Lib.Segments
import ProctorEngine.Models
import ProctorEngine.Orchestration.StateMachine
import ProctorEngine.Orchestration.TerminationRecords
import ProctorEngine.Websocket.Admission
import ProctorEngine.Orchestration.Terminate
import ProctorEngine.Orchestration.ProctorReviews
import ProctorEngine.Orchestration.ReadCommitted
import ProctorEngine.Inference.Types
import ProctorEngine.Fusion.Types
import ProctorEngine.Fusion.Policy
import ProctorEngine.Fusion.Aggregator
import ProctorEngine.Fusion.Decisions
import ProctorEngine.Websocket.SessionPolicy
import ProctorEngine.Websocket.Client
import ProctorEngine.Websocket.Server
import ProctorEngine.Websocket.Parse
import ProctorEngine.Browser.Envelope
import ProctorEngine.Websocket.MessageLoop
import ProctorEngine.Websocket.LoadedMessage
import ProctorEngine.Browser.WireFormat
import ProctorEngine.Browser.WsClient
import ProctorEngine.Browser.WireAgreement
import ProctorEngine.Browser.RollingBuffer
import ProctorEngine.Browser.CaptureLoop
import ProctorEngine.Orchestration.FlagPersistence
import ProctorEngine.Orchestration.FlagPersistenceWorker
import ProctorEngine.Orchestration.KillSwitchRuns
import ProctorEngine.Orchestration.TerminationAgreement
import ProctorEngine.Evidence.Service
import ProctorEngine.Orchestration.EvidenceService
import ProctorEngine.Preprocessing.Scheduler
import ProctorEngine.Orchestration.FrameDispatcher
import ProctorEngine.Orchestration.Pipeline
import ProctorEngine.Orchestration.Shutdown
import ProctorEngine.Orchestration.SessionIsolation
import ProctorEngine.Orchestration.AccumulatedScore
import ProctorEngine.Orchestration.CrossSessionLinks
import ProctorEngine.Orchestration.Consent
import ProctorEngine.Fusion.Score
import ProctorEngine.Fusion.Gaze
import ProctorEngine.Fusion.GazeWarnings
import ProctorEngine.Fusion.GazeWindow
import ProctorEngine.Fusion.GazeMerging
import ProctorEngine.Fusion.Contributions
import ProctorEngine.Orchestration.AuditTrail
import ProctorEngine.Lib.OneShot
import ProctorEngine.Lib.FirstTaker
import ProctorEngine.Fusion.Firing
import ProctorEngine.Orchestration.EvidenceTrail
import ProctorEngine.Orchestration.DispatcherStart
import ProctorEngine.Lib.Redelivery
import ProctorEngine.Browser.KillSwitch
import ProctorEngine.Browser.KillSwitchAgreement
import ProctorEngine.Lti.State
import ProctorEngine.Lti.Backends
import ProctorEngine.Lti.Routes
import ProctorEngine.Lti.Service
import ProctorEngine.Gateway.SessionGateway
import ProctorEngine.Orchestration.PolicyVersions
import ProctorEngine.Orchestration.IdentityOverrides
import ProctorEngine.Orchestration.Handshake
import ProctorEngine.Lti.SessionToken
import ProctorEngine.Orchestration.Auth
import ProctorEngine.Orchestration.AdminService
import ProctorEngine.Orchestration.HeadRole
import ProctorEngine.Orchestration.Routes
import ProctorEngine.Orchestration.RetiredAdmins
import ProctorEngine.Orchestration.Unauthenticated
import ProctorEngine.Fusion.Confirmation
import ProctorEngine.Fusion.ScorePath
import ProctorEngine.Fusion.Support
import ProctorEngine.Browser.FaceInference
import ProctorEngine.Orchestration.HeavyFrames
import ProctorEngine.Websocket.KillSwitchAcks
import ProctorEngine.Websocket.MessageLoopRuns
import ProctorEngine.Orchestration.FlagTransaction
import ProctorEngine.Evidence.RetentionReport
import ProctorEngine.Orchestration.AlreadySealed
import ProctorEngine.Orchestration.EvidenceLifetime
import ProctorEngine.Browser.CaptureLifecycle
import ProctorEngine.Browser.TerminalConnection
import ProctorEngine.Gateway.SessionRouting
import ProctorEngine.Lti.Jwks
import ProctorEngine.Lib.BoundedQueue
import ProctorEngine.Websocket.EventBuffer
import ProctorEngine.Lib.Eviction
import ProctorEngine.Lib.HexText
import ProctorEngine.Lib.Framing
import ProctorEngine.Uuid
import ProctorEngine.Evidence.StorageKey
import ProctorEngine.Preprocessing.RollingBuffer
import ProctorEngine.Preprocessing.Audio
import ProctorEngine.Lib.Utf8
import ProctorEngine.Lib.UrlEncoded
import ProctorEngine.Lti.Redirects
import ProctorEngine.Browser.Redirect
import ProctorEngine.Gateway.LaunchedPage
import ProctorEngine.Lti.Discovery
import ProctorEngine.Lti.Roles
import ProctorEngine.Lti.Claims
import ProctorEngine.Lib.Simulation
import ProctorEngine.Lti.LaunchFlow
import ProctorEngine.Lti.LaunchTrace
import ProctorEngine.Evidence.Stores
import ProctorEngine.Evidence.Sealing
import ProctorEngine.Lib.Ledger
import ProctorEngine.Orchestration.Ledger
import ProctorEngine.Inference.FaceBox
import ProctorEngine.Inference.Runners
import ProctorEngine.Fusion.Offences
import ProctorEngine.Orchestration.ModelAnswers
import ProctorEngine.Orchestration.Observations
import ProctorEngine.Browser.Boot
import ProctorEngine.Browser.PageWire
import ProctorEngine.Browser.PageLife
import ProctorEngine.Browser.PageCamera
import ProctorEngine.Lib.JsonTree
import ProctorEngine.Websocket.Deliver
import ProctorEngine.Browser.ServerMessages
import ProctorEngine.Orchestration.Outgoing
import ProctorEngine.Orchestration.KillSwitchLine
import ProctorEngine.Orchestration.KillSwitchDelivery
import ProctorEngine.Orchestration.Exam
