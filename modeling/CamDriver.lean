import CamDriver.Lib.Machine
import CamDriver.Lib.FifoMap
import CamDriver.Lib.Bytes
import CamDriver.Lib.Stream
import CamDriver.Lib.Csv
import CamDriver.Lib.Grid
import CamDriver.Timestamps
import CamDriver.DropStats
import CamDriver.Pts
import CamDriver.Session
import CamDriver.Pipeline
import CamDriver.SidecarCsv
import CamDriver.Sidecar
import CamDriver.Playback
import CamDriver.Replay
import CamDriver.ReplayRestart
import CamDriver.ReplayHold
import CamDriver.PcapIo
import CamDriver.PcapFile
import CamDriver.NgFile
import CamDriver.Uvc.Header
import CamDriver.Uvc.Assembler
import CamDriver.Uvc.RoundTrip
import CamDriver.Uvc.Sound
import CamDriver.Uvc.Usbmon
import CamDriver.Uvc.Bulk
import CamDriver.Uvc.BulkCuts
import CamDriver.Uvc.Extractor
import CamDriver.Uvc.Wire
import CamDriver.Uvc.CaptureSound
import CamDriver.Uvc.Timing
import CamDriver.PcapFeed
import CamDriver.PcapOrder
import CamDriver.PcapRestart
import CamDriver.ReplayOrder
import CamDriver.Pacer
import CamDriver.PcapPace
import CamDriver.PaceLaw
import CamDriver.ReplayPace
import CamDriver.RestartPace
import CamDriver.PlaybackRequest
import CamDriver.Text
import CamDriver.BayerTile
import CamDriver.Formats
import CamDriver.RecordedMosaic
import CamDriver.Keyframe
import CamDriver.StreamCopy
import CamDriver.Closing
import CamDriver.ClosingInv
import CamDriver.CloseProtocol
import CamDriver.LossAttestation
import CamDriver.Lifecycle
import CamDriver.LifecycleAgree
import CamDriver.FailingClose
import CamDriver.StopForget
import CamDriver.ExpectedSettings
import CamDriver.RecordingSettings
import CamDriver.SettingsRevision
import CamDriver.Transport
import CamDriver.HeaderReaders
import CamDriver.TransportPts
import CamDriver.Reconnect
import CamDriver.HealthThread
import CamDriver.HealthReport
import CamDriver.HealthMonitor
import CamDriver.HealthStale
import CamDriver.SampleAge
import CamDriver.CaptureErrors
import CamDriver.Uvc.ByteOrder
import CamDriver.GateRace
import CamDriver.GstStamps
import CamDriver.HoldFinish
import CamDriver.Uvc.Probe
import CamDriver.Uvc.ProbeFinds
import CamDriver.ReplayTimeline
import CamDriver.ReplayCut
import CamDriver.ReplayDuration
import CamDriver.TimelinePlayback
import CamDriver.TimelineKept
import CamDriver.Lib.PosixPath
import CamDriver.Lib.Glob
import CamDriver.SessionFiles
import CamDriver.SessionFilesApart
import CamDriver.ScalePlan
import CamDriver.KeyframeFraming
import CamDriver.Lib.Framing
import CamDriver.BosonFraming
import CamDriver.BosonResync
import CamDriver.Lib.Rounding
import CamDriver.H264Level
import CamDriver.Uvc.FrameTime
import CamDriver.Lib.Effects
import CamDriver.GenicamPoll
import CamDriver.GenicamOneDevice
import CamDriver.BosonPort
import CamDriver.BosonPoll
import CamDriver.BosonOwnReply
import CamDriver.Lib.Binary64
import CamDriver.PlaybackNumbers
import CamDriver.PlaybackSpeed
import CamDriver.PublishThrottle
import CamDriver.FrameLoss
import CamDriver.Lib.Extremes
import CamDriver.HealthWindow
import CamDriver.GigeImage
import CamDriver.YuvToRgb
import CamDriver.Lib.Budget
import CamDriver.Supervisor
import CamDriver.SupervisorRun
import CamDriver.SupervisorPace
import CamDriver.SupervisorStop
import CamDriver.Lib.Announce
import CamDriver.Presence
import CamDriver.ControlPlane
import CamDriver.StatePublished
import CamDriver.RtspClock
import CamDriver.ShmInput
import CamDriver.Ros2Source
import CamDriver.Ros2ToCore
import CamDriver.Lib.Shell
import CamDriver.Lib.Climb
import CamDriver.SensorEnv
import CamDriver.HeaderPump
import CamDriver.StreamDiscovery
import CamDriver.GigeSource
import CamDriver.Ros2Relay
import CamDriver.RosBridges
import CamDriver.BridgeStop
