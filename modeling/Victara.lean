import Victara.Lib.Visit
import Victara.Lib.StepSystem
import Victara.Utils.LinkedList
import Victara.Agps.Subscriber
import Victara.Agps.Machine
import Victara.Agps.Sends
import Victara.Agps.Effect
import Victara.Agps.Invariant
import Victara.Agps.Subscription
import Victara.Agps.DataConn
import Victara.Agps.Notify
import Victara.Agps.Framework
import Victara.Agps.Restart
import Victara.Sync.Model
import Victara.Sync.Moves
import Victara.Sync.Answered
import Victara.Sync.OneEach
import Victara.Sync.Modem
import Victara.Ni.Model
import Victara.Ni.Moves
import Victara.Ni.Belongs
import Victara.Agps.Emits
import Victara.Lib.History
import Victara.Agps.DSEffect
import Victara.Agps.DSPending
import Victara.Agps.SuplEs
import Victara.Agps.DSFallback
import Victara.Agps.DSClosed
import Victara.Lib.Mask
import Victara.LocApi.LocApiV02
import Victara.Engine.Model
import Victara.Engine.AidingData
import Victara.Engine.Session
import Victara.Engine.Resume
import Victara.Engine.Mute
import Victara.Engine.Registered
import Victara.LocApi.LocApiBase
import Victara.LocApi.Follows
import Victara.Lib.Ledger
import Victara.Ni.Heard
import Victara.Ni.Payload
import Victara.Lib.Linked
import Victara.Utils.ListState
import Victara.Utils.ListRefines
import Victara.Utils.MsgQ
import Victara.Dmn.GlueMsg
import Victara.Dmn.Framing
import Victara.Dmn.ThreadHelper
import Victara.Utils.LocTimer
import Victara.Sync.Slots
import Victara.Engine.Config
import Victara.Engine.NmeaText
import Victara.Engine.Server
import Victara.Engine.Nmea
import Victara.Lib.Chunks
import Victara.LocApi.Xtra
import Victara.ChargeOnly.Alarm
import Victara.ChargeOnly.Screen
import Victara.ChargeOnly.Main
import Victara.Lib.Tally
import Victara.NxActions.IrGesture
import Victara.Camera.Wrapper
import Victara.DsApi.OpenCall
import Victara.Engine.ConfBytes
import Victara.Engine.SingleShot
import Victara.LocApi.AdapterTable
import Victara.LocApi.SupportMsgs
import Victara.Agps.Partition
import Victara.Engine.Started
import Victara.LocApi.ReportSv
import Victara.Agps.BitIdentity
import Victara.LocApi.XtraReports
import Victara.Agps.DSRetries
import Victara.Agps.Store
import Victara.Agps.StoreSafety
import Victara.Agps.ReleaseATL
import Victara.Lib.Buffer
import Victara.Lib.Hex
import Victara.LocApi.NiText
import Victara.Engine.NmeaChecksum
import Victara.Engine.NmeaGsv
import Victara.Engine.NmeaPos
import Victara.Engine.NmeaFields
import Victara.Utils.ConfLines
import Victara.Utils.TrimSpace
import Victara.ChargeOnly.Events
import Victara.Dmn.MsgFlush
import Victara.Lib.Matcher
import Victara.ChargeOnly.LaunchSequence
import Victara.ChargeOnly.Rle
import Victara.Engine.XtraServer
import Victara.Utils.TimerDeadline
import Victara.LibLight.Lights
import Victara.NxActions.IrRecovery
import Victara.NxActions.Silencers
import Victara.Lib.Cooldown
import Victara.NxActions.DozePulse
import Victara.NxActions.ServiceVotes
import Victara.LocApi.EventPath
import Victara.ChargeOnly.Draw
import Victara.ChargeOnly.Picture
import Victara.ChargeOnly.Animation
import Victara.Agps.Answers
import Victara.DsApi.DataCall
import Victara.Dmn.ApiServer
import Victara.Engine.Target
