import DoorSwitchSvr.Lib.Transition
import DoorSwitchSvr.Command
import DoorSwitchSvr.Lib.Framing
import DoorSwitchSvr.Lib.OrdMap
import DoorSwitchSvr.RelayBoard
import DoorSwitchSvr.ChannelController
import DoorSwitchSvr.DoorState
import DoorSwitchSvr.Connection
import DoorSwitchSvr.Reconnect
import DoorSwitchSvr.Handler
import DoorSwitchSvr.Engine
import DoorSwitchSvr.Routing
import DoorSwitchSvr.Isolation
import DoorSwitchSvr.ChannelNumbers
import DoorSwitchSvr.Delivery
import DoorSwitchSvr.Shutdown
import DoorSwitchSvr.ReplyStream
import DoorSwitchSvr.Lib.Wire
import DoorSwitchSvr.Outage
import DoorSwitchSvr.RealWait
import DoorSwitchSvr.SharedSocket
import DoorSwitchSvr.Joined
import DoorSwitchSvr.Silence
import DoorSwitchSvr.Stopping
import DoorSwitchSvr.ReplyDeadline
import DoorSwitchSvr.StaleReport
import DoorSwitchSvr.Clock
import DoorSwitchSvr.Lib.Signal
import DoorSwitchSvr.Windows
import DoorSwitchSvr.Service
import DoorSwitchSvr.UnionOfWindows
import DoorSwitchSvr.BusyPeriods
import DoorSwitchSvr.Acceptance
import DoorSwitchSvr.Backoff
import DoorSwitchSvr.TimerPool
import DoorSwitchSvr.Document
import DoorSwitchSvr.SwitchSetting
import DoorSwitchSvr.Exceptions
import DoorSwitchSvr.DeadlineWaits
import DoorSwitchSvr.Lib.Projection
import DoorSwitchSvr.WorkerRun
import DoorSwitchSvr.SwitchRun
import DoorSwitchSvr.Accounting
import DoorSwitchSvr.Draining
import DoorSwitchSvr.Relays
import DoorSwitchSvr.Server
import DoorSwitchSvr.Origin
import DoorSwitchSvr.Doors
import DoorSwitchSvr.Destructor
import DoorSwitchSvr.Returning
import DoorSwitchSvr.Startup
import DoorSwitchSvr.Resources
import DoorSwitchSvr.Schedule
import DoorSwitchSvr.Settling
