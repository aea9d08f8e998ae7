import PanicMonitr.Foundation.Machine
import PanicMonitr.Foundation.Digits
import PanicMonitr.Foundation.Datetime
import PanicMonitr.Foundation.Calendar
import PanicMonitr.Foundation.Dict
import PanicMonitr.Foundation.Sequences
import PanicMonitr.Foundation.Slots
import PanicMonitr.Foundation.Table
import PanicMonitr.Foundation.Json
import PanicMonitr.Foundation.JsonParser
import PanicMonitr.Foundation.JsonScan
import PanicMonitr.Foundation.Lines
import PanicMonitr.Foundation.Chain
import PanicMonitr.Foundation.Blocks
import PanicMonitr.Foundation.Counters
import PanicMonitr.Trust.Peer
import PanicMonitr.Trust.Log
import PanicMonitr.Trust.RoundTrip
import PanicMonitr.Trust.AllOrNothing
import PanicMonitr.Trust.Projection
import PanicMonitr.Trust.Replay
import PanicMonitr.Trust.Records
import PanicMonitr.Trust.Manager
import PanicMonitr.Trust.Authorization
import PanicMonitr.Trust.Entries
import PanicMonitr.Trust.TagSets
import PanicMonitr.Trust.Tamper
import PanicMonitr.Trust.Sharing
import PanicMonitr.Trust.MonitorTail
import PanicMonitr.Trust.Interrupted
import PanicMonitr.Trust.Processes
import PanicMonitr.Control.Engine
import PanicMonitr.Control.Socket
import PanicMonitr.Control.Effects
import PanicMonitr.Control.Daemon
import PanicMonitr.Control.Requests
import PanicMonitr.Control.Privileges
import PanicMonitr.Control.Clients
import PanicMonitr.Control.Permissions
import PanicMonitr.Control.FrontEnds
import PanicMonitr.Control.Schedules
import PanicMonitr.Control.Answering
import PanicMonitr.Control.AddPeer
import PanicMonitr.Control.NodeIds
import PanicMonitr.Liveness.Transition
import PanicMonitr.Liveness.Observation
import PanicMonitr.Liveness.Hysteresis
import PanicMonitr.Liveness.History
import PanicMonitr.Liveness.Reload
import PanicMonitr.Liveness.Uptime
import PanicMonitr.Liveness.Outage
import PanicMonitr.Liveness.Reconnect
import PanicMonitr.Liveness.MidCycle
import PanicMonitr.Liveness.Refresh
import PanicMonitr.Liveness.Alerts
import PanicMonitr.Liveness.Spacing
import PanicMonitr.Identity.Seal
import PanicMonitr.Identity.Recovery
import PanicMonitr.Store.LogStore
import PanicMonitr.Store.Jobs
import PanicMonitr.Store.Hourly
import PanicMonitr.Store.Daily
import PanicMonitr.Store.Merge
import PanicMonitr.Store.MergeRows
import PanicMonitr.Store.Cursor
import PanicMonitr.Store.Payload
import PanicMonitr.Store.Tiers
import PanicMonitr.Store.Coverage
import PanicMonitr.Store.Sequence
import PanicMonitr.Store.Delta
import PanicMonitr.Store.Isolation
import PanicMonitr.Store.Answers
import PanicMonitr.Store.ContainerEvents
import PanicMonitr.Store.ContainerRuns
import PanicMonitr.Store.MergeAnswers
import PanicMonitr.Store.PeerTimes
import PanicMonitr.Store.TwoNodes
import PanicMonitr.Store.Watermark
import PanicMonitr.Store.GapFill
import PanicMonitr.Store.Ledger
import PanicMonitr.Store.Conservation
import PanicMonitr.Store.Windows
import PanicMonitr.Store.Traffic
import PanicMonitr.Store.Atomicity
import PanicMonitr.Store.Crash
import PanicMonitr.Store.Reopen
import PanicMonitr.Shell.Serve
import PanicMonitr.Shell.Audit
import PanicMonitr.Shell.Permits
import PanicMonitr.Shell.Caps
import PanicMonitr.Foundation.JsonDumps
import PanicMonitr.Foundation.Urls
import PanicMonitr.Wire.Framing
import PanicMonitr.Web.Login
import PanicMonitr.Wire.Responses
import PanicMonitr.Wire.Streams
import PanicMonitr.Liveness.Incidents
import PanicMonitr.Liveness.LastSeen
import PanicMonitr.Shell.OutputPump
import PanicMonitr.Shell.InputPump
import PanicMonitr.Control.TagQuery
import PanicMonitr.Liveness.RebuildNotes
import PanicMonitr.Liveness.Rebuilds
import PanicMonitr.Wire.Pipes
import PanicMonitr.Shell.Screen
import PanicMonitr.Shell.Typing
import PanicMonitr.Liveness.Retention
import PanicMonitr.Web.Dashboard
import PanicMonitr.Foundation.JsonLoads
import PanicMonitr.Wire.Calls
import PanicMonitr.Control.Growth
import PanicMonitr.Control.Inbound
import PanicMonitr.Identity.Password
import PanicMonitr.Identity.Unattended
import PanicMonitr.Foundation.Readings
import PanicMonitr.Web.Snapshot
import PanicMonitr.Foundation.FanOut
import PanicMonitr.Liveness.Heartbeats
import PanicMonitr.Liveness.Detection
