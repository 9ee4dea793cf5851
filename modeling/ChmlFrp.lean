import ChmlFrp.Lib.Transition
import ChmlFrp.Lib.Isolation
import ChmlFrp.Lib.GoMap
import ChmlFrp.Lib.GoString
import ChmlFrp.Lib.Strconv
import ChmlFrp.Lib.Decimal
import ChmlFrp.Lib.Base64
import ChmlFrp.Lib.Chan
import ChmlFrp.Lib.Slots
import ChmlFrp.Lib.Credit
import ChmlFrp.Lib.Vary
import ChmlFrp.Lib.Suffix
import ChmlFrp.Lib.Streak
import ChmlFrp.Lib.Window
import ChmlFrp.Lib.Sync
import ChmlFrp.Lib.Rows
import ChmlFrp.Lib.Cadence
import ChmlFrp.Lib.Pipe
import ChmlFrp.Lib.Frames
import ChmlFrp.Util.Http
import ChmlFrp.Util.RangeNumbers
import ChmlFrp.Util.Version
import ChmlFrp.Util.LimitWriter
import ChmlFrp.Util.CloseOnce
import ChmlFrp.Config.Types
import ChmlFrp.Config.Proxy
import ChmlFrp.Config.RangeSections
import ChmlFrp.Client.Wrapper
import ChmlFrp.Client.Reload
import ChmlFrp.Client.Health
import ChmlFrp.Client.VisitorManager
import ChmlFrp.Client.ProxyManager
import ChmlFrp.Client.UdpProxy
import ChmlFrp.Client.Control
import ChmlFrp.Client.Service
import ChmlFrp.Client.ReloadLoop
import ChmlFrp.Client.Reconnect
import ChmlFrp.Client.Dial
import ChmlFrp.Client.XtcpVisitor
import ChmlFrp.Client.AdminApi
import ChmlFrp.Transport.Message
import ChmlFrp.System.Registration
import ChmlFrp.Server.Registry
import ChmlFrp.Server.Replacement
import ChmlFrp.Server.Teardown
import ChmlFrp.Server.WorkConn
import ChmlFrp.Server.GetWorkConn
import ChmlFrp.Server.Dashboard
import ChmlFrp.Server.Ports
import ChmlFrp.Server.AllowPorts
import ChmlFrp.Server.UdpPorts
import ChmlFrp.Udp.Forward
import ChmlFrp.Udp.WorkConn
import ChmlFrp.Udp.Forwarder
import ChmlFrp.Udp.Session
import ChmlFrp.Udp.Tunnel
import ChmlFrp.Client.SudpProxy
import ChmlFrp.Server.Visitor
import ChmlFrp.Server.VisitorConn
import ChmlFrp.Server.ListenerGroup
import ChmlFrp.Server.TcpGroup
import ChmlFrp.Server.Quota
import ChmlFrp.Server.CountedRegistry
import ChmlFrp.Vhost.Router
import ChmlFrp.Vhost.Http
import ChmlFrp.Vhost.Pool
import ChmlFrp.Vhost.Muxer
import ChmlFrp.Vhost.Lookup
import ChmlFrp.Vhost.Names
import ChmlFrp.Vhost.Handoff
import ChmlFrp.Server.HttpGroup
import ChmlFrp.Server.HttpProxy
import ChmlFrp.Server.DomainGuard
import ChmlFrp.Server.HttpRollback
import ChmlFrp.Server.Listeners
import ChmlFrp.Server.RoundRobin
import ChmlFrp.Server.Approval
import ChmlFrp.Tcpmux.HttpConnect
import ChmlFrp.Tcpmux.Tunnel
import ChmlFrp.Nathole.Message
import ChmlFrp.Nathole.Controller
import ChmlFrp.Nathole.Xtcp
import ChmlFrp.Nathole.Classify
import ChmlFrp.Nathole.Analysis
import ChmlFrp.Nathole.Analyzer
import ChmlFrp.Nathole.MakeHole
import ChmlFrp.Nathole.Responses
import ChmlFrp.Auth.Oidc
import ChmlFrp.Metrics.DateCounter
import ChmlFrp.Metrics.Server
import ChmlFrp.Metrics.DailyTraffic
import ChmlFrp.Server.ProxyCounts
import ChmlFrp.Plugin.Manager
import ChmlFrp.Plugin.HttpProxy
import ChmlFrp.Cmd.Root
import ChmlFrp.System.Heartbeat
import ChmlFrp.System.TcpTunnel
import ChmlFrp.System.ControlChannel
