import Arp.Server.Lifecycle
import Arp.Server.Sessions
import Arp.Server.ProxyManager
import Arp.Lib.Ownership
import Arp.Server.WorkConn
import Arp.Server.Stcp
import Arp.Common.Codec
import Arp.Client.Registration
import Arp.Server.Confinement
import Arp.Common.Auth
import Arp.Common.Message
import Arp.Server.Takeover
import Arp.Server.Names
import Arp.Server.Admission
import Arp.Server.Holdings
import Arp.Server.Reconnect
import Arp.Client.Proxies
import Arp.EndToEnd.Framing
import Arp.EndToEnd.Serving
import Arp.Server.Groups.Runs
import Arp.Server.Tunnels
import Arp.Common.UdpMux
import Arp.Client.Udp
import Arp.EndToEnd.Udp.Machine
import Arp.EndToEnd.Udp.Routing
import Arp.Common.Mux
import Arp.EndToEnd.Streams.Machine
import Arp.EndToEnd.Streams.Traffic
import Arp.EndToEnd.Streams.Actions
import Arp.EndToEnd.Streams.Local
import Arp.EndToEnd.Streams.Coherence
import Arp.EndToEnd.Streams.Cleanup
import Arp.EndToEnd.Streams.Undisturbed
import Arp.EndToEnd.Streams.HalfClose
import Arp.EndToEnd.Streams.PlainPath
import Arp.Server.Login
import Arp.Server.Listener
import Arp.Server.Ports
import Arp.Server.NatHole
import Arp.Client.Commands
import Arp.Client.Prompt
import Arp.EndToEnd.Registry
import Arp.EndToEnd.Udp.Datagrams
import Arp.Lib.Lowercase
import Arp.Server.Hosts
import Arp.Server.HttpHead
import Arp.Lib.Vectors
import Arp.Server.Tls
import Arp.Client.WorkConns
import Arp.Client.Service
import Arp.Client.Admin
import Arp.Client.Validated
import Arp.Lib.Checked
import Arp.Server.Freshness
import Arp.Server.TlsBounds
import Arp.Lib.History
import Arp.Server.Balancer
import Arp.Lib.Residues
import Arp.Server.RoundRobin
import Arp.Server.ClientConn
import Arp.Server.Membership
import Arp.Server.WorkQueue
import Arp.Server.Routes
import Arp.Server.RouteTasks
import Arp.Server.VhostListener
import Arp.EndToEnd.Rendezvous
import Arp.Client.Pursuit
import Arp.Client.Reloading
import Arp.Server.UdpTunnel
import Arp.Server.ConnMetrics
import Arp.Client.BasicAuth
import Arp.Client.HealthChecks
import Arp.Common.Prefixed
import Arp.Common.Throttle
import Arp.Common.Consume
import Arp.EndToEnd.Heartbeat
import Arp.EndToEnd.WebSocket
