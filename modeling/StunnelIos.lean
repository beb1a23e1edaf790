import StunnelIos.Library.Runs
import StunnelIos.Library.SlotTable
import StunnelIos.Library.Retain
import StunnelIos.Library.Owned
import StunnelIos.Library.Relay
import StunnelIos.Library.Reordering
import StunnelIos.Library.Components
import StunnelIos.Library.Commands
import StunnelIos.Library.Json
import StunnelIos.Net.Address
import StunnelIos.Smoltcp.TcpView
import StunnelIos.Smoltcp.Lifecycle
import StunnelIos.Smoltcp.Stack
import StunnelIos.Smoltcp.Wire
import StunnelIos.Smoltcp.Headers
import StunnelIos.Smoltcp.Reference
import StunnelIos.Smoltcp.ReferenceLaws
import StunnelIos.Core.Config
import StunnelIos.Core.Engine
import StunnelIos.Core.Tcp
import StunnelIos.Core.Udp
import StunnelIos.Core.Lib
import StunnelIos.Core.Turns
import StunnelIos.Core.Interception
import StunnelIos.Core.Changes
import StunnelIos.Core.Ownership
import StunnelIos.Core.Runs
import StunnelIos.Core.Sessions
import StunnelIos.Core.PanicFreedom
import StunnelIos.Core.UdpDelivery
import StunnelIos.Core.UdpAddresses
import StunnelIos.Core.UdpForwarding
import StunnelIos.Core.Egress
import StunnelIos.Core.TcpClose
import StunnelIos.Core.Acceptance
import StunnelIos.Core.TcpAttempts
import StunnelIos.Core.SplitTunnel
import StunnelIos.Core.HandleOwnership
import StunnelIos.Core.Wakeups
import StunnelIos.Core.InboundQueue
import StunnelIos.Core.Connection
import StunnelIos.Core.SharedConnection
import StunnelIos.Core.ProxyCore
import StunnelIos.Core.StreamRuns
import StunnelIos.Core.SessionStreams
import StunnelIos.Core.WriteReadiness
import StunnelIos.Core.StreamReads
import StunnelIos.Core.StreamWrites
import StunnelIos.Core.GenuineHeaders
import StunnelIos.Core.FailedSessions
import StunnelIos.Core.Locality
import StunnelIos.Core.Scheduling
import StunnelIos.Core.UdpRuns
import StunnelIos.Core.UdpRelays
import StunnelIos.Core.Callbacks
import StunnelIos.Core.ProxySteps
import StunnelIos.Core.ProxyRuns
import StunnelIos.Core.ServerTunnels
import StunnelIos.Core.SetUpProgress
import StunnelIos.Tunnel.Coordinator
import StunnelIos.Tunnel.VPNConfig
import StunnelIos.Tunnel.Provider
import StunnelIos.Tunnel.Cleanup
import StunnelIos.Tunnel.ReadLoop
import StunnelIos.Tunnel.StoppedCore
import StunnelIos.Tunnel.Resources
import StunnelIos.Tunnel.System
import StunnelIos.Tunnel.SystemSafety
import StunnelIos.Tunnel.SystemRuns
import StunnelIos.Tunnel.CoreStart
import StunnelIos.Tunnel.Answers
import StunnelIos.Tunnel.ReadLoops
import StunnelIos.Tunnel.Installation
import StunnelIos.Tunnel.SavedConfig
import StunnelIos.App.VPNManager
import StunnelIos.App.Disconnect
import StunnelIos.App.ConnectRequests
