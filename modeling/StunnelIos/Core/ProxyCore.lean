import StunnelIos.Core.Connection
import StunnelIos.Core.Lib

/-! The core with its connection manager. Before a proxied session carries anything it gets a
QUIC handle or a TLS connector from the manager, which all sessions share, and asks the server
for a tunnel over it. -/
namespace StunnelIos

/-- `stunnel::tlstcp::client::Config` -/
structure TlsTcpConfig where
  serverAddr : String
  serverName : String
  cert : String
  privKey : String
deriving DecidableEq, Repr

def AppConfig.tlsTcpConfig (config : AppConfig) : TlsTcpConfig :=
  ⟨config.serverAddr, config.serverName, config.cert, config.privKey⟩

/-- What a tunnel is set up over. A connector is known by the configuration it is made with. -/
inductive Carrier where
  | s2n (handle : S2nHandle)
  | tlsTcp (connector : TlsTcpConfig)
deriving DecidableEq, Repr

inductive SetUp where
  /-- It awaits `get_s2n_handle`. -/
  | handle (call : CallId)
  /-- It awaits `connect_tcp_tunnel` or `connect_udp_tunnel`. -/
  | tunnel (carrier : Carrier)
  | done (carrier : Carrier)
deriving DecidableEq, Repr

namespace Task

def isDirect : Task → Bool
  | .tcp session => session.isDirect
  | .udp session => session.isDirect

def isOpening : Task → Bool
  | .tcp ⟨_, _, _, .opening⟩ => true
  | .udp ⟨_, _, _, _, .opening⟩ => true
  | _ => false

/-- The target that `connect_tcp_tunnel` is given; `connect_udp_tunnel` has none. -/
def tunnelTarget : Task → Option SocketAddr
  | .tcp session => some session.target
  | .udp _ => none

def opened (task : Task) (now : Instant) (result : IoResult Unit) : Sum TcpEvent UdpEvent :=
  match task with
  | .tcp _ => .inl (.opened result)
  | .udp _ => .inr (.opened now result)

end Task

/-- The core with its connection manager and the set-ups of its proxied sessions. The
manager's `OnceCell` of the TLS connector is kept beside what it has for QUIC. -/
structure ProxyCore (S : Smoltcp) where
  core : CoreContext S
  connManager : ConnectionManager
  tlstcpConnector : Option TlsTcpConfig
  setUps : AList fun _ : TaskId => SetUp

abbrev ProxyHandle (S : Smoltcp) := Option (ProxyCore S)

inductive ProxyOutput where
  | core (output : Output)
  | manager (output : CallOutput)
  | connectTunnel (task : TaskId) (carrier : Carrier) (target : Option SocketAddr)
deriving DecidableEq

inductive SetUpEvent where
  /-- The session's task runs for the first time. -/
  | begin
  | locked (keepAlive : Except String Unit)
  | clientCreated (result : IoResult Unit)
  | connected (result : Except String (Except String Unit))
  | tunnelConnected (result : IoResult Unit)

inductive ProxyEvent where
  | core (event : Event)
  | setUp (id : TaskId) (now : Instant) (event : SetUpEvent)

def CallOutput.result : CallOutput → Option (IoResult S2nHandle)
  | .returned _ result => some result
  | _ => none

namespace ProxyCore
variable {S : Smoltcp}

def new (S : Smoltcp) (config : AppConfig) : Except Panic (ProxyCore S) :=
  (CoreContext.new S config).map (⟨·, .new, none, ∅⟩)

/-- What a task awaits is dropped with it. -/
def dropSetUp (parse : String → Except String SocketAddr) (proxy : ProxyCore S) (id : TaskId) :
    ProxyCore S × List ProxyOutput :=
  match proxy.core.runtime.tasks.lookup id, proxy.setUps.lookup id with
  | some _, _ => (proxy, [])
  | none, some (.handle call) =>
      let (connManager, outputs) := proxy.connManager.step parse (.cancel call)
      ({ proxy with connManager := connManager, setUps := proxy.setUps.erase id },
        outputs.map .manager)
  | none, _ => ({ proxy with setUps := proxy.setUps.erase id }, [])

def stepTask (parse : String → Except String SocketAddr) (proxy : ProxyCore S) (id : TaskId)
    (event : Sum TcpEvent UdpEvent) : ProxyCore S × List ProxyOutput :=
  let (core, outputs) := proxy.core.stepTask id event
  let (proxy, dropped) := { proxy with core := core }.dropSetUp parse id
  (proxy, outputs.map .core ++ dropped)

def settle (parse : String → Except String SocketAddr) (proxy : ProxyCore S) (id : TaskId)
    (now : Instant) (result : IoResult Unit) : ProxyCore S × List ProxyOutput :=
  match proxy.core.runtime.tasks.lookup id with
  | some task => proxy.stepTask parse id (task.opened now result)
  | none => (proxy, [])

/-- `connect_tcp_tunnel` or `connect_udp_tunnel`, up to its await point. -/
def connectTunnel (proxy : ProxyCore S) (id : TaskId) (carrier : Carrier) :
    ProxyCore S × List ProxyOutput :=
  ({ proxy with setUps := proxy.setUps.insert id (.tunnel carrier) },
    [.connectTunnel id carrier ((proxy.core.runtime.tasks.lookup id).bind Task.tunnelTarget)])

/-- `get_tlstcp_connector` makes the connector on the first call. -/
def getTlstcpConnector (proxy : ProxyCore S) : TlsTcpConfig × ProxyCore S :=
  let connector := proxy.tlstcpConnector.getD proxy.core.config.tlsTcpConfig
  (connector, { proxy with tlstcpConnector := some connector })

/-- `handle_tcp_proxy_session` and `handle_udp_proxy_session` up to the first await point. -/
def begin (parse : String → Except String SocketAddr) (proxy : ProxyCore S) (id : TaskId)
    (now : Instant) : ProxyCore S × List ProxyOutput :=
  match proxy.core.config.tunnelMode with
  | .error error => proxy.settle parse id now (.error error)
  | .ok .s2nQuic =>
      let call := proxy.connManager.nextCall
      let (connManager, outputs) := proxy.connManager.step parse (.call proxy.core.config)
      ({ proxy with
          connManager := connManager, setUps := proxy.setUps.insert id (.handle call) },
        outputs.map .manager)
  | .ok .tlsTcp =>
      let (connector, proxy) := proxy.getTlstcpConnector
      proxy.connectTunnel id (.tlsTcp connector)

def resume (parse : String → Except String SocketAddr) (proxy : ProxyCore S) (id : TaskId)
    (now : Instant) (event : CallEvent) : ProxyCore S × List ProxyOutput :=
  let (connManager, outputs) := proxy.connManager.step parse event
  let proxy := { proxy with connManager := connManager }
  match outputs.findSome? CallOutput.result with
  | none => (proxy, outputs.map .manager)
  | some (.ok handle) =>
      let (proxy, asked) := proxy.connectTunnel id (.s2n handle)
      (proxy, outputs.map .manager ++ asked)
  | some (.error error) =>
      let (proxy, settled) := { proxy with setUps := proxy.setUps.erase id }.settle parse id now
        (.error error)
      (proxy, outputs.map .manager ++ settled)

def tunnelConnected (parse : String → Except String SocketAddr) (proxy : ProxyCore S)
    (id : TaskId) (now : Instant) (carrier : Carrier) (result : IoResult Unit) :
    ProxyCore S × List ProxyOutput :=
  match result with
  | .ok () =>
      { proxy with setUps := proxy.setUps.insert id (.done carrier) }.settle parse id now (.ok ())
  | .error error =>
      { proxy with setUps := proxy.setUps.erase id }.settle parse id now (.error error)

/-- The session waits for its tunnel. -/
def awaitsTunnel (proxy : ProxyCore S) (id : TaskId) : Bool :=
  (proxy.core.runtime.tasks.lookup id).any fun task => !task.isDirect && task.isOpening

/-- A step that the session cannot take where it is suspended changes nothing. -/
def setUp (parse : String → Except String SocketAddr) (proxy : ProxyCore S) (id : TaskId)
    (now : Instant) (event : SetUpEvent) : ProxyCore S × List ProxyOutput :=
  match proxy.setUps.lookup id, event with
  | none, .begin => if proxy.awaitsTunnel id then proxy.begin parse id now else (proxy, [])
  | some (.handle call), .locked keepAlive =>
      proxy.resume parse id now (.locked call keepAlive)
  | some (.handle call), .clientCreated result =>
      proxy.resume parse id now (.clientCreated call result)
  | some (.handle call), .connected result =>
      proxy.resume parse id now (.connected call result)
  | some (.tunnel carrier), .tunnelConnected result =>
      proxy.tunnelConnected parse id now carrier result
  | _, _ => (proxy, [])

/-- The outcome of a set-up is not an input of the core any more: a session that waits for its
tunnel goes on by the steps of its set-up alone. -/
def step (parse : String → Except String SocketAddr) (proxy : ProxyCore S) :
    ProxyEvent → Except Panic (ProxyHandle S × List ProxyOutput)
  | .core (.task id event) =>
      if proxy.awaitsTunnel id then .ok (some proxy, [])
      else
        let (proxy, outputs) := proxy.stepTask parse id event
        .ok (some proxy, outputs)
  | .core (.drop id) =>
      let (proxy, outputs) :=
        { proxy with core := proxy.core.dropTask id }.dropSetUp parse id
      .ok (some proxy, outputs)
  | .core event => do
      let (handle, outputs) ← Handle.step (some proxy.core) event
      return (handle.map fun core => { proxy with core := core }, outputs.map .core)
  | .setUp id now event =>
      let (proxy, outputs) := proxy.setUp parse id now event
      .ok (some proxy, outputs)

end ProxyCore

/-- Freeing the core frees its connection manager and whatever waits for it. -/
def ProxyHandle.step {S : Smoltcp} (parse : String → Except String SocketAddr)
    (handle : ProxyHandle S) (event : ProxyEvent) :
    Except Panic (ProxyHandle S × List ProxyOutput) :=
  match handle with
  | some proxy => proxy.step parse event
  | none => .ok (none, [])

end StunnelIos
