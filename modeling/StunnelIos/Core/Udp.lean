import StunnelIos.Core.Engine

/-! UDP sessions: the socket over a socket of the stack, and the two session
tasks, direct and through the tunnel, with their three concurrent branches. -/
namespace StunnelIos

def udpBufferSize : Nat := 2048

/-- In milliseconds, as `Instant` is. -/
def udpIdleTimeout : Nat := 60000

structure UdpSocket where
  handle : SocketHandle
deriving DecidableEq, Repr

namespace UdpSocket
variable {S : Smoltcp}

def drop (socket : UdpSocket) (engine : StunnelEngine S) : Except Panic (StunnelEngine S) := do
  let sockets ← SocketSet.remove engine.sockets socket.handle
  return { engine with
    sockets := sockets
    udpSessions := engine.udpSessions.retain fun entry => entry.2 != socket.handle }

/-- The bytes copied into a buffer of `bufLen` bytes, and the source. -/
def pollRecvFrom (self : UdpSocket) (engine : StunnelEngine S) (waker : TaskId) (bufLen : Nat) :
    Except Panic (Poll (IoResult (Bytes × SocketAddr)) × StunnelEngine S) := do
  let socket ← SocketSet.getMutUdp engine.sockets self.handle
  match S.udpRecv socket with
  | .ok (data, metadata, socket) =>
      let n := min data.length bufLen
      return (.ready (.ok (data.take n, endpointToSocketAddr metadata.endpoint)),
        engine.setSocket self.handle (.udp socket))
  | .error .exhausted => return (.pending, engine.registerWaker self.handle waker)
  | .error error => return (.ready (.error (.other (.udpRecv error))), engine)

def pollSendTo (self : UdpSocket) (engine : StunnelEngine S) (waker : TaskId) (buf : Bytes)
    (target : SocketAddr) : Except Panic (Poll (IoResult Nat) × StunnelEngine S) := do
  let socket ← SocketSet.getMutUdp engine.sockets self.handle
  let endpoint := socketAddrToEndpoint target
  match S.udpSendSlice socket buf endpoint with
  | .ok socket => return (.ready (.ok buf.length), engine.setSocket self.handle (.udp socket))
  | .error .bufferFull => return (.pending, engine.registerWaker self.handle waker)
  | .error error => return (.ready (.error (.other (.udpSend error))), engine)

end UdpSocket

/-- `s_task`: waiting for a datagram of the client, or sending one on. -/
inductive SendTask where
  | receiving
  | sending (buf : Bytes) (addr : SocketAddr)
deriving DecidableEq, Repr

/-- `r_task`: waiting for a datagram of the outbound side, or handing one, with
the address it came with, to the stack. -/
inductive RecvTask where
  | receiving
  | replying (buf : Bytes) (addr : SocketAddr)
deriving DecidableEq, Repr

inductive UdpPhase where
  | opening
  | running (sTask : SendTask) (rTask : RecvTask) (lastActivity : Instant)
  | finished (result : IoResult Unit)
deriving DecidableEq, Repr

structure UdpSession where
  socket : UdpSocket
  srcEndpoint : SocketAddr
  targetAddr : SocketAddr
  isDirect : Bool
  phase : UdpPhase
deriving DecidableEq, Repr

/-- The steps of a UDP session, with what its outbound side contributes. -/
inductive UdpEvent where
  /-- The outbound socket is bound and connected, or the tunnel is set up, or this fails. -/
  | opened (now : Instant) (result : IoResult Unit)
  | pollRecvFrom (now : Instant)
  /-- The pending send on the outbound socket, or `send_datagram`, completes. -/
  | sent (result : IoResult Unit)
  /-- A datagram arrives on the outbound socket or through the tunnel, or receiving fails. The
  outbound socket is connected, so it delivers only what its target sends. -/
  | received (now : Instant) (result : IoResult (Bytes × SocketAddr))
  | pollSendTo
  | timeout (now : Instant)
deriving DecidableEq, Repr

namespace UdpSession
variable {S : Smoltcp}

def finish (session : UdpSession) (result : IoResult Unit) : UdpSession :=
  { session with phase := .finished result }

/-- `handle_udp_direct_session` and `handle_udp_proxy_session` up to the branches. -/
def opened (config : AppConfig) (session : UdpSession) (now : Instant) (result : IoResult Unit) :
    UdpSession :=
  let result := if session.isDirect then result else config.tunnelMode.bind fun _ => result
  match result with
  | .ok () => { session with phase := .running .receiving .receiving now }
  | .error error => session.finish (.error error)

/-- A turn of `s_task`, alike in both sessions: receive, and keep what the
client sent. -/
def receive (session : UdpSession) (engine : StunnelEngine S) (task : TaskId) (rTask : RecvTask)
    (lastActivity now : Instant) :
    Except Panic (UdpSession × StunnelEngine S × List Output) := do
  match ← session.socket.pollRecvFrom engine task udpBufferSize with
  | (.ready (.ok (buf, addr)), engine) =>
      if addr = session.srcEndpoint then
        return ({ session with phase := .running (.sending buf addr) rTask now }, engine, [])
      else return ({ session with phase := .running .receiving rTask lastActivity }, engine, [])
  | (.ready (.error error), engine) => return (session.finish (.error error), engine, [])
  | (.pending, engine) => return (session, engine, [])

/-- `outbound.send(&buf[..n])` in the direct session, `tun_send.send_datagram(&buf[..n],
addr)` through the tunnel. -/
def forwarded (session : UdpSession) (task : TaskId) (buf : Bytes) (addr : SocketAddr) : Output :=
  if session.isDirect then .outboundSend task session.targetAddr buf
  else .tunnelSend task buf addr

/-- The address that `r_task` hands to `poll_send_to`: the target in the direct
session, the address of the received datagram through the tunnel. -/
def replyTarget (session : UdpSession) (addr : SocketAddr) : SocketAddr :=
  if session.isDirect then session.targetAddr else addr

def reply (session : UdpSession) (engine : StunnelEngine S) (task : TaskId) (sTask : SendTask)
    (lastActivity : Instant) (buf : Bytes) (addr : SocketAddr) :
    Except Panic (UdpSession × StunnelEngine S × List Output) := do
  let target := session.replyTarget addr
  match ← session.socket.pollSendTo engine task buf target with
  | (.ready (.ok _), engine) =>
      return ({ session with phase := .running sTask .receiving lastActivity }, engine,
        [.enqueued task buf (socketAddrToEndpoint target)])
  | (.ready (.error error), engine) => return (session.finish (.error error), engine, [])
  | (.pending, engine) => return (session, engine, [])

/-- One turn of one branch. The first branch that completes ends the session. A
step that the session cannot take in its phase changes nothing. -/
def step (config : AppConfig) (session : UdpSession) (engine : StunnelEngine S) (task : TaskId)
    (event : UdpEvent) : Except Panic (UdpSession × StunnelEngine S × List Output) :=
  match session.phase, event with
  | .opening, .opened now result => .ok (session.opened config now result, engine, [])
  | .running .receiving rTask lastActivity, .pollRecvFrom now =>
      session.receive engine task rTask lastActivity now
  | .running (.sending buf addr) rTask lastActivity, .sent (.ok ()) =>
      .ok ({ session with phase := .running .receiving rTask lastActivity }, engine,
        [session.forwarded task buf addr])
  | .running (.sending _ _) _ _, .sent (.error error) =>
      .ok (session.finish (.error error), engine, [])
  | .running sTask .receiving _, .received now (.ok (data, addr)) =>
      .ok ({ session with
        phase := .running sTask (.replying (data.take udpBufferSize) addr) now }, engine, [])
  | .running _ .receiving _, .received _ (.error error) =>
      .ok (session.finish (.error error), engine, [])
  | .running sTask (.replying buf addr) lastActivity, .pollSendTo =>
      session.reply engine task sTask lastActivity buf addr
  | .running _ _ lastActivity, .timeout now =>
      if now - lastActivity > udpIdleTimeout then .ok (session.finish (.ok ()), engine, [])
      else .ok (session, engine, [])
  | _, _ => .ok (session, engine, [])

end UdpSession

end StunnelIos
