import StunnelIos.Library.Retain
import StunnelIos.Core.Config

/-! The engine: the device that queues inbound packets, the interface with its
sockets, the wakers of waiting tasks and the table of UDP sessions. -/
namespace StunnelIos

def tunAddr : Ipv4Address := ⟨192, 168, 1, 1⟩
def tunPrefixLen : Nat := 24
def tunMtu : Nat := 1500
def maxInboundPackets : Nat := 1024

abbrev TaskId := Nat

/-- What the core does that is visible outside it, in order. -/
inductive Output where
  /-- The packet callback is invoked. -/
  | callback (function context : Nat) (packet : Bytes)
  | wake (task : TaskId)
  | spawned (task : TaskId)
  /-- A TCP session has read bytes of the app, for its outbound connection or tunnel. -/
  | streamed (task : TaskId) (isDirect : Bool) (target : SocketAddr) (bytes : Bytes)
  /-- `poll_write` has accepted bytes for the app. -/
  | written (task : TaskId) (bytes : Bytes)
  /-- `poll_shutdown` has closed the stream's side of the connection. -/
  | shutdown (task : TaskId)
  /-- A datagram is sent on the outbound socket that is connected to `target`. -/
  | outboundSend (task : TaskId) (target : SocketAddr) (payload : Bytes)
  /-- `send_datagram` on the tunnel. -/
  | tunnelSend (task : TaskId) (payload : Bytes) (addr : SocketAddr)
  /-- `poll_send_to` has queued a datagram on the session's socket. -/
  | enqueued (task : TaskId) (payload : Bytes) (target : IpEndpoint)
deriving DecidableEq, Repr

/-- A function pointer of the C side, as an opaque number. -/
abbrev PacketCallback := Nat

structure TunDevice where
  inboundPackets : List Bytes
  outboundCallback : Option PacketCallback
  outboundContext : Nat

namespace TunDevice

def new : TunDevice := ⟨[], none, 0⟩

/-- The packet of the receive token, and the device without it. -/
def receive (device : TunDevice) : Option (Bytes × TunDevice) :=
  match device.inboundPackets with
  | packet :: rest => some (packet, { device with inboundPackets := rest })
  | [] => none

/-- The interface calls `receive` until it returns nothing. -/
def receiveUpTo : Nat → TunDevice → List Bytes × TunDevice
  | 0, device => ([], device)
  | bound + 1, device =>
      match device.receive with
      | some (packet, rest) =>
          let (packets, last) := receiveUpTo bound rest
          (packet :: packets, last)
      | none => ([], device)

def receiveAll (device : TunDevice) : List Bytes × TunDevice :=
  receiveUpTo (device.inboundPackets.length + 1) device

/-- Consuming a transmit token: the frame goes to the callback, if there is one. -/
def transmit (device : TunDevice) (frame : Bytes) : List Output :=
  match device.outboundCallback with
  | some callback => [.callback callback device.outboundContext frame]
  | none => []

theorem receiveUpTo_all (device : TunDevice) {bound : Nat}
    (enough : device.inboundPackets.length < bound) :
    receiveUpTo bound device =
      (device.inboundPackets, { device with inboundPackets := [] }) := by
  induction bound generalizing device with
  | zero => omega
  | succ bound ih =>
      obtain ⟨packets, callback, context⟩ := device
      cases packets with
      | nil => rfl
      | cons packet rest =>
          simp only [List.length_cons] at enough
          simp only [receiveUpTo, receive, ih ⟨rest, callback, context⟩ (by simpa using by omega)]

@[simp] theorem receiveAll_eq (device : TunDevice) :
    device.receiveAll = (device.inboundPackets, { device with inboundPackets := [] }) :=
  receiveUpTo_all device (Nat.lt_succ_self _)

end TunDevice

namespace SocketSet
variable {S : Smoltcp}

def getMutTcp (sockets : SocketSet S) (handle : SocketHandle) : Except Panic S.TcpSocket :=
  match sockets.get handle with
  | some (.tcp socket) => .ok socket
  | _ => .error .socketHandle

def getMutUdp (sockets : SocketSet S) (handle : SocketHandle) : Except Panic S.UdpSocket :=
  match sockets.get handle with
  | some (.udp socket) => .ok socket
  | _ => .error .socketHandle

def remove (sockets : SocketSet S) (handle : SocketHandle) : Except Panic (SocketSet S) :=
  match sockets.get handle with
  | some _ => .ok (SlotTable.remove sockets handle)
  | none => .error .socketHandle

end SocketSet

structure StunnelEngine (S : Smoltcp) where
  device : TunDevice
  interface : S.Interface
  sockets : SocketSet S
  wakers : AList fun _ : SocketHandle => TaskId
  udpSessions : AList fun _ : SocketAddr => SocketHandle

namespace StunnelEngine
variable {S : Smoltcp}

def new (S : Smoltcp) : Except Panic (StunnelEngine S) :=
  match S.pushIpAddr S.interfaceNew ⟨tunAddr, tunPrefixLen⟩ with
  | none => .error .interfaceSetup
  | some interface =>
      match S.addDefaultIpv4Route interface tunAddr with
      | none => .error .interfaceSetup
      | some interface => .ok ⟨.new, interface, .empty, ∅, ∅⟩

def poll (engine : StunnelEngine S) (timestamp : Instant) : StunnelEngine S × List Output :=
  let (packets, device) := engine.device.receiveAll
  let result := S.poll engine.interface timestamp packets engine.sockets
  ({ engine with
      device := device, interface := result.interface, sockets := result.sockets, wakers := ∅ },
    result.frames.flatMap device.transmit ++ engine.wakers.values.map .wake)

def registerWaker (engine : StunnelEngine S) (handle : SocketHandle) (waker : TaskId) :
    StunnelEngine S :=
  { engine with wakers := engine.wakers.insert handle waker }

def pushInboundPacket (engine : StunnelEngine S) (packet : Bytes) : Bool × StunnelEngine S :=
  if engine.device.inboundPackets.length ≥ maxInboundPackets then (false, engine)
  else (true, { engine with
    device := { engine.device with inboundPackets := engine.device.inboundPackets ++ [packet] } })

/-- The sockets of the engine, with one of them replaced. -/
def setSocket (engine : StunnelEngine S) (handle : SocketHandle)
    (socket : Socket S.TcpSocket S.UdpSocket) : StunnelEngine S :=
  { engine with sockets := engine.sockets.put handle socket }

@[simp] theorem setSocket_udpSessions {engine : StunnelEngine S} {handle : SocketHandle}
    {socket : Socket S.TcpSocket S.UdpSocket} :
    (engine.setSocket handle socket).udpSessions = engine.udpSessions := rfl

end StunnelEngine

end StunnelIos
