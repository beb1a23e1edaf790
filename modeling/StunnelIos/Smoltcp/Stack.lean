import StunnelIos.Library.SlotTable
import StunnelIos.Smoltcp.TcpView

/-! The user-mode TCP/IP stack as a parameter. `Smoltcp` has one field for each
function of the `smoltcp` crate that the core calls; socket and interface states
stay abstract, and the observers (`tcpView`, `udpRx`, `config` and so on) are what
its documentation speaks about. The laws at the end state that documentation. -/
namespace StunnelIos

/-- Milliseconds of the clock that is handed to the stack. -/
abbrev Instant := Nat

abbrev SocketHandle := Nat

inductive IpProtocol where
  | tcp | udp
  | other (value : UInt8)
deriving DecidableEq, Repr

structure Ipv4Packet where
  srcAddr : Ipv4Address
  dstAddr : Ipv4Address
  nextHeader : IpProtocol
  payload : Bytes
deriving DecidableEq, Repr

structure TcpPacket where
  srcPort : UInt16
  dstPort : UInt16
  seqNumber : UInt32
  syn : Bool
  ack : Bool
deriving DecidableEq, Repr

structure UdpPacket where
  srcPort : UInt16
  dstPort : UInt16
deriving DecidableEq, Repr

inductive ListenError where
  | invalidState | unaddressable
deriving DecidableEq, Repr

inductive BindError where
  | invalidState | unaddressable
deriving DecidableEq, Repr

inductive TcpRecvError where
  | invalidState | finished
deriving DecidableEq, Repr

inductive TcpSendError where
  | invalidState
deriving DecidableEq, Repr

inductive UdpRecvError where
  | exhausted | truncated
deriving DecidableEq, Repr

inductive UdpSendError where
  | unaddressable | bufferFull
deriving DecidableEq, Repr

/-- What accompanies a received datagram: its source, and the local address it
was sent to. -/
structure UdpMetadata where
  endpoint : IpEndpoint
  localAddress : Option IpAddress
deriving DecidableEq, Repr

inductive Socket (T U : Type) where
  | tcp (socket : T)
  | udp (socket : U)

/-- `groups` are the joined multicast groups. -/
structure InterfaceConfig where
  ipAddrs : List Ipv4Cidr
  anyIp : Bool
  defaultRoute : Option Ipv4Address
  groups : List Ipv4Address
deriving DecidableEq, Repr

namespace InterfaceConfig

def hasIpAddr (config : InterfaceConfig) (addr : Ipv4Address) : Bool :=
  config.ipAddrs.any (·.address == addr)

def isBroadcast (config : InterfaceConfig) (addr : Ipv4Address) : Bool :=
  addr == .limitedBroadcast || config.ipAddrs.any (·.isBroadcast addr)

def isUnicast (config : InterfaceConfig) (addr : Ipv4Address) : Bool :=
  !(config.isBroadcast addr || addr.isMulticast || addr == .unspecified)

def isUnicastAddr (config : InterfaceConfig) : IpAddress → Bool
  | .v4 addr => config.isUnicast addr
  | .v6 _ => false

/-- The destinations whose packets the interface keeps: its own addresses,
broadcast addresses and joined groups. With AnyIP on, also every unicast address
whose route has one of the interface's own addresses as gateway. -/
def serves (config : InterfaceConfig) (dst : Ipv4Address) : Bool :=
  config.hasIpAddr dst || config.isBroadcast dst || config.groups.contains dst ||
    (config.anyIp && config.isUnicast dst && config.defaultRoute.any config.hasIpAddr)

/-- A unicast address in one of the interface's own networks. -/
def isNeighbour (config : InterfaceConfig) (addr : Ipv4Address) : Bool :=
  config.isUnicast addr && config.ipAddrs.any fun cidr =>
    let hosts := 2 ^ (32 - cidr.prefixLen)
    addr.toNat / hosts == cidr.address.toNat / hosts

/-- A destination of many hosts. -/
def isShared (config : InterfaceConfig) (addr : IpAddress) : Bool :=
  addr.isMulticast || match addr with
    | .v4 addr => config.isBroadcast addr
    | .v6 _ => false

def udpMatches (config : InterfaceConfig) (bound : IpListenEndpoint) (dst : IpEndpoint) : Bool :=
  bound.port == dst.port &&
    (bound.addr == none || bound.addr == some dst.addr || config.isShared dst.addr)

end InterfaceConfig

structure PollResult (I T U : Type) where
  interface : I
  sockets : SlotTable (Socket T U)
  frames : List Bytes

structure Smoltcp where
  /-- `Ipv4Packet::new_checked`, `TcpPacket::new_checked`, `UdpPacket::new_checked` and the
  accessors of the checked packets. -/
  ipv4NewChecked : Bytes → Option Ipv4Packet
  tcpNewChecked : Bytes → Option TcpPacket
  udpNewChecked : Bytes → Option UdpPacket
  /-- The well-formed TCP segment or UDP datagram of an IP packet that is no fragment. -/
  segment : Bytes → Option Segment
  datagram : Bytes → Option Datagram
  TcpSocket : Type
  tcpNew : (rx tx : Nat) → TcpSocket
  tcpListen : TcpSocket → IpListenEndpoint → Except ListenError TcpSocket
  tcpState : TcpSocket → TcpState
  tcpCanRecv : TcpSocket → Bool
  tcpCanSend : TcpSocket → Bool
  /-- `recv` shows its closure the head of the receive buffer and removes as many bytes as the
  closure says; the shown bytes are returned here. -/
  tcpRecv : TcpSocket → (Bytes → Nat) → Except TcpRecvError (Bytes × TcpSocket)
  tcpSendSlice : TcpSocket → Bytes → Except TcpSendError (Nat × TcpSocket)
  tcpClose : TcpSocket → TcpSocket
  tcpView : TcpSocket → TcpView
  /-- The unsent bytes that the peer's window admits. -/
  tcpOutgoing : TcpSocket → Bytes
  /-- An unsent FIN is to follow them. -/
  tcpFinDue : TcpSocket → Bool
  /-- How many bytes behind the queued ones the window admits. -/
  tcpWindow : TcpSocket → Nat
  /-- A FIN that is queued now may follow the outgoing bytes. -/
  tcpFinFits : TcpSocket → Bool
  /-- The most bytes of one segment. -/
  tcpMss : TcpSocket → Nat
  /-- Nagle's algorithm holds the outgoing bytes back until earlier ones are acknowledged. -/
  tcpHeld : TcpSocket → Bool
  /-- The bytes of the receive buffer, also those that came out of order, by their places in
  the stream of the peer. -/
  tcpBuffered : TcpSocket → Nat → Option UInt8
  /-- How many bytes have been read. -/
  tcpRead : TcpSocket → Nat
  /-- The sequence number of the first byte of the peer. -/
  tcpStart : TcpSocket → UInt32
  UdpSocket : Type
  udpNew : (metadata buffer : Nat) → UdpSocket
  udpBind : UdpSocket → IpListenEndpoint → Except BindError UdpSocket
  udpRecv : UdpSocket → Except UdpRecvError (Bytes × UdpMetadata × UdpSocket)
  udpSendSlice : UdpSocket → Bytes → IpEndpoint → Except UdpSendError UdpSocket
  udpEndpoint : UdpSocket → IpListenEndpoint
  udpRx : UdpSocket → List Datagram
  /-- The datagrams that wait to be sent, with their destinations. -/
  udpTx : UdpSocket → List (Bytes × IpEndpoint)
  udpRoom : UdpSocket → Bytes → Bool
  /-- The index that `SocketSet::add` uses. -/
  freeSlot : SlotTable (Socket TcpSocket UdpSocket) → SocketHandle
  Interface : Type
  interfaceNew : Interface
  pushIpAddr : Interface → Ipv4Cidr → Option Interface
  addDefaultIpv4Route : Interface → Ipv4Address → Option Interface
  config : Interface → InterfaceConfig
  /-- The interface does not discard a packet with this source and destination. -/
  accepts : Interface → (src dst : IpAddress) → Bool
  /-- What the interface reads of a packet: the segment or datagram of a whole one, or the one
  that a fragment completes. -/
  readSegment : Interface → Instant → Bytes → Option Segment
  readDatagram : Interface → Instant → Bytes → Option Datagram
  /-- The sockets when a poll has read its one packet and run the timers, before each of them
  transmits. -/
  ingress : Interface → Instant → Bytes → SlotTable (Socket TcpSocket UdpSocket) →
    SlotTable (Socket TcpSocket UdpSocket)
  /-- `Interface::poll` on the packets that `Device::receive` yields; `frames` are what it
  transmits. -/
  poll : Interface → Instant → List Bytes → SlotTable (Socket TcpSocket UdpSocket) →
    PollResult Interface TcpSocket UdpSocket

abbrev SocketSet (S : Smoltcp) := SlotTable (Socket S.TcpSocket S.UdpSocket)

namespace Smoltcp
variable (S : Smoltcp)

def tcpPending (t : S.TcpSocket) : Bool := !(S.tcpOutgoing t).isEmpty || S.tcpFinDue t

def takesDatagram (interface : S.Interface) (d : Datagram) :
    Socket S.TcpSocket S.UdpSocket → Bool
  | .udp u => (S.config interface).udpMatches (S.udpEndpoint u) d.dst
  | .tcp _ => false

def takesSegment (segment : Segment) : Socket S.TcpSocket S.UdpSocket → Bool
  | .tcp t => (S.tcpView t).takes segment
  | .udp _ => false

/-- The slot whose socket is given a datagram: the first, in slot order, that is
offered it. -/
def udpTaker (interface : S.Interface) (sockets : SocketSet S) (d : Datagram) :
    Option SocketHandle :=
  if S.accepts interface d.src.addr d.dst.addr then sockets.firstSlot (S.takesDatagram interface d)
  else none

/-- The slot whose socket is given a segment: the first, in slot order, that takes it. -/
def tcpTaker (interface : S.Interface) (sockets : SocketSet S) (segment : Segment) :
    Option SocketHandle :=
  if S.accepts interface segment.src.addr segment.dst.addr then
    sockets.firstSlot (S.takesSegment segment)
  else none

section
variable {S} {interface : S.Interface} {sockets : SocketSet S} {h : SocketHandle}

theorem tcpTaker_eq_some {segment : Segment} : S.tcpTaker interface sockets segment = some h ↔
    S.accepts interface segment.src.addr segment.dst.addr = true ∧
      sockets.firstSlot (S.takesSegment segment) = some h := by
  rw [tcpTaker, Option.ite_none_right_eq_some]

theorem udpTaker_eq_some {d : Datagram} : S.udpTaker interface sockets d = some h ↔
    S.accepts interface d.src.addr d.dst.addr = true ∧
      sockets.firstSlot (S.takesDatagram interface d) = some h := by
  rw [udpTaker, Option.ite_none_right_eq_some]

theorem takes_of_tcpTaker {segment : Segment}
    (taken : S.tcpTaker interface sockets segment = some h) :
    ∃ t, sockets.get h = some (.tcp t) ∧ (S.tcpView t).takes segment = true := by
  obtain ⟨⟨socket, held, takes⟩, _⟩ :=
    SlotTable.firstSlot_eq_some.mp (tcpTaker_eq_some.mp taken).2
  cases socket with
  | tcp t => exact ⟨t, held, takes⟩
  | udp u => contradiction

theorem takes_of_udpTaker {d : Datagram} (taken : S.udpTaker interface sockets d = some h) :
    ∃ u, sockets.get h = some (.udp u) ∧ S.takesDatagram interface d (.udp u) = true := by
  obtain ⟨⟨socket, held, takes⟩, _⟩ :=
    SlotTable.firstSlot_eq_some.mp (udpTaker_eq_some.mp taken).2
  cases socket with
  | tcp t => contradiction
  | udp u => exact ⟨u, held, takes⟩

end

/-- A connection is one that a SYN for the socket has asked for. -/
def Causes (interface : S.Interface) (now : Instant) (packet : Bytes) (v : TcpView) :
    Happening → Prop
  | .syn localEnd remote => ∃ segment, S.readSegment interface now packet = some segment ∧
      segment.syn = true ∧ segment.ack = false ∧ segment.dst = localEnd ∧ segment.src = remote ∧
      S.accepts interface remote.addr localEnd.addr = true ∧ v.bound.covers localEnd = true
  | _ => True

/-- Documented behaviour of the calls on sockets, socket sets and interfaces. -/
structure ApiLaws : Prop where
  freeSlot_free : ∀ sockets : SocketSet S, sockets.Free (S.freeSlot sockets)
  tcp_listen : ∀ rx tx endpoint, rx ≤ 2 ^ 30 → endpoint.port ≠ 0 →
    ∃ t, S.tcpListen (S.tcpNew rx tx) endpoint = .ok t ∧
      S.tcpView t = { TcpView.fresh with state := .listen, bound := endpoint } ∧
      S.tcpPending t = false ∧ ∀ place, S.tcpBuffered t place = none
  tcp_listen_unaddressable : ∀ rx tx endpoint, endpoint.port = 0 →
    S.tcpListen (S.tcpNew rx tx) endpoint = .error .unaddressable
  tcp_state : ∀ t, S.tcpState t = (S.tcpView t).state
  tcp_can_recv : ∀ t, S.tcpCanRecv t = true ↔ (S.tcpView t).recvQueue ≠ []
  tcp_recv : ∀ t take, (∀ data, take data ≤ data.length) → (S.tcpView t).recvQueue ≠ [] →
    ∃ data t', S.tcpRecv t take = .ok (data, t') ∧ data ≠ [] ∧
      data <+: (S.tcpView t).recvQueue ∧ S.tcpOutgoing t' = S.tcpOutgoing t ∧
      S.tcpFinDue t' = S.tcpFinDue t ∧
      S.tcpView t' = { S.tcpView t with recvQueue := (S.tcpView t).recvQueue.drop (take data) }
  tcp_send : ∀ t bytes n t', S.tcpSendSlice t bytes = .ok (n, t') →
    n ≤ bytes.length ∧ (S.tcpView t).maySend = true ∧
      S.tcpView t' = { S.tcpView t with sendQueue := (S.tcpView t).sendQueue ++ bytes.take n } ∧
      S.tcpOutgoing t' = S.tcpOutgoing t ++ (bytes.take n).take (S.tcpWindow t) ∧
      S.tcpFinDue t' = S.tcpFinDue t
  tcp_close : ∀ t, S.tcpView (S.tcpClose t) = (S.tcpView t).close ∧
    S.tcpOutgoing (S.tcpClose t) = S.tcpOutgoing t ∧
    S.tcpFinDue (S.tcpClose t) = (S.tcpFinDue t || S.tcpFinFits t)
  udp_bind : ∀ metadata buffer endpoint, endpoint.port ≠ 0 →
    ∃ u, S.udpBind (S.udpNew metadata buffer) endpoint = .ok u ∧
      S.udpEndpoint u = endpoint ∧ S.udpRx u = [] ∧ S.udpTx u = [] ∧
      ∀ payload, 0 < metadata → payload.length ≤ buffer → S.udpRoom u payload = true
  udp_bind_unaddressable : ∀ metadata buffer endpoint, endpoint.port = 0 →
    S.udpBind (S.udpNew metadata buffer) endpoint = .error .unaddressable
  udp_recv_exhausted : ∀ u, S.udpRx u = [] → S.udpRecv u = .error .exhausted
  udp_recv : ∀ u d rest, S.udpRx u = d :: rest →
    ∃ u', S.udpRecv u = .ok (d.payload, ⟨d.src, some d.dst.addr⟩, u') ∧ S.udpRx u' = rest ∧
      S.udpTx u' = S.udpTx u ∧ S.udpEndpoint u' = S.udpEndpoint u
  udp_send : ∀ u bytes endpoint u', S.udpSendSlice u bytes endpoint = .ok u' →
    S.udpTx u' = S.udpTx u ++ [(bytes, endpoint)] ∧ S.udpRx u' = S.udpRx u ∧
      S.udpEndpoint u' = S.udpEndpoint u
  interface_new : (S.config S.interfaceNew).ipAddrs = [] ∧ (S.config S.interfaceNew).anyIp = false ∧
    ∀ group ∈ (S.config S.interfaceNew).groups, group.isMulticast = true
  push_ip_addr : ∀ interface cidr, (S.config interface).ipAddrs = [] →
    ∃ interface', S.pushIpAddr interface cidr = some interface' ∧
      S.config interface' = { S.config interface with ipAddrs := [cidr] }
  add_default_ipv4_route : ∀ interface gateway, (S.config interface).defaultRoute = none →
    ∃ interface', S.addDefaultIpv4Route interface gateway = some interface' ∧
      S.config interface' = { S.config interface with defaultRoute := some gateway }
  interface_routes : (S.config S.interfaceNew).defaultRoute = none

/-- Documented frame of `Interface::poll`: it adds and removes no socket, leaves
bound endpoints alone, and takes TCP sockets along the state diagram. -/
structure PollLaws : Prop where
  poll_config : ∀ interface now packets sockets,
    S.config (S.poll interface now packets sockets).interface = S.config interface
  poll_free : ∀ interface now packets sockets h, sockets.get h = none →
    (S.poll interface now packets sockets).sockets.get h = none
  poll_udp : ∀ interface now packets sockets h u, sockets.get h = some (.udp u) →
    ∃ u', (S.poll interface now packets sockets).sockets.get h = some (.udp u') ∧
      S.udpEndpoint u' = S.udpEndpoint u
  poll_tcp : ∀ interface now packet sockets h t, sockets.get h = some (.tcp t) →
    ∃ t' happenings, (S.poll interface now [packet] sockets).sockets.get h = some (.tcp t') ∧
      (S.tcpView t).follow happenings = some (S.tcpView t') ∧
      ∀ e ∈ happenings, S.Causes interface now packet (S.tcpView t) e

/-- The interface reads packets with the same checked parsers that are offered to
callers. -/
structure WireLaws : Prop where
  segment_wire : ∀ packet segment src dst, S.segment packet = some segment →
    segment.src.addr = .v4 src → segment.dst.addr = .v4 dst →
    ∃ ip tcp, S.ipv4NewChecked packet = some ip ∧ ip.srcAddr = src ∧ ip.dstAddr = dst ∧
      ip.nextHeader = .tcp ∧ S.tcpNewChecked ip.payload = some tcp ∧
      tcp.srcPort = segment.src.port ∧ tcp.dstPort = segment.dst.port ∧
      tcp.syn = segment.syn ∧ tcp.ack = segment.ack ∧ tcp.seqNumber = segment.seqNumber
  datagram_wire : ∀ packet d src dst, S.datagram packet = some d →
    d.src.addr = .v4 src → d.dst.addr = .v4 dst →
    ∃ ip udp, S.ipv4NewChecked packet = some ip ∧ ip.srcAddr = src ∧ ip.dstAddr = dst ∧
      ip.nextHeader = .udp ∧ S.udpNewChecked ip.payload = some udp ∧
      udp.srcPort = d.src.port ∧ udp.dstPort = d.dst.port
  datagram_version : ∀ packet d, S.datagram packet = some d →
    ((∃ src, d.src.addr = .v4 src) ↔ ∃ dst, d.dst.addr = .v4 dst)
  datagram_size : ∀ packet d, S.datagram packet = some d → d.payload.length ≤ 65536

/-- Documented demultiplexing of the single packet in a poll. -/
structure DeliveryLaws : Prop where
  accepts_serves : ∀ interface src dst, S.accepts interface src (.v4 dst) = true →
    (S.config interface).serves dst = true
  serves_accepts : ∀ interface src dst, (S.config interface).isNeighbour src = true →
    (S.config interface).serves dst = true → S.accepts interface (.v4 src) (.v4 dst) = true
  segment_whole : ∀ interface now packet segment, S.segment packet = some segment →
    S.readSegment interface now packet = some segment
  datagram_whole : ∀ interface now packet d, S.datagram packet = some d →
    S.readDatagram interface now packet = some d
  datagram_fits : ∀ interface now packet d, S.readDatagram interface now packet = some d →
    d.payload.length ≤ 65536
  udp_delivery : ∀ interface now packet sockets h u u', sockets.get h = some (.udp u) →
    (S.poll interface now [packet] sockets).sockets.get h = some (.udp u') →
    S.udpRx u' = S.udpRx u ++ match S.readDatagram interface now packet with
      | some d =>
          if S.udpTaker interface sockets d = some h ∧ S.udpRoom u d.payload = true then [d] else []
      | none => []
  syn_delivery : ∀ interface now packet sockets segment h t,
    S.readSegment interface now packet = some segment → segment.syn = true → segment.ack = false →
    S.tcpTaker interface sockets segment = some h → sockets.get h = some (.tcp t) →
    (S.tcpView t).state = .listen →
    ∃ t', (S.poll interface now [packet] sockets).sockets.get h = some (.tcp t') ∧
      (S.tcpView t').state = .synReceived ∧
      ∃ frame ∈ (S.poll interface now [packet] sockets).frames, ∃ reply,
        S.segment frame = some reply ∧ reply.syn = true ∧ reply.ack = true ∧
          reply.src = segment.dst ∧ reply.dst = segment.src
  /-- Without a segment for it only the end of TIME-WAIT changes a socket. -/
  tcp_kept : ∀ interface now packet sockets h t t', sockets.get h = some (.tcp t) →
    (∀ segment, S.readSegment interface now packet = some segment →
      S.tcpTaker interface sockets segment ≠ some h) →
    (S.poll interface now [packet] sockets).sockets.get h = some (.tcp t') →
    S.tcpView t' = S.tcpView t ∨
      ∃ cleared, (Happening.expired cleared).apply (S.tcpView t) = some (S.tcpView t')

/-- Documented receive half of a TCP socket: its buffer holds bytes of segments that it has
taken, at the places that their sequence numbers say. -/
structure StreamLaws : Prop where
  queue_buffered : ∀ t i b, (S.tcpView t).recvQueue[i]? = some b →
    S.tcpBuffered t (S.tcpRead t + i) = some b
  recv_buffered : ∀ t take data t', S.tcpRecv t take = .ok (data, t') →
    S.tcpStart t' = S.tcpStart t ∧
      ∀ place b, S.tcpBuffered t' place = some b → S.tcpBuffered t place = some b
  send_buffered : ∀ t bytes n t', S.tcpSendSlice t bytes = .ok (n, t') →
    S.tcpStart t' = S.tcpStart t ∧ S.tcpBuffered t' = S.tcpBuffered t
  close_buffered : ∀ t, S.tcpStart (S.tcpClose t) = S.tcpStart t ∧
    S.tcpBuffered (S.tcpClose t) = S.tcpBuffered t
  poll_buffered : ∀ interface now packet sockets h t t', sockets.get h = some (.tcp t) →
    (S.poll interface now [packet] sockets).sockets.get h = some (.tcp t') →
    ∀ place b, S.tcpBuffered t' place = some b →
      (S.tcpBuffered t place = some b ∧ S.tcpStart t' = S.tcpStart t) ∨
      ∃ segment, S.readSegment interface now packet = some segment ∧
        S.tcpTaker interface sockets segment = some h ∧
        segment.Carries (S.tcpStart t' + .ofNat place) b

/-- The endpoints of a segment that the interface reads. -/
def Connects (localEnd remote : IpEndpoint) : Prop :=
  ∃ interface now packet segment, S.readSegment interface now packet = some segment ∧
    segment.dst = localEnd ∧ segment.src = remote

/-- Documented halves of a poll, over a device with this MTU: the packet is read, and then each
socket sends one packet, if it has one to send. -/
structure EgressLaws (mtu : Nat) : Prop where
  ingress_free : ∀ interface now packet sockets h, sockets.get h = none →
    (S.ingress interface now packet sockets).get h = none
  ingress_udp : ∀ interface now packet sockets h u, sockets.get h = some (.udp u) →
    ∃ u', (S.ingress interface now packet sockets).get h = some (.udp u') ∧ S.udpTx u' = S.udpTx u ∧
      S.udpEndpoint u' = S.udpEndpoint u
  ingress_tcp : ∀ interface now packet sockets h t, sockets.get h = some (.tcp t) →
    ∃ t' happenings, (S.ingress interface now packet sockets).get h = some (.tcp t') ∧
      (S.tcpView t).follow happenings = some (S.tcpView t') ∧
      ∀ e ∈ happenings, S.Causes interface now packet (S.tcpView t) e
  poll_udp : ∀ interface now packet sockets h u u',
    (S.ingress interface now packet sockets).get h = some (.udp u) →
    (S.poll interface now [packet] sockets).sockets.get h = some (.udp u') →
    S.udpTx u' = (S.udpTx u).tail
  poll_tcp : ∀ interface now packet sockets h t t',
    (S.ingress interface now packet sockets).get h = some (.tcp t) →
    (S.poll interface now [packet] sockets).sockets.get h = some (.tcp t') →
    S.tcpPending t' = if S.tcpHeld t then S.tcpPending t
      else decide (S.tcpMss t < (S.tcpOutgoing t).length)
  tcp_connected : ∀ t, S.tcpPending t = true → (S.tcpView t).state.isConnected = true
  udp_frame : ∀ interface now packet sockets h u src port payload dst dstPort rest,
    (S.ingress interface now packet sockets).get h = some (.udp u) →
    S.udpEndpoint u = ⟨some (.v4 src), port⟩ → S.udpTx u = (payload, ⟨.v4 dst, dstPort⟩) :: rest →
    payload.length + 28 ≤ mtu →
    ∃ frame ∈ (S.poll interface now [packet] sockets).frames,
      S.datagram frame = some ⟨⟨.v4 src, port⟩, ⟨.v4 dst, dstPort⟩, payload⟩
  tcp_frame : ∀ interface now packet sockets h t localEnd remote,
    (S.ingress interface now packet sockets).get h = some (.tcp t) → S.tcpHeld t = false →
    S.tcpPending t = true → (S.tcpView t).tuple = some (localEnd, remote) →
    S.Connects localEnd remote →
    ∃ frame ∈ (S.poll interface now [packet] sockets).frames, ∃ segment,
      S.segment frame = some segment ∧ segment.src = localEnd ∧ segment.dst = remote ∧
        segment.payload = (S.tcpOutgoing t).take (S.tcpMss t) ∧
        segment.fin = (S.tcpFinDue t && decide ((S.tcpOutgoing t).length ≤ S.tcpMss t))
  frame_mtu : ∀ interface now packet sockets,
    ∀ frame ∈ (S.poll interface now [packet] sockets).frames, ∀ d, S.datagram frame = some d →
      d.payload.length + 28 ≤ mtu

/-- Documented send half of a TCP socket whose transmit buffer has this capacity. -/
structure SendLaws (capacity : S.TcpSocket → Nat) : Prop where
  tcp_can_send : ∀ t, S.tcpCanSend t = true ↔
    (S.tcpView t).maySend = true ∧ (S.tcpView t).sendQueue.length < capacity t
  tcp_send_fits : ∀ t bytes, S.tcpCanSend t = true →
    ∃ t', S.tcpSendSlice t bytes =
        .ok (min bytes.length (capacity t - (S.tcpView t).sendQueue.length), t') ∧
      capacity t' = capacity t

/-- A FIN is queued behind the bytes, and all of it has been transmitted. -/
def FinOut (drained : S.TcpSocket → Bool) (t : S.TcpSocket) : Prop :=
  (S.tcpView t).state.awaitsFinAck = true ∧ drained t = true

/-- Documented end of our side of a connection: a FIN is queued by a close, and leaves
behind the bytes in a poll. `drained` says that nothing that was queued is left to transmit;
`sends` is what the socket of a slot transmits in a poll. -/
structure FinLaws (drained : S.TcpSocket → Bool)
    (sends : S.Interface → Instant → Bytes → SocketSet S → SocketHandle → List Bytes) : Prop where
  sends_frames : ∀ interface now packet sockets h,
    sends interface now packet sockets h ⊆ (S.poll interface now [packet] sockets).frames
  recv_drained : ∀ t take data t', S.tcpRecv t take = .ok (data, t') → drained t' = drained t
  close_queues : ∀ t, (S.tcpView t).state.awaitsFinAck = false → ¬ S.FinOut drained (S.tcpClose t)
  close_again : ∀ t, (S.tcpView t).state.awaitsFinAck = true → drained (S.tcpClose t) = drained t
  fin_sent : ∀ interface now packet sockets h t t' localEnd remote,
    sockets.get h = some (.tcp t) →
    (S.poll interface now [packet] sockets).sockets.get h = some (.tcp t') →
    S.FinOut drained t' → (S.tcpView t').tuple = some (localEnd, remote) →
    S.Connects localEnd remote →
    S.FinOut drained t ∨ ∃ frame ∈ sends interface now packet sockets h, ∃ segment,
      S.segment frame = some segment ∧ segment.fin = true ∧ segment.src = localEnd ∧
        segment.dst = remote
  /-- No socket is aborted, so nothing else makes it send a FIN or a RST. -/
  fin_only : ∀ interface now packet sockets h t frame segment, sockets.get h = some (.tcp t) →
    frame ∈ sends interface now packet sockets h → S.segment frame = some segment →
    segment.fin = true ∨ segment.rst = true →
    ∃ t', (S.poll interface now [packet] sockets).sockets.get h = some (.tcp t') ∧
      S.FinOut drained t'

end Smoltcp

end StunnelIos
