import StunnelIos.Smoltcp.Lifecycle
import StunnelIos.Smoltcp.Wire

/-! A concrete stack with the documented behaviour, small enough to be run. Its only timer is
that of a packet put together from fragments. It sends no error messages and no bare resets,
reads no TCP options, and has the initial sequence number 0 and an open window. -/
namespace StunnelIos

/-- The event takes place if it is possible. -/
def TcpView.advance (v : TcpView) (e : Happening) : TcpView := (e.apply v).getD v

theorem TcpView.Coherent.advance {v : TcpView} (coherent : v.Coherent) {e : Happening}
    (fits : e.Fits v) : (v.advance e).Coherent := by
  unfold TcpView.advance
  cases applied : e.apply v with
  | none => exact coherent
  | some w => exact (Happening.edge applied).coherent coherent fits

theorem TcpView.advance_bound (v : TcpView) (e : Happening) : (v.advance e).bound = v.bound := by
  unfold TcpView.advance
  cases applied : e.apply v with
  | none => rfl
  | some w => exact (Happening.edge applied).bound

/-- Nothing is exchanged before the handshake. -/
def TcpView.Unused (v : TcpView) : Prop :=
  v.state = .listen ∨ v.state = .synReceived → v.recvQueue = [] ∧ v.sendQueue = []

theorem Happening.Edge.unused {e : Happening} {v w : TcpView} (edge : Edge v e w)
    (unused : v.Unused) : w.Unused := by
  cases edge with
  | syn state => exact fun _ => unused (.inl state)
  | rstHandshake state => exact fun _ => unused (.inr state)
  | data state =>
      intro early
      rcases state with state | state | state <;> simp [state] at early
  | acked => exact fun early => by simp [unused early]
  | handshake | fin | finWhileClosing | finLast | finAcked | finAckedClosing | finAckedLast
  | expired | rst => exact fun early => by simp at early

theorem TcpView.Unused.advance {v : TcpView} (unused : v.Unused) (e : Happening) :
    (v.advance e).Unused := by
  unfold TcpView.advance
  cases applied : e.apply v with
  | none => exact unused
  | some w => exact (Happening.edge applied).unused unused

theorem TcpView.Unused.follow {v w : TcpView} (unused : v.Unused) {happenings : List Happening}
    (followed : v.follow happenings = some w) : w.Unused :=
  TcpView.follow_induct followed unused fun _ _ _ _ unused applied =>
    (Happening.edge applied).unused unused

theorem TcpView.Unused.close {v : TcpView} (unused : v.Unused) : v.close.Unused := by
  unfold TcpView.close
  split
  all_goals first
    | exact fun early => by simp at early
    | exact unused

theorem TcpView.Unused.send {v : TcpView} (may : v.maySend = true) (bytes : Bytes) :
    ({ v with sendQueue := bytes } : TcpView).Unused := by
  intro early
  obtain state | state : v.state = .listen ∨ v.state = .synReceived := early <;>
    simp [maySend, state] at may

theorem TcpView.close_sendQueue (v : TcpView) : v.close.sendQueue = v.sendQueue := by
  unfold close
  split <;> rfl

theorem TcpView.close_recvQueue (v : TcpView) : v.close.recvQueue = v.recvQueue := by
  unfold close
  split <;> rfl

/-- The number of sent bytes that are acknowledged. -/
def Happening.freed : Happening → Nat
  | .acked count => count
  | _ => 0

theorem Happening.Edge.sendQueue {e : Happening} {v w : TcpView} (edge : Edge v e w) :
    w.sendQueue = v.sendQueue.drop e.freed := by
  cases edge <;> rfl

namespace Reference

/-- The MTU of the device. -/
def mtu : Nat := 1500

/-- The segment size of a peer that has asked for no other. -/
def mss : Nat := 536

/-- `una` numbers the first byte of the send queue, of which `sent` bytes have been
transmitted; `irs` is the initial sequence number of the peer, of whose bytes `read` have been
read. -/
structure Tcp where
  view : TcpView
  coherent : view.Coherent
  unused : view.Unused
  txCapacity : Nat
  una : UInt32
  irs : UInt32
  read : Nat
  sent : Nat
  within : sent ≤ view.sendQueue.length
  finSent : Bool
  ackDue : Bool

namespace Tcp

def new (_rx tx : Nat) : Tcp where
  view := .fresh
  coherent := ⟨fun _ => rfl, by simp [TcpView.fresh]⟩
  unused := fun _ => ⟨rfl, rfl⟩
  txCapacity := tx
  una := 0
  irs := 0
  read := 0
  sent := 0
  within := Nat.zero_le _
  finSent := false
  ackDue := false

def listen (t : Tcp) (endpoint : IpListenEndpoint) : Except ListenError Tcp :=
  if endpoint.port = 0 then .error .unaddressable
  else if t.view.state = .closed then
    .ok { t with
      view := { TcpView.fresh with state := .listen, bound := endpoint }
      coherent := ⟨fun _ => rfl, by simp [TcpView.fresh]⟩
      unused := fun _ => ⟨rfl, rfl⟩
      sent := 0
      within := Nat.zero_le _ }
  else .error .invalidState

def mayRecv (t : Tcp) : Bool :=
  t.view.state == .established || t.view.state == .finWait1 || t.view.state == .finWait2 ||
    !t.view.recvQueue.isEmpty

def recv (t : Tcp) (take : Bytes → Nat) : Except TcpRecvError (Bytes × Tcp) :=
  if t.mayRecv then
    .ok (t.view.recvQueue, { t with
      view := { t.view with recvQueue := t.view.recvQueue.drop (take t.view.recvQueue) }
      coherent := t.coherent
      unused := fun early => by simp [t.unused early]
      read := t.read + take t.view.recvQueue })
  else
    match t.view.state with
    | .closeWait | .closing | .lastAck | .timeWait => .error .finished
    | _ => .error .invalidState

def sendSlice (t : Tcp) (bytes : Bytes) : Except TcpSendError (Nat × Tcp) :=
  if may : t.view.maySend then
    let n := min bytes.length (t.txCapacity - t.view.sendQueue.length)
    .ok (n, { t with
      view := { t.view with sendQueue := t.view.sendQueue ++ bytes.take n }
      coherent := t.coherent
      unused := .send may _
      within := Nat.le_trans t.within (by simp) })
  else .error .invalidState

/-- The states in which a FIN is queued and not acknowledged. -/
def isClosing (t : Tcp) : Bool := t.view.state.awaitsFinAck

/-- A FIN that is queued now has not been sent. -/
def close (t : Tcp) : Tcp :=
  { t with
    view := t.view.close
    coherent := t.coherent.close
    unused := t.unused.close
    within := t.view.close_sendQueue ▸ t.within
    finSent := t.isClosing && t.finSent }

/-- The states behind a FIN of the peer. -/
def finCame (t : Tcp) : Bool :=
  t.view.state == .closeWait || t.view.state == .closing || t.view.state == .lastAck ||
    t.view.state == .timeWait

/-- The number that is expected next from the peer; its FIN has one too. -/
def nxt (t : Tcp) : UInt32 :=
  t.irs + .ofNat (1 + t.read + t.view.recvQueue.length + t.finCame.toNat)

/-- The states in which queued bytes are transmitted. -/
def isSending (t : Tcp) : Bool :=
  t.view.state == .established || t.view.state == .closeWait || t.view.state == .finWait1 ||
    t.view.state == .closing || t.view.state == .lastAck

/-- The bytes that have not been transmitted yet. -/
def outgoing (t : Tcp) : Bytes := if t.isSending then t.view.sendQueue.drop t.sent else []

def finDue (t : Tcp) : Bool := t.isClosing && !t.finSent

/-- A close queues a FIN. -/
def finFits (t : Tcp) : Bool :=
  t.view.state == .synReceived || t.view.state == .established || t.view.state == .closeWait

/-- Less than a segment waits while bytes are on their way, and more may be written. -/
def held (t : Tcp) : Bool :=
  decide (0 < t.sent) && decide (t.outgoing.length < mss) && !t.isClosing

/-- The FIN has been transmitted behind all queued bytes, and this acknowledges it. -/
def acksFin (t : Tcp) (s : Segment) : Bool :=
  t.finSent && t.sent == t.view.sendQueue.length && (s.ackNumber - t.una).toNat == t.sent + 1

/-- The number of queued bytes that a segment acknowledges. -/
def acked (t : Tcp) (s : Segment) : Nat :=
  if t.acksFin s then t.sent
  else if (s.ackNumber - t.una).toNat ≤ t.sent then (s.ackNumber - t.una).toNat
  else 0

/-- What a segment does to a connection. -/
def exchange (t : Tcp) (s : Segment) : List Happening :=
  if s.rst then if s.seqNumber = t.nxt then [.rst] else []
  else if s.syn || !s.ack then []
  else
    (if s.ackNumber = t.una then [.handshake] else []) ++
    (if t.acked s = 0 then [] else [.acked (t.acked s)]) ++
    (if t.acksFin s then [.finAcked] else []) ++
    (if s.seqNumber = t.nxt ∧ s.payload ≠ [] then [.data s.payload] else []) ++
    (if s.seqNumber = t.nxt ∧ s.fin then [.fin] else [])

def happenings (t : Tcp) (s : Segment) : List Happening :=
  if t.view.state = .listen then if s.syn && !s.ack then [.syn s.dst s.src] else []
  else t.exchange s

theorem syn_happens {t : Tcp} {s : Segment} {localEnd remote : IpEndpoint}
    (happens : .syn localEnd remote ∈ t.happenings s) :
    s.syn = true ∧ s.ack = false ∧ s.dst = localEnd ∧ s.src = remote := by
  unfold happenings at happens
  split at happens
  · split at happens
    · rename_i flags
      simp only [Bool.and_eq_true, Bool.not_eq_eq_eq_not, Bool.not_true] at flags
      simp only [List.mem_singleton, Happening.syn.injEq] at happens
      exact ⟨flags.1, flags.2, happens.1.symm, happens.2.symm⟩
    · simp at happens
  · unfold exchange at happens
    repeat' split at happens
    all_goals simp at happens

theorem happenings_fit {t : Tcp} {s : Segment} (taken : t.view.takes s = true) {e : Happening}
    (happens : e ∈ t.happenings s) {v : TcpView} (same : v.bound = t.view.bound) : e.Fits v := by
  cases e with
  | syn localEnd remote =>
      obtain ⟨_, _, rfl, _⟩ := syn_happens happens
      rw [Happening.Fits, same]
      exact t.coherent.covers taken
  | handshake | data | acked | fin | finAcked | expired | rst => trivial

/-- The view after the happenings, as far as each is possible. -/
def advanced (v : TcpView) (es : List Happening) : TcpView := es.foldl TcpView.advance v

theorem advanced_coherent {v : TcpView} {es : List Happening} (coherent : v.Coherent)
    (fit : ∀ e ∈ es, ∀ w : TcpView, w.bound = v.bound → e.Fits w) : (advanced v es).Coherent := by
  induction es generalizing v with
  | nil => exact coherent
  | cons e rest ih =>
      refine ih (coherent.advance (fit e (by simp) v rfl)) ?_
      intro f member w same
      exact fit f (by simp [member]) w (same.trans (v.advance_bound e))

theorem advanced_unused {v : TcpView} {es : List Happening} (unused : v.Unused) :
    (advanced v es).Unused := by
  induction es generalizing v with
  | nil => exact unused
  | cons e rest ih => exact ih (unused.advance e)

theorem advanced_sendQueue (v : TcpView) (es : List Happening) :
    v.sendQueue.length ≤ (advanced v es).sendQueue.length + (es.map Happening.freed).sum := by
  induction es generalizing v with
  | nil => exact Nat.le_refl _
  | cons e rest ih =>
      have step : v.sendQueue.length ≤ (v.advance e).sendQueue.length + e.freed := by
        unfold TcpView.advance
        cases applied : e.apply v with
        | none => exact Nat.le_add_right _ _
        | some w =>
            rw [Option.getD_some, (Happening.edge applied).sendQueue, List.length_drop]
            omega
      have later := ih (v.advance e)
      simp only [advanced, List.foldl_cons, List.map_cons, List.sum_cons] at later ⊢
      omega

theorem freed_happenings (t : Tcp) (s : Segment) :
    ((t.happenings s).map Happening.freed).sum ≤ t.acked s := by
  unfold happenings exchange
  split
  · split <;> simp [Happening.freed]
  · split
    · split <;> simp [Happening.freed]
    · split
      · simp
      · simp only [List.map_append, List.sum_append]
        split_ifs <;> simp [Happening.freed]

/-- The happenings that were possible lead to the same view. -/
theorem follow_advanced (v : TcpView) (es : List Happening) :
    ∃ fs, fs ⊆ es ∧ v.follow fs = some (advanced v es) := by
  induction es generalizing v with
  | nil => exact ⟨[], List.nil_subset _, rfl⟩
  | cons e rest ih =>
      obtain ⟨fs, within, followed⟩ := ih (v.advance e)
      cases applied : e.apply v with
      | none =>
          have same : v.advance e = v := by simp [TcpView.advance, applied]
          rw [same] at followed
          refine ⟨fs, List.subset_cons_of_subset e within, ?_⟩
          simpa only [advanced, List.foldl_cons, same] using followed
      | some w =>
          have same : v.advance e = w := by simp [TcpView.advance, applied]
          rw [same] at followed
          refine ⟨e :: fs, List.cons_subset_cons e within, ?_⟩
          simpa only [TcpView.follow, applied, Option.bind_some, advanced, List.foldl_cons,
            same] using followed

/-- A segment that the socket takes. -/
def receive (t : Tcp) (s : Segment) (taken : t.view.takes s = true) : Tcp :=
  { t with
    view := advanced t.view (t.happenings s)
    coherent := advanced_coherent t.coherent fun _ happens _ same => happenings_fit taken happens same
    unused := advanced_unused t.unused
    una := if t.view.state = .listen then 1 else t.una + .ofNat (t.acked s)
    irs := if t.view.state = .listen then s.seqNumber else t.irs
    sent := t.sent - t.acked s
    within := by
      have queued := advanced_sendQueue t.view (t.happenings s)
      have freed := t.freed_happenings s
      have within := t.within
      omega
    ackDue := t.ackDue || s.syn || s.fin || !s.payload.isEmpty }

/-- The bytes of the next segment. -/
def payload (t : Tcp) : Bytes := if t.held then [] else t.outgoing.take mss

/-- It has the FIN. -/
def finGoes (t : Tcp) : Bool := t.finDue && decide (t.outgoing.length ≤ mss)

/-- What is transmitted in a poll: a SYN with ACK, or one segment. -/
def frame (t : Tcp) : Option Bytes :=
  match t.view.tuple with
  | some (⟨.v4 src, srcPort⟩, ⟨.v4 dst, dstPort⟩) =>
      if t.view.state = .synReceived then
        if t.ackDue then
          some (Wire.tcpFrame src dst srcPort dstPort (t.una - 1) t.nxt
            (Wire.flags true true false) [])
        else none
      else if !t.payload.isEmpty || t.finGoes || t.ackDue then
        some (Wire.tcpFrame src dst srcPort dstPort (t.una + .ofNat t.sent) t.nxt
          (Wire.flags false true t.finGoes) t.payload)
      else none
  | _ => none

theorem payload_length (t : Tcp) : t.sent + t.payload.length ≤ t.view.sendQueue.length := by
  have within := t.within
  unfold payload outgoing
  split_ifs <;> simp only [List.length_take, List.length_drop, List.length_nil] <;> omega

def transmitted (t : Tcp) : Tcp :=
  { t with
    sent := t.sent + t.payload.length
    within := t.payload_length
    finSent := t.finSent || t.finGoes
    ackDue := false }

/-- The bytes that wait to be read, by their places. -/
def buffered (t : Tcp) (place : Nat) : Option UInt8 :=
  if place < t.read then none else t.view.recvQueue[place - t.read]?

end Tcp

structure Udp where
  endpoint : IpListenEndpoint
  rx : List Datagram
  tx : List (Bytes × IpEndpoint)
  addressed : ∀ d ∈ tx, d.2.port ≠ 0
  metadata : Nat
  capacity : Nat

namespace Udp

def new (metadata capacity : Nat) : Udp := ⟨⟨none, 0⟩, [], [], by simp, metadata, capacity⟩

def bind (u : Udp) (endpoint : IpListenEndpoint) : Except BindError Udp :=
  if endpoint.port = 0 then .error .unaddressable
  else if u.endpoint.port = 0 then .ok { u with endpoint := endpoint }
  else .error .invalidState

def recv (u : Udp) : Except UdpRecvError (Bytes × UdpMetadata × Udp) :=
  match u.rx with
  | [] => .error .exhausted
  | d :: rest => .ok (d.payload, ⟨d.src, some d.dst.addr⟩, { u with rx := rest })

def fits (u : Udp) (waiting : List Bytes) (payload : Bytes) : Bool :=
  decide (waiting.length < u.metadata ∧
    (waiting.map List.length).sum + payload.length ≤ u.capacity)

def room (u : Udp) (payload : Bytes) : Bool := u.fits (u.rx.map Datagram.payload) payload

def isUnspecified : IpAddress → Bool
  | .v4 addr => addr == .unspecified
  | .v6 addr => addr.bits == 0

def sendSlice (u : Udp) (bytes : Bytes) (dst : IpEndpoint) : Except UdpSendError Udp :=
  if addressed : dst.port ≠ 0 then
    if u.endpoint.port = 0 ∨ isUnspecified dst.addr then .error .unaddressable
    else if u.fits (u.tx.map Prod.fst) bytes then
      .ok { u with
        tx := u.tx ++ [(bytes, dst)]
        addressed := by
          intro d member
          rcases List.mem_append.mp member with earlier | last
          · exact u.addressed d earlier
          · rwa [List.mem_singleton.mp last] }
    else .error .bufferFull
  else .error .unaddressable

/-- The next datagram, unless it does not fit the device. -/
def frame (u : Udp) : Option Bytes :=
  match u.endpoint.addr, u.tx with
  | some (.v4 src), (bytes, ⟨.v4 dst, dstPort⟩) :: _ =>
      if bytes.length + 28 ≤ mtu then some (Wire.udpFrame src dst u.endpoint.port dstPort bytes)
      else none
  | _, _ => none

def transmitted (u : Udp) : Udp :=
  { u with tx := u.tx.tail, addressed := fun d member => u.addressed d (List.mem_of_mem_tail member) }

end Udp

def receiveTcp (s : Segment) : Socket Tcp Udp → Socket Tcp Udp
  | .tcp t => if taken : t.view.takes s = true then .tcp (t.receive s taken) else .tcp t
  | .udp u => .udp u

def receiveUdp (d : Datagram) : Socket Tcp Udp → Socket Tcp Udp
  | .tcp t => .tcp t
  | .udp u => if u.room d.payload then .udp { u with rx := u.rx ++ [d] } else .udp u

def frame : Socket Tcp Udp → Option Bytes
  | .tcp t => t.frame
  | .udp u => u.frame

def transmitted : Socket Tcp Udp → Socket Tcp Udp
  | .tcp t => .tcp t.transmitted
  | .udp u => .udp u.transmitted

/-- A packet that comes in fragments: its identification, addresses and protocol, the time when
it is given up, its pieces by their offsets, the latest first, and its length once the last one
has come. -/
structure Assembly where
  key : UInt16 × Ipv4Address × Ipv4Address × IpProtocol
  expires : Instant
  pieces : List (Nat × Bytes)
  total : Option Nat

namespace Assembly

/-- A later piece overwrites what it overlaps. -/
def octet (pieces : List (Nat × Bytes)) (place : Nat) : Option UInt8 :=
  pieces.findSome? fun (offset, piece) =>
    if offset ≤ place then piece[place - offset]? else none

/-- All bytes up to the end are there, and none behind it. -/
def payload (assembly : Assembly) : Option Bytes :=
  match assembly.total with
  | some total =>
      if (octet assembly.pieces total).isNone &&
          (List.range total).all fun place => (octet assembly.pieces place).isSome then
        some ((List.range total).map fun place => (octet assembly.pieces place).getD 0)
      else none
  | none => none

/-- There is room for one packet only. -/
def add (assembly : Option Assembly) (now : Instant) (packet : Bytes) (ip : Ipv4Packet) :
    Option Assembly :=
  let key := (Wire.field16 packet 4, ip.srcAddr, ip.dstAddr, ip.nextHeader)
  let offset := (Wire.field16 packet 6).toNat % 8192 * 8
  let last := (Wire.field16 packet 6).toNat / 8192 % 2 == 0
  let assembly := assembly.getD ⟨key, now + 60000, [], none⟩
  if assembly.key = key then
    some { assembly with
      pieces := (offset, ip.payload) :: assembly.pieces
      total := if last then some (offset + ip.payload.length) else assembly.total }
  else none

end Assembly

structure Interface where
  config : InterfaceConfig
  assembly : Option Assembly

namespace Interface

/-- The packet that the interface goes on with, and the fragments that it keeps. -/
def receive (interface : Interface) (now : Instant) (packet : Bytes) :
    Option Ipv4Packet × Option Assembly :=
  let kept := interface.assembly.filter fun assembly => decide (now ≤ assembly.expires)
  match if Wire.isVersion4 packet then Wire.ipv4NewChecked packet else none with
  | none => (none, kept)
  | some ip =>
      if Wire.isWhole packet then (some ip, kept)
      else
        match Assembly.add kept now packet ip with
        | none => (none, kept)
        | some assembly =>
            match assembly.payload with
            | none => (none, some assembly)
            | some payload => (some { ip with payload := payload }, none)

def readSegment (interface : Interface) (now : Instant) (packet : Bytes) : Option Segment :=
  (interface.receive now packet).1.bind Wire.segmentOf

def readDatagram (interface : Interface) (now : Instant) (packet : Bytes) : Option Datagram :=
  (interface.receive now packet).1.bind Wire.datagramOf

end Interface

def accepts (config : InterfaceConfig) : IpAddress → IpAddress → Bool
  | .v4 src, .v4 dst => (config.isUnicast src || src == .unspecified) && config.serves dst
  | _, _ => false

def takesSegment (s : Segment) : Socket Tcp Udp → Bool
  | .tcp t => t.view.takes s
  | .udp _ => false

def takesDatagram (config : InterfaceConfig) (d : Datagram) : Socket Tcp Udp → Bool
  | .udp u => config.udpMatches u.endpoint d.dst
  | .tcp _ => false

/-- The first socket, in slot order, that takes the packet. -/
def taker (config : InterfaceConfig) (sockets : SlotTable (Socket Tcp Udp)) (src dst : IpEndpoint)
    (takes : Socket Tcp Udp → Bool) : Option SocketHandle :=
  if accepts config src.addr dst.addr then sockets.firstSlot takes else none

def giveTo (sockets : SlotTable (Socket Tcp Udp)) (taken : Option SocketHandle)
    (f : Socket Tcp Udp → Socket Tcp Udp) : SlotTable (Socket Tcp Udp) :=
  match taken with
  | some h => sockets.modify h f
  | none => sockets

/-- The sockets with what the interface has read of a packet. -/
def ingress (interface : Interface) (now : Instant) (packet : Bytes)
    (sockets : SlotTable (Socket Tcp Udp)) : SlotTable (Socket Tcp Udp) :=
  let config := interface.config
  match interface.readSegment now packet with
  | some s => giveTo sockets (taker config sockets s.src s.dst (takesSegment s)) (receiveTcp s)
  | none =>
      match interface.readDatagram now packet with
      | some d =>
          giveTo sockets (taker config sockets d.src d.dst (takesDatagram config d)) (receiveUdp d)
      | none => sockets

def ingressAll (now : Instant) : List Bytes → Interface × SlotTable (Socket Tcp Udp) →
    Interface × SlotTable (Socket Tcp Udp)
  | [], state => state
  | packet :: rest, (interface, sockets) =>
      ingressAll now rest ({ interface with assembly := (interface.receive now packet).2 },
        ingress interface now packet sockets)

/-- All packets are read, then each socket sends one packet. -/
def poll (interface : Interface) (now : Instant) (packets : List Bytes)
    (sockets : SlotTable (Socket Tcp Udp)) : PollResult Interface Tcp Udp :=
  let (interface, received) := ingressAll now packets (interface, sockets)
  { interface := interface
    sockets := received.map transmitted
    frames := received.slots.filterMap fun slot => slot.bind frame }

def stack : Smoltcp where
  ipv4NewChecked := Wire.ipv4NewChecked
  tcpNewChecked := Wire.tcpNewChecked
  udpNewChecked := Wire.udpNewChecked
  segment := Wire.segment
  datagram := Wire.datagram
  TcpSocket := Tcp
  tcpNew := Tcp.new
  tcpListen := Tcp.listen
  tcpState t := t.view.state
  tcpCanRecv t := !t.view.recvQueue.isEmpty
  tcpCanSend t := t.view.maySend && decide (t.view.sendQueue.length < t.txCapacity)
  tcpRecv := Tcp.recv
  tcpSendSlice := Tcp.sendSlice
  tcpClose := Tcp.close
  tcpView := Tcp.view
  tcpOutgoing := Tcp.outgoing
  tcpFinDue := Tcp.finDue
  tcpWindow t := t.txCapacity - t.view.sendQueue.length
  tcpFinFits := Tcp.finFits
  tcpMss _ := mss
  tcpHeld := Tcp.held
  tcpBuffered := Tcp.buffered
  tcpRead := Tcp.read
  tcpStart t := t.irs + 1
  UdpSocket := Udp
  udpNew := Udp.new
  udpBind := Udp.bind
  udpRecv := Udp.recv
  udpSendSlice := Udp.sendSlice
  udpEndpoint := Udp.endpoint
  udpRx := Udp.rx
  udpTx := Udp.tx
  udpRoom := Udp.room
  freeSlot := SlotTable.firstFree
  Interface := Interface
  interfaceNew := ⟨⟨[], false, none, [⟨224, 0, 0, 1⟩]⟩, none⟩
  pushIpAddr interface cidr :=
    if interface.config.ipAddrs.length < 2 then
      some { interface with config := { interface.config with
        ipAddrs := interface.config.ipAddrs ++ [cidr] } }
    else none
  addDefaultIpv4Route interface gateway :=
    some { interface with config := { interface.config with defaultRoute := some gateway } }
  config := Interface.config
  accepts interface := accepts interface.config
  readSegment := Interface.readSegment
  readDatagram := Interface.readDatagram
  ingress := ingress
  poll := poll

end Reference

end StunnelIos
