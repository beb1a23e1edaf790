import StunnelIos.Core.UdpDelivery

/-! Whether the stack takes the packets that open sessions. The core opens a session
for every destination; the interface keeps what is for one of its own addresses,
since its default route leads to itself but AnyIP is off. -/
namespace StunnelIos
variable {S : Smoltcp}

theorem TunnelConfig.serves_iff {config : InterfaceConfig} (tunnel : TunnelConfig config)
    {dst : Ipv4Address} (unicast : config.isUnicast dst = true) :
    config.serves dst = true ↔ dst = tunAddr := by
  have alone : config.isBroadcast dst = false ∧ dst.isMulticast = false := by
    simp only [InterfaceConfig.isUnicast, Bool.not_eq_true', Bool.or_eq_false_iff] at unicast
    exact unicast.1
  have ungrouped : dst ∉ config.groups := by
    intro joined
    rw [tunnel.groups dst joined] at alone
    exact absurd alone.2 (by simp)
  rw [eq_comm (a := dst)]
  simp [InterfaceConfig.serves, InterfaceConfig.hasIpAddr, tunnel.ipAddrs, tunnel.anyIp, alone,
    ungrouped]

/-- A connection attempt of a host in the subnet to a unicast address. -/
structure Attempt (interface : S.Interface) (bytes : Bytes) (s : Segment) (dst : Ipv4Address) :
    Prop where
  read : S.segment bytes = some s
  syn : s.syn = true
  ack : s.ack = false
  neighbour : ∃ src, s.src.addr = .v4 src ∧ (S.config interface).isNeighbour src = true
  to_v4 : s.dst.addr = .v4 dst
  unicast : (S.config interface).isUnicast dst = true

/-- The first datagram of a host in the subnet to a unicast address. -/
structure FirstDatagram (engine : StunnelEngine S) (bytes : Bytes) (d : Datagram)
    (dst : Ipv4Address) : Prop where
  read : S.datagram bytes = some d
  nonzero : d.dst.port ≠ 0
  unknown : engine.udpSessions.lookup (endpointToSocketAddr d.src) = none
  neighbour : ∃ src, d.src.addr = .v4 src ∧ (S.config engine.interface).isNeighbour src = true
  to_v4 : d.dst.addr = .v4 dst
  unicast : (S.config engine.interface).isUnicast dst = true

/-- The poll gives the SYN to a socket that listens on its destination, and that
socket answers it. -/
def SynAnswered (engine : StunnelEngine S) (bytes : Bytes) (now : Instant) (s : Segment) : Prop :=
  ∃ h t t', engine.sockets.get h = some (.tcp t) ∧ (S.tcpView t).state = .listen ∧
    (S.tcpView t).bound = ⟨some s.dst.addr, s.dst.port⟩ ∧
    (engine.delivered now bytes).sockets.get h = some (.tcp t') ∧
    (S.tcpView t').state = .synReceived ∧
    ∃ frame ∈ (S.poll engine.interface now [bytes] engine.sockets).frames, ∃ reply,
      S.segment frame = some reply ∧ reply.syn = true ∧ reply.ack = true ∧ reply.src = s.dst ∧
        reply.dst = s.src

/-- The poll queues the datagram on a socket that is bound to its destination. -/
def DatagramQueued (engine : StunnelEngine S) (bytes : Bytes) (now : Instant) (d : Datagram) :
    Prop :=
  ∃ h u u', engine.sockets.get h = some (.udp u) ∧
    S.udpEndpoint u = ⟨some d.dst.addr, d.dst.port⟩ ∧
    (engine.delivered now bytes).sockets.get h = some (.udp u') ∧ S.udpRx u' = S.udpRx u ++ [d]

/-- The packets that open sessions are delivered by the poll of the same call. -/
def DeliversOpening (ctx : CoreContext S) (bytes : Bytes) (now : Instant) (_ : CoreContext S) :
    Prop :=
  ∀ engine runtime opened dst,
    interceptPacket ctx.engine.value ctx.runtime bytes = .ok (engine, runtime, opened) →
    (∀ s, Attempt ctx.engine.value.interface bytes s dst → SynAnswered engine bytes now s) ∧
    ∀ d, FirstDatagram ctx.engine.value bytes d dst → DatagramQueued engine bytes now d

/-- The packets that open sessions are for the interface's own address. If an older
socket takes the packet before the new one, it listens too, or has room. -/
def OpensAtTunnel (ctx : CoreContext S) (bytes : Bytes) (_now : Instant) (_ : CoreContext S) :
    Prop :=
  ∀ dst,
    (∀ s, Attempt ctx.engine.value.interface bytes s dst → dst = tunAddr ∧
      ∀ g t, ctx.engine.value.sockets.firstSlot (S.takesSegment s) = some g →
        g < S.freeSlot ctx.engine.value.sockets →
        ctx.engine.value.sockets.get g = some (.tcp t) → (S.tcpView t).state = .listen) ∧
    ∀ d, FirstDatagram ctx.engine.value bytes d dst → dst = tunAddr ∧
      ∀ g u, ctx.engine.value.sockets.firstSlot (S.takesDatagram ctx.engine.value.interface d) =
        some g → g < S.freeSlot ctx.engine.value.sockets →
        ctx.engine.value.sockets.get g = some (.udp u) → S.udpRoom u d.payload = true

/-- The interface keeps what a host in the subnet sends to a unicast address exactly when
that address is its own. -/
theorem Sound.accepts_iff {R : Task → Socket S.TcpSocket S.UdpSocket → Prop}
    {ctx : CoreContext S} (delivery : S.DeliveryLaws) (sound : Sound R ctx)
    {src dst : Ipv4Address}
    (neighbour : (S.config ctx.engine.value.interface).isNeighbour src = true)
    (unicast : (S.config ctx.engine.value.interface).isUnicast dst = true) :
    S.accepts ctx.engine.value.interface (.v4 src) (.v4 dst) = true ↔ dst = tunAddr := by
  rw [← sound.config.serves_iff unicast]
  constructor
  · exact delivery.accepts_serves _ _ _
  · exact delivery.serves_accepts _ _ _ neighbour

theorem bound_of_takes {session : TcpSession} {t : S.TcpSocket} {s : Segment}
    (related : Serves S (.tcp session) (.tcp t)) (takes : (S.tcpView t).takes s = true) :
    (S.tcpView t).bound = ⟨some s.dst.addr, s.dst.port⟩ := by
  obtain ⟨⟨dst, port, _, _, _, bound⟩, _, coherent⟩ := related
  have covered := coherent.covers takes
  simp only [IpListenEndpoint.covers, bound, Bool.and_eq_true, Bool.or_eq_true, beq_iff_eq,
    reduceCtorEq, false_or] at covered
  rw [bound, covered.1, covered.2]

theorem Sound.bound_of_takes {ctx : CoreContext S} (sound : Sound (Serves S) ctx) {s : Segment}
    {h : SocketHandle} {t : S.TcpSocket}
    (held : ctx.engine.value.sockets.get h = some (.tcp t))
    (takes : (S.tcpView t).takes s = true) :
    (S.tcpView t).bound = ⟨some s.dst.addr, s.dst.port⟩ := by
  obtain ⟨id, task, _, _, related⟩ := sound.owned.related held
  cases task with
  | tcp session => exact StunnelIos.bound_of_takes related takes
  | udp session => exact related.elim

/-- A socket that has just been made to listen takes a SYN to its endpoint. -/
theorem Listening.takes {t : S.TcpSocket} {s : Segment} {dst : Ipv4Address}
    (listening : Listening S dst s.dst.port t) (to_v4 : s.dst.addr = .v4 dst)
    (nonzero : s.dst.port ≠ 0) (ack : s.ack = false) : S.takesSegment s (.tcp t) = true := by
  simp [Smoltcp.takesSegment, listening.1, TcpView.takes, TcpView.fresh, ack, nonzero,
    IpListenEndpoint.covers, to_v4]

section
variable {engine : StunnelEngine S} {bytes : Bytes} {now : Instant}

theorem synAnswered_iff_taker (delivery : S.DeliveryLaws) {s : Segment}
    (read : S.segment bytes = some s) (syn : s.syn = true) (ack : s.ack = false)
    (bound : ∀ h t, engine.sockets.get h = some (.tcp t) → (S.tcpView t).takes s = true →
      (S.tcpView t).bound = ⟨some s.dst.addr, s.dst.port⟩) :
    SynAnswered engine bytes now s ↔
      ∃ h t, S.tcpTaker engine.interface engine.sockets s = some h ∧
        engine.sockets.get h = some (.tcp t) ∧ (S.tcpView t).state = .listen := by
  have read := delivery.segment_whole engine.interface now bytes s read
  constructor
  · rintro ⟨h, t, t', held, listens, _, held', received, _⟩
    refine ⟨h, t, ?_, held, listens⟩
    -- A socket without a segment for it stays in LISTEN.
    by_contra other
    obtain kept | ⟨cleared, expired⟩ := delivery.tcp_kept _ now bytes _ h t t' held
      (fun _ read' => Option.some.inj (read.symm.trans read') ▸ other) held'
    · rw [kept, listens] at received
      contradiction
    · simp [Happening.apply, listens] at expired
  · rintro ⟨h, t, taken, held, listens⟩
    obtain ⟨_, there, takes⟩ := Smoltcp.takes_of_tcpTaker taken
    cases held.symm.trans there
    obtain ⟨t', held', received, reply⟩ :=
      delivery.syn_delivery _ now bytes _ s h t read syn ack taken held listens
    exact ⟨h, t, t', held, listens, bound h t held takes, held', received, reply⟩

theorem datagramQueued_iff_taker (poll : S.PollLaws) (delivery : S.DeliveryLaws) {d : Datagram}
    (read : S.datagram bytes = some d)
    (bound : ∀ h u, engine.sockets.get h = some (.udp u) →
      S.takesDatagram engine.interface d (.udp u) = true →
      S.udpEndpoint u = ⟨some d.dst.addr, d.dst.port⟩) :
    DatagramQueued engine bytes now d ↔
      ∃ h u, S.udpTaker engine.interface engine.sockets d = some h ∧
        engine.sockets.get h = some (.udp u) ∧ S.udpRoom u d.payload = true := by
  have read := delivery.datagram_whole engine.interface now bytes d read
  constructor
  · rintro ⟨h, u, u', held, _, held', received⟩
    rw [udpRx_delivered delivery read held held'] at received
    split at received
    · rename_i taken
      exact ⟨h, u, taken.1, held, taken.2⟩
    · simpa using congrArg List.length received
  · rintro ⟨h, u, taken, held, room⟩
    obtain ⟨_, there, takes⟩ := Smoltcp.takes_of_udpTaker taken
    cases held.symm.trans there
    obtain ⟨u', held', _⟩ := poll.poll_udp engine.interface now [bytes] _ h u held
    refine ⟨h, u, u', held, bound h u held takes, held', ?_⟩
    rw [udpRx_delivered delivery read held held', if_pos ⟨taken, room⟩]

end

section
variable {ctx : CoreContext S} {bytes : Bytes} {now : Instant}
  {result : StunnelEngine S × Runtime × List Output} {dst : Ipv4Address}

theorem Attempt.opened (wire : S.WireLaws) {s : Segment}
    (attempt : Attempt ctx.engine.value.interface bytes s dst)
    (intercepted : Intercepted ctx.engine.value ctx.runtime bytes result) :
    ∃ t, Listening S dst s.dst.port t ∧ S.takesSegment s (.tcp t) = true ∧
      result = openTcp ctx.engine.value ctx.runtime dst s.dst.port t := by
  obtain ⟨src, from_v4, _⟩ := attempt.neighbour
  obtain ⟨nonzero, t, listening, opened⟩ := intercepted.of_syn
    (interception_of_segment wire attempt.read attempt.syn attempt.ack from_v4 attempt.to_v4)
  exact ⟨t, listening, listening.takes attempt.to_v4 nonzero attempt.ack, opened⟩

theorem synAnswered_iff (api : S.ApiLaws) (wire : S.WireLaws) (delivery : S.DeliveryLaws)
    (sound : Sound (Serves S) ctx) {s : Segment}
    (attempt : Attempt ctx.engine.value.interface bytes s dst)
    (intercepted : Intercepted ctx.engine.value ctx.runtime bytes result) :
    SynAnswered result.1 bytes now s ↔ dst = tunAddr ∧
      ∀ g t, ctx.engine.value.sockets.firstSlot (S.takesSegment s) = some g →
        g < S.freeSlot ctx.engine.value.sockets →
        ctx.engine.value.sockets.get g = some (.tcp t) → (S.tcpView t).state = .listen := by
  obtain ⟨src, from_v4, neighbour⟩ := attempt.neighbour
  have mid := sound.intercepted api (serves_stable api) intercepted
  have bound : ∀ h t, result.1.sockets.get h = some (.tcp t) → (S.tcpView t).takes s = true →
      (S.tcpView t).bound = ⟨some s.dst.addr, s.dst.port⟩ :=
    fun _ _ held takes => mid.bound_of_takes held takes
  obtain ⟨fresh, listening, takes, rfl⟩ := attempt.opened wire intercepted
  have accepts := sound.accepts_iff delivery neighbour attempt.unicast
  rw [← from_v4, ← attempt.to_v4] at accepts
  rw [synAnswered_iff_taker delivery attempt.read attempt.syn attempt.ack bound]
  have first_listens := SlotTable.firstSlot_put_iff
    (Q := fun socket => ∀ t, socket = .tcp t → (S.tcpView t).state = .listen)
    (api.freeSlot_free ctx.engine.value.sockets) takes
    (by rintro _ ⟨⟩; rw [listening.1])
  constructor
  · rintro ⟨h, t, taken, held, listens⟩
    obtain ⟨accepted, first⟩ := Smoltcp.tcpTaker_eq_some.mp taken
    refine ⟨accepts.mp accepted, ?_⟩
    intro g older before lower there
    exact first_listens.mp ⟨h, _, first, held, by rintro _ ⟨⟩; exact listens⟩ g _ before lower
      there older rfl
  · rintro ⟨here, older⟩
    obtain ⟨h, _, first, held, listens⟩ := first_listens.mpr
      fun g y before lower there t same => older g t before lower (same ▸ there)
    have taken := Smoltcp.tcpTaker_eq_some.mpr ⟨accepts.mpr here, first⟩
    obtain ⟨t, there, _⟩ := Smoltcp.takes_of_tcpTaker taken
    cases held.symm.trans there
    exact ⟨h, t, taken, there, listens t rfl⟩

theorem FirstDatagram.opened (api : S.ApiLaws) (wire : S.WireLaws) {d : Datagram}
    (datagram : FirstDatagram ctx.engine.value bytes d dst)
    (passed : interceptPacket ctx.engine.value ctx.runtime bytes = .ok result) :
    ∃ u, JustBound S dst d.dst.port u ∧ result = openUdp ctx.engine.value ctx.runtime
      (endpointToSocketAddr d.src) dst d.dst.port u := by
  obtain ⟨u, bound, opened⟩ := interceptPacket_datagram api
    (interception_of_datagram wire datagram.read datagram.to_v4) datagram.unknown datagram.nonzero
  exact ⟨u, bound, Except.ok.inj (passed.symm.trans opened)⟩

theorem datagramQueued_iff (api : S.ApiLaws) (poll : S.PollLaws) (wire : S.WireLaws)
    (delivery : S.DeliveryLaws) (sound : Sound (Serves S) ctx) {d : Datagram}
    (datagram : FirstDatagram ctx.engine.value bytes d dst)
    (passed : interceptPacket ctx.engine.value ctx.runtime bytes = .ok result) :
    DatagramQueued result.1 bytes now d ↔ dst = tunAddr ∧
      ∀ g u, ctx.engine.value.sockets.firstSlot
          (S.takesDatagram ctx.engine.value.interface d) = some g →
        g < S.freeSlot ctx.engine.value.sockets →
        ctx.engine.value.sockets.get g = some (.udp u) → S.udpRoom u d.payload = true := by
  obtain ⟨src, from_v4, neighbour⟩ := datagram.neighbour
  have mid := sound.intercepted api (serves_stable api) (.of_ok api passed)
  obtain ⟨fresh, justBound, rfl⟩ := datagram.opened api wire passed
  have bound : ∀ h u, (openUdp ctx.engine.value ctx.runtime (endpointToSocketAddr d.src) dst
        d.dst.port fresh).1.sockets.get h = some (.udp u) →
      S.takesDatagram ctx.engine.value.interface d (.udp u) = true →
      S.udpEndpoint u = ⟨some d.dst.addr, d.dst.port⟩ :=
    fun _ _ held => (mid.takes_iff (by rw [datagram.to_v4]; exact datagram.unicast) held).mp
  have takes : S.takesDatagram ctx.engine.value.interface d (.udp fresh) = true := by
    simp [Smoltcp.takesDatagram, InterfaceConfig.udpMatches, justBound.1, datagram.to_v4]
  have accepts := sound.accepts_iff delivery neighbour datagram.unicast
  rw [← from_v4, ← datagram.to_v4] at accepts
  rw [datagramQueued_iff_taker poll delivery datagram.read bound]
  have first_has_room := SlotTable.firstSlot_put_iff
    (Q := fun socket => ∀ u, socket = .udp u → S.udpRoom u d.payload = true)
    (api.freeSlot_free ctx.engine.value.sockets) takes
    (by rintro _ ⟨⟩; exact justBound.2.2.2 _ (wire.datagram_size bytes d datagram.read))
  constructor
  · rintro ⟨h, u, taken, held, room⟩
    obtain ⟨accepted, first⟩ := Smoltcp.udpTaker_eq_some.mp taken
    refine ⟨accepts.mp accepted, ?_⟩
    intro g older before lower there
    exact first_has_room.mp ⟨h, _, first, held, by rintro _ ⟨⟩; exact room⟩ g _ before lower
      there older rfl
  · rintro ⟨here, older⟩
    obtain ⟨h, _, first, held, room⟩ := first_has_room.mpr
      fun g y before lower there u same => older g u before lower (same ▸ there)
    have taken := Smoltcp.udpTaker_eq_some.mpr ⟨accepts.mpr here, first⟩
    obtain ⟨u, there, _⟩ := Smoltcp.takes_of_udpTaker taken
    cases held.symm.trans there
    exact ⟨h, u, taken, there, room u rfl⟩

theorem deliversOpening_iff (api : S.ApiLaws) (poll : S.PollLaws) (wire : S.WireLaws)
    (delivery : S.DeliveryLaws) (sound : Sound (Serves S) ctx)
    (passed : interceptPacket ctx.engine.value ctx.runtime bytes = .ok result)
    (intercepted : Intercepted ctx.engine.value ctx.runtime bytes result) (ctx' : CoreContext S) :
    DeliversOpening ctx bytes now ctx' ↔ OpensAtTunnel ctx bytes now ctx' := by
  constructor
  · intro delivers dst
    obtain ⟨answered, queued⟩ := delivers _ _ _ dst passed
    constructor
    · intro s attempt
      exact (synAnswered_iff api wire delivery sound attempt intercepted).mp (answered s attempt)
    · intro d datagram
      exact (datagramQueued_iff api poll wire delivery sound datagram passed).mp (queued d datagram)
  · intro tunnel engine runtime opened dst passed'
    obtain rfl := Except.ok.inj (passed'.symm.trans passed)
    obtain ⟨attempts, datagrams⟩ := tunnel dst
    constructor
    · intro s attempt
      exact (synAnswered_iff api wire delivery sound attempt intercepted).mpr (attempts s attempt)
    · intro d datagram
      exact (datagramQueued_iff api poll wire delivery sound datagram passed).mpr
        (datagrams d datagram)

end

/-- A run delivers every packet that opens a session exactly when all of them are for
the interface's own address and no older socket takes one and cannot use it. -/
theorem every_opening_delivered_iff (api : S.ApiLaws) (poll : S.PollLaws) (wire : S.WireLaws)
    (delivery : S.DeliveryLaws) {config : AppConfig}
    {history : Runs.History (Handle S) Event (List Output)} {handle : Handle S}
    (run : CoreRun S config history handle) :
    EachPacket history DeliversOpening ↔ EachPacket history OpensAtTunnel :=
  run.eachPacket_iff api poll (serves_stable api) fun _ _ _ _ sound _ passed intercepted =>
    deliversOpening_iff api poll wire delivery sound passed intercepted _

def synToServer : Bytes :=
  Wire.tcpFrame hostAddr ⟨93, 184, 216, 34⟩ 40000 443 100 0 (Wire.flags true false false) []

/-- It opens a session, and the interface discards it. -/
theorem syn_to_server_discarded : ¬ ∀ S : Smoltcp, S.ApiLaws → S.PollLaws → S.WireLaws →
    S.DeliveryLaws → ∀ config history (handle : Handle S), CoreRun S config history handle →
      EachPacket history DeliversOpening := by
  intro claimed
  obtain ⟨history, ctx, ctx', run, started, holds, checked⟩ :=
    CoreContext.replay_packet Reference.stack quicConfig startUp synToServer 0
      (fun ctx _ => (interceptPacket ctx.engine.value ctx.runtime synToServer).toOption.any
        fun result => result.2.2 == [.spawned 0] &&
          (Reference.poll result.1.interface 0 [synToServer] result.1.sockets).frames == [] &&
          (Reference.stack.config ctx.engine.value.interface).isNeighbour hostAddr &&
          (Reference.stack.config ctx.engine.value.interface).isUnicast ⟨93, 184, 216, 34⟩)
      (by decide +kernel)
  have delivers := holds _ (claimed _ Reference.api Reference.poll_laws Reference.wire
    Reference.delivery _ _ _ run)
  obtain ⟨⟨engine, runtime, opened⟩, intercepted, checked⟩ := (Option.any_eq_true _ _).mp checked
  simp only [Bool.and_eq_true, beq_iff_eq] at checked
  obtain ⟨⟨⟨_, silent⟩, neighbour⟩, unicast⟩ := checked
  obtain ⟨_, _, _, _, _, _, _, _, frame, sent, _⟩ := (delivers engine runtime opened
    ⟨93, 184, 216, 34⟩ (eq_ok_of_toOption intercepted)).1
    ⟨⟨.v4 hostAddr, 40000⟩, ⟨.v4 ⟨93, 184, 216, 34⟩, 443⟩, true, false, false, false, 100, 0, []⟩
    ⟨by decide +kernel, rfl, rfl, ⟨hostAddr, rfl, neighbour⟩, rfl, unicast⟩
  have none_sent : frame ∈ ([] : List Bytes) := silent ▸ sent
  contradiction

/-- The packet is for the tunnel's own address, and no socket before the free slot takes it. -/
def ForFreshSocket (ctx : CoreContext S) (bytes : Bytes) (_now : Instant) (_ : CoreContext S) :
    Prop :=
  (∀ s ∈ S.segment bytes, s.dst.addr = .v4 tunAddr ∧
    ∀ g ∈ ctx.engine.value.sockets.firstSlot (S.takesSegment s),
      S.freeSlot ctx.engine.value.sockets ≤ g) ∧
  ∀ d ∈ S.datagram bytes, d.dst.addr = .v4 tunAddr ∧
    ∀ g ∈ ctx.engine.value.sockets.firstSlot (S.takesDatagram ctx.engine.value.interface d),
      S.freeSlot ctx.engine.value.sockets ≤ g

instance (ctx : CoreContext S) (bytes : Bytes) (now : Instant) (ctx' : CoreContext S) :
    Decidable (ForFreshSocket ctx bytes now ctx') := by
  unfold ForFreshSocket
  infer_instance

theorem ForFreshSocket.opensAtTunnel {ctx ctx' : CoreContext S} {bytes : Bytes} {now : Instant}
    (fresh : ForFreshSocket ctx bytes now ctx') : OpensAtTunnel ctx bytes now ctx' := by
  intro dst
  constructor
  · intro s attempt
    obtain ⟨own, free⟩ := fresh.1 s attempt.read
    cases attempt.to_v4.symm.trans own
    exact ⟨rfl, fun g t first lower _ => absurd lower (Nat.not_lt.mpr (free g first))⟩
  · intro d datagram
    obtain ⟨own, free⟩ := fresh.2 d datagram.read
    cases datagram.to_v4.symm.trans own
    exact ⟨rfl, fun g u first lower _ => absurd lower (Nat.not_lt.mpr (free g first))⟩

/-- A connection and a query to the tunnel's own address are opened one after the other. -/
theorem every_opening_delivered_iff_tunnel : ∃ history ctx,
    CoreRun Reference.stack quicConfig history (some ctx) ∧ ctx.runtime.tasks.keys = [1, 0] ∧
      EachPacket history OpensAtTunnel ∧ EachPacket history DeliversOpening := by
  obtain ⟨history, handle, run, opened, fresh⟩ := CoreContext.replay_holds Reference.stack quicConfig
    (startUp ++ [
      .processPacket (some (Wire.tcpFrame hostAddr tunAddr 1000 80 100 0
        (Wire.flags true false false) [])) 0,
      .processPacket (some (query 5353 tunAddr)) 0])
    (fun history handle => (∃ ctx ∈ handle, ctx.runtime.tasks.keys = [1, 0]) ∧
      EachPacket history ForFreshSocket) (by decide +kernel)
  obtain ⟨ctx, rfl, opened⟩ := opened
  have opens : EachPacket history OpensAtTunnel :=
    fun x taken ctx bytes now ctx' before event after started =>
      (fresh x taken ctx bytes now ctx' before event after started).opensAtTunnel
  exact ⟨history, ctx, run, opened, opens, (every_opening_delivered_iff Reference.api
    Reference.poll_laws Reference.wire Reference.delivery run).mpr opens⟩

end StunnelIos
