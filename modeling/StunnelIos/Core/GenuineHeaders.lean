import StunnelIos.Smoltcp.ReferenceLaws
import StunnelIos.Core.Acceptance

/-! Which packets open sessions, beside those that should. The core takes the word of
the checked parsers, which read lengths only: a later fragment or a packet of another
version opens a session for the ports its bytes happen to spell. -/
namespace StunnelIos
variable {S : Smoltcp}

/-- The session is between the endpoints of this header, and so is its socket. -/
def Task.IsFor (header : TransportHeader) (sockets : SocketSet S) : Task → Prop
  | .tcp session => header.protocol = .tcp ∧ session.target = .v4 header.dst header.dstPort ∧
      ∃ t, sockets.get session.stream.handle = some (.tcp t) ∧
        (S.tcpView t).bound = ⟨some (.v4 header.dst), header.dstPort⟩ ∧
        ∀ localEnd remote, (S.tcpView t).tuple = some (localEnd, remote) →
          localEnd = ⟨.v4 header.dst, header.dstPort⟩ ∧ remote = ⟨.v4 header.src, header.srcPort⟩
  | .udp session => header.protocol = .udp ∧
      session.srcEndpoint = .v4 header.src header.srcPort ∧
      session.targetAddr = .v4 header.dst header.dstPort ∧
      ∃ u, sockets.get session.socket.handle = some (.udp u) ∧
        S.udpEndpoint u = ⟨some (.v4 header.dst), header.dstPort⟩

/-- A session that a packet has opened is for its transport header, which is there; and a
packet without one adds and removes nothing. -/
structure OpensGenuinely (ctx : CoreContext S) (bytes : Bytes) (ctx' : CoreContext S) : Prop where
  opened : ∀ id task, ctx.runtime.tasks.lookup id = none → ctx'.runtime.tasks.lookup id = some task →
    IsIpv4 bytes ∧ fragmentOffset bytes = 0 ∧
      task.IsFor (transportHeader bytes) ctx'.engine.value.sockets
  unchanged : ¬ (IsIpv4 bytes ∧ fragmentOffset bytes = 0) →
    ctx'.runtime = ctx.runtime ∧
      ctx'.engine.value.udpSessions = ctx.engine.value.udpSessions ∧
      ∀ h, (ctx'.engine.value.sockets.get h).isSome = (ctx.engine.value.sockets.get h).isSome

/-- What the checked parsers tell the core makes it open a session, and does not make it
panic. -/
def opensSession (engine : StunnelEngine S) (bytes : Bytes) : Bool :=
  match interception S bytes with
  | .none => false
  | .syn _ port => port != 0
  | .datagram src _ port => port != 0 && (engine.udpSessions.lookup src).isNone

theorem opensSession_of_zero {engine : StunnelEngine S} {bytes : Bytes}
    (zero : opensPortZero engine bytes = true) : opensSession engine bytes = false := by
  cases seen : interception S bytes with
  | none => simp [opensSession, seen]
  | syn dst port => simp_all [opensSession, opensPortZero]
  | datagram src dst port => simp_all [opensSession, opensPortZero]

section
variable {bytes : Bytes} {dst : Ipv4Address} {port : UInt16}

theorem Smoltcp.ParserLaws.syn_header (parsers : S.ParserLaws)
    (seen : interception S bytes = .syn dst port) :
    (∃ ip, Wire.ipv4NewChecked bytes = some ip) ∧ (transportHeader bytes).protocol = .tcp ∧
      (transportHeader bytes).dst = dst ∧ (transportHeader bytes).dstPort = port := by
  obtain ⟨ip, tcp, accepted, protocol, parsed, _, _, rfl, rfl⟩ := interception_syn seen
  rw [parsers.ipv4] at accepted
  rw [parsers.tcp] at parsed
  obtain ⟨long, _, to_port⟩ := Wire.tcpNewChecked_eq_some parsed
  have ports := Wire.ports_of_payload accepted (by omega)
  obtain ⟨_, _, fields⟩ := Wire.ipv4NewChecked_eq_some accepted
  refine ⟨⟨ip, accepted⟩, ?_, ?_, ports.2.symm.trans to_port.symm⟩
  · rw [fields] at protocol
    exact protocol
  · rw [fields]
    rfl

theorem Smoltcp.ParserLaws.datagram_header (parsers : S.ParserLaws) {src : SocketAddr}
    (seen : interception S bytes = .datagram src dst port) :
    (∃ ip, Wire.ipv4NewChecked bytes = some ip) ∧ (transportHeader bytes).protocol = .udp ∧
      src = .v4 (transportHeader bytes).src (transportHeader bytes).srcPort ∧
      (transportHeader bytes).dst = dst ∧ (transportHeader bytes).dstPort = port := by
  obtain ⟨ip, udp, accepted, protocol, parsed, rfl, rfl, rfl⟩ := interception_datagram seen
  rw [parsers.ipv4] at accepted
  rw [parsers.udp] at parsed
  obtain ⟨long, from_port, to_port⟩ := Wire.udpNewChecked_eq_some parsed
  have ports := Wire.ports_of_payload accepted (by omega)
  obtain ⟨_, _, fields⟩ := Wire.ipv4NewChecked_eq_some accepted
  refine ⟨⟨ip, accepted⟩, ?_, ?_, ?_, ports.2.symm.trans to_port.symm⟩
  · rw [fields] at protocol
    exact protocol
  · rw [from_port, ports.1, fields]
    rfl
  · rw [fields]
    rfl

/-- The interface reads the same source from a segment that begins with what the core takes
for a SYN. -/
theorem Smoltcp.ParserLaws.segment_source (parsers : S.ParserLaws) {interface : S.Interface}
    {now : Instant} {s : Segment} (seen : interception S bytes = .syn dst port)
    (first : fragmentOffset bytes = 0) (read : S.readSegment interface now bytes = some s)
    (to_v4 : s.dst.addr = .v4 dst) :
    s.src = ⟨.v4 (transportHeader bytes).src, (transportHeader bytes).srcPort⟩ := by
  obtain ⟨ip, accepted, addr, number⟩ := parsers.segment_head _ _ _ s dst read to_v4 first
  obtain ⟨_, tcp, accepted', _, parsed, _⟩ := interception_syn seen
  cases accepted.symm.trans accepted'
  rw [parsers.ipv4] at accepted
  rw [parsers.tcp] at parsed
  obtain ⟨long, _⟩ := Wire.tcpNewChecked_eq_some parsed
  have ports := Wire.ports_of_payload accepted (by omega)
  have source := (number (by omega)).trans ports.1
  obtain ⟨_, _, fields⟩ := Wire.ipv4NewChecked_eq_some accepted
  rw [fields] at addr
  rw [← source]
  exact congrArg (IpEndpoint.mk · s.src.port) addr

end

section
variable {engine : StunnelEngine S} {bytes : Bytes} {now : Instant}

theorem StunnelEngine.delivered_isSome (poll : S.PollLaws) (h : SocketHandle) :
    ((engine.delivered now bytes).sockets.get h).isSome = (engine.sockets.get h).isSome := by
  cases held : engine.sockets.get h with
  | none =>
      have free := poll.poll_free engine.interface now [bytes] engine.sockets h held
      simp [StunnelEngine.delivered, free]
  | some socket =>
      cases socket with
      | tcp t =>
          obtain ⟨t', _, held', _⟩ := poll.poll_tcp engine.interface now bytes engine.sockets h t held
          simp [StunnelEngine.delivered, held']
      | udp u =>
          obtain ⟨u', held', _⟩ := poll.poll_udp engine.interface now [bytes] engine.sockets h u held
          simp [StunnelEngine.delivered, held']

/-- A socket that listens can be connected by the packet of its SYN alone. -/
theorem Listening.connects (parsers : S.ParserLaws) {interface : S.Interface} {dst : Ipv4Address}
    {port : UInt16} {t : S.TcpSocket} (listening : Listening S dst port t)
    (seen : interception S bytes = .syn dst port) (first : fragmentOffset bytes = 0)
    {happenings : List Happening} {w : TcpView} (followed : (S.tcpView t).follow happenings = some w)
    (caused : ∀ e ∈ happenings, S.Causes interface now bytes (S.tcpView t) e)
    {localEnd remote : IpEndpoint} (connected : w.tuple = some (localEnd, remote)) :
    localEnd = ⟨.v4 dst, port⟩ ∧
      remote = ⟨.v4 (transportHeader bytes).src, (transportHeader bytes).srcPort⟩ := by
  have view := listening.1
  refine TcpView.follow_induct (P := fun v => ∀ localEnd remote, v.tuple = some (localEnd, remote) →
    localEnd = ⟨.v4 dst, port⟩ ∧
      remote = ⟨.v4 (transportHeader bytes).src, (transportHeader bytes).srcPort⟩) followed ?_ ?_
    localEnd remote connected
  · simp [view, TcpView.fresh]
  · intro e member a b ih applied localEnd remote connected
    cases Happening.edge applied with
    | syn =>
        cases connected
        obtain ⟨s, read, _, _, rfl, rfl, _, covered⟩ := caused _ member
        simp only [view, IpListenEndpoint.covers, Bool.and_eq_true, Bool.or_eq_true, beq_iff_eq,
          reduceCtorEq, false_or, Option.some.injEq] at covered
        obtain ⟨same_port, same_addr⟩ := covered
        refine ⟨?_, parsers.segment_source seen first read same_addr.symm⟩
        rw [same_port, same_addr]
    | handshake | data | acked | fin | finWhileClosing | finLast | finAcked | finAckedClosing =>
        exact ih localEnd remote connected
    | finAckedLast | expired | rstHandshake | rst => cases connected

theorem openTcp_isFor (api : S.ApiLaws) (poll : S.PollLaws) (parsers : S.ParserLaws)
    (runtime : Runtime) {dst : Ipv4Address} {port : UInt16} {t : S.TcpSocket}
    (seen : interception S bytes = .syn dst port) (first : fragmentOffset bytes = 0)
    (listening : Listening S dst port t) :
    (Task.tcp ⟨⟨S.freeSlot engine.sockets⟩, isPrivateV4 dst, .v4 dst port, .opening⟩).IsFor
      (transportHeader bytes)
      ((openTcp engine runtime dst port t).1.delivered now bytes).sockets := by
  obtain ⟨_, protocol, same_addr, same_port⟩ := parsers.syn_header seen
  have held : (openTcp engine runtime dst port t).1.sockets.get (S.freeSlot engine.sockets) =
      some (.tcp t) :=
    SlotTable.get_put_self (api.freeSlot_free _).1
  obtain ⟨t', happenings, held', followed, caused⟩ :=
    poll.poll_tcp engine.interface now bytes _ _ t held
  refine ⟨protocol, by rw [same_addr, same_port], t', held', ?_, ?_⟩
  · rw [TcpView.follow_bound followed, listening.1, same_addr, same_port]
  · intro localEnd remote connected
    rw [same_addr, same_port]
    exact listening.connects parsers seen first followed caused connected

theorem openUdp_isFor (api : S.ApiLaws) (poll : S.PollLaws) (parsers : S.ParserLaws)
    (runtime : Runtime) {src : SocketAddr} {dst : Ipv4Address} {port : UInt16} {u : S.UdpSocket}
    (seen : interception S bytes = .datagram src dst port) (bound : JustBound S dst port u) :
    (Task.udp ⟨⟨S.freeSlot engine.sockets⟩, src, .v4 dst port, isPrivateV4 dst, .opening⟩).IsFor
      (transportHeader bytes)
      ((openUdp engine runtime src dst port u).1.delivered now bytes).sockets := by
  obtain ⟨_, protocol, rfl, rfl, rfl⟩ := parsers.datagram_header seen
  have held : (openUdp engine runtime (.v4 (transportHeader bytes).src (transportHeader bytes).srcPort)
      (transportHeader bytes).dst (transportHeader bytes).dstPort u).1.sockets.get
      (S.freeSlot engine.sockets) = some (.udp u) :=
    SlotTable.get_put_self (api.freeSlot_free _).1
  obtain ⟨u', held', endpoint⟩ := poll.poll_udp engine.interface now [bytes] _ _ u held
  exact ⟨protocol, rfl, rfl, u', held', endpoint.trans bound.1⟩

end

section
variable {R : Task → Socket S.TcpSocket S.UdpSocket → Prop} {ctx : CoreContext S} {bytes : Bytes}

theorem opensGenuinely_passed (poll : S.PollLaws) (now : Instant) (outputs : List Output) :
    OpensGenuinely ctx bytes
      (ctx.afterPacket (ctx.engine.value, ctx.runtime, outputs) bytes now) where
  opened := by
    intro id task absent found
    cases absent.symm.trans found
  unchanged := fun _ => ⟨rfl, rfl, fun h => StunnelEngine.delivered_isSome poll h⟩

theorem opensGenuinely_opened (sound : Sound R ctx) {engine : StunnelEngine S} {task : Task}
    {outputs : List Output} {now : Instant} (accepted : ∃ ip, Wire.ipv4NewChecked bytes = some ip)
    (isFor : fragmentOffset bytes = 0 →
      task.IsFor (transportHeader bytes) (engine.delivered now bytes).sockets) :
    OpensGenuinely ctx bytes (ctx.afterPacket (engine, ctx.runtime.spawn task, outputs) bytes now) ↔
      HasRealHeader bytes := by
  obtain ⟨ip, accepted⟩ := accepted
  rw [← Wire.isIpv4_iff accepted]
  constructor
  · intro genuine
    obtain ⟨packet, first, _⟩ :=
      genuine.opened ctx.runtime.next task sound.unspawned (AList.lookup_insert _)
    exact ⟨packet, first⟩
  · intro real
    refine ⟨?_, fun other => absurd real other⟩
    intro id task' absent found
    obtain ⟨_, rfl⟩ | ⟨_, before⟩ := AList.lookup_insert_eq_some.mp found
    · exact ⟨real.1, real.2, isFor real.2⟩
    · cases absent.symm.trans before

theorem Intercepted.opensGenuinely_iff (api : S.ApiLaws) (poll : S.PollLaws)
    (parsers : S.ParserLaws) (sound : Sound R ctx)
    {result : StunnelEngine S × Runtime × List Output}
    (intercepted : Intercepted ctx.engine.value ctx.runtime bytes result) (now : Instant) :
    OpensGenuinely ctx bytes (ctx.afterPacket result bytes now) ↔
      (opensSession ctx.engine.value bytes = true → HasRealHeader bytes) := by
  cases intercepted with
  | passed seen =>
      refine iff_of_true (opensGenuinely_passed poll now []) ?_
      simp [opensSession, seen]
  | known seen found =>
      refine iff_of_true (opensGenuinely_passed poll now []) ?_
      simp [opensSession, seen, found]
  | tcp seen nonzero listening =>
      have opens : opensSession ctx.engine.value bytes = true := by
        simp [opensSession, seen, nonzero]
      rw [forall_prop_of_true opens]
      exact opensGenuinely_opened sound (parsers.syn_header seen).1
        fun first => openTcp_isFor api poll parsers ctx.runtime seen first listening
  | udp seen nonzero unknown bound =>
      have opens : opensSession ctx.engine.value bytes = true := by
        simp [opensSession, seen, nonzero, unknown]
      rw [forall_prop_of_true opens]
      exact opensGenuinely_opened sound (parsers.datagram_header seen).1
        fun _ => openUdp_isFor api poll parsers ctx.runtime seen bound

/-- In every reachable state of a started core a packet opens sessions only from a real
header exactly when it opens none or has version 4, no short header and no offset. -/
theorem sessions_genuine_iff (api : S.ApiLaws) (poll : S.PollLaws) (parsers : S.ParserLaws)
    {config : AppConfig}
    {history : Runs.History (Handle S) Event (List Output)}
    (run : CoreRun S config history (some ctx)) (started : ctx.started = true) (bytes : Bytes)
    (now : Instant) :
    (∀ ctx' outputs, ctx.processPacket bytes now = .ok (ctx', outputs) →
      OpensGenuinely ctx bytes ctx') ↔
      (opensSession ctx.engine.value bytes = true → HasRealHeader bytes) := by
  have sound := run.sound api poll (serves_stable api) ctx rfl
  obtain ⟨zero, panic, refused⟩ | ⟨_, result, passed, intercepted⟩ :=
    interceptPacket_cases api ctx.engine.value ctx.runtime bytes
  · rw [processPacket_error sound started now refused]
    refine iff_of_true (by simp) fun opens => ?_
    cases (opensSession_of_zero zero).symm.trans opens
  · rw [processPacket_ok sound started now passed intercepted,
      ← intercepted.opensGenuinely_iff api poll parsers sound now]
    constructor
    · intro genuine
      exact genuine _ _ rfl
    · rintro genuine _ _ ⟨⟩
      exact genuine

end

/-- A later fragment of a datagram to a resolver, whose data begins like a UDP header. -/
def laterFragment : Bytes :=
  [69, 0, 0, 28, 0, 0, 0, 1, 64, 17, 0, 0, 192, 168, 1, 2, 8, 8, 8, 8, 19, 136, 0, 53, 0, 8, 0, 0]

/-- It opens a session for the ports that its data spells. -/
theorem later_fragment_opens_session : ¬ ∀ S : Smoltcp, S.ApiLaws → S.PollLaws →
    S.ParserLaws → S.WireLaws → ∀ config history (ctx : CoreContext S),
      CoreRun S config history (some ctx) → ctx.started = true → ∀ bytes now ctx' outputs,
        ctx.processPacket bytes now = .ok (ctx', outputs) → OpensGenuinely ctx bytes ctx' := by
  intro claimed
  obtain ⟨history, handle, run, checked⟩ := CoreContext.replay_run Reference.stack quicConfig startUp
    (fun _ handle => handle.any fun ctx => ctx.started && (ctx.runtime.tasks.lookup 0).isNone &&
      (ctx.processPacket laterFragment 0).toOption.any fun result =>
        (result.1.runtime.tasks.lookup 0).isSome)
    (by decide +kernel)
  obtain ⟨ctx, rfl, opens⟩ := (Option.any_eq_true _ _).mp checked
  simp only [Bool.and_eq_true, Option.isNone_iff_eq_none] at opens
  obtain ⟨⟨started, absent⟩, opens⟩ := opens
  obtain ⟨⟨ctx', outputs⟩, returned, found⟩ := (Option.any_eq_true _ _).mp opens
  obtain ⟨task, found⟩ := Option.isSome_iff_exists.mp found
  have genuine := claimed _ Reference.api Reference.poll_laws Reference.parsers Reference.wire _ _ ctx
    run started laterFragment 0 ctx' outputs (eq_ok_of_toOption returned)
  obtain ⟨_, first, _⟩ := genuine.opened 0 task absent found
  exact absurd first (by decide)

/-- A SYN of an app opens a session, and it has a header for it. -/
theorem sessions_genuine_iff_syn : ∃ history ctx ctx' outputs,
    CoreRun Reference.stack quicConfig history (some ctx) ∧ ctx.started = true ∧
      opensSession ctx.engine.value synToServer = true ∧ HasRealHeader synToServer ∧
      ctx.processPacket synToServer 0 = .ok (ctx', outputs) ∧ OpensGenuinely ctx synToServer ctx' := by
  obtain ⟨history, handle, run, checked⟩ := CoreContext.replay_run Reference.stack quicConfig startUp
    (fun _ handle => handle.any fun ctx =>
      ctx.started && opensSession ctx.engine.value synToServer &&
      (ctx.processPacket synToServer 0).toOption.isSome)
    (by decide +kernel)
  obtain ⟨ctx, rfl, accepted⟩ := (Option.any_eq_true _ _).mp checked
  simp only [Bool.and_eq_true] at accepted
  obtain ⟨⟨started, opens⟩, returns⟩ := accepted
  obtain ⟨⟨ctx', outputs⟩, returned⟩ := Option.isSome_iff_exists.mp returns
  have returned := eq_ok_of_toOption returned
  have real : HasRealHeader synToServer := by
    unfold HasRealHeader
    decide
  exact ⟨history, ctx, ctx', outputs, run, started, opens, real, returned,
    (sessions_genuine_iff Reference.api Reference.poll_laws Reference.parsers run started
      synToServer 0).mpr (fun _ => real) ctx' outputs returned⟩

end StunnelIos
