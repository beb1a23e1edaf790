import StunnelIos.Smoltcp.ReferenceLaws
import StunnelIos.Core.Acceptance
import StunnelIos.Core.UdpAddresses

/-! What goes out directly and what goes through the tunnel. A session chooses once,
by the destination of its first packet; the stack gives it more packets by its own
rules. The history of a run says which packets a payload came from. -/
namespace StunnelIos
variable {S : Smoltcp}

def IpEndpoint.isPrivate (endpoint : IpEndpoint) : Bool :=
  match endpoint.addr with
  | .v4 addr => isPrivateV4 addr
  | .v6 _ => false

section
variable (id : TaskId)

/-- The datagram of its client that a session takes from its socket in a transition. -/
def takenBy (x : Runs.Transition (Handle S) Event (List Output)) : Option Datagram :=
  match x.before, x.event with
  | some ctx, .task task (.inr (.pollRecvFrom _)) =>
      if task = id then
        match ctx.runtime.tasks.lookup id with
        | some (.udp session) =>
            match session.phase, ctx.engine.value.sockets.get session.socket.handle with
            | .running .receiving _ _, some (.udp u) =>
                (S.udpRx u).head?.filter fun d => endpointToSocketAddr d.src == session.srcEndpoint
            | _, _ => none
        | _ => none
      else none
  | _, _ => none

def lastTaken : Runs.History (Handle S) Event (List Output) → Option Datagram
  | [] => none
  | x :: earlier => (takenBy id x).or (lastTaken earlier)

/-- The segment that a transition gives to a session. -/
def givenTo (x : Runs.Transition (Handle S) Event (List Output)) : Option Segment :=
  match x.before, x.event with
  | some ctx, .processPacket (some bytes) now =>
      match interceptPacket ctx.engine.value ctx.runtime bytes with
      | .ok (engine, runtime, _) =>
          (S.readSegment engine.interface now bytes).filter fun s =>
            ctx.started && (runtime.tasks.lookup id).any fun
              | .tcp session =>
                  S.tcpTaker engine.interface engine.sockets s == some session.stream.handle
              | .udp _ => false
      | .error _ => none
  | _, _ => none

/-- The segments that a session was given. -/
def segmentsOf (history : Runs.History (Handle S) Event (List Output)) : List Segment :=
  history.filterMap (givenTo id)

end

/-- The interface has read the datagram in a call of the run. -/
def Arrived (history : Runs.History (Handle S) Event (List Output)) (d : Datagram) : Prop :=
  ∃ x ∈ history, ∃ ctx bytes now, x.before = some ctx ∧
    x.event = .processPacket (some bytes) now ∧
    S.readDatagram ctx.engine.value.interface now bytes = some d

/-- A session of this mode and target may handle what was addressed to `dst`. -/
def Confines (isDirect : Bool) (target : SocketAddr) (dst : IpEndpoint) : Prop :=
  isDirect = dst.isPrivate ∧ (isDirect = true → target = endpointToSocketAddr dst)

/-- Nothing private goes into the tunnel, nothing else goes out directly, and what
goes out directly goes where it was addressed to. Streamed bytes are, one after the other, those
of segments the session was given. -/
structure Confined (x : Runs.Transition (Handle S) Event (List Output))
    (earlier : Runs.History (Handle S) Event (List Output)) : Prop where
  streamed : ∀ id isDirect target bytes, .streamed id isDirect target bytes ∈ x.output →
    (∀ s ∈ segmentsOf id earlier, Confines isDirect target s.dst) ∧
      ∃ first : UInt32, ∀ i b, bytes[i]? = some b →
        ∃ s ∈ segmentsOf id earlier, s.Carries (first + .ofNat i) b
  direct : ∀ id target payload, .outboundSend id target payload ∈ x.output →
    ∃ d, lastTaken id earlier = some d ∧ payload = d.payload.take udpBufferSize ∧
      Arrived earlier d ∧ d.dst.isPrivate = true ∧ target = endpointToSocketAddr d.dst
  tunnel : ∀ id payload addr, .tunnelSend id payload addr ∈ x.output →
    ∃ d, lastTaken id earlier = some d ∧ payload = d.payload.take udpBufferSize ∧
      Arrived earlier d ∧ d.dst.isPrivate = false

/-- A session is given a broadcast or multicast datagram of its client only if it is
direct and has that target, or is in the tunnel and the address is not private. -/
def SharedFits (ctx : CoreContext S) (bytes : Bytes) (now : Instant) (_ : CoreContext S) : Prop :=
  ∀ engine runtime opened d h id session,
    interceptPacket ctx.engine.value ctx.runtime bytes = .ok (engine, runtime, opened) →
    S.readDatagram engine.interface now bytes = some d →
    (S.config engine.interface).isShared d.dst.addr = true →
    S.udpTaker engine.interface engine.sockets d = some h →
    runtime.tasks.lookup id = some (.udp session) → session.socket.handle = h →
    session.srcEndpoint = endpointToSocketAddr d.src →
    if session.isDirect then session.targetAddr = endpointToSocketAddr d.dst
    else d.dst.isPrivate = false

theorem OpenedFor.confines {target : SocketAddr} {isDirect : Bool} {bound : IpListenEndpoint}
    (opened : OpenedFor target isDirect bound) {dst : IpEndpoint}
    (same : target = endpointToSocketAddr dst) : Confines isDirect target dst := by
  refine ⟨?_, fun _ => same⟩
  have endpoint := (opened.bound_iff dst).mpr same
  obtain ⟨addr, port, _, _, rfl, rfl⟩ := opened
  simp only [IpListenEndpoint.mk.injEq, Option.some.injEq] at endpoint
  rw [IpEndpoint.isPrivate, ← endpoint.1]

/-- Only datagrams to many hosts reach sockets with another endpoint. -/
theorem OpenedFor.target_of_takes {target : SocketAddr} {isDirect : Bool} {u : S.UdpSocket}
    (opened : OpenedFor target isDirect (S.udpEndpoint u)) {interface : S.Interface} {d : Datagram}
    (takes : S.takesDatagram interface d (.udp u) = true)
    (alone : (S.config interface).isShared d.dst.addr = false) :
    target = endpointToSocketAddr d.dst := by
  refine (opened.bound_iff d.dst).mp ?_
  obtain ⟨addr, port, _, _, _, bound⟩ := opened
  simp only [Smoltcp.takesDatagram, InterfaceConfig.udpMatches, bound, alone, Bool.or_false,
    Bool.and_eq_true, Bool.or_eq_true, beq_iff_eq, reduceCtorEq, false_or] at takes
  rw [bound, takes.1, takes.2]

theorem OpenedFor.confines_of_takes {target : SocketAddr} {isDirect : Bool} {u : S.UdpSocket}
    (opened : OpenedFor target isDirect (S.udpEndpoint u)) {interface : S.Interface} {d : Datagram}
    (takes : S.takesDatagram interface d (.udp u) = true)
    (fits : (S.config interface).isShared d.dst.addr = true →
      if isDirect then target = endpointToSocketAddr d.dst else d.dst.isPrivate = false) :
    Confines isDirect target d.dst := by
  cases shared : (S.config interface).isShared d.dst.addr with
  | false => exact opened.confines (opened.target_of_takes takes shared)
  | true =>
      have fitting := fits shared
      split at fitting
      · exact opened.confines fitting
      · rename_i proxied
        exact ⟨by rw [fitting]; simpa using proxied, fun direct => absurd direct proxied⟩

/-- What is known of the packets of a session. -/
def TaskTracked (history : Runs.History (Handle S) Event (List Output)) (id : TaskId) :
    Task → Socket S.TcpSocket S.UdpSocket → Prop
  | .tcp session, .tcp t =>
      (∀ s ∈ segmentsOf id history, Confines session.isDirect session.target s.dst) ∧
        ∀ place b, S.tcpBuffered t place = some b →
          ∃ s ∈ segmentsOf id history, s.Carries (S.tcpStart t + .ofNat place) b
  | .udp session, .udp u =>
      (∀ d ∈ S.udpRx u, Arrived history d ∧ (endpointToSocketAddr d.src = session.srcEndpoint →
        Confines session.isDirect session.targetAddr d.dst)) ∧
      ∀ buf addr rTask lastActivity,
        session.phase = .running (.sending buf addr) rTask lastActivity →
        ∃ d, lastTaken id history = some d ∧ buf = d.payload.take udpBufferSize ∧
          Arrived history d ∧ Confines session.isDirect session.targetAddr d.dst
  | _, _ => False

structure Tracked (history : Runs.History (Handle S) Event (List Output)) (ctx : CoreContext S) :
    Prop where
  tasks : ∀ id task socket, ctx.runtime.tasks.lookup id = some task →
    ctx.engine.value.sockets.get task.handle = some socket → TaskTracked history id task socket
  unused : ∀ id, ctx.runtime.next ≤ id → segmentsOf id history = []

section
variable {history : Runs.History (Handle S) Event (List Output)}
  {x : Runs.Transition (Handle S) Event (List Output)} {ctx ctx' : CoreContext S} {id : TaskId}

theorem Arrived.mono {d : Datagram} (arrived : Arrived history d) : Arrived (x :: history) d := by
  obtain ⟨y, member, packet⟩ := arrived
  exact ⟨y, List.mem_cons_of_mem x member, packet⟩

theorem givenTo_of_other (other : ∀ packet now, x.event ≠ .processPacket packet now) :
    givenTo id x = none := by
  unfold givenTo
  split
  · exact absurd ‹_› (other _ _)
  · rfl

theorem givenTo_of_idle (before : x.before = some ctx) (idle : ctx.started = false) :
    givenTo id x = none := by
  unfold givenTo
  split
  · rename_i other _
    cases before.symm.trans other
    split <;> simp [idle]
  · rfl

theorem segmentsOf_cons_none (none_given : givenTo id x = none) :
    segmentsOf id (x :: history) = segmentsOf id history := by
  simp only [segmentsOf, List.filterMap_cons, none_given]

theorem takenBy_sending (before : x.before = some ctx) {session : UdpSession}
    (live : ctx.runtime.tasks.lookup id = some (.udp session)) {buf : Bytes} {addr : SocketAddr}
    {rTask : RecvTask} {lastActivity : Instant}
    (phase : session.phase = .running (.sending buf addr) rTask lastActivity) :
    takenBy id x = none := by
  unfold takenBy
  split
  · rename_i other _ _ before' _
    obtain rfl : ctx = other := Option.some.inj (before.symm.trans before')
    simp only [live, phase]
    exact ite_self none
  · rfl

theorem takenBy_packet {packet : Option Bytes} {now : Instant}
    (event : x.event = .processPacket packet now) : takenBy id x = none := by
  unfold takenBy
  split
  · rename_i other
    cases event.symm.trans other
  · rfl

/-- A session that takes nothing goes on with what it took last. -/
theorem lastTaken_kept (nothing : takenBy id x = none) {isDirect : Bool} {target : SocketAddr}
    {buf : Bytes}
    (sending : ∃ d, lastTaken id history = some d ∧ buf = d.payload.take udpBufferSize ∧
      Arrived history d ∧ Confines isDirect target d.dst) :
    ∃ d, lastTaken id (x :: history) = some d ∧ buf = d.payload.take udpBufferSize ∧
      Arrived (x :: history) d ∧ Confines isDirect target d.dst := by
  obtain ⟨d, last, payload, arrived, confines⟩ := sending
  refine ⟨d, ?_, payload, arrived.mono, confines⟩
  rw [lastTaken, nothing, Option.none_or, last]

theorem TaskTracked.frame {task : Task} {socket : Socket S.TcpSocket S.UdpSocket}
    (tracked : TaskTracked history id task socket) (before : x.before = some ctx)
    (live : ctx.runtime.tasks.lookup id = some task) (none_given : givenTo id x = none) :
    TaskTracked (x :: history) id task socket := by
  cases task with
  | tcp session =>
      cases socket with
      | udp u => exact tracked.elim
      | tcp t => simpa only [TaskTracked, segmentsOf_cons_none none_given] using tracked
  | udp session =>
      cases socket with
      | tcp t => exact tracked.elim
      | udp u =>
          obtain ⟨waiting, sending⟩ := tracked
          constructor
          · intro d member
            exact ⟨(waiting d member).1.mono, (waiting d member).2⟩
          · intro buf addr rTask lastActivity phase
            exact lastTaken_kept (takenBy_sending before live phase) (sending _ _ _ _ phase)

theorem TcpTurn.buffered (stream : S.StreamLaws) {config : AppConfig}
    {session session' : TcpSession} {t t' : S.TcpSocket} {event : TcpEvent} {outputs : List Output}
    (turn : TcpTurn S config id session t event session' t' outputs) :
    S.tcpStart t' = S.tcpStart t ∧
      ∀ place b, S.tcpBuffered t' place = some b → S.tcpBuffered t place = some b := by
  cases turn with
  | idle | opened | eof | succeeded | failed => exact ⟨rfl, fun _ _ buffered => buffered⟩
  | read _ _ _ received => exact stream.recv_buffered _ _ _ _ received
  | wrote _ accepted =>
      obtain ⟨start, same⟩ := stream.send_buffered _ _ _ _ accepted
      exact ⟨start, fun _ _ buffered => same ▸ buffered⟩
  | shutdown =>
      obtain ⟨start, same⟩ := stream.close_buffered t
      exact ⟨start, fun _ _ buffered => same ▸ buffered⟩

theorem UdpTurn.rx_suffix (api : S.ApiLaws) {config : AppConfig} {session session' : UdpSession}
    {u u' : S.UdpSocket} {event : UdpEvent} {outputs : List Output}
    (turn : UdpTurn S config id session u event session' u' outputs) :
    S.udpRx u' <:+ S.udpRx u := by
  cases turn with
  | idle | opened | sent | arrived | finished => exact List.suffix_rfl
  | taken _ waiting rest | foreign _ waiting rest =>
      rw [waiting, rest]
      exact List.suffix_cons _ _
  | replied _ queued => exact (api.udp_send _ _ _ _ queued).2.1 ▸ List.suffix_rfl

theorem givenTo_packet {bytes : Bytes} {now : Instant} {outputs : List Output} {after : Handle S}
    {result : StunnelEngine S × Runtime × List Output}
    (passed : interceptPacket ctx.engine.value ctx.runtime bytes = .ok result) :
    givenTo id ⟨some ctx, .processPacket (some bytes) now, outputs, after⟩ =
      (S.readSegment result.1.interface now bytes).filter fun s =>
        ctx.started && (result.2.1.tasks.lookup id).any fun
        | .tcp session =>
            S.tcpTaker result.1.interface result.1.sockets s == some session.stream.handle
        | .udp _ => false := by
  simp only [givenTo, passed]

theorem Tracked.intercepted (api : S.ApiLaws) (sound : Sound (Serves S) ctx)
    (tracked : Tracked history ctx) {bytes : Bytes}
    {result : StunnelEngine S × Runtime × List Output}
    (intercepted : Intercepted ctx.engine.value ctx.runtime bytes result) :
    Tracked history { ctx with engine := .new result.1, runtime := result.2.1 } := by
  constructor
  · intro id task socket live held
    obtain ⟨rfl, opened⟩ | ⟨live, held⟩ := sound.intercepted_cases api intercepted live held
    · cases opened with
      | tcp _ listening =>
          have none_given := tracked.unused _ (Nat.le_refl ctx.runtime.next)
          refine ⟨by simp [none_given], fun place b buffered => ?_⟩
          rw [listening.2.2 place] at buffered
          contradiction
      | udp _ bound => exact ⟨by simp [bound.2.1], fun _ _ _ _ phase => by simp at phase⟩
    · exact tracked.tasks id task socket live held
  · exact fun id later => tracked.unused id (Nat.le_trans intercepted.next_le later)

/-- The segments that reach the socket of a session are addressed to its target, and its buffer
is filled from them. -/
theorem TaskTracked.tcp_polled (poll : S.PollLaws) (stream : S.StreamLaws)
    {engine : StunnelEngine S} {bytes : Bytes} {now : Instant} {session : TcpSession}
    {t : S.TcpSocket} {socket : Socket S.TcpSocket S.UdpSocket}
    (tracked : TaskTracked history id (.tcp session) (.tcp t))
    (related : Serves S (.tcp session) (.tcp t))
    (held : engine.sockets.get session.stream.handle = some (.tcp t))
    (polled : (engine.delivered now bytes).sockets.get session.stream.handle = some socket)
    (given : givenTo id x = (S.readSegment engine.interface now bytes).filter fun s =>
      S.tcpTaker engine.interface engine.sockets s == some session.stream.handle) :
    TaskTracked (x :: history) id (.tcp session) socket := by
  obtain ⟨t', _, held', _⟩ := poll.poll_tcp engine.interface now bytes _ _ t held
  cases polled.symm.trans held'
  have filled := stream.poll_buffered _ now bytes _ _ t t' held polled
  cases segment : givenTo id x with
  | none =>
      rw [TaskTracked, segmentsOf_cons_none segment]
      refine ⟨tracked.1, fun place b buffered => ?_⟩
      obtain ⟨before, start⟩ | ⟨s, read, taken, _⟩ := filled place b buffered
      · exact start ▸ tracked.2 place b before
      · simp [given, read, taken] at segment
  | some s =>
      obtain ⟨read, taken⟩ := Option.filter_eq_some_iff.mp (given.symm.trans segment)
      obtain ⟨_, there, takes⟩ := Smoltcp.takes_of_tcpTaker (beq_iff_eq.mp taken)
      cases held.symm.trans there
      have own := related.1.confines
        ((related.1.bound_iff s.dst).mp (bound_of_takes related takes))
      simp only [TaskTracked, segmentsOf, List.filterMap_cons, segment]
      refine ⟨List.forall_mem_cons.mpr ⟨own, tracked.1⟩, fun place b buffered => ?_⟩
      obtain ⟨before, start⟩ | ⟨s', read', _, carries⟩ := filled place b buffered
      · obtain ⟨earlier, member, carries⟩ := tracked.2 place b before
        exact ⟨earlier, List.mem_cons_of_mem s member, start ▸ carries⟩
      · cases read.symm.trans read'
        exact ⟨s, List.mem_cons_self, carries⟩

/-- So are the datagrams that reach it from its client, unless they are for many hosts. -/
theorem TaskTracked.udp_polled (poll : S.PollLaws) (delivery : S.DeliveryLaws)
    {engine : StunnelEngine S} {bytes : Bytes} {now : Instant} {session : UdpSession}
    {u : S.UdpSocket} {socket : Socket S.TcpSocket S.UdpSocket}
    (tracked : TaskTracked history id (.udp session) (.udp u))
    (related : Serves S (.udp session) (.udp u))
    (held : engine.sockets.get session.socket.handle = some (.udp u))
    (polled : (engine.delivered now bytes).sockets.get session.socket.handle = some socket)
    {ctx : CoreContext S} (before : x.before = some ctx)
    (packet : x.event = .processPacket (some bytes) now)
    (interface : ctx.engine.value.interface = engine.interface)
    (fits : ∀ d, S.readDatagram engine.interface now bytes = some d →
      (S.config engine.interface).isShared d.dst.addr = true →
      S.udpTaker engine.interface engine.sockets d = some session.socket.handle →
      session.srcEndpoint = endpointToSocketAddr d.src →
      if session.isDirect then session.targetAddr = endpointToSocketAddr d.dst
      else d.dst.isPrivate = false) :
    TaskTracked (x :: history) id (.udp session) socket := by
  obtain ⟨u', held', _⟩ := poll.poll_udp engine.interface now [bytes] _ _ u held
  cases polled.symm.trans held'
  have grown := delivery.udp_delivery _ now bytes _ _ u u' held polled
  constructor
  · intro d member
    rw [grown] at member
    rcases List.mem_append.mp member with old | new
    · exact ⟨(tracked.1 d old).1.mono, (tracked.1 d old).2⟩
    · split at new
      · rename_i d' read
        split at new
        · rename_i taken
          obtain rfl := List.mem_singleton.mp new
          refine ⟨⟨x, List.mem_cons_self, ctx, bytes, now, before, packet, interface ▸ read⟩,
            fun own => ?_⟩
          obtain ⟨_, there, takes⟩ := Smoltcp.takes_of_udpTaker taken.1
          cases held.symm.trans there
          exact related.1.confines_of_takes takes fun shared =>
            fits d read shared taken.1 own.symm
        · contradiction
      · contradiction
  · intro buf addr rTask lastActivity phase
    exact lastTaken_kept (takenBy_packet packet) (tracked.2 buf addr rTask lastActivity phase)

theorem Tracked.packet (api : S.ApiLaws) (poll : S.PollLaws) (delivery : S.DeliveryLaws)
    (stream : S.StreamLaws) (sound : Sound (Serves S) ctx) (tracked : Tracked history ctx)
    {bytes : Bytes} {now : Instant} {outputs : List Output} {result : StunnelEngine S × Runtime × List Output}
    (started : ctx.started = true)
    (passed : interceptPacket ctx.engine.value ctx.runtime bytes = .ok result)
    (intercepted : Intercepted ctx.engine.value ctx.runtime bytes result)
    (fits : SharedFits ctx bytes now (ctx.afterPacket result bytes now)) :
    Tracked (⟨some ctx, .processPacket (some bytes) now, outputs,
      some (ctx.afterPacket result bytes now)⟩ :: history) (ctx.afterPacket result bytes now) := by
  obtain ⟨engine, runtime, opened⟩ := result
  have mid := sound.intercepted api (serves_stable api) intercepted
  have midTracked := tracked.intercepted api sound intercepted
  have given := fun id => @givenTo_packet S ctx id bytes now outputs
    (some (ctx.afterPacket (engine, runtime, opened) bytes now)) _ passed
  refine ⟨?_, ?_⟩
  · intro id task socket' live held'
    have live : runtime.tasks.lookup id = some task := live
    obtain ⟨socket, held, related⟩ := mid.owned.serves id task live
    have known := midTracked.tasks id task socket live held
    cases task with
    | tcp session =>
        cases socket with
        | udp u => exact related.elim
        | tcp t =>
            refine known.tcp_polled poll stream related held held' ?_
            simp only [given, started, live, Bool.true_and, Option.any_some]
            rfl
    | udp session =>
        cases socket with
        | tcp t => exact related.elim
        | udp u =>
            refine known.udp_polled poll delivery related held held' rfl rfl
              intercepted.device.2.symm ?_
            intro d read shared taken own
            exact fits engine runtime opened d _ id session passed read shared taken live rfl own
  · intro id later
    have unspawned : runtime.tasks.lookup id = none := by
      cases live : runtime.tasks.lookup id with
      | none => rfl
      | some task => exact absurd (mid.fresh id task live) (Nat.not_lt_of_le later)
    rw [segmentsOf_cons_none, midTracked.unused id later]
    simp [given, unspawned]

theorem TaskTracked.tcp_turn (stream : S.StreamLaws) {config : AppConfig} {event : TcpEvent}
    {session session' : TcpSession} {t t' : S.TcpSocket} {outputs : List Output}
    (tracked : TaskTracked history id (.tcp session) (.tcp t)) (none_given : givenTo id x = none)
    (turn : TcpTurn S config id session t event session' t' outputs) :
    TaskTracked (x :: history) id (.tcp session') (.tcp t') := by
  obtain ⟨start, buffered⟩ := turn.buffered stream
  rw [TaskTracked, segmentsOf_cons_none none_given, turn.identity.2.1, turn.identity.2.2, start]
  exact ⟨tracked.1, fun place b after => tracked.2 place b (buffered place b after)⟩

theorem TaskTracked.udp_turn (api : S.ApiLaws) {event : UdpEvent} {session session' : UdpSession}
    {u u' : S.UdpSocket} {outputs : List Output}
    (tracked : TaskTracked history id (.udp session) (.udp u)) (before : x.before = some ctx)
    (task : x.event = .task id (.inr event))
    (live : ctx.runtime.tasks.lookup id = some (.udp session))
    (held : ctx.engine.value.sockets.get session.socket.handle = some (.udp u))
    (turn : UdpTurn S ctx.config id session u event session' u' outputs) :
    TaskTracked (x :: history) id (.udp session') (.udp u') := by
  obtain ⟨waiting, sending⟩ := tracked
  rw [TaskTracked, turn.identity.2.1, turn.identity.2.2.1, turn.identity.2.2.2]
  constructor
  · intro d member
    have earlier := waiting d ((turn.rx_suffix api).subset member)
    exact ⟨earlier.1.mono, earlier.2⟩
  · intro buf addr rTask lastActivity phase'
    obtain ⟨_, _, phase⟩ | ⟨now, _, _, d, rest, rfl, phase, front, own, payload, _⟩ :=
      turn.sending_cases phase'
    · exact lastTaken_kept (takenBy_sending before live phase) (sending _ _ _ _ phase)
    · have first := waiting d (front ▸ List.mem_cons_self)
      have taken : takenBy id x = some d := by
        simp [takenBy, before, task, live, phase, held, front, own]
      exact ⟨d, by rw [lastTaken, taken, Option.some_or], payload, first.1.mono, first.2 own⟩

theorem Tracked.kept (tracked : Tracked history ctx) (before : x.before = some ctx)
    (none_given : ∀ id, givenTo id x = none) (later : ctx.runtime.next ≤ ctx'.runtime.next)
    (old_or_tracked : ∀ id task socket, ctx'.runtime.tasks.lookup id = some task →
      ctx'.engine.value.sockets.get task.handle = some socket →
      TaskTracked (x :: history) id task socket ∨
        (ctx.runtime.tasks.lookup id = some task ∧
          ctx.engine.value.sockets.get task.handle = some socket)) :
    Tracked (x :: history) ctx' := by
  constructor
  · intro id task socket live held
    obtain new | ⟨live, held⟩ := old_or_tracked id task socket live held
    · exact new
    · exact (tracked.tasks id task socket live held).frame before live (none_given id)
  · intro id beyond
    rw [segmentsOf_cons_none (none_given id)]
    exact tracked.unused id (Nat.le_trans later beyond)

theorem Change.tracked (api : S.ApiLaws) (poll : S.PollLaws) (delivery : S.DeliveryLaws)
    (stream : S.StreamLaws) (sound : Sound (Serves S) ctx) (tracked : Tracked history ctx)
    {event : Event} {outputs : List Output} (changed : Change ctx event outputs ctx')
    (fits : ∀ bytes now, event = .processPacket (some bytes) now → ctx.started = true →
      SharedFits ctx bytes now ctx') :
    Tracked (⟨some ctx, event, outputs, some ctx'⟩ :: history) ctx' := by
  cases changed with
  | packet started passed intercepted =>
      exact tracked.packet api poll delivery stream sound started passed intercepted
        (fits _ _ rfl started)
  | control control =>
      refine tracked.kept rfl (fun id => givenTo_of_other ?_) (Nat.le_refl _)
        fun id task socket live held => .inr ⟨live, held⟩
      rintro _ _ rfl
      contradiction
  | ignored idle =>
      refine tracked.kept rfl (fun id => ?_) (Nat.le_refl _)
        fun id task socket live held => .inr ⟨live, held⟩
      obtain rfl | idle := idle
      · rfl
      · exact givenTo_of_idle rfl idle
  | absent | alive =>
      exact tracked.kept rfl (fun id => givenTo_of_other (by simp)) (Nat.le_refl _)
        fun id task socket live held => .inr ⟨live, held⟩
  | mismatched found =>
      exact tracked.kept rfl (fun id => givenTo_of_other (by simp)) (Nat.le_refl _)
        fun id task socket live held =>
          .inr ⟨(Runtime.lookup_set_self found id).symm.trans live, held⟩
  | tcp found held turn touches =>
      refine tracked.kept rfl (fun id => givenTo_of_other (by simp)) (Nat.le_refl _)
        fun other task socket live there => ?_
      obtain ⟨rfl, rfl, rfl⟩ | ⟨_, old⟩ :=
        sound.touched_cases found turn.handle touches live there
      · exact .inl ((tracked.tasks _ _ _ found held).tcp_turn stream
          (givenTo_of_other (by simp)) turn)
      · exact .inr old
  | udp found held turn touches =>
      refine tracked.kept rfl (fun id => givenTo_of_other (by simp)) (Nat.le_refl _)
        fun other task socket live there => ?_
      obtain ⟨rfl, rfl, rfl⟩ | ⟨_, old⟩ :=
        sound.touched_cases found turn.handle touches live there
      · exact .inl ((tracked.tasks _ _ _ found held).udp_turn api rfl rfl found held turn)
      · exact .inr old
  | tcpDropped | udpDropped =>
      exact tracked.kept rfl (fun id => givenTo_of_other (by simp)) (Nat.le_refl _)
        fun other task socket live there => .inr (Runtime.remove_cases live there)

theorem Change.streamed {event : Event} {outputs : List Output} {isDirect : Bool}
    {target : SocketAddr} {bytes : Bytes} (changed : Change ctx event outputs ctx')
    (called : .streamed id isDirect target bytes ∈ outputs) :
    ∃ session t, ctx.runtime.tasks.lookup id = some (.tcp session) ∧
      ctx.engine.value.sockets.get session.stream.handle = some (.tcp t) ∧
      bytes <+: (S.tcpView t).recvQueue ∧ session.isDirect = isDirect ∧ session.target = target := by
  cases changed with
  | control | ignored | absent | mismatched | alive | tcpDropped | udpDropped => simp at called
  | packet _ _ intercepted =>
      obtain ⟨_, same⟩ | ⟨_, _, _, same⟩ | ⟨_, same⟩ := intercepted.output_cases called <;>
        contradiction
  | udp _ _ turn =>
      cases turn <;> simp [UdpSession.forwarded] at called
      split at called <;> simp at called
  | tcp found held turn =>
      cases turn with
      | idle | opened | eof | wrote | shutdown | succeeded | failed => simp at called
      | read _ _ front =>
          simp only [List.mem_singleton, Output.streamed.injEq] at called
          obtain ⟨rfl, rfl, rfl, rfl⟩ := called
          exact ⟨_, _, found, held, front, rfl, rfl⟩

theorem Change.confined (stream : S.StreamLaws) (sound : Sound (Serves S) ctx)
    (tracked : Tracked history ctx) {event : Event} {outputs : List Output} (changed : Change ctx event outputs ctx') :
    Confined ⟨some ctx, event, outputs, some ctx'⟩ history := by
  have sending : ∀ {id : TaskId} {session : UdpSession} {buf addr rTask lastActivity},
      ctx.runtime.tasks.lookup id = some (.udp session) →
      session.phase = .running (.sending buf addr) rTask lastActivity →
      ∃ d, lastTaken id history = some d ∧ buf = d.payload.take udpBufferSize ∧
        Arrived history d ∧ Confines session.isDirect session.targetAddr d.dst := by
    intro id session buf addr rTask lastActivity live phase
    obtain ⟨u, held, _⟩ := sound.udp_socket live
    exact (tracked.tasks id _ _ live held).2 _ _ _ _ phase
  constructor
  · intro id isDirect target bytes called
    obtain ⟨session, t, live, held, ⟨rest, front⟩, rfl, rfl⟩ := changed.streamed called
    obtain ⟨own, filled⟩ := tracked.tasks id _ _ live held
    refine ⟨own, S.tcpStart t + .ofNat (S.tcpRead t), fun i b found => ?_⟩
    have waiting : (S.tcpView t).recvQueue[i]? = some b := by
      rw [← front, List.getElem?_append_left (List.getElem?_eq_some_iff.mp found).1, found]
    rw [UInt32.add_assoc, ← UInt32.ofNat_add]
    exact filled _ b (stream.queue_buffered t i b waiting)
  · intro id target payload called
    obtain ⟨session, addr, _, _, live, direct, rfl, phase⟩ := changed.outboundSend called
    obtain ⟨d, last, same, arrived, confines⟩ := sending live phase
    exact ⟨d, last, same, arrived, direct ▸ confines.1.symm, confines.2 direct⟩
  · intro id payload addr called
    obtain ⟨session, _, _, _, live, proxied, phase⟩ := changed.tunnelSend called
    obtain ⟨d, last, same, arrived, confines⟩ := sending live phase
    exact ⟨d, last, same, arrived, proxied ▸ confines.1.symm⟩

end

theorem CoreRun.tracked (api : S.ApiLaws) (poll : S.PollLaws) (delivery : S.DeliveryLaws)
    (stream : S.StreamLaws) {config : AppConfig}
    {history : Runs.History (Handle S) Event (List Output)} {ctx : CoreContext S} (run : CoreRun S config history (some ctx))
    (fits : EachPacket history SharedFits) : Tracked history ctx := by
  refine run.history_invariant api poll (serves_stable api)
    (P := fun history ctx => EachPacket history SharedFits → Tracked history ctx) ?_ ?_ fits
  · intro ctx created _
    refine ⟨fun id task _ live => ?_, fun _ _ => rfl⟩
    rw [CoreContext.new_runtime created] at live
    contradiction
  · intro history ctx event outputs ctx' sound ih _ changed fits
    have tracked := ih fun x member => fits x (List.mem_cons_of_mem _ member)
    refine changed.tracked api poll delivery stream sound tracked ?_
    rintro bytes now rfl started
    exact fits _ List.mem_cons_self ctx bytes now ctx' rfl rfl rfl started

/-- In every run in which sessions are only given fitting broadcasts and multicasts,
the tunnel is confined. -/
theorem every_payload_confined (api : S.ApiLaws) (poll : S.PollLaws) (delivery : S.DeliveryLaws)
    (stream : S.StreamLaws) {config : AppConfig} {history : Runs.History (Handle S) Event (List Output)}
    {handle : Handle S} (run : CoreRun S config history handle)
    (fits : EachPacket history SharedFits) : Runs.Throughout Confined history := by
  obtain ⟨initial, created, run⟩ := run
  refine run.throughout ?_
  rintro ⟨before, event, outputs, after⟩ earlier found path stepped
  have silent : outputs = [] → Confined ⟨before, event, outputs, after⟩ earlier := by
    rintro rfl
    constructor <;> simp
  cases before with
  | none => exact silent (Handle.Steps.of_none stepped).2
  | some ctx =>
      have run' : CoreRun S config earlier (some ctx) := ⟨initial, created, path⟩
      have tracked := run'.tracked api poll delivery stream fun x member =>
        fits x (found.subset (List.mem_cons_of_mem _ member))
      have sound := run'.sound api poll (serves_stable api) ctx rfl
      obtain ⟨_, rfl, quiet⟩ | ⟨ctx', rfl, changed⟩ :=
        step_change api (serves_stable api) sound stepped
      · exact silent quiet
      · exact changed.confined stream sound tracked

/-- A client that talks to a public address, and broadcasts in its subnet from the
same port. -/
def broadcastAfterPublic : List Event :=
  startUp ++ [
    .processPacket (some (Wire.udpFrame hostAddr ⟨8, 8, 8, 8⟩ 5000 137 [1])) 0,
    .task 0 (.inr (.opened 0 (.ok ()))),
    .processPacket (some (Wire.udpFrame hostAddr ⟨192, 168, 1, 255⟩ 5000 137 [2])) 1,
    .task 0 (.inr (.pollRecvFrom 1))]

/-- The broadcast leaves the subnet through the tunnel. -/
theorem broadcast_leaves_through_tunnel : ¬ ∀ S : Smoltcp, S.ApiLaws → S.PollLaws →
    S.DeliveryLaws → S.StreamLaws → ∀ config history (handle : Handle S),
      CoreRun S config history handle → Runs.Throughout Confined history := by
  intro claimed
  obtain ⟨history, handle, run, checked⟩ := CoreContext.replay_run Reference.stack quicConfig
    (broadcastAfterPublic ++ [.task 0 (.inr (.sent (.ok ())))])
    (fun history _ => match history with
      | [] => false
      | x :: earlier => x.output == [.tunnelSend 0 [2] (.v4 hostAddr 5000)] &&
          lastTaken 0 earlier ==
            some ⟨⟨.v4 hostAddr, 5000⟩, ⟨.v4 ⟨192, 168, 1, 255⟩, 137⟩, [2]⟩)
    (by decide +kernel)
  cases history with
  | nil => contradiction
  | cons x earlier =>
      simp only [Bool.and_eq_true, beq_iff_eq] at checked
      obtain ⟨sent, taken⟩ := checked
      obtain ⟨d, last, _, _, outside⟩ := (claimed _ Reference.api Reference.poll_laws
        Reference.delivery Reference.stream _ _ _ run).1.tunnel 0 [2] (.v4 hostAddr 5000)
          (sent ▸ List.mem_cons_self)
      cases taken.symm.trans last
      contradiction

instance (ctx : CoreContext S) (bytes : Bytes) (now : Instant) (ctx' : CoreContext S) :
    Decidable (SharedFits ctx bytes now ctx') :=
  decidable_of_iff (∀ result ∈ (interceptPacket ctx.engine.value ctx.runtime bytes).toOption,
      ∀ d ∈ S.readDatagram result.1.interface now bytes,
      (S.config result.1.interface).isShared d.dst.addr = true →
      ∀ entry ∈ result.2.1.tasks.entries, (match entry.2 with
        | .udp session =>
            S.udpTaker result.1.interface result.1.sockets d != some session.socket.handle ||
            session.srcEndpoint != endpointToSocketAddr d.src ||
            if session.isDirect then session.targetAddr == endpointToSocketAddr d.dst
            else !d.dst.isPrivate
        | .tcp _ => true) = true) <| by
    constructor
    · rintro fits engine runtime opened d h id session passed read shared taken live rfl own
      have fit := fits (engine, runtime, opened) (by simp [passed, Except.toOption]) d read shared _
        (AList.mem_lookup_iff.mp live)
      simp only [taken, bne_self_eq_false, own, Bool.false_or] at fit
      split at fit <;> simp_all
    · rintro fits ⟨engine, runtime, opened⟩ passed d read shared ⟨id, task⟩ member
      have live : runtime.tasks.lookup id = some task := AList.mem_lookup_iff.mpr member
      cases task with
      | tcp session => rfl
      | udp session =>
          have fit := fits engine runtime opened d session.socket.handle id session
            (eq_ok_of_toOption passed) read shared
          by_cases taken : S.udpTaker engine.interface engine.sockets d = some session.socket.handle
          · by_cases own : session.srcEndpoint = endpointToSocketAddr d.src
            · have fit := fit taken live rfl own
              split at fit <;> simp_all
            · simp [own]
          · simp [taken]

/-- A host broadcasts twice from one port, and sends a request to the tunnel's own address. -/
def broadcastsAndRequest : List Event :=
  let broadcast (data : UInt8) : Event :=
    .processPacket (some (Wire.udpFrame hostAddr ⟨192, 168, 1, 255⟩ 5000 137 [data])) 0
  let request (seqNumber ackNumber : UInt32) (flags : UInt8) (payload : Bytes) : Event :=
    .processPacket (some (Wire.tcpFrame hostAddr tunAddr 1000 80 seqNumber ackNumber flags payload)) 0
  startUp ++ [broadcast 1, .task 0 (.inr (.opened 0 (.ok ()))), .task 0 (.inr (.pollRecvFrom 1)),
    .task 0 (.inr (.sent (.ok ()))), broadcast 2, .task 0 (.inr (.pollRecvFrom 1)),
    .task 0 (.inr (.sent (.ok ()))),
    request 100 0 (Wire.flags true false false) [], .task 1 (.inl (.opened (.ok ()))),
    request 101 1 (Wire.flags false true false) [3, 4], .task 1 (.inl (.pollRead 10))]

/-- The second broadcast is given to the session of the first, and fits it. -/
theorem every_payload_confined_broadcasts : ∃ history handle,
    CoreRun Reference.stack quicConfig history handle ∧
    (∃ x ∈ history, .outboundSend 0 (.v4 ⟨192, 168, 1, 255⟩ 137) [2] ∈ x.output) ∧
    (∃ x ∈ history, .streamed 1 true (.v4 tunAddr 80) [3, 4] ∈ x.output) ∧
    EachPacket history SharedFits ∧ Runs.Throughout Confined history := by
  obtain ⟨history, handle, run, direct, streamed, fits⟩ := CoreContext.replay_holds
    Reference.stack quicConfig broadcastsAndRequest (fun history _ =>
      (∃ x ∈ history, .outboundSend 0 (.v4 ⟨192, 168, 1, 255⟩ 137) [2] ∈ x.output) ∧
      (∃ x ∈ history, .streamed 1 true (.v4 tunAddr 80) [3, 4] ∈ x.output) ∧
      EachPacket history SharedFits) (by decide +kernel)
  exact ⟨history, handle, run, direct, streamed, fits, every_payload_confined Reference.api
    Reference.poll_laws Reference.delivery Reference.stream run fits⟩

end StunnelIos
