import StunnelIos.Smoltcp.ReferenceLaws
import StunnelIos.Core.Sessions

/-! Which socket a datagram of an app reaches. The core finds the session of a
datagram by its source; the stack finds a socket by the destination, in slot
order. -/
namespace StunnelIos
variable {S : Smoltcp}

theorem interception_of_datagram (wire : S.WireLaws) {bytes : Bytes} {d : Datagram}
    {dst : Ipv4Address} (read : S.datagram bytes = some d) (to_v4 : d.dst.addr = .v4 dst) :
    interception S bytes = .datagram (endpointToSocketAddr d.src) dst d.dst.port := by
  obtain ⟨src, from_v4⟩ := (wire.datagram_version bytes d read).mpr ⟨dst, to_v4⟩
  obtain ⟨ip, udp, accepted, rfl, rfl, protocol, parsed, from_port, to_port⟩ :=
    wire.datagram_wire bytes d src dst read from_v4 to_v4
  simp [interception, accepted, protocol, parsed, endpointToSocketAddr, from_v4, from_port, to_port]

theorem OpenedFor.bound_iff {target : SocketAddr} {isDirect : Bool} {bound : IpListenEndpoint}
    (opened : OpenedFor target isDirect bound) (dst : IpEndpoint) :
    bound = ⟨some dst.addr, dst.port⟩ ↔ target = endpointToSocketAddr dst := by
  obtain ⟨addr, port, _, rfl, _, rfl⟩ := opened
  obtain ⟨dstAddr, dstPort⟩ := dst
  cases dstAddr <;> simp [endpointToSocketAddr]

theorem OpenedFor.takes_iff {target : SocketAddr} {isDirect : Bool} {u : S.UdpSocket}
    (opened : OpenedFor target isDirect (S.udpEndpoint u)) {interface : S.Interface} {d : Datagram}
    {dst : Ipv4Address} (to_v4 : d.dst.addr = .v4 dst)
    (unicast : (S.config interface).isUnicast dst = true) :
    S.takesDatagram interface d (.udp u) = true ↔
      S.udpEndpoint u = ⟨some d.dst.addr, d.dst.port⟩ := by
  obtain ⟨addr, port, _, _, _, bound⟩ := opened
  have alone : (S.config interface).isBroadcast dst = false ∧ dst.isMulticast = false := by
    simp only [InterfaceConfig.isUnicast, Bool.not_eq_true', Bool.or_eq_false_iff] at unicast
    exact unicast.1
  simp only [Smoltcp.takesDatagram, InterfaceConfig.udpMatches, InterfaceConfig.isShared, bound,
    to_v4, IpAddress.isMulticast, alone]
  simp [and_comm]

/-- The interception of a datagram finds the session of its source or opens one. -/
theorem interceptPacket_found_or_opened (api : S.ApiLaws) {before engine : StunnelEngine S}
    {beforeRuntime runtime : Runtime} {opened : List Output} {bytes : Bytes} {src : SocketAddr}
    {dst : Ipv4Address} {port : UInt16} (seen : interception S bytes = .datagram src dst port)
    (nonzero : port ≠ 0)
    (passed : interceptPacket before beforeRuntime bytes = .ok (engine, runtime, opened)) :
    (∃ h, before.udpSessions.lookup src = some h ∧ engine = before ∧ runtime = beforeRuntime) ∨
    (before.udpSessions.lookup src = none ∧ ∃ u, JustBound S dst port u ∧
      (engine, runtime, opened) = openUdp before beforeRuntime src dst port u) := by
  cases table : before.udpSessions.lookup src with
  | some h =>
      rw [interceptPacket_known seen table] at passed
      cases passed
      exact .inl ⟨h, rfl, rfl, rfl⟩
  | none =>
      obtain ⟨u, bound, result⟩ := interceptPacket_datagram api seen table nonzero
      rw [result] at passed
      cases passed
      exact .inr ⟨rfl, u, bound, rfl⟩

/-- Right after the interception the table leads the source of the datagram to a
live session whose socket is bound to the destination of the datagram. -/
def HasSession (ctx : CoreContext S) (bytes : Bytes) (_now : Instant) (_ : CoreContext S) : Prop :=
  ∀ d dst engine runtime opened, S.datagram bytes = some d → d.dst.addr = .v4 dst →
    d.dst.port ≠ 0 →
    interceptPacket ctx.engine.value ctx.runtime bytes = .ok (engine, runtime, opened) →
    ∃ h id session u, engine.udpSessions.lookup (endpointToSocketAddr d.src) = some h ∧
      runtime.tasks.lookup id = some (.udp session) ∧ session.socket.handle = h ∧
      session.srcEndpoint = endpointToSocketAddr d.src ∧ engine.sockets.get h = some (.udp u) ∧
      S.udpEndpoint u = ⟨some d.dst.addr, d.dst.port⟩

/-- A live session of the source, if there is one, is for the same destination. -/
def SameDestination (ctx : CoreContext S) (bytes : Bytes) (_now : Instant) (_ : CoreContext S) :
    Prop :=
  ∀ d dst id session, S.datagram bytes = some d → d.dst.addr = .v4 dst → d.dst.port ≠ 0 →
    ctx.runtime.tasks.lookup id = some (.udp session) →
    session.srcEndpoint = endpointToSocketAddr d.src →
    session.targetAddr = endpointToSocketAddr d.dst

theorem hasSession_iff (api : S.ApiLaws) (wire : S.WireLaws) {ctx ctx' : CoreContext S}
    (sound : Sound (Serves S) ctx) {bytes : Bytes} {now : Instant} :
    HasSession ctx bytes now ctx' ↔ SameDestination ctx bytes now ctx' := by
  constructor
  · intro has d dst id session read to_v4 nonzero live own
    have seen := interception_of_datagram wire read to_v4
    have known : ctx.engine.value.udpSessions.lookup (endpointToSocketAddr d.src) =
        some session.socket.handle :=
      (sound.indexed _ _).mpr ⟨id, .udp session, live, congrArg some own, rfl⟩
    obtain ⟨h, _, _, u, found, _, _, _, held, bound⟩ :=
      has d dst _ _ _ read to_v4 nonzero (interceptPacket_known seen known)
    cases known.symm.trans found
    obtain ⟨socket, held', related⟩ := sound.owned.serves id _ live
    cases held.symm.trans held'
    exact (related.1.bound_iff d.dst).mp bound
  · intro same d dst engine runtime opened read to_v4 nonzero intercepted
    have seen := interception_of_datagram wire read to_v4
    obtain ⟨h, found, rfl, rfl⟩ | ⟨_, u, bound, result⟩ :=
      interceptPacket_found_or_opened api seen nonzero intercepted
    · obtain ⟨id, session, u, live, slot, own, held, opened⟩ := sound.session_of_source found
      refine ⟨h, id, session, u, found, live, slot, own, held, ?_⟩
      exact (opened.bound_iff d.dst).mpr (same d dst id session read to_v4 nonzero live own)
    · cases result
      refine ⟨_, ctx.runtime.next, _, u, AList.lookup_insert _, AList.lookup_insert _, rfl, rfl,
        SlotTable.get_put_self (api.freeSlot_free _).1, ?_⟩
      rw [bound.1, to_v4]

/-- A run has a session for the destination of every datagram it intercepts
exactly when no source with a live session changes its destination. -/
theorem every_datagram_has_session_iff (api : S.ApiLaws) (poll : S.PollLaws) (wire : S.WireLaws)
    {config : AppConfig} {history : Runs.History (Handle S) Event (List Output)}
    {handle : Handle S} (run : CoreRun S config history handle) :
    EachPacket history HasSession ↔ EachPacket history SameDestination :=
  run.eachPacket_iff api poll (serves_stable api) fun _ _ _ _ sound _ _ _ =>
    hasSession_iff api wire sound

def query (srcPort : UInt16) (resolver : Ipv4Address) : Bytes :=
  Wire.udpFrame hostAddr resolver srcPort 53 [1, 2, 3]

theorem second_resolver_has_no_session : ¬ ∀ S : Smoltcp, S.ApiLaws → S.PollLaws → S.WireLaws →
    ∀ config history (handle : Handle S), CoreRun S config history handle →
      EachPacket history HasSession := by
  intro claimed
  obtain ⟨history, ctx, ctx', run, started, holds, checked⟩ :=
    CoreContext.replay_packet Reference.stack quicConfig
      (startUp ++ [.processPacket (some (query 5353 ⟨8, 8, 8, 8⟩)) 0]) (query 5353 ⟨1, 1, 1, 1⟩) 0
      (fun ctx _ => (interceptPacket ctx.engine.value ctx.runtime
        (query 5353 ⟨1, 1, 1, 1⟩)).toOption.any fun result =>
          result.1.udpSessions.lookup (.v4 hostAddr 5353) == some 0 &&
          (result.1.sockets.get 0).any fun
            | .udp u => u.endpoint == ⟨some (.v4 ⟨8, 8, 8, 8⟩), 53⟩
            | .tcp _ => false)
      (by decide +kernel)
  have has := holds _ (claimed _ Reference.api Reference.poll_laws Reference.wire _ _ _ run)
  obtain ⟨⟨engine, runtime, opened⟩, intercepted, checked⟩ := (Option.any_eq_true _ _).mp checked
  simp only [Bool.and_eq_true, beq_iff_eq] at checked
  obtain ⟨known, checked⟩ := checked
  obtain ⟨socket, held, checked⟩ := (Option.any_eq_true _ _).mp checked
  obtain ⟨h, _, _, u, found, _, _, _, held', bound⟩ :=
    has ⟨⟨.v4 hostAddr, 5353⟩, ⟨.v4 ⟨1, 1, 1, 1⟩, 53⟩, [1, 2, 3]⟩ ⟨1, 1, 1, 1⟩ _ _ _
      (by decide +kernel) rfl (by decide) (eq_ok_of_toOption intercepted)
  cases known.symm.trans found
  cases held.symm.trans held'
  have other := beq_iff_eq.mp checked
  cases other.symm.trans bound

instance (ctx : CoreContext S) (bytes : Bytes) (now : Instant) (ctx' : CoreContext S) :
    Decidable (SameDestination ctx bytes now ctx') :=
  decidable_of_iff (∀ d ∈ S.datagram bytes, d.dst.port ≠ 0 →
      ∀ entry ∈ ctx.runtime.tasks.entries, (match d.dst.addr, entry.2 with
        | .v4 _, .udp session => session.srcEndpoint != endpointToSocketAddr d.src ||
            session.targetAddr == endpointToSocketAddr d.dst
        | _, _ => true) = true) <| by
    constructor
    · intro same d dst id session read to_v4 nonzero live own
      have same := same d read nonzero _ (AList.mem_lookup_iff.mp live)
      simpa [to_v4, own] using same
    · rintro same d read nonzero ⟨id, task⟩ member
      split
      · rename_i dst session to_v4 udp
        cases udp
        by_cases own : session.srcEndpoint = endpointToSocketAddr d.src
        · simpa [own] using same d dst id session read to_v4 nonzero
            (AList.mem_lookup_iff.mpr member) own
        · simp [own]
      · rfl

/-- Two sources ask one resolver each, and the first asks it again. -/
theorem every_datagram_has_session_iff_own_resolver : ∃ history ctx,
    CoreRun Reference.stack quicConfig history (some ctx) ∧ history.length = 5 ∧
      ctx.runtime.tasks.keys = [1, 0] ∧ EachPacket history SameDestination ∧
      EachPacket history HasSession := by
  obtain ⟨history, handle, run, long, opened, same⟩ := CoreContext.replay_holds
    Reference.stack quicConfig (startUp ++ [.processPacket (some (query 5353 ⟨8, 8, 8, 8⟩)) 0,
      .processPacket (some (query 5454 ⟨1, 1, 1, 1⟩)) 0,
      .processPacket (some (query 5353 ⟨8, 8, 8, 8⟩)) 1])
    (fun history handle => history.length = 5 ∧
      (∃ ctx ∈ handle, ctx.runtime.tasks.keys = [1, 0]) ∧ EachPacket history SameDestination)
    (by decide +kernel)
  obtain ⟨ctx, rfl, opened⟩ := opened
  exact ⟨history, ctx, run, long, opened, same, (every_datagram_has_session_iff Reference.api
    Reference.poll_laws Reference.wire run).mpr same⟩

/-- The source and destination of the session that the interception of a packet opens. -/
def StunnelEngine.opens (engine : StunnelEngine S) (bytes : Bytes) :
    Option (SocketAddr × IpEndpoint) :=
  match interception S bytes with
  | .datagram src dst port =>
      if (engine.udpSessions.lookup src).isNone then some (src, ⟨.v4 dst, port⟩) else none
  | _ => none

def StunnelEngine.slotFor (engine : StunnelEngine S) (bytes : Bytes) (src : SocketAddr) :
    Option SocketHandle :=
  match engine.udpSessions.lookup src with
  | some h => some h
  | none =>
      if (engine.opens bytes).any (·.1 == src) then some (S.freeSlot engine.sockets) else none

def StunnelEngine.bindsTo (engine : StunnelEngine S) (bytes : Bytes) (dst : IpEndpoint)
    (g : SocketHandle) : Bool :=
  (match engine.sockets.get g with
  | some (.udp v) => S.udpEndpoint v == ⟨some dst.addr, dst.port⟩
  | _ => false) ||
    (g == S.freeSlot engine.sockets && (engine.opens bytes).any (·.2 == dst))

/-- A unicast datagram that the interface accepts, of a source whose session is for
its destination, is queued for that session and for no other. It may have come in fragments. -/
def QueuedForOwner (ctx : CoreContext S) (bytes : Bytes) (now : Instant) (ctx' : CoreContext S) :
    Prop :=
  ∀ d engine runtime opened h u,
    S.readDatagram ctx.engine.value.interface now bytes = some d →
    (S.config ctx.engine.value.interface).isUnicastAddr d.dst.addr = true →
    S.accepts ctx.engine.value.interface d.src.addr d.dst.addr = true →
    interceptPacket ctx.engine.value ctx.runtime bytes = .ok (engine, runtime, opened) →
    engine.udpSessions.lookup (endpointToSocketAddr d.src) = some h →
    engine.sockets.get h = some (.udp u) → S.udpEndpoint u = ⟨some d.dst.addr, d.dst.port⟩ →
    (∃ id session, ctx'.runtime.tasks.lookup id = some (.udp session) ∧
      session.socket.handle = h ∧ session.srcEndpoint = endpointToSocketAddr d.src) ∧
    ∀ g v v', engine.sockets.get g = some (.udp v) →
      ctx'.engine.value.sockets.get g = some (.udp v') →
      S.udpRx v' = S.udpRx v ++ if g = h then [d] else []

/-- No socket below the slot of the source's session is bound to the destination,
and if the session is an old one, its socket has room. -/
def FirstWithRoom (ctx : CoreContext S) (bytes : Bytes) (now : Instant) (_ : CoreContext S) :
    Prop :=
  ∀ d ∈ S.readDatagram ctx.engine.value.interface now bytes,
    (S.config ctx.engine.value.interface).isUnicastAddr d.dst.addr = true →
    S.accepts ctx.engine.value.interface d.src.addr d.dst.addr = true →
    ∀ h ∈ ctx.engine.value.slotFor bytes (endpointToSocketAddr d.src),
      ctx.engine.value.bindsTo bytes d.dst h = true →
      (∀ g < h, ctx.engine.value.bindsTo bytes d.dst g = false) ∧
        (match ctx.engine.value.sockets.get h with
        | some (.udp v) => S.udpRoom v d.payload
        | _ => true) = true

instance (ctx : CoreContext S) (bytes : Bytes) (now : Instant) (ctx' : CoreContext S) :
    Decidable (FirstWithRoom ctx bytes now ctx') := by
  unfold FirstWithRoom
  infer_instance

section
variable {ctx : CoreContext S} {d : Datagram} {h : SocketHandle} {u : S.UdpSocket}

/-- A socket of a sound core is offered the unicast datagrams for its own endpoint. -/
theorem Sound.takes_iff (sound : Sound (Serves S) ctx)
    (unicast : (S.config ctx.engine.value.interface).isUnicastAddr d.dst.addr = true)
    (held : ctx.engine.value.sockets.get h = some (.udp u)) :
    S.takesDatagram ctx.engine.value.interface d (.udp u) = true ↔
      S.udpEndpoint u = ⟨some d.dst.addr, d.dst.port⟩ := by
  obtain ⟨id, task, _, _, related⟩ := sound.owned.related held
  cases task with
  | tcp session => exact related.elim
  | udp session =>
      cases to_v4 : d.dst.addr with
      | v4 dst =>
          rw [to_v4] at unicast
          rw [← to_v4]
          exact related.1.takes_iff to_v4 unicast
      | v6 dst => simp [InterfaceConfig.isUnicastAddr, to_v4] at unicast

/-- The taker of a unicast datagram is the first socket bound to its destination. -/
theorem Sound.udpTaker_iff (sound : Sound (Serves S) ctx)
    (unicast : (S.config ctx.engine.value.interface).isUnicastAddr d.dst.addr = true)
    (accepted : S.accepts ctx.engine.value.interface d.src.addr d.dst.addr = true)
    (held : ctx.engine.value.sockets.get h = some (.udp u))
    (bound : S.udpEndpoint u = ⟨some d.dst.addr, d.dst.port⟩) :
    S.udpTaker ctx.engine.value.interface ctx.engine.value.sockets d = some h ↔
      ∀ g v, ctx.engine.value.sockets.get g = some (.udp v) →
        S.udpEndpoint v = ⟨some d.dst.addr, d.dst.port⟩ → h ≤ g := by
  rw [Smoltcp.udpTaker_eq_some, SlotTable.firstSlot_eq_some]
  constructor
  · rintro ⟨_, _, first⟩ g v there same
    by_contra lower
    have refused := first g (Nat.lt_of_not_le lower) _ there
    rw [(sound.takes_iff unicast there).mpr same] at refused
    contradiction
  · intro first
    refine ⟨accepted, ⟨_, held, (sound.takes_iff unicast held).mpr bound⟩, ?_⟩
    intro g lower socket there
    cases socket with
    | tcp t => rfl
    | udp v =>
        by_contra accepts
        have offered : S.takesDatagram ctx.engine.value.interface d (.udp v) = true := by
          simpa using accepts
        have same := (sound.takes_iff unicast there).mp offered
        exact absurd (first g v there same) (Nat.not_le_of_lt lower)

theorem udpRx_delivered (delivery : S.DeliveryLaws) {engine : StunnelEngine S} {bytes : Bytes}
    {now : Instant} {u' : S.UdpSocket} (read : S.readDatagram engine.interface now bytes = some d)
    (held : engine.sockets.get h = some (.udp u))
    (polled : (engine.delivered now bytes).sockets.get h = some (.udp u')) :
    S.udpRx u' = S.udpRx u ++
      if S.udpTaker engine.interface engine.sockets d = some h ∧ S.udpRoom u d.payload = true
      then [d] else [] := by
  simpa only [read] using delivery.udp_delivery _ now bytes _ h u u' held polled

/-- A poll with a datagram queues it on one socket, and on no other, exactly when
that socket is its taker and has room. -/
theorem queued_only_iff (poll : S.PollLaws) (delivery : S.DeliveryLaws)
    {engine : StunnelEngine S} {bytes : Bytes} {now : Instant}
    (read : S.readDatagram engine.interface now bytes = some d)
    (held : engine.sockets.get h = some (.udp u)) :
    (∀ g v v', engine.sockets.get g = some (.udp v) →
        (engine.delivered now bytes).sockets.get g = some (.udp v') →
        S.udpRx v' = S.udpRx v ++ if g = h then [d] else []) ↔
      S.udpTaker engine.interface engine.sockets d = some h ∧ S.udpRoom u d.payload = true := by
  constructor
  · intro queued
    obtain ⟨u', polled, _⟩ := poll.poll_udp _ now [bytes] _ h u held
    have same := (udpRx_delivered delivery read held polled).symm.trans
      (queued h u u' held polled)
    by_contra missed
    rw [if_neg missed, if_pos rfl, List.append_nil] at same
    simpa using congrArg List.length same
  · rintro ⟨taken, room⟩ g v v' there polled
    rw [udpRx_delivered delivery read there polled]
    by_cases same : g = h
    · subst g
      cases held.symm.trans there
      rw [if_pos ⟨taken, room⟩, if_pos rfl]
    · rw [if_neg same, if_neg]
      rintro ⟨other, _⟩
      exact same (Option.some.inj (other.symm.trans taken))

end

section
variable {before : StunnelEngine S} {runtime : Runtime} {bytes : Bytes}
  {result : StunnelEngine S × Runtime × List Output}

theorem Intercepted.lookup_eq (intercepted : Intercepted before runtime bytes result)
    (src : SocketAddr) : result.1.udpSessions.lookup src = before.slotFor bytes src := by
  cases intercepted with
  | passed seen =>
      cases known : before.udpSessions.lookup src <;>
        simp [StunnelEngine.slotFor, StunnelEngine.opens, seen, known]
  | known seen found =>
      cases known : before.udpSessions.lookup src <;>
        simp [StunnelEngine.slotFor, StunnelEngine.opens, seen, found, known]
  | tcp seen =>
      cases known : before.udpSessions.lookup src <;>
        simp [StunnelEngine.slotFor, StunnelEngine.opens, seen, known, openTcp]
  | @udp src₀ dst port u seen _ unknown =>
      by_cases same : src = src₀
      · subst same
        simp [StunnelEngine.slotFor, StunnelEngine.opens, seen, unknown, openUdp]
      · cases known : before.udpSessions.lookup src <;>
          simp [StunnelEngine.slotFor, StunnelEngine.opens, seen, unknown, openUdp, known, same,
            Ne.symm same]

theorem Intercepted.get_udp_iff (api : S.ApiLaws)
    (intercepted : Intercepted before runtime bytes result) (g : SocketHandle) (v : S.UdpSocket) :
    result.1.sockets.get g = some (.udp v) ↔ before.sockets.get g = some (.udp v) ∨
      g = S.freeSlot before.sockets ∧ result.1.sockets.get g = some (.udp v) ∧
        ∃ src dst port, before.opens bytes = some (src, ⟨.v4 dst, port⟩) ∧
          JustBound S dst port v := by
  obtain ⟨within, free⟩ := api.freeSlot_free before.sockets
  have old : ∀ new : Socket S.TcpSocket S.UdpSocket, before.sockets.get g = some (.udp v) →
      (before.sockets.put (S.freeSlot before.sockets) new).get g = some (.udp v) := by
    intro new held
    rwa [SlotTable.get_put_ne within (by rintro rfl; simp [free] at held)]
  cases intercepted with
  | passed seen | known seen =>
      refine ⟨.inl, ?_⟩
      rintro (held | ⟨_, held, _⟩) <;> exact held
  | @tcp _ _ t =>
      refine ⟨fun held => .inl ?_, ?_⟩
      · by_cases here : g = S.freeSlot before.sockets
        · subst here
          cases held.symm.trans (SlotTable.get_put_self within)
        · exact (SlotTable.get_put_ne within here).symm.trans held
      · rintro (held | ⟨_, held, _⟩)
        · exact old _ held
        · exact held
  | @udp src dst port u seen _ unknown bound =>
      refine ⟨fun held => ?_, ?_⟩
      · by_cases here : g = S.freeSlot before.sockets
        · refine .inr ⟨here, held, src, dst, port, ?_, ?_⟩
          · simp [StunnelEngine.opens, seen, unknown]
          · subst here
            cases held.symm.trans (SlotTable.get_put_self within)
            exact bound
        · exact .inl ((SlotTable.get_put_ne within here).symm.trans held)
      · rintro (held | ⟨_, held, _⟩)
        · exact old _ held
        · exact held

theorem Intercepted.bindsTo_iff (api : S.ApiLaws)
    (intercepted : Intercepted before runtime bytes result) (dst : IpEndpoint)
    (g : SocketHandle) : before.bindsTo bytes dst g = true ↔
      ∃ v, result.1.sockets.get g = some (.udp v) ∧
        S.udpEndpoint v = ⟨some dst.addr, dst.port⟩ := by
  have within := (api.freeSlot_free before.sockets).1
  simp only [StunnelEngine.bindsTo, Bool.or_eq_true, Bool.and_eq_true, beq_iff_eq]
  constructor
  · rintro (old | ⟨here, new⟩)
    · split at old
      · rename_i v held
        exact ⟨v, (intercepted.get_udp_iff api g v).mpr (.inl held), beq_iff_eq.mp old⟩
      · contradiction
    · obtain ⟨⟨src, other⟩, opens, same⟩ := (Option.any_eq_true _ _).mp new
      obtain rfl : other = dst := beq_iff_eq.mp same
      subst here
      cases intercepted with
      | passed seen => simp [StunnelEngine.opens, seen] at opens
      | known seen found => simp [StunnelEngine.opens, seen, found] at opens
      | tcp seen => simp [StunnelEngine.opens, seen] at opens
      | @udp _ _ _ u seen _ unknown bound =>
          simp only [StunnelEngine.opens, seen, unknown, Option.isNone_none, if_true,
            Option.some.injEq, Prod.mk.injEq] at opens
          obtain ⟨rfl, rfl⟩ := opens
          exact ⟨u, SlotTable.get_put_self within, bound.1⟩
  · rintro ⟨v, held, bound⟩
    obtain old | ⟨here, _, src, dst', port, opens, just⟩ :=
      (intercepted.get_udp_iff api g v).mp held
    · exact .inl (by simp [old, bound])
    · refine .inr ⟨here, ?_⟩
      obtain ⟨addr, port'⟩ := dst
      simp only [just.1, IpListenEndpoint.mk.injEq, Option.some.injEq] at bound
      simp [opens, bound]

end

/-- Only the socket that is bound to the destination of a datagram gets it, exactly if it is the
first such socket and has room. -/
theorem Sound.queued_only_bound_iff (api : S.ApiLaws) (poll : S.PollLaws)
    (delivery : S.DeliveryLaws) {ctx : CoreContext S} (sound : Sound (Serves S) ctx)
    {bytes : Bytes} {now : Instant} {result : StunnelEngine S × Runtime × List Output}
    (intercepted : Intercepted ctx.engine.value ctx.runtime bytes result) {d : Datagram}
    {h : SocketHandle} {u : S.UdpSocket}
    (read : S.readDatagram ctx.engine.value.interface now bytes = some d)
    (unicast : (S.config ctx.engine.value.interface).isUnicastAddr d.dst.addr = true)
    (accepted : S.accepts ctx.engine.value.interface d.src.addr d.dst.addr = true)
    (held : result.1.sockets.get h = some (.udp u))
    (bound : S.udpEndpoint u = ⟨some d.dst.addr, d.dst.port⟩) :
    (∀ g v v', result.1.sockets.get g = some (.udp v) →
        (result.1.delivered now bytes).sockets.get g = some (.udp v') →
        S.udpRx v' = S.udpRx v ++ if g = h then [d] else []) ↔
      (∀ g < h, ctx.engine.value.bindsTo bytes d.dst g = false) ∧
        S.udpRoom u d.payload = true := by
  have mid := sound.intercepted api (serves_stable api) intercepted
  have interface : result.1.interface = ctx.engine.value.interface := intercepted.device.2
  rw [← interface] at read unicast accepted
  rw [queued_only_iff poll delivery read held]
  refine and_congr_left fun _ => (mid.udpTaker_iff unicast accepted held bound).trans ⟨?_, ?_⟩
  · intro lowest g lower
    by_contra binds
    obtain ⟨v, there, same⟩ := (intercepted.bindsTo_iff api d.dst g).mp (by simpa using binds)
    exact absurd (lowest g v there same) (Nat.not_le_of_lt lower)
  · intro none_lower g v there same
    by_contra lower
    have binds := (intercepted.bindsTo_iff api d.dst g).mpr ⟨v, there, same⟩
    rw [none_lower g (Nat.lt_of_not_le lower)] at binds
    contradiction

theorem queuedForOwner_iff (api : S.ApiLaws) (poll : S.PollLaws) (delivery : S.DeliveryLaws)
    {ctx : CoreContext S} (sound : Sound (Serves S) ctx) {bytes : Bytes} {now : Instant}
    {result : StunnelEngine S × Runtime × List Output}
    (passed : interceptPacket ctx.engine.value ctx.runtime bytes = .ok result)
    (intercepted : Intercepted ctx.engine.value ctx.runtime bytes result) :
    QueuedForOwner ctx bytes now (ctx.afterPacket result bytes now) ↔
      FirstWithRoom ctx bytes now (ctx.afterPacket result bytes now) := by
  constructor
  · intro queued d read unicast accepted h known binds
    obtain ⟨u, held, bound⟩ := (intercepted.bindsTo_iff api d.dst h).mp binds
    have known := (intercepted.lookup_eq (endpointToSocketAddr d.src)).trans known
    obtain ⟨lowest, room⟩ := (sound.queued_only_bound_iff api poll delivery intercepted read unicast
      accepted held bound).mp (queued d _ _ _ h u read unicast accepted passed known held bound).2
    refine ⟨lowest, ?_⟩
    split
    · rename_i v there
      cases ((intercepted.get_udp_iff api h v).mpr (.inl there)).symm.trans held
      exact room
    · rfl
  · intro first d _ _ _ h u read unicast accepted passed' known held bound
    cases passed.symm.trans passed'
    obtain ⟨id, session, _, live, slot, src, _⟩ :=
      (sound.intercepted api (serves_stable api) intercepted).session_of_source known
    refine ⟨⟨id, session, live, slot, src⟩, ?_⟩
    have known' := (intercepted.lookup_eq (endpointToSocketAddr d.src)).symm.trans known
    have binds := (intercepted.bindsTo_iff api d.dst h).mpr ⟨u, held, bound⟩
    obtain ⟨lowest, room⟩ := first d read unicast accepted h known' binds
    refine (sound.queued_only_bound_iff api poll delivery intercepted read unicast accepted held
      bound).mpr ⟨lowest, ?_⟩
    obtain old | ⟨_, _, _, _, _, _, just⟩ := (intercepted.get_udp_iff api h u).mp held
    · simpa [old] using room
    · exact just.2.2.2 d.payload (delivery.datagram_fits _ _ _ d read)

/-- A run queues every such datagram for its own session alone exactly when each time
no lower slot is bound to the same destination and the session's queue has room. -/
theorem every_datagram_queued_for_owner_iff (api : S.ApiLaws) (poll : S.PollLaws)
    (delivery : S.DeliveryLaws) {config : AppConfig}
    {history : Runs.History (Handle S) Event (List Output)} {handle : Handle S}
    (run : CoreRun S config history handle) :
    EachPacket history QueuedForOwner ↔ EachPacket history FirstWithRoom :=
  run.eachPacket_iff api poll (serves_stable api) fun _ _ _ _ sound _ passed intercepted =>
    queuedForOwner_iff api poll delivery sound passed intercepted

/-- The second of two sources that ask one resolver. -/
theorem second_source_is_not_queued : ¬ ∀ S : Smoltcp, S.ApiLaws → S.PollLaws →
    S.DeliveryLaws → ∀ config history (handle : Handle S), CoreRun S config history handle →
      EachPacket history QueuedForOwner := by
  intro claimed
  obtain ⟨history, ctx, ctx', run, started, holds, checked⟩ :=
    CoreContext.replay_packet Reference.stack quicConfig
      (startUp ++ [.processPacket (some (query 5353 tunAddr)) 0]) (query 5454 tunAddr) 0
      (fun ctx ctx' =>
        (Reference.stack.readDatagram ctx.engine.value.interface 0 (query 5454 tunAddr) ==
          some ⟨⟨.v4 hostAddr, 5454⟩, ⟨.v4 tunAddr, 53⟩, [1, 2, 3]⟩) &&
        ((Reference.stack.config ctx.engine.value.interface).isUnicast tunAddr &&
        (Reference.stack.accepts ctx.engine.value.interface (.v4 hostAddr) (.v4 tunAddr) &&
        ((interceptPacket ctx.engine.value ctx.runtime (query 5454 tunAddr)).toOption.any fun result =>
          result.1.udpSessions.lookup (.v4 hostAddr 5454) == some 1 &&
          ((result.1.sockets.get 1).any fun
            | .udp u => u.endpoint == ⟨some (.v4 tunAddr), 53⟩ &&
              ((ctx'.engine.value.sockets.get 1).any fun
                | .udp u' => u'.rx == u.rx
                | .tcp _ => false)
            | .tcp _ => false)))))
      (by decide +kernel)
  have queued := holds _ (claimed _ Reference.api Reference.poll_laws Reference.delivery
    _ _ _ run)
  simp only [Bool.and_eq_true] at checked
  obtain ⟨read, unicast, accepted, checked⟩ := checked
  obtain ⟨⟨engine, runtime, opened⟩, intercepted, checked⟩ := (Option.any_eq_true _ _).mp checked
  simp only [Bool.and_eq_true, beq_iff_eq] at checked
  obtain ⟨known, checked⟩ := checked
  obtain ⟨socket, held, checked⟩ := (Option.any_eq_true _ _).mp checked
  cases socket with
  | tcp t => contradiction
  | udp u =>
      obtain ⟨bound, checked⟩ := Bool.and_eq_true_iff.mp checked
      obtain ⟨socket', held', checked⟩ := (Option.any_eq_true _ _).mp checked
      cases socket' with
      | tcp t => contradiction
      | udp u' =>
          have grown := (queued ⟨⟨.v4 hostAddr, 5454⟩, ⟨.v4 tunAddr, 53⟩, [1, 2, 3]⟩ _ _ _ 1 u
            (beq_iff_eq.mp read) unicast accepted (eq_ok_of_toOption intercepted) known held
            (beq_iff_eq.mp bound)).2 1 u u' held held'
          have unchanged : Reference.stack.udpRx u' = Reference.stack.udpRx u :=
            beq_iff_eq.mp checked
          rw [unchanged] at grown
          simpa using congrArg List.length grown

/-- A datagram for port 53 of the tunnel's own address in two fragments, the second too short
for a header of its own. -/
def fragments (srcPort : UInt16) : List Bytes :=
  let fragment (flags offset : UInt8) (payload : Bytes) : Bytes :=
    [69, 0] ++ Wire.bytes16 (20 + payload.length) ++ [0, 7, flags, offset, 64, 17, 0, 0] ++
      Wire.bytesAddress hostAddr ++ Wire.bytesAddress tunAddr ++ payload
  [fragment 32 0 (Wire.bytes16 srcPort.toNat ++ [0, 53, 0, 19, 0, 0, 1, 2, 3, 4, 5, 6, 7, 8]),
    fragment 0 2 [9, 10, 11]]

def queueLengths (handle : Handle Reference.stack) (h : SocketHandle) : List Nat :=
  (handle.bind (·.engine.value.sockets.get h)).elim [] fun
    | .udp u => (Reference.stack.udpRx u).map (·.payload.length)
    | .tcp _ => []

/-- Two sources use two ports, and one of them sends in fragments. -/
theorem every_datagram_queued_for_owner_iff_fragments : ∃ history handle,
    CoreRun Reference.stack quicConfig history handle ∧
      EachPacket history FirstWithRoom ∧ EachPacket history QueuedForOwner ∧
      queueLengths handle 0 = [3, 11] ∧ queueLengths handle 1 = [1] := by
  obtain ⟨history, handle, run, first, lengths⟩ := CoreContext.replay_holds Reference.stack
    quicConfig (startUp ++ [.processPacket (some (query 5353 tunAddr)) 0,
      .processPacket (some (Wire.udpFrame hostAddr tunAddr 5454 123 [0])) 0] ++
      (fragments 5353).map fun fragment => .processPacket (some fragment) 1)
    (fun history handle => EachPacket history FirstWithRoom ∧ queueLengths handle 0 = [3, 11] ∧
      queueLengths handle 1 = [1]) (by decide +kernel)
  exact ⟨history, handle, run, first, (every_datagram_queued_for_owner_iff Reference.api
    Reference.poll_laws Reference.delivery run).mpr first, lengths⟩

end StunnelIos
