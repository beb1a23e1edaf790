import StunnelIos.Core.Turns

/-! What the core sees of a packet before the stack gets it, and the outcomes of
the interception: nothing, a panic, or one new session on a free slot. -/
namespace StunnelIos

/-- What the checked parsers tell the core about a packet. -/
inductive Interception where
  | none
  | syn (dst : Ipv4Address) (port : UInt16)
  | datagram (src : SocketAddr) (dst : Ipv4Address) (port : UInt16)
deriving DecidableEq, Repr

def interception (S : Smoltcp) (bytes : Bytes) : Interception :=
  match S.ipv4NewChecked bytes with
  | none => .none
  | some ipPacket =>
      match ipPacket.nextHeader with
      | .tcp =>
          match S.tcpNewChecked ipPacket.payload with
          | none => .none
          | some tcpPacket =>
              if !tcpPacket.syn || tcpPacket.ack then .none
              else .syn ipPacket.dstAddr tcpPacket.dstPort
      | .udp =>
          match S.udpNewChecked ipPacket.payload with
          | none => .none
          | some udpPacket =>
              .datagram (.v4 ipPacket.srcAddr udpPacket.srcPort) ipPacket.dstAddr udpPacket.dstPort
      | .other _ => .none

variable {S : Smoltcp} {engine : StunnelEngine S} {runtime : Runtime} {bytes : Bytes}
  {src : SocketAddr} {dst : Ipv4Address} {port : UInt16}

def openTcp (engine : StunnelEngine S) (runtime : Runtime) (dst : Ipv4Address) (port : UInt16)
    (t : S.TcpSocket) : StunnelEngine S × Runtime × List Output :=
  let handle := S.freeSlot engine.sockets
  (engine.setSocket handle (.tcp t),
    runtime.spawn (.tcp ⟨⟨handle⟩, isPrivateV4 dst, .v4 dst port, .opening⟩),
    [.spawned runtime.next])

def openUdp (engine : StunnelEngine S) (runtime : Runtime) (src : SocketAddr) (dst : Ipv4Address)
    (port : UInt16) (u : S.UdpSocket) : StunnelEngine S × Runtime × List Output :=
  let handle := S.freeSlot engine.sockets
  ({ engine.setSocket handle (.udp u) with
      udpSessions := engine.udpSessions.insert src handle },
    runtime.spawn (.udp ⟨⟨handle⟩, src, .v4 dst port, isPrivateV4 dst, .opening⟩),
    [.spawned runtime.next])

/-- A socket that has just been made to listen on this endpoint. -/
def Listening (S : Smoltcp) (dst : Ipv4Address) (port : UInt16) (t : S.TcpSocket) : Prop :=
  S.tcpView t = { TcpView.fresh with state := .listen, bound := ⟨some (.v4 dst), port⟩ } ∧
    S.tcpPending t = false ∧ ∀ place, S.tcpBuffered t place = none

/-- A socket that has just been bound to this endpoint. -/
def JustBound (S : Smoltcp) (dst : Ipv4Address) (port : UInt16) (u : S.UdpSocket) : Prop :=
  S.udpEndpoint u = ⟨some (.v4 dst), port⟩ ∧ S.udpRx u = [] ∧ S.udpTx u = [] ∧
    ∀ payload : Bytes, payload.length ≤ 65536 → S.udpRoom u payload = true

theorem interceptPacket_none (seen : interception S bytes = .none) :
    interceptPacket engine runtime bytes = .ok (engine, runtime, []) := by
  cases accepted : S.ipv4NewChecked bytes with
  | none => simp only [interceptPacket, accepted]
  | some ipPacket =>
      simp only [interception, accepted] at seen
      simp only [interceptPacket, accepted]
      cases protocol : ipPacket.nextHeader with
      | tcp =>
          simp only [protocol] at seen
          simp only [handleTcpPacket]
          cases parsed : S.tcpNewChecked ipPacket.payload with
          | none => rfl
          | some tcpPacket =>
              by_cases other : (!tcpPacket.syn || tcpPacket.ack) = true
              · exact if_pos other
              · simp only [parsed, if_neg other] at seen
                contradiction
      | udp =>
          simp only [protocol] at seen
          simp only [handleUdpPacket]
          cases parsed : S.udpNewChecked ipPacket.payload with
          | none => rfl
          | some udpPacket =>
              simp only [parsed] at seen
              contradiction
      | other => rfl

theorem interception_syn (seen : interception S bytes = .syn dst port) :
    ∃ ipPacket tcpPacket, S.ipv4NewChecked bytes = some ipPacket ∧ ipPacket.nextHeader = .tcp ∧
      S.tcpNewChecked ipPacket.payload = some tcpPacket ∧ tcpPacket.syn = true ∧
      tcpPacket.ack = false ∧ ipPacket.dstAddr = dst ∧ tcpPacket.dstPort = port := by
  simp only [interception] at seen
  split at seen
  · contradiction
  · rename_i ipPacket accepted
    split at seen
    · rename_i protocol
      split at seen
      · contradiction
      · rename_i tcpPacket parsed
        split at seen
        · contradiction
        · rename_i flags
          obtain ⟨rfl, rfl⟩ := Interception.syn.inj seen
          have flags : tcpPacket.syn = true ∧ tcpPacket.ack = false := by simpa using flags
          exact ⟨ipPacket, tcpPacket, accepted, protocol, parsed, flags.1, flags.2, rfl, rfl⟩
    · split at seen <;> contradiction
    · contradiction

theorem interception_datagram (seen : interception S bytes = .datagram src dst port) :
    ∃ ipPacket udpPacket, S.ipv4NewChecked bytes = some ipPacket ∧ ipPacket.nextHeader = .udp ∧
      S.udpNewChecked ipPacket.payload = some udpPacket ∧
      src = .v4 ipPacket.srcAddr udpPacket.srcPort ∧ ipPacket.dstAddr = dst ∧
      udpPacket.dstPort = port := by
  simp only [interception] at seen
  split at seen
  · contradiction
  · rename_i ipPacket accepted
    split at seen
    · split at seen
      · contradiction
      · split at seen <;> contradiction
    · rename_i protocol
      split at seen
      · contradiction
      · rename_i udpPacket parsed
        obtain ⟨rfl, rfl, rfl⟩ := Interception.datagram.inj seen
        exact ⟨ipPacket, udpPacket, accepted, protocol, parsed, rfl, rfl, rfl⟩
    · contradiction

/-- The core reads a SYN as the interface does. -/
theorem interception_of_segment (wire : S.WireLaws) {s : Segment} {src dst : Ipv4Address}
    (read : S.segment bytes = some s) (syn : s.syn = true) (ack : s.ack = false)
    (from_v4 : s.src.addr = .v4 src) (to_v4 : s.dst.addr = .v4 dst) :
    interception S bytes = .syn dst s.dst.port := by
  obtain ⟨ip, tcp, accepted, _, rfl, protocol, parsed, _, to_port, same_syn, same_ack, _⟩ :=
    wire.segment_wire bytes s src dst read from_v4 to_v4
  simp [interception, accepted, protocol, parsed, same_syn, same_ack, syn, ack, to_port]

theorem interceptPacket_syn (api : S.ApiLaws) (seen : interception S bytes = .syn dst port)
    (nonzero : port ≠ 0) :
    ∃ t, Listening S dst port t ∧
      interceptPacket engine runtime bytes = .ok (openTcp engine runtime dst port t) := by
  obtain ⟨ipPacket, tcpPacket, accepted, protocol, parsed, syn, ack, rfl, rfl⟩ :=
    interception_syn seen
  obtain ⟨t, listened, listening⟩ := api.tcp_listen 65536 65536
    ⟨some (.v4 ipPacket.dstAddr), tcpPacket.dstPort⟩ (by decide) nonzero
  refine ⟨t, listening, ?_⟩
  simp [interceptPacket, accepted, protocol, handleTcpPacket, parsed, syn, ack, listened, openTcp]

theorem interceptPacket_syn_zero (api : S.ApiLaws) (seen : interception S bytes = .syn dst 0) :
    interceptPacket engine runtime bytes = .error (.listen .unaddressable) := by
  obtain ⟨ipPacket, tcpPacket, accepted, protocol, parsed, syn, ack, rfl, zero⟩ :=
    interception_syn seen
  have refused := api.tcp_listen_unaddressable 65536 65536
    ⟨some (.v4 ipPacket.dstAddr), tcpPacket.dstPort⟩ zero
  simp [interceptPacket, accepted, protocol, handleTcpPacket, parsed, syn, ack, refused]

theorem interceptPacket_known {h : SocketHandle}
    (seen : interception S bytes = .datagram src dst port)
    (known : engine.udpSessions.lookup src = some h) :
    interceptPacket engine runtime bytes = .ok (engine, runtime, []) := by
  obtain ⟨ipPacket, udpPacket, accepted, protocol, parsed, rfl, rfl, rfl⟩ :=
    interception_datagram seen
  simp [interceptPacket, accepted, protocol, handleUdpPacket, parsed, known]

theorem interceptPacket_datagram (api : S.ApiLaws)
    (seen : interception S bytes = .datagram src dst port)
    (unknown : engine.udpSessions.lookup src = none) (nonzero : port ≠ 0) :
    ∃ u, JustBound S dst port u ∧
      interceptPacket engine runtime bytes = .ok (openUdp engine runtime src dst port u) := by
  obtain ⟨ipPacket, udpPacket, accepted, protocol, parsed, rfl, rfl, rfl⟩ :=
    interception_datagram seen
  obtain ⟨u, bound, endpoint, rx, tx, room⟩ := api.udp_bind 16 65536
    ⟨some (.v4 ipPacket.dstAddr), udpPacket.dstPort⟩ nonzero
  refine ⟨u, ⟨endpoint, rx, tx, fun payload => room payload (by decide)⟩, ?_⟩
  simp [interceptPacket, accepted, protocol, handleUdpPacket, parsed, unknown, bound, openUdp]

theorem interceptPacket_datagram_zero (api : S.ApiLaws)
    (seen : interception S bytes = .datagram src dst 0)
    (unknown : engine.udpSessions.lookup src = none) :
    interceptPacket engine runtime bytes = .error (.bind .unaddressable) := by
  obtain ⟨ipPacket, udpPacket, accepted, protocol, parsed, rfl, rfl, zero⟩ :=
    interception_datagram seen
  have refused := api.udp_bind_unaddressable 16 65536
    ⟨some (.v4 ipPacket.dstAddr), udpPacket.dstPort⟩ zero
  simp [interceptPacket, accepted, protocol, handleUdpPacket, parsed, unknown, refused]

/-- All outcomes of an interception that does not panic. -/
inductive Intercepted (engine : StunnelEngine S) (runtime : Runtime) (bytes : Bytes) :
    StunnelEngine S × Runtime × List Output → Prop where
  | passed : interception S bytes = .none → Intercepted engine runtime bytes (engine, runtime, [])
  | known {src dst port h} : interception S bytes = .datagram src dst port →
      engine.udpSessions.lookup src = some h →
      Intercepted engine runtime bytes (engine, runtime, [])
  | tcp {dst port t} : interception S bytes = .syn dst port → port ≠ 0 →
      Listening S dst port t → Intercepted engine runtime bytes (openTcp engine runtime dst port t)
  | udp {src dst port u} : interception S bytes = .datagram src dst port → port ≠ 0 →
      engine.udpSessions.lookup src = none → JustBound S dst port u →
      Intercepted engine runtime bytes (openUdp engine runtime src dst port u)

theorem Intercepted.of_syn {result : StunnelEngine S × Runtime × List Output}
    (intercepted : Intercepted engine runtime bytes result)
    (seen : interception S bytes = .syn dst port) :
    port ≠ 0 ∧ ∃ t, Listening S dst port t ∧ result = openTcp engine runtime dst port t := by
  cases intercepted with
  | passed other => cases seen.symm.trans other
  | known other => cases seen.symm.trans other
  | tcp same nonzero listening =>
      cases seen.symm.trans same
      exact ⟨nonzero, _, listening, rfl⟩
  | udp other => cases seen.symm.trans other

/-- The packets on which the interception panics: those that open a session to
port 0. -/
def opensPortZero (engine : StunnelEngine S) (bytes : Bytes) : Bool :=
  match interception S bytes with
  | .none => false
  | .syn _ port => port == 0
  | .datagram src _ port => port == 0 && (engine.udpSessions.lookup src).isNone

theorem interceptPacket_cases (api : S.ApiLaws) (engine : StunnelEngine S) (runtime : Runtime)
    (bytes : Bytes) :
    (opensPortZero engine bytes = true ∧
      ∃ panic, interceptPacket engine runtime bytes = .error panic) ∨
    (opensPortZero engine bytes = false ∧
      ∃ result, interceptPacket engine runtime bytes = .ok result ∧
        Intercepted engine runtime bytes result) := by
  cases seen : interception S bytes with
  | none =>
      exact .inr ⟨by simp [opensPortZero, seen], _, interceptPacket_none seen, .passed seen⟩
  | syn dst port =>
      by_cases zero : port = 0
      · subst zero
        exact .inl ⟨by simp [opensPortZero, seen], _, interceptPacket_syn_zero api seen⟩
      · obtain ⟨t, listening, result⟩ := interceptPacket_syn api seen zero
        exact .inr ⟨by simp [opensPortZero, seen, zero], _, result, .tcp seen zero listening⟩
  | datagram src dst port =>
      cases table : engine.udpSessions.lookup src with
      | some h =>
          exact .inr ⟨by simp [opensPortZero, seen, table], _, interceptPacket_known seen table,
            .known seen table⟩
      | none =>
          by_cases zero : port = 0
          · subst zero
            exact .inl ⟨by simp [opensPortZero, seen, table], _,
              interceptPacket_datagram_zero api seen table⟩
          · obtain ⟨u, bound, result⟩ := interceptPacket_datagram api seen table zero
            exact .inr ⟨by simp [opensPortZero, seen, zero], _, result,
              .udp seen zero table bound⟩

theorem Intercepted.of_ok (api : S.ApiLaws) {result : StunnelEngine S × Runtime × List Output}
    (passed : interceptPacket engine runtime bytes = .ok result) :
    Intercepted engine runtime bytes result := by
  obtain ⟨_, _, refused⟩ | ⟨_, other, passed', intercepted⟩ :=
    interceptPacket_cases api engine runtime bytes
  · rw [refused] at passed
    contradiction
  · cases passed.symm.trans passed'
    exact intercepted

end StunnelIos
