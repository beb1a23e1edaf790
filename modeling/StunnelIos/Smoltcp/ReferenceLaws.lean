import StunnelIos.Smoltcp.Headers
import StunnelIos.Smoltcp.Reference

/-! The concrete stack behaves as documented, so the documented behaviour is
consistent. -/
namespace StunnelIos.Reference

/-- Accepted bytes wait behind the others; there is never more in the buffer than the window
admits. -/
theorem Tcp.outgoing_send {t : Tcp} (may : t.view.maySend = true) (bytes : Bytes) :
    (if t.isSending then (t.view.sendQueue ++ bytes.take
        (min bytes.length (t.txCapacity - t.view.sendQueue.length))).drop t.sent else []) =
      t.outgoing ++ (bytes.take (min bytes.length (t.txCapacity - t.view.sendQueue.length))).take
        (t.txCapacity - t.view.sendQueue.length) := by
  have sending : t.isSending = true := by
    obtain state | state : t.view.state = .established ∨ t.view.state = .closeWait := by
      simpa [TcpView.maySend] using may
    all_goals simp [isSending, state]
  rw [List.take_take, Nat.min_eq_right (Nat.min_le_right _ _), if_pos sending, outgoing,
    if_pos sending, List.drop_append_of_le_length t.within]

theorem Tcp.outgoing_close (t : Tcp) : t.close.outgoing = t.outgoing := by
  cases state : t.view.state with
  | synReceived =>
      have empty : t.view.sendQueue = [] := (t.unused (.inr state)).2
      simp [outgoing, isSending, Tcp.close, TcpView.close, state, empty]
  | closed | listen | synSent | established | finWait1 | finWait2 | closeWait | closing | lastAck
  | timeWait => simp [outgoing, isSending, Tcp.close, TcpView.close, state]

theorem Tcp.finDue_close (t : Tcp) : t.close.finDue = (t.finDue || t.finFits) := by
  cases state : t.view.state <;>
    simp only [finDue, finFits, isClosing, Tcp.close, TcpView.close, state] <;>
    cases t.finSent <;> rfl

theorem api : stack.ApiLaws where
  freeSlot_free := SlotTable.firstFree_free
  tcp_listen := by
    intro rx tx endpoint _ port
    exact ⟨_, by simp only [stack, Tcp.listen, Tcp.new, if_neg port]; rfl, rfl, rfl, fun _ => rfl⟩
  tcp_listen_unaddressable := by
    intro rx tx endpoint port
    simp only [stack, Tcp.listen, if_pos port]
  tcp_state := fun _ => rfl
  tcp_can_recv := by
    intro t
    simp [stack]
  tcp_recv := by
    intro t take _ waiting
    have may : t.mayRecv = true := by
      have waiting : t.view.recvQueue ≠ [] := waiting
      simp [Tcp.mayRecv, waiting]
    exact ⟨t.view.recvQueue, _, if_pos may, waiting, List.prefix_refl _, rfl, rfl, rfl⟩
  tcp_send := by
    intro t bytes n t' accepted
    simp only [stack, Tcp.sendSlice] at accepted
    split at accepted
    · rename_i may
      cases accepted
      exact ⟨Nat.min_le_left _ _, may, rfl, Tcp.outgoing_send may _, rfl⟩
    · contradiction
  tcp_close := fun t => ⟨rfl, t.outgoing_close, t.finDue_close⟩
  udp_bind := by
    intro metadata buffer endpoint port
    refine ⟨_, by simp only [stack, Udp.bind, Udp.new, if_neg port]; rfl, rfl, rfl, rfl, ?_⟩
    intro payload some_packets small
    exact decide_eq_true ⟨some_packets, by simpa using small⟩
  udp_bind_unaddressable := by
    intro metadata buffer endpoint port
    simp only [stack, Udp.bind, if_pos port]
  udp_recv_exhausted := by
    intro u empty
    have empty : u.rx = [] := empty
    simp only [stack, Udp.recv, empty]
  udp_recv := by
    intro u d rest waiting
    have waiting : u.rx = d :: rest := waiting
    refine ⟨{ u with rx := rest }, ?_, rfl, rfl, rfl⟩
    simp only [stack, Udp.recv, waiting]
  udp_send := by
    intro u bytes endpoint u' queued
    simp only [stack, Udp.sendSlice] at queued
    split_ifs at queued
    cases queued
    exact ⟨rfl, rfl, rfl⟩
  interface_new := ⟨rfl, rfl, by decide⟩
  push_ip_addr := by
    intro interface cidr none
    have none : interface.config.ipAddrs = [] := none
    exact ⟨_, by simp only [stack, none]; rfl, rfl⟩
  add_default_ipv4_route := fun _ _ _ => ⟨_, rfl, rfl⟩
  interface_routes := rfl

/-- What a parse of a segment found on the way. -/
theorem segment_parts {ip : Ipv4Packet} {s : Segment} (read : Wire.segmentOf ip = some s) :
    ip.nextHeader = .tcp ∧ ∃ tcp, Wire.tcpNewChecked ip.payload = some tcp ∧ tcp.srcPort ≠ 0 ∧
      tcp.dstPort ≠ 0 ∧ s.src = ⟨.v4 ip.srcAddr, tcp.srcPort⟩ ∧
      s.dst = ⟨.v4 ip.dstAddr, tcp.dstPort⟩ ∧ s.syn = tcp.syn ∧ s.ack = tcp.ack ∧
      s.seqNumber = tcp.seqNumber ∧ s.fin = Wire.bit ip.payload 13 0 ∧
      s.rst = Wire.bit ip.payload 13 2 := by
  unfold Wire.segmentOf at read
  split at read
  · rename_i protocol
    obtain ⟨tcp, parsed, read⟩ := Option.bind_eq_some_iff.mp read
    simp only at read
    split at read
    · contradiction
    · rename_i present
      cases read
      simp only [not_or] at present
      exact ⟨protocol, tcp, parsed, present.1, present.2.1, rfl, rfl, rfl, rfl, rfl, rfl, rfl⟩
  · contradiction

theorem datagram_parts {ip : Ipv4Packet} {d : Datagram} (read : Wire.datagramOf ip = some d) :
    ip.nextHeader = .udp ∧ ∃ udp, Wire.udpNewChecked ip.payload = some udp ∧
      d.src = ⟨.v4 ip.srcAddr, udp.srcPort⟩ ∧ d.dst = ⟨.v4 ip.dstAddr, udp.dstPort⟩ ∧
      d.payload.length ≤ 65536 := by
  unfold Wire.datagramOf at read
  split at read
  · rename_i protocol
    obtain ⟨udp, parsed, read⟩ := Option.bind_eq_some_iff.mp read
    split at read
    · contradiction
    · cases read
      have size := (Wire.field16 ip.payload 4).toNat_lt
      refine ⟨protocol, udp, parsed, rfl, rfl, ?_⟩
      simp only [List.length_drop, List.length_take]
      omega
  · contradiction

theorem wholePacket_checked {bytes : Bytes} {ip : Ipv4Packet}
    (read : Wire.wholePacket bytes = some ip) : Wire.ipv4NewChecked bytes = some ip :=
  (Option.ite_none_right_eq_some.mp read).2

theorem wire : stack.WireLaws where
  segment_wire := by
    intro packet s src dst read from_v4 to_v4
    obtain ⟨ip, whole, read⟩ := Option.bind_eq_some_iff.mp read
    obtain ⟨protocol, tcp, parsed, _, _, source, destination, syn, ack, seq, _⟩ :=
      segment_parts read
    rw [source] at from_v4 ⊢
    rw [destination] at to_v4 ⊢
    cases from_v4
    cases to_v4
    exact ⟨ip, tcp, wholePacket_checked whole, rfl, rfl, protocol, parsed, rfl, rfl, syn.symm,
      ack.symm, seq.symm⟩
  datagram_wire := by
    intro packet d src dst read from_v4 to_v4
    obtain ⟨ip, whole, read⟩ := Option.bind_eq_some_iff.mp read
    obtain ⟨protocol, udp, parsed, source, destination, _⟩ := datagram_parts read
    rw [source] at from_v4 ⊢
    rw [destination] at to_v4 ⊢
    cases from_v4
    cases to_v4
    exact ⟨ip, udp, wholePacket_checked whole, rfl, rfl, protocol, parsed, rfl, rfl⟩
  datagram_version := by
    intro packet d read
    obtain ⟨ip, _, read⟩ := Option.bind_eq_some_iff.mp read
    obtain ⟨_, udp, _, source, destination, _⟩ := datagram_parts read
    simp [source, destination]
  datagram_size := by
    intro packet d read
    obtain ⟨ip, _, read⟩ := Option.bind_eq_some_iff.mp read
    obtain ⟨_, udp, _, _, _, size⟩ := datagram_parts read
    exact size

theorem add_pieces {kept : Option Assembly} {now : Instant} {packet : Bytes} {ip : Ipv4Packet}
    {assembly : Assembly} (added : Assembly.add kept now packet ip = some assembly) :
    ∃ rest, assembly.pieces = (fragmentOffset packet * 8, ip.payload) :: rest := by
  obtain ⟨_, added⟩ := Option.ite_none_right_eq_some.mp added
  cases added
  exact ⟨_, rfl⟩

/-- A packet put together from pieces begins with the latest one that has no offset. -/
theorem getD_payload {assembly : Assembly} {piece payload : Bytes} {rest : List (Nat × Bytes)}
    (pieces : assembly.pieces = (0, piece) :: rest) (complete : assembly.payload = some payload)
    {i : Nat} (inside : i < piece.length) (short : i < payload.length) :
    payload.getD i 0 = piece.getD i 0 := by
  unfold Assembly.payload at complete
  split at complete
  · obtain ⟨_, whole⟩ := Option.ite_none_right_eq_some.mp complete
    obtain rfl := Option.some.inj whole
    simp only [List.length_map, List.length_range] at short
    simp [pieces, Assembly.octet, inside, short]
  · contradiction

/-- The packet that the interface goes on with is the one that has come, or begins with it. -/
theorem receive_head {interface : Interface} {now : Instant} {packet : Bytes} {ip : Ipv4Packet}
    (received : (interface.receive now packet).1 = some ip) (first : fragmentOffset packet = 0) :
    ∃ own, Wire.ipv4NewChecked packet = some own ∧ ip.srcAddr = own.srcAddr ∧
      ∀ i, i < own.payload.length → i < ip.payload.length →
        ip.payload.getD i 0 = own.payload.getD i 0 := by
  unfold Interface.receive at received
  simp only at received
  split at received
  · contradiction
  · rename_i own checked
    obtain ⟨_, checked⟩ := Option.ite_none_right_eq_some.mp checked
    refine ⟨own, checked, ?_⟩
    split at received
    · cases received
      exact ⟨rfl, fun _ _ _ => rfl⟩
    · split at received
      · contradiction
      · rename_i assembly added
        split at received
        · contradiction
        · rename_i payload complete
          cases received
          obtain ⟨rest, pieces⟩ := add_pieces added
          rw [first] at pieces
          exact ⟨rfl, fun i inside short => getD_payload pieces complete inside short⟩

theorem parsers : stack.ParserLaws where
  ipv4 := fun _ => rfl
  tcp := fun _ => rfl
  udp := fun _ => rfl
  segment_head := by
    intro interface now packet s dst read _ first
    obtain ⟨ip, received, read⟩ := Option.bind_eq_some_iff.mp read
    obtain ⟨_, tcp, parsed, _, _, source, _⟩ := segment_parts read
    obtain ⟨own, checked, addr, same⟩ := receive_head received first
    obtain ⟨long, port, _⟩ := Wire.tcpNewChecked_eq_some parsed
    refine ⟨own, checked, by rw [source, addr], fun inside => ?_⟩
    rw [source]
    simp only [port, Wire.field16, same 0 (by omega) (by omega), same 1 (by omega) (by omega)]

section
variable {interface : Interface} {now : Instant} {packet : Bytes} {packets : List Bytes}
  {sockets : SlotTable (Socket Tcp Udp)} {h : SocketHandle}

theorem receive_whole {ip : Ipv4Packet} (read : Wire.wholePacket packet = some ip) :
    (interface.receive now packet).1 = some ip := by
  obtain ⟨form, checked⟩ := Option.ite_none_right_eq_some.mp read
  obtain ⟨version, whole⟩ := Bool.and_eq_true_iff.mp form
  simp only [Interface.receive, version, whole, if_true, checked]

theorem readDatagram_of_readSegment {s : Segment}
    (read : interface.readSegment now packet = some s) :
    interface.readDatagram now packet = none := by
  obtain ⟨ip, received, read⟩ := Option.bind_eq_some_iff.mp read
  obtain ⟨protocol, _⟩ := segment_parts read
  simp [Interface.readDatagram, received, Wire.datagramOf, protocol]

theorem takesSegment_eq (s : Segment) : stack.takesSegment s = takesSegment s := by
  funext socket
  cases socket <;> rfl

theorem takesDatagram_eq (interface : Interface) (d : Datagram) :
    stack.takesDatagram interface d = takesDatagram interface.config d := by
  funext socket
  cases socket <;> rfl

theorem tcpTaker_eq (interface : Interface) (sockets : SlotTable (Socket Tcp Udp)) (s : Segment) :
    stack.tcpTaker interface sockets s =
      taker interface.config sockets s.src s.dst (takesSegment s) := by
  rw [← takesSegment_eq]
  rfl

theorem udpTaker_eq (interface : Interface) (sockets : SlotTable (Socket Tcp Udp)) (d : Datagram) :
    stack.udpTaker interface sockets d =
      taker interface.config sockets d.src d.dst (takesDatagram interface.config d) := by
  rw [← takesDatagram_eq]
  rfl

theorem get_giveTo {taken : Option SocketHandle} {f : Socket Tcp Udp → Socket Tcp Udp}
    (g : SocketHandle) : (giveTo sockets taken f).get g =
      if taken = some g then (sockets.get g).map f else sockets.get g := by
  cases taken with
  | none => rfl
  | some h => simp only [giveTo, SlotTable.get_modify, Option.some.injEq, eq_comm]

theorem get_ingress_segment {s : Segment} (read : interface.readSegment now packet = some s) :
    (ingress interface now packet sockets).get h =
      if stack.tcpTaker interface sockets s = some h then (sockets.get h).map (receiveTcp s)
      else sockets.get h := by
  simp only [ingress, read, get_giveTo, tcpTaker_eq]

theorem get_ingress_datagram {d : Datagram} (read : interface.readDatagram now packet = some d) :
    (ingress interface now packet sockets).get h =
      if stack.udpTaker interface sockets d = some h then (sockets.get h).map (receiveUdp d)
      else sockets.get h := by
  cases other : interface.readSegment now packet with
  | some s =>
      rw [readDatagram_of_readSegment other] at read
      contradiction
  | none => simp only [ingress, other, read, get_giveTo, udpTaker_eq]

theorem ingress_other (segment : interface.readSegment now packet = none)
    (datagram : interface.readDatagram now packet = none) :
    ingress interface now packet sockets = sockets := by
  simp only [ingress, segment, datagram]

theorem get_ingress_free (vacant : sockets.get h = none) :
    (ingress interface now packet sockets).get h = none := by
  cases segment : interface.readSegment now packet with
  | some s => simp [get_ingress_segment segment, vacant]
  | none =>
      cases datagram : interface.readDatagram now packet with
      | some d => simp [get_ingress_datagram datagram, vacant]
      | none => rw [ingress_other segment datagram, vacant]

/-- What a packet makes of a UDP socket before the sockets transmit. -/
theorem get_ingress_udp (interface : Interface) (now : Instant) (packet : Bytes) {u : Udp}
    (held : sockets.get h = some (.udp u)) :
    ∃ u' : Udp, (ingress interface now packet sockets).get h = some (.udp u') ∧
      u'.endpoint = u.endpoint ∧ u'.tx = u.tx ∧
      u'.rx = u.rx ++ match interface.readDatagram now packet with
        | some d =>
            if stack.udpTaker interface sockets d = some h ∧ u.room d.payload = true then [d] else []
        | none => [] := by
  cases datagram : interface.readDatagram now packet with
  | none =>
      refine ⟨u, ?_, rfl, rfl, (List.append_nil _).symm⟩
      cases segment : interface.readSegment now packet with
      | some s => rw [get_ingress_segment segment, held]; simp [receiveTcp]
      | none => rw [ingress_other segment datagram, held]
  | some d =>
      rw [get_ingress_datagram datagram, held]
      by_cases taken : stack.udpTaker interface sockets d = some h
      · by_cases room : u.room d.payload = true
        · refine ⟨{ u with rx := u.rx ++ [d] }, ?_, rfl, rfl, ?_⟩ <;>
            simp [taken, receiveUdp, room]
        · exact ⟨u, by simp [taken, receiveUdp, room], rfl, rfl, by simp [room]⟩
      · exact ⟨u, by simp [taken], rfl, rfl, by simp [taken]⟩

/-- What a packet makes of a TCP socket before the sockets transmit. -/
inductive Received (interface : Interface) (now : Instant) (packet : Bytes)
    (sockets : SlotTable (Socket Tcp Udp)) (h : SocketHandle) (t : Tcp) : Tcp → Prop where
  | kept : Received interface now packet sockets h t t
  | taken {s} (taken : t.view.takes s = true) : interface.readSegment now packet = some s →
      stack.tcpTaker interface sockets s = some h →
      Received interface now packet sockets h t (t.receive s taken)

theorem get_ingress_tcp (interface : Interface) (now : Instant) (packet : Bytes) {t : Tcp}
    (held : sockets.get h = some (.tcp t)) :
    ∃ t', (ingress interface now packet sockets).get h = some (.tcp t') ∧
      Received interface now packet sockets h t t' := by
  cases segment : interface.readSegment now packet with
  | some s =>
      rw [get_ingress_segment segment, held]
      split
      · rename_i taker
        obtain ⟨t', held', takes⟩ := Smoltcp.takes_of_tcpTaker taker
        cases held.symm.trans held'
        have takes : t.view.takes s = true := takes
        exact ⟨t.receive s takes, by rw [Option.map_some, receiveTcp, dif_pos takes],
          .taken takes segment taker⟩
      · exact ⟨t, rfl, .kept⟩
  | none =>
      refine ⟨t, ?_, .kept⟩
      cases datagram : interface.readDatagram now packet with
      | some d => rw [get_ingress_datagram datagram, held]; simp [receiveUdp]
      | none => rw [ingress_other segment datagram, held]

theorem get_poll (interface : Interface) (now : Instant) (packet : Bytes)
    (sockets : SlotTable (Socket Tcp Udp)) (h : SocketHandle) :
    (poll interface now [packet] sockets).sockets.get h =
      ((ingress interface now packet sockets).get h).map transmitted := by
  simp only [poll, ingressAll, SlotTable.get_map]

/-- The happenings of a segment that the socket takes are caused by it. -/
theorem Received.followed {t t' : Tcp} (received : Received interface now packet sockets h t t') :
    ∃ es, t.view.follow es = some t'.view ∧
      ∀ e ∈ es, stack.Causes interface now packet t.view e := by
  cases received with
  | kept => exact ⟨[], rfl, by simp⟩
  | @taken s takes read taker =>
      obtain ⟨es, within, followed⟩ := Tcp.follow_advanced t.view (t.happenings s)
      refine ⟨es, followed, ?_⟩
      intro e member
      cases e with
      | syn localEnd remote =>
          obtain ⟨syn, ack, rfl, rfl⟩ := Tcp.syn_happens (within member)
          exact ⟨s, read, syn, ack, rfl, rfl, (Smoltcp.tcpTaker_eq_some.mp taker).1,
            t.coherent.covers takes⟩
      | handshake | data | acked | fin | finAcked | expired | rst => trivial

theorem ingressAll_config (now : Instant) (packets : List Bytes)
    (state : Interface × SlotTable (Socket Tcp Udp)) :
    (ingressAll now packets state).1.config = state.1.config := by
  induction packets generalizing state with
  | nil => rfl
  | cons packet rest ih => exact ih _

theorem ingressAll_free (now : Instant) (packets : List Bytes)
    (state : Interface × SlotTable (Socket Tcp Udp)) (vacant : state.2.get h = none) :
    (ingressAll now packets state).2.get h = none := by
  induction packets generalizing state with
  | nil => exact vacant
  | cons packet rest ih => exact ih _ (get_ingress_free vacant)

theorem ingressAll_udp (now : Instant) (packets : List Bytes)
    (state : Interface × SlotTable (Socket Tcp Udp)) {u : Udp}
    (held : state.2.get h = some (.udp u)) :
    ∃ u' : Udp, (ingressAll now packets state).2.get h = some (.udp u') ∧
      u'.endpoint = u.endpoint := by
  induction packets generalizing state u with
  | nil => exact ⟨u, held, rfl⟩
  | cons packet rest ih =>
      obtain ⟨u₁, held, same, _⟩ := get_ingress_udp state.1 now packet held
      obtain ⟨u₂, held, endpoint⟩ := ih ({ state.1 with
        assembly := (state.1.receive now packet).2 }, ingress state.1 now packet state.2) held
      exact ⟨u₂, held, endpoint.trans same⟩

theorem poll_laws : stack.PollLaws where
  poll_config := fun interface now packets sockets =>
    ingressAll_config now packets (interface, sockets)
  poll_free := by
    intro interface now packets sockets h vacant
    simp only [stack, poll, SlotTable.get_map]
    rw [ingressAll_free now packets (interface, sockets) vacant]
    rfl
  poll_udp := by
    intro interface now packets sockets h u held
    obtain ⟨u', held', endpoint⟩ :=
      ingressAll_udp now packets (interface, sockets) held
    refine ⟨u'.transmitted, ?_, endpoint⟩
    simp only [stack, poll, SlotTable.get_map, held', Option.map_some, transmitted]
  poll_tcp := by
    intro interface now packet sockets h t held
    obtain ⟨t', held', received⟩ := get_ingress_tcp interface now packet held
    obtain ⟨es, followed, caused⟩ := received.followed
    refine ⟨t'.transmitted, es, ?_, followed, caused⟩
    exact (get_poll interface now packet sockets h).trans (by rw [held']; rfl)

/-- A SYN for a listening socket. -/
theorem receive_syn {s : Segment} {t : Tcp} (taken : t.view.takes s = true)
    (listening : t.view.state = .listen) (syn : s.syn = true) (ack : s.ack = false) :
    (t.receive s taken).view =
        { t.view with state := .synReceived, tuple := some (s.dst, s.src), connected := true } ∧
      (t.receive s taken).ackDue = true := by
  simp [Tcp.receive, Tcp.advanced, Tcp.happenings, TcpView.advance, Happening.apply, listening, syn,
    ack]

/-- The reply to a SYN is transmitted in the same poll. -/
theorem frame_syn {t : Tcp} {src dst : Ipv4Address} {srcPort dstPort : UInt16}
    (tuple : t.view.tuple = some (⟨.v4 src, srcPort⟩, ⟨.v4 dst, dstPort⟩))
    (state : t.view.state = .synReceived) (due : t.ackDue = true) (from_port : srcPort ≠ 0)
    (to_port : dstPort ≠ 0) :
    ∃ frame, t.frame = some frame ∧ ∃ reply, Wire.segment frame = some reply ∧ reply.syn = true ∧
      reply.ack = true ∧ reply.src = ⟨.v4 src, srcPort⟩ ∧ reply.dst = ⟨.v4 dst, dstPort⟩ := by
  obtain ⟨reply, read, source, destination, syn, ack, _⟩ := Wire.segment_tcpFrame src dst
    (t.una - 1) t.nxt true true false [] (by simp) from_port to_port fun _ => rfl
  refine ⟨_, ?_, reply, read, syn, ack, source, destination⟩
  simp [Tcp.frame, tuple, state, due]

/-- What a socket transmits is among the frames of the poll. -/
theorem mem_frames {x : Socket Tcp Udp} {bytes : Bytes}
    (held : (ingress interface now packet sockets).get h = some x) (sent : frame x = some bytes) :
    bytes ∈ (poll interface now [packet] sockets).frames :=
  List.mem_filterMap.mpr ⟨some x, SlotTable.mem_of_get held, sent⟩

/-- The endpoints of a segment that is read have versions and ports. -/
theorem segment_endpoints {s : Segment} (read : interface.readSegment now packet = some s) :
    ∃ src srcPort dst dstPort, s.src = ⟨.v4 src, srcPort⟩ ∧ s.dst = ⟨.v4 dst, dstPort⟩ ∧
      srcPort ≠ 0 ∧ dstPort ≠ 0 := by
  obtain ⟨ip, _, read⟩ := Option.bind_eq_some_iff.mp read
  obtain ⟨_, tcp, _, from_port, to_port, source, destination, _⟩ := segment_parts read
  exact ⟨ip.srcAddr, tcp.srcPort, ip.dstAddr, tcp.dstPort, source, destination, from_port, to_port⟩

theorem syn_delivered {s : Segment} {t : Tcp} (read : interface.readSegment now packet = some s)
    (syn : s.syn = true) (ack : s.ack = false)
    (taken : stack.tcpTaker interface sockets s = some h) (held : sockets.get h = some (.tcp t))
    (listening : t.view.state = .listen) :
    ∃ t' : Tcp, (poll interface now [packet] sockets).sockets.get h = some (.tcp t') ∧
      t'.view.state = .synReceived ∧
      ∃ frame ∈ (poll interface now [packet] sockets).frames, ∃ reply,
        Wire.segment frame = some reply ∧ reply.syn = true ∧ reply.ack = true ∧
          reply.src = s.dst ∧ reply.dst = s.src := by
  obtain ⟨t₁, held₁, takes⟩ := Smoltcp.takes_of_tcpTaker taken
  cases held.symm.trans held₁
  have takes : t.view.takes s = true := takes
  obtain ⟨view, due⟩ := receive_syn takes listening syn ack
  have received : (ingress interface now packet sockets).get h =
      some (.tcp (t.receive s takes)) := by
    rw [get_ingress_segment read, if_pos taken, held, Option.map_some, receiveTcp, dif_pos takes]
  obtain ⟨src, srcPort, dst, dstPort, source, destination, from_port, to_port⟩ :=
    segment_endpoints read
  refine ⟨(t.receive s takes).transmitted, by rw [get_poll, received]; rfl, ?_, ?_⟩
  · simp only [Tcp.transmitted, view]
  · obtain ⟨frame, sent, reply, parsed, reply_syn, reply_ack, reply_src, reply_dst⟩ :=
      frame_syn (by rw [view, source, destination]) (by rw [view]) due to_port from_port
    exact ⟨frame, mem_frames received sent, reply, parsed, reply_syn, reply_ack,
      reply_src.trans destination.symm, reply_dst.trans source.symm⟩

theorem delivery : stack.DeliveryLaws where
  accepts_serves := by
    intro interface src dst accepted
    cases src with
    | v4 src => exact (Bool.and_eq_true_iff.mp accepted).2
    | v6 src => contradiction
  serves_accepts := fun interface src dst neighbour served =>
    Bool.and_eq_true_iff.mpr
      ⟨Bool.or_eq_true_iff.mpr (.inl (Bool.and_eq_true_iff.mp neighbour).1), served⟩
  segment_whole := by
    intro interface now packet s read
    obtain ⟨ip, whole, read⟩ := Option.bind_eq_some_iff.mp read
    exact Option.bind_eq_some_iff.mpr ⟨ip, receive_whole whole, read⟩
  datagram_whole := by
    intro interface now packet d read
    obtain ⟨ip, whole, read⟩ := Option.bind_eq_some_iff.mp read
    exact Option.bind_eq_some_iff.mpr ⟨ip, receive_whole whole, read⟩
  datagram_fits := by
    intro interface now packet d read
    obtain ⟨ip, _, read⟩ := Option.bind_eq_some_iff.mp read
    obtain ⟨_, udp, _, _, _, size⟩ := datagram_parts read
    exact size
  udp_delivery := by
    intro interface now packet sockets h u u' held polled
    obtain ⟨u₁, held₁, _, _, rx⟩ := get_ingress_udp interface now packet held
    cases ((get_poll interface now packet sockets h).symm.trans polled).symm.trans
      (congrArg (Option.map transmitted) held₁)
    exact rx
  syn_delivery := fun _ _ _ _ _ _ _ read syn ack taken held listening =>
    syn_delivered read syn ack taken held listening
  tcp_kept := by
    intro interface now packet sockets h t t' held other polled
    obtain ⟨t₁, held₁, received⟩ := get_ingress_tcp interface now packet held
    cases ((get_poll interface now packet sockets h).symm.trans polled).symm.trans
      (congrArg (Option.map transmitted) held₁)
    cases received with
    | kept => exact .inl rfl
    | taken _ read taker => exact absurd taker (other _ read)

/-- Bytes are put into the receive buffer, or it may be cleared. -/
def refills : Happening → Bool
  | .data _ | .expired _ => true
  | _ => false

theorem advanced_recvQueue {es : List Happening} {v : TcpView}
    (quiet : ∀ e ∈ es, refills e = false) : (Tcp.advanced v es).recvQueue = v.recvQueue := by
  induction es generalizing v with
  | nil => rfl
  | cons e rest ih =>
      refine (ih fun f member => quiet f (by simp [member])).trans ?_
      have quiet := quiet e (by simp)
      unfold TcpView.advance
      cases applied : e.apply v with
      | none => rfl
      | some w =>
          cases Happening.edge applied with
          | data | expired => contradiction
          | syn | handshake | acked | fin | finWhileClosing | finLast | finAcked | finAckedClosing
          | finAckedLast | rstHandshake | rst => rfl

/-- The bytes of a segment are read if they are the next ones. -/
theorem exchange_recvQueue (t : Tcp) (s : Segment) :
    (Tcp.advanced t.view (t.exchange s)).recvQueue = t.view.recvQueue ∨
      s.syn = false ∧ s.seqNumber = t.nxt ∧ t.finCame = false ∧
        (Tcp.advanced t.view (t.exchange s)).recvQueue = t.view.recvQueue ++ s.payload := by
  unfold Tcp.exchange
  split
  · exact .inl (advanced_recvQueue (by split <;> simp [refills]))
  · split
    · exact .inl rfl
    · rename_i _ control
      generalize earlier : (if s.ackNumber = t.una then [Happening.handshake] else []) ++
        (if t.acked s = 0 then [] else [.acked (t.acked s)]) ++
        (if t.acksFin s then [.finAcked] else []) = before
      have quiet : ∀ e ∈ before, refills e = false := by
        subst earlier
        split_ifs <;> simp [refills]
      have still : ∀ e ∈ (if s.seqNumber = t.nxt ∧ s.fin then [Happening.fin] else []),
          refills e = false := by
        split <;> simp [refills]
      by_cases next : s.seqNumber = t.nxt ∧ s.payload ≠ []
      · rw [if_pos next, Tcp.advanced, List.foldl_append, List.foldl_append]
        change (Tcp.advanced _ _).recvQueue = _ ∨ _ ∧ _ ∧ _ ∧ (Tcp.advanced _ _).recvQueue = _
        rw [advanced_recvQueue still]
        change (TcpView.advance (Tcp.advanced t.view before) (.data s.payload)).recvQueue = _ ∨
          _ ∧ _ ∧ _ ∧ (TcpView.advance (Tcp.advanced t.view before) (.data s.payload)).recvQueue = _
        unfold TcpView.advance
        cases applied : (Happening.data s.payload).apply (Tcp.advanced t.view before) with
        | none => exact .inl (advanced_recvQueue quiet)
        | some w =>
            cases Happening.edge applied with
            | data state =>
                refine .inr ⟨by simp_all, next.1, ?_, ?_⟩
                · obtain ⟨_, _, followed⟩ := Tcp.follow_advanced t.view before
                  by_contra came
                  have closed := TcpView.follow_peerClosed followed (by
                    simp only [Tcp.finCame, Bool.not_eq_false, Bool.or_eq_true, beq_iff_eq] at came
                    unfold TcpState.peerClosed
                    tauto)
                  rcases state with state | state | state <;>
                    simp [TcpState.peerClosed, state] at closed
                · simp only [Option.getD_some, advanced_recvQueue quiet]
      · refine .inl (advanced_recvQueue ?_)
        rw [if_neg next, List.append_nil]
        intro e member
        exact (List.mem_append.mp member).elim (quiet e) (still e)

theorem Tcp.buffered_eq_some {t : Tcp} {place : Nat} {b : UInt8} :
    t.buffered place = some b ↔
      t.read ≤ place ∧ t.view.recvQueue[place - t.read]? = some b := by
  simp [Tcp.buffered]

theorem Received.buffered {t t' : Tcp} (received : Received interface now packet sockets h t t')
    {place : Nat} {b : UInt8} (holds : t'.buffered place = some b) :
    (t.buffered place = some b ∧ t'.irs = t.irs) ∨
      ∃ s, interface.readSegment now packet = some s ∧
        stack.tcpTaker interface sockets s = some h ∧ s.Carries (t'.irs + 1 + .ofNat place) b := by
  cases received with
  | kept => exact .inl ⟨holds, rfl⟩
  | @taken s takes read taker =>
      obtain ⟨unread, holds⟩ := Tcp.buffered_eq_some.mp holds
      have unread : t.read ≤ place := unread
      change (Tcp.advanced t.view (t.happenings s)).recvQueue[place - t.read]? = some b at holds
      by_cases state : t.view.state = .listen
      · rw [Tcp.happenings, if_pos state, advanced_recvQueue (by split <;> simp [refills]),
          (t.unused (.inl state)).1] at holds
        contradiction
      · rw [Tcp.happenings, if_neg state] at holds
        have irs : (t.receive s takes).irs = t.irs := if_neg state
        rcases exchange_recvQueue t s with same | ⟨syn, next, came, grown⟩
        · rw [same] at holds
          exact .inl ⟨Tcp.buffered_eq_some.mpr ⟨unread, holds⟩, irs⟩
        · rw [grown] at holds
          by_cases old : place - t.read < t.view.recvQueue.length
          · rw [List.getElem?_append_left old] at holds
            exact .inl ⟨Tcp.buffered_eq_some.mpr ⟨unread, holds⟩, irs⟩
          · rw [List.getElem?_append_right (Nat.not_lt.mp old)] at holds
            refine .inr ⟨s, read, taker, place - t.read - t.view.recvQueue.length, holds, ?_⟩
            obtain ⟨k, rfl⟩ : ∃ k, place = t.read + t.view.recvQueue.length + k :=
              ⟨place - t.read - t.view.recvQueue.length, by omega⟩
            have shift : t.read + t.view.recvQueue.length + k - t.read - t.view.recvQueue.length =
                k := by omega
            simp only [irs, next, Tcp.nxt, came, syn, shift, Bool.toNat_false, Nat.zero_add,
              Nat.add_zero, UInt32.ofNat_add, UInt32.add_assoc]
            rfl

theorem stream : stack.StreamLaws where
  queue_buffered := by
    intro t i b held
    simpa [stack, Tcp.buffered] using held
  recv_buffered := by
    intro t take data t' received
    simp only [stack, Tcp.recv] at received
    split at received
    · cases received
      refine ⟨rfl, ?_⟩
      intro place b held
      obtain ⟨unread, held⟩ := Tcp.buffered_eq_some.mp held
      have unread : t.read + take t.view.recvQueue ≤ place := unread
      refine Tcp.buffered_eq_some.mpr ⟨by omega, ?_⟩
      simp only [List.getElem?_drop] at held
      rwa [show take t.view.recvQueue + (place - (t.read + take t.view.recvQueue)) =
        place - t.read by omega] at held
    · split at received <;> contradiction
  send_buffered := by
    intro t bytes n t' sent
    simp only [stack, Tcp.sendSlice] at sent
    split at sent
    · cases sent
      exact ⟨rfl, rfl⟩
    · contradiction
  close_buffered := by
    intro t
    refine ⟨rfl, ?_⟩
    funext place
    simp [stack, Tcp.buffered, Tcp.close, TcpView.close_recvQueue]
  poll_buffered := by
    intro interface now packet sockets h t t' held polled place b holds
    obtain ⟨t₁, held₁, received⟩ := get_ingress_tcp interface now packet held
    cases ((get_poll interface now packet sockets h).symm.trans polled).symm.trans
      (congrArg (Option.map transmitted) held₁)
    obtain ⟨same, irs⟩ | carried := received.buffered holds
    · exact .inl ⟨same, congrArg (· + 1) irs⟩
    · exact .inr carried

/-- One segment at most leaves in a poll. -/
theorem transmitted_pending (t : Tcp) : stack.tcpPending t.transmitted =
    if t.held then stack.tcpPending t else decide (mss < t.outgoing.length) := by
  have outgoing : t.transmitted.outgoing = t.outgoing.drop t.payload.length := by
    unfold Tcp.outgoing
    change (if t.isSending then t.view.sendQueue.drop (t.sent + t.payload.length) else []) = _
    split <;> simp
  have finDue : t.transmitted.finDue = (t.finDue && !t.finGoes) := by
    change (t.isClosing && !(t.finSent || t.finGoes)) = (t.isClosing && !t.finSent && !t.finGoes)
    cases t.isClosing <;> cases t.finSent <;> rfl
  change (!t.transmitted.outgoing.isEmpty || t.transmitted.finDue) =
    if t.held then !t.outgoing.isEmpty || t.finDue else _
  rw [outgoing, finDue]
  cases held : t.held with
  | true =>
      have still_open : t.isClosing = false := by
        simpa using (Bool.and_eq_true_iff.mp held).2
      simp [Tcp.payload, Tcp.finDue, held, still_open]
  | false =>
      have payload : t.payload = t.outgoing.take mss := by simp [Tcp.payload, held]
      have rest : (t.outgoing.drop t.payload.length).isEmpty =
          !decide (mss < t.outgoing.length) := by
        rw [Bool.eq_iff_iff, payload]
        simp only [List.isEmpty_iff, List.drop_eq_nil_iff, List.length_take, Bool.not_eq_true',
          decide_eq_false_iff_not]
        omega
      rw [rest, Tcp.finGoes, Bool.not_not, if_neg (by simp)]
      by_cases more : mss < t.outgoing.length
      · simp [more]
      · simp [more, Nat.not_lt.mp more]

theorem Tcp.payload_le (t : Tcp) : t.payload.length ≤ mss := by
  unfold Tcp.payload
  split
  · exact Nat.zero_le _
  · exact List.length_take_le _ _

theorem frame_pending {t : Tcp} {src dst : Ipv4Address} {srcPort dstPort : UInt16}
    (tuple : t.view.tuple = some (⟨.v4 src, srcPort⟩, ⟨.v4 dst, dstPort⟩))
    (goes : t.payload ≠ [] ∨ t.finGoes = true) (connected : t.view.state ≠ .synReceived)
    (from_port : srcPort ≠ 0) (to_port : dstPort ≠ 0) :
    ∃ frame, t.frame = some frame ∧ ∃ s, Wire.segment frame = some s ∧
      s.src = ⟨.v4 src, srcPort⟩ ∧ s.dst = ⟨.v4 dst, dstPort⟩ ∧ s.payload = t.payload ∧
      s.fin = t.finGoes := by
  have small : t.payload.length < 65496 := Nat.lt_of_le_of_lt t.payload_le (by decide)
  obtain ⟨s, read, source, destination, _, _, fin, payload⟩ := Wire.segment_tcpFrame src dst
    (t.una + .ofNat t.sent) t.nxt false true t.finGoes t.payload small from_port to_port
    (by simp)
  refine ⟨_, ?_, s, read, source, destination, payload, fin⟩
  simp only [Tcp.frame, tuple, if_neg connected]
  rw [if_pos]
  rcases goes with goes | goes <;> simp [goes]

theorem tcpPending_state {t : Tcp} (pending : stack.tcpPending t = true) :
    t.view.state ≠ .synReceived ∧ t.view.state.isConnected = true := by
  have pending : (!t.outgoing.isEmpty || t.finDue) = true := pending
  cases state : t.view.state <;>
    simp [Tcp.outgoing, Tcp.isSending, Tcp.finDue, Tcp.isClosing, TcpState.awaitsFinAck,
      TcpState.isConnected, state] at pending ⊢

/-- What fits the device has a length that fits its header. -/
theorem short_of_fits {n : Nat} (fits : n + 28 ≤ mtu) : n < 65508 := by
  have bound : mtu = 1500 := rfl
  omega

theorem datagram_tcpFrame (src dst : Ipv4Address) (srcPort dstPort : UInt16)
    (seqNumber ackNumber : UInt32) (flags : UInt8) {payload : Bytes}
    (small : payload.length ≤ mss) :
    Wire.datagram (Wire.tcpFrame src dst srcPort dstPort seqNumber ackNumber flags payload) =
      none := by
  have whole := Wire.wholePacket_ipFrame 6 src dst (Wire.bytes16 srcPort.toNat ++
    Wire.bytes16 dstPort.toNat ++ Wire.bytes32 seqNumber.toNat ++
    Wire.bytes32 ackNumber.toNat ++ [80, flags] ++ Wire.bytes16 65535 ++ [0, 0, 0, 0] ++
    payload) (by
      have bound : mss = 536 := rfl
      simp only [Wire.bytes16, Wire.bytes32, List.cons_append, List.nil_append,
        List.length_cons]
      omega)
  rw [Wire.datagram, Wire.tcpFrame, whole]
  rfl

theorem frame_mtu {x : Socket Tcp Udp} {bytes : Bytes} {d : Datagram} (sent : frame x = some bytes)
    (read : Wire.datagram bytes = some d) : d.payload.length + 28 ≤ mtu := by
  cases x with
  | udp u =>
      have sent : u.frame = some bytes := sent
      unfold Udp.frame at sent
      split at sent
      · rename_i src payload dst dstPort rest _ queued
        obtain ⟨fits, same⟩ := Option.ite_none_right_eq_some.mp sent
        cases same
        have to_port : dstPort ≠ 0 := u.addressed (payload, ⟨.v4 dst, dstPort⟩) (by simp [queued])
        cases (Wire.datagram_udpFrame src dst payload (short_of_fits fits) to_port).symm.trans read
        exact fits
      · contradiction
  | tcp t =>
      have sent : t.frame = some bytes := sent
      unfold Tcp.frame at sent
      split at sent
      · split_ifs at sent
        all_goals
          cases sent
          rw [datagram_tcpFrame] at read
          · contradiction
          · first
              | exact t.payload_le
              | exact Nat.zero_le _
      · contradiction

/-- A socket with something to send that is not held back sends a segment. -/
theorem Tcp.goes {t : Tcp} (free : t.held = false) (pending : stack.tcpPending t = true) :
    t.payload = t.outgoing.take mss ∧ (t.payload ≠ [] ∨ t.finGoes = true) := by
  have payload : t.payload = t.outgoing.take mss := by simp [Tcp.payload, free]
  have pending : (!t.outgoing.isEmpty || t.finDue) = true := pending
  refine ⟨payload, ?_⟩
  rw [payload]
  by_cases empty : t.outgoing = []
  · simp [Tcp.finGoes, empty] at pending ⊢
    exact pending
  · exact .inl (by simpa [mss] using empty)

theorem egress : stack.EgressLaws mtu where
  ingress_free := fun _ _ _ _ _ vacant => get_ingress_free vacant
  ingress_udp := by
    intro interface now packet sockets h u held
    obtain ⟨u', held', endpoint, tx, _⟩ := get_ingress_udp interface now packet held
    exact ⟨u', held', tx, endpoint⟩
  ingress_tcp := by
    intro interface now packet sockets h t held
    obtain ⟨t', held', received⟩ := get_ingress_tcp interface now packet held
    obtain ⟨es, followed, caused⟩ := received.followed
    exact ⟨t', es, held', followed, caused⟩
  poll_udp := by
    intro interface now packet sockets h u u' held polled
    cases ((get_poll interface now packet sockets h).symm.trans polled).symm.trans
      (congrArg (Option.map transmitted) held)
    rfl
  poll_tcp := by
    intro interface now packet sockets h t t' held polled
    cases ((get_poll interface now packet sockets h).symm.trans polled).symm.trans
      (congrArg (Option.map transmitted) held)
    exact transmitted_pending t
  tcp_connected := fun _ pending => (tcpPending_state pending).2
  udp_frame := by
    intro interface now packet sockets h u src port payload dst dstPort rest held endpoint queued
      fits
    have endpoint : u.endpoint = ⟨some (.v4 src), port⟩ := endpoint
    have queued : u.tx = (payload, ⟨.v4 dst, dstPort⟩) :: rest := queued
    have to_port : dstPort ≠ 0 := u.addressed (payload, ⟨.v4 dst, dstPort⟩) (by simp [queued])
    exact ⟨_, mem_frames held (by simp only [frame, Udp.frame, endpoint, queued, if_pos fits]),
      Wire.datagram_udpFrame src dst payload (short_of_fits fits) to_port⟩
  tcp_frame := by
    rintro interface now packet sockets h t _ _ held free pending tuple ⟨_, _, _, s, read, rfl, rfl⟩
    obtain ⟨dst, dstPort, src, srcPort, source, destination, from_port, to_port⟩ :=
      segment_endpoints read
    obtain ⟨payload, goes⟩ := Tcp.goes free pending
    have tuple : t.view.tuple = some (s.dst, s.src) := tuple
    obtain ⟨bytes, sent, reply, parsed, from_us, to_peer, carried, fin⟩ :=
      frame_pending (tuple.trans (by rw [source, destination])) goes (tcpPending_state pending).1
        to_port from_port
    exact ⟨bytes, mem_frames held sent, reply, parsed, from_us.trans destination.symm,
      to_peer.trans source.symm, carried.trans payload, fin⟩
  frame_mtu := by
    intro interface now packet sockets bytes member d read
    obtain ⟨slot, _, sent⟩ := List.mem_filterMap.mp member
    obtain ⟨x, _, sent⟩ := Option.bind_eq_some_iff.mp sent
    exact frame_mtu sent read

theorem send : stack.SendLaws Tcp.txCapacity where
  tcp_can_send := by
    intro t
    exact (Bool.and_eq_true _ _).to_iff.trans (and_congr_right fun _ => decide_eq_true_iff)
  tcp_send_fits := by
    intro t bytes can
    have may : t.view.maySend = true := (Bool.and_eq_true_iff.mp can).1
    exact ⟨_, dif_pos may, rfl⟩

/-- What a socket transmits in a poll with one packet. -/
def sends (interface : Interface) (now : Instant) (packet : Bytes)
    (sockets : SlotTable (Socket Tcp Udp)) (h : SocketHandle) : List Bytes :=
  (((ingress interface now packet sockets).get h).bind frame).toList

/-- Nothing waits; once the side is closed, the FIN is what waits longest. -/
def Tcp.drained (t : Tcp) : Bool :=
  if t.isClosing then t.finSent else t.outgoing.isEmpty && !t.finDue

theorem sends_eq {t : Tcp} (received : (ingress interface now packet sockets).get h =
    some (.tcp t)) : sends interface now packet sockets h = t.frame.toList := by
  rw [sends, received]
  rfl

/-- Whatever is read of a frame has the control bits that were written. -/
theorem segment_control {src dst : Ipv4Address} {srcPort dstPort : UInt16}
    {seqNumber ackNumber : UInt32} {syn ack fin : Bool} {payload : Bytes} {s : Segment}
    (small : payload.length ≤ mss) (read : Wire.segment (Wire.tcpFrame src dst srcPort dstPort
      seqNumber ackNumber (Wire.flags syn ack fin) payload) = some s) :
    s.fin = fin ∧ s.rst = false := by
  set body := Wire.bytes16 srcPort.toNat ++ Wire.bytes16 dstPort.toNat ++
    Wire.bytes32 seqNumber.toNat ++ Wire.bytes32 ackNumber.toNat ++
    [80, Wire.flags syn ack fin] ++ Wire.bytes16 65535 ++ [0, 0, 0, 0] ++ payload with written
  have short : body.length < 65516 := by
    have bound : mss = 536 := rfl
    simp only [written, Wire.bytes16, Wire.bytes32, List.cons_append, List.nil_append,
      List.length_cons]
    omega
  rw [Wire.segment, Wire.tcpFrame, Wire.wholePacket_ipFrame 6 src dst body short] at read
  obtain ⟨_, tcp, _, _, _, _, _, _, _, _, finBit, rstBit⟩ := segment_parts read
  have control : ∀ i, Wire.bit body 13 i = (Wire.flags syn ack fin).toNat.testBit i := by
    intro i
    simp [Wire.bit, written, Wire.bytes16, Wire.bytes32]
  rw [finBit, rstBit, control, control]
  cases syn <;> cases ack <;> cases fin <;> decide

/-- Nothing else that a socket transmits has the control bits of an end. -/
theorem finGoes_of_frame {t : Tcp} {bytes : Bytes} {s : Segment} (sent : t.frame = some bytes)
    (read : Wire.segment bytes = some s) (ends : s.fin = true ∨ s.rst = true) :
    t.finGoes = true := by
  unfold Tcp.frame at sent
  split at sent
  · split_ifs at sent
    · cases sent
      obtain ⟨fin, rst⟩ := segment_control (Nat.zero_le _) read
      simp [fin, rst] at ends
    · cases sent
      obtain ⟨fin, rst⟩ := segment_control t.payload_le read
      simpa [fin, rst] using ends
  · contradiction

theorem Tcp.drained_of_closing {t : Tcp} (closing : t.isClosing = true) :
    t.drained = t.finSent := if_pos closing

theorem Tcp.drained_close {t : Tcp} (closing : t.isClosing = true) :
    t.close.drained = t.drained := by
  have kept : t.close.view = t.view := TcpView.close_of_awaitsFinAck closing
  have still : t.close.isClosing = true := by rwa [Tcp.isClosing, kept]
  rw [Tcp.drained_of_closing still, Tcp.drained_of_closing closing]
  simp only [Tcp.close, closing, Bool.true_and]

/-- A FIN that a poll finds sent was sent before the packet came. -/
theorem Received.finSent {t t' : Tcp} (received : Received interface now packet sockets h t t')
    (closing : t'.isClosing = true) (sent : t'.finSent = true) :
    t.isClosing = true ∧ t.finSent = true := by
  cases received with
  | kept => exact ⟨closing, sent⟩
  | taken =>
      refine ⟨?_, sent⟩
      obtain ⟨happenings, _, followed⟩ := Tcp.follow_advanced t.view (t.happenings _)
      by_contra open_side
      have kept := TcpView.follow_awaitsFinAck followed (Bool.eq_false_iff.mpr open_side)
      exact absurd (closing.symm.trans kept) (by simp)

/-- A closed socket has sent its FIN before a poll, or sends it in the poll. -/
theorem fin_transmitted {t t' : Tcp} {localEnd remote : IpEndpoint}
    (held : sockets.get h = some (.tcp t))
    (polled : (poll interface now [packet] sockets).sockets.get h = some (.tcp t'))
    (closing : t'.isClosing = true) (drained : t'.drained = true)
    (tuple : t'.view.tuple = some (localEnd, remote)) (connects : stack.Connects localEnd remote) :
    (t.isClosing = true ∧ t.drained = true) ∨ ∃ frame ∈ sends interface now packet sockets h,
      ∃ s, Wire.segment frame = some s ∧ s.fin = true ∧ s.src = localEnd ∧ s.dst = remote := by
  obtain ⟨reached, held', received⟩ := get_ingress_tcp interface now packet held
  rw [get_poll, held'] at polled
  obtain rfl : reached.transmitted = t' := Socket.tcp.inj (Option.some.inj polled)
  have closing : reached.isClosing = true := closing
  have finished : reached.finSent = true ∨ reached.finGoes = true :=
    Bool.or_eq_true_iff.mp ((Tcp.drained_of_closing (t := reached.transmitted) closing).symm.trans
      drained)
  cases sent : reached.finSent with
  | true =>
      obtain ⟨closing, sent⟩ := received.finSent closing sent
      exact .inl ⟨closing, (Tcp.drained_of_closing closing).trans sent⟩
  | false =>
      obtain ⟨_, _, _, s, read, rfl, rfl⟩ := connects
      obtain ⟨dst, dstPort, src, srcPort, source, destination, from_port, to_port⟩ :=
        segment_endpoints read
      have tuple : reached.view.tuple = some (s.dst, s.src) := tuple
      have other : reached.view.state ≠ .synReceived := by
        intro state
        simp [Tcp.isClosing, state, TcpState.awaitsFinAck] at closing
      have goes : reached.finGoes = true := finished.resolve_left (by simp [sent])
      obtain ⟨bytes, member, reply, parsed, from_us, to_peer, _, fin⟩ :=
        frame_pending (tuple.trans (by rw [source, destination])) (.inr goes) other to_port
          from_port
      exact .inr ⟨bytes, by simp [sends_eq held', member], reply, parsed, fin.trans goes,
        from_us.trans destination.symm, to_peer.trans source.symm⟩

/-- A socket that sends a FIN has closed its side, and all of it has been sent. -/
theorem fin_of_sends {t : Tcp} {bytes : Bytes} {s : Segment}
    (held : sockets.get h = some (.tcp t)) (sent : bytes ∈ sends interface now packet sockets h)
    (read : Wire.segment bytes = some s) (ends : s.fin = true ∨ s.rst = true) :
    ∃ t' : Tcp, (poll interface now [packet] sockets).sockets.get h = some (.tcp t') ∧
      t'.isClosing = true ∧ t'.drained = true := by
  obtain ⟨reached, held', _⟩ := get_ingress_tcp interface now packet held
  rw [sends_eq held', Option.mem_toList] at sent
  have goes := finGoes_of_frame sent read ends
  have closing : reached.isClosing = true :=
    (Bool.and_eq_true_iff.mp (Bool.and_eq_true_iff.mp goes).1).1
  refine ⟨reached.transmitted, by rw [get_poll, held']; rfl, closing, ?_⟩
  refine (Tcp.drained_of_closing (t := reached.transmitted) closing).trans ?_
  simp [Tcp.transmitted, goes]

theorem fin : stack.FinLaws Tcp.drained sends where
  sends_frames := by
    intro interface now packet sockets h bytes sent
    obtain ⟨x, held, sent⟩ := Option.bind_eq_some_iff.mp (Option.mem_toList.mp sent)
    exact mem_frames held sent
  recv_drained := by
    intro t take data t' received
    simp only [stack, Tcp.recv] at received
    split at received
    · cases received
      rfl
    · split at received <;> contradiction
  close_queues := by
    rintro t open_side ⟨closing, drained⟩
    have sent : (Tcp.close t).finSent = true :=
      (Tcp.drained_of_closing (t := Tcp.close t) closing).symm.trans drained
    exact absurd ((Bool.and_eq_true_iff.mp sent).1.symm.trans open_side) (by simp)
  close_again := fun _ closing => Tcp.drained_close closing
  fin_sent := fun _ _ _ _ _ _ _ _ _ held polled out tuple connects =>
    fin_transmitted held polled out.1 out.2 tuple connects
  fin_only := fun _ _ _ _ _ _ _ _ held sent read ends => fin_of_sends held sent read ends

/-- A socket that listens, as the core makes it. -/
def listening : Tcp where
  view := { TcpView.fresh with state := .listen, bound := ⟨none, 80⟩ }
  coherent := .listen _
  unused := fun _ => ⟨rfl, rfl⟩
  txCapacity := 65536
  una := 0
  irs := 0
  read := 0
  sent := 0
  within := Nat.zero_le _
  finSent := false
  ackDue := false

/-- Whatever can happen to a socket, happens to some socket. -/
theorem exists_followed (t : Tcp) {happenings : List Happening} {w : TcpView}
    (followed : t.view.follow happenings = some w) (fit : ∀ e ∈ happenings, e.Fits t.view) :
    ∃ t' : Tcp, t'.view = w ∧ t'.txCapacity = t.txCapacity :=
  ⟨{ t with
      view := w
      coherent := t.coherent.follow followed fit
      unused := t.unused.follow followed
      sent := 0
      within := Nat.zero_le _ }, rfl, rfl⟩

end

end StunnelIos.Reference
