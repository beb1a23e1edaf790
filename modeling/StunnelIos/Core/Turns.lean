import StunnelIos.Core.Lib

/-! What one turn of a session can do to the session, its own socket and the
engine. Every later argument about sessions is by cases on these relations. -/
namespace StunnelIos
variable {S : Smoltcp}

/-- Only the wakers and the socket of one handle may differ. -/
structure Touches (engine engine' : StunnelEngine S) (handle : SocketHandle)
    (socket : Socket S.TcpSocket S.UdpSocket) : Prop where
  device : engine'.device = engine.device
  interface : engine'.interface = engine.interface
  udpSessions : engine'.udpSessions = engine.udpSessions
  sockets : ∀ h, engine'.sockets.get h = if h = handle then some socket else engine.sockets.get h

theorem Touches.refl {engine : StunnelEngine S} {handle : SocketHandle}
    {socket : Socket S.TcpSocket S.UdpSocket} (found : engine.sockets.get handle = some socket) :
    Touches engine engine handle socket := by
  refine ⟨rfl, rfl, rfl, ?_⟩
  intro h
  split
  · subst h
    exact found
  · rfl

theorem Touches.registerWaker {engine : StunnelEngine S} {handle : SocketHandle}
    {socket : Socket S.TcpSocket S.UdpSocket} (waker : TaskId)
    (found : engine.sockets.get handle = some socket) :
    Touches engine (engine.registerWaker handle waker) handle socket :=
  ⟨rfl, rfl, rfl, (Touches.refl found).sockets⟩

theorem Touches.setSocket {engine : StunnelEngine S} {handle : SocketHandle}
    {old socket : Socket S.TcpSocket S.UdpSocket}
    (found : engine.sockets.get handle = some old) :
    Touches engine (engine.setSocket handle socket) handle socket :=
  ⟨rfl, rfl, rfl, fun _ => SlotTable.get_put (Nat.le_of_lt (SlotTable.lt_of_get found))⟩

/-- The states in which a stream without unread bytes is at its end. -/
def TcpState.isEnd (state : TcpState) : Prop :=
  state = .closed ∨ state = .closeWait ∨ state = .closing ∨ state = .lastAck

/-- What `poll_read` returns, and the engine and the socket it leaves. -/
inductive StreamRead (S : Smoltcp) (stream : TcpStream) (engine : StunnelEngine S)
    (t : S.TcpSocket) (waker : TaskId) :
    Poll (IoResult Bytes) → StunnelEngine S → S.TcpSocket → Prop where
  | data {data take shown t'} : data ≠ [] → data <+: (S.tcpView t).recvQueue →
      S.tcpRecv t take = .ok (shown, t') → S.tcpPending t' = S.tcpPending t →
      S.tcpView t' =
        { S.tcpView t with recvQueue := (S.tcpView t).recvQueue.drop data.length } →
      StreamRead S stream engine t waker (.ready (.ok data))
        (engine.setSocket stream.handle (.tcp t')) t'
  | eof : (S.tcpView t).recvQueue = [] → (S.tcpView t).state.isEnd →
      StreamRead S stream engine t waker (.ready (.ok [])) engine t
  | pending : (S.tcpView t).recvQueue = [] → ¬ (S.tcpView t).state.isEnd →
      StreamRead S stream engine t waker .pending (engine.registerWaker stream.handle waker) t

theorem TcpStream.pollRead_spec (api : S.ApiLaws) {stream : TcpStream} {engine : StunnelEngine S}
    {t : S.TcpSocket} (waker : TaskId) {remaining : Nat}
    (found : engine.sockets.get stream.handle = some (.tcp t)) (room : remaining ≠ 0) :
    ∃ result engine' t', stream.pollRead engine waker remaining = .ok (result, engine') ∧
      StreamRead S stream engine t waker result engine' t' ∧
      Touches engine engine' stream.handle (.tcp t') := by
  obtain ⟨remaining, rfl⟩ := Nat.exists_eq_succ_of_ne_zero room
  have socket : SocketSet.getMutTcp engine.sockets stream.handle = .ok t := by
    simp only [SocketSet.getMutTcp, found]
  by_cases waiting : (S.tcpView t).recvQueue = []
  · have cannot : S.tcpCanRecv t = false := by
      simpa [waiting] using not_congr (api.tcp_can_recv t)
    cases state : (S.tcpView t).state
    case closed | closeWait | closing | lastAck =>
      refine ⟨_, _, t, ?_, .eof waiting (by simp [TcpState.isEnd, state]), .refl found⟩
      simp [TcpStream.pollRead, socket, cannot, api.tcp_state, state]
    all_goals
      refine ⟨_, _, t, ?_, .pending waiting (by simp [TcpState.isEnd, state]),
        .registerWaker waker found⟩
      simp [TcpStream.pollRead, socket, cannot, api.tcp_state, state]
  · have can : S.tcpCanRecv t = true := (api.tcp_can_recv t).mpr waiting
    obtain ⟨data, t', received, nonempty, head, outgoing, finDue, view⟩ :=
      api.tcp_recv t (fun data => min data.length (remaining + 1))
        (fun data => Nat.min_le_left _ _) waiting
    obtain ⟨byte, rest, rfl⟩ := List.exists_cons_of_ne_nil nonempty
    have taken : (byte :: rest).take (min (byte :: rest).length (remaining + 1)) =
        byte :: rest.take remaining := by
      rw [Nat.min_comm, ← List.take_eq_take_min]
      rfl
    have count : (byte :: rest.take remaining).length =
        min (byte :: rest).length (remaining + 1) := by
      simp [Nat.min_comm]
    have pending : S.tcpPending t' = S.tcpPending t := by
      rw [Smoltcp.tcpPending, Smoltcp.tcpPending, outgoing, finDue]
    refine ⟨_, _, t', ?_, .data (List.cons_ne_nil byte (rest.take remaining)) ?_ received pending
      (by rw [view, count]), .setSocket found⟩
    · simp only [TcpStream.pollRead, socket, can, received, taken, ok_bind, pure_eq_ok, if_true]
    · exact (taken ▸ List.take_prefix _ _).trans head

/-- What `poll_write` returns, and the engine and the socket it leaves. -/
inductive StreamWrite (S : Smoltcp) (stream : TcpStream) (engine : StunnelEngine S)
    (t : S.TcpSocket) (waker : TaskId) (buf : Bytes) :
    Poll (IoResult Nat) → StunnelEngine S → S.TcpSocket → Prop where
  | accepted {n t'} : S.tcpCanSend t = true → S.tcpSendSlice t buf = .ok (n, t') →
      StreamWrite S stream engine t waker buf (.ready (.ok n))
        (engine.setSocket stream.handle (.tcp t')) t'
  | refused {error} : S.tcpCanSend t = true → S.tcpSendSlice t buf = .error error →
      StreamWrite S stream engine t waker buf (.ready (.error (.other (.tcpSend error)))) engine t
  | closed : S.tcpCanSend t = false → (S.tcpState t).isEnd →
      StreamWrite S stream engine t waker buf
        (.ready (.error ⟨.brokenPipe, .message "connection closed"⟩)) engine t
  | pending : S.tcpCanSend t = false → ¬ (S.tcpState t).isEnd →
      StreamWrite S stream engine t waker buf .pending
        (engine.registerWaker stream.handle waker) t

theorem TcpStream.pollWrite_spec {stream : TcpStream} {engine : StunnelEngine S}
    {t : S.TcpSocket} (waker : TaskId) (buf : Bytes)
    (found : engine.sockets.get stream.handle = some (.tcp t)) :
    ∃ result engine' t', stream.pollWrite engine waker buf = .ok (result, engine') ∧
      StreamWrite S stream engine t waker buf result engine' t' ∧
      Touches engine engine' stream.handle (.tcp t') := by
  have socket : SocketSet.getMutTcp engine.sockets stream.handle = .ok t := by
    simp only [SocketSet.getMutTcp, found]
  cases can : S.tcpCanSend t with
  | true =>
      cases accepted : S.tcpSendSlice t buf with
      | ok result =>
          obtain ⟨n, t'⟩ := result
          refine ⟨_, _, t', ?_, .accepted can accepted, .setSocket found⟩
          simp [TcpStream.pollWrite, socket, can, accepted]
      | error error =>
          refine ⟨_, _, t, ?_, .refused can accepted, .refl found⟩
          simp [TcpStream.pollWrite, socket, can, accepted]
  | false =>
      cases state : S.tcpState t
      case closed | closeWait | closing | lastAck =>
        refine ⟨_, _, t, ?_, .closed can (by simp [TcpState.isEnd, state]), .refl found⟩
        simp [TcpStream.pollWrite, socket, can, state]
      all_goals
        refine ⟨_, _, t, ?_, .pending can (by simp [TcpState.isEnd, state]),
          .registerWaker waker found⟩
        simp [TcpStream.pollWrite, socket, can, state]

theorem TcpStream.pollShutdown_spec {stream : TcpStream} {engine : StunnelEngine S}
    {t : S.TcpSocket} (found : engine.sockets.get stream.handle = some (.tcp t)) :
    stream.pollShutdown engine =
      .ok (.ready (.ok ()), engine.setSocket stream.handle (.tcp (S.tcpClose t))) := by
  simp [TcpStream.pollShutdown, SocketSet.getMutTcp, found]

inductive TcpTurn (S : Smoltcp) (config : AppConfig) (id : TaskId) (session : TcpSession)
    (t : S.TcpSocket) : TcpEvent → TcpSession → S.TcpSocket → List Output → Prop where
  | idle {event} : TcpTurn S config id session t event session t []
  | opened {result phase} : session.phase = .opening →
      (phase = .copying false false ∨ ∃ error, phase = .finished (.error error)) →
      TcpTurn S config id session t (.opened result) { session with phase := phase } t []
  | read {writeDone remaining data take shown t'} : session.phase = .copying false writeDone →
      data ≠ [] → data <+: (S.tcpView t).recvQueue → S.tcpRecv t take = .ok (shown, t') →
      S.tcpPending t' = S.tcpPending t →
      S.tcpView t' =
        { S.tcpView t with recvQueue := (S.tcpView t).recvQueue.drop data.length } →
      TcpTurn S config id session t (.pollRead remaining) session t'
        [.streamed id session.isDirect session.target data]
  | eof {writeDone remaining} : session.phase = .copying false writeDone →
      (S.tcpView t).recvQueue = [] → (S.tcpView t).state.isEnd →
      TcpTurn S config id session t (.pollRead remaining)
        { session with phase := .copying true writeDone } t []
  | wrote {readDone buf n t'} : session.phase = .copying readDone false →
      S.tcpSendSlice t buf = .ok (n, t') →
      TcpTurn S config id session t (.pollWrite buf) session t' [.written id (buf.take n)]
  | shutdown {readDone} : session.phase = .copying readDone false →
      TcpTurn S config id session t .shutdown { session with phase := .copying readDone true }
        (S.tcpClose t) [.shutdown id]
  | succeeded : session.phase = .copying true true →
      TcpTurn S config id session t (.finished (.ok ()))
        { session with phase := .finished (.ok ()) } t []
  | failed {event readDone writeDone error} : session.phase = .copying readDone writeDone →
      TcpTurn S config id session t event { session with phase := .finished (.error error) } t []

theorem TcpSession.opened_turn (config : AppConfig) {id : TaskId} {session : TcpSession}
    {t : S.TcpSocket} (result : IoResult Unit) (phase : session.phase = .opening) :
    TcpTurn S config id session t (.opened result) (session.opened config result) t [] := by
  dsimp only [TcpSession.opened]
  generalize (if session.isDirect then result else _) = outcome
  cases outcome with
  | ok => exact .opened phase (.inl rfl)
  | error error => exact .opened phase (.inr ⟨error, rfl⟩)

theorem TcpSession.read_turn (api : S.ApiLaws) (config : AppConfig) {engine : StunnelEngine S}
    {id : TaskId} {session : TcpSession} {t : S.TcpSocket} {writeDone : Bool} (remaining : Nat)
    (found : engine.sockets.get session.stream.handle = some (.tcp t))
    (phase : session.phase = .copying false writeDone) :
    ∃ session' engine' t' outputs,
      session.read engine id writeDone (remaining + 1) = .ok (session', engine', outputs) ∧
      TcpTurn S config id session t (.pollRead (remaining + 1)) session' t' outputs ∧
      Touches engine engine' session.stream.handle (.tcp t') := by
  obtain ⟨result, engine', t', polled, read, touches⟩ :=
    session.stream.pollRead_spec api id found (Nat.succ_ne_zero remaining)
  cases read with
  | @data data _ _ _ nonempty head received pending view =>
      refine ⟨_, _, t', _, ?_, .read phase nonempty head received pending view, touches⟩
      obtain ⟨byte, rest, rfl⟩ := List.exists_cons_of_ne_nil nonempty
      simp only [TcpSession.read, polled, ok_bind, pure_eq_ok]
  | eof waiting atEnd =>
      refine ⟨_, _, t, _, ?_, .eof phase waiting atEnd, touches⟩
      simp only [TcpSession.read, polled, ok_bind, pure_eq_ok]
  | pending =>
      refine ⟨_, _, t, _, ?_, .idle, touches⟩
      simp only [TcpSession.read, polled, ok_bind, pure_eq_ok]

theorem TcpSession.write_turn (config : AppConfig) {engine : StunnelEngine S} {id : TaskId}
    {session : TcpSession} {t : S.TcpSocket} {readDone : Bool} (buf : Bytes)
    (found : engine.sockets.get session.stream.handle = some (.tcp t))
    (phase : session.phase = .copying readDone false) :
    ∃ session' engine' t' outputs,
      session.write engine id buf = .ok (session', engine', outputs) ∧
      TcpTurn S config id session t (.pollWrite buf) session' t' outputs ∧
      Touches engine engine' session.stream.handle (.tcp t') := by
  obtain ⟨result, engine', t', polled, write, touches⟩ :=
    session.stream.pollWrite_spec id buf found
  cases write with
  | accepted _ accepted =>
      refine ⟨_, _, t', _, ?_, .wrote phase accepted, touches⟩
      simp only [TcpSession.write, polled, ok_bind, pure_eq_ok]
  | refused | closed =>
      simp only [TcpSession.write, polled, ok_bind, pure_eq_ok]
      exact ⟨_, _, t, _, rfl, .failed phase, touches⟩
  | pending =>
      refine ⟨_, _, t, _, ?_, .idle, touches⟩
      simp only [TcpSession.write, polled, ok_bind, pure_eq_ok]

theorem TcpSession.shutdown_turn (config : AppConfig) {engine : StunnelEngine S} {id : TaskId}
    {session : TcpSession} {t : S.TcpSocket} {readDone : Bool}
    (found : engine.sockets.get session.stream.handle = some (.tcp t))
    (phase : session.phase = .copying readDone false) :
    ∃ session' engine' t' outputs,
      session.shutdown engine id readDone = .ok (session', engine', outputs) ∧
      TcpTurn S config id session t .shutdown session' t' outputs ∧
      Touches engine engine' session.stream.handle (.tcp t') := by
  refine ⟨_, _, S.tcpClose t, _, ?_, .shutdown phase, .setSocket found⟩
  simp [TcpSession.shutdown, TcpStream.pollFlush, session.stream.pollShutdown_spec found]

/-- A TCP session whose stream holds a TCP socket never panics. -/
theorem TcpSession.step_turn (api : S.ApiLaws) (config : AppConfig) {engine : StunnelEngine S}
    (id : TaskId) {session : TcpSession} {t : S.TcpSocket} (event : TcpEvent)
    (found : engine.sockets.get session.stream.handle = some (.tcp t)) :
    ∃ session' engine' t' outputs,
      session.step config engine id event = .ok (session', engine', outputs) ∧
      TcpTurn S config id session t event session' t' outputs ∧
      Touches engine engine' session.stream.handle (.tcp t') := by
  unfold TcpSession.step
  split
  · exact ⟨_, _, t, _, rfl, session.opened_turn config _ ‹_›, .refl found⟩
  · exact session.read_turn api config _ found ‹_›
  · exact session.write_turn config _ found ‹_›
  · exact session.shutdown_turn config found ‹_›
  · exact ⟨_, _, t, _, rfl, .succeeded ‹_›, .refl found⟩
  · exact ⟨_, _, t, _, rfl, .failed ‹_›, .refl found⟩
  · exact ⟨_, _, t, _, rfl, .idle, .refl found⟩

inductive UdpTurn (S : Smoltcp) (config : AppConfig) (id : TaskId) (session : UdpSession)
    (u : S.UdpSocket) : UdpEvent → UdpSession → S.UdpSocket → List Output → Prop where
  | idle {event} : UdpTurn S config id session u event session u []
  | opened {now result phase} : session.phase = .opening →
      (phase = .running .receiving .receiving now ∨ ∃ error, phase = .finished (.error error)) →
      UdpTurn S config id session u (.opened now result) { session with phase := phase } u []
  | taken {now rTask lastActivity d rest u'} :
      session.phase = .running .receiving rTask lastActivity → S.udpRx u = d :: rest →
      S.udpRx u' = rest → S.udpTx u' = S.udpTx u → S.udpEndpoint u' = S.udpEndpoint u →
      endpointToSocketAddr d.src = session.srcEndpoint →
      UdpTurn S config id session u (.pollRecvFrom now)
        { session with
          phase :=
            .running (.sending (d.payload.take udpBufferSize) session.srcEndpoint) rTask now } u' []
  | foreign {now rTask lastActivity d rest u'} :
      session.phase = .running .receiving rTask lastActivity → S.udpRx u = d :: rest →
      S.udpRx u' = rest → S.udpTx u' = S.udpTx u → S.udpEndpoint u' = S.udpEndpoint u →
      endpointToSocketAddr d.src ≠ session.srcEndpoint →
      UdpTurn S config id session u (.pollRecvFrom now) session u' []
  | sent {rTask lastActivity buf addr} :
      session.phase = .running (.sending buf addr) rTask lastActivity →
      UdpTurn S config id session u (.sent (.ok ()))
        { session with phase := .running .receiving rTask lastActivity } u
        [session.forwarded id buf addr]
  | arrived {sTask lastActivity now data addr} :
      session.phase = .running sTask .receiving lastActivity →
      UdpTurn S config id session u (.received now (.ok (data, addr)))
        { session with
          phase := .running sTask (.replying (data.take udpBufferSize) addr) now } u []
  | replied {sTask lastActivity buf addr u'} :
      session.phase = .running sTask (.replying buf addr) lastActivity →
      S.udpSendSlice u buf (socketAddrToEndpoint (session.replyTarget addr)) = .ok u' →
      UdpTurn S config id session u .pollSendTo
        { session with phase := .running sTask .receiving lastActivity } u'
        [.enqueued id buf (socketAddrToEndpoint (session.replyTarget addr))]
  | finished {event sTask rTask lastActivity result} :
      session.phase = .running sTask rTask lastActivity →
      UdpTurn S config id session u event (session.finish result) u []

theorem UdpSession.opened_turn (config : AppConfig) {id : TaskId} {session : UdpSession}
    {u : S.UdpSocket} (now : Instant) (result : IoResult Unit) (phase : session.phase = .opening) :
    UdpTurn S config id session u (.opened now result) (session.opened config now result) u [] := by
  dsimp only [UdpSession.opened]
  generalize (if session.isDirect then result else _) = outcome
  cases outcome with
  | ok => exact .opened phase (.inl rfl)
  | error error => exact .opened phase (.inr ⟨error, rfl⟩)

theorem UdpSession.receive_exhausted (api : S.ApiLaws) {engine : StunnelEngine S} (id : TaskId)
    {session : UdpSession} {u : S.UdpSocket} (rTask : RecvTask) (lastActivity now : Instant)
    (found : engine.sockets.get session.socket.handle = some (.udp u))
    (waiting : S.udpRx u = []) : session.receive engine id rTask lastActivity now =
      .ok (session, engine.registerWaker session.socket.handle id, []) := by
  have socket : SocketSet.getMutUdp engine.sockets session.socket.handle = .ok u := by
    simp only [SocketSet.getMutUdp, found]
  simp [UdpSession.receive, UdpSocket.pollRecvFrom, socket, api.udp_recv_exhausted u waiting]

/-- The next datagram leaves the socket; one of the client is kept, as far as it fits. -/
theorem UdpSession.receive_datagram (api : S.ApiLaws) {engine : StunnelEngine S} (id : TaskId)
    {session : UdpSession} {u : S.UdpSocket} (rTask : RecvTask) (lastActivity now : Instant)
    {d : Datagram} {rest : List Datagram}
    (found : engine.sockets.get session.socket.handle = some (.udp u))
    (waiting : S.udpRx u = d :: rest) :
    ∃ u', S.udpRx u' = rest ∧ S.udpTx u' = S.udpTx u ∧ S.udpEndpoint u' = S.udpEndpoint u ∧
      session.receive engine id rTask lastActivity now =
        .ok ({ session with
            phase := if endpointToSocketAddr d.src = session.srcEndpoint then
                .running (.sending (d.payload.take udpBufferSize) session.srcEndpoint) rTask now
              else .running .receiving rTask lastActivity },
          engine.setSocket session.socket.handle (.udp u'), []) := by
  have socket : SocketSet.getMutUdp engine.sockets session.socket.handle = .ok u := by
    simp only [SocketSet.getMutUdp, found]
  obtain ⟨u', received, rx, tx, endpoint⟩ := api.udp_recv u d rest waiting
  have copied : d.payload.take (min d.payload.length udpBufferSize) =
      d.payload.take udpBufferSize := by
    rw [Nat.min_comm, ← List.take_eq_take_min]
  refine ⟨u', rx, tx, endpoint, ?_⟩
  by_cases own : endpointToSocketAddr d.src = session.srcEndpoint
  · simp [UdpSession.receive, UdpSocket.pollRecvFrom, socket, received, copied, own]
  · simp [UdpSession.receive, UdpSocket.pollRecvFrom, socket, received, own]

theorem UdpSession.receive_turn (api : S.ApiLaws) (config : AppConfig) {engine : StunnelEngine S}
    {id : TaskId} {session : UdpSession} {u : S.UdpSocket} {rTask : RecvTask}
    {lastActivity : Instant} (now : Instant)
    (found : engine.sockets.get session.socket.handle = some (.udp u))
    (phase : session.phase = .running .receiving rTask lastActivity) :
    ∃ session' engine' u' outputs,
      session.receive engine id rTask lastActivity now = .ok (session', engine', outputs) ∧
      UdpTurn S config id session u (.pollRecvFrom now) session' u' outputs ∧
      Touches engine engine' session.socket.handle (.udp u') := by
  cases waiting : S.udpRx u with
  | nil =>
      exact ⟨_, _, u, _, session.receive_exhausted api id rTask lastActivity now found waiting,
        .idle, .registerWaker id found⟩
  | cons d rest =>
      obtain ⟨u', rx, tx, endpoint, received⟩ :=
        session.receive_datagram api id rTask lastActivity now found waiting
      refine ⟨_, _, u', _, received, ?_, .setSocket found⟩
      split
      · exact .taken phase waiting rx tx endpoint ‹_›
      · rw [← phase]
        exact .foreign phase waiting rx tx endpoint ‹_›

section
variable {engine : StunnelEngine S} {id : TaskId} {session : UdpSession} {u u' : S.UdpSocket}
  {buf : Bytes} {addr : SocketAddr} (sTask : SendTask) (lastActivity : Instant)
  (found : engine.sockets.get session.socket.handle = some (.udp u))
include found

theorem UdpSession.reply_queued
    (queued : S.udpSendSlice u buf (socketAddrToEndpoint (session.replyTarget addr)) = .ok u') :
    session.reply engine id sTask lastActivity buf addr =
      .ok ({ session with phase := .running sTask .receiving lastActivity },
        engine.setSocket session.socket.handle (.udp u'),
        [.enqueued id buf (socketAddrToEndpoint (session.replyTarget addr))]) := by
  simp only [UdpSession.reply, UdpSocket.pollSendTo, SocketSet.getMutUdp, found, queued, ok_bind,
    pure_eq_ok]

theorem UdpSession.reply_full
    (full : S.udpSendSlice u buf (socketAddrToEndpoint (session.replyTarget addr)) =
      .error .bufferFull) :
    session.reply engine id sTask lastActivity buf addr =
      .ok (session, engine.registerWaker session.socket.handle id, []) := by
  simp only [UdpSession.reply, UdpSocket.pollSendTo, SocketSet.getMutUdp, found, full, ok_bind,
    pure_eq_ok]

theorem UdpSession.reply_unaddressable
    (refused : S.udpSendSlice u buf (socketAddrToEndpoint (session.replyTarget addr)) =
      .error .unaddressable) :
    session.reply engine id sTask lastActivity buf addr =
      .ok (session.finish (.error (.other (.udpSend .unaddressable))), engine, []) := by
  simp only [UdpSession.reply, UdpSocket.pollSendTo, SocketSet.getMutUdp, found, refused, ok_bind,
    pure_eq_ok]

end

theorem UdpSession.reply_turn (config : AppConfig) {engine : StunnelEngine S} {id : TaskId}
    {session : UdpSession} {u : S.UdpSocket} {sTask : SendTask} {lastActivity : Instant}
    {buf : Bytes} {addr : SocketAddr}
    (found : engine.sockets.get session.socket.handle = some (.udp u))
    (phase : session.phase = .running sTask (.replying buf addr) lastActivity) :
    ∃ session' engine' u' outputs,
      session.reply engine id sTask lastActivity buf addr = .ok (session', engine', outputs) ∧
      UdpTurn S config id session u .pollSendTo session' u' outputs ∧
      Touches engine engine' session.socket.handle (.udp u') := by
  cases queued : S.udpSendSlice u buf (socketAddrToEndpoint (session.replyTarget addr)) with
  | ok u' =>
      exact ⟨_, _, u', _, session.reply_queued sTask lastActivity found queued,
        .replied phase queued, .setSocket found⟩
  | error error =>
      cases error with
      | bufferFull =>
          exact ⟨_, _, u, _, session.reply_full sTask lastActivity found queued, .idle,
            .registerWaker id found⟩
      | unaddressable =>
          exact ⟨_, _, u, _, session.reply_unaddressable sTask lastActivity found queued,
            .finished phase, .refl found⟩

/-- A UDP session whose socket holds a UDP socket of the stack never panics. -/
theorem UdpSession.step_turn (api : S.ApiLaws) (config : AppConfig) {engine : StunnelEngine S}
    (id : TaskId) {session : UdpSession} {u : S.UdpSocket} (event : UdpEvent)
    (found : engine.sockets.get session.socket.handle = some (.udp u)) :
    ∃ session' engine' u' outputs,
      session.step config engine id event = .ok (session', engine', outputs) ∧
      UdpTurn S config id session u event session' u' outputs ∧
      Touches engine engine' session.socket.handle (.udp u') := by
  unfold UdpSession.step
  split
  · exact ⟨_, _, u, _, rfl, session.opened_turn config _ _ ‹_›, .refl found⟩
  · exact session.receive_turn api config _ found ‹_›
  · exact ⟨_, _, u, _, rfl, .sent ‹_›, .refl found⟩
  · exact ⟨_, _, u, _, rfl, .finished ‹_›, .refl found⟩
  · exact ⟨_, _, u, _, rfl, .arrived ‹_›, .refl found⟩
  · exact ⟨_, _, u, _, rfl, .finished ‹_›, .refl found⟩
  · exact session.reply_turn config found ‹_›
  · split
    · exact ⟨_, _, u, _, rfl, .finished ‹_›, .refl found⟩
    · exact ⟨_, _, u, _, rfl, .idle, .refl found⟩
  · exact ⟨_, _, u, _, rfl, .idle, .refl found⟩

end StunnelIos
