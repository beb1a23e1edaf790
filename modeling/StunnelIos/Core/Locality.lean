import StunnelIos.Core.Changes

/-! What a turn of a session depends on. It sees and changes the session's own socket, may
leave the session's waker, and touches nothing else of the engine. -/
namespace StunnelIos
variable {S : Smoltcp}

/-- What becomes of a slot. -/
inductive SlotChange (S : Smoltcp) where
  | keep
  | put (socket : Socket S.TcpSocket S.UdpSocket)
  | clear

def SlotChange.apply (handle : SocketHandle) (sockets : SocketSet S) : SlotChange S → SocketSet S
  | .keep => sockets
  | .put socket => SlotTable.put sockets handle socket
  | .clear => SlotTable.remove sockets handle

/-- The engine after a session has changed its slot and perhaps left its waker there. -/
def StunnelEngine.touch (engine : StunnelEngine S) (handle : SocketHandle) (id : TaskId)
    (slot : SlotChange S) (waits : Bool) : StunnelEngine S :=
  { engine with
    sockets := slot.apply handle engine.sockets
    wakers := if waits then engine.wakers.insert handle id else engine.wakers }

/-- A call that depends on one socket, which it may change, and on nothing else. -/
def Local {α : Type} (handle : SocketHandle) (id : TaskId)
    (held : Option (Socket S.TcpSocket S.UdpSocket))
    (call : StunnelEngine S → Except Panic (α × StunnelEngine S)) : Prop :=
  ∃ result : Except Panic (α × SlotChange S × Bool), ∀ engine : StunnelEngine S,
    engine.sockets.get handle = held →
      call engine = result.map fun r => (r.1, engine.touch handle id r.2.1 r.2.2)

section
variable {α : Type} {handle : SocketHandle} {id : TaskId}
  {held : Option (Socket S.TcpSocket S.UdpSocket)}

variable {call : StunnelEngine S → Except Panic (α × StunnelEngine S)}

theorem Local.error (panic : Panic)
    (same : ∀ engine : StunnelEngine S, engine.sockets.get handle = held →
      call engine = .error panic) : Local handle id held call :=
  ⟨.error panic, same⟩

theorem Local.pure (a : α)
    (same : ∀ engine : StunnelEngine S, engine.sockets.get handle = held →
      call engine = .ok (a, engine)) : Local handle id held call :=
  ⟨.ok (a, .keep, false), same⟩

theorem Local.wait (a : α)
    (same : ∀ engine : StunnelEngine S, engine.sockets.get handle = held →
      call engine = .ok (a, engine.registerWaker handle id)) : Local handle id held call :=
  ⟨.ok (a, .keep, true), same⟩

theorem Local.put (a : α) (socket : Socket S.TcpSocket S.UdpSocket)
    (same : ∀ engine : StunnelEngine S, engine.sockets.get handle = held →
      call engine = .ok (a, engine.setSocket handle socket)) : Local handle id held call :=
  ⟨.ok (a, .put socket, false), same⟩

end

section
variable (id : TaskId) (held : Option (Socket S.TcpSocket S.UdpSocket))

theorem TcpStream.pollRead_local (stream : TcpStream) (remaining : Nat) :
    Local stream.handle id held fun engine => stream.pollRead engine id remaining := by
  obtain _ | (t | u) := held
  case some.tcp =>
    cases readable : S.tcpCanRecv t with
    | true =>
        cases read : S.tcpRecv t (fun data => min data.length remaining) with
        | ok result =>
            refine .put (.ready (.ok (result.1.take (min result.1.length remaining))))
              (.tcp result.2) fun engine holds => ?_
            simp [pollRead, SocketSet.getMutTcp, holds, readable, read]
        | error error =>
            refine .pure (.ready (.error (.other (.tcpRecv error)))) fun engine holds => ?_
            simp [pollRead, SocketSet.getMutTcp, holds, readable, read]
    | false =>
        cases state : S.tcpState t
        case closed | closeWait | closing | lastAck =>
          refine .pure (.ready (.ok [])) fun engine holds => ?_
          simp [pollRead, SocketSet.getMutTcp, holds, readable, state]
        all_goals
          refine .wait .pending fun engine holds => ?_
          simp [pollRead, SocketSet.getMutTcp, holds, readable, state]
  all_goals
    refine .error .socketHandle fun engine holds => ?_
    simp [pollRead, SocketSet.getMutTcp, holds]

theorem TcpStream.pollWrite_local (stream : TcpStream) (buf : Bytes) :
    Local stream.handle id held fun engine => stream.pollWrite engine id buf := by
  obtain _ | (t | u) := held
  case some.tcp =>
    cases writable : S.tcpCanSend t with
    | true =>
        cases written : S.tcpSendSlice t buf with
        | ok result =>
            refine .put (.ready (.ok result.1)) (.tcp result.2) fun engine holds => ?_
            simp [pollWrite, SocketSet.getMutTcp, holds, writable, written]
        | error error =>
            refine .pure (.ready (.error (.other (.tcpSend error)))) fun engine holds => ?_
            simp [pollWrite, SocketSet.getMutTcp, holds, writable, written]
    | false =>
        cases state : S.tcpState t
        case closed | closeWait | closing | lastAck =>
          refine .pure (.ready (.error ⟨.brokenPipe, .message "connection closed"⟩))
            fun engine holds => ?_
          simp [pollWrite, SocketSet.getMutTcp, holds, writable, state]
        all_goals
          refine .wait .pending fun engine holds => ?_
          simp [pollWrite, SocketSet.getMutTcp, holds, writable, state]
  all_goals
    refine .error .socketHandle fun engine holds => ?_
    simp [pollWrite, SocketSet.getMutTcp, holds]

theorem TcpStream.pollShutdown_local (stream : TcpStream) :
    Local stream.handle id held fun engine => stream.pollShutdown engine := by
  obtain _ | (t | u) := held
  case some.tcp =>
    refine .put (.ready (.ok ())) (.tcp (S.tcpClose t)) fun engine holds => ?_
    simp [pollShutdown, SocketSet.getMutTcp, holds]
  all_goals
    refine .error .socketHandle fun engine holds => ?_
    simp [pollShutdown, SocketSet.getMutTcp, holds]

theorem UdpSocket.pollRecvFrom_local (self : UdpSocket) (bufLen : Nat) :
    Local self.handle id held fun engine => self.pollRecvFrom engine id bufLen := by
  obtain _ | (t | u) := held
  case some.udp =>
    cases received : S.udpRecv u with
    | ok result =>
        obtain ⟨data, metadata, u'⟩ := result
        refine .put (.ready (.ok (data.take (min data.length bufLen),
          endpointToSocketAddr metadata.endpoint))) (.udp u') fun engine holds => ?_
        simp [pollRecvFrom, SocketSet.getMutUdp, holds, received]
    | error error =>
        cases error with
        | exhausted =>
            refine .wait .pending fun engine holds => ?_
            simp [pollRecvFrom, SocketSet.getMutUdp, holds, received]
        | truncated =>
            refine .pure (.ready (.error (.other (.udpRecv .truncated)))) fun engine holds => ?_
            simp [pollRecvFrom, SocketSet.getMutUdp, holds, received]
  all_goals
    refine .error .socketHandle fun engine holds => ?_
    simp [pollRecvFrom, SocketSet.getMutUdp, holds]

theorem UdpSocket.pollSendTo_local (self : UdpSocket) (buf : Bytes) (target : SocketAddr) :
    Local self.handle id held fun engine => self.pollSendTo engine id buf target := by
  obtain _ | (t | u) := held
  case some.udp =>
    cases sent : S.udpSendSlice u buf (socketAddrToEndpoint target) with
    | ok u' =>
        refine .put (.ready (.ok buf.length)) (.udp u') fun engine holds => ?_
        simp [pollSendTo, SocketSet.getMutUdp, holds, sent]
    | error error =>
        cases error with
        | bufferFull =>
            refine .wait .pending fun engine holds => ?_
            simp [pollSendTo, SocketSet.getMutUdp, holds, sent]
        | unaddressable =>
            refine .pure (.ready (.error (.other (.udpSend .unaddressable)))) fun engine holds => ?_
            simp [pollSendTo, SocketSet.getMutUdp, holds, sent]
  all_goals
    refine .error .socketHandle fun engine holds => ?_
    simp [pollSendTo, SocketSet.getMutUdp, holds]

/-- The same for a step with outputs, which returns what it makes of the session. -/
def LocalStep {α : Type} (handle : SocketHandle) (id : TaskId)
    (held : Option (Socket S.TcpSocket S.UdpSocket))
    (call : StunnelEngine S → Except Panic (α × StunnelEngine S × List Output)) : Prop :=
  ∃ result : Except Panic (α × SlotChange S × Bool × List Output), ∀ engine : StunnelEngine S,
    engine.sockets.get handle = held →
      call engine = result.map fun r => (r.1, engine.touch handle id r.2.1 r.2.2.1, r.2.2.2)

theorem LocalStep.pure {α : Type} {handle : SocketHandle} (a : α) (outputs : List Output) :
    LocalStep (S := S) handle id held fun engine => .ok (a, engine, outputs) :=
  ⟨.ok (a, .keep, false, outputs), fun _ _ => rfl⟩

theorem TcpSession.read_local (session : TcpSession) (writeDone : Bool) (remaining : Nat) :
    LocalStep session.stream.handle id held
      fun engine => session.read engine id writeDone remaining := by
  obtain ⟨result, polled⟩ := session.stream.pollRead_local id held remaining
  obtain panic | ⟨value, slot, waits⟩ := result
  · refine ⟨.error panic, fun engine holds => ?_⟩
    simp [read, polled engine holds, Except.map]
  · obtain (error | ⟨_ | ⟨byte, bytes⟩⟩) | _ := value
    · refine ⟨.ok ({ session with phase := .finished (.error error) }, slot, waits, []),
        fun engine holds => ?_⟩
      simp [read, polled engine holds, Except.map]
    · refine ⟨.ok ({ session with phase := .copying true writeDone }, slot, waits, []),
        fun engine holds => ?_⟩
      simp [read, polled engine holds, Except.map]
    · refine ⟨.ok (session, slot, waits,
        [.streamed id session.isDirect session.target (byte :: bytes)]), fun engine holds => ?_⟩
      simp [read, polled engine holds, Except.map]
    · refine ⟨.ok (session, slot, waits, []), fun engine holds => ?_⟩
      simp [read, polled engine holds, Except.map]

theorem TcpSession.write_local (session : TcpSession) (buf : Bytes) :
    LocalStep session.stream.handle id held fun engine => session.write engine id buf := by
  obtain ⟨result, polled⟩ := session.stream.pollWrite_local id held buf
  obtain panic | ⟨value, slot, waits⟩ := result
  · refine ⟨.error panic, fun engine holds => ?_⟩
    simp [write, polled engine holds, Except.map]
  · obtain (error | n) | _ := value
    · refine ⟨.ok ({ session with phase := .finished (.error error) }, slot, waits, []),
        fun engine holds => ?_⟩
      simp [write, polled engine holds, Except.map]
    · refine ⟨.ok (session, slot, waits, [.written id (buf.take n)]), fun engine holds => ?_⟩
      simp [write, polled engine holds, Except.map]
    · refine ⟨.ok (session, slot, waits, []), fun engine holds => ?_⟩
      simp [write, polled engine holds, Except.map]

theorem TcpSession.shutdown_local (session : TcpSession) (readDone : Bool) :
    LocalStep session.stream.handle id held fun engine => session.shutdown engine id readDone := by
  obtain ⟨result, polled⟩ := session.stream.pollShutdown_local id held
  obtain panic | ⟨value, slot, waits⟩ := result
  · refine ⟨.error panic, fun engine holds => ?_⟩
    simp [shutdown, TcpStream.pollFlush, polled engine holds, Except.map]
  · obtain (error | _) | _ := value
    · refine ⟨.ok ({ session with phase := .finished (.error error) }, slot, waits, []),
        fun engine holds => ?_⟩
      simp [shutdown, TcpStream.pollFlush, polled engine holds, Except.map]
    · refine ⟨.ok ({ session with phase := .copying readDone true }, slot, waits, [.shutdown id]),
        fun engine holds => ?_⟩
      simp [shutdown, TcpStream.pollFlush, polled engine holds, Except.map]
    · refine ⟨.ok (session, slot, waits, []), fun engine holds => ?_⟩
      simp [shutdown, TcpStream.pollFlush, polled engine holds, Except.map]

theorem UdpSession.receive_local (session : UdpSession) (rTask : RecvTask)
    (lastActivity now : Instant) :
    LocalStep session.socket.handle id held
      fun engine => session.receive engine id rTask lastActivity now := by
  obtain ⟨result, polled⟩ :=
    session.socket.pollRecvFrom_local id held udpBufferSize
  obtain panic | ⟨value, slot, waits⟩ := result
  · refine ⟨.error panic, fun engine holds => ?_⟩
    simp [receive, polled engine holds, Except.map]
  · obtain (error | ⟨buf, addr⟩) | _ := value
    · refine ⟨.ok (session.finish (.error error), slot, waits, []), fun engine holds => ?_⟩
      simp [receive, polled engine holds, Except.map]
    · by_cases own : addr = session.srcEndpoint
      · refine ⟨.ok ({ session with phase := .running (.sending buf addr) rTask now }, slot, waits,
          []), fun engine holds => ?_⟩
        simp [receive, polled engine holds, Except.map, own]
      · refine ⟨.ok ({ session with phase := .running .receiving rTask lastActivity }, slot, waits,
          []), fun engine holds => ?_⟩
        simp [receive, polled engine holds, Except.map, own]
    · refine ⟨.ok (session, slot, waits, []), fun engine holds => ?_⟩
      simp [receive, polled engine holds, Except.map]

theorem UdpSession.reply_local (session : UdpSession) (sTask : SendTask) (lastActivity : Instant)
    (buf : Bytes) (addr : SocketAddr) :
    LocalStep session.socket.handle id held
      fun engine => session.reply engine id sTask lastActivity buf addr := by
  obtain ⟨result, polled⟩ := session.socket.pollSendTo_local id held buf
    (session.replyTarget addr)
  obtain panic | ⟨value, slot, waits⟩ := result
  · refine ⟨.error panic, fun engine holds => ?_⟩
    simp [reply, polled engine holds, Except.map]
  · obtain (error | n) | _ := value
    · refine ⟨.ok (session.finish (.error error), slot, waits, []), fun engine holds => ?_⟩
      simp [reply, polled engine holds, Except.map]
    · refine ⟨.ok ({ session with phase := .running sTask .receiving lastActivity }, slot, waits,
        [.enqueued id buf (socketAddrToEndpoint (session.replyTarget addr))]),
        fun engine holds => ?_⟩
      simp [reply, polled engine holds, Except.map]
    · refine ⟨.ok (session, slot, waits, []), fun engine holds => ?_⟩
      simp [reply, polled engine holds, Except.map]

theorem TcpSession.step_local (config : AppConfig) (session : TcpSession) (event : TcpEvent) :
    LocalStep session.stream.handle id held
      fun engine => session.step config engine id event := by
  unfold TcpSession.step
  split
  · exact .pure _ _ _ _
  · exact session.read_local _ _ _ _
  · exact session.write_local _ _ _
  · exact session.shutdown_local _ _ _
  all_goals exact .pure _ _ _ _

theorem UdpSession.step_local (config : AppConfig) (session : UdpSession) (event : UdpEvent) :
    LocalStep session.socket.handle id held
      fun engine => session.step config engine id event := by
  unfold UdpSession.step
  split
  case h_2 => exact session.receive_local _ _ _ _ _
  case h_7 => exact session.reply_local _ _ _ _ _ _
  case h_8 => split <;> exact .pure _ _ _ _
  all_goals exact .pure _ _ _ _

/-- A turn depends on the session's own socket alone. -/
theorem Task.step_local (config : AppConfig) (task : Task) (event : Sum TcpEvent UdpEvent) :
    LocalStep task.handle id held fun engine => task.step config engine id event := by
  obtain session | session := task <;> obtain event | event := event
  · obtain ⟨result, stepped⟩ := session.step_local id held config event
    refine ⟨result.map fun r => (.tcp r.1, r.2), fun engine holds => ?_⟩
    simp only [Task.step, stepped engine holds]
    cases result <;> rfl
  · exact .pure _ _ _ _
  · exact .pure _ _ _ _
  · obtain ⟨result, stepped⟩ := session.step_local id held config event
    refine ⟨result.map fun r => (.udp r.1, r.2), fun engine holds => ?_⟩
    simp only [Task.step, stepped engine holds]
    cases result <;> rfl

end

end StunnelIos
