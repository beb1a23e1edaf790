import StunnelIos.Core.StreamRuns

/-! What `poll_write` says about the transmit half of the connection. It accepts bytes
when the stack does; otherwise a list of states decides between waiting and giving up. -/
namespace StunnelIos
variable {S : Smoltcp}

def TcpState.handshaking (state : TcpState) : Prop :=
  state = .listen ∨ state = .synSent ∨ state = .synReceived

def HasRoom (S : Smoltcp) (capacity : S.TcpSocket → Nat) (t : S.TcpSocket) : Prop :=
  (S.tcpView t).sendQueue.length < capacity t

/-- The result of `poll_write`, and the engine after it, agree with the socket: bytes
are accepted, a later write can still succeed, or none can. -/
structure WriteAgrees (S : Smoltcp) (capacity : S.TcpSocket → Nat) (stream : TcpStream)
    (t : S.TcpSocket) (waker : TaskId) (result : Poll (IoResult Nat)) (engine' : StunnelEngine S) :
    Prop where
  accepts : (∃ n, 0 < n ∧ result = .ready (.ok n)) ↔
    (S.tcpView t).maySend = true ∧ HasRoom S capacity t
  waits : (result = .pending ∧ engine'.wakers.lookup stream.handle = some waker) ↔
    ((S.tcpView t).maySend = true ∧ ¬ HasRoom S capacity t) ∨ (S.tcpView t).state.handshaking
  broken : (∃ source, result = .ready (.error ⟨.brokenPipe, source⟩)) ↔
    (S.tcpView t).state.selfClosed

section
variable {capacity : S.TcpSocket → Nat} {stream : TcpStream} {engine engine' : StunnelEngine S}
  {t t' : S.TcpSocket} {waker : TaskId} {buf : Bytes} {result : Poll (IoResult Nat)}

theorem TcpView.maySend_iff {v : TcpView} :
    v.maySend = true ↔ v.state = .established ∨ v.state = .closeWait := by
  simp [maySend]

theorem Smoltcp.SendLaws.full (send : S.SendLaws capacity) (cannot : S.tcpCanSend t = false) :
    ¬ ((S.tcpView t).maySend = true ∧ HasRoom S capacity t) := by
  intro opened
  rw [(send.tcp_can_send t).mpr opened] at cannot
  contradiction

theorem closed_agrees_iff (send : S.SendLaws capacity) (cannot : S.tcpCanSend t = false)
    (atEnd : (S.tcpView t).state.isEnd) {source : IoErrorSource} :
    WriteAgrees S capacity stream t waker (.ready (.error ⟨.brokenPipe, source⟩)) engine ↔
      (S.tcpView t).state ≠ .closeWait := by
  constructor
  · intro agrees state
    have closed := agrees.broken.mp ⟨_, rfl⟩
    simp [TcpState.selfClosed, state] at closed
  · intro answerable
    have shut : (S.tcpView t).state.selfClosed ∧ (S.tcpView t).maySend = false ∧
        ¬ (S.tcpView t).state.handshaking := by
      obtain state | state | state | state := atEnd <;>
        simp_all [TcpState.selfClosed, TcpView.maySend, TcpState.handshaking]
    refine ⟨iff_of_false (by simp) (send.full cannot), iff_of_false (by simp) ?_,
      iff_of_true ⟨_, rfl⟩ shut.1⟩
    simp [shut.2.1, shut.2.2]

/-- Waiting is right but where the stream has been shut down. -/
theorem pending_agrees_iff (send : S.SendLaws capacity) (cannot : S.tcpCanSend t = false)
    (running : ¬ (S.tcpView t).state.isEnd) :
    WriteAgrees S capacity stream t waker .pending (engine.registerWaker stream.handle waker) ↔
      (S.tcpView t).state ≠ .finWait1 ∧ (S.tcpView t).state ≠ .finWait2 ∧
        (S.tcpView t).state ≠ .timeWait := by
  have registered : (engine.registerWaker stream.handle waker).wakers.lookup stream.handle =
      some waker := AList.lookup_insert _
  constructor
  · intro agrees
    have waiting := agrees.waits.mp ⟨rfl, registered⟩
    rw [TcpView.maySend_iff] at waiting
    cases state : (S.tcpView t).state <;> simp_all [TcpState.handshaking, TcpState.isEnd]
  · rintro ⟨first, second, last⟩
    have full := send.full cannot
    have waiting : ((S.tcpView t).maySend = true ∧ ¬ HasRoom S capacity t) ∨
        (S.tcpView t).state.handshaking := by
      rw [TcpView.maySend_iff] at full ⊢
      cases state : (S.tcpView t).state <;> simp_all [TcpState.handshaking, TcpState.isEnd]
    refine ⟨iff_of_false (by simp) full, iff_of_true ⟨rfl, registered⟩ waiting,
      iff_of_false (by simp) ?_⟩
    cases state : (S.tcpView t).state <;> simp_all [TcpState.selfClosed, TcpState.isEnd]

theorem StreamWrite.agrees_iff (api : S.ApiLaws) (send : S.SendLaws capacity)
    (write : StreamWrite S stream engine t waker buf result engine' t') (nonempty : buf ≠ []) :
    WriteAgrees S capacity stream t waker result engine' ↔
      (S.tcpView t).state ≠ .finWait1 ∧ (S.tcpView t).state ≠ .finWait2 ∧
        (S.tcpView t).state ≠ .timeWait ∧
        ((S.tcpView t).state = .closeWait → HasRoom S capacity t) := by
  cases write with
  | @accepted n _ can accepted =>
      obtain ⟨may, room⟩ := (send.tcp_can_send t).mp can
      obtain ⟨t'', fits, _⟩ := send.tcp_send_fits t buf can
      have some_bytes : 0 < n := by
        cases accepted.symm.trans fits
        have := List.length_pos_iff.mpr nonempty
        omega
      have opened := TcpView.maySend_iff.mp may
      have agrees : WriteAgrees S capacity stream t waker (.ready (.ok n))
          (engine.setSocket stream.handle (.tcp t')) := by
        refine ⟨⟨fun _ => ⟨may, room⟩, fun _ => ⟨n, some_bytes, rfl⟩⟩, ?_, ?_⟩
        · obtain state | state := opened <;> simp [may, HasRoom, room, TcpState.handshaking, state]
        · obtain state | state := opened <;> simp [TcpState.selfClosed, state]
      refine iff_of_true agrees ?_
      obtain state | state := opened <;> simp [state, HasRoom, room]
  | refused can refused =>
      obtain ⟨t'', fits, _⟩ := send.tcp_send_fits t buf can
      cases refused.symm.trans fits
  | closed cannot atEnd =>
      rw [api.tcp_state] at atEnd
      rw [closed_agrees_iff send cannot atEnd]
      constructor
      · intro answerable
        obtain state | state | state | state := atEnd <;> simp [state] at answerable ⊢
      · rintro ⟨_, _, _, room⟩ state
        exact send.full cannot ⟨TcpView.maySend_iff.mpr (.inr state), room state⟩
  | pending cannot running =>
      rw [api.tcp_state] at running
      rw [pending_agrees_iff send cannot running]
      have not_half : (S.tcpView t).state ≠ .closeWait := by
        intro state
        exact running (by simp [TcpState.isEnd, state])
      simp [not_half]

/-- Whatever has happened to the socket before, `poll_write` agrees with it exactly when
our side is not waiting for the end of its close, and a half-closed connection has room. -/
theorem pollWrite_agrees_iff (api : S.ApiLaws) (send : S.SendLaws capacity)
    (holds : stream.Holds engine t) (waker : TaskId) (nonempty : buf ≠ []) :
    (∃ result engine', stream.pollWrite engine waker buf = .ok (result, engine') ∧
      WriteAgrees S capacity stream t waker result engine') ↔
      (S.tcpView t).state ≠ .finWait1 ∧ (S.tcpView t).state ≠ .finWait2 ∧
        (S.tcpView t).state ≠ .timeWait ∧
        ((S.tcpView t).state = .closeWait → HasRoom S capacity t) := by
  obtain ⟨result, engine', t', polled, write, _⟩ := stream.pollWrite_spec waker buf holds
  rw [← write.agrees_iff api send nonempty]
  constructor
  · rintro ⟨result', engine'', polled', agrees⟩
    cases polled.symm.trans polled'
    exact agrees
  · intro agrees
    exact ⟨result, engine', polled, agrees⟩

theorem StreamRun.fill (api : S.ApiLaws) (send : S.SendLaws capacity) {history : StreamHistory S}
    (run : StreamRun S stream history engine) (holds : stream.Holds engine t)
    (can : S.tcpCanSend t = true)
    (fits : buf.length = capacity t - (S.tcpView t).sendQueue.length) :
    ∃ history' engine' t', StreamRun S stream history' engine' ∧ stream.Holds engine' t' ∧
      S.tcpView t' = { S.tcpView t with sendQueue := (S.tcpView t).sendQueue ++ buf } ∧
      capacity t' = capacity t := by
  obtain ⟨t', taken, kept⟩ := send.tcp_send_fits t buf can
  rw [← fits, Nat.min_self] at taken
  obtain ⟨result, engine', t'', polled, write, touches⟩ := stream.pollWrite_spec 0 buf holds
  cases write with
  | accepted _ accepted =>
      cases taken.symm.trans accepted
      have view := (api.tcp_send _ _ _ _ taken).2.2.1
      rw [List.take_length] at view
      exact ⟨_, _, t', run.next (.pollWrite polled), touches.holds, view, kept⟩
  | refused _ refused => cases taken.symm.trans refused
  | closed cannot | pending cannot => simp [can] at cannot

end

def Reference.established : TcpView :=
  { listening.view with
    state := .established
    tuple := some (⟨.v4 tunAddr, 80⟩, ⟨.v4 tunAddr, 1000⟩)
    connected := true }

/-- The app has closed its half, and the answer has filled the transmit buffer. -/
theorem Reference.exists_half_closed_full : ∃ history engine t,
    StreamRun stack ⟨0⟩ history engine ∧ TcpStream.Holds ⟨0⟩ engine t ∧
      t.view.state = .closeWait ∧ t.view.sendQueue.length = t.txCapacity := by
  obtain ⟨bytes, size⟩ : ∃ bytes : Bytes, bytes.length = 65536 :=
    ⟨List.replicate 65536 0, List.length_replicate⟩
  have opened : listening.view.follow
      [.syn ⟨.v4 tunAddr, 80⟩ ⟨.v4 tunAddr, 1000⟩, .handshake] = some established := rfl
  obtain ⟨t, view, capacity, connected⟩ := run_of_follow opened (by decide)
  have view : stack.tcpView t = established := view
  have can : stack.tcpCanSend t = true := by
    refine (send.tcp_can_send t).mpr ?_
    rw [view, capacity]
    exact ⟨rfl, by decide⟩
  obtain ⟨_, engine, t', wrote, holds, view', capacity'⟩ := connected.fill api send
    (TcpStream.holds_holding (S := stack) t) can (by rw [size, view, capacity]; rfl)
  have view' : t'.view = { established with sendQueue := bytes } := by
    rw [view] at view'
    exact view'
  have closed : t'.view.follow [.fin] =
      some { established with sendQueue := bytes, state := .closeWait } := by
    rw [view']
    rfl
  obtain ⟨t'', view'', capacity''⟩ := exists_followed t' closed (by simp [Happening.Fits])
  have closed : (stack.tcpView t').follow [.fin] = some (stack.tcpView t'') :=
    closed.trans (congrArg some view''.symm)
  have half := wrote.next (.arrives holds (TcpStream.holds_holding t'') closed)
  refine ⟨_, _, t'', half, TcpStream.holds_holding (S := stack) t'', ?_, ?_⟩
  · rw [view'']
  · rw [view'', capacity'', capacity', capacity]
    exact size

/-- The rest of the answer is refused, as if no write could succeed again. -/
theorem half_closed_answer_cut : ¬ ∀ stream history (engine : StunnelEngine Reference.stack) t
    (waker : TaskId) (buf : Bytes), StreamRun Reference.stack stream history engine →
      stream.Holds engine t → buf ≠ [] →
      ∃ result engine', stream.pollWrite engine waker buf = .ok (result, engine') ∧
        WriteAgrees Reference.stack Reference.Tcp.txCapacity stream t waker result engine' := by
  intro claimed
  obtain ⟨history, engine, t, run, holds, state, full⟩ := Reference.exists_half_closed_full
  obtain ⟨result, engine', polled, agrees⟩ := claimed _ _ _ t 0 [1] run holds (List.cons_ne_nil _ _)
  obtain ⟨_, _, _, polled', write, _⟩ := TcpStream.pollWrite_spec 0 [1] holds
  cases polled.symm.trans polled'
  have room := ((write.agrees_iff Reference.api Reference.send (List.cons_ne_nil _ _)).mp agrees).2.2.2
  have space : t.view.sendQueue.length < t.txCapacity := room state
  omega

/-- The app has closed its half of a connection, and a write of the answer still succeeds. -/
theorem pollWrite_agrees_iff_half_closed : ∃ t : Reference.Tcp,
    (Reference.stack.tcpView t).state = .closeWait ∧
    HasRoom Reference.stack Reference.Tcp.txCapacity t ∧
    ∃ result engine', TcpStream.pollWrite ⟨0⟩ (.holding t) 0 [1] = .ok (result, engine') ∧
      WriteAgrees Reference.stack Reference.Tcp.txCapacity ⟨0⟩ t 0 result engine' := by
  have closed : Reference.listening.view.follow
      [.syn ⟨.v4 tunAddr, 80⟩ ⟨.v4 tunAddr, 1000⟩, .handshake, .fin] =
      some { Reference.established with state := .closeWait } := rfl
  obtain ⟨t, view, capacity, _⟩ := Reference.run_of_follow closed (by decide)
  have view : Reference.stack.tcpView t = { Reference.established with state := .closeWait } := view
  have room : HasRoom Reference.stack Reference.Tcp.txCapacity t := by
    simp only [HasRoom, view, capacity]
    decide
  refine ⟨t, by rw [view], room, (pollWrite_agrees_iff Reference.api Reference.send
    (TcpStream.holds_holding (S := Reference.stack) t) 0 (List.cons_ne_nil _ _)).mpr ?_⟩
  simp [view, room]

end StunnelIos
