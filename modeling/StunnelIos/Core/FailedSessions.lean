import StunnelIos.Smoltcp.ReferenceLaws
import StunnelIos.Core.Egress
import StunnelIos.Core.SessionStreams

/-! What the app learns when a TCP session fails. The end of a task drops its stream, and
with it the socket, without a call on the socket; only `poll_shutdown` ends a connection,
and only a poll sends that on. -/
namespace StunnelIos
variable {S : Smoltcp}

/-- What a step of a session may call on its socket, and the socket it leaves. -/
inductive SocketCall (S : Smoltcp) (t : S.TcpSocket) : S.TcpSocket → Prop where
  | none : SocketCall S t t
  | recv {take data t'} : (∀ data, take data ≤ data.length) → (S.tcpView t).recvQueue ≠ [] →
      S.tcpRecv t take = .ok (data, t') → SocketCall S t t'
  | send {buf n t'} : S.tcpSendSlice t buf = .ok (n, t') → SocketCall S t t'
  | close : SocketCall S t (S.tcpClose t)

section
variable {stream : TcpStream} {engine engine' : StunnelEngine S} {t : S.TcpSocket}

theorem TcpStream.pollRead_call (api : S.ApiLaws) {waker : TaskId} {remaining : Nat}
    {result : Poll (IoResult Bytes)} (holds : stream.Holds engine t)
    (polled : stream.pollRead engine waker remaining = .ok (result, engine')) :
    ∃ t', SocketCall S t t' ∧ stream.Holds engine' t' := by
  have socket : SocketSet.getMutTcp engine.sockets stream.handle = .ok t := by
    unfold TcpStream.Holds at holds
    simp only [SocketSet.getMutTcp, holds]
  simp only [TcpStream.pollRead, socket, ok_bind, pure_eq_ok] at polled
  split at polled
  · rename_i can
    split at polled <;> cases polled
    · rename_i received
      exact ⟨_, .recv (fun _ => Nat.min_le_left _ _) ((api.tcp_can_recv t).mp can) received,
        (Touches.setSocket holds).holds⟩
    · exact ⟨t, .none, holds⟩
  · split at polled <;> cases polled <;> exact ⟨t, .none, holds⟩

theorem TcpStream.pollWrite_call {waker : TaskId} {buf : Bytes} {result : Poll (IoResult Nat)}
    (holds : stream.Holds engine t)
    (polled : stream.pollWrite engine waker buf = .ok (result, engine')) :
    ∃ t', SocketCall S t t' ∧ stream.Holds engine' t' := by
  obtain ⟨_, _, t', polled', write, touches⟩ := stream.pollWrite_spec waker buf holds
  cases polled.symm.trans polled'
  refine ⟨t', ?_, touches.holds⟩
  cases write with
  | accepted _ accepted => exact .send accepted
  | refused | closed | pending => exact .none

theorem TcpSession.step_call (api : S.ApiLaws) {session session' : TcpSession}
    {config : AppConfig} {id : TaskId} {event : TcpEvent} {outputs : List Output}
    (holds : session.stream.Holds engine t)
    (stepped : session.step config engine id event = .ok (session', engine', outputs)) :
    ∃ t', SocketCall S t t' ∧ session.stream.Holds engine' t' := by
  unfold TcpSession.step at stepped
  split at stepped
  case h_2 =>
    obtain ⟨result, polled, stepped⟩ := bind_eq_ok stepped
    have called := TcpStream.pollRead_call api holds polled
    split at stepped <;> cases stepped <;> exact called
  case h_3 =>
    obtain ⟨result, polled, stepped⟩ := bind_eq_ok stepped
    have called := TcpStream.pollWrite_call holds polled
    split at stepped <;> cases stepped <;> exact called
  case h_4 =>
    obtain ⟨result, closed, stepped⟩ := bind_eq_ok stepped
    cases closed.symm.trans (session.stream.pollShutdown_spec holds)
    cases stepped
    exact ⟨_, .close, (Touches.setSocket holds).holds⟩
  all_goals
    cases stepped
    exact ⟨t, .none, holds⟩

theorem SocketCall.finOut (api : S.ApiLaws) {drained : S.TcpSocket → Bool}
    {sends : S.Interface → Instant → Bytes → SocketSet S → SocketHandle → List Bytes}
    (fin : S.FinLaws drained sends) {t' : S.TcpSocket} (call : SocketCall S t t')
    (out : S.FinOut drained t') : S.FinOut drained t := by
  cases call with
  | none => exact out
  | recv within waiting received =>
      obtain ⟨_, _, received', _, _, _, _, view⟩ := api.tcp_recv t _ within waiting
      cases received.symm.trans received'
      rw [Smoltcp.FinOut, view, fin.recv_drained _ _ _ _ received] at out
      exact out
  | send accepted =>
      obtain ⟨_, may, view, _⟩ := api.tcp_send _ _ _ _ accepted
      obtain ⟨closing, _⟩ := out
      rw [view] at closing
      cases state : (S.tcpView t).state <;>
        simp [TcpView.maySend, TcpState.awaitsFinAck, state] at may closing
  | close =>
      cases closing : (S.tcpView t).state.awaitsFinAck with
      | true => exact ⟨closing, fin.close_again t closing ▸ out.2⟩
      | false => exact absurd out (fin.close_queues t closing)

end

def polls (x : Runs.Transition (Handle S) Event (List Output)) : Bool :=
  match x.before, x.event with
  | some ctx, .processPacket (some _) _ => ctx.started
  | _, _ => false

def socketAfter (id : TaskId) (x : Runs.Transition (Handle S) Event (List Output)) :
    Option (Socket S.TcpSocket S.UdpSocket) := do
  let ctx ← x.after
  let task ← ctx.runtime.tasks.lookup id
  ctx.engine.value.sockets.get task.handle

section
variable (drained : S.TcpSocket → Bool)
  (sends : S.Interface → Instant → Bytes → SocketSet S → SocketHandle → List Bytes) (id : TaskId)

/-- What the socket of a session transmits in a transition. -/
def transmittedFor (x : Runs.Transition (Handle S) Event (List Output)) : List Bytes :=
  match x.before, x.event with
  | some ctx, .processPacket (some bytes) now =>
      match ctx.started, interceptPacket ctx.engine.value ctx.runtime bytes with
      | true, .ok (engine, runtime, _) =>
          (runtime.tasks.lookup id).elim [] fun task =>
            sends engine.interface now bytes engine.sockets task.handle
      | _, _ => []
  | _, _ => []

/-- In this transition a FIN or RST of the session's connection goes to the app: the socket
transmits it, and the packet callback is invoked with it, if there is one. -/
def EndSent (x : Runs.Transition (Handle S) Event (List Output)) : Prop :=
  ∃ t frame segment, socketAfter id x = some (.tcp t) ∧ frame ∈ transmittedFor sends id x ∧
    S.segment frame = some segment ∧ (segment.fin = true ∨ segment.rst = true) ∧
    (S.tcpView t).tuple = some (segment.src, segment.dst) ∧
    ∀ ctx callback, x.before = some ctx →
      ctx.engine.value.device.outboundCallback = some callback →
      .callback callback ctx.engine.value.device.outboundContext frame ∈ x.output

/-- A packet is processed, after which the session's socket is in FIN-WAIT-1, CLOSING or
LAST-ACK with nothing left to transmit. -/
def LeavesDrained (x : Runs.Transition (Handle S) Event (List Output)) : Prop :=
  polls x = true ∧ ∃ t, socketAfter id x = some (.tcp t) ∧ S.FinOut drained t

end

section
variable {drained : S.TcpSocket → Bool}
  {sends : S.Interface → Instant → Bytes → SocketSet S → SocketHandle → List Bytes} {id : TaskId}
  {ctx ctx' : CoreContext S} {history : Runs.History (Handle S) Event (List Output)}

theorem mem_transmittedFor {x : Runs.Transition (Handle S) Event (List Output)} {frame : Bytes} :
    frame ∈ transmittedFor sends id x ↔ ∃ ctx bytes now result task, x.before = some ctx ∧
      x.event = .processPacket (some bytes) now ∧ ctx.started = true ∧
      interceptPacket ctx.engine.value ctx.runtime bytes = .ok result ∧
      result.2.1.tasks.lookup id = some task ∧
      frame ∈ sends result.1.interface now bytes result.1.sockets task.handle := by
  obtain ⟨before, event, outputs, after⟩ := x
  constructor
  · intro member
    unfold transmittedFor at member
    split at member
    · rename_i ctx bytes now before event
      split at member
      · rename_i engine runtime opened started passed
        cases live : runtime.tasks.lookup id with
        | none =>
            rw [live] at member
            contradiction
        | some task =>
            rw [live] at member
            exact ⟨ctx, bytes, now, (engine, runtime, opened), task, before, event, started, passed,
              live, member⟩
      · contradiction
    · contradiction
  · rintro ⟨ctx, bytes, now, result, task, rfl, rfl, started, passed, live, member⟩
    simpa only [transmittedFor, started, passed, live, Option.elim_some] using member

theorem Sound.socket_before (poll : S.PollLaws) (sound : Sound (Connected S) ctx) {task : Task}
    {bytes : Bytes} {now : Instant} {t' : S.TcpSocket}
    (live : ctx.runtime.tasks.lookup id = some task)
    (held' : (ctx.engine.value.delivered now bytes).sockets.get task.handle = some (.tcp t')) :
    ∃ t, ctx.engine.value.sockets.get task.handle = some (.tcp t) := by
  obtain ⟨socket, held, _⟩ := sound.owned.serves id task live
  cases socket with
  | tcp t => exact ⟨t, held⟩
  | udp u =>
      obtain ⟨u', there, _⟩ := poll.poll_udp ctx.engine.value.interface now [bytes] _ _ u held
      cases there.symm.trans held'

/-- A FIN leaves behind everything that was queued. -/
theorem EndSent.leavesDrained (api : S.ApiLaws) (poll : S.PollLaws) (fin : S.FinLaws drained sends)
    {x : Runs.Transition (Handle S) Event (List Output)}
    (sound : Handle.Sound (Connected S) x.before)
    (stepped : Handle.Steps x.before x.event x.output x.after) (sent : EndSent sends id x) :
    LeavesDrained drained id x := by
  obtain ⟨before, event, outputs, after⟩ := x
  obtain ⟨t, frame, segment, kept, transmitted, read, ends, _, _⟩ := sent
  obtain ⟨ctx, bytes, now, result, task, rfl, rfl, started, passed, live, member⟩ :=
    mem_transmittedFor.mp transmitted
  have intercepted := Intercepted.of_ok api passed
  have own := sound ctx rfl
  simp only [Handle.Steps, Handle.step, stunnelProcessPacket,
    processPacket_ok own started now passed intercepted, Except.map, Except.ok.injEq,
    Prod.mk.injEq] at stepped
  obtain ⟨rfl, rfl⟩ := stepped
  have held' : (result.1.delivered now bytes).sockets.get task.handle = some (.tcp t) := by
    simpa [socketAfter, live, Mutex.new] using kept
  obtain ⟨_, held⟩ :=
    (own.intercepted api (connected_stable api) intercepted).socket_before poll live held'
  obtain ⟨t', there, out⟩ :=
    fin.fin_only _ now bytes _ _ _ frame segment held member read ends
  cases held'.symm.trans there
  exact ⟨started, t, kept, out⟩

/-- A FIN that has left a socket was seen in the run. -/
def Announced (drained : S.TcpSocket → Bool)
    (sends : S.Interface → Instant → Bytes → SocketSet S → SocketHandle → List Bytes)
    (history : Runs.History (Handle S) Event (List Output)) (ctx : CoreContext S) : Prop :=
  ∀ id session t, ctx.runtime.tasks.lookup id = some (.tcp session) →
    ctx.engine.value.sockets.get session.stream.handle = some (.tcp t) → S.FinOut drained t →
    ∃ y ∈ history, EndSent sends id y

theorem Announced.packet (api : S.ApiLaws) (poll : S.PollLaws) (fin : S.FinLaws drained sends)
    (sound : Sound (Connected S) ctx) (announced : Announced drained sends history ctx)
    {bytes : Bytes} {now : Instant} {result : StunnelEngine S × Runtime × List Output}
    (started : ctx.started = true)
    (passed : interceptPacket ctx.engine.value ctx.runtime bytes = .ok result)
    (intercepted : Intercepted ctx.engine.value ctx.runtime bytes result) :
    Announced drained sends (⟨some ctx, .processPacket (some bytes) now,
      result.2.2 ++ result.1.deliveredOutputs now bytes,
      some (ctx.afterPacket result bytes now)⟩ :: history) (ctx.afterPacket result bytes now) := by
  intro id session t' live held' out
  have live : result.2.1.tasks.lookup id = some (.tcp session) := live
  have held' : (result.1.delivered now bytes).sockets.get session.stream.handle = some (.tcp t') :=
    held'
  have mid := sound.intercepted api (connected_stable api) intercepted
  obtain ⟨t, held⟩ := mid.socket_before poll live held'
  have later := mid.delivered poll (connected_stable api) now bytes
  obtain ⟨_, there, linked⟩ := later.owned.serves id _ live
  cases held'.symm.trans there
  have connected : (S.tcpView t').state.isConnected = true := by
    cases state : (S.tcpView t').state <;>
      simp [Smoltcp.FinOut, TcpState.awaitsFinAck, TcpState.isConnected, state] at out ⊢
  obtain ⟨localEnd, remote, tuple, connects⟩ := linked connected
  obtain before | ⟨frame, member, segment, read, ends, rfl, rfl⟩ :=
    fin.fin_sent _ now bytes _ _ t t' localEnd remote held held' out tuple connects
  · obtain ⟨_, opened⟩ | ⟨live, held⟩ := sound.intercepted_cases api intercepted live held
    · cases opened with
      | tcp _ listening =>
          rw [Smoltcp.FinOut, listening.1] at before
          exact absurd before.1 (by simp [TcpState.awaitsFinAck])
    · obtain ⟨y, member, sent⟩ := announced id session t live held before
      exact ⟨y, List.mem_cons_of_mem _ member, sent⟩
  · refine ⟨_, List.mem_cons_self, t', frame, segment, ?_, ?_, read, .inl ends, tuple, ?_⟩
    · simp [socketAfter, CoreContext.afterPacket, live, Task.handle, Mutex.new, held']
    · exact mem_transmittedFor.mpr ⟨ctx, bytes, now, result, _, rfl, rfl, started, passed, live, member⟩
    · rintro _ callback ⟨⟩ registered
      refine List.mem_append_right _ (List.mem_append_left _ ?_)
      refine List.mem_flatMap.mpr ⟨frame, fin.sends_frames _ _ _ _ _ member, ?_⟩
      rw [intercepted.device.1]
      simp [TunDevice.transmit, registered]

/-- Sessions whose sockets have not changed, or have not sent a FIN since. -/
theorem Announced.kept {x : Runs.Transition (Handle S) Event (List Output)}
    (announced : Announced drained sends history ctx)
    (old : ∀ id session t', ctx'.runtime.tasks.lookup id = some (.tcp session) →
      ctx'.engine.value.sockets.get session.stream.handle = some (.tcp t') → S.FinOut drained t' →
      ∃ earlier t, ctx.runtime.tasks.lookup id = some (.tcp earlier) ∧
        ctx.engine.value.sockets.get earlier.stream.handle = some (.tcp t) ∧ S.FinOut drained t) :
    Announced drained sends (x :: history) ctx' := by
  intro id session t' live held out
  obtain ⟨earlier, t, live, held, out⟩ := old id session t' live held out
  obtain ⟨y, member, sent⟩ := announced id earlier t live held out
  exact ⟨y, List.mem_cons_of_mem x member, sent⟩

theorem Change.announced (api : S.ApiLaws) (poll : S.PollLaws) (fin : S.FinLaws drained sends)
    (sound : Sound (Connected S) ctx) (announced : Announced drained sends history ctx)
    {event : Event} {outputs : List Output}
    (stepped : Handle.Steps (some ctx) event outputs (some ctx'))
    (changed : Change ctx event outputs ctx') :
    Announced drained sends (⟨some ctx, event, outputs, some ctx'⟩ :: history) ctx' := by
  cases changed with
  | packet started passed intercepted =>
      exact announced.packet api poll fin sound started passed intercepted
  | control | ignored | absent | alive =>
      exact announced.kept fun id session t live held out => ⟨session, t, live, held, out⟩
  | mismatched found =>
      exact announced.kept fun id session t live held out =>
        ⟨session, t, (Runtime.lookup_set_self found id).symm.trans live, held, out⟩
  | @tcp _ session t _ _ _ _ _ found held turn touches =>
      refine announced.kept fun other earlier t' live held' out => ?_
      obtain ⟨rfl, same, _⟩ | ⟨_, live, held'⟩ :=
        sound.touched_cases found turn.handle touches live held'
      · have after := Option.some.inj stepped.of_task.1
        obtain ⟨_, _, turned⟩ := sound.stepped_engine api (connected_stable api) found
          (congrArg (·.engine.value) after.symm)
        obtain ⟨t'', call, there⟩ := TcpSession.step_call api held turned
        have slot : earlier.stream.handle = session.stream.handle := by
          cases same
          exact turn.handle
        rw [slot] at held'
        cases held'.symm.trans there
        exact ⟨session, t, found, held, call.finOut api fin out⟩
      · exact ⟨earlier, t', live, held', out⟩
  | udp found _ turn touches =>
      refine announced.kept fun other earlier t' live held' out => ?_
      obtain ⟨_, same, _⟩ | ⟨_, live, held'⟩ :=
        sound.touched_cases found turn.handle touches live held'
      · cases same
      · exact ⟨earlier, t', live, held', out⟩
  | tcpDropped | udpDropped =>
      refine announced.kept fun other earlier t' live held' out => ?_
      obtain ⟨live, held⟩ := Runtime.remove_cases live held'
      exact ⟨earlier, t', live, held, out⟩

theorem CoreRun.announced (api : S.ApiLaws) (poll : S.PollLaws) (fin : S.FinLaws drained sends)
    {config : AppConfig} (run : CoreRun S config history (some ctx)) :
    Announced drained sends history ctx := by
  refine run.history_invariant api poll (connected_stable api) ?_ ?_
  · intro ctx created id session t live
    rw [CoreContext.new_runtime created] at live
    contradiction
  · intro history ctx event outputs ctx' sound announced stepped changed
    exact changed.announced api poll fin sound announced stepped

/-- A session's socket has sent a FIN in a run exactly when a packet has left it drained. -/
theorem CoreRun.endSent_iff (api : S.ApiLaws) (poll : S.PollLaws) (fin : S.FinLaws drained sends)
    {config : AppConfig} {handle : Handle S} (run : CoreRun S config history handle) :
    (∃ y ∈ history, EndSent sends id y) ↔ ∃ y ∈ history, LeavesDrained drained id y := by
  constructor
  · rintro ⟨y, member, sent⟩
    obtain ⟨sound, stepped⟩ := run.sound_before api poll (connected_stable api) member
    exact ⟨y, member, sent.leavesDrained api poll fin sound stepped⟩
  · rintro ⟨y, member, _, t, kept, out⟩
    obtain ⟨first, created, run⟩ := run
    obtain ⟨later, earlier, rfl⟩ := List.append_of_mem member
    obtain ⟨path, stepped⟩ := run.split (List.suffix_append later (y :: earlier))
    obtain ⟨ctx, reached, kept⟩ := Option.bind_eq_some_iff.mp kept
    obtain ⟨task, live, held⟩ := Option.bind_eq_some_iff.mp kept
    have run' : CoreRun S config (y :: earlier) (some ctx) :=
      ⟨first, created, reached ▸ path.next stepped⟩
    cases task with
    | tcp session =>
        obtain ⟨z, before, sent⟩ := run'.announced api poll fin id session t live held out
        exact ⟨z, List.mem_append_right later before, sent⟩
    | udp session =>
        obtain ⟨socket, there, related⟩ :=
          (run'.sound api poll (connected_stable api) ctx rfl).owned.serves id _ live
        cases held.symm.trans there
        exact related.elim

end

/-- The socket of a session that has failed is about to be removed, and has a connection. -/
def RemovesFailed (x : Runs.Transition (Handle S) Event (List Output)) (id : TaskId) : Prop :=
  ∃ ctx session error t, x.before = some ctx ∧ x.event = .drop id ∧
    ctx.runtime.tasks.lookup id = some (.tcp session) ∧ session.phase = .finished (.error error) ∧
    ctx.engine.value.sockets.get session.stream.handle = some (.tcp t) ∧
    (S.tcpView t).state.isConnected = true

/-- A failed session tells the app before its socket is removed. -/
def TellsApp (sends : S.Interface → Instant → Bytes → SocketSet S → SocketHandle → List Bytes)
    (x : Runs.Transition (Handle S) Event (List Output))
    (earlier : Runs.History (Handle S) Event (List Output)) : Prop :=
  ∀ id, RemovesFailed x id → ∃ y ∈ earlier, EndSent sends id y

/-- The stream of a failed session was shut down early enough for its FIN to leave. -/
def ShutDownInTime (drained : S.TcpSocket → Bool)
    (x : Runs.Transition (Handle S) Event (List Output))
    (earlier : Runs.History (Handle S) Event (List Output)) : Prop :=
  ∀ id, RemovesFailed x id → ∃ y ∈ earlier, LeavesDrained drained id y

/-- In every run the app of each failed session is told before its socket is removed
exactly when the stream was shut down in time. -/
theorem every_failure_told_iff (api : S.ApiLaws) (poll : S.PollLaws)
    {drained : S.TcpSocket → Bool}
    {sends : S.Interface → Instant → Bytes → SocketSet S → SocketHandle → List Bytes}
    (fin : S.FinLaws drained sends) {config : AppConfig}
    {history : Runs.History (Handle S) Event (List Output)} {handle : Handle S}
    (run : CoreRun S config history handle) :
    Runs.Throughout (TellsApp sends) history ↔ Runs.Throughout (ShutDownInTime drained) history := by
  refine run.throughout_iff api poll (connected_stable api) ?_
  intro x earlier run _ _
  exact forall₂_congr fun id _ => run.endSent_iff api poll fin

def refusedConnection : List Event :=
  let segment (seq ack : UInt32) (flags : UInt8) : Event :=
    .processPacket (some (Wire.tcpFrame hostAddr tunAddr 1000 80 seq ack flags [])) 0
  startUp ++ [
    segment 100 0 (Wire.flags true false false),
    segment 101 1 (Wire.flags false true false),
    .task 0 (.inl (.opened (.error ⟨.other, .outbound 61⟩)))]

/-- The socket of session 0 transmits neither a FIN nor a RST in the transition. -/
def sendsNoEnd (x : Runs.Transition (Handle Reference.stack) Event (List Output)) : Bool :=
  (transmittedFor (S := Reference.stack) Reference.sends 0 x).all fun frame =>
    (Wire.segment frame).all fun s => !s.fin && !s.rst

instance (x : Runs.Transition (Handle S) Event (List Output)) (id : TaskId) :
    Decidable (RemovesFailed x id) :=
  decidable_of_iff (x.event = .drop id ∧ ∃ ctx ∈ x.before, ∃ task ∈ ctx.runtime.tasks.lookup id,
      ∃ socket ∈ ctx.engine.value.sockets.get task.handle, (match task, socket with
        | .tcp ⟨_, _, _, .finished (.error _)⟩, .tcp t => (S.tcpView t).state.isConnected
        | _, _ => false) = true) <| by
    constructor
    · rintro ⟨dropped, ctx, before, task, live, socket, held, failed⟩
      split at failed
      · exact ⟨ctx, _, _, _, before, dropped, live, rfl, held, failed⟩
      · contradiction
    · rintro ⟨ctx, ⟨stream, isDirect, target, _⟩, error, t, before, dropped, live, rfl, held, failed⟩
      exact ⟨dropped, ctx, before, _, live, _, held, failed⟩

instance (drained : S.TcpSocket → Bool) (id : TaskId)
    (x : Runs.Transition (Handle S) Event (List Output)) : Decidable (LeavesDrained drained id x) :=
  decidable_of_iff (polls x = true ∧ ∃ socket ∈ socketAfter id x, (match socket with
      | .tcp t => (S.tcpView t).state.awaitsFinAck && drained t
      | .udp _ => false) = true) <| by
    constructor
    · rintro ⟨polled, socket, held, out⟩
      split at out
      · exact ⟨polled, _, held, Bool.and_eq_true_iff.mp out⟩
      · contradiction
    · rintro ⟨polled, t, held, out⟩
      exact ⟨polled, _, held, Bool.and_eq_true_iff.mpr out⟩

/-- The socket goes, and the app hears nothing. -/
theorem refused_connection_untold : ¬ ∀ (S : Smoltcp) (drained : S.TcpSocket → Bool) sends,
    S.ApiLaws → S.PollLaws → S.FinLaws drained sends → ∀ config history (handle : Handle S),
      CoreRun S config history handle → Runs.Throughout (TellsApp sends) history := by
  intro claimed
  obtain ⟨history, handle, run, checked⟩ := CoreContext.replay_run Reference.stack quicConfig
    (refusedConnection ++ [.drop 0])
    (fun history _ => match history with
      | [] => false
      | x :: earlier =>
          decide (RemovesFailed x 0) && earlier.all sendsNoEnd)
    (by decide +kernel)
  cases history with
  | nil => contradiction
  | cons x earlier =>
      simp only [Bool.and_eq_true, decide_eq_true_eq, List.all_eq_true] at checked
      obtain ⟨failed, silent⟩ := checked
      obtain ⟨y, member, _, frame, s, _, transmitted, read, ends, _⟩ := (claimed _ _ _ Reference.api
        Reference.poll_laws Reference.fin _ _ _ run).1 0 failed
      have quiet := List.all_eq_true.mp (silent y member) frame transmitted
      have read : Wire.segment frame = some s := read
      rw [read] at quiet
      simp only [Option.all_some, Bool.and_eq_true, Bool.not_eq_eq_eq_not, Bool.not_true] at quiet
      simp [quiet] at ends

/-- The outbound side ends, and fails when the app has acknowledged. -/
def failsAfterShutdown : List Event :=
  let segment (seq ack : UInt32) (flags : UInt8) : Event :=
    .processPacket (some (Wire.tcpFrame hostAddr tunAddr 1000 80 seq ack flags [])) 0
  startUp ++ [
    segment 100 0 (Wire.flags true false false),
    segment 101 1 (Wire.flags false true false),
    .task 0 (.inl (.opened (.ok ()))),
    .task 0 (.inl .shutdown),
    segment 101 1 (Wire.flags false true false),
    .task 0 (.inl (.finished (.error ⟨.other, .outbound 54⟩)))]

instance ShutDownInTime.decidable (drained : S.TcpSocket → Bool)
    (x : Runs.Transition (Handle S) Event (List Output))
    (earlier : Runs.History (Handle S) Event (List Output)) :
    Decidable (ShutDownInTime drained x earlier) :=
  decidable_of_iff (∀ ctx ∈ x.before, ∀ id ∈ ctx.runtime.tasks.keys, RemovesFailed x id →
      ∃ y ∈ earlier, LeavesDrained drained id y) <| by
    constructor
    · intro inTime id failed
      have ⟨ctx, _, _, _, before, _, live, _⟩ := failed
      exact inTime ctx before id (AList.lookup_isSome.mp (by rw [live]; rfl)) failed
    · exact fun inTime _ _ id _ failed => inTime id failed

instance (x : Runs.Transition (Handle Reference.stack) Event (List Output))
    (earlier : Runs.History (Handle Reference.stack) Event (List Output)) :
    Decidable (ShutDownInTime (S := Reference.stack) Reference.Tcp.drained x earlier) :=
  ShutDownInTime.decidable (S := Reference.stack) _ x earlier

/-- The app hears of the end before the failed session is dropped. -/
theorem every_failure_told_iff_after_shutdown : ∃ history handle,
    CoreRun Reference.stack quicConfig history handle ∧ (∃ x ∈ history, RemovesFailed x 0) ∧
      Runs.Throughout (ShutDownInTime (S := Reference.stack) Reference.Tcp.drained) history ∧
      Runs.Throughout (TellsApp (S := Reference.stack) Reference.sends) history := by
  obtain ⟨history, handle, run, failed, inTime⟩ := CoreContext.replay_holds Reference.stack
    quicConfig (failsAfterShutdown ++ [.drop 0])
    (fun history _ => (∃ x ∈ history, RemovesFailed x 0) ∧
      Runs.Throughout (ShutDownInTime (S := Reference.stack) Reference.Tcp.drained) history)
    (by decide +kernel)
  exact ⟨history, handle, run, failed, inTime,
    (every_failure_told_iff Reference.api Reference.poll_laws Reference.fin run).mpr inTime⟩

end StunnelIos
