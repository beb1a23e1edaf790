import StunnelIos.Smoltcp.Lifecycle
import StunnelIos.Core.Runs

/-! What every session and its socket agree on, from the packet that opened the
session to its end. -/
namespace StunnelIos
variable {S : Smoltcp}

/-- A SYN that opens a connection is for the endpoint of the socket. -/
theorem Smoltcp.Causes.fits {interface : S.Interface} {now : Instant} {packet : Bytes}
    {v : TcpView} {e : Happening} (caused : S.Causes interface now packet v e) : e.Fits v := by
  cases e with
  | syn =>
      obtain ⟨_, _, _, _, _, _, _, covers⟩ := caused
      exact covers
  | handshake | data | acked | fin | finAcked | expired | rst => trivial

theorem TcpTurn.bound (api : S.ApiLaws) {config : AppConfig} {id : TaskId}
    {session session' : TcpSession} {t t' : S.TcpSocket} {event : TcpEvent}
    {outputs : List Output} (turn : TcpTurn S config id session t event session' t' outputs) :
    (S.tcpView t').bound = (S.tcpView t).bound := by
  cases turn with
  | idle | opened | eof | succeeded | failed => rfl
  | read _ _ _ _ _ view => rw [view]
  | wrote _ accepted => rw [(api.tcp_send _ _ _ _ accepted).2.2.1]
  | shutdown => rw [(api.tcp_close _).1, TcpView.close_bound]

theorem TcpTurn.lifecycle (api : S.ApiLaws) {config : AppConfig} {id : TaskId}
    {session session' : TcpSession} {t t' : S.TcpSocket} {event : TcpEvent}
    {outputs : List Output} (turn : TcpTurn S config id session t event session' t' outputs)
    (life : (S.tcpView t).Lifecycle) (coherent : (S.tcpView t).Coherent) :
    (S.tcpView t').Lifecycle ∧ (S.tcpView t').Coherent := by
  cases turn with
  | idle | opened | eof | succeeded | failed => exact ⟨life, coherent⟩
  | read _ _ _ _ _ view =>
      rw [view]
      exact ⟨life.recv _, coherent⟩
  | wrote _ accepted =>
      obtain ⟨_, may, view, _⟩ := api.tcp_send _ _ _ _ accepted
      rw [view]
      exact ⟨life.send may _, coherent⟩
  | shutdown =>
      rw [(api.tcp_close _).1]
      exact ⟨life.close, coherent.close⟩

/-- The destination of the first packet decides the target, the mode and the
endpoint of the socket. -/
def OpenedFor (target : SocketAddr) (isDirect : Bool) (bound : IpListenEndpoint) : Prop :=
  ∃ dst port, port ≠ 0 ∧ target = .v4 dst port ∧ isDirect = isPrivateV4 dst ∧
    bound = ⟨some (.v4 dst), port⟩

/-- What `s_task` sends on came from the session's own client. -/
def UdpSession.SendsOwn (session : UdpSession) : Prop :=
  ∀ buf addr rTask lastActivity,
    session.phase = .running (.sending buf addr) rTask lastActivity → addr = session.srcEndpoint

def Serves (S : Smoltcp) : Task → Socket S.TcpSocket S.UdpSocket → Prop
  | .tcp session, .tcp t =>
      OpenedFor session.target session.isDirect (S.tcpView t).bound ∧
        (S.tcpView t).Lifecycle ∧ (S.tcpView t).Coherent
  | .udp session, .udp u =>
      OpenedFor session.targetAddr session.isDirect (S.udpEndpoint u) ∧ session.SendsOwn
  | _, _ => False

/-- After a turn a session sends what it sent before, or what it has just taken. -/
theorem UdpTurn.sending_cases {config : AppConfig} {id : TaskId}
    {session session' : UdpSession} {u u' : S.UdpSocket} {event : UdpEvent} {outputs : List Output}
    (turn : UdpTurn S config id session u event session' u' outputs) {buf : Bytes}
    {addr : SocketAddr} {rTask : RecvTask} {lastActivity : Instant}
    (phase' : session'.phase = .running (.sending buf addr) rTask lastActivity) :
    (∃ rTask lastActivity, session.phase = .running (.sending buf addr) rTask lastActivity) ∨
    ∃ now rTask lastActivity d rest, event = .pollRecvFrom now ∧
      session.phase = .running .receiving rTask lastActivity ∧ S.udpRx u = d :: rest ∧
      endpointToSocketAddr d.src = session.srcEndpoint ∧ buf = d.payload.take udpBufferSize ∧
      addr = session.srcEndpoint := by
  cases turn with
  | idle | foreign => exact .inl ⟨rTask, lastActivity, phase'⟩
  | opened _ outcome => obtain rfl | ⟨error, rfl⟩ := outcome <;> simp at phase'
  | taken phase waiting _ _ _ own =>
      simp only [UdpPhase.running.injEq, SendTask.sending.injEq] at phase'
      exact .inr ⟨_, _, _, _, _, rfl, phase, waiting, own, phase'.1.1.symm, phase'.1.2.symm⟩
  | sent => simp at phase'
  | arrived phase | replied phase =>
      simp only [UdpPhase.running.injEq] at phase'
      exact .inl ⟨_, _, phase'.1 ▸ phase⟩
  | finished => simp [UdpSession.finish] at phase'

theorem UdpTurn.sendsOwn {config : AppConfig} {id : TaskId} {session session' : UdpSession}
    {u u' : S.UdpSocket} {event : UdpEvent} {outputs : List Output}
    (turn : UdpTurn S config id session u event session' u' outputs)
    (own : session.SendsOwn) : session'.SendsOwn := by
  intro buf addr rTask lastActivity phase'
  rw [turn.identity.2.1]
  obtain ⟨_, _, phase⟩ | ⟨_, _, _, _, _, _, _, _, _, _, same⟩ := turn.sending_cases phase'
  · exact own buf addr _ _ phase
  · exact same

theorem serves_stable (api : S.ApiLaws) : Stable (Serves S) := by
  constructor
  · intro handle dst port t nonzero listening
    refine ⟨⟨dst, port, nonzero, rfl, rfl, by rw [listening.1]⟩, ?_⟩
    rw [listening.1]
    exact ⟨.listen _, .listen _⟩
  · intro handle src dst port u nonzero bound
    exact ⟨⟨dst, port, nonzero, rfl, rfl, bound.1⟩, fun _ _ _ _ running => by simp at running⟩
  · intro config id session t event session' t' outputs related turn
    refine ⟨?_, turn.lifecycle api related.2.1 related.2.2⟩
    simpa only [turn.identity.2.1, turn.identity.2.2, turn.bound api] using related.1
  · intro config id session u event session' u' outputs related turn
    refine ⟨?_, turn.sendsOwn related.2⟩
    simpa only [turn.identity.2.2.1, turn.identity.2.2.2, turn.endpoint api] using related.1
  · intro session interface now packet t t' happenings related followed caused
    have fit : ∀ e ∈ happenings, e.Fits (S.tcpView t) := fun e member => (caused e member).fits
    refine ⟨?_, related.2.1.follow followed, related.2.2.follow followed fit⟩
    simpa only [TcpView.follow_bound followed] using related.1
  · intro session u u' related endpoint
    simpa only [Serves, endpoint] using related
  · intro session socket related
    cases socket with
    | tcp t => exact ⟨t, rfl⟩
    | udp u => exact related.elim
  · intro session socket related
    cases socket with
    | tcp t => exact related.elim
    | udp u => exact ⟨u, rfl⟩

/-- The socket of a live UDP session. -/
theorem Sound.udp_socket {ctx : CoreContext S} (sound : Sound (Serves S) ctx) {id : TaskId}
    {session : UdpSession} (live : ctx.runtime.tasks.lookup id = some (.udp session)) :
    ∃ u, ctx.engine.value.sockets.get session.socket.handle = some (.udp u) ∧
      OpenedFor session.targetAddr session.isDirect (S.udpEndpoint u) ∧ session.SendsOwn := by
  obtain ⟨socket, held, related⟩ := sound.owned.serves id _ live
  cases socket with
  | tcp t => exact related.elim
  | udp u => exact ⟨u, held, related⟩

/-- The table of UDP sessions leads to a live session of the source, and its socket
is bound to the destination the session was opened for. -/
theorem Sound.session_of_source {ctx : CoreContext S} (sound : Sound (Serves S) ctx)
    {src : SocketAddr} {h : SocketHandle}
    (known : ctx.engine.value.udpSessions.lookup src = some h) :
    ∃ id session u, ctx.runtime.tasks.lookup id = some (.udp session) ∧
      session.socket.handle = h ∧ session.srcEndpoint = src ∧
      ctx.engine.value.sockets.get h = some (.udp u) ∧
      OpenedFor session.targetAddr session.isDirect (S.udpEndpoint u) := by
  obtain ⟨id, task, live, key, slot⟩ := (sound.indexed src h).mp known
  cases task with
  | tcp session => simp [Task.source] at key
  | udp session =>
      obtain ⟨u, held, opened, _⟩ := sound.udp_socket live
      exact ⟨id, session, u, live, slot, Option.some.inj key, slot ▸ held, opened⟩

end StunnelIos
