import StunnelIos.Smoltcp.ReferenceLaws
import StunnelIos.Core.Sessions

/-! What waits in the sockets to be sent. Frames leave only while the interface is polled, one
for each socket, and only a packet polls it; the calls of the session tasks just queue. -/
namespace StunnelIos
variable {S : Smoltcp}

/-- A queued datagram, or bytes or a FIN that the peer's window admits. -/
def unsent : Socket S.TcpSocket S.UdpSocket → Bool
  | .tcp t => S.tcpPending t
  | .udp u => !(S.udpTx u).isEmpty

/-- The session can do nothing until its outbound side, or a packet, lets it. -/
def Task.idle : Task → Socket S.TcpSocket S.UdpSocket → Bool
  | .tcp session, .tcp t =>
      match session.phase with
      | .opening => true
      | .copying false _ => !S.tcpCanRecv t && match S.tcpState t with
          | .closed | .closeWait | .closing | .lastAck => false
          | _ => true
      | .copying true writeDone => !writeDone
      | .finished _ => false
  | .udp session, .udp u =>
      match session.phase with
      | .opening => true
      | .running sTask rTask _ =>
          (match sTask with
          | .receiving => (S.udpRx u).isEmpty
          | .sending _ _ => true) &&
          match rTask with
          | .receiving => true
          | .replying buf addr =>
              match S.udpSendSlice u buf (socketAddrToEndpoint (session.replyTarget addr)) with
              | .error .bufferFull => true
              | _ => false
      | .finished _ => false
  | _, _ => false

def CoreContext.quiescent (ctx : CoreContext S) : Bool :=
  ctx.runtime.tasks.entries.all fun entry =>
    (ctx.engine.value.sockets.get entry.2.handle).all entry.2.idle

/-- A started core gets a packet: the sessions, and the sockets before they send, when it has
been intercepted and read. -/
def ingressed (x : Runs.Transition (Handle S) Event (List Output)) :
    Option (Runtime × SocketSet S) :=
  match x.before, x.event with
  | some ctx, .processPacket (some bytes) now =>
      if ctx.started then
        (interceptPacket ctx.engine.value ctx.runtime bytes).toOption.map fun result =>
          (result.2.1, S.ingress result.1.interface now bytes result.1.sockets)
      else none
  | _, _ => none

/-- What the socket has to send next is handed to the callback. -/
def Transmits (outputs : List Output) : Socket S.TcpSocket S.UdpSocket → Prop
  | .tcp t => S.tcpPending t = true → S.tcpHeld t = false → ∃ function context frame segment,
      .callback function context frame ∈ outputs ∧ S.segment frame = some segment ∧
        (S.tcpView t).tuple = some (segment.src, segment.dst) ∧
        segment.payload = (S.tcpOutgoing t).take (S.tcpMss t) ∧
        segment.fin = (S.tcpFinDue t && decide ((S.tcpOutgoing t).length ≤ S.tcpMss t))
  | .udp u => ∀ next ∈ (S.udpTx u).head?, ∃ function context frame d,
      .callback function context frame ∈ outputs ∧ S.datagram frame = some d ∧
        S.udpEndpoint u = ⟨some d.src.addr, d.src.port⟩ ∧ (d.payload, d.dst) = next

/-- If no session task is runnable after a transition, nothing waits to be sent; and what
leaves a socket reaches the callback. -/
def NothingStranded (x : Runs.Transition (Handle S) Event (List Output))
    (_earlier : Runs.History (Handle S) Event (List Output)) : Prop :=
  (∀ ctx, x.after = some ctx → ctx.quiescent = true →
    ∀ h socket, ctx.engine.value.sockets.get h = some socket → unsent socket = false) ∧
  ∀ runtime sockets, ingressed x = some (runtime, sockets) →
    ∀ h socket, sockets.get h = some socket → Transmits x.output socket

def socketBefore (id : TaskId) (x : Runs.Transition (Handle S) Event (List Output)) :
    Option (Socket S.TcpSocket S.UdpSocket) := do
  let ctx ← x.before
  let task ← ctx.runtime.tasks.lookup id
  ctx.engine.value.sockets.get task.handle

/-- A call of the session that gives its socket something to send: an accepted `poll_send_to`, a
`poll_write` of bytes behind which the window is open, or a `poll_shutdown` whose FIN fits. -/
def handsOver (id : TaskId) (socket : Option (Socket S.TcpSocket S.UdpSocket)) : Output → Bool
  | .written task bytes => task == id && (!bytes.isEmpty && match socket with
      | some (.tcp t) => decide (0 < S.tcpWindow t)
      | _ => false)
  | .shutdown task => task == id && match socket with
      | some (.tcp t) => S.tcpFinFits t
      | _ => false
  | .enqueued task _ _ => task == id
  | _ => false

/-- What a poll leaves of what it found: a datagram less, or what is held back or does not fit
one segment. -/
def leftover (before : Nat) : Socket S.TcpSocket S.UdpSocket → Nat
  | .tcp t =>
      (if S.tcpHeld t then S.tcpPending t else decide (S.tcpMss t < (S.tcpOutgoing t).length)).toNat
  | .udp _ => before - 1

/-- How much the session has handed over and no packet has fetched. -/
def owing (id : TaskId) : Runs.History (Handle S) Event (List Output) → Nat
  | [] => 0
  | x :: earlier =>
      match ingressed x with
      | some (runtime, sockets) =>
          ((runtime.tasks.lookup id).bind (sockets.get ·.handle)).elim 0
            (leftover (owing id earlier))
      | none => owing id earlier + x.output.countP (handsOver id (socketBefore id x))

/-- Whatever the socket has to send can go to a callback: a datagram is for an IPv4 address, and
fits the device. -/
def Sendable (device : TunDevice) : Socket S.TcpSocket S.UdpSocket → Prop
  | .tcp t => S.tcpPending t = true → S.tcpHeld t = false → device.outboundCallback.isSome = true
  | .udp u => ∀ next ∈ (S.udpTx u).head?, device.outboundCallback.isSome = true ∧
      next.2.addr.isIpv4 = true ∧ next.1.length + 28 ≤ tunMtu

instance (device : TunDevice) :
    (socket : Socket S.TcpSocket S.UdpSocket) → Decidable (Sendable device socket)
  | .tcp _ => inferInstanceAs (Decidable (_ → _ → _))
  | .udp u => inferInstanceAs (Decidable (∀ next ∈ (S.udpTx u).head?, _))

/-- If no session task is runnable after a transition, no live session is owing; and what is to
be sent in a poll can be. -/
def NoneOwing (x : Runs.Transition (Handle S) Event (List Output))
    (earlier : Runs.History (Handle S) Event (List Output)) : Prop :=
  (∀ ctx ∈ x.after, ctx.quiescent = true →
    ∀ id ∈ ctx.runtime.tasks.keys, owing id (x :: earlier) = 0) ∧
  ∀ ctx ∈ x.before, ∀ r ∈ ingressed x,
    ∀ h socket, r.2.get h = some socket → Sendable ctx.engine.value.device socket

instance (x : Runs.Transition (Handle S) Event (List Output))
    (earlier : Runs.History (Handle S) Event (List Output)) :
    Decidable (NoneOwing x earlier) := by
  unfold NoneOwing
  infer_instance

def Backlog (count : Nat) : Socket S.TcpSocket S.UdpSocket → Prop
  | .tcp t => S.tcpPending t = decide (0 < count)
  | .udp u => (S.udpTx u).length = count

/-- What waits in the socket of a session is what the session owes. -/
structure Accounted (history : Runs.History (Handle S) Event (List Output)) (ctx : CoreContext S) :
    Prop where
  live : ∀ id task socket, ctx.runtime.tasks.lookup id = some task →
    ctx.engine.value.sockets.get task.handle = some socket →
    Backlog (owing id history) socket
  fresh : ∀ id, ctx.runtime.next ≤ id → owing id history = 0

theorem Backlog.unsent_eq {count : Nat} {socket : Socket S.TcpSocket S.UdpSocket}
    (backlog : Backlog count socket) : unsent socket = decide (0 < count) := by
  cases socket with
  | tcp t => exact backlog
  | udp u =>
      rw [← show (S.udpTx u).length = count from backlog]
      cases waiting : S.udpTx u <;> simp [unsent, waiting]

/-- The connection of a socket has endpoints that the interface has read. -/
def Connected (S : Smoltcp) : Task → Socket S.TcpSocket S.UdpSocket → Prop
  | .tcp _, .tcp t => (S.tcpView t).Linked S.Connects
  | .udp _, .udp _ => True
  | _, _ => False

theorem TcpTurn.linked (api : S.ApiLaws) {config : AppConfig} {id : TaskId}
    {session session' : TcpSession} {t t' : S.TcpSocket} {event : TcpEvent} {outputs : List Output}
    (turn : TcpTurn S config id session t event session' t' outputs)
    (linked : (S.tcpView t).Linked S.Connects) : (S.tcpView t').Linked S.Connects := by
  cases turn with
  | idle | opened | eof | succeeded | failed => exact linked
  | read _ _ _ _ _ view =>
      rw [view]
      exact linked
  | wrote _ accepted =>
      rw [(api.tcp_send _ _ _ _ accepted).2.2.1]
      exact linked
  | shutdown =>
      rw [(api.tcp_close _).1]
      exact linked.close

theorem connected_stable (api : S.ApiLaws) : Stable (Connected S) := by
  constructor
  · intro handle dst port t _ listening
    rw [Connected, listening.1]
    exact fun connected => by contradiction
  · intro _ _ _ _ _ _ _
    trivial
  · intro config id session t event session' t' outputs linked turn
    exact turn.linked api linked
  · intro _ _ _ _ _ _ _ _ _ _
    trivial
  · intro session interface now packet t t' happenings linked followed caused
    refine TcpView.Linked.follow linked followed ?_
    intro localEnd remote member
    obtain ⟨segment, read, _, _, dst, src, _⟩ := caused _ member
    exact ⟨interface, now, packet, segment, read, dst, src⟩
  · intro _ _ _ _ _
    trivial
  · intro session socket related
    cases socket with
    | tcp t => exact ⟨t, rfl⟩
    | udp u => exact related.elim
  · intro session socket related
    cases socket with
    | tcp t => exact related.elim
    | udp u => exact ⟨u, rfl⟩

section
variable {history : Runs.History (Handle S) Event (List Output)}
  {x : Runs.Transition (Handle S) Event (List Output)} {ctx ctx' : CoreContext S} {id : TaskId}

theorem ingressed_eq_some {runtime : Runtime} {sockets : SocketSet S}
    (found : ingressed x = some (runtime, sockets)) :
    ∃ ctx bytes now result, x.before = some ctx ∧ x.event = .processPacket (some bytes) now ∧
      ctx.started = true ∧ interceptPacket ctx.engine.value ctx.runtime bytes = .ok result ∧
      runtime = result.2.1 ∧ sockets = S.ingress result.1.interface now bytes result.1.sockets := by
  unfold ingressed at found
  split at found
  · rename_i ctx bytes now before event
    obtain ⟨started, found⟩ := Option.ite_none_right_eq_some.mp found
    obtain ⟨result, passed, same⟩ := Option.map_eq_some_iff.mp found
    cases same
    exact ⟨ctx, bytes, now, result, before, event, started, eq_ok_of_toOption passed, rfl, rfl⟩
  · contradiction

theorem owing_kept (unpolled : ingressed x = none)
    (quiet : ∀ output ∈ x.output, handsOver id (socketBefore id x) output = false) :
    owing id (x :: history) = owing id history := by
  have none_handed : x.output.countP (handsOver id (socketBefore id x)) = 0 :=
    List.countP_eq_zero.mpr fun output called => by simp [quiet output called]
  simp [owing, unpolled, none_handed]

theorem owing_handed (unpolled : ingressed x = none) :
    owing id (x :: history) =
      owing id history + x.output.countP (handsOver id (socketBefore id x)) := by
  simp [owing, unpolled]

@[simp] theorem UdpSession.forwarded_handsOver (session : UdpSession) (buf : Bytes)
    (addr : SocketAddr) (other : TaskId) (socket : Option (Socket S.TcpSocket S.UdpSocket)) :
    handsOver other socket (session.forwarded id buf addr) = false := by
  unfold UdpSession.forwarded
  split <;> rfl

theorem TcpTurn.handsOver_other {config : AppConfig} {session session' : TcpSession}
    {t t' : S.TcpSocket} {event : TcpEvent} {outputs : List Output}
    (turn : TcpTurn S config id session t event session' t' outputs) {other : TaskId}
    (apart : other ≠ id) (socket : Option (Socket S.TcpSocket S.UdpSocket)) :
    ∀ output ∈ outputs, handsOver other socket output = false := by
  cases turn <;> simp [handsOver, Ne.symm apart]

theorem UdpTurn.handsOver_other {config : AppConfig} {session session' : UdpSession}
    {u u' : S.UdpSocket} {event : UdpEvent} {outputs : List Output}
    (turn : UdpTurn S config id session u event session' u' outputs) {other : TaskId}
    (apart : other ≠ id) (socket : Option (Socket S.TcpSocket S.UdpSocket)) :
    ∀ output ∈ outputs, handsOver other socket output = false := by
  cases turn with
  | idle | opened | taken | foreign | arrived | finished => simp
  | sent => simp
  | replied => simp [handsOver, Ne.symm apart]

theorem TcpTurn.backlog (api : S.ApiLaws) {config : AppConfig} {session session' : TcpSession}
    {t t' : S.TcpSocket} {event : TcpEvent} {outputs : List Output} {count : Nat}
    (turn : TcpTurn S config id session t event session' t' outputs)
    (waiting : S.tcpPending t = decide (0 < count)) :
    S.tcpPending t' = decide (0 < count + outputs.countP (handsOver id (some (.tcp t)))) := by
  cases turn with
  | idle | opened | eof | succeeded | failed => exact waiting
  | read _ _ _ _ pending => simp [handsOver, pending, waiting]
  | @wrote _ buf n _ _ accepted =>
      obtain ⟨_, _, _, outgoing, finDue⟩ := api.tcp_send _ _ _ _ accepted
      have waits : S.tcpPending t' =
          (S.tcpPending t || (!(buf.take n).isEmpty && decide (0 < S.tcpWindow t))) := by
        rw [Smoltcp.tcpPending, Smoltcp.tcpPending, outgoing, finDue]
        generalize buf.take n = bytes
        cases bytes <;> cases S.tcpOutgoing t <;> cases S.tcpWindow t <;> simp
      rw [waits, waiting, List.countP_singleton]
      simp only [handsOver, BEq.rfl, Bool.true_and]
      cases !(buf.take n).isEmpty && decide (0 < S.tcpWindow t) <;> simp
  | shutdown =>
      obtain ⟨_, outgoing, finDue⟩ := api.tcp_close t
      have waits : S.tcpPending (S.tcpClose t) = (S.tcpPending t || S.tcpFinFits t) := by
        rw [Smoltcp.tcpPending, outgoing, finDue, Smoltcp.tcpPending, Bool.or_assoc]
      rw [waits, waiting, List.countP_singleton]
      simp only [handsOver, BEq.rfl, Bool.true_and]
      cases S.tcpFinFits t <;> simp

theorem UdpTurn.backlog (api : S.ApiLaws) {config : AppConfig} {session session' : UdpSession}
    {u u' : S.UdpSocket} {event : UdpEvent} {outputs : List Output}
    (turn : UdpTurn S config id session u event session' u' outputs)
    (socket : Option (Socket S.TcpSocket S.UdpSocket)) :
    (S.udpTx u').length = (S.udpTx u).length + outputs.countP (handsOver id socket) := by
  cases turn with
  | idle | opened | arrived | finished => rfl
  | taken _ _ _ tx | foreign _ _ _ tx => simp [tx]
  | sent => simp
  | replied _ queued => simp [(api.udp_send _ _ _ _ queued).1, handsOver]

/-- The sessions own the sockets that a poll has read its packet into. -/
theorem Sound.owned_ingressed {R : Task → Socket S.TcpSocket S.UdpSocket → Prop}
    (egress : S.EgressLaws tunMtu) (stable : Stable R) (sound : Sound R ctx)
    (now : Instant) (bytes : Bytes) :
    Owned Task.handle R ctx.runtime.tasks
      (S.ingress ctx.engine.value.interface now bytes ctx.engine.value.sockets) := by
  refine sound.owned.mapSlots (fun h vacant => egress.ingress_free _ _ _ _ h vacant) ?_
  intro h socket held
  cases socket with
  | tcp t =>
      obtain ⟨t', happenings, held', followed, caused⟩ := egress.ingress_tcp _ now bytes _ h t held
      refine ⟨.tcp t', held', ?_⟩
      intro id task _ _ related
      cases task with
      | tcp session => exact stable.tcp_poll session _ _ _ t t' happenings related followed caused
      | udp session =>
          obtain ⟨u, wrong⟩ := stable.udp_kind session _ related
          contradiction
  | udp u =>
      obtain ⟨u', held', _, endpoint⟩ := egress.ingress_udp _ now bytes _ h u held
      refine ⟨.udp u', held', ?_⟩
      intro id task _ _ related
      cases task with
      | udp session => exact stable.udp_poll session u u' related endpoint
      | tcp session =>
          obtain ⟨t, wrong⟩ := stable.tcp_kind session _ related
          contradiction

theorem Backlog.polled (poll : S.PollLaws) (egress : S.EgressLaws tunMtu)
    (engine : StunnelEngine S) (count : Nat) {bytes : Bytes} {now : Instant} {h : SocketHandle}
    {before after : Socket S.TcpSocket S.UdpSocket}
    (held : engine.sockets.get h = some before)
    (held' : (engine.delivered now bytes).sockets.get h = some after)
    (waiting : ∀ u, before = .udp u → (S.udpTx u).length = count) :
    ∃ between, (S.ingress engine.interface now bytes engine.sockets).get h = some between ∧
      Backlog (leftover count between) after := by
  cases before with
  | tcp t =>
      obtain ⟨t₁, _, read, _, _⟩ := egress.ingress_tcp engine.interface now bytes _ h t held
      obtain ⟨t', _, sent, _, _⟩ := poll.poll_tcp engine.interface now bytes _ h t held
      cases sent.symm.trans held'
      refine ⟨.tcp t₁, read, ?_⟩
      rw [Backlog, egress.poll_tcp _ _ _ _ _ t₁ t' read sent, leftover]
      cases (if S.tcpHeld t₁ then S.tcpPending t₁
        else decide (S.tcpMss t₁ < (S.tcpOutgoing t₁).length)) <;> rfl
  | udp u =>
      obtain ⟨u₁, read, tx, _⟩ := egress.ingress_udp engine.interface now bytes _ h u held
      obtain ⟨u', sent, _⟩ := poll.poll_udp engine.interface now [bytes] _ h u held
      cases sent.symm.trans held'
      refine ⟨.udp u₁, read, ?_⟩
      rw [Backlog, egress.poll_udp _ _ _ _ _ u₁ u' read sent, tx, List.length_tail, waiting u rfl,
        leftover]

/-- What reads no packet and hands nothing over changes no account, if the sessions that
remain keep their sockets. -/
theorem Accounted.unchanged (accounted : Accounted history ctx) {event : Event}
    (unpolled : ingressed (S := S) ⟨some ctx, event, [], some ctx'⟩ = none)
    (next : ctx'.runtime.next = ctx.runtime.next)
    (old : ∀ id task socket, ctx'.runtime.tasks.lookup id = some task →
      ctx'.engine.value.sockets.get task.handle = some socket →
      ctx.runtime.tasks.lookup id = some task ∧
        ctx.engine.value.sockets.get task.handle = some socket) :
    Accounted (⟨some ctx, event, [], some ctx'⟩ :: history) ctx' := by
  have kept : ∀ id, owing id (⟨some ctx, event, [], some ctx'⟩ :: history) = owing id history :=
    fun id => owing_kept unpolled (by simp)
  constructor
  · intro id task socket live held
    obtain ⟨live, held⟩ := old id task socket live held
    rw [kept]
    exact accounted.live id task socket live held
  · intro id later
    rw [kept]
    exact accounted.fresh id (next ▸ later)

/-- After a poll each session owes what the one pass of the egress has left in its socket. -/
theorem Accounted.polled (api : S.ApiLaws) (poll : S.PollLaws) (egress : S.EgressLaws tunMtu)
    (sound : Sound (Serves S) ctx) (accounted : Accounted history ctx) {bytes : Bytes}
    {now : Instant} {result : StunnelEngine S × Runtime × List Output} {outputs : List Output}
    (started : ctx.started = true)
    (passed : interceptPacket ctx.engine.value ctx.runtime bytes = .ok result)
    (intercepted : Intercepted ctx.engine.value ctx.runtime bytes result)
    (after : ctx' = { ctx with
      engine := .new (result.1.delivered now bytes), runtime := result.2.1 }) :
    Accounted (⟨some ctx, .processPacket (some bytes) now, outputs, some ctx'⟩ :: history)
      ctx' := by
  subst after
  have opened := sound.intercepted api (serves_stable api) intercepted
  have found : ∀ after, ingressed ⟨some ctx, .processPacket (some bytes) now, outputs, after⟩ =
      some (result.2.1, S.ingress result.1.interface now bytes result.1.sockets) := by
    intro after
    simp [ingressed, started, passed, Except.toOption]
  constructor
  · intro id task socket live held
    obtain ⟨before, there, _⟩ := opened.owned.serves id task live
    -- A session that this packet has opened starts with an empty queue.
    have waiting : ∀ u, before = .udp u → (S.udpTx u).length = owing id history := by
      rintro u rfl
      obtain ⟨rfl, just⟩ | ⟨live, held⟩ := sound.intercepted_cases api intercepted live there
      · rw [accounted.fresh _ (Nat.le_refl _)]
        cases just with
        | udp _ bound => simp [bound.2.2.1]
      · exact accounted.live id task _ live held
    obtain ⟨between, read, backlog⟩ :=
      Backlog.polled poll egress result.1 (owing id history) there held waiting
    have live : result.2.1.tasks.lookup id = some task := live
    simp only [owing, found, live, Option.bind_some]
    rwa [read]
  · intro id later
    have nobody : result.2.1.tasks.lookup id = none := by
      cases live : result.2.1.tasks.lookup id with
      | none => rfl
      | some task => exact absurd (opened.fresh id task live) (Nat.not_lt.mpr later)
    simp [owing, found, nobody]

/-- A turn of a session changes the account of that session alone. -/
theorem Accounted.turned (sound : Sound (Serves S) ctx) (accounted : Accounted history ctx)
    {event : TcpEvent ⊕ UdpEvent} {outputs : List Output} {task task' : Task}
    {engine' : StunnelEngine S} {socket : Socket S.TcpSocket S.UdpSocket}
    (found : ctx.runtime.tasks.lookup id = some task) (slot : task'.handle = task.handle)
    (touches : Touches ctx.engine.value engine' task.handle socket)
    (after : ctx' = { ctx with engine := .new engine', runtime := ctx.runtime.set id task' })
    (others : ∀ other ≠ id, ∀ socket, ∀ output ∈ outputs,
      handsOver (S := S) other socket output = false)
    (own : Backlog (owing id history + outputs.countP (handsOver id
      (ctx.engine.value.sockets.get task.handle))) socket) :
    Accounted (⟨some ctx, .task id event, outputs, some ctx'⟩ :: history) ctx' := by
  subst after
  have before : ∀ after, socketBefore id ⟨some ctx, .task id event, outputs, after⟩ =
      ctx.engine.value.sockets.get task.handle := by
    intro after
    simp [socketBefore, found]
  constructor
  · intro other task socket live held
    obtain ⟨rfl, rfl, rfl⟩ | ⟨apart, live, held⟩ :=
      sound.touched_cases found slot touches live held
    · rw [owing_handed rfl, before]
      exact own
    · rw [owing_kept rfl (others other apart _)]
      exact accounted.live other task socket live held
  · intro other later
    have apart : other ≠ id := by
      rintro rfl
      exact absurd (sound.fresh _ task found) (Nat.not_lt.mpr later)
    rw [owing_kept rfl (others other apart _)]
    exact accounted.fresh other later

theorem Change.accounted (api : S.ApiLaws) (poll : S.PollLaws)
    (egress : S.EgressLaws tunMtu) (sound : Sound (Serves S) ctx)
    (accounted : Accounted history ctx) {event : Event} {outputs : List Output}
    (changed : Change ctx event outputs ctx') :
    Accounted (⟨some ctx, event, outputs, some ctx'⟩ :: history) ctx' := by
  cases changed with
  | control control =>
      refine accounted.unchanged ?_ rfl fun _ _ _ live held => ⟨live, held⟩
      cases event with
      | processPacket => contradiction
      | setPacketCallback | clearPacketCallback | start | stop | task | drop => rfl
  | @ignored packet now idle =>
      refine accounted.unchanged ?_ rfl fun _ _ _ live held => ⟨live, held⟩
      cases packet with
      | none => rfl
      | some bytes =>
          have idle : ctx.started = false := by simpa using idle
          simp [ingressed, idle]
  | absent | alive => exact accounted.unchanged rfl rfl fun _ _ _ live held => ⟨live, held⟩
  | mismatched found =>
      refine accounted.unchanged rfl rfl fun id task socket live held => ⟨?_, held⟩
      exact (Runtime.lookup_set_self found id).symm.trans live
  | tcpDropped | udpDropped =>
      exact accounted.unchanged rfl rfl fun _ _ _ live held => Runtime.remove_cases live held
  | packet started passed intercepted =>
      exact accounted.polled api poll egress sound started passed intercepted rfl
  | tcp found there turn touches =>
      refine accounted.turned sound found turn.handle touches rfl
        (fun _ apart => turn.handsOver_other apart) ?_
      rw [Task.handle, there]
      exact turn.backlog api (accounted.live _ _ _ found there)
  | udp found there turn touches =>
      refine accounted.turned sound found turn.handle touches rfl
        (fun _ apart => turn.handsOver_other apart) ?_
      exact (turn.backlog api _).trans (congrArg (· + _) (accounted.live _ _ _ found there))

theorem Intercepted.tcp_transmits_iff (egress : S.EgressLaws tunMtu) {bytes : Bytes}
    {now : Instant} {result : StunnelEngine S × Runtime × List Output}
    (intercepted : Intercepted ctx.engine.value ctx.runtime bytes result) {h : SocketHandle}
    {t : S.TcpSocket} (connected : (S.tcpView t).Linked S.Connects)
    (held : (S.ingress result.1.interface now bytes result.1.sockets).get h = some (.tcp t)) :
    Transmits (result.2.2 ++ result.1.deliveredOutputs now bytes) (.tcp t) ↔
      Sendable ctx.engine.value.device (.tcp t) := by
  refine forall₂_congr fun pending free => ⟨?_, ?_⟩
  · rintro ⟨function, context, frame, _, called, _⟩
    rw [(intercepted.callback_mem.mp called).1]
    rfl
  · intro registered
    obtain ⟨function, registered⟩ := Option.isSome_iff_exists.mp registered
    obtain ⟨localEnd, remote, tuple, connects⟩ := connected (egress.tcp_connected t pending)
    obtain ⟨frame, sent, segment, read, src, dst, payload, fin⟩ :=
      egress.tcp_frame _ _ _ _ _ t localEnd remote held free pending tuple connects
    exact ⟨function, _, frame, segment, intercepted.callback_mem.mpr ⟨registered, rfl, sent⟩,
      read, by rw [tuple, src, dst], payload, fin⟩

theorem Intercepted.udp_transmits_iff (wire : S.WireLaws) (egress : S.EgressLaws tunMtu)
    {bytes : Bytes} {now : Instant} {result : StunnelEngine S × Runtime × List Output}
    (intercepted : Intercepted ctx.engine.value ctx.runtime bytes result) {h : SocketHandle}
    {u : S.UdpSocket} {src : Ipv4Address} {port : UInt16}
    (endpoint : S.udpEndpoint u = ⟨some (.v4 src), port⟩)
    (held : (S.ingress result.1.interface now bytes result.1.sockets).get h = some (.udp u)) :
    Transmits (result.2.2 ++ result.1.deliveredOutputs now bytes) (.udp u) ↔
      Sendable ctx.engine.value.device (.udp u) := by
  refine forall₂_congr fun next first => ⟨?_, ?_⟩
  · rintro ⟨function, context, frame, d, called, read, from_us, rfl⟩
    obtain ⟨registered, _, sent⟩ := intercepted.callback_mem.mp called
    have source : d.src.addr = .v4 src := by
      have same := from_us.symm.trans endpoint
      simpa using congrArg IpListenEndpoint.addr same
    obtain ⟨dst, to_v4⟩ := (wire.datagram_version frame d read).mp ⟨src, source⟩
    exact ⟨by rw [registered]; rfl, by rw [to_v4]; rfl,
      egress.frame_mtu _ _ _ _ frame sent d read⟩
  · rintro ⟨registered, version, fits⟩
    obtain ⟨function, registered⟩ := Option.isSome_iff_exists.mp registered
    obtain ⟨rest, waiting⟩ := List.head?_eq_some_iff.mp first
    obtain ⟨payload, dst, dstPort⟩ := next
    cases dst with
    | v6 dst => contradiction
    | v4 dst =>
        obtain ⟨frame, sent, read⟩ := egress.udp_frame _ _ _ _ _ u src port payload dst
          dstPort rest held endpoint waiting fits
        exact ⟨function, _, frame, _, intercepted.callback_mem.mpr ⟨registered, rfl, sent⟩,
          read, endpoint, rfl⟩

/-- What a socket has to send reaches the callback exactly if it can. -/
theorem Sound.transmits_iff (api : S.ApiLaws) (wire : S.WireLaws)
    (egress : S.EgressLaws tunMtu) (sound : Sound (Serves S) ctx)
    (linked : Sound (Connected S) ctx) {bytes : Bytes} {now : Instant}
    {result : StunnelEngine S × Runtime × List Output}
    (intercepted : Intercepted ctx.engine.value ctx.runtime bytes result) {h : SocketHandle}
    {socket : Socket S.TcpSocket S.UdpSocket}
    (held : (S.ingress result.1.interface now bytes result.1.sockets).get h = some socket) :
    Transmits (result.2.2 ++ result.1.deliveredOutputs now bytes) socket ↔
      Sendable ctx.engine.value.device socket := by
  have owned := (sound.intercepted api (serves_stable api) intercepted).owned_ingressed
    egress (serves_stable api) now bytes
  have owned' := (linked.intercepted api (connected_stable api) intercepted).owned_ingressed
    egress (connected_stable api) now bytes
  obtain ⟨id, task, live, rfl⟩ := owned.owner h socket held
  obtain ⟨_, same, serves⟩ := owned.serves id task live
  cases held.symm.trans same
  obtain ⟨_, same, connected⟩ := owned'.serves id task live
  cases held.symm.trans same
  cases socket with
  | tcp t =>
      cases task with
      | tcp session => exact intercepted.tcp_transmits_iff egress connected held
      | udp session => exact serves.elim
  | udp u =>
      cases task with
      | tcp session => exact serves.elim
      | udp session =>
          obtain ⟨⟨src, port, _, _, _, endpoint⟩, _⟩ := serves
          exact intercepted.udp_transmits_iff wire egress endpoint held

theorem Sound.step_transmits_iff (api : S.ApiLaws) (wire : S.WireLaws)
    (egress : S.EgressLaws tunMtu) (sound : Sound (Serves S) ctx)
    (linked : Sound (Connected S) ctx) {event : Event} {outputs : List Output} {after : Handle S}
    (stepped : Handle.Steps (some ctx) event outputs after) {runtime : Runtime}
    {sockets : SocketSet S}
    (found : ingressed ⟨some ctx, event, outputs, after⟩ = some (runtime, sockets))
    {h : SocketHandle} {socket : Socket S.TcpSocket S.UdpSocket}
    (held : sockets.get h = some socket) :
    Transmits outputs socket ↔ Sendable ctx.engine.value.device socket := by
  obtain ⟨_, bytes, now, result, same, rfl, started, passed, rfl, rfl⟩ := ingressed_eq_some found
  cases same
  obtain ⟨impossible, _⟩ | ⟨_, rfl, changed⟩ := step_change api (serves_stable api) sound stepped
  · cases impossible
  · cases changed with
    | control control => contradiction
    | ignored idle => simp [started] at idle
    | packet _ passed' intercepted =>
        cases passed.symm.trans passed'
        exact sound.transmits_iff api wire egress linked intercepted held

theorem Accounted.none_unsent_iff (accounted : Accounted history ctx)
    (sound : Sound (Serves S) ctx) :
    (∀ h socket, ctx.engine.value.sockets.get h = some socket → unsent socket = false) ↔
      ∀ id ∈ ctx.runtime.tasks.keys, owing id history = 0 := by
  constructor
  · intro empty id live
    obtain ⟨task, live⟩ := Option.isSome_iff_exists.mp (AList.lookup_isSome.mpr live)
    obtain ⟨socket, held, _⟩ := sound.owned.serves id task live
    have quiet := (accounted.live id task socket live held).unsent_eq.symm.trans
      (empty _ socket held)
    simpa using quiet
  · intro settled h socket held
    obtain ⟨id, task, live, rfl⟩ := sound.owned.owner h socket held
    rw [(accounted.live id task socket live held).unsent_eq,
      settled id (AList.lookup_isSome.mp (by simp [live]))]
    rfl

end

/-- In every state of a run what waits to be sent is what the sessions owe. -/
theorem CoreRun.accounted (api : S.ApiLaws) (poll : S.PollLaws)
    (egress : S.EgressLaws tunMtu) {config : AppConfig}
    {history : Runs.History (Handle S) Event (List Output)} {ctx : CoreContext S}
    (run : CoreRun S config history (some ctx)) : Accounted history ctx := by
  refine run.history_invariant api poll (serves_stable api) ?_ ?_
  · intro ctx created
    refine ⟨fun id task _ live => ?_, fun _ _ => rfl⟩
    rw [CoreContext.new_runtime created] at live
    contradiction
  · intro history ctx event outputs ctx' sound accounted _ changed
    exact changed.accounted api poll egress sound accounted

/-- In a run nothing is stranded exactly when in each quiescent state packets have fetched what
every live session has handed over, and in each poll what is to be sent can be. -/
theorem nothing_stranded_iff (api : S.ApiLaws) (poll : S.PollLaws) (wire : S.WireLaws)
    (egress : S.EgressLaws tunMtu) {config : AppConfig}
    {history : Runs.History (Handle S) Event (List Output)} {handle : Handle S}
    (run : CoreRun S config history handle) :
    Runs.Throughout (NothingStranded) history ↔
      Runs.Throughout (NoneOwing) history := by
  refine run.throughout_iff api poll (serves_stable api) ?_
  rintro ⟨before, event, outputs, after⟩ earlier ⟨initial, created, path⟩ sound stepped
  refine and_congr (forall₃_congr fun ctx reached _ => ?_) ?_
  · have run' : CoreRun S config (⟨before, event, outputs, after⟩ :: earlier) after :=
      ⟨initial, created, path.next stepped⟩
    obtain rfl : after = some ctx := reached
    exact (run'.accounted api poll egress).none_unsent_iff
      (run'.sound api poll (serves_stable api) ctx rfl)
  · have linked := CoreRun.sound api poll (connected_stable api) ⟨initial, created, path⟩
    constructor
    · rintro sent ctx rfl ⟨runtime, sockets⟩ found h socket held
      exact ((sound ctx rfl).step_transmits_iff api wire egress (linked ctx rfl) stepped found
        held).mp (sent runtime sockets found h socket held)
    · intro can runtime sockets found h socket held
      obtain ⟨ctx, _, _, _, rfl, _⟩ := ingressed_eq_some found
      exact ((sound ctx rfl).step_transmits_iff api wire egress (linked ctx rfl) stepped found
        held).mpr (can ctx rfl (runtime, sockets) found h socket held)

def answerHandedOver : List Event :=
  startUp ++ [
    .processPacket (some (Wire.udpFrame hostAddr tunAddr 5353 53 [1, 2, 3])) 0,
    .task 0 (.inr (.opened 0 (.ok ()))),
    .task 0 (.inr (.pollRecvFrom 1)),
    .task 0 (.inr (.sent (.ok ()))),
    .task 0 (.inr (.received 2 (.ok ([4, 5, 6], .v4 tunAddr 53)))),
    .task 0 (.inr .pollSendTo)]

/-- No task can run any more, and the answer waits for the next packet. -/
theorem answer_stranded : ¬ ∀ S : Smoltcp, S.ApiLaws → S.PollLaws → S.WireLaws →
    S.EgressLaws tunMtu → ∀ config history (handle : Handle S), CoreRun S config history handle →
      Runs.Throughout NothingStranded history := by
  intro claimed
  obtain ⟨history, handle, run, checked⟩ := CoreContext.replay_run Reference.stack quicConfig
    answerHandedOver
    (fun history _ => match history with
      | [] => false
      | x :: _ => x.after.any fun ctx => ctx.quiescent &&
          (ctx.engine.value.sockets.get 0).any unsent)
    (by decide +kernel)
  cases history with
  | nil => contradiction
  | cons x earlier =>
      obtain ⟨ctx, after, checked⟩ := (Option.any_eq_true _ _).mp checked
      obtain ⟨quiet, checked⟩ := Bool.and_eq_true_iff.mp checked
      obtain ⟨socket, held, waiting⟩ := (Option.any_eq_true _ _).mp checked
      have sent := (claimed _ Reference.api Reference.poll_laws Reference.wire Reference.egress
        _ _ _ run).1.1 ctx after quiet 0 socket held
      rw [waiting] at sent
      contradiction

/-- A segment of the app on its connection to port 80 of the tunnel's own address. -/
def toServer (seqNumber ackNumber : UInt32) (syn ack : Bool) (payload : Bytes) : Event :=
  .processPacket (some (Wire.tcpFrame hostAddr tunAddr 1000 80 seqNumber ackNumber
    (Wire.flags syn ack false) payload)) 0

/-- Bytes for the app are written while a request of it has not been read yet, and its next
packet fetches them. -/
def writtenAndFetched : List Event :=
  startUp ++ [toServer 100 0 true false [], .task 0 (.inl (.opened (.ok ()))),
    toServer 101 1 false true [1], .task 0 (.inl (.pollWrite [4, 5, 6])),
    toServer 102 1 false true [2], .task 0 (.inl (.pollRead 10))]

theorem nothing_stranded_iff_fetched : ∃ history handle,
    CoreRun Reference.stack quicConfig history handle ∧
    (∃ x ∈ history, .written 0 [4, 5, 6] ∈ x.output) ∧
    (∃ x ∈ history, ∃ frame, .callback 0 0 frame ∈ x.output ∧
      (Wire.segment frame).map Segment.payload = some [4, 5, 6]) ∧
    Runs.Throughout NoneOwing history ∧ Runs.Throughout NothingStranded history := by
  obtain ⟨history, handle, run, written, fetched, none_owing⟩ := CoreContext.replay_holds
    Reference.stack quicConfig writtenAndFetched (fun history _ =>
      (∃ x ∈ history, .written 0 [4, 5, 6] ∈ x.output) ∧
      (∃ x ∈ history, ∃ output ∈ x.output, (match output with
        | .callback 0 0 frame => (Wire.segment frame).map Segment.payload
        | _ => none) = some [4, 5, 6]) ∧ Runs.Throughout NoneOwing history)
    (by decide +kernel)
  refine ⟨history, handle, run, written, ?_, none_owing, (nothing_stranded_iff Reference.api
    Reference.poll_laws Reference.wire Reference.egress run).mpr none_owing⟩
  obtain ⟨x, taken, output, called, fetched⟩ := fetched
  split at fetched
  · exact ⟨x, taken, _, called, fetched⟩
  · contradiction

end StunnelIos
