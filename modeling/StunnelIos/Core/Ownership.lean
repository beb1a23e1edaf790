import StunnelIos.Core.Changes

/-! The ownership invariant holds of a new core and is kept by every change. -/
namespace StunnelIos
variable {S : Smoltcp} {R : Task → Socket S.TcpSocket S.UdpSocket → Prop}
  {ctx ctx' : CoreContext S}

theorem TcpTurn.identity {config : AppConfig} {id : TaskId} {session session' : TcpSession}
    {t t' : S.TcpSocket} {event : TcpEvent} {outputs : List Output}
    (turn : TcpTurn S config id session t event session' t' outputs) :
    session'.stream = session.stream ∧ session'.isDirect = session.isDirect ∧
      session'.target = session.target := by
  cases turn <;> exact ⟨rfl, rfl, rfl⟩

theorem UdpTurn.identity {config : AppConfig} {id : TaskId} {session session' : UdpSession}
    {u u' : S.UdpSocket} {event : UdpEvent} {outputs : List Output}
    (turn : UdpTurn S config id session u event session' u' outputs) :
    session'.socket = session.socket ∧ session'.srcEndpoint = session.srcEndpoint ∧
      session'.targetAddr = session.targetAddr ∧ session'.isDirect = session.isDirect := by
  cases turn <;> exact ⟨rfl, rfl, rfl, rfl⟩

theorem TcpTurn.handle {config : AppConfig} {id : TaskId} {session session' : TcpSession}
    {t t' : S.TcpSocket} {event : TcpEvent} {outputs : List Output}
    (turn : TcpTurn S config id session t event session' t' outputs) :
    (Task.tcp session').handle = (Task.tcp session).handle :=
  congrArg TcpStream.handle turn.identity.1

theorem UdpTurn.handle {config : AppConfig} {id : TaskId} {session session' : UdpSession}
    {u u' : S.UdpSocket} {event : UdpEvent} {outputs : List Output}
    (turn : UdpTurn S config id session u event session' u' outputs) :
    (Task.udp session').handle = (Task.udp session).handle :=
  congrArg UdpSocket.handle turn.identity.1

theorem UdpTurn.endpoint (api : S.ApiLaws) {config : AppConfig} {id : TaskId}
    {session session' : UdpSession} {u u' : S.UdpSocket} {event : UdpEvent}
    {outputs : List Output} (turn : UdpTurn S config id session u event session' u' outputs) :
    S.udpEndpoint u' = S.udpEndpoint u := by
  cases turn with
  | idle | opened | sent | arrived | finished => rfl
  | taken _ _ _ _ endpoint => exact endpoint
  | foreign _ _ _ _ endpoint => exact endpoint
  | replied _ queued => exact (api.udp_send _ _ _ _ queued).2.2

theorem Sound.unspawned (sound : Sound R ctx) :
    ctx.runtime.tasks.lookup ctx.runtime.next = none := by
  cases found : ctx.runtime.tasks.lookup ctx.runtime.next with
  | none => rfl
  | some task => exact absurd (sound.fresh _ task found) (Nat.lt_irrefl _)

/-- A session is spawned on a socket that has just been added. -/
theorem Sound.spawned (api : S.ApiLaws) (sound : Sound R ctx) {task : Task}
    {socket : Socket S.TcpSocket S.UdpSocket} {udpSessions : AList fun _ : SocketAddr => SocketHandle}
    (slot : task.handle = S.freeSlot ctx.engine.value.sockets) (related : R task socket)
    (indexed : Indexed Task.handle Task.source (ctx.runtime.spawn task).tasks udpSessions) :
    Sound R { ctx with
      engine := .new { ctx.engine.value.setSocket task.handle socket with
        udpSessions := udpSessions }
      runtime := ctx.runtime.spawn task } := by
  have free : ctx.engine.value.sockets.Free task.handle := slot ▸ api.freeSlot_free _
  refine ⟨rfl, sound.queue, sound.config, sound.owned.add sound.unspawned free related, indexed, ?_⟩
  intro id other found
  rcases AList.lookup_insert_eq_some.mp found with ⟨rfl, _⟩ | ⟨_, found⟩
  · exact Nat.lt_succ_self _
  · exact Nat.lt_succ_of_lt (sound.fresh id other found)

theorem Sound.intercepted (api : S.ApiLaws) (stable : Stable R) (sound : Sound R ctx)
    {bytes : Bytes} {result : StunnelEngine S × Runtime × List Output}
    (intercepted : Intercepted ctx.engine.value ctx.runtime bytes result) :
    Sound R { ctx with engine := .new result.1, runtime := result.2.1 } := by
  cases intercepted with
  | passed | known =>
      have same : ctx = { ctx with engine := .new ctx.engine.value } := by rw [← sound.mutex]
      rw [same] at sound
      exact sound
  | tcp _ nonzero listening =>
      exact sound.spawned api rfl (stable.tcp_new _ _ _ _ nonzero listening)
        (sound.indexed.addUnkeyed sound.unspawned rfl)
  | udp _ nonzero unknown bound =>
      exact sound.spawned api rfl (stable.udp_new _ _ _ _ _ nonzero bound)
        (sound.indexed.addKeyed sound.unspawned unknown rfl)

theorem Sound.delivered (poll : S.PollLaws) (stable : Stable R) (sound : Sound R ctx)
    (now : Instant) (bytes : Bytes) :
    Sound R { ctx with engine := .new (ctx.engine.value.delivered now bytes) } := by
  refine ⟨rfl, sound.queue, ?_, ?_, sound.indexed, sound.fresh⟩
  · simpa only [StunnelEngine.delivered, Mutex.new, poll.poll_config] using sound.config
  · refine sound.owned.mapSlots (fun h vacant => poll.poll_free _ _ _ _ h vacant) ?_
    intro h socket held
    cases socket with
    | tcp t =>
        obtain ⟨t', happenings, held', followed, caused⟩ := poll.poll_tcp _ now bytes _ h t held
        refine ⟨.tcp t', held', ?_⟩
        intro id task _ _ related
        cases task with
        | tcp session => exact stable.tcp_poll session _ _ _ t t' happenings related followed caused
        | udp session =>
            obtain ⟨u, wrong⟩ := stable.udp_kind session _ related
            contradiction
    | udp u =>
        obtain ⟨u', held', endpoint⟩ := poll.poll_udp _ now [bytes] _ h u held
        refine ⟨.udp u', held', ?_⟩
        intro id task _ _ related
        cases task with
        | udp session => exact stable.udp_poll session u u' related endpoint
        | tcp session =>
            obtain ⟨t, wrong⟩ := stable.tcp_kind session _ related
            contradiction

theorem Sound.touched (sound : Sound R ctx) {id : TaskId} {task task' : Task}
    {engine' : StunnelEngine S} {socket : Socket S.TcpSocket S.UdpSocket}
    (found : ctx.runtime.tasks.lookup id = some task) (slot : task'.handle = task.handle)
    (key : task'.source = task.source) (related : R task' socket)
    (touches : Touches ctx.engine.value engine' task.handle socket) :
    Sound R { ctx with engine := .new engine', runtime := ctx.runtime.set id task' } := by
  refine ⟨rfl, ?_, ?_, sound.owned.update found slot related touches.sockets, ?_, ?_⟩
  · exact (congrArg TunDevice.inboundPackets touches.device).trans sound.queue
  · simpa only [Mutex.new, touches.interface] using sound.config
  · simpa only [Mutex.new, touches.udpSessions, Runtime.set] using
      sound.indexed.update found slot key
  · intro other _ present
    rcases AList.lookup_insert_eq_some.mp present with ⟨rfl, _⟩ | ⟨_, present⟩
    · exact sound.fresh _ task found
    · exact sound.fresh other _ present

/-- After such a change a session with its socket is the changed one or an old one. -/
theorem Sound.touched_cases (sound : Sound R ctx) {id other : TaskId} {task task' found' : Task}
    {engine' : StunnelEngine S} {socket socket' : Socket S.TcpSocket S.UdpSocket}
    (found : ctx.runtime.tasks.lookup id = some task) (slot : task'.handle = task.handle)
    (touches : Touches ctx.engine.value engine' task.handle socket)
    (live : (ctx.runtime.set id task').tasks.lookup other = some found')
    (held : engine'.sockets.get found'.handle = some socket') :
    (other = id ∧ found' = task' ∧ socket' = socket) ∨
      (other ≠ id ∧ ctx.runtime.tasks.lookup other = some found' ∧
        ctx.engine.value.sockets.get found'.handle = some socket') := by
  rw [touches.sockets] at held
  rcases AList.lookup_insert_eq_some.mp live with ⟨rfl, rfl⟩ | ⟨apart, live⟩
  · rw [if_pos slot] at held
    exact .inl ⟨rfl, rfl, Option.some.inj held.symm⟩
  · have elsewhere : found'.handle ≠ task.handle := fun same =>
      apart (sound.owned.unique other id found' task live found same)
    rw [if_neg elsewhere] at held
    exact .inr ⟨apart, live, held⟩

/-- A session that a packet has just opened, with its socket. -/
inductive JustOpened (S : Smoltcp) : Task → Socket S.TcpSocket S.UdpSocket → Prop where
  | tcp {handle dst port t} : port ≠ 0 → Listening S dst port t →
      JustOpened S (.tcp ⟨⟨handle⟩, isPrivateV4 dst, .v4 dst port, .opening⟩) (.tcp t)
  | udp {handle src dst port u} : port ≠ 0 → JustBound S dst port u →
      JustOpened S (.udp ⟨⟨handle⟩, src, .v4 dst port, isPrivateV4 dst, .opening⟩) (.udp u)

/-- After an interception a session with its socket is the new one or an old one. -/
theorem Sound.intercepted_cases (api : S.ApiLaws) (sound : Sound R ctx) {bytes : Bytes}
    {result : StunnelEngine S × Runtime × List Output}
    (intercepted : Intercepted ctx.engine.value ctx.runtime bytes result) {id : TaskId} {task : Task}
    {socket : Socket S.TcpSocket S.UdpSocket} (live : result.2.1.tasks.lookup id = some task)
    (held : result.1.sockets.get task.handle = some socket) :
    (id = ctx.runtime.next ∧ JustOpened S task socket) ∨
      (ctx.runtime.tasks.lookup id = some task ∧
        ctx.engine.value.sockets.get task.handle = some socket) := by
  obtain ⟨within, free⟩ := api.freeSlot_free ctx.engine.value.sockets
  have old : ∀ new, ctx.runtime.tasks.lookup id = some task →
      (ctx.engine.value.sockets.put (S.freeSlot ctx.engine.value.sockets) new).get task.handle =
        some socket → ctx.engine.value.sockets.get task.handle = some socket := by
    intro new live held
    have other : task.handle ≠ S.freeSlot ctx.engine.value.sockets := by
      intro same
      obtain ⟨_, there, _⟩ := sound.owned.serves id task live
      rw [same, free] at there
      contradiction
    rwa [SlotTable.get_put_ne within other] at held
  cases intercepted with
  | passed | known => exact .inr ⟨live, held⟩
  | tcp _ nonzero listening =>
      rcases AList.lookup_insert_eq_some.mp live with ⟨rfl, rfl⟩ | ⟨_, live⟩
      · cases held.symm.trans (SlotTable.get_put_self within)
        exact .inl ⟨rfl, .tcp nonzero listening⟩
      · exact .inr ⟨live, old _ live held⟩
  | udp _ nonzero _ bound =>
      rcases AList.lookup_insert_eq_some.mp live with ⟨rfl, rfl⟩ | ⟨_, live⟩
      · cases held.symm.trans (SlotTable.get_put_self within)
        exact .inl ⟨rfl, .udp nonzero bound⟩
      · exact .inr ⟨live, old _ live held⟩

/-- After a session has ended, a session with its socket is an old one. -/
theorem Runtime.remove_cases {runtime : Runtime} {sockets : SocketSet S} {id other : TaskId}
    {task : Task} {handle : SocketHandle} {socket : Socket S.TcpSocket S.UdpSocket}
    (live : (runtime.remove id).tasks.lookup other = some task)
    (held : (SlotTable.remove sockets handle).get task.handle = some socket) :
    runtime.tasks.lookup other = some task ∧ sockets.get task.handle = some socket := by
  refine ⟨(AList.lookup_erase_eq_some.mp live).2, ?_⟩
  have there := SlotTable.get_remove.symm.trans held
  split at there
  · contradiction
  · exact there

theorem Sound.dropped (sound : Sound R ctx) {id : TaskId} {task : Task}
    {udpSessions : AList fun _ : SocketAddr => SocketHandle}
    (found : ctx.runtime.tasks.lookup id = some task)
    (indexed : Indexed Task.handle Task.source (ctx.runtime.tasks.erase id) udpSessions) :
    Sound R { ctx with
      engine := .new { ctx.engine.value with
        sockets := SlotTable.remove ctx.engine.value.sockets task.handle
        udpSessions := udpSessions }
      runtime := ctx.runtime.remove id } := by
  refine ⟨rfl, sound.queue, sound.config, sound.owned.remove found, indexed, ?_⟩
  intro other _ present
  exact sound.fresh other _ (AList.lookup_erase_eq_some.mp present).2

theorem Change.sound (api : S.ApiLaws) (poll : S.PollLaws) (stable : Stable R)
    (sound : Sound R ctx) {event : Event} {outputs : List Output}
    (changed : Change ctx event outputs ctx') : Sound R ctx' := by
  cases changed with
  | control _ queue =>
      exact ⟨rfl, queue.trans sound.queue, sound.config, sound.owned, sound.indexed, sound.fresh⟩
  | ignored | absent | alive => exact sound
  | packet _ _ intercepted =>
      exact (sound.intercepted api stable intercepted).delivered poll stable _ _
  | mismatched found =>
      obtain ⟨socket, held, related⟩ := sound.owned.serves _ _ found
      have same := sound.touched found rfl rfl related (.refl held)
      rw [← sound.mutex] at same
      exact same
  | tcp found held turn touches =>
      obtain ⟨socket, held', related⟩ := sound.owned.serves _ _ found
      obtain rfl := Option.some.inj (held'.symm.trans held)
      exact sound.touched found turn.handle rfl
        (stable.tcp_turn _ _ _ _ _ _ _ _ related turn) touches
  | udp found held turn touches =>
      obtain ⟨socket, held', related⟩ := sound.owned.serves _ _ found
      obtain rfl := Option.some.inj (held'.symm.trans held)
      exact sound.touched found turn.handle (congrArg some turn.identity.2.1)
        (stable.udp_turn _ _ _ _ _ _ _ _ related turn) touches
  | tcpDropped found _ =>
      exact sound.dropped found (sound.indexed.removeUnkeyed found rfl)
  | udpDropped found _ =>
      exact sound.dropped found (sound.indexed.remove sound.owned found)

/-- A new core is sound, and creating it does not panic. -/
theorem CoreContext.new_sound (api : S.ApiLaws) (config : AppConfig) :
    ∃ ctx, CoreContext.new S config = .ok ctx ∧ Sound R ctx := by
  obtain ⟨none, off, groups⟩ := api.interface_new
  obtain ⟨addressed, pushed, addresses⟩ :=
    api.push_ip_addr S.interfaceNew ⟨tunAddr, tunPrefixLen⟩ none
  obtain ⟨routed, added, routes⟩ := api.add_default_ipv4_route addressed tunAddr
    (by rw [addresses]; exact api.interface_routes)
  refine ⟨⟨.new ⟨.new, routed, .empty, ∅, ∅⟩, .new, config, false⟩, ?_, rfl, rfl, ?_, .empty,
    .empty, ?_⟩
  · simp [CoreContext.new, StunnelEngine.new, pushed, added]
  · constructor
    · simp [Mutex.new, routes, addresses]
    · simp [Mutex.new, routes, addresses, off]
    · simpa [Mutex.new, routes, addresses] using groups
  · intro id task found
    simp [Runtime.new] at found

end StunnelIos
