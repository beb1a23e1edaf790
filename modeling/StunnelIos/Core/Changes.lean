import StunnelIos.Library.Owned
import StunnelIos.Core.Interception

/-! The ownership invariant of a core, and everything a step can do to a core that
keeps it. Sessions own the occupied slots of the socket set one to one, and the
table of UDP sessions leads exactly to the slots of the live ones. -/
namespace StunnelIos
variable {S : Smoltcp}

def Task.handle : Task → SocketHandle
  | .tcp session => session.stream.handle
  | .udp session => session.socket.handle

def Task.source : Task → Option SocketAddr
  | .tcp _ => none
  | .udp session => some session.srcEndpoint

/-- The interface as `StunnelEngine::new` configures it. -/
structure TunnelConfig (config : InterfaceConfig) : Prop where
  ipAddrs : config.ipAddrs = [⟨tunAddr, tunPrefixLen⟩]
  anyIp : config.anyIp = false
  groups : ∀ group ∈ config.groups, group.isMulticast = true

/-- The relation `R` ties each session to the socket it owns. -/
structure Sound (R : Task → Socket S.TcpSocket S.UdpSocket → Prop) (ctx : CoreContext S) :
    Prop where
  lock : ctx.engine.poisoned = false
  queue : ctx.engine.value.device.inboundPackets = []
  config : TunnelConfig (S.config ctx.engine.value.interface)
  owned : Owned Task.handle R ctx.runtime.tasks ctx.engine.value.sockets
  indexed : Indexed Task.handle Task.source ctx.runtime.tasks ctx.engine.value.udpSessions
  fresh : ∀ id task, ctx.runtime.tasks.lookup id = some task → id < ctx.runtime.next

/-- What a relation between sessions and sockets needs for `Sound` to be invariant. -/
structure Stable (R : Task → Socket S.TcpSocket S.UdpSocket → Prop) : Prop where
  tcp_new : ∀ handle dst port t, port ≠ 0 → Listening S dst port t →
    R (.tcp ⟨⟨handle⟩, isPrivateV4 dst, .v4 dst port, .opening⟩) (.tcp t)
  udp_new : ∀ handle src dst port u, port ≠ 0 → JustBound S dst port u →
    R (.udp ⟨⟨handle⟩, src, .v4 dst port, isPrivateV4 dst, .opening⟩) (.udp u)
  tcp_turn : ∀ config id session t event session' t' outputs, R (.tcp session) (.tcp t) →
    TcpTurn S config id session t event session' t' outputs → R (.tcp session') (.tcp t')
  udp_turn : ∀ config id session u event session' u' outputs, R (.udp session) (.udp u) →
    UdpTurn S config id session u event session' u' outputs → R (.udp session') (.udp u')
  tcp_poll : ∀ session interface now packet t t' happenings, R (.tcp session) (.tcp t) →
    (S.tcpView t).follow happenings = some (S.tcpView t') →
    (∀ e ∈ happenings, S.Causes interface now packet (S.tcpView t) e) →
    R (.tcp session) (.tcp t')
  udp_poll : ∀ session u u', R (.udp session) (.udp u) → S.udpEndpoint u' = S.udpEndpoint u →
    R (.udp session) (.udp u')
  tcp_kind : ∀ session socket, R (.tcp session) socket → ∃ t, socket = .tcp t
  udp_kind : ∀ session socket, R (.udp session) socket → ∃ u, socket = .udp u

/-- The engine after it has polled the stack with one packet in its queue. -/
def StunnelEngine.delivered (engine : StunnelEngine S) (now : Instant) (bytes : Bytes) :
    StunnelEngine S :=
  let result := S.poll engine.interface now [bytes] engine.sockets
  { engine with interface := result.interface, sockets := result.sockets, wakers := ∅ }

def StunnelEngine.deliveredOutputs (engine : StunnelEngine S) (now : Instant) (bytes : Bytes) :
    List Output :=
  (S.poll engine.interface now [bytes] engine.sockets).frames.flatMap engine.device.transmit ++
    engine.wakers.values.map .wake

def Event.isControl : Event → Bool
  | .setPacketCallback _ _ | .clearPacketCallback | .start => true
  | _ => false

/-- Everything a step can do to a sound core. -/
inductive Change (ctx : CoreContext S) : Event → List Output → CoreContext S → Prop where
  | control {event device started} : event.isControl = true →
      device.inboundPackets = ctx.engine.value.device.inboundPackets →
      Change ctx event [] { ctx with
        engine := .new { ctx.engine.value with device := device }, started := started }
  | ignored {packet now} : packet = none ∨ ctx.started = false →
      Change ctx (.processPacket packet now) [] ctx
  | packet {bytes now result} : ctx.started = true →
      interceptPacket ctx.engine.value ctx.runtime bytes = .ok result →
      Intercepted ctx.engine.value ctx.runtime bytes result →
      Change ctx (.processPacket (some bytes) now)
        (result.2.2 ++ result.1.deliveredOutputs now bytes)
        { ctx with engine := .new (result.1.delivered now bytes), runtime := result.2.1 }
  | absent {id event} : ctx.runtime.tasks.lookup id = none → Change ctx (.task id event) [] ctx
  | mismatched {id task event} : ctx.runtime.tasks.lookup id = some task →
      Change ctx (.task id event) [] { ctx with runtime := ctx.runtime.set id task }
  | tcp {id session t event session' t' engine' outputs} :
      ctx.runtime.tasks.lookup id = some (.tcp session) →
      ctx.engine.value.sockets.get session.stream.handle = some (.tcp t) →
      TcpTurn S ctx.config id session t event session' t' outputs →
      Touches ctx.engine.value engine' session.stream.handle (.tcp t') →
      Change ctx (.task id (.inl event)) outputs
        { ctx with engine := .new engine', runtime := ctx.runtime.set id (.tcp session') }
  | udp {id session u event session' u' engine' outputs} :
      ctx.runtime.tasks.lookup id = some (.udp session) →
      ctx.engine.value.sockets.get session.socket.handle = some (.udp u) →
      UdpTurn S ctx.config id session u event session' u' outputs →
      Touches ctx.engine.value engine' session.socket.handle (.udp u') →
      Change ctx (.task id (.inr event)) outputs
        { ctx with engine := .new engine', runtime := ctx.runtime.set id (.udp session') }
  | alive {id} :
      (∀ task, ctx.runtime.tasks.lookup id = some task → task.isFinished = false) →
      Change ctx (.drop id) [] ctx
  | tcpDropped {id session} : ctx.runtime.tasks.lookup id = some (.tcp session) →
      (Task.tcp session).isFinished = true →
      Change ctx (.drop id) [] { ctx with
        engine := .new { ctx.engine.value with
          sockets := SlotTable.remove ctx.engine.value.sockets session.stream.handle }
        runtime := ctx.runtime.remove id }
  | udpDropped {id session} : ctx.runtime.tasks.lookup id = some (.udp session) →
      (Task.udp session).isFinished = true →
      Change ctx (.drop id) [] { ctx with
        engine := .new { ctx.engine.value with
          sockets := SlotTable.remove ctx.engine.value.sockets session.socket.handle
          udpSessions := ctx.engine.value.udpSessions.retain fun entry =>
            entry.2 != session.socket.handle }
        runtime := ctx.runtime.remove id }

theorem StunnelEngine.deliveredOutputs_cases {engine : StunnelEngine S} {now : Instant}
    {bytes : Bytes} {output : Output} (called : output ∈ engine.deliveredOutputs now bytes) :
    (∃ function context packet, output = .callback function context packet) ∨
      ∃ task, output = .wake task := by
  rcases List.mem_append.mp called with transmitted | woken
  · obtain ⟨frame, _, transmitted⟩ := List.mem_flatMap.mp transmitted
    unfold TunDevice.transmit at transmitted
    split at transmitted
    · exact .inl ⟨_, _, _, List.mem_singleton.mp transmitted⟩
    · contradiction
  · obtain ⟨task, _, rfl⟩ := List.mem_map.mp woken
    exact .inr ⟨task, rfl⟩

theorem Intercepted.output_cases {engine : StunnelEngine S} {runtime : Runtime} {bytes : Bytes}
    {result : StunnelEngine S × Runtime × List Output} {now : Instant} {output : Output}
    (intercepted : Intercepted engine runtime bytes result)
    (called : output ∈ result.2.2 ++ result.1.deliveredOutputs now bytes) :
    (∃ id, output = .spawned id) ∨
      (∃ function context packet, output = .callback function context packet) ∨
        ∃ task, output = .wake task := by
  rcases List.mem_append.mp called with opened | polled
  · cases intercepted with
    | passed | known => contradiction
    | tcp | udp => exact .inl ⟨_, List.mem_singleton.mp opened⟩
  · exact .inr (StunnelEngine.deliveredOutputs_cases polled)

theorem Intercepted.next_le {engine : StunnelEngine S} {runtime : Runtime} {bytes : Bytes}
    {result : StunnelEngine S × Runtime × List Output}
    (intercepted : Intercepted engine runtime bytes result) :
    runtime.next ≤ result.2.1.next := by
  cases intercepted with
  | passed | known => exact Nat.le_refl _
  | tcp | udp => exact Nat.le_succ _

theorem Change.next_le {ctx ctx' : CoreContext S} {event : Event} {outputs : List Output}
    (changed : Change ctx event outputs ctx') : ctx.runtime.next ≤ ctx'.runtime.next := by
  cases changed with
  | packet _ _ intercepted => exact intercepted.next_le
  | control | ignored | absent | mismatched | tcp | udp | alive | tcpDropped | udpDropped =>
      exact Nat.le_refl _

theorem Runtime.lookup_set_self {runtime : Runtime} {id : TaskId} {task : Task}
    (found : runtime.tasks.lookup id = some task) (other : TaskId) :
    (runtime.set id task).tasks.lookup other = runtime.tasks.lookup other := by
  by_cases same : other = id
  · subst same
    exact (AList.lookup_insert _).trans found.symm
  · exact AList.lookup_insert_ne same

section
variable {R : Task → Socket S.TcpSocket S.UdpSocket → Prop} {ctx : CoreContext S}

theorem Sound.lock_ok (sound : Sound R ctx) : ctx.engine.lock = .ok ctx.engine.value := by
  simp [Mutex.lock, sound.lock]

theorem Sound.mutex (sound : Sound R ctx) : ctx.engine = .new ctx.engine.value := by
  obtain ⟨⟨value, poisoned⟩, runtime, config, started⟩ := ctx
  have clean : poisoned = false := sound.lock
  subst clean
  rfl

theorem Intercepted.device {engine : StunnelEngine S} {runtime : Runtime} {bytes : Bytes}
    {result : StunnelEngine S × Runtime × List Output}
    (intercepted : Intercepted engine runtime bytes result) :
    result.1.device = engine.device ∧ result.1.interface = engine.interface := by
  cases intercepted <;> exact ⟨rfl, rfl⟩

/-- What a packet makes the stack transmit goes to the callback, if there is one. -/
theorem Intercepted.callback_mem {engine : StunnelEngine S} {runtime : Runtime} {bytes : Bytes}
    {result : StunnelEngine S × Runtime × List Output} {now : Instant} {function context : Nat}
    {frame : Bytes} (intercepted : Intercepted engine runtime bytes result) :
    .callback function context frame ∈ result.2.2 ++ result.1.deliveredOutputs now bytes ↔
      engine.device.outboundCallback = some function ∧ engine.device.outboundContext = context ∧
        frame ∈ (S.poll result.1.interface now [bytes] result.1.sockets).frames := by
  have opened : .callback function context frame ∉ result.2.2 := by
    cases intercepted <;> simp [openTcp, openUdp]
  have transmits : ∀ sent, .callback function context frame ∈ engine.device.transmit sent ↔
      engine.device.outboundCallback = some function ∧ engine.device.outboundContext = context ∧
        frame = sent := by
    intro sent
    unfold TunDevice.transmit
    cases engine.device.outboundCallback with
    | none => simp
    | some callback => simp [eq_comm]
  simp only [List.mem_append, opened, false_or, StunnelEngine.deliveredOutputs,
    intercepted.device.1, List.mem_flatMap, transmits, List.mem_map, reduceCtorEq, and_false,
    exists_const, or_false]
  constructor
  · rintro ⟨sent, member, registered, given, rfl⟩
    exact ⟨registered, given, member⟩
  · rintro ⟨registered, given, member⟩
    exact ⟨frame, member, registered, given, rfl⟩

theorem poll_single {engine : StunnelEngine S} {bytes : Bytes} {now : Instant}
    (empty : engine.device.inboundPackets = []) :
    engine.pushInboundPacket bytes = (true, { engine with
      device := { engine.device with inboundPackets := [bytes] } }) ∧
    StunnelEngine.poll { engine with
      device := { engine.device with inboundPackets := [bytes] } } now =
      (engine.delivered now bytes, engine.deliveredOutputs now bytes) := by
  obtain ⟨⟨packets, callback, context⟩, interface, sockets, wakers, udpSessions⟩ := engine
  have empty : packets = [] := empty
  subst empty
  constructor
  · simp [StunnelEngine.pushInboundPacket, maxInboundPackets]
  · simp only [StunnelEngine.poll, TunDevice.receiveAll_eq, StunnelEngine.delivered,
      StunnelEngine.deliveredOutputs]

/-- A call with a packet on a sound and started core, by the outcome of the
interception. -/
theorem processPacket_ok (sound : Sound R ctx) (started : ctx.started = true) {bytes : Bytes}
    (now : Instant) {result : StunnelEngine S × Runtime × List Output}
    (passed : interceptPacket ctx.engine.value ctx.runtime bytes = .ok result)
    (intercepted : Intercepted ctx.engine.value ctx.runtime bytes result) :
    ctx.processPacket bytes now =
      .ok ({ ctx with engine := .new (result.1.delivered now bytes), runtime := result.2.1 },
        result.2.2 ++ result.1.deliveredOutputs now bytes) := by
  obtain ⟨engine, runtime, opened⟩ := result
  have empty : engine.device.inboundPackets = [] := by
    rw [intercepted.device.1]
    exact sound.queue
  have polled := @poll_single S engine bytes now empty
  simp [CoreContext.processPacket, started, sound.lock_ok, passed, polled.1, polled.2]

theorem processPacket_error (sound : Sound R ctx) (started : ctx.started = true) {bytes : Bytes}
    (now : Instant) {panic : Panic}
    (refused : interceptPacket ctx.engine.value ctx.runtime bytes = .error panic) :
    ctx.processPacket bytes now = .error panic := by
  simp [CoreContext.processPacket, started, sound.lock_ok, refused]

/-- The inversion of a call that returns. -/
theorem Sound.returned (api : S.ApiLaws) (sound : Sound R ctx) (started : ctx.started = true)
    {bytes : Bytes} {now : Instant} {output : CoreContext S × List Output}
    (returned : ctx.processPacket bytes now = .ok output) :
    ∃ result, interceptPacket ctx.engine.value ctx.runtime bytes = .ok result ∧
      Intercepted ctx.engine.value ctx.runtime bytes result ∧
      output = ({ ctx with engine := .new (result.1.delivered now bytes), runtime := result.2.1 },
        result.2.2 ++ result.1.deliveredOutputs now bytes) := by
  obtain ⟨_, panic, refused⟩ | ⟨_, result, passed, intercepted⟩ :=
    interceptPacket_cases api ctx.engine.value ctx.runtime bytes
  · rw [processPacket_error sound started now refused] at returned
    contradiction
  · rw [processPacket_ok sound started now passed intercepted] at returned
    exact ⟨result, passed, intercepted, (Except.ok.inj returned).symm⟩

theorem processPacket_not_started (idle : ctx.started = false) (bytes : Bytes) (now : Instant) :
    ctx.processPacket bytes now = .ok (ctx, []) := by
  simp [CoreContext.processPacket, idle]

/-- A task of a sound core never panics, and takes a turn on its own socket. -/
theorem stepTask_change (api : S.ApiLaws) (stable : Stable R) (sound : Sound R ctx) (id : TaskId)
    (event : Sum TcpEvent UdpEvent) :
    Change ctx (.task id event) (ctx.stepTask id event).2 (ctx.stepTask id event).1 := by
  unfold CoreContext.stepTask
  split
  · exact .absent ‹_›
  · rename_i task found
    obtain ⟨socket, held, related⟩ := sound.owned.serves id task found
    have same : ctx = { ctx with engine := .new ctx.engine.value } := by rw [← sound.mutex]
    simp only [sound.lock_ok, Except.bind]
    cases task with
    | tcp session =>
        obtain ⟨t, rfl⟩ := stable.tcp_kind session socket related
        cases event with
        | inl event =>
            obtain ⟨session', engine', t', outputs, stepped, turn, touches⟩ :=
              session.step_turn api ctx.config id event held
            simp only [Task.step, stepped, ok_bind, pure_eq_ok]
            exact .tcp found held turn touches
        | inr event =>
            simp only [Task.step]
            rw [← sound.mutex]
            exact .mismatched found
    | udp session =>
        obtain ⟨u, rfl⟩ := stable.udp_kind session socket related
        cases event with
        | inl event =>
            simp only [Task.step]
            rw [← sound.mutex]
            exact .mismatched found
        | inr event =>
            obtain ⟨session', engine', u', outputs, stepped, turn, touches⟩ :=
              session.step_turn api ctx.config id event held
            simp only [Task.step, stepped, ok_bind, pure_eq_ok]
            exact .udp found held turn touches

/-- Dropping a session of a sound core never panics. -/
theorem dropTask_change (sound : Sound R ctx) (id : TaskId) :
    Change ctx (.drop id) [] (ctx.dropTask id) := by
  unfold CoreContext.dropTask
  split
  · rename_i absent
    exact .alive fun task found => by simp [absent] at found
  · rename_i task found
    split
    · rename_i finished
      obtain ⟨socket, held, related⟩ := sound.owned.serves id task found
      simp only [sound.lock_ok, Except.bind]
      cases task with
      | tcp session =>
          have held : ctx.engine.value.sockets.get session.stream.handle = some socket := held
          simp only [Task.drop, TcpStream.drop, SocketSet.remove, held, ok_bind, pure_eq_ok]
          exact .tcpDropped found finished
      | udp session =>
          have held : ctx.engine.value.sockets.get session.socket.handle = some socket := held
          simp only [Task.drop, UdpSocket.drop, SocketSet.remove, held, ok_bind, pure_eq_ok]
          exact .udpDropped found finished
    · rename_i unfinished
      refine .alive fun other present => ?_
      rw [found] at present
      cases present
      simpa using unfinished

/-- The inversion of one step: either the core is freed, or it changes as listed. -/
theorem step_change (api : S.ApiLaws) (stable : Stable R) (sound : Sound R ctx) {event : Event}
    {handle' : Handle S} {outputs : List Output}
    (stepped : Handle.step (some ctx) event = .ok (handle', outputs)) :
    (event = .stop ∧ handle' = none ∧ outputs = []) ∨
      ∃ ctx', handle' = some ctx' ∧ Change ctx event outputs ctx' := by
  cases event with
  | setPacketCallback context callback =>
      simp only [Handle.step, stunnelSetPacketCallback, CoreContext.setPacketCallback,
        sound.lock_ok, ok_bind, pure_eq_ok, Except.map, Except.ok.injEq, Prod.mk.injEq] at stepped
      obtain ⟨rfl, rfl⟩ := stepped
      exact .inr ⟨_, rfl, .control rfl rfl⟩
  | clearPacketCallback =>
      simp only [Handle.step, stunnelClearPacketCallback, CoreContext.clearPacketCallback,
        sound.lock_ok, ok_bind, pure_eq_ok, Except.map, Except.ok.injEq, Prod.mk.injEq] at stepped
      obtain ⟨rfl, rfl⟩ := stepped
      exact .inr ⟨_, rfl, .control rfl rfl⟩
  | start =>
      simp only [Handle.step, stunnelStart, CoreContext.start, sound.lock_ok, ok_bind,
        pure_eq_ok] at stepped
      split at stepped
      · simp only [Except.map, Except.ok.injEq, Prod.mk.injEq] at stepped
        obtain ⟨rfl, rfl⟩ := stepped
        have changed := @Change.control S ctx .start ctx.engine.value.device ctx.started rfl rfl
        exact .inr ⟨_, rfl, by rwa [← sound.mutex] at changed⟩
      · simp only [Except.map, Except.ok.injEq, Prod.mk.injEq] at stepped
        obtain ⟨rfl, rfl⟩ := stepped
        have changed := @Change.control S ctx .start ctx.engine.value.device true rfl rfl
        exact .inr ⟨_, rfl, by rwa [← sound.mutex] at changed⟩
  | processPacket packet now =>
      cases packet with
      | none =>
          simp only [Handle.step, stunnelProcessPacket, Except.ok.injEq, Prod.mk.injEq] at stepped
          obtain ⟨rfl, rfl⟩ := stepped
          exact .inr ⟨_, rfl, .ignored (.inl rfl)⟩
      | some bytes =>
          simp only [Handle.step, stunnelProcessPacket] at stepped
          cases started : ctx.started with
          | false =>
              rw [processPacket_not_started started] at stepped
              simp only [Except.map, Except.ok.injEq, Prod.mk.injEq] at stepped
              obtain ⟨rfl, rfl⟩ := stepped
              exact .inr ⟨_, rfl, .ignored (.inr started)⟩
          | true =>
              obtain ⟨_, panic, refused⟩ | ⟨_, result, passed, intercepted⟩ :=
                interceptPacket_cases api ctx.engine.value ctx.runtime bytes
              · rw [processPacket_error sound started now refused] at stepped
                contradiction
              · rw [processPacket_ok sound started now passed intercepted] at stepped
                simp only [Except.map, Except.ok.injEq, Prod.mk.injEq] at stepped
                obtain ⟨rfl, rfl⟩ := stepped
                exact .inr ⟨_, rfl, .packet started passed intercepted⟩
  | stop =>
      simp only [Handle.step, stunnelStop, Except.ok.injEq, Prod.mk.injEq] at stepped
      exact .inl ⟨rfl, stepped.1.symm, stepped.2.symm⟩
  | task id event =>
      simp only [Handle.step, Except.ok.injEq, Prod.mk.injEq] at stepped
      obtain ⟨rfl, rfl⟩ := stepped
      exact .inr ⟨_, rfl, stepTask_change api stable sound id event⟩
  | drop id =>
      simp only [Handle.step, Option.map_some, Except.ok.injEq, Prod.mk.injEq] at stepped
      obtain ⟨rfl, rfl⟩ := stepped
      exact .inr ⟨_, rfl, dropTask_change sound id⟩

end

end StunnelIos
