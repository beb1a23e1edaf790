import StunnelIos.Library.Relay
import StunnelIos.Core.UdpAddresses

/-! What becomes of the payloads of a direct UDP session. Each direction is a relay whose
buffer cuts payloads to its size: `s_task` takes from the client and gives to the outbound
socket, `r_task` the other way round. -/
namespace StunnelIos
variable {S : Smoltcp}

/-- The turn of a UDP session in a transition: the session, its socket and the event. -/
def udpTurn (id : TaskId) (x : Runs.Transition (Handle S) Event (List Output)) :
    Option (UdpSession × S.UdpSocket × UdpEvent) :=
  match x.before, x.event with
  | some ctx, .task task (.inr event) =>
      if task = id then
        match ctx.runtime.tasks.lookup id with
        | some (.udp session) =>
            match ctx.engine.value.sockets.get session.socket.handle with
            | some (.udp u) => some (session, u, event)
            | _ => none
        | _ => none
      else none
  | _, _ => none

inductive Direction where
  | toOutbound | toClient
deriving DecidableEq, Repr

namespace Direction

/-- The payload that a turn receives: what `poll_recv_from` takes from the client, and what
arrives on the outbound socket while `r_task` waits for it. -/
def received (direction : Direction) (session : UdpSession) (u : S.UdpSocket) (event : UdpEvent) :
    List Bytes :=
  match direction, session.phase, event with
  | .toOutbound, .running .receiving _ _, .pollRecvFrom _ =>
      (S.udpRx u).head?.elim [] fun d =>
        if endpointToSocketAddr d.src = session.srcEndpoint then [d.payload] else []
  | .toClient, .running _ .receiving _, .received _ (.ok (payload, _)) => [payload]
  | _, _, _ => []

/-- The payload of an output: what is sent on the outbound socket, and what `poll_send_to` has
queued for the client. -/
def emitted (direction : Direction) (id : TaskId) (output : Output) : Option Bytes :=
  match direction, output with
  | .toOutbound, .outboundSend task _ payload => if task = id then some payload else none
  | .toClient, .enqueued task payload _ => if task = id then some payload else none
  | _, _ => none

/-- The turn emits what is in the buffer: `outbound.send` completes, or the stack accepts
what `poll_send_to` hands it. -/
def emits (direction : Direction) (session : UdpSession) (u : S.UdpSocket) (event : UdpEvent) :
    Bool :=
  match direction, session.phase, event with
  | .toOutbound, .running (.sending _ _) _ _, .sent (.ok ()) => true
  | .toClient, .running _ (.replying buf addr) _, .pollSendTo =>
      (S.udpSendSlice u buf (socketAddrToEndpoint (session.replyTarget addr))).isOk
  | _, _, _ => false

def buffer (direction : Direction) (phase : UdpPhase) : Relay.State Bytes :=
  match direction, phase with
  | .toOutbound, .running (.sending buf _) _ _ => .holding buf
  | .toClient, .running _ (.replying buf _) _ => .holding buf
  | _, .finished _ => .stopped
  | _, _ => .ready

def receivedAt (direction : Direction) (id : TaskId)
    (x : Runs.Transition (Handle S) Event (List Output)) : List Bytes :=
  (udpTurn id x).elim [] fun turn => direction.received turn.1 turn.2.1 turn.2.2

def emittedAt (direction : Direction) (id : TaskId)
    (x : Runs.Transition (Handle S) Event (List Output)) : List Bytes :=
  x.output.filterMap (direction.emitted id)

def receivedIn (direction : Direction) (id : TaskId)
    (history : Runs.History (Handle S) Event (List Output)) : List Bytes :=
  history.flatMap (direction.receivedAt id)

def emittedIn (direction : Direction) (id : TaskId)
    (history : Runs.History (Handle S) Event (List Output)) : List Bytes :=
  history.flatMap (direction.emittedAt id)

abbrev Relays (direction : Direction) (id : TaskId) (session : UdpSession) (u : S.UdpSocket)
    (event : UdpEvent) (outputs : List Output) (session' : UdpSession) : Prop :=
  Relay.Step (·.take udpBufferSize) (direction.buffer session.phase)
    (direction.received session u event) (outputs.filterMap (direction.emitted id))
    (direction.buffer session'.phase)

end Direction

/-- A live direct session has emitted, in each direction, payloads that it received, whole,
in their order and each at most once. -/
def ForwardsWhole (x : Runs.Transition (Handle S) Event (List Output))
    (earlier : Runs.History (Handle S) Event (List Output)) : Prop :=
  ∀ ctx id session direction, x.before = some ctx →
    ctx.runtime.tasks.lookup id = some (.udp session) → session.isDirect = true →
    (Direction.emittedIn direction id (x :: earlier)).Sublist
      (direction.receivedIn id (x :: earlier))

/-- When a direct session emits a payload, the one that it received last fits the buffer. -/
def FitsBuffer (x : Runs.Transition (Handle S) Event (List Output))
    (earlier : Runs.History (Handle S) Event (List Output)) : Prop :=
  ∀ id session u event direction, udpTurn id x = some (session, u, event) →
    session.isDirect = true → Direction.emits direction session u event = true →
    ∀ payload ∈ (direction.receivedIn id earlier).head?, payload.length ≤ udpBufferSize

section
variable {engine engine' : StunnelEngine S} {id : TaskId} {session session' : UdpSession}
  {u : S.UdpSocket} {outputs : List Output} {sTask : SendTask} {rTask : RecvTask}
  {lastActivity now : Instant}

theorem UdpSession.receive_relay (api : S.ApiLaws)
    (found : engine.sockets.get session.socket.handle = some (.udp u))
    (phase : session.phase = .running .receiving rTask lastActivity)
    (stepped : session.receive engine id rTask lastActivity now = .ok (session', engine', outputs))
    (direction : Direction) :
    direction.Relays id session u (.pollRecvFrom now) outputs session' := by
  unfold Direction.Relays
  cases waiting : S.udpRx u with
  | nil =>
      cases stepped.symm.trans
        (session.receive_exhausted api id rTask lastActivity now found waiting)
      cases direction <;> simpa [Direction.received, phase, waiting] using .idle
  | cons d rest =>
      obtain ⟨_, _, _, _, received⟩ :=
        session.receive_datagram api id rTask lastActivity now found waiting
      cases stepped.symm.trans received
      cases direction with
      | toOutbound =>
          by_cases own : endpointToSocketAddr d.src = session.srcEndpoint
          · simpa [Direction.received, Direction.buffer, phase, waiting, own] using .take
          · simpa [Direction.received, Direction.buffer, phase, waiting, own] using .idle
      | toClient =>
          by_cases own : endpointToSocketAddr d.src = session.srcEndpoint <;> cases rTask <;>
            simpa [Direction.received, Direction.buffer, phase, own] using .idle

theorem UdpSession.reply_relay {buf : Bytes} {addr : SocketAddr}
    (found : engine.sockets.get session.socket.handle = some (.udp u))
    (phase : session.phase = .running sTask (.replying buf addr) lastActivity)
    (stepped : session.reply engine id sTask lastActivity buf addr =
      .ok (session', engine', outputs)) (direction : Direction) :
    direction.Relays id session u .pollSendTo outputs session' := by
  unfold Direction.Relays
  cases queued : S.udpSendSlice u buf (socketAddrToEndpoint (session.replyTarget addr)) with
  | ok u' =>
      cases stepped.symm.trans (session.reply_queued sTask lastActivity found queued)
      cases direction with
      | toOutbound =>
          cases sTask <;>
            simpa [Direction.received, Direction.buffer, Direction.emitted, phase] using .idle
      | toClient =>
          cases sTask <;>
            simpa [Direction.received, Direction.buffer, Direction.emitted, phase] using .give
  | error error =>
      cases error with
      | bufferFull =>
          cases stepped.symm.trans (session.reply_full sTask lastActivity found queued)
          cases direction <;> cases sTask <;> simpa [Direction.received, phase] using .idle
      | unaddressable =>
          cases stepped.symm.trans (session.reply_unaddressable sTask lastActivity found queued)
          cases direction <;> cases sTask <;>
            simpa [Direction.received, Direction.buffer, UdpSession.finish, phase] using .stop

/-- A turn of a direct session is a step of each of its relays. -/
theorem UdpSession.step_relay (api : S.ApiLaws) {config : AppConfig} {event : UdpEvent}
    (direct : session.isDirect = true)
    (found : engine.sockets.get session.socket.handle = some (.udp u))
    (stepped : session.step config engine id event = .ok (session', engine', outputs))
    (direction : Direction) : direction.Relays id session u event outputs session' := by
  unfold UdpSession.step at stepped
  split at stepped
  case h_2 phase => exact session.receive_relay api found phase stepped direction
  case h_7 phase => exact session.reply_relay found phase stepped direction
  all_goals unfold Direction.Relays
  -- the outbound socket is connected, or it fails
  case h_1 phase =>
    cases stepped
    rw [phase]
    dsimp only [UdpSession.opened]
    generalize (if session.isDirect then _ else _) = outcome
    cases outcome with
    | ok => cases direction <;> simpa only [Direction.received, phase] using .idle
    | error => cases direction <;> simpa only [Direction.received, phase] using .stop
  -- `outbound.send` completes
  case h_3 rTask _ phase =>
    cases stepped
    cases direction with
    | toOutbound =>
        simpa [Direction.received, Direction.buffer, Direction.emitted, UdpSession.forwarded, phase,
          direct] using .give
    | toClient =>
        cases rTask <;>
          simpa [Direction.received, Direction.buffer, Direction.emitted, UdpSession.forwarded, phase,
            direct] using .idle
  -- a datagram arrives on the outbound socket
  case h_5 sTask _ _ _ _ phase =>
    cases stepped
    cases direction with
    | toOutbound =>
        cases sTask <;> simpa [Direction.received, Direction.buffer, phase] using .idle
    | toClient => simpa [Direction.received, Direction.buffer, phase] using .take
  -- either of these fails, which ends the session
  case h_4 phase | h_6 phase =>
    cases stepped
    cases direction <;>
      simpa [Direction.received, Direction.buffer, UdpSession.finish, phase] using .stop
  -- the idle check
  case h_8 phase =>
    split at stepped
    · cases stepped
      cases direction <;>
        simpa [Direction.received, Direction.buffer, UdpSession.finish, phase] using .stop
    · cases stepped
      cases direction <;> simpa [Direction.received, phase] using .idle
  -- no step in this phase: in particular nothing is received
  case h_9 notReceive _ _ notArrived _ _ _ =>
    cases stepped
    unfold Direction.received
    split
    · exact (notReceive _ _ _ ‹_› rfl).elim
    · exact (notArrived _ _ _ _ _ ‹_› rfl).elim
    · exact .idle

theorem UdpSession.step_emits (api : S.ApiLaws) {config : AppConfig} {event : UdpEvent}
    (direct : session.isDirect = true)
    (found : engine.sockets.get session.socket.handle = some (.udp u))
    (stepped : session.step config engine id event = .ok (session', engine', outputs))
    (direction : Direction) :
    outputs.filterMap (direction.emitted id) ≠ [] ↔ direction.emits session u event = true := by
  constructor
  · intro given
    obtain ⟨_, _, _, _, stepped', turn, _⟩ := session.step_turn api config id event found
    cases stepped.symm.trans stepped'
    cases turn with
    | idle | opened | taken | foreign | arrived | finished => contradiction
    | sent phase =>
        cases direction with
        | toOutbound => simp only [Direction.emits, phase]
        | toClient => simp [Direction.emitted, UdpSession.forwarded, direct] at given
    | replied phase queued =>
        cases direction with
        | toOutbound => simp [Direction.emitted] at given
        | toClient => simp only [Direction.emits, phase, queued, Except.isOk, Except.toBool]
  · intro emits
    unfold Direction.emits at emits
    split at emits
    · cases stepped.symm.trans (session.step_sent engine ‹_›)
      simp [Direction.emitted, UdpSession.forwarded, direct]
    · rename_i phase
      cases queued : S.udpSendSlice u _ _ with
      | error =>
          rw [queued] at emits
          contradiction
      | ok =>
          cases stepped.symm.trans (session.step_replied engine found phase queued)
          simp [Direction.emitted]
    · contradiction

end

section
variable {ctx ctx' : CoreContext S} {id : TaskId} {session session' : UdpSession}
  {u : S.UdpSocket} {event : UdpEvent} {x : Runs.Transition (Handle S) Event (List Output)}
  {history earlier : Runs.History (Handle S) Event (List Output)}

theorem udpTurn_eq_some (turn : udpTurn id x = some (session, u, event)) :
    ∃ ctx, x.before = some ctx ∧ x.event = .task id (.inr event) ∧
      ctx.runtime.tasks.lookup id = some (.udp session) ∧
      ctx.engine.value.sockets.get session.socket.handle = some (.udp u) := by
  unfold udpTurn at turn
  split at turn
  · rename_i before taken
    split at turn
    · rename_i same
      subst same
      split at turn
      · rename_i live
        split at turn
        · rename_i held
          cases turn
          exact ⟨_, before, taken, live, held⟩
        · contradiction
      · contradiction
    · contradiction
  · contradiction

theorem udpTurn_of_live {outputs : List Output} {after : Handle S}
    (live : ctx.runtime.tasks.lookup id = some (.udp session))
    (held : ctx.engine.value.sockets.get session.socket.handle = some (.udp u)) :
    udpTurn id ⟨some ctx, .task id (.inr event), outputs, after⟩ = some (session, u, event) := by
  simp only [udpTurn, if_true, live, held]

theorem Change.emitted_nil {event : Event} {outputs : List Output} {after : Handle S}
    (changed : Change ctx event outputs ctx')
    (other : udpTurn id ⟨some ctx, event, outputs, after⟩ = none) (direction : Direction) :
    outputs.filterMap (direction.emitted id) = [] := by
  rw [List.filterMap_eq_nil_iff]
  intro output called
  cases changed with
  | control | ignored | absent | mismatched | alive | tcpDropped | udpDropped => contradiction
  | packet _ _ intercepted =>
      obtain ⟨_, rfl⟩ | ⟨_, _, _, rfl⟩ | ⟨_, rfl⟩ := intercepted.output_cases called <;>
        cases direction <;> rfl
  | tcp _ _ turn =>
      cases turn <;> simp only [List.mem_singleton, List.not_mem_nil] at called
      all_goals
        subst called
        cases direction <;> rfl
  | @udp task _ _ _ _ _ _ _ live held turn =>
      have apart : task ≠ id := by
        rintro rfl
        cases other.symm.trans (udpTurn_of_live live held)
      cases turn with
      | idle | opened | taken | foreign | arrived | finished => contradiction
      | sent =>
          rw [List.mem_singleton.mp called, UdpSession.forwarded]
          split <;> cases direction <;> simp [Direction.emitted, apart]
      | replied =>
          rw [List.mem_singleton.mp called]
          cases direction <;> simp [Direction.emitted, apart]

/-- A UDP session after a change is new, or was there, and then it has taken a turn or is
as before. -/
theorem Change.udp_cases {event : Event} {outputs : List Output}
    (changed : Change ctx event outputs ctx') (after : Handle S)
    (live : ctx'.runtime.tasks.lookup id = some (.udp session')) :
    (id = ctx.runtime.next ∧ session'.phase = .opening) ∨
      ctx.runtime.tasks.lookup id = some (.udp session') ∨
      ∃ session u e, udpTurn id ⟨some ctx, event, outputs, after⟩ = some (session, u, e) ∧
        ctx.runtime.tasks.lookup id = some (.udp session) ∧
        session'.isDirect = session.isDirect := by
  cases changed with
  | control | ignored | absent | alive => exact .inr (.inl live)
  | packet _ _ intercepted =>
      cases intercepted with
      | passed | known => exact .inr (.inl live)
      | tcp =>
          rcases AList.lookup_insert_eq_some.mp live with ⟨_, same⟩ | ⟨_, live⟩
          · contradiction
          · exact .inr (.inl live)
      | udp =>
          rcases AList.lookup_insert_eq_some.mp live with ⟨rfl, same⟩ | ⟨_, live⟩
          · cases same
            exact .inl ⟨rfl, rfl⟩
          · exact .inr (.inl live)
  | mismatched found => exact .inr (.inl ((Runtime.lookup_set_self found id).symm.trans live))
  | tcp =>
      rcases AList.lookup_insert_eq_some.mp live with ⟨_, same⟩ | ⟨_, live⟩
      · contradiction
      · exact .inr (.inl live)
  | udp found held turn =>
      rcases AList.lookup_insert_eq_some.mp live with ⟨rfl, same⟩ | ⟨_, live⟩
      · cases same
        exact .inr (.inr ⟨_, _, _, udpTurn_of_live found held, found, turn.identity.2.2.2⟩)
      · exact .inr (.inl live)
  | tcpDropped | udpDropped => exact .inr (.inl (AList.lookup_erase_eq_some.mp live).2)

theorem Sound.udpTurn_step (api : S.ApiLaws) (sound : Sound (Serves S) ctx) {event : Event}
    {e : UdpEvent} {outputs : List Output} {after : Handle S}
    (stepped : Handle.Steps (some ctx) event outputs after)
    (turn : udpTurn id ⟨some ctx, event, outputs, after⟩ = some (session, u, e)) :
    ∃ session' engine',
      session.step ctx.config ctx.engine.value id e = .ok (session', engine', outputs) ∧
      ctx.engine.value.sockets.get session.socket.handle = some (.udp u) ∧
      ∃ ctx', after = some ctx' ∧ ctx'.runtime.tasks.lookup id = some (.udp session') := by
  obtain ⟨_, same, rfl, live, held⟩ := udpTurn_eq_some turn
  cases same
  obtain ⟨session', engine', u', outputs', returned, _⟩ :=
    session.step_turn api ctx.config id e held
  obtain ⟨rfl, rfl⟩ := stepped.of_task
  rw [sound.stepTask_udp live returned]
  exact ⟨session', engine', returned, held, _, rfl, AList.lookup_insert _⟩

theorem receivedAt_of_none (none : udpTurn id x = none) (direction : Direction) :
    direction.receivedAt id x = [] := by
  simp only [Direction.receivedAt, none, Option.elim_none]

theorem Sound.emittedAt_of_none (api : S.ApiLaws) (sound : Sound (Serves S) ctx) {event : Event}
    {outputs : List Output} {after : Handle S}
    (stepped : Handle.Steps (some ctx) event outputs after)
    (none : udpTurn id ⟨some ctx, event, outputs, after⟩ = none) (direction : Direction) :
    direction.emittedAt id ⟨some ctx, event, outputs, after⟩ = [] := by
  obtain ⟨_, _, rfl⟩ | ⟨_, _, changed⟩ := step_change api (serves_stable api) sound stepped
  · rfl
  · exact changed.emitted_nil none direction

theorem Sound.relay_step (api : S.ApiLaws) (sound : Sound (Serves S) ctx) {event : Event}
    {outputs : List Output} {after : Handle S}
    (stepped : Handle.Steps (some ctx) event outputs after)
    (live : ctx.runtime.tasks.lookup id = some (.udp session)) (direct : session.isDirect = true)
    (direction : Direction) :
    ∃ state, Relay.Step (·.take udpBufferSize) (direction.buffer session.phase)
        (direction.receivedAt id ⟨some ctx, event, outputs, after⟩)
        (direction.emittedAt id ⟨some ctx, event, outputs, after⟩) state ∧
      ∀ ctx' session', after = some ctx' → ctx'.runtime.tasks.lookup id = some (.udp session') →
        direction.buffer session'.phase = state := by
  cases turn : udpTurn id ⟨some ctx, event, outputs, after⟩ with
  | none =>
      refine ⟨direction.buffer session.phase, ?_, ?_⟩
      · rw [receivedAt_of_none turn, sound.emittedAt_of_none api stepped turn]
        exact .idle
      · rintro ctx' session' rfl live'
        obtain ⟨_, absent, _⟩ | ⟨_, same, changed⟩ :=
          step_change api (serves_stable api) sound stepped
        · contradiction
        · cases same
          obtain ⟨rfl, _⟩ | kept | ⟨_, _, _, taken, _⟩ := changed.udp_cases (some ctx') live'
          · cases sound.unspawned.symm.trans live
          · cases kept.symm.trans live
            rfl
          · cases turn.symm.trans taken
  | some taken =>
      obtain ⟨other, u, e⟩ := taken
      obtain ⟨_, same, _, live', _⟩ := udpTurn_eq_some turn
      cases same
      cases live'.symm.trans live
      obtain ⟨session', engine', returned, held, _, rfl, afterwards⟩ :=
        sound.udpTurn_step api stepped turn
      refine ⟨direction.buffer session'.phase, ?_, ?_⟩
      · rw [Direction.receivedAt, turn]
        exact session.step_relay api direct held returned direction
      · rintro _ other ⟨⟩ found
        cases found.symm.trans afterwards
        rfl

/-- The payload that is emitted now, if any, was received last and fits the buffer. -/
theorem unchanged_of_fits (api : S.ApiLaws) {e : Event} {outputs : List Output} {after : Handle S}
    (sound : Sound (Serves S) ctx) (stepped : Handle.Steps (some ctx) e outputs after)
    (fits : FitsBuffer ⟨some ctx, e, outputs, after⟩ earlier)
    (live : ctx.runtime.tasks.lookup id = some (.udp session)) (direct : session.isDirect = true)
    (direction : Direction) : Relay.Unchanged (·.take udpBufferSize)
      (direction.receivedIn id earlier)
      (direction.emittedAt id ⟨some ctx, e, outputs, after⟩) := by
  intro given payload last
  cases turn : udpTurn id ⟨some ctx, e, outputs, after⟩ with
  | none => exact absurd (sound.emittedAt_of_none api stepped turn direction) given
  | some taken =>
      obtain ⟨other, u, event⟩ := taken
      obtain ⟨_, same, _, live', _⟩ := udpTurn_eq_some turn
      cases same
      cases live'.symm.trans live
      obtain ⟨_, _, returned, held, _⟩ := sound.udpTurn_step api stepped turn
      have emits := (session.step_emits api direct held returned direction).mp given
      exact List.take_of_length_le (fits id session u event direction turn direct emits payload last)

structure Relayed (history : Runs.History (Handle S) Event (List Output)) (ctx : CoreContext S) :
    Prop where
  sessions : ∀ id session (direction : Direction),
    ctx.runtime.tasks.lookup id = some (.udp session) → session.isDirect = true →
    Relay.Whole (·.take udpBufferSize) (direction.receivedIn id history)
      (direction.emittedIn id history) (direction.buffer session.phase)
  unused : ∀ id (direction : Direction), ctx.runtime.next ≤ id →
    direction.receivedIn id history = [] ∧ direction.emittedIn id history = []

theorem Relayed.next (api : S.ApiLaws) {e : Event} {outputs : List Output}
    (sound : Sound (Serves S) ctx) (relayed : Relayed history ctx)
    (stepped : Handle.Steps (some ctx) e outputs (some ctx')) (changed : Change ctx e outputs ctx')
    (fits : FitsBuffer ⟨some ctx, e, outputs, some ctx'⟩ history) :
    Relayed (⟨some ctx, e, outputs, some ctx'⟩ :: history) ctx' := by
  have unused : ∀ id (direction : Direction), ctx.runtime.next ≤ id →
      direction.receivedIn id (⟨some ctx, e, outputs, some ctx'⟩ :: history) = [] ∧
      direction.emittedIn id (⟨some ctx, e, outputs, some ctx'⟩ :: history) = [] := by
    intro id direction later
    have turn : udpTurn id ⟨some ctx, e, outputs, some ctx'⟩ = none := by
      cases turn : udpTurn id ⟨some ctx, e, outputs, some ctx'⟩ with
      | none => rfl
      | some taken =>
          obtain ⟨_, same, _, live, _⟩ := udpTurn_eq_some turn
          cases same
          exact absurd (sound.fresh id _ live) (Nat.not_lt_of_le later)
    obtain ⟨received, emitted⟩ := relayed.unused id direction later
    rw [Direction.receivedIn, Direction.emittedIn, List.flatMap_cons, List.flatMap_cons,
      receivedAt_of_none turn, sound.emittedAt_of_none api stepped turn]
    exact ⟨received, emitted⟩
  refine ⟨?_, fun id direction later => unused id direction (Nat.le_trans changed.next_le later)⟩
  intro id session' direction live' direct'
  have whole : ∀ session, ctx.runtime.tasks.lookup id = some (.udp session) →
      session.isDirect = true → Relay.Whole (·.take udpBufferSize)
        (direction.receivedIn id (⟨some ctx, e, outputs, some ctx'⟩ :: history))
        (direction.emittedIn id (⟨some ctx, e, outputs, some ctx'⟩ :: history))
        (direction.buffer session'.phase) := by
    intro session live direct
    obtain ⟨_, relays, afterwards⟩ := sound.relay_step api stepped live direct direction
    rw [afterwards ctx' session' rfl live']
    exact (relayed.sessions id session direction live direct).step relays
      (unchanged_of_fits api sound stepped fits live direct direction)
  obtain ⟨rfl, opening⟩ | kept | ⟨session, _, _, _, live, same⟩ := changed.udp_cases (some ctx') live'
  · obtain ⟨received, emitted⟩ := unused _ direction (Nat.le_refl _)
    rw [received, emitted, opening]
    cases direction <;> rfl
  · exact whole session' kept direct'
  · exact whole session live (same ▸ direct')

theorem CoreRun.relayed (api : S.ApiLaws) (poll : S.PollLaws) {config : AppConfig}
    (run : CoreRun S config history (some ctx)) (fits : Runs.Throughout FitsBuffer history) :
    Relayed history ctx := by
  refine run.history_invariant api poll (serves_stable api)
    (P := fun history ctx => Runs.Throughout FitsBuffer history → Relayed history ctx) ?_ ?_ fits
  · intro ctx created _
    constructor
    · intro id session direction live
      rw [CoreContext.new_runtime created] at live
      contradiction
    · exact fun _ _ _ => ⟨rfl, rfl⟩
  · intro history ctx e outputs ctx' sound relayed stepped changed fits
    exact (relayed fits.2).next api sound stepped changed fits.1

theorem forwardsWhole_iff (api : S.ApiLaws) (poll : S.PollLaws) {config : AppConfig}
    (run : CoreRun S config earlier x.before) (fitted : Runs.Throughout FitsBuffer earlier)
    (sound : Handle.Sound (Serves S) x.before)
    (stepped : Handle.Steps x.before x.event x.output x.after) :
    ForwardsWhole x earlier ↔ FitsBuffer x earlier := by
  obtain ⟨before, event, outputs, after⟩ := x
  constructor
  · intro forwards id session u e direction turn direct emits payload last
    obtain ⟨ctx, rfl, _, live, _⟩ := udpTurn_eq_some turn
    have sound := sound ctx rfl
    obtain ⟨_, _, returned, held, _⟩ := sound.udpTurn_step api stepped turn
    obtain ⟨_, relays, _⟩ := sound.relay_step api stepped live direct direction
    have whole := (run.relayed api poll fitted).sessions id session direction live direct
    have unchanged := (whole.sublist_iff relays).mp (forwards ctx id session direction rfl live direct)
      ((session.step_emits api direct held returned direction).mpr emits) payload last
    rw [← unchanged]
    exact List.length_take_le _ _
  · rintro fits ctx id session direction rfl live direct
    have sound := sound ctx rfl
    obtain ⟨_, relays, _⟩ := sound.relay_step api stepped live direct direction
    have whole := (run.relayed api poll fitted).sessions id session direction live direct
    exact (whole.sublist_iff relays).mpr
      (unchanged_of_fits api sound stepped fits live direct direction)

/-- In a run every direct session forwards its payloads whole and in order exactly when
each payload that one emits fits the buffer it was received into. -/
theorem every_payload_whole_iff (api : S.ApiLaws) (poll : S.PollLaws) {config : AppConfig}
    {handle : Handle S} (run : CoreRun S config history handle) :
    Runs.Throughout ForwardsWhole history ↔ Runs.Throughout FitsBuffer history :=
  run.throughout_iff_of_earlier api poll (serves_stable api) fun _ _ run fitted sound stepped =>
    forwardsWhole_iff api poll run fitted sound stepped

end

/-- A query of the host, and an answer that is longer than the buffer by one byte. -/
def longAnswer : List Event :=
  startUp ++ [
    .processPacket (some (Wire.udpFrame hostAddr tunAddr 5353 53 [1, 2, 3])) 0,
    .task 0 (.inr (.opened 0 (.ok ()))),
    .task 0 (.inr (.received 1 (.ok (List.replicate 2049 0, .v4 tunAddr 53))))]

/-- The client is given the first 2048 bytes as the answer. -/
theorem long_answer_shortened : ¬ ∀ S : Smoltcp, S.ApiLaws → S.PollLaws →
    ∀ config history (handle : Handle S), CoreRun S config history handle →
      Runs.Throughout ForwardsWhole history := by
  intro claimed
  obtain ⟨history, handle, run, checked⟩ := CoreContext.replay_run Reference.stack quicConfig
    (longAnswer ++ [.task 0 (.inr .pollSendTo)])
    (fun history _ =>
      (Direction.receivedIn .toClient 0 history).map List.length == [2049] &&
      (Direction.emittedIn .toClient 0 history).map List.length == [2048] &&
      history.head?.any fun x => x.before.any fun ctx =>
        ctx.runtime.tasks.lookup 0 == some (.udp ⟨⟨0⟩, .v4 hostAddr 5353, .v4 tunAddr 53, true,
          .running .receiving (.replying (List.replicate 2048 0) (.v4 tunAddr 53)) 1⟩))
    (by decide +kernel)
  simp only [Bool.and_eq_true, beq_iff_eq] at checked
  obtain ⟨⟨received, emitted⟩, checked⟩ := checked
  cases history with
  | nil => contradiction
  | cons x earlier =>
      rw [List.head?_cons, Option.any_some] at checked
      obtain ⟨ctx, before, live⟩ := (Option.any_eq_true _ _).mp checked
      have whole := (claimed _ Reference.api Reference.poll_laws _ _ _ run).1 ctx 0 _ .toClient before
        (beq_iff_eq.mp live) rfl
      have lengths := whole.map List.length
      rw [received, emitted] at lengths
      revert lengths
      decide

instance FitsBuffer.decidable (x : Runs.Transition (Handle S) Event (List Output))
    (earlier : Runs.History (Handle S) Event (List Output)) : Decidable (FitsBuffer x earlier) :=
  decidable_of_iff (∀ id ∈ x.event.stepped, ∀ turn ∈ udpTurn id x, turn.1.isDirect = true →
      ∀ direction ∈ [Direction.toOutbound, .toClient],
      direction.emits turn.1 turn.2.1 turn.2.2 = true →
      ∀ payload ∈ (direction.receivedIn id earlier).head?, payload.length ≤ udpBufferSize) <| by
    constructor
    · intro fits id session u event direction turn direct emits
      obtain ⟨_, _, stepped, _⟩ := udpTurn_eq_some turn
      exact fits id (by rw [stepped]; rfl) _ turn direct direction (by cases direction <;> simp) emits
    · exact fun fits id _ turn taken direct direction _ emits =>
        fits id _ _ _ direction taken direct emits

/-- A query and its answer pass whole through a direct session. -/
theorem every_payload_whole_iff_answered : ∃ history handle,
    CoreRun Reference.stack quicConfig history handle ∧
      Direction.emittedIn .toOutbound 0 history = [[1, 2, 3]] ∧
      Direction.emittedIn .toClient 0 history = [[4, 5, 6]] ∧
      Runs.Throughout FitsBuffer history ∧ Runs.Throughout ForwardsWhole history := by
  obtain ⟨history, handle, run, sent, answered, fits⟩ := CoreContext.replay_holds Reference.stack
    quicConfig (answeredQuery ++ [.task 0 (.inr .pollSendTo), .task 0 (.inr (.pollRecvFrom 1)),
      .task 0 (.inr (.sent (.ok ())))])
    (fun history _ => Direction.emittedIn .toOutbound 0 history = [[1, 2, 3]] ∧
      Direction.emittedIn .toClient 0 history = [[4, 5, 6]] ∧
      Runs.Throughout FitsBuffer history) (by decide +kernel)
  exact ⟨history, handle, run, sent, answered, fits,
    (every_payload_whole_iff Reference.api Reference.poll_laws run).mpr fits⟩

end StunnelIos
