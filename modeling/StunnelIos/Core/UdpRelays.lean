import StunnelIos.Core.UdpRuns

/-! What a UDP session carries, directly or through the tunnel. Both branches are relays
which cut a datagram to the buffer and address it by the session's rule; they lose none but
the one that they hold when the session ends, and only idleness ends it well. -/
namespace StunnelIos
variable {S : Smoltcp}

namespace Direction

/-- The datagram that a step receives, with the address that it came with: one of the client,
or one that arrives on the outbound socket or through the tunnel. -/
def datagrams (direction : Direction) (session : UdpSession) (e : S.UdpSocket × UdpEvent) :
    List (Bytes × SocketAddr) :=
  match direction, session.phase, e.2 with
  | .toOutbound, .running .receiving _ _, .pollRecvFrom _ =>
      (S.udpRx e.1).head?.elim [] fun d =>
        if endpointToSocketAddr d.src = session.srcEndpoint then
          [(d.payload, session.srcEndpoint)]
        else []
  | .toClient, .running _ .receiving _, .received _ (.ok datagram) => [datagram]
  | _, _, _ => []

/-- The datagram of an output, with the address that it is given. -/
def delivered (direction : Direction) (id : TaskId) (output : Output) :
    Option (Bytes × SocketAddr) :=
  match direction, output with
  | .toOutbound, .outboundSend task target payload =>
      if task = id then some (payload, target) else none
  | .toOutbound, .tunnelSend task payload addr =>
      if task = id then some (payload, addr) else none
  | .toClient, .enqueued task payload target =>
      if task = id then some (payload, endpointToSocketAddr target) else none
  | _, _ => none

/-- What the buffer of this direction holds, with the address that it goes to. -/
def pending (direction : Direction) (session : UdpSession) : Relay.State (Bytes × SocketAddr) :=
  match direction, session.phase with
  | .toOutbound, .running (.sending buf addr) _ _ => .holding (buf, session.replyTarget addr)
  | .toClient, .running _ (.replying buf addr) _ => .holding (buf, session.replyTarget addr)
  | _, .finished _ => .stopped
  | _, _ => .ready

def datagramsIn (direction : Direction) (turns : UdpHistory S) : List (Bytes × SocketAddr) :=
  turns.flatMap fun turn => direction.datagrams turn.before turn.event

def deliveredIn (direction : Direction) (id : TaskId)
    (history : Runs.History (Handle S) Event (List Output)) : List (Bytes × SocketAddr) :=
  history.flatMap fun x => x.output.filterMap (direction.delivered id)

end Direction

/-- A datagram as the session carries it on: what fits the buffer, to the target in a direct
session, and under the address that it came with through the tunnel. -/
def UdpSession.carry (session : UdpSession) (datagram : Bytes × SocketAddr) : Bytes × SocketAddr :=
  (datagram.1.take udpBufferSize, session.replyTarget datagram.2)

/-- The time of a step that keeps the session alive. -/
def UdpSession.activity (session : UdpSession) (e : S.UdpSocket × UdpEvent) : Option Instant :=
  match session.phase, e.2 with
  | .opening, .opened now _ => some now
  | .running .receiving _ _, .pollRecvFrom now =>
      if Direction.toOutbound.datagrams session e = [] then none else some now
  | .running _ .receiving _, .received now (.ok _) => some now
  | _, _ => none

def lastActive : UdpHistory S → Option Instant
  | [] => none
  | turn :: earlier => (turn.before.activity turn.event).or (lastActive earlier)

section
variable {config : AppConfig} {id : TaskId} {session session' : UdpSession}
  {e : S.UdpSocket × UdpEvent} {outputs : List Output}

theorem UdpStep.carry_eq (stepped : UdpStep S config id session e outputs session') :
    session'.carry = session.carry := by
  obtain ⟨_, target, direct⟩ := stepped.identity
  funext datagram
  simp only [UdpSession.carry, UdpSession.replyTarget, target, direct]

/-- A step of a session is a step of both of its relays. -/
theorem UdpStep.relays (stepped : UdpStep S config id session e outputs session')
    (direction : Direction) :
    Relay.Step session.carry (direction.pending session) (direction.datagrams session e)
      (outputs.filterMap (direction.delivered id)) (direction.pending session') := by
  cases stepped with
  | @opened _ now result phase =>
      dsimp only [UdpSession.opened]
      generalize (if session.isDirect then result else _) = outcome
      cases outcome <;> cases direction <;>
        simp only [Direction.pending, Direction.datagrams, phase, List.filterMap_nil] <;>
        first | exact .idle | exact .stop
  | waiting phase empty =>
      cases direction <;> simpa [Direction.datagrams, phase, empty] using .idle
  | taken phase waiting own =>
      cases direction with
      | toOutbound => simpa [Direction.pending, Direction.datagrams, phase, waiting, own] using .take
      | toClient =>
          rename_i rTask _ _ _
          cases rTask <;> simpa [Direction.pending, Direction.datagrams, phase] using .idle
  | foreign phase waiting other =>
      cases direction <;> simpa [Direction.datagrams, phase, waiting, other] using .idle
  | sent phase =>
      rename_i rTask _ buf addr
      cases direction with
      | toOutbound =>
          cases direct : session.isDirect <;>
            simpa [Direction.pending, Direction.datagrams, Direction.delivered,
              UdpSession.forwarded, UdpSession.replyTarget, phase, direct] using .give
      | toClient =>
          cases direct : session.isDirect <;> cases rTask <;>
            simpa [Direction.pending, Direction.datagrams, Direction.delivered,
              UdpSession.forwarded, UdpSession.replyTarget, phase, direct] using .idle
  | arrived phase =>
      rename_i sTask _ _ _ _
      cases direction with
      | toOutbound =>
          cases sTask <;> simpa [Direction.pending, Direction.datagrams, phase] using .idle
      | toClient => simpa [Direction.pending, Direction.datagrams, phase] using .take
  | replied phase =>
      rename_i sTask _ _ _
      cases direction with
      | toOutbound =>
          cases sTask <;>
            simpa [Direction.pending, Direction.datagrams, Direction.delivered, phase] using .idle
      | toClient =>
          simpa [Direction.pending, Direction.datagrams, Direction.delivered, phase] using .give
  | full phase | active phase =>
      cases direction <;> simpa [Direction.datagrams, phase] using .idle
  | sendFailed phase | receiveFailed phase | replyFailed phase | expired phase =>
      cases direction <;>
        simpa [Direction.pending, Direction.datagrams, UdpSession.finish, phase] using .stop
  | @unable u event disabled =>
      have nothing : direction.datagrams session (u, event) = [] := by
        unfold Direction.datagrams
        split
        · rename_i phase taken
          cases taken
          rw [phase] at disabled
          contradiction
        · rename_i sTask _ _ _ phase taken
          cases taken
          rw [phase] at disabled
          cases sTask <;> contradiction
        · rfl
      rw [nothing]
      exact .idle

theorem UdpSession.activity_of_disabled {u : S.UdpSocket} {event : UdpEvent}
    (disabled : session.phase.allows event = false) : session.activity (u, event) = none := by
  unfold UdpSession.activity
  split
  · rename_i phase taken
    cases taken
    rw [phase] at disabled
    contradiction
  · rename_i phase taken
    cases taken
    rw [phase] at disabled
    contradiction
  · rename_i sTask _ _ _ phase taken
    cases taken
    rw [phase] at disabled
    cases sTask <;> contradiction
  · rfl

/-- The session keeps the time of its last activity. -/
structure Clocked (turns : UdpHistory S) (session : UdpSession) : Prop where
  opening : session.phase = .opening → lastActive turns = none
  running : ∀ sTask rTask lastActivity, session.phase = .running sTask rTask lastActivity →
    lastActive turns = some lastActivity

theorem Clocked.quiet {turns : UdpHistory S} (clocked : Clocked turns session)
    (silent : session.activity e = none)
    (opening : session'.phase = .opening → session.phase = .opening)
    (running : ∀ sTask rTask lastActivity, session'.phase = .running sTask rTask lastActivity →
      ∃ sTask rTask, session.phase = .running sTask rTask lastActivity) :
    Clocked (⟨session, e, outputs, session'⟩ :: turns) session' := by
  have same : lastActive (⟨session, e, outputs, session'⟩ :: turns) = lastActive turns := by
    simp only [lastActive, silent, Option.none_or]
  refine ⟨fun phase => same.trans (clocked.opening (opening phase)), ?_⟩
  intro sTask rTask lastActivity phase
  obtain ⟨_, _, before⟩ := running sTask rTask lastActivity phase
  exact same.trans (clocked.running _ _ _ before)

theorem Clocked.unchanged {turns : UdpHistory S} (clocked : Clocked turns session)
    (silent : session.activity e = none) :
    Clocked (⟨session, e, outputs, session⟩ :: turns) session :=
  clocked.quiet silent (fun phase => phase) fun _ _ _ phase => ⟨_, _, phase⟩

theorem Clocked.step {turns : UdpHistory S} (clocked : Clocked turns session)
    (stepped : UdpStep S config id session e outputs session') :
    Clocked (⟨session, e, outputs, session'⟩ :: turns) session' := by
  cases stepped with
  | @opened u now result phase =>
      dsimp only [UdpSession.opened]
      generalize (if session.isDirect then result else _) = outcome
      have active : session.activity (S := S) (u, .opened now result) = some now := by
        simp only [UdpSession.activity, phase]
      cases outcome with
      | error => exact ⟨nofun, nofun⟩
      | ok =>
          refine ⟨nofun, ?_⟩
          rintro _ _ _ ⟨⟩
          simp only [lastActive, active, Option.some_or]
  | taken phase waiting own =>
      refine ⟨nofun, ?_⟩
      rintro _ _ _ ⟨⟩
      simp [lastActive, UdpSession.activity, Direction.datagrams, phase, waiting, own]
  | arrived phase =>
      rename_i sTask _ _ _ _
      refine ⟨nofun, ?_⟩
      rintro _ _ _ ⟨⟩
      cases sTask <;> simp [lastActive, UdpSession.activity, phase]
  | waiting phase empty =>
      exact clocked.unchanged (by simp [UdpSession.activity, Direction.datagrams, phase, empty])
  | foreign phase waiting other =>
      exact clocked.unchanged
        (by simp [UdpSession.activity, Direction.datagrams, phase, waiting, other])
  | sent phase =>
      refine clocked.quiet (by simp [UdpSession.activity, phase]) nofun ?_
      rintro _ _ _ ⟨⟩
      exact ⟨_, _, phase⟩
  | replied phase =>
      refine clocked.quiet (by simp [UdpSession.activity, phase]) nofun ?_
      rintro _ _ _ ⟨⟩
      exact ⟨_, _, phase⟩
  | full phase | active phase =>
      exact clocked.unchanged (by simp [UdpSession.activity, phase])
  | sendFailed phase | receiveFailed phase | replyFailed phase | expired phase =>
      exact ⟨nofun, nofun⟩
  | unable disabled => exact clocked.unchanged (session.activity_of_disabled disabled)

/-- A session that has not ended ends well exactly by a check that finds it idle for longer
than the timeout. -/
def EndsIdle (turn : Runs.Transition UdpSession (S.UdpSocket × UdpEvent) (List Output))
    (earlier : UdpHistory S) : Prop :=
  (∀ result, turn.before.phase ≠ .finished result) →
    (turn.after.phase = .finished (.ok ()) ↔
      ∃ now last, turn.event.2 = .timeout now ∧ lastActive earlier = some last ∧
        now - last > udpIdleTimeout)

theorem Clocked.endsIdle {turns : UdpHistory S} (clocked : Clocked turns session)
    (stepped : UdpStep S config id session e outputs session') :
    EndsIdle ⟨session, e, outputs, session'⟩ turns := by
  intro live
  cases stepped with
  | @opened u now result phase =>
      dsimp only [UdpSession.opened]
      generalize (if session.isDirect then result else _) = outcome
      cases outcome <;> simp [UdpSession.finish]
  | taken | sent | arrived | replied => simp
  | sendFailed | receiveFailed | replyFailed => simp [UdpSession.finish]
  | waiting phase | foreign phase | full phase => simp [phase]
  | expired phase idle => simpa [UdpSession.finish, clocked.running _ _ _ phase] using idle
  | active phase busy => simpa [phase, clocked.running _ _ _ phase] using busy
  | @unable u event disabled =>
      refine iff_of_false (live _) ?_
      rintro ⟨now, last, rfl, known, _⟩
      cases phase : session.phase with
      | opening => cases known.symm.trans (clocked.opening phase)
      | running sTask rTask =>
          rw [phase] at disabled
          cases sTask <;> cases rTask <;> contradiction
      | finished => exact live _ phase

end

section
variable {config : AppConfig} {id : TaskId} {session : UdpSession} {turns : UdpHistory S}

theorem UdpRun.carried (run : UdpRun S config id turns session) (direction : Direction) :
    Relay.Carried session.carry (direction.datagramsIn turns)
      (turns.flatMap fun turn => turn.output.filterMap (direction.delivered id))
      (direction.pending session) := by
  obtain ⟨first, opening, path⟩ := run
  refine path.history_invariant (P := fun turns session => Relay.Carried session.carry
    (direction.datagramsIn turns)
    (turns.flatMap fun turn => turn.output.filterMap (direction.delivered id))
    (direction.pending session)) ?_ ?_
  · cases direction <;> simp only [Direction.pending, opening] <;> rfl
  · intro turns session e outputs session' _ carried stepped
    rw [stepped.carry_eq]
    exact carried.step (stepped.relays direction)

theorem UdpRun.clocked (run : UdpRun S config id turns session) : Clocked turns session := by
  obtain ⟨first, opening, path⟩ := run
  refine path.history_invariant (P := Clocked) ⟨fun _ => rfl, ?_⟩ ?_
  · intro _ _ _ running
    cases opening.symm.trans running
  · intro turns session e outputs session' _ clocked stepped
    exact clocked.step stepped

end

section
variable {config : AppConfig} {ctx ctx' : CoreContext S} {handle : Handle S} {id : TaskId}
  {session : UdpSession} {history : Runs.History (Handle S) Event (List Output)}

theorem Change.delivered_nil {event : Event} {outputs : List Output}
    (changed : Change ctx event outputs ctx') (after : Handle S)
    (other : udpTurn id ⟨some ctx, event, outputs, after⟩ = none) (direction : Direction) :
    outputs.filterMap (direction.delivered id) = [] := by
  rw [List.filterMap_eq_nil_iff]
  intro output called
  cases changed with
  | control | ignored | absent | mismatched | alive | tcpDropped | udpDropped => contradiction
  | packet _ _ intercepted =>
      obtain ⟨_, rfl⟩ | ⟨_, _, _, rfl⟩ | ⟨_, rfl⟩ := intercepted.output_cases called <;>
        cases direction <;> rfl
  | tcp _ _ turn =>
      cases turn <;> simp only [List.mem_singleton, List.not_mem_nil] at called
      all_goals
        subst called
        cases direction <;> rfl
  | @udp task _ _ _ _ _ _ _ live held turn =>
      have apart : task ≠ id := by
        rintro rfl
        cases other.symm.trans (udpTurn_of_live live held)
      cases turn with
      | idle | opened | taken | foreign | arrived | finished => contradiction
      | sent =>
          rw [List.mem_singleton.mp called, UdpSession.forwarded]
          split <;> cases direction <;> simp [Direction.delivered, apart]
      | replied =>
          rw [List.mem_singleton.mp called]
          cases direction <;> simp [Direction.delivered, apart]

theorem Handle.Steps.delivered_nil (api : S.ApiLaws) {before after : Handle S} {event : Event}
    {outputs : List Output} (sound : Handle.Sound (Serves S) before)
    (stepped : Handle.Steps before event outputs after)
    (other : udpStep id ⟨before, event, outputs, after⟩ = none) (direction : Direction) :
    outputs.filterMap (direction.delivered id) = [] := by
  cases before with
  | none => rw [stepped.of_none.2, List.filterMap_nil]
  | some ctx =>
      obtain ⟨_, _, rfl⟩ | ⟨_, _, changed⟩ :=
        step_change api (serves_stable api) (sound ctx rfl) stepped
      · rfl
      · refine changed.delivered_nil after ?_ direction
        cases turn : udpTurn id ⟨some ctx, event, outputs, after⟩ with
        | none => rfl
        | some taken =>
            obtain ⟨session, u, e⟩ := taken
            obtain ⟨_, _, _, _, ctx', rfl, live'⟩ := (sound ctx rfl).udpTurn_step api stepped turn
            have there := Handle.udpSession_eq_some.mpr ⟨ctx', rfl, live'⟩
            simp only [udpStep, turn, there, Option.bind_some, Option.map_some] at other
            contradiction

theorem CoreRun.deliveredIn_eq (api : S.ApiLaws) (poll : S.PollLaws)
    (run : CoreRun S config history handle) (direction : Direction) :
    direction.deliveredIn id history =
      (udpHistory id history).flatMap fun turn => turn.output.filterMap (direction.delivered id) := by
  obtain ⟨first, created, path⟩ := run
  refine path.history_invariant (P := fun history _ => direction.deliveredIn id history =
    (udpHistory id history).flatMap fun turn => turn.output.filterMap (direction.delivered id))
    rfl ?_
  intro history before event outputs after earlier same stepped
  have sound := CoreRun.sound api poll (serves_stable api) ⟨first, created, earlier⟩
  simp only [Direction.deliveredIn, udpHistory, Runs.ownHistory, List.flatMap_cons] at same ⊢
  rw [same]
  cases mine : udpStep id ⟨before, event, outputs, after⟩ with
  | none => rw [stepped.delivered_nil api sound mine, List.filterMap_cons_none mine, List.nil_append]
  | some turn =>
      have said : turn.output = outputs := by
        obtain ⟨_, _, rest⟩ := Option.bind_eq_some_iff.mp mine
        obtain ⟨_, _, rfl⟩ := Option.map_eq_some_iff.mp rest
        rfl
      rw [List.filterMap_cons_some mine, List.flatMap_cons, said]

/-- Every live session, direct or through the tunnel, has delivered in each direction exactly
what it has received, in order, each datagram once, cut to the buffer and addressed by its
rule; only the datagram that it received last may still be held, or be lost at its end. -/
theorem CoreRun.udp_carried (api : S.ApiLaws) (poll : S.PollLaws)
    (run : CoreRun S config history handle) (live : Handle.udpSession id handle = some session)
    (direction : Direction) :
    Relay.Carried session.carry (direction.datagramsIn (udpHistory id history))
      (direction.deliveredIn id history) (direction.pending session) := by
  rw [run.deliveredIn_eq api poll direction]
  exact (run.udpRun api poll live).carried direction

/-- In every run the sessions that end well are ended by their idle check, and by the first
that comes more than the timeout after the last datagram that was received, or the opening. -/
theorem CoreRun.ends_idle (api : S.ApiLaws) (poll : S.PollLaws)
    (run : CoreRun S config history handle) :
    Runs.Throughout EndsIdle (udpHistory id history) := by
  obtain ⟨first, created, path⟩ := run
  refine path.history_invariant (P := fun history _ =>
    Runs.Throughout EndsIdle (udpHistory id history)) trivial ?_
  intro history before event outputs after earlier ends stepped
  have run : CoreRun S config history before := ⟨first, created, earlier⟩
  simp only [udpHistory, Runs.ownHistory] at ends ⊢
  cases mine : udpStep id ⟨before, event, outputs, after⟩ with
  | none => rwa [List.filterMap_cons_none mine]
  | some turn =>
      obtain ⟨moved, live, _⟩ := (udp_component api config id).moves (run.configured api poll)
        stepped mine
      rw [List.filterMap_cons_some mine]
      exact ⟨(run.udpRun api poll live).clocked.endsIdle moved, ends⟩

end

/-- A broadcast of the host goes through the tunnel, and an answer comes back. -/
def answeredBroadcast : List Event :=
  startUp ++ [
    .processPacket (some (Wire.udpFrame hostAddr .limitedBroadcast 5353 53 [1, 2, 3])) 0,
    .task 0 (.inr (.opened 0 (.ok ()))), .task 0 (.inr (.pollRecvFrom 1)),
    .task 0 (.inr (.sent (.ok ()))),
    .task 0 (.inr (.received 2 (.ok ([4], .v4 tunAddr 53)))), .task 0 (.inr .pollSendTo)]

theorem udp_carried_broadcast : ∃ history handle session,
    CoreRun Reference.stack quicConfig history handle ∧
    Handle.udpSession 0 handle = some session ∧ session.isDirect = false ∧
    Direction.toOutbound.deliveredIn 0 history = [([1, 2, 3], .v4 hostAddr 5353)] ∧
    ∀ direction : Direction, Relay.Carried session.carry
      (direction.datagramsIn (udpHistory 0 history)) (direction.deliveredIn 0 history)
      (direction.pending session) := by
  obtain ⟨history, handle, run, checked⟩ := CoreContext.replay_run Reference.stack quicConfig
    answeredBroadcast
    (fun history handle => (Handle.udpSession 0 handle).any (!·.isDirect) &&
      Direction.toOutbound.deliveredIn 0 history == [([1, 2, 3], .v4 hostAddr 5353)])
    (by decide +kernel)
  simp only [Bool.and_eq_true, beq_iff_eq] at checked
  obtain ⟨session, live, proxied⟩ := (Option.any_eq_true _ _).mp checked.1
  exact ⟨history, handle, session, run, live, by simpa using proxied, checked.2,
    run.udp_carried Reference.api Reference.poll_laws live⟩

/-- The check after one minute is too early by a millisecond, the next one is not. -/
theorem ends_idle_broadcast : ∃ history handle,
    CoreRun Reference.stack quicConfig history handle ∧
    (Handle.udpSession 0 handle).map (·.phase) = some (.finished (.ok ())) ∧
    Runs.Throughout EndsIdle (udpHistory 0 history) := by
  obtain ⟨history, handle, run, checked⟩ := CoreContext.replay_run Reference.stack quicConfig
    (answeredBroadcast ++ [.task 0 (.inr (.timeout 60002)), .task 0 (.inr (.timeout 60003))])
    (fun _ handle => (Handle.udpSession 0 handle).map (·.phase) == some (.finished (.ok ())))
    (by decide +kernel)
  exact ⟨history, handle, run, beq_iff_eq.mp checked,
    run.ends_idle Reference.api Reference.poll_laws⟩

end StunnelIos
