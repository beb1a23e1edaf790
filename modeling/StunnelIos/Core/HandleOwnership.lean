import StunnelIos.Core.Sessions
import StunnelIos.Smoltcp.ReferenceLaws

/-! Which session holds which socket. Handles are bare slot numbers that are used
again, so every session's handle names its own socket only because the sessions own
the slots one to one, in every order of packets, polls and drops. -/
namespace StunnelIos
variable {S : Smoltcp}

/-- Every handle names a socket of its owner's kind, every occupied slot has exactly
one owner, and the table of UDP sessions leads one to one from the sources of the live
UDP sessions to their handles. -/
structure OwnsHandles (ctx : CoreContext S) : Prop where
  tcp : ∀ id session, ctx.runtime.tasks.lookup id = some (.tcp session) →
    ∃ t, SocketSet.getMutTcp ctx.engine.value.sockets session.stream.handle = .ok t
  udp : ∀ id session, ctx.runtime.tasks.lookup id = some (.udp session) →
    ∃ u, SocketSet.getMutUdp ctx.engine.value.sockets session.socket.handle = .ok u
  slot : ∀ h socket, ctx.engine.value.sockets.get h = some socket →
    ∃! id, ∃ task, ctx.runtime.tasks.lookup id = some task ∧ task.handle = h
  source : ∀ src h, ctx.engine.value.udpSessions.lookup src = some h ↔
    ∃ id session, ctx.runtime.tasks.lookup id = some (.udp session) ∧
      session.srcEndpoint = src ∧ session.socket.handle = h
  injective : ∀ src src' h, ctx.engine.value.udpSessions.lookup src = some h →
    ctx.engine.value.udpSessions.lookup src' = some h → src = src'

/-- A task ends and drops its session, or is dropped with the runtime before its end. -/
def CoreContext.release (ctx : CoreContext S) (id : TaskId) : Except Panic (CoreContext S) :=
  match ctx.runtime.tasks.lookup id with
  | none => .ok ctx
  | some task => do
      let engine ← ctx.engine.lock
      let engine ← task.drop engine
      return { ctx with engine := .new engine, runtime := ctx.runtime.remove id }

/-- One session is gone with its socket and its entry in the table; nothing else is. -/
structure Released (ctx : CoreContext S) (id : TaskId) (task : Task) (ctx' : CoreContext S) :
    Prop where
  sockets : ∀ h, ctx'.engine.value.sockets.get h =
    if h = task.handle then none else ctx.engine.value.sockets.get h
  sources : ∀ src, ctx'.engine.value.udpSessions.lookup src =
    if task.source = some src then none else ctx.engine.value.udpSessions.lookup src
  tasks : ∀ other, ctx'.runtime.tasks.lookup other =
    if other = id then none else ctx.runtime.tasks.lookup other

section
variable {R : Task → Socket S.TcpSocket S.UdpSocket → Prop} {ctx : CoreContext S} {id : TaskId}
  {task : Task}

theorem Runtime.lookup_remove (runtime : Runtime) (id other : TaskId) :
    (runtime.remove id).tasks.lookup other =
      if other = id then none else runtime.tasks.lookup other := by
  split
  · subst id
    exact AList.lookup_erase _ _
  · exact AList.lookup_erase_ne ‹_›

theorem Sound.task_step (api : S.ApiLaws) (stable : Stable R) (sound : Sound R ctx)
    (live : ctx.runtime.tasks.lookup id = some task) (event : Sum TcpEvent UdpEvent) :
    ∃ task' engine' outputs, task.step ctx.config ctx.engine.value id event =
      .ok (task', engine', outputs) ∧ task'.handle = task.handle := by
  obtain ⟨socket, held, related⟩ := sound.owned.serves id task live
  cases task with
  | tcp session =>
      obtain ⟨t, rfl⟩ := stable.tcp_kind session socket related
      cases event with
      | inl event =>
          obtain ⟨session', engine', _, outputs, stepped, turn, _⟩ :=
            session.step_turn api ctx.config id event held
          exact ⟨.tcp session', engine', outputs,
            by simp only [Task.step, stepped, ok_bind, pure_eq_ok], turn.handle⟩
      | inr event => exact ⟨_, _, _, rfl, rfl⟩
  | udp session =>
      obtain ⟨u, rfl⟩ := stable.udp_kind session socket related
      cases event with
      | inl event => exact ⟨_, _, _, rfl, rfl⟩
      | inr event =>
          obtain ⟨session', engine', _, outputs, stepped, turn, _⟩ :=
            session.step_turn api ctx.config id event held
          exact ⟨.udp session', engine', outputs,
            by simp only [Task.step, stepped, ok_bind, pure_eq_ok], turn.handle⟩

/-- The filter on handles takes away the entry of the session and no other. -/
theorem Sound.lookup_retain (sound : Sound R ctx) {session : UdpSession}
    (live : ctx.runtime.tasks.lookup id = some (.udp session)) (src : SocketAddr) :
    (ctx.engine.value.udpSessions.retain fun entry =>
      entry.2 != session.socket.handle).lookup src =
      if session.srcEndpoint = src then none else ctx.engine.value.udpSessions.lookup src := by
  refine Option.ext fun h => ?_
  rw [← Option.mem_def, AList.mem_lookup_retain]
  simp only [Option.mem_def, bne_iff_ne]
  have own : ctx.engine.value.udpSessions.lookup session.srcEndpoint = some session.socket.handle :=
    (sound.indexed _ _).mpr ⟨id, _, live, rfl, rfl⟩
  split
  · rename_i same
    subst same
    constructor
    · rintro ⟨known, apart⟩
      rw [own] at known
      exact absurd (Option.some.inj known).symm apart
    · intro known
      contradiction
  · rename_i other
    refine ⟨And.left, fun known => ⟨known, ?_⟩⟩
    rintro rfl
    obtain ⟨owner, task, found, key, slot⟩ := (sound.indexed src _).mp known
    obtain rfl := sound.owned.unique owner id task _ found live slot
    cases live.symm.trans found
    exact other (Option.some.inj key)

theorem Sound.release (sound : Sound R ctx) (live : ctx.runtime.tasks.lookup id = some task) :
    ∃ ctx', ctx.release id = .ok ctx' ∧ Sound R ctx' ∧ Released ctx id task ctx' ∧
      (task.isFinished = true → ctx.dropTask id = ctx') := by
  obtain ⟨socket, held, related⟩ := sound.owned.serves id task live
  cases task with
  | tcp session =>
      have held : ctx.engine.value.sockets.get session.stream.handle = some socket := held
      refine ⟨_, ?_, sound.dropped live (sound.indexed.removeUnkeyed live rfl),
        ⟨fun h => SlotTable.get_remove .., fun src => ?_, Runtime.lookup_remove _ _⟩, ?_⟩
      · simp only [CoreContext.release, live, sound.lock_ok, ok_bind, Task.drop, TcpStream.drop,
          SocketSet.remove, held, pure_eq_ok]
        rfl
      · rw [if_neg (by simp [Task.source])]
        rfl
      · intro finished
        simp only [CoreContext.dropTask, live, finished, if_true, sound.lock_ok, Except.bind,
          Task.drop, TcpStream.drop, SocketSet.remove, held, ok_bind, pure_eq_ok]
        rfl
  | udp session =>
      have held : ctx.engine.value.sockets.get session.socket.handle = some socket := held
      refine ⟨_, ?_, sound.dropped live (sound.indexed.remove sound.owned live),
        ⟨fun h => SlotTable.get_remove .., fun src => ?_, Runtime.lookup_remove _ _⟩, ?_⟩
      · simp only [CoreContext.release, live, sound.lock_ok, ok_bind, Task.drop, UdpSocket.drop,
          SocketSet.remove, held, pure_eq_ok]
        rfl
      · simp only [Task.source, Option.some.injEq]
        exact sound.lookup_retain live src
      · intro finished
        simp only [CoreContext.dropTask, live, finished, if_true, sound.lock_ok, Except.bind,
          Task.drop, UdpSocket.drop, SocketSet.remove, held, ok_bind, pure_eq_ok]
        rfl

/-- Sessions of a sound core can be dropped in any order, as when the runtime is. -/
theorem Sound.releaseAll (sound : Sound R ctx) (ids : List TaskId) :
    ∃ ctx', ids.foldlM CoreContext.release ctx = .ok ctx' ∧ Sound R ctx' := by
  induction ids generalizing ctx with
  | nil => exact ⟨ctx, rfl, sound⟩
  | cons id rest ih =>
      rw [List.foldlM_cons]
      cases live : ctx.runtime.tasks.lookup id with
      | none =>
          simp only [CoreContext.release, live, ok_bind]
          exact ih sound
      | some task =>
          obtain ⟨ctx', released, sound', _⟩ := sound.release live
          rw [released]
          exact ih sound'

theorem Sound.handles_owned (sound : Sound (Serves S) ctx) : OwnsHandles ctx := by
  refine ⟨?_, ?_, ?_, ?_, ?_⟩
  · intro id session live
    obtain ⟨socket, held, related⟩ := sound.owned.serves id _ live
    cases socket with
    | tcp t =>
        have held : ctx.engine.value.sockets.get session.stream.handle = some (.tcp t) := held
        exact ⟨t, by simp only [SocketSet.getMutTcp, held]⟩
    | udp u => exact related.elim
  · intro id session live
    obtain ⟨u, held, _⟩ := sound.udp_socket live
    exact ⟨u, by simp only [SocketSet.getMutUdp, held]⟩
  · intro h socket held
    obtain ⟨id, task, live, slot⟩ := sound.owned.owner h socket held
    refine ⟨id, ⟨task, live, slot⟩, ?_⟩
    rintro other ⟨task', live', slot'⟩
    exact sound.owned.unique other id task' task live' live (slot'.trans slot.symm)
  · intro src h
    rw [sound.indexed src h]
    constructor
    · rintro ⟨id, task, live, key, slot⟩
      cases task with
      | tcp session => cases key
      | udp session => exact ⟨id, session, live, Option.some.inj key, slot⟩
    · rintro ⟨id, session, live, rfl, rfl⟩
      exact ⟨id, _, live, rfl, rfl⟩
  · intro src src' h known known'
    obtain ⟨id, task, live, key, slot⟩ := (sound.indexed src h).mp known
    obtain ⟨id', task', live', key', slot'⟩ := (sound.indexed src' h).mp known'
    obtain rfl := sound.owned.unique id id' task task' live live' (slot.trans slot'.symm)
    cases live.symm.trans live'
    exact Option.some.inj (key.symm.trans key')

end

/-- In every reachable state sessions own the sockets one to one. So no turn of a
session misses its socket, and any session can be dropped, at its end or with the
runtime, without touching what another one holds. -/
theorem CoreRun.ownsHandles (api : S.ApiLaws) (poll : S.PollLaws) {config : AppConfig}
    {history : Runs.History (Handle S) Event (List Output)} {ctx : CoreContext S}
    (run : CoreRun S config history (some ctx)) :
    OwnsHandles ctx ∧
      (∀ id task event, ctx.runtime.tasks.lookup id = some task →
        ∃ result, task.step ctx.config ctx.engine.value id event = .ok result) ∧
      (∀ id task, ctx.runtime.tasks.lookup id = some task →
        ∃ ctx', ctx.release id = .ok ctx' ∧ OwnsHandles ctx' ∧ Released ctx id task ctx' ∧
          (task.isFinished = true → ctx.dropTask id = ctx')) ∧
      ∀ ids : List TaskId, ∃ ctx', ids.foldlM CoreContext.release ctx = .ok ctx' ∧
        OwnsHandles ctx' := by
  have sound := run.sound api poll (serves_stable api) ctx rfl
  refine ⟨sound.handles_owned, ?_, ?_, ?_⟩
  · intro id task event live
    obtain ⟨_, _, _, stepped, _⟩ := sound.task_step api (serves_stable api) live event
    exact ⟨_, stepped⟩
  · intro id task live
    obtain ⟨ctx', released, sound', gone, ended⟩ := sound.release live
    exact ⟨ctx', released, sound'.handles_owned, gone, ended⟩
  · intro ids
    obtain ⟨ctx', released, sound'⟩ := sound.releaseAll ids
    exact ⟨ctx', released, sound'.handles_owned⟩

def threeFlows : List Event :=
  startUp ++ [.processPacket (some (Wire.udpFrame hostAddr tunAddr 5353 53 [1, 2, 3])) 0,
    .processPacket (some (Wire.udpFrame hostAddr tunAddr 5454 53 [1, 2, 3])) 0,
    .processPacket (some (Wire.tcpFrame hostAddr ⟨93, 184, 216, 34⟩ 40000 443 100 0
      (Wire.flags true false false) [])) 0]

/-- The first session has ended, and a later one has its slot. -/
theorem ownsHandles_reused : ∃ history ctx,
    CoreRun Reference.stack quicConfig history (some ctx) ∧ ctx.runtime.tasks.lookup 0 = none ∧
      (ctx.runtime.tasks.lookup 3).map Task.handle = some 0 ∧ OwnsHandles ctx := by
  obtain ⟨history, handle, run, checked⟩ := CoreContext.replay_run Reference.stack quicConfig
    (threeFlows ++ [.task 0 (.inr (.opened 0 (.error (.other (.outbound 0))))), .drop 0,
      .processPacket (some (Wire.udpFrame hostAddr tunAddr 5555 53 [4])) 1])
    (fun _ handle => handle.any fun ctx => (ctx.runtime.tasks.lookup 0).isNone &&
      (ctx.runtime.tasks.lookup 3).map Task.handle == some 0)
    (by decide +kernel)
  obtain ⟨ctx, rfl, reused⟩ := (Option.any_eq_true _ _).mp checked
  simp only [Bool.and_eq_true, Option.isNone_iff_eq_none, beq_iff_eq] at reused
  exact ⟨history, ctx, run, reused.1, reused.2,
    (run.ownsHandles Reference.api Reference.poll_laws).1⟩

end StunnelIos
