import StunnelIos.Core.ProxyCore
import StunnelIos.Core.Scheduling
import StunnelIos.Core.SharedConnection
import StunnelIos.Core.UdpRuns

/-! Everything a step can do to a core with its connection manager. The tunnel of a session is
set up while the session opens, and every call of the manager belongs to one session. -/
namespace StunnelIos
variable {S : Smoltcp} {ctx ctx' : CoreContext S} {id : TaskId} {task task' : Task}

def Task.relays : Task → Bool
  | .tcp ⟨_, _, _, .copying _ _⟩ => true
  | .udp ⟨_, _, _, _, .running _ _ _⟩ => true
  | _ => false

/-- The same session later. -/
structure Task.Continues (task task' : Task) : Prop where
  isDirect : task'.isDirect = task.isDirect
  tunnelTarget : task'.tunnelTarget = task.tunnelTarget
  opening : task'.isOpening = true → task.isOpening = true
  relays : task'.relays = true → task.relays = true ∨ task.isOpening = true

theorem Task.Continues.refl (task : Task) : task.Continues task := ⟨rfl, rfl, id, .inl⟩

theorem TcpTurn.continues {config : AppConfig} {session session' : TcpSession}
    {t t' : S.TcpSocket} {event : TcpEvent} {outputs : List Output}
    (turn : TcpTurn S config id session t event session' t' outputs) :
    (Task.tcp session).Continues (.tcp session') := by
  obtain ⟨_, direct, target⟩ := turn.identity
  obtain ⟨stream, isDirect, target, phase⟩ := session
  refine ⟨direct, congrArg some target, ?_, ?_⟩
  all_goals
    cases turn <;> simp_all [Task.isOpening, Task.relays]

theorem UdpTurn.continues {config : AppConfig} {session session' : UdpSession}
    {u u' : S.UdpSocket} {event : UdpEvent} {outputs : List Output}
    (turn : UdpTurn S config id session u event session' u' outputs) :
    (Task.udp session).Continues (.udp session') := by
  obtain ⟨_, _, _, direct⟩ := turn.identity
  obtain ⟨socket, src, target, isDirect, phase⟩ := session
  refine ⟨direct, rfl, ?_, ?_⟩
  all_goals
    cases turn <;> simp_all [Task.isOpening, Task.relays, UdpSession.finish]

theorem Change.task_cases {event : Event} {outputs : List Output}
    (changed : Change ctx event outputs ctx')
    (live : ctx'.runtime.tasks.lookup id = some task') :
    (id = ctx.runtime.next ∧ task'.isOpening = true) ∨ ctx.runtime.tasks.lookup id = some task' ∨
      ∃ task e, event = .task id e ∧ ctx.runtime.tasks.lookup id = some task ∧
        task.Continues task' := by
  cases changed with
  | control | ignored | absent | alive => exact .inr (.inl live)
  | packet _ _ intercepted =>
      cases intercepted with
      | passed | known => exact .inr (.inl live)
      | tcp | udp =>
          rcases AList.lookup_insert_eq_some.mp live with ⟨rfl, same⟩ | ⟨_, live⟩
          · cases same
            exact .inl ⟨rfl, rfl⟩
          · exact .inr (.inl live)
  | mismatched found => exact .inr (.inl ((Runtime.lookup_set_self found id).symm.trans live))
  | tcp found _ turn | udp found _ turn =>
      rcases AList.lookup_insert_eq_some.mp live with ⟨rfl, same⟩ | ⟨_, live⟩
      · cases same
        exact .inr (.inr ⟨_, _, rfl, found, turn.continues⟩)
      · exact .inr (.inl live)
  | tcpDropped | udpDropped => exact .inr (.inl (AList.lookup_erase_eq_some.mp live).2)

theorem Change.task_stays {event : Event} {outputs : List Output}
    (changed : Change ctx event outputs ctx')
    (live : ctx.runtime.tasks.lookup id = some task) (stays : event ≠ .drop id) :
    ∃ task', ctx'.runtime.tasks.lookup id = some task' := by
  have set : ∀ other t, ∃ task', (ctx.runtime.set other t).tasks.lookup id = some task' := by
    intro other t
    by_cases same : id = other
    · exact ⟨t, AList.lookup_insert_eq_some.mpr (.inl ⟨same, rfl⟩)⟩
    · exact ⟨task, AList.lookup_insert_eq_some.mpr (.inr ⟨same, live⟩)⟩
  cases changed with
  | control | ignored | absent | alive => exact ⟨task, live⟩
  | packet _ _ intercepted =>
      cases intercepted with
      | passed | known => exact ⟨task, live⟩
      | tcp | udp => exact set ctx.runtime.next _
  | mismatched | tcp | udp => exact set _ _
  | tcpDropped | udpDropped =>
      refine ⟨task, AList.lookup_erase_eq_some.mpr ⟨?_, live⟩⟩
      rintro rfl
      exact stays rfl

theorem Change.drop_live {outputs : List Output} (changed : Change ctx (.drop id) outputs ctx')
    (live : ctx'.runtime.tasks.lookup id = some task') : ctx' = ctx := by
  cases changed with
  | control impossible => contradiction
  | alive => rfl
  | tcpDropped | udpDropped => exact absurd rfl (AList.lookup_erase_eq_some.mp live).1

theorem Change.task_continues {R : Task → Socket S.TcpSocket S.UdpSocket → Prop} {event : Event}
    {outputs : List Output} (changed : Change ctx event outputs ctx') (sound : Sound R ctx)
    (live : ctx.runtime.tasks.lookup id = some task) (stays : event ≠ .drop id) :
    ∃ task', ctx'.runtime.tasks.lookup id = some task' ∧ task.Continues task' ∧
      (task' = task ∨ ∃ e, event = .task id e) := by
  obtain ⟨task', live'⟩ := changed.task_stays live stays
  refine ⟨task', live', ?_⟩
  obtain ⟨rfl, _⟩ | kept | ⟨_, e, rfl, found, continues⟩ := changed.task_cases live'
  · exact absurd (sound.fresh _ _ live) (Nat.lt_irrefl _)
  · cases live.symm.trans kept
    exact ⟨.refl _, .inl rfl⟩
  · cases live.symm.trans found
    exact ⟨continues, .inr ⟨e, rfl⟩⟩

/-- A proxied session goes on if its tunnel is set up, and has failed otherwise. -/
theorem TcpSession.opened_cases (config : AppConfig) {session : TcpSession}
    (proxied : session.isDirect = false) (result : IoResult Unit) :
    ∃ phase, session.opened config result = { session with phase := phase } ∧
      ((phase = .copying false false ∧ result = .ok ()) ∨ ∃ error, phase = .finished (.error error))
    := by
  simp only [TcpSession.opened, proxied, Bool.false_eq_true, if_false]
  cases config.tunnelMode with
  | error error => exact ⟨_, rfl, .inr ⟨error, rfl⟩⟩
  | ok mode =>
      cases result with
      | ok => exact ⟨_, rfl, .inl ⟨rfl, rfl⟩⟩
      | error error => exact ⟨_, rfl, .inr ⟨error, rfl⟩⟩

theorem UdpSession.opened_cases (config : AppConfig) {session : UdpSession}
    (proxied : session.isDirect = false) (now : Instant) (result : IoResult Unit) :
    ∃ phase, session.opened config now result = { session with phase := phase } ∧
      ((phase = .running .receiving .receiving now ∧ result = .ok ()) ∨
        ∃ error, phase = .finished (.error error)) := by
  obtain ⟨socket, src, target, isDirect, phase⟩ := session
  obtain rfl : isDirect = false := proxied
  simp only [UdpSession.opened, Bool.false_eq_true, if_false]
  cases config.tunnelMode with
  | error error => exact ⟨_, rfl, .inr ⟨error, rfl⟩⟩
  | ok mode =>
      cases result with
      | ok => exact ⟨_, rfl, .inl ⟨rfl, rfl⟩⟩
      | error error => exact ⟨_, rfl, .inr ⟨error, rfl⟩⟩

/-- A session that opens goes on with the outcome of its set-up. -/
structure Settled (ctx : CoreContext S) (id : TaskId) (task : Task) (result : IoResult Unit)
    (task' : Task) : Prop where
  live : ctx.runtime.tasks.lookup id = some task
  proxied : task.isDirect = false
  isDirect : task'.isDirect = false
  tunnelTarget : task'.tunnelTarget = task.tunnelTarget
  opening : task'.isOpening = false
  relays : task'.relays = true → result = .ok ()
  step : ∃ event, ctx.stepTask id event = ({ ctx with runtime := ctx.runtime.set id task' }, [])

theorem Sound.settled {R : Task → Socket S.TcpSocket S.UdpSocket → Prop} (sound : Sound R ctx)
    (live : ctx.runtime.tasks.lookup id = some task) (opening : task.isOpening = true)
    (proxied : task.isDirect = false) (now : Instant) (result : IoResult Unit) :
    ∃ task', Settled ctx id task result task' ∧
      ctx.stepTask id (task.opened now result) =
        ({ ctx with runtime := ctx.runtime.set id task' }, []) := by
  cases task with
  | tcp session =>
      obtain ⟨phase, same, outcome⟩ := session.opened_cases ctx.config proxied result
      have stepped : ctx.stepTask id (.inl (.opened result)) =
          ({ ctx with runtime := ctx.runtime.set id (.tcp { session with phase := phase }) }, []) := by
        obtain ⟨stream, isDirect, target, _ | _ | _⟩ := session
        · simp only [CoreContext.stepTask, live, sound.lock_ok, Except.bind, Task.step,
            TcpSession.step, same, ok_bind, pure_eq_ok, ← sound.mutex]
        all_goals contradiction
      refine ⟨_, ⟨live, proxied, ?_, ?_, ?_, ?_, _, stepped⟩, stepped⟩
      · exact proxied
      · rfl
      · obtain ⟨rfl, _⟩ | ⟨_, rfl⟩ := outcome <;> rfl
      · intro relays
        obtain ⟨_, ok⟩ | ⟨_, rfl⟩ := outcome
        · exact ok
        · contradiction
  | udp session =>
      obtain ⟨phase, same, outcome⟩ := session.opened_cases ctx.config proxied now result
      have stepped : ctx.stepTask id (.inr (.opened now result)) =
          ({ ctx with runtime := ctx.runtime.set id (.udp { session with phase := phase }) }, []) := by
        obtain ⟨socket, src, target, isDirect, _ | _ | _⟩ := session
        · simp only [CoreContext.stepTask, live, sound.lock_ok, Except.bind, Task.step,
            UdpSession.step, same, ok_bind, pure_eq_ok, ← sound.mutex]
        all_goals contradiction
      refine ⟨_, ⟨live, proxied, ?_, ?_, ?_, ?_, _, stepped⟩, stepped⟩
      · exact proxied
      · rfl
      · obtain ⟨rfl, _⟩ | ⟨_, rfl⟩ := outcome <;> rfl
      · intro relays
        obtain ⟨_, ok⟩ | ⟨_, rfl⟩ := outcome
        · exact ok
        · contradiction

section
variable {manager manager' : ConnectionManager} {event : CallEvent} {outputs : List CallOutput}
  {call : CallId}

/-- A call goes on, or it returns and is over. -/
theorem ConnectionManager.Moves.call_cases (moved : manager.Moves event outputs manager')
    (mine : event.caller = some call) (lives : event ≠ .cancel call) :
    (outputs.findSome? CallOutput.result = none ∧
      ∀ other, manager'.calls.lookup other = none ↔ manager.calls.lookup other = none) ∨
    ∃ result, outputs.findSome? CallOutput.result = some result ∧
      .returned call result ∈ outputs ∧ manager'.calls = manager.calls.erase call := by
  have suspended : ∀ {id config config' phase phase' other},
      manager.calls.lookup id = some ⟨config, phase⟩ →
      ((manager.suspend id config' phase').calls.lookup other = none ↔
        manager.calls.lookup other = none) := by
    intro id config config' phase phase' other waits
    by_cases same : other = id
    · subst same
      simp [ConnectionManager.suspend, waits]
    · simp only [ConnectionManager.suspend, AList.lookup_insert_ne same]
  cases moved with
  | called => contradiction
  | idle => exact .inl ⟨rfl, fun _ => Iff.rfl⟩
  | broken waits | absent waits | connect waits => exact .inl ⟨rfl, fun _ => suspended waits⟩
  | reused | stored =>
      cases mine
      exact .inr ⟨_, rfl, by simp, rfl⟩
  | failed caller =>
      cases caller.symm.trans mine
      exact .inr ⟨_, rfl, by simp, rfl⟩
  | cancelled =>
      cases mine
      contradiction

end

/-- The call of the C side that an event is. -/
def ProxyEvent.call : ProxyEvent → Option Event
  | .core event => if event.session = none then some event else none
  | .setUp _ _ _ => none

def SetUp.isDone : SetUp → Bool
  | .done _ => true
  | .handle _ | .tunnel _ => false

/-- The set-ups are those of the proxied sessions that open, and of those that have opened. -/
structure Aligned (tasks : AList fun _ : TaskId => Task) (setUps : AList fun _ : TaskId => SetUp) :
    Prop where
  opening : ∀ {id setUp}, setUps.lookup id = some setUp → ∃ task, tasks.lookup id = some task ∧
    task.isDirect = false ∧ task.isOpening = !setUp.isDone
  relaying : ∀ {id task}, tasks.lookup id = some task → task.isDirect = false →
    task.relays = true → ∃ carrier, setUps.lookup id = some (.done carrier)

/-- Each call of the manager is that of one set-up. -/
structure Paired (calls : AList fun _ : CallId => S2nCall)
    (setUps : AList fun _ : TaskId => SetUp) : Prop where
  awaited : ∀ call, calls.lookup call = none ↔ ∀ id, setUps.lookup id ≠ some (.handle call)
  alone : ∀ {id other call}, setUps.lookup id = some (.handle call) →
    setUps.lookup other = some (.handle call) → other = id

structure ProxyCore.Matched (proxy : ProxyCore S) : Prop where
  aligned : Aligned proxy.core.runtime.tasks proxy.setUps
  paired : Paired proxy.connManager.calls proxy.setUps

/-- Everything a step can do to a core with its connection manager. -/
inductive ProxyCore.Moves (parse : String → Except String SocketAddr) (proxy : ProxyCore S) :
    ProxyEvent → List ProxyOutput → ProxyHandle S → Prop where
  | idle {event} : event.call = none → proxy.Moves parse event [] (some proxy)
  | stopped : Handle.Steps (some proxy.core) .stop [] none →
      proxy.Moves parse (.core .stop) [] none
  | core {event outputs core} : Handle.Steps (some proxy.core) event outputs (some core) →
      Change proxy.core event outputs core → (∀ id, event ≠ .drop id) →
      (∀ id e, event = .task id e → proxy.awaitsTunnel id = false) →
      proxy.Moves parse (.core event) (outputs.map .core) (some { proxy with core := core })
  | dropped {id core} : Handle.Steps (some proxy.core) (.drop id) [] (some core) →
      Change proxy.core (.drop id) [] core → core.runtime.tasks.lookup id = none →
      proxy.Moves parse (.core (.drop id)) []
        (some { proxy with core := core, setUps := proxy.setUps.erase id })
  | unsupported {id now task task' error} :
      proxy.setUps.lookup id = none → Settled proxy.core id task (.error error) task' →
      proxy.Moves parse (.setUp id now .begin) [] (some { proxy with
        core := { proxy.core with runtime := proxy.core.runtime.set id task' } })
  | called {id now} : proxy.setUps.lookup id = none → proxy.awaitsTunnel id = true →
      proxy.core.config.tunnelMode = .ok .s2nQuic →
      proxy.Moves parse (.setUp id now .begin) [] (some { proxy with
        connManager := (proxy.connManager.step parse (.call proxy.core.config)).1
        setUps := proxy.setUps.insert id (.handle proxy.connManager.nextCall) })
  | connector {id now} : proxy.setUps.lookup id = none → proxy.awaitsTunnel id = true →
      proxy.core.config.tunnelMode = .ok .tlsTcp →
      proxy.Moves parse (.setUp id now .begin)
        (proxy.getTlstcpConnector.2.connectTunnel id (.tlsTcp proxy.getTlstcpConnector.1)).2
        (some (proxy.getTlstcpConnector.2.connectTunnel id (.tlsTcp proxy.getTlstcpConnector.1)).1)
  | waits {id now event call e outputs manager} :
      proxy.setUps.lookup id = some (.handle call) → e.caller = some call → e ≠ .cancel call →
      proxy.connManager.step parse e = (manager, outputs) →
      outputs.findSome? CallOutput.result = none →
      proxy.Moves parse (.setUp id now event) (outputs.map .manager)
        (some { proxy with connManager := manager })
  | obtained {id now event call e outputs manager handle} :
      proxy.setUps.lookup id = some (.handle call) → e.caller = some call → e ≠ .cancel call →
      proxy.connManager.step parse e = (manager, outputs) →
      outputs.findSome? CallOutput.result = some (.ok handle) →
      proxy.Moves parse (.setUp id now event)
        (outputs.map .manager ++
          ({ proxy with connManager := manager }.connectTunnel id (.s2n handle)).2)
        (some ({ proxy with connManager := manager }.connectTunnel id (.s2n handle)).1)
  | refused {id now event call e outputs manager error task task'} :
      proxy.setUps.lookup id = some (.handle call) → e.caller = some call → e ≠ .cancel call →
      proxy.connManager.step parse e = (manager, outputs) →
      outputs.findSome? CallOutput.result = some (.error error) →
      Settled proxy.core id task (.error error) task' →
      proxy.Moves parse (.setUp id now event) (outputs.map .manager)
        (some { proxy with
          core := { proxy.core with runtime := proxy.core.runtime.set id task' }
          connManager := manager, setUps := proxy.setUps.erase id })
  | opened {id now event carrier task task'} : proxy.setUps.lookup id = some (.tunnel carrier) →
      Settled proxy.core id task (.ok ()) task' →
      proxy.Moves parse (.setUp id now event) [] (some { proxy with
        core := { proxy.core with runtime := proxy.core.runtime.set id task' }
        setUps := proxy.setUps.insert id (.done carrier) })
  | failed {id now event carrier error task task'} :
      proxy.setUps.lookup id = some (.tunnel carrier) →
      Settled proxy.core id task (.error error) task' →
      proxy.Moves parse (.setUp id now event) [] (some { proxy with
        core := { proxy.core with runtime := proxy.core.runtime.set id task' }
        setUps := proxy.setUps.erase id })

section
variable {parse : String → Except String SocketAddr} {proxy : ProxyCore S}

theorem ProxyCore.awaitsTunnel_iff : proxy.awaitsTunnel id = true ↔ ∃ task,
    proxy.core.runtime.tasks.lookup id = some task ∧ task.isDirect = false ∧
      task.isOpening = true := by
  simp [awaitsTunnel, Option.any_eq_true]

theorem ProxyCore.dropSetUp_live (proxy : ProxyCore S)
    (live : proxy.core.runtime.tasks.lookup id = some task) :
    proxy.dropSetUp parse id = (proxy, []) := by
  simp only [dropSetUp, live]

/-- A task that awaits no handle leaves nothing to drop but its tunnel. -/
theorem ProxyCore.dropSetUp_gone (proxy : ProxyCore S)
    (gone : proxy.core.runtime.tasks.lookup id = none)
    (apart : ∀ call, proxy.setUps.lookup id ≠ some (.handle call)) :
    proxy.dropSetUp parse id = ({ proxy with setUps := proxy.setUps.erase id }, []) := by
  unfold dropSetUp
  split
  · cases gone.symm.trans ‹_›
  · exact absurd ‹_› (apart _)
  · rfl

/-- A set-up that is over has settled its session. -/
theorem ProxyCore.settle_eq (parse : String → Except String SocketAddr) (proxy : ProxyCore S)
    {R : Task → Socket S.TcpSocket S.UdpSocket → Prop}
    (sound : Sound R proxy.core) (live : proxy.core.runtime.tasks.lookup id = some task)
    (opening : task.isOpening = true) (proxied : task.isDirect = false) (now : Instant)
    (result : IoResult Unit) :
    ∃ task', Settled proxy.core id task result task' ∧
      proxy.settle parse id now result = ({ proxy with
        core := { proxy.core with runtime := proxy.core.runtime.set id task' } }, []) := by
  obtain ⟨task', settled, stepped⟩ := sound.settled live opening proxied now result
  refine ⟨task', settled, ?_⟩
  have still : (proxy.core.runtime.set id task').tasks.lookup id = some task' :=
    AList.lookup_insert _
  simp only [settle, live, stepTask, stepped]
  rw [dropSetUp_live _ still]
  rfl

theorem ProxyCore.Matched.opens (matched : proxy.Matched) {setUp : SetUp}
    (found : proxy.setUps.lookup id = some setUp) (undone : setUp.isDone = false) : ∃ task,
    proxy.core.runtime.tasks.lookup id = some task ∧ task.isDirect = false ∧
      task.isOpening = true := by
  obtain ⟨task, live, proxied, opening⟩ := matched.aligned.opening found
  exact ⟨task, live, proxied, by rw [opening, undone]; rfl⟩

theorem ProxyCore.Matched.absent (matched : proxy.Matched)
    (gone : proxy.core.runtime.tasks.lookup id = none) : proxy.setUps.lookup id = none := by
  cases found : proxy.setUps.lookup id with
  | none => rfl
  | some setUp =>
      obtain ⟨task, live, _⟩ := matched.aligned.opening found
      cases gone.symm.trans live

theorem Task.isFinished.not_opening (finished : task.isFinished = true) :
    task.isOpening = false := by
  obtain ⟨_, _, _, _ | _ | _⟩ | ⟨_, _, _, _, _ | _ | _⟩ := task <;>
    first
    | rfl
    | contradiction

theorem ProxyCore.Matched.drops (matched : proxy.Matched) {core : CoreContext S}
    (changed : Change proxy.core (.drop id) [] core)
    (gone : core.runtime.tasks.lookup id = none) (call : CallId) :
    proxy.setUps.lookup id ≠ some (.handle call) := by
  intro found
  obtain ⟨task, live, _, opening⟩ := matched.opens found rfl
  cases changed with
  | control impossible => contradiction
  | alive => cases gone.symm.trans live
  | tcpDropped found finished | udpDropped found finished =>
      cases found.symm.trans live
      rw [Task.isFinished.not_opening finished] at opening
      contradiction

section
variable {R : Task → Socket S.TcpSocket S.UdpSocket → Prop} (sound : Sound R proxy.core)
  (now : Instant)
include sound

theorem ProxyCore.begin_moves (fresh : proxy.setUps.lookup id = none)
    (awaits : proxy.awaitsTunnel id = true) :
    proxy.Moves parse (.setUp id now .begin) (proxy.begin parse id now).2
      (some (proxy.begin parse id now).1) := by
  unfold begin
  split
  · obtain ⟨task, live, proxied, opening⟩ := awaitsTunnel_iff.mp awaits
    obtain ⟨task', settled, same⟩ := settle_eq parse proxy sound live opening proxied now
      (.error ‹_›)
    rw [same]
    exact .unsupported fresh settled
  · exact .called fresh awaits ‹_›
  · exact .connector fresh awaits ‹_›

variable (matched : proxy.Matched)
include matched

theorem ProxyCore.resume_moves {call : CallId} {e : CallEvent}
    (found : proxy.setUps.lookup id = some (.handle call)) (mine : e.caller = some call)
    (lives : e ≠ .cancel call) (event : SetUpEvent) :
    proxy.Moves parse (.setUp id now event) (proxy.resume parse id now e).2
      (some (proxy.resume parse id now e).1) := by
  unfold resume
  cases stepped : proxy.connManager.step parse e with
  | mk manager outputs =>
      dsimp only
      split
      · exact .waits found mine lives stepped ‹_›
      · exact .obtained found mine lives stepped ‹_›
      · obtain ⟨task, live, proxied, opening⟩ := matched.opens found rfl
        rename_i error returned
        obtain ⟨task', settled, same⟩ := settle_eq parse
          { proxy with connManager := manager, setUps := proxy.setUps.erase id }
          sound live opening proxied now (.error error)
        rw [same, List.append_nil]
        exact .refused found mine lives stepped returned settled

theorem ProxyCore.tunnelConnected_moves {carrier : Carrier}
    (found : proxy.setUps.lookup id = some (.tunnel carrier)) (result : IoResult Unit)
    (event : SetUpEvent) :
    proxy.Moves parse (.setUp id now event) (proxy.tunnelConnected parse id now carrier result).2
      (some (proxy.tunnelConnected parse id now carrier result).1) := by
  obtain ⟨task, live, proxied, opening⟩ := matched.opens found rfl
  cases result with
  | ok =>
      obtain ⟨task', settled, same⟩ := settle_eq parse
        { proxy with setUps := proxy.setUps.insert id (.done carrier) }
        sound live opening proxied now (.ok ())
      simp only [tunnelConnected, same]
      exact .opened found settled
  | error error =>
      obtain ⟨task', settled, same⟩ := settle_eq parse
        { proxy with setUps := proxy.setUps.erase id }
        sound live opening proxied now (.error error)
      simp only [tunnelConnected, same]
      exact .failed found settled

theorem ProxyCore.setUp_moves (event : SetUpEvent) :
    proxy.Moves parse (.setUp id now event) (proxy.setUp parse id now event).2
      (some (proxy.setUp parse id now event).1) := by
  unfold setUp
  split
  · split
    · exact begin_moves sound now ‹_› ‹_›
    · exact .idle rfl
  · exact resume_moves sound now matched ‹_› rfl (by simp) _
  · exact resume_moves sound now matched ‹_› rfl (by simp) _
  · exact resume_moves sound now matched ‹_› rfl (by simp) _
  · exact tunnelConnected_moves sound now matched ‹_› _ _
  · exact .idle rfl

end

/-- The inversion of one step. -/
theorem ProxyCore.step_moves (api : S.ApiLaws) (sound : Sound (Serves S) proxy.core)
    (matched : proxy.Matched) {event : ProxyEvent} {outputs : List ProxyOutput}
    {handle : ProxyHandle S} (stepped : proxy.step parse event = .ok (handle, outputs)) :
    proxy.Moves parse event outputs handle := by
  have other : ∀ {event : Event}, (∀ id, event.session ≠ some id) →
      (Handle.step (some proxy.core) event >>= fun result => pure
        (result.1.map fun core => { proxy with core := core }, result.2.map ProxyOutput.core)) =
        .ok (handle, outputs) → proxy.Moves parse (.core event) outputs handle := by
    intro event apart stepped
    obtain ⟨⟨core, said⟩, returned, same⟩ := bind_eq_ok stepped
    cases same
    obtain ⟨rfl, rfl, rfl⟩ | ⟨core', rfl, changed⟩ :=
      step_change api (serves_stable api) sound returned
    · exact .stopped returned
    · refine .core returned changed ?_ ?_
      · rintro id rfl
        exact apart id rfl
      · rintro id e rfl
        exact absurd rfl (apart id)
  cases event with
  | setUp id now event =>
      cases stepped
      exact setUp_moves sound now matched event
  | core event =>
      cases event with
      | setPacketCallback | clearPacketCallback | start | processPacket | stop =>
          exact other (by simp [Event.session]) stepped
      | task id event =>
          simp only [step] at stepped
          split at stepped
          · cases stepped
            exact .idle rfl
          · rename_i rests
            have changed := stepTask_change api (serves_stable api) sound id event
            have next : Handle.Steps (some proxy.core) (.task id event)
                (proxy.core.stepTask id event).2 (some (proxy.core.stepTask id event).1) := rfl
            cases live : proxy.core.runtime.tasks.lookup id with
            | none =>
                have still : proxy.core.stepTask id event = (proxy.core, []) := by
                  simp only [CoreContext.stepTask, live]
                have apart : proxy.setUps.lookup id = none := matched.absent live
                simp only [stepTask, still] at stepped
                rw [dropSetUp_gone _ live (by simp [apart]),
                  AList.erase_of_lookup_none apart] at stepped
                cases stepped
                exact .idle rfl
            | some task =>
                obtain ⟨task', live'⟩ := changed.task_stays live (by simp)
                simp only [stepTask, dropSetUp_live { proxy with
                  core := (proxy.core.stepTask id event).1 } live', List.append_nil] at stepped
                cases stepped
                refine .core next changed (by simp) ?_
                rintro _ _ ⟨⟩
                simpa using rests
      | drop id =>
          have changed := dropTask_change sound id
          have next : Handle.Steps (some proxy.core) (.drop id) []
              (some (proxy.core.dropTask id)) := rfl
          simp only [step] at stepped
          cases live' : (proxy.core.dropTask id).runtime.tasks.lookup id with
          | none =>
              rw [dropSetUp_gone { proxy with core := proxy.core.dropTask id } live'
                (matched.drops changed live')] at stepped
              cases stepped
              exact .dropped next changed live'
          | some task =>
              have same := changed.drop_live live'
              rw [same] at stepped live'
              rw [dropSetUp_live _ live'] at stepped
              cases stepped
              exact .idle rfl

end

end StunnelIos
