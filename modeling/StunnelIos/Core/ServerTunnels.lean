import StunnelIos.Core.ProxyRuns
import StunnelIos.Core.SplitTunnel

/-! Where the data of proxied sessions goes: through tunnels to the server of the
configuration, and nowhere else. -/
namespace StunnelIos
variable {S : Smoltcp} {id : TaskId}

/-! The connections of the manager, all of them dialled for one configuration. -/

/-- `dialled` tells the connections that were dialled with this configuration. -/
structure ConnectionManager.Dials (config : AppConfig) (dialled : Nat → Prop)
    (manager : ConnectionManager) : Prop where
  calls : ∀ {id call}, manager.calls.lookup id = some call → call.config = config
  client : ∀ {client}, manager.s2nClient = some client → client = config.s2nConfig
  connecting : ∀ {id config' connection},
    manager.calls.lookup id = some ⟨config', .connecting connection⟩ → dialled connection
  cached : ∀ {handle}, manager.s2nHandle = some handle → dialled handle.connection

section
variable {parse : String → Except String SocketAddr} {manager manager' : ConnectionManager}
  {event : CallEvent} {outputs : List CallOutput} {config : AppConfig} {dialled : Nat → Prop}

theorem ConnectionManager.Dials.mono {dialled' : Nat → Prop}
    (dials : manager.Dials config dialled)
    (implies : ∀ connection, dialled connection → dialled' connection) :
    manager.Dials config dialled' :=
  ⟨dials.calls, dials.client, fun found => implies _ (dials.connecting found),
    fun held => implies _ (dials.cached held)⟩

theorem ConnectionManager.new_dials : ConnectionManager.new.Dials config dialled := by
  constructor <;> simp [ConnectionManager.new]

theorem ConnectionManager.Dials.getOrTryInit (dials : manager.Dials config dialled)
    {result : IoResult Unit} {client : S2nConfig}
    (got : manager.getOrTryInit config result = .ok client) : client = config.s2nConfig := by
  unfold ConnectionManager.getOrTryInit at got
  split at got
  · cases got
    exact dials.client ‹_›
  · cases result with
    | error => contradiction
    | ok =>
        cases got
        rfl

/-- Steps but the one that has waited for the client leave the client alone. -/
theorem ConnectionManager.client_unchanged (stepped : manager.step parse event = (manager', outputs))
    (other : ∀ id result, event ≠ .clientCreated id result) :
    manager'.s2nClient = manager.s2nClient ∧
      ∀ id connection addr serverName, .connect id connection addr serverName ∉ outputs := by
  cases event with
  | clientCreated id result => exact absurd rfl (other id result)
  | call config =>
      cases stepped
      exact ⟨rfl, by simp⟩
  | locked id keepAlive =>
      simp only [step] at stepped
      split at stepped
      · unfold withLock at stepped
        repeat' split at stepped
        all_goals
          cases stepped
          exact ⟨rfl, by simp⟩
      · cases stepped
        exact ⟨rfl, by simp⟩
  | connected id result =>
      simp only [step] at stepped
      split at stepped
      · unfold withConnection at stepped
        split at stepped <;>
          cases stepped <;>
          exact ⟨rfl, by simp⟩
      · cases stepped
        exact ⟨rfl, by simp⟩
  | cancel id =>
      simp only [step] at stepped
      split at stepped <;>
        cases stepped <;>
        exact ⟨rfl, by simp⟩

theorem ConnectionManager.Dials.dial (dials : manager.Dials config dialled)
    (stepped : manager.step parse event = (manager', outputs)) :
    (∀ {client}, manager'.s2nClient = some client → client = config.s2nConfig) ∧
    ∀ {id connection addr serverName}, .connect id connection addr serverName ∈ outputs →
      parse config.serverAddr = .ok addr ∧ serverName = config.serverName ∧
        manager'.s2nClient = some config.s2nConfig := by
  by_cases created : ∃ id result, event = .clientCreated id result
  · obtain ⟨id, result, rfl⟩ := created
    simp only [step] at stepped
    split at stepped
    · rename_i config' waits
      obtain rfl : config' = config := dials.calls waits
      unfold withClient at stepped
      split at stepped
      · cases stepped
        exact ⟨dials.client, by simp⟩
      · rename_i client got
        obtain rfl := dials.getOrTryInit got
        dsimp only at stepped
        split at stepped
        · cases stepped
          exact ⟨fun same => (Option.some.inj same).symm, by simp⟩
        · rename_i addr parsed
          cases stepped
          refine ⟨fun same => (Option.some.inj same).symm, ?_⟩
          intro _ _ _ _ shown
          simp only [List.mem_singleton, CallOutput.connect.injEq] at shown
          obtain ⟨_, _, rfl, rfl⟩ := shown
          exact ⟨parsed, rfl, rfl⟩
    · cases stepped
      exact ⟨dials.client, by simp⟩
  · obtain ⟨same, silent⟩ := client_unchanged stepped fun id result same => created ⟨id, result, same⟩
    exact ⟨fun held => dials.client (same ▸ held), fun shown => absurd shown (silent _ _ _ _)⟩

/-- A manager whose calls are all made with one configuration dials with it alone. -/
theorem ConnectionManager.Dials.step (dials : manager.Dials config dialled)
    (stepped : manager.step parse event = (manager', outputs))
    (own : ∀ config', event = .call config' → config' = config)
    (dial : ∀ id connection addr serverName, .connect id connection addr serverName ∈ outputs →
      dialled connection) : manager'.Dials config dialled := by
  have suspended : ∀ {id config' phase phase'}, manager.calls.lookup id = some ⟨config', phase⟩ →
      ∀ {other call}, (manager.suspend id config' phase').calls.lookup other = some call →
      call.config = config := by
    intro id config' phase phase' waits other call found
    rcases AList.lookup_insert_eq_some.mp found with ⟨_, same⟩ | ⟨_, found⟩
    · cases same
      have made : config' = config := dials.calls waits
      exact made
    · exact dials.calls found
  have moved := step_moves stepped
  refine ⟨?_, (dials.dial stepped).1, ?_, ?_⟩
  · intro id call found
    cases moved with
    | idle => exact dials.calls found
    | called =>
        rcases AList.lookup_insert_eq_some.mp found with ⟨_, same⟩ | ⟨_, found⟩
        · cases same
          exact own _ rfl
        · exact dials.calls found
    | broken waits | absent waits | connect waits => exact suspended waits found
    | reused | failed | stored | cancelled =>
        exact dials.calls (AList.lookup_erase_eq_some.mp found).2
  · intro id config' connection found
    cases moved with
    | idle => exact dials.connecting found
    | called | broken | absent =>
        rcases AList.lookup_insert_eq_some.mp found with ⟨_, same⟩ | ⟨_, found⟩
        · cases same
        · exact dials.connecting found
    | connect waits =>
        rcases AList.lookup_insert_eq_some.mp found with ⟨_, same⟩ | ⟨_, found⟩
        · cases same
          exact dial _ _ _ _ List.mem_cons_self
        · exact dials.connecting found
    | reused | failed | stored | cancelled =>
        exact dials.connecting (AList.lookup_erase_eq_some.mp found).2
  · intro handle held
    cases moved with
    | stored waits =>
        cases held
        exact dials.connecting waits
    | idle | called | reused | broken | absent | failed | connect | cancelled =>
        exact dials.cached held

end

/-- An output of the run so far. -/
def Said (output : ProxyOutput) (history : ProxyHistory S) : Prop :=
  ∃ x ∈ history, output ∈ x.output

/-- The connection was dialled to the server, by the client with the certificate. -/
def Dialled (parse : String → Except String SocketAddr) (config : AppConfig)
    (history : ProxyHistory S) (connection : Nat) : Prop :=
  ∃ x ∈ history, ∃ proxy id addr, x.after = some proxy ∧
    proxy.connManager.s2nClient = some config.s2nConfig ∧ parse config.serverAddr = .ok addr ∧
    .manager (.connect id connection addr config.serverName) ∈ x.output

/-- What `get_s2n_handle` or `get_tlstcp_connector` has returned, by the mode, for the server
and with the certificate of the configuration. -/
def Carrier.LeadsToServer (parse : String → Except String SocketAddr) (config : AppConfig)
    (history : ProxyHistory S) : Carrier → Prop
  | .s2n handle => config.tunnelMode = .ok .s2nQuic ∧
      Dialled parse config history handle.connection ∧
      ∃ call, Said (.manager (.returned call (.ok handle))) history
  | .tlsTcp connector => config.tunnelMode = .ok .tlsTcp ∧ connector = config.tlsTcpConfig

def SetUp.carrier : SetUp → Option Carrier
  | .handle _ => none
  | .tunnel carrier | .done carrier => some carrier

/-- Where the carriers of the sessions come from, and what their tunnels were asked for. -/
structure ProxyCore.Sourced (parse : String → Except String SocketAddr) (config : AppConfig)
    (history : ProxyHistory S) (proxy : ProxyCore S) : Prop where
  configured : proxy.core.config = config
  dials : proxy.connManager.Dials config (Dialled parse config history)
  connector : ∀ {connector}, proxy.tlstcpConnector = some connector →
    connector = config.tlsTcpConfig
  mode : ∀ {id call}, proxy.setUps.lookup id = some (.handle call) →
    config.tunnelMode = .ok .s2nQuic
  carriers : ∀ {id setUp carrier}, proxy.setUps.lookup id = some setUp →
    setUp.carrier = some carrier → carrier.LeadsToServer parse config history ∧
      ∃ task, proxy.core.runtime.tasks.lookup id = some task ∧
        Said (.connectTunnel id carrier task.tunnelTarget) history

section
variable {parse : String → Except String SocketAddr} {config : AppConfig}
  {history : ProxyHistory S} {proxy proxy' : ProxyCore S} {event : ProxyEvent}
  {outputs : List ProxyOutput} {handle : ProxyHandle S} {carrier : Carrier}
  {x : Runs.Transition (ProxyHandle S) ProxyEvent (List ProxyOutput)}

theorem Said.cons {output : ProxyOutput} (said : Said output history) : Said output (x :: history) := by
  obtain ⟨y, earlier, shown⟩ := said
  exact ⟨y, List.mem_cons_of_mem _ earlier, shown⟩

theorem Dialled.cons {connection : Nat} (dialled : Dialled parse config history connection) :
    Dialled parse config (x :: history) connection := by
  obtain ⟨y, earlier, shown⟩ := dialled
  exact ⟨y, List.mem_cons_of_mem _ earlier, shown⟩

theorem Carrier.LeadsToServer.cons (leads : carrier.LeadsToServer parse config history) :
    carrier.LeadsToServer parse config (x :: history) := by
  cases carrier with
  | s2n handle =>
      obtain ⟨mode, dialled, call, returned⟩ := leads
      exact ⟨mode, dialled.cons, call, returned.cons⟩
  | tlsTcp connector => exact leads

theorem Change.tunnelTarget {ctx ctx' : CoreContext S} {event : Event} {outputs : List Output}
    {task task' : Task} (changed : Change ctx event outputs ctx') (sound : Sound (Serves S) ctx)
    (live : ctx.runtime.tasks.lookup id = some task)
    (live' : ctx'.runtime.tasks.lookup id = some task') : task'.tunnelTarget = task.tunnelTarget := by
  obtain ⟨rfl, _⟩ | kept | ⟨_, _, _, found, continues⟩ := changed.task_cases live'
  · exact absurd (sound.fresh _ _ live) (Nat.lt_irrefl _)
  · cases live.symm.trans kept
    rfl
  · cases live.symm.trans found
    exact continues.tunnelTarget

theorem Settled.target {ctx : CoreContext S} {other : TaskId} {task task' old new : Task}
    {result : IoResult Unit} (settled : Settled ctx id task result task')
    (live : ctx.runtime.tasks.lookup other = some old)
    (live' : (ctx.runtime.set id task').tasks.lookup other = some new) :
    new.tunnelTarget = old.tunnelTarget := by
  rcases AList.lookup_insert_eq_some.mp live' with ⟨rfl, same⟩ | ⟨_, found⟩
  · cases same
    cases settled.live.symm.trans live
    exact settled.tunnelTarget
  · cases live.symm.trans found
    rfl

theorem ProxyCore.Moves.tunnelTarget (moved : proxy.Moves parse event outputs (some proxy'))
    (sound : Sound (Serves S) proxy.core) {task task' : Task}
    (live : proxy.core.runtime.tasks.lookup id = some task)
    (live' : proxy'.core.runtime.tasks.lookup id = some task') :
    task'.tunnelTarget = task.tunnelTarget := by
  cases moved with
  | core _ changed | dropped _ changed => exact changed.tunnelTarget sound live live'
  | unsupported _ settled | refused _ _ _ _ _ settled | opened _ settled | failed _ settled =>
      exact settled.target live live'
  | idle | called | connector | waits | obtained =>
      cases live.symm.trans live'
      rfl

/-- A tunnel is over what it was over before, or the session asks for it in this step. -/
theorem ProxyCore.Moves.carrier_cases (moved : proxy.Moves parse event outputs (some proxy'))
    (matched : proxy.Matched) {setUp : SetUp} (found : proxy'.setUps.lookup id = some setUp)
    (carried : setUp.carrier = some carrier) :
    (∃ old, proxy.setUps.lookup id = some old ∧ old.carrier = some carrier) ∨
    ((∃ task, proxy.core.runtime.tasks.lookup id = some task ∧
        .connectTunnel id carrier task.tunnelTarget ∈ outputs) ∧
      ((proxy.core.config.tunnelMode = .ok .tlsTcp ∧ carrier = .tlsTcp proxy.getTlstcpConnector.1) ∨
        ∃ call handle, proxy.setUps.lookup id = some (.handle call) ∧ carrier = .s2n handle ∧
          .manager (.returned call (.ok handle)) ∈ outputs ∧
          proxy'.connManager.s2nHandle = some handle)) := by
  cases moved with
  | idle | core | unsupported | waits => exact .inl ⟨setUp, found, carried⟩
  | dropped | refused | failed =>
      exact .inl ⟨setUp, (AList.lookup_erase_eq_some.mp found).2, carried⟩
  | called =>
      rcases AList.lookup_insert_eq_some.mp found with ⟨_, same⟩ | ⟨_, found⟩
      · cases same
        contradiction
      · exact .inl ⟨setUp, found, carried⟩
  | connector _ awaits mode =>
      rcases AList.lookup_insert_eq_some.mp found with ⟨rfl, same⟩ | ⟨_, found⟩
      · cases same
        cases carried
        obtain ⟨task, live, _⟩ := awaitsTunnel_iff.mp awaits
        refine .inr ⟨⟨task, live, ?_⟩, .inl ⟨mode, rfl⟩⟩
        simp [connectTunnel, getTlstcpConnector, live]
      · exact .inl ⟨setUp, found, carried⟩
  | @obtained _ _ _ call _ _ _ handle held mine lives stepped returned =>
      rcases AList.lookup_insert_eq_some.mp found with ⟨rfl, same⟩ | ⟨_, found⟩
      · cases same
        cases carried
        have step := ConnectionManager.step_moves stepped
        obtain ⟨pending, _⟩ | ⟨result, same, shown, _⟩ := step.call_cases mine lives
        · cases pending.symm.trans returned
        · cases same.symm.trans returned
          obtain ⟨task, live, _⟩ := matched.opens held rfl
          refine .inr ⟨⟨task, live, ?_⟩, .inr ⟨call, handle, held, rfl,
            List.mem_append_left _ (List.mem_map_of_mem shown), step.returns call handle shown⟩⟩
          simp [connectTunnel, live]
      · exact .inl ⟨setUp, found, carried⟩
  | opened held =>
      rcases AList.lookup_insert_eq_some.mp found with ⟨rfl, same⟩ | ⟨_, found⟩
      · cases same
        exact .inl ⟨_, held, carried⟩
      · exact .inl ⟨setUp, found, carried⟩

namespace ProxyCore.Sourced

theorem getTlstcpConnector (sourced : proxy.Sourced parse config history) :
    proxy.getTlstcpConnector.1 = config.tlsTcpConfig := by
  simp only [ProxyCore.getTlstcpConnector]
  cases made : proxy.tlstcpConnector with
  | none => exact congrArg AppConfig.tlsTcpConfig sourced.configured
  | some connector => exact sourced.connector made

theorem managed (sourced : proxy.Sourced parse config history) {e : CallEvent}
    {said : List CallOutput}
    (stepped : proxy.connManager.step parse e = (proxy'.connManager, said))
    (own : ∀ config', e = .call config' → config' = config)
    (shown : ∀ output ∈ said, .manager output ∈ outputs) :
    proxy'.connManager.Dials config
      (Dialled parse config (⟨some proxy, event, outputs, some proxy'⟩ :: history)) := by
  refine (sourced.dials.mono fun _ => Dialled.cons).step stepped own ?_
  intro id connection addr serverName connects
  obtain ⟨parsed, rfl, client⟩ := (sourced.dials.dial stepped).2 connects
  exact ⟨_, List.mem_cons_self, proxy', id, addr, rfl, client, parsed, shown _ connects⟩

theorem dials_step (sourced : proxy.Sourced parse config history)
    (moved : proxy.Moves parse event outputs (some proxy')) :
    proxy'.connManager.Dials config
      (Dialled parse config (⟨some proxy, event, outputs, some proxy'⟩ :: history)) := by
  have called : ∀ {e : CallEvent} {call}, e.caller = some call →
      ∀ config', e = .call config' → config' = config := by
    rintro e call caller config' rfl
    contradiction
  cases moved with
  | idle | core | dropped | unsupported | connector | opened | failed =>
      exact sourced.dials.mono fun _ => Dialled.cons
  | called =>
      refine sourced.managed (e := .call proxy.core.config) rfl ?_ (by simp)
      rintro _ ⟨⟩
      exact sourced.configured
  | waits _ mine _ stepped | refused _ mine _ stepped =>
      exact sourced.managed stepped (called mine) fun _ => List.mem_map_of_mem
  | obtained _ mine _ stepped =>
      exact sourced.managed stepped (called mine) fun _ shown =>
        List.mem_append_left _ (List.mem_map_of_mem shown)

theorem carriers_step (sourced : proxy.Sourced parse config history)
    (moved : proxy.Moves parse event outputs (some proxy')) (sound : Sound (Serves S) proxy.core)
    (matched : proxy.Matched) (matched' : proxy'.Matched) {setUp : SetUp}
    (found : proxy'.setUps.lookup id = some setUp) (carried : setUp.carrier = some carrier) :
    carrier.LeadsToServer parse config (⟨some proxy, event, outputs, some proxy'⟩ :: history) ∧
      ∃ task, proxy'.core.runtime.tasks.lookup id = some task ∧
        Said (.connectTunnel id carrier task.tunnelTarget)
          (⟨some proxy, event, outputs, some proxy'⟩ :: history) := by
  obtain ⟨task', live', _⟩ := matched'.aligned.opening found
  obtain ⟨old, held, before⟩ | ⟨⟨task, live, asked⟩, source⟩ :=
    moved.carrier_cases matched found carried
  · obtain ⟨leads, task, live, asked⟩ := sourced.carriers held before
    refine ⟨leads.cons, task', live', ?_⟩
    rw [moved.tunnelTarget sound live live']
    exact asked.cons
  · constructor
    · obtain ⟨mode, rfl⟩ | ⟨call, handle, held, rfl, returned, cached⟩ := source
      · exact ⟨sourced.configured ▸ mode, sourced.getTlstcpConnector⟩
      · exact ⟨sourced.mode held, (sourced.dials_step moved).cached cached, call, _,
          List.mem_cons_self, returned⟩
    · refine ⟨task', live', _, List.mem_cons_self, ?_⟩
      rwa [moved.tunnelTarget sound live live']

theorem step (sourced : proxy.Sourced parse config history)
    (moved : proxy.Moves parse event outputs (some proxy')) (sound : Sound (Serves S) proxy.core)
    (matched : proxy.Matched) (matched' : proxy'.Matched) :
    proxy'.Sourced parse config (⟨some proxy, event, outputs, some proxy'⟩ :: history) := by
  refine ⟨?_, sourced.dials_step moved, ?_, ?_, ?_⟩
  · cases moved with
    | core _ changed | dropped _ changed => exact changed.config_eq.trans sourced.configured
    | idle | unsupported | called | connector | waits | obtained | refused | opened | failed =>
        exact sourced.configured
  · intro connector made
    cases moved with
    | connector =>
        cases made
        exact sourced.getTlstcpConnector
    | idle | core | dropped | unsupported | called | waits | obtained | refused | opened | failed =>
        exact sourced.connector made
  · intro id call held
    cases moved with
    | idle | core | unsupported | waits => exact sourced.mode held
    | dropped | refused | failed => exact sourced.mode (AList.lookup_erase_eq_some.mp held).2
    | called _ _ mode => exact sourced.configured ▸ mode
    | connector | obtained | opened =>
        rcases AList.lookup_insert_eq_some.mp held with ⟨_, same⟩ | ⟨_, held⟩
        · cases same
        · exact sourced.mode held
  · intro id setUp carrier found carried
    exact sourced.carriers_step moved sound matched matched' found carried

end ProxyCore.Sourced

theorem ProxyCore.new_sourced (created : ProxyCore.new S config = .ok proxy) :
    proxy.Sourced parse config [] := by
  unfold new at created
  cases started : CoreContext.new S config with
  | error panic =>
      rw [started] at created
      contradiction
  | ok ctx =>
      rw [started] at created
      cases created
      refine ⟨?_, ConnectionManager.new_dials, by simp, by simp, by simp⟩
      unfold CoreContext.new at started
      obtain ⟨engine, _, same⟩ := bind_eq_ok started
      cases same
      rfl

theorem ProxyRun.sound (api : S.ApiLaws) (poll : S.PollLaws)
    (run : ProxyRun S parse config history (some proxy)) : Sound (Serves S) proxy.core := by
  obtain ⟨cores, cored, _⟩ := (run.refines_matched api poll).1.core
  exact cored.sound api poll (serves_stable api) _ rfl

theorem ProxyRun.moves (api : S.ApiLaws) (poll : S.PollLaws)
    (run : ProxyRun S parse config history (some proxy))
    (stepped : ProxyHandle.step parse (some proxy) event = .ok (handle, outputs)) :
    proxy.Moves parse event outputs handle :=
  ProxyCore.step_moves api (run.sound api poll) ((run.refines_matched api poll).2 _ rfl) stepped

theorem ProxyRun.sourced (api : S.ApiLaws) (poll : S.PollLaws)
    (run : ProxyRun S parse config history (some proxy)) :
    proxy.Sourced parse config history := by
  obtain ⟨first, created, path⟩ := run
  refine path.history_invariant (P := fun history handle =>
    ∀ proxy, handle = some proxy → proxy.Sourced parse config history) ?_ ?_ proxy rfl
  · rintro _ ⟨⟩
    exact ProxyCore.new_sourced created
  · rintro history before event outputs _ earlier sourced stepped proxy' rfl
    cases before with
    | none => cases stepped
    | some proxy =>
        have run : ProxyRun S parse config history (some proxy) := ⟨first, created, earlier⟩
        have next : ProxyRun S parse config _ (some proxy') := ⟨first, created, earlier.next stepped⟩
        exact (sourced proxy rfl).step (run.moves api poll stepped) (run.sound api poll)
          ((run.refines_matched api poll).2 _ rfl) ((next.refines_matched api poll).2 _ rfl)

/-- Only a session that carries data streams what it has read, to its target. -/
theorem Change.streams_relaying {ctx ctx' : CoreContext S} {event : Event} {outputs : List Output}
    {isDirect : Bool} {target : SocketAddr} {bytes : Bytes}
    (changed : Change ctx event outputs ctx')
    (called : .streamed id isDirect target bytes ∈ outputs) :
    ∃ task, ctx.runtime.tasks.lookup id = some task ∧ task.isDirect = isDirect ∧
      task.relays = true ∧ task.tunnelTarget = some target := by
  cases changed with
  | control | ignored | absent | mismatched | alive | tcpDropped | udpDropped => simp at called
  | packet _ _ intercepted =>
      obtain ⟨_, same⟩ | ⟨_, _, _, same⟩ | ⟨_, same⟩ := intercepted.output_cases called <;>
        contradiction
  | udp _ _ turn =>
      cases turn <;> simp [UdpSession.forwarded] at called
      split at called <;> simp at called
  | @tcp _ session _ _ _ _ _ _ found _ turn =>
      obtain ⟨stream, direct, goal, phase⟩ := session
      cases turn with
      | idle | opened | eof | wrote | shutdown | succeeded | failed => simp at called
      | read copying =>
          simp only [List.mem_singleton, Output.streamed.injEq] at called
          obtain ⟨rfl, rfl, rfl, rfl⟩ := called
          cases copying
          exact ⟨_, found, rfl, rfl, rfl⟩

theorem Change.sends_relaying {ctx ctx' : CoreContext S} {event : Event} {outputs : List Output}
    {payload : Bytes} {addr : SocketAddr} (changed : Change ctx event outputs ctx')
    (called : .tunnelSend id payload addr ∈ outputs) :
    ∃ task, ctx.runtime.tasks.lookup id = some task ∧ task.isDirect = false ∧
      task.relays = true ∧ task.tunnelTarget = none := by
  obtain ⟨⟨socket, src, target, direct, phase⟩, _, _, _, live, proxied, running⟩ :=
    changed.tunnelSend called
  cases running
  exact ⟨_, live, proxied, rfl, rfl⟩

/-- The tunnel of the session is up. It was asked for with this target, and leads to the
server. -/
def HasTunnel (parse : String → Except String SocketAddr) (config : AppConfig)
    (history : ProxyHistory S) (handle : ProxyHandle S) (id : TaskId)
    (target : Option SocketAddr) : Prop :=
  ∃ proxy carrier, handle = some proxy ∧ proxy.setUps.lookup id = some (.done carrier) ∧
    Said (.connectTunnel id carrier target) history ∧
    carrier.LeadsToServer parse config history

/-- The data that a step hands on for a proxied session goes through its tunnel, and nothing of it
goes out directly; only proxied sessions ask for tunnels, each for its own target, which is
public. -/
structure ThroughTunnel (parse : String → Except String SocketAddr) (config : AppConfig)
    (x : Runs.Transition (ProxyHandle S) ProxyEvent (List ProxyOutput))
    (earlier : ProxyHistory S) : Prop where
  streamed : ∀ id target bytes, .core (.streamed id false target bytes) ∈ x.output →
    HasTunnel parse config earlier x.before id (some target)
  sent : ∀ id payload addr, .core (.tunnelSend id payload addr) ∈ x.output →
    HasTunnel parse config earlier x.before id none
  indirect : ∀ proxy id task, x.before = some proxy →
    proxy.core.runtime.tasks.lookup id = some task → task.isDirect = false →
    (∀ target payload, .core (.outboundSend id target payload) ∉ x.output) ∧
      ∀ target bytes, .core (.streamed id true target bytes) ∉ x.output
  asked : ∀ id carrier target, .connectTunnel id carrier target ∈ x.output →
    carrier.LeadsToServer parse config (x :: earlier) ∧
      ∃ proxy task, x.before = some proxy ∧
        proxy.core.runtime.tasks.lookup id = some task ∧ task.isDirect = false ∧
        task.isOpening = true ∧ task.tunnelTarget = target ∧
        ∀ addr port, target = some (.v4 addr port) → isPrivateV4 addr = false

theorem Sound.tunnelTarget_public {ctx : CoreContext S} (sound : Sound (Serves S) ctx) {task : Task}
    (live : ctx.runtime.tasks.lookup id = some task) (proxied : task.isDirect = false)
    {addr : Ipv4Address} {port : UInt16} (target : task.tunnelTarget = some (.v4 addr port)) :
    isPrivateV4 addr = false := by
  obtain ⟨socket, _, related⟩ := sound.owned.serves id task live
  cases task with
  | udp session => contradiction
  | tcp session =>
      cases socket with
      | udp u => exact related.elim
      | tcp t =>
          obtain ⟨⟨dst, _, _, bound, mode, _⟩, _⟩ := related
          cases bound.symm.trans (Option.some.inj target)
          exact mode.symm.trans proxied

theorem ProxyCore.Moves.said (moved : proxy.Moves parse event outputs handle) {output : Output}
    (shown : .core output ∈ outputs) :
    ∃ e said core, Change proxy.core e said core ∧ output ∈ said := by
  cases moved with
  | @core e said core _ changed =>
      obtain ⟨_, member, ⟨⟩⟩ := List.mem_map.mp shown
      exact ⟨e, said, core, changed, member⟩
  | idle | stopped | dropped | unsupported | called | connector | waits | obtained | refused |
      opened | failed => simp [connectTunnel] at shown

theorem ProxyCore.Moves.asked (moved : proxy.Moves parse event outputs handle)
    (matched : proxy.Matched) {target : Option SocketAddr}
    (shown : .connectTunnel id carrier target ∈ outputs) :
    ∃ proxy' task, handle = some proxy' ∧ proxy'.setUps.lookup id = some (.tunnel carrier) ∧
      proxy.core.runtime.tasks.lookup id = some task ∧ task.isDirect = false ∧
      task.isOpening = true ∧ task.tunnelTarget = target := by
  cases moved with
  | connector _ awaits =>
      obtain ⟨task, live, proxied, opening⟩ := awaitsTunnel_iff.mp awaits
      simp only [connectTunnel, getTlstcpConnector, live, Option.bind_some, List.mem_singleton,
        ProxyOutput.connectTunnel.injEq] at shown
      obtain ⟨rfl, rfl, rfl⟩ := shown
      exact ⟨_, task, rfl, AList.lookup_insert _, live, proxied, opening, rfl⟩
  | obtained found =>
      obtain ⟨task, live, proxied, opening⟩ := matched.opens found rfl
      simp only [connectTunnel, live, Option.bind_some, List.mem_append, List.mem_map, reduceCtorEq,
        and_false, exists_false, false_or, List.mem_singleton,
        ProxyOutput.connectTunnel.injEq] at shown
      obtain ⟨rfl, rfl, rfl⟩ := shown
      exact ⟨_, task, rfl, AList.lookup_insert _, live, proxied, opening, rfl⟩
  | idle | stopped | core | dropped | unsupported | called | waits | refused | opened | failed =>
      simp at shown

/-- A proxied session that hands data on has its tunnel. -/
theorem ProxyRun.hasTunnel (api : S.ApiLaws) (poll : S.PollLaws)
    (run : ProxyRun S parse config history (some proxy)) {task : Task}
    (live : proxy.core.runtime.tasks.lookup id = some task) (proxied : task.isDirect = false)
    (relays : task.relays = true) :
    HasTunnel parse config history (some proxy) id task.tunnelTarget := by
  have matched := (run.refines_matched api poll).2 _ rfl
  obtain ⟨carrier, up⟩ := matched.aligned.relaying live proxied relays
  obtain ⟨leads, other, live', asked⟩ := (run.sourced api poll).carriers up rfl
  cases live.symm.trans live'
  exact ⟨proxy, carrier, rfl, up, asked, leads⟩

/-- In every run the data of proxied sessions goes through tunnels to the server of the
configuration. -/
theorem proxied_data_to_server (api : S.ApiLaws) (poll : S.PollLaws)
    (run : ProxyRun S parse config history handle) :
    Runs.Throughout (ThroughTunnel parse config) history := by
  obtain ⟨first, created, path⟩ := run
  refine path.throughout ?_
  rintro ⟨before, event, outputs, after⟩ earlier _ path stepped
  cases before with
  | none =>
      cases stepped
      constructor <;> simp
  | some proxy =>
      have run : ProxyRun S parse config earlier (some proxy) := ⟨first, created, path⟩
      have moved := run.moves api poll stepped
      have matched := (run.refines_matched api poll).2 _ rfl
      constructor
      · intro id target bytes shown
        obtain ⟨_, _, _, changed, said⟩ := moved.said shown
        obtain ⟨task, live, proxied, relays, goal⟩ := changed.streams_relaying said
        exact goal ▸ run.hasTunnel api poll live proxied relays
      · intro id payload addr shown
        obtain ⟨_, _, _, changed, said⟩ := moved.said shown
        obtain ⟨task, live, proxied, relays, goal⟩ := changed.sends_relaying said
        exact goal ▸ run.hasTunnel api poll live proxied relays
      · rintro _ id task ⟨⟩ live proxied
        constructor
        · intro target payload shown
          obtain ⟨_, _, _, changed, said⟩ := moved.said shown
          obtain ⟨session, _, _, _, live', direct, _⟩ := changed.outboundSend said
          cases live.symm.trans live'
          exact Bool.false_ne_true (proxied.symm.trans direct)
        · intro target bytes shown
          obtain ⟨_, _, _, changed, said⟩ := moved.said shown
          obtain ⟨_, live', direct, _⟩ := changed.streams_relaying said
          cases live.symm.trans live'
          exact Bool.false_ne_true (proxied.symm.trans direct)
      · intro id carrier target shown
        obtain ⟨proxy', task, rfl, asks, live, proxied, opening, goal⟩ := moved.asked matched shown
        have next : ProxyRun S parse config _ (some proxy') := ⟨first, created, path.next stepped⟩
        refine ⟨((next.sourced api poll).carriers asks rfl).1, proxy, task, rfl, live, proxied,
          opening, goal, ?_⟩
        rintro addr port rfl
        exact (run.sound api poll).tunnelTarget_public live proxied goal

/-- A broadcast of the first client leaves through its tunnel. -/
theorem proxied_data_to_server_broadcast : ∃ x earlier proxy,
    ProxyRun Reference.stack localServer quicConfig (x :: earlier) (some proxy) ∧
      x.output = [.core (.tunnelSend 0 [3] (.v4 hostAddr 5000))] ∧
      HasTunnel localServer quicConfig earlier x.before 0 none := by
  obtain ⟨history, proxy, run, checked⟩ := ProxyCore.replay_run Reference.stack localServer
    quicConfig (overOneConnection ++ [
      .core (.processPacket (some (Wire.udpFrame hostAddr ⟨192, 168, 1, 255⟩ 5000 137 [3])) 3),
      .core (.task 0 (.inr (.pollRecvFrom 3))), .core (.task 0 (.inr (.sent (.ok ()))))])
    (fun history _ => history.head?.any fun x =>
      x.output == [.core (.tunnelSend 0 [3] (.v4 hostAddr 5000))]) (by decide +kernel)
  cases history with
  | nil => contradiction
  | cons x earlier =>
      have said := beq_iff_eq.mp checked
      have through := (proxied_data_to_server Reference.api Reference.poll_laws run).1
      exact ⟨x, earlier, proxy, run, said, through.sent 0 [3] _ (said ▸ List.mem_cons_self)⟩

open Reordering in
/-- What the manager has said in its own run it has said in the run of the core. -/
theorem Refines.said_iff {calls : CallHistory}
    (said : outputsOf calls = (outputsOf history).filterMap ProxyOutput.ofManager)
    (output : CallOutput) :
    (∃ x ∈ calls, output ∈ x.output) ↔ Said (.manager output) history := by
  rw [← mem_outputsOf, said, List.mem_filterMap]
  constructor
  · rintro ⟨shown, member, same⟩
    cases shown with
    | manager output' =>
        cases same
        exact mem_outputsOf.mp member
    | core | connectTunnel => contradiction
  · intro shown
    exact ⟨_, mem_outputsOf.mpr shown, rfl⟩

/-- In every state that is reached two tunnels are over one connection, unless one of the two
connections has failed a check. -/
theorem ProxyRun.connections_shared (api : S.ApiLaws) (poll : S.PollLaws)
    (run : ProxyRun S parse config history (some proxy)) :
    ∀ id id' setUp setUp' handle handle', proxy.setUps.lookup id = some setUp →
      setUp.carrier = some (.s2n handle) → proxy.setUps.lookup id' = some setUp' →
      setUp'.carrier = some (.s2n handle') → handle.connection = handle'.connection ∨
        ∃ call error, Said (.manager (.checked call handle (.error error))) history ∨
          Said (.manager (.checked call handle' (.error error))) history := by
  intro id id' setUp setUp' handle handle' found carried found' carried'
  have sourced := run.sourced api poll
  obtain ⟨⟨_, _, call, returned⟩, _⟩ := sourced.carriers found carried
  obtain ⟨⟨_, _, call', returned'⟩, _⟩ := sourced.carriers found' carried'
  obtain ⟨calls, manager, managed, _, said⟩ := (run.refines_matched api poll).1.manager
  have failed : ∀ handle, CheckFailed handle calls →
      ∃ call error, Said (.manager (.checked call handle (.error error))) history := by
    rintro handle ⟨x, taken, call, error, shown⟩
    exact ⟨call, error, (Refines.said_iff said _).mp ⟨x, taken, shown⟩⟩
  have returns : ∀ {call handle}, Said (.manager (.returned call (.ok handle))) history →
      Returned handle calls := by
    intro call handle shown
    obtain ⟨x, taken, shown⟩ := (Refines.said_iff said _).mpr shown
    exact ⟨x, taken, call, shown⟩
  cases held : manager.s2nHandle with
  | none => exact absurd (returns returned) (managed.shared.none_returned held handle)
  | some cached =>
      obtain rfl | before := managed.shared.superseded cached held handle (returns returned)
      · obtain rfl | before' := managed.shared.superseded _ held handle' (returns returned')
        · exact .inl rfl
        · obtain ⟨call, error, shown⟩ := failed _ before'.checkFailed
          exact .inr ⟨call, error, .inr shown⟩
      · obtain ⟨call, error, shown⟩ := failed _ before.checkFailed
        exact .inr ⟨call, error, .inl shown⟩

/-- The connection of two tunnels fails its check, and a third one is over another. -/
theorem connections_shared_reconnected : ∃ history proxy,
    ProxyRun Reference.stack localServer quicConfig history (some proxy) ∧
      proxy.setUps.lookup 1 = some (.done (.s2n ⟨0⟩)) ∧
      proxy.setUps.lookup 2 = some (.done (.s2n ⟨1⟩)) ∧
      (0 = 1 ∨ ∃ call error, Said (.manager (.checked call ⟨0⟩ (.error error))) history ∨
        Said (.manager (.checked call ⟨1⟩ (.error error))) history) := by
  obtain ⟨history, proxy, run, checked⟩ := ProxyCore.replay_run Reference.stack localServer
    quicConfig (overOneConnection ++ [
      .core (.processPacket (some (Wire.udpFrame hostAddr ⟨9, 9, 9, 9⟩ 5002 139 [3])) 3),
      .setUp 2 3 .begin, .setUp 2 3 (.locked (.error "closed")), .setUp 2 3 (.clientCreated (.ok ())),
      .setUp 2 4 (.connected (.ok (.ok ()))), .setUp 2 4 (.tunnelConnected (.ok ()))])
    (fun _ proxy => proxy.setUps.lookup 1 == some (.done (.s2n ⟨0⟩)) &&
      proxy.setUps.lookup 2 == some (.done (.s2n ⟨1⟩))) (by decide +kernel)
  simp only [Bool.and_eq_true, beq_iff_eq] at checked
  exact ⟨history, proxy, run, checked.1, checked.2,
    run.connections_shared Reference.api Reference.poll_laws 1 2 _ _ ⟨0⟩ ⟨1⟩ checked.1 rfl
      checked.2 rfl⟩

end

end StunnelIos
