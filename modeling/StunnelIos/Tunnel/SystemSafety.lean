import StunnelIos.Core.Callbacks
import StunnelIos.Core.Scheduling
import StunnelIos.Tunnel.StoppedCore
import StunnelIos.Tunnel.System

/-! The pointers of the extension's process. The calls for the life of a core are always
made with a core that is alive, and every core of the process makes a run of its own. -/
namespace StunnelIos
variable {S : Smoltcp}

/-- What the provider can rely on of a core. -/
def statusOf : Option (Handle S) → CoreStatus
  | none => .unmade
  | some none => .freed
  | some (some ctx) => .alive (ctx.registered.map fun registered => contextOf registered.2)

def System.resources (system : System S) : Resources :=
  ⟨system.tunnel.provider, fun k => statusOf (system.cores k), system.bridges⟩

/-- The process at any moment, also in the middle of a call. -/
structure WellKept (single : Prop) (system : System S) : Prop where
  control : Commands.Safe (Resources.Needs single) Resources.next (Resources.Idle single)
    system.tunnel.control system.resources
  sound : ∀ k handle, system.cores k = some handle → Handle.Sound (Serves S) handle
  calls : single → system.resources.CallsBack
  /-- A handle that the provider or its read loop has was given to it by `stunnel_create`. -/
  made : ∀ k, system.tunnel.provider.rustHandle = some k ∨
    (∃ id handler, system.tunnel.handlers.lookup id = some handler ∧ handler.handle = k) →
      system.cores k ≠ none

section
variable {single clean : Prop} {system system' : System S} {k : CoreHandle} {ctx : CoreContext S}
  {outputs : List Output} {event : Event}

theorem statusOf_eq_alive {core : Option (Handle S)} {callback : Option (Option BridgeContext)} :
    statusOf core = .alive callback ↔ ∃ ctx, core = some (some ctx) ∧
      ctx.registered.map (fun registered => contextOf registered.2) = callback := by
  rcases core with _ | _ | ctx <;> simp [statusOf]

theorem statusOf_eq_unmade {core : Option (Handle S)} : statusOf core = .unmade ↔ core = none := by
  rcases core with _ | _ | ctx <;> simp [statusOf]

/-- A call with a core that is alive: it panics, or calls back with a context that the core
has registered. -/
theorem System.call_cases (alive : system.cores k = some (some ctx)) :
    (∃ panic, system.call k event = .error (.panic panic)) ∨
    ∃ handle outputs, Handle.Steps (some ctx) event outputs handle ∧
      ((∃ bridge, system.dangling outputs = some bridge ∧
          system.call k event = .error (.danglingBridge bridge)) ∨
        (system.dangling outputs = none ∧ system.call k event = .ok ({ system with
          cores := fun j => if j = k then some handle else system.cores j }, outputs))) := by
  simp only [System.call, alive]
  cases stepped : Handle.step (some ctx) event with
  | error panic => exact .inl ⟨panic, rfl⟩
  | ok result =>
      obtain ⟨handle, outputs⟩ := result
      refine .inr ⟨handle, outputs, stepped, ?_⟩
      cases dangles : system.dangling outputs with
      | some bridge => exact .inl ⟨bridge, rfl, by simp only [dangles]⟩
      | none => exact .inr ⟨rfl, by simp only [dangles]⟩

/-- Without a released bridge nothing dangles. -/
theorem System.not_dangling (api : S.ApiLaws) (calls : system.resources.CallsBack)
    (sound : Sound (Serves S) ctx) (alive : system.cores k = some (some ctx))
    {handle : Handle S} (stepped : Handle.Steps (some ctx) event outputs handle) :
    system.dangling outputs = none := by
  rw [System.dangling, List.find?_eq_none]
  intro bridge called
  obtain ⟨output, said, context⟩ := List.mem_filterMap.mp called
  cases output with
  | callback callback pointer packet =>
      have registered := sound.called_back api stepped said
      have status : system.resources.core k = .alive (some (some bridge)) := by
        refine statusOf_eq_alive.mpr ⟨ctx, alive, ?_⟩
        rw [registered]
        exact congrArg some context
      simp [show system.bridges bridge = true from calls k bridge status]
  | wake | spawned | streamed | written | shutdown | outboundSend | tunnelSend | enqueued =>
      cases context

theorem System.session_not_dangling (api : S.ApiLaws) (sound : Sound (Serves S) ctx)
    {handle : Handle S} {id : TaskId} (own : event.session = some id)
    (stepped : Handle.Steps (some ctx) event outputs handle) : system.dangling outputs = none := by
  obtain ⟨move, _, mine, moved⟩ := sound.session_move api own
  cases (moved ctx sound ⟨rfl, rfl, fun _ _ => rfl⟩).symm.trans stepped
  rw [System.dangling, List.find?_eq_none]
  intro bridge called
  obtain ⟨output, said, context⟩ := List.mem_filterMap.mp called
  have owner := mine output said
  cases output with
  | callback => cases owner
  | wake | spawned | streamed | written | shutdown | outboundSend | tunnelSend | enqueued =>
      cases context

theorem Sound.control_outputs (api : S.ApiLaws) (sound : Sound (Serves S) ctx) {handle : Handle S}
    (control : event.isControl = true ∨ event = .stop)
    (stepped : Handle.Steps (some ctx) event outputs handle) : outputs = [] := by
  obtain ⟨_, _, rfl⟩ | ⟨_, _, changed⟩ := step_change api (serves_stable api) sound stepped
  · rfl
  · cases changed with
    | control | ignored | absent | mismatched | alive | tcpDropped | udpDropped => rfl
    | packet | tcp | udp => simp [Event.isControl] at control

theorem System.control_call (api : S.ApiLaws)
    (sound : ∀ k handle, system.cores k = some handle → Handle.Sound (Serves S) handle)
    (alive : system.cores k = some (some ctx)) (control : event.isControl = true ∨ event = .stop) :
    (∃ panic, system.call k event = .error (.panic panic)) ∨
    ∃ handle, Handle.Steps (some ctx) event [] handle ∧ system.call k event = .ok ({ system with
      cores := fun j => if j = k then some handle else system.cores j }, []) := by
  obtain panicked | ⟨handle, outputs, stepped, outcome⟩ := system.call_cases alive
  · exact .inl panicked
  · obtain rfl := (sound k _ alive ctx rfl).control_outputs api control stepped
    obtain ⟨_, dangles, _⟩ | ⟨_, returned⟩ := outcome
    · cases dangles
    · exact .inr ⟨handle, stepped, returned⟩

theorem Sound.statusOf_after (api : S.ApiLaws) (sound : Sound (Serves S) ctx) {handle : Handle S}
    (stepped : Handle.Steps (some ctx) event outputs handle) :
    statusOf (some handle) = if event = .stop then .freed else
      .alive ((event.registers ctx.registered).map fun registered => contextOf registered.2) := by
  cases handle with
  | none =>
      obtain ⟨rfl, _⟩ | ⟨_, absent, _⟩ := step_change api (serves_stable api) sound stepped
      · rfl
      · cases absent
  | some ctx' =>
      rw [if_neg (by rintro rfl; cases stepped), statusOf, sound.registers api stepped]

/-- A call that returns has done this to what the pointers stand for, and one that does
not return has not met a dangling pointer, if the pointers were clean. -/
inductive Performed (clean : Prop) (system : System S) (resources : Resources) :
    Except Halt (System S × List Output) → Prop where
  | returned {after outputs} : after.tunnel = system.tunnel → after.resources = resources →
      (∀ k handle, after.cores k = some handle → Handle.Sound (Serves S) handle) →
      Performed clean system resources (.ok (after, outputs))
  | halted {halt} : (clean → halt.isDangling = false) → Performed clean system resources (.error halt)

theorem System.resources_of_core {core : Option (Handle S)} :
    ({ system with cores := fun j => if j = k then core else system.cores j } : System S).resources =
      system.resources.setCore k (statusOf core) := by
  simp only [System.resources, Resources.setCore, Resources.mk.injEq, true_and, and_true]
  funext j
  split <;> rfl

theorem Resources.setCore_self {resources : Resources} {status : CoreStatus}
    (same : resources.core k = status) : resources.setCore k status = resources := by
  obtain ⟨provider, core, retained⟩ := resources
  simp only [Resources.setCore, Resources.mk.injEq, true_and, and_true]
  funext j
  split
  · subst j
    exact same.symm
  · rfl

theorem System.control_performed (api : S.ApiLaws) (poll : S.PollLaws)
    (sound : ∀ k handle, system.cores k = some handle → Handle.Sound (Serves S) handle)
    (alive : system.cores k = some (some ctx)) (event : Event)
    (control : event.isControl = true ∨ event = .stop) :
    Performed clean system (system.resources.setCore k (if event = .stop then .freed else
      .alive ((event.registers ctx.registered).map fun registered => contextOf registered.2)))
      (system.call k event) := by
  obtain ⟨_, panicked⟩ | ⟨handle, stepped, returned⟩ := system.control_call api sound alive control
  · rw [panicked]
    exact .halted fun _ => rfl
  · rw [returned]
    refine .returned rfl ?_ fun j other found => ?_
    · rw [System.resources_of_core, (sound k _ alive ctx rfl).statusOf_after api stepped]
    · dsimp only at found
      split at found
      · cases found
        exact Handle.Steps.sound api poll (serves_stable api) (sound k _ alive) stepped
      · exact sound j other found

/-- What an action needs is what its calls need, and the calls do what the action does. -/
theorem System.perform_action (api : S.ApiLaws) (poll : S.PollLaws)
    {fromStr : String → Except String AppConfig} {now : Instant}
    (sound : ∀ k handle, system.cores k = some handle → Handle.Sound (Serves S) handle)
    {action : TunnelAction} (needs : system.resources.Needs single action) :
    Performed clean system (system.resources.change action)
      (system.perform fromStr now (.action action)) := by
  cases action with
  | startTunnel | stopTunnel | settingsCompleted | setRustHandle | setTunnelNetworkSettings
  | readPackets | completeStart | completeStop => exact .returned rfl rfl sound
  | retainBridge bridge => exact .returned rfl rfl sound
  | releaseBridge bridge =>
      have retained : system.bridges bridge = true := needs.1
      simp only [System.perform, retained, if_true]
      exact .returned rfl rfl sound
  | create handle configJson =>
      simp only [System.perform]
      cases created : stunnelCreate S fromStr (some configJson) with
      | error panic => exact .halted fun _ => rfl
      | ok core =>
          cases core with
          | none =>
              cases handle with
              | none => exact .returned rfl rfl sound
              | some => exact .halted fun _ => rfl
          | some ctx =>
              cases handle with
              | none => exact .halted fun _ => rfl
              | some handle =>
                  obtain ⟨config, run⟩ := stunnelCreate_run created
                  refine .returned rfl ?_ fun j other found => ?_
                  · rw [System.resources_of_core, statusOf, run.registered api poll]
                    rfl
                  · dsimp only at found
                    split at found
                    · cases found
                      exact run.sound api poll (serves_stable api)
                    · exact sound j other found
  | setPacketCallback handle context =>
      obtain ⟨⟨_, status⟩, _⟩ := needs
      obtain ⟨ctx, alive, _⟩ := statusOf_eq_alive.mp status
      have performed : Performed clean system _ _ := system.control_performed api poll sound alive
        (.setPacketCallback (contextPointer context) packetFlowCallback) (.inl rfl)
      simp only [Event.registers, reduceCtorEq, if_false, Option.map_some,
        contextOf_contextPointer] at performed
      exact performed
  | clearPacketCallback handle =>
      obtain ⟨_, status⟩ := needs
      obtain ⟨ctx, alive, _⟩ := statusOf_eq_alive.mp status
      exact system.control_performed api poll sound alive .clearPacketCallback (.inl rfl)
  | stop handle =>
      obtain ⟨_, status⟩ := needs
      obtain ⟨ctx, alive, _⟩ := statusOf_eq_alive.mp status
      exact system.control_performed api poll sound alive .stop (.inr rfl)
  | start handle started =>
      obtain ⟨_, status⟩ := needs
      obtain ⟨ctx, alive, registered⟩ := statusOf_eq_alive.mp status
      have performed : Performed clean system _ _ :=
        system.control_performed api poll sound alive .start (.inl rfl)
      have same : system.resources.setCore handle (.alive ((Event.registers .start
          ctx.registered).map fun registered => contextOf registered.2)) = system.resources := by
        refine Resources.setCore_self ?_
        exact (congrArg statusOf alive).trans rfl
      simp only [reduceCtorEq, if_false, same] at performed
      simp only [System.perform]
      generalize system.call handle .start = result at performed ⊢
      cases performed with
      | halted clean => exact .halted clean
      | returned tunnel resources sound =>
          dsimp only
          split
          · exact .returned tunnel resources sound
          · exact .halted fun _ => rfl

/-- A packet, or a step of a session, leaves what the pointers stand for as it is. -/
theorem System.quiet_performed (api : S.ApiLaws) (poll : S.PollLaws)
    (sound : ∀ k handle, system.cores k = some handle → Handle.Sound (Serves S) handle)
    (alive : system.cores k = some (some ctx))
    (silent : clean → ∀ handle outputs, Handle.Steps (some ctx) event outputs handle →
      system.dangling outputs = none)
    (quiet : event.isControl = false) (running : event ≠ .stop) :
    Performed clean system system.resources (system.call k event) := by
  have here := sound k _ alive ctx rfl
  obtain ⟨_, panicked⟩ | ⟨handle, outputs, stepped, ⟨bridge, dangles, halted⟩ | ⟨_, returned⟩⟩ :=
    @System.call_cases S system k ctx event alive
  · rw [panicked]
    exact .halted fun _ => rfl
  · rw [halted]
    refine .halted fun good => ?_
    cases dangles.symm.trans (silent good handle outputs stepped)
  · rw [returned]
    obtain ⟨rfl, _⟩ | ⟨ctx', rfl, changed⟩ := step_change api (serves_stable api) here stepped
    · exact absurd rfl running
    refine .returned rfl ?_ fun j other found => ?_
    · rw [System.resources_of_core]
      refine Resources.setCore_self ?_
      simp only [System.resources, alive, statusOf, changed.keeps_callback quiet]
    · dsimp only at found
      split at found
      · cases found
        exact Handle.Steps.sound api poll (serves_stable api) (sound k _ alive) stepped
      · exact sound j other found

variable {fromStr : String → Except String AppConfig} {now : Instant} {tunnel : PacketTunnel}
  {action : TunnelAction} {rest : List TunnelAction} {output : SystemOutput}

theorem Resources.needs_of_provider {resources : Resources} {provider : PacketTunnelProvider} :
    Resources.Needs single { resources with provider := provider } action ↔
      resources.Needs single action := by
  cases action with
  | create handle | setRustHandle handle => cases handle <;> rfl
  | startTunnel | stopTunnel | settingsCompleted | retainBridge | releaseBridge | setPacketCallback
  | start | clearPacketCallback | stop | setTunnelNetworkSettings | readPackets | completeStart
  | completeStop => rfl

theorem Resources.change_of_provider {resources : Resources} {provider : PacketTunnelProvider} :
    Resources.change { resources with provider := provider } action =
      { resources.change action with provider := provider } := by
  cases action with
  | create handle => cases handle <;> rfl
  | startTunnel | stopTunnel | settingsCompleted | setRustHandle | retainBridge | releaseBridge
  | setPacketCallback | start | clearPacketCallback | stop | setTunnelNetworkSettings | readPackets
  | completeStart | completeStop => rfl

theorem WellKept.performs (api : S.ApiLaws) (poll : S.PollLaws) (kept : WellKept single system)
    (needs : system.resources.Needs single action) (provider :
      tunnel.provider = system.tunnel.provider.apply action) :
    Performed clean { system with tunnel := tunnel } (system.resources.next action)
      (System.perform fromStr now { system with tunnel := tunnel } (.action action)) := by
  have same : ({ system with tunnel := tunnel } : System S).resources =
      { system.resources with provider := system.tunnel.provider.apply action } := by
    rw [← provider]
    rfl
  have performed : Performed clean { system with tunnel := tunnel } _
      (System.perform fromStr now { system with tunnel := tunnel } (.action action)) :=
    @System.perform_action S single clean { system with tunnel := tunnel } api poll fromStr now
      kept.sound action (same ▸ Resources.needs_of_provider.mpr needs)
  rw [same, Resources.change_of_provider] at performed
  exact performed

theorem WellKept.advanced (kept : WellKept single system)
    (safe : Commands.Safe (Resources.Needs single) Resources.next (Resources.Idle single)
      (action :: rest) system.resources) {after : System S}
    (tunnel : after.tunnel = { system.tunnel with control := rest }.perform action)
    (resources : after.resources = system.resources.next action)
    (sound : ∀ k handle, after.cores k = some handle → Handle.Sound (Serves S) handle) :
    WellKept single after := by
  obtain ⟨needs, left⟩ := safe
  have made : ∀ k, system.cores k ≠ none → after.cores k ≠ none := by
    intro k before
    have status : system.resources.core k ≠ .unmade := mt statusOf_eq_unmade.mp before
    have later := Resources.next_core_ne_unmade status action
    rw [← resources] at later
    exact mt statusOf_eq_unmade.mpr later
  refine ⟨?_, sound, fun one => ?_, fun k held => ?_⟩
  · rw [tunnel, resources]
    exact left
  · rw [resources]
    exact (kept.calls one).next one needs
  · rw [tunnel] at held
    rcases held with handle | read
    · cases action with
      | setRustHandle published =>
          cases handle
          obtain ⟨_, status⟩ := needs
          obtain ⟨ctx, alive, _⟩ := statusOf_eq_alive.mp status
          exact made k (by simp [alive])
      | startTunnel | stopTunnel | settingsCompleted | retainBridge | releaseBridge | create
      | setPacketCallback | start | clearPacketCallback | stop | setTunnelNetworkSettings
      | readPackets | completeStart | completeStop => exact made k (kept.made k (.inl handle))
    · exact made k (kept.made k (.inr read))

/-- Nothing has happened but for the read loop, and perhaps in one core. -/
theorem WellKept.beside (kept : WellKept single system) {after : System S}
    (provider : after.tunnel.provider = system.tunnel.provider)
    (control : after.tunnel.control = system.tunnel.control)
    (handlers : ∀ id handler, after.tunnel.handlers.lookup id = some handler →
      system.tunnel.provider.rustHandle = some handler.handle ∨
        ∃ id handler', system.tunnel.handlers.lookup id = some handler' ∧
          handler'.handle = handler.handle)
    (resources : after.resources = system.resources)
    (sound : ∀ k handle, after.cores k = some handle → Handle.Sound (Serves S) handle) :
    WellKept single after := by
  have made : ∀ k, system.cores k ≠ none → after.cores k ≠ none := by
    intro k before later
    have status : after.resources.core k = .unmade := statusOf_eq_unmade.mpr later
    rw [resources] at status
    exact before (statusOf_eq_unmade.mp status)
  refine ⟨?_, sound, fun one => resources ▸ kept.calls one, fun k held => made k ?_⟩
  · rw [control, resources]
    exact kept.control
  · rw [provider] at held
    rcases held with handle | ⟨id, handler, found, rfl⟩
    · exact kept.made k (.inl handle)
    · exact kept.made _ (handlers id handler found)

/-- The condition for a single core: `startTunnel` is called only when there is none. -/
def StartsIdle (system : System S) (event : SystemEvent) : Prop :=
  ∀ outcome now, event = .tunnel (.call (.startTunnel outcome)) now →
    system.tunnel.control = [] → system.tunnel.provider.rustHandle = none

theorem WellKept.left (kept : WellKept single system) {event : ReadEvent}
    (allowed : single → StartsIdle system (.tunnel event now))
    (next : system.tunnel.control = action :: rest ∨ (system.tunnel.control = [] ∧
      ∃ call, event = .call call ∧ system.tunnel.provider.actions call = action :: rest)) :
    Commands.Safe (Resources.Needs single) Resources.next (Resources.Idle single) (action :: rest)
      system.resources := by
  obtain control | ⟨free, call, rfl, planned⟩ := next
  · rw [← control]
    exact kept.control
  · have idle : Resources.Idle single system.resources := by
      have done := kept.control
      rw [free] at done
      exact done
    rw [← planned]
    refine idle.call call fun one outcome same => ?_
    subst same
    exact allowed one outcome now rfl free

/-- The outcome of an action is what the discipline says. -/
theorem WellKept.action_step (api : S.ApiLaws) (poll : S.PollLaws) (kept : WellKept single system)
    {event : ReadEvent} (allowed : single → StartsIdle system (.tunnel event now))
    (next : system.tunnel.control = action :: rest ∨ (system.tunnel.control = [] ∧
      ∃ call, event = .call call ∧ system.tunnel.provider.actions call = action :: rest))
    (taken : system.tunnel.step event =
      ({ system.tunnel with control := rest }.perform action, [.action action])) :
    (∃ halt, System.step fromStr system (.tunnel event now) = .error halt ∧
      halt.isDangling = false) ∨
    ∃ after output, System.step fromStr system (.tunnel event now) = .ok (after, output) ∧
      WellKept single after := by
  have safe := kept.left allowed next
  have performed : Performed True _ _ (System.perform fromStr now { system with
      tunnel := { system.tunnel with control := rest }.perform action } (.action action)) :=
    kept.performs api poll safe.1 rfl
  simp only [System.step, taken, System.performAll]
  generalize System.perform fromStr now _ _ = result at performed ⊢
  cases performed with
  | halted clean => exact .inl ⟨_, rfl, clean trivial⟩
  | returned tunnel resources sound =>
      exact .inr ⟨_, _, rfl, kept.advanced safe tunnel resources sound⟩

theorem System.step_session (alive : system.cores k = some (some ctx)) :
    System.step fromStr system (.session k event) =
      if event.session.isSome then
        (system.call k event).map fun result => (result.1, ⟨[], result.2⟩)
      else .error .otherwise := by
  cases event <;> simp [System.step, alive, Event.session]

/-- A packet is given to the core of this handle. -/
def GivesPacket (system : System S) (event : SystemEvent) (k : CoreHandle) : Prop :=
  ∃ read now packet, event = .tunnel read now ∧ .processPacket k packet ∈ (system.tunnel.step read).2

/-- A step keeps the process well, or is not taken. Of a dangling pointer only a packet can be
the reason, and where there is a single core only one for a core that is not alive. -/
theorem WellKept.step_cases (api : S.ApiLaws) (poll : S.PollLaws) (kept : WellKept single system)
    (fromStr : String → Except String AppConfig) (event : SystemEvent) (allowed : single → StartsIdle system event) :
    (∃ after output, System.step fromStr system event = .ok (after, output) ∧
      WellKept single after) ∨
    ∃ halt, System.step fromStr system event = .error halt ∧ (halt.isDangling = true →
      ∃ k, GivesPacket system event k ∧ (single → ∀ ctx, system.cores k ≠ some (some ctx))) := by
  cases event with
  | session k event =>
      cases alive : system.cores k with
      | none => exact .inr ⟨.otherwise, by simp only [System.step, alive], by simp [Halt.isDangling]⟩
      | some core =>
          cases core with
          | none =>
              exact .inr ⟨.otherwise, by simp only [System.step, alive], by simp [Halt.isDangling]⟩
          | some ctx =>
              rw [System.step_session alive]
              cases owner : event.session with
              | none => exact .inr ⟨.otherwise, rfl, by simp [Halt.isDangling]⟩
              | some id =>
                  have performed : Performed True system _ (system.call k event) :=
                    system.quiet_performed api poll kept.sound alive (fun _ _ _ stepped =>
                      System.session_not_dangling api (kept.sound k _ alive ctx rfl) owner stepped)
                      (by cases event <;> first | rfl | cases owner) (by rintro rfl; cases owner)
                  simp only [Option.isSome_some, if_true]
                  generalize system.call k event = result at performed ⊢
                  cases performed with
                  | halted clean => exact .inr ⟨_, rfl, by simp [clean trivial]⟩
                  | returned tunnel resources sound =>
                      refine .inl ⟨_, _, rfl, kept.beside (by rw [tunnel]) (by rw [tunnel]) ?_
                        resources sound⟩
                      rw [tunnel]
                      exact fun id handler found => .inr ⟨id, handler, found, rfl⟩
  | tunnel event now =>
      generalize taken : system.tunnel.step event = result
      have move := system.tunnel.step_move event
      rw [taken] at move
      obtain ⟨tunnel', calls⟩ := result
      dsimp only at move
      cases move with
      | quiet provider control handlers =>
          refine .inl ⟨{ system with tunnel := tunnel' }, ⟨[], []⟩, ?_, ?_⟩
          · simp only [System.step, taken, System.performAll, Except.map]
          · refine kept.beside provider control handlers ?_ kept.sound
            simp only [System.resources, provider]
      | called free planned =>
          obtain ⟨halt, halted, clean⟩ | done :=
            kept.action_step api poll allowed (.inr ⟨free, _, rfl, planned⟩) taken
          · exact .inr ⟨halt, halted, by simp [clean]⟩
          · exact .inl done
      | advanced control =>
          obtain ⟨halt, halted, clean⟩ | done :=
            kept.action_step api poll allowed (.inl control) taken
          · exact .inr ⟨halt, halted, by simp [clean]⟩
          · exact .inl done
      | @packet id k packet rest found =>
          have given : GivesPacket system (.tunnel (.handler id) now) k :=
            ⟨_, now, packet, rfl, by rw [taken]; exact List.mem_singleton_self _⟩
          have handlers : ∀ other handler,
              (system.tunnel.handlers.insert id ⟨k, rest⟩).lookup other = some handler →
              system.tunnel.provider.rustHandle = some handler.handle ∨
                ∃ id handler', system.tunnel.handlers.lookup id = some handler' ∧
                  handler'.handle = handler.handle := by
            intro other handler found'
            obtain ⟨_, rfl⟩ | ⟨_, found'⟩ := AList.lookup_insert_eq_some.mp found'
            · exact .inr ⟨id, _, found, rfl⟩
            · exact .inr ⟨other, handler, found', rfl⟩
          simp only [System.step, taken, System.performAll, System.perform]
          by_cases live : ∃ ctx, system.cores k = some (some ctx)
          · obtain ⟨ctx, alive⟩ := live
            have performed : Performed single { system with tunnel := { system.tunnel with
                handlers := system.tunnel.handlers.insert id ⟨k, rest⟩ } } _
                (System.call _ k (.processPacket (some packet) now)) :=
              System.quiet_performed api poll kept.sound alive (fun one _ _ stepped =>
                System.not_dangling api (kept.calls one) (kept.sound k _ alive ctx rfl) alive stepped)
                rfl (by simp)
            generalize System.call _ _ _ = result at performed ⊢
            cases performed with
            | halted clean =>
                refine .inr ⟨_, rfl, fun dangling => ⟨k, given, fun one => ?_⟩⟩
                cases dangling.symm.trans (clean one)
            | returned tunnel resources sound =>
                refine .inl ⟨_, _, rfl, kept.beside (by rw [tunnel]) (by rw [tunnel]) ?_ resources
                  sound⟩
                rw [tunnel]
                exact handlers
          · have dangles : System.call { system with tunnel := { system.tunnel with
                handlers := system.tunnel.handlers.insert id ⟨k, rest⟩ } } k
                  (.processPacket (some packet) now) = .error (.danglingCore k) := by
              unfold System.call
              split
              · exact absurd ⟨_, ‹_›⟩ live
              · rfl
            simp only [dangles, Except.map]
            exact .inr ⟨_, rfl, fun _ => ⟨k, given, fun _ ctx alive => live ⟨ctx, alive⟩⟩⟩

end

/-- `startTunnel` is called when there is no core, so that there is one at a time. -/
def OneCore (x : Runs.Transition (System S) SystemEvent SystemOutput) (_earlier : SystemHistory S) :
    Prop :=
  StartsIdle x.before x.event

section
variable {fromStr : String → Except String AppConfig} {history : SystemHistory S}
  {system system' : System S} {event : SystemEvent} {output : SystemOutput} {k : CoreHandle}
  {single : Prop}

theorem WellKept.new : WellKept single (.new S) := by
  refine ⟨.new _, by simp [System.new], fun _ k b alive => ?_, ?_⟩
  · cases alive
  · rintro k (held | ⟨id, handler, found, _⟩)
    · cases held
    · simp [System.new, PacketTunnel.new] at found

theorem WellKept.stepped (api : S.ApiLaws) (poll : S.PollLaws) (kept : WellKept single system)
    (allowed : single → StartsIdle system event)
    (stepped : System.step fromStr system event = .ok (system', output)) :
    WellKept single system' := by
  obtain ⟨after, output', returned, kept'⟩ | ⟨halt, halted, _⟩ := kept.step_cases api poll fromStr event allowed
  · cases stepped.symm.trans returned
    exact kept'
  · cases stepped.symm.trans halted

theorem SystemRun.wellKept (api : S.ApiLaws) (poll : S.PollLaws)
    (run : SystemRun S fromStr history system) : WellKept False system :=
  Runs.Run.invariant run .new fun kept stepped => kept.stepped api poll False.elim stepped

theorem SystemRun.wellKept_single (api : S.ApiLaws) (poll : S.PollLaws)
    (run : SystemRun S fromStr history system) (one : Runs.Throughout OneCore history) :
    WellKept True system :=
  Runs.Run.conditional_invariant (P := fun _ system => WellKept True system) run one .new
    fun kept stepped idle => kept.stepped api poll (fun _ => idle) stepped

/-- In every run of the process only a packet can meet a dangling pointer: the calls for the
life of a core are made with one that is alive, and no bridge is released twice. -/
theorem only_packets_dangle (api : S.ApiLaws) (poll : S.PollLaws)
    (run : SystemRun S fromStr history system) {halt : Halt}
    (halted : System.step fromStr system event = .error halt) (dangling : halt.isDangling = true) :
    ∃ k, GivesPacket system event k := by
  obtain ⟨_, _, returned, _⟩ | ⟨_, halted', met⟩ :=
    (run.wellKept api poll).step_cases api poll fromStr event False.elim
  · cases halted.symm.trans returned
  · cases halted.symm.trans halted'
    obtain ⟨k, given, _⟩ := met dangling
    exact ⟨k, given⟩

end

def comesUp : List SystemEvent :=
  .tunnel (.call (.startTunnel coreStarts)) 0 :: List.replicate 6 (.tunnel .advance 0) ++
    [.tunnel (.call (.settingsCompleted 0 none)) 0, .tunnel .advance 0, .tunnel .advance 0]

def hostQuery : Bytes := Wire.udpFrame hostAddr tunAddr 5353 53 [1, 2, 3]

def readsConfig (_configJson : String) : Except String AppConfig := .ok quicConfig

/-- The tunnel is stopped while a handler has a packet left. -/
theorem only_packets_dangle_stopped : ∃ history system,
    SystemRun Reference.stack readsConfig history system ∧
    System.step readsConfig system (.tunnel (.handler 0) 0) = .error (.danglingCore 0) ∧
    ∃ k, GivesPacket system (.tunnel (.handler 0) 0) k := by
  obtain ⟨history, system, run, halted, _⟩ := System.replay_halt (S := Reference.stack) readsConfig
    (comesUp ++ [.tunnel (.packets [some hostQuery, some hostQuery]) 0, .tunnel (.handler 0) 0,
      .tunnel (.call .stopTunnel) 0, .tunnel .advance 0, .tunnel .advance 0])
    (.tunnel (.handler 0) 0) (.danglingCore 0) (fun _ => true) (by decide +kernel)
  exact ⟨history, system, run, halted,
    only_packets_dangle Reference.api Reference.poll_laws run halted rfl⟩

end StunnelIos
