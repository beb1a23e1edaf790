import StunnelIos.Core.PanicFreedom
import StunnelIos.Tunnel.SystemSafety

/-! The parts of the process. In every run of it the provider with its read loop makes a run
of its own, and so does every core from its creation, so what holds of the runs of each holds
of them in the process. -/
namespace StunnelIos
variable {S : Smoltcp}

def tunnelHistory (history : SystemHistory S) : ReadHistory :=
  history.filterMap fun x =>
    match x.event with
    | .tunnel event _ => some ⟨x.before.tunnel, event, x.output.calls, x.after.tunnel⟩
    | .session _ _ => none

/-- The step of a core that a call of the provider is. -/
def ReadOutput.coreCall (now : Instant) : ReadOutput → Option (CoreHandle × Event)
  | .action (.setPacketCallback handle context) =>
      some (handle, .setPacketCallback (contextPointer context) packetFlowCallback)
  | .action (.start handle _) => some (handle, .start)
  | .action (.clearPacketCallback handle) => some (handle, .clearPacketCallback)
  | .action (.stop handle) => some (handle, .stop)
  | .processPacket handle packet => some (handle, .processPacket (some packet) now)
  | .action _ => none

/-- The step that a core takes in a step of the process. -/
def coreEvent (k : CoreHandle) (event : SystemEvent) (calls : List ReadOutput) : Option Event :=
  match event with
  | .tunnel _ now => (calls.findSome? (ReadOutput.coreCall now)).bind fun call =>
      if call.1 = k then some call.2 else none
  | .session handle event => if handle = k then some event else none

def coreStep (k : CoreHandle) (x : Runs.Transition (System S) SystemEvent SystemOutput) :
    Option (Runs.Transition (Handle S) Event (List Output)) :=
  (coreEvent k x.event x.output.calls).bind fun event =>
    (x.before.cores k).bind fun before => (x.after.cores k).map fun after =>
      ⟨before, event, x.output.outputs, after⟩

def coreHistory (k : CoreHandle) (history : SystemHistory S) :
    Runs.History (Handle S) Event (List Output) :=
  Runs.ownHistory (coreStep k) history

section
variable {fromStr : String → Except String AppConfig} {history : SystemHistory S}
  {system after : System S} {event : SystemEvent} {output : SystemOutput} {k : CoreHandle}
  {now : Instant} {outputs : List Output} {call : ReadOutput}

/-- What becomes of the cores in a call that returns. -/
inductive CoreChange (fromStr : String → Except String AppConfig) (now : Instant)
    (system : System S) : ReadOutput → List Output → System S → Prop where
  | none {call : ReadOutput} {after : System S} : call.coreCall now = none → after.tunnel = system.tunnel →
      after.cores = system.cores → CoreChange fromStr now system call [] after
  | created {handle configJson ctx} {after : System S} :
      stunnelCreate S fromStr (some configJson) = .ok (some ctx) → after.tunnel = system.tunnel →
      (∀ k, after.cores k = if k = handle then some (some ctx) else system.cores k) →
      CoreChange fromStr now system (.action (.create (some handle) configJson)) [] after
  | called {call : ReadOutput} {handle event ctx core} {outputs : List Output} {after : System S} :
      call.coreCall now = some (handle, event) →
      system.cores handle = some (some ctx) → Handle.Steps (some ctx) event outputs core →
      after.tunnel = system.tunnel →
      (∀ k, after.cores k = if k = handle then some core else system.cores k) →
      CoreChange fromStr now system call outputs after

theorem System.call_change {event : Event} (returned : system.call k event = .ok (after, outputs)) :
    ∃ ctx core, system.cores k = some (some ctx) ∧ Handle.Steps (some ctx) event outputs core ∧
      after.tunnel = system.tunnel ∧
      ∀ j, after.cores j = if j = k then some core else system.cores j := by
  unfold System.call at returned
  split at returned
  · rename_i ctx alive
    split at returned
    · cases returned
    · rename_i core outputs stepped
      split at returned
      · cases returned
      · cases returned
        exact ⟨ctx, core, alive, stepped, rfl, fun _ => rfl⟩
  · cases returned

theorem System.perform_change (returned : system.perform fromStr now call = .ok (after, outputs)) :
    CoreChange fromStr now system call outputs after := by
  have same : ∀ {call : ReadOutput} {handle event}, call.coreCall now = some (handle, event) →
      system.call handle event = .ok (after, outputs) →
      CoreChange fromStr now system call outputs after := by
    intro call handle event which returned
    obtain ⟨ctx, core, alive, stepped, tunnel, cores⟩ := System.call_change returned
    exact .called which alive stepped tunnel cores
  cases call with
  | processPacket => exact same rfl returned
  | action action =>
      cases action with
      | startTunnel | stopTunnel | settingsCompleted | setRustHandle | setTunnelNetworkSettings
      | readPackets | completeStart | completeStop | retainBridge =>
          cases returned
          exact .none rfl rfl rfl
      | setPacketCallback | clearPacketCallback | stop => exact same rfl returned
      | create handle configJson =>
          simp only [System.perform] at returned
          split at returned
          · cases returned
          · cases returned
            exact .none rfl rfl rfl
          · cases returned
            exact .created ‹_› rfl fun _ => rfl
          · cases returned
      | start =>
          simp only [System.perform] at returned
          split at returned
          · cases returned
          · split at returned
            · cases returned
              exact same rfl ‹_›
            · cases returned
      | releaseBridge =>
          simp only [System.perform] at returned
          split at returned
          · cases returned
            exact .none rfl rfl rfl
          · cases returned

/-- A step of the process is a step of the provider with its read loop and at most one call,
or a step of a session. -/
inductive SystemMove (fromStr : String → Except String AppConfig) (system : System S) :
    SystemEvent → SystemOutput → System S → Prop where
  | quiet {read now tunnel} : system.tunnel.step read = (tunnel, []) →
      SystemMove fromStr system (.tunnel read now) ⟨[], []⟩ { system with tunnel := tunnel }
  | call {read now tunnel call} {outputs : List Output} {after : System S} :
      system.tunnel.step read = (tunnel, [call]) →
      CoreChange fromStr now { system with tunnel := tunnel } call outputs after →
      SystemMove fromStr system (.tunnel read now) ⟨[call], outputs⟩ after
  | session {handle event ctx core} {outputs : List Output} {after : System S} :
      event.session.isSome = true → system.cores handle = some (some ctx) →
      Handle.Steps (some ctx) event outputs core → after.tunnel = system.tunnel →
      (∀ k, after.cores k = if k = handle then some core else system.cores k) →
      SystemMove fromStr system (.session handle event) ⟨[], outputs⟩ after

theorem System.step_move (stepped : System.step fromStr system event = .ok (after, output)) :
    SystemMove fromStr system event output after := by
  cases event with
  | tunnel read now =>
      have move := system.tunnel.step_move read
      simp only [System.step] at stepped
      generalize taken : system.tunnel.step read = result at move stepped
      obtain ⟨tunnel, calls⟩ := result
      have single : calls = [] ∨ ∃ call, calls = [call] := by
        dsimp only at move
        cases move with
        | quiet => exact .inl rfl
        | called | advanced | packet => exact .inr ⟨_, rfl⟩
      obtain rfl | ⟨call, rfl⟩ := single
      · cases stepped
        exact .quiet taken
      · simp only [System.performAll] at stepped
        split at stepped
        · cases stepped
        · rename_i performed
          simp only [Except.map, List.append_nil, Except.ok.injEq, Prod.mk.injEq] at stepped
          obtain ⟨rfl, rfl⟩ := stepped
          exact .call taken (System.perform_change performed)
  | session handle event =>
      cases alive : system.cores handle with
      | none => simp [System.step, alive] at stepped
      | some core =>
          cases core with
          | none => simp [System.step, alive] at stepped
          | some ctx =>
              rw [System.step_session alive] at stepped
              split at stepped
              · rename_i owner
                cases called : system.call handle event with
                | error => simp [called, Except.map] at stepped
                | ok result =>
                    simp only [called, Except.map, Except.ok.injEq, Prod.mk.injEq] at stepped
                    obtain ⟨rfl, rfl⟩ := stepped
                    obtain ⟨_, core, alive', moved, tunnel, cores⟩ := System.call_change called
                    exact .session owner alive' moved tunnel cores
              · cases stepped

theorem SystemMove.tunnel (move : SystemMove fromStr system event output after) :
    (∃ read now, event = .tunnel read now ∧
      system.tunnel.step read = (after.tunnel, output.calls)) ∨
    (∃ handle own, event = .session handle own) ∧ output.calls = [] ∧
      after.tunnel = system.tunnel := by
  cases move with
  | quiet taken => exact .inl ⟨_, _, rfl, taken⟩
  | call taken changed =>
      refine .inl ⟨_, _, rfl, taken.trans ?_⟩
      cases changed with
      | none _ tunnel | created _ tunnel | called _ _ _ tunnel => rw [tunnel]
  | session _ _ _ tunnel => exact .inr ⟨⟨_, _, rfl⟩, rfl, tunnel⟩

theorem SystemRun.readRun (run : SystemRun S fromStr history system) :
    ReadRun (tunnelHistory history) system.tunnel := by
  refine Runs.Run.history_invariant (P := fun history (system : System S) =>
    ReadRun (tunnelHistory history) system.tunnel) run .nil ?_
  intro history system event output after _ reads stepped
  obtain ⟨read, now, rfl, taken⟩ | ⟨⟨_, _, rfl⟩, _, same⟩ := (System.step_move stepped).tunnel
  · exact Runs.Run.next reads taken
  · rw [same]
    exact reads

theorem WellKept.needs (kept : WellKept False system) {read : ReadEvent} {tunnel : PacketTunnel}
    {action : TunnelAction} (taken : system.tunnel.step read = (tunnel, [.action action])) :
    system.resources.Needs False action := by
  have anyhow : False → StartsIdle system (.tunnel read 0) := False.elim
  have move := system.tunnel.step_move read
  rw [taken] at move
  generalize shown : [ReadOutput.action action] = calls at move
  dsimp only at move
  cases move with
  | quiet => cases shown
  | called free planned =>
      cases shown
      exact (kept.left anyhow (.inr ⟨free, _, rfl, planned⟩)).1
  | advanced control =>
      cases shown
      exact (kept.left anyhow (.inl control)).1
  | packet => cases shown

theorem SystemMove.core (kept : WellKept False system)
    (move : SystemMove fromStr system event output after) (k : CoreHandle) :
    (coreEvent k event output.calls = none ∧ after.cores k = system.cores k) ∨
    (∃ ctx own core, coreEvent k event output.calls = some own ∧
      system.cores k = some (some ctx) ∧ Handle.Steps (some ctx) own output.outputs core ∧
      after.cores k = some core) ∨
    (system.cores k = none ∧ ∃ configJson ctx,
      stunnelCreate S fromStr (some configJson) = .ok (some ctx) ∧
      after.cores k = some (some ctx)) := by
  cases move with
  | quiet => exact .inl ⟨rfl, rfl⟩
  | call taken changed =>
      cases changed with
      | none which _ same => exact .inl ⟨by simp [coreEvent, which], by rw [same]⟩
      | @created handle configJson ctx _ created _ cores =>
          by_cases mine : k = handle
          · subst k
            have unmade := kept.needs taken
            exact .inr (.inr ⟨statusOf_eq_unmade.mp unmade, configJson, ctx, created,
              (cores handle).trans (if_pos rfl)⟩)
          · exact .inl ⟨rfl, (cores k).trans (if_neg mine)⟩
      | @called _ handle own ctx core _ _ which alive stepped _ cores =>
          by_cases mine : k = handle
          · subst k
            exact .inr (.inl ⟨ctx, own, core, by simp [coreEvent, which], alive, stepped,
              (cores handle).trans (if_pos rfl)⟩)
          · exact .inl ⟨by simp [coreEvent, which, Ne.symm mine], (cores k).trans (if_neg mine)⟩
  | @session handle own ctx core _ _ _ alive stepped _ cores =>
      by_cases mine : k = handle
      · subst k
        exact .inr (.inl ⟨ctx, own, core, by simp [coreEvent], alive, stepped,
          (cores handle).trans (if_pos rfl)⟩)
      · exact .inl ⟨by simp [coreEvent, Ne.symm mine], (cores k).trans (if_neg mine)⟩

theorem core_component (fromStr : String → Except String AppConfig) (k : CoreHandle) :
    Runs.Component (fun s event output t => System.step fromStr s event = .ok (t, output))
      (WellKept False) Handle.Steps
      (fun handle => ∃ config ctx, CoreContext.new S config = .ok ctx ∧ handle = some ctx)
      (fun system : System S => system.cores k) (coreStep k)
      (fun system => system.cores k = none) where
  absent := fun _ unmade => unmade
  unborn := by
    intro system event output after kept stepped unmade
    obtain ⟨_, same⟩ | ⟨_, _, _, _, _, _, made⟩ | ⟨_, _, _, _, made⟩ :=
      (System.step_move stepped).core kept k
    · exact same.symm.trans unmade
    all_goals cases made.symm.trans unmade
  birth := by
    intro system event output after handle kept stepped missing there
    refine ⟨missing, ?_⟩
    obtain ⟨_, same⟩ | ⟨_, _, _, _, alive, _⟩ | ⟨_, configJson, ctx, created, made⟩ :=
      (System.step_move stepped).core kept k
    · cases (same.trans missing).symm.trans there
    · cases missing.symm.trans alive
    · cases there.symm.trans made
      obtain ⟨config, first, created, run⟩ := stunnelCreate_run created
      cases run
      exact ⟨config, ctx, created, rfl⟩
  beside := by
    intro system event output after handle handle' kept stepped still there there'
    obtain ⟨_, same⟩ | ⟨_, _, _, own, alive, _, moved⟩ | ⟨missing, _⟩ :=
      (System.step_move stepped).core kept k
    · exact Option.some.inj (there'.symm.trans (same.trans there))
    · simp [coreStep, own, alive, moved] at still
    · cases missing.symm.trans there
  moves := by
    intro system event output after m kept stepped mine
    obtain ⟨other, _⟩ | ⟨ctx, own, core, which, alive, moved, made⟩ | ⟨missing, _⟩ :=
      (System.step_move stepped).core kept k
    · simp [coreStep, other] at mine
    · simp only [coreStep, which, alive, made, Option.bind_some, Option.map_some,
        Option.some.injEq] at mine
      subst mine
      exact ⟨moved, alive, fun _ there => Option.some.inj (there.symm.trans made)⟩
    · simp [coreStep, missing] at mine

/-- Every core of the process has made a run of its own, from what `stunnel_create` made. -/
theorem SystemRun.coreRun (api : S.ApiLaws) (poll : S.PollLaws)
    (run : SystemRun S fromStr history system) {handle : Handle S}
    (made : system.cores k = some handle) :
    ∃ config, CoreRun S config (coreHistory k history) handle := by
  obtain ⟨_, ⟨config, ctx, created, rfl⟩, path⟩ :=
    (core_component fromStr k).run run rfl (SystemRun.wellKept api poll) made
  exact ⟨config, ctx, created, path⟩

/-- The core has been given a callback and a packet, and its session has been opened. -/
theorem coreRun_query : ∃ history system handle config,
    SystemRun Reference.stack readsConfig history system ∧ system.cores 0 = some handle ∧
    (coreHistory 0 history).length = 4 ∧
    CoreRun Reference.stack config (coreHistory 0 history) handle := by
  obtain ⟨history, system, run, checked⟩ := System.replay_run readsConfig
    (comesUp ++ [.tunnel (.packets [some hostQuery]) 0, .tunnel (.handler 0) 0,
      .session 0 (.task 0 (.inr (.opened 0 (.ok ()))))])
    (fun history (system : System Reference.stack) =>
      (system.cores 0).isSome && (coreHistory 0 history).length == 4) (by decide +kernel)
  obtain ⟨alive, long⟩ := Bool.and_eq_true_iff.mp checked
  obtain ⟨handle, made⟩ := Option.isSome_iff_exists.mp alive
  obtain ⟨config, core⟩ := run.coreRun Reference.api Reference.poll_laws made
  exact ⟨history, system, handle, config, run, made, beq_iff_eq.mp long, core⟩

theorem ReadOutput.coreCall_stop (stops : call.coreCall now = some (k, .stop)) :
    call = .action (.stop k) := by
  cases call with
  | processPacket => cases stops
  | action action => cases action <;> cases stops; rfl

theorem SystemRun.stopped (api : S.ApiLaws) (poll : S.PollLaws)
    (run : SystemRun S fromStr history system) (freed : system.cores k = some none) :
    Stopped k (tunnelHistory history) := by
  refine Runs.Run.history_invariant (P := fun history (system : System S) =>
    system.cores k = some none → Stopped k (tunnelHistory history)) run ?_ ?_ freed
  · intro freed
    cases freed
  · intro history system event output after earlier before stepped freed
    have kept := SystemRun.wellKept api poll earlier
    have older : Stopped k (tunnelHistory history) → Stopped k (tunnelHistory
        (⟨system, event, output, after⟩ :: history)) := by
      rintro ⟨x, taken, stops⟩
      refine ⟨x, ?_, stops⟩
      cases event with
      | tunnel => exact List.mem_cons_of_mem _ taken
      | session => exact taken
    have move := System.step_move stepped
    obtain ⟨_, same⟩ | ⟨ctx, own, core, which, alive, moved, made⟩ | ⟨_, _, _, _, made⟩ :=
      move.core kept k
    · exact older (before (same.symm.trans freed))
    · cases made.symm.trans freed
      obtain ⟨rfl, _⟩ | ⟨_, absent, _⟩ :=
        step_change api (serves_stable api) (kept.sound k _ alive ctx rfl) moved
      · cases move with
        | quiet => cases which
        | @call read now tunnel call _ _ taken _ =>
            refine ⟨_, List.mem_cons_self, ?_⟩
            simp only [coreEvent, List.findSome?_cons, List.findSome?_nil] at which
            cases mine : call.coreCall now with
            | none => simp [mine] at which
            | some found =>
                obtain ⟨handle, own⟩ := found
                simp only [mine, Option.bind_some, Option.ite_none_right_eq_some,
                  Option.some.injEq] at which
                obtain ⟨rfl, rfl⟩ := which
                rw [ReadOutput.coreCall_stop mine]
                exact List.mem_singleton_self _
        | @session handle own _ _ _ _ owned =>
            simp only [coreEvent, Option.ite_none_right_eq_some, Option.some.injEq] at which
            obtain ⟨_, rfl⟩ := which
            cases owned
      · cases absent
    · cases made.symm.trans freed

/-- A process in which there is one core at a time, and no handler of the read loop has packets
left for a core that is stopped or reads the handle of one, never meets a dangling pointer: every
call of a C function is made with a core that is alive, and every packet for the app with a bridge
that is retained. -/
theorem no_dangling_pointer (api : S.ApiLaws) (poll : S.PollLaws)
    (run : SystemRun S fromStr history system) (one : Runs.Throughout OneCore history)
    (done : Runs.Throughout HandlersDone (tunnelHistory history)) (idle : StartsIdle system event)
    {halt : Halt} (halted : System.step fromStr system event = .error halt) :
    halt.isDangling = false := by
  have kept := SystemRun.wellKept_single api poll run one
  have guarded : Guarded (tunnelHistory history) system.tunnel :=
    Runs.Run.conditional_invariant (P := Guarded) run.readRun done .new
      fun guarded moved allowed => guarded.stepped moved allowed
  obtain ⟨_, _, returned, _⟩ | ⟨_, halted', met⟩ :=
    kept.step_cases api poll fromStr event fun _ => idle
  · cases halted.symm.trans returned
  · cases halted.symm.trans halted'
    by_contra dangling
    obtain ⟨k, ⟨read, now, packet, rfl, given⟩, dead⟩ := met (by simpa using dangling)
    have running : ¬ Stopped k (tunnelHistory history) :=
      guarded.processesLive rfl k packet given
    have move := system.tunnel.step_move read
    generalize (system.tunnel.step read).1 = tunnel at move
    generalize (system.tunnel.step read).2 = calls at move given
    cases move with
    | quiet => cases given
    | called | advanced => simp at given
    | packet found =>
        obtain ⟨rfl, _⟩ := ReadOutput.processPacket.inj (List.mem_singleton.mp given)
        cases core : system.cores k with
        | none => exact kept.made k (.inr ⟨_, _, found, rfl⟩) core
        | some handle =>
            cases handle with
            | none => exact running (run.stopped api poll core)
            | some ctx => exact dead trivial ctx core

end

/-- `startTunnel` is called only when there is no core. -/
def startsWhenIdle (x : Runs.Transition (System S) SystemEvent SystemOutput) : Bool :=
  match x.event with
  | .tunnel (.call (.startTunnel _)) _ =>
      !x.before.tunnel.control.isEmpty || x.before.tunnel.provider.rustHandle.isNone
  | _ => true

theorem oneCore_of_startsWhenIdle {x : Runs.Transition (System S) SystemEvent SystemOutput}
    (idle : startsWhenIdle x = true) (earlier : SystemHistory S) : OneCore x earlier := by
  intro outcome now event free
  simpa [startsWhenIdle, event, free] using idle

/-- The tunnel is stopped between two batches and comes up again, and then the core panics. -/
theorem no_dangling_pointer_again : ∃ history system,
    SystemRun Reference.stack readsConfig history system ∧
    System.step readsConfig system (.tunnel (.handler 1) 0) = .error (.panic (.listen .unaddressable)) ∧
    Halt.isDangling (.panic (.listen .unaddressable)) = false := by
  obtain ⟨history, system, run, halted, checked⟩ := System.replay_halt (S := Reference.stack)
    readsConfig
    (comesUp ++ [.tunnel (.packets [some hostQuery]) 0, .tunnel (.handler 0) 0,
      .tunnel (.handler 0) 0, .tunnel (.call .stopTunnel) 0] ++
      List.replicate 5 (.tunnel .advance 0) ++ .tunnel (.call (.startTunnel coreStarts)) 0 ::
      List.replicate 6 (.tunnel .advance 0) ++ [.tunnel (.call (.settingsCompleted 1 none)) 0,
      .tunnel .advance 0, .tunnel .advance 0, .tunnel (.packets [some (synToPort 0)]) 0])
    (.tunnel (.handler 1) 0) (.panic (.listen .unaddressable))
    (fun history => decide (Runs.Throughout (fun x _ => startsWhenIdle x = true) history) &&
      decide (Runs.Throughout (fun x _ => betweenBatches x = true) (tunnelHistory history)))
    (by decide +kernel)
  obtain ⟨idle, between⟩ := Bool.and_eq_true_iff.mp checked
  exact ⟨history, system, run, halted, no_dangling_pointer Reference.api Reference.poll_laws run
    ((of_decide_eq_true idle).mono fun idle => oneCore_of_startsWhenIdle idle _)
    ((of_decide_eq_true between).mono fun between => handlersDone_of_betweenBatches between _)
    (fun _ _ same => by cases same) halted⟩

end StunnelIos
