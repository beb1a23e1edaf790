import StunnelIos.Tunnel.Installation

/-! The configuration of a running core. It is the one that was saved last when the tunnel was
started, and the files that the core is given hold its credentials. -/
namespace StunnelIos
variable {S : Smoltcp} {F : Foundation}

/-- What an action of a start does with the configuration: the core is created with what was
written for it, and the settings name its server. -/
def TunnelAction.Of (start : StartId) (outcome : RuntimeOutcome) : TunnelAction → Prop
  | .startTunnel _ => False
  | .create handle configJson => (∀ k, handle = some k → k = start) ∧
      ∃ config, outcome.load = .ok (some config) ∧ outcome.configJson = .ok configJson
  | .setTunnelNetworkSettings k settings => k = start ∧ ∃ config configJson,
      outcome.load = .ok (some config) ∧ outcome.configJson = .ok configJson ∧
      settings = PacketTunnelProvider.networkSettings config
  | _ => True

theorem PacketTunnelProvider.startTunnel_of (provider : PacketTunnelProvider)
    (outcome : RuntimeOutcome) : ∃ rest,
      provider.startTunnel outcome = .startTunnel provider.nextStart :: rest ∧
        ∀ a ∈ rest, a.Of provider.nextStart outcome := by
  obtain ⟨rustHandle, context, k, pending⟩ := provider
  obtain ⟨load, configJson, created, started⟩ := outcome
  rcases load with description | _ | config
  · refine ⟨_, rfl, ?_⟩
    cases context <;> simp [releasePacketBridge, makeRuntime, run, apply, installPacketBridge,
      TunnelAction.Of]
  · refine ⟨_, rfl, ?_⟩
    cases context <;> simp [releasePacketBridge, makeRuntime, run, apply, installPacketBridge,
      TunnelAction.Of]
  · rcases configJson with description | configJson
    · refine ⟨_, rfl, ?_⟩
      cases context <;> simp [releasePacketBridge, makeRuntime, run, apply, installPacketBridge,
      TunnelAction.Of]
    · cases created <;> cases started <;> refine ⟨_, rfl, ?_⟩ <;> cases context <;>
        simp [releasePacketBridge, makeRuntime, run, apply, installPacketBridge, TunnelAction.Of]

theorem PacketTunnelProvider.actions_of (provider : PacketTunnelProvider) (event : TunnelEvent)
    (other : ∀ outcome, event ≠ .startTunnel outcome) (start : StartId) (outcome : RuntimeOutcome) :
    ∀ action ∈ provider.actions event, action.Of start outcome := by
  obtain ⟨rustHandle, context, k, pending⟩ := provider
  cases event with
  | startTunnel outcome => exact absurd rfl (other outcome)
  | settingsCompleted k error =>
      simp only [actions]
      split
      · cases error <;> simp [PacketTunnelProvider.settingsCompleted, TunnelAction.Of]
      · simp
  | stopTunnel =>
      cases rustHandle <;> cases context <;>
        simp [actions, stopTunnel, stopCoreRuntime, stopRuntime, releasePacketBridge, TunnelAction.Of]

/-- A step that begins no start takes actions of earlier starts, or of calls that leave the
configuration alone. -/
theorem SystemMove.of_actions {fromStr : String → Except String AppConfig} {system after : System S}
    {event : SystemEvent} {output : SystemOutput} {P : TunnelAction → Prop}
    (move : SystemMove fromStr system event output after) (other : event.startsTunnel = false)
    (control : ∀ a ∈ system.tunnel.control, P a) (no_start : ∀ k, ¬ P (.startTunnel k))
    (quiet : ∀ a : TunnelAction, a.Of 0 ⟨.ok none, .error "", false, false⟩ → P a) :
    (∀ a, .action a ∈ output.calls → P a) ∧ (∀ a ∈ after.tunnel.control, P a) ∧
      after.tunnel.provider.nextStart = system.tunnel.provider.nextStart := by
  have unnumbered : ∀ {provider : PacketTunnelProvider} {action : TunnelAction}, P action →
      (provider.apply action).nextStart = provider.nextStart := by
    intro provider action allowed
    cases action with
    | startTunnel k => exact absurd allowed (no_start k)
    | _ => rfl
  obtain ⟨read, now, rfl, taken⟩ | ⟨⟨_, _, rfl⟩, none_called, same⟩ := move.tunnel
  · have step := system.tunnel.step_move read
    rw [taken] at step
    obtain ⟨calls, outputs⟩ := output
    obtain ⟨tunnel, cores, bridges⟩ := after
    dsimp only at step ⊢
    cases step with
    | quiet provider left => exact ⟨by simp, left ▸ control, by rw [provider]⟩
    | @called call action rest free planned =>
        have known := system.tunnel.provider.actions_of call
          (by rintro outcome rfl; cases other) 0 ⟨.ok none, .error "", false, false⟩
        rw [planned] at known
        have allowed : P action := quiet _ (known _ List.mem_cons_self)
        exact ⟨by simp [allowed], fun a later => quiet a (known a (List.mem_cons_of_mem _ later)),
          unnumbered allowed⟩
    | @advanced action rest left =>
        rw [left] at control
        have allowed : P action := control _ List.mem_cons_self
        exact ⟨by simp [allowed], fun a later => control a (List.mem_cons_of_mem _ later),
          unnumbered allowed⟩
    | packet => exact ⟨by simp, control, rfl⟩
  · rw [none_called, same]
    exact ⟨by simp, control, rfl⟩

section
variable {fromStr : String → Except String AppConfig} {history : InstallationHistory S F}
  {environment : StartEnvironment} {defaults : UserDefaults F} {files : Files}
  {saved : Option VPNConfig} {config : VPNConfig} {url : String}

/-- A start that goes on has loaded what was saved last, and the core reads it. -/
theorem StartEnvironment.outcome_reads (laws : F.Laws) (serde : SerdeLaws fromStr)
    (held : VPNConfig.load (some defaults) = .ok saved)
    (loaded : (environment.outcome defaults files).1.load = .ok (some config)) {configJson : String}
    (coded : (environment.outcome defaults files).1.configJson = .ok configJson) :
    ∃ url, environment.startsWith saved = some (config, url) ∧
      fromStr configJson = .ok (config.appConfig url) := by
  obtain ⟨available, writer, created, started⟩ := environment
  cases available with
  | false => simp [outcome, VPNConfig.load] at loaded
  | true =>
      cases saved with
      | none => simp [outcome, held] at loaded
      | some config' =>
          simp only [outcome, if_true, held, Except.ok.injEq, Option.some.injEq] at loaded coded
          subst loaded
          cases wrote : (writer.write F config' files).1 with
          | error error => simp [wrote, Except.mapError] at coded
          | ok text =>
              obtain rfl : text = configJson := by simpa [wrote, Except.mapError] using coded
              obtain ⟨url, written, reads⟩ := StunnelRuntimeConfigWriter.write_reads laws serde wrote
              exact ⟨url, by simp [startsWith, written], reads⟩

theorem StartEnvironment.outcome_holds (held : VPNConfig.load (some defaults) = .ok saved)
    (starts : environment.startsWith saved = some (config, url)) :
    (environment.outcome defaults files).2.Hold (config.appConfig url) config := by
  obtain ⟨available, writer, created, started⟩ := environment
  unfold startsWith at starts
  split at starts
  · rename_i there
    obtain rfl : available = true := there
    obtain ⟨config', rfl, located⟩ := Option.bind_eq_some_iff.mp starts
    obtain ⟨url', written, same⟩ := Option.map_eq_some_iff.mp located
    obtain ⟨rfl, rfl⟩ := Prod.mk.inj same
    simp only [outcome, if_true, held]
    exact StunnelRuntimeConfigWriter.write_holds written
  · cases starts

/-- An action that is yet to be taken does this with the configuration of its start. -/
def TunnelAction.Fits (fromStr : String → Except String AppConfig)
    (history : InstallationHistory S F) : TunnelAction → Prop
  | .startTunnel _ => False
  | .create handle configJson => ∀ k, handle = some k → ∃ config url,
      startedWith k history = some (config, url) ∧ fromStr configJson = .ok (config.appConfig url)
  | .setTunnelNetworkSettings k settings => ∃ config url,
      startedWith k history = some (config, url) ∧
      settings = PacketTunnelProvider.networkSettings config
  | _ => True

/-- Every core of the process runs with the configuration of its start. -/
structure Configured (fromStr : String → Except String AppConfig)
    (history : InstallationHistory S F) (installation : Installation S F) : Prop where
  saved : VPNConfig.load (some installation.defaults) = .ok (lastSaved history)
  begun : ∀ k found, startedWith k history = some found →
    k < installation.process.tunnel.provider.nextStart
  control : ∀ a ∈ installation.process.tunnel.control, a.Fits fromStr history
  cores : ∀ k ctx, installation.process.cores k = some (some ctx) → ∃ config url,
    startedWith k history = some (config, url) ∧ ctx.config = config.appConfig url
  files : ∀ k config url, startedWith k history = some (config, url) →
    k + 1 = installation.process.tunnel.provider.nextStart →
    installation.files.Hold (config.appConfig url) config

theorem Change.keeps_config {ctx ctx' : CoreContext S} {event : Event} {outputs : List Output}
    (changed : Change ctx event outputs ctx') : ctx'.config = ctx.config := by
  cases changed <;> rfl

theorem stunnelCreate_config {configJson : String} {ctx : CoreContext S}
    (created : stunnelCreate S fromStr (some configJson) = .ok (some ctx)) {app : AppConfig}
    (reads : fromStr configJson = .ok app) : ctx.config = app := by
  simp only [stunnelCreate, reads] at created
  split at created
  · cases created
  · cases made : CoreContext.new S app with
    | error panic => simp [made, Except.map] at created
    | ok first =>
        simp only [made, Except.map, Except.ok.injEq, Option.some.injEq] at created
        subst created
        obtain ⟨engine, _, same⟩ := bind_eq_ok made
        cases same
        rfl

end

section
variable {fromStr : String → Except String AppConfig} {history : InstallationHistory S F}
  {installation after : Installation S F} {event : InstallationEvent} {output : InstallationOutput}
  {k : CoreHandle}

/-- The cores of the process after a step: made with a configuration that was read, or there
before with the same. -/
theorem SystemMove.config (api : S.ApiLaws) {system after : System S} {event : SystemEvent}
    {output : SystemOutput} (kept : WellKept False system)
    (move : SystemMove fromStr system event output after) {ctx : CoreContext S}
    (alive : after.cores k = some (some ctx)) :
    (∃ before, system.cores k = some (some before) ∧ ctx.config = before.config) ∨
    ∃ configJson, .action (.create (some k) configJson) ∈ output.calls ∧
      stunnelCreate S fromStr (some configJson) = .ok (some ctx) := by
  have stepped : ∀ {handle own before core outputs}, system.cores handle = some (some before) →
      Handle.Steps (some before) own outputs core →
      (∀ j, after.cores j = if j = handle then some core else system.cores j) →
      ∃ before, system.cores k = some (some before) ∧ ctx.config = before.config := by
    intro handle own before core outputs there moved cores
    rw [cores] at alive
    split at alive
    · subst k
      obtain rfl := Option.some.inj alive
      obtain ⟨_, impossible, _⟩ | ⟨_, same, changed⟩ :=
        step_change api (serves_stable api) (kept.sound _ _ there before rfl) moved
      · cases impossible
      · cases same
        exact ⟨before, there, changed.keeps_config⟩
    · exact ⟨ctx, alive, rfl⟩
  cases move with
  | quiet => exact .inl ⟨ctx, alive, rfl⟩
  | call _ changed =>
      cases changed with
      | none _ _ same => exact .inl ⟨ctx, same ▸ alive, rfl⟩
      | @created handle configJson made _ created _ cores =>
          rw [cores] at alive
          split at alive
          · subst k
            obtain rfl := Option.some.inj (Option.some.inj alive)
            exact .inr ⟨configJson, List.mem_singleton_self _, created⟩
          · exact .inl ⟨ctx, alive, rfl⟩
      | called _ there moved _ cores => exact .inl (stepped there moved cores)
  | session _ there moved _ cores => exact .inl (stepped there moved cores)

theorem Configured.of_actions {system : System S} {said : SystemOutput} {read : SystemEvent}
    (configured : Configured fromStr history installation)
    (move : SystemMove fromStr installation.process read said system)
    (other : read.startsTunnel = false) :
    (∀ a, .action a ∈ said.calls → a.Fits fromStr history) ∧
      (∀ a ∈ system.tunnel.control, a.Fits fromStr history) ∧
      system.tunnel.provider.nextStart = installation.process.tunnel.provider.nextStart := by
  refine move.of_actions other configured.control (fun k impossible => impossible) fun a quiet => ?_
  cases a with
  | create => exact absurd quiet.2 (by simp)
  | setTunnelNetworkSettings => exact absurd quiet.2 (by simp)
  | startTunnel => exact quiet
  | _ => trivial

theorem Configured.core_of (api : S.ApiLaws) {system : System S} {said : SystemOutput}
    {read : SystemEvent} (configured : Configured fromStr history installation)
    (kept : WellKept False installation.process)
    (move : SystemMove fromStr installation.process read said system)
    {history' : InstallationHistory S F}
    (same : ∀ k found, startedWith k history = some found → startedWith k history' = some found)
    (fits : ∀ a, .action a ∈ said.calls → a.Fits fromStr history' ∨ ∃ k, a = .startTunnel k)
    {ctx : CoreContext S} (alive : system.cores k = some (some ctx)) :
    ∃ config url, startedWith k history' = some (config, url) ∧ ctx.config = config.appConfig url := by
  obtain ⟨before, there, unchanged⟩ | ⟨configJson, called, created⟩ := move.config api kept alive
  · obtain ⟨config, url, started, uses⟩ := configured.cores k before there
    exact ⟨config, url, same k _ started, unchanged.trans uses⟩
  · obtain fit | ⟨_, impossible⟩ := fits _ called
    · obtain ⟨config, url, started, reads⟩ := fit k rfl
      exact ⟨config, url, started, stunnelCreate_config created reads⟩
    · cases impossible

theorem started_tunnel {process after : System S} {outcome : RuntimeOutcome} {now : Instant}
    {said : SystemOutput} (free : process.tunnel.control = [])
    (moved : System.step fromStr process (.tunnel (.call (.startTunnel outcome)) now) =
      .ok (after, said)) :
    said.calls = [.action (.startTunnel process.tunnel.provider.nextStart)] ∧
      (∀ a ∈ after.tunnel.control, a.Of process.tunnel.provider.nextStart outcome) ∧
      after.tunnel.provider.nextStart = process.tunnel.provider.nextStart + 1 := by
  obtain ⟨rest, planned, of⟩ := process.tunnel.provider.startTunnel_of outcome
  obtain ⟨read, time, same, taken⟩ | ⟨⟨_, _, other⟩, _⟩ := (System.step_move moved).tunnel
  · cases same
    simp only [PacketTunnel.step, free, if_true, PacketTunnelProvider.actions, planned,
      PacketTunnel.proceed, Prod.mk.injEq] at taken
    obtain ⟨begun, called⟩ := taken
    rw [← begun, ← called]
    exact ⟨rfl, of, rfl⟩
  · cases other

theorem Configured.step (api : S.ApiLaws) (laws : F.Laws) (serde : SerdeLaws fromStr)
    (configured : Configured fromStr history installation)
    (kept : WellKept False installation.process)
    (stepped : Installation.step fromStr installation event = .ok (after, output)) :
    Configured fromStr (⟨installation, event, output, after⟩ :: history) after := by
  cases Installation.step_move stepped with
  | refused =>
      exact ⟨configured.saved, configured.begun, configured.control, configured.cores,
        configured.files⟩
  | saved done =>
      exact ⟨VPNConfig.load_save laws done, configured.begun, configured.control, configured.cores,
        configured.files⟩
  | launched =>
      refine ⟨configured.saved, fun k found started => ?_, ?_, fun k ctx alive => ?_,
        fun k config url started => ?_⟩
      · cases started
      · simp [System.new, PacketTunnel.new]
      · cases alive
      · cases started
  | @started environment now process said free moved =>
      obtain ⟨called, control, numbered⟩ := started_tunnel free moved
      have others : ∀ k found, startedWith k history = some found →
          startedWith k (⟨installation, .startTunnel environment now, .process said,
            { installation with
              files := (environment.outcome installation.defaults installation.files).2
              process := process }⟩ :: history) = some found := by
        intro k found started
        have earlier : installation.process.tunnel.provider.nextStart ≠ k :=
          Nat.ne_of_gt (configured.begun k found started)
        simp [startedWith, earlier, started]
      refine ⟨configured.saved, fun k found started => ?_, fun a left => ?_, fun k ctx alive => ?_,
        fun k config url started latest => ?_⟩
      · rw [numbered]
        simp only [startedWith] at started
        split at started
        · rename_i mine
          exact mine ▸ Nat.lt_succ_self _
        · exact Nat.lt_succ_of_lt (configured.begun k found started)
      · have of := control a left
        cases a with
        | startTunnel => exact of
        | create handle configJson =>
            obtain ⟨mine, config, loaded, coded⟩ := of
            intro k same
            obtain ⟨url, starts, reads⟩ :=
              StartEnvironment.outcome_reads laws serde configured.saved loaded coded
            exact ⟨config, url, by simp [startedWith, mine k same, starts], reads⟩
        | setTunnelNetworkSettings k settings =>
            obtain ⟨rfl, config, configJson, loaded, coded, same⟩ := of
            obtain ⟨url, starts, _⟩ :=
              StartEnvironment.outcome_reads laws serde configured.saved loaded coded
            exact ⟨config, url, by simp [startedWith, starts], same⟩
        | _ => trivial
      · refine configured.core_of api kept (System.step_move moved) others ?_ alive
        intro a taken
        rw [called] at taken
        exact .inr ⟨_, ReadOutput.action.inj (List.mem_singleton.mp taken)⟩
      · dsimp only at latest
        rw [numbered] at latest
        obtain rfl := Nat.succ.inj latest
        simp only [startedWith, if_true] at started
        exact StartEnvironment.outcome_holds configured.saved started
  | @process read process said other moved =>
      have move := System.step_move moved
      obtain ⟨called, control, numbered⟩ := configured.of_actions move other
      refine ⟨configured.saved, fun k found started => ?_, control, fun k ctx alive => ?_,
        fun k config url started latest => ?_⟩
      · rw [numbered]
        exact configured.begun k found started
      · exact configured.core_of api kept move (fun _ _ => id) (fun a taken => .inl (called a taken))
          alive
      · dsimp only at latest
        rw [numbered] at latest
        exact configured.files k config url started latest

theorem InstallationRun.configured (api : S.ApiLaws) (poll : S.PollLaws) (laws : F.Laws)
    (serde : SerdeLaws fromStr) (run : InstallationRun S F fromStr history installation) :
    Configured fromStr history installation := by
  refine Runs.Run.history_invariant (P := Configured fromStr) run ?_ ?_
  · refine ⟨rfl, fun k found started => ?_, ?_, fun k ctx alive => ?_, fun k config url started => ?_⟩
    · cases started
    · simp [Installation.new, System.new, PacketTunnel.new]
    · cases alive
    · cases started
  · intro history installation event output after earlier configured stepped
    exact configured.step api laws serde
      (SystemRun.wellKept api poll (InstallationRun.systemRun earlier)) stepped

theorem CoreRun.config_eq (api : S.ApiLaws) (poll : S.PollLaws) {config : AppConfig}
    {history : Runs.History (Handle S) Event (List Output)} {ctx : CoreContext S}
    (run : CoreRun S config history (some ctx)) : ctx.config = config := by
  refine run.history_invariant api poll (serves_stable api)
    (P := fun _ ctx => ctx.config = config) ?_ ?_
  · intro ctx created
    obtain ⟨engine, _, same⟩ := bind_eq_ok created
    cases same
    rfl
  · intro history ctx event outputs ctx' sound same stepped _
    obtain ⟨_, impossible, _⟩ | ⟨_, here, changed⟩ :=
      step_change api (serves_stable api) sound stepped
    · cases impossible
    · cases here
      exact changed.keeps_config.trans same

/-- In every run of an installation a core makes its run with the configuration that was saved
last before the call of `startTunnel` that made it. The files that it is given hold the
credentials of that configuration as long as no other call of `startTunnel` has begun. -/
theorem core_runs_saved (api : S.ApiLaws) (poll : S.PollLaws) (laws : F.Laws)
    (serde : SerdeLaws fromStr) (run : InstallationRun S F fromStr history installation)
    {ctx : CoreContext S} (alive : installation.process.cores k = some (some ctx)) :
    ∃ config url, startedWith k history = some (config, url) ∧
      CoreRun S (config.appConfig url) (coreHistory k (processHistory history)) (some ctx) ∧
      ctx.config = config.appConfig url ∧
      (k + 1 = installation.process.tunnel.provider.nextStart →
        installation.files.Hold ctx.config config) := by
  have configured := run.configured api poll laws serde
  obtain ⟨config, url, started, uses⟩ := configured.cores k ctx alive
  obtain ⟨app, core⟩ := run.systemRun.coreRun api poll alive
  obtain rfl : app = config.appConfig url := (core.config_eq api poll).symm.trans uses
  refine ⟨config, url, started, core, uses, fun latest => ?_⟩
  rw [uses]
  exact configured.files k config url started latest

theorem Installation.replay_run (fromStr : String → Except String AppConfig)
    (events : List InstallationEvent) (check : InstallationHistory S F → Installation S F → Bool)
    (passed : ((Runs.replay (Installation.step fromStr) [] (.new S F) events).any fun r =>
      check r.1 r.2) = true) :
    ∃ history installation, InstallationRun S F fromStr history installation ∧
      check history installation = true := by
  obtain ⟨result, evaluated, checked⟩ := (Option.any_eq_true _ _).mp passed
  exact ⟨result.1, result.2, Runs.replay_run .nil evaluated, checked⟩

def savedAndStarted : List InstallationEvent :=
  [.save localConfig true, .startTunnel ⟨true, ⟨some "/group", none, none⟩, true, true⟩ 0] ++
    List.replicate 5 (.process (.tunnel .advance 0))

/-- Another configuration is saved while the core runs. -/
theorem core_runs_saved_another : ∃ history installation ctx url,
    InstallationRun Reference.stack Reference.foundation Reference.fromStr history installation ∧
    installation.process.cores 0 = some (some ctx) ∧
    lastSaved history = some { localConfig with mode := "tlstcp" } ∧
    startedWith 0 history = some (localConfig, url) ∧
    CoreRun Reference.stack (localConfig.appConfig url) (coreHistory 0 (processHistory history))
      (some ctx) ∧
    ctx.config = localConfig.appConfig url ∧
    (0 + 1 = installation.process.tunnel.provider.nextStart →
      installation.files.Hold ctx.config localConfig) := by
  obtain ⟨history, installation, run, checked⟩ := Installation.replay_run (S := Reference.stack)
    (F := Reference.foundation) Reference.fromStr
    (savedAndStarted ++ [.save { localConfig with mode := "tlstcp" } true])
    (fun history installation => (installation.process.cores 0).any Option.isSome &&
      lastSaved history == some { localConfig with mode := "tlstcp" } &&
      (startedWith 0 history).map Prod.fst == some localConfig) (by decide +kernel)
  simp only [Bool.and_eq_true, beq_iff_eq] at checked
  obtain ⟨⟨alive, saved⟩, begun⟩ := checked
  obtain ⟨handle, made, alive⟩ := (Option.any_eq_true _ _).mp alive
  obtain ⟨ctx, rfl⟩ := Option.isSome_iff_exists.mp alive
  obtain ⟨config, url, started, found⟩ := core_runs_saved Reference.api Reference.poll_laws
    Reference.foundation_laws Reference.serde_laws run made
  obtain rfl : config = localConfig := by simpa [started] using begun
  exact ⟨history, installation, ctx, url, run, made, saved, started, found⟩

/-- When the system is given the settings of a tunnel, the core that was made in the same call
is alive, and the address that stays outside the tunnel is that of the core's server. -/
theorem settings_name_server (api : S.ApiLaws) (poll : S.PollLaws) (laws : F.Laws)
    (serde : SerdeLaws fromStr) (run : InstallationRun S F fromStr history installation)
    {said : SystemOutput} {settings : TunnelNetworkSettings}
    (stepped : Installation.step fromStr installation event = .ok (after, .process said))
    (called : .action (.setTunnelNetworkSettings k settings) ∈ said.calls) :
    ∃ ctx, installation.process.cores k = some (some ctx) ∧
      settings.tunnelRemoteAddress = ctx.config.serverAddr := by
  have configured := run.configured api poll laws serde
  have kept := run.systemRun.wellKept api poll
  cases Installation.step_move stepped with
  | started free moved =>
      rw [(started_tunnel free moved).1] at called
      cases List.mem_singleton.mp called
  | process other moved =>
      have move := System.step_move moved
      obtain ⟨config, url, started, rfl⟩ := (configured.of_actions move other).1 _ called
      cases move with
      | quiet | session => cases called
      | call taken =>
          obtain rfl := List.mem_singleton.mp called
          obtain ⟨_, status⟩ := kept.needs taken
          obtain ⟨ctx, alive, _⟩ := statusOf_eq_alive.mp status
          obtain ⟨config', url', started', uses⟩ := configured.cores k ctx alive
          cases started.symm.trans started'
          exact ⟨ctx, alive, by rw [uses]; rfl⟩

end

theorem settings_name_server_started : ∃ history installation settings ctx,
    InstallationRun Reference.stack Reference.foundation Reference.fromStr history installation ∧
    installation.process.tunnel.control = [.setTunnelNetworkSettings 0 settings] ∧
    installation.process.cores 0 = some (some ctx) ∧
    settings.tunnelRemoteAddress = ctx.config.serverAddr := by
  let settings := PacketTunnelProvider.networkSettings localConfig
  obtain ⟨history, installation, run, checked⟩ := Installation.replay_run (S := Reference.stack)
    (F := Reference.foundation) Reference.fromStr savedAndStarted
    (fun _ installation =>
      installation.process.tunnel.control == [.setTunnelNetworkSettings 0 settings])
    (by decide +kernel)
  have left := beq_iff_eq.mp checked
  obtain ⟨after, stepped⟩ : ∃ after, Installation.step Reference.fromStr installation
      (.process (.tunnel .advance 0)) =
        .ok (after, .process ⟨[.action (.setTunnelNetworkSettings 0 settings)], []⟩) := by
    simp [Installation.step, SystemEvent.startsTunnel, Installation.processStep, System.step,
      PacketTunnel.step, left, PacketTunnel.proceed, System.performAll, System.perform, Except.map]
  obtain ⟨ctx, alive, same⟩ := settings_name_server Reference.api Reference.poll_laws
    Reference.foundation_laws Reference.serde_laws run stepped (List.mem_singleton_self _)
  exact ⟨history, installation, settings, ctx, run, left, alive, same⟩

end StunnelIos
