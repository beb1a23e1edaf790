import Mathlib.Data.List.Basic
import StunnelIos.Tunnel.Provider

/-! What the provider has cleaned up when a tunnel is down: cores stopped, bridges
released, each once and in order. -/
namespace StunnelIos

/-- The calls that end a core, in the order of the log. -/
def teardown (handle : CoreHandle) (log : List TunnelAction) : List TunnelAction :=
  log.filter fun action => action = .clearPacketCallback handle ∨ action = .stop handle

structure CleanedUp (log : List TunnelAction) (provider : PacketTunnelProvider) : Prop where
  cores : ∀ handle configJson, .create (some handle) configJson ∈ log →
    teardown handle log = [.clearPacketCallback handle, .stop handle]
  handle : provider.rustHandle = none
  bridges : ∀ bridge, .retainBridge bridge ∈ log → log.count (.releaseBridge bridge) = 1

/-- No bridge is released while it is the callback context of a core whose callback has
not been cleared. -/
def ReleasedAfterClear (log : List TunnelAction) : Prop :=
  ∀ before after bridge, log = before ++ .releaseBridge bridge :: after →
    ∀ handle, .setPacketCallback handle (some bridge) ∈ before →
      .clearPacketCallback handle ∈ before

/-- The latest call of `startTunnel`, and whether the tunnel is down: that call has
reported an error, or `stopTunnel` has completed since. -/
structure TunnelStatus where
  latest : Option StartId
  down : Bool
deriving DecidableEq, Repr

def TunnelStatus.next (status : TunnelStatus) : TunnelAction → TunnelStatus
  | .startTunnel start => ⟨some start, false⟩
  | .completeStart start (some _) => { status with down := status.down || status.latest == some start }
  | .completeStop => { status with down := true }
  | _ => status

def tunnelStatus (log : List TunnelAction) : TunnelStatus :=
  log.foldl TunnelStatus.next ⟨none, false⟩

/-- The moment after a call: whenever the tunnel is down everything has been cleaned up,
and at no time was a bridge released early. -/
def CleansUp (x : Runs.Transition PacketTunnelProvider TunnelEvent (List TunnelAction))
    (earlier : TunnelHistory) : Prop :=
  ((tunnelStatus (actionLog (x :: earlier))).down = true →
      CleanedUp (actionLog (x :: earlier)) x.after) ∧
    ReleasedAfterClear (actionLog (x :: earlier))

/-- `startTunnel` is called without a core, and the settings of its latest call fail
only once there is none. -/
def NoCoreLeft (x : Runs.Transition PacketTunnelProvider TunnelEvent (List TunnelAction))
    (_earlier : TunnelHistory) : Prop :=
  match x.event with
  | .startTunnel _ => x.before.rustHandle = none
  | .settingsCompleted start (some _) => start ∈ x.before.pendingSettings →
      x.before.nextStart = start + 1 → x.before.rustHandle = none
  | _ => True

/-! The story of a number: what is done with the core and the bridge that carry it. -/

def TunnelAction.names : TunnelAction → List Nat
  | .retainBridge bridge | .releaseBridge bridge => [bridge]
  | .create handle _ => handle.toList
  | .setPacketCallback handle context => handle :: context.toList
  | .start handle _ | .clearPacketCallback handle | .stop handle => [handle]
  | _ => []

def story (k : Nat) (log : List TunnelAction) : List TunnelAction :=
  log.filter fun action => k ∈ action.names

/-- The stories of a number whose core and bridge, if any, are gone. -/
inductive Ended (k : Nat) : List TunnelAction → Prop where
  | unused : Ended k []
  | abandoned : Ended k [.retainBridge k, .releaseBridge k]
  | core {configJson started} : Ended k
      [.retainBridge k, .create (some k) configJson, .setPacketCallback k (some k),
        .start k started, .clearPacketCallback k, .stop k, .releaseBridge k]

/-- The story of a running core and its bridge. -/
def Running (k : Nat) (log : List TunnelAction) : Prop :=
  ∃ configJson, log = [.retainBridge k, .create (some k) configJson,
    .setPacketCallback k (some k), .start k true]

/-- There is at most one core, with its own bridge; every other story has ended. -/
structure Tidy (log : List TunnelAction) (provider : PacketTunnelProvider) : Prop where
  paired : provider.packetBridgeContext = provider.rustHandle
  running : ∀ k, provider.rustHandle = some k → k < provider.nextStart ∧ Running k (story k log)
  ended : ∀ k, provider.rustHandle ≠ some k → Ended k (story k log)
  fresh : ∀ k, provider.nextStart ≤ k → story k log = []
  latest : ∀ k, (tunnelStatus log).latest = some k ↔ provider.nextStart = k + 1
  down : (tunnelStatus log).down = true → provider.rustHandle = none

section
variable {log actions : List TunnelAction} {provider : PacketTunnelProvider} {k : Nat}

@[simp] theorem story_nil : story k [] = [] := rfl

@[simp] theorem story_cons {action : TunnelAction} :
    story k (action :: log) = if k ∈ action.names then action :: story k log else story k log := by
  simp [story, List.filter_cons]

@[simp] theorem story_append : story k (log ++ actions) = story k log ++ story k actions :=
  List.filter_append ..

theorem mem_story {action : TunnelAction} : action ∈ story k log ↔ action ∈ log ∧ k ∈ action.names := by
  simp [story]

theorem teardown_story : teardown k (story k log) = teardown k log := by
  unfold teardown story
  rw [List.filter_filter]
  refine List.filter_congr fun action _ => ?_
  by_cases cleared : action = .clearPacketCallback k
  · simp [cleared, TunnelAction.names]
  · by_cases stopped : action = .stop k
    · simp [stopped, TunnelAction.names]
    · simp [cleared, stopped]

theorem count_story : (story k log).count (.releaseBridge k) = log.count (.releaseBridge k) :=
  List.count_filter (by simp [TunnelAction.names])

theorem Ended.torn_down (ended : Ended k log) {configJson : String}
    (created : .create (some k) configJson ∈ log) :
    teardown k log = [.clearPacketCallback k, .stop k] := by
  cases ended with
  | unused | abandoned => simp at created
  | core => simp [teardown]

theorem Ended.released (ended : Ended k log) (retained : .retainBridge k ∈ log) :
    log.count (.releaseBridge k) = 1 := by
  cases ended with
  | unused => simp at retained
  | abandoned | core => simp

/-- In an ended story the bridge goes last, after the callback. -/
theorem Ended.cleared (ended : Ended k log) {before after : List TunnelAction}
    (split : log = before ++ .releaseBridge k :: after) {handle : CoreHandle}
    (registered : .setPacketCallback handle (some k) ∈ before) :
    .clearPacketCallback handle ∈ before := by
  cases ended with
  | unused => simp at split
  | abandoned =>
      have same : [TunnelAction.retainBridge k] ++ .releaseBridge k :: [] =
          before ++ .releaseBridge k :: after := split
      obtain ⟨rfl, _⟩ := (List.append_cons_inj_of_notMem (by simp) (by simp)).mp same
      simp at registered
  | @core configJson started =>
      have same : [.retainBridge k, .create (some k) configJson, .setPacketCallback k (some k),
          .start k started, .clearPacketCallback k, .stop k] ++ .releaseBridge k :: [] =
          before ++ .releaseBridge k :: after := split
      obtain ⟨rfl, _⟩ := (List.append_cons_inj_of_notMem (by simp) (by simp)).mp same
      obtain rfl : handle = k := by simpa using registered
      simp

theorem Tidy.cleanedUp (tidy : Tidy log provider) (idle : provider.rustHandle = none) :
    CleanedUp log provider := by
  have ended : ∀ k, Ended k (story k log) := fun k => tidy.ended k (by simp [idle])
  refine ⟨?_, idle, ?_⟩
  · intro handle configJson created
    rw [← teardown_story]
    exact (ended handle).torn_down (mem_story.mpr ⟨created, by simp [TunnelAction.names]⟩)
  · intro bridge retained
    rw [← count_story]
    exact (ended bridge).released (mem_story.mpr ⟨retained, by simp [TunnelAction.names]⟩)

theorem Tidy.releasedAfterClear (tidy : Tidy log provider) : ReleasedAfterClear log := by
  intro before after bridge split handle registered
  have told : story bridge log = story bridge before ++ .releaseBridge bridge :: story bridge after := by
    rw [split, story_append]
    simp [story, TunnelAction.names]
  have registered : .setPacketCallback handle (some bridge) ∈ story bridge before :=
    mem_story.mpr ⟨registered, by simp [TunnelAction.names]⟩
  by_cases runs : provider.rustHandle = some bridge
  · obtain ⟨_, configJson, running⟩ := tidy.running bridge runs
    rw [running] at told
    have released : .releaseBridge bridge ∈ story bridge before ++
        .releaseBridge bridge :: story bridge after := by simp
    rw [← told] at released
    simp at released
  · exact (mem_story.mp ((tidy.ended bridge runs).cleared told registered)).1

/-! Every call that leaves no core behind keeps the log tidy. -/

theorem tunnelStatus_append :
    tunnelStatus (log ++ actions) = actions.foldl TunnelStatus.next (tunnelStatus log) :=
  List.foldl_append ..

/-- A call that is only about the number `k` leaves the other stories alone. -/
theorem Tidy.about (tidy : Tidy log provider) {provider' : PacketTunnelProvider}
    (others : ∀ j, j ≠ k → story j actions = [])
    (paired : provider'.packetBridgeContext = provider'.rustHandle)
    (next : provider.nextStart ≤ provider'.nextStart) (known : k < provider'.nextStart)
    (same : ∀ j, j ≠ k → (provider'.rustHandle = some j ↔ provider.rustHandle = some j))
    (running : provider'.rustHandle = some k → Running k (story k (log ++ actions)))
    (ended : provider'.rustHandle ≠ some k → Ended k (story k (log ++ actions)))
    (latest : ∀ j, (tunnelStatus (log ++ actions)).latest = some j ↔ provider'.nextStart = j + 1)
    (down : (tunnelStatus (log ++ actions)).down = true → provider'.rustHandle = none) :
    Tidy (log ++ actions) provider' := by
  have kept : ∀ j, j ≠ k → story j (log ++ actions) = story j log := by
    intro j other
    rw [story_append, others j other, List.append_nil]
  refine ⟨paired, ?_, ?_, ?_, latest, down⟩
  · intro j runs
    by_cases own : j = k
    · subst own
      exact ⟨known, running runs⟩
    · obtain ⟨older, told⟩ := tidy.running j ((same j own).mp runs)
      exact ⟨Nat.lt_of_lt_of_le older next, (kept j own).symm ▸ told⟩
  · intro j stopped
    by_cases own : j = k
    · subst own
      exact ended stopped
    · exact (kept j own).symm ▸ tidy.ended j fun runs => stopped ((same j own).mpr runs)
  · intro j later
    have own : j ≠ k := fun own => absurd (own ▸ known) (Nat.not_lt_of_le later)
    exact (kept j own).trans (tidy.fresh j (Nat.le_trans next later))

theorem Tidy.started (tidy : Tidy log provider) (idle : provider.rustHandle = none)
    (outcome : RuntimeOutcome) :
    Tidy (log ++ provider.startTunnel outcome) (provider.run (provider.startTunnel outcome)) := by
  have fresh := tidy.fresh provider.nextStart le_rfl
  have released : provider.releasePacketBridge = [] := by
    simp [PacketTunnelProvider.releasePacketBridge, tidy.paired.trans idle]
  obtain ⟨made, error, shape, plan⟩ | ⟨configJson, error, plan⟩ | ⟨configJson, settings, plan⟩ :=
    provider.startTunnel_cases outcome
  · rw [plan, released]
    obtain rfl | ⟨configJson, rfl⟩ := shape
    all_goals
      apply tidy.about (k := provider.nextStart)
      case others =>
        intro j apart
        simp [TunnelAction.names, apart]
      case ended =>
        intro _
        simpa [TunnelAction.names, fresh] using @Ended.abandoned provider.nextStart
      all_goals
        simp [TunnelAction.names, PacketTunnelProvider.run, PacketTunnelProvider.apply, idle,
          tunnelStatus_append, TunnelStatus.next]
  · rw [plan, released]
    apply tidy.about (k := provider.nextStart)
    case others =>
      intro j apart
      simp [TunnelAction.names, apart]
    case ended =>
      intro _
      simpa [TunnelAction.names, fresh] using @Ended.core provider.nextStart configJson false
    all_goals
      simp [TunnelAction.names, PacketTunnelProvider.run, PacketTunnelProvider.apply, idle,
        tunnelStatus_append, TunnelStatus.next]
  · rw [plan, released]
    apply tidy.about (k := provider.nextStart)
    case others =>
      intro j apart
      simp [TunnelAction.names, apart]
    case same =>
      intro j apart
      simp [PacketTunnelProvider.run, PacketTunnelProvider.apply, idle, Ne.symm apart]
    case running =>
      intro _
      exact ⟨configJson, by simp [TunnelAction.names, fresh]⟩
    all_goals
      simp [TunnelAction.names, PacketTunnelProvider.run, PacketTunnelProvider.apply, idle,
        tunnelStatus_append, TunnelStatus.next]

theorem Tidy.stopped (tidy : Tidy log provider) :
    Tidy (log ++ provider.stopTunnel) (provider.run provider.stopTunnel) := by
  obtain ⟨rustHandle, context, next, pending⟩ := provider
  obtain rfl : context = rustHandle := tidy.paired
  cases context with
  | none =>
      have plan : PacketTunnelProvider.stopTunnel ⟨none, none, next, pending⟩ =
          [.stopTunnel, .setRustHandle none, .completeStop] := rfl
      rw [plan]
      have kept : ∀ j, story j (log ++ [.stopTunnel, .setRustHandle none, .completeStop]) =
          story j log := by simp [TunnelAction.names]
      refine ⟨rfl, ?_, ?_, ?_, ?_, fun _ => rfl⟩
      · intro k runs
        cases runs
      · intro k _
        rw [kept]
        exact tidy.ended k (by simp)
      · intro k later
        rw [kept]
        exact tidy.fresh k later
      · simpa [tunnelStatus_append, TunnelStatus.next, PacketTunnelProvider.run,
          PacketTunnelProvider.apply] using tidy.latest
  | some k =>
      have plan : PacketTunnelProvider.stopTunnel ⟨some k, some k, next, pending⟩ =
          [.stopTunnel, .clearPacketCallback k, .stop k, .setRustHandle none, .releaseBridge k,
            .completeStop] := rfl
      obtain ⟨known, configJson, told⟩ := tidy.running k rfl
      rw [plan]
      apply tidy.about (k := k)
      case others =>
        intro j apart
        simp [TunnelAction.names, apart]
      case same =>
        intro j apart
        simp [PacketTunnelProvider.run, PacketTunnelProvider.apply, Ne.symm apart]
      case ended =>
        intro _
        simpa [TunnelAction.names, told] using @Ended.core k configJson true
      case latest =>
        simpa [tunnelStatus_append, TunnelStatus.next, PacketTunnelProvider.run,
          PacketTunnelProvider.apply] using tidy.latest
      all_goals
        simp [PacketTunnelProvider.run, PacketTunnelProvider.apply]
      exact known

theorem Tidy.settings (tidy : Tidy log provider) (start : StartId) (error : Option String)
    (allowed : ∀ description, error = some description → provider.nextStart = start + 1 →
      provider.rustHandle = none) :
    Tidy (log ++ PacketTunnelProvider.settingsCompleted start error)
      (provider.run (PacketTunnelProvider.settingsCompleted start error)) := by
  have kept : ∀ j, story j (log ++ PacketTunnelProvider.settingsCompleted start error) =
      story j log := by
    cases error <;> simp [PacketTunnelProvider.settingsCompleted, TunnelAction.names]
  have same : provider.run (PacketTunnelProvider.settingsCompleted start error) =
      { provider with pendingSettings := provider.pendingSettings.erase start } := by
    cases error <;> rfl
  rw [same]
  refine ⟨tidy.paired, ?_, ?_, ?_, ?_, ?_⟩
  · intro k runs
    rw [kept]
    exact tidy.running k runs
  · intro k stopped
    rw [kept]
    exact tidy.ended k stopped
  · intro k later
    rw [kept]
    exact tidy.fresh k later
  · cases error <;> simpa [tunnelStatus_append, PacketTunnelProvider.settingsCompleted,
      TunnelStatus.next] using tidy.latest
  · cases error with
    | none =>
        simpa [tunnelStatus_append, PacketTunnelProvider.settingsCompleted, TunnelStatus.next]
          using tidy.down
    | some description =>
        simp only [tunnelStatus_append, PacketTunnelProvider.settingsCompleted, List.foldl_cons,
          List.foldl_nil, TunnelStatus.next, Bool.or_eq_true, beq_iff_eq]
        rintro (down | latest)
        · exact tidy.down down
        · exact allowed description rfl ((tidy.latest start).mp latest)

end

section
variable {history : TunnelHistory} {provider provider' : PacketTunnelProvider} {event : TunnelEvent}
  {actions : List TunnelAction}

theorem Tidy.new : Tidy [] .new := by
  refine ⟨rfl, ?_, fun k _ => .unused, fun _ _ => rfl, ?_, fun _ => rfl⟩
  · intro k runs
    cases runs
  · simp [tunnelStatus, PacketTunnelProvider.new]

theorem Tidy.step (tidy : Tidy (actionLog history) provider)
    (stepped : provider.step event = (provider', actions))
    (allowed : NoCoreLeft ⟨provider, event, actions, provider'⟩ history) :
    Tidy (actionLog (⟨provider, event, actions, provider'⟩ :: history)) provider' := by
  cases stepped
  cases event with
  | startTunnel outcome => exact tidy.started allowed outcome
  | stopTunnel => exact tidy.stopped
  | settingsCompleted start error =>
      simp only [actionLog, PacketTunnelProvider.actions]
      split
      · rename_i pending
        refine tidy.settings start error ?_
        rintro description rfl latest
        exact allowed pending latest
      · simpa [PacketTunnelProvider.run] using tidy

/-- A call that leaves a core behind shows at once: its bridge is released while it runs,
or an error is reported while it does. -/
theorem Tidy.left_behind (tidy : Tidy (actionLog history) provider)
    (stepped : provider.step event = (provider', actions))
    (clean : CleansUp ⟨provider, event, actions, provider'⟩ history) :
    NoCoreLeft ⟨provider, event, actions, provider'⟩ history := by
  cases stepped
  unfold NoCoreLeft
  split
  · rename_i outcome same
    obtain rfl : event = .startTunnel outcome := same
    by_contra runs
    obtain ⟨k, runs⟩ := Option.ne_none_iff_exists'.mp runs
    have runs : provider.rustHandle = some k := runs
    obtain ⟨_, configJson, told⟩ := tidy.running k runs
    have context : provider.packetBridgeContext = some k := tidy.paired.trans runs
    have registered : .setPacketCallback k (some k) ∈ actionLog history :=
      (mem_story.mp (by rw [told]; simp)).1
    obtain ⟨rest, plan⟩ : ∃ rest, provider.startTunnel outcome =
        [.startTunnel provider.nextStart] ++ .releaseBridge k :: rest := by
      simp only [PacketTunnelProvider.startTunnel, PacketTunnelProvider.installPacketBridge,
        PacketTunnelProvider.releasePacketBridge, context]
      split <;> exact ⟨_, rfl⟩
    have cleared := clean.2 (actionLog history ++ [.startTunnel provider.nextStart]) rest k
      (by simp [actionLog, PacketTunnelProvider.actions, plan]) k
      (List.mem_append_left _ registered)
    have cleared : .clearPacketCallback k ∈ actionLog history := by simpa using cleared
    have ends : .clearPacketCallback k ∈ story k (actionLog history) :=
      mem_story.mpr ⟨cleared, by simp [TunnelAction.names]⟩
    rw [told] at ends
    simp at ends
  · rename_i start description same
    obtain rfl : event = .settingsCompleted start (some description) := same
    intro pending latest
    have pending : start ∈ provider.pendingSettings := pending
    have down : (tunnelStatus (actionLog history ++
        PacketTunnelProvider.settingsCompleted start (some description))).down = true := by
      simp [tunnelStatus_append, PacketTunnelProvider.settingsCompleted, TunnelStatus.next,
        (tidy.latest start).mpr latest]
    have gone := (clean.1 (by simpa [actionLog, PacketTunnelProvider.actions, pending] using down)).handle
    simpa [PacketTunnelProvider.actions, pending, PacketTunnelProvider.settingsCompleted,
      PacketTunnelProvider.run, PacketTunnelProvider.apply] using gone
  · trivial

theorem TunnelRun.tidy (run : TunnelRun history provider)
    (allowed : Runs.Throughout NoCoreLeft history) : Tidy (actionLog history) provider := by
  refine Runs.Run.conditional_invariant run allowed
    (P := fun history provider => Tidy (actionLog history) provider) .new ?_
  intro history provider event actions provider' tidy stepped allowed
  exact tidy.step stepped allowed

/-- In every run the provider cleans up at every moment exactly when no call leaves a
core behind. -/
theorem cleans_up_iff (run : TunnelRun history provider) :
    Runs.Throughout CleansUp history ↔ Runs.Throughout NoCoreLeft history := by
  induction run with
  | nil => exact Iff.rfl
  | next earlier stepped ih =>
      constructor
      · rintro ⟨now, before⟩
        have allowed := ih.mp before
        exact ⟨(TunnelRun.tidy earlier allowed).left_behind stepped now, allowed⟩
      · rintro ⟨now, before⟩
        have tidy := (TunnelRun.tidy earlier before).step stepped now
        exact ⟨⟨fun down => tidy.cleanedUp (tidy.down down), tidy.releasedAfterClear⟩, ih.mpr before⟩

end

def coreStarts : RuntimeOutcome := ⟨.ok (some localConfig), .ok "config", true, true⟩

/-- The core has been started when its settings are refused. -/
def settingsRefused : List TunnelEvent :=
  [.startTunnel coreStarts, .settingsCompleted 0 (some "invalid settings")]

/-- The error is reported, and the core and its bridge are left behind. -/
theorem core_left_behind : ¬ ∀ history provider, TunnelRun history provider →
    Runs.Throughout CleansUp history := by
  intro claimed
  have clean := claimed _ _ (Runs.trace_run settingsRefused .nil)
  have gone := (clean.1.1 (by decide)).handle
  exact absurd gone (by decide)

instance (x : Runs.Transition PacketTunnelProvider TunnelEvent (List TunnelAction))
    (earlier : TunnelHistory) : Decidable (NoCoreLeft x earlier) := by
  unfold NoCoreLeft
  split <;> infer_instance

/-- A tunnel that comes up and is stopped, and one whose core does not start. -/
theorem cleans_up_iff_stopped : ∃ history provider, TunnelRun history provider ∧
    (tunnelStatus (actionLog history)).down = true ∧ history.length = 4 ∧
      Runs.Throughout NoCoreLeft history ∧ Runs.Throughout CleansUp history :=
  have run : TunnelRun _ _ := Runs.trace_run
    [.startTunnel coreStarts, .settingsCompleted 0 none, .stopTunnel,
      .startTunnel { coreStarts with started := false }] .nil
  have kept : Runs.Throughout NoCoreLeft _ := by decide
  ⟨_, _, run, by decide, rfl, kept, (cleans_up_iff run).mpr kept⟩

end StunnelIos
