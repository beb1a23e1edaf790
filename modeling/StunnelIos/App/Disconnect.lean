import StunnelIos.Library.Owned
import StunnelIos.Library.Retain
import StunnelIos.App.VPNManager

/-! Which tunnel `disconnect` reaches. Every load that completes replaces
`tunnelManager`, while a connect request goes on with the manager it has captured. -/
namespace StunnelIos

def SessionCommand.started : SessionCommand → Option ManagerId
  | .startTunnel manager => some manager
  | .stopTunnel _ => none

def startedLast : VPNHistory → Option ManagerId
  | [] => none
  | x :: earlier => (x.output.findSome? SessionCommand.started).or (startedLast earlier)

/-- The manager a connect request goes on with after this request. -/
def PreferencesRequest.manager : PreferencesRequest → Option ManagerId
  | .loadManagers _ _ => none
  | .saveToPreferences manager _ | .loadFromPreferences manager => some manager

def PreferencesRequest.written : PreferencesRequest → Bool
  | .loadManagers _ _ => false
  | .saveToPreferences _ written => written
  | .loadFromPreferences _ => true

namespace VPNManager

/-- The stored configuration that a manager denotes. -/
def configurationOf (vpn : VPNManager) (manager : ManagerId) : Option ConfigurationId :=
  vpn.managers[manager]?.bind (·.configuration)

def Connecting (vpn : VPNManager) (manager : ManagerId) : Prop :=
  ∃ id request, vpn.requests.lookup id = some request ∧ request.manager = some manager

end VPNManager

/-- Once a tunnel has been started, `tunnelManager` denotes its stored configuration. -/
def ReachesStarted (x : Runs.Transition VPNManager VPNEvent (List SessionCommand))
    (earlier : VPNHistory) : Prop :=
  ∀ manager, startedLast (x :: earlier) = some manager →
    ∃ current configuration, x.after.tunnelManager = some current ∧
      x.after.configurationOf current = some configuration ∧
      x.after.configurationOf manager = some configuration

/-- A load that succeeds returns first the configuration of every manager that a connect
request is going on with, and of the one whose session was started last. -/
def LoadsInUse (x : Runs.Transition VPNManager VPNEvent (List SessionCommand))
    (earlier : VPNHistory) : Prop :=
  ∀ request found saved completion, x.event = .loaded request (.ok found) →
    x.before.requests.lookup request = some (.loadManagers saved completion) → found.Perm saved →
    ∀ manager, x.before.Connecting manager ∨ startedLast earlier = some manager →
      ∃ entry, found.head? = some entry ∧ x.before.configurationOf manager = some entry.1

/-- `tunnelManager` is every manager in use or denotes its configuration, and managers
are saved before they are loaded again. -/
structure Follows (history : VPNHistory) (vpn : VPNManager) : Prop where
  current : ∀ manager, vpn.Connecting manager ∨ startedLast history = some manager →
    vpn.tunnelManager = some manager ∨ ∃ current configuration,
      vpn.tunnelManager = some current ∧ vpn.configurationOf current = some configuration ∧
      vpn.configurationOf manager = some configuration
  written : ∀ id request manager, vpn.requests.lookup id = some request →
    request.manager = some manager → request.written = true →
      ∃ configuration, vpn.configurationOf manager = some configuration
  started : ∀ manager, startedLast history = some manager →
    ∃ configuration, vpn.configurationOf manager = some configuration
  made : ∀ manager, vpn.Connecting manager → manager < vpn.managers.length

section
variable {history : VPNHistory} {vpn vpn' : VPNManager} {event : VPNEvent}
  {commands : List SessionCommand} {manager : ManagerId} {configuration : ConfigurationId}

theorem Follows.reachesStarted {x : Runs.Transition VPNManager VPNEvent (List SessionCommand)}
    (follows : Follows (x :: history) x.after) : ReachesStarted x history := by
  intro manager last
  obtain same | reached := follows.current manager (.inr last)
  · obtain ⟨configuration, saved⟩ := follows.started manager last
    exact ⟨manager, configuration, same, saved, saved⟩
  · exact reached

/-- A step that does not replace `tunnelManager`. -/
theorem Follows.keep (follows : Follows history vpn) (same : vpn'.tunnelManager = vpn.tunnelManager)
    (keeps : ∀ manager configuration, vpn.configurationOf manager = some configuration →
      vpn'.configurationOf manager = some configuration)
    (longer : vpn.managers.length ≤ vpn'.managers.length)
    (requests : ∀ id request manager, vpn'.requests.lookup id = some request →
      request.manager = some manager → vpn.Connecting manager ∧
        (request.written = true → ∃ configuration, vpn'.configurationOf manager = some configuration))
    (starts : ∀ manager, commands.findSome? SessionCommand.started = some manager →
      vpn.Connecting manager ∧ ∃ configuration, vpn'.configurationOf manager = some configuration) :
    Follows (⟨vpn, event, commands, vpn'⟩ :: history) vpn' := by
  have connecting : ∀ {manager}, vpn'.Connecting manager → vpn.Connecting manager := by
    rintro manager ⟨id, request, found, captured⟩
    exact (requests id request manager found captured).1
  have last : ∀ {manager}, startedLast (⟨vpn, event, commands, vpn'⟩ :: history) = some manager →
      (vpn.Connecting manager ∧ ∃ configuration, vpn'.configurationOf manager = some configuration) ∨
        startedLast history = some manager := by
    intro manager started
    obtain now | ⟨_, before⟩ := Option.or_eq_some_iff.mp started
    · exact .inl (starts manager now)
    · exact .inr before
  refine ⟨?_, ?_, ?_, ?_⟩
  · intro manager used
    have used : vpn.Connecting manager ∨ startedLast history = some manager := by
      obtain busy | started := used
      · exact .inl (connecting busy)
      · exact (last started).imp_left And.left
    obtain held | ⟨current, configuration, held, denoted, shared⟩ := follows.current manager used
    · exact .inl (same.trans held)
    · exact .inr ⟨current, configuration, same.trans held, keeps _ _ denoted, keeps _ _ shared⟩
  · intro id request manager found captured written
    exact (requests id request manager found captured).2 written
  · intro manager started
    obtain ⟨_, saved⟩ | before := last started
    · exact saved
    · obtain ⟨configuration, saved⟩ := follows.started manager before
      exact ⟨configuration, keeps _ _ saved⟩
  · intro manager busy
    exact Nat.lt_of_lt_of_le (follows.made manager (connecting busy)) longer

theorem Follows.beside (follows : Follows history vpn)
    (same : vpn'.tunnelManager = vpn.tunnelManager) (managers : vpn'.managers = vpn.managers)
    (requests : ∀ id request manager, vpn'.requests.lookup id = some request →
      request.manager = some manager → vpn.requests.lookup id = some request)
    (silent : commands.findSome? SessionCommand.started = none) :
    Follows (⟨vpn, event, commands, vpn'⟩ :: history) vpn' := by
  have keeps : ∀ manager, vpn'.configurationOf manager = vpn.configurationOf manager := by
    intro manager
    simp only [VPNManager.configurationOf, managers]
  refine follows.keep same (fun manager configuration saved => (keeps manager).trans saved)
    (by rw [managers]) ?_ (by simp [silent])
  intro id request manager found captured
  have before := requests id request manager found captured
  refine ⟨⟨id, request, before, captured⟩, fun written => ?_⟩
  rw [keeps]
  exact follows.written id request manager before captured written

theorem Follows.idle (follows : Follows history vpn) :
    Follows (⟨vpn, event, [], vpn⟩ :: history) vpn :=
  follows.beside rfl rfl (fun _ _ _ found _ => found) rfl

theorem Follows.setupAndConnect (follows : Follows history vpn) (config : VPNConfig)
    (saved : Except String Unit) :
    Follows (⟨vpn, event, [], vpn.setupAndConnect config saved⟩ :: history)
      (vpn.setupAndConnect config saved) := by
  cases saved with
  | error description => exact follows.beside rfl rfl (fun _ _ _ found _ => found) rfl
  | ok =>
      refine follows.beside rfl rfl ?_ rfl
      intro id request manager found captured
      obtain ⟨_, rfl⟩ | ⟨_, found⟩ := AList.lookup_insert_eq_some.mp found
      · cases captured
      · exact found

theorem Follows.completed (follows : Follows history vpn) (request : RequestId)
    (same : vpn'.tunnelManager = vpn.tunnelManager) (managers : vpn'.managers = vpn.managers)
    (requests : vpn'.requests = vpn.requests.erase request) :
    Follows (⟨vpn, event, [], vpn'⟩ :: history) vpn' := by
  refine follows.beside same managers ?_ rfl
  intro id request manager found _
  rw [requests] at found
  exact (AList.lookup_erase_eq_some.mp found).2

theorem VPNManager.updateStatus_fields (vpn : VPNManager) :
    vpn.updateStatus.tunnelManager = vpn.tunnelManager ∧ vpn.updateStatus.managers = vpn.managers ∧
      vpn.updateStatus.requests = vpn.requests := by
  unfold updateStatus
  split <;> exact ⟨rfl, rfl, rfl⟩

theorem VPNManager.write_spec (vpn : VPNManager) (manager : ManagerId)
    (made : manager < vpn.managers.length) :
    (vpn.write manager).tunnelManager = vpn.tunnelManager ∧
      (vpn.write manager).requests = vpn.requests ∧
      (vpn.write manager).managers.length = vpn.managers.length ∧
      (∃ configuration, (vpn.write manager).configurationOf manager = some configuration) ∧
      ∀ other configuration, vpn.configurationOf other = some configuration →
        (vpn.write manager).configurationOf other = some configuration := by
  obtain ⟨object, found⟩ : ∃ object, vpn.managers[manager]? = some object :=
    ⟨_, List.getElem?_eq_getElem made⟩
  obtain ⟨preferences, _ | configuration⟩ := object
  · have written : vpn.write manager = { vpn with
        stored := vpn.stored ++ [⟨preferences, .disconnected⟩]
        managers := vpn.managers.set manager ⟨preferences, some vpn.stored.length⟩ } := by
      simp only [write, found]
    rw [written]
    refine ⟨rfl, rfl, List.length_set, ⟨vpn.stored.length, ?_⟩, ?_⟩
    · simp [configurationOf, made]
    · intro other configuration saved
      obtain rfl | different := eq_or_ne other manager
      · simp [configurationOf, found] at saved
      · simpa [configurationOf, List.getElem?_set_ne different.symm] using saved
  · have written : vpn.write manager = { vpn with
        stored := vpn.stored.modify configuration fun entry => { entry with preferences } } := by
      simp only [write, found]
    rw [written]
    refine ⟨rfl, rfl, rfl, ⟨configuration, ?_⟩, fun _ _ saved => saved⟩
    simp [configurationOf, found]

theorem VPNManager.reload_configurationOf (vpn : VPNManager) (reloaded manager : ManagerId) :
    (vpn.reload reloaded).configurationOf manager = vpn.configurationOf manager := by
  simp only [configurationOf, reload, List.getElem?_modify]
  cases vpn.managers[manager]? with
  | none => rfl
  | some object =>
      simp only [Option.map_eq_map, Option.map_some, Option.bind_some]
      split
      · split <;> rfl
      · rfl

theorem Follows.write (follows : Follows history vpn) {request : RequestId}
    (found : vpn.requests.lookup request = some (.saveToPreferences manager false)) :
    Follows (⟨vpn, event, [], { vpn.write manager with
        requests := vpn.requests.insert request (.saveToPreferences manager true) }⟩ :: history)
      { vpn.write manager with
        requests := vpn.requests.insert request (.saveToPreferences manager true) } := by
  have busy : vpn.Connecting manager := ⟨request, _, found, rfl⟩
  obtain ⟨same, _, length, saved, keeps⟩ := vpn.write_spec manager (follows.made manager busy)
  refine follows.keep same keeps (le_of_eq length.symm) ?_ (by simp)
  intro id other manager' found' captured
  obtain ⟨_, rfl⟩ | ⟨_, found'⟩ := AList.lookup_insert_eq_some.mp found'
  · cases captured
    exact ⟨busy, fun _ => saved⟩
  · refine ⟨⟨id, other, found', captured⟩, fun written => ?_⟩
    obtain ⟨configuration, saved⟩ := follows.written id other manager' found' captured written
    exact ⟨configuration, keeps _ _ saved⟩

theorem Follows.saved (follows : Follows history vpn) {request : RequestId}
    (found : vpn.requests.lookup request = some (.saveToPreferences manager true)) :
    Follows (⟨vpn, event, [], (vpn.complete request).reloadManagerPreferences manager⟩ :: history)
      ((vpn.complete request).reloadManagerPreferences manager) := by
  refine follows.keep rfl (fun _ _ saved => saved) le_rfl ?_ (by simp)
  intro id other manager' found' captured
  obtain ⟨_, rfl⟩ | ⟨_, found'⟩ := AList.lookup_insert_eq_some.mp found'
  · cases captured
    exact ⟨⟨request, _, found, rfl⟩, fun _ => follows.written request _ manager found rfl rfl⟩
  · have before := (AList.lookup_erase_eq_some.mp found').2
    exact ⟨⟨id, other, before, captured⟩, follows.written id other manager' before captured⟩

theorem Follows.reloaded (follows : Follows history vpn) {request : RequestId}
    (found : vpn.requests.lookup request = some (.loadFromPreferences manager))
    (session : SessionStart)
    (moved : ((vpn.complete request).reload manager).startTunnelSession manager session =
      (vpn', commands)) :
    Follows (⟨vpn, event, commands, vpn'⟩ :: history) vpn' := by
  have fields : vpn'.tunnelManager = vpn.tunnelManager ∧
      vpn'.managers = ((vpn.complete request).reload manager).managers ∧
      vpn'.requests = vpn.requests.erase request ∧
      ∀ started, commands.findSome? SessionCommand.started = some started → started = manager := by
    cases session <;> cases moved <;>
      simp [VPNManager.fail, VPNManager.clearError, VPNManager.reload, VPNManager.complete,
        SessionCommand.started, eq_comm]
  obtain ⟨same, managers, requests, only⟩ := fields
  have keeps : ∀ other, vpn'.configurationOf other = vpn.configurationOf other := by
    intro other
    rw [VPNManager.configurationOf, managers]
    exact VPNManager.reload_configurationOf (vpn.complete request) manager other
  refine follows.keep same (fun other _ saved => (keeps other).trans saved) ?_ ?_ ?_
  · simp [managers, VPNManager.reload, VPNManager.complete]
  · intro id other manager' found' captured
    rw [requests] at found'
    have before := (AList.lookup_erase_eq_some.mp found').2
    rw [keeps]
    exact ⟨⟨id, other, before, captured⟩, follows.written id other manager' before captured⟩
  · intro started start
    obtain rfl := only started start
    rw [keeps]
    exact ⟨⟨request, _, found, rfl⟩, follows.written request _ started found rfl rfl⟩

theorem VPNManager.configurationOf_append {managers : List TunnelProviderManager}
    (appended : ∃ made, managers = vpn.managers ++ made)
    (saved : vpn.configurationOf manager = some configuration) :
    managers[manager]?.bind (·.configuration) = some configuration := by
  obtain ⟨made, rfl⟩ := appended
  obtain ⟨object, found, denoted⟩ := Option.bind_eq_some_iff.mp saved
  rw [List.getElem?_append_left (List.getElem?_eq_some_iff.mp found).1, found]
  exact denoted

/-- The first configuration that a load returns is the one that `tunnelManager` denotes
afterwards, and the old managers are left alone. -/
theorem VPNManager.managersLoaded_spec (vpn : VPNManager)
    (found : List (ConfigurationId × TunnelPreferences)) :
    (vpn.managersLoaded found).tunnelManager = some vpn.managers.length ∧
      (vpn.managersLoaded found).requests = vpn.requests ∧
      vpn.managers.length < (vpn.managersLoaded found).managers.length ∧
      (vpn.managersLoaded found).configurationOf vpn.managers.length =
        found.head?.map Prod.fst ∧
      ∀ manager configuration, vpn.configurationOf manager = some configuration →
        (vpn.managersLoaded found).configurationOf manager = some configuration := by
  refine ⟨rfl, rfl, ?_, ?_, fun manager configuration saved => configurationOf_append ⟨_, rfl⟩ saved⟩
  · cases found <;> simp [managersLoaded, loadedManagers]
  · cases found <;> simp [managersLoaded, loadedManagers, configurationOf, newManager]

theorem VPNManager.configure_configurationOf (vpn : VPNManager) (configured manager : ManagerId)
    (config : VPNConfig) :
    (vpn.configure configured config).configurationOf manager = vpn.configurationOf manager := by
  simp only [configurationOf, configure, List.getElem?_modify]
  cases vpn.managers[manager]? with
  | none => rfl
  | some object =>
      simp only [Option.map_eq_map, Option.map_some, Option.bind_some]
      split <;> rfl

/-- What the flow that requested a load does with the manager it finds. -/
theorem VPNManager.loadCompleted_spec (vpn : VPNManager) (completion : LoadCompletion)
    (held : vpn.tunnelManager = some manager) :
    (vpn.loadCompleted completion none).tunnelManager = some manager ∧
      (vpn.loadCompleted completion none).managers.length = vpn.managers.length ∧
      (∀ other, (vpn.loadCompleted completion none).configurationOf other =
        vpn.configurationOf other) ∧
      ∀ id request captured, (vpn.loadCompleted completion none).requests.lookup id = some request →
        request.manager = some captured → vpn.requests.lookup id = some request ∨
          captured = manager ∧ request.written = false := by
  cases completion with
  | initial =>
      obtain ⟨same, managers, requests⟩ := vpn.updateStatus_fields
      refine ⟨same.trans held, congrArg List.length managers, ?_, ?_⟩
      · intro other
        simp only [configurationOf, loadCompleted, managers]
      · intro id request captured found _
        simp only [loadCompleted, requests] at found
        exact .inl found
  | connect config =>
      have goes_on : vpn.loadCompleted (.connect config) none =
          (vpn.configure manager config).saveManagerPreferences manager := by
        simp only [loadCompleted, held]
      rw [goes_on]
      refine ⟨held, List.length_modify _ _ _, ?_, ?_⟩
      · intro other
        exact vpn.configure_configurationOf manager other config
      · intro id request captured found captures
        obtain ⟨_, rfl⟩ | ⟨_, found⟩ := AList.lookup_insert_eq_some.mp found
        · cases captures
          exact .inr ⟨rfl, rfl⟩
        · exact .inl found

theorem Follows.loaded (follows : Follows history vpn) (request : RequestId)
    (found : List (ConfigurationId × TunnelPreferences)) (completion : LoadCompletion)
    (used : ∀ manager, vpn.Connecting manager ∨ startedLast history = some manager →
      ∃ entry, found.head? = some entry ∧ vpn.configurationOf manager = some entry.1) :
    Follows (⟨vpn, event, [],
        ((vpn.complete request).managersLoaded found).loadCompleted completion none⟩ :: history)
      (((vpn.complete request).managersLoaded found).loadCompleted completion none) := by
  obtain ⟨held, requests, longer, first, keeps⟩ := (vpn.complete request).managersLoaded_spec found
  obtain ⟨same, length, denotes, captures⟩ :=
    ((vpn.complete request).managersLoaded found).loadCompleted_spec completion held
  generalize ((vpn.complete request).managersLoaded found).loadCompleted completion none = vpn'
    at same length denotes captures ⊢
  have shared : ∀ manager, vpn.Connecting manager ∨ startedLast history = some manager →
      ∃ current configuration, vpn'.tunnelManager = some current ∧
        vpn'.configurationOf current = some configuration ∧
        vpn'.configurationOf manager = some configuration := by
    intro manager use
    obtain ⟨entry, head, saved⟩ := used manager use
    refine ⟨_, entry.1, same, ?_, ?_⟩
    · rw [denotes, first, head]
      rfl
    · rw [denotes]
      exact keeps manager entry.1 saved
  have older : ∀ {id other captured}, vpn'.requests.lookup id = some other →
      other.manager = some captured → vpn.requests.lookup id = some other ∨
        captured = vpn.managers.length ∧ other.written = false := by
    intro id other captured found' captures'
    obtain before | new := captures id other captured found' captures'
    · rw [requests] at before
      exact .inl (AList.lookup_erase_eq_some.mp before).2
    · exact .inr new
  refine ⟨?_, ?_, ?_, ?_⟩
  · rintro manager (⟨id, other, found', captured⟩ | started)
    · obtain before | ⟨rfl, _⟩ := older found' captured
      · exact .inr (shared manager (.inl ⟨id, other, before, captured⟩))
      · exact .inl same
    · exact .inr (shared manager (.inr started))
  · intro id other manager found' captured written
    obtain before | ⟨_, unwritten⟩ := older found' captured
    · obtain ⟨_, configuration, _, _, saved⟩ := shared manager (.inl ⟨id, other, before, captured⟩)
      exact ⟨configuration, saved⟩
    · simp [unwritten] at written
  · intro manager started
    obtain ⟨_, configuration, _, _, saved⟩ := shared manager (.inr started)
    exact ⟨configuration, saved⟩
  · rintro manager ⟨id, other, found', captured⟩
    have longer : vpn.managers.length < vpn'.managers.length := by
      rw [length]
      exact longer
    obtain before | ⟨rfl, _⟩ := older found' captured
    · exact Nat.lt_trans (follows.made manager ⟨id, other, before, captured⟩) longer
    · exact longer

theorem Follows.init (stored : List StoredConfiguration) : Follows [] (.init stored) := by
  have unused : ∀ id request manager, (VPNManager.init stored).requests.lookup id = some request →
      request.manager ≠ some manager := by
    intro id request manager found captured
    obtain ⟨_, rfl⟩ | ⟨_, found⟩ := AList.lookup_insert_eq_some.mp found
    · cases captured
    · cases found
  refine ⟨?_, ?_, by simp [startedLast], ?_⟩
  · rintro manager (⟨id, request, found, captured⟩ | started)
    · exact (unused id request manager found captured).elim
    · cases started
  · intro id request manager found captured
    exact (unused id request manager found captured).elim
  · rintro manager ⟨id, request, found, captured⟩
    exact (unused id request manager found captured).elim

/-- Every step keeps `tunnelManager` on what is in use, if its load does. -/
theorem Follows.step (follows : Follows history vpn) (moved : vpn.step event = (vpn', commands))
    (allowed : LoadsInUse ⟨vpn, event, commands, vpn'⟩ history) :
    Follows (⟨vpn, event, commands, vpn'⟩ :: history) vpn' := by
  cases event with
  | setupAndConnect config saved =>
      cases moved
      exact follows.setupAndConnect config saved
  | loaded request result =>
      simp only [VPNManager.step] at moved
      split at moved
      · rename_i completion description found
        cases moved
        cases completion with
        | initial =>
            obtain ⟨same, managers, requests⟩ := (vpn.complete request).updateStatus_fields
            exact follows.completed request same managers requests
        | connect config => exact follows.completed request rfl rfl rfl
      · rename_i saved completion found pending
        split at moved
        · rename_i perm
          cases moved
          exact follows.loaded request found completion
            (allowed request found saved completion rfl pending perm)
        · cases moved
          exact follows.idle
      · cases moved
        exact follows.idle
  | written request =>
      simp only [VPNManager.step] at moved
      split at moved <;> cases moved
      · exact follows.write ‹_›
      · exact follows.idle
  | saved request error =>
      simp only [VPNManager.step] at moved
      split at moved <;> cases moved
      · exact follows.completed request rfl rfl rfl
      · exact follows.saved ‹_›
      · exact follows.idle
  | reloaded request error session =>
      simp only [VPNManager.step] at moved
      split at moved
      · cases moved
        exact follows.completed request rfl rfl rfl
      · exact follows.reloaded ‹_› session moved
      · cases moved
        exact follows.idle
  | disconnect session =>
      cases moved
      refine follows.beside rfl rfl (fun _ _ _ found _ => found) ?_
      unfold VPNManager.disconnect
      split
      · rfl
      · cases session <;> rfl
  | statusDidChange configuration status =>
      cases moved
      obtain ⟨same, managers, requests⟩ := VPNManager.updateStatus_fields { vpn with
        stored := vpn.stored.modify configuration fun entry =>
          { entry with connectionStatus := status } }
      refine follows.beside same managers ?_ rfl
      intro id request manager found _
      rw [requests] at found
      exact found
  | main =>
      cases moved
      have fields : vpn.runMain.tunnelManager = vpn.tunnelManager ∧
          vpn.runMain.managers = vpn.managers ∧ vpn.runMain.requests = vpn.requests := by
        unfold VPNManager.runMain
        split <;> exact ⟨rfl, rfl, rfl⟩
      refine follows.beside fields.1 fields.2.1 ?_ rfl
      intro id request manager found _
      rw [fields.2.2] at found
      exact found

/-- In every run whose loads return what is in use, `disconnect` and `updateStatus` act on
the tunnel that was started last. -/
theorem disconnect_reaches_started {stored : List StoredConfiguration}
    (run : VPNRun stored history vpn) (allowed : Runs.Throughout LoadsInUse history) :
    Runs.Throughout ReachesStarted history := by
  refine Runs.Run.conditional_throughout (P := Follows) run allowed (.init stored) ?_ ?_
  · intro history vpn event commands vpn' follows moved allowed
    exact follows.step moved allowed
  · intro history vpn event commands vpn' follows moved allowed
    exact (follows.step moved allowed).reachesStarted

end

/-- Nothing is stored. A connect request starts its tunnel before the load of `init`
completes. -/
def initialLoadLate : List VPNEvent :=
  [.setupAndConnect localConfig (.ok ()), .loaded 1 (.ok []), .written 2, .saved 2 none,
    .reloaded 3 none .started, .loaded 0 (.ok [])]

theorem disconnect_misses_started : ¬ ∀ stored history vpn, VPNRun stored history vpn →
    Runs.Throughout ReachesStarted history := by
  intro claimed
  have reaches := (claimed [] _ _ (Runs.trace_run initialLoadLate .nil)).1
  obtain ⟨current, configuration, held, denoted, _⟩ := reaches 0 (by decide)
  obtain rfl : 1 = current := Option.some.inj held
  cases denoted

def VPNManager.inUse (vpn : VPNManager) (history : VPNHistory) : List ManagerId :=
  vpn.requests.values.filterMap PreferencesRequest.manager ++ (startedLast history).toList

def loadsInUse (x : Runs.Transition VPNManager VPNEvent (List SessionCommand))
    (earlier : VPNHistory) : Bool :=
  match x.event with
  | .loaded _ (.ok found) => (x.before.inUse earlier).all fun manager =>
      found.head?.isSome && x.before.configurationOf manager == found.head?.map Prod.fst
  | _ => true

theorem loadsInUse_sound {x : Runs.Transition VPNManager VPNEvent (List SessionCommand)}
    {earlier : VPNHistory} (checked : loadsInUse x earlier = true) : LoadsInUse x earlier := by
  intro request found saved completion event _ _ manager use
  have listed : manager ∈ x.before.inUse earlier := by
    refine List.mem_append.mpr (use.imp ?_ fun started => by simp [started])
    rintro ⟨id, other, pending, captured⟩
    exact List.mem_filterMap.mpr ⟨other, AList.mem_values pending, captured⟩
  simp only [loadsInUse, event, List.all_eq_true, Bool.and_eq_true, beq_iff_eq] at checked
  obtain ⟨returned, same⟩ := checked manager listed
  obtain ⟨entry, head⟩ := Option.isSome_iff_exists.mp returned
  refine ⟨entry, head, ?_⟩
  rw [same, head]
  rfl

/-- A tunnel is started on a new configuration, and a second connect request loads it. -/
theorem disconnect_reaches_started_again : ∃ history vpn, VPNRun [] history vpn ∧
    startedLast history = some 1 ∧ vpn.tunnelManager = some 2 ∧
      Runs.Throughout ReachesStarted history := by
  refine ⟨_, _, Runs.trace_run [.loaded 0 (.ok []), .setupAndConnect localConfig (.ok ()),
    .loaded 1 (.ok []), .written 2, .saved 2 none, .reloaded 3 none .started,
    .setupAndConnect localConfig (.ok ()),
    .loaded 4 (.ok [(0, VPNManager.configured VPNManager.newManager.preferences localConfig)])] .nil,
    by decide, by decide, disconnect_reaches_started (Runs.trace_run _ .nil) ?_⟩
  exact Runs.Throughout.mono (P := fun x earlier => loadsInUse x earlier = true) (by decide)
    loadsInUse_sound

end StunnelIos
