import StunnelIos.Library.Owned
import StunnelIos.Library.Retain
import StunnelIos.App.VPNManager

/-! What becomes of the requests to connect. Each goes through the store in steps that complete
in any order, beside others; all together balance with the sessions that are started and the
failures that are shown. -/
namespace StunnelIos

def PreferencesRequest.connects : PreferencesRequest → Bool
  | .loadManagers _ .initial => false
  | _ => true

def LoadCompletion.connects : LoadCompletion → Bool
  | .initial => false
  | .connect _ => true

def MainUpdate.fails : MainUpdate → Bool
  | .clearError => false
  | .fail _ => true

def SessionCommand.starts : SessionCommand → Bool
  | .startTunnel _ => true
  | .stopTunnel _ => false

theorem PreferencesRequest.connects_loadManagers
    (saved : List (ConfigurationId × TunnelPreferences)) (completion : LoadCompletion) :
    (PreferencesRequest.loadManagers saved completion).connects = completion.connects := by
  cases completion <;> rfl

def VPNEvent.asks : VPNEvent → Nat
  | .setupAndConnect _ _ => 1
  | _ => 0

/-- The failures that the main queue shows in a step. -/
def VPNManager.shows (vpn : VPNManager) : VPNEvent → Nat
  | .main => (vpn.mainQueue.take 1).countP MainUpdate.fails
  | _ => 0

def connectsAsked : VPNHistory → Nat
  | [] => 0
  | x :: earlier => connectsAsked earlier + x.event.asks

def sessionsStarted : VPNHistory → Nat
  | [] => 0
  | x :: earlier => sessionsStarted earlier + x.output.countP SessionCommand.starts

def failuresShown : VPNHistory → Nat
  | [] => 0
  | x :: earlier => failuresShown earlier + x.before.shows x.event

namespace VPNManager

/-- The requests to connect that have not been answered: their next step is with the store, or
their failure is on the main queue. -/
def unanswered (vpn : VPNManager) : Nat :=
  vpn.requests.count (fun entry => entry.2.connects) + vpn.mainQueue.countP MainUpdate.fails

def Numbered (vpn : VPNManager) : Prop :=
  ∀ id request, vpn.requests.lookup id = some request → id < vpn.nextRequest

section
variable {vpn vpn' : VPNManager}

theorem unanswered_request (numbered : vpn.Numbered) (request : PreferencesRequest) :
    (vpn.request request).unanswered = vpn.unanswered + if request.connects then 1 else 0 := by
  have fresh : vpn.requests.lookup vpn.nextRequest = none := by
    cases found : vpn.requests.lookup vpn.nextRequest with
    | none => rfl
    | some other => exact absurd (numbered _ _ found) (Nat.lt_irrefl _)
  simp only [unanswered, VPNManager.request, AList.count_insert, AList.erase_of_lookup_none fresh]
  omega

theorem unanswered_complete {id : RequestId} {request : PreferencesRequest}
    (found : vpn.requests.lookup id = some request) :
    vpn.unanswered = (vpn.complete id).unanswered + if request.connects then 1 else 0 := by
  simp only [unanswered, complete, AList.count_of_lookup found]
  omega

theorem unanswered_fail (step message : String) :
    (vpn.fail step message).unanswered = vpn.unanswered + 1 := by
  simp [unanswered, fail, MainUpdate.fails, Nat.add_assoc]

theorem unanswered_clearError : vpn.clearError.unanswered = vpn.unanswered := by
  simp [unanswered, clearError, MainUpdate.fails]

theorem unanswered_updateStatus : vpn.updateStatus.unanswered = vpn.unanswered := by
  unfold updateStatus
  split <;> rfl

theorem Numbered.request (numbered : vpn.Numbered) (request : PreferencesRequest) :
    (vpn.request request).Numbered := by
  intro id other found
  obtain ⟨rfl, _⟩ | ⟨_, found⟩ := AList.lookup_insert_eq_some.mp found
  · exact Nat.lt_succ_self _
  · exact Nat.lt_succ_of_lt (numbered id other found)

theorem Numbered.complete (numbered : vpn.Numbered) (request : RequestId) :
    (vpn.complete request).Numbered :=
  fun id other found => numbered id other (AList.lookup_erase_eq_some.mp found).2

theorem Numbered.of_eq (numbered : vpn.Numbered) (requests : vpn'.requests = vpn.requests)
    (next : vpn'.nextRequest = vpn.nextRequest) : vpn'.Numbered := by
  intro id request found
  rw [requests] at found
  rw [next]
  exact numbered id request found

theorem Numbered.updateStatus (numbered : vpn.Numbered) : vpn.updateStatus.Numbered := by
  unfold VPNManager.updateStatus
  split
  · exact numbered
  · exact numbered.of_eq rfl rfl

theorem write_fields (vpn : VPNManager) (manager : ManagerId) :
    (vpn.write manager).mainQueue = vpn.mainQueue ∧
      (vpn.write manager).nextRequest = vpn.nextRequest := by
  unfold write
  split <;> exact ⟨rfl, rfl⟩

theorem loadCompleted_unanswered (numbered : vpn.Numbered) (completion : LoadCompletion)
    (error : Option String) :
    (vpn.loadCompleted completion error).Numbered ∧
      (vpn.loadCompleted completion error).unanswered =
        vpn.unanswered + if completion.connects then 1 else 0 := by
  cases completion with
  | initial => exact ⟨numbered.updateStatus, unanswered_updateStatus⟩
  | connect config =>
      cases error with
      | some description => exact ⟨numbered.of_eq rfl rfl, unanswered_fail _ _⟩
      | none =>
          simp only [loadCompleted]
          split
          · exact ⟨numbered.of_eq rfl rfl, unanswered_fail _ _⟩
          · have configured : (vpn.configure ‹_› config).Numbered := numbered.of_eq rfl rfl
            exact ⟨configured.request _, unanswered_request configured _⟩

theorem startTunnelSession_unanswered (numbered : vpn.Numbered) (manager : ManagerId)
    (session : SessionStart) {commands : List SessionCommand}
    (moved : vpn.startTunnelSession manager session = (vpn', commands)) :
    vpn'.Numbered ∧
      vpn'.unanswered + commands.countP SessionCommand.starts = vpn.unanswered + 1 := by
  cases session <;> cases moved
  · exact ⟨numbered.of_eq rfl rfl, unanswered_fail _ _⟩
  · exact ⟨numbered.of_eq rfl rfl, unanswered_fail _ _⟩
  · exact ⟨numbered.of_eq rfl rfl, by simp [unanswered_clearError, SessionCommand.starts]⟩

theorem setupAndConnect_unanswered (numbered : vpn.Numbered) (config : VPNConfig)
    (saved : Except String Unit) : (vpn.setupAndConnect config saved).Numbered ∧
      (vpn.setupAndConnect config saved).unanswered = vpn.unanswered + 1 := by
  have cleared : vpn.clearError.Numbered := numbered.of_eq rfl rfl
  cases saved with
  | error description =>
      refine ⟨numbered.of_eq rfl rfl, ?_⟩
      simp [setupAndConnect, unanswered_fail, unanswered_clearError]
  | ok =>
      refine ⟨cleared.request _, ?_⟩
      simp [setupAndConnect, loadAndCreateManager, unanswered_request cleared,
        unanswered_clearError, PreferencesRequest.connects]

section
variable {request : RequestId} {commands : List SessionCommand}

theorem loaded_unanswered (numbered : vpn.Numbered)
    {result : Except String (List (ConfigurationId × TunnelPreferences))}
    (stepped : vpn.step (.loaded request result) = (vpn', commands)) :
    vpn'.Numbered ∧ vpn'.unanswered + commands.countP SessionCommand.starts = vpn.unanswered := by
  simp only [step] at stepped
  split at stepped
  · rename_i saved completion description found
    cases stepped
    obtain ⟨kept, unanswered⟩ := loadCompleted_unanswered (numbered.complete request) completion
      (some description)
    have completed := unanswered_complete found
    rw [PreferencesRequest.connects_loadManagers] at completed
    exact ⟨kept, unanswered.trans completed.symm⟩
  · rename_i saved completion results found
    split at stepped
    · cases stepped
      have loaded : ((vpn.complete request).managersLoaded results).Numbered :=
        (numbered.complete request).of_eq rfl rfl
      obtain ⟨kept, unanswered⟩ := loadCompleted_unanswered loaded completion none
      have completed := unanswered_complete found
      rw [PreferencesRequest.connects_loadManagers] at completed
      exact ⟨kept, unanswered.trans completed.symm⟩
    · cases stepped
      exact ⟨numbered, rfl⟩
  · cases stepped
    exact ⟨numbered, rfl⟩

theorem written_unanswered (numbered : vpn.Numbered)
    (stepped : vpn.step (.written request) = (vpn', commands)) :
    vpn'.Numbered ∧ vpn'.unanswered + commands.countP SessionCommand.starts = vpn.unanswered := by
  simp only [step] at stepped
  split at stepped
  · rename_i manager found
    cases stepped
    obtain ⟨mainQueue, next⟩ := vpn.write_fields manager
    constructor
    · intro id other held
      dsimp only at held ⊢
      rw [next]
      obtain ⟨rfl, _⟩ | ⟨_, held⟩ := AList.lookup_insert_eq_some.mp held
      · exact numbered _ _ found
      · exact numbered id other held
    · simp [unanswered, mainQueue, AList.count_insert, AList.count_of_lookup found,
        PreferencesRequest.connects]
  · cases stepped
    exact ⟨numbered, rfl⟩

theorem saved_unanswered (numbered : vpn.Numbered) {error : Option String}
    (stepped : vpn.step (.saved request error) = (vpn', commands)) :
    vpn'.Numbered ∧ vpn'.unanswered + commands.countP SessionCommand.starts = vpn.unanswered := by
  simp only [step] at stepped
  split at stepped
  · rename_i manager description found
    cases stepped
    refine ⟨(numbered.complete request).of_eq rfl rfl, ?_⟩
    exact (unanswered_fail _ _).trans (unanswered_complete found).symm
  · rename_i manager found
    cases stepped
    refine ⟨(numbered.complete request).request _, ?_⟩
    exact (unanswered_request (numbered.complete request) _).trans (unanswered_complete found).symm
  · cases stepped
    exact ⟨numbered, rfl⟩

theorem reloaded_unanswered (numbered : vpn.Numbered) {error : Option String}
    {session : SessionStart}
    (stepped : vpn.step (.reloaded request error session) = (vpn', commands)) :
    vpn'.Numbered ∧ vpn'.unanswered + commands.countP SessionCommand.starts = vpn.unanswered := by
  simp only [step] at stepped
  split at stepped
  · rename_i manager description found
    cases stepped
    refine ⟨(numbered.complete request).of_eq rfl rfl, ?_⟩
    exact (unanswered_fail _ _).trans (unanswered_complete found).symm
  · rename_i manager found
    have reloaded : ((vpn.complete request).reload manager).Numbered :=
      (numbered.complete request).of_eq rfl rfl
    obtain ⟨kept, answered⟩ := startTunnelSession_unanswered reloaded manager session stepped
    exact ⟨kept, answered.trans (unanswered_complete found).symm⟩
  · cases stepped
    exact ⟨numbered, rfl⟩

theorem runMain_unanswered (numbered : vpn.Numbered) :
    vpn.runMain.Numbered ∧ vpn.unanswered = vpn.runMain.unanswered + vpn.shows .main := by
  unfold runMain
  split <;> rename_i queue
  · exact ⟨numbered, by simp [shows, queue]⟩
  all_goals
    refine ⟨numbered.of_eq rfl rfl, ?_⟩
    simp [unanswered, queue, List.countP_cons, MainUpdate.fails, shows, Nat.add_assoc]

end

/-- A step leaves as many requests to connect unanswered as it does not answer. -/
theorem step_unanswered (numbered : vpn.Numbered) {event : VPNEvent}
    {commands : List SessionCommand} (stepped : vpn.step event = (vpn', commands)) :
    vpn'.Numbered ∧ vpn.unanswered + event.asks =
      vpn'.unanswered + commands.countP SessionCommand.starts + vpn.shows event := by
  cases event with
  | setupAndConnect config saved =>
      cases stepped
      obtain ⟨kept, asked⟩ := setupAndConnect_unanswered numbered config saved
      exact ⟨kept, asked.symm⟩
  | loaded request result =>
      obtain ⟨kept, answered⟩ := loaded_unanswered numbered stepped
      exact ⟨kept, answered.symm⟩
  | written request =>
      obtain ⟨kept, answered⟩ := written_unanswered numbered stepped
      exact ⟨kept, answered.symm⟩
  | saved request error =>
      obtain ⟨kept, answered⟩ := saved_unanswered numbered stepped
      exact ⟨kept, answered.symm⟩
  | reloaded request error session =>
      obtain ⟨kept, answered⟩ := reloaded_unanswered numbered stepped
      exact ⟨kept, answered.symm⟩
  | disconnect session =>
      cases stepped
      refine ⟨numbered, ?_⟩
      unfold disconnect
      split
      · rfl
      · split <;> rfl
  | statusDidChange configuration status =>
      cases stepped
      have changed : { vpn with stored := vpn.stored.modify configuration fun entry =>
        { entry with connectionStatus := status } }.Numbered := numbered.of_eq rfl rfl
      refine ⟨changed.updateStatus, ?_⟩
      rw [unanswered_updateStatus]
      rfl
  | main =>
      cases stepped
      exact runMain_unanswered numbered

end

end VPNManager

/-- In every run the requests to connect balance: as many as were made are still on their way
through the store or the main queue, or were answered by the start of a session or by a failure
that was shown. -/
theorem VPNRun.requests_answered {stored : List StoredConfiguration} {history : VPNHistory}
    {vpn : VPNManager} (run : VPNRun stored history vpn) :
    connectsAsked history = vpn.unanswered + sessionsStarted history + failuresShown history := by
  refine (Runs.Run.history_invariant (P := fun history (vpn : VPNManager) => vpn.Numbered ∧
    connectsAsked history = vpn.unanswered + sessionsStarted history + failuresShown history)
    run ?_ ?_).2
  · refine ⟨fun id request found => ?_, rfl⟩
    obtain ⟨rfl, _⟩ | ⟨_, found⟩ := AList.lookup_insert_eq_some.mp found
    · exact Nat.lt_succ_self _
    · cases found
  · rintro history vpn event commands vpn' _ ⟨numbered, balance⟩ stepped
    obtain ⟨kept, answered⟩ := VPNManager.step_unanswered numbered stepped
    refine ⟨kept, ?_⟩
    simp only [connectsAsked, sessionsStarted, failuresShown]
    omega

/-- One request starts a session, one cannot save its configuration, and one waits for the store. -/
theorem requests_answered_three : ∃ history vpn, VPNRun [] history vpn ∧
    connectsAsked history = 3 ∧ sessionsStarted history = 1 ∧ failuresShown history = 1 ∧
    connectsAsked history = vpn.unanswered + sessionsStarted history + failuresShown history := by
  refine ⟨_, _, Runs.trace_run [.loaded 0 (.ok []), .setupAndConnect localConfig (.ok ()),
    .setupAndConnect localConfig (.error "Shared App Group defaults are unavailable"),
    .loaded 1 (.ok []), .written 2, .setupAndConnect localConfig (.ok ()), .main, .main, .main,
    .saved 2 none, .reloaded 4 none .started] .nil, by decide, by decide, by decide, ?_⟩
  exact VPNRun.requests_answered (Runs.trace_run _ .nil)

end StunnelIos
