import StunnelIos.Tunnel.SystemRuns

/-! The start of a core. The coordinator registers the callback first, so `stunnel_start` never
refuses, and the error for that is never reported. -/
namespace StunnelIos
variable {S : Smoltcp}

/-- That the core did not start is only reported when it did not. -/
def ReportNeeds (failed : Bool) : TunnelAction → Prop
  | .completeStart _ (some (.runtime .coreStartFailed)) => failed = true
  | _ => True

def startFailed (failed : Bool) : TunnelAction → Bool
  | .start _ started => failed || !started
  | _ => failed

open Commands

theorem PacketTunnelProvider.reports (provider : PacketTunnelProvider) (event : TunnelEvent)
    (failed : Bool) : Safe ReportNeeds startFailed (fun _ => True) (provider.actions event) failed := by
  obtain ⟨rustHandle, context, k, pending⟩ := provider
  cases event with
  | settingsCompleted start error =>
      simp only [actions]
      split
      · cases error <;> simp [PacketTunnelProvider.settingsCompleted, ReportNeeds]
      · trivial
  | stopTunnel =>
      cases rustHandle <;> cases context <;>
        simp [actions, stopTunnel, stopCoreRuntime, stopRuntime, releasePacketBridge, ReportNeeds]
  | startTunnel outcome =>
      obtain ⟨load, configJson, created, started⟩ := outcome
      cases context <;> rcases load with description | _ | config <;>
        rcases configJson with description | configJson <;> cases created <;> cases started <;>
        simp [actions, startTunnel, installPacketBridge, releasePacketBridge, makeRuntime, run, apply,
          ReportNeeds, startFailed]

section
variable {fromStr : String → Except String AppConfig} {history : SystemHistory S}
  {system after : System S} {event : SystemEvent} {output : SystemOutput} {k : CoreHandle}

/-- A start that is taken has succeeded. -/
theorem WellKept.starts (kept : WellKept False system)
    (stepped : System.step fromStr system event = .ok (after, output)) {started : Bool}
    (called : .action (.start k started) ∈ output.calls) : started = true := by
  cases System.step_move stepped with
  | quiet | session => cases called
  | @call read now tunnel call _ _ taken _ =>
      obtain rfl := List.mem_singleton.mp called
      obtain ⟨_, status⟩ := kept.needs taken
      obtain ⟨ctx, alive, registered⟩ := statusOf_eq_alive.mp status
      have result : System.startResult { system with tunnel := tunnel } k = some true := by
        obtain ⟨_, found, _⟩ := Option.map_eq_some_iff.mp registered
        obtain ⟨callback, there, _⟩ := Option.map_eq_some_iff.mp found
        simp [System.startResult, alive, stunnelStart, CoreContext.start,
          (kept.sound k _ alive ctx rfl).lock_ok, there, Except.map, Except.toOption]
      simp only [System.step, taken, System.performAll, System.perform] at stepped
      split at stepped
      · cases stepped
      · rename_i performed
        split at performed
        · cases performed
        · rw [result] at performed
          split at performed
          · rename_i same
            exact (Option.some.inj same).symm
          · cases performed

/-- The first action of a program that reports rightly, when no start has failed. -/
theorem reports_head {action : TunnelAction} {rest : List TunnelAction}
    (safe : Safe ReportNeeds startFailed (fun _ => True) (action :: rest) false)
    (starts : ∀ k started, action = .start k started → started = true) :
    (∀ start, action ≠ .completeStart start (some (.runtime .coreStartFailed))) ∧
      Safe ReportNeeds startFailed (fun _ => True) rest false := by
  obtain ⟨needs, left⟩ := safe
  constructor
  · rintro start rfl
    cases needs
  · have unfailed : startFailed false action = false := by
      cases action with
      | start k started => simp [startFailed, starts k started rfl]
      | startTunnel | stopTunnel | settingsCompleted | retainBridge | releaseBridge | create
      | setPacketCallback | clearPacketCallback | stop | setRustHandle | setTunnelNetworkSettings
      | readPackets | completeStart | completeStop => rfl
    rwa [unfailed] at left

/-- In every run of the process `stunnel_start` succeeds whenever it is called, and no call of
`startTunnel` reports that the core did not start. -/
theorem core_always_starts (api : S.ApiLaws) (poll : S.PollLaws)
    (run : SystemRun S fromStr history system) :
    ∀ x ∈ history, (∀ k started, .action (.start k started) ∈ x.output.calls → started = true) ∧
      ∀ start, .action (.completeStart start (some (.runtime .coreStartFailed))) ∉ x.output.calls := by
  refine (Runs.Run.history_invariant (P := fun history (system : System S) =>
    (∀ x ∈ history, (∀ k started, .action (.start k started) ∈ x.output.calls → started = true) ∧
      ∀ start, .action (.completeStart start (some (.runtime .coreStartFailed))) ∉ x.output.calls) ∧
    Safe ReportNeeds startFailed (fun _ => True) system.tunnel.control false) run ?_ ?_).1
  · exact ⟨by simp, trivial⟩
  · rintro history system event output after earlier ⟨told, left⟩ stepped
    have kept := SystemRun.wellKept api poll earlier
    have starts : ∀ k started, .action (.start k started) ∈ output.calls → started = true :=
      fun k started => kept.starts stepped
    obtain ⟨read, now, rfl, taken⟩ | ⟨⟨_, _, rfl⟩, none_called, same⟩ :=
      (System.step_move stepped).tunnel
    · have move := system.tunnel.step_move read
      rw [taken] at move
      obtain ⟨calls, outputs⟩ := output
      obtain ⟨tunnel, cores, bridges⟩ := after
      dsimp only at move starts
      cases move with
      | quiet _ control =>
          refine ⟨List.forall_mem_cons.mpr ⟨⟨starts, by simp⟩, told⟩, ?_⟩
          dsimp only
          rw [control]
          exact left
      | @called call action rest free planned =>
          have safe := system.tunnel.provider.reports call false
          rw [planned] at safe
          obtain ⟨silent, left⟩ := reports_head safe fun k started same =>
            starts k started (by simp [same])
          exact ⟨List.forall_mem_cons.mpr ⟨⟨starts, by simpa [eq_comm] using silent⟩, told⟩, left⟩
      | @advanced action rest control =>
          rw [control] at left
          obtain ⟨silent, left⟩ := reports_head left fun k started same =>
            starts k started (by simp [same])
          exact ⟨List.forall_mem_cons.mpr ⟨⟨starts, by simpa [eq_comm] using silent⟩, told⟩, left⟩
      | packet => exact ⟨List.forall_mem_cons.mpr ⟨⟨starts, by simp⟩, told⟩, left⟩
    · refine ⟨List.forall_mem_cons.mpr ⟨⟨starts, by simp [none_called]⟩, told⟩, ?_⟩
      rw [same]
      exact left

end

theorem core_always_starts_up : ∃ history system,
    SystemRun Reference.stack readsConfig history system ∧
    (∃ x ∈ history, .action (.start 0 true) ∈ x.output.calls) ∧
    ∀ x ∈ history, (∀ k started, .action (.start k started) ∈ x.output.calls → started = true) ∧
      ∀ start, .action (.completeStart start (some (.runtime .coreStartFailed))) ∉ x.output.calls := by
  obtain ⟨history, system, run, checked⟩ := System.replay_run (S := Reference.stack) readsConfig
    comesUp (fun history _ => history.any fun x =>
      decide (.action (.start 0 true) ∈ x.output.calls)) (by decide +kernel)
  obtain ⟨x, taken, starts⟩ := List.any_eq_true.mp checked
  exact ⟨history, system, run, ⟨x, taken, of_decide_eq_true starts⟩,
    core_always_starts Reference.api Reference.poll_laws run⟩

end StunnelIos
