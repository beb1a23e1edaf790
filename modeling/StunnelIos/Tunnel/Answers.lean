import StunnelIos.Tunnel.Cleanup
import StunnelIos.Tunnel.System

/-! The answers to the system. The completion handler of every call of the provider is called
once, however the calls, their settings and the handlers of the read loop interleave. -/
namespace StunnelIos

def TunnelAction.begins : TunnelAction → Bool
  | .startTunnel _ | .stopTunnel | .settingsCompleted _ => true
  | _ => false

def TunnelAction.completes (k : StartId) : TunnelAction → Bool
  | .completeStart j _ => j == k
  | _ => false

/-- The completion handler is called, or it is left to the completion of the settings. -/
def TunnelAction.answers (k : StartId) : TunnelAction → Bool
  | .completeStart j _ | .setTunnelNetworkSettings j _ => j == k
  | _ => false

def TunnelAction.beginsStop : TunnelAction → Bool
  | .stopTunnel => true
  | _ => false

def TunnelAction.completesStop : TunnelAction → Bool
  | .completeStop => true
  | _ => false

def ReadOutput.does (p : TunnelAction → Bool) : ReadOutput → Bool
  | .action a => p a
  | .processPacket _ _ => false

/-- How often such an action has been taken. -/
def timesTaken (p : TunnelAction → Bool) : ReadHistory → Nat
  | [] => 0
  | x :: earlier => timesTaken p earlier + x.output.countP (ReadOutput.does p)

/-- The calls of the completion handler of this start that are still to come. -/
def PacketTunnel.owes (tunnel : PacketTunnel) (k : StartId) : Nat :=
  tunnel.control.countP (TunnelAction.answers k) + tunnel.provider.pendingSettings.count k

/-- What the rest of a call owes, by its first action. -/
inductive Promises (provider : PacketTunnelProvider) : TunnelAction → List TunnelAction → Prop where
  | start {rest} : (∀ k, rest.countP (TunnelAction.answers k) =
      if provider.nextStart = k then 1 else 0) → rest.countP TunnelAction.completesStop = 0 →
      Promises provider (.startTunnel provider.nextStart) rest
  | settings {start rest} : start ∈ provider.pendingSettings →
      (∀ k, rest.countP (TunnelAction.answers k) = if start = k then 1 else 0) →
      rest.countP TunnelAction.completesStop = 0 → Promises provider (.settingsCompleted start) rest
  | stop {rest} : (∀ k, rest.countP (TunnelAction.answers k) = 0) →
      rest.countP TunnelAction.completesStop = 1 → Promises provider .stopTunnel rest

theorem PacketTunnelProvider.promises (provider : PacketTunnelProvider) {event : TunnelEvent}
    {action : TunnelAction} {rest : List TunnelAction}
    (planned : provider.actions event = action :: rest) :
    Promises provider action rest ∧ ∀ a ∈ rest, a.begins = false := by
  obtain ⟨rustHandle, context, k, pending⟩ := provider
  cases event with
  | startTunnel outcome =>
      obtain ⟨load, configJson, created, started⟩ := outcome
      rcases load with description | _ | config
      · obtain ⟨rfl, rfl⟩ := List.cons.inj planned
        cases context <;> refine ⟨.start ?_ ?_, ?_⟩ <;>
          simp [releasePacketBridge, makeRuntime, run, apply, installPacketBridge,
            TunnelAction.answers, TunnelAction.completesStop,
            TunnelAction.begins]
      · obtain ⟨rfl, rfl⟩ := List.cons.inj planned
        cases context <;> refine ⟨.start ?_ ?_, ?_⟩ <;>
          simp [releasePacketBridge, makeRuntime, run, apply, installPacketBridge,
            TunnelAction.answers, TunnelAction.completesStop,
            TunnelAction.begins]
      · rcases configJson with description | configJson
        · obtain ⟨rfl, rfl⟩ := List.cons.inj planned
          cases context <;> refine ⟨.start ?_ ?_, ?_⟩ <;>
            simp [releasePacketBridge, makeRuntime, run, apply, installPacketBridge,
              TunnelAction.answers, TunnelAction.completesStop,
            TunnelAction.begins]
        · cases created <;> cases started <;> obtain ⟨rfl, rfl⟩ := List.cons.inj planned <;>
            cases context <;> refine ⟨.start ?_ ?_, ?_⟩ <;>
            simp [releasePacketBridge, makeRuntime, run, apply, installPacketBridge,
              TunnelAction.answers, TunnelAction.completesStop,
            TunnelAction.begins]
  | settingsCompleted start error =>
      simp only [actions] at planned
      split at planned
      · rename_i known
        cases error <;> obtain ⟨rfl, rfl⟩ := List.cons.inj planned
        · exact ⟨.settings known (by simp [TunnelAction.answers]) rfl,
            by simp [TunnelAction.begins]⟩
        · exact ⟨.settings known (by simp [TunnelAction.answers]) rfl,
            by simp [TunnelAction.begins]⟩
      · cases planned
  | stopTunnel =>
      cases rustHandle <;> cases context <;> obtain ⟨rfl, rfl⟩ := List.cons.inj planned <;>
        exact ⟨.stop (by simp [stopCoreRuntime, stopRuntime, releasePacketBridge, TunnelAction.answers])
          (by simp [stopCoreRuntime, stopRuntime, releasePacketBridge, TunnelAction.completesStop]),
          by simp [stopCoreRuntime, stopRuntime, releasePacketBridge, TunnelAction.begins]⟩

theorem timesTaken_action (p : TunnelAction → Bool) (tunnel tunnel' : PacketTunnel) (event : ReadEvent)
    (action : TunnelAction) (history : ReadHistory) :
    timesTaken p (⟨tunnel, event, [.action action], tunnel'⟩ :: history) =
      timesTaken p history + (p action).toNat := by
  cases taken : p action <;> simp [timesTaken, ReadOutput.does, taken]

theorem countP_cons_toNat (p : TunnelAction → Bool) (action : TunnelAction)
    (rest : List TunnelAction) :
    (action :: rest).countP p = (p action).toNat + rest.countP p := by
  cases taken : p action <;> simp [taken, Nat.add_comm]

theorem PacketTunnelProvider.apply_owes (provider : PacketTunnelProvider) {action : TunnelAction}
    (later : action.begins = false) (k : StartId) :
    (provider.apply action).nextStart = provider.nextStart ∧
      (action.completes k).toNat + (provider.apply action).pendingSettings.count k =
        (action.answers k).toNat + provider.pendingSettings.count k := by
  cases action with
  | startTunnel | stopTunnel | settingsCompleted => cases later
  | setTunnelNetworkSettings start settings =>
      refine ⟨rfl, ?_⟩
      cases mine : start == k <;>
        simp [apply, TunnelAction.completes, TunnelAction.answers, List.count_cons, mine, Nat.add_comm]
  | retainBridge | releaseBridge | create | setPacketCallback | start | clearPacketCallback | stop
  | setRustHandle | readPackets | completeStart | completeStop => exact ⟨rfl, rfl⟩

structure Answered (history : ReadHistory) (tunnel : PacketTunnel) : Prop where
  starts : ∀ k, timesTaken (TunnelAction.completes k) history + tunnel.owes k =
    if k < tunnel.provider.nextStart then 1 else 0
  stops : timesTaken TunnelAction.completesStop history + tunnel.control.countP TunnelAction.completesStop =
    timesTaken TunnelAction.beginsStop history
  control : ∀ a ∈ tunnel.control, a.begins = false

section
variable {history : ReadHistory} {tunnel tunnel' : PacketTunnel} {event : ReadEvent}
  {outputs : List ReadOutput}

theorem Answered.step (answered : Answered history tunnel)
    (stepped : tunnel.step event = (tunnel', outputs)) :
    Answered (⟨tunnel, event, outputs, tunnel'⟩ :: history) tunnel' := by
  have move := tunnel.step_move event
  rw [stepped] at move
  dsimp only at move
  cases move with
  | quiet provider control =>
      refine ⟨fun k => ?_, ?_, by rw [control]; exact answered.control⟩
      · simpa [timesTaken, PacketTunnel.owes, provider, control] using answered.starts k
      · simpa [timesTaken, control] using answered.stops
  | packet =>
      refine ⟨fun k => ?_, ?_, answered.control⟩
      · simpa [timesTaken, ReadOutput.does, PacketTunnel.owes] using answered.starts k
      · simpa [timesTaken, ReadOutput.does] using answered.stops
  | @advanced action rest control =>
      have known := answered.control
      rw [control] at known
      have later := known action List.mem_cons_self
      refine ⟨fun k => ?_, ?_, fun a left => known a (List.mem_cons_of_mem _ left)⟩
      · obtain ⟨same, owes⟩ := tunnel.provider.apply_owes later k
        have balance := answered.starts k
        simp only [PacketTunnel.owes, control, countP_cons_toNat] at balance
        simp only [timesTaken_action, PacketTunnel.owes, PacketTunnel.perform, same]
        omega
      · have balance := answered.stops
        rw [control, countP_cons_toNat] at balance
        have other : action.beginsStop = false := by
          cases action <;> first | rfl | cases later
        simp only [timesTaken_action, PacketTunnel.perform, other, Bool.toNat_false]
        omega
  | @called call action rest free planned =>
      obtain ⟨promises, later⟩ := tunnel.provider.promises planned
      have starts := answered.starts
      have stops := answered.stops
      simp only [PacketTunnel.owes, free, List.countP_nil, Nat.zero_add, Nat.add_zero] at starts stops
      cases promises with
      | start owed none_stopped =>
          refine ⟨fun k => ?_, ?_, later⟩
          · have balance := starts k
            simp only [timesTaken_action, PacketTunnel.owes, PacketTunnel.perform, owed,
              PacketTunnelProvider.apply, TunnelAction.completes, Bool.toNat_false]
            obtain rfl | other := eq_or_ne tunnel.provider.nextStart k
            · simp at balance ⊢
              omega
            · have same : k < tunnel.provider.nextStart + 1 ↔ k < tunnel.provider.nextStart := by
                rw [Nat.lt_succ_iff_lt_or_eq, or_iff_left other.symm]
              simp only [other, if_false, same]
              omega
          · simpa [timesTaken_action, PacketTunnel.perform, none_stopped, TunnelAction.beginsStop,
              TunnelAction.completesStop] using stops
      | @settings start rest known owed none_stopped =>
          refine ⟨fun k => ?_, ?_, later⟩
          · have balance := starts k
            simp only [timesTaken_action, PacketTunnel.owes, PacketTunnel.perform, owed,
              PacketTunnelProvider.apply, TunnelAction.completes, Bool.toNat_false, List.count_erase]
            obtain rfl | other := eq_or_ne start k
            · have counted := List.count_pos_iff.mpr known
              simp only [if_true, beq_self_eq_true]
              omega
            · simp only [other, if_false, beq_iff_eq]
              omega
          · simpa [timesTaken_action, PacketTunnel.perform, none_stopped, TunnelAction.beginsStop,
              TunnelAction.completesStop] using stops
      | stop owed stopped =>
          refine ⟨fun k => ?_, ?_, later⟩
          · simpa [timesTaken_action, PacketTunnel.owes, PacketTunnel.perform, owed,
              PacketTunnelProvider.apply, TunnelAction.completes] using starts k
          · simpa [timesTaken_action, PacketTunnel.perform, stopped, TunnelAction.beginsStop,
              TunnelAction.completesStop] using stops

theorem ReadRun.answered (run : ReadRun history tunnel) : Answered history tunnel :=
  Runs.Run.history_invariant (P := Answered) run
    ⟨fun k => by simp [PacketTunnel.new, PacketTunnel.owes, PacketTunnelProvider.new, timesTaken],
      rfl, by simp [PacketTunnel.new]⟩
    fun _ answered stepped => answered.step stepped

/-- In every run the completion handler of each call of `startTunnel` has been called once, or
will be by the rest of the call or by the completion of its settings, and never more often; and
so for the calls of `stopTunnel`. -/
theorem every_call_answered (run : ReadRun history tunnel) :
    (∀ k, timesTaken (TunnelAction.completes k) history + tunnel.owes k =
      if k < tunnel.provider.nextStart then 1 else 0) ∧
    timesTaken TunnelAction.completesStop history +
      tunnel.control.countP TunnelAction.completesStop =
        timesTaken TunnelAction.beginsStop history :=
  ⟨run.answered.starts, run.answered.stops⟩

end

/-- The tunnel is stopped before its settings are applied, and is started again. -/
theorem every_call_answered_stopped : ∃ history tunnel, ReadRun history tunnel ∧
    timesTaken (TunnelAction.completes 0) history = 1 ∧ tunnel.owes 1 = 1 ∧
    (∀ k, timesTaken (TunnelAction.completes k) history + tunnel.owes k =
      if k < tunnel.provider.nextStart then 1 else 0) ∧
    timesTaken TunnelAction.completesStop history +
      tunnel.control.countP TunnelAction.completesStop =
        timesTaken TunnelAction.beginsStop history := by
  refine ⟨_, _, Runs.trace_run (.call (.startTunnel coreStarts) :: List.replicate 6 .advance ++
    .call .stopTunnel :: List.replicate 5 .advance ++
    [.call (.settingsCompleted 0 (some "stopped")), .advance, .call (.startTunnel coreStarts)])
    .nil, by decide, by decide, every_call_answered (Runs.trace_run _ .nil)⟩

end StunnelIos
