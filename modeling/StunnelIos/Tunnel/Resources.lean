import StunnelIos.Library.Commands
import StunnelIos.Tunnel.Provider

/-! What the actions of the provider need of the cores and bridges behind its pointers. A
call of the system is a straight-line program over them. -/
namespace StunnelIos

/-- A core behind its pointer. One that is alive may have a callback, with a context. -/
inductive CoreStatus where
  | unmade
  | alive (callback : Option (Option BridgeContext))
  | freed
deriving DecidableEq, Repr

/-- The provider, with what its pointers stand for. -/
structure Resources where
  provider : PacketTunnelProvider
  core : CoreHandle → CoreStatus
  retained : BridgeContext → Bool

namespace Resources

def setCore (resources : Resources) (handle : CoreHandle) (status : CoreStatus) : Resources :=
  { resources with core := fun k => if k = handle then status else resources.core k }

def setBridge (resources : Resources) (bridge : BridgeContext) (retained : Bool) : Resources :=
  { resources with
    retained := fun b => if b = bridge then retained else resources.retained b }

def change (resources : Resources) : TunnelAction → Resources
  | .create (some handle) _ => resources.setCore handle (.alive none)
  | .setPacketCallback handle context => resources.setCore handle (.alive (some context))
  | .clearPacketCallback handle => resources.setCore handle (.alive none)
  | .stop handle => resources.setCore handle .freed
  | .retainBridge bridge => resources.setBridge bridge true
  | .releaseBridge bridge => resources.setBridge bridge false
  | _ => resources

def next (resources : Resources) (action : TunnelAction) : Resources :=
  { resources.change action with provider := resources.provider.apply action }

/-- What an action needs. That no core calls back with a released bridge is only required of
providers that have one core at a time. -/
def Needs (single : Prop) (resources : Resources) : TunnelAction → Prop
  | .create (some handle) _ => resources.core handle = .unmade
  | .setPacketCallback handle context =>
      (∃ callback, resources.core handle = .alive callback) ∧
        ∀ bridge, context = some bridge → resources.retained bridge = true
  | .start handle _ => ∃ context, resources.core handle = .alive (some context)
  | .clearPacketCallback handle | .stop handle | .setRustHandle (some handle)
  | .setTunnelNetworkSettings handle _ => ∃ callback, resources.core handle = .alive callback
  | .releaseBridge bridge =>
      resources.retained bridge = true ∧
        (single → ∀ handle, resources.core handle ≠ .alive (some (some bridge)))
  | _ => True

/-- Between two calls the provider's pointers are good. -/
structure Idle (single : Prop) (resources : Resources) : Prop where
  handle : ∀ k, resources.provider.rustHandle = some k → ∃ callback, resources.core k = .alive callback
  bridge : ∀ b, resources.provider.packetBridgeContext = some b → resources.retained b = true
  fresh : ∀ k, resources.provider.nextStart ≤ k → resources.core k = .unmade
  paired : single → resources.provider.packetBridgeContext = resources.provider.rustHandle
  /-- The running core is the only one that calls back, and it does so with its own bridge. -/
  only : single → ∀ k context, resources.core k = .alive (some context) →
    resources.provider.rustHandle = some k ∧ context = some k

section
variable {single : Prop} {resources : Resources}

open Commands

theorem Idle.new (retained : BridgeContext → Bool) :
    Idle single ⟨.new, fun _ => .unmade, retained⟩ := by
  constructor <;> simp [PacketTunnelProvider.new]

/-- The state in which `startTunnel` goes on after it has made its bridge. -/
structure Installed (before resources : Resources) : Prop where
  core : resources.core = before.core
  handle : resources.provider.rustHandle = before.provider.rustHandle
  context : resources.provider.packetBridgeContext = some before.provider.nextStart
  next : resources.provider.nextStart = before.provider.nextStart + 1
  bridge : resources.retained before.provider.nextStart = true

theorem Idle.installPacketBridge (idle : Idle single resources)
    (allowed : single → resources.provider.rustHandle = none) :
    Safe (Needs single) next (Installed resources) (.startTunnel resources.provider.nextStart ::
      (resources.provider.releasePacketBridge ++ [.retainBridge resources.provider.nextStart]))
      resources := by
  obtain ⟨⟨rustHandle, context, k, pending⟩, core, retained⟩ := resources
  cases context with
  | none =>
      simp only [PacketTunnelProvider.releasePacketBridge, List.nil_append, safe_cons, safe_nil]
      exact ⟨trivial, trivial, rfl, rfl, rfl, rfl, if_pos rfl⟩
  | some b =>
      simp only [PacketTunnelProvider.releasePacketBridge, List.cons_append, List.nil_append,
        safe_cons, safe_nil]
      refine ⟨trivial, ⟨idle.bridge b rfl, fun one => ?_⟩, trivial, rfl, rfl, rfl, rfl, if_pos rfl⟩
      cases (idle.paired one).trans (allowed one)

theorem Idle.startTunnel (idle : Idle single resources)
    (allowed : single → resources.provider.rustHandle = none) (outcome : RuntimeOutcome) :
    Safe (Needs single) next (Idle single) (resources.provider.startTunnel outcome) resources := by
  have unmade : resources.core resources.provider.nextStart = .unmade := idle.fresh _ (Nat.le_refl _)
  have older : ∀ {j}, resources.provider.rustHandle = some j → j ≠ resources.provider.nextStart := by
    rintro j held rfl
    obtain ⟨_, alive⟩ := idle.handle _ held
    cases unmade.symm.trans alive
  have silent : single → ∀ j context, resources.core j ≠ .alive (some context) := by
    intro one j context alive
    cases (allowed one).symm.trans (idle.only one j context alive).1
  have goes_on : ∀ rest, (∀ r, Installed resources r → Safe (Needs single) next (Idle single) rest r) →
      Safe (Needs single) next (Idle single) (.startTunnel resources.provider.nextStart ::
        (resources.provider.releasePacketBridge ++ .retainBridge resources.provider.nextStart ::
          rest)) resources := by
    intro rest safe
    have split := safe_append.mpr ((idle.installPacketBridge allowed).mono safe)
    simpa only [List.cons_append, List.append_assoc, List.nil_append] using split
  obtain ⟨made, error, shape, plan⟩ | ⟨configJson, error, plan⟩ | ⟨configJson, settings, plan⟩ :=
    resources.provider.startTunnel_cases outcome <;> rw [plan] <;> refine goes_on _ ?_
  · rintro ⟨⟨rustHandle, context, k, pending⟩, core, retained⟩ ⟨rfl, same, here, next, bridge⟩
    dsimp only at same here next bridge
    subst same here next
    have gives_up : Safe (Needs single) Resources.next (Idle single)
        [.releaseBridge resources.provider.nextStart,
          .completeStart resources.provider.nextStart (some error)]
        ⟨⟨resources.provider.rustHandle, some resources.provider.nextStart,
          resources.provider.nextStart + 1, pending⟩, resources.core, retained⟩ := by
      refine ⟨⟨bridge, fun one j => silent one j _⟩, trivial, idle.handle, fun _ other => ?_,
        fun j later => idle.fresh j (Nat.le_of_succ_le later), fun one => (allowed one).symm,
        fun one j context alive => absurd alive (silent one j context)⟩
      cases other
    obtain rfl | ⟨configJson, rfl⟩ := shape
    · exact gives_up
    · exact ⟨trivial, gives_up⟩
  · rintro ⟨⟨rustHandle, context, k, pending⟩, core, retained⟩ ⟨rfl, same, here, next, bridge⟩
    dsimp only at same here next bridge
    subst same here next
    refine ⟨unmade, ⟨⟨none, if_pos rfl⟩, ?_⟩, ⟨some resources.provider.nextStart, if_pos rfl⟩,
      ⟨some (some resources.provider.nextStart), if_pos rfl⟩, ⟨none, if_pos rfl⟩,
      ⟨bridge, fun one j alive => ?_⟩, trivial, fun j held => ?_, fun _ other => ?_,
      fun j later => ?_, fun one => (allowed one).symm, fun one j context alive => ?_⟩
    · rintro _ ⟨⟩
      exact bridge
    · by_cases same : j = resources.provider.nextStart
      · simp [next, change, setCore, same] at alive
      · simp only [next, change, setCore, if_neg same] at alive
        exact silent one j _ alive
    · simpa only [next, change, setCore, setBridge, if_neg (older held)] using idle.handle j held
    · cases other
    · have apart : j ≠ resources.provider.nextStart := Nat.ne_of_gt later
      simpa only [next, change, setCore, setBridge, if_neg apart] using
        idle.fresh j (Nat.le_of_succ_le later)
    · by_cases same : j = resources.provider.nextStart
      · simp [next, change, setCore, setBridge, same] at alive
      · simp only [next, change, setCore, setBridge, if_neg same] at alive
        exact absurd alive (silent one j context)
  · rintro ⟨⟨rustHandle, context, k, pending⟩, core, retained⟩ ⟨rfl, same, here, next, bridge⟩
    dsimp only at same here next bridge
    subst same here next
    refine ⟨unmade, ⟨⟨none, if_pos rfl⟩, ?_⟩, ⟨some resources.provider.nextStart, if_pos rfl⟩,
      ⟨some (some resources.provider.nextStart), if_pos rfl⟩,
      ⟨some (some resources.provider.nextStart), if_pos rfl⟩, ?_, ?_, fun j later => ?_,
      fun one => rfl, fun one j context alive => ?_⟩
    · rintro _ ⟨⟩
      exact bridge
    · rintro _ ⟨⟩
      exact ⟨some (some resources.provider.nextStart), if_pos rfl⟩
    · rintro _ ⟨⟩
      exact bridge
    · have apart : j ≠ resources.provider.nextStart := Nat.ne_of_gt later
      simpa only [next, change, setCore, setBridge, if_neg apart] using
        idle.fresh j (Nat.le_of_succ_le later)
    · by_cases same : j = resources.provider.nextStart
      · subst same
        simp only [Resources.next, change, setCore, if_true, CoreStatus.alive.injEq,
          Option.some.injEq] at alive
        exact ⟨rfl, alive.symm⟩
      · simp only [Resources.next, change, setCore, if_neg same] at alive
        exact absurd alive (silent one j context)

theorem Idle.stopTunnel (idle : Idle single resources) :
    Safe (Needs single) next (Idle single) resources.provider.stopTunnel resources := by
  obtain ⟨⟨rustHandle, context, n, pending⟩, core, retained⟩ := resources
  obtain ⟨handle, bridge, fresh, paired, only⟩ := idle
  dsimp only at handle bridge fresh paired only
  have ends : ∀ core : CoreHandle → CoreStatus, (∀ j, n ≤ j → core j = .unmade) →
      (single → ∀ j context, core j ≠ .alive (some context)) →
      Safe (Needs single) next (Idle single)
        ((PacketTunnelProvider.mk rustHandle context n pending).releasePacketBridge ++
          [.completeStop]) ⟨⟨none, context, n, pending⟩, core, retained⟩ := by
    intro core fresh silent
    cases context with
    | none =>
        refine ⟨trivial, fun _ other => ?_, fun _ other => ?_, fresh, fun _ => rfl,
          fun one j context alive => absurd alive (silent one j context)⟩ <;> cases other
    | some b =>
        refine ⟨⟨bridge b rfl, fun one j => silent one j _⟩, trivial, fun _ other => ?_,
          fun _ other => ?_, fresh, fun _ => rfl,
          fun one j context alive => absurd alive (silent one j context)⟩ <;> cases other
  cases rustHandle with
  | none =>
      refine ⟨trivial, trivial, ends core fresh fun one j context alive => ?_⟩
      cases (only one j context alive).1
  | some k =>
      obtain ⟨callback, alive⟩ := handle k rfl
      refine ⟨trivial, ⟨callback, alive⟩, ⟨none, if_pos rfl⟩, trivial, ends _ (fun j later => ?_)
        fun one j context alive' => ?_⟩
      · have apart : j ≠ k := by
          rintro rfl
          cases alive.symm.trans (fresh j later)
        simpa only [next, change, setCore, if_neg apart] using fresh j later
      · by_cases same : j = k
        · simp [next, change, setCore, same] at alive'
        · simp only [next, change, setCore, if_neg same] at alive'
          exact same (Option.some.inj (only one j context alive').1).symm

theorem Idle.settingsCompleted (idle : Idle single resources) (start : StartId)
    (error : Option String) :
    Safe (Needs single) next (Idle single) (PacketTunnelProvider.settingsCompleted start error)
      resources := by
  cases error with
  | none => exact ⟨trivial, trivial, trivial, idle.handle, idle.bridge, idle.fresh, idle.paired, idle.only⟩
  | some description =>
      exact ⟨trivial, trivial, idle.handle, idle.bridge, idle.fresh, idle.paired, idle.only⟩

theorem Idle.call (idle : Idle single resources) (event : TunnelEvent)
    (allowed : single → ∀ outcome, event = .startTunnel outcome →
      resources.provider.rustHandle = none) :
    Safe (Needs single) next (Idle single) (resources.provider.actions event) resources := by
  cases event with
  | startTunnel outcome => exact idle.startTunnel (fun one => allowed one outcome rfl) outcome
  | settingsCompleted start error =>
      simp only [PacketTunnelProvider.actions]
      split
      · exact idle.settingsCompleted start error
      · exact idle
  | stopTunnel => exact idle.stopTunnel

/-- A core that calls back does so with a bridge that is retained. -/
def CallsBack (resources : Resources) : Prop :=
  ∀ k b, resources.core k = .alive (some (some b)) → resources.retained b = true

theorem CallsBack.next (calls : CallsBack resources) (one : single) {action : TunnelAction}
    (needs : resources.Needs single action) : CallsBack (resources.next action) := by
  intro k b alive
  cases action with
  | startTunnel | stopTunnel | settingsCompleted | start | setRustHandle | setTunnelNetworkSettings
  | readPackets | completeStart | completeStop => exact calls k b alive
  | retainBridge bridge =>
      simp only [Resources.next, change, setBridge]
      split
      · rfl
      · exact calls k b alive
  | releaseBridge bridge =>
      simp only [Resources.next, change, setBridge] at alive ⊢
      split
      · subst b
        exact absurd alive (needs.2 one k)
      · exact calls k b alive
  | create handle =>
      cases handle with
      | none => exact calls k b alive
      | some handle =>
          simp only [Resources.next, change, setCore] at alive ⊢
          split at alive
          · cases alive
          · exact calls k b alive
  | setPacketCallback handle context =>
      simp only [Resources.next, change, setCore] at alive ⊢
      split at alive
      · cases alive
        exact needs.2 b rfl
      · exact calls k b alive
  | clearPacketCallback handle | stop handle =>
      simp only [Resources.next, change, setCore] at alive ⊢
      split at alive
      · cases alive
      · exact calls k b alive

theorem next_core_ne_unmade {k : CoreHandle} (made : resources.core k ≠ .unmade)
    (action : TunnelAction) : (resources.next action).core k ≠ .unmade := by
  cases action with
  | startTunnel | stopTunnel | settingsCompleted | start | setRustHandle | setTunnelNetworkSettings
  | readPackets | completeStart | completeStop | retainBridge | releaseBridge => exact made
  | create handle =>
      cases handle with
      | none => exact made
      | some handle =>
          simp only [Resources.next, change, setCore]
          split <;> simp [made]
  | setPacketCallback | clearPacketCallback | stop =>
      simp only [Resources.next, change, setCore]
      split <;> simp [made]

end

end Resources

end StunnelIos
