import StunnelIos.Library.Runs
import StunnelIos.Tunnel.Coordinator

/-! The packet tunnel provider: the calls of the system, each with the actions it takes
from first to last, and the provider's fields after them. -/
namespace StunnelIos

structure PacketTunnelProvider where
  rustHandle : Option CoreHandle
  packetBridgeContext : Option BridgeContext
  nextStart : StartId
  /-- The requests of `setTunnelNetworkSettings` that have not completed. -/
  pendingSettings : List StartId
deriving DecidableEq, Repr

namespace PacketTunnelProvider

def new : PacketTunnelProvider := ⟨none, none, 0, []⟩

/-- What an action does to the provider. -/
def apply (provider : PacketTunnelProvider) : TunnelAction → PacketTunnelProvider
  | .startTunnel start => { provider with nextStart := start + 1 }
  | .settingsCompleted start =>
      { provider with pendingSettings := provider.pendingSettings.erase start }
  | .retainBridge bridge => { provider with packetBridgeContext := some bridge }
  | .releaseBridge _ => { provider with packetBridgeContext := none }
  | .setRustHandle handle => { provider with rustHandle := handle }
  | .setTunnelNetworkSettings start _ =>
      { provider with pendingSettings := start :: provider.pendingSettings }
  | _ => provider

def run (provider : PacketTunnelProvider) (actions : List TunnelAction) : PacketTunnelProvider :=
  actions.foldl apply provider

def releasePacketBridge (provider : PacketTunnelProvider) : List TunnelAction :=
  match provider.packetBridgeContext with
  | none => []
  | some bridge => [.releaseBridge bridge]

def installPacketBridge (provider : PacketTunnelProvider) (bridge : BridgeContext) :
    List TunnelAction :=
  provider.releasePacketBridge ++ [.retainBridge bridge]

def networkSettings (config : VPNConfig) : TunnelNetworkSettings where
  tunnelRemoteAddress := config.serverAddr
  addresses := ["192.168.1.2"]
  subnetMasks := ["255.255.255.0"]
  defaultRoute := true
  dnsServers := ["8.8.8.8", "1.1.1.1"]
  mtu := 1500

def startTunnel (provider : PacketTunnelProvider) (outcome : RuntimeOutcome) : List TunnelAction :=
  let start := provider.nextStart
  let entered := .startTunnel start :: provider.installPacketBridge start
  let made := makeRuntime start (provider.run entered).packetBridgeContext outcome
  let actions := entered ++ made.1
  match made.2 with
  | .error error =>
      actions ++ (provider.run actions).releasePacketBridge ++ [.completeStart start (some error)]
  | .ok runtime =>
      actions ++ [.setRustHandle (some runtime.handle),
        .setTunnelNetworkSettings start (networkSettings runtime.config)]

/-- The completion handler of `setTunnelNetworkSettings`. -/
def settingsCompleted (start : StartId) (error : Option String) : List TunnelAction :=
  match error with
  | some description => [.settingsCompleted start, .completeStart start (some (.other description))]
  | none => [.settingsCompleted start, .readPackets, .completeStart start none]

def stopCoreRuntime (provider : PacketTunnelProvider) : List TunnelAction :=
  stopRuntime provider.rustHandle ++ .setRustHandle none :: provider.releasePacketBridge

def stopTunnel (provider : PacketTunnelProvider) : List TunnelAction :=
  .stopTunnel :: provider.stopCoreRuntime ++ [.completeStop]

/-- What `startTunnel` does after it has made its bridge: give up before there is a core,
stop the core that does not start, or go on with it. -/
theorem startTunnel_cases (provider : PacketTunnelProvider) (outcome : RuntimeOutcome) :
    (∃ made error, (made = [] ∨ ∃ configJson, made = [.create none configJson]) ∧
      provider.startTunnel outcome = .startTunnel provider.nextStart ::
        (provider.releasePacketBridge ++ .retainBridge provider.nextStart :: (made ++
          [.releaseBridge provider.nextStart, .completeStart provider.nextStart (some error)]))) ∨
    (∃ configJson error, provider.startTunnel outcome = .startTunnel provider.nextStart ::
      (provider.releasePacketBridge ++ [.retainBridge provider.nextStart,
        .create (some provider.nextStart) configJson,
        .setPacketCallback provider.nextStart (some provider.nextStart),
        .start provider.nextStart false, .clearPacketCallback provider.nextStart,
        .stop provider.nextStart, .releaseBridge provider.nextStart,
        .completeStart provider.nextStart (some error)])) ∨
    ∃ configJson settings, provider.startTunnel outcome = .startTunnel provider.nextStart ::
      (provider.releasePacketBridge ++ [.retainBridge provider.nextStart,
        .create (some provider.nextStart) configJson,
        .setPacketCallback provider.nextStart (some provider.nextStart),
        .start provider.nextStart true, .setRustHandle (some provider.nextStart),
        .setTunnelNetworkSettings provider.nextStart settings]) := by
  obtain ⟨rustHandle, context, k, pending⟩ := provider
  obtain ⟨load, configJson, created, started⟩ := outcome
  cases load with
  | error description => exact .inl ⟨[], _, .inl rfl, by cases context <;> rfl⟩
  | ok found =>
      cases found with
      | none => exact .inl ⟨[], _, .inl rfl, by cases context <;> rfl⟩
      | some config =>
          cases configJson with
          | error description => exact .inl ⟨[], _, .inl rfl, by cases context <;> rfl⟩
          | ok configJson =>
              cases created with
              | false => exact .inl ⟨_, _, .inr ⟨configJson, rfl⟩, by cases context <;> rfl⟩
              | true =>
                  cases started with
                  | false => exact .inr (.inl ⟨configJson, _, by cases context <;> rfl⟩)
                  | true => exact .inr (.inr ⟨configJson, _, by cases context <;> rfl⟩)

end PacketTunnelProvider

/-- What the system calls the provider with. -/
inductive TunnelEvent where
  | startTunnel (outcome : RuntimeOutcome)
  | settingsCompleted (start : StartId) (error : Option String)
  | stopTunnel

/-- The actions of a call. A request completes once. -/
def PacketTunnelProvider.actions (provider : PacketTunnelProvider) :
    TunnelEvent → List TunnelAction
  | .startTunnel outcome => provider.startTunnel outcome
  | .settingsCompleted start error =>
      if start ∈ provider.pendingSettings then settingsCompleted start error else []
  | .stopTunnel => provider.stopTunnel

/-- A call from its first action to its last. -/
def PacketTunnelProvider.step (provider : PacketTunnelProvider) (event : TunnelEvent) :
    PacketTunnelProvider × List TunnelAction :=
  (provider.run (provider.actions event), provider.actions event)

abbrev TunnelHistory := Runs.History PacketTunnelProvider TunnelEvent (List TunnelAction)

/-- A run of a provider from its creation: any sequence of calls. -/
def TunnelRun (history : TunnelHistory) (provider : PacketTunnelProvider) : Prop :=
  Runs.Run (fun p event actions p' => p.step event = (p', actions)) .new history provider

/-- All actions of a run, oldest first. -/
def actionLog : TunnelHistory → List TunnelAction
  | [] => []
  | x :: earlier => actionLog earlier ++ x.output

end StunnelIos
