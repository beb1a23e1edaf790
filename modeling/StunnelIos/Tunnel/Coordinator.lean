import StunnelIos.Net.Address

/-! The runtime coordinator of the packet tunnel: how a core is made and stopped. What
the calls do outside is written down as a list of actions. -/
namespace StunnelIos

structure VPNConfig where
  mode : String
  serverAddr : String
  serverName : String
  cert : String
  privKey : String
deriving DecidableEq, Repr

def localConfig : VPNConfig := ⟨"s2n-quic", "127.0.0.1:443", "localhost", "CERT", "KEY"⟩

/-- The number of a call of `startTunnel`. -/
abbrev StartId := Nat

/-- A call makes at most one core and one bridge, which carry its number. -/
abbrev CoreHandle := StartId
abbrev BridgeContext := StartId

inductive PacketTunnelRuntimeError where
  | missingConfig | coreCreateFailed | coreStartFailed
deriving DecidableEq, Repr

def PacketTunnelRuntimeError.errorDescription : PacketTunnelRuntimeError → String
  | .missingConfig => "Failed to load configuration"
  | .coreCreateFailed => "Failed to create Stunnel core runtime"
  | .coreStartFailed => "Failed to start Stunnel core runtime"

/-- What a completion handler is given: an error of the coordinator, or one thrown or
reported elsewhere, by its description. -/
inductive TunnelError where
  | runtime (error : PacketTunnelRuntimeError)
  | other (description : String)
deriving DecidableEq, Repr

structure TunnelNetworkSettings where
  tunnelRemoteAddress : String
  addresses : List String
  subnetMasks : List String
  defaultRoute : Bool
  dnsServers : List String
  mtu : Nat
deriving DecidableEq, Repr

/-- The calls into the core and the system, and the writes of the provider's fields. -/
inductive TunnelAction where
  /-- `startTunnel` is called, and sets up logging. -/
  | startTunnel (start : StartId)
  | stopTunnel
  /-- The completion handler of `setTunnelNetworkSettings` is called. -/
  | settingsCompleted (start : StartId)
  | retainBridge (bridge : BridgeContext)
  | releaseBridge (bridge : BridgeContext)
  | create (handle : Option CoreHandle) (configJson : String)
  | setPacketCallback (handle : CoreHandle) (context : Option BridgeContext)
  | start (handle : CoreHandle) (started : Bool)
  | clearPacketCallback (handle : CoreHandle)
  | stop (handle : CoreHandle)
  | setRustHandle (handle : Option CoreHandle)
  | setTunnelNetworkSettings (start : StartId) (settings : TunnelNetworkSettings)
  | readPackets
  /-- The completion handlers of the system are called. -/
  | completeStart (start : StartId) (error : Option TunnelError)
  | completeStop
deriving DecidableEq, Repr

structure PacketTunnelRuntimeHandle where
  config : VPNConfig
  handle : CoreHandle
deriving DecidableEq, Repr

/-- How the steps of `makeRuntime` turn out: loading the configuration, writing it for
the core, `stunnel_create` and `stunnel_start`. -/
structure RuntimeOutcome where
  load : Except String (Option VPNConfig)
  configJson : Except String String
  created : Bool
  started : Bool

def makeRuntime (handle : CoreHandle) (packetContext : Option BridgeContext)
    (outcome : RuntimeOutcome) :
    List TunnelAction × Except TunnelError PacketTunnelRuntimeHandle :=
  match outcome.load with
  | .error description => ([], .error (.other description))
  | .ok none => ([], .error (.runtime .missingConfig))
  | .ok (some config) =>
      match outcome.configJson with
      | .error description => ([], .error (.other description))
      | .ok configJson =>
          if !outcome.created then
            ([.create none configJson], .error (.runtime .coreCreateFailed))
          else if !outcome.started then
            ([.create (some handle) configJson, .setPacketCallback handle packetContext,
                .start handle false, .clearPacketCallback handle, .stop handle],
              .error (.runtime .coreStartFailed))
          else
            ([.create (some handle) configJson, .setPacketCallback handle packetContext,
                .start handle true], .ok ⟨config, handle⟩)

def stopRuntime (handle : Option CoreHandle) : List TunnelAction :=
  match handle with
  | none => []
  | some handle => [.clearPacketCallback handle, .stop handle]

end StunnelIos
