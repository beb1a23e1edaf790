import Mathlib.Data.List.AList
import StunnelIos.Library.Runs
import StunnelIos.Tunnel.Coordinator

/-! The VPN manager of the app and the store of tunnel preferences. Every request to the
store completes later, in any order, and the flows of several connect requests and of the
initial load share the field `tunnelManager`. -/
namespace StunnelIos

/-- The place of a stored configuration in the store, which only grows. -/
abbrev ConfigurationId := Nat
abbrev ManagerId := Nat
abbrev RequestId := Nat

inductive NEVPNStatus where
  | invalid | disconnected | connecting | connected | reasserting | disconnecting
deriving DecidableEq, Repr

structure NETunnelProviderProtocol where
  providerBundleIdentifier : Option String
  serverAddress : Option String
deriving DecidableEq, Repr

structure TunnelPreferences where
  protocolConfiguration : Option NETunnelProviderProtocol
  localizedDescription : Option String
  isEnabled : Bool
deriving DecidableEq, Repr

/-- A manager object. Two objects may denote one stored configuration, and a new one
denotes none until it is saved. -/
structure TunnelProviderManager where
  preferences : TunnelPreferences
  configuration : Option ConfigurationId
deriving DecidableEq, Repr

structure StoredConfiguration where
  preferences : TunnelPreferences
  connectionStatus : NEVPNStatus
deriving DecidableEq, Repr

/-- What goes on after `loadAndCreateManager`. -/
inductive LoadCompletion where
  | initial
  | connect (config : VPNConfig)
deriving DecidableEq, Repr

/-- A request that has not completed. A load returns what is saved when it is requested,
and a save takes effect at some time before it completes. -/
inductive PreferencesRequest where
  | loadManagers (saved : List (ConfigurationId × TunnelPreferences)) (completion : LoadCompletion)
  | saveToPreferences (manager : ManagerId) (written : Bool)
  | loadFromPreferences (manager : ManagerId)
deriving DecidableEq, Repr

/-- A block that waits for the main queue. -/
inductive MainUpdate where
  | clearError
  | fail (message : String)
deriving DecidableEq, Repr

/-- How `startTunnelSession` finds the session. -/
inductive SessionStart where
  | unavailable
  | thrown (description : String)
  | started
deriving DecidableEq, Repr

inductive VPNEvent where
  /-- With what `configSaver` does. -/
  | setupAndConnect (config : VPNConfig) (saved : Except String Unit)
  /-- A load completes, with its configurations in some order. -/
  | loaded (request : RequestId) (result : Except String (List (ConfigurationId × TunnelPreferences)))
  /-- A save takes effect. -/
  | written (request : RequestId)
  | saved (request : RequestId) (error : Option String)
  | reloaded (request : RequestId) (error : Option String) (session : SessionStart)
  | disconnect (session : Bool)
  /-- The status of a tunnel changes, and the notification is posted. -/
  | statusDidChange (configuration : ConfigurationId) (status : NEVPNStatus)
  /-- The main queue runs its next block. -/
  | main

/-- What a session is told. -/
inductive SessionCommand where
  | startTunnel (manager : ManagerId)
  | stopTunnel (manager : ManagerId)
deriving DecidableEq, Repr

structure VPNManager where
  status : NEVPNStatus
  isEnabled : Bool
  lastErrorMessage : Option String
  tunnelManager : Option ManagerId
  managers : List TunnelProviderManager
  stored : List StoredConfiguration
  requests : AList fun _ : RequestId => PreferencesRequest
  nextRequest : RequestId
  mainQueue : List MainUpdate

namespace VPNManager

def request (vpn : VPNManager) (request : PreferencesRequest) : VPNManager :=
  { vpn with
    requests := vpn.requests.insert vpn.nextRequest request
    nextRequest := vpn.nextRequest + 1 }

def saved (vpn : VPNManager) : List (ConfigurationId × TunnelPreferences) :=
  vpn.stored.mapIdx fun id configuration => (id, configuration.preferences)

def loadAndCreateManager (vpn : VPNManager) (completion : LoadCompletion) : VPNManager :=
  vpn.request (.loadManagers vpn.saved completion)

/-- The app starts, with what earlier runs of it have stored. -/
def init (stored : List StoredConfiguration) : VPNManager :=
  loadAndCreateManager ⟨.disconnected, false, none, none, [], stored, ∅, 0, []⟩ .initial

def connectionStatus (vpn : VPNManager) (manager : TunnelProviderManager) : NEVPNStatus :=
  match manager.configuration.bind (vpn.stored[·]?) with
  | none => .invalid
  | some configuration => configuration.connectionStatus

def updateStatus (vpn : VPNManager) : VPNManager :=
  match vpn.tunnelManager.bind (vpn.managers[·]?) with
  | none => vpn
  | some manager => { vpn with status := vpn.connectionStatus manager }

def clearError (vpn : VPNManager) : VPNManager :=
  { vpn with mainQueue := vpn.mainQueue ++ [.clearError] }

def fail (vpn : VPNManager) (step message : String) : VPNManager :=
  { vpn with mainQueue := vpn.mainQueue ++ [.fail s!"Failed to {step}: {message}"] }

def bundleIdentifier : String := "me.airtrack.stunnel.PacketTunnel"

/-- The manager that is made when nothing is stored. -/
def newManager : TunnelProviderManager where
  preferences := ⟨some ⟨some bundleIdentifier, none⟩, some "stunnel-ios", false⟩
  configuration := none

/-- The objects a load makes; the first becomes `tunnelManager`. -/
def loadedManagers (found : List (ConfigurationId × TunnelPreferences)) :
    List TunnelProviderManager :=
  match found with
  | [] => [newManager]
  | _ => found.map fun entry => ⟨entry.2, some entry.1⟩

/-- The completion handler of `loadManagers` when it succeeds. -/
def managersLoaded (vpn : VPNManager) (found : List (ConfigurationId × TunnelPreferences)) :
    VPNManager :=
  let managers := loadedManagers found
  { vpn with
    managers := vpn.managers ++ managers
    tunnelManager := some vpn.managers.length
    isEnabled := (managers.head?.map fun manager => manager.preferences.isEnabled).getD false }

def configured (preferences : TunnelPreferences) (config : VPNConfig) : TunnelPreferences where
  protocolConfiguration :=
    some { preferences.protocolConfiguration.getD ⟨none, none⟩ with
      providerBundleIdentifier := some bundleIdentifier
      serverAddress := some config.serverAddr }
  localizedDescription := some "stunnel-ios"
  isEnabled := true

def configure (vpn : VPNManager) (manager : ManagerId) (config : VPNConfig) : VPNManager :=
  { vpn with
    managers := vpn.managers.modify manager fun m =>
      { m with preferences := configured m.preferences config } }

def saveManagerPreferences (vpn : VPNManager) (manager : ManagerId) : VPNManager :=
  vpn.request (.saveToPreferences manager false)

def reloadManagerPreferences (vpn : VPNManager) (manager : ManagerId) : VPNManager :=
  vpn.request (.loadFromPreferences manager)

def setupAndConnect (vpn : VPNManager) (config : VPNConfig) : Except String Unit → VPNManager
  | .error description => vpn.clearError.fail "save config" description
  | .ok () => vpn.clearError.loadAndCreateManager (.connect config)

def loadCompleted (vpn : VPNManager) (completion : LoadCompletion) (error : Option String) :
    VPNManager :=
  match completion, error with
  | .initial, _ => vpn.updateStatus
  | .connect _, some description => vpn.fail "load manager" description
  | .connect config, none =>
      match vpn.tunnelManager with
      | none => vpn.fail "load manager" "VPN manager is unavailable after loading preferences"
      | some manager => (vpn.configure manager config).saveManagerPreferences manager

/-- The store takes the manager's preferences, as its configuration or as a new one. -/
def write (vpn : VPNManager) (id : ManagerId) : VPNManager :=
  match vpn.managers[id]? with
  | none => vpn
  | some ⟨preferences, some configuration⟩ =>
      { vpn with
        stored := vpn.stored.modify configuration fun entry => { entry with preferences } }
  | some ⟨preferences, none⟩ =>
      { vpn with
        stored := vpn.stored ++ [⟨preferences, .disconnected⟩]
        managers := vpn.managers.set id ⟨preferences, some vpn.stored.length⟩ }

/-- The manager's preferences are those in the store again. -/
def reload (vpn : VPNManager) (id : ManagerId) : VPNManager :=
  { vpn with
    managers := vpn.managers.modify id fun manager =>
      match manager.configuration.bind (vpn.stored[·]?) with
      | none => manager
      | some entry => { manager with preferences := entry.preferences } }

def startTunnelSession (vpn : VPNManager) (manager : ManagerId) :
    SessionStart → VPNManager × List SessionCommand
  | .unavailable =>
      (vpn.fail "start tunnel" "VPN connection is not a tunnel provider session", [])
  | .thrown description => (vpn.fail "start tunnel" description, [])
  | .started => (vpn.clearError, [.startTunnel manager])

def disconnect (vpn : VPNManager) (session : Bool) : List SessionCommand :=
  match vpn.tunnelManager with
  | none => []
  | some manager => if session then [.stopTunnel manager] else []

def runMain (vpn : VPNManager) : VPNManager :=
  match vpn.mainQueue with
  | [] => vpn
  | .clearError :: rest => { vpn with mainQueue := rest, lastErrorMessage := none }
  | .fail message :: rest =>
      { vpn with mainQueue := rest, lastErrorMessage := some message, status := .disconnected }

/-- A request that completes is gone. -/
def complete (vpn : VPNManager) (request : RequestId) : VPNManager :=
  { vpn with requests := vpn.requests.erase request }

/-- Events that do not fit the request they name do nothing. -/
def step (vpn : VPNManager) : VPNEvent → VPNManager × List SessionCommand
  | .setupAndConnect config saved => (vpn.setupAndConnect config saved, [])
  | .loaded request result =>
      match vpn.requests.lookup request, result with
      | some (.loadManagers _ completion), .error description =>
          ((vpn.complete request).loadCompleted completion (some description), [])
      | some (.loadManagers saved completion), .ok found =>
          if found.Perm saved then
            (((vpn.complete request).managersLoaded found).loadCompleted completion none, [])
          else (vpn, [])
      | _, _ => (vpn, [])
  | .written request =>
      match vpn.requests.lookup request with
      | some (.saveToPreferences manager false) =>
          ({ vpn.write manager with
              requests := vpn.requests.insert request (.saveToPreferences manager true) }, [])
      | _ => (vpn, [])
  | .saved request error =>
      match vpn.requests.lookup request, error with
      | some (.saveToPreferences _ false), some description =>
          ((vpn.complete request).fail "save preferences" description, [])
      | some (.saveToPreferences manager true), none =>
          ((vpn.complete request).reloadManagerPreferences manager, [])
      | _, _ => (vpn, [])
  | .reloaded request error session =>
      match vpn.requests.lookup request, error with
      | some (.loadFromPreferences _), some description =>
          ((vpn.complete request).fail "reload preferences" description, [])
      | some (.loadFromPreferences manager), none =>
          ((vpn.complete request).reload manager).startTunnelSession manager session
      | _, _ => (vpn, [])
  | .disconnect session => (vpn, vpn.disconnect session)
  | .statusDidChange configuration status =>
      (updateStatus { vpn with
        stored := vpn.stored.modify configuration fun entry =>
          { entry with connectionStatus := status } }, [])
  | .main => (vpn.runMain, [])

end VPNManager

abbrev VPNHistory := Runs.History VPNManager VPNEvent (List SessionCommand)

/-- A run of the app over a store, with any order and outcome of the completions. -/
def VPNRun (stored : List StoredConfiguration) (history : VPNHistory) (vpn : VPNManager) : Prop :=
  Runs.Run (fun v event commands v' => v.step event = (v', commands)) (.init stored) history vpn

end StunnelIos
