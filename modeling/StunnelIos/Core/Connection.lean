import Mathlib.Data.List.AList
import StunnelIos.Core.Config

/-! The connection manager: one QUIC connection for all proxied sessions. A call of
`get_s2n_handle` runs from one await point to the next in one step; other calls may
come, go on or be dropped in between. -/
namespace StunnelIos

abbrev CallId := Nat

/-- A handle of a QUIC connection. Its clones are handles of the same connection. -/
structure S2nHandle where
  connection : Nat
deriving DecidableEq, Repr

/-- `ConnectionState::in_good_condition`, by the answer of `keep_alive`. The errors of
the QUIC library are given by their texts. -/
def inGoodCondition (keepAlive : Except String Unit) : IoResult Unit :=
  keepAlive.mapError fun error => ⟨.connectionReset, .message error⟩

/-- `stunnel::quic::Config` -/
structure S2nConfig where
  addr : String
  cert : String
  privKey : String
  lossThreshold : Nat
deriving DecidableEq, Repr

def AppConfig.s2nConfig (config : AppConfig) : S2nConfig :=
  ⟨"0.0.0.0:0", config.cert, config.privKey, 10⟩

/-- The await point at which a call is suspended: for the lock, and then with the lock
for the client and for the connection. -/
inductive CallPhase where
  | locking
  | initializing
  | connecting (connection : Nat)
deriving DecidableEq, Repr

structure S2nCall where
  config : AppConfig
  phase : CallPhase
deriving DecidableEq, Repr

structure ConnectionManager where
  s2nClient : Option S2nConfig
  s2nHandle : Option S2nHandle
  lockedBy : Option CallId
  calls : AList fun _ : CallId => S2nCall
  nextCall : CallId
  nextConnection : Nat

inductive CallOutput where
  | checked (id : CallId) (handle : S2nHandle) (answer : IoResult Unit)
  | connect (id : CallId) (connection : Nat) (addr : SocketAddr) (serverName : String)
  | returned (id : CallId) (result : IoResult S2nHandle)
  | cancelled (id : CallId)
deriving DecidableEq

/-- What a call is resumed with. -/
inductive CallEvent where
  | call (config : AppConfig)
  /-- The lock is granted; `keepAlive` is what a handle answers if it is asked. -/
  | locked (id : CallId) (keepAlive : Except String Unit)
  | clientCreated (id : CallId) (result : IoResult Unit)
  /-- The connection is made, and answers `keep_alive`, or it is not made. -/
  | connected (id : CallId) (result : Except String (Except String Unit))
  | cancel (id : CallId)

namespace ConnectionManager

def new : ConnectionManager := ⟨none, none, none, ∅, 0, 0⟩

def finish (manager : ConnectionManager) (id : CallId) : ConnectionManager :=
  { manager with lockedBy := none, calls := manager.calls.erase id }

def suspend (manager : ConnectionManager) (id : CallId) (config : AppConfig) (phase : CallPhase) :
    ConnectionManager :=
  { manager with lockedBy := some id, calls := manager.calls.insert id ⟨config, phase⟩ }

def withLock (manager : ConnectionManager) (id : CallId) (config : AppConfig)
    (keepAlive : Except String Unit) : ConnectionManager × List CallOutput :=
  match manager.s2nHandle with
  | some handle =>
      match inGoodCondition keepAlive with
      | .ok () =>
          (manager.finish id, [.checked id handle (.ok ()), .returned id (.ok handle)])
      | .error error =>
          (manager.suspend id config .initializing, [.checked id handle (.error error)])
  | none => (manager.suspend id config .initializing, [])

/-- `get_or_try_init`: a client that exists is kept. -/
def getOrTryInit (manager : ConnectionManager) (config : AppConfig) (result : IoResult Unit) :
    IoResult S2nConfig :=
  match manager.s2nClient with
  | some client => .ok client
  | none => result.map fun _ => config.s2nConfig

/-- From the client on. `parse` reads a socket address. -/
def withClient (parse : String → Except String SocketAddr) (manager : ConnectionManager)
    (id : CallId) (config : AppConfig) (result : IoResult Unit) :
    ConnectionManager × List CallOutput :=
  match manager.getOrTryInit config result with
  | .error error => (manager.finish id, [.returned id (.error error)])
  | .ok client =>
      let manager := { manager with s2nClient := some client }
      match parse config.serverAddr with
      | .error error =>
          (manager.finish id,
            [.returned id (.error ⟨.invalidInput, .message ("Invalid addr: " ++ error)⟩)])
      | .ok addr =>
          let connection := manager.nextConnection
          ({ manager.suspend id config (.connecting connection) with
              nextConnection := connection + 1 },
            [.connect id connection addr config.serverName])

def withConnection (manager : ConnectionManager) (id : CallId) (connection : Nat)
    (result : Except String (Except String Unit)) : ConnectionManager × List CallOutput :=
  match result with
  | .error error =>
      (manager.finish id,
        [.returned id (.error (.other (.message ("QUIC connect error: " ++ error))))])
  | .ok (.error error) =>
      (manager.finish id,
        [.returned id (.error (.other (.message ("QUIC keep-alive error: " ++ error))))])
  | .ok (.ok ()) =>
      let handle : S2nHandle := ⟨connection⟩
      ({ manager.finish id with s2nHandle := some handle }, [.returned id (.ok handle)])

def cancel (manager : ConnectionManager) (id : CallId) : ConnectionManager :=
  { manager with
    lockedBy := if manager.lockedBy = some id then none else manager.lockedBy
    calls := manager.calls.erase id }

/-- A step that the call cannot take where it is suspended changes nothing. The lock is
granted to any of the calls that wait for it. -/
def step (parse : String → Except String SocketAddr) (manager : ConnectionManager) :
    CallEvent → ConnectionManager × List CallOutput
  | .call config =>
      ({ manager with
          calls := manager.calls.insert manager.nextCall ⟨config, .locking⟩
          nextCall := manager.nextCall + 1 }, [])
  | .locked id keepAlive =>
      match manager.calls.lookup id, manager.lockedBy with
      | some ⟨config, .locking⟩, none => manager.withLock id config keepAlive
      | _, _ => (manager, [])
  | .clientCreated id result =>
      match manager.calls.lookup id with
      | some ⟨config, .initializing⟩ => manager.withClient parse id config result
      | _ => (manager, [])
  | .connected id result =>
      match manager.calls.lookup id with
      | some ⟨_, .connecting connection⟩ => manager.withConnection id connection result
      | _ => (manager, [])
  | .cancel id =>
      match manager.calls.lookup id with
      | some _ => (manager.cancel id, [.cancelled id])
      | none => (manager, [])

end ConnectionManager

end StunnelIos
