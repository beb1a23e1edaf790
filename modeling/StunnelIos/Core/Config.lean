import StunnelIos.Smoltcp.Stack

/-! The configuration of the core, and the outcomes of its calls: I/O errors,
pollable results, panics and the lock around the engine. -/
namespace StunnelIos

inductive IoErrorKind where
  | brokenPipe | connectionReset | invalidInput | other
deriving DecidableEq, Repr

/-- What an I/O error carries: a text of the core, an error of the stack, or an
error of the outbound side. -/
inductive IoErrorSource where
  | message (text : String)
  | tcpRecv (error : TcpRecvError)
  | tcpSend (error : TcpSendError)
  | udpRecv (error : UdpRecvError)
  | udpSend (error : UdpSendError)
  | outbound (code : Nat)
deriving DecidableEq, Repr

structure IoError where
  kind : IoErrorKind
  source : IoErrorSource
deriving DecidableEq, Repr

def IoError.other (source : IoErrorSource) : IoError := ⟨.other, source⟩

abbrev IoResult (α : Type) := Except IoError α

inductive Poll (α : Type) where
  | ready (result : α)
  | pending
deriving DecidableEq, Repr

/-- The places where the core panics: a poisoned lock, an unwrapped error of the
stack, and a socket handle that names no socket of the right kind. -/
inductive Panic where
  | poisoned
  | listen (error : ListenError)
  | bind (error : BindError)
  | socketHandle
  | interfaceSetup
deriving DecidableEq, Repr

section
variable {ε α β : Type}

@[simp] theorem ok_bind (a : α) (f : α → Except ε β) : (Except.ok a >>= f) = f a := rfl

@[simp] theorem error_bind (e : ε) (f : α → Except ε β) : (Except.error e >>= f) = .error e := rfl

@[simp] theorem pure_eq_ok (a : α) : (pure a : Except ε α) = .ok a := rfl

/-- A computation that returns has returned from its first part. -/
theorem bind_eq_ok {x : Except ε α} {f : α → Except ε β} {b : β} (returned : (x >>= f) = .ok b) :
    ∃ a, x = .ok a ∧ f a = .ok b := by
  cases x with
  | error e => contradiction
  | ok a => exact ⟨a, rfl, returned⟩

end

/-- A mutex, poisoned once a panic has struck while it was held. -/
structure Mutex (α : Type) where
  value : α
  poisoned : Bool

namespace Mutex

def new {α : Type} (value : α) : Mutex α := ⟨value, false⟩

/-- `lock().unwrap()` -/
def lock {α : Type} (mutex : Mutex α) : Except Panic α :=
  if mutex.poisoned then .error .poisoned else .ok mutex.value

end Mutex

structure AppConfig where
  mode : String
  serverAddr : String
  serverName : String
  cert : String
  privKey : String
deriving DecidableEq, Repr

inductive TunnelMode where
  | s2nQuic | tlsTcp
deriving DecidableEq, Repr

def TunnelMode.parse (value : String) : IoResult TunnelMode :=
  if value = "s2n-quic" then .ok .s2nQuic
  else if value = "tlstcp" then .ok .tlsTcp
  else .error ⟨.invalidInput, .message ("unsupported tunnel mode: " ++ value)⟩

def AppConfig.tunnelMode (config : AppConfig) : IoResult TunnelMode :=
  TunnelMode.parse config.mode

end StunnelIos
