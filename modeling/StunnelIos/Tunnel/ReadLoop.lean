import Mathlib.Data.List.AList
import StunnelIos.Tunnel.Provider

/-! The packet read loop beside the provider's calls. The system makes its calls one at
a time, but the completion handlers of `readPackets` run at any moment, between any two
actions of a call. -/
namespace StunnelIos

abbrev HandlerId := Nat

/-- A completion handler in its loop: the handle it has read, and the packets it has not
got to. A packet without a base address is `none`. -/
structure ReadHandler where
  handle : CoreHandle
  packets : List (Option Bytes)
deriving DecidableEq, Repr

structure PacketTunnel where
  provider : PacketTunnelProvider
  /-- What the call in progress has yet to do. -/
  control : List TunnelAction
  /-- The requests of `readPackets` that have not completed. -/
  reads : Nat
  handlers : AList fun _ : HandlerId => ReadHandler
  nextHandler : HandlerId

inductive ReadEvent where
  | call (event : TunnelEvent)
  | advance
  /-- A read completes, and its handler reads `rustHandle`. -/
  | packets (batch : List (Option Bytes))
  | handler (id : HandlerId)

inductive ReadOutput where
  | action (action : TunnelAction)
  | processPacket (handle : CoreHandle) (packet : Bytes)
deriving DecidableEq, Repr

namespace PacketTunnel

def new : PacketTunnel := ⟨.new, [], 0, ∅, 0⟩

def perform (tunnel : PacketTunnel) (action : TunnelAction) : PacketTunnel :=
  { tunnel with
    provider := tunnel.provider.apply action
    reads := if action = .readPackets then tunnel.reads + 1 else tunnel.reads }

def proceed (tunnel : PacketTunnel) (actions : List TunnelAction) : PacketTunnel × List ReadOutput :=
  match actions with
  | [] => (tunnel, [])
  | action :: rest => ({ tunnel with control := rest }.perform action, [.action action])

def readCompleted (tunnel : PacketTunnel) (batch : List (Option Bytes)) : PacketTunnel :=
  match tunnel.provider.rustHandle with
  | none => { tunnel with reads := tunnel.reads - 1 }
  | some handle =>
      { tunnel with
        reads := tunnel.reads - 1
        handlers := tunnel.handlers.insert tunnel.nextHandler ⟨handle, batch⟩
        nextHandler := tunnel.nextHandler + 1 }

/-- One turn of the loop; after the last packet the next read is requested. -/
def handle (tunnel : PacketTunnel) (id : HandlerId) : ReadHandler → PacketTunnel × List ReadOutput
  | ⟨_, []⟩ => ({ tunnel with handlers := tunnel.handlers.erase id, reads := tunnel.reads + 1 }, [])
  | ⟨handle, none :: rest⟩ =>
      ({ tunnel with handlers := tunnel.handlers.insert id ⟨handle, rest⟩ }, [])
  | ⟨handle, some packet :: rest⟩ =>
      ({ tunnel with handlers := tunnel.handlers.insert id ⟨handle, rest⟩ },
        [.processPacket handle packet])

def step (tunnel : PacketTunnel) : ReadEvent → PacketTunnel × List ReadOutput
  | .call event =>
      if tunnel.control = [] then tunnel.proceed (tunnel.provider.actions event) else (tunnel, [])
  | .advance => tunnel.proceed tunnel.control
  | .packets batch =>
      if tunnel.reads = 0 then (tunnel, []) else (tunnel.readCompleted batch, [])
  | .handler id =>
      match tunnel.handlers.lookup id with
      | none => (tunnel, [])
      | some handler => tunnel.handle id handler

theorem advance_all (tunnel : PacketTunnel)
    (history : Runs.History PacketTunnel ReadEvent (List ReadOutput)) :
    (Runs.trace step history tunnel (List.replicate tunnel.control.length .advance)).2.provider =
        tunnel.provider.run tunnel.control ∧
      (Runs.trace step history tunnel
        (List.replicate tunnel.control.length .advance)).2.control = [] := by
  generalize same : tunnel.control = actions
  induction actions generalizing tunnel history with
  | nil => exact ⟨rfl, same⟩
  | cons action rest ih =>
      have moved : tunnel.step .advance =
          ({ tunnel with control := rest }.perform action, [.action action]) := by
        simp only [step, same, proceed]
      simp only [List.length_cons, List.replicate_succ, Runs.trace, moved]
      exact ih _ _ rfl

theorem call_completes (tunnel : PacketTunnel) (event : TunnelEvent) (idle : tunnel.control = [])
    (history : Runs.History PacketTunnel ReadEvent (List ReadOutput)) :
    (Runs.trace step history tunnel (.call event ::
      List.replicate ((tunnel.provider.actions event).length - 1) .advance)).2.provider =
      (tunnel.provider.step event).1 := by
  simp only [Runs.trace, step, idle, if_true, PacketTunnelProvider.step]
  cases tunnel.provider.actions event with
  | nil => rfl
  | cons action rest => exact (advance_all _ _).1

end PacketTunnel

abbrev ReadHistory := Runs.History PacketTunnel ReadEvent (List ReadOutput)

def ReadRun (history : ReadHistory) (tunnel : PacketTunnel) : Prop :=
  Runs.Run (fun t event outputs t' => t.step event = (t', outputs)) .new history tunnel

/-- `stunnel_stop` has been called with this handle. -/
def Stopped (handle : CoreHandle) (history : ReadHistory) : Prop :=
  ∃ x ∈ history, .action (.stop handle) ∈ x.output

instance (handle : CoreHandle) (history : ReadHistory) : Decidable (Stopped handle history) :=
  inferInstanceAs (Decidable (∃ x ∈ history, _ ∈ x.output))

/-- No packet is given to a core that has been stopped. -/
def ProcessesLive (x : Runs.Transition PacketTunnel ReadEvent (List ReadOutput))
    (earlier : ReadHistory) : Prop :=
  ∀ handle packet, .processPacket handle packet ∈ x.output → ¬ Stopped handle earlier

/-- `stunnel_stop` is called when no handler that has read the handle has packets left,
and no handler with packets reads `rustHandle` between that call and the write of nil. -/
def HandlersDone (x : Runs.Transition PacketTunnel ReadEvent (List ReadOutput))
    (_earlier : ReadHistory) : Prop :=
  (∀ handle, x.event = .advance → x.before.control.head? = some (.stop handle) →
    ∀ id handler, x.before.handlers.lookup id = some handler → handler.handle = handle →
      ∀ packet, some packet ∉ handler.packets) ∧
  ∀ batch packet, x.event = .packets batch → some packet ∈ batch → x.before.reads ≠ 0 →
    x.before.provider.rustHandle ≠ none → x.before.control.head? ≠ some (.setRustHandle none)

end StunnelIos
