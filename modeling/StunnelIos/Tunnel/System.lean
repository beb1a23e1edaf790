import StunnelIos.Core.UdpRuns
import StunnelIos.Tunnel.Resources
import StunnelIos.Tunnel.ReadLoop

/-! The extension's process: the provider with its read loop, the cores behind its handles
and the bridges behind their contexts. The calls of the provider are calls of the cores, in
any interleaving with the steps of their sessions. -/
namespace StunnelIos

/-- The function of the provider that cores call back. -/
def packetFlowCallback : PacketCallback := 1

/-- A context as a pointer; 0 is the null pointer. -/
def contextPointer : Option BridgeContext → Nat
  | none => 0
  | some bridge => bridge + 1

def contextOf : Nat → Option BridgeContext
  | 0 => none
  | bridge + 1 => some bridge

@[simp] theorem contextOf_contextPointer (context : Option BridgeContext) :
    contextOf (contextPointer context) = context := by
  cases context <;> rfl

variable {S : Smoltcp}

structure System (S : Smoltcp) where
  tunnel : PacketTunnel
  /-- A core that has been freed is a null handle. -/
  cores : CoreHandle → Option (Handle S)
  bridges : BridgeContext → Bool

inductive SystemEvent where
  | tunnel (event : ReadEvent) (now : Instant)
  | session (handle : CoreHandle) (event : Event)

/-- Why a step is not taken. A panic ends the process, a dangling pointer makes its
behaviour undefined, and the outcome that the event gives to a call may be another one. -/
inductive Halt where
  | panic (panic : Panic)
  | danglingCore (handle : CoreHandle)
  | danglingBridge (bridge : BridgeContext)
  | otherwise
deriving DecidableEq, Repr

def Halt.isDangling : Halt → Bool
  | .danglingCore _ | .danglingBridge _ => true
  | _ => false

/-- The calls of the provider that have been made, and the outputs of the core that was
called or took a step. -/
structure SystemOutput where
  calls : List ReadOutput
  outputs : List Output

namespace System

def new (S : Smoltcp) : System S := ⟨.new, fun _ => none, fun _ => false⟩

/-- The bridge of a callback, which ignores the null pointer. -/
def calledBack : Output → Option BridgeContext
  | .callback _ context _ => contextOf context
  | _ => none

/-- A bridge that is called back without being retained. -/
def dangling (system : System S) (outputs : List Output) : Option BridgeContext :=
  (outputs.filterMap calledBack).find? fun bridge => !system.bridges bridge

/-- A call of a C function with the pointer of a core. -/
def call (system : System S) (handle : CoreHandle) (event : Event) :
    Except Halt (System S × List Output) :=
  match system.cores handle with
  | some (some ctx) =>
      match Handle.step (some ctx) event with
      | .error panic => .error (.panic panic)
      | .ok (after, outputs) =>
          match system.dangling outputs with
          | some bridge => .error (.danglingBridge bridge)
          | none => .ok ({ system with
              cores := fun k => if k = handle then some after else system.cores k }, outputs)
  | _ => .error (.danglingCore handle)

def startResult (system : System S) (handle : CoreHandle) : Option Bool :=
  (system.cores handle).bind fun core => (stunnelStart core).toOption.map (·.1)

def perform (fromStr : String → Except String AppConfig) (now : Instant) (system : System S) :
    ReadOutput → Except Halt (System S × List Output)
  | .action (.create handle configJson) =>
      match stunnelCreate S fromStr (some configJson), handle with
      | .error panic, _ => .error (.panic panic)
      | .ok none, none => .ok (system, [])
      | .ok (some ctx), some handle => .ok ({ system with
          cores := fun k => if k = handle then some (some ctx) else system.cores k }, [])
      | .ok _, _ => .error .otherwise
  | .action (.setPacketCallback handle context) =>
      system.call handle (.setPacketCallback (contextPointer context) packetFlowCallback)
  | .action (.start handle started) =>
      match system.call handle .start with
      | .error halt => .error halt
      | .ok result =>
          if system.startResult handle = some started then .ok result else .error .otherwise
  | .action (.clearPacketCallback handle) => system.call handle .clearPacketCallback
  | .action (.stop handle) => system.call handle .stop
  | .action (.retainBridge bridge) =>
      .ok ({ system with bridges := fun b => if b = bridge then true else system.bridges b }, [])
  | .action (.releaseBridge bridge) =>
      if system.bridges bridge then
        .ok ({ system with bridges := fun b => if b = bridge then false else system.bridges b }, [])
      else .error (.danglingBridge bridge)
  | .action _ => .ok (system, [])
  | .processPacket handle packet => system.call handle (.processPacket (some packet) now)

def performAll (fromStr : String → Except String AppConfig) (now : Instant) :
    System S → List ReadOutput → Except Halt (System S × List Output)
  | system, [] => .ok (system, [])
  | system, call :: rest =>
      match system.perform fromStr now call with
      | .error halt => .error halt
      | .ok (system, outputs) =>
          (performAll fromStr now system rest).map fun result => (result.1, outputs ++ result.2)

def step (fromStr : String → Except String AppConfig) (system : System S) :
    SystemEvent → Except Halt (System S × SystemOutput)
  | .tunnel event now =>
      let (tunnel, calls) := system.tunnel.step event
      (performAll fromStr now { system with tunnel := tunnel } calls).map fun result =>
        (result.1, ⟨calls, result.2⟩)
  | .session handle event =>
      match system.cores handle, event with
      | some (some _), .task _ _ | some (some _), .drop _ =>
          (system.call handle event).map fun result => (result.1, ⟨[], result.2⟩)
      | _, _ => .error .otherwise

end System

abbrev SystemHistory (S : Smoltcp) := Runs.History (System S) SystemEvent SystemOutput

def SystemRun (S : Smoltcp) (fromStr : String → Except String AppConfig)
    (history : SystemHistory S) (system : System S) : Prop :=
  Runs.Run (fun s event output t => System.step fromStr s event = .ok (t, output)) (.new S)
    history system

theorem System.replay_run (fromStr : String → Except String AppConfig) (events : List SystemEvent)
    (check : SystemHistory S → System S → Bool)
    (passed : ((Runs.replay (System.step fromStr) [] (.new S) events).any fun r =>
      check r.1 r.2) = true) :
    ∃ history system, SystemRun S fromStr history system ∧ check history system = true := by
  obtain ⟨result, evaluated, checked⟩ := (Option.any_eq_true _ _).mp passed
  exact ⟨result.1, result.2, Runs.replay_run .nil evaluated, checked⟩

/-- An evaluation after which a step is not taken. -/
theorem System.replay_halt (fromStr : String → Except String AppConfig) (events : List SystemEvent)
    (event : SystemEvent) (halt : Halt) (check : SystemHistory S → Bool)
    (passed : ((Runs.replay (System.step fromStr) [] (.new S) events).any fun r =>
      check r.1 && match System.step fromStr r.2 event with
        | .ok _ => false
        | .error met => met == halt) = true) :
    ∃ history system, SystemRun S fromStr history system ∧
      System.step fromStr system event = .error halt ∧ check history = true := by
  obtain ⟨history, system, run, checked⟩ := System.replay_run fromStr events
    (fun history system => check history && match System.step fromStr system event with
      | .ok _ => false
      | .error met => met == halt) passed
  obtain ⟨checked, halted⟩ := Bool.and_eq_true_iff.mp checked
  split at halted
  · contradiction
  · rename_i met returned
    exact ⟨history, system, run, beq_iff_eq.mp halted ▸ returned, checked⟩

/-- What a step of the provider with its read loop is: an action of a call, a packet for a
core, or neither. -/
inductive TunnelMove (tunnel : PacketTunnel) : ReadEvent → List ReadOutput → PacketTunnel → Prop where
  | quiet {event tunnel'} : tunnel'.provider = tunnel.provider → tunnel'.control = tunnel.control →
      (∀ id handler, tunnel'.handlers.lookup id = some handler →
        tunnel.provider.rustHandle = some handler.handle ∨
          ∃ id handler', tunnel.handlers.lookup id = some handler' ∧
            handler'.handle = handler.handle) →
      TunnelMove tunnel event [] tunnel'
  | called {event action rest} : tunnel.control = [] →
      tunnel.provider.actions event = action :: rest →
      TunnelMove tunnel (.call event) [.action action]
        ({ tunnel with control := rest }.perform action)
  | advanced {action rest} : tunnel.control = action :: rest →
      TunnelMove tunnel .advance [.action action] ({ tunnel with control := rest }.perform action)
  | packet {id handle packet rest} :
      tunnel.handlers.lookup id = some ⟨handle, some packet :: rest⟩ →
      TunnelMove tunnel (.handler id) [.processPacket handle packet]
        { tunnel with handlers := tunnel.handlers.insert id ⟨handle, rest⟩ }

theorem PacketTunnel.step_move (tunnel : PacketTunnel) (event : ReadEvent) :
    TunnelMove tunnel event (tunnel.step event).2 (tunnel.step event).1 := by
  have idle : ∀ event, TunnelMove tunnel event [] tunnel := fun event =>
    .quiet rfl rfl fun id handler found => .inr ⟨id, handler, found, rfl⟩
  cases event with
  | call event =>
      simp only [step]
      split
      · rename_i free
        unfold proceed
        split
        · exact idle _
        · exact .called free ‹_›
      · exact idle _
  | advance =>
      simp only [step, proceed]
      split
      · exact idle _
      · exact .advanced ‹_›
  | packets batch =>
      simp only [step]
      split
      · exact idle _
      · unfold readCompleted
        split
        · exact .quiet rfl rfl fun id handler found => .inr ⟨id, handler, found, rfl⟩
        · rename_i held
          refine .quiet rfl rfl fun id handler found => ?_
          obtain ⟨_, rfl⟩ | ⟨_, found⟩ := AList.lookup_insert_eq_some.mp found
          · exact .inl held
          · exact .inr ⟨id, handler, found, rfl⟩
  | handler id =>
      simp only [step]
      split
      · exact idle _
      · rename_i handler found
        obtain ⟨handle, packets⟩ := handler
        obtain _ | ⟨_ | packet, rest⟩ := packets
        · refine .quiet rfl rfl fun other handler found' => ?_
          exact .inr ⟨other, handler, (AList.lookup_erase_eq_some.mp found').2, rfl⟩
        · refine .quiet rfl rfl fun other handler found' => ?_
          obtain ⟨_, rfl⟩ | ⟨_, found'⟩ := AList.lookup_insert_eq_some.mp found'
          · exact .inr ⟨id, _, found, rfl⟩
          · exact .inr ⟨other, handler, found', rfl⟩
        · exact .packet found

end StunnelIos
