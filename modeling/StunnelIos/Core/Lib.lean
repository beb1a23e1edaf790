import StunnelIos.Core.Tcp
import StunnelIos.Core.Udp

/-! The C interface of the core: the context behind its handle, the interception
of packets that open sessions, and the calls the packet tunnel makes. -/
namespace StunnelIos

inductive Task where
  | tcp (session : TcpSession)
  | udp (session : UdpSession)
deriving DecidableEq, Repr

/-- The runtime's tasks that have not ended, under the numbers they were spawned with. -/
structure Runtime where
  tasks : AList fun _ : TaskId => Task
  next : TaskId

namespace Runtime

def new : Runtime := ⟨∅, 0⟩

def spawn (runtime : Runtime) (task : Task) : Runtime :=
  ⟨runtime.tasks.insert runtime.next task, runtime.next + 1⟩

def set (runtime : Runtime) (id : TaskId) (task : Task) : Runtime :=
  { runtime with tasks := runtime.tasks.insert id task }

def remove (runtime : Runtime) (id : TaskId) : Runtime :=
  { runtime with tasks := runtime.tasks.erase id }

end Runtime

/-- The main handle for the C interface. -/
structure CoreContext (S : Smoltcp) where
  engine : Mutex (StunnelEngine S)
  runtime : Runtime
  config : AppConfig
  started : Bool

variable {S : Smoltcp}

def CoreContext.new (S : Smoltcp) (config : AppConfig) : Except Panic (CoreContext S) := do
  let engine ← StunnelEngine.new S
  return ⟨.new engine, .new, config, false⟩

/-- The pointer given to the C side; `none` is the null pointer. -/
abbrev Handle (S : Smoltcp) := Option (CoreContext S)

/-- `fromStr` is the JSON parser. -/
def stunnelCreate (S : Smoltcp) (fromStr : String → Except String AppConfig)
    (configJson : Option String) : Except Panic (Handle S) :=
  match configJson with
  | none => .ok none
  | some configJson =>
      match fromStr configJson with
      | .error _ => .ok none
      | .ok config =>
          match config.tunnelMode with
          | .error _ => .ok none
          | .ok _ => (CoreContext.new S config).map some

namespace CoreContext

def start (ctx : CoreContext S) : Except Panic (Bool × CoreContext S) := do
  let engine ← ctx.engine.lock
  if engine.device.outboundCallback.isNone then return (false, ctx)
  else return (true, { ctx with started := true })

def setPacketCallback (ctx : CoreContext S) (context : Nat) (callback : PacketCallback) :
    Except Panic (CoreContext S) := do
  let engine ← ctx.engine.lock
  let device := { engine.device with
    outboundCallback := some callback, outboundContext := context }
  return { ctx with engine := .new { engine with device := device } }

def clearPacketCallback (ctx : CoreContext S) : Except Panic (CoreContext S) := do
  let engine ← ctx.engine.lock
  let device := { engine.device with outboundCallback := none, outboundContext := 0 }
  return { ctx with engine := .new { engine with device := device } }

end CoreContext

def handleTcpPacket (engine : StunnelEngine S) (runtime : Runtime) (payload : Bytes)
    (dstAddr : Ipv4Address) (isDirect : Bool) :
    Except Panic (StunnelEngine S × Runtime × List Output) :=
  match S.tcpNewChecked payload with
  | none => .ok (engine, runtime, [])
  | some tcpPacket =>
      if !tcpPacket.syn || tcpPacket.ack then .ok (engine, runtime, [])
      else
        match S.tcpListen (S.tcpNew 65536 65536) ⟨some (.v4 dstAddr), tcpPacket.dstPort⟩ with
        | .error error => .error (.listen error)
        | .ok socket =>
            let handle := S.freeSlot engine.sockets
            let session : TcpSession :=
              ⟨⟨handle⟩, isDirect, .v4 dstAddr tcpPacket.dstPort, .opening⟩
            .ok (engine.setSocket handle (.tcp socket), runtime.spawn (.tcp session),
              [.spawned runtime.next])

def handleUdpPacket (engine : StunnelEngine S) (runtime : Runtime) (payload : Bytes)
    (srcAddr dstAddr : Ipv4Address) (isDirect : Bool) :
    Except Panic (StunnelEngine S × Runtime × List Output) :=
  match S.udpNewChecked payload with
  | none => .ok (engine, runtime, [])
  | some udpPacket =>
      let srcEndpoint : SocketAddr := .v4 srcAddr udpPacket.srcPort
      if (engine.udpSessions.lookup srcEndpoint).isSome then .ok (engine, runtime, [])
      else
        match S.udpBind (S.udpNew 16 65536) ⟨some (.v4 dstAddr), udpPacket.dstPort⟩ with
        | .error error => .error (.bind error)
        | .ok socket =>
            let handle := S.freeSlot engine.sockets
            let engine := engine.setSocket handle (.udp socket)
            let engine := { engine with
              udpSessions := engine.udpSessions.insert srcEndpoint handle }
            let session : UdpSession :=
              ⟨⟨handle⟩, srcEndpoint, .v4 dstAddr udpPacket.dstPort, isDirect, .opening⟩
            .ok (engine, runtime.spawn (.udp session), [.spawned runtime.next])

/-- The packet is looked at before the stack gets it, and may open a session. -/
def interceptPacket (engine : StunnelEngine S) (runtime : Runtime) (bytes : Bytes) :
    Except Panic (StunnelEngine S × Runtime × List Output) :=
  match S.ipv4NewChecked bytes with
  | none => .ok (engine, runtime, [])
  | some ipPacket =>
      let isDirect := isPrivateV4 ipPacket.dstAddr
      match ipPacket.nextHeader with
      | .tcp => handleTcpPacket engine runtime ipPacket.payload ipPacket.dstAddr isDirect
      | .udp =>
          handleUdpPacket engine runtime ipPacket.payload ipPacket.srcAddr ipPacket.dstAddr isDirect
      | .other _ => .ok (engine, runtime, [])

def CoreContext.processPacket (ctx : CoreContext S) (bytes : Bytes) (now : Instant) :
    Except Panic (CoreContext S × List Output) := do
  if !ctx.started then return (ctx, [])
  else
    let engine ← ctx.engine.lock
    let (engine, runtime, opened) ← interceptPacket engine ctx.runtime bytes
    let (pushed, engine) := engine.pushInboundPacket bytes
    if !pushed then return ({ ctx with engine := .new engine, runtime := runtime }, opened)
    else
      let (engine, polled) := engine.poll now
      return ({ ctx with engine := .new engine, runtime := runtime }, opened ++ polled)

/-- A session task takes one step under the lock. -/
def Task.step (config : AppConfig) (engine : StunnelEngine S) (id : TaskId) :
    Task → Sum TcpEvent UdpEvent → Except Panic (Task × StunnelEngine S × List Output)
  | .tcp session, .inl event => do
      let (session, engine, outputs) ← session.step config engine id event
      return (.tcp session, engine, outputs)
  | .udp session, .inr event => do
      let (session, engine, outputs) ← session.step config engine id event
      return (.udp session, engine, outputs)
  | task, _ => .ok (task, engine, [])

/-- The end of a task drops its stream or socket. -/
def Task.drop (engine : StunnelEngine S) : Task → Except Panic (StunnelEngine S)
  | .tcp session => session.stream.drop engine
  | .udp session => session.socket.drop engine

def Task.isFinished : Task → Bool
  | .tcp ⟨_, _, _, .finished _⟩ => true
  | .udp ⟨_, _, _, _, .finished _⟩ => true
  | _ => false

/-- A panic on a runtime thread ends the task and poisons the lock it held. -/
def CoreContext.poison (ctx : CoreContext S) (id : TaskId) : CoreContext S :=
  { ctx with
    engine := { ctx.engine with poisoned := true }, runtime := ctx.runtime.remove id }

def CoreContext.stepTask (ctx : CoreContext S) (id : TaskId) (event : Sum TcpEvent UdpEvent) :
    CoreContext S × List Output :=
  match ctx.runtime.tasks.lookup id with
  | none => (ctx, [])
  | some task =>
      match ctx.engine.lock.bind fun engine => task.step ctx.config engine id event with
      | .error _ => (ctx.poison id, [])
      | .ok (task, engine, outputs) =>
          ({ ctx with engine := .new engine, runtime := ctx.runtime.set id task }, outputs)

def CoreContext.dropTask (ctx : CoreContext S) (id : TaskId) : CoreContext S :=
  match ctx.runtime.tasks.lookup id with
  | none => ctx
  | some task =>
      if task.isFinished then
        match ctx.engine.lock.bind task.drop with
        | .error _ => ctx.poison id
        | .ok engine => { ctx with engine := .new engine, runtime := ctx.runtime.remove id }
      else ctx

/-! The C functions. Each returns at once on a null handle. A panic in one of them
ends the process. -/

def stunnelStart (handle : Handle S) : Except Panic (Bool × Handle S) :=
  match handle with
  | none => .ok (false, none)
  | some ctx => ctx.start.map fun (started, ctx) => (started, some ctx)

def stunnelSetPacketCallback (handle : Handle S) (context : Nat) (callback : PacketCallback) :
    Except Panic (Handle S) :=
  match handle with
  | none => .ok none
  | some ctx => (ctx.setPacketCallback context callback).map some

def stunnelClearPacketCallback (handle : Handle S) : Except Panic (Handle S) :=
  match handle with
  | none => .ok none
  | some ctx => ctx.clearPacketCallback.map some

def stunnelProcessPacket (handle : Handle S) (packet : Option Bytes) (now : Instant) :
    Except Panic (Handle S × List Output) :=
  match handle, packet with
  | some ctx, some bytes => (ctx.processPacket bytes now).map fun (ctx, outputs) => (some ctx, outputs)
  | handle, _ => .ok (handle, [])

/-- Frees the core, and with it the runtime and its tasks. -/
def stunnelStop (_handle : Handle S) : Handle S := none

/-- The atomic steps of a core: the calls of the C side, and what the session
tasks do on the runtime's threads, in any interleaving. -/
inductive Event where
  | setPacketCallback (context : Nat) (callback : PacketCallback)
  | clearPacketCallback
  | start
  | processPacket (packet : Option Bytes) (now : Instant)
  | stop
  | task (id : TaskId) (event : Sum TcpEvent UdpEvent)
  | drop (id : TaskId)
deriving DecidableEq

def Handle.step (handle : Handle S) : Event → Except Panic (Handle S × List Output)
  | .setPacketCallback context callback =>
      (stunnelSetPacketCallback handle context callback).map (·, [])
  | .clearPacketCallback => (stunnelClearPacketCallback handle).map (·, [])
  | .start => (stunnelStart handle).map fun result => (result.2, [])
  | .processPacket packet now => stunnelProcessPacket handle packet now
  | .stop => .ok (stunnelStop handle, [])
  | .task id event =>
      match handle with
      | none => .ok (none, [])
      | some ctx => .ok (some (ctx.stepTask id event).1, (ctx.stepTask id event).2)
  | .drop id => .ok (handle.map (·.dropTask id), [])

end StunnelIos
