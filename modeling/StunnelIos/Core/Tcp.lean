import StunnelIos.Core.Engine

/-! TCP sessions: the stream over a socket of the stack, and the task that copies
between it and the outbound connection or tunnel. The copying itself is tokio's
`copy_bidirectional`; a session takes, in any order, the steps it may take. -/
namespace StunnelIos

structure TcpStream where
  handle : SocketHandle
deriving DecidableEq, Repr

namespace TcpStream
variable {S : Smoltcp}

def drop (stream : TcpStream) (engine : StunnelEngine S) : Except Panic (StunnelEngine S) := do
  let sockets ← SocketSet.remove engine.sockets stream.handle
  return { engine with sockets := sockets }

/-- The bytes put into the buffer; reading none is the end of the stream. -/
def pollRead (stream : TcpStream) (engine : StunnelEngine S) (waker : TaskId) (remaining : Nat) :
    Except Panic (Poll (IoResult Bytes) × StunnelEngine S) := do
  let socket ← SocketSet.getMutTcp engine.sockets stream.handle
  if S.tcpCanRecv socket then
    match S.tcpRecv socket (fun data => min data.length remaining) with
    | .ok (data, socket) =>
        return (.ready (.ok (data.take (min data.length remaining))),
          engine.setSocket stream.handle (.tcp socket))
    | .error error => return (.ready (.error (.other (.tcpRecv error))), engine)
  else
    match S.tcpState socket with
    | .closed | .closeWait | .closing | .lastAck => return (.ready (.ok []), engine)
    | _ => return (.pending, engine.registerWaker stream.handle waker)

def pollWrite (stream : TcpStream) (engine : StunnelEngine S) (waker : TaskId) (buf : Bytes) :
    Except Panic (Poll (IoResult Nat) × StunnelEngine S) := do
  let socket ← SocketSet.getMutTcp engine.sockets stream.handle
  if S.tcpCanSend socket then
    match S.tcpSendSlice socket buf with
    | .ok (n, socket) => return (.ready (.ok n), engine.setSocket stream.handle (.tcp socket))
    | .error error => return (.ready (.error (.other (.tcpSend error))), engine)
  else
    match S.tcpState socket with
    | .closed | .closeWait | .closing | .lastAck =>
        return (.ready (.error ⟨.brokenPipe, .message "connection closed"⟩), engine)
    | _ => return (.pending, engine.registerWaker stream.handle waker)

def pollFlush (_stream : TcpStream) : Poll (IoResult Unit) := .ready (.ok ())

def pollShutdown (stream : TcpStream) (engine : StunnelEngine S) :
    Except Panic (Poll (IoResult Unit) × StunnelEngine S) := do
  let socket ← SocketSet.getMutTcp engine.sockets stream.handle
  return (.ready (.ok ()), engine.setSocket stream.handle (.tcp (S.tcpClose socket)))

end TcpStream

/-- `copying` says of each direction whether it is done: from the app, when the
stream has reported its end; to the app, when the stream has been shut down. -/
inductive TcpPhase where
  | opening
  | copying (readDone writeDone : Bool)
  | finished (result : IoResult Unit)
deriving DecidableEq, Repr

structure TcpSession where
  stream : TcpStream
  isDirect : Bool
  target : SocketAddr
  phase : TcpPhase
deriving DecidableEq, Repr

/-- The steps of a TCP session, with what its outbound side contributes. -/
inductive TcpEvent where
  /-- The outbound connection, or the tunnel, is set up or fails. -/
  | opened (result : IoResult Unit)
  | pollRead (remaining : Nat)
  | pollWrite (buf : Bytes)
  /-- The outbound side has reported its end: the stream is flushed and shut down. -/
  | shutdown
  | finished (result : IoResult Unit)
deriving DecidableEq, Repr

namespace TcpSession
variable {S : Smoltcp}

/-- `handle_tcp_direct_session` and `handle_tcp_proxy_session` up to the copying. -/
def opened (config : AppConfig) (session : TcpSession) (result : IoResult Unit) : TcpSession :=
  let result := if session.isDirect then result else config.tunnelMode.bind fun _ => result
  match result with
  | .ok () => { session with phase := .copying false false }
  | .error error => { session with phase := .finished (.error error) }

def read (session : TcpSession) (engine : StunnelEngine S) (task : TaskId) (writeDone : Bool)
    (remaining : Nat) : Except Panic (TcpSession × StunnelEngine S × List Output) := do
  match ← session.stream.pollRead engine task remaining with
  | (.ready (.ok []), engine) =>
      return ({ session with phase := .copying true writeDone }, engine, [])
  | (.ready (.ok bytes), engine) =>
      return (session, engine, [.streamed task session.isDirect session.target bytes])
  | (.ready (.error error), engine) =>
      return ({ session with phase := .finished (.error error) }, engine, [])
  | (.pending, engine) => return (session, engine, [])

def write (session : TcpSession) (engine : StunnelEngine S) (task : TaskId) (buf : Bytes) :
    Except Panic (TcpSession × StunnelEngine S × List Output) := do
  match ← session.stream.pollWrite engine task buf with
  | (.ready (.ok n), engine) => return (session, engine, [.written task (buf.take n)])
  | (.ready (.error error), engine) =>
      return ({ session with phase := .finished (.error error) }, engine, [])
  | (.pending, engine) => return (session, engine, [])

/-- The stream is flushed, and shut down once that is done. -/
def shutdown (session : TcpSession) (engine : StunnelEngine S) (task : TaskId) (readDone : Bool) :
    Except Panic (TcpSession × StunnelEngine S × List Output) := do
  match session.stream.pollFlush with
  | .pending => return (session, engine, [])
  | .ready (.error error) =>
      return ({ session with phase := .finished (.error error) }, engine, [])
  | .ready (.ok ()) =>
      match ← session.stream.pollShutdown engine with
      | (.ready (.ok ()), engine) =>
          return ({ session with phase := .copying readDone true }, engine, [.shutdown task])
      | (.ready (.error error), engine) =>
          return ({ session with phase := .finished (.error error) }, engine, [])
      | (.pending, engine) => return (session, engine, [])

/-- Each direction reads until the end and then shuts its writer down once; the
copying succeeds when both are done, and fails on any error. A step that the
session cannot take in its phase changes nothing. -/
def step (config : AppConfig) (session : TcpSession) (engine : StunnelEngine S) (task : TaskId)
    (event : TcpEvent) : Except Panic (TcpSession × StunnelEngine S × List Output) :=
  match session.phase, event with
  | .opening, .opened result => .ok (session.opened config result, engine, [])
  | .copying false writeDone, .pollRead (remaining + 1) =>
      session.read engine task writeDone (remaining + 1)
  | .copying _ false, .pollWrite (byte :: buf) => session.write engine task (byte :: buf)
  | .copying readDone false, .shutdown => session.shutdown engine task readDone
  | .copying true true, .finished (.ok ()) =>
      .ok ({ session with phase := .finished (.ok ()) }, engine, [])
  | .copying _ _, .finished (.error error) =>
      .ok ({ session with phase := .finished (.error error) }, engine, [])
  | _, _ => .ok (session, engine, [])

end TcpSession

end StunnelIos
