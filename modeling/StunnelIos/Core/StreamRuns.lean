import StunnelIos.Library.Runs
import StunnelIos.Smoltcp.ReferenceLaws
import StunnelIos.Core.Turns

/-! One stream over its whole life: what arrives for its socket, and the calls on the
stream, in any order. -/
namespace StunnelIos
variable {S : Smoltcp}

inductive StreamEvent where
  /-- The stack is polled, and these things happen to the socket. -/
  | arrives (happenings : List Happening)
  | pollRead (waker : TaskId) (remaining : Nat)
  | pollWrite (waker : TaskId) (buf : Bytes)
  | pollShutdown
deriving DecidableEq, Repr

inductive StreamOutput where
  | none
  | read (result : Poll (IoResult Bytes))
  | written (result : Poll (IoResult Nat))
  | shutdown (result : Poll (IoResult Unit))
deriving DecidableEq, Repr

def TcpStream.Holds (stream : TcpStream) (engine : StunnelEngine S) (t : S.TcpSocket) : Prop :=
  engine.sockets.get stream.handle = some (.tcp t)

/-- What can be observed of the socket. -/
def TcpStream.view (stream : TcpStream) (engine : StunnelEngine S) : TcpView :=
  match engine.sockets.get stream.handle with
  | some (.tcp t) => S.tcpView t
  | _ => .fresh

/-- Reads have room for a byte, and the engine may do anything else while something
arrives. -/
inductive StreamStep (S : Smoltcp) (stream : TcpStream) :
    StunnelEngine S → StreamEvent → StreamOutput → StunnelEngine S → Prop where
  | arrives {engine engine' t t' happenings} : stream.Holds engine t → stream.Holds engine' t' →
      (S.tcpView t).follow happenings = some (S.tcpView t') →
      StreamStep S stream engine (.arrives happenings) .none engine'
  | pollRead {engine engine' waker remaining result} : remaining ≠ 0 →
      stream.pollRead engine waker remaining = .ok (result, engine') →
      StreamStep S stream engine (.pollRead waker remaining) (.read result) engine'
  | pollWrite {engine engine' waker buf result} :
      stream.pollWrite engine waker buf = .ok (result, engine') →
      StreamStep S stream engine (.pollWrite waker buf) (.written result) engine'
  | pollShutdown {engine engine' result} :
      stream.pollShutdown engine = .ok (result, engine') →
      StreamStep S stream engine .pollShutdown (.shutdown result) engine'

/-- The stream has just been made for a SYN. -/
def TcpStream.Starts (stream : TcpStream) (engine : StunnelEngine S) : Prop :=
  ∃ t bound, stream.Holds engine t ∧
    S.tcpView t = { TcpView.fresh with state := .listen, bound := bound }

abbrev StreamHistory (S : Smoltcp) := Runs.History (StunnelEngine S) StreamEvent StreamOutput

/-- A run of the stream from a socket that listens. -/
def StreamRun (S : Smoltcp) (stream : TcpStream) (history : StreamHistory S)
    (engine : StunnelEngine S) : Prop :=
  ∃ start, stream.Starts start ∧ Runs.Run (StreamStep S stream) start history engine

section
variable {stream : TcpStream} {engine engine' : StunnelEngine S} {t : S.TcpSocket}
  {event : StreamEvent} {output : StreamOutput} {history : StreamHistory S}

theorem TcpStream.Holds.view (holds : stream.Holds engine t) : stream.view engine = S.tcpView t := by
  unfold TcpStream.Holds at holds
  simp only [TcpStream.view, holds]

theorem Touches.holds (touches : Touches engine engine' stream.handle (.tcp t)) :
    stream.Holds engine' t := by
  rw [TcpStream.Holds, touches.sockets, if_pos rfl]

/-- An engine with this socket alone. -/
def StunnelEngine.holding (t : S.TcpSocket) : StunnelEngine S :=
  ⟨.new, S.interfaceNew, SlotTable.empty.put 0 (.tcp t), ∅, ∅⟩

theorem TcpStream.holds_holding (t : S.TcpSocket) :
    TcpStream.Holds ⟨0⟩ (StunnelEngine.holding t) t := rfl

theorem StreamRun.next (run : StreamRun S stream history engine)
    (stepped : StreamStep S stream engine event output engine') :
    StreamRun S stream (⟨engine, event, output, engine'⟩ :: history) engine' := by
  obtain ⟨start, starts, run⟩ := run
  exact ⟨start, starts, run.next stepped⟩

/-- What a step does to the socket, by the kind of its event. -/
inductive SocketStep (S : Smoltcp) (v : TcpView) : StreamEvent → StreamOutput → TcpView → Prop where
  | arrives {w happenings} : v.follow happenings = some w →
      SocketStep S v (.arrives happenings) .none w
  | data {waker remaining data} : data ≠ [] → data <+: v.recvQueue →
      SocketStep S v (.pollRead waker remaining) (.read (.ready (.ok data)))
        { v with recvQueue := v.recvQueue.drop data.length }
  | eof {waker remaining} : v.recvQueue = [] → v.state.isEnd →
      SocketStep S v (.pollRead waker remaining) (.read (.ready (.ok []))) v
  | pending {waker remaining} : v.recvQueue = [] → ¬ v.state.isEnd →
      SocketStep S v (.pollRead waker remaining) (.read .pending) v
  | accepted {waker buf n} : v.maySend = true →
      SocketStep S v (.pollWrite waker buf) (.written (.ready (.ok n)))
        { v with sendQueue := v.sendQueue ++ buf.take n }
  | kept {waker buf result} : SocketStep S v (.pollWrite waker buf) (.written result) v
  | closed : SocketStep S v .pollShutdown (.shutdown (.ready (.ok ()))) v.close

theorem StreamStep.socket (api : S.ApiLaws) (holds : stream.Holds engine t)
    (stepped : StreamStep S stream engine event output engine') :
    (∃ t', stream.Holds engine' t') ∧
      SocketStep S (stream.view engine) event output (stream.view engine') := by
  rw [holds.view]
  cases stepped with
  | arrives held held' followed =>
      obtain rfl : _ = t := Socket.tcp.inj (Option.some.inj (held.symm.trans holds))
      rw [held'.view]
      exact ⟨⟨_, held'⟩, .arrives followed⟩
  | @pollRead _ waker _ _ room polled =>
      obtain ⟨result, engine'', t', polled', read, touches⟩ := stream.pollRead_spec api waker holds room
      cases polled.symm.trans polled'
      rw [touches.holds.view]
      refine ⟨⟨t', touches.holds⟩, ?_⟩
      cases read with
      | data nonempty head received pending view =>
          rw [view]
          exact .data nonempty head
      | eof waiting atEnd => exact .eof waiting atEnd
      | pending waiting running => exact .pending waiting running
  | @pollWrite _ waker buf _ polled =>
      obtain ⟨result, engine'', t', polled', write, touches⟩ := stream.pollWrite_spec waker buf holds
      cases polled.symm.trans polled'
      rw [touches.holds.view]
      refine ⟨⟨t', touches.holds⟩, ?_⟩
      cases write with
      | accepted _ accepted =>
          obtain ⟨_, may, view, _⟩ := api.tcp_send _ _ _ _ accepted
          rw [view]
          exact .accepted may
      | refused | closed | pending => exact .kept
  | pollShutdown polled =>
      cases polled.symm.trans (stream.pollShutdown_spec holds)
      have touches : Touches engine (engine.setSocket stream.handle (.tcp (S.tcpClose t)))
          stream.handle (.tcp (S.tcpClose t)) := .setSocket holds
      rw [touches.holds.view, (api.tcp_close _).1]
      exact ⟨⟨_, touches.holds⟩, .closed⟩

theorem SocketStep.lifecycle {v w : TcpView} (stepped : SocketStep S v event output w)
    (life : v.Lifecycle) : w.Lifecycle := by
  cases stepped with
  | arrives followed => exact life.follow followed
  | data => exact life.recv _
  | accepted may => exact life.send may _
  | closed => exact life.close
  | eof | pending | kept => exact life

/-- The stream keeps its socket, whose state tells its history. -/
theorem StreamRun.holds (api : S.ApiLaws) (run : StreamRun S stream history engine) :
    (∃ t, stream.Holds engine t) ∧ (stream.view engine).Lifecycle := by
  obtain ⟨start, ⟨t, bound, holds, view⟩, run⟩ := run
  refine run.invariant
    (P := fun engine => (∃ t, stream.Holds engine t) ∧ (stream.view engine).Lifecycle) ?_ ?_
  · refine ⟨⟨t, holds⟩, ?_⟩
    rw [holds.view, view]
    exact .listen bound
  · rintro engine event output engine' ⟨⟨t, holds⟩, life⟩ stepped
    obtain ⟨held, moved⟩ := stepped.socket api holds
    exact ⟨held, moved.lifecycle life⟩

/-- A read that is added to a run. -/
theorem StreamRun.read (api : S.ApiLaws) (run : StreamRun S stream history engine)
    (holds : stream.Holds engine t) (waker : TaskId) {remaining : Nat} (room : remaining ≠ 0) :
    ∃ result engine' t', StreamRead S stream engine t waker result engine' t' ∧
      stream.Holds engine' t' ∧
      StreamRun S stream (⟨engine, .pollRead waker remaining, .read result, engine'⟩ :: history)
        engine' := by
  obtain ⟨result, engine', t', polled, read, touches⟩ := stream.pollRead_spec api waker holds room
  exact ⟨result, engine', t', read, touches.holds, run.next (.pollRead room polled)⟩

end

/-- A run of the concrete stack in which these things happen to a socket that listens. -/
theorem Reference.run_of_follow {happenings : List Happening} {w : TcpView}
    (followed : listening.view.follow happenings = some w)
    (fit : ∀ e ∈ happenings, e.Fits listening.view) :
    ∃ t : Tcp, t.view = w ∧ t.txCapacity = 65536 ∧
      StreamRun stack ⟨0⟩ [⟨.holding listening, .arrives happenings, .none, .holding t⟩]
        (.holding t) := by
  obtain ⟨t, view, capacity⟩ := exists_followed listening followed fit
  have listens : StreamRun stack ⟨0⟩ [] (.holding listening) :=
    ⟨_, ⟨listening, _, TcpStream.holds_holding _, rfl⟩, .nil⟩
  have followed : (stack.tcpView listening).follow happenings = some (stack.tcpView t) :=
    followed.trans (congrArg some view.symm)
  exact ⟨t, view, capacity,
    listens.next (.arrives (TcpStream.holds_holding _) (TcpStream.holds_holding (S := stack) t)
      followed)⟩

end StunnelIos
