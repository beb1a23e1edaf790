import StunnelIos.Core.StreamRuns

/-! What `poll_read` says about the bytes of the app. The bytes come in order; that they
have ended is read off the state of the socket, which a reset and a timeout change too. -/
namespace StunnelIos
variable {S : Smoltcp}

def Happening.bytes : Happening → Bytes
  | .data bytes => bytes
  | _ => []

/-- The unread bytes that go with the end of TIME-WAIT. -/
def Happening.lost (v : TcpView) : Happening → Bytes
  | .expired true => v.recvQueue
  | _ => []

def TcpView.lost (v : TcpView) : List Happening → Bytes
  | [] => []
  | e :: rest => e.lost v ++ ((e.apply v).map (·.lost rest)).getD []

/-- More bytes, or a FIN, can still arrive. -/
def TcpView.MayReceive (v : TcpView) : Prop :=
  ∃ happenings w e, v.follow happenings = some w ∧ (Happening.apply e w).isSome = true ∧
    (e = .fin ∨ ∃ bytes, e = .data bytes)

/-- The bytes that the app has sent, as far as they have arrived in order. -/
def received : StreamHistory S → Bytes
  | [] => []
  | x :: earlier => received earlier ++ match x.event with
      | .arrives happenings => happenings.flatMap Happening.bytes
      | _ => []

def returned : StreamHistory S → Bytes
  | [] => []
  | x :: earlier => returned earlier ++ match x.output with
      | .read (.ready (.ok bytes)) => bytes
      | _ => []

def discarded (stream : TcpStream) : StreamHistory S → Bytes
  | [] => []
  | x :: earlier => discarded stream earlier ++ match x.event with
      | .arrives happenings => (stream.view x.before).lost happenings
      | _ => []

def FinReceived (history : StreamHistory S) : Prop :=
  ∃ x ∈ history, ∃ happenings, x.event = .arrives happenings ∧ .fin ∈ happenings

/-- The result of a read is true: the bytes are the next ones of the app, the end is
reported after the FIN and all bytes before it, a reset before the FIN is an error once
what has arrived is read, and there is something to wait for. -/
structure TrueRead (stream : TcpStream) (result : Poll (IoResult Bytes))
    (x : Runs.Transition (StunnelEngine S) StreamEvent StreamOutput) (earlier : StreamHistory S) :
    Prop where
  in_order : returned (x :: earlier) <+: received (x :: earlier)
  ends : result = .ready (.ok []) ↔ FinReceived earlier ∧ returned earlier = received earlier
  fails : (stream.view x.before).reset = true → ¬ FinReceived earlier →
    returned earlier = received earlier → ∃ error, result = .ready (.error error)
  waits : result = .pending → (stream.view x.before).MayReceive

def ReadsTruly (stream : TcpStream)
    (x : Runs.Transition (StunnelEngine S) StreamEvent StreamOutput) (earlier : StreamHistory S) :
    Prop :=
  ∀ result, x.output = .read result → TrueRead stream result x earlier

/-- A stream without unread bytes is not polled in TIME-WAIT, and in CLOSED only after
the FIN, when no byte has been discarded. -/
def EndKnown (stream : TcpStream)
    (x : Runs.Transition (StunnelEngine S) StreamEvent StreamOutput) (earlier : StreamHistory S) :
    Prop :=
  ∀ waker remaining, x.event = .pollRead waker remaining → (stream.view x.before).recvQueue = [] →
    (stream.view x.before).state ≠ .timeWait ∧
      ((stream.view x.before).state = .closed → FinReceived earlier ∧ discarded stream earlier = [])

/-- The states in which bytes of the app can arrive, now or later. -/
def TcpState.receiving (state : TcpState) : Prop :=
  state = .listen ∨ state = .synReceived ∨ state = .established ∨ state = .finWait1 ∨
    state = .finWait2

/-- Where the bytes of the app have gone, and what the state says about its FIN. -/
structure Account (arrived read lost : Bytes) (fin : Prop) (v : TcpView) : Prop where
  conserved : arrived = read ++ lost ++ v.recvQueue
  spent : lost ≠ [] → v.state = .closed ∧ v.recvQueue = []
  finished : v.state = .closeWait ∨ v.state = .closing ∨ v.state = .lastAck ∨
    v.state = .timeWait → fin
  unfinished : v.state.receiving → ¬ fin

section
variable {arrived read lost : Bytes} {fin : Prop} {v w : TcpView}

theorem Account.listen (bound : IpListenEndpoint) :
    Account [] [] [] False { TcpView.fresh with state := .listen, bound := bound } := by
  constructor <;> simp [TcpView.fresh]

theorem Account.happening (account : Account arrived read lost fin v) {e : Happening}
    (applied : e.apply v = some w) :
    Account (arrived ++ e.bytes) read (lost ++ e.lost v) (fin ∨ e = .fin) w := by
  obtain ⟨conserved, spent, finished, unfinished⟩ := account
  have kept : v.state ≠ .closed → lost = [] := by
    intro state
    by_contra some_lost
    exact state (spent some_lost).1
  cases Happening.edge applied with
  | data state =>
      have open_state : v.state ≠ .closed := by obtain state | state | state := state <;> simp [state]
      refine ⟨?_, ?_, ?_, ?_⟩
      · simp [Happening.bytes, Happening.lost, conserved]
      · simp [Happening.lost, kept open_state]
      · exact fun closed => .inl (finished closed)
      · simpa using unfinished
  | acked =>
      refine ⟨by simpa [Happening.bytes, Happening.lost] using conserved,
        by simpa [Happening.lost] using spent, fun closed => .inl (finished closed),
        by simpa using unfinished⟩
  | @expired cleared state =>
      have none_lost : lost = [] := kept (by simp [state])
      refine ⟨?_, ?_, by simp, by simp [TcpState.receiving]⟩
      · cases cleared <;> simp [Happening.bytes, Happening.lost, conserved, none_lost]
      · cases cleared <;> simp [Happening.lost, none_lost]
  | rst =>
      refine ⟨by simpa [Happening.bytes, Happening.lost] using conserved, ?_, by simp,
        by simp [TcpState.receiving]⟩
      intro some_lost
      exact ⟨rfl, (spent (by simpa [Happening.lost] using some_lost)).2⟩
  | fin state =>
      have open_state : v.state ≠ .closed := by obtain state | state := state <;> simp [state]
      refine ⟨by simpa [Happening.bytes, Happening.lost] using conserved,
        by simp [Happening.lost, kept open_state], fun _ => .inr rfl, by simp [TcpState.receiving]⟩
  | finWhileClosing state | finLast state =>
      refine ⟨by simpa [Happening.bytes, Happening.lost] using conserved,
        by simp [Happening.lost, kept (by simp [state])], fun _ => .inr rfl,
        by simp [TcpState.receiving]⟩
  | syn state | handshake state | finAcked state | rstHandshake state =>
      have running : ¬ fin := unfinished (by simp [TcpState.receiving, state])
      refine ⟨by simpa [Happening.bytes, Happening.lost] using conserved,
        by simp [Happening.lost, kept (by simp [state])], by simp, by simpa using fun _ => running⟩
  | finAckedClosing state =>
      refine ⟨by simpa [Happening.bytes, Happening.lost] using conserved,
        by simp [Happening.lost, kept (by simp [state])],
        fun _ => .inl (finished (.inr (.inl state))), by simp [TcpState.receiving]⟩
  | finAckedLast state =>
      refine ⟨by simpa [Happening.bytes, Happening.lost] using conserved,
        by simp [Happening.lost, kept (by simp [state])], by simp, by simp [TcpState.receiving]⟩

theorem Account.follow (account : Account arrived read lost fin v) {happenings : List Happening}
    (followed : v.follow happenings = some w) :
    Account (arrived ++ happenings.flatMap Happening.bytes) read (lost ++ v.lost happenings)
      (fin ∨ .fin ∈ happenings) w := by
  induction happenings generalizing arrived lost fin v with
  | nil =>
      cases followed
      simpa [TcpView.lost] using account
  | cons e rest ih =>
      obtain ⟨next, applied, followed⟩ := Option.bind_eq_some_iff.mp followed
      have account := ih (account.happening applied) followed
      simpa [TcpView.lost, applied, List.append_assoc, or_assoc, eq_comm] using account

theorem Account.close (account : Account arrived read lost fin v) :
    Account arrived read lost fin v.close := by
  obtain ⟨conserved, spent, finished, unfinished⟩ := account
  cases state : v.state <;> simp only [TcpView.close, state] <;>
    constructor <;> simp_all [TcpState.receiving]

theorem Account.recv (account : Account arrived read lost fin v) {data : Bytes}
    (nonempty : data ≠ []) (head : data <+: v.recvQueue) :
    Account arrived (read ++ data) lost fin
      { v with recvQueue := v.recvQueue.drop data.length } := by
  obtain ⟨rest, queue⟩ := head
  have none_lost : lost = [] := by
    by_contra some_lost
    have empty := (account.spent some_lost).2
    simp [← queue, nonempty] at empty
  refine ⟨?_, by simp [none_lost], account.finished, account.unfinished⟩
  simp [account.conserved, none_lost, ← queue]

variable {stream : TcpStream} {engine engine' : StunnelEngine S} {event : StreamEvent}
  {output : StreamOutput} {history : StreamHistory S} {waker : TaskId} {remaining : Nat}

theorem FinReceived.cons_iff {x : Runs.Transition (StunnelEngine S) StreamEvent StreamOutput} :
    FinReceived (x :: history) ↔
      FinReceived history ∨ ∃ happenings, x.event = .arrives happenings ∧ .fin ∈ happenings := by
  simp only [FinReceived, List.mem_cons, exists_eq_or_imp, or_comm]

def Balanced (stream : TcpStream) (history : StreamHistory S) (v : TcpView) : Prop :=
  Account (received history) (returned history) (discarded stream history) (FinReceived history) v

theorem Balanced.step (account : Balanced stream history (stream.view engine))
    (moved : SocketStep S (stream.view engine) event output w) :
    Balanced stream (⟨engine, event, output, engine'⟩ :: history) w := by
  unfold Balanced at account ⊢
  have same_fin : (∀ happenings, event ≠ .arrives happenings) →
      FinReceived (⟨engine, event, output, engine'⟩ :: history) = FinReceived history := by
    intro other
    refine propext (FinReceived.cons_iff.trans (or_iff_left ?_))
    rintro ⟨happenings, same, _⟩
    exact other happenings same
  cases moved with
  | @arrives _ happenings followed =>
      have fin : FinReceived (⟨engine, .arrives happenings, .none, engine'⟩ :: history) =
          (FinReceived history ∨ .fin ∈ happenings) := by
        refine propext (FinReceived.cons_iff.trans (or_congr_right ?_))
        simp
      rw [fin]
      simpa only [received, returned, discarded, List.append_nil] using account.follow followed
  | data nonempty head =>
      rw [same_fin (by simp)]
      simpa only [received, returned, discarded, List.append_nil] using account.recv nonempty head
  | eof | pending | kept =>
      rw [same_fin (by simp)]
      simpa only [received, returned, discarded, List.append_nil] using account
  | accepted =>
      rw [same_fin (by simp)]
      simp only [received, returned, discarded, List.append_nil]
      exact ⟨account.conserved, account.spent, account.finished, account.unfinished⟩
  | closed =>
      rw [same_fin (by simp)]
      simpa only [received, returned, discarded, List.append_nil] using account.close

theorem StreamRun.balanced (api : S.ApiLaws) (run : StreamRun S stream history engine) :
    Balanced stream history (stream.view engine) := by
  obtain ⟨start, starts, run⟩ := run
  refine run.history_invariant
    (P := fun history engine => Balanced stream history (stream.view engine)) ?_ ?_
  · obtain ⟨t, bound, holds, view⟩ := starts
    have none_arrived : FinReceived ([] : StreamHistory S) = False := by simp [FinReceived]
    rw [holds.view, view, Balanced, none_arrived]
    exact .listen bound
  · intro history engine event output engine' earlier account stepped
    obtain ⟨⟨t, holds⟩, _⟩ := StreamRun.holds api ⟨start, starts, earlier⟩
    exact account.step (stepped.socket api holds).2

/-- A FIN can be received in each of these states, after a handshake if need be. -/
theorem TcpState.receiving.mayReceive (receiving : v.state.receiving) : v.MayReceive := by
  obtain state | state | state | state | state := receiving
  · have opened : v.follow [.syn ⟨.v4 tunAddr, 80⟩ ⟨.v4 tunAddr, 1000⟩] = some { v with
        state := .synReceived
        tuple := some (⟨.v4 tunAddr, 80⟩, ⟨.v4 tunAddr, 1000⟩)
        connected := true } := by
      simp [TcpView.follow, Happening.apply, state]
    exact ⟨_, _, .fin, opened, rfl, .inl rfl⟩
  all_goals
    refine ⟨[], v, .fin, rfl, ?_, .inl rfl⟩
    simp [Happening.apply, state]

/-- What has not been returned waits in the socket or has been discarded. -/
theorem Balanced.all_read_iff (account : Balanced stream history v) :
    returned history = received history ↔ discarded stream history = [] ∧ v.recvQueue = [] := by
  rw [account.conserved, eq_comm]
  simp

theorem Balanced.returned_prefix (account : Balanced stream history v) :
    returned history <+: received history := by
  rw [account.conserved, List.append_assoc]
  exact List.prefix_append _ _

theorem Balanced.eof_true_iff (account : Balanced stream history (stream.view engine))
    (empty : (stream.view engine).recvQueue = []) (atEnd : (stream.view engine).state.isEnd) :
    TrueRead stream (.ready (.ok []))
        ⟨engine, .pollRead waker remaining, .read (.ready (.ok [])), engine'⟩ history ↔
      ((stream.view engine).state = .closed →
        FinReceived history ∧ discarded stream history = []) := by
  have all_read := account.all_read_iff
  constructor
  · intro reads _
    obtain ⟨fin, same⟩ := reads.ends.mp rfl
    exact ⟨fin, (all_read.mp same).1⟩
  · intro known
    obtain ⟨fin, none_lost⟩ : FinReceived history ∧ discarded stream history = [] := by
      by_cases closed : (stream.view engine).state = .closed
      · exact known closed
      · refine ⟨account.finished ?_, ?_⟩
        · unfold TcpState.isEnd at atEnd
          tauto
        · by_contra some_lost
          exact closed (account.spent some_lost).1
    have same := all_read.mpr ⟨none_lost, empty⟩
    refine ⟨?_, iff_of_true rfl ⟨fin, same⟩, fun _ running => absurd fin running, by simp⟩
    simpa only [returned, received, List.append_nil] using account.returned_prefix

theorem Balanced.pending_true_iff (life : (stream.view engine).Lifecycle)
    (account : Balanced stream history (stream.view engine))
    (empty : (stream.view engine).recvQueue = []) (running : ¬ (stream.view engine).state.isEnd) :
    TrueRead stream .pending ⟨engine, .pollRead waker remaining, .read .pending, engine'⟩ history ↔
      (stream.view engine).state ≠ .timeWait := by
  have not_closed : (stream.view engine).state ≠ .closed := fun closed => running (.inl closed)
  have none_lost : discarded stream history = [] := by
    by_contra some_lost
    exact not_closed (account.spent some_lost).1
  constructor
  · intro reads waiting
    have fin := account.finished (.inr (.inr (.inr waiting)))
    cases reads.ends.mpr ⟨fin, account.all_read_iff.mpr ⟨none_lost, empty⟩⟩
  · intro not_waiting
    have receiving : (stream.view engine).state.receiving := by
      have passive := life.passive
      unfold TcpState.isEnd at running
      unfold TcpState.receiving
      cases state : (stream.view engine).state <;> simp_all
    have unfinished := account.unfinished receiving
    have no_reset : (stream.view engine).reset = false := by
      by_cases listening : (stream.view engine).state = .listen
      · exact (life.listening listening).2
      · exact (life.connecting not_closed listening).2
    refine ⟨?_, iff_of_false (by simp) fun ended => unfinished ended.1, ?_,
      fun _ => receiving.mayReceive⟩
    · simpa only [returned, received, List.append_nil] using account.returned_prefix
    · intro reset
      simp [no_reset] at reset

/-- Unread bytes are read true, and without them what the state tells of the end
decides. -/
theorem SocketStep.truly_iff (life : (stream.view engine).Lifecycle)
    (account : Balanced stream history (stream.view engine))
    (moved : SocketStep S (stream.view engine) event output (stream.view engine')) :
    ReadsTruly stream ⟨engine, event, output, engine'⟩ history ↔
      EndKnown stream ⟨engine, event, output, engine'⟩ history := by
  unfold ReadsTruly EndKnown
  generalize stream.view engine' = w at moved
  cases moved with
  | arrives | accepted | kept | closed => simp
  | data nonempty head =>
      have unread : (stream.view engine).recvQueue ≠ [] := by
        intro empty
        rw [empty] at head
        exact nonempty (List.prefix_nil.mp head)
      have some_unread : returned history ≠ received history :=
        fun same => unread (account.all_read_iff.mp same).2
      have none_lost : discarded stream history = [] := by
        by_contra some_lost
        exact unread (account.spent some_lost).2
      refine iff_of_true ?_ fun _ _ _ empty => absurd empty unread
      rintro _ ⟨⟩
      refine ⟨?_, by simp [nonempty, some_unread], fun _ _ same => absurd same some_unread, by simp⟩
      simp only [returned, received, List.append_nil]
      rw [account.conserved, none_lost, List.append_nil]
      exact (List.prefix_append_right_inj _).mpr head
  | eof empty atEnd =>
      have not_waiting : (stream.view engine).state ≠ .timeWait := by
        intro waiting
        simp [TcpState.isEnd, waiting] at atEnd
      constructor
      · rintro reads _ _ ⟨⟩ _
        exact ⟨not_waiting, (account.eof_true_iff empty atEnd).mp (reads _ rfl)⟩
      · rintro known _ ⟨⟩
        exact (account.eof_true_iff empty atEnd).mpr (known _ _ rfl empty).2
  | pending empty running =>
      constructor
      · rintro reads _ _ ⟨⟩ _
        exact ⟨(account.pending_true_iff life empty running).mp (reads _ rfl),
          fun closed => absurd (.inl closed) running⟩
      · rintro known _ ⟨⟩
        exact (account.pending_true_iff life empty running).mpr (known _ _ rfl empty).1

/-- In every run of a stream all reads are true exactly when the stream is polled without
unread bytes only where the state tells of the end. -/
theorem reads_truly_iff (api : S.ApiLaws) (run : StreamRun S stream history engine) :
    Runs.Throughout (ReadsTruly stream) history ↔ Runs.Throughout (EndKnown stream) history := by
  obtain ⟨start, starts, run⟩ := run
  refine run.throughout_iff ?_
  intro earlier before event output after run stepped
  have run : StreamRun S stream earlier before := ⟨start, starts, run⟩
  obtain ⟨⟨t, holds⟩, life⟩ := run.holds api
  exact (stepped.socket api holds).2.truly_iff life (run.balanced api)

end

/-- The app resets the connection, and the stream reports its end. -/
theorem reset_reported_as_end : ¬ ∀ stream history (engine : StunnelEngine Reference.stack),
    StreamRun Reference.stack stream history engine →
      Runs.Throughout (ReadsTruly stream) history := by
  intro claimed
  have reset : Reference.listening.view.follow
      [.syn ⟨.v4 tunAddr, 80⟩ ⟨.v4 tunAddr, 1000⟩, .handshake, .rst] =
        some { Reference.listening.view with state := .closed, connected := true, reset := true } := rfl
  obtain ⟨t, view, _, run⟩ := Reference.run_of_follow reset (by decide)
  have view : Reference.stack.tcpView t = _ := view
  obtain ⟨result, engine, _, read, _, run⟩ :=
    run.read Reference.api (TcpStream.holds_holding (S := Reference.stack) t) 0 (Nat.succ_ne_zero 0)
  have reads := (claimed _ _ _ run).1 result rfl
  cases read with
  | data nonempty head =>
      rw [view] at head
      exact nonempty (List.prefix_nil.mp head)
  | eof =>
      obtain ⟨fin, _⟩ := reads.ends.mp rfl
      simp [FinReceived] at fin
  | pending _ running =>
      rw [view] at running
      exact running (.inl rfl)

/-- The app sends two bytes with its FIN, and they are read. -/
theorem reads_truly_iff_two_bytes : ∃ history engine,
    StreamRun Reference.stack ⟨0⟩ history engine ∧ FinReceived history ∧ returned history ≠ [] ∧
      Runs.Throughout (EndKnown ⟨0⟩) history ∧ Runs.Throughout (ReadsTruly ⟨0⟩) history := by
  have sent : Reference.listening.view.follow
      [.syn ⟨.v4 tunAddr, 80⟩ ⟨.v4 tunAddr, 1000⟩, .handshake, .data [1, 2], .fin] = some _ := rfl
  obtain ⟨t, view, _, run⟩ := Reference.run_of_follow sent (by decide)
  have view : Reference.stack.tcpView t = _ := view
  obtain ⟨result, engine, _, read, _, run⟩ :=
    run.read Reference.api (TcpStream.holds_holding (S := Reference.stack) t) 0 (Nat.succ_ne_zero 9)
  have unread : (TcpStream.view ⟨0⟩ (StunnelEngine.holding (S := Reference.stack) t)).recvQueue =
      [1, 2] := by
    rw [(TcpStream.holds_holding (S := Reference.stack) t).view, view]
    rfl
  refine ⟨_, _, run, ?_, ?_, ?known, (reads_truly_iff Reference.api run).mpr ?known⟩
  · simp [FinReceived]
  · cases read with
    | data nonempty => simpa [returned] using nonempty
    | eof empty | pending empty =>
        rw [view] at empty
        cases empty
  · refine ⟨fun _ _ _ empty => ?_, fun _ _ arrives => (nomatch arrives), trivial⟩
    cases unread.symm.trans empty

end StunnelIos
