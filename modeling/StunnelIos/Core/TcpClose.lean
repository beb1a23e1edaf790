import StunnelIos.Smoltcp.ReferenceLaws
import StunnelIos.Core.Sessions

/-! What the socket of a TCP session still holds when the session ends. The copying
succeeds once the app has closed and the stream has been shut down; the stream does
not wait for the acknowledgement of what it has accepted, and dropping it removes the
socket with its buffers. -/
namespace StunnelIos
variable {S : Smoltcp}

/-- What the phase of a session says about its socket. -/
def TcpPhase.Agrees (state : TcpState) : TcpPhase → Prop
  | .opening => True
  | .copying readDone writeDone =>
      (readDone = true → state.peerClosed) ∧ (writeDone = true → state.selfClosed)
  | .finished (.ok ()) => state.peerClosed ∧ state.selfClosed
  | .finished (.error _) => True

def Closes (S : Smoltcp) : Task → Socket S.TcpSocket S.UdpSocket → Prop
  | .tcp session, .tcp t =>
      (S.tcpView t).Lifecycle ∧ (S.tcpView t).Coherent ∧
        session.phase.Agrees (S.tcpView t).state
  | .udp _, .udp _ => True
  | _, _ => False

theorem TcpState.isEnd.peerClosed {state : TcpState} (atEnd : state.isEnd) : state.peerClosed := by
  obtain rfl | rfl | rfl | rfl := atEnd <;> simp [TcpState.peerClosed]

theorem TcpPhase.Agrees.follow {phase : TcpPhase} {v w : TcpView} (agrees : phase.Agrees v.state)
    {happenings : List Happening} (followed : v.follow happenings = some w) :
    phase.Agrees w.state := by
  match phase, agrees with
  | .opening, _ => trivial
  | .copying _ _, agrees =>
      exact ⟨fun done => TcpView.follow_peerClosed followed (agrees.1 done),
        fun done => TcpView.follow_selfClosed followed (agrees.2 done)⟩
  | .finished (.ok ()), agrees =>
      exact ⟨TcpView.follow_peerClosed followed agrees.1,
        TcpView.follow_selfClosed followed agrees.2⟩
  | .finished (.error _), _ => trivial

theorem TcpTurn.agrees (api : S.ApiLaws) {config : AppConfig} {id : TaskId}
    {session session' : TcpSession} {t t' : S.TcpSocket} {event : TcpEvent}
    {outputs : List Output} (turn : TcpTurn S config id session t event session' t' outputs)
    (agrees : session.phase.Agrees (S.tcpView t).state) :
    session'.phase.Agrees (S.tcpView t').state := by
  cases turn with
  | idle => exact agrees
  | opened _ outcome =>
      obtain rfl | ⟨error, rfl⟩ := outcome
      · exact ⟨by simp, by simp⟩
      · trivial
  | read _ _ _ _ _ view =>
      rw [view]
      exact agrees
  | eof phase _ atEnd =>
      rw [phase] at agrees
      exact ⟨fun _ => atEnd.peerClosed, agrees.2⟩
  | wrote _ accepted =>
      rw [(api.tcp_send _ _ _ _ accepted).2.2.1]
      exact agrees
  | shutdown phase =>
      rw [phase] at agrees
      rw [(api.tcp_close _).1]
      exact ⟨fun done => TcpView.close_peerClosed (agrees.1 done),
        fun _ => TcpView.close_selfClosed _⟩
  | succeeded phase =>
      rw [phase] at agrees
      exact ⟨agrees.1 rfl, agrees.2 rfl⟩
  | failed => trivial

theorem closes_stable (api : S.ApiLaws) : Stable (Closes S) := by
  constructor
  · intro handle dst port t _ listening
    rw [Closes, listening.1]
    exact ⟨.listen _, .listen _, trivial⟩
  · intro _ _ _ _ _ _ _
    trivial
  · intro config id session t event session' t' outputs related turn
    have views := turn.lifecycle api related.1 related.2.1
    exact ⟨views.1, views.2, turn.agrees api related.2.2⟩
  · intro _ _ _ _ _ _ _ _ _ _
    trivial
  · intro session interface now packet t t' happenings related followed caused
    exact ⟨related.1.follow followed,
      related.2.1.follow followed fun e member => (caused e member).fits,
      related.2.2.follow followed⟩
  · intro _ _ _ _ _
    trivial
  · intro session socket related
    cases socket with
    | tcp t => exact ⟨t, rfl⟩
    | udp u => exact related.elim
  · intro session socket related
    cases socket with
    | tcp t => exact related.elim
    | udp u => exact ⟨u, rfl⟩

/-- When the socket of a session that has succeeded is removed, and its connection was
not reset, all accepted bytes and the FIN have been acknowledged. -/
def KeepsAccepted (x : Runs.Transition (Handle S) Event (List Output)) : Prop :=
  ∀ ctx id session t, x.before = some ctx → x.event = .drop id →
    ctx.runtime.tasks.lookup id = some (.tcp session) → session.phase = .finished (.ok ()) →
    ctx.engine.value.sockets.get session.stream.handle = some (.tcp t) →
    (S.tcpView t).reset = false →
    (S.tcpView t).sendQueue = [] ∧ ((S.tcpView t).connected = true → (S.tcpView t).finAcked = true)

/-- The socket of a session that has succeeded does not wait for the acknowledgement of
its FIN when it is removed. -/
def FinSettled (x : Runs.Transition (Handle S) Event (List Output)) : Prop :=
  ∀ ctx id session t, x.before = some ctx → x.event = .drop id →
    ctx.runtime.tasks.lookup id = some (.tcp session) → session.phase = .finished (.ok ()) →
    ctx.engine.value.sockets.get session.stream.handle = some (.tcp t) →
    (S.tcpView t).state ≠ .closing ∧ (S.tcpView t).state ≠ .lastAck

/-- A run throws nothing away at the end of its TCP sessions exactly when none of them
is dropped in CLOSING or LAST-ACK. -/
theorem every_accepted_byte_kept_iff (api : S.ApiLaws) (poll : S.PollLaws) {config : AppConfig}
    {history : Runs.History (Handle S) Event (List Output)} {handle : Handle S}
    (run : CoreRun S config history handle) :
    (∀ x ∈ history, KeepsAccepted x) ↔ ∀ x ∈ history, FinSettled x := by
  apply forall₂_congr
  intro x taken
  obtain ⟨sound, _⟩ := run.sound_before api poll (closes_stable api) taken
  refine forall₄_congr fun ctx id session t => forall₅_congr fun before _ live succeeded held => ?_
  obtain ⟨socket, held', related⟩ := (sound ctx before).owned.serves id _ live
  cases held.symm.trans held'
  obtain ⟨life, _, agrees⟩ := related
  rw [succeeded] at agrees
  exact life.all_acked_iff agrees.1 agrees.2

def appSegment (seq ack : UInt32) (flags : UInt8) (payload : Bytes) : Event :=
  .processPacket (some (Wire.tcpFrame hostAddr tunAddr 1000 80 seq ack flags payload)) 0

/-- The app sends a request with its FIN, and the answer is written after that. -/
def requestWithFin : List Event :=
  startUp ++ [
    appSegment 100 0 (Wire.flags true false false) [],
    appSegment 101 1 (Wire.flags false true false) [],
    .task 0 (.inl (.opened (.ok ()))),
    appSegment 101 1 (Wire.flags false true true) [1, 2, 3],
    .task 0 (.inl (.pollRead 10)),
    .task 0 (.inl (.pollRead 10)),
    .task 0 (.inl (.pollWrite [4, 5])),
    .task 0 (.inl .shutdown),
    .task 0 (.inl (.finished (.ok ())))]

/-- The answer goes with the socket. -/
theorem answer_thrown_away : ¬ ∀ S : Smoltcp, S.ApiLaws → S.PollLaws →
    ∀ config history (handle : Handle S), CoreRun S config history handle →
      ∀ x ∈ history, KeepsAccepted x := by
  intro claimed
  obtain ⟨history, ctx, outputs, handle', run, checked⟩ :=
    CoreContext.replay_step Reference.stack quicConfig requestWithFin (.drop 0)
      (fun ctx _ _ =>
        ctx.runtime.tasks.lookup 0 ==
          some (.tcp ⟨⟨0⟩, true, .v4 tunAddr 80, .finished (.ok ())⟩) &&
        (ctx.engine.value.sockets.get 0).any fun
          | .tcp t => !t.view.reset && t.view.sendQueue == [4, 5]
          | .udp _ => false)
      (by decide +kernel)
  obtain ⟨live, checked⟩ := Bool.and_eq_true_iff.mp checked
  obtain ⟨socket, held, waiting⟩ := (Option.any_eq_true _ _).mp checked
  cases socket with
  | udp u => contradiction
  | tcp t =>
      simp only [Bool.and_eq_true, Bool.not_eq_eq_eq_not, Bool.not_true, beq_iff_eq] at waiting
      obtain ⟨empty, _⟩ := claimed _ Reference.api Reference.poll_laws _ _ _ run _
        List.mem_cons_self ctx 0 _ t rfl rfl (beq_iff_eq.mp live) rfl held waiting.1
      have queued : Reference.stack.tcpView t = t.view := rfl
      rw [queued, waiting.2] at empty
      contradiction

instance (x : Runs.Transition (Handle S) Event (List Output)) : Decidable (FinSettled x) :=
  decidable_of_iff (∀ ctx ∈ x.before, ∀ entry ∈ ctx.runtime.tasks.entries, x.event = .drop entry.1 →
      ∀ socket ∈ ctx.engine.value.sockets.get entry.2.handle, (match entry.2, socket with
        | .tcp session, .tcp t => session.phase != .finished (.ok ()) ||
            (S.tcpView t).state != .closing && (S.tcpView t).state != .lastAck
        | _, _ => true) = true) <| by
    constructor
    · intro settled ctx id session t before event live succeeded held
      have settled := settled ctx before _ (AList.mem_lookup_iff.mp live) event _ held
      simpa [succeeded] using settled
    · rintro settled ctx before ⟨id, task⟩ live event socket held
      cases task with
      | udp session => rfl
      | tcp session =>
          cases socket with
          | udp u => rfl
          | tcp t =>
              by_cases succeeded : session.phase = .finished (.ok ())
              · simpa [succeeded] using settled ctx id session t before event
                  (AList.mem_lookup_iff.mpr live) succeeded held
              · simp [succeeded]

/-- The app acknowledges the answer and the FIN before the session is dropped. -/
theorem every_accepted_byte_kept_iff_acknowledged : ∃ history handle,
    CoreRun Reference.stack quicConfig history handle ∧
      (∃ x ∈ history, x.event = .drop 0 ∧ ∃ ctx ∈ x.before, ctx.runtime.tasks.lookup 0 =
        some (.tcp ⟨⟨0⟩, true, .v4 tunAddr 80, .finished (.ok ())⟩)) ∧
      (∀ x ∈ history, FinSettled x) ∧ ∀ x ∈ history, KeepsAccepted x := by
  obtain ⟨history, handle, run, dropped, settled⟩ := CoreContext.replay_holds Reference.stack
    quicConfig (requestWithFin ++ [appSegment 105 1 (Wire.flags false true false) [],
      appSegment 105 4 (Wire.flags false true false) [], .drop 0])
    (fun history _ =>
      (∃ x ∈ history, x.event = .drop 0 ∧ ∃ ctx ∈ x.before, ctx.runtime.tasks.lookup 0 =
        some (.tcp ⟨⟨0⟩, true, .v4 tunAddr 80, .finished (.ok ())⟩)) ∧
      ∀ x ∈ history, FinSettled x) (by decide +kernel)
  exact ⟨history, handle, run, dropped, settled,
    (every_accepted_byte_kept_iff Reference.api Reference.poll_laws run).mpr settled⟩

end StunnelIos
