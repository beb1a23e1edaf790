import StunnelIos.Core.StreamRuns

/-! What becomes of the bytes that `poll_write` accepts. They wait in the socket, in order,
until the app acknowledges them, and an acknowledged FIN acknowledges them all. -/
namespace StunnelIos
variable {S : Smoltcp}

def Happening.acknowledges : Happening → Nat
  | .acked count => count
  | _ => 0

/-- The bytes that `poll_write` has accepted. -/
def accepted : StreamHistory S → Bytes
  | [] => []
  | x :: earlier => accepted earlier ++ match x.event, x.output with
      | .pollWrite _ buf, .written (.ready (.ok n)) => buf.take n
      | _, _ => []

/-- How many of them the app has acknowledged. -/
def acknowledged : StreamHistory S → Nat
  | [] => 0
  | x :: earlier => acknowledged earlier + match x.event with
      | .arrives happenings => (happenings.map Happening.acknowledges).sum
      | _ => 0

/-- The send half of a socket to which these bytes were given. -/
structure Outstanding (given : Bytes) (acked : Nat) (v : TcpView) : Prop where
  bounded : acked ≤ given.length
  queued : v.sendQueue = given.drop acked
  settled : v.finAcked = true → acked = given.length

section
variable {given : Bytes} {acked : Nat} {v w : TcpView}

theorem Outstanding.happening (held : Outstanding given acked v) {e : Happening}
    (applied : e.apply v = some w) : Outstanding given (acked + e.acknowledges) w := by
  obtain ⟨bounded, queued, settled⟩ := held
  have empty : v.sendQueue = [] → acked = given.length := by
    intro none_waits
    rw [queued, List.drop_eq_nil_iff] at none_waits
    omega
  cases Happening.edge applied with
  | @acked count within =>
      have length : v.sendQueue.length = given.length - acked := by
        rw [queued, List.length_drop]
      refine ⟨by dsimp only [Happening.acknowledges]; omega, ?_, fun fin => ?_⟩
      · simp only [Happening.acknowledges, queued, List.drop_drop]
      · have all := settled fin
        dsimp only [Happening.acknowledges]
        omega
  | finAcked _ none_waits | finAckedClosing _ none_waits | finAckedLast _ none_waits =>
      exact ⟨bounded, queued, fun _ => empty none_waits⟩
  | syn | handshake | data | fin | finWhileClosing | finLast | expired | rstHandshake | rst =>
      exact ⟨bounded, queued, settled⟩

theorem Outstanding.follow (held : Outstanding given acked v) {happenings : List Happening}
    (followed : v.follow happenings = some w) :
    Outstanding given (acked + (happenings.map Happening.acknowledges).sum) w := by
  induction happenings generalizing acked v with
  | nil =>
      cases followed
      exact held
  | cons e rest ih =>
      obtain ⟨next, applied, followed⟩ := Option.bind_eq_some_iff.mp followed
      rw [List.map_cons, List.sum_cons, ← Nat.add_assoc]
      exact ih (held.happening applied) followed

theorem Outstanding.close (held : Outstanding given acked v) : Outstanding given acked v.close := by
  unfold TcpView.close
  split <;> exact ⟨held.bounded, held.queued, held.settled⟩

/-- Bytes are only accepted before our side is closed. -/
theorem Outstanding.send (held : Outstanding given acked v) (life : v.Lifecycle)
    (may : v.maySend = true) (bytes : Bytes) :
    Outstanding (given ++ bytes) acked { v with sendQueue := v.sendQueue ++ bytes } := by
  refine ⟨?_, ?_, fun fin => ?_⟩
  · rw [List.length_append]
    exact Nat.le_add_right_of_le held.bounded
  · simp only [held.queued, List.drop_append_of_le_length held.bounded]
  · have may : v.state = .established ∨ v.state = .closeWait := by
      simpa [TcpView.maySend] using may
    have unacked : v.finAcked = false := by
      rcases may with state | state <;> exact life.unacked (by simp [state]) (by simp [state])
        (by simp [state])
    exact absurd (unacked.symm.trans fin) (by simp)

variable {stream : TcpStream} {engine engine' : StunnelEngine S} {event : StreamEvent}
  {output : StreamOutput} {history : StreamHistory S} {t : S.TcpSocket}

/-- A call that accepts bytes has queued them. -/
theorem StreamStep.accepts (api : S.ApiLaws) (holds : stream.Holds engine t) {waker : TaskId}
    {buf : Bytes} {n : Nat}
    (stepped : StreamStep S stream engine (.pollWrite waker buf) (.written (.ready (.ok n))) engine') :
    (stream.view engine).maySend = true ∧ stream.view engine' =
      { stream.view engine with sendQueue := (stream.view engine).sendQueue ++ buf.take n } := by
  cases stepped with
  | pollWrite polled =>
      obtain ⟨result, engine'', t', polled', write, touches⟩ := stream.pollWrite_spec waker buf holds
      cases polled.symm.trans polled'
      rw [touches.holds.view, holds.view]
      cases write with
      | accepted _ sent =>
          obtain ⟨_, may, view, _⟩ := api.tcp_send _ _ _ _ sent
          exact ⟨may, view⟩

theorem Outstanding.step (api : S.ApiLaws) (holds : stream.Holds engine t)
    (life : (stream.view engine).Lifecycle)
    (held : Outstanding (accepted history) (acknowledged history) (stream.view engine))
    (stepped : StreamStep S stream engine event output engine') :
    Outstanding (accepted (⟨engine, event, output, engine'⟩ :: history))
      (acknowledged (⟨engine, event, output, engine'⟩ :: history)) (stream.view engine') := by
  obtain ⟨_, moved⟩ := stepped.socket api holds
  generalize after : stream.view engine' = w at moved ⊢
  cases moved with
  | arrives followed =>
      simpa only [accepted, acknowledged, List.append_nil] using held.follow followed
  | data | eof | pending =>
      simp only [accepted, acknowledged, List.append_nil, Nat.add_zero]
      exact ⟨held.bounded, held.queued, held.settled⟩
  | @accepted _ buf n may => exact held.send life may (buf.take n)
  | @kept _ buf result =>
      rcases result with (_ | n) | _
      case ready.ok =>
        obtain ⟨may, view⟩ := stepped.accepts api holds
        rw [← after, view]
        exact held.send life may (buf.take n)
      all_goals simpa only [accepted, acknowledged, List.append_nil, Nat.add_zero] using held
  | closed =>
      simpa only [accepted, acknowledged, List.append_nil, Nat.add_zero] using held.close

/-- After every run of a stream, what the app has not acknowledged waits in the socket. -/
theorem StreamRun.outstanding (api : S.ApiLaws) (run : StreamRun S stream history engine) :
    Outstanding (accepted history) (acknowledged history) (stream.view engine) := by
  obtain ⟨start, starts, run⟩ := run
  refine run.history_invariant (P := fun history engine =>
    Outstanding (accepted history) (acknowledged history) (stream.view engine)) ?_ ?_
  · obtain ⟨t, bound, holds, view⟩ := starts
    rw [holds.view, view]
    exact ⟨Nat.le_refl 0, rfl, fun _ => rfl⟩
  · intro history engine event output engine' earlier held stepped
    obtain ⟨⟨t, holds⟩, life⟩ := StreamRun.holds api ⟨start, starts, earlier⟩
    exact held.step api holds life stepped

end

end StunnelIos
