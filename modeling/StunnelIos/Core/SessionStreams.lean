import StunnelIos.Core.HandleOwnership
import StunnelIos.Core.StreamReads
import StunnelIos.Core.TcpClose
import StunnelIos.Core.StreamWrites

/-! The streams of a core. Whatever packets come and whatever other sessions do, each
live TCP session has made one run of its stream, so what every run of a stream keeps is
kept by every session of every core. The session adds nothing to the bytes and drops none:
what its stream has returned has gone out, and what has come in was accepted. -/
namespace StunnelIos
variable {S : Smoltcp}

def Output.streamedBytes (id : TaskId) : Output → Bytes
  | .streamed task _ _ bytes => if task = id then bytes else []
  | _ => []

/-- The bytes of its outbound side that the stream of a session has accepted. -/
def Output.writtenBytes (id : TaskId) : Output → Bytes
  | .written task bytes => if task = id then bytes else []
  | _ => []

def streamedIn (id : TaskId) : Runs.History (Handle S) Event (List Output) → Bytes
  | [] => []
  | x :: earlier => streamedIn id earlier ++ x.output.flatMap (Output.streamedBytes id)

def writtenIn (id : TaskId) : Runs.History (Handle S) Event (List Output) → Bytes
  | [] => []
  | x :: earlier => writtenIn id earlier ++ x.output.flatMap (Output.writtenBytes id)

def TcpPhase.readDone : TcpPhase → Bool
  | .copying readDone _ => readDone
  | .finished (.ok ()) => true
  | _ => false

/-- Nothing is left to read, and nothing more can come. -/
def TcpView.Drained (v : TcpView) : Prop := v.state.peerClosed ∧ v.recvQueue = []

/-- The steps of a stream are what the last transitions of its core have done to the engine. -/
def Shadows (turns : StreamHistory S) (history : Runs.History (Handle S) Event (List Output)) :
    Prop :=
  List.Forall₂ (fun turn x => x.after.map (·.engine.value) = some turn.after) turns
    (history.take turns.length)

/-- The run of the stream of a session, as it shows in a run of its core. -/
structure StreamOf (id : TaskId) (history : Runs.History (Handle S) Event (List Output))
    (session : TcpSession) (turns : StreamHistory S) (engine : StunnelEngine S) : Prop where
  run : StreamRun S session.stream turns engine
  shadows : Shadows turns history
  streamed : streamedIn id history = returned turns
  written : writtenIn id history = accepted turns
  drained : session.phase.readDone = true → (session.stream.view engine).Drained

section
variable {v w : TcpView}

theorem TcpView.Drained.follow (drained : v.Drained) {happenings : List Happening}
    (followed : v.follow happenings = some w) : w.Drained := by
  refine follow_induct followed drained fun e _ a b drained applied => ?_
  have moved : a.follow [e] = some b := by simp [TcpView.follow, applied]
  refine ⟨follow_peerClosed moved drained.1, ?_⟩
  cases Happening.edge applied with
  | data state =>
      obtain state | state | state := state <;> simp [Drained, TcpState.peerClosed, state] at drained
  | expired =>
      simp only [drained.2, ite_self]
  | syn | handshake | acked | fin | finWhileClosing | finLast | finAcked | finAckedClosing
  | finAckedLast | rstHandshake | rst => exact drained.2

theorem TcpView.Drained.close (drained : v.Drained) : v.close.Drained := by
  refine ⟨close_peerClosed drained.1, ?_⟩
  unfold TcpView.close
  split <;> exact drained.2

end

def Silent (id : TaskId) (outputs : List Output) : Prop :=
  ∀ output ∈ outputs, output.streamedBytes id = [] ∧ output.writtenBytes id = []

section
variable {id : TaskId} {history : Runs.History (Handle S) Event (List Output)}
  {session session' : TcpSession} {turns : StreamHistory S} {engine engine' : StunnelEngine S}
  {x : Runs.Transition (Handle S) Event (List Output)}

theorem Silent.streamedIn_eq (silent : Silent id x.output) :
    streamedIn id (x :: history) = streamedIn id history := by
  rw [streamedIn, List.flatMap_eq_nil_iff.mpr fun output said => (silent output said).1,
    List.append_nil]

theorem Silent.writtenIn_eq (silent : Silent id x.output) :
    writtenIn id (x :: history) = writtenIn id history := by
  rw [writtenIn, List.flatMap_eq_nil_iff.mpr fun output said => (silent output said).2,
    List.append_nil]

theorem StreamOf.arrives (of : StreamOf id history session turns engine)
    (after : x.after.map (·.engine.value) = some engine') (silent : Silent id x.output) {t t' : S.TcpSocket} (holds : session.stream.Holds engine t)
    (holds' : session.stream.Holds engine' t') {happenings : List Happening}
    (followed : (S.tcpView t).follow happenings = some (S.tcpView t')) :
    ∃ turns', StreamOf id (x :: history) session turns' engine' := by
  refine ⟨_, of.run.next (.arrives holds holds' followed), .cons after of.shadows, ?_, ?_,
    fun done => ?_⟩
  · rw [silent.streamedIn_eq, of.streamed, returned, List.append_nil]
  · rw [silent.writtenIn_eq, of.written, accepted, List.append_nil]
  · have drained := of.drained done
    rw [holds.view] at drained
    rw [holds'.view]
    exact drained.follow followed

theorem StreamOf.beside (api : S.ApiLaws) (of : StreamOf id history session turns engine)
    (after : x.after.map (·.engine.value) = some engine') (silent : Silent id x.output)
    (same : engine'.sockets.get session.stream.handle =
      engine.sockets.get session.stream.handle) :
    ∃ turns', StreamOf id (x :: history) session turns' engine' := by
  obtain ⟨⟨t, holds⟩, _⟩ := of.run.holds api
  have nothing : (S.tcpView t).follow [] = some (S.tcpView t) := rfl
  exact of.arrives after silent holds (same.trans holds) nothing

theorem StreamOf.moved (api : S.ApiLaws) (of : StreamOf id history session turns engine)
    (after : x.after.map (·.engine.value) = some engine) (said : x.output = [])
    (stream : session'.stream = session.stream)
    (done : session'.phase.readDone = true → session.phase.readDone = true) :
    ∃ turns', StreamOf id (x :: history) session' turns' engine := by
  have silent : Silent id x.output := by simp [said, Silent]
  obtain ⟨turns', next⟩ := of.beside api after silent rfl
  refine ⟨turns', stream ▸ next.run, next.shadows, next.streamed, next.written, fun read => ?_⟩
  rw [stream]
  exact of.drained (done read)

theorem TcpSession.read_stream (api : S.ApiLaws) {writeDone : Bool} {remaining : Nat}
    (of : StreamOf id history session turns engine)
    (after : x.after.map (·.engine.value) = some engine')
    (phase : session.phase = .copying false writeDone)
    (stepped : session.read engine id writeDone (remaining + 1) = .ok (session', engine', x.output)) :
    ∃ turns', StreamOf id (x :: history) session' turns' engine' := by
  obtain ⟨⟨t, holds⟩, _⟩ := of.run.holds api
  obtain ⟨result, engine', t', polled, read, touches⟩ :=
    session.stream.pollRead_spec api id holds (Nat.succ_ne_zero remaining)
  have next := of.run.next (.pollRead (Nat.succ_ne_zero remaining) polled)
  unfold TcpSession.read at stepped
  rw [polled, ok_bind] at stepped
  cases read with
  | @data bytes _ _ _ nonempty =>
      obtain ⟨byte, rest, rfl⟩ := List.exists_cons_of_ne_nil nonempty
      simp only [pure_eq_ok, Except.ok.injEq, Prod.mk.injEq] at stepped
      obtain ⟨rfl, rfl, said⟩ := stepped
      refine ⟨_, next, .cons after of.shadows, ?_, ?_, by simp [TcpPhase.readDone, phase]⟩
      · simp [streamedIn, ← said, Output.streamedBytes, of.streamed, returned]
      · simp [writtenIn, ← said, Output.writtenBytes, of.written, accepted]
  | eof waiting atEnd =>
      simp only [pure_eq_ok, Except.ok.injEq, Prod.mk.injEq] at stepped
      obtain ⟨rfl, rfl, said⟩ := stepped
      refine ⟨_, next, .cons after of.shadows, ?_, ?_, fun _ => ?_⟩
      · simp [streamedIn, ← said, of.streamed, returned]
      · simp [writtenIn, ← said, of.written, accepted]
      · rw [holds.view]
        exact ⟨atEnd.peerClosed, waiting⟩
  | pending =>
      simp only [pure_eq_ok, Except.ok.injEq, Prod.mk.injEq] at stepped
      obtain ⟨rfl, rfl, said⟩ := stepped
      refine ⟨_, next, .cons after of.shadows, ?_, ?_, by simp [TcpPhase.readDone, phase]⟩
      · simp [streamedIn, ← said, of.streamed, returned]
      · simp [writtenIn, ← said, of.written, accepted]

theorem TcpSession.write_stream (api : S.ApiLaws) {buf : Bytes}
    (of : StreamOf id history session turns engine)
    (after : x.after.map (·.engine.value) = some engine')
    (stepped : session.write engine id buf = .ok (session', engine', x.output)) :
    ∃ turns', StreamOf id (x :: history) session' turns' engine' := by
  obtain ⟨⟨t, holds⟩, _⟩ := of.run.holds api
  obtain ⟨result, engine', t', polled, write, touches⟩ := session.stream.pollWrite_spec id buf holds
  have next := of.run.next (.pollWrite polled)
  have drained := of.drained
  rw [holds.view] at drained
  unfold TcpSession.write at stepped
  rw [polled, ok_bind] at stepped
  cases write with
  | @accepted n _ _ sent =>
      simp only [pure_eq_ok, Except.ok.injEq, Prod.mk.injEq] at stepped
      obtain ⟨rfl, rfl, said⟩ := stepped
      refine ⟨_, next, .cons after of.shadows, ?_, ?_, fun done => ?_⟩
      · simp [streamedIn, ← said, Output.streamedBytes, of.streamed, returned]
      · simp [writtenIn, ← said, Output.writtenBytes, of.written, StunnelIos.accepted]
      · rw [touches.holds.view, (api.tcp_send _ _ _ _ sent).2.2.1]
        exact drained done
  | refused | closed =>
      simp only [pure_eq_ok, Except.ok.injEq, Prod.mk.injEq] at stepped
      obtain ⟨rfl, rfl, said⟩ := stepped
      refine ⟨_, next, .cons after of.shadows, ?_, ?_, by simp [TcpPhase.readDone]⟩
      · simp [streamedIn, ← said, of.streamed, returned]
      · simp [writtenIn, ← said, of.written, StunnelIos.accepted]
  | pending =>
      simp only [pure_eq_ok, Except.ok.injEq, Prod.mk.injEq] at stepped
      obtain ⟨rfl, rfl, said⟩ := stepped
      refine ⟨_, next, .cons after of.shadows, ?_, ?_, fun done => ?_⟩
      · simp [streamedIn, ← said, of.streamed, returned]
      · simp [writtenIn, ← said, of.written, StunnelIos.accepted]
      · rw [touches.holds.view]
        exact drained done

theorem TcpSession.shutdown_stream (api : S.ApiLaws) {readDone : Bool}
    (of : StreamOf id history session turns engine)
    (after : x.after.map (·.engine.value) = some engine') (phase : session.phase = .copying readDone false)
    (stepped : session.shutdown engine id readDone = .ok (session', engine', x.output)) :
    ∃ turns', StreamOf id (x :: history) session' turns' engine' := by
  obtain ⟨⟨t, holds⟩, _⟩ := of.run.holds api
  have closed := session.stream.pollShutdown_spec holds
  have touches : Touches engine (engine.setSocket session.stream.handle (.tcp (S.tcpClose t)))
      session.stream.handle (.tcp (S.tcpClose t)) := .setSocket holds
  simp only [TcpSession.shutdown, TcpStream.pollFlush, closed, ok_bind, pure_eq_ok, Except.ok.injEq,
    Prod.mk.injEq] at stepped
  obtain ⟨rfl, rfl, said⟩ := stepped
  refine ⟨_, of.run.next (.pollShutdown closed), .cons after of.shadows, ?_, ?_, fun done => ?_⟩
  · simp [streamedIn, ← said, Output.streamedBytes, of.streamed, returned]
  · simp [writtenIn, ← said, Output.writtenBytes, of.written, accepted]
  · have drained := of.drained (by simpa [phase, TcpPhase.readDone] using done)
    rw [holds.view] at drained
    rw [touches.holds.view, (api.tcp_close _).1]
    exact drained.close

/-- A turn of the session calls its stream at most once. -/
theorem TcpSession.step_stream (api : S.ApiLaws) {config : AppConfig} {event : TcpEvent}
    (of : StreamOf id history session turns engine)
    (after : x.after.map (·.engine.value) = some engine')
    (stepped : session.step config engine id event = .ok (session', engine', x.output)) :
    ∃ turns', StreamOf id (x :: history) session' turns' engine' := by
  unfold TcpSession.step at stepped
  split at stepped
  case h_2 phase => exact session.read_stream api of after phase stepped
  case h_3 => exact session.write_stream api of after stepped
  case h_4 phase => exact session.shutdown_stream api of after phase stepped
  all_goals
    simp only [Except.ok.injEq, Prod.mk.injEq] at stepped
    obtain ⟨rfl, rfl, said⟩ := stepped
  case h_1 result phase =>
    dsimp only [TcpSession.opened]
    generalize (if session.isDirect then result else _) = outcome
    cases outcome with
    | ok => exact of.moved api after said.symm rfl (by simp [TcpPhase.readDone])
    | error => exact of.moved api after said.symm rfl (by simp [TcpPhase.readDone])
  case h_5 phase => exact of.moved api after said.symm rfl fun _ => by rw [phase]; rfl
  case h_6 => exact of.moved api after said.symm rfl (by simp [TcpPhase.readDone])
  case h_7 => exact of.moved api after said.symm rfl fun done => done

end

/-- Every live TCP session is at the end of a run of its stream, whose bytes it has passed on. -/
structure StreamsRun (history : Runs.History (Handle S) Event (List Output)) (ctx : CoreContext S) :
    Prop where
  sessions : ∀ id session, ctx.runtime.tasks.lookup id = some (.tcp session) →
    ∃ turns, StreamOf id history session turns ctx.engine.value
  unused : ∀ id, ctx.runtime.next ≤ id → streamedIn id history = [] ∧ writtenIn id history = []

section
variable {ctx ctx' : CoreContext S} {event : Event} {outputs : List Output}
  {history : Runs.History (Handle S) Event (List Output)}

theorem Change.silent (changed : Change ctx event outputs ctx') {id : TaskId}
    (other : ∀ e session, event = .task id (.inl e) →
      ctx.runtime.tasks.lookup id ≠ some (.tcp session)) : Silent id outputs := by
  intro output said
  cases changed with
  | control | ignored | absent | mismatched | alive | tcpDropped | udpDropped => contradiction
  | packet _ _ intercepted =>
      obtain ⟨_, rfl⟩ | ⟨_, _, _, rfl⟩ | ⟨_, rfl⟩ := intercepted.output_cases said <;>
        exact ⟨rfl, rfl⟩
  | @tcp task session _ e _ _ _ _ found _ turn =>
      have apart : task ≠ id := by
        rintro rfl
        exact other e session rfl found
      cases turn <;> simp only [List.mem_singleton, List.not_mem_nil] at said
      case read | wrote =>
        subst said
        exact ⟨by simp [Output.streamedBytes, apart], by simp [Output.writtenBytes, apart]⟩
      case shutdown =>
        subst said
        exact ⟨rfl, rfl⟩
  | udp _ _ turn =>
      cases turn <;> simp only [List.mem_singleton, List.not_mem_nil] at said
      case sent =>
        subst said
        rw [UdpSession.forwarded]
        split <;> exact ⟨rfl, rfl⟩
      case replied =>
        subst said
        exact ⟨rfl, rfl⟩

theorem StreamsRun.opened (api : S.ApiLaws) (streams : StreamsRun history ctx) {bytes : Bytes}
    {result : StunnelEngine S × Runtime × List Output}
    (intercepted : Intercepted ctx.engine.value ctx.runtime bytes result) {id : TaskId}
    {session : TcpSession} (live : result.2.1.tasks.lookup id = some (.tcp session)) :
    (id = ctx.runtime.next ∧ session.phase = .opening ∧ session.stream.Starts result.1) ∨
      (ctx.runtime.tasks.lookup id = some (.tcp session) ∧
        result.1.sockets.get session.stream.handle =
          ctx.engine.value.sockets.get session.stream.handle) := by
  have older : ∀ socket, ctx.runtime.tasks.lookup id = some (.tcp session) →
      (SlotTable.put ctx.engine.value.sockets (S.freeSlot ctx.engine.value.sockets) socket).get
          session.stream.handle = ctx.engine.value.sockets.get session.stream.handle := by
    intro socket live
    obtain ⟨turns, of⟩ := streams.sessions id session live
    obtain ⟨⟨t, holds⟩, _⟩ := of.run.holds api
    obtain ⟨bound, free⟩ := api.freeSlot_free ctx.engine.value.sockets
    refine SlotTable.get_put_ne bound ?_
    intro same
    rw [← same] at free
    cases free.symm.trans holds
  cases intercepted with
  | passed | known => exact .inr ⟨live, rfl⟩
  | tcp _ _ listening =>
      obtain ⟨rfl, same⟩ | ⟨_, live⟩ := AList.lookup_insert_eq_some.mp live
      · cases same
        refine .inl ⟨rfl, rfl, _, _, ?_, listening.1⟩
        exact SlotTable.get_put_self (api.freeSlot_free _).1
      · exact .inr ⟨live, older _ live⟩
  | udp =>
      obtain ⟨_, same⟩ | ⟨_, live⟩ := AList.lookup_insert_eq_some.mp live
      · cases same
      · exact .inr ⟨live, older _ live⟩

theorem StreamsRun.packet (api : S.ApiLaws) (poll : S.PollLaws) (streams : StreamsRun history ctx)
    {bytes : Bytes} {now : Instant} {result : StunnelEngine S × Runtime × List Output}
    (intercepted : Intercepted ctx.engine.value ctx.runtime bytes result)
    {x : Runs.Transition (Handle S) Event (List Output)}
    (after : x.after.map (·.engine.value) = some (result.1.delivered now bytes)) {id : TaskId}
    (silent : Silent id x.output) {session : TcpSession} (live : result.2.1.tasks.lookup id = some (.tcp session)) :
    ∃ turns, StreamOf id (x :: history) session turns (result.1.delivered now bytes) := by
  obtain ⟨rfl, opening, starts⟩ | ⟨live, same⟩ := streams.opened api intercepted live
  · obtain ⟨none_streamed, none_written⟩ := streams.unused _ (Nat.le_refl _)
    have starting : StreamOf ctx.runtime.next history session [] result.1 :=
      ⟨⟨_, starts, .nil⟩, .nil, none_streamed, none_written, by simp [opening, TcpPhase.readDone]⟩
    obtain ⟨⟨t, holds⟩, _⟩ := starting.run.holds api
    obtain ⟨t', happenings, held, followed, _⟩ :=
      poll.poll_tcp result.1.interface now bytes result.1.sockets session.stream.handle t holds
    exact starting.arrives after silent holds held followed
  · obtain ⟨turns, of⟩ := streams.sessions id session live
    obtain ⟨⟨t, holds⟩, _⟩ := of.run.holds api
    obtain ⟨t', happenings, held, followed, _⟩ :=
      poll.poll_tcp result.1.interface now bytes result.1.sockets session.stream.handle t
        (same.trans holds)
    exact of.arrives after silent holds held followed

/-- A change of one session's slot leaves the streams of the others alone. -/
theorem StreamsRun.apart (api : S.ApiLaws) (sound : Sound (Serves S) ctx)
    (streams : StreamsRun history ctx) {x : Runs.Transition (Handle S) Event (List Output)}
    {id other : TaskId} {task : Task} {session : TcpSession} {engine' : StunnelEngine S}
    (after : x.after.map (·.engine.value) = some engine') (silent : Silent other x.output) (found : ctx.runtime.tasks.lookup id = some task)
    (elsewhere : ∀ h, h ≠ task.handle →
      engine'.sockets.get h = ctx.engine.value.sockets.get h) (apart : other ≠ id)
    (live : ctx.runtime.tasks.lookup other = some (.tcp session)) :
    ∃ turns, StreamOf other (x :: history) session turns engine' := by
  obtain ⟨turns, of⟩ := streams.sessions other session live
  refine of.beside api after silent (elsewhere _ ?_)
  exact fun same => apart (sound.owned.unique other id _ _ live found same)

theorem Sound.stepTask_tcp {R : Task → Socket S.TcpSocket S.UdpSocket → Prop} (api : S.ApiLaws)
    (stable : Stable R) (sound : Sound R ctx) {id : TaskId} {session : TcpSession}
    (live : ctx.runtime.tasks.lookup id = some (.tcp session)) (event : TcpEvent) :
    ∃ session' engine' outputs,
      session.step ctx.config ctx.engine.value id event = .ok (session', engine', outputs) ∧
      ctx.stepTask id (.inl event) =
        ({ ctx with engine := .new engine', runtime := ctx.runtime.set id (.tcp session') },
          outputs) := by
  obtain ⟨task', engine', outputs, turned, _⟩ := sound.task_step api stable live (.inl event)
  obtain ⟨⟨session', engine', shown⟩, stepped, same⟩ := bind_eq_ok turned
  cases same
  refine ⟨session', engine', _, stepped, ?_⟩
  simp only [CoreContext.stepTask, live, sound.lock_ok, Except.bind, turned]

theorem Sound.stepped_engine {R : Task → Socket S.TcpSocket S.UdpSocket → Prop} (api : S.ApiLaws)
    (stable : Stable R) (sound : Sound R ctx) {id : TaskId} {session : TcpSession} {event : TcpEvent}
    {engine' : StunnelEngine S}
    (live : ctx.runtime.tasks.lookup id = some (.tcp session))
    (stepped : (ctx.stepTask id (.inl event)).1.engine.value = engine') :
    ∃ session' outputs, session.step ctx.config ctx.engine.value id event =
      .ok (session', engine', outputs) := by
  obtain ⟨session', _, outputs, turned, returned⟩ := sound.stepTask_tcp api stable live event
  rw [returned] at stepped
  exact ⟨session', outputs, stepped ▸ turned⟩

theorem Change.streamsRun (api : S.ApiLaws) (poll : S.PollLaws) (sound : Sound (Serves S) ctx)
    (streams : StreamsRun history ctx) (stepped : Handle.Steps (some ctx) event outputs (some ctx'))
    (changed : Change ctx event outputs ctx') :
    StreamsRun (⟨some ctx, event, outputs, some ctx'⟩ :: history) ctx' := by
  have unspawned : ∀ id, ctx.runtime.next ≤ id → Silent id outputs := by
    refine fun id later => changed.silent fun _ _ _ live => ?_
    exact absurd (sound.fresh id _ live) (Nat.not_lt_of_le later)
  refine ⟨?_, fun id later => ?_⟩
  · have kept : ∀ id session, Silent id outputs →
        ctx'.engine.value.sockets = ctx.engine.value.sockets →
        ctx.runtime.tasks.lookup id = some (.tcp session) →
        ∃ turns, StreamOf id (⟨some ctx, event, outputs, some ctx'⟩ :: history) session turns
          ctx'.engine.value := by
      intro id session silent same live
      obtain ⟨turns, of⟩ := streams.sessions id session live
      exact of.beside api rfl silent (congrArg (SlotTable.get · session.stream.handle) same)
    cases changed with
    | control | ignored | absent | alive =>
        intro id session live
        exact kept id session (fun _ said => absurd said List.not_mem_nil) rfl live
    | packet _ _ intercepted =>
        intro id session live
        refine streams.packet api poll intercepted rfl (fun output said => ?_) live
        obtain ⟨_, rfl⟩ | ⟨_, _, _, rfl⟩ | ⟨_, rfl⟩ := intercepted.output_cases said <;>
          exact ⟨rfl, rfl⟩
    | mismatched found =>
        intro id session live
        exact kept id session (fun _ said => absurd said List.not_mem_nil) rfl
          ((Runtime.lookup_set_self found id).symm.trans live)
    | @tcp id session t event session' t' engine' outputs found held turn touches =>
        intro other other_session live
        obtain ⟨rfl, same⟩ | ⟨apart, live⟩ := AList.lookup_insert_eq_some.mp live
        · cases same
          obtain ⟨turns, of⟩ := streams.sessions other session found
          obtain ⟨session'', engine'', shown, turned, returned⟩ :=
            sound.stepTask_tcp api (serves_stable api) found event
          obtain ⟨after, said⟩ := stepped.of_task
          rw [returned] at after said
          have next := Option.some.inj after
          obtain rfl : engine' = engine'' := congrArg (·.engine.value) next
          have there := congrArg (fun ctx => ctx.runtime.tasks.lookup other) next
          simp only [Runtime.set, AList.lookup_insert, Option.some.injEq, Task.tcp.injEq] at there
          subst there said
          exact TcpSession.step_stream api of rfl turned
        · refine streams.apart api sound rfl (Change.silent (.tcp found held turn touches) ?_) found
            (fun h elsewhere => (touches.sockets h).trans (if_neg elsewhere)) apart live
          rintro _ _ ⟨⟩
          exact (apart rfl).elim
    | @udp id session _ _ _ _ _ _ found held turn touches =>
        intro other other_session live
        obtain ⟨_, same⟩ | ⟨apart, live⟩ := AList.lookup_insert_eq_some.mp live
        · cases same
        · refine streams.apart api sound rfl (Change.silent (.udp found held turn touches) ?_) found
            (fun h elsewhere => (touches.sockets h).trans (if_neg elsewhere)) apart live
          rintro _ _ ⟨⟩
    | tcpDropped found | udpDropped found =>
        intro other session live
        obtain ⟨apart, live⟩ := AList.lookup_erase_eq_some.mp live
        exact streams.apart api sound rfl (fun _ said => absurd said List.not_mem_nil) found
          (fun h elsewhere => SlotTable.get_remove.trans (if_neg elsewhere)) apart live
  · obtain ⟨none_streamed, none_written⟩ := streams.unused id (Nat.le_trans changed.next_le later)
    have silent := unspawned id (Nat.le_trans changed.next_le later)
    have said : Silent id
        (Runs.Transition.mk (some ctx) event outputs (some ctx' : Handle S)).output := silent
    exact ⟨said.streamedIn_eq.trans none_streamed, said.writtenIn_eq.trans none_written⟩

theorem CoreRun.streamsRun (api : S.ApiLaws) (poll : S.PollLaws) {config : AppConfig}
    (run : CoreRun S config history (some ctx)) : StreamsRun history ctx := by
  refine run.history_invariant api poll (serves_stable api) (P := StreamsRun) ?_ ?_
  · intro ctx created
    refine ⟨fun id session live => ?_, fun _ _ => ⟨rfl, rfl⟩⟩
    rw [CoreContext.new_runtime created] at live
    cases live
  · intro history ctx event outputs ctx' sound streams stepped changed
    exact changed.streamsRun api poll sound streams stepped

/-- What a session has carried, both ways, with the run of its stream. -/
structure Conserved (id : TaskId) (history : Runs.History (Handle S) Event (List Output))
    (session : TcpSession) (turns : StreamHistory S) (engine : StunnelEngine S) : Prop where
  run : StreamRun S session.stream turns engine
  shadows : Shadows turns history
  /-- What has arrived from the app has gone out, in order, or waits to be read, but for what
  the end of TIME-WAIT has thrown away. -/
  from_app : received turns = streamedIn id history ++ discarded session.stream turns ++
    (session.stream.view engine).recvQueue
  all_read : session.phase.readDone = true → (session.stream.view engine).recvQueue = []
  /-- What has gone in waits, in order, until it is acknowledged. -/
  to_app : (session.stream.view engine).sendQueue = (writtenIn id history).drop (acknowledged turns)
  within : acknowledged turns ≤ (writtenIn id history).length
  settled : (session.stream.view engine).finAcked = true →
    acknowledged turns = (writtenIn id history).length

/-- In every reachable state each live TCP session has carried every byte of its connection
unchanged, in order and once. -/
theorem CoreRun.tcp_conserved (api : S.ApiLaws) (poll : S.PollLaws) {config : AppConfig}
    (run : CoreRun S config history (some ctx)) {id : TaskId} {session : TcpSession}
    (live : ctx.runtime.tasks.lookup id = some (.tcp session)) :
    ∃ turns, Conserved id history session turns ctx.engine.value := by
  obtain ⟨turns, of⟩ := (run.streamsRun api poll).sessions id session live
  have balanced : Balanced session.stream turns (session.stream.view ctx.engine.value) :=
    of.run.balanced api
  have outstanding := of.run.outstanding api
  rw [← of.written] at outstanding
  refine ⟨turns, of.run, of.shadows, ?_, fun done => (of.drained done).2, outstanding.queued,
    outstanding.bounded, outstanding.settled⟩
  rw [of.streamed]
  exact balanced.conserved

end

/-- A request has been read to its end, and the app has yet to acknowledge the answer. -/
theorem tcp_conserved_request : ∃ history ctx session turns,
    CoreRun Reference.stack quicConfig history (some ctx) ∧
    streamedIn 0 history = [1, 2, 3] ∧ writtenIn 0 history = [4, 5] ∧
    Conserved 0 history session turns ctx.engine.value := by
  obtain ⟨history, handle, run, checked⟩ := CoreContext.replay_run Reference.stack quicConfig
    requestWithFin (fun history handle => handle.any fun ctx =>
      (ctx.runtime.tasks.lookup 0 ==
        some (.tcp ⟨⟨0⟩, true, .v4 tunAddr 80, .finished (.ok ())⟩)) &&
      (streamedIn 0 history == [1, 2, 3] && writtenIn 0 history == [4, 5])) (by decide +kernel)
  obtain ⟨ctx, rfl, checked⟩ := (Option.any_eq_true _ _).mp checked
  obtain ⟨live, checked⟩ := Bool.and_eq_true_iff.mp checked
  obtain ⟨streamed, written⟩ := Bool.and_eq_true_iff.mp checked
  obtain ⟨turns, conserved⟩ :=
    run.tcp_conserved Reference.api Reference.poll_laws (beq_iff_eq.mp live)
  exact ⟨history, ctx, _, turns, run, beq_iff_eq.mp streamed, beq_iff_eq.mp written, conserved⟩

end StunnelIos
