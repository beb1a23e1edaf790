import StunnelIos.Library.Components
import StunnelIos.Core.UdpForwarding

/-! The runs of single UDP sessions. Each step is listed with exactly what it does, and each
live session of a core has made a run of these steps, whatever went on around it. -/
namespace StunnelIos
variable {S : Smoltcp}

/-- The events that a session can act on in a phase. -/
def UdpPhase.allows : UdpPhase → UdpEvent → Bool
  | .opening, .opened _ _ => true
  | .running .receiving _ _, .pollRecvFrom _ => true
  | .running (.sending _ _) _ _, .sent _ => true
  | .running _ .receiving _, .received _ _ => true
  | .running _ (.replying _ _) _, .pollSendTo => true
  | .running _ _ _, .timeout _ => true
  | _, _ => false

/-- What a step of a session does, given its socket. -/
inductive UdpStep (S : Smoltcp) (config : AppConfig) (id : TaskId) (session : UdpSession) :
    S.UdpSocket × UdpEvent → List Output → UdpSession → Prop where
  | opened {u now result} : session.phase = .opening →
      UdpStep S config id session (u, .opened now result) [] (session.opened config now result)
  | waiting {u now rTask lastActivity} : session.phase = .running .receiving rTask lastActivity →
      S.udpRx u = [] → UdpStep S config id session (u, .pollRecvFrom now) [] session
  | taken {u now rTask lastActivity d rest} :
      session.phase = .running .receiving rTask lastActivity → S.udpRx u = d :: rest →
      endpointToSocketAddr d.src = session.srcEndpoint →
      UdpStep S config id session (u, .pollRecvFrom now) [] { session with
        phase := .running (.sending (d.payload.take udpBufferSize) session.srcEndpoint) rTask now }
  | foreign {u now rTask lastActivity d rest} :
      session.phase = .running .receiving rTask lastActivity → S.udpRx u = d :: rest →
      endpointToSocketAddr d.src ≠ session.srcEndpoint →
      UdpStep S config id session (u, .pollRecvFrom now) [] session
  | sent {u rTask lastActivity buf addr} :
      session.phase = .running (.sending buf addr) rTask lastActivity →
      UdpStep S config id session (u, .sent (.ok ())) [session.forwarded id buf addr]
        { session with phase := .running .receiving rTask lastActivity }
  | sendFailed {u rTask lastActivity buf addr error} :
      session.phase = .running (.sending buf addr) rTask lastActivity →
      UdpStep S config id session (u, .sent (.error error)) [] (session.finish (.error error))
  | arrived {u sTask lastActivity now data addr} :
      session.phase = .running sTask .receiving lastActivity →
      UdpStep S config id session (u, .received now (.ok (data, addr))) [] { session with
        phase := .running sTask (.replying (data.take udpBufferSize) addr) now }
  | receiveFailed {u sTask lastActivity now error} :
      session.phase = .running sTask .receiving lastActivity →
      UdpStep S config id session (u, .received now (.error error)) []
        (session.finish (.error error))
  | replied {u sTask lastActivity buf addr} :
      session.phase = .running sTask (.replying buf addr) lastActivity →
      UdpStep S config id session (u, .pollSendTo)
        [.enqueued id buf (socketAddrToEndpoint (session.replyTarget addr))]
        { session with phase := .running sTask .receiving lastActivity }
  | full {u sTask lastActivity buf addr} :
      session.phase = .running sTask (.replying buf addr) lastActivity →
      UdpStep S config id session (u, .pollSendTo) [] session
  | replyFailed {u sTask lastActivity buf addr error} :
      session.phase = .running sTask (.replying buf addr) lastActivity →
      UdpStep S config id session (u, .pollSendTo) [] (session.finish (.error error))
  | expired {u sTask rTask lastActivity now} :
      session.phase = .running sTask rTask lastActivity → now - lastActivity > udpIdleTimeout →
      UdpStep S config id session (u, .timeout now) [] (session.finish (.ok ()))
  | active {u sTask rTask lastActivity now} :
      session.phase = .running sTask rTask lastActivity → ¬ now - lastActivity > udpIdleTimeout →
      UdpStep S config id session (u, .timeout now) [] session
  | unable {u event} : session.phase.allows event = false →
      UdpStep S config id session (u, event) [] session

section
variable {config : AppConfig} {engine engine' : StunnelEngine S} {id : TaskId}
  {session session' : UdpSession} {u : S.UdpSocket} {outputs : List Output}

theorem UdpSession.receive_step (api : S.ApiLaws) {rTask : RecvTask} {lastActivity now : Instant}
    (found : engine.sockets.get session.socket.handle = some (.udp u))
    (phase : session.phase = .running .receiving rTask lastActivity)
    (stepped : session.receive engine id rTask lastActivity now = .ok (session', engine', outputs)) :
    UdpStep S config id session (u, .pollRecvFrom now) outputs session' := by
  cases waiting : S.udpRx u with
  | nil =>
      cases stepped.symm.trans
        (session.receive_exhausted api id rTask lastActivity now found waiting)
      exact .waiting phase waiting
  | cons d rest =>
      obtain ⟨_, _, _, _, received⟩ :=
        session.receive_datagram api id rTask lastActivity now found waiting
      cases stepped.symm.trans received
      split
      · exact .taken phase waiting ‹_›
      · rw [← phase]
        exact .foreign phase waiting ‹_›

theorem UdpSession.reply_step {sTask : SendTask} {lastActivity : Instant} {buf : Bytes}
    {addr : SocketAddr} (found : engine.sockets.get session.socket.handle = some (.udp u))
    (phase : session.phase = .running sTask (.replying buf addr) lastActivity)
    (stepped : session.reply engine id sTask lastActivity buf addr =
      .ok (session', engine', outputs)) :
    UdpStep S config id session (u, .pollSendTo) outputs session' := by
  cases queued : S.udpSendSlice u buf (socketAddrToEndpoint (session.replyTarget addr)) with
  | ok u' =>
      cases stepped.symm.trans (session.reply_queued sTask lastActivity found queued)
      exact .replied phase
  | error error =>
      cases error with
      | bufferFull =>
          cases stepped.symm.trans (session.reply_full sTask lastActivity found queued)
          exact .full phase
      | unaddressable =>
          cases stepped.symm.trans (session.reply_unaddressable sTask lastActivity found queued)
          exact .replyFailed phase

theorem UdpSession.step_inv (api : S.ApiLaws) {event : UdpEvent}
    (found : engine.sockets.get session.socket.handle = some (.udp u))
    (stepped : session.step config engine id event = .ok (session', engine', outputs)) :
    UdpStep S config id session (u, event) outputs session' := by
  unfold UdpSession.step at stepped
  split at stepped
  case h_1 phase =>
    cases stepped
    exact .opened phase
  case h_2 phase => exact session.receive_step api found phase stepped
  case h_3 phase =>
    cases stepped
    exact .sent phase
  case h_4 phase =>
    cases stepped
    exact .sendFailed phase
  case h_5 phase =>
    cases stepped
    exact .arrived phase
  case h_6 phase =>
    cases stepped
    exact .receiveFailed phase
  case h_7 phase => exact session.reply_step found phase stepped
  case h_8 phase =>
    split at stepped
    · cases stepped
      exact .expired phase ‹_›
    · cases stepped
      exact .active phase ‹_›
  case h_9 noOpen noPoll noSend noSendError noData noReceiveError noReply noCheck =>
    cases stepped
    refine .unable ?_
    unfold UdpPhase.allows
    split
    · exact (noOpen _ _ ‹_› rfl).elim
    · exact (noPoll _ _ _ ‹_› rfl).elim
    · rename_i result phase
      cases result with
      | ok => exact (noSend _ _ _ _ phase rfl).elim
      | error => exact (noSendError _ _ _ _ _ phase rfl).elim
    · rename_i result phase
      cases result with
      | ok => exact (noData _ _ _ _ _ phase rfl).elim
      | error => exact (noReceiveError _ _ _ _ phase rfl).elim
    · exact (noReply _ _ _ _ ‹_› rfl).elim
    · exact (noCheck _ _ _ _ ‹_› rfl).elim
    · rfl

theorem UdpStep.identity {event : S.UdpSocket × UdpEvent}
    (stepped : UdpStep S config id session event outputs session') :
    session'.srcEndpoint = session.srcEndpoint ∧ session'.targetAddr = session.targetAddr ∧
      session'.isDirect = session.isDirect := by
  cases stepped with
  | @opened _ now result =>
      dsimp only [UdpSession.opened]
      generalize (if session.isDirect then result else _) = outcome
      cases outcome <;> exact ⟨rfl, rfl, rfl⟩
  | waiting | taken | foreign | sent | sendFailed | arrived | receiveFailed | replied | full
  | replyFailed | expired | active | unable => exact ⟨rfl, rfl, rfl⟩

end

def Task.udpSession : Task → Option UdpSession
  | .udp session => some session
  | .tcp _ => none

def Handle.udpSession (id : TaskId) (handle : Handle S) : Option UdpSession :=
  (handle.bind fun ctx => ctx.runtime.tasks.lookup id).bind Task.udpSession

/-- The step of a session in a transition of its core. -/
def udpStep (id : TaskId) (x : Runs.Transition (Handle S) Event (List Output)) :
    Option (Runs.Transition UdpSession (S.UdpSocket × UdpEvent) (List Output)) :=
  (udpTurn id x).bind fun turn =>
    (Handle.udpSession id x.after).map fun after => ⟨turn.1, turn.2, x.output, after⟩

abbrev UdpHistory (S : Smoltcp) :=
  Runs.History UdpSession (S.UdpSocket × UdpEvent) (List Output)

def udpHistory (id : TaskId) (history : Runs.History (Handle S) Event (List Output)) :
    UdpHistory S :=
  Runs.ownHistory (udpStep id) history

/-- A run of a session from its opening. -/
def UdpRun (S : Smoltcp) (config : AppConfig) (id : TaskId) (history : UdpHistory S)
    (session : UdpSession) : Prop :=
  ∃ first : UdpSession, first.phase = .opening ∧
    Runs.Run (fun s e o t => UdpStep S config id s e o t) first history session

section
variable {config : AppConfig} {ctx ctx' : CoreContext S} {handle : Handle S} {id : TaskId}
  {session : UdpSession} {history : Runs.History (Handle S) Event (List Output)}

theorem Handle.udpSession_eq_some :
    Handle.udpSession id handle = some session ↔
      ∃ ctx, handle = some ctx ∧ ctx.runtime.tasks.lookup id = some (.udp session) := by
  constructor
  · intro found
    obtain ⟨task, live, same⟩ := Option.bind_eq_some_iff.mp found
    obtain ⟨ctx, rfl, live⟩ := Option.bind_eq_some_iff.mp live
    cases task with
    | tcp => contradiction
    | udp => exact ⟨ctx, rfl, live.trans (congrArg (some ∘ Task.udp) (Option.some.inj same))⟩
  · rintro ⟨ctx, rfl, live⟩
    simp only [udpSession, Option.bind_some, live, Task.udpSession]

theorem Change.config_eq {event : Event} {outputs : List Output}
    (changed : Change ctx event outputs ctx') : ctx'.config = ctx.config := by
  cases changed <;> rfl

def Handle.Configured (config : AppConfig) (handle : Handle S) : Prop :=
  Handle.Sound (Serves S) handle ∧ ∀ ctx, handle = some ctx → ctx.config = config

theorem CoreRun.configured (api : S.ApiLaws) (poll : S.PollLaws)
    (run : CoreRun S config history handle) : Handle.Configured config handle := by
  refine ⟨run.sound api poll (serves_stable api), ?_⟩
  rintro ctx rfl
  refine run.history_invariant api poll (serves_stable api) (P := fun _ ctx => ctx.config = config)
    ?_ ?_
  · intro ctx created
    unfold CoreContext.new at created
    obtain ⟨engine, _, same⟩ := bind_eq_ok created
    cases same
    rfl
  · intro _ _ _ _ _ _ same _ changed
    exact changed.config_eq.trans same

/-- UDP sessions are components of their core. -/
theorem udp_component (api : S.ApiLaws) (config : AppConfig) (id : TaskId) :
    Runs.Component (Handle.Steps (S := S)) (Handle.Configured config)
      (fun s e o t => UdpStep S config id s e o t) (fun session => session.phase = .opening)
      (Handle.udpSession id) (udpStep id)
      (fun handle => ∃ ctx, handle = some ctx ∧ ctx.runtime.next ≤ id) where
  absent := by
    rintro _ ⟨sound, _⟩ ⟨ctx, rfl, later⟩
    cases found : Handle.udpSession id (some ctx) with
    | none => rfl
    | some session =>
        obtain ⟨_, same, live⟩ := Handle.udpSession_eq_some.mp found
        cases same
        exact absurd ((sound ctx rfl).fresh id _ live) (Nat.not_lt_of_le later)
  unborn := by
    rintro before event outputs _ ⟨sound, _⟩ stepped ⟨ctx', rfl, later⟩
    cases before with
    | none => cases stepped.of_none.1
    | some ctx =>
        obtain ⟨_, absent, _⟩ | ⟨_, same, changed⟩ :=
          step_change api (serves_stable api) (sound ctx rfl) stepped
        · contradiction
        · cases same
          exact ⟨ctx, rfl, Nat.le_trans changed.next_le later⟩
  birth := by
    rintro before event outputs after session' ⟨sound, _⟩ stepped missing there
    obtain ⟨ctx', rfl, live'⟩ := Handle.udpSession_eq_some.mp there
    cases before with
    | none => cases stepped.of_none.1
    | some ctx =>
        obtain ⟨_, absent, _⟩ | ⟨_, same, changed⟩ :=
          step_change api (serves_stable api) (sound ctx rfl) stepped
        · contradiction
        · cases same
          obtain ⟨rfl, opening⟩ | kept | ⟨_, _, _, _, kept, _⟩ :=
            changed.udp_cases (some ctx') live'
          · exact ⟨⟨ctx, rfl, Nat.le_refl _⟩, opening⟩
          all_goals
            cases missing.symm.trans (Handle.udpSession_eq_some.mpr ⟨ctx, rfl, kept⟩)
  beside := by
    rintro before event outputs after session session' ⟨sound, _⟩ stepped still there there'
    obtain ⟨ctx, rfl, live⟩ := Handle.udpSession_eq_some.mp there
    obtain ⟨ctx', rfl, live'⟩ := Handle.udpSession_eq_some.mp there'
    obtain ⟨_, absent, _⟩ | ⟨_, same, changed⟩ :=
      step_change api (serves_stable api) (sound ctx rfl) stepped
    · contradiction
    · cases same
      obtain ⟨rfl, _⟩ | kept | ⟨_, _, _, taken, _⟩ := changed.udp_cases (some ctx') live'
      · cases (sound ctx rfl).unspawned.symm.trans live
      · cases kept.symm.trans live
        rfl
      · simp only [udpStep, taken, there', Option.bind_some, Option.map_some] at still
        contradiction
  moves := by
    rintro before event outputs after m ⟨sound, configured⟩ stepped mine
    obtain ⟨⟨session, u, e⟩, turn, rest⟩ := Option.bind_eq_some_iff.mp mine
    obtain ⟨session', there', rfl⟩ := Option.map_eq_some_iff.mp rest
    obtain ⟨ctx, rfl, _, live, held⟩ := udpTurn_eq_some turn
    obtain ⟨_, _, returned, _, ctx', rfl, live'⟩ := (sound ctx rfl).udpTurn_step api stepped turn
    cases there'.symm.trans (Handle.udpSession_eq_some.mpr ⟨ctx', rfl, live'⟩)
    rw [configured ctx rfl] at returned
    exact ⟨session.step_inv api held returned, Handle.udpSession_eq_some.mpr ⟨ctx, rfl, live⟩,
      fun _ there => Option.some.inj (there.symm.trans there')⟩

/-- Every live UDP session of a core has made a run of its own. -/
theorem CoreRun.udpRun (api : S.ApiLaws) (poll : S.PollLaws)
    (run : CoreRun S config history handle) (live : Handle.udpSession id handle = some session) :
    UdpRun S config id (udpHistory id history) session := by
  obtain ⟨ctx, created, path⟩ := run
  refine (udp_component api config id).run path ?_
    (fun path => CoreRun.configured api poll ⟨ctx, created, path⟩) live
  cases found : Handle.udpSession id (some ctx) with
  | none => rfl
  | some session =>
      obtain ⟨_, same, live⟩ := Handle.udpSession_eq_some.mp found
      cases same
      rw [CoreContext.new_runtime created] at live
      contradiction

end

end StunnelIos
