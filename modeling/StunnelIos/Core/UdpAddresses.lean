import StunnelIos.Smoltcp.ReferenceLaws
import StunnelIos.Core.Sessions

/-! The addresses a UDP session hands on: to the stack for the replies, and to the
tunnel for what the client sent. -/
namespace StunnelIos
variable {S : Smoltcp} {ctx : CoreContext S} {id : TaskId} {session session' : UdpSession}
  {u u' : S.UdpSocket} {config : AppConfig}

theorem socketAddrToEndpoint_injective : Function.Injective socketAddrToEndpoint := by
  intro a b same
  simpa using congrArg endpointToSocketAddr same

/-- Only a reply that the stack takes changes the transmit queue. -/
theorem UdpTurn.tx_cases {event : UdpEvent} {outputs : List Output}
    (turn : UdpTurn S config id session u event session' u' outputs) :
    S.udpTx u' = S.udpTx u ∨ ∃ sTask buf addr lastActivity, event = .pollSendTo ∧
      session.phase = .running sTask (.replying buf addr) lastActivity ∧
      S.udpSendSlice u buf (socketAddrToEndpoint (session.replyTarget addr)) = .ok u' := by
  cases turn with
  | idle | opened | sent | arrived | finished => exact .inl rfl
  | taken _ _ _ tx => exact .inl tx
  | foreign _ _ _ tx => exact .inl tx
  | replied phase queued => exact .inr ⟨_, _, _, _, rfl, phase, queued⟩

theorem Sound.stepTask_udp {R : Task → Socket S.TcpSocket S.UdpSocket → Prop} (sound : Sound R ctx)
    {event : UdpEvent} {engine' : StunnelEngine S} {outputs : List Output}
    (live : ctx.runtime.tasks.lookup id = some (.udp session))
    (stepped : session.step ctx.config ctx.engine.value id event =
      .ok (session', engine', outputs)) :
    ctx.stepTask id (.inr event) =
      ({ ctx with engine := .new engine', runtime := ctx.runtime.set id (.udp session') },
        outputs) := by
  simp only [CoreContext.stepTask, live, sound.lock_ok, Except.bind, Task.step, stepped, ok_bind,
    pure_eq_ok]

theorem UdpSession.step_replied (engine : StunnelEngine S) {sTask : SendTask} {buf : Bytes}
    {addr : SocketAddr} {lastActivity : Instant}
    (held : engine.sockets.get session.socket.handle = some (.udp u))
    (phase : session.phase = .running sTask (.replying buf addr) lastActivity)
    (queued : S.udpSendSlice u buf (socketAddrToEndpoint (session.replyTarget addr)) = .ok u') :
    session.step config engine id .pollSendTo =
      .ok ({ session with phase := .running sTask .receiving lastActivity },
        engine.setSocket session.socket.handle (.udp u'),
        [.enqueued id buf (socketAddrToEndpoint (session.replyTarget addr))]) := by
  simp only [UdpSession.step, phase, session.reply_queued sTask lastActivity held queued]

/-- Every datagram that a session puts on the transmit queue of its socket is
addressed to the client of the session. -/
def RepliesToClient (x : Runs.Transition (Handle S) Event (List Output)) : Prop :=
  ∀ ctx ctx' id event session u u' added, x.before = some ctx → x.event = .task id event →
    x.after = some ctx' → ctx.runtime.tasks.lookup id = some (.udp session) →
    ctx.engine.value.sockets.get session.socket.handle = some (.udp u) →
    ctx'.engine.value.sockets.get session.socket.handle = some (.udp u') →
    S.udpTx u' = S.udpTx u ++ added →
    ∀ reply ∈ added, reply.2 = socketAddrToEndpoint session.srcEndpoint

/-- A reply that the stack takes belongs to a direct session whose client is its
own target, or came through the tunnel with the client's address. -/
def ReplyNamesClient (x : Runs.Transition (Handle S) Event (List Output)) : Prop :=
  ∀ ctx id session u u' sTask buf addr lastActivity, x.before = some ctx →
    x.event = .task id (.inr .pollSendTo) →
    ctx.runtime.tasks.lookup id = some (.udp session) →
    ctx.engine.value.sockets.get session.socket.handle = some (.udp u) →
    session.phase = .running sTask (.replying buf addr) lastActivity →
    S.udpSendSlice u buf (socketAddrToEndpoint (session.replyTarget addr)) = .ok u' →
    if session.isDirect then session.targetAddr = session.srcEndpoint
    else addr = session.srcEndpoint

theorem UdpSession.replyTarget_iff {addr : SocketAddr} :
    session.replyTarget addr = session.srcEndpoint ↔
      if session.isDirect then session.targetAddr = session.srcEndpoint
      else addr = session.srcEndpoint := by
  unfold UdpSession.replyTarget
  split <;> rfl

theorem repliesToClient_iff (api : S.ApiLaws) {x : Runs.Transition (Handle S) Event (List Output)}
    (sound : Handle.Sound (Serves S) x.before)
    (stepped : Handle.Steps x.before x.event x.output x.after) :
    RepliesToClient x ↔ ReplyNamesClient x := by
  obtain ⟨source, action, outputs, target⟩ := x
  constructor
  · rintro replies ctx id session u u' sTask buf addr lastActivity rfl rfl live held phase queued
    obtain ⟨tx, _, _⟩ := api.udp_send _ _ _ _ queued
    have after : target = some (ctx.stepTask id (.inr .pollSendTo)).1 := stepped.of_task.1
    rw [(sound ctx rfl).stepTask_udp live (session.step_replied _ held phase queued)] at after
    have slot := SlotTable.get_put_self (x := .udp u')
      (Nat.le_of_lt (SlotTable.lt_of_get held))
    have addressed := replies ctx _ id _ session u u' [(buf, _)] rfl rfl after live held
      slot tx _ List.mem_cons_self
    exact session.replyTarget_iff.mp (socketAddrToEndpoint_injective addressed)
  · rintro names ctx ctx' id event session u u' added rfl rfl rfl live held held' tx
    have unchanged : S.udpTx u' = S.udpTx u → added = [] := by
      intro same
      rw [same] at tx
      exact List.self_eq_append_right.mp tx
    obtain ⟨stopped, _⟩ | ⟨_, same, changed⟩ :=
      step_change api (serves_stable api) (sound ctx rfl) stepped
    · contradiction
    · cases same
      cases changed with
      | control control => contradiction
      | absent absent =>
          rw [live] at absent
          contradiction
      | mismatched =>
          cases held.symm.trans held'
          simp [unchanged rfl]
      | tcp found =>
          cases live.symm.trans found
      | udp found there turn touches =>
          cases live.symm.trans found
          cases held.symm.trans there
          have there' := touches.sockets session.socket.handle
          rw [if_pos rfl] at there'
          cases held'.symm.trans there'
          obtain same | ⟨sTask, buf, addr, lastActivity, rfl, phase, queued⟩ := turn.tx_cases
          · simp [unchanged same]
          · have target := names ctx id session u _ sTask buf addr lastActivity rfl rfl live
              held phase queued
            rw [(api.udp_send _ _ _ _ queued).1, List.append_cancel_left_eq] at tx
            subst tx
            intro reply member
            rw [List.mem_singleton.mp member, session.replyTarget_iff.mpr target]

/-- In a run every reply goes to the client of its session exactly when every reply
names the client: by its direct session's target, or by the address from the tunnel. -/
theorem every_reply_to_client_iff (api : S.ApiLaws) (poll : S.PollLaws) {config : AppConfig}
    {history : Runs.History (Handle S) Event (List Output)} {handle : Handle S}
    (run : CoreRun S config history handle) :
    (∀ x ∈ history, RepliesToClient x) ↔ ∀ x ∈ history, ReplyNamesClient x := by
  apply forall₂_congr
  intro x taken
  obtain ⟨sound, stepped⟩ := run.sound_before api poll (serves_stable api) taken
  exact repliesToClient_iff api sound stepped

def answeredQuery : List Event :=
  startUp ++ [
    .processPacket (some (Wire.udpFrame hostAddr tunAddr 5353 53 [1, 2, 3])) 0,
    .task 0 (.inr (.opened 0 (.ok ()))),
    .task 0 (.inr (.received 1 (.ok ([4, 5, 6], .v4 tunAddr 53))))]

/-- The answer is queued for the resolver itself. -/
theorem answer_returns_to_the_resolver : ¬ ∀ S : Smoltcp, S.ApiLaws → S.PollLaws →
    ∀ config history (handle : Handle S), CoreRun S config history handle →
      ∀ x ∈ history, RepliesToClient x := by
  intro claimed
  obtain ⟨history, ctx, outputs, handle', run, checked⟩ :=
    CoreContext.replay_step Reference.stack quicConfig answeredQuery
      (.task 0 (.inr .pollSendTo))
      (fun ctx _ handle' => handle'.any fun ctx' =>
        ctx.runtime.tasks.lookup 0 == some (.udp ⟨⟨0⟩, .v4 hostAddr 5353, .v4 tunAddr 53, true,
          .running .receiving (.replying [4, 5, 6] (.v4 tunAddr 53)) 1⟩) &&
        ((ctx.engine.value.sockets.get 0).any fun
          | .udp u => u.tx == []
          | .tcp _ => false) &&
        ((ctx'.engine.value.sockets.get 0).any fun
          | .udp u' => u'.tx == [([4, 5, 6], ⟨.v4 tunAddr, 53⟩)]
          | .tcp _ => false))
      (by decide +kernel)
  obtain ⟨ctx', rfl, accepted⟩ := (Option.any_eq_true _ _).mp checked
  simp only [Bool.and_eq_true, beq_iff_eq] at accepted
  obtain ⟨⟨live, first⟩, last⟩ := accepted
  obtain ⟨socket, held, first⟩ := (Option.any_eq_true _ _).mp first
  obtain ⟨socket', held', last⟩ := (Option.any_eq_true _ _).mp last
  cases socket with
  | tcp t => contradiction
  | udp u =>
      cases socket' with
      | tcp t => contradiction
      | udp u' =>
          have empty : u.tx = [] := beq_iff_eq.mp first
          have queued : u'.tx = [([4, 5, 6], ⟨.v4 tunAddr, 53⟩)] := beq_iff_eq.mp last
          have addressed := claimed _ Reference.api Reference.poll_laws _ _ _ run _
            List.mem_cons_self ctx ctx' 0 _ _ u u' [([4, 5, 6], ⟨.v4 tunAddr, 53⟩)] rfl rfl rfl live
            held held' (by simp [Reference.stack, empty, queued]) _ List.mem_cons_self
          revert addressed
          decide

/-- The reply that the session is handing to the stack, if any, names its client. -/
def UdpSession.namesClient (session : UdpSession) : Bool :=
  match session.phase with
  | .running _ (.replying _ addr) _ => session.replyTarget addr == session.srcEndpoint
  | _ => true

/-- A broadcast of the host goes through the tunnel, and is answered to the host's address. -/
theorem every_reply_to_client_iff_through_tunnel : ∃ history handle,
    CoreRun Reference.stack quicConfig history handle ∧
      (∃ x ∈ history, x.output = [.enqueued 0 [4, 5, 6] ⟨.v4 hostAddr, 5353⟩]) ∧
      (∀ x ∈ history, ReplyNamesClient x) ∧ ∀ x ∈ history, RepliesToClient x := by
  obtain ⟨history, handle, run, queued, named⟩ := CoreContext.replay_holds Reference.stack quicConfig
    (startUp ++ [
      .processPacket (some (Wire.udpFrame hostAddr .limitedBroadcast 5353 7000 [1, 2, 3])) 0,
      .task 0 (.inr (.opened 0 (.ok ()))),
      .task 0 (.inr (.received 1 (.ok ([4, 5, 6], .v4 hostAddr 5353)))),
      .task 0 (.inr .pollSendTo)])
    (fun history _ => (∃ x ∈ history, x.output = [.enqueued 0 [4, 5, 6] ⟨.v4 hostAddr, 5353⟩]) ∧
      ∀ x ∈ history, ∀ ctx ∈ x.before, ∀ entry ∈ ctx.runtime.tasks.entries,
        (match entry.2 with
          | .udp session => session.namesClient
          | .tcp _ => true) = true) (by decide +kernel)
  have named : ∀ x ∈ history, ReplyNamesClient x := by
    intro x taken ctx id session u u' sTask buf addr lastActivity before _ live _ phase _
    have named := named x taken ctx before _ (AList.mem_lookup_iff.mp live)
    simp only [UdpSession.namesClient, phase, beq_iff_eq] at named
    exact session.replyTarget_iff.mp named
  exact ⟨history, handle, run, queued, named,
    (every_reply_to_client_iff Reference.api Reference.poll_laws run).mpr named⟩

namespace UdpSession

def retarget (target : SocketAddr) (session : UdpSession) : UdpSession :=
  { session with targetAddr := target }

def retargetStep (target : SocketAddr) (result : UdpSession × StunnelEngine S × List Output) :
    UdpSession × StunnelEngine S × List Output :=
  (result.1.retarget target, result.2)

theorem opened_retarget (target : SocketAddr) (now : Instant) (result : IoResult Unit) :
    (session.retarget target).opened config now result =
      (session.opened config now result).retarget target := by
  dsimp only [opened, retarget]
  generalize (if session.isDirect then result else _) = outcome
  cases outcome <;> rfl

theorem receive_retarget (target : SocketAddr) (engine : StunnelEngine S) (rTask : RecvTask)
    (lastActivity now : Instant) :
    (session.retarget target).receive engine id rTask lastActivity now =
      (session.receive engine id rTask lastActivity now).map (retargetStep target) := by
  dsimp only [receive, retarget]
  cases session.socket.pollRecvFrom engine id udpBufferSize with
  | error panic => rfl
  | ok result =>
      obtain ⟨poll, engine'⟩ := result
      cases poll with
      | pending => rfl
      | ready received =>
          cases received with
          | error error => rfl
          | ok datagram =>
              simp only [ok_bind]
              split <;> rfl

theorem reply_retarget (proxied : session.isDirect = false) (target : SocketAddr)
    (engine : StunnelEngine S) (sTask : SendTask) (lastActivity : Instant) (buf : Bytes)
    (addr : SocketAddr) :
    (session.retarget target).reply engine id sTask lastActivity buf addr =
      (session.reply engine id sTask lastActivity buf addr).map (retargetStep target) := by
  have own : session.replyTarget addr = addr := by simp [replyTarget, proxied]
  have retargeted : (session.retarget target).replyTarget addr = addr := by
    simp [replyTarget, retarget, proxied]
  dsimp only [reply]
  rw [own, retargeted]
  dsimp only [retarget]
  cases session.socket.pollSendTo engine id buf addr with
  | error panic => rfl
  | ok result =>
      obtain ⟨poll, engine'⟩ := result
      cases poll with
      | pending => rfl
      | ready sent => cases sent <;> rfl

end UdpSession

/-- A session through the tunnel does nothing with its target: two runs of it that
differ in the target alone make the same calls, with the same arguments. -/
theorem UdpSession.step_retarget (proxied : session.isDirect = false) (target : SocketAddr)
    (engine : StunnelEngine S) (event : UdpEvent) :
    (session.retarget target).step config engine id event =
      (session.step config engine id event).map (retargetStep target) := by
  obtain ⟨socket, srcEndpoint, targetAddr, isDirect, phase⟩ := session
  have proxied : isDirect = false := proxied
  subst proxied
  cases phase with
  | opening =>
      cases event with
      | opened now result => exact congrArg (fun s => Except.ok (s, engine, [])) (opened_retarget ..)
      | pollRecvFrom | sent | received | pollSendTo | timeout => rfl
  | running sTask rTask lastActivity =>
      cases event with
      | opened now result => cases sTask <;> cases rTask <;> rfl
      | pollRecvFrom now =>
          cases sTask with
          | receiving => exact receive_retarget ..
          | sending buf addr => cases rTask <;> rfl
      | sent result => cases sTask <;> cases rTask <;> cases result <;> rfl
      | received now result => cases sTask <;> cases rTask <;> cases result <;> rfl
      | pollSendTo =>
          cases rTask with
          | receiving => cases sTask <;> rfl
          | replying buf addr => cases sTask <;> exact reply_retarget rfl ..
      | timeout now =>
          cases sTask <;> cases rTask <;> simp only [step, retarget] <;> split <;> rfl
  | finished result => cases event <;> rfl

def Output.isForward : Output → Bool
  | .outboundSend _ _ _ | .tunnelSend _ _ _ => true
  | _ => false

/-- Only the completed send of a UDP session sends a datagram on. -/
theorem Change.forwarded {ctx' : CoreContext S} {event : Event} {outputs : List Output}
    {output : Output} (changed : Change ctx event outputs ctx') (called : output ∈ outputs)
    (forward : output.isForward = true) :
    ∃ id session buf addr rTask lastActivity, event = .task id (.inr (.sent (.ok ()))) ∧
      ctx.runtime.tasks.lookup id = some (.udp session) ∧
      session.phase = .running (.sending buf addr) rTask lastActivity ∧
      output = session.forwarded id buf addr := by
  cases changed with
  | control | ignored | absent | mismatched | alive | tcpDropped | udpDropped => simp at called
  | packet _ _ intercepted =>
      obtain ⟨_, rfl⟩ | ⟨_, _, _, rfl⟩ | ⟨_, rfl⟩ := intercepted.output_cases called <;>
        contradiction
  | tcp _ _ turn =>
      cases turn <;> simp at called
      all_goals
        subst called
        contradiction
  | udp found _ turn =>
      cases turn with
      | idle | opened | taken | foreign | arrived | finished => simp at called
      | replied =>
          obtain rfl := List.mem_singleton.mp called
          contradiction
      | sent phase => exact ⟨_, _, _, _, _, _, rfl, found, phase, List.mem_singleton.mp called⟩

theorem Change.tunnelSend {ctx' : CoreContext S} {event : Event} {outputs : List Output}
    {payload : Bytes} {addr : SocketAddr} (changed : Change ctx event outputs ctx')
    (called : .tunnelSend id payload addr ∈ outputs) :
    ∃ session rTask lastActivity, event = .task id (.inr (.sent (.ok ()))) ∧
      ctx.runtime.tasks.lookup id = some (.udp session) ∧ session.isDirect = false ∧
      session.phase = .running (.sending payload addr) rTask lastActivity := by
  obtain ⟨_, session, _, _, _, _, rfl, live, phase, same⟩ := changed.forwarded called rfl
  unfold UdpSession.forwarded at same
  split at same
  · contradiction
  · rename_i proxied
    cases same
    exact ⟨_, _, _, rfl, live, by simpa using proxied, phase⟩

theorem Change.outboundSend {ctx' : CoreContext S} {event : Event} {outputs : List Output}
    {payload : Bytes} {target : SocketAddr} (changed : Change ctx event outputs ctx')
    (called : .outboundSend id target payload ∈ outputs) :
    ∃ session addr rTask lastActivity, ctx.runtime.tasks.lookup id = some (.udp session) ∧
      session.isDirect = true ∧ target = session.targetAddr ∧
      session.phase = .running (.sending payload addr) rTask lastActivity := by
  obtain ⟨_, session, _, _, _, _, rfl, live, phase, same⟩ := changed.forwarded called rfl
  unfold UdpSession.forwarded at same
  split at same
  · rename_i direct
    cases same
    exact ⟨_, _, _, _, live, direct, rfl, phase⟩
  · contradiction

theorem UdpSession.step_sent (engine : StunnelEngine S) {buf : Bytes} {addr : SocketAddr}
    {rTask : RecvTask} {lastActivity : Instant}
    (phase : session.phase = .running (.sending buf addr) rTask lastActivity) :
    session.step config engine id (.sent (.ok ())) =
      .ok ({ session with phase := .running .receiving rTask lastActivity }, engine,
        [session.forwarded id buf addr]) := by
  cases rTask <;> simp only [UdpSession.step, phase]

end StunnelIos
