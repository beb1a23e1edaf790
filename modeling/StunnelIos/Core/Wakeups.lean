import StunnelIos.Core.HandleOwnership

/-! Waiting tasks and their wakers. There is one waker for each handle, shared by both
directions of a session, overwritten at will and kept when a session is dropped; the
whole table is woken and emptied by every poll of the stack. -/
namespace StunnelIos
variable {S : Smoltcp}

/-- Under the lock, a poll of the session's stream or socket returns pending. -/
inductive Task.Pends (engine : StunnelEngine S) (id : TaskId) :
    Task → Sum TcpEvent UdpEvent → Prop where
  | read {session : TcpSession} {writeDone remaining engine'} :
      session.phase = .copying false writeDone →
      session.stream.pollRead engine id (remaining + 1) = .ok (.pending, engine') →
      Task.Pends engine id (.tcp session) (.inl (.pollRead (remaining + 1)))
  | write {session : TcpSession} {readDone byte buf engine'} :
      session.phase = .copying readDone false →
      session.stream.pollWrite engine id (byte :: buf) = .ok (.pending, engine') →
      Task.Pends engine id (.tcp session) (.inl (.pollWrite (byte :: buf)))
  | recvFrom {session : UdpSession} {rTask lastActivity now engine'} :
      session.phase = .running .receiving rTask lastActivity →
      session.socket.pollRecvFrom engine id udpBufferSize = .ok (.pending, engine') →
      Task.Pends engine id (.udp session) (.inr (.pollRecvFrom now))
  | sendTo {session : UdpSession} {sTask buf addr lastActivity engine'} :
      session.phase = .running sTask (.replying buf addr) lastActivity →
      session.socket.pollSendTo engine id buf (session.replyTarget addr) =
        .ok (.pending, engine') →
      Task.Pends engine id (.udp session) (.inr .pollSendTo)

/-- The waker takes the place of the handle when the poll is pending, and nothing
changes among the wakers otherwise. -/
def Registers {α : Type} (engine : StunnelEngine S) (handle : SocketHandle) (waker : TaskId)
    (polled : Poll α × StunnelEngine S) : Prop :=
  (polled.1 = .pending ∧ polled.2.wakers = engine.wakers.insert handle waker) ∨
    (polled.1 ≠ .pending ∧ polled.2.wakers = engine.wakers)

section
variable {α : Type} {engine engine' : StunnelEngine S} {handle : SocketHandle} {waker : TaskId}
  {polled : Poll α × StunnelEngine S}

theorem Registers.pending (registers : Registers engine handle waker (.pending (α := α), engine')) :
    engine'.wakers = engine.wakers.insert handle waker := by
  obtain ⟨_, inserted⟩ | ⟨impossible, _⟩ := registers
  · exact inserted
  · contradiction

theorem Registers.either (registers : Registers engine handle waker polled) :
    polled.2.wakers = engine.wakers ∨ polled.2.wakers = engine.wakers.insert handle waker := by
  obtain ⟨_, inserted⟩ | ⟨_, same⟩ := registers
  · exact .inr inserted
  · exact .inl same

theorem TcpStream.pollRead_registers {stream : TcpStream} {remaining : Nat}
    {polled : Poll (IoResult Bytes) × StunnelEngine S}
    (returned : stream.pollRead engine waker remaining = .ok polled) :
    Registers engine stream.handle waker polled := by
  unfold TcpStream.pollRead at returned
  obtain ⟨t, _, returned⟩ := bind_eq_ok returned
  split at returned
  · split at returned <;> cases returned <;> exact .inr ⟨by simp, rfl⟩
  · split at returned <;> cases returned
    case h_5 => exact .inl ⟨rfl, rfl⟩
    all_goals exact .inr ⟨by simp, rfl⟩

theorem TcpStream.pollWrite_registers {stream : TcpStream} {buf : Bytes}
    {polled : Poll (IoResult Nat) × StunnelEngine S}
    (returned : stream.pollWrite engine waker buf = .ok polled) :
    Registers engine stream.handle waker polled := by
  unfold TcpStream.pollWrite at returned
  obtain ⟨t, _, returned⟩ := bind_eq_ok returned
  split at returned
  · split at returned <;> cases returned <;> exact .inr ⟨by simp, rfl⟩
  · split at returned <;> cases returned
    case h_5 => exact .inl ⟨rfl, rfl⟩
    all_goals exact .inr ⟨by simp, rfl⟩

theorem UdpSocket.pollRecvFrom_registers {socket : UdpSocket} {bufLen : Nat}
    {polled : Poll (IoResult (Bytes × SocketAddr)) × StunnelEngine S}
    (returned : socket.pollRecvFrom engine waker bufLen = .ok polled) :
    Registers engine socket.handle waker polled := by
  unfold UdpSocket.pollRecvFrom at returned
  obtain ⟨u, _, returned⟩ := bind_eq_ok returned
  split at returned <;> cases returned
  · exact .inr ⟨by simp, rfl⟩
  · exact .inl ⟨rfl, rfl⟩
  · exact .inr ⟨by simp, rfl⟩

theorem UdpSocket.pollSendTo_registers {socket : UdpSocket} {buf : Bytes} {target : SocketAddr}
    {polled : Poll (IoResult Nat) × StunnelEngine S}
    (returned : socket.pollSendTo engine waker buf target = .ok polled) :
    Registers engine socket.handle waker polled := by
  unfold UdpSocket.pollSendTo at returned
  obtain ⟨u, _, returned⟩ := bind_eq_ok returned
  dsimp only at returned
  split at returned <;> cases returned
  · exact .inr ⟨by simp, rfl⟩
  · exact .inl ⟨rfl, rfl⟩
  · exact .inr ⟨by simp, rfl⟩

end

section
variable {config : AppConfig} {engine engine' : StunnelEngine S} {id : TaskId}
  {outputs : List Output}

theorem TcpSession.step_wakers {session session' : TcpSession} {event : TcpEvent}
    (stepped : session.step config engine id event = .ok (session', engine', outputs)) :
    engine'.wakers = engine.wakers ∨
      engine'.wakers = engine.wakers.insert session.stream.handle id := by
  unfold TcpSession.step at stepped
  split at stepped
  case h_2 =>
    obtain ⟨result, polled, stepped⟩ := bind_eq_ok stepped
    have either := (TcpStream.pollRead_registers polled).either
    split at stepped <;> cases stepped <;> exact either
  case h_3 =>
    obtain ⟨result, polled, stepped⟩ := bind_eq_ok stepped
    have either := (TcpStream.pollWrite_registers polled).either
    split at stepped <;> cases stepped <;> exact either
  case h_4 =>
    obtain ⟨result, closed, stepped⟩ := bind_eq_ok stepped
    obtain ⟨t, _, closed⟩ := bind_eq_ok closed
    cases closed
    cases stepped
    exact .inl rfl
  all_goals
    cases stepped
    exact .inl rfl

theorem UdpSession.step_wakers {session session' : UdpSession} {event : UdpEvent}
    (stepped : session.step config engine id event = .ok (session', engine', outputs)) :
    engine'.wakers = engine.wakers ∨
      engine'.wakers = engine.wakers.insert session.socket.handle id := by
  unfold UdpSession.step at stepped
  split at stepped
  case h_2 =>
    obtain ⟨result, polled, stepped⟩ := bind_eq_ok stepped
    have either := (UdpSocket.pollRecvFrom_registers polled).either
    split at stepped
    case h_1 => split at stepped <;> cases stepped <;> exact either
    all_goals
      cases stepped
      exact either
  case h_7 =>
    obtain ⟨result, polled, stepped⟩ := bind_eq_ok stepped
    have either := (UdpSocket.pollSendTo_registers polled).either
    split at stepped <;> cases stepped <;> exact either
  case h_8 => split at stepped <;> cases stepped <;> exact .inl rfl
  all_goals
    cases stepped
    exact .inl rfl

theorem Task.step_wakers {task task' : Task} {event : Sum TcpEvent UdpEvent}
    (stepped : task.step config engine id event = .ok (task', engine', outputs)) :
    engine'.wakers = engine.wakers ∨ engine'.wakers = engine.wakers.insert task.handle id := by
  unfold Task.step at stepped
  split at stepped
  · obtain ⟨result, turned, stepped⟩ := bind_eq_ok stepped
    cases stepped
    exact TcpSession.step_wakers turned
  · obtain ⟨result, turned, stepped⟩ := bind_eq_ok stepped
    cases stepped
    exact UdpSession.step_wakers turned
  · cases stepped
    exact .inl rfl

theorem Task.Pends.registered {task task' : Task} {event : Sum TcpEvent UdpEvent}
    (pends : task.Pends engine id event)
    (stepped : task.step config engine id event = .ok (task', engine', outputs)) :
    engine'.wakers = engine.wakers.insert task.handle id := by
  cases pends with
  | read phase polled =>
      simp only [Task.step, TcpSession.step, phase, TcpSession.read, polled, ok_bind,
        pure_eq_ok] at stepped
      cases stepped
      exact (TcpStream.pollRead_registers polled).pending
  | write phase polled =>
      simp only [Task.step, TcpSession.step, phase, TcpSession.write, polled, ok_bind,
        pure_eq_ok] at stepped
      cases stepped
      exact (TcpStream.pollWrite_registers polled).pending
  | recvFrom phase polled =>
      simp only [Task.step, UdpSession.step, phase, UdpSession.receive, polled, ok_bind,
        pure_eq_ok] at stepped
      cases stepped
      exact (UdpSocket.pollRecvFrom_registers polled).pending
  | sendTo phase polled =>
      simp only [Task.step, UdpSession.step, phase, UdpSession.reply, polled, ok_bind,
        pure_eq_ok] at stepped
      cases stepped
      exact (UdpSocket.pollSendTo_registers polled).pending

end

/-- In this step the task polls and is told to wait. -/
def PollsInVain (x : Runs.Transition (Handle S) Event (List Output)) (id : TaskId) : Prop :=
  ∃ ctx task event, x.before = some ctx ∧ x.event = .task id event ∧
    ctx.runtime.tasks.lookup id = some task ∧ task.Pends ctx.engine.value id event

/-- The task has polled in vain and has not been woken since. -/
def Waiting (id : TaskId) : Runs.History (Handle S) Event (List Output) → Prop
  | [] => False
  | x :: earlier => PollsInVain x id ∨ (Output.wake id ∉ x.output ∧ Waiting id earlier)

theorem waiting_append {id : TaskId} {later earlier : Runs.History (Handle S) Event (List Output)}
    (waiting : Waiting id earlier) (asleep : ∀ y ∈ later, Output.wake id ∉ y.output) :
    Waiting id (later ++ earlier) := by
  induction later with
  | nil => exact waiting
  | cons y later ih =>
      exact .inr ⟨asleep y List.mem_cons_self,
        ih fun z member => asleep z (List.mem_cons_of_mem _ member)⟩

/-- Who waits has its waker in the table, as long as it lives. -/
def WakersKept (history : Runs.History (Handle S) Event (List Output)) (ctx : CoreContext S) :
    Prop :=
  ∀ id, Waiting id history → id < ctx.runtime.next ∧
    ∀ task, ctx.runtime.tasks.lookup id = some task →
      ctx.engine.value.wakers.lookup task.handle = some id

section
variable {R : Task → Socket S.TcpSocket S.UdpSocket → Prop} {ctx ctx' : CoreContext S}
  {history : Runs.History (Handle S) Event (List Output)}

theorem WakersKept.mono (kept : WakersKept history ctx) {event : Event} {outputs : List Output}
    (other : ∀ id turn, event ≠ .task id turn) (next : ctx'.runtime.next = ctx.runtime.next)
    (tasks : ∀ id task, ctx'.runtime.tasks.lookup id = some task →
      ctx.runtime.tasks.lookup id = some task)
    (wakers : ctx'.engine.value.wakers = ctx.engine.value.wakers) :
    WakersKept (⟨some ctx, event, outputs, some ctx'⟩ :: history) ctx' := by
  rintro id (⟨_, _, turn, _, polled, _⟩ | ⟨_, waiting⟩)
  · exact absurd polled (other id turn)
  · obtain ⟨known, lives⟩ := kept id waiting
    exact ⟨next ▸ known, fun task live => wakers ▸ lives task (tasks id task live)⟩

theorem Sound.stepTask_wakers (api : S.ApiLaws) (stable : Stable R) (sound : Sound R ctx)
    {id : TaskId} {task : Task} (live : ctx.runtime.tasks.lookup id = some task)
    (event : Sum TcpEvent UdpEvent) :
    ∃ task', (ctx.stepTask id event).1.runtime = ctx.runtime.set id task' ∧
      task'.handle = task.handle ∧
      ((ctx.stepTask id event).1.engine.value.wakers = ctx.engine.value.wakers ∧
          ¬ task.Pends ctx.engine.value id event ∨
        (ctx.stepTask id event).1.engine.value.wakers =
          ctx.engine.value.wakers.insert task.handle id) := by
  obtain ⟨task', engine', outputs, stepped, slot⟩ := sound.task_step api stable live event
  have same : (ctx.stepTask id event).1 =
      { ctx with engine := .new engine', runtime := ctx.runtime.set id task' } := by
    simp only [CoreContext.stepTask, live, sound.lock_ok, Except.bind, stepped]
  rw [same]
  refine ⟨task', rfl, slot, ?_⟩
  by_cases pends : task.Pends ctx.engine.value id event
  · exact .inr (pends.registered stepped)
  · rcases Task.step_wakers stepped with unchanged | inserted
    · exact .inl ⟨unchanged, pends⟩
    · exact .inr inserted

/-- A turn of a task keeps every other waiter's waker, since no two live tasks share a
handle, and puts the task's own one where it belongs. -/
theorem WakersKept.stepTask (api : S.ApiLaws) (stable : Stable R) (sound : Sound R ctx)
    (kept : WakersKept history ctx) (id : TaskId) (event : Sum TcpEvent UdpEvent)
    (outputs : List Output) (stepped : (ctx.stepTask id event).1 = ctx') :
    WakersKept (⟨some ctx, .task id event, outputs, some ctx'⟩ :: history) ctx' := by
  subst stepped
  intro other waiting
  cases live : ctx.runtime.tasks.lookup id with
  | none =>
      have same : (ctx.stepTask id event).1 = ctx := by simp only [CoreContext.stepTask, live]
      rw [same]
      obtain ⟨_, task, _, ⟨⟩, ⟨⟩, found, _⟩ | ⟨_, waiting⟩ := waiting
      · rw [live] at found
        contradiction
      · exact kept other waiting
  | some task =>
      obtain ⟨task', runtime, slot, wakers⟩ := sound.stepTask_wakers api stable live event
      rw [runtime]
      obtain ⟨_, _, _, ⟨⟩, ⟨⟩, found, pends⟩ | ⟨_, waiting⟩ := waiting
      · cases live.symm.trans found
        obtain ⟨_, impossible⟩ | inserted := wakers
        · exact absurd pends impossible
        · refine ⟨sound.fresh id task live, ?_⟩
          intro changed present
          obtain ⟨_, rfl⟩ | ⟨impossible, _⟩ := AList.lookup_insert_eq_some.mp present
          · rw [inserted, slot]
            exact AList.lookup_insert _
          · contradiction
      · obtain ⟨known, lives⟩ := kept other waiting
        refine ⟨known, ?_⟩
        intro changed present
        obtain ⟨rfl, rfl⟩ | ⟨apart, present⟩ := AList.lookup_insert_eq_some.mp present
        · rw [slot]
          obtain ⟨unchanged, _⟩ | inserted := wakers
          · rw [unchanged]
            exact lives task live
          · rw [inserted]
            exact AList.lookup_insert _
        · have elsewhere : changed.handle ≠ task.handle := fun shared =>
            apart (sound.owned.unique other id changed task present live shared)
          obtain ⟨unchanged, _⟩ | inserted := wakers
          · rw [unchanged]
            exact lives changed present
          · rw [inserted, AList.lookup_insert_ne elsewhere]
            exact lives changed present

theorem Intercepted.tasks {bytes : Bytes} {result : StunnelEngine S × Runtime × List Output}
    (intercepted : Intercepted ctx.engine.value ctx.runtime bytes result) :
    result.1.wakers = ctx.engine.value.wakers ∧
      ∀ id task, id < ctx.runtime.next → result.2.1.tasks.lookup id = some task →
        ctx.runtime.tasks.lookup id = some task := by
  cases intercepted with
  | passed | known => exact ⟨rfl, fun _ _ _ live => live⟩
  | tcp | udp =>
      refine ⟨rfl, ?_⟩
      intro id task old live
      obtain ⟨rfl, _⟩ | ⟨_, live⟩ := AList.lookup_insert_eq_some.mp live
      · exact absurd old (Nat.lt_irrefl _)
      · exact live

/-- Everyone who is waiting is among those a packet wakes. -/
theorem WakersKept.woken (kept : WakersKept history ctx) {bytes : Bytes}
    {result : StunnelEngine S × Runtime × List Output}
    (intercepted : Intercepted ctx.engine.value ctx.runtime bytes result) {id : TaskId} {task : Task}
    (waiting : Waiting id history) (live : ctx.runtime.tasks.lookup id = some task) :
    id ∈ result.1.wakers.values := by
  rw [intercepted.tasks.1]
  exact AList.mem_values ((kept id waiting).2 task live)

/-- Nobody who still lives waits after a packet: all have been woken. -/
theorem WakersKept.packet (kept : WakersKept history ctx) {bytes : Bytes} {now : Instant}
    {result : StunnelEngine S × Runtime × List Output}
    (intercepted : Intercepted ctx.engine.value ctx.runtime bytes result) :
    WakersKept (⟨some ctx, .processPacket (some bytes) now,
        result.2.2 ++ result.1.deliveredOutputs now bytes,
        some { ctx with engine := .new (result.1.delivered now bytes), runtime := result.2.1 }⟩ ::
      history)
      { ctx with engine := .new (result.1.delivered now bytes), runtime := result.2.1 } := by
  rintro id (⟨_, _, _, _, ⟨⟩, _⟩ | ⟨asleep, waiting⟩)
  obtain ⟨_, older⟩ := intercepted.tasks
  obtain ⟨known, _⟩ := kept id waiting
  refine ⟨lt_of_lt_of_le known intercepted.next_le, fun task live => absurd ?_ asleep⟩
  exact List.mem_append_right _ (List.mem_append_right _ (List.mem_map_of_mem
    (kept.woken intercepted waiting (older id task known live))))

theorem Change.wakersKept (api : S.ApiLaws) (stable : Stable R) (sound : Sound R ctx)
    (kept : WakersKept history ctx) {event : Event} {outputs : List Output}
    (stepped : Handle.Steps (some ctx) event outputs (some ctx'))
    (changed : Change ctx event outputs ctx') :
    WakersKept (⟨some ctx, event, outputs, some ctx'⟩ :: history) ctx' := by
  cases changed with
  | control control =>
      refine kept.mono ?_ rfl (fun _ _ live => live) rfl
      rintro id turn rfl
      cases control
  | ignored | alive =>
      exact kept.mono (fun _ _ => by simp) rfl (fun _ _ live => live) rfl
  | packet _ _ intercepted => exact kept.packet intercepted
  | tcpDropped | udpDropped =>
      refine kept.mono (fun _ _ => by simp) rfl ?_ rfl
      intro id task live
      exact (AList.lookup_erase_eq_some.mp live).2
  | absent | mismatched | tcp | udp =>
      exact kept.stepTask api stable sound _ _ _ (Option.some.inj stepped.of_task.1).symm

end

/-- In every run a live session that has polled in vain and has not been woken since has
its own waker at its handle, and the next packet wakes it, after the stack has been
polled and before the lock is released. -/
theorem no_lost_wakeup (api : S.ApiLaws) (poll : S.PollLaws) {config : AppConfig}
    {later earlier : Runs.History (Handle S) Event (List Output)}
    {x : Runs.Transition (Handle S) Event (List Output)} {ctx : CoreContext S}
    (run : CoreRun S config (later ++ x :: earlier) (some ctx)) {id : TaskId} {task : Task}
    (polled : PollsInVain x id) (live : ctx.runtime.tasks.lookup id = some task)
    (asleep : ∀ y ∈ later, Output.wake id ∉ y.output) :
    ctx.engine.value.wakers.lookup task.handle = some id ∧
      ∀ bytes now ctx' outputs, ctx.started = true →
        ctx.processPacket bytes now = .ok (ctx', outputs) →
        ∃ (engine : StunnelEngine S) (opened frames : List Output) (woken : List TaskId),
          ctx'.engine.value = (engine.poll now).1 ∧ outputs = opened ++ (engine.poll now).2 ∧
          (engine.poll now).2 = frames ++ woken.map .wake ∧ id ∈ woken := by
  have sound := run.sound api poll (serves_stable api) ctx rfl
  have kept : WakersKept (later ++ x :: earlier) ctx := by
    refine run.history_invariant api poll (serves_stable api) (P := WakersKept) ?_ ?_
    · intro ctx created id waiting
      exact waiting.elim
    · intro history ctx event outputs ctx' sound kept stepped changed
      exact changed.wakersKept api (serves_stable api) sound kept stepped
  have waiting : Waiting id (later ++ x :: earlier) := waiting_append (.inl polled) asleep
  refine ⟨(kept id waiting).2 task live, ?_⟩
  intro bytes now ctx' outputs started returned
  obtain ⟨result, passed, intercepted, same⟩ := sound.returned api started returned
  cases same
  have empty : result.1.device.inboundPackets = [] := by
    rw [intercepted.device.1]
    exact sound.queue
  have polled := (@poll_single S result.1 bytes now empty).2
  refine ⟨_, result.2.2, _, result.1.wakers.values, (congrArg Prod.fst polled).symm, ?_,
    congrArg Prod.snd polled, kept.woken intercepted waiting live⟩
  rw [polled]

def firstReceivesInVain (ctx : CoreContext Reference.stack) : Bool :=
  match ctx.runtime.tasks.lookup 0 with
  | some (.udp session) =>
      session.phase == .running .receiving .receiving 0 &&
        (session.socket.pollRecvFrom ctx.engine.value 0 udpBufferSize).toOption.any
          fun polled => polled.1 == .pending
  | _ => false

theorem firstReceivesInVain_polls {ctx : CoreContext Reference.stack} {now : Instant}
    {outputs : List Output} {handle : Handle Reference.stack}
    (vain : firstReceivesInVain ctx = true) :
    PollsInVain ⟨some ctx, .task 0 (.inr (.pollRecvFrom now)), outputs, handle⟩ 0 := by
  unfold firstReceivesInVain at vain
  split at vain
  · rename_i session live
    obtain ⟨phase, vain⟩ := Bool.and_eq_true_iff.mp vain
    obtain ⟨⟨result, engine'⟩, polled, pending⟩ := (Option.any_eq_true _ _).mp vain
    obtain rfl : result = .pending := beq_iff_eq.mp pending
    exact ⟨ctx, _, _, rfl, rfl, live,
      .recvFrom (beq_iff_eq.mp phase) (eq_ok_of_toOption polled)⟩
  · contradiction

/-- A session that has taken its first query waits for the next one, while another one is
opened. -/
theorem no_lost_wakeup_after_query : ∃ y x earlier ctx task,
    CoreRun Reference.stack quicConfig ([y] ++ x :: earlier) (some ctx) ∧ PollsInVain x 0 ∧
      y.event = .task 1 (.inr (.opened 0 (.ok ()))) ∧
      ctx.runtime.tasks.lookup 0 = some task ∧
      ctx.engine.value.wakers.lookup task.handle = some 0 := by
  obtain ⟨history, handle, run, checked⟩ := CoreContext.replay_run Reference.stack quicConfig
    (startUp ++ [.processPacket (some (Wire.udpFrame hostAddr tunAddr 5353 53 [1, 2, 3])) 0,
      .processPacket (some (Wire.udpFrame hostAddr tunAddr 5454 123 [4])) 0,
      .task 0 (.inr (.opened 0 (.ok ()))), .task 0 (.inr (.pollRecvFrom 0)),
      .task 0 (.inr (.sent (.ok ()))), .task 0 (.inr (.pollRecvFrom 0)),
      .task 1 (.inr (.opened 0 (.ok ())))])
    (fun history handle => (handle.any fun ctx => (ctx.runtime.tasks.lookup 0).isSome) &&
      (history.head?.any fun y => y.event == .task 1 (.inr (.opened 0 (.ok ()))) && y.output == []) &&
      (history.tail.head?.any fun x =>
        x.event == .task 0 (.inr (.pollRecvFrom 0)) && x.before.any firstReceivesInVain))
    (by decide +kernel)
  simp only [Bool.and_eq_true] at checked
  obtain ⟨⟨lives, last⟩, first⟩ := checked
  obtain ⟨ctx, rfl, lives⟩ := (Option.any_eq_true _ _).mp lives
  obtain ⟨task, live⟩ := Option.isSome_iff_exists.mp lives
  obtain ⟨y, newest, opened⟩ := (Option.any_eq_true _ _).mp last
  obtain ⟨x, second, received⟩ := (Option.any_eq_true _ _).mp first
  obtain ⟨rest, rfl⟩ := List.head?_eq_some_iff.mp newest
  obtain ⟨earlier, rfl⟩ := List.head?_eq_some_iff.mp second
  simp only [Bool.and_eq_true, beq_iff_eq] at opened received
  obtain ⟨before, event, outputs, after⟩ := x
  obtain ⟨rfl, vain⟩ := received
  obtain ⟨ctx', rfl, vain⟩ := (Option.any_eq_true _ _).mp vain
  have polled : PollsInVain ⟨some ctx', .task 0 (.inr (.pollRecvFrom 0)), outputs, after⟩ 0 :=
    firstReceivesInVain_polls vain
  have run : CoreRun _ _ ([y] ++ _ :: earlier) (some ctx) := run
  refine ⟨y, _, earlier, ctx, task, run, polled, opened.1, live, ?_⟩
  exact (no_lost_wakeup Reference.api Reference.poll_laws run polled live (by simp [opened.2])).1

end StunnelIos
