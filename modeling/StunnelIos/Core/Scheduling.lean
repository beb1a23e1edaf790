import StunnelIos.Library.Reordering
import StunnelIos.Core.HandleOwnership
import StunnelIos.Core.Locality

/-! The scheduler does not matter. The turns of the sessions run on the threads of the
runtime in any order; a turn sees and changes only what belongs to its own session, so turns
of different sessions commute, up to the order of entries in maps that have none. -/
namespace StunnelIos
variable {S : Smoltcp}

/-- The session that takes the step; nobody for the calls of the C side. -/
def Event.session : Event → Option TaskId
  | .task id _ | .drop id => some id
  | _ => none

/-- The session that an output belongs to; nobody for the packets to the C side. -/
def Output.session : Output → Option TaskId
  | .callback _ _ _ => none
  | .wake id | .spawned id | .streamed id _ _ _ | .written id _ | .shutdown id
  | .outboundSend id _ _ | .tunnelSend id _ _ | .enqueued id _ _ => some id

/-- The same core with the entries of its hash maps in another order. -/
def CoreContext.reorder (ctx : CoreContext S) (wakers : AList fun _ : SocketHandle => TaskId)
    (tasks : AList fun _ : TaskId => Task) : CoreContext S :=
  { ctx with
    engine := { ctx.engine with value := { ctx.engine.value with wakers := wakers } }
    runtime := { ctx.runtime with tasks := tasks } }

/-- Two cores that differ in the order of entries only. -/
def CoreContext.Same (ctx ctx' : CoreContext S) : Prop :=
  ∃ wakers tasks, ctx.engine.value.wakers.entries.Perm wakers.entries ∧
    ctx.runtime.tasks.entries.Perm tasks.entries ∧ ctx' = ctx.reorder wakers tasks

theorem CoreContext.Same.refl (ctx : CoreContext S) : ctx.Same ctx :=
  ⟨_, _, .refl _, .refl _, rfl⟩

theorem CoreContext.Same.symm {ctx ctx' : CoreContext S} (same : ctx.Same ctx') :
    ctx'.Same ctx := by
  obtain ⟨wakers, tasks, waking, running, rfl⟩ := same
  exact ⟨_, _, waking.symm, running.symm, rfl⟩

theorem CoreContext.Same.trans {ctx ctx' ctx'' : CoreContext S} (same : ctx.Same ctx')
    (same' : ctx'.Same ctx'') : ctx.Same ctx'' := by
  obtain ⟨_, _, waking, running, rfl⟩ := same
  obtain ⟨_, _, waking', running', rfl⟩ := same'
  exact ⟨_, _, waking.trans waking', running.trans running', rfl⟩

/-- What becomes of the entry of a task. -/
inductive TaskChange where
  | keep
  | set (task : Task)
  | remove

def TaskChange.apply (id : TaskId) (tasks : AList fun _ : TaskId => Task) :
    TaskChange → AList fun _ : TaskId => Task
  | .keep => tasks
  | .set task => tasks.insert id task
  | .remove => tasks.erase id

/-- What one step of a session does to its core: it changes the session's slot and entry, may
leave a waker, and may make the table of UDP sessions forget the slot. -/
structure Move (S : Smoltcp) where
  handle : SocketHandle
  slot : SlotChange S
  waits : Bool
  forgets : Bool
  task : TaskChange
  outputs : List Output

def Move.apply (move : Move S) (id : TaskId) (ctx : CoreContext S) : CoreContext S :=
  { ctx with
    engine := .new { ctx.engine.value.touch move.handle id move.slot move.waits with
      udpSessions :=
        if move.forgets then ctx.engine.value.udpSessions.retain fun entry => entry.2 != move.handle
        else ctx.engine.value.udpSessions }
    runtime := { ctx.runtime with tasks := move.task.apply id ctx.runtime.tasks } }

section
variable {ctx ctx' : CoreContext S} {id id' : TaskId} {move move' : Move S}

theorem TaskChange.lookup_apply (change : TaskChange) (tasks : AList fun _ : TaskId => Task)
    (apart : id' ≠ id) : (change.apply id tasks).lookup id' = tasks.lookup id' := by
  cases change with
  | keep => rfl
  | set => exact AList.lookup_insert_ne apart
  | remove => exact AList.lookup_erase_ne apart

theorem SlotChange.get_apply {handle other : SocketHandle} {sockets : SocketSet S}
    (change : SlotChange S) (inside : handle ≤ sockets.slots.length) (apart : other ≠ handle) :
    (change.apply handle sockets).get other = sockets.get other := by
  cases change with
  | keep => rfl
  | put => exact SlotTable.get_put_ne inside apart
  | clear => exact SlotTable.get_remove.trans (if_neg apart)

theorem SlotChange.apply_comm {handle handle' : SocketHandle} {sockets : SocketSet S}
    (change change' : SlotChange S) (apart : handle ≠ handle')
    (inside : handle < sockets.slots.length) (inside' : handle' < sockets.slots.length) :
    change'.apply handle' (change.apply handle sockets) =
      change.apply handle (change'.apply handle' sockets) := by
  cases change with
  | keep => rfl
  | put socket =>
      cases change' with
      | keep => rfl
      | put => exact SlotTable.put_put_comm apart inside inside'
      | clear => exact SlotTable.remove_put_comm apart inside
  | clear =>
      cases change' with
      | keep => rfl
      | put => exact (SlotTable.remove_put_comm (Ne.symm apart) inside').symm
      | clear => exact SlotTable.remove_remove_comm

theorem TaskChange.apply_comm (change change' : TaskChange)
    (tasks : AList fun _ : TaskId => Task) (apart : id ≠ id') :
    (change'.apply id' (change.apply id tasks)).entries.Perm
      (change.apply id (change'.apply id' tasks)).entries := by
  cases change with
  | keep => exact .refl _
  | set task =>
      cases change' with
      | keep => exact .refl _
      | set => exact AList.insert_insert_of_ne _ apart
      | remove => exact .of_eq (congrArg _ (AList.erase_insert_comm (β := fun _ => Task) apart task tasks))
  | remove =>
      cases change' with
      | keep => exact .refl _
      | set task =>
          exact .of_eq (congrArg _
            (AList.erase_insert_comm (β := fun _ => Task) (Ne.symm apart) task tasks).symm)
      | remove => exact .of_eq (congrArg _ (AList.erase_erase _ _ _))

theorem TaskChange.perm_apply {tasks tasks' : AList fun _ : TaskId => Task} (change : TaskChange)
    (running : tasks.entries.Perm tasks'.entries) :
    (change.apply id tasks).entries.Perm (change.apply id tasks').entries := by
  cases change with
  | keep => exact running
  | set => exact AList.perm_insert running
  | remove => exact AList.perm_erase running

theorem Move.apply_same (move : Move S) (same : ctx.Same ctx') :
    (move.apply id ctx).Same (move.apply id ctx') := by
  obtain ⟨wakers, tasks, waking, running, rfl⟩ := same
  refine ⟨(move.apply id (ctx.reorder wakers tasks)).engine.value.wakers, _, ?_,
    move.task.perm_apply running, rfl⟩
  change (if move.waits then _ else _ : AList _).entries.Perm (if move.waits then _ else _ : AList _).entries
  split
  · exact AList.perm_insert waking
  · exact waking

/-- Moves of different sessions commute. -/
theorem Move.apply_comm (move move' : Move S) (ctx : CoreContext S) (apart : id ≠ id')
    (slots : move.handle ≠ move'.handle)
    (inside : move.handle < ctx.engine.value.sockets.slots.length)
    (inside' : move'.handle < ctx.engine.value.sockets.slots.length) :
    (move'.apply id' (move.apply id ctx)).Same (move.apply id (move'.apply id' ctx)) := by
  have sockets := move.slot.apply_comm move'.slot slots inside inside'
  have forgotten (table : AList fun _ : SocketAddr => SocketHandle) :
      (if move'.forgets then
        (if move.forgets then table.retain fun entry => entry.2 != move.handle else table).retain
          fun entry => entry.2 != move'.handle
      else if move.forgets then table.retain fun entry => entry.2 != move.handle else table) =
      if move.forgets then
        (if move'.forgets then table.retain fun entry => entry.2 != move'.handle else table).retain
          fun entry => entry.2 != move.handle
      else if move'.forgets then table.retain fun entry => entry.2 != move'.handle else table := by
    cases move.forgets <;> cases move'.forgets <;> first | rfl | exact AList.retain_retain_comm _ _ _
  refine ⟨(move.apply id (move'.apply id' ctx)).engine.value.wakers,
    (move.apply id (move'.apply id' ctx)).runtime.tasks, ?_,
    move.task.apply_comm move'.task _ apart, ?_⟩
  · simp only [apply, StunnelEngine.touch, Mutex.new]
    cases move.waits <;> cases move'.waits
    · exact .refl _
    · exact .refl _
    · exact .refl _
    · exact AList.insert_insert_of_ne _ slots
  · simp only [apply, CoreContext.reorder, StunnelEngine.touch, Mutex.new, sockets, forgotten]

/-- All that a session can see of its core is alike. -/
structure SeenAlike (id : TaskId) (ctx ctx' : CoreContext S) : Prop where
  config : ctx'.config = ctx.config
  task : ctx'.runtime.tasks.lookup id = ctx.runtime.tasks.lookup id
  socket : ∀ task, ctx.runtime.tasks.lookup id = some task →
    ctx'.engine.value.sockets.get task.handle = ctx.engine.value.sockets.get task.handle

/-- What a session that has nothing to do, or makes a move, leaves of the core. -/
def Move.after (move : Option (Move S)) (id : TaskId) (ctx : CoreContext S) : CoreContext S :=
  move.elim ctx (·.apply id ctx)

def Move.said (move : Option (Move S)) : List Output := move.elim [] (·.outputs)

/-- The turns of a session have outputs of the session only. -/
theorem Change.said_by {event : Sum TcpEvent UdpEvent} {outputs : List Output}
    (changed : Change ctx (.task id event) outputs ctx') :
    ∀ output ∈ outputs, output.session = some id := by
  intro output said
  cases changed with
  | control known => contradiction
  | absent | mismatched => contradiction
  | tcp _ _ turn =>
      cases turn <;> simp only [List.mem_singleton, List.not_mem_nil] at said
      all_goals
        subst said
        rfl
  | udp _ _ turn =>
      cases turn <;> simp only [List.mem_singleton, List.not_mem_nil] at said
      case sent =>
        subst said
        rw [UdpSession.forwarded]
        split <;> rfl
      case replied =>
        subst said
        rfl

/-- The turn of a session is the same move in all cores that the session cannot tell apart. -/
theorem Sound.turn_move (api : S.ApiLaws) (sound : Sound (Serves S) ctx) (id : TaskId)
    (event : Sum TcpEvent UdpEvent) :
    ∃ move : Option (Move S),
      (∀ m ∈ move, ∃ task, ctx.runtime.tasks.lookup id = some task ∧ m.handle = task.handle) ∧
      ∀ ctx', Sound (Serves S) ctx' → SeenAlike id ctx ctx' →
        ctx'.stepTask id event = (Move.after move id ctx', Move.said move) := by
  cases live : ctx.runtime.tasks.lookup id with
  | none =>
      refine ⟨none, by simp, fun ctx' _ seen => ?_⟩
      simp [CoreContext.stepTask, seen.task, live, Move.after, Move.said]
  | some task =>
      obtain ⟨result, stepped⟩ := task.step_local id
        (ctx.engine.value.sockets.get task.handle) ctx.config event
      obtain ⟨_, _, _, taken, _⟩ := sound.task_step api (serves_stable api) live event
      obtain panic | ⟨task', slot, waits, outputs⟩ := result
      · cases (stepped ctx.engine.value rfl).symm.trans taken
      · refine ⟨some ⟨task.handle, slot, waits, false, .set task', outputs⟩,
          by rintro m ⟨⟩; exact ⟨task, rfl, rfl⟩, fun ctx' sound' seen => ?_⟩
        have moved := stepped ctx'.engine.value (seen.socket task live)
        rw [← seen.config] at moved
        simp only [CoreContext.stepTask, seen.task, live, sound'.lock_ok, Except.bind, moved,
          Except.map]
        rfl

theorem Sound.drop_move (sound : Sound (Serves S) ctx) (id : TaskId) :
    ∃ move : Option (Move S),
      (∀ m ∈ move, ∃ task, ctx.runtime.tasks.lookup id = some task ∧ m.handle = task.handle) ∧
      ∀ ctx', Sound (Serves S) ctx' → SeenAlike id ctx ctx' →
        ctx'.dropTask id = Move.after move id ctx' ∧ Move.said move = [] := by
  cases live : ctx.runtime.tasks.lookup id with
  | none =>
      refine ⟨none, by simp, fun ctx' _ seen => ?_⟩
      simp [CoreContext.dropTask, seen.task, live, Move.after, Move.said]
  | some task =>
      cases finished : task.isFinished with
      | false =>
          refine ⟨none, by simp, fun ctx' _ seen => ?_⟩
          simp [CoreContext.dropTask, seen.task, live, finished, Move.after, Move.said]
      | true =>
          obtain ⟨socket, held, _⟩ := sound.owned.serves id task live
          cases task with
          | tcp session =>
              refine ⟨some ⟨session.stream.handle, .clear, false, false, .remove, []⟩,
                by rintro m ⟨⟩; exact ⟨_, rfl, rfl⟩, fun ctx' sound' seen => ?_⟩
              have held' := (seen.socket _ live).trans held
              simp only [Task.handle] at held'
              simp only [CoreContext.dropTask, seen.task, live, finished, if_true, sound'.lock_ok,
                Except.bind, Task.drop, TcpStream.drop, SocketSet.remove, held', ok_bind, pure_eq_ok]
              exact ⟨rfl, rfl⟩
          | udp session =>
              refine ⟨some ⟨session.socket.handle, .clear, false, true, .remove, []⟩,
                by rintro m ⟨⟩; exact ⟨_, rfl, rfl⟩, fun ctx' sound' seen => ?_⟩
              have held' := (seen.socket _ live).trans held
              simp only [Task.handle] at held'
              simp only [CoreContext.dropTask, seen.task, live, finished, if_true, sound'.lock_ok,
                Except.bind, Task.drop, UdpSocket.drop, SocketSet.remove, held', ok_bind, pure_eq_ok]
              exact ⟨rfl, rfl⟩

/-- A step of a session is one move in all cores that the session cannot tell apart. -/
theorem Sound.session_move (api : S.ApiLaws) (sound : Sound (Serves S) ctx) {event : Event}
    (own : event.session = some id) :
    ∃ move : Option (Move S),
      (∀ m ∈ move, ∃ task, ctx.runtime.tasks.lookup id = some task ∧ m.handle = task.handle) ∧
      (∀ output ∈ Move.said move, output.session = some id) ∧
      ∀ ctx', Sound (Serves S) ctx' → SeenAlike id ctx ctx' →
        Handle.step (some ctx') event = .ok (some (Move.after move id ctx'), Move.said move) := by
  cases event with
  | task id' event =>
      cases own
      obtain ⟨move, slot, moved⟩ := sound.turn_move api id event
      refine ⟨move, slot, ?_, fun ctx' sound' seen => ?_⟩
      · have changed := stepTask_change api (serves_stable api) sound id event
        rw [moved ctx sound ⟨rfl, rfl, fun _ _ => rfl⟩] at changed
        exact changed.said_by
      · simp only [Handle.step, moved ctx' sound' seen]
  | drop id' =>
      cases own
      obtain ⟨move, slot, moved⟩ := sound.drop_move id
      have silent := (moved ctx sound ⟨rfl, rfl, fun _ _ => rfl⟩).2
      refine ⟨move, slot, by simp [silent], fun ctx' sound' seen => ?_⟩
      simp only [Handle.step, Option.map_some, (moved ctx' sound' seen).1, silent]
  | setPacketCallback | clearPacketCallback | start | processPacket | stop => contradiction

theorem CoreContext.Same.seenAlike (same : ctx.Same ctx') (id : TaskId) :
    SeenAlike id ctx ctx' := by
  obtain ⟨_, _, _, running, rfl⟩ := same
  exact ⟨rfl, (AList.perm_lookup running).symm, fun _ _ => rfl⟩

theorem Sound.same {R : Task → Socket S.TcpSocket S.UdpSocket → Prop} (sound : Sound R ctx)
    (same : ctx.Same ctx') : Sound R ctx' := by
  obtain ⟨wakers, tasks, _, running, rfl⟩ := same
  have lookups : ∀ id, tasks.lookup id = ctx.runtime.tasks.lookup id := fun id =>
    (AList.perm_lookup running).symm
  obtain ⟨lock, queue, config, ⟨serves, owner, unique⟩, indexed, fresh⟩ := sound
  simp only [← lookups] at serves owner unique fresh
  refine ⟨lock, queue, config, ⟨serves, owner, unique⟩, fun src h => ?_, fresh⟩
  change ctx.engine.value.udpSessions.lookup src = some h ↔
    ∃ id task, tasks.lookup id = some task ∧ Task.source task = some src ∧ task.handle = h
  simpa only [lookups] using indexed src h

theorem Move.after_same (move : Option (Move S)) (same : ctx.Same ctx') :
    (Move.after move id ctx).Same (Move.after move id ctx') := by
  cases move with
  | none => exact same
  | some move => exact move.apply_same same

theorem Sound.seenAlike_after {R : Task → Socket S.TcpSocket S.UdpSocket → Prop}
    (sound : Sound R ctx) (apart : id' ≠ id) {move : Option (Move S)}
    (slot : ∀ m ∈ move, ∃ task, ctx.runtime.tasks.lookup id = some task ∧ m.handle = task.handle) :
    SeenAlike id' ctx (Move.after move id ctx) := by
  cases move with
  | none => exact ⟨rfl, rfl, fun _ _ => rfl⟩
  | some move =>
      obtain ⟨task, live, same⟩ := slot move rfl
      obtain ⟨socket, held, _⟩ := sound.owned.serves id task live
      refine ⟨rfl, move.task.lookup_apply _ apart, fun other live' => ?_⟩
      refine move.slot.get_apply ?_ ?_
      · rw [same]
        exact Nat.le_of_lt (SlotTable.lt_of_get held)
      · intro shared
        exact apart (sound.owned.unique id' id _ _ live' live (shared.trans same))

theorem Sound.after_comm {R : Task → Socket S.TcpSocket S.UdpSocket → Prop}
    (sound : Sound R ctx) (apart : id ≠ id') {move move' : Option (Move S)}
    (slot : ∀ m ∈ move, ∃ task, ctx.runtime.tasks.lookup id = some task ∧ m.handle = task.handle)
    (slot' : ∀ m ∈ move', ∃ task,
      ctx.runtime.tasks.lookup id' = some task ∧ m.handle = task.handle) :
    (Move.after move' id' (Move.after move id ctx)).Same
      (Move.after move id (Move.after move' id' ctx)) := by
  cases move with
  | none => exact .refl _
  | some move =>
      cases move' with
      | none => exact .refl _
      | some move' =>
          obtain ⟨task, live, same⟩ := slot move rfl
          obtain ⟨task', live', same'⟩ := slot' move' rfl
          obtain ⟨_, held, _⟩ := sound.owned.serves id task live
          obtain ⟨_, held', _⟩ := sound.owned.serves id' task' live'
          refine move.apply_comm move' ctx apart ?_ ?_ ?_
          · rw [same, same']
            exact fun shared => apart (sound.owned.unique id id' _ _ live live' shared)
          · exact same ▸ SlotTable.lt_of_get held
          · exact same' ▸ SlotTable.lt_of_get held'

end

/-- An interception looks at neither the wakers nor the tasks. -/
def Framed (engine : StunnelEngine S) (next : TaskId)
    (call : StunnelEngine S → Runtime → Except Panic (StunnelEngine S × Runtime × List Output)) :
    Prop :=
  (∃ panic, ∀ wakers tasks, call { engine with wakers := wakers } ⟨tasks, next⟩ = .error panic) ∨
  ∃ engine' : StunnelEngine S, ∃ opened : Option Task, ∃ outputs, ∀ wakers tasks,
    call { engine with wakers := wakers } ⟨tasks, next⟩ =
      .ok ({ engine' with wakers := wakers },
        opened.elim ⟨tasks, next⟩ (Runtime.spawn ⟨tasks, next⟩), outputs)

theorem handleTcpPacket_framed (engine : StunnelEngine S) (next : TaskId) (payload : Bytes)
    (dstAddr : Ipv4Address) (isDirect : Bool) :
    Framed engine next fun engine runtime =>
      handleTcpPacket engine runtime payload dstAddr isDirect := by
  unfold Framed handleTcpPacket
  cases S.tcpNewChecked payload with
  | none => exact .inr ⟨engine, none, [], fun _ _ => rfl⟩
  | some tcpPacket =>
      cases other : !tcpPacket.syn || tcpPacket.ack with
      | true => exact .inr ⟨engine, none, [], fun _ _ => by simp only [other]; rfl⟩
      | false =>
          cases listening : S.tcpListen (S.tcpNew 65536 65536)
              ⟨some (.v4 dstAddr), tcpPacket.dstPort⟩ with
          | error error =>
              exact .inl ⟨.listen error, fun _ _ => by simp [other, listening]⟩
          | ok socket =>
              exact .inr ⟨engine.setSocket (S.freeSlot engine.sockets) (.tcp socket), some (.tcp
                ⟨⟨S.freeSlot engine.sockets⟩, isDirect, .v4 dstAddr tcpPacket.dstPort, .opening⟩),
                [.spawned next], fun _ _ => by simp [other, listening, StunnelEngine.setSocket]⟩

theorem handleUdpPacket_framed (engine : StunnelEngine S) (next : TaskId) (payload : Bytes)
    (srcAddr dstAddr : Ipv4Address) (isDirect : Bool) :
    Framed engine next fun engine runtime =>
      handleUdpPacket engine runtime payload srcAddr dstAddr isDirect := by
  unfold Framed handleUdpPacket
  cases S.udpNewChecked payload with
  | none => exact .inr ⟨engine, none, [], fun _ _ => rfl⟩
  | some udpPacket =>
      cases known : (engine.udpSessions.lookup (.v4 srcAddr udpPacket.srcPort)).isSome with
      | true => exact .inr ⟨engine, none, [], fun _ _ => by simp [known]⟩
      | false =>
          cases binding : S.udpBind (S.udpNew 16 65536)
              ⟨some (.v4 dstAddr), udpPacket.dstPort⟩ with
          | error error => exact .inl ⟨.bind error, fun _ _ => by simp [known, binding]⟩
          | ok socket =>
              exact .inr ⟨{ engine.setSocket (S.freeSlot engine.sockets) (.udp socket) with
                  udpSessions := engine.udpSessions.insert (.v4 srcAddr udpPacket.srcPort)
                    (S.freeSlot engine.sockets) },
                some (.udp ⟨⟨S.freeSlot engine.sockets⟩, .v4 srcAddr udpPacket.srcPort,
                  .v4 dstAddr udpPacket.dstPort, isDirect, .opening⟩),
                [.spawned next], fun _ _ => by simp [known, binding, StunnelEngine.setSocket]⟩

theorem interceptPacket_framed (engine : StunnelEngine S) (next : TaskId) (bytes : Bytes) :
    Framed engine next fun engine runtime => interceptPacket engine runtime bytes := by
  unfold interceptPacket
  cases S.ipv4NewChecked bytes with
  | none => exact .inr ⟨engine, none, [], fun _ _ => rfl⟩
  | some ipPacket =>
      cases protocol : ipPacket.nextHeader with
      | other => exact .inr ⟨engine, none, [], fun _ _ => by simp only [protocol]; rfl⟩
      | tcp =>
          simp only [protocol]
          exact handleTcpPacket_framed engine next _ _ _
      | udp =>
          simp only [protocol]
          exact handleUdpPacket_framed engine next _ _ _ _

/-- Two handles are null, or lead to cores that differ in the order of entries only. -/
inductive Handle.Same : Handle S → Handle S → Prop where
  | null : Handle.Same none none
  | core {ctx ctx'} : CoreContext.Same ctx ctx' → Handle.Same (some ctx) (some ctx')

def Handle.SoundSame (handle handle' : Handle S) : Prop :=
  Handle.Sound (Serves S) handle ∧ Handle.Same handle handle'

section
variable {ctx ctx' : CoreContext S} {handle handle' handle'' : Handle S}

theorem Handle.SoundSame.core (sound : StunnelIos.Sound (Serves S) ctx) (same : ctx.Same ctx') :
    Handle.SoundSame (some ctx) (some ctx') :=
  ⟨by rintro _ ⟨⟩; exact sound, .core same⟩

theorem Handle.SoundSame.symm (same : Handle.SoundSame handle handle') :
    Handle.SoundSame handle' handle := by
  obtain ⟨sound, same⟩ := same
  cases same with
  | null => exact ⟨sound, .null⟩
  | core same => exact .core ((sound _ rfl).same same) same.symm

theorem Handle.SoundSame.trans (same : Handle.SoundSame handle handle')
    (same' : Handle.SoundSame handle' handle'') : Handle.SoundSame handle handle'' := by
  obtain ⟨sound, same⟩ := same
  obtain ⟨_, same'⟩ := same'
  cases same with
  | null => exact ⟨sound, same'⟩
  | core same =>
      cases same' with
      | core same' => exact .core (sound _ rfl) (same.trans same')

open Reordering

/-- Everyone is woken alike, whatever the order of the wakers. -/
theorem alike_wakes {wakers wakers' : AList fun _ : SocketHandle => TaskId}
    (waking : wakers.entries.Perm wakers'.entries) :
    Alike Output.session (wakers.values.map .wake) (wakers'.values.map .wake) := by
  intro who
  have values : wakers.values.Perm wakers'.values := waking.map _
  have counted (id : TaskId) (ids : List TaskId) :
      (ids.map Output.wake).filter (Output.session · = some id) =
        List.replicate (ids.count id) (.wake id) := by
    rw [← List.map_replicate, ← List.filter_beq, List.filter_map]
    refine congrArg _ (List.filter_congr fun other _ => ?_)
    simp only [Function.comp, Output.session, Option.some.injEq, beq_eq_decide]
  have unheard (ids : List TaskId) : (ids.map Output.wake).filter (Output.session · = none) = [] := by
    rw [List.filter_map, List.map_eq_nil_iff, List.filter_eq_nil_iff]
    exact fun _ _ => by simp [Output.session]
  cases who with
  | none => rw [unheard, unheard]
  | some id => rw [counted, counted, values.count_eq]

/-- A packet does the same to cores that are the same. -/
theorem agree_processPacket (api : S.ApiLaws) (poll : S.PollLaws) (sound : Sound (Serves S) ctx)
    (same : ctx.Same ctx') (packet : Option Bytes) (now : Instant) :
    Agree Output.session Handle.SoundSame (Handle.step (some ctx) (.processPacket packet now))
      (Handle.step (some ctx') (.processPacket packet now)) := by
  have unchanged : Agree (π := Panic) Output.session Handle.SoundSame (.ok (some ctx, []))
      (.ok (some ctx', [])) := .returned (.core sound same) (.refl _)
  cases packet with
  | none => exact unchanged
  | some bytes =>
      have sound' := sound.same same
      obtain ⟨wakers, tasks, waking, running, rfl⟩ := same
      cases started : ctx.started with
      | false =>
          have started' : (ctx.reorder wakers tasks).started = false := started
          simp only [Handle.step, stunnelProcessPacket, processPacket_not_started started,
            processPacket_not_started started', Except.map]
          exact unchanged
      | true =>
          have started' : (ctx.reorder wakers tasks).started = true := started
          obtain ⟨panic, refused⟩ | ⟨engine, opened, outputs, passed⟩ :=
            interceptPacket_framed ctx.engine.value ctx.runtime.next bytes
          · have first := processPacket_error sound started now
              (refused ctx.engine.value.wakers ctx.runtime.tasks)
            have second := processPacket_error sound' started' now (refused wakers tasks)
            simp only [Handle.step, stunnelProcessPacket, first, second, Except.map]
            exact .failed
          · have passed' := passed wakers tasks
            have passed := passed ctx.engine.value.wakers ctx.runtime.tasks
            have first := processPacket_ok sound started now passed (.of_ok api passed)
            have second := processPacket_ok sound' started' now passed' (.of_ok api passed')
            have after := (@Change.packet S ctx bytes now _ started passed
              (.of_ok api passed)).sound api poll (serves_stable api) sound
            simp only [Handle.step, stunnelProcessPacket, first, second, Except.map]
            refine .returned (.core after ?_) ?_
            · cases opened with
              | none => exact ⟨∅, tasks, .refl _, running, rfl⟩
              | some task =>
                  exact ⟨∅, tasks.insert ctx.runtime.next task, .refl _, AList.perm_insert running, rfl⟩
            · exact (Alike.refl _).append ((Alike.refl _).append (alike_wakes waking))

/-- The calls that set up or start a core see its device, and change it or the flag. -/
theorem Sound.control_step (sound : StunnelIos.Sound (Serves S) ctx) {event : Event}
    (control : event.isControl = true) :
    ∃ device started, ∀ ctx', ctx.Same ctx' →
      Handle.step (some ctx') event = .ok (some { ctx' with
        engine := .new { ctx'.engine.value with device := device }, started := started }, []) := by
  cases event with
  | setPacketCallback context callback =>
      refine ⟨{ ctx.engine.value.device with
        outboundCallback := some callback, outboundContext := context }, ctx.started, fun ctx' same => ?_⟩
      have lock := (sound.same same).lock_ok
      obtain ⟨_, _, _, _, rfl⟩ := same
      simp only [Handle.step, stunnelSetPacketCallback, CoreContext.setPacketCallback, lock, ok_bind,
        pure_eq_ok, Except.map]
      rfl
  | clearPacketCallback =>
      refine ⟨{ ctx.engine.value.device with outboundCallback := none, outboundContext := 0 },
        ctx.started, fun ctx' same => ?_⟩
      have lock := (sound.same same).lock_ok
      obtain ⟨_, _, _, _, rfl⟩ := same
      simp only [Handle.step, stunnelClearPacketCallback, CoreContext.clearPacketCallback, lock,
        ok_bind, pure_eq_ok, Except.map]
      rfl
  | start =>
      refine ⟨ctx.engine.value.device,
        if ctx.engine.value.device.outboundCallback.isNone then ctx.started else true,
        fun ctx' same => ?_⟩
      have sound' := sound.same same
      have device : ctx'.engine.value.device = ctx.engine.value.device := by
        obtain ⟨_, _, _, _, rfl⟩ := same
        rfl
      have started : ctx'.started = ctx.started := by
        obtain ⟨_, _, _, _, rfl⟩ := same
        rfl
      have unchanged : ({ ctx'.engine.value with device := ctx.engine.value.device } :
          StunnelEngine S) = ctx'.engine.value := by rw [← device]
      simp only [Handle.step, stunnelStart, CoreContext.start, sound'.lock_ok, ok_bind, device,
        unchanged, ← sound'.mutex, pure_eq_ok]
      split <;> simp only [Except.map, ← started]
  | processPacket | stop | task | drop => contradiction

theorem agree_step (api : S.ApiLaws) (poll : S.PollLaws) (event : Event)
    (same : Handle.SoundSame handle handle') :
    Agree Output.session Handle.SoundSame (Handle.step handle event) (Handle.step handle' event) := by
  obtain ⟨sound, same⟩ := same
  cases same with
  | null =>
      have silent : Handle.step (S := S) none event = .ok (none, []) := by
        cases event <;> rfl
      rw [silent]
      exact .returned ⟨sound, .null⟩ (.refl _)
  | @core ctx ctx' same =>
      have sound := sound ctx rfl
      have private_step (id : TaskId) (own : event.session = some id) :
          Agree Output.session Handle.SoundSame (Handle.step (some ctx) event)
            (Handle.step (some ctx') event) := by
        obtain ⟨move, slot, _, moved⟩ := sound.session_move api own
        have first := moved ctx sound ⟨rfl, rfl, fun _ _ => rfl⟩
        have second := moved ctx' (sound.same same) (same.seenAlike id)
        have after := Handle.Steps.sound api poll (serves_stable api)
          (by rintro _ ⟨⟩; exact sound) first
        rw [first, second]
        exact .returned (.core (after _ rfl) (Move.after_same move same)) (.refl _)
      have control_step (control : event.isControl = true) :
          Agree Output.session Handle.SoundSame (Handle.step (some ctx) event)
            (Handle.step (some ctx') event) := by
        obtain ⟨device, started, moved⟩ := sound.control_step control
        have first := moved ctx (.refl ctx)
        have after := Handle.Steps.sound api poll (serves_stable api)
          (by rintro _ ⟨⟩; exact sound) first
        rw [first, moved ctx' same]
        obtain ⟨wakers, tasks, waking, running, rfl⟩ := same
        exact .returned (.core (after _ rfl) ⟨wakers, tasks, waking, running, rfl⟩) (.refl _)
      cases event with
      | task id => exact private_step id rfl
      | drop id => exact private_step id rfl
      | processPacket packet now => exact agree_processPacket api poll sound same packet now
      | stop => exact .returned ⟨fun _ _ => by contradiction, .null⟩ (.refl _)
      | setPacketCallback | clearPacketCallback | start => exact control_step rfl

/-- Steps of different sessions may change places. -/
theorem agree_swap (api : S.ApiLaws) (poll : S.PollLaws) (event event' : Event)
    (sound : Handle.Sound (Serves S) handle) (independent : Independent Event.session event event') :
    Agree Output.session Handle.SoundSame (execute Handle.step handle [event, event'])
      (execute Handle.step handle [event', event]) := by
  obtain ⟨id, id', own, own', apart⟩ := independent
  cases handle with
  | none =>
      have silent (e : Event) : Handle.step (S := S) none e = .ok (none, []) := by
        cases e <;> rfl
      simp only [execute, silent, Except.map]
      exact .returned ⟨sound, .null⟩ (.refl _)
  | some ctx =>
      have sound := sound ctx rfl
      obtain ⟨move, slot, mine, moved⟩ := sound.session_move api own
      obtain ⟨move', slot', other, moved'⟩ := sound.session_move api own'
      have first := moved ctx sound ⟨rfl, rfl, fun _ _ => rfl⟩
      have first' := moved' ctx sound ⟨rfl, rfl, fun _ _ => rfl⟩
      have after := Handle.Steps.sound api poll (serves_stable api)
        (by rintro _ ⟨⟩; exact sound) first _ rfl
      have after' := Handle.Steps.sound api poll (serves_stable api)
        (by rintro _ ⟨⟩; exact sound) first' _ rfl
      have second := moved' _ after (sound.seenAlike_after (Ne.symm apart) slot)
      have second' := moved _ after' (sound.seenAlike_after apart slot')
      have last := Handle.Steps.sound api poll (serves_stable api)
        (by rintro _ ⟨⟩; exact after) second _ rfl
      simp only [execute, first, first', second, second', Except.map, List.append_nil]
      exact .returned (.core last (sound.after_comm apart slot slot')) (.swap apart mine other)

theorem handle_commuting (api : S.ApiLaws) (poll : S.PollLaws) :
    Commuting (Handle.step (S := S)) Event.session Output.session Handle.SoundSame where
  symm := .symm
  trans := .trans
  step event same := agree_step api poll event same
  swap event event' same independent := agree_swap api poll event event' same.1 independent

/-- The scheduler of the runtime decides nothing: the events of a run in any other order that
each session sees alike, with the calls of the C side among its own steps, make a run as well.
It ends with the same core, and every session has had the same outputs in the same order, as
have the packets for the C side. -/
theorem CoreRun.reordered (api : S.ApiLaws) (poll : S.PollLaws) {config : AppConfig}
    {history : Runs.History (Handle S) Event (List Output)} (run : CoreRun S config history handle)
    {events : List Event}
    (alike : ∀ who, seen Event.session who (eventsOf history) = seen Event.session who events) :
    ∃ history' handle', CoreRun S config history' handle' ∧ eventsOf history' = events ∧
      Handle.Same handle handle' ∧
      Alike Output.session (outputsOf history) (outputsOf history') := by
  obtain ⟨ctx, created, run⟩ := run
  have sound := CoreRun.sound api poll (serves_stable api) ⟨ctx, created, .nil⟩ ctx rfl
  have agree := (handle_commuting api poll).agree_reordered (.core sound (.refl ctx))
    (reordered_iff_seen.mpr alike)
  rw [execute_of_run run] at agree
  generalize executed : execute Handle.step (some ctx) events = outcome at agree
  cases agree with
  | @returned _ handle' _ outputs' same alike =>
      obtain ⟨history', run', same_events, said⟩ := run_of_execute .nil executed
      rw [List.append_nil] at run'
      exact ⟨history', handle', ⟨ctx, created, run'⟩, same_events, same.2, said ▸ alike⟩

end

/-- Two sessions of the host are opened. -/
def twoQueries : List Event :=
  startUp ++ [.processPacket (some (Wire.udpFrame hostAddr tunAddr 5353 53 [1, 2, 3])) 0,
    .processPacket (some (Wire.udpFrame hostAddr tunAddr 5354 53 [4])) 0]

/-- What a session does until its first datagram is sent on. -/
def sendsQuery (id : TaskId) : List Event :=
  [.task id (.inr (.opened 0 (.ok ()))), .task id (.inr (.pollRecvFrom 1)),
    .task id (.inr (.sent (.ok ())))]

/-- The second session may go first. -/
theorem reordered_queries : ∃ history handle history' handle',
    CoreRun Reference.stack quicConfig history handle ∧
    CoreRun Reference.stack quicConfig history' handle' ∧
    Reordering.eventsOf history = twoQueries ++ sendsQuery 0 ++ sendsQuery 1 ∧
    Reordering.eventsOf history' = twoQueries ++ sendsQuery 1 ++ sendsQuery 0 ∧
    Handle.Same handle handle' := by
  obtain ⟨history, handle, run, passed⟩ := CoreContext.replay_run Reference.stack quicConfig
    (twoQueries ++ sendsQuery 0 ++ sendsQuery 1)
    (fun history _ => Reordering.eventsOf history == twoQueries ++ sendsQuery 0 ++ sendsQuery 1)
    (by decide +kernel)
  have taken := eq_of_beq passed
  have alike : ∀ who, Reordering.seen Event.session who (Reordering.eventsOf history) =
      Reordering.seen Event.session who (twoQueries ++ sendsQuery 1 ++ sendsQuery 0) := by
    rw [taken]
    rintro (_ | _ | _ | id) <;> rfl
  obtain ⟨history', handle', run', taken', same, _⟩ :=
    run.reordered Reference.api Reference.poll_laws alike
  exact ⟨history, handle, history', handle', run, run', taken, taken', same⟩

end StunnelIos
