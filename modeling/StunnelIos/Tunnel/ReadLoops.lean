import StunnelIos.Library.Owned
import StunnelIos.Library.Retain
import StunnelIos.Tunnel.Answers

/-! The loops that read packets. Each start that succeeds sets one going, which goes on as long
as there is a core; what a read brings is given to the core that was there when it came. -/
namespace StunnelIos

/-- The batch of a handler, with the core that was there. -/
def batchOf (id : HandlerId) : ReadHistory → Option ReadHandler
  | [] => none
  | x :: earlier =>
      match x.event with
      | .packets batch =>
          if x.before.nextHandler = id ∧ x.before.reads ≠ 0 then
            x.before.provider.rustHandle.map fun handle => ⟨handle, batch⟩
          else batchOf id earlier
      | _ => batchOf id earlier

def ReadOutput.given : ReadOutput → Option (CoreHandle × Bytes)
  | .processPacket handle packet => some (handle, packet)
  | .action _ => none

def givenBy (id : HandlerId) : ReadHistory → List (CoreHandle × Bytes)
  | [] => []
  | x :: earlier => givenBy id earlier ++
      match x.event with
      | .handler other => if other = id then x.output.filterMap ReadOutput.given else []
      | _ => []

def ReadHandler.left (handler : ReadHandler) : List (CoreHandle × Bytes) :=
  handler.packets.filterMap fun packet => packet.map fun packet => (handler.handle, packet)

def TunnelAction.reads : TunnelAction → Bool
  | .readPackets => true
  | _ => false

def TunnelAction.succeeds : TunnelAction → Bool
  | .completeStart _ none => true
  | _ => false

/-- The reads that completed when there was no core, which ends their loop. -/
def loopsEnded : ReadHistory → Nat
  | [] => 0
  | x :: earlier => loopsEnded earlier +
      match x.event with
      | .packets _ =>
          if x.before.reads ≠ 0 ∧ x.before.provider.rustHandle = none then 1 else 0
      | _ => 0

/-- The loops that go on: in a read, or in a handler. -/
def PacketTunnel.loops (tunnel : PacketTunnel) : Nat :=
  tunnel.reads + tunnel.handlers.count fun _ => true

structure Reading (history : ReadHistory) (tunnel : PacketTunnel) : Prop where
  fresh : ∀ id handler, tunnel.handlers.lookup id = some handler → id < tunnel.nextHandler
  unused : ∀ id, tunnel.nextHandler ≤ id → batchOf id history = none ∧ givenBy id history = []
  given : ∀ id handler, batchOf id history = some handler →
    givenBy id history ++ (tunnel.handlers.lookup id).elim [] ReadHandler.left = handler.left
  loops : tunnel.loops + loopsEnded history = timesTaken TunnelAction.reads history

section
variable {history : ReadHistory} {tunnel tunnel' : PacketTunnel} {event : ReadEvent}
  {outputs : List ReadOutput}

/-- An action of a call leaves the handlers alone, and may request a read. -/
theorem PacketTunnel.proceed_spec {actions : List TunnelAction}
    (moved : tunnel.proceed actions = (tunnel', outputs)) :
    tunnel'.handlers = tunnel.handlers ∧ tunnel'.nextHandler = tunnel.nextHandler ∧
      tunnel'.reads = tunnel.reads + outputs.countP (ReadOutput.does TunnelAction.reads) := by
  unfold proceed at moved
  split at moved
  · cases moved
    exact ⟨rfl, rfl, rfl⟩
  · cases moved
    refine ⟨rfl, rfl, ?_⟩
    rename_i action _
    cases action <;> simp [perform, ReadOutput.does, TunnelAction.reads]

theorem Reading.proceeds (reading : Reading history tunnel)
    (own : (∃ call, event = .call call) ∨ event = .advance)
    (handlers : tunnel'.handlers = tunnel.handlers) (next : tunnel'.nextHandler = tunnel.nextHandler)
    (reads : tunnel'.reads = tunnel.reads + outputs.countP (ReadOutput.does TunnelAction.reads)) :
    Reading (⟨tunnel, event, outputs, tunnel'⟩ :: history) tunnel' := by
  have batch : ∀ id, batchOf id (⟨tunnel, event, outputs, tunnel'⟩ :: history) = batchOf id history := by
    obtain ⟨_, rfl⟩ | rfl := own <;> exact fun _ => rfl
  have given : ∀ id, givenBy id (⟨tunnel, event, outputs, tunnel'⟩ :: history) = givenBy id history := by
    obtain ⟨_, rfl⟩ | rfl := own <;> exact fun _ => List.append_nil _
  have ended : loopsEnded (⟨tunnel, event, outputs, tunnel'⟩ :: history) = loopsEnded history := by
    obtain ⟨_, rfl⟩ | rfl := own <;> rfl
  constructor
  · rw [handlers, next]
    exact reading.fresh
  · intro id later
    rw [batch, given]
    exact reading.unused id (next ▸ later)
  · intro id handler made
    rw [batch] at made
    rw [given, handlers]
    exact reading.given id handler made
  · have balance := reading.loops
    simp only [PacketTunnel.loops, handlers, reads, ended, timesTaken] at balance ⊢
    omega

theorem Reading.idle (reading : Reading history tunnel)
    (same : ∀ id, batchOf id (⟨tunnel, event, [], tunnel⟩ :: history) = batchOf id history)
    (ended : loopsEnded (⟨tunnel, event, [], tunnel⟩ :: history) = loopsEnded history) :
    Reading (⟨tunnel, event, [], tunnel⟩ :: history) tunnel := by
  have given : ∀ id, givenBy id (⟨tunnel, event, [], tunnel⟩ :: history) = givenBy id history := by
    intro id
    cases event <;> simp [givenBy]
  constructor
  · exact reading.fresh
  · intro id later
    rw [same, given]
    exact reading.unused id later
  · intro id handler made
    rw [same] at made
    rw [given]
    exact reading.given id handler made
  · rw [ended]
    simpa [timesTaken] using reading.loops

/-- A read that completes when there is no core ends its loop. -/
theorem Reading.ends (reading : Reading history tunnel) (batch : List (Option Bytes))
    (pending : tunnel.reads ≠ 0) (there : tunnel.provider.rustHandle = none) :
    Reading (⟨tunnel, .packets batch, [], tunnel.readCompleted batch⟩ :: history)
      (tunnel.readCompleted batch) := by
  have balance := reading.loops
  have given : ∀ id after, givenBy id (⟨tunnel, .packets batch, [], after⟩ :: history) =
      givenBy id history := fun _ _ => List.append_nil _
  have same : ∀ id after, batchOf id history = none →
      batchOf id (⟨tunnel, .packets batch, [], after⟩ :: history) = none := by
    intro id after unknown
    simp [batchOf, there, unknown]
  have made : ∀ id after handler,
      batchOf id (⟨tunnel, .packets batch, [], after⟩ :: history) = some handler →
      batchOf id history = some handler := by
    intro id after handler made
    simp only [batchOf, there, Option.map_none] at made
    split at made
    · cases made
    · exact made
  have stopped : tunnel.readCompleted batch = { tunnel with reads := tunnel.reads - 1 } := by
    simp only [PacketTunnel.readCompleted, there]
  rw [stopped]
  constructor
  · exact reading.fresh
  · intro id later
    obtain ⟨unknown, nothing⟩ := reading.unused id later
    exact ⟨same id _ unknown, (given id _).trans nothing⟩
  · intro id handler known
    rw [given]
    exact reading.given id handler (made id _ handler known)
  · simp only [PacketTunnel.loops, loopsEnded, timesTaken, there, pending, List.countP_nil,
      ne_eq, not_false_eq_true, and_self, if_true] at balance ⊢
    omega

/-- A read that completes when there is a core goes on in a handler of its own. -/
theorem Reading.begins (reading : Reading history tunnel) (batch : List (Option Bytes))
    (pending : tunnel.reads ≠ 0) {handle : CoreHandle}
    (there : tunnel.provider.rustHandle = some handle) :
    Reading (⟨tunnel, .packets batch, [], tunnel.readCompleted batch⟩ :: history)
      (tunnel.readCompleted batch) := by
  have balance := reading.loops
  have absent : tunnel.handlers.lookup tunnel.nextHandler = none := by
    cases found : tunnel.handlers.lookup tunnel.nextHandler with
    | none => rfl
    | some handler => exact absurd (reading.fresh _ _ found) (Nat.lt_irrefl _)
  have given : ∀ id after, givenBy id (⟨tunnel, .packets batch, [], after⟩ :: history) =
      givenBy id history := fun _ _ => List.append_nil _
  have own : ∀ after, batchOf tunnel.nextHandler (⟨tunnel, .packets batch, [], after⟩ :: history) =
      some ⟨handle, batch⟩ := by
    intro after
    simp [batchOf, there, pending]
  have others : ∀ id after, id ≠ tunnel.nextHandler →
      batchOf id (⟨tunnel, .packets batch, [], after⟩ :: history) = batchOf id history := by
    intro id after other
    simp [batchOf, other.symm]
  have begun : tunnel.readCompleted batch = { tunnel with
      reads := tunnel.reads - 1
      handlers := tunnel.handlers.insert tunnel.nextHandler ⟨handle, batch⟩
      nextHandler := tunnel.nextHandler + 1 } := by
    simp only [PacketTunnel.readCompleted, there]
  rw [begun]
  constructor
  · intro id handler found
    obtain ⟨rfl, _⟩ | ⟨_, found⟩ := AList.lookup_insert_eq_some.mp found
    · exact Nat.lt_succ_self _
    · exact Nat.lt_succ_of_lt (reading.fresh id handler found)
  · intro id later
    have other : id ≠ tunnel.nextHandler := Nat.ne_of_gt later
    rw [given, others id _ other]
    exact reading.unused id (Nat.le_of_succ_le later)
  · intro id handler known
    obtain rfl | other := eq_or_ne id tunnel.nextHandler
    · cases (own _).symm.trans known
      rw [given, (reading.unused _ (Nat.le_refl _)).2]
      simp
    · rw [others id _ other] at known
      rw [given, AList.lookup_insert_ne other]
      exact reading.given id handler known
  · simp only [PacketTunnel.loops, loopsEnded, timesTaken, there, AList.count_insert,
      AList.erase_of_lookup_none absent, List.countP_nil, reduceCtorEq, and_false, if_false,
      if_true] at balance ⊢
    omega

theorem Reading.gives (reading : Reading history tunnel) {id : HandlerId} {handler : ReadHandler}
    (found : tunnel.handlers.lookup id = some handler)
    {handlers : AList fun _ : HandlerId => ReadHandler} {reads : Nat}
    (others : ∀ other, other ≠ id → handlers.lookup other = tunnel.handlers.lookup other)
    (given : outputs.filterMap ReadOutput.given ++ (handlers.lookup id).elim [] ReadHandler.left =
      handler.left)
    (loops : reads + handlers.count (fun _ => true) = tunnel.loops)
    (silent : outputs.countP (ReadOutput.does TunnelAction.reads) = 0) :
    Reading (⟨tunnel, .handler id, outputs, { tunnel with reads := reads, handlers := handlers }⟩ ::
      history) { tunnel with reads := reads, handlers := handlers } := by
  have known := reading.fresh id handler found
  have beside : ∀ other, other ≠ id → givenBy other (⟨tunnel, .handler id, outputs,
      { tunnel with reads := reads, handlers := handlers }⟩ :: history) = givenBy other history := by
    intro other apart
    simp [givenBy, apart.symm]
  have own : givenBy id (⟨tunnel, .handler id, outputs,
      { tunnel with reads := reads, handlers := handlers }⟩ :: history) =
      givenBy id history ++ outputs.filterMap ReadOutput.given := by
    simp [givenBy]
  constructor
  · intro other handler' found'
    obtain rfl | apart := eq_or_ne other id
    · exact known
    · exact reading.fresh other handler' ((others other apart).symm.trans found')
  · intro other later
    rw [beside other (Nat.ne_of_gt (Nat.lt_of_lt_of_le known later))]
    exact reading.unused other later
  · intro other handler' made
    have before := reading.given other handler' made
    obtain rfl | apart := eq_or_ne other id
    · rw [found] at before
      rw [own, List.append_assoc, given]
      exact before
    · rw [beside other apart, others other apart]
      exact before
  · have balance := reading.loops
    simp only [PacketTunnel.loops, loopsEnded, timesTaken, silent] at balance loops ⊢
    omega

theorem Reading.handler (reading : Reading history tunnel) {id : HandlerId} {handler : ReadHandler}
    (found : tunnel.handlers.lookup id = some handler)
    (moved : tunnel.handle id handler = (tunnel', outputs)) :
    Reading (⟨tunnel, .handler id, outputs, tunnel'⟩ :: history) tunnel' := by
  have counted := AList.count_of_lookup (p := fun _ => true) found
  have replaced : ∀ handler', tunnel.reads + (tunnel.handlers.insert id handler').count (fun _ => true) =
      tunnel.loops := by
    intro handler'
    rw [AList.count_insert, PacketTunnel.loops, counted]
  obtain ⟨handle, _ | ⟨_ | packet, rest⟩⟩ := handler
  · cases moved
    refine reading.gives found (fun other apart => AList.lookup_erase_ne apart) ?_ ?_ rfl
    · simp [ReadHandler.left]
    · rw [PacketTunnel.loops, counted, if_pos rfl]
      omega
  · cases moved
    refine reading.gives found (fun other apart => AList.lookup_insert_ne apart) ?_ (replaced _) rfl
    simp [ReadHandler.left]
  · cases moved
    refine reading.gives found (fun other apart => AList.lookup_insert_ne apart) ?_ (replaced _) rfl
    simp [ReadHandler.left, ReadOutput.given]

theorem Reading.step (reading : Reading history tunnel)
    (stepped : tunnel.step event = (tunnel', outputs)) :
    Reading (⟨tunnel, event, outputs, tunnel'⟩ :: history) tunnel' := by
  cases event with
  | call call =>
      simp only [PacketTunnel.step] at stepped
      split at stepped
      · obtain ⟨handlers, next, reads⟩ := PacketTunnel.proceed_spec stepped
        exact reading.proceeds (.inl ⟨_, rfl⟩) handlers next reads
      · cases stepped
        exact reading.idle (fun _ => rfl) rfl
  | advance =>
      obtain ⟨handlers, next, reads⟩ := PacketTunnel.proceed_spec stepped
      exact reading.proceeds (.inr rfl) handlers next reads
  | packets batch =>
      simp only [PacketTunnel.step] at stepped
      split at stepped
      · cases stepped
        exact reading.idle (fun _ => by simp [batchOf, *]) (by simp [loopsEnded, *])
      · cases stepped
        cases there : tunnel.provider.rustHandle with
        | none => exact reading.ends batch ‹_› there
        | some handle => exact reading.begins batch ‹_› there
  | handler id =>
      simp only [PacketTunnel.step] at stepped
      split at stepped
      · cases stepped
        exact reading.idle (fun _ => rfl) rfl
      · exact reading.handler ‹_› stepped

/-- A call that requests a read reports success, and no other does. -/
theorem PacketTunnelProvider.reads_eq_succeeds (provider : PacketTunnelProvider)
    (event : TunnelEvent) : (provider.actions event).countP TunnelAction.reads =
      (provider.actions event).countP TunnelAction.succeeds := by
  cases event with
  | startTunnel outcome =>
      have released : provider.releasePacketBridge.countP TunnelAction.reads = 0 ∧
          provider.releasePacketBridge.countP TunnelAction.succeeds = 0 := by
        unfold releasePacketBridge
        split <;> exact ⟨rfl, rfl⟩
      rw [actions]
      obtain ⟨_, _, rfl | ⟨_, rfl⟩, same⟩ | ⟨_, _, same⟩ | ⟨_, _, same⟩ :=
        provider.startTunnel_cases outcome <;>
      simp [same, released, TunnelAction.reads, TunnelAction.succeeds]
  | settingsCompleted start error =>
      rw [actions]
      split
      · cases error <;> rfl
      · rfl
  | stopTunnel =>
      obtain ⟨rustHandle, context, _, _⟩ := provider
      cases rustHandle <;> cases context <;> rfl

theorem ReadRun.taken_balance {p q : TunnelAction → Bool} (run : ReadRun history tunnel)
    (balanced : ∀ (provider : PacketTunnelProvider) event,
      (provider.actions event).countP p = (provider.actions event).countP q) :
    timesTaken p history + tunnel.control.countP p =
      timesTaken q history + tunnel.control.countP q := by
  refine Runs.Run.history_invariant (P := fun history tunnel => timesTaken p history +
    tunnel.control.countP p = timesTaken q history + tunnel.control.countP q) run rfl ?_
  intro history tunnel event outputs tunnel' _ balance stepped
  have move := tunnel.step_move event
  rw [stepped] at move
  dsimp only at move
  cases move with
  | quiet _ control => simpa [timesTaken, control] using balance
  | packet => simpa [timesTaken, ReadOutput.does] using balance
  | advanced control =>
      rw [control, countP_cons_toNat, countP_cons_toNat] at balance
      simp only [timesTaken_action, PacketTunnel.perform]
      omega
  | called free planned =>
      have planned := planned ▸ balanced tunnel.provider _
      rw [countP_cons_toNat, countP_cons_toNat] at planned
      rw [free] at balance
      simp only [List.countP_nil] at balance
      simp only [timesTaken_action, PacketTunnel.perform]
      omega

/-- In every run the packets of a read are given to the core that was there when it completed,
each once and in order, up to those that its handler has left; every start that succeeds sets
one loop of reads going, and a loop ends only with a read that completes when there is no core. -/
theorem every_batch_given (run : ReadRun history tunnel) :
    (∀ id handler, batchOf id history = some handler → givenBy id history ++
      (tunnel.handlers.lookup id).elim [] ReadHandler.left = handler.left) ∧
    tunnel.loops + loopsEnded history = timesTaken TunnelAction.reads history ∧
    timesTaken TunnelAction.reads history + tunnel.control.countP TunnelAction.reads =
      timesTaken TunnelAction.succeeds history + tunnel.control.countP TunnelAction.succeeds := by
  have reading : Reading history tunnel := by
    refine Runs.Run.history_invariant (P := Reading) run
      ⟨fun id handler found => ?_, fun _ _ => ⟨rfl, rfl⟩, fun id handler made => ?_, rfl⟩
      fun _ reading stepped => reading.step stepped
    · cases found
    · cases made
  exact ⟨reading.given, reading.loops,
    run.taken_balance PacketTunnelProvider.reads_eq_succeeds⟩

end

/-- One batch has been given away, one is left in part, and one was read when there was no core. -/
theorem every_batch_given_stopped : ∃ history tunnel, ReadRun history tunnel ∧
    batchOf 1 history = some ⟨0, [some [2], some [3]]⟩ ∧ givenBy 1 history = [(0, [2])] ∧
    loopsEnded history = 1 ∧
    (∀ id handler, batchOf id history = some handler → givenBy id history ++
      (tunnel.handlers.lookup id).elim [] ReadHandler.left = handler.left) ∧
    tunnel.loops + loopsEnded history = timesTaken TunnelAction.reads history ∧
    timesTaken TunnelAction.reads history + tunnel.control.countP TunnelAction.reads =
      timesTaken TunnelAction.succeeds history + tunnel.control.countP TunnelAction.succeeds := by
  refine ⟨_, _, Runs.trace_run (.call (.startTunnel coreStarts) :: List.replicate 6 .advance ++
    [.call (.settingsCompleted 0 none), .advance, .advance, .packets [some [1], none],
      .handler 0, .handler 0, .handler 0, .packets [some [2], some [3]], .handler 1,
      .call .stopTunnel] ++ List.replicate 5 .advance ++ .call (.startTunnel coreStarts) ::
      List.replicate 6 .advance ++ [.call (.settingsCompleted 1 none), .advance,
      .advance, .call .stopTunnel] ++ List.replicate 5 .advance ++ [.packets [some [4]]]) .nil,
    by decide, by decide, by decide, every_batch_given (Runs.trace_run _ .nil)⟩

end StunnelIos
