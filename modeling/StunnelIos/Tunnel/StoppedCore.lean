import StunnelIos.Library.Owned
import StunnelIos.Tunnel.ReadLoop
import StunnelIos.Tunnel.Cleanup

/-! When the read loop may meet a stopped core. A handler keeps the handle it has read
through its whole batch, so what matters is who still has packets when a core is
stopped, and who reads the handle before it is set to nil. -/
namespace StunnelIos

/-- The action neither stops a core nor writes `rustHandle`, and is not the first of a
call of `startTunnel`. -/
def TunnelAction.Quiet : TunnelAction → Prop
  | .stop _ | .setRustHandle _ | .startTunnel _ => False
  | _ => True

/-- No handler has this handle, it is not in `rustHandle`, and it has not been stopped. -/
structure Unpublished (history : ReadHistory) (tunnel : PacketTunnel) (k : CoreHandle) : Prop where
  held : tunnel.provider.rustHandle ≠ some k
  read : ∀ id handler, tunnel.handlers.lookup id = some handler → handler.handle ≠ k
  stopped : ¬ Stopped k history

/-- What can be left of a call. -/
inductive Left (history : ReadHistory) (tunnel : PacketTunnel) : List TunnelAction → Prop where
  | quiet {rest} : (∀ action ∈ rest, action.Quiet) → Left history tunnel rest
  /-- A new core is to be published. -/
  | publish {first k rest} : (∀ action ∈ first, action.Quiet) → (∀ action ∈ rest, action.Quiet) →
      Unpublished history tunnel k → k < tunnel.provider.nextStart →
      Left history tunnel (first ++ .setRustHandle (some k) :: rest)
  /-- A new core is to be stopped, which nobody has seen. -/
  | discard {first k rest} : (∀ action ∈ first, action.Quiet) → (∀ action ∈ rest, action.Quiet) →
      Unpublished history tunnel k → k < tunnel.provider.nextStart →
      Left history tunnel (first ++ .stop k :: rest)
  /-- The running core is to be stopped, and the handle written right after. -/
  | stop {first k rest} : (∀ action ∈ first, action.Quiet) → (∀ action ∈ rest, action.Quiet) →
      tunnel.provider.rustHandle = some k →
      Left history tunnel (first ++ .stop k :: .setRustHandle none :: rest)
  | clear {rest} : (∀ action ∈ rest, action.Quiet) →
      Left history tunnel (.setRustHandle none :: rest)

/-- A stopped core is in `rustHandle` only until the next action, and handlers that have
it have no packets. -/
structure Guarded (history : ReadHistory) (tunnel : PacketTunnel) : Prop where
  left : Left history tunnel tunnel.control
  known : ∀ k, tunnel.provider.rustHandle = some k ∨
    (∃ id handler, tunnel.handlers.lookup id = some handler ∧ handler.handle = k) ∨
      Stopped k history → k < tunnel.provider.nextStart
  current : ∀ k, tunnel.provider.rustHandle = some k → Stopped k history →
    tunnel.control.head? = some (.setRustHandle none)
  done : ∀ id handler, tunnel.handlers.lookup id = some handler → Stopped handler.handle history →
    ∀ packet, some packet ∉ handler.packets

section
variable {history : ReadHistory} {tunnel tunnel' : PacketTunnel} {k : CoreHandle}
  {x : Runs.Transition PacketTunnel ReadEvent (List ReadOutput)} {action : TunnelAction}
  {rest : List TunnelAction}

theorem Stopped.cons_iff :
    Stopped k (x :: history) ↔ .action (.stop k) ∈ x.output ∨ Stopped k history := by
  simp only [Stopped, List.mem_cons, exists_eq_or_imp]

theorem TunnelAction.Quiet.apply {provider : PacketTunnelProvider} (quiet : action.Quiet) :
    (provider.apply action).rustHandle = provider.rustHandle ∧
      (provider.apply action).nextStart = provider.nextStart := by
  cases action <;> first | exact ⟨rfl, rfl⟩ | exact quiet.elim

theorem Guarded.unpublished (guarded : Guarded history tunnel) :
    Unpublished history tunnel tunnel.provider.nextStart := by
  have unknown : ∀ {P : Prop}, (P → tunnel.provider.nextStart < tunnel.provider.nextStart) → ¬ P :=
    fun implied holds => Nat.lt_irrefl _ (implied holds)
  exact ⟨unknown fun held => guarded.known _ (.inl held),
    fun id handler found same => Nat.lt_irrefl _ (guarded.known _ (.inr (.inl ⟨id, handler, found, same⟩))),
    unknown fun stopped => guarded.known _ (.inr (.inr stopped))⟩

theorem Left.mono (left : Left history tunnel rest)
    (same : tunnel'.provider.rustHandle = tunnel.provider.rustHandle)
    (next : tunnel'.provider.nextStart = tunnel.provider.nextStart)
    (quiet : ∀ k, .action (.stop k) ∉ x.output)
    (handlers : ∀ id handler, tunnel'.handlers.lookup id = some handler →
      tunnel.provider.rustHandle = some handler.handle ∨
        ∃ id handler', tunnel.handlers.lookup id = some handler' ∧
          handler'.handle = handler.handle) :
    Left (x :: history) tunnel' rest := by
  have unseen : ∀ {k}, Unpublished history tunnel k → Unpublished (x :: history) tunnel' k := by
    intro k unpublished
    refine ⟨same ▸ unpublished.held, ?_, ?_⟩
    · rintro id handler found rfl
      obtain held | ⟨id', handler', found', shared⟩ := handlers id handler found
      · exact unpublished.held held
      · exact unpublished.read id' handler' found' shared
    · rw [Stopped.cons_iff]
      rintro (now | before)
      · exact quiet _ now
      · exact unpublished.stopped before
  cases left with
  | quiet all => exact .quiet all
  | publish first last unpublished known =>
      exact .publish first last (unseen unpublished) (next ▸ known)
  | discard first last unpublished known =>
      exact .discard first last (unseen unpublished) (next ▸ known)
  | stop first last held => exact .stop first last (same ▸ held)
  | clear last => exact .clear last

theorem Left.head (left : Left history tunnel (action :: rest)) :
    (action.Quiet ∧ Left history tunnel rest) ∨
    ((∀ action ∈ rest, action.Quiet) ∧
      ((∃ k, action = .setRustHandle (some k) ∧ Unpublished history tunnel k ∧
          k < tunnel.provider.nextStart) ∨
        (∃ k, action = .stop k ∧ Unpublished history tunnel k ∧ k < tunnel.provider.nextStart) ∨
        action = .setRustHandle none)) ∨
    ∃ k last, action = .stop k ∧ rest = .setRustHandle none :: last ∧
      (∀ action ∈ last, action.Quiet) ∧ tunnel.provider.rustHandle = some k := by
  generalize same : action :: rest = actions at left
  cases left with
  | quiet all =>
      subst same
      exact .inl ⟨all action List.mem_cons_self,
        .quiet fun other member => all other (List.mem_cons_of_mem _ member)⟩
  | @publish first k last quiet quiet' unpublished known =>
      cases first with
      | nil =>
          obtain ⟨rfl, rfl⟩ := List.cons.inj same
          exact .inr (.inl ⟨quiet', .inl ⟨k, rfl, unpublished, known⟩⟩)
      | cons _ first =>
          obtain ⟨rfl, rfl⟩ := List.cons.inj same
          exact .inl ⟨quiet _ List.mem_cons_self, .publish
            (fun other member => quiet other (List.mem_cons_of_mem _ member)) quiet' unpublished known⟩
  | @discard first k last quiet quiet' unpublished known =>
      cases first with
      | nil =>
          obtain ⟨rfl, rfl⟩ := List.cons.inj same
          exact .inr (.inl ⟨quiet', .inr (.inl ⟨k, rfl, unpublished, known⟩)⟩)
      | cons _ first =>
          obtain ⟨rfl, rfl⟩ := List.cons.inj same
          exact .inl ⟨quiet _ List.mem_cons_self, .discard
            (fun other member => quiet other (List.mem_cons_of_mem _ member)) quiet' unpublished known⟩
  | @stop first k last quiet quiet' held =>
      cases first with
      | nil =>
          obtain ⟨rfl, rfl⟩ := List.cons.inj same
          exact .inr (.inr ⟨k, last, rfl, rfl, quiet', held⟩)
      | cons _ first =>
          obtain ⟨rfl, rfl⟩ := List.cons.inj same
          exact .inl ⟨quiet _ List.mem_cons_self, .stop
            (fun other member => quiet other (List.mem_cons_of_mem _ member)) quiet' held⟩
  | clear quiet =>
      obtain ⟨rfl, rfl⟩ := List.cons.inj same
      exact .inr (.inl ⟨quiet, .inr (.inr rfl)⟩)

theorem Guarded.step (guarded : Guarded history tunnel) {event : ReadEvent}
    {outputs : List ReadOutput}
    (next : tunnel.provider.nextStart ≤ tunnel'.provider.nextStart)
    (held : ∀ k, tunnel'.provider.rustHandle = some k →
      tunnel.provider.rustHandle = some k ∨ k < tunnel'.provider.nextStart)
    (stops : ∀ k, .action (.stop k) ∈ outputs → k < tunnel'.provider.nextStart)
    (handlers : ∀ id handler, tunnel'.handlers.lookup id = some handler →
      tunnel.provider.rustHandle = some handler.handle ∨
        ∃ id handler', tunnel.handlers.lookup id = some handler' ∧
          handler'.handle = handler.handle)
    (left : Left (⟨tunnel, event, outputs, tunnel'⟩ :: history) tunnel' tunnel'.control)
    (current : ∀ k, tunnel'.provider.rustHandle = some k →
      .action (.stop k) ∈ outputs ∨ Stopped k history →
        tunnel'.control.head? = some (.setRustHandle none))
    (done : ∀ id handler, tunnel'.handlers.lookup id = some handler →
      .action (.stop handler.handle) ∈ outputs ∨ Stopped handler.handle history →
        ∀ packet, some packet ∉ handler.packets) :
    Guarded (⟨tunnel, event, outputs, tunnel'⟩ :: history) tunnel' := by
  have older : ∀ {k}, k < tunnel.provider.nextStart → k < tunnel'.provider.nextStart :=
    fun known => Nat.lt_of_lt_of_le known next
  refine ⟨left, ?_, ?_, ?_⟩
  · rintro k (now | ⟨id, handler, found, rfl⟩ | stopped)
    · exact (held k now).elim (fun before => older (guarded.known k (.inl before))) id
    · exact older (guarded.known _ ((handlers id handler found).imp_right .inl))
    · obtain now | before := Stopped.cons_iff.mp stopped
      · exact stops k now
      · exact older (guarded.known k (.inr (.inr before)))
  · intro k now stopped
    exact current k now (Stopped.cons_iff.mp stopped)
  · intro id handler found stopped
    exact done id handler found (Stopped.cons_iff.mp stopped)

/-- Taking the next action keeps the guard, if no handler with packets has the core that
is stopped. -/
theorem Guarded.advance (guarded : Guarded history tunnel) (control : tunnel.control = action :: rest)
    (unused : ∀ handle, action = .stop handle → ∀ id handler,
      tunnel.handlers.lookup id = some handler → handler.handle = handle →
        ∀ packet, some packet ∉ handler.packets) (event : ReadEvent) :
    Guarded (⟨tunnel, event, [.action action], { tunnel with control := rest }.perform action⟩ ::
      history) ({ tunnel with control := rest }.perform action) := by
  have left := guarded.left
  rw [control] at left
  have stays : ∀ k, tunnel.provider.rustHandle = some k → Stopped k history →
      action = .setRustHandle none := by
    intro k held stopped
    have next := guarded.current k held stopped
    rw [control] at next
    exact Option.some.inj next
  have shown : ∀ k, ReadOutput.action (.stop k) ∈ [ReadOutput.action action] → action = .stop k := by
    intro k shown
    simpa [eq_comm] using shown
  have done : ∀ id handler, tunnel.handlers.lookup id = some handler →
      .action (.stop handler.handle) ∈ [ReadOutput.action action] ∨ Stopped handler.handle history →
        ∀ packet, some packet ∉ handler.packets := by
    rintro id handler found (now | before)
    · exact unused handler.handle (shown _ now) id handler found rfl
    · exact guarded.done id handler found before
  obtain ⟨quiet, left⟩ | ⟨quiet, ⟨k, rfl, unpublished, known⟩ | ⟨k, rfl, unpublished, known⟩ | rfl⟩ |
    ⟨k, last, rfl, rfl, quiet, held⟩ := left.head
  · obtain ⟨same, next⟩ := quiet.apply
    have silent : ∀ k, ReadOutput.action (.stop k) ∉ [ReadOutput.action action] := by
      intro k stops
      rw [shown k stops] at quiet
      exact quiet
    refine guarded.step (le_of_eq next.symm) (fun k held => .inl (same ▸ held))
      (fun k stops => absurd stops (silent k)) (fun id handler found => .inr ⟨id, handler, found, rfl⟩)
      (left.mono same next silent fun id handler found => .inr ⟨id, handler, found, rfl⟩) ?_ done
    rintro k held (now | before)
    · exact absurd now (silent k)
    · rw [stays k (same ▸ held) before] at quiet
      exact quiet.elim
  · refine guarded.step le_rfl ?_ (by simp) (fun id handler found => .inr ⟨id, handler, found, rfl⟩)
      (.quiet quiet) ?_ done
    · rintro other held
      obtain rfl := Option.some.inj held
      exact .inr known
    · rintro other held (now | before)
      · simp at now
      · obtain rfl := Option.some.inj held
        exact absurd before unpublished.stopped
  · refine guarded.step le_rfl (fun _ => .inl) ?_ (fun id handler found => .inr ⟨id, handler, found, rfl⟩)
      (.quiet quiet) ?_ done
    · intro other stops
      obtain rfl := TunnelAction.stop.inj (shown other stops)
      exact known
    · rintro other held (now | before)
      · obtain rfl := TunnelAction.stop.inj (shown other now)
        exact absurd held unpublished.held
      · cases stays other held before
  · refine guarded.step le_rfl ?_ (by simp) (fun id handler found => .inr ⟨id, handler, found, rfl⟩)
      (.quiet quiet) ?_ done
    · intro other held
      cases held
    · intro other held
      cases held
  · refine guarded.step le_rfl (fun _ => .inl) ?_ (fun id handler found => .inr ⟨id, handler, found, rfl⟩)
      (.clear quiet) (fun _ _ _ => rfl) done
    intro other stops
    obtain rfl := TunnelAction.stop.inj (shown other stops)
    exact guarded.known k (.inl held)

theorem PacketTunnelProvider.releasePacketBridge_quiet (provider : PacketTunnelProvider) :
    ∀ action ∈ provider.releasePacketBridge, action.Quiet := by
  intro action member
  unfold PacketTunnelProvider.releasePacketBridge at member
  split at member
  · contradiction
  · obtain rfl := List.mem_singleton.mp member
    trivial

theorem Guarded.left_of_start (guarded : Guarded history tunnel) (outcome : RuntimeOutcome) :
    ∃ rest, tunnel.provider.startTunnel outcome =
        .startTunnel tunnel.provider.nextStart :: rest ∧
      Left history { tunnel with
        provider := tunnel.provider.apply (.startTunnel tunnel.provider.nextStart) } rest := by
  have release := tunnel.provider.releasePacketBridge_quiet
  have fresh := guarded.unpublished
  obtain ⟨made, error, shape, plan⟩ | ⟨configJson, error, plan⟩ | ⟨configJson, settings, plan⟩ :=
    tunnel.provider.startTunnel_cases outcome <;> refine ⟨_, plan, ?_⟩
  · refine .quiet (List.forall_mem_append.mpr ⟨release, ?_⟩)
    obtain rfl | ⟨configJson, rfl⟩ := shape <;> simp [TunnelAction.Quiet]
  · have core : Left history { tunnel with
        provider := tunnel.provider.apply (.startTunnel tunnel.provider.nextStart) }
        ((tunnel.provider.releasePacketBridge ++ [.retainBridge tunnel.provider.nextStart,
          .create (some tunnel.provider.nextStart) configJson,
          .setPacketCallback tunnel.provider.nextStart (some tunnel.provider.nextStart),
          .start tunnel.provider.nextStart false,
          .clearPacketCallback tunnel.provider.nextStart]) ++
        .stop tunnel.provider.nextStart ::
          [.releaseBridge tunnel.provider.nextStart,
            .completeStart tunnel.provider.nextStart (some error)]) :=
      .discard (List.forall_mem_append.mpr ⟨release, by simp [TunnelAction.Quiet]⟩)
        (by simp [TunnelAction.Quiet]) ⟨fresh.held, fresh.read, fresh.stopped⟩ (Nat.lt_succ_self _)
    simpa using core
  · have core : Left history { tunnel with
        provider := tunnel.provider.apply (.startTunnel tunnel.provider.nextStart) }
        ((tunnel.provider.releasePacketBridge ++ [.retainBridge tunnel.provider.nextStart,
          .create (some tunnel.provider.nextStart) configJson,
          .setPacketCallback tunnel.provider.nextStart (some tunnel.provider.nextStart),
          .start tunnel.provider.nextStart true]) ++
        .setRustHandle (some tunnel.provider.nextStart) ::
          [.setTunnelNetworkSettings tunnel.provider.nextStart settings]) :=
      .publish (List.forall_mem_append.mpr ⟨release, by simp [TunnelAction.Quiet]⟩)
        (by simp [TunnelAction.Quiet]) ⟨fresh.held, fresh.read, fresh.stopped⟩ (Nat.lt_succ_self _)
    simpa using core

theorem PacketTunnelProvider.settingsCompleted_quiet (start : StartId) (error : Option String) :
    ∃ rest, settingsCompleted start error = .settingsCompleted start :: rest ∧
      ∀ action ∈ rest, action.Quiet := by
  cases error <;> exact ⟨_, rfl, by simp [TunnelAction.Quiet]⟩

theorem left_of_stop (history : ReadHistory) (tunnel : PacketTunnel) :
    Left history tunnel (tunnel.provider.stopCoreRuntime ++ [.completeStop]) := by
  have last : ∀ action ∈ tunnel.provider.releasePacketBridge ++ [.completeStop], action.Quiet :=
    List.forall_mem_append.mpr
      ⟨tunnel.provider.releasePacketBridge_quiet, by simp [TunnelAction.Quiet]⟩
  cases held : tunnel.provider.rustHandle with
  | none => simpa [PacketTunnelProvider.stopCoreRuntime, held, stopRuntime] using Left.clear last
  | some k =>
      have core : Left history tunnel ([.clearPacketCallback k] ++ .stop k :: .setRustHandle none ::
          (tunnel.provider.releasePacketBridge ++ [.completeStop])) :=
        .stop (by simp [TunnelAction.Quiet]) last held
      simpa [PacketTunnelProvider.stopCoreRuntime, held, stopRuntime] using core

theorem Guarded.left_of_call (guarded : Guarded history tunnel) (event : TunnelEvent)
    (planned : tunnel.provider.actions event = action :: rest) :
    (∀ k, action ≠ .stop k) ∧ (tunnel.provider.apply action).rustHandle = tunnel.provider.rustHandle ∧
      tunnel.provider.nextStart ≤ (tunnel.provider.apply action).nextStart ∧
      Left history { tunnel with provider := tunnel.provider.apply action } rest := by
  cases event with
  | startTunnel outcome =>
      obtain ⟨rest', plan, left⟩ := guarded.left_of_start outcome
      obtain ⟨rfl, rfl⟩ := List.cons.inj (plan.symm.trans planned)
      exact ⟨by simp, rfl, Nat.le_succ _, left⟩
  | settingsCompleted start error =>
      simp only [PacketTunnelProvider.actions] at planned
      split at planned
      · obtain ⟨rest', plan, quiet⟩ := PacketTunnelProvider.settingsCompleted_quiet start error
        obtain ⟨rfl, rfl⟩ := List.cons.inj (plan.symm.trans planned)
        exact ⟨by simp, rfl, le_rfl, .quiet quiet⟩
      · contradiction
  | stopTunnel =>
      obtain ⟨rfl, rfl⟩ := List.cons.inj planned
      exact ⟨by simp, rfl, le_rfl, left_of_stop history tunnel⟩

theorem Guarded.call (guarded : Guarded history tunnel) (idle : tunnel.control = [])
    (event : TunnelEvent) (planned : tunnel.provider.actions event = action :: rest) :
    Guarded (⟨tunnel, .call event, [.action action],
      { tunnel with control := rest }.perform action⟩ :: history)
      ({ tunnel with control := rest }.perform action) := by
  obtain ⟨starts, same, next, left⟩ := guarded.left_of_call event planned
  have silent : ∀ k, ReadOutput.action (.stop k) ∉ [ReadOutput.action action] := by
    intro k stops
    exact starts k (by simpa [eq_comm] using stops)
  have none_stopped : ∀ k, tunnel.provider.rustHandle = some k → ¬ Stopped k history := by
    intro k held stopped
    have impossible := guarded.current k held stopped
    rw [idle] at impossible
    contradiction
  refine guarded.step next (fun k held => .inl (same ▸ held)) (fun k stops => absurd stops (silent k))
    (fun id handler found => .inr ⟨id, handler, found, rfl⟩)
    (left.mono rfl rfl silent fun id handler found => .inr ⟨id, handler, found, rfl⟩) ?_ ?_
  · rintro k held (now | before)
    · exact absurd now (silent k)
    · exact absurd before (none_stopped k (same ▸ held))
  · rintro id handler found (now | before)
    · exact absurd now (silent _)
    · exact guarded.done id handler found before

theorem Guarded.beside (guarded : Guarded history tunnel) {event : ReadEvent}
    {outputs : List ReadOutput} (silent : ∀ action, .action action ∉ outputs)
    (same : tunnel'.provider = tunnel.provider) (control : tunnel'.control = tunnel.control)
    (handlers : ∀ id handler, tunnel'.handlers.lookup id = some handler →
      (tunnel.provider.rustHandle = some handler.handle ∧
        (tunnel.control.head? = some (.setRustHandle none) →
          ∀ packet, some packet ∉ handler.packets)) ∨
      ∃ id handler', tunnel.handlers.lookup id = some handler' ∧
        handler'.handle = handler.handle ∧ handler.packets ⊆ handler'.packets) :
    Guarded (⟨tunnel, event, outputs, tunnel'⟩ :: history) tunnel' := by
  have from_known : ∀ id handler, tunnel'.handlers.lookup id = some handler →
      tunnel.provider.rustHandle = some handler.handle ∨
        ∃ id handler', tunnel.handlers.lookup id = some handler' ∧
          handler'.handle = handler.handle := by
    intro id handler found
    obtain ⟨held, _⟩ | ⟨id', handler', found', shared, _⟩ := handlers id handler found
    · exact .inl held
    · exact .inr ⟨id', handler', found', shared⟩
  refine guarded.step (by rw [same]) (fun k held => .inl (same ▸ held))
    (fun k stops => absurd stops (silent _)) from_known ?_ ?_ ?_
  · rw [control]
    exact guarded.left.mono (by rw [same]) (by rw [same]) (fun k => silent _) from_known
  · rintro k held (now | before)
    · exact absurd now (silent _)
    · rw [control]
      exact guarded.current k (same ▸ held) before
  · rintro id handler found (now | before)
    · exact absurd now (silent _)
    · obtain ⟨held, empty⟩ | ⟨id', handler', found', shared, fewer⟩ := handlers id handler found
      · exact empty (guarded.current _ held before)
      · intro packet member
        exact guarded.done id' handler' found' (shared ▸ before) packet (fewer member)

theorem Guarded.handler (guarded : Guarded history tunnel) {id : HandlerId} {handler : ReadHandler}
    (found : tunnel.handlers.lookup id = some handler) :
    Guarded (⟨tunnel, .handler id, (tunnel.handle id handler).2, (tunnel.handle id handler).1⟩ ::
      history) (tunnel.handle id handler).1 := by
  obtain ⟨handle, packets⟩ := handler
  cases packets with
  | nil =>
      refine guarded.beside (by simp [PacketTunnel.handle]) rfl rfl ?_
      intro other handler' found'
      exact .inr ⟨other, handler', (AList.lookup_erase_eq_some.mp found').2, rfl, List.Subset.refl _⟩
  | cons packet rest =>
      have insert : ∀ other handler',
          (tunnel.handlers.insert id ⟨handle, rest⟩).lookup other = some handler' →
          ∃ id handler'', tunnel.handlers.lookup id = some handler'' ∧
            handler''.handle = handler'.handle ∧ handler'.packets ⊆ handler''.packets := by
        intro other handler' found'
        obtain ⟨_, rfl⟩ | ⟨_, found'⟩ := AList.lookup_insert_eq_some.mp found'
        · exact ⟨id, _, found, rfl, List.subset_cons_self _ _⟩
        · exact ⟨other, handler', found', rfl, List.Subset.refl _⟩
      cases packet with
      | none =>
          exact guarded.beside (by simp [PacketTunnel.handle]) rfl rfl fun other handler' found' =>
            .inr (insert other handler' found')
      | some packet =>
          exact guarded.beside (by simp [PacketTunnel.handle]) rfl rfl fun other handler' found' =>
            .inr (insert other handler' found')

theorem Guarded.packets (guarded : Guarded history tunnel) (batch : List (Option Bytes))
    (allowed : tunnel.provider.rustHandle ≠ none →
      tunnel.control.head? = some (.setRustHandle none) → ∀ packet, some packet ∉ batch) :
    Guarded (⟨tunnel, .packets batch, [], tunnel.readCompleted batch⟩ :: history)
      (tunnel.readCompleted batch) := by
  unfold PacketTunnel.readCompleted
  split
  · exact guarded.beside (by simp) rfl rfl fun id handler found =>
      .inr ⟨id, handler, found, rfl, List.Subset.refl _⟩
  · rename_i handle held
    refine guarded.beside (by simp) rfl rfl ?_
    intro id handler found
    obtain ⟨_, rfl⟩ | ⟨_, found⟩ := AList.lookup_insert_eq_some.mp found
    · exact .inl ⟨held, allowed (by simp [held])⟩
    · exact .inr ⟨id, handler, found, rfl, List.Subset.refl _⟩

theorem Guarded.idle (guarded : Guarded history tunnel) (event : ReadEvent) :
    Guarded (⟨tunnel, event, [], tunnel⟩ :: history) tunnel :=
  guarded.beside (by simp) rfl rfl fun id handler found =>
    .inr ⟨id, handler, found, rfl, List.Subset.refl _⟩

/-- Every step that leaves no handler behind keeps the guard. -/
theorem Guarded.stepped (guarded : Guarded history tunnel) {event : ReadEvent}
    {outputs : List ReadOutput} (moved : tunnel.step event = (tunnel', outputs))
    (allowed : HandlersDone ⟨tunnel, event, outputs, tunnel'⟩ history) :
    Guarded (⟨tunnel, event, outputs, tunnel'⟩ :: history) tunnel' := by
  obtain ⟨unused, unread⟩ := allowed
  cases event with
  | call event =>
      simp only [PacketTunnel.step] at moved
      split at moved
      · rename_i idle
        unfold PacketTunnel.proceed at moved
        split at moved <;> cases moved
        · exact guarded.idle _
        · exact guarded.call idle event ‹_›
      · cases moved
        exact guarded.idle _
  | advance =>
      simp only [PacketTunnel.step, PacketTunnel.proceed] at moved
      split at moved <;> cases moved
      · exact guarded.idle _
      · rename_i action rest control
        refine guarded.advance control ?_ _
        rintro handle rfl
        exact unused handle rfl (by simp [control])
  | packets batch =>
      simp only [PacketTunnel.step] at moved
      split at moved <;> cases moved
      · exact guarded.idle _
      · rename_i reads
        refine guarded.packets batch ?_
        intro held next packet member
        exact unread batch packet rfl member reads held next
  | handler id =>
      simp only [PacketTunnel.step] at moved
      split at moved
      · cases moved
        exact guarded.idle _
      · have same := guarded.handler ‹_›
        rw [moved] at same
        exact same

theorem Guarded.processesLive (guarded : Guarded history tunnel) {event : ReadEvent}
    {outputs : List ReadOutput} (moved : tunnel.step event = (tunnel', outputs)) :
    ProcessesLive ⟨tunnel, event, outputs, tunnel'⟩ history := by
  intro handle packet shown stopped
  have shown : .processPacket handle packet ∈ outputs := shown
  cases event with
  | call event =>
      simp only [PacketTunnel.step, PacketTunnel.proceed] at moved
      split at moved
      · split at moved <;> cases moved <;> simp at shown
      · cases moved
        simp at shown
  | advance =>
      simp only [PacketTunnel.step, PacketTunnel.proceed] at moved
      split at moved <;> cases moved <;> simp at shown
  | packets batch =>
      simp only [PacketTunnel.step] at moved
      split at moved <;> cases moved <;> simp at shown
  | handler id =>
      simp only [PacketTunnel.step] at moved
      split at moved
      · cases moved
        simp at shown
      · rename_i handler found
        obtain ⟨owner, packets⟩ := handler
        obtain _ | ⟨_ | own, rest⟩ := packets
        · cases moved
          simp at shown
        · cases moved
          simp at shown
        · cases moved
          obtain ⟨rfl, rfl⟩ : handle = owner ∧ packet = own := by simpa using shown
          exact guarded.done id _ found stopped packet List.mem_cons_self

theorem Guarded.new : Guarded [] .new := by
  refine ⟨.quiet (by simp [PacketTunnel.new]), ?_, ?_, ?_⟩ <;>
    simp [PacketTunnel.new, PacketTunnelProvider.new, Stopped]

/-- In every run in which each core is stopped with no handler left behind, no packet
is given to a stopped core. -/
theorem stopped_core_gets_no_packet (run : ReadRun history tunnel)
    (allowed : Runs.Throughout HandlersDone history) : Runs.Throughout ProcessesLive history := by
  refine Runs.Run.conditional_throughout (P := Guarded) run allowed .new ?_ ?_
  · intro history tunnel event outputs tunnel' guarded moved allowed
    exact guarded.stepped moved allowed
  · intro history tunnel event outputs tunnel' guarded moved _
    exact guarded.processesLive moved

end

/-- A tunnel comes up and reads two packets; its handler is at the first when the tunnel
is stopped, and at the second after `stunnel_stop`. -/
def stopsMidBatch : List ReadEvent :=
  .call (.startTunnel coreStarts) :: List.replicate 6 .advance ++
    [.call (.settingsCompleted 0 none), .advance, .advance,
      .packets [some [1], some [2]], .handler 0, .call .stopTunnel, .advance, .advance, .handler 0]

theorem stopped_core_gets_packet : ¬ ∀ history tunnel, ReadRun history tunnel →
    Runs.Throughout ProcessesLive history := by
  intro claimed
  have live := (claimed _ _ (Runs.trace_run stopsMidBatch .nil)).1
  exact live 0 [2] (by decide) (by decide)

def PacketTunnel.batchesDone (tunnel : PacketTunnel) : Bool :=
  tunnel.handlers.entries.all fun entry => entry.2.packets.isEmpty

/-- Calls go on only between batches, and a read completes only between calls. -/
def betweenBatches (x : Runs.Transition PacketTunnel ReadEvent (List ReadOutput)) : Bool :=
  match x.event with
  | .advance => x.before.batchesDone
  | .packets _ => x.before.control.isEmpty
  | _ => true

theorem handlersDone_of_betweenBatches {x : Runs.Transition PacketTunnel ReadEvent (List ReadOutput)}
    (between : betweenBatches x = true) (earlier : ReadHistory) : HandlersDone x earlier := by
  constructor
  · intro handle event _ id handler found _ packet member
    simp only [betweenBatches, event, PacketTunnel.batchesDone, List.all_eq_true] at between
    have empty := between ⟨id, handler⟩ (AList.mem_lookup_iff.mp found)
    rw [List.isEmpty_iff.mp empty] at member
    contradiction
  · intro batch packet event _ _ _ next
    simp only [betweenBatches, event, List.isEmpty_iff] at between
    simp [between] at next

/-- The handler is done before the tunnel is stopped. -/
theorem stopped_core_gets_no_packet_done : ∃ history tunnel, ReadRun history tunnel ∧
    Stopped 0 history ∧ Runs.Throughout ProcessesLive history := by
  refine ⟨_, _, Runs.trace_run (.call (.startTunnel coreStarts) ::
    List.replicate 6 .advance ++ [.call (.settingsCompleted 0 none), .advance, .advance,
      .packets [some [1]], .handler 0, .call .stopTunnel, .advance, .advance]) .nil, by decide,
    stopped_core_gets_no_packet (Runs.trace_run _ .nil) ?_⟩
  exact Runs.Throughout.mono (P := fun x _ => betweenBatches x = true) (by decide)
    fun between => handlersDone_of_betweenBatches between _

end StunnelIos
