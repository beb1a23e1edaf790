import StunnelIos.Core.UdpRuns

/-! The packet callback of a core, and its start. Packets for the app go to the callback that
was registered last, with its context, and to nobody before and after; a core that has not
been started does nothing. -/
namespace StunnelIos
variable {S : Smoltcp}

def CoreContext.registered (ctx : CoreContext S) : Option (PacketCallback × Nat) :=
  ctx.engine.value.device.outboundCallback.map (·, ctx.engine.value.device.outboundContext)

def Event.registers (event : Event) (before : Option (PacketCallback × Nat)) :
    Option (PacketCallback × Nat) :=
  match event with
  | .setPacketCallback context callback => some (callback, context)
  | .clearPacketCallback | .stop => none
  | .start | .processPacket _ _ | .task _ _ | .drop _ => before

/-- The callback that was registered last, if it has not been cleared. -/
def registration : Runs.History (Handle S) Event (List Output) → Option (PacketCallback × Nat)
  | [] => none
  | x :: earlier => x.event.registers (registration earlier)

def Output.frame : Output → Option Bytes
  | .callback _ _ frame => some frame
  | _ => none

/-- Every packet for the app goes to the callback that was registered last, and what the stack
transmits in a poll goes to it, each frame once and in order. -/
structure CallsRegistered (x : Runs.Transition (Handle S) Event (List Output))
    (earlier : Runs.History (Handle S) Event (List Output)) : Prop where
  called : ∀ callback context frame, .callback callback context frame ∈ x.output →
    registration earlier = some (callback, context)
  handed : ∀ ctx bytes now result, x.before = some ctx →
    x.event = .processPacket (some bytes) now → ctx.started = true →
    interceptPacket ctx.engine.value ctx.runtime bytes = .ok result →
    (registration earlier).isSome = true → x.output.filterMap Output.frame =
      (S.poll result.1.interface now [bytes] result.1.sockets).frames

section
variable {ctx ctx' : CoreContext S} {event : Event} {outputs : List Output}

theorem Change.keeps_callback (changed : Change ctx event outputs ctx')
    (quiet : event.isControl = false) : ctx'.registered = ctx.registered := by
  cases changed with
  | control known => cases known.symm.trans quiet
  | ignored | absent | mismatched | alive | tcpDropped | udpDropped => rfl
  | packet _ _ intercepted =>
      simp only [CoreContext.registered, Mutex.new, StunnelEngine.delivered, intercepted.device.1]
  | tcp _ _ _ touches | udp _ _ _ touches =>
      simp only [CoreContext.registered, Mutex.new, touches.device]

theorem Sound.registers (api : S.ApiLaws) (sound : Sound (Serves S) ctx)
    (stepped : Handle.Steps (some ctx) event outputs (some ctx')) :
    ctx'.registered = event.registers ctx.registered := by
  cases event with
  | setPacketCallback context callback =>
      simp only [Handle.Steps, Handle.step, stunnelSetPacketCallback, CoreContext.setPacketCallback,
        sound.lock_ok, ok_bind, pure_eq_ok, Except.map, Except.ok.injEq, Prod.mk.injEq,
        Option.some.injEq] at stepped
      obtain ⟨rfl, _⟩ := stepped
      rfl
  | clearPacketCallback =>
      simp only [Handle.Steps, Handle.step, stunnelClearPacketCallback,
        CoreContext.clearPacketCallback, sound.lock_ok, ok_bind, pure_eq_ok, Except.map,
        Except.ok.injEq, Prod.mk.injEq, Option.some.injEq] at stepped
      obtain ⟨rfl, _⟩ := stepped
      rfl
  | start =>
      simp only [Handle.Steps, Handle.step, stunnelStart, CoreContext.start, sound.lock_ok, ok_bind]
        at stepped
      split at stepped <;> cases stepped <;> rfl
  | stop => cases stepped
  | processPacket | task | drop =>
      obtain ⟨impossible, _⟩ | ⟨_, same, changed⟩ :=
        step_change api (serves_stable api) sound stepped
      · cases impossible
      cases same
      exact changed.keeps_callback rfl

theorem Sound.called_back (api : S.ApiLaws) (sound : Sound (Serves S) ctx)
    {handle' : Handle S} (stepped : Handle.Steps (some ctx) event outputs handle')
    {callback : PacketCallback} {context : Nat} {frame : Bytes}
    (called : .callback callback context frame ∈ outputs) :
    ctx.registered = some (callback, context) := by
  obtain ⟨_, _, rfl⟩ | ⟨ctx', rfl, changed⟩ := step_change api (serves_stable api) sound stepped
  · contradiction
  cases changed with
  | control | ignored | absent | mismatched | alive | tcpDropped | udpDropped => contradiction
  | packet _ _ intercepted =>
      obtain ⟨registered, given, _⟩ := intercepted.callback_mem.mp called
      simp only [CoreContext.registered, registered, given, Option.map_some]
  | tcp _ _ turn => cases turn <;> simp at called
  | udp _ _ turn =>
      cases turn <;> simp only [List.mem_singleton, List.not_mem_nil] at called
      case sent =>
        rw [UdpSession.forwarded] at called
        split at called <;> cases called
      case replied => cases called

theorem Intercepted.frames {bytes : Bytes} {now : Instant}
    {result : StunnelEngine S × Runtime × List Output}
    (intercepted : Intercepted ctx.engine.value ctx.runtime bytes result)
    (registered : ctx.registered.isSome = true) :
    (result.2.2 ++ result.1.deliveredOutputs now bytes).filterMap Output.frame =
      (S.poll result.1.interface now [bytes] result.1.sockets).frames := by
  obtain ⟨callback, set⟩ : ∃ callback, result.1.device.outboundCallback = some callback := by
    rw [intercepted.device.1, ← Option.isSome_iff_exists]
    simpa [CoreContext.registered] using registered
  have opened : result.2.2.filterMap Output.frame = [] := by
    cases intercepted <;> rfl
  have woken : (result.1.wakers.values.map Output.wake).filterMap Output.frame = [] := by
    simp [List.filterMap_eq_nil_iff, Output.frame]
  rw [List.filterMap_append, opened, StunnelEngine.deliveredOutputs, List.filterMap_append, woken]
  simp only [List.filterMap_flatMap, TunDevice.transmit, set, List.filterMap_cons, Output.frame,
    List.filterMap_nil, List.flatMap_singleton', List.nil_append, List.append_nil]

theorem CoreContext.new_fresh {config : AppConfig} (created : CoreContext.new S config = .ok ctx) :
    ctx.registered = none ∧ ctx.started = false ∧ ctx.runtime = .new ∧
      ctx.engine = .new ctx.engine.value := by
  obtain ⟨engine, made, same⟩ := bind_eq_ok created
  cases same
  refine ⟨?_, rfl, rfl, rfl⟩
  unfold StunnelEngine.new at made
  split at made
  · cases made
  · split at made <;> cases made
    rfl

theorem CoreRun.registered (api : S.ApiLaws) (poll : S.PollLaws) {config : AppConfig}
    {history : Runs.History (Handle S) Event (List Output)}
    (run : CoreRun S config history (some ctx)) : ctx.registered = registration history := by
  refine run.history_invariant api poll (serves_stable api)
    (P := fun history ctx => ctx.registered = registration history) ?_ ?_
  · exact fun ctx created => (CoreContext.new_fresh created).1
  · intro history ctx event outputs ctx' sound same stepped _
    rw [sound.registers api stepped, same]
    rfl

/-- In every run of a core all packets go to the callback that was registered last. -/
theorem CoreRun.calls_registered (api : S.ApiLaws) (poll : S.PollLaws) {config : AppConfig}
    {history : Runs.History (Handle S) Event (List Output)} {handle : Handle S}
    (run : CoreRun S config history handle) : Runs.Throughout CallsRegistered history := by
  obtain ⟨first, created, path⟩ := run
  refine path.throughout ?_
  rintro ⟨handle, event, outputs, handle'⟩ earlier _ before stepped
  have run : CoreRun S config earlier handle := ⟨first, created, before⟩
  have registered := fun ctx (same : handle = some ctx) =>
    (same ▸ run : CoreRun S config earlier (some ctx)).registered api poll
  have sound := run.sound api poll (serves_stable api)
  constructor
  · intro callback context frame called
    cases handle with
    | none =>
        rw [show outputs = [] from stepped.of_none.2] at called
        contradiction
    | some ctx =>
        rw [← registered ctx rfl]
        exact (sound ctx rfl).called_back api stepped called
  · rintro ctx bytes now result rfl rfl started passed some_registered
    rw [← registered ctx rfl] at some_registered
    obtain ⟨impossible, _⟩ | ⟨_, rfl, changed⟩ :=
      step_change api (serves_stable api) (sound ctx rfl) stepped
    · cases impossible
    · cases changed with
      | control control => contradiction
      | ignored idle => simp [started] at idle
      | packet _ passed' intercepted =>
          cases passed.symm.trans passed'
          exact intercepted.frames some_registered

end

def callbackReplaced : List Event :=
  let syn (port : UInt16) : Event := .processPacket (some (Wire.tcpFrame hostAddr tunAddr port 80
    100 0 (Wire.flags true false false) [])) 0
  startUp ++ [syn 1000, .setPacketCallback 7 1, syn 1001, .clearPacketCallback]

theorem calls_registered_replaced : ∃ history handle,
    CoreRun Reference.stack quicConfig history handle ∧
    (∃ x ∈ history, ∃ packet, .callback 0 0 packet ∈ x.output) ∧
    (∃ x ∈ history, ∃ packet, .callback 1 7 packet ∈ x.output) ∧
    Runs.Throughout CallsRegistered history := by
  let calls (callback context : Nat) (x : Runs.Transition (Handle Reference.stack) Event
      (List Output)) : Bool := x.output.any fun
    | .callback callback' context' _ => callback' == callback && context' == context
    | _ => false
  obtain ⟨history, handle, run, checked⟩ := CoreContext.replay_run Reference.stack quicConfig
    callbackReplaced (fun history _ => history.any (calls 0 0) && history.any (calls 1 7))
    (by decide +kernel)
  have called : ∀ callback context, history.any (calls callback context) = true →
      ∃ x ∈ history, ∃ packet, .callback callback context packet ∈ x.output := by
    intro callback context found
    obtain ⟨x, taken, found⟩ := List.any_eq_true.mp found
    obtain ⟨output, member, same⟩ := List.any_eq_true.mp found
    cases output <;> simp at same
    obtain ⟨rfl, rfl⟩ := same
    exact ⟨x, taken, _, member⟩
  obtain ⟨first, second⟩ := Bool.and_eq_true_iff.mp checked
  exact ⟨history, handle, run, called 0 0 first, called 1 7 second,
    run.calls_registered Reference.api Reference.poll_laws⟩

section
variable {ctx ctx' : CoreContext S} {event : Event} {outputs : List Output}

/-- The core has been started, which it is only with a callback. -/
def Began : Runs.History (Handle S) Event (List Output) → Prop
  | [] => False
  | x :: earlier => (x.event = .start ∧ (registration earlier).isSome = true) ∨ Began earlier

def OnlyCallback (first ctx : CoreContext S) : Prop :=
  ∃ device, ctx = { first with engine := .new { first.engine.value with device := device } } ∧
    device.inboundPackets = first.engine.value.device.inboundPackets

/-- `stunnel_start` starts a core that has a callback, and nothing else starts or stops it. -/
theorem Sound.starts (api : S.ApiLaws) (sound : Sound (Serves S) ctx)
    (stepped : Handle.Steps (some ctx) event outputs (some ctx')) :
    ctx'.started = true ↔ (event = .start ∧ ctx.registered.isSome = true) ∨ ctx.started = true := by
  cases event with
  | setPacketCallback context callback =>
      simp only [Handle.Steps, Handle.step, stunnelSetPacketCallback, CoreContext.setPacketCallback,
        sound.lock_ok, ok_bind, pure_eq_ok, Except.map, Except.ok.injEq, Prod.mk.injEq,
        Option.some.injEq] at stepped
      obtain ⟨rfl, _⟩ := stepped
      simp
  | clearPacketCallback =>
      simp only [Handle.Steps, Handle.step, stunnelClearPacketCallback,
        CoreContext.clearPacketCallback, sound.lock_ok, ok_bind, pure_eq_ok, Except.map,
        Except.ok.injEq, Prod.mk.injEq, Option.some.injEq] at stepped
      obtain ⟨rfl, _⟩ := stepped
      simp
  | start =>
      simp only [Handle.Steps, Handle.step, stunnelStart, CoreContext.start, sound.lock_ok, ok_bind]
        at stepped
      split at stepped <;> cases stepped <;> rename_i callback <;>
        simp_all [CoreContext.registered, Option.isSome_iff_ne_none]
  | stop => cases stepped
  | processPacket | task | drop =>
      obtain ⟨impossible, _⟩ | ⟨_, same, changed⟩ :=
        step_change api (serves_stable api) sound stepped
      · cases impossible
      cases same
      cases changed <;> simp_all [Event.isControl]

theorem Change.only_callback {first : CoreContext S} (changed : Change ctx event outputs ctx')
    (fresh : first.started = false) (empty : first.runtime = .new) (still : ctx'.started = false)
    (only : OnlyCallback first ctx) : outputs = [] ∧ OnlyCallback first ctx' := by
  obtain ⟨device, rfl, inbound⟩ := only
  have nobody : ∀ id, first.runtime.tasks.lookup id = none := by
    intro id
    rw [empty]
    rfl
  cases changed with
  | @control event device started _ same =>
      obtain rfl : started = first.started := Eq.trans still fresh.symm
      exact ⟨rfl, device, rfl, same.trans inbound⟩
  | ignored | absent | alive => exact ⟨rfl, device, rfl, inbound⟩
  | packet started => cases started.symm.trans fresh
  | mismatched live | tcp live | udp live | tcpDropped live | udpDropped live =>
      cases (nobody _).symm.trans live

/-- In every run of a core it works from the first call of `stunnel_start` with a callback on.
Before that it does nothing, and nothing of it changes but its callback. -/
theorem CoreRun.works_once_started (api : S.ApiLaws) (poll : S.PollLaws) {config : AppConfig}
    {history : Runs.History (Handle S) Event (List Output)}
    (run : CoreRun S config history (some ctx)) :
    (ctx.started = true ↔ Began history) ∧ (¬ Began history → (∀ x ∈ history, x.output = []) ∧
      ∃ first, CoreContext.new S config = .ok first ∧ OnlyCallback first ctx) := by
  refine (run.history_invariant api poll (serves_stable api)
    (P := fun history ctx => ctx.registered = registration history ∧
      (ctx.started = true ↔ Began history) ∧ (¬ Began history → (∀ x ∈ history, x.output = []) ∧
        ∃ first, CoreContext.new S config = .ok first ∧ OnlyCallback first ctx)) ?_ ?_).2
  · intro ctx created
    obtain ⟨registered, idle, _, engine⟩ := CoreContext.new_fresh created
    refine ⟨registered, by simp [idle, Began], fun _ => ⟨by simp, ctx, created, _, ?_, rfl⟩⟩
    rw [← engine]
  · rintro history ctx event outputs ctx' sound ⟨registered, started, before⟩ stepped changed
    have begins : ctx'.started = true ↔ Began (⟨some ctx, event, outputs, some ctx'⟩ :: history) := by
      rw [sound.starts api stepped, registered, started]
      rfl
    refine ⟨?_, begins, fun idle => ?_⟩
    · rw [sound.registers api stepped, registered]
      rfl
    · obtain ⟨silent, first, created, only⟩ := before fun began => idle (.inr began)
      have still : ctx'.started = false := Bool.eq_false_iff.mpr fun works => idle (begins.mp works)
      obtain ⟨_, fresh, empty, _⟩ := CoreContext.new_fresh created
      obtain ⟨rfl, only⟩ := changed.only_callback fresh empty still only
      exact ⟨List.forall_mem_cons.mpr ⟨rfl, silent⟩, first, created, only⟩

end

/-- The core is started too early and gets a packet, and then it has its callback. -/
theorem works_once_started_early : ∃ history ctx,
    CoreRun Reference.stack quicConfig history (some ctx) ∧ history.length = 3 ∧
    ctx.registered = some (0, 0) ∧ ¬ Began history ∧ (∀ x ∈ history, x.output = []) ∧
    ∃ first, CoreContext.new Reference.stack quicConfig = .ok first ∧ OnlyCallback first ctx := by
  obtain ⟨history, handle, run, checked⟩ := CoreContext.replay_run Reference.stack quicConfig
    [.start, .processPacket (some (Wire.tcpFrame hostAddr tunAddr 1000 80 100 0
      (Wire.flags true false false) [])) 0, .setPacketCallback 0 0]
    (fun history handle => handle.any fun ctx =>
      !ctx.started && (history.length == 3 && ctx.registered == some (0, 0))) (by decide +kernel)
  obtain ⟨ctx, rfl, checked⟩ := (Option.any_eq_true _ _).mp checked
  obtain ⟨idle, checked⟩ := Bool.and_eq_true_iff.mp checked
  obtain ⟨long, registered⟩ := Bool.and_eq_true_iff.mp checked
  obtain ⟨begins, before⟩ := run.works_once_started Reference.api Reference.poll_laws
  have idle : ¬ Began history := fun began => by simp [begins.mpr began] at idle
  exact ⟨history, ctx, run, beq_iff_eq.mp long, beq_iff_eq.mp registered, idle, before idle⟩

end StunnelIos
