import Mathlib.Data.List.Forall2
import StunnelIos.Core.HandleOwnership

/-! The queue of inbound packets between the packet entry point and the stack. A push
is followed by a poll under one lock, and a poll empties the queue, so it never holds
more than the packet of the call. -/
namespace StunnelIos
variable {S : Smoltcp}

/-- The packets that the interface obtains from the device in a step. -/
inductive Obtains : Runs.Transition (Handle S) Event (List Output) → List Bytes → Prop where
  | polled {ctx ctx' : CoreContext S} {bytes now opened} {engine pushed : StunnelEngine S}
      {runtime : Runtime} {result : PollResult S.Interface S.TcpSocket S.UdpSocket} :
      ctx.started = true →
      interceptPacket ctx.engine.value ctx.runtime bytes = .ok (engine, runtime, opened) →
      engine.pushInboundPacket bytes = (true, pushed) →
      result = S.poll pushed.interface now pushed.device.receiveAll.1 pushed.sockets →
      ctx'.engine.value.interface = result.interface →
      ctx'.engine.value.sockets = result.sockets →
      Obtains ⟨some ctx, .processPacket (some bytes) now,
        opened ++ (result.frames.flatMap pushed.device.transmit ++ pushed.wakers.values.map .wake),
        some ctx'⟩ pushed.device.receiveAll.1
  -- Nothing else polls the stack, so the interface stays as it is.
  | other {x} :
      (∀ ctx bytes now, x.before = some ctx → x.event = .processPacket (some bytes) now →
        ctx.started = false) →
      (∀ ctx ctx', x.before = some ctx → x.after = some ctx' →
        ctx'.engine.value.interface = ctx.engine.value.interface) →
      Obtains x []

/-- The packet that a started core is called with in this step. -/
def passedIn (x : Runs.Transition (Handle S) Event (List Output)) : List Bytes :=
  match x.before, x.event with
  | some ctx, .processPacket (some bytes) _ => if ctx.started then [bytes] else []
  | _, _ => []

theorem passedIn_started {ctx : CoreContext S} {bytes : Bytes} {now : Instant}
    {outputs : List Output} {after : Handle S} (started : ctx.started = true) :
    passedIn ⟨some ctx, .processPacket (some bytes) now, outputs, after⟩ = [bytes] := if_pos started

section
variable {R : Task → Socket S.TcpSocket S.UdpSocket → Prop} {ctx ctx' : CoreContext S}

theorem Sound.push (sound : Sound R ctx) {bytes : Bytes}
    {result : StunnelEngine S × Runtime × List Output}
    (intercepted : Intercepted ctx.engine.value ctx.runtime bytes result) :
    result.1.pushInboundPacket bytes = (true, { result.1 with
      device := { result.1.device with inboundPackets := [bytes] } }) := by
  have empty : result.1.device.inboundPackets = [] := by
    rw [intercepted.device.1]
    exact sound.queue
  exact (@poll_single S result.1 bytes 0 empty).1

theorem Obtains.of_other {x : Runs.Transition (Handle S) Event (List Output)}
    (idle : ∀ ctx bytes now, x.before = some ctx → x.event = .processPacket (some bytes) now →
      ctx.started = false)
    (same : ∀ ctx ctx', x.before = some ctx → x.after = some ctx' →
      ctx'.engine.value.interface = ctx.engine.value.interface) : Obtains x (passedIn x) := by
  have nothing : passedIn x = [] := by
    unfold passedIn
    split
    · rename_i before event
      rw [idle _ _ _ before event]
      rfl
    · rfl
  exact nothing ▸ .other idle same

theorem Change.obtains (sound : Sound R ctx) {event : Event} {outputs : List Output}
    (changed : Change ctx event outputs ctx') :
    Obtains ⟨some ctx, event, outputs, some ctx'⟩
      (passedIn ⟨some ctx, event, outputs, some ctx'⟩) := by
  cases changed with
  | packet started passed intercepted =>
      rw [passedIn_started started]
      exact .polled started passed (sound.push intercepted) (by rw [TunDevice.receiveAll_eq]) rfl rfl
  | ignored idle =>
      refine .of_other ?_ (by rintro _ _ ⟨⟩ ⟨⟩; rfl)
      rintro _ _ _ ⟨⟩ ⟨⟩
      exact idle.resolve_left (Option.some_ne_none _)
  | control control =>
      refine .of_other ?_ (by rintro _ _ ⟨⟩ ⟨⟩; rfl)
      rintro _ _ _ ⟨⟩ rfl
      contradiction
  | absent | mismatched | alive | tcpDropped | udpDropped =>
      exact .of_other (by simp) (by rintro _ _ ⟨⟩ ⟨⟩; rfl)
  | tcp _ _ _ touches | udp _ _ _ touches =>
      exact .of_other (by simp) (by rintro _ _ ⟨⟩ ⟨⟩; exact touches.interface)

end

/-- In every run the interface obtains exactly the packets that the started core was
called with, in the order of the calls; and the queue is empty whenever the lock is free,
so that the branch for a full queue is never taken. -/
theorem inbound_packets_in_order (api : S.ApiLaws) (poll : S.PollLaws) {config : AppConfig}
    {history : Runs.History (Handle S) Event (List Output)} {handle : Handle S}
    (run : CoreRun S config history handle) :
    (∃ batches, List.Forall₂ Obtains history.reverse batches ∧
      batches.flatten = history.reverse.flatMap passedIn) ∧
    ∀ ctx, handle = some ctx → ctx.engine.value.device.inboundPackets = [] ∧
      ∀ bytes result, interceptPacket ctx.engine.value ctx.runtime bytes = .ok result →
        (result.1.pushInboundPacket bytes).1 = true := by
  constructor
  · refine ⟨history.reverse.map passedIn, ?_, rfl⟩
    rw [List.forall₂_map_right_iff, List.forall₂_same]
    rintro ⟨before, event, outputs, after⟩ taken
    obtain ⟨sound, stepped⟩ := run.sound_before api poll (serves_stable api)
      (List.mem_reverse.mp taken)
    cases before with
    | none => exact .of_other (by simp) (by simp)
    | some ctx =>
        obtain ⟨rfl, rfl, rfl⟩ | ⟨ctx', rfl, changed⟩ :=
          step_change api (serves_stable api) (sound ctx rfl) stepped
        · exact .of_other (by simp) (by simp)
        · exact changed.obtains (sound ctx rfl)
  · rintro ctx rfl
    have sound := run.sound api poll (serves_stable api) ctx rfl
    refine ⟨sound.queue, fun bytes result passed => ?_⟩
    rw [sound.push (Intercepted.of_ok api passed)]

theorem inbound_packets_in_order_threeFlows : ∃ history handle,
    CoreRun Reference.stack quicConfig history handle ∧
      (history.reverse.flatMap passedIn).length = 3 ∧
      ∃ batches, List.Forall₂ Obtains history.reverse batches ∧
        batches.flatten = history.reverse.flatMap passedIn := by
  obtain ⟨history, handle, run, three⟩ := CoreContext.replay_run Reference.stack quicConfig
    threeFlows (fun history _ => (history.reverse.flatMap passedIn).length == 3) (by decide +kernel)
  exact ⟨history, handle, run, beq_iff_eq.mp three,
    (inbound_packets_in_order Reference.api Reference.poll_laws run).1⟩

end StunnelIos
