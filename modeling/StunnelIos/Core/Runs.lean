import StunnelIos.Library.Runs
import StunnelIos.Core.Ownership

/-! Runs of a core from its creation, in any interleaving of the calls of the C side
and the steps of the session tasks. -/
namespace StunnelIos
variable {S : Smoltcp} {R : Task → Socket S.TcpSocket S.UdpSocket → Prop}

/-- The steps of a core that return normally. A panic in a call of the C side ends
the process, and with it the run. -/
def Handle.Steps (handle : Handle S) (event : Event) (outputs : List Output)
    (handle' : Handle S) : Prop :=
  Handle.step handle event = .ok (handle', outputs)

/-- A run of a core from its creation with some configuration. -/
def CoreRun (S : Smoltcp) (config : AppConfig)
    (history : Runs.History (Handle S) Event (List Output)) (handle : Handle S) : Prop :=
  ∃ ctx, CoreContext.new S config = .ok ctx ∧ Runs.Run Handle.Steps (some ctx) history handle

/-- What `stunnel_create` returns, unless it is null, is the start of a run. -/
theorem stunnelCreate_run {fromStr : String → Except String AppConfig}
    {configJson : Option String} {ctx : CoreContext S}
    (created : stunnelCreate S fromStr configJson = .ok (some ctx)) :
    ∃ config, CoreRun S config [] (some ctx) := by
  unfold stunnelCreate at created
  split at created
  · cases created
  · split at created
    · cases created
    · rename_i config _
      split at created
      · cases created
      · cases started : CoreContext.new S config with
        | error panic =>
            rw [started] at created
            cases created
        | ok ctx' =>
            rw [started] at created
            cases created
            exact ⟨config, ctx, started, .nil⟩

/-- A handle is sound when it is null or its core is. -/
def Handle.Sound (R : Task → Socket S.TcpSocket S.UdpSocket → Prop) (handle : Handle S) : Prop :=
  ∀ ctx, handle = some ctx → StunnelIos.Sound R ctx

theorem Handle.Steps.of_none {event : Event} {outputs : List Output} {handle' : Handle S}
    (stepped : Handle.Steps none event outputs handle') : handle' = none ∧ outputs = [] := by
  cases event <;>
    simp_all [Handle.Steps, Handle.step, stunnelSetPacketCallback, stunnelClearPacketCallback,
      stunnelStart, stunnelProcessPacket, stunnelStop, Except.map]

theorem Handle.Steps.of_task {ctx : CoreContext S} {id : TaskId} {event : Sum TcpEvent UdpEvent}
    {outputs : List Output} {handle' : Handle S}
    (stepped : Handle.Steps (some ctx) (.task id event) outputs handle') :
    handle' = some (ctx.stepTask id event).1 ∧ outputs = (ctx.stepTask id event).2 := by
  obtain ⟨after, shown⟩ := Prod.mk.inj (Except.ok.inj stepped)
  exact ⟨after.symm, shown.symm⟩

theorem Handle.Steps.sound (api : S.ApiLaws) (poll : S.PollLaws) (stable : Stable R)
    {handle handle' : Handle S} {event : Event} {outputs : List Output}
    (sound : Handle.Sound R handle) (stepped : Handle.Steps handle event outputs handle') :
    Handle.Sound R handle' := by
  rintro ctx' rfl
  cases handle with
  | none => cases stepped.of_none.1
  | some ctx =>
      obtain ⟨_, absent, _⟩ | ⟨next, same, changed⟩ :=
        step_change api stable (sound ctx rfl) stepped
      · contradiction
      · cases same
        exact changed.sound api poll stable (sound ctx rfl)

theorem CoreRun.sound (api : S.ApiLaws) (poll : S.PollLaws) (stable : Stable R)
    {config : AppConfig} {history : Runs.History (Handle S) Event (List Output)}
    {handle : Handle S} (run : CoreRun S config history handle) : Handle.Sound R handle := by
  obtain ⟨initial, created, run⟩ := run
  refine run.invariant (P := Handle.Sound R) ?_ ?_
  · intro ctx same
    cases same
    obtain ⟨fresh, same, sound⟩ := CoreContext.new_sound (R := R) api config
    cases created.symm.trans same
    exact sound
  · intro s e o t sound stepped
    exact Handle.Steps.sound api poll stable sound stepped

theorem CoreContext.new_runtime {config : AppConfig} {ctx : CoreContext S}
    (created : CoreContext.new S config = .ok ctx) : ctx.runtime = .new := by
  unfold CoreContext.new at created
  cases engine : StunnelEngine.new S with
  | error panic =>
      rw [engine] at created
      contradiction
  | ok engine' =>
      rw [engine] at created
      cases created
      rfl

/-- The invariant rule for cores, with the history: true of a new core, and kept by
every change of a sound one. -/
theorem CoreRun.history_invariant (api : S.ApiLaws) (poll : S.PollLaws) (stable : Stable R)
    {config : AppConfig} {P : Runs.History (Handle S) Event (List Output) → CoreContext S → Prop}
    (initial : ∀ ctx, CoreContext.new S config = .ok ctx → P [] ctx)
    (preserved : ∀ history ctx event outputs ctx', StunnelIos.Sound R ctx → P history ctx →
      Handle.Steps (some ctx) event outputs (some ctx') → Change ctx event outputs ctx' →
      P (⟨some ctx, event, outputs, some ctx'⟩ :: history) ctx')
    {history : Runs.History (Handle S) Event (List Output)} {ctx : CoreContext S}
    (run : CoreRun S config history (some ctx)) : P history ctx := by
  obtain ⟨first, created, run⟩ := run
  refine run.history_invariant
    (P := fun history handle => ∀ ctx, handle = some ctx → P history ctx) ?_ ?_ ctx rfl
  · rintro ctx ⟨⟩
    exact initial _ created
  · rintro earlier before event outputs after path ih stepped ctx' rfl
    cases before with
    | none => cases (Handle.Steps.of_none stepped).1
    | some ctx =>
        have sound := CoreRun.sound api poll stable ⟨first, created, path⟩ ctx rfl
        obtain ⟨_, absent, _⟩ | ⟨_, same, changed⟩ := step_change api stable sound stepped
        · contradiction
        · cases same
          exact preserved _ ctx _ _ _ sound (ih ctx rfl) stepped changed

theorem CoreRun.sound_before (api : S.ApiLaws) (poll : S.PollLaws) (stable : Stable R)
    {config : AppConfig} {history : Runs.History (Handle S) Event (List Output)}
    {handle : Handle S} (run : CoreRun S config history handle)
    {x : Runs.Transition (Handle S) Event (List Output)} (taken : x ∈ history) :
    Handle.Sound R x.before ∧ Handle.Steps x.before x.event x.output x.after := by
  obtain ⟨ctx, created, run⟩ := run
  obtain ⟨⟨earlier, path⟩, stepped⟩ := run.member taken
  exact ⟨CoreRun.sound api poll stable ⟨ctx, created, path⟩, stepped⟩

/-- What agrees on every step of a sound core, with a run before it in which the second has
held throughout, agrees on runs. -/
theorem CoreRun.throughout_iff_of_earlier (api : S.ApiLaws) (poll : S.PollLaws)
    (stable : Stable R) {config : AppConfig}
    {history : Runs.History (Handle S) Event (List Output)} {handle : Handle S}
    (run : CoreRun S config history handle)
    {P Q : Runs.Transition (Handle S) Event (List Output) →
      Runs.History (Handle S) Event (List Output) → Prop}
    (agree : ∀ x earlier, CoreRun S config earlier x.before → Runs.Throughout Q earlier →
      Handle.Sound R x.before → Handle.Steps x.before x.event x.output x.after →
      (P x earlier ↔ Q x earlier)) :
    Runs.Throughout P history ↔ Runs.Throughout Q history := by
  obtain ⟨ctx, created, run⟩ := run
  refine run.throughout_iff_of_earlier ?_
  intro earlier s e o t path before stepped
  exact agree ⟨s, e, o, t⟩ earlier ⟨ctx, created, path⟩ before
    (CoreRun.sound api poll stable ⟨ctx, created, path⟩) stepped

/-- What agrees on every step of a sound core, with the run before it, agrees on runs. -/
theorem CoreRun.throughout_iff (api : S.ApiLaws) (poll : S.PollLaws) (stable : Stable R)
    {config : AppConfig} {history : Runs.History (Handle S) Event (List Output)}
    {handle : Handle S} (run : CoreRun S config history handle)
    {P Q : Runs.Transition (Handle S) Event (List Output) →
      Runs.History (Handle S) Event (List Output) → Prop}
    (agree : ∀ x earlier, CoreRun S config earlier x.before → Handle.Sound R x.before →
      Handle.Steps x.before x.event x.output x.after → (P x earlier ↔ Q x earlier)) :
    Runs.Throughout P history ↔ Runs.Throughout Q history :=
  run.throughout_iff_of_earlier api poll stable fun x earlier run _ sound stepped =>
    agree x earlier run sound stepped

def CoreContext.afterPacket (ctx : CoreContext S)
    (result : StunnelEngine S × Runtime × List Output) (bytes : Bytes) (now : Instant) :
    CoreContext S :=
  { ctx with engine := .new (result.1.delivered now bytes), runtime := result.2.1 }

/-- `P` holds of every packet that a started core is given in the run, with the
core before and after it. -/
def EachPacket (history : Runs.History (Handle S) Event (List Output))
    (P : CoreContext S → Bytes → Instant → CoreContext S → Prop) : Prop :=
  ∀ x ∈ history, ∀ ctx bytes now ctx', x.before = some ctx →
    x.event = .processPacket (some bytes) now → x.after = some ctx' → ctx.started = true →
      P ctx bytes now ctx'

def Event.packet : Event → Option (Bytes × Instant)
  | .processPacket (some bytes) now => some (bytes, now)
  | _ => none

def Event.stepped : Event → Option TaskId
  | .task id _ => some id
  | _ => none

instance EachPacket.decidable {history : Runs.History (Handle S) Event (List Output)}
    {P : CoreContext S → Bytes → Instant → CoreContext S → Prop}
    [∀ ctx bytes now ctx', Decidable (P ctx bytes now ctx')] : Decidable (EachPacket history P) :=
  decidable_of_iff (∀ x ∈ history, ∀ ctx ∈ x.before, ∀ packet ∈ x.event.packet, ∀ ctx' ∈ x.after,
      ctx.started = true → P ctx packet.1 packet.2 ctx') <| by
    constructor
    · intro holds x taken ctx bytes now ctx' before event after started
      exact holds x taken ctx before (bytes, now) (by rw [event]; rfl) ctx' after started
    · rintro holds x taken ctx before ⟨bytes, now⟩ event ctx' after started
      refine holds x taken ctx bytes now ctx' before ?_ after started
      unfold Event.packet at event
      split at event
      · cases event
        assumption
      · contradiction

/-- What agrees on every packet of a sound core agrees on runs. -/
theorem CoreRun.eachPacket_iff (api : S.ApiLaws) (poll : S.PollLaws) (stable : Stable R)
    {config : AppConfig} {history : Runs.History (Handle S) Event (List Output)}
    {handle : Handle S} (run : CoreRun S config history handle)
    {P Q : CoreContext S → Bytes → Instant → CoreContext S → Prop}
    (agree : ∀ ctx bytes now result, Sound R ctx → ctx.started = true →
      interceptPacket ctx.engine.value ctx.runtime bytes = .ok result →
      Intercepted ctx.engine.value ctx.runtime bytes result →
      (P ctx bytes now (ctx.afterPacket result bytes now) ↔
        Q ctx bytes now (ctx.afterPacket result bytes now))) :
    EachPacket history P ↔ EachPacket history Q := by
  have same : ∀ x ∈ history, ∀ ctx bytes now ctx', x.before = some ctx →
      x.event = .processPacket (some bytes) now → x.after = some ctx' → ctx.started = true →
      (P ctx bytes now ctx' ↔ Q ctx bytes now ctx') := by
    intro x taken ctx bytes now ctx' before event after started
    obtain ⟨sound, stepped⟩ := run.sound_before api poll stable taken
    have sound := sound ctx before
    rw [before, event, after] at stepped
    simp only [Handle.Steps, Handle.step, stunnelProcessPacket] at stepped
    obtain ⟨_, panic, refused⟩ | ⟨_, result, passed, intercepted⟩ :=
      interceptPacket_cases api ctx.engine.value ctx.runtime bytes
    · rw [processPacket_error sound started now refused] at stepped
      contradiction
    · rw [processPacket_ok sound started now passed intercepted] at stepped
      simp only [Except.map, Except.ok.injEq, Prod.mk.injEq, Option.some.injEq] at stepped
      exact stepped.1 ▸ agree ctx bytes now result sound started passed intercepted
  constructor
  · intro holds x taken ctx bytes now ctx' before event after started
    exact (same x taken ctx bytes now ctx' before event after started).mp
      (holds x taken ctx bytes now ctx' before event after started)
  · intro holds x taken ctx bytes now ctx' before event after started
    exact (same x taken ctx bytes now ctx' before event after started).mpr
      (holds x taken ctx bytes now ctx' before event after started)

/-- Evaluate a core on a list of events, oldest first. -/
def CoreContext.replay (S : Smoltcp) (config : AppConfig) (events : List Event) :
    Option (Runs.History (Handle S) Event (List Output) × Handle S) :=
  match CoreContext.new S config with
  | .ok ctx => Runs.replay Handle.step [] (some ctx) events
  | .error _ => none

/-- An evaluation that passes a check is a run that passes it. -/
theorem CoreContext.replay_run (S : Smoltcp) (config : AppConfig) (events : List Event)
    (check : Runs.History (Handle S) Event (List Output) → Handle S → Bool)
    (passed : ((CoreContext.replay S config events).any fun r => check r.1 r.2) = true) :
    ∃ history handle, CoreRun S config history handle ∧ check history handle = true := by
  obtain ⟨result, evaluated, checked⟩ := (Option.any_eq_true _ _).mp passed
  unfold CoreContext.replay at evaluated
  split at evaluated
  · rename_i ctx created
    exact ⟨result.1, result.2, ⟨ctx, created, Runs.replay_run .nil evaluated⟩, checked⟩
  · contradiction

theorem CoreContext.replay_holds (S : Smoltcp) (config : AppConfig) (events : List Event)
    (P : Runs.History (Handle S) Event (List Output) → Handle S → Prop)
    [∀ history handle, Decidable (P history handle)]
    (passed : ((CoreContext.replay S config events).any fun r => decide (P r.1 r.2)) = true) :
    ∃ history handle, CoreRun S config history handle ∧ P history handle := by
  obtain ⟨history, handle, run, holds⟩ :=
    CoreContext.replay_run S config events (fun history handle => decide (P history handle)) passed
  exact ⟨history, handle, run, of_decide_eq_true holds⟩

theorem eq_ok_of_toOption {ε α : Type*} {x : Except ε α} {a : α} (found : x.toOption = some a) :
    x = .ok a := by
  cases x with
  | error e => contradiction
  | ok b => exact congrArg Except.ok (Option.some.inj found)

/-- The same with a check of the last step. -/
theorem CoreContext.replay_step (S : Smoltcp) (config : AppConfig) (events : List Event)
    (event : Event) (check : CoreContext S → List Output → Handle S → Bool)
    (passed : ((CoreContext.replay S config events).any fun r => r.2.any fun ctx =>
      (Handle.step (some ctx) event).toOption.any fun r => check ctx r.2 r.1) = true) :
    ∃ history ctx outputs handle',
      CoreRun S config (⟨some ctx, event, outputs, handle'⟩ :: history) handle' ∧
        check ctx outputs handle' = true := by
  obtain ⟨history, handle, ⟨initial, created, run⟩, checked⟩ :=
    CoreContext.replay_run S config events (fun _ handle => handle.any fun ctx =>
      (Handle.step (some ctx) event).toOption.any fun r => check ctx r.2 r.1) passed
  obtain ⟨ctx, rfl, stepped⟩ := (Option.any_eq_true _ _).mp checked
  obtain ⟨⟨handle', outputs⟩, returned, checked⟩ := (Option.any_eq_true _ _).mp stepped
  exact ⟨history, ctx, outputs, handle',
    ⟨initial, created, run.next (eq_ok_of_toOption returned)⟩, checked⟩

/-- The same where the last step is a packet. -/
theorem CoreContext.replay_packet (S : Smoltcp) (config : AppConfig) (events : List Event)
    (bytes : Bytes) (now : Instant) (check : CoreContext S → CoreContext S → Bool)
    (passed : ((CoreContext.replay S config events).any fun r => r.2.any fun ctx =>
      (Handle.step (some ctx) (.processPacket (some bytes) now)).toOption.any fun r =>
        ctx.started && r.1.any (check ctx)) = true) :
    ∃ history ctx ctx', CoreRun S config history (some ctx') ∧ ctx.started = true ∧
      (∀ P, EachPacket history P → P ctx bytes now ctx') ∧ check ctx ctx' = true := by
  obtain ⟨history, ctx, outputs, handle', run, checked⟩ :=
    CoreContext.replay_step S config events (.processPacket (some bytes) now)
      (fun ctx _ handle' => ctx.started && handle'.any (check ctx)) passed
  obtain ⟨started, checked⟩ := Bool.and_eq_true_iff.mp checked
  obtain ⟨ctx', rfl, accepted⟩ := (Option.any_eq_true _ _).mp checked
  refine ⟨_, ctx, ctx', run, started, ?_, accepted⟩
  intro P holds
  exact holds _ List.mem_cons_self ctx bytes now ctx' rfl rfl rfl started

/-! Inputs for evaluations: a configuration, the calls that start a core, and a
host in the subnet of the tunnel. -/

def quicConfig : AppConfig := ⟨"s2n-quic", "127.0.0.1:443", "localhost", "client.crt", "client.key"⟩

def startUp : List Event := [.setPacketCallback 0 0, .start]

def hostAddr : Ipv4Address := ⟨192, 168, 1, 2⟩

end StunnelIos
