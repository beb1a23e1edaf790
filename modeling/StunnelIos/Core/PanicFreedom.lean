import StunnelIos.Smoltcp.ReferenceLaws
import StunnelIos.Core.Sessions

/-! When the packet entry point returns. Its unwraps are those of the lock, of
`listen` and of `bind`; the first never fails, the others fail on port 0. -/
namespace StunnelIos
variable {S : Smoltcp}

/-- The packet is not one that makes a started core open a session to port 0. -/
def Admits (handle : Handle S) (packet : Option Bytes) : Prop :=
  ∀ ctx bytes, handle = some ctx → packet = some bytes → ctx.started = true →
    opensPortZero ctx.engine.value bytes = false

theorem Sound.processPacket_returns {R : Task → Socket S.TcpSocket S.UdpSocket → Prop}
    {ctx : CoreContext S} (api : S.ApiLaws) (sound : Sound R ctx) (bytes : Bytes) (now : Instant) :
    (∃ result, ctx.processPacket bytes now = .ok result) ↔
      (ctx.started = true → opensPortZero ctx.engine.value bytes = false) := by
  cases started : ctx.started with
  | false =>
      rw [processPacket_not_started started]
      exact ⟨fun _ impossible => absurd impossible Bool.false_ne_true, fun _ => ⟨_, rfl⟩⟩
  | true =>
      obtain ⟨zero, panic, refused⟩ | ⟨nonzero, result, passed, intercepted⟩ :=
        interceptPacket_cases api ctx.engine.value ctx.runtime bytes
      · rw [processPacket_error sound started now refused, zero]
        simp
      · rw [processPacket_ok sound started now passed intercepted, nonzero]
        simp

/-- In every reachable state the entry point returns normally exactly on the
packets that open no session to port 0. -/
theorem processPacket_returns_iff (api : S.ApiLaws) (poll : S.PollLaws) {config : AppConfig}
    {history : Runs.History (Handle S) Event (List Output)} {handle : Handle S}
    (run : CoreRun S config history handle) (packet : Option Bytes) (now : Instant) :
    (∃ result, stunnelProcessPacket handle packet now = .ok result) ↔ Admits handle packet := by
  have sound := run.sound api poll (serves_stable api)
  cases handle with
  | none => exact ⟨fun _ _ _ absent => by simp at absent, fun _ => ⟨_, rfl⟩⟩
  | some ctx =>
      cases packet with
      | none => exact ⟨fun _ _ _ _ absent => by simp at absent, fun _ => ⟨_, rfl⟩⟩
      | some bytes =>
          have returns := (sound ctx rfl).processPacket_returns api bytes now
          constructor
          · rintro ⟨result, returned⟩ _ _ ⟨⟩ ⟨⟩
            refine returns.mp ?_
            simp only [stunnelProcessPacket, Except.map] at returned
            split at returned
            · contradiction
            · exact ⟨_, ‹_›⟩
          · intro admitted
            obtain ⟨result, returned⟩ := returns.mpr (admitted ctx bytes rfl rfl)
            exact ⟨_, by simp only [stunnelProcessPacket, returned, Except.map]; rfl⟩

def synToPort (port : UInt16) : Bytes :=
  Wire.tcpFrame hostAddr ⟨93, 184, 216, 34⟩ 40000 port 1 0 (Wire.flags true false false) []

/-- On a core that has just been started, a SYN to port 0 panics. -/
theorem processPacket_panics : ¬ ∀ S : Smoltcp, S.ApiLaws → S.PollLaws →
    ∀ config history (handle : Handle S), CoreRun S config history handle →
      ∀ packet now, ∃ result, stunnelProcessPacket handle packet now = .ok result := by
  intro returns
  obtain ⟨history, handle, run, panics⟩ := CoreContext.replay_run Reference.stack quicConfig startUp
    (fun _ handle => (stunnelProcessPacket handle (some (synToPort 0)) 0).toOption.isNone)
    (by decide +kernel)
  obtain ⟨result, returned⟩ :=
    returns _ Reference.api Reference.poll_laws _ _ _ run (some (synToPort 0)) 0
  rw [returned] at panics
  contradiction

/-- On the same core the call with a SYN to port 443 returns. -/
theorem processPacket_returns_iff_started : ∃ history ctx,
    CoreRun Reference.stack quicConfig history (some ctx) ∧ ctx.started = true ∧
      Admits (some ctx) (some (synToPort 443)) ∧
      ∃ result, stunnelProcessPacket (some ctx) (some (synToPort 443)) 0 = .ok result := by
  obtain ⟨history, handle, run, started⟩ := CoreContext.replay_run Reference.stack quicConfig
    startUp (fun _ handle => handle.any fun ctx =>
      ctx.started && !opensPortZero ctx.engine.value (synToPort 443)) (by decide +kernel)
  obtain ⟨ctx, rfl, checked⟩ := (Option.any_eq_true _ _).mp started
  simp only [Bool.and_eq_true, Bool.not_eq_eq_eq_not, Bool.not_true] at checked
  have admitted : Admits (some ctx) (some (synToPort 443)) := by
    rintro _ _ ⟨⟩ ⟨⟩ _
    exact checked.2
  exact ⟨history, ctx, run, checked.1, admitted,
    (processPacket_returns_iff Reference.api Reference.poll_laws run _ 0).mpr admitted⟩

end StunnelIos
