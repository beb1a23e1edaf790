import Mathlib.Data.List.Basic
import StunnelIos.Library.Runs

/-! Components of a system. A component is born once, takes steps of its own while the rest
of the system moves around it, and may go. Whatever the interleaving, it has made a run of
its own, which is read off the history of the system. -/
namespace Runs
universe u v w x y z
variable {σ : Type u} {ε : Type v} {ο : Type w} {γ : Type x} {ε' : Type y} {ο' : Type z}

/-- How a component shows in a system: `view` is its state, if it is there, and `own` its
step in a transition of the system, if that is one. `Unborn` says that it has not been there
yet. The laws are about the steps from states with the invariant `Inv`. -/
structure Component (step : σ → ε → ο → σ → Prop) (Inv : σ → Prop)
    (own_step : γ → ε' → ο' → γ → Prop) (Initial : γ → Prop) (view : σ → Option γ)
    (own : Transition σ ε ο → Option (Transition γ ε' ο')) (Unborn : σ → Prop) : Prop where
  absent : ∀ {s}, Inv s → Unborn s → view s = none
  unborn : ∀ {s e o t}, Inv s → step s e o t → Unborn t → Unborn s
  birth : ∀ {s e o t c}, Inv s → step s e o t → view s = none → view t = some c →
    Unborn s ∧ Initial c
  beside : ∀ {s e o t c c'}, Inv s → step s e o t → own ⟨s, e, o, t⟩ = none → view s = some c →
    view t = some c' → c' = c
  moves : ∀ {s e o t m}, Inv s → step s e o t → own ⟨s, e, o, t⟩ = some m →
    own_step m.before m.event m.output m.after ∧ view s = some m.before ∧
      ∀ c', view t = some c' → c' = m.after

section
variable {step : σ → ε → ο → σ → Prop} {Inv : σ → Prop} {own_step : γ → ε' → ο' → γ → Prop}
  {Initial : γ → Prop} {view : σ → Option γ}
  {own : Transition σ ε ο → Option (Transition γ ε' ο')} {Unborn : σ → Prop}
  {start s : σ} {history : History σ ε ο}

/-- The steps of the component in a history of the system. -/
def ownHistory (own : Transition σ ε ο → Option (Transition γ ε' ο')) (history : History σ ε ο) :
    History γ ε' ο' := history.filterMap own

theorem Component.no_history (component : Component step Inv own_step Initial view own Unborn)
    (run : Run step start history s)
    (inv : ∀ {history s}, Run step start history s → Inv s) (unborn : Unborn s) :
    ownHistory own history = [] := by
  induction run with
  | nil => rfl
  | @next history s e o t earlier stepped ih =>
      have before := component.unborn (inv earlier) stepped unborn
      cases mine : own ⟨s, e, o, t⟩ with
      | none => simpa only [ownHistory, List.filterMap_cons_none mine] using ih before
      | some m =>
          have there := (component.moves (inv earlier) stepped mine).2.1
          cases there.symm.trans (component.absent (inv earlier) before)

/-- A component that is there has made a run of its own. -/
theorem Component.run (component : Component step Inv own_step Initial view own Unborn)
    (run : Run step start history s) (empty : view start = none)
    (inv : ∀ {history s}, Run step start history s → Inv s) {c : γ} (there : view s = some c) :
    ∃ first, Initial first ∧ Run own_step first (ownHistory own history) c := by
  induction run generalizing c with
  | nil => cases empty.symm.trans there
  | @next history s e o t earlier stepped ih =>
      have good := inv earlier
      cases mine : own ⟨s, e, o, t⟩ with
      | none =>
          simp only [ownHistory, List.filterMap_cons_none mine]
          cases older : view s with
          | none =>
              obtain ⟨unborn, initial⟩ := component.birth good stepped older there
              have fresh : history.filterMap own = [] := component.no_history earlier inv unborn
              rw [fresh]
              exact ⟨c, initial, .nil⟩
          | some c' =>
              cases component.beside good stepped mine older there
              exact ih older
      | some m =>
          obtain ⟨moved, before, after⟩ := component.moves good stepped mine
          obtain ⟨first, initial, path⟩ := ih before
          cases after c there
          refine ⟨first, initial, ?_⟩
          simp only [ownHistory, List.filterMap_cons_some mine]
          exact path.next moved

end

end Runs
