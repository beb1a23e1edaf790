import Mathlib.Data.List.Basic

/-! Straight-line programs among other actors. Each command needs something of the state and
changes it; a program is safe when every command finds what it needs and the last state is as
it should be. What the others do in between keeps it safe if it keeps the needs. -/
namespace Commands
universe u v
variable {σ : Type u} {α : Type v} {needs : σ → α → Prop} {next : σ → α → σ}

/-- The precondition of a program, by its first command. -/
def Safe (needs : σ → α → Prop) (next : σ → α → σ) (Post : σ → Prop) : List α → σ → Prop
  | [], s => Post s
  | command :: rest, s => needs s command ∧ Safe needs next Post rest (next s command)

section
variable {Post Post' : σ → Prop} {first rest : List α} {s t : σ} {command : α}

@[simp] theorem safe_nil : Safe needs next Post [] s ↔ Post s := Iff.rfl

@[simp] theorem safe_cons : Safe needs next Post (command :: rest) s ↔
    needs s command ∧ Safe needs next Post rest (next s command) := Iff.rfl

/-- The rule of composition: the first part must leave the second one safe. -/
theorem safe_append :
    Safe needs next Post (first ++ rest) s ↔ Safe needs next (Safe needs next Post rest) first s := by
  induction first generalizing s with
  | nil => rfl
  | cons command first ih => simp only [List.cons_append, safe_cons, ih]

theorem Safe.mono (safe : Safe needs next Post first s) (implies : ∀ t, Post t → Post' t) :
    Safe needs next Post' first s := by
  induction first generalizing s with
  | nil => exact implies s safe
  | cons command first ih => exact ⟨safe.1, ih safe.2⟩

end

end Commands
