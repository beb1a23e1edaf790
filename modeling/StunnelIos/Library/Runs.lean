import Mathlib.Logic.Relation

/-! Finite runs of labelled transition systems, kept with their history. The
history is the list of transitions taken, most recent first, so that auxiliary
variables are functions of it by structural recursion. Nothing here mentions a
particular system. -/
namespace Runs
universe u v w
variable {σ : Type u} {ε : Type v} {ο : Type w}

/-- One transition of a run, with the states around it. -/
structure Transition (σ : Type u) (ε : Type v) (ο : Type w) where
  before : σ
  event : ε
  output : ο
  after : σ

/-- The transitions taken so far, most recent first. -/
abbrev History (σ : Type u) (ε : Type v) (ο : Type w) := List (Transition σ ε ο)

/-- `P` holds of every transition and the history before it. -/
def Throughout (P : Transition σ ε ο → History σ ε ο → Prop) : History σ ε ο → Prop
  | [] => True
  | x :: earlier => P x earlier ∧ Throughout P earlier

theorem throughout_and {P Q : Transition σ ε ο → History σ ε ο → Prop} {history : History σ ε ο} :
    Throughout (fun x earlier => P x earlier ∧ Q x earlier) history ↔
      Throughout P history ∧ Throughout Q history := by
  induction history with
  | nil => simp [Throughout]
  | cons x earlier ih => simp only [Throughout, ih, and_and_and_comm]

theorem Throughout.mono {P Q : Transition σ ε ο → History σ ε ο → Prop} {history : History σ ε ο}
    (holds : Throughout P history) (implies : ∀ {x earlier}, P x earlier → Q x earlier) :
    Throughout Q history := by
  induction history with
  | nil => trivial
  | cons x earlier ih => exact ⟨implies holds.1, ih holds.2⟩

instance Throughout.decidable {P : Transition σ ε ο → History σ ε ο → Prop}
    [∀ x earlier, Decidable (P x earlier)] : ∀ history, Decidable (Throughout P history)
  | [] => .isTrue trivial
  | x :: earlier =>
      have : Decidable (Throughout P earlier) := Throughout.decidable earlier
      inferInstanceAs (Decidable (P x earlier ∧ Throughout P earlier))

inductive Run (step : σ → ε → ο → σ → Prop) (start : σ) : History σ ε ο → σ → Prop where
  | nil : Run step start [] start
  | next {history s e o t} : Run step start history s → step s e o t →
      Run step start (⟨s, e, o, t⟩ :: history) t

def Reachable (step : σ → ε → ο → σ → Prop) (start s : σ) : Prop :=
  ∃ history, Run step start history s

namespace Run
variable {step : σ → ε → ο → σ → Prop} {start s t : σ} {history : History σ ε ο}

theorem reachable (run : Run step start history s) : Reachable step start s := ⟨history, run⟩

/-- The invariant rule: initial and preserved by one step, so true of every run. -/
theorem invariant {P : σ → Prop} (run : Run step start history s) (initial : P start)
    (preserved : ∀ {s e o t}, P s → step s e o t → P t) : P s := by
  induction run with
  | nil => exact initial
  | next earlier stepped ih => exact preserved ih stepped

/-- The same rule for invariants that speak of the history too. -/
theorem history_invariant {P : History σ ε ο → σ → Prop} (run : Run step start history s)
    (initial : P [] start)
    (preserved : ∀ {history s e o t}, Run step start history s → P history s →
      step s e o t → P (⟨s, e, o, t⟩ :: history) t) : P history s := by
  induction run with
  | nil => exact initial
  | next earlier stepped ih => exact preserved earlier ih stepped

section
variable {C Q : Transition σ ε ο → History σ ε ο → Prop} {P : History σ ε ο → σ → Prop}

/-- The rule for runs whose steps all meet a condition. -/
theorem conditional_invariant (run : Run step start history s) (allowed : Throughout C history)
    (initial : P [] start)
    (preserved : ∀ {history s e o t}, P history s → step s e o t → C ⟨s, e, o, t⟩ history →
      P (⟨s, e, o, t⟩ :: history) t) : P history s := by
  induction run with
  | nil => exact initial
  | next earlier stepped ih => exact preserved (ih allowed.2) stepped allowed.1

/-- What the invariant gives at every step holds throughout. -/
theorem conditional_throughout (run : Run step start history s) (allowed : Throughout C history)
    (initial : P [] start)
    (preserved : ∀ {history s e o t}, P history s → step s e o t → C ⟨s, e, o, t⟩ history →
      P (⟨s, e, o, t⟩ :: history) t)
    (gives : ∀ {history s e o t}, P history s → step s e o t → C ⟨s, e, o, t⟩ history →
      Q ⟨s, e, o, t⟩ history) : Throughout Q history := by
  induction run with
  | nil => trivial
  | next earlier stepped ih =>
      have holds := earlier.conditional_invariant allowed.2 initial preserved
      exact ⟨gives holds stepped allowed.1, ih allowed.2⟩

end

/-- Every entry of the history was a step from a state reached by what lies before it. -/
theorem split {earlier : History σ ε ο} {x : Transition σ ε ο}
    (run : Run step start history s) (found : x :: earlier <:+ history) :
    Run step start earlier x.before ∧ step x.before x.event x.output x.after := by
  induction run with
  | nil => exact absurd found (by simp)
  | next previous stepped ih =>
      rcases List.suffix_cons_iff.mp found with same | older
      · obtain ⟨rfl, rfl⟩ := List.cons.inj same
        exact ⟨previous, stepped⟩
      · exact ih older

theorem member {x : Transition σ ε ο} (run : Run step start history s) (found : x ∈ history) :
    Reachable step start x.before ∧ step x.before x.event x.output x.after := by
  obtain ⟨later, earlier, rfl⟩ := List.append_of_mem found
  have parts := run.split (List.suffix_append later (x :: earlier))
  exact ⟨parts.1.reachable, parts.2⟩

/-- What holds of every step of a run, given the run before it, holds throughout. -/
theorem throughout {P : Transition σ ε ο → History σ ε ο → Prop}
    (run : Run step start history s)
    (holds : ∀ {x earlier}, x :: earlier <:+ history → Run step start earlier x.before →
      step x.before x.event x.output x.after → P x earlier) : Throughout P history := by
  induction run with
  | nil => trivial
  | next earlier stepped ih =>
      refine ⟨holds (List.suffix_refl _) earlier stepped, ih ?_⟩
      intro x before found
      exact holds (found.trans (List.suffix_cons _ _))

/-- Two properties hold throughout the same runs if they agree on every step before which
the second has held throughout. -/
theorem throughout_iff_of_earlier {P Q : Transition σ ε ο → History σ ε ο → Prop}
    (run : Run step start history s)
    (agree : ∀ {earlier s e o t}, Run step start earlier s → Throughout Q earlier →
      step s e o t → (P ⟨s, e, o, t⟩ earlier ↔ Q ⟨s, e, o, t⟩ earlier)) :
    Throughout P history ↔ Throughout Q history := by
  induction run with
  | nil => exact Iff.rfl
  | next earlier stepped ih =>
      constructor
      · rintro ⟨now, before⟩
        have before := ih.mp before
        exact ⟨(agree earlier before stepped).mp now, before⟩
      · rintro ⟨now, before⟩
        exact ⟨(agree earlier before stepped).mpr now, ih.mpr before⟩

/-- Two properties that agree on every step of a run hold throughout the same runs. -/
theorem throughout_iff {P Q : Transition σ ε ο → History σ ε ο → Prop}
    (run : Run step start history s)
    (agree : ∀ {earlier s e o t}, Run step start earlier s → step s e o t →
      (P ⟨s, e, o, t⟩ earlier ↔ Q ⟨s, e, o, t⟩ earlier)) :
    Throughout P history ↔ Throughout Q history :=
  run.throughout_iff_of_earlier fun earlier _ stepped => agree earlier stepped

end Run

/-- Evaluate a deterministic system on a list of events, oldest first. -/
def replay {π : Type*} (next : σ → ε → Except π (σ × ο)) :
    History σ ε ο → σ → List ε → Option (History σ ε ο × σ)
  | history, s, [] => some (history, s)
  | history, s, e :: rest =>
      match next s e with
      | .error _ => none
      | .ok (t, o) => replay next (⟨s, e, o, t⟩ :: history) t rest

theorem replay_run {π : Type*} {next : σ → ε → Except π (σ × ο)} {start : σ}
    {history : History σ ε ο} {s : σ} {events : List ε} {result : History σ ε ο × σ}
    (run : Run (fun s e o t => next s e = .ok (t, o)) start history s)
    (evaluated : replay next history s events = some result) :
    Run (fun s e o t => next s e = .ok (t, o)) start result.1 result.2 := by
  induction events generalizing history s with
  | nil =>
      simp only [replay, Option.some.injEq] at evaluated
      subst result
      exact run
  | cons e rest ih =>
      simp only [replay] at evaluated
      split at evaluated
      · contradiction
      · rename_i t o stepped
        exact ih (run.next stepped) evaluated

/-- The same for a system that never fails. -/
def trace (next : σ → ε → σ × ο) : History σ ε ο → σ → List ε → History σ ε ο × σ
  | history, s, [] => (history, s)
  | history, s, e :: rest =>
      trace next (⟨s, e, (next s e).2, (next s e).1⟩ :: history) (next s e).1 rest

theorem trace_run {next : σ → ε → σ × ο} {start : σ} {history : History σ ε ο} {s : σ}
    (events : List ε) (run : Run (fun s e o t => next s e = (t, o)) start history s) :
    Run (fun s e o t => next s e = (t, o)) start (trace next history s events).1
      (trace next history s events).2 := by
  induction events generalizing history s with
  | nil => exact run
  | cons e rest ih => exact ih (run.next rfl)

end Runs
