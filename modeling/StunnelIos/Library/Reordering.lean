import Mathlib.Data.List.AList
import StunnelIos.Library.Runs

/-! Reordering the events of a system whose events belong to actors. An event of nobody
concerns everyone; events of two different actors may change places. A system that does not
mind one such swap does not mind any reordering that every actor sees in the same order. -/
namespace Reordering
universe u v w z
variable {ε : Type u} {α : Type v} {ο : Type w} {σ : Type z}

section
variable (actor : ε → Option α)

/-- Events of two different actors. -/
def Independent (e f : ε) : Prop := ∃ i j, actor e = some i ∧ actor f = some j ∧ i ≠ j

/-- Neighbours that are independent change places, any number of times. -/
inductive Reordered : List ε → List ε → Prop where
  | nil : Reordered [] []
  | cons {e events events'} : Reordered events events' → Reordered (e :: events) (e :: events')
  | swap {e f events} : Independent actor e f → Reordered (e :: f :: events) (f :: e :: events)
  | trans {events events' events''} : Reordered events events' → Reordered events' events'' →
      Reordered events events''

/-- The events that an actor sees: its own and those of nobody. Nobody sees the latter only. -/
def seen [DecidableEq α] (who : Option α) (events : List ε) : List ε :=
  events.filter fun e => actor e = none ∨ actor e = who

end

section
variable {actor : ε → Option α} {e f : ε} {events events' first rest : List ε}

theorem Independent.symm (independent : Independent actor e f) : Independent actor f e := by
  obtain ⟨i, j, mine, other, apart⟩ := independent
  exact ⟨j, i, other, mine, Ne.symm apart⟩

theorem Reordered.refl (events : List ε) : Reordered actor events events := by
  induction events with
  | nil => exact .nil
  | cons e rest ih => exact .cons ih

theorem Reordered.symm (reordered : Reordered actor events events') :
    Reordered actor events' events := by
  induction reordered with
  | nil => exact .nil
  | cons _ ih => exact .cons ih
  | swap independent => exact .swap independent.symm
  | trans _ _ first second => exact second.trans first

/-- An event comes first if all events before it are independent of it. -/
theorem Reordered.front (independent : ∀ f ∈ first, Independent actor f e) :
    Reordered actor (first ++ e :: rest) (e :: (first ++ rest)) := by
  induction first with
  | nil => exact .refl _
  | cons f first ih =>
      have moved := ih fun g before => independent g (List.mem_cons_of_mem f before)
      exact (Reordered.cons moved).trans (.swap (independent f List.mem_cons_self))

variable [DecidableEq α] {who : Option α}

theorem seen_cons_of_seen (sees : actor e = none ∨ actor e = who) :
    seen actor who (e :: events) = e :: seen actor who events := by
  simp [seen, sees]

theorem seen_cons_of_unseen (unseen : ¬ (actor e = none ∨ actor e = who)) :
    seen actor who (e :: events) = seen actor who events := by
  simp [seen, unseen]

/-- A reordering keeps what each actor sees. -/
theorem Reordered.seen_eq (reordered : Reordered actor events events') (who : Option α) :
    seen actor who events = seen actor who events' := by
  induction reordered with
  | nil => rfl
  | @cons e _ _ _ ih =>
      by_cases sees : actor e = none ∨ actor e = who
      · rw [seen_cons_of_seen sees, seen_cons_of_seen sees, ih]
      · rw [seen_cons_of_unseen sees, seen_cons_of_unseen sees, ih]
  | @swap e f events independent =>
      obtain ⟨i, j, mine, other, apart⟩ := independent
      by_cases sees : actor e = who
      · have unseen : ¬ (actor f = none ∨ actor f = who) := by
          subst sees
          simp [mine, other, Ne.symm apart]
        rw [seen_cons_of_seen (.inr sees), seen_cons_of_unseen unseen, seen_cons_of_unseen unseen,
          seen_cons_of_seen (.inr sees)]
      · have unseen : ¬ (actor e = none ∨ actor e = who) := by simp [mine, mine ▸ sees]
        by_cases sees' : actor f = none ∨ actor f = who
        · rw [seen_cons_of_unseen unseen, seen_cons_of_seen sees', seen_cons_of_seen sees',
            seen_cons_of_unseen unseen]
        · rw [seen_cons_of_unseen unseen, seen_cons_of_unseen sees', seen_cons_of_unseen sees',
            seen_cons_of_unseen unseen]
  | trans _ _ first second => exact first.trans second

/-- What is ahead of an event that comes first for those who see it is independent of it. -/
theorem independent_of_seen (same : ∀ who, seen actor who (e :: events) =
      seen actor who (first ++ e :: rest))
    (unseen : ∀ f ∈ first, ¬ (actor f = none ∨ actor f = actor e)) :
    ∀ f ∈ first, Independent actor f e := by
  intro f before
  have hidden := unseen f before
  cases mine : actor f with
  | none => exact absurd (.inl mine) hidden
  | some i =>
      cases other : actor e with
      | some j => exact ⟨i, j, mine, other, fun equal => hidden (.inr (by rw [mine, other, equal]))⟩
      | none =>
          -- the one who acts first would see `e` first
          obtain ⟨g, later, rfl⟩ := List.exists_cons_of_ne_nil (List.ne_nil_of_mem before)
          have first_seen := same (actor g)
          rw [seen_cons_of_seen (.inl other), List.cons_append, seen_cons_of_seen (.inr rfl)]
            at first_seen
          have equal := (List.cons.inj first_seen).1
          exact absurd (.inr (congrArg actor equal.symm)) (unseen g List.mem_cons_self)

/-- Two sequences of events that everyone sees alike are reorderings of each other. -/
theorem reordered_iff_seen : Reordered actor events events' ↔
    ∀ who, seen actor who events = seen actor who events' := by
  refine ⟨Reordered.seen_eq, fun same => ?_⟩
  induction events generalizing events' with
  | nil =>
      cases events' with
      | nil => exact .nil
      | cons e rest =>
          have missing := same (actor e)
          rw [seen_cons_of_seen (.inr rfl)] at missing
          cases missing
  | cons e events ih =>
      have found := same (actor e)
      rw [seen_cons_of_seen (.inr rfl)] at found
      obtain ⟨first, rest, rfl, unseen, _, _⟩ := List.filter_eq_cons_iff.mp found.symm
      have independent := independent_of_seen same fun f before => by
        simpa using unseen f before
      have front : Reordered actor (first ++ e :: rest) (e :: (first ++ rest)) :=
        .front independent
      refine .trans (.cons (ih fun who => ?_)) front.symm
      have same := (same who).trans (front.seen_eq who)
      by_cases sees : actor e = none ∨ actor e = who
      · rw [seen_cons_of_seen sees, seen_cons_of_seen sees] at same
        exact (List.cons.inj same).2
      · rwa [seen_cons_of_unseen sees, seen_cons_of_unseen sees] at same

end

section
variable {π : Type*}

/-- Run a system on a list of events; its outputs are joined. -/
def execute (next : σ → ε → Except π (σ × List ο)) : σ → List ε → Except π (σ × List ο)
  | s, [] => .ok (s, [])
  | s, e :: rest =>
      match next s e with
      | .error failure => .error failure
      | .ok (t, outputs) => (execute next t rest).map fun result => (result.1, outputs ++ result.2)

theorem execute_singleton (next : σ → ε → Except π (σ × List ο)) (s : σ) (e : ε) :
    execute next s [e] = next s e := by
  cases stepped : next s e with
  | error => simp only [execute, stepped]
  | ok result => simp only [execute, stepped, Except.map, List.append_nil]

theorem execute_append (next : σ → ε → Except π (σ × List ο)) (s : σ) (first rest : List ε) :
    execute next s (first ++ rest) =
      match execute next s first with
      | .error failure => .error failure
      | .ok (t, outputs) =>
          (execute next t rest).map fun result => (result.1, outputs ++ result.2) := by
  induction first generalizing s with
  | nil => cases h : execute next s rest <;> simp [execute, h, Except.map]
  | cons e first ih =>
      simp only [List.cons_append, execute]
      cases next s e with
      | error => rfl
      | ok result =>
          simp only [ih]
          cases execute next result.1 first with
          | error => rfl
          | ok result' =>
              cases h : execute next result'.1 rest <;> simp [h, Except.map]

/-- Every speaker, and nobody, has said the same in the same order. -/
def Alike [DecidableEq α] (speaker : ο → Option α) (outputs outputs' : List ο) : Prop :=
  ∀ who, outputs.filter (speaker · = who) = outputs'.filter (speaker · = who)

/-- Two outcomes are both failures, or both results that cannot be told apart. -/
inductive Agree [DecidableEq α] (speaker : ο → Option α) (same : σ → σ → Prop) :
    Except π (σ × List ο) → Except π (σ × List ο) → Prop where
  | failed {failure failure'} : Agree speaker same (.error failure) (.error failure')
  | returned {s t outputs outputs'} : same s t → Alike speaker outputs outputs' →
      Agree speaker same (.ok (s, outputs)) (.ok (t, outputs'))

end

section
variable [DecidableEq α] {speaker : ο → Option α} {a a' b b' c : List ο}

theorem Alike.refl (a : List ο) : Alike speaker a a := fun _ => rfl

theorem Alike.trans (alike : Alike speaker a b) (alike' : Alike speaker b c) :
    Alike speaker a c := fun who => (alike who).trans (alike' who)

theorem Alike.append (alike : Alike speaker a a') (alike' : Alike speaker b b') :
    Alike speaker (a ++ b) (a' ++ b') := by
  intro who
  rw [List.filter_append, List.filter_append, alike who, alike' who]

/-- What two different speakers say may be heard in either order. -/
theorem Alike.swap {i j : α} (apart : i ≠ j) (mine : ∀ o ∈ a, speaker o = some i)
    (other : ∀ o ∈ b, speaker o = some j) : Alike speaker (a ++ b) (b ++ a) := by
  intro who
  rw [List.filter_append, List.filter_append]
  by_cases first : who = some i
  · have silent : b.filter (speaker · = who) = [] := by
      rw [List.filter_eq_nil_iff]
      intro o said
      simp [other o said, first, Ne.symm apart]
    rw [silent, List.append_nil, List.nil_append]
  · have silent : a.filter (speaker · = who) = [] := by
      rw [List.filter_eq_nil_iff]
      intro o said
      simpa [mine o said] using Ne.symm first
    rw [silent, List.append_nil, List.nil_append]

variable {π : Type*} {same : σ → σ → Prop} {x y z : Except π (σ × List ο)}

theorem Agree.trans (trans : ∀ {r s t}, same r s → same s t → same r t)
    (agree : Agree speaker same x y) (agree' : Agree speaker same y z) :
    Agree speaker same x z := by
  cases agree with
  | failed =>
      cases agree' with
      | failed => exact .failed
  | returned states alike =>
      cases agree' with
      | returned states' alike' => exact .returned (trans states states') (alike.trans alike')

/-- More was said before by both. -/
theorem Agree.said {outputs outputs' : List ο} (alike : Alike speaker outputs outputs')
    (agree : Agree speaker same x y) :
    Agree speaker same (x.map fun result => (result.1, outputs ++ result.2))
      (y.map fun result => (result.1, outputs' ++ result.2)) := by
  cases agree with
  | failed => exact .failed
  | returned states alike' => exact .returned states (alike.append alike')

end

/-- A system whose states are told apart only up to `same`, and whose independent
neighbours may be swapped. -/
structure Commuting [DecidableEq α] {π : Type*} (next : σ → ε → Except π (σ × List ο))
    (actor : ε → Option α) (speaker : ο → Option α) (same : σ → σ → Prop) : Prop where
  symm : ∀ {s t}, same s t → same t s
  trans : ∀ {r s t}, same r s → same s t → same r t
  step : ∀ {s t} e, same s t → Agree speaker same (next s e) (next t e)
  swap : ∀ {s} e f, same s s → Independent actor e f →
    Agree speaker same (execute next s [e, f]) (execute next s [f, e])

namespace Commuting
variable [DecidableEq α] {π : Type*} {next : σ → ε → Except π (σ × List ο)}
  {actor : ε → Option α} {speaker : ο → Option α} {same : σ → σ → Prop} {s t : σ} {e : ε}
  {events events' : List ε}

/-- A first part that agrees, and then the rest. -/
theorem agree_append (first first' : List ε)
    (alike : Agree speaker same (execute next s first) (execute next t first'))
    (after : ∀ {s t}, same s t →
      Agree speaker same (execute next s events) (execute next t events')) :
    Agree speaker same (execute next s (first ++ events)) (execute next t (first' ++ events')) := by
  rw [execute_append, execute_append]
  generalize execute next s first = x at alike ⊢
  generalize execute next t first' = y at alike ⊢
  cases alike with
  | failed => exact .failed
  | returned states alike => exact (after states).said alike

/-- A system runs on the same events alike from states that are alike. -/
theorem agree_execute (commuting : Commuting next actor speaker same) (alike : same s t) :
    Agree speaker same (execute next s events) (execute next t events) := by
  induction events generalizing s t with
  | nil => exact .returned alike (.refl _)
  | cons e rest ih =>
      refine agree_append [e] [e] ?_ ih
      rw [execute_singleton, execute_singleton]
      exact commuting.step e alike

/-- A system runs on reordered events alike. -/
theorem agree_reordered (commuting : Commuting next actor speaker same) (alike : same s t)
    (reordered : Reordered actor events events') :
    Agree speaker same (execute next s events) (execute next t events') := by
  induction reordered generalizing s t with
  | nil => exact .returned alike (.refl _)
  | @cons e events events' _ ih =>
      refine agree_append [e] [e] ?_ ih
      rw [execute_singleton, execute_singleton]
      exact commuting.step e alike
  | @swap e f events independent =>
      refine agree_append [e, f] [f, e] ?_ commuting.agree_execute
      have itself := commuting.trans alike (commuting.symm alike)
      exact (commuting.swap e f itself independent).trans commuting.trans
        (commuting.agree_execute alike)
  | trans _ _ first second =>
      have itself := commuting.trans alike (commuting.symm alike)
      exact (first itself).trans commuting.trans (second alike)

end Commuting

section
variable {π : Type*} {next : σ → ε → Except π (σ × List ο)} {s t : σ}
  {history : Runs.History σ ε (List ο)}

/-- The events of a history, oldest first. -/
def eventsOf (history : Runs.History σ ε (List ο)) : List ε := (history.map (·.event)).reverse

/-- The outputs of a history, oldest first. -/
def outputsOf (history : Runs.History σ ε (List ο)) : List ο := history.reverse.flatMap (·.output)

@[simp] theorem eventsOf_cons (x : Runs.Transition σ ε (List ο)) :
    eventsOf (x :: history) = eventsOf history ++ [x.event] := by
  simp [eventsOf]

@[simp] theorem outputsOf_cons (x : Runs.Transition σ ε (List ο)) :
    outputsOf (x :: history) = outputsOf history ++ x.output := by
  simp [outputsOf]

theorem mem_outputsOf {output : ο} :
    output ∈ outputsOf history ↔ ∃ x ∈ history, output ∈ x.output := by
  simp [outputsOf]

theorem execute_of_run
    (run : Runs.Run (fun s e o t => next s e = .ok (t, o)) s history t) :
    execute next s (eventsOf history) = .ok (t, outputsOf history) := by
  induction run with
  | nil => rfl
  | @next history s e o t earlier stepped ih =>
      simp only [eventsOf, outputsOf, List.map_cons, List.reverse_cons, List.flatMap_append,
        List.flatMap_cons, List.flatMap_nil, List.append_nil] at ih ⊢
      rw [execute_append, ih]
      simp only [execute_singleton, stepped, Except.map]

/-- What has been executed goes on from any run that ends where it starts. -/
theorem run_of_execute {start : σ} {events : List ε} {outputs : List ο}
    (run : Runs.Run (fun s e o t => next s e = .ok (t, o)) start history s)
    (executed : execute next s events = .ok (t, outputs)) :
    ∃ later, Runs.Run (fun s e o t => next s e = .ok (t, o)) start (later ++ history) t ∧
      eventsOf later = events ∧ outputsOf later = outputs := by
  induction events generalizing s history outputs with
  | nil =>
      cases executed
      exact ⟨[], run, rfl, rfl⟩
  | cons e rest ih =>
      simp only [execute] at executed
      cases stepped : next s e with
      | error =>
          rw [stepped] at executed
          contradiction
      | ok result =>
          obtain ⟨s', said⟩ := result
          simp only [stepped] at executed
          cases rested : execute next s' rest with
          | error =>
              rw [rested] at executed
              contradiction
          | ok result' =>
              rw [rested] at executed
              cases executed
              obtain ⟨later, run, same, said'⟩ := ih (run.next stepped) rested
              refine ⟨later ++ [⟨s, e, said, s'⟩], by simpa using run, ?_, ?_⟩
              · simpa [eventsOf] using same
              · simpa [outputsOf] using said'

end

end Reordering
