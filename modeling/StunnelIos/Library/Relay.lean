import Mathlib.Data.List.Basic

/-! A relay takes in one item at a time and gives out what it holds before it takes the
next. On the way it may change an item, as a buffer does that cuts it to its size. What has
been taken in and given out is kept most recent first. -/
namespace Relay
universe u
variable {α : Type u} {f : α → α}

inductive State (α : Type u) where
  | ready
  | holding (item : α)
  | stopped
deriving DecidableEq, Repr

/-- A step of a relay, with the items taken in and given out. -/
inductive Step (f : α → α) : State α → List α → List α → State α → Prop where
  | idle {s} : Step f s [] [] s
  | take {item} : Step f .ready [item] [] (.holding (f item))
  | give {item} : Step f (.holding item) [] [item] .ready
  | stop {s} : Step f s [] [] .stopped

/-- Each item has come out as it went in, but for what is held or was left when the relay
stopped. -/
def Whole (f : α → α) (taken given : List α) : State α → Prop
  | .ready => taken = given
  | .holding item => ∃ original, taken = original :: given ∧ item = f original
  | .stopped => given.Sublist taken

/-- What is given out now is what went in last. -/
def Unchanged (f : α → α) (taken outs : List α) : Prop :=
  outs ≠ [] → ∀ original ∈ taken.head?, f original = original

section
variable {taken given ins outs : List α} {s t : State α}

theorem Whole.sublist (whole : Whole f taken given s) : given.Sublist taken := by
  cases s with
  | ready => exact whole ▸ List.Sublist.refl _
  | holding item =>
      obtain ⟨original, rfl, _⟩ := whole
      exact List.sublist_cons_self original given
  | stopped => exact whole

theorem Whole.step (whole : Whole f taken given s) (stepped : Step f s ins outs t)
    (unchanged : Unchanged f taken outs) : Whole f (ins ++ taken) (outs ++ given) t := by
  cases stepped with
  | idle => exact whole
  | take => exact ⟨_, congrArg _ whole, rfl⟩
  | give =>
      obtain ⟨original, rfl, rfl⟩ := whole
      have same : f original = original := unchanged (List.cons_ne_nil _ _) original rfl
      exact congrArg (· :: given) same.symm
  | stop => exact whole.sublist

/-- As long as everything came out as it went in, a subsequence comes out exactly when the
item that is given out, if any, has not been changed. -/
theorem Whole.sublist_iff (whole : Whole f taken given s) (stepped : Step f s ins outs t) :
    (outs ++ given).Sublist (ins ++ taken) ↔ Unchanged f taken outs := by
  constructor
  · intro within nonempty
    cases stepped with
    | idle | take | stop => contradiction
    | give =>
        obtain ⟨original, rfl, rfl⟩ := whole
        rintro _ ⟨⟩
        exact (List.cons.inj (within.eq_of_length rfl)).1
  · intro unchanged
    exact (whole.step stepped unchanged).sublist

/-- What has come out is what the relay made of each item, in order, but for the item that it
took last, which it holds or has lost when it stopped. -/
def Carried (f : α → α) (taken given : List α) : State α → Prop
  | .ready => taken.map f = given
  | .holding item => taken.map f = item :: given
  | .stopped => taken.map f = given ∨ ∃ item, taken.map f = item :: given

theorem Carried.step (carried : Carried f taken given s) (stepped : Step f s ins outs t) :
    Carried f (ins ++ taken) (outs ++ given) t := by
  cases stepped with
  | idle => exact carried
  | take => exact congrArg (_ :: ·) carried
  | give => exact carried
  | stop =>
      cases s with
      | ready => exact .inl carried
      | holding item => exact .inr ⟨item, carried⟩
      | stopped => exact carried

end

end Relay
