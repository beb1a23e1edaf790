import Mathlib.Data.List.Basic

/-! Tables of numbered slots whose indices are recycled: a value is put into any
free slot (or appended), and removing it frees the index for a later value. -/

universe u

structure SlotTable (α : Type u) where
  slots : List (Option α)

namespace SlotTable
variable {α : Type u} {t : SlotTable α} {i j : Nat} {x y : α}

def empty : SlotTable α := ⟨[]⟩

def get (t : SlotTable α) (i : Nat) : Option α := t.slots[i]?.join

/-- An index a new value may take: an empty slot, or the end of the table. -/
def Free (t : SlotTable α) (i : Nat) : Prop := i ≤ t.slots.length ∧ t.get i = none

def put (t : SlotTable α) (i : Nat) (x : α) : SlotTable α :=
  ⟨if i < t.slots.length then t.slots.set i (some x) else t.slots ++ [some x]⟩

def remove (t : SlotTable α) (i : Nat) : SlotTable α := ⟨t.slots.set i none⟩

def map (f : α → α) (t : SlotTable α) : SlotTable α := ⟨t.slots.map (Option.map f)⟩

def modify (t : SlotTable α) (i : Nat) (f : α → α) : SlotTable α :=
  ⟨t.slots.modify i (Option.map f)⟩

/-- The first occupied slot, in index order, whose value satisfies `p`. -/
def firstSlot (t : SlotTable α) (p : α → Bool) : Option Nat :=
  t.slots.findIdx? fun slot => slot.any p

/-- The least empty slot, or the end of the table. -/
def firstFree (t : SlotTable α) : Nat := t.slots.findIdx Option.isNone

theorem lt_of_get (found : t.get i = some x) : i < t.slots.length := by
  by_contra outside
  simp [get, List.getElem?_eq_none (Nat.le_of_not_lt outside)] at found

theorem mem_of_get (found : t.get i = some x) : some x ∈ t.slots := by
  have inside := lt_of_get found
  simp only [get, List.getElem?_eq_getElem inside, Option.join_some] at found
  exact found ▸ List.getElem_mem inside

/-- What is said of all occupied slots can be checked. -/
instance {P : Nat → α → Prop} [∀ i x, Decidable (P i x)] :
    Decidable (∀ i x, t.get i = some x → P i x) :=
  decidable_of_iff (∀ i < t.slots.length, ∀ x ∈ t.get i, P i x)
    ⟨fun all i x found => all i (lt_of_get found) x found, fun all i _ x found => all i x found⟩

@[simp] theorem get_empty : (empty : SlotTable α).get i = none := by simp [get, empty]

theorem get_put_self (bound : i ≤ t.slots.length) : (t.put i x).get i = some x := by
  by_cases inside : i < t.slots.length
  · simp [get, put, inside]
  · have last : i = t.slots.length := by omega
    subst last
    simp [get, put]

theorem get_put_ne (bound : i ≤ t.slots.length) (other : j ≠ i) : (t.put i x).get j = t.get j := by
  by_cases inside : i < t.slots.length
  · simp [get, put, inside, List.getElem?_set_ne (Ne.symm other)]
  · simp only [get, put, if_neg inside]
    by_cases old : j < t.slots.length
    · rw [List.getElem?_append_left old]
    · rw [List.getElem?_append_right (Nat.le_of_not_lt old),
        List.getElem?_eq_none (Nat.le_of_not_lt old), List.getElem?_eq_none]
      simp only [List.length_singleton]
      omega

theorem get_put (bound : i ≤ t.slots.length) :
    (t.put i x).get j = if j = i then some x else t.get j := by
  split
  · subst j
    exact get_put_self bound
  · exact get_put_ne bound ‹_›

theorem get_remove : (t.remove i).get j = if j = i then none else t.get j := by
  split
  · subst j
    by_cases inside : i < t.slots.length
    · simp [get, remove, inside]
    · simp [get, remove, Nat.le_of_not_lt inside]
  · rename_i other
    simp [get, remove, List.getElem?_set_ne (Ne.symm other)]

@[simp] theorem get_map (f : α → α) : (t.map f).get i = (t.get i).map f := by
  simp only [get, map, List.getElem?_map]
  cases t.slots[i]? with
  | none => rfl
  | some slot => cases slot <;> rfl

theorem get_modify (f : α → α) :
    (t.modify i f).get j = if j = i then (t.get j).map f else t.get j := by
  simp only [get, modify, List.getElem?_modify]
  cases t.slots[j]? with
  | none => simp
  | some slot =>
      by_cases same : j = i
      · subst j
        cases slot <;> simp
      · simp [same, Ne.symm same]

theorem firstFree_free (t : SlotTable α) : t.Free t.firstFree := by
  refine ⟨List.findIdx_le_length, ?_⟩
  by_cases inside : t.firstFree < t.slots.length
  · have found := List.findIdx_getElem (w := inside)
    simp only [get, List.getElem?_eq_getElem inside]
    exact Option.isNone_iff_eq_none.mp found
  · simp [get, List.getElem?_eq_none (Nat.le_of_not_lt inside)]

theorem firstSlot_eq_some {p : α → Bool} : t.firstSlot p = some i ↔
    (∃ x, t.get i = some x ∧ p x = true) ∧ ∀ j < i, ∀ y, t.get j = some y → p y = false := by
  have any_slot (k : Nat) (inside : k < t.slots.length) :
      (t.slots[k].any p = true ↔ ∃ x, t.get k = some x ∧ p x = true) := by
    simp only [get, List.getElem?_eq_getElem inside, Option.join_some]
    cases t.slots[k] <;> simp
  rw [firstSlot, List.findIdx?_eq_some_iff_getElem]
  constructor
  · rintro ⟨inside, here, before⟩
    refine ⟨(any_slot i inside).mp here, ?_⟩
    intro j earlier y found
    have refused := before j earlier
    by_contra accepted
    exact refused ((any_slot j (by omega)).mpr ⟨y, found, by simpa using accepted⟩)
  · rintro ⟨⟨x, found, here⟩, before⟩
    have inside := lt_of_get found
    refine ⟨inside, (any_slot i inside).mpr ⟨x, found, here⟩, ?_⟩
    intro j earlier accepted
    obtain ⟨y, there, holds⟩ := (any_slot j (by omega)).mp accepted
    rw [before j earlier y there] at holds
    contradiction

theorem firstSlot_eq_none {p : α → Bool} : t.firstSlot p = none ↔
    ∀ i x, t.get i = some x → p x = false := by
  rw [firstSlot, List.findIdx?_eq_none_iff]
  constructor
  · intro nowhere i x found
    have inside := lt_of_get found
    have refused := nowhere _ (List.getElem_mem inside)
    simp only [get, List.getElem?_eq_getElem inside, Option.join_some] at found
    simpa [found] using refused
  · intro nowhere slot present
    obtain ⟨i, inside, rfl⟩ := List.getElem_of_mem present
    cases held : t.slots[i] with
    | none => rfl
    | some x =>
        have found : t.get i = some x := by
          simp only [get, List.getElem?_eq_getElem inside, held, Option.join_some]
        simpa using nowhere i x found

/-- A new value that satisfies `p` is the first, unless there was one before it. -/
theorem firstSlot_put {p : α → Bool} (free : t.Free i) (holds : p x = true) :
    (∃ g < i, t.firstSlot p = some g ∧ (t.put i x).firstSlot p = some g) ∨
      (∀ g < i, t.firstSlot p ≠ some g) ∧ (t.put i x).firstSlot p = some i := by
  have same : ∀ j < i, (t.put i x).get j = t.get j := fun j lower =>
    get_put_ne free.1 (Nat.ne_of_lt lower)
  by_cases older : ∃ g < i, t.firstSlot p = some g
  · obtain ⟨g, lower, first⟩ := older
    obtain ⟨⟨y, found, here⟩, before⟩ := firstSlot_eq_some.mp first
    refine .inl ⟨g, lower, first, firstSlot_eq_some.mpr ⟨⟨y, same g lower ▸ found, here⟩, ?_⟩⟩
    intro j earlier z there
    rw [same j (Nat.lt_trans earlier lower)] at there
    exact before j earlier z there
  · have none_below : ∀ g < i, t.firstSlot p ≠ some g := fun g lower first =>
      older ⟨g, lower, first⟩
    refine .inr ⟨none_below, firstSlot_eq_some.mpr ⟨⟨x, get_put_self free.1, holds⟩, ?_⟩⟩
    intro j lower z there
    rw [same j lower] at there
    cases first : t.firstSlot p with
    | none => exact firstSlot_eq_none.mp first j z there
    | some g =>
        refine (firstSlot_eq_some.mp first).2 j ?_ z there
        by_contra higher
        exact none_below g (by omega) first

/-- After a value with `p` and `Q` is put into a free slot, the first value with `p` has
`Q` unless there was one without it before that slot. -/
theorem firstSlot_put_iff {p : α → Bool} {Q : α → Prop} (free : t.Free i) (holds : p x = true)
    (wanted : Q x) :
    (∃ h y, (t.put i x).firstSlot p = some h ∧ (t.put i x).get h = some y ∧ Q y) ↔
      ∀ g y, t.firstSlot p = some g → g < i → t.get g = some y → Q y := by
  obtain ⟨g, lower, before, first⟩ | ⟨none_below, first⟩ := firstSlot_put free holds
  · have kept : (t.put i x).get g = t.get g := get_put_ne free.1 (Nat.ne_of_lt lower)
    constructor
    · rintro ⟨h, y, found, held, good⟩ g' z before' _ there
      cases first.symm.trans found
      cases before.symm.trans before'
      cases held.symm.trans (kept.trans there)
      exact good
    · intro older
      obtain ⟨⟨y, held, _⟩, _⟩ := firstSlot_eq_some.mp before
      exact ⟨g, y, first, kept.trans held, older g y before lower held⟩
  · constructor
    · intro _ g y before lower
      exact absurd before (none_below g lower)
    · intro _
      exact ⟨i, x, first, get_put_self free.1, wanted⟩

@[simp] theorem length_remove : (t.remove i).slots.length = t.slots.length := by simp [remove]

theorem put_of_lt (inside : i < t.slots.length) : t.put i x = ⟨t.slots.set i (some x)⟩ := by
  simp [put, inside]

theorem length_put (inside : i < t.slots.length) : (t.put i x).slots.length = t.slots.length := by
  simp [put_of_lt inside]

theorem put_put_comm (apart : i ≠ j) (inside : i < t.slots.length) (inside' : j < t.slots.length) :
    (t.put i x).put j y = (t.put j y).put i x := by
  rw [put_of_lt (by rwa [length_put inside]), put_of_lt (t := t.put j y) (by rwa [length_put inside']),
    put_of_lt inside, put_of_lt inside', List.set_comm _ _ apart]

theorem remove_put_comm (apart : i ≠ j) (inside : i < t.slots.length) :
    (t.put i x).remove j = (t.remove j).put i x := by
  rw [put_of_lt (t := t.remove j) (by rwa [length_remove]), put_of_lt inside]
  simp only [remove, List.set_comm _ _ apart]

theorem remove_remove_comm : (t.remove i).remove j = (t.remove j).remove i := by
  by_cases apart : i = j
  · rw [apart]
  · simp only [remove, List.set_comm _ _ apart]

end SlotTable
