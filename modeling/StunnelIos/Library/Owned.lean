import StunnelIos.Library.SlotTable
import StunnelIos.Library.Retain

/-! Slot tables whose occupied slots are owned one to one by the entries of a map,
and secondary indices from keys of the owners to their slots. The relation `R`
between an owner and its value is arbitrary. -/
universe u v w

variable {κ ι : Type u} [DecidableEq κ] [DecidableEq ι] {ω : Type v} {α : Type w}

/-- Every owner's slot holds a value it is related to, every occupied slot has an
owner, and no two owners share a slot. -/
structure Owned (slotOf : ω → Nat) (R : ω → α → Prop) (owners : AList fun _ : κ => ω)
    (table : SlotTable α) : Prop where
  serves : ∀ k o, owners.lookup k = some o → ∃ x, table.get (slotOf o) = some x ∧ R o x
  owner : ∀ i x, table.get i = some x → ∃ k o, owners.lookup k = some o ∧ slotOf o = i
  unique : ∀ k₁ k₂ o₁ o₂, owners.lookup k₁ = some o₁ → owners.lookup k₂ = some o₂ →
    slotOf o₁ = slotOf o₂ → k₁ = k₂

/-- The index leads exactly from the keys of the live owners to their slots. -/
def Indexed (slotOf : ω → Nat) (keyOf : ω → Option ι) (owners : AList fun _ : κ => ω)
    (index : AList fun _ : ι => Nat) : Prop :=
  ∀ a i, index.lookup a = some i ↔
    ∃ k o, owners.lookup k = some o ∧ keyOf o = some a ∧ slotOf o = i

theorem AList.lookup_insert_eq_some {γ : Type v} {m : AList fun _ : κ => γ} {k j : κ} {o p : γ} :
    (m.insert k o).lookup j = some p ↔ (j = k ∧ o = p) ∨ (j ≠ k ∧ m.lookup j = some p) := by
  by_cases same : j = k
  · subst j
    simp
  · simp [AList.lookup_insert_ne same, same]

theorem AList.lookup_erase_eq_some {γ : Type v} {m : AList fun _ : κ => γ} {k j : κ} {p : γ} :
    (m.erase k).lookup j = some p ↔ j ≠ k ∧ m.lookup j = some p := by
  by_cases same : j = k
  · subst j
    simp
  · simp [AList.lookup_erase_ne same, same]

namespace Owned
variable {slotOf : ω → Nat} {R R' : ω → α → Prop} {owners : AList fun _ : κ => ω}
  {table table' : SlotTable α} {k : κ} {o o' : ω} {x x' : α}

omit [DecidableEq ι] in
theorem empty : Owned slotOf R (∅ : AList fun _ : κ => ω) (SlotTable.empty : SlotTable α) := by
  refine ⟨?_, ?_, ?_⟩
  · intro k o found
    simp at found
  · intro i x found
    simp at found
  · intro k₁ k₂ o₁ o₂ found
    simp at found

omit [DecidableEq ι] in
theorem related (owned : Owned slotOf R owners table) {i : Nat} (held : table.get i = some x) :
    ∃ k o, owners.lookup k = some o ∧ slotOf o = i ∧ R o x := by
  obtain ⟨k, o, found, rfl⟩ := owned.owner i x held
  obtain ⟨y, held', kept⟩ := owned.serves k o found
  cases held.symm.trans held'
  exact ⟨k, o, found, rfl, kept⟩

/-- The table changes in place, slot by slot. -/
theorem mapSlots (owned : Owned slotOf R owners table)
    (vacant : ∀ i, table.get i = none → table'.get i = none)
    (changed : ∀ i x, table.get i = some x →
      ∃ x', table'.get i = some x' ∧
        ∀ k o, owners.lookup k = some o → slotOf o = i → R o x → R' o x') :
    Owned slotOf R' owners table' := by
  refine ⟨?_, ?_, owned.unique⟩
  · intro k o found
    obtain ⟨x, held, related⟩ := owned.serves k o found
    obtain ⟨x', held', kept⟩ := changed _ x held
    exact ⟨x', held', kept k o found rfl related⟩
  · intro i x' held'
    cases held : table.get i with
    | none =>
        rw [vacant i held] at held'
        contradiction
    | some x => exact owned.owner i x held

/-- One owner and its value change together. -/
theorem update (owned : Owned slotOf R owners table) (found : owners.lookup k = some o)
    (slot : slotOf o' = slotOf o) (related : R o' x')
    (others : ∀ i, table'.get i = if i = slotOf o then some x' else table.get i) :
    Owned slotOf R (owners.insert k o') table' := by
  refine ⟨?_, ?_, ?_⟩
  · intro j p present
    rcases AList.lookup_insert_eq_some.mp present with ⟨rfl, rfl⟩ | ⟨other, present⟩
    · exact ⟨x', by rw [others, slot, if_pos rfl], related⟩
    · obtain ⟨y, held, kept⟩ := owned.serves j p present
      have apart : slotOf p ≠ slotOf o := fun same => other (owned.unique j k p o present found same)
      exact ⟨y, by rw [others, if_neg apart, held], kept⟩
  · intro i y held
    by_cases here : i = slotOf o
    · exact ⟨k, o', by simp, slot.trans here.symm⟩
    · rw [others, if_neg here] at held
      obtain ⟨j, p, present, at_i⟩ := owned.owner i y held
      have other : j ≠ k := by
        rintro rfl
        rw [present] at found
        cases found
        exact here at_i.symm
      exact ⟨j, p, AList.lookup_insert_eq_some.mpr (.inr ⟨other, present⟩), at_i⟩
  · intro k₁ k₂ o₁ o₂ first second same
    have slots : ∀ j p, (owners.insert k o').lookup j = some p →
        ∃ q, owners.lookup j = some q ∧ slotOf q = slotOf p := by
      intro j p present
      rcases AList.lookup_insert_eq_some.mp present with ⟨rfl, rfl⟩ | ⟨_, present⟩
      · exact ⟨o, found, slot.symm⟩
      · exact ⟨p, present, rfl⟩
    obtain ⟨q₁, first, same₁⟩ := slots _ _ first
    obtain ⟨q₂, second, same₂⟩ := slots _ _ second
    exact owned.unique _ _ _ _ first second (by rw [same₁, same₂, same])

theorem add (owned : Owned slotOf R owners table) (fresh : owners.lookup k = none)
    (free : table.Free (slotOf o)) (related : R o x) :
    Owned slotOf R (owners.insert k o) (table.put (slotOf o) x) := by
  have apart : ∀ j p, owners.lookup j = some p → slotOf p ≠ slotOf o := by
    intro j p present same
    obtain ⟨y, held, _⟩ := owned.serves j p present
    rw [same, free.2] at held
    contradiction
  refine ⟨?_, ?_, ?_⟩
  · intro j p present
    rcases AList.lookup_insert_eq_some.mp present with ⟨rfl, rfl⟩ | ⟨_, present⟩
    · exact ⟨x, SlotTable.get_put_self free.1, related⟩
    · obtain ⟨y, held, kept⟩ := owned.serves j p present
      exact ⟨y, by rw [SlotTable.get_put_ne free.1 (apart j p present), held], kept⟩
  · intro i y held
    by_cases here : i = slotOf o
    · exact ⟨k, o, by simp, here.symm⟩
    · rw [SlotTable.get_put_ne free.1 here] at held
      obtain ⟨j, p, present, at_i⟩ := owned.owner i y held
      have other : j ≠ k := by
        rintro rfl
        rw [fresh] at present
        contradiction
      exact ⟨j, p, AList.lookup_insert_eq_some.mpr (.inr ⟨other, present⟩), at_i⟩
  · intro k₁ k₂ o₁ o₂ first second same
    rcases AList.lookup_insert_eq_some.mp first with ⟨rfl, rfl⟩ | ⟨_, old₁⟩ <;>
      rcases AList.lookup_insert_eq_some.mp second with ⟨rfl, rfl⟩ | ⟨_, old₂⟩
    · rfl
    · exact absurd same.symm (apart _ _ old₂)
    · exact absurd same (apart _ _ old₁)
    · exact owned.unique _ _ _ _ old₁ old₂ same

theorem remove (owned : Owned slotOf R owners table) (found : owners.lookup k = some o) :
    Owned slotOf R (owners.erase k) (table.remove (slotOf o)) := by
  refine ⟨?_, ?_, ?_⟩
  · intro j p present
    obtain ⟨other, present⟩ := AList.lookup_erase_eq_some.mp present
    obtain ⟨y, held, kept⟩ := owned.serves j p present
    have apart : slotOf p ≠ slotOf o := fun same => other (owned.unique j k p o present found same)
    exact ⟨y, by rw [SlotTable.get_remove, if_neg apart, held], kept⟩
  · intro i y held
    rw [SlotTable.get_remove] at held
    split at held
    · contradiction
    · rename_i here
      obtain ⟨j, p, present, at_i⟩ := owned.owner i y held
      have other : j ≠ k := by
        rintro rfl
        rw [present] at found
        cases found
        exact here at_i.symm
      exact ⟨j, p, AList.lookup_erase_eq_some.mpr ⟨other, present⟩, at_i⟩
  · intro k₁ k₂ o₁ o₂ first second same
    exact owned.unique _ _ _ _ (AList.lookup_erase_eq_some.mp first).2
      (AList.lookup_erase_eq_some.mp second).2 same

end Owned

namespace Indexed
variable {slotOf : ω → Nat} {keyOf : ω → Option ι} {owners : AList fun _ : κ => ω}
  {index : AList fun _ : ι => Nat} {k : κ} {o o' : ω} {a : ι}

theorem empty : Indexed slotOf keyOf (∅ : AList fun _ : κ => ω) ∅ := by
  intro a i
  simp

theorem update (indexed : Indexed slotOf keyOf owners index) (found : owners.lookup k = some o)
    (slot : slotOf o' = slotOf o) (key : keyOf o' = keyOf o) :
    Indexed slotOf keyOf (owners.insert k o') index := by
  intro a i
  rw [indexed a i]
  constructor
  · rintro ⟨j, p, present, named, at_i⟩
    by_cases same : j = k
    · subst j
      rw [found] at present
      cases present
      exact ⟨k, o', by simp, key.trans named, slot.trans at_i⟩
    · exact ⟨j, p, AList.lookup_insert_eq_some.mpr (.inr ⟨same, present⟩), named, at_i⟩
  · rintro ⟨j, p, present, named, at_i⟩
    rcases AList.lookup_insert_eq_some.mp present with ⟨rfl, rfl⟩ | ⟨_, present⟩
    · exact ⟨j, o, found, key.symm.trans named, slot.symm.trans at_i⟩
    · exact ⟨j, p, present, named, at_i⟩

/-- A new owner without a key leaves the index alone. -/
theorem addUnkeyed (indexed : Indexed slotOf keyOf owners index) (fresh : owners.lookup k = none)
    (unkeyed : keyOf o = none) : Indexed slotOf keyOf (owners.insert k o) index := by
  intro a i
  rw [indexed a i]
  constructor
  · rintro ⟨j, p, present, named, at_i⟩
    have other : j ≠ k := by
      rintro rfl
      rw [fresh] at present
      contradiction
    exact ⟨j, p, AList.lookup_insert_eq_some.mpr (.inr ⟨other, present⟩), named, at_i⟩
  · rintro ⟨j, p, present, named, at_i⟩
    rcases AList.lookup_insert_eq_some.mp present with ⟨rfl, rfl⟩ | ⟨_, present⟩
    · rw [unkeyed] at named
      contradiction
    · exact ⟨j, p, present, named, at_i⟩

/-- A new owner under a key that the index does not know yet. -/
theorem addKeyed (indexed : Indexed slotOf keyOf owners index) (fresh : owners.lookup k = none)
    (unknown : index.lookup a = none) (keyed : keyOf o = some a) :
    Indexed slotOf keyOf (owners.insert k o) (index.insert a (slotOf o)) := by
  intro b i
  rw [AList.lookup_insert_eq_some, indexed b i]
  constructor
  · rintro (⟨rfl, rfl⟩ | ⟨_, j, p, present, named, at_i⟩)
    · exact ⟨k, o, by simp, keyed, rfl⟩
    · have other : j ≠ k := by
        rintro rfl
        rw [fresh] at present
        contradiction
      exact ⟨j, p, AList.lookup_insert_eq_some.mpr (.inr ⟨other, present⟩), named, at_i⟩
  · rintro ⟨j, p, present, named, at_i⟩
    rcases AList.lookup_insert_eq_some.mp present with ⟨rfl, rfl⟩ | ⟨_, present⟩
    · exact .inl ⟨Option.some.inj (named.symm.trans keyed), at_i⟩
    · refine .inr ⟨?_, j, p, present, named, at_i⟩
      rintro rfl
      have known := (indexed b i).mpr ⟨j, p, present, named, at_i⟩
      rw [unknown] at known
      contradiction

/-- An owner goes, and with it the entries that lead to its slot. -/
theorem remove {R : ω → α → Prop} {table : SlotTable α}
    (indexed : Indexed slotOf keyOf owners index) (owned : Owned slotOf R owners table)
    (found : owners.lookup k = some o) :
    Indexed slotOf keyOf (owners.erase k)
      (index.retain fun entry => entry.2 != slotOf o) := by
  intro a i
  have filtered := AList.mem_lookup_retain (m := index) (p := fun entry => entry.2 != slotOf o)
    (a := a) (b := i)
  simp only [Option.mem_def, bne_iff_ne] at filtered
  rw [filtered, indexed a i]
  constructor
  · rintro ⟨⟨j, p, present, named, at_i⟩, apart⟩
    have other : j ≠ k := by
      rintro rfl
      rw [present] at found
      cases found
      exact apart at_i.symm
    exact ⟨j, p, AList.lookup_erase_eq_some.mpr ⟨other, present⟩, named, at_i⟩
  · rintro ⟨j, p, present, named, at_i⟩
    obtain ⟨other, present⟩ := AList.lookup_erase_eq_some.mp present
    refine ⟨⟨j, p, present, named, at_i⟩, ?_⟩
    rintro rfl
    exact other (owned.unique j k p o present found at_i)

/-- An owner without a key goes; the index needs no change. -/
theorem removeUnkeyed (indexed : Indexed slotOf keyOf owners index)
    (found : owners.lookup k = some o) (unkeyed : keyOf o = none) :
    Indexed slotOf keyOf (owners.erase k) index := by
  intro a i
  rw [indexed a i]
  constructor
  · rintro ⟨j, p, present, named, at_i⟩
    have other : j ≠ k := by
      rintro rfl
      rw [present] at found
      cases found
      rw [unkeyed] at named
      contradiction
    exact ⟨j, p, AList.lookup_erase_eq_some.mpr ⟨other, present⟩, named, at_i⟩
  · rintro ⟨j, p, present, named, at_i⟩
    exact ⟨j, p, (AList.lookup_erase_eq_some.mp present).2, named, at_i⟩

end Indexed
