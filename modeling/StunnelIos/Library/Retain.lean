import Mathlib.Algebra.GroupWithZero.Nat
import Mathlib.Data.List.AList

/-! Finite maps with a filter on their entries, the `retain` of hash maps. -/

namespace AList
universe u v
variable {α : Type u} {β : α → Type v}

/-- Keep the entries that satisfy `p`. -/
def retain (m : AList β) (p : Sigma β → Bool) : AList β :=
  ⟨m.entries.filter p, m.nodupKeys.sublist List.filter_sublist⟩

theorem mem_lookup_retain [DecidableEq α] {m : AList β} {p : Sigma β → Bool} {a : α} {b : β a} :
    b ∈ (m.retain p).lookup a ↔ b ∈ m.lookup a ∧ p ⟨a, b⟩ = true := by
  rw [mem_lookup_iff, mem_lookup_iff]
  exact List.mem_filter

/-- The values of a map, in the order of its entries. -/
def values {γ : Type v} (m : AList fun _ : α => γ) : List γ := m.entries.map Sigma.snd

theorem mem_values [DecidableEq α] {γ : Type v} {m : AList fun _ : α => γ} {a : α} {c : γ}
    (found : m.lookup a = some c) : c ∈ m.values :=
  List.mem_map.mpr ⟨⟨a, c⟩, mem_lookup_iff.mp found, rfl⟩

theorem retain_retain_comm (m : AList β) (p q : Sigma β → Bool) :
    (m.retain p).retain q = (m.retain q).retain p := by
  apply AList.ext
  simp only [retain, List.filter_filter, Bool.and_comm]

theorem erase_insert_comm [DecidableEq α] {a a' : α} (apart : a ≠ a') (b : β a) (m : AList β) :
    (m.insert a b).erase a' = (m.erase a').insert a b := by
  apply AList.ext
  rw [entries_insert]
  change List.kerase a' (⟨a, b⟩ :: List.kerase a m.entries) =
    ⟨a, b⟩ :: List.kerase a (List.kerase a' m.entries)
  rw [List.kerase_cons_ne (Ne.symm apart), List.kerase_comm]

/-- The number of entries that satisfy `p`. -/
def count (m : AList β) (p : Sigma β → Bool) : Nat := m.entries.countP p

/-- The entries with their weights added up. -/
def weight (m : AList β) (w : Sigma β → Nat) : Nat := (m.entries.map w).sum

section
variable [DecidableEq α] {m : AList β} {p : Sigma β → Bool} {w : Sigma β → Nat} {a : α} {b : β a}

theorem perm_of_lookup (found : m.lookup a = some b) :
    m.entries.Perm (⟨a, b⟩ :: (m.erase a).entries) := by
  have member := mem_lookup_iff.mp found
  obtain ⟨c, before, behind, fresh, split, erased⟩ :=
    List.exists_of_kerase (List.mem_keys_of_mem member)
  have same : c = b := by
    have entry : ⟨a, c⟩ ∈ m.entries := by simp [split]
    exact Option.some.inj ((mem_lookup_iff.mpr entry).symm.trans found)
  rw [same] at split
  change m.entries.Perm (⟨a, b⟩ :: List.kerase a m.entries)
  rw [erased, split]
  exact List.perm_middle

theorem count_insert :
    (m.insert a b).count p = (m.erase a).count p + if p ⟨a, b⟩ then 1 else 0 := by
  rw [count, entries_insert, List.countP_cons]
  rfl

theorem count_of_lookup (found : m.lookup a = some b) :
    m.count p = (m.erase a).count p + if p ⟨a, b⟩ then 1 else 0 := by
  rw [count, (perm_of_lookup found).countP_eq, List.countP_cons]
  rfl

theorem weight_insert : (m.insert a b).weight w = w ⟨a, b⟩ + (m.erase a).weight w := by
  rw [weight, entries_insert, List.map_cons, List.sum_cons]
  rfl

theorem weight_of_lookup (found : m.lookup a = some b) :
    m.weight w = w ⟨a, b⟩ + (m.erase a).weight w := by
  rw [weight, ((perm_of_lookup found).map w).sum_nat, List.map_cons, List.sum_cons]
  rfl

theorem erase_of_lookup_none (absent : m.lookup a = none) : m.erase a = m :=
  AList.ext (List.kerase_of_notMem_keys (lookup_eq_none.mp absent))

end
end AList
