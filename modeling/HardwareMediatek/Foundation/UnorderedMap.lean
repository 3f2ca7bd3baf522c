import Mathlib

/-!
# Finite maps with an iteration order

An `UnorderedMap` is an association list without repeated keys. The list order
stands for the order in which a hash table happens to iterate its entries, so
two maps with permuted entries are the same table seen through two hash
orders. Lookups do not depend on the order; loops over the entries may.

The type is Mathlib's `AList` for a constant family of values. This module
adds the operations that hash tables of the C family offer beyond it: updating
every value in place, and assigning to a key that is already present without
moving the entry.
-/

namespace HardwareMediatek

/-- A finite map from `κ` to `ν` together with its iteration order. -/
abbrev UnorderedMap (κ : Type) (ν : Type) := AList fun _ : κ ↦ ν

namespace UnorderedMap

variable {κ ν μ : Type}

/-- Replace every value, keeping the keys and their order. -/
def mapValues (f : κ → ν → μ) (m : UnorderedMap κ ν) : UnorderedMap κ μ where
  entries := m.entries.map fun entry ↦ ⟨entry.1, f entry.1 entry.2⟩
  nodupKeys := by
    have h : (m.entries.map fun entry ↦ (⟨entry.1, f entry.1 entry.2⟩ : Sigma fun _ : κ ↦ μ)).keys =
        m.entries.keys := by
      simp [List.keys, Function.comp_def]
    rw [List.NodupKeys, h]
    exact m.nodupKeys

@[simp]
theorem entries_mapValues (f : κ → ν → μ) (m : UnorderedMap κ ν) :
    (mapValues f m).entries = m.entries.map fun entry ↦ ⟨entry.1, f entry.1 entry.2⟩ := rfl

@[simp]
theorem keys_mapValues (f : κ → ν → μ) (m : UnorderedMap κ ν) : (mapValues f m).keys = m.keys := by
  simp [AList.keys, List.keys, Function.comp_def]

@[simp]
theorem mem_mapValues {f : κ → ν → μ} {m : UnorderedMap κ ν} {k : κ} :
    k ∈ mapValues f m ↔ k ∈ m := by
  rw [AList.mem_keys, AList.mem_keys, keys_mapValues]

theorem keys_perm {m m' : UnorderedMap κ ν} (h : m.entries.Perm m'.entries) :
    m.keys.Perm m'.keys :=
  h.map Sigma.fst

variable [DecidableEq κ]

@[simp]
theorem lookup_mapValues (f : κ → ν → μ) (m : UnorderedMap κ ν) (k : κ) :
    (mapValues f m).lookup k = (m.lookup k).map (f k) := by
  obtain ⟨entries, hnodup⟩ := m
  simp only [AList.lookup, mapValues]
  clear hnodup
  induction entries with
  | nil => rfl
  | cons entry rest ih =>
    obtain ⟨k', v⟩ := entry
    by_cases hk : k = k'
    · subst hk
      simp
    · rw [List.map_cons, List.dlookup_cons_ne _ _ hk, List.dlookup_cons_ne _ _ hk]
      exact ih

/-- Assignment through a reference to the value at `k`; nothing happens when `k` is absent. -/
def assign (m : UnorderedMap κ ν) (k : κ) (v : ν) : UnorderedMap κ ν :=
  mapValues (fun k' old ↦ if k' = k then v else old) m

@[simp]
theorem keys_assign (m : UnorderedMap κ ν) (k : κ) (v : ν) : (assign m k v).keys = m.keys :=
  keys_mapValues _ m

@[simp]
theorem mem_assign {m : UnorderedMap κ ν} {k k' : κ} {v : ν} : k' ∈ assign m k v ↔ k' ∈ m :=
  mem_mapValues

theorem lookup_assign (m : UnorderedMap κ ν) (k k' : κ) (v : ν) :
    (assign m k v).lookup k' = (m.lookup k').map fun old ↦ if k' = k then v else old :=
  lookup_mapValues _ m k'

theorem lookup_assign_ne (m : UnorderedMap κ ν) {k k' : κ} (v : ν) (h : k' ≠ k) :
    (assign m k v).lookup k' = m.lookup k' := by
  rw [lookup_assign]
  simp [h]

theorem lookup_assign_of_mem {m : UnorderedMap κ ν} {k : κ} (v : ν) (h : k ∈ m) :
    (assign m k v).lookup k = some v := by
  obtain ⟨old, hold⟩ := Option.isSome_iff_exists.mp (AList.lookup_isSome.mpr h)
  rw [lookup_assign, hold]
  simp

omit [DecidableEq κ] in
theorem mem_iff_of_keys_eq {m m' : UnorderedMap κ ν} (h : m'.keys = m.keys) (k : κ) :
    k ∈ m' ↔ k ∈ m := by
  rw [AList.mem_keys, AList.mem_keys, h]

theorem mem_iff_lookup {m : UnorderedMap κ ν} {k : κ} : k ∈ m ↔ ∃ v, m.lookup k = some v := by
  rw [← AList.lookup_isSome, Option.isSome_iff_exists]

theorem mem_of_lookup {m : UnorderedMap κ ν} {k : κ} {v : ν} (h : m.lookup k = some v) : k ∈ m :=
  mem_iff_lookup.mpr ⟨v, h⟩

theorem mem_entries_iff {m : UnorderedMap κ ν} {k : κ} {v : ν} :
    (⟨k, v⟩ : Sigma fun _ : κ ↦ ν) ∈ m.entries ↔ m.lookup k = some v := by
  have h := AList.mem_lookup_iff (a := k) (b := v) (s := m)
  rw [← h, Option.mem_def]

theorem lookup_of_mem_entries {m : UnorderedMap κ ν} {entry : Sigma fun _ : κ ↦ ν}
    (h : entry ∈ m.entries) : m.lookup entry.1 = some entry.2 :=
  mem_entries_iff.mp h

/-- A present entry can be brought to the front; what is left is the map without its key. -/
theorem perm_cons_erase {m : UnorderedMap κ ν} {k : κ} {v : ν} (h : m.lookup k = some v) :
    m.entries.Perm (⟨k, v⟩ :: (m.erase k).entries) := by
  have hmem : k ∈ m.entries.keys := AList.mem_keys.mp (mem_of_lookup h)
  obtain ⟨v', left, right, hleft, hsplit, herase⟩ := List.exists_of_kerase hmem
  have hv : v' = v := by
    have hentry : (⟨k, v'⟩ : Sigma fun _ : κ ↦ ν) ∈ m.entries := by
      rw [hsplit]
      simp
    exact Option.some.inj ((lookup_of_mem_entries hentry).symm.trans h)
  subst hv
  have herased : (m.erase k).entries = left ++ right := herase
  rw [herased, hsplit]
  exact List.perm_middle

theorem entries_insert (m : UnorderedMap κ ν) (k : κ) (v : ν) :
    (m.insert k v).entries = ⟨k, v⟩ :: (m.erase k).entries :=
  AList.entries_insert

/-- `map[k] = v`: assignment to the entry of `k`, which is created when it is missing. -/
def put (m : UnorderedMap κ ν) (k : κ) (v : ν) : UnorderedMap κ ν :=
  if k ∈ m then assign m k v else m.insert k v

theorem lookup_put (m : UnorderedMap κ ν) (k k' : κ) (v : ν) :
    (put m k v).lookup k' = if k' = k then some v else m.lookup k' := by
  unfold put
  by_cases hk : k' = k
  · subst hk
    rw [if_pos rfl]
    split
    · exact lookup_assign_of_mem v ‹_›
    · exact AList.lookup_insert m
  · rw [if_neg hk]
    split
    · exact lookup_assign_ne m v hk
    · exact AList.lookup_insert_ne hk

/-- What holds of every value of a map holds after an assignment of such a value. -/
theorem forall_lookup_assign {m : UnorderedMap κ ν} {P : κ → ν → Prop}
    (h : ∀ k v, m.lookup k = some v → P k v) {k : κ} {v : ν} (hv : P k v) :
    ∀ k' v', (assign m k v).lookup k' = some v' → P k' v' := by
  intro k' v' hlookup
  by_cases hk : k' = k
  · subst hk
    have hmem : k' ∈ m := mem_assign.mp (mem_of_lookup hlookup)
    rw [lookup_assign_of_mem v hmem] at hlookup
    exact Option.some.inj hlookup ▸ hv
  · rw [lookup_assign_ne m v hk] at hlookup
    exact h k' v' hlookup

theorem forall_lookup_put {m : UnorderedMap κ ν} {P : κ → ν → Prop}
    (h : ∀ k v, m.lookup k = some v → P k v) {k : κ} {v : ν} (hv : P k v) :
    ∀ k' v', (put m k v).lookup k' = some v' → P k' v' := by
  intro k' v' hlookup
  rw [lookup_put] at hlookup
  split at hlookup
  · rename_i hk
    exact hk ▸ Option.some.inj hlookup ▸ hv
  · exact h k' v' hlookup

@[simp]
theorem mem_put {m : UnorderedMap κ ν} {k k' : κ} {v : ν} : k' ∈ put m k v ↔ k' = k ∨ k' ∈ m := by
  rw [mem_iff_lookup, mem_iff_lookup, lookup_put]
  by_cases hk : k' = k <;> simp [hk]

theorem perm_entries_of_lookup_eq {m m' : UnorderedMap κ ν} (h : ∀ k, m.lookup k = m'.lookup k) :
    m.entries.Perm m'.entries := by
  apply (List.perm_ext_iff_of_nodup m.nodupKeys.nodup m'.nodupKeys.nodup).mpr
  rintro ⟨k, v⟩
  rw [mem_entries_iff, mem_entries_iff, h k]

/-- After `map[k] = v` the entry of `k` and the entries of the other keys are there. -/
theorem perm_put (m : UnorderedMap κ ν) (k : κ) (v : ν) :
    (put m k v).entries.Perm (⟨k, v⟩ :: (m.erase k).entries) := by
  rw [← entries_insert]
  apply perm_entries_of_lookup_eq
  intro k'
  rw [lookup_put]
  by_cases hk : k' = k
  · rw [if_pos hk, hk, AList.lookup_insert]
  · rw [if_neg hk, AList.lookup_insert_ne hk]

/-- Two maps over the same list of keys are equal when every lookup agrees. -/
theorem ext_of_keys {m m' : UnorderedMap κ ν} (hkeys : m.keys = m'.keys)
    (hlookup : ∀ k, m.lookup k = m'.lookup k) : m = m' := by
  apply AList.ext
  apply List.ext_getElem
  · simpa [AList.keys, List.keys] using congrArg List.length hkeys
  · intro i hi hi'
    have hkey : (m.entries[i]).1 = (m'.entries[i]).1 := by
      have h := List.getElem_of_eq hkeys (i := i) (by simpa [AList.keys, List.keys] using hi)
      simpa [AList.keys, List.keys] using h
    have hleft := lookup_of_mem_entries (m := m) (List.getElem_mem hi)
    have hright := lookup_of_mem_entries (m := m') (List.getElem_mem hi')
    rw [hlookup, hkey, hright] at hleft
    exact Sigma.ext hkey (heq_of_eq (Option.some.inj hleft).symm)

/-- A map with one entry. -/
theorem eq_of_lookup_insert_empty {k k' : κ} {v v' : ν}
    (h : ((∅ : UnorderedMap κ ν).insert k v).lookup k' = some v') : k' = k ∧ v' = v := by
  by_cases hkey : k' = k
  · subst hkey
    rw [AList.lookup_insert] at h
    exact ⟨rfl, (Option.some.inj h).symm⟩
  · rw [AList.lookup_insert_ne hkey, AList.lookup_empty] at h
    cases h

end UnorderedMap

end HardwareMediatek
