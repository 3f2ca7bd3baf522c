import Mathlib

/-!
# Left-biased union of keyed lists

Lists of records with a key are merged so that the left list wins: the left
list stays as it is, and a record of the right list is appended when its key
does not occur on the left. A list `IsLeftUnion` of a family of lists when its
keys are unique and every lookup finds the record of the first list of the
family that has the key.
-/

namespace HardwareMediatek

variable {α κ : Type} [DecidableEq κ]

/-- The first record with the given key. -/
def findKey (key : α → κ) (k : κ) (xs : List α) : Option α := xs.find? fun x ↦ key x = k

/-- The records of `xs`, and then those of `ys` whose key does not occur in `xs`. -/
def mergeByKey (key : α → κ) (xs ys : List α) : List α :=
  xs ++ ys.filter fun y ↦ key y ∉ xs.map key

section Lookup

variable {key : α → κ} {k : κ} {xs ys : List α}

theorem findKey_isSome_iff : (findKey key k xs).isSome ↔ k ∈ xs.map key := by
  simp [findKey, List.find?_isSome]

theorem findKey_eq_none_iff : findKey key k xs = none ↔ k ∉ xs.map key := by
  simp [findKey, List.find?_eq_none]

theorem findKey_filter (keep : κ → Bool) (hk : keep k = true) :
    findKey key k (ys.filter fun y ↦ keep (key y)) = findKey key k ys := by
  unfold findKey
  rw [List.find?_filter]
  congr 1
  funext y
  by_cases h : key y = k
  · simp [h, hk]
  · simp [h]

/-- The left list answers first. -/
theorem findKey_mergeByKey :
    findKey key k (mergeByKey key xs ys) = (findKey key k xs).or (findKey key k ys) := by
  have happend : findKey key k (mergeByKey key xs ys) =
      (findKey key k xs).or (findKey key k (ys.filter fun y ↦ key y ∉ xs.map key)) :=
    List.find?_append
  rw [happend]
  cases hleft : findKey key k xs with
  | some x => rfl
  | none =>
    have hkeep : decide (k ∉ xs.map key) = true := by
      simpa using findKey_eq_none_iff.mp hleft
    rw [Option.none_or, Option.none_or]
    exact findKey_filter (fun k ↦ decide (k ∉ xs.map key)) hkeep

theorem nodup_mergeByKey (hxs : (xs.map key).Nodup) (hys : (ys.map key).Nodup) :
    ((mergeByKey key xs ys).map key).Nodup := by
  rw [mergeByKey, List.map_append]
  refine List.nodup_append'.mpr ⟨hxs, hys.sublist (List.filter_sublist.map key), ?_⟩
  intro k hleft hright
  obtain ⟨y, hy, rfl⟩ := List.mem_map.mp hright
  simp only [List.mem_filter, decide_eq_true_eq] at hy
  exact hy.2 hleft

theorem prefix_mergeByKey : xs <+: mergeByKey key xs ys := List.prefix_append _ _

end Lookup

/-- `xs` holds each key once, with the record of the first list in the family that has it. -/
structure IsLeftUnion (key : α → κ) (lists : List (List α)) (xs : List α) : Prop where
  nodup : (xs.map key).Nodup
  find : ∀ k, findKey key k xs = lists.findSome? (findKey key k)

namespace IsLeftUnion

variable {key : α → κ} {lists lists' : List (List α)} {xs ys : List α}

theorem singleton (h : (xs.map key).Nodup) : IsLeftUnion key [xs] xs := by
  refine ⟨h, fun k ↦ ?_⟩
  cases hfind : findKey key k xs <;> simp [hfind]

theorem merge (hxs : IsLeftUnion key lists xs) (hys : IsLeftUnion key lists' ys) :
    IsLeftUnion key (lists ++ lists') (mergeByKey key xs ys) := by
  refine ⟨nodup_mergeByKey hxs.nodup hys.nodup, fun k ↦ ?_⟩
  rw [findKey_mergeByKey, hxs.find, hys.find, List.findSome?_append]

theorem mem_iff (h : IsLeftUnion key lists xs) {k : κ} :
    k ∈ xs.map key ↔ ∃ list ∈ lists, k ∈ list.map key := by
  rw [← findKey_isSome_iff, h.find, List.findSome?_isSome_iff]
  simp only [findKey_isSome_iff]

end IsLeftUnion

end HardwareMediatek
