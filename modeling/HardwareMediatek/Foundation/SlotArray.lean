import Mathlib.Data.List.Nodup
import Mathlib.Logic.Function.Basic
import Mathlib.Tactic.Common

/-!
# Arrays of slots with a count

An allocated array whose first `count` slots are in use. Entries are added at the end, in a slot that
may hold what it held before, changed in place, and removed by moving those behind them. In terms of
the list of entries in use this is appending, changing one and dropping one.
-/

namespace HardwareMediatek.Foundation

/-- The slots in use never exceed those allocated. -/
structure SlotArray (β : Type) where
  slots : ℕ → β
  count : ℕ
  capacity : ℕ
  count_le : count ≤ capacity

namespace SlotArray

variable {β : Type} (array : SlotArray β)

/-- The entries in use, in their order. -/
def items : List β := (List.range array.count).map array.slots

/-- An allocated array in which no slot is in use. -/
def empty (slots : ℕ → β) (capacity : ℕ) : SlotArray β where
  slots := slots
  count := 0
  capacity := capacity
  count_le := Nat.zero_le capacity

/-- The first slot in use whose entry satisfies a condition. -/
def find (p : β → Bool) : Option ℕ := (List.range array.count).find? fun i ↦ p (array.slots i)

/-- Write the next slot, which there must be. -/
def push (x : β) (hroom : array.count < array.capacity) : SlotArray β where
  slots := Function.update array.slots array.count x
  count := array.count + 1
  capacity := array.capacity
  count_le := hroom

def modify (i : ℕ) (f : β → β) : SlotArray β :=
  { array with slots := Function.update array.slots i (f (array.slots i)) }

/-- `memmove` of the entries behind a slot to that slot, and one entry less in use. -/
def removeAt (i : ℕ) : SlotArray β where
  slots k := if i ≤ k ∧ k + 1 < array.count then array.slots (k + 1) else array.slots k
  count := array.count - 1
  capacity := array.capacity
  count_le := Nat.le_trans (Nat.sub_le _ _) array.count_le

@[simp]
theorem items_empty (slots : ℕ → β) (capacity : ℕ) : (empty slots capacity).items = [] := rfl

theorem length_items : array.items.length = array.count := by
  unfold items
  rw [List.length_map, List.length_range]

theorem items_push (x : β) (hroom : array.count < array.capacity) :
    (array.push x hroom).items = array.items ++ [x] := by
  unfold items push
  dsimp only
  rw [List.range_succ, List.map_append, List.map_singleton, Function.update_self]
  congr 1
  apply List.map_congr_left
  intro k hk
  have hne : k ≠ array.count := Nat.ne_of_lt (List.mem_range.mp hk)
  rw [Function.update_of_ne hne]

theorem find_eq_none_iff (p : β → Bool) :
    array.find p = none ↔ ∀ x ∈ array.items, p x = false := by
  unfold find items
  simp

/-- The entry in the slot that is found. -/
theorem map_find (p : β → Bool) : (array.find p).map array.slots = array.items.find? p := by
  unfold find items
  rw [List.find?_map]
  rfl

/-- Where the first entry is found, and what becomes of the entries when it is changed or removed. -/
structure FoundAt (p : β → Bool) (i : ℕ) (before : List β) (x : β) (after : List β) : Prop where
  items : array.items = before ++ x :: after
  holds : p x = true
  notBefore : ∀ y ∈ before, p y = false
  removed : (array.removeAt i).items = before ++ after
  modified : ∀ f, (array.modify i f).items = before ++ f x :: after

/-- What is found is an entry. -/
theorem FoundAt.mem {p : β → Bool} {i : ℕ} {before after : List β} {x : β}
    (hfound : array.FoundAt p i before x after) : x ∈ array.items := by
  rw [hfound.items]
  exact List.mem_append_right _ List.mem_cons_self

theorem items_removeAt {i : ℕ} (hi : i < array.count) :
    (array.removeAt i).items = array.items.eraseIdx i := by
  have hlength := array.length_items
  apply List.ext_getElem
  · rw [length_items, List.length_eraseIdx_of_lt (by omega), hlength]
    rfl
  · intro k hk _
    have hcount : k < array.count - 1 := by
      rw [length_items] at hk
      exact hk
    rw [List.getElem_eraseIdx]
    simp only [items, removeAt, List.getElem_map, List.getElem_range]
    by_cases hki : k < i
    · rw [dif_pos hki, if_neg (by omega)]
    · rw [dif_neg hki, if_pos (by omega)]

theorem items_modify {i : ℕ} (f : β → β) :
    (array.modify i f).items = array.items.set i (f (array.slots i)) := by
  apply List.ext_getElem
  · rw [List.length_set, length_items, length_items]
    rfl
  · intro k hk _
    rw [List.getElem_set]
    simp only [items, modify, List.getElem_map, List.getElem_range, Function.update_apply]
    by_cases hki : i = k
    · rw [if_pos hki.symm, if_pos hki]
    · rw [if_neg (Ne.symm hki), if_neg hki]

theorem foundAt_of_find {p : β → Bool} {i : ℕ} (hfind : array.find p = some i) :
    ∃ before after, array.FoundAt p i before (array.slots i) after := by
  have hspec := List.find?_range_eq_some.mp hfind
  have hi : i < array.count := List.mem_range.mp hspec.2.1
  have hlength : i < array.items.length := by
    rw [length_items]
    exact hi
  have hget : array.items[i] = array.slots i := by
    simp only [items, List.getElem_map, List.getElem_range]
  apply Exists.intro (array.items.take i)
  apply Exists.intro (array.items.drop (i + 1))
  apply FoundAt.mk
  · rw [← hget, ← List.drop_eq_getElem_cons hlength, List.take_append_drop]
  · exact hspec.1
  · intro y hy
    obtain ⟨k, hbound, hvalue⟩ := List.mem_take_iff_getElem.mp hy
    have hnot := hspec.2.2 k (by omega)
    rw [← hvalue]
    simp only [items, List.getElem_map, List.getElem_range]
    exact Bool.eq_false_iff.mpr (by simpa using hnot)
  · rw [items_removeAt array hi, List.eraseIdx_eq_take_drop_succ]
  · intro f
    rw [items_modify, List.set_eq_take_append_cons_drop, if_pos hlength]

end SlotArray

section DistinctKeys

variable {β κ : Type} {key : β → κ} {before after : List β} {x : β}

theorem key_ne_of_distinct (hdistinct : ((before ++ x :: after).map key).Nodup) {y : β}
    (hy : y ∈ before ++ after) : key y ≠ key x := by
  rw [List.map_append, List.map_cons] at hdistinct
  have hmiddle := (List.nodup_middle.mp hdistinct)
  intro hsame
  apply (List.nodup_cons.mp hmiddle).1
  rw [← hsame, ← List.map_append]
  exact List.mem_map_of_mem hy

variable [DecidableEq κ]

/-- Dropping all entries with the key of one drops that one. -/
theorem filter_of_distinct (hdistinct : ((before ++ x :: after).map key).Nodup) :
    (before ++ x :: after).filter (fun y ↦ key y ≠ key x) = before ++ after := by
  have hne {y : β} := key_ne_of_distinct (y := y) hdistinct
  rw [List.filter_append, List.filter_cons_of_neg (by simp)]
  congr 1
  · apply List.filter_eq_self.mpr
    intro y hy
    exact decide_eq_true (hne (List.mem_append_left _ hy))
  · apply List.filter_eq_self.mpr
    intro y hy
    exact decide_eq_true (hne (List.mem_append_right _ hy))

/-- Replacing all entries with the key of one replaces that one. -/
theorem map_of_distinct (hdistinct : ((before ++ x :: after).map key).Nodup) (z : β) :
    (before ++ x :: after).map (fun y ↦ if key y = key x then z else y) = before ++ z :: after := by
  have hkept (rest : List β) (hne : ∀ y ∈ rest, key y ≠ key x) :
      rest.map (fun y ↦ if key y = key x then z else y) = rest := by
    conv_rhs => rw [← List.map_id rest]
    apply List.map_congr_left
    intro y hy
    exact if_neg (hne y hy)
  rw [List.map_append, List.map_cons, if_pos rfl, hkept before, hkept after]
  · intro y hy
    exact key_ne_of_distinct hdistinct (List.mem_append_right _ hy)
  · intro y hy
    exact key_ne_of_distinct hdistinct (List.mem_append_left _ hy)

end DistinctKeys

end HardwareMediatek.Foundation
