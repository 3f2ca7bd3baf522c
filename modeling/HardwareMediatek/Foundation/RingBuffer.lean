import Mathlib.Data.Int.ModEq
import Mathlib.Data.List.Basic
import Mathlib.Tactic.Common

/-!
# Ring buffers

A ring of fixed length is written at a running count, modulo its length. Read backward from the last
slot that was written, it gives the last values of the history, and the first value of the history in
the place of values before it.
-/

namespace HardwareMediatek.Foundation

section RingBuffer

variable {α : Type}

/-- The value so many steps before the last one. Before the first one there is the first one. -/
def stepsBack (history : List α) (steps : ℕ) : Option α := history[history.length - 1 - steps]?

/-- The slot so many steps before the one that was written last. -/
def slotBack (length written steps : ℕ) : ℕ := (written - 1 + (length - steps)) % length

/-- Every slot of the ring holds its value of the history. -/
structure RingHolds (length : ℕ) (ring history : List α) : Prop where
  size : ring.length = length
  slots : ∀ steps < length, ring[slotBack length history.length steps]? = stepsBack history steps

theorem slotBack_lt {length : ℕ} (hlength : 0 < length) (written steps : ℕ) :
    slotBack length written steps < length := Nat.mod_lt _ hlength

/-- A ring filled with one value holds the history of that value. -/
theorem ringHolds_seed {length : ℕ} (hlength : 0 < length) (x : α) :
    RingHolds length (List.replicate length x) [x] where
  size := List.length_replicate
  slots steps _ := by
    rw [List.getElem?_replicate, if_pos (slotBack_lt hlength _ _)]
    unfold stepsBack
    rw [List.length_singleton, Nat.sub_self, Nat.zero_sub]
    rfl

/-- A ring filled with one value holds a history that is full of that value. -/
theorem ringHolds_replicate {length : ℕ} (hlength : 0 < length) (x : α) :
    RingHolds length (List.replicate length x) (List.replicate length x) where
  size := List.length_replicate
  slots steps _ := by
    unfold stepsBack
    rw [List.getElem?_replicate, if_pos (slotBack_lt hlength _ _), List.getElem?_replicate,
      if_pos (by rw [List.length_replicate]; omega)]

/-- The slots read backward from the one that is written next, around the end. -/
theorem slotBack_of_next {length written steps : ℕ} (hwritten : 0 < written) (hsteps : steps < length) :
    (slotBack length written steps : ℤ) =
      if ((written % length : ℕ) : ℤ) - steps - 1 < 0 then
        ((written % length : ℕ) : ℤ) - steps - 1 + length
      else ((written % length : ℕ) : ℤ) - steps - 1 := by
  have hlt : written % length < length := Nat.mod_lt _ (by omega)
  have hwhole : length * (written / length) + written % length = written := Nat.div_add_mod _ _
  by_cases hnegative : written % length < steps + 1
  · have hsum : written - 1 + (length - steps) =
        (written % length + length - steps - 1) + length * (written / length) := by omega
    unfold slotBack
    rw [if_pos (by omega), hsum, Nat.add_mul_mod_self_left, Nat.mod_eq_of_lt (by omega)]
    omega
  · have hsum : written - 1 + (length - steps) =
        (written % length - steps - 1) + length * (written / length + 1) := by
      rw [Nat.mul_add]
      omega
    unfold slotBack
    rw [if_neg (by omega), hsum, Nat.add_mul_mod_self_left, Nat.mod_eq_of_lt (by omega)]
    omega

/-- The last slot that was written is the one at the count. -/
theorem slotBack_zero {length written : ℕ} :
    slotBack length (written + 1) 0 = written % length := by
  unfold slotBack
  rw [Nat.add_sub_cancel, Nat.sub_zero, Nat.add_mod_right]

/-- After one more write, what was so many steps back is one step further back. -/
theorem slotBack_succ {length written steps : ℕ} (hwritten : 0 < written) (hsteps : steps + 1 < length) :
    slotBack length (written + 1) (steps + 1) = slotBack length written steps := by
  unfold slotBack
  congr 1
  omega

theorem slotBack_ne {length written steps : ℕ} (hsteps : steps + 1 < length) :
    slotBack length (written + 1) (steps + 1) ≠ written % length := by
  unfold slotBack
  rw [Nat.add_sub_cancel]
  intro hsame
  have hzero : (length - (steps + 1)) % length = 0 := by
    have hmod : written + (length - (steps + 1)) ≡ written + 0 [MOD length] := hsame
    exact Nat.ModEq.add_left_cancel' written hmod
  rw [Nat.mod_eq_of_lt (by omega)] at hzero
  omega

/-- A write at the count keeps the history. -/
theorem RingHolds.write {length : ℕ} {ring history : List α} (h : RingHolds length ring history)
    (hhistory : history ≠ []) (x : α) :
    RingHolds length (ring.set (history.length % length) x) (history ++ [x]) where
  size := List.length_set.trans h.size
  slots steps hsteps := by
    have hpositive : 0 < history.length := List.length_pos_iff.mpr hhistory
    have hcount : (history ++ [x]).length = history.length + 1 := List.length_append
    cases steps with
    | zero =>
      have hlt : history.length % length < ring.length := (Nat.mod_lt _ hsteps).trans_eq h.size.symm
      rw [hcount, slotBack_zero, List.getElem?_set_self hlt]
      unfold stepsBack
      rw [hcount, Nat.add_sub_cancel, Nat.sub_zero, List.getElem?_concat_length]
    | succ steps =>
      rw [hcount, List.getElem?_set_ne (slotBack_ne hsteps).symm, slotBack_succ hpositive hsteps,
        h.slots steps (by omega)]
      unfold stepsBack
      rw [hcount, List.getElem?_append_left (by omega)]
      congr 1
      omega

/-- One step further back is the slot before, or the last slot. -/
theorem slotBack_step {length written steps : ℕ} (hsteps : steps + 1 < length) :
    (slotBack length written (steps + 1) : ℤ) =
      if 0 ≤ (slotBack length written steps : ℤ) - 1 then (slotBack length written steps : ℤ) - 1
      else length - 1 := by
  unfold slotBack
  have hnext : written - 1 + (length - steps) = written - 1 + (length - (steps + 1)) + 1 := by omega
  rw [hnext]
  generalize written - 1 + (length - (steps + 1)) = place
  have hlt := Nat.mod_lt place (show 0 < length by omega)
  rw [Nat.add_mod, Nat.mod_eq_of_lt (show 1 < length by omega)]
  by_cases hlast : place % length + 1 < length
  · rw [Nat.mod_eq_of_lt hlast]
    omega
  · have hfull : place % length + 1 = length := by omega
    rw [hfull, Nat.mod_self]
    omega

end RingBuffer

end HardwareMediatek.Foundation
