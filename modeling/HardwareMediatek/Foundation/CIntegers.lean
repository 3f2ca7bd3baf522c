import Mathlib.Algebra.Group.Int.Defs
import Mathlib.Algebra.GroupWithZero.Nat
import Mathlib.Tactic.Common

/-!
# Conversions between C integer types

A 32-bit number stored in an `int`, and an `int` expression used as a `size_t` of 64 bits.
-/

namespace HardwareMediatek.Foundation

/-- The `int` that the low 32 bits of a number make. -/
def asInt (value : ℕ) : ℤ :=
  if value % 2 ^ 32 < 2 ^ 31 then (value % 2 ^ 32 : ℕ) else (value % 2 ^ 32 : ℕ) - 2 ^ 32

/-- An `int` expression converted to `size_t`. -/
def asSize (value : ℤ) : ℕ := (value % 2 ^ 64).toNat

theorem asInt_bounds (value : ℕ) : -2147483648 ≤ asInt value ∧ asInt value < 2147483648 := by
  unfold asInt
  split <;> omega

theorem asInt_of_lt {value : ℕ} (hvalue : value < 2 ^ 31) : asInt value = value := by
  unfold asInt
  rw [Nat.mod_eq_of_lt (by omega), if_pos hvalue]

theorem asSize_of_nonneg {value : ℤ} (hvalue : 0 ≤ value) (hlt : value < 2 ^ 64) :
    asSize value = value.toNat := by
  unfold asSize
  rw [Int.emod_eq_of_lt hvalue hlt]

theorem asSize_of_neg {value : ℤ} (hvalue : value < 0) (hge : -(2 ^ 64) ≤ value) :
    asSize value = (2 ^ 64 + value).toNat := by
  unfold asSize
  rw [← Int.add_emod_left, Int.emod_eq_of_lt (by omega) (by omega)]

end HardwareMediatek.Foundation
