import Mathlib.Algebra.Group.Int.Defs
import Mathlib.Algebra.GroupWithZero.Nat
import Mathlib.Data.List.Induction
import Mathlib.Tactic.Common

/-!
# Reading bytes of a buffer

Memory is a function from offsets to bytes that goes on past the end of every buffer, so that a read
outside a buffer has a value too. A computation that reads keeps the regions it read; whether it
stayed inside a buffer is a property of these regions.
-/

namespace HardwareMediatek.Foundation

abbrev Bytes := ℕ → UInt8

def u16At (bytes : Bytes) (pos : ℕ) : ℕ := (bytes pos).toNat + 256 * (bytes (pos + 1)).toNat

def u32At (bytes : Bytes) (pos : ℕ) : ℕ := u16At bytes pos + 65536 * u16At bytes (pos + 2)

theorem u16At_lt (bytes : Bytes) (pos : ℕ) : u16At bytes pos < 65536 := by
  have hlow := (bytes pos).toNat_lt
  have hhigh := (bytes (pos + 1)).toNat_lt
  unfold u16At
  omega

/-- The bytes from `start` on, `size` of them. -/
structure Region where
  start : ℕ
  size : ℕ
  deriving DecidableEq, Repr

/-- No byte of the region is at `limit` or after it. -/
def Region.EndsBy (region : Region) (limit : ℕ) : Prop := region.size = 0 ∨ region.start + region.size ≤ limit

instance (region : Region) (limit : ℕ) : Decidable (region.EndsBy limit) :=
  inferInstanceAs (Decidable (_ ∨ _))

end HardwareMediatek.Foundation
