import Mathlib.Algebra.Order.Floor.Semifield
import Mathlib.Tactic.FieldSimp
import Mathlib.Tactic.LinearCombination
import Mathlib.Tactic.Ring

/-!
# Linear interpolation

The points `(k, f k)` are joined by straight lines. Interpolation is linear in the points, and two places
between the same points differ by the slope there.
-/

namespace HardwareMediatek.Foundation

section Interpolation

variable {K : Type} [Field K] [LinearOrder K] [FloorSemiring K]

/-- The slope of the line at `x`. -/
def slopeAt (f : ℕ → K) (x : K) : K := f (⌊x⌋₊ + 1) - f ⌊x⌋₊

def interpolate (f : ℕ → K) (x : K) : K := f ⌊x⌋₊ + (x - ⌊x⌋₊) * slopeAt f x

theorem interpolate_add (f g : ℕ → K) (x : K) :
    interpolate (fun k ↦ f k + g k) x = interpolate f x + interpolate g x := by
  unfold interpolate slopeAt
  ring

theorem interpolate_sub_of_floor_eq (f : ℕ → K) {x y : K} (hfloor : ⌊y⌋₊ = ⌊x⌋₊) :
    interpolate f x - interpolate f y = (x - y) * slopeAt f x := by
  unfold interpolate slopeAt
  rw [hfloor]
  ring

variable [IsStrictOrderedRing K]

/-- Interpolation at a fraction, in the words of a division with remainder. -/
theorem interpolate_div (f : ℕ → K) {m n : ℕ} (hn : 0 < n) :
    interpolate f ((m : K) / n) =
      f (m / n) + ((m : K) - n * (m / n : ℕ)) * (f (m / n + 1) - f (m / n)) / n := by
  have hpositive : (n : K) ≠ 0 := Nat.cast_ne_zero.mpr hn.ne'
  unfold interpolate slopeAt
  rw [Nat.floor_div_eq_div]
  field_simp

end Interpolation

end HardwareMediatek.Foundation
