import HardwareMediatek.Foundation.FilteredSums
import HardwareMediatek.Foundation.FloatOrder

/-!
# Finite values and "not a number"

Sums, products and quotients of finite values are finite. "Not a number" passes through them, and
through a clamp, which otherwise ends between its bounds.
-/

namespace HardwareMediatek.ExactFloat

theorem isFinite_iff {x : ExactFloat} : x.isFinite = true ↔ ∃ value, x = fin value := by
  cases x <;> simp [isFinite]

theorem isNaN_of_isFinite {x : ExactFloat} (hx : x.isFinite = true) : x.isNaN = false := by
  obtain ⟨value, hvalue⟩ := isFinite_iff.mp hx
  rw [hvalue, isNaN_fin]

@[simp] theorem isFinite_zero : (0 : ExactFloat).isFinite = true := rfl

theorem isFinite_add {x y : ExactFloat} (hx : x.isFinite = true) (hy : y.isFinite = true) :
    (x + y).isFinite = true := by
  cases x <;> cases y <;> simp_all [isFinite]

@[simp] theorem isFinite_neg (x : ExactFloat) : (-x).isFinite = x.isFinite := by cases x <;> rfl

theorem isFinite_sub {x y : ExactFloat} (hx : x.isFinite = true) (hy : y.isFinite = true) :
    (x - y).isFinite = true := by
  rw [sub_def]
  exact isFinite_add hx (by rw [isFinite_neg]; exact hy)

theorem isFinite_mul {x y : ExactFloat} (hx : x.isFinite = true) (hy : y.isFinite = true) :
    (x * y).isFinite = true := by
  cases x <;> cases y <;> simp_all [isFinite]

theorem isFinite_div {x : ExactFloat} {y : ℚ} (hx : x.isFinite = true) (hy : y ≠ 0) :
    (x / fin y).isFinite = true := by
  obtain ⟨value, hvalue⟩ := isFinite_iff.mp hx
  rw [hvalue, div_def, div, if_neg hy]
  rfl

@[simp] theorem nan_mul (x : ExactFloat) : nan * x = nan := by cases x <;> rfl
@[simp] theorem mul_nan (x : ExactFloat) : x * nan = nan := by cases x <;> rfl
@[simp] theorem nan_sub (x : ExactFloat) : nan - x = nan := by rw [sub_def, nan_add]
@[simp] theorem nan_div (x : ExactFloat) : nan / x = nan := by cases x <;> rfl

theorem eq_nan_iff {x : ExactFloat} : x.isNaN = true ↔ x = nan := by
  cases x <;> simp [isNaN]

/-- A finite summand does not change whether there is a sum. -/
theorem isNaN_finite_add {x y : ExactFloat} (hx : x.isFinite = true) : (x + y).isNaN = y.isNaN := by
  cases x <;> cases y <;> simp_all [isFinite, add_def, add, isNaN]

theorem isNaN_add_finite {x y : ExactFloat} (hy : y.isFinite = true) : (x + y).isNaN = x.isNaN := by
  rw [add_comm, isNaN_finite_add hy]

theorem isNaN_sub_finite {x y : ExactFloat} (hy : y.isFinite = true) : (x - y).isNaN = x.isNaN := by
  rw [sub_def, isNaN_add_finite (by rw [isFinite_neg]; exact hy)]

theorem isNaN_scaledInf {x : ℚ} (hx : x ≠ 0) : (scaledInf x).isNaN = false := by
  rw [scaledInf, if_neg hx]
  split <;> rfl

/-- A factor other than zero keeps a number a number. -/
theorem isNaN_mul_fin {x : ExactFloat} {y : ℚ} (hx : x.isNaN = false) (hy : y ≠ 0) :
    (x * fin y).isNaN = false := by
  cases x with
  | nan => cases hx
  | negInf => exact isNaN_scaledInf (neg_ne_zero.mpr hy)
  | fin value => rfl
  | posInf => exact isNaN_scaledInf hy

theorem fin_min_fin (x y : ℚ) : (fin x).min (fin y) = fin (Min.min x y) := by
  unfold min
  by_cases hlt : y < x
  · rw [if_pos (fin_lt_fin.mpr hlt), min_eq_right hlt.le]
  · rw [if_neg (mt fin_lt_fin.mp hlt), min_eq_left (not_lt.mp hlt)]

theorem fin_max_fin (x y : ℚ) : (fin x).max (fin y) = fin (Max.max x y) := by
  unfold max
  by_cases hlt : x < y
  · rw [if_pos (fin_lt_fin.mpr hlt), max_eq_right hlt.le]
  · rw [if_neg (mt fin_lt_fin.mp hlt), max_eq_left (not_lt.mp hlt)]

@[simp] theorem clamp_nan (low high : ExactFloat) : clamp nan low high = nan := by
  rw [clamp, if_neg (not_nan_lt low), if_neg (not_lt_nan high)]

/-- A clamp ends between its bounds exactly when it starts from a number. -/
theorem clamp_between_iff {x low high : ExactFloat} (hle : low ≤ high) :
    low ≤ clamp x low high ∧ clamp x low high ≤ high ↔ x.isNaN = false := by
  have hlow : low.isNaN = false ∧ high.isNaN = false := by
    apply Or.elim hle
    · exact fun hlt ↦ ⟨isNaN_left_of_lt hlt, isNaN_right_of_lt hlt⟩
    · exact fun hsame ↦ ⟨hsame.2, hsame.1 ▸ hsame.2⟩
  apply Iff.intro
  · intro hbetween
    by_contra hnan
    rw [eq_nan_iff.mp (Bool.eq_true_of_not_eq_false hnan), clamp_nan, le_def] at hbetween
    apply Or.elim hbetween.1
    · exact not_lt_nan low
    · intro hsame
      rw [hsame.1] at hlow
      cases hlow.1
  · intro hx
    unfold clamp
    by_cases hbelow : x < low
    · rw [if_pos hbelow]
      exact ⟨Or.inr ⟨rfl, hlow.1⟩, hle⟩
    · rw [if_neg hbelow]
      by_cases habove : high < x
      · rw [if_pos habove]
        exact ⟨hle, Or.inr ⟨rfl, hlow.2⟩⟩
      · rw [if_neg habove]
        exact ⟨le_of_not_lt hlow.1 hx hbelow, le_of_not_lt hx hlow.2 habove⟩

end HardwareMediatek.ExactFloat
