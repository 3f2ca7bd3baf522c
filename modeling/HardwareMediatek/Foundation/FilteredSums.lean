import HardwareMediatek.Foundation.ExactFloat

/-!
# Sums over the elements that satisfy a test

The sum over one test and the sum over another one differ by the elements that only one of them
selects. Sums of finite floating-point values are finite, and scaling them by a percentage loses nothing
unless the percentage is zero.
-/

namespace HardwareMediatek

section Exchange

variable {α M : Type} [AddCommMonoid M]

/-- Both sides are the sum over the elements that satisfy one of the tests. -/
theorem sum_filter_exchange (p q : α → Bool) (f : α → M) (xs : List α) :
    ((xs.filter p).map f).sum + ((xs.filter fun x ↦ q x && !p x).map f).sum =
      ((xs.filter q).map f).sum + ((xs.filter fun x ↦ p x && !q x).map f).sum := by
  induction xs with
  | nil => rfl
  | cons x rest ih =>
    simp only [List.filter_cons]
    cases p x with
    | false =>
      cases q x with
      | false => exact ih
      | true =>
        simp only [Bool.not_false, Bool.and_true, Bool.and_false, Bool.false_eq_true, if_true, if_false,
          Bool.not_true, List.map_cons, List.sum_cons]
        rw [add_left_comm, ih, add_assoc]
    | true =>
      cases q x with
      | false =>
        simp only [Bool.not_false, Bool.and_true, Bool.and_false, Bool.false_eq_true, if_true, if_false,
          Bool.not_true, List.map_cons, List.sum_cons]
        rw [add_left_comm, add_assoc, ih]
      | true =>
        simp only [Bool.not_true, Bool.and_false, Bool.false_eq_true, if_true, if_false, List.map_cons,
          List.sum_cons]
        rw [add_assoc, ih, add_assoc]

end Exchange

namespace ExactFloat

/-- The number of a finite value; the special values have none and count as zero. -/
def value : ExactFloat → ℚ
  | fin x => x
  | nan | negInf | posInf => 0

@[simp] theorem value_fin (x : ℚ) : (fin x).value = x := rfl

/-- A sum of finite values. -/
theorem sum_eq_fin {α : Type} {f : α → ExactFloat} {xs : List α}
    (hfinite : ∀ x ∈ xs, f x = fin (f x).value) :
    (xs.map f).sum = fin (xs.map fun x ↦ (f x).value).sum := by
  induction xs with
  | nil => rfl
  | cons x rest ih =>
    have hrest := ih fun y hy ↦ hfinite y (List.mem_cons_of_mem _ hy)
    rw [List.map_cons, List.sum_cons, List.map_cons, List.sum_cons, hrest,
      hfinite x List.mem_cons_self, fin_add_fin, value_fin]

def isFinite : ExactFloat → Bool
  | fin _ => true
  | nan | negInf | posInf => false

/-- Scaling by a percentage other than zero keeps values apart. -/
theorem scaled_eq_iff {x y : ExactFloat} {percent : ℚ} :
    x * fin percent / fin 100 = y * fin percent / fin 100 ↔
      x = y ∨ percent = 0 ∧ x.isFinite = y.isFinite := by
  rw [mul_def, mul_def, div_def, div_def]
  rcases lt_trichotomy percent 0 with hneg | hzero | hpos
  · have hne : percent ≠ 0 := hneg.ne
    have hnot : ¬ 0 < percent := not_lt.mpr hneg.le
    cases x <;> cases y <;>
      simp [mul, div, scaledInf, isFinite, hne, hnot, hneg]
  · cases x <;> cases y <;>
      simp [mul, div, scaledInf, isFinite, hzero]
  · have hne : percent ≠ 0 := hpos.ne'
    have hnot : ¬ percent < 0 := not_lt.mpr hpos.le
    cases x <;> cases y <;>
      simp [mul, div, scaledInf, isFinite, hne, hnot, hpos]

end ExactFloat

end HardwareMediatek
