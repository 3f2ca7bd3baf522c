import HardwareMediatek.Foundation.ExactFloat

/-!
# The order of floating-point values

The comparisons order the values other than `nan` linearly, and negation reverses them.
-/

namespace HardwareMediatek.ExactFloat

theorem isNaN_left_of_lt {x y : ExactFloat} (hlt : x < y) : x.isNaN = false := by
  cases x with
  | nan => exact absurd hlt (not_nan_lt y)
  | negInf => rfl
  | fin value => rfl
  | posInf => rfl

theorem isNaN_right_of_lt {x y : ExactFloat} (hlt : x < y) : y.isNaN = false := by
  cases y with
  | nan => exact absurd hlt (not_lt_nan x)
  | negInf => rfl
  | fin value => rfl
  | posInf => rfl

theorem lt_trans {x y z : ExactFloat} (hxy : x < y) (hyz : y < z) : x < z := by
  rw [lt_def] at *
  cases x <;> cases y <;> cases z <;> simp_all only [lt, decide_eq_true_eq, Bool.false_eq_true]
  exact hxy.trans hyz

theorem lt_irrefl (x : ExactFloat) : ¬ x < x := by
  rw [lt_def]
  cases x <;> simp [lt]

theorem le_of_not_lt {x y : ExactFloat} (hx : x.isNaN = false) (hy : y.isNaN = false)
    (hnot : ¬ y < x) : x ≤ y := by
  rw [le_def]
  rw [lt_def] at *
  cases x <;> cases y <;> simp_all [lt, le_iff_lt_or_eq.symm]

theorem lt_of_le_of_lt {x y z : ExactFloat} (hxy : x ≤ y) (hyz : y < z) : x < z := by
  rcases hxy with hlt | hsame
  · exact lt_trans hlt hyz
  · rw [hsame.1]
    exact hyz

theorem lt_of_lt_of_le {x y z : ExactFloat} (hxy : x < y) (hyz : y ≤ z) : x < z := by
  rcases hyz with hlt | hsame
  · exact lt_trans hxy hlt
  · rw [← hsame.1]
    exact hxy

theorem le_trans {x y z : ExactFloat} (hxy : x ≤ y) (hyz : y ≤ z) : x ≤ z := by
  rcases hxy with hlt | hsame
  · exact Or.inl (lt_of_lt_of_le hlt hyz)
  · rw [hsame.1]
    exact hyz

@[simp] theorem isNaN_neg (x : ExactFloat) : (-x).isNaN = x.isNaN := by cases x <;> rfl

@[simp] theorem neg_neg (x : ExactFloat) : - -x = x := by cases x <;> simp [neg_def, neg]

@[simp] theorem neg_lt_neg_iff {x y : ExactFloat} : -x < -y ↔ y < x := by
  rw [lt_def, lt_def]
  cases x <;> cases y <;> simp [neg_def, neg, lt]

@[simp] theorem neg_le_neg_iff {x y : ExactFloat} : -x ≤ -y ↔ y ≤ x := by
  rw [le_def, le_def, neg_lt_neg_iff]
  apply or_congr_right
  apply Iff.intro
  · intro hsame
    have hback := congrArg (fun z ↦ -z) hsame.1
    simp only [neg_neg] at hback
    exact ⟨hback.symm, by rw [← hback, ← isNaN_neg]; exact hsame.2⟩
  · intro hsame
    rw [hsame.1]
    exact ⟨rfl, by rw [isNaN_neg, ← hsame.1]; exact hsame.2⟩

theorem neg_add (x y : ExactFloat) : -(x + y) = -x + -y := by
  cases x <;> cases y <;> simp [neg_def, neg, add_def, add, add_comm]

/-- Subtracting what is not negative leaves at most the value, unless that is infinite. -/
theorem sub_le_of_lt {x y h : ExactFloat} (hlt : x < y) (hh : 0 ≤ h) : x - h ≤ x := by
  cases h with
  | nan => exact absurd hh (by simp [zero_def, le_def])
  | negInf => exact absurd hh (by decide)
  | fin h =>
    rw [zero_def, fin_le_fin] at hh
    cases x with
    | nan => exact absurd hlt (not_nan_lt y)
    | negInf => exact Or.inr ⟨rfl, rfl⟩
    | fin x =>
      rw [fin_sub_fin, fin_le_fin]
      linarith
    | posInf => exact Or.inr ⟨rfl, rfl⟩
  | posInf =>
    cases x with
    | nan => exact absurd hlt (not_nan_lt y)
    | negInf => exact Or.inr ⟨rfl, rfl⟩
    | fin x => exact Or.inl rfl
    | posInf => cases y <;> cases hlt

end HardwareMediatek.ExactFloat
