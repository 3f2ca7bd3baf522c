import Mathlib

/-!
# Floating-point values without rounding

An `ExactFloat` is a rational number or one of the three special values of
floating-point arithmetic. The operations follow the special-value rules of
IEEE 754 and are otherwise exact: nothing is rounded, nothing overflows and
zero carries no sign. Comparisons with `nan` are false, as in the C family.

Addition is commutative and associative even in the presence of special
values, so a sum collected by a loop does not depend on the order of the loop.
-/

namespace HardwareMediatek

/-- A rational number, an infinity or "not a number". -/
inductive ExactFloat where
  | nan
  | negInf
  | fin (value : ℚ)
  | posInf
deriving DecidableEq

namespace ExactFloat

instance : Inhabited ExactFloat := ⟨nan⟩
instance : Zero ExactFloat := ⟨fin 0⟩
instance : One ExactFloat := ⟨fin 1⟩
instance : Coe ℚ ExactFloat := ⟨fin⟩

def ofInt (n : ℤ) : ExactFloat := fin n

def isNaN : ExactFloat → Bool
  | nan => true
  | _ => false

def add : ExactFloat → ExactFloat → ExactFloat
  | nan, _ | _, nan => nan
  | posInf, negInf | negInf, posInf => nan
  | posInf, _ | _, posInf => posInf
  | negInf, _ | _, negInf => negInf
  | fin x, fin y => fin (x + y)

def neg : ExactFloat → ExactFloat
  | nan => nan
  | negInf => posInf
  | fin x => fin (-x)
  | posInf => negInf

/-- The infinity with the sign of a nonzero finite factor; a zero factor gives no value. -/
def scaledInf (x : ℚ) : ExactFloat :=
  if x = 0 then nan else if 0 < x then posInf else negInf

def mul : ExactFloat → ExactFloat → ExactFloat
  | nan, _ | _, nan => nan
  | posInf, posInf | negInf, negInf => posInf
  | posInf, negInf | negInf, posInf => negInf
  | posInf, fin x | fin x, posInf => scaledInf x
  | negInf, fin x | fin x, negInf => scaledInf (-x)
  | fin x, fin y => fin (x * y)

/-- A zero divisor counts as positive zero. -/
def div : ExactFloat → ExactFloat → ExactFloat
  | nan, _ | _, nan => nan
  | posInf, posInf | posInf, negInf | negInf, posInf | negInf, negInf => nan
  | posInf, fin y => if 0 ≤ y then posInf else negInf
  | negInf, fin y => if 0 ≤ y then negInf else posInf
  | fin _, posInf | fin _, negInf => fin 0
  | fin x, fin y => if y = 0 then scaledInf x else fin (x / y)

def lt : ExactFloat → ExactFloat → Bool
  | nan, _ | _, nan => false
  | negInf, negInf => false
  | negInf, _ => true
  | _, negInf => false
  | posInf, _ => false
  | _, posInf => true
  | fin x, fin y => decide (x < y)

instance : Add ExactFloat := ⟨add⟩
instance : Neg ExactFloat := ⟨neg⟩
instance : Sub ExactFloat := ⟨fun x y ↦ x + -y⟩
instance : Mul ExactFloat := ⟨mul⟩
instance : Div ExactFloat := ⟨div⟩
instance : LT ExactFloat := ⟨fun x y ↦ lt x y = true⟩

/-- The relation `<=` of the C family: false as soon as one side is `nan`. -/
instance : LE ExactFloat := ⟨fun x y ↦ x < y ∨ (x = y ∧ x.isNaN = false)⟩

instance (x y : ExactFloat) : Decidable (x < y) := inferInstanceAs (Decidable (lt x y = true))
instance (x y : ExactFloat) : Decidable (x ≤ y) :=
  inferInstanceAs (Decidable (x < y ∨ (x = y ∧ x.isNaN = false)))

/-- The relation `==` of the C family. -/
def feq (x y : ExactFloat) : Bool := decide (x = y) && !x.isNaN

/-- `std::fabs`. -/
def fabs : ExactFloat → ExactFloat
  | nan => nan
  | negInf | posInf => posInf
  | fin x => fin |x|

/-- `std::min`, which returns its first argument unless the second is smaller. -/
def min (x y : ExactFloat) : ExactFloat := if y < x then y else x

/-- `std::max`, which returns its first argument unless it is the smaller one. -/
def max (x y : ExactFloat) : ExactFloat := if x < y then y else x

/-- `std::clamp`. -/
def clamp (x low high : ExactFloat) : ExactFloat :=
  if x < low then low else if high < x then high else x

/-- Rounding toward zero. -/
def truncate (x : ℚ) : ℤ := if 0 ≤ x then ⌊x⌋ else ⌈x⌉

/-- Rounding to the nearest integer, halves away from zero. -/
def roundHalfAway (x : ℚ) : ℤ := if 0 ≤ x then ⌊x + 1 / 2⌋ else ⌈x - 1 / 2⌉

/-- Conversion to an integer between two bounds: truncated, saturating at the bounds, and zero
for `nan`, as a saturating conversion instruction computes it. -/
def toIntSat (low high : ℤ) : ExactFloat → ℤ
  | nan => 0
  | negInf => low
  | posInf => high
  | fin x => Max.max low (Min.min high (truncate x))

theorem zero_def : (0 : ExactFloat) = fin 0 := rfl
theorem add_def (x y : ExactFloat) : x + y = add x y := rfl
theorem neg_def (x : ExactFloat) : -x = neg x := rfl
theorem sub_def (x y : ExactFloat) : x - y = x + -y := rfl
theorem mul_def (x y : ExactFloat) : x * y = mul x y := rfl
theorem div_def (x y : ExactFloat) : x / y = div x y := rfl
theorem lt_def (x y : ExactFloat) : x < y ↔ lt x y = true := Iff.rfl
theorem le_def (x y : ExactFloat) : x ≤ y ↔ x < y ∨ (x = y ∧ x.isNaN = false) := Iff.rfl

@[simp] theorem isNaN_nan : nan.isNaN = true := rfl
@[simp] theorem isNaN_fin (x : ℚ) : (fin x).isNaN = false := rfl
@[simp] theorem fin_add_fin (x y : ℚ) : fin x + fin y = fin (x + y) := rfl
@[simp] theorem neg_fin (x : ℚ) : -fin x = fin (-x) := rfl
@[simp] theorem fin_sub_fin (x y : ℚ) : fin x - fin y = fin (x - y) := by
  rw [sub_def, neg_fin, fin_add_fin, sub_eq_add_neg]
@[simp] theorem fin_mul_fin (x y : ℚ) : fin x * fin y = fin (x * y) := rfl
@[simp] theorem fin_lt_fin {x y : ℚ} : fin x < fin y ↔ x < y := by simp [lt_def, lt]
@[simp] theorem fin_le_fin {x y : ℚ} : fin x ≤ fin y ↔ x ≤ y := by
  simp [le_def, le_iff_lt_or_eq]

@[simp] theorem nan_add (x : ExactFloat) : nan + x = nan := by cases x <;> rfl
@[simp] theorem add_nan (x : ExactFloat) : x + nan = nan := by cases x <;> rfl
@[simp] theorem neg_nan : -nan = nan := rfl
@[simp] theorem sub_nan (x : ExactFloat) : x - nan = nan := by rw [sub_def, neg_nan, add_nan]
@[simp] theorem not_nan_lt (x : ExactFloat) : ¬ nan < x := by cases x <;> simp [lt_def, lt]
@[simp] theorem not_lt_nan (x : ExactFloat) : ¬ x < nan := by cases x <;> simp [lt_def, lt]

/-- Exact addition with special values is still a commutative monoid: `nan` absorbs, and two
opposite infinities meet in `nan` however the other summands are grouped. -/
instance : AddCommMonoid ExactFloat where
  add_assoc x y z := by
    cases x <;> cases y <;> cases z <;> simp [add_def, add, add_assoc]
  zero_add x := by cases x <;> simp [zero_def, add_def, add]
  add_zero x := by cases x <;> simp [zero_def, add_def, add]
  add_comm x y := by cases x <;> cases y <;> simp [add_def, add, add_comm]
  nsmul := nsmulRec

end ExactFloat

end HardwareMediatek
