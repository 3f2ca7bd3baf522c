import HardwareMediatek.Foundation.FloatOrder

/-!
# Rounding to a format

A binary format holds the multiples of powers of two whose significand has a limited number of digits.
A number is rounded to the nearest one of them, and of two that are equally near to the one with the
even significand; beyond the largest one it becomes an infinity. Rounding keeps the order and the sign,
and the numbers that the format holds.
-/

namespace HardwareMediatek

namespace ExactFloat

theorem negInf_le {x : ExactFloat} (hx : x.isNaN = false) : negInf ≤ x := by
  cases x with
  | nan => cases hx
  | negInf => exact Or.inr ⟨rfl, rfl⟩
  | fin x => exact Or.inl rfl
  | posInf => exact Or.inl rfl

theorem le_posInf {x : ExactFloat} (hx : x.isNaN = false) : x ≤ posInf := by
  cases x with
  | nan => cases hx
  | negInf => exact Or.inl rfl
  | fin x => exact Or.inl rfl
  | posInf => exact Or.inr ⟨rfl, rfl⟩

/-- A number that is not negative makes a sum no smaller. -/
theorem le_add_right {x y : ExactFloat} (hx : 0 ≤ x) (hy : 0 ≤ y) : x ≤ x + y := by
  cases x with
  | nan => exact absurd hx (by simp [le_def])
  | negInf => exact absurd hx (by simp [le_def, lt_def, lt, zero_def])
  | posInf =>
    cases y with
    | nan => exact absurd hy (by simp [le_def])
    | negInf => exact absurd hy (by simp [le_def, lt_def, lt, zero_def])
    | fin y => exact Or.inr ⟨rfl, rfl⟩
    | posInf => exact Or.inr ⟨rfl, rfl⟩
  | fin x =>
    cases y with
    | nan => exact absurd hy (by simp [le_def])
    | negInf => exact absurd hy (by simp [le_def, lt_def, lt, zero_def])
    | fin y =>
      rw [zero_def, fin_le_fin] at hy
      exact fin_le_fin.mpr (le_add_of_nonneg_right hy)
    | posInf => exact Or.inl rfl

/-- The quotient of a positive number by one that is at least a part of it. -/
theorem div_of_le {c x : ℚ} {y : ExactFloat} (hc : 0 < c) (hx : 0 < x) (hle : fin c * fin x ≤ y) :
    ∃ ratio : ℚ, fin x / y = fin ratio ∧ 0 ≤ ratio ∧ ratio ≤ 1 / c := by
  cases y with
  | nan => exact absurd hle (by simp [le_def])
  | negInf => exact absurd hle (by simp [le_def, lt_def, lt])
  | posInf => exact ⟨0, rfl, le_rfl, one_div_nonneg.mpr hc.le⟩
  | fin y =>
    rw [fin_mul_fin, fin_le_fin] at hle
    have hy : 0 < y := (mul_pos hc hx).trans_le hle
    refine ⟨x / y, ?_, div_nonneg hx.le hy.le, ?_⟩
    · rw [div_def, div, if_neg hy.ne']
    · rw [div_le_div_iff₀ hy hc]
      linarith

end ExactFloat

/-- The nearest integer, and of two the even one. -/
def roundHalfEven (x : ℚ) : ℤ :=
  if x - ⌊x⌋ < 1 / 2 then ⌊x⌋
  else if 1 / 2 < x - ⌊x⌋ then ⌊x⌋ + 1
  else if ⌊x⌋ % 2 = 0 then ⌊x⌋ else ⌊x⌋ + 1

section HalfEven

variable {x y : ℚ} {n : ℤ}

theorem floor_le_roundHalfEven (x : ℚ) : ⌊x⌋ ≤ roundHalfEven x := by
  unfold roundHalfEven
  split_ifs <;> omega

theorem roundHalfEven_le_floor_add_one (x : ℚ) : roundHalfEven x ≤ ⌊x⌋ + 1 := by
  unfold roundHalfEven
  split_ifs <;> omega

/-- Below the middle between two integers. -/
theorem roundHalfEven_le_of_lt (h : x < n + 1 / 2) : roundHalfEven x ≤ n := by
  have hfloor : ⌊x⌋ < n + 1 := by
    rw [Int.floor_lt]
    push_cast
    linarith
  by_cases hbelow : x - ⌊x⌋ < 1 / 2
  · rw [roundHalfEven, if_pos hbelow]
    omega
  · have hlt : ⌊x⌋ < n := by
      have hlow : (⌊x⌋ : ℚ) < n := by linarith
      exact_mod_cast hlow
    exact (roundHalfEven_le_floor_add_one x).trans hlt

@[simp]
theorem roundHalfEven_intCast (n : ℤ) : roundHalfEven n = n := by
  unfold roundHalfEven
  rw [Int.floor_intCast, if_pos]
  rw [sub_self]
  norm_num

theorem roundHalfEven_mono (h : x ≤ y) : roundHalfEven x ≤ roundHalfEven y := by
  rcases (Int.floor_le_floor h).lt_or_eq with hlt | hsame
  · calc roundHalfEven x ≤ ⌊x⌋ + 1 := roundHalfEven_le_floor_add_one x
      _ ≤ ⌊y⌋ := hlt
      _ ≤ roundHalfEven y := floor_le_roundHalfEven y
  · unfold roundHalfEven
    rw [← hsame]
    split_ifs <;> first | omega | linarith

theorem roundHalfEven_neg (x : ℚ) : roundHalfEven (-x) = -roundHalfEven x := by
  by_cases hinteger : x = ⌊x⌋
  · rw [hinteger, ← Int.cast_neg, roundHalfEven_intCast, roundHalfEven_intCast]
  · have hbelow : (⌊x⌋ : ℚ) < x := lt_of_le_of_ne (Int.floor_le x) (Ne.symm hinteger)
    have hfloor : ⌊-x⌋ = -⌊x⌋ - 1 := by
      rw [Int.floor_eq_iff]
      push_cast
      have habove := Int.lt_floor_add_one x
      constructor <;> linarith
    unfold roundHalfEven
    rw [hfloor]
    push_cast
    split_ifs <;> first | omega | linarith

end HalfEven

/-- The digits of a significand, the exponent of the smallest positive number, and the exponent of the
power of two beyond the largest one. -/
structure FloatFormat where
  precision : ℕ
  minExponent : ℤ
  maxExponent : ℤ

/-- `float` -/
def binary32 : FloatFormat := ⟨24, -149, 128⟩

/-- `double` -/
def binary64 : FloatFormat := ⟨53, -1074, 1024⟩

namespace FloatFormat

variable (format : FloatFormat)

/-- The exponent of the last digit of the significand. -/
def ulpExponent (x : ℚ) : ℤ := max (Int.log 2 |x| + 1 - format.precision) format.minExponent

/-- Rounding without a largest number. -/
def roundRat (x : ℚ) : ℚ :=
  roundHalfEven (x / 2 ^ format.ulpExponent x) * 2 ^ format.ulpExponent x

/-- A number that is too large becomes an infinity. -/
def overflow (x : ℚ) : ExactFloat :=
  if 2 ^ format.maxExponent ≤ x then .posInf
  else if x ≤ -2 ^ format.maxExponent then .negInf
  else .fin x

/-- The nearest number of the format. -/
def round : ExactFloat → ExactFloat
  | .fin x => format.overflow (format.roundRat x)
  | x => x

/-- A number that needs no more digits, whatever its size. -/
def Holds (x : ℚ) : Prop :=
  ∃ significand exponent : ℤ, x = significand * 2 ^ exponent ∧
    |significand| < 2 ^ format.precision ∧ format.minExponent ≤ exponent

variable {format} {x y bound : ℚ}

/-! ## Numbers of a format -/

theorem zpow_mul_natPow (exponent : ℤ) (n : ℕ) : (2 : ℚ) ^ exponent * 2 ^ n = 2 ^ (exponent + n) := by
  rw [zpow_add₀ two_ne_zero, zpow_natCast]

theorem Holds.neg (h : format.Holds x) : format.Holds (-x) := by
  obtain ⟨significand, exponent, rfl, hsignificand, hexponent⟩ := h
  refine ⟨-significand, exponent, ?_, by rwa [abs_neg], hexponent⟩
  push_cast
  ring

theorem holds_zero : format.Holds 0 :=
  ⟨0, format.minExponent, by simp, by rw [abs_zero]; exact pow_pos two_pos _, le_rfl⟩

/-- The power of two beyond the digits needs one digit only. -/
theorem holds_precision {exponent : ℤ} (hprecision : 0 < format.precision)
    (hexponent : format.minExponent ≤ exponent) :
    format.Holds ((2 ^ format.precision : ℤ) * 2 ^ exponent) := by
  obtain ⟨n, hn⟩ := Nat.exists_eq_add_one.mpr hprecision
  refine ⟨2 ^ n, exponent + 1, ?_, ?_, by omega⟩
  · rw [hn, zpow_add_one₀ two_ne_zero]
    push_cast
    ring
  · rw [abs_of_pos (pow_pos two_pos n), hn]
    exact pow_lt_pow_right₀ one_lt_two (Nat.lt_succ_self n)

theorem holds_of_le {significand exponent : ℤ} (hprecision : 0 < format.precision)
    (hsignificand : |significand| ≤ 2 ^ format.precision) (hexponent : format.minExponent ≤ exponent) :
    format.Holds (significand * 2 ^ exponent) := by
  rcases hsignificand.lt_or_eq with hlt | hpower
  · exact ⟨significand, exponent, rfl, hlt, hexponent⟩
  · have hholds := holds_precision hprecision hexponent
    rcases (abs_eq (pow_pos two_pos _).le).mp hpower with hpos | hneg
    · rwa [hpos]
    · rw [hneg, Int.cast_neg, neg_mul]
      exact hholds.neg

theorem holds_intCast {n : ℤ} (hminExponent : format.minExponent ≤ 0)
    (hn : |n| < 2 ^ format.precision) : format.Holds n :=
  ⟨n, 0, by simp, hn, hminExponent⟩

/-! ## Rounding -/

theorem ulpExponent_neg (x : ℚ) : format.ulpExponent (-x) = format.ulpExponent x := by
  unfold ulpExponent
  rw [abs_neg]

theorem roundRat_neg (x : ℚ) : format.roundRat (-x) = -format.roundRat x := by
  unfold roundRat
  rw [ulpExponent_neg, neg_div, roundHalfEven_neg]
  push_cast
  ring

theorem abs_lt_ulp (x : ℚ) : |x| < 2 ^ (format.ulpExponent x + format.precision) := by
  have hlog := Int.lt_zpow_succ_log_self one_lt_two |x|
  push_cast at hlog
  apply hlog.trans_le
  apply zpow_le_zpow_right₀ one_le_two
  unfold ulpExponent
  have hmax := le_max_left (Int.log 2 |x| + 1 - format.precision) format.minExponent
  omega

/-- The significand of the rounded number. -/
theorem abs_significand_le (x : ℚ) :
    |roundHalfEven (x / 2 ^ format.ulpExponent x)| ≤ 2 ^ format.precision := by
  have hulp : (0 : ℚ) < 2 ^ format.ulpExponent x := zpow_pos two_pos _
  have hle : |x / 2 ^ format.ulpExponent x| ≤ ((2 ^ format.precision : ℤ) : ℚ) := by
    rw [abs_div, abs_of_pos hulp, div_le_iff₀ hulp]
    apply (abs_lt_ulp x).le.trans
    rw [← zpow_mul_natPow, mul_comm]
    push_cast
    exact le_rfl
  have hbounds := abs_le.mp hle
  rw [abs_le]
  constructor
  · have hlow := roundHalfEven_mono hbounds.1
    rwa [← Int.cast_neg, roundHalfEven_intCast] at hlow
  · have hhigh := roundHalfEven_mono hbounds.2
    rwa [roundHalfEven_intCast] at hhigh

theorem holds_roundRat (hprecision : 0 < format.precision) (x : ℚ) :
    format.Holds (format.roundRat x) :=
  holds_of_le hprecision (abs_significand_le x) (le_max_right _ _)

theorem roundRat_of_holds (h : format.Holds x) : format.roundRat x = x := by
  obtain ⟨significand, exponent, hx, hsignificand, hexponent⟩ := h
  by_cases hzero : x = 0
  · unfold roundRat
    rw [hzero, zero_div, show (0 : ℚ) = ((0 : ℤ) : ℚ) from rfl, roundHalfEven_intCast, Int.cast_zero,
      zero_mul]
  · have hulp : format.ulpExponent x ≤ exponent := by
      unfold ulpExponent
      apply max_le _ hexponent
      have hlow := Int.zpow_log_le_self one_lt_two (abs_pos.mpr hzero)
      push_cast at hlow
      have hhigh : |x| < 2 ^ (exponent + format.precision) := by
        rw [hx, abs_mul, abs_of_pos (zpow_pos two_pos exponent : (0 : ℚ) < 2 ^ exponent),
          ← zpow_mul_natPow, mul_comm]
        apply mul_lt_mul_of_pos_left _ (zpow_pos two_pos exponent)
        exact_mod_cast hsignificand
      have hlt := (zpow_lt_zpow_iff_right₀ (one_lt_two : (1 : ℚ) < 2)).mp (hlow.trans_lt hhigh)
      omega
    obtain ⟨n, hn⟩ := Int.eq_ofNat_of_zero_le (sub_nonneg.mpr hulp)
    have hinteger : x / 2 ^ format.ulpExponent x = ((significand * 2 ^ n : ℤ) : ℚ) := by
      rw [div_eq_iff (zpow_ne_zero _ two_ne_zero)]
      nth_rewrite 1 [hx]
      rw [show exponent = format.ulpExponent x + n by omega, ← zpow_mul_natPow]
      push_cast
      ring
    unfold roundRat
    rw [hinteger, roundHalfEven_intCast, ← hinteger, div_mul_cancel₀ _ (zpow_ne_zero _ two_ne_zero)]

theorem roundRat_nonneg (hx : 0 ≤ x) : 0 ≤ format.roundRat x := by
  unfold roundRat
  have hulp : (0 : ℚ) < 2 ^ format.ulpExponent x := zpow_pos two_pos _
  have hround := roundHalfEven_mono (div_nonneg hx hulp.le)
  rw [show (0 : ℚ) = ((0 : ℤ) : ℚ) from rfl, roundHalfEven_intCast] at hround
  exact mul_nonneg (by exact_mod_cast hround) hulp.le

/-- Between two positive numbers with different last digits lies a power of two. -/
theorem roundRat_mono_of_pos (hprecision : 0 < format.precision) (hx : 0 < x) (h : x ≤ y) :
    format.roundRat x ≤ format.roundRat y := by
  have hulpX : (0 : ℚ) < 2 ^ format.ulpExponent x := zpow_pos two_pos _
  have hulpY : (0 : ℚ) < 2 ^ format.ulpExponent y := zpow_pos two_pos _
  have hlog : Int.log 2 |x| ≤ Int.log 2 |y| := by
    rw [abs_of_pos hx, abs_of_pos (hx.trans_le h)]
    exact Int.log_mono_right hx h
  have hle : format.ulpExponent x ≤ format.ulpExponent y := max_le_max (by omega) le_rfl
  rcases hle.eq_or_lt with hsame | hlt
  · unfold roundRat
    rw [hsame]
    apply mul_le_mul_of_nonneg_right _ hulpY.le
    exact_mod_cast roundHalfEven_mono (div_le_div_of_nonneg_right h hulpY.le)
  · have hmin : format.minExponent ≤ format.ulpExponent x := le_max_right _ _
    have hnormal : format.ulpExponent y = Int.log 2 |y| + 1 - format.precision :=
      max_eq_left (le_of_not_ge fun hsmall ↦
        absurd hlt (not_lt.mpr ((max_eq_right hsmall).le.trans hmin)))
    obtain ⟨n, hn⟩ := Int.eq_ofNat_of_zero_le
      (show 0 ≤ Int.log 2 |y| - format.ulpExponent x by omega)
    obtain ⟨k, hk⟩ := Nat.exists_eq_add_one.mpr hprecision
    have hxBelow : x / 2 ^ format.ulpExponent x ≤ ((2 ^ n : ℤ) : ℚ) := by
      rw [div_le_iff₀ hulpX, ← abs_of_pos hx, abs_of_pos hx]
      calc x ≤ |x| := le_abs_self x
        _ ≤ 2 ^ (format.ulpExponent x + format.precision) := (abs_lt_ulp x).le
        _ ≤ 2 ^ (format.ulpExponent x + n) := zpow_le_zpow_right₀ one_le_two (by omega)
        _ = ((2 ^ n : ℤ) : ℚ) * 2 ^ format.ulpExponent x := by
          rw [← zpow_mul_natPow, mul_comm]
          push_cast
          rfl
    have hyAbove : ((2 ^ k : ℤ) : ℚ) ≤ y / 2 ^ format.ulpExponent y := by
      rw [le_div_iff₀ hulpY]
      calc ((2 ^ k : ℤ) : ℚ) * 2 ^ format.ulpExponent y = 2 ^ (format.ulpExponent y + k) := by
            rw [← zpow_mul_natPow, mul_comm]
            push_cast
            rfl
        _ = 2 ^ Int.log 2 |y| := by congr 1; omega
        _ ≤ |y| := by
          have hlow := Int.zpow_log_le_self one_lt_two (abs_pos.mpr (hx.trans_le h).ne')
          exact_mod_cast hlow
        _ = y := abs_of_pos (hx.trans_le h)
    have hxRound := roundHalfEven_mono hxBelow
    have hyRound := roundHalfEven_mono hyAbove
    rw [roundHalfEven_intCast] at hxRound hyRound
    calc format.roundRat x ≤ ((2 ^ n : ℤ) : ℚ) * 2 ^ format.ulpExponent x :=
          mul_le_mul_of_nonneg_right (by exact_mod_cast hxRound) hulpX.le
      _ = 2 ^ Int.log 2 |y| := by
        push_cast
        rw [mul_comm, zpow_mul_natPow]
        congr 1
        omega
      _ = ((2 ^ k : ℤ) : ℚ) * 2 ^ format.ulpExponent y := by
        push_cast
        rw [mul_comm, zpow_mul_natPow]
        congr 1
        omega
      _ ≤ format.roundRat y := mul_le_mul_of_nonneg_right (by exact_mod_cast hyRound) hulpY.le

theorem roundRat_mono (hprecision : 0 < format.precision) (h : x ≤ y) :
    format.roundRat x ≤ format.roundRat y := by
  rcases lt_or_ge 0 x with hx | hx
  · exact roundRat_mono_of_pos hprecision hx h
  · rcases lt_or_ge y 0 with hy | hy
    · have hneg := roundRat_mono_of_pos hprecision (neg_pos.mpr hy) (neg_le_neg h)
      rw [roundRat_neg, roundRat_neg] at hneg
      exact neg_le_neg_iff.mp hneg
    · have hxRound : 0 ≤ format.roundRat (-x) := roundRat_nonneg (neg_nonneg.mpr hx)
      rw [roundRat_neg] at hxRound
      exact (neg_nonneg.mp hxRound).trans (roundRat_nonneg hy)

/-- A bound that the format holds is a bound of the rounded number. -/
theorem roundRat_le (hprecision : 0 < format.precision) (hbound : format.Holds bound)
    (h : x ≤ bound) : format.roundRat x ≤ bound :=
  roundRat_of_holds hbound ▸ roundRat_mono hprecision h

theorem abs_roundRat_le (hprecision : 0 < format.precision) (hbound : format.Holds bound)
    (h : |x| ≤ bound) : |format.roundRat x| ≤ bound := by
  have hbounds := abs_le.mp h
  have hlow := roundRat_mono hprecision hbounds.1
  rw [roundRat_neg, roundRat_of_holds hbound] at hlow
  exact abs_le.mpr ⟨hlow, roundRat_le hprecision hbound hbounds.2⟩

/-! ## Floating-point values -/

theorem overflow_of_lt (h : |x| < 2 ^ format.maxExponent) : format.overflow x = .fin x := by
  have hbounds := abs_lt.mp h
  rw [overflow, if_neg (not_le.mpr hbounds.2), if_neg (not_le.mpr hbounds.1)]

theorem isNaN_overflow (x : ℚ) : (format.overflow x).isNaN = false := by
  unfold overflow
  split_ifs <;> rfl

theorem overflow_neg (x : ℚ) : format.overflow (-x) = -format.overflow x := by
  have hpower : (0 : ℚ) < 2 ^ format.maxExponent := zpow_pos two_pos _
  unfold overflow
  split_ifs <;> first | rfl | linarith

theorem overflow_mono (h : x ≤ y) : format.overflow x ≤ format.overflow y := by
  have hpower : (0 : ℚ) < 2 ^ format.maxExponent := zpow_pos two_pos _
  unfold overflow
  split_ifs <;> first
    | linarith
    | exact Or.inr ⟨rfl, rfl⟩
    | exact Or.inl rfl
    | exact ExactFloat.fin_le_fin.mpr h

theorem round_fin_of_holds (h : format.Holds x) (hx : |x| < 2 ^ format.maxExponent) :
    format.round (.fin x) = .fin x := by
  rw [round, roundRat_of_holds h, overflow_of_lt hx]

/-- Below a bound that the format holds, a number stays one. -/
theorem exists_round_fin (hprecision : 0 < format.precision) (hbound : format.Holds bound)
    (hmax : bound < 2 ^ format.maxExponent) (h : |x| ≤ bound) :
    ∃ value, format.round (.fin x) = .fin value ∧ |value| ≤ bound :=
  have hle := abs_roundRat_le hprecision hbound h
  ⟨_, overflow_of_lt (hle.trans_lt hmax), hle⟩

@[simp]
theorem round_zero : format.round 0 = 0 := by
  rw [ExactFloat.zero_def, round_fin_of_holds holds_zero]
  rw [abs_zero]
  exact zpow_pos two_pos _

theorem round_intCast (hminExponent : format.minExponent ≤ 0)
    (hmaxExponent : format.precision ≤ format.maxExponent) {n : ℤ} (hn : |n| < 2 ^ format.precision) :
    format.round (ExactFloat.ofInt n) = ExactFloat.ofInt n := by
  apply round_fin_of_holds (holds_intCast hminExponent hn)
  calc |(n : ℚ)| < 2 ^ format.precision := by exact_mod_cast hn
    _ = 2 ^ (format.precision : ℤ) := (zpow_natCast _ _).symm
    _ ≤ 2 ^ format.maxExponent := zpow_le_zpow_right₀ one_le_two hmaxExponent

@[simp]
theorem isNaN_round (x : ExactFloat) : (format.round x).isNaN = x.isNaN := by
  cases x with
  | fin x => exact isNaN_overflow _
  | _ => rfl

theorem round_neg (x : ExactFloat) : format.round (-x) = -format.round x := by
  cases x with
  | fin x =>
    rw [ExactFloat.neg_fin, round, roundRat_neg, overflow_neg]
    rfl
  | _ => rfl

theorem round_mono (hprecision : 0 < format.precision) {x y : ExactFloat} (h : x ≤ y) :
    format.round x ≤ format.round y := by
  cases x with
  | nan => exact absurd h (by simp [ExactFloat.le_def])
  | negInf =>
    cases y with
    | fin y => exact ExactFloat.negInf_le (isNaN_overflow _)
    | _ => exact h
  | posInf =>
    cases y with
    | fin y => exact absurd h (by simp [ExactFloat.le_def, ExactFloat.lt_def, ExactFloat.lt])
    | _ => exact h
  | fin x =>
    cases y with
    | fin y => exact overflow_mono (roundRat_mono hprecision (ExactFloat.fin_le_fin.mp h))
    | posInf => exact ExactFloat.le_posInf (isNaN_overflow _)
    | negInf => exact absurd h (by simp [ExactFloat.le_def, ExactFloat.lt_def, ExactFloat.lt])
    | nan => exact absurd h (by simp [ExactFloat.le_def])

/-- Rounding twice is rounding once. -/
theorem round_round (hprecision : 0 < format.precision) (x : ExactFloat) :
    format.round (format.round x) = format.round x := by
  cases x with
  | fin x =>
    rw [round, overflow]
    split_ifs with hhigh hlow
    · rfl
    · rfl
    · apply round_fin_of_holds (holds_roundRat hprecision x)
      exact abs_lt.mpr ⟨not_le.mp hlow, not_le.mp hhigh⟩
  | _ => rfl

theorem round_not_neg (hprecision : 0 < format.precision) {x : ExactFloat} (hx : ¬ x < 0) :
    ¬ format.round x < 0 := by
  by_cases hnumber : x.isNaN = false
  · have hround := round_mono hprecision (ExactFloat.le_of_not_lt rfl hnumber hx)
    rw [round_zero] at hround
    exact fun hlt ↦ ExactFloat.lt_irrefl _ (ExactFloat.lt_of_le_of_lt hround hlt)
  · cases x <;> first | exact absurd rfl hnumber | exact ExactFloat.not_nan_lt _

theorem round_not_pos (hprecision : 0 < format.precision) {x : ExactFloat} (hx : ¬ 0 < x) :
    ¬ 0 < format.round x := by
  by_cases hnumber : x.isNaN = false
  · have hround := round_mono hprecision (ExactFloat.le_of_not_lt hnumber rfl hx)
    rw [round_zero] at hround
    exact fun hlt ↦ ExactFloat.lt_irrefl _ (ExactFloat.lt_of_le_of_lt hround hlt)
  · cases x <;> first | exact absurd rfl hnumber | exact ExactFloat.not_lt_nan _

/-! ## Truncation -/

/-- The whole part of a number of the format is one, too. -/
theorem Holds.floor (hminExponent : format.minExponent ≤ 0) (h : format.Holds x) (hx : 0 ≤ x) :
    format.Holds (⌊x⌋ : ℤ) := by
  obtain ⟨significand, exponent, hvalue, hsignificand, hexponent⟩ := h
  rcases le_or_gt 0 exponent with hwhole | hfraction
  · obtain ⟨n, rfl⟩ := Int.eq_ofNat_of_zero_le hwhole
    have hinteger : x = ((significand * 2 ^ n : ℤ) : ℚ) := by
      rw [hvalue]
      push_cast
      rfl
    rw [hinteger, Int.floor_intCast, ← hinteger]
    exact ⟨significand, n, hvalue, hsignificand, hexponent⟩
  · apply holds_intCast hminExponent
    rw [abs_of_nonneg (Int.floor_nonneg.mpr hx)]
    have hle : x ≤ |significand| := by
      calc x = |x| := (abs_of_nonneg hx).symm
        _ = |(significand : ℚ)| * 2 ^ exponent := by
          rw [hvalue, abs_mul, abs_of_pos (zpow_pos two_pos exponent : (0 : ℚ) < 2 ^ exponent)]
        _ ≤ |(significand : ℚ)| := mul_le_of_le_one_right (abs_nonneg _)
          (zpow_le_one_of_nonpos₀ one_le_two hfraction.le)
        _ = ((|significand| : ℤ) : ℚ) := (Int.cast_abs).symm
    exact (Int.floor_le_iff.mpr (hle.trans_lt (lt_add_one _))).trans_lt hsignificand

end FloatFormat

namespace ExactFloat

theorem truncate_mono {x y : ℚ} (h : x ≤ y) : truncate x ≤ truncate y := by
  unfold truncate
  split_ifs with hx hy hy
  · exact Int.floor_le_floor h
  · exact absurd (hx.trans h) hy
  · exact (Int.ceil_le.mpr (by exact_mod_cast (not_le.mp hx).le)).trans (Int.floor_nonneg.mpr hy)
  · exact Int.ceil_le_ceil h

theorem toIntSat_mono {low high : ℤ} (hbounds : low ≤ high) {x y : ExactFloat} (h : x ≤ y) :
    x.toIntSat low high ≤ y.toIntSat low high := by
  cases x with
  | nan => exact absurd h (by simp [le_def])
  | negInf =>
    cases y with
    | nan => exact absurd h (by simp [le_def])
    | negInf => exact le_rfl
    | fin y => exact le_max_left _ _
    | posInf => exact hbounds
  | posInf =>
    cases y with
    | posInf => exact le_rfl
    | _ => exact absurd h (by simp [le_def, lt_def, lt])
  | fin x =>
    cases y with
    | nan => exact absurd h (by simp [le_def])
    | negInf => exact absurd h (by simp [le_def, lt_def, lt])
    | fin y => exact max_le_max le_rfl (min_le_min le_rfl (truncate_mono (fin_le_fin.mp h)))
    | posInf => exact max_le hbounds (min_le_left _ _)

end ExactFloat

/-! ## Sums -/

/-- A sum that is rounded after each addition. -/
def roundedSum (round : ExactFloat → ExactFloat) (xs : List ExactFloat) : ExactFloat :=
  xs.foldl (fun sum x ↦ round (sum + x)) 0

theorem roundedSum_concat (round : ExactFloat → ExactFloat) (xs : List ExactFloat) (x : ExactFloat) :
    roundedSum round (xs ++ [x]) = round (roundedSum round xs + x) := by
  unfold roundedSum
  rw [List.foldl_append]
  rfl

theorem roundedSum_id (xs : List ExactFloat) : roundedSum id xs = xs.sum := List.sum_eq_foldl.symm

/-! ## Bounded numbers -/

/-- A number of at most a size. -/
def UpTo (bound : ℚ) (x : ExactFloat) : Prop := ∃ value : ℚ, x = .fin value ∧ |value| ≤ bound

section UpTo

variable {format : FloatFormat} {bound bound' : ℚ} {x y : ExactFloat} {xs : List ExactFloat}

theorem UpTo.mono (h : UpTo bound x) (hle : bound ≤ bound') : UpTo bound' x := by
  obtain ⟨value, hx, hvalue⟩ := h
  exact ⟨value, hx, hvalue.trans hle⟩

theorem UpTo.add (hx : UpTo bound x) (hy : UpTo bound' y) : UpTo (bound + bound') (x + y) := by
  obtain ⟨x, rfl, hx⟩ := hx
  obtain ⟨y, rfl, hy⟩ := hy
  exact ⟨x + y, rfl, (abs_add_le x y).trans (add_le_add hx hy)⟩

theorem UpTo.sub (hx : UpTo bound x) (hy : UpTo bound' y) : UpTo (bound + bound') (x - y) := by
  obtain ⟨x, rfl, hx⟩ := hx
  obtain ⟨y, rfl, hy⟩ := hy
  exact ⟨x - y, ExactFloat.fin_sub_fin x y, (abs_sub x y).trans (add_le_add hx hy)⟩

theorem UpTo.mul (hx : UpTo bound x) (hy : UpTo bound' y) : UpTo (bound * bound') (x * y) := by
  obtain ⟨x, rfl, hx⟩ := hx
  obtain ⟨y, rfl, hy⟩ := hy
  refine ⟨x * y, rfl, ?_⟩
  rw [abs_mul]
  exact mul_le_mul hx hy (abs_nonneg y) ((abs_nonneg x).trans hx)

theorem UpTo.mul_of_one (hx : UpTo bound x) (hy : UpTo 1 y) : UpTo bound (x * y) := by
  have hproduct := hx.mul hy
  rwa [mul_one] at hproduct

theorem UpTo.round (hprecision : 0 < format.precision) (hbound : format.Holds bound)
    (hmax : bound < 2 ^ format.maxExponent) (h : UpTo bound x) : UpTo bound (format.round x) := by
  obtain ⟨x, rfl, hx⟩ := h
  exact FloatFormat.exists_round_fin hprecision hbound hmax hx

/-- A sum is bounded by the number of its summands, if the format holds the multiples of the bound. -/
theorem upTo_roundedSum (hprecision : 0 < format.precision)
    (hholds : ∀ n : ℕ, n ≤ xs.length →
      format.Holds (bound * n) ∧ bound * n < 2 ^ format.maxExponent)
    (hxs : ∀ x ∈ xs, UpTo bound x) : UpTo (bound * xs.length) (roundedSum format.round xs) := by
  induction xs using List.reverseRecOn with
  | nil => exact ⟨0, rfl, by simp⟩
  | append_singleton xs x ih =>
    rw [roundedSum_concat]
    have hlength : (xs ++ [x]).length = xs.length + 1 := List.length_append
    obtain ⟨hbound, hmax⟩ := hholds _ le_rfl
    apply UpTo.round hprecision hbound hmax
    have hsum := ih (fun n hn ↦ hholds n (by omega))
      fun y hy ↦ hxs y (List.mem_append_left _ hy)
    apply (hsum.add (hxs x List.mem_concat_self)).mono
    rw [hlength]
    push_cast
    linarith

/-- A sum of numbers that the format holds is at least every one of them. -/
theorem le_roundedSum (hprecision : 0 < format.precision)
    (hxs : ∀ x ∈ xs, 0 ≤ x ∧ format.round x = x) :
    0 ≤ roundedSum format.round xs ∧ ∀ x ∈ xs, x ≤ roundedSum format.round xs := by
  induction xs using List.reverseRecOn with
  | nil => exact ⟨Or.inr ⟨rfl, rfl⟩, fun x hx ↦ absurd hx List.not_mem_nil⟩
  | append_singleton xs x ih =>
    rw [roundedSum_concat]
    have hsum := ih fun y hy ↦ hxs y (List.mem_append_left _ hy)
    have hx := hxs x List.mem_concat_self
    have hnext : ∀ y, y ≤ roundedSum format.round xs + x → format.round y = y →
        y ≤ format.round (roundedSum format.round xs + x) :=
      fun y hle hy ↦ hy ▸ FloatFormat.round_mono hprecision hle
    have hadded := ExactFloat.le_add_right hsum.1 hx.1
    refine ⟨hnext 0 (ExactFloat.le_trans hsum.1 hadded) FloatFormat.round_zero, fun y hy ↦ ?_⟩
    rcases List.mem_append.mp hy with hbefore | hlast
    · exact hnext y (ExactFloat.le_trans (hsum.2 y hbefore) hadded) (hxs y hy).2
    · rw [List.mem_singleton.mp hlast]
      apply hnext x _ hx.2
      rw [add_comm]
      exact ExactFloat.le_add_right hx.1 hsum.1

end UpTo

/-! ## `float` -/

theorem round_binary32_ofInt {n : ℤ} (hn : |n| < 2 ^ 24) :
    binary32.round (ExactFloat.ofInt n) = ExactFloat.ofInt n :=
  FloatFormat.round_intCast (by decide) (by decide) hn

theorem round_binary32_one : binary32.round 1 = 1 := round_binary32_ofInt (by decide)

theorem round_binary32_mono {x y : ExactFloat} (h : x ≤ y) : binary32.round x ≤ binary32.round y :=
  FloatFormat.round_mono (by decide) h

theorem round_binary32_round (x : ExactFloat) :
    binary32.round (binary32.round x) = binary32.round x :=
  FloatFormat.round_round (by decide) x

theorem holds_binary32_shift {n : ℕ} (hn : n ≤ 2 ^ 24) : binary32.Holds (2 ^ 20 * n) := by
  have hholds : binary32.Holds ((n : ℤ) * 2 ^ (20 : ℤ)) :=
    FloatFormat.holds_of_le (by decide) (by rw [Nat.abs_cast]; exact_mod_cast hn) (by decide)
  rw [mul_comm]
  exact_mod_cast hholds

theorem shift_lt_binary32 {n : ℕ} (hn : n ≤ 2 ^ 24) :
    (2 ^ 20 * n : ℚ) < 2 ^ binary32.maxExponent := by
  have hle : (n : ℚ) ≤ 2 ^ 24 := by exact_mod_cast hn
  have hpower : (2 : ℚ) ^ binary32.maxExponent = 2 ^ 128 := rfl
  rw [hpower]
  linarith [show (2 : ℚ) ^ 20 * 2 ^ 24 < 2 ^ 128 by norm_num]

/-- Up to 2^24 times 2^20 a bound stays one. -/
theorem UpTo.round_binary32 {n : ℕ} {x : ExactFloat} (hn : n ≤ 2 ^ 24) (h : UpTo (2 ^ 20 * n) x) :
    UpTo (2 ^ 20 * n) (binary32.round x) :=
  h.round (by decide) (holds_binary32_shift hn) (shift_lt_binary32 hn)

theorem UpTo.round_ratio {x : ExactFloat} (h : UpTo 1 x) : UpTo 1 (binary32.round x) :=
  h.round (by decide) ⟨1, 0, by norm_num, by decide, by decide⟩ (by norm_num [binary32])

end HardwareMediatek
