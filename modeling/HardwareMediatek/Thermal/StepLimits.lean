import HardwareMediatek.Foundation.DecreasingTable
import HardwareMediatek.Thermal.BudgetRange

/-!
# Limited steps

A device is released and throttled by at most a step in one update. The steps limit the power that is
granted; the request is found in the table of powers afterwards. The bounds are those of the state of
the stored budget, which is the request of the update before.
-/

namespace HardwareMediatek.Thermal

/-- A table of whole powers that an `int` can hold. -/
structure IsIntegerTable (cdevInfo : CdevInfo) (table : List ℚ) : Prop
    extends IsPowerTable cdevInfo table where
  integral : ∀ power ∈ table, ∃ value : ℤ, power = value ∧ value ≤ intMax
  float : ∀ power ∈ table, binary32.round (.fin power) = .fin power

section Table

variable {cdevInfo : CdevInfo} {table : List ℚ} {x : ℚ} {k state : ℤ}

theorem IsIntegerTable.within (h : IsIntegerTable cdevInfo table) :
    ∀ power ∈ cdevInfo.state2power, Within intMax power := by
  intro power hpower
  rw [h.entries] at hpower
  obtain ⟨entry, hentry, hvalue⟩ := List.mem_map.mp hpower
  obtain ⟨value, hinteger, hle⟩ := h.integral entry hentry
  refine ⟨entry, hvalue.symm, h.nonneg entry hentry, ?_⟩
  rw [hinteger]
  exact_mod_cast hle

/-- A power that is read is an entry of the table. -/
theorem IsPowerTable.entry (h : IsPowerTable cdevInfo table) {i : ℤ} {power : ExactFloat}
    (hpower : atIndex cdevInfo.state2power i = .ok power) : ∃ entry : ℚ,
      power = .fin entry ∧ 0 ≤ i ∧ table[i.toNat]? = some entry := by
  have hindex := atIndex_eq_ok.mp hpower
  rw [h.entries, List.getElem?_map] at hindex
  obtain ⟨entry, hentry, hvalue⟩ := Option.map_eq_some_iff.mp hindex.2
  exact ⟨entry, hvalue.symm, hindex.1, hentry⟩

/-- The state of a power is where the search finds it. -/
theorem IsPowerTable.firstCovered (h : IsPowerTable cdevInfo table)
    (hstate : powerToState (.fin x) cdevInfo.state2power = .ok state) :
    IsFirstCovered table x state := by
  have hrange := (powerToState_nonneg _ _).of_ok hstate
  rw [h.entries] at hstate
  rw [h.entries, List.length_map] at hrange
  exact ⟨hrange.1, hrange.2, fun i entry hentry ↦ powerToState_le_iff h.decreasing hstate hentry⟩

/-- Storing a power loses no entry of the table. -/
theorem IsIntegerTable.coveredFrom_floor (h : IsIntegerTable cdevInfo table)
    (hcovered : CoveredFrom table k x) : CoveredFrom table k (⌊x⌋ : ℤ) := by
  intro i entry hi hentry
  obtain ⟨value, hvalue, -⟩ := h.integral entry (List.mem_of_getElem? hentry)
  have hle := hcovered i entry hi hentry
  rw [hvalue] at hle ⊢
  exact_mod_cast Int.le_floor.mpr hle

theorem aboveBefore_floor (habove : AboveBefore table k x) : AboveBefore table k (⌊x⌋ : ℤ) :=
  habove.mono le_rfl (Int.floor_le x)

end Table

/-! ## Widened steps -/

/-- In a table without equal powers, a loop widens a step of zero only, and only to one. -/
theorem widenStep_eq {cdevInfo : CdevInfo} {table : List ℚ} (h : IsPowerTable cdevInfo table)
    {currCdevVote : ℤ} {probe : ℤ → ℤ} {inside : ℤ → Bool}
    (hprobe : ∀ step, probe step = currCdevVote ↔ step = 0) {fuel : ℕ} {step widened : ℤ}
    (hwidened : widenStep cdevInfo.state2power currCdevVote probe inside fuel step = .ok widened) :
    widened = step ∨ step = 0 ∧ inside currCdevVote = true ∧ widened = 1 := by
  induction fuel generalizing step with
  | zero =>
    rw [widenStep] at hwidened
    obtain ⟨state, -, hresult⟩ := bind_eq_ok.mp hwidened
    exact Or.inl (Except.ok.inj hresult).symm
  | succ fuel ih =>
    rw [widenStep] at hwidened
    obtain ⟨state, hstate, hwidened⟩ := bind_eq_ok.mp hwidened
    have hstate : state = probe step := (checkedInt_eq_ok.mp hstate).2.symm
    by_cases hinside : inside state = true
    · rw [if_pos hinside] at hwidened
      obtain ⟨power, hpower, hwidened⟩ := bind_eq_ok.mp hwidened
      obtain ⟨currPower, hcurrPower, hwidened⟩ := bind_eq_ok.mp hwidened
      by_cases hequal : power.feq currPower = true
      · rw [if_pos hequal] at hwidened
        have hsame : state = currCdevVote := by
          obtain ⟨entry, hentry, hnonneg, hindex⟩ := h.entry hpower
          obtain ⟨entry', hentry', hnonneg', hindex'⟩ := h.entry hcurrPower
          rw [ExactFloat.feq, Bool.and_eq_true, decide_eq_true_eq, hentry, hentry'] at hequal
          rw [ExactFloat.fin.inj hequal.1] at hindex
          have hunique := index_unique h.decreasing hindex hindex'
          omega
        have hzero : step = 0 := (hprobe step).mp (hstate.symm.trans hsame)
        apply Or.inr
        rw [hsame] at hinside
        refine ⟨hzero, hinside, ?_⟩
        apply (ih hwidened).elim
        · intro hone
          rw [hone, hzero, zero_add]
        · rintro ⟨hagain, -⟩
          omega
      · rw [if_neg hequal] at hwidened
        exact Or.inl (Except.ok.inj hwidened).symm
    · rw [if_neg hinside] at hwidened
      exact Or.inl (Except.ok.inj hwidened).symm

theorem widenStep_nonneg {cdevInfo : CdevInfo} {table : List ℚ} (h : IsPowerTable cdevInfo table)
    {currCdevVote : ℤ} {probe : ℤ → ℤ} {inside : ℤ → Bool} {fuel : ℕ} {step widened : ℤ}
    (hnonneg : 0 ≤ step) (hprobe : ∀ step, probe step = currCdevVote ↔ step = 0)
    (hwidened : widenStep cdevInfo.state2power currCdevVote probe inside fuel step = .ok widened) :
    0 ≤ widened := by
  apply (widenStep_eq h hprobe hwidened).elim
  · exact fun hsame ↦ hsame ▸ hnonneg
  · rintro ⟨-, -, hone⟩
    rw [hone]
    exact zero_le_one

section Limits

variable {cdevInfo : CdevInfo} {table : List ℚ} {binding : BindedCdevInfo}
  {currSeverity : ThrottlingSeverity} {powerDataInvalid : Bool} {cdevPowerAdjustment : ExactFloat}
  {currCdevVote maxCdevVote k : ℤ} {budget : ℚ} {limited : ExactFloat}

/-- A device is released by at most its step. -/
theorem limitRelease_aboveBefore (htable : IsPowerTable cdevInfo table)
    (hlimited : limitRelease cdevInfo binding currSeverity powerDataInvalid cdevPowerAdjustment
      currCdevVote maxCdevVote (.fin budget) = .ok limited)
    (hlimits : binding.maxReleaseStep ≠ intMax) (hnonneg : 0 ≤ binding.maxReleaseStep)
    (hwidened : binding.maxReleaseStep = 0 → (powerDataInvalid = true ∨ 0 < cdevPowerAdjustment) →
      (powerDataInvalid = true ∨ maxCdevVote ≤ currCdevVote) →
        currCdevVote ≤ binding.limitInfo currSeverity)
    (hunlimited : ¬ (powerDataInvalid = true ∨ 0 < cdevPowerAdjustment) →
      AboveBefore table (currCdevVote - binding.maxReleaseStep) budget) : ∃ value,
      limited = .fin value ∧ AboveBefore table (currCdevVote - binding.maxReleaseStep) value := by
  unfold limitRelease at hlimited
  by_cases hcounts : powerDataInvalid = true ∨ 0 < cdevPowerAdjustment
  · rw [if_pos ⟨hlimits, hcounts⟩] at hlimited
    by_cases hvoted : (!powerDataInvalid && decide (currCdevVote < maxCdevVote)) = true
    · rw [if_pos hvoted] at hlimited
      obtain ⟨entry, hentry, hcurrent, hindex⟩ := htable.entry hlimited
      exact ⟨entry, hentry, aboveBefore_entry htable.decreasing hindex (by omega)⟩
    · rw [if_neg hvoted] at hlimited
      obtain ⟨step, hstep, hlimited⟩ := bind_eq_ok.mp hlimited
      obtain ⟨power, hpower, hlimited⟩ := bind_eq_ok.mp hlimited
      have hsame : step = binding.maxReleaseStep := by
        apply (widenStep_eq htable (fun step ↦ by omega) hstep).resolve_right
        rintro ⟨hzero, hinside, -⟩
        have hunvoted : powerDataInvalid = true ∨ maxCdevVote ≤ currCdevVote := by
          rw [Bool.and_eq_true, not_and_or, Bool.not_eq_true, Bool.not_eq_false',
            decide_eq_true_eq, not_lt] at hvoted
          exact hvoted
        exact absurd (of_decide_eq_true hinside) (not_lt.mpr (hwidened hzero hcounts hunvoted))
      obtain ⟨entry, hentry, htarget, hindex⟩ := htable.entry hpower
      rw [hentry, ExactFloat.fin_min_fin] at hlimited
      refine ⟨min budget entry, (Except.ok.inj hlimited).symm, ?_⟩
      have habove : AboveBefore table (currCdevVote - binding.maxReleaseStep) entry :=
        aboveBefore_entry htable.decreasing hindex (by omega)
      exact habove.mono le_rfl (min_le_right _ _)
  · rw [if_neg fun happlies ↦ hcounts happlies.2] at hlimited
    exact ⟨budget, (Except.ok.inj hlimited).symm, hunlimited hcounts⟩

/-- The release limit throttles no device beyond its current state. -/
theorem limitRelease_coveredFrom (htable : IsPowerTable cdevInfo table)
    (hlimited : limitRelease cdevInfo binding currSeverity powerDataInvalid cdevPowerAdjustment
      currCdevVote maxCdevVote (.fin budget) = .ok limited)
    (hnonneg : 0 ≤ binding.maxReleaseStep) (hcurrent : 0 ≤ currCdevVote) (hk : currCdevVote ≤ k)
    (hcovered : CoveredFrom table k budget) :
    ∃ value, limited = .fin value ∧ CoveredFrom table k value := by
  unfold limitRelease at hlimited
  split at hlimited
  · split at hlimited
    · obtain ⟨entry, hentry, -, hindex⟩ := htable.entry hlimited
      exact ⟨entry, hentry, coveredFrom_entry htable.decreasing hindex (by omega)⟩
    · obtain ⟨step, hstep, hlimited⟩ := bind_eq_ok.mp hlimited
      obtain ⟨power, hpower, hlimited⟩ := bind_eq_ok.mp hlimited
      have hstepNonneg := widenStep_nonneg htable hnonneg (fun step ↦ by omega) hstep
      obtain ⟨entry, hentry, -, hindex⟩ := htable.entry hpower
      rw [hentry, ExactFloat.fin_min_fin] at hlimited
      refine ⟨min budget entry, (Except.ok.inj hlimited).symm, hcovered.min ?_⟩
      exact coveredFrom_entry htable.decreasing hindex (by omega)
  · exact ⟨budget, (Except.ok.inj hlimited).symm, hcovered⟩

/-- The throttling limit releases a device to its ceiling at most. -/
theorem limitThrottle_aboveBefore (htable : IsPowerTable cdevInfo table)
    (hlimited : limitThrottle cdevInfo binding currSeverity powerDataInvalid cdevPowerAdjustment
      currCdevVote (.fin budget) = .ok limited)
    (hnonneg : 0 ≤ binding.maxThrottleStep) (hk : k ≤ currCdevVote)
    (hceiling : binding.maxThrottleStep ≠ intMax →
      (powerDataInvalid = true ∨ cdevPowerAdjustment < 0) → k ≤ binding.cdevCeiling currSeverity)
    (habove : AboveBefore table k budget) :
    ∃ value, limited = .fin value ∧ AboveBefore table k value := by
  unfold limitThrottle at hlimited
  split at hlimited
  · rename_i hcounts
    obtain ⟨step, hstep, hlimited⟩ := bind_eq_ok.mp hlimited
    obtain ⟨power, hpower, hlimited⟩ := bind_eq_ok.mp hlimited
    have hstepNonneg := widenStep_nonneg htable hnonneg (fun step ↦ by omega) hstep
    have hinside := hceiling hcounts.1 hcounts.2
    obtain ⟨entry, hentry, -, hindex⟩ := htable.entry hpower
    rw [hentry, ExactFloat.fin_max_fin] at hlimited
    refine ⟨max budget entry, (Except.ok.inj hlimited).symm, habove.max ?_⟩
    exact aboveBefore_entry htable.decreasing hindex (by omega)
  · exact ⟨budget, (Except.ok.inj hlimited).symm, habove⟩

/-- A device is throttled by at most its step. -/
theorem limitThrottle_coveredFrom (htable : IsPowerTable cdevInfo table)
    (hlimited : limitThrottle cdevInfo binding currSeverity powerDataInvalid cdevPowerAdjustment
      currCdevVote (.fin budget) = .ok limited)
    (hlimits : binding.maxThrottleStep ≠ intMax)
    (hwidened : binding.maxThrottleStep = 0 →
      (powerDataInvalid = true ∨ cdevPowerAdjustment < 0) →
        binding.cdevCeiling currSeverity ≤ currCdevVote)
    (hunlimited : ¬ (powerDataInvalid = true ∨ cdevPowerAdjustment < 0) →
      CoveredFrom table (currCdevVote + binding.maxThrottleStep) budget) : ∃ value,
      limited = .fin value ∧ CoveredFrom table (currCdevVote + binding.maxThrottleStep) value := by
  unfold limitThrottle at hlimited
  by_cases hcounts : powerDataInvalid = true ∨ cdevPowerAdjustment < 0
  · rw [if_pos ⟨hlimits, hcounts⟩] at hlimited
    obtain ⟨step, hstep, hlimited⟩ := bind_eq_ok.mp hlimited
    obtain ⟨power, hpower, hlimited⟩ := bind_eq_ok.mp hlimited
    have hsame : step = binding.maxThrottleStep := by
      apply (widenStep_eq htable (fun step ↦ by omega) hstep).resolve_right
      rintro ⟨hzero, hinside, -⟩
      exact absurd (of_decide_eq_true hinside) (not_lt.mpr (hwidened hzero hcounts))
    obtain ⟨entry, hentry, htarget, hindex⟩ := htable.entry hpower
    rw [hentry, ExactFloat.fin_max_fin] at hlimited
    refine ⟨max budget entry, (Except.ok.inj hlimited).symm, ?_⟩
    have hcovered : CoveredFrom table (currCdevVote + binding.maxThrottleStep) entry :=
      coveredFrom_entry htable.decreasing hindex (by omega)
    exact hcovered.mono le_rfl (le_max_right _ _)
  · rw [if_neg fun happlies ↦ hcounts happlies.2] at hlimited
    exact ⟨budget, (Except.ok.inj hlimited).symm, hunlimited hcounts⟩

end Limits

/-! ## Adjusted budgets -/

/-- A budget that is stored: the largest `int`, or a whole number that is a `float`. -/
structure IsStoredBudget (budget : ℤ) : Prop where
  nonneg : 0 ≤ budget
  le : budget ≤ intMax
  float : budget = intMax ∨ binary32.round (ExactFloat.ofInt budget) = ExactFloat.ofInt budget

section Adjusted

variable {stored : ℤ} {current ratio : ℚ} {x power : ExactFloat}

theorem toInt_ofInt (hnonneg : 0 ≤ stored) (hle : stored ≤ intMax) :
    toInt (ExactFloat.ofInt stored) = stored := by
  have hfloor := @toInt_fin stored (by exact_mod_cast hnonneg) (by exact_mod_cast hle)
  rwa [Int.floor_intCast] at hfloor

/-- An `int` becomes a finite `float`. -/
theorem exists_round_ofInt {n : ℤ} (hlow : intMin ≤ n) (hhigh : n ≤ intMax) :
    ∃ value : ℚ, binary32.round (ExactFloat.ofInt n) = .fin value := by
  have hupTo : UpTo (2 ^ 20 * ((2 ^ 11 : ℕ) : ℚ)) (ExactFloat.ofInt n) := by
    refine ⟨n, rfl, ?_⟩
    have hlowQ : (intMin : ℚ) ≤ n := by exact_mod_cast hlow
    have hhighQ : (n : ℚ) ≤ intMax := by exact_mod_cast hhigh
    have hmin : (intMin : ℚ) = -2147483648 := by norm_num [intMin]
    have hmax : (intMax : ℚ) = 2147483647 := by norm_num [intMax]
    norm_num
    rw [abs_le]
    constructor <;> linarith
  apply Exists.elim (hupTo.round_binary32 (by norm_num))
  exact fun value hvalue ↦ ⟨value, hvalue.1⟩

/-- What is stored is found again. -/
theorem IsStoredBudget.toInt_round (h : IsStoredBudget stored) :
    toInt (binary32.round (ExactFloat.ofInt stored)) = stored := by
  apply h.float.elim
  · intro hlargest
    rw [hlargest, round_binary32_intMax]
    decide +kernel
  · intro hfloat
    rw [hfloat, toInt_ofInt h.nonneg h.le]

theorem IsStoredBudget.round_nonneg (h : IsStoredBudget stored)
    (hcurrent : binary32.round (ExactFloat.ofInt stored) = .fin current) : 0 ≤ current := by
  have hstored : (0 : ExactFloat) ≤ ExactFloat.ofInt stored :=
    ExactFloat.fin_le_fin.mpr (by exact_mod_cast h.nonneg)
  have hround := round_binary32_mono hstored
  rw [FloatFormat.round_zero, hcurrent] at hround
  exact ExactFloat.fin_le_fin.mp hround

/-- A budget below a power is a part of it. -/
theorem current_ratio (hnonneg : 0 ≤ current) (hbelow : ExactFloat.fin current < power) :
    ∃ ratio : ℚ, 0 ≤ ratio ∧ binary32.round (.fin current / power) = .fin ratio := by
  have hpart : ∃ part : ℚ, 0 ≤ part ∧ part ≤ 1 ∧ ExactFloat.fin current / power = .fin part := by
    cases power with
    | nan => exact absurd hbelow (ExactFloat.not_lt_nan _)
    | negInf => cases hbelow
    | posInf => exact ⟨0, le_rfl, zero_le_one, rfl⟩
    | fin power =>
      have hlt := ExactFloat.fin_lt_fin.mp hbelow
      have hpos : 0 < power := hnonneg.trans_lt hlt
      refine ⟨current / power, div_nonneg hnonneg hpos.le, (div_le_one hpos).mpr hlt.le, ?_⟩
      rw [ExactFloat.div_def, ExactFloat.div, if_neg hpos.ne']
  obtain ⟨part, hpartNonneg, hpartLe, hvalue⟩ := hpart
  have hupTo : UpTo 1 (.fin part) := ⟨part, rfl, by rwa [abs_of_nonneg hpartNonneg]⟩
  obtain ⟨ratio, hratio, -⟩ := hupTo.round_ratio
  refine ⟨ratio, ?_, hvalue ▸ hratio⟩
  have hzero : (0 : ExactFloat) ≤ .fin part := ExactFloat.fin_le_fin.mpr hpartNonneg
  have hround := round_binary32_mono hzero
  rw [FloatFormat.round_zero, hratio] at hround
  exact ExactFloat.fin_le_fin.mp hround

theorem mul_ratio_not_neg (hratio : 0 ≤ ratio) (hx : ¬ x < 0) : ¬ x * .fin ratio < 0 := by
  cases x with
  | nan => exact ExactFloat.not_nan_lt _
  | negInf => exact absurd rfl hx
  | posInf =>
    change ¬ ExactFloat.scaledInf ratio < 0
    unfold ExactFloat.scaledInf
    split
    · exact ExactFloat.not_nan_lt _
    · rename_i hne
      rw [if_pos (lt_of_le_of_ne hratio (Ne.symm hne))]
      exact Bool.false_ne_true
  | fin value =>
    rw [ExactFloat.zero_def, ExactFloat.fin_lt_fin, not_lt] at hx
    rw [ExactFloat.fin_mul_fin, ExactFloat.zero_def, ExactFloat.fin_lt_fin, not_lt]
    exact mul_nonneg hx hratio

theorem mul_ratio_not_pos (hratio : 0 ≤ ratio) (hx : ¬ 0 < x) : ¬ 0 < x * .fin ratio := by
  cases x with
  | nan => exact ExactFloat.not_lt_nan _
  | posInf => exact absurd rfl hx
  | negInf =>
    change ¬ 0 < ExactFloat.scaledInf (-ratio)
    unfold ExactFloat.scaledInf
    split
    · exact ExactFloat.not_lt_nan _
    · rw [if_neg (not_lt.mpr (neg_nonpos.mpr hratio))]
      exact Bool.false_ne_true
  | fin value =>
    rw [ExactFloat.zero_def, ExactFloat.fin_lt_fin, not_lt] at hx
    rw [ExactFloat.fin_mul_fin, ExactFloat.zero_def, ExactFloat.fin_lt_fin, not_lt]
    exact mul_nonpos_of_nonpos_of_nonneg hx hratio

/-- A sum that is not lowered is rounded to at least the old budget. -/
theorem le_round_add (hfloat : binary32.round (.fin current) = .fin current)
    (hnonneg : 0 ≤ current) (hx : ¬ x < 0)
    (hnumber : (binary32.round (.fin current + x)).isNaN = false) :
    ExactFloat.fin current ≤ binary32.round (.fin current + x) := by
  rw [FloatFormat.isNaN_round, ExactFloat.isNaN_finite_add rfl] at hnumber
  have hadded := ExactFloat.le_add_right (ExactFloat.fin_le_fin.mpr hnonneg)
    (ExactFloat.le_of_not_lt rfl hnumber hx)
  have hround := round_binary32_mono hadded
  rwa [hfloat] at hround

/-- One that is not raised is rounded to at most the old budget. -/
theorem round_add_le (hfloat : binary32.round (.fin current) = .fin current) (hx : ¬ 0 < x)
    (hnumber : (binary32.round (.fin current + x)).isNaN = false) :
    binary32.round (.fin current + x) ≤ ExactFloat.fin current := by
  rw [FloatFormat.isNaN_round, ExactFloat.isNaN_finite_add rfl] at hnumber
  have hadded : ExactFloat.fin current + x ≤ .fin current := by
    cases x with
    | nan => cases hnumber
    | negInf => exact Or.inl rfl
    | posInf => exact absurd rfl hx
    | fin value =>
      rw [ExactFloat.zero_def, ExactFloat.fin_lt_fin, not_lt] at hx
      exact ExactFloat.fin_le_fin.mpr (add_le_of_nonpos_right hx)
  have hround := round_binary32_mono hadded
  rwa [hfloat] at hround

/-- The adjusted budget in terms of the `float` that is adjusted: a sum with an adjustment of the same
sign. -/
theorem adjustedBudget_eq (x power : ExactFloat)
    (hcurrent : binary32.round (ExactFloat.ofInt stored) = .fin current)
    (hnonneg : 0 ≤ current) : ∃ y, adjustedBudget binary32.round stored x power =
      binary32.round (.fin current + y) ∧ (¬ x < 0 → ¬ y < 0) ∧ (¬ 0 < x → ¬ 0 < y) := by
  unfold adjustedBudget
  dsimp only
  rw [hcurrent]
  by_cases hbelow : ExactFloat.fin current < power
  · rw [if_pos hbelow]
    obtain ⟨ratio, hratio, hvalue⟩ := current_ratio hnonneg hbelow
    rw [hvalue]
    exact ⟨_, rfl, fun hx ↦ FloatFormat.round_not_neg (by decide) (mul_ratio_not_neg hratio hx),
      fun hx ↦ FloatFormat.round_not_pos (by decide) (mul_ratio_not_pos hratio hx)⟩
  · rw [if_neg hbelow]
    exact ⟨x, rfl, id, id⟩

/-- A budget that is not lowered is stored as at least the old one. -/
theorem le_toInt_adjusted (hstored : IsStoredBudget stored) (hx : ¬ x < 0)
    (hnumber : (adjustedBudget binary32.round stored x power).isNaN = false) :
    stored ≤ toInt (adjustedBudget binary32.round stored x power) := by
  obtain ⟨current, hcurrent⟩ := exists_round_ofInt (le_trans (by decide) hstored.nonneg) hstored.le
  have hnonneg := hstored.round_nonneg hcurrent
  have hfloat : binary32.round (.fin current) = .fin current :=
    hcurrent ▸ round_binary32_round _
  obtain ⟨y, hsum, hsign, -⟩ := adjustedBudget_eq x power hcurrent hnonneg
  rw [hsum] at hnumber ⊢
  calc stored = toInt (.fin current) := by rw [← hcurrent, hstored.toInt_round]
    _ ≤ toInt (binary32.round (.fin current + y)) :=
      toInt_mono (le_round_add hfloat hnonneg (hsign hx) hnumber)

/-- One that is not raised is stored as at most the old one. -/
theorem toInt_adjusted_le (hstored : IsStoredBudget stored) (hx : ¬ 0 < x)
    (hnumber : (adjustedBudget binary32.round stored x power).isNaN = false) :
    toInt (adjustedBudget binary32.round stored x power) ≤ stored := by
  obtain ⟨current, hcurrent⟩ := exists_round_ofInt (le_trans (by decide) hstored.nonneg) hstored.le
  have hnonneg := hstored.round_nonneg hcurrent
  have hfloat : binary32.round (.fin current) = .fin current :=
    hcurrent ▸ round_binary32_round _
  obtain ⟨y, hsum, -, hsign⟩ := adjustedBudget_eq x power hcurrent hnonneg
  rw [hsum] at hnumber ⊢
  calc toInt (binary32.round (.fin current + y)) ≤ toInt (.fin current) :=
      toInt_mono (round_add_le hfloat (hsign hx) hnumber)
    _ = stored := by rw [← hcurrent, hstored.toInt_round]

end Adjusted

/-- A number is bounded by zero and by the power of state 0. -/
theorem boundBudget_fin {cdevInfo : CdevInfo} {table : List ℚ} {x : ℚ} {bounded : ExactFloat}
    (htable : IsPowerTable cdevInfo table)
    (hbounded : boundBudget cdevInfo (.fin x) = .ok bounded) : ∃ first, table[0]? = some first ∧
      bounded = .fin (max 0 (min x first)) := by
  unfold boundBudget at hbounded
  obtain ⟨power, hpower, hbounded⟩ := bind_eq_ok.mp hbounded
  obtain ⟨first, hfirst, -, hindex⟩ := htable.entry hpower
  have hnonneg := htable.nonneg first (List.mem_of_getElem? hindex)
  refine ⟨first, hindex, ?_⟩
  rw [hfirst, ExactFloat.isNaN_fin, Bool.not_false, Bool.true_and] at hbounded
  by_cases habove : first < x
  · rw [if_pos (decide_eq_true (ExactFloat.fin_lt_fin.mpr habove))] at hbounded
    rw [min_eq_right habove.le, max_eq_right hnonneg]
    exact (Except.ok.inj hbounded).symm
  · have hle := not_lt.mp habove
    rw [if_neg fun hlt ↦ habove (ExactFloat.fin_lt_fin.mp (of_decide_eq_true hlt))] at hbounded
    rw [ExactFloat.zero_def] at hbounded
    rw [min_eq_left hle]
    by_cases hnegative : x < 0
    · rw [if_pos (ExactFloat.fin_lt_fin.mpr hnegative)] at hbounded
      rw [max_eq_left hnegative.le]
      exact (Except.ok.inj hbounded).symm
    · rw [if_neg fun hlt ↦ hnegative (ExactFloat.fin_lt_fin.mp hlt)] at hbounded
      rw [max_eq_right (not_lt.mp hnegative)]
      exact (Except.ok.inj hbounded).symm

/-! ## Requests over a run -/

/-- The request for a device is the state of its stored budget. -/
def BudgetRequested (cdev : String) (table : List ℚ) (status : ThermalThrottlingStatus) : Prop :=
  ∀ budget, status.pidPowerBudgetMap.lookup cdev = some budget → IsStoredBudget budget ∧
    ∃ request, status.pidCdevRequestMap.lookup cdev = some request ∧
      IsFirstCovered table budget request

section Requests

theorem intMin_le_toInt (x : ExactFloat) : intMin ≤ toInt x := by
  cases x with
  | nan => exact (by decide : intMin ≤ 0)
  | negInf => exact le_rfl
  | posInf => exact (by decide : intMin ≤ intMax)
  | fin value => exact le_max_left _ _

theorem toInt_le (x : ExactFloat) : toInt x ≤ intMax := by
  cases x with
  | nan => exact (by decide : (0 : ℤ) ≤ intMax)
  | negInf => exact (by decide : intMin ≤ intMax)
  | posInf => exact le_rfl
  | fin value => exact max_le (by decide) (min_le_left _ _)

/-- A stored budget covers the same entries when it is a `float`. -/
theorem IsIntegerTable.firstCovered_round {cdevInfo : CdevInfo} {table : List ℚ} {stored state : ℤ}
    {current : ℚ} (h : IsIntegerTable cdevInfo table) (hstored : IsStoredBudget stored)
    (hcurrent : binary32.round (ExactFloat.ofInt stored) = .fin current)
    (hfound : IsFirstCovered table stored state) : IsFirstCovered table current state := by
  refine ⟨hfound.nonneg, hfound.lt_length, fun i entry hentry ↦ ?_⟩
  rw [hfound.le_iff i entry hentry]
  apply or_congr_right
  apply hstored.float.elim
  · intro hlargest
    have hle : entry ≤ intMax := by
      obtain ⟨value, hvalue, hle⟩ := h.integral entry (List.mem_of_getElem? hentry)
      rw [hvalue]
      exact_mod_cast hle
    rw [hlargest, round_binary32_intMax] at hcurrent
    rw [hlargest, ← ExactFloat.fin.inj hcurrent]
    exact iff_of_true hle (hle.trans (by norm_num [intMax]))
  · intro hfloat
    rw [hfloat] at hcurrent
    rw [← ExactFloat.fin.inj hcurrent]

theorem updateProfile_requests {input : UpdateInput} {info : ThrottlingInfo}
    {status : ThermalThrottlingStatus} :
    (updateProfile input info status).pidCdevRequestMap = status.pidCdevRequestMap := by
  unfold updateProfile parseProfileProperty
  split
  · split <;> rfl
  · rfl

variable {input : UpdateInput} {info : ThrottlingInfo} {votes : CdevAllRequestMap}
  {status after : ThermalThrottlingStatus} {cdev : String} {cdevInfo : CdevInfo} {table : List ℚ}

/-- After an update every request is the state of the stored budget. -/
theorem updateStatus_requests (hupdate : updateStatus input info votes status = .ok after)
    {budget : ℤ} (hbudget : after.pidPowerBudgetMap.lookup cdev = some budget) : ∃ cdevInfo state,
      input.coolingDeviceInfoMap.lookup cdev = some cdevInfo ∧
        powerToState (ExactFloat.ofInt budget) cdevInfo.state2power = .ok state ∧
        after.pidCdevRequestMap.lookup cdev = some state := by
  unfold updateStatus at hupdate
  obtain ⟨status₁, hpid, hrelease⟩ := bind_eq_ok.mp hupdate
  have hbudgets : after.pidPowerBudgetMap = status₁.pidPowerBudgetMap :=
    (updateRelease_budgets.of_ok hrelease).trans updateHardlimit_budgets
  have hrequests : after.pidCdevRequestMap = status₁.pidCdevRequestMap :=
    (updateRelease_requests.of_ok hrelease).trans updateHardlimit_requests
  rw [hbudgets] at hbudget
  rw [hrequests]
  unfold updatePid at hpid
  by_cases hentries : (updateProfile input info status).pidPowerBudgetMap.entries = []
  · rw [if_neg (not_not.mpr hentries)] at hpid
    rw [← Except.ok.inj hpid] at hbudget
    have hmem := UnorderedMap.mem_entries_iff.mpr hbudget
    rw [hentries] at hmem
    exact absurd hmem List.not_mem_nil
  · rw [if_pos hentries] at hpid
    obtain ⟨result, -, hpower⟩ := bind_eq_ok.mp hpid
    have hsame := (updateCdevRequestByPower_budgets _).of_ok hpower
    rw [hsame] at hbudget
    exact ((updateCdevRequestByPower_requests _ _).of_ok hpower).done cdev budget hbudget
      List.not_mem_nil

theorem boundBudget_nan {bounded : ExactFloat}
    (hbounded : boundBudget cdevInfo .nan = .ok bounded) : bounded = .nan := by
  unfold boundBudget at hbounded
  obtain ⟨power, -, hbounded⟩ := bind_eq_ok.mp hbounded
  have hnotAbove : ¬ (!power.isNaN && decide (power < ExactFloat.nan)) = true := by
    rw [decide_eq_false (ExactFloat.not_lt_nan power), Bool.and_false]
    exact Bool.false_ne_true
  rw [if_neg hnotAbove, if_neg (ExactFloat.not_nan_lt 0)] at hbounded
  exact (Except.ok.inj hbounded).symm

/-- What a device is granted before any limit is a `float`. -/
theorem distributedBudget_float {cdevName : String} {binding : BindedCdevInfo} {s : AllocationState}
    {cdevWeight cdevPowerAdjustment distributed : ExactFloat}
    (htable : ∀ power ∈ cdevInfo.state2power, binary32.round power = power)
    (hdistributed : distributedBudget binary32.round cdevName cdevInfo binding s cdevWeight
      cdevPowerAdjustment = .ok distributed) : binary32.round distributed = distributed := by
  unfold distributedBudget at hdistributed
  split at hdistributed
  · exact htable _ (List.mem_of_getElem? (atIndex_eq_ok.mp hdistributed).2)
  · split at hdistributed
    · obtain ⟨budget, -, hdistributed⟩ := bind_eq_ok.mp hdistributed
      rw [← Except.ok.inj hdistributed]
      exact round_binary32_round _
    · rw [← Except.ok.inj hdistributed]
      exact round_binary32_round _

/-- A power that is a `float` is stored as one. -/
theorem isStoredBudget_toInt {x : ExactFloat} (hwithin : Within intMax x)
    (hfloat : binary32.round x = x) : IsStoredBudget (toInt x) := by
  have hrange := hwithin.toInt le_rfl
  refine ⟨hrange.1, by exact_mod_cast hrange.2, Or.inr ?_⟩
  obtain ⟨value, hx, hnonneg, hle⟩ := hwithin
  rw [hx] at hfloat ⊢
  rw [toInt_fin hnonneg hle]
  have hmax : |value| < 2 ^ binary32.maxExponent := by
    rw [abs_of_nonneg hnonneg]
    exact lt_of_le_of_lt hle (by norm_num [intMax, binary32])
  have hsame : binary32.roundRat value = value := by
    have habs : |binary32.roundRat value| < 2 ^ binary32.maxExponent := by
      have hupTo : |value| ≤ 2 ^ 20 * ((2 ^ 11 : ℕ) : ℚ) := by
        rw [abs_of_nonneg hnonneg]
        exact hle.trans (by norm_num [intMax])
      exact (FloatFormat.abs_roundRat_le (by decide) (holds_binary32_shift (by norm_num))
        hupTo).trans_lt (shift_lt_binary32 (by norm_num))
    exact ExactFloat.fin.inj ((FloatFormat.overflow_of_lt habs).symm.trans hfloat)
  have hholds : binary32.Holds value := hsame ▸ FloatFormat.holds_roundRat (by decide) value
  apply FloatFormat.round_fin_of_holds (hholds.floor (by decide) hnonneg)
  have hfloor : (0 : ℚ) ≤ (⌊value⌋ : ℤ) := by exact_mod_cast Int.floor_nonneg.mpr hnonneg
  rw [abs_of_nonneg hfloor]
  rw [abs_of_nonneg hnonneg] at hmax
  exact (Int.floor_le value).trans_lt hmax

/-- Whatever a device is granted is stored as a number that is a `float`. -/
theorem GrantRound.isStoredBudget {bindings : BindedCdevInfoMap} {total : ExactFloat}
    {pair : BindedCdevEntry} {s : AllocationState} {granted : ExactFloat}
    (h : GrantRound input votes status bindings total pair cdevInfo s granted)
    (hfloat : input.round = binary32.round) (htable : IsIntegerTable cdevInfo table) :
    IsStoredBudget (toInt granted) := by
  have hentries : ∀ power ∈ cdevInfo.state2power, binary32.round power = power := by
    intro power hpower
    rw [htable.entries] at hpower
    obtain ⟨entry, hentry, hvalue⟩ := List.mem_map.mp hpower
    rw [← hvalue]
    exact htable.float entry hentry
  have hkeeps := @grantedPower_keeps (fun x ↦ IsStoredBudget (toInt x)) cdevInfo
    (powerAdjustment input pair s) input votes status pair granted s
    (fun power hpower ↦ isStoredBudget_toInt (htable.within power hpower) (hentries power hpower))
  apply hkeeps _ h.grants
  intro distributed bounded hdistributed hbounded
  rw [hfloat] at hdistributed
  by_cases hnumber : distributed.isNaN = false
  · apply isStoredBudget_toInt (boundBudget_within htable.within hnumber hbounded)
    exact @boundBudget_keeps (fun x ↦ binary32.round x = x) _ _ _ hentries FloatFormat.round_zero
      (distributedBudget_float hentries hdistributed) hbounded
  · rw [ExactFloat.eq_nan_iff.mp (Bool.eq_true_of_not_eq_false hnumber)] at hbounded
    rw [boundBudget_nan hbounded]
    exact ⟨le_rfl, by decide, Or.inr (round_binary32_ofInt (by decide))⟩

/-- There are no more indices than numbers from zero to the largest `int`. -/
theorem IsIntegerTable.index_le (h : IsIntegerTable cdevInfo table) {i : ℕ} {entry : ℚ}
    (hentry : table[i]? = some entry) : (i : ℤ) ≤ intMax := by
  have hbound : ∀ (i : ℕ) (value : ℤ), table[i]? = some (value : ℚ) → value + i ≤ intMax := by
    intro i
    induction i with
    | zero =>
      intro value hvalue
      obtain ⟨value', hsame, hle⟩ := h.integral _ (List.mem_of_getElem? hvalue)
      rw [Int.cast_inj.mp hsame]
      simpa using hle
    | succ i ih =>
      intro value hvalue
      have hi : i < table.length := by
        have hlt := (List.getElem?_eq_some_iff.mp hvalue).1
        omega
      have hbefore := List.getElem?_eq_getElem hi
      obtain ⟨value', hvalue', -⟩ := h.integral _ (List.mem_of_getElem? hbefore)
      rw [hvalue'] at hbefore
      have hlt : value < value' := by
        exact_mod_cast entry_lt_entry h.decreasing hbefore hvalue (Nat.lt_succ_self i)
      have hle := ih value' hbefore
      push_cast
      omega
  obtain ⟨value, hvalue, -⟩ := h.integral entry (List.mem_of_getElem? hentry)
  have hnonneg : 0 ≤ value := by
    have hentryNonneg := h.nonneg entry (List.mem_of_getElem? hentry)
    rw [hvalue] at hentryNonneg
    exact_mod_cast hentryNonneg
  have hle := hbound i value (hvalue ▸ hentry)
  omega

theorem IsIntegerTable.state_le (h : IsIntegerTable cdevInfo table) {x : ℚ} {state : ℤ}
    (hfound : IsFirstCovered table x state) : state ≤ intMax := by
  have hnonneg := hfound.nonneg
  have hlt := hfound.lt_length
  have hindex : state.toNat < table.length := by omega
  have hle := h.index_le (List.getElem?_eq_getElem hindex)
  omega

/-- An update keeps the relation between budgets and requests. -/
theorem updateStatus_budgetRequested (hfloat : input.round = binary32.round)
    (htable : IsIntegerTable cdevInfo table)
    (hdevice : input.coolingDeviceInfoMap.lookup cdev = some cdevInfo)
    (h : BudgetRequested cdev table status)
    (hupdate : updateStatus input info votes status = .ok after) :
    BudgetRequested cdev table after := by
  intro budget hbudget
  have hstored : IsStoredBudget budget := by
    apply (updateStatus_budgets hupdate).elim
    · intro hsame
      rw [hsame] at hbudget
      exact (h budget hbudget).1
    · rintro ⟨-, computed, pid, allocated, -, hpasses⟩
      apply (allocatePasses_stored hpasses cdev budget hbudget).elim
      · intro hold
        rw [updateProfile_budgets] at hold
        exact (h budget hold).1
      · rintro ⟨pair, cdevInfo', s, granted, hpair, hgrant, hvalue⟩
        have hsame : cdevInfo' = cdevInfo :=
          Option.some.inj ((hpair ▸ hgrant.device).symm.trans hdevice)
        rw [hsame] at hgrant
        rw [hvalue]
        exact hgrant.isStoredBudget hfloat htable
  obtain ⟨cdevInfo', state, hdevice', hstate, hrequest⟩ := updateStatus_requests hupdate hbudget
  rw [Option.some.inj (hdevice'.symm.trans hdevice)] at hstate
  exact ⟨hstored, state, hrequest, htable.firstCovered hstate⟩

/-- With the largest `int` as the budget, the request is 0. -/
theorem budgetRequested_of_unused (htable : IsIntegerTable cdevInfo table) (hnonempty : table ≠ [])
    (hbudgets : AllValues intMax status.pidPowerBudgetMap)
    (hrequests : AllValues 0 status.pidCdevRequestMap)
    (hkey : cdev ∈ status.pidPowerBudgetMap → cdev ∈ status.pidCdevRequestMap) :
    BudgetRequested cdev table status := by
  intro budget hbudget
  rw [hbudgets cdev budget hbudget]
  refine ⟨⟨by decide, le_rfl, Or.inl rfl⟩, 0, ?_, le_rfl, ?_, ?_⟩
  · obtain ⟨request, hrequest⟩ :=
      UnorderedMap.mem_iff_lookup.mp (hkey (UnorderedMap.mem_of_lookup hbudget))
    rw [hrequest, hrequests cdev request hrequest]
  · exact_mod_cast List.length_pos_iff.mpr hnonempty
  · intro i entry hentry
    apply iff_of_true (Int.natCast_nonneg i)
    apply Or.inr
    obtain ⟨value, hvalue, hle⟩ := htable.integral entry (List.mem_of_getElem? hentry)
    rw [hvalue]
    exact_mod_cast hle

end Requests

section Run

variable {setup : ThrottlingSetup} {start tt : ThermalThrottling} {reported : List String}
  {cdev : String} {cdevInfo : CdevInfo} {table : List ℚ}

theorem registered_budgetRequested (htable : IsIntegerTable cdevInfo table) (hnonempty : table ≠ [])
    (hregistered : setup.registered = some start) :
    EveryStatus (fun _ ↦ BudgetRequested cdev table) start := by
  intro sensor status hstatus
  have hunused := registered_unused hregistered sensor status hstatus
  apply budgetRequested_of_unused htable hnonempty hunused.budgets hunused.requests
  apply (registerSensors_statuses hregistered hstatus).elim
  · intro hbefore
    rw [ThermalThrottling.empty, AList.lookup_empty] at hbefore
    cases hbefore
  · rintro ⟨entry, -, -, info, -, hkeys⟩ hmem
    exact (hkeys.requests cdev).mpr ((hkeys.budgets cdev).mp hmem)

/-- A clearing keeps the relation. -/
theorem clearStatus_budgetRequested {status : ThermalThrottlingStatus}
    (htable : IsIntegerTable cdevInfo table) (hnonempty : table ≠ [])
    (h : BudgetRequested cdev table status) : BudgetRequested cdev table (clearStatus status) := by
  apply budgetRequested_of_unused htable hnonempty
  · exact allValues_mapValues intMax status.pidPowerBudgetMap
  · exact allValues_mapValues 0 status.pidCdevRequestMap
  · intro hmem
    have hframe : SameShape status (clearStatus status) := clearStatus_frame.shape
    rw [UnorderedMap.mem_iff_of_keys_eq hframe.budgets] at hmem
    rw [UnorderedMap.mem_iff_of_keys_eq hframe.requests]
    obtain ⟨budget, hbudget⟩ := UnorderedMap.mem_iff_lookup.mp hmem
    apply Exists.elim (h budget hbudget).2
    exact fun request hrequest ↦ UnorderedMap.mem_of_lookup hrequest.1

/-- In every state of a run the request for a device is the state of its stored budget. -/
theorem throttlingRun_budgetRequested (htable : IsIntegerTable cdevInfo table)
    (hnonempty : table ≠ []) (hdevice : setup.coolingDeviceInfoMap.lookup cdev = some cdevInfo)
    (hregistered : setup.registered = some start) (hrun : ThrottlingRun setup start tt reported) :
    EveryStatus (fun _ ↦ BudgetRequested cdev table) tt := by
  have hstep : ∀ tt out tt', EveryStatus (fun _ ↦ BudgetRequested cdev table) tt →
      ThrottlingStep setup tt out tt' → EveryStatus (fun _ ↦ BudgetRequested cdev table) tt' := by
    intro tt out tt' h step
    cases step with
    | clear sensorName =>
      exact clearThrottlingData_statuses h
        (fun _ _ hstatus ↦ clearStatus_budgetRequested htable hnonempty hstatus) sensorName
    | update input hcalls hreturns =>
      apply thermalThrottlingUpdate_statuses h _ hreturns
      intro info status after hstatus _ hupdate
      exact updateStatus_budgetRequested hcalls.float htable (hcalls.devices.symm ▸ hdevice)
        (h _ status hstatus) hupdate
    | compute sensorName sensorInfo currSeverity hsensor hreturns =>
      exact computeCoolingDevicesRequest_statuses h (fun _ _ _ hstatus ↦ hstatus) hreturns
  exact hrun.invariant hstep (registered_budgetRequested htable hnonempty hregistered)

end Run

/-! ## The steps of an update -/

/-- The release step of a device counts in an update. -/
def ReleaseCounts (input : UpdateInput) (status : ThermalThrottlingStatus)
    (bindings : BindedCdevInfoMap) (total : ExactFloat) (pair : BindedCdevEntry) : Prop :=
  ¬ AllPowered input bindings ∨ 0 < leftAdjustment input status bindings total pair

/-- So does its throttling step. -/
def ThrottleCounts (input : UpdateInput) (status : ThermalThrottlingStatus)
    (bindings : BindedCdevInfoMap) (total : ExactFloat) (pair : BindedCdevEntry) : Prop :=
  ¬ AllPowered input bindings ∨ leftAdjustment input status bindings total pair < 0

/-- What the steps of a device rely on. -/
structure RegularSteps (input : UpdateInput) (votes : CdevAllRequestMap)
    (status : ThermalThrottlingStatus) (bindings : BindedCdevInfoMap) (total : ExactFloat)
    (pair : BindedCdevEntry) (current : ℤ) : Prop where
  /-- A release step of zero is not widened. -/
  release : pair.2.maxReleaseStep = 0 → ReleaseCounts input status bindings total pair →
    current ≤ pair.2.limitInfo input.currSeverity ∨
      AllPowered input bindings ∧ ∃ maxVote, getCdevMaxRequest votes pair.1 = .ok (some maxVote) ∧
        current < maxVote
  /-- Nor is a throttling step of zero. -/
  throttle : pair.2.maxThrottleStep = 0 → ThrottleCounts input status bindings total pair →
    pair.2.cdevCeiling input.currSeverity ≤ current
  /-- The ceiling is within the release step. -/
  ceiling : pair.2.maxThrottleStep ≠ intMax → ThrottleCounts input status bindings total pair →
    current - pair.2.maxReleaseStep ≤ pair.2.cdevCeiling input.currSeverity
  /-- A device that is switched off has its release step, or none is needed. -/
  disabled : pair.2.enabled = false → ReleaseCounts input status bindings total pair ∨
    current ≤ pair.2.maxReleaseStep
  /-- The adjusted budget is a number. -/
  adjusted : pair.2.enabled = true → AllPowered input bindings → ∀ stored,
    status.pidPowerBudgetMap.lookup pair.1 = some stored →
      (adjustedBudget input.round stored (leftAdjustment input status bindings total pair)
        (railPower input.powerStatusMap pair.2)).isNaN = false
  /-- The share in the budget is a number. -/
  shared : pair.2.enabled = true → ¬ AllPowered input bindings →
    (input.round (total * input.round (weightAt input.currSeverity pair /
      enabledWeight input.round input.currSeverity bindings.entries))).isNaN = false

section Steps

variable {input : UpdateInput} {votes : CdevAllRequestMap} {status : ThermalThrottlingStatus}
  {bindings : BindedCdevInfoMap} {total : ExactFloat}
  {pair : BindedCdevEntry} {cdevInfo : CdevInfo} {s : AllocationState}
  {granted : ExactFloat} {table : List ℚ} {current stored : ℤ}

/-- The power data are valid in a round if and only if the power of every device is known. -/
theorem SecondRound.valid_iff (h : SecondRound input votes status bindings total pair s) :
    s.powerDataInvalid = false ↔ AllPowered input bindings := by
  apply Iff.intro
  · exact fun hvalid ↦ (h.known hvalid).1.powered
  · intro hpowered
    apply Bool.eq_false_of_not_eq_true
    exact fun hinvalid ↦ (h.unknown hinvalid).1.unpowered hpowered

theorem SecondRound.releaseCounts_iff (h : SecondRound input votes status bindings total pair s) :
    (s.powerDataInvalid = true ∨ 0 < powerAdjustment input pair s) ↔
      ReleaseCounts input status bindings total pair := by
  unfold ReleaseCounts
  rw [← h.valid_iff, Bool.not_eq_false]
  by_cases hvalid : s.powerDataInvalid = false
  · rw [h.adjustment hvalid]
  · have hinvalid := Bool.eq_true_of_not_eq_false hvalid
    exact iff_of_true (Or.inl hinvalid) (Or.inl hinvalid)

theorem SecondRound.throttleCounts_iff (h : SecondRound input votes status bindings total pair s) :
    (s.powerDataInvalid = true ∨ powerAdjustment input pair s < 0) ↔
      ThrottleCounts input status bindings total pair := by
  unfold ThrottleCounts
  rw [← h.valid_iff, Bool.not_eq_false]
  by_cases hvalid : s.powerDataInvalid = false
  · rw [h.adjustment hvalid]
  · have hinvalid := Bool.eq_true_of_not_eq_false hvalid
    exact iff_of_true (Or.inl hinvalid) (Or.inl hinvalid)

/-- How the granted power came about. -/
structure LimitedGrant (input : UpdateInput) (votes : CdevAllRequestMap)
    (pair : BindedCdevEntry) (cdevInfo : CdevInfo) (s : AllocationState)
    (current maxVote : ℤ) (distributed bounded released granted : ExactFloat) : Prop where
  distributes : distributedBudget input.round pair.1 cdevInfo pair.2 s
    (pair.2.cdevWeightForPid input.currSeverity) (powerAdjustment input pair s) = .ok distributed
  bounds : boundBudget cdevInfo distributed = .ok bounded
  voted : getCdevMaxRequest votes pair.1 = .ok (some maxVote)
  releases : limitRelease cdevInfo pair.2 input.currSeverity s.powerDataInvalid
    (powerAdjustment input pair s) current maxVote bounded = .ok released
  throttles : limitThrottle cdevInfo pair.2 input.currSeverity s.powerDataInvalid
    (powerAdjustment input pair s) current released = .ok granted

theorem GrantRound.limited
    (h : GrantRound input votes status bindings total pair cdevInfo s granted)
    (hforced : input.maxThrottling = false)
    (hcurrent : status.pidCdevRequestMap.lookup pair.1 = some current) :
    ∃ maxVote distributed bounded released,
      LimitedGrant input votes pair cdevInfo s current maxVote distributed bounded released
        granted := by
  have hgrants := h.grants
  unfold grantedPower at hgrants
  obtain ⟨distributed, hdistributed, hgrants⟩ := bind_eq_ok.mp hgrants
  obtain ⟨bounded, hbounded, hgrants⟩ := bind_eq_ok.mp hgrants
  obtain ⟨found, hfound, hgrants⟩ := bind_eq_ok.mp hgrants
  cases found with
  | none => cases hgrants
  | some maxVote =>
    obtain ⟨currCdevVote, hvote, hgrants⟩ := bind_eq_ok.mp hgrants
    have hsame : currCdevVote = current :=
      Option.some.inj ((atKey_eq_ok.mp hvote).symm.trans hcurrent)
    obtain ⟨limited, hlimited, hgrants⟩ := bind_eq_ok.mp hgrants
    rw [hsame, limitSteps, hforced, if_neg Bool.false_ne_true] at hlimited
    obtain ⟨released, hreleased, hthrottled⟩ := bind_eq_ok.mp hlimited
    rw [Option.some.inj (Except.ok.inj hgrants)] at hthrottled
    exact ⟨maxVote, distributed, bounded, released, hdistributed, hbounded, hfound, hreleased,
      hthrottled⟩

theorem LimitedGrant.within {maxVote : ℤ} {distributed bounded released : ExactFloat} {budget : ℚ}
    (h : LimitedGrant input votes pair cdevInfo s current maxVote distributed bounded released
      granted)
    (htable : ∀ power ∈ cdevInfo.state2power, Within intMax power) (hbudget : bounded = .fin budget) :
    Within intMax granted := by
  have hbounded : Within intMax bounded := by
    apply boundBudget_within htable _ h.bounds
    apply Bool.eq_false_of_not_eq_true
    intro hnan
    have hbounds := h.bounds
    rw [ExactFloat.eq_nan_iff.mp hnan] at hbounds
    cases hbudget.symm.trans (boundBudget_nan hbounds)
  exact limitThrottle_keeps htable (limitRelease_keeps htable hbounded h.releases) h.throttles

/-- The budget before the limits: it releases the device where no release step counts by none, and
throttles it where no throttling step counts by none. -/
theorem LimitedGrant.budget {maxVote : ℤ} {distributed bounded released : ExactFloat}
    (h : LimitedGrant input votes pair cdevInfo s current maxVote distributed bounded released
      granted)
    (hfloat : input.round = binary32.round)
    (hround : SecondRound input votes status bindings total pair s)
    (htable : IsIntegerTable cdevInfo table)
    (hregular : RegularSteps input votes status bindings total pair current)
    (hreleaseStep : 0 ≤ pair.2.maxReleaseStep)
    (hstored : status.pidPowerBudgetMap.lookup pair.1 = some stored)
    (hbudget : IsStoredBudget stored) (hcurrent : IsFirstCovered table stored current) : ∃ budget : ℚ,
      bounded = .fin budget ∧
        (¬ ReleaseCounts input status bindings total pair →
          AboveBefore table (current - pair.2.maxReleaseStep) budget) ∧
        (¬ ThrottleCounts input status bindings total pair → ∀ k, current ≤ k →
          k + 1 < table.length → CoveredFrom table k budget) := by
  have hdistributes := h.distributes
  unfold distributedBudget at hdistributes
  by_cases henabled : pair.2.enabled = true
  · by_cases hpowered : AllPowered input bindings
    · have hvalid := hround.valid_iff.mpr hpowered
      have hknown := hround.known hvalid
      have hnumber := hregular.adjusted henabled hpowered stored hstored
      have hadjusts := @distributedBudget_adjusted input.round pair.1 cdevInfo pair.2 s stored
        (pair.2.cdevWeightForPid input.currSeverity) (powerAdjustment input pair s) henabled hvalid
        hknown.2.2.1.railed (hround.stored.trans hstored)
      have hbounds := h.bounds
      rw [← Except.ok.inj (hadjusts.symm.trans h.distributes), hround.adjustment hvalid,
        hknown.2.2.2] at hbounds
      rw [hfloat] at hbounds hnumber
      -- the stored budget and the adjusted one as `float`
      obtain ⟨before, hbefore⟩ :=
        exists_round_ofInt (le_trans (by decide) hbudget.nonneg) hbudget.le
      obtain ⟨after, hafter⟩ := exists_round_ofInt (intMin_le_toInt _) (toInt_le (adjustedBudget
          binary32.round stored (leftAdjustment input status bindings total pair)
          (railPower input.powerStatusMap pair.2)))
      have hcovered := htable.firstCovered_round hbudget hbefore hcurrent
      rw [hafter] at hbounds
      obtain ⟨first, hfirst, hbounded⟩ := boundBudget_fin htable.toIsPowerTable hbounds
      refine ⟨_, hbounded, ?_, ?_⟩
      · intro hnoRelease
        have hadjusted : ExactFloat.fin after ≤ .fin before := by
          rw [← hafter, ← hbefore]
          apply round_binary32_mono
          apply ExactFloat.fin_le_fin.mpr
          exact_mod_cast toInt_adjusted_le hbudget (fun hpos ↦ hnoRelease (Or.inr hpos)) hnumber
        apply hcovered.aboveBefore.mono (by omega)
        exact max_le (hbudget.round_nonneg hbefore)
          ((min_le_left _ _).trans (ExactFloat.fin_le_fin.mp hadjusted))
      · intro hnoThrottle k hk hlast
        have hadjusted : ExactFloat.fin before ≤ .fin after := by
          rw [← hafter, ← hbefore]
          apply round_binary32_mono
          apply ExactFloat.fin_le_fin.mpr
          exact_mod_cast le_toInt_adjusted hbudget (fun hneg ↦ hnoThrottle (Or.inr hneg)) hnumber
        have hfrom : CoveredFrom table k before :=
          (hcovered.coveredFrom htable.decreasing (by omega)).mono hk le_rfl
        have hcurrentNonneg := hcurrent.nonneg
        have hzero : CoveredFrom table k first :=
          coveredFrom_entry htable.decreasing hfirst (by push_cast; omega)
        apply (hfrom.min hzero).mono le_rfl
        exact le_max_of_le_right (min_le_min (ExactFloat.fin_le_fin.mp hadjusted) le_rfl)
    · have hinvalid : s.powerDataInvalid = true := by
        apply Bool.eq_true_of_not_eq_false
        exact fun hvalid ↦ hpowered (hround.valid_iff.mp hvalid)
      have hunknown := (hround.unknown hinvalid).1
      have hunused : ¬ (!s.powerDataInvalid && decide (pair.2.powerRail ≠ "")) = true := by
        rw [hinvalid]
        exact Bool.false_ne_true
      rw [henabled, Bool.not_true, if_neg Bool.false_ne_true, if_neg hunused,
        AllocationState.share, hunknown.budget, hunknown.weight] at hdistributes
      have hnumber := hregular.shared henabled hpowered
      have hsame : input.round (total * input.round (weightAt input.currSeverity pair /
          enabledWeight input.round input.currSeverity bindings.entries)) = distributed :=
        Except.ok.inj hdistributes
      rw [hsame] at hnumber
      obtain ⟨budget, hbudget, -⟩ := boundBudget_within htable.within hnumber h.bounds
      exact ⟨budget, hbudget, fun hno ↦ absurd (Or.inl hpowered) hno,
        fun hno ↦ absurd (Or.inl hpowered) hno⟩
  · have hdisabled := Bool.eq_false_of_not_eq_true henabled
    rw [hdisabled, Bool.not_false, if_pos rfl] at hdistributes
    obtain ⟨first, hfirst, -, hindex⟩ := htable.entry hdistributes
    have hbounds := h.bounds
    rw [hfirst] at hbounds
    obtain ⟨first', hfirst', hbudget⟩ := boundBudget_fin htable.toIsPowerTable hbounds
    have hsame : first' = first := Option.some.inj (hfirst'.symm.trans hindex)
    have hfirstNonneg := htable.nonneg first (List.mem_of_getElem? hindex)
    rw [hsame, min_self, max_eq_right hfirstNonneg] at hbudget
    refine ⟨first, hbudget, ?_, ?_⟩
    · intro hnoRelease i entry hi _
      have hstep := (hregular.disabled hdisabled).resolve_left hnoRelease
      omega
    · intro _ k hk _
      have hcurrentNonneg := hcurrent.nonneg
      exact coveredFrom_entry htable.decreasing hindex (by push_cast; omega)

section Limited

variable {maxVote : ℤ} {distributed bounded released : ExactFloat} {budget : ℚ}
  (h : LimitedGrant input votes pair cdevInfo s current maxVote distributed bounded released granted)
  (hround : SecondRound input votes status bindings total pair s)
  (htable : IsPowerTable cdevInfo table)
  (hregular : RegularSteps input votes status bindings total pair current)

include h hround htable hregular

/-- The granted power is below the powers of the states that are released further. -/
theorem LimitedGrant.aboveBefore
    (hlimits : pair.2.maxReleaseStep ≠ intMax) (hreleaseStep : 0 ≤ pair.2.maxReleaseStep)
    (hthrottleStep : 0 ≤ pair.2.maxThrottleStep) (hbudget : bounded = .fin budget)
    (hreleasable : ¬ ReleaseCounts input status bindings total pair →
      AboveBefore table (current - pair.2.maxReleaseStep) budget) : ∃ power : ℚ,
      granted = .fin power ∧ AboveBefore table (current - pair.2.maxReleaseStep) power := by
  have hreleases := h.releases
  rw [hbudget] at hreleases
  have hwidened : pair.2.maxReleaseStep = 0 →
      (s.powerDataInvalid = true ∨ 0 < powerAdjustment input pair s) →
        (s.powerDataInvalid = true ∨ maxVote ≤ current) →
          current ≤ pair.2.limitInfo input.currSeverity := by
    intro hzero hcounts hunvoted
    apply (hregular.release hzero (hround.releaseCounts_iff.mp hcounts)).resolve_right
    rintro ⟨hpowered, vote, hvote, hlt⟩
    have hsame : vote = maxVote := Option.some.inj (Except.ok.inj (hvote.symm.trans h.voted))
    apply hunvoted.elim
    · intro hinvalid
      rw [hround.valid_iff.mpr hpowered] at hinvalid
      cases hinvalid
    · omega
  obtain ⟨value, hvalue, habove⟩ := limitRelease_aboveBefore htable hreleases hlimits hreleaseStep
    hwidened fun hno ↦ hreleasable fun hcounts ↦ hno (hround.releaseCounts_iff.mpr hcounts)
  have hthrottles := h.throttles
  rw [hvalue] at hthrottles
  exact limitThrottle_aboveBefore htable hthrottles hthrottleStep (by omega)
    (fun hlimited hcounts ↦ hregular.ceiling hlimited (hround.throttleCounts_iff.mp hcounts)) habove

/-- The granted power covers the powers of the states from the end of the throttling step on. -/
theorem LimitedGrant.coveredFrom
    (hcurrent : 0 ≤ current) (hlimits : pair.2.maxThrottleStep ≠ intMax)
    (hreleaseStep : 0 ≤ pair.2.maxReleaseStep) (hthrottleStep : 0 ≤ pair.2.maxThrottleStep)
    (hbudget : bounded = .fin budget)
    (hthrottleable : ¬ ThrottleCounts input status bindings total pair →
      CoveredFrom table (current + pair.2.maxThrottleStep) budget) : ∃ power : ℚ,
      granted = .fin power ∧ CoveredFrom table (current + pair.2.maxThrottleStep) power := by
  have hreleases := h.releases
  have hthrottles := h.throttles
  rw [hbudget] at hreleases
  by_cases hcounts : ThrottleCounts input status bindings total pair
  · have hfinite : ∃ value : ℚ, released = .fin value := by
      apply @limitRelease_keeps (fun x ↦ ∃ value : ℚ, x = .fin value) _ _ _ _ _ _ _ _ _ _
        ⟨budget, rfl⟩ hreleases
      intro power hpower
      rw [htable.entries] at hpower
      obtain ⟨entry, -, hentry⟩ := List.mem_map.mp hpower
      exact ⟨entry, hentry.symm⟩
    obtain ⟨value, hvalue⟩ := hfinite
    rw [hvalue] at hthrottles
    exact limitThrottle_coveredFrom htable hthrottles hlimits
      (fun hzero _ ↦ hregular.throttle hzero hcounts)
      (fun hno ↦ absurd (hround.throttleCounts_iff.mpr hcounts) hno)
  · obtain ⟨value, hvalue, hcovered⟩ := limitRelease_coveredFrom htable hreleases hreleaseStep
      hcurrent (by omega : current ≤ current + pair.2.maxThrottleStep) (hthrottleable hcounts)
    rw [hvalue] at hthrottles
    exact limitThrottle_coveredFrom htable hthrottles hlimits
      (fun _ hcounts' ↦ absurd (hround.throttleCounts_iff.mp hcounts') hcounts) (fun _ ↦ hcovered)

end Limited

/-- The state of the stored power is within the steps. -/
theorem GrantRound.stateWithinSteps {state : ℤ}
    (h : GrantRound input votes status bindings total pair cdevInfo s granted)
    (hforced : input.maxThrottling = false) (hfloat : input.round = binary32.round)
    (htable : IsIntegerTable cdevInfo table)
    (hreleaseStep : 0 ≤ pair.2.maxReleaseStep) (hthrottleStep : 0 ≤ pair.2.maxThrottleStep)
    (hbefore : BudgetRequested pair.1 table status)
    (hrequest : status.pidCdevRequestMap.lookup pair.1 = some current)
    (hregular : RegularSteps input votes status bindings total pair current)
    (hstate : powerToState (ExactFloat.ofInt (toInt granted)) cdevInfo.state2power = .ok state) :
    current - pair.2.maxReleaseStep ≤ state ∧ state ≤ current + pair.2.maxThrottleStep := by
  have hround := h.second
  have hbudgeted := UnorderedMap.mem_iff_lookup.mp h.budgeted
  rw [hround.stored] at hbudgeted
  obtain ⟨stored, hstored⟩ := hbudgeted
  have hrange := hbefore stored hstored
  obtain ⟨request, hlookup, hcurrent⟩ := hrange.2
  rw [Option.some.inj (hlookup.symm.trans hrequest)] at hcurrent
  have hcurrentNonneg := hcurrent.nonneg
  have hcurrentLt := hcurrent.lt_length
  have hcurrentLe := htable.state_le hcurrent
  obtain ⟨maxVote, distributed, bounded, released, hlimited⟩ := h.limited hforced hrequest
  obtain ⟨budget, hbudget, hreleasable, hthrottleable⟩ :=
    hlimited.budget hfloat hround htable hregular hreleaseStep hstored hrange.1 hcurrent
  obtain ⟨power, hpower, hpowerNonneg, hpowerLe⟩ := hlimited.within htable.within hbudget
  rw [hpower, toInt_fin hpowerNonneg hpowerLe] at hstate
  have hfound : IsFirstCovered table (⌊power⌋ : ℤ) state := htable.firstCovered hstate
  have hfoundNonneg := hfound.nonneg
  have hfoundLt := hfound.lt_length
  have hfoundLe := htable.state_le hfound
  apply And.intro
  · by_cases hlimits : pair.2.maxReleaseStep = intMax
    · omega
    · obtain ⟨value, hvalue, habove⟩ := hlimited.aboveBefore hround htable.toIsPowerTable hregular
        hlimits hreleaseStep hthrottleStep hbudget hreleasable
      rw [ExactFloat.fin.inj (hvalue.symm.trans hpower)] at habove
      exact hfound.le_of_aboveBefore (aboveBefore_floor habove) (by omega)
  · by_cases hlimits : pair.2.maxThrottleStep = intMax
    · omega
    · by_cases hlast : current + pair.2.maxThrottleStep + 1 < table.length
      · obtain ⟨value, hvalue, hcovered⟩ := hlimited.coveredFrom hround htable.toIsPowerTable hregular
          hcurrentNonneg hlimits hreleaseStep hthrottleStep hbudget
          fun hno ↦ hthrottleable hno _ (by omega) hlast
        rw [ExactFloat.fin.inj (hvalue.symm.trans hpower)] at hcovered
        exact hfound.le_of_coveredFrom (by omega) (htable.coveredFrom_floor hcovered)
      · omega

end Steps

/-- An update that budgets a device, with its PID requests before and after. -/
structure DeviceUpdate (tt tt' : ThermalThrottling) (input : UpdateInput) (info : ThrottlingInfo)
    (status : ThermalThrottlingStatus) (total : ExactFloat)
    (pair : BindedCdevEntry) (cdevInfo : CdevInfo) (current request : ℤ) :
    Prop where
  allocates : AllocatesWith tt input info status total
  budgets : ∃ s granted, GrantRound input tt.cdevAllRequestMap status
    (selectBindings info status.profile) total pair cdevInfo s granted
  before : status.pidCdevRequestMap.lookup pair.1 = some current
  returns : thermalThrottlingUpdate tt input = .ok tt'
  after : ∃ status', tt'.thermalThrottlingStatusMap.lookup input.temp.name = some status' ∧
    status'.pidCdevRequestMap.lookup pair.1 = some request

section Update

variable {setup : ThrottlingSetup} {start tt tt' : ThermalThrottling} {reported : List String}
  {input : UpdateInput} {info : ThrottlingInfo} {status : ThermalThrottlingStatus}
  {total : ExactFloat} {pair : BindedCdevEntry} {cdevInfo : CdevInfo}
  {current request : ℤ} {table : List ℚ}

/-- The request after the update is the state of the power that the device is granted. -/
theorem DeviceUpdate.state
    (h : DeviceUpdate tt tt' input info status total pair cdevInfo current request) :
    ∃ s granted, GrantRound input tt.cdevAllRequestMap status (selectBindings info status.profile)
        total pair cdevInfo s granted ∧
      powerToState (ExactFloat.ofInt (toInt granted)) cdevInfo.state2power = .ok request := by
  obtain ⟨s, granted, hgrant⟩ := h.budgets
  refine ⟨s, granted, hgrant, ?_⟩
  obtain ⟨before, hbefore, hstatus⟩ := h.allocates.registered
  obtain ⟨computed, pid, hcomputed, htotal⟩ := h.allocates.budget
  obtain ⟨status', hstatus', hrequest⟩ := h.after
  have hreturns := h.returns
  unfold thermalThrottlingUpdate at hreturns
  rw [hbefore, h.allocates.throttled] at hreturns
  obtain ⟨info', hinfo, hreturns⟩ := bind_eq_ok.mp hreturns
  have hinfo' : info = info' := Except.ok.inj hinfo
  obtain ⟨after, hupdate, hreturns⟩ := bind_eq_ok.mp hreturns
  rw [← Except.ok.inj hreturns, UnorderedMap.lookup_put, if_pos rfl] at hstatus'
  unfold updateStatus at hupdate
  obtain ⟨status₁, hpid, hrelease⟩ := bind_eq_ok.mp hupdate
  rw [← hinfo', ← hstatus] at hpid
  have hrequests : after.pidCdevRequestMap = status₁.pidCdevRequestMap :=
    (updateRelease_requests.of_ok hrelease).trans updateHardlimit_requests
  obtain ⟨state, hstate, hlookup⟩ := hgrant.request hcomputed htotal hpid
  rw [← Option.some.inj hstatus', hrequests, hlookup] at hrequest
  rw [← Option.some.inj hrequest]
  exact hstate

end Update

/-! ## A device that cools down -/

/-- A device without a rail, whose step of release is `maxReleaseStep`. -/
def coolingBinding (maxReleaseStep : ℤ) : BindedCdevInfo :=
  { (default : BindedCdevInfo) with
    cdevWeightForPid := fun _ ↦ 1
    cdevCeiling := fun _ ↦ 1
    maxReleaseStep := maxReleaseStep }

/-- The sensor has 500 mW until its temperature is below the last threshold but one, and 2000 mW
then. -/
def coolingInfo (maxReleaseStep : ℤ) : ThrottlingInfo :=
  { ampleInfo with
    minAllocPower := fun _ ↦ 0
    sPower := fun severity ↦ if severity = .severe then .fin 500 else .fin 2000
    bindedCdevInfoMap := (∅ : BindedCdevInfoMap).insert "cpu" (coolingBinding maxReleaseStep) }

def coolingSensorInfo (maxReleaseStep : ℤ) : SensorInfo :=
  { (default : SensorInfo) with
    hotThresholds := fun _ ↦ .fin 50
    throttlingInfo := some (coolingInfo maxReleaseStep) }

def coolingSetup (maxReleaseStep : ℤ) : ThrottlingSetup where
  sensorInfoMap := (∅ : UnorderedMap String SensorInfo).insert "soc"
    (coolingSensorInfo maxReleaseStep)
  coolingDeviceInfoMap := (∅ : CdevInfoMap).insert "cpu" (ampleDevice 1000)

def coolingInput (maxReleaseStep : ℤ) (currSeverity : ThrottlingSeverity) : UpdateInput :=
  { linkedInput with
    sensorInfo := coolingSensorInfo maxReleaseStep
    currSeverity := currSeverity
    coolingDeviceInfoMap := (coolingSetup maxReleaseStep).coolingDeviceInfoMap }

theorem coolingInput_calls (maxReleaseStep : ℤ) (currSeverity : ThrottlingSeverity) :
    (coolingSetup maxReleaseStep).Calls (coolingInput maxReleaseStep currSeverity) := ⟨rfl, rfl, rfl⟩

def coolingPair (maxReleaseStep : ℤ) : BindedCdevEntry :=
  ⟨"cpu", coolingBinding maxReleaseStep⟩

/-- The second pass in front of the device. -/
def coolingState (maxReleaseStep : ℤ) (status : ThermalThrottlingStatus) : AllocationState :=
  settlePass binary32.round { initialAllocation (coolingInput maxReleaseStep .light) status
    (coolingInfo maxReleaseStep).bindedCdevInfoMap (.fin 2000) with powerDataInvalid := true }

/-- The states of a sensor that is throttled and cools down, and what the device is granted then. -/
structure CoolsDown (maxReleaseStep : ℤ) (start warm cool : ThermalThrottling)
    (status after : ThermalThrottlingStatus) (granted : ExactFloat) (current request : ℤ) : Prop where
  registered : (coolingSetup maxReleaseStep).registered = some start
  warms : thermalThrottlingUpdate start (coolingInput maxReleaseStep .moderate) = .ok warm
  cools : thermalThrottlingUpdate warm (coolingInput maxReleaseStep .light) = .ok cool
  throttled : warm.thermalThrottlingStatusMap.lookup "soc" = some status
  cooled : cool.thermalThrottlingStatusMap.lookup "soc" = some after
  grants : grantedPower (coolingInput maxReleaseStep .light) warm.cdevAllRequestMap status
    (coolingPair maxReleaseStep) (ampleDevice 1000) .nan (coolingState maxReleaseStep status) =
      .ok (some granted)
  total : ∃ pid, updatePowerBudget (coolingInput maxReleaseStep .light) (coolingInfo maxReleaseStep)
    warm.cdevAllRequestMap status = .ok (.fin 2000, pid)
  budgeted : "cpu" ∈ status.pidPowerBudgetMap
  before : status.pidCdevRequestMap.lookup "cpu" = some current
  request : after.pidCdevRequestMap.lookup "cpu" = some request

/-- The budget, the power and the two requests of the device. -/
def coolingResult (maxReleaseStep : ℤ) :
    Option (ExactFloat × Option ExactFloat × Bool × Option ℤ × Option ℤ) := do
  let start ← (coolingSetup maxReleaseStep).registered
  let warm ← (thermalThrottlingUpdate start (coolingInput maxReleaseStep .moderate)).toOption
  let cool ← (thermalThrottlingUpdate warm (coolingInput maxReleaseStep .light)).toOption
  let status ← warm.thermalThrottlingStatusMap.lookup "soc"
  let after ← cool.thermalThrottlingStatusMap.lookup "soc"
  let granted ← (grantedPower (coolingInput maxReleaseStep .light) warm.cdevAllRequestMap status
    (coolingPair maxReleaseStep) (ampleDevice 1000) .nan (coolingState maxReleaseStep status)).toOption
  let total ← (updatePowerBudget (coolingInput maxReleaseStep .light) (coolingInfo maxReleaseStep)
    warm.cdevAllRequestMap status).toOption
  pure (total.1, granted, status.pidPowerBudgetMap.keys.contains "cpu",
    status.pidCdevRequestMap.lookup "cpu", after.pidCdevRequestMap.lookup "cpu")

theorem coolsDown {maxReleaseStep : ℤ} (hresult : coolingResult maxReleaseStep =
    some (.fin 2000, some (.fin 1000), true, some 1, some 0)) : ∃ start warm cool status after,
      CoolsDown maxReleaseStep start warm cool status after (.fin 1000) 1 0 := by
  unfold coolingResult at hresult
  obtain ⟨start, hstart, hresult⟩ := Option.bind_eq_some_iff.mp hresult
  obtain ⟨warm, hwarm, hresult⟩ := Option.bind_eq_some_iff.mp hresult
  obtain ⟨cool, hcool, hresult⟩ := Option.bind_eq_some_iff.mp hresult
  obtain ⟨status, hstatus, hresult⟩ := Option.bind_eq_some_iff.mp hresult
  obtain ⟨after, hafter, hresult⟩ := Option.bind_eq_some_iff.mp hresult
  obtain ⟨granted, hgranted, hresult⟩ := Option.bind_eq_some_iff.mp hresult
  obtain ⟨⟨total, pid⟩, htotal, hresult⟩ := Option.bind_eq_some_iff.mp hresult
  have hparts := Prod.mk.inj (Option.some.inj hresult)
  have hparts₁ := Prod.mk.inj hparts.2
  have hparts₂ := Prod.mk.inj hparts₁.2
  have hparts₃ := Prod.mk.inj hparts₂.2
  have hgrants := toOption_eq_some hgranted
  have hbudget := toOption_eq_some htotal
  rw [hparts₁.1] at hgrants
  have hsame : total = .fin 2000 := hparts.1
  rw [hsame] at hbudget
  refine ⟨start, warm, cool, status, after, hstart, toOption_eq_some hwarm, toOption_eq_some hcool,
    hstatus, hafter, hgrants, ⟨pid, hbudget⟩, ?_, hparts₃.1, hparts₃.2⟩
  exact AList.mem_keys.mpr (List.contains_iff_mem.mp hparts₂.1)

section Cooling

variable {maxReleaseStep current request : ℤ} {start warm cool : ThermalThrottling}
  {status after : ThermalThrottlingStatus} {granted : ExactFloat}

theorem CoolsDown.run
    (h : CoolsDown maxReleaseStep start warm cool status after granted current request) :
    ThrottlingRun (coolingSetup maxReleaseStep) start warm ([] ++ []) :=
  .call .start (.update _ (coolingInput_calls maxReleaseStep .moderate) h.warms)

theorem CoolsDown.deviceUpdate
    (h : CoolsDown maxReleaseStep start warm cool status after granted current request) :
    DeviceUpdate warm cool (coolingInput maxReleaseStep .light) (coolingInfo maxReleaseStep) status
      (.fin 2000) (coolingPair maxReleaseStep) (ampleDevice 1000) current request := by
  have hunread : powerAdjustment (coolingInput maxReleaseStep .light) (coolingPair maxReleaseStep)
      (coolingState maxReleaseStep status) = .nan := congrArg binary32.round (ExactFloat.sub_nan _)
  apply DeviceUpdate.mk
  · apply AllocatesWith.mk ⟨status, h.throttled, rfl⟩ rfl
    · intro hempty
      have hnone : status.pidPowerBudgetMap.entries = [] := hempty
      have hbudgeted := h.budgeted
      rw [AList.mem_keys, AList.keys, hnone] at hbudgeted
      exact List.not_mem_nil hbudgeted
    · apply Exists.elim h.total
      exact fun pid htotal ↦ ⟨_, pid, htotal, (@round_binary32_ofInt 2000 (by decide)).symm⟩
  · refine ⟨coolingState maxReleaseStep status, granted, ?_, rfl, ?_, h.budgeted, ?_⟩
    · exact ⟨coolingState maxReleaseStep status, [], [], coolingState maxReleaseStep status,
        ⟨_, rfl, Or.inr rfl⟩, rfl, rfl, List.not_mem_nil, rfl⟩
    · rw [hunread, atMaxState, if_neg (ExactFloat.not_nan_lt _)]
    · rw [hunread]
      exact h.grants
  · exact h.before
  · exact h.cools
  · exact ⟨after, h.cooled, h.request⟩

end Cooling

/-- The powers of the two states are whole numbers. -/
theorem ampleDevice_integer : IsIntegerTable (ampleDevice 1000) [1000, 500] := by
  apply IsIntegerTable.mk (ampleTable 1000 (by norm_num))
  · intro power hpower
    apply Or.elim (List.mem_cons.mp hpower)
    · exact fun hfirst ↦ ⟨1000, hfirst, by decide⟩
    · exact fun hsecond ↦ ⟨500, List.mem_singleton.mp hsecond, by decide⟩
  · intro power hpower
    apply Or.elim (List.mem_cons.mp hpower)
    · exact fun hfirst ↦ hfirst ▸ @round_binary32_ofInt 1000 (by decide)
    · exact fun hsecond ↦ List.mem_singleton.mp hsecond ▸ @round_binary32_ofInt 500 (by decide)

end HardwareMediatek.Thermal
