import HardwareMediatek.Foundation.FiniteFloat
import HardwareMediatek.Thermal.SecondPass

/-!
# Budgets that are stored in an `int`

After a registration or a clearing the stored budget of a device is the largest `int`. A device that
gets more than it needs keeps its power, so that this number is not adjusted upwards; but the devices
that keep their power may leave more for the others than they had before. All other budgets are bounded
by the tables of the devices.
-/

namespace HardwareMediatek.Thermal

/-- A value that an `int` can hold. -/
def InIntRange (x : ExactFloat) : Prop :=
  ∃ value : ℚ, x = .fin value ∧ (intMin : ℚ) ≤ value ∧ value ≤ intMax

/-- A power between zero and a bound. -/
def Within (bound : ℚ) (x : ExactFloat) : Prop := ∃ value : ℚ, x = .fin value ∧ 0 ≤ value ∧ value ≤ bound

/-- A value that the second pass converts to `int`: an adjusted budget, or a granted power. -/
inductive Converts (input : UpdateInput) (votes : CdevAllRequestMap) (status : ThermalThrottlingStatus)
    (bindings : BindedCdevInfoMap) (total : ExactFloat) : ExactFloat → Prop
  | adjusted {pair : BindedCdevEntry} {cdevInfo : CdevInfo}
      {s : AllocationState} {cdevCurrPowerBudget : ℤ}
      (hround : SecondRound input votes status bindings total pair s)
      (hdevice : input.coolingDeviceInfoMap.lookup pair.1 = some cdevInfo)
      (hreducible : atMaxState status pair.1 cdevInfo (powerAdjustment input pair s) = .ok false)
      (henabled : pair.2.enabled = true) (hvalid : s.powerDataInvalid = false)
      (hstored : s.pidPowerBudgetMap.lookup pair.1 = some cdevCurrPowerBudget) :
      Converts input votes status bindings total
        (adjustedBudget input.round cdevCurrPowerBudget (powerAdjustment input pair s)
          s.lastUpdatedAvgPower)
  | stored {pair : BindedCdevEntry} {cdevInfo : CdevInfo} {s : AllocationState}
      {granted : ExactFloat}
      (hgrant : GrantRound input votes status bindings total pair cdevInfo s granted) :
      Converts input votes status bindings total granted

/-- The adjusted budget is what the round converts first. -/
theorem distributedBudget_adjusted {round : ExactFloat → ExactFloat} {cdevName : String} {cdevInfo : CdevInfo}
    {binding : BindedCdevInfo} {s : AllocationState} {cdevCurrPowerBudget : ℤ}
    (cdevWeight cdevPowerAdjustment : ExactFloat) (henabled : binding.enabled = true)
    (hvalid : s.powerDataInvalid = false) (hrail : binding.powerRail ≠ "")
    (hstored : s.pidPowerBudgetMap.lookup cdevName = some cdevCurrPowerBudget) :
    distributedBudget round cdevName cdevInfo binding s cdevWeight cdevPowerAdjustment =
      .ok (round (ExactFloat.ofInt (toInt
        (adjustedBudget round cdevCurrPowerBudget cdevPowerAdjustment s.lastUpdatedAvgPower)))) := by
  have hused : (!s.powerDataInvalid && decide (binding.powerRail ≠ "")) = true := by
    rw [hvalid, decide_eq_true hrail]
    rfl
  unfold distributedBudget
  rw [henabled, Bool.not_true, if_neg Bool.false_ne_true, if_pos hused, atKey_of_lookup hstored]
  rfl

/-! ## Bounds -/

section Bounds

variable {bound : ℚ}

theorem Within.inIntRange {x : ExactFloat} (h : Within bound x) (hbound : bound ≤ intMax) :
    InIntRange x := by
  obtain ⟨value, hx, hnonneg, hle⟩ := h
  refine ⟨value, hx, ?_, hle.trans hbound⟩
  have hmin : (intMin : ℚ) ≤ 0 := by norm_num [intMin]
  exact hmin.trans hnonneg

theorem toInt_fin {value : ℚ} (hnonneg : 0 ≤ value) (hle : value ≤ intMax) :
    toInt (.fin value) = ⌊value⌋ := by
  have hfloor : ⌊value⌋ ≤ intMax := by exact_mod_cast (Int.floor_le value).trans hle
  have hzero : intMin ≤ ⌊value⌋ := le_trans (by decide) (Int.floor_nonneg.mpr hnonneg)
  rw [toInt, ExactFloat.toIntSat, ExactFloat.truncate, if_pos hnonneg, min_eq_right hfloor]
  exact max_eq_right hzero

theorem toInt_mono {x y : ExactFloat} (h : x ≤ y) : toInt x ≤ toInt y :=
  ExactFloat.toIntSat_mono (by decide) h

/-- The stored number is between zero and the bound. -/
theorem Within.toInt {x : ExactFloat} (h : Within bound x) (hbound : bound ≤ intMax) :
    0 ≤ toInt x ∧ (toInt x : ℚ) ≤ bound := by
  obtain ⟨value, hx, hnonneg, hle⟩ := h
  rw [hx, toInt_fin hnonneg (hle.trans hbound)]
  exact ⟨Int.floor_nonneg.mpr hnonneg, (Int.floor_le value).trans hle⟩

/-- A number between zero and the power of state 0. -/
theorem boundBudget_within {cdevInfo : CdevInfo} {cdevPowerBudget bounded : ExactFloat}
    (htable : ∀ power ∈ cdevInfo.state2power, Within bound power)
    (hnumber : cdevPowerBudget.isNaN = false)
    (hbounded : boundBudget cdevInfo cdevPowerBudget = .ok bounded) : Within bound bounded := by
  unfold boundBudget at hbounded
  obtain ⟨power, hpower, hbounded⟩ := bind_eq_ok.mp hbounded
  obtain ⟨value, rfl, hnonneg, hle⟩ := htable power (List.mem_of_getElem? (atIndex_eq_ok.mp hpower).2)
  rw [ExactFloat.isNaN_fin, Bool.not_false, Bool.true_and] at hbounded
  by_cases habove : ExactFloat.fin value < cdevPowerBudget
  · rw [if_pos (decide_eq_true habove)] at hbounded
    rw [← Except.ok.inj hbounded]
    exact ⟨value, rfl, hnonneg, hle⟩
  · rw [if_neg (mt of_decide_eq_true habove)] at hbounded
    by_cases hnegative : cdevPowerBudget < 0
    · rw [if_pos hnegative] at hbounded
      rw [← Except.ok.inj hbounded]
      exact ⟨0, rfl, le_rfl, hnonneg.trans hle⟩
    · rw [if_neg hnegative] at hbounded
      rw [← Except.ok.inj hbounded]
      cases cdevPowerBudget with
      | nan => cases hnumber
      | negInf => exact absurd rfl hnegative
      | posInf => exact absurd rfl habove
      | fin budget =>
        rw [ExactFloat.fin_lt_fin, not_lt] at habove
        have hbudget : 0 ≤ budget := not_lt.mp fun hlt ↦ hnegative (ExactFloat.fin_lt_fin.mpr hlt)
        exact ⟨budget, rfl, hbudget, habove.trans hle⟩

end Bounds

/-- A budget is bounded to zero or to a power of the table. -/
theorem boundBudget_keeps {Q : ExactFloat → Prop} {cdevInfo : CdevInfo}
    {cdevPowerBudget bounded : ExactFloat} (htable : ∀ power ∈ cdevInfo.state2power, Q power)
    (hzero : Q 0) (hbudget : Q cdevPowerBudget)
    (hbounded : boundBudget cdevInfo cdevPowerBudget = .ok bounded) : Q bounded := by
  unfold boundBudget at hbounded
  obtain ⟨power, hpower, hbounded⟩ := bind_eq_ok.mp hbounded
  split at hbounded
  · rw [← Except.ok.inj hbounded]
    exact htable power (List.mem_of_getElem? (atIndex_eq_ok.mp hpower).2)
  · split at hbounded
    · rw [← Except.ok.inj hbounded]
      exact hzero
    · rw [← Except.ok.inj hbounded]
      exact hbudget

/-! ## Limited steps -/

section Limits

variable {Q : ExactFloat → Prop} {cdevInfo : CdevInfo} {binding : BindedCdevInfo}
  {currSeverity : ThrottlingSeverity} {powerDataInvalid : Bool}
  {cdevPowerAdjustment cdevPowerBudget limited : ExactFloat} {currCdevVote maxCdevVote : ℤ}

theorem atIndex_keeps {i : ℤ} {power : ExactFloat} (htable : ∀ power ∈ cdevInfo.state2power, Q power)
    (hpower : atIndex cdevInfo.state2power i = .ok power) : Q power :=
  htable power (List.mem_of_getElem? (atIndex_eq_ok.mp hpower).2)

theorem min_keeps {x y : ExactFloat} (hx : Q x) (hy : Q y) : Q (x.min y) := by
  unfold ExactFloat.min
  split
  · exact hy
  · exact hx

theorem max_keeps {x y : ExactFloat} (hx : Q x) (hy : Q y) : Q (x.max y) := by
  unfold ExactFloat.max
  split
  · exact hy
  · exact hx

/-- A limit leaves the budget, or replaces it by a power of the table. -/
theorem limitRelease_keeps (htable : ∀ power ∈ cdevInfo.state2power, Q power)
    (hbudget : Q cdevPowerBudget)
    (hlimited : limitRelease cdevInfo binding currSeverity powerDataInvalid cdevPowerAdjustment
      currCdevVote maxCdevVote cdevPowerBudget = .ok limited) : Q limited := by
  unfold limitRelease at hlimited
  split at hlimited
  · split at hlimited
    · exact atIndex_keeps htable hlimited
    · obtain ⟨step, -, hlimited⟩ := bind_eq_ok.mp hlimited
      obtain ⟨power, hpower, hlimited⟩ := bind_eq_ok.mp hlimited
      rw [← Except.ok.inj hlimited]
      exact min_keeps hbudget (atIndex_keeps htable hpower)
  · rw [← Except.ok.inj hlimited]
    exact hbudget

theorem limitThrottle_keeps (htable : ∀ power ∈ cdevInfo.state2power, Q power)
    (hbudget : Q cdevPowerBudget)
    (hlimited : limitThrottle cdevInfo binding currSeverity powerDataInvalid cdevPowerAdjustment
      currCdevVote cdevPowerBudget = .ok limited) : Q limited := by
  unfold limitThrottle at hlimited
  split at hlimited
  · obtain ⟨step, -, hlimited⟩ := bind_eq_ok.mp hlimited
    obtain ⟨power, hpower, hlimited⟩ := bind_eq_ok.mp hlimited
    rw [← Except.ok.inj hlimited]
    exact max_keeps hbudget (atIndex_keeps htable hpower)
  · rw [← Except.ok.inj hlimited]
    exact hbudget

/-- What is granted is the bounded budget, or a power of the table. -/
theorem grantedPower_keeps {input : UpdateInput} {votes : CdevAllRequestMap}
    {status : ThermalThrottlingStatus} {pair : BindedCdevEntry}
    {granted : ExactFloat} {s : AllocationState}
    (htable : ∀ power ∈ cdevInfo.state2power, Q power)
    (hbudget : ∀ distributed bounded, distributedBudget input.round pair.1 cdevInfo pair.2 s
      (pair.2.cdevWeightForPid input.currSeverity) cdevPowerAdjustment = .ok distributed →
        boundBudget cdevInfo distributed = .ok bounded → Q bounded)
    (hgrants : grantedPower input votes status pair cdevInfo cdevPowerAdjustment s =
      .ok (some granted)) : Q granted := by
  unfold grantedPower at hgrants
  obtain ⟨distributed, hdistributed, hgrants⟩ := bind_eq_ok.mp hgrants
  obtain ⟨bounded, hbounded, hgrants⟩ := bind_eq_ok.mp hgrants
  have hkept := hbudget distributed bounded hdistributed hbounded
  obtain ⟨found, -, hgrants⟩ := bind_eq_ok.mp hgrants
  cases found with
  | none => cases hgrants
  | some maxCdevVote =>
    obtain ⟨currCdevVote, -, hgrants⟩ := bind_eq_ok.mp hgrants
    obtain ⟨limited, hlimited, hgrants⟩ := bind_eq_ok.mp hgrants
    rw [← Option.some.inj (Except.ok.inj hgrants)]
    unfold limitSteps at hlimited
    split at hlimited
    · rw [← Except.ok.inj hlimited]
      exact hkept
    · obtain ⟨released, hreleased, hlimited⟩ := bind_eq_ok.mp hlimited
      exact limitThrottle_keeps htable (limitRelease_keeps htable hkept hreleased) hlimited

end Limits

/-! ## Shares -/

section Shares

variable {input : UpdateInput} {votes : CdevAllRequestMap} {status : ThermalThrottlingStatus}
  {bindings : BindedCdevInfoMap} {total : ExactFloat} {pair : BindedCdevEntry} {s : AllocationState}

/-- What the claims of the hardware are bounded by: a total budget and powers of rails of at most one
kilowatt. -/
structure BoundedPowers (input : UpdateInput) (total : ExactFloat) : Prop where
  total : UpTo (10 ^ 6) total
  rails : ∀ rail power, input.powerStatusMap.lookup rail = some power →
    power.lastUpdatedAvgPower = .nan ∨ UpTo (10 ^ 6) power.lastUpdatedAvgPower

/-- Beyond a kilowatt lies a power of two. -/
theorem BoundedPowers.budget (h : BoundedPowers input total) : UpTo (2 ^ 20) total :=
  h.total.mono (by norm_num)

theorem BoundedPowers.railPower (h : BoundedPowers input total) {binding : BindedCdevInfo}
    (hpower : HasPower input.powerStatusMap binding) :
    UpTo (2 ^ 20) (Thermal.railPower input.powerStatusMap binding) := by
  have hknown := hpower.known
  unfold Thermal.railPower at hknown ⊢
  cases hlookup : input.powerStatusMap.lookup binding.powerRail with
  | none =>
    rw [hlookup] at hknown
    cases hknown
  | some power =>
    rw [hlookup] at hknown
    apply ((h.rails _ power hlookup).resolve_left _).mono (by norm_num)
    intro hnan
    rw [Option.map_some, Option.getD_some, hnan] at hknown
    cases hknown

/-- What is left is bounded by the number of devices. -/
theorem leftBudget_upTo (hfloat : input.round = binary32.round) (h : BoundedPowers input total)
    (hpowered : AllPowered input bindings) (hcount : bindings.entries.length + 1 ≤ 2 ^ 24) :
    UpTo (2 ^ 20 * ((bindings.entries.length + 1 : ℕ) : ℚ))
      (leftBudget input status bindings total) := by
  have hkeepers : ∀ power ∈ (keepers input status bindings total bindings.entries).map
      (fun pair ↦ railPower input.powerStatusMap pair.2), UpTo (2 ^ 20) power := by
    intro power hpower
    obtain ⟨pair, hpair, hvalue⟩ := List.mem_map.mp hpower
    have hmem := List.mem_filter.mp hpair
    have hkeeps := hmem.2
    rw [keepsPower, Bool.and_assoc, Bool.and_eq_true] at hkeeps
    rw [← hvalue]
    exact h.railPower (hpowered pair hmem.1 hkeeps.1)
  have hlength : ((keepers input status bindings total bindings.entries).map
      fun pair ↦ railPower input.powerStatusMap pair.2).length ≤ bindings.entries.length := by
    rw [List.length_map]
    exact List.length_filter_le _ _
  rw [leftBudget, hfloat]
  apply UpTo.round_binary32 hcount
  have hsum := upTo_roundedSum (by decide)
    (fun n hn ↦ ⟨holds_binary32_shift (by omega), shift_lt_binary32 (by omega)⟩) hkeepers
  apply (h.budget.sub hsum).mono
  have hcast : ((((keepers input status bindings total bindings.entries).map
      fun pair ↦ railPower input.powerStatusMap pair.2).length : ℕ) : ℚ) ≤
      bindings.entries.length := by
    exact_mod_cast hlength
  push_cast
  linarith

/-- The weights of a configuration, which is read as `float`. -/
structure FloatWeights (currSeverity : ThrottlingSeverity)
    (pairs : List BindedCdevEntry) : Prop where
  regular : RegularWeights currSeverity pairs
  float : ∀ pair ∈ pairs, binary32.round (weightAt currSeverity pair) = weightAt currSeverity pair

/-- A weight that counts is positive. -/
theorem RegularWeights.pos {currSeverity : ThrottlingSeverity}
    (hweights : RegularWeights currSeverity bindings.entries) (hpair : pair ∈ bindings.entries)
    (hcounts : countsWeight currSeverity pair = true) :
    ∃ weight : ℚ, 0 < weight ∧ weightAt currSeverity pair = .fin weight := by
  have hweight := weight_of_countsWeight hcounts
  obtain ⟨weight, hnonneg, hvalue⟩ := (hweights pair hpair).resolve_left hweight.1
  refine ⟨weight, lt_of_le_of_ne hnonneg ?_, hvalue⟩
  intro hzero
  apply hweight.2
  rw [hvalue, ← hzero]
  rfl

/-- The adjustment of a round with valid power data is bounded, if the passes have not lost half of the
weight of the device. -/
theorem leftAdjustment_upTo (hfloat : input.round = binary32.round) (h : BoundedPowers input total)
    (hweights : RegularWeights input.currSeverity bindings.entries)
    (hround : SecondRound input votes status bindings total pair s)
    (hvalid : s.powerDataInvalid = false) (henabled : pair.2.enabled = true)
    (hleft : .fin (1 / 2) * weightAt input.currSeverity pair ≤ leftWeight input status bindings total)
    (hcount : 2 * bindings.entries.length + 3 ≤ 2 ^ 24) :
    UpTo (2 ^ 20 * ((2 * bindings.entries.length + 3 : ℕ) : ℚ))
      (leftAdjustment input status bindings total pair) := by
  have hknown := hround.known hvalid
  have hcounts : countsWeight input.currSeverity pair = true := by
    rw [countsWeight, henabled, (hknown.1.unmarked pair hround.mem hknown.2.1).1]
    rfl
  obtain ⟨weight, hpos, hweight⟩ := hweights.pos hround.mem hcounts
  rw [hweight] at hleft
  obtain ⟨ratio, hratio, hnonneg, hle⟩ := ExactFloat.div_of_le one_half_pos hpos hleft
  have hpart : UpTo 2 (input.round
      (weightAt input.currSeverity pair / leftWeight input status bindings total)) := by
    rw [hweight, hratio, hfloat]
    apply UpTo.round (by decide) ⟨2, 0, by norm_num, by decide, by decide⟩ (by norm_num [binary32])
    refine ⟨ratio, rfl, ?_⟩
    rw [abs_of_nonneg hnonneg]
    linarith
  have hshare : UpTo (2 ^ 20 * ((2 * bindings.entries.length + 2 : ℕ) : ℚ))
      (input.round (leftBudget input status bindings total * input.round
        (weightAt input.currSeverity pair / leftWeight input status bindings total))) := by
    have hbudget : UpTo _ (leftBudget input status bindings total) :=
      leftBudget_upTo hfloat h hknown.1.powered (by omega)
    have hproduct := hbudget.mul hpart
    rw [hfloat] at hproduct ⊢
    apply UpTo.round_binary32 (by omega)
    apply hproduct.mono
    push_cast
    linarith
  rw [leftAdjustment]
  nth_rewrite 1 [hfloat]
  apply UpTo.round_binary32 hcount
  apply (hshare.sub (h.railPower hknown.2.2.1)).mono
  push_cast
  linarith

/-- Without valid power data the share of a device is a number. -/
theorem unknownShare_isNaN (hfloat : input.round = binary32.round) (h : BoundedPowers input total)
    (hweights : FloatWeights input.currSeverity bindings.entries)
    (hround : SecondRound input votes status bindings total pair s)
    (hinvalid : s.powerDataInvalid = true) (henabled : pair.2.enabled = true) :
    (s.share input.round (pair.2.cdevWeightForPid input.currSeverity)).isNaN = false := by
  have hunknown := hround.unknown hinvalid
  have hcounts : countsWeight input.currSeverity pair = true := by
    rw [countsWeight, henabled, hunknown.1.unmarked pair hround.mem hunknown.2]
    rfl
  have hweight : ∀ weight ∈ (bindings.entries.filter (countsWeight input.currSeverity)).map
      (weightAt input.currSeverity), 0 ≤ weight ∧ binary32.round weight = weight := by
    intro weight hmem
    obtain ⟨pair', hpair', hvalue⟩ := List.mem_map.mp hmem
    have hfiltered := List.mem_filter.mp hpair'
    rw [← hvalue]
    refine ⟨?_, hweights.float pair' hfiltered.1⟩
    obtain ⟨weight', hpos, hweight'⟩ := hweights.regular.pos hfiltered.1 hfiltered.2
    rw [hweight']
    exact ExactFloat.fin_le_fin.mpr hpos.le
  have hle : weightAt input.currSeverity pair ≤
      enabledWeight input.round input.currSeverity bindings.entries := by
    rw [enabledWeight, hfloat]
    apply (le_roundedSum (by decide) hweight).2
    exact List.mem_map_of_mem (List.mem_filter.mpr ⟨hround.mem, hcounts⟩)
  obtain ⟨weight, hpos, hvalue⟩ := hweights.regular.pos hround.mem hcounts
  have hwhole : ExactFloat.fin 1 * .fin weight ≤
      enabledWeight input.round input.currSeverity bindings.entries := by
    rw [ExactFloat.fin_mul_fin, one_mul, ← hvalue]
    exact hle
  obtain ⟨ratio, hratio, hnonneg, hratioLe⟩ := ExactFloat.div_of_le one_pos hpos hwhole
  have hpart : UpTo 1 (input.round (pair.2.cdevWeightForPid input.currSeverity /
      enabledWeight input.round input.currSeverity bindings.entries)) := by
    change UpTo 1 (input.round (weightAt input.currSeverity pair / _))
    rw [hvalue, hratio, hfloat]
    apply UpTo.round_ratio
    refine ⟨ratio, rfl, ?_⟩
    rw [abs_of_nonneg hnonneg]
    linarith
  obtain ⟨share, hshare, -⟩ := h.budget.mul_of_one hpart
  rw [AllocationState.share, hunknown.1.budget, hunknown.1.weight, hshare, hfloat,
    FloatFormat.isNaN_round]
  rfl

end Shares

/-! ## Adjusted budgets -/

/-- The largest `float` that an `int` can hold. Below 2^31 a `float` is a multiple of 128. -/
def largestFloat : ℚ := 2 ^ 31 - 128

theorem largestFloat_le : largestFloat ≤ intMax := by norm_num [largestFloat, intMax]

theorem holds_largestFloat : binary32.Holds largestFloat :=
  ⟨2 ^ 24 - 1, 7, by norm_num [largestFloat], by decide, by decide⟩

theorem UpTo.inIntRange {x : ExactFloat} (h : UpTo largestFloat x) : InIntRange x := by
  obtain ⟨value, hx, hle⟩ := h
  have hbounds := abs_le.mp hle
  refine ⟨value, hx, ?_, hbounds.2.trans largestFloat_le⟩
  apply le_trans _ hbounds.1
  norm_num [intMin, largestFloat]

theorem UpTo.round_largestFloat {x : ExactFloat} (h : UpTo largestFloat x) :
    UpTo largestFloat (binary32.round x) :=
  h.round (by decide) holds_largestFloat (by norm_num [largestFloat, binary32])

/-- A number more than 64 below 2^31 is not rounded up to 2^31. -/
theorem roundRat_le_largestFloat {x : ℚ} (hlow : 2 ^ 30 ≤ x) (hhigh : x < 2 ^ 31 - 64) :
    binary32.roundRat x ≤ largestFloat := by
  have hpos : 0 < x := lt_of_lt_of_le (by norm_num) hlow
  have hlog : Int.log 2 |x| = 30 := by
    rw [abs_of_pos hpos]
    apply le_antisymm
    · have hlt : Int.log 2 x < 31 := (Int.lt_zpow_iff_log_lt one_lt_two hpos).mp (by
        norm_num
        linarith)
      omega
    · exact (Int.zpow_le_iff_le_log one_lt_two hpos).mp (by norm_num; linarith)
  have hulp : binary32.ulpExponent x = 7 := by
    rw [FloatFormat.ulpExponent, hlog]
    rfl
  have hsignificand : roundHalfEven (x / 2 ^ (7 : ℤ)) ≤ 2 ^ 24 - 1 := by
    apply roundHalfEven_le_of_lt
    rw [div_lt_iff₀ (by positivity)]
    norm_num
    linarith
  rw [FloatFormat.roundRat, hulp, largestFloat]
  have hcast : (roundHalfEven (x / 2 ^ (7 : ℤ)) : ℚ) ≤ 2 ^ 24 - 1 := by exact_mod_cast hsignificand
  norm_num at hcast ⊢
  linarith

theorem round_binary32_intMax : binary32.round (ExactFloat.ofInt intMax) = .fin (2 ^ 31) := by
  decide +kernel

/-- The adjusted budget is in the range of `int` unless the largest `int` is adjusted upwards, or by too
little to be told from 2^31. -/
theorem adjustedBudget_inIntRange {bound : ℚ} {n : ℕ} {stored : ℤ} {adjustment power : ExactFloat}
    (hbound : binary32.Holds bound) (hnonneg : 0 ≤ bound)
    (hroom : bound + 2 ^ 20 * n ≤ largestFloat) (hadjustment : UpTo (2 ^ 20 * n) adjustment)
    (hpower : UpTo (2 ^ 20) power)
    (hstored : stored = intMax ∧ adjustment < .fin (-64) ∨ 0 ≤ stored ∧ (stored : ℚ) ≤ bound) :
    InIntRange (adjustedBudget binary32.round stored adjustment power) := by
  have hlargest : largestFloat = 2147483520 := by norm_num [largestFloat]
  have hcount : n ≤ 2 ^ 24 := by
    have hlt : (n : ℚ) ≤ 2 ^ 24 := by linarith
    exact_mod_cast hlt
  unfold adjustedBudget
  dsimp only
  apply Or.elim hstored
  · rintro ⟨hmax, hlow⟩
    obtain ⟨value, hvalue, hle⟩ := hadjustment
    rw [hvalue, ExactFloat.fin_lt_fin] at hlow
    obtain ⟨power', hpower', hpowerLe⟩ := hpower
    have hnotBelow : ¬ binary32.round (ExactFloat.ofInt stored) < power := by
      rw [hmax, round_binary32_intMax, hpower', ExactFloat.fin_lt_fin]
      linarith [(abs_le.mp hpowerLe).2]
    rw [if_neg hnotBelow, hmax, round_binary32_intMax, hvalue, ExactFloat.fin_add_fin]
    have hvalueLe := (abs_le.mp hle).1
    apply UpTo.inIntRange
    by_cases hhalf : (2 : ℚ) ^ 30 ≤ 2 ^ 31 + value
    · have hrounded := roundRat_le_largestFloat hhalf (by linarith)
      have hpos : 0 ≤ binary32.roundRat (2 ^ 31 + value) :=
        FloatFormat.roundRat_nonneg (le_trans (by norm_num) hhalf)
      have habs : |binary32.roundRat (2 ^ 31 + value)| ≤ largestFloat := by
        rw [abs_of_nonneg hpos]
        exact hrounded
      refine ⟨_, FloatFormat.overflow_of_lt ?_, habs⟩
      exact habs.trans_lt (by norm_num [largestFloat, binary32])
    · apply UpTo.round_largestFloat
      refine ⟨_, rfl, ?_⟩
      rw [abs_le]
      constructor <;> linarith
  · rintro ⟨hstoredNonneg, hstoredLe⟩
    have hstoredQ : (0 : ℚ) ≤ stored := by exact_mod_cast hstoredNonneg
    have hcurrent : ∃ current : ℚ, binary32.round (ExactFloat.ofInt stored) = .fin current ∧
        0 ≤ current ∧ current ≤ bound := by
      have hmax : bound < 2 ^ binary32.maxExponent :=
        lt_of_le_of_lt (by linarith [show (0 : ℚ) ≤ 2 ^ 20 * n by positivity])
          (by norm_num [largestFloat, binary32] : largestFloat < 2 ^ binary32.maxExponent)
      have hle : |binary32.roundRat stored| ≤ bound :=
        FloatFormat.abs_roundRat_le (by decide) hbound (by rwa [abs_of_nonneg hstoredQ])
      exact ⟨_, FloatFormat.overflow_of_lt (hle.trans_lt hmax), FloatFormat.roundRat_nonneg hstoredQ,
        (abs_le.mp hle).2⟩
    obtain ⟨current, hvalue, hcurrentNonneg, hcurrentLe⟩ := hcurrent
    have hsum : ∀ x, UpTo (2 ^ 20 * n) x →
        InIntRange (binary32.round (.fin current + x)) := by
      intro x hx
      apply UpTo.inIntRange
      apply UpTo.round_largestFloat
      have hupTo : UpTo bound (.fin current) :=
        ⟨current, rfl, by rwa [abs_of_nonneg hcurrentNonneg]⟩
      exact (hupTo.add hx).mono hroom
    rw [hvalue]
    by_cases hbelow : ExactFloat.fin current < power
    · rw [if_pos hbelow]
      apply hsum
      apply UpTo.round_binary32 hcount
      apply hadjustment.mul_of_one
      apply UpTo.round_ratio
      obtain ⟨power', hpower', -⟩ := hpower
      rw [hpower', ExactFloat.fin_lt_fin] at hbelow
      have hpos := hcurrentNonneg.trans_lt hbelow
      rw [hpower', ExactFloat.div_def, ExactFloat.div, if_neg hpos.ne']
      refine ⟨_, rfl, ?_⟩
      rw [abs_of_nonneg (div_nonneg hcurrentNonneg hpos.le)]
      exact (div_le_one hpos).mpr hbelow.le
    · rw [if_neg hbelow]
      exact hsum adjustment hadjustment

end HardwareMediatek.Thermal
