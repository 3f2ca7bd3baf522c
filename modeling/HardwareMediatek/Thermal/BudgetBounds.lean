import HardwareMediatek.Foundation.FiniteFloat
import HardwareMediatek.Thermal.Hysteresis
import HardwareMediatek.Thermal.TargetTransient

/-!
# The bounds of the power budget

The parameters of the PID algorithm are complete at every severity that has a set point, and one of these
is the target. The threshold of the target is configured elsewhere, and nothing requires it: without it
the error, the sum of the terms and the budget are not numbers. Otherwise the budget is between the bounds
of the target, whatever the calls before have left.
-/

namespace HardwareMediatek.Thermal

/-! ## What is accepted -/

theorem PidInfo.validCombination_spec {pid : PidInfo} {severities : List ThrottlingSeverity}
    {valid : Bool} (hvalid : pid.validCombination severities valid = true) :
    (∀ severity ∈ severities, (pid.sPower severity).isNaN = false →
      pid.completeAt severity = true) ∧
      (valid = true ∨ ∃ severity ∈ severities, (pid.sPower severity).isNaN = false) := by
  induction severities generalizing valid with
  | nil => exact ⟨fun _ hmem ↦ absurd hmem List.not_mem_nil, Or.inl hvalid⟩
  | cons severity rest ih =>
    unfold PidInfo.validCombination at hvalid
    by_cases hnan : (pid.sPower severity).isNaN = true
    · rw [if_pos hnan] at hvalid
      have hrest := ih hvalid
      apply And.intro
      · rw [List.forall_mem_cons]
        refine ⟨fun hset ↦ ?_, hrest.1⟩
        rw [hset] at hnan
        cases hnan
      · apply hrest.2.imp_right
        rintro ⟨other, hother⟩
        exact ⟨other, List.mem_cons_of_mem _ hother.1, hother.2⟩
    · rw [if_neg hnan] at hvalid
      by_cases hcomplete : pid.completeAt severity = true
      · rw [if_pos hcomplete] at hvalid
        apply And.intro
        · rw [List.forall_mem_cons]
          exact ⟨fun _ ↦ hcomplete, (ih hvalid).1⟩
        · exact Or.inr ⟨severity, List.mem_cons_self, Bool.eq_false_of_not_eq_true hnan⟩
      · rw [if_neg hcomplete] at hvalid
        cases hvalid

/-- A target has a set point if any severity has one. -/
theorem sPower_target (info : ThrottlingInfo) (currSeverity : ThrottlingSeverity)
    (hset : ∃ severity, (info.sPower severity).isNaN = false) :
    (info.sPower (getTargetStateOfPID info currSeverity)).isNaN = false := by
  rw [getTargetStateOfPID_eq]
  apply Or.elim (nextTargetState_cases info.sPower currSeverity ThrottlingSeverity.raised .none)
  · intro hend
    rw [hend.1]
    obtain ⟨severity, hseverity⟩ := hset
    have hunset : severity ∉ ThrottlingSeverity.raised := by
      intro hmem
      rw [hend.2 severity hmem] at hseverity
      cases hseverity
    have hnone : severity = .none := by
      by_contra hne
      apply hunset
      cases severity <;> first | decide | exact absurd rfl hne
    rw [← hnone]
    exact hseverity
  · exact fun hfound ↦ hfound.2

section Accepted

variable {powerLinkDisabled : Bool} {scalingFrequencyMap : ScalingFrequencyMap}
  {coolingDeviceInfoMap : CdevInfoMap} {sensor pidInfo : Json} {info : ThrottlingInfo}
  {supported : Bool}

/-- Every severity with a set point has all parameters, and the target is one. -/
structure CompletePid (info : ThrottlingInfo) : Prop where
  complete : ∀ severity, (info.sPower severity).isNaN = false →
    ∀ parameter ∈ [info.kPo, info.kPu, info.kIo, info.kIu, info.kD, info.iMax, info.maxAllocPower,
      info.minAllocPower, info.iCutoff], (parameter severity).isNaN = false
  target : ∀ currSeverity, (info.sPower (getTargetStateOfPID info currSeverity)).isNaN = false

theorem parsePidInfo_valid {pid : PidInfo} (hpid : parsePidInfo pidInfo = .ok pid) :
    pid.validCombination ThrottlingSeverity.all false = true := by
  unfold parsePidInfo at hpid
  obtain ⟨kPo, -, hpid⟩ := bind_eq_ok.mp hpid
  obtain ⟨kPu, -, hpid⟩ := bind_eq_ok.mp hpid
  obtain ⟨⟨kIo, kIu⟩, -, hpid⟩ := bind_eq_ok.mp hpid
  obtain ⟨kD, -, hpid⟩ := bind_eq_ok.mp hpid
  obtain ⟨iMax, -, hpid⟩ := bind_eq_ok.mp hpid
  obtain ⟨maxAllocPower, -, hpid⟩ := bind_eq_ok.mp hpid
  obtain ⟨minAllocPower, -, hpid⟩ := bind_eq_ok.mp hpid
  obtain ⟨sPower, -, hpid⟩ := bind_eq_ok.mp hpid
  obtain ⟨iCutoff, -, hpid⟩ := bind_eq_ok.mp hpid
  obtain ⟨⟨iDefault, iDefaultPct⟩, -, hpid⟩ := bind_eq_ok.mp hpid
  obtain ⟨value, -, hpid⟩ := bind_eq_ok.mp hpid
  obtain ⟨tranCycle, -, hpid⟩ := bind_eq_ok.mp hpid
  obtain ⟨⟨⟩, hvalid, hpid⟩ := bind_eq_ok.mp hpid
  rw [← Except.ok.inj hpid]
  exact check_eq_ok.mp hvalid

/-- The parameters that are accepted are complete. -/
theorem parseSensorThrottlingInfo_completePid
    (hparsed : parseSensorThrottlingInfo powerLinkDisabled scalingFrequencyMap coolingDeviceInfoMap
      sensor = .ok (info, supported))
    (hpidInfo : sensor.get "PIDInfo" = some pidInfo) (hpid : pidInfo.empty = false) :
    CompletePid info := by
  unfold parseSensorThrottlingInfo at hparsed
  obtain ⟨pidInfo', hread, hparsed⟩ := bind_eq_ok.mp hparsed
  obtain ⟨pid, hpidParsed, hparsed⟩ := bind_eq_ok.mp hparsed
  obtain ⟨values, -, hparsed⟩ := bind_eq_ok.mp hparsed
  obtain ⟨⟨s, completed⟩, -, hparsed⟩ := bind_eq_ok.mp hparsed
  obtain ⟨_, -, hparsed⟩ := bind_eq_ok.mp hparsed
  obtain ⟨profiles, -, hparsed⟩ := bind_eq_ok.mp hparsed
  obtain ⟨profiles', -, hparsed⟩ := bind_eq_ok.mp hparsed
  obtain ⟨⟨profileMap, supportHardLimit⟩, -, hparsed⟩ := bind_eq_ok.mp hparsed
  obtain ⟨excluded, -, hparsed⟩ := bind_eq_ok.mp hparsed
  obtain ⟨excluded', -, hparsed⟩ := bind_eq_ok.mp hparsed
  obtain ⟨excludedPower, -, hparsed⟩ := bind_eq_ok.mp hparsed
  have hinfo := (ok_pair hparsed).1
  rw [hpidInfo] at hread
  have hsame : pidInfo = pidInfo' := Except.ok.inj hread
  rw [parsePid, ← hsame, hpid, if_neg Bool.false_ne_true] at hpidParsed
  have hspec := PidInfo.validCombination_spec (parsePidInfo_valid hpidParsed)
  rw [← hinfo]
  apply CompletePid.mk
  · intro severity hset parameter hparameter
    have hcomplete := hspec.1 severity (ThrottlingSeverity.mem_all severity) hset
    have hall := List.all_eq_true.mp hcomplete parameter hparameter
    rwa [Bool.not_eq_true'] at hall
  · intro currSeverity
    apply sPower_target
    apply Exists.elim (hspec.2.resolve_left Bool.false_ne_true)
    exact fun severity hseverity ↦ ⟨severity, hseverity.2⟩

end Accepted

/-! ## The sum of the terms -/

/-- A number of at most 2^24 in magnitude, which leaves room for products and sums in a `float`. -/
def isModest : ExactFloat → Bool
  | .fin x => decide (|x| ≤ 2 ^ 24)
  | _ => false

theorem isFinite_of_isModest {x : ExactFloat} (hx : isModest x = true) : x.isFinite = true := by
  cases x with
  | fin x => rfl
  | _ => cases hx

/-- The numbers that enter the sum, other than the threshold of the target, are modest, and so are their
numbers: none of their products and sums, which need less than 2^127, overflows a `float`. The threshold
may be missing, and so may the power of an excluded rail. -/
structure RegularTerms (info : ThrottlingInfo) (input : UpdateInput) : Prop where
  temperature : isModest input.temp.value = true
  threshold : (input.sensorInfo.hotThresholds
    (getTargetStateOfPID info input.currSeverity)).isNaN = true ∨
      isModest (input.sensorInfo.hotThresholds (getTargetStateOfPID info input.currSeverity)) = true
  gains : ∀ parameter ∈ [info.sPower, info.kPo, info.kPu, info.kIo, info.kIu, info.kD],
    isModest (parameter (getTargetStateOfPID info input.currSeverity)) = true
  initial : if info.iDefaultPct.isNaN = true then info.iDefault.isNaN = false
    else isModest info.iDefaultPct = true ∧ ∀ pair ∈ info.bindedCdevInfoMap.entries, ∀ cdevInfo,
      input.coolingDeviceInfoMap.lookup pair.1 = some cdevInfo →
        ∀ power ∈ cdevInfo.state2power, isModest power = true
  predictions : ∀ predictor, input.sensorInfo.predictorInfo = some predictor →
    (∀ weight ∈ predictor.predictionWeights, isModest weight = true) ∧
      isModest (predictor.kPCompensate (getTargetStateOfPID info input.currSeverity)) = true ∧
      isModest input.sensorInfo.multiplier = true ∧
      ∀ prediction ∈ input.sensorPredictions, isModest prediction = true
  excluded : ∀ pair ∈ info.excludedPowerInfoMap.entries,
    isModest (pair.2 input.currSeverity) = true ∧ ∀ status,
      input.powerStatusMap.lookup pair.1 = some status →
        status.lastUpdatedAvgPower.isNaN = true ∨ isModest status.lastUpdatedAvgPower = true
  counts : info.bindedCdevInfoMap.entries.length ≤ 2 ^ 20 ∧ input.sensorPredictions.length ≤ 2 ^ 20 ∧
    info.excludedPowerInfoMap.entries.length ≤ 2 ^ 20

section Sum

variable {input : UpdateInput} {info : ThrottlingInfo} {votes : CdevAllRequestMap}

/-- A loop whose rounds keep a sum finite. -/
theorem forEach_isFinite {α : Type} {body : α → ExactFloat → Checked ExactFloat} {xs : List α}
    (hbody : ∀ x ∈ xs, ∀ sum after, sum.isFinite = true → body x sum = .ok after →
      after.isFinite = true)
    {result : ExactFloat} (hresult : forEach body xs 0 = .ok result) : result.isFinite = true := by
  have hloop : Meets (forEach body xs 0) (fun sum ↦ sum.isFinite = true) fun _ ↦ True := by
    apply meets_forEach (I := fun sum : ExactFloat ↦ sum.isFinite = true)
    · intro x hx sum hsum
      exact (meets_self (body x sum)).imp fun after hafter ↦ hbody x hx sum after hsum hafter
    · exact ExactFloat.isFinite_zero
  exact hloop.of_ok hresult

theorem initialIBudget_isNaN (hregular : RegularTerms info input) {iBudget initial : ExactFloat}
    (hinitial : initialIBudget info input.coolingDeviceInfoMap votes iBudget = .ok initial) :
    initial.isNaN = false := by
  have hdefault := hregular.initial
  unfold initialIBudget at hinitial
  by_cases hunset : iBudget.isNaN = true
  · rw [if_pos hunset] at hinitial
    by_cases hpercent : info.iDefaultPct.isNaN = true
    · rw [if_pos hpercent] at hinitial hdefault
      rw [← Except.ok.inj hinitial]
      exact hdefault
    · rw [if_neg hpercent] at hinitial hdefault
      obtain ⟨sum, hsum, hresult⟩ := bind_eq_ok.mp hinitial
      have hfinite : sum.isFinite = true := by
        apply forEach_isFinite _ hsum
        intro pair hpair sum after hsum hafter
        obtain ⟨cdevInfo, hdevice, hafter⟩ := bind_eq_ok.mp hafter
        obtain ⟨found, -, hafter⟩ := bind_eq_ok.mp hafter
        obtain ⟨power, hpower, hafter⟩ := bind_eq_ok.mp hafter
        rw [← Except.ok.inj hafter]
        apply ExactFloat.isFinite_add hsum
        apply isFinite_of_isModest
        apply hdefault.2 pair hpair cdevInfo (atKey_eq_ok.mp hdevice)
        exact List.mem_of_getElem? (atIndex_eq_ok.mp hpower).2
      rw [← Except.ok.inj hresult]
      apply ExactFloat.isNaN_of_isFinite
      apply ExactFloat.isFinite_div _ (by norm_num)
      exact ExactFloat.isFinite_mul hfinite (isFinite_of_isModest hdefault.1)
  · rw [if_neg hunset] at hinitial
    rw [← Except.ok.inj hinitial]
    exact Bool.eq_false_of_not_eq_true hunset

theorem updateIBudget_isNaN {err iBudget : ExactFloat} {targetState : ThrottlingSeverity}
    (prevPowerBudget : ExactFloat) (isFullyRelease isFullyThrottle : Bool)
    (herr : err.isFinite = true) (hkIo : (info.kIo targetState).isFinite = true)
    (hkIu : (info.kIu targetState).isFinite = true) (hiMax : (info.iMax targetState).isNaN = false)
    (hiBudget : iBudget.isNaN = false) :
    (updateIBudget info prevPowerBudget targetState err isFullyRelease isFullyThrottle iBudget).isNaN =
      false := by
  have hover : (iBudget + err * info.kIo targetState).isNaN = false := by
    rw [ExactFloat.isNaN_add_finite (ExactFloat.isFinite_mul herr hkIo), hiBudget]
  have hunder : (iBudget + err * info.kIu targetState).isNaN = false := by
    rw [ExactFloat.isNaN_add_finite (ExactFloat.isFinite_mul herr hkIu), hiBudget]
  have hcut : ∀ accumulated : ExactFloat, accumulated.isNaN = false →
      (if info.iMax targetState < accumulated.fabs then
        info.iMax targetState * (if 0 < accumulated then 1 else -1) else accumulated).isNaN = false := by
    intro accumulated haccumulated
    split
    · split
      · exact ExactFloat.isNaN_mul_fin hiMax one_ne_zero
      · exact ExactFloat.isNaN_mul_fin hiMax (neg_ne_zero.mpr one_ne_zero)
    · exact haccumulated
  unfold updateIBudget
  apply hcut
  split
  · split
    · exact hover
    · split
      · exact hunder
      · exact hiBudget
  · exact hiBudget

theorem computeDBudget_isFinite {targetState : ThrottlingSeverity} {err prevErr : ExactFloat}
    (timeElapsedMs : ℤ) (hkD : (info.kD targetState).isFinite = true) (herr : err.isFinite = true)
    (hprevErr : prevErr.isNaN = true ∨ prevErr.isFinite = true) :
    (computeDBudget info targetState err prevErr timeElapsedMs).isFinite = true := by
  unfold computeDBudget
  split
  · rename_i hused
    rw [Bool.and_eq_true, Bool.not_eq_true', decide_eq_true_eq] at hused
    have hprev := hprevErr.resolve_left (by rw [hused.1]; exact Bool.false_ne_true)
    apply ExactFloat.isFinite_div _ (Int.cast_ne_zero.mpr hused.2)
    exact ExactFloat.isFinite_mul hkD (ExactFloat.isFinite_sub herr hprev)
  · exact ExactFloat.isFinite_zero

theorem computeCompensation_isFinite (hregular : RegularTerms info input) {target : ExactFloat}
    (htarget : target.isFinite = true) {compensation : ExactFloat}
    (hcompensation : computeCompensation input (getTargetStateOfPID info input.currSeverity) target =
      .ok compensation) : compensation.isFinite = true := by
  unfold computeCompensation at hcompensation
  cases hpredictor : input.sensorInfo.predictorInfo with
  | none =>
    rw [hpredictor] at hcompensation
    rw [← Except.ok.inj hcompensation]
    exact ExactFloat.isFinite_zero
  | some predictor =>
    rw [hpredictor] at hcompensation
    dsimp only at hcompensation
    have hpredictions := hregular.predictions predictor hpredictor
    split at hcompensation
    · obtain ⟨sum, hsum, hresult⟩ := bind_eq_ok.mp hcompensation
      have hfinite : sum.isFinite = true := by
        apply forEach_isFinite _ hsum
        intro indexed hindexed sum after hsum hafter
        obtain ⟨weight, hweight, hafter⟩ := bind_eq_ok.mp hafter
        rw [← Except.ok.inj hafter]
        have hprediction := hpredictions.2.2.2 indexed.1
          (List.mem_of_getElem? (List.mem_zipIdx_iff_getElem?.mp hindexed))
        apply ExactFloat.isFinite_add hsum
        apply ExactFloat.isFinite_mul
        · exact isFinite_of_isModest
            (hpredictions.1 weight (List.mem_of_getElem? (atIndex_eq_ok.mp hweight).2))
        · exact ExactFloat.isFinite_sub htarget (ExactFloat.isFinite_mul
            (isFinite_of_isModest hprediction) (isFinite_of_isModest hpredictions.2.2.1))
      rw [← Except.ok.inj hresult]
      exact ExactFloat.isFinite_mul hfinite (isFinite_of_isModest hpredictions.2.1)
    · rw [← Except.ok.inj hcompensation]
      exact ExactFloat.isFinite_zero

theorem computeExcludedPower_isFinite (hregular : RegularTerms info input) {excludedPower : ExactFloat}
    (hexcluded : computeExcludedPower info input.currSeverity input.powerStatusMap =
      .ok excludedPower) : excludedPower.isFinite = true := by
  apply forEach_isFinite _ hexcluded
  intro pair hpair sum after hsum hafter
  obtain ⟨status, hstatus, hafter⟩ := bind_eq_ok.mp hafter
  have hpower := (hregular.excluded pair hpair).2 status (atKey_eq_ok.mp hstatus)
  split at hafter
  · rw [← Except.ok.inj hafter]
    exact hsum
  · rename_i hnan
    rw [← Except.ok.inj hafter]
    apply ExactFloat.isFinite_add hsum
    exact ExactFloat.isFinite_mul (isFinite_of_isModest (hpower.resolve_left hnan))
      (isFinite_of_isModest (hregular.excluded pair hpair).1)

/-- The sum is a number exactly when the threshold of the target is one. -/
theorem sumTerms_isNaN (hcomplete : CompletePid info) (hregular : RegularTerms info input)
    {isFullyRelease isFullyThrottle : Bool} {pid : PidTerms} {sum : ExactFloat × PidTerms}
    (hprevErr : pid.prevErr.isNaN = true ∨ pid.prevErr.isFinite = true)
    (hsum : sumTerms input info votes (getTargetStateOfPID info input.currSeverity) isFullyRelease
      isFullyThrottle (targetError info input) pid = .ok sum) :
    sum.1.isNaN =
      (input.sensorInfo.hotThresholds (getTargetStateOfPID info input.currSeverity)).isNaN := by
  unfold sumTerms at hsum
  obtain ⟨initial, hinitial, hsum⟩ := bind_eq_ok.mp hsum
  obtain ⟨compensation, hcompensation, hsum⟩ := bind_eq_ok.mp hsum
  obtain ⟨excludepower, hexcluded, hsum⟩ := bind_eq_ok.mp hsum
  have hvalue := congrArg (fun terms ↦ terms.1.isNaN) (Except.ok.inj hsum)
  rw [← hvalue]
  have hgain : ∀ parameter ∈ [info.sPower, info.kPo, info.kPu, info.kIo, info.kIu, info.kD],
      (parameter (getTargetStateOfPID info input.currSeverity)).isFinite = true :=
    fun parameter hparameter ↦ isFinite_of_isModest (hregular.gains parameter hparameter)
  rcases hregular.threshold with hmissing | hmodest
  · have herr : targetError info input = .nan := by
      rw [targetError, ExactFloat.eq_nan_iff.mp hmissing, ExactFloat.nan_sub]
    dsimp only
    rw [herr, ExactFloat.nan_mul, ExactFloat.add_nan, ExactFloat.nan_add, ExactFloat.nan_add,
      ExactFloat.nan_add, ExactFloat.nan_sub, hmissing]
    rfl
  · have hset := isFinite_of_isModest hmodest
    have herr : (targetError info input).isFinite = true :=
      ExactFloat.isFinite_sub hset (isFinite_of_isModest hregular.temperature)
    have hparameters := hcomplete.complete _ (hcomplete.target input.currSeverity)
    have hintegral := updateIBudget_isNaN pid.prevPowerBudget isFullyRelease isFullyThrottle herr
      (hgain info.kIo (by simp)) (hgain info.kIu (by simp)) (hparameters info.iMax (by simp))
      (initialIBudget_isNaN hregular hinitial)
    have hproportional : (targetError info input * (if targetError info input < 0 then
        info.kPo (getTargetStateOfPID info input.currSeverity) else
        info.kPu (getTargetStateOfPID info input.currSeverity))).isFinite = true := by
      apply ExactFloat.isFinite_mul herr
      split
      · exact hgain info.kPo (by simp)
      · exact hgain info.kPu (by simp)
    dsimp only
    rw [ExactFloat.isNaN_sub_finite (computeExcludedPower_isFinite hregular hexcluded),
      ExactFloat.isNaN_add_finite (computeCompensation_isFinite hregular hset hcompensation),
      ExactFloat.isNaN_add_finite
        (computeDBudget_isFinite _ (hgain info.kD (by simp)) herr hprevErr),
      ExactFloat.isNaN_finite_add
        (ExactFloat.isFinite_add (hgain info.sPower (by simp)) hproportional),
      hintegral, ExactFloat.isNaN_of_isFinite hset]

end Sum

/-! ## Runs -/

/-- A budget is between the bounds of the target. -/
def BetweenBounds (info : ThrottlingInfo) (call : BudgetCall) : Prop :=
  info.minAllocPower (getTargetStateOfPID info call.input.currSeverity) ≤ call.returned ∧
    call.returned ≤ info.maxAllocPower (getTargetStateOfPID info call.input.currSeverity)

/-- No transient is added, and the last error is finite if there is one. -/
structure RegularPid (pid : PidTerms) : Prop where
  cycle : pid.tranCycle = 0
  err : pid.prevErr.isNaN = true ∨ pid.prevErr.isFinite = true

theorem RegularPid.notice {pid : PidTerms} (h : RegularPid pid) (targetState : ThrottlingSeverity) :
    RegularPid { pid with prevTarget := targetState } := ⟨h.cycle, h.err⟩

theorem updateTarget_of_zero {info : ThrottlingInfo} (htran : info.tranCycle = 0)
    (targetState : ThrottlingSeverity) (pid : PidTerms) :
    updateTarget info targetState pid = ({ pid with prevTarget := targetState }, false) := by
  rw [updateTarget, if_neg]
  rintro ⟨-, -, hpos⟩
  exact absurd htran hpos.ne'

section Bounds

variable {input : UpdateInput} {info : ThrottlingInfo} {votes : CdevAllRequestMap}
  {status : ThermalThrottlingStatus} {call : BudgetCall} {after : PidTerms}

/-- A forced budget is the lower bound, and there is an error to force it. -/
theorem callBudget_between_forced (hcomplete : CompletePid info)
    (hle : ∀ severity, (info.sPower severity).isNaN = false →
      info.minAllocPower severity ≤ info.maxAllocPower severity)
    (htran : info.tranCycle = 0) (hraised : input.currSeverity ≠ .none) (hpid : RegularPid status.pid)
    (hearly : ReturnsEarly info input)
    (hcall : callBudget input info votes status = .ok (call, after)) :
    (BetweenBounds info call ↔ (input.sensorInfo.hotThresholds
      (getTargetStateOfPID info input.currSeverity)).isNaN = false) ∧ RegularPid after := by
  have hresult := callBudget_of_forced hraised hearly hcall
  have hset := hcomplete.target input.currSeverity
  have hlow := hcomplete.complete _ hset info.minAllocPower (by simp)
  apply And.intro
  · apply iff_of_true
    · rw [BetweenBounds, hresult.1]
      exact ⟨Or.inr ⟨rfl, hlow⟩, hle _ hset⟩
    · by_contra hmissing
      have hforced := (hearly.resolve_left hraised).2
      rw [targetError, ExactFloat.eq_nan_iff.mp (Bool.eq_true_of_not_eq_false hmissing),
        ExactFloat.nan_sub] at hforced
      apply Or.elim hforced
      · exact ExactFloat.not_nan_lt 0
      · intro hsame
        cases hsame.2
  · rw [hresult.2, updateTarget_of_zero htran]
    exact hpid.notice _

theorem callBudget_between_computed (hcomplete : CompletePid info)
    (hle : ∀ severity, (info.sPower severity).isNaN = false →
      info.minAllocPower severity ≤ info.maxAllocPower severity)
    (htran : info.tranCycle = 0) (hregular : RegularTerms info input) (hpid : RegularPid status.pid)
    (hearly : ¬ ReturnsEarly info input)
    (hcall : callBudget input info votes status = .ok (call, after)) :
    (BetweenBounds info call ↔ (input.sensorInfo.hotThresholds
      (getTargetStateOfPID info input.currSeverity)).isNaN = false) ∧ RegularPid after := by
  obtain ⟨isFullyRelease, isFullyThrottle, sum, hsum, hlast, hafter⟩ :=
    callBudget_of_computed hearly hcall
  have hset := hcomplete.target input.currSeverity
  rw [updateTarget_of_zero htran] at hsum hlast hafter
  dsimp only at hsum hlast hafter
  have hnoticed := hpid.notice (getTargetStateOfPID info input.currSeverity)
  have hnan := sumTerms_isNaN hcomplete hregular hnoticed.err hsum
  obtain ⟨iBudget, hterms⟩ := sumTerms_keeps hsum
  have hcycle : sum.2.tranCycle = 0 := by
    rw [hterms]
    exact hpid.cycle
  rw [settleBudget_eq, hcycle] at hlast hafter
  apply And.intro
  · rw [BetweenBounds, hlast, ← hnan]
    exact ExactFloat.clamp_between_iff (hle _ hset)
  · rw [hafter]
    apply RegularPid.mk rfl
    rw [hterms]
    apply hregular.threshold.imp
    · intro hmissing
      change (targetError info input).isNaN = true
      rw [targetError, ExactFloat.eq_nan_iff.mp hmissing, ExactFloat.nan_sub]
      rfl
    · exact fun hthreshold ↦ ExactFloat.isFinite_sub (isFinite_of_isModest hthreshold)
        (isFinite_of_isModest hregular.temperature)

end Bounds

/-- Every budget of a run is between the bounds of its target if and only if that target has a
threshold. -/
theorem powerBudget_between_iff {powerLinkDisabled : Bool} {scalingFrequencyMap : ScalingFrequencyMap}
    {coolingDeviceInfoMap : CdevInfoMap} {sensor pidInfo : Json} {info : ThrottlingInfo}
    {supported : Bool} {calls : List BudgetCall} {pid : PidTerms}
    (hparsed : parseSensorThrottlingInfo powerLinkDisabled scalingFrequencyMap coolingDeviceInfoMap
      sensor = .ok (info, supported))
    (hpidInfo : sensor.get "PIDInfo" = some pidInfo) (hpid : pidInfo.empty = false)
    (hle : ∀ severity, (info.sPower severity).isNaN = false →
      info.minAllocPower severity ≤ info.maxAllocPower severity)
    (htran : info.tranCycle = 0) (hrun : BudgetRun info calls pid)
    (hcalls : ∀ call ∈ calls, call.input.currSeverity ≠ .none ∧ RegularTerms info call.input) :
    ∀ call ∈ calls, BetweenBounds info call ↔ (call.input.sensorInfo.hotThresholds
      (getTargetStateOfPID info call.input.currSeverity)).isNaN = false := by
  have hcomplete := parseSensorThrottlingInfo_completePid hparsed hpidInfo hpid
  have hboth : (∀ call ∈ calls, BetweenBounds info call ↔ (call.input.sensorInfo.hotThresholds
      (getTargetStateOfPID info call.input.currSeverity)).isNaN = false) ∧ RegularPid pid := by
    induction hrun with
    | start pid herr htarget hcycle =>
      refine ⟨fun _ hmem ↦ absurd hmem List.not_mem_nil, RegularPid.mk hcycle (Or.inl ?_)⟩
      rw [herr]
      rfl
    | @call calls pid after call hrun input votes status hcall ih =>
      have hbefore := ih fun previous hprevious ↦ hcalls previous (List.mem_cons_of_mem _ hprevious)
      have hlast := hcalls call List.mem_cons_self
      have hinput := callBudget_input hcall
      rw [hinput] at hlast
      have hstep : (BetweenBounds info call ↔ (input.sensorInfo.hotThresholds
          (getTargetStateOfPID info input.currSeverity)).isNaN = false) ∧ RegularPid after := by
        by_cases hearly : ReturnsEarly info input
        · exact callBudget_between_forced hcomplete hle htran hlast.1 hbefore.2 hearly hcall
        · exact callBudget_between_computed hcomplete hle htran hlast.2 hbefore.2 hearly hcall
      refine ⟨?_, hstep.2⟩
      rw [List.forall_mem_cons, hinput]
      exact ⟨hstep.1, hbefore.1⟩
  exact hboth.1

/-! ## A severity without a threshold -/

def uniformArray (n : ℤ) : Json := .arr (List.replicate kThrottlingSeverityCount (.int n))

/-- A sensor whose critical severity has all PID parameters but no threshold. -/
def gappedSensor : Json :=
  .obj [
    ("HotThreshold", .arr [.str "NAN", .int 40, .int 50, .int 60, .str "NAN", .int 80, .int 90]),
    ("PIDInfo", .obj [("K_Po", uniformArray 0), ("K_Pu", uniformArray 0), ("K_I", uniformArray 0),
      ("K_D", uniformArray 0), ("I_Max", uniformArray 0), ("MaxAllocPower", uniformArray 2000),
      ("MinAllocPower", uniformArray 1000), ("S_Power", uniformArray 1500),
      ("I_Cutoff", uniformArray 0), ("TranCycle", .int 0)])]

def gappedParsed : ThrottlingInfo × Bool :=
  (parseSensorThrottlingInfo false ∅ ∅ gappedSensor).toOption.getD default

def gappedThresholds : SensorThresholds :=
  (parseSensorThresholds gappedSensor).toOption.getD
    ⟨unsetArray, unsetArray, unsetArray, unsetArray⟩

theorem eq_ok_getD {ε α : Type} {r : Except ε α} (hsome : r.toOption.isSome = true) (default : α) :
    r = .ok (r.toOption.getD default) := by
  cases r with
  | error failure => cases hsome
  | ok x => rfl

/-- The parsers accept the sensor, and its bounds are in their order. -/
theorem gappedSensor_accepted :
    (parseSensorThrottlingInfo false ∅ ∅ gappedSensor).toOption.isSome = true ∧
      (parseSensorThresholds gappedSensor).toOption.isSome = true ∧
      (∀ severity ∈ ThrottlingSeverity.all,
        gappedParsed.1.minAllocPower severity ≤ gappedParsed.1.maxAllocPower severity) ∧
      gappedParsed.1.excludedPowerInfoMap.entries.length = 0 := by
  decide +kernel

theorem gappedSensor_parsed :
    parseSensorThrottlingInfo false ∅ ∅ gappedSensor = .ok (gappedParsed.1, gappedParsed.2) :=
  eq_ok_getD gappedSensor_accepted.1 default

theorem gappedSensor_thresholds : parseSensorThresholds gappedSensor = .ok gappedThresholds :=
  eq_ok_getD gappedSensor_accepted.2.1 _

theorem gappedInfo_bounds (severity : ThrottlingSeverity) :
    gappedParsed.1.minAllocPower severity ≤ gappedParsed.1.maxAllocPower severity :=
  gappedSensor_accepted.2.2.1 severity (ThrottlingSeverity.mem_all severity)

def gappedInput (currSeverity : ThrottlingSeverity) : UpdateInput :=
  { steppedInput currSeverity with
    sensorInfo := (default : SensorInfo).withThresholds gappedThresholds }

/-- The first call of the sensor. -/
def gappedCall (currSeverity : ThrottlingSeverity) : Option (List BudgetCall × PidTerms) :=
  (runBudgets gappedParsed.1 ∅ initialStatus [gappedInput currSeverity]).toOption

theorem gappedCall_run {currSeverity : ThrottlingSeverity} {budget : ExactFloat}
    (hbudget : (gappedCall currSeverity).map (fun result ↦
      result.1.map fun call ↦ call.returned) = some [budget]) : ∃ call pid,
    BudgetRun gappedParsed.1 [call] pid ∧ call.input = gappedInput currSeverity ∧
      call.returned = budget := by
  obtain ⟨⟨calls, pid⟩, hresult, hreturned⟩ := Option.map_eq_some_iff.mp hbudget
  have hok := toOption_eq_some hresult
  have hrun := budgetRun_of_runBudgets (BudgetRun.registered gappedParsed.1) hok
  obtain ⟨earlier, hearlier, hok⟩ := bind_eq_ok.mp hok
  obtain ⟨⟨call, after⟩, hcall, hok⟩ := bind_eq_ok.mp hok
  have hlast := (ok_pair hok).1
  rw [← Except.ok.inj hearlier] at hlast
  rw [← hlast] at hrun hreturned
  exact ⟨call, pid, hrun, callBudget_input hcall, (List.cons.inj hreturned).1⟩

theorem gappedInput_regular : RegularTerms gappedParsed.1 (gappedInput .light) := by
  apply RegularTerms.mk (by decide +kernel) (Or.inr (by decide +kernel))
  · decide +kernel
  · decide +kernel
  · intro predictor hpredictor
    cases hpredictor
  · intro pair hpair
    rw [List.length_eq_zero_iff.mp gappedSensor_accepted.2.2.2] at hpair
    exact absurd hpair List.not_mem_nil
  · decide +kernel

/-- At the light severity the target is the moderate one, and the budget is within its bounds. -/
theorem gappedSensor_between : ∃ call pid,
    BudgetRun gappedParsed.1 [call] pid ∧ call.input = gappedInput .light ∧
      BetweenBounds gappedParsed.1 call := by
  have hvalue : (gappedCall .light).map (fun result ↦ result.1.map fun call ↦ call.returned) =
      some [.fin 1500] := by decide +kernel
  obtain ⟨call, pid, hrun, hinput, -⟩ := gappedCall_run hvalue
  refine ⟨call, pid, hrun, hinput, ?_⟩
  apply (powerBudget_between_iff gappedSensor_parsed rfl rfl
    (fun severity _ ↦ gappedInfo_bounds severity) (by decide +kernel) hrun _ call
    List.mem_cons_self).mpr
  · rw [hinput]
    decide +kernel
  · intro call' hcall'
    rw [List.mem_singleton.mp hcall', hinput]
    exact ⟨ThrottlingSeverity.noConfusion, gappedInput_regular⟩

/-- At the severe one the target is the critical one, and the budget is not a number. -/
theorem gappedSensor_nan :
    ¬ ∀ (powerLinkDisabled : Bool) (scalingFrequencyMap : ScalingFrequencyMap)
      (coolingDeviceInfoMap : CdevInfoMap) (sensor pidInfo : Json) (info : ThrottlingInfo)
      (supported : Bool) (accepted : SensorThresholds) (calls : List BudgetCall) (pid : PidTerms),
      parseSensorThrottlingInfo powerLinkDisabled scalingFrequencyMap coolingDeviceInfoMap sensor =
          .ok (info, supported) →
        sensor.get "PIDInfo" = some pidInfo → pidInfo.empty = false →
        parseSensorThresholds sensor = .ok accepted →
        (∀ severity, (info.sPower severity).isNaN = false →
          info.minAllocPower severity ≤ info.maxAllocPower severity) →
        info.tranCycle = 0 → BudgetRun info calls pid →
        (∀ call ∈ calls, call.input.currSeverity ≠ .none ∧ call.input.temp.value.isFinite = true ∧
          call.input.sensorInfo.hotThresholds = accepted.hotThresholds) →
        ∀ call ∈ calls, BetweenBounds info call := by
  intro hbetween
  have hvalue : (gappedCall .severe).map (fun result ↦ result.1.map fun call ↦ call.returned) =
      some [.nan] := by decide +kernel
  obtain ⟨call, pid, hrun, hinput, hreturned⟩ := gappedCall_run hvalue
  have hcalls : ∀ call' ∈ [call], call'.input.currSeverity ≠ .none ∧
      call'.input.temp.value.isFinite = true ∧
        call'.input.sensorInfo.hotThresholds = gappedThresholds.hotThresholds := by
    intro call' hcall'
    rw [List.mem_singleton.mp hcall', hinput]
    exact ⟨ThrottlingSeverity.noConfusion, rfl, rfl⟩
  have hbounds := hbetween _ _ _ _ _ _ _ _ _ _ gappedSensor_parsed rfl rfl gappedSensor_thresholds
    (fun severity _ ↦ gappedInfo_bounds severity) (by decide +kernel) hrun hcalls call
    List.mem_cons_self
  rw [BetweenBounds, hreturned] at hbounds
  apply Or.elim hbounds.2
  · exact ExactFloat.not_nan_lt _
  · intro hsame
    cases hsame.2

end HardwareMediatek.Thermal
