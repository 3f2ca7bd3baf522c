import HardwareMediatek.Thermal.Episodes

/-!
# The transient after a change of the target

A change of the target makes the computed budget jump. The jump is taken back at the change and then
given up in equal steps, one for each call, so that the budget reaches the computed one after the
configured number of calls. A call that returns early, because it has nothing to budget or because it
forces the smallest budget, takes part in the counting of the steps but not in the rest.
-/

namespace HardwareMediatek.Thermal

/-! ## The target -/

/-- The search ends at a severity with a set point, or where it started when there is none. -/
theorem nextTargetState_cases (sPower : ThrottlingArray) (currSeverity : ThrottlingSeverity)
    (severities : List ThrottlingSeverity) (targetState : ThrottlingSeverity) :
    nextTargetState sPower currSeverity severities targetState = targetState ∧
        (∀ severity ∈ severities, (sPower severity).isNaN = true) ∨
      nextTargetState sPower currSeverity severities targetState ∈ severities ∧
        (sPower (nextTargetState sPower currSeverity severities targetState)).isNaN = false := by
  induction severities generalizing targetState with
  | nil => exact Or.inl ⟨rfl, fun _ hmem ↦ absurd hmem List.not_mem_nil⟩
  | cons severity rest ih =>
    unfold nextTargetState
    by_cases hnan : (sPower severity).isNaN = true
    · rw [if_pos hnan]
      apply (ih targetState).imp
      · exact fun hend ↦ ⟨hend.1, List.forall_mem_cons.mpr ⟨hnan, hend.2⟩⟩
      · exact fun hfound ↦ ⟨List.mem_cons_of_mem _ hfound.1, hfound.2⟩
    · rw [if_neg hnan]
      have hset := Bool.eq_false_of_not_eq_true hnan
      by_cases hbelow : currSeverity < severity
      · rw [if_pos hbelow]
        exact Or.inr ⟨List.mem_cons_self, hset⟩
      · rw [if_neg hbelow]
        apply Or.inr
        apply Or.elim (ih severity)
        · intro hend
          rw [hend.1]
          exact ⟨List.mem_cons_self, hset⟩
        · exact fun hfound ↦ ⟨List.mem_cons_of_mem _ hfound.1, hfound.2⟩

/-- The severities above the lowest one. -/
def ThrottlingSeverity.raised : List ThrottlingSeverity :=
  [light, moderate, severe, critical, emergency, shutdown]

theorem getTargetStateOfPID_eq (info : ThrottlingInfo) (currSeverity : ThrottlingSeverity) :
    getTargetStateOfPID info currSeverity =
      nextTargetState info.sPower currSeverity ThrottlingSeverity.raised .none := by
  change nextTargetState _ _ (.none :: ThrottlingSeverity.raised) _ = _
  rw [nextTargetState, if_neg (not_lt.mpr (ThrottlingSeverity.none_le currSeverity)), ite_self]

/-- The target is the lowest severity for every current severity or for none. -/
theorem getTargetStateOfPID_eq_none_iff (info : ThrottlingInfo) (currSeverity : ThrottlingSeverity) :
    getTargetStateOfPID info currSeverity = .none ↔
      ∀ severity ∈ ThrottlingSeverity.raised, (info.sPower severity).isNaN = true := by
  rw [getTargetStateOfPID_eq]
  apply Or.elim (nextTargetState_cases info.sPower currSeverity ThrottlingSeverity.raised .none)
  · exact fun hend ↦ iff_of_true hend.1 hend.2
  · intro hfound
    apply iff_of_false
    · intro hnone
      rw [hnone] at hfound
      exact absurd hfound.1 (by decide)
    · intro hunset
      rw [hunset _ hfound.1] at hfound
      cases hfound.2

/-! ## Calls -/

theorem sumTerms_keeps {input : UpdateInput} {info : ThrottlingInfo} {votes : CdevAllRequestMap}
    {targetState : ThrottlingSeverity} {isFullyRelease isFullyThrottle : Bool} {err : ExactFloat}
    {pid : PidTerms} {sum : ExactFloat × PidTerms}
    (hsum : sumTerms input info votes targetState isFullyRelease isFullyThrottle err pid = .ok sum) :
    ∃ iBudget, sum.2 = { pid with iBudget := iBudget, prevErr := err } := by
  unfold sumTerms at hsum
  obtain ⟨iBudget, -, hsum⟩ := bind_eq_ok.mp hsum
  obtain ⟨compensation, -, hsum⟩ := bind_eq_ok.mp hsum
  obtain ⟨excludepower, -, hsum⟩ := bind_eq_ok.mp hsum
  exact ⟨_, (congrArg Prod.snd (Except.ok.inj hsum)).symm⟩

/-- The difference between the threshold of the target and the temperature. -/
def targetError (info : ThrottlingInfo) (input : UpdateInput) : ExactFloat :=
  input.sensorInfo.hotThresholds (getTargetStateOfPID info input.currSeverity) - input.temp.value

/-- The two early returns of `updatePowerBudget`. -/
def ReturnsEarly (info : ThrottlingInfo) (input : UpdateInput) : Prop :=
  input.currSeverity = .none ∨ input.maxThrottling = true ∧ targetError info input ≤ 0

instance (info : ThrottlingInfo) (input : UpdateInput) : Decidable (ReturnsEarly info input) :=
  inferInstanceAs (Decidable (_ ∨ _))

/-- The clamped budget of a call, before a transient is added; there is none when the call returns
early. -/
def clampedBudget (input : UpdateInput) (info : ThrottlingInfo) (votes : CdevAllRequestMap)
    (status : ThermalThrottlingStatus) : Checked (Option ExactFloat) :=
  if ReturnsEarly info input then .ok none
  else do
    let (isFullyRelease, isFullyThrottle) ← forEach (checkThrottleStatus status input.currSeverity)
      (selectBindings info status.profile).entries (true, true)
    let targetState := getTargetStateOfPID info input.currSeverity
    let (pid, _) := updateTarget info targetState status.pid
    let sum ← sumTerms input info votes targetState isFullyRelease isFullyThrottle
      (targetError info input) pid
    pure (some (sum.1.clamp (info.minAllocPower targetState) (info.maxAllocPower targetState)))

/-- A call of `updatePowerBudget`, with the clamped budget that it computes and the one it returns. -/
structure BudgetCall where
  input : UpdateInput
  clamped : Option ExactFloat
  returned : ExactFloat

/-- Make a call and write it down. -/
def callBudget (input : UpdateInput) (info : ThrottlingInfo) (votes : CdevAllRequestMap)
    (status : ThermalThrottlingStatus) : Checked (BudgetCall × PidTerms) := do
  let clamped ← clampedBudget input info votes status
  let (returned, pid) ← updatePowerBudget input info votes status
  pure (⟨input, clamped, returned⟩, pid)

section Call

variable {input : UpdateInput} {info : ThrottlingInfo} {votes : CdevAllRequestMap}
  {status : ThermalThrottlingStatus} {call : BudgetCall} {after : PidTerms}

theorem callBudget_of_none (hnone : input.currSeverity = .none)
    (hcall : callBudget input info votes status = .ok (call, after)) :
    call = ⟨input, none, floatMax⟩ ∧ after = status.pid := by
  have hearly : ReturnsEarly info input := Or.inl hnone
  rw [callBudget, clampedBudget, if_pos hearly, updatePowerBudget, if_pos hnone] at hcall
  have hboth := ok_pair hcall
  exact ⟨hboth.1.symm, hboth.2.symm⟩

/-- A forced call only takes notice of its target. -/
theorem callBudget_of_forced (hraised : input.currSeverity ≠ .none) (hearly : ReturnsEarly info input)
    (hcall : callBudget input info votes status = .ok (call, after)) :
    call = ⟨input, none, info.minAllocPower (getTargetStateOfPID info input.currSeverity)⟩ ∧
      after = (updateTarget info (getTargetStateOfPID info input.currSeverity) status.pid).1 := by
  have hforced := hearly.resolve_left hraised
  rw [callBudget, clampedBudget, if_pos hearly, updatePowerBudget, if_neg hraised] at hcall
  obtain ⟨clamped, hclamped, hcall⟩ := bind_eq_ok.mp hcall
  obtain ⟨result, hresult, hcall⟩ := bind_eq_ok.mp hcall
  obtain ⟨flags, -, hresult⟩ := bind_eq_ok.mp hresult
  have hearlyResult := (if_pos hforced).symm.trans hresult
  have hboth := ok_pair hcall
  rw [← Except.ok.inj hearlyResult, ← Except.ok.inj hclamped] at hboth
  exact ⟨hboth.1.symm, hboth.2.symm⟩

/-- Any other call settles the sum of its terms. -/
theorem callBudget_of_computed (hearly : ¬ ReturnsEarly info input)
    (hcall : callBudget input info votes status = .ok (call, after)) :
    ∃ (isFullyRelease isFullyThrottle : Bool) (sum : ExactFloat × PidTerms),
    let targetState := getTargetStateOfPID info input.currSeverity
    let noticed := updateTarget info targetState status.pid
    let settled := settleBudget info targetState noticed.2 sum.1 sum.2
    sumTerms input info votes targetState isFullyRelease isFullyThrottle (targetError info input)
        noticed.1 = .ok sum ∧
      call = ⟨input,
        some (sum.1.clamp (info.minAllocPower targetState) (info.maxAllocPower targetState)),
        settled.1⟩ ∧
      after = settled.2 := by
  have hraised : input.currSeverity ≠ .none := fun hnone ↦ hearly (Or.inl hnone)
  have hfree : ¬ (input.maxThrottling = true ∧ targetError info input ≤ 0) :=
    fun hforced ↦ hearly (Or.inr hforced)
  rw [callBudget, clampedBudget, if_neg hearly, updatePowerBudget, if_neg hraised] at hcall
  obtain ⟨clamped, hclamped, hcall⟩ := bind_eq_ok.mp hcall
  obtain ⟨result, hresult, hcall⟩ := bind_eq_ok.mp hcall
  obtain ⟨flags, hflags, hclamped⟩ := bind_eq_ok.mp hclamped
  obtain ⟨sum, hsum, hclamped⟩ := bind_eq_ok.mp hclamped
  rw [hflags] at hresult
  have hcomputed := (if_neg hfree).symm.trans hresult
  unfold computePowerBudget at hcomputed
  obtain ⟨sum', hsum', hsettled⟩ := bind_eq_ok.mp hcomputed
  have hsame : sum = sum' := Except.ok.inj (hsum.symm.trans hsum')
  rw [← hsame] at hsettled
  have hboth := ok_pair hcall
  have hclampedValue := Except.ok.inj hclamped
  have hsettledValue := Except.ok.inj hsettled
  rw [← hclampedValue, ← hsettledValue] at hboth
  exact ⟨flags.1, flags.2, sum, hsum, hboth.1.symm, hboth.2.symm⟩

theorem callBudget_input (hcall : callBudget input info votes status = .ok (call, after)) :
    call.input = input := by
  obtain ⟨clamped, -, hcall⟩ := bind_eq_ok.mp hcall
  obtain ⟨result, -, hcall⟩ := bind_eq_ok.mp hcall
  exact congrArg (fun last ↦ last.1.input) (Except.ok.inj hcall).symm

end Call

/-! ## Runs -/

/-- The target of a call; a call at the lowest severity has none. -/
def BudgetCall.target (info : ThrottlingInfo) (call : BudgetCall) : Option ThrottlingSeverity :=
  if call.input.currSeverity = .none then none
  else some (getTargetStateOfPID info call.input.currSeverity)

/-- The target of the latest call that has one. Calls are listed from the latest to the first. -/
def lastTarget (info : ThrottlingInfo) : List BudgetCall → Option ThrottlingSeverity
  | [] => none
  | call :: before => (call.target info).or (lastTarget info before)

/-- A call changes the target of the calls before it. -/
def ChangesTarget (info : ThrottlingInfo) (call : BudgetCall) (before : List BudgetCall) : Prop :=
  (call.target info).isSome ∧ (lastTarget info before).isSome ∧
    call.target info ≠ lastTarget info before

instance (info : ThrottlingInfo) (call : BudgetCall) (before : List BudgetCall) :
    Decidable (ChangesTarget info call before) := inferInstanceAs (Decidable (_ ∧ _))

/-- The number of calls since the latest change of the target. -/
def callsSinceChange (info : ThrottlingInfo) : List BudgetCall → Option ℕ
  | [] => none
  | call :: before =>
    if ChangesTarget info call before then some 0
    else (callsSinceChange info before).map (· + 1)

/-- The difference between the budget returned before the latest change of the target and the clamped
budget computed at that change. -/
def changeStep (info : ThrottlingInfo) : List BudgetCall → Option ExactFloat
  | [] => none
  | call :: before =>
    if ChangesTarget info call before then do
      let previous ← before.head?
      let clamped ← call.clamped
      pure (previous.returned - clamped)
    else changeStep info before

/-- The latest call adds the transient that is due, and none when none is due. -/
def AddsTransient (info : ThrottlingInfo) (call : BudgetCall) (before : List BudgetCall) : Prop :=
  (∀ j, callsSinceChange info (call :: before) = some j → j < info.tranCycle - 1 →
    ∃ step clamped, changeStep info (call :: before) = some step ∧ call.clamped = some clamped ∧
      call.returned = clamped + step *
        (ExactFloat.ofInt (info.tranCycle - 1 - j) / ExactFloat.ofInt info.tranCycle)) ∧
  ((∀ j, callsSinceChange info (call :: before) = some j → info.tranCycle - 1 ≤ j) →
    ∀ clamped, call.clamped = some clamped → call.returned = clamped)

/-- Every call does. -/
def Bumpless (info : ThrottlingInfo) : List BudgetCall → Prop
  | [] => True
  | call :: before => AddsTransient info call before ∧ Bumpless info before

/-- No call returns early while a transient is due, or right before a change of the target. -/
def Undisturbed (info : ThrottlingInfo) : List BudgetCall → Prop
  | [] => True
  | call :: before =>
    (ReturnsEarly info call.input →
      ∀ j, callsSinceChange info (call :: before) = some j → info.tranCycle - 1 ≤ j) ∧
    (ChangesTarget info call before → 1 < info.tranCycle →
      ∀ previous ∈ before.head?, ¬ ReturnsEarly info previous.input) ∧
    Undisturbed info before

/-- The calls since a registration or since the data was cleared, from the latest to the first, and the
terms after them. Between two calls everything but the terms may change. -/
inductive BudgetRun (info : ThrottlingInfo) : List BudgetCall → PidTerms → Prop
  | start (pid : PidTerms) (herr : pid.prevErr = .nan) (htarget : pid.prevTarget = .none)
      (hcycle : pid.tranCycle = 0) : BudgetRun info [] pid
  | call {calls : List BudgetCall} {pid after : PidTerms} {call : BudgetCall}
      (hrun : BudgetRun info calls pid) (input : UpdateInput) (votes : CdevAllRequestMap)
      (status : ThermalThrottlingStatus)
      (hcall : callBudget input info votes { status with pid := pid } = .ok (call, after)) :
      BudgetRun info (call :: calls) after

/-- A registered sensor starts a run. -/
theorem BudgetRun.registered (info : ThrottlingInfo) : BudgetRun info [] initialStatus.pid :=
  .start _ rfl rfl rfl

/-- The number of calls that add a transient from the latest call on. -/
def cyclesDue (info : ThrottlingInfo) (calls : List BudgetCall) : ℤ :=
  (callsSinceChange info calls).elim 0 fun j ↦ max (info.tranCycle - 1 - j) 0

/-- What the terms hold after the calls of a run. -/
structure HoldsTransient (info : ThrottlingInfo) (calls : List BudgetCall) (pid : PidTerms) : Prop where
  target : pid.prevTarget = (lastTarget info calls).getD .none
  cycle : pid.tranCycle = max (cyclesDue info calls - 1) 0
  transient : pid.tranCycle ≠ 0 → changeStep info calls = some pid.budgetTransient
  previous : ∀ call ∈ calls.head?, ¬ ReturnsEarly info call.input → pid.prevPowerBudget = call.returned

section Step

variable {info : ThrottlingInfo} {calls : List BudgetCall} {call : BudgetCall} {pid after : PidTerms}
  {input : UpdateInput} {votes : CdevAllRequestMap} {status : ThermalThrottlingStatus}

theorem lastTarget_eq_some {targetState : ThrottlingSeverity}
    (hlast : lastTarget info calls = some targetState) : ∃ currSeverity, currSeverity ≠ .none ∧
      targetState = getTargetStateOfPID info currSeverity := by
  induction calls with
  | nil => cases hlast
  | cons call before ih =>
    rw [lastTarget, BudgetCall.target] at hlast
    by_cases hnone : call.input.currSeverity = .none
    · rw [if_pos hnone, Option.none_or] at hlast
      exact ih hlast
    · rw [if_neg hnone, Option.some_or] at hlast
      exact ⟨_, hnone, (Option.some.inj hlast).symm⟩

/-- The code notices exactly the changes of the target. -/
theorem updateTarget_changed_iff (hcycle : 0 < info.tranCycle)
    (htarget : pid.prevTarget = (lastTarget info calls).getD .none)
    (hraised : call.input.currSeverity ≠ .none) :
    (pid.prevTarget ≠ .none ∧ getTargetStateOfPID info call.input.currSeverity ≠ pid.prevTarget ∧
      0 < info.tranCycle) ↔ ChangesTarget info call calls := by
  rw [ChangesTarget, BudgetCall.target, if_neg hraised, htarget]
  cases hlast : lastTarget info calls with
  | none =>
    apply iff_of_false
    · exact fun hchanged ↦ hchanged.1 rfl
    · exact fun hchanges ↦ Bool.false_ne_true hchanges.2.1
  | some old =>
    rw [Option.getD_some, Ne, Ne, Ne, Option.some.injEq]
    apply Iff.intro
    · exact fun hchanged ↦ ⟨rfl, rfl, hchanged.2.1⟩
    · rintro ⟨-, -, hother⟩
      refine ⟨?_, hother, hcycle⟩
      intro hnone
      obtain ⟨currSeverity, -, hold⟩ := lastTarget_eq_some hlast
      have hunset := (getTargetStateOfPID_eq_none_iff info currSeverity).mp (hold.symm.trans hnone)
      apply hother
      rw [hnone]
      exact (getTargetStateOfPID_eq_none_iff info _).mpr hunset

theorem cyclesDue_of_change (hcycle : 0 < info.tranCycle) (hchanges : ChangesTarget info call calls) :
    cyclesDue info (call :: calls) = info.tranCycle - 1 := by
  rw [cyclesDue, callsSinceChange, if_pos hchanges, Option.elim_some, Nat.cast_zero, sub_zero]
  exact max_eq_left (by omega)

theorem cyclesDue_of_same (hsame : ¬ ChangesTarget info call calls) :
    cyclesDue info (call :: calls) = max (cyclesDue info calls - 1) 0 := by
  unfold cyclesDue
  rw [callsSinceChange, if_neg hsame]
  cases callsSinceChange info calls with
  | none => rfl
  | some j =>
    rw [Option.map_some, Option.elim_some, Option.elim_some]
    push_cast
    omega

theorem cyclesDue_eq_zero_iff : cyclesDue info calls = 0 ↔
    ∀ j, callsSinceChange info calls = some j → info.tranCycle - 1 ≤ j := by
  unfold cyclesDue
  cases callsSinceChange info calls with
  | none => exact iff_of_true rfl fun j hj ↦ by cases hj
  | some j =>
    rw [Option.elim_some, max_eq_right_iff]
    apply Iff.intro
    · intro hdue j' hj
      rw [← Option.some.inj hj]
      omega
    · intro hdue
      have hlast := hdue j rfl
      omega

/-- The code counts the calls that add a transient. -/
theorem HoldsTransient.notices (hcycle : 0 < info.tranCycle) (h : HoldsTransient info calls pid)
    (hraised : call.input.currSeverity ≠ .none) :
    updateTarget info (getTargetStateOfPID info call.input.currSeverity) pid =
      ({ pid with
          tranCycle := cyclesDue info (call :: calls)
          prevTarget := getTargetStateOfPID info call.input.currSeverity },
        decide (ChangesTarget info call calls)) := by
  have hnotices := updateTarget_changed_iff hcycle h.target hraised
  unfold updateTarget
  by_cases hchanges : ChangesTarget info call calls
  · rw [if_pos (hnotices.mpr hchanges), cyclesDue_of_change hcycle hchanges, decide_eq_true hchanges]
  · rw [if_neg (mt hnotices.mp hchanges), cyclesDue_of_same hchanges, decide_eq_false hchanges,
      ← h.cycle]

theorem settleBudget_eq (info : ThrottlingInfo) (targetState : ThrottlingSeverity)
    (targetChanged : Bool) (sum : ExactFloat) (pid : PidTerms) :
    settleBudget info targetState targetChanged sum pid =
      let clamped := sum.clamp (info.minAllocPower targetState) (info.maxAllocPower targetState)
      let step := if targetChanged then pid.prevPowerBudget - clamped else pid.budgetTransient
      let returned :=
        if pid.tranCycle ≠ 0 then
          clamped + step * (ExactFloat.ofInt pid.tranCycle / ExactFloat.ofInt info.tranCycle)
        else clamped
      (returned,
        { pid with
          budgetTransient := step
          tranCycle := if pid.tranCycle ≠ 0 then pid.tranCycle - 1 else 0
          prevPowerBudget := returned }) := by
  unfold settleBudget
  dsimp only
  by_cases hzero : pid.tranCycle = 0
  · rw [if_neg (not_not.mpr hzero), if_neg (not_not.mpr hzero), if_neg (not_not.mpr hzero)]
    rw [← hzero]
  · rw [if_pos hzero, if_pos hzero, if_pos hzero]

/-- The step that the code keeps is the one of the latest change, while it is used. -/
theorem HoldsTransient.changeStep_eq (hcycle : 0 < info.tranCycle) (h : HoldsTransient info calls pid)
    (hright : ChangesTarget info call calls → 1 < info.tranCycle →
      ∀ previous ∈ calls.head?, ¬ ReturnsEarly info previous.input)
    {clamped : ExactFloat} (hclamped : call.clamped = some clamped)
    (hdue : cyclesDue info (call :: calls) ≠ 0) :
    changeStep info (call :: calls) =
      some (if decide (ChangesTarget info call calls) then pid.prevPowerBudget - clamped
        else pid.budgetTransient) := by
  unfold changeStep
  by_cases hchanges : ChangesTarget info call calls
  · rw [if_pos hchanges, decide_eq_true hchanges, if_pos rfl, hclamped]
    rw [cyclesDue_of_change hcycle hchanges] at hdue
    cases calls with
    | nil => exact absurd hchanges.2.1 Bool.false_ne_true
    | cons previous before =>
      have hprevious := h.previous previous rfl (hright hchanges (by omega) previous rfl)
      rw [hprevious]
      rfl
  · rw [cyclesDue_of_same hchanges, ← h.cycle] at hdue
    rw [if_neg hchanges, decide_eq_false hchanges, h.transient hdue]
    rfl

/-- A call that returns early adds nothing. -/
theorem addsTransient_of_early (hclamped : call.clamped = none)
    (hdue : cyclesDue info (call :: calls) = 0) : AddsTransient info call calls := by
  apply And.intro
  · intro j hj hlt
    exact absurd (cyclesDue_eq_zero_iff.mp hdue j hj) (not_le.mpr hlt)
  · intro _ clamped hsome
    rw [hclamped] at hsome
    cases hsome

/-- A call that returns early while no transient is due leaves the count at zero. -/
theorem HoldsTransient.early (hcycle : 0 < info.tranCycle) (h : HoldsTransient info calls pid)
    (hearly : ReturnsEarly info input)
    (hcall : callBudget input info votes { status with pid := pid } = .ok (call, after))
    (hdue : cyclesDue info (call :: calls) = 0) :
    HoldsTransient info (call :: calls) after ∧ AddsTransient info call calls := by
  by_cases hnone : input.currSeverity = .none
  · have hresult := callBudget_of_none hnone hcall
    rw [hresult.1] at hdue ⊢
    rw [hresult.2]
    have htarget : BudgetCall.target info ⟨input, none, floatMax⟩ = none := if_pos hnone
    have hsame : ¬ ChangesTarget info ⟨input, none, floatMax⟩ calls := by
      intro hchanges
      rw [ChangesTarget, htarget] at hchanges
      exact Bool.false_ne_true hchanges.1
    have hzero : pid.tranCycle = 0 := by
      rw [h.cycle, ← cyclesDue_of_same hsame, hdue]
    refine ⟨HoldsTransient.mk ?_ ?_ ?_ ?_, addsTransient_of_early rfl hdue⟩
    · rw [lastTarget, htarget, Option.none_or]
      exact h.target
    · change pid.tranCycle = _
      rw [hdue, hzero]
      rfl
    · exact fun hpos ↦ absurd hzero hpos
    · intro call' hcall' hcomputed
      rw [← Option.some.inj hcall'] at hcomputed
      exact absurd hearly hcomputed
  · have hresult := callBudget_of_forced hnone hearly hcall
    have hinput := callBudget_input hcall
    have hraised : call.input.currSeverity ≠ .none := by
      rw [hinput]
      exact hnone
    have hnotices := h.notices hcycle hraised
    rw [hinput, hdue] at hnotices
    rw [hresult.2, hnotices]
    refine ⟨HoldsTransient.mk ?_ ?_ ?_ ?_, addsTransient_of_early ?_ hdue⟩
    · rw [lastTarget, BudgetCall.target, hinput, if_neg hnone, Option.some_or, Option.getD_some]
    · rw [hdue]
      rfl
    · exact fun hpos ↦ absurd rfl hpos
    · intro call' hcall' hcomputed
      rw [← Option.some.inj hcall', hinput] at hcomputed
      exact absurd hearly hcomputed
    · rw [hresult.1]

/-- A call that computes its budget adds the transient that is due. -/
theorem HoldsTransient.computed (hcycle : 0 < info.tranCycle) (h : HoldsTransient info calls pid)
    (hearly : ¬ ReturnsEarly info input)
    (hcall : callBudget input info votes { status with pid := pid } = .ok (call, after))
    (hright : ChangesTarget info call calls → 1 < info.tranCycle →
      ∀ previous ∈ calls.head?, ¬ ReturnsEarly info previous.input) :
    HoldsTransient info (call :: calls) after ∧ AddsTransient info call calls := by
  have hraised : input.currSeverity ≠ .none := fun hnone ↦ hearly (Or.inl hnone)
  obtain ⟨isFullyRelease, isFullyThrottle, sum, hsum, hlast, hafter⟩ :=
    callBudget_of_computed hearly hcall
  have hinput := callBudget_input hcall
  have hclamped := congrArg BudgetCall.clamped hlast
  have hreturned := congrArg BudgetCall.returned hlast
  have hraisedCall : call.input.currSeverity ≠ .none := by
    rw [hinput]
    exact hraised
  have hnotices := h.notices hcycle hraisedCall
  rw [hinput] at hnotices
  obtain ⟨iBudget, hterms⟩ := sumTerms_keeps hsum
  rw [hterms] at hreturned hafter
  rw [hnotices, settleBudget_eq] at hreturned hafter
  dsimp only at hclamped hreturned hafter
  have hstep := h.changeStep_eq hcycle hright hclamped
  apply And.intro
  · rw [hafter]
    apply HoldsTransient.mk
    · rw [lastTarget, BudgetCall.target, hinput, if_neg hraised, Option.some_or, Option.getD_some]
    · dsimp only
      split
      · rename_i hpos
        have hnonneg : 0 ≤ cyclesDue info (call :: calls) := by
          unfold cyclesDue
          cases callsSinceChange info (call :: calls) with
          | none => exact le_rfl
          | some j => exact le_max_right _ _
        exact (max_eq_left (by omega)).symm
      · rename_i hzero
        rw [not_not.mp hzero]
        rfl
    · intro hpos
      apply hstep
      intro hzero
      apply hpos
      dsimp only
      rw [if_neg (not_not.mpr hzero)]
    · intro call' hcall' _
      rw [← Option.some.inj hcall', hreturned]
  · apply And.intro
    · intro j hj hlt
      have hdue : cyclesDue info (call :: calls) = info.tranCycle - 1 - j := by
        rw [cyclesDue, hj, Option.elim_some]
        exact max_eq_left (by omega)
      have hpos : cyclesDue info (call :: calls) ≠ 0 := by omega
      refine ⟨_, _, hstep hpos, hclamped, ?_⟩
      rw [hreturned, if_pos hpos, hdue]
    · intro hdue clamped hsome
      have hzero := cyclesDue_eq_zero_iff.mpr hdue
      rw [hreturned, if_neg (not_not.mpr hzero)]
      exact Option.some.inj (hclamped.symm.trans hsome)

end Step

/-- The terms of an undisturbed run hold the transient, and every call has added what was due. -/
theorem BudgetRun.holdsTransient {info : ThrottlingInfo} (hcycle : 0 < info.tranCycle)
    {calls : List BudgetCall} {pid : PidTerms} (hrun : BudgetRun info calls pid)
    (hundisturbed : Undisturbed info calls) :
    HoldsTransient info calls pid ∧ Bumpless info calls := by
  induction hrun with
  | start pid _ htarget hcycles =>
    refine ⟨HoldsTransient.mk htarget hcycles ?_ ?_, trivial⟩
    · exact fun hpos ↦ absurd hcycles hpos
    · intro call hcall
      cases hcall
  | @call calls pid after call hrun input votes status hcall ih =>
    have hbefore := ih hundisturbed.2.2
    have hinput := callBudget_input hcall
    by_cases hearly : ReturnsEarly info input
    · have hdue := hundisturbed.1 (hinput.symm ▸ hearly)
      have hlast := hbefore.1.early hcycle hearly hcall (cyclesDue_eq_zero_iff.mpr hdue)
      exact ⟨hlast.1, hlast.2, hbefore.2⟩
    · have hlast := hbefore.1.computed hcycle hearly hcall hundisturbed.2.1
      exact ⟨hlast.1, hlast.2, hbefore.2⟩

/-- Every call of an undisturbed run adds the transient that is due. -/
theorem undisturbed_bumpless {info : ThrottlingInfo} (hcycle : 0 < info.tranCycle)
    {calls : List BudgetCall} {pid : PidTerms} (hrun : BudgetRun info calls pid)
    (hundisturbed : Undisturbed info calls) : Bumpless info calls :=
  (hrun.holdsTransient hcycle hundisturbed).2

/-- Without early returns nothing is disturbed. -/
theorem undisturbed_of_computed {info : ThrottlingInfo} {calls : List BudgetCall}
    (hcalls : ∀ call ∈ calls, ¬ ReturnsEarly info call.input) : Undisturbed info calls := by
  induction calls with
  | nil => trivial
  | cons call before ih =>
    have hbefore : ∀ call ∈ before, ¬ ReturnsEarly info call.input :=
      fun previous hprevious ↦ hcalls previous (List.mem_cons_of_mem _ hprevious)
    refine ⟨fun hearly ↦ absurd hearly (hcalls call List.mem_cons_self), fun _ _ ↦ ?_, ih hbefore⟩
    exact fun previous hprevious ↦ hbefore previous (List.mem_of_mem_head? hprevious)

/-! ## A forced call -/

/-- Calls with the same votes and requests; the inputs are listed from the latest to the first. -/
def runBudgets (info : ThrottlingInfo) (votes : CdevAllRequestMap) (status : ThermalThrottlingStatus) :
    List UpdateInput → Checked (List BudgetCall × PidTerms)
  | [] => .ok ([], status.pid)
  | input :: before => do
    let (calls, pid) ← runBudgets info votes status before
    let (call, after) ← callBudget input info votes { status with pid := pid }
    pure (call :: calls, after)

theorem budgetRun_of_runBudgets {info : ThrottlingInfo} {votes : CdevAllRequestMap}
    {status : ThermalThrottlingStatus} (hstart : BudgetRun info [] status.pid)
    {inputs : List UpdateInput} {result : List BudgetCall × PidTerms}
    (hresult : runBudgets info votes status inputs = .ok result) : BudgetRun info result.1 result.2 := by
  induction inputs generalizing result with
  | nil =>
    rw [← Except.ok.inj hresult]
    exact hstart
  | cons input before ih =>
    obtain ⟨earlier, hearlier, hresult⟩ := bind_eq_ok.mp hresult
    obtain ⟨last, hlast, hresult⟩ := bind_eq_ok.mp hresult
    rw [← Except.ok.inj hresult]
    exact .call (ih hearlier) input votes status hlast

/-- A sensor with two targets whose data was cleared. -/
def steppedStatus : ThermalThrottlingStatus :=
  { initialStatus with pidCdevRequestMap := (∅ : UnorderedMap String ℤ).insert "cpu" 0 }

def steppedRun (inputs : List UpdateInput) : Option (List BudgetCall × PidTerms) :=
  (runBudgets steppedInfo ∅ steppedStatus inputs).toOption

theorem steppedRun_run {inputs : List UpdateInput} {result : List BudgetCall × PidTerms}
    (hresult : steppedRun inputs = some result) : BudgetRun steppedInfo result.1 result.2 := by
  have hstart : BudgetRun steppedInfo [] steppedStatus.pid := BudgetRun.registered steppedInfo
  exact budgetRun_of_runBudgets hstart (toOption_eq_some hresult)

/-- The sensor is above its threshold, and the throttling is forced. -/
def forcedInput (currSeverity : ThrottlingSeverity) : UpdateInput :=
  { steppedInput currSeverity with
    temp := ⟨"SKIN", "soc", .fin 55, currSeverity⟩
    maxThrottling := true }

/-- A change from 2000 mW to 1000 mW returns 1500 mW. -/
theorem steppedRun_bumpless : ∃ calls pid,
    BudgetRun steppedInfo calls pid ∧
      calls.map (fun call ↦ call.returned) = [.fin 1500, .fin 2000] ∧ Bumpless steppedInfo calls := by
  have hvalues : (steppedRun [steppedInput .moderate, steppedInput .light]).map (fun result ↦
      (result.1.map fun call ↦ call.returned,
        result.1.all fun call ↦ decide (¬ ReturnsEarly steppedInfo call.input))) =
      some ([.fin 1500, .fin 2000], true) := by decide +kernel
  obtain ⟨⟨calls, pid⟩, hresult, hvalues⟩ := Option.map_eq_some_iff.mp hvalues
  have hboth := Prod.mk.inj hvalues
  have hcalls : ∀ call ∈ calls, ¬ ReturnsEarly steppedInfo call.input :=
    fun call hcall ↦ of_decide_eq_true (List.all_eq_true.mp hboth.2 call hcall)
  exact ⟨calls, pid, steppedRun_run hresult, hboth.1,
    undisturbed_bumpless (by decide) (steppedRun_run hresult) (undisturbed_of_computed hcalls)⟩

/-- A forced call at a second change leaves the transient of the first change for the call after it,
which returns 2500 mW although its clamped budget is 2000 mW. -/
theorem forcedRun_not_bumpless :
    ¬ ∀ (info : ThrottlingInfo) (calls : List BudgetCall) (pid : PidTerms),
      0 < info.tranCycle → BudgetRun info calls pid → Bumpless info calls := by
  intro hbumpless
  have hvalues : (steppedRun [steppedInput .light, forcedInput .light, steppedInput .moderate,
      steppedInput .light]).map (fun result ↦ (callsSinceChange steppedInfo result.1,
        result.1.head?.map fun call ↦ (call.clamped, call.returned))) =
      some (some 1, some (some (.fin 2000), .fin 2500)) := by decide +kernel
  obtain ⟨⟨calls, pid⟩, hresult, hvalues⟩ := Option.map_eq_some_iff.mp hvalues
  have hboth := Prod.mk.inj hvalues
  obtain ⟨call, hhead, hcall⟩ := Option.map_eq_some_iff.mp hboth.2
  have hall := hbumpless steppedInfo calls pid (by decide) (steppedRun_run hresult)
  cases calls with
  | nil => cases hhead
  | cons last before =>
    have hdue : ∀ j, callsSinceChange steppedInfo (last :: before) = some j →
        steppedInfo.tranCycle - 1 ≤ j := by
      intro j hj
      rw [← Option.some.inj (hboth.1.symm.trans hj)]
      decide
    rw [← Option.some.inj hhead] at hcall
    have hlast := Prod.mk.inj hcall
    have hreturned := hall.1.2 hdue _ hlast.1
    rw [hlast.2] at hreturned
    exact absurd hreturned (by decide +kernel)

end HardwareMediatek.Thermal
