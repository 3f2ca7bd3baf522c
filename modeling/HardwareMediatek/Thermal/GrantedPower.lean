import HardwareMediatek.Thermal.AllocationPasses

/-!
# From a granted power to a state

The second pass grants a device a power and stores it in an `int`. The state of the device is then
looked up with the stored number, so a device may get a lower state than its power stands for.
-/

namespace HardwareMediatek.Thermal

/-! ## A round that grants a power -/

/-- The power that the second pass grants a device, before it is stored; none for a device without
votes. -/
def grantedPower (input : UpdateInput) (votes : CdevAllRequestMap) (status : ThermalThrottlingStatus)
    (pair : BindedCdevEntry) (cdevInfo : CdevInfo)
    (cdevPowerAdjustment : ExactFloat) (s : AllocationState) : Checked (Option ExactFloat) := do
  let cdevPowerBudget ← distributedBudget input.round pair.1 cdevInfo pair.2 s
    (pair.2.cdevWeightForPid input.currSeverity) cdevPowerAdjustment
  let cdevPowerBudget ← boundBudget cdevInfo cdevPowerBudget
  match ← getCdevMaxRequest votes pair.1 with
  | none => pure none
  | some maxCdevVote =>
    let currCdevVote ← atKey status.pidCdevRequestMap pair.1
    let cdevPowerBudget ← limitSteps input cdevInfo pair.2 s.powerDataInvalid cdevPowerAdjustment
      currCdevVote maxCdevVote cdevPowerBudget
    pure (some cdevPowerBudget)

/-- What an adjustment of a device is computed from. -/
def powerAdjustment (input : UpdateInput) (pair : BindedCdevEntry)
    (s : AllocationState) : ExactFloat :=
  input.round (s.share input.round (pair.2.cdevWeightForPid input.currSeverity) -
    s.lastUpdatedAvgPower)

/-- A round of the second pass stores what it grants. -/
theorem deviceBudget_eq (input : UpdateInput) (votes : CdevAllRequestMap)
    (status : ThermalThrottlingStatus) (pair : BindedCdevEntry)
    (cdevInfo : CdevInfo) (cdevPowerAdjustment : ExactFloat) (s : AllocationState) :
    deviceBudget input votes status pair cdevInfo cdevPowerAdjustment s =
      (grantedPower input votes status pair cdevInfo cdevPowerAdjustment s >>= fun granted ↦
        match granted with
        | none => pure (.giveUp s)
        | some power => do
          let _ ← atKey s.pidPowerBudgetMap pair.1
          pure (.next { s with
            pidPowerBudgetMap := s.pidPowerBudgetMap.assign pair.1 (toInt power) })) := by
  unfold deviceBudget grantedPower
  cases distributedBudget input.round pair.1 cdevInfo pair.2 s
    (pair.2.cdevWeightForPid input.currSeverity) cdevPowerAdjustment with
  | error fault => rfl
  | ok distributed =>
    change (boundBudget cdevInfo distributed >>= _) = (boundBudget cdevInfo distributed >>= _) >>= _
    cases boundBudget cdevInfo distributed with
    | error fault => rfl
    | ok bounded =>
      change (getCdevMaxRequest votes pair.1 >>= _) = (getCdevMaxRequest votes pair.1 >>= _) >>= _
      cases getCdevMaxRequest votes pair.1 with
      | error fault => rfl
      | ok found =>
        cases found with
        | none => rfl
        | some maxCdevVote =>
          change (atKey status.pidCdevRequestMap pair.1 >>= _) =
            (atKey status.pidCdevRequestMap pair.1 >>= _) >>= _
          cases atKey status.pidCdevRequestMap pair.1 with
          | error fault => rfl
          | ok currCdevVote =>
            change (limitSteps input cdevInfo pair.2 s.powerDataInvalid cdevPowerAdjustment
              currCdevVote maxCdevVote bounded >>= _) =
              (limitSteps input cdevInfo pair.2 s.powerDataInvalid cdevPowerAdjustment currCdevVote
                maxCdevVote bounded >>= _) >>= _
            cases limitSteps input cdevInfo pair.2 s.powerDataInvalid cdevPowerAdjustment currCdevVote
              maxCdevVote bounded <;> rfl

/-- The state in which the second pass starts. -/
def EntersSecondPass (input : UpdateInput) (status : ThermalThrottlingStatus)
    (bindings : BindedCdevInfoMap) (total : ExactFloat) (start : AllocationState) : Prop :=
  ∃ s, start = settlePass input.round s ∧
    (iterate (checkLowPowerDevice input status) bindings.entries
        (initialAllocation input status bindings total) = .ok (.next s) ∨
      iterate (checkLowPowerDevice input status) bindings.entries
        (initialAllocation input status bindings total) = .ok (.stop s))

/-- The first pass stores no budget. -/
theorem EntersSecondPass.budgets {input : UpdateInput} {status : ThermalThrottlingStatus}
    {bindings : BindedCdevInfoMap} {total : ExactFloat} {start : AllocationState}
    (henters : EntersSecondPass input status bindings total start) :
    start.pidPowerBudgetMap = status.pidPowerBudgetMap := by
  obtain ⟨s₁, hstart, hnext | hstop⟩ := henters
  · rw [hstart, settlePass_budgets]
    exact (firstPass_budgets _ _).of_ok hnext
  · rw [hstart, settlePass_budgets]
    exact (firstPass_budgets _ _).of_ok hstop

/-- The round of the second pass in which a device is granted a power. The power of its rail has been
read in the state `s`. -/
structure GrantRound (input : UpdateInput) (votes : CdevAllRequestMap)
    (status : ThermalThrottlingStatus) (bindings : BindedCdevInfoMap) (total : ExactFloat)
    (pair : BindedCdevEntry) (cdevInfo : CdevInfo) (s : AllocationState)
    (granted : ExactFloat) : Prop where
  reached : ∃ start before rest s', EntersSecondPass input status bindings total start ∧
    bindings.entries = before ++ pair :: rest ∧
    iterate (allocateDevice input votes status) before start = .ok (.next s') ∧
    pair.1 ∉ s'.allocatedCdev ∧ getPowerData input.powerStatusMap pair.2 s' = .ok (.next s)
  device : input.coolingDeviceInfoMap.lookup pair.1 = some cdevInfo
  reducible : atMaxState status pair.1 cdevInfo (powerAdjustment input pair s) = .ok false
  budgeted : pair.1 ∈ s.pidPowerBudgetMap
  grants : grantedPower input votes status pair cdevInfo (powerAdjustment input pair s) s =
    .ok (some granted)

section Grant

variable {input : UpdateInput} {votes : CdevAllRequestMap} {status : ThermalThrottlingStatus}
  {bindings : BindedCdevInfoMap} {total : ExactFloat}
  {pair : BindedCdevEntry} {cdevInfo : CdevInfo} {s : AllocationState} {granted : ExactFloat}

/-- A round leaves the budgets of the other devices. -/
theorem allocateDevice_others (pair : BindedCdevEntry) (s : AllocationState)
    {cdev : String} (hother : cdev ≠ pair.1) :
    Meets (allocateDevice input votes status pair s)
      (fun flow ↦ flow.state.pidPowerBudgetMap.lookup cdev = s.pidPowerBudgetMap.lookup cdev)
      fun _ ↦ True := by
  unfold allocateDevice
  split
  · rfl
  · apply (getPowerData_budgets _ _ s).bind
    intro flow hflow
    cases flow with
    | stop s' => exact congrArg (AList.lookup cdev) hflow
    | giveUp s' => exact congrArg (AList.lookup cdev) hflow
    | next s' =>
      have hsame : s'.pidPowerBudgetMap.lookup cdev = s.pidPowerBudgetMap.lookup cdev :=
        congrArg (AList.lookup cdev) hflow
      apply (meets_true _).bind
      intro cdevInfo _
      apply (meets_true _).bind
      intro atMax _
      split
      · exact hsame
      · rw [deviceBudget_eq]
        apply (meets_true _).bind
        intro granted _
        cases granted with
        | none => exact hsame
        | some power =>
          apply (meets_true _).bind
          intro _ _
          exact (UnorderedMap.lookup_assign_ne _ _ hother).trans hsame

/-- The rounds of other devices leave the budget of a device. -/
theorem secondPass_others {pairs : List BindedCdevEntry} {cdev : String}
    (hothers : cdev ∉ pairs.map Sigma.fst) (s : AllocationState) :
    Meets (iterate (allocateDevice input votes status) pairs s)
      (fun flow ↦ flow.state.pidPowerBudgetMap.lookup cdev = s.pidPowerBudgetMap.lookup cdev)
      fun _ ↦ True := by
  apply meets_iterate (I := fun s' : AllocationState ↦
    s'.pidPowerBudgetMap.lookup cdev = s.pidPowerBudgetMap.lookup cdev)
  · intro pair hpair s' hs'
    have hother : cdev ≠ pair.1 := by
      intro hsame
      exact hothers (hsame ▸ List.mem_map_of_mem hpair)
    exact (allocateDevice_others pair s' hother).imp fun _ hflow ↦ hflow.trans hs'
  · rfl

/-- The round itself. -/
theorem GrantRound.round (h : GrantRound input votes status bindings total pair cdevInfo s granted)
    {s' : AllocationState} (hunmarked : pair.1 ∉ s'.allocatedCdev)
    (hread : getPowerData input.powerStatusMap pair.2 s' = .ok (.next s)) :
    allocateDevice input votes status pair s' = .ok (.next { s with
      pidPowerBudgetMap := s.pidPowerBudgetMap.assign pair.1 (toInt granted) }) := by
  obtain ⟨stored, hstored⟩ := UnorderedMap.mem_iff_lookup.mp h.budgeted
  unfold allocateDevice
  rw [if_neg hunmarked, hread]
  change (atKey input.coolingDeviceInfoMap pair.1 >>= _) = _
  rw [atKey_of_lookup h.device]
  change (atMaxState status pair.1 cdevInfo (powerAdjustment input pair s) >>= _) = _
  rw [h.reducible]
  change deviceBudget input votes status pair cdevInfo (powerAdjustment input pair s) s = _
  rw [deviceBudget_eq, h.grants]
  change (atKey s.pidPowerBudgetMap pair.1 >>= _) = _
  rw [atKey_of_lookup hstored]
  rfl

/-- What is granted to a device is what the allocation stores for it. -/
theorem GrantRound.stored (h : GrantRound input votes status bindings total pair cdevInfo s granted)
    {budgets : UnorderedMap String ℤ} {allocated : Bool}
    (hpasses : allocatePasses input votes status bindings total = .ok (budgets, allocated)) :
    budgets.lookup pair.1 = some (toInt granted) := by
  obtain ⟨start, before, rest, s', henters, hsplit, hbefore, hunmarked, hread⟩ := h.reached
  have hnodup : ((before ++ pair :: rest).map Sigma.fst).Nodup := hsplit ▸ bindings.nodupKeys
  rw [List.map_append, List.map_cons] at hnodup
  have hlater : pair.1 ∉ rest.map Sigma.fst :=
    (List.nodup_cons.mp (List.nodup_append'.mp hnodup).2.1).1
  have hpass : allocatePass input votes status bindings start = .ok (budgets, allocated) := by
    unfold allocatePasses at hpasses
    obtain ⟨s₁, hstart, hnext | hstop⟩ := henters
    · rw [hnext] at hpasses
      rw [hstart]
      exact hpasses
    · rw [hstop] at hpasses
      rw [hstart]
      exact hpasses
  have hround := h.round hunmarked hread
  have hiterate : iterate (allocateDevice input votes status) bindings.entries start =
      iterate (allocateDevice input votes status) rest { s with
        pidPowerBudgetMap := s.pidPowerBudgetMap.assign pair.1 (toInt granted) } := by
    rw [hsplit, iterate_append, hbefore]
    change iterate (allocateDevice input votes status) (pair :: rest) s' = _
    rw [iterate, hround]
  unfold allocatePass at hpass
  rw [hiterate] at hpass
  obtain ⟨flow, hflow⟩ := bind_eq_ok.mp hpass
  have hlookup : flow.state.pidPowerBudgetMap.lookup pair.1 = some (toInt granted) :=
    ((secondPass_others hlater _).of_ok hflow.1).trans
      (UnorderedMap.lookup_assign_of_mem _ h.budgeted)
  have hend : flow.state.pidPowerBudgetMap = budgets := by
    have hresult := hflow.2
    cases flow with
    | next s'' => exact congrArg Prod.fst (Except.ok.inj hresult)
    | stop s'' => exact congrArg Prod.fst (Except.ok.inj hresult)
    | giveUp s'' => exact congrArg Prod.fst (Except.ok.inj hresult)
  rw [← hend]
  exact hlookup

/-- The request of the device after the update is the state of the stored number. -/
theorem GrantRound.request {info : ThrottlingInfo} {pid : PidTerms} {after : ThermalThrottlingStatus}
    {computed : ExactFloat} (hcomputed : updatePowerBudget input info votes status = .ok (computed, pid))
    (htotal : total = input.round computed)
    (h : GrantRound input votes status (selectBindings info status.profile) total pair cdevInfo s
      granted)
    (hupdate : updatePid input info votes status = .ok after) : ∃ state,
    powerToState (ExactFloat.ofInt (toInt granted)) cdevInfo.state2power = .ok state ∧
      after.pidCdevRequestMap.lookup pair.1 = some state := by
  unfold updatePid at hupdate
  by_cases hbudgets : status.pidPowerBudgetMap.entries = []
  · -- without budgets no power is granted
    have hkeys : s.pidPowerBudgetMap.keys = status.pidPowerBudgetMap.keys := by
      obtain ⟨start, before, rest, s', henters, -, hbefore, -, hread⟩ := h.reached
      have hpass : s'.pidPowerBudgetMap.keys = start.pidPowerBudgetMap.keys :=
        (meets_iterate (I := fun s' ↦ s'.pidPowerBudgetMap.keys = start.pidPowerBudgetMap.keys)
          (fun pair _ s' hs' ↦ (allocateDevice_keys pair s').imp fun _ hflow ↦ hflow.trans hs')
          rfl).of_ok hbefore
      have hsame : s.pidPowerBudgetMap = s'.pidPowerBudgetMap :=
        (getPowerData_budgets _ _ s').of_ok hread
      rw [hsame, hpass, henters.budgets]
    have hempty : pair.1 ∉ s.pidPowerBudgetMap := by
      rw [AList.mem_keys, hkeys, AList.keys, hbudgets]
      exact List.not_mem_nil
    exact absurd h.budgeted hempty
  · rw [if_pos hbudgets] at hupdate
    obtain ⟨⟨allocatedStatus, allocated⟩, hallocate, hrequests⟩ := bind_eq_ok.mp hupdate
    unfold allocatePowerToCdev at hallocate
    rw [hcomputed] at hallocate
    obtain ⟨⟨computed', pid'⟩, hcomputed', hrest⟩ := bind_eq_ok.mp hallocate
    have hsameComputed := Except.ok.inj hcomputed'
    have hpasses : (allocatePasses input votes status (selectBindings info status.profile) total >>=
        fun result ↦ pure
          ({ status with pid := pid', pidPowerBudgetMap := result.1 }, result.2)) =
        .ok (allocatedStatus, allocated) := by
      rw [htotal, (Prod.mk.inj hsameComputed).1]
      exact hrest
    obtain ⟨⟨budgets, succeeded⟩, hpass, hresult⟩ := bind_eq_ok.mp hpasses
    have hstored := h.stored hpass
    have hbudget : allocatedStatus.pidPowerBudgetMap = budgets := by
      rw [← (ok_pair hresult).1]
    have hsoFar := (updateCdevRequestByPower_requests _ _).of_ok hrequests
    have hlookup : (if allocated then allocatedStatus
        else { allocatedStatus with
          pidCdevRequestMap := allocatedStatus.pidCdevRequestMap.mapValues fun _ _ ↦ 0
          }).pidPowerBudgetMap.lookup pair.1 = some (toInt granted) := by
      cases allocated <;> exact hbudget ▸ hstored
    obtain ⟨info', state, hdevice, hstate, hrequest⟩ :=
      hsoFar.done pair.1 _ hlookup List.not_mem_nil
    have hsame : info' = cdevInfo := Option.some.inj (hdevice.symm.trans h.device)
    rw [hsame] at hstate
    exact ⟨state, hstate, hrequest⟩

end Grant

end HardwareMediatek.Thermal
