import HardwareMediatek.Thermal.ThrottlingRun

/-!
# Release steps

The power of the rail of a bound device moves the release step of the device by its own rule. One loop
moves the steps of all devices of a sensor, and it is given up at the first device without a step or
without a power status, so the devices behind that one keep theirs.
-/

namespace HardwareMediatek.Thermal

/-! ## The rule of one device -/

/-- The power is on the side of the threshold that does not release the device. -/
def isOverBudget (binding : BindedCdevInfo) (severity : ThrottlingSeverity) (avgPower : ExactFloat) :
    Bool :=
  if !binding.highPowerCheck then !decide (avgPower < binding.powerThresholds severity)
  else !decide (binding.powerThresholds severity < avgPower)

/-- There is no power to compare with the threshold. -/
def isInvalidPower (avgPower : ExactFloat) : Bool := avgPower.isNaN || avgPower < 0

/-- The release step of a device after a reading of its rail. -/
def releaseStepAfter (binding : BindedCdevInfo) (severity : ThrottlingSeverity) (maxState : ℤ)
    (avgPower : ExactFloat) (releaseStep : ℤ) : ℤ :=
  if isInvalidPower avgPower then if binding.throttlingWithPowerLink then maxState else 0
  else updateReleaseStep binding.releaseLogic (isOverBudget binding severity avgPower) maxState
    releaseStep

/-- A device with a release step, whose rail has a power status. -/
def isTracked (powerStatusMap : PowerStatusMap) (releaseMap : UnorderedMap String ℤ)
    (pair : BindedCdevEntry) : Bool :=
  decide (pair.1 ∈ releaseMap) && decide (pair.2.powerRail ∈ powerStatusMap)

/-- The rule of a device, at its maximum state and the power of its rail. -/
def ownRule (coolingDeviceInfoMap : CdevInfoMap) (powerStatusMap : PowerStatusMap)
    (severity : ThrottlingSeverity) (pair : BindedCdevEntry) (releaseStep : ℤ) : Option ℤ := do
  let cdevInfo ← coolingDeviceInfoMap.lookup pair.1
  let status ← powerStatusMap.lookup pair.2.powerRail
  pure (releaseStepAfter pair.2 severity cdevInfo.maxState status.lastUpdatedAvgPower releaseStep)

section Loop

variable {coolingDeviceInfoMap : CdevInfoMap} {powerStatusMap : PowerStatusMap}
  {severity : ThrottlingSeverity} {releaseMap : UnorderedMap String ℤ}
  {pairs : List BindedCdevEntry}

theorem isTracked_of_keys {releaseMap' : UnorderedMap String ℤ}
    (hkeys : releaseMap'.keys = releaseMap.keys) :
    isTracked powerStatusMap releaseMap' = isTracked powerStatusMap releaseMap := by
  funext pair
  unfold isTracked
  rw [decide_eq_decide.mpr (UnorderedMap.mem_iff_of_keys_eq hkeys pair.1)]

/-- A device that is not tracked ends the loop. -/
theorem releaseUpdate_of_not_tracked {pair : BindedCdevEntry}
    (htracked : isTracked powerStatusMap releaseMap pair = false) :
    releaseUpdate coolingDeviceInfoMap powerStatusMap severity pair releaseMap =
      .ok (.giveUp releaseMap) := by
  unfold releaseUpdate
  rw [isTracked, Bool.and_eq_false_iff, decide_eq_false_iff_not, decide_eq_false_iff_not] at htracked
  rcases htracked with hstep | hrail
  · rw [AList.lookup_eq_none.mpr hstep]
  · rw [AList.lookup_eq_none.mpr hrail]
    cases releaseMap.lookup pair.1 <;> rfl

/-- A tracked device gets the step of its own rule. -/
theorem releaseUpdate_of_tracked {pair : BindedCdevEntry} (hdevice : pair.1 ∈ coolingDeviceInfoMap)
    (htracked : isTracked powerStatusMap releaseMap pair = true) : ∃ old new,
    releaseMap.lookup pair.1 = some old ∧
      ownRule coolingDeviceInfoMap powerStatusMap severity pair old = some new ∧
      releaseUpdate coolingDeviceInfoMap powerStatusMap severity pair releaseMap =
        .ok (.next (releaseMap.assign pair.1 new)) := by
  rw [isTracked, Bool.and_eq_true, decide_eq_true_eq, decide_eq_true_eq] at htracked
  obtain ⟨cdevInfo, hcdevInfo⟩ := UnorderedMap.mem_iff_lookup.mp hdevice
  obtain ⟨old, hold⟩ := UnorderedMap.mem_iff_lookup.mp htracked.1
  obtain ⟨status, hstatus⟩ := UnorderedMap.mem_iff_lookup.mp htracked.2
  apply Exists.intro old
  apply Exists.intro (releaseStepAfter pair.2 severity cdevInfo.maxState status.lastUpdatedAvgPower old)
  apply And.intro hold
  apply And.intro
  · rw [ownRule, hcdevInfo, hstatus]
    rfl
  · unfold releaseUpdate releaseStepAfter isInvalidPower isOverBudget
    rw [hold, hstatus]
    change (atKey coolingDeviceInfoMap pair.1 >>= _) = _
    rw [atKey_of_lookup hcdevInfo]
    change (if _ then _ else _) = _
    split <;> rfl

/-- The loop ends, the tracked devices in front of the first one that is not tracked have the steps of
their own rules, and the other steps stay. -/
theorem iterate_releaseUpdate (hdevices : ∀ pair ∈ pairs, pair.1 ∈ coolingDeviceInfoMap)
    (hnodup : (pairs.map Sigma.fst).Nodup) (releaseMap : UnorderedMap String ℤ) : ∃ flow,
    iterate (releaseUpdate coolingDeviceInfoMap powerStatusMap severity) pairs releaseMap = .ok flow ∧
      (∀ pair ∈ pairs.takeWhile (isTracked powerStatusMap releaseMap),
        flow.state.lookup pair.1 =
          (releaseMap.lookup pair.1).bind
            (ownRule coolingDeviceInfoMap powerStatusMap severity pair)) ∧
      ∀ cdev, cdev ∉ (pairs.takeWhile (isTracked powerStatusMap releaseMap)).map Sigma.fst →
        flow.state.lookup cdev = releaseMap.lookup cdev := by
  induction pairs generalizing releaseMap with
  | nil => exact ⟨.next releaseMap, rfl, fun _ hpair ↦ absurd hpair List.not_mem_nil, fun _ _ ↦ rfl⟩
  | cons pair rest ih =>
    have hfirst := List.nodup_cons.mp hnodup
    by_cases htracked : isTracked powerStatusMap releaseMap pair = true
    · obtain ⟨old, hold⟩ := releaseUpdate_of_tracked (hdevices pair List.mem_cons_self) htracked
      obtain ⟨new, hnew⟩ := hold
      have hkeys : (releaseMap.assign pair.1 new).keys = releaseMap.keys :=
        UnorderedMap.keys_assign _ _ _
      obtain ⟨flow, hflow⟩ := ih (fun pair' hpair' ↦ hdevices pair' (List.mem_cons_of_mem _ hpair'))
          hfirst.2 (releaseMap.assign pair.1 new)
      rw [isTracked_of_keys hkeys] at hflow
      have hself : pair.1 ∉ (rest.takeWhile (isTracked powerStatusMap releaseMap)).map Sigma.fst := by
        intro hmem
        exact hfirst.1 (List.map_subset _ (List.takeWhile_subset _) hmem)
      apply Exists.intro flow
      rw [List.takeWhile_cons_of_pos htracked, iterate, hnew.2.2]
      apply And.intro hflow.1
      apply And.intro
      · intro pair' hpair'
        rcases List.mem_cons.mp hpair' with hsame | hlater
        · rw [hsame, hflow.2.2 pair.1 hself, hnew.1, Option.bind_some, hnew.2.1]
          exact UnorderedMap.lookup_assign_of_mem new (UnorderedMap.mem_of_lookup hnew.1)
        · have hne : pair'.1 ≠ pair.1 := by
            intro hsame
            exact hself (hsame ▸ List.mem_map_of_mem hlater)
          rw [hflow.2.1 pair' hlater, UnorderedMap.lookup_assign_ne _ new hne]
      · intro cdev hcdev
        rw [List.map_cons, List.mem_cons, not_or] at hcdev
        rw [hflow.2.2 cdev hcdev.2, UnorderedMap.lookup_assign_ne _ new hcdev.1]
    · have hnot : isTracked powerStatusMap releaseMap pair = false := Bool.eq_false_of_not_eq_true htracked
      apply Exists.intro (.giveUp releaseMap)
      rw [List.takeWhile_cons_of_neg htracked, iterate, releaseUpdate_of_not_tracked hnot]
      exact ⟨rfl, fun _ hpair ↦ absurd hpair List.not_mem_nil, fun _ _ ↦ rfl⟩

end Loop

/-! ## The steps of all devices -/

/-- The step that the own rule of a device leads to. -/
def ownStep (input : UpdateInput) (status : ThermalThrottlingStatus)
    (pair : BindedCdevEntry) : Option ℤ :=
  (status.throttlingReleaseMap.lookup pair.1).bind
    (ownRule input.coolingDeviceInfoMap input.powerStatusMap input.currSeverity pair)

/-- Every tracked device of the sensor has the step of its own rule. -/
def FollowsOwnRules (input : UpdateInput) (info : ThrottlingInfo)
    (status after : ThermalThrottlingStatus) : Prop :=
  ∀ pair ∈ info.bindedCdevInfoMap.entries,
    isTracked input.powerStatusMap status.throttlingReleaseMap pair = true →
      after.throttlingReleaseMap.lookup pair.1 = ownStep input status pair

/-- A tracked device whose rule leads to another step comes behind tracked devices only. -/
def MovingDevicesReached (input : UpdateInput) (info : ThrottlingInfo)
    (status : ThermalThrottlingStatus) : Prop :=
  ∀ earlier pair later, info.bindedCdevInfoMap.entries = earlier ++ pair :: later →
    isTracked input.powerStatusMap status.throttlingReleaseMap pair = true →
      ownStep input status pair ≠ status.throttlingReleaseMap.lookup pair.1 →
        ∀ pair' ∈ earlier, isTracked input.powerStatusMap status.throttlingReleaseMap pair' = true

section Update

variable {input : UpdateInput} {info : ThrottlingInfo} {status : ThermalThrottlingStatus}

/-- The devices that the loop reaches. -/
def reachedDevices (input : UpdateInput) (info : ThrottlingInfo) (status : ThermalThrottlingStatus) :
    List BindedCdevEntry :=
  info.bindedCdevInfoMap.entries.takeWhile
    (isTracked input.powerStatusMap status.throttlingReleaseMap)

/-- The devices that are reached have the steps of their own rules, and the other steps stay. -/
theorem throttlingReleaseUpdate_steps
    (hdevices : ∀ cdev ∈ info.bindedCdevInfoMap, cdev ∈ input.coolingDeviceInfoMap) : ∃ after,
    throttlingReleaseUpdate input info status = .ok after ∧
      (∀ pair ∈ reachedDevices input info status,
        after.throttlingReleaseMap.lookup pair.1 = ownStep input status pair) ∧
      ∀ pair ∈ info.bindedCdevInfoMap.entries, pair ∉ reachedDevices input info status →
        after.throttlingReleaseMap.lookup pair.1 = status.throttlingReleaseMap.lookup pair.1 := by
  have hbound : ∀ pair ∈ info.bindedCdevInfoMap.entries, pair.1 ∈ input.coolingDeviceInfoMap := by
    intro pair hpair
    exact hdevices pair.1 (UnorderedMap.mem_of_lookup (UnorderedMap.lookup_of_mem_entries hpair))
  have hloop := @iterate_releaseUpdate input.coolingDeviceInfoMap input.powerStatusMap
    input.currSeverity info.bindedCdevInfoMap.entries hbound info.bindedCdevInfoMap.nodupKeys
    status.throttlingReleaseMap
  obtain ⟨flow, hflow⟩ := hloop
  apply Exists.intro { status with throttlingReleaseMap := flow.state }
  apply And.intro
  · rw [throttlingReleaseUpdate, hflow.1]
    rfl
  · apply And.intro hflow.2.1
    intro pair hpair hnot
    apply hflow.2.2 pair.1
    intro hmem
    obtain ⟨pair', hpair'⟩ := List.mem_map.mp hmem
    have hsame : pair' = pair :=
      List.inj_on_of_nodup_map info.bindedCdevInfoMap.nodupKeys
        (List.takeWhile_subset _ hpair'.1) hpair hpair'.2
    exact hnot (hsame ▸ hpair'.1)

/-- A device is reached exactly when it and the devices in front of it are tracked. -/
theorem mem_reachedDevices {earlier later : List BindedCdevEntry} {pair : BindedCdevEntry}
    (hsplit : info.bindedCdevInfoMap.entries = earlier ++ pair :: later) :
    pair ∈ reachedDevices input info status ↔
      isTracked input.powerStatusMap status.throttlingReleaseMap pair = true ∧
        ∀ pair' ∈ earlier,
          isTracked input.powerStatusMap status.throttlingReleaseMap pair' = true := by
  have hnodup : (earlier ++ pair :: later).Nodup :=
    hsplit ▸ List.Nodup.of_map _ info.bindedCdevInfoMap.nodupKeys
  have hnot : pair ∉ earlier := fun hmem ↦
    (List.disjoint_of_nodup_append hnodup) hmem List.mem_cons_self
  unfold reachedDevices
  rw [hsplit]
  by_cases hall : ∀ pair' ∈ earlier,
      isTracked input.powerStatusMap status.throttlingReleaseMap pair' = true
  · rw [List.takeWhile_append_of_pos hall, List.mem_append, or_iff_right hnot]
    by_cases htracked : isTracked input.powerStatusMap status.throttlingReleaseMap pair = true
    · rw [List.takeWhile_cons_of_pos htracked]
      exact iff_of_true List.mem_cons_self ⟨htracked, hall⟩
    · rw [List.takeWhile_cons_of_neg htracked]
      exact iff_of_false List.not_mem_nil fun hboth ↦ htracked hboth.1
  · apply iff_of_false
    · intro hmem
      rw [List.takeWhile_append, if_neg] at hmem
      · exact hnot (List.takeWhile_subset _ hmem)
      · intro hlength
        apply hall
        exact List.takeWhile_eq_self_iff.mp
          (List.takeWhile_sublist _ |>.eq_of_length hlength)
    · exact fun hboth ↦ hall hboth.2

/-- Every tracked device has the step of its own rule if and only if those with another step are
reached. -/
theorem releaseSteps_independent_iff
    (hdevices : ∀ cdev ∈ info.bindedCdevInfoMap, cdev ∈ input.coolingDeviceInfoMap) : ∃ after,
    throttlingReleaseUpdate input info status = .ok after ∧
      (FollowsOwnRules input info status after ↔ MovingDevicesReached input info status) := by
  obtain ⟨after, hafter⟩ := @throttlingReleaseUpdate_steps input info status hdevices
  apply Exists.intro after
  apply And.intro hafter.1
  apply Iff.intro
  · intro hfollows earlier pair later hsplit htracked hmoving
    have hpair : pair ∈ info.bindedCdevInfoMap.entries := by
      rw [hsplit]
      exact List.mem_append_cons_self
    by_contra hunreached
    have hnot : pair ∉ reachedDevices input info status := by
      rw [mem_reachedDevices hsplit]
      exact fun hboth ↦ hunreached hboth.2
    apply hmoving
    exact (hfollows pair hpair htracked).symm.trans (hafter.2.2 pair hpair hnot)
  · intro hreached pair hpair htracked
    by_cases hmem : pair ∈ reachedDevices input info status
    · exact hafter.2.1 pair hmem
    · rw [hafter.2.2 pair hpair hmem]
      by_contra hmoving
      obtain ⟨earlier, later, hsplit⟩ := List.append_of_mem hpair
      apply hmem
      rw [mem_reachedDevices hsplit]
      exact ⟨htracked, hreached earlier pair later hsplit htracked (Ne.symm hmoving)⟩

end Update

/-! ## The steps of one device over time -/

/-- The steps that the rule of a device may lead to. A binding without a rule promises nothing. -/
def InReleaseRange (logic : ReleaseLogic) (maxState releaseStep : ℤ) : Prop :=
  match logic with
  | .increase => -maxState ≤ releaseStep ∧ releaseStep ≤ 0
  | .decrease | .releaseToFloor => 0 ≤ releaseStep ∧ releaseStep ≤ maxState
  | .stepwise => -maxState ≤ releaseStep ∧ releaseStep ≤ maxState
  | .none => True

/-- The power that an update reads for a device; none when the loop does not reach the device. -/
def releaseReading (input : UpdateInput) (info : ThrottlingInfo) (status : ThermalThrottlingStatus)
    (cdev : String) : Option ExactFloat :=
  ((reachedDevices input info status).find? fun pair ↦ pair.1 = cdev).bind fun pair ↦
    (input.powerStatusMap.lookup pair.2.powerRail).map PowerStatus.lastUpdatedAvgPower

/-- The step after a reading is in range, and a stepwise release goes one step up below the threshold
and one step down above it, to the two ends of its range. -/
structure ObeysRule (binding : BindedCdevInfo) (severity : ThrottlingSeverity) (maxState : ℤ)
    (reading : Option ExactFloat) (before after : ℤ) : Prop where
  range : InReleaseRange binding.releaseLogic maxState after
  rises : binding.releaseLogic = .stepwise → ∀ avgPower, reading = some avgPower →
    isInvalidPower avgPower = false → isOverBudget binding severity avgPower = false →
      after = if before = maxState then maxState else before + 1
  falls : binding.releaseLogic = .stepwise → ∀ avgPower, reading = some avgPower →
    isInvalidPower avgPower = false → isOverBudget binding severity avgPower = true →
      after = if before = -maxState then -maxState else before - 1

/-- A power above the threshold while a stepwise release is at its upper end, where the step does not
come down, or no power for a device that is then released at once though its steps are negative. -/
def Departs (binding : BindedCdevInfo) (severity : ThrottlingSeverity) (maxState : ℤ)
    (reading : Option ExactFloat) (before : ℤ) : Prop :=
  ∃ avgPower, reading = some avgPower ∧
    ((binding.releaseLogic = .stepwise ∧ before = maxState ∧ isInvalidPower avgPower = false ∧
        isOverBudget binding severity avgPower = true) ∨
      (binding.releaseLogic = .increase ∧ binding.throttlingWithPowerLink = true ∧
        isInvalidPower avgPower = true))

/-- The step of a device after an update that may have read its power. -/
def stepAfterReading (binding : BindedCdevInfo) (severity : ThrottlingSeverity) (maxState : ℤ)
    (reading : Option ExactFloat) (before : ℤ) : ℤ :=
  match reading with
  | none => before
  | some avgPower => releaseStepAfter binding severity maxState avgPower before

theorem updateReleaseStep_inRange {logic : ReleaseLogic} {maxState releaseStep : ℤ} (isOver : Bool)
    (hmax : 1 ≤ maxState) (hrange : InReleaseRange logic maxState releaseStep) :
    InReleaseRange logic maxState (updateReleaseStep logic isOver maxState releaseStep) := by
  unfold InReleaseRange at hrange ⊢
  unfold updateReleaseStep
  cases logic with
  | increase =>
    dsimp only at hrange ⊢
    have habs : |releaseStep| = -releaseStep := abs_of_nonpos hrange.2
    rw [habs]
    split
    · omega
    · split <;> omega
  | decrease =>
    dsimp only at hrange ⊢
    split
    · omega
    · split <;> omega
  | stepwise =>
    dsimp only at hrange ⊢
    split
    · split
      · rename_i hbelow
        have hlow := (abs_lt.mp hbelow).1
        omega
      · omega
    · split <;> omega
  | releaseToFloor =>
    dsimp only
    split <;> omega
  | none => trivial

/-- An update obeys the rule of a device whose step is in range exactly when its reading does not
depart from it. -/
theorem obeysRule_iff {binding : BindedCdevInfo} {severity : ThrottlingSeverity} {maxState before : ℤ}
    {reading : Option ExactFloat} (hmax : 1 ≤ maxState)
    (hrange : InReleaseRange binding.releaseLogic maxState before) :
    ObeysRule binding severity maxState reading before
        (stepAfterReading binding severity maxState reading before) ↔
      ¬ Departs binding severity maxState reading before := by
  cases reading with
  | none =>
    apply iff_of_true
    · apply ObeysRule.mk hrange
      · exact fun _ _ h ↦ nomatch h
      · exact fun _ _ h ↦ nomatch h
    · rintro ⟨avgPower, h, -⟩
      cases h
  | some avgPower =>
    unfold stepAfterReading
    dsimp only
    apply Iff.intro
    · rintro hobeys ⟨_, ⟨⟩, hstep | hlink⟩
      · have hfalls := hobeys.falls hstep.1 avgPower rfl hstep.2.2.1 hstep.2.2.2
        rw [releaseStepAfter, hstep.2.2.1, hstep.2.2.2, hstep.1, hstep.2.1] at hfalls
        have hstuck : updateReleaseStep .stepwise true maxState maxState = maxState := by
          have habs : ¬ |maxState| < maxState := not_lt.mpr (le_abs_self maxState)
          rw [updateReleaseStep, if_pos rfl, if_neg habs]
        rw [if_neg Bool.false_ne_true, hstuck, if_neg (by omega)] at hfalls
        omega
      · have hbound := hobeys.range
        rw [releaseStepAfter, hlink.2.2, if_pos rfl, hlink.2.1, if_pos rfl, hlink.1] at hbound
        have hnonpos : maxState ≤ 0 := hbound.2
        omega
    · intro hstays
      by_cases hinvalid : isInvalidPower avgPower = true
      · have hclear : ∀ hlogic : binding.releaseLogic = .increase,
            binding.throttlingWithPowerLink = false := by
          intro hlogic
          by_contra hlink
          apply hstays
          exact ⟨avgPower, rfl, Or.inr ⟨hlogic, Bool.eq_true_of_not_eq_false hlink, hinvalid⟩⟩
        have hvalue : releaseStepAfter binding severity maxState avgPower before =
            if binding.throttlingWithPowerLink then maxState else 0 := by
          rw [releaseStepAfter, if_pos hinvalid]
        rw [hvalue]
        apply ObeysRule.mk
        · unfold InReleaseRange
          cases hlogic : binding.releaseLogic with
          | increase =>
            rw [hclear hlogic, if_neg Bool.false_ne_true]
            exact ⟨by omega, le_rfl⟩
          | decrease =>
            dsimp only
            split <;> omega
          | stepwise =>
            dsimp only
            split <;> omega
          | releaseToFloor =>
            dsimp only
            split <;> omega
          | none => trivial
        · rintro - _ ⟨⟩ hvalid
          rw [hinvalid] at hvalid
          cases hvalid
        · rintro - _ ⟨⟩ hvalid
          rw [hinvalid] at hvalid
          cases hvalid
      · have hvalid : isInvalidPower avgPower = false := Bool.eq_false_of_not_eq_true hinvalid
        have hvalue : releaseStepAfter binding severity maxState avgPower before =
            updateReleaseStep binding.releaseLogic (isOverBudget binding severity avgPower) maxState
              before := by
          rw [releaseStepAfter, if_neg hinvalid]
        rw [hvalue]
        apply ObeysRule.mk
        · exact updateReleaseStep_inRange _ hmax hrange
        · rintro hlogic _ ⟨⟩ - hunder
          rw [hlogic] at hrange
          have hrange' : -maxState ≤ before ∧ before ≤ maxState := hrange
          rw [hlogic, hunder, updateReleaseStep, if_neg Bool.false_ne_true]
          by_cases htop : before = maxState
          · rw [if_pos htop, if_neg (by omega), htop]
          · rw [if_neg htop, if_pos (by omega)]
        · rintro hlogic _ ⟨⟩ - hover
          have hbelow : before ≠ maxState := by
            intro htop
            exact hstays ⟨avgPower, rfl, Or.inl ⟨hlogic, htop, hvalid, hover⟩⟩
          rw [hlogic] at hrange
          have hrange' : -maxState ≤ before ∧ before ≤ maxState := hrange
          rw [hlogic, hover, updateReleaseStep, if_pos rfl]
          by_cases hbottom : before = -maxState
          · have habs : ¬ |before| < maxState := by
              rw [hbottom, abs_neg, not_lt]
              exact le_abs_self maxState
            rw [if_pos hbottom, if_neg habs, hbottom]
          · have habs : |before| < maxState := abs_lt.mpr ⟨by omega, by omega⟩
            rw [if_neg hbottom, if_pos habs]

/-- A property of every update in a sequence of them. -/
def EveryReleaseUpdate (info : ThrottlingInfo)
    (P : ThermalThrottlingStatus → UpdateInput → ThermalThrottlingStatus → Prop) :
    ThermalThrottlingStatus → List UpdateInput → Prop
  | _, [] => True
  | status, input :: rest => ∀ after, throttlingReleaseUpdate input info status = .ok after →
      P status input after ∧ EveryReleaseUpdate info P after rest

section Runs

variable {info : ThrottlingInfo} {devices : CdevInfoMap} {cdev : String} {binding : BindedCdevInfo}
  {cdevInfo : CdevInfo}

/-- What an update does to the step of a device. -/
theorem throttlingReleaseUpdate_lookup {input : UpdateInput} {status after : ThermalThrottlingStatus}
    (hdevices : ∀ cdev ∈ info.bindedCdevInfoMap, cdev ∈ input.coolingDeviceInfoMap)
    (hbound : info.bindedCdevInfoMap.lookup cdev = some binding)
    (hdevice : input.coolingDeviceInfoMap.lookup cdev = some cdevInfo)
    (hupdate : throttlingReleaseUpdate input info status = .ok after) :
    after.throttlingReleaseMap.lookup cdev =
      (status.throttlingReleaseMap.lookup cdev).map
        (stepAfterReading binding input.currSeverity cdevInfo.maxState
          (releaseReading input info status cdev)) := by
  have hpair : (⟨cdev, binding⟩ : BindedCdevEntry) ∈
      info.bindedCdevInfoMap.entries := UnorderedMap.mem_entries_iff.mpr hbound
  obtain ⟨after', hafter⟩ := @throttlingReleaseUpdate_steps input info status hdevices
  have hsame : after' = after := Except.ok.inj (hafter.1.symm.trans hupdate)
  rw [hsame] at hafter
  by_cases hreached : (⟨cdev, binding⟩ : BindedCdevEntry) ∈
      reachedDevices input info status
  · have hfind : (reachedDevices input info status).find? (fun pair ↦ pair.1 = cdev) =
        some ⟨cdev, binding⟩ := by
      have hsome : ((reachedDevices input info status).find? fun pair ↦ pair.1 = cdev).isSome :=
        List.find?_isSome.mpr ⟨_, hreached, decide_eq_true rfl⟩
      obtain ⟨pair, hfound⟩ := Option.isSome_iff_exists.mp hsome
      rw [hfound]
      have hkey : pair.1 = cdev := by simpa using List.find?_some hfound
      exact congrArg some (List.inj_on_of_nodup_map info.bindedCdevInfoMap.nodupKeys
        (List.takeWhile_subset _ (List.mem_of_find?_eq_some hfound)) hpair hkey)
    have htracked : isTracked input.powerStatusMap status.throttlingReleaseMap ⟨cdev, binding⟩ = true :=
      List.mem_takeWhile_imp hreached
    rw [isTracked, Bool.and_eq_true, decide_eq_true_eq, decide_eq_true_eq] at htracked
    obtain ⟨power, hpower⟩ := UnorderedMap.mem_iff_lookup.mp htracked.2
    obtain ⟨before, hbefore⟩ := UnorderedMap.mem_iff_lookup.mp htracked.1
    calc
      after.throttlingReleaseMap.lookup cdev =
          ownStep input status ⟨cdev, binding⟩ := hafter.2.1 _ hreached
      _ = some (releaseStepAfter binding input.currSeverity cdevInfo.maxState
          power.lastUpdatedAvgPower before) := by
        rw [ownStep, hbefore, Option.bind_some, ownRule, hdevice, hpower]
        rfl
      _ = _ := by
        rw [releaseReading, hfind, Option.bind_some, hpower, hbefore]
        rfl
  · have hfind : (reachedDevices input info status).find? (fun pair ↦ pair.1 = cdev) = none := by
      apply List.find?_eq_none.mpr
      intro pair hmem hkey
      have hsame : pair = ⟨cdev, binding⟩ :=
        List.inj_on_of_nodup_map info.bindedCdevInfoMap.nodupKeys (List.takeWhile_subset _ hmem) hpair
          (of_decide_eq_true hkey)
      exact hreached (hsame ▸ hmem)
    rw [hafter.2.2 _ hpair hreached, releaseReading, hfind]
    exact (Option.map_id' ..).symm

/-- An update obeys the rule of a device. -/
def UpdateObeysRule (info : ThrottlingInfo) (cdev : String) (binding : BindedCdevInfo)
    (maxState : ℤ) (status : ThermalThrottlingStatus) (input : UpdateInput)
    (after : ThermalThrottlingStatus) : Prop :=
  ∀ step step', status.throttlingReleaseMap.lookup cdev = some step →
    after.throttlingReleaseMap.lookup cdev = some step' →
      ObeysRule binding input.currSeverity maxState (releaseReading input info status cdev) step step'

/-- The reading of an update does not depart from the rule of a device. -/
def UpdateStaysInRule (info : ThrottlingInfo) (cdev : String) (binding : BindedCdevInfo)
    (maxState : ℤ) (status : ThermalThrottlingStatus) (input : UpdateInput)
    (_ : ThermalThrottlingStatus) : Prop :=
  ∀ step, status.throttlingReleaseMap.lookup cdev = some step →
    ¬ Departs binding input.currSeverity maxState (releaseReading input info status cdev) step

/-- From steps in range, the updates obey the rule if and only if no reading departs from it. -/
theorem everyReleaseUpdate_iff
    (hdevices : ∀ cdev ∈ info.bindedCdevInfoMap, cdev ∈ devices)
    (hbound : info.bindedCdevInfoMap.lookup cdev = some binding)
    (hdevice : devices.lookup cdev = some cdevInfo) (hmax : 1 ≤ cdevInfo.maxState)
    {inputs : List UpdateInput} (hinputs : ∀ input ∈ inputs, input.coolingDeviceInfoMap = devices)
    {status : ThermalThrottlingStatus}
    (hrange : ∀ step, status.throttlingReleaseMap.lookup cdev = some step →
      InReleaseRange binding.releaseLogic cdevInfo.maxState step) :
    EveryReleaseUpdate info (UpdateObeysRule info cdev binding cdevInfo.maxState) status inputs ↔
      EveryReleaseUpdate info (UpdateStaysInRule info cdev binding cdevInfo.maxState) status
        inputs := by
  induction inputs generalizing status with
  | nil => exact Iff.rfl
  | cons input rest ih =>
    have hmap := hinputs input List.mem_cons_self
    unfold EveryReleaseUpdate
    apply forall_congr'
    intro after
    apply forall_congr'
    intro hupdate
    have hlookup := throttlingReleaseUpdate_lookup (hmap ▸ hdevices) hbound (hmap ▸ hdevice) hupdate
    have hround : UpdateObeysRule info cdev binding cdevInfo.maxState status input after ↔
        UpdateStaysInRule info cdev binding cdevInfo.maxState status input after := by
      apply forall_congr'
      intro step
      apply Iff.intro
      · intro hobeys hstep
        rw [hstep] at hlookup
        exact (obeysRule_iff hmax (hrange step hstep)).mp (hobeys _ hstep hlookup)
      · intro hstays step' hstep hstep'
        rw [hstep, Option.map_some, hstep'] at hlookup
        rw [Option.some.inj hlookup]
        exact (obeysRule_iff hmax (hrange step hstep)).mpr (hstays hstep)
    rw [← hround]
    apply and_congr_right
    intro hobeys
    apply ih fun input' hinput' ↦ hinputs input' (List.mem_cons_of_mem _ hinput')
    intro step' hstep'
    rw [hlookup] at hstep'
    obtain ⟨step, hstep⟩ := Option.map_eq_some_iff.mp hstep'
    exact (hobeys step step' hstep.1 (hlookup.trans hstep')).range

/-- From a cleared state, the updates obey the rule of a device if and only if no reading departs from
it. -/
theorem releaseSteps_obey_iff
    (hdevices : ∀ cdev ∈ info.bindedCdevInfoMap, cdev ∈ devices)
    (hbound : info.bindedCdevInfoMap.lookup cdev = some binding)
    (hdevice : devices.lookup cdev = some cdevInfo) (hmax : 1 ≤ cdevInfo.maxState)
    (inputs : List UpdateInput) (hinputs : ∀ input ∈ inputs, input.coolingDeviceInfoMap = devices)
    (start : ThermalThrottlingStatus) :
    EveryReleaseUpdate info (UpdateObeysRule info cdev binding cdevInfo.maxState) (clearStatus start)
        inputs ↔
      EveryReleaseUpdate info (UpdateStaysInRule info cdev binding cdevInfo.maxState)
        (clearStatus start) inputs := by
  apply everyReleaseUpdate_iff hdevices hbound hdevice hmax hinputs
  intro step hstep
  have hcleared : (clearStatus start).throttlingReleaseMap =
      start.throttlingReleaseMap.mapValues fun _ _ ↦ 0 := rfl
  rw [hcleared, UnorderedMap.lookup_mapValues] at hstep
  obtain ⟨old, hold⟩ := Option.map_eq_some_iff.mp hstep
  rw [← hold.2]
  unfold InReleaseRange
  cases binding.releaseLogic with
  | increase => exact ⟨by omega, le_rfl⟩
  | decrease => exact ⟨le_rfl, by omega⟩
  | stepwise => exact ⟨by omega, by omega⟩
  | releaseToFloor => exact ⟨le_rfl, by omega⟩
  | none => trivial

end Runs

/-! ## A device behind one without a rail -/

/-- A device that is released step by step while its rail is below 1000 mW. -/
def releasedBinding (logic : ReleaseLogic) : BindedCdevInfo :=
  { (default : BindedCdevInfo) with
    powerThresholds := fun _ ↦ .fin 1000
    releaseLogic := logic
    powerRail := "VDD_CPU" }

/-- The processor with a rail, and the graphics processor in front of it or not. -/
def railedInfo (logic : ReleaseLogic) (withGpu : Bool) : ThrottlingInfo :=
  { (default : ThrottlingInfo) with
    bindedCdevInfoMap :=
      if withGpu then
        ((∅ : BindedCdevInfoMap).insert "cpu" (releasedBinding logic)).insert "gpu" default
      else (∅ : BindedCdevInfoMap).insert "cpu" (releasedBinding logic) }

/-- A reading of the rail of the processor. -/
def railedInput (avgPower : ExactFloat) (maxState : ℤ) : UpdateInput where
  temp := ⟨"SKIN", "soc", .fin 45, .light⟩
  sensorInfo := default
  currSeverity := .light
  timeElapsedMs := 1000
  powerStatusMap := (∅ : PowerStatusMap).insert "VDD_CPU" ⟨0, [], avgPower, true⟩
  coolingDeviceInfoMap := ((∅ : CdevInfoMap).insert "cpu"
    { (default : CdevInfo) with maxState := maxState }).insert "gpu" default
  maxThrottling := false
  sensorPredictions := []
  profileProperty := ""
  round := binary32.round

def railedStatus (releaseStep : ℤ) : ThermalThrottlingStatus :=
  { initialStatus with
    throttlingReleaseMap := (∅ : UnorderedMap String ℤ).insert "cpu" releaseStep }

theorem railedInfo_devices (logic : ReleaseLogic) (avgPower : ExactFloat) (maxState : ℤ) :
    ∀ cdev ∈ (railedInfo logic false).bindedCdevInfoMap,
      cdev ∈ (railedInput avgPower maxState).coolingDeviceInfoMap := by
  intro cdev hcdev
  obtain ⟨binding, hbinding⟩ := UnorderedMap.mem_iff_lookup.mp hcdev
  rw [(UnorderedMap.eq_of_lookup_insert_empty hbinding).1, AList.mem_keys]
  exact List.mem_cons_of_mem _ List.mem_cons_self

/-- Both processors with a rail, the graphics processor in front. -/
def pairedInfo : ThrottlingInfo :=
  { (default : ThrottlingInfo) with
    bindedCdevInfoMap :=
      ((∅ : BindedCdevInfoMap).insert "cpu" (releasedBinding .decrease)).insert "gpu"
        { releasedBinding .stepwise with powerRail := "VDD_GPU" } }

/-- The processor is below its threshold, the graphics processor above. -/
def pairedInput : UpdateInput :=
  { railedInput (.fin 300) 3 with
    powerStatusMap := ((∅ : PowerStatusMap).insert "VDD_CPU" ⟨0, [], .fin 300, true⟩).insert "VDD_GPU"
      ⟨0, [], .fin 1500, true⟩
    coolingDeviceInfoMap := ((∅ : CdevInfoMap).insert "cpu"
      { (default : CdevInfo) with maxState := 3 }).insert "gpu" { (default : CdevInfo) with maxState := 3 } }

def pairedStatus : ThermalThrottlingStatus :=
  { initialStatus with
    throttlingReleaseMap := ((∅ : UnorderedMap String ℤ).insert "cpu" 0).insert "gpu" 2 }

/-- Behind a device with a rail, the processor gets the step of its own rule, and so does the other one:
the first goes up and the second down. -/
theorem pairedStatus_follows : ∃ after,
    throttlingReleaseUpdate pairedInput pairedInfo pairedStatus = .ok after ∧
      FollowsOwnRules pairedInput pairedInfo pairedStatus after ∧
      after.throttlingReleaseMap.lookup "cpu" = some 1 ∧
      after.throttlingReleaseMap.lookup "gpu" = some 1 := by
  have hdevices : ∀ cdev ∈ pairedInfo.bindedCdevInfoMap.keys,
      cdev ∈ pairedInput.coolingDeviceInfoMap := by decide
  have htracked : ∀ pair ∈ pairedInfo.bindedCdevInfoMap.entries,
      isTracked pairedInput.powerStatusMap pairedStatus.throttlingReleaseMap pair = true := by decide
  have hreached : MovingDevicesReached pairedInput pairedInfo pairedStatus := by
    intro earlier pair later hsplit _ _ other hother
    apply htracked
    rw [hsplit]
    exact List.mem_append_left _ hother
  obtain ⟨after, hupdate, hfollows⟩ :=
    @releaseSteps_independent_iff pairedInput pairedInfo pairedStatus hdevices
  have hown := hfollows.mpr hreached
  refine ⟨after, hupdate, hown, ?_, ?_⟩
  · exact hown ⟨"cpu", releasedBinding .decrease⟩ (List.mem_cons_of_mem _ List.mem_cons_self) (by decide)
  · exact hown ⟨"gpu", { releasedBinding .stepwise with powerRail := "VDD_GPU" }⟩ List.mem_cons_self
      (by decide)

/-- Behind the graphics processor, it keeps its step. -/
theorem railedStatus_stays :
    ¬ ∀ (input : UpdateInput) (info : ThrottlingInfo) (status after : ThermalThrottlingStatus),
      throttlingReleaseUpdate input info status = .ok after →
        FollowsOwnRules input info status after := by
  intro hfollows
  have hupdate : throttlingReleaseUpdate (railedInput (.fin 300) 3) (railedInfo .decrease true)
      (railedStatus 0) = .ok (railedStatus 0) := rfl
  have hstep := hfollows _ _ _ _ hupdate ⟨"cpu", releasedBinding .decrease⟩
    (List.mem_cons_of_mem _ List.mem_cons_self) (by decide)
  have hmoves : ownStep (railedInput (.fin 300) 3) (railedStatus 0)
      ⟨"cpu", releasedBinding .decrease⟩ = some 1 := by decide +kernel
  rw [hmoves] at hstep
  exact absurd hstep (by decide)

/-! ## A device at the upper end of a stepwise release -/

/-- The release step after one reading. -/
def railedAfter (releaseStep : ℤ) : ThermalThrottlingStatus :=
  { clearStatus (railedStatus 0) with
    throttlingReleaseMap := (clearStatus (railedStatus 0)).throttlingReleaseMap.assign "cpu" releaseStep }

theorem railedAfter_eq : throttlingReleaseUpdate (railedInput (.fin 300) 1) (railedInfo .stepwise false)
    (clearStatus (railedStatus 0)) = .ok (railedAfter 1) := rfl

/-- One power below the threshold raises the step of a device with a lower state to 1. -/
theorem railedStatus_obeys : EveryReleaseUpdate (railedInfo .stepwise false)
    (UpdateObeysRule (railedInfo .stepwise false) "cpu" (releasedBinding .stepwise) 1)
    (clearStatus (railedStatus 0)) [railedInput (.fin 300) 1] := by
  have hdevice : (railedInput (.fin 300) 1).coolingDeviceInfoMap.lookup "cpu" =
      some { (default : CdevInfo) with maxState := 1 } := rfl
  apply (releaseSteps_obey_iff (railedInfo_devices .stepwise (.fin 300) 1) rfl hdevice le_rfl
    [railedInput (.fin 300) 1]
    (fun input hinput ↦ congrArg _ (List.mem_singleton.mp hinput)) (railedStatus 0)).mpr
  intro after hafter
  apply And.intro
  · rintro step hstep ⟨avgPower, -, hsticks | hlinked⟩
    · have hzero : (0 : ℤ) = step := Option.some.inj hstep
      rw [← hzero] at hsticks
      exact absurd hsticks.2.1 zero_ne_one
    · exact absurd hlinked.2.1 Bool.false_ne_true
  · trivial

/-- A power above the threshold does not lower it again. -/
theorem railedStatus_sticks :
    ¬ ∀ (info : ThrottlingInfo) (devices : CdevInfoMap) (cdev : String) (binding : BindedCdevInfo)
      (cdevInfo : CdevInfo), (∀ cdev ∈ info.bindedCdevInfoMap, cdev ∈ devices) →
        info.bindedCdevInfoMap.lookup cdev = some binding → devices.lookup cdev = some cdevInfo →
        1 ≤ cdevInfo.maxState → ∀ inputs : List UpdateInput,
          (∀ input ∈ inputs, input.coolingDeviceInfoMap = devices) →
            ∀ start : ThermalThrottlingStatus,
              EveryReleaseUpdate info (UpdateObeysRule info cdev binding cdevInfo.maxState)
                (clearStatus start) inputs := by
  intro hobeys
  have hruns := hobeys (railedInfo .stepwise false) (railedInput (.fin 300) 1).coolingDeviceInfoMap
    "cpu" (releasedBinding .stepwise) { (default : CdevInfo) with maxState := 1 }
    (railedInfo_devices .stepwise (.fin 300) 1) rfl rfl le_rfl
    [railedInput (.fin 300) 1, railedInput (.fin 1200) 1] (by
      intro input hinput
      apply Or.elim (List.mem_cons.mp hinput)
      · exact fun hsame ↦ congrArg _ hsame
      · intro hrest
        rw [List.mem_singleton.mp hrest]
        rfl)
    (railedStatus 0)
  have hsecond := (hruns _ railedAfter_eq).2 (railedAfter 1) rfl
  have hfalls := (hsecond.1 1 1 rfl rfl).falls rfl (.fin 1200) (by decide +kernel) rfl
    (by decide +kernel)
  exact absurd hfalls (by decide)

end HardwareMediatek.Thermal
