import HardwareMediatek.Foundation.FloatFormat
import HardwareMediatek.Thermal.Throttling

/-!
# Runs of the throttling algorithms

The sensors with throttling are registered once. After that, sensors are
cleared, updated and have their votes computed, in any order. A run collects
the cooling devices that were reported for an update on the way.

The second part says what an update leaves alone: no call adds or removes a
key of a map that registration has filled, and only the computation of the
votes changes a vote.
-/

namespace HardwareMediatek.Thermal

/-- The sensors and cooling devices that the helper was configured with. -/
structure ThrottlingSetup where
  sensorInfoMap : UnorderedMap String SensorInfo
  coolingDeviceInfoMap : CdevInfoMap

/-- Register every sensor that has throttling; none when a registration fails. -/
def registerSensors (coolingDeviceInfoMap : CdevInfoMap) :
    List SensorEntry → ThermalThrottling → Option ThermalThrottling
  | [], tt => some tt
  | ⟨sensorName, sensorInfo⟩ :: rest, tt =>
    match sensorInfo.throttlingInfo with
    | none => registerSensors coolingDeviceInfoMap rest tt
    | some info =>
      let (tt, registered) :=
        registerThermalThrottling tt sensorName (some info) coolingDeviceInfoMap
      if registered then registerSensors coolingDeviceInfoMap rest tt else none

/-- The state after a successful registration of all sensors. -/
def ThrottlingSetup.registered (setup : ThrottlingSetup) : Option ThermalThrottling :=
  registerSensors setup.coolingDeviceInfoMap setup.sensorInfoMap.entries .empty

/-- An update as the helper calls it: for a sensor with its own settings, and computed with `float`. -/
structure ThrottlingSetup.Calls (setup : ThrottlingSetup) (input : UpdateInput) : Prop where
  sensor : setup.sensorInfoMap.lookup input.temp.name = some input.sensorInfo
  devices : input.coolingDeviceInfoMap = setup.coolingDeviceInfoMap
  float : input.round = binary32.round

/-- One call that returns, with the devices it reports. -/
inductive ThrottlingStep (setup : ThrottlingSetup) :
    ThermalThrottling → List String → ThermalThrottling → Prop where
  | clear (tt : ThermalThrottling) (sensorName : String) :
      ThrottlingStep setup tt [] (clearThrottlingData tt sensorName)
  | update {tt tt' : ThermalThrottling} (input : UpdateInput) (hcalls : setup.Calls input)
      (hreturns : thermalThrottlingUpdate tt input = .ok tt') : ThrottlingStep setup tt [] tt'
  | compute {tt tt' : ThermalThrottling} {reported : List String} (sensorName : String)
      (sensorInfo : SensorInfo) (currSeverity : ThrottlingSeverity)
      (hsensor : setup.sensorInfoMap.lookup sensorName = some sensorInfo)
      (hreturns : computeCoolingDevicesRequest tt sensorName sensorInfo currSeverity =
        .ok (tt', reported)) : ThrottlingStep setup tt reported tt'

/-- A sequence of calls, with all devices reported on the way. -/
inductive ThrottlingRun (setup : ThrottlingSetup) (start : ThermalThrottling) :
    ThermalThrottling → List String → Prop where
  | start : ThrottlingRun setup start start []
  | call {tt tt' : ThermalThrottling} {reported out : List String}
      (before : ThrottlingRun setup start tt reported) (step : ThrottlingStep setup tt out tt') :
      ThrottlingRun setup start tt' (reported ++ out)

/-- What every call preserves holds at the end of a run. -/
theorem ThrottlingRun.invariant {setup : ThrottlingSetup} {start tt : ThermalThrottling}
    {reported : List String} {I : ThermalThrottling → Prop} (h : ThrottlingRun setup start tt reported)
    (hstep : ∀ tt out tt', I tt → ThrottlingStep setup tt out tt' → I tt') (hstart : I start) :
    I tt := by
  induction h with
  | start => exact hstart
  | call _ step ih => exact hstep _ _ _ ih step

/-- A property of the status of every registered sensor. -/
def EveryStatus (Q : String → ThermalThrottlingStatus → Prop) (tt : ThermalThrottling) : Prop :=
  ∀ sensor status, tt.thermalThrottlingStatusMap.lookup sensor = some status → Q sensor status

theorem EveryStatus.empty (Q : String → ThermalThrottlingStatus → Prop) : EveryStatus Q .empty := by
  intro sensor status h
  rw [ThermalThrottling.empty, AList.lookup_empty] at h
  cases h

/-- One sensor gets another status with the property. -/
theorem EveryStatus.put {Q : String → ThermalThrottlingStatus → Prop} {tt : ThermalThrottling}
    (h : EveryStatus Q tt) {sensor : String} {status : ThermalThrottlingStatus}
    (hstatus : Q sensor status) (votes : CdevAllRequestMap) :
    EveryStatus Q ⟨tt.thermalThrottlingStatusMap.put sensor status, votes⟩ := by
  intro sensor' status' hlookup
  dsimp only at hlookup
  rw [UnorderedMap.lookup_put] at hlookup
  split at hlookup
  · rename_i hsensor
    subst hsensor
    obtain rfl := Option.some.inj hlookup
    exact hstatus
  · exact h sensor' status' hlookup

/-! ## Bindings in force -/

/-- A binding that is in force under some profile. -/
def ThrottlingInfo.Binds (info : ThrottlingInfo) (bindings : BindedCdevInfoMap) : Prop :=
  bindings = info.bindedCdevInfoMap ∨ ∃ profile, info.profileMap.lookup profile = some bindings

theorem selectBindings_binds (info : ThrottlingInfo) (profile : String) :
    info.Binds (selectBindings info profile) := by
  unfold selectBindings
  cases h : info.profileMap.lookup profile with
  | none => exact Or.inl rfl
  | some bindings => exact Or.inr ⟨profile, h⟩

/-- Every profile binds the devices of the default binding, and no others. -/
def ThrottlingInfo.ProfilesMatchDefault (info : ThrottlingInfo) : Prop :=
  ∀ profile bindings, info.profileMap.lookup profile = some bindings →
    ∀ cdev, cdev ∈ bindings ↔ cdev ∈ info.bindedCdevInfoMap

theorem ThrottlingInfo.ProfilesMatchDefault.mem_selectBindings {info : ThrottlingInfo}
    (h : info.ProfilesMatchDefault) (profile : String) {cdev : String} :
    cdev ∈ selectBindings info profile ↔ cdev ∈ info.bindedCdevInfoMap := by
  rcases selectBindings_binds info profile with heq | ⟨profile', hprofile⟩
  · rw [heq]
  · exact h profile' _ hprofile cdev

/-! ## What an update leaves alone -/

/-- The keys of the five maps are the same. -/
structure SameShape (status status' : ThermalThrottlingStatus) : Prop where
  budgets : status'.pidPowerBudgetMap.keys = status.pidPowerBudgetMap.keys
  requests : status'.pidCdevRequestMap.keys = status.pidCdevRequestMap.keys
  hardlimits : status'.hardlimitCdevRequestMap.keys = status.hardlimitCdevRequestMap.keys
  releases : status'.throttlingReleaseMap.keys = status.throttlingReleaseMap.keys
  votes : status'.cdevStatusMap.keys = status.cdevStatusMap.keys

namespace SameShape

variable {status status' status'' : ThermalThrottlingStatus}

@[refl]
theorem refl (status : ThermalThrottlingStatus) : SameShape status status :=
  ⟨rfl, rfl, rfl, rfl, rfl⟩

theorem trans (h : SameShape status status') (h' : SameShape status' status'') :
    SameShape status status'' :=
  ⟨h'.budgets.trans h.budgets, h'.requests.trans h.requests, h'.hardlimits.trans h.hardlimits,
    h'.releases.trans h.releases, h'.votes.trans h.votes⟩

end SameShape

/-- What an update of a sensor may change: the terms of the algorithms and the values of four
maps, but no key, no vote, and no request below zero. -/
structure UpdateFrame (status status' : ThermalThrottlingStatus) : Prop where
  shape : SameShape status status'
  votes : status'.cdevStatusMap = status.cdevStatusMap
  requests : (∀ cdev request, status.pidCdevRequestMap.lookup cdev = some request → 0 ≤ request) →
    ∀ cdev request, status'.pidCdevRequestMap.lookup cdev = some request → 0 ≤ request

theorem UpdateFrame.refl (status : ThermalThrottlingStatus) : UpdateFrame status status :=
  ⟨SameShape.refl status, rfl, id⟩

theorem UpdateFrame.trans {status status' status'' : ThermalThrottlingStatus}
    (h : UpdateFrame status status') (h' : UpdateFrame status' status'') :
    UpdateFrame status status'' :=
  ⟨h.shape.trans h'.shape, h'.votes.trans h.votes, fun hstart ↦ h'.requests (h.requests hstart)⟩

section Frame

variable {input : UpdateInput} {info : ThrottlingInfo} {votes : CdevAllRequestMap}
  {status : ThermalThrottlingStatus}

theorem getPowerData_budgets (powerStatusMap : PowerStatusMap) (binding : BindedCdevInfo)
    (s : AllocationState) :
    Meets (getPowerData powerStatusMap binding s)
      (fun flow ↦ flow.state.pidPowerBudgetMap = s.pidPowerBudgetMap) fun _ ↦ True := by
  unfold getPowerData
  split
  · rfl
  · split
    · refine (meets_true _).bind fun powerStatus _ ↦ ?_
      dsimp only
      split
      · rfl
      · split <;> rfl
    · rfl

theorem checkLowPowerDevice_budgets (pair : BindedCdevEntry) (s : AllocationState) :
    Meets (checkLowPowerDevice input status pair s)
      (fun flow ↦ flow.state.pidPowerBudgetMap = s.pidPowerBudgetMap) fun _ ↦ True := by
  unfold checkLowPowerDevice
  dsimp only
  split
  · rfl
  · refine (getPowerData_budgets _ _ s).bind fun flow hflow ↦ ?_
    match flow, hflow with
    | .next s', hs' =>
      dsimp only
      split
      · refine (meets_true _).bind fun request _ ↦ ?_
        split <;> exact hs'
      · exact hs'
    | .stop s', hs' => exact hs'
    | .giveUp s', hs' => exact hs'

theorem deviceBudget_keys (pair : BindedCdevEntry) (cdevInfo : CdevInfo)
    (adjustment : ExactFloat) (s : AllocationState) :
    Meets (deviceBudget input votes status pair cdevInfo adjustment s)
      (fun flow ↦ flow.state.pidPowerBudgetMap.keys = s.pidPowerBudgetMap.keys) fun _ ↦ True := by
  unfold deviceBudget
  refine (meets_true _).bind fun _ _ ↦ (meets_true _).bind fun _ _ ↦
    (meets_true _).bind fun found _ ↦ ?_
  match found with
  | none => rfl
  | some maxCdevVote =>
    refine (meets_true _).bind fun _ _ ↦ (meets_true _).bind fun _ _ ↦
      (meets_true _).bind fun _ _ ↦ ?_
    exact UnorderedMap.keys_assign _ _ _

theorem allocateDevice_keys (pair : BindedCdevEntry) (s : AllocationState) :
    Meets (allocateDevice input votes status pair s)
      (fun flow ↦ flow.state.pidPowerBudgetMap.keys = s.pidPowerBudgetMap.keys) fun _ ↦ True := by
  unfold allocateDevice
  split
  · rfl
  · refine (getPowerData_budgets _ _ s).bind fun flow hflow ↦ ?_
    match flow, hflow with
    | .next s', hs' =>
      have hkeys : s'.pidPowerBudgetMap.keys = s.pidPowerBudgetMap.keys := congrArg AList.keys hs'
      refine (meets_true _).bind fun cdevInfo _ ↦ ?_
      refine (meets_true _).bind fun atMax _ ↦ ?_
      split
      · exact hkeys
      · exact (deviceBudget_keys _ _ _ s').imp fun _ h ↦ h.trans hkeys
    | .stop s', hs' => exact congrArg AList.keys hs'
    | .giveUp s', hs' => exact congrArg AList.keys hs'

theorem addWeight_budgets (round : ExactFloat → ExactFloat) (currSeverity : ThrottlingSeverity)
    (pairs : List BindedCdevEntry) (s : AllocationState) :
    (pairs.foldl (addWeight round currSeverity) s).pidPowerBudgetMap = s.pidPowerBudgetMap := by
  induction pairs generalizing s with
  | nil => rfl
  | cons pair rest ih =>
    rw [List.foldl_cons, ih]
    unfold addWeight
    dsimp only
    split
    · rfl
    · split <;> rfl

/-- The first loop marks the enabled devices without a weight, and no power data are read in it. -/
theorem addWeight_marks (round : ExactFloat → ExactFloat) (currSeverity : ThrottlingSeverity)
    (pair : BindedCdevEntry) (s : AllocationState) :
    (addWeight round currSeverity s pair).allocatedCdev =
        (if pair.2.enabled && ((pair.2.cdevWeightForPid currSeverity).isNaN ||
          (pair.2.cdevWeightForPid currSeverity).feq 0) then pair.1 :: s.allocatedCdev
        else s.allocatedCdev) ∧
      (addWeight round currSeverity s pair).powerDataInvalid = s.powerDataInvalid := by
  unfold addWeight
  dsimp only
  cases pair.2.enabled with
  | false => exact ⟨rfl, rfl⟩
  | true =>
    rw [Bool.not_true, Bool.true_and]
    by_cases hweight : ((pair.2.cdevWeightForPid currSeverity).isNaN ||
        (pair.2.cdevWeightForPid currSeverity).feq 0) = true
    · rw [if_pos hweight, if_pos hweight]
      exact ⟨rfl, rfl⟩
    · rw [if_neg hweight, if_neg hweight]
      exact ⟨rfl, rfl⟩

theorem foldl_addWeight_marks (round : ExactFloat → ExactFloat) (currSeverity : ThrottlingSeverity)
    (pairs : List BindedCdevEntry) (s : AllocationState) (cdev : String) :
    (cdev ∈ (pairs.foldl (addWeight round currSeverity) s).allocatedCdev ↔
        cdev ∈ s.allocatedCdev ∨ ∃ pair ∈ pairs, pair.1 = cdev ∧
          (pair.2.enabled && ((pair.2.cdevWeightForPid currSeverity).isNaN ||
            (pair.2.cdevWeightForPid currSeverity).feq 0)) = true) ∧
      (pairs.foldl (addWeight round currSeverity) s).powerDataInvalid = s.powerDataInvalid := by
  induction pairs generalizing s with
  | nil => simp
  | cons pair rest ih =>
    have hround := addWeight_marks round currSeverity pair s
    rw [List.foldl_cons]
    apply And.intro
    · rw [(ih _).1, hround.1]
      simp only [List.mem_cons, exists_eq_or_imp]
      by_cases hmarked : (pair.2.enabled && ((pair.2.cdevWeightForPid currSeverity).isNaN ||
          (pair.2.cdevWeightForPid currSeverity).feq 0)) = true
      · rw [if_pos hmarked, List.mem_cons, and_iff_left hmarked, eq_comm (a := pair.1)]
        tauto
      · rw [if_neg hmarked]
        tauto
    · rw [(ih _).2, hround.2]

theorem settlePass_budgets (round : ExactFloat → ExactFloat) (s : AllocationState) :
    (settlePass round s).pidPowerBudgetMap = s.pidPowerBudgetMap := by
  unfold settlePass
  dsimp only
  split <;> rfl

theorem initialAllocation_budgets (bindings : BindedCdevInfoMap) (total : ExactFloat) :
    (initialAllocation input status bindings total).pidPowerBudgetMap = status.pidPowerBudgetMap :=
  addWeight_budgets _ _ _ _

theorem allocatePass_keys (bindings : BindedCdevInfoMap) (s : AllocationState) :
    Meets (allocatePass input votes status bindings s)
      (fun r ↦ r.1.keys = s.pidPowerBudgetMap.keys) fun _ ↦ True := by
  unfold allocatePass
  have hpass : Meets (iterate (allocateDevice input votes status) bindings.entries s)
      (fun flow ↦ flow.state.pidPowerBudgetMap.keys = s.pidPowerBudgetMap.keys) fun _ ↦ True :=
    meets_iterate (I := fun s' ↦ s'.pidPowerBudgetMap.keys = s.pidPowerBudgetMap.keys)
      (fun pair _ s' hs' ↦ (allocateDevice_keys pair s').imp fun _ hflow ↦ hflow.trans hs') rfl
  refine hpass.bind fun flow hflow ↦ ?_
  match flow, hflow with
  | .giveUp s', hs' => exact hs'
  | .next s', hs' => exact hs'
  | .stop s', hs' => exact hs'

/-- The first pass leaves the budgets alone. -/
theorem firstPass_budgets (bindings : BindedCdevInfoMap) (total : ExactFloat) :
    Meets (iterate (checkLowPowerDevice input status) bindings.entries
        (initialAllocation input status bindings total))
      (fun flow ↦ flow.state.pidPowerBudgetMap = status.pidPowerBudgetMap) fun _ ↦ True :=
  meets_iterate (I := fun s ↦ s.pidPowerBudgetMap = status.pidPowerBudgetMap)
    (fun pair _ s hs ↦ (checkLowPowerDevice_budgets pair s).imp fun _ hflow ↦ hflow.trans hs)
    (initialAllocation_budgets bindings total)

theorem allocatePasses_keys (bindings : BindedCdevInfoMap) (total : ExactFloat) :
    Meets (allocatePasses input votes status bindings total)
      (fun r ↦ r.1.keys = status.pidPowerBudgetMap.keys) fun _ ↦ True := by
  unfold allocatePasses
  have hsecond : ∀ s : AllocationState, s.pidPowerBudgetMap = status.pidPowerBudgetMap →
      Meets (allocatePass input votes status bindings (settlePass input.round s))
        (fun r ↦ r.1.keys = status.pidPowerBudgetMap.keys) fun _ ↦ True := by
    intro s hs
    refine (allocatePass_keys bindings _).imp fun r hr ↦ ?_
    rw [hr, settlePass_budgets, hs]
  refine (firstPass_budgets bindings total).bind fun flow hflow ↦ ?_
  match flow, hflow with
  | .giveUp s, hs => exact congrArg AList.keys hs
  | .next s, hs => exact hsecond s hs
  | .stop s, hs => exact hsecond s hs

theorem allocatePowerToCdev_frame :
    Meets (allocatePowerToCdev input info votes status) (fun r ↦ UpdateFrame status r.1)
      fun _ ↦ True := by
  unfold allocatePowerToCdev
  refine (meets_true _).bind fun budget _ ↦ (allocatePasses_keys _ _).bind fun r hr ↦ ?_
  exact ⟨⟨hr, rfl, rfl, rfl, rfl⟩, rfl, id⟩

theorem powerToState_nonneg (budget : ExactFloat) (state2power : List ExactFloat) :
    Meets (powerToState budget state2power) (fun state ↦ 0 ≤ state ∧ state < state2power.length)
      fun fault ↦ fault = .badIndex ∧ state2power = [] := by
  induction state2power with
  | nil => exact ⟨rfl, rfl⟩
  | cons power rest ih =>
    cases rest with
    | nil => simp [powerToState]
    | cons power' rest' =>
      unfold powerToState
      split
      · simp only [meets_ok, List.length_cons]
        omega
      · refine (ih.mono (fun _ h ↦ h) fun _ h ↦ ?_).bind fun state hstate ↦ ?_
        · exact absurd h.2 (by simp)
        · simp only [meets_pure, List.length_cons] at hstate ⊢
          omega

theorem updateCdevRequestByPower_frame (coolingDeviceInfoMap : CdevInfoMap) :
    Meets (updateCdevRequestByPower coolingDeviceInfoMap status) (UpdateFrame status)
      fun _ ↦ True := by
  unfold updateCdevRequestByPower
  refine Meets.bind (meets_forEach
    (I := fun requests ↦ requests.keys = status.pidCdevRequestMap.keys ∧
      ((∀ cdev request, status.pidCdevRequestMap.lookup cdev = some request → 0 ≤ request) →
        ∀ cdev request, requests.lookup cdev = some request → 0 ≤ request)) ?_ ⟨rfl, id⟩)
    fun requests hrequests ↦ ⟨⟨rfl, hrequests.1, rfl, rfl, rfl⟩, rfl, hrequests.2⟩
  · intro pair _ requests hrequests
    unfold requestByPower
    refine (meets_true _).bind fun cdevInfo _ ↦ ?_
    refine ((powerToState_nonneg _ _).mono (fun _ h ↦ h) fun _ _ ↦ trivial).bind
      fun state hstate ↦ ?_
    refine (meets_true _).bind fun _ _ ↦ ?_
    refine ⟨(UnorderedMap.keys_assign _ _ _).trans hrequests.1, fun hstart cdev request h ↦ ?_⟩
    rw [UnorderedMap.lookup_assign] at h
    obtain ⟨old, hold, rfl⟩ := Option.map_eq_some_iff.mp h
    split
    · exact hstate.1
    · exact hrequests.2 hstart cdev old hold

theorem updatePid_frame :
    Meets (updatePid input info votes status) (UpdateFrame status) fun _ ↦ True := by
  unfold updatePid
  split
  · refine allocatePowerToCdev_frame.bind fun r hr ↦ ?_
    refine (updateCdevRequestByPower_frame _).imp fun status' hstatus' ↦ ?_
    refine UpdateFrame.trans ?_ hstatus'
    split
    · exact hr
    · refine hr.trans ⟨⟨rfl, UnorderedMap.keys_mapValues _ _, rfl, rfl, rfl⟩, rfl, ?_⟩
      intro _ cdev request h
      rw [UnorderedMap.lookup_mapValues] at h
      obtain ⟨old, -, rfl⟩ := Option.map_eq_some_iff.mp h
      exact le_rfl
  · exact UpdateFrame.refl status

theorem updateCdevRequestBySeverity_frame (currSeverity : ThrottlingSeverity) :
    UpdateFrame status (updateCdevRequestBySeverity info currSeverity status) := by
  have hkeys : ∀ (pairs : List BindedCdevEntry)
      (requests : UnorderedMap String ℤ),
      (pairs.foldl (requestBySeverity currSeverity) requests).keys = requests.keys := by
    intro pairs
    induction pairs with
    | nil => exact fun _ ↦ rfl
    | cons pair rest ih =>
      intro requests
      rw [List.foldl_cons, ih]
      exact UnorderedMap.keys_assign _ _ _
  exact ⟨⟨rfl, rfl, hkeys _ _, rfl, rfl⟩, rfl, id⟩

theorem releaseUpdate_keys (coolingDeviceInfoMap : CdevInfoMap) (powerStatusMap : PowerStatusMap)
    (severity : ThrottlingSeverity) (pair : BindedCdevEntry) (releaseMap : UnorderedMap String ℤ) :
    Meets (releaseUpdate coolingDeviceInfoMap powerStatusMap severity pair releaseMap)
      (fun flow ↦ flow.state.keys = releaseMap.keys) fun _ ↦ True := by
  unfold releaseUpdate
  split
  · refine (meets_true _).bind fun cdevInfo _ ↦ ?_
    dsimp only
    split <;> exact UnorderedMap.keys_assign _ _ _
  · rfl

theorem throttlingReleaseUpdate_frame :
    Meets (throttlingReleaseUpdate input info status) (UpdateFrame status) fun _ ↦ True := by
  unfold throttlingReleaseUpdate
  refine Meets.bind (meets_iterate
    (I := fun releaseMap ↦ releaseMap.keys = status.throttlingReleaseMap.keys)
    (fun pair _ releaseMap h ↦ (releaseUpdate_keys _ _ _ pair releaseMap).imp
      fun _ hflow ↦ hflow.trans h) rfl) fun flow hflow ↦ ?_
  exact ⟨⟨rfl, rfl, rfl, hflow, rfl⟩, rfl, id⟩

theorem updateProfile_frame : UpdateFrame status (updateProfile input info status) := by
  unfold updateProfile parseProfileProperty
  split
  · split <;> exact ⟨⟨rfl, rfl, rfl, rfl, rfl⟩, rfl, id⟩
  · exact UpdateFrame.refl status

theorem updateHardlimit_frame : UpdateFrame status (updateHardlimit input info status) := by
  unfold updateHardlimit
  split
  · exact updateCdevRequestBySeverity_frame _
  · exact UpdateFrame.refl status

theorem updateRelease_frame :
    Meets (updateRelease input info status) (UpdateFrame status) fun _ ↦ True := by
  unfold updateRelease
  split
  · exact throttlingReleaseUpdate_frame
  · exact UpdateFrame.refl status

theorem updateStatus_frame :
    Meets (updateStatus input info votes status) (UpdateFrame status) fun _ ↦ True := by
  unfold updateStatus
  refine updatePid_frame.bind fun status₁ h₁ ↦ ?_
  exact updateRelease_frame.imp fun _ h₂ ↦
    updateProfile_frame.trans (h₁.trans (updateHardlimit_frame.trans h₂))

theorem clearStatus_frame : UpdateFrame status (clearStatus status) := by
  refine ⟨⟨?_, ?_, ?_, ?_, rfl⟩, rfl, ?_⟩
  · exact UnorderedMap.keys_mapValues _ _
  · exact UnorderedMap.keys_mapValues _ _
  · exact UnorderedMap.keys_mapValues _ _
  · exact UnorderedMap.keys_mapValues _ _
  · intro _ cdev request h
    rw [show (clearStatus status).pidCdevRequestMap =
      status.pidCdevRequestMap.mapValues fun _ _ ↦ 0 from rfl,
      UnorderedMap.lookup_mapValues] at h
    obtain ⟨old, -, rfl⟩ := Option.map_eq_some_iff.mp h
    exact le_rfl

end Frame

/-! ## What a property of the statuses needs to last -/

section EveryStatus

variable {Q : String → ThermalThrottlingStatus → Prop}

theorem clearThrottlingData_everyStatus {tt : ThermalThrottling}
    (hframe : ∀ sensor status status', UpdateFrame status status' → Q sensor status →
      Q sensor status')
    (h : EveryStatus Q tt) (sensorName : String) :
    EveryStatus Q (clearThrottlingData tt sensorName) := by
  unfold clearThrottlingData
  cases hlookup : tt.thermalThrottlingStatusMap.lookup sensorName with
  | none => exact h
  | some status => exact h.put (hframe _ _ _ clearStatus_frame (h sensorName status hlookup)) _

theorem thermalThrottlingUpdate_everyStatus {tt : ThermalThrottling}
    (hframe : ∀ sensor status status', UpdateFrame status status' → Q sensor status →
      Q sensor status')
    (h : EveryStatus Q tt) (input : UpdateInput) :
    Meets (thermalThrottlingUpdate tt input) (EveryStatus Q) fun _ ↦ True := by
  unfold thermalThrottlingUpdate
  cases hlookup : tt.thermalThrottlingStatusMap.lookup input.temp.name with
  | none => exact h
  | some status =>
    refine (meets_true _).bind fun info _ ↦ updateStatus_frame.bind fun status' hupdated ↦ ?_
    exact h.put (hframe _ _ _ hupdated (h input.temp.name status hlookup)) _

end EveryStatus

end HardwareMediatek.Thermal
