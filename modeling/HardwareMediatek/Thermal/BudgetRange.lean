import HardwareMediatek.Thermal.Episodes
import HardwareMediatek.Thermal.PowerToState
import HardwareMediatek.Thermal.StoredBudgets

/-!
# Budgets over a run

In a run whose updates shield the largest `int`, every stored budget is that number or bounded by the
table of its device, and everything that an update converts fits into an `int`.
-/

namespace HardwareMediatek.Thermal

/-- The allocation that an update makes: the status with its profile, and the budget as a `float`. -/
structure AllocatesWith (tt : ThermalThrottling) (input : UpdateInput) (info : ThrottlingInfo)
    (status : ThermalThrottlingStatus) (total : ExactFloat) : Prop where
  registered : ∃ before, tt.thermalThrottlingStatusMap.lookup input.temp.name = some before ∧
    status = updateProfile input info before
  throttled : input.sensorInfo.throttlingInfo = some info
  controlled : status.pidPowerBudgetMap.entries ≠ []
  budget : ∃ computed pid,
    updatePowerBudget input info tt.cdevAllRequestMap status = .ok (computed, pid) ∧
      total = input.round computed

/-- A run all of whose updates are guarded. -/
inductive GuardedRun (setup : ThrottlingSetup) (Guard : ThermalThrottling → UpdateInput → Prop)
    (start : ThermalThrottling) : ThermalThrottling → Prop where
  | start : GuardedRun setup Guard start start
  | clear {tt : ThermalThrottling} (before : GuardedRun setup Guard start tt) (sensorName : String) :
      GuardedRun setup Guard start (clearThrottlingData tt sensorName)
  | update {tt tt' : ThermalThrottling} (before : GuardedRun setup Guard start tt)
      (input : UpdateInput) (hcalls : setup.Calls input) (hguard : Guard tt input)
      (hreturns : thermalThrottlingUpdate tt input = .ok tt') : GuardedRun setup Guard start tt'
  | compute {tt tt' : ThermalThrottling} {reported : List String}
      (before : GuardedRun setup Guard start tt) (sensorName : String) (sensorInfo : SensorInfo)
      (currSeverity : ThrottlingSeverity)
      (hsensor : setup.sensorInfoMap.lookup sensorName = some sensorInfo)
      (hreturns : computeCoolingDevicesRequest tt sensorName sensorInfo currSeverity =
        .ok (tt', reported)) : GuardedRun setup Guard start tt'

/-- What one update does to the statuses. -/
theorem thermalThrottlingUpdate_statuses {tt tt' : ThermalThrottling} {input : UpdateInput}
    {Q : String → ThermalThrottlingStatus → Prop} (h : EveryStatus Q tt)
    (hupdate : ∀ info status status',
      tt.thermalThrottlingStatusMap.lookup input.temp.name = some status →
      input.sensorInfo.throttlingInfo = some info →
      updateStatus input info tt.cdevAllRequestMap status = .ok status' → Q input.temp.name status')
    (hreturns : thermalThrottlingUpdate tt input = .ok tt') : EveryStatus Q tt' := by
  unfold thermalThrottlingUpdate at hreturns
  cases hlookup : tt.thermalThrottlingStatusMap.lookup input.temp.name with
  | none =>
    rw [hlookup] at hreturns
    exact Except.ok.inj hreturns ▸ h
  | some status =>
    rw [hlookup] at hreturns
    obtain ⟨info, hinfo, hreturns⟩ := bind_eq_ok.mp hreturns
    obtain ⟨status', hstatus', hreturns⟩ := bind_eq_ok.mp hreturns
    rw [← Except.ok.inj hreturns]
    apply h.put
    apply hupdate info status status' hlookup _ hstatus'
    unfold deref at hinfo
    cases hthrottling : input.sensorInfo.throttlingInfo with
    | none =>
      rw [hthrottling] at hinfo
      cases hinfo
    | some info' =>
      rw [hthrottling] at hinfo
      rw [Except.ok.inj hinfo]

/-- The computation of the votes changes nothing but votes. -/
theorem computeCoolingDevicesRequest_statuses {tt tt' : ThermalThrottling} {sensorName : String}
    {sensorInfo : SensorInfo} {currSeverity : ThrottlingSeverity} {reported : List String}
    {Q : String → ThermalThrottlingStatus → Prop} (h : EveryStatus Q tt)
    (hvotes : ∀ sensor status votes, Q sensor status → Q sensor { status with cdevStatusMap := votes })
    (hreturns : computeCoolingDevicesRequest tt sensorName sensorInfo currSeverity =
      .ok (tt', reported)) : EveryStatus Q tt' := by
  unfold computeCoolingDevicesRequest at hreturns
  cases hlookup : tt.thermalThrottlingStatusMap.lookup sensorName with
  | none =>
    rw [hlookup] at hreturns
    exact (ok_pair hreturns).1 ▸ h
  | some status =>
    rw [hlookup] at hreturns
    obtain ⟨info, -, hreturns⟩ := bind_eq_ok.mp hreturns
    obtain ⟨s, -, hreturns⟩ := bind_eq_ok.mp hreturns
    rw [← (ok_pair hreturns).1]
    exact h.put (hvotes _ _ _ (h sensorName status hlookup)) _

theorem clearThrottlingData_statuses {tt : ThermalThrottling}
    {Q : String → ThermalThrottlingStatus → Prop} (h : EveryStatus Q tt)
    (hclear : ∀ sensor status, Q sensor status → Q sensor (clearStatus status)) (sensorName : String) :
    EveryStatus Q (clearThrottlingData tt sensorName) := by
  unfold clearThrottlingData
  cases hlookup : tt.thermalThrottlingStatusMap.lookup sensorName with
  | none => exact h
  | some status => exact h.put (hclear _ _ (h sensorName status hlookup)) _

section Update

variable {input : UpdateInput} {info : ThrottlingInfo} {votes : CdevAllRequestMap}
  {status : ThermalThrottlingStatus}

theorem updateCdevRequestByPower_budgets (coolingDeviceInfoMap : CdevInfoMap) :
    Meets (updateCdevRequestByPower coolingDeviceInfoMap status)
      (fun after ↦ after.pidPowerBudgetMap = status.pidPowerBudgetMap) fun _ ↦ True := by
  unfold updateCdevRequestByPower
  apply (meets_true _).bind
  intro requests _
  rfl

theorem updateHardlimit_budgets :
    (updateHardlimit input info status).pidPowerBudgetMap = status.pidPowerBudgetMap := by
  unfold updateHardlimit
  split <;> rfl

theorem updateRelease_budgets :
    Meets (updateRelease input info status)
      (fun after ↦ after.pidPowerBudgetMap = status.pidPowerBudgetMap) fun _ ↦ True := by
  unfold updateRelease
  split
  · unfold throttlingReleaseUpdate
    apply (meets_true _).bind
    intro flow _
    rfl
  · rfl

/-- The budgets after an update are those that the passes leave. -/
theorem updateStatus_budgets {after : ThermalThrottlingStatus}
    (hupdate : updateStatus input info votes status = .ok after) :
    after.pidPowerBudgetMap = status.pidPowerBudgetMap ∨
      (updateProfile input info status).pidPowerBudgetMap.entries ≠ [] ∧ ∃ computed pid allocated,
        updatePowerBudget input info votes (updateProfile input info status) = .ok (computed, pid) ∧
        allocatePasses input votes (updateProfile input info status)
          (selectBindings info (updateProfile input info status).profile) (input.round computed) =
            .ok (after.pidPowerBudgetMap, allocated) := by
  unfold updateStatus at hupdate
  obtain ⟨status₁, hpid, hrelease⟩ := bind_eq_ok.mp hupdate
  have hafter : after.pidPowerBudgetMap = status₁.pidPowerBudgetMap :=
    (updateRelease_budgets.of_ok hrelease).trans updateHardlimit_budgets
  unfold updatePid at hpid
  by_cases hentries : (updateProfile input info status).pidPowerBudgetMap.entries = []
  · rw [if_neg (not_not.mpr hentries)] at hpid
    rw [hafter, ← Except.ok.inj hpid]
    exact Or.inl updateProfile_budgets
  · rw [if_pos hentries] at hpid
    apply Or.inr
    apply And.intro hentries
    obtain ⟨⟨status₂, allocated⟩, hallocate, hrequests⟩ := bind_eq_ok.mp hpid
    unfold allocatePowerToCdev at hallocate
    obtain ⟨⟨computed, pid⟩, hcomputed, hallocate⟩ := bind_eq_ok.mp hallocate
    obtain ⟨⟨budgets, succeeded⟩, hpasses, hresult⟩ := bind_eq_ok.mp hallocate
    have hbudgets : status₂.pidPowerBudgetMap = budgets := by
      rw [← (ok_pair hresult).1]
    have hrequested := (updateCdevRequestByPower_budgets _).of_ok hrequests
    have hsame : status₁.pidPowerBudgetMap = budgets := by
      rw [hrequested, ← hbudgets]
      split <;> rfl
    refine ⟨computed, pid, succeeded, hcomputed, ?_⟩
    rw [hafter, hsame]
    exact hpasses

end Update

/-! ## The devices and weights of a configuration -/

/-- Powers of states and weights that are numbers, with room in an `int` for the adjustment of a
budget. A configuration is read as `float`. -/
structure RegularSetup (setup : ThrottlingSetup) (bound : ℚ) : Prop where
  nonneg : 0 ≤ bound
  float : binary32.Holds bound
  tables : ∀ cdev cdevInfo, setup.coolingDeviceInfoMap.lookup cdev = some cdevInfo →
    ∀ power ∈ cdevInfo.state2power, Within bound power
  weights : ∀ sensor sensorInfo info, setup.sensorInfoMap.lookup sensor = some sensorInfo →
    sensorInfo.throttlingInfo = some info → ∀ bindings, info.Binds bindings → ∀ severity,
      FloatWeights severity bindings.entries ∧
        bound + 2 ^ 20 * ((2 * bindings.entries.length + 3 : ℕ) : ℚ) ≤ largestFloat

/-- With the power of every device known, the passes do not lose half of the weight of a device that gets
a budget, and what the keepers leave lowers the budget of a device that has the largest `int`, by more
than 64: near that number a `float` does not keep a smaller difference. -/
structure ShieldsLargest (input : UpdateInput) (status : ThermalThrottlingStatus)
    (bindings : BindedCdevInfoMap) (total : ExactFloat) : Prop where
  weighed : AllPowered input bindings → ∀ pair ∈ bindings.entries, pair.2.enabled = true →
    entersPasses input.currSeverity pair = true →
    keepsPower input status total
      (enabledWeight input.round input.currSeverity bindings.entries) pair = false →
      .fin (1 / 2) * weightAt input.currSeverity pair ≤ leftWeight input status bindings total
  shielded : AllPowered input bindings → ∀ pair ∈ bindings.entries, pair.2.enabled = true →
    entersPasses input.currSeverity pair = true →
    keepsPower input status total
      (enabledWeight input.round input.currSeverity bindings.entries) pair = false →
    status.pidPowerBudgetMap.lookup pair.1 = some intMax →
      leftAdjustment input status bindings total pair < .fin (-64)

/-- A call whose allocation has bounded powers, and shields the largest `int`. -/
def ShieldedCall (tt : ThermalThrottling) (input : UpdateInput) : Prop :=
  ∀ info status total, AllocatesWith tt input info status total → BoundedPowers input total ∧
    ShieldsLargest input status (selectBindings info status.profile) total

/-- Every budget is the largest `int`, or between zero and the bound. -/
def StoredWithin (bound : ℚ) (budgets : UnorderedMap String ℤ) : Prop :=
  ∀ cdev budget, budgets.lookup cdev = some budget →
    budget = intMax ∨ 0 ≤ budget ∧ (budget : ℚ) ≤ bound

theorem AllValues.storedWithin {budgets : UnorderedMap String ℤ} (h : AllValues intMax budgets)
    (bound : ℚ) : StoredWithin bound budgets :=
  fun cdev budget hbudget ↦ Or.inl (h cdev budget hbudget)

section Allocation

variable {setup : ThrottlingSetup} {bound : ℚ} {input : UpdateInput} {votes : CdevAllRequestMap}
  {status : ThermalThrottlingStatus} {bindings : BindedCdevInfoMap} {total : ExactFloat}
  {pair : BindedCdevEntry} {cdevInfo : CdevInfo} {s : AllocationState} {granted : ExactFloat}

/-- The budget that a round adjusts is the one stored before the update. -/
theorem SecondRound.stored (h : SecondRound input votes status bindings total pair s) :
    s.pidPowerBudgetMap.lookup pair.1 = status.pidPowerBudgetMap.lookup pair.1 := by
  obtain ⟨start, before, rest, s', henters, hsplit, hbefore, -, hread⟩ := h.reached
  have hnodup : ((before ++ pair :: rest).map Sigma.fst).Nodup := hsplit ▸ bindings.nodupKeys
  rw [List.map_append, List.map_cons] at hnodup
  have hothers : pair.1 ∉ before.map Sigma.fst := fun hmem ↦
    (List.nodup_append'.mp hnodup).2.2 hmem List.mem_cons_self
  have hsame : s.pidPowerBudgetMap = s'.pidPowerBudgetMap := getPowerData_sameBudgets hread
  rw [hsame, ← henters.budgets]
  exact (secondPass_others hothers start).of_ok hbefore

variable (htables : ∀ cdev cdevInfo, input.coolingDeviceInfoMap.lookup cdev = some cdevInfo →
    ∀ power ∈ cdevInfo.state2power, Within bound power)
  (hfloat : input.round = binary32.round) (hpowers : BoundedPowers input total)
  (hweights : FloatWeights input.currSeverity bindings.entries)

include htables hfloat hpowers hweights

/-- The budget of a device before any limit is a number. -/
theorem GrantRound.number
    (h : GrantRound input votes status bindings total pair cdevInfo s granted)
    {distributed : ExactFloat}
    (hdistributed : distributedBudget input.round pair.1 cdevInfo pair.2 s
      (pair.2.cdevWeightForPid input.currSeverity) (powerAdjustment input pair s) =
        .ok distributed) : distributed.isNaN = false := by
  by_cases henabled : pair.2.enabled = true
  · by_cases hvalid : s.powerDataInvalid = false
    · have hknown := h.second.known hvalid
      obtain ⟨stored, hstored⟩ := UnorderedMap.mem_iff_lookup.mp h.budgeted
      rw [distributedBudget_adjusted _ _ henabled hvalid hknown.2.2.1.railed hstored] at hdistributed
      rw [← Except.ok.inj hdistributed, hfloat, FloatFormat.isNaN_round]
      rfl
    · have hinvalid : s.powerDataInvalid = true := Bool.eq_true_of_not_eq_false hvalid
      have hunused : ¬ (!s.powerDataInvalid && decide (pair.2.powerRail ≠ "")) = true := by
        rw [hinvalid]
        exact Bool.false_ne_true
      unfold distributedBudget at hdistributed
      rw [henabled, Bool.not_true, if_neg Bool.false_ne_true, if_neg hunused] at hdistributed
      rw [← Except.ok.inj hdistributed]
      exact unknownShare_isNaN hfloat hpowers hweights h.second hinvalid henabled
  · unfold distributedBudget at hdistributed
    rw [Bool.eq_false_of_not_eq_true henabled, Bool.not_false, if_pos rfl] at hdistributed
    obtain ⟨value, hvalue, -⟩ := atIndex_keeps (htables _ _ h.device) hdistributed
    rw [hvalue]
    rfl

/-- What a round grants is between zero and the bound of the table. -/
theorem GrantRound.within
    (h : GrantRound input votes status bindings total pair cdevInfo s granted) : Within bound granted := by
  have htable := htables _ _ h.device
  apply grantedPower_keeps htable _ h.grants
  intro distributed bounded hdistributed hbounded
  exact boundBudget_within htable (h.number htables hfloat hpowers hweights hdistributed) hbounded

/-- The passes keep the budgets within the bound. -/
theorem allocatePasses_within (hroom : bound ≤ intMax)
    (hstored : StoredWithin bound status.pidPowerBudgetMap) {budgets : UnorderedMap String ℤ}
    {allocated : Bool}
    (hpasses : allocatePasses input votes status bindings total = .ok (budgets, allocated)) :
    StoredWithin bound budgets := by
  intro cdev budget hbudget
  apply (allocatePasses_stored hpasses cdev budget hbudget).elim (hstored cdev budget)
  rintro ⟨pair, cdevInfo, s, granted, -, hgrant, hvalue⟩
  apply Or.inr
  rw [hvalue]
  exact (hgrant.within htables hfloat hpowers hweights).toInt hroom

/-- With stored budgets within the bound, everything that is converted fits into an `int`. -/
theorem Converts.inIntRange {x : ExactFloat} (h : Converts input votes status bindings total x)
    (hnonneg : 0 ≤ bound) (hbound : binary32.Holds bound)
    (hroom : bound + 2 ^ 20 * ((2 * bindings.entries.length + 3 : ℕ) : ℚ) ≤ largestFloat)
    (hshields : ShieldsLargest input status bindings total)
    (hstored : StoredWithin bound status.pidPowerBudgetMap) : InIntRange x := by
  cases h with
  | adjusted hround hdevice hreducible henabled hvalid hlookup =>
    rename_i pair cdevInfo s cdevCurrPowerBudget
    have hknown := hround.known hvalid
    have hunmarked := hknown.1.unmarked pair hround.mem hknown.2.1
    have hpowered := hknown.1.powered
    have hcount : 2 * bindings.entries.length + 3 ≤ 2 ^ 24 := by
      have hlargest : largestFloat = 2147483520 := by norm_num [largestFloat]
      have hle : ((2 * bindings.entries.length + 3 : ℕ) : ℚ) ≤ 2 ^ 24 := by linarith
      exact_mod_cast hle
    have hadjustment := leftAdjustment_upTo hfloat hpowers hweights.regular hround hvalid henabled
      (hshields.weighed hpowered pair hround.mem henabled hunmarked.1 hunmarked.2) hcount
    rw [hround.stored] at hlookup
    rw [hround.adjustment hvalid, hknown.2.2.2, hfloat]
    apply adjustedBudget_inIntRange hbound hnonneg hroom hadjustment (hpowers.railPower hknown.2.2.1)
    apply (hstored pair.1 cdevCurrPowerBudget hlookup).imp_left
    intro hlargest
    exact ⟨hlargest, hshields.shielded hpowered pair hround.mem henabled hunmarked.1 hunmarked.2
      (hlargest ▸ hlookup)⟩
  | stored hgrant =>
    apply (hgrant.within htables hfloat hpowers hweights).inIntRange
    exact le_trans (le_add_of_nonneg_right (by positivity)) (hroom.trans largestFloat_le)

end Allocation

/-! ## Runs -/

section Run

variable {setup : ThrottlingSetup} {bound : ℚ} {start tt : ThermalThrottling} {input : UpdateInput}
  {info : ThrottlingInfo} {status : ThermalThrottlingStatus} {total : ExactFloat}

theorem RegularSetup.tablesOf (h : RegularSetup setup bound) (hcalls : setup.Calls input) :
    ∀ cdev cdevInfo, input.coolingDeviceInfoMap.lookup cdev = some cdevInfo →
      ∀ power ∈ cdevInfo.state2power, Within bound power := by
  rw [hcalls.devices]
  exact h.tables

theorem RegularSetup.weightsOf (h : RegularSetup setup bound) (hcalls : setup.Calls input)
    (hinfo : input.sensorInfo.throttlingInfo = some info) (profile : String) :
    FloatWeights input.currSeverity (selectBindings info profile).entries ∧
      bound + 2 ^ 20 * ((2 * (selectBindings info profile).entries.length + 3 : ℕ) : ℚ) ≤
        largestFloat :=
  h.weights _ _ info hcalls.sensor hinfo _ (selectBindings_binds info profile) _

/-- A shielded update keeps the budgets of its sensor within the bound. -/
theorem updateStatus_within {after : ThermalThrottlingStatus} (hsetup : RegularSetup setup bound)
    (hcalls : setup.Calls input) (hshielded : ShieldedCall tt input)
    (hstatus : tt.thermalThrottlingStatusMap.lookup input.temp.name = some status)
    (hinfo : input.sensorInfo.throttlingInfo = some info)
    (hstored : StoredWithin bound status.pidPowerBudgetMap)
    (hupdate : updateStatus input info tt.cdevAllRequestMap status = .ok after) :
    StoredWithin bound after.pidPowerBudgetMap := by
  apply (updateStatus_budgets hupdate).elim
  · intro hsame
    rw [hsame]
    exact hstored
  · rintro ⟨hentries, computed, pid, allocated, hcomputed, hpasses⟩
    have hallocates : AllocatesWith tt input info (updateProfile input info status)
        (input.round computed) :=
      ⟨⟨status, hstatus, rfl⟩, hinfo, hentries, computed, pid, hcomputed, rfl⟩
    have hcall := hshielded info _ _ hallocates
    have hweights := hsetup.weightsOf hcalls hinfo (updateProfile input info status).profile
    have hbound : bound ≤ intMax :=
      le_trans (le_add_of_nonneg_right (by positivity)) (hweights.2.trans largestFloat_le)
    exact allocatePasses_within (hsetup.tablesOf hcalls) hcalls.float hcall.1 hweights.1 hbound
      (updateProfile_budgets.symm ▸ hstored) hpasses

theorem guardedRun_within (hsetup : RegularSetup setup bound)
    (hregistered : setup.registered = some start)
    (hrun : GuardedRun setup ShieldedCall start tt) :
    EveryStatus (fun _ status ↦ StoredWithin bound status.pidPowerBudgetMap) tt := by
  induction hrun with
  | start =>
    intro sensor status hstatus
    exact (registered_unused hregistered sensor status hstatus).budgets.storedWithin bound
  | clear _ sensorName ih =>
    exact clearThrottlingData_statuses ih
      (fun _ status _ ↦ (allValues_mapValues intMax status.pidPowerBudgetMap).storedWithin bound)
      sensorName
  | update _ input hcalls hguard hreturns ih =>
    apply thermalThrottlingUpdate_statuses ih _ hreturns
    intro info status after hstatus hinfo hupdate
    exact updateStatus_within hsetup hcalls hguard hstatus hinfo (ih _ status hstatus) hupdate
  | compute _ sensorName sensorInfo currSeverity hsensor hreturns ih =>
    exact computeCoolingDevicesRequest_statuses ih (fun _ _ _ hstatus ↦ hstatus) hreturns

end Run

/-! ## A device that leaves its budget to another one -/

/-- A sensor whose budget is always 100 mW, for two devices of the same weight. -/
def leftoverInfo : ThrottlingInfo :=
  { ampleInfo with
    maxAllocPower := fun _ ↦ .fin 100
    minAllocPower := fun _ ↦ .fin 100
    sPower := fun _ ↦ .fin 100
    bindedCdevInfoMap := sharedBindings true }

def leftoverSetup : ThrottlingSetup where
  sensorInfoMap := (∅ : UnorderedMap String SensorInfo).insert "soc"
    { (default : SensorInfo) with
      hotThresholds := fun _ ↦ .fin 50
      throttlingInfo := some leftoverInfo }
  coolingDeviceInfoMap := ((∅ : CdevInfoMap).insert "gpu" (ampleDevice 1000)).insert "cpu"
    (ampleDevice 1000)

/-- The graphics processor needs 10 mW. -/
def leftoverInput (power : ℚ) : UpdateInput :=
  { linkedInput with
    sensorInfo := { (default : SensorInfo) with
      hotThresholds := fun _ ↦ .fin 50
      throttlingInfo := some leftoverInfo }
    powerStatusMap := ((∅ : PowerStatusMap).insert "VDD_GPU" ⟨0, [], .fin 10, true⟩).insert "VDD_CPU"
      ⟨0, [], .fin power, true⟩
    coolingDeviceInfoMap := leftoverSetup.coolingDeviceInfoMap }

/-- The status after a registration, and after every clearing. -/
def leftoverStatus : ThermalThrottlingStatus :=
  { initialStatus with
    pidPowerBudgetMap := ((∅ : UnorderedMap String ℤ).insert "cpu" intMax).insert "gpu" intMax
    pidCdevRequestMap := ((∅ : UnorderedMap String ℤ).insert "cpu" 0).insert "gpu" 0
    cdevStatusMap := ((∅ : UnorderedMap String ℤ).insert "cpu" 0).insert "gpu" 0 }

def leftoverStart : ThermalThrottling where
  thermalThrottlingStatusMap :=
    (∅ : UnorderedMap String ThermalThrottlingStatus).insert "soc" leftoverStatus
  cdevAllRequestMap := ((∅ : CdevAllRequestMap).insert "cpu" ((∅ : OrderedMultiset ℤ).insert 0)).insert
    "gpu" ((∅ : OrderedMultiset ℤ).insert 0)

theorem leftoverSetup_registered : leftoverSetup.registered = some leftoverStart := rfl

/-- A run up to the first cycle after a clearing. -/
theorem leftoverRun (Guard : ThermalThrottling → UpdateInput → Prop) :
    GuardedRun leftoverSetup Guard leftoverStart leftoverStart := .clear .start "soc"

theorem leftoverInput_calls (power : ℚ) : leftoverSetup.Calls (leftoverInput power) :=
  ⟨rfl, rfl, rfl⟩

/-- The budget that the sensor distributes. -/
def leftoverTotal (power : ℚ) : Option ExactFloat :=
  (updatePowerBudget (leftoverInput power) leftoverInfo leftoverStart.cdevAllRequestMap
    leftoverStatus).toOption.map Prod.fst

theorem leftoverInput_allocates {power : ℚ} (htotal : leftoverTotal power = some (.fin 100)) :
    AllocatesWith leftoverStart (leftoverInput power) leftoverInfo leftoverStatus (.fin 100) := by
  obtain ⟨⟨computed, pid⟩, hbudget, hvalue⟩ := Option.map_eq_some_iff.mp htotal
  have hsame : computed = .fin 100 := hvalue
  rw [hsame] at hbudget
  have hrounded : ExactFloat.fin 100 = (leftoverInput power).round (.fin 100) :=
    (@round_binary32_ofInt 100 (by decide)).symm
  exact ⟨⟨leftoverStatus, rfl, rfl⟩, rfl, List.cons_ne_nil _ _, _, pid, toOption_eq_some hbudget,
    hrounded⟩

/-- A call has only one allocation. -/
theorem AllocatesWith.unique {tt : ThermalThrottling} {input : UpdateInput}
    {info info' : ThrottlingInfo} {status status' : ThermalThrottlingStatus}
    {total total' : ExactFloat} (h : AllocatesWith tt input info status total)
    (h' : AllocatesWith tt input info' status' total') :
    info' = info ∧ status' = status ∧ total' = total := by
  have hinfo : info' = info := Option.some.inj (h'.throttled.symm.trans h.throttled)
  have hstatus : status' = status := by
    obtain ⟨before, hbefore, hstatus⟩ := h.registered
    obtain ⟨before', hbefore', hstatus'⟩ := h'.registered
    rw [hstatus, hstatus', hinfo, Option.some.inj (hbefore'.symm.trans hbefore)]
  refine ⟨hinfo, hstatus, ?_⟩
  obtain ⟨computed, pid, hbudget, htotal⟩ := h.budget
  obtain ⟨computed', pid', hbudget', htotal'⟩ := h'.budget
  rw [hinfo, hstatus, hbudget] at hbudget'
  rw [htotal, htotal', (ok_pair hbudget').1]

theorem leftoverInput_powers {power : ℚ} (hpower : |power| ≤ 10 ^ 6) :
    BoundedPowers (leftoverInput power) (.fin 100) := by
  apply BoundedPowers.mk ⟨100, rfl, by norm_num⟩
  intro rail status hstatus
  apply Or.inr
  change (((∅ : PowerStatusMap).insert "VDD_GPU" ⟨0, [], .fin 10, true⟩).insert "VDD_CPU"
    ⟨0, [], .fin power, true⟩).lookup rail = some status at hstatus
  by_cases hcpu : rail = "VDD_CPU"
  · rw [hcpu, AList.lookup_insert] at hstatus
    rw [← Option.some.inj hstatus]
    exact ⟨power, rfl, hpower⟩
  · rw [AList.lookup_insert_ne hcpu] at hstatus
    rw [(UnorderedMap.eq_of_lookup_insert_empty hstatus).2]
    exact ⟨10, rfl, by norm_num⟩

theorem sharedBindings_float (currSeverity : ThrottlingSeverity) :
    ∀ pair ∈ (sharedBindings true).entries,
      binary32.round (weightAt currSeverity pair) = weightAt currSeverity pair := by
  intro pair hpair
  rcases List.mem_cons.mp hpair with hcpu | hgpu
  · rw [hcpu]
    exact round_binary32_one
  · rw [List.mem_singleton.mp hgpu]
    exact round_binary32_one

theorem leftoverSetup_regular : RegularSetup leftoverSetup 1000 := by
  apply RegularSetup.mk (by norm_num) ⟨1000, 0, by norm_num, by decide, by decide⟩
  · intro cdev cdevInfo hdevice
    have hsame : cdevInfo = ampleDevice 1000 := by
      change (((∅ : CdevInfoMap).insert "gpu" (ampleDevice 1000)).insert "cpu"
        (ampleDevice 1000)).lookup cdev = some cdevInfo at hdevice
      by_cases hcpu : cdev = "cpu"
      · rw [hcpu, AList.lookup_insert] at hdevice
        exact (Option.some.inj hdevice).symm
      · rw [AList.lookup_insert_ne hcpu] at hdevice
        exact (UnorderedMap.eq_of_lookup_insert_empty hdevice).2
    rw [hsame]
    intro power hpower
    apply Or.elim (List.mem_cons.mp hpower)
    · exact fun hfirst ↦ ⟨1000, hfirst, by norm_num, le_rfl⟩
    · exact fun hsecond ↦ ⟨500, List.mem_singleton.mp hsecond, by norm_num, by norm_num⟩
  · intro sensor sensorInfo info hsensor hinfo bindings hbinds severity
    rw [(UnorderedMap.eq_of_lookup_insert_empty hsensor).2] at hinfo
    have hsame : leftoverInfo = info := Option.some.inj hinfo
    rw [← hsame] at hbinds
    have hbindings : bindings = sharedBindings true := by
      apply hbinds.resolve_right
      rintro ⟨profile, hprofile⟩
      cases hprofile
    rw [hbindings]
    apply And.intro ⟨sharedBindings_regular true severity, sharedBindings_float severity⟩
    have hlength : (sharedBindings true).entries.length = 2 := rfl
    rw [hlength]
    norm_num [largestFloat]

/-- A processor that needs more than its share is not raised by what is left. -/
theorem leftoverInput_shielded : ShieldedCall leftoverStart (leftoverInput 300) := by
  intro info status total hallocates
  have htotal : leftoverTotal 300 = some (.fin 100) := by decide +kernel
  have hsame := (leftoverInput_allocates htotal).unique hallocates
  rw [hsame.1, hsame.2.1, hsame.2.2]
  -- only the processor does not keep its power
  have hprocessor : ∀ pair ∈ (sharedBindings true).entries,
      keepsPower (leftoverInput 300) leftoverStatus (.fin 100)
        (enabledWeight (leftoverInput 300).round (leftoverInput 300).currSeverity
          (sharedBindings true).entries) pair = false →
      pair = ⟨"cpu", weightedBinding "VDD_CPU" true⟩ := by
    intro pair hpair hkeeps
    apply Or.elim (List.mem_cons.mp hpair)
    · exact id
    · intro hgpu
      have hkept : keepsPower (leftoverInput 300) leftoverStatus (.fin 100)
          (enabledWeight (leftoverInput 300).round (leftoverInput 300).currSeverity
            (sharedBindings true).entries)
          ⟨"gpu", weightedBinding "VDD_GPU" true⟩ = true := by decide +kernel
      rw [List.mem_singleton.mp hgpu] at hkeeps
      exact absurd (hkept.symm.trans hkeeps) (by decide)
  apply And.intro (leftoverInput_powers (by norm_num))
  apply ShieldsLargest.mk
  · intro _ pair hpair _ _ hkeeps
    rw [hprocessor pair hpair hkeeps]
    decide +kernel
  · intro _ pair hpair _ _ hkeeps _
    rw [hprocessor pair hpair hkeeps]
    decide +kernel

/-- The state in which the processor has a budget to be adjusted. -/
def leftoverRound (power : ℚ) : Option AllocationState :=
  (endOfPass (iterate (checkLowPowerDevice (leftoverInput power) leftoverStatus)
    (sharedBindings true).entries
    (initialAllocation (leftoverInput power) leftoverStatus (sharedBindings true) (.fin 100)))).bind
      fun s ↦ endOfPass (getPowerData (leftoverInput power).powerStatusMap
        (weightedBinding "VDD_CPU" true) (settlePass (leftoverInput power).round s))

theorem endOfPass_eq_some {r : Checked (Flow AllocationState)} {s : AllocationState}
    (h : endOfPass r = some s) : r = .ok (.next s) := by
  unfold endOfPass at h
  split at h
  · rw [Option.some.inj h]
  · cases h

theorem leftoverRound_second {power : ℚ}
    (hround : (leftoverRound power).map (fun s ↦ (s.allocatedCdev, s.powerDataInvalid)) =
      some (["gpu"], false)) : ∃ s, SecondRound (leftoverInput power)
        leftoverStart.cdevAllRequestMap leftoverStatus (sharedBindings true) (.fin 100)
        ⟨"cpu", weightedBinding "VDD_CPU" true⟩ s ∧ s.powerDataInvalid = false := by
  obtain ⟨s, hs, hfields⟩ := Option.map_eq_some_iff.mp hround
  have hfields := Prod.mk.inj hfields
  obtain ⟨s₁, hfirst, hread⟩ := Option.bind_eq_some_iff.mp hs
  have hread := endOfPass_eq_some hread
  refine ⟨s, ⟨⟨settlePass binary32.round s₁, [], _, settlePass binary32.round s₁,
    ⟨s₁, rfl, Or.inl (endOfPass_eq_some hfirst)⟩, rfl, rfl, ?_, hread⟩⟩, hfields.2⟩
  have hsame := (getPowerData_sameTotals _ _ _).of_ok hread
  have hmarked : s.allocatedCdev = (settlePass binary32.round s₁).allocatedCdev := hsame.marked
  rw [← hmarked, hfields.1]
  decide

/-- The largest `int` is adjusted for the processor. -/
theorem leftoverRound_converts {power adjustment : ℚ}
    (hround : (leftoverRound power).map (fun s ↦ (s.allocatedCdev, s.powerDataInvalid)) =
      some (["gpu"], false))
    (hadjustment : leftAdjustment (leftoverInput power) leftoverStatus (sharedBindings true)
      (.fin 100) ⟨"cpu", weightedBinding "VDD_CPU" true⟩ = .fin adjustment) :
    Converts (leftoverInput power) leftoverStart.cdevAllRequestMap leftoverStatus
      (selectBindings leftoverInfo leftoverStatus.profile) (.fin 100)
      (adjustedBudget binary32.round intMax (.fin adjustment) (.fin power)) := by
  obtain ⟨s, hsecond, hvalid⟩ := leftoverRound_second hround
  have hadjusts : powerAdjustment (leftoverInput power) ⟨"cpu", weightedBinding "VDD_CPU" true⟩ s =
      .fin adjustment := (hsecond.adjustment hvalid).trans hadjustment
  have hpower : s.lastUpdatedAvgPower = .fin power := (hsecond.known hvalid).2.2.2
  have hreducible : atMaxState leftoverStatus "cpu" (ampleDevice 1000) (.fin adjustment) =
      .ok false := by
    unfold atMaxState
    split <;> rfl
  rw [← hadjusts, ← hpower]
  exact @Converts.adjusted _ _ _ _ _ _ (ampleDevice 1000) s intMax hsecond rfl
    (hadjusts.symm ▸ hreducible) rfl hvalid hsecond.stored

end HardwareMediatek.Thermal
