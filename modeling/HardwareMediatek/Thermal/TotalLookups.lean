import HardwareMediatek.Thermal.Lookups
import HardwareMediatek.Thermal.ParseThrottling

/-!
# When the lookups of the PID algorithm are total

The lookups succeed in every state that a run reaches, with every temperature
and all power data, exactly when they are covered by the configuration. The
converse runs the algorithm once, right after registration: with a number as
the power of every rail nothing ends the loops before the missing key.
-/

namespace HardwareMediatek.Thermal

open UnorderedMap

/-- The same sensors with other tables of the same devices. -/
def ThrottlingSetup.withDevices (setup : ThrottlingSetup) (devices : CdevInfoMap) :
    ThrottlingSetup :=
  { setup with coolingDeviceInfoMap := devices }

/-- In every reachable state, for every temperature, all power data of the rails and all tables of
the devices, no lookup misses its key: neither in an update at a severity above none, nor in the
computation of the votes. -/
def LookupsTotal (setup : ThrottlingSetup) (rails : PowerStatusMap) : Prop :=
  ∀ devices start, devices.keys = setup.coolingDeviceInfoMap.keys →
    (setup.withDevices devices).registered = some start →
    ∀ tt reported, ThrottlingRun (setup.withDevices devices) start tt reported →
      (∀ input, (setup.withDevices devices).Calls input → input.currSeverity ≠ .none →
        input.powerStatusMap.keys = rails.keys →
        thermalThrottlingUpdate tt input ≠ .error .outOfRange) ∧
      ∀ sensor sensorInfo currSeverity, setup.sensorInfoMap.lookup sensor = some sensorInfo →
        sensorInfo.throttlingInfo ≠ none → currSeverity ≠ .none →
        computeCoolingDevicesRequest tt sensor sensorInfo currSeverity ≠ .error .outOfRange

/-- The throttling of a sensor. -/
def ThrottlingSetup.Throttles (setup : ThrottlingSetup) (sensor : String) (info : ThrottlingInfo) :
    Prop :=
  ∃ sensorInfo, setup.sensorInfoMap.lookup sensor = some sensorInfo ∧
    sensorInfo.throttlingInfo = some info

/-- The keys that the PID algorithm looks up are there, for every sensor that runs it. -/
def ThrottlingSetup.LookupsCovered (setup : ThrottlingSetup) (rails : PowerStatusMap) : Prop :=
  ∀ sensor info, setup.Throttles sensor info → info.SupportsPid → Thermal.LookupsCovered info rails

section Setup

variable {setup : ThrottlingSetup} {rails : PowerStatusMap} {start : ThermalThrottling}

theorem RailsKnown.of_keys {powerStatusMap powerStatusMap' : PowerStatusMap}
    (hkeys : powerStatusMap'.keys = powerStatusMap.keys) {severity : ThrottlingSeverity}
    {pairs : List BindedCdevEntry}
    (h : RailsKnown powerStatusMap severity pairs) : RailsKnown powerStatusMap' severity pairs :=
  fun before pair after heq hpending hrail hmissing ↦ h before pair after heq hpending hrail
    fun hmem ↦ hmissing ((mem_iff_of_keys_eq hkeys _).mpr hmem)

/-- What is covered depends on the names of the rails only. -/
theorem LookupsCovered.of_keys {info : ThrottlingInfo} {powerStatusMap powerStatusMap' : PowerStatusMap}
    (hkeys : powerStatusMap'.keys = powerStatusMap.keys)
    (h : Thermal.LookupsCovered info powerStatusMap) :
    Thermal.LookupsCovered info powerStatusMap' where
  weights := h.weights
  excluded rail hrail := (mem_iff_of_keys_eq hkeys rail).mpr (h.excluded rail hrail)
  rails property severity hseverity := (h.rails property severity hseverity).of_keys hkeys

/-! ## Covered lookups are total -/

/-- The status of a sensor with throttling is registered, from the start of a run to its end. -/
theorem registered_status {tt : ThermalThrottling} {reported : List String}
    (hregistered : setup.registered = some start) (hrun : ThrottlingRun setup start tt reported) :
    VotesMirrored tt ∧ EveryStatus (fun sensor status ↦ ∃ bindings,
      (∃ info, setup.Throttles sensor info ∧ info.bindedCdevInfoMap = bindings) ∧
        RegisteredStatus setup.coolingDeviceInfoMap bindings status) tt := by
  have hmirrored := (registered_mirrored hregistered).1
  refine ⟨(throttlingRun_mirrored hmirrored hrun).1, ?_⟩
  apply throttlingRun_everyStatus (lasting_registeredStatus setup _) hmirrored _ hrun
  intro sensor status hlookup
  rcases registerSensors_statuses hregistered hlookup with hold | ⟨entry, hentry, rfl, info, hinfo, hstatus⟩
  · rw [ThermalThrottling.empty, AList.lookup_empty] at hold
    cases hold
  · exact ⟨_, ⟨info, ⟨entry.2, lookup_of_mem_entries hentry, hinfo⟩, rfl⟩, hstatus⟩

theorem thermalThrottlingUpdate_findsKeys (hregistered : setup.registered = some start)
    (hprofiles : ∀ sensor info, setup.Throttles sensor info → info.ProfilesMatchDefault)
    (hcovered : setup.LookupsCovered rails) {tt : ThermalThrottling} {reported : List String}
    (hrun : ThrottlingRun setup start tt reported) {input : UpdateInput}
    (hcalls : setup.Calls input) (hseverity : input.currSeverity ≠ .none)
    (hrails : input.powerStatusMap.keys = rails.keys) :
    FindsKeys (thermalThrottlingUpdate tt input) := by
  unfold thermalThrottlingUpdate
  cases hlookup : tt.thermalThrottlingStatusMap.lookup input.temp.name with
  | none => trivial
  | some status =>
    obtain ⟨_, ⟨info, hthrottles, rfl⟩, hstatus⟩ :=
      (registered_status hregistered hrun).2 input.temp.name status hlookup
    obtain ⟨sensorInfo, hsensor, hinfo⟩ := id hthrottles
    obtain rfl := Option.some.inj (hcalls.sensor.symm.trans hsensor)
    rw [hinfo]
    rw [← hcalls.devices] at hstatus
    apply Meets.bind (updateStatus_findsKeys hstatus (hprofiles _ _ hthrottles) hseverity
      fun hpid ↦ (hcovered _ _ hthrottles hpid).of_keys hrails)
    exact fun _ _ ↦ trivial

theorem computeCoolingDevicesRequest_findsKeys (hregistered : setup.registered = some start)
    (hprofiles : ∀ sensor info, setup.Throttles sensor info → info.ProfilesMatchDefault)
    {tt : ThermalThrottling} {reported : List String}
    (hrun : ThrottlingRun setup start tt reported) {sensor : String} {sensorInfo : SensorInfo}
    (hsensor : setup.sensorInfoMap.lookup sensor = some sensorInfo)
    (currSeverity : ThrottlingSeverity) :
    FindsKeys (computeCoolingDevicesRequest tt sensor sensorInfo currSeverity) := by
  obtain ⟨hmirrored, hstatuses⟩ := registered_status hregistered hrun
  cases hlookup : tt.thermalThrottlingStatusMap.lookup sensor with
  | none =>
    rw [computeCoolingDevicesRequest_unregistered hlookup]
    trivial
  | some status =>
    apply (computeCoolingDevicesRequest_computed hmirrored hlookup sensorInfo currSeverity).mono
    · exact fun _ _ ↦ trivial
    · rintro fault hfault rfl
      cases hfault with
      | unbound hinfo hvote hmissing =>
        obtain ⟨_, ⟨info, hthrottles, rfl⟩, hstatus⟩ := hstatuses sensor status hlookup
        obtain ⟨sensorInfo', hsensor', hinfo'⟩ := id hthrottles
        obtain rfl := Option.some.inj (hsensor.symm.trans hsensor')
        obtain rfl := Option.some.inj (hinfo.symm.trans hinfo')
        obtain ⟨binding, hbinding, -⟩ := (hstatus.votes _).mp hvote
        exact hmissing (((hprofiles _ _ hthrottles).mem_selectBindings _).mpr
          (mem_of_lookup hbinding))

end Setup

/-! ## Total lookups are covered -/

/-- An update that reaches every lookup of the budget: throttling is not forced, nothing is
predicted, every power is a number, and every bound device has two states. -/
structure Probing (info : ThrottlingInfo) (votes : CdevAllRequestMap) (input : UpdateInput) :
    Prop where
  severity : input.currSeverity ≠ .none
  unforced : input.maxThrottling = false
  unpredicted : input.sensorPredictions = []
  powers : ∀ rail status, input.powerStatusMap.lookup rail = some status →
    status.lastUpdatedAvgPower.isNaN = false
  tables : ∀ cdev ∈ info.bindedCdevInfoMap, ∃ cdevInfo,
    input.coolingDeviceInfoMap.lookup cdev = some cdevInfo ∧ cdevInfo.state2power.length = 2
  votes : ∀ cdev, ∃ found, getCdevMaxRequest votes cdev = .ok found

section Probing

variable {input : UpdateInput} {info : ThrottlingInfo} {votes : CdevAllRequestMap}
  {status : ThermalThrottlingStatus}

theorem Probing.initialIBudget (h : Probing info votes input) (iBudget : ExactFloat)
    {allowed : Fault → Prop} :
    Meets (initialIBudget info input.coolingDeviceInfoMap votes iBudget) (fun _ ↦ True)
      allowed := by
  unfold Thermal.initialIBudget
  split
  · split
    · trivial
    · apply Meets.bind (P := fun _ ↦ True)
      · apply meets_forEach (I := fun _ ↦ True) _ trivial
        intro pair hpair defaultIBudget _
        obtain ⟨cdevInfo, hdevice, htable⟩ :=
          h.tables pair.1 (mem_of_lookup (lookup_of_mem_entries hpair))
        obtain ⟨found, hfound⟩ := h.votes pair.1
        unfold addDefaultIBudget
        apply Meets.bind (P := fun found ↦ found = cdevInfo) (by rw [atKey_of_lookup hdevice]; rfl)
        rintro _ rfl
        apply Meets.bind (P := fun _ ↦ True) (by rw [hfound]; trivial)
        intro found' _
        apply (meets_atIndex_of_lt _ _).bind
        · exact fun _ _ ↦ trivial
        · split <;> omega
        · rw [htable]
          split <;> omega
      · exact fun _ _ ↦ trivial
  · trivial

theorem Probing.computeCompensation (h : Probing info votes input)
    (targetState : ThrottlingSeverity) (target : ExactFloat) {allowed : Fault → Prop} :
    Meets (computeCompensation input targetState target) (fun _ ↦ True) allowed := by
  unfold Thermal.computeCompensation
  rw [h.unpredicted]
  split
  · split <;> trivial
  · trivial

/-- A budget is computed only when the requests and the excluded rails are found. -/
theorem Probing.updatePowerBudget (h : Probing info votes input) :
    Meets (updatePowerBudget input info votes status)
      (fun _ ↦ (∀ pair ∈ (selectBindings info status.profile).entries,
          pair.1 ∈ status.pidCdevRequestMap) ∧
        ∀ pair ∈ info.excludedPowerInfoMap.entries, pair.1 ∈ input.powerStatusMap)
      fun fault ↦ fault = .outOfRange := by
  unfold Thermal.updatePowerBudget
  rw [if_neg h.severity]
  apply Meets.bind (P := fun _ ↦ ∀ pair ∈ (selectBindings info status.profile).entries,
    pair.1 ∈ status.pidCdevRequestMap)
  · apply (meets_forEach_each (I := fun _ ↦ True) ?_ trivial).imp fun _ hflags ↦ hflags.2
    intro pair _ flags _
    have hrequest : Meets (atKey status.pidCdevRequestMap pair.1)
        (fun _ ↦ pair.1 ∈ status.pidCdevRequestMap) fun fault ↦ fault = .outOfRange :=
      meets_atKey (fun _ hlookup ↦ mem_of_lookup hlookup) fun _ ↦ rfl
    unfold checkThrottleStatus
    apply hrequest.bind
    intro request hmem
    apply hrequest.bind
    exact fun _ _ ↦ ⟨trivial, hmem⟩
  · intro flags hrequests
    dsimp only
    split
    · rename_i hforced
      rw [h.unforced] at hforced
      exact absurd hforced.1 Bool.false_ne_true
    · have hexcluded : Meets (computeExcludedPower info input.currSeverity input.powerStatusMap)
          (fun _ ↦ ∀ pair ∈ info.excludedPowerInfoMap.entries, pair.1 ∈ input.powerStatusMap)
          fun fault ↦ fault = .outOfRange := by
        unfold computeExcludedPower
        apply (meets_forEach_each (I := fun _ ↦ True) ?_ trivial).imp fun _ hsum ↦ hsum.2
        intro pair _ excludedPower _
        have hpower : Meets (atKey input.powerStatusMap pair.1)
            (fun _ ↦ pair.1 ∈ input.powerStatusMap) fun fault ↦ fault = .outOfRange :=
          meets_atKey (fun _ hlookup ↦ mem_of_lookup hlookup) fun _ ↦ rfl
        unfold addExcludedPower
        apply hpower.bind
        intro powerStatus hmem
        split <;> exact ⟨trivial, hmem⟩
      unfold computePowerBudget sumTerms
      apply Meets.bind (P := fun _ ↦ ∀ pair ∈ info.excludedPowerInfoMap.entries,
        pair.1 ∈ input.powerStatusMap)
      · apply (h.initialIBudget _).bind
        intro iBudget _
        apply (h.computeCompensation _ _).bind
        intro compensation _
        exact hexcluded.bind fun _ hknown ↦ hknown
      · exact fun _ hknown ↦ ⟨hrequests, hknown⟩

variable {entries rest : List BindedCdevEntry} {s : AllocationState}
  {pair : BindedCdevEntry}

/-- The first pass stops with a fault at a pending device with an unknown rail. -/
theorem checkLowPowerDevice_missing (hnodup : (entries.map Sigma.fst).Nodup)
    (h : FirstPass input.currSeverity entries (pair :: rest) s)
    (hpending : isPending input.currSeverity pair.2 = true) (hrail : pair.2.powerRail ≠ "")
    (hmissing : pair.2.powerRail ∉ input.powerStatusMap) :
    checkLowPowerDevice input status pair s = .error .outOfRange := by
  unfold checkLowPowerDevice getPowerData
  rw [if_neg ((h.isPending_iff hnodup).mp hpending), h.valid, if_neg Bool.false_ne_true,
    if_pos hrail, atKey_of_not_mem hmissing]
  rfl

/-- The first pass comes to an end only when the rails that it reaches are known. -/
theorem Probing.firstPass (h : Probing info votes input)
    (hnodup : (entries.map Sigma.fst).Nodup)
    (hstart : FirstPass input.currSeverity entries entries s)
    (hpass : iterate (checkLowPowerDevice input status) entries s ≠ .error .outOfRange) :
    RailsKnown input.powerStatusMap input.currSeverity entries := by
  intro before pair after heq hpending hrail hmissing
  by_contra hnone
  have hbefore : Meets (iterate (checkLowPowerDevice input status) before s)
      (Flow.Ends (FirstPass input.currSeverity entries (pair :: after)) (fun _ ↦ False)
        fun _ ↦ False) fun fault ↦ fault = .outOfRange := by
    apply (meets_iterate_rest (J := fun rest s ↦ rest ⊆ before ∧
      FirstPass input.currSeverity entries (rest ++ pair :: after) s)
      (S := fun _ ↦ False) (G := fun _ ↦ False) ?_ ⟨List.Subset.refl _, heq ▸ hstart⟩).imp
    · intro flow hflow
      cases flow with
      | next s' => exact hflow.2
      | stop s' => exact hflow
      | giveUp s' => exact hflow
    · rintro earlier rest s ⟨hsubset, hs⟩
      have hearlier := hsubset List.mem_cons_self
      apply (checkLowPowerDevice_ends hnodup hs).mono
      · intro flow hflow
        match flow, hflow with
        | .next s', hnext => exact ⟨fun _ hmem ↦ hsubset (List.mem_cons_of_mem _ hmem), hnext⟩
        | .stop s', ⟨_, hpending', hlacks⟩ =>
          rcases hlacks with hempty | ⟨powerStatus, hlookup, hnan⟩
          · exact hnone ⟨earlier, hearlier, hpending', by simp [endsPass, hempty]⟩
          · rw [h.powers _ _ hlookup] at hnan
            cases hnan
        | .giveUp s', ⟨hpending', hends⟩ => exact hnone ⟨earlier, hearlier, hpending', hends⟩
      · exact fun fault hfault ↦ hfault.1
  apply hpass
  conv_lhs => rw [heq]
  rw [iterate_append]
  cases hreturns : iterate (checkLowPowerDevice input status) before s with
  | error fault =>
    obtain rfl := hbefore.of_error hreturns
    rfl
  | ok flow =>
    have hflow := hbefore.of_ok hreturns
    cases flow with
    | next s' =>
      dsimp only
      rw [iterate, checkLowPowerDevice_missing hnodup hflow hpending hrail hmissing]
    | stop s' => exact hflow.elim
    | giveUp s' => exact hflow.elim

end Probing

/-- Every device has two states without power. -/
def twoStates (devices : CdevInfoMap) : CdevInfoMap :=
  devices.mapValues fun _ cdevInfo ↦ { cdevInfo with state2power := [0, 0] }

theorem keys_twoStates (devices : CdevInfoMap) : (twoStates devices).keys = devices.keys :=
  keys_mapValues _ _

/-- An update of a sensor with the power 1 on every rail. -/
def probe (devices : CdevInfoMap) (rails : PowerStatusMap) (sensor : String)
    (sensorInfo : SensorInfo) (profileProperty : String) (currSeverity : ThrottlingSeverity) :
    UpdateInput where
  temp := ⟨sensorInfo.type, sensor, 0, currSeverity⟩
  sensorInfo := sensorInfo
  currSeverity := currSeverity
  timeElapsedMs := 0
  powerStatusMap := rails.mapValues fun _ status ↦ { status with lastUpdatedAvgPower := 1 }
  coolingDeviceInfoMap := devices
  maxThrottling := false
  sensorPredictions := []
  profileProperty := profileProperty
  round := binary32.round

theorem keys_probe (devices : CdevInfoMap) (rails : PowerStatusMap) (sensor : String)
    (sensorInfo : SensorInfo) (profileProperty : String) (currSeverity : ThrottlingSeverity) :
    (probe devices rails sensor sensorInfo profileProperty currSeverity).powerStatusMap.keys =
      rails.keys :=
  keys_mapValues _ _

section Necessary

variable {setup : ThrottlingSetup} {rails : PowerStatusMap} {start : ThermalThrottling}

theorem probe_probing {devices : CdevInfoMap} {sensor : String} {sensorInfo : SensorInfo}
    {info : ThrottlingInfo} {status : ThermalThrottlingStatus} {profileProperty : String}
    {currSeverity : ThrottlingSeverity} (hmirrored : VotesMirrored start)
    (hregistered : RegisteredStatus (twoStates devices) info.bindedCdevInfoMap status)
    (hseverity : currSeverity ≠ .none) :
    Probing info start.cdevAllRequestMap
      (probe (twoStates devices) rails sensor sensorInfo profileProperty currSeverity) where
  severity := hseverity
  unforced := rfl
  unpredicted := rfl
  powers rail powerStatus hlookup := by
    rw [probe, lookup_mapValues] at hlookup
    obtain ⟨_, -, rfl⟩ := Option.map_eq_some_iff.mp hlookup
    rfl
  tables cdev hcdev := by
    obtain ⟨cdevInfo, hlookup⟩ := mem_iff_lookup.mp (hregistered.devices cdev hcdev)
    refine ⟨cdevInfo, hlookup, ?_⟩
    rw [twoStates, lookup_mapValues] at hlookup
    obtain ⟨_, -, rfl⟩ := Option.map_eq_some_iff.mp hlookup
    rfl
  votes cdev := ⟨_, hmirrored.getCdevMaxRequest_eq cdev⟩

/-- Registration depends on the names of the devices only. -/
theorem registerBindings_of_keys {devices devices' : CdevInfoMap}
    (hkeys : devices'.keys = devices.keys) (pairs : List BindedCdevEntry)
    (entry : RegistrationEntry) :
    registerBindings devices' pairs entry = registerBindings devices pairs entry := by
  induction pairs generalizing entry with
  | nil => rfl
  | cons pair rest ih =>
    obtain ⟨cdev, binding⟩ := pair
    rw [registerBindings, registerBindings, ih]
    exact if_congr (mem_iff_of_keys_eq hkeys cdev) rfl rfl

theorem registerSensors_of_keys {devices devices' : CdevInfoMap}
    (hkeys : devices'.keys = devices.keys) (sensors : List SensorEntry)
    (tt : ThermalThrottling) :
    registerSensors devices' sensors tt = registerSensors devices sensors tt := by
  induction sensors generalizing tt with
  | nil => rfl
  | cons entry rest ih =>
    obtain ⟨sensorName, sensorInfo⟩ := entry
    have hsame : ∀ info, registerThermalThrottling tt sensorName info devices' =
        registerThermalThrottling tt sensorName info devices := by
      intro info
      unfold registerThermalThrottling
      simp only [registerBindings_of_keys hkeys]
    rw [registerSensors, registerSensors]
    cases sensorInfo.throttlingInfo with
    | none => exact ih tt
    | some info =>
      simp only [hsame]
      split
      · exact ih _
      · rfl

/-- What total lookups say about the first update of a sensor. -/
theorem LookupsTotal.probe (h : LookupsTotal setup rails)
    (hregistered : setup.registered = some start) {sensor : String} {sensorInfo : SensorInfo}
    {info : ThrottlingInfo} (hsensor : setup.sensorInfoMap.lookup sensor = some sensorInfo)
    (hinfo : sensorInfo.throttlingInfo = some info) {status : ThermalThrottlingStatus}
    (hlookup : start.thermalThrottlingStatusMap.lookup sensor = some status)
    (profileProperty : String) {currSeverity : ThrottlingSeverity} (hseverity : currSeverity ≠ .none) :
    let input := Thermal.probe (twoStates setup.coolingDeviceInfoMap) rails sensor sensorInfo
      profileProperty currSeverity
    updatePid input info start.cdevAllRequestMap (updateProfile input info status) ≠
      .error .outOfRange := by
  intro input
  have hkeys := keys_twoStates setup.coolingDeviceInfoMap
  have hupdate := (h (twoStates setup.coolingDeviceInfoMap) start hkeys
    ((registerSensors_of_keys hkeys _ _).trans hregistered) start [] .start).1 input
    ⟨hsensor, rfl, rfl⟩ hseverity (keys_probe _ _ _ _ _ _)
  unfold thermalThrottlingUpdate at hupdate
  rw [show input.temp.name = sensor from rfl, hlookup,
    show input.sensorInfo.throttlingInfo = some info from hinfo] at hupdate
  have hstatus : updateStatus input info start.cdevAllRequestMap status ≠ .error .outOfRange :=
    ne_error_of_bind hupdate
  exact ne_error_of_bind hstatus

/-- Total lookups of a sensor with a PID algorithm are covered. -/
theorem LookupsTotal.covered (h : LookupsTotal setup rails)
    (hregistered : setup.registered = some start) {sensor : String} {info : ThrottlingInfo}
    (hthrottles : setup.Throttles sensor info) (hprofiles : info.ProfilesMatchDefault)
    (hpid : info.SupportsPid) : Thermal.LookupsCovered info rails := by
  obtain ⟨sensorInfo, hsensor, hinfo⟩ := id hthrottles
  have hkeys := keys_twoStates setup.coolingDeviceInfoMap
  have hregistered' : (setup.withDevices (twoStates setup.coolingDeviceInfoMap)).registered =
      some start := (registerSensors_of_keys hkeys _ _).trans hregistered
  have hmirrored := (registered_mirrored hregistered).1
  obtain ⟨status, hlookup, hstatus⟩ :=
    registerSensors_registered hregistered' (mem_entries_iff.mpr hsensor) hinfo
  -- the two parts of an update with a given profile at a given severity
  have hparts : ∀ profileProperty currSeverity, currSeverity ≠ .none →
      let input := Thermal.probe (twoStates setup.coolingDeviceInfoMap) rails sensor sensorInfo
        profileProperty currSeverity
      ((∀ cdev ∈ selectBindings info (updateProfile input info status).profile,
          BoundWith hasPidWeight info.bindedCdevInfoMap cdev) ∧
        ∀ rail ∈ info.excludedPowerInfoMap, rail ∈ rails) ∧
      RailsKnown rails currSeverity (info.bindingsUnder profileProperty).entries := by
    intro profileProperty currSeverity hseverity input
    have hprobing : Probing info start.cdevAllRequestMap input :=
      probe_probing hmirrored hstatus hseverity
    have hread : RegisteredStatus input.coolingDeviceInfoMap info.bindedCdevInfoMap
        (updateProfile input info status) :=
      updateProfile_frame.shape.registeredStatus hstatus
    have hrails : input.powerStatusMap.keys = rails.keys := keys_probe _ _ _ _ _ _
    have hpart : updatePid input info start.cdevAllRequestMap (updateProfile input info status) ≠
        .error .outOfRange :=
      h.probe hregistered hsensor hinfo hlookup profileProperty hseverity
    unfold updatePid at hpart
    have hbudgets : (updateProfile input info status).pidPowerBudgetMap.entries ≠ [] :=
      (supportsPid_iff hread).mpr hpid
    rw [if_pos hbudgets] at hpart
    have hallocate : allocatePowerToCdev input info start.cdevAllRequestMap
        (updateProfile input info status) ≠ .error .outOfRange := ne_error_of_bind hpart
    have hbudget := ne_error_of_bind hallocate
    have hmeets := @Probing.updatePowerBudget input info start.cdevAllRequestMap
      (updateProfile input info status) hprobing
    cases hreturns : updatePowerBudget input info start.cdevAllRequestMap
        (updateProfile input info status) with
    | error fault =>
      rw [hmeets.of_error hreturns] at hreturns
      exact absurd hreturns hbudget
    | ok budget =>
      obtain ⟨hrequests, hexcluded⟩ := hmeets.of_ok hreturns
      refine ⟨⟨fun cdev hcdev ↦ ?_, fun rail hrail ↦ ?_⟩, ?_⟩
      · obtain ⟨binding, hbinding⟩ := mem_iff_lookup.mp hcdev
        exact (hread.requests cdev).mp (hrequests ⟨cdev, binding⟩ (mem_entries_iff.mpr hbinding))
      · obtain ⟨excluded, hlookup'⟩ := mem_iff_lookup.mp hrail
        exact (mem_iff_of_keys_eq hrails rail).mp
          (hexcluded ⟨rail, excluded⟩ (mem_entries_iff.mpr hlookup'))
      · unfold allocatePowerToCdev at hallocate
        rw [hreturns] at hallocate
        have hpasses : allocatePasses input start.cdevAllRequestMap
            (updateProfile input info status)
            (selectBindings info (updateProfile input info status).profile) (input.round budget.1) ≠
            .error .outOfRange := ne_error_of_bind hallocate
        rw [selectBindings_updateProfile] at hpasses
        exact (hprobing.firstPass (info.bindingsUnder profileProperty).nodupKeys
          (FirstPass.start _ (input.round budget.1)) (ne_error_of_bind hpasses)).of_keys hrails.symm
  have hlight := (hparts "" .light (by decide)).1
  refine ⟨fun cdev hcdev ↦ hlight.1 cdev ?_, hlight.2,
    fun profileProperty severity hseverity ↦ (hparts profileProperty severity hseverity).2⟩
  exact (hprofiles.mem_selectBindings _).mpr hcdev

end Necessary

/-! ## The main result -/

/-- The lookups of a registered configuration are total exactly when they are covered. -/
theorem lookupsTotal_iff {setup : ThrottlingSetup} {rails : PowerStatusMap}
    {start : ThermalThrottling} (hregistered : setup.registered = some start)
    (hprofiles : ∀ sensor info, setup.Throttles sensor info → info.ProfilesMatchDefault) :
    LookupsTotal setup rails ↔ setup.LookupsCovered rails := by
  constructor
  · intro h sensor info hthrottles hpid
    exact h.covered hregistered hthrottles (hprofiles sensor info hthrottles) hpid
  · intro hcovered devices start' hkeys hregistered' tt reported hrun
    constructor
    · intro input hcalls hseverity hrails
      exact (thermalThrottlingUpdate_findsKeys hregistered' hprofiles hcovered hrun hcalls
        hseverity hrails).ne_outOfRange
    · intro sensor sensorInfo currSeverity hsensor _ _
      exact (computeCoolingDevicesRequest_findsKeys hregistered' hprofiles hrun hsensor
        currSeverity).ne_outOfRange

/-- A sensor with PID parameters that binds one device with weights, and one with a hard limit. -/
def unweightedSensor : Json :=
  .obj [
    ("PIDInfo", .obj (["K_Po", "K_Pu", "K_I", "K_D", "I_Max", "MaxAllocPower", "MinAllocPower",
      "S_Power", "I_Cutoff"].map fun key ↦ (key, .arr (List.replicate 7 (.int 1))))),
    ("BindedCdevInfo", .arr [
      .obj [("CdevRequest", .str "cpu"), ("CdevWeightForPID", .arr (List.replicate 7 (.int 1)))],
      .obj [("CdevRequest", .str "gpu"), ("LimitInfo", .arr (List.replicate 7 (.int 1)))]])]

def cpuAndGpu : CdevInfoMap := ((∅ : CdevInfoMap).insert "cpu" default).insert "gpu" default

def throttledSetup (info : ThrottlingInfo) : ThrottlingSetup where
  sensorInfoMap := (∅ : UnorderedMap String SensorInfo).insert "skin"
    { (default : SensorInfo) with throttlingInfo := some info }
  coolingDeviceInfoMap := cpuAndGpu

theorem unweightedSensor_accepted : ∃ info start,
    parseSensorThrottlingInfo false ∅ cpuAndGpu unweightedSensor = .ok (info, true) ∧
      (throttledSetup info).registered = some start ∧ info.SupportsPid ∧
      ¬ BoundWith hasPidWeight info.bindedCdevInfoMap "gpu" ∧ "gpu" ∈ info.bindedCdevInfoMap := by
  have hresult : (parseSensorThrottlingInfo false ∅ cpuAndGpu unweightedSensor).toOption.map
      (fun result ↦ (result.2, (throttledSetup result.1).registered.isSome,
        (result.1.bindedCdevInfoMap.lookup "cpu").map hasPidWeight,
        (result.1.bindedCdevInfoMap.lookup "gpu").map hasPidWeight)) =
      some (true, true, some true, some false) := by decide +kernel
  obtain ⟨⟨info, supported⟩, hparse, hfields⟩ := Option.map_eq_some_iff.mp hresult
  simp only [Prod.mk.injEq] at hfields
  obtain ⟨rfl, hregistered, hcpu, hgpu⟩ := hfields
  obtain ⟨start, hstart⟩ := Option.isSome_iff_exists.mp hregistered
  obtain ⟨cpu, hcpuLookup, hcpuWeight⟩ := Option.map_eq_some_iff.mp hcpu
  obtain ⟨gpu, hgpuLookup, hgpuWeight⟩ := Option.map_eq_some_iff.mp hgpu
  refine ⟨info, start, toOption_eq_some hparse, hstart, ⟨"cpu", cpu, hcpuLookup, hcpuWeight⟩, ?_,
    mem_of_lookup hgpuLookup⟩
  rintro ⟨binding, hlookup, hweight⟩
  rw [Option.some.inj (hlookup.symm.trans hgpuLookup), hgpuWeight] at hweight
  cases hweight

theorem throttledSetup_throttles {info info' : ThrottlingInfo} {sensor : String}
    (h : (throttledSetup info).Throttles sensor info') : info' = info := by
  obtain ⟨sensorInfo, hsensor, hinfo⟩ := h
  obtain ⟨-, rfl⟩ := eq_of_lookup_insert_empty hsensor
  exact (Option.some.inj hinfo).symm

/-- The lookups of an accepted sensor are total exactly when they are covered. -/
theorem unweightedSensor_lookupsTotal_iff : ∃ info,
    parseSensorThrottlingInfo false ∅ cpuAndGpu unweightedSensor = .ok (info, true) ∧
      (LookupsTotal (throttledSetup info) ∅ ↔ (throttledSetup info).LookupsCovered ∅) := by
  obtain ⟨info, start, hparse, hregistered, -⟩ := unweightedSensor_accepted
  refine ⟨info, hparse, lookupsTotal_iff hregistered fun sensor info' hthrottles ↦ ?_⟩
  rw [throttledSetup_throttles hthrottles]
  exact parseSensorThrottlingInfo_profiles hparse

/-- A device without a weight has no request, and its request is looked up. -/
theorem not_lookupsTotal_unweighted : ∃ info start,
    parseSensorThrottlingInfo false ∅ cpuAndGpu unweightedSensor = .ok (info, true) ∧
      (throttledSetup info).registered = some start ∧ ¬ LookupsTotal (throttledSetup info) ∅ := by
  obtain ⟨info, start, hparse, hregistered, hpid, hunweighted, hbound⟩ := unweightedSensor_accepted
  refine ⟨info, start, hparse, hregistered, fun h ↦ hunweighted ?_⟩
  have hthrottles : (throttledSetup info).Throttles "skin" info := ⟨_, rfl, rfl⟩
  have hcovered := h.covered hregistered hthrottles (parseSensorThrottlingInfo_profiles hparse) hpid
  exact hcovered.weights "gpu" hbound

end HardwareMediatek.Thermal
