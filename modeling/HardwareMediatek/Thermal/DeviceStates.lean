import HardwareMediatek.Thermal.Registration
import HardwareMediatek.Thermal.VoteRuns

/-!
# Requested states are usable

The greatest state of a device comes from its power table when it is a power
cap, and from a file otherwise. The two are validated differently: an empty
table gives a power cap the greatest state `-1`, a file may contain a negative
number, and a device that the PID algorithm throttles needs no table at all.
Votes stay within the states of their device, and power tables are read inside
their bounds, exactly when the configuration and the files exclude these cases.
-/

namespace HardwareMediatek.Thermal

open UnorderedMap

/-- What the throttling part of the helper is constructed from. -/
structure ThrottlingConfig where
  sensorInfoMap : UnorderedMap String SensorInfo
  coolingDeviceInfoMap : CdevInfoMap
  sysfs : CdevSysfs

/-- The sensors with throttling, one after the other: each is registered, and its ceilings are cut
down. A registration that fails ends the construction. -/
def initializeSensors (coolingDeviceInfoMap : CdevInfoMap) :
    List SensorEntry → UnorderedMap String SensorInfo × ThermalThrottling →
      Checked (Option (UnorderedMap String SensorInfo × ThermalThrottling))
  | [], result => .ok (some result)
  | ⟨sensorName, sensorInfo⟩ :: rest, (sensorInfoMap, tt) =>
    match sensorInfo.throttlingInfo with
    | none => initializeSensors coolingDeviceInfoMap rest (sensorInfoMap, tt)
    | some info =>
      match registerThermalThrottling tt sensorName (some info) coolingDeviceInfoMap with
      | (_, false) => .ok none
      | (tt, true) => do
        let info ← checkCeilings coolingDeviceInfoMap info
        initializeSensors coolingDeviceInfoMap rest
          (sensorInfoMap.assign sensorName { sensorInfo with throttlingInfo := some info }, tt)

/-- The throttling part of the constructor: the cooling devices first, and then the sensors. -/
def ThrottlingConfig.initializeThrottling (config : ThrottlingConfig) :
    Checked (Option (ThrottlingSetup × ThermalThrottling)) :=
  match initializeThrottlingMap config.sysfs config.coolingDeviceInfoMap with
  | none => .ok none
  | some (coolingDeviceInfoMap, _) => do
    match ← initializeSensors coolingDeviceInfoMap config.sensorInfoMap.entries
        (config.sensorInfoMap, .empty) with
    | none => pure none
    | some (sensorInfoMap, tt) => pure (some (⟨sensorInfoMap, coolingDeviceInfoMap⟩, tt))

/-! ## Devices after their initialization -/

section Devices

/-- The device is powered by a table: a configured one, or a file that starts with a number. -/
def HasPowers (sysfs : CdevSysfs) (name : String) (cdevInfo : CdevInfo) : Prop :=
  cdevInfo.state2power ≠ [] ∨
    if cdevInfo.applyPowercap then
      ∃ path text, sysfs.powercapMap.lookup name = some path ∧
        sysfs.readFile (path ++ "/" ++ kPowerCapState2powerSuffix) = some text ∧
        signedNumbers text ≠ []
    else
      ∃ path text, sysfs.cdevMap.lookup name = some path ∧
        sysfs.readFile (path ++ "/" ++ kCoolingDeviceState2powerSuffix) = some text ∧
        unsignedNumbers text ≠ []

/-- The device has the state 0: the table of a power cap is not empty, and the file with the
greatest state of another device contains no negative number. -/
def HasStates (sysfs : CdevSysfs) (name : String) (cdevInfo : CdevInfo) : Prop :=
  if cdevInfo.applyPowercap then HasPowers sysfs name cdevInfo
  else ∀ path text, sysfs.cdevMap.lookup name = some path →
    sysfs.readFile (path ++ "/" ++ kCoolingDeviceMaxStateSuffix) = some text → 0 ≤ atoi text

/-- A device as it is after its initialization. -/
structure InitializedDevice (sysfs : CdevSysfs) (name : String) (cdevInfo cdevInfo' : CdevInfo) :
    Prop where
  applyPowercap : cdevInfo'.applyPowercap = cdevInfo.applyPowercap
  powers : cdevInfo'.state2power ≠ [] ↔ HasPowers sysfs name cdevInfo
  states : 0 ≤ cdevInfo'.maxState ↔ HasStates sysfs name cdevInfo
  powercap : cdevInfo'.applyPowercap = true →
    cdevInfo'.maxState = (cdevInfo'.state2power.length : ℤ) - 1

theorem powersFromFile_ne_nil (state2power : List ExactFloat) (content : Option String)
    (powers : String → List ExactFloat) :
    powersFromFile state2power content powers ≠ [] ↔
      state2power ≠ [] ∨ ∃ text, content = some text ∧ powers text ≠ [] := by
  unfold powersFromFile
  cases state2power with
  | cons power rest => simp
  | nil => cases content <;> simp

theorem lastIndex_nonneg_iff {α : Type} (xs : List α) : 0 ≤ (xs.length : ℤ) - 1 ↔ xs ≠ [] := by
  rw [← List.length_pos_iff]
  omega

theorem initializePowercapEntry_initialized {sysfs : CdevSysfs} {name : String}
    {cdevInfo cdevInfo' : CdevInfo} {files files' : ThermalFiles}
    (hpowercap : cdevInfo.applyPowercap = true)
    (h : initializePowercapEntry sysfs.readFile sysfs.powercapMap name cdevInfo files =
      some (cdevInfo', files')) : InitializedDevice sysfs name cdevInfo cdevInfo' := by
  unfold initializePowercapEntry at h
  simp only [Option.bind_eq_bind, Option.bind_eq_some_iff] at h
  obtain ⟨path, hpath, _, _, _, _, h⟩ := h
  split at h
  · cases h
  · split at h
    · cases h
    · obtain ⟨rfl, -⟩ := Prod.mk.injEq .. ▸ Option.some.inj h
      have hpowers : cdevInfo.state2power ≠ [] ∨ (∃ text,
          sysfs.readFile (path ++ "/" ++ kPowerCapState2powerSuffix) = some text ∧
            signedNumbers text ≠ []) ↔ HasPowers sysfs name cdevInfo := by
        rw [HasPowers, if_pos hpowercap]
        simp [hpath]
      have htable := powersFromFile_ne_nil cdevInfo.state2power
        (sysfs.readFile (path ++ "/" ++ kPowerCapState2powerSuffix))
        fun text ↦ (signedNumbers text).map fun power ↦
          ExactFloat.ofInt (toInt (ExactFloat.ofInt power * cdevInfo.multiplier))
      simp only [ne_eq, List.map_eq_nil_iff] at htable
      refine ⟨rfl, htable.trans hpowers, ?_, fun _ ↦ rfl⟩
      rw [HasStates, if_pos hpowercap]
      exact (lastIndex_nonneg_iff _).trans (htable.trans hpowers)

theorem initializeCoolingDeviceEntry_initialized {sysfs : CdevSysfs} {name : String}
    {cdevInfo cdevInfo' : CdevInfo} {files files' : ThermalFiles}
    (hpowercap : cdevInfo.applyPowercap = false)
    (h : initializeCoolingDeviceEntry sysfs.readFile sysfs.cdevMap name cdevInfo files =
      some (cdevInfo', files')) : InitializedDevice sysfs name cdevInfo cdevInfo' := by
  unfold initializeCoolingDeviceEntry at h
  simp only [Option.bind_eq_bind, Option.bind_eq_some_iff] at h
  obtain ⟨path, hpath, _, _, _, _, h⟩ := h
  obtain ⟨rfl, -⟩ := Prod.mk.injEq .. ▸ Option.some.inj h
  refine ⟨rfl, ?_, ?_, fun htrue ↦ absurd htrue (by simp [hpowercap])⟩
  · have htable := powersFromFile_ne_nil cdevInfo.state2power
      (sysfs.readFile (path ++ "/" ++ kCoolingDeviceState2powerSuffix))
      fun text ↦ (unsignedNumbers text).map fun power ↦
        ExactFloat.ofInt power * cdevInfo.multiplier
    simp only [ne_eq, List.map_eq_nil_iff] at htable
    rw [HasPowers, hpowercap]
    simpa [hpath] using htable
  · have hstates : HasStates sysfs name cdevInfo ↔ ∀ text,
        sysfs.readFile (path ++ "/" ++ kCoolingDeviceMaxStateSuffix) = some text →
          0 ≤ atoi text := by
      rw [HasStates, if_neg (by simp [hpowercap])]
      constructor
      · exact fun hfile text htext ↦ hfile path text hpath htext
      · intro hfile path' text hpath' htext
        obtain rfl := Option.some.inj (hpath.symm.trans hpath')
        exact hfile text htext
    rw [hstates]
    dsimp only
    cases sysfs.readFile (path ++ "/" ++ kCoolingDeviceMaxStateSuffix) with
    | none => simp [intMax]
    | some text => simp

theorem initializeEntry_initialized {sysfs : CdevSysfs} {name : String}
    {cdevInfo cdevInfo' : CdevInfo} {files files' : ThermalFiles}
    (h : initializeEntry sysfs name cdevInfo files = some (cdevInfo', files')) :
    InitializedDevice sysfs name cdevInfo cdevInfo' := by
  unfold initializeEntry at h
  split at h
  · rename_i hpowercap
    exact initializePowercapEntry_initialized hpowercap h
  · rename_i hpowercap
    exact initializeCoolingDeviceEntry_initialized (by simpa using hpowercap) h

/-- Every device of the list is initialized in place, and no other one changes. -/
theorem initializeEntries_initialized {sysfs : CdevSysfs}
    {pairs : List (Sigma fun _ : String ↦ CdevInfo)} (hnodup : (pairs.map Sigma.fst).Nodup)
    {result result' : CdevInfoMap × ThermalFiles}
    (h : initializeEntries sysfs pairs result = some result') :
    result'.1.keys = result.1.keys ∧
      (∀ name ∉ pairs.map Sigma.fst, result'.1.lookup name = result.1.lookup name) ∧
      ∀ pair ∈ pairs, pair.1 ∈ result.1 → ∃ cdevInfo,
        result'.1.lookup pair.1 = some cdevInfo ∧
          InitializedDevice sysfs pair.1 pair.2 cdevInfo := by
  induction pairs generalizing result with
  | nil =>
    obtain rfl := Option.some.inj h
    exact ⟨rfl, fun _ _ ↦ rfl, fun pair hpair ↦ absurd hpair List.not_mem_nil⟩
  | cons pair rest ih =>
    obtain ⟨name, cdevInfo⟩ := pair
    obtain ⟨devices, files⟩ := result
    rw [initializeEntries] at h
    obtain ⟨hfresh, hnodup⟩ := List.nodup_cons.mp hnodup
    split at h
    · cases h
    · rename_i cdevInfo' files' hentry
      obtain ⟨hkeys, hsame, hdone⟩ := ih hnodup h
      refine ⟨hkeys.trans (keys_assign _ _ _), fun name' hname' ↦ ?_, fun pair hpair hmem ↦ ?_⟩
      · rw [List.map_cons, List.mem_cons, not_or] at hname'
        rw [hsame name' hname'.2]
        exact lookup_assign_ne _ _ hname'.1
      · rcases List.mem_cons.mp hpair with rfl | hrest
        · refine ⟨cdevInfo', ?_, initializeEntry_initialized hentry⟩
          rw [hsame name hfresh]
          exact lookup_assign_of_mem _ hmem
        · exact hdone pair hrest ((mem_iff_of_keys_eq (keys_assign _ _ _) _).mpr hmem)

/-- The devices are the configured ones, and each is initialized. -/
theorem initializeThrottlingMap_initialized {sysfs : CdevSysfs} {devices devices' : CdevInfoMap}
    {files : ThermalFiles} (h : initializeThrottlingMap sysfs devices = some (devices', files)) :
    devices'.keys = devices.keys ∧
      ∀ name cdevInfo, devices.lookup name = some cdevInfo → ∃ cdevInfo',
        devices'.lookup name = some cdevInfo' ∧
          InitializedDevice sysfs name cdevInfo cdevInfo' := by
  obtain ⟨hkeys, -, hdone⟩ := initializeEntries_initialized devices.nodupKeys h
  exact ⟨hkeys, fun name cdevInfo hlookup ↦
    hdone ⟨name, cdevInfo⟩ (mem_entries_iff.mpr hlookup) (mem_of_lookup hlookup)⟩

end Devices

/-! ## Ceilings after the check -/

section Ceilings

variable {devices : CdevInfoMap}

/-- The same devices are bound, each with its ceilings cut down. -/
structure CappedBindings (devices : CdevInfoMap) (bindings bindings' : BindedCdevInfoMap) :
    Prop where
  keys : bindings'.keys = bindings.keys
  capped : ∀ cdev binding, bindings.lookup cdev = some binding → ∃ cdevInfo,
    devices.lookup cdev = some cdevInfo ∧
      bindings'.lookup cdev = some (capCeilings cdevInfo binding)

theorem maxCoolingRequestCheck_capped {bindings bindings' : BindedCdevInfoMap}
    (h : maxCoolingRequestCheck devices bindings = .ok bindings') :
    CappedBindings devices bindings bindings' := by
  obtain ⟨hkeys, hdone⟩ := (meets_assignEach (capBinding devices) bindings).of_ok h
  refine ⟨hkeys, fun cdev binding hbinding ↦ ?_⟩
  obtain ⟨binding', hcap, hlookup⟩ := hdone cdev binding hbinding
  obtain ⟨cdevInfo, hdevice, hcapped⟩ := bind_eq_ok.mp hcap
  obtain rfl := Except.ok.inj hcapped
  exact ⟨cdevInfo, atKey_eq_ok.mp hdevice, hlookup⟩

theorem checkCeilings_capped {info info' : ThrottlingInfo} (h : checkCeilings devices info = .ok info')
    (profile : String) :
    CappedBindings devices (selectBindings info profile) (selectBindings info' profile) := by
  obtain ⟨bindings, hbindings, h⟩ := bind_eq_ok.mp h
  obtain ⟨profiles, hprofiles, h⟩ := bind_eq_ok.mp h
  obtain rfl := Except.ok.inj h
  obtain ⟨hkeys, hdone⟩ := (meets_assignEach _ info.profileMap).of_ok hprofiles
  unfold selectBindings
  cases hprofile : info.profileMap.lookup profile with
  | none =>
    have hnone : profiles.lookup profile = none := by
      rw [AList.lookup_eq_none] at hprofile ⊢
      rwa [mem_iff_of_keys_eq hkeys]
    rw [hnone]
    exact maxCoolingRequestCheck_capped hbindings
  | some bindings =>
    obtain ⟨bindings', hcheck, hlookup⟩ := hdone profile bindings hprofile
    rw [hlookup]
    exact maxCoolingRequestCheck_capped hcheck

theorem capCeilings_bounds {cdevInfo : CdevInfo} {binding : BindedCdevInfo}
    {severity : ThrottlingSeverity} (hceiling : 0 ≤ binding.cdevCeiling severity)
    (hstates : 0 ≤ cdevInfo.maxState) :
    0 ≤ (capCeilings cdevInfo binding).cdevCeiling severity ∧
      (capCeilings cdevInfo binding).cdevCeiling severity ≤ cdevInfo.maxState := by
  unfold capCeilings
  dsimp only
  split <;> omega

/-- What the construction makes of the settings of a sensor. -/
def CappedSensor (devices : CdevInfoMap) (sensorInfo sensorInfo' : SensorInfo) : Prop :=
  match sensorInfo.throttlingInfo with
  | none => sensorInfo' = sensorInfo
  | some info => ∃ info', checkCeilings devices info = .ok info' ∧
      sensorInfo' = { sensorInfo with throttlingInfo := some info' }

/-- The sensors of the list are registered with the settings they are configured with, and keep
them with cut ceilings. -/
theorem initializeSensors_initialized {pairs : List SensorEntry}
    (hnodup : (pairs.map Sigma.fst).Nodup)
    {result result' : UnorderedMap String SensorInfo × ThermalThrottling}
    (hlookup : ∀ pair ∈ pairs, result.1.lookup pair.1 = some pair.2)
    (h : initializeSensors devices pairs result = .ok (some result')) :
    registerSensors devices pairs result.2 = some result'.2 ∧
      (∀ name ∉ pairs.map Sigma.fst, result'.1.lookup name = result.1.lookup name) ∧
      ∀ pair ∈ pairs, ∃ sensorInfo, result'.1.lookup pair.1 = some sensorInfo ∧
        CappedSensor devices pair.2 sensorInfo := by
  induction pairs generalizing result with
  | nil =>
    obtain rfl := Option.some.inj (Except.ok.inj h)
    exact ⟨rfl, fun _ _ ↦ rfl, fun pair hpair ↦ absurd hpair List.not_mem_nil⟩
  | cons pair rest ih =>
    obtain ⟨sensorName, sensorInfo⟩ := pair
    obtain ⟨sensors, tt⟩ := result
    obtain ⟨hfresh, hnodup⟩ := List.nodup_cons.mp hnodup
    have hsensor := hlookup _ List.mem_cons_self
    have hrest : ∀ pair ∈ rest, pair.1 ≠ sensorName := by
      intro pair hpair heq
      have hmem : pair.1 ∈ rest.map Sigma.fst := List.mem_map_of_mem hpair
      rw [heq] at hmem
      exact hfresh hmem
    rw [initializeSensors] at h
    rw [registerSensors]
    cases hinfo : sensorInfo.throttlingInfo with
    | none =>
      simp only [hinfo] at h ⊢
      obtain ⟨hregister, hsame, hdone⟩ := ih hnodup
        (fun pair hpair ↦ hlookup pair (List.mem_cons_of_mem _ hpair)) h
      refine ⟨hregister, fun name hname ↦ hsame name fun hin ↦ hname (List.mem_cons_of_mem _ hin),
        fun pair hpair ↦ ?_⟩
      rcases List.mem_cons.mp hpair with rfl | hpair
      · refine ⟨sensorInfo, ?_, ?_⟩
        · rw [hsame sensorName hfresh, hsensor]
        · rw [CappedSensor, hinfo]
      · exact hdone pair hpair
    | some info =>
      simp only [hinfo] at h ⊢
      split at h
      · cases h
      · rename_i tt' hregistered
        obtain ⟨info', hcheck, h⟩ := bind_eq_ok.mp h
        obtain ⟨hregister, hsame, hdone⟩ := ih hnodup (fun pair hpair ↦ by
          rw [lookup_assign_ne _ _ (hrest pair hpair)]
          exact hlookup pair (List.mem_cons_of_mem _ hpair)) h
        refine ⟨?_, fun name hname ↦ ?_, fun pair hpair ↦ ?_⟩
        · rw [hregistered]
          exact hregister
        · rw [List.map_cons, List.mem_cons, not_or] at hname
          rw [hsame name hname.2]
          exact lookup_assign_ne _ _ hname.1
        · rcases List.mem_cons.mp hpair with rfl | hpair
          · refine ⟨{ sensorInfo with throttlingInfo := some info' }, ?_, ?_⟩
            · rw [hsame sensorName hfresh]
              exact lookup_assign_of_mem _ (mem_of_lookup hsensor)
            · rw [CappedSensor, hinfo]
              exact ⟨info', hcheck, rfl⟩
          · exact hdone pair hpair

end Ceilings

/-! ## The constructed helper -/

/-- The devices and sensors of a construction that succeeds. -/
structure Initialized (config : ThrottlingConfig) (setup : ThrottlingSetup)
    (start : ThermalThrottling) : Prop where
  deviceKeys : setup.coolingDeviceInfoMap.keys = config.coolingDeviceInfoMap.keys
  devices : ∀ name cdevInfo, config.coolingDeviceInfoMap.lookup name = some cdevInfo →
    ∃ cdevInfo', setup.coolingDeviceInfoMap.lookup name = some cdevInfo' ∧
      InitializedDevice config.sysfs name cdevInfo cdevInfo'
  registered : registerSensors setup.coolingDeviceInfoMap config.sensorInfoMap.entries .empty =
    some start
  sensors : ∀ sensor sensorInfo, config.sensorInfoMap.lookup sensor = some sensorInfo →
    ∃ sensorInfo', setup.sensorInfoMap.lookup sensor = some sensorInfo' ∧
      CappedSensor setup.coolingDeviceInfoMap sensorInfo sensorInfo'

theorem ThrottlingConfig.initialize_initialized {config : ThrottlingConfig}
    {setup : ThrottlingSetup} {start : ThermalThrottling}
    (h : config.initializeThrottling = .ok (some (setup, start))) : Initialized config setup start := by
  unfold ThrottlingConfig.initializeThrottling at h
  split at h
  · cases h
  · rename_i devices files hdevices
    obtain ⟨result, hsensors, h⟩ := bind_eq_ok.mp h
    split at h
    · cases h
    · rename_i sensors tt
      obtain ⟨rfl, rfl⟩ := Prod.mk.injEq .. ▸ Option.some.inj (Except.ok.inj h)
      obtain ⟨hkeys, hinitialized⟩ := initializeThrottlingMap_initialized hdevices
      obtain ⟨hregistered, -, hcapped⟩ := initializeSensors_initialized
        config.sensorInfoMap.nodupKeys (fun _ hpair ↦ lookup_of_mem_entries hpair) hsensors
      exact ⟨hkeys, hinitialized, hregistered, fun sensor sensorInfo hlookup ↦
        hcapped ⟨sensor, sensorInfo⟩ (mem_entries_iff.mpr hlookup)⟩

/-- The states that are requested are usable: in every state that the constructed helper reaches,
the votes that are computed are states of their devices, and the power tables are read inside their
bounds. -/
structure UsableStates (setup : ThrottlingSetup) (start : ThermalThrottling) : Prop where
  votes : ∀ tt reported, ThrottlingRun setup start tt reported →
    ∀ sensor sensorInfo severity tt' updated,
      setup.sensorInfoMap.lookup sensor = some sensorInfo →
      computeCoolingDevicesRequest tt sensor sensorInfo severity = .ok (tt', updated) →
      ∀ status, tt'.thermalThrottlingStatusMap.lookup sensor = some status →
        ∀ cdev vote, status.cdevStatusMap.lookup cdev = some vote →
          ∃ cdevInfo, setup.coolingDeviceInfoMap.lookup cdev = some cdevInfo ∧
            0 ≤ vote ∧ vote ≤ cdevInfo.maxState
  written : ∀ tt reported, ThrottlingRun setup start tt reported → ∀ outcome updatedCdev,
    updateCoolingDevices setup.coolingDeviceInfoMap tt.cdevAllRequestMap outcome updatedCdev ≠
      .error .badIndex
  cleared : clearAllThrottling setup.coolingDeviceInfoMap ≠ .error .badIndex
  /-- The requests are looked up in the middle of an update, with the keys of a reachable status. -/
  lookedUp : ∀ tt reported, ThrottlingRun setup start tt reported →
    ∀ sensor status, tt.thermalThrottlingStatusMap.lookup sensor = some status →
      ∀ status', SameShape status status' →
        updateCdevRequestByPower setup.coolingDeviceInfoMap status' ≠ .error .badIndex

/-- The sensor throttles with this default binding. -/
def ThrottlingConfig.Throttles (config : ThrottlingConfig) (sensor : String)
    (bindings : BindedCdevInfoMap) : Prop :=
  ∃ sensorInfo info, config.sensorInfoMap.lookup sensor = some sensorInfo ∧
    sensorInfo.throttlingInfo = some info ∧ info.bindedCdevInfoMap = bindings

/-- A device that is bound by the default binding of some sensor in a way that satisfies `p`. -/
def ThrottlingConfig.Binds (config : ThrottlingConfig) (p : BindedCdevInfo → Bool) (cdev : String) :
    Prop :=
  ∃ sensor bindings, config.Throttles sensor bindings ∧ BoundWith p bindings cdev

/-- The configuration and the files provide what the requests rely on: a power table for every
power cap and for every device with a PID weight, and the state 0 for every device that is voted
for. -/
structure ThrottlingConfig.ProvidesStates (config : ThrottlingConfig) : Prop where
  powercaps : ∀ name cdevInfo, config.coolingDeviceInfoMap.lookup name = some cdevInfo →
    cdevInfo.applyPowercap = true → HasPowers config.sysfs name cdevInfo
  weighted : ∀ name cdevInfo, config.coolingDeviceInfoMap.lookup name = some cdevInfo →
    config.Binds hasPidWeight name → HasPowers config.sysfs name cdevInfo
  voted : ∀ name cdevInfo, config.coolingDeviceInfoMap.lookup name = some cdevInfo →
    config.Binds hasVote name → HasStates config.sysfs name cdevInfo

/-- No configured ceiling is negative. -/
def ThrottlingConfig.NonnegCeilings (config : ThrottlingConfig) : Prop :=
  ∀ sensor sensorInfo info, config.sensorInfoMap.lookup sensor = some sensorInfo →
    sensorInfo.throttlingInfo = some info → info.NonnegCeilings

/-! ## Enough for usable states -/

section Usable

variable {config : ThrottlingConfig} {setup : ThrottlingSetup} {start : ThermalThrottling}

/-- The status of a sensor whose votes are states of their devices. -/
structure UsableStatus (config : ThrottlingConfig) (setup : ThrottlingSetup) (sensor : String)
    (status : ThermalThrottlingStatus) : Prop where
  registered : ∃ bindings, config.Throttles sensor bindings ∧
    RegisteredStatus setup.coolingDeviceInfoMap bindings status
  requests : ∀ cdev request, status.pidCdevRequestMap.lookup cdev = some request → 0 ≤ request
  votes : ∀ cdev vote, status.cdevStatusMap.lookup cdev = some vote → ∃ cdevInfo,
    setup.coolingDeviceInfoMap.lookup cdev = some cdevInfo ∧ 0 ≤ vote ∧ vote ≤ cdevInfo.maxState

/-- A registered device is a configured one that has been initialized. -/
theorem Initialized.device (h : Initialized config setup start) {name : String}
    (hname : name ∈ setup.coolingDeviceInfoMap) : ∃ cdevInfo cdevInfo',
      config.coolingDeviceInfoMap.lookup name = some cdevInfo ∧
      setup.coolingDeviceInfoMap.lookup name = some cdevInfo' ∧
      InitializedDevice config.sysfs name cdevInfo cdevInfo' := by
  obtain ⟨cdevInfo, hlookup⟩ := mem_iff_lookup.mp ((mem_iff_of_keys_eq h.deviceKeys name).mp hname)
  obtain ⟨cdevInfo', hlookup', hinitialized⟩ := h.devices name cdevInfo hlookup
  exact ⟨cdevInfo, cdevInfo', hlookup, hlookup', hinitialized⟩

/-- A device with a vote has the state 0. -/
theorem UsableStatus.states (hinit : Initialized config setup start)
    (hprovides : config.ProvidesStates) {sensor : String} {status : ThermalThrottlingStatus}
    {bindings : BindedCdevInfoMap} (hbound : config.Throttles sensor bindings)
    (hregistered : RegisteredStatus setup.coolingDeviceInfoMap bindings status) {cdev : String}
    (hcdev : cdev ∈ status.cdevStatusMap) : ∃ cdevInfo,
      setup.coolingDeviceInfoMap.lookup cdev = some cdevInfo ∧ 0 ≤ cdevInfo.maxState := by
  obtain ⟨binding, hbinding, hvote⟩ := (hregistered.votes cdev).mp hcdev
  obtain ⟨cdevInfo, cdevInfo', hlookup, hlookup', hinitialized⟩ :=
    hinit.device (hregistered.devices cdev (mem_of_lookup hbinding))
  refine ⟨cdevInfo', hlookup', hinitialized.states.mpr ?_⟩
  exact hprovides.voted cdev cdevInfo hlookup ⟨sensor, bindings, hbound, binding, hbinding, hvote⟩

theorem lasting_usableStatus (hinit : Initialized config setup start)
    (hceilings : config.NonnegCeilings) (hprovides : config.ProvidesStates) :
    Lasting setup (UsableStatus config setup) where
  frame sensor status status' hframe h := by
    refine ⟨(lasting_registeredStatus setup config.Throttles).frame sensor status status' hframe h.registered,
      hframe.requests h.requests, ?_⟩
    rw [hframe.votes]
    exact h.votes
  compute sensor sensorInfo info' currSeverity status votes hsensor hinfo' hvotes h := by
    refine ⟨(lasting_registeredStatus setup config.Throttles).compute sensor sensorInfo info'
      currSeverity status votes hsensor hinfo' hvotes h.registered, h.requests, fun cdev vote hvote ↦ ?_⟩
    obtain ⟨bindings, hbound, hregistered⟩ := h.registered
    have hcdev : cdev ∈ status.cdevStatusMap :=
      (mem_iff_of_keys_eq hvotes.keys cdev).mp (mem_of_lookup hvote)
    obtain ⟨cdevInfo, hdevice, hstates⟩ :=
      UsableStatus.states hinit hprovides hbound hregistered hcdev
    obtain ⟨configured, info, hconfigured, hinfo, rfl⟩ := hbound
    obtain ⟨sensorInfo', hsensor', hcapped⟩ := hinit.sensors sensor configured hconfigured
    obtain rfl := Option.some.inj (hsensor.symm.trans hsensor')
    rw [CappedSensor, hinfo] at hcapped
    obtain ⟨info'', hcheck, rfl⟩ := hcapped
    obtain rfl := Option.some.inj hinfo'
    obtain ⟨binding', hbinding', hcast⟩ := hvotes.cast cdev vote hvote
    have hcappedBindings := checkCeilings_capped hcheck status.profile
    obtain ⟨binding, hbinding⟩ := mem_iff_lookup.mp
      ((mem_iff_of_keys_eq hcappedBindings.keys cdev).mp (mem_of_lookup hbinding'))
    obtain ⟨cdevInfo', hdevice', hcap⟩ := hcappedBindings.capped cdev binding hbinding
    obtain rfl := Option.some.inj (hdevice.symm.trans hdevice')
    obtain rfl := Option.some.inj (hbinding'.symm.trans hcap)
    have hceiling := hceilings sensor configured info hconfigured hinfo _
      (selectBindings_binds info status.profile) cdev binding hbinding currSeverity
    obtain ⟨hnonneg, hmax⟩ := capCeilings_bounds hceiling hstates
    obtain ⟨hlow, hhigh⟩ := requestOf_bounds h.requests hnonneg hcast
    exact ⟨cdevInfo, hdevice, hlow, hhigh.trans hmax⟩

theorem Initialized.registeredSensor (hinit : Initialized config setup start) {sensor : String}
    {status : ThermalThrottlingStatus}
    (hlookup : start.thermalThrottlingStatusMap.lookup sensor = some status) :
    ∃ bindings, config.Throttles sensor bindings ∧
      RegisteredStatus setup.coolingDeviceInfoMap bindings status := by
  rcases registerSensors_statuses hinit.registered hlookup with
    hempty | ⟨⟨_, sensorInfo⟩, hentry, rfl, info, hinfo, hregistered⟩
  · rw [ThermalThrottling.empty, AList.lookup_empty] at hempty
    cases hempty
  · exact ⟨info.bindedCdevInfoMap, ⟨sensorInfo, info, mem_entries_iff.mp hentry, hinfo, rfl⟩,
      hregistered⟩

theorem Initialized.everyUsable (hinit : Initialized config setup start)
    (hprovides : config.ProvidesStates) : EveryStatus (UsableStatus config setup) start := by
  intro sensor status hlookup
  have hregistered := hinit.registeredSensor hlookup
  have hzero := (registerSensors_mirrored VotesMirrored.empty (EveryStatus.empty _)
    hinit.registered).2 sensor status hlookup
  refine ⟨hregistered, hzero.nonnegRequests.requests, fun cdev vote hvote ↦ ?_⟩
  obtain ⟨bindings, hbound, hregistered⟩ := hregistered
  obtain ⟨cdevInfo, hdevice, hstates⟩ :=
    UsableStatus.states hinit hprovides hbound hregistered (mem_of_lookup hvote)
  obtain rfl := hzero.votes cdev vote hvote
  exact ⟨cdevInfo, hdevice, le_rfl, hstates⟩

/-- A state of a device that has been initialized is an entry of its power table, if it is a power
cap. -/
theorem cdevRequest_of_state {cdevInfo : CdevInfo} {state : ℤ}
    (hpowercap : cdevInfo.applyPowercap = true →
      cdevInfo.maxState = (cdevInfo.state2power.length : ℤ) - 1)
    (hlow : 0 ≤ state) (hhigh : state ≤ cdevInfo.maxState) :
    Meets (cdevRequest cdevInfo state) (fun _ ↦ True) fun fault ↦ fault ≠ .badIndex := by
  unfold cdevRequest
  split
  · rename_i h
    have hlt : state < cdevInfo.state2power.length := by
      have := hpowercap h
      omega
    exact (meets_atIndex_of_lt hlow hlt).bind fun _ _ ↦ trivial
  · trivial

theorem updateCoolingDevices_usable (hinit : Initialized config setup start)
    {tt : ThermalThrottling} (hmirrored : VotesMirrored tt)
    (husable : EveryStatus (UsableStatus config setup) tt) (outcome : ℕ → Bool)
    (updatedCdev : List String) :
    updateCoolingDevices setup.coolingDeviceInfoMap tt.cdevAllRequestMap outcome updatedCdev ≠
      .error .badIndex := by
  have hnonneg := votesFor_nonneg fun sensor status hlookup ↦
    (⟨fun cdev vote hvote ↦ by
      obtain ⟨_, -, hlow, -⟩ := (husable sensor status hlookup).votes cdev vote hvote
      exact hlow, (husable sensor status hlookup).requests⟩ : NonnegRequests status)
  have hloop : Meets (updateCoolingDevices setup.coolingDeviceInfoMap tt.cdevAllRequestMap outcome
      updatedCdev) (fun _ ↦ True) fun fault ↦ fault ≠ .badIndex := by
    apply meets_forEach (I := fun _ ↦ True)
    · intro cdev _ writes _
      unfold updateCoolingDevice
      apply Meets.bind (P := fun cdevInfo ↦
        setup.coolingDeviceInfoMap.lookup cdev = some cdevInfo)
      · exact meets_atKey (fun _ ↦ id) fun _ ↦ by decide
      · intro cdevInfo hdevice
        rw [hmirrored.getCdevMaxRequest_eq]
        cases hmax : maxRequest tt.cdevAllRequestMap cdev with
        | none => trivial
        | some state =>
          obtain ⟨sensor, status, hlookup, hcast⟩ := mem_votesFor.mp
            ((hmirrored.maxRequest_eq_some_iff (hnonneg cdev)).mp hmax).1
          obtain ⟨cdevInfo', hdevice', hlow, hhigh⟩ :=
            (husable sensor status hlookup).votes cdev state hcast
          obtain rfl := Option.some.inj (hdevice.symm.trans hdevice')
          obtain ⟨_, _, -, hdevice'', hinitialized⟩ := hinit.device (mem_of_lookup hdevice)
          obtain rfl := Option.some.inj (hdevice.symm.trans hdevice'')
          exact (cdevRequest_of_state hinitialized.powercap hlow hhigh).bind fun _ _ ↦ trivial
    · trivial
  exact fun herror ↦ hloop.of_error herror rfl

theorem clearAllThrottling_usable (hinit : Initialized config setup start)
    (hprovides : config.ProvidesStates) :
    clearAllThrottling setup.coolingDeviceInfoMap ≠ .error .badIndex := by
  have hloop : Meets (clearAllThrottling setup.coolingDeviceInfoMap) (fun _ ↦ True)
      fun fault ↦ fault ≠ .badIndex := by
    apply meets_forEach (I := fun _ ↦ True)
    · intro pair hpair requests _
      have hlookup := lookup_of_mem_entries hpair
      obtain ⟨cdevInfo, cdevInfo', hconfigured, hdevice, hinitialized⟩ :=
        hinit.device (mem_of_lookup hlookup)
      obtain rfl := Option.some.inj (hlookup.symm.trans hdevice)
      refine Meets.bind (P := fun _ ↦ True) ?_ fun _ _ ↦ trivial
      unfold clearRequest cdevRequest
      split
      · rename_i hpowercap
        have htable := hinitialized.powers.mpr
          (hprovides.powercaps pair.1 cdevInfo hconfigured (hinitialized.applyPowercap ▸ hpowercap))
        have hlt : (0 : ℤ) < pair.2.state2power.length := by
          exact_mod_cast List.length_pos_iff.mpr htable
        exact (meets_atIndex_of_lt le_rfl hlt).bind fun _ _ ↦ trivial
      · trivial
    · trivial
  exact fun herror ↦ hloop.of_error herror rfl

theorem updateCdevRequestByPower_usable (hinit : Initialized config setup start)
    (hprovides : config.ProvidesStates) {sensor : String} {status status' : ThermalThrottlingStatus}
    (husable : UsableStatus config setup sensor status) (hshape : SameShape status status') :
    updateCdevRequestByPower setup.coolingDeviceInfoMap status' ≠ .error .badIndex := by
  obtain ⟨bindings, hbound, hregistered⟩ := husable.registered
  have hregistered' := hshape.registeredStatus hregistered
  have hloop : Meets (updateCdevRequestByPower setup.coolingDeviceInfoMap status') (fun _ ↦ True)
      fun fault ↦ fault ≠ .badIndex := by
    refine Meets.bind (meets_forEach (I := fun _ ↦ True) (fun pair hpair requests _ ↦ ?_) trivial)
      fun _ _ ↦ trivial
    have hweighted := (hregistered'.budgets pair.1).mp (mem_of_lookup (lookup_of_mem_entries hpair))
    obtain ⟨binding, hbinding, hweight⟩ := hweighted
    unfold requestByPower
    apply Meets.bind (P := fun cdevInfo ↦ cdevInfo.state2power ≠ [])
    · refine meets_atKey (fun cdevInfo' hdevice ↦ ?_) fun _ ↦ by decide
      obtain ⟨cdevInfo, cdevInfo'', hconfigured, hdevice', hinitialized⟩ :=
        hinit.device (mem_of_lookup hdevice)
      obtain rfl := Option.some.inj (hdevice.symm.trans hdevice')
      exact hinitialized.powers.mpr (hprovides.weighted pair.1 cdevInfo hconfigured
        ⟨sensor, bindings, hbound, binding, hbinding, hweight⟩)
    · intro cdevInfo htable
      refine ((powerToState_nonneg _ _).mono (fun _ _ ↦ trivial) fun fault hfault ↦ ?_).bind
        (P := fun _ ↦ True) fun state _ ↦ ?_
      · exact absurd hfault.2 htable
      · exact (meets_atKey (P := fun _ ↦ True) (fun _ _ ↦ trivial) fun _ ↦ by decide).bind
          fun _ _ ↦ trivial
  exact fun herror ↦ hloop.of_error herror rfl

/-- What the configuration and the files provide is enough. -/
theorem ThrottlingConfig.ProvidesStates.usableStates (hinit : Initialized config setup start)
    (hceilings : config.NonnegCeilings) (hprovides : config.ProvidesStates) :
    UsableStates setup start := by
  have hmirrored := (registerSensors_mirrored VotesMirrored.empty (EveryStatus.empty _)
    hinit.registered).1
  have hrun : ∀ tt reported, ThrottlingRun setup start tt reported →
      EveryStatus (UsableStatus config setup) tt := fun tt reported hrun ↦
    throttlingRun_everyStatus (lasting_usableStatus hinit hceilings hprovides) hmirrored
      (hinit.everyUsable hprovides) hrun
  refine ⟨?_, ?_, clearAllThrottling_usable hinit hprovides, ?_⟩
  · intro tt reported hbefore sensor sensorInfo severity tt' updated hsensor hreturns status hlookup
    have hafter := hrun _ _ (.call hbefore (.compute sensor sensorInfo severity hsensor hreturns))
    exact (hafter sensor status hlookup).votes
  · intro tt reported hbefore outcome updatedCdev
    exact updateCoolingDevices_usable hinit (throttlingRun_mirrored hmirrored hbefore).1
      (hrun _ _ hbefore) outcome updatedCdev
  · intro tt reported hbefore sensor status hlookup status' hshape
    exact updateCdevRequestByPower_usable hinit hprovides (hrun _ _ hbefore sensor status hlookup)
      hshape

end Usable

/-! ## Nothing less is enough -/

section Necessary

variable {config : ThrottlingConfig} {setup : ThrottlingSetup} {start : ThermalThrottling}

theorem clearRequest_meets (cdevInfo : CdevInfo) :
    Meets (clearRequest cdevInfo)
      (fun _ ↦ cdevInfo.applyPowercap = true → cdevInfo.state2power ≠ [])
      fun fault ↦ fault = .badIndex := by
  unfold clearRequest cdevRequest
  split
  · apply Meets.bind (P := fun power ↦ cdevInfo.state2power ≠ [])
    · apply meets_atIndex
      · intro power hpower hempty
        rw [hempty] at hpower
        cases hpower
      · exact fun _ ↦ rfl
    · exact fun _ htable _ ↦ htable
  · rename_i hpowercap
    exact fun htrue ↦ absurd htrue hpowercap

theorem powercaps_of_cleared (hinit : Initialized config setup start)
    (h : clearAllThrottling setup.coolingDeviceInfoMap ≠ .error .badIndex) {name : String}
    {cdevInfo : CdevInfo} (hlookup : config.coolingDeviceInfoMap.lookup name = some cdevInfo)
    (hpowercap : cdevInfo.applyPowercap = true) : HasPowers config.sysfs name cdevInfo := by
  obtain ⟨cdevInfo', hdevice, hinitialized⟩ := hinit.devices name cdevInfo hlookup
  have hloop : Meets (clearAllThrottling setup.coolingDeviceInfoMap)
      (fun _ ↦ True ∧ ∀ pair ∈ setup.coolingDeviceInfoMap.entries,
        pair.2.applyPowercap = true → pair.2.state2power ≠ []) fun fault ↦ fault = .badIndex := by
    apply meets_forEach_each (I := fun _ ↦ True)
    · intro pair _ requests _
      exact (clearRequest_meets pair.2).bind fun _ htable ↦ ⟨trivial, htable⟩
    · trivial
  cases hreturns : clearAllThrottling setup.coolingDeviceInfoMap with
  | error fault => exact absurd (hloop.of_error hreturns ▸ hreturns) h
  | ok requests =>
    have htable := (hloop.of_ok hreturns).2 ⟨name, cdevInfo'⟩ (mem_entries_iff.mpr hdevice)
      (hinitialized.applyPowercap.trans hpowercap)
    exact hinitialized.powers.mp htable

/-- The sensor is registered at the start. -/
theorem Initialized.status (hinit : Initialized config setup start) {sensor : String}
    {bindings : BindedCdevInfoMap} (hbound : config.Throttles sensor bindings) :
    ∃ status, start.thermalThrottlingStatusMap.lookup sensor = some status ∧
      RegisteredStatus setup.coolingDeviceInfoMap bindings status := by
  obtain ⟨sensorInfo, info, hsensor, hinfo, rfl⟩ := hbound
  exact registerSensors_registered hinit.registered (mem_entries_iff.mpr hsensor) hinfo

theorem powers_of_lookedUp (hinit : Initialized config setup start) {name : String}
    {bindings : BindedCdevInfoMap} {status : ThermalThrottlingStatus} {cdevInfo : CdevInfo}
    (hregistered : RegisteredStatus setup.coolingDeviceInfoMap bindings status)
    (h : updateCdevRequestByPower setup.coolingDeviceInfoMap status ≠ .error .badIndex)
    (hweighted : BoundWith hasPidWeight bindings name)
    (hlookup : config.coolingDeviceInfoMap.lookup name = some cdevInfo) :
    HasPowers config.sysfs name cdevInfo := by
  obtain ⟨cdevInfo', hdevice, hinitialized⟩ := hinit.devices name cdevInfo hlookup
  have hloop : Meets (forEach (requestByPower setup.coolingDeviceInfoMap)
      status.pidPowerBudgetMap.entries status.pidCdevRequestMap)
      (fun requests ↦ requests.keys = status.pidCdevRequestMap.keys ∧
        ∀ pair ∈ status.pidPowerBudgetMap.entries, ∀ cdevInfo,
          setup.coolingDeviceInfoMap.lookup pair.1 = some cdevInfo → cdevInfo.state2power ≠ [])
      fun fault ↦ fault = .badIndex := by
    apply meets_forEach_each
      (I := fun requests : UnorderedMap String ℤ ↦ requests.keys = status.pidCdevRequestMap.keys)
      (P := fun pair : Sigma fun _ : String ↦ ℤ ↦ ∀ cdevInfo,
        setup.coolingDeviceInfoMap.lookup pair.1 = some cdevInfo → cdevInfo.state2power ≠ [])
    · intro pair hpair requests hkeys
      have hbudget : pair.1 ∈ status.pidPowerBudgetMap :=
        mem_of_lookup (lookup_of_mem_entries hpair)
      have hrequest : pair.1 ∈ requests := (mem_iff_of_keys_eq hkeys _).mpr
        ((hregistered.requests _).mpr ((hregistered.budgets _).mp hbudget))
      obtain ⟨binding, hbinding, -⟩ := (hregistered.budgets _).mp hbudget
      unfold requestByPower
      apply Meets.bind (meets_atKey_of_mem (hregistered.devices _ (mem_of_lookup hbinding))
        fun _ ↦ id)
      intro cdevInfo' hdevice'
      apply Meets.bind ((powerToState_nonneg _ _).mono (fun _ ↦ id) fun _ hfault ↦ hfault.1)
      intro state hstate
      apply Meets.bind (meets_atKey_of_mem (P := fun _ ↦ True) hrequest fun _ _ ↦ trivial)
      intro _ _
      refine ⟨(keys_assign _ _ _).trans hkeys, fun cdevInfo'' hdevice'' hempty ↦ ?_⟩
      obtain rfl := Option.some.inj (hdevice'.symm.trans hdevice'')
      rw [hempty] at hstate
      exact absurd hstate.2 (by simpa using hstate.1)
    · rfl
  have hbudget : name ∈ status.pidPowerBudgetMap := (hregistered.budgets name).mpr hweighted
  obtain ⟨budget, hbudget⟩ := mem_iff_lookup.mp hbudget
  cases hreturns : forEach (requestByPower setup.coolingDeviceInfoMap)
      status.pidPowerBudgetMap.entries status.pidCdevRequestMap with
  | error fault =>
    obtain rfl := hloop.of_error hreturns
    unfold updateCdevRequestByPower at h
    rw [hreturns] at h
    exact absurd rfl h
  | ok requests =>
    exact hinitialized.powers.mp
      ((hloop.of_ok hreturns).2 ⟨name, budget⟩ (mem_entries_iff.mpr hbudget) cdevInfo' hdevice)

/-- The votes of a sensor can be computed after it has been cleared: every device with a vote is
bound, and no release step is left. -/
theorem computed_of_cleared {tt : ThermalThrottling} (hmirrored : VotesMirrored tt)
    {sensor : String} {status : ThermalThrottlingStatus}
    (hlookup : tt.thermalThrottlingStatusMap.lookup sensor = some (clearStatus status))
    (sensorInfo : SensorInfo) {info : ThrottlingInfo}
    (hinfo : sensorInfo.throttlingInfo = some info)
    (hbound : ∀ cdev ∈ status.cdevStatusMap, cdev ∈ selectBindings info status.profile)
    (currSeverity : ThrottlingSeverity) :
    ∃ result, computeCoolingDevicesRequest tt sensor sensorInfo currSeverity = .ok result ∧
      Computed tt sensor info currSeverity (clearStatus status) result := by
  have hcompute := computeCoolingDevicesRequest_computed hmirrored hlookup sensorInfo currSeverity
  cases hreturns : computeCoolingDevicesRequest tt sensor sensorInfo currSeverity with
  | ok result =>
    obtain ⟨info', hinfo', hcomputed⟩ := hcompute.of_ok hreturns
    obtain rfl := Option.some.inj (hinfo.symm.trans hinfo')
    exact ⟨result, rfl, hcomputed⟩
  | error fault =>
    exfalso
    cases hcompute.of_error hreturns with
    | noThrottling hnone =>
      rw [hinfo] at hnone
      cases hnone
    | unbound hinfo' hvote hmissing =>
      obtain rfl := Option.some.inj (hinfo.symm.trans hinfo')
      exact hmissing (hbound _ hvote)
    | overflow hrelease hstep =>
      rw [show (clearStatus status).throttlingReleaseMap =
        status.throttlingReleaseMap.mapValues fun _ _ ↦ 0 from rfl, lookup_mapValues] at hrelease
      obtain ⟨_, -, rfl⟩ := Option.map_eq_some_iff.mp hrelease
      exact hstep rfl

theorem states_of_votes (hinit : Initialized config setup start)
    (hprofiles : ∀ sensor sensorInfo info, config.sensorInfoMap.lookup sensor = some sensorInfo →
      sensorInfo.throttlingInfo = some info → info.ProfilesMatchDefault)
    (h : UsableStates setup start) {name : String} {cdevInfo : CdevInfo}
    (hvoted : config.Binds hasVote name)
    (hlookup : config.coolingDeviceInfoMap.lookup name = some cdevInfo) :
    HasStates config.sysfs name cdevInfo := by
  obtain ⟨sensor, bindings, hbound, hvote⟩ := hvoted
  obtain ⟨status, hstatus, hregistered⟩ := hinit.status hbound
  obtain ⟨configured, info, hconfigured, hinfo, rfl⟩ := hbound
  obtain ⟨sensorInfo, hsensor, hcapped⟩ := hinit.sensors sensor configured hconfigured
  rw [CappedSensor, hinfo] at hcapped
  obtain ⟨info', hcheck, rfl⟩ := hcapped
  have hmirrored := (registerSensors_mirrored VotesMirrored.empty (EveryStatus.empty _)
    hinit.registered).1
  have hclear : (clearThrottlingData start sensor).thermalThrottlingStatusMap.lookup sensor =
      some (clearStatus status) := by
    unfold clearThrottlingData
    rw [hstatus]
    exact (lookup_put _ _ _ _).trans (if_pos rfl)
  have hdefault : ∀ cdev ∈ status.cdevStatusMap, cdev ∈ selectBindings info' status.profile := by
    intro cdev hcdev
    obtain ⟨binding, hbinding, -⟩ := (hregistered.votes cdev).mp hcdev
    rw [mem_iff_of_keys_eq (checkCeilings_capped hcheck status.profile).keys]
    exact ((hprofiles sensor configured info hconfigured hinfo).mem_selectBindings _).mpr
      (mem_of_lookup hbinding)
  obtain ⟨⟨tt', updated⟩, hreturns, hcomputed⟩ := computed_of_cleared
    (clearThrottlingData_mirrored hmirrored sensor) hclear
    { configured with throttlingInfo := some info' } rfl hdefault .none
  obtain ⟨votes, hvotes, hstatuses⟩ := hcomputed.votes
  have hmem : name ∈ votes := (mem_iff_of_keys_eq hvotes.keys name).mpr
    ((hregistered.votes name).mpr hvote)
  obtain ⟨vote, hcast⟩ := mem_iff_lookup.mp hmem
  obtain ⟨cdevInfo', hdevice, hlow, hhigh⟩ := h.votes _ _
    (.call .start (.clear start sensor)) sensor _ .none tt' updated hsensor hreturns
    { clearStatus status with cdevStatusMap := votes }
    (by rw [hstatuses, lookup_put, if_pos rfl]) name vote hcast
  obtain ⟨cdevInfo'', hdevice', hinitialized⟩ := hinit.devices name cdevInfo hlookup
  obtain rfl := Option.some.inj (hdevice.symm.trans hdevice')
  exact hinitialized.states.mp (hlow.trans hhigh)

end Necessary

/-! ## The main result -/

/-- The states that are requested are usable exactly when the configuration and the files provide
a power table for every power cap and every device with a PID weight, and no negative greatest
state for a device that is voted for. -/
theorem usableStates_iff {config : ThrottlingConfig} {setup : ThrottlingSetup}
    {start : ThermalThrottling} (hinit : config.initializeThrottling = .ok (some (setup, start)))
    (hceilings : config.NonnegCeilings)
    (hprofiles : ∀ sensor sensorInfo info, config.sensorInfoMap.lookup sensor = some sensorInfo →
      sensorInfo.throttlingInfo = some info → info.ProfilesMatchDefault) :
    UsableStates setup start ↔ config.ProvidesStates := by
  have hinit := ThrottlingConfig.initialize_initialized hinit
  constructor
  · intro h
    refine ⟨fun name cdevInfo hlookup hpowercap ↦ ?_, fun name cdevInfo hlookup hweighted ↦ ?_,
      fun name cdevInfo hlookup hvoted ↦ ?_⟩
    · exact powercaps_of_cleared hinit h.cleared hlookup hpowercap
    · obtain ⟨sensor, bindings, hbound, hweight⟩ := hweighted
      obtain ⟨status, hstatus, hregistered⟩ := hinit.status hbound
      exact powers_of_lookedUp hinit hregistered
        (h.lookedUp start [] .start sensor status hstatus status (SameShape.refl status)) hweight
        hlookup
    · exact states_of_votes hinit hprofiles h hvoted hlookup
  · exact fun hprovides ↦ hprovides.usableStates hinit hceilings

/-- A power cap without a configured table, and the text of the file that its table is read from. -/
def powercapConfig (text : String) : ThrottlingConfig where
  sensorInfoMap := (∅ : UnorderedMap String SensorInfo).insert "skin" limitedSensor
  coolingDeviceInfoMap :=
    (∅ : CdevInfoMap).insert "cpu" { (default : CdevInfo) with applyPowercap := true }
  sysfs :=
    { readFile := fun _ ↦ some text
      cdevMap := ∅
      powercapMap :=
        (∅ : UnorderedMap String String).insert "cpu" "/sys/devices/virtual/powercap/cpu" }

theorem powercapConfig_nonnegCeilings (text : String) : (powercapConfig text).NonnegCeilings := by
  intro sensor sensorInfo info hsensor hinfo
  obtain rfl := eq_limitedSensor hsensor
  exact limitedSensor_nonnegCeilings hinfo

theorem powercapConfig_profiles (text : String) (sensor : String) (sensorInfo : SensorInfo)
    (info : ThrottlingInfo) (hsensor : (powercapConfig text).sensorInfoMap.lookup sensor = some sensorInfo)
    (hinfo : sensorInfo.throttlingInfo = some info) : info.ProfilesMatchDefault := by
  obtain rfl := eq_limitedSensor hsensor
  obtain rfl := Option.some.inj hinfo
  intro profile bindings hprofile
  cases hprofile

/-- With a power in the file, the states are usable exactly when they are provided. -/
theorem powercapConfig_usableStates_iff :
    ∃ setup start, (powercapConfig "300").initializeThrottling = .ok (some (setup, start)) ∧
      (UsableStates setup start ↔ (powercapConfig "300").ProvidesStates) :=
  ⟨_, _, rfl, usableStates_iff rfl (powercapConfig_nonnegCeilings "300")
    (powercapConfig_profiles "300")⟩

/-- A file without a number is accepted, and the first entry of the empty table is read. -/
theorem not_usableStates_emptyTable :
    ∃ setup start, (powercapConfig "").NonnegCeilings ∧
      (powercapConfig "").initializeThrottling = .ok (some (setup, start)) ∧
      clearAllThrottling setup.coolingDeviceInfoMap = .error .badIndex ∧
      ¬ UsableStates setup start :=
  ⟨_, _, powercapConfig_nonnegCeilings "", rfl, rfl, fun h ↦ h.cleared rfl⟩

end HardwareMediatek.Thermal
