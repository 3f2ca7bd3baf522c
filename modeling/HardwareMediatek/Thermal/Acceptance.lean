import HardwareMediatek.Thermal.Constructor

/-!
# What the constructor accepts

Most checks of the constructor depend on the configuration only. The trigger sensors of a virtual
sensor are checked only if the sensor is watched when it is visited, and which sensors are watched by
then depends on the order of the visits. Up to these marks, every order checks the same.
-/

namespace HardwareMediatek.Thermal

open UnorderedMap Foundation

/-! ## What a visit keeps -/

/-- What no visit changes in a sensor. -/
def SensorInfo.settings (info : SensorInfo) : SensorInfo :=
  { info with isWatch := false, throttlingInfo := none }

theorem virtualSensorInfo_of_settings {info info' : SensorInfo}
    (h : info'.settings = info.settings) : info'.virtualSensorInfo = info.virtualSensorInfo := by
  have hfield := congrArg SensorInfo.virtualSensorInfo h
  exact hfield

theorem severityReference_of_settings {info info' : SensorInfo}
    (h : info'.settings = info.settings) : info'.severityReference = info.severityReference := by
  have hfield := congrArg SensorInfo.severityReference h
  exact hfield

theorem predictorInfo_of_settings {info info' : SensorInfo}
    (h : info'.settings = info.settings) : info'.predictorInfo = info.predictorInfo := by
  have hfield := congrArg SensorInfo.predictorInfo h
  exact hfield

/-- Two tables of sensors with the same settings. -/
def SameSettings (infoOf infoOf' : String → Option SensorInfo) : Prop :=
  ∀ name, (infoOf' name).map SensorInfo.settings = (infoOf name).map SensorInfo.settings

theorem SameSettings.lookup {infoOf infoOf' : String → Option SensorInfo}
    (hsame : SameSettings infoOf infoOf') {name : String} {info' : SensorInfo}
    (hinfo : infoOf' name = some info') :
    ∃ info, infoOf name = some info ∧ info'.settings = info.settings := by
  have hname := hsame name
  rw [hinfo, Option.map_some] at hname
  obtain ⟨info, hinfo⟩ := Option.map_eq_some_iff.mp hname.symm
  exact ⟨info, hinfo.1, hinfo.2.symm⟩

theorem SameSettings.symm {infoOf infoOf' : String → Option SensorInfo}
    (hsame : SameSettings infoOf infoOf') : SameSettings infoOf' infoOf :=
  fun name ↦ (hsame name).symm

theorem SameSettings.trans {infoOf infoOf' infoOf'' : String → Option SensorInfo}
    (hfirst : SameSettings infoOf infoOf') (hsecond : SameSettings infoOf' infoOf'') :
    SameSettings infoOf infoOf'' :=
  fun name ↦ (hsecond name).trans (hfirst name)

theorem SameSettings.isSome_eq {infoOf infoOf' : String → Option SensorInfo}
    (hsame : SameSettings infoOf infoOf') (name : String) :
    (infoOf' name).isSome = (infoOf name).isSome := by
  have hname := congrArg Option.isSome (hsame name)
  rwa [Option.isSome_map, Option.isSome_map] at hname

theorem SameSettings.predictorValid_eq {infoOf infoOf' : String → Option SensorInfo}
    (hsame : SameSettings infoOf infoOf') {info info' : SensorInfo}
    (hinfo : info'.settings = info.settings) (predictionCounts : String → Option ℕ) :
    predictorValid predictionCounts infoOf' info' = predictorValid predictionCounts infoOf info := by
  have hvirtual : ∀ name, (infoOf' name).bind SensorInfo.virtualSensorInfo =
      (infoOf name).bind SensorInfo.virtualSensorInfo := by
    intro name
    have hname := congrArg (fun info ↦ Option.bind info SensorInfo.virtualSensorInfo) (hsame name)
    simp only [Option.bind_map] at hname
    exact hname
  unfold predictorValid
  rw [predictorInfo_of_settings hinfo]
  simp only [hvirtual]

/-- The same rails are configured, and the same rails have a status. -/
structure SameRails (files files' : PowerFiles) : Prop where
  infos : files'.powerRailInfoMap = files.powerRailInfoMap
  statuses : ∀ rail, rail ∈ files'.powerStatusMap ↔ rail ∈ files.powerStatusMap

theorem SameRails.trans {files files' files'' : PowerFiles} (hfirst : SameRails files files')
    (hsecond : SameRails files' files'') : SameRails files files'' where
  infos := hsecond.infos.trans hfirst.infos
  statuses rail := (hsecond.statuses rail).trans (hfirst.statuses rail)

/-- What a visit of a sensor keeps. -/
structure VisitFrame (name : String) (s s' : Construction) : Prop where
  devices : s'.coolingDeviceInfoMap = s.coolingDeviceInfoMap
  rails : SameRails s.powerFiles s'.powerFiles
  sensorStatuses : s'.sensorStatusMap = s.sensorStatusMap
  registered : ∀ sensor ∈ s'.throttling.thermalThrottlingStatusMap,
    sensor = name ∨ sensor ∈ s.throttling.thermalThrottlingStatusMap
  settings : SameSettings s.sensorInfoMap.lookup s'.sensorInfoMap.lookup
  throttling : ∀ sensor ≠ name, (s'.sensorInfoMap.lookup sensor).bind SensorInfo.throttlingInfo =
    (s.sensorInfoMap.lookup sensor).bind SensorInfo.throttlingInfo

theorem VisitFrame.trans {name : String} {s s' s'' : Construction} (hfirst : VisitFrame name s s')
    (hsecond : VisitFrame name s' s'') : VisitFrame name s s'' where
  devices := hsecond.devices.trans hfirst.devices
  rails := hfirst.rails.trans hsecond.rails
  sensorStatuses := hsecond.sensorStatuses.trans hfirst.sensorStatuses
  registered sensor hsensor := (hsecond.registered sensor hsensor).elim Or.inl
    (hfirst.registered sensor)
  settings := hfirst.settings.trans hsecond.settings
  throttling sensor hsensor :=
    (hsecond.throttling sensor hsensor).trans (hfirst.throttling sensor hsensor)

/-! ## The checks -/

/-- The watched sensors. -/
def watchedBy (infoOf : String → Option SensorInfo) : Set String :=
  {name | ∃ info, infoOf name = some info ∧ info.isWatch = true}

theorem markSensors_accepts_iff (sensors : List String) (sensorInfoMap : SensorInfoMap) :
    (markSensors sensors sensorInfoMap).2 = true ↔ ∀ sensor ∈ sensors, sensor ∈ sensorInfoMap := by
  induction sensors generalizing sensorInfoMap with
  | nil => simp [markSensors]
  | cons sensor rest ih =>
    unfold markSensors
    rw [List.forall_mem_cons]
    cases hinfo : sensorInfoMap.lookup sensor with
    | none =>
      have hmissing : sensor ∉ sensorInfoMap := AList.lookup_eq_none.mp hinfo
      exact iff_of_false Bool.false_ne_true fun hknown ↦ hmissing hknown.1
    | some info =>
      dsimp only
      rw [ih]
      simp only [mem_assign]
      exact (and_iff_right (mem_of_lookup hinfo)).symm

theorem markSensors_lookup {sensors : List String} {sensorInfoMap : SensorInfoMap}
    (hmarked : (markSensors sensors sensorInfoMap).2 = true) (name : String) :
    (markSensors sensors sensorInfoMap).1.lookup name =
      (sensorInfoMap.lookup name).map fun info ↦
        if name ∈ sensors then { info with isWatch := true } else info := by
  induction sensors generalizing sensorInfoMap with
  | nil => simp [markSensors]
  | cons sensor rest ih =>
    unfold markSensors at hmarked ⊢
    cases hinfo : sensorInfoMap.lookup sensor with
    | none =>
      rw [hinfo] at hmarked
      exact absurd hmarked Bool.false_ne_true
    | some info =>
      rw [hinfo] at hmarked
      dsimp only at hmarked ⊢
      rw [ih hmarked, lookup_assign]
      by_cases hname : name = sensor
      · rw [hname, hinfo]
        by_cases hrepeated : sensor ∈ rest <;> simp [hrepeated]
      · cases sensorInfoMap.lookup name <;> simp [hname]

theorem markSensors_settings {sensors : List String} {sensorInfoMap : SensorInfoMap}
    (hmarked : (markSensors sensors sensorInfoMap).2 = true) :
    SameSettings sensorInfoMap.lookup (markSensors sensors sensorInfoMap).1.lookup := by
  intro name
  dsimp only
  rw [markSensors_lookup hmarked, Option.map_map]
  congr 1
  funext info
  by_cases hname : name ∈ sensors <;> simp [hname, SensorInfo.settings]

theorem markSensors_throttling {sensors : List String} {sensorInfoMap : SensorInfoMap}
    (hmarked : (markSensors sensors sensorInfoMap).2 = true) (name : String) :
    ((markSensors sensors sensorInfoMap).1.lookup name).bind SensorInfo.throttlingInfo =
      (sensorInfoMap.lookup name).bind SensorInfo.throttlingInfo := by
  rw [markSensors_lookup hmarked, Option.bind_map]
  congr 1
  funext info
  by_cases hname : name ∈ sensors <;> simp [hname]

theorem markSensors_watched {sensors : List String} {sensorInfoMap : SensorInfoMap}
    (hmarked : (markSensors sensors sensorInfoMap).2 = true) :
    watchedBy (markSensors sensors sensorInfoMap).1.lookup =
      {name | name ∈ watchedBy sensorInfoMap.lookup ∨ name ∈ sensors} := by
  ext name
  unfold watchedBy
  simp only [Set.mem_ofPred_eq, markSensors_lookup hmarked]
  by_cases hname : name ∈ sensors
  · have hknown := (markSensors_accepts_iff sensors sensorInfoMap).mp hmarked name hname
    obtain ⟨info, hinfo⟩ := mem_iff_lookup.mp hknown
    simp [hname, hinfo]
  · simp [hname]

theorem linkedSensorsValid_iff (sensorInfoMap : SensorInfoMap) (powerStatusMap : PowerStatusMap)
    (sensors : List String) (types : List SensorFusionType) :
    linkedSensorsValid sensorInfoMap powerStatusMap sensors types = .ok true ↔
      sensors.length ≤ types.length ∧ ∀ pair ∈ sensors.zip types,
        isSubSensorValid sensorInfoMap powerStatusMap pair.1 pair.2 = true := by
  induction sensors generalizing types with
  | nil => simp [linkedSensorsValid]
  | cons sensor rest ih =>
    cases types with
    | nil => simp [linkedSensorsValid]
    | cons type types =>
      rw [linkedSensorsValid, List.zip_cons_cons, List.forall_mem_cons]
      by_cases hvalid : isSubSensorValid sensorInfoMap powerStatusMap sensor type = true
      · rw [if_pos hvalid, ih, List.length_cons, List.length_cons, Nat.succ_le_succ_iff]
        simp [hvalid]
      · rw [if_neg hvalid]
        simp [hvalid]

/-- Whether the bindings of a sensor are registered depends only on the devices. -/
theorem registerBindings_accepts_eq (devices : CdevInfoMap)
    (pairs : List BindedCdevEntry) (entry entry' : RegistrationEntry) :
    (registerBindings devices pairs entry).2 = (registerBindings devices pairs entry').2 := by
  induction pairs generalizing entry entry' with
  | nil => rfl
  | cons pair rest ih =>
    unfold registerBindings
    by_cases hdevice : pair.1 ∈ devices
    · rw [if_pos hdevice, if_pos hdevice]
      exact ih _ _
    · rw [if_neg hdevice, if_neg hdevice]

theorem registerThermalThrottling_accepts_eq {tt : ThermalThrottling} {name : String}
    (hname : name ∉ tt.thermalThrottlingStatusMap) (throttlingInfo : ThrottlingInfo)
    (devices : CdevInfoMap) :
    (registerThermalThrottling tt name (some throttlingInfo) devices).2 =
      (registerThermalThrottling .empty name (some throttlingInfo) devices).2 := by
  have hempty : name ∉ ThermalThrottling.empty.thermalThrottlingStatusMap := by
    intro hmem
    obtain ⟨status, hstatus⟩ := mem_iff_lookup.mp hmem
    exact absurd hstatus (by simp [ThermalThrottling.empty])
  unfold registerThermalThrottling
  rw [if_neg hname, if_neg hempty]
  exact registerBindings_accepts_eq _ _ _ _

theorem registerThermalThrottling_names (tt : ThermalThrottling) (name : String)
    (throttlingInfo : Option ThrottlingInfo) (devices : CdevInfoMap) :
    ∀ sensor ∈ (registerThermalThrottling tt name throttlingInfo devices).1.thermalThrottlingStatusMap,
      sensor = name ∨ sensor ∈ tt.thermalThrottlingStatusMap := by
  intro sensor hsensor
  unfold registerThermalThrottling at hsensor
  split at hsensor
  · exact Or.inr hsensor
  · cases throttlingInfo with
    | none => exact Or.inr hsensor
    | some info => exact mem_put.mp hsensor

theorem powerSamplingSwitch_ok_iff (rail : String) (enabled : Bool) (files : PowerFiles) :
    (∃ files', powerSamplingSwitch rail enabled files = .ok files') ↔
      (rail ∈ files.powerRailInfoMap → rail ∈ files.powerStatusMap) := by
  unfold powerSamplingSwitch
  by_cases hrail : rail ∈ files.powerRailInfoMap
  · rw [if_pos hrail]
    cases hstatus : files.powerStatusMap.lookup rail with
    | none =>
      have hmissing : rail ∉ files.powerStatusMap := AList.lookup_eq_none.mp hstatus
      rw [atKey_of_not_mem hmissing]
      apply iff_of_false
      · rintro ⟨files', hfiles⟩
        exact absurd hfiles (fun h ↦ nomatch h)
      · exact fun hknown ↦ hmissing (hknown hrail)
    | some status =>
      rw [atKey_of_lookup hstatus]
      exact iff_of_true ⟨_, rfl⟩ fun _ ↦ mem_of_lookup hstatus
  · rw [if_neg hrail]
    exact iff_of_true ⟨files, rfl⟩ fun hknown ↦ absurd hknown hrail

theorem powerSamplingSwitch_sameRails {rail : String} {enabled : Bool} {files files' : PowerFiles}
    (h : powerSamplingSwitch rail enabled files = .ok files') : SameRails files files' := by
  unfold powerSamplingSwitch at h
  split at h
  · rw [bind_eq_ok] at h
    obtain ⟨status, hstatus⟩ := h
    have hmem := mem_of_lookup (atKey_eq_ok.mp hstatus.1)
    rw [← Except.ok.inj hstatus.2]
    refine ⟨rfl, fun rail' ↦ ?_⟩
    rw [mem_put]
    exact or_iff_right_of_imp fun hsame ↦ hsame ▸ hmem
  · rw [← Except.ok.inj h]
    exact ⟨rfl, fun _ ↦ Iff.rfl⟩

/-- Switching succeeds when every rail that is configured has a status, and no rail gets one. -/
theorem switchPowerRails_ok_iff (enabled : Bool) (rails : List String) (files : PowerFiles) :
    ((∃ files', switchPowerRails enabled rails files = .ok files') ↔
      ∀ rail ∈ rails, rail ∈ files.powerRailInfoMap → rail ∈ files.powerStatusMap) ∧
      ∀ files', switchPowerRails enabled rails files = .ok files' → SameRails files files' := by
  unfold switchPowerRails
  induction rails generalizing files with
  | nil =>
    apply And.intro
    · exact iff_of_true ⟨files, rfl⟩ fun rail hrail ↦ absurd hrail List.not_mem_nil
    · intro files' hfiles
      rw [← Except.ok.inj hfiles]
      exact ⟨rfl, fun _ ↦ Iff.rfl⟩
  | cons rail rest ih =>
    rw [forEach, List.forall_mem_cons, ← powerSamplingSwitch_ok_iff rail enabled files]
    cases hrail : powerSamplingSwitch rail enabled files with
    | error fault =>
      apply And.intro
      · apply iff_of_false
        · rintro ⟨files', hfiles⟩
          cases hfiles
        · rintro ⟨⟨files', hfiles⟩, -⟩
          cases hfiles
      · intro files' hfiles
        cases hfiles
    | ok middle =>
      have hsame := powerSamplingSwitch_sameRails hrail
      have hrest := ih middle
      apply And.intro
      · dsimp only
        rw [hrest.1, hsame.infos]
        simp only [hsame.statuses]
        exact (and_iff_right ⟨middle, rfl⟩).symm
      · exact fun files' hfiles ↦ hsame.trans (hrest.2 files' hfiles)

/-! ## What is required of a sensor -/

/-- The trigger sensors of a virtual sensor. -/
def triggersOf (infoOf : String → Option SensorInfo) (name : String) : Set String :=
  {sensor | ∃ info virtualInfo, infoOf name = some info ∧
    info.virtualSensorInfo = some virtualInfo ∧ sensor ∈ virtualInfo.triggerSensors}

/-- The sensors that the severity of a virtual sensor refers to. -/
def referencesOf (infoOf : String → Option SensorInfo) (name : String) : Set String :=
  {sensor | ∃ info virtualInfo, infoOf name = some info ∧
    info.virtualSensorInfo = some virtualInfo ∧ sensor ∈ info.severityReference}

/-- The virtual sensors with a trigger sensor that does not exist. -/
def lackingTrigger (infoOf : String → Option SensorInfo) : Set String :=
  {name | ∃ sensor ∈ triggersOf infoOf name, infoOf sensor = none}

theorem SameSettings.triggersOf_eq {infoOf infoOf' : String → Option SensorInfo}
    (hsame : SameSettings infoOf infoOf') : triggersOf infoOf' = triggersOf infoOf := by
  have hsubset : ∀ {infoOf infoOf' : String → Option SensorInfo}, SameSettings infoOf infoOf' →
      ∀ name, triggersOf infoOf' name ⊆ triggersOf infoOf name := by
    rintro infoOf infoOf' hsame name sensor ⟨info', virtualInfo, hinfo', hvirtual, hsensor⟩
    rcases hsame.lookup hinfo' with ⟨info, hinfo, hkept⟩
    rw [virtualSensorInfo_of_settings hkept] at hvirtual
    exact ⟨info, virtualInfo, hinfo, hvirtual, hsensor⟩
  funext name
  exact Set.Subset.antisymm (hsubset hsame name) (hsubset hsame.symm name)

theorem SameSettings.referencesOf_eq {infoOf infoOf' : String → Option SensorInfo}
    (hsame : SameSettings infoOf infoOf') : referencesOf infoOf' = referencesOf infoOf := by
  have hsubset : ∀ {infoOf infoOf' : String → Option SensorInfo}, SameSettings infoOf infoOf' →
      ∀ name, referencesOf infoOf' name ⊆ referencesOf infoOf name := by
    rintro infoOf infoOf' hsame name sensor ⟨info', virtualInfo, hinfo', hvirtual, hsensor⟩
    rcases hsame.lookup hinfo' with ⟨info, hinfo, hkept⟩
    rw [virtualSensorInfo_of_settings hkept] at hvirtual
    rw [severityReference_of_settings hkept] at hsensor
    exact ⟨info, virtualInfo, hinfo, hvirtual, hsensor⟩
  funext name
  exact Set.Subset.antisymm (hsubset hsame name) (hsubset hsame.symm name)

/-- A linked sensor exists, and a linked power rail has a status. -/
def SubSensorExists (infoOf : String → Option SensorInfo) (powerStatusMap : PowerStatusMap)
    (sensorData : String) : SensorFusionType → Prop
  | .sensor => (infoOf sensorData).isSome
  | .odpm => sensorData ∈ powerStatusMap
  | .constant | .cdev => True

/-- The names that a virtual sensor uses exist, apart from those of its trigger sensors. -/
@[mk_iff]
structure SoundVirtualSensor (input : ConstructorInput) (files : PowerFiles) (name : String)
    (info : SensorInfo) (virtualInfo : VirtualSensorInfo) : Prop where
  types : virtualInfo.linkedSensors.length ≤ virtualInfo.linkedSensorsType.length
  linked : ∀ pair ∈ virtualInfo.linkedSensors.zip virtualInfo.linkedSensorsType,
    SubSensorExists input.sensorInfoMap.lookup files.powerStatusMap pair.1 pair.2
  backup : virtualInfo.backupSensor ≠ "" →
    (input.sensorInfoMap.lookup virtualInfo.backupSensor).isSome
  references : ∀ sensor ∈ info.severityReference, (input.sensorInfoMap.lookup sensor).isSome
  rails : ∀ rail ∈ (input.powerRailSwitchMap.lookup name).getD [],
    rail ∈ files.powerRailInfoMap → rail ∈ files.powerStatusMap

/-- What is required of a sensor in every order. -/
@[mk_iff]
structure SoundSensor (input : ConstructorInput) (devices : CdevInfoMap) (files : PowerFiles)
    (name : String) (info : SensorInfo) : Prop where
  registers : ∀ throttlingInfo, info.throttlingInfo = some throttlingInfo →
    (registerThermalThrottling .empty name (some throttlingInfo) devices).2 = true
  ceilings : ∀ throttlingInfo, info.throttlingInfo = some throttlingInfo →
    ∃ capped, checkCeilings devices throttlingInfo = .ok capped
  virtual : ∀ virtualInfo, info.virtualSensorInfo = some virtualInfo →
    SoundVirtualSensor input files name info virtualInfo
  predictor : predictorValid input.predictionCounts input.sensorInfoMap.lookup info = true

/-- What is required of a configuration in every order. -/
@[mk_iff]
structure SoundInput (input : ConstructorInput) : Prop where
  prepared : input.prepared = true
  switches : ∀ sensor ∈ input.powerRailSwitchMap.keys, (input.sensorInfoMap.lookup sensor).isSome
  sensors : ∃ devices files, input.resources = some (devices, files) ∧
    ∀ name info, input.sensorInfoMap.lookup name = some info →
      SoundSensor input devices files name info

/-- The same configuration in another order of the sensors. -/
def ConstructorInput.reordered (input : ConstructorInput) (sensorInfoMap : SensorInfoMap) :
    ConstructorInput :=
  { input with sensorInfoMap := sensorInfoMap }

theorem soundInput_reordered {input : ConstructorInput} {sensorInfoMap : SensorInfoMap}
    (hlookup : ∀ name, sensorInfoMap.lookup name = input.sensorInfoMap.lookup name) :
    SoundInput (input.reordered sensorInfoMap) ↔ SoundInput input := by
  have hresources : (input.reordered sensorInfoMap).resources = input.resources := rfl
  simp only [soundInput_iff, soundSensor_iff, soundVirtualSensor_iff, hresources]
  simp only [ConstructorInput.reordered, hlookup]

/-! ## A visit -/

section Visit

variable {input : ConstructorInput} {devices : CdevInfoMap} {files : PowerFiles}

/-- The state before a visit: the settings are those of the configuration. -/
structure Visited (input : ConstructorInput) (devices : CdevInfoMap) (files : PowerFiles)
    (before : List String) (s : Construction) : Prop where
  devices : s.coolingDeviceInfoMap = devices
  rails : SameRails files s.powerFiles
  sensorStatuses : ∀ sensor, sensor ∈ s.sensorStatusMap ↔ sensor ∈ before
  registered : ∀ sensor ∈ s.throttling.thermalThrottlingStatusMap, sensor ∈ before
  settings : SameSettings input.sensorInfoMap.lookup s.sensorInfoMap.lookup
  throttling : ∀ sensor ∉ before, (s.sensorInfoMap.lookup sensor).bind SensorInfo.throttlingInfo =
    (input.sensorInfoMap.lookup sensor).bind SensorInfo.throttlingInfo
  watched : watchedBy s.sensorInfoMap.lookup =
    markPass (watchedBy input.sensorInfoMap.lookup) (triggersOf input.sensorInfoMap.lookup)
      (referencesOf input.sensorInfoMap.lookup) before

theorem watchedBy_congr {infoOf infoOf' : String → Option SensorInfo}
    (h : ∀ name, (infoOf' name).map SensorInfo.isWatch = (infoOf name).map SensorInfo.isWatch) :
    watchedBy infoOf' = watchedBy infoOf := by
  have hmem : ∀ (infoOf : String → Option SensorInfo) (name : String), name ∈ watchedBy infoOf ↔
      (infoOf name).map SensorInfo.isWatch = some true := by
    intro infoOf name
    rw [Option.map_eq_some_iff]
    rfl
  ext name
  rw [hmem, hmem, h name]

theorem registerSensor_frame {name : String} {info : SensorInfo} {s s' : Construction}
    (hinfo : s.sensorInfoMap.lookup name = some info)
    (h : registerSensor name info s = .ok (.next s')) :
    VisitFrame name s s' ∧ s'.ret = s.ret ∧
      watchedBy s'.sensorInfoMap.lookup = watchedBy s.sensorInfoMap.lookup := by
  unfold registerSensor at h
  cases hthrottling : info.throttlingInfo with
  | none =>
    rw [hthrottling] at h
    rw [← Flow.next.inj (Except.ok.inj h)]
    exact ⟨⟨rfl, ⟨rfl, fun _ ↦ Iff.rfl⟩, rfl, fun _ ↦ Or.inr, fun _ ↦ rfl, fun _ _ ↦ rfl⟩, rfl, rfl⟩
  | some throttlingInfo =>
    rw [hthrottling] at h
    dsimp only at h
    have hnames := registerThermalThrottling_names s.throttling name (some throttlingInfo)
      s.coolingDeviceInfoMap
    match hregister : registerThermalThrottling s.throttling name (some throttlingInfo)
      s.coolingDeviceInfoMap with
    | (throttling, false) =>
      rw [hregister] at h
      exact absurd h (fun h ↦ nomatch h)
    | (throttling, true) =>
      rw [hregister] at h hnames
      dsimp only at h
      rw [bind_eq_ok] at h
      obtain ⟨capped, hcapped⟩ := h
      rw [← Flow.next.inj (Except.ok.inj hcapped.2)]
      have hlookup : ∀ sensor, (s.sensorInfoMap.assign name
          { info with throttlingInfo := some capped }).lookup sensor =
          (s.sensorInfoMap.lookup sensor).map fun old ↦
            if sensor = name then { info with throttlingInfo := some capped } else old :=
        fun sensor ↦ lookup_assign _ _ _ _
      refine ⟨⟨rfl, ⟨rfl, fun _ ↦ Iff.rfl⟩, rfl, hnames, ?_, ?_⟩, rfl, ?_⟩
      · intro sensor
        dsimp only
        rw [hlookup]
        by_cases hsensor : sensor = name
        · rw [hsensor, hinfo]
          simp [SensorInfo.settings]
        · simp [hsensor]
      · intro sensor hsensor
        rw [hlookup]
        simp [hsensor]
      · apply watchedBy_congr
        intro sensor
        dsimp only
        rw [hlookup]
        by_cases hsensor : sensor = name
        · rw [hsensor, hinfo]
          simp
        · simp [hsensor]

theorem registerSensor_accepts_iff {name : String} {info : SensorInfo} {s : Construction}
    (hdevices : s.coolingDeviceInfoMap = devices)
    (hfresh : name ∉ s.throttling.thermalThrottlingStatusMap) (haccepted : s.ret = true) :
    (∃ s', registerSensor name info s = .ok (.next s') ∧ s'.ret = true) ↔
      ∀ throttlingInfo, info.throttlingInfo = some throttlingInfo →
        (registerThermalThrottling .empty name (some throttlingInfo) devices).2 = true ∧
        ∃ capped, checkCeilings devices throttlingInfo = .ok capped := by
  rw [← hdevices]
  unfold registerSensor
  cases hthrottling : info.throttlingInfo with
  | none => exact iff_of_true ⟨s, rfl, haccepted⟩ fun _ h ↦ absurd h (by simp)
  | some throttlingInfo =>
    have haccepts := registerThermalThrottling_accepts_eq hfresh throttlingInfo
      s.coolingDeviceInfoMap
    simp only [Option.some.injEq, forall_eq']
    rw [← haccepts]
    match hregister : registerThermalThrottling s.throttling name (some throttlingInfo)
      s.coolingDeviceInfoMap with
    | (throttling, false) => simp
    | (throttling, true) =>
      cases hcapped : checkCeilings s.coolingDeviceInfoMap throttlingInfo with
      | error fault => simp
      | ok capped => exact iff_of_true ⟨_, rfl, haccepted⟩ ⟨rfl, capped, rfl⟩

theorem checkVirtualSensor_eq_ok {name : String} {info : SensorInfo} {virtualInfo : VirtualSensorInfo}
    {s s' : Construction} :
    (checkVirtualSensor input name info virtualInfo s = .ok (.next s') ∧ s'.ret = true) ↔
      linkedSensorsValid s.sensorInfoMap s.powerFiles.powerStatusMap virtualInfo.linkedSensors
        virtualInfo.linkedSensorsType = .ok true ∧
      (virtualInfo.backupSensor ≠ "" → virtualInfo.backupSensor ∈ s.sensorInfoMap) ∧
      ∃ triggers references powerFiles,
        markSensors (if info.isWatch then virtualInfo.triggerSensors else []) s.sensorInfoMap =
          (triggers, true) ∧
        markSensors info.severityReference triggers = (references, true) ∧
        switchPowerRails false ((input.powerRailSwitchMap.lookup name).getD []) s.powerFiles =
          .ok powerFiles ∧
        s.ret = true ∧ s' = { s with sensorInfoMap := references, powerFiles := powerFiles } := by
  have hbackup : (virtualInfo.backupSensor ≠ "" ∧ (!isSubSensorValid s.sensorInfoMap
      s.powerFiles.powerStatusMap virtualInfo.backupSensor .sensor) = true) ↔
      ¬ (virtualInfo.backupSensor ≠ "" → virtualInfo.backupSensor ∈ s.sensorInfoMap) := by
    simp [isSubSensorValid]
  unfold checkVirtualSensor
  cases hlinked : linkedSensorsValid s.sensorInfoMap s.powerFiles.powerStatusMap
    virtualInfo.linkedSensors virtualInfo.linkedSensorsType with
  | error fault => exact iff_of_false (fun h ↦ nomatch h.1) (fun h ↦ nomatch h.1)
  | ok linked =>
    dsimp only [bind, Except.bind]
    by_cases hfound : virtualInfo.backupSensor ≠ "" → virtualInfo.backupSensor ∈ s.sensorInfoMap
    · rw [if_neg (fun h ↦ hbackup.mp h hfound), and_iff_right hfound]
      cases hrails : switchPowerRails false ((input.powerRailSwitchMap.lookup name).getD [])
        s.powerFiles with
      | error fault =>
        apply iff_of_false (fun h ↦ nomatch h.1)
        rintro ⟨-, _, _, _, -, -, hswitched, -⟩
        exact nomatch hswitched
      | ok powerFiles =>
        apply Iff.intro
        · rintro ⟨hnext, hret⟩
          have hs' := Flow.next.inj (Except.ok.inj hnext)
          rw [← hs'] at hret
          simp only [Bool.and_eq_true] at hret
          rw [← hs']
          refine ⟨congrArg Except.ok hret.1.1.2, _, _, powerFiles,
            Prod.ext rfl hret.1.2, Prod.ext rfl hret.2, rfl, hret.1.1.1, ?_⟩
          simp only [hret, Bool.and_self]
        · rintro ⟨hvalid, triggers, references, powerFiles', htriggers, hreferences, hswitched,
            hret, hs'⟩
          rw [htriggers, hreferences, Except.ok.inj hvalid, Except.ok.inj hswitched, hs', hret]
          exact ⟨rfl, rfl⟩
    · rw [if_pos (hbackup.mpr hfound)]
      exact iff_of_false (fun h ↦ nomatch h.1) fun h ↦ hfound h.2.1

theorem isSubSensorValid_iff {infoOf : String → Option SensorInfo} {sensorInfoMap : SensorInfoMap}
    (hsettings : SameSettings infoOf sensorInfoMap.lookup) {files' : PowerFiles}
    (hrails : SameRails files files') (sensorData : String) (type : SensorFusionType) :
    isSubSensorValid sensorInfoMap files'.powerStatusMap sensorData type = true ↔
      SubSensorExists infoOf files.powerStatusMap sensorData type := by
  cases type with
  | sensor =>
    unfold isSubSensorValid SubSensorExists
    rw [decide_eq_true_eq, ← hsettings.isSome_eq]
    exact AList.lookup_isSome.symm
  | odpm =>
    unfold isSubSensorValid SubSensorExists
    rw [decide_eq_true_eq]
    exact hrails.statuses sensorData
  | constant => exact iff_of_true rfl trivial
  | cdev => exact iff_of_true rfl trivial

theorem mem_iff_of_settings {infoOf : String → Option SensorInfo} {sensorInfoMap : SensorInfoMap}
    (hsettings : SameSettings infoOf sensorInfoMap.lookup) (sensor : String) :
    sensor ∈ sensorInfoMap ↔ (infoOf sensor).isSome := by
  rw [← hsettings.isSome_eq]
  exact AList.lookup_isSome.symm

theorem checkVirtualSensor_accepts_iff {name : String} {info : SensorInfo}
    {virtualInfo : VirtualSensorInfo} {s : Construction}
    (hsettings : SameSettings input.sensorInfoMap.lookup s.sensorInfoMap.lookup)
    (hrails : SameRails files s.powerFiles) (haccepted : s.ret = true) :
    (∃ s', checkVirtualSensor input name info virtualInfo s = .ok (.next s') ∧ s'.ret = true) ↔
      SoundVirtualSensor input files name info virtualInfo ∧
        (info.isWatch = true → ∀ sensor ∈ virtualInfo.triggerSensors,
          (input.sensorInfoMap.lookup sensor).isSome) := by
  have hswitch := (switchPowerRails_ok_iff false ((input.powerRailSwitchMap.lookup name).getD [])
    s.powerFiles).1
  rw [hrails.infos] at hswitch
  simp only [hrails.statuses] at hswitch
  have hmarks := fun sensors (map : SensorInfoMap)
      (hmap : SameSettings input.sensorInfoMap.lookup map.lookup) ↦
    (markSensors_accepts_iff sensors map).trans
      (forall₂_congr fun sensor _ ↦ mem_iff_of_settings hmap sensor)
  simp only [checkVirtualSensor_eq_ok, linkedSensorsValid_iff, isSubSensorValid_iff hsettings hrails,
    mem_iff_of_settings hsettings]
  apply Iff.intro
  · rintro ⟨s', ⟨htypes, hlinked⟩, hbackup, triggers, references, powerFiles, htriggers, hreferences,
      hswitched, -⟩
    have hfirst : (markSensors (if info.isWatch then virtualInfo.triggerSensors else [])
        s.sensorInfoMap).2 = true := congrArg Prod.snd htriggers
    have hsettings' := hsettings.trans (markSensors_settings hfirst)
    rw [htriggers] at hsettings'
    have hsecond := (hmarks _ _ hsettings').mp (congrArg Prod.snd hreferences)
    refine ⟨⟨htypes, hlinked, hbackup, hsecond, hswitch.mp ⟨powerFiles, hswitched⟩⟩, ?_⟩
    intro hwatched
    have hknown := (hmarks _ _ hsettings).mp hfirst
    rwa [if_pos hwatched] at hknown
  · rintro ⟨hsound, hwatched⟩
    have hfirst : (markSensors (if info.isWatch then virtualInfo.triggerSensors else [])
        s.sensorInfoMap).2 = true := by
      rw [hmarks _ _ hsettings]
      cases hwatch : info.isWatch with
      | true => exact hwatched hwatch
      | false => exact fun sensor hsensor ↦ absurd hsensor List.not_mem_nil
    have hsecond := (hmarks _ _ (hsettings.trans (markSensors_settings hfirst))).mpr hsound.references
    obtain ⟨powerFiles, hswitched⟩ := hswitch.mpr hsound.rails
    exact ⟨_, ⟨hsound.types, hsound.linked⟩, hsound.backup, _, _, powerFiles, Prod.ext rfl hfirst,
      Prod.ext rfl hsecond, hswitched, haccepted, rfl⟩

theorem checkVirtualSensor_frame {name : String} {info : SensorInfo}
    {virtualInfo : VirtualSensorInfo} {s s' : Construction}
    (h : checkVirtualSensor input name info virtualInfo s = .ok (.next s')) (hret : s'.ret = true) :
    VisitFrame name s s' ∧ watchedBy s'.sensorInfoMap.lookup =
      {sensor | (sensor ∈ watchedBy s.sensorInfoMap.lookup ∨
        info.isWatch = true ∧ sensor ∈ virtualInfo.triggerSensors) ∨
        sensor ∈ info.severityReference} := by
  have hparts := checkVirtualSensor_eq_ok.mp ⟨h, hret⟩
  rcases hparts with ⟨-, -, triggers, references, powerFiles, htriggers, hreferences, hswitched, -, hs'⟩
  have hfirst : (markSensors (if info.isWatch then virtualInfo.triggerSensors else [])
      s.sensorInfoMap).2 = true := congrArg Prod.snd htriggers
  have hsecond : (markSensors info.severityReference triggers).2 = true :=
    congrArg Prod.snd hreferences
  have hsettings := markSensors_settings hfirst
  have hthrottling := markSensors_throttling hfirst
  have hwatched := markSensors_watched hfirst
  have hsettings' := markSensors_settings hsecond
  have hthrottling' := markSensors_throttling hsecond
  have hwatched' := markSensors_watched hsecond
  rw [htriggers] at hsettings hthrottling hwatched
  rw [hreferences] at hsettings' hthrottling' hwatched'
  rw [hs']
  apply And.intro
  · exact ⟨rfl, (switchPowerRails_ok_iff _ _ _).2 powerFiles hswitched, rfl, fun _ ↦ Or.inr,
      hsettings.trans hsettings', fun sensor _ ↦ (hthrottling' sensor).trans (hthrottling sensor)⟩
  · calc
      watchedBy references.lookup
          = {sensor | sensor ∈ watchedBy triggers.lookup ∨ sensor ∈ info.severityReference} :=
        hwatched'
      _ = _ := by
        rw [hwatched]
        ext sensor
        cases info.isWatch <;> simp

/-- A visit that accepts goes on with the next sensor, and nothing was rejected before. -/
def AcceptsOn (s : Construction) (flow : Flow Construction) : Prop :=
  flow.state.ret = true → flow = .next flow.state ∧ s.ret = true

theorem registerSensor_acceptsOn (name : String) (info : SensorInfo) (s : Construction) :
    Meets (registerSensor name info s) (AcceptsOn s) fun _ ↦ True := by
  unfold registerSensor
  cases info.throttlingInfo with
  | none => exact fun hret ↦ ⟨rfl, hret⟩
  | some throttlingInfo =>
    dsimp only
    match registerThermalThrottling s.throttling name (some throttlingInfo)
      s.coolingDeviceInfoMap with
    | (throttling, false) =>
      rw [meets_ok]
      exact fun hret ↦ absurd hret Bool.false_ne_true
    | (throttling, true) =>
      refine (meets_true _).bind fun capped _ ↦ ?_
      rw [meets_pure]
      exact fun hret ↦ ⟨rfl, hret⟩

theorem checkVirtualSensor_acceptsOn (input : ConstructorInput) (name : String) (info : SensorInfo)
    (virtualInfo : VirtualSensorInfo) (s : Construction) :
    Meets (checkVirtualSensor input name info virtualInfo s) (AcceptsOn s) fun _ ↦ True := by
  unfold checkVirtualSensor
  refine (meets_true _).bind fun linked _ ↦ ?_
  split
  · exact fun hret ↦ absurd hret Bool.false_ne_true
  · refine (meets_true _).bind fun powerFiles _ hret ↦ ⟨rfl, ?_⟩
    have hall : (s.ret && linked && _ && _) = true := hret
    simp only [Bool.and_eq_true] at hall
    exact hall.1.1.1

theorem checkSettings_acceptsOn (input : ConstructorInput) (name : String) (info : SensorInfo)
    (s : Construction) : Meets (checkSettings input name info s) (AcceptsOn s) fun _ ↦ True := by
  unfold checkSettings
  cases info.virtualSensorInfo with
  | none => exact fun hret ↦ ⟨rfl, hret⟩
  | some virtualInfo => exact checkVirtualSensor_acceptsOn input name info virtualInfo s

theorem checkPredictor_acceptsOn (input : ConstructorInput) (info : SensorInfo) (s : Construction) :
    AcceptsOn s (checkPredictor input info s) := by
  unfold checkPredictor
  split
  · exact fun hret ↦ ⟨rfl, hret⟩
  · exact fun hret ↦ absurd hret Bool.false_ne_true

theorem constructSensor_acceptsOn (input : ConstructorInput) (name : String) (s : Construction) :
    Meets (constructSensor input name s) (AcceptsOn s) fun _ ↦ True := by
  unfold constructSensor
  refine (meets_true _).bind fun info _ ↦ ?_
  refine (registerSensor_acceptsOn name info _).bind fun flow hregister ↦ ?_
  match flow with
  | .stop s₁ => exact fun hret ↦ absurd (hregister hret).1 (fun h ↦ nomatch h)
  | .giveUp s₁ => exact fun hret ↦ absurd (hregister hret).1 (fun h ↦ nomatch h)
  | .next s₁ =>
    refine (checkSettings_acceptsOn input name info s₁).bind fun flow hsettings ↦ ?_
    match flow with
    | .stop s₂ => exact fun hret ↦ absurd (hsettings hret).1 (fun h ↦ nomatch h)
    | .giveUp s₂ => exact fun hret ↦ absurd (hsettings hret).1 (fun h ↦ nomatch h)
    | .next s₂ =>
      intro hret
      have hpredictor := checkPredictor_acceptsOn input info s₂ hret
      exact ⟨hpredictor.1, (hregister (hsettings hpredictor.2).2).2⟩

theorem constructSensor_rejects (input : ConstructorInput) :
    Rejects (constructSensor input) fun s ↦ s.ret = true where
  stays name s _ hflow hret := ((constructSensor_acceptsOn input name s).of_ok hflow hret).2
  leaves name s _ hflow hret := ((constructSensor_acceptsOn input name s).of_ok hflow hret).1

theorem constructSensor_eq_ok {name : String} {s s' : Construction} :
    (constructSensor input name s = .ok (.next s') ∧ s'.ret = true) ↔
      ∃ info s₁, s.sensorInfoMap.lookup name = some info ∧
        (registerSensor name info
          { s with sensorStatusMap := s.sensorStatusMap.put name default } = .ok (.next s₁) ∧
          s₁.ret = true) ∧
        (checkSettings input name info s₁ = .ok (.next s') ∧ s'.ret = true) ∧
        predictorValid input.predictionCounts s'.sensorInfoMap.lookup info = true := by
  apply Iff.intro
  · rintro ⟨hvisit, hret⟩
    unfold constructSensor at hvisit
    rw [bind_eq_ok] at hvisit
    rcases hvisit with ⟨info, hinfo, hvisit⟩
    rw [bind_eq_ok] at hvisit
    rcases hvisit with ⟨flow, hregister, hvisit⟩
    match flow with
    | .stop s₁ => exact nomatch Except.ok.inj hvisit
    | .giveUp s₁ => exact nomatch Except.ok.inj hvisit
    | .next s₁ =>
      dsimp only at hvisit
      rw [bind_eq_ok] at hvisit
      rcases hvisit with ⟨flow, hsettings, hvisit⟩
      match flow with
      | .stop s₂ => exact nomatch Except.ok.inj hvisit
      | .giveUp s₂ => exact nomatch Except.ok.inj hvisit
      | .next s₂ =>
        have hpredictor : checkPredictor input info s₂ = .next s' := Except.ok.inj hvisit
        unfold checkPredictor at hpredictor
        split at hpredictor
        · rename_i hvalid
          rw [Flow.next.inj hpredictor] at hsettings hvalid
          have hret₁ := ((checkSettings_acceptsOn input name info s₁).of_ok hsettings hret).2
          exact ⟨info, s₁, atKey_eq_ok.mp hinfo, ⟨hregister, hret₁⟩, ⟨hsettings, hret⟩, hvalid⟩
        · exact nomatch hpredictor
  · rintro ⟨info, s₁, hinfo, ⟨hregister, -⟩, ⟨hsettings, hret⟩, hvalid⟩
    apply And.intro _ hret
    unfold constructSensor
    rw [atKey_of_lookup hinfo]
    dsimp only [bind, Except.bind]
    rw [hregister]
    dsimp only
    rw [hsettings]
    dsimp only [checkPredictor]
    rw [if_pos hvalid]
    rfl

theorem checkSettings_frame {name : String} {info : SensorInfo} {s s' : Construction}
    (h : checkSettings input name info s = .ok (.next s')) (hret : s'.ret = true) :
    VisitFrame name s s' ∧ watchedBy s'.sensorInfoMap.lookup =
      {sensor | (sensor ∈ watchedBy s.sensorInfoMap.lookup ∨ info.isWatch = true ∧
          ∃ virtualInfo, info.virtualSensorInfo = some virtualInfo ∧
            sensor ∈ virtualInfo.triggerSensors) ∨
        info.virtualSensorInfo.isSome ∧ sensor ∈ info.severityReference} := by
  unfold checkSettings at h
  cases hvirtual : info.virtualSensorInfo with
  | none =>
    rw [hvirtual] at h
    rw [← Flow.next.inj (Except.ok.inj h)]
    apply And.intro
    · exact ⟨rfl, ⟨rfl, fun _ ↦ Iff.rfl⟩, rfl, fun _ ↦ Or.inr, fun _ ↦ rfl, fun _ _ ↦ rfl⟩
    · simp
  | some virtualInfo =>
    rw [hvirtual] at h
    have hframe := checkVirtualSensor_frame h hret
    apply And.intro hframe.1
    rw [hframe.2]
    simp

theorem checkSettings_accepts_iff {name : String} {info : SensorInfo} {s : Construction}
    (hsettings : SameSettings input.sensorInfoMap.lookup s.sensorInfoMap.lookup)
    (hrails : SameRails files s.powerFiles) (haccepted : s.ret = true) :
    (∃ s', checkSettings input name info s = .ok (.next s') ∧ s'.ret = true) ↔
      ∀ virtualInfo, info.virtualSensorInfo = some virtualInfo →
        SoundVirtualSensor input files name info virtualInfo ∧
          (info.isWatch = true → ∀ sensor ∈ virtualInfo.triggerSensors,
            (input.sensorInfoMap.lookup sensor).isSome) := by
  unfold checkSettings
  cases hvirtual : info.virtualSensorInfo with
  | none => exact iff_of_true ⟨s, rfl, haccepted⟩ fun _ h ↦ nomatch h
  | some virtualInfo =>
    simp only [Option.some.injEq, forall_eq']
    exact checkVirtualSensor_accepts_iff hsettings hrails haccepted

theorem not_mem_lackingTrigger_iff {infoOf : String → Option SensorInfo} {name : String}
    {info : SensorInfo} (hinfo : infoOf name = some info) :
    name ∉ lackingTrigger infoOf ↔ ∀ virtualInfo, info.virtualSensorInfo = some virtualInfo →
      ∀ sensor ∈ virtualInfo.triggerSensors, (infoOf sensor).isSome := by
  apply Iff.intro
  · intro hlacks virtualInfo hvirtual sensor hsensor
    rw [Option.isSome_iff_ne_none]
    intro hmissing
    exact hlacks ⟨sensor, ⟨info, virtualInfo, hinfo, hvirtual, hsensor⟩, hmissing⟩
  · rintro hall ⟨sensor, ⟨info', virtualInfo, hinfo', hvirtual, hsensor⟩, hmissing⟩
    have hsame : info = info' := Option.some.inj (hinfo.symm.trans hinfo')
    have hexists := hall virtualInfo (hsame ▸ hvirtual) sensor hsensor
    rw [hmissing] at hexists
    exact absurd hexists Bool.false_ne_true

section Round

variable {before : List String} {name : String} {s : Construction} {orig : SensorInfo}

/-- The sensor as a visit finds it. -/
theorem Visited.found (hvisited : Visited input devices files before s) (hfresh : name ∉ before)
    (horig : input.sensorInfoMap.lookup name = some orig) :
    ∃ info, s.sensorInfoMap.lookup name = some info ∧ info.settings = orig.settings ∧
      info.throttlingInfo = orig.throttlingInfo := by
  obtain ⟨info, hinfo⟩ := hvisited.settings.symm.lookup horig
  have hthrottling := hvisited.throttling name hfresh
  rw [hinfo.1, horig] at hthrottling
  exact ⟨info, hinfo.1, hinfo.2.symm, hthrottling⟩

/-- What a visit requires. -/
theorem Visited.accepts_iff (hvisited : Visited input devices files before s) (hret : s.ret = true)
    (hfresh : name ∉ before) (horig : input.sensorInfoMap.lookup name = some orig) :
    (∃ s', constructSensor input name s = .ok (.next s') ∧ s'.ret = true) ↔
      SoundSensor input devices files name orig ∧
        (name ∈ watchedBy s.sensorInfoMap.lookup →
          name ∉ lackingTrigger input.sensorInfoMap.lookup) := by
  rcases hvisited.found hfresh horig with ⟨info, hinfo, hkept, hthrottling⟩
  have hunregistered : name ∉ s.throttling.thermalThrottlingStatusMap :=
    fun hmem ↦ hfresh (hvisited.registered name hmem)
  have hregisters := @registerSensor_accepts_iff devices name info
    { s with sensorStatusMap := s.sensorStatusMap.put name default } hvisited.devices
    hunregistered hret
  rw [hthrottling] at hregisters
  have hwatched : name ∈ watchedBy s.sensorInfoMap.lookup ↔ info.isWatch = true := by
    unfold watchedBy
    simp [hinfo]
  have hchecks : ∀ s₁, registerSensor name info
      { s with sensorStatusMap := s.sensorStatusMap.put name default } = .ok (.next s₁) →
      s₁.ret = true → ((∃ s', checkSettings input name info s₁ = .ok (.next s') ∧ s'.ret = true) ↔
        (∀ virtualInfo, orig.virtualSensorInfo = some virtualInfo →
          SoundVirtualSensor input files name orig virtualInfo) ∧
          (name ∈ watchedBy s.sensorInfoMap.lookup →
            name ∉ lackingTrigger input.sensorInfoMap.lookup)) := by
    intro s₁ hregister hret₁
    have hframe := (registerSensor_frame
      (s := { s with sensorStatusMap := s.sensorStatusMap.put name default }) hinfo hregister).1
    rw [checkSettings_accepts_iff (hvisited.settings.trans hframe.settings)
      (hvisited.rails.trans hframe.rails) hret₁, virtualSensorInfo_of_settings hkept, hwatched,
      not_mem_lackingTrigger_iff horig]
    have hsound : ∀ virtualInfo, SoundVirtualSensor input files name info virtualInfo ↔
        SoundVirtualSensor input files name orig virtualInfo := by
      intro virtualInfo
      have hreferences := severityReference_of_settings hkept
      exact ⟨fun h ↦ ⟨h.types, h.linked, h.backup, hreferences ▸ h.references, h.rails⟩,
        fun h ↦ ⟨h.types, h.linked, h.backup, hreferences.symm ▸ h.references, h.rails⟩⟩
    simp only [hsound, forall_and]
    apply and_congr_right
    intro _
    exact ⟨fun h hwatch virtualInfo hvirtual ↦ h virtualInfo hvirtual hwatch,
      fun h virtualInfo hvirtual hwatch ↦ h hwatch virtualInfo hvirtual⟩
  have hpredictor : ∀ s' : Construction, SameSettings input.sensorInfoMap.lookup s'.sensorInfoMap.lookup →
      predictorValid input.predictionCounts s'.sensorInfoMap.lookup info =
        predictorValid input.predictionCounts input.sensorInfoMap.lookup orig := by
    intro s' hsame
    exact hsame.predictorValid_eq hkept _
  have hsettingsOf : ∀ s₁ s', registerSensor name info
      { s with sensorStatusMap := s.sensorStatusMap.put name default } = .ok (.next s₁) →
      checkSettings input name info s₁ = .ok (.next s') → s'.ret = true →
      SameSettings input.sensorInfoMap.lookup s'.sensorInfoMap.lookup := by
    intro s₁ s' hregister hsettings hret'
    have hfirst := (registerSensor_frame
      (s := { s with sensorStatusMap := s.sensorStatusMap.put name default }) hinfo hregister).1
    have hlast := (checkSettings_frame hsettings hret').1
    exact (hvisited.settings.trans hfirst.settings).trans hlast.settings
  apply Iff.intro
  · rintro ⟨s', hvisit⟩
    rcases constructSensor_eq_ok.mp hvisit with ⟨info', s₁, hinfo', hregister, hsettings, hvalid⟩
    obtain rfl : info = info' := Option.some.inj (hinfo.symm.trans hinfo')
    have hregistered := hregisters.mp ⟨s₁, hregister⟩
    have hchecked := (hchecks s₁ hregister.1 hregister.2).mp ⟨s', hsettings⟩
    rw [hpredictor s' (hsettingsOf s₁ s' hregister.1 hsettings.1 hsettings.2)] at hvalid
    exact ⟨⟨fun info hinfo ↦ (hregistered info hinfo).1, fun info hinfo ↦ (hregistered info hinfo).2,
      hchecked.1, hvalid⟩, hchecked.2⟩
  · rintro ⟨hsound, htriggers⟩
    obtain ⟨s₁, hregister⟩ :=
      hregisters.mpr fun info hinfo ↦ ⟨hsound.registers info hinfo, hsound.ceilings info hinfo⟩
    obtain ⟨s', hsettings⟩ := (hchecks s₁ hregister.1 hregister.2).mpr ⟨hsound.virtual, htriggers⟩
    have hvalid := hpredictor s' (hsettingsOf s₁ s' hregister.1 hsettings.1 hsettings.2)
    exact ⟨s', constructSensor_eq_ok.mpr
      ⟨info, s₁, hinfo, hregister, hsettings, hvalid.trans hsound.predictor⟩⟩

/-- What a visit keeps. -/
theorem Visited.next (hvisited : Visited input devices files before s) {s' : Construction}
    (hfresh : name ∉ before) (horig : input.sensorInfoMap.lookup name = some orig)
    (hvisit : constructSensor input name s = .ok (.next s')) (hret : s'.ret = true) :
    Visited input devices files (before ++ [name]) s' := by
  rcases hvisited.found hfresh horig with ⟨info, hinfo, hkept, -⟩
  rcases constructSensor_eq_ok.mp ⟨hvisit, hret⟩ with
    ⟨info', s₁, hinfo', hregister, hsettings, -⟩
  obtain rfl : info = info' := Option.some.inj (hinfo.symm.trans hinfo')
  have hregistered := registerSensor_frame
    (s := { s with sensorStatusMap := s.sensorStatusMap.put name default }) hinfo hregister.1
  have hchecked := checkSettings_frame hsettings.1 hret
  have hframe := hregistered.1.trans hchecked.1
  have hmem : ∀ sensor, sensor ∈ before ++ [name] ↔ sensor = name ∨ sensor ∈ before := by
    intro sensor
    rw [List.mem_append, List.mem_singleton, or_comm]
  refine ⟨hframe.devices.trans hvisited.devices, hvisited.rails.trans hframe.rails, ?_, ?_,
    hvisited.settings.trans hframe.settings, ?_, ?_⟩
  · intro sensor
    rw [hframe.sensorStatuses, mem_put, hvisited.sensorStatuses, hmem]
  · intro sensor hsensor
    rw [hmem]
    exact (hframe.registered sensor hsensor).imp_right (hvisited.registered sensor)
  · intro sensor hsensor
    rw [hmem, not_or] at hsensor
    exact (hframe.throttling sensor hsensor.1).trans (hvisited.throttling sensor hsensor.2)
  · have hwatched : name ∈ watchedBy s.sensorInfoMap.lookup ↔ info.isWatch = true := by
      unfold watchedBy
      simp [hinfo]
    rw [markPass_concat, ← hvisited.watched, hchecked.2, hregistered.2.2]
    ext sensor
    unfold markVisit triggersOf referencesOf
    simp only [Set.mem_ofPred_eq, hwatched, horig, Option.some.injEq,
      virtualSensorInfo_of_settings hkept, severityReference_of_settings hkept]
    simp [or_assoc, Option.isSome_iff_exists]

end Round

/-! ## All visits -/

/-- Which visits mark the trigger sensors. -/
abbrev FiresIn (infoOf : String → Option SensorInfo) (order : List String) (name : String) : Prop :=
  Fires (watchedBy infoOf) (triggersOf infoOf) (referencesOf infoOf) order name

theorem Visited.start (input : ConstructorInput) (devices : CdevInfoMap) (files : PowerFiles) :
    Visited input devices files [] (input.start devices files) where
  devices := rfl
  rails := ⟨rfl, fun _ ↦ Iff.rfl⟩
  sensorStatuses sensor := by
    apply iff_of_false _ List.not_mem_nil
    intro hmem
    obtain ⟨status, hstatus⟩ := mem_iff_lookup.mp hmem
    exact absurd hstatus (by simp [ConstructorInput.start])
  registered sensor hsensor := by
    obtain ⟨status, hstatus⟩ := mem_iff_lookup.mp hsensor
    exact absurd hstatus (by simp [ConstructorInput.start, ThermalThrottling.empty])
  settings := fun _ ↦ rfl
  throttling := fun _ _ ↦ rfl
  watched := rfl

/-- What the visit of a sensor requires after other visits. -/
def VisitRequires (input : ConstructorInput) (devices : CdevInfoMap) (files : PowerFiles)
    (before : List String) (name : String) : Prop :=
  (∀ info, input.sensorInfoMap.lookup name = some info →
    SoundSensor input devices files name info) ∧
  (name ∈ markPass (watchedBy input.sensorInfoMap.lookup) (triggersOf input.sensorInfoMap.lookup)
    (referencesOf input.sensorInfoMap.lookup) before →
    name ∉ lackingTrigger input.sensorInfoMap.lookup)

theorem eachAfter_visitRequires (input : ConstructorInput) (devices : CdevInfoMap)
    (files : PowerFiles) (order : List String) :
    EachAfter (VisitRequires input devices files) order ↔
      (∀ name ∈ order, ∀ info, input.sensorInfoMap.lookup name = some info →
        SoundSensor input devices files name info) ∧
      ∀ name ∈ lackingTrigger input.sensorInfoMap.lookup,
        ¬ FiresIn input.sensorInfoMap.lookup order name := by
  induction order using List.reverseRecOn with
  | nil =>
    apply iff_of_true (eachAfter_nil _)
    apply And.intro
    · exact fun name hname ↦ absurd hname List.not_mem_nil
    · intro name _
      exact (not_someAfter _ _).mpr (eachAfter_nil _)
  | append_singleton order last ih =>
    rw [eachAfter_concat, ih, List.forall_mem_append, List.forall_mem_singleton]
    unfold FiresIn
    simp only [fires_concat]
    apply Iff.intro
    · rintro ⟨⟨hsound, hquiet⟩, hlast⟩
      refine ⟨⟨hsound, hlast.1⟩, ?_⟩
      rintro name hlacks (hfires | ⟨hname, hmarked⟩)
      · exact hquiet name hlacks hfires
      · rw [← hname] at hlacks hmarked
        exact hlast.2 hmarked hlacks
    · rintro ⟨hsound, hquiet⟩
      refine ⟨⟨hsound.1, fun name hlacks hfires ↦ hquiet name hlacks (Or.inl hfires)⟩, hsound.2, ?_⟩
      exact fun hmarked hlacks ↦ hquiet last hlacks (Or.inr ⟨rfl, hmarked⟩)

/-- The loop accepts when every sensor is sound and no sensor that lacks a trigger sensor is watched
when it is visited. -/
theorem constructSensors_accepts_iff (input : ConstructorInput) (devices : CdevInfoMap)
    (files : PowerFiles) :
    ((∃ s, iterate (constructSensor input) input.sensorInfoMap.keys (input.start devices files) =
          .ok (.next s) ∧ s.ret = true) ↔
        EachAfter (VisitRequires input devices files) input.sensorInfoMap.keys) ∧
      ∀ s, iterate (constructSensor input) input.sensorInfoMap.keys (input.start devices files) =
          .ok (.next s) → s.ret = true →
        Visited input devices files input.sensorInfoMap.keys s := by
  have hfound : ∀ before name after, input.sensorInfoMap.keys = before ++ name :: after →
      name ∉ before ∧ ∃ orig, input.sensorInfoMap.lookup name = some orig := by
    intro before name after hkeys
    have hnodup : (before ++ name :: after).Nodup := hkeys ▸ AList.keys_nodup _
    have hmem : name ∈ input.sensorInfoMap.keys := by
      rw [hkeys]
      exact List.mem_append_cons_self
    apply And.intro
    · exact fun hbefore ↦ (List.nodup_append.mp hnodup).2.2 name hbefore name List.mem_cons_self rfl
    · exact mem_iff_lookup.mp (AList.mem_keys.mpr hmem)
  apply @iterate_accepts_iff _ _ _ (fun s : Construction ↦ s.ret = true) _ _ _ _
    (Visited.start input devices files) rfl
  · intro before name after s hkeys hvisited hret
    rcases hfound before name after hkeys with ⟨hfresh, orig, horig⟩
    rw [hvisited.accepts_iff hret hfresh horig, hvisited.watched]
    unfold VisitRequires
    rw [horig]
    simp
  · intro before name after s s' hkeys hvisited hvisit hret
    rcases hfound before name after hkeys with ⟨hfresh, orig, horig⟩
    exact hvisited.next hfresh horig hvisit hret
  · exact constructSensor_rejects input

end Visit

/-! ## The constructor -/

/-- The configuration is accepted. -/
def Constructs (input : ConstructorInput) (helper : Construction) : Prop :=
  construct input = .ok (some helper)

theorem finish_eq_ok {disabled : Bool} {s helper : Construction} :
    (if disabled then do
        let _ ← clearAllThrottling s.coolingDeviceInfoMap
        pure (some s.cleared)
      else pure (some s) : Checked (Option Construction)) = .ok (some helper) ↔
      if disabled then
        (∃ requests, clearAllThrottling s.coolingDeviceInfoMap = .ok requests) ∧ helper = s.cleared
      else helper = s := by
  cases disabled with
  | false =>
    rw [if_neg Bool.false_ne_true, if_neg Bool.false_ne_true]
    exact ⟨fun h ↦ (Option.some.inj (Except.ok.inj h)).symm, fun h ↦ congrArg _ (congrArg some h.symm)⟩
  | true =>
    rw [if_pos rfl, if_pos rfl, bind_eq_ok]
    apply Iff.intro
    · rintro ⟨requests, hrequests, hhelper⟩
      exact ⟨⟨requests, hrequests⟩, (Option.some.inj (Except.ok.inj hhelper)).symm⟩
    · rintro ⟨⟨requests, hrequests⟩, hhelper⟩
      exact ⟨requests, hrequests, congrArg _ (congrArg some hhelper.symm)⟩

theorem constructs_iff_loop {input : ConstructorInput} {helper : Construction} :
    Constructs input helper ↔ ∃ devices files s, input.resources = some (devices, files) ∧
      (input.prepared = true ∧
        ∀ sensor ∈ input.powerRailSwitchMap.keys, sensor ∈ input.sensorInfoMap) ∧
      (iterate (constructSensor input) input.sensorInfoMap.keys (input.start devices files) =
        .ok (.next s) ∧ s.ret = true) ∧
      if input.thermalThrottlingDisabled then
        (∃ requests, clearAllThrottling s.coolingDeviceInfoMap = .ok requests) ∧ helper = s.cleared
      else helper = s := by
  unfold Constructs construct
  match hresources : input.resources with
  | none => simp
  | some (devices, files) =>
    by_cases hprepared : input.prepared = true ∧
      ∀ sensor ∈ input.powerRailSwitchMap.keys, sensor ∈ input.sensorInfoMap
    · dsimp only
      rw [if_pos hprepared]
      cases hloop : iterate (constructSensor input) input.sensorInfoMap.keys
        (input.start devices files) with
      | error fault => simp [bind, Except.bind, hloop]
      | ok flow =>
        have hbind : ∀ rest : Flow Construction → Checked (Option Construction),
            (Except.ok flow >>= rest) = rest flow := fun _ ↦ rfl
        rw [hbind]
        by_cases hret : flow.state.ret = true
        · have hnext := ((constructSensor_rejects input).of_iterate hloop hret).1
          rw [if_pos hret, finish_eq_ok]
          apply Iff.intro
          · exact fun hhelper ↦ ⟨devices, files, flow.state, rfl, hprepared,
              ⟨hloop.trans (congrArg Except.ok hnext), hret⟩, hhelper⟩
          · rintro ⟨_, _, s, hsame, -, hs, hhelper⟩
            rw [← (Prod.mk.inj (Option.some.inj hsame)).1, ← (Prod.mk.inj (Option.some.inj hsame)).2,
              hloop] at hs
            rw [Except.ok.inj hs.1]
            exact hhelper
        · rw [if_neg hret]
          apply iff_of_false
          · intro hnone
            have hsame : none = some helper := Except.ok.inj hnone
            exact nomatch hsame
          rintro ⟨_, _, s, hsame, -, hs, -⟩
          rw [← (Prod.mk.inj (Option.some.inj hsame)).1, ← (Prod.mk.inj (Option.some.inj hsame)).2,
            hloop] at hs
          rw [Except.ok.inj hs.1] at hret
          exact hret hs.2
    · dsimp only
      rw [if_neg hprepared]
      apply iff_of_false (fun h ↦ nomatch h)
      rintro ⟨_, _, _, _, hboth, -⟩
      exact hprepared hboth

/-- What the constructor accepts when throttling is not disabled. -/
theorem constructs_iff (input : ConstructorInput) (hdisabled : input.thermalThrottlingDisabled = false) :
    (∃ helper, Constructs input helper) ↔ SoundInput input ∧
      ∀ name ∈ lackingTrigger input.sensorInfoMap.lookup,
        ¬ FiresIn input.sensorInfoMap.lookup input.sensorInfoMap.keys name := by
  simp only [constructs_iff_loop, hdisabled, Bool.false_eq_true, if_false]
  have hkeys : ∀ name info, input.sensorInfoMap.lookup name = some info →
      name ∈ input.sensorInfoMap.keys := fun name info hinfo ↦ AList.mem_keys.mpr (mem_of_lookup hinfo)
  apply Iff.intro
  · rintro ⟨helper, devices, files, s, hresources, hprepared, hloop, -⟩
    have hrequired := (constructSensors_accepts_iff input devices files).1.mp ⟨s, hloop⟩
    rw [eachAfter_visitRequires] at hrequired
    refine ⟨⟨hprepared.1, ?_, devices, files, hresources, ?_⟩, hrequired.2⟩
    · exact fun sensor hsensor ↦ AList.lookup_isSome.mpr (hprepared.2 sensor hsensor)
    · exact fun name info hinfo ↦ hrequired.1 name (hkeys name info hinfo) info hinfo
  · rintro ⟨hsound, hquiet⟩
    rcases hsound.sensors with ⟨devices, files, hresources, hsensors⟩
    have hrequired : EachAfter (VisitRequires input devices files) input.sensorInfoMap.keys := by
      rw [eachAfter_visitRequires]
      exact ⟨fun name _ info hinfo ↦ hsensors name info hinfo, hquiet⟩
    obtain ⟨s, hloop⟩ := (constructSensors_accepts_iff input devices files).1.mpr hrequired
    exact ⟨s, devices, files, s, hresources, ⟨hsound.prepared, fun sensor hsensor ↦
      AList.lookup_isSome.mp (hsound.switches sensor hsensor)⟩, hloop, rfl⟩

/-- What is constructed. -/
theorem Constructs.visited {input : ConstructorInput} {helper : Construction}
    (h : Constructs input helper) (hdisabled : input.thermalThrottlingDisabled = false) :
    ∃ devices files, input.resources = some (devices, files) ∧ helper.ret = true ∧
      Visited input devices files input.sensorInfoMap.keys helper := by
  rcases constructs_iff_loop.mp h with ⟨devices, files, s, hresources, -, hloop, hhelper⟩
  rw [hdisabled, if_neg Bool.false_ne_true] at hhelper
  rw [hhelper]
  exact ⟨devices, files, hresources, hloop.2,
    (constructSensors_accepts_iff input devices files).2 s hloop.1 hloop.2⟩

/-- Nothing is watched when throttling is disabled. -/
theorem Constructs.unwatched {input : ConstructorInput} {helper : Construction}
    (h : Constructs input helper) (hdisabled : input.thermalThrottlingDisabled = true) :
    watchedBy helper.sensorInfoMap.lookup = ∅ := by
  rcases constructs_iff_loop.mp h with ⟨devices, files, s, -, -, -, hhelper⟩
  rw [hdisabled, if_pos rfl] at hhelper
  rw [hhelper.2]
  ext name
  unfold watchedBy Construction.cleared
  simp [lookup_mapValues, SensorInfo.cleared]

end HardwareMediatek.Thermal
