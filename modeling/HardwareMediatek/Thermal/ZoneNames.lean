import HardwareMediatek.Thermal.TripPoints

/-!
# One zone for every sensor

For each watched physical sensor the zone whose trip points are programmed has
to be the zone that the temperature is read from, and an event of that zone
has to be taken for the sensor. Since the one goes by the name of the sensor
and the other by the name of its zone, this holds exactly when both name the
same zone.
-/

namespace HardwareMediatek.Thermal

open UnorderedMap

/-- A sensor that `initializeTrip` looks at. -/
def SensorInfo.watchedPhysical (info : SensorInfo) : Bool :=
  info.isWatch && info.virtualSensorInfo.isNone

/-- A uevent of a zone: what comes before the subsystem, the type of the zone as its name, and the
rest. -/
def zoneUevent (header : List String) (type : String) (rest : List String) : List String :=
  header ++ "SUBSYSTEM=thermal" :: ("NAME=" ++ type) :: rest

/-- An event that names the type is taken for the sensor. -/
def EventRecognised (env : TripEnv) (monitoredSensors : List String) (sensorName type : String) :
    Prop :=
  if env.thermalGenlEnabled then ∀ temp, sensorName ∈ parseGenlink monitoredSensors [(type, temp)]
  else
    ∀ header rest, (∀ uevent ∈ header, "SUBSYSTEM=".toList.isPrefixOf uevent.toList = false) →
      sensorName ∈ parseUevent monitoredSensors [zoneUevent header type rest]

/-- The zone of the sensor's name is the one that its temperature is read from, and an event of the
zone that it is configured with is taken for the sensor. -/
structure ZoneConsistent (env : TripEnv) (files : ThermalFiles) (s : TripState)
    (sensorName : String) (info : SensorInfo) : Prop where
  programmed : ∃ zone, env.pathMap.lookup sensorName = some zone ∧
    files.lookup sensorName = some (zone ++ "/" ++ kSensorTempSuffix)
  recognised : ∀ zone, env.pathMap.lookup info.zoneName = some zone → supportsNotify env zone = true →
    EventRecognised env s.monitoredSensors sensorName info.zoneName

/-- The trip points are programmed without a missing zone, and every watched physical sensor is
consistent. -/
def ZonesConsistent (env : TripEnv) (sensorInfoMap : SensorInfoMap) (files : ThermalFiles) : Prop :=
  ∃ s, initializeTrip env sensorInfoMap = .ok s ∧
    ∀ sensorName info, sensorInfoMap.lookup sensorName = some info → info.watchedPhysical = true →
      ZoneConsistent env files s sensorName info

/-- What the configuration and the zones have to satisfy for a sensor: there is a zone of the sensor's
name, its temperature is configured to be read from this zone, and its zone has the sensor's name
if it sends events. -/
structure NamesZone (env : TripEnv) (sensorName : String) (info : SensorInfo) : Prop where
  zone : ∃ zone, env.pathMap.lookup sensorName = some zone ∧
    (info.tempPath = "" ∧ env.pathMap.lookup info.zoneName = some zone ∨
      info.tempPath = zone ++ "/" ++ kSensorTempSuffix)
  events : ∀ zone, env.pathMap.lookup info.zoneName = some zone → supportsNotify env zone = true →
    info.zoneName = sensorName

/-! ## Events -/

section Events

variable {monitoredSensors : List String} {sensorName type : String}

theorem findPast_name (type : String) :
    findPast "NAME=".toList ("NAME=" ++ type).toList = some type.toList := by
  rw [String.toList_append]
  rfl

theorem scanUevent_header {header rest : List String} (sensorMap : UnorderedMap String ExactFloat)
    (hheader : ∀ uevent ∈ header, "SUBSYSTEM=".toList.isPrefixOf uevent.toList = false) :
    scanUevent monitoredSensors (header ++ rest) (false, sensorMap) =
      scanUevent monitoredSensors rest (false, sensorMap) := by
  induction header with
  | nil => rfl
  | cons uevent header ih =>
    rw [List.cons_append, scanUevent, if_neg (by rw [hheader uevent List.mem_cons_self]; decide)]
    exact ih fun uevent' hmem ↦ hheader uevent' (List.mem_cons_of_mem _ hmem)

/-- The uevent of a zone is reported under the type of the zone, if it is monitored. -/
theorem mem_parseUevent_zone {header rest : List String}
    (hheader : ∀ uevent ∈ header, "SUBSYSTEM=".toList.isPrefixOf uevent.toList = false) :
    sensorName ∈ parseUevent monitoredSensors [zoneUevent header type rest] ↔
      type ∈ monitoredSensors ∧ sensorName = type := by
  have hscan : parseUevent monitoredSensors [zoneUevent header type rest] =
      if type ∈ monitoredSensors ∧ type ∉ (∅ : UnorderedMap String ExactFloat) then
        (∅ : UnorderedMap String ExactFloat).insert type .nan
      else ∅ := by
    unfold parseUevent zoneUevent
    rw [List.foldl_cons, List.foldl_nil, scanUevent_header ∅ hheader, scanUevent,
      if_pos (by decide +kernel), if_pos (by decide +kernel), scanUevent, findPast_name]
    dsimp only
    rw [String.ofList_toList]
  rw [hscan]
  split
  · rename_i hmonitored
    rw [AList.mem_insert]
    simp [hmonitored.1]
  · rename_i hunmonitored
    simp only [AList.notMem_empty, not_false_eq_true, and_true] at hunmonitored
    simp [hunmonitored]

theorem mem_parseGenlink_zone {temp : ExactFloat} :
    sensorName ∈ parseGenlink monitoredSensors [(type, temp)] ↔
      type ∈ monitoredSensors ∧ sensorName = type := by
  unfold parseGenlink
  rw [List.foldl_cons, List.foldl_nil]
  split
  · rename_i hmonitored
    dsimp only at hmonitored ⊢
    rw [AList.mem_insert]
    simp [hmonitored.1]
  · rename_i hunmonitored
    simp only [AList.notMem_empty, not_false_eq_true, and_true] at hunmonitored
    simp [hunmonitored]

/-- An event is taken for the sensor exactly when the sensor has the name of the zone and is
monitored. -/
theorem eventRecognised_iff (env : TripEnv) :
    EventRecognised env monitoredSensors sensorName type ↔
      type ∈ monitoredSensors ∧ sensorName = type := by
  unfold EventRecognised
  split
  · constructor
    · exact fun h ↦ mem_parseGenlink_zone.mp (h .nan)
    · exact fun h temp ↦ mem_parseGenlink_zone.mpr h
  · constructor
    · intro h
      have hempty : ∀ uevent ∈ ([] : List String),
          "SUBSYSTEM=".toList.isPrefixOf uevent.toList = false :=
        fun _ hmem ↦ absurd hmem List.not_mem_nil
      exact (mem_parseUevent_zone hempty).mp (h [] [] hempty)
    · exact fun h header rest hheader ↦ (mem_parseUevent_zone hheader).mpr h

end Events

/-! ## The monitored sensors -/

section Trip

variable {env : TripEnv}

/-- A sensor whose zone is programmed and notifies. -/
def Monitors (env : TripEnv) (entry : SensorEntry) : Prop :=
  entry.2.watchedPhysical = true ∧
    ∃ zone, env.pathMap.lookup entry.1 = some zone ∧ supportsNotify env zone = true

theorem setTimeout_monitoredSensors (sensorName : String) (info : SensorInfo) (tripUpdate : Bool)
    (s : TripState) :
    (setTimeout sensorName info tripUpdate s).monitoredSensors = s.monitoredSensors := by
  unfold setTimeout
  split <;> rfl

theorem programTrip_monitoredSensors (sensorName : String) (info : SensorInfo) (zone : String)
    (s : TripState) :
    (programTrip env sensorName info zone s).monitoredSensors =
      if supportsNotify env zone then sensorName :: s.monitoredSensors else s.monitoredSensors := by
  unfold programTrip
  split
  · dsimp only
    split <;> rw [setTimeout_monitoredSensors]
  · rw [setTimeout_monitoredSensors]

/-- One round monitors the sensor if its zone notifies, and fails only without a zone. -/
theorem tripRound_monitors (env : TripEnv) (entry : SensorEntry)
    (s : TripState) :
    Meets (tripRound env entry s)
      (fun s' ↦ (entry.2.watchedPhysical = true → entry.1 ∈ env.pathMap) ∧
        ∀ name, name ∈ s'.monitoredSensors ↔
          (entry.1 = name ∧ Monitors env entry) ∨ name ∈ s.monitoredSensors)
      fun _ ↦ entry.2.watchedPhysical = true ∧ entry.1 ∉ env.pathMap := by
  have hphysical : entry.2.watchedPhysical = true ↔
      (!entry.2.isWatch || entry.2.virtualSensorInfo.isSome) = false := by
    unfold SensorInfo.watchedPhysical
    cases entry.2.isWatch <;> cases entry.2.virtualSensorInfo <;> simp
  unfold tripRound
  split
  · rename_i hskipped
    have hnot : entry.2.watchedPhysical ≠ true := by
      rw [ne_eq, hphysical, hskipped]
      decide
    exact ⟨fun h ↦ absurd h hnot, fun name ↦ by simp [Monitors, hnot]⟩
  · rename_i hvisited
    have hwatched := hphysical.mpr (by simpa using hvisited)
    apply (meets_atKey (P := fun zone ↦ env.pathMap.lookup entry.1 = some zone) (fun _ ↦ id)
      fun hmissing ↦ ⟨hwatched, hmissing⟩).bind
    intro zone hzone
    refine ⟨fun _ ↦ mem_of_lookup hzone, fun name ↦ ?_⟩
    rw [programTrip_monitoredSensors]
    have hmonitors : Monitors env entry ↔ supportsNotify env zone = true := by
      simp [Monitors, hwatched, hzone]
    rw [hmonitors]
    split
    · rename_i hnotify
      simp [hnotify, eq_comm]
    · rename_i hnotify
      simp [hnotify]

theorem tripRounds_monitor (entries : List SensorEntry) (s : TripState) :
    Meets (forEach (tripRound env) entries s)
      (fun s' ↦ (∀ entry ∈ entries, entry.2.watchedPhysical = true → entry.1 ∈ env.pathMap) ∧
        ∀ name, name ∈ s'.monitoredSensors ↔
          (∃ entry ∈ entries, entry.1 = name ∧ Monitors env entry) ∨ name ∈ s.monitoredSensors)
      fun _ ↦ ∃ entry ∈ entries, entry.2.watchedPhysical = true ∧ entry.1 ∉ env.pathMap := by
  induction entries generalizing s with
  | nil => exact ⟨fun _ hmem ↦ absurd hmem List.not_mem_nil, fun name ↦ by simp⟩
  | cons entry rest ih =>
    have hround := tripRound_monitors env entry s
    rw [forEach]
    cases hentry : tripRound env entry s with
    | error fault =>
      obtain ⟨hwatched, hmissing⟩ := hround.of_error hentry
      exact ⟨entry, List.mem_cons_self, hwatched, hmissing⟩
    | ok s' =>
      obtain ⟨hzone, hmonitors⟩ := hround.of_ok hentry
      apply (ih s').mono
      · rintro s'' ⟨hzones, hrest⟩
        refine ⟨List.forall_mem_cons.mpr ⟨hzone, hzones⟩, fun name ↦ ?_⟩
        rw [hrest, hmonitors, List.exists_mem_cons_iff]
        exact or_left_comm.trans or_assoc.symm
      · rintro fault ⟨entry', hmem, hmissing⟩
        exact ⟨entry', List.mem_cons_of_mem _ hmem, hmissing⟩

/-- The trip points are programmed unless some watched physical sensor has no zone of its name, and
the monitored sensors are those whose zone notifies. -/
theorem initializeTrip_monitors (env : TripEnv) (sensorInfoMap : SensorInfoMap) :
    Meets (initializeTrip env sensorInfoMap)
      (fun s ↦ ∀ name info, sensorInfoMap.lookup name = some info →
        (name ∈ s.monitoredSensors ↔ Monitors env ⟨name, info⟩))
      fun _ ↦ ∃ name info, sensorInfoMap.lookup name = some info ∧ info.watchedPhysical = true ∧
        name ∉ env.pathMap := by
  apply (tripRounds_monitor sensorInfoMap.entries _).mono
  · rintro s ⟨-, hmonitored⟩ name info hlookup
    rw [hmonitored]
    constructor
    · rintro (⟨⟨name', info'⟩, hentry, rfl, hmonitors⟩ | hmem)
      · obtain rfl := Option.some.inj ((lookup_of_mem_entries hentry).symm.trans hlookup)
        exact hmonitors
      · exact absurd hmem List.not_mem_nil
    · exact fun hmonitors ↦ Or.inl ⟨⟨name, info⟩, mem_entries_iff.mpr hlookup, rfl, hmonitors⟩
  · rintro fault ⟨⟨name, info⟩, hentry, hwatched, hmissing⟩
    exact ⟨name, info, lookup_of_mem_entries hentry, hwatched, hmissing⟩

end Trip

/-! ## The files of the temperatures -/

theorem addThermalFile_lookup {files files' : ThermalFiles} {name path : String}
    (h : addThermalFile files name path = some files') :
    name ∉ files ∧ files' = files.insert name path := by
  unfold addThermalFile at h
  split at h
  · cases h
  · rename_i hnew
    exact ⟨hnew, (Option.some.inj h).symm⟩

/-- A file that is added stays, and every physical sensor of the list has its file. -/
theorem initializeSensorMap_files {pathMap : UnorderedMap String String}
    {entries : List SensorEntry} {files files' : ThermalFiles}
    (h : initializeSensorMap pathMap entries files = some files') :
    (∀ name path, files.lookup name = some path → files'.lookup name = some path) ∧
      ∀ entry ∈ entries, entry.2.virtualSensorInfo = none →
        ∃ zone, pathMap.lookup entry.2.zoneName = some zone ∧ files'.lookup entry.1 =
          some (pathOr entry.2.tempPath (zone ++ "/" ++ kSensorTempSuffix)) := by
  induction entries generalizing files with
  | nil =>
    obtain rfl := Option.some.inj h
    exact ⟨fun _ _ ↦ id, fun _ hmem ↦ absurd hmem List.not_mem_nil⟩
  | cons entry rest ih =>
    obtain ⟨name, info⟩ := entry
    rw [initializeSensorMap] at h
    split at h
    · rename_i hvirtual
      obtain ⟨hkeeps, hfiles⟩ := ih h
      refine ⟨hkeeps, fun entry hentry hphysical ↦ ?_⟩
      rcases List.mem_cons.mp hentry with rfl | hrest
      · rw [hphysical] at hvirtual
        cases hvirtual
      · exact hfiles entry hrest hphysical
    · obtain ⟨zone, hzone, h⟩ := Option.bind_eq_some_iff.mp h
      obtain ⟨added, hadded, h⟩ := Option.bind_eq_some_iff.mp h
      obtain ⟨hnew, rfl⟩ := addThermalFile_lookup hadded
      obtain ⟨hkeeps, hfiles⟩ := ih h
      refine ⟨fun name' path hpath ↦ hkeeps name' path ?_, fun entry hentry hphysical ↦ ?_⟩
      · rw [AList.lookup_insert_ne]
        · exact hpath
        · rintro rfl
          exact hnew (mem_of_lookup hpath)
      · rcases List.mem_cons.mp hentry with rfl | hrest
        · exact ⟨zone, hzone, hkeeps _ _ (AList.lookup_insert _)⟩
        · exact hfiles entry hrest hphysical

/-! ## The main result -/

theorem watchedPhysical_iff {info : SensorInfo} :
    info.watchedPhysical = true ↔ info.isWatch = true ∧ info.virtualSensorInfo = none := by
  unfold SensorInfo.watchedPhysical
  rw [Bool.and_eq_true, Option.isNone_iff_eq_none]

/-- The zone of a consistent sensor is the one it is configured with. -/
theorem ZoneConsistent.namesZone {env : TripEnv} {files : ThermalFiles} {s : TripState}
    {sensorName : String} {info : SensorInfo} (h : ZoneConsistent env files s sensorName info)
    {configured : String} (hconfigured : env.pathMap.lookup info.zoneName = some configured)
    (hfile : files.lookup sensorName =
      some (pathOr info.tempPath (configured ++ "/" ++ kSensorTempSuffix))) :
    NamesZone env sensorName info := by
  obtain ⟨zone, hzone, hread⟩ := h.programmed
  have hsame := Option.some.inj (hfile.symm.trans hread)
  refine ⟨⟨zone, hzone, ?_⟩, fun zone' hzone' hnotify ↦ ?_⟩
  · unfold pathOr at hsame
    split at hsame
    · exact Or.inr hsame
    · rename_i hempty
      rw [String.append_left_inj, String.append_left_inj] at hsame
      exact Or.inl ⟨not_not.mp hempty, hsame ▸ hconfigured⟩
  · exact ((eventRecognised_iff env).mp (h.recognised zone' hzone' hnotify)).2.symm

/-- The sensors that are programmed, read and notified agree on their zones exactly when each
watched physical sensor names the zone that it is configured with. -/
theorem zonesConsistent_iff {env : TripEnv} {sensorInfoMap : SensorInfoMap} {files : ThermalFiles}
    (hfiles : initializeSensorMap env.pathMap sensorInfoMap.entries ∅ = some files) :
    ZonesConsistent env sensorInfoMap files ↔
      ∀ sensorName info, sensorInfoMap.lookup sensorName = some info →
        info.watchedPhysical = true → NamesZone env sensorName info := by
  have hread : ∀ sensorName info, sensorInfoMap.lookup sensorName = some info →
      info.watchedPhysical = true → ∃ zone, env.pathMap.lookup info.zoneName = some zone ∧
        files.lookup sensorName = some (pathOr info.tempPath (zone ++ "/" ++ kSensorTempSuffix)) :=
    fun sensorName info hlookup hwatched ↦ (initializeSensorMap_files hfiles).2 ⟨sensorName, info⟩
      (mem_entries_iff.mpr hlookup) (watchedPhysical_iff.mp hwatched).2
  have htrip := initializeTrip_monitors env sensorInfoMap
  constructor
  · rintro ⟨s, hs, hconsistent⟩ sensorName info hlookup hwatched
    obtain ⟨configured, hconfigured, hfile⟩ := hread sensorName info hlookup hwatched
    exact (hconsistent sensorName info hlookup hwatched).namesZone hconfigured hfile
  · intro hnames
    cases hs : initializeTrip env sensorInfoMap with
    | error fault =>
      obtain ⟨name, info, hlookup, hwatched, hmissing⟩ := htrip.of_error hs
      obtain ⟨zone, hzone, -⟩ := (hnames name info hlookup hwatched).zone
      exact absurd (mem_of_lookup hzone) hmissing
    | ok s =>
      refine ⟨s, hs, fun sensorName info hlookup hwatched ↦ ?_⟩
      obtain ⟨configured, hconfigured, hfile⟩ := hread sensorName info hlookup hwatched
      have hzones := hnames sensorName info hlookup hwatched
      constructor
      · obtain ⟨zone, hzone, hpath⟩ := hzones.zone
        refine ⟨zone, hzone, ?_⟩
        rw [hfile]
        unfold pathOr
        rcases hpath with ⟨hempty, hsame⟩ | hpath
        · rw [if_neg (not_not.mpr hempty), Option.some.inj (hconfigured.symm.trans hsame)]
        · split
          · rw [hpath]
          · rename_i hempty
            rw [not_not.mp hempty] at hpath
            exact absurd (congrArg String.toList hpath) (by simp [kSensorTempSuffix])
      · intro zone hzone hnotify
        have hsame := hzones.events zone hzone hnotify
        apply (eventRecognised_iff env).mpr
        rw [hsame] at hzone ⊢
        refine ⟨((htrip.of_ok hs) sensorName info hlookup).mpr ⟨hwatched, zone, hzone, hnotify⟩, rfl⟩

/-- One zone, and a sensor of another name that is configured with it. -/
def quietZone : TripEnv where
  pathMap := (∅ : UnorderedMap String String).insert "quiet_therm"
    "/sys/devices/virtual/thermal/thermal_zone5"
  readFile _ := some "user_space\n"
  writeSucceeds _ _ := true
  thermalGenlEnabled := false

def renamedSensor : SensorInfoMap :=
  (∅ : SensorInfoMap).insert "skin"
    { (default : SensorInfo) with isWatch := true, zoneName := "quiet_therm" }

theorem renamedSensor_zonesConsistent_iff : ∃ files,
    initializeSensorMap quietZone.pathMap renamedSensor.entries ∅ = some files ∧
      (ZonesConsistent quietZone renamedSensor files ↔
        ∀ sensorName info, renamedSensor.lookup sensorName = some info →
          info.watchedPhysical = true → NamesZone quietZone sensorName info) :=
  ⟨_, rfl, zonesConsistent_iff rfl⟩

/-- The temperature of the renamed sensor can be read, but there is no zone of its name. -/
theorem not_zonesConsistent_renamed : ∃ files,
    initializeSensorMap quietZone.pathMap renamedSensor.entries ∅ = some files ∧
      initializeTrip quietZone renamedSensor = .error .outOfRange ∧
      ¬ ZonesConsistent quietZone renamedSensor files := by
  refine ⟨_, rfl, rfl, ?_⟩
  rintro ⟨s, hs, -⟩
  cases hs

end HardwareMediatek.Thermal
