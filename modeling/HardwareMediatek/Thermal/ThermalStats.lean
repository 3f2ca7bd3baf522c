import HardwareMediatek.Foundation.ThreadedAssign
import HardwareMediatek.Thermal.Hysteresis
import HardwareMediatek.Thermal.StatsResidency

/-!
# The statistics helper

Residency records for the temperatures of sensors and for the requests of sensors to cooling devices,
by custom thresholds and by default ones; the extremes of the temperatures; and what is watched for
abnormal temperatures. Once in an interval all records are reported.

Times of the boot clock are in nanoseconds, those of the records in milliseconds. The padding of an
atom with empty buckets and the traces of an abnormality are left out.
-/

namespace HardwareMediatek.Thermal

open UnorderedMap

/-! ## Configuration -/

/-- The number of buckets in an atom. -/
def kMaxStatsResidencyCount : ℕ := 20

def kMaxStatsThresholdCount : ℕ := kMaxStatsResidencyCount - 1

structure ThresholdList (α : Type) where
  loggingName : Option String
  thresholds : List α

/-- All names or none, or the names of a set. -/
inductive RecordByDefault where
  | flag (all : Bool)
  | nameSet (names : List String)

structure StatsInfo (α : Type) where
  recordByDefaultThreshold : RecordByDefault
  recordByThreshold : UnorderedMap String (List (ThresholdList α))

structure TempRangeInfo where
  maxTempThreshold : ℤ
  minTempThreshold : ℤ
deriving DecidableEq

/-- The duration is in milliseconds. -/
structure TempStuckInfo where
  minPollingCount : ℤ
  minStuckDuration : ℤ
deriving DecidableEq

/-- What is configured for some sensors. -/
structure SensorsInfo (ι : Type) where
  sensors : List String
  info : ι

structure AbnormalStatsInfo where
  defaultTempRangeInfo : Option TempRangeInfo
  sensorsTempRangeInfos : List (SensorsInfo TempRangeInfo)
  defaultTempStuckInfo : Option TempStuckInfo
  sensorsTempStuckInfos : List (SensorsInfo TempStuckInfo)

def isRecordByDefaultThreshold (recordByDefault : RecordByDefault) (name : String) : Bool :=
  match recordByDefault with
  | .flag all => all
  | .nameSet names => name ∈ names

/-! ## Buckets -/

/-- The values that thresholds are compared with. -/
class ThresholdValue (α : Type) where
  less : α → α → Bool
  toBucket : α → ℤ

instance : ThresholdValue ExactFloat := ⟨fun x y ↦ x < y, toInt⟩

instance : ThresholdValue ℤ := ⟨fun x y ↦ x < y, id⟩

section Buckets

variable {α : Type} [ThresholdValue α]

/-- The binary search of `std::upper_bound` among `len` values from `first` on. Every round makes the
length smaller. -/
def upperBound (thresholds : List α) (value : α) : ℕ → ℕ → ℕ → ℕ
  | 0, first, _ => first
  | fuel + 1, first, len =>
    if len = 0 then first
    else
      let half := len / 2
      match thresholds[first + half]? with
      | none => first
      | some threshold =>
        if ThresholdValue.less value threshold then upperBound thresholds value fuel first half
        else upperBound thresholds value fuel (first + half + 1) (len - (half + 1))

def calculateThresholdBucket (thresholds : List α) (value : α) : ℤ :=
  if thresholds.isEmpty then ThresholdValue.toBucket value
  else upperBound thresholds value thresholds.length 0 thresholds.length

end Buckets

/-! ## Records -/

structure StatsByThreshold (α : Type) where
  thresholds : List α
  loggingName : Option String
  statsRecord : StatsRecord

/-- There is one bucket more than there are thresholds. -/
def StatsByThreshold.create {α : Type} (thresholdList : ThresholdList α) (nowMs : ℤ) :
    StatsByThreshold α where
  thresholds := thresholdList.thresholds
  loggingName := thresholdList.loggingName
  statsRecord := StatsRecord.create (thresholdList.thresholds.length + 1) 0 nowMs

structure ThermalStats (α : Type) where
  statsByCustomThreshold : List (StatsByThreshold α)
  statsByDefaultThreshold : Option StatsRecord

def noThermalStats {α : Type} : ThermalStats α := ⟨[], none⟩

def ThermalStats.addCustom {α : Type} (stats : ThermalStats α) (thresholdList : ThresholdList α)
    (nowMs : ℤ) : ThermalStats α :=
  { stats with
    statsByCustomThreshold :=
      stats.statsByCustomThreshold ++ [StatsByThreshold.create thresholdList nowMs] }

/-- A time of the system clock is missing until there is an extreme. -/
structure SensorTempStats extends ThermalStats ExactFloat where
  maxTemp : ExactFloat
  maxTempTimestamp : Option ℤ
  minTemp : ExactFloat
  minTempTimestamp : Option ℤ

def newSensorTempStats : SensorTempStats :=
  { (noThermalStats : ThermalStats ExactFloat) with
    maxTemp := floatMin
    maxTempTimestamp := none
    minTemp := floatMax
    minTempTimestamp := none }

structure CurrTempStatus where
  temp : ExactFloat
  startTime : ℤ
  repeatCount : ℤ

structure SensorStats where
  tempStatsMap : UnorderedMap String SensorTempStats
  tempRangeInfoMap : UnorderedMap String TempRangeInfo
  tempStuckInfoMap : UnorderedMap String TempStuckInfo
  currTempStatusMap : UnorderedMap String CurrTempStatus

/-- The records of the requests of a sensor, by cooling device. -/
abbrev CdevRequestStats := UnorderedMap String (ThermalStats ℤ)

structure ThermalStatsHelper where
  lastTotalStatsReportTime : ℤ
  abnormalStatsReportedPerUpdateInterval : ℤ
  sensorStats : SensorStats
  sensorCdevRequestStatsMap : UnorderedMap String CdevRequestStats

/-! ## Initialization -/

/-- `change(map[key])`, where a missing value is created first. -/
def changeOrCreate {ν : Type} (m : UnorderedMap String ν) (key : String) (created : ν)
    (change : ν → ν) : UnorderedMap String ν :=
  m.put key (change ((m.lookup key).getD created))

/-- The last states of a device with too many, one bucket for each, and one for all the states before. -/
def compressedThresholds (cdev : String) (maxState : ℤ) : ThresholdList ℤ where
  loggingName := some (cdev ++ "-CMBN-TH")
  thresholds := (List.range kMaxStatsResidencyCount).map fun (index : ℕ) ↦
    maxState - kMaxStatsResidencyCount + 1 + index

/-- The record by all states, for a device that is recorded. A vector of negative size is too long. -/
def addDefaultRequestStats (recorded : Bool) (cdev : String) (maxState nowMs : ℤ)
    (stats : ThermalStats ℤ) : Checked (ThermalStats ℤ) :=
  if !recorded then .ok stats
  else if (kMaxStatsResidencyCount : ℤ) ≤ maxState then
    .ok (stats.addCustom (compressedThresholds cdev maxState) nowMs)
  else if maxState + 1 < 0 then .error .outOfRange
  else .ok { stats with
    statsByDefaultThreshold := some (StatsRecord.create (maxState + 1).toNat 0 nowMs) }

/-- The loop over the custom thresholds of a device, of which the last one must be below the greatest
state. -/
def addCustomRequestStats (maxState nowMs : ℤ) :
    List (ThresholdList ℤ) → ThermalStats ℤ → Checked (Option (ThermalStats ℤ))
  | [], stats => .ok (some stats)
  | thresholdList :: rest, stats =>
    match thresholdList.thresholds.getLast? with
    | none => .error .badIterator
    | some last =>
      if maxState ≤ last then .ok none
      else addCustomRequestStats maxState nowMs rest (stats.addCustom thresholdList nowMs)

/-- One round of the inner loop. A device is entered only when something is recorded for it. -/
def addRequestStats (info : StatsInfo ℤ) (coolingDeviceInfoMap : CdevInfoMap) (nowMs : ℤ)
    (cdev : String) (requestStats : CdevRequestStats) : Checked (Option CdevRequestStats) := do
  let cdevInfo ← atKey coolingDeviceInfoMap cdev
  let stats := (requestStats.lookup cdev).getD noThermalStats
  let recorded := isRecordByDefaultThreshold info.recordByDefaultThreshold cdev
  let stats ← addDefaultRequestStats recorded cdev cdevInfo.maxState nowMs stats
  match info.recordByThreshold.lookup cdev with
  | none => pure (some (if recorded then requestStats.put cdev stats else requestStats))
  | some thresholdLists => do
    let added ← addCustomRequestStats cdevInfo.maxState nowMs thresholdLists stats
    pure (added.map fun stats ↦
      if recorded || !thresholdLists.isEmpty then requestStats.put cdev stats else requestStats)

/-- The loop over the devices that a sensor is bound to. -/
def addSensorRequestStats (info : StatsInfo ℤ) (coolingDeviceInfoMap : CdevInfoMap) (nowMs : ℤ) :
    List String → CdevRequestStats → Checked (Option CdevRequestStats)
  | [], requestStats => .ok (some requestStats)
  | cdev :: rest, requestStats => do
    match ← addRequestStats info coolingDeviceInfoMap nowMs cdev requestStats with
    | none => pure none
    | some requestStats => addSensorRequestStats info coolingDeviceInfoMap nowMs rest requestStats

/-- The loop over the sensors. A refused threshold clears the map, and the helper is not initialized. -/
def addAllRequestStats (info : StatsInfo ℤ) (coolingDeviceInfoMap : CdevInfoMap) (nowMs : ℤ) :
    List SensorEntry → UnorderedMap String CdevRequestStats →
      Checked (Option (UnorderedMap String CdevRequestStats))
  | [], requestStatsMap => .ok (some requestStatsMap)
  | ⟨sensor, sensorInfo⟩ :: rest, requestStatsMap => do
    let throttlingInfo ← deref sensorInfo.throttlingInfo
    let requestStats := (requestStatsMap.lookup sensor).getD ∅
    match ← addSensorRequestStats info coolingDeviceInfoMap nowMs
        throttlingInfo.bindedCdevInfoMap.keys requestStats with
    | none => pure none
    | some requestStats =>
      addAllRequestStats info coolingDeviceInfoMap nowMs rest
        (if requestStats.entries.isEmpty then requestStatsMap
          else requestStatsMap.put sensor requestStats)

def initializeSensorCdevRequestStats (requestStatsInfo : StatsInfo ℤ) (sensorInfoMap : SensorInfoMap)
    (coolingDeviceInfoMap : CdevInfoMap) (nowMs : ℤ) :
    Checked (Option (UnorderedMap String CdevRequestStats)) :=
  addAllRequestStats requestStatsInfo coolingDeviceInfoMap nowMs sensorInfoMap.entries ∅

/-- Only watched sensors have a record by severity. -/
def addTempStats (info : StatsInfo ExactFloat) (nowMs : ℤ)
    (tempStatsMap : UnorderedMap String SensorTempStats)
    (entry : SensorEntry) : UnorderedMap String SensorTempStats :=
  let tempStatsMap :=
    if entry.2.isWatch && isRecordByDefaultThreshold info.recordByDefaultThreshold entry.1 then
      changeOrCreate tempStatsMap entry.1 newSensorTempStats fun stats ↦
        { stats with
          statsByDefaultThreshold := some (StatsRecord.create kThrottlingSeverityCount 0 nowMs) }
    else tempStatsMap
  ((info.recordByThreshold.lookup entry.1).getD []).foldl (fun tempStatsMap thresholdList ↦
    changeOrCreate tempStatsMap entry.1 newSensorTempStats fun stats ↦
      { stats with toThermalStats := stats.toThermalStats.addCustom thresholdList nowMs }) tempStatsMap

def initializeSensorTempStats (sensorStatsInfo : StatsInfo ExactFloat) (sensorInfoMap : SensorInfoMap)
    (nowMs : ℤ) : UnorderedMap String SensorTempStats :=
  sensorInfoMap.entries.foldl (addTempStats sensorStatsInfo nowMs) ∅

/-- What an entry configures is put for each of its sensors. -/
def putForSensors {ι : Type} (infos : List (SensorsInfo ι)) : UnorderedMap String ι :=
  infos.foldl (fun infoMap entry ↦
    entry.sensors.foldl (fun infoMap sensor ↦ infoMap.put sensor entry.info) infoMap) ∅

/-- The default is put for the sensors without an entry of their own. -/
def putDefault {ι : Type} (default : Option ι) (sensors : List String)
    (infoMap : UnorderedMap String ι) : UnorderedMap String ι :=
  match default with
  | none => infoMap
  | some info => sensors.foldl (fun infoMap sensor ↦
      if sensor ∈ infoMap then infoMap else infoMap.put sensor info) infoMap

/-- The status of a sensor before its first temperature. -/
def initialTempStatus : CurrTempStatus := ⟨floatMin, minTimePoint, 0⟩

def initializeSensorAbnormalityStats (abnormalStatsInfo : AbnormalStatsInfo)
    (sensorInfoMap : SensorInfoMap) (tempStatsMap : UnorderedMap String SensorTempStats) : SensorStats :=
  let tempRangeInfoMap := putDefault abnormalStatsInfo.defaultTempRangeInfo sensorInfoMap.keys
    (putForSensors abnormalStatsInfo.sensorsTempRangeInfos)
  let tempStuckInfoMap := putDefault abnormalStatsInfo.defaultTempStuckInfo sensorInfoMap.keys
    (putForSensors abnormalStatsInfo.sensorsTempStuckInfos)
  { tempStatsMap := tempStatsMap
    tempRangeInfoMap := tempRangeInfoMap
    tempStuckInfoMap := tempStuckInfoMap
    currTempStatusMap := mapValues (fun _ _ ↦ initialTempStatus) tempStuckInfoMap }

def nanosPerMilli : ℤ := 1000000

/-- `duration_cast<milliseconds>`, toward zero. -/
def toMillis (nanos : ℤ) : ℤ := nanos.tdiv nanosPerMilli

/-- What the configuration files give for the statistics. -/
structure ParsedStats where
  sensorStatsInfo : StatsInfo ExactFloat
  abnormalStatsInfo : AbnormalStatsInfo
  coolingDeviceRequestInfo : StatsInfo ℤ

def initializeStats (config : ParsedStats) (sensorInfoMap : SensorInfoMap)
    (coolingDeviceInfoMap : CdevInfoMap) (now : ℤ) : Checked (Option ThermalStatsHelper) := do
  let tempStatsMap := initializeSensorTempStats config.sensorStatsInfo sensorInfoMap (toMillis now)
  let requestStatsMap ← initializeSensorCdevRequestStats config.coolingDeviceRequestInfo sensorInfoMap
    coolingDeviceInfoMap (toMillis now)
  pure (requestStatsMap.map fun requestStatsMap ↦
    { lastTotalStatsReportTime := now
      abnormalStatsReportedPerUpdateInterval := 0
      sensorStats :=
        initializeSensorAbnormalityStats config.abnormalStatsInfo sensorInfoMap tempStatsMap
      sensorCdevRequestStatsMap := requestStatsMap })

/-! ## Atoms -/

inductive AbnormalityType where
  | extremeLowTemp
  | extremeHighTemp
  | sensorStuck
deriving DecidableEq

/-- What is sent to the statistics service. The first sensor of a residency atom is the one that is
recorded, the second name the one that is logged. -/
inductive StatsAtom where
  | tempResidency (sensor name : String) (report : StatsReport) (maxTemp : ExactFloat)
      (maxTempTimestamp : Option ℤ) (minTemp : ExactFloat) (minTempTimestamp : Option ℤ)
  | cdevRequest (sensor name : String) (report : StatsReport)
  | abnormality (type : AbnormalityType) (sensor : String) (reading : ℤ)

/-- What a step meets outside: the boot clock in nanoseconds, also after an answer, the system clock,
and the service, which takes an atom or not, whatever has been sent before. -/
structure StatsEnv where
  now : ℤ
  answered : ℤ
  systemNow : ℤ
  hasClient : Bool
  takes : List StatsAtom → StatsAtom → Bool

/-- What a step has sent, and how often the service did not take it. -/
structure Sent where
  atoms : List StatsAtom
  failed : ℕ

def nothingSent : Sent := ⟨[], 0⟩

/-- `time_in_state_ms[cur_state]`. -/
def orBadIndex {α : Type} : Option α → Checked α
  | some x => .ok x
  | none => .error .badIndex

/-! ## Abnormal temperatures -/

def kMaxAbnormalLoggingPerUpdateInterval : ℤ := 20

/-- `1e-4` as a `float`. -/
def kPrecisionThreshold : ExactFloat := .fin (13743895 / 2 ^ 37)

/-- `std::round`, followed by the conversion to `int`. -/
def roundToInt : ExactFloat → ℤ
  | .fin x => toInt (ExactFloat.ofInt (ExactFloat.roundHalfAway x))
  | x => toInt x

/-- The subtraction of two times of 64 bits, as it is compiled: an overflow wraps around. -/
def timeDifference (later earlier : ℤ) : ℤ := Int.bmod (later - earlier) (2 ^ 64)

/-- Times after the boot are subtracted without overflow. -/
theorem timeDifference_of_nonneg {later earlier : ℤ} (hlater : 0 ≤ later) (hlt : later < 2 ^ 63)
    (hearlier : 0 ≤ earlier) (hlt' : earlier < 2 ^ 63) :
    timeDifference later earlier = later - earlier := by
  unfold timeDifference
  rw [Int.bmod_eq_of_le] <;> omega

section Updates

variable (env : StatsEnv)

/-- The number of abnormalities logged in this interval, what is sent, and whether the abnormality counts
as reported; beyond the limit it is dropped. -/
def reportThermalAbnormality (type : AbnormalityType) (sensor : String) (reading logged : ℤ)
    (sent : Sent) : ℤ × Sent × Bool :=
  if kMaxAbnormalLoggingPerUpdateInterval ≤ logged then (logged, sent, true)
  else if !env.hasClient then (logged, sent, false)
  else
    let atom := StatsAtom.abnormality type sensor reading
    if env.takes sent.atoms atom then (logged + 1, ⟨sent.atoms ++ [atom], sent.failed⟩, true)
    else (logged, ⟨sent.atoms ++ [atom], sent.failed + 1⟩, false)

/-- A temperature outside the range of its sensor. -/
def verifyTempRange (sensor : String) (temp : ExactFloat) (info : TempRangeInfo) (logged : ℤ)
    (sent : Sent) : ℤ × Sent :=
  if temp < ExactFloat.ofInt info.minTempThreshold then
    let reported := reportThermalAbnormality env .extremeLowTemp sensor (roundToInt temp) logged sent
    (reported.1, reported.2.1)
  else if ExactFloat.ofInt info.maxTempThreshold < temp then
    let reported := reportThermalAbnormality env .extremeHighTemp sensor (roundToInt temp) logged sent
    (reported.1, reported.2.1)
  else (logged, sent)

def resetCurrentTempStatus (newTemp : ExactFloat) (now : ℤ) : CurrTempStatus := ⟨newTemp, now, 1⟩

/-- A temperature that does not differ from the one that the status began with is counted; enough of
them over a long enough time are reported. -/
def verifyTempStuck (sensor : String) (temp : ExactFloat) (info : TempStuckInfo)
    (status : CurrTempStatus) (logged : ℤ) (sent : Sent) : CurrTempStatus × ℤ × Sent :=
  if ExactFloat.fabs (status.temp - temp) ≤ kPrecisionThreshold then
    let status := { status with repeatCount := wrapInt (status.repeatCount + 1) }
    if info.minPollingCount ≤ status.repeatCount ∧
        info.minStuckDuration ≤ toMillis (timeDifference env.now status.startTime) then
      let reported := reportThermalAbnormality env .sensorStuck sensor (roundToInt temp) logged sent
      (if reported.2.2 then resetCurrentTempStatus temp env.answered else status, reported.1, reported.2.1)
    else (status, logged, sent)
  else (resetCurrentTempStatus temp env.now, logged, sent)

/-- The range of a sensor, if it has one. -/
def verifySensorRange (sensor : String) (temp : ExactFloat) (helper : ThermalStatsHelper) : ℤ × Sent :=
  match helper.sensorStats.tempRangeInfoMap.lookup sensor with
  | none => (helper.abnormalStatsReportedPerUpdateInterval, nothingSent)
  | some info =>
    verifyTempRange env sensor temp info helper.abnormalStatsReportedPerUpdateInterval nothingSent

/-- A missing status would be created with zeros. -/
def verifySensorAbnormality (sensor : String) (temp : ExactFloat) (helper : ThermalStatsHelper) :
    ThermalStatsHelper × Sent :=
  let ranged := verifySensorRange env sensor temp helper
  match helper.sensorStats.tempStuckInfoMap.lookup sensor with
  | none => ({ helper with abnormalStatsReportedPerUpdateInterval := ranged.1 }, ranged.2)
  | some info =>
    let status := (helper.sensorStats.currTempStatusMap.lookup sensor).getD ⟨0, 0, 0⟩
    let verified := verifyTempStuck env sensor temp info status ranged.1 ranged.2
    ({ helper with
      abnormalStatsReportedPerUpdateInterval := verified.2.1
      sensorStats := { helper.sensorStats with
        currTempStatusMap := helper.sensorStats.currTempStatusMap.put sensor verified.1 } },
      verified.2.2)

/-- A sensor without a rule for stuck temperatures has no status to change. -/
theorem verifySensorAbnormality_of_none {sensor : String} {helper : ThermalStatsHelper}
    (hnone : helper.sensorStats.tempStuckInfoMap.lookup sensor = none) (temp : ExactFloat) :
    verifySensorAbnormality env sensor temp helper =
      ({ helper with
        abnormalStatsReportedPerUpdateInterval := (verifySensorRange env sensor temp helper).1 },
      (verifySensorRange env sensor temp helper).2) := by
  unfold verifySensorAbnormality
  rw [hnone]

theorem verifySensorAbnormality_of_some {sensor : String} {helper : ThermalStatsHelper}
    {info : TempStuckInfo} (hinfo : helper.sensorStats.tempStuckInfoMap.lookup sensor = some info)
    {status : CurrTempStatus}
    (hstatus : helper.sensorStats.currTempStatusMap.lookup sensor = some status) (temp : ExactFloat) :
    verifySensorAbnormality env sensor temp helper =
      let ranged := verifySensorRange env sensor temp helper
      let verified := verifyTempStuck env sensor temp info status ranged.1 ranged.2
      ({ helper with
        abnormalStatsReportedPerUpdateInterval := verified.2.1
        sensorStats := { helper.sensorStats with
          currTempStatusMap := helper.sensorStats.currTempStatusMap.put sensor verified.1 } },
      verified.2.2) := by
  unfold verifySensorAbnormality
  rw [hinfo, hstatus]
  rfl

/-- What is watched for abnormal temperatures is apart from the records. -/
theorem verifySensorAbnormality_tempStatsMap (sensor : String) (temp : ExactFloat)
    (helper : ThermalStatsHelper) :
    (verifySensorAbnormality env sensor temp helper).1.sensorStats.tempStatsMap =
      helper.sensorStats.tempStatsMap := by
  unfold verifySensorAbnormality
  dsimp only
  cases helper.sensorStats.tempStuckInfoMap.lookup sensor <;> rfl

theorem verifySensorAbnormality_sensorCdevRequestStatsMap (sensor : String) (temp : ExactFloat)
    (helper : ThermalStatsHelper) :
    (verifySensorAbnormality env sensor temp helper).1.sensorCdevRequestStatsMap =
      helper.sensorCdevRequestStatsMap := by
  unfold verifySensorAbnormality
  dsimp only
  cases helper.sensorStats.tempStuckInfoMap.lookup sensor <;> rfl

/-! ## Updates -/

/-- The records by custom thresholds, with the bucket of a value. -/
def updateCustomStats {α : Type} [ThresholdValue α] (value : α) :
    List (StatsByThreshold α) → Checked (List (StatsByThreshold α))
  | [] => .ok []
  | stats :: rest => do
    let statsRecord ← orBadIndex (updateStats stats.statsRecord
      (calculateThresholdBucket stats.thresholds value) (toMillis env.now))
    let rest ← updateCustomStats value rest
    pure ({ stats with statsRecord := statsRecord } :: rest)

/-- The record by default thresholds, with the state itself. -/
def updateDefaultStats (state : ℤ) : Option StatsRecord → Checked (Option StatsRecord)
  | none => .ok none
  | some statsRecord => do
    let statsRecord ← orBadIndex (updateStats statsRecord state (toMillis env.now))
    pure (some statsRecord)

def updateSensorCdevRequestStats (sensor cdev : String) (newValue : ℤ) (helper : ThermalStatsHelper) :
    Checked ThermalStatsHelper :=
  match helper.sensorCdevRequestStatsMap.lookup sensor with
  | none => .ok helper
  | some requestStats =>
    match requestStats.lookup cdev with
    | none => .ok helper
    | some stats => do
      let custom ← updateCustomStats env newValue stats.statsByCustomThreshold
      let default ← updateDefaultStats env newValue stats.statsByDefaultThreshold
      pure { helper with
        sensorCdevRequestStatsMap := helper.sensorCdevRequestStatsMap.assign sensor
          (requestStats.assign cdev ⟨custom, default⟩) }

/-- The extremes with one more temperature. -/
def SensorTempStats.observe (temperature : ExactFloat) (stats : SensorTempStats) : SensorTempStats :=
  let stats :=
    if stats.maxTemp < temperature then
      { stats with maxTemp := temperature, maxTempTimestamp := some env.systemNow }
    else stats
  if temperature < stats.minTemp then
    { stats with minTemp := temperature, minTempTimestamp := some env.systemNow }
  else stats

def updateSensorTempStatsByThreshold (sensor : String) (temperature : ExactFloat)
    (helper : ThermalStatsHelper) : Checked (ThermalStatsHelper × Sent) :=
  let (helper, sent) := verifySensorAbnormality env sensor temperature helper
  match helper.sensorStats.tempStatsMap.lookup sensor with
  | none => .ok (helper, sent)
  | some stats => do
    let custom ← updateCustomStats env temperature stats.statsByCustomThreshold
    let stats := { stats with statsByCustomThreshold := custom }
    pure ({ helper with
      sensorStats := { helper.sensorStats with
        tempStatsMap := helper.sensorStats.tempStatsMap.assign sensor (stats.observe env temperature) } },
      sent)

def updateSensorTempStatsBySeverity (sensor : String) (severity : ThrottlingSeverity)
    (helper : ThermalStatsHelper) : Checked ThermalStatsHelper :=
  match helper.sensorStats.tempStatsMap.lookup sensor with
  | none => .ok helper
  | some stats => do
    let default ← updateDefaultStats env severity.toNat stats.statsByDefaultThreshold
    pure { helper with
      sensorStats := { helper.sensorStats with
        tempStatsMap := helper.sensorStats.tempStatsMap.assign sensor
          { stats with statsByDefaultThreshold := default } } }

/-! ## Reports -/

def kUpdateIntervalMs : ℤ := 86400000

/-- A record is closed and sent as an atom, and restored if the service does not take it. -/
def reportRecord (atomOf : StatsReport → StatsAtom) (statsRecord : StatsRecord) (sent : Sent) :
    Checked (StatsRecord × Sent) := do
  let processed ← orBadIndex (processStatsRecordForReporting statsRecord (toMillis env.now))
  let atom := atomOf
    ⟨processed.1.curStateStartTime - processed.1.lastStatsReportTime, processed.2⟩
  if env.takes sent.atoms atom then
    pure ({ processed.1 with lastStatsReportTime := toMillis env.answered },
      ⟨sent.atoms ++ [atom], sent.failed⟩)
  else
    pure (restoreStatsRecordOnFailure statsRecord (toMillis env.answered),
      ⟨sent.atoms ++ [atom], sent.failed + 1⟩)

/-- The loop over the records by custom thresholds, each under the name it is logged with. -/
def reportCustomStats {α : Type} (name : String) (atomOf : String → StatsReport → StatsAtom) :
    ℕ → List (StatsByThreshold α) → Sent → Checked (List (StatsByThreshold α) × Sent)
  | _, [], sent => .ok ([], sent)
  | index, stats :: rest, sent => do
    let loggingName := stats.loggingName.getD (name ++ "-TH-" ++ toString index)
    let (statsRecord, sent) ← reportRecord env (atomOf loggingName) stats.statsRecord sent
    let (rest, sent) ← reportCustomStats name atomOf (index + 1) rest sent
    pure ({ stats with statsRecord := statsRecord } :: rest, sent)

def reportThermalStats {α : Type} (name : String) (atomOf : String → StatsReport → StatsAtom)
    (stats : ThermalStats α) (sent : Sent) : Checked (ThermalStats α × Sent) := do
  let (custom, sent) ← reportCustomStats env name atomOf 0 stats.statsByCustomThreshold sent
  match stats.statsByDefaultThreshold with
  | none => pure (⟨custom, none⟩, sent)
  | some statsRecord => do
    let (statsRecord, sent) ← reportRecord env (atomOf name) statsRecord sent
    pure (⟨custom, some statsRecord⟩, sent)

/-- The records of one sensor, after which its extremes start anew, whether they were taken or not. -/
def reportTempStats (sensor : String) (stats : SensorTempStats) (sent : Sent) :
    Checked (SensorTempStats × Sent) := do
  let (records, sent) ← reportThermalStats env sensor
    (fun name report ↦ .tempResidency sensor name report stats.maxTemp stats.maxTempTimestamp
      stats.minTemp stats.minTempTimestamp) stats.toThermalStats sent
  pure ({ stats with toThermalStats := records, maxTemp := floatMin, minTemp := floatMax }, sent)

def reportAllSensorTempStats (tempStatsMap : UnorderedMap String SensorTempStats) (sent : Sent) :
    Checked (UnorderedMap String SensorTempStats × Sent) :=
  assignEachWith (reportTempStats env) tempStatsMap sent

def reportSensorRequestStats (sensor : String) (requestStats : CdevRequestStats) (sent : Sent) :
    Checked (CdevRequestStats × Sent) :=
  assignEachWith (fun cdev ↦ reportThermalStats env cdev (.cdevRequest sensor)) requestStats sent

def reportAllSensorCdevRequestStats (requestStatsMap : UnorderedMap String CdevRequestStats)
    (sent : Sent) : Checked (UnorderedMap String CdevRequestStats × Sent) :=
  assignEachWith (reportSensorRequestStats env) requestStatsMap sent

/-- The interval is over and there is a service. -/
def reportIsDue (helper : ThermalStatsHelper) : Bool :=
  kUpdateIntervalMs ≤ toMillis (timeDifference env.now helper.lastTotalStatsReportTime) && env.hasClient

def ThermalStatsHelper.reportStats (helper : ThermalStatsHelper) : Checked (ThermalStatsHelper × Sent) :=
  if reportIsDue env helper then do
    let (tempStatsMap, sent) ← reportAllSensorTempStats env helper.sensorStats.tempStatsMap nothingSent
    let (requestStatsMap, sent) ←
      reportAllSensorCdevRequestStats env helper.sensorCdevRequestStatsMap sent
    pure ({ helper with
      sensorStats := { helper.sensorStats with tempStatsMap := tempStatsMap }
      sensorCdevRequestStatsMap := requestStatsMap
      lastTotalStatsReportTime := env.now
      abnormalStatsReportedPerUpdateInterval := 0 }, sent)
  else .ok (helper, nothingSent)

end Updates

/-! ## Steps -/

inductive StatsHelperStep where
  | temperature (env : StatsEnv) (sensor : String) (temperature : ExactFloat)
  | severity (env : StatsEnv) (sensor : String) (severity : ThrottlingSeverity)
  | request (env : StatsEnv) (sensor cdev : String) (value : ℤ)
  | report (env : StatsEnv)

def ThermalStatsHelper.step (helper : ThermalStatsHelper) :
    StatsHelperStep → Checked (ThermalStatsHelper × List StatsAtom)
  | .temperature env sensor temperature => do
    let (helper, sent) ← updateSensorTempStatsByThreshold env sensor temperature helper
    pure (helper, sent.atoms)
  | .severity env sensor severity => do
    let helper ← updateSensorTempStatsBySeverity env sensor severity helper
    pure (helper, [])
  | .request env sensor cdev value => do
    let helper ← updateSensorCdevRequestStats env sensor cdev value helper
    pure (helper, [])
  | .report env => do
    let (helper, sent) ← helper.reportStats env
    pure (helper, sent.atoms)

section Changes

variable {env : StatsEnv} {helper helper' : ThermalStatsHelper} {sensor : String}

/-- A severity changes the default statistics of its sensor, if anything. -/
theorem updateSensorTempStatsBySeverity_cases {severity : ThrottlingSeverity}
    (hupdate : updateSensorTempStatsBySeverity env sensor severity helper = .ok helper') :
    helper' = helper ∨
      ∃ stats default, helper.sensorStats.tempStatsMap.lookup sensor = some stats ∧
        helper' = { helper with
          sensorStats := { helper.sensorStats with
            tempStatsMap := helper.sensorStats.tempStatsMap.assign sensor
              { stats with statsByDefaultThreshold := default } } } := by
  unfold updateSensorTempStatsBySeverity at hupdate
  cases hstats : helper.sensorStats.tempStatsMap.lookup sensor with
  | none =>
    rw [hstats] at hupdate
    exact Or.inl (Except.ok.inj hupdate).symm
  | some stats =>
    rw [hstats] at hupdate
    obtain ⟨default, -, hupdate⟩ := bind_eq_ok.mp hupdate
    exact Or.inr ⟨stats, default, rfl, (Except.ok.inj hupdate).symm⟩

/-- A request changes no statistics of temperatures. -/
theorem updateSensorCdevRequestStats_sensorStats {cdev : String} {newValue : ℤ}
    (hupdate : updateSensorCdevRequestStats env sensor cdev newValue helper = .ok helper') :
    helper'.sensorStats = helper.sensorStats := by
  unfold updateSensorCdevRequestStats at hupdate
  split at hupdate
  · rw [Except.ok.inj hupdate]
  · split at hupdate
    · rw [Except.ok.inj hupdate]
    · obtain ⟨custom, -, hupdate⟩ := bind_eq_ok.mp hupdate
      obtain ⟨default, -, hupdate⟩ := bind_eq_ok.mp hupdate
      rw [← Except.ok.inj hupdate]

/-- A report changes no more of them than the counters. -/
theorem reportStats_sensorStats {sent : Sent}
    (hreport : helper.reportStats env = .ok (helper', sent)) :
    ∃ tempStatsMap, helper'.sensorStats =
      { helper.sensorStats with tempStatsMap := tempStatsMap } := by
  unfold ThermalStatsHelper.reportStats at hreport
  split at hreport
  · obtain ⟨⟨tempStatsMap, middle⟩, -, hreport⟩ := bind_eq_ok.mp hreport
    obtain ⟨⟨requestStatsMap, final⟩, -, hreport⟩ := bind_eq_ok.mp hreport
    obtain ⟨rfl, -⟩ := ok_pair hreport
    exact ⟨tempStatsMap, rfl⟩
  · obtain ⟨rfl, -⟩ := ok_pair hreport
    exact ⟨helper.sensorStats.tempStatsMap, rfl⟩

end Changes

end HardwareMediatek.Thermal
