import HardwareMediatek.Thermal.CoolingDevices
import HardwareMediatek.Thermal.PowerFiles
import HardwareMediatek.Thermal.SensorStatus

/-!
# A pass of the watcher

The watcher thread goes over all sensors, reads the watched ones that are due,
notifies changes of their severity, and brings the throttling up to date. Each
sensor votes for the time until the next pass, and the shortest vote wins. A
sensor that is due but cannot be read casts no vote.

Reading a sensor is a parameter here: what it returns, and what it does to the
statuses of the sensors. Statistics and logging are left out.
-/

namespace HardwareMediatek.Thermal

open UnorderedMap

/-- What changes during a pass. -/
structure PassState where
  sensorStatusMap : SensorStatusMap
  throttling : ThermalThrottling
  powerFiles : PowerFiles
  powerDataIsUpdated : Bool
  temps : List Temperature
  coolingDevicesToUpdate : List String
  minSleepMs : ℤ

/-- What a pass is called with, and what it meets: the outcome of the readings, of the samples of the
power rails, of the predictions and of the writes to the cooling devices. -/
structure PassEnv where
  sensorInfoMap : SensorInfoMap
  coolingDeviceInfoMap : CdevInfoMap
  powerRailSwitchMap : UnorderedMap String (List String)
  ueventSensorMap : UnorderedMap String ExactFloat
  now : ℤ
  readTemperature : PassState → String → Bool →
    Checked (SensorReadStatus × Temperature × SensorStatusMap)
  refreshPowerStatus : PowerFiles → PowerFiles
  readTemperaturePredictions : String → List ExactFloat
  profileProperty : String → String
  writeSucceeds : ℕ → Bool

/-! ## When a sensor is due -/

/-- The delay of a sensor by its own severity. -/
def severityDelay (info : SensorInfo) (severity : ThrottlingSeverity) : ℤ :=
  if severity ≠ .none then info.passiveDelay else info.pollingDelay

/-- Some trigger sensor has a severity. -/
def isTriggered (sensorStatusMap : SensorStatusMap) : List String → Checked Bool
  | [] => .ok false
  | sensor :: rest => do
    let status ← atKey sensorStatusMap sensor
    if status.severity ≠ .none then pure true else isTriggered sensorStatusMap rest

/-- The delay of a sensor: a virtual sensor also takes the passive one while a trigger sensor has a
severity. -/
def sleepDelay (sensorStatusMap : SensorStatusMap) (info : SensorInfo) (status : SensorStatus) :
    Checked ℤ :=
  match info.virtualSensorInfo with
  | some virtualInfo => do
    let triggered ← isTriggered sensorStatusMap virtualInfo.triggerSensors
    pure (if triggered then info.passiveDelay else severityDelay info status.severity)
  | none => .ok (severityDelay info status.severity)

/-- Why a sensor is updated in a pass. -/
structure UpdateCause where
  forceUpdate : Bool
  forceNoCache : Bool
  timeElapsedMs : ℤ

/-- An event is for a virtual sensor when it is for one of its trigger sensors. A temperature that
comes with the event of a physical sensor is in the cache already. -/
def eventCause (ueventSensorMap : UnorderedMap String ExactFloat) (name : String)
    (info : SensorInfo) (timeElapsedMs : ℤ) : UpdateCause :=
  match info.virtualSensorInfo with
  | some virtualInfo =>
    ⟨virtualInfo.triggerSensors.any fun sensor ↦ decide (sensor ∈ ueventSensorMap), false,
      timeElapsedMs⟩
  | none =>
    match ueventSensorMap.lookup name with
    | some temp => ⟨true, temp.isNaN, timeElapsedMs⟩
    | none => ⟨false, false, timeElapsedMs⟩

/-- Whether the sensor is due: it never was updated, there is an event for it, or in a pass without
events its delay is over. -/
def updateCause (env : PassEnv) (name : String) (info : SensorInfo) (status : SensorStatus)
    (sleepMs : ℤ) : UpdateCause :=
  match status.lastUpdateTime with
  | none => ⟨true, false, 0⟩
  | some time =>
    let timeElapsedMs := elapsedMs env.now time
    if env.ueventSensorMap.entries ≠ [] then
      eventCause env.ueventSensorMap name info timeElapsedMs
    else ⟨decide (sleepMs < timeElapsedMs), false, timeElapsedMs⟩

/-! ## One sensor -/

/-- `power_rail_switch_map_`: the rails of the sensor are sampled while it has a severity. -/
def switchPowerRails (enabled : Bool) (targetRails : List String) (files : PowerFiles) :
    Checked PowerFiles :=
  forEach (fun rail files ↦ powerSamplingSwitch rail enabled files) targetRails files

/-- The locked part that notifies a change of the severity, and the delay after it. -/
def notifySensor (env : PassEnv) (name : String) (info : SensorInfo) (temp : Temperature)
    (sleepMs : ℤ) (s : PassState) : Checked (PassState × ℤ) := do
  let status ← atKey s.sensorStatusMap name
  if status.pendingNotification then
    let powerFiles ← switchPowerRails (status.severity ≠ .none)
      ((env.powerRailSwitchMap.lookup name).getD []) s.powerFiles
    pure ({ s with
      sensorStatusMap := s.sensorStatusMap.assign name { status with pendingNotification := false }
      powerFiles := powerFiles
      temps := s.temps ++ [temp] }, severityDelay info status.severity)
  else pure (s, sleepMs)

/-- The predictions for the compensation; none when the sensor does not support it. -/
def predictionsFor (env : PassEnv) (name : String) (info : SensorInfo) : List ExactFloat :=
  match info.predictorInfo with
  | some predictor =>
    if predictor.supportPidCompensation then env.readTemperaturePredictions name else []
  | none => []

/-- The requests of a sensor: forgotten without a severity, and updated with one. -/
def updateRequests (env : PassEnv) (name : String) (info : SensorInfo) (temp : Temperature)
    (timeElapsedMs : ℤ) (maxThrottling : Bool) (currSeverity : ThrottlingSeverity)
    (powerStatusMap : PowerStatusMap) (throttling : ThermalThrottling) : Checked ThermalThrottling :=
  if currSeverity = .none then .ok (clearThrottlingData throttling name)
  else
    thermalThrottlingUpdate throttling {
      temp := temp
      sensorInfo := info
      currSeverity := currSeverity
      timeElapsedMs := timeElapsedMs
      powerStatusMap := powerStatusMap
      coolingDeviceInfoMap := env.coolingDeviceInfoMap
      maxThrottling := maxThrottling
      sensorPredictions := predictionsFor env name info
      profileProperty := env.profileProperty name
      round := binary32.round }

/-- The throttling of a sensor that was read. The power data are refreshed once in a pass. -/
def throttleSensor (env : PassEnv) (name : String) (info : SensorInfo) (temp : Temperature)
    (timeElapsedMs : ℤ) (maxThrottling : Bool) (s : PassState) : Checked PassState := do
  let status ← atKey s.sensorStatusMap name
  let powerFiles := if s.powerDataIsUpdated then s.powerFiles else env.refreshPowerStatus s.powerFiles
  let throttling ← updateRequests env name info temp timeElapsedMs maxThrottling status.severity
    powerFiles.powerStatusMap s.throttling
  let (throttling, updated) ← computeCoolingDevicesRequest throttling name info status.severity
  pure { s with
    sensorStatusMap :=
      s.sensorStatusMap.assign name { status with lastUpdateTime := some env.now }
    throttling := throttling
    powerFiles := powerFiles
    powerDataIsUpdated := true
    coolingDevicesToUpdate := s.coolingDevicesToUpdate ++ updated }

/-- A sensor that is due: read it, notify a change, and throttle. It votes for its delay, unless the
reading fails or is under collecting. -/
def updateSensor (env : PassEnv) (name : String) (info : SensorInfo) (cause : UpdateCause)
    (maxThrottling : Bool) (sleepMs : ℤ) (s : PassState) : Checked (PassState × Option ℤ) := do
  let (ret, temp, sensorStatusMap) ← env.readTemperature s name cause.forceNoCache
  let s := { s with sensorStatusMap := sensorStatusMap }
  match ret with
  | .error | .underCollecting => pure (s, none)
  | .okay =>
    let (s, sleepMs) ← notifySensor env name info temp sleepMs s
    let s ← throttleSensor env name info temp cause.timeElapsedMs maxThrottling s
    pure (s, some sleepMs)

/-- A watched sensor, and its vote for the time until the next pass. -/
def watchSensor (env : PassEnv) (name : String) (info : SensorInfo) (s : PassState) :
    Checked (PassState × Option ℤ) := do
  let status ← atKey s.sensorStatusMap name
  let sleepMs ← sleepDelay s.sensorStatusMap info status
  let cause := updateCause env name info status sleepMs
  let override := status.overrideStatus
  let s := { s with
    sensorStatusMap := s.sensorStatusMap.assign name
      { status with overrideStatus := { override with pendingUpdate := false } } }
  if cause.forceUpdate || override.pendingUpdate then
    updateSensor env name info cause override.maxThrottling sleepMs s
  else pure (s, some (sleepMs - cause.timeElapsedMs))

/-- One round of the loop over the sensors, and the vote of the sensor. -/
def visitSensor (env : PassEnv) (name : String) (s : PassState) :
    Checked (PassState × Option ℤ) := do
  let info ← atKey env.sensorInfoMap name
  if info.isWatch then watchSensor env name info s else pure (s, none)

/-- The shortest vote wins. -/
def castVote (s : PassState) (vote : Option ℤ) : PassState :=
  match vote with
  | some sleepMs => if sleepMs < s.minSleepMs then { s with minSleepMs := sleepMs } else s
  | none => s

theorem castVote_sensorStatusMap (s : PassState) (vote : Option ℤ) :
    (castVote s vote).sensorStatusMap = s.sensorStatusMap := by
  unfold castVote
  split
  · split <;> rfl
  · rfl

/-! ## The whole pass -/

/-- A temperature that comes with an event is cached. -/
def cacheEvent (now : ℤ) (sensorStatusMap : SensorStatusMap)
    (event : Sigma fun _ : String ↦ ExactFloat) : SensorStatusMap :=
  if event.2.isNaN then sensorStatusMap
  else
    sensorStatusMap.put event.1
      { (sensorStatusMap.lookup event.1).getD default with thermalCached := ⟨event.2, some now⟩ }

/-- The loop over the sensors. -/
def visitSensors (env : PassEnv) (names : List String) (s : PassState) : Checked PassState :=
  forEach (fun name s ↦ do
    let (s, vote) ← visitSensor env name s
    pure (castVote s vote)) names s

/-- What a pass does outside: the temperatures it reports to the callback and to the power HAL, and
its writes to the cooling devices. -/
structure PassOutput where
  callbacks : List Temperature
  powerhints : List Temperature
  writes : List CdevWrite

/-- The report of one change of a severity. -/
def reportTemp (sensorInfoMap : SensorInfoMap) (temp : Temperature) (out : PassOutput) :
    Checked PassOutput := do
  let info ← atKey sensorInfoMap temp.name
  pure { out with
    callbacks := if info.sendCb then out.callbacks ++ [temp] else out.callbacks
    powerhints := if info.sendPowerhint then out.powerhints ++ [temp] else out.powerhints }

/-- The start of a pass: nothing is updated, reported or voted for yet. -/
def startPass (env : PassEnv) (sensorStatusMap : SensorStatusMap) (throttling : ThermalThrottling)
    (powerFiles : PowerFiles) : PassState where
  sensorStatusMap := env.ueventSensorMap.entries.foldl (cacheEvent env.now) sensorStatusMap
  throttling := throttling
  powerFiles := powerFiles
  powerDataIsUpdated := false
  temps := []
  coolingDevicesToUpdate := []
  minSleepMs := maxMilliseconds

/-- A pass ends with the state it leaves and what it does outside; the interval that it returns is
`minSleepMs`. -/
def thermalWatcherCallbackFunc (env : PassEnv) (sensorStatusMap : SensorStatusMap)
    (throttling : ThermalThrottling) (powerFiles : PowerFiles) :
    Checked (PassState × PassOutput) := do
  let start := startPass env sensorStatusMap throttling powerFiles
  let s ← visitSensors env start.sensorStatusMap.keys start
  let out ← forEach (reportTemp env.sensorInfoMap) s.temps ⟨[], [], []⟩
  let writes ← updateCoolingDevices env.coolingDeviceInfoMap s.throttling.cdevAllRequestMap
    env.writeSucceeds s.coolingDevicesToUpdate
  pure (s, { out with writes := writes })

end HardwareMediatek.Thermal
