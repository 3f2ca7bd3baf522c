import HardwareMediatek.Foundation.Acceptance
import HardwareMediatek.Foundation.MarkPass
import HardwareMediatek.Thermal.Registration
import HardwareMediatek.Thermal.Watcher

/-!
# Construction of the helper

The constructor visits every sensor once, in the order of the map. A visit registers the throttling of
the sensor, checks the names that a virtual sensor uses, and marks sensors as watched: the trigger
sensors of a virtual sensor that is watched by then, and the sensors its severity refers to. A name
that is missing ends the construction, at once or after the loop.

What is parsed and read before the loop is summed up by whether all of it succeeded. The trip points and the
watcher thread come after the loop and change nothing of what is constructed; that the construction can still
fail there, also at a lookup of the trip points, is left out.
-/

namespace HardwareMediatek.Thermal

open UnorderedMap Foundation

/-- What the constructor meets. -/
structure ConstructorInput where
  sensorInfoMap : SensorInfoMap
  coolingDeviceInfoMap : CdevInfoMap
  sysfs : CdevSysfs
  powerRailInfoMap : UnorderedMap String PowerRailInfo
  energyInfoMap : UnorderedMap String PowerSample
  powerRailSwitchMap : UnorderedMap String (List String)
  predictionCounts : String → Option ℕ
  thermalThrottlingDisabled : Bool
  prepared : Bool

/-- What is constructed. -/
structure Construction where
  sensorInfoMap : SensorInfoMap
  coolingDeviceInfoMap : CdevInfoMap
  sensorStatusMap : SensorStatusMap
  throttling : ThermalThrottling
  powerFiles : PowerFiles
  ret : Bool

/-! ## The checks of a visit -/

def isSubSensorValid (sensorInfoMap : SensorInfoMap) (powerStatusMap : PowerStatusMap)
    (sensorData : String) : SensorFusionType → Bool
  | .sensor => decide (sensorData ∈ sensorInfoMap)
  | .odpm => decide (sensorData ∈ powerStatusMap)
  | .constant | .cdev => true

/-- The linked sensors are checked with their types up to the first one that is not valid. -/
def linkedSensorsValid (sensorInfoMap : SensorInfoMap) (powerStatusMap : PowerStatusMap) :
    List String → List SensorFusionType → Checked Bool
  | [], _ => .ok true
  | _ :: _, [] => .error .badIndex
  | sensor :: rest, type :: types =>
    if isSubSensorValid sensorInfoMap powerStatusMap sensor type then
      linkedSensorsValid sensorInfoMap powerStatusMap rest types
    else .ok false

/-- The sensors become watched, up to the first one that does not exist. -/
def markSensors : List String → SensorInfoMap → SensorInfoMap × Bool
  | [], sensorInfoMap => (sensorInfoMap, true)
  | sensor :: rest, sensorInfoMap =>
    match sensorInfoMap.lookup sensor with
    | some info => markSensors rest (sensorInfoMap.assign sensor { info with isWatch := true })
    | none => (sensorInfoMap, false)

/-- An estimator exists for these formulas. -/
def VirtualSensorInfo.hasEstimator (virtualInfo : VirtualSensorInfo) : Bool :=
  virtualInfo.formula = .useMlModel || virtualInfo.formula = .useLinearModel

/-- The predictor of a compensation is a sensor whose estimator makes as many predictions as there are
weights. -/
def predictorValid (predictionCounts : String → Option ℕ) (infoOf : String → Option SensorInfo)
    (info : SensorInfo) : Bool :=
  match info.predictorInfo with
  | none => true
  | some predictorInfo =>
    if predictorInfo.supportPidCompensation then
      match (infoOf predictorInfo.sensor).bind SensorInfo.virtualSensorInfo with
      | none => false
      | some virtualInfo =>
        virtualInfo.hasEstimator &&
          predictionCounts predictorInfo.sensor = some predictorInfo.predictionWeights.length
    else true

/-! ## A visit -/

/-- The throttling of a sensor, if it has one, is registered, and its ceilings are cut down. -/
def registerSensor (name : String) (info : SensorInfo) (s : Construction) :
    Checked (Flow Construction) :=
  match info.throttlingInfo with
  | none => .ok (.next s)
  | some throttlingInfo =>
    match registerThermalThrottling s.throttling name (some throttlingInfo)
      s.coolingDeviceInfoMap with
    | (throttling, false) => .ok (.stop { s with throttling := throttling, ret := false })
    | (throttling, true) => do
      let throttlingInfo ← checkCeilings s.coolingDeviceInfoMap throttlingInfo
      pure (.next { s with
        sensorInfoMap :=
          s.sensorInfoMap.assign name { info with throttlingInfo := some throttlingInfo }
        throttling := throttling })

/-- The settings of a virtual sensor. Of the names that are missing only that of the backup sensor
leaves the loop. -/
def checkVirtualSensor (input : ConstructorInput) (name : String) (info : SensorInfo)
    (virtualInfo : VirtualSensorInfo) (s : Construction) : Checked (Flow Construction) := do
  let linked ← linkedSensorsValid s.sensorInfoMap s.powerFiles.powerStatusMap
    virtualInfo.linkedSensors virtualInfo.linkedSensorsType
  if virtualInfo.backupSensor ≠ "" ∧ !isSubSensorValid s.sensorInfoMap s.powerFiles.powerStatusMap
      virtualInfo.backupSensor .sensor then
    pure (.stop { s with ret := false })
  else do
    let triggers :=
      markSensors (if info.isWatch then virtualInfo.triggerSensors else []) s.sensorInfoMap
    let references := markSensors info.severityReference triggers.1
    let powerFiles ← switchPowerRails false
      ((input.powerRailSwitchMap.lookup name).getD []) s.powerFiles
    pure (.next { s with
      sensorInfoMap := references.1
      powerFiles := powerFiles
      ret := s.ret && linked && triggers.2 && references.2 })

def checkSettings (input : ConstructorInput) (name : String) (info : SensorInfo) (s : Construction) :
    Checked (Flow Construction) :=
  match info.virtualSensorInfo with
  | some virtualInfo => checkVirtualSensor input name info virtualInfo s
  | none => .ok (.next s)

def checkPredictor (input : ConstructorInput) (info : SensorInfo) (s : Construction) :
    Flow Construction :=
  if predictorValid input.predictionCounts s.sensorInfoMap.lookup info then .next s
  else .stop { s with ret := false }

/-- One round of the loop over the sensors. -/
def constructSensor (input : ConstructorInput) (name : String) (s : Construction) :
    Checked (Flow Construction) := do
  let info ← atKey s.sensorInfoMap name
  match ← registerSensor name info
    { s with sensorStatusMap := s.sensorStatusMap.put name default } with
  | .next s =>
    match ← checkSettings input name info s with
    | .next s => pure (checkPredictor input info s)
    | flow => pure flow
  | flow => pure flow

/-! ## The constructor -/

/-- The cooling devices and the power rails before the loop. -/
def ConstructorInput.resources (input : ConstructorInput) : Option (CdevInfoMap × PowerFiles) := do
  let devices ← initializeThrottlingMap input.sysfs input.coolingDeviceInfoMap
  let powerStatusMap ← registerPowerRails input.energyInfoMap input.powerRailInfoMap.entries ∅
  some (devices.1, ⟨input.powerRailInfoMap, powerStatusMap⟩)

def ConstructorInput.start (input : ConstructorInput) (devices : CdevInfoMap) (files : PowerFiles) :
    Construction where
  sensorInfoMap := input.sensorInfoMap
  coolingDeviceInfoMap := devices
  sensorStatusMap := ∅
  throttling := .empty
  powerFiles := files
  ret := true

/-- A sensor after `clearAllThrottling`. -/
def SensorInfo.cleared (info : SensorInfo) : SensorInfo :=
  { info with
    isWatch := false
    throttlingInfo := none
    hotThresholds := unsetArray
    coldThresholds := unsetArray }

/-- Every sensor after `clearAllThrottling`. -/
def Construction.cleared (s : Construction) : Construction :=
  { s with sensorInfoMap := mapValues (fun _ ↦ SensorInfo.cleared) s.sensorInfoMap }

/-- The helper, if the constructor accepts the configuration. When throttling is disabled, nothing is
watched. -/
def construct (input : ConstructorInput) : Checked (Option Construction) :=
  match input.resources with
  | none => .ok none
  | some (devices, files) =>
    if input.prepared ∧ ∀ sensor ∈ input.powerRailSwitchMap.keys, sensor ∈ input.sensorInfoMap then do
      let flow ← iterate (constructSensor input) input.sensorInfoMap.keys (input.start devices files)
      if flow.state.ret then
        if input.thermalThrottlingDisabled then do
          let _ ← clearAllThrottling flow.state.coolingDeviceInfoMap
          pure (some flow.state.cleared)
        else pure (some flow.state)
      else pure none
    else .ok none

end HardwareMediatek.Thermal
