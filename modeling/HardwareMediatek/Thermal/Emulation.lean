import HardwareMediatek.Foundation.Checked
import HardwareMediatek.Thermal.ParseThrottling
import HardwareMediatek.Thermal.Reading

/-!
# Emulated temperatures

A temperature or a severity can be emulated for a sensor until the emulation is cleared. Watched virtual
sensors that link the sensor, those that link these, and so on, are marked for an update in the next
pass. The links may form a cycle, so this recursion is given fuel.
-/

namespace HardwareMediatek.Thermal

/-- `sensor_status_map_.at(name).override_status` is changed. -/
def changeOverride (name : String) (change : OverrideStatus → OverrideStatus)
    (sensorStatusMap : SensorStatusMap) : Except Halt SensorStatusMap :=
  match sensorStatusMap.lookup name with
  | none => .error (.fault .outOfRange)
  | some status =>
    .ok (sensorStatusMap.assign name { status with overrideStatus := change status.overrideStatus })

/-- A watched virtual sensor that links the target. -/
def SensorInfo.isRelatedTo (info : SensorInfo) (targetSensor : String) : Bool :=
  info.isWatch && info.virtualSensorInfo.any fun virtualInfo ↦ targetSensor ∈ virtualInfo.linkedSensors

/-- The update of a sensor is pending. -/
def pendUpdate (maxThrottling : Bool) (override : OverrideStatus) : OverrideStatus :=
  { override with maxThrottling := maxThrottling, pendingUpdate := true }

def checkUpdateSensorForEmul (sensorInfoMap : SensorInfoMap) (maxThrottling : Bool) :
    ℕ → String → SensorStatusMap → Except Halt SensorStatusMap
  | 0, _, _ => .error .outOfFuel
  | fuel + 1, targetSensor, sensorStatusMap =>
    sensorInfoMap.entries.foldlM (fun sensorStatusMap entry ↦
      if entry.2.isRelatedTo targetSensor then do
        let sensorStatusMap ← changeOverride entry.1 (pendUpdate maxThrottling) sensorStatusMap
        checkUpdateSensorForEmul sensorInfoMap maxThrottling fuel entry.1 sensorStatusMap
      else pure sensorStatusMap) sensorStatusMap

section Commands

variable (sensorInfoMap : SensorInfoMap) (fuel : ℕ) (sensorStatusMap : SensorStatusMap)

/-- What the commands have in common: the override of the target is replaced, and what is related to
the target is marked. -/
def overrideTarget (targetSensor : String) (override : OverrideStatus) :
    Except Halt SensorStatusMap := do
  let sensorStatusMap ← changeOverride targetSensor (fun _ ↦ override) sensorStatusMap
  checkUpdateSensorForEmul sensorInfoMap override.maxThrottling fuel targetSensor sensorStatusMap

/-- False for a sensor that is not known. -/
def emulTemp (targetSensor : String) (temp : ExactFloat) (maxThrottling : Bool) :
    Except Halt (SensorStatusMap × Bool) :=
  if targetSensor ∈ sensorStatusMap then do
    let sensorStatusMap ← overrideTarget sensorInfoMap fuel sensorStatusMap targetSensor
      ⟨some ⟨temp, none⟩, maxThrottling, true⟩
    pure (sensorStatusMap, true)
  else .ok (sensorStatusMap, false)

/-- The index of a `ThrottlingArray`. -/
def throttlingIndex (severity : ℤ) : Option ThrottlingSeverity :=
  if 0 ≤ severity then ThrottlingSeverity.all[severity.toNat]? else none

/-- The emulated temperature is the hot threshold of the severity. -/
def emulSeverity (targetSensor : String) (severity : ℤ) (maxThrottling : Bool) :
    Except Halt (SensorStatusMap × Bool) :=
  match sensorStatusMap.lookup targetSensor, sensorInfoMap.lookup targetSensor with
  | some _, some info =>
    if (kThrottlingSeverityCount : ℤ) < severity then .ok (sensorStatusMap, false)
    else
      match throttlingIndex severity with
      | none => .error (.fault .badIndex)
      | some index => do
        let temp := info.hotThresholds index / info.multiplier
        let sensorStatusMap ← overrideTarget sensorInfoMap fuel sensorStatusMap targetSensor
          ⟨some ⟨temp, some index⟩, maxThrottling, true⟩
        pure (sensorStatusMap, true)
  | _, _ => .ok (sensorStatusMap, false)

/-- Nothing is emulated, and the sensor is updated in the next pass. -/
def clearedOverride : OverrideStatus := ⟨none, false, true⟩

def emulClear (targetSensor : String) : Except Halt (SensorStatusMap × Bool) :=
  if targetSensor = "all" then do
    let sensorStatusMap ← sensorStatusMap.keys.foldlM (fun sensorStatusMap name ↦
      overrideTarget sensorInfoMap fuel sensorStatusMap name clearedOverride) sensorStatusMap
    pure (sensorStatusMap, true)
  else if targetSensor ∈ sensorStatusMap then do
    let sensorStatusMap ←
      overrideTarget sensorInfoMap fuel sensorStatusMap targetSensor clearedOverride
    pure (sensorStatusMap, true)
  else .ok (sensorStatusMap, false)

end Commands

end HardwareMediatek.Thermal
