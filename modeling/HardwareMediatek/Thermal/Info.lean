import HardwareMediatek.Foundation.ExactFloat
import HardwareMediatek.Foundation.Numerals
import HardwareMediatek.Foundation.UnorderedMap

/-!
# Sensors, cooling devices and power rails

The records that the configuration is parsed into and that the thermal helper
works with. A `float` is an `ExactFloat`, an `int` or a duration in
milliseconds an integer, an unordered map a map with an iteration order, and a
pointer that may be null an `Option`. The temperature and cooling-device types
belong to the AIDL interface and are kept under the names it gives them.
-/

namespace HardwareMediatek.Thermal

inductive ThrottlingSeverity where
  | none
  | light
  | moderate
  | severe
  | critical
  | emergency
  | shutdown
deriving DecidableEq, Repr

namespace ThrottlingSeverity

/-- `enum_range<ThrottlingSeverity>()`. -/
def all : List ThrottlingSeverity := [none, light, moderate, severe, critical, emergency, shutdown]

/-- The index of a severity in a `ThrottlingArray`. -/
def toNat : ThrottlingSeverity → ℕ
  | none => 0
  | light => 1
  | moderate => 2
  | severe => 3
  | critical => 4
  | emergency => 5
  | shutdown => 6

theorem toNat_injective : Function.Injective toNat := by
  intro a b h
  cases a <;> cases b <;> first | rfl | cases h

instance : LinearOrder ThrottlingSeverity := LinearOrder.lift' toNat toNat_injective

instance : Inhabited ThrottlingSeverity := ⟨none⟩

@[simp]
theorem mem_all (severity : ThrottlingSeverity) : severity ∈ all := by
  cases severity <;> decide

theorem nodup_all : all.Nodup := by decide

theorem none_le (severity : ThrottlingSeverity) : none ≤ severity := by
  cases severity <;> decide

end ThrottlingSeverity

/-- One `float` for every severity. -/
abbrev ThrottlingArray := ThrottlingSeverity → ExactFloat

/-- One `int` for every severity. -/
abbrev CdevArray := ThrottlingSeverity → ℤ

/-- No value is configured for any severity. -/
def unsetArray : ThrottlingArray := fun _ ↦ .nan

/-- `kMinPollIntervalMs`. -/
def kMinPollIntervalMs : ℤ := 2000

/-- `kUeventPollTimeoutMs`. -/
def kUeventPollTimeoutMs : ℤ := 300000

inductive FormulaOption where
  | countThreshold
  | weightedAvg
  | maximum
  | minimum
  | useMlModel
  | useLinearModel
  | previouslyPredicted
deriving DecidableEq, Repr

inductive SensorFusionType where
  | sensor
  | odpm
  | constant
  | cdev
deriving DecidableEq, Repr

inductive SensorReadStatus where
  | okay
  | underCollecting
  | error
deriving DecidableEq, Repr

structure VirtualSensorInfo where
  linkedSensors : List String
  linkedSensorsType : List SensorFusionType
  coefficients : List String
  coefficientsType : List SensorFusionType
  offset : ExactFloat
  triggerSensors : List String
  formula : FormulaOption
  vtEstimatorModelFile : String
  backupSensor : String
deriving DecidableEq

structure PredictorInfo where
  sensor : String
  supportPidCompensation : Bool
  predictionWeights : List ExactFloat
  kPCompensate : ThrottlingArray
  supportsPredictions : Bool
  predictionSampleInterval : ℤ
  numPredictionSamples : ℤ
  predictionDuration : ℤ

structure VirtualPowerRailInfo where
  linkedPowerRails : List String
  coefficients : List ExactFloat
  offset : ExactFloat
  formula : FormulaOption

/-- What happens when the power of a rail is below its threshold. -/
inductive ReleaseLogic where
  | increase
  | decrease
  | stepwise
  | releaseToFloor
  | none
deriving DecidableEq, Repr

structure BindedCdevInfo where
  limitInfo : CdevArray
  powerThresholds : ThrottlingArray
  releaseLogic : ReleaseLogic
  cdevWeightForPid : ThrottlingArray
  cdevCeiling : CdevArray
  maxReleaseStep : ℤ
  maxThrottleStep : ℤ
  cdevFloorWithPowerLink : CdevArray
  powerRail : String
  highPowerCheck : Bool
  throttlingWithPowerLink : Bool
  enabled : Bool

/-- A binding that configures nothing: it never throttles, and releases and throttles without
limit. -/
instance : Inhabited BindedCdevInfo where
  default :=
    { limitInfo := fun _ ↦ 0
      powerThresholds := unsetArray
      releaseLogic := .none
      cdevWeightForPid := unsetArray
      cdevCeiling := fun _ ↦ intMax
      maxReleaseStep := intMax
      maxThrottleStep := intMax
      cdevFloorWithPowerLink := fun _ ↦ 0
      powerRail := ""
      highPowerCheck := false
      throttlingWithPowerLink := false
      enabled := true }

/-- The cooling devices a sensor is bound to. -/
abbrev BindedCdevInfoMap := UnorderedMap String BindedCdevInfo

abbrev BindedCdevEntry := Sigma fun _ : String ↦ BindedCdevInfo

/-- The binding for every throttling profile. -/
abbrev ProfileMap := UnorderedMap String BindedCdevInfoMap

structure ThrottlingInfo where
  kPo : ThrottlingArray
  kPu : ThrottlingArray
  kIo : ThrottlingArray
  kIu : ThrottlingArray
  kD : ThrottlingArray
  iMax : ThrottlingArray
  maxAllocPower : ThrottlingArray
  minAllocPower : ThrottlingArray
  sPower : ThrottlingArray
  iCutoff : ThrottlingArray
  iDefault : ExactFloat
  iDefaultPct : ExactFloat
  tranCycle : ℤ
  excludedPowerInfoMap : UnorderedMap String ThrottlingArray
  bindedCdevInfoMap : BindedCdevInfoMap
  profileMap : ProfileMap

/-- Throttling without a PID algorithm and without bindings. -/
instance : Inhabited ThrottlingInfo where
  default :=
    { kPo := unsetArray
      kPu := unsetArray
      kIo := unsetArray
      kIu := unsetArray
      kD := unsetArray
      iMax := unsetArray
      maxAllocPower := unsetArray
      minAllocPower := unsetArray
      sPower := unsetArray
      iCutoff := unsetArray
      iDefault := 0
      iDefaultPct := .nan
      tranCycle := 0
      excludedPowerInfoMap := ∅
      bindedCdevInfoMap := ∅
      profileMap := ∅ }

structure SensorInfo where
  type : String
  hotThresholds : ThrottlingArray
  coldThresholds : ThrottlingArray
  hotHysteresis : ThrottlingArray
  coldHysteresis : ThrottlingArray
  tempPath : String
  severityReference : List String
  zoneName : String
  vrThreshold : ExactFloat
  multiplier : ExactFloat
  pollingDelay : ℤ
  passiveDelay : ℤ
  timeResolution : ℤ
  stepRatio : ExactFloat
  sendCb : Bool
  sendPowerhint : Bool
  isWatch : Bool
  isHidden : Bool
  isTripPointIgnorable : Bool
  logLevel : ThrottlingSeverity
  virtualSensorInfo : Option VirtualSensorInfo
  throttlingInfo : Option ThrottlingInfo
  predictorInfo : Option PredictorInfo

abbrev SensorEntry := Sigma fun _ : String ↦ SensorInfo

/-- A physical sensor without thresholds that is not watched. -/
instance : Inhabited SensorInfo where
  default :=
    { type := ""
      hotThresholds := unsetArray
      coldThresholds := unsetArray
      hotHysteresis := fun _ ↦ 0
      coldHysteresis := fun _ ↦ 0
      tempPath := ""
      severityReference := []
      zoneName := ""
      vrThreshold := .nan
      multiplier := 1
      pollingDelay := kUeventPollTimeoutMs
      passiveDelay := kMinPollIntervalMs
      timeResolution := 0
      stepRatio := .nan
      sendCb := false
      sendPowerhint := false
      isWatch := false
      isHidden := false
      isTripPointIgnorable := false
      logLevel := .none
      virtualSensorInfo := none
      throttlingInfo := none
      predictorInfo := none }

structure CdevInfo where
  type : String
  readPath : String
  writePath : String
  state2power : List ExactFloat
  maxState : ℤ
  applyPowercap : Bool
  multiplier : ExactFloat

/-- A device without a power table. -/
instance : Inhabited CdevInfo where
  default :=
    { type := ""
      readPath := ""
      writePath := ""
      state2power := []
      maxState := 0
      applyPowercap := false
      multiplier := 1 }

structure PowerRailInfo where
  powerSampleCount : ℤ
  powerSampleDelay : ℤ
  virtualPowerRailInfo : Option VirtualPowerRailInfo

/-- A reading of the energy counter and the time it covers. -/
structure PowerSample where
  energyCounter : ℕ
  duration : ℕ
deriving DecidableEq, Repr

/-- `boot_clock::time_point::min()`, in nanoseconds. -/
def minTimePoint : ℤ := -(2 ^ 63)

/-- What is known about the power of a rail. -/
structure PowerStatus where
  lastUpdateTime : ℤ
  powerHistory : List (List PowerSample)
  lastUpdatedAvgPower : ExactFloat
  enabled : Bool

/-- A temperature as it is reported. -/
structure Temperature where
  type : String
  name : String
  value : ExactFloat
  throttlingStatus : ThrottlingSeverity

end HardwareMediatek.Thermal
