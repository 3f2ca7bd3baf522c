import HardwareMediatek.Thermal.Throttling
import HardwareMediatek.Thermal.TripPoints

/-!
# Reading a sensor

A physical sensor is read from its file. A virtual sensor is computed from the sensors, power rails,
constants and cooling devices that it links, by a formula, a model or an earlier prediction, and a
model that cannot answer falls back on a backup sensor. What is under collecting is passed on as a
`NaN`. The recursion follows the configuration, which may have cycles, so it is given fuel.

The models, the predictions and the files are parameters here. A call keeps a record of what it has
read.
-/

namespace HardwareMediatek.Thermal

/-- What a reading comes to. -/
inductive ReadOutcome (α : Type) where
  | okay (value : α)
  | underCollecting
  | error
deriving DecidableEq

def ReadOutcome.map {α β : Type} (f : α → β) : ReadOutcome α → ReadOutcome β
  | .okay value => .okay (f value)
  | .underCollecting => .underCollecting
  | .error => .error

/-- What `Estimate` returns. -/
inductive EstimateAnswer where
  | ok (outputs : List ExactFloat)
  | lowConfidence
  | underSampling
  | failed

/-- Why a call does not return. -/
inductive Halt where
  | fault (fault : Fault)
  | outOfFuel
deriving DecidableEq

/-- What a call has read of something that can be under collecting. -/
inductive ReadInput where
  | rail (power : ExactFloat)
  | prediction (outcome : ReadOutcome ExactFloat)
  /-- a sensor, and whether its value depends on something that is under collecting -/
  | sensor (isBackup : Bool) (outcome : ReadOutcome ExactFloat) (dependsOnCollecting : Bool)

/-- The reading itself is under collecting. -/
def ReadInput.isUnder : ReadInput → Bool
  | .rail power => power.isNaN
  | .prediction outcome => outcome = .underCollecting
  | .sensor _ outcome _ => outcome = .underCollecting

def ReadInput.isBackup : ReadInput → Bool
  | .sensor isBackup _ _ => isBackup
  | _ => false

def ReadInput.isCollecting : ReadInput → Bool
  | .sensor isBackup outcome dependsOnCollecting =>
    (ReadInput.sensor isBackup outcome dependsOnCollecting).isUnder || dependsOnCollecting
  | input => input.isUnder

/-- A call that has returned: what it has read, and whether it has written the cache. -/
structure ReadCall where
  name : String
  inputs : List ReadInput
  outcome : ReadOutcome ExactFloat
  isCached : Bool

def ReadCall.dependsOnCollecting (call : ReadCall) : Bool := call.inputs.any ReadInput.isCollecting

/-- What a read works with. The files, the clock, an unset variable, the models and the predictions may
be others at each call, by its number. -/
structure ReadEnv (ε : Type) where
  sensorInfoMap : SensorInfoMap
  powerStatusMap : PowerStatusMap
  cdevMaxRequest : String → Option ℤ
  readThermalFile : ℕ → String → Option String
  now : ℕ → ℤ
  unset : ℕ → ExactFloat
  estimate : ℕ → ε → String → List ExactFloat → ε × EstimateAnswer
  updatePredictions : ℕ → ε → String → List ExactFloat → ε
  readPrediction : ℕ → ε → String → ReadOutcome ExactFloat

/-- What a read changes, with what the call in progress has read and the calls that have returned. -/
structure ReadState (ε : Type) where
  sensorStatusMap : SensorStatusMap
  sensorLogMap : UnorderedMap String ExactFloat
  helpers : ε
  started : ℕ
  inputs : List ReadInput
  calls : List ReadCall

/-- A read from outside starts with an empty log. -/
def startReading {ε : Type} (sensorStatusMap : SensorStatusMap) (helpers : ε) : ReadState ε :=
  ⟨sensorStatusMap, ∅, helpers, 0, [], []⟩

/-- Reading a sensor from a state. -/
abbrev Read (ε : Type) := ReadState ε → String → Except Halt (ReadState ε × ReadCall)

section Functions

variable {ε : Type}

/-- `(*sensor_log_map)[key] = value` -/
def ReadState.log (state : ReadState ε) (key : String) (value : ExactFloat) : ReadState ε :=
  { state with sensorLogMap := state.sensorLogMap.put key value }

def ReadState.note (state : ReadState ε) (input : ReadInput) : ReadState ε :=
  { state with inputs := state.inputs ++ [input] }

/-- The value of the variable after the read, which was `initial`, or nothing on failure. -/
def readDataByType (env : ReadEnv ε) (read : Read ε) (state : ReadState ε) (sensorData : String)
    (initial : ExactFloat) (type : SensorFusionType) (isBackup : Bool) :
    Except Halt (ReadState ε × Option ExactFloat) :=
  match type with
  | .sensor => do
    let (state, call) ← read state sensorData
    let state := state.note (.sensor isBackup call.outcome call.dependsOnCollecting)
    match call.outcome with
    | .okay temp => pure (state, some temp)
    | .underCollecting => pure (state, some initial)
    | .error => pure (state, none)
  | .odpm =>
    match env.powerStatusMap.lookup sensorData with
    | none => .error (.fault .outOfRange)
    | some status =>
      let state := state.note (.rail status.lastUpdatedAvgPower)
      if status.lastUpdatedAvgPower.isNaN then .ok (state, some status.lastUpdatedAvgPower)
      else
        .ok (state.log sensorData status.lastUpdatedAvgPower, some status.lastUpdatedAvgPower)
  | .constant => .ok (state, some (atof sensorData))
  | .cdev => .ok (state, (env.cdevMaxRequest sensorData).map ExactFloat.ofInt)

/-- The loop over the linked sensors. -/
def readLinkedSensors (env : ReadEnv ε) (read : Read ε) :
    List (String × SensorFusionType) → ReadState ε →
      Except Halt (ReadState ε × ReadOutcome (List ExactFloat))
  | [], state => .ok (state, .okay [])
  | (sensorData, type) :: rest, state => do
    let (state, reading) ← readDataByType env read state sensorData .nan type false
    match reading with
    | none => pure (state, .error)
    | some reading =>
      if reading.isNaN then pure (state, .underCollecting)
      else
        let (state, readings) ← readLinkedSensors env read rest state
        pure (state, readings.map fun readings ↦ reading :: readings)

/-- What is read in place of a model that has no result. -/
def readBackupSensor (env : ReadEnv ε) (read : Read ε) (virtualInfo : VirtualSensorInfo)
    (state : ReadState ε) : Except Halt (ReadState ε × Option (List ExactFloat)) :=
  if virtualInfo.backupSensor = "" then .ok (state, none)
  else do
    let (state, backup) ← readDataByType env read state virtualInfo.backupSensor
      (env.unset state.started) .sensor true
    pure (state, backup.map fun temp ↦ [temp])

/-- The model is given what the log has for the linked sensors. -/
def runVirtualTempEstimator (env : ReadEnv ε) (read : Read ε) (state : ReadState ε) (name : String)
    (info : SensorInfo) (virtualInfo : VirtualSensorInfo) :
    Except Halt (ReadState ε × Option (List ExactFloat)) :=
  match virtualInfo.linkedSensors.mapM fun sensor ↦ state.sensorLogMap.lookup sensor with
  | none => .ok (state, none)
  | some modelInputs =>
    let estimated := env.estimate state.started state.helpers name modelInputs
    let state := { state with helpers := estimated.1 }
    match estimated.2 with
    | .ok outputs =>
      let supportsPredictions := info.predictorInfo.any PredictorInfo.supportsPredictions
      .ok (if supportsPredictions then
        { state with helpers := env.updatePredictions state.started state.helpers name outputs }
        else state,
        some outputs)
    | .failed => .ok (state, none)
    | .lowConfidence | .underSampling => readBackupSensor env read virtualInfo state

/-- One round of the formula; nothing for one that is not known here. -/
def applyFormula (formula : FormulaOption) (i : ℕ) (reading coefficient tempVal : ExactFloat) :
    Option ExactFloat :=
  match formula with
  | .countThreshold =>
    some (if (coefficient < 0 ∧ reading < -coefficient) ∨ (0 ≤ coefficient ∧ coefficient ≤ reading)
      then tempVal + 1 else tempVal)
  | .weightedAvg => some (tempVal + reading * coefficient)
  | .maximum =>
    let tempVal := if i = 0 then -floatMax else tempVal
    some (if tempVal < reading * coefficient then reading * coefficient else tempVal)
  | .minimum =>
    let tempVal := if i = 0 then floatMax else tempVal
    some (if reading * coefficient < tempVal then reading * coefficient else tempVal)
  | _ => none

/-- The loop over the coefficients, each with its type, the reading it belongs to and its index. -/
def combineReadings (env : ReadEnv ε) (read : Read ε) (formula : FormulaOption) :
    List ((ExactFloat × String × SensorFusionType) × ℕ) → ExactFloat → ReadState ε →
      Except Halt (ReadState ε × ReadOutcome ExactFloat)
  | [], tempVal, state => .ok (state, .okay tempVal)
  | ((reading, sensorData, type), i) :: rest, tempVal, state => do
    let (state, coefficient) ← readDataByType env read state sensorData .nan type false
    match coefficient with
    | none => pure (state, .error)
    | some coefficient =>
      if coefficient.isNaN then pure (state, .underCollecting)
      else
        match applyFormula formula i reading coefficient tempVal with
        | none => pure (state, .error)
        | some tempVal => combineReadings env read formula rest tempVal state

/-- The temperature is the first of the model's outputs. -/
def estimateVirtual (env : ReadEnv ε) (read : Read ε) (state : ReadState ε) (name : String)
    (info : SensorInfo) (virtualInfo : VirtualSensorInfo) :
    Except Halt (ReadState ε × ReadOutcome ExactFloat) := do
  let (state, outputs) ← runVirtualTempEstimator env read state name info virtualInfo
  match outputs with
  | none => pure (state, .error)
  | some [] => .error (.fault .badIndex)
  | some (temp :: _) => pure (state, .okay temp)

/-- The readings are combined, and the offset is added. -/
def combineVirtual (env : ReadEnv ε) (read : Read ε) (state : ReadState ε)
    (virtualInfo : VirtualSensorInfo) (readings : List ExactFloat) (formula : FormulaOption) :
    Except Halt (ReadState ε × ReadOutcome ExactFloat) := do
  let (state, tempVal) ← combineReadings env read formula
    (readings.zip (virtualInfo.coefficients.zip virtualInfo.coefficientsType)).zipIdx 0 state
  pure (state, tempVal.map fun tempVal ↦ tempVal + virtualInfo.offset)

/-- A virtual sensor whose linked sensors have been read. -/
def computeVirtual (env : ReadEnv ε) (read : Read ε) (state : ReadState ε) (name : String)
    (info : SensorInfo) (virtualInfo : VirtualSensorInfo) (readings : List ExactFloat) :
    Except Halt (ReadState ε × ReadOutcome ExactFloat) :=
  match virtualInfo.formula with
  | .previouslyPredicted =>
    let outcome := env.readPrediction state.started state.helpers name
    .ok (state.note (.prediction outcome), outcome)
  | .useMlModel | .useLinearModel => estimateVirtual env read state name info virtualInfo
  | formula => combineVirtual env read state virtualInfo readings formula

def readVirtualSensor (env : ReadEnv ε) (read : Read ε) (state : ReadState ε) (name : String)
    (info : SensorInfo) (virtualInfo : VirtualSensorInfo) :
    Except Halt (ReadState ε × ReadOutcome ExactFloat) := do
  let (state, readings) ← readLinkedSensors env read
    (virtualInfo.linkedSensors.zip virtualInfo.linkedSensorsType) state
  match readings with
  | .error => pure (state, .error)
  | .underCollecting => pure (state, .underCollecting)
  | .okay readings => computeVirtual env read state name info virtualInfo readings

def readPhysicalSensor (env : ReadEnv ε) (state : ReadState ε) (name : String) :
    ReadOutcome ExactFloat :=
  match env.readThermalFile state.started name with
  | none => .error
  | some fileReading =>
    if fileReading = "" then .error else .okay (atof (trimText fileReading))

/-- The sensor is read according to its composition. -/
def readComposition (env : ReadEnv ε) (read : Read ε) (state : ReadState ε) (name : String)
    (info : SensorInfo) : Except Halt (ReadState ε × ReadOutcome ExactFloat) :=
  match info.virtualSensorInfo with
  | none => .ok (state, readPhysicalSensor env state name)
  | some virtualInfo => readVirtualSensor env read state name info virtualInfo

/-- `kTranTimeoutParam`. -/
def kTranTimeoutParam : ℤ := 2

/-- The cache may be read. -/
def SensorStatus.isFresh (status : SensorStatus) (info : SensorInfo) (now : ℤ) : Bool :=
  match status.thermalCached.timestamp with
  | none => false
  | some time => elapsedMs now time < info.timeResolution ∧ status.thermalCached.temp.isNaN = false

/-- The reading, weighed with the cached one if that is not too old. A time that was never set comes
with a cached `NaN`. -/
def smoothReading (info : SensorInfo) (sinceLastUpdate : Option ℤ) (cached temp : ExactFloat) :
    ExactFloat :=
  match sinceLastUpdate with
  | none => temp
  | some elapsed =>
    if info.stepRatio.isNaN = false ∧ cached.isNaN = false ∧
        elapsed < info.passiveDelay * kTranTimeoutParam then
      info.stepRatio * temp + (1 - info.stepRatio) * cached
    else temp

/-- The end of a call that has read something. -/
def storeReading (state : ReadState ε) (name : String) (info : SensorInfo) (now : ℤ)
    (sinceLastUpdate : Option ℤ) (temp : ExactFloat) : ReadState ε × ExactFloat :=
  match state.sensorStatusMap.lookup name with
  | none => (state, temp)
  | some status =>
    let temp := smoothReading info sinceLastUpdate status.thermalCached.temp temp
    ({ state.log name temp with
      sensorStatusMap :=
        state.sensorStatusMap.assign name { status with thermalCached := ⟨temp, some now⟩ } }, temp)

/-- One call, with the calls it makes as `read`. The last result says whether the cache is written. -/
def readSensor (env : ReadEnv ε) (forceNoCache : Bool) (read : Read ε) (state : ReadState ε)
    (name : String) : Except Halt (ReadState ε × ReadOutcome ExactFloat × Bool) :=
  match env.sensorInfoMap.lookup name, state.sensorStatusMap.lookup name with
  | some info, some status =>
    match status.overrideStatus.emulTemp with
    | some emulTemp => .ok (state.log name emulTemp.temp, .okay emulTemp.temp, false)
    | none =>
      let now := env.now state.started
      if !forceNoCache && status.isFresh info now then
        .ok (state.log name status.thermalCached.temp, .okay status.thermalCached.temp, false)
      else do
        let (state, outcome) ← readComposition env read state name info
        match outcome with
        | .okay temp =>
          let stored := storeReading state name info now
            (status.thermalCached.timestamp.map (elapsedMs now)) temp
          pure (stored.1, .okay stored.2, true)
        | outcome => pure (state, outcome, false)
  | _, _ => .ok (state, .error, false)

/-- The call is recorded when it returns, and the caller goes on with its own inputs. -/
def readThermalSensor (env : ReadEnv ε) (forceNoCache : Bool) : ℕ → Read ε
  | 0, _, _ => .error .outOfFuel
  | fuel + 1, state, name => do
    let (final, outcome, isCached) ← readSensor env forceNoCache
      (readThermalSensor env forceNoCache fuel)
      { state with started := state.started + 1, inputs := [] } name
    let call : ReadCall := ⟨name, final.inputs, outcome, isCached⟩
    pure ({ final with inputs := state.inputs, calls := final.calls ++ [call] }, call)

end Functions

end HardwareMediatek.Thermal
