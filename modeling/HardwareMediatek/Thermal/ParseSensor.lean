import HardwareMediatek.Foundation.NamedEntries
import HardwareMediatek.Thermal.ParseVirtualSensor
import HardwareMediatek.Thermal.PowerFiles
import HardwareMediatek.Thermal.ThresholdAcceptance

/-!
# Parsing sensors and cooling devices

A sensor or a cooling device that is disabled is passed over, and two that are not must have different
names. The available frequencies of the cooling devices are read before the first sensor is.
-/

namespace HardwareMediatek.Thermal

open Foundation

/-- What the parsers depend on beside the configuration. The names of the types belong to the AIDL
interface. -/
structure ParseContext where
  temperatureTypes : List String
  coolingTypes : List String
  readFile : String → Option String
  powerLinkDisabled : Bool
  initializeMlModel : String → ℕ → MLModelInitData → Bool

/-! ## Members of an entry -/

section Members

def getTypeFromString (types : List String) (text : String) : Parsing String := do
  check (text ∈ types)
  pure text

/-- A member that is set only by a `bool`. -/
def parseFlag (key : String) (value : Json) : Parsing Bool := do
  let member ← read (value.get key)
  pure (!member.empty && member.isBool && member.asBool == some true)

/-- The member `Monitor`, or `SendCallback` when that is no `bool`. -/
def parseSendCallback (sensor : Json) : Parsing Bool := do
  let monitor ← read (sensor.get "Monitor")
  if !monitor.empty && monitor.isBool then pure (monitor.asBool == some true)
  else parseFlag "SendCallback" sensor

/-- A level above all severities leaves the default. One below zero is below every severity, as `none`
is. -/
def parseLogLevel (level : Json) : Parsing ThrottlingSeverity := do
  let level ← read level.asInt
  pure ((ThrottlingSeverity.all[level.toNat]?).getD .none)

/-- One reference or a list of them. -/
def parseSeverityReference (values : Json) : Parsing (List String) :=
  if values.isString then do
    let reference ← read values.asString
    pure [reference]
  else parseStrings values

/-- A delay that is not positive is endless. -/
def parseDelay (delay : Json) : Parsing ℤ := do
  let value ← getIntFromValue delay
  pure (if 0 < value then value else maxMilliseconds)

/-- A ratio comes with an explicit delay. -/
def parseStepRatio (sensor : Json) : Parsing ExactFloat := do
  let member ← read (sensor.get "StepRatio")
  if member.empty then pure .nan
  else do
    let ratio ← read member.asFloat
    check !(ratio < 0 || 1 < ratio)
    let passiveDelay ← read (sensor.get "PassiveDelay")
    check !passiveDelay.empty
    pure ratio

end Members

/-! ## Predictors -/

section Predictors

/-- The weights and gains of the compensation, when both of them are configured. -/
def parseCompensation (predictor : Json) : Parsing (Option (List ExactFloat × ThrottlingArray)) := do
  let both ← bothConfigured "PredictionWeight" "KPCompensate" predictor
  if both then do
    let weights ← read (predictor.get "PredictionWeight")
    check (weights.size ≠ 0)
    let weights ← read weights.items
    let weights ← weights.mapM fun weight ↦ read weight.asFloat
    let gains ← read (predictor.get "KPCompensate")
    let gains ← getFloatFromJsonValues gains false false
    pure (some (weights, gains))
  else pure none

/-- The sensor that predicts for another one, and the compensation. -/
def parsePredictor (sensor : Json) :
    Parsing (Option (String × Option (List ExactFloat × ThrottlingArray))) := do
  let predictor ← read (sensor.get "PredictorInfo")
  if predictor.empty then pure none
  else do
    let predictSensor ← read (predictor.get "Sensor")
    check !predictSensor.empty
    let predictSensor ← read predictSensor.asString
    let compensation ← parseCompensation predictor
    pure (some (predictSensor, compensation))

/-- The interval of the samples and their number, for a sensor that predicts. -/
def parseSupportPrediction (sensor : Json) : Parsing (Option (ℤ × ℤ)) := do
  let supported ← getBool "SupportPrediction" sensor
  if supported then do
    let interval ← read (sensor.get "SampleDuration")
    check !interval.empty
    let count ← read (sensor.get "OutputLabelCount")
    check !count.empty
    let interval ← read interval.asInt
    let count ← read count.asInt
    pure (some (interval, count))
  else pure none

/-- How far ahead a value was predicted. -/
def parsePredictionDuration (sensor : Json) : Parsing (Option ℤ) := do
  let formula ← getString "Formula" sensor
  if formula = "PREVIOUSLY_PREDICTED" then do
    let duration ← read (sensor.get "PredictionDuration")
    check !duration.empty
    let duration ← read duration.asInt
    pure (some duration)
  else pure none

/-- Nothing for a sensor without any of the three. Gains that are not configured are never read. -/
def parsePredictorInfo (sensor : Json) : Parsing (Option PredictorInfo) := do
  let predictor ← parsePredictor sensor
  let samples ← parseSupportPrediction sensor
  let duration ← parsePredictionDuration sensor
  if predictor.isNone && samples.isNone && duration.isNone then pure none
  else
    let compensation := predictor.bind Prod.snd
    pure (some {
      sensor := (predictor.map Prod.fst).getD ""
      supportPidCompensation := compensation.isSome
      predictionWeights := (compensation.map Prod.fst).getD []
      kPCompensate := (compensation.map Prod.snd).getD unsetArray
      supportsPredictions := samples.isSome
      predictionSampleInterval := (samples.map Prod.fst).getD 0
      numPredictionSamples := (samples.map Prod.snd).getD 0
      predictionDuration := duration.getD 0 })

end Predictors

/-! ## Available frequencies -/

section Frequencies

/-- The frequencies of a device with those of a file, which rise or fall strictly. A list without any
has no front. -/
def addFrequencies (frequencies : List ℤ) : Parsing (List ℤ) :=
  match frequencies.head?, frequencies.getLast? with
  | some front, some back => do
    let frequencies := if front < back then frequencies.reverse else frequencies
    check (frequencies.IsChain (· > ·))
    pure frequencies
  | _, _ => .error .aborted

/-- One round of the loop over the cooling devices. -/
def scalingFrequenciesRound (readFile : String → Option String) (scalingFrequencyMap : ScalingFrequencyMap)
    (cdev : Json) : Parsing ScalingFrequencyMap := do
  let path ← read (cdev.get "ScalingAvailableFrequenciesPath")
  if path.empty then pure scalingFrequencyMap
  else do
    let disabled ← getBool "isDisabled" cdev
    if disabled then pure scalingFrequencyMap
    else do
      let path ← read path.asString
      let name ← getString "Name" cdev
      match readFile path with
      | none => .error .refused
      | some content => do
        let frequencies ← addFrequencies
          ((scalingFrequencyMap.lookup name).getD [] ++ signedNumbers content)
        pure (scalingFrequencyMap.put name frequencies)

def parseScalingFrequencies (readFile : String → Option String) (cdevs : Json) :
    Parsing ScalingFrequencyMap := do
  let items ← read cdevs.items
  items.foldlM (scalingFrequenciesRound readFile) ∅

end Frequencies

/-! ## Sensors -/

section Sensors

/-- The name of an entry that is not disabled. -/
def parseEnabledName (value : Json) : Parsing (Option String) := do
  let name ← getString "Name" value
  check (name ≠ "")
  let disabled ← getBool "isDisabled" value
  pure (if disabled then none else some name)

/-- What a sensor is watched and reported for. -/
structure SensorSwitches where
  sendCb : Bool
  sendPowerhint : Bool
  isTripPointIgnorable : Bool
  isHidden : Bool
  logLevel : ThrottlingSeverity

def parseSensorSwitches (sensor : Json) : Parsing SensorSwitches := do
  let sendCb ← parseSendCallback sensor
  let sendPowerhint ← parseFlag "SendPowerHint" sensor
  let isTripPointIgnorable ← parseFlag "TripPointIgnorable" sensor
  let isHidden ← parseFlag "Hidden" sensor
  let logLevel ← parseUnlessEmpty "LogLevel" sensor .none parseLogLevel
  pure ⟨sendCb, sendPowerhint, isTripPointIgnorable, isHidden, logLevel⟩

/-- Where a sensor is read, how often, and what its value is multiplied with. -/
structure SensorSource where
  zoneName : String
  tempPath : String
  severityReference : List String
  vrThreshold : ExactFloat
  multiplier : ExactFloat
  pollingDelay : ℤ
  passiveDelay : ℤ
  timeResolution : ℤ
  stepRatio : ExactFloat

def parseSensorSource (name : String) (sensor : Json) : Parsing SensorSource := do
  let zoneName ← parseUnlessEmpty "ZoneName" sensor name fun member ↦ read member.asString
  let tempPath ← parseUnlessEmpty "TempPath" sensor "" fun member ↦ read member.asString
  let references ← read (sensor.get "SeverityReference")
  let severityReference ← parseSeverityReference references
  let vrThreshold ← parseUnlessEmpty "VrThreshold" sensor .nan getFloatFromValue
  let multiplier ← parseUnlessEmpty "Multiplier" sensor 1 fun member ↦ read member.asFloat
  let pollingDelay ← parseUnlessEmpty "PollingDelay" sensor kUeventPollTimeoutMs parseDelay
  let passiveDelay ← parseUnlessEmpty "PassiveDelay" sensor kMinPollIntervalMs parseDelay
  let timeResolution ← parseUnlessEmpty "TimeResolution" sensor kMinPollIntervalMs getIntFromValue
  let stepRatio ← parseStepRatio sensor
  pure ⟨zoneName, tempPath, severityReference, vrThreshold, multiplier, pollingDelay, passiveDelay,
    timeResolution, stepRatio⟩

variable (context : ParseContext) (scalingFrequencyMap : ScalingFrequencyMap)
  (coolingDeviceInfoMap : CdevInfoMap)

/-- The rest of a round of `ParseSensorInfo`, behind the check for a second sensor with the name. -/
def parseSensorBody (name : String) (sensor : Json) : Parsing SensorInfo := do
  let type ← getString "Type" sensor
  let type ← getTypeFromString context.temperatureTypes type
  let switches ← parseSensorSwitches sensor
  let thresholds ← parseSensorThresholds sensor
  let source ← parseSensorSource name sensor
  check !(switches.isHidden && switches.sendCb)
  let virtualSensorInfo ← parseVirtualSensorInfo context.initializeMlModel name sensor
  let predictorInfo ← parsePredictorInfo sensor
  let (throttlingInfo, supportThrottling) ← parseSensorThrottlingInfo context.powerLinkDisabled
    scalingFrequencyMap coolingDeviceInfoMap sensor
  pure {
    type := type
    hotThresholds := thresholds.hotThresholds
    coldThresholds := thresholds.coldThresholds
    hotHysteresis := thresholds.hotHysteresis
    coldHysteresis := thresholds.coldHysteresis
    tempPath := source.tempPath
    severityReference := source.severityReference
    zoneName := source.zoneName
    vrThreshold := source.vrThreshold
    multiplier := source.multiplier
    pollingDelay := source.pollingDelay
    passiveDelay := source.passiveDelay
    timeResolution := source.timeResolution
    stepRatio := source.stepRatio
    sendCb := switches.sendCb
    sendPowerhint := switches.sendPowerhint
    isWatch := switches.sendCb || switches.sendPowerhint || supportThrottling
    isHidden := switches.isHidden
    isTripPointIgnorable := switches.isTripPointIgnorable
    logLevel := switches.logLevel
    virtualSensorInfo := virtualSensorInfo
    throttlingInfo := some throttlingInfo
    predictorInfo := predictorInfo }

def sensorParser : EntryParser Json String String Unit SensorInfo ParseEnd where
  header sensor := do
    let name ← parseEnabledName sensor
    pure (name.map fun name ↦ (name, ()))
  mark := id
  duplicate := .refused
  body name _ sensor := parseSensorBody context scalingFrequencyMap coolingDeviceInfoMap name sensor

def parseSensorInfo (config : Json) : Parsing SensorInfoMap := do
  let sensors ← read (config.get "Sensors")
  let cdevs ← read (config.get "CoolingDevices")
  let scalingFrequencyMap ← parseScalingFrequencies context.readFile cdevs
  let items ← read sensors.items
  (sensorParser context scalingFrequencyMap coolingDeviceInfoMap).parse items

end Sensors

/-! ## Cooling devices -/

section CoolingDevices

/-- What is read of a cooling device before its name is looked for among the others. -/
structure CdevHeader where
  applyPowercap : Bool
  multiplier : ExactFloat

def parseCdevMultiplier (multiplier : Json) : Parsing ExactFloat := do
  let multiplier ← read multiplier.asFloat
  check !(multiplier ≤ 0)
  pure multiplier

def parseCdevHeader (value : Json) : Parsing (Option (String × CdevHeader)) := do
  match ← parseEnabledName value with
  | none => pure none
  | some name => do
    let powerCap ← read (value.get "PowerCap")
    let applied ← read powerCap.asBool
    let multiplier ← parseUnlessEmpty "Multiplier" value 1 parseCdevMultiplier
    pure (some (name, ⟨applied && powerCap.isBool, multiplier⟩))

/-- The greatest state is found out later. -/
def parseCdevBody (types : List String) (header : CdevHeader) (value : Json) : Parsing CdevInfo := do
  let type ← getString "Type" value
  let type ← getTypeFromString types type
  let readPath ← getString "ReadPath" value
  let writePath ← getString "WritePath" value
  let powers ← read (value.get "State2Power")
  let powers ← sizedItems powers
  let state2power ← powers.mapM getFloatFromValue
  pure {
    type := type
    readPath := readPath
    writePath := writePath
    state2power := state2power
    maxState := 0
    applyPowercap := header.applyPowercap
    multiplier := header.multiplier }

/-- The name is looked for as a C string. -/
def cdevParser (types : List String) :
    EntryParser Json String (List Char) CdevHeader CdevInfo ParseEnd where
  header := parseCdevHeader
  mark name := name.toList.takeWhile fun c ↦ c ≠ '\x00'
  duplicate := .refused
  body _ := parseCdevBody types

def parseCoolingDevice (context : ParseContext) (config : Json) : Parsing CdevInfoMap := do
  let coolingDevices ← read (config.get "CoolingDevices")
  let items ← read coolingDevices.items
  (cdevParser context.coolingTypes).parse items

end CoolingDevices

end HardwareMediatek.Thermal
