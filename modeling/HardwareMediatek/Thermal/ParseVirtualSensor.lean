import HardwareMediatek.Foundation.CIntegers
import HardwareMediatek.Thermal.LinearModel
import HardwareMediatek.Thermal.ParseStats

/-!
# Parsing a virtual sensor

What a virtual sensor links, and how it combines what is read. A model is set up while its sensor is
parsed. Whether a machine-learning model can be set up is left open: the library that does it is not
part of this development.
-/

namespace HardwareMediatek.Thermal

open Foundation

structure MLModelInitData where
  modelPath : String
  usePrevSamples : Bool
  prevSamplesOrder : ℕ
  outputLabelCount : ℕ
  numHotSpots : ℕ
  enableInputValidation : Bool
  offsetThresholds : List ExactFloat
  offsetValues : List ExactFloat
  supportUnderSampling : Bool

/-- One of several texts, each with its value. -/
def parseOption {α : Type} (texts : List (String × α)) (value : Json) : Parsing α := do
  let text ← read value.asString
  match texts.lookup text with
  | some option => pure option
  | none => .error .refused

def formulaOptions : List (String × FormulaOption) :=
  [("COUNT_THRESHOLD", .countThreshold), ("WEIGHTED_AVG", .weightedAvg), ("MAXIMUM", .maximum),
    ("MINIMUM", .minimum), ("USE_ML_MODEL", .useMlModel), ("USE_LINEAR_MODEL", .useLinearModel),
    ("PREVIOUSLY_PREDICTED", .previouslyPredicted)]

/-- The values of `CombinationType`. -/
def combinationTypes : List (String × SensorFusionType) :=
  [("SENSOR", .sensor), ("ODPM", .odpm), ("CONSTANT", .constant), ("CDEV", .cdev)]

/-- The values of `CoefficientType`. -/
def coefficientTypes : List (String × SensorFusionType) :=
  [("CONSTANT", .constant), ("SENSOR", .sensor), ("ODPM", .odpm)]

def parseStrings (values : Json) : Parsing (List String) := do
  let items ← sizedItems values
  items.mapM fun item ↦ read item.asString

/-- Types that are not listed have a default; the others must be as many as what they belong to. -/
def parseFusionTypes (types : List (String × SensorFusionType)) (values : Json) (count : ℕ)
    (defaults : List SensorFusionType) : Parsing (List SensorFusionType) :=
  if values.size = 0 then pure defaults
  else do
    check (values.size = count)
    let items ← read values.items
    items.mapM (parseOption types)

/-- A formula that works without coefficients. -/
def FormulaOption.needsNoCoefficient (formula : FormulaOption) : Bool :=
  formula = .useMlModel ∨ formula = .previouslyPredicted

/-- A formula that works with any number of coefficients. -/
def FormulaOption.anyCoefficientSize (formula : FormulaOption) : Bool :=
  formula = .useMlModel ∨ formula = .useLinearModel ∨ formula = .previouslyPredicted

def parseCoefficients (formula : FormulaOption) (linkedSensors : List String) (sensor : Json) :
    Parsing (List String) := do
  let values ← read (sensor.get "Coefficient")
  let coefficients ← parseStrings values
  check (values.size ≠ 0 || formula.needsNoCoefficient)
  check (linkedSensors.length = coefficients.length || formula.anyCoefficientSize)
  pure coefficients

def parseTriggerSensors (values : Json) : Parsing (List String) :=
  if values.empty then pure []
  else if values.isString then do
    let text ← read values.asString
    pure [text]
  else do
    check (values.size ≠ 0)
    let items ← read values.items
    items.mapM fun item ↦ do
      check item.isString
      read item.asString

def parseOffset (sensor : Json) : Parsing ExactFloat := do
  let value ← read (sensor.get "Offset")
  if value.empty then pure 0 else read value.asFloat

def parseBackupSensor (sensor : Json) : Parsing String := do
  let value ← read (sensor.get "BackupSensor")
  if value.empty then pure "" else read value.asString

/-! ## Models -/

/-- The thresholds, which must not decrease, and the values. -/
def parseOffsetThresholds (sensor : Json) : Parsing (List ExactFloat × List ExactFloat) := do
  let configThresholds ← read (sensor.get "OffsetThresholds")
  let configValues ← read (sensor.get "OffsetValues")
  if configThresholds.empty then pure ([], [])
  else do
    check (configThresholds.size = configValues.size)
    (List.range configThresholds.size).foldlM (fun offsets i ↦ do
      let threshold ← read (configThresholds.at? i)
      let threshold ← read threshold.asFloat
      let value ← read (configValues.at? i)
      let value ← read value.asFloat
      check !(threshold.isNaN || value.isNaN)
      check !(offsets.1.getLast?.any fun last ↦ threshold < last)
      pure (offsets.1 ++ [threshold], offsets.2 ++ [value])) ([], [])

/-- A count that may be left out. -/
def parseCount (key : String) (sensor : Json) (count : ℕ) : Parsing ℕ := do
  let value ← read (sensor.get key)
  if value.empty then pure count
  else do
    let number ← read value.asInt
    pure (asSize number)

def parseMlModel (linkedSensors : List String) (sensor : Json) : Parsing MLModelInitData := do
  let modelPath ← read (sensor.get "ModelPath")
  check !modelPath.empty
  check (linkedSensors.length ≠ 0)
  let modelPath ← read modelPath.asString
  let (offsetThresholds, offsetValues) ← parseOffsetThresholds sensor
  let previousSampleCount ← read (sensor.get "PreviousSampleCount")
  let prevSamplesOrder ← parseCount "PreviousSampleCount" sensor 1
  let outputLabelCount ← parseCount "OutputLabelCount" sensor 1
  let numHotSpots ← parseCount "PredictHotSpotCount" sensor 1
  let enableInputValidation ← getBool "ValidateInput" sensor
  let supportUnderSampling ← getBool "SupportUnderSampling" sensor
  pure
    { modelPath := "vendor/etc/" ++ modelPath
      usePrevSamples := !previousSampleCount.empty
      prevSamplesOrder := prevSamplesOrder
      outputLabelCount := outputLabelCount
      numHotSpots := numHotSpots
      enableInputValidation := enableInputValidation
      offsetThresholds := offsetThresholds
      offsetValues := offsetValues
      supportUnderSampling := supportUnderSampling }

def parseLinearModel (linkedSensors coefficients : List String) (sensor : Json) :
    Parsing LinearModelInitData := do
  check (linkedSensors.length ≠ 0 && linkedSensors.length ≤ coefficients.length)
  let (offsetThresholds, offsetValues) ← parseOffsetThresholds sensor
  let numbers ← coefficients.mapM fun coefficient ↦ do
    let number ← getFloatFromValue (.str coefficient)
    check !number.isNaN
    pure number
  pure
    { coefficients := numbers
      prevSamplesOrder := coefficients.length / linkedSensors.length
      usePrevSamples := linkedSensors.length < coefficients.length
      offsetThresholds := offsetThresholds
      offsetValues := offsetValues }

/-- The model is set up, and its file is kept. -/
def parseModel (initializeMlModel : String → ℕ → MLModelInitData → Bool) (name : String)
    (formula : FormulaOption) (linkedSensors coefficients : List String) (sensor : Json) :
    Parsing String :=
  match formula with
  | .useMlModel => do
    let data ← parseMlModel linkedSensors sensor
    check (initializeMlModel name linkedSensors.length data)
    pure data.modelPath
  | .useLinearModel => do
    let data ← parseLinearModel linkedSensors coefficients sensor
    check ((linearModelInitialize (.create linkedSensors.length) data).1 = .ok)
    pure ""
  | _ => pure ""

/-! ## The sensor -/

/-- The parts of a virtual sensor, in the order in which they are read. -/
def parseCombination (initializeMlModel : String → ℕ → MLModelInitData → Bool) (name : String)
    (sensor : Json) : Parsing VirtualSensorInfo := do
  let values ← read (sensor.get "Combination")
  check (values.size ≠ 0)
  let linkedSensors ← parseStrings values
  let formula ← read (sensor.get "Formula")
  let formula ← parseOption formulaOptions formula
  let values ← read (sensor.get "CombinationType")
  let linkedSensorsType ← parseFusionTypes combinationTypes values linkedSensors.length
    (List.replicate linkedSensors.length .sensor)
  let coefficients ← parseCoefficients formula linkedSensors sensor
  let values ← read (sensor.get "CoefficientType")
  let coefficientsType ← parseFusionTypes coefficientTypes values coefficients.length
    (List.replicate linkedSensors.length .constant)
  check (linkedSensors.length = coefficientsType.length)
  let offset ← parseOffset sensor
  let backupSensor ← parseBackupSensor sensor
  let values ← read (sensor.get "TriggerSensor")
  let triggerSensors ← parseTriggerSensors values
  let modelFile ← parseModel initializeMlModel name formula linkedSensors coefficients sensor
  pure
    { linkedSensors := linkedSensors
      linkedSensorsType := linkedSensorsType
      coefficients := coefficients
      coefficientsType := coefficientsType
      offset := offset
      triggerSensors := triggerSensors
      formula := formula
      vtEstimatorModelFile := modelFile
      backupSensor := backupSensor }

/-- Nothing for a sensor that is not virtual. -/
def parseVirtualSensorInfo (initializeMlModel : String → ℕ → MLModelInitData → Bool) (name : String)
    (sensor : Json) : Parsing (Option VirtualSensorInfo) := do
  let virtualSensor ← read (sensor.get "VirtualSensor")
  if virtualSensor.empty || !virtualSensor.isBool || virtualSensor.asBool == some false then pure none
  else do
    let virtualInfo ← parseCombination initializeMlModel name sensor
    pure (some virtualInfo)

/-! ## What is accepted -/

/-- Something with a size that is read by its indices is an array. -/
theorem length_items {values : Json} {items : List Json} (hsize : values.size ≠ 0)
    (hitems : values.items = some items) : items.length = values.size := by
  cases values with
  | arr elements => rw [← Option.some.inj hitems, Json.size]
  | obj members =>
    cases members with
    | nil => exact absurd rfl hsize
    | cons member rest => cases hitems
  | _ => exact absurd rfl hsize

theorem parseFusionTypes_length {types : List (String × SensorFusionType)} {values : Json} {count : ℕ}
    {defaults parsed : List SensorFusionType}
    (hparse : parseFusionTypes types values count defaults = .ok parsed) :
    parsed.length = defaults.length ∨ parsed.length = count := by
  unfold parseFusionTypes at hparse
  split at hparse
  · exact Or.inl (congrArg List.length (Except.ok.inj hparse).symm)
  · rename_i hsize
    obtain ⟨_, hcount, hrest⟩ := bind_eq_ok.mp hparse
    obtain ⟨items, hitems, htypes⟩ := bind_eq_ok.mp hrest
    apply Or.inr
    calc
      parsed.length = items.length := length_of_mapM_eq_ok htypes
      _ = values.size := length_items hsize (read_eq_ok.mp hitems)
      _ = count := of_decide_eq_true (check_eq_ok.mp hcount)

/-- An accepted virtual sensor has a type for each sensor that it links, and the formula of its
member. -/
theorem parseVirtualSensorInfo_reads {initializeMlModel : String → ℕ → MLModelInitData → Bool}
    {name : String} {sensor : Json} {virtualInfo : VirtualSensorInfo}
    (hparse : parseVirtualSensorInfo initializeMlModel name sensor = .ok (some virtualInfo)) :
    virtualInfo.linkedSensorsType.length = virtualInfo.linkedSensors.length ∧
      ∃ formula, sensor.get "Formula" = some formula ∧
        parseOption formulaOptions formula = .ok virtualInfo.formula := by
  obtain ⟨virtualSensor, -, hparse⟩ := bind_eq_ok.mp hparse
  split at hparse
  · cases Except.ok.inj hparse
  · obtain ⟨accepted, hcombination, haccepted⟩ := bind_eq_ok.mp hparse
    rw [← Option.some.inj (Except.ok.inj haccepted)]
    obtain ⟨_, -, hparse⟩ := bind_eq_ok.mp hcombination
    obtain ⟨_, -, hparse⟩ := bind_eq_ok.mp hparse
    obtain ⟨linkedSensors, -, hparse⟩ := bind_eq_ok.mp hparse
    obtain ⟨formula, hformula, hparse⟩ := bind_eq_ok.mp hparse
    obtain ⟨option, hoption, hparse⟩ := bind_eq_ok.mp hparse
    obtain ⟨_, -, hparse⟩ := bind_eq_ok.mp hparse
    obtain ⟨linkedSensorsType, htypes, hparse⟩ := bind_eq_ok.mp hparse
    obtain ⟨coefficients, -, hparse⟩ := bind_eq_ok.mp hparse
    obtain ⟨_, -, hparse⟩ := bind_eq_ok.mp hparse
    obtain ⟨coefficientsType, -, hparse⟩ := bind_eq_ok.mp hparse
    obtain ⟨_, -, hparse⟩ := bind_eq_ok.mp hparse
    obtain ⟨offset, -, hparse⟩ := bind_eq_ok.mp hparse
    obtain ⟨backupSensor, -, hparse⟩ := bind_eq_ok.mp hparse
    obtain ⟨_, -, hparse⟩ := bind_eq_ok.mp hparse
    obtain ⟨triggerSensors, -, hparse⟩ := bind_eq_ok.mp hparse
    obtain ⟨modelFile, -, hparse⟩ := bind_eq_ok.mp hparse
    rw [← Except.ok.inj hparse]
    have hlength := parseFusionTypes_length htypes
    rw [List.length_replicate, or_self] at hlength
    exact ⟨hlength, formula, read_eq_ok.mp hformula, hoption⟩

end HardwareMediatek.Thermal
