import HardwareMediatek.Foundation.Checked
import HardwareMediatek.Foundation.RingBuffer
import HardwareMediatek.Thermal.PowerFiles
import HardwareMediatek.Thermal.ThermalStats

/-!
# Predictions

A predictor sensor keeps the predictions of its last updates in a ring, each for as many times ahead as the
ring has slots. A predicted sensor is read from a prediction that was made for about now.
-/

namespace HardwareMediatek.Thermal

open Foundation UnorderedMap

structure PredictionSample where
  timestamp : ℤ
  values : List ExactFloat
deriving DecidableEq

structure PredictorSensorInfo where
  sensorName : String
  sampleDuration : ℤ
  numOutSamples : ℤ
  samples : List PredictionSample
  curIndex : ℤ

structure PredictedSensorInfo where
  sensorName : String
  linkedSensor : String
  duration : ℤ
  predictionIndex : ℤ

structure ThermalPredictionsHelper where
  predictorSensors : UnorderedMap String PredictorSensorInfo
  predictedSensors : UnorderedMap String PredictedSensorInfo

/-- `kToleranceIntervalMs`. -/
def kToleranceIntervalMs : ℤ := 3750

/-- A slot that was not written yet. -/
def PredictionSample.unset (numOutSamples : ℤ) : PredictionSample where
  timestamp := minTimePoint
  values := List.replicate numOutSamples.toNat .nan

namespace ThermalPredictionsHelper

def registerPredictorSensor (helper : ThermalPredictionsHelper) (sensorName : String)
    (sampleDuration numOutSamples : ℤ) : ThermalPredictionsHelper × Bool :=
  if sampleDuration ≤ 0 ∨ numOutSamples ≤ 0 then (helper, false)
  else if sensorName ∈ helper.predictorSensors then (helper, false)
  else
    ({ helper with
        predictorSensors := helper.predictorSensors.put sensorName
          { sensorName := sensorName
            sampleDuration := sampleDuration
            numOutSamples := numOutSamples
            samples := List.replicate numOutSamples.toNat (.unset numOutSamples)
            curIndex := 0 } }, true)

/-- The product of the samples and their interval may overflow. -/
def registerPredictedSensor (helper : ThermalPredictionsHelper) (sensorName linkedSensor : String)
    (duration : ℤ) : ThermalPredictionsHelper × Bool :=
  if duration < 0 then (helper, false)
  else if sensorName ∈ helper.predictedSensors then (helper, false)
  else
    match helper.predictorSensors.lookup linkedSensor with
    | none => (helper, false)
    | some predictorSensorInfo =>
      let maxPredictionDuration :=
        wrapInt ((predictorSensorInfo.numOutSamples - 1) * predictorSensorInfo.sampleDuration)
      if maxPredictionDuration < duration then (helper, false)
      else
        ({ helper with
            predictedSensors := helper.predictedSensors.put sensorName
              { sensorName := sensorName
                linkedSensor := linkedSensor
                duration := duration
                predictionIndex := duration.tdiv predictorSensorInfo.sampleDuration } }, true)

/-- `updateSensor` at a time. -/
def updateSensor (helper : ThermalPredictionsHelper) (sensorName : String) (values : List ExactFloat)
    (now : ℤ) : Checked (ThermalPredictionsHelper × Bool) :=
  match helper.predictorSensors.lookup sensorName with
  | none => .ok (helper, false)
  | some info =>
    if (values.length : ℤ) ≠ info.numOutSamples then .ok (helper, false)
    else do
      let _ ← atIndex info.samples info.curIndex
      let info := { info with
        samples := info.samples.set info.curIndex.toNat ⟨now, values⟩
        curIndex := (info.curIndex + 1).tmod info.numOutSamples }
      pure ({ helper with predictorSensors := helper.predictorSensors.put sensorName info }, true)

/-- The loop over the ring, from the slot that was written last backward. -/
def scanSamples (info : PredictorSensorInfo) (now minTimeElapsedMs maxTimeElapsedMs predictionIndex : ℤ) :
    ℕ → ℤ → Checked (Option ExactFloat)
  | 0, _ => .ok none
  | remaining + 1, loopCount => do
    let index := info.curIndex - loopCount - 1
    let sample ← atIndex info.samples (if index < 0 then index + info.numOutSamples else index)
    let timeElapsed := (timeDifference now sample.timestamp).tdiv 1000000
    if timeElapsed ≤ maxTimeElapsedMs ∧ minTimeElapsedMs ≤ timeElapsed then do
      let value ← atIndex sample.values predictionIndex
      pure (some value)
    else
      scanSamples info now minTimeElapsedMs maxTimeElapsedMs predictionIndex remaining (loopCount + 1)

/-- `readSensor` at a time: its status, and what is in `*temp` afterwards. The upper bound of the age may
overflow. -/
def readSensor (helper : ThermalPredictionsHelper) (sensorName : String) (temp : ExactFloat) (now : ℤ) :
    Checked (SensorReadStatus × ExactFloat) :=
  match helper.predictedSensors.lookup sensorName with
  | none => .ok (.error, temp)
  | some predicted =>
    match helper.predictorSensors.lookup predicted.linkedSensor with
    | none => .ok (.error, temp)
    | some info => do
      let found ← scanSamples info now (predicted.duration - kToleranceIntervalMs)
        (wrapInt (predicted.duration + kToleranceIntervalMs)) predicted.predictionIndex
        (max 1 info.numOutSamples.toNat) 0
      pure (found.elim (.underCollecting, temp) fun value ↦ (.okay, value))

end ThermalPredictionsHelper

/-! ## Registration -/

/-- A call that registers a sensor. -/
inductive Registration where
  | predictor (sensorName : String) (sampleDuration numOutSamples : ℤ)
  | predicted (sensorName linkedSensor : String) (duration : ℤ)

def register (helper : ThermalPredictionsHelper) : Registration → ThermalPredictionsHelper
  | .predictor sensorName sampleDuration numOutSamples =>
    (helper.registerPredictorSensor sensorName sampleDuration numOutSamples).1
  | .predicted sensorName linkedSensor duration =>
    (helper.registerPredictedSensor sensorName linkedSensor duration).1

/-- The sensors after some registrations. -/
def registerAll (registrations : List Registration) : ThermalPredictionsHelper :=
  registrations.foldl register ⟨∅, ∅⟩

/-- A predictor as it was registered. -/
structure PredictorSensorInfo.Fresh (info : PredictorSensorInfo) : Prop where
  sampleDuration : 0 < info.sampleDuration
  numOutSamples : 0 < info.numOutSamples
  samples : info.samples = List.replicate info.numOutSamples.toNat (.unset info.numOutSamples)
  curIndex : info.curIndex = 0

/-- The predictions of a sensor are made by a predictor that looks far enough ahead. -/
structure PredictedSensorInfo.Linked (predicted : PredictedSensorInfo) (info : PredictorSensorInfo) :
    Prop where
  duration : 0 ≤ predicted.duration
  le_max : predicted.duration ≤ wrapInt ((info.numOutSamples - 1) * info.sampleDuration)
  predictionIndex : predicted.predictionIndex = predicted.duration.tdiv info.sampleDuration

/-- What the registrations lead to. -/
structure Registered (helper : ThermalPredictionsHelper) : Prop where
  predictors : ∀ name info, helper.predictorSensors.lookup name = some info → info.Fresh
  predicted : ∀ name predicted, helper.predictedSensors.lookup name = some predicted →
    ∃ info, helper.predictorSensors.lookup predicted.linkedSensor = some info ∧ predicted.Linked info

theorem Registered.register {helper : ThermalPredictionsHelper} (h : Registered helper)
    (registration : Registration) : Registered (register helper registration) := by
  cases registration with
  | predictor sensorName sampleDuration numOutSamples =>
    unfold Thermal.register ThermalPredictionsHelper.registerPredictorSensor
    dsimp only
    split
    · exact h
    · rename_i hvalid
      push Not at hvalid
      split
      · exact h
      · rename_i hnew
        refine ⟨?_, ?_⟩
        · intro name info hinfo
          rw [lookup_put] at hinfo
          split at hinfo
          · rw [← Option.some.inj hinfo]
            exact ⟨hvalid.1, hvalid.2, rfl, rfl⟩
          · exact h.predictors name info hinfo
        · intro name predicted hpredicted
          obtain ⟨info, hinfo, hlinked⟩ := h.predicted name predicted hpredicted
          have hother : predicted.linkedSensor ≠ sensorName :=
            fun hsame ↦ hnew (hsame ▸ mem_of_lookup hinfo)
          exact ⟨info, by rw [lookup_put, if_neg hother]; exact hinfo, hlinked⟩
  | predicted sensorName linkedSensor duration =>
    unfold Thermal.register ThermalPredictionsHelper.registerPredictedSensor
    dsimp only
    split
    · exact h
    · rename_i hduration
      split
      · exact h
      · split
        · exact h
        · rename_i info hinfo
          split
          · exact h
          · rename_i hmax
            refine ⟨h.predictors, ?_⟩
            intro name predicted hpredicted
            rw [lookup_put] at hpredicted
            split at hpredicted
            · rw [← Option.some.inj hpredicted]
              exact ⟨info, hinfo, not_lt.mp hduration, not_lt.mp hmax, rfl⟩
            · exact h.predicted name predicted hpredicted

theorem registered_registerAll (registrations : List Registration) :
    Registered (registerAll registrations) := by
  apply List.foldlRecOn (motive := Registered) registrations Thermal.register
  · exact ⟨fun name info hinfo ↦ (nomatch hinfo), fun name predicted hpredicted ↦ (nomatch hpredicted)⟩
  · intro helper h registration _
    exact h.register registration

end HardwareMediatek.Thermal
