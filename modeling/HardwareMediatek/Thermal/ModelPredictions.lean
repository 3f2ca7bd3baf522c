import HardwareMediatek.Foundation.Interpolation
import HardwareMediatek.Foundation.Json
import HardwareMediatek.Foundation.Loops
import HardwareMediatek.Thermal.LinearModel
import HardwareMediatek.Thermal.ModelInput

/-!
# Predictions of a machine-learning model

The model answers with one value for each sample interval ahead. An estimate publishes the values with
their offsets; a prediction after some time joins the values of the model itself, at the whole milliseconds
since the estimate. The two agree where the offsets cancel.

Sizes and times are numbers without bound, and sums are exact.
-/

namespace HardwareMediatek.Thermal

open Foundation

/-- The fields of a model for its output. Nothing is in the buffer before the first answer. -/
structure TFliteOutput where
  outputLabelCount : ℕ
  outputBuffer : List ExactFloat
  sampleInterval : ℤ
  predictWindowMs : ℤ
  lastUpdateTime : ℤ
  offsetThresholds : List ExactFloat
  offsetValues : List ExactFloat

def TFliteOutput.create (outputLabelCount : ℕ) (offsetThresholds offsetValues : List ExactFloat) :
    TFliteOutput where
  outputLabelCount := outputLabelCount
  outputBuffer := []
  sampleInterval := 0
  predictWindowMs := 0
  lastUpdateTime := -2 ^ 63
  offsetThresholds := offsetThresholds
  offsetValues := offsetValues

/-- The part of `ParseInputConfig` about the sample interval. -/
def parseSampleInterval (inputConfig : Json) (output : TFliteOutput) : Option TFliteOutput := do
  let modelConfig ← inputConfig.get "ModelConfig"
  if modelConfig.empty then some output
  else do
    let sampleInterval ← modelConfig.get "sample_interval_ms"
    if sampleInterval.empty then some output
    else do
      let sampleIntervalMs ← sampleInterval.asInt
      if sampleIntervalMs ≤ 0 then none
      else
        some { output with
          sampleInterval := sampleIntervalMs
          predictWindowMs := sampleIntervalMs * (output.outputLabelCount - 1 : ℕ) }

structure TFliteEstimator where
  state : TFliteState
  output : TFliteOutput

/-- A call of `TFliteEstimate`, what the model writes into its buffer, and the time after that. -/
structure ModelCall where
  call : EstimateCall
  answer : List ExactFloat
  updateTime : ℤ

/-- The values of the model with their offsets. -/
def TFliteOutput.predictedValues (output : TFliteOutput) : Checked (List ExactFloat) :=
  output.outputBuffer.mapM fun predictedValue ↦ do
    let offset ← calculateOffset output.offsetThresholds output.offsetValues predictedValue
    pure (predictedValue + offset)

/-- `TFliteEstimate`, with what is written to `output`. -/
def TFliteEstimator.estimate (config : TFliteConfig) (estimator : TFliteEstimator) (model : ModelCall) :
    Checked (VtEstimatorStatus × Option (List ExactFloat) × TFliteEstimator) :=
  let result := tfliteEstimate config estimator.state model.call
  let output :=
    if result.modelInput.isSome then { estimator.output with outputBuffer := model.answer }
    else estimator.output
  if result.status = .ok then do
    let output := { output with lastUpdateTime := model.updateTime }
    let data ← output.predictedValues
    pure (.ok, some data, ⟨result.state, output⟩)
  else .ok (result.status, none, ⟨result.state, output⟩)

def TFliteEstimator.estimateAll (config : TFliteConfig) (estimator : TFliteEstimator)
    (calls : List ModelCall) : Checked TFliteEstimator :=
  calls.foldlM
    (fun estimator model ↦ do
      let (_, _, estimator) ← estimator.estimate config model
      pure estimator) estimator

/-- The results of a prediction. -/
inductive PredictionStatus where
  | ok
  | underSampling
  | unSupported
deriving DecidableEq, Repr

/-- The value between two labels. -/
def TFliteOutput.predictionAt (output : TFliteOutput) (requestTimeMs : ℤ) : Checked ExactFloat :=
  let requestStep := requestTimeMs.tdiv output.sampleInterval
  if requestStep = (output.outputLabelCount - 1 : ℕ) then
    atIndex output.outputBuffer (output.outputLabelCount - 1 : ℕ)
  else do
    let left ← atIndex output.outputBuffer requestStep
    let right ← atIndex output.outputBuffer (requestStep + 1)
    pure (if left.feq right then left
      else left + .ofInt (requestTimeMs - output.sampleInterval * requestStep) * (right - left) /
        .ofInt output.sampleInterval)

/-- `TFlitePredictAfterTimeMs`, with what is written to `output`. A request before the estimate is beyond
every window, as its time is read as a size. -/
def TFliteEstimator.predictAfterTimeMs (config : TFliteConfig) (estimator : TFliteEstimator)
    (now timeMs : ℤ) : Checked (PredictionStatus × Option ExactFloat) :=
  let output := estimator.output
  if estimator.state.curSampleCount < config.prevSamplesOrder ∧ config.supportUnderSampling = false then
    .ok (.underSampling, none)
  else
    let requestTimeMs := elapsedMs now output.lastUpdateTime + timeMs
    if output.sampleInterval = 0 ∨ output.predictWindowMs = 0 ∨ requestTimeMs < 0 ∨
        output.predictWindowMs < requestTimeMs then
      .ok (.unSupported, none)
    else do
      let prediction ← output.predictionAt requestTimeMs
      pure (.ok, some prediction)

/-! ## Offsets -/

/-- The value of the last threshold that is strictly below. -/
def offsetFor (thresholds values : List ℚ) (value : ℚ) : ℚ :=
  (((thresholds.zip values).filter fun offset ↦ offset.1 < value).getLast?.map Prod.snd).getD 0

section Offsets

variable {thresholds values : List ℚ} {value : ℚ}

theorem eq_of_calculateOffset {offset : ExactFloat}
    (hoffset : calculateOffset (thresholds.map .fin) (values.map .fin) (.fin value) = .ok offset) :
    offset = .fin (offsetFor thresholds values value) := by
  have hfound := eq_of_offsetBelow (Nat.le_refl _) hoffset
  rw [List.take_of_length_le (by rw [List.length_zip]; exact Nat.min_le_left _ _), List.zip_map,
    List.filter_map] at hfound
  have hbelow : ((fun offset : ExactFloat × ExactFloat ↦ decide (offset.1 < .fin value)) ∘
      Prod.map .fin .fin) = fun offset : ℚ × ℚ ↦ decide (offset.1 < value) := by
    funext offset
    exact decide_eq_decide.mpr ExactFloat.fin_lt_fin
  rw [hfound, hbelow, List.getLast?_map, Option.map_map, offsetFor]
  cases ((thresholds.zip values).filter fun offset ↦ offset.1 < value).getLast? <;> rfl

/-- What is published is the answer of the model with its offsets. -/
theorem eq_of_predictedValues {output : TFliteOutput} {answer : List ℚ} {data : List ExactFloat}
    (hthresholds : output.offsetThresholds = thresholds.map .fin)
    (hvalues : output.offsetValues = values.map .fin) (hanswer : output.outputBuffer = answer.map .fin)
    (hdata : output.predictedValues = .ok data) :
    data = (answer.map fun value ↦ value + offsetFor thresholds values value).map .fin := by
  unfold TFliteOutput.predictedValues at hdata
  rw [hthresholds, hvalues, hanswer] at hdata
  clear hanswer
  induction answer generalizing data with
  | nil => exact (Except.ok.inj hdata).symm
  | cons value rest ih =>
    obtain ⟨first, others, hfirst, hrest, rfl⟩ := mapM_cons_eq_ok.mp hdata
    obtain ⟨offset, hoffset, hsum⟩ := bind_eq_ok.mp hfirst
    rw [List.map_cons, List.map_cons, ih hrest, ← Except.ok.inj hsum, eq_of_calculateOffset hoffset,
      ExactFloat.fin_add_fin]

end Offsets

/-! ## Runs of estimates -/

/-- Two states of one model differ in the answer and its time. -/
structure SameModel (created output : TFliteOutput) : Prop where
  outputLabelCount : output.outputLabelCount = created.outputLabelCount
  sampleInterval : output.sampleInterval = created.sampleInterval
  predictWindowMs : output.predictWindowMs = created.predictWindowMs
  offsetThresholds : output.offsetThresholds = created.offsetThresholds
  offsetValues : output.offsetValues = created.offsetValues

section Runs

variable {config : TFliteConfig} {created : TFliteOutput} {estimator after : TFliteEstimator}

theorem SameModel.estimate (h : SameModel created estimator.output) {model : ModelCall}
    {status : VtEstimatorStatus} {data : Option (List ExactFloat)}
    (hestimate : estimator.estimate config model = .ok (status, data, after)) :
    SameModel created after.output := by
  have hanswered : SameModel created
      (if (tfliteEstimate config estimator.state model.call).modelInput.isSome then
        { estimator.output with outputBuffer := model.answer } else estimator.output) := by
    split
    · exact ⟨h.outputLabelCount, h.sampleInterval, h.predictWindowMs, h.offsetThresholds, h.offsetValues⟩
    · exact h
  unfold TFliteEstimator.estimate at hestimate
  dsimp only at hestimate
  split at hestimate
  · obtain ⟨values, -, hafter⟩ := bind_eq_ok.mp hestimate
    rw [← (Prod.mk.inj (ok_pair hafter).2).2]
    exact ⟨hanswered.outputLabelCount, hanswered.sampleInterval, hanswered.predictWindowMs,
      hanswered.offsetThresholds, hanswered.offsetValues⟩
  · rw [← (Prod.mk.inj (ok_pair hestimate).2).2]
    exact hanswered

theorem SameModel.estimateAll (h : SameModel created estimator.output) {calls : List ModelCall}
    (hrun : estimator.estimateAll config calls = .ok after) : SameModel created after.output := by
  apply @foldlM_done _ _ _ (fun _ estimator ↦ SameModel created estimator.output) _ calls estimator after h _
    hrun
  intro done model before next hbefore hround
  obtain ⟨result, hestimate, hnext⟩ := bind_eq_ok.mp hround
  rw [← Except.ok.inj hnext]
  exact hbefore.estimate hestimate

/-- An estimate that was published is not under sampling. -/
theorem not_underSampling_of_ok {state : TFliteState} {call : EstimateCall}
    (hok : (tfliteEstimate config state call).status = .ok) :
    (tfliteEstimate config state call).modelInput.isSome = true ∧
      ¬ ((tfliteEstimate config state call).state.curSampleCount < config.prevSamplesOrder ∧
        config.supportUnderSampling = false) := by
  unfold tfliteEstimate at hok ⊢
  split at hok
  · cases hok
  · rename_i haccepted
    rw [if_neg haccepted]
    dsimp only at hok ⊢
    generalize (if config.maxSampleInterval ≤ elapsedMs call.now state.prevSampleTime then 0
      else state.curSampleCount) = curSampleCount at hok ⊢
    split at hok
    · rename_i hcopied
      rw [if_pos hcopied]
      split at hok
      · cases hok
      · rename_i hfull
        rw [if_neg hfull]
        exact ⟨rfl, hfull⟩
    · cases hok

theorem estimate_of_ok {model : ModelCall} {data : List ExactFloat}
    (hok : (tfliteEstimate config estimator.state model.call).status = .ok)
    (hdata : { estimator.output with
        outputBuffer := model.answer
        lastUpdateTime := model.updateTime }.predictedValues = .ok data) :
    estimator.estimate config model =
      .ok (.ok, some data,
        ⟨(tfliteEstimate config estimator.state model.call).state,
          { estimator.output with
            outputBuffer := model.answer
            lastUpdateTime := model.updateTime }⟩) := by
  unfold TFliteEstimator.estimate
  dsimp only
  rw [if_pos hok, if_pos (not_underSampling_of_ok hok).1, hdata]
  rfl

/-- A published estimate, for a model with rational values. -/
structure PublishedEstimate (config : TFliteConfig) (created : TFliteOutput) (answer out : List ℚ)
    (thresholds values : List ℚ) (updateTime : ℤ) (after : TFliteEstimator) : Prop where
  sameModel : SameModel created after.output
  outputBuffer : after.output.outputBuffer = answer.map .fin
  lastUpdateTime : after.output.lastUpdateTime = updateTime
  sampled : ¬ (after.state.curSampleCount < config.prevSamplesOrder ∧ config.supportUnderSampling = false)
  published : out = answer.map fun value ↦ value + offsetFor thresholds values value

theorem publishedEstimate {answer out thresholds values : List ℚ} {call : EstimateCall} {updateTime : ℤ}
    (h : SameModel created estimator.output) (hthresholds : created.offsetThresholds = thresholds.map .fin)
    (hvalues : created.offsetValues = values.map .fin)
    (hestimate : estimator.estimate config ⟨call, answer.map .fin, updateTime⟩ =
      .ok (.ok, some (out.map .fin), after)) :
    PublishedEstimate config created answer out thresholds values updateTime after := by
  have hsame := h.estimate hestimate
  unfold TFliteEstimator.estimate at hestimate
  dsimp only at hestimate
  split at hestimate
  · rename_i hok
    have hsampled := not_underSampling_of_ok hok
    rw [if_pos hsampled.1] at hestimate
    obtain ⟨data, hdata, hresult⟩ := bind_eq_ok.mp hestimate
    obtain ⟨hout, hafter⟩ := Prod.mk.inj (ok_pair hresult).2
    subst hafter
    have hvalue := eq_of_predictedValues (hsame.offsetThresholds.trans hthresholds)
      (hsame.offsetValues.trans hvalues) rfl hdata
    rw [Option.some.inj hout] at hvalue
    refine ⟨hsame, rfl, rfl, hsampled.2, ?_⟩
    exact List.map_injective_iff.mpr (fun _ _ hfin ↦ ExactFloat.fin.inj hfin) hvalue
  · cases (Prod.mk.inj (ok_pair hestimate).2).1

end Runs

/-! ## Predictions -/

/-- The value of a label. -/
def labelValue (values : List ℚ) (k : ℕ) : ℚ := values.getD k 0

/-- What a prediction should be: it succeeds inside the window, where it is on the line between the values
that were published. -/
structure AgreesWith (out : List ℚ) (sampleInterval requestNs : ℕ)
    (prediction : Checked (PredictionStatus × Option ExactFloat)) : Prop where
  inBounds : ∃ result, prediction = .ok result
  succeeds : (∃ value, prediction = .ok (.ok, value)) ↔
    requestNs ≤ (out.length - 1) * (sampleInterval * 1000000)
  agrees : ∀ value, prediction = .ok (.ok, value) →
    value = some (.fin (interpolate (labelValue out) (requestNs / (sampleInterval * 1000000 : ℕ))))

/-- Inside the window there are two labels, and the offsets make up for what the answer changes in the
part of a millisecond that is dropped; a request outside is a whole millisecond late. -/
structure LabelsAgree (answer offsets : List ℚ) (sampleInterval requestNs : ℕ) : Prop where
  inside : requestNs ≤ (answer.length - 1) * (sampleInterval * 1000000) → 1 < answer.length ∧
    interpolate (labelValue offsets) (requestNs / (sampleInterval * 1000000 : ℕ)) +
      (requestNs % 1000000 : ℕ) / (sampleInterval * 1000000 : ℕ) *
        slopeAt (labelValue answer) (requestNs / (sampleInterval * 1000000 : ℕ)) = 0
  outside : (answer.length - 1) * (sampleInterval * 1000000) < requestNs →
    answer.length = 1 ∨ ((answer.length - 1) * sampleInterval + 1) * 1000000 ≤ requestNs

section Predictions

variable {answer offsets out : List ℚ} {sampleInterval requestTimeMs requestNs : ℕ} {output : TFliteOutput}

/-- The value on the line between two labels, where nothing is added between equal ones. -/
theorem ite_feq (left right : ℚ) (distance : ℤ) {interval : ℤ} (hinterval : interval ≠ 0) :
    (if (ExactFloat.fin left).feq (.fin right) then .fin left
      else .fin left + .ofInt distance * (.fin right - .fin left) / .ofInt interval) =
      ExactFloat.fin (left + distance * (right - left) / interval) := by
  by_cases hsame : left = right
  · rw [hsame, if_pos (by simp [ExactFloat.feq]), sub_self, mul_zero, zero_div, add_zero]
  · have hnonzero : (interval : ℚ) ≠ 0 := Int.cast_ne_zero.mpr hinterval
    have hdiv : ∀ x : ℚ, ExactFloat.fin x / .fin interval = .fin (x / interval) := fun x ↦ if_neg hnonzero
    rw [if_neg (by simp [ExactFloat.feq, hsame])]
    unfold ExactFloat.ofInt
    rw [ExactFloat.fin_sub_fin, ExactFloat.fin_mul_fin, hdiv, ExactFloat.fin_add_fin]

/-- A request inside the window reads the labels around it. -/
theorem predictionAt_eq (hcount : output.outputLabelCount = answer.length)
    (hbuffer : output.outputBuffer = answer.map .fin) (hinterval : output.sampleInterval = sampleInterval)
    (hpositive : 0 < sampleInterval) (hlabels : 1 ≤ answer.length)
    (hinside : requestTimeMs ≤ (answer.length - 1) * sampleInterval) :
    output.predictionAt requestTimeMs =
      .ok (.fin (interpolate (labelValue answer) (requestTimeMs / sampleInterval))) := by
  have hstep : requestTimeMs / sampleInterval ≤ answer.length - 1 := Nat.div_le_of_le_mul (by
    rw [Nat.mul_comm]
    exact hinside)
  have hat : ∀ k < answer.length, atIndex output.outputBuffer k = .ok (.fin (labelValue answer k)) := by
    intro k hk
    rw [hbuffer]
    apply atIndex_of_getElem?
    unfold labelValue
    rw [List.getElem?_map, List.getElem?_eq_getElem hk, List.getD_eq_getElem _ _ hk]
    rfl
  have htdiv : (requestTimeMs : ℤ).tdiv sampleInterval = (requestTimeMs / sampleInterval : ℕ) := by
    rw [Int.tdiv_eq_ediv_of_nonneg (Int.natCast_nonneg _), Int.natCast_ediv]
  unfold TFliteOutput.predictionAt
  rw [hinterval, hcount, htdiv, interpolate_div _ hpositive]
  dsimp only
  by_cases hright : requestTimeMs / sampleInterval = answer.length - 1
  · have hend : sampleInterval * (requestTimeMs / sampleInterval) = requestTimeMs := by
      apply Nat.le_antisymm (Nat.mul_div_le _ _)
      rw [hright, Nat.mul_comm]
      exact hinside
    have hrest : (requestTimeMs : ℚ) - sampleInterval * (requestTimeMs / sampleInterval : ℕ) = 0 := by
      rw [← Nat.cast_mul, hend, sub_self]
    rw [if_pos (congrArg Nat.cast hright), hat _ (by omega), hrest, hright, zero_mul, zero_div, add_zero]
  · have hnext : ((requestTimeMs / sampleInterval : ℕ) : ℤ) + 1 =
        (requestTimeMs / sampleInterval + 1 : ℕ) := by
      push_cast
      rfl
    rw [if_neg fun hsame ↦ hright (Nat.cast_injective hsame), hat _ (by omega), hnext, hat _ (by omega)]
    apply congrArg Except.ok
    rw [ite_feq _ _ _ (by omega)]
    push_cast
    rfl

/-- A model with a sample interval has a window up to its last label. -/
theorem create_of_parse {inputConfig : Json} {outputLabelCount : ℕ} {thresholds values : List ExactFloat}
    {created : TFliteOutput}
    (hparse : parseSampleInterval inputConfig (.create outputLabelCount thresholds values) = some created)
    (hinterval : 0 < created.sampleInterval) :
    created = { TFliteOutput.create outputLabelCount thresholds values with
      sampleInterval := created.sampleInterval
      predictWindowMs := created.sampleInterval * (outputLabelCount - 1 : ℕ) } := by
  have hnone : (TFliteOutput.create outputLabelCount thresholds values).sampleInterval = 0 := rfl
  obtain ⟨modelConfig, -, hparse⟩ := Option.bind_eq_some_iff.mp hparse
  split at hparse
  · rw [← Option.some.inj hparse, hnone] at hinterval
    exact absurd hinterval (lt_irrefl _)
  · obtain ⟨sampleInterval, -, hparse⟩ := Option.bind_eq_some_iff.mp hparse
    split at hparse
    · rw [← Option.some.inj hparse, hnone] at hinterval
      exact absurd hinterval (lt_irrefl _)
    · obtain ⟨sampleIntervalMs, -, hparse⟩ := Option.bind_eq_some_iff.mp hparse
      split at hparse
      · cases hparse
      · rw [← Option.some.inj hparse]
        rfl

/-- A prediction after an estimate, at the whole milliseconds of the request. -/
theorem PublishedEstimate.predictAfterTimeMs {config : TFliteConfig} {created : TFliteOutput}
    {thresholds values : List ℚ} {updateTime : ℤ} {after : TFliteEstimator}
    (h : PublishedEstimate config created answer out thresholds values updateTime after)
    (hcount : created.outputLabelCount = answer.length) (hinterval : created.sampleInterval = sampleInterval)
    (hwindow : created.predictWindowMs = (sampleInterval * (answer.length - 1) : ℕ))
    (hpositive : 0 < sampleInterval) (hlabels : 1 ≤ answer.length) (elapsed timeMs : ℕ) :
    after.predictAfterTimeMs config (updateTime + elapsed) timeMs =
      if 1 < answer.length ∧ elapsed / 1000000 + timeMs ≤ (answer.length - 1) * sampleInterval then
        .ok (.ok, some (.fin (interpolate (labelValue answer)
          ((elapsed / 1000000 + timeMs : ℕ) / sampleInterval))))
      else .ok (.unSupported, none) := by
  have hrequest : elapsedMs (updateTime + elapsed) updateTime + timeMs =
      (elapsed / 1000000 + timeMs : ℕ) := by
    unfold elapsedMs
    rw [add_sub_cancel_left, Int.tdiv_eq_ediv_of_nonneg (Int.natCast_nonneg _)]
    push_cast
    rfl
  unfold TFliteEstimator.predictAfterTimeMs
  dsimp only
  rw [if_neg h.sampled, h.lastUpdateTime, hrequest, h.sameModel.sampleInterval, h.sameModel.predictWindowMs,
    hinterval, hwindow]
  generalize elapsed / 1000000 + timeMs = requestTimeMs
  have hproduct : sampleInterval * (answer.length - 1) = 0 ↔ ¬ 1 < answer.length := by
    rw [Nat.mul_eq_zero]
    omega
  by_cases hinside : 1 < answer.length ∧ requestTimeMs ≤ (answer.length - 1) * sampleInterval
  · rw [if_pos hinside, if_neg]
    · rw [predictionAt_eq (h.sameModel.outputLabelCount.trans hcount) h.outputBuffer
        (h.sameModel.sampleInterval.trans hinterval) hpositive hlabels hinside.2]
      rfl
    · rw [Nat.cast_eq_zero, Nat.cast_eq_zero, hproduct, Nat.cast_lt, Nat.mul_comm]
      omega
  · rw [if_neg hinside, if_pos]
    rw [Nat.cast_eq_zero, Nat.cast_eq_zero, hproduct, Nat.cast_lt, Nat.mul_comm]
    rw [not_and_or, Nat.not_le] at hinside
    exact Or.inr (hinside.imp id Or.inr)

theorem labelValue_add (f : ℚ → ℚ) (answer : List ℚ) :
    labelValue (answer.map fun value ↦ value + f value) =
      fun k ↦ labelValue answer k + labelValue (answer.map f) k := by
  funext k
  unfold labelValue
  rw [List.getD_eq_getElem?_getD, List.getD_eq_getElem?_getD, List.getD_eq_getElem?_getD, List.getElem?_map,
    List.getElem?_map]
  cases answer[k]? with
  | none => exact (add_zero 0).symm
  | some value => rfl

/-- The whole milliseconds of a request are between the same labels as the request. -/
theorem interpolate_eq_iff (hpositive : 0 < sampleInterval)
    (hout : labelValue out = fun k ↦ labelValue answer k + labelValue offsets k) :
    interpolate (labelValue answer) ((requestNs / 1000000 : ℕ) / sampleInterval) =
        interpolate (labelValue out) (requestNs / (sampleInterval * 1000000 : ℕ)) ↔
      interpolate (labelValue offsets) (requestNs / (sampleInterval * 1000000 : ℕ)) +
        (requestNs % 1000000 : ℕ) / (sampleInterval * 1000000 : ℕ) *
          slopeAt (labelValue answer) (requestNs / (sampleInterval * 1000000 : ℕ)) = 0 := by
  have hnonzero : (sampleInterval : ℚ) ≠ 0 := Nat.cast_ne_zero.mpr hpositive.ne'
  have hfloor : ⌊((requestNs / 1000000 : ℕ) : ℚ) / sampleInterval⌋₊ =
      ⌊(requestNs : ℚ) / (sampleInterval * 1000000 : ℕ)⌋₊ := by
    rw [Nat.floor_div_eq_div, Nat.floor_div_eq_div, Nat.div_div_eq_div_mul, Nat.mul_comm]
  have hdropped : (requestNs : ℚ) / (sampleInterval * 1000000 : ℕ) -
      (requestNs / 1000000 : ℕ) / sampleInterval =
        (requestNs % 1000000 : ℕ) / (sampleInterval * 1000000 : ℕ) := by
    have hsplit : (requestNs : ℚ) = 1000000 * (requestNs / 1000000 : ℕ) + (requestNs % 1000000 : ℕ) :=
      mod_cast (Nat.div_add_mod requestNs 1000000).symm
    push_cast
    field_simp
    linear_combination hsplit
  have hbetween := interpolate_sub_of_floor_eq (labelValue answer) hfloor
  rw [hdropped] at hbetween
  rw [hout, interpolate_add]
  apply Iff.intro
  · intro hsame
    linear_combination -hsame - hbetween
  · intro hzero
    linear_combination -hzero - hbetween

/-- A prediction agrees with what was published if and only if its labels do. -/
theorem agreesWith_iff (hpositive : 0 < sampleInterval) (hlabels : 1 ≤ answer.length)
    (hlength : out.length = answer.length)
    (hout : labelValue out = fun k ↦ labelValue answer k + labelValue offsets k) :
    AgreesWith out sampleInterval requestNs
        (if 1 < answer.length ∧ requestNs / 1000000 ≤ (answer.length - 1) * sampleInterval then
          .ok (.ok, some (.fin (interpolate (labelValue answer)
            ((requestNs / 1000000 : ℕ) / sampleInterval))))
        else .ok (.unSupported, none)) ↔
      LabelsAgree answer offsets sampleInterval requestNs := by
  have hassoc : (answer.length - 1) * (sampleInterval * 1000000) =
      (answer.length - 1) * sampleInterval * 1000000 := (Nat.mul_assoc _ _ _).symm
  by_cases hinside : 1 < answer.length ∧ requestNs / 1000000 ≤ (answer.length - 1) * sampleInterval
  · rw [if_pos hinside]
    apply Iff.intro
    · intro hagrees
      have hwindow := hagrees.succeeds.mp ⟨_, rfl⟩
      rw [hlength] at hwindow
      refine ⟨fun _ ↦ ⟨hinside.1, ?_⟩, fun hlate ↦ absurd hwindow (Nat.not_le.mpr hlate)⟩
      apply (interpolate_eq_iff hpositive hout).mp
      exact ExactFloat.fin.inj (Option.some.inj (hagrees.agrees _ rfl))
    · intro hagree
      have hwindow : requestNs ≤ (answer.length - 1) * (sampleInterval * 1000000) := by
        apply Nat.le_of_not_lt
        intro hlate
        have hmilliseconds := (hagree.outside hlate).resolve_left (by omega)
        omega
      refine ⟨⟨_, rfl⟩, ?_, ?_⟩
      · rw [hlength]
        exact iff_of_true ⟨_, rfl⟩ hwindow
      · intro value hvalue
        rw [← (ok_pair hvalue).2,
          (interpolate_eq_iff hpositive hout).mpr (hagree.inside hwindow).2]
  · rw [if_neg hinside]
    have hnone : ∀ value, (.ok (.unSupported, none) : Checked (PredictionStatus × Option ExactFloat)) ≠
        .ok (.ok, value) := by
      intro value hvalue
      cases (ok_pair hvalue).1
    apply Iff.intro
    · intro hagrees
      have hlate : ¬ requestNs ≤ (answer.length - 1) * (sampleInterval * 1000000) := by
        intro hwindow
        rw [← hlength] at hwindow
        obtain ⟨value, hvalue⟩ := hagrees.succeeds.mpr hwindow
        exact hnone value hvalue
      refine ⟨fun hwindow ↦ absurd hwindow hlate, fun _ ↦ ?_⟩
      omega
    · intro hagree
      refine ⟨⟨_, rfl⟩, ?_, fun value hvalue ↦ absurd hvalue (hnone value)⟩
      rw [hlength]
      apply iff_of_false
      · exact fun hok ↦ hok.elim hnone
      · intro hwindow
        have htwo := (hagree.inside hwindow).1
        omega

end Predictions

/-- A prediction after an estimate agrees with what was published if and only if the labels agree: for
requests at whole milliseconds inside the window of a model with several labels, the offsets cancel. -/
theorem predictsEstimate_iff {config : TFliteConfig} {state : TFliteState} {inputConfig : Json}
    {thresholds values : List ℚ} {created : TFliteOutput} {answer out : List ℚ}
    (hparse : parseSampleInterval inputConfig
      (.create answer.length (thresholds.map .fin) (values.map .fin)) = some created)
    (hlabels : 1 ≤ answer.length) (hinterval : 0 < created.sampleInterval)
    {earlier : List ModelCall} {before after : TFliteEstimator}
    (hearlier : TFliteEstimator.estimateAll config ⟨state, created⟩ earlier = .ok before)
    {call : EstimateCall} {updateTime : ℤ}
    (hestimate : before.estimate config ⟨call, answer.map .fin, updateTime⟩ =
      .ok (.ok, some (out.map .fin), after)) (elapsed timeMs : ℕ) :
    AgreesWith out created.sampleInterval.toNat (elapsed + timeMs * 1000000)
        (after.predictAfterTimeMs config (updateTime + elapsed) timeMs) ↔
      LabelsAgree answer (answer.map (offsetFor thresholds values)) created.sampleInterval.toNat
        (elapsed + timeMs * 1000000) := by
  have hcreated := create_of_parse hparse hinterval
  have hsame : SameModel created before.output := by
    have hstart : SameModel created (TFliteEstimator.mk state created).output := ⟨rfl, rfl, rfl, rfl, rfl⟩
    exact hstart.estimateAll hearlier
  have hthresholds : created.offsetThresholds = thresholds.map .fin :=
    congrArg TFliteOutput.offsetThresholds hcreated
  have hvalues : created.offsetValues = values.map .fin := congrArg TFliteOutput.offsetValues hcreated
  have hpublished := publishedEstimate hsame hthresholds hvalues hestimate
  have htoNat : created.sampleInterval = (created.sampleInterval.toNat : ℤ) :=
    (Int.toNat_of_nonneg hinterval.le).symm
  have hpredict := hpublished.predictAfterTimeMs (congrArg TFliteOutput.outputLabelCount hcreated) htoNat ?_
    (by omega) hlabels elapsed timeMs
  · have hrequest : elapsed / 1000000 + timeMs = (elapsed + timeMs * 1000000) / 1000000 := by omega
    rw [hpredict, hrequest]
    apply agreesWith_iff (by omega) hlabels
    · rw [hpublished.published, List.length_map]
    · rw [hpublished.published]
      exact labelValue_add (offsetFor thresholds values) answer
  · rw [congrArg TFliteOutput.predictWindowMs hcreated]
    push_cast
    rw [← htoNat]

/-- A model with two labels, a second apart. -/
def twoLabelsConfig : Json := .obj [("ModelConfig", .obj [("sample_interval_ms", .int 1000)])]

def twoLabelsOutput (thresholds values : List ℚ) : TFliteOutput :=
  { TFliteOutput.create 2 (thresholds.map .fin) (values.map .fin) with
    sampleInterval := 1000
    predictWindowMs := 1000 }

def twoLabelsEstimator (thresholds values : List ℚ) : TFliteEstimator where
  state := (tfliteEstimate pairConfig pairState (pairCall (.fin 10))).state
  output :=
    { twoLabelsOutput thresholds values with
      outputBuffer := [.fin 40, .fin 50]
      lastUpdateTime := 0 }

theorem estimate_twoLabels {thresholds values out : List ℚ}
    (hpublished : ((twoLabelsEstimator thresholds values).output.predictedValues).toOption =
      some (out.map .fin)) :
    TFliteEstimator.estimate pairConfig ⟨pairState, twoLabelsOutput thresholds values⟩
        ⟨pairCall (.fin 10), [40, 50].map .fin, 0⟩ =
      .ok (.ok, some (out.map .fin), twoLabelsEstimator thresholds values) :=
  estimate_of_ok rfl (toOption_eq_some hpublished)

/-- Half a second after the estimate of a model without offsets. -/
theorem predictsEstimate_halfSecond :
    AgreesWith [40, 50] 1000 (0 + 500 * 1000000)
      ((twoLabelsEstimator [] []).predictAfterTimeMs pairConfig (0 + 0) 500) := by
  apply (@predictsEstimate_iff pairConfig pairState twoLabelsConfig [] [] (twoLabelsOutput [] []) [40, 50]
    [40, 50] rfl (by decide) (by decide) [] _ (twoLabelsEstimator [] []) rfl (pairCall (.fin 10)) 0
    (estimate_twoLabels (by decide +kernel)) 0 500).mpr
  apply LabelsAgree.mk
  · intro _
    apply And.intro (by decide)
    decide +kernel
  · intro hlate
    exact absurd hlate (by decide)

/-- Half a second after the estimate of a model with an offset, the prediction is without it. -/
theorem prediction_drops_offset :
    ¬ ∀ (config : TFliteConfig) (state : TFliteState) (inputConfig : Json) (thresholds values : List ℚ)
        (created : TFliteOutput) (answer out : List ℚ) (earlier : List ModelCall)
        (before after : TFliteEstimator) (call : EstimateCall) (updateTime : ℤ) (elapsed timeMs : ℕ),
      parseSampleInterval inputConfig
          (.create answer.length (thresholds.map .fin) (values.map .fin)) = some created →
        1 ≤ answer.length → 0 < created.sampleInterval →
          TFliteEstimator.estimateAll config ⟨state, created⟩ earlier = .ok before →
            before.estimate config ⟨call, answer.map .fin, updateTime⟩ =
              .ok (.ok, some (out.map .fin), after) →
              AgreesWith out created.sampleInterval.toNat (elapsed + timeMs * 1000000)
                (after.predictAfterTimeMs config (updateTime + elapsed) timeMs) := by
  intro hclaim
  have hagrees := hclaim pairConfig pairState twoLabelsConfig [0] [1] (twoLabelsOutput [0] [1]) [40, 50] [41, 51]
    [] _ (twoLabelsEstimator [0] [1]) (pairCall (.fin 10)) 0 0 500 rfl (by decide) (by decide) rfl
    (estimate_twoLabels (by decide +kernel))
  have hvalue := hagrees.agrees (some (.fin 45)) (toOption_eq_some (by decide +kernel))
  exact absurd hvalue (by decide +kernel)

end HardwareMediatek.Thermal
