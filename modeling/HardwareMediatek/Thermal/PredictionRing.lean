import HardwareMediatek.Foundation.Loops
import HardwareMediatek.Thermal.Predictions
import Mathlib.Data.List.Find

/-!
# The ring of predictions

The ring of a predictor holds the predictions of its last updates. A reading finds the last one that was
made for about now, unless an integer overflows: the largest age that is right, for the longest durations,
or the age of a slot that was never written, at the end of what the clock can count.
-/

namespace HardwareMediatek.Thermal

open Foundation UnorderedMap

section Updates

/-- A call of `updateSensor` and its time. -/
structure PredictionUpdate where
  sensorName : String
  values : List ExactFloat
  now : ℤ

def PredictionUpdate.sample (update : PredictionUpdate) : PredictionSample :=
  ⟨update.now, update.values⟩

def updateAll (helper : ThermalPredictionsHelper) (updates : List PredictionUpdate) :
    Checked ThermalPredictionsHelper :=
  updates.foldlM
    (fun helper update ↦ do
      let (helper, _) ← helper.updateSensor update.sensorName update.values update.now
      pure helper) helper

/-- The updates of a predictor that have as many values as it has samples. -/
def updatesOf (name : String) (numOutSamples : ℤ) (updates : List PredictionUpdate) :
    List PredictionUpdate :=
  updates.filter fun update ↦ update.sensorName = name ∧ (update.values.length : ℤ) = numOutSamples

/-- The predictor after some updates. -/
structure HoldsUpdates (registered info : PredictorSensorInfo) (updates : List PredictionUpdate) : Prop where
  sampleDuration : info.sampleDuration = registered.sampleDuration
  numOutSamples : info.numOutSamples = registered.numOutSamples
  samples : Foundation.RingHolds registered.numOutSamples.toNat info.samples
    (List.replicate registered.numOutSamples.toNat (.unset registered.numOutSamples) ++
      updates.map PredictionUpdate.sample)
  curIndex : info.curIndex = (updates.length % registered.numOutSamples.toNat : ℕ)

variable {registered info : PredictorSensorInfo} {updates : List PredictionUpdate}
  {helper helper' : ThermalPredictionsHelper} {name : String}

theorem updatesOf_concat (numOutSamples : ℤ) (update : PredictionUpdate) :
    updatesOf name numOutSamples (updates ++ [update]) =
      if update.sensorName = name ∧ (update.values.length : ℤ) = numOutSamples then
        updatesOf name numOutSamples updates ++ [update]
      else updatesOf name numOutSamples updates := by
  unfold updatesOf
  rw [List.filter_append]
  by_cases hof : update.sensorName = name ∧ (update.values.length : ℤ) = numOutSamples
  · simp [hof]
  · simp [hof]

theorem PredictorSensorInfo.Fresh.holdsUpdates (h : registered.Fresh) :
    HoldsUpdates registered registered [] where
  sampleDuration := rfl
  numOutSamples := rfl
  samples := by
    have hpositive := h.numOutSamples
    rw [h.samples, List.map_nil, List.append_nil]
    exact ringHolds_replicate (by omega) _
  curIndex := by
    rw [h.curIndex, List.length_nil, Nat.zero_mod]
    rfl

/-- One more update is written over the oldest one. -/
theorem HoldsUpdates.write (h : HoldsUpdates registered info updates)
    (hpositive : 0 < registered.numOutSamples) (update : PredictionUpdate) :
    HoldsUpdates registered
      { info with
        samples := info.samples.set info.curIndex.toNat ⟨update.now, update.values⟩
        curIndex := (info.curIndex + 1).tmod info.numOutSamples } (updates ++ [update]) where
  sampleDuration := h.sampleDuration
  numOutSamples := h.numOutSamples
  samples := by
    have hlength : 0 < registered.numOutSamples.toNat := by omega
    have hnext : (List.replicate registered.numOutSamples.toNat
          (PredictionSample.unset registered.numOutSamples) ++
        updates.map PredictionUpdate.sample).length % registered.numOutSamples.toNat =
          info.curIndex.toNat := by
      rw [h.curIndex, List.length_append, List.length_replicate, List.length_map, Nat.add_mod_left,
        Int.toNat_natCast]
    have hwrite := h.samples.write (by simp; omega) update.sample
    rw [hnext, List.append_assoc] at hwrite
    rw [List.map_append, List.map_singleton]
    exact hwrite
  curIndex := by
    have hlength : (registered.numOutSamples.toNat : ℤ) = registered.numOutSamples := by omega
    have hcurIndex := h.curIndex
    dsimp only
    rw [h.numOutSamples, List.length_append, List.length_singleton]
    generalize registered.numOutSamples.toNat = count at *
    rw [hcurIndex, ← hlength, Int.tmod_eq_emod_of_nonneg (by omega)]
    push_cast
    rw [Int.emod_add_emod]

/-- The helper after some updates, for one predictor. -/
structure HelperHolds (name : String) (registered : PredictorSensorInfo)
    (predictedSensors : UnorderedMap String PredictedSensorInfo) (updates : List PredictionUpdate)
    (helper : ThermalPredictionsHelper) : Prop where
  predictedSensors : helper.predictedSensors = predictedSensors
  predictor : ∃ info, helper.predictorSensors.lookup name = some info ∧
    HoldsUpdates registered info (updatesOf name registered.numOutSamples updates)

variable {predictedSensors : UnorderedMap String PredictedSensorInfo}

/-- An update of another sensor, or with another number of values, is none of the predictor. -/
theorem HelperHolds.skip (h : HelperHolds name registered predictedSensors updates helper)
    {update : PredictionUpdate}
    (hnot : ¬ (update.sensorName = name ∧ (update.values.length : ℤ) = registered.numOutSamples)) :
    HelperHolds name registered predictedSensors (updates ++ [update]) helper where
  predictedSensors := h.predictedSensors
  predictor := by
    rw [updatesOf_concat, if_neg hnot]
    exact h.predictor

/-- The slot that is written next is in the ring. -/
theorem HoldsUpdates.atIndex_curIndex (h : HoldsUpdates registered info updates)
    (hpositive : 0 < registered.numOutSamples) :
    ∃ sample, atIndex info.samples info.curIndex = .ok sample := by
  have hlt : updates.length % registered.numOutSamples.toNat < info.samples.length := by
    rw [h.samples.size]
    exact Nat.mod_lt _ (by omega)
  rw [h.curIndex]
  refine ⟨info.samples[updates.length % registered.numOutSamples.toNat], atIndex_eq_ok.mpr ⟨by omega, ?_⟩⟩
  rw [Int.toNat_natCast]
  exact List.getElem?_eq_getElem hlt

theorem HelperHolds.update (h : HelperHolds name registered predictedSensors updates helper)
    (hpositive : 0 < registered.numOutSamples) {update : PredictionUpdate} {updated : Bool}
    (hupdate : helper.updateSensor update.sensorName update.values update.now = .ok (helper', updated)) :
    HelperHolds name registered predictedSensors (updates ++ [update]) helper' := by
  obtain ⟨info, hinfo, hholds⟩ := h.predictor
  unfold ThermalPredictionsHelper.updateSensor at hupdate
  by_cases hname : update.sensorName = name
  · rw [hname, hinfo] at hupdate
    dsimp only at hupdate
    by_cases hsize : (update.values.length : ℤ) = registered.numOutSamples
    · obtain ⟨sample, hsample⟩ := hholds.atIndex_curIndex hpositive
      rw [if_neg (by rw [hholds.numOutSamples]; exact fun hne ↦ hne hsize), hsample] at hupdate
      rw [← (ok_pair hupdate).1]
      refine ⟨h.predictedSensors, _, (lookup_put _ _ _ _).trans (if_pos rfl), ?_⟩
      rw [updatesOf_concat, if_pos ⟨hname, hsize⟩]
      exact hholds.write hpositive update
    · rw [if_pos (by rw [hholds.numOutSamples]; exact hsize)] at hupdate
      rw [← (ok_pair hupdate).1]
      exact h.skip fun hboth ↦ hsize hboth.2
  · have hskip := h.skip fun hboth ↦ hname hboth.1
    cases hother : helper.predictorSensors.lookup update.sensorName with
    | none =>
      rw [hother] at hupdate
      rw [← (ok_pair hupdate).1]
      exact hskip
    | some other =>
      rw [hother] at hupdate
      dsimp only at hupdate
      split at hupdate
      · rw [← (ok_pair hupdate).1]
        exact hskip
      · obtain ⟨sample, -, hpair⟩ := bind_eq_ok.mp hupdate
        rw [← (ok_pair hpair).1]
        obtain ⟨info', hinfo', hholds'⟩ := hskip.predictor
        exact ⟨hskip.predictedSensors, info', (lookup_put _ _ _ _).trans ((if_neg (Ne.symm hname)).trans hinfo'),
          hholds'⟩

/-- Updates are held by the ring. -/
theorem helperHolds_updateAll (hregistered : registered.Fresh)
    (hlookup : helper.predictorSensors.lookup name = some registered)
    (hrun : updateAll helper updates = .ok helper') :
    HelperHolds name registered helper.predictedSensors updates helper' := by
  apply @foldlM_done _ _ _ (HelperHolds name registered helper.predictedSensors) _ updates helper helper' _ _
    hrun
  · exact ⟨rfl, registered, hlookup, hregistered.holdsUpdates⟩
  · intro done update before after hdone hround
    obtain ⟨result, hupdate, hpair⟩ := bind_eq_ok.mp hround
    rw [← Except.ok.inj hpair]
    exact hdone.update hregistered.numOutSamples hupdate

end Updates

section Readings

variable {registered info : PredictorSensorInfo} {updates : List PredictionUpdate}
  {helper helper' : ThermalPredictionsHelper} {name : String}

/-- The sample is as old as the bounds of the loop ask for. -/
def isCurrent (now minTimeElapsedMs maxTimeElapsedMs : ℤ) (sample : PredictionSample) : Bool :=
  (timeDifference now sample.timestamp).tdiv 1000000 ≤ maxTimeElapsedMs ∧
    minTimeElapsedMs ≤ (timeDifference now sample.timestamp).tdiv 1000000

/-- The samples of the ring, the last one first. -/
def recentSamples (registered : PredictorSensorInfo) (updates : List PredictionUpdate) :
    List PredictionSample :=
  (List.replicate registered.numOutSamples.toNat (PredictionSample.unset registered.numOutSamples) ++
    updates.map PredictionUpdate.sample).reverse.take registered.numOutSamples.toNat

@[simp]
theorem length_recentSamples (registered : PredictorSensorInfo) (updates : List PredictionUpdate) :
    (recentSamples registered updates).length = registered.numOutSamples.toNat := by
  unfold recentSamples
  rw [List.length_take, List.length_reverse, List.length_append, List.length_replicate]
  omega

/-- The loop goes through the ring backward. -/
theorem HoldsUpdates.atIndex_scan (h : HoldsUpdates registered info updates)
    (hpositive : 0 < registered.numOutSamples) {k : ℕ}
    (hlt : k < (recentSamples registered updates).length) :
    atIndex info.samples
        (if info.curIndex - k - 1 < 0 then info.curIndex - k - 1 + info.numOutSamples
          else info.curIndex - k - 1) =
      .ok (recentSamples registered updates)[k] := by
  have hk : k < registered.numOutSamples.toNat := by rwa [length_recentSamples] at hlt
  have hcount : (registered.numOutSamples.toNat : ℤ) = registered.numOutSamples := by omega
  have hlength : (List.replicate registered.numOutSamples.toNat
      (PredictionSample.unset registered.numOutSamples) ++
        updates.map PredictionUpdate.sample).length = registered.numOutSamples.toNat + updates.length := by
    rw [List.length_append, List.length_replicate, List.length_map]
  have hslot := @slotBack_of_next registered.numOutSamples.toNat
    (registered.numOutSamples.toNat + updates.length) k (by omega) hk
  rw [Nat.add_mod_left, ← h.curIndex, hcount] at hslot
  rw [h.numOutSamples, ← hslot]
  apply atIndex_eq_ok.mpr
  apply And.intro (by omega)
  rw [Int.toNat_natCast, ← hlength, h.samples.slots k hk]
  simp only [stepsBack, recentSamples, List.getElem_take, List.getElem_reverse]
  exact List.getElem?_eq_getElem _

theorem HoldsUpdates.scanSamples (h : HoldsUpdates registered info updates)
    (hpositive : 0 < registered.numOutSamples) {predictionIndex : ℤ} (hindex : 0 ≤ predictionIndex)
    (hvalues : ∀ sample ∈ recentSamples registered updates, predictionIndex < sample.values.length)
    (now minTimeElapsedMs maxTimeElapsedMs : ℤ) {remaining k : ℕ}
    (hk : k + remaining = registered.numOutSamples.toNat) :
    ThermalPredictionsHelper.scanSamples info now minTimeElapsedMs maxTimeElapsedMs predictionIndex
        remaining k =
      .ok ((((recentSamples registered updates).drop k).find?
        (isCurrent now minTimeElapsedMs maxTimeElapsedMs)).map
          fun sample ↦ (sample.values[predictionIndex.toNat]?).getD .nan) := by
  induction remaining generalizing k with
  | zero =>
    rw [List.drop_eq_nil_of_le (by rw [length_recentSamples]; omega)]
    rfl
  | succ remaining ih =>
    have hlt : k < (recentSamples registered updates).length := by
      rw [length_recentSamples]
      omega
    have hvalue := hvalues _ (List.getElem_mem hlt)
    have hnext : ((k + 1 : ℕ) : ℤ) = (k : ℤ) + 1 := by push_cast; rfl
    rw [ThermalPredictionsHelper.scanSamples, List.drop_eq_getElem_cons hlt, List.find?_cons]
    dsimp only
    rw [h.atIndex_scan hpositive hlt]
    change (if _ then _ else _) = _
    by_cases hcurrent : isCurrent now minTimeElapsedMs maxTimeElapsedMs
        (recentSamples registered updates)[k] = true
    · rw [if_pos (of_decide_eq_true hcurrent), hcurrent]
      have hat : atIndex (recentSamples registered updates)[k].values predictionIndex =
          .ok (recentSamples registered updates)[k].values[predictionIndex.toNat] :=
        atIndex_eq_ok.mpr ⟨hindex, List.getElem?_eq_getElem (by omega)⟩
      rw [hat, Option.map_some, List.getElem?_eq_getElem (by omega)]
      rfl
    · rw [if_neg fun hboth ↦ hcurrent (decide_eq_true hboth), Bool.eq_false_of_not_eq_true hcurrent, ← hnext]
      exact ih (by omega)

/-- The last updates of a predictor, as many as it has samples, the last one first. -/
def lastUpdates (registered : PredictorSensorInfo) (updates : List PredictionUpdate) :
    List PredictionUpdate :=
  updates.reverse.take registered.numOutSamples.toNat

/-- The last updates come first, and then the slots that were never written. -/
theorem recentSamples_eq (registered : PredictorSensorInfo) (updates : List PredictionUpdate) :
    recentSamples registered updates =
      (lastUpdates registered updates).map PredictionUpdate.sample ++
        List.replicate (registered.numOutSamples.toNat - updates.length)
          (.unset registered.numOutSamples) := by
  let size := registered.numOutSamples.toNat
  let unset := PredictionSample.unset registered.numOutSamples
  calc
    _ = (updates.reverse.map PredictionUpdate.sample ++ List.replicate size unset).take size := by
      unfold recentSamples
      rw [List.reverse_append, List.reverse_replicate, ← List.map_reverse]
    _ = (updates.reverse.map PredictionUpdate.sample).take size ++
        (List.replicate size unset).take (size - updates.length) := by
      rw [List.take_append, List.length_map, List.length_reverse]
    _ = (lastUpdates registered updates).map PredictionUpdate.sample ++
        List.replicate (size - updates.length) unset := by
      rw [List.take_replicate, min_eq_left (Nat.sub_le _ _), ← List.map_take]
      rfl

/-- What a reading of the ring gives. -/
def ringOutcome (registered : PredictorSensorInfo) (predicted : PredictedSensorInfo)
    (updates : List PredictionUpdate) (temp : ExactFloat) (now : ℤ) : SensorReadStatus × ExactFloat :=
  match (lastUpdates registered updates).find? fun update ↦
      isCurrent now (predicted.duration - kToleranceIntervalMs)
        (wrapInt (predicted.duration + kToleranceIntervalMs)) update.sample with
  | some update => (.okay, (update.values[predicted.predictionIndex.toNat]?).getD .nan)
  | none =>
    if updates.length < registered.numOutSamples.toNat ∧
        isCurrent now (predicted.duration - kToleranceIntervalMs)
          (wrapInt (predicted.duration + kToleranceIntervalMs)) (.unset registered.numOutSamples)
    then (.okay, .nan) else (.underCollecting, temp)

/-- The index of a prediction is below the number of samples. -/
theorem PredictedSensorInfo.Linked.index_lt {predicted : PredictedSensorInfo}
    (h : predicted.Linked registered) (hregistered : registered.Fresh) :
    0 ≤ predicted.predictionIndex ∧ predicted.predictionIndex < registered.numOutSamples := by
  have hduration := h.duration
  have hinterval := hregistered.sampleDuration
  have hcount := hregistered.numOutSamples
  have hproduct : 0 ≤ (registered.numOutSamples - 1) * registered.sampleDuration :=
    mul_nonneg (by omega) (by omega)
  have hmax : predicted.duration ≤ (registered.numOutSamples - 1) * registered.sampleDuration := by
    have hle := h.le_max
    simp only [wrapInt] at hle
    omega
  rw [h.predictionIndex, Int.tdiv_eq_ediv_of_nonneg hduration]
  apply And.intro (Int.ediv_nonneg hduration hinterval.le)
  have hquotient := Int.ediv_le_of_le_mul hinterval hmax
  omega

/-- A reading stays inside the ring, and gives the first sample that is current. -/
theorem HelperHolds.readSensor {predicted : PredictedSensorInfo} {sensorName : String}
    (h : HelperHolds predicted.linkedSensor registered helper.predictedSensors updates helper')
    (hregistered : registered.Fresh)
    (hpredicted : helper.predictedSensors.lookup sensorName = some predicted)
    (hlinked : predicted.Linked registered) (temp : ExactFloat) (now : ℤ) :
    helper'.readSensor sensorName temp now = .ok (ringOutcome registered predicted
      (updatesOf predicted.linkedSensor registered.numOutSamples updates) temp now) := by
  obtain ⟨info, hinfo, hholds⟩ := h.predictor
  have hpositive := hregistered.numOutSamples
  have hindex := hlinked.index_lt hregistered
  generalize hof : updatesOf predicted.linkedSensor registered.numOutSamples updates = accepted at *
  have hvalues : ∀ sample ∈ recentSamples registered accepted,
      predicted.predictionIndex < sample.values.length := by
    intro sample hin
    rw [recentSamples_eq] at hin
    rcases List.mem_append.mp hin with htaken | hunset
    · obtain ⟨update, hupdate, rfl⟩ := List.mem_map.mp htaken
      have haccepted := List.mem_reverse.mp (List.mem_of_mem_take hupdate)
      rw [← hof] at haccepted
      have hsize := (of_decide_eq_true (List.mem_filter.mp haccepted).2).2
      change predicted.predictionIndex < (update.values.length : ℤ)
      omega
    · rw [(List.mem_replicate.mp hunset).2]
      unfold PredictionSample.unset
      rw [List.length_replicate]
      omega
  have hscan := hholds.scanSamples hpositive hindex.1 hvalues now
    (predicted.duration - kToleranceIntervalMs) (wrapInt (predicted.duration + kToleranceIntervalMs))
    (Nat.zero_add registered.numOutSamples.toNat)
  have hcount : max 1 info.numOutSamples.toNat = registered.numOutSamples.toNat := by
    rw [hholds.numOutSamples]
    omega
  unfold ThermalPredictionsHelper.readSensor
  rw [h.predictedSensors, hpredicted]
  dsimp only
  rw [hinfo]
  dsimp only
  rw [hcount]
  rw [Nat.cast_zero] at hscan
  rw [hscan, List.drop_zero, recentSamples_eq, List.find?_append, List.find?_map]
  have hcomp : isCurrent now (predicted.duration - kToleranceIntervalMs)
      (wrapInt (predicted.duration + kToleranceIntervalMs)) ∘ PredictionUpdate.sample =
      fun update ↦ isCurrent now (predicted.duration - kToleranceIntervalMs)
        (wrapInt (predicted.duration + kToleranceIntervalMs)) update.sample := rfl
  unfold ringOutcome
  rw [hcomp]
  cases hfind : (lastUpdates registered accepted).find? fun update ↦
      isCurrent now (predicted.duration - kToleranceIntervalMs)
        (wrapInt (predicted.duration + kToleranceIntervalMs)) update.sample with
  | some update => rfl
  | none =>
    rw [Option.map_none, Option.none_or, List.find?_replicate]
    by_cases hfew : accepted.length < registered.numOutSamples.toNat
    · rw [if_neg (by omega)]
      cases hcurrent : isCurrent now (predicted.duration - kToleranceIntervalMs)
          (wrapInt (predicted.duration + kToleranceIntervalMs)) (.unset registered.numOutSamples) with
      | false => simp [bind, Except.bind, pure, Except.pure]
      | true =>
        have hunset : ((PredictionSample.unset registered.numOutSamples).values[
            predicted.predictionIndex.toNat]?).getD .nan = .nan := by
          unfold PredictionSample.unset
          rw [List.getElem?_replicate]
          split <;> rfl
        simp [bind, Except.bind, pure, Except.pure, hfew, hunset]
    · rw [if_pos (by omega), if_neg fun hboth ↦ hfew hboth.1]
      rfl

/-- The place that is written next is in the ring. -/
structure PredictorSensorInfo.InRing (info : PredictorSensorInfo) : Prop where
  samples : (info.samples.length : ℤ) = info.numOutSamples
  nonneg : 0 ≤ info.curIndex
  lt : info.curIndex < info.numOutSamples

/-- Updates never leave the rings. -/
theorem exists_updateAll (h : Registered helper) (updates : List PredictionUpdate) :
    ∃ helper', updateAll helper updates = .ok helper' := by
  have htotal := @foldlM_total _ _ _
    (fun helper : ThermalPredictionsHelper ↦ ∀ name info,
      helper.predictorSensors.lookup name = some info → info.InRing)
    (fun helper update ↦ do
      let (helper, _) ← helper.updateSensor update.sensorName update.values update.now
      pure helper) updates ?_ helper ?_
  · apply Exists.elim htotal
    exact fun helper' hboth ↦ ⟨helper', hboth.1⟩
  · intro update _ helper hring
    have hskip : ∃ helper', (.ok helper : Checked ThermalPredictionsHelper) = .ok helper' ∧ ∀ name info,
        helper'.predictorSensors.lookup name = some info → info.InRing := ⟨helper, rfl, hring⟩
    unfold ThermalPredictionsHelper.updateSensor
    cases hinfo : helper.predictorSensors.lookup update.sensorName with
    | none => exact hskip
    | some info =>
      dsimp only
      have hin := hring update.sensorName info hinfo
      by_cases hsize : (update.values.length : ℤ) = info.numOutSamples
      · have hlt : info.curIndex.toNat < info.samples.length := by
          have hsamples := hin.samples
          have hbound := hin.lt
          have hnonneg := hin.nonneg
          omega
        have hat : atIndex info.samples info.curIndex = .ok info.samples[info.curIndex.toNat] :=
          atIndex_eq_ok.mpr ⟨hin.nonneg, List.getElem?_eq_getElem hlt⟩
        rw [if_neg fun hne ↦ hne hsize, hat]
        refine ⟨_, rfl, ?_⟩
        intro name other hother
        dsimp only at hother
        rw [lookup_put] at hother
        split at hother
        · have hbound := hin.lt
          have hnonneg := hin.nonneg
          rw [← Option.some.inj hother]
          refine ⟨by simpa using hin.samples, ?_, ?_⟩
          · exact Int.tmod_nonneg _ (by omega)
          · exact Int.tmod_lt_of_pos _ (by omega)
        · exact hring name other hother
      · rw [if_pos hsize]
        exact hskip
  · intro name info hinfo
    have hfresh := h.predictors name info hinfo
    have hpositive := hfresh.numOutSamples
    refine ⟨?_, ?_, ?_⟩
    · rw [hfresh.samples, List.length_replicate]
      omega
    · rw [hfresh.curIndex]
    · rw [hfresh.curIndex]
      exact hpositive

/-- The prediction of an update is for a time within the tolerance of now. -/
def withinTolerance (duration now : ℤ) (update : PredictionUpdate) : Bool :=
  duration - kToleranceIntervalMs ≤ elapsedMs now update.now ∧
    elapsedMs now update.now ≤ duration + kToleranceIntervalMs

/-- The value of the last update whose prediction is for now, or nothing new. -/
def ReadsPrediction (registered : PredictorSensorInfo) (predicted : PredictedSensorInfo)
    (updates : List PredictionUpdate) (temp : ExactFloat) (now : ℤ)
    (result : SensorReadStatus × ExactFloat) : Prop :=
  match (lastUpdates registered updates).find? (withinTolerance predicted.duration now) with
  | some update => result.1 = .okay ∧
      update.values[(predicted.duration / registered.sampleDuration).toNat]? = some result.2
  | none => result = (.underCollecting, temp)

/-- Unless the bound overflows, the loop asks for the right ages. -/
theorem isCurrent_eq_within {duration now : ℤ} (hduration : 0 ≤ duration)
    (hfits : duration + kToleranceIntervalMs ≤ intMax) {update : PredictionUpdate}
    (htime : 0 ≤ update.now ∧ update.now ≤ now) (hnow : now < 2 ^ 63) :
    isCurrent now (duration - kToleranceIntervalMs) (wrapInt (duration + kToleranceIntervalMs))
      update.sample = withinTolerance duration now update := by
  have hwrap : wrapInt (duration + kToleranceIntervalMs) = duration + kToleranceIntervalMs := by
    simp only [wrapInt, intMax, kToleranceIntervalMs] at *
    omega
  unfold isCurrent withinTolerance elapsedMs PredictionUpdate.sample
  rw [hwrap, timeDifference_of_nonneg (le_trans htime.1 htime.2) hnow htime.1 (lt_of_le_of_lt htime.2 hnow)]
  exact decide_eq_decide.mpr and_comm

/-- When the bound overflows, no age is right. -/
theorem isCurrent_of_overflow {duration now : ℤ} (hduration : 0 ≤ duration) (hmax : duration ≤ intMax)
    (hoverflow : intMax < duration + kToleranceIntervalMs) (sample : PredictionSample) :
    isCurrent now (duration - kToleranceIntervalMs) (wrapInt (duration + kToleranceIntervalMs)) sample =
      false := by
  apply decide_eq_false
  simp only [wrapInt, intMax, kToleranceIntervalMs] at *
  omega

/-- A slot that was never written looks current at the end of what the clock can count. -/
theorem isCurrent_unset_iff {duration now numOutSamples : ℤ} (hduration : 0 ≤ duration)
    (hfits : duration + kToleranceIntervalMs ≤ intMax) (hnonneg : 0 ≤ now) (hnow : now < 2 ^ 63) :
    isCurrent now (duration - kToleranceIntervalMs) (wrapInt (duration + kToleranceIntervalMs))
      (.unset numOutSamples) = true ↔ 2 ^ 63 - now < (kToleranceIntervalMs + 1 - duration) * 1000000 := by
  have hdifference : timeDifference now minTimePoint = -(2 ^ 63 - now) := by
    unfold timeDifference minTimePoint
    rw [Int.bmod_def]
    split <;> omega
  have hage : (-(2 ^ 63 - now)).tdiv 1000000 = -((2 ^ 63 - now) / 1000000) := by
    rw [Int.neg_tdiv, Int.tdiv_eq_ediv_of_nonneg (by omega)]
  unfold isCurrent PredictionSample.unset
  rw [decide_eq_true_eq]
  dsimp only
  rw [hdifference, hage]
  simp only [wrapInt, intMax, kToleranceIntervalMs] at *
  omega

section Outcome

variable {predicted : PredictedSensorInfo} {accepted : List PredictionUpdate} {temp : ExactFloat} {now : ℤ}

theorem find_within_eq_none_iff {duration : ℤ} :
    (lastUpdates registered accepted).find? (withinTolerance duration now) = none ↔
      ¬ ∃ update ∈ lastUpdates registered accepted, withinTolerance duration now update = true := by
  rw [List.find?_eq_none]
  push Not
  rfl

/-- The values of the updates of a predictor reach as far as its predictions. -/
def FullUpdates (registered : PredictorSensorInfo) (updates : List PredictionUpdate) : Prop :=
  ∀ update ∈ updates, (update.values.length : ℤ) = registered.numOutSamples

/-- With a bound that fits, the outcome is right unless an unwritten slot looks current. -/
theorem readsPrediction_ringOutcome_of_fits (hregistered : registered.Fresh)
    (hlinked : predicted.Linked registered) (hfull : FullUpdates registered accepted)
    (hfits : predicted.duration + kToleranceIntervalMs ≤ intMax) (hnonneg : 0 ≤ now) (hnow : now < 2 ^ 63)
    (htimes : ∀ update ∈ lastUpdates registered accepted, 0 ≤ update.now ∧ update.now ≤ now) :
    ReadsPrediction registered predicted accepted temp now
        (ringOutcome registered predicted accepted temp now) ↔
      (∃ update ∈ lastUpdates registered accepted, withinTolerance predicted.duration now update = true) ∨
        registered.numOutSamples ≤ accepted.length ∨
        (kToleranceIntervalMs + 1 - predicted.duration) * 1000000 ≤ 2 ^ 63 - now := by
  have hcount := hregistered.numOutSamples
  have hsame : (lastUpdates registered accepted).find? (fun update ↦
      isCurrent now (predicted.duration - kToleranceIntervalMs)
        (wrapInt (predicted.duration + kToleranceIntervalMs)) update.sample) =
      (lastUpdates registered accepted).find? (withinTolerance predicted.duration now) :=
    List.find?_congr fun update hin ↦
      isCurrent_eq_within hlinked.duration hfits (htimes update hin) hnow
  unfold ringOutcome ReadsPrediction
  rw [hsame]
  cases hfind : (lastUpdates registered accepted).find? (withinTolerance predicted.duration now) with
  | some update =>
    have hin := List.mem_of_find?_eq_some hfind
    have hindex := hlinked.index_lt hregistered
    have hlength := hfull update (List.mem_reverse.mp (List.mem_of_mem_take hin))
    have hquotient : predicted.duration / registered.sampleDuration = predicted.predictionIndex := by
      rw [hlinked.predictionIndex, Int.tdiv_eq_ediv_of_nonneg hlinked.duration]
    apply iff_of_true
    · dsimp only
      rw [hquotient, List.getElem?_eq_getElem (by omega)]
      exact ⟨rfl, rfl⟩
    · exact Or.inl ⟨update, hin, List.find?_some hfind⟩
  | none =>
    have hnot := find_within_eq_none_iff.mp hfind
    have hunset := @isCurrent_unset_iff predicted.duration now registered.numOutSamples hlinked.duration
      hfits hnonneg hnow
    dsimp only
    rw [or_iff_right hnot]
    by_cases hfew : accepted.length < registered.numOutSamples.toNat
    · by_cases hend : 2 ^ 63 - now < (kToleranceIntervalMs + 1 - predicted.duration) * 1000000
      · rw [if_pos ⟨hfew, hunset.mpr hend⟩]
        apply iff_of_false
        · intro hsame
          cases (Prod.mk.inj hsame).1
        · omega
      · rw [if_neg fun hboth ↦ hend (hunset.mp hboth.2)]
        exact iff_of_true rfl (by omega)
    · rw [if_neg fun hboth ↦ hfew hboth.1]
      exact iff_of_true rfl (by omega)

/-- With a bound that overflows, nothing is found. -/
theorem readsPrediction_ringOutcome_of_overflow (hlinked : predicted.Linked registered)
    (hmax : predicted.duration ≤ intMax) (hoverflow : intMax < predicted.duration + kToleranceIntervalMs) :
    ReadsPrediction registered predicted accepted temp now
        (ringOutcome registered predicted accepted temp now) ↔
      ¬ ∃ update ∈ lastUpdates registered accepted,
        withinTolerance predicted.duration now update = true := by
  have hnone : ringOutcome registered predicted accepted temp now = (.underCollecting, temp) := by
    unfold ringOutcome
    simp only [isCurrent_of_overflow hlinked.duration hmax hoverflow, Bool.false_eq_true, and_false,
      if_false]
    rw [@List.find?_eq_none _ (fun _ ↦ false) _ |>.mpr fun _ _ ↦ Bool.false_ne_true]
  rw [hnone, ← find_within_eq_none_iff]
  unfold ReadsPrediction
  cases hfind : (lastUpdates registered accepted).find? (withinTolerance predicted.duration now) with
  | some update => exact iff_of_false (fun hread ↦ nomatch hread.1) (fun h ↦ nomatch h)
  | none => exact iff_of_true rfl rfl

end Outcome

/-- Every reading of a predicted sensor stays inside its ring, and gives the last prediction that was made
for now, if any. It does so exactly if the largest right age fits an `int` or there is no such prediction,
and if there is one, or no slot is unwritten, or the clock is not at its end. -/
theorem readsPrediction_iff {registrations : List Registration} {updates : List PredictionUpdate}
    {sensorName : String} {predicted : PredictedSensorInfo} {registered : PredictorSensorInfo}
    (hpredicted : (registerAll registrations).predictedSensors.lookup sensorName = some predicted)
    (hpredictor : (registerAll registrations).predictorSensors.lookup predicted.linkedSensor =
      some registered) {now : ℤ} (hnonneg : 0 ≤ now) (hnow : now < 2 ^ 63)
    (htimes : ∀ update ∈ updates, 0 ≤ update.now ∧ update.now ≤ now) (temp : ExactFloat) :
    ∃ helper result, updateAll (registerAll registrations) updates = .ok helper ∧
      helper.readSensor sensorName temp now = .ok result ∧
      let accepted := updatesOf predicted.linkedSensor registered.numOutSamples updates
      let current := ∃ update ∈ lastUpdates registered accepted,
        withinTolerance predicted.duration now update = true
      (ReadsPrediction registered predicted accepted temp now result ↔
        (predicted.duration + kToleranceIntervalMs ≤ intMax ∨ ¬ current) ∧
        (current ∨ registered.numOutSamples ≤ accepted.length ∨
          (kToleranceIntervalMs + 1 - predicted.duration) * 1000000 ≤ 2 ^ 63 - now)) := by
  have hregistered := registered_registerAll registrations
  have hfresh := hregistered.predictors predicted.linkedSensor registered hpredictor
  have hlinked : predicted.Linked registered := by
    obtain ⟨info, hinfo, hlinked⟩ := hregistered.predicted sensorName predicted hpredicted
    rwa [Option.some.inj (hpredictor.symm.trans hinfo)]
  obtain ⟨helper, hupdates⟩ := exists_updateAll hregistered updates
  have hholds := helperHolds_updateAll hfresh hpredictor hupdates
  refine ⟨helper, _, hupdates, hholds.readSensor hfresh hpredicted hlinked temp now, ?_⟩
  intro accepted current
  have hduration := hlinked.duration
  have hpositive := hfresh.numOutSamples
  have hmax : predicted.duration ≤ intMax := by
    have hle := hlinked.le_max
    simp only [wrapInt, intMax] at *
    omega
  by_cases hfits : predicted.duration + kToleranceIntervalMs ≤ intMax
  · rw [and_iff_right (Or.inl hfits)]
    apply readsPrediction_ringOutcome_of_fits hfresh hlinked _ hfits hnonneg hnow
    · intro update hin
      exact htimes update (List.mem_filter.mp (List.mem_reverse.mp (List.mem_of_mem_take hin))).1
    · intro update hin
      exact (of_decide_eq_true (List.mem_filter.mp hin).2).2
  · have hfar : kToleranceIntervalMs + 1 ≤ predicted.duration := by
      simp only [intMax, kToleranceIntervalMs] at *
      omega
    rw [or_iff_right hfits, and_iff_left (Or.inr (Or.inr (by omega)))]
    exact readsPrediction_ringOutcome_of_overflow hlinked hmax (not_le.mp hfits)

/-- A predictor with two samples of the longest interval, and a sensor that reads the second one. -/
def longestRegistrations : List Registration :=
  [.predictor "VIRTUAL-SKIN-MODEL" 2147483647 2,
    .predicted "VIRTUAL-SKIN-LATER" "VIRTUAL-SKIN-MODEL" 2147483647]

def longestPredictor : PredictorSensorInfo where
  sensorName := "VIRTUAL-SKIN-MODEL"
  sampleDuration := 2147483647
  numOutSamples := 2
  samples := [.unset 2, .unset 2]
  curIndex := 0

def longestPredicted : PredictedSensorInfo where
  sensorName := "VIRTUAL-SKIN-LATER"
  linkedSensor := "VIRTUAL-SKIN-MODEL"
  duration := 2147483647
  predictionIndex := 1

def earliestUpdate : PredictionUpdate where
  sensorName := "VIRTUAL-SKIN-MODEL"
  values := [.fin 30, .fin 40]
  now := 0

/-- The prediction was made for exactly now, but is not found. -/
theorem longestPrediction_not_found :
    withinTolerance 2147483647 2147483647000000 earliestUpdate = true ∧
      ((do
        let helper ← updateAll (registerAll longestRegistrations) [earliestUpdate]
        helper.readSensor "VIRTUAL-SKIN-LATER" 0 2147483647000000).toOption) =
          some (.underCollecting, 0) := by
  decide +kernel

theorem readsPrediction_iff_longest :
    ∃ helper result, updateAll (registerAll longestRegistrations) [earliestUpdate] = .ok helper ∧
      helper.readSensor "VIRTUAL-SKIN-LATER" 0 2147483647000000 = .ok result ∧
      ¬ ReadsPrediction longestPredictor longestPredicted [earliestUpdate] 0 2147483647000000 result := by
  have hpredicted : (registerAll longestRegistrations).predictedSensors.lookup "VIRTUAL-SKIN-LATER" =
      some longestPredicted := rfl
  have hpredictor : (registerAll longestRegistrations).predictorSensors.lookup "VIRTUAL-SKIN-MODEL" =
      some longestPredictor := rfl
  obtain ⟨helper, result, hupdates, hread, hiff⟩ :=
    @readsPrediction_iff longestRegistrations [earliestUpdate] "VIRTUAL-SKIN-LATER" longestPredicted
      longestPredictor hpredicted hpredictor 2147483647000000 (by omega) (by omega)
      (by simp [earliestUpdate]) 0
  refine ⟨helper, result, hupdates, hread, ?_⟩
  intro hreads
  have hcondition := (hiff.mp hreads).1
  revert hcondition
  decide +kernel

end Readings

end HardwareMediatek.Thermal
