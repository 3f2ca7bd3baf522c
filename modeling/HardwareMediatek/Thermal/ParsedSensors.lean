import HardwareMediatek.Thermal.ParseSensor

/-!
# Parsed sensors

What is accepted as a sensor satisfies what the rest of the helper relies on: its thresholds are in
order and apart, the devices that it binds exist, and a sensor with a value that was predicted knows
how far ahead.
-/

namespace HardwareMediatek.Thermal

open Foundation UnorderedMap

/-! ## Bindings -/

section Bindings

variable {context : BindingContext}

/-- A part that refuses leaves no binding. -/
theorem orClear_known {α : Type} {devices : CdevInfoMap} {s s' : BindingState} {completed : Bool}
    {result : Parsing α} {next : α → Parsing (BindingState × Bool)}
    (hparse : orClear s result next = .ok (s', completed))
    (hnext : ∀ x, result = .ok x → next x = .ok (s', completed) →
      ∀ cdev ∈ s'.bindedCdevInfoMap, cdev ∈ devices) :
    ∀ cdev ∈ s'.bindedCdevInfoMap, cdev ∈ devices := by
  cases result with
  | ok x => exact hnext x rfl hparse
  | error halt =>
    cases halt with
    | refused =>
      rw [← (ok_pair hparse).1]
      exact fun cdev hcdev ↦ absurd hcdev (AList.notMem_empty cdev)
    | aborted => cases hparse

/-- Only devices that exist are bound, however the loop ends. -/
theorem parseBindings_known {items : List Json} {s s' : BindingState} {completed : Bool}
    (hparse : parseBindings context items s = .ok (s', completed))
    (hknown : ∀ cdev ∈ s.bindedCdevInfoMap, cdev ∈ context.coolingDeviceInfoMap) :
    ∀ cdev ∈ s'.bindedCdevInfoMap, cdev ∈ context.coolingDeviceInfoMap := by
  induction items generalizing s with
  | nil =>
    rw [← (ok_pair hparse).1]
    exact hknown
  | cons value rest ih =>
    obtain ⟨cdevName, -, hparse⟩ := bind_eq_ok.mp hparse
    by_cases hname : cdevName ∈ context.coolingDeviceInfoMap
    · rw [if_neg (not_not_intro hname)] at hparse
      apply orClear_known hparse
      intro pid _ hparse
      apply orClear_known hparse
      intro limit _ hparse
      apply orClear_known hparse
      intro s₁ hfinish hparse
      apply ih hparse
      intro cdev hcdev
      obtain ⟨power, -, hfinish⟩ := bind_eq_ok.mp hfinish
      obtain ⟨disabled, -, hfinish⟩ := bind_eq_ok.mp hfinish
      rw [← Except.ok.inj hfinish, mem_put] at hcdev
      exact hcdev.elim (fun hsame ↦ hsame ▸ hname) (hknown cdev)
    · rw [if_pos hname] at hparse
      rw [← (ok_pair hparse).1]
      exact hknown

theorem parseSensorThrottlingInfo_known {powerLinkDisabled : Bool}
    {scalingFrequencyMap : ScalingFrequencyMap} {coolingDeviceInfoMap : CdevInfoMap} {sensor : Json}
    {info : ThrottlingInfo} {supported : Bool}
    (hparse : parseSensorThrottlingInfo powerLinkDisabled scalingFrequencyMap coolingDeviceInfoMap
      sensor = .ok (info, supported)) :
    ∀ cdev ∈ info.bindedCdevInfoMap, cdev ∈ coolingDeviceInfoMap := by
  obtain ⟨pidInfo, -, hparse⟩ := bind_eq_ok.mp hparse
  obtain ⟨pid, -, hparse⟩ := bind_eq_ok.mp hparse
  obtain ⟨values, -, hparse⟩ := bind_eq_ok.mp hparse
  obtain ⟨bound, hbound, hparse⟩ := bind_eq_ok.mp hparse
  obtain ⟨_, -, hparse⟩ := bind_eq_ok.mp hparse
  obtain ⟨profiles, -, hparse⟩ := bind_eq_ok.mp hparse
  obtain ⟨items, -, hparse⟩ := bind_eq_ok.mp hparse
  obtain ⟨parsed, -, hparse⟩ := bind_eq_ok.mp hparse
  obtain ⟨excluded, -, hparse⟩ := bind_eq_ok.mp hparse
  obtain ⟨items', -, hparse⟩ := bind_eq_ok.mp hparse
  obtain ⟨excludedPower, -, hparse⟩ := bind_eq_ok.mp hparse
  rw [← (ok_pair hparse).1]
  obtain ⟨values', -, hbound⟩ := bind_eq_ok.mp hbound
  apply parseBindings_known hbound
  intro cdev hcdev
  exact absurd hcdev (AList.notMem_empty cdev)

end Bindings

/-! ## Parts of a sensor -/

section Parts

variable {sensor : Json}

theorem parseDelay_pos {delay : Json} {value : ℤ} (hparse : parseDelay delay = .ok value) : 0 < value := by
  obtain ⟨number, -, hvalue⟩ := bind_eq_ok.mp hparse
  rw [← Except.ok.inj hvalue]
  split_ifs with hpos
  · exact hpos
  · decide

/-- A default that has a property is as good as a parsed value. -/
theorem parseUnlessEmpty_keeps {α : Type} {P : α → Prop} {key : String} {value : Json} {default x : α}
    {parse : Json → Parsing α} (hdefault : P default)
    (hkeeps : ∀ member y, parse member = .ok y → P y)
    (hparse : parseUnlessEmpty key value default parse = .ok x) : P x := by
  obtain ⟨member, -, hx⟩ := bind_eq_ok.mp hparse
  split_ifs at hx
  · exact Except.ok.inj hx ▸ hdefault
  · exact hkeeps member x hx

theorem parseStepRatio_bounds {ratio : ExactFloat} (hparse : parseStepRatio sensor = .ok ratio)
    (hset : ratio.isNaN = false) : 0 ≤ ratio ∧ ratio ≤ 1 := by
  obtain ⟨member, -, hratio⟩ := bind_eq_ok.mp hparse
  split_ifs at hratio
  · rw [← Except.ok.inj hratio] at hset
    cases hset
  · obtain ⟨value, -, hratio⟩ := bind_eq_ok.mp hratio
    obtain ⟨_, hbounds, hratio⟩ := bind_eq_ok.mp hratio
    obtain ⟨_, -, hratio⟩ := bind_eq_ok.mp hratio
    obtain ⟨_, -, hratio⟩ := bind_eq_ok.mp hratio
    rw [Except.ok.inj hratio] at hbounds
    have hnot := check_eq_ok.mp hbounds
    simp only [Bool.not_eq_true', Bool.or_eq_false_iff, decide_eq_false_iff_not] at hnot
    exact ⟨(not_lt_iff_le rfl hset).mp hnot.1, (not_lt_iff_le hset rfl).mp hnot.2⟩

/-- An option that is parsed is one of those that are listed, with its text. -/
theorem parseOption_mem {α : Type} {texts : List (String × α)} {value : Json} {option : α}
    (hparse : parseOption texts value = .ok option) :
    ∃ text, value.asString = some text ∧ (text, option) ∈ texts := by
  obtain ⟨text, htext, hoption⟩ := bind_eq_ok.mp hparse
  refine ⟨text, read_eq_ok.mp htext, ?_⟩
  cases hlookup : texts.lookup text with
  | none =>
    rw [hlookup] at hoption
    cases hoption
  | some found =>
    rw [hlookup] at hoption
    obtain ⟨before, after, hsplit, -⟩ := List.lookup_eq_some_iff.mp hlookup
    rw [hsplit, ← Except.ok.inj hoption]
    exact List.mem_append_cons_self

theorem parseOption_previouslyPredicted {formula : Json}
    (hparse : parseOption formulaOptions formula = .ok .previouslyPredicted) :
    formula.asString = some "PREVIOUSLY_PREDICTED" := by
  have hone : ∀ pair ∈ formulaOptions, pair.2 = .previouslyPredicted →
      pair.1 = "PREVIOUSLY_PREDICTED" := by decide
  obtain ⟨text, htext, hmem⟩ := parseOption_mem hparse
  rw [htext]
  exact congrArg some (hone _ hmem rfl)

theorem parseCompensation_weights {predictor : Json} {weights : List ExactFloat} {gains : ThrottlingArray}
    (hparse : parseCompensation predictor = .ok (some (weights, gains))) : weights ≠ [] := by
  obtain ⟨both, -, hparse⟩ := bind_eq_ok.mp hparse
  split_ifs at hparse
  · obtain ⟨values, -, hparse⟩ := bind_eq_ok.mp hparse
    obtain ⟨_, hsize, hparse⟩ := bind_eq_ok.mp hparse
    obtain ⟨items, hitems, hparse⟩ := bind_eq_ok.mp hparse
    obtain ⟨parsed, hparsed, hparse⟩ := bind_eq_ok.mp hparse
    obtain ⟨_, -, hparse⟩ := bind_eq_ok.mp hparse
    obtain ⟨_, -, hparse⟩ := bind_eq_ok.mp hparse
    have hsize : values.size ≠ 0 := of_decide_eq_true (check_eq_ok.mp hsize)
    have hlength : parsed.length = values.size :=
      (length_of_mapM_eq_ok hparsed).trans (length_items hsize (read_eq_ok.mp hitems))
    rw [← (Prod.mk.inj (Option.some.inj (Except.ok.inj hparse))).1]
    intro hnil
    rw [hnil] at hlength
    exact hsize hlength.symm
  · cases Except.ok.inj hparse

theorem parsePredictor_weights {predictor : Option (String × Option (List ExactFloat × ThrottlingArray))}
    (hparse : parsePredictor sensor = .ok predictor) :
    ∀ compensation, predictor.bind Prod.snd = some compensation → compensation.1 ≠ [] := by
  intro compensation hcompensation
  obtain ⟨member, -, hparse⟩ := bind_eq_ok.mp hparse
  split_ifs at hparse
  · rw [← Except.ok.inj hparse] at hcompensation
    cases hcompensation
  · obtain ⟨_, -, hparse⟩ := bind_eq_ok.mp hparse
    obtain ⟨_, -, hparse⟩ := bind_eq_ok.mp hparse
    obtain ⟨name, -, hparse⟩ := bind_eq_ok.mp hparse
    obtain ⟨parsed, hparsed, hparse⟩ := bind_eq_ok.mp hparse
    rw [← Except.ok.inj hparse] at hcompensation
    have hsame : parsed = some compensation := hcompensation
    rw [hsame] at hparsed
    exact parseCompensation_weights hparsed

theorem parsePredictionDuration_isSome {duration : Option ℤ} {formula : Json}
    (hparse : parsePredictionDuration sensor = .ok duration) (hget : sensor.get "Formula" = some formula)
    (htext : formula.asString = some "PREVIOUSLY_PREDICTED") : duration.isSome = true := by
  obtain ⟨text, hstring, hparse⟩ := bind_eq_ok.mp hparse
  have hsame : text = "PREVIOUSLY_PREDICTED" := by
    unfold getString at hstring
    rw [hget] at hstring
    exact Option.some.inj ((read_eq_ok.mp hstring).symm.trans htext)
  rw [if_pos hsame] at hparse
  obtain ⟨_, -, hparse⟩ := bind_eq_ok.mp hparse
  obtain ⟨_, -, hparse⟩ := bind_eq_ok.mp hparse
  obtain ⟨_, -, hparse⟩ := bind_eq_ok.mp hparse
  rw [← Except.ok.inj hparse]
  rfl

/-- A sensor with values that were predicted knows how far ahead, and the weights of a compensation are
there. -/
theorem parsePredictorInfo_complete {predictorInfo : Option PredictorInfo}
    (hparse : parsePredictorInfo sensor = .ok predictorInfo) :
    (∀ formula, sensor.get "Formula" = some formula →
        formula.asString = some "PREVIOUSLY_PREDICTED" → predictorInfo.isSome = true) ∧
      ∀ info, predictorInfo = some info → info.supportPidCompensation = true →
        info.predictionWeights ≠ [] := by
  obtain ⟨predictor, hpredictor, hparse⟩ := bind_eq_ok.mp hparse
  obtain ⟨samples, -, hparse⟩ := bind_eq_ok.mp hparse
  obtain ⟨duration, hduration, hparse⟩ := bind_eq_ok.mp hparse
  split_ifs at hparse with hnone
  · rw [← Except.ok.inj hparse]
    apply And.intro
    · intro formula hget htext
      have hsome := parsePredictionDuration_isSome hduration hget htext
      rw [Option.isSome_iff_ne_none] at hsome
      simp [hsome] at hnone
    · exact fun info hinfo ↦ nomatch hinfo
  · rw [← Except.ok.inj hparse]
    apply And.intro
    · exact fun _ _ _ ↦ rfl
    · intro info hinfo hsupported
      rw [← Option.some.inj hinfo] at hsupported ⊢
      obtain ⟨compensation, hcompensation⟩ := Option.isSome_iff_exists.mp hsupported
      have hweights := parsePredictor_weights hpredictor compensation hcompensation
      simpa [hcompensation] using hweights

end Parts

/-! ## Sensors -/

section Sensors

variable {context : ParseContext} {scalingFrequencyMap : ScalingFrequencyMap}
  {coolingDeviceInfoMap : CdevInfoMap} {name : String} {sensor : Json} {info : SensorInfo}

/-- What the rest of the helper may rely on. -/
structure SensorInfo.Parsed (context : ParseContext) (coolingDeviceInfoMap : CdevInfoMap)
    (info : SensorInfo) : Prop where
  type : info.type ∈ context.temperatureTypes
  hot : Apart info.hotThresholds info.hotHysteresis
  cold : Apart (fun severity ↦ -info.coldThresholds severity) info.coldHysteresis
  pollingDelay : 0 < info.pollingDelay
  passiveDelay : 0 < info.passiveDelay
  stepRatio : info.stepRatio.isNaN = false → 0 ≤ info.stepRatio ∧ info.stepRatio ≤ 1
  hidden : info.isHidden = true → info.sendCb = false
  watched : info.sendCb = true ∨ info.sendPowerhint = true → info.isWatch = true
  types : ∀ virtualInfo, info.virtualSensorInfo = some virtualInfo →
    virtualInfo.linkedSensorsType.length = virtualInfo.linkedSensors.length
  predicted : ∀ virtualInfo, info.virtualSensorInfo = some virtualInfo →
    virtualInfo.formula = .previouslyPredicted → info.predictorInfo.isSome = true
  compensation : ∀ predictorInfo, info.predictorInfo = some predictorInfo →
    predictorInfo.supportPidCompensation = true → predictorInfo.predictionWeights ≠ []
  throttling : ∃ throttlingInfo, info.throttlingInfo = some throttlingInfo ∧
    throttlingInfo.ProfilesMatchDefault ∧
      ∀ cdev ∈ throttlingInfo.bindedCdevInfoMap, cdev ∈ coolingDeviceInfoMap

theorem parseSensorSource_parsed {source : SensorSource}
    (hparse : parseSensorSource name sensor = .ok source) :
    0 < source.pollingDelay ∧ 0 < source.passiveDelay ∧
      (source.stepRatio.isNaN = false → 0 ≤ source.stepRatio ∧ source.stepRatio ≤ 1) := by
  obtain ⟨zoneName, -, hparse⟩ := bind_eq_ok.mp hparse
  obtain ⟨tempPath, -, hparse⟩ := bind_eq_ok.mp hparse
  obtain ⟨references, -, hparse⟩ := bind_eq_ok.mp hparse
  obtain ⟨severityReference, -, hparse⟩ := bind_eq_ok.mp hparse
  obtain ⟨vrThreshold, -, hparse⟩ := bind_eq_ok.mp hparse
  obtain ⟨multiplier, -, hparse⟩ := bind_eq_ok.mp hparse
  obtain ⟨pollingDelay, hpolling, hparse⟩ := bind_eq_ok.mp hparse
  obtain ⟨passiveDelay, hpassive, hparse⟩ := bind_eq_ok.mp hparse
  obtain ⟨timeResolution, -, hparse⟩ := bind_eq_ok.mp hparse
  obtain ⟨stepRatio, hratio, hparse⟩ := bind_eq_ok.mp hparse
  rw [← Except.ok.inj hparse]
  refine ⟨?_, ?_, parseStepRatio_bounds hratio⟩
  · exact parseUnlessEmpty_keeps (by decide) (fun _ _ ↦ parseDelay_pos) hpolling
  · exact parseUnlessEmpty_keeps (by decide) (fun _ _ ↦ parseDelay_pos) hpassive

/-- What is read of a sensor. -/
theorem parseSensorBody_parsed
    (hparse : parseSensorBody context scalingFrequencyMap coolingDeviceInfoMap name sensor = .ok info) :
    info.Parsed context coolingDeviceInfoMap := by
  obtain ⟨text, -, hparse⟩ := bind_eq_ok.mp hparse
  obtain ⟨type, htype, hparse⟩ := bind_eq_ok.mp hparse
  obtain ⟨switches, -, hparse⟩ := bind_eq_ok.mp hparse
  obtain ⟨thresholds, hthresholds, hparse⟩ := bind_eq_ok.mp hparse
  obtain ⟨source, hsource, hparse⟩ := bind_eq_ok.mp hparse
  obtain ⟨_, hhidden, hparse⟩ := bind_eq_ok.mp hparse
  obtain ⟨virtualSensorInfo, hvirtual, hparse⟩ := bind_eq_ok.mp hparse
  obtain ⟨predictorInfo, hpredictor, hparse⟩ := bind_eq_ok.mp hparse
  obtain ⟨throttling, hthrottling, hparse⟩ := bind_eq_ok.mp hparse
  rw [← Except.ok.inj hparse]
  have hapart := parseSensorThresholds_apart hthresholds
  have hdelays := parseSensorSource_parsed hsource
  have hcomplete := parsePredictorInfo_complete hpredictor
  constructor
  · obtain ⟨_, hmem, hsame⟩ := bind_eq_ok.mp htype
    rw [← Except.ok.inj hsame]
    exact of_decide_eq_true (check_eq_ok.mp hmem)
  · exact hapart.1
  · exact hapart.2
  · exact hdelays.1
  · exact hdelays.2.1
  · exact hdelays.2.2
  · have hnot := check_eq_ok.mp hhidden
    intro hishidden
    have hishidden : switches.isHidden = true := hishidden
    simpa [hishidden] using hnot
  · intro hwatched
    have hwatched : switches.sendCb = true ∨ switches.sendPowerhint = true := hwatched
    simp [hwatched]
  · intro virtualInfo hinfo
    have hinfo : virtualSensorInfo = some virtualInfo := hinfo
    exact (parseVirtualSensorInfo_reads (hinfo ▸ hvirtual)).1
  · intro virtualInfo hinfo hformula
    have hinfo : virtualSensorInfo = some virtualInfo := hinfo
    obtain ⟨-, formula, hget, hoption⟩ := parseVirtualSensorInfo_reads (hinfo ▸ hvirtual)
    rw [hformula] at hoption
    exact hcomplete.1 formula hget (parseOption_previouslyPredicted hoption)
  · exact hcomplete.2
  · exact ⟨throttling.1, rfl, parseSensorThrottlingInfo_profiles hthrottling,
      parseSensorThrottlingInfo_known hthrottling⟩

/-- The entry of a sensor by itself. -/
theorem sensorParser_alone :
    (sensorParser context scalingFrequencyMap coolingDeviceInfoMap).alone sensor =
        .ok (some (name, info)) ↔
      parseEnabledName sensor = .ok (some name) ∧
        parseSensorBody context scalingFrequencyMap coolingDeviceInfoMap name sensor = .ok info := by
  rw [EntryParser.alone_eq_some]
  unfold sensorParser
  simp only [bind_eq_ok]
  constructor
  · intro halone
    obtain ⟨_, ⟨enabled, henabled, hname⟩, hbody⟩ := halone
    obtain ⟨found, hfound, hsame⟩ := Option.map_eq_some_iff.mp (Except.ok.inj hname)
    rw [← (Prod.mk.inj hsame).1, ← hfound]
    exact ⟨henabled, (Prod.mk.inj hsame).1 ▸ hbody⟩
  · intro halone
    exact ⟨(), ⟨some name, halone.1, rfl⟩, halone.2⟩

theorem parseEnabledName_ne {enabled : Option String} (hparse : parseEnabledName sensor = .ok enabled) :
    enabled ≠ some "" := by
  obtain ⟨text, -, hparse⟩ := bind_eq_ok.mp hparse
  obtain ⟨_, hname, hparse⟩ := bind_eq_ok.mp hparse
  obtain ⟨disabled, -, hparse⟩ := bind_eq_ok.mp hparse
  have hname : text ≠ "" := of_decide_eq_true (check_eq_ok.mp hname)
  rw [← Except.ok.inj hparse]
  split_ifs
  · exact fun hnone ↦ nomatch hnone
  · exact fun hsame ↦ hname (Option.some.inj hsame)

/-- What `ParseSensorInfo` reads before the sensors. -/
structure ReadsSensors (context : ParseContext) (config : Json) (scalingFrequencyMap : ScalingFrequencyMap)
    (items : List Json) : Prop where
  sensors : ∃ sensors, config.get "Sensors" = some sensors ∧ sensors.items = some items
  frequencies : ∃ cdevs, config.get "CoolingDevices" = some cdevs ∧
    parseScalingFrequencies context.readFile cdevs = .ok scalingFrequencyMap

theorem parseSensorInfo_eq_ok {config : Json} {sensorInfoMap : SensorInfoMap} :
    parseSensorInfo context coolingDeviceInfoMap config = .ok sensorInfoMap ↔
      ∃ scalingFrequencyMap items, ReadsSensors context config scalingFrequencyMap items ∧
        (sensorParser context scalingFrequencyMap coolingDeviceInfoMap).parse items =
          .ok sensorInfoMap := by
  unfold parseSensorInfo
  constructor
  · intro hparse
    obtain ⟨sensors, hsensors, hparse⟩ := bind_eq_ok.mp hparse
    obtain ⟨cdevs, hcdevs, hparse⟩ := bind_eq_ok.mp hparse
    obtain ⟨scalingFrequencyMap, hfrequencies, hparse⟩ := bind_eq_ok.mp hparse
    obtain ⟨items, hitems, hparse⟩ := bind_eq_ok.mp hparse
    exact ⟨scalingFrequencyMap, items, ⟨⟨sensors, read_eq_ok.mp hsensors, read_eq_ok.mp hitems⟩,
      ⟨cdevs, read_eq_ok.mp hcdevs, hfrequencies⟩⟩, hparse⟩
  · intro hreads
    obtain ⟨scalingFrequencyMap, items, hreads, hparse⟩ := hreads
    obtain ⟨sensors, hsensors, hitems⟩ := hreads.sensors
    obtain ⟨cdevs, hcdevs, hfrequencies⟩ := hreads.frequencies
    apply bind_eq_ok.mpr ⟨sensors, read_eq_ok.mpr hsensors, ?_⟩
    apply bind_eq_ok.mpr ⟨cdevs, read_eq_ok.mpr hcdevs, ?_⟩
    apply bind_eq_ok.mpr ⟨scalingFrequencyMap, hfrequencies, ?_⟩
    exact bind_eq_ok.mpr ⟨items, read_eq_ok.mpr hitems, hparse⟩

/-- Every sensor of an accepted configuration is sound. -/
theorem parseSensorInfo_parsed {config : Json} {sensorInfoMap : SensorInfoMap}
    (hparse : parseSensorInfo context coolingDeviceInfoMap config = .ok sensorInfoMap)
    (hinfo : sensorInfoMap.lookup name = some info) :
    name ≠ "" ∧ info.Parsed context coolingDeviceInfoMap := by
  obtain ⟨scalingFrequencyMap, items, -, hitems⟩ := parseSensorInfo_eq_ok.mp hparse
  obtain ⟨entry, -, halone⟩ := (EntryParser.parse_lookup hitems name info).mp hinfo
  have hentry := sensorParser_alone.mp halone
  exact ⟨fun hempty ↦ parseEnabledName_ne hentry.1 (congrArg some hempty),
    parseSensorBody_parsed hentry.2⟩

end Sensors

/-! ## Cooling devices -/

section CoolingDevices

variable {context : ParseContext} {config : Json} {name : String} {cdevInfo : CdevInfo}

/-- What is known of a device before its greatest state is. -/
structure CdevInfo.Parsed (types : List String) (cdevInfo : CdevInfo) : Prop where
  type : cdevInfo.type ∈ types
  multiplier : 0 < cdevInfo.multiplier
  maxState : cdevInfo.maxState = 0

theorem isNaN_of_asFloat {value : Json} {x : ExactFloat} (hx : value.asFloat = some x) : x.isNaN = false := by
  cases value <;> simp only [Json.asFloat, Option.some.injEq, reduceCtorEq] at hx
  case null => exact hx ▸ rfl
  case bool b =>
    rw [← hx]
    cases b <;> rfl
  case int n =>
    rw [← hx, FloatFormat.isNaN_round]
    rfl
  case real q text =>
    rw [← hx, FloatFormat.isNaN_round]
    rfl

theorem parseCdevMultiplier_pos {value : Json} {multiplier : ExactFloat}
    (hparse : parseCdevMultiplier value = .ok multiplier) : 0 < multiplier := by
  obtain ⟨parsed, hparsed, hparse⟩ := bind_eq_ok.mp hparse
  obtain ⟨_, hpos, hparse⟩ := bind_eq_ok.mp hparse
  rw [Except.ok.inj hparse] at hparsed hpos
  have hnot := check_eq_ok.mp hpos
  simp only [Bool.not_eq_true', decide_eq_false_iff_not] at hnot
  by_contra hpos
  exact hnot ((not_lt_iff_le (isNaN_of_asFloat (read_eq_ok.mp hparsed)) rfl).mp hpos)

theorem parseCdevHeader_some {value : Json} {header : CdevHeader}
    (hheader : parseCdevHeader value = .ok (some (name, header))) :
    parseEnabledName value = .ok (some name) ∧ 0 < header.multiplier := by
  obtain ⟨enabled, henabled, hheader⟩ := bind_eq_ok.mp hheader
  cases enabled with
  | none => cases Except.ok.inj hheader
  | some found =>
    obtain ⟨powerCap, -, hheader⟩ := bind_eq_ok.mp hheader
    obtain ⟨applied, -, hheader⟩ := bind_eq_ok.mp hheader
    obtain ⟨multiplier, hmultiplier, hheader⟩ := bind_eq_ok.mp hheader
    obtain ⟨rfl, rfl⟩ := Prod.mk.inj (Option.some.inj (Except.ok.inj hheader))
    exact ⟨henabled,
      parseUnlessEmpty_keeps (by decide) (fun _ _ ↦ parseCdevMultiplier_pos) hmultiplier⟩

theorem cdevParser_parsed {value : Json}
    (halone : (cdevParser context.coolingTypes).alone value = .ok (some (name, cdevInfo))) :
    name ≠ "" ∧ cdevInfo.Parsed context.coolingTypes := by
  obtain ⟨header, hheader, hbody⟩ := EntryParser.alone_eq_some.mp halone
  obtain ⟨henabled, hpos⟩ := parseCdevHeader_some hheader
  obtain ⟨text, -, hbody⟩ := bind_eq_ok.mp hbody
  obtain ⟨type, htype, hbody⟩ := bind_eq_ok.mp hbody
  obtain ⟨readPath, -, hbody⟩ := bind_eq_ok.mp hbody
  obtain ⟨writePath, -, hbody⟩ := bind_eq_ok.mp hbody
  obtain ⟨powers, -, hbody⟩ := bind_eq_ok.mp hbody
  obtain ⟨items, -, hbody⟩ := bind_eq_ok.mp hbody
  obtain ⟨state2power, -, hbody⟩ := bind_eq_ok.mp hbody
  rw [← Except.ok.inj hbody]
  refine ⟨fun hempty ↦ parseEnabledName_ne henabled (congrArg some hempty), ?_, hpos, rfl⟩
  obtain ⟨_, hmem, hname⟩ := bind_eq_ok.mp htype
  rw [← Except.ok.inj hname]
  exact of_decide_eq_true (check_eq_ok.mp hmem)

/-- Every device of an accepted configuration has a known type and a positive multiplier. -/
theorem parseCoolingDevice_parsed {coolingDeviceInfoMap : CdevInfoMap}
    (hparse : parseCoolingDevice context config = .ok coolingDeviceInfoMap)
    (hinfo : coolingDeviceInfoMap.lookup name = some cdevInfo) :
    name ≠ "" ∧ cdevInfo.Parsed context.coolingTypes := by
  obtain ⟨coolingDevices, -, hparse⟩ := bind_eq_ok.mp hparse
  obtain ⟨items, -, hparse⟩ := bind_eq_ok.mp hparse
  obtain ⟨entry, -, halone⟩ := (EntryParser.parse_lookup hparse name cdevInfo).mp hinfo
  exact cdevParser_parsed halone

/-- What the rest of the helper may rely on, for everything that the two parsers accept. -/
theorem parsers_sound {coolingDeviceInfoMap : CdevInfoMap} {sensorInfoMap : SensorInfoMap}
    (hcdevs : parseCoolingDevice context config = .ok coolingDeviceInfoMap)
    (hsensors : parseSensorInfo context coolingDeviceInfoMap config = .ok sensorInfoMap) :
    (∀ name cdevInfo, coolingDeviceInfoMap.lookup name = some cdevInfo →
        name ≠ "" ∧ cdevInfo.Parsed context.coolingTypes) ∧
      ∀ name info, sensorInfoMap.lookup name = some info →
        name ≠ "" ∧ info.Parsed context coolingDeviceInfoMap :=
  ⟨fun _ _ ↦ parseCoolingDevice_parsed hcdevs, fun _ _ ↦ parseSensorInfo_parsed hsensors⟩

def smallContext : ParseContext where
  temperatureTypes := ["CPU", "SKIN"]
  coolingTypes := ["FAN"]
  readFile _ := none
  powerLinkDisabled := false
  initializeMlModel _ _ _ := true

/-- A sensor that binds a cooling device, a virtual sensor, and a rail that it switches. -/
def smallConfig : Json :=
  .obj [("CoolingDevices", .arr [.obj [("Name", .str "fan"), ("Type", .str "FAN")]]),
    ("Sensors", .arr [
      .obj [("Name", .str "soc"), ("Type", .str "CPU"), ("SendCallback", .bool true),
        ("BindedCdevInfo", .arr [.obj [("CdevRequest", .str "fan")]])],
      .obj [("Name", .str "shell"), ("Type", .str "SKIN"), ("VirtualSensor", .bool true),
        ("Formula", .str "MAXIMUM"), ("Combination", .arr [.str "soc"]),
        ("Coefficient", .arr [.str "1.0"])]]),
    ("PowerRails", .arr [.obj [("Name", .str "vsys"), ("TriggerSensor", .str "shell")]])]

def smallDevices : CdevInfoMap := (parseCoolingDevice smallContext smallConfig).toOption.getD ∅

def smallSensors : SensorInfoMap :=
  (parseSensorInfo smallContext smallDevices smallConfig).toOption.getD ∅

theorem eq_ok_of_toOption {α : Type} {result : Parsing α} (default : α)
    (hsome : result.toOption.isSome = true) : result = .ok (result.toOption.getD default) := by
  cases result with
  | ok x => rfl
  | error halt => cases hsome

theorem parseCoolingDevice_small : parseCoolingDevice smallContext smallConfig = .ok smallDevices :=
  eq_ok_of_toOption ∅ (by decide)

theorem parseSensorInfo_small :
    parseSensorInfo smallContext smallDevices smallConfig = .ok smallSensors :=
  eq_ok_of_toOption ∅ (by decide)

theorem parsers_sound_small :
    (∀ name cdevInfo, smallDevices.lookup name = some cdevInfo →
        name ≠ "" ∧ cdevInfo.Parsed smallContext.coolingTypes) ∧
      ∀ name info, smallSensors.lookup name = some info →
        name ≠ "" ∧ info.Parsed smallContext smallDevices :=
  parsers_sound parseCoolingDevice_small parseSensorInfo_small

end CoolingDevices

end HardwareMediatek.Thermal
