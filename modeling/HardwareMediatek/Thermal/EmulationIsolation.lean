import HardwareMediatek.Foundation.Unwinding
import HardwareMediatek.Thermal.EmulationCommands

/-!
# Emulation stays with its sensors

A sensor that is not connected with the emulated ones keeps the status, and is read as the temperature,
that it has in a run without the emulation. The two runs meet the same files, events and times. What they
share are the cooling devices, the rails and the order of the visits.
-/

namespace HardwareMediatek.Thermal

open Foundation Relation UnorderedMap

section Apart

variable {ε μ : Type}

/-- The sensors are not connected with the others, which are not computed from what all sensors share. -/
structure IsApart (sensorInfoMap : SensorInfoMap) (sensors : Set String) : Prop where
  isolated : IsIsolated sensorInfoMap sensors
  plain : ∀ name, name ∉ sensors → ∀ info virtualInfo, sensorInfoMap.lookup name = some info →
    info.virtualSensorInfo = some virtualInfo → ∀ source ∈ virtualInfo.sources,
      source.2 ≠ .odpm ∧ source.2 ≠ .cdev

/-- Every sensor has a model of its own: those of the sensors leave the state of the others, which is
what `view` shows, and the models of the others depend on it alone. -/
structure ModelsApart (sensors : Set String) (view : ε → μ) (world : ReadEnv ε) : Prop where
  hides : ∀ name ∈ sensors, ∀ n helpers values,
    view (world.estimate n helpers name values).1 = view helpers ∧
      view (world.updatePredictions n helpers name values) = view helpers
  estimates : ∀ name, name ∉ sensors → ∀ n helpers helpers' values, view helpers = view helpers' →
    (world.estimate n helpers name values).2 = (world.estimate n helpers' name values).2 ∧
      view (world.estimate n helpers name values).1 = view (world.estimate n helpers' name values).1
  updates : ∀ name, name ∉ sensors → ∀ n helpers helpers' values, view helpers = view helpers' →
    view (world.updatePredictions n helpers name values) =
      view (world.updatePredictions n helpers' name values)
  predicts : ∀ name, name ∉ sensors → ∀ n helpers helpers', view helpers = view helpers' →
    world.readPrediction n helpers name = world.readPrediction n helpers' name

/-- Two readings that go on alike for the other sensors. -/
structure ReadAlike (sensors : Set String) (view : ε → μ) (state state' : ReadState ε) : Prop where
  maps : ChangesWithin sensors state.sensorStatusMap state'.sensorStatusMap
  models : view state.helpers = view state'.helpers
  log : state.sensorLogMap = state'.sensorLogMap
  started : state.started = state'.started
  inputs : state.inputs = state'.inputs

end Apart

/-! ## The statuses of the others -/

section Statuses

variable {sensors : Set String} {m m' final final' : SensorStatusMap} {name : String}

theorem ChangesWithin.symm (h : ChangesWithin sensors m m') : ChangesWithin sensors m' m :=
  ⟨h.keys.symm, fun name hname ↦ (h.others name hname).symm⟩

theorem ChangesWithin.assign (h : ChangesWithin sensors m m') (status : SensorStatus) :
    ChangesWithin sensors (m.assign name status) (m'.assign name status) := by
  apply ChangesWithin.mk
  · rw [keys_assign, keys_assign, h.keys]
  · intro other hother
    rw [lookup_assign, lookup_assign, h.others other hother]

/-- The same change of one status in both maps. -/
theorem ChangesWithin.changesAt {change : SensorStatus → SensorStatus}
    (h : ChangesWithin sensors m m') (hchange : ChangesAt name change m final)
    (hchange' : ChangesAt name change m' final') : ChangesWithin sensors final final' := by
  apply ChangesWithin.mk
  · rw [hchange.keys, hchange'.keys, h.keys]
  · intro other hother
    by_cases hsame : other = name
    · rw [hsame] at hother ⊢
      rw [hchange.own, hchange'.own, h.others name hother]
    · rw [hchange.others other hsame, hchange'.others other hsame, h.others other hother]

theorem ChangesWithin.mem_iff (h : ChangesWithin sensors m m') : name ∈ m' ↔ name ∈ m :=
  mem_iff_of_keys_eq h.keys name

/-- An event writes the cache of a sensor, which may be new. -/
theorem cacheEvent_alike (h : ChangesWithin sensors m m') (now : ℤ)
    (event : Sigma fun _ : String ↦ ExactFloat) :
    ChangesWithin sensors (cacheEvent now m event) (cacheEvent now m' event) := by
  unfold cacheEvent
  split
  · exact h
  · apply ChangesWithin.mk
    · unfold put
      by_cases hknown : event.1 ∈ m
      · rw [if_pos hknown, if_pos (h.mem_iff.mpr hknown), keys_assign, keys_assign, h.keys]
      · rw [if_neg hknown, if_neg (mt h.mem_iff.mp hknown), AList.keys_insert, AList.keys_insert, h.keys]
    · intro other hother
      rw [lookup_put, lookup_put]
      by_cases hsame : other = event.1
      · rw [if_pos hsame, if_pos hsame, ← hsame, h.others other hother]
      · rw [if_neg hsame, if_neg hsame, h.others other hother]

theorem startPass_alike (h : ChangesWithin sensors m m') (env : PassEnv)
    (throttling throttling' : ThermalThrottling) (powerFiles powerFiles' : PowerFiles) :
    ChangesWithin sensors (startPass env m throttling powerFiles).sensorStatusMap
      (startPass env m' throttling' powerFiles').sensorStatusMap := by
  have hevents : ∀ events : List (Sigma fun _ : String ↦ ExactFloat), ∀ m m',
      ChangesWithin sensors m m' → ChangesWithin sensors (events.foldl (cacheEvent env.now) m)
        (events.foldl (cacheEvent env.now) m') := by
    intro events
    induction events with
    | nil => exact fun m m' h ↦ h
    | cons event rest ih => exact fun m m' h ↦ ih _ _ (cacheEvent_alike h env.now event)
  exact hevents env.ueventSensorMap.entries m m' h

end Statuses

/-! ## Commands -/

section Commands

variable {sensorInfoMap : SensorInfoMap} {sensors : Set String} {fuel : ℕ} {m m' : SensorStatusMap}
  {name target : String}

theorem changeOverride_paired (change : OverrideStatus → OverrideStatus)
    (h : ChangesWithin sensors m m') :
    Paired (ChangesWithin sensors) (changeOverride name change m) (changeOverride name change m') := by
  by_cases hknown : name ∈ m
  · obtain ⟨status, hstatus⟩ := mem_iff_lookup.mp hknown
    obtain ⟨status', hstatus'⟩ := mem_iff_lookup.mp (h.mem_iff.mpr hknown)
    unfold changeOverride
    rw [hstatus, hstatus']
    have hchange : ChangesAt name
        (fun status ↦ { status with overrideStatus := change status.overrideStatus }) m
        (m.assign name { status with overrideStatus := change status.overrideStatus }) :=
      changesAt_assign hstatus
    exact h.changesAt hchange (changesAt_assign hstatus')
  · unfold changeOverride
    rw [AList.lookup_eq_none.mpr hknown, AList.lookup_eq_none.mpr (mt h.mem_iff.mp hknown)]
    exact paired_error _

theorem checkUpdateSensorForEmul_paired (maxThrottling : Bool) (h : ChangesWithin sensors m m') :
    Paired (ChangesWithin sensors)
      (checkUpdateSensorForEmul sensorInfoMap maxThrottling fuel target m)
      (checkUpdateSensorForEmul sensorInfoMap maxThrottling fuel target m') := by
  induction fuel generalizing target m m' with
  | zero => exact paired_error _
  | succ fuel ih =>
    apply paired_foldlM _ h
    intro entry _ m m' h
    split
    · apply (changeOverride_paired _ h).bind
      intro m m' h
      exact ih h
    · exact h

theorem overrideTarget_paired (override : OverrideStatus) (h : ChangesWithin sensors m m') :
    Paired (ChangesWithin sensors) (overrideTarget sensorInfoMap fuel m target override)
      (overrideTarget sensorInfoMap fuel m' target override) := by
  apply (changeOverride_paired _ h).bind
  intro m m' h
  exact checkUpdateSensorForEmul_paired _ h

theorem emulTemp_paired (temp : ExactFloat) (maxThrottling : Bool) (h : ChangesWithin sensors m m') :
    Paired (fun x y ↦ ChangesWithin sensors x.1 y.1)
      (emulTemp sensorInfoMap fuel m target temp maxThrottling)
      (emulTemp sensorInfoMap fuel m' target temp maxThrottling) := by
  unfold emulTemp
  by_cases hknown : target ∈ m
  · rw [if_pos hknown, if_pos (h.mem_iff.mpr hknown)]
    exact (overrideTarget_paired _ h).bind fun _ _ h ↦ h
  · rw [if_neg hknown, if_neg (mt h.mem_iff.mp hknown)]
    exact h

theorem emulSeverity_paired (severity : ℤ) (maxThrottling : Bool) (h : ChangesWithin sensors m m') :
    Paired (fun x y ↦ ChangesWithin sensors x.1 y.1)
      (emulSeverity sensorInfoMap fuel m target severity maxThrottling)
      (emulSeverity sensorInfoMap fuel m' target severity maxThrottling) := by
  unfold emulSeverity
  by_cases hknown : target ∈ m
  · obtain ⟨status, hstatus⟩ := mem_iff_lookup.mp hknown
    obtain ⟨status', hstatus'⟩ := mem_iff_lookup.mp (h.mem_iff.mpr hknown)
    rw [hstatus, hstatus']
    cases sensorInfoMap.lookup target with
    | none => exact h
    | some info =>
      dsimp only
      split
      · exact h
      · cases throttlingIndex severity with
        | none => exact paired_error _
        | some index => exact (overrideTarget_paired _ h).bind fun _ _ h ↦ h
  · rw [AList.lookup_eq_none.mpr hknown, AList.lookup_eq_none.mpr (mt h.mem_iff.mp hknown)]
    exact h

theorem emulClear_paired (h : ChangesWithin sensors m m') :
    Paired (fun x y ↦ ChangesWithin sensors x.1 y.1) (emulClear sensorInfoMap fuel m target)
      (emulClear sensorInfoMap fuel m' target) := by
  unfold emulClear
  by_cases hall : target = "all"
  · rw [if_pos hall, if_pos hall, h.keys]
    have hloop : Paired (ChangesWithin sensors)
        (m.keys.foldlM (fun m name ↦ overrideTarget sensorInfoMap fuel m name clearedOverride) m)
        (m.keys.foldlM (fun m name ↦ overrideTarget sensorInfoMap fuel m name clearedOverride) m') := by
      apply paired_foldlM _ h
      intro name _ m m' h
      exact overrideTarget_paired clearedOverride h
    exact hloop.bind fun _ _ h ↦ h
  · rw [if_neg hall, if_neg hall]
    by_cases hknown : target ∈ m
    · rw [if_pos hknown, if_pos (h.mem_iff.mpr hknown)]
      exact (overrideTarget_paired _ h).bind fun _ _ h ↦ h
    · rw [if_neg hknown, if_neg (mt h.mem_iff.mp hknown)]
      exact h

theorem emulClear_changesWithin (hisolated : IsIsolated sensorInfoMap sensors) {answer : Bool}
    (htarget : target ∈ sensors) (hone : target ≠ "all")
    (hclear : emulClear sensorInfoMap fuel m target = .ok (m', answer)) :
    ChangesWithin sensors m m' := by
  unfold emulClear at hclear
  rw [if_neg hone] at hclear
  split at hclear
  · obtain ⟨final, hfinal, hdone⟩ := bind_eq_ok.mp hclear
    rw [← (ok_pair hdone).1]
    exact overrideTarget_changesWithin hisolated htarget hfinal
  · rw [← (ok_pair hclear).1]
    exact ChangesWithin.refl _ _

end Commands

/-! ## Readings -/

section Readings

variable {ε μ : Type} {config : HelperConfig} {sensors : Set String} {view : ε → μ}
  {throttling throttling' : ThermalThrottling} {powerFiles powerFiles' : PowerFiles}
  {world : ReadEnv ε} {state state' : ReadState ε} {name : String}

theorem readAlike_kept : KeptByCalls (ReadAlike sensors view) where
  log_eq _ _ h := h.log
  log _ _ key value h :=
    ⟨h.maps, h.models, congrArg (fun log ↦ log.put key value) h.log, h.started, h.inputs⟩
  note _ _ input h :=
    ⟨h.maps, h.models, h.log, h.started, congrArg (fun inputs ↦ inputs ++ [input]) h.inputs⟩

theorem ModelsApart.sameModels (h : ModelsApart sensors view world) (hname : name ∉ sensors)
    (formula : FormulaOption) :
    SameModels (ReadAlike sensors view) (config.readEnv throttling powerFiles world)
      (config.readEnv throttling' powerFiles' world) name formula where
  estimate _ state state' inputs hstate := by
    have hanswer := h.estimates name hname state'.started state.helpers state'.helpers inputs
      hstate.models
    rw [hstate.started]
    exact ⟨hanswer.1, hstate.maps, hanswer.2, hstate.log, rfl, hstate.inputs⟩
  update _ state state' outputs hstate := by
    have hupdated := h.updates name hname state'.started state.helpers state'.helpers outputs
      hstate.models
    rw [hstate.started]
    exact ⟨hstate.maps, hupdated, hstate.log, rfl, hstate.inputs⟩
  unset _ state state' hstate := congrArg world.unset hstate.started
  prediction _ state state' hstate := by
    rw [hstate.started]
    exact h.predicts name hname _ _ _ hstate.models

theorem IsApart.sameSources (h : IsApart config.sensorInfoMap sensors) (hname : name ∉ sensors)
    {info : SensorInfo} {virtualInfo : VirtualSensorInfo}
    (hinfo : config.sensorInfoMap.lookup name = some info)
    (hvirtual : info.virtualSensorInfo = some virtualInfo) :
    SameSources (config.readEnv throttling powerFiles world)
      (config.readEnv throttling' powerFiles' world) virtualInfo where
  rails _ hrail := absurd rfl (h.plain name hname info virtualInfo hinfo hvirtual _ hrail).1
  cdevs _ hcdev := absurd rfl (h.plain name hname info virtualInfo hinfo hvirtual _ hcdev).2

theorem storeReading_alike (h : ReadAlike sensors view state state') (hname : name ∉ sensors)
    (info : SensorInfo) (now : ℤ) (since : Option ℤ) (temp : ExactFloat) :
    Alike (ReadAlike sensors view) (storeReading state name info now since temp)
      (storeReading state' name info now since temp) := by
  unfold storeReading
  rw [h.maps.others name hname]
  cases state.sensorStatusMap.lookup name with
  | none => exact ⟨h, rfl⟩
  | some status =>
    have hlog := readAlike_kept.log state state' name
      (smoothReading info since status.thermalCached.temp temp) h
    exact ⟨⟨h.maps.assign _, h.models, hlog.log, h.started, h.inputs⟩, rfl⟩

theorem readThermalSensor_alike (hapart : IsApart config.sensorInfoMap sensors)
    (hworld : ModelsApart sensors view world) {forceNoCache : Bool} {fuel : ℕ} (hname : name ∉ sensors)
    (h : ReadAlike sensors view state state') :
    Paired (Alike (ReadAlike sensors view))
      (readThermalSensor (config.readEnv throttling powerFiles world) forceNoCache fuel state name)
      (readThermalSensor (config.readEnv throttling' powerFiles' world) forceNoCache fuel state'
        name) := by
  induction fuel generalizing name state state' with
  | zero => exact paired_error _
  | succ fuel ih =>
    have hstart : ReadAlike sensors view { state with started := state.started + 1, inputs := [] }
        { state' with started := state'.started + 1, inputs := [] } :=
      ⟨h.maps, h.models, h.log, congrArg (· + 1) h.started, rfl⟩
    have hsensor : Paired (Alike (ReadAlike sensors view))
        (readSensor (config.readEnv throttling powerFiles world) forceNoCache
          (readThermalSensor (config.readEnv throttling powerFiles world) forceNoCache fuel)
          { state with started := state.started + 1, inputs := [] } name)
        (readSensor (config.readEnv throttling' powerFiles' world) forceNoCache
          (readThermalSensor (config.readEnv throttling' powerFiles' world) forceNoCache fuel)
          { state' with started := state'.started + 1, inputs := [] } name) := by
      apply readSensor_alike readAlike_kept _ _ _ _ _ hstart
      · rfl
      · exact congrArg (fun started ↦ world.now (started + 1)) h.started
      · exact (h.maps.others name hname).symm
      · intro info hinfo
        apply readComposition_paired readAlike_kept _ _ hstart
        · exact fun x y hxy ↦ congrArg (fun started ↦ world.readThermalFile started name) hxy.started
        · intro virtualInfo hvirtual
          refine ⟨?_, hapart.sameSources hname hinfo hvirtual, hworld.sameModels hname _⟩
          intro sub hsub x y hxy
          apply ih _ hxy
          have hreads : sub ∈ subSensorsOf config.sensorInfoMap name :=
            (subSensorsOf_virtual hinfo hvirtual).symm ▸ hsub
          exact mt (hapart.isolated name sub (Or.inl hreads)).mpr hname
      · exact fun info since x y temp hxy ↦ storeReading_alike hxy hname info _ since temp
    apply hsensor.bind
    intro x y hxy
    have hcall : (⟨name, x.1.inputs, x.2.1, x.2.2⟩ : ReadCall) = ⟨name, y.1.inputs, y.2.1, y.2.2⟩ := by
      rw [hxy.1.inputs, hxy.2]
    exact ⟨⟨hxy.1.maps, hxy.1.models, hxy.1.log, hxy.1.started, h.inputs⟩, hcall⟩

theorem readReferences_alike {readTemp readTemp' : TemperatureRead ε} {refs : List String}
    (hread : ∀ ref ∈ refs, ∀ state state', ReadAlike sensors view state state' →
      Paired (Alike (ReadAlike sensors view)) (readTemp state ref false) (readTemp' state' ref false))
    {severity : ThrottlingSeverity} (h : ReadAlike sensors view state state') :
    Paired (Alike (ReadAlike sensors view)) (readReferences readTemp refs severity state)
      (readReferences readTemp' refs severity state') := by
  induction refs generalizing severity state state' with
  | nil => exact ⟨h, rfl⟩
  | cons ref rest ih =>
    apply (hread ref List.mem_cons_self state state' h).bind
    intro x y hxy
    dsimp only
    rw [← hxy.2]
    cases x.2 with
    | okay temp => exact ih (fun other hin ↦ hread other (List.mem_cons_of_mem _ hin)) hxy.1
    | underCollecting => exact ⟨hxy.1, rfl⟩
    | error => exact ⟨hxy.1, rfl⟩

theorem finishTemperature_alike (h : ReadAlike sensors view state state') (hname : name ∉ sensors)
    (info : SensorInfo) (temp : ExactFloat) (severity : ThrottlingSeverity) :
    Alike (ReadAlike sensors view) (finishTemperature state name info temp severity)
      (finishTemperature state' name info temp severity) := by
  unfold finishTemperature
  rw [h.maps.others name hname]
  cases info.isWatch with
  | false => exact ⟨h, rfl⟩
  | true =>
    cases state.sensorStatusMap.lookup name with
    | none => exact ⟨h, rfl⟩
    | some status => exact ⟨⟨h.maps.assign _, h.models, h.log, h.started, h.inputs⟩, rfl⟩

/-- The temperature of another sensor is read alike, and fails alike. -/
theorem readTemperature_alike (hapart : IsApart config.sensorInfoMap sensors)
    (hworld : ModelsApart sensors view world) {forceNoCache : Bool} {fuel : ℕ} (hname : name ∉ sensors)
    (h : ReadAlike sensors view state state') :
    Paired (Alike (ReadAlike sensors view))
      (readTemperature config.sensorInfoMap
        (config.reader (config.readEnv throttling powerFiles world)) fuel state name forceNoCache)
      (readTemperature config.sensorInfoMap
        (config.reader (config.readEnv throttling' powerFiles' world)) fuel state' name
        forceNoCache) := by
  induction fuel generalizing name state state' forceNoCache with
  | zero => exact paired_error _
  | succ fuel ih =>
    unfold readTemperature
    rw [h.maps.others name hname]
    cases state.sensorStatusMap.lookup name with
    | none => exact paired_error _
    | some status =>
      have hstart : ReadAlike sensors view { state with sensorLogMap := ∅, inputs := [] }
          { state' with sensorLogMap := ∅, inputs := [] } :=
        ⟨h.maps, h.models, rfl, h.started, rfl⟩
      apply (readThermalSensor_alike hapart hworld hname hstart).bind
      intro x y hxy
      dsimp only
      rw [← hxy.2]
      unfold rateReading
      cases x.2.outcome with
      | error => exact ⟨hxy.1, rfl⟩
      | underCollecting => exact ⟨hxy.1, rfl⟩
      | okay temp =>
        dsimp only
        split
        · exact ⟨hxy.1, rfl⟩
        · unfold getSeverityReference
          cases hinfo : config.sensorInfoMap.lookup name with
          | none => exact paired_error _
          | some info =>
            have hrefs : ∀ ref ∈ info.severityReference, ref ∉ sensors := by
              intro ref href
              have hrefers : RefersTo config.sensorInfoMap name ref := by
                unfold RefersTo
                rwa [severityReferencesOf_eq hinfo]
              exact mt (hapart.isolated name ref (Or.inr (Or.inl hrefers))).mpr hname
            have hrated : Paired (Alike (ReadAlike sensors view))
                (readReferences (readTemperature config.sensorInfoMap
                  (config.reader (config.readEnv throttling powerFiles world)) fuel)
                  info.severityReference .none x.1)
                (readReferences (readTemperature config.sensorInfoMap
                  (config.reader (config.readEnv throttling' powerFiles' world)) fuel)
                  info.severityReference .none y.1) := by
              apply readReferences_alike _ hxy.1
              intro ref href state state' hstate
              exact ih (hrefs ref href) hstate
            apply hrated.bind
            intro rated rated' hsame
            dsimp only
            rw [← hsame.2]
            have hfinished := finishTemperature_alike hsame.1 hname info temp rated.2
            exact ⟨hfinished.1, congrArg ReadOutcome.okay hfinished.2⟩

end Readings

end HardwareMediatek.Thermal
