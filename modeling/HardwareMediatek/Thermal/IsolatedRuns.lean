import HardwareMediatek.Thermal.EmulationIsolation

/-!
# Runs with and without emulation

What leaves the other sensors alone in one reading does so in a visit, in a pass and in a run. So nothing
but the sensors that are connected with the emulated ones shows that there was an emulation.
-/

namespace HardwareMediatek.Thermal

open Foundation Relation UnorderedMap

section Others

variable {ε μ : Type} (sensors : Set String) (view : ε → μ)

/-- The other sensors have the same statuses and models. -/
structure OthersAlike (m m' : SensorStatusMap) (helpers helpers' : ε) : Prop where
  maps : ChangesWithin sensors m m'
  models : view helpers = view helpers'

/-- Two passes that go on alike for the other sensors. -/
def WatchAlike (w w' : WatchState ε) : Prop :=
  OthersAlike sensors view w.pass.sensorStatusMap w'.pass.sensorStatusMap w.helpers w'.helpers

def HelpersAlike (state state' : ThermalHelperImpl ε) : Prop :=
  OthersAlike sensors view state.sensorStatusMap state'.sensorStatusMap state.helpers state'.helpers

/-- The step is for one of the sensors. -/
def HelperStep.IsWithin : HelperStep ε → Prop
  | .emulTemp targetSensor _ _ => targetSensor ∈ sensors
  | .emulSeverity targetSensor _ _ => targetSensor ∈ sensors
  | .emulClear targetSensor => targetSensor ∈ sensors ∧ targetSensor ≠ "all"
  | .read _ name _ => name ∈ sensors
  | .pass _ => False

/-- Every sensor that is read in the step has a model of its own. -/
def HelperStep.ModelsApart : HelperStep ε → Prop
  | .read world _ _ => Thermal.ModelsApart sensors view world
  | .pass world => ∀ name, Thermal.ModelsApart sensors view (world.reading name)
  | _ => True

variable {sensors view} {m m' middle : SensorStatusMap} {helpers helpers' between : ε}

theorem OthersAlike.refl (m : SensorStatusMap) (helpers : ε) :
    OthersAlike sensors view m m helpers helpers :=
  ⟨ChangesWithin.refl _ _, rfl⟩

theorem OthersAlike.symm (h : OthersAlike sensors view m m' helpers helpers') :
    OthersAlike sensors view m' m helpers' helpers :=
  ⟨h.maps.symm, h.models.symm⟩

theorem OthersAlike.trans (h : OthersAlike sensors view m middle helpers between)
    (h' : OthersAlike sensors view middle m' between helpers') :
    OthersAlike sensors view m m' helpers helpers' :=
  ⟨h.maps.trans h'.maps, h.models.trans h'.models⟩

theorem watchAlike_equivalence : Equivalence (@WatchAlike ε μ sensors view) :=
  ⟨fun _ ↦ OthersAlike.refl _ _, OthersAlike.symm, OthersAlike.trans⟩

theorem helpersAlike_equivalence : Equivalence (HelpersAlike (ε := ε) sensors view) :=
  ⟨fun _ ↦ OthersAlike.refl _ _, OthersAlike.symm, OthersAlike.trans⟩

end Others

section Readings

variable {ε μ : Type} {config : HelperConfig} {sensors : Set String} {view : ε → μ} {world : ReadEnv ε}
  {throttling throttling' : ThermalThrottling} {powerFiles powerFiles' : PowerFiles}
  {m m' : SensorStatusMap} {helpers helpers' : ε} {name : String} {forceNoCache : Bool}

/-- The temperature of one of the sensors is read from the sensors only. -/
theorem readNow_hides (hapart : IsApart config.sensorInfoMap sensors)
    (hworld : ModelsApart sensors view world) (hname : name ∈ sensors) {final : ReadState ε}
    {outcome : ReadOutcome Temperature}
    (hread : config.readNow config.reader world throttling powerFiles m helpers name forceNoCache =
      .ok (final, outcome)) :
    OthersAlike sensors view m final.sensorStatusMap helpers final.helpers := by
  let I : SensorStatusMap → ε → Prop := fun m' helpers' ↦ OthersAlike sensors view m m' helpers helpers'
  apply readTemperature_keeps _ _ (I := I) (OthersAlike.refl _ _) hread
  · intro ref href forceNoCache state final call hstate hcall
    have hin : ref ∈ sensors :=
      hapart.isolated.reaches (fun _ _ hedge ↦ Or.inr (Or.inl hedge)) hname href
    apply readThermalSensor_keeps _ hstate hcall
    apply KeptFrom.mk
    · intro sub hsub m helpers status cached hstate _
      have hsubin : sub ∈ sensors := hapart.isolated.reaches (fun _ _ hedge ↦ Or.inl hedge) hin hsub
      exact ⟨hstate.maps.trans (changesWithin_assign hsubin m _), hstate.models⟩
    · intro sub info virtualInfo hsub _ _ _ n m helpers values hstate
      have hsubin : sub ∈ sensors := hapart.isolated.reaches (fun _ _ hedge ↦ Or.inl hedge) hin hsub
      have hhidden := hworld.hides sub hsubin n helpers values
      exact ⟨⟨hstate.maps, hstate.models.trans hhidden.1.symm⟩,
        ⟨hstate.maps, hstate.models.trans hhidden.2.symm⟩⟩
  · intro ref href m helpers status info value severity hstate _
    have hin : ref ∈ sensors :=
      hapart.isolated.reaches (fun _ _ hedge ↦ Or.inr (Or.inl hedge)) hname href
    exact ⟨hstate.maps.trans (changesWithin_assign hin m _), hstate.models⟩

/-- The temperature of another sensor is the same. -/
theorem readNow_alike (hapart : IsApart config.sensorInfoMap sensors)
    (hworld : ModelsApart sensors view world) (hname : name ∉ sensors)
    (h : OthersAlike sensors view m m' helpers helpers') :
    Paired (Alike (ReadAlike sensors view))
      (config.readNow config.reader world throttling powerFiles m helpers name forceNoCache)
      (config.readNow config.reader world throttling' powerFiles' m' helpers' name forceNoCache) :=
  readTemperature_alike hapart hworld hname ⟨h.maps, h.models, rfl, rfl, rfl⟩

end Readings

/-! ## Visits -/

section Visits

variable {ε μ : Type} {config : HelperConfig} {sensors : Set String} {view : ε → μ} {env : PassEnv}
  {reading : String → ReadEnv ε} {w w' v v' : WatchState ε} {name : String} {vote vote' : Option ℤ}

theorem visitSensorBy_hides (hapart : IsApart config.sensorInfoMap sensors)
    (hworld : ∀ name, ModelsApart sensors view (reading name)) (hname : name ∈ sensors)
    (hvisit : visitSensorBy env (config.readInPass config.reader reading) name w = .ok (v, vote)) :
    WatchAlike sensors view w v := by
  let I : SensorStatusMap → ε → Prop :=
    fun m helpers ↦ OthersAlike sensors view w.pass.sensorStatusMap m w.helpers helpers
  apply visitSensorBy_keeps (I := I) _ _ (OthersAlike.refl _ _) hvisit
  · intro u v forceNoCache outcome hstate hread
    apply readInPass_keeps (I := I) _ hstate hread
    intro m helpers final outcome hstate hnow
    exact hstate.trans (readNow_hides hapart (hworld name) hname hnow)
  · intro m m' helpers change _ hstate hchanges
    exact ⟨hstate.maps.trans (hchanges.within hname), hstate.models⟩

theorem readInPass_alike (hapart : IsApart config.sensorInfoMap sensors)
    (hworld : ∀ name, ModelsApart sensors view (reading name)) (hname : name ∉ sensors)
    (h : WatchAlike sensors view w w') {forceNoCache : Bool} {outcome outcome' : ReadOutcome Temperature}
    (hread : config.readInPass config.reader reading w name forceNoCache = .ok (v, outcome))
    (hread' : config.readInPass config.reader reading w' name forceNoCache = .ok (v', outcome')) :
    WatchAlike sensors view v v' ∧ outcome = outcome' := by
  obtain ⟨result, hresult, hdone⟩ := bind_eq_ok.mp hread
  obtain ⟨result', hresult', hdone'⟩ := bind_eq_ok.mp hread'
  have halike := (readNow_alike hapart (hworld name) hname h).of_ok hresult hresult'
  have hfinal := ok_pair hdone
  have hfinal' := ok_pair hdone'
  rw [← hfinal.1, ← hfinal'.1, ← hfinal.2, ← hfinal'.2]
  exact ⟨⟨halike.1.maps, halike.1.models⟩, halike.2⟩

theorem updateSensorBy_alike (hapart : IsApart config.sensorInfoMap sensors)
    (hworld : ∀ name, ModelsApart sensors view (reading name)) (hname : name ∉ sensors)
    (h : WatchAlike sensors view w w') {info : SensorInfo} {cause : UpdateCause} {maxThrottling : Bool}
    {sleepMs : ℤ}
    (hupdate : updateSensorBy env (config.readInPass config.reader reading) name info cause
      maxThrottling sleepMs w = .ok (v, vote))
    (hupdate' : updateSensorBy env (config.readInPass config.reader reading) name info cause
      maxThrottling sleepMs w' = .ok (v', vote')) : WatchAlike sensors view v v' := by
  obtain ⟨result, hresult, hrest⟩ := bind_eq_ok.mp hupdate
  obtain ⟨result', hresult', hrest'⟩ := bind_eq_ok.mp hupdate'
  have hread := readInPass_alike hapart hworld hname h hresult hresult'
  dsimp only at hrest hrest'
  rw [← hread.2] at hrest'
  cases houtcome : result.2 with
  | okay temp =>
    rw [houtcome] at hrest hrest'
    obtain ⟨notified, hnotified, hthen⟩ := bind_eq_ok.mp hrest
    obtain ⟨notified', hnotified', hthen'⟩ := bind_eq_ok.mp hrest'
    obtain ⟨throttled, hthrottled, hdone⟩ := bind_eq_ok.mp hthen
    obtain ⟨throttled', hthrottled', hdone'⟩ := bind_eq_ok.mp hthen'
    have hchange := (notifySensor_changesAt (liftChecked_eq_ok.mp hnotified)).trans
      (throttleSensor_changesAt (liftChecked_eq_ok.mp hthrottled))
    have hchange' := (notifySensor_changesAt (liftChecked_eq_ok.mp hnotified')).trans
      (throttleSensor_changesAt (liftChecked_eq_ok.mp hthrottled'))
    rw [← (ok_pair hdone).1, ← (ok_pair hdone').1]
    exact ⟨hread.1.maps.changesAt hchange hchange', hread.1.models⟩
  | underCollecting =>
    rw [houtcome] at hrest hrest'
    rw [← (ok_pair hrest).1, ← (ok_pair hrest').1]
    exact hread.1
  | error =>
    rw [houtcome] at hrest hrest'
    rw [← (ok_pair hrest).1, ← (ok_pair hrest').1]
    exact hread.1

theorem isTriggered_alike {m m' : SensorStatusMap} {triggers : List String}
    (h : ∀ trigger ∈ triggers, m'.lookup trigger = m.lookup trigger) :
    isTriggered m' triggers = isTriggered m triggers := by
  induction triggers with
  | nil => rfl
  | cons trigger rest ih =>
    have hrest := ih fun other hin ↦ h other (List.mem_cons_of_mem _ hin)
    unfold isTriggered atKey
    rw [h trigger List.mem_cons_self, hrest]

/-- Another sensor is due at the same time. -/
theorem sleepDelay_alike {m m' : SensorStatusMap} (hapart : IsApart config.sensorInfoMap sensors)
    (hname : name ∉ sensors) (h : ChangesWithin sensors m m') {info : SensorInfo}
    (hinfo : config.sensorInfoMap.lookup name = some info) (status : SensorStatus) :
    sleepDelay m' info status = sleepDelay m info status := by
  unfold sleepDelay
  cases hvirtual : info.virtualSensorInfo with
  | none => rfl
  | some virtualInfo =>
    dsimp only
    rw [isTriggered_alike]
    intro trigger hin
    apply h.others
    have htriggered : TriggeredBy config.sensorInfoMap name trigger := by
      unfold TriggeredBy triggerSensorsOf
      rw [hinfo, Option.bind_some, hvirtual]
      exact hin
    exact mt (hapart.isolated name trigger (Or.inr (Or.inr (Or.inl htriggered)))).mpr hname

theorem visitSensorBy_alike (hapart : IsApart config.sensorInfoMap sensors)
    (hworld : ∀ name, ModelsApart sensors view (reading name)) (hname : name ∉ sensors)
    (h : WatchAlike sensors view w w') {passEnv : PassEnv} (henv : env = config.passEnv passEnv)
    (hvisit : visitSensorBy env (config.readInPass config.reader reading) name w = .ok (v, vote))
    (hvisit' : visitSensorBy env (config.readInPass config.reader reading) name w' = .ok (v', vote')) :
    WatchAlike sensors view v v' := by
  obtain ⟨info, hinfo, hrest⟩ := bind_eq_ok.mp hvisit
  obtain ⟨info', hinfo', hrest'⟩ := bind_eq_ok.mp hvisit'
  obtain rfl : info = info' := Except.ok.inj (hinfo.symm.trans hinfo')
  have hlookup : config.sensorInfoMap.lookup name = some info := by
    rw [henv] at hinfo
    exact atKey_eq_ok.mp (liftChecked_eq_ok.mp hinfo)
  by_cases hwatch : info.isWatch = true
  · rw [if_pos hwatch] at hrest hrest'
    obtain ⟨status, hstatus, hwatched⟩ := bind_eq_ok.mp hrest
    obtain ⟨status', hstatus', hwatched'⟩ := bind_eq_ok.mp hrest'
    obtain ⟨sleepMs, hsleep, hdue⟩ := bind_eq_ok.mp hwatched
    obtain ⟨sleepMs', hsleep', hdue'⟩ := bind_eq_ok.mp hwatched'
    have hown := atKey_eq_ok.mp (liftChecked_eq_ok.mp hstatus)
    have hown' := atKey_eq_ok.mp (liftChecked_eq_ok.mp hstatus')
    rw [h.maps.others name hname, hown] at hown'
    obtain rfl := Option.some.inj hown'
    rw [sleepDelay_alike hapart hname h.maps hlookup, hsleep] at hsleep'
    obtain rfl := Except.ok.inj hsleep'
    let begun : SensorStatus :=
      { status with overrideStatus := { status.overrideStatus with pendingUpdate := false } }
    have hbegun : ChangesWithin sensors (w.pass.sensorStatusMap.assign name begun)
        (w'.pass.sensorStatusMap.assign name begun) := h.maps.assign begun
    dsimp only at hdue hdue'
    split at hdue
    · rename_i hforced
      rw [if_pos hforced] at hdue'
      apply updateSensorBy_alike hapart hworld hname _ hdue hdue'
      exact ⟨hbegun, h.models⟩
    · rename_i hforced
      rw [if_neg hforced] at hdue'
      rw [← (ok_pair hdue).1, ← (ok_pair hdue').1]
      exact ⟨hbegun, h.models⟩
  · rw [if_neg hwatch] at hrest hrest'
    rw [← (ok_pair hrest).1, ← (ok_pair hrest').1]
    exact h

end Visits

/-! ## Passes and runs -/

section Runs

variable {ε μ : Type} {config : HelperConfig} {sensors : Set String} {view : ε → μ}

theorem runPass_alike (hapart : IsApart config.sensorInfoMap sensors) {world : PassWorld ε}
    (hworld : ∀ name, ModelsApart sensors view (world.reading name))
    {state state' next next' : ThermalHelperImpl ε} {calls calls' : List ReadCall}
    (h : HelpersAlike sensors view state state')
    (hpass : config.runPass config.reader world state = .ok (next, calls))
    (hpass' : config.runPass config.reader world state' = .ok (next', calls')) :
    HelpersAlike sensors view next next' := by
  obtain ⟨w, hvisits, hrest⟩ := bind_eq_ok.mp hpass
  obtain ⟨w', hvisits', hrest'⟩ := bind_eq_ok.mp hpass'
  obtain ⟨_, -, hrest⟩ := bind_eq_ok.mp hrest
  obtain ⟨_, -, hrest'⟩ := bind_eq_ok.mp hrest'
  obtain ⟨_, -, hdone⟩ := bind_eq_ok.mp hrest
  obtain ⟨_, -, hdone'⟩ := bind_eq_ok.mp hrest'
  rw [← (ok_pair hdone).1, ← (ok_pair hdone').1]
  have hstart := startPass_alike h.maps (config.passEnv world.env) state.throttling state'.throttling
    state.powerFiles state'.powerFiles
  rw [hstart.keys] at hvisits'
  have hwatch : WatchAlike sensors view w w' := by
    -- A visit of one of the sensors is hidden from the others.
    refine Unwinds.run (?_ : Unwinds (· ∈ sensors) (fun _ ↦ True) _ (WatchAlike sensors view))
      (fun _ _ ↦ trivial) ?_ hvisits hvisits'
    · apply Unwinds.mk watchAlike_equivalence
      · intro name _ hname w v hround
        obtain ⟨result, hvisit, hcast⟩ := bind_eq_ok.mp hround
        rw [← Except.ok.inj hcast]
        have hhidden := visitSensorBy_hides hapart hworld hname hvisit
        exact ⟨(castVote_sensorStatusMap _ _).symm ▸ hhidden.maps, hhidden.models⟩
      · intro name _ hname w w' v v' hwatch hround hround'
        obtain ⟨result, hvisit, hcast⟩ := bind_eq_ok.mp hround
        obtain ⟨result', hvisit', hcast'⟩ := bind_eq_ok.mp hround'
        have halike := visitSensorBy_alike hapart hworld hname hwatch rfl hvisit hvisit'
        rw [← Except.ok.inj hcast, ← Except.ok.inj hcast']
        unfold WatchAlike
        rw [castVote_sensorStatusMap, castVote_sensorStatusMap]
        exact halike
    · exact ⟨hstart, h.models⟩
  exact ⟨hwatch.maps, hwatch.models⟩

/-- A step that is for one of the sensors is hidden from the others. -/
theorem step_hides (hapart : IsApart config.sensorInfoMap sensors) {step : HelperStep ε}
    (hmodels : step.ModelsApart sensors view) (hwithin : step.IsWithin sensors)
    {state next : ThermalHelperImpl ε} (hstep : config.step config.reader state step = .ok next) :
    HelpersAlike sensors view state next := by
  cases step with
  | pass world => exact hwithin.elim
  | read world name forceNoCache =>
    obtain ⟨result, hread, hdone⟩ := bind_eq_ok.mp hstep
    rw [← Except.ok.inj hdone]
    exact readNow_hides hapart hmodels hwithin hread
  | emulTemp targetSensor temp maxThrottling =>
    obtain ⟨result, hemul, hdone⟩ := bind_eq_ok.mp hstep
    rw [← Except.ok.inj hdone]
    exact ⟨emulTemp_changesWithin hapart.isolated hwithin hemul, rfl⟩
  | emulSeverity targetSensor severity maxThrottling =>
    obtain ⟨result, hemul, hdone⟩ := bind_eq_ok.mp hstep
    rw [← Except.ok.inj hdone]
    exact ⟨emulSeverity_changesWithin hapart.isolated hwithin hemul, rfl⟩
  | emulClear targetSensor =>
    obtain ⟨result, hclear, hdone⟩ := bind_eq_ok.mp hstep
    rw [← Except.ok.inj hdone]
    exact ⟨emulClear_changesWithin hapart.isolated hwithin.1 hwithin.2 hclear, rfl⟩

theorem step_alike (hapart : IsApart config.sensorInfoMap sensors) {step : HelperStep ε}
    (hmodels : step.ModelsApart sensors view) (hoff : ¬ step.IsWithin sensors)
    {state state' next next' : ThermalHelperImpl ε} (h : HelpersAlike sensors view state state')
    (hstep : config.step config.reader state step = .ok next)
    (hstep' : config.step config.reader state' step = .ok next') :
    HelpersAlike sensors view next next' := by
  cases step with
  | pass world =>
    obtain ⟨result, hpass, hdone⟩ := bind_eq_ok.mp hstep
    obtain ⟨result', hpass', hdone'⟩ := bind_eq_ok.mp hstep'
    rw [← Except.ok.inj hdone, ← Except.ok.inj hdone']
    exact runPass_alike hapart hmodels h hpass hpass'
  | read world name forceNoCache =>
    obtain ⟨result, hread, hdone⟩ := bind_eq_ok.mp hstep
    obtain ⟨result', hread', hdone'⟩ := bind_eq_ok.mp hstep'
    rw [← Except.ok.inj hdone, ← Except.ok.inj hdone']
    have halike := (readNow_alike hapart hmodels hoff h).of_ok hread hread'
    exact ⟨halike.1.maps, halike.1.models⟩
  | emulTemp targetSensor temp maxThrottling =>
    obtain ⟨result, hemul, hdone⟩ := bind_eq_ok.mp hstep
    obtain ⟨result', hemul', hdone'⟩ := bind_eq_ok.mp hstep'
    rw [← Except.ok.inj hdone, ← Except.ok.inj hdone']
    exact ⟨(emulTemp_paired temp maxThrottling h.maps).of_ok hemul hemul', h.models⟩
  | emulSeverity targetSensor severity maxThrottling =>
    obtain ⟨result, hemul, hdone⟩ := bind_eq_ok.mp hstep
    obtain ⟨result', hemul', hdone'⟩ := bind_eq_ok.mp hstep'
    rw [← Except.ok.inj hdone, ← Except.ok.inj hdone']
    exact ⟨(emulSeverity_paired severity maxThrottling h.maps).of_ok hemul hemul', h.models⟩
  | emulClear targetSensor =>
    obtain ⟨result, hclear, hdone⟩ := bind_eq_ok.mp hstep
    obtain ⟨result', hclear', hdone'⟩ := bind_eq_ok.mp hstep'
    rw [← Except.ok.inj hdone, ← Except.ok.inj hdone']
    exact ⟨(emulClear_paired h.maps).of_ok hclear hclear', h.models⟩

theorem step_unwinds (hapart : IsApart config.sensorInfoMap sensors) :
    Unwinds (HelperStep.IsWithin sensors) (HelperStep.ModelsApart sensors view)
      (config.step (σ := ε) config.reader) (HelpersAlike sensors view) where
  equivalence := helpersAlike_equivalence
  hides _ hmodels hwithin _ _ hstep := step_hides hapart hmodels hwithin hstep
  keeps _ hmodels hoff _ _ _ _ h hstep hstep' := step_alike hapart hmodels hoff h hstep hstep'

/-- A run from which steps for some sensors are left out, such as their emulation, leaves the sensors
that are not connected with them in the same state, from which they are read alike. -/
theorem emulation_isolated (hapart : IsApart config.sensorInfoMap sensors)
    {steps purged : List (HelperStep ε)} (hpurged : Purged (HelperStep.IsWithin sensors) steps purged)
    (hmodels : ∀ step ∈ steps, step.ModelsApart sensors view) {start final final' : ThermalHelperImpl ε}
    (hrun : config.run config.reader start steps = .ok final)
    (hrun' : config.run config.reader start purged = .ok final') {name : String}
    (hname : name ∉ sensors) :
    final'.sensorStatusMap.lookup name = final.sensorStatusMap.lookup name ∧
      ∀ (world : ReadEnv ε) (forceNoCache : Bool), ModelsApart sensors view world →
        Paired (fun x y ↦ x.2 = y.2)
          (config.readNow config.reader world final.throttling final.powerFiles final.sensorStatusMap
            final.helpers name forceNoCache)
          (config.readNow config.reader world final'.throttling final'.powerFiles
            final'.sensorStatusMap final'.helpers name forceNoCache) := by
  have halike : HelpersAlike sensors view final final' :=
    (step_unwinds hapart).purged hpurged hmodels (OthersAlike.refl _ _) hrun hrun'
  apply And.intro (halike.maps.others name hname)
  intro world forceNoCache hworld
  exact (readNow_alike hapart hworld hname halike).mono fun _ _ h ↦ h.2

end Runs

/-- Two sensors that are watched and have nothing to do with each other. -/
def apartSensors : HelperConfig where
  sensorInfoMap := ((∅ : SensorInfoMap).put "battery" { (default : SensorInfo) with isWatch := true }).put
    "skin" { (default : SensorInfo) with isWatch := true }
  coolingDeviceInfoMap := ∅
  powerRailSwitchMap := ∅
  fuel := 2

theorem apartSensors_isApart (sensors : Set String) : IsApart apartSensors.sensorInfoMap sensors := by
  have hplain : ∀ name info, apartSensors.sensorInfoMap.lookup name = some info →
      info.virtualSensorInfo = none ∧ info.severityReference = [] := by
    have hnone : ∀ name info, (∅ : SensorInfoMap).lookup name = some info →
        info.virtualSensorInfo = none ∧ info.severityReference = [] :=
      fun name info hinfo ↦ nomatch hinfo
    exact forall_lookup_put (forall_lookup_put hnone ⟨rfl, rfl⟩) ⟨rfl, rfl⟩
  constructor
  · intro name other hconnected
    unfold IsConnected ReadsFrom subSensorsOf RefersTo severityReferencesOf TriggeredBy triggerSensorsOf
      linkedSensorsOf at hconnected
    cases hinfo : apartSensors.sensorInfoMap.lookup name with
    | none => simp [hinfo] at hconnected
    | some info => simp [hinfo, (hplain name info hinfo).1, (hplain name info hinfo).2] at hconnected
  · intro name _ info virtualInfo hinfo hvirtual
    rw [(hplain name info hinfo).1] at hvirtual
    cases hvirtual

/-- Every file holds the same temperature, and nothing happens. -/
def quietWorld : PassWorld Unit where
  env := ⟨∅, ∅, ∅, ∅, 0, fun _ _ _ ↦ .error .outOfRange, id, fun _ ↦ [], fun _ ↦ "", fun _ ↦ true⟩
  reading _ := ⟨∅, ∅, fun _ ↦ none, fun _ _ ↦ some "20", fun _ ↦ 0, fun _ ↦ .nan,
    fun _ _ _ _ ↦ ((), .failed), fun _ _ _ _ ↦ (), fun _ _ _ ↦ .error⟩

theorem quietWorld_modelsApart (sensors : Set String) (name : String) :
    ModelsApart sensors id (quietWorld.reading name) :=
  ⟨fun _ _ _ _ _ ↦ ⟨rfl, rfl⟩, fun _ _ _ _ _ _ _ ↦ ⟨rfl, rfl⟩, fun _ _ _ _ _ _ _ ↦ rfl,
    fun _ _ _ _ _ _ ↦ rfl⟩

def apartStart : ThermalHelperImpl Unit :=
  ⟨((∅ : SensorStatusMap).put "battery" default).put "skin" default, .empty, ⟨∅, ∅⟩, ()⟩

/-- The skin is emulated as hot before a pass. -/
def emulatedSteps : List (HelperStep Unit) := [.emulTemp "skin" (.ofInt 50) false, .pass quietWorld]

def apartRun (steps : List (HelperStep Unit)) : ThermalHelperImpl Unit :=
  (apartSensors.run apartSensors.reader apartStart steps).toOption.getD apartStart

theorem emulation_isolated_battery :
    (apartRun [.pass quietWorld]).sensorStatusMap.lookup "battery" =
        (apartRun emulatedSteps).sensorStatusMap.lookup "battery" ∧
      ∀ (world : ReadEnv Unit) (forceNoCache : Bool), ModelsApart {"skin"} id world →
        Paired (fun x y ↦ x.2 = y.2)
          (apartSensors.readNow apartSensors.reader world (apartRun emulatedSteps).throttling
            (apartRun emulatedSteps).powerFiles (apartRun emulatedSteps).sensorStatusMap
            (apartRun emulatedSteps).helpers "battery" forceNoCache)
          (apartSensors.readNow apartSensors.reader world (apartRun [.pass quietWorld]).throttling
            (apartRun [.pass quietWorld]).powerFiles (apartRun [.pass quietWorld]).sensorStatusMap
            (apartRun [.pass quietWorld]).helpers "battery" forceNoCache) := by
  have hpurged : Purged (HelperStep.IsWithin {"skin"}) emulatedSteps [.pass quietWorld] :=
    .drop (Set.mem_singleton "skin") (.keep _ .nil)
  have hmodels : ∀ step ∈ emulatedSteps, HelperStep.ModelsApart {"skin"} id step := by
    simp [emulatedSteps, HelperStep.ModelsApart, quietWorld_modelsApart]
  have hrun : apartSensors.run apartSensors.reader apartStart emulatedSteps =
      .ok (apartRun emulatedSteps) := rfl
  have hrun' : apartSensors.run apartSensors.reader apartStart [.pass quietWorld] =
      .ok (apartRun [.pass quietWorld]) := rfl
  exact emulation_isolated (apartSensors_isApart {"skin"}) hpurged hmodels hrun hrun' (by decide)

end HardwareMediatek.Thermal
