import HardwareMediatek.Thermal.Acceptance
import HardwareMediatek.Thermal.EmulationCommands
import HardwareMediatek.Thermal.Lookups

/-!
# Lookups of the watcher by name

The watcher reads the severity references of a sensor, asks for the statuses of its trigger sensors and
switches its power rails, and ends the program when a name is not registered. The constructor checks
these names for virtual sensors only, and trigger sensors only if the virtual sensor is watched by
then. No later step removes a name, so that every lookup succeeds exactly when the names that are not
checked are registered, too.
-/

namespace HardwareMediatek.Thermal

open UnorderedMap Foundation Relation

/-! ## What runs keep -/

section Runs

variable {ε : Type} {config : HelperConfig}

/-- No sensor loses its status, and the power rails keep theirs. -/
structure KeepsNames (start : SensorStatusMap) (files : PowerFiles) (m : SensorStatusMap)
    (files' : PowerFiles) : Prop where
  sensors : ∀ sensor ∈ start, sensor ∈ m
  rails : SameRails files files'

theorem SameRails.refl (files : PowerFiles) : SameRails files files := ⟨rfl, fun _ ↦ Iff.rfl⟩

/-- Refreshing the power data does not change which rails have a status. -/
def HelperStep.KeepsRails : HelperStep ε → Prop
  | .pass world => ∀ files, SameRails files (world.env.refreshPowerStatus files)
  | _ => True

theorem notifySensor_sameRails {env : PassEnv} {name : String} {info : SensorInfo} {temp : Temperature}
    {sleepMs : ℤ} {s : PassState} {result : PassState × ℤ}
    (h : notifySensor env name info temp sleepMs s = .ok result) :
    SameRails s.powerFiles result.1.powerFiles := by
  unfold notifySensor at h
  obtain ⟨status, hstatus⟩ := bind_eq_ok.mp h
  have hrest := hstatus.2
  split at hrest
  · obtain ⟨powerFiles, hswitched⟩ := bind_eq_ok.mp hrest
    rw [← Except.ok.inj hswitched.2]
    exact (switchPowerRails_ok_iff _ _ _).2 powerFiles hswitched.1
  · rw [← Except.ok.inj hrest]
    exact SameRails.refl _

theorem throttleSensor_sameRails {env : PassEnv} {name : String} {info : SensorInfo} {temp : Temperature}
    {timeElapsedMs : ℤ} {maxThrottling : Bool} {s s' : PassState}
    (hrefresh : ∀ files, SameRails files (env.refreshPowerStatus files))
    (h : throttleSensor env name info temp timeElapsedMs maxThrottling s = .ok s') :
    SameRails s.powerFiles s'.powerFiles := by
  unfold throttleSensor at h
  obtain ⟨status, hstatus⟩ := bind_eq_ok.mp h
  obtain ⟨throttling, hthrottling⟩ := bind_eq_ok.mp hstatus.2
  obtain ⟨result, hresult⟩ := bind_eq_ok.mp hthrottling.2
  rw [← Except.ok.inj hresult.2]
  dsimp only
  split
  · exact SameRails.refl _
  · exact hrefresh _

theorem visitSensorBy_sameRails {env : PassEnv} {read : WatchRead ε} {name : String}
    (hrefresh : ∀ files, SameRails files (env.refreshPowerStatus files))
    (hread : ∀ w v forceNoCache outcome, read w name forceNoCache = .ok (v, outcome) →
      v.pass.powerFiles = w.pass.powerFiles)
    {w v : WatchState ε} {vote : Option ℤ}
    (hvisit : visitSensorBy env read name w = .ok (v, vote)) :
    SameRails w.pass.powerFiles v.pass.powerFiles := by
  let I : PassState → ε → Prop := fun s _ ↦ SameRails w.pass.powerFiles s.powerFiles
  apply visitSensorBy_preserves (I := I) _ _ _ _ (SameRails.refl _) hvisit
  · exact fun _ _ _ hrails _ ↦ hrails
  · intro u u' forceNoCache outcome hrails hafter
    change SameRails w.pass.powerFiles u'.pass.powerFiles
    rw [hread u u' forceNoCache outcome hafter]
    exact hrails
  · intro s s' _ info temp sleepMs sleepMs' hrails hnotified
    exact hrails.trans (notifySensor_sameRails hnotified)
  · intro s s' _ info temp timeElapsedMs maxThrottling hrails hthrottled
    exact hrails.trans (throttleSensor_sameRails hrefresh hthrottled)

theorem readNow_keepsSensors {name : String} {world : ReadEnv ε} {throttling : ThermalThrottling}
    {powerFiles : PowerFiles} {m m₀ : SensorStatusMap} {helpers : ε} {forceNoCache : Bool}
    {final : ReadState ε} {outcome : ReadOutcome Temperature} (hstate : ∀ sensor ∈ m₀, sensor ∈ m)
    (hread : config.readNow config.reader world throttling powerFiles m helpers name forceNoCache =
      .ok (final, outcome)) : ∀ sensor ∈ m₀, sensor ∈ final.sensorStatusMap := by
  let I : SensorStatusMap → ε → Prop := fun m _ ↦ ∀ sensor ∈ m₀, sensor ∈ m
  have hassign : ∀ (m : SensorStatusMap) name (status : SensorStatus), (∀ sensor ∈ m₀, sensor ∈ m) →
      ∀ sensor ∈ m₀, sensor ∈ m.assign name status :=
    fun m name status h sensor hsensor ↦ mem_assign.mpr (h sensor hsensor)
  apply readTemperature_keeps _ _ (I := I) hstate hread
  · intro ref _ forceNoCache state final call hstate hcall
    apply readThermalSensor_keeps _ (I := I) hstate hcall
    apply KeptFrom.mk
    · exact fun sub _ m helpers status cached hstate _ ↦ hassign m sub _ hstate
    · exact fun _ _ _ _ _ _ _ _ _ _ _ hstate ↦ ⟨hstate, hstate⟩
  · exact fun ref _ m helpers status info value severity hstate _ ↦ hassign m ref _ hstate

theorem visitSensorBy_keepsNames {env : PassEnv} {reading : String → ReadEnv ε} {name : String}
    {m₀ : SensorStatusMap} {files₀ : PowerFiles}
    (hrefresh : ∀ files, SameRails files (env.refreshPowerStatus files)) {w v : WatchState ε}
    {vote : Option ℤ} (hstate : KeepsNames m₀ files₀ w.pass.sensorStatusMap w.pass.powerFiles)
    (hvisit : visitSensorBy env (config.readInPass config.reader reading) name w = .ok (v, vote)) :
    KeepsNames m₀ files₀ v.pass.sensorStatusMap v.pass.powerFiles := by
  apply KeepsNames.mk
  · let I : SensorStatusMap → ε → Prop := fun m _ ↦ ∀ sensor ∈ m₀, sensor ∈ m
    apply visitSensorBy_keeps (I := I) _ _ hstate.sensors hvisit
    · intro u v forceNoCache outcome hstate hread
      apply readInPass_keeps (I := I) _ hstate hread
      intro m helpers final outcome hstate hnow
      exact readNow_keepsSensors hstate hnow
    · intro m m' helpers change _ hstate hchanges sensor hsensor
      rw [mem_iff_of_keys_eq hchanges.keys]
      exact hstate sensor hsensor
  · apply hstate.rails.trans
    apply visitSensorBy_sameRails hrefresh _ hvisit
    intro u v forceNoCache outcome hread
    obtain ⟨result, hresult⟩ := bind_eq_ok.mp hread
    rw [← (ok_pair hresult.2).1]

theorem startPass_sensors (env : PassEnv) (m : SensorStatusMap) (throttling : ThermalThrottling)
    (files : PowerFiles) :
    ∀ sensor ∈ m, sensor ∈ (startPass env m throttling files).sensorStatusMap := by
  have hfold : ∀ (events : List (Sigma fun _ : String ↦ ExactFloat)) (m' : SensorStatusMap),
      (∀ sensor ∈ m, sensor ∈ m') → ∀ sensor ∈ m, sensor ∈ events.foldl (cacheEvent env.now) m' := by
    intro events
    induction events with
    | nil => exact fun m' h ↦ h
    | cons event rest ih =>
      intro m' h
      apply ih
      intro sensor hsensor
      unfold cacheEvent
      split
      · exact h sensor hsensor
      · exact mem_put.mpr (Or.inr (h sensor hsensor))
  exact hfold env.ueventSensorMap.entries m fun _ ↦ id

/-- No step removes a name. -/
theorem step_keepsNames {m₀ : SensorStatusMap} {files₀ : PowerFiles} {step : HelperStep ε}
    (hstep : step.KeepsRails) {state state' : ThermalHelperImpl ε}
    (hstate : KeepsNames m₀ files₀ state.sensorStatusMap state.powerFiles)
    (h : config.step config.reader state step = .ok state') :
    KeepsNames m₀ files₀ state'.sensorStatusMap state'.powerFiles := by
  have hisolated : IsIsolated config.sensorInfoMap Set.univ :=
    fun _ _ _ ↦ iff_of_true (Set.mem_univ _) (Set.mem_univ _)
  have hchanges : ∀ m', ChangesWithin Set.univ state.sensorStatusMap m' →
      ∀ sensor ∈ m₀, sensor ∈ m' := by
    intro m' hchanges sensor hsensor
    rw [mem_iff_of_keys_eq hchanges.keys]
    exact hstate.sensors sensor hsensor
  cases step with
  | emulTemp target temp maxThrottling =>
    obtain ⟨result, hresult⟩ := bind_eq_ok.mp h
    rw [← Except.ok.inj hresult.2]
    exact ⟨hchanges _ (emulTemp_changesWithin hisolated (Set.mem_univ _) hresult.1), hstate.rails⟩
  | emulSeverity target severity maxThrottling =>
    obtain ⟨result, hresult⟩ := bind_eq_ok.mp h
    rw [← Except.ok.inj hresult.2]
    exact ⟨hchanges _ (emulSeverity_changesWithin hisolated (Set.mem_univ _) hresult.1), hstate.rails⟩
  | emulClear target =>
    obtain ⟨result, hresult⟩ := bind_eq_ok.mp h
    rw [← Except.ok.inj hresult.2]
    refine ⟨fun sensor hsensor ↦ ?_, hstate.rails⟩
    rw [mem_iff_of_keys_eq (emulClear_keys hresult.1)]
    exact hstate.sensors sensor hsensor
  | read world name forceNoCache =>
    obtain ⟨result, hresult⟩ := bind_eq_ok.mp h
    rw [← Except.ok.inj hresult.2]
    exact ⟨readNow_keepsSensors hstate.sensors hresult.1, hstate.rails⟩
  | pass world =>
    obtain ⟨result, hresult⟩ := bind_eq_ok.mp h
    rw [← Except.ok.inj hresult.2]
    obtain ⟨w, hw⟩ := bind_eq_ok.mp hresult.1
    obtain ⟨out, hout⟩ := bind_eq_ok.mp hw.2
    obtain ⟨writes, hwrites⟩ := bind_eq_ok.mp hout.2
    rw [← Except.ok.inj hwrites.2]
    let I : WatchState ε → Prop :=
      fun w ↦ KeepsNames m₀ files₀ w.pass.sensorStatusMap w.pass.powerFiles
    have hrefresh : ∀ files, SameRails files ((config.passEnv world.env).refreshPowerStatus files) :=
      hstep
    apply foldlM_keeps (P := I) _ _ hw.1
    · intro name _ w w' hw hround
      obtain ⟨visited, hvisited⟩ := bind_eq_ok.mp hround
      rw [← Except.ok.inj hvisited.2]
      have hkept := visitSensorBy_keepsNames hrefresh hw hvisited.1
      unfold I castVote
      split
      · split
        · exact hkept
        · exact hkept
      · exact hkept
    · refine ⟨fun sensor hsensor ↦ startPass_sensors _ _ _ _ sensor (hstate.sensors sensor hsensor), ?_⟩
      exact hstate.rails

end Runs

/-- No run removes a name. -/
theorem run_keepsNames {ε : Type} {config : HelperConfig} {steps : List (HelperStep ε)}
    (hsteps : ∀ step ∈ steps, step.KeepsRails) {start final : ThermalHelperImpl ε}
    (hrun : config.run config.reader start steps = .ok final) :
    KeepsNames start.sensorStatusMap start.powerFiles final.sensorStatusMap final.powerFiles := by
  let I : ThermalHelperImpl ε → Prop := fun state ↦
    KeepsNames start.sensorStatusMap start.powerFiles state.sensorStatusMap state.powerFiles
  apply foldlM_keeps (P := I) _ _ hrun
  · exact fun step hstep state state' hstate h ↦ step_keepsNames (hsteps step hstep) hstate h
  · exact ⟨fun _ ↦ id, SameRails.refl _⟩

/-! ## The names that are looked up -/

/-- The names that a pass of the watcher looks up: the sensors that the severity of a watched sensor
refers to, the trigger sensors of a watched virtual sensor, and the rails that a watched sensor
switches, if they are configured. -/
structure NamesFound (config : HelperConfig) (m : SensorStatusMap) (files : PowerFiles) : Prop where
  references : ∀ name ∈ watchedBy config.sensorInfoMap.lookup, ∀ ref,
    TransGen (RefersTo config.sensorInfoMap) name ref → ref ∈ m
  triggers : ∀ name ∈ watchedBy config.sensorInfoMap.lookup,
    ∀ sensor ∈ triggersOf config.sensorInfoMap.lookup name, sensor ∈ m
  rails : ∀ name ∈ watchedBy config.sensorInfoMap.lookup,
    ∀ rail ∈ (config.powerRailSwitchMap.lookup name).getD [],
      rail ∈ files.powerRailInfoMap → rail ∈ files.powerStatusMap

theorem NamesFound.mono {config : HelperConfig} {m m' : SensorStatusMap} {files files' : PowerFiles}
    (h : NamesFound config m files) (hkept : KeepsNames m files m' files') :
    NamesFound config m' files' where
  references name hname ref href := hkept.sensors ref (h.references name hname ref href)
  triggers name hname sensor hsensor := hkept.sensors sensor (h.triggers name hname sensor hsensor)
  rails name hname rail hrail hconfigured := by
    rw [hkept.rails.infos] at hconfigured
    rw [hkept.rails.statuses]
    exact h.rails name hname rail hrail hconfigured

def Construction.config (helper : Construction) (input : ConstructorInput) (fuel : ℕ) :
    HelperConfig where
  sensorInfoMap := helper.sensorInfoMap
  coolingDeviceInfoMap := helper.coolingDeviceInfoMap
  powerRailSwitchMap := input.powerRailSwitchMap
  fuel := fuel

def Construction.state {ε : Type} (helper : Construction) (helpers : ε) : ThermalHelperImpl ε where
  sensorStatusMap := helper.sensorStatusMap
  throttling := helper.throttling
  powerFiles := helper.powerFiles
  helpers := helpers

/-- In every run of a helper that is constructed, the names that a pass looks up are found. -/
def WatcherLookupsTotal (input : ConstructorInput) : Prop :=
  ∀ helper, Constructs input helper → ∀ (ε : Type) (fuel : ℕ) (helpers : ε)
    (steps : List (HelperStep ε)) (state : ThermalHelperImpl ε), (∀ step ∈ steps, step.KeepsRails) →
    (helper.config input fuel).run (helper.config input fuel).reader (helper.state helpers) steps =
      .ok state →
    NamesFound (helper.config input fuel) state.sensorStatusMap state.powerFiles

/-! ## The names that the constructor does not check -/

theorem registerPowerRails_names {energyInfoMap : UnorderedMap String PowerSample}
    {entries : List (Sigma fun _ : String ↦ PowerRailInfo)} {m m' : PowerStatusMap}
    (h : registerPowerRails energyInfoMap entries m = some m') (rail : String) :
    rail ∈ m' ↔ rail ∈ m ∨ ∃ entry ∈ entries, entry.1 = rail ∧ entry.2.sampled = true := by
  induction entries generalizing m with
  | nil =>
    rw [← Option.some.inj h]
    simp
  | cons entry rest ih =>
    rw [registerPowerRails] at h
    rw [List.exists_mem_cons_iff]
    split at h
    · rename_i hsampled
      rcases Option.bind_eq_some_iff.mp h with ⟨history, -, hrest⟩
      rw [ih hrest, mem_put]
      simp only [hsampled, and_true]
      tauto
    · rename_i hsampled
      rw [ih h]
      simp [hsampled]

/-- The watched sensors after the construction. -/
def watchedAfter (input : ConstructorInput) : Set String :=
  markPass (watchedBy input.sensorInfoMap.lookup) (triggersOf input.sensorInfoMap.lookup)
    (referencesOf input.sensorInfoMap.lookup) input.sensorInfoMap.keys

/-- The names that the constructor accepts without a check are registered: the severity references of
physical sensors, the trigger sensors of virtual sensors that are watched only after their visit, and
the rails of physical sensors. -/
structure UncheckedNamesFound (input : ConstructorInput) : Prop where
  references : ∀ name ∈ watchedAfter input, ∀ other,
    ReflTransGen (RefersTo input.sensorInfoMap) name other → ∀ info,
      input.sensorInfoMap.lookup other = some info → info.virtualSensorInfo = none →
        ∀ ref ∈ info.severityReference, ref ∈ input.sensorInfoMap
  triggers : ∀ name ∈ watchedAfter input,
    ¬ FiresIn input.sensorInfoMap.lookup input.sensorInfoMap.keys name →
      ∀ sensor ∈ triggersOf input.sensorInfoMap.lookup name, sensor ∈ input.sensorInfoMap
  rails : ∀ name ∈ watchedAfter input, ∀ info,
    input.sensorInfoMap.lookup name = some info → info.virtualSensorInfo = none →
      ∀ rail ∈ (input.powerRailSwitchMap.lookup name).getD [],
        ∀ railInfo, input.powerRailInfoMap.lookup rail = some railInfo → railInfo.sampled = true

theorem resources_rails {input : ConstructorInput} {devices : CdevInfoMap} {files : PowerFiles}
    (h : input.resources = some (devices, files)) :
    files.powerRailInfoMap = input.powerRailInfoMap ∧ ∀ rail, rail ∈ files.powerStatusMap ↔
      ∃ railInfo, input.powerRailInfoMap.lookup rail = some railInfo ∧ railInfo.sampled = true := by
  unfold ConstructorInput.resources at h
  rcases Option.bind_eq_some_iff.mp h with ⟨initialized, -, hrest⟩
  rcases Option.bind_eq_some_iff.mp hrest with ⟨powerStatusMap, hregistered, hpair⟩
  rw [← (Prod.mk.inj (Option.some.inj hpair)).2]
  apply And.intro rfl
  intro rail
  rw [registerPowerRails_names hregistered]
  have hempty : rail ∉ (∅ : PowerStatusMap) := by
    rw [← AList.lookup_eq_none]
    rfl
  rw [or_iff_right hempty]
  apply Iff.intro
  · rintro ⟨entry, hentry, rfl, hsampled⟩
    exact ⟨entry.2, lookup_of_mem_entries hentry, hsampled⟩
  · rintro ⟨railInfo, hlookup, hsampled⟩
    exact ⟨⟨rail, railInfo⟩, mem_entries_iff.mpr hlookup, rfl, hsampled⟩

section Constructed

variable {input : ConstructorInput} {devices : CdevInfoMap} {files : PowerFiles}
  {helper : Construction}

theorem SameSettings.severityReferencesOf_eq {sensorInfoMap sensorInfoMap' : SensorInfoMap}
    (hsame : SameSettings sensorInfoMap.lookup sensorInfoMap'.lookup) :
    severityReferencesOf sensorInfoMap' = severityReferencesOf sensorInfoMap := by
  funext name
  have hname := congrArg (fun info ↦ info.map SensorInfo.severityReference) (hsame name)
  simp only [Option.map_map] at hname
  exact congrArg (fun refs ↦ refs.getD []) hname

/-- What is constructed has the names that are not checked if and only if the configuration has. -/
theorem namesFound_iff (hvisited : Visited input devices files input.sensorInfoMap.keys helper)
    (hresources : input.resources = some (devices, files))
    (hsound : ∀ name info, input.sensorInfoMap.lookup name = some info →
      SoundSensor input devices files name info)
    (hquiet : ∀ name ∈ lackingTrigger input.sensorInfoMap.lookup,
      ¬ FiresIn input.sensorInfoMap.lookup input.sensorInfoMap.keys name) (fuel : ℕ) :
    NamesFound (helper.config input fuel) helper.sensorStatusMap helper.powerFiles ↔
      UncheckedNamesFound input := by
  have hwatched : watchedBy helper.sensorInfoMap.lookup = watchedAfter input := hvisited.watched
  have htriggers : triggersOf helper.sensorInfoMap.lookup = triggersOf input.sensorInfoMap.lookup :=
    hvisited.settings.triggersOf_eq
  have hrefers : RefersTo helper.sensorInfoMap = RefersTo input.sensorInfoMap := by
    funext name ref
    unfold RefersTo
    rw [hvisited.settings.severityReferencesOf_eq]
  have hmem : ∀ sensor, sensor ∈ helper.sensorStatusMap ↔ sensor ∈ input.sensorInfoMap :=
    fun sensor ↦ (hvisited.sensorStatuses sensor).trans AList.mem_keys.symm
  have hrails := resources_rails hresources
  apply Iff.intro
  · intro hfound
    have hreferences := hfound.references
    have htriggered := hfound.triggers
    have hswitched := hfound.rails
    dsimp only [Construction.config] at hreferences htriggered hswitched
    rw [hwatched] at hreferences htriggered hswitched
    rw [hrefers] at hreferences
    rw [htriggers] at htriggered
    apply UncheckedNamesFound.mk
    · intro name hname other hpath info hinfo _ ref href
      rw [← hmem]
      apply hreferences name hname ref
      apply TransGen.tail' hpath
      unfold RefersTo
      rwa [severityReferencesOf_eq hinfo]
    · exact fun name hname _ sensor hsensor ↦ (hmem sensor).mp (htriggered name hname sensor hsensor)
    · intro name hname info _ _ rail hrail railInfo hrailInfo
      have hstatus := hswitched name hname rail hrail
      rw [hvisited.rails.infos, hvisited.rails.statuses, hrails.1, hrails.2] at hstatus
      rcases hstatus (mem_of_lookup hrailInfo) with ⟨railInfo', hlookup, hsampled⟩
      rw [hrailInfo] at hlookup
      rwa [Option.some.inj hlookup]
  · intro hunchecked
    apply NamesFound.mk
    all_goals dsimp only [Construction.config]; rw [hwatched]
    · rw [hrefers]
      intro name hname ref hpath
      rcases TransGen.tail'_iff.mp hpath with ⟨other, hother, hedge⟩
      rw [hmem]
      unfold RefersTo at hedge
      cases hinfo : input.sensorInfoMap.lookup other with
      | none =>
        unfold severityReferencesOf at hedge
        rw [hinfo] at hedge
        exact absurd hedge List.not_mem_nil
      | some info =>
        rw [severityReferencesOf_eq hinfo] at hedge
        cases hvirtual : info.virtualSensorInfo with
        | none => exact hunchecked.references name hname other hother info hinfo hvirtual ref hedge
        | some virtualInfo =>
          have hknown := ((hsound other info hinfo).virtual virtualInfo hvirtual).references ref hedge
          exact AList.lookup_isSome.mp hknown
    · rw [htriggers]
      intro name hname sensor hsensor
      rw [hmem]
      by_cases hfires : FiresIn input.sensorInfoMap.lookup input.sensorInfoMap.keys name
      · by_contra hmissing
        exact hquiet name ⟨sensor, hsensor, AList.lookup_eq_none.mpr hmissing⟩ hfires
      · exact hunchecked.triggers name hname hfires sensor hsensor
    · intro name hname rail hrail hconfigured
      rw [hvisited.rails.infos] at hconfigured
      rw [hvisited.rails.statuses]
      have hregistered : name ∈ watchedBy helper.sensorInfoMap.lookup := hwatched ▸ hname
      rcases hregistered with ⟨info', hinfo', -⟩
      rcases hvisited.settings.lookup hinfo' with ⟨info, hinfo, -⟩
      cases hvirtual : info.virtualSensorInfo with
      | none =>
        rw [hrails.1] at hconfigured
        rcases mem_iff_lookup.mp hconfigured with ⟨railInfo, hrailInfo⟩
        rw [hrails.2]
        exact ⟨railInfo, hrailInfo,
          hunchecked.rails name hname info hinfo hvirtual rail hrail railInfo hrailInfo⟩
      | some virtualInfo =>
        exact ((hsound name info hinfo).virtual virtualInfo hvirtual).rails rail hrail hconfigured

end Constructed

theorem watcherLookupsTotal_iff (input : ConstructorInput) :
    WatcherLookupsTotal input ↔ input.thermalThrottlingDisabled = true ∨ ¬ SoundInput input ∨
      (∃ name ∈ lackingTrigger input.sensorInfoMap.lookup,
        FiresIn input.sensorInfoMap.lookup input.sensorInfoMap.keys name) ∨
      UncheckedNamesFound input := by
  cases hdisabled : input.thermalThrottlingDisabled with
  | true =>
    apply iff_of_true _ (Or.inl rfl)
    intro helper h ε fuel helpers steps state hsteps hrun
    have hnone := h.unwatched hdisabled
    apply NamesFound.mono _ (run_keepsNames hsteps hrun)
    apply NamesFound.mk
    all_goals
      dsimp only [Construction.config]
      rw [hnone]
      exact fun name hname ↦ absurd hname (Set.notMem_empty name)
  | false =>
    rw [or_iff_right Bool.false_ne_true]
    by_cases haccepted : SoundInput input ∧ ∀ name ∈ lackingTrigger input.sensorInfoMap.lookup,
        ¬ FiresIn input.sensorInfoMap.lookup input.sensorInfoMap.keys name
    · have hloud : ¬ ∃ name ∈ lackingTrigger input.sensorInfoMap.lookup,
          FiresIn input.sensorInfoMap.lookup input.sensorInfoMap.keys name := by
        rintro ⟨name, hlacks, hfires⟩
        exact haccepted.2 name hlacks hfires
      rw [or_iff_right (not_not.mpr haccepted.1), or_iff_right hloud]
      have hfound : ∀ helper, Constructs input helper → ∀ fuel,
          NamesFound (helper.config input fuel) helper.sensorStatusMap helper.powerFiles ↔
            UncheckedNamesFound input := by
        intro helper h fuel
        rcases h.visited hdisabled with ⟨devices, files, hresources, -, hvisited⟩
        rcases haccepted.1.sensors with ⟨devices', files', hresources', hsensors⟩
        have hsame := Prod.mk.inj (Option.some.inj (hresources.symm.trans hresources'))
        rw [← hsame.1, ← hsame.2] at hsensors
        exact namesFound_iff hvisited hresources hsensors haccepted.2 fuel
      apply Iff.intro
      · intro htotal
        rcases (constructs_iff input hdisabled).mpr haccepted with ⟨helper, h⟩
        rw [← hfound helper h 0]
        exact htotal helper h Unit 0 () [] _ (fun step hstep ↦ absurd hstep List.not_mem_nil) rfl
      · intro hunchecked helper h ε fuel helpers steps state hsteps hrun
        exact ((hfound helper h fuel).mpr hunchecked).mono (run_keepsNames hsteps hrun)
    · apply iff_of_true
      · intro helper h
        exact absurd ((constructs_iff input hdisabled).mp ⟨helper, h⟩) haccepted
      · by_cases hsound : SoundInput input
        · apply Or.inr (Or.inl _)
          by_contra hquiet
          apply haccepted
          exact ⟨hsound, fun name hlacks hfires ↦ hquiet ⟨name, hlacks, hfires⟩⟩
        · exact Or.inl hsound

/-! ## A reference that does not exist -/

/-- The severity of `battery`, which is reported, refers to `skin`, which does not exist. -/
def batteryWithoutSkin : ConstructorInput where
  sensorInfoMap := (∅ : SensorInfoMap).insert "battery"
    { (default : SensorInfo) with severityReference := ["skin"], sendCb := true, isWatch := true }
  coolingDeviceInfoMap := ∅
  sysfs := ⟨fun _ ↦ none, ∅, ∅⟩
  powerRailInfoMap := ∅
  energyInfoMap := ∅
  powerRailSwitchMap := ∅
  predictionCounts := fun _ ↦ none
  thermalThrottlingDisabled := false
  prepared := true

/-- The constructor accepts it, and the watcher looks for `skin`. -/
theorem batteryWithoutSkin_not_total : ¬ WatcherLookupsTotal batteryWithoutSkin := by
  intro htotal
  have hconstructs : ∃ helper, Constructs batteryWithoutSkin helper ∧
      (helper.sensorInfoMap.lookup "battery").map SensorInfo.isWatch = some true ∧
      severityReferencesOf helper.sensorInfoMap "battery" = ["skin"] ∧
      helper.sensorStatusMap.lookup "skin" = none := ⟨_, rfl, rfl, rfl, rfl⟩
  rcases hconstructs with ⟨helper, h, hwatched, hrefs, hmissing⟩
  have hfound := htotal helper h Unit 0 () [] _ (fun step hstep ↦ absurd hstep List.not_mem_nil) rfl
  rcases Option.map_eq_some_iff.mp hwatched with ⟨info, hinfo, hwatch⟩
  have href : RefersTo helper.sensorInfoMap "battery" "skin" := by
    unfold RefersTo
    rw [hrefs]
    exact List.mem_singleton_self _
  exact AList.lookup_eq_none.mp hmissing
    (hfound.references "battery" ⟨info, hinfo, hwatch⟩ "skin" (TransGen.single href))

end HardwareMediatek.Thermal
