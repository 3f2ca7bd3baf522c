import HardwareMediatek.Thermal.EmulationCommands

/-!
# Emulated severities

A severity that is emulated is an index into the thresholds of its sensor, and later the severity that
a reading of the sensor reports. The guard compares it with the number of severities, which is not the
greatest index, and not with zero at all.
-/

namespace HardwareMediatek.Thermal

open Foundation Relation UnorderedMap

section Marking

variable {sensorInfoMap : SensorInfoMap} {fuel : ℕ} {m m' : SensorStatusMap} {name target : String}
  {maxThrottling : Bool}

/-- What is emulated for a sensor. -/
def Emulates (target : String) (emul : EmulTemp) (m : SensorStatusMap) : Prop :=
  ∃ status, m.lookup target = some status ∧ status.overrideStatus.emulTemp = some emul

theorem Emulates.changeOverride {emul : EmulTemp} (h : Emulates target emul m)
    (hchange : changeOverride name (pendUpdate maxThrottling) m = .ok m') :
    Emulates target emul m' := by
  obtain ⟨status, hstatus, hemul⟩ := h
  have hchanges := changeOverride_eq_ok hchange
  by_cases hname : target = name
  · subst hname
    refine ⟨_, hchanges.own.trans (congrArg _ hstatus), ?_⟩
    exact hemul
  · exact ⟨status, (hchanges.others target hname).trans hstatus, hemul⟩

/-- Marking sensors for an update leaves what is emulated. -/
theorem Emulates.checkUpdate {emul : EmulTemp} (h : Emulates target emul m)
    (hcheck : checkUpdateSensorForEmul sensorInfoMap maxThrottling fuel name m = .ok m') :
    Emulates target emul m' := by
  induction fuel generalizing name m m' with
  | zero => cases hcheck
  | succ fuel ih =>
    apply foldlM_keeps _ h hcheck
    intro entry _ m m' h hround
    split at hround
    · obtain ⟨middle, hmiddle, hround⟩ := bind_eq_ok.mp hround
      exact ih (h.changeOverride hmiddle) hround
    · obtain rfl := Except.ok.inj hround
      exact h

/-- The command installs what it emulates. -/
theorem emulates_overrideTarget {emul : EmulTemp} {override : OverrideStatus}
    (hemul : override.emulTemp = some emul)
    (hoverride : overrideTarget sensorInfoMap fuel m target override = .ok m') :
    Emulates target emul m' := by
  obtain ⟨middle, hmiddle, hcheck⟩ := bind_eq_ok.mp hoverride
  have hchanges := changeOverride_eq_ok hmiddle
  apply Emulates.checkUpdate _ hcheck
  cases hstatus : m.lookup target with
  | none =>
    unfold changeOverride at hmiddle
    rw [hstatus] at hmiddle
    cases hmiddle
  | some status => exact ⟨_, hchanges.own.trans (congrArg _ hstatus), hemul⟩

/-- The links between watched virtual sensors do not form a cycle. -/
def LinksRanked (sensorInfoMap : SensorInfoMap) (rank : String → ℕ) : Prop :=
  ∀ entry ∈ sensorInfoMap.entries, ∀ name, entry.2.isRelatedTo name = true → rank entry.1 < rank name

theorem changeOverride_total {change : OverrideStatus → OverrideStatus} (hmem : name ∈ m) :
    ∃ m', changeOverride name change m = .ok m' ∧ m'.keys = m.keys := by
  obtain ⟨status, hstatus⟩ := mem_iff_lookup.mp hmem
  unfold changeOverride
  rw [hstatus]
  exact ⟨_, rfl, keys_assign m name _⟩

/-- Without a cycle the marking ends, after as many nested calls as the rank of the sensor. -/
theorem checkUpdateSensorForEmul_total {rank : String → ℕ} (hranked : LinksRanked sensorInfoMap rank)
    {keys : List String} (hkeys : ∀ entry ∈ sensorInfoMap.entries, entry.1 ∈ keys)
    (hm : m.keys = keys) (hfuel : rank name < fuel) :
    ∃ m', checkUpdateSensorForEmul sensorInfoMap maxThrottling fuel name m = .ok m' ∧
      m'.keys = keys := by
  induction fuel generalizing name m with
  | zero => exact absurd hfuel (Nat.not_lt_zero _)
  | succ fuel ih =>
    have hstep : ∀ entry ∈ sensorInfoMap.entries, ∀ m : SensorStatusMap, m.keys = keys →
        ∃ m', (if entry.2.isRelatedTo name then do
            let m ← changeOverride entry.1 (pendUpdate maxThrottling) m
            checkUpdateSensorForEmul sensorInfoMap maxThrottling fuel entry.1 m
          else pure m) = .ok m' ∧ m'.keys = keys := by
      intro entry hentry m hm
      split
      · rename_i hrelated
        have hmem : entry.1 ∈ m := AList.mem_keys.mpr (hm ▸ hkeys entry hentry)
        obtain ⟨middle, hmiddle, hkeys'⟩ := changeOverride_total hmem
        rw [hmiddle]
        apply ih (hkeys'.trans hm)
        exact (hranked entry hentry name hrelated).trans_le (Nat.lt_succ_iff.mp hfuel)
      · exact ⟨m, rfl, hm⟩
    exact foldlM_total hstep hm

end Marking

/-! ## The severity that is reported -/

section Reported

variable {σ ε : Type} {sensorInfoMap : SensorInfoMap} {I : SensorStatusMap → σ → Prop}

/-- The severity of a watched sensor is rated with a status that the readings before it have kept. -/
theorem readTemperature_rates {reader : Bool → Read σ} {fuel : ℕ} {root : String} {info : SensorInfo}
    (hread : ∀ name, ∀ forceNoCache state final call, I state.sensorStatusMap state.helpers →
      reader forceNoCache state name = .ok (final, call) → I final.sensorStatusMap final.helpers)
    (hrate : ∀ name, ∀ sensorStatusMap helpers status info value severity,
      I sensorStatusMap helpers → sensorStatusMap.lookup name = some status →
        I (sensorStatusMap.assign name (updateSeverity info value severity status).1) helpers)
    (hknown : ∀ sensorStatusMap helpers, I sensorStatusMap helpers → root ∈ sensorStatusMap)
    (hinfo : sensorInfoMap.lookup root = some info) (hwatch : info.isWatch = true)
    {state final : ReadState σ} {forceNoCache : Bool} {temp : Temperature}
    (hstate : I state.sensorStatusMap state.helpers)
    (htemperature : readTemperature sensorInfoMap reader fuel state root forceNoCache =
      .ok (final, .okay temp)) :
    ∃ sensorStatusMap helpers status value severity, I sensorStatusMap helpers ∧
      sensorStatusMap.lookup root = some status ∧
      temp.throttlingStatus = (updateSeverity info value severity status).2 := by
  cases fuel with
  | zero => cases htemperature
  | succ fuel =>
    unfold readTemperature at htemperature
    split at htemperature
    · cases htemperature
    · obtain ⟨⟨state', call⟩, hcall, hrated⟩ := bind_eq_ok.mp htemperature
      have hkept : I state'.sensorStatusMap state'.helpers :=
        hread root forceNoCache _ _ _ (by exact hstate) hcall
      unfold rateReading at hrated
      dsimp only at hrated
      split at hrated
      · cases hrated
      · cases hrated
      · split at hrated
        · cases hrated
        · obtain ⟨⟨state'', severity⟩, href, hrated⟩ := bind_eq_ok.mp hrated
          rw [hinfo] at hrated
          unfold getSeverityReference at href
          rw [hinfo] at href
          have hreferences : I state''.sensorStatusMap state''.helpers := by
            apply readReferences_keeps _ hkept href
            intro ref _ state final outcome hstate hread'
            exact readTemperature_keeps (fun name _ ↦ hread name) (fun name _ ↦ hrate name) hstate hread'
          obtain ⟨status, hstatus⟩ := mem_iff_lookup.mp (hknown _ _ hreferences)
          have hfinal := Except.ok.inj hrated
          dsimp only [finishTemperature] at hfinal
          rw [hwatch, hstatus] at hfinal
          obtain rfl := ReadOutcome.okay.inj (Prod.mk.inj hfinal).2
          exact ⟨_, _, status, _, severity, hreferences, hstatus, rfl⟩

end Reported

/-! ## Emulated severities -/

section Claim

variable {ε : Type} {config : HelperConfig} {m : SensorStatusMap} {target : String} {severity : ℤ}
  {maxThrottling : Bool}

/-- A reading of the sensor that succeeds reports a severity, if the sensor is watched. -/
def Reports (ε : Type) (config : HelperConfig) (m : SensorStatusMap) (target : String)
    (info : SensorInfo) (reported : ThrottlingSeverity) : Prop :=
  info.isWatch = true → ∀ (world : ReadEnv ε) (throttling : ThermalThrottling)
    (powerFiles : PowerFiles) (helpers : ε) (forceNoCache : Bool) (final : ReadState ε)
    (temp : Temperature),
    config.readNow config.reader world throttling powerFiles m helpers target forceNoCache =
      .ok (final, .okay temp) → temp.throttlingStatus = reported

/-- What is emulated with a severity is reported with that severity. -/
theorem Emulates.reports {info : SensorInfo} {temp : ExactFloat} {reported : ThrottlingSeverity}
    (h : Emulates target ⟨temp, some reported⟩ m)
    (hinfo : config.sensorInfoMap.lookup target = some info) :
    Reports ε config m target info reported := by
  intro hwatch world throttling powerFiles helpers forceNoCache final result hread
  let I : SensorStatusMap → ε → Prop := fun m' _ ↦ KeepsOverrides {target} m m'
  have hrates := readTemperature_rates (I := I) ?_ ?_ ?_ hinfo hwatch (fun _ _ ↦ rfl) hread
  · obtain ⟨m', _, status', value, severity, hkept, hstatus', hrated⟩ := hrates
    obtain ⟨status, hstatus, hemul⟩ := h
    have hsame := hkept target rfl
    rw [hstatus, hstatus', Option.map_some, Option.map_some] at hsame
    rw [hrated]
    unfold updateSeverity throttlingStatusOf
    rw [Option.some.inj hsame, hemul]
  · intro name forceNoCache state final call hstate hcall
    apply readThermalSensor_keeps _ (I := I) hstate hcall
    apply KeptFrom.mk
    · exact fun sub _ m helpers status cached hstate hstatus ↦ hstate.assign hstatus rfl
    · exact fun _ _ _ _ _ _ _ _ _ _ _ hstate ↦ ⟨hstate, hstate⟩
  · exact fun name m helpers status info value severity hstate hstatus ↦ hstate.assign hstatus rfl
  · intro m' _ hkept
    obtain ⟨status, hstatus, -⟩ := h
    have hsame := hkept target rfl
    rw [hstatus, Option.map_some] at hsame
    obtain ⟨status', hstatus', -⟩ := Option.map_eq_some_iff.mp hsame
    exact mem_of_lookup hstatus'

/-- The command answers `false`, and no status is changed. -/
def SeverityRejected (config : HelperConfig) (m : SensorStatusMap) (target : String) (severity : ℤ)
    (maxThrottling : Bool) : Prop :=
  ∀ fuel, emulSeverity config.sensorInfoMap fuel m target severity maxThrottling = .ok (m, false)

/-- The severity is the index of a threshold. The command overrides the target with it, which a reading
then reports, and marks what is related to the target; it answers `true` when the links form no cycle. -/
structure SeverityInstalled (ε : Type) (config : HelperConfig) (m : SensorStatusMap) (target : String)
    (severity : ℤ) (maxThrottling : Bool) (info : SensorInfo) (index : ThrottlingSeverity) :
    Prop where
  known : config.sensorInfoMap.lookup target = some info
  indexed : throttlingIndex severity = some index
  installs : ∀ fuel m' answer,
    emulSeverity config.sensorInfoMap fuel m target severity maxThrottling = .ok (m', answer) →
      answer = true ∧
        Emulates target ⟨info.hotThresholds index / info.multiplier, some index⟩ m' ∧
        Reports ε config m' target info index
  returns : ∀ rank, LinksRanked config.sensorInfoMap rank →
    (∀ entry ∈ config.sensorInfoMap.entries, entry.1 ∈ m) →
      ∃ fuel m', emulSeverity config.sensorInfoMap fuel m target severity maxThrottling =
        .ok (m', true)

/-- An emulated severity is rejected or valid. -/
def SeverityValid (ε : Type) (config : HelperConfig) (m : SensorStatusMap) (target : String)
    (severity : ℤ) (maxThrottling : Bool) : Prop :=
  SeverityRejected config m target severity maxThrottling ∨
    ∃ info index, SeverityInstalled ε config m target severity maxThrottling info index

theorem throttlingIndex_eq_none_iff : throttlingIndex severity = none ↔ severity < 0 ∨ 7 ≤ severity := by
  unfold throttlingIndex
  split
  · have hlength : ThrottlingSeverity.all.length = 7 := rfl
    rw [List.getElem?_eq_none_iff, hlength]
    omega
  · simp only [true_iff]
    omega

theorem emulSeverity_of_known {fuel : ℕ} {status : SensorStatus} {info : SensorInfo}
    (hstatus : m.lookup target = some status)
    (hinfo : config.sensorInfoMap.lookup target = some info) (hle : severity ≤ 7) :
    emulSeverity config.sensorInfoMap fuel m target severity maxThrottling =
      match throttlingIndex severity with
      | none => .error (.fault .badIndex)
      | some index => (do
        let m' ← overrideTarget config.sensorInfoMap fuel m target
          ⟨some ⟨info.hotThresholds index / info.multiplier, some index⟩, maxThrottling, true⟩
        pure (m', true)) := by
  have hguard : ¬(kThrottlingSeverityCount : ℤ) < severity := not_lt.mpr hle
  unfold emulSeverity
  rw [hstatus, hinfo]
  exact if_neg hguard

/-- A severity that is the index of a threshold is installed. -/
theorem severityInstalled {status : SensorStatus} {info : SensorInfo} {index : ThrottlingSeverity}
    (hstatus : m.lookup target = some status)
    (hinfo : config.sensorInfoMap.lookup target = some info)
    (hindex : throttlingIndex severity = some index) (hle : severity ≤ 7) :
    SeverityInstalled ε config m target severity maxThrottling info index where
  known := hinfo
  indexed := hindex
  installs fuel m' answer hemul := by
    rw [emulSeverity_of_known hstatus hinfo hle, hindex] at hemul
    obtain ⟨m'', hoverride, hemul⟩ := bind_eq_ok.mp hemul
    obtain ⟨rfl, rfl⟩ := ok_pair hemul
    have hemulates := emulates_overrideTarget rfl hoverride
    exact ⟨rfl, hemulates, hemulates.reports hinfo⟩
  returns rank hranked hknown := by
    let override : OverrideStatus :=
      ⟨some ⟨info.hotThresholds index / info.multiplier, some index⟩, maxThrottling, true⟩
    have hoverride : ∃ m', overrideTarget config.sensorInfoMap (rank target + 1) m target override =
        .ok m' := by
      obtain ⟨middle, hmiddle, hkeys⟩ := changeOverride_total (mem_of_lookup hstatus)
      obtain ⟨m', hcheck, -⟩ := checkUpdateSensorForEmul_total hranked
        (fun entry hentry ↦ AList.mem_keys.mp (hknown entry hentry)) hkeys
        (Nat.lt_succ_self (rank target))
      exact ⟨m', bind_eq_ok.mpr ⟨middle, hmiddle, hcheck⟩⟩
    obtain ⟨m', hoverride⟩ := hoverride
    refine ⟨rank target + 1, m', ?_⟩
    rw [emulSeverity_of_known hstatus hinfo hle, hindex]
    exact bind_eq_ok.mpr ⟨m', hoverride, rfl⟩

/-- The guard leaves the negative severities and the number of severities to the index. -/
theorem severityValid_iff :
    SeverityValid ε config m target severity maxThrottling ↔
      target ∉ m ∨ target ∉ config.sensorInfoMap ∨ 7 < severity ∨ 0 ≤ severity ∧ severity < 7 := by
  by_cases hm : target ∈ m
  · by_cases hconfigured : target ∈ config.sensorInfoMap
    · obtain ⟨status, hstatus⟩ := mem_iff_lookup.mp hm
      obtain ⟨info, hinfo⟩ := mem_iff_lookup.mp hconfigured
      by_cases hlarge : 7 < severity
      · apply iff_of_true _ (Or.inr (Or.inr (Or.inl hlarge)))
        refine Or.inl fun fuel ↦ ?_
        have hguard : (kThrottlingSeverityCount : ℤ) < severity := hlarge
        unfold emulSeverity
        rw [hstatus, hinfo]
        exact if_pos hguard
      · have hle : severity ≤ 7 := not_lt.mp hlarge
        simp only [hm, hconfigured, hlarge, not_true, false_or]
        cases hindex : throttlingIndex severity with
        | some index =>
          have hbounds : ¬(severity < 0 ∨ 7 ≤ severity) := by
            rw [← throttlingIndex_eq_none_iff, hindex]
            nofun
          apply iff_of_true _ (by omega)
          exact Or.inr ⟨info, index, severityInstalled hstatus hinfo hindex hle⟩
        | none =>
          have hbounds := throttlingIndex_eq_none_iff.mp hindex
          apply iff_of_false _ (by omega)
          rintro (hrejected | ⟨_, index, hinstalled⟩)
          · have hfault := hrejected 0
            rw [emulSeverity_of_known hstatus hinfo hle, hindex] at hfault
            cases hfault
          · have hindexed := hinstalled.indexed
            rw [hindex] at hindexed
            cases hindexed
    · apply iff_of_true _ (Or.inr (Or.inl hconfigured))
      refine Or.inl fun fuel ↦ ?_
      unfold emulSeverity
      rw [AList.lookup_eq_none.mpr hconfigured]
      cases m.lookup target <;> rfl
  · apply iff_of_true _ (Or.inl hm)
    refine Or.inl fun fuel ↦ ?_
    unfold emulSeverity
    rw [AList.lookup_eq_none.mpr hm]

end Claim

/-! ## The number of severities -/

/-- A helper with one sensor. -/
def oneSensor : HelperConfig where
  sensorInfoMap := (∅ : SensorInfoMap).put "skin" default
  coolingDeviceInfoMap := ∅
  powerRailSwitchMap := ∅
  fuel := 1

def oneStatus : SensorStatusMap := (∅ : SensorStatusMap).put "skin" default

/-- The number of severities passes the guard and is no index. -/
theorem severityCount_not_valid : ¬SeverityValid Unit oneSensor oneStatus "skin" 7 false := by
  have hfault : emulSeverity oneSensor.sensorInfoMap 0 oneStatus "skin" 7 false =
      .error (.fault .badIndex) := rfl
  rintro (hrejected | ⟨info, index, hinstalled⟩)
  · have hanswer := hrejected 0
    rw [hfault] at hanswer
    cases hanswer
  · exact absurd hinstalled.indexed (by cases index <;> decide)

end HardwareMediatek.Thermal
