import HardwareMediatek.Thermal.Registration

/-!
# Heating episodes

When a sensor is back at the lowest severity, its throttling is cleared and its votes are computed
again, so that the next episode starts where the first one did. One term of the PID algorithm is not
cleared: the transient of the last change of the target.
-/

namespace HardwareMediatek.Thermal

open UnorderedMap

/-- Every entry of the map has one value. -/
def AllValues (value : ℤ) (m : UnorderedMap String ℤ) : Prop :=
  ∀ cdev old, m.lookup cdev = some old → old = value

theorem AllValues.put {value : ℤ} {m : UnorderedMap String ℤ} (h : AllValues value m) (cdev : String) :
    AllValues value (m.put cdev value) := by
  intro cdev' old hold
  rw [lookup_put] at hold
  by_cases hsame : cdev' = cdev
  · rw [if_pos hsame] at hold
    exact (Option.some.inj hold).symm
  · rw [if_neg hsame] at hold
    exact h cdev' old hold

theorem AllValues.empty (value : ℤ) : AllValues value ∅ := by
  intro cdev old hold
  rw [AList.lookup_empty] at hold
  cases hold

/-- Two maps with the same keys that both have one value everywhere are the same. -/
theorem AllValues.eq_of_keys {value : ℤ} {m m' : UnorderedMap String ℤ} (h : AllValues value m)
    (h' : AllValues value m') (hkeys : m.keys = m'.keys) : m = m' := by
  apply ext_of_keys hkeys
  intro cdev
  cases hold : m.lookup cdev with
  | none =>
    have hmissing : cdev ∉ m' := by
      rw [mem_iff_of_keys_eq hkeys.symm]
      exact AList.lookup_eq_none.mp hold
    exact (AList.lookup_eq_none.mpr hmissing).symm
  | some old =>
    have hmem : cdev ∈ m' := (mem_iff_of_keys_eq hkeys.symm cdev).mpr (mem_of_lookup hold)
    obtain ⟨old', hold'⟩ := mem_iff_lookup.mp hmem
    rw [hold', h cdev old hold, h' cdev old' hold']

theorem allValues_mapValues (value : ℤ) (m : UnorderedMap String ℤ) :
    AllValues value (m.mapValues fun _ _ ↦ value) := by
  intro cdev old hold
  rw [lookup_mapValues] at hold
  obtain ⟨before, hbefore⟩ := Option.map_eq_some_iff.mp hold
  exact hbefore.2.symm

/-- The status of a sensor that has never been throttled. -/
structure Unused (status : ThermalThrottlingStatus) : Prop where
  budgets : AllValues intMax status.pidPowerBudgetMap
  requests : AllValues 0 status.pidCdevRequestMap
  hardlimits : AllValues 0 status.hardlimitCdevRequestMap
  releases : AllValues 0 status.throttlingReleaseMap
  votes : AllValues 0 status.cdevStatusMap
  terms : status.pid = initialStatus.pid

section Registration

variable {devices : CdevInfoMap}

theorem registerBinding_unused {cdev : String} {binding : BindedCdevInfo} {entry : RegistrationEntry}
    (h : Unused entry.1) : Unused (registerBinding cdev binding entry).1 := by
  have hpid : Unused (registerPid cdev binding entry).1 := by
    unfold registerPid
    split
    · exact ⟨h.budgets.put cdev, h.requests.put cdev, h.hardlimits, h.releases, h.votes.put cdev,
        h.terms⟩
    · exact h
  have hlimit : Unused (registerHardLimit cdev binding (registerPid cdev binding entry)).1 := by
    unfold registerHardLimit
    split
    · exact ⟨hpid.budgets, hpid.requests, hpid.hardlimits.put cdev, hpid.releases,
        hpid.votes.put cdev, hpid.terms⟩
    · exact hpid
  unfold registerBinding registerRelease
  split
  · exact ⟨hlimit.budgets, hlimit.requests, hlimit.hardlimits, hlimit.releases.put cdev, hlimit.votes,
      hlimit.terms⟩
  · exact hlimit

theorem registerBindings_unused {pairs : List BindedCdevEntry}
    {entry : RegistrationEntry} (h : Unused entry.1) :
    Unused (registerBindings devices pairs entry).1.1 := by
  induction pairs generalizing entry with
  | nil => exact h
  | cons pair rest ih =>
    rw [registerBindings]
    split
    · exact ih (registerBinding_unused h)
    · exact h

theorem initialStatus_unused : Unused initialStatus :=
  ⟨AllValues.empty _, AllValues.empty _, AllValues.empty _, AllValues.empty _, AllValues.empty _, rfl⟩

/-- After registration no sensor has been throttled. -/
theorem registerSensors_unused {sensors : List SensorEntry}
    {tt tt' : ThermalThrottling} (h : EveryStatus (fun _ ↦ Unused) tt)
    (hregister : registerSensors devices sensors tt = some tt') :
    EveryStatus (fun _ ↦ Unused) tt' := by
  induction sensors generalizing tt with
  | nil => exact Option.some.inj hregister ▸ h
  | cons entry rest ih =>
    rw [registerSensors] at hregister
    cases hinfo : entry.2.throttlingInfo with
    | none =>
      rw [hinfo] at hregister
      exact ih h hregister
    | some info =>
      simp only [hinfo] at hregister
      split at hregister
      · apply ih _ hregister
        unfold registerThermalThrottling
        split
        · exact h
        · exact h.put (registerBindings_unused initialStatus_unused) _
      · cases hregister

theorem registered_unused {setup : ThrottlingSetup} {start : ThermalThrottling}
    (hregistered : setup.registered = some start) : EveryStatus (fun _ ↦ Unused) start :=
  registerSensors_unused (EveryStatus.empty _) hregistered

end Registration

/-! ## Clearing and computing again -/

section Episode

variable {setup : ThrottlingSetup} {start tt after : ThermalThrottling} {reported updated : List String}
  {sensorName : String} {sensorInfo : SensorInfo} {info : ThrottlingInfo}
  {first status : ThermalThrottlingStatus}

/-- A registered sensor keeps the shape of its first status over a run. -/
theorem throttlingRun_sameShape (hregistered : setup.registered = some start)
    (hrun : ThrottlingRun setup start tt reported)
    (hfirst : start.thermalThrottlingStatusMap.lookup sensorName = some first)
    (hstatus : tt.thermalThrottlingStatusMap.lookup sensorName = some status) :
    SameShape first status := by
  have hlasting : Lasting setup fun sensor status ↦ ∀ first,
      start.thermalThrottlingStatusMap.lookup sensor = some first → SameShape first status := by
    apply Lasting.mk
    · intro sensor status status' hframe h first hfirst
      exact (h first hfirst).trans hframe.shape
    · intro sensor sensorInfo info currSeverity status votes _ _ hvotes h first hfirst
      exact (h first hfirst).trans ⟨rfl, rfl, rfl, rfl, hvotes.keys⟩
  apply throttlingRun_everyStatus hlasting (registered_mirrored hregistered).1 _ hrun sensorName status
    hstatus first hfirst
  intro sensor status' hstatus' first' hfirst'
  rw [Option.some.inj (hstatus'.symm.trans hfirst')]

theorem clearThrottlingData_lookup
    (hstatus : tt.thermalThrottlingStatusMap.lookup sensorName = some status) :
    (clearThrottlingData tt sensorName).thermalThrottlingStatusMap.lookup sensorName =
      some (clearStatus status) := by
  rw [clearThrottlingData, hstatus]
  change (tt.thermalThrottlingStatusMap.put sensorName (clearStatus status)).lookup sensorName = _
  rw [lookup_put, if_pos rfl]

/-- A cleared sensor votes for state 0 under a ceiling that is not negative. -/
theorem requestOf_cleared {binding : BindedCdevInfo} {currSeverity : ThrottlingSeverity}
    {cdev : String} {vote : ℤ} (hceiling : 0 ≤ binding.cdevCeiling currSeverity)
    (hvote : requestOf (clearStatus status) binding currSeverity cdev = .ok vote) : vote = 0 := by
  have hzero : ∀ m : UnorderedMap String ℤ,
      ((m.mapValues fun _ _ ↦ (0 : ℤ)).lookup cdev).getD 0 = 0 := by
    intro m
    rw [lookup_mapValues]
    cases m.lookup cdev <;> rfl
  unfold requestOf clearStatus at hvote
  dsimp only at hvote
  rw [hzero, hzero, hzero, finalRequest, if_neg (not_not.mpr rfl)] at hvote
  have hmin : min (max 0 0) (binding.cdevCeiling currSeverity) = vote := Except.ok.inj hvote
  rw [← hmin, max_self, min_eq_left hceiling]

variable (hinfo : sensorInfo.throttlingInfo = some info)
  (hceilings : info.NonnegCeilings) (hregistered : setup.registered = some start)
  (hrun : ThrottlingRun setup start tt reported)
  (hfirst : start.thermalThrottlingStatusMap.lookup sensorName = some first)
  (hstatus : tt.thermalThrottlingStatusMap.lookup sensorName = some status)
  (hpass : computeCoolingDevicesRequest (clearThrottlingData tt sensorName) sensorName sensorInfo
    .none = .ok (after, updated))

include hinfo hceilings hregistered hrun hfirst hstatus hpass

/-- A pass at the lowest severity releases every vote and clears everything but the transient. -/
theorem clearedPass_status :
    after.thermalThrottlingStatusMap.lookup sensorName =
      some { first with
        profile := status.profile
        pid := { first.pid with budgetTransient := status.pid.budgetTransient } } := by
  have hunused := registered_unused hregistered sensorName first hfirst
  have hshape := throttlingRun_sameShape hregistered hrun hfirst hstatus
  have hmirrored := clearThrottlingData_mirrored
    (throttlingRun_mirrored (registered_mirrored hregistered).1 hrun).1 sensorName
  obtain ⟨info', hinfo', hcomputed⟩ := (computeCoolingDevicesRequest_computed hmirrored
      (clearThrottlingData_lookup hstatus) sensorInfo .none).of_ok hpass
  have hsame : info' = info := Option.some.inj (hinfo'.symm.trans hinfo)
  rw [hsame] at hcomputed
  obtain ⟨votes, hvotes⟩ := hcomputed.votes
  have hzero : AllValues 0 votes := by
    intro cdev vote hvote
    obtain ⟨binding, hbinding⟩ := hvotes.1.cast cdev vote hvote
    exact requestOf_cleared
      (hceilings _ (selectBindings_binds info _) cdev binding hbinding.1 .none) hbinding.2
  have hvotesFirst : votes = first.cdevStatusMap :=
    hzero.eq_of_keys hunused.votes (hvotes.1.keys.trans hshape.votes)
  have hbudgets : (status.pidPowerBudgetMap.mapValues fun _ _ ↦ intMax) = first.pidPowerBudgetMap :=
    (allValues_mapValues _ _).eq_of_keys hunused.budgets ((keys_mapValues _ _).trans hshape.budgets)
  have hrequests : (status.pidCdevRequestMap.mapValues fun _ _ ↦ 0) = first.pidCdevRequestMap :=
    (allValues_mapValues _ _).eq_of_keys hunused.requests ((keys_mapValues _ _).trans hshape.requests)
  have hhardlimits : (status.hardlimitCdevRequestMap.mapValues fun _ _ ↦ 0) =
      first.hardlimitCdevRequestMap :=
    (allValues_mapValues _ _).eq_of_keys hunused.hardlimits
      ((keys_mapValues _ _).trans hshape.hardlimits)
  have hreleases : (status.throttlingReleaseMap.mapValues fun _ _ ↦ 0) = first.throttlingReleaseMap :=
    (allValues_mapValues _ _).eq_of_keys hunused.releases ((keys_mapValues _ _).trans hshape.releases)
  have hafter : after.thermalThrottlingStatusMap =
      (clearThrottlingData tt sensorName).thermalThrottlingStatusMap.put sensorName
        { clearStatus status with cdevStatusMap := votes } := hvotes.2
  rw [hafter, lookup_put, if_pos rfl, clearStatus, hvotesFirst, hbudgets, hrequests, hhardlimits,
    hreleases, hunused.terms]
  rfl

/-- After a pass at the lowest severity every vote of the sensor is 0, and the sensor is where it
started, its profile aside, if and only if no transient was left. -/
theorem clearedPass_starts_over_iff : ∃ last,
    after.thermalThrottlingStatusMap.lookup sensorName = some last ∧
      (∀ cdev vote, last.cdevStatusMap.lookup cdev = some vote → vote = 0) ∧
      (last = { first with profile := status.profile } ↔ status.pid.budgetTransient = 0) := by
  have hunused := registered_unused hregistered sensorName first hfirst
  have hlast := clearedPass_status hinfo hceilings hregistered hrun hfirst hstatus hpass
  refine ⟨_, hlast, hunused.votes, ?_⟩
  have hstart : first.pid.budgetTransient = 0 := by
    rw [hunused.terms]
    rfl
  apply Iff.intro
  · intro hsame
    have htransient := congrArg (fun status ↦ status.pid.budgetTransient) hsame
    exact htransient.trans hstart
  · intro hzero
    rw [hzero, ← hstart]

end Episode

/-! ## An episode with a change of the target -/

/-- A sensor whose budget is 2000 mW at its first target and 1000 mW at the others. -/
def steppedInfo : ThrottlingInfo :=
  { (default : ThrottlingInfo) with
    kPo := fun _ ↦ 0
    kPu := fun _ ↦ 0
    kIo := fun _ ↦ 0
    kIu := fun _ ↦ 0
    kD := fun _ ↦ 0
    iMax := fun _ ↦ 0
    maxAllocPower := fun severity ↦ if severity = .moderate then .fin 2000 else .fin 1000
    minAllocPower := fun severity ↦ if severity = .moderate then .fin 2000 else .fin 1000
    sPower := fun _ ↦ .fin 1000
    iCutoff := fun _ ↦ 0
    tranCycle := 2
    bindedCdevInfoMap := (∅ : BindedCdevInfoMap).insert "cpu"
      { (default : BindedCdevInfo) with cdevWeightForPid := fun _ ↦ 1 } }

def steppedSensorInfo : SensorInfo :=
  { (default : SensorInfo) with
    hotThresholds := fun _ ↦ .fin 50
    throttlingInfo := some steppedInfo }

def steppedSetup : ThrottlingSetup where
  sensorInfoMap := (∅ : UnorderedMap String SensorInfo).insert "soc" steppedSensorInfo
  coolingDeviceInfoMap := (∅ : CdevInfoMap).insert "cpu"
    { (default : CdevInfo) with state2power := [.fin 1000, .fin 500], maxState := 1 }

def steppedInput (currSeverity : ThrottlingSeverity) : UpdateInput where
  temp := ⟨"SKIN", "soc", .fin 45, currSeverity⟩
  sensorInfo := steppedSensorInfo
  currSeverity := currSeverity
  timeElapsedMs := 1000
  powerStatusMap := ∅
  coolingDeviceInfoMap := steppedSetup.coolingDeviceInfoMap
  maxThrottling := false
  sensorPredictions := []
  profileProperty := ""
  round := binary32.round

/-- The states of an episode: registered, at a light and at another severity, and after the pass that
ends it, with what the sensor has at the start, before that pass and after it. -/
structure SteppedEpisode (severity : ThrottlingSeverity) (start warm hot after : ThermalThrottling)
    (updated : List String) (first status last : ThermalThrottlingStatus) : Prop where
  registered : steppedSetup.registered = some start
  warms : thermalThrottlingUpdate start (steppedInput .light) = .ok warm
  heats : thermalThrottlingUpdate warm (steppedInput severity) = .ok hot
  cools : computeCoolingDevicesRequest (clearThrottlingData hot "soc") "soc" steppedSensorInfo .none =
    .ok (after, updated)
  first : start.thermalThrottlingStatusMap.lookup "soc" = some first
  status : hot.thermalThrottlingStatusMap.lookup "soc" = some status
  last : after.thermalThrottlingStatusMap.lookup "soc" = some last

/-- The transient before and after the pass that ends the episode. -/
def steppedTransients (severity : ThrottlingSeverity) : Option (ExactFloat × ExactFloat) := do
  let start ← steppedSetup.registered
  let warm ← (thermalThrottlingUpdate start (steppedInput .light)).toOption
  let hot ← (thermalThrottlingUpdate warm (steppedInput severity)).toOption
  let result ← (computeCoolingDevicesRequest (clearThrottlingData hot "soc") "soc" steppedSensorInfo
    .none).toOption
  let _ ← start.thermalThrottlingStatusMap.lookup "soc"
  let status ← hot.thermalThrottlingStatusMap.lookup "soc"
  let last ← result.1.thermalThrottlingStatusMap.lookup "soc"
  pure (status.pid.budgetTransient, last.pid.budgetTransient)

theorem exists_steppedEpisode {severity : ThrottlingSeverity} {transients : ExactFloat × ExactFloat}
    (htransients : steppedTransients severity = some transients) :
    ∃ start warm hot after updated first status last,
      SteppedEpisode severity start warm hot after updated first status last ∧
        (status.pid.budgetTransient, last.pid.budgetTransient) = transients := by
  unfold steppedTransients at htransients
  obtain ⟨start, hstart, htransients⟩ := Option.bind_eq_some_iff.mp htransients
  obtain ⟨warm, hwarm, htransients⟩ := Option.bind_eq_some_iff.mp htransients
  obtain ⟨hot, hhot, htransients⟩ := Option.bind_eq_some_iff.mp htransients
  obtain ⟨⟨after, updated⟩, hafter, htransients⟩ := Option.bind_eq_some_iff.mp htransients
  obtain ⟨first, hfirst, htransients⟩ := Option.bind_eq_some_iff.mp htransients
  obtain ⟨status, hstatus, htransients⟩ := Option.bind_eq_some_iff.mp htransients
  obtain ⟨last, hlast, htransients⟩ := Option.bind_eq_some_iff.mp htransients
  exact ⟨start, warm, hot, after, updated, first, status, last,
    ⟨hstart, toOption_eq_some hwarm, toOption_eq_some hhot, toOption_eq_some hafter, hfirst, hstatus,
      hlast⟩, Option.some.inj htransients⟩

theorem steppedInput_calls (currSeverity : ThrottlingSeverity) :
    steppedSetup.Calls (steppedInput currSeverity) := ⟨rfl, rfl, rfl⟩

theorem steppedInfo_ceilings : steppedInfo.NonnegCeilings := by
  intro bindings hbinds cdev binding hbinding severity
  have hdefault : bindings = steppedInfo.bindedCdevInfoMap := by
    apply hbinds.resolve_right
    rintro ⟨profile, hprofile⟩
    cases hprofile
  rw [hdefault] at hbinding
  rw [(eq_of_lookup_insert_empty hbinding).2]
  exact (by decide : (0 : ℤ) ≤ intMax)

section SteppedEpisode

variable {severity : ThrottlingSeverity} {start warm hot after : ThermalThrottling}
  {updated : List String} {first status last : ThermalThrottlingStatus}

theorem SteppedEpisode.run
    (h : SteppedEpisode severity start warm hot after updated first status last) :
    ThrottlingRun steppedSetup start hot ([] ++ [] ++ []) :=
  .call (.call .start (.update _ (steppedInput_calls .light) h.warms))
    (.update _ (steppedInput_calls severity) h.heats)

end SteppedEpisode

/-- An episode without a change of the target leaves no transient, and the next one starts as it did. -/
theorem steppedEpisode_starts_over : ∃ start warm hot after updated first status last,
    SteppedEpisode .light start warm hot after updated first status last ∧
      last = { first with profile := status.profile } := by
  obtain ⟨start, warm, hot, after, updated, first, status, last, hepisode, htransients⟩ :=
    exists_steppedEpisode (by decide +kernel : steppedTransients .light = some (0, 0))
  obtain ⟨found, hfound, -, hover⟩ := clearedPass_starts_over_iff rfl steppedInfo_ceilings
    hepisode.registered hepisode.run hepisode.first hepisode.status hepisode.cools
  rw [hepisode.last] at hfound
  cases hfound
  exact ⟨start, warm, hot, after, updated, first, status, last, hepisode,
    hover.mpr (Prod.mk.inj htransients).1⟩

/-- After an episode with a change of the target, the next one starts with a transient. -/
theorem steppedEpisode_leaves_transient :
    ¬ ∀ (setup : ThrottlingSetup) (start tt after : ThermalThrottling) (reported updated : List String)
      (sensorName : String) (sensorInfo : SensorInfo) (info : ThrottlingInfo)
      (first status last : ThermalThrottlingStatus), sensorInfo.throttlingInfo = some info →
        info.NonnegCeilings → setup.registered = some start → ThrottlingRun setup start tt reported →
        start.thermalThrottlingStatusMap.lookup sensorName = some first →
        tt.thermalThrottlingStatusMap.lookup sensorName = some status →
        computeCoolingDevicesRequest (clearThrottlingData tt sensorName) sensorName sensorInfo .none =
          .ok (after, updated) →
        after.thermalThrottlingStatusMap.lookup sensorName = some last →
          (∀ cdev vote, last.cdevStatusMap.lookup cdev = some vote → vote = 0) ∧
            last = { first with profile := status.profile } := by
  intro hstarts
  obtain ⟨start, warm, hot, after, updated, first, status, last, hepisode, htransients⟩ :=
    exists_steppedEpisode
      (by decide +kernel : steppedTransients .moderate = some (.fin 1000, .fin 1000))
  have hsame := (hstarts steppedSetup start hot after _ updated "soc" steppedSensorInfo steppedInfo first
    status last rfl steppedInfo_ceilings hepisode.registered hepisode.run hepisode.first hepisode.status
    hepisode.cools hepisode.last).2
  have hunused := registered_unused hepisode.registered "soc" first hepisode.first
  have hzero : last.pid.budgetTransient = 0 := by
    rw [hsame]
    change first.pid.budgetTransient = 0
    rw [hunused.terms]
    rfl
  rw [(Prod.mk.inj htransients).2] at hzero
  exact absurd hzero (by decide +kernel)

end HardwareMediatek.Thermal
