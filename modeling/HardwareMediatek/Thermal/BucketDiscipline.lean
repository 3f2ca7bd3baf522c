import HardwareMediatek.Thermal.RecordBuckets

/-!
# Buckets and states

Custom thresholds leave room for one bucket more than there are thresholds; the combined thresholds of a
device with many states do not. A threshold list without thresholds has one bucket, but the value itself
is the state.
-/

namespace HardwareMediatek.Thermal

open Foundation UnorderedMap

/-! ## Initialization -/

/-- The custom thresholds of a configuration leave room for a bucket. -/
def StatsInfo.CountsInRange {α : Type} (info : StatsInfo α) : Prop :=
  ∀ name thresholdLists, info.recordByThreshold.lookup name = some thresholdLists →
    ∀ thresholdList ∈ thresholdLists, thresholdList.thresholds.length ≤ kMaxStatsThresholdCount

/-- Every list of thresholds has one. -/
def StatsInfo.NoneEmpty {α : Type} (info : StatsInfo α) : Prop :=
  ∀ name thresholdLists, info.recordByThreshold.lookup name = some thresholdLists →
    ∀ thresholdList ∈ thresholdLists, thresholdList.thresholds ≠ []

section Initialization

variable {α : Type} {thresholdList : ThresholdList α} {now : ℤ}

theorem StatsByThreshold.within_create (hne : thresholdList.thresholds ≠ [])
    (hcount : thresholdList.thresholds.length ≤ kMaxStatsThresholdCount) :
    (StatsByThreshold.create thresholdList now).Within where
  thresholds := hne
  count := hcount
  record := Thermal.within_create now (Nat.succ_pos _)

theorem ThermalStats.Within.addCustom {count : ℕ} {stats : ThermalStats α} (h : stats.Within count)
    (hne : thresholdList.thresholds ≠ [])
    (hcount : thresholdList.thresholds.length ≤ kMaxStatsThresholdCount) :
    (stats.addCustom thresholdList now).Within count where
  custom byThreshold hmem := by
    rcases List.mem_append.mp hmem with hbefore | hlast
    · exact h.custom byThreshold hbefore
    · exact List.mem_singleton.mp hlast ▸ StatsByThreshold.within_create hne hcount
  byDefault := h.byDefault

theorem within_noThermalStats (count : ℕ) : (noThermalStats : ThermalStats α).Within count where
  custom _ hmem := absurd hmem List.not_mem_nil
  byDefault _ hsome := nomatch hsome

/-! ### Temperatures -/

theorem TempsWithin.changeOrCreate {tempStatsMap : UnorderedMap String SensorTempStats}
    (h : TempsWithin tempStatsMap) (sensor : String) {change : SensorTempStats → SensorTempStats}
    (hchange : ∀ stats, stats.toThermalStats.Within kThrottlingSeverityCount →
      (change stats).toThermalStats.Within kThrottlingSeverityCount) :
    TempsWithin (changeOrCreate tempStatsMap sensor newSensorTempStats change) := by
  apply forall_lookup_put h
  apply hchange
  cases hbefore : tempStatsMap.lookup sensor with
  | none => exact within_noThermalStats _
  | some before => exact h sensor before hbefore

theorem tempsWithin_initializeSensorTempStats {info : StatsInfo ExactFloat}
    (hcounts : info.CountsInRange) (hnone : info.NoneEmpty) (sensorInfoMap : SensorInfoMap) :
    TempsWithin (initializeSensorTempStats info sensorInfoMap now) := by
  unfold initializeSensorTempStats
  apply List.foldlRecOn sensorInfoMap.entries (addTempStats info now)
  · intro sensor stats hlookup
    rw [AList.lookup_empty] at hlookup
    cases hlookup
  · intro tempStatsMap hbefore entry _
    unfold addTempStats
    apply List.foldlRecOn
    · split
      · apply hbefore.changeOrCreate
        refine fun stats hstats ↦ ⟨hstats.custom, fun statsRecord hsome ↦ ?_⟩
        exact ⟨by decide, Option.some.inj hsome ▸ within_create now (by decide)⟩
      · exact hbefore
    · intro tempStatsMap hbefore thresholdList hmem
      cases hlists : info.recordByThreshold.lookup entry.1 with
      | none =>
        rw [hlists] at hmem
        cases hmem
      | some thresholdLists =>
        rw [hlists] at hmem
        exact hbefore.changeOrCreate entry.1 fun stats hstats ↦
          hstats.addCustom (hnone _ _ hlists _ hmem) (hcounts _ _ hlists _ hmem)

/-- A sensor has a record without thresholds. -/
def HasUnthresholded (sensor : String) (tempStatsMap : UnorderedMap String SensorTempStats) : Prop :=
  ∃ stats, tempStatsMap.lookup sensor = some stats ∧
    ∃ byThreshold ∈ stats.statsByCustomThreshold, byThreshold.thresholds = []

theorem HasUnthresholded.changeOrCreate {sensor : String}
    {tempStatsMap : UnorderedMap String SensorTempStats} (h : HasUnthresholded sensor tempStatsMap)
    (other : String) {change : SensorTempStats → SensorTempStats}
    (hchange : ∀ stats, stats.statsByCustomThreshold ⊆ (change stats).statsByCustomThreshold) :
    HasUnthresholded sensor (changeOrCreate tempStatsMap other newSensorTempStats change) := by
  obtain ⟨stats, hstats, byThreshold, hmem, hnone⟩ := h
  unfold HasUnthresholded Thermal.changeOrCreate
  rw [lookup_put]
  split
  · rename_i hsame
    subst hsame
    rw [hstats]
    exact ⟨_, rfl, byThreshold, hchange stats hmem, hnone⟩
  · exact ⟨stats, hstats, byThreshold, hmem, hnone⟩

theorem hasUnthresholded_addTempStats {info : StatsInfo ExactFloat} {sensor : String}
    {tempStatsMap : UnorderedMap String SensorTempStats} (h : HasUnthresholded sensor tempStatsMap)
    (entry : SensorEntry) :
    HasUnthresholded sensor (addTempStats info now tempStatsMap entry) := by
  unfold addTempStats
  apply List.foldlRecOn
  · split
    · exact h.changeOrCreate entry.1 fun _ ↦ List.Subset.refl _
    · exact h
  · intro tempStatsMap hbefore thresholdList _
    exact hbefore.changeOrCreate entry.1 fun _ ↦ List.subset_append_left _ _

theorem hasUnthresholded_initializeSensorTempStats {info : StatsInfo ExactFloat} {sensor : String}
    {sensorInfoMap : SensorInfoMap} (hsensor : sensor ∈ sensorInfoMap)
    {thresholdLists : List (ThresholdList ExactFloat)}
    (hlists : info.recordByThreshold.lookup sensor = some thresholdLists)
    {unthresholded : ThresholdList ExactFloat} (hmem : unthresholded ∈ thresholdLists)
    (hnone : unthresholded.thresholds = []) :
    HasUnthresholded sensor (initializeSensorTempStats info sensorInfoMap now) := by
  obtain ⟨sensorInfo, hinfo⟩ := mem_iff_lookup.mp hsensor
  apply foldl_establishes (mem_entries_iff.mpr hinfo)
  · intro tempStatsMap
    unfold addTempStats
    dsimp only
    rw [hlists]
    apply foldl_establishes hmem
    · intro tempStatsMap
      refine ⟨_, (lookup_put _ _ _ _).trans (if_pos rfl), StatsByThreshold.create unthresholded now,
        ?_, hnone⟩
      exact List.mem_append_cons_self
    · exact fun tempStatsMap other hbefore ↦
        hbefore.changeOrCreate sensor fun _ ↦ List.subset_append_left _ _
  · exact fun tempStatsMap entry hbefore ↦ hasUnthresholded_addTempStats hbefore entry

/-! ### Requests -/

/-- A device that is recorded by default has states, but not too many. -/
def FewStates (maxState : ℤ) : Prop := maxState < kMaxStatsResidencyCount ∧ maxState ≠ -1

section Requests

variable {info : StatsInfo ℤ} {coolingDeviceInfoMap : CdevInfoMap} {cdev : String} {maxState : ℤ}
  {recorded : Bool} {stats stats' : ThermalStats ℤ} {requestStats requestStats' : CdevRequestStats}

/-- What is recorded by default. -/
theorem addDefaultRequestStats_eq_ok
    (hadded : addDefaultRequestStats recorded cdev maxState now stats = .ok stats') :
    recorded = false ∧ stats' = stats ∨
      recorded = true ∧ kMaxStatsResidencyCount ≤ maxState ∧
        stats' = stats.addCustom (compressedThresholds cdev maxState) now ∨
      recorded = true ∧ maxState < kMaxStatsResidencyCount ∧ 0 ≤ maxState + 1 ∧
        stats' = { stats with
          statsByDefaultThreshold := some (StatsRecord.create (maxState + 1).toNat 0 now) } := by
  unfold addDefaultRequestStats at hadded
  cases recorded with
  | false => exact Or.inl ⟨rfl, (Except.ok.inj hadded).symm⟩
  | true =>
    rw [if_neg (by decide)] at hadded
    split at hadded
    · exact Or.inr (Or.inl ⟨rfl, ‹_›, (Except.ok.inj hadded).symm⟩)
    · split at hadded
      · cases hadded
      · exact Or.inr (Or.inr ⟨rfl, not_le.mp ‹_›, not_lt.mp ‹_›, (Except.ok.inj hadded).symm⟩)

/-- The records by custom thresholds are added, each for a list with a last threshold. -/
theorem addCustomRequestStats_eq_ok {thresholdLists : List (ThresholdList ℤ)}
    (hadded : addCustomRequestStats maxState now thresholdLists stats = .ok (some stats')) :
    stats'.statsByDefaultThreshold = stats.statsByDefaultThreshold ∧
      ∃ added, stats'.statsByCustomThreshold = stats.statsByCustomThreshold ++ added ∧
        ∀ byThreshold ∈ added, ∃ thresholdList ∈ thresholdLists, thresholdList.thresholds ≠ [] ∧
          byThreshold = StatsByThreshold.create thresholdList now := by
  induction thresholdLists generalizing stats with
  | nil =>
    obtain rfl := Option.some.inj (Except.ok.inj hadded)
    exact ⟨rfl, [], (List.append_nil _).symm, fun _ hmem ↦ absurd hmem List.not_mem_nil⟩
  | cons thresholdList rest ih =>
    unfold addCustomRequestStats at hadded
    split at hadded
    · cases hadded
    · rename_i last hlast
      split at hadded
      · cases hadded
      · obtain ⟨hdefault, added, hcustom, hall⟩ := ih hadded
        have hne : thresholdList.thresholds ≠ [] := by
          intro hnil
          rw [hnil] at hlast
          cases hlast
        refine ⟨hdefault, StatsByThreshold.create thresholdList now :: added, ?_, ?_⟩
        · rw [hcustom]
          exact List.append_assoc _ [_] _
        · intro byThreshold hmem
          rcases List.mem_cons.mp hmem with rfl | hmem
          · exact ⟨thresholdList, List.mem_cons_self, hne, rfl⟩
          · obtain ⟨other, hother, hrest⟩ := hall byThreshold hmem
            exact ⟨other, List.mem_cons_of_mem _ hother, hrest⟩

/-- A device is left as it is, or gets what its default and its custom thresholds add. -/
theorem addRequestStats_eq_ok
    (hadded : addRequestStats info coolingDeviceInfoMap now cdev requestStats = .ok (some requestStats')) :
    ∃ cdevInfo middle stats', coolingDeviceInfoMap.lookup cdev = some cdevInfo ∧
      addDefaultRequestStats (isRecordByDefaultThreshold info.recordByDefaultThreshold cdev) cdev
        cdevInfo.maxState now ((requestStats.lookup cdev).getD noThermalStats) = .ok middle ∧
      addCustomRequestStats cdevInfo.maxState now
        ((info.recordByThreshold.lookup cdev).getD []) middle = .ok (some stats') ∧
      (isRecordByDefaultThreshold info.recordByDefaultThreshold cdev = false ∧
        requestStats' = requestStats ∨ requestStats' = requestStats.put cdev stats') := by
  obtain ⟨cdevInfo, hinfo, hadded⟩ := bind_eq_ok.mp hadded
  obtain ⟨middle, hmiddle, hadded⟩ := bind_eq_ok.mp hadded
  cases hlists : info.recordByThreshold.lookup cdev with
  | none =>
    rw [hlists] at hadded
    refine ⟨cdevInfo, middle, middle, atKey_eq_ok.mp hinfo, hmiddle, rfl, ?_⟩
    have hsame := Option.some.inj (Except.ok.inj hadded)
    cases hrecorded : isRecordByDefaultThreshold info.recordByDefaultThreshold cdev with
    | false =>
      rw [hrecorded] at hsame
      exact Or.inl ⟨rfl, hsame.symm⟩
    | true =>
      rw [hrecorded] at hsame
      exact Or.inr hsame.symm
  | some thresholdLists =>
    rw [hlists] at hadded
    obtain ⟨added, hcustom, hadded⟩ := bind_eq_ok.mp hadded
    obtain ⟨stats', rfl, hsame⟩ := Option.map_eq_some_iff.mp (Except.ok.inj hadded)
    refine ⟨cdevInfo, middle, stats', atKey_eq_ok.mp hinfo, hmiddle, hcustom, ?_⟩
    cases hrecorded : isRecordByDefaultThreshold info.recordByDefaultThreshold cdev with
    | false =>
      rw [hrecorded, Bool.false_or] at hsame
      split at hsame
      · exact Or.inr hsame.symm
      · exact Or.inl ⟨rfl, hsame.symm⟩
    | true =>
      rw [hrecorded] at hsame
      exact Or.inr hsame.symm

theorem RequestsWithin.add (h : RequestsWithin coolingDeviceInfoMap requestStats)
    (hcounts : info.CountsInRange)
    (hfew : ∀ cdevInfo, coolingDeviceInfoMap.lookup cdev = some cdevInfo →
      isRecordByDefaultThreshold info.recordByDefaultThreshold cdev = true → FewStates cdevInfo.maxState)
    (hadded : addRequestStats info coolingDeviceInfoMap now cdev requestStats = .ok (some requestStats')) :
    RequestsWithin coolingDeviceInfoMap requestStats' := by
  obtain ⟨cdevInfo, middle, stats', hinfo, hdefault, hcustom, hput⟩ := addRequestStats_eq_ok hadded
  have hbefore : ((requestStats.lookup cdev).getD noThermalStats).Within
      (cdevInfo.maxState + 1).toNat := by
    cases hstats : requestStats.lookup cdev with
    | none => exact within_noThermalStats _
    | some stats =>
      obtain ⟨other, hother, hwithin⟩ := h cdev stats hstats
      obtain rfl := Option.some.inj (hinfo.symm.trans hother)
      exact hwithin
  have hmiddle : middle.Within (cdevInfo.maxState + 1).toNat := by
    rcases addDefaultRequestStats_eq_ok hdefault with
      ⟨-, rfl⟩ | ⟨hrecorded, hmany, -⟩ | ⟨hrecorded, hlt, hnonneg, rfl⟩
    · exact hbefore
    · exact absurd (hfew cdevInfo hinfo hrecorded).1 (not_lt.mpr hmany)
    · have hne := (hfew cdevInfo hinfo hrecorded).2
      refine ⟨hbefore.custom, fun statsRecord hsome ↦ ?_⟩
      refine ⟨by omega, Option.some.inj hsome ▸ within_create now (by omega)⟩
  have hafter : stats'.Within (cdevInfo.maxState + 1).toNat := by
    obtain ⟨hsame, added, hcustoms, hall⟩ := addCustomRequestStats_eq_ok hcustom
    refine ⟨fun byThreshold hmem ↦ ?_, fun statsRecord hsome ↦ ?_⟩
    · rw [hcustoms] at hmem
      rcases List.mem_append.mp hmem with hold | hnew
      · exact hmiddle.custom byThreshold hold
      · obtain ⟨thresholdList, hlist, hne, rfl⟩ := hall byThreshold hnew
        cases hlists : info.recordByThreshold.lookup cdev with
        | none =>
          rw [hlists] at hlist
          cases hlist
        | some thresholdLists =>
          rw [hlists] at hlist
          exact StatsByThreshold.within_create hne (hcounts _ _ hlists _ hlist)
    · exact hmiddle.byDefault statsRecord (hsame ▸ hsome)
  rcases hput with ⟨-, rfl⟩ | rfl
  · exact h
  · exact forall_lookup_put h ⟨cdevInfo, hinfo, hafter⟩

theorem RequestsWithin.addAll (h : RequestsWithin coolingDeviceInfoMap requestStats)
    (hcounts : info.CountsInRange) {cdevs : List String}
    (hfew : ∀ cdev ∈ cdevs, ∀ cdevInfo, coolingDeviceInfoMap.lookup cdev = some cdevInfo →
      isRecordByDefaultThreshold info.recordByDefaultThreshold cdev = true → FewStates cdevInfo.maxState)
    (hadded : addSensorRequestStats info coolingDeviceInfoMap now cdevs requestStats =
      .ok (some requestStats')) :
    RequestsWithin coolingDeviceInfoMap requestStats' := by
  induction cdevs generalizing requestStats with
  | nil =>
    obtain rfl := Option.some.inj (Except.ok.inj hadded)
    exact h
  | cons cdev rest ih =>
    obtain ⟨hhead, hrest⟩ := List.forall_mem_cons.mp hfew
    obtain ⟨middle, hmiddle, hadded⟩ := bind_eq_ok.mp hadded
    cases middle with
    | none => cases hadded
    | some middle => exact ih (h.add hcounts hhead hmiddle) hrest hadded

theorem requestsWithin_addAllRequestStats
    {requestStatsMap requestStatsMap' : UnorderedMap String CdevRequestStats}
    {entries : List SensorEntry}
    (h : ∀ sensor requestStats, requestStatsMap.lookup sensor = some requestStats →
      RequestsWithin coolingDeviceInfoMap requestStats)
    (hcounts : info.CountsInRange)
    (hfew : ∀ entry ∈ entries, ∀ throttlingInfo, entry.2.throttlingInfo = some throttlingInfo →
      ∀ cdev ∈ throttlingInfo.bindedCdevInfoMap.keys, ∀ cdevInfo,
        coolingDeviceInfoMap.lookup cdev = some cdevInfo →
          isRecordByDefaultThreshold info.recordByDefaultThreshold cdev = true →
            FewStates cdevInfo.maxState)
    (hadded : addAllRequestStats info coolingDeviceInfoMap now entries requestStatsMap =
      .ok (some requestStatsMap')) :
    ∀ sensor requestStats, requestStatsMap'.lookup sensor = some requestStats →
      RequestsWithin coolingDeviceInfoMap requestStats := by
  induction entries generalizing requestStatsMap with
  | nil =>
    obtain rfl := Option.some.inj (Except.ok.inj hadded)
    exact h
  | cons entry rest ih =>
    obtain ⟨hhead, hrest⟩ := List.forall_mem_cons.mp hfew
    obtain ⟨throttlingInfo, hthrottling, hadded⟩ := bind_eq_ok.mp hadded
    obtain ⟨after, hafter, hadded⟩ := bind_eq_ok.mp hadded
    cases after with
    | none => cases hadded
    | some after =>
      have hbefore : RequestsWithin coolingDeviceInfoMap
          ((requestStatsMap.lookup entry.1).getD ∅) := by
        cases hlookup : requestStatsMap.lookup entry.1 with
        | none =>
          intro cdev stats hstats
          rw [Option.getD_none, AList.lookup_empty] at hstats
          cases hstats
        | some requestStats => exact h entry.1 requestStats hlookup
      have hwithin := hbefore.addAll hcounts (hhead throttlingInfo (deref_eq_ok.mp hthrottling)) hafter
      apply ih _ hrest hadded
      split
      · exact h
      · exact forall_lookup_put h hwithin

/-- The statistics of a device that has too many states for its buckets, or none. -/
def Misfit (maxState : ℤ) (stats : ThermalStats ℤ) : Prop :=
  kMaxStatsResidencyCount ≤ maxState ∧ (∃ byThreshold ∈ stats.statsByCustomThreshold,
      byThreshold.statsRecord.timeInStateMs.length = kMaxStatsResidencyCount + 1) ∨
    maxState = -1 ∧ ∃ statsRecord, stats.statsByDefaultThreshold = some statsRecord ∧
      statsRecord.timeInStateMs = []

theorem not_fewStates_iff : ¬FewStates maxState ↔ kMaxStatsResidencyCount ≤ maxState ∨ maxState = -1 := by
  unfold FewStates
  omega

/-- A misfit has a record that is not disciplined. -/
theorem Misfit.exists_record (h : Misfit maxState stats) :
    ∃ statsRecord ∈ stats.records, ¬statsRecord.Disciplined := by
  rcases h with ⟨-, byThreshold, hmem, hlength⟩ | ⟨-, statsRecord, hdefault, hnone⟩
  · refine ⟨byThreshold.statsRecord, List.mem_append_left _ (List.mem_map_of_mem hmem), fun h ↦ ?_⟩
    exact absurd (hlength ▸ h.count) (by decide)
  · refine ⟨statsRecord, List.mem_append_right _ (Option.mem_toList.mpr hdefault), fun h ↦ ?_⟩
    have hlt := h.lt
    rw [hnone] at hlt
    exact absurd h.nonneg (not_le.mpr hlt)

theorem compressedThresholds_length :
    (compressedThresholds cdev maxState).thresholds.length = kMaxStatsResidencyCount := by
  unfold compressedThresholds
  rw [List.length_map, List.length_range]

/-- A misfit is made by the default, and stays one. -/
theorem misfit_addDefaultRequestStats
    (h : Misfit maxState stats ∨ recorded = true ∧ ¬FewStates maxState)
    (hadded : addDefaultRequestStats recorded cdev maxState now stats = .ok stats') :
    Misfit maxState stats' := by
  rcases addDefaultRequestStats_eq_ok hadded with
    ⟨hrecorded, rfl⟩ | ⟨-, hmany, rfl⟩ | ⟨-, hlt, -, rfl⟩
  · rcases h with hmisfit | ⟨htrue, -⟩
    · exact hmisfit
    · cases hrecorded.symm.trans htrue
  · refine Or.inl ⟨hmany, StatsByThreshold.create (compressedThresholds cdev maxState) now,
      List.mem_append_cons_self, ?_⟩
    exact List.length_replicate.trans (congrArg (· + 1) compressedThresholds_length)
  · have hnone : maxState = -1 := by
      rcases h with (⟨hmany, -⟩ | ⟨hnone, -⟩) | ⟨-, hfew⟩
      · exact absurd hmany (not_le.mpr hlt)
      · exact hnone
      · exact (not_fewStates_iff.mp hfew).resolve_left (not_le.mpr hlt)
    subst hnone
    exact Or.inr ⟨rfl, _, rfl, rfl⟩

theorem Misfit.addCustomRequestStats (h : Misfit maxState stats)
    {thresholdLists : List (ThresholdList ℤ)}
    (hadded : addCustomRequestStats maxState now thresholdLists stats = .ok (some stats')) :
    Misfit maxState stats' := by
  obtain ⟨hdefault, added, hcustom, -⟩ := addCustomRequestStats_eq_ok hadded
  rcases h with ⟨hmany, byThreshold, hmem, hlength⟩ | ⟨hnone, statsRecord, hsome, hempty⟩
  · exact Or.inl ⟨hmany, byThreshold, hcustom ▸ List.mem_append_left _ hmem, hlength⟩
  · exact Or.inr ⟨hnone, statsRecord, hdefault.trans hsome, hempty⟩

/-- A device of a sensor does not fit. -/
def HasMisfit (coolingDeviceInfoMap : CdevInfoMap) (cdev : String) (requestStats : CdevRequestStats) :
    Prop :=
  ∃ cdevInfo stats, coolingDeviceInfoMap.lookup cdev = some cdevInfo ∧
    requestStats.lookup cdev = some stats ∧ Misfit cdevInfo.maxState stats

/-- What a configuration records by default although it does not fit. -/
def DefaultMisfit (info : StatsInfo ℤ) (coolingDeviceInfoMap : CdevInfoMap) (cdev : String) : Prop :=
  ∃ cdevInfo, coolingDeviceInfoMap.lookup cdev = some cdevInfo ∧
    isRecordByDefaultThreshold info.recordByDefaultThreshold cdev = true ∧
      ¬FewStates cdevInfo.maxState

theorem hasMisfit_addRequestStats {other : String}
    (h : HasMisfit coolingDeviceInfoMap cdev requestStats ∨
      other = cdev ∧ DefaultMisfit info coolingDeviceInfoMap cdev)
    (hadded : addRequestStats info coolingDeviceInfoMap now other requestStats = .ok (some requestStats')) :
    HasMisfit coolingDeviceInfoMap cdev requestStats' := by
  obtain ⟨cdevInfo, middle, stats', hinfo, hdefault, hcustom, hput⟩ := addRequestStats_eq_ok hadded
  by_cases hsame : other = cdev
  · subst hsame
    -- The device itself: what it has, or what its default makes, is a misfit.
    have hbefore : Misfit cdevInfo.maxState ((requestStats.lookup other).getD noThermalStats) ∨
        isRecordByDefaultThreshold info.recordByDefaultThreshold other = true ∧
          ¬FewStates cdevInfo.maxState := by
      rcases h with ⟨otherInfo, stats, hother, hstats, hmisfit⟩ | ⟨-, otherInfo, hother, hrecorded⟩
      · obtain rfl := Option.some.inj (hinfo.symm.trans hother)
        rw [hstats]
        exact Or.inl hmisfit
      · obtain rfl := Option.some.inj (hinfo.symm.trans hother)
        exact Or.inr hrecorded
    have hafter := (misfit_addDefaultRequestStats hbefore hdefault).addCustomRequestStats hcustom
    rcases hput with ⟨hrecorded, rfl⟩ | rfl
    · rcases h with hmisfit | ⟨-, otherInfo, -, htrue, -⟩
      · exact hmisfit
      · cases hrecorded.symm.trans htrue
    · exact ⟨cdevInfo, stats', hinfo, (lookup_put _ _ _ _).trans (if_pos rfl), hafter⟩
  · obtain ⟨otherInfo, stats, hother, hstats, hmisfit⟩ := h.resolve_right fun hdefault ↦
      hsame hdefault.1
    rcases hput with ⟨-, rfl⟩ | rfl
    · exact ⟨otherInfo, stats, hother, hstats, hmisfit⟩
    · refine ⟨otherInfo, stats, hother, ?_, hmisfit⟩
      rw [lookup_put, if_neg fun heq ↦ hsame heq.symm, hstats]

theorem hasMisfit_addSensorRequestStats {cdevs : List String}
    (h : HasMisfit coolingDeviceInfoMap cdev requestStats ∨
      cdev ∈ cdevs ∧ DefaultMisfit info coolingDeviceInfoMap cdev)
    (hadded : addSensorRequestStats info coolingDeviceInfoMap now cdevs requestStats =
      .ok (some requestStats')) :
    HasMisfit coolingDeviceInfoMap cdev requestStats' := by
  induction cdevs generalizing requestStats with
  | nil =>
    obtain rfl := Option.some.inj (Except.ok.inj hadded)
    exact h.resolve_right fun hmem ↦ List.not_mem_nil hmem.1
  | cons other rest ih =>
    obtain ⟨middle, hmiddle, hadded⟩ := bind_eq_ok.mp hadded
    cases middle with
    | none => cases hadded
    | some middle =>
      apply ih _ hadded
      rcases h with hmisfit | ⟨hmem, hdefault⟩
      · exact Or.inl (hasMisfit_addRequestStats (Or.inl hmisfit) hmiddle)
      · rcases List.mem_cons.mp hmem with rfl | hmem
        · exact Or.inl (hasMisfit_addRequestStats (Or.inr ⟨rfl, hdefault⟩) hmiddle)
        · exact Or.inr ⟨hmem, hdefault⟩

/-- A misfit of a sensor stays, or comes with an entry of the sensor. -/
theorem hasMisfit_addAllRequestStats {sensor : String}
    {requestStatsMap requestStatsMap' : UnorderedMap String CdevRequestStats}
    {entries : List SensorEntry}
    (h : (∃ requestStats, requestStatsMap.lookup sensor = some requestStats ∧
        HasMisfit coolingDeviceInfoMap cdev requestStats) ∨
      (∃ sensorInfo throttlingInfo, ⟨sensor, sensorInfo⟩ ∈ entries ∧
        sensorInfo.throttlingInfo = some throttlingInfo ∧ cdev ∈ throttlingInfo.bindedCdevInfoMap.keys) ∧
          DefaultMisfit info coolingDeviceInfoMap cdev)
    (hadded : addAllRequestStats info coolingDeviceInfoMap now entries requestStatsMap =
      .ok (some requestStatsMap')) :
    ∃ requestStats, requestStatsMap'.lookup sensor = some requestStats ∧
      HasMisfit coolingDeviceInfoMap cdev requestStats := by
  induction entries generalizing requestStatsMap with
  | nil =>
    obtain rfl := Option.some.inj (Except.ok.inj hadded)
    refine h.resolve_right ?_
    rintro ⟨⟨_, _, hmem, -⟩, -⟩
    cases hmem
  | cons entry rest ih =>
    obtain ⟨throttlingInfo, hthrottling, hadded⟩ := bind_eq_ok.mp hadded
    obtain ⟨after, hafter, hadded⟩ := bind_eq_ok.mp hadded
    cases after with
    | none => cases hadded
    | some after =>
      apply ih _ hadded
      have hput : HasMisfit coolingDeviceInfoMap cdev after → ∃ requestStats,
          (if after.entries.isEmpty then requestStatsMap
            else requestStatsMap.put entry.1 after).lookup entry.1 = some requestStats ∧
              HasMisfit coolingDeviceInfoMap cdev requestStats := by
        intro hmisfit
        have hne : after.entries.isEmpty ≠ true := by
          intro hempty
          obtain ⟨_, stats, -, hstats, -⟩ := hmisfit
          have hmem := mem_entries_iff.mpr hstats
          rw [List.isEmpty_iff.mp hempty] at hmem
          cases hmem
        rw [if_neg hne]
        exact ⟨after, (lookup_put _ _ _ _).trans (if_pos rfl), hmisfit⟩
      rcases h with ⟨requestStats, hlookup, hmisfit⟩ | ⟨⟨sensorInfo, bound, hmem, hbound, hcdev⟩, hdefault⟩
      · left
        by_cases hsame : sensor = entry.1
        · subst hsame
          apply hput
          apply hasMisfit_addSensorRequestStats _ hafter
          rw [hlookup]
          exact Or.inl hmisfit
        · refine ⟨requestStats, ?_, hmisfit⟩
          split
          · exact hlookup
          · rw [lookup_put, if_neg hsame, hlookup]
      · rcases List.mem_cons.mp hmem with rfl | hmem
        · left
          apply hput
          apply hasMisfit_addSensorRequestStats _ hafter
          rw [deref_eq_ok.mp hthrottling] at hbound
          obtain rfl := Option.some.inj hbound
          exact Or.inr ⟨hcdev, hdefault⟩
        · exact Or.inr ⟨⟨sensorInfo, bound, hmem, hbound, hcdev⟩, hdefault⟩

end Requests

end Initialization

/-! ## A value as a state -/

theorem updateStats_curState {statsRecord updated : StatsRecord} {value now : ℤ}
    (h : updateStats statsRecord value now = some updated) : updated.curState = value := by
  unfold updateStats updateStatsRecord at h
  split at h
  · split at h
    · obtain rfl := Option.some.inj h
      rfl
    · cases h
  · rename_i hsame
    obtain rfl := Option.some.inj h
    exact (not_not.mp hsame).symm

/-- Without thresholds the state is the value itself. -/
theorem updateCustomStats_unthresholded {α : Type} [ThresholdValue α] {env : StatsEnv} {value : α}
    {custom updated : List (StatsByThreshold α)} (h : updateCustomStats env value custom = .ok updated)
    {byThreshold : StatsByThreshold α} (hmem : byThreshold ∈ custom)
    (hnone : byThreshold.thresholds = []) :
    ∃ byThreshold' ∈ updated, byThreshold'.statsRecord.curState = ThresholdValue.toBucket value := by
  induction custom generalizing updated with
  | nil => cases hmem
  | cons first rest ih =>
    obtain ⟨statsRecord, hrecord, h⟩ := bind_eq_ok.mp h
    obtain ⟨others, hothers, h⟩ := bind_eq_ok.mp h
    obtain rfl := Except.ok.inj h
    rcases List.mem_cons.mp hmem with rfl | hmem
    · refine ⟨_, List.mem_cons_self, ?_⟩
      rw [hnone] at hrecord
      exact updateStats_curState (orBadIndex_eq_ok.mp hrecord)
    · obtain ⟨byThreshold', hmem', hstate⟩ := ih hothers hmem
      exact ⟨byThreshold', List.mem_cons_of_mem _ hmem', hstate⟩

theorem observe_statsByCustomThreshold (env : StatsEnv) (temperature : ExactFloat)
    (stats : SensorTempStats) :
    (stats.observe env temperature).statsByCustomThreshold = stats.statsByCustomThreshold := by
  unfold SensorTempStats.observe
  dsimp only
  split <;> split <;> rfl

section Discipline

variable {coolingDeviceInfoMap : CdevInfoMap} {helper : ThermalStatsHelper}

theorem BucketDiscipline.initial (h : BucketDiscipline coolingDeviceInfoMap helper)
    {statsRecord : StatsRecord} (hrecord : helper.HasRecord statsRecord) : statsRecord.Disciplined := by
  obtain ⟨final, sent, hrun, hall⟩ := h [] fun step hstep ↦ absurd hstep List.not_mem_nil
  obtain ⟨rfl, -⟩ := Prod.mk.inj (Option.some.inj hrun)
  exact hall statsRecord hrecord

/-- Thirty degrees, in a record with one bucket. -/
theorem BucketDiscipline.not_hasUnthresholded (h : BucketDiscipline coolingDeviceInfoMap helper)
    (sensor : String) : ¬HasUnthresholded sensor helper.sensorStats.tempStatsMap := by
  rintro ⟨stats, hstats, byThreshold, hmem, hnone⟩
  let env : StatsEnv := ⟨0, 0, 0, false, fun _ _ ↦ false⟩
  have hvalid : ∀ step ∈ [StatsHelperStep.temperature env sensor (.fin 30)],
      step.VoteInRange coolingDeviceInfoMap := by
    intro step hstep
    obtain rfl := List.mem_singleton.mp hstep
    trivial
  obtain ⟨final, sent, hrun, hall⟩ := h _ hvalid
  obtain ⟨start, before, new, hstart, hstep, -⟩ := @runSteps_concat _ _ _ helperStep _ _ [] _ _ hrun
  obtain ⟨rfl, -⟩ := Prod.mk.inj (Option.some.inj hstart)
  obtain ⟨⟨after, sent'⟩, hupdate, hsame⟩ := bind_eq_ok.mp (toOption_eq_some hstep)
  obtain ⟨rfl, -⟩ := ok_pair hsame
  have htemps := verifySensorAbnormality_tempStatsMap env sensor (.fin 30) helper
  unfold updateSensorTempStatsByThreshold at hupdate
  dsimp only at hupdate
  rw [htemps, hstats] at hupdate
  obtain ⟨custom, hcustom, hupdate⟩ := bind_eq_ok.mp hupdate
  obtain ⟨rfl, -⟩ := ok_pair hupdate
  obtain ⟨byThreshold', hmem', hstate⟩ := updateCustomStats_unthresholded hcustom hmem hnone
  have hdisciplined : byThreshold'.statsRecord.Disciplined := by
    apply hall
    apply ThermalStatsHelper.HasRecord.temps
      (lookup_assign_of_mem _ (mem_of_lookup hstats))
    apply List.mem_append_left
    apply List.mem_map_of_mem
    rw [observe_statsByCustomThreshold]
    exact hmem'
  have hcount := hdisciplined.count
  have hlt := hdisciplined.lt
  have hthirty : ThresholdValue.toBucket (ExactFloat.fin 30) = 30 := by decide +kernel
  unfold kMaxStatsResidencyCount at hcount
  omega

end Discipline

/-! ## When the discipline holds -/

/-- No entry for custom thresholds has a value without elements in the place of its list. -/
def ThresholdsGiven (statsConfig : Json) : Prop :=
  ∀ entry, IsThresholdEntry statsConfig entry → ¬ThresholdCount entry 0

/-- The bound devices that are recorded by default have states, and not more than there are buckets. -/
def DefaultsFit (votesConfig : Json) (sensorInfoMap : SensorInfoMap)
    (coolingDeviceInfoMap : CdevInfoMap) : Prop :=
  ∀ sensor sensorInfo throttlingInfo cdev cdevInfo, sensorInfoMap.lookup sensor = some sensorInfo →
    sensorInfo.throttlingInfo = some throttlingInfo → cdev ∈ throttlingInfo.bindedCdevInfoMap →
      coolingDeviceInfoMap.lookup cdev = some cdevInfo → RecordedByDefault votesConfig cdev →
        FewStates cdevInfo.maxState

section Accepted

variable {sensorInfoMap : SensorInfoMap} {coolingDeviceInfoMap : CdevInfoMap} {config : ParsedStats}
  {sensorsConfig votesConfig : Json} {now : ℤ} {helper : ThermalStatsHelper}

theorem countsInRange_of_parseStatsInfo {α ν : Type} [ParsedThreshold α]
    {entityInfo : UnorderedMap String ν} {statsConfig : Json} {minValue : α} {info : StatsInfo α}
    (hparsed : parseStatsInfo entityInfo statsConfig minValue = .ok info) : info.CountsInRange := by
  obtain ⟨entries, hfrom, -⟩ := parseStatsInfo_fromEntries hparsed
  exact fun name thresholdLists hlists thresholdList hmem ↦
    (hfrom.counted name thresholdLists hlists thresholdList hmem).1

/-- After an initialization, the records keep their discipline in every run exactly when no threshold
list is given by a value without elements, and the devices that are recorded by default have at most as
many states as there are buckets. -/
theorem bucketDiscipline_iff
    (hsensors : parseStatsInfo sensorInfoMap sensorsConfig floatLowest = .ok config.sensorStatsInfo)
    (hvotes : parseStatsInfo coolingDeviceInfoMap votesConfig (-1) =
      .ok config.coolingDeviceRequestInfo)
    (hinit : initializeStats config sensorInfoMap coolingDeviceInfoMap now = .ok (some helper)) :
    BucketDiscipline coolingDeviceInfoMap helper ↔
      ThresholdsGiven sensorsConfig ∧ DefaultsFit votesConfig sensorInfoMap coolingDeviceInfoMap := by
  obtain ⟨entries, hfrom, hentries⟩ := parseStatsInfo_fromEntries hsensors
  have hdefault := parseStatsInfo_recordedByDefault hvotes
  obtain ⟨requestStatsMap, hrequests, hinit⟩ := bind_eq_ok.mp hinit
  obtain ⟨requestStatsMap', rfl, rfl⟩ := Option.map_eq_some_iff.mp (Except.ok.inj hinit)
  constructor
  · intro hdiscipline
    constructor
    · intro entry hentry hcount
      obtain ⟨name, hname, thresholdLists, hlists, thresholdList, hmem, hlength⟩ :=
        hfrom.listed entry ((hentries entry).mpr hentry) 0 hcount
      apply hdiscipline.not_hasUnthresholded name
      exact hasUnthresholded_initializeSensorTempStats hname hlists hmem
        (List.length_eq_zero_iff.mp hlength)
    · intro sensor sensorInfo throttlingInfo cdev cdevInfo hsensor hthrottling hcdev hinfo hrecorded
      by_contra hfew
      obtain ⟨requestStats, hlookup, _, stats, -, hstats, hmisfit⟩ :=
        hasMisfit_addAllRequestStats (Or.inr ⟨⟨sensorInfo, throttlingInfo, mem_entries_iff.mpr hsensor,
          hthrottling, AList.mem_keys.mp hcdev⟩, cdevInfo, hinfo, (hdefault cdev).mpr hrecorded, hfew⟩)
          hrequests
      obtain ⟨statsRecord, hmem, hnot⟩ := hmisfit.exists_record
      exact hnot (hdiscipline.initial (.requests hlookup hstats hmem))
  · rintro ⟨hgiven, hfit⟩
    apply ThermalStatsHelper.Within.bucketDiscipline
    refine ⟨?_, ?_⟩
    · apply tempsWithin_initializeSensorTempStats (countsInRange_of_parseStatsInfo hsensors)
      intro name thresholdLists hlists thresholdList hmem hnone
      obtain ⟨-, entry, hentry, hcount⟩ := hfrom.counted name thresholdLists hlists thresholdList hmem
      rw [hnone] at hcount
      exact hgiven entry ((hentries entry).mp hentry) hcount
    · apply requestsWithin_addAllRequestStats _ (countsInRange_of_parseStatsInfo hvotes) _ hrequests
      · intro sensor requestStats hlookup
        rw [AList.lookup_empty] at hlookup
        cases hlookup
      · intro entry hentry throttlingInfo hthrottling cdev hcdev cdevInfo hinfo hrecorded
        exact hfit entry.1 entry.2 throttlingInfo cdev cdevInfo (lookup_of_mem_entries hentry)
          hthrottling (AList.mem_keys.mpr hcdev) hinfo ((hdefault cdev).mp hrecorded)

end Accepted

/-! ## A device with many states -/

def votingSensors : SensorInfoMap :=
  (∅ : SensorInfoMap).insert "soc" { (default : SensorInfo) with
    throttlingInfo := some { (default : ThrottlingInfo) with
      bindedCdevInfoMap := (∅ : BindedCdevInfoMap).insert "cpu" default } }

/-- The states from zero to twenty. -/
def manyStates : CdevInfoMap := (∅ : CdevInfoMap).insert "cpu" { (default : CdevInfo) with maxState := 20 }

def votesJson : Json := .obj [("DefaultThresholdEnableAll", .bool true)]

def votesParsed : ParsedStats := ⟨noStatsInfo, noAbnormalStatsInfo, ⟨.flag true, ∅⟩⟩

def votesHelper : ThermalStatsHelper where
  lastTotalStatsReportTime := 0
  abnormalStatsReportedPerUpdateInterval := 0
  sensorStats := ⟨∅, ∅, ∅, ∅⟩
  sensorCdevRequestStatsMap := (∅ : UnorderedMap String CdevRequestStats).insert "soc"
    ((∅ : CdevRequestStats).insert "cpu"
      ((noThermalStats : ThermalStats ℤ).addCustom (compressedThresholds "cpu" 20) 0))

theorem votesHelper_initialized :
    initializeStats votesParsed votingSensors manyStates 0 = .ok (some votesHelper) := rfl

theorem votes_bucketDiscipline_iff : BucketDiscipline manyStates votesHelper ↔
    ThresholdsGiven .null ∧ DefaultsFit votesJson votingSensors manyStates :=
  bucketDiscipline_iff rfl rfl votesHelper_initialized

/-- Twenty thresholds make twenty-one buckets. -/
theorem votesHelper_not_disciplined :
    parseStatsInfo manyStates votesJson (-1) = .ok votesParsed.coolingDeviceRequestInfo ∧
      initializeStats votesParsed votingSensors manyStates 0 = .ok (some votesHelper) ∧
        ¬BucketDiscipline manyStates votesHelper := by
  refine ⟨rfl, votesHelper_initialized, fun hdiscipline ↦ ?_⟩
  have hrecord := hdiscipline.initial
    (.requests (AList.lookup_insert _) (AList.lookup_insert _) List.mem_cons_self)
  exact absurd hrecord.count (by decide)

end HardwareMediatek.Thermal
