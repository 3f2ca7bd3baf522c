import HardwareMediatek.Thermal.ParseStats

/-!
# Records and their buckets

A record has one bucket for every state that it may be in. The states that are passed to it are those of
a severity, of a vote, or the place of a value among thresholds. A record that begins within its buckets
stays there, whatever is observed, requested and reported.
-/

namespace HardwareMediatek.Thermal

open Foundation UnorderedMap

/-! ## Records within their buckets -/

/-- A record of so many buckets, in a state that has one. -/
structure StatsRecord.Within (count : ℕ) (statsRecord : StatsRecord) : Prop where
  length : statsRecord.timeInStateMs.length = count
  nonneg : 0 ≤ statsRecord.curState
  lt : statsRecord.curState < count

section Records

variable {count : ℕ} {statsRecord : StatsRecord} {env : StatsEnv}

theorem within_create (now : ℤ) (hcount : 0 < count) : (StatsRecord.create count 0 now).Within count where
  length := List.length_replicate
  nonneg := le_refl 0
  lt := Int.natCast_pos.mpr hcount

theorem StatsRecord.Within.updateStatsRecord (h : statsRecord.Within count) {state now : ℤ}
    (hnonneg : 0 ≤ state) (hlt : state < count) :
    ∃ updated, updateStatsRecord statsRecord state now = some updated ∧ updated.Within count := by
  unfold Thermal.updateStatsRecord
  rw [if_pos ⟨h.nonneg, h.length ▸ h.lt⟩]
  refine ⟨_, rfl, ?_, hnonneg, hlt⟩
  exact (List.length_modify ..).trans h.length

theorem StatsRecord.Within.updateStats (h : statsRecord.Within count) {state now : ℤ}
    (hnonneg : 0 ≤ state) (hlt : state < count) :
    Meets (orBadIndex (updateStats statsRecord state now)) (StatsRecord.Within count)
      fun _ ↦ False := by
  unfold Thermal.updateStats
  split
  · obtain ⟨updated, hupdated, hwithin⟩ := h.updateStatsRecord hnonneg hlt
    rw [hupdated]
    exact hwithin
  · exact h

theorem StatsRecord.Within.restore (h : statsRecord.Within count) (now : ℤ) :
    (restoreStatsRecordOnFailure statsRecord now).Within count := by
  unfold restoreStatsRecordOnFailure
  split
  · exact ⟨List.length_replicate.trans h.length, h.nonneg, h.lt⟩
  · exact ⟨h.length, h.nonneg, h.lt⟩

theorem StatsRecord.Within.reportRecord (h : statsRecord.Within count)
    (atomOf : StatsReport → StatsAtom) (sent : Sent) :
    Meets (reportRecord env atomOf statsRecord sent) (fun result ↦ result.1.Within count)
      fun _ ↦ False := by
  obtain ⟨closed, hclosed, hwithin⟩ := @updateStatsRecord _ _ h _ (toMillis env.now) h.nonneg h.lt
  unfold Thermal.reportRecord processStatsRecordForReporting
  rw [hclosed]
  dsimp only [Option.map_some, orBadIndex, bind, Except.bind]
  split
  · exact ⟨(List.length_map _).trans hwithin.length, hwithin.nonneg, hwithin.lt⟩
  · exact h.restore _

end Records

theorem orBadIndex_eq_ok {α : Type} {result : Option α} {x : α} :
    orBadIndex result = .ok x ↔ result = some x := by
  cases result <;> simp [orBadIndex]

section Buckets

variable {α : Type} [ThresholdValue α]

/-- The search stays among the values, whatever their order. -/
theorem upperBound_le (thresholds : List α) (value : α) (fuel first len : ℕ) :
    upperBound thresholds value fuel first len ≤ first + len := by
  fun_induction upperBound thresholds value fuel first len with
  | case1 => omega
  | case2 => omega
  | case3 => omega
  | case4 fuel first len hlen half threshold hthreshold hless ih =>
    have hhalf : half = len / 2 := rfl
    omega
  | case5 fuel first len hlen half threshold hthreshold hless ih =>
    have hhalf : half = len / 2 := rfl
    omega

theorem calculateThresholdBucket_mem {thresholds : List α} (hne : thresholds ≠ []) (value : α) :
    0 ≤ calculateThresholdBucket thresholds value ∧
      calculateThresholdBucket thresholds value < (thresholds.length + 1 : ℕ) := by
  have hle := upperBound_le thresholds value thresholds.length 0 thresholds.length
  unfold calculateThresholdBucket
  rw [if_neg (by rwa [List.isEmpty_iff])]
  omega

end Buckets

/-! ## Statistics within their buckets -/

/-- Some thresholds, not too many, and a bucket more. -/
structure StatsByThreshold.Within {α : Type} (stats : StatsByThreshold α) : Prop where
  thresholds : stats.thresholds ≠ []
  count : stats.thresholds.length ≤ kMaxStatsThresholdCount
  record : stats.statsRecord.Within (stats.thresholds.length + 1)

/-- The record by default has a bucket for each of so many states. -/
structure ThermalStats.Within {α : Type} (count : ℕ) (stats : ThermalStats α) : Prop where
  custom : ∀ byThreshold ∈ stats.statsByCustomThreshold, byThreshold.Within
  byDefault : ∀ statsRecord, stats.statsByDefaultThreshold = some statsRecord →
    count ≤ kMaxStatsResidencyCount ∧ statsRecord.Within count

section Statistics

variable {α : Type} {env : StatsEnv} {count : ℕ}

theorem updateCustomStats_within [ThresholdValue α] (value : α) {custom : List (StatsByThreshold α)}
    (h : ∀ byThreshold ∈ custom, byThreshold.Within) :
    Meets (updateCustomStats env value custom)
      (fun updated ↦ ∀ byThreshold ∈ updated, byThreshold.Within) fun _ ↦ False := by
  induction custom with
  | nil => exact h
  | cons stats rest ih =>
    obtain ⟨hstats, hrest⟩ := List.forall_mem_cons.mp h
    obtain ⟨hnonneg, hlt⟩ := calculateThresholdBucket_mem hstats.thresholds value
    apply (hstats.record.updateStats hnonneg hlt).bind
    intro statsRecord hrecord
    apply (ih hrest).bind
    intro others hothers
    exact List.forall_mem_cons.mpr ⟨⟨hstats.thresholds, hstats.count, hrecord⟩, hothers⟩

theorem updateDefaultStats_within {state : ℤ} {byDefault : Option StatsRecord}
    (h : ∀ statsRecord, byDefault = some statsRecord →
      count ≤ kMaxStatsResidencyCount ∧ statsRecord.Within count)
    (hnonneg : 0 ≤ state) (hlt : byDefault.isSome → state < count) :
    Meets (updateDefaultStats env state byDefault)
      (fun updated ↦ ∀ statsRecord, updated = some statsRecord →
        count ≤ kMaxStatsResidencyCount ∧ statsRecord.Within count) fun _ ↦ False := by
  cases byDefault with
  | none => exact h
  | some statsRecord =>
    obtain ⟨hcount, hrecord⟩ := h statsRecord rfl
    apply (hrecord.updateStats hnonneg (hlt rfl)).bind
    intro updated hupdated other hother
    exact Option.some.inj hother ▸ ⟨hcount, hupdated⟩

theorem reportCustomStats_within {name : String} {atomOf : String → StatsReport → StatsAtom}
    {index : ℕ} {custom : List (StatsByThreshold α)} {sent : Sent}
    (h : ∀ byThreshold ∈ custom, byThreshold.Within) :
    Meets (reportCustomStats env name atomOf index custom sent)
      (fun result ↦ ∀ byThreshold ∈ result.1, byThreshold.Within) fun _ ↦ False := by
  induction custom generalizing index sent with
  | nil => exact h
  | cons stats rest ih =>
    obtain ⟨hstats, hrest⟩ := List.forall_mem_cons.mp h
    apply (hstats.record.reportRecord _ sent).bind
    rintro ⟨statsRecord, sent'⟩ hrecord
    apply (ih hrest).bind
    rintro ⟨others, sent''⟩ hothers
    exact List.forall_mem_cons.mpr ⟨⟨hstats.thresholds, hstats.count, hrecord⟩, hothers⟩

theorem ThermalStats.Within.report {name : String} {atomOf : String → StatsReport → StatsAtom}
    {stats : ThermalStats α} (h : stats.Within count) (sent : Sent) :
    Meets (reportThermalStats env name atomOf stats sent) (fun result ↦ result.1.Within count)
      fun _ ↦ False := by
  apply (reportCustomStats_within h.custom).bind
  rintro ⟨custom, sent'⟩ hcustom
  cases hdefault : stats.statsByDefaultThreshold with
  | none => exact ⟨hcustom, fun _ hsome ↦ nomatch hsome⟩
  | some statsRecord =>
    obtain ⟨hcount, hrecord⟩ := h.byDefault statsRecord hdefault
    apply (hrecord.reportRecord _ sent').bind
    rintro ⟨reported, sent''⟩ hreported
    exact ⟨hcustom, fun other hother ↦ Option.some.inj hother ▸ ⟨hcount, hreported⟩⟩

end Statistics

/-! ## The helper within its buckets -/

/-- There are as many severities. -/
def TempsWithin (tempStatsMap : UnorderedMap String SensorTempStats) : Prop :=
  ∀ sensor stats, tempStatsMap.lookup sensor = some stats →
    stats.toThermalStats.Within kThrottlingSeverityCount

/-- A device has one state more than its greatest one. -/
def RequestsWithin (coolingDeviceInfoMap : CdevInfoMap) (requestStats : CdevRequestStats) : Prop :=
  ∀ cdev stats, requestStats.lookup cdev = some stats →
    ∃ info, coolingDeviceInfoMap.lookup cdev = some info ∧ stats.Within (info.maxState + 1).toNat

structure ThermalStatsHelper.Within (coolingDeviceInfoMap : CdevInfoMap) (helper : ThermalStatsHelper) :
    Prop where
  temps : TempsWithin helper.sensorStats.tempStatsMap
  requests : ∀ sensor requestStats, helper.sensorCdevRequestStatsMap.lookup sensor = some requestStats →
    RequestsWithin coolingDeviceInfoMap requestStats

/-- A vote is one of the states of its device. -/
def StatsHelperStep.VoteInRange (coolingDeviceInfoMap : CdevInfoMap) : StatsHelperStep → Prop
  | .request _ _ cdev value => ∀ info, coolingDeviceInfoMap.lookup cdev = some info →
      0 ≤ value ∧ value ≤ info.maxState
  | _ => True

section Steps

variable {coolingDeviceInfoMap : CdevInfoMap} {helper : ThermalStatsHelper} {env : StatsEnv}

theorem ThermalStatsHelper.Within.temperature (h : helper.Within coolingDeviceInfoMap) (sensor : String)
    (temperature : ExactFloat) :
    Meets (updateSensorTempStatsByThreshold env sensor temperature helper)
      (fun result ↦ result.1.Within coolingDeviceInfoMap) fun _ ↦ False := by
  have htemps := verifySensorAbnormality_tempStatsMap env sensor temperature helper
  have hrequests := verifySensorAbnormality_sensorCdevRequestStatsMap env sensor temperature helper
  unfold updateSensorTempStatsByThreshold
  generalize verifySensorAbnormality env sensor temperature helper = verified at *
  obtain ⟨verified, sent⟩ := verified
  dsimp only at *
  have hverified : verified.Within coolingDeviceInfoMap := by
    refine ⟨?_, ?_⟩
    · rw [htemps]
      exact h.temps
    · rw [hrequests]
      exact h.requests
  cases hstats : verified.sensorStats.tempStatsMap.lookup sensor with
  | none => exact hverified
  | some stats =>
    have hwithin := hverified.temps sensor stats hstats
    apply (updateCustomStats_within temperature hwithin.custom).bind
    intro custom hcustom
    refine ⟨forall_lookup_assign hverified.temps ⟨?_, ?_⟩, hverified.requests⟩
    · unfold SensorTempStats.observe
      dsimp only
      split <;> split <;> exact hcustom
    · unfold SensorTempStats.observe
      dsimp only
      split <;> split <;> exact hwithin.byDefault

theorem toNat_lt_kThrottlingSeverityCount (severity : ThrottlingSeverity) :
    severity.toNat < kThrottlingSeverityCount := by
  cases severity <;> decide

theorem ThermalStatsHelper.Within.severity (h : helper.Within coolingDeviceInfoMap) (sensor : String)
    (severity : ThrottlingSeverity) :
    Meets (updateSensorTempStatsBySeverity env sensor severity helper)
      (fun result ↦ result.Within coolingDeviceInfoMap) fun _ ↦ False := by
  unfold updateSensorTempStatsBySeverity
  cases hstats : helper.sensorStats.tempStatsMap.lookup sensor with
  | none => exact h
  | some stats =>
    have hwithin := h.temps sensor stats hstats
    have hlt := toNat_lt_kThrottlingSeverityCount severity
    apply (updateDefaultStats_within hwithin.byDefault (Int.natCast_nonneg _)
      fun _ ↦ Int.ofNat_lt.mpr hlt).bind
    intro byDefault hdefault
    exact ⟨forall_lookup_assign h.temps ⟨hwithin.custom, hdefault⟩, h.requests⟩

theorem ThermalStatsHelper.Within.request (h : helper.Within coolingDeviceInfoMap) (sensor : String)
    {cdev : String} {value : ℤ}
    (hvalue : ∀ info, coolingDeviceInfoMap.lookup cdev = some info → 0 ≤ value ∧ value ≤ info.maxState) :
    Meets (updateSensorCdevRequestStats env sensor cdev value helper)
      (fun result ↦ result.Within coolingDeviceInfoMap) fun _ ↦ False := by
  unfold updateSensorCdevRequestStats
  cases hrequests : helper.sensorCdevRequestStatsMap.lookup sensor with
  | none => exact h
  | some requestStats =>
    dsimp only
    cases hstats : requestStats.lookup cdev with
    | none => exact h
    | some stats =>
      have hsensor := h.requests sensor requestStats hrequests
      obtain ⟨info, hinfo, hwithin⟩ := hsensor cdev stats hstats
      obtain ⟨hnonneg, hle⟩ := hvalue info hinfo
      apply (updateCustomStats_within value hwithin.custom).bind
      intro custom hcustom
      apply (updateDefaultStats_within hwithin.byDefault hnonneg fun _ ↦ by omega).bind
      intro byDefault hdefault
      refine ⟨h.temps, forall_lookup_assign h.requests ?_⟩
      exact forall_lookup_assign hsensor ⟨info, hinfo, hcustom, hdefault⟩

theorem TempsWithin.report {tempStatsMap : UnorderedMap String SensorTempStats}
    (h : TempsWithin tempStatsMap) (sent : Sent) :
    Meets (reportAllSensorTempStats env tempStatsMap sent) (fun result ↦ TempsWithin result.1)
      fun _ ↦ False := by
  apply meets_assignEachWith_values
  intro sensor stats sent hstats
  apply ((h sensor stats hstats).report sent).bind
  exact fun _ hwithin ↦ hwithin

theorem RequestsWithin.report {requestStats : CdevRequestStats}
    (h : RequestsWithin coolingDeviceInfoMap requestStats) (sensor : String) (sent : Sent) :
    Meets (reportSensorRequestStats env sensor requestStats sent)
      (fun result ↦ RequestsWithin coolingDeviceInfoMap result.1) fun _ ↦ False := by
  apply meets_assignEachWith_values
  intro cdev stats sent hstats
  obtain ⟨info, hinfo, hwithin⟩ := h cdev stats hstats
  exact (hwithin.report sent).imp fun _ hreported ↦ ⟨info, hinfo, hreported⟩

theorem ThermalStatsHelper.Within.report (h : helper.Within coolingDeviceInfoMap) :
    Meets (helper.reportStats env) (fun result ↦ result.1.Within coolingDeviceInfoMap)
      fun _ ↦ False := by
  unfold ThermalStatsHelper.reportStats
  split
  · apply (h.temps.report nothingSent).bind
    rintro ⟨tempStatsMap, sent⟩ htemps
    have hrequests : Meets
        (reportAllSensorCdevRequestStats env helper.sensorCdevRequestStatsMap sent)
        (fun result ↦ ∀ sensor requestStats, result.1.lookup sensor = some requestStats →
          RequestsWithin coolingDeviceInfoMap requestStats) fun _ ↦ False := by
      apply meets_assignEachWith_values
      exact fun sensor requestStats sent hlookup ↦ (h.requests sensor requestStats hlookup).report _ _
    apply hrequests.bind
    rintro ⟨requestStatsMap, sent'⟩ hafter
    exact ⟨htemps, hafter⟩
  · exact h

/-- No step leaves the buckets or meets a state without one. -/
theorem ThermalStatsHelper.Within.step (h : helper.Within coolingDeviceInfoMap) {step : StatsHelperStep}
    (hstep : step.VoteInRange coolingDeviceInfoMap) :
    Meets (helper.step step) (fun result ↦ result.1.Within coolingDeviceInfoMap) fun _ ↦ False := by
  cases step with
  | temperature env sensor temperature => exact (h.temperature sensor temperature).bind fun _ ↦ id
  | severity env sensor severity => exact (h.severity sensor severity).bind fun _ ↦ id
  | request env sensor cdev value => exact (h.request sensor hstep).bind fun _ ↦ id
  | report env => exact h.report.bind fun _ ↦ id

end Steps

/-! ## Runs -/

def helperStep (helper : ThermalStatsHelper) (step : StatsHelperStep) :
    Option (ThermalStatsHelper × List StatsAtom) :=
  (helper.step step).toOption

/-- A run never stops, and stays within the buckets. -/
theorem ThermalStatsHelper.Within.run {coolingDeviceInfoMap : CdevInfoMap} {helper : ThermalStatsHelper}
    (h : helper.Within coolingDeviceInfoMap) {steps : List StatsHelperStep}
    (hsteps : ∀ step ∈ steps, step.VoteInRange coolingDeviceInfoMap) :
    ∃ final sent, runSteps helperStep helper steps = some (final, sent) ∧
      final.Within coolingDeviceInfoMap := by
  induction steps using List.reverseRecOn with
  | nil => exact ⟨helper, [], rfl, h⟩
  | append_singleton steps step ih =>
    obtain ⟨middle, sent, hrun, hmiddle⟩ :=
      ih fun other hmem ↦ hsteps other (List.mem_append_left _ hmem)
    have hstep := hmiddle.step (hsteps step List.mem_append_cons_self)
    cases hresult : middle.step step with
    | error fault => exact (hstep.of_error hresult).elim
    | ok result =>
      refine ⟨result.1, sent ++ result.2, ?_, hstep.of_ok hresult⟩
      apply runSteps_append_singleton helperStep hrun
      unfold helperStep
      rw [hresult]
      rfl

/-! ## The discipline -/

def ThermalStats.records {α : Type} (stats : ThermalStats α) : List StatsRecord :=
  stats.statsByCustomThreshold.map StatsByThreshold.statsRecord ++ stats.statsByDefaultThreshold.toList

/-- The records of a helper. -/
inductive ThermalStatsHelper.HasRecord (helper : ThermalStatsHelper) : StatsRecord → Prop
  | temps {sensor : String} {stats : SensorTempStats} {statsRecord : StatsRecord}
      (hstats : helper.sensorStats.tempStatsMap.lookup sensor = some stats)
      (hrecord : statsRecord ∈ stats.records) : helper.HasRecord statsRecord
  | requests {sensor cdev : String} {requestStats : CdevRequestStats} {stats : ThermalStats ℤ}
      {statsRecord : StatsRecord}
      (hrequests : helper.sensorCdevRequestStatsMap.lookup sensor = some requestStats)
      (hstats : requestStats.lookup cdev = some stats) (hrecord : statsRecord ∈ stats.records) :
      helper.HasRecord statsRecord

/-- There are not too many buckets, and the state has one. -/
structure StatsRecord.Disciplined (statsRecord : StatsRecord) : Prop where
  count : statsRecord.timeInStateMs.length ≤ kMaxStatsResidencyCount
  nonneg : 0 ≤ statsRecord.curState
  lt : statsRecord.curState < statsRecord.timeInStateMs.length

/-- Whatever temperatures, severities, votes in range and reports follow: the helper goes on, and all its
records are disciplined. -/
def BucketDiscipline (coolingDeviceInfoMap : CdevInfoMap) (helper : ThermalStatsHelper) : Prop :=
  ∀ steps : List StatsHelperStep, (∀ step ∈ steps, step.VoteInRange coolingDeviceInfoMap) →
    ∃ final sent, runSteps helperStep helper steps = some (final, sent) ∧
      ∀ statsRecord, final.HasRecord statsRecord → statsRecord.Disciplined

theorem StatsRecord.Within.disciplined {count : ℕ} {statsRecord : StatsRecord}
    (h : statsRecord.Within count) (hcount : count ≤ kMaxStatsResidencyCount) :
    statsRecord.Disciplined where
  count := h.length ▸ hcount
  nonneg := h.nonneg
  lt := h.length ▸ h.lt

theorem ThermalStats.Within.disciplined {α : Type} {count : ℕ} {stats : ThermalStats α}
    (h : stats.Within count) {statsRecord : StatsRecord} (hrecord : statsRecord ∈ stats.records) :
    statsRecord.Disciplined := by
  rcases List.mem_append.mp hrecord with hcustom | hdefault
  · obtain ⟨byThreshold, hmem, rfl⟩ := List.mem_map.mp hcustom
    have hwithin := h.custom byThreshold hmem
    exact hwithin.record.disciplined (Nat.succ_le_succ hwithin.count)
  · obtain ⟨hcount, hwithin⟩ := h.byDefault statsRecord (Option.mem_toList.mp hdefault)
    exact hwithin.disciplined hcount

theorem ThermalStatsHelper.Within.bucketDiscipline {coolingDeviceInfoMap : CdevInfoMap}
    {helper : ThermalStatsHelper} (h : helper.Within coolingDeviceInfoMap) :
    BucketDiscipline coolingDeviceInfoMap helper := by
  intro steps hsteps
  obtain ⟨final, sent, hrun, hfinal⟩ := h.run hsteps
  refine ⟨final, sent, hrun, fun statsRecord hrecord ↦ ?_⟩
  cases hrecord with
  | temps hstats hrecord => exact (hfinal.temps _ _ hstats).disciplined hrecord
  | requests hrequests hstats hrecord =>
    obtain ⟨info, -, hwithin⟩ := hfinal.requests _ _ hrequests _ _ hstats
    exact hwithin.disciplined hrecord

end HardwareMediatek.Thermal
