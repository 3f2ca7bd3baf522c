import HardwareMediatek.Foundation.RunningExtremes
import HardwareMediatek.Thermal.ThermalStats

/-!
# Extremes of temperatures

Between two reports the greatest and the least temperature of a sensor are kept. They start at the smallest
positive normal number and at the largest number, at the beginning and after every report. The first of
these is above every temperature at or below zero.
-/

namespace HardwareMediatek.Thermal

open Foundation UnorderedMap

/-! ## Atoms of a report -/

section Atoms

variable {env : StatsEnv} {sent sent' : Sent}

/-- The atoms that are added have a property. -/
def Adds (P : StatsAtom → Prop) (sent sent' : Sent) : Prop :=
  ∃ new, sent'.atoms = sent.atoms ++ new ∧ ∀ atom ∈ new, P atom

theorem Adds.refl (P : StatsAtom → Prop) (sent : Sent) : Adds P sent sent :=
  ⟨[], (List.append_nil _).symm, fun _ hmem ↦ absurd hmem List.not_mem_nil⟩

theorem Adds.trans {P : StatsAtom → Prop} {sent'' : Sent} (h : Adds P sent sent')
    (h' : Adds P sent' sent'') : Adds P sent sent'' := by
  obtain ⟨new, hnew, hP⟩ := h
  obtain ⟨new', hnew', hP'⟩ := h'
  refine ⟨new ++ new', by rw [hnew', hnew, List.append_assoc], fun atom hmem ↦ ?_⟩
  exact (List.mem_append.mp hmem).elim (hP atom) (hP' atom)

theorem Adds.mono {P Q : StatsAtom → Prop} (h : Adds P sent sent') (hPQ : ∀ atom, P atom → Q atom) :
    Adds Q sent sent' := by
  obtain ⟨new, hnew, hP⟩ := h
  exact ⟨new, hnew, fun atom hmem ↦ hPQ atom (hP atom hmem)⟩

/-- What has a property before and after has it all along. -/
theorem Adds.all {P : StatsAtom → Prop} (h : Adds P sent sent') (hsent : ∀ atom ∈ sent.atoms, P atom) :
    ∀ atom ∈ sent'.atoms, P atom := by
  obtain ⟨new, hnew, hP⟩ := h
  rw [hnew]
  exact fun atom hmem ↦ (List.mem_append.mp hmem).elim (hsent atom) (hP atom)

theorem reportRecord_adds {atomOf : StatsReport → StatsAtom} {statsRecord statsRecord' : StatsRecord}
    (h : reportRecord env atomOf statsRecord sent = .ok (statsRecord', sent')) :
    Adds (fun atom ↦ ∃ report, atom = atomOf report) sent sent' := by
  obtain ⟨processed, -, h⟩ := bind_eq_ok.mp h
  dsimp only at h
  split at h
  · obtain ⟨-, rfl⟩ := ok_pair h
    exact ⟨_, rfl, fun atom hmem ↦ ⟨_, List.mem_singleton.mp hmem⟩⟩
  · obtain ⟨-, rfl⟩ := ok_pair h
    exact ⟨_, rfl, fun atom hmem ↦ ⟨_, List.mem_singleton.mp hmem⟩⟩

theorem reportCustomStats_adds {α : Type} {name : String} {atomOf : String → StatsReport → StatsAtom}
    {index : ℕ} {records records' : List (StatsByThreshold α)}
    (h : reportCustomStats env name atomOf index records sent = .ok (records', sent')) :
    Adds (fun atom ↦ ∃ name report, atom = atomOf name report) sent sent' := by
  induction records generalizing index records' sent with
  | nil =>
    obtain ⟨-, rfl⟩ := ok_pair h
    exact Adds.refl _ _
  | cons stats rest ih =>
    obtain ⟨⟨statsRecord, middle⟩, hrecord, h⟩ := bind_eq_ok.mp h
    obtain ⟨⟨rest', final⟩, hrest, h⟩ := bind_eq_ok.mp h
    obtain ⟨-, rfl⟩ := ok_pair h
    apply Adds.trans _ (ih hrest)
    exact (reportRecord_adds hrecord).mono fun atom ⟨report, hatom⟩ ↦ ⟨_, report, hatom⟩

theorem reportThermalStats_adds {α : Type} {name : String} {atomOf : String → StatsReport → StatsAtom}
    {stats stats' : ThermalStats α}
    (h : reportThermalStats env name atomOf stats sent = .ok (stats', sent')) :
    Adds (fun atom ↦ ∃ name report, atom = atomOf name report) sent sent' := by
  obtain ⟨⟨custom, middle⟩, hcustom, h⟩ := bind_eq_ok.mp h
  have hadds := reportCustomStats_adds hcustom
  dsimp only at h
  split at h
  · obtain ⟨-, rfl⟩ := ok_pair h
    exact hadds
  · obtain ⟨⟨statsRecord, final⟩, hrecord, h⟩ := bind_eq_ok.mp h
    obtain ⟨-, rfl⟩ := ok_pair h
    apply hadds.trans
    exact (reportRecord_adds hrecord).mono fun atom ⟨report, hatom⟩ ↦ ⟨_, report, hatom⟩

/-- An atom about a temperature carries the extremes of its sensor. -/
def CarriesExtremes (tempStatsMap : UnorderedMap String SensorTempStats) : StatsAtom → Prop
  | .tempResidency sensor _ _ maxTemp _ minTemp _ => ∃ stats,
      tempStatsMap.lookup sensor = some stats ∧ maxTemp = stats.maxTemp ∧ minTemp = stats.minTemp
  | _ => True

/-- The records of one sensor. -/
theorem reportTempStats_adds {tempStatsMap : UnorderedMap String SensorTempStats} {sensor : String}
    {stats stats' : SensorTempStats} (hstats : tempStatsMap.lookup sensor = some stats)
    (h : reportTempStats env sensor stats sent = .ok (stats', sent')) :
    Adds (CarriesExtremes tempStatsMap) sent sent' ∧ stats'.maxTemp = floatMin ∧
      stats'.minTemp = floatMax := by
  obtain ⟨⟨records, final⟩, hrecords, h⟩ := bind_eq_ok.mp h
  obtain ⟨rfl, rfl⟩ := ok_pair h
  refine ⟨(reportThermalStats_adds hrecords).mono ?_, rfl, rfl⟩
  rintro atom ⟨name, report, rfl⟩
  exact ⟨stats, hstats, rfl, rfl⟩

theorem reportAllSensorTempStats_restarts {tempStatsMap tempStatsMap' : UnorderedMap String SensorTempStats}
    (h : reportAllSensorTempStats env tempStatsMap nothingSent = .ok (tempStatsMap', sent')) :
    (∀ sensor stats, tempStatsMap'.lookup sensor = some stats →
        stats.maxTemp = floatMin ∧ stats.minTemp = floatMax) ∧
      ∀ atom ∈ sent'.atoms, CarriesExtremes tempStatsMap atom := by
  have hloop := of_assignEachWith
    (fun _ _ stats ↦ stats.maxTemp = floatMin ∧ stats.minTemp = floatMax)
    (fun sent ↦ ∀ atom ∈ sent.atoms, CarriesExtremes tempStatsMap atom) ?_ ?_ h
  · obtain ⟨hkeys, hatoms, hdone⟩ := hloop
    refine ⟨fun sensor stats hlookup ↦ ?_, hatoms⟩
    have hmem := (mem_iff_of_keys_eq hkeys sensor).mp (mem_of_lookup hlookup)
    obtain ⟨before, hbefore⟩ := mem_iff_lookup.mp hmem
    obtain ⟨after, hafter, hrestarted⟩ := hdone sensor before hbefore
    rw [hlookup] at hafter
    exact Option.some.inj hafter ▸ hrestarted
  · intro sensor stats sent stats' sent' hstats hatoms hround
    obtain ⟨hadds, hmax, hmin⟩ := reportTempStats_adds hstats hround
    exact ⟨⟨hmax, hmin⟩, hadds.all hatoms⟩
  · exact fun _ hmem ↦ absurd hmem List.not_mem_nil

/-- Requests are reported by atoms of their own. -/
theorem reportAllSensorCdevRequestStats_adds
    {tempStatsMap : UnorderedMap String SensorTempStats}
    {requestStatsMap requestStatsMap' : UnorderedMap String CdevRequestStats}
    (h : reportAllSensorCdevRequestStats env requestStatsMap sent = .ok (requestStatsMap', sent'))
    (hsent : ∀ atom ∈ sent.atoms, CarriesExtremes tempStatsMap atom) :
    ∀ atom ∈ sent'.atoms, CarriesExtremes tempStatsMap atom := by
  refine (of_assignEachWith (fun _ _ _ ↦ True)
    (fun sent ↦ ∀ atom ∈ sent.atoms, CarriesExtremes tempStatsMap atom) ?_ hsent h).2.1
  intro sensor requestStats sent requestStats' sent' _ hsent hround
  refine ⟨trivial, (of_assignEachWith (fun _ _ _ ↦ True)
    (fun sent ↦ ∀ atom ∈ sent.atoms, CarriesExtremes tempStatsMap atom) ?_ hsent hround).2.1⟩
  intro cdev stats sent stats' sent' _ hsent hround
  refine ⟨trivial, Adds.all ((reportThermalStats_adds hround).mono ?_) hsent⟩
  rintro atom ⟨name, report, rfl⟩
  trivial

end Atoms

/-! ## The order of temperatures -/

/-- A value that is a number. -/
def IsNumber (x : ExactFloat) : Prop := x.isNaN = false

theorem linearOnValid_lt : LinearOnValid (fun x y : ExactFloat ↦ x < y) IsNumber where
  validBoth hlt := ⟨ExactFloat.isNaN_left_of_lt hlt, ExactFloat.isNaN_right_of_lt hlt⟩
  irrefl := ExactFloat.lt_irrefl
  trans := ExactFloat.lt_trans
  total {x y} hx hy := by
    by_cases hlt : y < x
    · exact Or.inr (Or.inr hlt)
    · exact (ExactFloat.le_of_not_lt hx hy hlt).imp id fun hsame ↦ Or.inl hsame.1

/-- One of the temperatures, which no temperature is above. -/
abbrev IsMaximum (temp : ExactFloat) (temps : List ExactFloat) : Prop :=
  IsExtreme (fun x y : ExactFloat ↦ x < y) IsNumber temp temps

abbrev IsMinimum (temp : ExactFloat) (temps : List ExactFloat) : Prop :=
  IsExtreme (fun x y : ExactFloat ↦ y < x) IsNumber temp temps

/-- What the helper keeps as the greatest of some temperatures. -/
def runningMax (temps : List ExactFloat) : ExactFloat :=
  runningExtreme (fun x y : ExactFloat ↦ x < y) floatMin temps

def runningMin (temps : List ExactFloat) : ExactFloat :=
  runningExtreme (fun x y : ExactFloat ↦ y < x) floatMax temps

theorem isMaximum_runningMax_iff {temps : List ExactFloat} :
    IsMaximum (runningMax temps) temps ↔ ∃ temp ∈ temps, floatMin ≤ temp := by
  calc
    IsMaximum (runningMax temps) temps ↔ ∃ temp ∈ temps, IsNumber temp ∧ ¬ temp < floatMin :=
      isExtreme_runningExtreme_iff linearOnValid_lt (show IsNumber floatMin from rfl)
    _ ↔ ∃ temp ∈ temps, floatMin ≤ temp := ?_
  apply exists_congr
  intro temp
  apply and_congr_right
  intro _
  constructor
  · rintro ⟨hnumber, hnot⟩
    exact ExactFloat.le_of_not_lt rfl hnumber hnot
  · intro hle
    have hnumber : IsNumber temp :=
      hle.elim ExactFloat.isNaN_right_of_lt fun hsame ↦ hsame.1 ▸ hsame.2
    exact ⟨hnumber, fun hlt ↦ ExactFloat.lt_irrefl _ (ExactFloat.lt_of_le_of_lt hle hlt)⟩

theorem isMinimum_runningMin_iff {temps : List ExactFloat} :
    IsMinimum (runningMin temps) temps ↔ ∃ temp ∈ temps, temp ≤ floatMax := by
  calc
    IsMinimum (runningMin temps) temps ↔ ∃ temp ∈ temps, IsNumber temp ∧ ¬ floatMax < temp :=
      isExtreme_runningExtreme_iff linearOnValid_lt.flip (show IsNumber floatMax from rfl)
    _ ↔ ∃ temp ∈ temps, temp ≤ floatMax := ?_
  apply exists_congr
  intro temp
  apply and_congr_right
  intro _
  constructor
  · rintro ⟨hnumber, hnot⟩
    exact ExactFloat.le_of_not_lt hnumber rfl hnot
  · intro hle
    have hnumber : IsNumber temp :=
      hle.elim ExactFloat.isNaN_left_of_lt And.right
    exact ⟨hnumber, fun hlt ↦ ExactFloat.lt_irrefl _ (ExactFloat.lt_of_lt_of_le hlt hle)⟩

/-! ## Runs -/

/-- The temperatures of each sensor since the last report that was due. -/
abbrev History := String → List ExactFloat

/-- The helper, with the temperatures that its extremes stand for. -/
structure Observed where
  helper : ThermalStatsHelper
  history : History

def nextHistory (helper : ThermalStatsHelper) (history : History) : StatsHelperStep → History
  | .temperature _ sensor temperature =>
    Function.update history sensor (history sensor ++ [temperature])
  | .report env => if reportIsDue env helper then fun _ ↦ [] else history
  | _ => history

def Observed.step (s : Observed) (step : StatsHelperStep) : Option (Observed × List StatsAtom) :=
  (s.helper.step step).toOption.map fun (helper, atoms) ↦
    (⟨helper, nextHistory s.helper s.history step⟩, atoms)

/-- The extremes of every sensor are those of its temperatures. -/
def ExtremesKept (tempStatsMap : UnorderedMap String SensorTempStats) (history : History) : Prop :=
  ∀ sensor stats, tempStatsMap.lookup sensor = some stats →
    stats.maxTemp = runningMax (history sensor) ∧ stats.minTemp = runningMin (history sensor)

/-- No temperature has been observed. -/
def ExtremesFresh (tempStatsMap : UnorderedMap String SensorTempStats) : Prop :=
  ∀ sensor stats, tempStatsMap.lookup sensor = some stats →
    stats.maxTemp = floatMin ∧ stats.minTemp = floatMax

theorem ExtremesFresh.kept {tempStatsMap : UnorderedMap String SensorTempStats}
    (h : ExtremesFresh tempStatsMap) : ExtremesKept tempStatsMap fun _ ↦ [] := h

theorem ExtremesFresh.changeOrCreate {tempStatsMap : UnorderedMap String SensorTempStats}
    (h : ExtremesFresh tempStatsMap) (sensor : String) {change : SensorTempStats → SensorTempStats}
    (hchange : ∀ stats, (change stats).maxTemp = stats.maxTemp ∧
      (change stats).minTemp = stats.minTemp) :
    ExtremesFresh (changeOrCreate tempStatsMap sensor newSensorTempStats change) := by
  intro other stats hlookup
  unfold Thermal.changeOrCreate at hlookup
  rw [lookup_put] at hlookup
  split at hlookup
  · obtain rfl := Option.some.inj hlookup
    rw [(hchange _).1, (hchange _).2]
    cases hbefore : tempStatsMap.lookup sensor with
    | none => exact ⟨rfl, rfl⟩
    | some before => exact h sensor before hbefore
  · exact h other stats hlookup

theorem extremesFresh_initializeSensorTempStats (info : StatsInfo ExactFloat)
    (sensorInfoMap : SensorInfoMap) (nowMs : ℤ) :
    ExtremesFresh (initializeSensorTempStats info sensorInfoMap nowMs) := by
  have hempty : ExtremesFresh ∅ := by
    intro sensor stats hlookup
    rw [AList.lookup_empty] at hlookup
    cases hlookup
  apply List.foldlRecOn sensorInfoMap.entries (addTempStats info nowMs) hempty
  intro tempStatsMap hfresh entry _
  unfold addTempStats
  apply List.foldlRecOn _ _ _
  · intro tempStatsMap hfresh thresholdList _
    exact hfresh.changeOrCreate entry.1 fun _ ↦ ⟨rfl, rfl⟩
  · split
    · exact hfresh.changeOrCreate entry.1 fun _ ↦ ⟨rfl, rfl⟩
    · exact hfresh

theorem observe_maxTemp (env : StatsEnv) (temperature : ExactFloat) (stats : SensorTempStats) :
    (stats.observe env temperature).maxTemp =
      if stats.maxTemp < temperature then temperature else stats.maxTemp := by
  unfold SensorTempStats.observe
  dsimp only
  split <;> split <;> rfl

theorem observe_minTemp (env : StatsEnv) (temperature : ExactFloat) (stats : SensorTempStats) :
    (stats.observe env temperature).minTemp =
      if temperature < stats.minTemp then temperature else stats.minTemp := by
  unfold SensorTempStats.observe
  dsimp only
  by_cases hmax : stats.maxTemp < temperature
  · rw [if_pos hmax]
    split <;> rfl
  · rw [if_neg hmax]
    split <;> rfl

section Steps

variable {helper helper' : ThermalStatsHelper} {history : History} {env : StatsEnv} {sensor : String}

/-- A temperature is observed. -/
theorem ExtremesKept.temperature {temperature : ExactFloat} {sent : Sent}
    (h : ExtremesKept helper.sensorStats.tempStatsMap history)
    (hstep : updateSensorTempStatsByThreshold env sensor temperature helper = .ok (helper', sent)) :
    ExtremesKept helper'.sensorStats.tempStatsMap
      (Function.update history sensor (history sensor ++ [temperature])) := by
  have hsame := verifySensorAbnormality_tempStatsMap env sensor temperature helper
  unfold updateSensorTempStatsByThreshold at hstep
  dsimp only at hstep
  rw [hsame] at hstep
  intro other stats hlookup
  cases hown : helper.sensorStats.tempStatsMap.lookup sensor with
  | none =>
    rw [hown] at hstep
    obtain ⟨rfl, -⟩ := ok_pair hstep
    rw [hsame] at hlookup
    have hne : other ≠ sensor := by
      rintro rfl
      rw [hown] at hlookup
      cases hlookup
    rw [Function.update_of_ne hne]
    exact h other stats hlookup
  | some before =>
    rw [hown] at hstep
    obtain ⟨custom, -, hstep⟩ := bind_eq_ok.mp hstep
    obtain ⟨rfl, -⟩ := ok_pair hstep
    dsimp only at hlookup
    by_cases hname : other = sensor
    · subst hname
      rw [lookup_assign_of_mem _ (mem_of_lookup hown)] at hlookup
      obtain rfl := Option.some.inj hlookup
      obtain ⟨hmax, hmin⟩ := h other before hown
      rw [observe_maxTemp, observe_minTemp, Function.update_self]
      unfold runningMax runningMin
      rw [runningExtreme_concat, runningExtreme_concat]
      dsimp only
      rw [hmax, hmin]
      exact ⟨rfl, rfl⟩
    · rw [lookup_assign_ne _ _ hname] at hlookup
      rw [Function.update_of_ne hname]
      exact h other stats hlookup

/-- Whatever else changes the statistics of a sensor leaves its extremes. -/
theorem ExtremesKept.assign {tempStatsMap : UnorderedMap String SensorTempStats}
    (h : ExtremesKept tempStatsMap history) {before after : SensorTempStats}
    (hbefore : tempStatsMap.lookup sensor = some before)
    (hsame : after.maxTemp = before.maxTemp ∧ after.minTemp = before.minTemp) :
    ExtremesKept (tempStatsMap.assign sensor after) history := by
  intro other stats hlookup
  by_cases hname : other = sensor
  · subst hname
    rw [lookup_assign_of_mem _ (mem_of_lookup hbefore)] at hlookup
    obtain rfl := Option.some.inj hlookup
    rw [hsame.1, hsame.2]
    exact h other before hbefore
  · rw [lookup_assign_ne _ _ hname] at hlookup
    exact h other stats hlookup

theorem reportStats_extremes {sent : Sent} (hdue : reportIsDue env helper = true)
    (hstep : helper.reportStats env = .ok (helper', sent)) :
    ExtremesFresh helper'.sensorStats.tempStatsMap ∧
      ∀ atom ∈ sent.atoms, CarriesExtremes helper.sensorStats.tempStatsMap atom := by
  unfold ThermalStatsHelper.reportStats at hstep
  rw [if_pos hdue] at hstep
  obtain ⟨⟨tempStatsMap, middle⟩, htemp, hstep⟩ := bind_eq_ok.mp hstep
  obtain ⟨⟨requestStatsMap, final⟩, hrequest, hstep⟩ := bind_eq_ok.mp hstep
  obtain ⟨rfl, rfl⟩ := ok_pair hstep
  obtain ⟨hfresh, hatoms⟩ := reportAllSensorTempStats_restarts htemp
  exact ⟨hfresh, reportAllSensorCdevRequestStats_adds hrequest hatoms⟩

theorem reportStats_of_not_due {sent : Sent} (hdue : reportIsDue env helper = false)
    (hstep : helper.reportStats env = .ok (helper', sent)) : helper' = helper ∧ sent.atoms = [] := by
  unfold ThermalStatsHelper.reportStats at hstep
  rw [if_neg (by rw [hdue]; decide)] at hstep
  obtain ⟨rfl, rfl⟩ := ok_pair hstep
  exact ⟨rfl, rfl⟩

/-- What a step does to the extremes, for every kind of step. -/
theorem ExtremesKept.step {step : StatsHelperStep} {atoms : List StatsAtom}
    (h : ExtremesKept helper.sensorStats.tempStatsMap history)
    (hstep : helper.step step = .ok (helper', atoms)) :
    ExtremesKept helper'.sensorStats.tempStatsMap (nextHistory helper history step) := by
  cases step with
  | temperature env sensor temperature =>
    obtain ⟨⟨after, sent⟩, hupdate, hstep⟩ := bind_eq_ok.mp hstep
    obtain ⟨rfl, -⟩ := ok_pair hstep
    exact h.temperature hupdate
  | severity env sensor severity =>
    obtain ⟨after, hupdate, hstep⟩ := bind_eq_ok.mp hstep
    obtain ⟨rfl, -⟩ := ok_pair hstep
    obtain rfl | ⟨stats, default, hstats, rfl⟩ := updateSensorTempStatsBySeverity_cases hupdate
    · exact h
    · exact h.assign hstats ⟨rfl, rfl⟩
  | request env sensor cdev value =>
    obtain ⟨after, hupdate, hstep⟩ := bind_eq_ok.mp hstep
    obtain ⟨rfl, -⟩ := ok_pair hstep
    rw [updateSensorCdevRequestStats_sensorStats hupdate]
    exact h
  | report env =>
    obtain ⟨⟨after, sent⟩, hreport, hstep⟩ := bind_eq_ok.mp hstep
    obtain ⟨rfl, -⟩ := ok_pair hstep
    unfold nextHistory
    dsimp only
    cases hdue : reportIsDue env helper with
    | true =>
      rw [if_pos rfl]
      exact (reportStats_extremes hdue hreport).1.kept
    | false =>
      rw [if_neg Bool.false_ne_true, (reportStats_of_not_due hdue hreport).1]
      exact h

end Steps

theorem ExtremesKept.observedStep {s s' : Observed} {step : StatsHelperStep} {atoms : List StatsAtom}
    (h : ExtremesKept s.helper.sensorStats.tempStatsMap s.history)
    (hstep : s.step step = some (s', atoms)) :
    ExtremesKept s'.helper.sensorStats.tempStatsMap s'.history := by
  unfold Observed.step at hstep
  obtain ⟨⟨helper, sent⟩, hhelper, hsame⟩ := Option.map_eq_some_iff.mp hstep
  obtain ⟨rfl, -⟩ := Prod.mk.inj hsame
  exact h.step (toOption_eq_some hhelper)

section Initialized

variable {config : ParsedStats} {sensorInfoMap : SensorInfoMap} {coolingDeviceInfoMap : CdevInfoMap}
  {now : ℤ} {helper : ThermalStatsHelper}

theorem extremesFresh_initializeStats
    (hinit : initializeStats config sensorInfoMap coolingDeviceInfoMap now = .ok (some helper)) :
    ExtremesFresh helper.sensorStats.tempStatsMap := by
  obtain ⟨requestStatsMap, -, hsome⟩ := bind_eq_ok.mp hinit
  obtain ⟨requestStats, -, rfl⟩ := Option.map_eq_some_iff.mp (Except.ok.inj hsome)
  exact extremesFresh_initializeSensorTempStats _ _ _

variable (hinit : initializeStats config sensorInfoMap coolingDeviceInfoMap now = .ok (some helper))
  {steps : List StatsHelperStep} {observed : Observed} {sent : List StatsAtom}
  (hrun : runSteps Observed.step ⟨helper, fun _ ↦ []⟩ steps = some (observed, sent))

include hinit hrun

/-- The extremes are kept along every run. -/
theorem extremesKept_run :
    ExtremesKept observed.helper.sensorStats.tempStatsMap observed.history := by
  apply runSteps_keeps Observed.step
    (fun _ s _ ↦ ExtremesKept s.helper.sensorStats.tempStatsMap s.history) _ _ hrun
  · exact (extremesFresh_initializeStats hinit).kept
  · exact fun _ _ _ _ _ _ hkept hstep ↦ hkept.observedStep hstep

/-- The extremes that are reported for some temperatures are their maximum and their minimum. -/
def ExtremesExact (maxTemp minTemp : ExactFloat) (temps : List ExactFloat) : Prop :=
  temps ≠ [] → IsMaximum maxTemp temps ∧ IsMinimum minTemp temps

/-- Some temperature is at least the smallest positive normal number, and some is at most the largest
number. -/
def ReachesStarts (temps : List ExactFloat) : Prop :=
  temps ≠ [] → (∃ temp ∈ temps, floatMin ≤ temp) ∧ ∃ temp ∈ temps, temp ≤ floatMax

/-- After any run, the extremes in a report are exact exactly when the temperatures since the report
before reach the values that the extremes start with. -/
theorem extremesExact_iff {env : StatsEnv} {reported : ThermalStatsHelper} {atoms : List StatsAtom}
    (hreport : observed.helper.step (.report env) = .ok (reported, atoms))
    {sensor name : String} {report : StatsReport} {maxTemp minTemp : ExactFloat}
    {maxTempTimestamp minTempTimestamp : Option ℤ}
    (hatom : .tempResidency sensor name report maxTemp maxTempTimestamp minTemp minTempTimestamp ∈
      atoms) :
    ExtremesExact maxTemp minTemp (observed.history sensor) ↔
      ReachesStarts (observed.history sensor) := by
  have hkept := extremesKept_run hinit hrun
  obtain ⟨⟨after, final⟩, hstats, hsame⟩ := bind_eq_ok.mp hreport
  obtain ⟨rfl, rfl⟩ := ok_pair hsame
  cases hdue : reportIsDue env observed.helper with
  | false =>
    rw [(reportStats_of_not_due hdue hstats).2] at hatom
    cases hatom
  | true =>
    obtain ⟨stats, hlookup, rfl, rfl⟩ := (reportStats_extremes hdue hstats).2 _ hatom
    obtain ⟨hmax, hmin⟩ := hkept sensor stats hlookup
    rw [hmax, hmin]
    unfold ExtremesExact ReachesStarts
    rw [isMaximum_runningMax_iff, isMinimum_runningMin_iff]

end Initialized

/-! ## A cold day -/

def outdoorConfig : ParsedStats where
  sensorStatsInfo := ⟨.flag false, (∅ : UnorderedMap String (List (ThresholdList ExactFloat))).insert
    "outdoor" [⟨none, [.fin 30]⟩]⟩
  abnormalStatsInfo := ⟨none, [], none, []⟩
  coolingDeviceRequestInfo := ⟨.flag false, ∅⟩

def outdoorSensor : SensorInfo :=
  { (default : SensorInfo) with throttlingInfo := some default }

def outdoorHelper : ThermalStatsHelper where
  lastTotalStatsReportTime := 0
  abnormalStatsReportedPerUpdateInterval := 0
  sensorStats :=
    { tempStatsMap := initializeSensorTempStats outdoorConfig.sensorStatsInfo
        ((∅ : SensorInfoMap).insert "outdoor" outdoorSensor) 0
      tempRangeInfoMap := ∅
      tempStuckInfoMap := ∅
      currTempStatusMap := ∅ }
  sensorCdevRequestStatsMap := ∅

theorem outdoorHelper_initialized :
    initializeStats outdoorConfig ((∅ : SensorInfoMap).insert "outdoor" outdoorSensor) ∅ 0 =
      .ok (some outdoorHelper) := rfl

/-- A day is over, and the service takes every atom. -/
def outdoorEnv : StatsEnv := ⟨86400000000000, 86400000000000, 0, true, fun _ _ ↦ true⟩

def outdoorSteps : List StatsHelperStep := [.temperature outdoorEnv "outdoor" (.fin (-5))]

/-- The sensor and the extremes of an atom about a temperature. -/
def StatsAtom.extremes : StatsAtom → Option (String × ExactFloat × ExactFloat)
  | .tempResidency sensor _ _ maxTemp _ minTemp _ => some (sensor, maxTemp, minTemp)
  | _ => none

theorem exists_of_extremes {atom : StatsAtom} {sensor : String} {maxTemp minTemp : ExactFloat}
    (h : atom.extremes = some (sensor, maxTemp, minTemp)) :
    ∃ name report maxTempTimestamp minTempTimestamp,
      atom = .tempResidency sensor name report maxTemp maxTempTimestamp minTemp minTempTimestamp := by
  cases atom with
  | tempResidency => cases h; exact ⟨_, _, _, _, rfl⟩
  | cdevRequest => cases h
  | abnormality => cases h

/-- The state before the report, and the atoms of the report. -/
def outdoorReport : Option (Observed × List StatsAtom) := do
  let (observed, _) ← runSteps Observed.step ⟨outdoorHelper, fun _ ↦ []⟩ outdoorSteps
  let (_, atoms) ← (observed.helper.step (.report outdoorEnv)).toOption
  pure (observed, atoms)

theorem outdoorReport_eq :
    outdoorReport.map (fun (observed, atoms) ↦
        (observed.history "outdoor", atoms.filterMap StatsAtom.extremes)) =
      some ([.fin (-5)], [("outdoor", floatMin, .fin (-5))]) := by
  decide +kernel

theorem outdoor_reported : ∃ observed sent reported atoms name report maxTempTimestamp minTempTimestamp,
    runSteps Observed.step ⟨outdoorHelper, fun _ ↦ []⟩ outdoorSteps = some (observed, sent) ∧
      observed.helper.step (.report outdoorEnv) = .ok (reported, atoms) ∧
        .tempResidency "outdoor" name report floatMin maxTempTimestamp (.fin (-5)) minTempTimestamp ∈
            atoms ∧
          observed.history "outdoor" = [.fin (-5)] := by
  obtain ⟨⟨observed, atoms⟩, hreport, hresult⟩ := Option.map_eq_some_iff.mp outdoorReport_eq
  obtain ⟨hhistory, hextremes⟩ := Prod.mk.inj hresult
  unfold outdoorReport at hreport
  obtain ⟨⟨before, sent⟩, hrun, hreport⟩ := Option.bind_eq_some_iff.mp hreport
  obtain ⟨⟨reported, new⟩, hstep, hsame⟩ := Option.bind_eq_some_iff.mp hreport
  obtain ⟨rfl, rfl⟩ := Prod.mk.inj (Option.some.inj hsame)
  have hmem : ("outdoor", floatMin, ExactFloat.fin (-5)) ∈ new.filterMap StatsAtom.extremes := by
    rw [hextremes]
    exact List.mem_singleton_self _
  obtain ⟨atom, hatom, hatomExtremes⟩ := List.mem_filterMap.mp hmem
  obtain ⟨name, report, maxTempTimestamp, minTempTimestamp, rfl⟩ := exists_of_extremes hatomExtremes
  exact ⟨_, _, _, _, _, _, _, _, hrun, toOption_eq_some hstep, hatom, hhistory⟩

theorem outdoorSteps_extremesExact_iff :
    ExtremesExact floatMin (.fin (-5)) [.fin (-5)] ↔ ReachesStarts [.fin (-5)] := by
  obtain ⟨_, _, _, _, _, _, _, _, hrun, hstep, hatom, hhistory⟩ := outdoor_reported
  rw [← hhistory]
  exact extremesExact_iff outdoorHelper_initialized hrun hstep hatom

/-- Five degrees below zero are reported with a maximum above zero. -/
theorem outdoorSteps_not_exact :
    ∃ observed sent reported atoms name report maxTempTimestamp minTempTimestamp,
      initializeStats outdoorConfig ((∅ : SensorInfoMap).insert "outdoor" outdoorSensor) ∅ 0 =
          .ok (some outdoorHelper) ∧
        runSteps Observed.step ⟨outdoorHelper, fun _ ↦ []⟩ outdoorSteps = some (observed, sent) ∧
          observed.helper.step (.report outdoorEnv) = .ok (reported, atoms) ∧
            .tempResidency "outdoor" name report floatMin maxTempTimestamp (.fin (-5))
                minTempTimestamp ∈ atoms ∧
              ¬ExtremesExact floatMin (.fin (-5)) (observed.history "outdoor") := by
  obtain ⟨_, _, _, _, _, _, _, _, hrun, hstep, hatom, hhistory⟩ := outdoor_reported
  refine ⟨_, _, _, _, _, _, _, _, outdoorHelper_initialized, hrun, hstep, hatom, fun hexact ↦ ?_⟩
  rw [hhistory] at hexact
  have hmem : floatMin ∈ [ExactFloat.fin (-5)] := (hexact (List.cons_ne_nil _ _)).1.mem
  exact absurd hmem (by decide +kernel)

end HardwareMediatek.Thermal
