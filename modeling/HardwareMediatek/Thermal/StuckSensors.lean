import HardwareMediatek.Foundation.Paired
import HardwareMediatek.Thermal.RecordBuckets

/-!
# Stuck sensors

The status of a sensor remembers a temperature, when it was read, and how often a temperature close to it
has followed. The first status remembers none: it begins at the least time of the clock, and the
difference from there wraps around, so that no time has passed.
-/

namespace HardwareMediatek.Thermal

open Foundation UnorderedMap

/-! ## Temperatures over time -/

structure TimedTemp where
  time : ℤ
  temp : ExactFloat

/-- The temperature that a step reads from a sensor. -/
def StatsHelperStep.timedTemp (sensor : String) : StatsHelperStep → Option TimedTemp
  | .temperature env other temp => if other = sensor then some ⟨env.now, temp⟩ else none
  | _ => none

def tempsOf (sensor : String) (steps : List StatsHelperStep) : List TimedTemp :=
  steps.filterMap (StatsHelperStep.timedTemp sensor)

/-- The clock of a step does not run backward and fits into 63 bits. -/
structure StatsEnv.ClockRuns (env : StatsEnv) : Prop where
  nonneg : 0 ≤ env.now
  answered : env.now ≤ env.answered
  lt : env.answered < 2 ^ 63

def StatsHelperStep.ClockRuns : StatsHelperStep → Prop
  | .temperature env _ _ => env.ClockRuns
  | _ => True

def SameTemp (x y : ExactFloat) : Prop := ExactFloat.fabs (x - y) ≤ kPrecisionThreshold

/-- The last temperatures, from a first one on, do not differ from the first one. -/
structure Streak (temps : List TimedTemp) (first : TimedTemp) (rest : List TimedTemp) : Prop where
  ends : ∃ before, temps = before ++ first :: rest
  same : ∀ timed ∈ rest, SameTemp first.temp timed.temp

theorem Streak.start (temps : List TimedTemp) (first : TimedTemp) : Streak (temps ++ [first]) first [] where
  ends := ⟨temps, rfl⟩
  same _ hmem := absurd hmem List.not_mem_nil

theorem Streak.extend {temps : List TimedTemp} {first : TimedTemp} {rest : List TimedTemp}
    (h : Streak temps first rest) {last : TimedTemp} (hlast : SameTemp first.temp last.temp) :
    Streak (temps ++ [last]) first (rest ++ [last]) where
  ends := by
    obtain ⟨before, rfl⟩ := h.ends
    exact ⟨before, List.append_assoc _ _ _⟩
  same timed hmem := by
    rcases List.mem_append.mp hmem with hin | hin
    · exact h.same timed hin
    · exact List.mem_singleton.mp hin ▸ hlast

/-- What a sensor is reported for: enough of its last temperatures do not differ from the first of them,
and enough time has passed since then. -/
def StuckAtEnd (info : TempStuckInfo) (temps : List TimedTemp) : Prop :=
  ∃ before first rest last, temps = before ++ first :: rest ++ [last] ∧
    info.minPollingCount ≤ (first :: rest ++ [last]).length ∧
    (∀ timed ∈ first :: rest ++ [last], SameTemp first.temp timed.temp) ∧
    info.minStuckDuration * nanosPerMilli ≤ last.time - first.time

theorem exists_fin_of_fabs_le {x : ExactFloat} {bound : ℚ} (h : x.fabs ≤ .fin bound) :
    ∃ value, x = .fin value := by
  cases x with
  | fin value => exact ⟨value, rfl⟩
  | nan | negInf | posInf =>
    rcases h with hlt | ⟨hsame, -⟩
    · exact absurd hlt Bool.false_ne_true
    · cases hsame

/-- A temperature with a neighbour is a number, and does not differ from itself. -/
theorem SameTemp.refl_left {x y : ExactFloat} (h : SameTemp x y) : SameTemp x x := by
  obtain ⟨difference, hdifference⟩ := exists_fin_of_fabs_le h
  obtain ⟨value, rfl⟩ : ∃ value, x = .fin value := by
    cases x with
    | fin value => exact ⟨value, rfl⟩
    | nan | negInf | posInf => cases y <;> cases hdifference
  have hself : ExactFloat.fabs (.fin value - .fin value) = .fin 0 := by
    change ExactFloat.fin |value + -value| = _
    rw [add_neg_cancel, abs_zero]
  unfold SameTemp
  rw [hself]
  decide +kernel

/-! ## The status of a sensor -/

/-- A status that has not begun, or remembers the first of the last temperatures. -/
structure StatusKept (temps : List TimedTemp) (status : CurrTempStatus) : Prop where
  inRange : intMin ≤ status.repeatCount
  remembers : status.startTime = minTimePoint ∨ ∃ first rest, Streak temps first rest ∧
    status.temp = first.temp ∧ first.time ≤ status.startTime ∧ 0 ≤ status.startTime ∧
      status.startTime < 2 ^ 63 ∧ status.repeatCount ≤ (first :: rest).length

theorem statusKept_initial (temps : List TimedTemp) : StatusKept temps initialTempStatus :=
  ⟨by decide, Or.inl rfl⟩

/-- The difference from the least time wraps around. -/
theorem timeDifference_minTimePoint {later : ℤ} (hlater : 0 ≤ later) (hlt : later < 2 ^ 63) :
    timeDifference later minTimePoint < 0 := by
  unfold timeDifference minTimePoint
  rw [Int.bmod_def]
  split <;> omega

theorem toMillis_nonpos {nanos : ℤ} (hnonpos : nanos ≤ 0) : toMillis nanos ≤ 0 := by
  have hpositive : 0 ≤ nanosPerMilli := by decide
  have hflipped := Int.tdiv_nonneg (Int.neg_nonneg_of_nonpos hnonpos) hpositive
  rw [Int.neg_tdiv] at hflipped
  exact Int.nonpos_of_neg_nonneg hflipped

theorem le_of_le_toMillis {nanos millis : ℤ} (hmillis : 0 < millis) (hle : millis ≤ toMillis nanos) :
    millis * nanosPerMilli ≤ nanos := by
  have hnonneg : 0 ≤ nanos := by
    by_contra hneg
    have hnonpos := toMillis_nonpos (not_le.mp hneg).le
    omega
  unfold toMillis at hle
  rw [Int.tdiv_eq_ediv_of_nonneg hnonneg] at hle
  unfold nanosPerMilli at *
  omega

section Verified

variable {env : StatsEnv} {sensor : String} {temp : ExactFloat} {info : TempStuckInfo}
  {status : CurrTempStatus} {logged : ℤ} {sent : Sent} {temps : List TimedTemp}

theorem reportThermalAbnormality_atoms (type : AbnormalityType) (reading : ℤ) {atom : StatsAtom}
    (hatom : atom ∈ (reportThermalAbnormality env type sensor reading logged sent).2.1.atoms) :
    atom ∈ sent.atoms ∨ atom = .abnormality type sensor reading := by
  unfold reportThermalAbnormality at hatom
  split at hatom
  · exact Or.inl hatom
  · split at hatom
    · exact Or.inl hatom
    · dsimp only at hatom
      split at hatom
      · exact (List.mem_append.mp hatom).imp_right List.mem_singleton.mp
      · exact (List.mem_append.mp hatom).imp_right List.mem_singleton.mp

/-- An atom says that some sensor is stuck. -/
def StatsAtom.SaysStuck (atom : StatsAtom) : Prop :=
  ∃ sensor reading, atom = .abnormality .sensorStuck sensor reading

theorem verifyTempRange_atoms {range : TempRangeInfo} {atom : StatsAtom}
    (hatom : atom ∈ (verifyTempRange env sensor temp range logged nothingSent).2.atoms) :
    ¬atom.SaysStuck := by
  rintro ⟨other, reading, rfl⟩
  unfold verifyTempRange at hatom
  split at hatom
  · rcases reportThermalAbnormality_atoms _ _ hatom with hnone | hsame
    · cases hnone
    · cases hsame
  · split at hatom
    · rcases reportThermalAbnormality_atoms _ _ hatom with hnone | hsame
      · cases hnone
      · cases hsame
    · cases hatom

theorem verifySensorRange_atoms {helper : ThermalStatsHelper} {atom : StatsAtom}
    (hatom : atom ∈ (verifySensorRange env sensor temp helper).2.atoms) : ¬atom.SaysStuck := by
  unfold verifySensorRange at hatom
  split at hatom
  · cases hatom
  · exact verifyTempRange_atoms hatom

theorem statusKept_reset (temps : List TimedTemp) (first : TimedTemp) {time : ℤ}
    (hfirst : first.time ≤ time) (hnonneg : 0 ≤ time) (hlt : time < 2 ^ 63) :
    StatusKept (temps ++ [first]) (resetCurrentTempStatus first.temp time) where
  inRange := show intMin ≤ 1 by decide
  remembers := Or.inr ⟨first, [], Streak.start temps first, rfl, hfirst, hnonneg, hlt, le_refl 1⟩

/-- One more temperature that does not differ is counted. -/
theorem StatusKept.count (h : StatusKept temps status) {last : TimedTemp}
    (hlast : SameTemp status.temp last.temp) :
    StatusKept (temps ++ [last]) { status with repeatCount := wrapInt (status.repeatCount + 1) } where
  inRange := intMin_le_wrapInt _
  remembers := by
    refine h.remembers.imp id ?_
    rintro ⟨first, rest, hstreak, htemp, hfirst, hnonneg, hlt, hle⟩
    rw [htemp] at hlast
    refine ⟨first, rest ++ [last], hstreak.extend hlast, htemp, hfirst, hnonneg, hlt, ?_⟩
    have hinRange := h.inRange
    have hwrapped : wrapInt (status.repeatCount + 1) ≤ status.repeatCount + 1 :=
      wrapInt_le (by omega)
    have hlength : (first :: (rest ++ [last])).length = (first :: rest).length + 1 := by
      rw [List.length_cons, List.length_append, List.length_singleton, List.length_cons]
    dsimp only
    omega

/-- What passes both tests is stuck. -/
theorem StatusKept.stuckAtEnd (h : StatusKept temps status) (hclock : env.ClockRuns)
    (hpositive : 0 < info.minStuckDuration) (hsame : SameTemp status.temp temp)
    (hcount : info.minPollingCount ≤ wrapInt (status.repeatCount + 1))
    (hduration : info.minStuckDuration ≤ toMillis (timeDifference env.now status.startTime)) :
    StuckAtEnd info (temps ++ [⟨env.now, temp⟩]) := by
  have hlt := hclock.answered.trans_lt hclock.lt
  rcases h.remembers with hstart | ⟨first, rest, hstreak, htemp, hfirst, hnonneg, hlt', hle⟩
  · rw [hstart] at hduration
    have hnone := toMillis_nonpos (timeDifference_minTimePoint hclock.nonneg hlt).le
    omega
  · rw [timeDifference_of_nonneg hclock.nonneg hlt hnonneg hlt'] at hduration
    rw [htemp] at hsame
    obtain ⟨before, rfl⟩ := hstreak.ends
    refine ⟨before, first, rest, ⟨env.now, temp⟩, rfl, ?_, ?_, ?_⟩
    · have hinRange := h.inRange
      have hwrapped : wrapInt (status.repeatCount + 1) ≤ status.repeatCount + 1 :=
        wrapInt_le (by omega)
      have hlength : (first :: rest ++ [(⟨env.now, temp⟩ : TimedTemp)]).length =
          (first :: rest).length + 1 := List.length_append
      omega
    · intro timed hmem
      rcases List.mem_append.mp hmem with hin | hin
      · rcases List.mem_cons.mp hin with rfl | hin
        · exact hsame.refl_left
        · exact hstreak.same timed hin
      · obtain rfl := List.mem_singleton.mp hin
        exact hsame
    · have hlong := le_of_le_toMillis hpositive hduration
      dsimp only
      omega

theorem verifyTempStuck_kept (h : StatusKept temps status) (hclock : env.ClockRuns) :
    StatusKept (temps ++ [⟨env.now, temp⟩]) (verifyTempStuck env sensor temp info status logged sent).1 := by
  have hnow := hclock.nonneg
  have hanswered := hclock.answered
  have hlt := hclock.lt
  unfold verifyTempStuck
  split
  · rename_i hsame
    dsimp only
    split
    · dsimp only
      split
      · exact statusKept_reset temps ⟨env.now, temp⟩ hanswered (by omega) hlt
      · exact h.count hsame
    · exact h.count hsame
  · exact statusKept_reset temps ⟨env.now, temp⟩ le_rfl hnow (by omega)

theorem verifyTempStuck_atoms (h : StatusKept temps status) (hclock : env.ClockRuns)
    (hpositive : 0 < info.minStuckDuration) {atom : StatsAtom}
    (hatom : atom ∈ (verifyTempStuck env sensor temp info status logged sent).2.2.atoms) :
    atom ∈ sent.atoms ∨ (∃ reading, atom = .abnormality .sensorStuck sensor reading) ∧
      StuckAtEnd info (temps ++ [⟨env.now, temp⟩]) := by
  unfold verifyTempStuck at hatom
  split at hatom
  · rename_i hsame
    dsimp only at hatom
    split at hatom
    · rename_i hstuck
      refine (reportThermalAbnormality_atoms _ _ hatom).imp_right fun hreported ↦ ⟨⟨_, hreported⟩, ?_⟩
      exact h.stuckAtEnd hclock hpositive hsame hstuck.1 hstuck.2
    · exact Or.inl hatom
  · exact Or.inl hatom

end Verified

/-! ## Runs -/

/-- The rules stay, and the status of each sensor with a rule is kept. -/
structure StuckKept (tempStuckInfoMap : UnorderedMap String TempStuckInfo)
    (steps : List StatsHelperStep) (helper : ThermalStatsHelper) : Prop where
  rules : helper.sensorStats.tempStuckInfoMap = tempStuckInfoMap
  kept : ∀ sensor info, tempStuckInfoMap.lookup sensor = some info →
    ∃ status, helper.sensorStats.currTempStatusMap.lookup sensor = some status ∧
      StatusKept (tempsOf sensor steps) status

theorem tempsOf_concat (sensor : String) (steps : List StatsHelperStep) (step : StatsHelperStep) :
    tempsOf sensor (steps ++ [step]) = tempsOf sensor steps ++ (step.timedTemp sensor).toList := by
  unfold tempsOf
  rw [List.filterMap_append]
  cases hread : step.timedTemp sensor <;> simp [hread]

theorem timedTemp_self (env : StatsEnv) (sensor : String) (temp : ExactFloat) :
    (StatsHelperStep.temperature env sensor temp).timedTemp sensor = some ⟨env.now, temp⟩ := if_pos rfl

theorem timedTemp_ne {env : StatsEnv} {sensor other : String} (hne : sensor ≠ other)
    (temp : ExactFloat) : (StatsHelperStep.temperature env sensor temp).timedTemp other = none :=
  if_neg hne

section Runs

variable {tempStuckInfoMap : UnorderedMap String TempStuckInfo} {steps : List StatsHelperStep}
  {helper helper' : ThermalStatsHelper} {atoms : List StatsAtom}

/-- The watched part of the helper after a temperature. -/
theorem updateSensorTempStatsByThreshold_watched {env : StatsEnv} {sensor : String} {temp : ExactFloat}
    {sent : Sent}
    (hupdate : updateSensorTempStatsByThreshold env sensor temp helper = .ok (helper', sent)) :
    helper'.sensorStats.tempStuckInfoMap =
        (verifySensorAbnormality env sensor temp helper).1.sensorStats.tempStuckInfoMap ∧
      helper'.sensorStats.currTempStatusMap =
        (verifySensorAbnormality env sensor temp helper).1.sensorStats.currTempStatusMap ∧
      sent = (verifySensorAbnormality env sensor temp helper).2 := by
  unfold updateSensorTempStatsByThreshold at hupdate
  dsimp only at hupdate
  split at hupdate
  · obtain ⟨rfl, rfl⟩ := ok_pair hupdate
    exact ⟨rfl, rfl, rfl⟩
  · obtain ⟨custom, -, hupdate⟩ := bind_eq_ok.mp hupdate
    obtain ⟨rfl, rfl⟩ := ok_pair hupdate
    exact ⟨rfl, rfl, rfl⟩

theorem StuckKept.temperature (h : StuckKept tempStuckInfoMap steps helper) {env : StatsEnv}
    (hclock : env.ClockRuns) {sensor : String} {temp : ExactFloat} {sent : Sent}
    (hupdate : updateSensorTempStatsByThreshold env sensor temp helper = .ok (helper', sent)) :
    StuckKept tempStuckInfoMap (steps ++ [.temperature env sensor temp]) helper' := by
  obtain ⟨hrules, hstatus, -⟩ := updateSensorTempStatsByThreshold_watched hupdate
  have hother : ∀ other, sensor ≠ other →
      tempsOf other (steps ++ [.temperature env sensor temp]) = tempsOf other steps := by
    intro other hne
    rw [tempsOf_concat, timedTemp_ne hne]
    exact List.append_nil _
  cases hinfo : tempStuckInfoMap.lookup sensor with
  | none =>
    rw [verifySensorAbnormality_of_none env (h.rules ▸ hinfo)] at hrules hstatus
    refine ⟨hrules.trans h.rules, fun other info hlookup ↦ ?_⟩
    have hne : sensor ≠ other := by
      rintro rfl
      cases hinfo.symm.trans hlookup
    rw [hother other hne, hstatus]
    exact h.kept other info hlookup
  | some info =>
    obtain ⟨status, hcurrent, hkept⟩ := h.kept sensor info hinfo
    rw [verifySensorAbnormality_of_some env (h.rules ▸ hinfo) hcurrent] at hrules hstatus
    refine ⟨hrules.trans h.rules, fun other otherInfo hlookup ↦ ?_⟩
    rw [hstatus]
    dsimp only
    rw [lookup_put]
    by_cases hsame : other = sensor
    · subst hsame
      rw [if_pos rfl, tempsOf_concat, timedTemp_self]
      exact ⟨_, rfl, verifyTempStuck_kept hkept hclock⟩
    · rw [if_neg hsame, hother other fun heq ↦ hsame heq.symm]
      exact h.kept other otherInfo hlookup

/-- A step that reads no temperature. -/
theorem StuckKept.unread (h : StuckKept tempStuckInfoMap steps helper) {step : StatsHelperStep}
    (hunread : ∀ sensor, step.timedTemp sensor = none)
    (hrules : helper'.sensorStats.tempStuckInfoMap = helper.sensorStats.tempStuckInfoMap)
    (hstatus : helper'.sensorStats.currTempStatusMap = helper.sensorStats.currTempStatusMap) :
    StuckKept tempStuckInfoMap (steps ++ [step]) helper' where
  rules := hrules.trans h.rules
  kept sensor info hlookup := by
    rw [hstatus, tempsOf_concat, hunread]
    exact (List.append_nil (tempsOf sensor steps)).symm ▸ h.kept sensor info hlookup

theorem StuckKept.step (h : StuckKept tempStuckInfoMap steps helper) {step : StatsHelperStep}
    (hclock : step.ClockRuns) (hstep : helper.step step = .ok (helper', atoms)) :
    StuckKept tempStuckInfoMap (steps ++ [step]) helper' := by
  cases step with
  | temperature env sensor temp =>
    obtain ⟨⟨after, sent⟩, hupdate, hstep⟩ := bind_eq_ok.mp hstep
    obtain ⟨rfl, -⟩ := ok_pair hstep
    exact h.temperature hclock hupdate
  | severity env sensor severity =>
    obtain ⟨after, hupdate, hstep⟩ := bind_eq_ok.mp hstep
    obtain ⟨rfl, -⟩ := ok_pair hstep
    obtain rfl | ⟨stats, default, -, rfl⟩ := updateSensorTempStatsBySeverity_cases hupdate
    · exact h.unread (fun _ ↦ rfl) rfl rfl
    · exact h.unread (fun _ ↦ rfl) rfl rfl
  | request env sensor cdev value =>
    obtain ⟨after, hupdate, hstep⟩ := bind_eq_ok.mp hstep
    obtain ⟨rfl, -⟩ := ok_pair hstep
    have hkept := updateSensorCdevRequestStats_sensorStats hupdate
    apply h.unread fun _ ↦ rfl
    · rw [hkept]
    · rw [hkept]
  | report env =>
    obtain ⟨⟨after, sent⟩, hreport, hstep⟩ := bind_eq_ok.mp hstep
    obtain ⟨rfl, -⟩ := ok_pair hstep
    obtain ⟨tempStatsMap, hcounters⟩ := reportStats_sensorStats hreport
    apply h.unread fun _ ↦ rfl
    · rw [hcounters]
    · rw [hcounters]

/-- Whatever a temperature reports as stuck is its own sensor, with enough temperatures. -/
theorem StuckKept.reported (h : StuckKept tempStuckInfoMap steps helper) {env : StatsEnv}
    (hclock : env.ClockRuns) {sensor : String} {temp : ExactFloat}
    (hpositive : ∀ other info, tempStuckInfoMap.lookup other = some info → 0 < info.minStuckDuration)
    (hstep : helper.step (.temperature env sensor temp) = .ok (helper', atoms)) {stuck : String}
    {reading : ℤ} (hatom : .abnormality .sensorStuck stuck reading ∈ atoms) :
    stuck = sensor ∧ ∃ info, tempStuckInfoMap.lookup sensor = some info ∧
      StuckAtEnd info (tempsOf sensor (steps ++ [.temperature env sensor temp])) := by
  obtain ⟨⟨after, sent⟩, hupdate, hstep⟩ := bind_eq_ok.mp hstep
  obtain ⟨-, rfl⟩ := ok_pair hstep
  rw [(updateSensorTempStatsByThreshold_watched hupdate).2.2] at hatom
  cases hinfo : tempStuckInfoMap.lookup sensor with
  | none =>
    rw [verifySensorAbnormality_of_none env (h.rules ▸ hinfo)] at hatom
    exact absurd ⟨stuck, reading, rfl⟩ (verifySensorRange_atoms hatom)
  | some info =>
    obtain ⟨status, hcurrent, hkept⟩ := h.kept sensor info hinfo
    rw [verifySensorAbnormality_of_some env (h.rules ▸ hinfo) hcurrent] at hatom
    rcases verifyTempStuck_atoms hkept hclock (hpositive sensor info hinfo) hatom with
      hbefore | ⟨⟨other, hsame⟩, hstuck⟩
    · exact absurd ⟨stuck, reading, rfl⟩ (verifySensorRange_atoms hbefore)
    · cases hsame
      refine ⟨rfl, info, rfl, ?_⟩
      rw [tempsOf_concat, timedTemp_self]
      exact hstuck

end Runs

/-! ## Configured rules -/

/-- All rules for stuck temperatures ask for some time. -/
def AbnormalStatsInfo.StuckPositive (info : AbnormalStatsInfo) : Prop :=
  (∀ rule, info.defaultTempStuckInfo = some rule → 0 < rule.minStuckDuration) ∧
    ∀ entry ∈ info.sensorsTempStuckInfos, 0 < entry.info.minStuckDuration

section Configured

variable {ι : Type} {P : ι → Prop} {sensorInfoMap : SensorInfoMap} {parse : Json → Parsing ι}

theorem parsePositive_pos {key : String} {values : Json} {number : ℤ}
    (hparsed : parsePositive key values = .ok number) : 0 < number := by
  obtain ⟨member, -, hparsed⟩ := bind_eq_ok.mp hparsed
  obtain ⟨_, -, hparsed⟩ := bind_eq_ok.mp hparsed
  obtain ⟨accepted, -, hparsed⟩ := bind_eq_ok.mp hparsed
  obtain ⟨_, hpositive, hparsed⟩ := bind_eq_ok.mp hparsed
  obtain rfl := Except.ok.inj hparsed
  exact of_decide_eq_true (check_eq_ok.mp hpositive)

theorem getTempStuckInfoFromJsonValue_pos {values : Json} {info : TempStuckInfo}
    (hparsed : getTempStuckInfoFromJsonValue values = .ok info) : 0 < info.minStuckDuration := by
  obtain ⟨duration, hduration, hparsed⟩ := bind_eq_ok.mp hparsed
  obtain ⟨count, -, hparsed⟩ := bind_eq_ok.mp hparsed
  obtain rfl := Except.ok.inj hparsed
  exact parsePositive_pos hduration

/-- What holds of every rule that is parsed holds of the rules of a section. -/
theorem parseAbnormalitySection_rules (hparse : ∀ values info, parse values = .ok info → P info)
    {sectionKey infoKey : String} {config : Json} {default : Option ι} {infos : List (SensorsInfo ι)}
    (hparsed : parseAbnormalitySection sensorInfoMap parse sectionKey infoKey config =
      .ok (default, infos)) :
    (∀ rule, default = some rule → P rule) ∧ ∀ entry ∈ infos, P entry.info := by
  obtain ⟨part, -, hparsed⟩ := bind_eq_ok.mp hparsed
  split at hparsed
  · obtain ⟨rfl, rfl⟩ := ok_pair hparsed
    exact ⟨fun _ hnone ↦ (nomatch hnone), fun _ hmem ↦ (nomatch hmem)⟩
  · obtain ⟨defaultMember, -, hparsed⟩ := bind_eq_ok.mp hparsed
    obtain ⟨parsedDefault, hdefault, hparsed⟩ := bind_eq_ok.mp hparsed
    obtain ⟨configs, -, hparsed⟩ := bind_eq_ok.mp hparsed
    have hrule : ∀ rule, parsedDefault = some rule → P rule := by
      intro rule hsome
      unfold parseDefaultInfo at hdefault
      split at hdefault
      · cases (Except.ok.inj hdefault).trans hsome
      · obtain ⟨_, hengaged, -⟩ := bind_eq_ok.mp hdefault
        cases read_eq_ok.mp hengaged
    split at hparsed
    · obtain ⟨rfl, rfl⟩ := ok_pair hparsed
      exact ⟨hrule, fun _ hmem ↦ nomatch hmem⟩
    · obtain ⟨items, -, hparsed⟩ := bind_eq_ok.mp hparsed
      obtain ⟨parsedInfos, hinfos, hparsed⟩ := bind_eq_ok.mp hparsed
      obtain ⟨rfl, rfl⟩ := ok_pair hparsed
      refine ⟨hrule, ?_⟩
      unfold parseSensorsInfos at hinfos
      apply @foldlM_keeps _ _ _ (fun infos : List (SensorsInfo ι) ↦ ∀ entry ∈ infos, P entry.info)
        _ _ _ _ _ _ hinfos
      · intro config _ infos infos' hbefore hround
        obtain ⟨sensors, -, hround⟩ := bind_eq_ok.mp hround
        obtain ⟨values, -, hround⟩ := bind_eq_ok.mp hround
        obtain ⟨info, hinfo, hround⟩ := bind_eq_ok.mp hround
        obtain rfl := Except.ok.inj hround
        intro entry hmem
        rcases List.mem_append.mp hmem with hin | hlast
        · exact hbefore entry hin
        · exact List.mem_singleton.mp hlast ▸ hparse values info hinfo
      · exact fun _ hmem ↦ nomatch hmem

theorem stuckPositive_of_parsed {config : Json} {info : AbnormalStatsInfo}
    (hparsed : parseSensorAbnormalStatsConfig sensorInfoMap config = .ok info) : info.StuckPositive := by
  unfold parseSensorAbnormalStatsConfig at hparsed
  split at hparsed
  · obtain rfl := Except.ok.inj hparsed
    exact ⟨fun _ hnone ↦ (nomatch hnone), fun _ hmem ↦ (nomatch hmem)⟩
  · obtain ⟨⟨defaultRange, ranges⟩, -, hparsed⟩ := bind_eq_ok.mp hparsed
    obtain ⟨⟨defaultStuck, stucks⟩, hstuck, hparsed⟩ := bind_eq_ok.mp hparsed
    obtain rfl := Except.ok.inj hparsed
    exact parseAbnormalitySection_rules (fun _ _ ↦ getTempStuckInfoFromJsonValue_pos) hstuck

/-- What holds of the configured rules holds of those that are put. -/
theorem forall_lookup_putDefault {default : Option ι} {infos : List (SensorsInfo ι)}
    (hdefault : ∀ rule, default = some rule → P rule) (hinfos : ∀ entry ∈ infos, P entry.info)
    (sensors : List String) :
    ∀ sensor rule, (putDefault default sensors (putForSensors infos)).lookup sensor = some rule →
      P rule := by
  have hlisted : ∀ sensor rule, (putForSensors infos).lookup sensor = some rule → P rule := by
    unfold putForSensors
    apply @List.foldlRecOn _ _ (fun infoMap : UnorderedMap String ι ↦
      ∀ sensor rule, infoMap.lookup sensor = some rule → P rule) infos
    · intro sensor rule hlookup
      rw [AList.lookup_empty] at hlookup
      cases hlookup
    · intro infoMap hbefore entry hentry
      apply @List.foldlRecOn _ _ (fun infoMap : UnorderedMap String ι ↦
        ∀ sensor rule, infoMap.lookup sensor = some rule → P rule) entry.sensors
      · exact hbefore
      · exact fun infoMap hbefore sensor _ ↦ forall_lookup_put hbefore (hinfos entry hentry)
  unfold putDefault
  cases default with
  | none => exact hlisted
  | some info =>
    apply @List.foldlRecOn _ _ (fun infoMap : UnorderedMap String ι ↦
      ∀ sensor rule, infoMap.lookup sensor = some rule → P rule) sensors
    · exact hlisted
    · intro infoMap hbefore sensor _
      split
      · exact hbefore
      · exact forall_lookup_put hbefore (hdefault info rfl)

end Configured

section Initialized

variable {config : ParsedStats} {sensorInfoMap : SensorInfoMap} {coolingDeviceInfoMap : CdevInfoMap}
  {now : ℤ} {helper : ThermalStatsHelper} {abnormality : Json}

theorem initializeStats_abnormality
    (hinit : initializeStats config sensorInfoMap coolingDeviceInfoMap now = .ok (some helper)) :
    ∃ tempStatsMap, helper.sensorStats =
      initializeSensorAbnormalityStats config.abnormalStatsInfo sensorInfoMap tempStatsMap := by
  obtain ⟨requestStatsMap, -, hsome⟩ := bind_eq_ok.mp hinit
  obtain ⟨requestStats, -, rfl⟩ := Option.map_eq_some_iff.mp (Except.ok.inj hsome)
  exact ⟨_, rfl⟩

theorem stuckKept_initializeStats
    (hinit : initializeStats config sensorInfoMap coolingDeviceInfoMap now = .ok (some helper)) :
    StuckKept helper.sensorStats.tempStuckInfoMap [] helper := by
  obtain ⟨tempStatsMap, hstats⟩ := initializeStats_abnormality hinit
  refine ⟨rfl, fun sensor info hlookup ↦ ⟨initialTempStatus, ?_, statusKept_initial _⟩⟩
  rw [hstats] at hlookup ⊢
  unfold initializeSensorAbnormalityStats at hlookup ⊢
  dsimp only at hlookup ⊢
  rw [lookup_mapValues, hlookup]
  rfl

theorem stuckKept_run
    (hinit : initializeStats config sensorInfoMap coolingDeviceInfoMap now = .ok (some helper))
    {steps : List StatsHelperStep} (hclock : ∀ step ∈ steps, step.ClockRuns)
    {final : ThermalStatsHelper} {sent : List StatsAtom}
    (hrun : runSteps helperStep helper steps = some (final, sent)) :
    StuckKept helper.sensorStats.tempStuckInfoMap steps final := by
  have hkept : (∀ step ∈ steps, step.ClockRuns) →
      StuckKept helper.sensorStats.tempStuckInfoMap steps final := by
    apply runSteps_keeps helperStep (fun steps state _ ↦ (∀ step ∈ steps, step.ClockRuns) →
      StuckKept helper.sensorStats.tempStuckInfoMap steps state) _ _ hrun
    · exact fun _ ↦ stuckKept_initializeStats hinit
    · intro steps state _ next final new hbefore hstep hclock
      have hearlier := hbefore fun step hmem ↦ hclock step (List.mem_append_left _ hmem)
      exact hearlier.step (hclock next List.mem_append_cons_self)
        (toOption_eq_some hstep)
  exact hkept hclock

/-- After any run, a temperature that is reported as stuck ends a long enough streak of temperatures that
do not differ from the first of them. -/
theorem stuckAtEnd_of_reported
    (hparsed : parseSensorAbnormalStatsConfig sensorInfoMap abnormality = .ok config.abnormalStatsInfo)
    (hinit : initializeStats config sensorInfoMap coolingDeviceInfoMap now = .ok (some helper))
    {steps : List StatsHelperStep} {before : ThermalStatsHelper} {sent : List StatsAtom}
    (hrun : runSteps helperStep helper steps = some (before, sent)) {env : StatsEnv} {sensor : String}
    {temp : ExactFloat}
    (hclock : ∀ step ∈ steps ++ [.temperature env sensor temp], StatsHelperStep.ClockRuns step)
    {after : ThermalStatsHelper} {atoms : List StatsAtom}
    (hstep : before.step (.temperature env sensor temp) = .ok (after, atoms)) {stuck : String}
    {reading : ℤ} (hatom : .abnormality .sensorStuck stuck reading ∈ atoms) :
    stuck = sensor ∧ ∃ info, helper.sensorStats.tempStuckInfoMap.lookup sensor = some info ∧
      StuckAtEnd info (tempsOf sensor (steps ++ [.temperature env sensor temp])) := by
  have hkept := stuckKept_run hinit (fun step hmem ↦ hclock step (List.mem_append_left _ hmem)) hrun
  obtain ⟨tempStatsMap, hstats⟩ := initializeStats_abnormality hinit
  obtain ⟨hdefault, hinfos⟩ := stuckPositive_of_parsed hparsed
  have hpositive : ∀ other info, helper.sensorStats.tempStuckInfoMap.lookup other = some info →
      0 < info.minStuckDuration := by
    rw [hstats]
    exact forall_lookup_putDefault hdefault hinfos _
  exact hkept.reported (hclock _ List.mem_append_cons_self) hpositive hstep hatom

end Initialized

/-! ## A sensor that does not move -/

def frozenAbnormality : Json := .obj [("Stuck", .obj [("Configs", .arr [.obj
  [("Monitor", .arr [.str "soc"]),
    ("TempStuck", .obj [("MinStuckDuration", .int 1), ("MinPollingCount", .int 2)])]])])]

def frozenSensors : SensorInfoMap :=
  (∅ : SensorInfoMap).insert "soc" { (default : SensorInfo) with throttlingInfo := some default }

def frozenParsed : ParsedStats := ⟨noStatsInfo, ⟨none, [], none, [⟨["soc"], ⟨2, 1⟩⟩]⟩, noStatsInfo⟩

def frozenHelper : ThermalStatsHelper where
  lastTotalStatsReportTime := 0
  abnormalStatsReportedPerUpdateInterval := 0
  sensorStats := initializeSensorAbnormalityStats frozenParsed.abnormalStatsInfo frozenSensors ∅
  sensorCdevRequestStatsMap := ∅

/-- The service takes every atom. -/
def frozenEnv (now : ℤ) : StatsEnv := ⟨now, now, 0, true, fun _ _ ↦ true⟩

def frozenSteps : List StatsHelperStep := [.temperature (frozenEnv 0) "soc" (.fin 30)]

/-- Whether the second temperature, a millisecond later, is reported as stuck. -/
def frozenReport : Option Bool := do
  let (before, _) ← runSteps helperStep frozenHelper frozenSteps
  let (_, atoms) ← (before.step (.temperature (frozenEnv 1000000) "soc" (.fin 30))).toOption
  pure (atoms.any fun
    | .abnormality .sensorStuck "soc" 30 => true
    | _ => false)

theorem frozenReport_eq : frozenReport = some true := by decide +kernel

theorem frozenSteps_stuckAtEnd : ∃ info,
    frozenHelper.sensorStats.tempStuckInfoMap.lookup "soc" = some info ∧
      StuckAtEnd info (tempsOf "soc"
        (frozenSteps ++ [.temperature (frozenEnv 1000000) "soc" (.fin 30)])) := by
  have hreport := frozenReport_eq
  unfold frozenReport at hreport
  obtain ⟨⟨before, sent⟩, hrun, hreport⟩ := Option.bind_eq_some_iff.mp hreport
  obtain ⟨⟨after, atoms⟩, hstep, hany⟩ := Option.bind_eq_some_iff.mp hreport
  obtain ⟨atom, hatom, hstuck⟩ := List.any_eq_true.mp (Option.some.inj hany)
  have hclock : ∀ step ∈ frozenSteps ++ [.temperature (frozenEnv 1000000) "soc" (.fin 30)],
      StatsHelperStep.ClockRuns step := by
    intro step hmem
    rcases List.mem_cons.mp hmem with rfl | hmem
    · exact ⟨by decide, by decide, by decide⟩
    · obtain rfl := List.mem_singleton.mp hmem
      exact ⟨by decide, by decide, by decide⟩
  have hparsed : parseSensorAbnormalStatsConfig frozenSensors frozenAbnormality =
      .ok frozenParsed.abnormalStatsInfo := rfl
  have hinit : initializeStats frozenParsed frozenSensors ∅ 0 = .ok (some frozenHelper) := rfl
  split at hstuck
  · exact (stuckAtEnd_of_reported hparsed hinit hrun hclock (toOption_eq_some hstep) hatom).2
  · cases hstuck

end HardwareMediatek.Thermal
