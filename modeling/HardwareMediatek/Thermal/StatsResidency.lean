import HardwareMediatek.Foundation.EffectRuns
import Mathlib.Data.List.GetD
import Mathlib.Tactic.Linarith

/-!
# Residency statistics

A record adds up how long a state has lasted, in one bucket for every state. Reports close the open
interval, hand over the buckets and clear them. A report that fails gives back the record from before.
-/

namespace HardwareMediatek.Thermal

open Foundation

def kMaxStatsReportingFailCount : ℕ := 3

/-- Times are in milliseconds. -/
structure StatsRecord where
  curState : ℤ
  curStateStartTime : ℤ
  lastStatsReportTime : ℤ
  timeInStateMs : List ℤ
  reportFailCount : ℕ

def StatsRecord.create (timeInStateSize : ℕ) (state now : ℤ) : StatsRecord where
  curState := state
  curStateStartTime := now
  lastStatsReportTime := now
  timeInStateMs := List.replicate timeInStateSize 0
  reportFailCount := 0

/-- Nothing is said about a state without a bucket. -/
def updateStatsRecord (statsRecord : StatsRecord) (newState now : ℤ) : Option StatsRecord :=
  if 0 ≤ statsRecord.curState ∧ statsRecord.curState < statsRecord.timeInStateMs.length then
    some { statsRecord with
      timeInStateMs := statsRecord.timeInStateMs.modify statsRecord.curState.toNat
        (· + (now - statsRecord.curStateStartTime))
      curStateStartTime := now
      curState := newState }
  else none

/-- The update of a record with a value that was computed. -/
def updateStats (statsRecord : StatsRecord) (value now : ℤ) : Option StatsRecord :=
  if value ≠ statsRecord.curState then updateStatsRecord statsRecord value now
  else some statsRecord

/-- The time since the last report, and the time in every state. -/
structure StatsReport where
  sinceLastUpdateMs : ℤ
  timeInStateMs : List ℤ

/-- The record with cleared buckets, and what they held. -/
def processStatsRecordForReporting (statsRecord : StatsRecord) (now : ℤ) :
    Option (StatsRecord × List ℤ) :=
  (updateStatsRecord statsRecord statsRecord.curState now).map fun closed ↦
    ({ closed with timeInStateMs := closed.timeInStateMs.map fun _ ↦ 0 }, closed.timeInStateMs)

def restoreStatsRecordOnFailure (before : StatsRecord) (now : ℤ) : StatsRecord :=
  if before.reportFailCount + 1 ≥ kMaxStatsReportingFailCount then
    StatsRecord.create before.timeInStateMs.length before.curState now
  else { before with reportFailCount := before.reportFailCount + 1 }

/-- The part of `reportSensorTempStats` and `reportSensorCdevRequestStats` about the record. The
client has taken the report or not, at the time `answered`. -/
def reportStats (statsRecord : StatsRecord) (now answered : ℤ) (accepted : Bool) :
    Option (StatsRecord × List StatsReport) :=
  (processStatsRecordForReporting statsRecord now).map fun processed ↦
    if accepted then
      ({ processed.1 with lastStatsReportTime := answered },
        [⟨processed.1.curStateStartTime - processed.1.lastStatsReportTime, processed.2⟩])
    else (restoreStatsRecordOnFailure statsRecord answered, [])

inductive StatsStep where
  | update (value now : ℤ)
  | report (now answered : ℤ) (accepted : Bool)

def statsStep (statsRecord : StatsRecord) : StatsStep → Option (StatsRecord × List StatsReport)
  | .update value now => (updateStats statsRecord value now).map fun updated ↦ (updated, [])
  | .report now answered accepted => reportStats statsRecord now answered accepted

namespace StatsStep

def time : StatsStep → ℤ
  | update _ now => now
  | report now _ _ => now

def failedReport : StatsStep → Bool
  | update _ _ => false
  | report _ _ accepted => !accepted

/-- The state that the record has at a time from the step on. -/
def stateFrom (step : StatsStep) (time before : ℤ) : ℤ :=
  match step with
  | update value now => if now ≤ time then value else before
  | report _ _ _ => before

/-- The state that lasts after the step, and since when. -/
def opens (step : StatsStep) (interval : ℤ × ℤ) : ℤ × ℤ :=
  match step with
  | update value now => if value ≠ interval.1 then (value, now) else interval
  | report now _ accepted => if accepted then (interval.1, now) else interval

end StatsStep

/-- The interval that is open: from the last change of the state, or the last report that was taken,
if that is later. -/
def openInterval (state created : ℤ) (steps : List StatsStep) : ℤ × ℤ :=
  steps.foldl (fun interval step ↦ step.opens interval) (state, created)

/-- The state at a time. -/
def stateAt (state : ℤ) (steps : List StatsStep) (time : ℤ) : ℤ :=
  steps.foldl (fun before step ↦ step.stateFrom time before) state

/-- The milliseconds between two times in which a state lasted. -/
def timeIn (state : ℤ) (during : ℤ → ℤ) (first last : ℤ) : ℕ :=
  (List.range (last - first).toNat).countP fun passed : ℕ ↦ during (first + passed) = state

/-- What the reports handed over for a state. -/
def reported (state : ℕ) (reports : List StatsReport) : ℤ :=
  (reports.map fun report ↦ report.timeInStateMs.getD state 0).sum

/-! ## Time in a state -/

theorem timeIn_congr {state first last : ℤ} {during during' : ℤ → ℤ}
    (hsame : ∀ time, time < last → during time = during' time) :
    timeIn state during first last = timeIn state during' first last := by
  unfold timeIn
  apply List.countP_congr
  intro passed hpassed
  rw [List.mem_range] at hpassed
  rw [hsame (first + passed) (by omega)]

/-- An interval in which nothing changes is credited to its state. -/
theorem timeIn_extend {state first middle last : ℤ} {during : ℤ → ℤ} (hfirst : first ≤ middle)
    (hlast : middle ≤ last) {current : ℤ}
    (hconstant : ∀ time, middle ≤ time → during time = current) :
    (timeIn state during first last : ℤ) =
      timeIn state during first middle + if current = state then last - middle else 0 := by
  have hlength : (last - first).toNat = (middle - first).toNat + (last - middle).toNat := by omega
  have hopen : ∀ passed : ℕ, during (first + ↑((middle - first).toNat + passed)) = current := by
    intro passed
    apply hconstant
    omega
  unfold timeIn
  rw [hlength, List.range_add, List.countP_append, Nat.cast_add, List.countP_map]
  apply congrArg
  by_cases hcurrent : current = state
  · rw [if_pos hcurrent, List.countP_eq_length.mpr, List.length_range, Int.toNat_of_nonneg (by omega)]
    intro passed _
    rw [Function.comp_apply, hopen, hcurrent]
    exact decide_eq_true rfl
  · rw [if_neg hcurrent, List.countP_eq_zero.mpr, Nat.cast_zero]
    intro passed _
    rw [Function.comp_apply, hopen, decide_eq_true_eq]
    exact hcurrent

/-! ## What a record is credited with -/

/-- The open interval is closed at `now` and goes to the bucket of its state. -/
structure Closes (statsRecord closed : StatsRecord) (newState now : ℤ) : Prop where
  curState : closed.curState = newState
  startTime : closed.curStateStartTime = now
  size : closed.timeInStateMs.length = statsRecord.timeInStateMs.length
  failCount : closed.reportFailCount = statsRecord.reportFailCount
  credited : ∀ state < statsRecord.timeInStateMs.length, closed.timeInStateMs.getD state 0 =
    statsRecord.timeInStateMs.getD state 0 +
      if statsRecord.curState = state then now - statsRecord.curStateStartTime else 0

theorem closes_updateStatsRecord {statsRecord closed : StatsRecord} {newState now : ℤ}
    (hclosed : updateStatsRecord statsRecord newState now = some closed) :
    Closes statsRecord closed newState now := by
  unfold updateStatsRecord at hclosed
  by_cases hbucket : 0 ≤ statsRecord.curState ∧
      statsRecord.curState < statsRecord.timeInStateMs.length
  · rw [if_pos hbucket] at hclosed
    rw [← Option.some.inj hclosed]
    apply Closes.mk
    · rfl
    · rfl
    · exact List.length_modify _ _ _
    · rfl
    · intro state hstate
      have hindex : statsRecord.curState.toNat = state ↔ statsRecord.curState = state := by omega
      rw [List.getD_eq_getElem?_getD, List.getElem?_modify, List.getD_eq_getElem?_getD,
        List.getElem?_eq_getElem hstate]
      change (if statsRecord.curState.toNat = state then _ else _) = _
      by_cases hsame : statsRecord.curState = state
      · rw [if_pos (hindex.mpr hsame), if_pos hsame]
        rfl
      · rw [if_neg fun hin ↦ hsame (hindex.mp hin), if_neg hsame, add_zero]
        rfl
  · rw [if_neg hbucket] at hclosed
    cases hclosed

/-- Reports and buckets hold together the time in each state up to the start of the open interval. -/
structure Credited (size : ℕ) (state created : ℤ) (steps : List StatsStep) (statsRecord : StatsRecord)
    (reports : List StatsReport) : Prop where
  startTime : statsRecord.curStateStartTime ∈ created :: steps.map StatsStep.time
  opened : (statsRecord.curState, statsRecord.curStateStartTime) = openInterval state created steps
  curState : ∀ time, statsRecord.curStateStartTime ≤ time →
    stateAt state steps time = statsRecord.curState
  buckets : statsRecord.timeInStateMs.length = size
  failCount : statsRecord.reportFailCount = steps.countP StatsStep.failedReport
  credited : ∀ bucket < size,
    reported bucket reports + statsRecord.timeInStateMs.getD bucket 0 =
      timeIn bucket (stateAt state steps) created statsRecord.curStateStartTime

section Credited

variable {size : ℕ} {state created : ℤ} {steps : List StatsStep} {statsRecord closed : StatsRecord}
  {reports : List StatsReport}

theorem credited_create : Credited size state created [] (StatsRecord.create size state created) [] where
  startTime := List.mem_cons_self
  opened := rfl
  curState _ _ := rfl
  buckets := List.length_replicate
  failCount := rfl
  credited bucket hbucket := by
    have hempty : timeIn bucket (stateAt state []) created created = 0 := by
      unfold timeIn
      rw [sub_self]
      rfl
    have hzero : (List.replicate size (0 : ℤ)).getD bucket 0 = 0 := List.getD_replicate _ hbucket
    change reported bucket [] + (List.replicate size (0 : ℤ)).getD bucket 0 =
      (timeIn bucket (stateAt state []) created created : ℤ)
    rw [hempty, hzero]
    rfl

theorem stateAt_concat (step : StatsStep) (time : ℤ) :
    stateAt state (steps ++ [step]) time = step.stateFrom time (stateAt state steps time) := by
  unfold stateAt
  rw [List.foldl_concat]

theorem openInterval_concat (step : StatsStep) :
    openInterval state created (steps ++ [step]) = step.opens (openInterval state created steps) := by
  unfold openInterval
  rw [List.foldl_concat]

theorem mem_times_concat {step : StatsStep} {time : ℤ}
    (hin : time ∈ created :: steps.map StatsStep.time) :
    time ∈ created :: (steps ++ [step]).map StatsStep.time := by
  rw [List.map_append, ← List.cons_append]
  exact List.mem_append_left _ hin

/-- Closing the interval credits the time in it. -/
theorem Credited.close (h : Credited size state created steps statsRecord reports)
    {newState now : ℤ} (hclosed : Closes statsRecord closed newState now)
    (hclock : ∀ time ∈ created :: steps.map StatsStep.time, time ≤ now)
    (hstart : created ≤ statsRecord.curStateStartTime) :
    ∀ bucket < size, reported bucket reports + closed.timeInStateMs.getD bucket 0 =
      timeIn bucket (stateAt state steps) created now := by
  intro bucket hbucket
  have hextend : (timeIn bucket (stateAt state steps) created now : ℤ) =
      timeIn bucket (stateAt state steps) created statsRecord.curStateStartTime +
        if statsRecord.curState = bucket then now - statsRecord.curStateStartTime else 0 :=
    timeIn_extend hstart (hclock _ h.startTime) h.curState
  rw [hclosed.credited bucket (by rwa [h.buckets]), hextend, ← h.credited bucket hbucket, add_assoc]

/-- An update that is not earlier than anything before. -/
theorem Credited.update (h : Credited size state created steps statsRecord reports) {value now : ℤ}
    (hclock : ∀ time ∈ created :: steps.map StatsStep.time, time ≤ now)
    (hstart : created ≤ statsRecord.curStateStartTime)
    (hupdated : updateStats statsRecord value now = some closed) :
    Credited size state created (steps ++ [.update value now]) closed reports := by
  have hcount : (steps ++ [StatsStep.update value now]).countP StatsStep.failedReport =
      steps.countP StatsStep.failedReport := by
    rw [List.countP_append]
    rfl
  unfold updateStats at hupdated
  by_cases hnew : value ≠ statsRecord.curState
  · rw [if_pos hnew] at hupdated
    have hcloses := closes_updateStatsRecord hupdated
    apply Credited.mk
    · rw [hcloses.startTime, List.map_append, ← List.cons_append]
      exact List.mem_append_cons_self
    · rw [hcloses.curState, hcloses.startTime, openInterval_concat, ← h.opened]
      exact (if_pos hnew).symm
    · intro time htime
      rw [hcloses.startTime] at htime
      rw [stateAt_concat, hcloses.curState]
      exact if_pos htime
    · rw [hcloses.size, h.buckets]
    · rw [hcloses.failCount, h.failCount, hcount]
    · intro bucket hbucket
      rw [h.close hcloses hclock hstart bucket hbucket, hcloses.startTime]
      apply congrArg Nat.cast
      apply timeIn_congr
      intro time htime
      rw [stateAt_concat]
      exact (if_neg (not_le_of_gt htime)).symm
  · rw [if_neg hnew] at hupdated
    rw [not_not] at hnew
    rw [← Option.some.inj hupdated]
    apply Credited.mk
    · exact mem_times_concat h.startTime
    · rw [openInterval_concat, ← h.opened]
      exact (if_neg (not_not_intro hnew)).symm
    · intro time htime
      rw [stateAt_concat, ← h.curState time htime]
      change (if now ≤ time then value else stateAt state steps time) = _
      by_cases hfrom : now ≤ time
      · rw [if_pos hfrom, hnew, h.curState time htime]
      · rw [if_neg hfrom]
    · exact h.buckets
    · rw [h.failCount, hcount]
    · intro bucket hbucket
      rw [h.credited bucket hbucket]
      apply congrArg Nat.cast
      apply timeIn_congr
      intro time htime
      have hearlier : time < now := lt_of_lt_of_le htime (hclock _ h.startTime)
      rw [stateAt_concat]
      exact (if_neg (not_le_of_gt hearlier)).symm

theorem stateAt_report (now answered : ℤ) (accepted : Bool) :
    stateAt state (steps ++ [.report now answered accepted]) = stateAt state steps := by
  funext time
  rw [stateAt_concat]
  rfl

theorem reported_concat (bucket : ℕ) (report : StatsReport) :
    reported bucket (reports ++ [report]) =
      reported bucket reports + report.timeInStateMs.getD bucket 0 := by
  unfold reported
  rw [List.map_append, List.sum_append, List.map_singleton, List.sum_singleton]

theorem getD_map_zero (values : List ℤ) (bucket : ℕ) : (values.map fun _ ↦ (0 : ℤ)).getD bucket 0 = 0 := by
  rw [List.getD_eq_getElem?_getD, List.getElem?_map]
  cases values[bucket]? <;> rfl

/-- A report that is taken hands over the closed buckets. -/
theorem reportStats_accepted {after : StatsRecord} {now answered : ℤ} {new : List StatsReport}
    (hreport : reportStats statsRecord now answered true = some (after, new)) :
    ∃ closed since, Closes statsRecord closed statsRecord.curState now ∧
      after = { closed with
        timeInStateMs := closed.timeInStateMs.map fun _ ↦ 0
        lastStatsReportTime := answered } ∧
      new = [⟨since, closed.timeInStateMs⟩] := by
  unfold reportStats processStatsRecordForReporting at hreport
  obtain ⟨processed, hprocessed⟩ := Option.map_eq_some_iff.mp hreport
  obtain ⟨closed, hclosed⟩ := Option.map_eq_some_iff.mp hprocessed.1
  have hresult := hprocessed.2
  rw [← hclosed.2, if_pos rfl, Prod.mk.injEq] at hresult
  exact ⟨closed, _, closes_updateStatsRecord hclosed.1, hresult.1.symm, hresult.2.symm⟩

theorem reportStats_refused {after : StatsRecord} {now answered : ℤ} {new : List StatsReport}
    (hreport : reportStats statsRecord now answered false = some (after, new)) :
    after = restoreStatsRecordOnFailure statsRecord answered ∧ new = [] := by
  unfold reportStats at hreport
  obtain ⟨processed, hprocessed⟩ := Option.map_eq_some_iff.mp hreport
  have hresult := hprocessed.2
  rw [if_neg Bool.false_ne_true, Prod.mk.injEq] at hresult
  exact ⟨hresult.1.symm, hresult.2.symm⟩

theorem Credited.reportAccepted (h : Credited size state created steps statsRecord reports)
    {after : StatsRecord} {now answered : ℤ} {new : List StatsReport}
    (hclock : ∀ time ∈ created :: steps.map StatsStep.time, time ≤ now)
    (hstart : created ≤ statsRecord.curStateStartTime)
    (hreport : reportStats statsRecord now answered true = some (after, new)) :
    Credited size state created (steps ++ [.report now answered true]) after (reports ++ new) := by
  obtain ⟨closed, since, hsince⟩ := reportStats_accepted hreport
  have hcloses := hsince.1
  rw [hsince.2.1, hsince.2.2]
  apply Credited.mk
  · change closed.curStateStartTime ∈ _
    rw [hcloses.startTime, List.map_append, ← List.cons_append]
    exact List.mem_append_cons_self
  · change (closed.curState, closed.curStateStartTime) = _
    rw [hcloses.curState, hcloses.startTime, openInterval_concat, ← h.opened]
    rfl
  · intro time htime
    change closed.curStateStartTime ≤ time at htime
    rw [hcloses.startTime] at htime
    rw [stateAt_report, h.curState time ((hclock _ h.startTime).trans htime)]
    exact hcloses.curState.symm
  · change (closed.timeInStateMs.map _).length = size
    rw [List.length_map, hcloses.size, h.buckets]
  · change closed.reportFailCount = _
    rw [hcloses.failCount, h.failCount, List.countP_append]
    rfl
  · intro bucket hbucket
    change _ + (closed.timeInStateMs.map fun _ ↦ (0 : ℤ)).getD bucket 0 =
      (timeIn bucket _ created closed.curStateStartTime : ℤ)
    rw [getD_map_zero, add_zero, reported_concat, stateAt_report, hcloses.startTime]
    exact h.close hcloses hclock hstart bucket hbucket

/-- Short of a reset, a report that is refused only counts the failure. -/
theorem reportStats_refused_of_lt {after : StatsRecord} {now answered : ℤ} {new : List StatsReport}
    (hfew : statsRecord.reportFailCount + 1 < kMaxStatsReportingFailCount)
    (hreport : reportStats statsRecord now answered false = some (after, new)) :
    after = { statsRecord with reportFailCount := statsRecord.reportFailCount + 1 } ∧ new = [] := by
  have hrefused := reportStats_refused hreport
  unfold restoreStatsRecordOnFailure at hrefused
  rwa [if_neg (not_le_of_gt hfew)] at hrefused

theorem Credited.reportRefused (h : Credited size state created steps statsRecord reports)
    {after : StatsRecord} {now answered : ℤ} {new : List StatsReport}
    (hfew : statsRecord.reportFailCount + 1 < kMaxStatsReportingFailCount)
    (hreport : reportStats statsRecord now answered false = some (after, new)) :
    Credited size state created (steps ++ [.report now answered false]) after (reports ++ new) := by
  have hrefused := reportStats_refused_of_lt hfew hreport
  rw [hrefused.1, hrefused.2, List.append_nil]
  apply Credited.mk
  · exact mem_times_concat h.startTime
  · rw [openInterval_concat]
    exact h.opened
  · intro time htime
    rw [stateAt_report]
    exact h.curState time htime
  · exact h.buckets
  · change statsRecord.reportFailCount + 1 = _
    rw [h.failCount, List.countP_append]
    rfl
  · intro bucket hbucket
    rw [stateAt_report]
    exact h.credited bucket hbucket

end Credited

/-! ## Every run -/

/-- The clock does not go back, from the creation of the record on. -/
def ClockRuns (created : ℤ) (steps : List StatsStep) : Prop :=
  (created :: steps.map StatsStep.time).Pairwise (· ≤ ·)

theorem clockRuns_concat {created : ℤ} {steps : List StatsStep} {step : StatsStep}
    (hclock : ClockRuns created (steps ++ [step])) :
    ClockRuns created steps ∧ ∀ time ∈ created :: steps.map StatsStep.time, time ≤ step.time := by
  unfold ClockRuns at hclock
  rw [List.map_append, ← List.cons_append, List.pairwise_append] at hclock
  exact ⟨hclock.1, fun time htime ↦ hclock.2.2 time htime _ List.mem_cons_self⟩

/-- The failures are counted from the creation on, and the third one resets the record. -/
def NeverReset (steps : List StatsStep) : Prop :=
  steps.countP StatsStep.failedReport < kMaxStatsReportingFailCount

section Run

variable {size : ℕ} {state created : ℤ} {steps : List StatsStep} {final : StatsRecord}
  {reports : List StatsReport}
  (hrun : runSteps statsStep (StatsRecord.create size state created) steps = some (final, reports))
  (hclock : ClockRuns created steps) (hfew : NeverReset steps)

include hrun hclock hfew

theorem credited_run :
    Credited size state created steps final reports := by
  revert hclock hfew
  apply runSteps_keeps statsStep
    (fun steps final reports ↦ ClockRuns created steps → NeverReset steps →
      Credited size state created steps final reports)
    (fun _ _ ↦ credited_create) _ hrun
  intro steps statsRecord before next final new ih hstep hclock hfew
  have hsplit := clockRuns_concat hclock
  unfold NeverReset at hfew
  rw [List.countP_append] at hfew
  have h := ih hsplit.1 (lt_of_le_of_lt (Nat.le_add_right _ _) hfew)
  have hstart : created ≤ statsRecord.curStateStartTime := by
    apply Or.elim (List.mem_cons.mp h.startTime)
    · exact fun hsame ↦ hsame.symm.le
    · exact List.rel_of_pairwise_cons hsplit.1
  cases next with
  | update value now =>
    obtain ⟨updated, hupdated⟩ := Option.map_eq_some_iff.mp hstep
    have hresult := Prod.mk.inj hupdated.2
    rw [← hresult.1, ← hresult.2, List.append_nil]
    exact h.update hsplit.2 hstart hupdated.1
  | report now answered accepted =>
    cases accepted with
    | true => exact h.reportAccepted hsplit.2 hstart hstep
    | false =>
      apply h.reportRefused _ hstep
      rw [h.failCount]
      exact hfew

/-- Every state is credited exactly the time spent in it up to the start of the open interval, and a
report that fails loses nothing. -/
theorem residency_conserved :
    (∀ bucket < size, reported bucket reports + final.timeInStateMs.getD bucket 0 =
        timeIn bucket (stateAt state steps) created final.curStateStartTime) ∧
      final.curStateStartTime = (openInterval state created steps).2 ∧
      ∀ now answered after new, NeverReset (steps ++ [.report now answered false]) →
        statsStep final (.report now answered false) = some (after, new) →
          after = { final with reportFailCount := final.reportFailCount + 1 } ∧ new = [] := by
  have h := credited_run hrun hclock hfew
  refine ⟨h.credited, congrArg Prod.snd h.opened, ?_⟩
  intro now answered after new hnever hstep
  apply reportStats_refused_of_lt _ hstep
  unfold NeverReset at hnever
  rw [List.countP_append] at hnever
  rw [h.failCount]
  exact hnever

end Run

/-- An update, a failed report, an update back and a report that is taken. -/
def mixedSteps : List StatsStep :=
  [.update 1 10, .report 15 16 false, .update 0 20, .report 30 31 true]

theorem residency_conserved_mixed : ∃ final reports,
    runSteps statsStep (StatsRecord.create 2 0 0) mixedSteps = some (final, reports) ∧
      ∀ bucket < 2, reported bucket reports + final.timeInStateMs.getD bucket 0 =
        timeIn bucket (stateAt 0 mixedSteps) 0 final.curStateStartTime := by
  have hclock : ClockRuns 0 mixedSteps := by
    unfold ClockRuns
    decide
  have hfew : NeverReset mixedSteps := by
    unfold NeverReset
    decide
  apply Exists.intro
  apply Exists.intro
  apply And.intro
  · rfl
  · exact (residency_conserved rfl hclock hfew).1

end HardwareMediatek.Thermal
