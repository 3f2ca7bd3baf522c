import HardwareMediatek.Thermal.StatsResidency

/-!
# Reports that fail

A record is dropped when its third report has failed. Failures are counted over the life of the record,
because a report that is taken goes on with the record whose count it has processed. So the failures
that add up to a drop need not follow each other.
-/

namespace HardwareMediatek.Thermal

open Foundation

/-- Whether the client took a report. -/
def StatsStep.outcome : StatsStep → Option Bool
  | update _ _ => none
  | report _ _ accepted => some accepted

/-- The outcomes of the report attempts. -/
def outcomes (steps : List StatsStep) : List Bool := steps.filterMap StatsStep.outcome

/-- A report fails, and the record starts anew with empty buckets. -/
def Drops (statsRecord : StatsRecord) (step : StatsStep) : Prop :=
  ∃ now answered, step = .report now answered false ∧ statsStep statsRecord step =
    some (StatsRecord.create statsRecord.timeInStateMs.length statsRecord.curState answered, [])

/-- As many reports in a row as the limit says have failed last. -/
def LastFailed (attempts : List Bool) : Prop :=
  List.replicate kMaxStatsReportingFailCount false <:+ attempts

/-- The record is dropped only after failures that follow each other. -/
def DropsOnlyAfterFailures (start : StatsRecord) (steps : List StatsStep) : Prop :=
  EachAfter (fun before step ↦ ∀ statsRecord reports,
    runSteps statsStep start before = some (statsRecord, reports) → Drops statsRecord step →
      LastFailed (outcomes (before ++ [step]))) steps

/-- The failures are grouped as they are counted from the creation of the record on. Those of a complete
group are not interrupted by a success. -/
def GroupsConsecutive (attempts : List Bool) : Prop :=
  EachAfter (fun before accepted ↦ accepted = false →
    kMaxStatsReportingFailCount ∣ (before ++ [accepted]).count false →
      LastFailed (before ++ [accepted])) attempts

section Counting

variable {size : ℕ} {state created : ℤ} {steps : List StatsStep} {statsRecord final : StatsRecord}
  {reports : List StatsReport}

theorem outcomes_concat (steps : List StatsStep) (step : StatsStep) :
    outcomes (steps ++ [step]) = outcomes steps ++ step.outcome.toList := by
  unfold outcomes
  rw [List.filterMap_append]
  cases step <;> rfl

theorem outcomes_update (value now : ℤ) :
    outcomes (steps ++ [.update value now]) = outcomes steps := by
  rw [outcomes_concat]
  exact List.append_nil _

theorem outcomes_report (now answered : ℤ) (accepted : Bool) :
    outcomes (steps ++ [.report now answered accepted]) = outcomes steps ++ [accepted] :=
  outcomes_concat steps _

/-- The count of a step: a failure is added, modulo the limit, and nothing else changes it. -/
theorem statsStep_reportFailCount {step : StatsStep} {after : StatsRecord} {new : List StatsReport}
    (hstep : statsStep statsRecord step = some (after, new)) {failures : ℕ}
    (hcount : statsRecord.reportFailCount = failures % kMaxStatsReportingFailCount) :
    after.reportFailCount =
      (failures + step.outcome.toList.count false) % kMaxStatsReportingFailCount := by
  cases step with
  | update value now =>
    obtain ⟨updated, hupdated, hresult⟩ := Option.map_eq_some_iff.mp hstep
    obtain ⟨rfl, -⟩ := Prod.mk.inj hresult
    change updated.reportFailCount = failures % kMaxStatsReportingFailCount
    rw [← hcount]
    unfold updateStats at hupdated
    split at hupdated
    · exact (closes_updateStatsRecord hupdated).failCount
    · rw [Option.some.inj hupdated]
  | report now answered accepted =>
    cases accepted with
    | true =>
      obtain ⟨closed, since, hcloses, rfl, -⟩ := reportStats_accepted hstep
      exact hcloses.failCount.trans hcount
    | false =>
      obtain ⟨rfl, -⟩ := reportStats_refused hstep
      change _ = (failures + 1) % kMaxStatsReportingFailCount
      unfold restoreStatsRecordOnFailure
      unfold kMaxStatsReportingFailCount at hcount ⊢
      split
      · change 0 = _
        omega
      · change statsRecord.reportFailCount + 1 = _
        omega

/-- The count of a record is the number of its failures, modulo the limit. -/
theorem reportFailCount_run
    (hrun : runSteps statsStep (StatsRecord.create size state created) steps =
      some (statsRecord, reports)) :
    statsRecord.reportFailCount =
      (outcomes steps).count false % kMaxStatsReportingFailCount := by
  apply runSteps_keeps statsStep (fun steps statsRecord _ ↦ statsRecord.reportFailCount =
    (outcomes steps).count false % kMaxStatsReportingFailCount) rfl _ hrun
  intro steps statsRecord before step final new hcount hstep
  rw [outcomes_concat, List.count_append]
  exact statsStep_reportFailCount hstep hcount

/-- A failed report drops the record when it completes a group of failures. -/
theorem drops_iff {step : StatsStep} {after : StatsRecord} {new : List StatsReport}
    (hstep : statsStep statsRecord step = some (after, new)) :
    Drops statsRecord step ↔ step.outcome = some false ∧
      kMaxStatsReportingFailCount ≤ statsRecord.reportFailCount + 1 := by
  constructor
  · rintro ⟨now, answered, rfl, hdropped⟩
    refine ⟨rfl, ?_⟩
    apply not_lt.mp
    intro hfew
    have hkept := (reportStats_refused_of_lt hfew hdropped).1
    exact absurd (congrArg StatsRecord.reportFailCount hkept) (Nat.zero_ne_add_one _)
  · rintro ⟨houtcome, hmany⟩
    cases step with
    | update value now => cases houtcome
    | report now answered accepted =>
      obtain rfl : accepted = false := Option.some.inj houtcome
      refine ⟨now, answered, rfl, ?_⟩
      obtain ⟨rfl, rfl⟩ := reportStats_refused hstep
      rw [hstep]
      unfold restoreStatsRecordOnFailure
      rw [if_pos hmany]

/-- A drop follows three failures in a row exactly when the failures of each group are in a row. -/
theorem dropsOnlyAfterFailures_iff
    (hrun : runSteps statsStep (StatsRecord.create size state created) steps =
      some (final, reports)) :
    DropsOnlyAfterFailures (StatsRecord.create size state created) steps ↔
      GroupsConsecutive (outcomes steps) := by
  unfold DropsOnlyAfterFailures GroupsConsecutive
  induction steps using List.reverseRecOn generalizing final reports with
  | nil => exact iff_of_true (eachAfter_nil _) (eachAfter_nil _)
  | append_singleton steps step ih =>
    obtain ⟨statsRecord, before, new, hbefore, hstep, -⟩ := runSteps_concat statsStep hrun
    have hcount := reportFailCount_run hbefore
    have hlast : (∀ statsRecord reports,
        runSteps statsStep (StatsRecord.create size state created) steps =
          some (statsRecord, reports) → Drops statsRecord step →
            LastFailed (outcomes (steps ++ [step]))) ↔
        (Drops statsRecord step → LastFailed (outcomes (steps ++ [step]))) := by
      constructor
      · exact fun hdrops ↦ hdrops statsRecord before hbefore
      · intro hdrops statsRecord' reports' hrun'
        rw [hbefore] at hrun'
        obtain ⟨rfl, -⟩ := Prod.mk.inj (Option.some.inj hrun')
        exact hdrops
    rw [eachAfter_concat, ih hbefore, hlast, drops_iff hstep]
    cases step with
    | update value now =>
      rw [outcomes_update]
      simp [StatsStep.outcome]
    | report now answered accepted =>
      rw [outcomes_report, eachAfter_concat]
      apply and_congr_right'
      rw [hcount, and_imp]
      have haccepted : (StatsStep.report now answered accepted).outcome = some false ↔
          accepted = false := Option.some_inj
      rw [haccepted]
      apply imp_congr_right
      rintro rfl
      have hcomplete : (outcomes steps ++ [false]).count false = (outcomes steps).count false + 1 := by
        rw [List.count_append]
        rfl
      rw [hcomplete]
      apply imp_congr_left
      unfold kMaxStatsReportingFailCount
      omega

end Counting

/-! ## A success between failures -/

/-- Two failures, a success and another failure. -/
def interruptedSteps : List StatsStep :=
  [.report 1 1 false, .report 2 2 false, .report 3 3 true, .report 4 4 false]

theorem interruptedSteps_dropsOnlyAfterFailures_iff :
    DropsOnlyAfterFailures (StatsRecord.create 1 0 0) interruptedSteps ↔
      GroupsConsecutive (outcomes interruptedSteps) :=
  dropsOnlyAfterFailures_iff (show runSteps statsStep (StatsRecord.create 1 0 0) interruptedSteps =
    some _ from rfl)

/-- The record is dropped although the report before the last one was taken. -/
theorem interruptedSteps_drops :
    ¬DropsOnlyAfterFailures (StatsRecord.create 1 0 0) interruptedSteps := by
  intro hdrops
  have hlast := hdrops [.report 1 1 false, .report 2 2 false, .report 3 3 true] (.report 4 4 false) []
    rfl _ _ rfl ⟨4, 4, rfl, rfl⟩
  exact absurd hlast (by unfold LastFailed; decide)

end HardwareMediatek.Thermal
