import HardwareMediatek.Thermal.FailedAllocation

/-!
# The two passes of an allocation

The first pass marks the devices that keep their power: they need less than their share of the budget
and are not throttled. Their power and weight leave the totals between the passes. Within a pass the
totals stay, so which devices are marked is a matter of the inputs alone.
-/

namespace HardwareMediatek.Thermal

/-- The power of the rail of a device, as it was last read. -/
def railPower (powerStatusMap : PowerStatusMap) (binding : BindedCdevInfo) : ExactFloat :=
  ((powerStatusMap.lookup binding.powerRail).map PowerStatus.lastUpdatedAvgPower).getD .nan

/-- The power of the device is known, and it does not throttle with its power link. -/
structure HasPower (powerStatusMap : PowerStatusMap) (binding : BindedCdevInfo) : Prop where
  railed : binding.powerRail ≠ ""
  known : (railPower powerStatusMap binding).isNaN = false
  unlinked : binding.throttlingWithPowerLink = false

/-- A device that enters the passes. -/
def entersPasses (currSeverity : ThrottlingSeverity) (pair : BindedCdevEntry) :
    Bool :=
  !weightless currSeverity pair.2

/-- A device whose weight counts in the total. -/
def countsWeight (currSeverity : ThrottlingSeverity) (pair : BindedCdevEntry) :
    Bool :=
  pair.2.enabled && entersPasses currSeverity pair

/-- The weight of a device at a severity. -/
def weightAt (currSeverity : ThrottlingSeverity) (pair : BindedCdevEntry) :
    ExactFloat :=
  pair.2.cdevWeightForPid currSeverity

/-- The weights of the devices that count. -/
def enabledWeight (round : ExactFloat → ExactFloat) (currSeverity : ThrottlingSeverity)
    (pairs : List BindedCdevEntry) : ExactFloat :=
  roundedSum round ((pairs.filter (countsWeight currSeverity)).map (weightAt currSeverity))

/-- A device that enters the passes, is not throttled, and needs less than its share of a budget. -/
def keepsPower (input : UpdateInput) (status : ThermalThrottlingStatus)
    (totalPowerBudget totalWeight : ExactFloat) (pair : BindedCdevEntry) :
    Bool :=
  entersPasses input.currSeverity pair && decide (status.pidCdevRequestMap.lookup pair.1 = some 0) &&
    decide (0 < input.round
      (input.round (totalPowerBudget * input.round (weightAt input.currSeverity pair / totalWeight)) -
        railPower input.powerStatusMap pair.2))

section FirstPass

variable {input : UpdateInput} {status : ThermalThrottlingStatus} {bindings : BindedCdevInfoMap}
  {total : ExactFloat}

/-- While the power data are valid, a device that is passed has a power, and it has been read. -/
theorem getPowerData_next {powerStatusMap : PowerStatusMap} {binding : BindedCdevInfo}
    {s s' : AllocationState} (hvalid : s.powerDataInvalid = false)
    (hnext : getPowerData powerStatusMap binding s = .ok (.next s')) :
    HasPower powerStatusMap binding ∧
      s' = { s with lastUpdatedAvgPower := railPower powerStatusMap binding } := by
  unfold getPowerData at hnext
  rw [hvalid, if_neg Bool.false_ne_true] at hnext
  by_cases hrail : binding.powerRail = ""
  · rw [if_neg (not_not.mpr hrail)] at hnext
    cases hnext
  · rw [if_pos hrail] at hnext
    obtain ⟨power, hpower⟩ := bind_eq_ok.mp hnext
    have hread : railPower powerStatusMap binding = power.lastUpdatedAvgPower := by
      rw [railPower, atKey_eq_ok.mp hpower.1]
      rfl
    have hround := hpower.2
    dsimp only at hround
    by_cases hnan : power.lastUpdatedAvgPower.isNaN = true
    · rw [if_pos hnan] at hround
      cases hround
    · rw [if_neg hnan] at hround
      by_cases hlink : binding.throttlingWithPowerLink = true
      · rw [if_pos hlink] at hround
        cases hround
      · rw [if_neg hlink] at hround
        rw [hread]
        have hs : _ = s' := Flow.next.inj (Except.ok.inj hround)
        rw [← hs]
        apply And.intro
        · exact ⟨hrail, hread ▸ Bool.eq_false_of_not_eq_true hnan, Bool.eq_false_of_not_eq_true hlink⟩
        · rw [hvalid]

/-- The first loop adds up the weights that count, and leaves the other variables. -/
theorem foldl_addWeight_total (round : ExactFloat → ExactFloat) (currSeverity : ThrottlingSeverity)
    (pairs : List BindedCdevEntry) (s : AllocationState) :
    (pairs.foldl (addWeight round currSeverity) s).totalWeight =
        ((pairs.filter (countsWeight currSeverity)).map (weightAt currSeverity)).foldl
          (fun sum x ↦ round (sum + x)) s.totalWeight ∧
      (pairs.foldl (addWeight round currSeverity) s).totalPowerBudget = s.totalPowerBudget ∧
      (pairs.foldl (addWeight round currSeverity) s).allocatedPower = s.allocatedPower ∧
      (pairs.foldl (addWeight round currSeverity) s).allocatedWeight = s.allocatedWeight := by
  induction pairs generalizing s with
  | nil => exact ⟨rfl, rfl, rfl, rfl⟩
  | cons pair rest ih =>
    have hround : (addWeight round currSeverity s pair).totalWeight =
          (if countsWeight currSeverity pair then round (s.totalWeight + weightAt currSeverity pair)
          else s.totalWeight) ∧
        (addWeight round currSeverity s pair).totalPowerBudget = s.totalPowerBudget ∧
        (addWeight round currSeverity s pair).allocatedPower = s.allocatedPower ∧
        (addWeight round currSeverity s pair).allocatedWeight = s.allocatedWeight := by
      unfold addWeight countsWeight entersPasses weightless
      dsimp only
      cases pair.2.enabled with
      | false => exact ⟨rfl, rfl, rfl, rfl⟩
      | true =>
        rw [Bool.not_true, if_neg Bool.false_ne_true, Bool.true_and, Bool.true_and]
        by_cases hweight : ((pair.2.cdevWeightForPid currSeverity).isNaN ||
            (pair.2.cdevWeightForPid currSeverity).feq 0) = true
        · rw [if_pos hweight, hweight]
          exact ⟨rfl, rfl, rfl, rfl⟩
        · rw [if_neg hweight, Bool.eq_false_of_not_eq_true hweight]
          exact ⟨rfl, rfl, rfl, rfl⟩
    have hrest := ih (addWeight round currSeverity s pair)
    rw [List.foldl_cons]
    apply And.intro
    · rw [hrest.1, hround.1]
      by_cases hcounts : countsWeight currSeverity pair = true
      · rw [List.filter_cons_of_pos hcounts, if_pos hcounts, List.map_cons, List.foldl_cons]
      · rw [List.filter_cons_of_neg hcounts, if_neg hcounts]
    · exact ⟨hrest.2.1.trans hround.2.1, hrest.2.2.1.trans hround.2.2.1,
        hrest.2.2.2.trans hround.2.2.2⟩

/-- The devices that keep their power, of a list of bound ones. -/
def keepers (input : UpdateInput) (status : ThermalThrottlingStatus) (bindings : BindedCdevInfoMap)
    (total : ExactFloat) (pairs : List BindedCdevEntry) : List BindedCdevEntry :=
  pairs.filter (keepsPower input status total
    (enabledWeight input.round input.currSeverity bindings.entries))

/-- The first pass with the devices of `rest` still to come: those before that keep their power are
marked, and their power and weight have been added up. -/
structure MarksKeepers (input : UpdateInput) (status : ThermalThrottlingStatus)
    (bindings : BindedCdevInfoMap) (total : ExactFloat)
    (rest : List BindedCdevEntry) (s : AllocationState) : Prop where
  passed : ∃ before, bindings.entries = before ++ rest ∧
    (∀ pair ∈ before, entersPasses input.currSeverity pair = true →
      HasPower input.powerStatusMap pair.2) ∧
    (∀ cdev, cdev ∈ s.allocatedCdev ↔
      (∃ pair ∈ bindings.entries, pair.1 = cdev ∧ weightless input.currSeverity pair.2 = true) ∨
        cdev ∈ (keepers input status bindings total before).map Sigma.fst) ∧
    s.allocatedPower = roundedSum input.round ((keepers input status bindings total before).map
      fun pair ↦ railPower input.powerStatusMap pair.2) ∧
    s.allocatedWeight = roundedSum input.round ((keepers input status bindings total before).map
      (weightAt input.currSeverity))
  budget : s.totalPowerBudget = total
  weight : s.totalWeight = enabledWeight input.round input.currSeverity bindings.entries
  valid : s.powerDataInvalid = false
  budgets : s.pidPowerBudgetMap = status.pidPowerBudgetMap

theorem MarksKeepers.start :
    MarksKeepers input status bindings total bindings.entries
      (initialAllocation input status bindings total) := by
  unfold initialAllocation
  have htotals := foldl_addWeight_total input.round input.currSeverity bindings.entries
  have hmarked := foldl_addWeight_allocated input.round input.currSeverity bindings.entries
  apply MarksKeepers.mk
  · apply Exists.intro []
    apply And.intro rfl
    apply And.intro
    · exact fun _ hpair ↦ absurd hpair List.not_mem_nil
    · apply And.intro
      · intro cdev
        rw [(hmarked _ cdev).1]
        exact Or.comm
      · exact ⟨(htotals _).2.2.1, (htotals _).2.2.2⟩
  · exact (htotals _).2.1
  · exact (htotals _).1
  · exact (hmarked _ "").2
  · exact addWeight_budgets _ _ _ _

/-- The next device is skipped exactly when it does not enter the passes. -/
theorem MarksKeepers.skips_iff {pair : BindedCdevEntry}
    {rest : List BindedCdevEntry} {s : AllocationState}
    (h : MarksKeepers input status bindings total (pair :: rest) s) :
    pair.1 ∈ s.allocatedCdev ↔ weightless input.currSeverity pair.2 = true := by
  obtain ⟨before, hbefore⟩ := h.passed
  have hpair : pair ∈ bindings.entries := by
    rw [hbefore.1]
    exact List.mem_append_cons_self
  have hnodup : ((before ++ pair :: rest).map Sigma.fst).Nodup := hbefore.1 ▸ bindings.nodupKeys
  rw [List.map_append, List.map_cons] at hnodup
  rw [hbefore.2.2.1 pair.1]
  apply Iff.intro
  · intro hmarked
    apply Or.elim hmarked
    · rintro ⟨pair', hpair', hkey, hweightless⟩
      rw [← List.inj_on_of_nodup_map bindings.nodupKeys hpair' hpair hkey]
      exact hweightless
    · intro hkeeper
      have hmem : pair.1 ∈ before.map Sigma.fst :=
        List.map_subset _ (List.filter_subset_self _) hkeeper
      exact absurd List.mem_cons_self ((List.nodup_append'.mp hnodup).2.2 hmem)
  · exact fun hweightless ↦ Or.inl ⟨pair, hpair, rfl, hweightless⟩

/-- One round further: a device that keeps its power is marked and added. -/
theorem MarksKeepers.next {pair : BindedCdevEntry}
    {rest : List BindedCdevEntry} {s s' : AllocationState}
    (h : MarksKeepers input status bindings total (pair :: rest) s)
    (hpower : entersPasses input.currSeverity pair = true → HasPower input.powerStatusMap pair.2)
    (hround : s' =
      if keepsPower input status total (enabledWeight input.round input.currSeverity bindings.entries)
          pair then
        { s with
          lastUpdatedAvgPower := s'.lastUpdatedAvgPower
          allocatedPower := input.round (s.allocatedPower + railPower input.powerStatusMap pair.2)
          allocatedWeight := input.round (s.allocatedWeight + weightAt input.currSeverity pair)
          allocatedCdev := pair.1 :: s.allocatedCdev }
      else { s with lastUpdatedAvgPower := s'.lastUpdatedAvgPower }) :
    MarksKeepers input status bindings total rest s' := by
  obtain ⟨before, hbefore⟩ := h.passed
  have hkeepers : keepers input status bindings total (before ++ [pair]) =
      keepers input status bindings total before ++
        if keepsPower input status total (enabledWeight input.round input.currSeverity bindings.entries)
            pair then
          [pair]
        else [] := by
    unfold keepers
    rw [List.filter_append]
    apply congrArg
    split
    · rename_i hkeeps
      exact List.filter_cons_of_pos hkeeps
    · rename_i hkeeps
      exact List.filter_cons_of_neg hkeeps
  have hpassed : bindings.entries = (before ++ [pair]) ++ rest := by
    rw [List.append_assoc]
    exact hbefore.1
  have hpowers : ∀ pair' ∈ before ++ [pair], entersPasses input.currSeverity pair' = true →
      HasPower input.powerStatusMap pair'.2 := by
    intro pair' hpair'
    apply Or.elim (List.mem_append.mp hpair')
    · exact hbefore.2.1 pair'
    · intro hsame
      rw [List.mem_singleton.mp hsame]
      exact hpower
  by_cases hkeeps : keepsPower input status total
      (enabledWeight input.round input.currSeverity bindings.entries) pair = true
  · rw [if_pos hkeeps] at hround hkeepers
    rw [hround]
    refine ⟨⟨before ++ [pair], hpassed, hpowers, ?_, ?_, ?_⟩, h.budget, h.weight, h.valid, h.budgets⟩
    · intro cdev
      rw [hkeepers, List.map_append, List.mem_append, List.mem_cons, hbefore.2.2.1 cdev,
        List.map_singleton, List.mem_singleton]
      exact or_comm.trans or_assoc
    · rw [hkeepers, List.map_append, List.map_singleton, roundedSum_concat, ← hbefore.2.2.2.1]
    · rw [hkeepers, List.map_append, List.map_singleton, roundedSum_concat, ← hbefore.2.2.2.2]
  · rw [if_neg hkeeps] at hround hkeepers
    rw [List.append_nil] at hkeepers
    rw [hround]
    refine ⟨⟨before ++ [pair], hpassed, hpowers, ?_, ?_, ?_⟩, h.budget, h.weight, h.valid, h.budgets⟩
    · rw [hkeepers]
      exact hbefore.2.2.1
    · rw [hkeepers]
      exact hbefore.2.2.2.1
    · rw [hkeepers]
      exact hbefore.2.2.2.2

theorem MarksKeepers.round {pair : BindedCdevEntry}
    {rest : List BindedCdevEntry} {s : AllocationState}
    (h : MarksKeepers input status bindings total (pair :: rest) s) :
    Meets (checkLowPowerDevice input status pair s)
      (Flow.Ends (MarksKeepers input status bindings total rest) (fun _ ↦ True) fun _ ↦ True)
      fun _ ↦ True := by
  unfold checkLowPowerDevice
  dsimp only
  by_cases hweightless : weightless input.currSeverity pair.2 = true
  · rw [if_pos (h.skips_iff.mpr hweightless)]
    have hout : entersPasses input.currSeverity pair = false := by
      rw [entersPasses, hweightless, Bool.not_true]
    apply h.next
    · intro henters
      rw [hout] at henters
      cases henters
    · rw [keepsPower, hout, Bool.false_and, Bool.false_and, if_neg Bool.false_ne_true]
  · rw [if_neg fun hmarked ↦ hweightless (h.skips_iff.mp hmarked)]
    have hin : entersPasses input.currSeverity pair = true := by
      rw [entersPasses, Bool.eq_false_of_not_eq_true hweightless, Bool.not_false]
    apply (meets_self _).bind
    intro flow hflow
    cases flow with
    | stop s' => trivial
    | giveUp s' => trivial
    | next s' =>
      have hread := getPowerData_next h.valid hflow
      have hshare : s'.share input.round (pair.2.cdevWeightForPid input.currSeverity) -
            s'.lastUpdatedAvgPower =
          input.round (total * input.round (weightAt input.currSeverity pair /
            enabledWeight input.round input.currSeverity bindings.entries)) -
              railPower input.powerStatusMap pair.2 := by
        rw [hread.2]
        unfold AllocationState.share
        dsimp only
        rw [h.budget, h.weight]
        rfl
      dsimp only
      rw [hshare]
      by_cases hadjusted : 0 < input.round (input.round (total * input.round
          (weightAt input.currSeverity pair /
            enabledWeight input.round input.currSeverity bindings.entries)) -
          railPower input.powerStatusMap pair.2)
      · rw [if_pos hadjusted]
        apply (meets_self _).bind
        intro request hrequest
        have hlookup := atKey_eq_ok.mp hrequest
        by_cases hzero : request = 0
        · rw [if_pos hzero]
          apply h.next fun _ ↦ hread.1
          rw [keepsPower, hin, hlookup, hzero, decide_eq_true rfl, decide_eq_true hadjusted,
            Bool.and_self, Bool.and_self, if_pos rfl, hread.2]
          rfl
        · rw [if_neg hzero]
          apply h.next fun _ ↦ hread.1
          have hother : ¬ some request = some 0 := fun hsame ↦ hzero (Option.some.inj hsame)
          rw [keepsPower, hlookup, decide_eq_false hother, Bool.and_false, Bool.false_and,
            if_neg Bool.false_ne_true, hread.2]
      · rw [if_neg hadjusted]
        apply h.next fun _ ↦ hread.1
        rw [keepsPower, decide_eq_false hadjusted, Bool.and_false, if_neg Bool.false_ne_true, hread.2]

/-- A first pass that goes on to its end has marked the devices that keep their power. -/
theorem firstPass_marksKeepers {s : AllocationState}
    (hfirst : iterate (checkLowPowerDevice input status) bindings.entries
      (initialAllocation input status bindings total) = .ok (.next s)) :
    MarksKeepers input status bindings total [] s :=
  (meets_iterate_rest (J := MarksKeepers input status bindings total) (fun _ _ _ h ↦ h.round)
    MarksKeepers.start).of_ok hfirst

end FirstPass

/-! ## The second pass -/

/-- What the second pass leaves alone. -/
structure SameTotals (s s' : AllocationState) : Prop where
  budget : s'.totalPowerBudget = s.totalPowerBudget
  weight : s'.totalWeight = s.totalWeight
  marked : s'.allocatedCdev = s.allocatedCdev

theorem SameTotals.refl (s : AllocationState) : SameTotals s s := ⟨rfl, rfl, rfl⟩

theorem SameTotals.trans {s s' s'' : AllocationState} (h : SameTotals s s') (h' : SameTotals s' s'') :
    SameTotals s s'' :=
  ⟨h'.budget.trans h.budget, h'.weight.trans h.weight, h'.marked.trans h.marked⟩

theorem getPowerData_sameTotals (powerStatusMap : PowerStatusMap) (binding : BindedCdevInfo)
    (s : AllocationState) :
    Meets (getPowerData powerStatusMap binding s) (fun flow ↦ SameTotals s flow.state)
      fun _ ↦ True := by
  unfold getPowerData
  split
  · exact SameTotals.refl s
  · split
    · apply (meets_true _).bind
      intro power _
      dsimp only
      split
      · exact ⟨rfl, rfl, rfl⟩
      · split <;> exact ⟨rfl, rfl, rfl⟩
    · exact ⟨rfl, rfl, rfl⟩

theorem allocateDevice_sameTotals (input : UpdateInput) (votes : CdevAllRequestMap)
    (status : ThermalThrottlingStatus) (pair : BindedCdevEntry) (s : AllocationState) :
    Meets (allocateDevice input votes status pair s) (fun flow ↦ SameTotals s flow.state)
      fun _ ↦ True := by
  unfold allocateDevice
  split
  · exact SameTotals.refl s
  · apply (getPowerData_sameTotals _ _ s).bind
    intro flow hflow
    cases flow with
    | stop s' => exact hflow
    | giveUp s' => exact hflow
    | next s' =>
      apply (meets_true _).bind
      intro cdevInfo _
      apply (meets_true _).bind
      intro atMax _
      split
      · exact hflow
      · unfold deviceBudget
        apply (meets_true _).bind
        intro _ _
        apply (meets_true _).bind
        intro _ _
        apply (meets_true _).bind
        intro found _
        cases found with
        | none => exact hflow
        | some maxCdevVote =>
          apply (meets_true _).bind
          intro _ _
          apply (meets_true _).bind
          intro _ _
          apply (meets_true _).bind
          intro _ _
          exact ⟨hflow.budget, hflow.weight, hflow.marked⟩

/-- The totals are the same all along the second pass. -/
theorem secondPass_sameTotals {input : UpdateInput} {votes : CdevAllRequestMap}
    {status : ThermalThrottlingStatus} (pairs : List BindedCdevEntry) (s : AllocationState) :
    Meets (iterate (allocateDevice input votes status) pairs s) (fun flow ↦ SameTotals s flow.state)
      fun _ ↦ True :=
  meets_iterate (I := SameTotals s)
    (fun pair _ s' hs' ↦ (allocateDevice_sameTotals input votes status pair s').imp
      fun _ hflow ↦ hs'.trans hflow) (SameTotals.refl s)

end HardwareMediatek.Thermal
