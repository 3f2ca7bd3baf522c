import HardwareMediatek.Foundation.FilteredSums
import HardwareMediatek.Foundation.FloatOrder
import HardwareMediatek.Thermal.AllocationPasses

/-!
# The totals of the second pass

The arithmetic is exact here. The total weight is added up over the devices that are switched on, but
reduced for every device that keeps its power. A device that is switched off may keep its power too,
and then the total is too small for the devices that are left.
-/

namespace HardwareMediatek.Thermal

/-- Every weight is a number that is not negative, or not a number at all. -/
def RegularWeights (currSeverity : ThrottlingSeverity) (pairs : List BindedCdevEntry) : Prop :=
  ∀ pair ∈ pairs, weightAt currSeverity pair = .nan ∨
    ∃ weight : ℚ, 0 ≤ weight ∧ weightAt currSeverity pair = .fin weight

/-- A device that is switched on and has no budget yet. -/
def awaitsBudget (s : AllocationState) (pair : BindedCdevEntry) : Bool :=
  pair.2.enabled && decide (pair.1 ∉ s.allocatedCdev)

/-- A device that was marked in the first pass. -/
def markedInFirstPass (currSeverity : ThrottlingSeverity) (s : AllocationState)
    (pair : BindedCdevEntry) : Bool :=
  entersPasses currSeverity pair && decide (pair.1 ∈ s.allocatedCdev)

/-- The total weight is that of the devices that are switched on and wait for a budget, the total
budget is what the marked devices leave of it, and no budget is divided by zero. -/
structure TotalsAccounted (input : UpdateInput) (bindings : BindedCdevInfoMap) (total : ExactFloat)
    (s : AllocationState) : Prop where
  weight : s.totalWeight =
    ((bindings.entries.filter (awaitsBudget s)).map (weightAt input.currSeverity)).sum
  budget : s.totalPowerBudget = total -
    ((bindings.entries.filter (markedInFirstPass input.currSeverity s)).map
      fun pair ↦ railPower input.powerStatusMap pair.2).sum
  divisor : (∃ pair ∈ bindings.entries, awaitsBudget s pair = true ∧
    0 < weightAt input.currSeverity pair) → s.totalWeight ≠ 0

/-- No device that is switched off and has a weight keeps its power. -/
def NoWeightLost (input : UpdateInput) (status : ThermalThrottlingStatus)
    (bindings : BindedCdevInfoMap) (total : ExactFloat) : Prop :=
  ∀ pair ∈ bindings.entries, pair.2.enabled = false →
    keepsPower input status total (enabledWeight input.round input.currSeverity bindings.entries)
      pair = true → weightAt input.currSeverity pair = 0

section Totals

variable {input : UpdateInput} {votes : CdevAllRequestMap} {status : ThermalThrottlingStatus}
  {bindings : BindedCdevInfoMap} {total : ExactFloat} {s : AllocationState}

theorem TotalsAccounted.of_sameTotals {s' : AllocationState} (hsame : SameTotals s s')
    (h : TotalsAccounted input bindings total s) : TotalsAccounted input bindings total s' := by
  have hawaits : awaitsBudget s' = awaitsBudget s := by
    funext pair
    rw [awaitsBudget, awaitsBudget, hsame.marked]
  have hmarked : markedInFirstPass input.currSeverity s' = markedInFirstPass input.currSeverity s := by
    funext pair
    rw [markedInFirstPass, markedInFirstPass, hsame.marked]
  apply TotalsAccounted.mk
  · rw [hsame.weight, hawaits]
    exact h.weight
  · rw [hsame.budget, hmarked]
    exact h.budget
  · rw [hsame.weight, hawaits]
    exact h.divisor

/-- A device that keeps its power has a weight that is a number. -/
theorem weight_of_keepsPower (hexact : input.round = id) {totalWeight : ExactFloat}
    {pair : BindedCdevEntry} (hkeeps : keepsPower input status total totalWeight pair = true) :
    weightAt input.currSeverity pair ≠ .nan := by
  intro hnan
  rw [keepsPower, Bool.and_eq_true, decide_eq_true_eq, hnan, hexact] at hkeeps
  have hshare : total * (ExactFloat.nan / totalWeight) - railPower input.powerStatusMap pair.2 =
      .nan := by
    rw [ExactFloat.div_def, ExactFloat.mul_def, ExactFloat.sub_def, ExactFloat.add_def]
    cases totalWeight <;> cases total <;> rfl
  rw [id, id, id, hshare] at hkeeps
  exact ExactFloat.not_lt_nan _ hkeeps.2

/-- A device that counts has a weight that is a number. -/
theorem weight_of_countsWeight {currSeverity : ThrottlingSeverity}
    {pair : BindedCdevEntry} (hcounts : countsWeight currSeverity pair = true) :
    weightAt currSeverity pair ≠ .nan ∧ weightAt currSeverity pair ≠ 0 := by
  rw [countsWeight, entersPasses, weightless, Bool.and_eq_true] at hcounts
  rw [hcounts.1, Bool.true_and] at hcounts
  have hweight := (Bool.not_eq_true' _).mp hcounts.2
  rw [Bool.or_eq_false_iff] at hweight
  apply And.intro
  · intro hnan
    have hvalue : pair.2.cdevWeightForPid currSeverity = .nan := hnan
    rw [hvalue] at hweight
    cases hweight.1
  · intro hzero
    have hvalue : pair.2.cdevWeightForPid currSeverity = 0 := hzero
    rw [hvalue] at hweight
    cases hweight.2

theorem RegularWeights.finite {currSeverity : ThrottlingSeverity}
    (hweights : RegularWeights currSeverity bindings.entries)
    {pair : BindedCdevEntry} (hpair : pair ∈ bindings.entries)
    (hnumber : weightAt currSeverity pair ≠ .nan) :
    weightAt currSeverity pair = .fin (weightAt currSeverity pair).value ∧
      0 ≤ (weightAt currSeverity pair).value := by
  obtain ⟨weight, hweight⟩ := (hweights pair hpair).resolve_left hnumber
  rw [hweight.2]
  exact ⟨rfl, hweight.1⟩

/-- The devices that are marked after the first pass. -/
theorem MarksKeepers.mem_iff (h : MarksKeepers input status bindings total [] s)
    {pair : BindedCdevEntry} (hpair : pair ∈ bindings.entries) :
    pair.1 ∈ s.allocatedCdev ↔ weightless input.currSeverity pair.2 = true ∨
      keepsPower input status total (enabledWeight input.round input.currSeverity bindings.entries)
        pair = true := by
  obtain ⟨before, hbefore⟩ := h.passed
  have hall : bindings.entries = before := hbefore.1.trans (List.append_nil _)
  rw [hbefore.2.2.1 pair.1, ← hall]
  apply or_congr
  · apply Iff.intro
    · rintro ⟨pair', hpair', hkey, hweightless⟩
      rw [← List.inj_on_of_nodup_map bindings.nodupKeys hpair' hpair hkey]
      exact hweightless
    · exact fun hweightless ↦ ⟨pair, hpair, rfl, hweightless⟩
  · apply Iff.intro
    · intro hmem
      obtain ⟨pair', hpair'⟩ := List.mem_map.mp hmem
      have hfiltered := List.mem_filter.mp hpair'.1
      rw [← List.inj_on_of_nodup_map bindings.nodupKeys hfiltered.1 hpair hpair'.2]
      exact hfiltered.2
    · exact fun hkeeps ↦ List.mem_map_of_mem (List.mem_filter.mpr ⟨hpair, hkeeps⟩)

/-- Between the passes the power and the weight of the keepers have left the totals. -/
theorem settlePass_totals (h : MarksKeepers input status bindings total [] s) :
    (settlePass input.round s).totalPowerBudget = input.round (total - roundedSum input.round
        ((keepers input status bindings total bindings.entries).map
          fun pair ↦ railPower input.powerStatusMap pair.2)) ∧
      (settlePass input.round s).totalWeight =
        input.round (enabledWeight input.round input.currSeverity bindings.entries -
          roundedSum input.round ((keepers input status bindings total bindings.entries).map
            (weightAt input.currSeverity))) ∧
      (settlePass input.round s).allocatedCdev = s.allocatedCdev := by
  obtain ⟨before, hbefore⟩ := h.passed
  have hall : bindings.entries = before := hbefore.1.trans (List.append_nil _)
  unfold settlePass
  rw [h.valid, Bool.not_false, if_pos rfl]
  dsimp only
  rw [h.budget, h.weight, hbefore.2.2.2.1, hbefore.2.2.2.2, hall]
  exact ⟨rfl, rfl, rfl⟩

/-- The same without rounding. -/
theorem settlePass_totals_exact (hexact : input.round = id)
    (h : MarksKeepers input status bindings total [] s) :
    (settlePass input.round s).totalPowerBudget = total -
        ((keepers input status bindings total bindings.entries).map
          fun pair ↦ railPower input.powerStatusMap pair.2).sum ∧
      (settlePass input.round s).totalWeight =
        ((bindings.entries.filter (countsWeight input.currSeverity)).map
          (weightAt input.currSeverity)).sum -
        ((keepers input status bindings total bindings.entries).map
          (weightAt input.currSeverity)).sum := by
  have htotals := settlePass_totals h
  rw [htotals.1, htotals.2.1, enabledWeight, hexact]
  simp only [roundedSum_id, id, and_self]

theorem awaitsBudget_eq (h : MarksKeepers input status bindings total [] s) :
    bindings.entries.filter (awaitsBudget (settlePass input.round s)) =
      bindings.entries.filter fun pair ↦ countsWeight input.currSeverity pair &&
        !keepsPower input status total (enabledWeight input.round input.currSeverity bindings.entries)
          pair := by
  apply List.filter_congr
  intro pair hpair
  have hmarked := h.mem_iff hpair
  rw [awaitsBudget, (settlePass_totals h).2.2, countsWeight, entersPasses, decide_not,
    decide_eq_decide.mpr hmarked, Bool.decide_or, Bool.decide_eq_true, Bool.decide_eq_true, Bool.not_or,
    Bool.and_assoc]

theorem markedInFirstPass_eq (h : MarksKeepers input status bindings total [] s) :
    bindings.entries.filter (markedInFirstPass input.currSeverity (settlePass input.round s)) =
      keepers input status bindings total bindings.entries := by
  apply List.filter_congr
  intro pair hpair
  have hmarked := h.mem_iff hpair
  rw [markedInFirstPass, (settlePass_totals h).2.2, entersPasses, decide_eq_decide.mpr hmarked,
    Bool.decide_or, Bool.decide_eq_true, Bool.decide_eq_true]
  cases hweightless : weightless input.currSeverity pair.2 with
  | false => rfl
  | true =>
    rw [keepsPower, entersPasses, hweightless]
    rfl

/-- The total weight is right exactly when the keepers that are switched off weigh nothing. -/
theorem settlePass_weight_iff (hexact : input.round = id)
    (hweights : RegularWeights input.currSeverity bindings.entries)
    (h : MarksKeepers input status bindings total [] s) :
    (settlePass input.round s).totalWeight =
      ((bindings.entries.filter (awaitsBudget (settlePass input.round s))).map
        (weightAt input.currSeverity)).sum ↔ NoWeightLost input status bindings total := by
  -- the four sums of the exchange, as rational numbers
  have hcounts : ∀ pair ∈ bindings.entries.filter (countsWeight input.currSeverity),
      weightAt input.currSeverity pair = .fin (weightAt input.currSeverity pair).value := by
    intro pair hpair
    have hmem := List.mem_filter.mp hpair
    exact (hweights.finite hmem.1 (weight_of_countsWeight hmem.2).1).1
  have hkeeps : ∀ pair ∈ keepers input status bindings total bindings.entries,
      weightAt input.currSeverity pair = .fin (weightAt input.currSeverity pair).value := by
    intro pair hpair
    have hmem := List.mem_filter.mp hpair
    exact (hweights.finite hmem.1 (weight_of_keepsPower hexact hmem.2)).1
  have hleft : ∀ pair ∈ bindings.entries.filter fun pair ↦ countsWeight input.currSeverity pair &&
        !keepsPower input status total (enabledWeight input.round input.currSeverity bindings.entries)
          pair, weightAt input.currSeverity pair = .fin (weightAt input.currSeverity pair).value := by
    intro pair hpair
    have hmem := List.mem_filter.mp hpair
    exact hcounts pair (List.mem_filter.mpr ⟨hmem.1, (Bool.and_eq_true _ _ ▸ hmem.2).1⟩)
  have hexchange := sum_filter_exchange (countsWeight input.currSeverity)
    (keepsPower input status total (enabledWeight input.round input.currSeverity bindings.entries))
    (fun pair ↦ (weightAt input.currSeverity pair).value) bindings.entries
  have hlost : ∀ pair ∈ bindings.entries.filter (fun pair ↦
        keepsPower input status total (enabledWeight input.round input.currSeverity bindings.entries)
          pair && !countsWeight input.currSeverity pair),
      0 ≤ (weightAt input.currSeverity pair).value := by
    intro pair hpair
    have hmem := List.mem_filter.mp hpair
    exact (hweights.finite hmem.1
      (weight_of_keepsPower hexact (Bool.and_eq_true _ _ ▸ hmem.2).1)).2
  have htotal : ((bindings.entries.filter (countsWeight input.currSeverity)).map
          (weightAt input.currSeverity)).sum -
        ((keepers input status bindings total bindings.entries).map (weightAt input.currSeverity)).sum =
      .fin (((bindings.entries.filter (countsWeight input.currSeverity)).map
          fun pair ↦ (weightAt input.currSeverity pair).value).sum -
        ((keepers input status bindings total bindings.entries).map
          fun pair ↦ (weightAt input.currSeverity pair).value).sum) := by
    rw [ExactFloat.sum_eq_fin hcounts, ExactFloat.sum_eq_fin hkeeps, ExactFloat.fin_sub_fin]
  rw [(settlePass_totals_exact hexact h).2, awaitsBudget_eq h, htotal, ExactFloat.sum_eq_fin hleft,
    ExactFloat.fin.injEq]
  unfold keepers
  rw [sub_eq_iff_eq_add', ← hexchange, left_eq_add]
  apply Iff.intro
  · intro hzero pair hpair hdisabled hkept
    have hmem : pair ∈ bindings.entries.filter (fun pair ↦
        keepsPower input status total (enabledWeight input.round input.currSeverity bindings.entries)
          pair && !countsWeight input.currSeverity pair) := by
      rw [List.mem_filter, hkept, countsWeight, hdisabled]
      exact ⟨hpair, rfl⟩
    have hvalue : (weightAt input.currSeverity pair).value = 0 :=
      List.all_zero_of_le_zero_le_of_sum_eq_zero
        (fun weight hweight ↦ by
          obtain ⟨pair', hpair'⟩ := List.mem_map.mp hweight
          rw [← hpair'.2]
          exact hlost pair' hpair'.1) hzero (List.mem_map_of_mem hmem)
    rw [(hweights.finite hpair (weight_of_keepsPower hexact hkept)).1, hvalue]
    rfl
  · intro hnone
    apply List.sum_eq_zero
    intro weight hweight
    obtain ⟨pair, hpair⟩ := List.mem_map.mp hweight
    have hmem := List.mem_filter.mp hpair.1
    have hboth := Bool.and_eq_true _ _ ▸ hmem.2
    have henters : entersPasses input.currSeverity pair = true := by
      have hkept := hboth.1
      rw [keepsPower, Bool.and_assoc, Bool.and_eq_true] at hkept
      exact hkept.1
    have hdisabled : pair.2.enabled = false := by
      have hout := (Bool.not_eq_true' _).mp hboth.2
      rw [countsWeight, henters, Bool.and_true] at hout
      exact hout
    rw [← hpair.2, hnone pair hmem.1 hdisabled hboth.1]
    rfl

/-- All along the second pass the totals are accounted for if and only if no device that is switched
off and has a weight keeps its power. -/
theorem totals_accounted_iff (hexact : input.round = id)
    (hweights : RegularWeights input.currSeverity bindings.entries)
    (hfirst : iterate (checkLowPowerDevice input status) bindings.entries
      (initialAllocation input status bindings total) = .ok (.next s)) :
    (∀ before rest flow, bindings.entries = before ++ rest →
      iterate (allocateDevice input votes status) before (settlePass input.round s) = .ok flow →
        TotalsAccounted input bindings total flow.state) ↔
      NoWeightLost input status bindings total := by
  have hmarks := firstPass_marksKeepers hfirst
  apply Iff.intro
  · intro hall
    have hstart := hall [] bindings.entries (.next (settlePass input.round s)) rfl rfl
    exact (settlePass_weight_iff hexact hweights hmarks).mp hstart.weight
  · intro hnone before rest flow hsplit hflow
    apply TotalsAccounted.of_sameTotals
      ((secondPass_sameTotals before (settlePass input.round s)).of_ok hflow)
    have hweight := (settlePass_weight_iff hexact hweights hmarks).mpr hnone
    apply TotalsAccounted.mk hweight
    · rw [markedInFirstPass_eq hmarks]
      exact (settlePass_totals_exact hexact hmarks).1
    · rintro ⟨pair, hpair, hawaits, hpositive⟩ hzero
      have hfinite : ∀ pair ∈ bindings.entries.filter (awaitsBudget (settlePass input.round s)),
          weightAt input.currSeverity pair = .fin (weightAt input.currSeverity pair).value ∧
            0 ≤ (weightAt input.currSeverity pair).value := by
        intro pair' hpair'
        rw [awaitsBudget_eq hmarks] at hpair'
        have hmem := List.mem_filter.mp hpair'
        exact hweights.finite hmem.1
          (weight_of_countsWeight (Bool.and_eq_true _ _ ▸ hmem.2).1).1
      have hmem := List.mem_filter.mpr ⟨hpair, hawaits⟩
      rw [hzero, ExactFloat.sum_eq_fin fun pair' hpair' ↦ (hfinite pair' hpair').1] at hweight
      have hvalue : (weightAt input.currSeverity pair).value = 0 :=
        List.all_zero_of_le_zero_le_of_sum_eq_zero
          (fun weight hweight ↦ by
            obtain ⟨pair', hpair'⟩ := List.mem_map.mp hweight
            rw [← hpair'.2]
            exact (hfinite pair' hpair'.1).2) (ExactFloat.fin.inj hweight).symm
          (List.mem_map_of_mem hmem)
      rw [(hfinite pair hmem).1, hvalue] at hpositive
      exact ExactFloat.lt_irrefl 0 hpositive

end Totals

/-! ## A graphics processor that is switched off -/

/-- A device with the weight 1. -/
def weightedBinding (rail : String) (enabled : Bool) : BindedCdevInfo :=
  { (default : BindedCdevInfo) with
    cdevWeightForPid := fun _ ↦ 1
    powerRail := rail
    enabled := enabled }

def sharedBindings (gpuEnabled : Bool) : BindedCdevInfoMap :=
  ((∅ : BindedCdevInfoMap).insert "gpu" (weightedBinding "VDD_GPU" gpuEnabled)).insert "cpu"
    (weightedBinding "VDD_CPU" true)

/-- The processor needs 300 mW, the graphics processor 50 mW, and nothing is rounded. -/
def sharedInput : UpdateInput :=
  { linkedInput with
    powerStatusMap := ((∅ : PowerStatusMap).insert "VDD_GPU" ⟨0, [], .fin 50, true⟩).insert "VDD_CPU"
      ⟨0, [], .fin 300, true⟩
    round := id }

/-- No device is throttled. -/
def sharedStatus : ThermalThrottlingStatus :=
  { initialStatus with
    pidCdevRequestMap := ((∅ : UnorderedMap String ℤ).insert "gpu" 0).insert "cpu" 0 }

/-- The first pass over the two devices, with a budget of 200 mW. -/
def sharedFirstPass (gpuEnabled : Bool) : Checked (Flow AllocationState) :=
  iterate (checkLowPowerDevice sharedInput sharedStatus) (sharedBindings gpuEnabled).entries
    (initialAllocation sharedInput sharedStatus (sharedBindings gpuEnabled) (.fin 200))

/-- The state after a pass to the end. -/
def endOfPass : Checked (Flow AllocationState) → Option AllocationState
  | .ok (.next s) => some s
  | _ => none

theorem sharedFirstPass_ends (gpuEnabled : Bool) : ∃ s, sharedFirstPass gpuEnabled = .ok (.next s) := by
  have hends : (endOfPass (sharedFirstPass gpuEnabled)).isSome = true := by
    revert gpuEnabled
    decide +kernel
  unfold endOfPass at hends
  split at hends
  · rename_i s hpass
    exact ⟨s, hpass⟩
  · cases hends

theorem sharedBindings_regular (gpuEnabled : Bool) (currSeverity : ThrottlingSeverity) :
    RegularWeights currSeverity (sharedBindings gpuEnabled).entries := by
  intro pair hpair
  apply Or.inr
  apply Exists.intro 1
  apply And.intro zero_le_one
  rcases List.mem_cons.mp hpair with hcpu | hgpu
  · rw [hcpu]
    rfl
  · rw [List.mem_singleton.mp hgpu]
    rfl

/-- With both devices switched on, the total weight is that of the processor. -/
theorem sharedBindings_accounted : ∃ s, sharedFirstPass true = .ok (.next s) ∧
    ∀ before rest flow, (sharedBindings true).entries = before ++ rest →
      iterate (allocateDevice sharedInput ∅ sharedStatus) before (settlePass id s) = .ok flow →
        TotalsAccounted sharedInput (sharedBindings true) (.fin 200) flow.state := by
  obtain ⟨s, hs⟩ := sharedFirstPass_ends true
  apply Exists.intro s
  apply And.intro hs
  apply (totals_accounted_iff rfl (sharedBindings_regular true _) hs).mpr
  intro pair hpair hdisabled _
  rcases List.mem_cons.mp hpair with hcpu | hgpu
  · rw [hcpu] at hdisabled
    cases hdisabled
  · rw [List.mem_singleton.mp hgpu] at hdisabled
    cases hdisabled

/-- With the graphics processor switched off, its weight is taken from that of the processor. -/
theorem sharedBindings_unaccounted :
    ¬ ∀ (input : UpdateInput) (votes : CdevAllRequestMap) (status : ThermalThrottlingStatus)
      (bindings : BindedCdevInfoMap) (total : ExactFloat) (s : AllocationState),
      input.round = id → RegularWeights input.currSeverity bindings.entries →
        iterate (checkLowPowerDevice input status) bindings.entries
          (initialAllocation input status bindings total) = .ok (.next s) →
          ∀ before rest flow, bindings.entries = before ++ rest →
            iterate (allocateDevice input votes status) before (settlePass input.round s) = .ok flow →
              TotalsAccounted input bindings total flow.state := by
  intro haccounted
  obtain ⟨s, hs⟩ := sharedFirstPass_ends false
  have hstart := haccounted sharedInput ∅ sharedStatus (sharedBindings false) (.fin 200) s rfl
    (sharedBindings_regular false _) hs [] _ (.next (settlePass id s)) rfl rfl
  have hnone := (settlePass_weight_iff rfl (sharedBindings_regular false _)
    (firstPass_marksKeepers hs)).mp hstart.weight
  have hzero := hnone ⟨"gpu", weightedBinding "VDD_GPU" false⟩
    (List.mem_cons_of_mem _ List.mem_cons_self) rfl (by decide +kernel)
  exact absurd hzero (by decide)

end HardwareMediatek.Thermal
