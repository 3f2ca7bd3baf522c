import HardwareMediatek.Thermal.GrantedPower
import HardwareMediatek.Thermal.WeightAccounting

/-!
# The rounds of the second pass

The second pass knows the power of every device, or it has no valid power data at all. In the first
case it distributes what the devices that keep their power leave of the totals; in the second one it
distributes the totals that the first pass started from.
-/

namespace HardwareMediatek.Thermal

/-- The power of every device that enters the passes is known, and none throttles with its power
link. -/
def AllPowered (input : UpdateInput) (bindings : BindedCdevInfoMap) : Prop :=
  ∀ pair ∈ bindings.entries, entersPasses input.currSeverity pair = true →
    HasPower input.powerStatusMap pair.2

/-- What the keepers leave of the budget. -/
def leftBudget (input : UpdateInput) (status : ThermalThrottlingStatus) (bindings : BindedCdevInfoMap)
    (total : ExactFloat) : ExactFloat :=
  input.round (total - roundedSum input.round
    ((keepers input status bindings total bindings.entries).map
      fun pair ↦ railPower input.powerStatusMap pair.2))

/-- What they leave of the weight. -/
def leftWeight (input : UpdateInput) (status : ThermalThrottlingStatus) (bindings : BindedCdevInfoMap)
    (total : ExactFloat) : ExactFloat :=
  input.round (enabledWeight input.round input.currSeverity bindings.entries -
    roundedSum input.round
      ((keepers input status bindings total bindings.entries).map (weightAt input.currSeverity)))

/-- The difference between the share of a device in what is left and its power. -/
def leftAdjustment (input : UpdateInput) (status : ThermalThrottlingStatus)
    (bindings : BindedCdevInfoMap) (total : ExactFloat) (pair : BindedCdevEntry) : ExactFloat :=
  input.round
    (input.round (leftBudget input status bindings total *
      input.round (weightAt input.currSeverity pair / leftWeight input status bindings total)) -
    railPower input.powerStatusMap pair.2)

/-- A first pass that was left at a device without a power. -/
structure StoppedFirstPass (input : UpdateInput) (bindings : BindedCdevInfoMap) (total : ExactFloat)
    (s : AllocationState) : Prop where
  budget : s.totalPowerBudget = total
  weight : s.totalWeight = enabledWeight input.round input.currSeverity bindings.entries
  invalid : s.powerDataInvalid = true
  marked : ∀ pair ∈ bindings.entries, weightless input.currSeverity pair.2 = true →
    pair.1 ∈ s.allocatedCdev
  unpowered : ¬ AllPowered input bindings

section Rounds

variable {input : UpdateInput} {votes : CdevAllRequestMap} {status : ThermalThrottlingStatus}
  {bindings : BindedCdevInfoMap} {total : ExactFloat}
  {pair : BindedCdevEntry} {s s' : AllocationState}

/-- While the power data are valid, a pass is left at a device without a power. -/
theorem getPowerData_stop {powerStatusMap : PowerStatusMap} {binding : BindedCdevInfo}
    (hvalid : s.powerDataInvalid = false)
    (hstop : getPowerData powerStatusMap binding s = .ok (.stop s')) :
    ¬ HasPower powerStatusMap binding ∧
      s' = { s with
        powerDataInvalid := true
        lastUpdatedAvgPower := s'.lastUpdatedAvgPower } := by
  unfold getPowerData at hstop
  rw [hvalid, if_neg Bool.false_ne_true] at hstop
  by_cases hrail : binding.powerRail = ""
  · rw [if_neg (not_not.mpr hrail)] at hstop
    rw [← Flow.stop.inj (Except.ok.inj hstop)]
    exact ⟨fun hpower ↦ hpower.railed hrail, rfl⟩
  · rw [if_pos hrail] at hstop
    obtain ⟨power, hpower, hround⟩ := bind_eq_ok.mp hstop
    have hread : railPower powerStatusMap binding = power.lastUpdatedAvgPower := by
      rw [railPower, atKey_eq_ok.mp hpower]
      rfl
    dsimp only at hround
    by_cases hnan : power.lastUpdatedAvgPower.isNaN = true
    · rw [if_pos hnan] at hround
      rw [← Flow.stop.inj (Except.ok.inj hround)]
      refine ⟨?_, rfl⟩
      intro hhas
      rw [← hread, hhas.known] at hnan
      cases hnan
    · rw [if_neg hnan] at hround
      split at hround
      · cases hround
      · cases hround

/-- The first pass is left at a device that enters the passes without a power. -/
theorem MarksKeepers.stops {rest : List BindedCdevEntry}
    (h : MarksKeepers input status bindings total (pair :: rest) s)
    (hstop : checkLowPowerDevice input status pair s = .ok (.stop s')) :
    StoppedFirstPass input bindings total s' := by
  obtain ⟨before, hsplit, -, hmarked, -⟩ := h.passed
  have hpair : pair ∈ bindings.entries := by
    rw [hsplit]
    exact List.mem_append_cons_self
  unfold checkLowPowerDevice at hstop
  dsimp only at hstop
  by_cases hskipped : pair.1 ∈ s.allocatedCdev
  · rw [if_pos hskipped] at hstop
    cases hstop
  · rw [if_neg hskipped] at hstop
    have henters : entersPasses input.currSeverity pair = true := by
      rw [entersPasses, Bool.not_eq_true']
      exact Bool.eq_false_of_not_eq_true fun hweightless ↦ hskipped (h.skips_iff.mpr hweightless)
    obtain ⟨flow, hflow, hround⟩ := bind_eq_ok.mp hstop
    cases flow with
    | giveUp s₁ => cases hround
    | next s₁ =>
      dsimp only at hround
      split at hround
      · obtain ⟨request, -, hround⟩ := bind_eq_ok.mp hround
        split at hround <;> cases hround
      · cases hround
    | stop s₁ =>
      rw [← Flow.stop.inj (Except.ok.inj hround)]
      have hend := getPowerData_stop h.valid hflow
      rw [hend.2]
      refine ⟨h.budget, h.weight, rfl, ?_, fun hpowered ↦ hend.1 (hpowered pair hpair henters)⟩
      intro pair' hpair' hweightless
      exact (hmarked pair'.1).mpr (Or.inl ⟨pair', hpair', rfl, hweightless⟩)

theorem firstPass_stopped
    (hfirst : iterate (checkLowPowerDevice input status) bindings.entries
      (initialAllocation input status bindings total) = .ok (.stop s)) :
    StoppedFirstPass input bindings total s := by
  have hloop : Meets (iterate (checkLowPowerDevice input status) bindings.entries
      (initialAllocation input status bindings total))
      (Flow.Ends (MarksKeepers input status bindings total [])
        (StoppedFirstPass input bindings total) fun _ ↦ True) fun _ ↦ True := by
    apply meets_iterate_rest (J := MarksKeepers input status bindings total) _ MarksKeepers.start
    intro pair rest s₁ hs₁
    apply (meets_self (checkLowPowerDevice input status pair s₁)).imp
    intro flow hflow
    cases flow with
    | next s₂ => exact hs₁.round.of_ok hflow
    | stop s₂ => exact hs₁.stops hflow
    | giveUp s₂ => trivial
  exact hloop.of_ok hfirst

/-- A state of the second pass with valid power data: what is left is distributed to the devices that
do not keep their power. -/
structure KnownPower (input : UpdateInput) (status : ThermalThrottlingStatus)
    (bindings : BindedCdevInfoMap) (total : ExactFloat) (s : AllocationState) : Prop where
  marks : ∃ s₁, MarksKeepers input status bindings total [] s₁
  powered : AllPowered input bindings
  valid : s.powerDataInvalid = false
  budget : s.totalPowerBudget = leftBudget input status bindings total
  weight : s.totalWeight = leftWeight input status bindings total
  unmarked : ∀ pair ∈ bindings.entries, pair.1 ∉ s.allocatedCdev →
    entersPasses input.currSeverity pair = true ∧
      keepsPower input status total
        (enabledWeight input.round input.currSeverity bindings.entries) pair = false

/-- A state of the second pass without: the whole budget is distributed. -/
structure UnknownPower (input : UpdateInput) (bindings : BindedCdevInfoMap) (total : ExactFloat)
    (s : AllocationState) : Prop where
  unpowered : ¬ AllPowered input bindings
  invalid : s.powerDataInvalid = true
  budget : s.totalPowerBudget = total
  weight : s.totalWeight = enabledWeight input.round input.currSeverity bindings.entries
  unmarked : ∀ pair ∈ bindings.entries, pair.1 ∉ s.allocatedCdev →
    entersPasses input.currSeverity pair = true

theorem entersPasses_of_not_weightless {currSeverity : ThrottlingSeverity}
    (hweight : ¬ weightless currSeverity pair.2 = true) : entersPasses currSeverity pair = true := by
  rw [entersPasses, Bool.eq_false_of_not_eq_true hweight]
  rfl

theorem EntersSecondPass.known_or_unknown {start : AllocationState}
    (h : EntersSecondPass input status bindings total start) :
    KnownPower input status bindings total start ∨ UnknownPower input bindings total start := by
  obtain ⟨s₁, hstart, hnext | hstop⟩ := h
  · apply Or.inl
    have hmarks := firstPass_marksKeepers hnext
    have htotals := settlePass_totals hmarks
    rw [hstart]
    apply KnownPower.mk ⟨s₁, hmarks⟩
    · obtain ⟨before, hsplit, hpowered, -⟩ := hmarks.passed
      rw [List.append_nil] at hsplit
      rw [← hsplit] at hpowered
      exact hpowered
    · rw [settlePass, hmarks.valid]
      rfl
    · exact htotals.1
    · exact htotals.2.1
    · intro pair hpair hunmarked
      rw [htotals.2.2, hmarks.mem_iff hpair, not_or] at hunmarked
      exact ⟨entersPasses_of_not_weightless hunmarked.1, Bool.eq_false_of_not_eq_true hunmarked.2⟩
  · apply Or.inr
    have hstopped := firstPass_stopped hstop
    have hsettled : settlePass input.round s₁ = { s₁ with allocatedPower := 0, allocatedWeight := 0 } := by
      have hinvalid : ¬ (!s₁.powerDataInvalid) = true := by
        rw [hstopped.invalid]
        exact Bool.false_ne_true
      rw [settlePass, if_neg hinvalid]
    rw [hstart, hsettled]
    refine ⟨hstopped.unpowered, hstopped.invalid, hstopped.budget, hstopped.weight, ?_⟩
    intro pair hpair hunmarked
    apply entersPasses_of_not_weightless
    exact fun hweightless ↦ hunmarked (hstopped.marked pair hpair hweightless)

theorem KnownPower.of_sameTotals (h : KnownPower input status bindings total s)
    (hsame : SameTotals s s') (hvalid : s'.powerDataInvalid = false) :
    KnownPower input status bindings total s' := by
  refine ⟨h.marks, h.powered, hvalid, hsame.budget.trans h.budget, hsame.weight.trans h.weight, ?_⟩
  rw [hsame.marked]
  exact h.unmarked

theorem UnknownPower.of_sameTotals (h : UnknownPower input bindings total s)
    (hsame : SameTotals s s') (hinvalid : s'.powerDataInvalid = true) :
    UnknownPower input bindings total s' := by
  refine ⟨h.unpowered, hinvalid, hsame.budget.trans h.budget, hsame.weight.trans h.weight, ?_⟩
  rw [hsame.marked]
  exact h.unmarked

/-- Reading a power does not make the power data valid or invalid, unless the pass is left. -/
theorem getPowerData_validity {powerStatusMap : PowerStatusMap} {binding : BindedCdevInfo}
    (hnext : getPowerData powerStatusMap binding s = .ok (.next s')) :
    s'.powerDataInvalid = s.powerDataInvalid := by
  cases hvalid : s.powerDataInvalid with
  | false =>
    rw [(getPowerData_next hvalid hnext).2]
    exact hvalid
  | true =>
    rw [getPowerData, hvalid, if_pos rfl] at hnext
    rw [← Flow.next.inj (Except.ok.inj hnext)]
    exact hvalid

theorem allocateDevice_validity
    (hnext : allocateDevice input votes status pair s = .ok (.next s')) :
    s'.powerDataInvalid = s.powerDataInvalid := by
  unfold allocateDevice at hnext
  split at hnext
  · rw [← Flow.next.inj (Except.ok.inj hnext)]
  · obtain ⟨flow, hflow, hround⟩ := bind_eq_ok.mp hnext
    cases flow with
    | stop s₁ => cases hround
    | giveUp s₁ => cases hround
    | next s₁ =>
      have hread := getPowerData_validity hflow
      obtain ⟨cdevInfo, -, hround⟩ := bind_eq_ok.mp hround
      obtain ⟨atMax, -, hround⟩ := bind_eq_ok.mp hround
      split at hround
      · rw [← Flow.next.inj (Except.ok.inj hround)]
        exact hread
      · rw [deviceBudget_eq] at hround
        obtain ⟨granted, -, hround⟩ := bind_eq_ok.mp hround
        cases granted with
        | none => cases hround
        | some power =>
          obtain ⟨stored, -, hround⟩ := bind_eq_ok.mp hround
          rw [← Flow.next.inj (Except.ok.inj hround)]
          exact hread

/-- The validity lasts through the rounds that do not leave the pass. -/
theorem secondPass_validity {pairs : List BindedCdevEntry}
    (hnext : iterate (allocateDevice input votes status) pairs s = .ok (.next s')) :
    s'.powerDataInvalid = s.powerDataInvalid := by
  have hrounds : ∀ (pair : BindedCdevEntry)
      (_ : List BindedCdevEntry) (s₁ : AllocationState),
      s₁.powerDataInvalid = s.powerDataInvalid →
        Meets (allocateDevice input votes status pair s₁)
          (Flow.Ends (fun s₂ ↦ s₂.powerDataInvalid = s.powerDataInvalid) (fun _ ↦ True) fun _ ↦ True)
          fun _ ↦ True := by
    intro pair _ s₁ hs₁
    apply (meets_self (allocateDevice input votes status pair s₁)).imp
    intro flow hflow
    cases flow with
    | next s₂ => exact (allocateDevice_validity hflow).trans hs₁
    | stop s₂ => trivial
    | giveUp s₂ => trivial
  exact (meets_iterate_rest (J := fun (_ : List BindedCdevEntry)
    (s₁ : AllocationState) ↦ s₁.powerDataInvalid = s.powerDataInvalid) hrounds rfl).of_ok hnext

/-- A device whose power has been read in the second pass, with the variables after that. -/
structure SecondRound (input : UpdateInput) (votes : CdevAllRequestMap)
    (status : ThermalThrottlingStatus) (bindings : BindedCdevInfoMap) (total : ExactFloat)
    (pair : BindedCdevEntry) (s : AllocationState) : Prop where
  reached : ∃ start before rest s', EntersSecondPass input status bindings total start ∧
    bindings.entries = before ++ pair :: rest ∧
    iterate (allocateDevice input votes status) before start = .ok (.next s') ∧
    pair.1 ∉ s'.allocatedCdev ∧ getPowerData input.powerStatusMap pair.2 s' = .ok (.next s)

theorem GrantRound.second {cdevInfo : CdevInfo} {granted : ExactFloat}
    (h : GrantRound input votes status bindings total pair cdevInfo s granted) :
    SecondRound input votes status bindings total pair s := ⟨h.reached⟩

theorem SecondRound.mem (h : SecondRound input votes status bindings total pair s) :
    pair ∈ bindings.entries := by
  obtain ⟨start, before, rest, s₁, -, hsplit, -⟩ := h.reached
  rw [hsplit]
  exact List.mem_append_cons_self

/-- In a round with valid power data the device does not keep its power, which has been read. -/
theorem SecondRound.known (h : SecondRound input votes status bindings total pair s)
    (hvalid : s.powerDataInvalid = false) :
    KnownPower input status bindings total s ∧ pair.1 ∉ s.allocatedCdev ∧
      HasPower input.powerStatusMap pair.2 ∧
      s.lastUpdatedAvgPower = railPower input.powerStatusMap pair.2 := by
  obtain ⟨start, before, rest, s₁, henters, -, hbefore, hunmarked, hread⟩ := h.reached
  have hvalid₁ : s₁.powerDataInvalid = false := (getPowerData_validity hread).symm.trans hvalid
  have hvalidStart := (secondPass_validity hbefore).symm.trans hvalid₁
  have hsame := ((secondPass_sameTotals before start).of_ok hbefore).trans
    ((getPowerData_sameTotals _ _ s₁).of_ok hread)
  have hknown := henters.known_or_unknown.resolve_right fun hunknown ↦ by
    rw [hunknown.invalid] at hvalidStart
    cases hvalidStart
  have hnext := getPowerData_next hvalid₁ hread
  refine ⟨hknown.of_sameTotals hsame hvalid, ?_, hnext.1, ?_⟩
  · rw [hnext.2]
    exact hunmarked
  · rw [hnext.2]

theorem SecondRound.unknown (h : SecondRound input votes status bindings total pair s)
    (hinvalid : s.powerDataInvalid = true) :
    UnknownPower input bindings total s ∧ pair.1 ∉ s.allocatedCdev := by
  obtain ⟨start, before, rest, s₁, henters, -, hbefore, hunmarked, hread⟩ := h.reached
  have hinvalid₁ : s₁.powerDataInvalid = true := (getPowerData_validity hread).symm.trans hinvalid
  have hinvalidStart := (secondPass_validity hbefore).symm.trans hinvalid₁
  have hreadSame := (getPowerData_sameTotals _ _ s₁).of_ok hread
  have hsame := ((secondPass_sameTotals before start).of_ok hbefore).trans hreadSame
  have hunknown := henters.known_or_unknown.resolve_left fun hknown ↦ by
    rw [hknown.valid] at hinvalidStart
    cases hinvalidStart
  refine ⟨hunknown.of_sameTotals hsame hinvalid, ?_⟩
  have hmarked : s.allocatedCdev = s₁.allocatedCdev := hreadSame.marked
  rw [hmarked]
  exact hunmarked

/-- The adjustment of a round with valid power data is the one by what is left. -/
theorem SecondRound.adjustment (h : SecondRound input votes status bindings total pair s)
    (hvalid : s.powerDataInvalid = false) :
    powerAdjustment input pair s = leftAdjustment input status bindings total pair := by
  have hknown := h.known hvalid
  rw [powerAdjustment, AllocationState.share, hknown.1.budget, hknown.1.weight, hknown.2.2.2]
  rfl

/-! ## What is stored -/

/-- A budget that was stored before, or that the second pass has granted. -/
def StoredFrom (input : UpdateInput) (votes : CdevAllRequestMap) (status : ThermalThrottlingStatus)
    (bindings : BindedCdevInfoMap) (total : ExactFloat) (cdev : String) (budget : ℤ) : Prop :=
  status.pidPowerBudgetMap.lookup cdev = some budget ∨ ∃ pair cdevInfo s granted, pair.1 = cdev ∧
    GrantRound input votes status bindings total pair cdevInfo s granted ∧ budget = toInt granted

theorem getPowerData_sameBudgets {powerStatusMap : PowerStatusMap} {binding : BindedCdevInfo}
    {flow : Flow AllocationState} (hread : getPowerData powerStatusMap binding s = .ok flow) :
    flow.state.pidPowerBudgetMap = s.pidPowerBudgetMap :=
  (getPowerData_budgets _ _ s).of_ok hread

/-- A round stores nothing but what it grants. -/
theorem allocateDevice_stored {start : AllocationState}
    {before rest : List BindedCdevEntry} {flow : Flow AllocationState}
    (henters : EntersSecondPass input status bindings total start)
    (hsplit : bindings.entries = before ++ pair :: rest)
    (hbefore : iterate (allocateDevice input votes status) before start = .ok (.next s))
    (hstored : ∀ cdev budget, s.pidPowerBudgetMap.lookup cdev = some budget →
      StoredFrom input votes status bindings total cdev budget)
    (hround : allocateDevice input votes status pair s = .ok flow) :
    ∀ cdev budget, flow.state.pidPowerBudgetMap.lookup cdev = some budget →
      StoredFrom input votes status bindings total cdev budget := by
  unfold allocateDevice at hround
  by_cases hmarked : pair.1 ∈ s.allocatedCdev
  · rw [if_pos hmarked] at hround
    rw [← Except.ok.inj hround]
    exact hstored
  · rw [if_neg hmarked] at hround
    obtain ⟨read, hread, hround⟩ := bind_eq_ok.mp hround
    have hsame := getPowerData_sameBudgets hread
    cases read with
    | stop s₁ =>
      rw [← Except.ok.inj hround]
      exact hsame.symm ▸ hstored
    | giveUp s₁ =>
      rw [← Except.ok.inj hround]
      exact hsame.symm ▸ hstored
    | next s₁ =>
      have hstored₁ : ∀ cdev budget, s₁.pidPowerBudgetMap.lookup cdev = some budget →
          StoredFrom input votes status bindings total cdev budget := hsame.symm ▸ hstored
      obtain ⟨cdevInfo, hdevice, hround⟩ := bind_eq_ok.mp hround
      obtain ⟨atMax, hatMax, hround⟩ := bind_eq_ok.mp hround
      cases atMax with
      | true =>
        rw [if_pos rfl] at hround
        rw [← Except.ok.inj hround]
        exact hstored₁
      | false =>
        rw [if_neg Bool.false_ne_true, deviceBudget_eq] at hround
        obtain ⟨granted, hgranted, hround⟩ := bind_eq_ok.mp hround
        cases granted with
        | none =>
          rw [← Except.ok.inj hround]
          exact hstored₁
        | some power =>
          obtain ⟨stored, hbudgeted, hround⟩ := bind_eq_ok.mp hround
          rw [← Except.ok.inj hround]
          have hbudgetedKey := UnorderedMap.mem_of_lookup (atKey_eq_ok.mp hbudgeted)
          intro cdev budget hlookup
          by_cases hcdev : cdev = pair.1
          · rw [hcdev] at hlookup ⊢
            have hnew := (UnorderedMap.lookup_assign_of_mem (toInt power) hbudgetedKey).symm.trans
              hlookup
            apply Or.inr
            exact ⟨pair, cdevInfo, s₁, power, rfl,
              ⟨⟨start, before, rest, s, henters, hsplit, hbefore, hmarked, hread⟩,
                atKey_eq_ok.mp hdevice, hatMax, hbudgetedKey, hgranted⟩,
              (Option.some.inj hnew).symm⟩
          · apply hstored₁
            rw [← UnorderedMap.lookup_assign_ne _ _ hcdev]
            exact hlookup

/-- The allocation stores nothing but what the second pass grants. -/
theorem allocatePasses_stored {budgets : UnorderedMap String ℤ} {allocated : Bool}
    (hpasses : allocatePasses input votes status bindings total = .ok (budgets, allocated)) :
    ∀ cdev budget, budgets.lookup cdev = some budget →
      StoredFrom input votes status bindings total cdev budget := by
  have hpass : ∀ start, EntersSecondPass input status bindings total start →
      start.pidPowerBudgetMap = status.pidPowerBudgetMap →
      allocatePass input votes status bindings start = .ok (budgets, allocated) →
      ∀ cdev budget, budgets.lookup cdev = some budget →
        StoredFrom input votes status bindings total cdev budget := by
    intro start henters hsame hresult
    let Stored : AllocationState → Prop := fun s₁ ↦ ∀ cdev budget,
      s₁.pidPowerBudgetMap.lookup cdev = some budget →
        StoredFrom input votes status bindings total cdev budget
    have hloop : Meets (iterate (allocateDevice input votes status) bindings.entries start)
        (Flow.Ends (fun s₁ ↦ ∃ before, bindings.entries = before ++ [] ∧
          iterate (allocateDevice input votes status) before start = .ok (.next s₁) ∧ Stored s₁)
          Stored Stored) fun _ ↦ True := by
      apply meets_iterate_rest (J := fun rest s₁ ↦ ∃ before, bindings.entries = before ++ rest ∧
        iterate (allocateDevice input votes status) before start = .ok (.next s₁) ∧ Stored s₁)
      · rintro pair rest s₁ ⟨before, hsplit, hbefore, hstored⟩
        apply (meets_self (allocateDevice input votes status pair s₁)).imp
        intro flow hflow
        have hround := allocateDevice_stored henters hsplit hbefore hstored hflow
        cases flow with
        | stop s₂ => exact hround
        | giveUp s₂ => exact hround
        | next s₂ =>
          refine ⟨before ++ [pair], ?_, ?_, hround⟩
          · rw [hsplit, List.append_assoc, List.singleton_append]
          · rw [iterate_append, hbefore]
            change iterate (allocateDevice input votes status) [pair] s₁ = _
            rw [iterate, hflow]
            rfl
      · exact ⟨[], rfl, rfl, fun cdev budget hlookup ↦ Or.inl (hsame ▸ hlookup)⟩
    unfold allocatePass at hresult
    obtain ⟨flow, hflow, hresult⟩ := bind_eq_ok.mp hresult
    have hends := hloop.of_ok hflow
    cases flow with
    | next s₁ =>
      rw [← (ok_pair hresult).1]
      apply Exists.elim hends
      exact fun before hbefore ↦ hbefore.2.2
    | stop s₁ =>
      rw [← (ok_pair hresult).1]
      exact hends
    | giveUp s₁ =>
      rw [← (ok_pair hresult).1]
      exact hends
  unfold allocatePasses at hpasses
  obtain ⟨flow, hfirst, hresult⟩ := bind_eq_ok.mp hpasses
  have hsame : flow.state.pidPowerBudgetMap = status.pidPowerBudgetMap :=
    (firstPass_budgets _ _).of_ok hfirst
  cases flow with
  | giveUp s₁ =>
    rw [← (ok_pair hresult).1]
    intro cdev budget hlookup
    exact Or.inl (hsame ▸ hlookup)
  | next s₁ =>
    exact hpass _ ⟨s₁, rfl, Or.inl hfirst⟩ ((settlePass_budgets input.round s₁).trans hsame) hresult
  | stop s₁ =>
    exact hpass _ ⟨s₁, rfl, Or.inr hfirst⟩ ((settlePass_budgets input.round s₁).trans hsame) hresult

end Rounds

end HardwareMediatek.Thermal
